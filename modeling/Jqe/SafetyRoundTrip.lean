import Jqe.SafetyStore
/-!
# SafetyRoundTrip — what comes back of an observation

Every column decodes to what was put in; the codes do unless one has the separator in it, as no part of a split has.
-/
namespace Jqe

open AwareTime List

/-- The same observation: the moment may be told in another zone. -/
def SafetyFields.Same [TimeZones] (f g : SafetyFields) : Prop :=
  f.observedAt.instant = g.observedAt.instant ∧ { f with observedAt := g.observedAt } = g

def RiskFields.Same [TimeZones] (f g : RiskFields) : Prop :=
  f.observedAt.instant = g.observedAt.instant ∧ { f with observedAt := g.observedAt } = g

theorem sqliteInteger_ok {n m : ℤ} : sqliteInteger n = .ok m ↔ m = n ∧ -2 ^ 63 ≤ n ∧ n < 2 ^ 63 := by
  unfold sqliteInteger
  by_cases hrange : -2 ^ 63 ≤ n ∧ n < 2 ^ 63
  · rw [if_pos hrange]
    exact ⟨fun h => ⟨(Except.ok.inj h).symm, hrange⟩, fun h => congrArg Except.ok h.1.symm⟩
  · rw [if_neg hrange]
    exact ⟨fun h => (by cases h), fun h => absurd h.2 hrange⟩

theorem sqliteInteger_mapM {n : Option ℤ} (hn : ∀ x ∈ n, 0 ≤ x) {m : Option ℤ} :
    n.mapM sqliteInteger = .ok m ↔ m = n ∧ ∀ x ∈ n, x < 2 ^ 63 := by
  cases n with
  | none =>
    simp only [Option.mapM_none]
    exact ⟨fun h => ⟨(Except.ok.inj h).symm, fun _ hx => by cases hx⟩, fun h => congrArg Except.ok h.1.symm⟩
  | some n =>
    have hpos := hn n rfl
    rw [Option.mapM_some]
    cases hint : sqliteInteger n with
    | error e =>
      refine ⟨fun h => (by cases h), fun h => ?_⟩
      have hok := sqliteInteger_ok.2 ⟨rfl, by omega, h.2 n rfl⟩
      rw [hint] at hok
      cases hok
    | ok k =>
      obtain ⟨rfl, -, hlt⟩ := sqliteInteger_ok.1 hint
      constructor
      · intro h
        cases h
        exact ⟨rfl, fun x hx => by cases hx; exact hlt⟩
      · rintro ⟨rfl, -⟩
        rfl

theorem utcText_ok [TimeZones] {d utc : AwareDatetime} (h : utcText d = .ok utc) :
    d.InRange ∧ utc.instant = d.instant := by
  unfold utcText at h
  cases hutc : d.toUtc with
  | none =>
    rw [hutc] at h
    cases h
  | some u =>
    rw [hutc] at h
    cases h
    obtain ⟨hzone, hwall⟩ := AwareDatetime.toUtc_some hutc
    exact ⟨AwareDatetime.inRange_of_toUtc hutc, (AwareDatetime.instant_of_utc hzone).trans hwall⟩

theorem exists_utcText [TimeZones] {d : AwareDatetime} (h : d.InRange) : ∃ utc, utcText d = .ok utc := by
  obtain ⟨utc, hutc⟩ := AwareDatetime.exists_toUtc h
  exact ⟨utc, by rw [utcText, hutc]⟩

theorem sqliteReal_of_finite {x : Option PyFloat} (h : ∀ v ∈ x, v.isFinite ≠ false) : sqliteReal x = x := by
  unfold sqliteReal
  rw [if_neg]
  rintro rfl
  exact h .nan rfl rfl

@[simp] theorem flagInteger_ne_zero (flag : Bool) : decide (flagInteger flag ≠ 0) = flag := by
  cases flag <;> rfl

@[simp] theorem ofText_emergencyStop (s : EmergencyStopState) : EmergencyStopState.ofText s.value = .ok s := by
  cases s <;> rfl

@[simp] theorem ofText_executionMode (s : DurableExecutionMode) : DurableExecutionMode.ofText s.value = .ok s := by
  cases s
  rfl

@[simp] theorem ofText_dailyState (s : DailyStateAuthority) : DailyStateAuthority.ofText s.value = .ok s := by
  cases s <;> rfl

@[simp] theorem ofText_authorization (s : ExecutionAuthorization) : ExecutionAuthorization.ofText s.value = .ok s := by
  cases s <;> rfl

theorem checkedFields_ok {F : Type} {problem : F → Option String} {f : F} {s : { f : F // problem f = none }} :
    checkedFields problem f = .ok s ↔ s.val = f := by
  unfold checkedFields
  split
  · exact ⟨fun h => by cases h; rfl, fun h => congrArg Except.ok (Subtype.ext h.symm)⟩
  · rename_i message hproblem
    refine ⟨fun h => (by cases h), fun h => ?_⟩
    rw [← h, s.property] at hproblem
    cases hproblem

/-! ### The joined codes -/

theorem not_mem_of_mem_splitOn {α : Type} [BEq α] [LawfulBEq α] {a : α} : ∀ {l part : List α},
    part ∈ l.splitOn a → a ∉ part
  | [], part, h => by
    rw [splitOn_nil, mem_singleton] at h
    rw [h]
    exact not_mem_nil
  | x :: l, part, h => by
    rw [splitOn_cons_eq_if_modifyHead] at h
    split at h
    · rcases mem_cons.1 h with rfl | h
      · exact not_mem_nil
      · exact not_mem_of_mem_splitOn h
    · rename_i hx
      obtain ⟨head, rest, hsplit⟩ := exists_cons_of_ne_nil (splitOn_ne_nil a l)
      rw [hsplit, modifyHead_cons] at h
      rcases mem_cons.1 h with rfl | h
      · have hhead : a ∉ head := not_mem_of_mem_splitOn (hsplit ▸ mem_cons_self)
        intro ha
        rcases mem_cons.1 ha with rfl | ha
        · exact hx (beq_self_eq_true _)
        · exact hhead ha
      · exact not_mem_of_mem_splitOn (hsplit ▸ mem_cons_of_mem _ h)

theorem not_mem_of_mem_splitLines {text part : String} (h : part ∈ splitLines text) : '\n' ∉ part.toList := by
  obtain ⟨chars, hchars, rfl⟩ := mem_map.1 h
  rw [String.toList_ofList]
  exact not_mem_of_mem_splitOn hchars

theorem splitLines_joinLines {lines : List String} (hlines : ∀ l ∈ lines, '\n' ∉ l.toList) (hne : lines ≠ []) :
    splitLines (joinLines lines) = lines := by
  unfold splitLines joinLines
  rw [String.toList_ofList, splitOn_intercalate '\n' (fun l hl => ?_) (by simpa using hne), map_map]
  · have hid : String.ofList ∘ String.toList = id := funext fun s => String.ofList_toList
    rw [hid, map_id]
  · obtain ⟨s, hs, rfl⟩ := mem_map.1 hl
    exact hlines s hs

/-- **Nonblank codes come back exactly where none has a line break.** -/
theorem codes_iff {codes : List String} (hcodes : ∀ c ∈ codes, blank c = false) :
    (splitLines (joinLines codes)).filter (· ≠ "") = codes ↔ ∀ c ∈ codes, '\n' ∉ c.toList := by
  constructor
  · intro h c hc
    rw [← h] at hc
    exact not_mem_of_mem_splitLines (mem_filter.1 hc).1
  · intro h
    by_cases hnil : codes = []
    · rw [hnil]
      decide
    · rw [splitLines_joinLines h hnil, filter_eq_self]
      intro c hc
      refine decide_eq_true fun hempty => ?_
      have hblank := hcodes c hc
      rw [hempty] at hblank
      cases hblank

theorem check_none {p : Prop} [Decidable p] {message : String} {rest : Option String}
    (h : (if p then some message else rest) = none) : ¬p ∧ rest = none := by
  by_cases hp : p
  · rw [if_pos hp] at h
    cases h
  · rw [if_neg hp] at h
    exact ⟨hp, h⟩

/-! ### Safety -/

def publishedSafety (s : SafetyFields) (utc : AwareDatetime) : SafetyRow where
  schemaVersion := s.schemaVersion
  observedAt := utc
  emergencyStopState := s.emergencyStopState.value
  executionMode := s.executionMode.value
  broker := s.broker
  environment := s.environment
  durableExecutorEnabled := flagInteger s.durableExecutorEnabled
  dailyStateAuthority := s.dailyStateAuthority.value
  unresolvedIntentCount := s.unresolvedIntentCount
  unresolvedIntentBlocked := flagInteger s.unresolvedIntentBlocked
  executionAuthorization := s.executionAuthorization.value
  reasonCodes := joinLines s.reasonCodes

theorem SafetyFields.problem_none {f : SafetyFields} (h : f.problem = none) :
    f.schemaVersion = 1 ∧ 0 ≤ f.unresolvedIntentCount ∧ ∀ c ∈ f.reasonCodes, blank c = false := by
  obtain ⟨hversion, h⟩ := check_none h
  obtain ⟨-, h⟩ := check_none h
  obtain ⟨hcount, h⟩ := check_none h
  obtain ⟨hcodes, -⟩ := check_none h
  refine ⟨not_not.1 hversion, not_lt.1 hcount, fun c hc => ?_⟩
  exact Bool.eq_false_iff.2 fun hblank => hcodes ⟨c, hc, hblank⟩

theorem SafetyStore.publish_ok [TimeZones] {store store' : SafetyStore} {s : ExecutionSafetySnapshot} :
    store.publish s = .ok store' ↔ ∃ utc, utcText s.val.observedAt = .ok utc ∧ s.val.unresolvedIntentCount < 2 ^ 63 ∧
      store' = { store with safety := some (publishedSafety s.val utc) } := by
  obtain ⟨hversion, hcount, -⟩ := SafetyFields.problem_none s.property
  have hinteger : sqliteInteger s.val.schemaVersion = .ok s.val.schemaVersion :=
    sqliteInteger_ok.2 ⟨rfl, by omega, by omega⟩
  constructor
  · intro h
    obtain ⟨utc, hutc, h⟩ := bind_ok h
    obtain ⟨version, hv, h⟩ := bind_ok h
    obtain ⟨count, hc, h⟩ := bind_ok h
    obtain ⟨rfl, -, -⟩ := sqliteInteger_ok.1 hv
    obtain ⟨rfl, -, hlt⟩ := sqliteInteger_ok.1 hc
    exact ⟨utc, hutc, hlt, (Except.ok.inj h).symm⟩
  · rintro ⟨utc, hutc, hlt, rfl⟩
    have hc : sqliteInteger s.val.unresolvedIntentCount = .ok s.val.unresolvedIntentCount :=
      sqliteInteger_ok.2 ⟨rfl, by omega, hlt⟩
    unfold SafetyStore.publish
    dsimp only
    rw [hutc, hinteger, hc]
    rfl

theorem decodeSafety_published (s : SafetyFields) (utc : AwareDatetime) :
    SafetyStore.decodeSafety (publishedSafety s utc) = checkedFields SafetyFields.problem
      { s with observedAt := utc, reasonCodes := (splitLines (joinLines s.reasonCodes)).filter (· ≠ "") } := by
  unfold SafetyStore.decodeSafety publishedSafety
  simp only [ofText_emergencyStop, ofText_executionMode, ofText_dailyState, ofText_authorization, flagInteger_ne_zero]
  rfl

/-- **A safety observation comes back exactly where its codes have no line break**, its count fits a column and its
moment has a UTC time. -/
theorem safety_survives_iff [TimeZones] (store : SafetyStore) (s : ExecutionSafetySnapshot) :
    (∃ store' s', store.publish s = .ok store' ∧ store'.read = .ok (some s') ∧ s'.val.Same s.val) ↔
      s.val.observedAt.InRange ∧ s.val.unresolvedIntentCount < 2 ^ 63 ∧ ∀ c ∈ s.val.reasonCodes, '\n' ∉ c.toList := by
  obtain ⟨-, -, hcodes⟩ := SafetyFields.problem_none s.property
  constructor
  · rintro ⟨store', s', hpublish, hread, hinstant, hsame⟩
    obtain ⟨utc, hutc, hcount, rfl⟩ := SafetyStore.publish_ok.1 hpublish
    refine ⟨(utcText_ok hutc).1, hcount, (codes_iff hcodes).1 ?_⟩
    unfold SafetyStore.read at hread
    dsimp only at hread
    rw [decodeSafety_published] at hread
    split at hread
    · rename_i snapshot hbuild
      cases hread
      rw [checkedFields_ok.1 hbuild] at hsame
      exact congrArg SafetyFields.reasonCodes hsame
    · cases hread
  · rintro ⟨hrange, hcount, hlines⟩
    obtain ⟨utc, hutc⟩ := exists_utcText hrange
    have hvalid : { s.val with observedAt := utc }.problem = none := s.property
    refine ⟨_, ⟨_, hvalid⟩, SafetyStore.publish_ok.2 ⟨utc, hutc, hcount, rfl⟩, ?_, (utcText_ok hutc).2, rfl⟩
    unfold SafetyStore.read
    dsimp only
    rw [decodeSafety_published, (codes_iff hcodes).2 hlines]
    have hbuild := (@checkedFields_ok _ SafetyFields.problem _ ⟨_, hvalid⟩).2 rfl
    rw [hbuild]

/-! ### Risk -/

def publishedRisk (s : RiskFields) (utc : AwareDatetime) : RiskRow where
  schemaVersion := s.schemaVersion
  observedAt := utc
  broker := s.broker
  environment := s.environment
  accountId := s.accountId
  evaluationState := s.evaluationState.value
  balance := s.balance
  equity := s.equity
  currency := s.currency
  maxDailyLoss := s.maxDailyLoss
  maxTradesDaily := s.maxTradesDaily
  dailyTradesCount := s.dailyTradesCount
  dailyLossPercent := s.dailyLossPercent
  riskAllowed := s.riskAllowed.map flagInteger
  riskMessage := s.riskMessage
  rejectionReason := s.rejectionReason
  authorizedRiskAmount := s.authorizedRiskAmount
  authorizedRiskPercent := s.authorizedRiskPercent
  executionQuantityAvailable := flagInteger s.executionQuantityAvailable
  executionQuantityValue := s.executionQuantityValue
  executionQuantityUnit := s.executionQuantityUnit
  executionQuantityReason := s.executionQuantityReason

theorem RiskFields.problem_none {f : RiskFields} (h : f.problem = none) :
    f.schemaVersion = 2 ∧ (∀ x ∈ f.maxTradesDaily, 0 ≤ x) ∧ (∀ x ∈ f.dailyTradesCount, 0 ≤ x) ∧
      ∀ v ∈ f.numericValues, sqliteReal v = v := by
  obtain ⟨hversion, h⟩ := check_none h
  obtain ⟨-, h⟩ := check_none h
  obtain ⟨-, h⟩ := check_none h
  obtain ⟨-, h⟩ := check_none h
  obtain ⟨hfinite, h⟩ := check_none h
  obtain ⟨hmax, h⟩ := check_none h
  obtain ⟨hdaily, -⟩ := check_none h
  refine ⟨not_not.1 hversion, fun x hx => not_lt.1 fun hlt => hmax ⟨x, hx, hlt⟩,
    fun x hx => not_lt.1 fun hlt => hdaily ⟨x, hx, hlt⟩, fun v hv => ?_⟩
  exact sqliteReal_of_finite fun x hx hnot => hfinite ⟨v, hv, x, hx, hnot⟩

theorem SafetyStore.publishRisk_ok [TimeZones] {store store' : SafetyStore} {s : RiskAuthorizationSnapshot} :
    store.publishRisk s = .ok store' ↔ ∃ utc, utcText s.val.observedAt = .ok utc ∧
      (∀ x ∈ s.val.maxTradesDaily, x < 2 ^ 63) ∧ (∀ x ∈ s.val.dailyTradesCount, x < 2 ^ 63) ∧
      store' = { store with risk := some (publishedRisk s.val utc) } := by
  obtain ⟨hversion, hmax, hdaily, hreal⟩ := RiskFields.problem_none s.property
  have hinteger : sqliteInteger s.val.schemaVersion = .ok s.val.schemaVersion :=
    sqliteInteger_ok.2 ⟨rfl, by omega, by omega⟩
  have hbalance := hreal s.val.balance (.head _)
  have hequity := hreal s.val.equity (.tail _ (.head _))
  have hloss := hreal s.val.maxDailyLoss (.tail _ (.tail _ (.head _)))
  have hpercent := hreal s.val.dailyLossPercent (.tail _ (.tail _ (.tail _ (.head _))))
  have hamount := hreal s.val.authorizedRiskAmount (.tail _ (.tail _ (.tail _ (.tail _ (.head _)))))
  have hrisk := hreal s.val.authorizedRiskPercent (.tail _ (.tail _ (.tail _ (.tail _ (.tail _ (.head _))))))
  have hquantity := hreal s.val.executionQuantityValue
    (.tail _ (.tail _ (.tail _ (.tail _ (.tail _ (.tail _ (.head _)))))))
  constructor
  · intro h
    obtain ⟨utc, hutc, h⟩ := bind_ok h
    obtain ⟨version, hv, h⟩ := bind_ok h
    obtain ⟨max, hm, h⟩ := bind_ok h
    obtain ⟨daily, hd, h⟩ := bind_ok h
    obtain ⟨rfl, -, -⟩ := sqliteInteger_ok.1 hv
    obtain ⟨rfl, hmlt⟩ := (sqliteInteger_mapM hmax).1 hm
    obtain ⟨rfl, hdlt⟩ := (sqliteInteger_mapM hdaily).1 hd
    refine ⟨utc, hutc, hmlt, hdlt, ?_⟩
    rw [hbalance, hequity, hloss, hpercent, hamount, hrisk, hquantity] at h
    exact (Except.ok.inj h).symm
  · rintro ⟨utc, hutc, hmlt, hdlt, rfl⟩
    unfold SafetyStore.publishRisk
    dsimp only
    rw [hutc, hinteger, (sqliteInteger_mapM hmax).2 ⟨rfl, hmlt⟩, (sqliteInteger_mapM hdaily).2 ⟨rfl, hdlt⟩, hbalance,
      hequity, hloss, hpercent, hamount, hrisk, hquantity]
    rfl

theorem decodeRisk_published (s : RiskFields) (utc : AwareDatetime) :
    SafetyStore.decodeRisk (publishedRisk s utc) = checkedFields RiskFields.problem { s with observedAt := utc } := by
  have hallowed : (s.riskAllowed.map flagInteger).map (fun n => decide (n ≠ 0)) = s.riskAllowed := by
    rw [Option.map_map]
    cases s.riskAllowed with
    | none => rfl
    | some flag => exact congrArg some (flagInteger_ne_zero flag)
  unfold SafetyStore.decodeRisk publishedRisk
  simp only [ofText_authorization, flagInteger_ne_zero, hallowed]
  rfl

/-- **A risk observation comes back exactly where its counts fit a column and its moment has a UTC time.** -/
theorem risk_survives_iff [TimeZones] (store : SafetyStore) (r : RiskAuthorizationSnapshot) :
    (∃ store' r', store.publishRisk r = .ok store' ∧ store'.readRisk = .ok (some r') ∧ r'.val.Same r.val) ↔
      r.val.observedAt.InRange ∧ (∀ x ∈ r.val.maxTradesDaily, x < 2 ^ 63) ∧ ∀ x ∈ r.val.dailyTradesCount, x < 2 ^ 63 := by
  constructor
  · rintro ⟨store', r', hpublish, -, -⟩
    obtain ⟨utc, hutc, hmax, hdaily, -⟩ := SafetyStore.publishRisk_ok.1 hpublish
    exact ⟨(utcText_ok hutc).1, hmax, hdaily⟩
  · rintro ⟨hrange, hmax, hdaily⟩
    obtain ⟨utc, hutc⟩ := exists_utcText hrange
    have hvalid : { r.val with observedAt := utc }.problem = none := r.property
    refine ⟨_, ⟨_, hvalid⟩, SafetyStore.publishRisk_ok.2 ⟨utc, hutc, hmax, hdaily, rfl⟩, ?_, (utcText_ok hutc).2, rfl⟩
    unfold SafetyStore.readRisk
    dsimp only
    rw [decodeRisk_published]
    have hbuild := (@checkedFields_ok _ RiskFields.problem _ ⟨_, hvalid⟩).2 rfl
    rw [hbuild]

/-- **When the observations survive the store.** -/
theorem observations_survive_iff [TimeZones] (store : SafetyStore) :
    (∀ s : ExecutionSafetySnapshot,
      (∃ store' s', store.publish s = .ok store' ∧ store'.read = .ok (some s') ∧ s'.val.Same s.val) ↔
        s.val.observedAt.InRange ∧ s.val.unresolvedIntentCount < 2 ^ 63 ∧
          ∀ c ∈ s.val.reasonCodes, '\n' ∉ c.toList) ∧
    ∀ r : RiskAuthorizationSnapshot,
      (∃ store' r', store.publishRisk r = .ok store' ∧ store'.readRisk = .ok (some r') ∧ r'.val.Same r.val) ↔
        r.val.observedAt.InRange ∧ (∀ x ∈ r.val.maxTradesDaily, x < 2 ^ 63) ∧
          ∀ x ∈ r.val.dailyTradesCount, x < 2 ^ 63 :=
  ⟨safety_survives_iff store, risk_survives_iff store⟩

def twoLineSnapshot : ExecutionSafetySnapshot where
  val :=
    { observedAt := AwareDatetime.ofUtc 0 (by decide)
      emergencyStopState := .clear
      executionMode := .durable
      broker := "weltrade"
      environment := "demo"
      durableExecutorEnabled := true
      dailyStateAuthority := .authoritative
      unresolvedIntentCount := 0
      unresolvedIntentBlocked := false
      executionAuthorization := .blocked
      reasonCodes := ["A\nB"] }
  property := by decide

/-- It comes back with two codes. -/
theorem observations_split : ¬∀ s : ExecutionSafetySnapshot, ∃ store' s',
    @SafetyStore.publish fixedZones ⟨none, none⟩ s = .ok store' ∧ store'.read = .ok (some s') ∧
      @SafetyFields.Same fixedZones s'.val s.val := by
  intro h
  have hcodes := ((@safety_survives_iff fixedZones ⟨none, none⟩ twoLineSnapshot).1 (h twoLineSnapshot)).2.2
  exact hcodes "A\nB" List.mem_cons_self (by decide)

end Jqe
