import Jqe.SequentialReplay
import Jqe.Streaks
/-!
# ReplayLookahead — what the gates of the sequential simulator know

A trade is booked when it is accepted, with the result it will have at its exit.  So the daily-loss stop and the breaker
read the results of trades that are still open.
-/
namespace Jqe

open Streaks List
open ReplayState (step enterDay recordLoss verdict gatedBy heldBy)
open Option (any_some map_some some isSome_map map_eq_some_iff isSome_iff_exists mem_def getD_some)
open Function (update update_self update_of_ne)
open ShadowOutcome (accepted_eq_some exitPrice)

section

variable [CaseMap] {settings : ReplaySettings}

def replayHistory (settings : ReplaySettings) : ReplayState → List ReplayItem → List (ReplayItem × ReplayVerdict)
  | _, [] => []
  | s, item :: items => (item, s.verdict settings item) :: replayHistory settings (s.step settings item) items

def settleAll (settings : ReplaySettings) (s : ReplayState) (history : List (ReplayItem × ReplayVerdict)) :
    ReplayState :=
  history.foldl (fun s x => s.settle settings x.1 x.2) s

theorem settleAll_replayHistory (s : ReplayState) (items : List ReplayItem) :
    settleAll settings s (replayHistory settings s items) = items.foldl (step settings) s := by
  induction items generalizing s with
  | nil => rfl
  | cons item items ih => exact ih (s.step settings item)

def ReplayState.Accepts (settings : ReplaySettings) (s : ReplayState) (item : ReplayItem) : Prop :=
  ∃ trade, (s.step settings item).trades = s.trades ++ [trade]

end

/-- What may still come of a trade that has not reached its exit at a moment; the entry stays as it is. -/
structure ShadowOutcome.VariedAt (moment : ℤ) (before after : ShadowOutcome) : Prop where
  open_before : ∀ t ∈ before.outcomeTime, moment < t
  open_after : ∀ t ∈ after.outcomeTime, moment < t
  entered : after.status.entered = true
  known : ∃ status time price gross net reason detail, after = { before with
    status := status, outcomeTime := time, outcomePrice := price, grossR := gross, netR := net
    unresolvedReason := reason, ambiguityDetail := detail }

/-- A candidate with another outcome after a moment, which is a trade all the same. -/
def ReplayItem.VariedAt (moment : ℤ) (item item' : ReplayItem) : Prop :=
  item'.spec = item.spec ∧ item'.split = item.split ∧ item'.tradeR.isSome ∧
    ∃ splitEpoch before after, item.resolved = some (splitEpoch, before) ∧ item'.resolved = some (splitEpoch, after) ∧
      before.VariedAt moment after

def booking (x : ReplayItem × ReplayVerdict) : Option (ℤ × ℚ × ℚ) :=
  match x.2 with
  | .skip _ => none
  | .pass => x.1.entry.bind fun entry => x.1.tradeR.map fun r => (utcDay entry, r.1, r.2)

/-- The same verdict on the same candidate, or on one with another outcome when its trade is open at the moment. -/
def EventVaried (moment : ℤ) (x x' : ReplayItem × ReplayVerdict) : Prop :=
  x'.2 = x.2 ∧ (x'.1 = x.1 ∨ (booking x).isSome ∧ x.1.VariedAt moment x'.1)

/-- **The same candidates with the same verdicts**; only trades that are open at the moment have other outcomes. -/
def HistoryVaried (moment : ℤ) (history history' : List (ReplayItem × ReplayVerdict)) : Prop :=
  List.Forall₂ (EventVaried moment) history history'

/-- **A candidate is accepted or skipped whatever comes of the trades that are open at its entry.** -/
def NoLookAhead [CaseMap] (settings : ReplaySettings) (before : List ReplayItem) (item : ReplayItem) : Prop :=
  ∀ entry ∈ item.entry, ∀ history', HistoryVaried entry (replayHistory settings {} before) history' →
    ((settleAll settings {} history').Accepts settings item ↔
      (before.foldl (ReplayState.step settings) {}).Accepts settings item)

/-! ### The condition -/

def ReplayItem.openAt (moment : ℤ) (item : ReplayItem) : Bool :=
  item.resolved.any fun r => r.2.outcomeTime.all fun t => moment < t

def ReplayItem.loses (item : ReplayItem) : Bool := item.tradeR.any fun r => r.2 < 0

def enteredDay (x : ReplayItem × ReplayVerdict) : Option ℤ :=
  match x.2 with
  | .skip reason => if reason.afterReset then x.1.entry.map utcDay else none
  | .pass => x.1.entry.map utcDay

def flagsOf (flag : ReplayItem → Bool) (day : ℤ) (history : List (ReplayItem × ReplayVerdict)) : List Bool :=
  history.foldl (fun flags x =>
    if (enteredDay x).any (· ≠ day) then []
    else if (booking x).isSome then flags ++ [flag x.1] else flags) []

/-- Whether trades lose when all that are open at a moment turn out alike. -/
def ReplayItem.losesAs (moment : ℤ) (guess : Bool) (item : ReplayItem) : Bool :=
  if item.openAt moment then guess else item.loses

def ReplaySettings.Breaks (settings : ReplaySettings) (flags : List Bool) : Prop :=
  ∃ threshold ∈ settings.consecutiveLossBreaker, HasRun (max 1 threshold.toNat) flags

/-- What a candidate needs apart from the daily-loss stop and the breaker. -/
structure ReplayState.Admits (settings : ReplaySettings) (s : ReplayState) (item : ReplayItem) (day : ℤ) : Prop where
  free : s.heldBy item.spec = none
  results : item.tradeR.isSome
  global : (s.globalCounts day : ℤ) < settings.globalCap
  instrument : (s.instrumentCounts (item.spec.symbol, day) : ℤ) < settings.perInstrumentCap

/-- **When open trades do not matter to a candidate**: it is skipped for another reason; or no trade of its day is open at
its entry; or the breaker is open although they all win; or there is no daily-loss stop, and the breaker is closed
although they all lose. -/
def GatesSettled [CaseMap] (settings : ReplaySettings) (before : List ReplayItem) (item : ReplayItem) : Prop :=
  ∀ entry ∈ item.entry,
    let history := replayHistory settings {} before
    let day := utcDay entry
    ¬(before.foldl (ReplayState.step settings) {}).Admits settings item day ∨
      (∀ x ∈ history, ∀ b ∈ booking x, b.1 = day → x.1.openAt entry = false) ∨
      settings.Breaks (flagsOf (ReplayItem.losesAs entry false) day history) ∨
      settings.dailyLossStop = none ∧ ¬settings.Breaks (flagsOf (ReplayItem.losesAs entry true) day history)

/-! ### One iteration -/

section

variable {settings : ReplaySettings} {s : ReplayState} {item : ReplayItem}

@[simp] theorem enterDay_openUntil (day : ℤ) : (s.enterDay day).openUntil = s.openUntil := by
  unfold enterDay
  split <;> rfl

@[simp] theorem enterDay_globalCounts (day : ℤ) : (s.enterDay day).globalCounts = s.globalCounts := by
  unfold enterDay
  split <;> rfl

@[simp] theorem enterDay_instrumentCounts (day : ℤ) : (s.enterDay day).instrumentCounts = s.instrumentCounts := by
  unfold enterDay
  split <;> rfl

@[simp] theorem enterDay_dailyRealizedR (day : ℤ) : (s.enterDay day).dailyRealizedR = s.dailyRealizedR := by
  unfold enterDay
  split <;> rfl

@[simp] theorem enterDay_trades (day : ℤ) : (s.enterDay day).trades = s.trades := by
  unfold enterDay
  split <;> rfl

@[simp] theorem enterDay_breakerDay (day : ℤ) : (s.enterDay day).breakerDay = some day := by
  unfold enterDay
  split
  · assumption
  · rfl

theorem recordLoss_eq (pessimistic : ℚ) : s.recordLoss settings pessimistic =
    { s with
      consecutiveLosses := (s.recordLoss settings pessimistic).consecutiveLosses
      breakerOpen := (s.recordLoss settings pessimistic).breakerOpen } := by
  unfold recordLoss
  cases settings.consecutiveLossBreaker with
  | none => rfl
  | some threshold =>
    dsimp only
    split <;> rfl

theorem item_entry_eq_some {entry : ℤ} : item.entry = some entry ↔
    ∃ splitEpoch outcome, item.resolved = some (splitEpoch, outcome) ∧ outcome.accepted = some entry := by
  unfold ReplayItem.entry
  rw [Option.bind_eq_some_iff]
  constructor
  · rintro ⟨⟨splitEpoch, outcome⟩, hresolved, haccepted⟩
    exact ⟨splitEpoch, outcome, hresolved, haccepted⟩
  · rintro ⟨splitEpoch, outcome, hresolved, haccepted⟩
    exact ⟨(splitEpoch, outcome), hresolved, haccepted⟩

theorem verdict_pass_iff {entry : ℤ} (hentry : item.entry = some entry) : s.verdict settings item = .pass ↔
    s.heldBy item.spec = none ∧
      (s.enterDay (utcDay entry)).gatedBy settings item.spec.symbol (utcDay entry) = none := by
  obtain ⟨splitEpoch, outcome, hresolved, haccepted⟩ := item_entry_eq_some.1 hentry
  unfold verdict
  cases s.heldBy item.spec with
  | some reason => simp
  | none =>
    rw [hresolved]
    dsimp only
    rw [haccepted]
    dsimp only
    cases (s.enterDay (utcDay entry)).gatedBy settings item.spec.symbol (utcDay entry) <;> simp

theorem verdict_of_entry_none (hentry : item.entry = none) : s.verdict settings item ≠ .pass := by
  unfold ReplayItem.entry at hentry
  unfold verdict
  cases s.heldBy item.spec with
  | some reason => simp
  | none =>
    cases hresolved : item.resolved with
    | none => simp
    | some r =>
      rw [hresolved] at hentry
      have hnone : r.2.accepted = none := hentry
      dsimp only
      rw [hnone]
      simp

theorem gatedBy_eq_none {symbol : String} {day : ℤ} : s.gatedBy settings symbol day = none ↔
    s.breakerOpen = false ∧ (∀ stop ∈ settings.dailyLossStop, stop < s.dailyRealizedR day) ∧
      (s.globalCounts day : ℤ) < settings.globalCap ∧
      (s.instrumentCounts (symbol, day) : ℤ) < settings.perInstrumentCap := by
  unfold gatedBy
  cases s.breakerOpen with
  | true => simp
  | false =>
    rw [if_neg Bool.false_ne_true]
    cases hstop : settings.dailyLossStop with
    | none =>
      rw [Option.any_none, if_neg Bool.false_ne_true]
      split
      · simp; omega
      · split
        · simp; omega
        · simp; omega
    | some stop =>
      rw [any_some]
      by_cases hle : s.dailyRealizedR day ≤ stop
      · rw [if_pos (decide_eq_true hle)]
        refine iff_of_false (by simp) fun h => ?_
        exact absurd (h.2.1 stop rfl) (not_lt.2 hle)
      · rw [if_neg (by simpa using hle)]
        have hlt : stop < s.dailyRealizedR day := not_le.1 hle
        split
        · simp; omega
        · split
          · simp; omega
          · simp; exact ⟨hlt, by omega⟩

variable [CaseMap]

theorem settle_pass {entry splitEpoch : ℤ} {outcome : ShadowOutcome} (hresolved : item.resolved = some (splitEpoch, outcome))
    (haccepted : outcome.accepted = some entry) : s.settle settings item .pass =
      (s.enterDay (utcDay entry)).take settings item splitEpoch outcome (utcDay entry) := by
  unfold ReplayState.settle
  dsimp only
  rw [hresolved]
  dsimp only
  rw [haccepted]

theorem settle_pass_none (hentry : item.entry = none) : s.settle settings item .pass = s := by
  unfold ReplayState.settle
  unfold ReplayItem.entry at hentry
  dsimp only
  cases hresolved : item.resolved with
  | none => rfl
  | some r =>
    rw [hresolved] at hentry
    obtain ⟨splitEpoch, outcome⟩ := r
    dsimp only
    have hnone : outcome.accepted = none := hentry
    rw [hnone]

theorem settle_skip (reason : SkipReason) : s.settle settings item (.skip reason) =
    match enteredDay (item, .skip reason) with
    | some day => (s.enterDay day).note reason
    | none => s.note reason := by
  unfold ReplayState.settle enteredDay
  dsimp only
  cases item.entry with
  | none => split <;> simp_all
  | some entry =>
    dsimp only
    cases reason.afterReset <;> rfl

theorem take_trades (splitEpoch : ℤ) (outcome : ShadowOutcome) (day : ℤ) :
    (s.take settings item splitEpoch outcome day).trades = match item.tradeR with
      | none => s.trades
      | some r => s.trades ++ [item.trade splitEpoch outcome r.1 r.2] := by
  unfold ReplayState.take
  cases item.tradeR with
  | none => rfl
  | some r =>
    dsimp only
    rw [recordLoss_eq]
    rfl

theorem take_dailyRealizedR (splitEpoch : ℤ) (outcome : ShadowOutcome) (day : ℤ) :
    (s.take settings item splitEpoch outcome day).dailyRealizedR = match item.tradeR with
      | none => s.dailyRealizedR
      | some r => update s.dailyRealizedR day (s.dailyRealizedR day + r.1) := by
  unfold ReplayState.take
  cases item.tradeR with
  | none => rfl
  | some r =>
    dsimp only
    rw [recordLoss_eq]
    rfl

/-- **A candidate becomes a trade** when it is admitted, the breaker is closed on its day and the day is above the stop. -/
theorem accepts_iff {entry : ℤ} (hentry : item.entry = some entry) : s.Accepts settings item ↔
    s.Admits settings item (utcDay entry) ∧ (s.enterDay (utcDay entry)).breakerOpen = false ∧
      ∀ stop ∈ settings.dailyLossStop, stop < s.dailyRealizedR (utcDay entry) := by
  have hpass : s.verdict settings item = .pass ↔ _ := verdict_pass_iff hentry
  rw [gatedBy_eq_none, enterDay_dailyRealizedR, enterDay_globalCounts, enterDay_instrumentCounts] at hpass
  unfold ReplayState.Accepts step
  cases hverdict : s.verdict settings item with
  | skip reason =>
    have htrades : (s.settle settings item (.skip reason)).trades = s.trades := by
      rw [settle_skip]
      split
      · exact enterDay_trades _
      · rfl
    rw [htrades]
    refine iff_of_false ?_ fun ⟨hadmits, hbreaker, hstop⟩ => ?_
    · rintro ⟨trade, htrade⟩
      simp at htrade
    · have hskip := hpass.2 ⟨hadmits.free, hbreaker, hstop, hadmits.global, hadmits.instrument⟩
      rw [hverdict] at hskip
      cases hskip
  | pass =>
    obtain ⟨hfree, hbreaker, hstop, hglobal, hinstrument⟩ := hpass.1 hverdict
    obtain ⟨splitEpoch, outcome, hresolved, haccepted⟩ := item_entry_eq_some.1 hentry
    rw [settle_pass hresolved haccepted, take_trades, enterDay_trades]
    cases hr : item.tradeR with
    | none =>
      refine iff_of_false ?_ fun ⟨hadmits, _⟩ => ?_
      · rintro ⟨trade, htrade⟩
        simp at htrade
      · have hsome := hadmits.results
        rw [hr] at hsome
        cases hsome
    | some r =>
      refine iff_of_true ⟨_, rfl⟩ ⟨⟨hfree, ?_, hglobal, hinstrument⟩, hbreaker, hstop⟩
      rw [hr]
      rfl

theorem take_occupies (splitEpoch : ℤ) (outcome : ShadowOutcome) (day : ℤ) :
    (s.take settings item splitEpoch outcome day).openUntil =
        update s.openUntil item.spec.symbol (some outcome.outcomeTime) ∧
      (s.take settings item splitEpoch outcome day).globalCounts =
        update s.globalCounts day (s.globalCounts day + 1) ∧
      (s.take settings item splitEpoch outcome day).instrumentCounts =
        update s.instrumentCounts (item.spec.symbol, day) (s.instrumentCounts (item.spec.symbol, day) + 1) ∧
      (s.take settings item splitEpoch outcome day).breakerDay = s.breakerDay := by
  unfold ReplayState.take
  cases item.tradeR with
  | none => exact ⟨rfl, rfl, rfl, rfl⟩
  | some r =>
    dsimp only
    rw [recordLoss_eq]
    exact ⟨rfl, rfl, rfl, rfl⟩

end

/-! ### The daily result -/

def dayResult (day : ℤ) (x : ReplayItem × ReplayVerdict) : ℚ :=
  match booking x with
  | some (d, neutral, _) => if d = day then neutral else 0
  | none => 0

theorem booking_pass {item : ReplayItem} {entry : ℤ} (hentry : item.entry = some entry) :
    booking (item, .pass) = item.tradeR.map fun r => (utcDay entry, r.1, r.2) := by
  unfold booking
  dsimp only
  rw [hentry]
  rfl

theorem booking_pass_none {item : ReplayItem} (hentry : item.entry = none) : booking (item, .pass) = none := by
  unfold booking
  dsimp only
  rw [hentry]
  rfl

section

variable [CaseMap] {settings : ReplaySettings} {s : ReplayState}

theorem settle_dailyRealizedR (x : ReplayItem × ReplayVerdict) (day : ℤ) :
    (s.settle settings x.1 x.2).dailyRealizedR day = s.dailyRealizedR day + dayResult day x := by
  obtain ⟨item, verdict⟩ := x
  unfold dayResult
  cases verdict with
  | skip reason =>
    have hsame : (s.settle settings item (.skip reason)).dailyRealizedR = s.dailyRealizedR := by
      rw [settle_skip]
      split
      · exact enterDay_dailyRealizedR _
      · rfl
    rw [hsame]
    exact (add_zero _).symm
  | pass =>
    cases hentry : item.entry with
    | none =>
      rw [settle_pass_none hentry, booking_pass_none hentry]
      exact (add_zero _).symm
    | some entry =>
      obtain ⟨splitEpoch, outcome, hresolved, haccepted⟩ := item_entry_eq_some.1 hentry
      rw [settle_pass hresolved haccepted, take_dailyRealizedR, booking_pass hentry, enterDay_dailyRealizedR]
      cases item.tradeR with
      | none => exact (add_zero _).symm
      | some r =>
        dsimp only [map_some]
        by_cases hday : utcDay entry = day
        · rw [if_pos hday, hday, update_self]
        · rw [if_neg hday, update_of_ne (Ne.symm hday), add_zero]

/-- **The result of a day is the sum of the trades booked on it**, open or not. -/
theorem settleAll_dailyRealizedR (history : List (ReplayItem × ReplayVerdict)) (day : ℤ) :
    (settleAll settings s history).dailyRealizedR day
      = s.dailyRealizedR day + (history.map (dayResult day)).sum := by
  induction history generalizing s with
  | nil => exact (add_zero _).symm
  | cons x history ih =>
    have hcons : settleAll settings s (x :: history) = settleAll settings (s.settle settings x.1 x.2) history := rfl
    rw [hcons, ih, settle_dailyRealizedR, map_cons, sum_cons, add_assoc]

end

/-! ### The breaker -/

section

variable {settings : ReplaySettings} {s : ReplayState}

def ReplayState.breakerAt (s : ReplayState) (day : ℤ) : Latch :=
  ⟨(s.enterDay day).consecutiveLosses, (s.enterDay day).breakerOpen⟩

theorem breakerAt_of_eq {day : ℤ} (h : s.breakerDay = some day) :
    s.breakerAt day = ⟨s.consecutiveLosses, s.breakerOpen⟩ := by
  unfold ReplayState.breakerAt enterDay
  rw [if_pos h]

theorem breakerAt_of_ne {day : ℤ} (h : s.breakerDay ≠ some day) : s.breakerAt day = ⟨0, false⟩ := by
  unfold ReplayState.breakerAt enterDay
  rw [if_neg h]

theorem breakerAt_enterDay (day other : ℤ) :
    (s.enterDay other).breakerAt day = if other = day then s.breakerAt day else ⟨0, false⟩ := by
  by_cases hday : other = day
  · rw [if_pos hday, hday, breakerAt_of_eq (enterDay_breakerDay day)]
    rfl
  · rw [if_neg hday]
    refine breakerAt_of_ne ?_
    rw [enterDay_breakerDay]
    exact fun h => hday (some.inj h)

theorem breakerAt_note (reason : SkipReason) (day : ℤ) : (s.note reason).breakerAt day = s.breakerAt day := by
  by_cases hday : s.breakerDay = some day
  · rw [breakerAt_of_eq hday, breakerAt_of_eq (s := s.note reason) hday]
    rfl
  · rw [breakerAt_of_ne hday, breakerAt_of_ne (s := s.note reason) hday]

variable {threshold : ℤ}

theorem recordLoss_breaker (hthreshold : settings.consecutiveLossBreaker = some threshold) (pessimistic : ℚ) :
    (⟨(s.recordLoss settings pessimistic).consecutiveLosses,
      (s.recordLoss settings pessimistic).breakerOpen⟩ : Latch) =
      Latch.next (max 1 threshold.toNat) ⟨s.consecutiveLosses, s.breakerOpen⟩ (decide (pessimistic < 0)) := by
  unfold recordLoss Latch.next
  rw [hthreshold]
  dsimp only
  by_cases hloss : pessimistic < 0
  · have hiff : threshold ≤ ((s.consecutiveLosses + 1 : ℕ) : ℤ) ↔ max 1 threshold.toNat ≤ s.consecutiveLosses + 1 := by
      omega
    rw [if_pos hloss, if_pos (decide_eq_true hloss)]
    simp only [hiff]
  · rw [if_neg hloss, if_neg (by simpa using hloss)]

theorem take_breaker [CaseMap] {item : ReplayItem} {day : ℤ}
    (hthreshold : settings.consecutiveLossBreaker = some threshold) (hday : s.breakerDay = some day) (splitEpoch : ℤ)
    (outcome : ShadowOutcome) : (s.take settings item splitEpoch outcome day).breakerAt day =
      if item.tradeR.isSome then (s.breakerAt day).next (max 1 threshold.toNat) item.loses else s.breakerAt day := by
  have hafter : (s.take settings item splitEpoch outcome day).breakerDay = some day := by
    rw [(take_occupies splitEpoch outcome day).2.2.2]
    exact hday
  rw [breakerAt_of_eq hafter, breakerAt_of_eq hday]
  unfold ReplayState.take ReplayItem.loses
  cases item.tradeR with
  | none => rfl
  | some r => exact recordLoss_breaker hthreshold r.2

theorem settle_breaker [CaseMap] (hthreshold : settings.consecutiveLossBreaker = some threshold)
    (x : ReplayItem × ReplayVerdict) (day : ℤ) : (s.settle settings x.1 x.2).breakerAt day =
      if (enteredDay x).any (· ≠ day) then ⟨0, false⟩
      else if (booking x).isSome then (s.breakerAt day).next (max 1 threshold.toNat) x.1.loses
      else s.breakerAt day := by
  obtain ⟨item, verdict⟩ := x
  cases verdict with
  | skip reason =>
    dsimp only
    rw [settle_skip]
    cases hentered : enteredDay (item, .skip reason) with
    | none => exact breakerAt_note reason day
    | some d =>
      rw [any_some, breakerAt_note, breakerAt_enterDay]
      by_cases hday : d = day
      · rw [if_pos hday, if_neg (by simpa using hday)]
        rfl
      · rw [if_neg hday, if_pos (by simpa using hday)]
  | pass =>
    dsimp only
    cases hentry : item.entry with
    | none =>
      have hentered : enteredDay (item, .pass) = none := by
        show item.entry.map utcDay = none
        rw [hentry]
        rfl
      rw [settle_pass_none hentry, booking_pass_none hentry, hentered]
      rfl
    | some entry =>
      have hentered : enteredDay (item, .pass) = some (utcDay entry) := by
        show item.entry.map utcDay = _
        rw [hentry]
        rfl
      obtain ⟨splitEpoch, outcome, hresolved, haccepted⟩ := item_entry_eq_some.1 hentry
      rw [settle_pass hresolved haccepted, hentered, any_some, booking_pass hentry, isSome_map]
      by_cases hday : utcDay entry = day
      · subst hday
        rw [if_neg (by simp), take_breaker hthreshold (enterDay_breakerDay _), breakerAt_enterDay, if_pos rfl]
      · rw [if_pos (by simpa using hday)]
        refine breakerAt_of_ne ?_
        rw [(take_occupies splitEpoch outcome _).2.2.2, enterDay_breakerDay]
        exact fun h => hday (some.inj h)

theorem settleAll_breaker [CaseMap] (hthreshold : settings.consecutiveLossBreaker = some threshold)
    (history : List (ReplayItem × ReplayVerdict)) (day : ℤ) : (settleAll settings {} history).breakerAt day
      = latchOf (max 1 threshold.toNat) (flagsOf ReplayItem.loses day history) := by
  have hfold : ∀ (history : List (ReplayItem × ReplayVerdict)) (s : ReplayState) (flags : List Bool),
      s.breakerAt day = latchOf (max 1 threshold.toNat) flags →
      (settleAll settings s history).breakerAt day = latchOf (max 1 threshold.toNat)
        (history.foldl (fun flags x =>
          if (enteredDay x).any (· ≠ day) then []
          else if (booking x).isSome then flags ++ [x.1.loses] else flags) flags) := by
    intro history
    induction history with
    | nil => exact fun _ _ h => h
    | cons x history ih =>
      intro s flags h
      refine ih _ _ ?_
      rw [settle_breaker hthreshold, h]
      dsimp only
      split
      · rfl
      · split
        · rw [latchOf_concat]
        · rfl
  refine hfold history {} [] ?_
  exact breakerAt_of_ne (by simp)

theorem settle_breakerOpen_of_none [CaseMap] (hnone : settings.consecutiveLossBreaker = none)
    (hopen : s.breakerOpen = false) (x : ReplayItem × ReplayVerdict) :
    (s.settle settings x.1 x.2).breakerOpen = false := by
  have henter : ∀ day, (s.enterDay day).breakerOpen = false := by
    intro day
    unfold enterDay
    split
    · exact hopen
    · rfl
  obtain ⟨item, verdict⟩ := x
  cases verdict with
  | skip reason =>
    dsimp only
    rw [settle_skip]
    split
    · exact henter _
    · exact hopen
  | pass =>
    cases hentry : item.entry with
    | none =>
      dsimp only
      rw [settle_pass_none hentry]
      exact hopen
    | some entry =>
      obtain ⟨splitEpoch, outcome, hresolved, haccepted⟩ := item_entry_eq_some.1 hentry
      dsimp only
      rw [settle_pass hresolved haccepted]
      unfold ReplayState.take recordLoss
      rw [hnone]
      cases item.tradeR with
      | none => exact henter _
      | some r => exact henter _

/-- **The breaker is open for a candidate of a day when the trades of the day hold the losses in a row.** -/
theorem settleAll_breakerOpen [CaseMap] (history : List (ReplayItem × ReplayVerdict)) (day : ℤ) :
    ((settleAll settings {} history).enterDay day).breakerOpen = true ↔
      settings.Breaks (flagsOf ReplayItem.loses day history) := by
  unfold ReplaySettings.Breaks
  cases hthreshold : settings.consecutiveLossBreaker with
  | none =>
    have hopen : ∀ (history : List (ReplayItem × ReplayVerdict)) (s : ReplayState), s.breakerOpen = false →
        (settleAll settings s history).breakerOpen = false := by
      intro history
      induction history with
      | nil => exact fun _ h => h
      | cons x history ih => exact fun s h => ih _ (settle_breakerOpen_of_none hthreshold h x)
    have hclosed := hopen history {} rfl
    refine iff_of_false ?_ (by simp)
    unfold enterDay
    split
    · rw [hclosed]
      exact Bool.false_ne_true
    · exact Bool.false_ne_true
  | some threshold =>
    have hlatch := settleAll_breaker hthreshold history day
    have htripped : ((settleAll settings {} history).enterDay day).breakerOpen
        = ((settleAll settings {} history).breakerAt day).tripped := rfl
    rw [htripped, hlatch, tripped_iff (by omega)]
    constructor
    · exact fun h => ⟨threshold, rfl, h⟩
    · rintro ⟨k, hk, h⟩
      cases hk
      exact h

end

/-! ### Other outcomes of open trades -/

section

variable {moment : ℤ} {x x' : ReplayItem × ReplayVerdict}

theorem enteredDay_of_booking {b : ℤ × ℚ × ℚ} (h : booking x = some b) : enteredDay x = some b.1 := by
  obtain ⟨item, verdict⟩ := x
  cases verdict with
  | skip reason => cases h
  | pass =>
    obtain ⟨entry, hentry, hmap⟩ := Option.bind_eq_some_iff.1 h
    obtain ⟨r, -, rfl⟩ := map_eq_some_iff.1 hmap
    show item.entry.map utcDay = _
    have hitem : item.entry = some entry := hentry
    rw [hitem]
    rfl

theorem ReplayItem.VariedAt.entry_eq {item item' : ReplayItem} (h : item.VariedAt moment item') (hentry : item.entry.isSome) :
    item'.entry = item.entry := by
  obtain ⟨-, -, -, splitEpoch, before, after, hbefore, hafter, hvaried⟩ := h
  obtain ⟨entry, hentry⟩ := isSome_iff_exists.1 hentry
  obtain ⟨_, _, hresolved, haccepted⟩ := item_entry_eq_some.1 hentry
  rw [hbefore] at hresolved
  cases hresolved
  obtain ⟨-, htime⟩ := accepted_eq_some.1 haccepted
  rw [hentry]
  refine item_entry_eq_some.2 ⟨_, after, hafter, accepted_eq_some.2 ⟨hvaried.entered, ?_⟩⟩
  obtain ⟨_, _, _, _, _, _, _, rfl⟩ := hvaried.known
  exact htime

theorem booking_eq_some {item : ReplayItem} {verdict : ReplayVerdict} {b : ℤ × ℚ × ℚ} :
    booking (item, verdict) = some b ↔
      verdict = .pass ∧ ∃ entry r, item.entry = some entry ∧ item.tradeR = some r ∧ b = (utcDay entry, r.1, r.2) := by
  cases verdict with
  | skip reason => exact iff_of_false (fun h => by cases h) fun h => by cases h.1
  | pass =>
    cases hentry : item.entry with
    | none =>
      rw [booking_pass_none hentry]
      simp
    | some entry =>
      rw [booking_pass hentry, map_eq_some_iff]
      simp [eq_comm]

theorem EventVaried.enteredDay_eq (h : EventVaried moment x x') : enteredDay x' = enteredDay x := by
  obtain ⟨item, verdict⟩ := x
  obtain ⟨item', verdict'⟩ := x'
  obtain ⟨hverdict, hitem⟩ := h
  cases hverdict
  rcases hitem with rfl | ⟨hbooked, hvaried⟩
  · rfl
  · obtain ⟨b, hb⟩ := isSome_iff_exists.1 hbooked
    obtain ⟨hpass, entry, r, hentry, -, -⟩ := booking_eq_some.1 hb
    cases hpass
    show item'.entry.map utcDay = item.entry.map utcDay
    rw [hvaried.entry_eq (by rw [hentry]; rfl)]

theorem EventVaried.day_eq (h : EventVaried moment x x') : (booking x').map Prod.fst = (booking x).map Prod.fst := by
  obtain ⟨item, verdict⟩ := x
  obtain ⟨item', verdict'⟩ := x'
  obtain ⟨hverdict, hitem⟩ := h
  cases hverdict
  rcases hitem with rfl | ⟨hbooked, hvaried⟩
  · rfl
  · obtain ⟨b, hb⟩ := isSome_iff_exists.1 hbooked
    obtain ⟨hpass, entry, r, hentry, -, rfl⟩ := booking_eq_some.1 hb
    cases hpass
    obtain ⟨r', hr'⟩ := isSome_iff_exists.1 hvaried.2.2.1
    have hentry' : item'.entry = some entry := by rw [hvaried.entry_eq (by rw [hentry]; rfl), hentry]
    rw [hb, booking_eq_some.2 ⟨rfl, entry, r', hentry', hr', rfl⟩]
    rfl

theorem EventVaried.booked_eq (h : EventVaried moment x x') : (booking x').isSome = (booking x).isSome := by
  have hday := congrArg Option.isSome h.day_eq
  rwa [isSome_map, isSome_map] at hday

theorem EventVaried.eq_of_closed (h : EventVaried moment x x') (hclosed : x.1.openAt moment = false) : x' = x := by
  obtain ⟨hverdict, hitem⟩ := h
  rcases hitem with hitem | ⟨-, -, -, -, splitEpoch, before, after, hbefore, -, hvaried⟩
  · exact Prod.ext hitem hverdict
  · unfold ReplayItem.openAt at hclosed
    rw [hbefore, any_some] at hclosed
    have hopen : before.outcomeTime.all (fun t => decide (moment < t)) = true := by
      rw [Option.all_eq_true]
      exact fun t ht => decide_eq_true (hvaried.open_before t ht)
    rw [hopen] at hclosed
    cases hclosed

end

theorem flagsOf_mono {R : ReplayItem × ReplayVerdict → ReplayItem × ReplayVerdict → Prop} {flag flag' : ReplayItem → Bool}
    {day : ℤ} (hR : ∀ x x', R x x' → enteredDay x' = enteredDay x ∧ (booking x').isSome = (booking x).isSome ∧
      (∀ b ∈ booking x, b.1 = day → flag x.1 = true → flag' x'.1 = true))
    {history history' : List (ReplayItem × ReplayVerdict)} (h : List.Forall₂ R history history') :
    List.Forall₂ (fun a b : Bool => a = true → b = true) (flagsOf flag day history) (flagsOf flag' day history') := by
  have hfold : ∀ flags flags' : List Bool, List.Forall₂ (fun a b : Bool => a = true → b = true) flags flags' →
      List.Forall₂ (fun a b : Bool => a = true → b = true)
        (history.foldl (fun flags x => if (enteredDay x).any (· ≠ day) then []
          else if (booking x).isSome then flags ++ [flag x.1] else flags) flags)
        (history'.foldl (fun flags x => if (enteredDay x).any (· ≠ day) then []
          else if (booking x).isSome then flags ++ [flag' x.1] else flags) flags') := by
    induction h with
    | nil => exact fun _ _ hflags => hflags
    | @cons x x' _ _ hx _ ih =>
      intro flags flags' hflags
      obtain ⟨hentered, hbooked, hflag⟩ := hR x x' hx
      refine ih _ _ ?_
      dsimp only
      rw [hentered, hbooked]
      by_cases hother : (enteredDay x).any (· ≠ day) = true
      · rw [if_pos hother, if_pos hother]
        exact .nil
      · rw [if_neg hother, if_neg hother]
        by_cases hsome : (booking x).isSome = true
        · rw [if_pos hsome, if_pos hsome]
          obtain ⟨b, hb⟩ := isSome_iff_exists.1 hsome
          rw [enteredDay_of_booking hb] at hother
          exact rel_append hflags (.cons (hflag b hb (by simpa using hother)) .nil)
        · rw [if_neg hsome, if_neg hsome]
          exact hflags
  exact hfold [] [] .nil

theorem ReplaySettings.Breaks.mono {settings : ReplaySettings} {flags flags' : List Bool}
    (hflags : List.Forall₂ (fun a b : Bool => a = true → b = true) flags flags') (h : settings.Breaks flags) :
    settings.Breaks flags' := by
  obtain ⟨threshold, hthreshold, hrun⟩ := h
  exact ⟨threshold, hthreshold, hrun.mono (by omega) hflags⟩

/-- States that differ in the locks of open trades, beyond the results. -/
structure ReplayState.VariedAt (moment : ℤ) (s s' : ReplayState) : Prop where
  lock : ∀ symbol, s'.openUntil symbol = s.openUntil symbol ∨ ∃ release release',
    s.openUntil symbol = some release ∧ s'.openUntil symbol = some release' ∧
      (∀ t ∈ release, moment < t) ∧ ∀ t ∈ release', moment < t
  global : s'.globalCounts = s.globalCounts
  instrument : s'.instrumentCounts = s.instrumentCounts

theorem ReplayState.VariedAt.refl (moment : ℤ) (s : ReplayState) : s.VariedAt moment s :=
  ⟨fun _ => .inl rfl, rfl, rfl⟩

theorem ReplayState.heldBy_ne_none (s : ReplayState) {spec : SignalSpec} {moment : ℤ} {release : Option ℤ}
    (hopen : s.openUntil spec.symbol = some release) (hlow : ∀ t ∈ release, moment < t) (hclose : spec.signalClose ≤ moment) :
    s.heldBy spec ≠ none := by
  unfold heldBy
  rw [hopen]
  cases release with
  | none => simp
  | some t =>
    have hlt := hlow t rfl
    simp only [if_pos (hclose.trans_lt hlt)]
    simp

theorem ReplayState.VariedAt.admits_iff {settings : ReplaySettings} {s s' : ReplayState} {moment : ℤ}
    (h : s.VariedAt moment s') {item : ReplayItem} (hclose : item.spec.signalClose ≤ moment) (day : ℤ) :
    s'.Admits settings item day ↔ s.Admits settings item day := by
  have hheld : s'.heldBy item.spec = none ↔ s.heldBy item.spec = none := by
    rcases h.lock item.spec.symbol with heq | ⟨release, release', hopen, hopen', hlow, hlow'⟩
    · unfold heldBy
      rw [heq]
    · exact iff_of_false (s'.heldBy_ne_none hopen' hlow' hclose) (s.heldBy_ne_none hopen hlow hclose)
  constructor
  · rintro ⟨hfree, hresults, hglobal, hinstrument⟩
    rw [h.global] at hglobal
    rw [h.instrument] at hinstrument
    exact ⟨hheld.1 hfree, hresults, hglobal, hinstrument⟩
  · rintro ⟨hfree, hresults, hglobal, hinstrument⟩
    rw [← h.global] at hglobal
    rw [← h.instrument] at hinstrument
    exact ⟨hheld.2 hfree, hresults, hglobal, hinstrument⟩

section

variable [CaseMap] {settings : ReplaySettings} {s s' : ReplayState} {moment : ℤ}

theorem settle_skip_lock {item : ReplayItem} (reason : SkipReason) :
    (s.settle settings item (.skip reason)).openUntil = s.openUntil ∧
      (s.settle settings item (.skip reason)).globalCounts = s.globalCounts ∧
      (s.settle settings item (.skip reason)).instrumentCounts = s.instrumentCounts := by
  rw [settle_skip]
  split
  · exact ⟨enterDay_openUntil _, enterDay_globalCounts _, enterDay_instrumentCounts _⟩
  · exact ⟨rfl, rfl, rfl⟩

theorem ReplayState.VariedAt.settle (h : s.VariedAt moment s') {x x' : ReplayItem × ReplayVerdict}
    (hx : EventVaried moment x x') :
    (s.settle settings x.1 x.2).VariedAt moment (s'.settle settings x'.1 x'.2) := by
  obtain ⟨item, verdict⟩ := x
  obtain ⟨item', verdict'⟩ := x'
  obtain ⟨hverdict, hitem⟩ := hx
  cases hverdict
  dsimp only at hitem ⊢
  cases verdict with
  | skip reason =>
    obtain ⟨hopen, hglobal, hinstrument⟩ := @settle_skip_lock _ settings s item reason
    obtain ⟨hopen', hglobal', hinstrument'⟩ := @settle_skip_lock _ settings s' item' reason
    constructor
    · rw [hopen, hopen']
      exact h.lock
    · rw [hglobal, hglobal', h.global]
    · rw [hinstrument, hinstrument', h.instrument]
  | pass =>
    cases hentry : item.entry with
    | none =>
      rw [booking_pass_none hentry] at hitem
      obtain rfl : item' = item := hitem.resolve_right fun h => by cases h.1
      rw [settle_pass_none hentry, settle_pass_none hentry]
      exact h
    | some entry =>
      obtain ⟨splitEpoch, outcome, hresolved, haccepted⟩ := item_entry_eq_some.1 hentry
      have hother : ∃ outcome', item'.resolved = some (splitEpoch, outcome') ∧ outcome'.accepted = some entry ∧
          item'.spec = item.spec ∧ (outcome'.outcomeTime = outcome.outcomeTime ∨
            (∀ t ∈ outcome.outcomeTime, moment < t) ∧ ∀ t ∈ outcome'.outcomeTime, moment < t) := by
        rcases hitem with rfl | ⟨-, hvaried⟩
        · exact ⟨outcome, hresolved, haccepted, rfl, .inl rfl⟩
        · have hentry' : item'.entry = some entry := by rw [hvaried.entry_eq (by rw [hentry]; rfl), hentry]
          obtain ⟨hspec, -, -, _, before, after, hbefore, hafter, hvar⟩ := hvaried
          obtain ⟨_, outcome', hresolved', haccepted'⟩ := item_entry_eq_some.1 hentry'
          rw [hresolved] at hbefore
          rw [hresolved'] at hafter
          cases hbefore
          cases hafter
          exact ⟨after, hresolved', haccepted', hspec, .inr ⟨hvar.open_before, hvar.open_after⟩⟩
      obtain ⟨outcome', hresolved', haccepted', hspec, hlock⟩ := hother
      rw [settle_pass hresolved haccepted, settle_pass hresolved' haccepted']
      obtain ⟨hopen, hglobal, hinstrument, -⟩ := @take_occupies settings (s.enterDay (utcDay entry))
        item _ splitEpoch outcome (utcDay entry)
      obtain ⟨hopen', hglobal', hinstrument', -⟩ := @take_occupies settings
        (s'.enterDay (utcDay entry)) item' _ splitEpoch outcome' (utcDay entry)
      rw [enterDay_openUntil] at hopen hopen'
      rw [enterDay_globalCounts] at hglobal hglobal'
      rw [enterDay_instrumentCounts] at hinstrument hinstrument'
      constructor
      · intro symbol
        rw [hopen, hopen', hspec]
        by_cases hsymbol : symbol = item.spec.symbol
        · rw [hsymbol, update_self, update_self]
          rcases hlock with heq | ⟨hlow, hlow'⟩
          · exact .inl (congrArg some heq)
          · exact .inr ⟨_, _, rfl, rfl, hlow, hlow'⟩
        · rw [update_of_ne hsymbol, update_of_ne hsymbol]
          exact h.lock symbol
      · rw [hglobal, hglobal', h.global]
      · rw [hinstrument, hinstrument', h.instrument, hspec]

theorem HistoryVaried.state {history history' : List (ReplayItem × ReplayVerdict)}
    (h : HistoryVaried moment history history') (hs : s.VariedAt moment s') :
    (settleAll settings s history).VariedAt moment (settleAll settings s' history') := by
  unfold HistoryVaried at h
  induction h generalizing s s' with
  | nil => exact hs
  | cons hx _ ih => exact ih (hs.settle hx)

end

/-! ### Every result may still come of an open trade -/

/-- A timeout at a price `r` risks from the entry. -/
def ShadowOutcome.timeoutAt (outcome : ShadowOutcome) (price r : ℚ) : ShadowOutcome :=
  let risk := |price - outcome.stopLoss|
  { outcome with
    status := .timeout
    outcomeTime := none
    outcomePrice := some (match outcome.side with
      | .buy => price + r * risk
      | .sell => price - r * risk)
    grossR := some r
    netR := some r
    unresolvedReason := none
    ambiguityDetail := none }

theorem planGeometryR_timeoutAt {outcome : ShadowOutcome} {price : ℚ} (hprice : outcome.entryPrice = some price)
    (hoff : price ≠ outcome.stopLoss) (r : ℚ) (pessimistic : Bool) :
    planGeometryR (outcome.timeoutAt price r) pessimistic = some r := by
  have hrisk : 0 < |price - outcome.stopLoss| := abs_pos.2 (sub_ne_zero.2 hoff)
  have hentry : (outcome.timeoutAt price r).entryPrice = some price := hprice
  have hstop : (outcome.timeoutAt price r).stopLoss = outcome.stopLoss := rfl
  unfold planGeometryR
  have hstatus : (outcome.timeoutAt price r).status ≠ .ambiguous := fun h => by cases h
  rw [if_neg hstatus, hentry, Option.bind_some, hstop]
  dsimp only
  rw [if_neg (not_le.2 hrisk)]
  unfold exitPrice ShadowOutcome.timeoutAt resolveR
  dsimp only
  rw [map_some]
  cases outcome.side with
  | buy =>
    dsimp only
    rw [add_sub_cancel_left, mul_div_cancel_right₀ _ hrisk.ne']
  | sell =>
    dsimp only
    rw [sub_sub_cancel, mul_div_cancel_right₀ _ hrisk.ne']

/-- **An open trade may still end with any result.** -/
theorem exists_variedAt {item : ReplayItem} {moment : ℤ} (hentry : item.entry.isSome)
    (hopen : item.openAt moment = true) (r : ℚ) :
    ∃ item', item.VariedAt moment item' ∧ item'.tradeR = some (r, r) := by
  obtain ⟨entry, hentry⟩ := isSome_iff_exists.1 hentry
  obtain ⟨splitEpoch, before, hresolved, haccepted⟩ := item_entry_eq_some.1 hentry
  obtain ⟨hclose, price, hprice, hoff⟩ := item.entryOf _ hresolved entry haccepted
  have hafter : (before.timeoutAt price r).EntryOf item.spec := by
    intro e he
    obtain ⟨-, htime⟩ := accepted_eq_some.1 he
    obtain ⟨-, hbefore⟩ := accepted_eq_some.1 haccepted
    have hsame : some entry = some e := hbefore.symm.trans htime
    cases hsame
    exact ⟨hclose, price, hprice, hoff⟩
  have hbefore : ∀ t ∈ before.outcomeTime, moment < t := by
    unfold ReplayItem.openAt at hopen
    rw [hresolved, any_some, Option.all_eq_true] at hopen
    exact fun t ht => of_decide_eq_true (hopen t ht)
  let item' : ReplayItem :=
    { item with
      resolved := some (splitEpoch, before.timeoutAt price r)
      entryOf := fun x hx => by cases hx; exact hafter }
  have htrade : item'.tradeR = some (r, r) := by
    show (planGeometryR (before.timeoutAt price r) false).bind _ = _
    rw [planGeometryR_timeoutAt hprice hoff, planGeometryR_timeoutAt hprice hoff]
    rfl
  refine ⟨item', ⟨rfl, rfl, by rw [htrade]; rfl, splitEpoch, before, _, hresolved, rfl, ?_⟩, htrade⟩
  have hnever : ∀ t ∈ (none : Option ℤ), moment < t := fun t ht => by cases ht
  exact ⟨hbefore, hnever, rfl, ⟨_, _, _, _, _, _, _, rfl⟩⟩

/-- The same event, with the result `r` where the trade is open at the moment. -/
def EventTurned (moment : ℤ) (r : ℚ) (x x' : ReplayItem × ReplayVerdict) : Prop :=
  EventVaried moment x x' ∧ ((booking x).isSome → x.1.openAt moment = true → x'.1.tradeR = some (r, r))

theorem exists_turned (moment : ℤ) (r : ℚ) (history : List (ReplayItem × ReplayVerdict)) :
    ∃ history', List.Forall₂ (EventTurned moment r) history history' := by
  induction history with
  | nil => exact ⟨[], .nil⟩
  | cons x history ih =>
    obtain ⟨history', ih⟩ := ih
    by_cases hturn : (booking x).isSome ∧ x.1.openAt moment = true
    · obtain ⟨hbooked, hopen⟩ := hturn
      obtain ⟨b, hb⟩ := isSome_iff_exists.1 hbooked
      obtain ⟨-, entry, _, hentry, -, -⟩ := booking_eq_some.1 hb
      obtain ⟨item', hvaried, htrade⟩ := exists_variedAt (by rw [hentry]; rfl) hopen r
      exact ⟨(item', x.2) :: history', .cons ⟨⟨rfl, .inr ⟨hbooked, hvaried⟩⟩, fun _ _ => htrade⟩ ih⟩
    · refine ⟨x :: history', .cons ⟨⟨rfl, .inl rfl⟩, fun hbooked hopen => ?_⟩ ih⟩
      exact absurd ⟨hbooked, hopen⟩ hturn

def openOn (moment day : ℤ) (x : ReplayItem × ReplayVerdict) : Bool :=
  x.1.openAt moment && (booking x).any (·.1 = day)

theorem EventTurned.dayResult_eq {moment day : ℤ} {r : ℚ} {x x' : ReplayItem × ReplayVerdict}
    (h : EventTurned moment r x x') :
    dayResult day x' = if openOn moment day x then r else if x.1.openAt moment then 0 else dayResult day x := by
  obtain ⟨hvaried, hturn⟩ := h
  unfold openOn
  cases hopen : x.1.openAt moment with
  | false =>
    rw [hvaried.eq_of_closed hopen]
    rfl
  | true =>
    rw [Bool.true_and, if_pos rfl]
    have hday := hvaried.day_eq
    unfold dayResult
    cases hb : booking x with
    | none =>
      rw [hb] at hday
      rw [Option.map_eq_none_iff.1 hday]
      rfl
    | some b =>
      have htrade := hturn (by rw [hb]; rfl) hopen
      rw [hb, map_some, map_eq_some_iff] at hday
      obtain ⟨b', hb', hfst⟩ := hday
      obtain ⟨-, entry, r', -, hr', heq⟩ := booking_eq_some.1 hb'
      rw [htrade] at hr'
      cases hr'
      rw [hb', heq, any_some]
      rw [heq] at hfst
      dsimp only at hfst ⊢
      rw [hfst]
      by_cases hd : b.1 = day
      · rw [if_pos hd, if_pos (decide_eq_true hd)]
      · rw [if_neg hd, if_neg (by simpa using hd)]

def closedResult (moment day : ℤ) (history : List (ReplayItem × ReplayVerdict)) : ℚ :=
  (history.map fun x => if x.1.openAt moment then 0 else dayResult day x).sum

theorem sum_turned {moment day : ℤ} {r : ℚ} {history history' : List (ReplayItem × ReplayVerdict)}
    (h : List.Forall₂ (EventTurned moment r) history history') :
    (history'.map (dayResult day)).sum
      = closedResult moment day history + (history.countP (openOn moment day) : ℚ) * r := by
  induction h with
  | nil => simp [closedResult]
  | @cons x x' history history' hx _ ih =>
    have hclosed : closedResult moment day (x :: history)
        = (if x.1.openAt moment then 0 else dayResult day x) + closedResult moment day history := rfl
    rw [map_cons, sum_cons, ih, hx.dayResult_eq, countP_cons, hclosed]
    cases hopen : openOn moment day x with
    | false =>
      rw [if_neg Bool.false_ne_true, if_neg Bool.false_ne_true]
      push_cast
      ring
    | true =>
      have hat : x.1.openAt moment = true := (Bool.and_eq_true _ _ ▸ hopen : _ ∧ _).1
      rw [if_pos rfl, if_pos rfl, if_pos hat]
      push_cast
      ring

theorem exists_beyond (settings : ReplaySettings) (closed : ℚ) :
    ∃ big : ℚ, 0 < big ∧ (∀ stop ∈ settings.dailyLossStop, stop < closed + big) ∧
      ∀ stop ∈ settings.dailyLossStop, closed - big ≤ stop := by
  refine ⟨1 + |closed| + |settings.dailyLossStop.getD 0|, by positivity, fun stop hstop => ?_, fun stop hstop => ?_⟩
  · have hclosed := neg_abs_le closed
    have hle := le_abs_self stop
    rw [mem_def.1 hstop, getD_some]
    linarith
  · have hclosed := le_abs_self closed
    have hle := neg_abs_le stop
    rw [mem_def.1 hstop, getD_some]
    linarith

/-! ### The two gates -/

section

variable {settings : ReplaySettings} {moment day : ℤ} {history history' : List (ReplayItem × ReplayVerdict)}

theorem losesAs_of_open {item : ReplayItem} {guess : Bool} (h : item.openAt moment = true) :
    item.losesAs moment guess = guess := by
  unfold ReplayItem.losesAs
  rw [if_pos h]

theorem losesAs_of_closed {item : ReplayItem} {guess : Bool} (h : item.openAt moment = false) :
    item.losesAs moment guess = item.loses := by
  unfold ReplayItem.losesAs
  rw [h, if_neg Bool.false_ne_true]

theorem HistoryVaried.breaks (h : HistoryVaried moment history history')
    (hbreaks : settings.Breaks (flagsOf (ReplayItem.losesAs moment false) day history)) :
    settings.Breaks (flagsOf ReplayItem.loses day history') := by
  refine hbreaks.mono (flagsOf_mono (fun x x' hx => ⟨hx.enteredDay_eq, hx.booked_eq, fun _ _ _ hloses => ?_⟩) h)
  cases hopen : x.1.openAt moment with
  | true =>
    rw [losesAs_of_open hopen] at hloses
    cases hloses
  | false =>
    rw [hx.eq_of_closed hopen, ← losesAs_of_closed hopen]
    exact hloses

theorem HistoryVaried.breaks_of (h : HistoryVaried moment history history')
    (hbreaks : settings.Breaks (flagsOf ReplayItem.loses day history')) :
    settings.Breaks (flagsOf (ReplayItem.losesAs moment true) day history) := by
  refine hbreaks.mono (flagsOf_mono (R := fun x' x => EventVaried moment x x')
    (fun x' x hx => ⟨hx.enteredDay_eq.symm, hx.booked_eq.symm, fun _ _ _ hloses => ?_⟩) h.flip)
  cases hopen : x.1.openAt moment with
  | true => exact losesAs_of_open hopen
  | false =>
    rw [losesAs_of_closed hopen, ← hx.eq_of_closed hopen]
    exact hloses

theorem historyVaried_of_turned {r : ℚ} (h : List.Forall₂ (EventTurned moment r) history history') :
    HistoryVaried moment history history' :=
  h.imp fun _ _ hx => hx.1

theorem EventTurned.loses_eq {r : ℚ} {x x' : ReplayItem × ReplayVerdict} (h : EventTurned moment r x x')
    (hbooked : (booking x).isSome) : x'.1.loses = x.1.losesAs moment (decide (r < 0)) := by
  cases hopen : x.1.openAt moment with
  | true =>
    rw [losesAs_of_open hopen]
    unfold ReplayItem.loses
    rw [h.2 hbooked hopen]
    rfl
  | false => rw [losesAs_of_closed hopen, h.1.eq_of_closed hopen]

theorem breaks_turned {r : ℚ} (h : List.Forall₂ (EventTurned moment r) history history') :
    settings.Breaks (flagsOf ReplayItem.loses day history') ↔
      settings.Breaks (flagsOf (ReplayItem.losesAs moment (decide (r < 0))) day history) := by
  constructor
  · intro hbreaks
    refine hbreaks.mono (flagsOf_mono (R := fun x' x => EventTurned moment r x x')
      (fun x' x hx => ⟨hx.1.enteredDay_eq.symm, hx.1.booked_eq.symm, fun b hb _ hloses => ?_⟩) h.flip)
    rw [← hx.loses_eq (by rw [← hx.1.booked_eq, hb]; rfl)]
    exact hloses
  · intro hbreaks
    refine hbreaks.mono (flagsOf_mono
      (fun x x' hx => ⟨hx.1.enteredDay_eq, hx.1.booked_eq, fun b hb _ hloses => ?_⟩) h)
    rw [hx.loses_eq (by rw [hb]; rfl)]
    exact hloses

theorem HistoryVaried.same_day (h : HistoryVaried moment history history')
    (hclosed : ∀ x ∈ history, ∀ b ∈ booking x, b.1 = day → x.1.openAt moment = false) :
    (history'.map (dayResult day)).sum = (history.map (dayResult day)).sum ∧
      (settings.Breaks (flagsOf ReplayItem.loses day history') ↔
        settings.Breaks (flagsOf ReplayItem.loses day history)) := by
  have hboth := (forall₂_and_left history history').2 ⟨hclosed, h⟩
  refine ⟨?_, fun hbreaks => ?_, fun hbreaks => ?_⟩
  · clear hclosed h
    induction hboth with
    | nil => rfl
    | @cons x x' history history' hx _ ih =>
      have hsame : dayResult day x' = dayResult day x := by
        obtain ⟨hclosed, hvaried⟩ := hx
        have hday := hvaried.day_eq
        cases hb : booking x with
        | none =>
          rw [hb] at hday
          unfold dayResult
          rw [hb, Option.map_eq_none_iff.1 hday]
        | some b =>
          by_cases hd : b.1 = day
          · rw [hvaried.eq_of_closed (hclosed b hb hd)]
          · rw [hb, map_some, map_eq_some_iff] at hday
            obtain ⟨b', hb', hfst⟩ := hday
            unfold dayResult
            rw [hb, hb']
            dsimp only
            rw [hfst, if_neg hd, if_neg hd]
      rw [map_cons, map_cons, sum_cons, sum_cons, hsame, ih]
  · refine hbreaks.mono (flagsOf_mono
      (R := fun x' x => (∀ b ∈ booking x, b.1 = day → x.1.openAt moment = false) ∧ EventVaried moment x x')
      (fun x' x hx => ⟨hx.2.enteredDay_eq.symm, hx.2.booked_eq.symm, fun b hb hd hloses => ?_⟩) hboth.flip)
    have hfst := hx.2.day_eq
    rw [hb, map_some] at hfst
    obtain ⟨b₀, hb₀, hfst⟩ := map_eq_some_iff.1 hfst.symm
    rw [← hx.2.eq_of_closed (hx.1 b₀ hb₀ (hfst.trans hd))]
    exact hloses
  · refine hbreaks.mono (flagsOf_mono
      (fun x x' hx => ⟨hx.2.enteredDay_eq, hx.2.booked_eq, fun b hb hd hloses => ?_⟩) hboth)
    rw [hx.2.eq_of_closed (hx.1 b hb hd)]
    exact hloses

end

section

variable [CaseMap] {settings : ReplaySettings} {before : List ReplayItem} {item : ReplayItem}

theorem accepts_varied_iff {entry : ℤ} (hentry : item.entry = some entry)
    {history' : List (ReplayItem × ReplayVerdict)}
    (h : HistoryVaried entry (replayHistory settings {} before) history') :
    (settleAll settings {} history').Accepts settings item ↔
      (before.foldl (step settings) {}).Admits settings item (utcDay entry) ∧
        ¬settings.Breaks (flagsOf ReplayItem.loses (utcDay entry) history') ∧
        ∀ stop ∈ settings.dailyLossStop, stop < (history'.map (dayResult (utcDay entry))).sum := by
  obtain ⟨splitEpoch, outcome, hresolved, haccepted⟩ := item_entry_eq_some.1 hentry
  have hclose := (item.entryOf _ hresolved entry haccepted).1
  have hstate : (settleAll settings {} (replayHistory settings {} before)).VariedAt entry
      (settleAll settings {} history') := h.state (ReplayState.VariedAt.refl entry {})
  rw [settleAll_replayHistory] at hstate
  have hadmits : (settleAll settings {} history').Admits settings item (utcDay entry) ↔ _ :=
    hstate.admits_iff hclose (utcDay entry)
  have hbreaker : ((settleAll settings {} history').enterDay (utcDay entry)).breakerOpen = true ↔ _ :=
    settleAll_breakerOpen history' (utcDay entry)
  rw [accepts_iff hentry, hadmits, ← hbreaker, settleAll_dailyRealizedR, zero_add, Bool.not_eq_true]

theorem noLookAhead_of_settled (h : GatesSettled settings before item) : NoLookAhead settings before item := by
  intro entry hentry history' hvaried
  have hself : HistoryVaried entry (replayHistory settings {} before) (replayHistory settings {} before) :=
    forall₂_same.2 fun _ _ => ⟨rfl, .inl rfl⟩
  have haccepts := accepts_varied_iff hentry hself
  rw [settleAll_replayHistory] at haccepts
  rw [accepts_varied_iff hentry hvaried, haccepts]
  rcases h entry hentry with hskip | hclosed | hopen | ⟨hstop, hclosed⟩
  · exact iff_of_false (fun hx => hskip hx.1) fun hx => hskip hx.1
  · obtain ⟨hsum, hbreaks⟩ := @HistoryVaried.same_day settings _ _ _ _ hvaried hclosed
    rw [hsum, hbreaks]
  · exact iff_of_false (fun hx => hx.2.1 (hvaried.breaks hopen)) fun hx => hx.2.1 (hself.breaks hopen)
  · have hnot : ∀ {history'}, HistoryVaried entry (replayHistory settings {} before) history' →
        ¬settings.Breaks (flagsOf ReplayItem.loses (utcDay entry) history') :=
      fun hv hbreaks => hclosed (hv.breaks_of hbreaks)
    rw [hstop]
    simp [hnot hvaried, hnot hself]

/-- **Whether a candidate becomes a trade does not depend on open trades exactly when the gates are settled.** -/
theorem noLookAhead_iff : NoLookAhead settings before item ↔ GatesSettled settings before item := by
  refine ⟨fun h => ?_, noLookAhead_of_settled⟩
  by_contra hsettled
  unfold GatesSettled at hsettled
  push Not at hsettled
  obtain ⟨entry, hentry, hsettled⟩ := hsettled
  change ¬(_ ∨ _ ∨ _ ∨ _) at hsettled
  push Not at hsettled
  obtain ⟨hadmits, ⟨x, hx, b, hb, hday, hopen⟩, hwins, hlosses⟩ := hsettled
  have hcount : 1 ≤ (replayHistory settings {} before).countP (openOn entry (utcDay entry)) := by
    refine countP_pos_iff.2 ⟨x, hx, ?_⟩
    unfold openOn
    rw [Bool.eq_true_of_not_eq_false hopen, mem_def.1 hb, any_some, hday]
    simp
  have hcount' : (1 : ℚ) ≤ ((replayHistory settings {} before).countP (openOn entry (utcDay entry)) : ℕ) := by
    exact_mod_cast hcount
  obtain ⟨big, hbig, habove, hbelow⟩ := exists_beyond settings
    (closedResult entry (utcDay entry) (replayHistory settings {} before))
  have hmul := le_mul_of_one_le_left hbig.le hcount'
  obtain ⟨won, hwon⟩ := exists_turned entry big (replayHistory settings {} before)
  obtain ⟨lost, hlost⟩ := exists_turned entry (-big) (replayHistory settings {} before)
  have haccepted : (settleAll settings {} won).Accepts settings item := by
    refine (accepts_varied_iff hentry (historyVaried_of_turned hwon)).2 ⟨hadmits, ?_, fun stop hstop => ?_⟩
    · rw [breaks_turned hwon, decide_eq_false (not_lt.2 hbig.le)]
      exact hwins
    · rw [sum_turned hwon]
      have hstop' := habove stop hstop
      linarith
  have hskipped : ¬(settleAll settings {} lost).Accepts settings item := by
    rw [accepts_varied_iff hentry (historyVaried_of_turned hlost)]
    rintro ⟨-, hbreaks, hstop⟩
    rw [breaks_turned hlost, decide_eq_true (neg_lt_zero.2 hbig)] at hbreaks
    cases hnone : settings.dailyLossStop with
    | none => exact hbreaks (hlosses hnone)
    | some stop =>
      have hlt := hstop stop hnone
      rw [sum_turned hlost] at hlt
      have hstop' := hbelow stop hnone
      linarith
  have hsame := h entry hentry won (historyVaried_of_turned hwon)
  have hsame' := h entry hentry lost (historyVaried_of_turned hlost)
  exact hskipped (hsame'.2 (hsame.1 haccepted))

theorem NoLookAhead.runs (h : NoLookAhead settings before item) {entry : ℤ} (hentry : item.entry = some entry)
    {before' : List ReplayItem}
    (hvaried : HistoryVaried entry (replayHistory settings {} before) (replayHistory settings {} before')) :
    (before'.foldl (step settings) {}).Accepts settings item ↔
      (before.foldl (step settings) {}).Accepts settings item := by
  rw [← settleAll_replayHistory {} before']
  exact h entry hentry _ hvaried

/-- **Every candidate of every run: it does not look ahead exactly when its gates are settled.** -/
theorem replay_no_lookahead_iff (candidates : List PersistedCandidate)
    (series : String → Timeframe → Option SeriesArrays) (settings : ReplaySettings)
    (i : Fin (replayItems candidates series settings).length) :
    NoLookAhead settings ((replayItems candidates series settings).take i) (replayItems candidates series settings)[i] ↔
      GatesSettled settings ((replayItems candidates series settings).take i)
        (replayItems candidates series settings)[i] :=
  noLookAhead_iff

end

/-! ### A loss before its time -/

def overlapSpec (signalId symbol : String) (signalClose : ℤ) : SignalSpec :=
  { twoBarPlan with
    signalId, symbol, signalClose, stopLoss := 98, takeProfit := 104, legacyScore := some 80, horizonBars := 20
    levels_pos := by norm_num, horizon_pos := defaultHorizonBars_pos }

def overlapCandidate (signalId symbol : String) (signalClose outcomeTime : ℤ) (status : ShadowStatus) (price : ℚ) :
    PersistedCandidate where
  spec := overlapSpec signalId symbol signalClose
  split := "exploration"
  storedOutcome :=
    { (overlapSpec signalId symbol signalClose).outcome "replay" .atSl with
      entryTime := some (signalClose + 60)
      entryPrice := some 100
      status := status
      outcomeTime := some outcomeTime
      outcomePrice := some price }
  stored_entry := by
    intro entry hentry
    obtain ⟨-, htime⟩ := ShadowOutcome.accepted_eq_some.1 hentry
    cases htime
    exact ⟨by show signalClose ≤ signalClose + 60; omega, 100, rfl, by show (100 : ℚ) ≠ 98; norm_num⟩

def overlapSeries : SeriesArrays := ⟨[], 0, .nil⟩

def lossStopSettings : ReplaySettings where
  horizon := 20
  useStoredOutcome := true
  dailyLossStop := some (-1 / 2)
  horizon_pos := defaultHorizonBars_pos

def overlapFirst (status : ShadowStatus) (price : ℚ) : PersistedCandidate :=
  overlapCandidate "one" "FX VOL 20" 0 600 status price

def overlapSecond : PersistedCandidate := overlapCandidate "two" "SFX VOL 20" 120 240 .tp 104

def overlapItem (candidate : PersistedCandidate) : ReplayItem :=
  candidate.item lossStopSettings fun _ _ => some overlapSeries

local instance overlapCase : CaseMap := asciiCase

def overlapIds (status : ShadowStatus) (price : ℚ) : List String :=
  (simulateTrades [overlapFirst status price, overlapSecond] (fun _ _ => some overlapSeries) lossStopSettings).1.map
    fun trade => trade.spec.signalId

/-- **The stop at 600 already skips the candidate that enters at 180**, which the target at 600 lets through. -/
theorem replay_looks_ahead : overlapIds .sl 98 = ["one"] ∧ overlapIds .tp 104 = ["one", "two"] ∧
    ¬NoLookAhead lossStopSettings [overlapItem (overlapFirst .sl 98)] (overlapItem overlapSecond) := by
  refine ⟨by decide +kernel, by decide +kernel, fun h => ?_⟩
  have hentry : (overlapItem overlapSecond).entry = some 180 := by decide
  have hopen : ∀ t ∈ (some 600 : Option ℤ), 180 < t := by decide
  have hvaried : (overlapItem (overlapFirst .sl 98)).VariedAt 180 (overlapItem (overlapFirst .tp 104)) :=
    ⟨rfl, rfl, by decide +kernel, 0, _, _, rfl, rfl, hopen, hopen, rfl, ⟨_, _, _, _, _, _, _, rfl⟩⟩
  have hverdict : replayHistory lossStopSettings {} [overlapItem (overlapFirst .tp 104)] =
      [(overlapItem (overlapFirst .tp 104), .pass)] := by
    unfold replayHistory
    have hpass : ({} : ReplayState).verdict lossStopSettings (overlapItem (overlapFirst .tp 104)) = .pass := by
      decide +kernel
    rw [hpass]
    rfl
  have hverdict' : replayHistory lossStopSettings {} [overlapItem (overlapFirst .sl 98)] =
      [(overlapItem (overlapFirst .sl 98), .pass)] := by
    unfold replayHistory
    have hpass : ({} : ReplayState).verdict lossStopSettings (overlapItem (overlapFirst .sl 98)) = .pass := by
      decide +kernel
    rw [hpass]
    rfl
  have hboth : HistoryVaried 180 (replayHistory lossStopSettings {} [overlapItem (overlapFirst .sl 98)])
      (replayHistory lossStopSettings {} [overlapItem (overlapFirst .tp 104)]) := by
    rw [hverdict, hverdict']
    exact .cons ⟨rfl, .inr ⟨by decide +kernel, hvaried⟩⟩ .nil
  have hsame := h.runs hentry hboth
  rw [accepts_iff hentry, accepts_iff hentry] at hsame
  have hbelow := (hsame.1 ⟨⟨by decide +kernel, by decide +kernel, by decide +kernel, by decide +kernel⟩,
    by decide +kernel, by decide +kernel⟩).2.2
  exact absurd (hbelow (-1 / 2) rfl) (by decide +kernel)

end Jqe
