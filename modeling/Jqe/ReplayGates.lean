import Jqe.ReplayLookahead
/-!
# ReplayGates — what the trades of the sequential simulator keep to

Positions of a symbol stay apart where no signal closes within the bar that took a barrier of an earlier one, and the
breaker counts every loss of a day that is not left for another and entered again.
-/
namespace Jqe

open Streaks List

def SequentialTrade.entryDay (trade : SequentialTrade) : Option ℤ := trade.outcome.entryTime.map utcDay

/-- The close of the bar in which the position left: the outcome names a timeout by the close of its bar, and a barrier by the
open of the bar that takes it. -/
def SequentialTrade.exitClose (trade : SequentialTrade) : Option ℤ :=
  match trade.outcome.status with
  | .timeout => trade.outcome.outcomeTime
  | _ => trade.outcome.outcomeTime.map (· + trade.spec.timeframe.seconds)

def SequentialTrade.loses (trade : SequentialTrade) : Bool := trade.pessimisticR < 0

/-- Two positions of a symbol do not overlap: the later one enters on a bar after the one in which the earlier one left. -/
def SequentialTrade.Apart (earlier later : SequentialTrade) : Prop :=
  later.spec.symbol = earlier.spec.symbol →
    ∃ exit entry, earlier.exitClose = some exit ∧ later.outcome.entryTime = some entry ∧ exit ≤ entry

/-- **The caps**: on the entry day of every trade, and of its symbol on that day. -/
structure WithinCaps (settings : ReplaySettings) (trades : List SequentialTrade) : Prop where
  global : ∀ trade ∈ trades, (trades.countP (·.entryDay = trade.entryDay) : ℤ) ≤ settings.globalCap
  instrument : ∀ trade ∈ trades,
    (trades.countP fun t => t.spec.symbol = trade.spec.symbol ∧ t.entryDay = trade.entryDay : ℤ) ≤
      settings.perInstrumentCap

def lossesOn (day : Option ℤ) (trades : List SequentialTrade) : List Bool :=
  (trades.filter (·.entryDay = day)).map SequentialTrade.loses

/-- **The breaker**: no trade follows `k` losses in a row of its day. -/
def WithinBreaker (settings : ReplaySettings) (trades : List SequentialTrade) : Prop :=
  ∀ k ∈ settings.consecutiveLossBreaker, ∀ before trade, before ++ [trade] <+: trades →
    ¬HasRun k.toNat (lossesOn trade.entryDay before)

/-! ### One iteration -/

section

variable [CaseMap] {settings : ReplaySettings} {s : ReplayState} {item : ReplayItem}

structure Passed (settings : ReplaySettings) (s s' : ReplayState) (item : ReplayItem) (entry : ℤ)
    (outcome : ShadowOutcome) : Prop where
  verdict : s.verdict settings item = .pass
  entered : item.entry = some entry
  close_le : item.spec.signalClose ≤ entry
  accepted : outcome.accepted = some entry
  free : s.heldBy item.spec = none
  closed : (s.enterDay (utcDay entry)).breakerOpen = false
  global : (s.globalCounts (utcDay entry) : ℤ) < settings.globalCap
  instrument : (s.instrumentCounts (item.spec.symbol, utcDay entry) : ℤ) < settings.perInstrumentCap
  openUntil : s'.openUntil = Function.update s.openUntil item.spec.symbol (some outcome.outcomeTime)
  globalCounts : s'.globalCounts = Function.update s.globalCounts (utcDay entry) (s.globalCounts (utcDay entry) + 1)
  instrumentCounts : s'.instrumentCounts = Function.update s.instrumentCounts (item.spec.symbol, utcDay entry)
    (s.instrumentCounts (item.spec.symbol, utcDay entry) + 1)

theorem step_cases (settings : ReplaySettings) (s : ReplayState) (item : ReplayItem) :
    let s' := s.step settings item
    ((∃ reason, s.verdict settings item = .skip reason) ∧ s'.trades = s.trades ∧ s'.openUntil = s.openUntil ∧
        s'.globalCounts = s.globalCounts ∧ s'.instrumentCounts = s.instrumentCounts) ∨
      ∃ entry outcome, Passed settings s s' item entry outcome ∧
        (s'.trades = s.trades ∧ item.tradeR = none ∨ ∃ trade, s'.trades = s.trades ++ [trade] ∧
          trade.spec = item.spec ∧ trade.outcome = outcome ∧ trade.loses = item.loses ∧ item.tradeR.isSome) := by
  intro s'
  have hs' : s' = s.settle settings item (s.verdict settings item) := rfl
  cases hverdict : s.verdict settings item with
  | skip reason =>
    left
    rw [hs', hverdict, settle_skip]
    split
    · exact ⟨⟨_, rfl⟩, enterDay_trades _, enterDay_openUntil _, enterDay_globalCounts _, enterDay_instrumentCounts _⟩
    · exact ⟨⟨_, rfl⟩, rfl, rfl, rfl, rfl⟩
  | pass =>
    right
    obtain ⟨entry, hentry⟩ := Option.ne_none_iff_exists'.1 fun hnone => verdict_of_entry_none hnone hverdict
    obtain ⟨hfree, hgates⟩ := (verdict_pass_iff hentry).1 hverdict
    obtain ⟨hclosed, -, hglobal, hinstrument⟩ := gatedBy_eq_none.1 hgates
    rw [enterDay_globalCounts] at hglobal
    rw [enterDay_instrumentCounts] at hinstrument
    obtain ⟨splitEpoch, outcome, hresolved, haccepted⟩ := item_entry_eq_some.1 hentry
    rw [hverdict, settle_pass hresolved haccepted] at hs'
    have hclose := (item.entryOf _ hresolved entry haccepted).1
    refine ⟨entry, outcome, ⟨hverdict, hentry, hclose, haccepted, hfree, hclosed, hglobal, hinstrument, ?_, ?_, ?_⟩, ?_⟩
    · rw [hs', (take_occupies _ _ _).1, enterDay_openUntil]
    · rw [hs', (take_occupies _ _ _).2.1, enterDay_globalCounts]
    · rw [hs', (take_occupies _ _ _).2.2.1, enterDay_instrumentCounts]
    · rw [hs', take_trades, enterDay_trades]
      cases hr : item.tradeR with
      | none => exact .inl ⟨rfl, rfl⟩
      | some r =>
        refine .inr ⟨_, rfl, rfl, rfl, ?_, rfl⟩
        unfold ReplayItem.loses
        rw [hr]
        rfl

omit [CaseMap] in
theorem Passed.entryDay {s' : ReplayState} {entry : ℤ} {outcome : ShadowOutcome} (h : Passed settings s s' item entry outcome)
    {trade : SequentialTrade} (houtcome : trade.outcome = outcome) : trade.entryDay = some (utcDay entry) := by
  unfold SequentialTrade.entryDay
  rw [houtcome, (ShadowOutcome.accepted_eq_some.1 h.accepted).2]
  rfl

end

/-! ### The caps -/

/-- **A counter that has every trade of its keys, and stays within its cap.** -/
structure Tallied {κ : Type} (has : κ → SequentialTrade → Bool) (cap : ℤ) (counts : κ → ℕ)
    (trades : List SequentialTrade) : Prop where
  le : ∀ key, trades.countP (has key) ≤ counts key
  capped : ∀ key, 0 < counts key → (counts key : ℤ) ≤ cap

theorem Tallied.occupy {κ : Type} [DecidableEq κ] {has : κ → SequentialTrade → Bool} {cap : ℤ} {counts : κ → ℕ}
    {trades trades' : List SequentialTrade} (h : Tallied has cap counts trades) {key : κ}
    (hbelow : (counts key : ℤ) < cap)
    (htrades : trades' = trades ∨ ∃ trade, trades' = trades ++ [trade] ∧ ∀ k, has k trade = true → k = key) :
    Tallied has cap (Function.update counts key (counts key + 1)) trades' := by
  refine ⟨fun k => ?_, fun k hk => ?_⟩
  · have hle := h.le k
    rcases htrades with rfl | ⟨trade, rfl, hkey⟩
    · by_cases hk : k = key
      · subst hk
        rw [Function.update_self]
        omega
      · rw [Function.update_of_ne hk]
        exact hle
    · rw [countP_append, countP_singleton]
      by_cases hk : k = key
      · subst hk
        rw [Function.update_self]
        split <;> omega
      · have hnot : ¬has k trade = true := fun hhas => hk (hkey k hhas)
        rw [Function.update_of_ne hk, if_neg hnot]
        exact hle
  · by_cases hkey : k = key
    · subst hkey
      rw [Function.update_self]
      push_cast
      omega
    · rw [Function.update_of_ne hkey] at hk ⊢
      exact h.capped k hk

def onDay (day : ℤ) (trade : SequentialTrade) : Bool := trade.entryDay = some day

def onInstrumentDay (key : String × ℤ) (trade : SequentialTrade) : Bool :=
  trade.spec.symbol = key.1 ∧ trade.entryDay = some key.2

structure ReplayState.Counted (settings : ReplaySettings) (s : ReplayState) : Prop where
  global : Tallied onDay settings.globalCap s.globalCounts s.trades
  instrument : Tallied onInstrumentDay settings.perInstrumentCap s.instrumentCounts s.trades
  entered : ∀ trade ∈ s.trades, trade.entryDay.isSome

section

variable [CaseMap] {settings : ReplaySettings} {s : ReplayState}

theorem counted_step (h : s.Counted settings) (item : ReplayItem) : (s.step settings item).Counted settings := by
  rcases step_cases settings s item with ⟨-, htrades, -, hglobal, hinstrument⟩ | ⟨entry, outcome, hpassed, htrades⟩
  · obtain ⟨hg, hi, he⟩ := h
    constructor
    · rwa [htrades, hglobal]
    · rwa [htrades, hinstrument]
    · rwa [htrades]
  · have hkeys : (s.step settings item).trades = s.trades ∨ ∃ trade, (s.step settings item).trades = s.trades ++ [trade] ∧
        trade.entryDay = some (utcDay entry) ∧ trade.spec.symbol = item.spec.symbol := by
      refine htrades.imp And.left fun ⟨trade, htrade, hspec, houtcome, _⟩ => ?_
      exact ⟨trade, htrade, hpassed.entryDay houtcome, congrArg SignalSpec.symbol hspec⟩
    constructor
    · rw [hpassed.globalCounts]
      refine h.global.occupy hpassed.global (hkeys.imp_right fun ⟨trade, htrade, hday, _⟩ => ⟨trade, htrade, ?_⟩)
      intro day hhas
      exact Option.some.inj ((of_decide_eq_true hhas).symm.trans hday)
    · rw [hpassed.instrumentCounts]
      refine h.instrument.occupy hpassed.instrument
        (hkeys.imp_right fun ⟨trade, htrade, hday, hsymbol⟩ => ⟨trade, htrade, ?_⟩)
      intro key hhas
      obtain ⟨hsymbol', hday'⟩ := of_decide_eq_true hhas
      exact Prod.ext (hsymbol'.symm.trans hsymbol) (Option.some.inj (hday'.symm.trans hday))
    · rcases hkeys with hsame | ⟨trade, htrade, hday, -⟩
      · rw [hsame]
        exact h.entered
      · rw [htrade]
        intro t ht
        rcases mem_append.1 ht with ht | ht
        · exact h.entered t ht
        · rw [mem_singleton.1 ht, hday]
          rfl

theorem counted_run (items : List ReplayItem) (h : s.Counted settings) :
    (items.foldl (ReplayState.step settings) s).Counted settings := by
  induction items generalizing s with
  | nil => exact h
  | cons item items ih => exact ih (counted_step h item)

omit [CaseMap] in
theorem counted_init : ({} : ReplayState).Counted settings :=
  ⟨⟨fun _ => Nat.le_refl 0, fun _ h => absurd h (Nat.lt_irrefl 0)⟩,
    ⟨fun _ => Nat.le_refl 0, fun _ h => absurd h (Nat.lt_irrefl 0)⟩, fun _ h => nomatch h⟩

omit [CaseMap] in
theorem ReplayState.Counted.withinCaps (h : s.Counted settings) : WithinCaps settings s.trades := by
  have hpos : ∀ {p : SequentialTrade → Bool} {trade}, trade ∈ s.trades → p trade = true → 0 < s.trades.countP p :=
    fun hmem hp => countP_pos_iff.2 ⟨_, hmem, hp⟩
  refine ⟨fun trade htrade => ?_, fun trade htrade => ?_⟩
  · obtain ⟨day, hday⟩ := Option.isSome_iff_exists.1 (h.entered trade htrade)
    have hle := h.global.le day
    have hcount := hpos htrade (p := onDay day) (decide_eq_true hday)
    have hcap := h.global.capped day (hcount.trans_le hle)
    rw [hday]
    exact (Int.ofNat_le.2 hle).trans hcap
  · obtain ⟨day, hday⟩ := Option.isSome_iff_exists.1 (h.entered trade htrade)
    have hle := h.instrument.le (trade.spec.symbol, day)
    have hcount := hpos htrade (p := onInstrumentDay (trade.spec.symbol, day)) (decide_eq_true ⟨rfl, hday⟩)
    have hcap := h.instrument.capped _ (hcount.trans_le hle)
    rw [hday]
    exact (Int.ofNat_le.2 hle).trans hcap

end

/-! ### Positions of a symbol -/

/-- **The signal does not close within a bar in which a position of its symbol was left by a barrier.** -/
def OffExitBars (s : ReplayState) (item : ReplayItem) : Prop :=
  s.heldBy item.spec = none → ∀ trade ∈ s.trades, trade.spec.symbol = item.spec.symbol →
    trade.outcome.status ≠ .timeout → ∀ exit ∈ trade.outcome.outcomeTime,
      ¬(exit ≤ item.spec.signalClose ∧ item.spec.signalClose < exit + trade.spec.timeframe.seconds)

structure ReplayState.ApartBy (moment : ℤ) (s : ReplayState) : Prop where
  apart : s.trades.Pairwise SequentialTrade.Apart
  released : ∀ trade ∈ s.trades, s.openUntil trade.spec.symbol = some trade.outcome.outcomeTime ∨
    ∃ exit, trade.outcome.outcomeTime = some exit ∧ exit ≤ moment

theorem heldBy_eq_none {s : ReplayState} {spec : SignalSpec} {release : Option ℤ} (hfree : s.heldBy spec = none)
    (hopen : s.openUntil spec.symbol = some release) : ∃ exit, release = some exit ∧ exit ≤ spec.signalClose := by
  unfold ReplayState.heldBy at hfree
  rw [hopen] at hfree
  cases release with
  | none => cases hfree
  | some exit =>
    dsimp only at hfree
    split at hfree
    · cases hfree
    · exact ⟨exit, rfl, by omega⟩

theorem exitClose_le {trade : SequentialTrade} {exit moment : ℤ} (hexit : trade.outcome.outcomeTime = some exit)
    (hle : exit ≤ moment)
    (hoff : trade.outcome.status ≠ .timeout → ¬(exit ≤ moment ∧ moment < exit + trade.spec.timeframe.seconds)) :
    ∃ close, trade.exitClose = some close ∧ close ≤ moment := by
  unfold SequentialTrade.exitClose
  rw [hexit]
  by_cases htimeout : trade.outcome.status = .timeout
  · rw [htimeout]
    exact ⟨exit, rfl, hle⟩
  · have hclosed := hoff htimeout
    refine ⟨exit + trade.spec.timeframe.seconds, ?_, by omega⟩
    split
    · contradiction
    · rfl

section

variable [CaseMap] {settings : ReplaySettings} {s : ReplayState}

theorem apart_step {moment : ℤ} (h : s.ApartBy moment) {item : ReplayItem} (hlater : moment ≤ item.spec.signalClose)
    (hoff : OffExitBars s item) : (s.step settings item).ApartBy item.spec.signalClose := by
  have hleft : ∀ trade ∈ s.trades, s.openUntil trade.spec.symbol = some trade.outcome.outcomeTime ∨
      ∃ exit, trade.outcome.outcomeTime = some exit ∧ exit ≤ item.spec.signalClose :=
    fun trade htrade => (h.released trade htrade).imp_right fun ⟨exit, hexit, hle⟩ => ⟨exit, hexit, hle.trans hlater⟩
  rcases step_cases settings s item with ⟨-, htrades, hopen, -⟩ | ⟨entry, outcome, hpassed, htrades⟩
  · constructor
    · rw [htrades]
      exact h.apart
    · rw [htrades, hopen]
      exact hleft
  · -- what the symbol held has left by the close of the signal
    have hreleased : ∀ trade ∈ s.trades, trade.spec.symbol = item.spec.symbol →
        ∃ exit, trade.outcome.outcomeTime = some exit ∧ exit ≤ item.spec.signalClose := by
      intro trade htrade hsymbol
      rcases hleft trade htrade with hopen | hexit
      · rw [hsymbol] at hopen
        exact heldBy_eq_none hpassed.free hopen
      · exact hexit
    have hkept : ∀ trade ∈ s.trades, (s.step settings item).openUntil trade.spec.symbol = some trade.outcome.outcomeTime ∨
        ∃ exit, trade.outcome.outcomeTime = some exit ∧ exit ≤ item.spec.signalClose := by
      intro trade htrade
      by_cases hsymbol : trade.spec.symbol = item.spec.symbol
      · exact .inr (hreleased trade htrade hsymbol)
      · rw [hpassed.openUntil, Function.update_of_ne hsymbol]
        exact hleft trade htrade
    rcases htrades with ⟨hsame, -⟩ | ⟨trade, htrade, hspec, houtcome, -⟩
    · constructor
      · rw [hsame]
        exact h.apart
      · rw [hsame]
        exact hkept
    · have hentry : trade.outcome.entryTime = some entry := by
        rw [houtcome]
        exact (ShadowOutcome.accepted_eq_some.1 hpassed.accepted).2
      constructor
      · rw [htrade]
        refine pairwise_append.2 ⟨h.apart, pairwise_singleton _ _, fun earlier hearlier later hlater' => ?_⟩
        rw [mem_singleton.1 hlater']
        intro hsymbol
        rw [hspec] at hsymbol
        obtain ⟨exit, hexit, hle⟩ := hreleased earlier hearlier hsymbol.symm
        obtain ⟨close, hclose, hbefore⟩ := exitClose_le hexit hle fun hstatus =>
          hoff hpassed.free earlier hearlier hsymbol.symm hstatus exit hexit
        exact ⟨close, entry, hclose, hentry, hbefore.trans hpassed.close_le⟩
      · rw [htrade]
        intro t ht
        rcases mem_append.1 ht with ht | ht
        · exact hkept t ht
        · rw [mem_singleton.1 ht, hpassed.openUntil, hspec, houtcome, Function.update_self]
          exact .inl rfl

end

/-! ### The breaker -/

/-- **The candidate enters the day that was entered last, or one that has no loss yet.** -/
def DayKept (s : ReplayState) (item : ReplayItem) : Prop :=
  s.heldBy item.spec = none → ∀ entry ∈ item.entry, s.breakerDay = some (utcDay entry) ∨
    ∀ trade ∈ s.trades, trade.entryDay = some (utcDay entry) → trade.loses = false

/-- The breaker of the day entered last counts all its losses. -/
structure ReplayState.Counting (k : ℕ) (s : ReplayState) : Prop where
  latch : ∀ day, s.breakerDay = some day → s.breakerAt day = latchOf k (lossesOn (some day) s.trades)
  held : ∀ before trade, before ++ [trade] <+: s.trades → ¬HasRun k (lossesOn trade.entryDay before)

theorem latchOf_misses {k : ℕ} {hits : List Bool} (h : ∀ hit ∈ hits, hit = false) : latchOf k hits = ⟨0, false⟩ := by
  induction hits using List.reverseRecOn with
  | nil => rfl
  | append_singleton hits hit ih =>
    rw [latchOf_concat, ih fun b hb => h b (mem_append_left _ hb),
      h hit (mem_append_right _ (mem_singleton_self hit))]
    rfl

theorem lossesOn_concat (day : Option ℤ) (trades : List SequentialTrade) (trade : SequentialTrade) :
    lossesOn day (trades ++ [trade]) =
      if trade.entryDay = day then lossesOn day trades ++ [trade.loses] else lossesOn day trades := by
  unfold lossesOn
  rw [filter_append, map_append, filter_singleton]
  by_cases hday : trade.entryDay = day
  · rw [if_pos hday, decide_eq_true hday]
    rfl
  · rw [if_neg hday, decide_eq_false hday]
    exact append_nil _

theorem heldBy_of_enteredDay {settings : ReplaySettings} {s : ReplayState} {item : ReplayItem} {day : ℤ}
    (h : enteredDay (item, s.verdict settings item) = some day) :
    s.heldBy item.spec = none ∧ ∃ entry, item.entry = some entry ∧ utcDay entry = day := by
  have hentry : ∃ entry, item.entry = some entry ∧ utcDay entry = day := by
    unfold enteredDay at h
    split at h
    · split at h
      · exact Option.map_eq_some_iff.1 h
      · cases h
    · exact Option.map_eq_some_iff.1 h
  refine ⟨?_, hentry⟩
  cases hheld : s.heldBy item.spec with
  | none => rfl
  | some reason =>
    have hverdict : s.verdict settings item = .skip reason := by
      unfold ReplayState.verdict
      rw [hheld]
    have hbefore : reason.afterReset = false := by
      unfold ReplayState.heldBy at hheld
      split at hheld
      · cases hheld
      · cases hheld
        rfl
      · split at hheld
        · cases hheld
          rfl
        · cases hheld
    rw [hverdict] at h
    unfold enteredDay at h
    dsimp only at h
    rw [hbefore] at h
    cases h

section

variable [CaseMap] {settings : ReplaySettings} {s : ReplayState} {item : ReplayItem}

theorem step_breakerDay (item : ReplayItem) : (s.step settings item).breakerDay =
    (enteredDay (item, s.verdict settings item)).or s.breakerDay := by
  unfold ReplayState.step
  cases hverdict : s.verdict settings item with
  | skip reason =>
    rw [settle_skip]
    cases enteredDay (item, .skip reason) with
    | none => rfl
    | some day => exact enterDay_breakerDay day
  | pass =>
    obtain ⟨entry, hentry⟩ := Option.ne_none_iff_exists'.1 fun hnone => verdict_of_entry_none hnone hverdict
    obtain ⟨splitEpoch, outcome, hresolved, haccepted⟩ := item_entry_eq_some.1 hentry
    have hentered : enteredDay (item, .pass) = some (utcDay entry) := by
      show item.entry.map utcDay = _
      rw [hentry]
      rfl
    rw [settle_pass hresolved haccepted, (take_occupies _ _ _).2.2.2, enterDay_breakerDay, hentered]
    rfl

theorem step_trades (item : ReplayItem) :
    (booking (item, s.verdict settings item) = none ∧ (s.step settings item).trades = s.trades) ∨
      ∃ trade day, (booking (item, s.verdict settings item)).isSome ∧
        enteredDay (item, s.verdict settings item) = some day ∧ (s.step settings item).trades = s.trades ++ [trade] ∧
        trade.entryDay = some day ∧ trade.loses = item.loses ∧ (s.enterDay day).breakerOpen = false := by
  rcases step_cases settings s item with ⟨⟨reason, hverdict⟩, htrades, -⟩ | ⟨entry, outcome, hpassed, htrades⟩
  · rw [hverdict]
    exact .inl ⟨rfl, htrades⟩
  · have hentered : enteredDay (item, .pass) = some (utcDay entry) := by
      show item.entry.map utcDay = _
      rw [hpassed.entered]
      rfl
    rw [hpassed.verdict, booking_pass hpassed.entered]
    rcases htrades with ⟨hsame, hnone⟩ | ⟨trade, htrade, -, houtcome, hloses, hsome⟩
    · rw [hnone]
      exact .inl ⟨rfl, hsame⟩
    · refine .inr ⟨trade, utcDay entry, ?_, hentered, htrade, hpassed.entryDay houtcome, hloses, hpassed.closed⟩
      rwa [Option.isSome_map]

omit [CaseMap] in
theorem ReplayState.Counting.found {k : ℕ} (h : s.Counting k) (hkept : DayKept s item) {day : ℤ}
    (hday : enteredDay (item, s.verdict settings item) = some day) :
    s.breakerAt day = latchOf k (lossesOn (some day) s.trades) := by
  obtain ⟨hfree, entry, hentry, rfl⟩ := heldBy_of_enteredDay hday
  rcases hkept hfree entry hentry with hsame | hnoloss
  · exact h.latch _ hsame
  · by_cases hsame : s.breakerDay = some (utcDay entry)
    · exact h.latch _ hsame
    · rw [breakerAt_of_ne hsame, latchOf_misses]
      intro hit hhit
      obtain ⟨trade, htrade, rfl⟩ := mem_map.1 hhit
      obtain ⟨hmem, hday⟩ := mem_filter.1 htrade
      exact hnoloss trade hmem (of_decide_eq_true hday)

theorem ReplayState.Counting.before {k : ℕ} (h : s.Counting k) (hkept : DayKept s item) {day : ℤ}
    (hday : (s.step settings item).breakerDay = some day) :
    (enteredDay (item, s.verdict settings item)).any (· ≠ day) = false ∧
      s.breakerAt day = latchOf k (lossesOn (some day) s.trades) := by
  rw [step_breakerDay] at hday
  cases hentered : enteredDay (item, s.verdict settings item) with
  | none =>
    rw [hentered, Option.none_or] at hday
    exact ⟨rfl, h.latch day hday⟩
  | some entered =>
    rw [hentered, Option.some_or] at hday
    cases hday
    exact ⟨by simp, h.found hkept hentered⟩

theorem counting_step {threshold : ℤ} (hthreshold : settings.consecutiveLossBreaker = some threshold)
    (h : s.Counting (max 1 threshold.toNat)) (hkept : DayKept s item) :
    (s.step settings item).Counting (max 1 threshold.toNat) := by
  have hbreaker : ∀ day, (s.step settings item).breakerAt day = _ :=
    settle_breaker hthreshold (item, s.verdict settings item)
  rcases step_trades item with ⟨hnone, htrades⟩ | ⟨trade, day, hsome, hentered, htrades, hday, hloses, hclosed⟩
  · constructor
    · intro day hday
      obtain ⟨hsame, hlatch⟩ := h.before hkept hday
      rw [hbreaker, hsame, hnone, hlatch, htrades]
      rfl
    · rw [htrades]
      exact h.held
  · have hfound := h.found hkept hentered
    constructor
    · intro day' hday'
      obtain ⟨hsame, hlatch⟩ := h.before hkept hday'
      have heq : day = day' := by
        rw [hentered, Option.any_some] at hsame
        simpa using hsame
      subst heq
      rw [hbreaker, hsame, if_neg Bool.false_ne_true, if_pos hsome, hlatch, htrades, lossesOn_concat, if_pos hday,
        latchOf_concat, hloses]
    · rw [htrades]
      intro before trade' hprefix
      rcases prefix_concat_iff.1 hprefix with hwhole | hprefix
      · obtain ⟨rfl, hlast⟩ := append_inj' hwhole rfl
        cases hlast
        rw [hday]
        intro hrun
        have htripped : (s.breakerAt day).tripped = true := by
          rw [hfound]
          exact (tripped_iff (by omega) _).2 hrun
        have hopen : (s.enterDay day).breakerOpen = true := htripped
        rw [hclosed] at hopen
        cases hopen
      · exact h.held before trade' hprefix

end

/-! ### Runs -/

/-- Every iteration of a run finds a state and a candidate of a kind. -/
def EveryStep [CaseMap] (settings : ReplaySettings) (P : ReplayState → ReplayItem → Prop) :
    ReplayState → List ReplayItem → Prop
  | _, [] => True
  | s, item :: items => P s item ∧ EveryStep settings P (s.step settings item) items

section

variable [CaseMap] {settings : ReplaySettings} {s : ReplayState} {items : List ReplayItem}

theorem apart_run {moment : ℤ} (h : s.ApartBy moment) (hmoment : ∀ item ∈ items, moment ≤ item.spec.signalClose)
    (hsorted : items.Pairwise fun a b => a.spec.signalClose ≤ b.spec.signalClose)
    (hoff : EveryStep settings OffExitBars s items) :
    (items.foldl (ReplayState.step settings) s).trades.Pairwise SequentialTrade.Apart := by
  induction items generalizing s moment with
  | nil => exact h.apart
  | cons item items ih =>
    obtain ⟨hfirst, hrest⟩ := pairwise_cons.1 hsorted
    exact ih (apart_step h (hmoment item mem_cons_self) hoff.1) hfirst hrest hoff.2

theorem counting_run {threshold : ℤ} (hthreshold : settings.consecutiveLossBreaker = some threshold)
    (h : s.Counting (max 1 threshold.toNat)) (hkept : EveryStep settings DayKept s items) :
    (items.foldl (ReplayState.step settings) s).Counting (max 1 threshold.toNat) := by
  induction items generalizing s with
  | nil => exact h
  | cons item items ih => exact ih (counting_step hthreshold h hkept.1) hkept.2

end

theorem replayItems_sorted (candidates : List PersistedCandidate) (series : String → Timeframe → Option SeriesArrays)
    (settings : ReplaySettings) :
    (replayItems candidates series settings).Pairwise fun a b => a.spec.signalClose ≤ b.spec.signalClose := by
  let le : PersistedCandidate → PersistedCandidate → Prop := fun a b => a.spec.signalClose < b.spec.signalClose ∨
    a.spec.signalClose = b.spec.signalClose ∧ a.spec.signalId ≤ b.spec.signalId
  have htotal : Std.Total le := ⟨fun a b => by
    rcases lt_trichotomy a.spec.signalClose b.spec.signalClose with hlt | heq | hgt
    · exact .inl (.inl hlt)
    · exact (String.le_total a.spec.signalId b.spec.signalId).imp (fun h => .inr ⟨heq, h⟩) fun h => .inr ⟨heq.symm, h⟩
    · exact .inr (.inl hgt)⟩
  have htrans : IsTrans PersistedCandidate le := ⟨fun a b c hab hbc => by
    rcases hab with hab | ⟨hab, hid⟩
    · rcases hbc with hbc | ⟨hbc, -⟩
      · exact .inl (hab.trans hbc)
      · exact .inl (hbc ▸ hab)
    · rcases hbc with hbc | ⟨hbc, hid'⟩
      · exact .inl (hab ▸ hbc)
      · exact .inr ⟨hab.trans hbc, String.le_trans hid hid'⟩⟩
  have hsorted : (orderCandidates candidates).Pairwise le := pairwise_insertionSort le candidates
  refine pairwise_map.2 (hsorted.imp fun {a b} hle => ?_)
  show a.spec.signalClose ≤ b.spec.signalClose
  rcases hle with hlt | ⟨heq, -⟩
  · exact hlt.le
  · exact heq.le

/-- **The gates of a run**: the caps hold; positions of a symbol are apart where no signal closes within an exit bar; the breaker
holds where no day with a loss is entered again. -/
theorem replay_gates [CaseMap] (candidates : List PersistedCandidate)
    (series : String → Timeframe → Option SeriesArrays) (settings : ReplaySettings) :
    let items := replayItems candidates series settings
    let trades := (simulateTrades candidates series settings).1
    WithinCaps settings trades ∧
      (EveryStep settings OffExitBars {} items → trades.Pairwise SequentialTrade.Apart) ∧
      ((∀ k ∈ settings.consecutiveLossBreaker, 1 ≤ k ∧ EveryStep settings DayKept {} items) →
        WithinBreaker settings trades) := by
  intro items trades
  have hsorted := replayItems_sorted candidates series settings
  refine ⟨(counted_run items counted_init).withinCaps, fun hoff => ?_, fun hkept k hk before trade hprefix => ?_⟩
  · obtain ⟨moment, hmoment⟩ : ∃ moment, ∀ item ∈ items, moment ≤ item.spec.signalClose := by
      obtain ⟨bound, hbound⟩ := exists_later (items.map fun item => -item.spec.signalClose)
      refine ⟨-bound, fun item hitem => ?_⟩
      have hlt := hbound _ (List.mem_map_of_mem hitem)
      omega
    have hinit : ({} : ReplayState).ApartBy moment := ⟨.nil, fun trade htrade => nomatch htrade⟩
    exact apart_run hinit hmoment hsorted hoff
  · obtain ⟨hpos, hkept⟩ := hkept k hk
    have hinit : ({} : ReplayState).Counting (max 1 k.toNat) := by
      refine ⟨fun day hday => by simp at hday, fun before trade hprefix => ?_⟩
      have hnil := List.prefix_nil.1 hprefix
      simp at hnil
    have hheld := (counting_run hk hinit hkept).held before trade hprefix
    have hmax : max 1 k.toNat = k.toNat := by omega
    rwa [hmax] at hheld

/-! ### Gates that fail -/

local instance gatesCase : CaseMap := asciiCase

def freshCandidate (spec : SignalSpec) : PersistedCandidate where
  spec := spec
  split := "exploration"
  storedOutcome := spec.outcome "random" .atSl
  stored_entry := fun entry hentry => by cases hentry

def latePlan : SignalSpec :=
  { twoBarPlan with signalId := "plan-2", signalClose := 120, stopLoss := 97, levels_pos := by norm_num [twoBarPlan] }

def sharedBarRun : List SequentialTrade :=
  (simulateTrades
    [freshCandidate twoBarPlan, freshCandidate latePlan]
    (fun _ _ => some ⟨[quietBar 60, ⟨120, 100, 101, 98, 100, some (1 / 10)⟩, quietBar 180], 0,
      by simp [Chronological, quietBar]⟩)
    { horizon := 2, horizon_pos := twoBarPlan.horizon_pos }).1

def storedCandidate (signalId symbol : String) (signalClose entry : ℤ) (h : signalClose ≤ entry) (status : ShadowStatus)
    (price : ℚ) : PersistedCandidate where
  spec := overlapSpec signalId symbol signalClose
  split := "exploration"
  storedOutcome :=
    { (overlapSpec signalId symbol signalClose).outcome "replay" .atSl with
      entryTime := some entry
      entryPrice := some 100
      status := status
      outcomeTime := some (entry + 60)
      outcomePrice := some price }
  stored_entry := by
    intro t ht
    obtain ⟨-, htime⟩ := ShadowOutcome.accepted_eq_some.1 ht
    cases htime
    exact ⟨h, 100, rfl, by show (100 : ℚ) ≠ 98; norm_num⟩

def breakerSettings : ReplaySettings where
  horizon := 20
  useStoredOutcome := true
  consecutiveLossBreaker := some 1
  horizon_pos := defaultHorizonBars_pos

def splitDayRun : List SequentialTrade :=
  (simulateTrades
    [storedCandidate "one" "FX VOL 20" 0 60 (by norm_num) .sl 98,
      storedCandidate "two" "SFX VOL 20" 86100 86460 (by norm_num) .tp 104,
      storedCandidate "three" "PAINX 1200" 86160 86160 (by norm_num) .tp 104]
    (fun _ _ => some overlapSeries) breakerSettings).1

/-- A position is entered on the bar that the last one of its symbol left, and a trade follows a loss of its day although the
breaker stops at the first. -/
theorem replay_gates_fail :
    sharedBarRun.map (fun t => (t.spec.symbol, t.outcome.entryTime, t.exitClose)) =
        [("PAINX 1200", some 60, some 180), ("PAINX 1200", some 120, some 240)] ∧
      splitDayRun.map (fun t => (t.spec.signalId, t.entryDay, t.loses)) =
        [("one", some 0, true), ("two", some 1, false), ("three", some 0, false)] ∧
      ¬sharedBarRun.Pairwise SequentialTrade.Apart ∧ ¬WithinBreaker breakerSettings splitDayRun := by
  have hruns : sharedBarRun.map (fun t => (t.spec.symbol, t.outcome.entryTime, t.exitClose)) =
        [("PAINX 1200", some 60, some 180), ("PAINX 1200", some 120, some 240)] ∧
      splitDayRun.map (fun t => (t.spec.signalId, t.entryDay, t.loses)) =
        [("one", some 0, true), ("two", some 1, false), ("three", some 0, false)] := by
    decide +kernel
  refine ⟨hruns.1, hruns.2, fun hapart => ?_, fun hbreaker => ?_⟩
  · obtain ⟨first, rest, hrun, hfirst, hrest⟩ := List.map_eq_cons_iff.1 hruns.1
    obtain ⟨second, rest, rfl, hsecond, -⟩ := List.map_eq_cons_iff.1 hrest
    simp only [Prod.mk.injEq] at hfirst hsecond
    rw [hrun] at hapart
    have hpair := (List.pairwise_cons.1 hapart).1 second List.mem_cons_self
    obtain ⟨exit, entry, hexit, hentry, hle⟩ := hpair (by rw [hfirst.1, hsecond.1])
    rw [hfirst.2.2] at hexit
    rw [hsecond.2.1] at hentry
    cases hexit
    cases hentry
    omega
  · obtain ⟨first, rest, hrun, hfirst, hrest⟩ := List.map_eq_cons_iff.1 hruns.2
    obtain ⟨second, rest, rfl, hsecond, hrest⟩ := List.map_eq_cons_iff.1 hrest
    obtain ⟨third, rest, rfl, hthird, -⟩ := List.map_eq_cons_iff.1 hrest
    simp only [Prod.mk.injEq] at hfirst hsecond hthird
    have hprefix : [first, second] ++ [third] <+: splitDayRun := by
      rw [hrun]
      exact ⟨rest, rfl⟩
    refine hbreaker 1 rfl [first, second] third hprefix ?_
    have hlosses : lossesOn third.entryDay [first, second] = [true] := by
      unfold lossesOn
      rw [hthird.2.1]
      simp [hfirst.2.1, hfirst.2.2, hsecond.2.1]
    rw [hlosses]
    exact List.infix_refl _

def twoLossSettings : ReplaySettings where
  horizon := 20
  useStoredOutcome := true
  consecutiveLossBreaker := some 2
  horizon_pos := defaultHorizonBars_pos

def oneDayItems : List PersistedCandidate :=
  [storedCandidate "one" "FX VOL 20" 0 60 (by norm_num) .sl 98,
    storedCandidate "two" "SFX VOL 20" 120 180 (by norm_num) .sl 98]

theorem replay_gates_one_day :
    let items := replayItems oneDayItems (fun _ _ => some overlapSeries) twoLossSettings
    let trades := (simulateTrades oneDayItems (fun _ _ => some overlapSeries) twoLossSettings).1
    (EveryStep twoLossSettings OffExitBars {} items ∧ EveryStep twoLossSettings DayKept {} items) ∧
      WithinCaps twoLossSettings trades ∧ trades.Pairwise SequentialTrade.Apart ∧ WithinBreaker twoLossSettings trades := by
  intro items trades
  have hrun : ∃ first second, items = [first, second] ∧
      (∀ trade ∈ (({} : ReplayState).step twoLossSettings first).trades, trade.spec.symbol ≠ second.spec.symbol) ∧
      (({} : ReplayState).step twoLossSettings first).breakerDay = some 0 ∧ second.entry = some 180 :=
    ⟨_, _, rfl, by decide +kernel⟩
  obtain ⟨first, second, hitems, hsymbol, hday, hentry⟩ := hrun
  have hsteps : EveryStep twoLossSettings OffExitBars {} items ∧ EveryStep twoLossSettings DayKept {} items := by
    rw [hitems]
    have hoff : OffExitBars {} first := fun _ trade htrade => nomatch htrade
    have hoff' : OffExitBars (({} : ReplayState).step twoLossSettings first) second :=
      fun _ trade htrade hsame => absurd hsame (hsymbol trade htrade)
    have hkept : DayKept {} first := fun _ _ _ => .inr fun trade htrade => nomatch htrade
    have hkept' : DayKept (({} : ReplayState).step twoLossSettings first) second := by
      intro _ entry hin
      rw [hentry] at hin
      cases hin
      exact .inl hday
    exact ⟨⟨hoff, hoff', trivial⟩, hkept, hkept', trivial⟩
  obtain ⟨hcaps, hapart, hbreaker⟩ := replay_gates oneDayItems (fun _ _ => some overlapSeries) twoLossSettings
  refine ⟨hsteps, hcaps, hapart hsteps.1, hbreaker fun k hk => ?_⟩
  cases hk
  exact ⟨by norm_num, hsteps.2⟩

end Jqe
