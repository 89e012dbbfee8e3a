import Jqe.ForwardClock
import Jqe.PyText
/-!
# SequentialReplay — `research/sequential_replay.py`: the sequential simulator

`_simulate_trades` over persisted candidates, with their stored outcomes or outcomes resolved on the cached series.
-/
namespace Jqe

def ShadowStatus.entered : ShadowStatus → Bool
  | tp | sl | timeout | ambiguous => true
  | unresolved => false

def ShadowOutcome.accepted (outcome : ShadowOutcome) : Option ℤ :=
  if outcome.status.entered then outcome.entryTime else none

theorem ShadowOutcome.accepted_eq_some {outcome : ShadowOutcome} {entry : ℤ} :
    outcome.accepted = some entry ↔ outcome.status.entered = true ∧ outcome.entryTime = some entry := by
  unfold ShadowOutcome.accepted
  split <;> simp_all

def ShadowOutcome.exitPrice (outcome : ShadowOutcome) : Option ℚ :=
  match outcome.status with
  | .tp => some (outcome.outcomePrice.getD outcome.takeProfit)
  | .sl => some (outcome.outcomePrice.getD outcome.stopLoss)
  | .timeout => outcome.outcomePrice
  | .ambiguous | .unresolved => none

def planGeometryR (outcome : ShadowOutcome) (pessimistic : Bool) : Option ℚ :=
  if outcome.status = .ambiguous then some (if pessimistic then -1 else 0)
  else
    outcome.entryPrice.bind fun entry =>
      let risk := |entry - outcome.stopLoss|
      if risk ≤ 0 then none else outcome.exitPrice.map fun price => resolveR outcome.side entry price risk

def costAndReward (outcome : ShadowOutcome) : Option ℚ × Option ℚ :=
  match outcome.entryPrice with
  | none => (none, none)
  | some entry =>
    let risk := |entry - outcome.stopLoss|
    if risk ≤ 0 then (none, none)
    else
      let reward := match outcome.side with
        | .buy => outcome.takeProfit - entry
        | .sell => -(outcome.takeProfit - entry)
      (outcome.spreadCostPrice.map (· / risk), some (reward / risk))

def familyFor [CaseMap] (symbol : String) : String :=
  let upper := CaseMap.upper symbol
  if "FX VOL".isPrefixOf upper then "FX Vol"
  else if "SFX VOL".isPrefixOf upper then "SFX Vol"
  else if "MAX PAINX".isPrefixOf upper then "MAX PainX"
  else if "PAINX".isPrefixOf upper then "PainX"
  else "Other"

/-- What an entered outcome of a plan says of its entry, whatever comes of the trade. -/
def ShadowOutcome.EntryOf (outcome : ShadowOutcome) (spec : SignalSpec) : Prop :=
  ∀ entry ∈ outcome.accepted, spec.signalClose ≤ entry ∧
    ∃ price, outcome.entryPrice = some price ∧ price ≠ outcome.stopLoss

/-- A persisted row: the resolver wrote the stored outcome. -/
structure PersistedCandidate where
  spec : SignalSpec
  split : String
  storedOutcome : ShadowOutcome
  stored_entry : storedOutcome.EntryOf spec

structure SeriesArrays where
  bars : List ShadowBar
  splitEpoch : ℤ
  bars_sorted : Chronological bars

def SeriesArrays.sliceFor (series : SeriesArrays) (signalClose : ℤ) (horizon : ℕ) : List ShadowBar :=
  let index := series.bars.findIdx fun bar => signalClose ≤ bar.time
  (series.bars.drop index).take (max 1 horizon)

structure ReplaySettings where
  horizon : ℕ
  globalCap : ℤ := 20
  perInstrumentCap : ℤ := 20
  useStoredOutcome : Bool := false
  dailyLossStop : Option ℚ := none
  consecutiveLossBreaker : Option ℤ := none
  horizon_pos : 0 < horizon

def resolveFast (spec : SignalSpec) (series : SeriesArrays) (settings : ReplaySettings) (source : String) :
    ShadowOutcome :=
  let bars := series.sliceFor spec.signalClose settings.horizon
  let adjusted := { spec with horizonBars := settings.horizon, horizon_pos := settings.horizon_pos }
  resolveSignal adjusted bars noDrill source .atSl none

/-! ### What the resolver says of an entry -/

theorem resolveFrom_price {signal : SignalSpec} {drill : DrillDown} {source : String} {exitMode : ExitMode}
    {overshoot : ℚ} {entryBar : ShadowBar} {bars : List ShadowBar}
    (h : (signal.resolveFrom drill source exitMode overshoot entryBar bars).status ≠ .unresolved) :
    ∃ price, (signal.resolveFrom drill source exitMode overshoot entryBar bars).entryPrice = some price ∧
      price ≠ (signal.resolveFrom drill source exitMode overshoot entryBar bars).stopLoss := by
  unfold SignalSpec.resolveFrom at h ⊢
  cases hspread : entryBar.spreadPrice with
  | none =>
    rw [hspread] at h
    exact absurd rfl h
  | some spread =>
    rw [hspread] at h
    dsimp only at h ⊢
    by_cases hrisk : signal.riskAt (signal.entryAt entryBar spread) ≤ 0
    · rw [if_pos hrisk] at h
      exact absurd rfl h
    · rw [if_neg hrisk] at h ⊢
      have hoff : signal.entryAt entryBar spread ≠ signal.stopLoss := by
        intro heq
        rw [heq] at hrisk
        unfold SignalSpec.riskAt at hrisk
        cases hside : signal.side <;> rw [hside] at hrisk <;> simp at hrisk
      refine ⟨signal.entryAt entryBar spread, ?_⟩
      split at h
      · exact absurd rfl h
      · exact ⟨rfl, hoff⟩
      · exact ⟨rfl, hoff⟩
      · split at h
        · exact absurd rfl h
        · exact ⟨rfl, hoff⟩

/-- **An outcome of `resolve_signal` that is entered has its entry at or after the signal close, off the stop.** -/
theorem resolveSignal_entryOf (signal : SignalSpec) (bars : List ShadowBar) (drill : DrillDown) (source : String)
    (exitMode : ExitMode) (overshoot : Option ℚ) :
    (resolveSignal signal bars drill source exitMode overshoot).EntryOf signal := by
  intro entry hentry
  obtain ⟨hstatus, htime⟩ := ShadowOutcome.accepted_eq_some.1 hentry
  unfold resolveSignal at hstatus htime ⊢
  cases hlive : signal.live bars with
  | nil =>
    rw [hlive] at htime
    cases htime
  | cons entryBar later =>
    rw [hlive] at hstatus htime
    dsimp only at hstatus htime ⊢
    obtain ⟨-, -, hbar⟩ := resolveFrom_key signal drill source exitMode (max 0 (overshoot.getD 0)) entryBar
      (entryBar :: later)
    rw [hbar] at htime
    cases htime
    refine ⟨le_of_mem_live (hlive ▸ List.mem_cons_self), resolveFrom_price fun hnone => ?_⟩
    rw [hnone] at hstatus
    cases hstatus

theorem resolveFast_entryOf (spec : SignalSpec) (series : SeriesArrays) (settings : ReplaySettings)
    (source : String) : (resolveFast spec series settings source).EntryOf spec :=
  resolveSignal_entryOf _ _ _ _ _ _

/-! ### The loop -/

inductive SkipReason where
  | openUnresolved
  | openPosition
  | missingSeries
  | notEnteredOrUnresolved
  | consecutiveLossBreaker
  | dailyLossStop
  | globalDailyCap
  | instrumentDailyCap
  | invalidR
  deriving DecidableEq

/-- A candidate with the split epoch of its series and its outcome there; `none` without a series. -/
structure ReplayItem where
  spec : SignalSpec
  split : String
  resolved : Option (ℤ × ShadowOutcome)
  entryOf : ∀ r ∈ resolved, r.2.EntryOf spec

/-- The outcome of a candidate: the stored one, or the one resolved on the series. -/
def PersistedCandidate.resolve (candidate : PersistedCandidate) (settings : ReplaySettings) (series : SeriesArrays) :
    ShadowOutcome :=
  if settings.useStoredOutcome ∧ settings.horizon = 20 then candidate.storedOutcome
  else resolveFast candidate.spec series settings "sequential"

def PersistedCandidate.item (candidate : PersistedCandidate) (settings : ReplaySettings)
    (series : String → Timeframe → Option SeriesArrays) : ReplayItem where
  spec := candidate.spec
  split := candidate.split
  resolved := (series candidate.spec.symbol candidate.spec.timeframe).map fun s =>
    (s.splitEpoch, candidate.resolve settings s)
  entryOf := by
    intro r hr
    obtain ⟨s, -, rfl⟩ := Option.map_eq_some_iff.1 hr
    show (candidate.resolve settings s).EntryOf candidate.spec
    unfold PersistedCandidate.resolve
    split
    · exact candidate.stored_entry
    · exact resolveFast_entryOf _ _ _ _

structure SequentialTrade where
  spec : SignalSpec
  outcome : ShadowOutcome
  split : String
  family : String
  neutralR : ℚ
  pessimisticR : ℚ
  spreadCostR : Option ℚ
  rewardR : Option ℚ

structure ReplayState where
  openUntil : String → Option (Option ℤ) := fun _ => none
  globalCounts : ℤ → ℕ := fun _ => 0
  instrumentCounts : String × ℤ → ℕ := fun _ => 0
  trades : List SequentialTrade := []
  skipped : SkipReason → ℕ := fun _ => 0
  dailyRealizedR : ℤ → ℚ := fun _ => 0
  consecutiveLosses : ℕ := 0
  breakerOpen : Bool := false
  breakerDay : Option ℤ := none

/-- Where an iteration leaves the loop body: at a `continue` before the caps are used, or past them. -/
inductive ReplayVerdict where
  | skip (reason : SkipReason)
  | pass
  deriving DecidableEq

def ReplayItem.entry (item : ReplayItem) : Option ℤ := item.resolved.bind fun r => r.2.accepted

def ReplayItem.tradeR (item : ReplayItem) : Option (ℚ × ℚ) :=
  item.resolved.bind fun r =>
    (planGeometryR r.2 false).bind fun neutral => (planGeometryR r.2 true).map fun pessimistic => (neutral, pessimistic)

def ReplayState.heldBy (s : ReplayState) (spec : SignalSpec) : Option SkipReason :=
  match s.openUntil spec.symbol with
  | none => none
  | some none => some .openUnresolved
  | some (some priorRelease) => if spec.signalClose < priorRelease then some .openPosition else none

/-- The reset of the breaker on another day. -/
def ReplayState.enterDay (s : ReplayState) (entryDay : ℤ) : ReplayState :=
  if s.breakerDay = some entryDay then s
  else { s with breakerDay := some entryDay, consecutiveLosses := 0, breakerOpen := false }

/-- The four checks after the reset. -/
def ReplayState.gatedBy (settings : ReplaySettings) (s : ReplayState) (symbol : String) (entryDay : ℤ) :
    Option SkipReason :=
  if s.breakerOpen then some .consecutiveLossBreaker
  else if settings.dailyLossStop.any fun stop => s.dailyRealizedR entryDay ≤ stop then some .dailyLossStop
  else if settings.globalCap ≤ s.globalCounts entryDay then some .globalDailyCap
  else if settings.perInstrumentCap ≤ s.instrumentCounts (symbol, entryDay) then some .instrumentDailyCap
  else none

def ReplayState.verdict (settings : ReplaySettings) (s : ReplayState) (item : ReplayItem) : ReplayVerdict :=
  match s.heldBy item.spec with
  | some reason => .skip reason
  | none =>
    match item.resolved with
    | none => .skip .missingSeries
    | some r =>
      match r.2.accepted with
      | none => .skip .notEnteredOrUnresolved
      | some entry =>
        match (s.enterDay (utcDay entry)).gatedBy settings item.spec.symbol (utcDay entry) with
        | some reason => .skip reason
        | none => .pass

def ReplayState.note (s : ReplayState) (reason : SkipReason) : ReplayState :=
  { s with skipped := Function.update s.skipped reason (s.skipped reason + 1) }

/-- The caps and the lock of a candidate that passed the checks. -/
def ReplayState.occupy (s : ReplayState) (symbol : String) (entryDay : ℤ) (release : Option ℤ) : ReplayState :=
  { s with
    globalCounts := Function.update s.globalCounts entryDay (s.globalCounts entryDay + 1)
    instrumentCounts :=
      Function.update s.instrumentCounts (symbol, entryDay) (s.instrumentCounts (symbol, entryDay) + 1)
    openUntil := Function.update s.openUntil symbol (some release) }

def ReplayState.recordLoss (settings : ReplaySettings) (s : ReplayState) (pessimistic : ℚ) : ReplayState :=
  match settings.consecutiveLossBreaker with
  | none => s
  | some threshold =>
    if pessimistic < 0 then
      { s with
        consecutiveLosses := s.consecutiveLosses + 1
        breakerOpen := s.breakerOpen || decide (threshold ≤ (s.consecutiveLosses + 1 : ℕ)) }
    else { s with consecutiveLosses := 0 }

def ReplayItem.trade [CaseMap] (item : ReplayItem) (splitEpoch : ℤ) (outcome : ShadowOutcome)
    (neutral pessimistic : ℚ) : SequentialTrade where
  spec := item.spec
  outcome := outcome
  split :=
    if item.split = "exploration" ∨ item.split = "holdout" then item.split
    else if outcome.signalClose < splitEpoch then "exploration" else "holdout"
  family := familyFor item.spec.symbol
  neutralR := neutral
  pessimisticR := pessimistic
  spreadCostR := (costAndReward outcome).1
  rewardR := (costAndReward outcome).2

/-- The assignments of a candidate that passed the checks. -/
def ReplayState.take [CaseMap] (settings : ReplaySettings) (s : ReplayState) (item : ReplayItem) (splitEpoch : ℤ)
    (outcome : ShadowOutcome) (entryDay : ℤ) : ReplayState :=
  let s := s.occupy item.spec.symbol entryDay outcome.outcomeTime
  match item.tradeR with
  | none => s.note .invalidR
  | some (neutral, pessimistic) =>
    { s with
      trades := s.trades ++ [item.trade splitEpoch outcome neutral pessimistic]
      dailyRealizedR := Function.update s.dailyRealizedR entryDay (s.dailyRealizedR entryDay + neutral)
      : ReplayState }.recordLoss settings pessimistic

def SkipReason.afterReset : SkipReason → Bool
  | consecutiveLossBreaker | dailyLossStop | globalDailyCap | instrumentDailyCap => true
  | _ => false

/-- The assignments of one iteration that ends with a verdict. -/
def ReplayState.settle [CaseMap] (settings : ReplaySettings) (s : ReplayState) (item : ReplayItem)
    (verdict : ReplayVerdict) : ReplayState :=
  match verdict with
  | .skip reason =>
    match item.entry with
    | some entry => if reason.afterReset then (s.enterDay (utcDay entry)).note reason else s.note reason
    | none => s.note reason
  | .pass =>
    match item.resolved with
    | none => s
    | some (splitEpoch, outcome) =>
      match outcome.accepted with
      | none => s
      | some entry => (s.enterDay (utcDay entry)).take settings item splitEpoch outcome (utcDay entry)

def ReplayState.step [CaseMap] (settings : ReplaySettings) (s : ReplayState) (item : ReplayItem) : ReplayState :=
  s.settle settings item (s.verdict settings item)

/-- `sorted(candidates, key=lambda item: (item.spec.signal_close, item.spec.signal_id))`. -/
def orderCandidates (candidates : List PersistedCandidate) : List PersistedCandidate :=
  candidates.insertionSort fun a b =>
    a.spec.signalClose < b.spec.signalClose ∨
      a.spec.signalClose = b.spec.signalClose ∧ a.spec.signalId ≤ b.spec.signalId

def replayItems (candidates : List PersistedCandidate) (series : String → Timeframe → Option SeriesArrays)
    (settings : ReplaySettings) : List ReplayItem :=
  (orderCandidates candidates).map fun candidate => candidate.item settings series

def simulateTrades [CaseMap] (candidates : List PersistedCandidate)
    (series : String → Timeframe → Option SeriesArrays) (settings : ReplaySettings) :
    List SequentialTrade × (SkipReason → ℕ) :=
  let s := (replayItems candidates series settings).foldl (ReplayState.step settings) {}
  (s.trades, s.skipped)

end Jqe
