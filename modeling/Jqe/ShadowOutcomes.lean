import Jqe.PaperContract
import Mathlib.Data.List.Sort
/-!
# ShadowOutcomes — `research/shadow_outcomes.py`: the outcome of a signal on a series of bars

`resolve_signal` with the drill-down into detail bars and ticks.  Prices are rationals, moments whole seconds;
`resolved_at` (the clock at the call) and the bars' `source` are left out, and an exit mode is one of the three that
`EXIT_MODES` admits.
-/
namespace Jqe

def Timeframe.seconds : Timeframe → ℤ
  | m1 => 60
  | m5 => 300
  | m15 => 900
  | m30 => 1800
  | h1 => 3600
  | h4 => 14400
  | d1 => 86400

structure ShadowBar where
  time : ℤ
  open_ : ℚ
  high : ℚ
  low : ℚ
  close : ℚ
  /-- the spread in price units, where the rate carries one -/
  spreadPrice : Option ℚ
  deriving DecidableEq

structure ShadowTick where
  time : ℤ
  bid : Option ℚ
  ask : Option ℚ
  deriving DecidableEq

structure SignalSpec where
  signalId : String
  symbol : String
  timeframe : Timeframe
  side : OrderSide
  signalClose : ℤ
  stopLoss : ℚ
  takeProfit : ℚ
  legacyScore : Option ℤ
  institutionalScore : Option ℤ
  horizonBars : ℕ
  levels_pos : 0 < stopLoss ∧ 0 < takeProfit
  horizon_pos : 0 < horizonBars
  deriving DecidableEq

inductive ShadowStatus where
  | tp
  | sl
  | timeout
  | ambiguous
  | unresolved
  deriving DecidableEq

inductive ExitMode where
  | atSl
  | gapAware
  | conservativeSlippage
  deriving DecidableEq

structure ShadowOutcome where
  source : String
  signalId : String
  symbol : String
  timeframe : Timeframe
  side : OrderSide
  legacyScore : Option ℤ
  institutionalScore : Option ℤ
  signalClose : ℤ
  entryTime : Option ℤ
  entryPrice : Option ℚ
  stopLoss : ℚ
  takeProfit : ℚ
  status : ShadowStatus
  outcomeTime : Option ℤ
  outcomePrice : Option ℚ
  grossR : Option ℚ
  spreadCostPrice : Option ℚ
  netR : Option ℚ
  unresolvedReason : Option String
  ambiguityDetail : Option String
  exitMode : ExitMode
  deriving DecidableEq

/-- The fields that every `ShadowOutcome` of `resolve_signal` fills alike, unresolved without a reason. -/
def SignalSpec.outcome (signal : SignalSpec) (source : String) (exitMode : ExitMode) : ShadowOutcome where
  source := source
  signalId := signal.signalId
  symbol := signal.symbol
  timeframe := signal.timeframe
  side := signal.side
  legacyScore := signal.legacyScore
  institutionalScore := signal.institutionalScore
  signalClose := signal.signalClose
  entryTime := none
  entryPrice := none
  stopLoss := signal.stopLoss
  takeProfit := signal.takeProfit
  status := .unresolved
  outcomeTime := none
  outcomePrice := none
  grossR := none
  spreadCostPrice := none
  netR := none
  unresolvedReason := none
  ambiguityDetail := none
  exitMode := exitMode

/-- `_triggered`: `(hit_stop, hit_target)`, or the text of its `ValueError`. -/
def triggered (side : OrderSide) (bar : ShadowBar) (stop target : ℚ) : Except String (Bool × Bool) :=
  match bar.spreadPrice with
  | none => .error "bar spread unavailable"
  | some spread =>
    match side with
    | .buy => .ok (bar.low ≤ stop, target ≤ bar.high)
    | .sell => .ok (stop ≤ bar.high + spread, bar.low ≤ target)

def tickTriggered (side : OrderSide) (tick : ShadowTick) (stop target : ℚ) : Except String (Bool × Bool) :=
  match tick.bid, tick.ask with
  | some bid, some ask =>
    match side with
    | .buy => .ok (bid ≤ stop, target ≤ bid)
    | .sell => .ok (stop ≤ ask, bid ≤ target)
  | _, _ => .error "tick bid/ask unavailable"

/-- How a stop is filled: the accounting mode, the spread at the entry and the expected overshoot. -/
structure StopFill where
  exitMode : ExitMode
  entrySpreadPrice : ℚ
  overshootPrice : ℚ
  deriving DecidableEq

def opensThrough (side : OrderSide) (bar : ShadowBar) (stop : ℚ) : Bool :=
  match side with
  | .buy => bar.open_ ≤ stop
  | .sell => stop ≤ bar.open_ + bar.spreadPrice.getD 0

def stopFillPrice (side : OrderSide) (bar : ShadowBar) (stop : ℚ) (fill : StopFill) : ℚ :=
  if fill.exitMode = .atSl then stop
  else
    let spread := bar.spreadPrice.getD 0
    let adverse : ℚ := match side with
      | .buy => -1
      | .sell => 1
    let base :=
      if opensThrough side bar stop then
        match side with
        | .buy => min stop bar.open_
        | .sell => max stop (bar.open_ + spread)
      else stop + adverse * max 0 fill.overshootPrice
    if fill.exitMode = .conservativeSlippage then
      base + adverse * (max 0 fill.overshootPrice + max 0 (spread - fill.entrySpreadPrice))
    else base

structure Verdict where
  status : ShadowStatus
  time : Option ℤ
  price : Option ℚ
  detail : Option String
  deriving DecidableEq

/-- The ticks of a bar that hits both barriers, in order. -/
def resolveTicks (side : OrderSide) (stop target : ℚ) (fill : StopFill) (bar : ShadowBar) :
    List ShadowTick → Option Verdict
  | [] => none
  | tick :: ticks =>
    match tickTriggered side tick stop target with
    | .error text => some ⟨.ambiguous, some bar.time, none, some text⟩
    | .ok (true, true) => some ⟨.ambiguous, some tick.time, none, some "both barriers on one tick"⟩
    | .ok (true, false) => some ⟨.sl, some tick.time, some (stopFillPrice side bar stop fill), none⟩
    | .ok (false, true) => some ⟨.tp, some tick.time, some target, none⟩
    | .ok (false, false) => resolveTicks side stop target fill bar ticks

def resolveBar (side : OrderSide) (stop target : ℚ) (ticksByBar : List (ℤ × List ShadowTick)) (fill : StopFill)
    (bar : ShadowBar) : Option Verdict :=
  match triggered side bar stop target with
  | .error text => some ⟨.unresolved, none, none, some text⟩
  | .ok (false, false) => none
  | .ok (true, true) =>
    match resolveTicks side stop target fill bar ((ticksByBar.lookup bar.time).getD []) with
    | some verdict => some verdict
    | none => some ⟨.ambiguous, some bar.time, none, some "both barriers hit; tick order unavailable"⟩
  | .ok (true, false) => some ⟨.sl, some bar.time, some (stopFillPrice side bar stop fill), none⟩
  | .ok (false, true) => some ⟨.tp, some bar.time, some target, none⟩

def resolveSequence (side : OrderSide) (stop target : ℚ) (ticksByBar : List (ℤ × List ShadowTick)) (fill : StopFill)
    (bars : List ShadowBar) : Option Verdict :=
  bars.findSome? (resolveBar side stop target ticksByBar fill)

def resolveR (side : OrderSide) (entry price risk : ℚ) : ℚ :=
  match side with
  | .buy => (price - entry) / risk
  | .sell => (entry - price) / risk

/-- `sorted(bars, key=lambda item: item.time)`, a stable sort. -/
def sortByTime (bars : List ShadowBar) : List ShadowBar := bars.insertionSort fun a b => a.time ≤ b.time

/-- The drill-down data of a call: `detail_bars_by_parent` and `ticks_by_parent`. -/
structure DrillDown where
  detailBars : List (ℤ × List ShadowBar)
  ticks : List (ℤ × List ShadowTick)

/-- The bars a bar of the horizon is resolved by: its detail bars, or itself. -/
def DrillDown.sequence (drill : DrillDown) (parent : ShadowBar) : List ShadowBar :=
  match drill.detailBars.lookup parent.time with
  | some (d :: ds) => sortByTime (d :: ds)
  | _ => [parent]

/-- `detail_ticks`: every bar of a parent has the parent's ticks. -/
def DrillDown.ticksOf (drill : DrillDown) (parent : ShadowBar) : List (ℤ × List ShadowTick) :=
  (drill.sequence parent).map fun bar => (bar.time, (drill.ticks.lookup parent.time).getD [])

def SignalSpec.resolveParent (signal : SignalSpec) (drill : DrillDown) (fill : StopFill) (parent : ShadowBar) :
    Option Verdict :=
  resolveSequence signal.side signal.stopLoss signal.takeProfit (drill.ticksOf parent) fill (drill.sequence parent)

def SignalSpec.entryAt (signal : SignalSpec) (bar : ShadowBar) (spread : ℚ) : ℚ :=
  match signal.side with
  | .buy => bar.open_ + spread
  | .sell => bar.open_

def SignalSpec.riskAt (signal : SignalSpec) (entry : ℚ) : ℚ :=
  match signal.side with
  | .buy => entry - signal.stopLoss
  | .sell => signal.stopLoss - entry

def SignalSpec.markOf (signal : SignalSpec) (last : ShadowBar) (spread : ℚ) : ℚ :=
  match signal.side with
  | .buy => last.close
  | .sell => last.close + spread

/-- `resolve_signal` from the entry bar on: the bars of `ordered[next_index:]`. -/
def SignalSpec.resolveFrom (signal : SignalSpec) (drill : DrillDown) (source : String) (exitMode : ExitMode)
    (overshoot : ℚ) (entryBar : ShadowBar) (bars : List ShadowBar) : ShadowOutcome :=
  let base := { signal.outcome source exitMode with entryTime := some entryBar.time }
  match entryBar.spreadPrice with
  | none => { base with unresolvedReason := some "next-open spread unavailable" }
  | some spread =>
    let entry := signal.entryAt entryBar spread
    let risk := signal.riskAt entry
    let base := { base with entryPrice := some entry, spreadCostPrice := some spread }
    if risk ≤ 0 then { base with unresolvedReason := some "stop is not valid for next-open entry" }
    else
      let horizon := bars.take signal.horizonBars
      match horizon.findSome? (signal.resolveParent drill ⟨exitMode, spread, overshoot⟩) with
      | some ⟨.unresolved, time, _, detail⟩ => { base with outcomeTime := time, unresolvedReason := detail }
      | some ⟨.ambiguous, time, _, detail⟩ =>
        { base with status := .ambiguous, outcomeTime := time, ambiguityDetail := detail }
      | some ⟨status, time, price, _⟩ =>
        let resolvedPrice := price.getD (if status = .tp then signal.takeProfit else signal.stopLoss)
        let netR := resolveR signal.side entry resolvedPrice risk
        { base with status, outcomeTime := time, outcomePrice := price, grossR := some netR, netR := some netR }
      | none =>
        let last := horizon.getLast?.getD entryBar
        match last.spreadPrice with
        | none => { base with unresolvedReason := some "timeout mark-to-market spread unavailable" }
        | some lastSpread =>
          let mark := signal.markOf last lastSpread
          let netR := resolveR signal.side entry mark risk
          { base with
            status := .timeout
            -- `_bar_close_time`
            outcomeTime := some (last.time + signal.timeframe.seconds)
            outcomePrice := some mark
            grossR := some netR
            netR := some netR }

def SignalSpec.live (signal : SignalSpec) (bars : List ShadowBar) : List ShadowBar :=
  (sortByTime bars).dropWhile fun bar => bar.time < signal.signalClose

def resolveSignal (signal : SignalSpec) (bars : List ShadowBar) (drill : DrillDown) (source : String)
    (exitMode : ExitMode) (overshootPrice : Option ℚ) : ShadowOutcome :=
  let overshoot := max 0 (overshootPrice.getD 0)
  match signal.live bars with
  | [] => { signal.outcome source exitMode with unresolvedReason := some "next candle open unavailable" }
  | entryBar :: later => signal.resolveFrom drill source exitMode overshoot entryBar (entryBar :: later)

end Jqe
