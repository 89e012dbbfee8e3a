import Jqe.MainRun
/-!
# Backtest — `backtesting/engine.py`: the single-position backtest engine

The engine as a state that each call returns, or an exception in its place.  Floats are rationals, but for the ATR of a
row, which may be no number.  The costs rendered into the reasons of a rejected entry are left out, and so is
`execute_trade`, which the runner does not use.
-/
namespace Jqe

inductive BacktestExitReason where
  | stopLoss
  | takeProfit
  | timeout
  | endOfData
  deriving DecidableEq

structure BacktestExecutionAssumptions where
  spread : ℚ := 0
  slippage : ℚ := 0
  feePerTrade : ℚ := 0
  maxHoldingCandles : ℕ := 19
  stopAtrMultiple : ℚ := 3 / 2
  targetAtrMultiple : ℚ := 3
  adverseSlippageAtrFraction : ℚ := 0
  spreadAtrFraction : ℚ := 0
  costs_nonneg : 0 ≤ spread ∧ 0 ≤ slippage ∧ 0 ≤ feePerTrade ∧ 0 ≤ adverseSlippageAtrFraction ∧
    0 ≤ spreadAtrFraction := by norm_num
  holding_pos : 0 < maxHoldingCandles := by norm_num
  multiples_pos : 0 < stopAtrMultiple ∧ 0 < targetAtrMultiple := by norm_num

structure BacktestRiskConfiguration where
  riskPercent : ℚ := 1
  minimumConfidence : ℤ := 70
  minimumAtr : ℚ := 1
  maximumSpread : ℚ := 30
  riskPercent_mem : 0 < riskPercent ∧ riskPercent ≤ 100 := by norm_num
  minimumConfidence_mem : 0 ≤ minimumConfidence ∧ minimumConfidence ≤ 100 := by norm_num
  limits_nonneg : 0 ≤ minimumAtr ∧ 0 ≤ maximumSpread := by norm_num

/-- **A row of a candle table with valid OHLC.** -/
structure BacktestRow where
  time : ℤ
  open_ : ℚ
  high : ℚ
  low : ℚ
  close : ℚ
  atr : PyFloat
  spread : ℚ
  ohlc_ok : max open_ close ≤ high ∧ low ≤ min open_ close

structure BacktestTrade where
  tradeId : ℕ
  direction : OrderSide
  signalTimestamp : ℤ
  entryTimestamp : ℤ
  entryPrice : ℚ
  exitTimestamp : ℤ
  exitPrice : ℚ
  stopPrice : ℚ
  targetPrice : ℚ
  quantity : ExecutionQuantity
  grossPnl : ℚ
  costs : ℚ
  netPnl : ℚ
  balanceBefore : ℚ
  balanceAfter : ℚ
  holdingCandles : ℤ
  exitReason : BacktestExitReason
  deriving DecidableEq

structure BacktestDecision where
  candleIndex : ℕ
  timestamp : ℤ
  signal : String
  confidence : ℤ
  state : String
  reasons : List String
  entryPrice : Option ℚ
  stopPrice : Option ℚ
  targetPrice : Option ℚ
  deriving DecidableEq

/-- A signal dictionary: its `trade_plan`'s levels among the rest. -/
structure BacktestSignal where
  signal : Option String
  confidence : ℤ
  reasons : List String
  entry : Option ℚ
  stopLoss : Option ℚ
  takeProfit : Option ℚ

structure PendingSignal where
  direction : OrderSide
  confidence : ℤ
  signalIndex : ℕ
  atr : PyFloat
  deriving DecidableEq

structure OpenPosition where
  direction : OrderSide
  signalIndex : ℕ
  entryIndex : ℕ
  entryPrice : ℚ
  stop : ℚ
  target : ℚ
  quantity : ExecutionQuantity
  balanceBefore : ℚ
  deriving DecidableEq

structure BacktestConfiguration where
  startingBalance : ℚ
  risk : BacktestRiskConfiguration := {}
  execution : BacktestExecutionAssumptions := {}
  startingBalance_pos : 0 < startingBalance

structure BacktestEngine where
  balance : ℚ
  pending : Option PendingSignal
  position : Option OpenPosition
  trades : List BacktestTrade
  decisions : List BacktestDecision
  equityCurve : List ℚ
  totalTrades : ℕ
  wins : ℕ
  losses : ℕ
  deriving DecidableEq

def BacktestEngine.new (cfg : BacktestConfiguration) : BacktestEngine :=
  ⟨cfg.startingBalance, none, none, [], [], [cfg.startingBalance], 0, 0, 0⟩

/-- `authorize_execution_quantity` for the broker `"simulation"`. -/
def authorizeSimulationQuantity (balance riskPercent entry stopLoss : ℚ) : ExecutionSizingDecision :=
  let authorizedRisk := balance * riskPercent / 100
  let stopDistance := |entry - stopLoss|
  if authorizedRisk ≤ 0 ∨ stopDistance ≤ 0 then
    ⟨.fin authorizedRisk, none, none, false, "Risk amount or stop distance is invalid"⟩
  else
    -- `floor_synthetic_quantity_exact`; its defensive decrement never runs
    let increment : ℚ := 1 / 10 ^ 12
    let quantity := (authorizedRisk / stopDistance / increment).floor * increment
    if h : quantity < increment then
      ⟨.fin authorizedRisk, none, none, false, "Authorized risk is below the synthetic minimum quantity"⟩
    else
      ⟨.fin authorizedRisk, some ⟨quantity, .simulationUnits, by
          have hpos : (0 : ℚ) < increment := by norm_num [increment]
          linarith⟩,
        some (.fin (quantity * stopDistance)), true,
        "JQE synthetic simulation proof verifies linear stop risk"⟩

/-- `approve_trade` with `enforce_limits=False`, on a row: the reason of a refusal. -/
def backtestRefusal (risk : BacktestRiskConfiguration) (signal : BacktestSignal) (row : BacktestRow) : Option String :=
  if signal.signal ≠ some "BUY" ∧ signal.signal ≠ some "SELL" then some "No trade signal"
  else if signal.confidence < risk.minimumConfidence then some "Confidence too low"
  else if row.atr.lt (.fin risk.minimumAtr) then some "Low volatility"
  else if risk.maximumSpread < row.spread then some "Spread too high"
  else none

def rowAt (table : List BacktestRow) (index : ℕ) : Except PyExc BacktestRow :=
  match table[index]? with
  | some row => .ok row
  | none => .error (.exception "single positional indexer is out-of-bounds")

namespace BacktestEngine

variable (cfg : BacktestConfiguration) (table : List BacktestRow)

def enter (e : BacktestEngine) (p : PendingSignal) (index : ℕ) (row : BacktestRow) : Except PyExc BacktestEngine :=
  let ea := cfg.execution
  let riskAmount := e.balance * cfg.risk.riskPercent / 100
  let refused := riskAmount ≤ ea.feePerTrade ∨ e.balance < riskAmount
  match p.atr.rat? with
  | none =>
    -- the stop distance is no positive number, which the synthetic contract refuses
    if refused then .ok e else .error (.exception "stop_risk_per_unit must be a positive finite number")
  | some atr =>
    let totalAdverse := ea.spread + ea.slippage + atr * (ea.spreadAtrFraction + ea.adverseSlippageAtrFraction)
    let entry := match p.direction with
      | .buy => row.open_ + totalAdverse
      | .sell => row.open_ - totalAdverse
    let stopDistance := atr * ea.stopAtrMultiple
    let stop := match p.direction with
      | .buy => entry - stopDistance
      | .sell => entry + stopDistance
    let target := match p.direction with
      | .buy => entry + atr * ea.targetAtrMultiple
      | .sell => entry - atr * ea.targetAtrMultiple
    if stopDistance ≤ 0 ∨ refused then .ok e
    else
      let sizing := authorizeSimulationQuantity e.balance cfg.risk.riskPercent entry stop
      match sizing.riskVerifiable, sizing.quantity with
      | true, some quantity =>
        .ok { e with position := some ⟨p.direction, p.signalIndex, index, entry, stop, target, quantity, e.balance⟩ }
      | _, _ =>
        .ok { e with decisions := e.decisions ++ [⟨index, row.time, p.direction.value, p.confidence,
          "EXECUTION_REJECTED", [sizing.reason], none, none, none⟩] }

def close (e : BacktestEngine) (p : OpenPosition) (index : ℕ) (exitPrice : ℚ) (reason : BacktestExitReason) :
    Except PyExc BacktestEngine := do
  let gross := (match p.direction with
    | .buy => exitPrice - p.entryPrice
    | .sell => p.entryPrice - exitPrice) * p.quantity.value
  let costs := cfg.execution.feePerTrade
  let before := p.balanceBefore
  let balance := max 0 (e.balance + (gross - costs))
  let net := balance - before
  let signalRow ← rowAt table p.signalIndex
  let entryRow ← rowAt table p.entryIndex
  let exitRow ← rowAt table index
  let trade : BacktestTrade :=
    { tradeId := e.trades.length + 1
      direction := p.direction
      signalTimestamp := signalRow.time
      entryTimestamp := entryRow.time
      entryPrice := p.entryPrice
      exitTimestamp := exitRow.time
      exitPrice
      stopPrice := p.stop
      targetPrice := p.target
      quantity := p.quantity
      grossPnl := gross
      costs
      netPnl := net
      balanceBefore := before
      balanceAfter := balance
      holdingCandles := index - p.entryIndex + 1
      exitReason := reason }
  return { e with
    balance
    trades := e.trades ++ [trade]
    equityCurve := e.equityCurve ++ [balance]
    totalTrades := e.totalTrades + 1
    wins := e.wins + if 0 < net then 1 else 0
    losses := e.losses + if net < 0 then 1 else 0
    position := none }

def stopHit (p : OpenPosition) (row : BacktestRow) : Bool :=
  match p.direction with
  | .buy => row.low ≤ p.stop
  | .sell => p.stop ≤ row.high

def targetHit (p : OpenPosition) (row : BacktestRow) : Bool :=
  match p.direction with
  | .buy => p.target ≤ row.high
  | .sell => row.low ≤ p.target

def evaluateExit (e : BacktestEngine) (p : OpenPosition) (index : ℕ) (row : BacktestRow) : Except PyExc BacktestEngine :=
  if stopHit p row then e.close cfg table p index p.stop .stopLoss
  else if targetHit p row then e.close cfg table p index p.target .takeProfit
  else if (cfg.execution.maxHoldingCandles : ℤ) ≤ index - p.entryIndex + 1 then
    e.close cfg table p index row.close .timeout
  else .ok e

/-- The entry of `process_candle`: a pending signal of an earlier candle is entered, or dropped. -/
def enterPending (e : BacktestEngine) (index : ℕ) (row : BacktestRow) : Except PyExc BacktestEngine :=
  match e.position, e.pending with
  | none, some p =>
    if p.signalIndex < index then do
      let entered ← e.enter cfg p index row
      return { entered with pending := none }
    else .ok e
  | _, _ => .ok e

def processCandle (e : BacktestEngine) (index : ℕ) : Except PyExc BacktestEngine := do
  let row ← rowAt table index
  let e ← e.enterPending cfg index row
  match e.position with
  | some p => e.evaluateExit cfg table p index row
  | none => return e

/-- What `queue_signal` makes of a signal: its state, its reasons and the signal that waits. -/
def judge (e : BacktestEngine) (signal : BacktestSignal) (index : ℕ) (row : BacktestRow) :
    String × List String × Option PendingSignal :=
  if e.position.isSome then ("REJECTED_CANDIDATE", signal.reasons ++ ["Position already open"], e.pending)
  else if e.pending.isSome then ("REJECTED_CANDIDATE", signal.reasons ++ ["Entry already pending"], e.pending)
  else
    match signal.signal.bind OrderSide.ofText? with
    | none => ("NO_TRADE", signal.reasons, e.pending)
    | some direction =>
      if signal.confidence < cfg.risk.minimumConfidence then
        ("REJECTED_CANDIDATE", signal.reasons ++ ["Confidence below backtest minimum"], e.pending)
      else if row.atr.le .zero then ("INSUFFICIENT_SETUP", signal.reasons ++ ["ATR unavailable"], e.pending)
      else
        match backtestRefusal cfg.risk signal row with
        | none => ("QUEUED", signal.reasons, some ⟨direction, signal.confidence, index, row.atr⟩)
        | some reason => ("RISK_BLOCKED", signal.reasons ++ [reason], e.pending)

def signalText (signal : BacktestSignal) : String :=
  match signal.signal with
  | none | some "" => "NO_TRADE"
  | some text => text

def queueSignal (e : BacktestEngine) (signal : BacktestSignal) (index : ℕ) : Except PyExc BacktestEngine := do
  let row ← rowAt table index
  let (state, reasons, pending) := e.judge cfg signal index row
  return { e with
    pending
    decisions := e.decisions ++ [⟨index, row.time, signalText signal, signal.confidence, state, reasons,
      signal.entry, signal.stopLoss, signal.takeProfit⟩] }

def finish (e : BacktestEngine) (finalIndex : ℕ) : Except PyExc BacktestEngine :=
  match e.position with
  | none => .ok { e with pending := none }
  | some p => do
    let row ← rowAt table finalIndex
    let closed ← e.close cfg table p finalIndex row.close .endOfData
    return { closed with pending := none }

end BacktestEngine

inductive BacktestCall where
  | process (index : ℕ)
  | queue (signal : BacktestSignal) (index : ℕ)

def BacktestCall.index : BacktestCall → ℕ
  | process index => index
  | queue _ index => index

def BacktestEngine.call (cfg : BacktestConfiguration) (table : List BacktestRow) (e : BacktestEngine) :
    BacktestCall → Except PyExc BacktestEngine
  | .process index => e.processCandle cfg table index
  | .queue signal index => e.queueSignal cfg table signal index

def BacktestEngine.calls (cfg : BacktestConfiguration) (table : List BacktestRow) :
    BacktestEngine → List BacktestCall → Except PyExc BacktestEngine
  | e, [] => .ok e
  | e, c :: cs => do
    let e ← e.call cfg table c
    calls cfg table e cs

/-- **A run**: calls from a new engine, then `finish`. -/
def backtestRun (cfg : BacktestConfiguration) (table : List BacktestRow) (calls : List BacktestCall) (finalIndex : ℕ) :
    Except PyExc BacktestEngine := do
  let e ← (BacktestEngine.new cfg).calls cfg table calls
  e.finish cfg table finalIndex

/-- The calls of the loop of `run_backtest`: each candle is processed, then its signal is queued. -/
def loopCalls (signals : ℕ → BacktestSignal) (start count : ℕ) : List BacktestCall :=
  (List.range' start count).flatMap fun i => [.process i, .queue (signals i) i]

end Jqe
