import Jqe.Sha256
import Jqe.CoroTrace
import Jqe.Executor
import Jqe.FillObserve
import Jqe.RiskEngine
/-!
# MainRun — `main.run`: one cycle of analysis and trading

The cycle as a program over everything it calls, from the account to the observation of the fill.  The indicators, the
regime, the signal and the plan are one function of the closed bars.  What is only published (the risk and safety
snapshots, the journal) is one kind of request; notifications, charts and log lines are left out.
-/
namespace Jqe

variable [CaseMap]

/-- **The signal and the order planned on it**, as the key is built from them. -/
structure PlannedOrder where
  symbol : String
  side : OrderSide
  quantity : Option ExecutionQuantity
  entry : PyFloat
  stopLoss : PyFloat
  takeProfit : PyFloat
  signalTime : Int
  deriving DecidableEq

namespace PlannedOrder

def payload (p : PlannedOrder) : String :=
  let items : List (String × String) := [
    ("entry", jsonString p.entry.formatG17),
    ("quantity_unit", jsonText (p.quantity.map (·.unit.value))),
    ("quantity_value", jsonText (p.quantity.map fun q => formatG17 q.value)),
    ("side", jsonString (normalizeSymbol p.side.value)),
    ("signal_time", jsonString (isoformat p.signalTime)),
    ("stop_loss", jsonString p.stopLoss.formatG17),
    ("symbol", jsonString (normalizeSymbol p.symbol)),
    ("take_profit", jsonString p.takeProfit.formatG17)]
  "\x7b" ++ ",".intercalate (items.map fun (name, value) => jsonString name ++ ":" ++ value) ++ "\x7d"

/-- The characters of the payload, entry by entry: to evaluate the key without a scan of the whole text. -/
def payloadChars (p : PlannedOrder) : List Char :=
  let items : List (String × List Char) := [
    ("entry", (jsonString p.entry.formatG17).toList),
    ("quantity_unit", (jsonText (p.quantity.map (·.unit.value))).toList),
    ("quantity_value", (jsonText (p.quantity.map fun q => formatG17 q.value)).toList),
    ("side", (jsonString (normalizeSymbol p.side.value)).toList),
    ("signal_time", (jsonString (isoformat p.signalTime)).toList),
    ("stop_loss", (jsonString p.stopLoss.formatG17).toList),
    ("symbol", (jsonString (normalizeSymbol p.symbol)).toList),
    ("take_profit", (jsonString p.takeProfit.formatG17).toList)]
  "\x7b".toList ++ ",".toList.intercalate (items.map fun (name, value) => (jsonString name).toList ++ ":".toList ++ value) ++
    "\x7d".toList

theorem payload_toList (p : PlannedOrder) : p.payload.toList = p.payloadChars := by
  unfold payload payloadChars
  simp only [String.toList_append, String.toList_intercalate, List.map_cons, List.map_nil]

def buildExecutionIdempotencyKey (p : PlannedOrder) : String :=
  "jqe-v2-" ++ Sha256.hexdigest (p.payload.toList.map Char.toNat)

def charsKey (p : PlannedOrder) : String := "jqe-v2-" ++ Sha256.hexdigestWindow (p.payloadChars.map Char.toNat)

theorem buildExecutionIdempotencyKey_eq : buildExecutionIdempotencyKey = charsKey := by
  funext p
  rw [buildExecutionIdempotencyKey, charsKey, payload_toList, Sha256.hexdigest_eq_window]

def keyAmong (known : List (PlannedOrder × String)) (p : PlannedOrder) : String :=
  match known.find? fun x => decide (x.1 = p) with
  | some x => x.2
  | none => p.buildExecutionIdempotencyKey

theorem buildExecutionIdempotencyKey_among {known : List (PlannedOrder × String)}
    (h : ∀ x ∈ known, x.1.charsKey = x.2) : buildExecutionIdempotencyKey = keyAmong known := by
  funext p
  unfold keyAmong
  split
  · rename_i x hx
    have hp : x.1 = p := by simpa using List.find?_some hx
    rw [← h x (List.mem_of_find?_eq_some hx), hp, buildExecutionIdempotencyKey_eq]
  · rfl

end PlannedOrder

end Jqe

namespace Jqe

open Coro

structure AccountInfo where
  accountId : String
  balance : ℚ
  currency : String
  equity : Option ℚ
  tradeMode : Option String
  deriving DecidableEq

/-- **A closed candle**, as a cycle uses it. -/
structure ClosedBar where
  openedAt : Int
  closedAt : Int
  open_ : ℚ
  high : ℚ
  low : ℚ
  close : ℚ
  volume : Option ℚ
  deriving DecidableEq

inductive PlanSignal where
  | buy
  | sell
  | noTrade
  deriving DecidableEq

def PlanSignal.value : PlanSignal → String
  | buy => "BUY"
  | sell => "SELL"
  | noTrade => "NO_TRADE"

def PlanSignal.side? : PlanSignal → Option OrderSide
  | buy => some .buy
  | sell => some .sell
  | noTrade => none

structure TradePlan where
  symbol : String
  signal : PlanSignal
  entry : Option PyFloat
  stopLoss : Option PyFloat
  takeProfit : Option PyFloat
  riskReward : Option PyFloat
  /-- `", ".join(warnings)`, or the invalidation -/
  note : Option String
  deriving DecidableEq

def TradePlan.valid? (p : TradePlan) : Option (OrderSide × PyFloat × PyFloat) :=
  match p.signal.side?, p.entry, p.stopLoss, p.takeProfit with
  | some side, some entry, some stopLoss, some takeProfit =>
    let ordered := match side with
      | .buy => stopLoss.lt entry && entry.lt takeProfit
      | .sell => takeProfit.lt entry && entry.lt stopLoss
    if !ordered || p.riskReward.any (·.lt (.fin (3 / 2))) then none else some (side, stopLoss, takeProfit)
  | _, _, _, _ => none

structure Analysis where
  signal : String
  confidence : Int
  /-- the symbol of the signal, if it names another one than the cycle's -/
  signalSymbol : Option String
  atr : ℚ
  spread : ℚ
  plan : TradePlan
  deriving DecidableEq

structure CycleSettings where
  symbol : String
  timeframe : String
  activeBroker : String
  environment : String
  defaultCandleCount : Nat
  emergencyStop : Option Bool
  brokerExecutionEnabled : Bool
  engine : RiskEngine
  demoMaxOpenPositions : Int
  demoPositionEquityFloor : ℚ
  reservationLeaseSeconds : Int
  /-- indicators, regime, signal and plan -/
  analyse : List ClosedBar → Except PyExc Analysis

structure ExecutionSizingDecision where
  authorizedRiskAmount : PyFloat
  quantity : Option ExecutionQuantity
  expectedLossAtStop : Option PyFloat
  riskVerifiable : Bool
  reason : String
  deriving DecidableEq

/-- What a cycle publishes and nothing of it reads back. -/
inductive Published where
  | risk (reason : String)
  | safety (code : String)
  | journal
  /-- `publish_submission_result`, which publishes once -/
  | submission (result : ExecutionResult)

inductive RunReq where
  | accountInfo
  /-- `records.post_fill_integrity_halt()` -/
  | integrityHalt
  /-- `StartupRecoveryService.recover` -/
  | recover
  /-- how many records `records.list_unresolved()` gives -/
  | listUnresolved
  | closedBars (symbol timeframe : String) (count : Nat)
  | publish (what : Published)
  /-- `datetime.now(timezone.utc)` -/
  | now
  | history (start endAt : Int) (count : Nat)
  | size (symbol : String) (side : OrderSide) (balance riskPercent : ℚ) (entry stopLoss : PyFloat)
  /-- `records.get` -/
  | record (key : String)
  | getPositions
  /-- `daily_instrument_guard.consume` -/
  | consume (scope instrument : String)
  /-- what the executor asks for the planned order -/
  | exec (p : PlannedOrder) (c : SubmitCall) (r : ExecReq)
  | observeFill (f : FillObservation)

@[reducible] def RunReq.Ans : RunReq → Type
  | accountInfo => AccountInfo
  | integrityHalt => Option String
  | recover | publish _ | consume _ _ | observeFill _ => Unit
  | listUnresolved => Nat
  | closedBars .. => List ClosedBar
  | now => Int
  | history .. => TradeHistorySnapshot
  | size .. => ExecutionSizingDecision
  | record _ => Option IntentRecord
  | getPositions => List PositionItem
  | exec _ _ r => r.Ans

abbrev RunProg := Prog RunReq RunReq.Ans PyExc

structure CycleExecutionResult where
  status : String
  symbol : String
  side : Option String := none
  orderId : Option String := none
  decisionCode : Option String := none
  reason : String := ""
  deriving DecidableEq

def dailyInstrumentCapReached : PyExc := .exception "DAILY_INSTRUMENT_CAP_REACHED"

namespace MainRun

def ask (r : RunReq) : RunProg r.Ans := Prog.perform r

def fail {α : Type} (message : String) : RunProg α := .raise (.exception message)

structure DailyState where
  account : AccountInfo
  daily : DailyRiskState
  authoritative : Bool

/-- The history of today and the counters made of it, which the cycle reads twice. -/
def readDaily (account : AccountInfo) : RunProg DailyState := do
  let endAt ← ask .now
  let start := utcDay endAt * daySeconds
  let history ← ask (.history start endAt 500)
  let today ← ask .now
  let daily ← Prog.ofExcept (reconcileDailyHistory history.trades account.balance today)
  return ⟨account, daily, history.covers start endAt⟩

variable [CaseMap]

def demoPositionCap (s : CycleSettings) (account : AccountInfo) : Int :=
  if ¬(1 ≤ s.demoMaxOpenPositions ∧ s.demoMaxOpenPositions ≤ 5) ∨ s.demoPositionEquityFloor < 50 then 1
  else if account.currency ≠ "USD" ∨ account.equity.all (· < s.demoPositionEquityFloor) then 1
  else s.demoMaxOpenPositions

/-- `replace(context, account_id=…, daily_loss_percent=…, …)`. -/
def withDaily (s : CycleSettings) (context : ExecutionContext) (d : DailyState) : ExecutionContext :=
  { context with
    accountId := some d.account.accountId
    dailyLossPercent := some (.fin d.daily.dailyRealizedLossPercent)
    dailyTradeCount := some d.daily.dailyTradesCount
    maxDailyLossPercent := some (.fin s.engine.maxDailyLoss)
    maxDailyTrades := some s.engine.maxTradesDaily
    dailyStateAuthoritative := d.authoritative }

/-- The context of the cycle's own reads. -/
def firstContext (s : CycleSettings) (d : DailyState) (positions : List PositionSnapshot) (key : String)
    (existing : Option IntentRecord) : ExecutionContext :=
  withDaily s
    { emergencyStop := s.emergencyStop
      dailyLossPercent := none
      maxDailyLossPercent := none
      dailyTradeCount := none
      maxDailyTrades := none
      openPositions := some positions
      maxOpenPositions := some (if s.activeBroker = "weltrade" then demoPositionCap s d.account else 1)
      usedIdempotencyKeys := some (if existing.isSome then [key] else [])
      executionEnabled := s.activeBroker == "simulation" || s.brokerExecutionEnabled
      dryRun := false
      broker := some s.activeBroker
      environment := some s.environment
      accountId := none
      approvedBrokers := [s.activeBroker]
      approvedEnvironments := [s.environment]
      approvedAccounts := [d.account.accountId]
      approvedSymbols := [normalizeSymbol s.symbol]
      dailyStateAuthoritative := false } d

def scope (s : CycleSettings) (account : AccountInfo) : String :=
  CaseMap.lower (strip s.activeBroker) ++ ":" ++ strip account.accountId

def refreshExecutionContext (s : CycleSettings) (context : ExecutionContext) : RunProg (Option ExecutionContext) := do
  let account ← ask .accountInfo
  let daily ← readDaily account
  return some (withDaily s context daily)

/-- **The executor's requests in a cycle**: its callbacks are the cycle's own, everything else is asked as it is. -/
def execOver (s : CycleSettings) (account : AccountInfo) (context : ExecutionContext) (p : PlannedOrder)
    (c : SubmitCall) : (r : ExecReq) → RunProg r.Ans
  | .contextProvider => refreshExecutionContext s context
  | .beforeSubmit _ => do
    ask (.consume (scope s account) c.intent.symbol)
    ask (.publish (.safety "SUBMISSION_IN_PROGRESS"))
  | .afterSubmit result => ask (.publish (.submission result))
  | r => ask (.exec p c r)

def accountProblem (s : CycleSettings) (account : AccountInfo) : Option String :=
  if CaseMap.lower (strip s.activeBroker) ∈ ["mt5", "mt5_demo", "weltrade", "weltrade_demo"] then
    if normalizeSymbol account.accountId = "SIMULATED" then
      some "MT5-based startup resolved the legacy SIMULATED account sentinel"
    else if account.tradeMode ≠ some "demo" then
      some "MT5-based startup account identity is not authoritatively DEMO"
    else none
  else none

/-- `build_execution_composition`, the integrity halt and the recovery: the account of a cycle that may go on. -/
def startup (s : CycleSettings) : RunProg AccountInfo := do
  let account ← ask .accountInfo
  match accountProblem s account with
  | some message => fail message
  | none =>
    let halt ← if s.activeBroker = "weltrade" then ask .integrityHalt else pure none
    if halt.isSome then fail "Weltrade post-fill integrity halt remains active"
    else
      ask .recover
      let unresolved ← ask .listUnresolved
      if unresolved ≠ 0 then
        ask (.publish (.safety "UNRESOLVED_DURABLE_INTENT"))
        fail "New durable execution blocked after startup recovery: unresolved persisted intents remain"
      else return account

def work (s : CycleSettings) (bars : List ClosedBar) : List ClosedBar := bars.drop (bars.length - s.defaultCandleCount)

def closedBars (s : CycleSettings) : RunProg (List ClosedBar) := do
  let bars ← ask (.closedBars s.symbol s.timeframe (s.defaultCandleCount + 100))
  if bars.length < s.defaultCandleCount then fail "Insufficient provably closed market candles"
  else return work s bars

def plannedOrder (plan : TradePlan) (side : OrderSide) (stopLoss takeProfit : PyFloat) (latest : ClosedBar)
    (sizing : ExecutionSizingDecision) : PlannedOrder where
  symbol := normalizeSymbol plan.symbol
  side
  quantity := sizing.quantity
  entry := .fin latest.close
  stopLoss
  takeProfit
  signalTime := latest.openedAt

def submitCall (s : CycleSettings) (p : PlannedOrder) (sizing : ExecutionSizingDecision) (context : ExecutionContext) :
    SubmitCall where
  intent :=
    { symbol := p.symbol
      side := .member p.side
      quantity := p.quantity
      authorizedRiskAmount := some sizing.authorizedRiskAmount
      expectedLossAtStop := sizing.expectedLossAtStop
      quantityRiskVerified := sizing.riskVerifiable
      entry := p.entry
      stopLoss := p.stopLoss
      takeProfit := p.takeProfit
      idempotencyKey := p.buildExecutionIdempotencyKey
      riskApproved := some true
      magicNumber := none
      orderComment := none }
  context := some context
  leaseSeconds := s.reservationLeaseSeconds
  recoveryMode := false
  hasReconciler := true
  hasBeforeSubmit := true
  hasContextProvider := true
  hasAfterSubmit := true

def fillOf (p : PlannedOrder) (orderId : String) (result : Option OrderResult) (requirePosition : Bool) :
    FillObservation where
  symbol := p.symbol
  side := p.side
  orderId
  expectedStopLoss := p.stopLoss
  brokerResult := result
  rawPosition := none
  requirePosition

/-- The cycle of a planned order that has a record: it is reconciled and never submitted. -/
def recovered (s : CycleSettings) (account : AccountInfo) (context : ExecutionContext) (p : PlannedOrder)
    (c : SubmitCall) (existing : IntentRecord) : RunProg CycleExecutionResult := do
  let result ← (AsyncTradeExecutor.reconcile c none).interpret (execOver s account context p c)
  match existing.orderId.filter (· ≠ "") with
  | some orderId =>
    if s.activeBroker = "weltrade" ∧ result.state = .alreadyExecuted then ask (.observeFill (fillOf p orderId none false))
  | none => pure ()
  return { status := if result.state = .alreadyExecuted then "ALREADY_EXECUTED" else "UNKNOWN"
           symbol := p.symbol, side := some p.side.value, reason := result.reason }

def summary (p : PlannedOrder) (result : ExecutionResult) : CycleExecutionResult where
  status :=
    if !result.decision.allowed then "BLOCKED"
    else match result.state with
      | .alreadyExecuted => "ORDER_ACCEPTED"
      | .rejected => result.rejectionCode.getD "BROKER_REJECTED"
      | _ => "UNKNOWN"
  symbol := p.symbol
  side := some p.side.value
  orderId := result.orderId
  decisionCode := some result.decision.code.value
  reason := if result.reason = "" then result.decision.reason else result.reason

def submitted (s : CycleSettings) (p : PlannedOrder) (result : ExecutionResult) : RunProg CycleExecutionResult := do
  ask (.publish (.submission result))
  if s.activeBroker = "weltrade" ∧ result.state = .alreadyExecuted ∧ result.orderStatus = some .filled then
    match result.orderId.filter (· ≠ "") with
    | none => fail "Weltrade filled order lacks broker ticket evidence"
    | some orderId => ask (.observeFill (fillOf p orderId result.brokerResult true))
  return summary p result

def submission (s : CycleSettings) (account : AccountInfo) (context : ExecutionContext) (p : PlannedOrder)
    (c : SubmitCall) : RunProg CycleExecutionResult :=
  ((AsyncTradeExecutor.submit c).interpret (execOver s account context p c)).bindAny fun
    | .ok result => submitted s p result
    | .error e =>
      if e = dailyInstrumentCapReached then do
        ask (.publish (.safety "DAILY_INSTRUMENT_CAP_REACHED"))
        return { status := "BLOCKED", symbol := p.symbol, side := some p.side.value
                 decisionCode := some "DAILY_INSTRUMENT_CAP_REACHED", reason := e.str }
      else .raise e

def execute (s : CycleSettings) (d : DailyState) (riskPercent : ℚ) (plan : TradePlan) (side : OrderSide)
    (stopLoss takeProfit : PyFloat) (latest : ClosedBar) : RunProg CycleExecutionResult := do
  let sizing ← ask (.size plan.symbol side d.account.balance riskPercent (.fin latest.close) stopLoss)
  ask (.publish (.risk sizing.reason))
  if normalizeSymbol plan.symbol ≠ normalizeSymbol s.symbol then
    fail "Trade plan symbol does not match the market observation"
  else
    let p := plannedOrder plan side stopLoss takeProfit latest sizing
    let existing ← ask (.record p.buildExecutionIdempotencyKey)
    let items ← ask .getPositions
    match fromPositions items with
    | none => fail "Broker position adapter received an invalid position"
    | some positions =>
      let context := firstContext s d positions p.buildExecutionIdempotencyKey existing
      let c := submitCall s p sizing context
      match existing with
      | some record => recovered s d.account context p c record
      | none => submission s d.account context p c

def trade (s : CycleSettings) (d : DailyState) (a : Analysis) (latest : ClosedBar) : RunProg CycleExecutionResult := do
  let decision := s.engine.approveTrade d.daily a.signal a.confidence a.atr a.spread d.account.balance
  if !decision.approved then
    ask (.publish (.risk decision.reason))
    return { status := if decision.reasonCode = .noTradeSignal then "NO_TRADE" else "BLOCKED"
             symbol := s.symbol, decisionCode := some decision.reasonCode.value, reason := decision.reason }
  else if a.signalSymbol.any fun symbol => normalizeSymbol symbol != normalizeSymbol s.symbol then
    fail "Signal symbol does not match the market observation"
  else match a.plan.valid? with
    | none =>
      ask (.publish (.risk "Executable quantity unavailable: trade plan is incomplete"))
      return { status := "BLOCKED", symbol := s.symbol, side := some a.plan.signal.value
               decisionCode := some "INVALID_TRADE_PLAN", reason := a.plan.note.getD "Trade plan is invalid" }
    | some (side, stopLoss, takeProfit) => execute s d decision.riskPercent a.plan side stopLoss takeProfit latest

end MainRun

def MainRun.run [CaseMap] (s : CycleSettings) : RunProg CycleExecutionResult := do
  ask (.publish (.risk "Durable risk evaluation has not completed"))
  ask (.publish (.safety "NOT_EVALUATED"))
  let account ← startup s
  let bars ← closedBars s
  let analysis ← Prog.ofExcept (s.analyse bars)
  ask (.publish .journal)
  let daily ← readDaily account
  match bars.getLast? with
  | none => fail "single positional indexer is out-of-bounds"
  | some latest => trade s daily analysis latest

end Jqe
