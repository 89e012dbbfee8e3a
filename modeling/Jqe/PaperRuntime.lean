import Jqe.CoroSys
import Jqe.CoroTrace
import Jqe.Executor
import Jqe.PaperContract
import Mathlib.Data.List.Infix
/-!
# PaperRuntime — one cycle of the paper runtime (`execution/paper_runtime.py`)

`run_once` as a program over its state store, its engine, its source, its decision builder and the venue of its orders.
The call of the decision builder is two requests, the invocation and its answer.  The facts of a notification and its
state in the heartbeat are left out.
-/
namespace Jqe

open Coro Prog

/-- `str.casefold` of a Python. -/
class CaseFold where
  casefold : String → String

/-- What the runtime sees of an exception's class. -/
class ExcClass where
  typeName : PyExc → String
  /-- a `MarketDataError` or a `BrokerConnectionError` -/
  isMarketData : PyExc → Bool

inductive ObservationClaim where
  | new
  | duplicate
  | old
  | unresolved
  deriving DecidableEq

structure PaperEntry where
  intent : ExecutionIntent
  context : ExecutionContext
  deriving DecidableEq

/-- The heartbeat, as far as a cycle reads and writes it. -/
structure PaperRuntimeHeartbeat where
  lastCycleAt : Option Int := none
  lastProcessedObservation : Option Int := none
  openPaperPositions : Nat := 0
  cyclesCompleted : Nat := 0
  lastSignal : Option String := none
  lastAction : String := "IDLE"
  lastError : Option String := none
  deriving DecidableEq

inductive ObservationState where
  | processing
  | complete
  deriving DecidableEq

/-- A row of `observations` besides its scope. -/
structure ObservationRow where
  closedAt : Int
  state : ObservationState
  deriving DecidableEq

variable [CaseMap]

def ClosedMarketObservation.scope (o : ClosedMarketObservation) : String :=
  normalizeSymbol o.canonicalSymbol ++ ":" ++ o.timeframe.value

namespace PaperRuntimeStateStore

/-- **`begin`**: what it answers and the table it commits. -/
def begin (o : ClosedMarketObservation) (table : PyDict ObservationRow) : ObservationClaim × PyDict ObservationRow :=
  match table.get? o.scope with
  | none => (.new, table.set o.scope ⟨o.closedAt, .processing⟩)
  | some row =>
    if row.state = .processing then (.unresolved, table)
    else if o.closedAt = row.closedAt then (.duplicate, table)
    else if o.closedAt < row.closedAt then (.old, table)
    else (.new, table.set o.scope ⟨o.closedAt, .processing⟩)

def complete (o : ClosedMarketObservation) (table : PyDict ObservationRow) : PyDict ObservationRow :=
  match table.get? o.scope with
  | none => table
  | some row => table.set o.scope { row with state := .complete }

end PaperRuntimeStateStore

/-! ### The venue of the orders -/

/-- **`PaperContractExecutionGateway`** besides its engine. -/
structure PaperGateway where
  observation : ClosedMarketObservation
  authorizedRiskAmount : ℚ
  entryPrice : PyFloat
  deriving DecidableEq

namespace PaperGateway

/-- The gateway of an entry: `Decimal(str(None))` raises, and so does its own check. -/
def build (o : ClosedMarketObservation) (now : Int) (authorizedRiskAmount : Option PyFloat) (entryPrice : PyFloat) :
    Except PyExc PaperGateway :=
  match authorizedRiskAmount with
  | none => .error (.exception "[<class 'decimal.ConversionSyntax'>]")
  | some risk =>
    if !o.isClosedAt now then .error (.exception "paper market observation is not closed")
    else match risk with
      | .fin q => if q < 0 then .error (.exception "authorized_risk_amount must be a finite Decimal")
        else .ok ⟨o, q, entryPrice⟩
      | _ => .error (.exception "authorized_risk_amount must be a finite Decimal")

def getPositions (e : PaperContractEngine) : List PositionItem :=
  (e.positions.values.filter (·.state ≠ .closed)).map fun p => .position
    { positionId := p.contractId, symbol := p.symbol, side := p.side, volume := p.stake, openPrice := p.entry
      currentPrice := none, profit := none, stopLoss := some p.stopLoss, takeProfit := some p.takeProfit
      openedAt := some p.openedAt, magic := none, comment := none }

def proposeOrder (g : PaperGateway) (order : OrderRequest) (e : PaperContractEngine) :
    PaperContractEngine.Outcome PaperProposal :=
  match order.takeProfit with
  | none => e.raise "[<class 'decimal.ConversionSyntax'>]"
  | some takeProfit =>
    match g.entryPrice with
    | .fin entry => e.propose (order.idempotencyKey.getD "") order.side order.quantity.value order.stopLoss takeProfit
        g.observation (some entry)
    | _ => match e.specification.validateStake order.quantity.value with
      | .error exc => (.error exc, e)
      | .ok () => e.raise "entry_price must be a finite Decimal"

/-- What `submit_order` does with its proposal. -/
def fill (g : PaperGateway) (e : PaperContractEngine) (proposal : PaperProposal) :
    PaperContractEngine.Outcome OrderResult :=
  if g.authorizedRiskAmount < proposal.maximumLoss then e.raise "paper maximum loss exceeds authorized risk"
  else match e.open_ proposal with
    | (.error exc, e') => (.error exc, e')
    | (.ok position, e') =>
      (.ok { orderId := position.contractId, status := .filled, symbol := position.symbol, side := position.side
             volume := position.stake, filledPrice := some position.entry, transactionId := none }, e')

def submitOrder (g : PaperGateway) (order : OrderRequest) (e : PaperContractEngine) :
    PaperContractEngine.Outcome OrderResult :=
  if normalizeSymbol order.symbol ≠ normalizeSymbol g.observation.canonicalSymbol then
    e.raise "paper order symbol does not match the closed observation"
  else match g.proposeOrder order e with
    | (.error exc, e') => (.error exc, e')
    | (.ok proposal, e') => g.fill e' proposal

end PaperGateway

/-! ### The cycle -/

/-- **What a cycle asks of its environment.** -/
inductive PaperReq where
  /-- `self._lock.locked()` and, when it is not, the lock taken -/
  | tryLock
  | unlock
  /-- `self.heartbeat` -/
  | heartbeat
  | setHeartbeat (heartbeat : PaperRuntimeHeartbeat)
  | now
  | source
  | begin (o : ClosedMarketObservation)
  | positions
  | observe (contractId : String) (o : ClosedMarketObservation)
  | reconcile (contractId : String)
  | paperEvent (kind : String)
  | decide (observations : List ClosedMarketObservation)
  | decision (observations : List ClosedMarketObservation)
  | venue (gateway : PaperGateway) (r : ExecReq)
  | complete (o : ClosedMarketObservation)
  | publish (heartbeat : PaperRuntimeHeartbeat)

@[reducible] def PaperReq.Ans : PaperReq → Type
  | tryLock => Bool
  | unlock | setHeartbeat _ | paperEvent _ | decide _ | complete _ | publish _ => Unit
  | heartbeat => PaperRuntimeHeartbeat
  | now => Int
  | source => List ClosedMarketObservation
  | begin _ => ObservationClaim
  | positions => List PaperPosition
  | observe .. => Option PaperClose
  | reconcile _ => PaperReconciliation
  | decision _ => Option PaperEntry
  | venue _ r => r.Ans

abbrev PaperProg := Prog PaperReq PaperReq.Ans PyExc

def PaperExitReason.value : PaperExitReason → String
  | .stopLoss => "STOP_LOSS"
  | .takeProfit => "TAKE_PROFIT"
  | .strategyExit => "STRATEGY_EXIT"
  | .endOfTest => "END_OF_TEST"

namespace ContinuousPaperRuntime

def ask (r : PaperReq) : PaperProg r.Ans := perform r

def fail {α : Type} (message : String) : PaperProg α := .raise (.exception message)

def contains (text part : String) : Bool := decide (part.toList <:+: text.toList)

def venueBlockCode [CaseFold] (reason : String) : String :=
  let normalized := String.ofList ((CaseFold.casefold reason).toList.map fun c => if c = '-' ∨ c = ' ' then '_' else c)
  if (contains normalized "minimum" && ["stake", "quantity", "lot", "volume"].any (contains normalized)) ||
      contains normalized "min_stake" || contains normalized "min_quantity" || contains normalized "min_lot" then
    "MIN_STAKE"
  else "VENUE_REJECTED"

def outOfOrder : List ClosedMarketObservation → Bool
  | previous :: current :: rest => current.closedAt ≤ previous.closedAt || outOfOrder (current :: rest)
  | _ => false

def observePositions (o : ClosedMarketObservation) : List PaperPosition → Nat → PaperProg Nat
  | [], closedCount => pure closedCount
  | position :: rest, closedCount =>
    if position.state = .closed then observePositions o rest closedCount
    else if o.canonicalSymbol = position.symbol ∧ position.lastObservedAt < o.closedAt then do
      match ← ask (.observe position.contractId o) with
      | none => observePositions o rest closedCount
      | some closed =>
        let reconciled ← ask (.reconcile position.contractId)
        if reconciled.state ≠ .closed then fail "paper reconciliation mismatch"
        else
          ask (.paperEvent closed.reason.value)
          ask (.paperEvent "CLOSED")
          observePositions o rest (closedCount + 1)
    else observePositions o rest closedCount

/-- `AsyncTradeExecutor(venue, self.records).submit(entry.intent, entry.context)`. -/
def submitCall (entry : PaperEntry) : SubmitCall where
  intent := entry.intent
  context := some entry.context
  leaseSeconds := 120
  recoveryMode := false
  hasReconciler := false
  hasBeforeSubmit := false
  hasContextProvider := false
  hasAfterSubmit := false

structure CycleReport where
  action : String
  lastSignal : Option String
  cycleError : Option String

variable [CaseFold] [ExcClass]

def reportSubmission (signal : String) (result : ExecutionResult) : PaperProg CycleReport := do
  if result.state = .alreadyExecuted ∧ result.orderId.any (· ≠ "") = true then
    ask (.paperEvent "OPENED")
    return ⟨"POSITION_OPENED", some signal, none⟩
  else if result.decision.allowed = true ∧ result.state = .unknown then
    let error := if result.reason = "" then "Submission outcome unknown" else result.reason
    ask (.paperEvent "BLOCKED")
    return ⟨"BLOCKED:" ++ venueBlockCode error, some signal, some error⟩
  else if result.decision.allowed = true ∧ result.state = .rejected then
    ask (.paperEvent "BLOCKED")
    return ⟨"BLOCKED:VENUE_REJECTED", some signal,
      some (if result.reason = "" then "Broker rejected order" else result.reason)⟩
  else
    ask (.paperEvent "BLOCKED")
    return ⟨"BLOCKED:" ++ result.decision.code.value, some signal, none⟩

def submitEntry (now : Int) (o : ClosedMarketObservation) (entry : PaperEntry) : PaperProg CycleReport := do
  ask (.paperEvent "SIGNAL")
  let gateway ← ofExcept (PaperGateway.build o now entry.intent.authorizedRiskAmount entry.intent.entry)
  let result ← (AsyncTradeExecutor.submit (submitCall entry)).interpret fun r => ask (.venue gateway r)
  reportSubmission entry.intent.side.raw result

def noEntry (closedCount : Nat) : CycleReport :=
  if closedCount ≠ 0 then ⟨"POSITION_CLOSED", none, none⟩ else ⟨"NO_SIGNAL", some "NO_TRADE", none⟩

/-- The part of a cycle that its claim protects. -/
def work (now : Int) (observations : List ClosedMarketObservation) (o : ClosedMarketObservation) :
    PaperProg CycleReport := do
  let closedCount ← observePositions o (← ask .positions) 0
  ask (.decide observations)
  match ← ask (.decision observations) with
  | none => return noEntry closedCount
  | some entry => submitEntry now o entry

def finishCycle (now : Int) (o : ClosedMarketObservation) (report : CycleReport) : PaperProg Unit := do
  ask (.complete o)
  let positions ← ask .positions
  let heartbeat ← ask .heartbeat
  ask (.setHeartbeat { heartbeat with
    lastCycleAt := some now
    lastProcessedObservation := some o.closedAt
    openPaperPositions := (positions.filter (·.state ≠ .closed)).length
    cyclesCompleted := heartbeat.cyclesCompleted + 1
    lastSignal := report.lastSignal
    lastAction := report.action
    lastError := report.cycleError })

/-- A cycle whose observation was claimed before. -/
def ignored (now : Int) (action : String) : PaperProg PaperRuntimeHeartbeat := do
  let heartbeat ← ask .heartbeat
  let heartbeat := { heartbeat with lastCycleAt := some now, lastAction := action, lastError := none }
  ask (.setHeartbeat heartbeat)
  ask (.publish heartbeat)
  return heartbeat

/-- What a cycle does with its claim: the heartbeat it returns by itself, if it does. -/
def claimed (now : Int) (observations : List ClosedMarketObservation) (o : ClosedMarketObservation) :
    ObservationClaim → PaperProg (Option PaperRuntimeHeartbeat)
  | .unresolved => fail "unresolved observation processing state"
  | .duplicate => some <$> ignored now "DUPLICATE_IGNORED"
  | .old => some <$> ignored now "OLD_IGNORED"
  | .new => do
    let report ← work now observations o
    finishCycle now o report
    return none

/-- The observations checked, and the newest one claimed. -/
def cycleWith (now : Int) : List ClosedMarketObservation → PaperProg (Option PaperRuntimeHeartbeat)
  | [] => fail "market data unavailable"
  | first :: rest => do
    let observations := first :: rest
    if observations.any (!·.isClosedAt now) then fail "forming paper observation rejected"
    else if outOfOrder observations then fail "out-of-order paper observations rejected"
    else
      let o := observations.getLast (List.cons_ne_nil _ _)
      let claim ← ask (.begin o)
      claimed now observations o claim

def cycle (now : Int) : PaperProg (Option PaperRuntimeHeartbeat) := do
  cycleWith now (← ask .source)

def failed (now : Int) (exc : PyExc) : PaperProg Unit := do
  let heartbeat ← ask .heartbeat
  ask (.setHeartbeat { heartbeat with
    lastCycleAt := some now
    lastAction := if ExcClass.isMarketData exc then "BLOCKED:MARKET_DATA" else "ERROR"
    lastError := some (ExcClass.typeName exc) })
  ask (.paperEvent "RUNTIME_ERROR")

def publishHeartbeat : PaperProg PaperRuntimeHeartbeat := do
  let heartbeat ← ask .heartbeat
  ask (.publish heartbeat)
  return heartbeat

def cycleAt (now : Int) : PaperProg PaperRuntimeHeartbeat :=
  (cycle now).bindAny fun
    | .ok (some heartbeat) => pure heartbeat
    | .ok none => publishHeartbeat
    | .error exc => if exc.isException then do
        failed now exc
        publishHeartbeat
      else .raise exc

def runOnce : PaperProg PaperRuntimeHeartbeat := do
  if !(← ask .tryLock) then fail "paper runtime cycle overlap rejected"
  else finallyDo (do cycleAt (← ask .now)) (ask .unlock)

end ContinuousPaperRuntime

/-! ### The environment -/

/-- **The state file, and what each runtime has in memory.** -/
structure PaperWorld where
  observations : PyDict ObservationRow
  published : Option PaperRuntimeHeartbeat
  engine : Nat → PaperContractEngine
  heartbeat : Nat → PaperRuntimeHeartbeat

structure PaperCycle where
  runtime : Nat

def PaperWorld.setEngine (w : PaperWorld) (runtime : Nat) (e : PaperContractEngine) : PaperWorld :=
  { w with engine := Function.update w.engine runtime e }

/-- What the venue does with a request of the executor; `none` where it is not the venue that answers. -/
def PaperGateway.exec? (g : PaperGateway) (e : PaperContractEngine) :
    (r : ExecReq) → Option (Except PyExc r.Ans × PaperContractEngine)
  | .getPositions => some (.ok (getPositions e), e)
  | .submitOrder _ => some (.ok (), e)
  | .submitOrderResult order =>
    match g.submitOrder order e with
    | (.error exc, e') => some (.error exc, e')
    | (.ok result, e') => some (.ok (.result result), e')
  | _ => none

/-- **What a request may do.**  A transaction commits and returns or is rolled back and raises. -/
inductive PaperExec (w : PaperWorld) (i : PaperCycle) : (r : PaperReq) → Except PyExc r.Ans → PaperWorld → Prop
  | tryLock (free : Bool) : PaperExec w i .tryLock (.ok free) w
  | unlock : PaperExec w i .unlock (.ok ()) w
  | heartbeat : PaperExec w i .heartbeat (.ok (w.heartbeat i.runtime)) w
  | setHeartbeat (heartbeat : PaperRuntimeHeartbeat) : PaperExec w i (.setHeartbeat heartbeat) (.ok ())
      { w with heartbeat := Function.update w.heartbeat i.runtime heartbeat }
  | now (ans : Except PyExc Int) : PaperExec w i .now ans w
  | source (ans : Except PyExc (List ClosedMarketObservation)) : PaperExec w i .source ans w
  | begin (o : ClosedMarketObservation) :
      PaperExec w i (.begin o) (.ok (PaperRuntimeStateStore.begin o w.observations).1)
        { w with observations := (PaperRuntimeStateStore.begin o w.observations).2 }
  | beginFailed (o : ClosedMarketObservation) (exc : PyExc) : PaperExec w i (.begin o) (.error exc) w
  | positions : PaperExec w i .positions (.ok (w.engine i.runtime).positions.values) w
  | observe (c : String) (o : ClosedMarketObservation) :
      PaperExec w i (.observe c o) ((w.engine i.runtime).observe c o false false).1
        (w.setEngine i.runtime ((w.engine i.runtime).observe c o false false).2)
  | reconcile (c : String) : PaperExec w i (.reconcile c) (.ok ((w.engine i.runtime).reconcile c)) w
  | paperEvent (kind : String) (ans : Except PyExc Unit) : PaperExec w i (.paperEvent kind) ans w
  | decide (os : List ClosedMarketObservation) : PaperExec w i (.decide os) (.ok ()) w
  | decision (os : List ClosedMarketObservation) (ans : Except PyExc (Option PaperEntry)) :
      PaperExec w i (.decision os) ans w
  | venue (g : PaperGateway) (r : ExecReq) {ans : Except PyExc r.Ans} {e : PaperContractEngine}
      (h : g.exec? (w.engine i.runtime) r = some (ans, e)) :
      PaperExec w i (.venue g r) ans (w.setEngine i.runtime e)
  | store (g : PaperGateway) (r : ExecReq) (ans : Except PyExc r.Ans) (h : g.exec? (w.engine i.runtime) r = none) :
      PaperExec w i (.venue g r) ans w
  | complete (o : ClosedMarketObservation) :
      PaperExec w i (.complete o) (.ok ())
        { w with observations := PaperRuntimeStateStore.complete o w.observations }
  | completeFailed (o : ClosedMarketObservation) (exc : PyExc) : PaperExec w i (.complete o) (.error exc) w
  | publish (heartbeat : PaperRuntimeHeartbeat) :
      PaperExec w i (.publish heartbeat) (.ok ()) { w with published := some heartbeat }
  | publishFailed (heartbeat : PaperRuntimeHeartbeat) (exc : PyExc) : PaperExec w i (.publish heartbeat) (.error exc) w

/-- **Any runtimes of any processes on one state file**, started with any memory. -/
def paperSystem : System PaperReq PaperReq.Ans PyExc PaperWorld PaperCycle where
  init w := w.observations = .empty
  admits _ := True
  exec := PaperExec
  tick w w' := w'.observations = w.observations

end Jqe
