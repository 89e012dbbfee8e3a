import Jqe.Coro
import Jqe.ExecStore
import Jqe.ExecReconcile
/-!
# Executor — `AsyncTradeExecutor` (`execution/executor.py`)

`submit`, `reconcile` and `_submit_reserved` as programs over everything they call: the store, the gateway, the
reconciler and the caller's callbacks.  `await gateway.submit_order(…)` is two requests, the invocation and its answer,
since a process may stop in between.  The log line of an unresolved execution is left out: it never raises.
-/
namespace Jqe

inductive ReconciliationState where
  | notFound
  | alreadyExecuted
  | pending
  | rejected
  | unknown
  | readyToSubmit
  deriving DecidableEq

structure ReconciliationResult where
  state : ReconciliationState
  reason : String

structure ExecutionResult where
  state : ReconciliationState
  decision : ExecutionDecision
  orderId : Option String := none
  reason : String := ""
  orderStatus : Option OrderStatus := none
  brokerResult : Option OrderResult := none
  rejectionCode : Option String := none
  deriving DecidableEq

/-- What `submit_order` returned: an `OrderResult`, or an object of another type. -/
inductive GatewayAnswer where
  | result (r : OrderResult)
  | other
  deriving DecidableEq

inductive ExecReq where
  | uuid4
  | store (op : StoreOp)
  | contextProvider
  | getPositions
  | reconcile (q : ReconcileQuery)
  | beforeSubmit (decision : ExecutionDecision)
  | submitOrder (order : OrderRequest)
  | submitOrderResult (order : OrderRequest)
  | afterSubmit (result : ExecutionResult)

@[reducible] def ExecReq.Ans : ExecReq → Type
  | uuid4 => String
  | store op => op.Ans
  | contextProvider => Option ExecutionContext
  | getPositions => List PositionItem
  | reconcile _ => BrokerReconciliationResult
  | beforeSubmit _ | submitOrder _ | afterSubmit _ => Unit
  | submitOrderResult _ => GatewayAnswer

abbrev ExecProg := Coro.Prog ExecReq ExecReq.Ans PyExc

/-- **One call of `submit`**: its arguments and how its executor and store were built. -/
structure SubmitCall where
  intent : ExecutionIntent
  context : Option ExecutionContext
  leaseSeconds : Int
  recoveryMode : Bool
  hasReconciler : Bool
  hasBeforeSubmit : Bool
  hasContextProvider : Bool
  hasAfterSubmit : Bool

namespace SubmitCall

def key (c : SubmitCall) : String := c.intent.idempotencyKey

/-- The account scope of the reservation; `""` when the context names none. -/
def scope (c : SubmitCall) : String := ((c.context.bind (·.accountId)).map strip).getD ""

/-- The `OrderRequest` of the intent; `none` is its `ValidationError`. -/
def order? (c : SubmitCall) : Option OrderRequest :=
  match c.intent.side.side?, c.intent.quantity with
  | some side, some quantity =>
    OrderRequest.market? (strip c.intent.symbol) side quantity c.intent.stopLoss c.intent.takeProfit (some c.key)
      c.intent.magicNumber c.intent.orderComment
  | _, _ => none

theorem order?_eq_some {c : SubmitCall} {order : OrderRequest} (h : c.order? = some order) :
    order.symbol = strip c.intent.symbol ∧ order.idempotencyKey = some c.key := by
  unfold order? at h
  split at h
  · have hf := OrderRequest.market?_eq_some h
    exact ⟨hf.1, hf.2.2.2.2⟩
  · cases h

end SubmitCall

namespace AsyncTradeExecutor

open Coro Prog

def ask (r : ExecReq) : ExecProg r.Ans := perform r

def store (op : StoreOp) : ExecProg op.Ans := ask (.store op)

/-- `try: … except Exception: …`, with `none` for the exception. -/
def attempt {α : Type} (p : ExecProg α) : ExecProg (Option α) :=
  tryCatch (some <$> p) fun e => if e.isException then pure none else .raise e

def transition_ (c : SubmitCall) (status : IntentRecordStatus) (orderId transactionId : Option String) :
    ExecProg Bool := do
  let moved ← attempt (store (.transition { idempotencyKey := c.key, status, orderId, transactionId }))
  return moved.getD false

variable [CaseMap]

/-- The part of `reconcile` that asks the broker about an unresolved record. -/
def reconcileRecord (c : SubmitCall) (record : IntentRecord) : ExecProg ReconciliationResult := do
  if !c.hasReconciler then
    return ⟨if record.status = .pending then .pending else .unknown, "Broker reconciler is not configured"⟩
  else
    let evidence ← ask (.reconcile
      { orderId := record.orderId, transactionId := record.transactionId, symbol := some c.intent.symbol
        idempotencyKey := some c.key })
    if evidence.state = .confirmedMatch then
      let moved ← transition_ c .accepted (pyOr record.orderId evidence.contractId)
        (pyOr record.transactionId evidence.transactionId)
      if !moved then return ⟨.unknown, "Reconciled outcome could not be persisted"⟩
      else return ⟨.alreadyExecuted, evidence.reason⟩
    else if record.status = .pending then
      let moved ← transition_ c .unknown none none
      if !moved then return ⟨.unknown, "Uncertain recovery state could not be persisted"⟩
      else return ⟨.unknown, evidence.reason⟩
    else return ⟨.unknown, evidence.reason⟩

/-- The part of `reconcile` after its record was read: a terminal record answers by itself. -/
def reconcileWith (c : SubmitCall) (positions : Option (List PositionItem)) (record : Option IntentRecord) :
    ExecProg ReconciliationResult := do
  if record.any (·.status == .rejected) then return ⟨.rejected, "Intent was rejected"⟩
  else if record.any (·.status == .accepted) then return ⟨.alreadyExecuted, "Intent was already accepted"⟩
  else
    let observed ← match positions with
      | some items => pure (some items)
      | none => attempt (ask .getPositions)
    match observed with
    | none => return ⟨.unknown, "Broker state unavailable"⟩
    | some items =>
      match fromPositions items with
      | none => return ⟨.unknown, "Broker state malformed"⟩
      | some snapshots =>
        match record with
        | none =>
          if snapshots.any fun p => normalizeSymbol p.symbol == normalizeSymbol c.intent.symbol then
            return ⟨.alreadyExecuted, "Symbol has an open position"⟩
          else if c.recoveryMode then return ⟨.unknown, "Recovery mode cannot prove intent absence"⟩
          else return ⟨.readyToSubmit, "No prior intent or position found"⟩
        | some record => reconcileRecord c record

def reconcile (c : SubmitCall) (positions : Option (List PositionItem)) : ExecProg ReconciliationResult := do
  match ← attempt (store (.get c.key)) with
  | none => return ⟨.unknown, "Intent records unavailable"⟩
  | some record => reconcileWith c positions record

def gatewayOutcome : GatewayAnswer → Except PyExc OrderResult
  | .other => .error (.exception "Gateway returned a malformed order result")
  | .result r =>
    if r.status.value ∉ ["FILLED", "SUBMITTED", "REJECTED"] then
      .error (.exception "Gateway returned an indeterminate order status")
    else if r.status.value ∈ ["FILLED", "SUBMITTED"] ∧ blank r.orderId then
      .error (.exception "Gateway accepted an order without broker identity")
    else .ok r

def sendOrder (order : OrderRequest) : ExecProg OrderResult := do
  ask (.submitOrder order)
  let answer ← ask (.submitOrderResult order)
  ofExcept (gatewayOutcome answer)

/-- What a claimed run does with the outcome of its order. -/
def settle (c : SubmitCall) (decision : ExecutionDecision) : Except PyExc OrderResult → ExecProg ExecutionResult
  | .error (.preSubmitOrderRejected message) => do
    let moved ← transition_ c .rejected none none
    if !moved then
      return { state := .unknown, decision, reason := "Pre-submit rejection could not be persisted" }
    else
      return { state := .rejected, decision, reason := message, orderStatus := some .rejected
               rejectionCode := some "PRE_SUBMIT_VALIDATION_REJECTED" }
  | .error .baseException => .raise .baseException
  | .error (.exception message) => do
    let _ ← transition_ c .unknown none none
    return { state := .unknown, decision
             reason := if strip message = "" then "Submission outcome unknown" else strip message }
  | .ok result => do
    let accepted := result.status.value ∈ ["FILLED", "SUBMITTED"]
    let moved ← transition_ c (if accepted then .accepted else .rejected)
      (if accepted then some result.orderId else none) result.transactionId
    if !moved then
      return { state := .unknown, decision, orderId := some result.orderId, reason := "Outcome could not be persisted" }
    else
      return { state := if accepted then .alreadyExecuted else .rejected, decision
               orderId := if accepted then some result.orderId else none
               reason := if accepted then "Order accepted" else "Broker rejected order"
               orderStatus := some result.status, brokerResult := some result }

def claim (c : SubmitCall) (context : Option ExecutionContext) (scope owner : String) : ExecProg ClaimState := do
  let record ← ofExcept (IntentRecord.fromExecutionIntent c.intent .pending (context.bind (·.broker)) (some scope))
  store (.tryClaimUnderReservation record scope owner)

/-- The part of `_submit_reserved` after a claim: the order is built, sent and settled. -/
def submitClaimed (c : SubmitCall) (decision : ExecutionDecision) : ExecProg ExecutionResult :=
  match c.order? with
  | some order => (sendOrder order).bindAny (settle c decision)
  | none => .raise (.exception "validation errors for OrderRequest")

/-- `replace(context, open_positions=fresh_positions)`, when both are there. -/
def effectiveContext (context : Option ExecutionContext) (brokerPositions : Option (List PositionItem)) :
    Option ExecutionContext :=
  match context, brokerPositions.bind fromPositions with
  | some context, some fresh => some { context with openPositions := some fresh }
  | _, _ => none

def submitClaim (c : SubmitCall) (context : Option ExecutionContext) (scope owner : String)
    (decision : ExecutionDecision) : ExecProg ExecutionResult := do
  match ← attempt (claim c context scope owner) with
  | none => return { state := .unknown, decision, reason := "Intent records unavailable" }
  | some claim =>
    if claim ≠ .claimed then
      let followUp ← reconcile c none
      return { state := followUp.state, decision, reason := followUp.reason }
    else submitClaimed c decision

/-- The part of `_submit_reserved` after the read of the positions. -/
def submitJudged (c : SubmitCall) (context : Option ExecutionContext) (scope owner : String)
    (brokerPositions : Option (List PositionItem)) : ExecProg ExecutionResult := do
  let decision := ExecutionPolicy.evaluate c.intent (effectiveContext context brokerPositions)
  if !decision.allowed then
    return { state := if brokerPositions.isNone then .unknown else .rejected, decision, reason := decision.reason }
  else
    let reconciliation ← reconcile c brokerPositions
    if reconciliation.state ≠ .readyToSubmit then
      return { state := reconciliation.state, decision, reason := reconciliation.reason }
    else
      if c.hasBeforeSubmit then ask (.beforeSubmit decision)
      submitClaim c context scope owner decision

def submitReserved (c : SubmitCall) (context : Option ExecutionContext) (scope owner : String) :
    ExecProg ExecutionResult := do
  let brokerPositions ← attempt (ask .getPositions)
  submitJudged c context scope owner brokerPositions

/-- `context_provider`, when there is one. -/
def refreshedContext (c : SubmitCall) : ExecProg (Option ExecutionContext) :=
  if c.hasContextProvider then Option.join <$> attempt (ask .contextProvider) else pure c.context

def submitHeld (c : SubmitCall) (owner : String) : ExecProg ExecutionResult := do
  let context ← refreshedContext c
  let result ← submitReserved c context c.scope owner
  if c.hasAfterSubmit then ask (.afterSubmit result)
  return result

def refused (code : ExecutionDecisionCode) (reason : String) : ExecutionResult :=
  { state := .unknown, decision := reject code reason, reason }

def submit (c : SubmitCall) : ExecProg ExecutionResult := do
  if c.scope = "" then
    return refused .safetyContextInvalid "Execution reservation requires an account identity"
  else
    let owner ← ask .uuid4
    match ← attempt (store (.acquireReservation c.scope owner c.leaseSeconds c.key)) with
    | none => return refused .executionReservationUnavailable "Execution reservation is unavailable"
    | some reservation =>
      if reservation ≠ .acquired then
        return refused (if reservation = .unresolvedIntent then .unresolvedDurableIntent else .executionReservationHeld)
          "Execution reservation was not acquired"
      else finallyDo (submitHeld c owner) (store (.releaseReservation c.scope owner))

end AsyncTradeExecutor

end Jqe
