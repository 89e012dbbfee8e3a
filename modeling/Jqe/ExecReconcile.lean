import Jqe.ExecModels
/-!
# ExecReconcile — `execution/reconciliation.py`: what the shipped adapters conclude from broker observations

An observed object is what `getattr` reads of it.  Each adapter is a function of the query and of what its gateway
(and ledger) answered, `none` when one of those calls raised.
-/
namespace Jqe

inductive BrokerReconciliationState where
  | confirmedMatch
  | confirmedAbsence
  | ambiguous
  | unavailable
  deriving DecidableEq

inductive CorrelationStrength where
  | exact
  | ambiguous
  | absent
  | unavailable
  deriving DecidableEq

/-- Broker evidence for an intent, without its timestamps. -/
structure CorrelationEvidence where
  broker : String
  correlationStrength : CorrelationStrength
  idempotencyKey : Option String
  orderId : Option String
  dealId : Option String
  positionId : Option String
  transactionId : Option String
  contractId : Option String
  requestId : Option String
  symbol : Option String
  side : Option String
  volume : Option ℚ
  source : Option String
  reason : String
  deriving DecidableEq

structure BrokerReconciliationResult where
  state : BrokerReconciliationState
  reason : String
  contractId : Option String
  transactionId : Option String
  evidence : Option CorrelationEvidence
  deriving DecidableEq

/-- **An observed object**: its attributes by name (`none` when it lacks one, `some none` when it is `None`). -/
structure Observation where
  attr : String → Option (Option String)
  side : Option String
  volume : Option ℚ
  source : String

namespace Observation

def get? (item : Observation) (name : String) : Option String := (item.attr name).join

/-- `getattr(item, "position_id", None) or getattr(item, "trade_id", None)`. -/
def identity (item : Observation) : Option String :=
  match item.get? "position_id" with
  | none | some "" => item.get? "trade_id"
  | some id => some id

end Observation

/-- `str(value)` of a text or `None`. -/
def pyStr (value : Option String) : String := value.getD "None"

structure ReconcileQuery where
  orderId : Option String
  transactionId : Option String
  symbol : Option String
  idempotencyKey : Option String
  deriving DecidableEq

def strengthOf : BrokerReconciliationState → CorrelationStrength
  | .confirmedMatch => .exact
  | .unavailable => .unavailable
  | .confirmedAbsence => .absent
  | .ambiguous => .ambiguous

/-- The keyword arguments of `_result` that name an identifier. -/
structure ResultIds where
  contractId : Option String := none
  transactionId : Option String := none
  orderId : Option String := none
  positionId : Option String := none
  symbol : Option String := none

def pyOr (value default : Option String) : Option String :=
  match value with
  | none | some "" => default
  | some v => some v

def brokerResult (state : BrokerReconciliationState) (reason broker : String) (idempotencyKey : Option String)
    (item : Option Observation) (ids : ResultIds) : BrokerReconciliationResult where
  state
  reason
  contractId := ids.contractId
  transactionId := ids.transactionId
  evidence := some {
    broker
    correlationStrength := strengthOf state
    idempotencyKey
    orderId := ids.orderId
    dealId := none
    positionId := pyOr ids.positionId (item.bind fun i => pyOr ((i.attr "position_id").map pyStr) none)
    transactionId := ids.transactionId
    contractId := ids.contractId
    requestId := none
    symbol := pyOr ids.symbol (item.bind (·.get? "symbol"))
    side := item.bind (·.side)
    volume := item.bind (·.volume)
    source := item.map (·.source)
    reason }

@[simp] theorem brokerResult_state (state : BrokerReconciliationState) (reason broker : String)
    (key : Option String) (item : Option Observation) (ids : ResultIds) :
    (brokerResult state reason broker key item ids).state = state := rfl

variable [CaseMap]

/-- `any(getattr(item, "symbol", "").strip().upper() == symbol.strip().upper() for item in items)`; a symbol that is
`None` has no `strip`. -/
def anySymbol (symbol : String) : List Observation → Except PyExc Bool
  | [] => .ok false
  | item :: items =>
    match item.attr "symbol" with
    | some none => .error (.exception "'NoneType' object has no attribute 'strip'")
    | a => if normalizeSymbol (a.join.getD "") = normalizeSymbol symbol then .ok true else anySymbol symbol items

def symbolMatch (symbol : Option String) (items : List Observation) : Except PyExc Bool :=
  match symbol with
  | none | some "" => .ok false
  | some s => anySymbol s items

/-- **`classify_observation`** of an available broker: never a confirmation of either kind. -/
def classifyObservation (broker : String) (symbolMatch : Bool) (idempotencyKey : Option String) :
    BrokerReconciliationResult :=
  if symbolMatch then brokerResult .ambiguous "Symbol match lacks intent correlation" broker idempotencyKey none {}
  else brokerResult .ambiguous "Broker absence does not prove non-execution" broker idempotencyKey none {}

/-- The loop of `SimulationReconciliationAdapter.reconcile`: the first item that matches an identifier. -/
def simulationMatch (q : ReconcileQuery) : List Observation → Option BrokerReconciliationResult
  | [] => none
  | item :: items =>
    let itemTransaction := item.get? "transaction_id"
    if q.orderId.isSome ∧ pyStr item.identity = pyStr q.orderId then
      some (brokerResult .confirmedMatch "Simulation order ID matched" "simulation" q.idempotencyKey (some item)
        { orderId := some (pyStr item.identity), transactionId := itemTransaction })
    else if q.transactionId.isSome ∧ itemTransaction.isSome ∧ itemTransaction = q.transactionId then
      some (brokerResult .confirmedMatch "Simulation transaction ID matched" "simulation" q.idempotencyKey (some item)
        { transactionId := itemTransaction })
    else simulationMatch q items

def simulationReconcile (q : ReconcileQuery) (observed : Option (List Observation × List Observation)) :
    Except PyExc BrokerReconciliationResult :=
  match observed with
  | none => .ok (brokerResult .unavailable "Simulation state unavailable" "simulation" q.idempotencyKey none {})
  | some (positions, history) =>
    match simulationMatch q (positions ++ history) with
    | some r => .ok r
    | none => do
      let found ← symbolMatch q.symbol (positions ++ history)
      return classifyObservation "simulation" found q.idempotencyKey

/-- A row of the position ledger: its order and position. -/
structure LedgerLink where
  orderId : Option String
  positionId : Option String

/-- The items whose identity the ledger maps from the order. -/
def ledgerMatch (q : ReconcileQuery) (broker : String) (ledger : List LedgerLink) :
    List Observation → Option BrokerReconciliationResult
  | [] => none
  | item :: items =>
    if item.identity.any fun id =>
        ledger.any fun entry => pyStr entry.orderId = pyStr q.orderId ∧ pyStr entry.positionId = id then
      some (brokerResult .confirmedMatch "MT5 ledger order mapped to authoritative broker position" broker
        q.idempotencyKey (some item) { orderId := q.orderId, positionId := item.identity })
    else ledgerMatch q broker ledger items

def matchesId (item : Observation) (expected : Option String) (fields : List String) : Bool :=
  expected.any fun value => fields.any fun field => item.get? field = some value

def hasEvidence (item : Observation) : Bool :=
  ["order_id", "order", "deal_id", "deal", "position_id", "position_identifier", "trade_id", "symbol", "magic",
    "comment"].any fun field => item.get? field ≠ none ∧ item.get? field ≠ some ""

/-- **`MT5ReconciliationAdapter.reconcile`** (Weltrade's is the same) on positions, history and open ledger rows. -/
def mt5Reconcile (broker : String) (q : ReconcileQuery)
    (observed : Option (List Observation × List Observation × List LedgerLink)) : BrokerReconciliationResult :=
  match observed with
  | none => brokerResult .unavailable (broker ++ " state unavailable") broker q.idempotencyKey none {}
  | some (positions, history, ledger) =>
    let records := positions ++ history
    match if q.orderId.isSome then ledgerMatch q broker ledger records else none with
    | some r => r
    | none =>
      match records.find? fun item => matchesId item q.orderId ["order_id", "order"] with
      | some item =>
        brokerResult .confirmedMatch (broker ++ " broker identifier matched") broker q.idempotencyKey (some item)
          { orderId := q.orderId }
      | none =>
        if records.any hasEvidence ∨ (q.symbol ≠ none ∧ q.symbol ≠ some "") then
          brokerResult .ambiguous (broker ++ " evidence lacks intent correlation") broker q.idempotencyKey none
            { symbol := q.symbol }
        else brokerResult .confirmedAbsence (broker ++ " query returned no usable evidence") broker q.idempotencyKey
          none {}

def normalizeIdentifier (value : Option String) : Option String :=
  value.bind fun v => if blank v then none else some (strip v)

/-- An observed object with its normalized contract and transaction. -/
structure DerivObservation where
  item : Observation
  contract : Option String
  transaction : Option String

def derivObservation (item : Observation) : DerivObservation :=
  ⟨item, normalizeIdentifier item.identity, normalizeIdentifier (item.get? "transaction_id")⟩

def distinctIds (ids : List (Option String)) : List String := (ids.filterMap id).dedup

/-- The part of `DerivReconciliationAdapter.reconcile` that decides by identifiers; `none` falls through to the
symbol. -/
def derivById (contractId transactionId idempotencyKey : Option String) (observations : List DerivObservation) :
    Option BrokerReconciliationResult :=
  let contractMatches := observations.filter fun o => contractId.isSome ∧ o.contract = contractId
  let transactionMatches := observations.filter fun o => transactionId.isSome ∧ o.transaction = transactionId
  if contractId.isSome ∧ transactionId.isSome then
    let conflicting := contractMatches.any (fun o => o.transaction.isSome ∧ o.transaction ≠ transactionId) ||
      transactionMatches.any fun o => o.contract.isSome ∧ o.contract ≠ contractId
    match conflicting, observations.find? fun o => o.contract = contractId ∧ o.transaction = transactionId with
    | false, some o =>
      some (brokerResult .confirmedMatch "Contract and transaction IDs matched" "deriv" idempotencyKey (some o.item)
        { contractId, transactionId })
    | _, _ =>
      if contractMatches ≠ [] ∨ transactionMatches ≠ [] then
        some (brokerResult .ambiguous "Deriv authoritative identifiers conflict" "deriv" idempotencyKey none
          { contractId, transactionId })
      else none
  else match contractMatches, transactionMatches with
    | o :: _, _ =>
      if 1 < (distinctIds (contractMatches.map (·.transaction))).length then
        some (brokerResult .ambiguous "Deriv contract observations conflict" "deriv" idempotencyKey none { contractId })
      else some (brokerResult .confirmedMatch "Contract ID matched" "deriv" idempotencyKey (some o.item)
        { contractId := o.contract, transactionId := o.transaction })
    | [], o :: _ =>
      if 1 < (distinctIds (transactionMatches.map (·.contract))).length then
        some (brokerResult .ambiguous "Deriv transaction observations conflict" "deriv" idempotencyKey none
          { transactionId })
      else some (brokerResult .confirmedMatch "Transaction ID matched" "deriv" idempotencyKey (some o.item)
        { contractId := o.contract, transactionId := o.transaction })
    | [], [] => none

/-- **`DerivReconciliationAdapter.reconcile`** on positions and history. -/
def derivReconcile (q : ReconcileQuery) (observed : Option (List Observation × List Observation)) :
    Except PyExc BrokerReconciliationResult :=
  match observed with
  | none => .ok (brokerResult .unavailable "Deriv state unavailable" "deriv" q.idempotencyKey none {})
  | some (positions, history) =>
    match derivById (normalizeIdentifier q.orderId) (normalizeIdentifier q.transactionId) q.idempotencyKey
        ((positions ++ history).map derivObservation) with
    | some r => .ok r
    | none => do
      let found ← symbolMatch q.symbol (positions ++ history)
      return classifyObservation "deriv" found q.idempotencyKey

/-- **What `get_reconciliation_adapter`'s adapters may answer**, whatever their gateway and ledger answered them. -/
inductive ShippedAnswer (q : ReconcileQuery) : Except PyExc BrokerReconciliationResult → Prop
  | simulation (observed) : ShippedAnswer q (simulationReconcile q observed)
  | mt5 (broker : String) (observed) : ShippedAnswer q (.ok (mt5Reconcile broker q observed))
  | deriv (observed) : ShippedAnswer q (derivReconcile q observed)

omit [CaseMap] in
theorem classifyObservation_state (broker : String) (found : Bool) (key : Option String) :
    (classifyObservation broker found key).state = .ambiguous := by
  unfold classifyObservation
  split <;> rfl

omit [CaseMap] in
theorem simulationMatch_none (q : ReconcileQuery) (ho : q.orderId = none) (ht : q.transactionId = none) :
    ∀ items, simulationMatch q items = none
  | [] => rfl
  | item :: items => by
    rw [simulationMatch]
    simp only [ho, ht, Option.isSome_none, Bool.false_eq_true, false_and, if_false]
    exact simulationMatch_none q ho ht items

omit [CaseMap] in
theorem derivById_none (key : Option String) (observations : List DerivObservation) :
    derivById none none key observations = none := by
  simp [derivById]

omit [CaseMap] in
theorem matchesId_none (item : Observation) (fields : List String) : matchesId item none fields = false := rfl

theorem symbol_not_confirmed {broker : String} {symbol key : Option String} {items : List Observation}
    {r : BrokerReconciliationResult}
    (h : (do let found ← symbolMatch symbol items; return classifyObservation broker found key) = Except.ok r) :
    r.state ≠ .confirmedMatch := by
  obtain ⟨found, _, h⟩ := bind_ok h
  cases h
  rw [classifyObservation_state]
  decide

/-- **Without an order or transaction id to look for, no shipped adapter confirms a match.** -/
theorem ShippedAnswer.not_confirmed {q : ReconcileQuery} {r : BrokerReconciliationResult}
    (h : ShippedAnswer q (.ok r)) (ho : q.orderId = none) (ht : q.transactionId = none) :
    r.state ≠ .confirmedMatch := by
  generalize hans : Except.ok r = ans at h
  cases h with
  | simulation observed =>
    unfold simulationReconcile at hans
    split at hans
    · cases hans
      simp
    · rw [simulationMatch_none q ho ht] at hans
      exact symbol_not_confirmed hans.symm
  | mt5 broker observed =>
    cases hans
    unfold mt5Reconcile
    split
    · simp
    · simp only [ho, Option.isSome_none, Bool.false_eq_true, if_false, matchesId_none]
      rw [List.find?_eq_none.2 (by simp)]
      dsimp only
      split <;> simp
  | deriv observed =>
    unfold derivReconcile at hans
    split at hans
    · cases hans
      simp
    · rw [ho, ht, normalizeIdentifier, Option.bind_none, derivById_none] at hans
      exact symbol_not_confirmed hans.symm

end Jqe
