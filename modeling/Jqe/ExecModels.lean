import Jqe.ExecPolicy
/-!
# ExecModels — `execution/models.py` and `execution/trade_manager.py`: durable records and position snapshots
-/
namespace Jqe

inductive IntentRecordStatus where
  | pending
  | accepted
  | rejected
  | unknown
  deriving DecidableEq

namespace IntentRecordStatus

def unresolved : IntentRecordStatus → Bool
  | pending | unknown => true
  | accepted | rejected => false

def allowedFrom (current status : IntentRecordStatus) : Bool :=
  match current with
  | pending => status == accepted || status == rejected || status == unknown
  | unknown => status == accepted || status == rejected || status == unknown
  | accepted => status == accepted
  | rejected => status == rejected

theorem allowedFrom_iff (current status : IntentRecordStatus) :
    allowedFrom current status = true ↔
      (current.unresolved = true ∧ status ≠ pending) ∨ (current.unresolved = false ∧ status = current) := by
  cases current <;> cases status <;> decide

end IntentRecordStatus

inductive ClaimState where
  | claimed
  | alreadyExists
  | conflict
  deriving DecidableEq

inductive ReservationState where
  | acquired
  | held
  | unresolvedIntent
  deriving DecidableEq

structure IntentRecord where
  idempotencyKey : String
  status : IntentRecordStatus
  orderId : Option String := none
  transactionId : Option String := none
  symbol : Option String := none
  side : Option SideValue := none
  quantity : Option ExecutionQuantity := none
  entry : Option PyFloat := none
  stopLoss : Option PyFloat := none
  takeProfit : Option PyFloat := none
  authorizedRiskAmount : Option PyFloat := none
  expectedLossAtStop : Option PyFloat := none
  broker : Option String := none
  accountId : Option String := none
  deriving DecidableEq

def IntentRecord.fromExecutionIntent (intent : ExecutionIntent) (status : IntentRecordStatus)
    (broker accountId : Option String) : Except PyExc IntentRecord :=
  match intent.side.side? with
  | none => .error (.exception "side is not a valid OrderSide")
  | some side => .ok {
      idempotencyKey := intent.idempotencyKey
      status
      symbol := some intent.symbol
      side := some (.member side)
      quantity := intent.quantity
      entry := some intent.entry
      stopLoss := some intent.stopLoss
      takeProfit := some intent.takeProfit
      authorizedRiskAmount := intent.authorizedRiskAmount
      expectedLossAtStop := intent.expectedLossAtStop
      broker
      accountId }

theorem IntentRecord.fromExecutionIntent_ok {intent : ExecutionIntent} {status : IntentRecordStatus}
    {broker accountId : Option String} {record : IntentRecord}
    (h : fromExecutionIntent intent status broker accountId = .ok record) :
    record.idempotencyKey = intent.idempotencyKey ∧ record.status = status ∧ record.orderId = none ∧
      record.transactionId = none ∧ record.accountId = accountId := by
  unfold fromExecutionIntent at h
  split at h
  · cases h
  · cases h
    exact ⟨rfl, rfl, rfl, rfl, rfl⟩

def IntentRecord.toExecutionIntent (record : IntentRecord) : Except PyExc (Option ExecutionIntent) :=
  match record.symbol, record.side, record.quantity, record.entry, record.stopLoss, record.takeProfit,
      record.authorizedRiskAmount, record.expectedLossAtStop with
  | some symbol, some side, some quantity, some entry, some stopLoss, some takeProfit, some risk, some loss =>
    match side.side? with
    | none => .error (.exception "side is not a valid OrderSide")
    | some member => .ok (some {
        symbol, side := .member member, quantity := some quantity, authorizedRiskAmount := some risk
        expectedLossAtStop := some loss, quantityRiskVerified := true, entry, stopLoss, takeProfit
        idempotencyKey := record.idempotencyKey, riskApproved := some true, magicNumber := none
        orderComment := none })
  | _, _, _, _, _, _, _, _ => .ok none

/-- One item of what a gateway answers as positions: a `Position`, or an object of another type. -/
inductive PositionItem where
  | position (p : Position)
  | other
  deriving DecidableEq

def fromPositions : List PositionItem → Option (List PositionSnapshot)
  | [] => some []
  | .other :: _ => none
  | .position p :: items =>
    if blank p.symbol then none
    else match fromPositions items with
      | none => none
      | some snapshots => some (⟨strip p.symbol, .member p.side⟩ :: snapshots)

theorem fromPositions_map_position {ps : List Position} {snapshots : List PositionSnapshot}
    (h : fromPositions (ps.map .position) = some snapshots) :
    snapshots = ps.map fun p => ⟨strip p.symbol, .member p.side⟩ := by
  induction ps generalizing snapshots with
  | nil => cases h; rfl
  | cons p ps ih =>
    rw [List.map_cons, fromPositions] at h
    split at h
    · cases h
    · split at h
      · cases h
      · rename_i rest hrest
        cases h
        rw [ih hrest, List.map_cons]

end Jqe
