import Jqe.ExecModels
/-!
# TerminalAudit — `TerminalReconciliationAuditor.audit` (`execution/continuous_reconciliation.py`)

Broker positions against tracked trades: first by position id, then by symbol.  The times and the message texts of the
discrepancies are left out.
-/
namespace Jqe

inductive ReconciliationDiscrepancyType where
  | untrackedBrokerPosition
  | externalManualTrade
  | volumeMismatch
  | symbolMismatch
  | sideMismatch
  | phantomInternalPosition
  | brokerUnavailable
  | malformedBrokerData
  deriving DecidableEq

structure ReconciliationDiscrepancy where
  type : ReconciliationDiscrepancyType
  symbol : Option String := none
  positionId : Option String := none
  brokerVolume : Option ℚ := none
  internalVolume : Option ℚ := none
  deriving DecidableEq

structure TrackedTradeState where
  symbol : String
  side : OrderSide
  volume : Option ℚ := none
  positionId : Option String := none
  orderId : Option String := none
  stopLoss : Option PyFloat := none
  takeProfit : Option PyFloat := none
  magicNumber : Option Int := none
  source : String := "internal"
  deriving DecidableEq

structure AuditedPlan where
  symbol : String
  signal : String
  stopLoss : Option PyFloat
  takeProfit : Option PyFloat
  deriving DecidableEq

structure AuditedEntry where
  symbol : String
  positionId : String
  orderId : String
  deriving DecidableEq

structure AuditReconciliationReport where
  broker : String
  isClean : Bool
  emergencyStopTripped : Bool
  discrepancies : List ReconciliationDiscrepancy
  brokerPositionsCount : ℕ
  trackedPositionsCount : ℕ
  actionTaken : String
  deriving DecidableEq

structure TerminalReconciliationAuditor where
  broker : String
  expectedMagicNumber : Option Int

/-- **What an audit is given besides the positions.**  A ledger or a store that is not configured has nothing. -/
structure AuditSources where
  explicitTracked : List TrackedTradeState
  activePlans : List AuditedPlan
  ledger : Except PyExc (List AuditedEntry)
  /-- `list_unresolved` of the intent store -/
  intents : Except PyExc (List IntentRecord)

variable [CaseMap]

namespace TrackedTradeState

/-- `from_trade_plan`, of a plan alone: every signal but `BUY` is a `SELL`. -/
def fromTradePlan (plan : AuditedPlan) : TrackedTradeState where
  symbol := normalizeSymbol plan.symbol
  side := if plan.signal = "BUY" then .buy else .sell
  stopLoss := plan.stopLoss
  takeProfit := plan.takeProfit
  source := "trade_plan"

def fromIntentRecord (record : IntentRecord) : Except PyExc (Option TrackedTradeState) :=
  match record.symbol, record.side with
  | some symbol, some side =>
    match side.side? with
    | none => .error (.exception "side is not a valid OrderSide")
    | some side => .ok (some
        { symbol := normalizeSymbol symbol, side, volume := record.quantity.map (·.value)
          positionId := record.orderId, orderId := record.orderId, stopLoss := record.stopLoss
          takeProfit := record.takeProfit, source := "intent_record" })
  | _, _ => .ok none

/-- `from_ledger_entry`, with its default side and no volume. -/
def fromLedgerEntry (entry : AuditedEntry) : TrackedTradeState where
  symbol := normalizeSymbol entry.symbol
  side := .buy
  positionId := some entry.positionId
  orderId := some entry.orderId
  source := "ledger_entry"

/-- The trades of accepted records, up to the first that raises. -/
def ofAccepted : List IntentRecord → List TrackedTradeState
  | [] => []
  | record :: records =>
    if record.status = .accepted then
      match fromIntentRecord record with
      | .ok (some t) => t :: ofAccepted records
      | .ok none => ofAccepted records
      | .error _ => []
    else ofAccepted records

end TrackedTradeState

/-- `try: … except Exception:` around a source that is then left out. -/
def orSkipped {α : Type} (x : Except PyExc (List α)) : Except PyExc (List α) :=
  match x with
  | .ok l => .ok l
  | .error e => if e.isException then .ok [] else .error e

def AuditSources.tracked (s : AuditSources) : Except PyExc (List TrackedTradeState) := do
  let ledger ← orSkipped s.ledger
  let intents ← orSkipped s.intents
  return s.explicitTracked ++ s.activePlans.map .fromTradePlan ++ ledger.map .fromLedgerEntry ++
    TrackedTradeState.ofAccepted intents

namespace TerminalReconciliationAuditor

omit [CaseMap] in
def trackedMap (trades : List TrackedTradeState) : List (String × TrackedTradeState) :=
  trades.foldl (fun d t => match t.positionId with
    | some pid => dictSet d pid t
    | none => d) []

/-- The trade on a position's symbol that the fallback takes: the first that states no id or an unmatched one. -/
def fallback (trades : List TrackedTradeState) (matched : List String) (p : Position) : Option TrackedTradeState :=
  trades.find? fun t => t.symbol == normalizeSymbol p.symbol && t.positionId.all (· ∉ matched)

def matchPosition (trades : List TrackedTradeState) (matched : List String) (p : Position) :
    Option TrackedTradeState × List String :=
  match (trackedMap trades).lookup p.positionId with
  | some t => (some t, p.positionId :: matched)
  | none =>
    match fallback trades matched p with
    | some t => (some t, t.positionId.toList ++ matched)
    | none => (none, matched)

def mismatches (a : TerminalReconciliationAuditor) (p : Position) (t : TrackedTradeState) :
    List ReconciliationDiscrepancy :=
  let at_ (type : ReconciliationDiscrepancyType) : ReconciliationDiscrepancy :=
    { type, symbol := some (normalizeSymbol p.symbol), positionId := some p.positionId }
  (if normalizeSymbol p.symbol ≠ t.symbol then [at_ .symbolMismatch] else []) ++
  (if p.side ≠ t.side then [at_ .sideMismatch] else []) ++
  (match t.volume with
    | some v => if 1 / 10 ^ 4 < |p.volume - v| then
        [{ at_ .volumeMismatch with brokerVolume := some p.volume, internalVolume := some v }] else []
    | none => []) ++
  (match a.expectedMagicNumber, p.magic with
    | some expected, some magic => if magic ≠ expected then [at_ .externalManualTrade] else []
    | _, _ => [])

def untracked (a : TerminalReconciliationAuditor) (p : Position) : ReconciliationDiscrepancy where
  type := if a.expectedMagicNumber.isSome ∧ p.magic ≠ a.expectedMagicNumber then .externalManualTrade
    else .untrackedBrokerPosition
  symbol := some (normalizeSymbol p.symbol)
  positionId := some p.positionId
  brokerVolume := some p.volume

def reconcilePositions (a : TerminalReconciliationAuditor) (trades : List TrackedTradeState) :
    List Position → List String → List ReconciliationDiscrepancy × List String
  | [], matched => ([], matched)
  | p :: ps, matched =>
    let found := matchPosition trades matched p
    let rest := reconcilePositions a trades ps found.2
    ((match found.1 with
      | some t => a.mismatches p t
      | none => [a.untracked p]) ++ rest.1, rest.2)

omit [CaseMap] in
def phantoms (trades : List TrackedTradeState) (matched : List String) : List ReconciliationDiscrepancy :=
  ((trackedMap trades).filter (·.1 ∉ matched)).map fun (pid, t) =>
    { type := .phantomInternalPosition, symbol := some t.symbol, positionId := some pid, internalVolume := t.volume }

def readable : List PositionItem → List Position
  | [] => []
  | .position p :: items => p :: readable items
  | .other :: items => readable items

def report (a : TerminalReconciliationAuditor) (items : List PositionItem) (trades : List TrackedTradeState) :
    AuditReconciliationReport :=
  let malformed := (items.filter (· == .other)).map fun _ => { type := .malformedBrokerData }
  let matching := reconcilePositions a trades (readable items) []
  let discrepancies := malformed ++ matching.1 ++ phantoms trades matching.2
  { broker := a.broker, isClean := discrepancies.isEmpty, emergencyStopTripped := false, discrepancies
    brokerPositionsCount := (readable items).length, trackedPositionsCount := (trackedMap trades).length
    actionTaken := if discrepancies.isEmpty then "CLEAN" else "DISCREPANCIES_DETECTED" }

def unavailable (a : TerminalReconciliationAuditor) : AuditReconciliationReport :=
  { broker := a.broker, isClean := false, emergencyStopTripped := false
    discrepancies := [{ type := .brokerUnavailable }], brokerPositionsCount := 0, trackedPositionsCount := 0
    actionTaken := "AUDIT_FAILED" }

def audit (a : TerminalReconciliationAuditor) (answer : Except PyExc (List PositionItem)) (s : AuditSources) :
    Except PyExc AuditReconciliationReport :=
  match answer with
  | .error e => if e.isException then .ok a.unavailable else .error e
  | .ok items => do
    let trades ← s.tracked
    return a.report items trades

end TerminalReconciliationAuditor

end Jqe
