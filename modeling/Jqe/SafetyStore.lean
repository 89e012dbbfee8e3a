import Jqe.AwareTime
import Jqe.PyBase
/-!
# SafetyStore — `execution/safety.py`: the latest safety and risk observations in SQLite

Each table has one row, which a publication replaces and a read decodes.  A moment's text is the moment in UTC that it
spells, and numbers are rationals, infinities or a NaN.
-/
namespace Jqe

open AwareTime

inductive EmergencyStopState where
  | clear
  | active
  | unknown
  deriving DecidableEq

def EmergencyStopState.value : EmergencyStopState → String
  | .clear => "CLEAR"
  | .active => "ACTIVE"
  | .unknown => "UNKNOWN"

inductive DurableExecutionMode where
  | durable
  deriving DecidableEq

def DurableExecutionMode.value : DurableExecutionMode → String
  | .durable => "DURABLE"

inductive DailyStateAuthority where
  | authoritative
  | notAuthoritative
  | notEvaluated
  | unknown
  deriving DecidableEq

def DailyStateAuthority.value : DailyStateAuthority → String
  | .authoritative => "AUTHORITATIVE"
  | .notAuthoritative => "NOT_AUTHORITATIVE"
  | .notEvaluated => "NOT_EVALUATED"
  | .unknown => "UNKNOWN"

/-- `ExecutionAuthorization`, and `RiskEvaluationState` with the same members. -/
inductive ExecutionAuthorization where
  | authorized
  | blocked
  | notEvaluated
  | unknown
  deriving DecidableEq

def ExecutionAuthorization.value : ExecutionAuthorization → String
  | .authorized => "AUTHORIZED"
  | .blocked => "BLOCKED"
  | .notEvaluated => "NOT_EVALUATED"
  | .unknown => "UNKNOWN"

abbrev RiskEvaluationState := ExecutionAuthorization

def memberOf {α : Type} (members : List α) (value : α → String) (text : String) : Except PyExc α :=
  match members.find? fun m => value m = text with
  | some m => .ok m
  | none => .error (.exception (text ++ " is not a valid member"))

def EmergencyStopState.ofText (text : String) : Except PyExc EmergencyStopState :=
  memberOf [.clear, .active, .unknown] value text

def DurableExecutionMode.ofText (text : String) : Except PyExc DurableExecutionMode := memberOf [.durable] value text

def DailyStateAuthority.ofText (text : String) : Except PyExc DailyStateAuthority :=
  memberOf [.authoritative, .notAuthoritative, .notEvaluated, .unknown] value text

def ExecutionAuthorization.ofText (text : String) : Except PyExc ExecutionAuthorization :=
  memberOf [.authorized, .blocked, .notEvaluated, .unknown] value text

def joinLines (lines : List String) : String := String.ofList (['\n'].intercalate (lines.map String.toList))

def splitLines (text : String) : List String := (text.toList.splitOn '\n').map String.ofList

/-- An INTEGER column takes what fits in 64 bits. -/
def sqliteInteger (n : ℤ) : Except PyExc ℤ :=
  if -2 ^ 63 ≤ n ∧ n < 2 ^ 63 then .ok n else .error (.exception "Python int too large to convert to SQLite INTEGER")

/-- A REAL column keeps a NaN as NULL. -/
def sqliteReal (x : Option PyFloat) : Option PyFloat := if x = some .nan then none else x

def flagInteger (flag : Bool) : ℤ := if flag then 1 else 0

/-- The moment that `astimezone(timezone.utc).isoformat(...)` spells. -/
def utcText [TimeZones] (d : AwareDatetime) : Except PyExc AwareDatetime :=
  match d.toUtc with
  | some utc => .ok utc
  | none => .error (.exception "date value out of range")

/-! ### Safety -/

structure SafetyFields where
  observedAt : AwareDatetime
  emergencyStopState : EmergencyStopState
  executionMode : DurableExecutionMode
  broker : String
  environment : String
  durableExecutorEnabled : Bool
  dailyStateAuthority : DailyStateAuthority
  unresolvedIntentCount : ℤ
  unresolvedIntentBlocked : Bool
  executionAuthorization : ExecutionAuthorization
  reasonCodes : List String
  schemaVersion : ℤ := 1
  deriving DecidableEq

/-- `ExecutionSafetySnapshot.__post_init__`, of an aware moment. -/
def SafetyFields.problem (f : SafetyFields) : Option String :=
  if f.schemaVersion ≠ 1 then some "Unsupported execution-safety schema version"
  else if blank f.broker = true ∨ blank f.environment = true then
    some "Execution-safety broker and environment are required"
  else if f.unresolvedIntentCount < 0 then some "Unresolved intent count cannot be negative"
  else if ∃ code ∈ f.reasonCodes, blank code = true then
    some "Execution-safety reason codes must be nonblank strings"
  else none

/-- A dataclass made of fields in which its `__post_init__` finds no problem. -/
def checkedFields {F : Type} (problem : F → Option String) (f : F) : Except PyExc { f : F // problem f = none } :=
  match h : problem f with
  | none => .ok ⟨f, h⟩
  | some message => .error (.exception message)

abbrev ExecutionSafetySnapshot := { f : SafetyFields // f.problem = none }

structure SafetyRow where
  schemaVersion : ℤ
  observedAt : AwareDatetime
  emergencyStopState : String
  executionMode : String
  broker : String
  environment : String
  durableExecutorEnabled : ℤ
  dailyStateAuthority : String
  unresolvedIntentCount : ℤ
  unresolvedIntentBlocked : ℤ
  executionAuthorization : String
  reasonCodes : String

/-! ### Risk -/

structure RiskFields where
  observedAt : AwareDatetime
  broker : String
  environment : String
  accountId : Option String
  evaluationState : RiskEvaluationState
  balance : Option PyFloat
  equity : Option PyFloat
  currency : Option String
  maxDailyLoss : Option PyFloat
  maxTradesDaily : Option ℤ
  dailyTradesCount : Option ℤ
  dailyLossPercent : Option PyFloat
  riskAllowed : Option Bool
  riskMessage : String
  rejectionReason : String
  authorizedRiskAmount : Option PyFloat
  authorizedRiskPercent : Option PyFloat
  executionQuantityAvailable : Bool
  executionQuantityValue : Option PyFloat
  executionQuantityUnit : Option String
  executionQuantityReason : String
  schemaVersion : ℤ := 2
  deriving DecidableEq

def RiskFields.numericValues (f : RiskFields) : List (Option PyFloat) :=
  [f.balance, f.equity, f.maxDailyLoss, f.dailyLossPercent, f.authorizedRiskAmount, f.authorizedRiskPercent,
    f.executionQuantityValue]

/-- `RiskAuthorizationSnapshot.__post_init__`, of an aware moment. -/
def RiskFields.problem (f : RiskFields) : Option String :=
  if f.schemaVersion ≠ 2 then some "Unsupported risk-observation schema version"
  else if blank f.broker = true ∨ blank f.environment = true then
    some "Risk-observation broker and environment are required"
  else if ∃ account ∈ f.accountId, blank account = true then
    some "Risk-observation account_id must be nonblank when present"
  else if (f.evaluationState = .authorized ∨ f.evaluationState = .blocked) ∧ f.accountId = none then
    some "Authoritative risk observations require account_id"
  else if ∃ value ∈ f.numericValues, ∃ x ∈ value, x.isFinite = false then
    some "Risk-observation numeric values must be finite"
  else if ∃ trades ∈ f.maxTradesDaily, trades < 0 then some "Maximum daily trades cannot be negative"
  else if ∃ trades ∈ f.dailyTradesCount, trades < 0 then some "Daily trade count cannot be negative"
  else if f.evaluationState ≠ .authorized ∧ (f.authorizedRiskAmount ≠ none ∨ f.authorizedRiskPercent ≠ none) then
    some "Only authorized risk observations may expose risk capital"
  else if f.evaluationState ≠ .authorized ∧ f.executionQuantityAvailable = true then
    some "Blocked or unavailable risk cannot expose quantity"
  else if f.executionQuantityAvailable = true then
    if f.executionQuantityValue = none ∨ (∃ value ∈ f.executionQuantityValue, value.le .zero = true) ∨
        f.executionQuantityUnit = none ∨ f.executionQuantityUnit = some "" then
      some "Available execution quantity requires a positive typed value"
    else none
  else if f.executionQuantityValue ≠ none ∨ f.executionQuantityUnit ≠ none then
    some "Unavailable execution quantity cannot expose value or unit"
  else none

abbrev RiskAuthorizationSnapshot := { f : RiskFields // f.problem = none }

structure RiskRow where
  schemaVersion : ℤ
  observedAt : AwareDatetime
  broker : String
  environment : String
  accountId : Option String
  evaluationState : String
  balance : Option PyFloat
  equity : Option PyFloat
  currency : Option String
  maxDailyLoss : Option PyFloat
  maxTradesDaily : Option ℤ
  dailyTradesCount : Option ℤ
  dailyLossPercent : Option PyFloat
  riskAllowed : Option ℤ
  riskMessage : String
  rejectionReason : String
  authorizedRiskAmount : Option PyFloat
  authorizedRiskPercent : Option PyFloat
  executionQuantityAvailable : ℤ
  executionQuantityValue : Option PyFloat
  executionQuantityUnit : Option String
  executionQuantityReason : String

/-! ### The store -/

structure SafetyStore where
  safety : Option SafetyRow
  risk : Option RiskRow

namespace SafetyStore

def publish [TimeZones] (store : SafetyStore) (snapshot : ExecutionSafetySnapshot) : Except PyExc SafetyStore := do
  let s := snapshot.val
  let observedAt ← utcText s.observedAt
  let schemaVersion ← sqliteInteger s.schemaVersion
  let unresolvedIntentCount ← sqliteInteger s.unresolvedIntentCount
  return { store with
    safety := some
      { schemaVersion
        observedAt
        emergencyStopState := s.emergencyStopState.value
        executionMode := s.executionMode.value
        broker := s.broker
        environment := s.environment
        durableExecutorEnabled := flagInteger s.durableExecutorEnabled
        dailyStateAuthority := s.dailyStateAuthority.value
        unresolvedIntentCount
        unresolvedIntentBlocked := flagInteger s.unresolvedIntentBlocked
        executionAuthorization := s.executionAuthorization.value
        reasonCodes := joinLines s.reasonCodes } }

def decodeSafety (row : SafetyRow) : Except PyExc ExecutionSafetySnapshot := do
  let emergencyStopState ← EmergencyStopState.ofText row.emergencyStopState
  let executionMode ← DurableExecutionMode.ofText row.executionMode
  let dailyStateAuthority ← DailyStateAuthority.ofText row.dailyStateAuthority
  let executionAuthorization ← ExecutionAuthorization.ofText row.executionAuthorization
  checkedFields SafetyFields.problem
    { observedAt := row.observedAt
      emergencyStopState
      executionMode
      broker := row.broker
      environment := row.environment
      durableExecutorEnabled := row.durableExecutorEnabled ≠ 0
      dailyStateAuthority
      unresolvedIntentCount := row.unresolvedIntentCount
      unresolvedIntentBlocked := row.unresolvedIntentBlocked ≠ 0
      executionAuthorization
      reasonCodes := (splitLines row.reasonCodes).filter (· ≠ "")
      schemaVersion := row.schemaVersion }

def read (store : SafetyStore) : Except PyExc (Option ExecutionSafetySnapshot) :=
  match store.safety with
  | none => .ok none
  | some row =>
    match decodeSafety row with
    | .ok snapshot => .ok (some snapshot)
    | .error _ => .error (.exception "Malformed execution-safety snapshot")

def publishRisk [TimeZones] (store : SafetyStore) (snapshot : RiskAuthorizationSnapshot) : Except PyExc SafetyStore := do
  let s := snapshot.val
  let observedAt ← utcText s.observedAt
  let schemaVersion ← sqliteInteger s.schemaVersion
  let maxTradesDaily ← s.maxTradesDaily.mapM sqliteInteger
  let dailyTradesCount ← s.dailyTradesCount.mapM sqliteInteger
  return { store with
    risk := some
      { schemaVersion
        observedAt
        broker := s.broker
        environment := s.environment
        accountId := s.accountId
        evaluationState := s.evaluationState.value
        balance := sqliteReal s.balance
        equity := sqliteReal s.equity
        currency := s.currency
        maxDailyLoss := sqliteReal s.maxDailyLoss
        maxTradesDaily
        dailyTradesCount
        dailyLossPercent := sqliteReal s.dailyLossPercent
        riskAllowed := s.riskAllowed.map flagInteger
        riskMessage := s.riskMessage
        rejectionReason := s.rejectionReason
        authorizedRiskAmount := sqliteReal s.authorizedRiskAmount
        authorizedRiskPercent := sqliteReal s.authorizedRiskPercent
        executionQuantityAvailable := flagInteger s.executionQuantityAvailable
        executionQuantityValue := sqliteReal s.executionQuantityValue
        executionQuantityUnit := s.executionQuantityUnit
        executionQuantityReason := s.executionQuantityReason } }

def decodeRisk (row : RiskRow) : Except PyExc RiskAuthorizationSnapshot := do
  let evaluationState ← ExecutionAuthorization.ofText row.evaluationState
  checkedFields RiskFields.problem
    { observedAt := row.observedAt
      broker := row.broker
      environment := row.environment
      accountId := row.accountId
      evaluationState
      balance := row.balance
      equity := row.equity
      currency := row.currency
      maxDailyLoss := row.maxDailyLoss
      maxTradesDaily := row.maxTradesDaily
      dailyTradesCount := row.dailyTradesCount
      dailyLossPercent := row.dailyLossPercent
      riskAllowed := row.riskAllowed.map (· ≠ 0)
      riskMessage := row.riskMessage
      rejectionReason := row.rejectionReason
      authorizedRiskAmount := row.authorizedRiskAmount
      authorizedRiskPercent := row.authorizedRiskPercent
      executionQuantityAvailable := row.executionQuantityAvailable ≠ 0
      executionQuantityValue := row.executionQuantityValue
      executionQuantityUnit := row.executionQuantityUnit
      executionQuantityReason := row.executionQuantityReason
      -- the version is read with the rest and checked by the constructor
      schemaVersion := row.schemaVersion }

def readRisk (store : SafetyStore) : Except PyExc (Option RiskAuthorizationSnapshot) :=
  match store.risk with
  | none => .ok none
  | some row =>
    match decodeRisk row with
    | .ok snapshot => .ok (some snapshot)
    | .error _ => .error (.exception "Malformed risk-authorization snapshot")

end SafetyStore

end Jqe
