import Jqe.ExecSystem
import Jqe.Mt5History
import Mathlib.Data.List.Sort
import Mathlib.Data.List.Infix
/-!
# ResolveIntent — `tools/resolve_intent.py`

One `UNKNOWN` intent is inspected against the broker (`inspectIntent`, over the history in chunks of an hour) and, where
nothing of its symbol is found, rejected by an operator (`confirmResolution`).  Moments are microseconds; the terminal's
records carry whole seconds of the server's clock.
-/
namespace Jqe

namespace Resolve

def second : Int := 1000000

def historyChunk : Int := 3600 * second

def windowMargin : Int := 600 * second

def maxChunkRecords : ℕ := 1000

def fail {α : Type} (message : String) : Except PyExc α := .error (.exception message)

end Resolve

open Resolve

inductive Heartbeat where
  | missing
  /-- no JSON object, or a `pid` that cannot be asked for -/
  | unreadable
  | read (status : Option String) (alive : Bool)
  deriving DecidableEq

def supervisorIsRunning : Heartbeat → Bool
  | .missing => false
  | .unreadable => true
  | .read status alive => status != some "STOPPED" && alive

/-! ## The history of a terminal -/

structure BrokerRecord where
  ticket : Option Int
  symbol : String
  time : Int
  deriving DecidableEq

/-- `history_orders_get` or `history_deals_get`, of an interval of the server's clock. -/
abbrev HistoryGet := Int → Int → Sdk (Option (List BrokerRecord))

def collectPart (method : String) : List BrokerRecord → List (String × BrokerRecord) →
    Except PyExc (List (String × BrokerRecord))
  | [], records => .ok records
  | item :: part, records =>
    match item.ticket with
    | none => fail (method ++ " returned a record without a ticket")
    | some ticket => collectPart method part (dictSet records (toString ticket) item)

def historyFrom (method : String) (get : HistoryGet) (cursor endAt : Int) (records : List (String × BrokerRecord)) :
    Except PyExc (List (String × BrokerRecord)) :=
  if cursor < endAt then do
    let nextEnd := min (cursor + historyChunk) endAt
    match ← (get cursor nextEnd).get with
    | none => fail (method ++ " returned unavailable or possibly truncated history")
    | some part =>
      if maxChunkRecords ≤ part.length then fail (method ++ " returned unavailable or possibly truncated history")
      else
        let records ← collectPart method part records
        historyFrom method get nextEnd endAt records
  else .ok records
termination_by (endAt - cursor).toNat
decreasing_by
  have hchunk : 0 < historyChunk := by decide
  omega

def history (method : String) (get : HistoryGet) (start endAt : Int) : Except PyExc (List BrokerRecord) := do
  let records ← historyFrom method get start endAt []
  return records.map Prod.snd

/-! ## The inspection -/

structure RecoverySettings where
  /-- `intent_store_path` is a file -/
  storeIsFile : Bool
  /-- `effective_broker` -/
  broker : String
  marketDataSource : Option String
  terminalIsFile : Bool
  terminalParent : String
  /-- `effective_weltrade_login` -/
  login : Option Int
  server : Option String
  password : Bool

structure RecoveryTerminalInfo where
  connected : Bool
  path : String
  deriving DecidableEq

structure RecoverySession where
  initialized : Sdk Bool
  login : Sdk Bool
  accountInfo : Sdk (Option Mt5Account)
  terminalInfo : Sdk (Option RecoveryTerminalInfo)
  /-- `symbol_info_tick("FX Vol 20").time`, if it is an `int` -/
  tickTime : Sdk (Option Int)
  shutdown : Sdk Unit

structure RecoveryEvidence where
  positionsGet : Sdk (Option (List BrokerRecord))
  ordersGet : Sdk (Option (List BrokerRecord))
  historyOrdersGet : HistoryGet
  historyDealsGet : HistoryGet

inductive Recommendation where
  | halt
  | rejected
  deriving DecidableEq

structure RecoveryFinding where
  intentId : String
  state : IntentRecordStatus
  symbol : String
  createdAt : Int
  observedAt : Int
  windowStart : Int
  windowEnd : Int
  serverUtcOffsetSeconds : Int
  positions : List String
  pendingOrders : List String
  historicalOrders : List String
  historicalDeals : List String
  recommendation : Recommendation
  reason : String
  deriving DecidableEq

def readIntent (storeIsFile : Bool) (store : Store) (intentId : String) : Except PyExc IntentRow :=
  if !storeIsFile then fail "Intent store is unavailable"
  else match store.row intentId with
    | none => fail "Exact intent ID was not found"
    | some row =>
      if row.state ≠ .unknown ∨ row.broker ≠ some "weltrade" then
        fail "Intent is not an unresolved Weltrade UNKNOWN intent"
      else if (row.orderId.getD "") ≠ "" ∨ (row.transactionId.getD "") ≠ "" then
        fail "Intent has a broker identifier; human reconciliation is required"
      else if (row.symbol.getD "") = "" ∨ (row.accountId.getD "") = "" then fail "Intent identity is incomplete"
      else .ok row

section
variable [CaseMap]

def enforceWeltradeOnly (broker : String) (marketDataSource : Option String) : Except PyExc Unit :=
  if CaseMap.lower (strip broker) ∉ ["weltrade", "weltrade_demo"] then fail "Weltrade-only live scope rejects broker"
  else if marketDataSource.any (· ≠ "broker") then fail "Weltrade-only live scope requires broker market data"
  else .ok ()

/-- The account and the terminal are those of the settings and of the intent, and a demo account. -/
def identityHeld (s : RecoverySettings) (row : IntentRow) (account : Mt5Account) (info : RecoveryTerminalInfo) :
    Except PyExc Unit :=
  if account.tradeMode ≠ some 0 then fail "Weltrade account is not authoritatively DEMO"
  else if account.login ≠ s.login ∨ account.login.map toString ≠ row.accountId ∨ account.server ≠ s.server ∨
      ¬"WELTRADE".toList <:+: (CaseMap.upper (s.server.getD "")).toList ∨ info.path ≠ s.terminalParent then
    fail "Weltrade demo account or terminal identity mismatch"
  else .ok ()

def serverOffset (tickTime : Option Int) (observed : Int) : Option Int :=
  match tickTime with
  | none => none
  | some raw =>
    if raw ≤ 0 then none
    else match (((List.range 27).map fun h : ℕ => ((h : Int) - 12) * 3600).filter fun o =>
        |(raw - o) * second - observed| ≤ 120 * second) with
      | [o] => some o
      | _ => none

/-- The session of a connected terminal, up to the shift of its clock. -/
def sessionOffset (s : RecoverySettings) (t : RecoverySession) (row : IntentRow) (observed : Int) : Except PyExc Int := do
  if !(← t.login.get) then fail "Weltrade demo connection failed"
  else
    let account ← t.accountInfo.get
    let info ← t.terminalInfo.get
    match account, info.filter (·.connected) with
    | some account, some info =>
      identityHeld s row account info
      match serverOffset (← t.tickTime.get) observed with
      | none => fail "Weltrade server-to-UTC offset is unresolved"
      | some offset => return offset
    | _, _ => fail "Weltrade demo connection is unreadable"

def matchingIds (symbol : String) (records : List BrokerRecord) : Except PyExc (List String) := do
  let tickets ← (records.filter fun r => normalizeSymbol r.symbol = symbol).mapM fun r =>
    match r.ticket with
    | some ticket => .ok (toString ticket)
    | none => fail "object has no attribute 'ticket'"
  return tickets.insertionSort (· ≤ ·)

def evidenceFinding (intentId : String) (row : IntentRow) (e : RecoveryEvidence) (observed offset : Int) :
    Except PyExc RecoveryFinding := do
  let start := row.createdAt - windowMargin
  let positions ← e.positionsGet.get
  let pending ← e.ordersGet.get
  match positions, pending with
  | some positions, some pending =>
    let shift := offset * second
    let historicalOrders ← history "history_orders_get" e.historyOrdersGet (start + shift) (observed + shift)
    let historicalDeals ← history "history_deals_get" e.historyDealsGet (start + shift) (observed + shift)
    let symbol := normalizeSymbol (row.symbol.getD "")
    let positions ← matchingIds symbol positions
    let pendingOrders ← matchingIds symbol pending
    let historicalOrders ← matchingIds symbol historicalOrders
    let historicalDeals ← matchingIds symbol historicalDeals
    let found := [positions, pendingOrders, historicalOrders, historicalDeals].any (!·.isEmpty)
    return {
      intentId
      state := row.state
      symbol
      createdAt := row.createdAt
      observedAt := observed
      windowStart := start
      windowEnd := observed
      serverUtcOffsetSeconds := offset
      positions, pendingOrders, historicalOrders, historicalDeals
      recommendation := if found then .halt else .rejected
      reason :=
        if found then "Same-symbol broker evidence requires human reconciliation"
        else "No matching broker position, pending order, historical order, or deal" }
  | _, _ => fail "Current broker positions or orders are unreadable"

/-- What comes before the terminal is asked: the intent's row. -/
def resolvableRow (intentId : String) (heartbeat : Heartbeat) (s : RecoverySettings) (store : Store) (observed : Int) :
    Except PyExc IntentRow := do
  if supervisorIsRunning heartbeat then fail "Execution supervisor may be running; recovery is blocked"
  else
    enforceWeltradeOnly s.broker s.marketDataSource
    let row ← readIntent s.storeIsFile store intentId
    if observed < row.createdAt then fail "Intent time window is invalid"
    else if s.terminalIsFile = false ∨ s.login.getD 0 = 0 ∨ s.server.getD "" = "" ∨ s.password = false then
      fail "Weltrade demo configuration is incomplete"
    else return row

def inspectIntent (intentId : String) (heartbeat : Heartbeat) (s : RecoverySettings) (t : RecoverySession)
    (e : RecoveryEvidence) (store : Store) (observed : Int) : Except PyExc RecoveryFinding := do
  let row ← resolvableRow intentId heartbeat s store observed
  if !(← t.initialized.get) then fail "Weltrade demo connection failed"
  else
    let result := do
      let offset ← sessionOffset s t row observed
      evidenceFinding intentId row e observed offset
    t.shutdown.get
    result

end

/-! ## The resolution -/

structure RecoveryAudit where
  auditId : String
  intentId : String
  actor : String
  occurredAt : Int
  fromState : IntentRecordStatus
  toState : IntentRecordStatus
  /-- `evidence()` of the finding -/
  evidence : RecoveryFinding
  backupPath : String
  deriving DecidableEq

/-- The database: the intents, and the audit table once it is there. -/
structure ResolveWorld where
  store : Store
  audit : Option (List RecoveryAudit)

def ResolveWorld.auditRows (w : ResolveWorld) : List RecoveryAudit := w.audit.getD []

structure ConfirmCall where
  heartbeat : Heartbeat
  /-- `_backup_before_write`: the path, or its exception -/
  backup : Except PyExc String
  actor : String
  at_ : Int
  /-- `uuid4().hex` -/
  auditId : String

def resolvedRow (at_ : Int) (reason : String) (r : IntentRow) : IntentRow :=
  { r with
    state := .rejected
    updatedAt := at_
    recoveryOutcome := some "OPERATOR_CONFIRMED_ABSENCE"
    reconciliationState := some "CONFIRMED_ABSENCE"
    recoveryReason := some reason }

/-- `UPDATE intent_records … WHERE idempotency_key=? AND state='UNKNOWN' AND … IS NULL`, and its row count. -/
def resolveWhere (at_ : Int) (reason intentId : String) (store : Store) : ℕ × Store :=
  match store.row intentId with
  | some r =>
    if r.state = .unknown ∧ r.orderId = none ∧ r.transactionId = none then
      (1, store.setRow intentId (resolvedRow at_ reason r))
    else (0, store)
  | none => (0, store)

def resolveBody (finding : RecoveryFinding) (c : ConfirmCall) (backup : String) (w : ResolveWorld) :
    Except PyExc ResolveWorld :=
  match w.store.row finding.intentId with
  | none => fail "Exact intent changed since inspection; no transition written"
  | some row =>
    if (row.state, row.broker, row.symbol, row.createdAt, row.orderId, row.transactionId) ≠
        (.unknown, some "weltrade", some finding.symbol, finding.createdAt, none, none) then
      fail "Exact intent changed since inspection; no transition written"
    else
      -- `CREATE TABLE IF NOT EXISTS`
      let audit := w.auditRows
      let (updated, store) := resolveWhere c.at_ finding.reason finding.intentId w.store
      if updated ≠ 1 then fail "Exact intent transition failed; no audit committed"
      else if audit.any (·.auditId = c.auditId) then fail "UNIQUE constraint failed: intent_recovery_audit.audit_id"
      else .ok {
        store
        audit := some (audit ++ [{
          auditId := c.auditId
          intentId := finding.intentId
          actor := c.actor
          occurredAt := c.at_
          fromState := .unknown
          toState := .rejected
          evidence := finding
          backupPath := backup }]) }

/-- **`confirm_resolution`**: what it returns, and the database after it; what raises inside is rolled back. -/
def confirmResolution (finding : RecoveryFinding) (c : ConfirmCall) (w : ResolveWorld) :
    Except PyExc String × ResolveWorld :=
  if finding.recommendation ≠ .rejected ∨
      [finding.positions, finding.pendingOrders, finding.historicalOrders, finding.historicalDeals].any (!·.isEmpty) then
    (fail "Broker evidence is ambiguous; resolution is refused", w)
  else if supervisorIsRunning c.heartbeat then (fail "Execution supervisor may be running; recovery is blocked", w)
  else match c.backup with
    | .error e => (.error e, w)
    | .ok backup =>
      match resolveBody finding c backup w with
      | .ok w' => (.ok backup, w')
      | .error e => (.error e, w)

inductive ConfirmExec (finding : RecoveryFinding) (c : ConfirmCall) (w : ResolveWorld) :
    Except PyExc String → ResolveWorld → Prop
  | ran : ConfirmExec finding c w (confirmResolution finding c w).1 (confirmResolution finding c w).2
  | failed (e : PyExc) : ConfirmExec finding c w (.error e) w

/-- **One operation on the database by anyone**: a call of the intent store, or another resolution. -/
inductive ResolveStep (w : ResolveWorld) : ResolveWorld → Prop
  | store {s' : Store} {op : StoreOp} {ans : Except PyExc op.Ans} (h : StoreExec True w.store op ans s') :
      ResolveStep w { w with store := s' }
  | confirm {finding : RecoveryFinding} {c : ConfirmCall} {out : Except PyExc String} {w' : ResolveWorld}
      (h : ConfirmExec finding c w out w') : ResolveStep w w'

end Jqe
