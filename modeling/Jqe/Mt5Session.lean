import Jqe.PyBase
import Jqe.Raising
/-!
# Mt5Session — the process-wide MT5 session (`core/mt5_session.py`, `core/mt5_connection.py`, `broker/mt5_gateway.py`)

The session authority, the legacy `connect` and `disconnect`, and what any number of gateways do under its lock.  A
locked section is one computation on the world, whatever it nests; every call of the SDK answers as it likes, or raises.
-/
namespace Jqe
namespace Mt5

open Raising

/-- Who may own the session: the legacy helpers, or a gateway. -/
inductive Owner (G : Type) where
  | legacy
  | gateway (g : G)
  deriving DecidableEq

abbrev Identity := ℤ × String

/-- **The world of the session**: the authority's owner and flag, every gateway's pinned identity, and the calls of
`mt5.shutdown` so far, each with its caller and the owner it found. -/
structure World (G : Type) where
  owner : Option (Owner G)
  active : Bool
  pinned : G → Option Identity
  shutdowns : List (Owner G × Option (Owner G))

variable {G : Type} [DecidableEq G]

abbrev Act (G : Type) := EStateM PyExc (World G)

/-! ## `MT5SessionAuthority` -/

def reserve (o : Owner G) : Act G Bool := fun w =>
  if w.owner ≠ none ∧ w.owner ≠ some o then .ok false w else .ok true { w with owner := some o, active := false }

def activate (o : Owner G) : Act G Unit := fun w =>
  if w.owner ≠ some o then .error (.exception "MT5 session ownership unavailable") w else .ok () { w with active := true }

def owns (o : Owner G) : Act G Bool := fun w => .ok (decide (w.owner = some o)) w

def isActive (o : Owner G) : Act G Bool := fun w => .ok (decide (w.owner = some o) && w.active) w

def invalidate : Act G Unit := fun w => .ok () { w with active := false, owner := none }

def deactivate (o : Owner G) : Act G Unit := fun w =>
  .ok () (if w.owner = some o then { w with active := false } else w)

/-- `mt5.shutdown()`, called for `o`. -/
def shutdown (o : Owner G) (answer : Except PyExc Unit) : Act G Unit := fun w =>
  answered answer { w with shutdowns := w.shutdowns ++ [(o, w.owner)] }

def release (o : Owner G) (callback : Act G Unit) : Act G Bool := do
  if !(← owns o) then return false
  finallyDo callback fun w => { w with active := false, owner := none }
  return true

/-! ## `core/mt5_connection.py` -/

/-- What `connect` is given: whether there is a terminal path and a login. -/
structure ConnectArgs where
  terminalPath : Bool
  login : Bool

structure ConnectAnswers where
  isFile : Except PyExc Bool
  initialized : Except PyExc Bool
  login : Except PyExc Bool
  shutdown : Except PyExc Unit

def initializeTerminal (o : Owner G) (p : ConnectArgs) (a : ConnectAnswers) : Act G Bool := do
  if p.terminalPath then
    if !(← answered a.isFile) then return false
  if !(← answered a.initialized) then return false
  if p.login then
    if !(← answered a.login) then
      shutdown o a.shutdown
      return false
  return true

def connect (o : Owner G) (p : ConnectArgs) (a : ConnectAnswers) : Act G Bool := do
  if !(← reserve o) then return false
  rethrow (do
      let result ← initializeTerminal o p a
      if result then activate o else invalidate
      return result)
    invalidate

def disconnect (o : Owner G) (answer : Except PyExc Unit) : Act G Bool := release o (shutdown o answer)

/-! ## `MT5Gateway` -/

/-- What the gateway reads of `mt5.account_info()`; `none` where an attribute is missing or of another type. -/
structure Account where
  login : Option ℤ
  server : Option String
  tradeMode : Option ℤ

structure Terminal where
  connected : Bool
  tradeAllowed : Bool
  tradeapiDisabled : Bool

structure GatewayConfig where
  terminalPath : Bool
  login : Option ℤ
  server : Option String
  expectedEnvironment : Option String
  strictLifecycle : Bool

def identity (account : Option Account) : Option Identity := do
  let account ← account
  let login ← account.login
  let server ← account.server
  if login ≤ 0 ∨ blank server = true then none else some (login, server)

def isDemoAccount (account : Option Account) : Bool := (account.bind (·.tradeMode)) == some 0

def identityVerified (config : GatewayConfig) (pinned : Option Identity) (account : Option Account)
    (terminal : Option Terminal) (requireTrading : Bool) : Bool :=
  match terminal, identity account with
  | some terminal, some observed =>
    terminal.connected && isDemoAccount account && (pinned.all fun p => observed == p) &&
      !(requireTrading && (!terminal.tradeAllowed || terminal.tradeapiDisabled)) &&
      (config.login.all fun login => observed.1 == login) && (config.server.all fun server => observed.2 == server) &&
      (match config.expectedEnvironment with
        | some expected => (if isDemoAccount account then some "demo" else none) == some expected
        | none => !config.strictLifecycle)
  | _, _ => false

structure VerifyAnswers where
  account : Except PyExc (Option Account)
  terminal : Except PyExc (Option Terminal)

def verifyConnectionIdentity (config : GatewayConfig) (g : G) (a : VerifyAnswers) (requireTrading : Bool) :
    Act G Bool := do
  let account ← answered a.account
  let terminal ← answered a.terminal
  let w ← get
  return identityVerified config (w.pinned g) account terminal requireTrading

def setPinned (g : G) (pinned : Option Identity) (w : World G) : World G :=
  { w with pinned := Function.update w.pinned g pinned }

def raise {α : Type} (message : String) : Act G α := throw (.exception message)

structure SessionAnswers where
  connect : ConnectAnswers
  first : VerifyAnswers
  account : Except PyExc (Option Account)
  second : VerifyAnswers
  shutdown : Except PyExc Unit

def connectPinned (config : GatewayConfig) (g : G) (a : SessionAnswers) : Act G Unit := do
  if !(← connect (.gateway g) ⟨config.terminalPath, config.login.isSome⟩ a.connect) then
    raise "Failed to connect to MT5 terminal"
  if !(← verifyConnectionIdentity config g a.first false) then raise "MT5 connection identity verification failed"
  let info ← answered a.account
  modify (setPinned g (identity info))
  if (identity info).isNone || !isDemoAccount info then raise "MT5 connection identity unavailable"
  if !(← verifyConnectionIdentity config g a.second false) then
    raise "MT5 connection identity observations conflict"
  activate (.gateway g)

def connectSession (config : GatewayConfig) (g : G) (a : SessionAnswers) : Act G Unit := do
  if !(← reserve (.gateway g)) then raise "MT5 process-global session already owned"
  modify (setPinned g none)
  rethrow (connectPinned config g a) do
    let _ ← finallyDo (disconnect (.gateway g) a.shutdown) fun w =>
      setPinned g none { w with active := false, owner := none }

def disconnectSession (g : G) (answer : Except PyExc Unit) : Act G Unit := do
  if !(← owns (.gateway g)) then return
  let _ ← finallyDo (disconnect (.gateway g) answer) fun w =>
    setPinned g none { w with active := false, owner := none }

structure ReadAnswers where
  account : Except PyExc (Option Account)
  verify : VerifyAnswers

/-- **`_read_verified_account_info`**, up to the numbers of the account. -/
def readAccountInfo (config : GatewayConfig) (g : G) (a : ReadAnswers) : Act G (Option Account) := do
  if !(← isActive (.gateway g)) then raise "MT5Gateway is not connected — call connect() first"
  let info ← answered a.account
  if info.isNone then
    deactivate (.gateway g)
    raise "Failed to retrieve MT5 account info"
  let w ← get
  -- `or` stops at the first of the four that holds
  let conflict ← if (w.pinned g).isNone || identity info != w.pinned g || !isDemoAccount info then pure true
    else Bool.not <$> verifyConnectionIdentity config g a.verify false
  if conflict then
    deactivate (.gateway g)
    raise "MT5 pinned account identity or DEMO verification failed"
  return info

/-! ## Calls -/

/-- **A locked section**: a call, with what it is answered.  A gateway deactivates its session wherever a readiness
check of an order fails, at any time. -/
inductive Call (G : Type) where
  | legacyConnect (p : ConnectArgs) (a : ConnectAnswers)
  | legacyDisconnect (answer : Except PyExc Unit)
  | connect (g : G) (a : SessionAnswers)
  | disconnect (g : G) (answer : Except PyExc Unit)
  | isConnected (g : G)
  | readAccountInfo (g : G) (a : ReadAnswers)
  | deactivate (g : G)

def Call.caller : Call G → Owner G
  | legacyConnect _ _ | legacyDisconnect _ => .legacy
  | connect g _ | disconnect g _ | isConnected g | readAccountInfo g _ | deactivate g => .gateway g

def Call.isConnect : Call G → Bool
  | legacyConnect _ _ | connect _ _ => true
  | _ => false

/-- What a call does, with `true` or `false` where it returns one of them. -/
def Call.run (config : G → GatewayConfig) : Call G → Act G (Option Bool)
  | legacyConnect p a => do return some (← Mt5.connect .legacy p a)
  | legacyDisconnect answer => do return some (← Mt5.disconnect .legacy answer)
  | connect g a => do connectSession (config g) g a; return none
  | disconnect g answer => do disconnectSession g answer; return none
  | isConnected g => do return some (← isActive (.gateway g))
  | readAccountInfo g a => do let _ ← Mt5.readAccountInfo (config g) g a; return none
  | deactivate g => do Mt5.deactivate (.gateway g); return none

def fresh : World G := ⟨none, false, fun _ => none, []⟩

/-- The world after a list of calls, in the order in which they get the lock. -/
def after (config : G → GatewayConfig) (calls : List (Call G)) : World G :=
  calls.foldl (fun w call => left (call.run config w)) fresh

end Mt5
end Jqe
