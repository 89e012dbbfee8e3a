import Jqe.PyBase
/-!
# DerivLink — the sessions of a `DerivGateway` (`broker/deriv_gateway.py`)

`connect`, `disconnect`, `_read_loop` and `_teardown` with a step for every stretch of code between two awaits.  Calls,
sockets and reader tasks go by number; any of them may move next.  The reply that `connect` waits for is delivered to
its future by a reader; the other messages of a socket leave no trace here.
-/
namespace Jqe

open Function (update)

inductive DerivIdentityState where
  | unverified
  | verifiedDemo
  | mismatch
  | ambiguous
  | liveAccount
  | authenticationFailed
  | sessionClosed
  deriving DecidableEq

structure LinkConfig where
  auth : Bool
  demo : Bool

/-- The answer to `authorize`; a login id or a currency that is no text is `none`. -/
structure AuthorizeReply where
  error : Bool
  isDict : Bool
  isVirtual : Bool
  loginid : Option String
  currency : Option String
  deriving DecidableEq

/-- The answer passes every check of `connect`. -/
def AuthorizeReply.accepted (cfg : LinkConfig) (a : AuthorizeReply) : Bool :=
  !a.error && a.isDict && cfg.demo && a.isVirtual && a.loginid.any (fun s => !blank s) &&
    a.currency.any (fun s => !blank s)

/-- The future of the `authorize` request of a call. -/
inductive AuthorizeFuture where
  | pending
  | answered (a : AuthorizeReply)
  | failed
  deriving DecidableEq

inductive ReaderPhase where
  | created
  | running (socket : ℕ)
  | cancelled
  | ended
  deriving DecidableEq

/-- Where a call of `connect` or `disconnect` waits; the socket is the one it has opened, with its reader. -/
inductive CallPhase where
  | over
  | opening
  | sending (socket reader : ℕ)
  | waiting (socket reader : ℕ)
  | requestingOtp
  | openingSession
  | verifying (socket : ℕ)
  /-- `_auth_session.close()` of a refused session, with the state it leaves -/
  | refusing (state : DerivIdentityState)
  | tearing
  | disconnecting
  deriving DecidableEq

def CallPhase.connecting : CallPhase → Bool
  | .over | .disconnecting => false
  | _ => true

structure DerivLink where
  connection : Option ℕ := none
  readerTask : Option ℕ := none
  connected : Bool := false
  accountId : Option String := none
  currency : Option String := none
  /-- the account of `_identity` -/
  identity : Option String := none
  identityState : DerivIdentityState := .unverified
  /-- `_auth_session._connection` -/
  authConnection : Option ℕ := none
  nextSocket : ℕ := 0
  nextReader : ℕ := 0
  nextCall : ℕ := 0
  readers : ℕ → ReaderPhase := fun _ => .ended
  calls : ℕ → CallPhase := fun _ => .over
  futures : ℕ → AuthorizeFuture := fun _ => .failed
  reported : ℕ → Option String := fun _ => none
  owner : Option ℕ := none

inductive LinkMove where
  | connect
  | opened (k : ℕ)
  | sent (k : ℕ)
  | answered (r k : ℕ) (a : AuthorizeReply)
  | resumes (k : ℕ)
  | otpReceived (k : ℕ)
  | sessionOpened (k : ℕ)
  | verified (k : ℕ) (account : String) (demo : Bool)
  /-- a `DerivAuthFailure` of the session, with the state it is mapped to -/
  | authFails (k : ℕ) (state : DerivIdentityState)
  /-- another exception at the await, a cancellation among them -/
  | raises (k : ℕ)
  | closed (k : ℕ)
  | disconnect
  | readerStarts (r : ℕ)
  | readerEnds (r : ℕ)

namespace DerivLink

variable (cfg : LinkConfig) (s : DerivLink)

def clearIdentity (state : DerivIdentityState) : DerivLink :=
  { s with identity := none, identityState := state, accountId := none, currency := none }

def setCall (k : ℕ) (phase : CallPhase) : DerivLink := { s with calls := update s.calls k phase }

/-- Every future that is still in `_pending` is done without a result. -/
def failPending : DerivLink :=
  { s with futures := fun k => if s.futures k = .pending then .failed else s.futures k }

def createReader : DerivLink :=
  { s with
    readerTask := some s.nextReader
    readers := update s.readers s.nextReader .created
    nextReader := s.nextReader + 1 }

/-- `cancel` of the reader task: one that has not started never runs. -/
def cancelReader : ℕ → ReaderPhase :=
  match s.readerTask with
  | none => s.readers
  | some r =>
    match s.readers r with
    | .running _ => update s.readers r .cancelled
    | .created => update s.readers r .ended
    | _ => s.readers

/-- `_teardown`, up to the closing of the connection. -/
def teardownBegins : DerivLink :=
  { s with
    connected := false
    readers := s.cancelReader
    readerTask := none
    authConnection := if cfg.auth then none else s.authConnection }

def teardownEnds : DerivLink := { s.failPending with connection := none }.clearIdentity .sessionClosed

/-- `_teardown` in a call: it waits where there is something to close. -/
def teardown (k : ℕ) (phase : CallPhase) : DerivLink :=
  if (if cfg.auth then s.authConnection else s.connection).isSome then (s.teardownBegins cfg).setCall k phase
  else ((s.teardownBegins cfg).teardownEnds).setCall k .over

/-- `connect`, up to its first await. -/
def connect : DerivLink :=
  let s' := { s.clearIdentity .unverified with nextCall := s.nextCall + 1 }
  if cfg.auth then
    if cfg.demo then { s' with authConnection := none }.setCall s.nextCall .requestingOtp
    else s'.clearIdentity .liveAccount
  else s'.setCall s.nextCall .opening

/-- The WebSocket is open: the reader is created and the request is sent. -/
def opened (k : ℕ) : DerivLink :=
  { s.createReader with
    connection := some s.nextSocket
    nextSocket := s.nextSocket + 1
    futures := update s.futures k .pending
    reported := update s.reported s.nextSocket none
    calls := update s.calls k (.sending s.nextSocket s.nextReader) }

/-- A reader hands the reply to the future. -/
def answered (k socket : ℕ) (a : AuthorizeReply) : DerivLink :=
  { s with
    futures := update s.futures k (.answered a)
    reported := update s.reported socket (a.loginid.map strip) }

/-- `connect` with an answer that passes. -/
def authorized (k reader : ℕ) (a : AuthorizeReply) : DerivLink :=
  { s with
    accountId := a.loginid.map strip
    currency := a.currency.map strip
    connected := true
    owner := some reader }.setCall k .over

def refused (k : ℕ) (state : DerivIdentityState) : DerivLink := (s.clearIdentity state).setCall k .over

/-- `await self._auth_session.close()` of a session that is refused. -/
def refuse (k : ℕ) (state : DerivIdentityState) : DerivLink :=
  if s.authConnection.isSome then { s with authConnection := none }.setCall k (.refusing state) else s.refused k state

/-- `_connect_verified_demo_session` with the session that is returned. -/
def verified (k : ℕ) (account : String) (demo : Bool) : DerivLink :=
  if !demo then s.refuse k .liveAccount
  else if s.authConnection.isNone || blank account then s.refuse k .ambiguous
  else
    { s.createReader with
      connection := s.authConnection
      accountId := some (strip account)
      identity := some (strip account)
      identityState := .verifiedDemo
      connected := true
      owner := some s.nextReader }.setCall k .over

def endReader (r : ℕ) : DerivLink :=
  { s.failPending with
    connected := false
    readers := update s.readers r .ended
    authConnection := if cfg.auth then none else s.authConnection }.clearIdentity .sessionClosed

def step : LinkMove → Option DerivLink
  | .connect => some (s.connect cfg)
  | .opened k => if s.calls k = .opening then some (s.opened k) else none
  | .sent k =>
    match s.calls k with
    | .sending socket reader => some (s.setCall k (.waiting socket reader))
    | _ => none
  | .answered r k a =>
    match s.calls k with
    | .sending socket _ | .waiting socket _ =>
      if s.readers r = .running socket ∧ s.futures k = .pending then some (s.answered k socket a) else none
    | _ => none
  | .resumes k =>
    match s.calls k, s.futures k with
    | .waiting _ reader, .answered a =>
      some (if a.accepted cfg then s.authorized k reader a else s.teardown cfg k .tearing)
    | .waiting _ _, .failed => some (s.setCall k .over)
    | _, _ => none
  | .otpReceived k => if s.calls k = .requestingOtp then some (s.setCall k .openingSession) else none
  | .sessionOpened k =>
    if s.calls k = .openingSession then
      some ({ s with authConnection := some s.nextSocket, nextSocket := s.nextSocket + 1 }.setCall k
        (.verifying s.nextSocket))
    else none
  | .verified k account demo =>
    match s.calls k with
    | .verifying socket =>
      some ({ s with reported := update s.reported socket (some (strip account)) }.verified k account demo)
    | _ => none
  | .authFails k state =>
    match s.calls k with
    | .requestingOtp | .openingSession | .verifying _ => some (s.refused k state)
    | _ => none
  | .raises k =>
    if s.calls k = .over then none else some ({ s with futures := update s.futures k .failed }.setCall k .over)
  | .closed k =>
    match s.calls k with
    | .tearing | .disconnecting => some (s.teardownEnds.setCall k .over)
    | .refusing state => some (s.refused k state)
    | _ => none
  | .disconnect => some ({ s with nextCall := s.nextCall + 1 }.teardown cfg s.nextCall .disconnecting)
  | .readerStarts r =>
    if s.readers r = .created then
      -- `assert self._connection is not None`
      some { s with readers := update s.readers r (s.connection.elim .ended .running) }
    else none
  | .readerEnds r =>
    match s.readers r with
    | .running _ | .cancelled => some (s.endReader cfg r)
    | _ => none

def run (s : DerivLink) : List LinkMove → Option DerivLink
  | [] => some s
  | move :: moves => (step cfg s move).bind fun s' => run s' moves

end DerivLink
end Jqe
