import Jqe.PyBase
/-!
# DerivRequests — the requests of a `DerivGateway` (`broker/deriv_gateway.py`)

`_request`, `_read_loop`, `_fail_pending` and `_teardown` as one state with a step for every stretch of code between two
awaits.  Calls go by the id that they draw; the message that `wait_for` waits for, its timeout and the cancellation of
the waiting task come in two steps each, as in asyncio: the future first, then the task.
-/
namespace Jqe

/-- A `req_id` under Python's equality: a number (`true` and `1.0` are `1`) or another value that can be a key. -/
inductive ReqId where
  | number (q : ℚ)
  | other (text : String)
  deriving DecidableEq

inductive TickField where
  | symbol (name : Option String)
  | broken
  deriving DecidableEq

structure DerivMessage where
  reqId : Option ReqId
  isTick : Bool := false
  tick : TickField := .symbol none
  body : String
  deriving DecidableEq

def DerivMessage.carries (m : DerivMessage) (id : ℕ) : Bool := m.reqId = some (.number id)

inductive RequestError where
  | brokerConnectionError (message detail : String)
  | cancelledError
  deriving DecidableEq

def RequestError.isBroker : RequestError → Bool
  | .brokerConnectionError _ _ => true
  | .cancelledError => false

inductive FutureState where
  | pending
  | result (m : DerivMessage)
  | exception (e : RequestError)
  | cancelled
  deriving DecidableEq

inductive RequestOutcome where
  | returned (m : DerivMessage)
  | raised (e : RequestError)
  /-- the `CancelledError` of a task that has been cancelled -/
  | interrupted
  deriving DecidableEq

/-- Where a call of `_request` stands. -/
inductive RequestPhase where
  | sending
  | waiting
  /-- the timeout has cancelled the future, the task has not run yet -/
  | expiring
  /-- the task has been cancelled at `wait_for` and has not run yet -/
  | cancelling
  | ended (o : RequestOutcome)
  deriving DecidableEq

structure RequestCall where
  /-- `next(iter(payload))` -/
  requestType : String
  future : ℕ
  phase : RequestPhase

inductive ReaderState where
  | created
  | running
  | cancelled
  | ended
  deriving DecidableEq

/-- How the loop over the connection ends, with the exception's class name. -/
inductive ReaderEnd where
  | connectionClosed (cls : String)
  | failed (cls : String)
  | finished

namespace ReaderEnd

def message : ReaderEnd → String
  | connectionClosed _ => "Deriv WebSocket connection closed"
  | failed _ => "Deriv WebSocket reader failed"
  | finished => "Deriv WebSocket reader ended before responses arrived"

def reason : ReaderEnd → String
  | connectionClosed cls => cls
  | failed cls => cls
  | finished => "RuntimeError"

end ReaderEnd

inductive DemuxEvent where
  | registered (id : ℕ)
  | received (m : DerivMessage)
  | closed

structure DerivGateway where
  connection : Bool := false
  connected : Bool := false
  nextId : ℕ := 1
  nextFuture : ℕ := 0
  nextReader : ℕ := 0
  pending : List (ℕ × ℕ) := []
  futures : ℕ → FutureState := fun _ => .pending
  calls : ℕ → Option RequestCall := fun _ => none
  tickQueues : List (String × List DerivMessage) := []
  readerTask : Option ℕ := none
  readers : ℕ → ReaderState := fun _ => .ended
  /-- teardowns that await `close` -/
  closing : ℕ := 0
  log : List DemuxEvent := []

def settle (fs : ℕ → FutureState) (f : ℕ) (v : FutureState) : ℕ → FutureState :=
  if fs f = .pending then Function.update fs f v else fs

namespace DerivGateway

variable (s : DerivGateway)

def pop (id : ℕ) : List (ℕ × ℕ) := s.pending.filter (·.1 ≠ id)

def settleAll (v : FutureState) : ℕ → FutureState := s.pending.foldl (fun fs e => settle fs e.2 v) s.futures

def failPending (message cause : String) : DerivGateway :=
  { s with pending := [], futures := s.settleAll (.exception (.brokerConnectionError message cause)) }

def setPhase (id : ℕ) (c : RequestCall) (phase : RequestPhase) : ℕ → Option RequestCall :=
  Function.update s.calls id (some { c with phase })

def request (requestType : String) : Option DerivGateway :=
  if s.connection then
    some { s with
      nextId := s.nextId + 1
      nextFuture := s.nextFuture + 1
      pending := s.pending.filter (·.1 ≠ s.nextId) ++ [(s.nextId, s.nextFuture)]
      futures := Function.update s.futures s.nextFuture .pending
      calls := Function.update s.calls s.nextId (some ⟨requestType, s.nextFuture, .sending⟩)
      log := s.log ++ [.registered s.nextId] }
  else none

def sendFails (id : ℕ) (c : RequestCall) : DerivGateway :=
  { s with
    pending := s.pop id
    futures := settle s.futures c.future .cancelled
    calls := s.setPhase id c
      (.ended (.raised (.brokerConnectionError "Deriv API request could not be sent" c.requestType))) }

def resume (id : ℕ) (c : RequestCall) : Option DerivGateway :=
  match s.futures c.future with
  | .pending => none
  | .result m => some { s with calls := s.setPhase id c (.ended (.returned m)) }
  | .exception e => some { s with calls := s.setPhase id c (.ended (.raised e)) }
  | .cancelled => some { s with calls := s.setPhase id c (.ended (.raised .cancelledError)) }

def timedOut (id : ℕ) (c : RequestCall) : DerivGateway :=
  { s with
    pending := s.pop id
    calls := s.setPhase id c (.ended (.raised (.brokerConnectionError "Deriv API request timed out" c.requestType))) }

/-- The body of the loop of `_read_loop` on a message; `none` where it raises, which ends the reader. -/
def receive (m : DerivMessage) : Option DerivGateway :=
  let s' := { s with log := s.log ++ [.received m] }
  match s.pending.find? fun e => m.carries e.1 with
  | some (id, f) => some { s' with pending := s.pop id, futures := settle s.futures f (.result m) }
  | none =>
    if m.isTick then
      match m.tick with
      | .broken => none
      | .symbol none => some s'
      | .symbol (some name) =>
        match s.tickQueues.lookup name with
        | some queue => some { s' with tickQueues := dictSet s.tickQueues name (queue ++ [m]) }
        | none => some s'
    else some s'

/-- The end of `_read_loop`: the handler of the exception and `finally`. -/
def endReader (r : ℕ) (e : ReaderEnd) : DerivGateway :=
  { s.failPending e.message e.reason with
    connected := false
    readers := Function.update s.readers r .ended
    log := s.log ++ [.closed] }

/-- `cancel` of a reader task: one that has not started never runs. -/
def cancelReader : ℕ → ReaderState :=
  match s.readerTask with
  | none => s.readers
  | some r => Function.update s.readers r (if s.readers r = .running then .cancelled else .ended)

def teardownBegins : DerivGateway :=
  { s with connected := false, readers := s.cancelReader, readerTask := none, closing := s.closing + 1 }

def teardownEnds : DerivGateway :=
  { s with
    connection := false
    futures := s.settleAll .cancelled
    pending := []
    tickQueues := []
    closing := s.closing - 1
    log := s.log ++ [.closed] }

def opened : DerivGateway :=
  { s with
    connection := true
    readerTask := some s.nextReader
    readers := Function.update s.readers s.nextReader .created
    nextReader := s.nextReader + 1 }

end DerivGateway

inductive DemuxMove where
  | opened
  | authorized
  | readerStarts (r : ℕ)
  | request (requestType : String)
  | sent (id : ℕ)
  | sendFails (id : ℕ)
  | resumes (id : ℕ)
  | expires (id : ℕ)
  | timedOut (id : ℕ)
  | cancelSend (id : ℕ)
  | cancelWait (id : ℕ)
  | cancelExpired (id : ℕ)
  | cancelled (id : ℕ)
  | receives (r : ℕ) (m : DerivMessage)
  | readerEnds (r : ℕ) (e : ReaderEnd)
  | teardownBegins
  | teardownEnds
  | teardownFails
  | subscribes (name : String)
  | unsubscribes (name : String)

namespace DerivGateway

def atPhase (s : DerivGateway) (id : ℕ) (phase : RequestPhase) (f : RequestCall → Option DerivGateway) :
    Option DerivGateway :=
  match s.calls id with
  | some c => if c.phase = phase then f c else none
  | none => none

def step (s : DerivGateway) : DemuxMove → Option DerivGateway
  | .opened => some s.opened
  | .authorized => some { s with connected := true }
  | .readerStarts r =>
    -- `assert self._connection is not None`
    if s.readers r = .created then
      some { s with readers := Function.update s.readers r (if s.connection then .running else .ended) }
    else none
  | .request requestType => s.request requestType
  | .sent id => s.atPhase id .sending fun c => some { s with calls := s.setPhase id c .waiting }
  | .sendFails id => s.atPhase id .sending fun c => some (s.sendFails id c)
  | .resumes id => s.atPhase id .waiting (s.resume id)
  | .expires id => s.atPhase id .waiting fun c =>
    some { s with futures := settle s.futures c.future .cancelled, calls := s.setPhase id c .expiring }
  | .timedOut id => s.atPhase id .expiring fun c => some (s.timedOut id c)
  | .cancelSend id => s.atPhase id .sending fun c =>
    some { s with calls := s.setPhase id c (.ended .interrupted) }
  | .cancelWait id => s.atPhase id .waiting fun c =>
    some { s with futures := settle s.futures c.future .cancelled, calls := s.setPhase id c .cancelling }
  | .cancelExpired id => s.atPhase id .expiring fun c => some { s with calls := s.setPhase id c .cancelling }
  | .cancelled id => s.atPhase id .cancelling fun c => some { s with calls := s.setPhase id c (.ended .interrupted) }
  | .receives r m => if s.readers r = .running then s.receive m else none
  | .readerEnds r e => if s.readers r = .running ∨ s.readers r = .cancelled then some (s.endReader r e) else none
  | .teardownBegins => some s.teardownBegins
  | .teardownEnds => if 0 < s.closing then some s.teardownEnds else none
  | .teardownFails => if 0 < s.closing then some { s with closing := s.closing - 1 } else none
  | .subscribes name => some { s with tickQueues := dictSet s.tickQueues name [] }
  | .unsubscribes name => some { s with tickQueues := s.tickQueues.filter (·.1 ≠ name) }

def run (s : DerivGateway) : List DemuxMove → Option DerivGateway
  | [] => some s
  | move :: moves => (s.step move).bind fun s' => s'.run moves

end DerivGateway

end Jqe
