import Jqe.PyText
import Jqe.AwareTime
/-!
# ConfirmationState — the i/i+1/i+2 state of historical campaigns (`research/historical_confirmation.py`)

`queue`, `observe`, `finish`, and `save` followed by `load`, over any kind of aware moments: those of a fixed offset are
their instants in microseconds, those of a zone compare and add by their wall times.  A JSON text stands for the value it
spells, with the text of a moment as one value; an object lists its entries by key, as `sort_keys` writes them.
-/
namespace Jqe
namespace Confirmation

inductive Json where
  | null
  | bool (b : Bool)
  | int (n : ℤ)
  | float (x : ℚ)
  | str (s : String)
  | moment (t : PyDatetime)
  | arr (items : List Json)
  | obj (entries : List (String × Json))

/-- **A kind of aware moments**; the text of one keeps its instant and its offset. -/
class CandleTime (T : Type) where
  plus : T → ℤ → Except PyExc T
  isoformat : T → ℤ
  fromisoformat : ℤ → T

instance : CandleTime ℤ := ⟨fun t interval => .ok (t + interval), id, id⟩

/-- A `datetime`, naive or of a kind of aware moments. -/
inductive Stamp (T : Type) where
  | naive (t : ℤ)
  | aware (t : T)

def Stamp.plus {T : Type} [CandleTime T] (interval : ℤ) : Stamp T → Except PyExc (Stamp T)
  | naive t => .ok (.naive (t + interval))
  | aware t => (CandleTime.plus t interval).map .aware

/-- **`PendingHistoricalCandidate`**, with what `__post_init__` makes sure of. -/
structure PendingHistoricalCandidate (T : Type) [LT T] where
  symbol : String
  timeframe : String
  signalCandle : T
  direction : String
  confidence : ℤ
  strategyContext : List (String × Json)
  expectedConfirmationCandle : T
  expectedEntryCandle : T
  confirmationEvaluated : Bool
  confirmed : Bool
  confirmationReason : Option String
  side : direction = "BUY" ∨ direction = "SELL"
  chronology : signalCandle < expectedConfirmationCandle ∧ expectedConfirmationCandle < expectedEntryCandle

section

variable {T : Type} [LT T]

def PendingHistoricalCandidate.build [DecidableLT T] (symbol timeframe : String) (signalCandle : Stamp T)
    (direction : String) (confidence : ℤ) (strategyContext : List (String × Json))
    (expectedConfirmationCandle expectedEntryCandle : Stamp T) (confirmationEvaluated confirmed : Bool)
    (confirmationReason : Option String) : Except PyExc (PendingHistoricalCandidate T) :=
  if hside : direction = "BUY" ∨ direction = "SELL" then
    match signalCandle, expectedConfirmationCandle, expectedEntryCandle with
    | .aware signal, .aware confirmation, .aware entry =>
      if hchronology : signal < confirmation ∧ confirmation < entry then
        .ok ⟨symbol, timeframe, signal, direction, confidence, strategyContext, confirmation, entry,
          confirmationEvaluated, confirmed, confirmationReason, hside, hchronology⟩
      else .error (.exception "pending candidate chronology must be i < i+1 < i+2")
    | _, _, _ => .error (.exception "pending candidate timestamps must be timezone-aware")
  else .error (.exception "pending candidate direction must be BUY or SELL")

inductive TransitionState where
  | rejectedCandidate
  | strategyCandidate
  | noPendingCandidate
  | pendingConfirmation
  | incompleteConfirmation
  | duplicateConfirmationPrevented
  | confirmationFailed
  | confirmed
  | incompleteEntry
  | entryDue
  deriving DecidableEq

structure ConfirmationTransition (T : Type) [LT T] where
  state : TransitionState
  candidate : Option (PendingHistoricalCandidate T)
  reason : String

structure HistoricalConfirmationState (T : Type) [LT T] where
  pending : Option (PendingHistoricalCandidate T)

def confirmationExpectedRegime (direction : String) : Except PyExc String :=
  if direction = "BUY" then .ok "TREND_UP"
  else if direction = "SELL" then .ok "TREND_DOWN"
  else .error (.exception "confirmation direction must be BUY or SELL")

def PendingHistoricalCandidate.expectedRegime (c : PendingHistoricalCandidate T) : String :=
  if c.direction = "BUY" then "TREND_UP" else "TREND_DOWN"

theorem PendingHistoricalCandidate.expectedRegime_eq (c : PendingHistoricalCandidate T) :
    confirmationExpectedRegime c.direction = .ok c.expectedRegime := by
  unfold confirmationExpectedRegime PendingHistoricalCandidate.expectedRegime
  rcases c.side with h | h
  · rw [if_pos h, if_pos h]
  · rw [h]
    rfl

structure QueueArgs (T : Type) where
  symbol : String
  timeframe : String
  signalCandle : Stamp T
  direction : String
  confidence : ℤ
  strategyContext : List (String × Json)
  candleInterval : ℤ

variable [DecidableLT T] [BEq T] [CandleTime T]

def QueueArgs.candidate (q : QueueArgs T) : Except PyExc (PendingHistoricalCandidate T) := do
  let confirmation ← q.signalCandle.plus q.candleInterval
  let entry ← q.signalCandle.plus (q.candleInterval * 2)
  PendingHistoricalCandidate.build q.symbol q.timeframe q.signalCandle q.direction q.confidence q.strategyContext
    confirmation entry false false none

namespace HistoricalConfirmationState

def queue (s : HistoricalConfirmationState T) (q : QueueArgs T) :
    HistoricalConfirmationState T × Except PyExc (ConfirmationTransition T) :=
  match s.pending with
  | some c => (s, .ok ⟨.rejectedCandidate, some c, "Entry already pending"⟩)
  | none =>
    match q.candidate with
    | .error e => (s, .error e)
    | .ok c => (⟨some c⟩, .ok ⟨.strategyCandidate, some c, "Pending confirmation"⟩)

def evaluationReason (c : PendingHistoricalCandidate T) (regime : String) (passed : Bool) : String :=
  if passed then "Confirmation candle regime " ++ regime ++ "; entry eligible at next candle open"
  else "Confirmation candle regime " ++ regime ++ " failed " ++ c.expectedRegime ++ " requirement"

/-- `PendingHistoricalCandidate(**{**asdict(candidate), …})`. -/
def evaluated (c : PendingHistoricalCandidate T) (regime : String) (passed : Bool) : PendingHistoricalCandidate T :=
  { c with confirmationEvaluated := true, confirmed := passed,
           confirmationReason := some (evaluationReason c regime passed) }

def confirmedReason (c : PendingHistoricalCandidate T) : String :=
  if c.confirmationReason.getD "" = "" then "Confirmed" else c.confirmationReason.getD ""

def observePending (s : HistoricalConfirmationState T) (c : PendingHistoricalCandidate T) (t : T) (regime : String) :
    HistoricalConfirmationState T × Except PyExc (ConfirmationTransition T) :=
  if t < c.expectedConfirmationCandle then
    (s, .ok ⟨.pendingConfirmation, some c, "Confirmation candle not reached"⟩)
  else if c.expectedConfirmationCandle < t ∧ c.confirmationEvaluated = false then
    (⟨none⟩, .ok ⟨.incompleteConfirmation, some c, "MISSING_CONFIRMATION_CANDLE"⟩)
  else if t == c.expectedConfirmationCandle then
    if c.confirmationEvaluated then
      (s, .ok ⟨.duplicateConfirmationPrevented, some c, "Confirmation already evaluated"⟩)
    else if regime = c.expectedRegime then
      (⟨some (evaluated c regime true)⟩,
        .ok ⟨.confirmed, some (evaluated c regime true), evaluationReason c regime true⟩)
    else
      (⟨none⟩, .ok ⟨.confirmationFailed, some (evaluated c regime false), evaluationReason c regime false⟩)
  else if t < c.expectedEntryCandle then (s, .ok ⟨.confirmed, some c, confirmedReason c⟩)
  else if c.expectedEntryCandle < t then (⟨none⟩, .ok ⟨.incompleteEntry, some c, "MISSING_ENTRY_CANDLE"⟩)
  else (⟨none⟩, .ok ⟨.entryDue, some c, "Authoritative i+2 open available"⟩)

def observe (s : HistoricalConfirmationState T) (candleOpenedAt : Stamp T) (regime : String) :
    HistoricalConfirmationState T × Except PyExc (ConfirmationTransition T) :=
  match s.pending, candleOpenedAt with
  | none, _ => (s, .ok ⟨.noPendingCandidate, none, "No pending candidate"⟩)
  | some _, .naive _ => (s, .error (.exception "can't compare offset-naive and offset-aware datetimes"))
  | some c, .aware t => s.observePending c t regime

def finish (s : HistoricalConfirmationState T) : HistoricalConfirmationState T × Option (ConfirmationTransition T) :=
  match s.pending with
  | none => (s, none)
  | some c => (⟨none⟩,
      some ⟨if c.confirmed then .incompleteEntry else .incompleteConfirmation, some c, "CAMPAIGN_BOUNDARY"⟩)

def momentText (t : T) : Json := .moment (.aware (CandleTime.isoformat t))

/-- The payload of `save`: the fields by name, the moments as texts. -/
def payload (c : PendingHistoricalCandidate T) : List (String × Json) :=
  [("confidence", .int c.confidence), ("confirmation_evaluated", .bool c.confirmationEvaluated),
    ("confirmation_reason", c.confirmationReason.elim .null .str), ("confirmed", .bool c.confirmed),
    ("direction", .str c.direction), ("expected_confirmation_candle", momentText c.expectedConfirmationCandle),
    ("expected_entry_candle", momentText c.expectedEntryCandle),
    ("signal_candle", momentText c.signalCandle), ("strategy_context", .obj c.strategyContext),
    ("symbol", .str c.symbol), ("timeframe", .str c.timeframe)]

def save (s : HistoricalConfirmationState T) : Json := s.pending.elim .null fun c => .obj (payload c)

def readMoment : PyDatetime → Stamp T
  | .naive t => .naive t
  | .aware t => .aware (CandleTime.fromisoformat t)

/-- `PendingHistoricalCandidate(**payload)`; another set of names, or another kind of value, is no candidate here. -/
def fromPayload : List (String × Json) → Except PyExc (PendingHistoricalCandidate T)
  | [("confidence", .int confidence), ("confirmation_evaluated", .bool evaluated), ("confirmation_reason", reason),
      ("confirmed", .bool confirmed), ("direction", .str direction), ("expected_confirmation_candle", .moment confirmation),
      ("expected_entry_candle", .moment entry), ("signal_candle", .moment signal), ("strategy_context", .obj context),
      ("symbol", .str symbol), ("timeframe", .str timeframe)] =>
    PendingHistoricalCandidate.build symbol timeframe (readMoment signal) direction confidence context
      (readMoment confirmation) (readMoment entry) evaluated confirmed
      (match reason with
        | .str text => some text
        | _ => none)
  | _ => .error (.exception "unexpected payload")

def load : Option Json → Except PyExc (HistoricalConfirmationState T)
  | some .null => .ok ⟨none⟩
  | some (.obj entries) => (fromPayload entries).map fun c => ⟨some c⟩
  | some _ => .error (.exception "unexpected payload")
  | none => .error (.exception "pending confirmation reconstruction is unavailable")

end HistoricalConfirmationState

inductive Call (T : Type) where
  | queue (args : QueueArgs T)
  | observe (candleOpenedAt : Stamp T) (regime : String)
  | finish
  | restart

open HistoricalConfirmationState in
/-- What a call leaves and answers; `finish` and a restart may answer no transition. -/
def step (s : HistoricalConfirmationState T) :
    Call T → HistoricalConfirmationState T × Except PyExc (Option (ConfirmationTransition T))
  | .queue args => ((s.queue args).1, (s.queue args).2.map some)
  | .observe t regime => ((s.observe t regime).1, (s.observe t regime).2.map some)
  | .finish => (s.finish.1, .ok s.finish.2)
  | .restart =>
    match load (some s.save) with
    | .ok s' => (s', .ok none)
    | .error e => (s, .error e)

def after (calls : List (Call T)) : HistoricalConfirmationState T := calls.foldl (fun s call => (step s call).1) ⟨none⟩

def answer (calls : List (Call T)) (k : ℕ) : Option (Except PyExc (Option (ConfirmationTransition T))) :=
  calls[k]?.map fun call => (step (after (calls.take k)) call).2

end

/-! ### Moments of zones -/

open AwareTime

/-- An aware moment of a fixed offset, or of a zone. -/
inductive ZonedTime where
  | fixed (instant : ℤ)
  | zoned (d : AwareDatetime)

namespace ZonedTime

variable [TimeZones]

def instant : ZonedTime → ℤ
  | fixed t => t
  | zoned d => d.instant

def before : ZonedTime → ZonedTime → Bool
  | zoned d, zoned e => d.Before e
  | t, u => t.instant < u.instant

/-- A repeated or skipped moment of a zone equals none of a fixed offset. -/
def same : ZonedTime → ZonedTime → Bool
  | zoned d, zoned e => d.Same e
  | zoned d, fixed t | fixed t, zoned d => d.Plain ∧ d.instant = t
  | fixed t, fixed u => t = u

instance : LT ZonedTime := ⟨fun t u => before t u⟩

instance : DecidableLT ZonedTime := fun t u => inferInstanceAs (Decidable (before t u = true))

instance : BEq ZonedTime := ⟨same⟩

/-- The wall time is added to; what is read from a text has the offset that the text has. -/
instance : CandleTime ZonedTime where
  plus
    | fixed t, interval => .ok (.fixed (t + interval))
    | zoned d, interval =>
      if h : 0 ≤ d.wall + interval ∧ d.wall + interval < maxWall then .ok (.zoned ⟨d.zone, d.wall + interval, false, h⟩)
      else .error (.exception "date value out of range")
  isoformat := instant
  fromisoformat := .fixed

end ZonedTime

end Confirmation
end Jqe
