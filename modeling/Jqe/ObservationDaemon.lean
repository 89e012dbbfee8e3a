import Jqe.CoroSeq
import Jqe.ShadowOutcomes
import Jqe.PyText
/-!
# ObservationDaemon — `monitoring/observation_daemon.py`: `observe_pair` on an evidence file

Closed candles become SIGNAL rows behind a cursor for each scope.  A moment is a whole second, the moment of a run an
aware one.  The strategy is a parameter.  Not modelled: the counters of the heartbeat, and what the sampler and the
notifications do with what they are given.
-/
namespace Jqe
namespace Daemon

open Coro Prog

structure WatchPair where
  symbol : String
  timeframe : Timeframe
  deriving DecidableEq

def WatchPair.scope (pair : WatchPair) : String := pair.symbol ++ ":" ++ pair.timeframe.value

/-- `Candle`, as far as an observation looks at it. -/
structure Candle where
  time : PyDatetime
  open_ : ℚ
  high : ℚ
  low : ℚ
  close : ℚ
  deriving DecidableEq

/-- **Candles as a provider gives them**: their times ascend and are aligned to the timeframe; any may be missing. -/
structure ProviderCandles (timeframe : Timeframe) where
  candles : List Candle
  ascending : candles.Pairwise fun a b => ∀ s t, a.time = .aware s → b.time = .aware t → s < t
  aligned : ∀ c ∈ candles, ∀ t, c.time = .aware t → timeframe.seconds ∣ t

theorem seconds_pos (timeframe : Timeframe) : 0 < timeframe.seconds := by cases timeframe <;> decide

/-! ## The window -/

/-- The observation of a candle that opened at a moment; an error is the `ValueError` of its model. -/
def observationOfCandle (canonicalSymbol : String) (timeframe : Timeframe) (candle : Candle) (time : ℤ) :
    Except PyExc ClosedMarketObservation :=
  if hsymbol : blank canonicalSymbol = false then
    if hprices : 0 < candle.open_ ∧ 0 < candle.high ∧ 0 < candle.low ∧ 0 < candle.close then
      if hohlc : max candle.open_ candle.close ≤ candle.high ∧ candle.low ≤ min candle.open_ candle.close then
        .ok { canonicalSymbol := canonicalSymbol
              timeframe := timeframe
              candleOpenedAt := time
              closedAt := time + timeframe.seconds
              open_ := candle.open_
              high := candle.high
              low := candle.low
              close := candle.close
              symbol_ok := hsymbol
              times_ok := by have := seconds_pos timeframe; omega
              prices_ok := hprices
              ohlc_ok := hohlc }
      else .error (.exception "market observation OHLC invariants failed")
    else .error (.exception "market observation OHLC values must be positive and finite")
  else .error (.exception "canonical_symbol must be nonblank")

def closedWindow (canonicalSymbol : String) (timeframe : Timeframe) (now : ℤ) :
    List Candle → Except PyExc (List ClosedMarketObservation)
  | [] => .ok []
  | candle :: candles =>
    match candle.time with
    | .naive _ => .error (.exception "Provider candle timestamp is not timezone-aware")
    | .aware time => do
      let observation ← observationOfCandle canonicalSymbol timeframe candle time
      let observations ← closedWindow canonicalSymbol timeframe now candles
      pure (if observation.isClosedAt now then observation :: observations else observations)

def closedObservationsFromCandles (canonicalSymbol : String) (timeframe : Timeframe) (now : ℤ) (candles : List Candle) :
    Except PyExc (List ClosedMarketObservation) := do
  let observations ← closedWindow canonicalSymbol timeframe now candles
  if observations.isEmpty then .error (.exception "No provider candles are provably closed")
  else pure observations

/-! ## The store -/

/-- What `_evaluate` gives of a window. -/
structure Evaluation where
  conclusion : String
  confidence : Option ℚ
  quality : String
  regime : String
  deriving DecidableEq

/-- `_evaluate` and `build_trade_plan_snapshot`. -/
structure ObservationStrategy where
  evaluate : List ClosedMarketObservation → Except PyExc Evaluation
  tradePlan : Evaluation → WatchPair → ClosedMarketObservation → Except PyExc String

structure SignalFacts where
  evaluation : Evaluation
  dataFreshness : String
  observedAt : ℤ
  expiresAt : ℤ
  catchUp : Bool
  catchUpCount : ℕ
  tradePlan : String
  deriving DecidableEq

structure SignalRow where
  sessionId : String
  pair : WatchPair
  closedAt : ℤ
  facts : SignalFacts
  deriving DecidableEq

structure ObservationFile where
  rows : List SignalRow
  cursor : String → Option ℤ

def ObservationFile.append (w : ObservationFile) (row : SignalRow) : ObservationFile :=
  ⟨w.rows ++ [row], Function.update w.cursor row.pair.scope (some row.closedAt)⟩

/-- The check of `append_signal`: the cursor is not there, or before the row. -/
def ObservationFile.admits (w : ObservationFile) (row : SignalRow) : Bool :=
  match w.cursor row.pair.scope with
  | none => true
  | some prior => decide (prior < row.closedAt)

/-! ## `observe_pair` -/

/-- A run of `observe_pair`: the daemon's session, the pair, the moment, and whether the daemon notifies. -/
structure ObserveRun where
  sessionId : String
  pair : WatchPair
  now : ℤ
  notifies : Bool
  deriving DecidableEq

inductive ObserveReq where
  /-- `telemetry.get_candles` -/
  | getCandles (pair : WatchPair)
  /-- `last_close` -/
  | lastClose (scope : String)
  /-- `append_signal`, one transaction -/
  | appendSignal (row : SignalRow)
  /-- `append_for_closed_bar`, on a file of its own -/
  | sample (observation : ClosedMarketObservation) (evaluation : Evaluation)
  /-- `runtime_health` -/
  | runtimeHealth (pair : WatchPair) (age : ℤ)

@[reducible] def ObserveReq.Ans : ObserveReq → Type
  | getCandles pair => ProviderCandles pair.timeframe
  | lastClose _ => Option ℤ
  | appendSignal _ => Bool
  | sample _ _ | runtimeHealth _ _ => Unit

abbrev ObserveProg := Prog ObserveReq ObserveReq.Ans PyExc

structure CatchUp where
  appended : ℕ
  staleLatest : Option ℤ

section

variable (strategy : ObservationStrategy) (run : ObserveRun)

def ObserveRun.age (observation : ClosedMarketObservation) : ℤ := max 0 (run.now - observation.closedAt)

def ObserveRun.freshness (observation : ClosedMarketObservation) : String :=
  if run.age observation ≤ run.pair.timeframe.seconds then "fresh" else "stale"

def ObserveRun.row (prior : Option ℤ) (pendingCount : ℕ) (observation : ClosedMarketObservation)
    (evaluation : Evaluation) (tradePlan : String) : SignalRow where
  sessionId := run.sessionId
  pair := run.pair
  closedAt := observation.closedAt
  facts :=
    { evaluation := evaluation
      dataFreshness := run.freshness observation
      observedAt := run.now
      expiresAt := observation.closedAt + run.pair.timeframe.seconds
      catchUp := prior.isSome
      catchUpCount := pendingCount
      tradePlan := tradePlan }

/-- One pending observation: evaluated on the window before it, appended, and sampled when it was appended. -/
def observeOne (prior : Option ℤ) (pendingCount : ℕ) (window : List ClosedMarketObservation)
    (observation : ClosedMarketObservation) (state : CatchUp) : ObserveProg CatchUp := do
  let evaluation ← Prog.ofExcept (strategy.evaluate window)
  let tradePlan ← Prog.ofExcept (strategy.tradePlan evaluation run.pair observation)
  let appended ← perform (ObserveReq.appendSignal (run.row prior pendingCount observation evaluation tradePlan))
  if appended then
    let _ ← perform (ObserveReq.sample observation evaluation)
    pure ⟨state.appended + 1,
      if run.freshness observation = "stale" then some (run.age observation) else state.staleLatest⟩
  else pure state

/-- The loop over the observations, from an index on. -/
def catchUp (prior : Option ℤ) (observations pending : List ClosedMarketObservation) :
    ℕ → List ClosedMarketObservation → CatchUp → ObserveProg CatchUp
  | _, [], state => pure state
  | index, observation :: rest, state =>
    if observation ∈ pending then do
      let window := (observations.take (index + 1)).drop (index - 499)
      let state ← observeOne strategy run prior pending.length window observation state
      catchUp prior observations pending (index + 1) rest state
    else catchUp prior observations pending (index + 1) rest state

def pendingAfter (observations : List ClosedMarketObservation) (latest : ClosedMarketObservation) :
    Option ℤ → List ClosedMarketObservation
  | none => [latest]
  | some prior => observations.filter fun item => prior < item.closedAt

def expectedCount (run : ObserveRun) (latest : ClosedMarketObservation) (prior : ℤ) : ℤ :=
  (latest.closedAt - prior) / run.pair.timeframe.seconds

/-- The checks of `observe_pair` against the cursor: the pending observations, or none, or an incomplete history. -/
def pendingChecked (observations : List ClosedMarketObservation) (latest : ClosedMarketObservation)
    (prior : Option ℤ) : Except PyExc (List ClosedMarketObservation) :=
  match prior with
  | none => .ok [latest]
  | some prior =>
    if latest.closedAt ≤ prior then .ok []
    else if ((pendingAfter observations latest (some prior)).length : ℤ) < expectedCount run latest prior then
      .error (.exception "Observation catch-up history is incomplete; refusing to advance cursor")
    else .ok (pendingAfter observations latest (some prior))

def observeFrom (observations : List ClosedMarketObservation) (latest : ClosedMarketObservation) (prior : Option ℤ) :
    ObserveProg Bool := do
  let pending ← Prog.ofExcept (pendingChecked run observations latest prior)
  let state ← catchUp strategy run prior observations pending 0 observations ⟨0, none⟩
  match state.staleLatest with
  | some age => if run.notifies then perform (ObserveReq.runtimeHealth run.pair age) else pure ()
  | none => pure ()
  pure (decide (0 < state.appended))

end

def observePair [CaseMap] (strategy : ObservationStrategy) (run : ObserveRun) : ObserveProg Bool := do
  let provided ← perform (ObserveReq.getCandles run.pair)
  let observations ← Prog.ofExcept
    (closedObservationsFromCandles (normalizeSymbol run.pair.symbol) run.pair.timeframe run.now provided.candles)
  match observations.getLast? with
  | none => .raise (.exception "list index out of range")
  | some latest => do
    let prior ← perform (ObserveReq.lastClose run.pair.scope)
    observeFrom strategy run observations latest prior

/-! ## Any number of processes on one file -/

/-- **What a request may do**: a transaction commits, raises rolled back, or raises although it committed. -/
inductive ObserveExec (w : ObservationFile) : (r : ObserveReq) → Except PyExc r.Ans → ObservationFile → Prop
  | candles (pair : WatchPair) (provided : ProviderCandles pair.timeframe) :
      ObserveExec w (.getCandles pair) (.ok provided) w
  | cursor (scope : String) : ObserveExec w (.lastClose scope) (.ok (w.cursor scope)) w
  | refused (row : SignalRow) (h : w.admits row = false) : ObserveExec w (.appendSignal row) (.ok false) w
  | appended (row : SignalRow) (h : w.admits row = true) :
      ObserveExec w (.appendSignal row) (.ok true) (w.append row)
  | lost (row : SignalRow) (e : PyExc) (h : w.admits row = true) :
      ObserveExec w (.appendSignal row) (.error e) (w.append row)
  | sampled (observation : ClosedMarketObservation) (evaluation : Evaluation) :
      ObserveExec w (.sample observation evaluation) (.ok ()) w
  | notified (pair : WatchPair) (age : ℤ) : ObserveExec w (.runtimeHealth pair age) (.ok ()) w
  | failed (r : ObserveReq) (e : PyExc) : ObserveExec w r (.error e) w

/-- **Runs of `observe_pair` by any daemons on one new evidence file.** -/
def observeSystem : System ObserveReq ObserveReq.Ans PyExc ObservationFile ObserveRun where
  init w := w = ⟨[], fun _ => none⟩
  admits _ := True
  exec w _ r ans w' := ObserveExec w r ans w'
  tick _ _ := False

end Daemon
end Jqe
