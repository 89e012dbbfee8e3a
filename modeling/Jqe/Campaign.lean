import Jqe.ConfirmationState
import Jqe.PaperCycles
import Jqe.ShadowOutcomes
/-!
# Campaign — the paper campaign (`tools/paper_campaign.py`)

The decision builder `decide` and one turn of the loop of `run_campaign` as programs over the paper runtime, the
strategy, the confirmation state and the stores.  A run is the steps of processes one after the other.  The evidence
events are requests that may raise; their facts are left out.
-/
namespace Jqe
namespace Campaign

open Coro Prog Confirmation

abbrev Signal := List (String × Json)

def Signal.text? (signal : Signal) (key : String) : Option String :=
  match signal.lookup key with
  | some (.str text) => some text
  | _ => none

def Signal.direction (signal : Signal) : String := signal.text? "signal" |>.getD "NO_TRADE"

def Signal.confidence? (signal : Signal) : Option ℤ :=
  match signal.lookup "confidence" with
  | some (.int n) => some n
  | _ => none

def Signal.intelligence (signal : Signal) : Signal :=
  match signal.lookup "intelligence" with
  | some (.obj entries) => entries
  | _ => []

/-- **`facts`**, as far as the records and the loop read it; a key that is not there is `none`. -/
structure Facts where
  regime : Option String := none
  signalDirection : Option String := none
  strategySignalDirection : Option String := none
  signalConfidence : Option ℤ := none
  confirmationState : Option String := none
  confirmationReason : Option String := none
  momentum : Option String := none
  volatility : Option String := none
  riskAuthorizationState : Option String := none
  authorizedQuantity : Option ℚ := none
  blockReason : Option String := none
  candidateId : Option String := none
  deriving DecidableEq

/-- **`PaperObservationRecord`**, without what it says of closes, the process and its durations. -/
structure Record where
  candleCloseTime : ℤ
  regime : Option String
  signalDirection : String
  signalConfidence : Option ℤ
  confirmationState : String
  confirmationReason : Option String
  momentum : Option String
  volatility : Option String
  executionDecision : String
  blockReason : Option String
  riskAuthorizationState : String
  authorizedQuantity : Option ℚ
  entryEvent : Option String
  deriving DecidableEq

/-- What `evaluate_production_decision` adds to the facts, and its decision. -/
structure ProductionAnswer where
  regime : String
  decision : Option PaperEntry
  riskAuthorizationState : Option String
  authorizedQuantity : Option ℚ
  blockReason : Option String

def candidateFacts (regime : String) (signal : Signal) : Facts where
  regime := some regime
  signalDirection := some signal.direction
  signalConfidence := signal.confidence?
  confirmationState := some "NOT_EVALUATED"
  riskAuthorizationState := some "NOT_EVALUATED"
  momentum := signal.intelligence.text? "momentum" <|> signal.intelligence.text? "momentum_state"
  volatility := signal.intelligence.text? "volatility" <|> signal.intelligence.text? "volatility_state"

/-- The facts of `evaluate_production_decision` of a signal. -/
def productionFacts (signal : Signal) (answer : ProductionAnswer) : Facts where
  regime := some answer.regime
  signalDirection := some signal.direction
  signalConfidence := signal.confidence?
  confirmationState := some ((signal.text? "confirmation_state").getD "NOT_EVALUATED")
  riskAuthorizationState := answer.riskAuthorizationState
  authorizedQuantity := answer.authorizedQuantity
  blockReason := answer.blockReason

/-! ### The programs -/

/-- **What a campaign asks of its environment.** -/
inductive Req where
  | paper (r : PaperReq)
  | evaluateStrategyCandidate (window : List ClosedMarketObservation)
  | evaluateProductionDecision (window : List ClosedMarketObservation) (signalOverride : Signal) (entryPrice : ℚ)
  | facts
  | setFacts (facts : Facts)
  /-- `confirmation.pending` -/
  | pending
  | observe (candleOpenedAt : Stamp ℤ) (regime : String)
  | queue (args : QueueArgs ℤ)
  /-- `confirmation.save` -/
  | save
  | emit (eventType : String)
  /-- `diagnostics.append` -/
  | append (record : Record)
  /-- the evidence events after a record -/
  | report (lastAction : String)

@[reducible] def Req.Ans : Req → Type
  | paper r => r.Ans
  | evaluateStrategyCandidate _ => String × Signal
  | evaluateProductionDecision .. => ProductionAnswer
  | facts => Facts
  | setFacts _ | save | emit _ | append _ | report _ => Unit
  | pending => Option (PendingHistoricalCandidate ℤ)
  | observe .. | queue _ => ConfirmationTransition ℤ

abbrev CampaignProg := Prog Req Req.Ans PyExc

def ask (r : Req) : CampaignProg r.Ans := perform r

def fail {α : Type} (message : String) : CampaignProg α := .raise (.exception message)

def stateText : TransitionState → String
  | .rejectedCandidate => "REJECTED_CANDIDATE"
  | .strategyCandidate => "STRATEGY_CANDIDATE"
  | .noPendingCandidate => "NO_PENDING_CANDIDATE"
  | .pendingConfirmation => "PENDING_CONFIRMATION"
  | .incompleteConfirmation => "INCOMPLETE_CONFIRMATION"
  | .duplicateConfirmationPrevented => "DUPLICATE_CONFIRMATION_PREVENTED"
  | .confirmationFailed => "CONFIRMATION_FAILED"
  | .confirmed => "CONFIRMED"
  | .incompleteEntry => "INCOMPLETE_ENTRY"
  | .entryDue => "ENTRY_DUE"

/-- The moment of a candle, in microseconds. -/
def openedAt (o : ClosedMarketObservation) : Stamp ℤ := .aware (o.candleOpenedAt * 1000000)

/-- `_candidate_id`; the digest is spelled as what is hashed. -/
def candidateId (symbol timeframe : String) (c : PendingHistoricalCandidate ℤ) : String :=
  "CANDIDATE-" ++ symbol ++ "|" ++ timeframe ++ "|" ++ toString c.signalCandle ++ "|" ++ c.direction

def directional (direction : String) : Bool := direction = "BUY" || direction = "SELL"

def entryDue (symbol : String) (timeframe : Timeframe) (window : List ClosedMarketObservation)
    (latest : ClosedMarketObservation) (candidate : PendingHistoricalCandidate ℤ) : CampaignProg (Option PaperEntry) := do
  match candidate.strategyContext.lookup "signal" with
  | some (.obj original) =>
    let answer ← ask (.evaluateProductionDecision window original latest.open_)
    let facts ← ask .facts
    ask (.setFacts { productionFacts original answer with
      strategySignalDirection := facts.strategySignalDirection
      confirmationState := some "CONFIRMED_ENTRY_DUE"
      confirmationReason := candidate.confirmationReason
      candidateId := some (candidateId symbol timeframe.value candidate) })
    ask (.emit "ENTRY")
    ask (.emit "RISK")
    ask .save
    return answer.decision
  | _ => fail "'signal'"

/-- The branch of a candidate that is confirmed or dropped. -/
def settled (transition : ConfirmationTransition ℤ) : CampaignProg (Option PaperEntry) := do
  let facts ← ask .facts
  let failed := transition.state ∈ [.confirmationFailed, .incompleteConfirmation, .incompleteEntry]
  ask (.setFacts { facts with
    confirmationState := some (stateText transition.state)
    confirmationReason := some transition.reason
    blockReason := if failed then some transition.reason else none })
  ask .save
  return none

/-- The branch that may queue the signal of the candle. -/
def queued (symbol : String) (timeframe : Timeframe) (signal : Signal) (latest : ClosedMarketObservation) :
    CampaignProg (Option PaperEntry) := do
  let pending ← ask .pending
  let facts ← ask .facts
  if pending.isNone && directional signal.direction then
    let transition ← ask (.queue
      { symbol, timeframe := timeframe.value, signalCandle := openedAt latest, direction := signal.direction
        confidence := signal.confidence?.getD 0
        strategyContext := [("signal", .obj signal), ("regime", facts.regime.elim .null .str)]
        candleInterval := timeframe.seconds * 1000000 })
    ask (.setFacts { facts with
      confirmationState := some "PENDING_CONFIRMATION", confirmationReason := some transition.reason })
  else if pending.isSome then ask (.setFacts { facts with blockReason := some "ENTRY_ALREADY_PENDING" })
  ask .save
  return none

/-- The events before the branches. -/
def announce (signal : Signal) (transition : ConfirmationTransition ℤ) : CampaignProg Unit := do
  if directional signal.direction then ask (.emit "CANDIDATE")
  if transition.candidate.isSome && transition.state ∉ [.noPendingCandidate, .pendingConfirmation] then
    ask (.emit (if transition.state ∈ [.confirmed, .confirmationFailed] then "CONFIRMATION" else "CANDIDATE_DISPOSITION"))

def branch (symbol : String) (timeframe : Timeframe) (window : List ClosedMarketObservation) (signal : Signal)
    (latest : ClosedMarketObservation) (transition : ConfirmationTransition ℤ) : CampaignProg (Option PaperEntry) :=
  match transition.state, transition.candidate with
  | .entryDue, some candidate => entryDue symbol timeframe window latest candidate
  | .confirmed, _ | .confirmationFailed, _ | .incompleteConfirmation, _ | .incompleteEntry, _
  | .duplicateConfirmationPrevented, _ => settled transition
  | _, _ => queued symbol timeframe signal latest

def decide (symbol : String) (timeframe : Timeframe) (window : List ClosedMarketObservation) :
    CampaignProg (Option PaperEntry) := do
  let (regime, signal) ← ask (.evaluateStrategyCandidate window)
  let facts := candidateFacts regime signal
  ask (.setFacts { facts with strategySignalDirection := facts.signalDirection })
  match window.getLast? with
  | none => fail "list index out of range"
  | some latest =>
    let transition ← ask (.observe (openedAt latest) regime)
    announce signal transition
    branch symbol timeframe window signal latest transition

/-- What a request of the paper runtime is in a campaign: its decision builder is `decide`. -/
def asPaper (symbol : String) (timeframe : Timeframe) : (r : PaperReq) → CampaignProg r.Ans
  | .decision window => decide symbol timeframe window
  | r => perform (Req.paper r)

variable [CaseMap] [CaseFold] [ExcClass]

def runtimeCycle (symbol : String) (timeframe : Timeframe) : CampaignProg PaperRuntimeHeartbeat :=
  ContinuousPaperRuntime.runOnce.interpret (asPaper symbol timeframe)

/-- `_record`, as far as the facts and the last action decide it. -/
def record (o : ClosedMarketObservation) (lastAction : String) (facts : Facts) : Record :=
  let raw := (facts.strategySignalDirection <|> facts.signalDirection).getD "NO_TRADE"
  let direction := if directional raw then raw else "NO_SIGNAL"
  let block := if lastAction.startsWith "BLOCKED:" then some (String.ofList (lastAction.toList.drop 8)) else none
  { candleCloseTime := o.closedAt
    regime := facts.regime
    signalDirection := direction
    signalConfidence := facts.signalConfidence
    confirmationState := facts.confirmationState.getD "NOT_EVALUATED"
    confirmationReason := facts.confirmationReason.filter (· ≠ "")
    momentum := facts.momentum.filter (· ≠ "")
    volatility := facts.volatility.filter (· ≠ "")
    executionDecision := if lastAction = "POSITION_OPENED" then "ALLOWED" else if block.isSome then "BLOCKED" else "NOT_EVALUATED"
    blockReason := block.filter (· ≠ "") <|> facts.blockReason.filter (· ≠ "") <|>
      if direction = "NO_SIGNAL" then some "NO_SIGNAL" else none
    riskAuthorizationState := facts.riskAuthorizationState.getD "NOT_EVALUATED"
    authorizedQuantity := facts.authorizedQuantity
    entryEvent := if lastAction = "POSITION_OPENED" then some "OPENED" else none }

def turn (symbol : String) (timeframe : Timeframe) (o : ClosedMarketObservation) : CampaignProg Unit := do
  let heartbeat ← runtimeCycle symbol timeframe
  let facts ← ask .facts
  ask (.append (record o heartbeat.lastAction facts))
  ask (.report heartbeat.lastAction)

/-! ### The environment -/

/-- **What a campaign has**, durable and in memory. -/
structure World where
  paper : PaperWorld
  facts : Facts
  confirmation : HistoricalConfirmationState ℤ
  confirmationFile : Option Json
  records : List Record
  /-- the evaluations of the strategy that returned: the close of the candle, and the facts -/
  evaluations : List (ℤ × Facts)

def World.insert (w : World) (r : Record) : World :=
  if w.records.any (·.candleCloseTime = r.candleCloseTime) then w else { w with records := w.records ++ [r] }

def World.evaluated (w : World) (window : List ClosedMarketObservation) (facts : Facts) : World :=
  { w with evaluations := w.evaluations ++ [((window.getLast?.map (·.closedAt)).getD 0, facts)] }

/-- **What a request may do**, where the source delivers `window` and the regime is a function of the candles. -/
inductive Exec (regimeOf : List ClosedMarketObservation → String) (window : List ClosedMarketObservation) (w : World) :
    (r : Req) → Except PyExc r.Ans → World → Prop
  | paper {r : PaperReq} {ans : Except PyExc r.Ans} {paper : PaperWorld} (h : deliver window w.paper r ans paper) :
      Exec regimeOf window w (.paper r) ans { w with paper := paper }
  | candidate (os : List ClosedMarketObservation) (signal : Signal) :
      Exec regimeOf window w (.evaluateStrategyCandidate os) (.ok (regimeOf os, signal))
        (w.evaluated os (candidateFacts (regimeOf os) signal))
  | candidateFailed (os : List ClosedMarketObservation) (exc : PyExc) :
      Exec regimeOf window w (.evaluateStrategyCandidate os) (.error exc) w
  | production (os : List ClosedMarketObservation) (signal : Signal) (entry : ℚ) {answer : ProductionAnswer}
      (h : answer.regime = regimeOf os) : Exec regimeOf window w (.evaluateProductionDecision os signal entry) (.ok answer) w
  | productionFailed (os : List ClosedMarketObservation) (signal : Signal) (entry : ℚ) (exc : PyExc) :
      Exec regimeOf window w (.evaluateProductionDecision os signal entry) (.error exc) w
  | facts : Exec regimeOf window w .facts (.ok w.facts) w
  | setFacts (facts : Facts) : Exec regimeOf window w (.setFacts facts) (.ok ()) { w with facts := facts }
  | pending : Exec regimeOf window w .pending (.ok w.confirmation.pending) w
  | observe (t : Stamp ℤ) (regime : String) :
      Exec regimeOf window w (.observe t regime) (w.confirmation.observe t regime).2
        { w with confirmation := (w.confirmation.observe t regime).1 }
  | queue (args : QueueArgs ℤ) :
      Exec regimeOf window w (.queue args) (w.confirmation.queue args).2
        { w with confirmation := (w.confirmation.queue args).1 }
  | save : Exec regimeOf window w .save (.ok ()) { w with confirmationFile := some w.confirmation.save }
  | saveFailed (exc : PyExc) (file : Option Json) :
      Exec regimeOf window w .save (.error exc) { w with confirmationFile := file }
  | emit (eventType : String) (ans : Except PyExc Unit) : Exec regimeOf window w (.emit eventType) ans w
  | append (r : Record) : Exec regimeOf window w (.append r) (.ok ()) (w.insert r)
  | appendFailed (r : Record) (exc : PyExc) : Exec regimeOf window w (.append r) (.error exc) w
  | report (lastAction : String) (ans : Except PyExc Unit) : Exec regimeOf window w (.report lastAction) ans w

/-! ### Processes -/

def warmup : ℕ := 500

def window (os : List ClosedMarketObservation) (cursor : ℕ) : List ClosedMarketObservation :=
  (os.take cursor).drop (cursor - warmup)

structure Process where
  cursor : ℕ
  processedTimes : List ℤ

structure State where
  world : World
  process : Option Process
  completed : Bool

def specification : PaperContractSpecification where
  minimumStake := 1 / 1000000000000
  maximumStake := 1000000
  stakeIncrement := 1 / 1000000000000
  feeRate := 0
  slippage := 0
  stakes_pos := by norm_num
  rates_nonneg := PaperContractSpecification.default.rates_nonneg
  stakes_le := by norm_num

def World.reopened (w : World) (confirmation : HistoricalConfirmationState ℤ) : World :=
  { w with
    paper := { w.paper with engine := fun _ => .fresh specification, heartbeat := fun _ => {} }
    facts := {}
    confirmation }

def World.new : World where
  paper := { observations := .empty, published := none, engine := fun _ => .fresh specification, heartbeat := fun _ => {} }
  facts := {}
  confirmation := ⟨none⟩
  confirmationFile := some .null
  records := []
  evaluations := []

def State.start : State := ⟨.new, some ⟨warmup, []⟩, false⟩

def State.resumed (s : State) (confirmation : HistoricalConfirmationState ℤ) : State where
  world := s.world.reopened confirmation
  process := some ⟨warmup + s.world.records.length, s.world.records.map (·.candleCloseTime)⟩
  completed := s.completed

section

variable (regimeOf : List ClosedMarketObservation → String) (symbol : String)
  (timeframe : Timeframe) (os : List ClosedMarketObservation)

inductive Step (s : State) : State → Prop
  | turn {p : Process} {o : ClosedMarketObservation} {w : World} (hp : s.process = some p) (ho : os[p.cursor]? = some o)
      (hnew : o.closedAt ∉ p.processedTimes)
      (h : Ends (Exec regimeOf (window os (p.cursor + 1))) (turn symbol timeframe o) s.world (.ok ()) w) :
      Step s ⟨w, some { p with cursor := p.cursor + 1 }, s.completed⟩
  | skip {p : Process} {o : ClosedMarketObservation} (hp : s.process = some p) (ho : os[p.cursor]? = some o)
      (hold : o.closedAt ∈ p.processedTimes) : Step s { s with process := some { p with cursor := p.cursor + 1 } }
  | raised {p : Process} {o : ClosedMarketObservation} {exc : PyExc} {w : World} (hp : s.process = some p)
      (ho : os[p.cursor]? = some o) (hnew : o.closedAt ∉ p.processedTimes)
      (h : Ends (Exec regimeOf (window os (p.cursor + 1))) (turn symbol timeframe o) s.world (.error exc) w) :
      Step s ⟨w, none, s.completed⟩
  | cut {p : Process} {o : ClosedMarketObservation} {w : World} (hp : s.process = some p)
      (ho : os[p.cursor]? = some o) (hnew : o.closedAt ∉ p.processedTimes)
      (h : Cuts (Exec regimeOf (window os (p.cursor + 1))) (turn symbol timeframe o) s.world w) :
      Step s ⟨w, none, s.completed⟩
  | stop : Step s { s with process := none }
  | finish {p : Process} (hp : s.process = some p) (hend : os.length ≤ p.cursor) : Step s ⟨s.world, none, true⟩
  | resume {confirmation : HistoricalConfirmationState ℤ} (hp : s.process = none) (hopen : s.completed = false)
      (h : HistoricalConfirmationState.load s.world.confirmationFile = .ok confirmation) : Step s (s.resumed confirmation)

def Reached : State → Prop := Relation.ReflTransGen (Step regimeOf symbol timeframe os) State.start

end

/-- A record carries the direction, the regime and the confidence of an evaluation. -/
structure Record.Carries (r : Record) (own : Facts) : Prop where
  regime : r.regime = own.regime
  confidence : r.signalConfidence = own.signalConfidence
  direction : r.signalDirection =
    if directional (own.signalDirection.getD "NO_TRADE") then own.signalDirection.getD "NO_TRADE" else "NO_SIGNAL"

/-- **What a completed campaign reports**: each candle after the warm-up was evaluated once, and its one record carries
what that evaluation found. -/
def Evaluated (os : List ClosedMarketObservation) (w : World) : Prop :=
  ∀ o ∈ os.drop warmup, ∃ own r, w.evaluations.filter (·.1 = o.closedAt) = [(o.closedAt, own)] ∧
    w.records.filter (·.candleCloseTime = o.closedAt) = [r] ∧ r.Carries own

end Campaign
end Jqe
