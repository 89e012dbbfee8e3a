import Mathlib.Tactic.NormNum
import Mathlib.Algebra.Order.AbsoluteValue.Basic
import Jqe.BrokerTypes
import Jqe.PyDict
/-!
# PaperContract — the paper venue (`execution/paper_contract.py`)

`PaperContractEngine` as calls that return or raise and leave an engine.  A `Decimal` is a rational: finite and exact.
A moment is an instant: every source of observations gives `closed_at` in UTC.
-/
namespace Jqe

inductive Timeframe where
  | m1
  | m5
  | m15
  | m30
  | h1
  | h4
  | d1
  deriving DecidableEq

def Timeframe.value : Timeframe → String
  | m1 => "M1"
  | m5 => "M5"
  | m15 => "M15"
  | m30 => "M30"
  | h1 => "H1"
  | h4 => "H4"
  | d1 => "D1"

structure ClosedMarketObservation where
  canonicalSymbol : String
  timeframe : Timeframe
  candleOpenedAt : Int
  closedAt : Int
  open_ : ℚ
  high : ℚ
  low : ℚ
  close : ℚ
  symbol_ok : blank canonicalSymbol = false
  times_ok : candleOpenedAt < closedAt
  prices_ok : 0 < open_ ∧ 0 < high ∧ 0 < low ∧ 0 < close
  ohlc_ok : max open_ close ≤ high ∧ low ≤ min open_ close
  deriving DecidableEq

def ClosedMarketObservation.isClosedAt (o : ClosedMarketObservation) (now : Int) : Bool := o.closedAt ≤ now

inductive ContractLifecycleState where
  | submissionUnknown
  | purchasedOpen
  | closeRequested
  | closed
  deriving DecidableEq

inductive PaperExitReason where
  | stopLoss
  | takeProfit
  | strategyExit
  | endOfTest
  deriving DecidableEq

structure PaperContractSpecification where
  minimumStake : ℚ
  maximumStake : ℚ
  stakeIncrement : ℚ
  feeRate : ℚ
  slippage : ℚ
  stakes_pos : 0 < minimumStake ∧ 0 < maximumStake ∧ 0 < stakeIncrement
  rates_nonneg : 0 ≤ feeRate ∧ 0 ≤ slippage
  stakes_le : minimumStake ≤ maximumStake

namespace PaperContractSpecification

def default : PaperContractSpecification where
  minimumStake := 1 / 100
  maximumStake := 1000000
  stakeIncrement := 1 / 100
  feeRate := 0
  slippage := 0
  stakes_pos := by norm_num
  rates_nonneg := by norm_num
  stakes_le := by norm_num

def validateStake (s : PaperContractSpecification) (stake : ℚ) : Except PyExc Unit :=
  if stake < s.minimumStake then .error (.exception "quantity below minimum_stake")
  else if s.maximumStake < stake then .error (.exception "quantity above maximum_stake")
  else if ((stake - s.minimumStake) / s.stakeIncrement).den ≠ 1 then
    .error (.exception "quantity does not align to stake_increment")
  else .ok ()

def fee (s : PaperContractSpecification) (price stake : ℚ) : ℚ := |price * stake| * s.feeRate

end PaperContractSpecification

structure PaperProposal where
  proposalId : String
  idempotencyKey : String
  symbol : String
  side : OrderSide
  stake : ℚ
  entry : ℚ
  stopLoss : ℚ
  takeProfit : ℚ
  observationClosedAt : Int
  maximumLoss : ℚ
  deriving DecidableEq

structure PaperPosition where
  contractId : String
  proposalId : String
  idempotencyKey : String
  symbol : String
  side : OrderSide
  stake : ℚ
  entry : ℚ
  stopLoss : ℚ
  takeProfit : ℚ
  openedAt : Int
  lastObservedAt : Int
  state : ContractLifecycleState
  closeRequested : Bool := false
  deriving DecidableEq

structure PaperClose where
  contractId : String
  closeId : String
  reason : PaperExitReason
  exitPrice : ℚ
  closedAt : Int
  grossProfit : ℚ
  fees : ℚ
  realizedProfit : ℚ
  deriving DecidableEq

structure PaperReconciliation where
  state : ContractLifecycleState
  contractId : String
  closeId : Option String
  realizedProfit : Option ℚ
  deriving DecidableEq

/-- The exit that a candle makes by itself: the reason and the price before slippage. -/
def PaperPosition.levelExit (p : PaperPosition) (o : ClosedMarketObservation) : Option (PaperExitReason × ℚ) :=
  match p.side with
  | .buy =>
    if o.open_ ≤ p.stopLoss then some (.stopLoss, o.open_)
    else if p.takeProfit ≤ o.open_ then some (.takeProfit, o.open_)
    else if o.low ≤ p.stopLoss then some (.stopLoss, p.stopLoss)
    else if p.takeProfit ≤ o.high then some (.takeProfit, p.takeProfit)
    else none
  | .sell =>
    if p.stopLoss ≤ o.open_ then some (.stopLoss, o.open_)
    else if o.open_ ≤ p.takeProfit then some (.takeProfit, o.open_)
    else if p.stopLoss ≤ o.high then some (.stopLoss, p.stopLoss)
    else if o.low ≤ p.takeProfit then some (.takeProfit, p.takeProfit)
    else none

/-- The exit of an observation, with what the caller asks for. -/
def PaperPosition.exit? (p : PaperPosition) (o : ClosedMarketObservation) (strategyExit forceClose : Bool) :
    Option (PaperExitReason × ℚ) :=
  match p.levelExit o with
  | some found => some found
  | none =>
    if strategyExit then some (.strategyExit, o.close)
    else if forceClose then some (.endOfTest, o.close)
    else none

/-- **One paper venue, in memory.** -/
structure PaperContractEngine where
  specification : PaperContractSpecification
  /-- by idempotency key -/
  proposals : PyDict PaperProposal
  /-- by contract id -/
  positions : PyDict PaperPosition
  closes : PyDict PaperClose

def paperContractId (idempotencyKey : String) : String := "PAPER-C-" ++ idempotencyKey

namespace PaperContractEngine

def fresh (specification : PaperContractSpecification) : PaperContractEngine :=
  ⟨specification, .empty, .empty, .empty⟩

abbrev Outcome (α : Type) := Except PyExc α × PaperContractEngine

def raise {α : Type} (e : PaperContractEngine) (message : String) : Outcome α := (.error (.exception message), e)

def proposalOf (e : PaperContractEngine) (idempotencyKey : String) (side : OrderSide) (stake stopLoss takeProfit : ℚ)
    (observation : ClosedMarketObservation) (entry : ℚ) : PaperProposal :=
  let slippedStop := match side with
    | .buy => stopLoss - e.specification.slippage
    | .sell => stopLoss + e.specification.slippage
  let lossAtStop := |entry - slippedStop| * stake
  let fees := e.specification.fee entry stake + e.specification.fee slippedStop stake
  { proposalId := "PAPER-P-" ++ idempotencyKey
    idempotencyKey
    symbol := observation.canonicalSymbol
    side, stake, entry, stopLoss, takeProfit
    observationClosedAt := observation.closedAt
    maximumLoss := lossAtStop + fees }

/-- A proposal under its key: the one stored, if it is equal, or stored now. -/
def register (e : PaperContractEngine) (idempotencyKey : String) (proposal : PaperProposal) : Outcome PaperProposal :=
  match e.proposals.get? idempotencyKey with
  | some existing =>
    if existing ≠ proposal then e.raise "paper idempotency context mismatch" else (.ok existing, e)
  | none => (.ok proposal, { e with proposals := e.proposals.set idempotencyKey proposal })

theorem register_ok {e : PaperContractEngine} {key : String} {proposal p : PaperProposal}
    (h : (e.register key proposal).1 = .ok p) : p = proposal := by
  unfold register at h
  split at h
  · split at h
    · cases h
    · rename_i hsame
      cases h
      exact not_not.1 hsame
  · cases h
    rfl

theorem register_proposals (e : PaperContractEngine) (key : String) (proposal : PaperProposal) :
    ∃ proposals, (e.register key proposal).2 = { e with proposals } := by
  unfold register
  split
  · split <;> exact ⟨_, rfl⟩
  · exact ⟨_, rfl⟩

def propose (e : PaperContractEngine) (idempotencyKey : String) (side : OrderSide) (stake stopLoss takeProfit : ℚ)
    (observation : ClosedMarketObservation) (entryPrice : Option ℚ) : Outcome PaperProposal :=
  match e.specification.validateStake stake with
  | .error exc => (.error exc, e)
  | .ok () =>
    let entry := entryPrice.getD observation.close
    if entry ≤ 0 then e.raise "entry_price must be positive"
    else if side = .buy ∧ ¬(stopLoss < entry ∧ entry < takeProfit) then e.raise "BUY paper levels are invalid"
    else if side = .sell ∧ ¬(takeProfit < entry ∧ entry < stopLoss) then e.raise "SELL paper levels are invalid"
    else
      e.register idempotencyKey (e.proposalOf idempotencyKey side stake stopLoss takeProfit observation entry)

def openedPosition (proposal : PaperProposal) : PaperPosition where
  contractId := paperContractId proposal.idempotencyKey
  proposalId := proposal.proposalId
  idempotencyKey := proposal.idempotencyKey
  symbol := proposal.symbol
  side := proposal.side
  stake := proposal.stake
  entry := proposal.entry
  stopLoss := proposal.stopLoss
  takeProfit := proposal.takeProfit
  openedAt := proposal.observationClosedAt
  lastObservedAt := proposal.observationClosedAt
  state := .purchasedOpen

def open_ (e : PaperContractEngine) (proposal : PaperProposal) : Outcome PaperPosition :=
  let contractId := paperContractId proposal.idempotencyKey
  if (e.positions.get? contractId).isSome then e.raise "paper contract is already open"
  else
    let position := openedPosition proposal
    (.ok position, { e with positions := e.positions.set contractId position })

def requestClose (e : PaperContractEngine) (contractId : String) : Outcome PaperPosition :=
  match e.positions.get? contractId with
  | none => e.raise contractId
  | some position =>
    if (e.closes.get? contractId).isSome ∨ position.closeRequested = true then
      e.raise "paper close is already requested or completed"
    else
      let updated := { position with closeRequested := true, state := .closeRequested }
      (.ok updated, { e with positions := e.positions.set contractId updated })

def closeOf (e : PaperContractEngine) (contractId : String) (position : PaperPosition)
    (o : ClosedMarketObservation) (reason : PaperExitReason) (price : ℚ) : PaperClose :=
  let slippage := e.specification.slippage
  let price := match position.side with
    | .buy => price - slippage
    | .sell => price + slippage
  let direction : ℚ := match position.side with
    | .buy => 1
    | .sell => -1
  let gross := (price - position.entry) * position.stake * direction
  let fees := e.specification.fee position.entry position.stake + e.specification.fee price position.stake
  { contractId
    closeId := "PAPER-X-" ++ position.idempotencyKey
    reason
    exitPrice := price
    closedAt := o.closedAt
    grossProfit := gross
    fees
    realizedProfit := gross - fees }

def observe (e : PaperContractEngine) (contractId : String) (o : ClosedMarketObservation)
    (strategyExit forceClose : Bool) : Outcome (Option PaperClose) :=
  match e.positions.get? contractId with
  | none => e.raise contractId
  | some position =>
    if (e.closes.get? contractId).isSome then e.raise "paper contract is already closed"
    else if o.canonicalSymbol ≠ position.symbol then e.raise "paper observation symbol mismatch"
    else if o.closedAt ≤ position.lastObservedAt then e.raise "paper observations must be strictly chronological"
    else match position.exit? o strategyExit forceClose with
      | none =>
        let updated := { position with lastObservedAt := o.closedAt }
        (.ok none, { e with positions := e.positions.set contractId updated })
      | some (reason, price) =>
        let result := e.closeOf contractId position o reason price
        let updated := { position with lastObservedAt := o.closedAt, closeRequested := true, state := .closed }
        (.ok (some result),
          { e with closes := e.closes.set contractId result, positions := e.positions.set contractId updated })

def replay (e : PaperContractEngine) (contractId : String) (forceClose : Bool) :
    List ClosedMarketObservation → Outcome (Option PaperClose)
  | [] => (.ok none, e)
  | o :: rest =>
    match e.observe contractId o false (forceClose && rest.isEmpty) with
    | (.error exc, e') => (.error exc, e')
    | (.ok (some result), e') => (.ok (some result), e')
    | (.ok none, e') => e'.replay contractId forceClose rest

def reconcile (e : PaperContractEngine) (contractId : String) : PaperReconciliation :=
  match e.positions.get? contractId with
  | none => ⟨.submissionUnknown, contractId, none, none⟩
  | some position =>
    match e.closes.get? contractId with
    | some closed => ⟨.closed, contractId, some closed.closeId, some closed.realizedProfit⟩
    | none => ⟨position.state, contractId, none, none⟩

end PaperContractEngine

end Jqe
