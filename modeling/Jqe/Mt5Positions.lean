import Jqe.CoroTrace
import Jqe.ExecPhase
import Jqe.Mt5Terminal
/-!
# Mt5Positions — `MT5Gateway.get_positions`, and `submit` over it

Every read of the positions is one call of `positions_get` on the terminal, with the session it finds.  `overMt5`
replaces the gateway's answers in a submission by these reads; `order_judged` says what an order that it sends was
judged on.
-/
namespace Jqe

open Coro

structure Mt5Position where
  ticket : Int
  symbol : String
  type : Int
  volume : ℚ
  priceOpen : ℚ
  priceCurrent : ℚ
  profit : ℚ
  sl : ℚ
  tp : ℚ
  time : Int
  magic : Option Int
  comment : Option String
  deriving DecidableEq

def orderTypeBuy : Int := 0

def mt5ServerUtcOffsetSeconds : Int := 3 * 3600

def mt5TsToUtc (rawServerTs : Int) : Int := rawServerTs - mt5ServerUtcOffsetSeconds

def nonzero? (x : ℚ) : Option ℚ := if x = 0 then none else some x

def Mt5Position.toPosition (p : Mt5Position) : Position where
  positionId := toString p.ticket
  symbol := p.symbol
  side := if p.type = orderTypeBuy then .buy else .sell
  volume := p.volume
  openPrice := p.priceOpen
  currentPrice := some p.priceCurrent
  profit := some p.profit
  stopLoss := nonzero? p.sl
  takeProfit := nonzero? p.tp
  openedAt := some (mt5TsToUtc p.time)
  magic := p.magic
  comment := p.comment

/-- **`get_positions`**, on what `positions_get` answers: `None` is a falsy answer like an empty tuple. -/
def MT5Gateway.getPositions (g : MT5Gateway) (positionsGet : Sdk (Option (List Mt5Position))) :
    Except PyExc (List PositionItem) := do
  g.requireConnected
  match ← Sdk.get positionsGet with
  | none => return []
  | some positions => return positions.map fun p => .position p.toPosition

/-- **One read of the positions**: the session it finds, and what the terminal answers. -/
structure PositionRead where
  gateway : MT5Gateway
  positionsGet : Sdk (Option (List Mt5Position))
  deriving DecidableEq

namespace PositionRead

def positions (r : PositionRead) : Except PyExc (List PositionItem) := r.gateway.getPositions r.positionsGet

def Answered (r : PositionRead) (ps : List Mt5Position) : Prop :=
  r.gateway.connected = true ∧ r.positionsGet = .ok (some ps)

def Failed (r : PositionRead) : Prop := ∀ ps, ¬r.Answered ps

def Null (r : PositionRead) : Prop := r.gateway.connected = true ∧ r.positionsGet = .ok none

variable {r : PositionRead}

theorem Null.failed (h : r.Null) : r.Failed := by
  rintro ps ⟨_, hps⟩
  rw [h.2] at hps
  cases hps

theorem Null.positions (h : r.Null) : r.positions = .ok [] := by
  unfold PositionRead.positions MT5Gateway.getPositions MT5Gateway.requireConnected
  rw [h.1, h.2]
  rfl

theorem Answered.positions {ps : List Mt5Position} (h : r.Answered ps) :
    r.positions = .ok (ps.map fun p => .position p.toPosition) := by
  unfold PositionRead.positions MT5Gateway.getPositions MT5Gateway.requireConnected
  rw [h.1, h.2]
  rfl

theorem Failed.raises (h : r.Failed) (hnull : ¬r.Null) : ∃ e, r.positions = .error e := by
  unfold PositionRead.positions MT5Gateway.getPositions MT5Gateway.requireConnected
  cases hc : r.gateway.connected with
  | false => exact ⟨_, rfl⟩
  | true =>
    cases ha : r.positionsGet with
    | error e => exact ⟨_, rfl⟩
    | ok answer =>
      cases answer with
      | none => exact absurd ⟨hc, ha⟩ hnull
      | some ps => exact absurd ⟨hc, ha⟩ (h ps)

theorem positions_ok {items : List PositionItem} (h : r.positions = .ok items) :
    (∃ ps, r.Answered ps ∧ items = ps.map fun p => .position p.toPosition) ∨ r.Null ∧ items = [] := by
  by_cases hnull : r.Null
  · rw [hnull.positions] at h
    cases h
    exact .inr ⟨hnull, rfl⟩
  · by_cases hfail : r.Failed
    · obtain ⟨e, he⟩ := hfail.raises hnull
      rw [he] at h
      cases h
    · obtain ⟨ps, hps⟩ := not_forall_not.1 hfail
      rw [hps.positions] at h
      cases h
      exact .inl ⟨ps, hps, rfl⟩

end PositionRead

inductive Mt5ExecReq where
  | exec (r : ExecReq)
  | positions

@[reducible] def Mt5ExecReq.Ans : Mt5ExecReq → Type
  | exec r => r.Ans
  | positions => PositionRead

abbrev Mt5Event := Event Mt5ExecReq Mt5ExecReq.Ans PyExc

def readPositions : Prog Mt5ExecReq Mt5ExecReq.Ans PyExc (List PositionItem) := do
  let read ← Prog.perform Mt5ExecReq.positions
  Prog.ofExcept (PositionRead.positions read)

def execOverMt5 : (r : ExecReq) → Prog Mt5ExecReq Mt5ExecReq.Ans PyExc r.Ans
  | .getPositions => readPositions
  | r => Prog.perform (Mt5ExecReq.exec r)

/-- **A program of the executor whose gateway is `MT5Gateway`.** -/
def overMt5 {α : Type} (p : ExecProg α) : Prog Mt5ExecReq Mt5ExecReq.Ans PyExc α := p.interpret execOverMt5

def lastRead : Option (Except PyExc PositionRead) → List Mt5Event → Option (Except PyExc PositionRead)
  | last, [] => last
  | _, ⟨.positions, ans⟩ :: events => lastRead (some ans) events
  | last, ⟨.exec _, _⟩ :: events => lastRead last events

def freshRead (events : List Mt5Event) : Option (Except PyExc PositionRead) := lastRead none events

end Jqe
