import Jqe.ExecModels
/-!
# FillObserve — the position behind a confirmed fill (`main.py`)

What `_observe_confirmed_weltrade_fill` checks of the positions to find the one that a filled order opened.
-/
namespace Jqe

def isClose (a b relTol absTol : ℚ) : Bool := |a - b| ≤ max (relTol * max |a| |b|) absTol

structure FillObservation where
  symbol : String
  side : OrderSide
  orderId : String
  expectedStopLoss : PyFloat
  brokerResult : Option OrderResult
  /-- `broker_result.raw.get("position")`, if there is a result and a ticket in it -/
  rawPosition : Option Int
  requirePosition : Bool

namespace FillObservation

variable [CaseMap]

/-- The positions of the order's symbol and side; an item that is no position raises. -/
def matching (f : FillObservation) : List PositionItem → Except PyExc (List Position)
  | [] => .ok []
  | .other :: _ => .error (.exception "object has no attribute 'symbol'")
  | .position p :: items => do
    let rest ← matching f items
    return if normalizeSymbol p.symbol = normalizeSymbol f.symbol ∧ p.side = f.side then p :: rest else rest

def unlinked (f : FillObservation) (p : Position) : Option String :=
  match f.rawPosition.filter (· ≠ 0) with
  | some ticket =>
    if toString ticket ≠ p.positionId then some "Filled order and broker position tickets disagree" else none
  | none => if p.positionId ≠ f.orderId then some "Broker position ticket cannot be linked to the filled order" else none

def volumeProblem (f : FillObservation) (p : Position) : Option String :=
  match f.brokerResult with
  | some r =>
    if !isClose p.volume r.volume (1 / 10 ^ 8) (1 / 10 ^ 8) then
      some "Filled quantity and broker position volume disagree"
    else none
  | none => none

/-- The stop is the planned one, up to half a point. -/
def stopHeld (f : FillObservation) (stopLoss : ℚ) (point : PyFloat) : Bool :=
  match point.rat?, f.expectedStopLoss.rat? with
  | some point, some expected => 0 < point && isClose stopLoss expected 0 (point / 2 + 1 / 10 ^ 10)
  | _, _ => false

end FillObservation

end Jqe
