import Jqe.PyBase
/-!
# BrokerTypes — the broker-neutral types of `broker/types.py`

Their validation is theirs: an `ExecutionQuantity` or an `OrderRequest` that its model refuses cannot be built.
-/
namespace Jqe

inductive OrderSide where
  | buy
  | sell
  deriving DecidableEq

namespace OrderSide

def value : OrderSide → String
  | buy => "BUY"
  | sell => "SELL"

def ofText? (s : String) : Option OrderSide :=
  if s = "BUY" then some buy else if s = "SELL" then some sell else none

@[simp] theorem ofText?_value (s : OrderSide) : ofText? s.value = some s := by cases s <;> rfl

end OrderSide

/-- `OrderSide | str`: a `str` enumeration, so the member and its text are equal to Python. -/
inductive SideValue where
  | member (side : OrderSide)
  | text (s : String)
  deriving DecidableEq

/-- `side.value if isinstance(side, OrderSide) else side`. -/
def SideValue.raw : SideValue → String
  | .member s => s.value
  | .text t => t

/-- `side if isinstance(side, OrderSide) else OrderSide(side)`; `none` is its `ValueError`. -/
def SideValue.side? : SideValue → Option OrderSide
  | .member s => some s
  | .text s => OrderSide.ofText? s

inductive OrderType where
  | market
  | buyStop
  | sellStop
  | stopLimit
  deriving DecidableEq

inductive ExecutionQuantityUnit where
  | simulationUnits
  | derivStake
  | mt5Lots
  deriving DecidableEq

namespace ExecutionQuantityUnit

def value : ExecutionQuantityUnit → String
  | simulationUnits => "SIMULATION_UNITS"
  | derivStake => "DERIV_STAKE"
  | mt5Lots => "MT5_LOTS"

def ofText? (s : String) : Option ExecutionQuantityUnit :=
  if s = "SIMULATION_UNITS" then some simulationUnits
  else if s = "DERIV_STAKE" then some derivStake
  else if s = "MT5_LOTS" then some mt5Lots
  else none

@[simp] theorem ofText?_value (u : ExecutionQuantityUnit) : ofText? u.value = some u := by cases u <;> rfl

end ExecutionQuantityUnit

structure ExecutionQuantity where
  value : ℚ
  unit : ExecutionQuantityUnit
  value_pos : 0 < value
  deriving DecidableEq

/-- `ExecutionQuantity(value=…, unit=…)` with a float: refused unless positive and finite. -/
def ExecutionQuantity.build? (value : PyFloat) (unit : ExecutionQuantityUnit) : Option ExecutionQuantity :=
  match value with
  | .fin q => if h : 0 < q then some ⟨q, unit, h⟩ else none
  | _ => none

theorem ExecutionQuantity.build?_self (q : ExecutionQuantity) : build? (.fin q.value) q.unit = some q := by
  simp [build?, q.value_pos]

inductive OrderStatus where
  | submitted
  | filled
  | rejected
  deriving DecidableEq

def OrderStatus.value : OrderStatus → String
  | submitted => "SUBMITTED"
  | filled => "FILLED"
  | rejected => "REJECTED"

/-- `OrderRequest.validate_order_type_fields`: the text of the error, if any. -/
def orderTypeProblem (type : OrderType) (side : OrderSide) (entryPrice stopLimitPrice : Option ℚ) : Option String :=
  if type ≠ .market ∧ entryPrice = none then some "entry_price is required for pending orders"
  else if type = .market ∧ (entryPrice ≠ none ∨ stopLimitPrice ≠ none) then
    some "market orders cannot specify pending-order prices"
  else if type = .stopLimit ∧ stopLimitPrice = none then
    some "stop_limit_price is required for stop-limit orders"
  else if type ≠ .stopLimit ∧ stopLimitPrice ≠ none then
    some "stop_limit_price is only valid for stop-limit orders"
  else if type = .buyStop ∧ side ≠ .buy then some "BUY_STOP requires BUY side"
  else if type = .sellStop ∧ side ≠ .sell then some "SELL_STOP requires SELL side"
  else none

structure OrderRequest where
  symbol : String
  side : OrderSide
  quantity : ExecutionQuantity
  orderType : OrderType
  entryPrice : Option ℚ
  stopLimitPrice : Option ℚ
  stopLoss : ℚ
  takeProfit : Option ℚ
  idempotencyKey : Option String
  magicNumber : Option Int
  orderComment : Option String
  prices_pos : 0 < stopLoss ∧ (∀ p ∈ takeProfit, 0 < p) ∧ (∀ p ∈ entryPrice, 0 < p) ∧ ∀ p ∈ stopLimitPrice, 0 < p
  fields_ok : orderTypeProblem orderType side entryPrice stopLimitPrice = none
  deriving DecidableEq

/-- `OrderRequest(symbol=…, side=…, quantity=…, stop_loss=…, take_profit=…, …)` for a market order with both levels:
`none` is pydantic's `ValidationError`. -/
def OrderRequest.market? (symbol : String) (side : OrderSide) (quantity : ExecutionQuantity)
    (stopLoss takeProfit : PyFloat) (idempotencyKey : Option String) (magicNumber : Option Int)
    (orderComment : Option String) : Option OrderRequest :=
  match stopLoss, takeProfit with
  | .fin sl, .fin tp =>
    if h : 0 < sl ∧ 0 < tp then
      some { symbol, side, quantity, orderType := .market, entryPrice := none, stopLimitPrice := none, stopLoss := sl,
             takeProfit := some tp, idempotencyKey, magicNumber, orderComment,
             prices_pos := ⟨h.1, by simpa using h.2, by simp, by simp⟩, fields_ok := by simp [orderTypeProblem] }
    else none
  | _, _ => none

theorem OrderRequest.market?_eq_some {symbol : String} {side : OrderSide} {quantity : ExecutionQuantity}
    {stopLoss takeProfit : PyFloat} {key : Option String} {magic : Option Int} {comment : Option String}
    {o : OrderRequest} (h : market? symbol side quantity stopLoss takeProfit key magic comment = some o) :
    o.symbol = symbol ∧ o.side = side ∧ o.quantity = quantity ∧ o.orderType = .market ∧ o.idempotencyKey = key := by
  unfold market? at h
  split at h
  · split at h
    · cases h
      exact ⟨rfl, rfl, rfl, rfl, rfl⟩
    · cases h
  · cases h

structure OrderResult where
  orderId : String
  status : OrderStatus
  symbol : String
  side : OrderSide
  volume : ℚ
  filledPrice : Option ℚ
  transactionId : Option String
  deriving DecidableEq

structure Position where
  positionId : String
  symbol : String
  side : OrderSide
  volume : ℚ
  openPrice : ℚ
  currentPrice : Option ℚ
  profit : Option ℚ
  stopLoss : Option ℚ
  takeProfit : Option ℚ
  openedAt : Option Int
  magic : Option Int
  comment : Option String
  deriving DecidableEq

end Jqe
