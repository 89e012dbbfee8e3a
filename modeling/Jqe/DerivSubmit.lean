import Jqe.BrokerTypes
import Jqe.PyDecimal
import Jqe.PyDict
import Jqe.Raising
/-!
# DerivSubmit — `submit_order` of `broker/deriv_gateway.py` and of `broker/deriv_demo.py`

Both submissions over any replies of the broker.  A gateway carries the replies still to come and what it has requested
so far, each request with its reply.
-/
namespace Jqe

class PyTexts where
  str : PyValue → String
  float? : String → Option PyFloat
  int? : String → Option ℤ

abbrev Payload := List (String × PyValue)

/-- What a submission raises, with the context of a `JQEError`. -/
inductive SubmitError where
  | execution (message : String) (context : Payload)
  | connection (message : String) (context : Payload)
  | unsafeAccount (message : String) (context : Payload)
  | attributeError
  | typeError
  | overflowError
  | cancelled

abbrev Reply := Except SubmitError Payload

namespace PyValue

/-- `value.get(key)`, where a value that is no mapping has no `get`. -/
def getAttr : PyValue → String → Except SubmitError PyValue
  | dict entries, key => .ok (get entries key)
  | _, _ => .error .attributeError

def getIfDict : PyValue → String → PyValue
  | dict entries, key => get entries key
  | _, _ => none

def items : PyValue → Except SubmitError (List PyValue)
  | list items => .ok items
  | str s => .ok (s.toList.map fun c => str (String.singleton c))
  | dict entries => .ok (entries.map fun e => str e.1)
  | _ => .error .typeError

/-- `float(value)` of a number: an integer beyond the greatest float is an `OverflowError`. -/
def number? : PyValue → Option (Except SubmitError PyFloat)
  | int n =>
    match toFloat n with
    | .fin q => some (.ok (.fin q))
    | _ => some (.error .overflowError)
  | float x => some (.ok x)
  | _ => Option.none

end PyValue

def OrderType.value : OrderType → String
  | market => "MARKET"
  | buyStop => "BUY_STOP"
  | sellStop => "SELL_STOP"
  | stopLimit => "STOP_LIMIT"

namespace DerivSubmit

open PyValue (get)

/-! ### The payloads -/

def providerSymbol [CaseMap] (symbol : String) : String :=
  if CaseMap.upper (strip symbol) = "XAUUSD" then "frxXAUUSD" else strip symbol

def contractType : OrderSide → String
  | .buy => "MULTUP"
  | .sell => "MULTDOWN"

def positiveFinancialNumber [PyTexts] (value : PyValue) (field : String) : Except SubmitError ℚ :=
  let malformed : SubmitError := .execution s!"Deriv proposal {field} was malformed or indeterminate" []
  let number : Option (Except SubmitError PyFloat) :=
    match value with
    | .str s => if blank s then none else (PyTexts.float? s).map .ok
    | value => value.number?
  match number with
  | some (.ok (.fin q)) => if q ≤ 0 then .error malformed else .ok q
  | some (.error e) => .error e
  | _ => .error malformed

def buildProposalRequest [CaseMap] (order : OrderRequest) (currency : String) (multiplier : Option ℤ) :
    Except SubmitError Payload :=
  let payload : Payload :=
    [("proposal", .int 1), ("contract_type", .str (contractType order.side)),
      ("underlying_symbol", .str (providerSymbol order.symbol)), ("amount", .float (.fin order.quantity.value)),
      ("basis", .str "stake"), ("currency", .str currency),
      ("limit_order", .dict (("stop_loss", .float (.fin order.stopLoss)) ::
        (order.takeProfit.map fun p => ("take_profit", PyValue.float (.fin p))).toList))]
  match multiplier with
  | none => .ok payload
  | some m =>
    if m ≤ 0 then .error (.execution "Deriv multiplier must be a positive integer" [("symbol", .str order.symbol)])
    else .ok (payload ++ [("multiplier", .int m)])

def parseProposalResponse [PyTexts] (response : Payload) (symbol : String) : Except SubmitError (String × ℚ) :=
  let malformed : SubmitError :=
    .execution "Deriv proposal response was malformed or indeterminate" [("symbol", .str symbol)]
  match get response "proposal" with
  | .dict proposal =>
    match (get proposal "id").text? with
    | none => .error malformed
    | some proposalId =>
      match positiveFinancialNumber (get proposal "ask_price") "ask_price" with
      | .ok askPrice => .ok (proposalId, askPrice)
      | .error (.execution _ _) => .error malformed
      | .error e => .error e
  | _ => .error malformed

/-- `setdefault("jqe", {})["idempotency_key"] = key`, where there is a key. -/
def keyedPassthrough (passthrough : Payload) : Option String → Except SubmitError Payload
  | none => .ok passthrough
  | some key =>
    match passthrough.lookup "jqe" with
    | none => .ok (dictSet passthrough "jqe" (.dict [("idempotency_key", .str key)]))
    | some (.dict jqe) => .ok (dictSet passthrough "jqe" (.dict (dictSet jqe "idempotency_key" (.str key))))
    | some _ => .error .typeError

def buildBuyRequest (proposalId : String) (askPrice : ℚ) (idempotencyKey : Option String) (passthrough : Option Payload) :
    Except SubmitError Payload := do
  let passthrough ← keyedPassthrough (passthrough.getD []) idempotencyKey
  let request : Payload := [("buy", .str proposalId), ("price", .float (.fin askPrice))]
  return if passthrough.isEmpty then request else request ++ [("passthrough", .dict passthrough)]

def multiplierValue [PyTexts] (order : OrderRequest) (value : PyValue) : Except SubmitError ℤ :=
  let malformed : Except SubmitError ℤ :=
    .error (.execution "Deriv multiplier_range value is not an integer" [("symbol", .str order.symbol)])
  match value with
  | .bool b => .ok b.toNat
  | .int n => .ok n
  | .float (.fin q) => .ok (if q < 0 then q.ceil else q.floor)
  | .float .nan => malformed
  | .float _ => .error .overflowError
  | .str s => (PyTexts.int? s).elim malformed .ok
  | _ => malformed

/-- What `_resolve_multiplier` reads from the response. -/
def multiplierOf [PyTexts] (order : OrderRequest) (response : Payload) : Except SubmitError ℤ := do
  if (get response "error").truthy then
    let reason ← (get response "error").getAttr "message"
    throw (.execution "Deriv contracts_for lookup failed" [("symbol", .str order.symbol), ("reason", reason)])
  let contracts ←
    match (response.lookup "contracts_for").getD (.dict []) with
    | .dict contracts => .ok contracts
    | _ => .error .attributeError
  let available ← ((contracts.lookup "available").getD (.list [])).items
  let isMatch (item : PyValue) := (item.getIfDict "contract_type").eqStr (contractType order.side)
  match available.find? isMatch with
  | none =>
    throw (.execution s!"Deriv {contractType order.side} not available for {order.symbol}" [("symbol", .str order.symbol)])
  | some item =>
    match item.getIfDict "multiplier_range" with
    | .list (value :: _) => multiplierValue order value
    | _ =>
      throw (.execution "Deriv multiplier_range is missing or empty for this contract" [("symbol", .str order.symbol)])

/-! ### The gateways -/

/-- **A `DerivGateway`** at its connection. -/
structure Gateway where
  connected : Bool
  accountId : Option String
  currency : Option String
  replies : List Reply
  exchanges : List (Payload × Reply)

/-- An `OrderResult` of these gateways, with the broker's own payload. -/
structure DerivOrderResult where
  orderId : String
  status : OrderStatus
  symbol : String
  side : OrderSide
  volume : ℚ
  filledPrice : Option PyFloat
  transactionId : Option String
  raw : Payload

namespace Gateway

open Raising

abbrev Act := EStateM SubmitError Gateway

def request (payload : Payload) : Act Payload := fun g =>
  let timedOut : Reply :=
    .error (.connection "Deriv API request timed out" [("request_type", .str ((payload.head?.map (·.1)).getD ""))])
  let reply := g.replies.headD timedOut
  answered reply { g with replies := g.replies.tail, exchanges := g.exchanges ++ [(payload, reply)] }

def requireConnected : Act Unit := fun g =>
  if g.connected then .ok () g
  else .error (.connection "DerivGateway is not connected — call connect() first" []) g

def resolveAccountCurrency : Act String := do
  let known := (← MonadState.get).currency.getD ""
  if known ≠ "" then
    return known
  else
    let response ← request [("balance", .int 1)]
    match ((get response "balance").getIfDict "currency").text? with
    | some currency =>
      modify fun g => { g with currency := some (strip currency) }
      return strip currency
    | none => return "USD"

variable [CaseMap] [PyTexts]

def resolveMultiplier (order : OrderRequest) : Act ℤ := do
  let response ← request [("contracts_for", .str (providerSymbol order.symbol))]
  answered (multiplierOf order response)

/-- What both submissions do up to the buy: the proposal's identity and its ask price. -/
def propose (order : OrderRequest) : Act (String × ℚ) := do
  let currency ← resolveAccountCurrency
  let multiplier ← resolveMultiplier order
  let proposalRequest ← answered (buildProposalRequest order currency (some multiplier))
  let response ← request proposalRequest
  if (get response "error").truthy then
    let reason ← answered ((get response "error").getAttr "message")
    throw (.execution "Deriv proposal request failed" [("symbol", .str order.symbol), ("reason", reason)])
  else
    answered (parseProposalResponse response order.symbol)

end Gateway

variable [PyTexts]

def rejectedResult (order : OrderRequest) (raw : Payload) : DerivOrderResult where
  orderId := ""
  status := .rejected
  symbol := order.symbol
  side := order.side
  volume := order.quantity.value
  filledPrice := none
  transactionId := none
  raw := raw

def filledResult (order : OrderRequest) (buy : Payload) (price : PyFloat) : DerivOrderResult where
  orderId := PyTexts.str (get buy "contract_id")
  status := .filled
  symbol := order.symbol
  side := order.side
  volume := order.quantity.value
  filledPrice := some price
  transactionId :=
    match get buy "transaction_id" with
    | .none => none
    | id => some (PyTexts.str id)
  raw := buy

def malformedBuy (order : OrderRequest) : SubmitError :=
  .execution "Deriv buy response was malformed or outcome is indeterminate" [("symbol", .str order.symbol)]

def contractMissing : PyValue → Bool
  | .none => true
  | id => id.eqStr ""

/-- What a `submit_order` makes of the response to its buy, by the prices that it refuses. -/
def outcomeOfBuy (refused : PyFloat → Bool) (order : OrderRequest) (response : Payload) :
    Except SubmitError DerivOrderResult :=
  if (get response "error").truthy then
    ((get response "error").getAttr "message").map fun _ => rejectedResult order response
  else
    match get response "buy" with
    | .dict buy =>
      if contractMissing (get buy "contract_id") then .error (malformedBuy order)
      else
        match (get buy "buy_price").number? with
        | some (.ok price) => if refused price then .error (malformedBuy order) else .ok (filledResult order buy price)
        | some (.error e) => .error e
        | none => .error (malformedBuy order)
    | _ => .error (malformedBuy order)

def Gateway.buyOutcome : OrderRequest → Payload → Except SubmitError DerivOrderResult :=
  outcomeOfBuy fun price => !price.isFinite || price.le .zero

/-- The demo copy takes any number for a price. -/
def DemoGateway.buyOutcome : OrderRequest → Payload → Except SubmitError DerivOrderResult := outcomeOfBuy fun _ => false

/-- `DemoOnlyGuard.assert_demo_account("deriv", …)`: the account that it verifies. -/
def assertDemoAccount (accountData : Payload) : Except SubmitError String :=
  let data :=
    match get accountData "authorize" with
    | .dict authorize => authorize
    | _ => accountData
  let named (key : String) (other : String) := if (get data key).truthy then PyTexts.str (get data key) else other
  let accountId := strip (named "loginid" (named "account_id" ""))
  match get data "is_virtual" with
  | .int 1 => .ok (if accountId = "" then "UNKNOWN_DERIV" else accountId)
  | observed =>
    .error (.unsafeAccount "Deriv account is NOT authoritatively verified as DEMO/virtual (is_virtual must be 1)"
      [("broker", .str "deriv"), ("is_virtual", observed), ("account_id", .str accountId)])

variable [CaseMap]

open Raising Gateway

def Gateway.submitOrder (order : OrderRequest) : Act DerivOrderResult := do
  requireConnected
  if order.orderType ≠ .market then
    throw (.execution "ORDER_TYPE_UNSUPPORTED_BY_BROKER"
      [("broker", .str "deriv"), ("order_type", .str order.orderType.value), ("symbol", .str order.symbol)])
  else if order.quantity.unit ≠ .derivStake then
    throw (.execution "Deriv requires DERIV_STAKE" [])
  else
    let (proposalId, askPrice) ← propose order
    let buyRequest ← answered (buildBuyRequest proposalId askPrice order.idempotencyKey none)
    let response ← request buyRequest
    answered (Gateway.buyOutcome order response)

def commentPassthrough (order : OrderRequest) : Option Payload :=
  if order.orderComment.getD "" ≠ "" then some [("order_comment", .str (order.orderComment.getD ""))] else none

/-- **`DerivDemoGateway.submit_order`**, by what `connect` left in `_demo_verified`. -/
def DemoGateway.submitOrder (demoVerified : Bool) (order : OrderRequest) : Act DerivOrderResult := do
  requireConnected
  let accountId := (← MonadState.get).accountId.getD ""
  if demoVerified = false ∨ accountId = "" then
    throw (.unsafeAccount "Cannot submit order: Deriv account was not verified as DEMO"
      [("broker", .str "deriv"), ("symbol", .str order.symbol)])
  else
    let _ ← answered (assertDemoAccount [("is_virtual", .int 1), ("loginid", .str accountId)])
    let (proposalId, askPrice) ← propose order
    let buyRequest ← answered (buildBuyRequest proposalId askPrice order.idempotencyKey (commentPassthrough order))
    let response ← request buyRequest
    answered (DemoGateway.buyOutcome order response)

end DerivSubmit

end Jqe
