import Jqe.BrokerTypes
import Mathlib.Data.Rat.Floor
/-!
# Mt5Terminal — the MetaTrader 5 SDK as `broker/mt5_gateway.py` calls it

What each call of the SDK answers, and the parts of `MT5Gateway` that every operation shares: the session, the identity
of the account and the resolution of symbols.  `getattr(…, None)` of a missing attribute is `none`; errors carry their
message without the context rendered behind it.
-/
namespace Jqe

/-- What a call of the SDK raises: it knows nothing of the gateway's own exceptions. -/
inductive SdkError where
  | raised (message : String)
  | interrupted
  deriving DecidableEq

def SdkError.toPyExc : SdkError → PyExc
  | raised message => .exception message
  | interrupted => .baseException

theorem SdkError.toPyExc_ne (e : SdkError) (message : String) : e.toPyExc ≠ .preSubmitOrderRejected message := by
  cases e <;> simp [toPyExc]

abbrev Sdk (α : Type) := Except SdkError α

/-- The answer of a call, its exception passed on. -/
def Sdk.get {α : Type} : Sdk α → Except PyExc α
  | .ok a => .ok a
  | .error e => .error e.toPyExc

theorem Sdk.get_eq_ok {α : Type} {x : Sdk α} {a : α} (h : Sdk.get x = .ok a) : x = .ok a := by
  cases x with
  | error e => cases h
  | ok b =>
    cases h
    rfl

structure Mt5Account where
  login : Option Int
  server : Option String
  tradeMode : Option Int
  deriving DecidableEq

structure Mt5TerminalInfo where
  connected : Bool
  tradeAllowed : Bool
  tradeapiDisabled : Bool
  deriving DecidableEq

structure Mt5SymbolInfo where
  tradeMode : Option Int
  volumeMin : Option ℚ
  volumeMax : Option ℚ
  volumeStep : Option ℚ
  fillingMode : Option Int
  tradeExemode : Option Int
  digits : ℕ
  point : ℚ
  tradeStopsLevel : Int
  deriving DecidableEq

structure Mt5Tick where
  ask : ℚ
  bid : ℚ
  deriving DecidableEq

inductive Mt5Action where
  | deal
  | pending
  deriving DecidableEq

inductive Mt5OrderType where
  | buy
  | sell
  | buyStop
  | sellStop
  | buyStopLimit
  | sellStopLimit
  deriving DecidableEq

inductive Mt5Filling where
  | fok
  | ioc
  | ret
  deriving DecidableEq

/-- **The `request` of `order_check` and `order_send`**; its `type_time` is always `ORDER_TIME_GTC`. -/
structure Mt5Request where
  action : Mt5Action
  symbol : String
  volume : ℚ
  type : Mt5OrderType
  price : ℚ
  sl : ℚ
  tp : ℚ
  deviation : Int
  magic : Int
  comment : String
  typeFilling : Mt5Filling
  stoplimit : Option ℚ
  deriving DecidableEq

/-- What `order_send` answers. -/
structure Mt5SendResult where
  retcode : Option Int
  order : Option Int
  deal : Option Int
  /-- a price that is no number is none -/
  price : Option ℚ
  volume : Option PyFloat
  deriving DecidableEq

/-- The value the SDK gives `TRADE_RETCODE_PLACED`. -/
def tradeRetcodePlaced : Int := 10008

def tradeRetcodeDone : Int := 10009

def tradeRetcodeDonePartial : Int := 10010

def tradeRetcodeTimeout : Int := 10012

def tradeRetcodeConnection : Int := 10031

structure Mt5Terminal where
  accountInfo : Sdk (Option Mt5Account)
  terminalInfo : Sdk (Option Mt5TerminalInfo)
  /-- `symbol_info` while the symbol is resolved: its `visible`, if it is there -/
  catalogue : String → Sdk (Option Bool)
  /-- `symbol_select` while the symbol is resolved -/
  makeVisible : String → Sdk Unit
  symbolSelect : String → Sdk Bool
  symbolInfo : String → Sdk (Option Mt5SymbolInfo)
  symbolInfoTick : String → Sdk (Option Mt5Tick)
  /-- the `retcode` of the check, if there is one -/
  orderCheck : Mt5Request → Sdk (Option (Option Int))
  orderSend : Mt5Request → Sdk (Option Mt5SendResult)

/-- **`MT5Gateway`**: how it was built, and its session. -/
structure MT5Gateway where
  /-- `mt5_session.is_active(self._session_owner)` -/
  connected : Bool
  pinnedIdentity : Option (Int × String)
  login : Option Int
  server : Option String
  expectedEnvironment : Option String
  strictLifecycle : Bool
  deriving DecidableEq

def rejectOrder {α : Type} (message : String) : Except PyExc α := .error (.preSubmitOrderRejected message)

def failWith {α : Type} (message : String) : Except PyExc α := .error (.exception message)

namespace MT5Gateway

/-- A gateway in session, of no named account. -/
def sampleGateway : MT5Gateway := ⟨true, none, none, none, none, false⟩

def requireConnected (g : MT5Gateway) : Except PyExc Unit :=
  if g.connected then .ok () else failWith "MT5Gateway is not connected — call connect() first"

def identity (a : Mt5Account) : Option (Int × String) :=
  match a.login, a.server with
  | some login, some server => if login ≤ 0 ∨ blank server then none else some (login, server)
  | _, _ => none

def isDemoAccount (a : Mt5Account) : Bool := a.tradeMode == some 0

def verifyConnectionIdentity (g : MT5Gateway) (account : Option Mt5Account) (terminal : Option Mt5TerminalInfo)
    (requireTrading : Bool) : Bool :=
  match account, terminal with
  | some account, some terminal =>
    if !terminal.connected then false
    else match identity account with
      | none => false
      | some (login, server) =>
        if !isDemoAccount account then false
        else if g.pinnedIdentity.any (· != (login, server)) then false
        else if requireTrading && (!terminal.tradeAllowed || terminal.tradeapiDisabled) then false
        else if g.login.any (· != login) then false
        else if g.server.any (· != server) then false
        else match g.expectedEnvironment with
          | some expected => expected == "demo"
          | none => !g.strictLifecycle
  | _, _ => false

def aliases : String → List String
  | "GOLD" => ["GOLD", "XAUUSD", "XAUUSDm", "XAUUSD.pro", "GOLD#"]
  | "BTCUSD" => ["BTCUSD", "BTCUSDm", "BTCUSD.pro"]
  | "DOW30" => ["DOW30", "US30", "DJ30", "WS30"]
  | "EURUSD" => ["EURUSD", "EURUSDm", "EURUSD.pro"]
  | "GBPUSD" => ["GBPUSD", "GBPUSDm", "GBPUSD.pro"]
  | "R_75" | "VOLATILITY_75" => ["Volatility 75 Index"]
  | symbol => [symbol]

def resolveFrom (t : Mt5Terminal) : List String → Except PyExc (Option String)
  | [] => .ok none
  | candidate :: rest => do
    match ← Sdk.get (t.catalogue candidate) with
    | none => resolveFrom t rest
    | some visible =>
      if !visible then Sdk.get (t.makeVisible candidate)
      return some candidate

def resolveSymbol (t : Mt5Terminal) (symbol : String) : Except PyExc (Option String) := resolveFrom t (aliases symbol)

end MT5Gateway

end Jqe
