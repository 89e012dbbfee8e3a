import Jqe.Dataset
import Jqe.Mt5History
import Jqe.Mt5Positions
import Jqe.WeltradeSymbols
/-!
# Mt5Readers — candles, ticks and deals as the terminal reports them (`broker/mt5_gateway.py`, `broker/weltrade_gateway.py`)

`get_candles` pages from the newest closed bar or reads a range, `get_candles_range` reads a range, `get_trade_history` reads
thirty days of deals and `get_latest_tick` one quote.  The times of the terminal are server-clock epochs.
-/
namespace Jqe

open Dataset (Candle)
open WeltradeSymbols (PyUnicode)

structure Mt5Bar where
  time : ℤ
  open_ : PyFloat
  high : PyFloat
  low : PyFloat
  close : PyFloat
  tickVolume : Option PyFloat
  deriving DecidableEq

def Mt5Bar.toCandle (source : String) (rate : Mt5Bar) : Candle :=
  ⟨.aware (mt5TsToUtc rate.time * 1000000), rate.open_, rate.high, rate.low, rate.close, rate.tickVolume, source⟩

structure RatesTerminal extends Mt5Terminal where
  /-- the names of `symbols_get()`, and whether they are visible -/
  symbolsGet : Sdk (Option (List (String × Bool)))
  copyRatesRange : String → Timeframe → ℤ → ℤ → Sdk (Option (List Mt5Bar))
  copyRatesFromPos : ℕ → String → Timeframe → ℤ → ℤ → Sdk (Option (List Mt5Bar))

/-- The gateway that reads: each resolves symbols in its own way. -/
inductive Reader where
  | mt5
  | weltrade
  deriving DecidableEq

def Reader.marketDataProvider : Reader → String
  | mt5 => "mt5"
  | weltrade => "weltrade"

def maxRatesPerRequest : ℤ := 50000

namespace Mt5Readers

/-- The search of Weltrade's catalogue for a key. -/
def resolveInCatalogue [PyUnicode] (t : RatesTerminal) (key : String) :
    List (String × Bool) → Except PyExc (Option String)
  | [] => .ok none
  | (name, visible) :: items =>
    if WeltradeSymbols.weltradeSymbolKey name = key then do
      if !visible then Sdk.get (t.makeVisible name)
      return some name
    else resolveInCatalogue t key items

def resolveWeltrade [PyUnicode] (t : RatesTerminal) (symbol : String) : Except PyExc (Option String) := do
  if WeltradeSymbols.isWeltradeSynthetic symbol then
    match ← Sdk.get (t.catalogue (strip symbol)) with
    | some visible =>
      if !visible then Sdk.get (t.makeVisible (strip symbol))
      return some (strip symbol)
    | none =>
      let available ← Sdk.get t.symbolsGet
      resolveInCatalogue t (WeltradeSymbols.weltradeSymbolKey (strip symbol)) (available.getD [])
  else return none

section

variable [PyUnicode] (reader : Reader) (g : MT5Gateway) (t : RatesTerminal) (symbol : String)
  (timeframe : Timeframe)

/-- **`_resolve_symbol`**; `not real_symbol` is a name that is missing or empty. -/
def resolveSymbol : Except PyExc (Option String) := do
  let name ← match reader with
    | .mt5 => MT5Gateway.resolveSymbol t.toMt5Terminal symbol
    | .weltrade => resolveWeltrade t symbol
  return name.filter (· ≠ "")

omit [PyUnicode] in
def someRates : Option (List Mt5Bar) → Except PyExc (List Mt5Bar)
  | none | some [] => failWith "No candle data returned from MT5"
  | some rates => .ok rates

/-- `WeltradeGateway.get_candles_range`, the bounds in microseconds. -/
def getCandlesRange (start stop : ℤ) : Except PyExc (List Candle) := do
  g.requireConnected
  match ← resolveSymbol .weltrade t symbol with
  | none => failWith "Unknown Weltrade MT5 symbol"
  | some name =>
    let rates ← someRates (← Sdk.get (t.copyRatesRange name timeframe start stop))
    return rates.map (Mt5Bar.toCandle (Reader.marketDataProvider .weltrade))

omit [PyUnicode] in
/-- The loop of `get_candles`: a request for the next page while bars remain to be read; `none` is a loop still running. -/
def readPages (name : String) : ℕ → ℕ → ℤ → ℤ → List (List Mt5Bar) → Option (Except PyExc (List (List Mt5Bar)))
  | 0, _, _, remaining, pages => if remaining = 0 then some (.ok pages) else none
  | fuel + 1, call, startPos, remaining, pages =>
    if remaining = 0 then some (.ok pages)
    else
      let pageSize := min remaining maxRatesPerRequest
      match t.copyRatesFromPos call name timeframe startPos pageSize with
      | .error e => some (.error e.toPyExc)
      | .ok none => some (failWith "MT5 rejected candle history request")
      | .ok (some []) => if pages = [] then some (failWith "No candle data returned from MT5") else some (.ok pages)
      | .ok (some page) =>
        let received : ℤ := page.length
        if received < pageSize then some (.ok (pages ++ [page]))
        else readPages name fuel (call + 1) (startPos + received) (remaining - received) (pages ++ [page])

def candlePages (fuel : ℕ) (count : ℤ) (stop : Option PyDatetime) : Option (Except PyExc (List (List Mt5Bar))) :=
  match stop with
  | some (.naive _) => some (failWith "MT5 candle range end must be timezone-aware")
  | some (.aware stop) =>
    match resolveSymbol reader t symbol with
    | .error e => some (.error e)
    | .ok none => some (failWith "Unknown MT5 symbol")
    | .ok (some name) => some do
      let start := stop - timeframe.seconds * count * 1000000
      let rates ← someRates (← Sdk.get (t.copyRatesRange name timeframe start stop))
      return [rates]
  | none =>
    match resolveSymbol reader t symbol with
    | .error e => some (.error e)
    | .ok none => some (failWith "Unknown MT5 symbol")
    | .ok (some name) => readPages t timeframe name fuel 0 1 count []

/-- **`MT5Gateway.get_candles`**, which `WeltradeGateway` inherits. -/
def getCandles (fuel : ℕ) (count : ℤ) (stop : Option PyDatetime) : Option (Except PyExc (List Candle)) :=
  match g.requireConnected with
  | .error e => some (.error e)
  | .ok () =>
    if count ≤ 0 then some (failWith "MT5 candle count must be a positive integer")
    else (candlePages reader t symbol timeframe fuel count stop).map fun outcome =>
      outcome.map fun pages => (pages.reverse.flatten).map (Mt5Bar.toCandle reader.marketDataProvider)

end

/-- A `TradeHistoryEntry` of `get_trade_history`, which leaves the optional fields out. -/
structure ClosingTrade where
  tradeId : String
  symbol : String
  side : OrderSide
  volume : PyFloat
  openPrice : ℚ
  closePrice : ℚ
  profit : ℚ
  openedAt : ℤ
  closedAt : ℤ
  deriving DecidableEq

def closingTrade (d : Mt5Deal) : ClosingTrade where
  tradeId := toString d.ticket
  symbol := d.symbol
  side := if d.type = dealTypeBuy then .sell else .buy
  volume := d.volume
  openPrice := d.price
  closePrice := d.price
  profit := d.profit
  openedAt := mt5TsToUtc d.time
  closedAt := mt5TsToUtc d.time

def lastOf {α : Type} (count : ℤ) (xs : List α) : List α :=
  if 0 < count then xs.drop (xs.length - count.toNat) else xs.drop (-count).toNat

def tradeHistoryLookback : ℤ := 30 * 86400

def getTradeHistory (g : MT5Gateway) (t : HistoryTerminal) (now count : ℤ) : Except PyExc (List ClosingTrade) := do
  g.requireConnected
  let deals ← Sdk.get (t.historyDealsGet (now - tradeHistoryLookback) now)
  return (lastOf count ((deals.getD []).filter Mt5Deal.closes)).map closingTrade

structure RawTick where
  /-- a time that is an `int` -/
  time : Option ℤ
  timeMsc : Option ℤ
  bid : PyFloat
  ask : PyFloat
  last : Option PyFloat
  deriving DecidableEq

/-- A `Tick`, its time in milliseconds. -/
structure LatestTick where
  time : ℤ
  symbol : String
  bid : PyFloat
  ask : PyFloat
  last : Option PyFloat
  deriving DecidableEq

def usable (x : PyFloat) : Bool := x.isFinite && PyFloat.zero.lt x

def RawTick.milliseconds (raw : RawTick) (stamp : ℤ) : ℤ :=
  match raw.timeMsc with
  | some milliseconds => if 0 < milliseconds then milliseconds else stamp * 1000
  | none => stamp * 1000

/-- **`WeltradeGateway.get_latest_tick`**: the offset is the one whole hour that explains the quote's own time. -/
def getLatestTick [PyUnicode] (g : MT5Gateway) (symbolInfoTick : String → Sdk (Option RawTick))
    (symbol : String) (now : ℤ) : Except PyExc (Option LatestTick) := do
  g.requireConnected
  if WeltradeSymbols.isWeltradeSynthetic symbol then
    match ← Sdk.get (symbolInfoTick symbol) with
    | none => return none
    | some raw =>
      match raw.time, historyServerOffset raw.time now with
      | some stamp, some offset =>
        if usable raw.bid && usable raw.ask then
          return some ⟨raw.milliseconds stamp - offset * 1000, symbol, raw.bid, raw.ask, raw.last.filter usable⟩
        else return none
      | _, _ => return none
  else return none

end Mt5Readers
end Jqe
