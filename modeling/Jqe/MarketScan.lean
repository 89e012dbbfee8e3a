import Jqe.Dataset
import Jqe.Mt5Sizing
import Jqe.WeltradeCanonical
/-!
# MarketScan — the cards of `api/market_scan.py`

`_load_candles_batch` reads the rows of many symbols under one exception handler for each archive; `get_syntx_overview` and
`get_symbol_card` make cards of what it found.
-/
namespace Jqe
namespace MarketScan

open WeltradeSymbols List

/-- A stored value: a column does not hold its rows to its type. -/
inductive Cell where
  | null
  | num (x : PyFloat)
  | text (s : String)
  | blob (bytes : List UInt8)
  deriving DecidableEq

/-- **What a Python reads in texts.** -/
class TextReads where
  fromisoformat : String → Option PyDatetime
  /-- a text, or the bytes of one, in a field of floats -/
  float : Cell → Option PyFloat

def typeError : PyExc := .exception "unsupported operand type(s)"

namespace Cell

def rank : Cell → ℕ
  | null => 0
  | num _ => 1
  | text _ => 2
  | blob _ => 3

def le : Cell → Cell → Bool
  | num x, num y => x.le y
  | text s, text t => s ≤ t
  | blob b, blob c => b ≤ c
  | x, y => x.rank ≤ y.rank

def lt : Cell → Cell → Except PyExc Bool
  | num x, num y => .ok (x.lt y)
  | text s, text t => .ok (decide (s < t))
  | blob b, blob c => .ok (decide (b < c))
  | _, _ => .error typeError

def number : Cell → Except PyExc PyFloat
  | num x => .ok x
  | _ => .error typeError

def orZero : Cell → Cell
  | null | text "" | blob [] => num .zero
  | x => x

def field [TextReads] : Cell → Except PyExc (Option PyFloat)
  | null => .ok none
  | num x => .ok (some x)
  | x =>
    match TextReads.float x with
    | some y => .ok (some y)
    | none => .error (.exception "Input should be a valid number")

end Cell

/-- The moments that a `datetime` can be, in microseconds. -/
def minMicros : ℤ := -62135596800000000

def maxMicros : ℤ := 253402300799999999

/-- `isoformat()` of a moment in microseconds. -/
def isoMicros (t : ℤ) : String :=
  let s := isoformat (t / 1000000)
  if t % 1000000 = 0 then s
  else String.ofList (s.toList.take 19) ++ "." ++ padded 6 (t % 1000000) ++ "+00:00"

/-- `datetime.fromtimestamp(x, tz=timezone.utc).isoformat()`. -/
def fromtimestamp : Cell → Except PyExc String
  | .num (.fin x) =>
    let t := roundHalfEven (x * 1000000)
    if minMicros ≤ t ∧ t ≤ maxMicros then .ok (isoMicros t) else .error (.exception "year is out of range")
  | .num _ => .error (.exception "cannot convert float infinity to integer")
  | _ => .error typeError

def lastN {α : Type} (n : ℕ) (xs : List α) : List α := xs.drop (xs.length - n)

/-- `ORDER BY key DESC LIMIT n`, turned round. -/
def latest {α : Type} (key : α → Cell) (n : ℕ) (rows : List α) : List α :=
  lastN n (rows.insertionSort fun a b => (key a).le (key b) = true)

structure Candle where
  time : String
  open_ : Cell
  high : Cell
  low : Cell
  close : Cell
  volume : Cell
  /-- `spread_points` and `point`, which the shadow archive has -/
  spread : Option (Cell × Cell)

/-- Candles, total count, provenance and the time of the last tick. -/
structure Loaded where
  candles : List Candle
  total : ℕ
  provenance : String
  lastTickTime : Option String

def unavailable : Loaded := ⟨[], 0, "UNAVAILABLE", none⟩

/-! ### The archives -/

structure CandleRow where
  provider : Cell
  symbol : Cell
  timeframe : Cell
  time : Cell
  open_ : Cell
  high : Cell
  low : Cell
  close : Cell
  volume : Cell

structure TickRow where
  provider : Cell
  symbol : Cell
  timeUs : Cell

structure RateRow where
  symbol : Cell
  timeframe : Cell
  time : Cell
  open_ : Cell
  high : Cell
  low : Cell
  close : Cell
  tickVolume : Cell
  spreadPoints : Cell
  point : Cell

/-- `historical.sqlite3`; a table may be missing. -/
structure HistoryFile where
  candles : Option (List CandleRow)
  ticks : Option (List TickRow)

structure ShadowFile where
  rates : Option (List RateRow)

def CandleRow.candle (r : CandleRow) : Except PyExc Candle := do
  let time ← match r.time with
    | .text s => .ok s
    | time => fromtimestamp time
  return ⟨time, r.open_, r.high, r.low, r.close, r.volume, none⟩

def RateRow.candle (r : RateRow) : Except PyExc Candle := do
  let time ← fromtimestamp r.time
  return ⟨time, r.open_, r.high, r.low, r.close, r.tickVolume, some (r.spreadPoints, r.point)⟩

def HistoryFile.tickTime (file : HistoryFile) (canonical : String) : Except PyExc (Option String) :=
  match file.ticks with
  | none => .ok none
  | some ticks =>
    match latest TickRow.timeUs 1 (ticks.filter fun t => t.provider = .text "weltrade" ∧ t.symbol = .text canonical) with
    | [] => .ok none
    | t :: _ => do
      let micros ← t.timeUs.number
      let time ← fromtimestamp (.num (micros.div (.fin 1000000)))
      return some time

def HistoryFile.read (file : HistoryFile) (tf canonical : String) : Except PyExc (Option Loaded) :=
  match file.candles with
  | none => .error (.exception "no such table: candles")
  | some candles =>
    let rows := candles.filter fun r =>
      r.provider = .text "weltrade" ∧ r.symbol = .text canonical ∧ r.timeframe = .text tf
    if rows.isEmpty then .ok none
    else do
      let candles ← (latest CandleRow.time 35 rows).mapM CandleRow.candle
      let tickTime ← file.tickTime canonical
      return some ⟨candles, rows.length, "Weltrade MT5 terminal", tickTime⟩

section

variable [PyUnicode]

def shadowLookup (rates : List RateRow) (tf : String) : Except PyExc (List (String × String)) := do
  let names := ((rates.filter fun r => r.timeframe = .text tf).map RateRow.symbol).dedup
  let lowered ← (names.insertionSort fun a b => a.le b = true).mapM fun
    | .text s => .ok (some (CaseMap.lower s, s))
    | .blob _ => .ok none
    | _ => .error (.exception "object has no attribute 'lower'")
  return lowered.reduceOption.reverse

def ShadowFile.read (file : ShadowFile) (tf canonical : String) : Except PyExc (Option Loaded) :=
  match file.rates with
  | none => .error (.exception "no such table: mt5_rates")
  | some rates => do
    let names ← shadowLookup rates tf
    match names.lookup (CaseMap.lower canonical) with
    | none => return none
    | some matched =>
      let rows := rates.filter fun r => r.symbol = .text matched ∧ r.timeframe = .text tf
      if rows.isEmpty then return none
      else do
        let candles ← (latest RateRow.time 35 rows).mapM RateRow.candle
        return some ⟨candles, rows.length, "Weltrade MT5 shadow archive", none⟩

end

/-! ### The loader -/

structure Pass where
  found : List (String × Loaded)
  missing : List String
  raised : Bool

def readEach (read : String → Except PyExc (Option Loaded)) : List String → Pass
  | [] => ⟨[], [], false⟩
  | c :: cs =>
    match read c with
    | .error _ => ⟨[], [], true⟩
    | .ok none =>
      let rest := readEach read cs
      ⟨rest.found, c :: rest.missing, rest.raised⟩
    | .ok (some l) =>
      let rest := readEach read cs
      ⟨(c, l) :: rest.found, rest.missing, rest.raised⟩

structure Service where
  history : Option HistoryFile
  shadow : Option ShadowFile
  watchedKeys : List String
  now : ℤ

namespace Service

variable [PyUnicode] (svc : Service)

def tfClean (timeframe : String) : String := String.ofList (upper timeframe.toList)

def fromHistory (timeframe canonical : String) : Except PyExc (Option Loaded) :=
  match svc.history with
  | none => .ok none
  | some file => file.read (tfClean timeframe) canonical

def fromShadow (timeframe canonical : String) : Except PyExc (Option Loaded) :=
  match svc.shadow with
  | none => .ok none
  | some file => file.read (tfClean timeframe) canonical

/-- **`_load_candles_batch`**: after an exception of the first pass the second looks for every symbol. -/
def loadCandlesBatch (symbols : List String) (timeframe canonical : String) : Loaded :=
  let first := readEach (svc.fromHistory timeframe) symbols
  let second := readEach (svc.fromShadow timeframe) (if first.raised then symbols else first.missing)
  ((second.found.lookup canonical).or (first.found.lookup canonical)).getD unavailable

def loadCandlesForSymbol (timeframe symbol : String) : Loaded := svc.loadCandlesBatch [symbol] timeframe symbol

end Service

/-! ### The specifications of a symbol -/

def supportedWeltradeSyntx : List String := [
  "FX Vol 20", "FX Vol 40", "FX Vol 60", "FX Vol 80", "FX Vol 99",
  "SFX Vol 20", "SFX Vol 40", "SFX Vol 60", "SFX Vol 80", "SFX Vol 99",
  "PainX 400", "PainX 600", "PainX 800", "PainX 999", "PainX 1200",
  "MAX PainX 1000", "MAX PainX 2000",
  "GainX 400", "GainX 600", "GainX 800", "GainX 999", "GainX 1200",
  "MAX GainX 1000", "MAX GainX 2000",
  "FlipX 1", "FlipX 2", "FlipX 3", "FlipX 4", "FlipX 5",
  "SwitchX 600", "SwitchX 1200", "SwitchX 1800",
  "BreakX 600", "BreakX 1200", "BreakX 1800",
  "FiboX"]

structure SyntXSpecs where
  symbol : String
  familyId : String
  familyName : String
  digits : ℕ
  point : ℚ
  volumeMin : ℚ
  volumeStep : ℚ
  volumeMax : ℚ
  contractSize : ℚ

/-- The keys that tell the families apart, in the order they are looked for, with the names of the families. -/
def families : List (String × String × String) := [
  ("MAXPAINX", "max_painx", "MAX PainX"), ("PAINX", "painx", "PainX (Crash)"), ("MAXGAINX", "max_gainx", "MAX GainX"),
  ("GAINX", "gainx", "GainX (Boom)"), ("SFXVOL", "sfx_vol", "SFX Volatility"), ("FXVOL", "fx_vol", "FX Volatility"),
  ("FLIPX", "flipx", "FlipX (Regime Flip)"), ("SWITCHX", "switchx", "SwitchX"), ("BREAKX", "breakx", "BreakX (Breakout)"),
  ("FIBOX", "fibox", "FiboX (Fibonacci)")]

def specsOf (canonical : String) (family : String × String) : SyntXSpecs :=
  let specs := ⟨canonical, family.1, family.2, 2, 1 / 100, 1 / 100, 1 / 100, 50, 1⟩
  if family.1 ∈ ["max_painx", "max_gainx"] then { specs with digits := 3, point := 1 / 1000, volumeMax := 3 }
  else if family.1 ∈ ["painx", "gainx", "switchx", "breakx"] then { specs with volumeMin := 1 / 10, volumeMax := 15 }
  else specs

section

variable [PyUnicode]

def canonical (symbol : String) : Except PyExc String :=
  match canonicalWeltradeSymbol symbol with
  | .ok spelling => .ok spelling
  | .error (.marketDataError message _) => .error (.exception message)
  | .error (.keyError key) => .error (.exception key)

/-- `weltrade_symbol_family_id` and `weltrade_symbol_family_name` of a canonical spelling. -/
def familyOf (canonical : String) : String × String :=
  ((families.find? fun f => f.1.toList <:+: (weltradeSymbolKey canonical).toList).map (·.2)).getD ("other", "Synthetic Index")

def getWeltradeSymbolSpecs (symbol : String) : Except PyExc SyntXSpecs := do
  let spelling ← canonical symbol
  let inner ← canonical spelling
  return specsOf spelling (familyOf inner)

end

/-! ### The cards -/

/-- `cache_status`: `CACHED`, `PARTIAL`, `MISSING` or `STALE`. -/
inductive CacheStatus where
  | cached
  | inPart
  | missing
  | stale
  deriving DecidableEq

structure SyntXMarketCard where
  symbol : String
  familyId : String
  familyName : String
  timeframe : String
  latestClose : Option PyFloat
  openPrice : Option PyFloat
  highPrice : Option PyFloat
  lowPrice : Option PyFloat
  changePct : Option PyFloat
  changeValue : Option PyFloat
  volume : Option PyFloat
  spread : Option PyFloat
  atr : Option PyFloat
  rsi : Option PyFloat
  sparkline : List PyFloat
  cacheStatus : CacheStatus
  candleCount : ℕ
  firstCandleTime : Option String
  lastCandleTime : Option String
  freshnessAgeSeconds : Option ℚ
  lastTickTime : Option String
  lastTickAgeSeconds : Option ℚ
  provenance : String
  isWatched : Bool
  specs : SyntXSpecs

def sub (x y : PyFloat) : PyFloat := x.add y.neg

def larger (x y : PyFloat) : PyFloat := if x.lt y then y else x

def smoothed (xs : List PyFloat) : PyFloat :=
  (xs.drop 14).foldl (fun avg x => ((avg.mul (.fin 13)).add x).div (.fin 14)) (((xs.take 14).foldl PyFloat.add .zero).div (.fin 14))

def calculateQuickRsi (candles : List Candle) : Except PyExc (Option PyFloat) :=
  if candles.length ≤ 14 then .ok none
  else do
    let closes ← candles.mapM fun c => c.close.number
    let deltas := List.zipWith sub closes.tail closes
    let avgGain := smoothed (deltas.map fun d => larger d .zero)
    let avgLoss := smoothed (deltas.map fun d => larger d.neg .zero)
    return some (if avgLoss = .zero then .fin (if PyFloat.zero.lt avgGain then 100 else 50)
      else (sub (.fin 100) (.div (.fin 100) (.add (.fin 1) (avgGain.div avgLoss)))).round 2)

def calculateQuickAtr (candles : List Candle) : Except PyExc (Option PyFloat) :=
  if candles.length ≤ 14 then .ok none
  else do
    let highs ← candles.tail.mapM fun c => c.high.number
    let lows ← candles.tail.mapM fun c => c.low.number
    let closes ← candles.dropLast.mapM fun c => c.close.number
    let ranges := List.zipWith (fun hl prev => larger (larger (sub hl.1 hl.2) (sub hl.1 prev).abs) (sub hl.2 prev).abs)
      (highs.zip lows) closes
    return some ((smoothed ranges).round 4)

/-- `max` of values, or `min` for the other order. -/
def extreme (better : Cell → Cell → Except PyExc Bool) : List Cell → Except PyExc Cell
  | [] => .error (.exception "arg is an empty sequence")
  | x :: xs => xs.foldlM (fun m x => do
      let better ← better m x
      return if better then x else m) x

def spreadOf (digits : ℕ) : Option (Cell × Cell) → Except PyExc (Option PyFloat)
  | none => .ok none
  | some s => do
    let points ← s.1.number
    let point ← s.2.number
    return some ((points.mul point).round digits)

section

variable [TextReads]

/-- The seconds since a moment, or since what comes `after` seconds later; a text without a zone is UTC. -/
def age (now after : ℤ) (time : String) : Except PyExc ℚ :=
  match TextReads.fromisoformat time with
  | none => .error (.exception "Invalid isoformat string")
  | some (.aware t) | some (.naive t) =>
    if minMicros ≤ t ∧ t + after * 1000000 ≤ maxMicros then .ok (max 0 ((now - (t + after * 1000000) : ℤ) / 1000000))
    else .error (.exception "date value out of range")

def tickAge (now : ℤ) : Option String → Except PyExc (Option ℚ)
  | none => .ok none
  | some time => do
    let age ← age now 0 time
    return some (pyRound age 1)

namespace Service

variable [PyUnicode] (svc : Service)

def timeframeOf (timeframe : String) : Except PyExc Timeframe :=
  match Dataset.Timeframe.ofValue? (tfClean timeframe) with
  | none => .error (.exception (tfClean timeframe ++ " is not a valid Timeframe"))
  | some tf => .ok tf

/-- **The card of what was loaded**, which both methods build like this. -/
def card (timeframe : String) (specs : SyntXSpecs) (loaded : Loaded) : Except PyExc SyntXMarketCard :=
  let isWatched := svc.watchedKeys.contains (weltradeSymbolKey specs.symbol)
  match loaded.candles with
  | [] => .ok ⟨specs.symbol, specs.familyId, specs.familyName, timeframe, none, none, none, none, none, none, none, none,
      none, none, [], .missing, 0, none, none, none, loaded.lastTickTime, none, "UNAVAILABLE", isWatched, specs⟩
  | first :: rest => do
    let candles := first :: rest
    let last := candles.getLast (List.cons_ne_nil first rest)
    let latestClose ← last.close.number
    let openPrice ← first.open_.number
    let high ← extreme (fun m x => m.lt x) (candles.map (·.high))
    let low ← extreme (fun m x => x.lt m) (candles.map (·.low))
    let volumes ← (lastN 10 candles).mapM fun c => c.volume.orZero.number
    let spread ← spreadOf specs.digits last.spread
    let atr ← calculateQuickAtr candles
    let rsi ← calculateQuickRsi candles
    let sparkline ← (lastN 20 candles).mapM fun c => c.close.number
    let tf ← timeframeOf timeframe
    let freshnessAge ← age svc.now tf.seconds last.time
    let tickAge ← tickAge svc.now loaded.lastTickTime
    -- the values of the other fields are floats
    let highPrice ← high.field
    let lowPrice ← low.field
    let change := sub latestClose openPrice
    return {
      symbol := specs.symbol
      familyId := specs.familyId
      familyName := specs.familyName
      timeframe
      latestClose
      openPrice
      highPrice
      lowPrice
      changePct := if PyFloat.zero.lt openPrice then ((change.div openPrice).mul (.fin 100)).round 2 else PyFloat.zero
      changeValue := change.round specs.digits
      volume := (volumes.foldl PyFloat.add .zero).round 2
      spread
      atr
      rsi
      sparkline := sparkline.map (·.round specs.digits)
      cacheStatus := if max 120 (tf.seconds * 2) < freshnessAge then .stale else if 50 ≤ loaded.total then .cached else .inPart
      candleCount := loaded.total
      firstCandleTime := first.time
      lastCandleTime := last.time
      freshnessAgeSeconds := pyRound freshnessAge 1
      lastTickTime := loaded.lastTickTime
      lastTickAgeSeconds := tickAge
      provenance := loaded.provenance
      isWatched
      specs }

def getSymbolCard (symbol timeframe : String) : Except PyExc (Option SyntXMarketCard) :=
  if isWeltradeSynthetic symbol then do
    let canonical ← canonical symbol
    let specs ← getWeltradeSymbolSpecs canonical
    let card ← svc.card timeframe specs (svc.loadCandlesForSymbol timeframe canonical)
    return some card
  else .ok none

def wanted (familyFilter search : String) (specs : SyntXSpecs) : Bool :=
  let cleanSearch := CaseMap.lower (strip search)
  let cleanFamily := CaseMap.lower (strip familyFilter)
  (cleanFamily = "all" ∨ specs.familyId = cleanFamily) ∧ (cleanSearch = "" ∨ cleanSearch.toList <:+:
    (CaseMap.lower (specs.symbol ++ " " ++ specs.familyName ++ " " ++ specs.familyId)).toList)

def candidates (familyFilter search : String) : Except PyExc (List SyntXSpecs) := do
  let specs ← supportedWeltradeSyntx.mapM fun sym => do
    let canonical ← canonical sym
    getWeltradeSymbolSpecs canonical
  return specs.filter (wanted familyFilter search)

/-- The overview; families, referral link and the time of the answer are left out. -/
structure SyntXOverview where
  timeframe : String
  totalInstruments : ℕ
  cachedInstruments : ℕ
  instruments : List SyntXMarketCard

def getSyntxOverview (timeframe familyFilter search : String) : Except PyExc SyntXOverview := do
  let candidates ← candidates familyFilter search
  let candleMap := svc.loadCandlesBatch (candidates.map (·.symbol)) timeframe
  let instruments ← candidates.mapM fun specs => svc.card timeframe specs (candleMap specs.symbol)
  return ⟨timeframe, supportedWeltradeSyntx.length, instruments.countP (fun card => card.cacheStatus ≠ .missing), instruments⟩

end Service

end

/-! ### The rows that make a card -/

theorem exists_bind_ok {ε α β : Type} {x : Except ε α} {f : α → Except ε β} :
    (∃ b, x >>= f = .ok b) ↔ ∃ a, x = .ok a ∧ ∃ b, f a = .ok b := by
  constructor
  · rintro ⟨b, h⟩
    obtain ⟨a, ha, hb⟩ := bind_ok h
    exact ⟨a, ha, b, hb⟩
  · rintro ⟨a, rfl, b, hb⟩
    exact ⟨b, hb⟩

theorem exists_mapM_ok {ε α β : Type} {f : α → Except ε β} {l : List α} :
    (∃ r, l.mapM f = .ok r) ↔ ∀ x ∈ l, ∃ y, f x = .ok y := by
  induction l with
  | nil => exact ⟨fun _ x hx => absurd hx not_mem_nil, fun _ => ⟨[], rfl⟩⟩
  | cons x l ih =>
    rw [mapM_cons]
    simp only [exists_bind_ok, pure, Except.pure, Except.ok.injEq, exists_eq', and_true, exists_and_right, ih,
      forall_mem_cons]

def Cell.IsNum (c : Cell) : Prop := ∃ x, c = .num x

theorem exists_number {c : Cell} : (∃ x, c.number = .ok x) ↔ c.IsNum := by
  unfold Cell.IsNum
  cases c <;> simp [Cell.number]

theorem exists_rsi {candles : List Candle} :
    (∃ r, calculateQuickRsi candles = .ok r) ↔ (14 < candles.length → ∀ c ∈ candles, c.close.IsNum) := by
  unfold calculateQuickRsi
  by_cases h : candles.length ≤ 14
  · rw [if_pos h]
    exact ⟨fun _ h' => absurd h (not_le.2 h'), fun _ => ⟨none, rfl⟩⟩
  · rw [if_neg h, exists_bind_ok]
    simp only [pure, Except.pure, Except.ok.injEq, exists_eq', and_true, exists_mapM_ok, exists_number, not_le.1 h, true_imp_iff]

theorem exists_atr {candles : List Candle} : (∃ r, calculateQuickAtr candles = .ok r) ↔ (14 < candles.length →
    (∀ c ∈ candles.tail, c.high.IsNum) ∧ (∀ c ∈ candles.tail, c.low.IsNum) ∧ ∀ c ∈ candles.dropLast, c.close.IsNum) := by
  unfold calculateQuickAtr
  by_cases h : candles.length ≤ 14
  · rw [if_pos h]
    exact ⟨fun _ h' => absurd h (not_le.2 h'), fun _ => ⟨none, rfl⟩⟩
  · rw [if_neg h]
    simp only [exists_bind_ok, pure, Except.pure, Except.ok.injEq, exists_eq', and_true, exists_and_right, exists_mapM_ok,
      exists_number, not_le.1 h, true_imp_iff]

theorem exists_spread {digits : ℕ} {spread : Option (Cell × Cell)} :
    (∃ r, spreadOf digits spread = .ok r) ↔ ∀ s ∈ spread, s.1.IsNum ∧ s.2.IsNum := by
  cases spread with
  | none => exact ⟨fun _ _ h => (nomatch h), fun _ => ⟨none, rfl⟩⟩
  | some s =>
    simp only [spreadOf, exists_bind_ok, pure, Except.pure, Except.ok.injEq, exists_eq', and_true, exists_and_right,
      exists_number, Option.mem_def, Option.some.injEq, forall_eq']

theorem closes_of_last {candles : List Candle} (hlast : ∀ c ∈ lastN 20 candles, c.close.IsNum)
    (hrsi : 14 < candles.length → ∀ c ∈ candles, c.close.IsNum) : ∀ c ∈ candles, c.close.IsNum := by
  by_cases h : 14 < candles.length
  · exact hrsi h
  · unfold lastN at hlast
    rwa [show candles.length - 20 = 0 by omega] at hlast

theorem mem_of_lastN {α : Type} {n : ℕ} {xs : List α} {x : α} (h : x ∈ lastN n xs) : x ∈ xs := mem_of_mem_drop h

namespace Service

variable [PyUnicode] [TextReads] (svc : Service)

/-- **Rows that make a card**: the prices that are reckoned with are numbers, the others are of one kind and read as floats,
and the times are dates. -/
structure Presentable (timeframe : String) (l : Loaded) : Prop where
  closes : ∀ c ∈ l.candles, c.close.IsNum
  openPrice : ∀ c ∈ l.candles.head?, c.open_.IsNum
  highest : ∃ x, extreme (fun m x => m.lt x) (l.candles.map (·.high)) = .ok x ∧ ∃ y, x.field = .ok y
  lowest : ∃ x, extreme (fun m x => x.lt m) (l.candles.map (·.low)) = .ok x ∧ ∃ y, x.field = .ok y
  ranges : 14 < l.candles.length → ∀ c ∈ l.candles.tail, c.high.IsNum ∧ c.low.IsNum
  volumes : ∀ c ∈ lastN 10 l.candles, c.volume.orZero.IsNum
  spread : ∀ c ∈ l.candles.getLast?, ∀ s ∈ c.spread, s.1.IsNum ∧ s.2.IsNum
  times : ∃ tf, timeframeOf timeframe = .ok tf ∧ ∀ c ∈ l.candles.getLast?, ∃ a, age svc.now tf.seconds c.time = .ok a
  tick : ∃ a, tickAge svc.now l.lastTickTime = .ok a

theorem card_ok_iff {timeframe : String} {specs : SyntXSpecs} {l : Loaded} (hl : l.candles ≠ []) :
    (∃ k, svc.card timeframe specs l = .ok k) ↔ svc.Presentable timeframe l := by
  obtain ⟨candles, total, provenance, lastTickTime⟩ := l
  obtain ⟨first, rest, rfl⟩ := exists_cons_of_ne_nil hl
  have hlast := getLast?_eq_some_getLast (cons_ne_nil first rest)
  simp only [card, exists_bind_ok, pure, Except.pure, Except.ok.injEq, exists_eq', and_true, exists_and_right,
    exists_mapM_ok, exists_number, exists_rsi, exists_atr, exists_spread]
  constructor
  · rintro ⟨-, hopen, high, hhigh, low, hlow, hvolumes, hspread, hatr, hrsi, hsparkline, tf, htf, hage, htick, hfield, hfield'⟩
    have hcloses := closes_of_last hsparkline hrsi
    refine ⟨hcloses, ?_, ⟨high, hhigh, hfield⟩, ⟨low, hlow, hfield'⟩, fun h c hc => ?_, hvolumes, ?_, ⟨tf, htf, ?_⟩, htick⟩
    · exact fun c hc => (Option.some.inj hc : first = c) ▸ hopen
    · exact ⟨(hatr h).1 c hc, (hatr h).2.1 c hc⟩
    · rw [hlast]
      exact fun c hc => Option.some.inj hc ▸ hspread
    · rw [hlast]
      exact fun c hc => Option.some.inj hc ▸ hage
  · rintro ⟨hcloses, hopen, ⟨high, hhigh, hfield⟩, ⟨low, hlow, hfield'⟩, hranges, hvolumes, hspread, ⟨tf, htf, hage⟩, htick⟩
    rw [hlast] at hspread hage
    exact ⟨hcloses _ (getLast_mem _), hopen first rfl, high, hhigh, low, hlow, hvolumes, hspread _ rfl,
      fun h => ⟨fun c hc => (hranges h c hc).1, fun c hc => (hranges h c hc).2,
        fun c hc => hcloses c (mem_of_mem_dropLast hc)⟩, fun _ => hcloses, fun c hc => hcloses c (mem_of_lastN hc),
      tf, htf, hage _ rfl, htick, hfield, hfield'⟩

theorem card_provenance {timeframe : String} {specs : SyntXSpecs} {l : Loaded} {k : SyntXMarketCard}
    (h : svc.card timeframe specs l = .ok k) (hl : l.candles = [] → l = unavailable) :
    k.symbol = specs.symbol ∧ k.provenance = l.provenance := by
  unfold card at h
  dsimp only at h
  split at h
  · next hnil =>
    cases h
    rw [hl hnil]
    exact ⟨rfl, rfl⟩
  · iterate 14 obtain ⟨_, -, h⟩ := bind_ok h
    cases h
    exact ⟨rfl, rfl⟩

end Service

/-! ### What a batch finds -/

section

variable (read : String → Except PyExc (Option Loaded))

def Readable (c : String) : Bool := (read c).isOk

def foundBy (c : String) : Option Loaded := (read c).toOption.join

theorem readable_of_found {read : String → Except PyExc (Option Loaded)} {c : String} {l : Loaded}
    (h : foundBy read c = some l) : Readable read c = true := by
  unfold foundBy Readable at *
  cases hread : read c with
  | error e =>
    rw [hread] at h
    cases h
  | ok found => rfl

theorem readEach_found (cs : List String) (c : String) :
    (readEach read cs).found.lookup c = if c ∈ cs.takeWhile (Readable read) then foundBy read c else none := by
  induction cs with
  | nil => rfl
  | cons d cs ih =>
    unfold readEach
    cases hread : read d with
    | error e =>
      rw [takeWhile_cons_of_neg (by rw [Readable, hread]; exact Bool.false_ne_true)]
      rfl
    | ok found =>
      rw [takeWhile_cons_of_pos (by rw [Readable, hread]; rfl)]
      have hd : foundBy read d = found := by
        rw [foundBy, hread]
        rfl
      by_cases hc : c = d
      · subst hc
        rw [if_pos mem_cons_self, hd]
        cases found with
        | some l => exact lookup_cons_self
        | none =>
          dsimp only
          rw [ih, hd, ite_self]
      · simp only [mem_cons, hc, false_or]
        cases found with
        | some l =>
          dsimp only
          rw [lookup_cons, beq_false_of_ne hc, ih]
        | none => exact ih

theorem readEach_raised (cs : List String) : (readEach read cs).raised = !cs.all (Readable read) := by
  induction cs with
  | nil => rfl
  | cons d cs ih =>
    unfold readEach
    rw [all_cons]
    cases hread : read d with
    | error e =>
      rw [show Readable read d = false by rw [Readable, hread]; rfl]
      rfl
    | ok found =>
      rw [show Readable read d = true by rw [Readable, hread]; rfl, Bool.true_and, ← ih]
      cases found <;> rfl

theorem readEach_missing {cs : List String} (h : cs.all (Readable read) = true) :
    (readEach read cs).missing = cs.filter fun c => (foundBy read c).isNone := by
  induction cs with
  | nil => rfl
  | cons d cs ih =>
    rw [all_cons, Bool.and_eq_true] at h
    unfold readEach
    cases hread : read d with
    | error e =>
      rw [Readable, hread] at h
      cases h.1
    | ok found =>
      have hd : foundBy read d = found := by
        rw [foundBy, hread]
        rfl
      cases found with
      | none => rw [filter_cons_of_pos (by rw [hd]; rfl), ← ih h.2]
      | some l => rw [filter_cons_of_neg (by rw [hd]; exact Bool.false_ne_true), ← ih h.2]

end

theorem found_iff {read : String → Except PyExc (Option Loaded)} {c : String} {l : Loaded} :
    foundBy read c = some l ↔ read c = .ok (some l) := by
  unfold foundBy
  cases read c with
  | error e => exact ⟨nofun, nofun⟩
  | ok found => exact ⟨fun h => congrArg Except.ok h, fun h => Except.ok.inj h⟩

theorem candles_ne_nil {α : Type} {key : α → Cell} {read : α → Except PyExc Candle} {rows : List α} {candles : List Candle}
    (hrows : rows.isEmpty = false) (h : (latest key 35 rows).mapM read = .ok candles) : candles ≠ [] := by
  have hlength := congrArg List.length (mapM_eq_ok.1 h)
  rw [length_map, length_map, latest, lastN, length_drop, length_insertionSort] at hlength
  have hpos := length_pos_iff.2 (isEmpty_eq_false_iff.1 hrows)
  exact length_pos_iff.1 (by omega)

namespace Service

variable [PyUnicode] (svc : Service)

def lookedFor (timeframe : String) (cands : List String) : List String :=
  if cands.all (Readable (svc.fromHistory timeframe)) then
    cands.filter fun c => (foundBy (svc.fromHistory timeframe) c).isNone
  else cands

theorem loadCandlesBatch_eq (cands : List String) (timeframe c : String) : svc.loadCandlesBatch cands timeframe c =
    ((if c ∈ (svc.lookedFor timeframe cands).takeWhile (Readable (svc.fromShadow timeframe)) then
        foundBy (svc.fromShadow timeframe) c else none).or
      (if c ∈ cands.takeWhile (Readable (svc.fromHistory timeframe)) then
        foundBy (svc.fromHistory timeframe) c else none)).getD unavailable := by
  unfold loadCandlesBatch lookedFor
  dsimp only
  rw [readEach_found, readEach_found, readEach_raised]
  cases hall : cands.all (Readable (svc.fromHistory timeframe)) with
  | true => rw [← readEach_missing _ hall]; rfl
  | false => rfl

/-- **The rows of a symbol alone.** -/
def ownRows (timeframe c : String) : Loaded :=
  ((foundBy (svc.fromHistory timeframe) c).or (foundBy (svc.fromShadow timeframe) c)).getD unavailable

theorem loadCandlesForSymbol_eq (timeframe c : String) : svc.loadCandlesForSymbol timeframe c = svc.ownRows timeframe c := by
  unfold loadCandlesForSymbol ownRows
  rw [loadCandlesBatch_eq]
  unfold lookedFor
  have hmem : ∀ (read : String → Except PyExc (Option Loaded)) {cs : List String}, c ∈ cs → (∀ d ∈ cs, d = c) →
      (if c ∈ cs.takeWhile (Readable read) then foundBy read c else none) = foundBy read c := by
    intro read cs hc hcs
    cases hfound : foundBy read c with
    | none => exact ite_self _
    | some l =>
      rw [takeWhile_eq_self_iff.2 fun d hd => (hcs d hd) ▸ readable_of_found hfound, if_pos hc]
  have hsingle : ∀ d ∈ [c], d = c := fun d => mem_singleton.1
  rw [hmem _ (mem_singleton_self c) hsingle]
  cases hfound : foundBy (svc.fromHistory timeframe) c with
  | none =>
    have hlooked : (if [c].all (Readable (svc.fromHistory timeframe)) then
        [c].filter fun c => (foundBy (svc.fromHistory timeframe) c).isNone else [c]) = [c] := by
      rw [filter_cons_of_pos (by rw [hfound]; rfl), filter_nil, ite_self]
    rw [hlooked, hmem _ (mem_singleton_self c) hsingle, Option.or_none, Option.none_or]
  | some l =>
    have hlooked : (if [c].all (Readable (svc.fromHistory timeframe)) then
        [c].filter fun c => (foundBy (svc.fromHistory timeframe) c).isNone else [c]) = [] := by
      rw [if_pos (by simp [readable_of_found hfound]), filter_cons_of_neg (by rw [hfound]; exact Bool.false_ne_true)]
      rfl
    rw [hlooked]
    rfl

/-- **The neighbours of a symbol leave it its archive**: an exception over the history of one neither comes before its own
history is read nor has it looked for in the shadow archive, and where it is looked for there no earlier exception ends it. -/
def Undisturbed (timeframe : String) (cands : List String) (c : String) : Prop :=
  match foundBy (svc.fromHistory timeframe) c with
  | some _ => cands.all (Readable (svc.fromHistory timeframe)) = false →
      c ∈ cands.takeWhile (Readable (svc.fromHistory timeframe)) ∧
        (foundBy (svc.fromShadow timeframe) c = none ∨ c ∉ cands.takeWhile (Readable (svc.fromShadow timeframe)))
  | none => foundBy (svc.fromShadow timeframe) c ≠ none →
      c ∈ (svc.lookedFor timeframe cands).takeWhile (Readable (svc.fromShadow timeframe))

/-- **A symbol whose shadow rows the batch takes in place of its history.** -/
def Displaced (timeframe : String) (cands : List String) (c : String) (l : Loaded) : Prop :=
  (foundBy (svc.fromHistory timeframe) c).isSome = true ∧ foundBy (svc.fromShadow timeframe) c = some l ∧
    c ∈ (svc.lookedFor timeframe cands).takeWhile (Readable (svc.fromShadow timeframe))

variable {timeframe c : String} {cands : List String}

theorem fromHistory_found {l : Loaded} (h : foundBy (svc.fromHistory timeframe) c = some l) :
    l.provenance = "Weltrade MT5 terminal" ∧ l.candles ≠ [] := by
  replace h := found_iff.1 h
  unfold fromHistory HistoryFile.read at h
  split at h
  · cases h
  · split at h
    · cases h
    · dsimp only at h
      split at h
      · cases h
      · next hrows =>
        obtain ⟨candles, hcandles, h⟩ := bind_ok h
        obtain ⟨tickTime, -, h⟩ := bind_ok h
        cases h
        exact ⟨rfl, candles_ne_nil (Bool.eq_false_iff.2 hrows) hcandles⟩

theorem fromShadow_found {l : Loaded} (h : foundBy (svc.fromShadow timeframe) c = some l) :
    l.provenance = "Weltrade MT5 shadow archive" ∧ l.candles ≠ [] := by
  replace h := found_iff.1 h
  unfold fromShadow ShadowFile.read at h
  split at h
  · cases h
  · split at h
    · cases h
    · obtain ⟨names, -, h⟩ := bind_ok h
      split at h
      · cases h
      · dsimp only at h
        split at h
        · cases h
        · next hrows =>
          obtain ⟨candles, hcandles, h⟩ := bind_ok h
          cases h
          exact ⟨rfl, candles_ne_nil (Bool.eq_false_iff.2 hrows) hcandles⟩

/-- **The batch has for an undisturbed symbol what it has alone, and for another one less or what displaces it.** -/
theorem loadCandlesBatch_cases (hc : c ∈ cands) :
    svc.Undisturbed timeframe cands c ∧ svc.loadCandlesBatch cands timeframe c = svc.ownRows timeframe c ∨
      ¬svc.Undisturbed timeframe cands c ∧
        (svc.loadCandlesBatch cands timeframe c).provenance ≠ (svc.ownRows timeframe c).provenance ∧
        (svc.loadCandlesBatch cands timeframe c = unavailable ∨
          svc.Displaced timeframe cands c (svc.loadCandlesBatch cands timeframe c)) := by
  rw [loadCandlesBatch_eq]
  unfold ownRows Undisturbed Displaced
  cases hfound : foundBy (svc.fromHistory timeframe) c with
  | none =>
    rw [ite_self, Option.or_none, Option.none_or]
    dsimp only
    cases hshadow : foundBy (svc.fromShadow timeframe) c with
    | none => exact .inl ⟨fun h => absurd rfl h, by rw [ite_self]⟩
    | some l =>
      by_cases hlooked : c ∈ (svc.lookedFor timeframe cands).takeWhile (Readable (svc.fromShadow timeframe))
      · rw [if_pos hlooked]
        exact .inl ⟨fun _ => hlooked, rfl⟩
      · rw [if_neg hlooked]
        refine .inr ⟨fun h => hlooked (h (Option.some_ne_none l)), ?_, .inl rfl⟩
        rw [show ((some l).getD unavailable).provenance = _ from (svc.fromShadow_found hshadow).1]
        exact of_decide_eq_true rfl
  | some l =>
    have hprovenance := (svc.fromHistory_found hfound).1
    rw [show ((some l).or (foundBy (svc.fromShadow timeframe) c)).getD unavailable = l from rfl]
    dsimp only
    unfold lookedFor
    cases hall : cands.all (Readable (svc.fromHistory timeframe)) with
    | true =>
      have hmiss : c ∉ cands.filter fun c => (foundBy (svc.fromHistory timeframe) c).isNone := fun h => by
        rw [mem_filter, hfound] at h
        cases h.2
      rw [if_pos rfl, if_neg fun h => hmiss ((takeWhile_sublist _).mem h),
        takeWhile_eq_self_iff.2 (all_eq_true.1 hall), if_pos hc]
      exact .inl ⟨fun h => absurd h Bool.noConfusion, rfl⟩
    | false =>
      rw [if_neg Bool.false_ne_true]
      have hunavailable : unavailable.provenance ≠ l.provenance := by
        rw [hprovenance]
        exact of_decide_eq_true rfl
      by_cases hlooked : foundBy (svc.fromShadow timeframe) c = none ∨ c ∉ cands.takeWhile (Readable (svc.fromShadow timeframe))
      · have hnone : (if c ∈ cands.takeWhile (Readable (svc.fromShadow timeframe)) then
            foundBy (svc.fromShadow timeframe) c else none) = none := by
          rcases hlooked with h | h
          · rw [h, ite_self]
          · rw [if_neg h]
        rw [hnone, Option.none_or]
        by_cases hread : c ∈ cands.takeWhile (Readable (svc.fromHistory timeframe))
        · rw [if_pos hread]
          exact .inl ⟨fun _ => ⟨hread, hlooked⟩, rfl⟩
        · rw [if_neg hread]
          exact .inr ⟨fun h => hread (h rfl).1, hunavailable, .inl rfl⟩
      · rw [not_or, not_not] at hlooked
        obtain ⟨l', hshadow⟩ := Option.ne_none_iff_exists'.1 hlooked.1
        rw [if_pos hlooked.2, hshadow]
        refine .inr ⟨fun h => ?_, ?_, .inr ⟨rfl, rfl, hlooked.2⟩⟩
        · rcases (h rfl).2 with hnone | hlate
          · exact absurd hnone (Option.some_ne_none l')
          · exact hlate hlooked.2
        · rw [show (((some l').or _).getD unavailable).provenance = _ from (svc.fromShadow_found hshadow).1, hprovenance]
          exact of_decide_eq_true rfl

theorem loadCandlesBatch_undisturbed (hc : c ∈ cands) (h : svc.Undisturbed timeframe cands c) :
    svc.loadCandlesBatch cands timeframe c = svc.ownRows timeframe c := by
  rcases svc.loadCandlesBatch_cases hc with ⟨-, heq⟩ | ⟨hnot, -⟩
  · exact heq
  · exact absurd h hnot

theorem loadCandlesBatch_displaced {l : Loaded} (h : svc.Displaced timeframe cands c l) :
    svc.loadCandlesBatch cands timeframe c = l := by
  obtain ⟨-, hfound, hlooked⟩ := h
  rw [loadCandlesBatch_eq, if_pos hlooked, hfound]
  rfl

theorem ownRows_nil (h : (svc.ownRows timeframe c).candles = []) : svc.ownRows timeframe c = unavailable := by
  unfold ownRows at *
  cases hfound : foundBy (svc.fromHistory timeframe) c with
  | some l =>
    rw [hfound] at h
    exact absurd h (svc.fromHistory_found hfound).2
  | none =>
    rw [hfound, Option.none_or] at h
    rw [Option.none_or]
    cases hshadow : foundBy (svc.fromShadow timeframe) c with
    | some l =>
      rw [hshadow] at h
      exact absurd h (svc.fromShadow_found hshadow).2
    | none => rfl

theorem loadCandlesBatch_nil (hc : c ∈ cands) (h : (svc.loadCandlesBatch cands timeframe c).candles = []) :
    svc.loadCandlesBatch cands timeframe c = unavailable := by
  rcases svc.loadCandlesBatch_cases hc with ⟨-, heq⟩ | ⟨-, -, heq | hdisplaced⟩
  · rw [heq] at h ⊢
    exact svc.ownRows_nil h
  · exact heq
  · exact absurd h (svc.fromShadow_found hdisplaced.2.1).2

end Service

/-! ### The supported symbols -/

def supportedNames : List Name :=
  [(false, Family.fxVol, ["20", "40", "60", "80", "99"]), (false, .sfxVol, ["20", "40", "60", "80", "99"]),
    (false, .painX, ["400", "600", "800", "999", "1200"]), (true, .painX, ["1000", "2000"]),
    (false, .gainX, ["400", "600", "800", "999", "1200"]), (true, .gainX, ["1000", "2000"]),
    (false, .flipX, ["1", "2", "3", "4", "5"]), (false, .switchX, ["600", "1200", "1800"]),
    (false, .breakX, ["600", "1200", "1800"]), (false, .fiboX, [""])].flatMap fun e => e.2.2.map fun number =>
      ⟨e.1, e.2.1, number.toList⟩

theorem supported_eq : supportedWeltradeSyntx = supportedNames.map Name.title := by decide +kernel

theorem supported_canonical [PyUnicode] {symbol : String} (h : symbol ∈ supportedWeltradeSyntx) :
    isWeltradeSynthetic symbol = true ∧ canonicalWeltradeSymbol symbol = .ok symbol := by
  have hall : ∀ n ∈ supportedNames, (if n.family = .fiboX then n.number = [] else n.number ≠ [] ∧ n.number.all Char.isDigit = true) ∧
      (n.max = true → n.family = .painX ∨ n.family = .gainX) := by
    decide +kernel
  rw [supported_eq] at h
  obtain ⟨n, hn, rfl⟩ := mem_map.1 h
  obtain ⟨hnumber, hprefix⟩ := hall n hn
  refine (reads_title ?_ hprefix).title_canonical
  split
  · next hfamily => rwa [if_pos hfamily] at hnumber
  · next hfamily =>
    rw [if_neg hfamily] at hnumber
    exact ⟨hnumber.1, fun c hc => isDecimal_of_isDigit (all_eq_true.1 hnumber.2 c hc)⟩

section

variable [PyUnicode]

def supportedSpecs (symbol : String) : SyntXSpecs := specsOf symbol (familyOf symbol)

theorem supportedSpecs_symbol (symbol : String) : (supportedSpecs symbol).symbol = symbol := by
  unfold supportedSpecs specsOf
  dsimp only
  split
  · rfl
  · split <;> rfl

theorem canonical_supported {symbol : String} (h : symbol ∈ supportedWeltradeSyntx) : canonical symbol = .ok symbol := by
  unfold canonical
  rw [(supported_canonical h).2]

theorem specs_supported {symbol : String} (h : symbol ∈ supportedWeltradeSyntx) :
    getWeltradeSymbolSpecs symbol = .ok (supportedSpecs symbol) := by
  unfold getWeltradeSymbolSpecs
  rw [canonical_supported h, ok_bind, canonical_supported h, ok_bind]
  rfl

namespace Service

def scanned (familyFilter search : String) : List String :=
  supportedWeltradeSyntx.filter fun symbol => wanted familyFilter search (supportedSpecs symbol)

theorem candidates_eq (familyFilter search : String) :
    candidates familyFilter search = .ok ((scanned familyFilter search).map supportedSpecs) := by
  have hspecs : ∀ symbol ∈ supportedWeltradeSyntx, (do
      let canonical ← canonical symbol
      getWeltradeSymbolSpecs canonical) = .ok (supportedSpecs symbol) := by
    intro symbol h
    rw [canonical_supported h, ok_bind, specs_supported h]
  unfold candidates
  rw [mapM_ok hspecs, ok_bind, filter_map]
  rfl

variable [TextReads] (svc : Service)

theorem getSymbolCard_eq {symbol : String} (h : symbol ∈ supportedWeltradeSyntx) (timeframe : String) :
    svc.getSymbolCard symbol timeframe =
      (svc.card timeframe (supportedSpecs symbol) (svc.ownRows timeframe symbol)).map some := by
  unfold getSymbolCard
  rw [if_pos (supported_canonical h).1, canonical_supported h, ok_bind, specs_supported h, ok_bind, loadCandlesForSymbol_eq]
  cases svc.card timeframe (supportedSpecs symbol) (svc.ownRows timeframe symbol) <;> rfl

/-- **The overview agrees with the single cards**: it shows of a symbol what its card alone shows, and where it raises so
does the card of every symbol it would show. -/
def Agrees (timeframe familyFilter search : String) : Prop :=
  match svc.getSyntxOverview timeframe familyFilter search with
  | .ok overview => ∀ k ∈ overview.instruments, svc.getSymbolCard k.symbol timeframe = .ok (some k)
  | .error _ => ∀ cands, candidates familyFilter search = .ok cands →
      ∀ specs ∈ cands, ∃ e, svc.getSymbolCard specs.symbol timeframe = .error e

def Shows (timeframe : String) (l : Loaded) : Prop := l.candles ≠ [] → svc.Presentable timeframe l

theorem card_shows {timeframe : String} (specs : SyntXSpecs) {l : Loaded} :
    (∃ k, svc.card timeframe specs l = .ok k) ↔ svc.Shows timeframe l := by
  by_cases hl : l.candles = []
  · refine ⟨fun _ h => absurd hl h, fun _ => ?_⟩
    unfold card
    rw [hl]
    exact ⟨_, rfl⟩
  · exact (svc.card_ok_iff hl).trans ⟨fun h _ => h, fun h => h hl⟩

theorem getSyntxOverview_eq (timeframe familyFilter search : String) :
    svc.getSyntxOverview timeframe familyFilter search = (do
      let instruments ← (scanned familyFilter search).mapM fun c =>
        svc.card timeframe (supportedSpecs c) (svc.loadCandlesBatch (scanned familyFilter search) timeframe c)
      return ⟨timeframe, supportedWeltradeSyntx.length, instruments.countP (fun card => card.cacheStatus ≠ .missing),
        instruments⟩) := by
  unfold getSyntxOverview
  rw [candidates_eq, ok_bind, map_map]
  dsimp only
  rw [mapM_map]
  simp only [Function.comp_def, supportedSpecs_symbol, map_id']

theorem card_error {timeframe : String} {specs : SyntXSpecs} {l : Loaded} :
    (∃ e, (svc.card timeframe specs l).map some = .error e) ↔ ¬svc.Shows timeframe l := by
  rw [← svc.card_shows specs]
  generalize svc.card timeframe specs l = card
  cases card with
  | error e => exact ⟨fun _ ⟨k, hk⟩ => (nomatch hk), fun _ => ⟨e, rfl⟩⟩
  | ok k => exact ⟨fun ⟨e, he⟩ => (nomatch he), fun h => absurd ⟨k, rfl⟩ h⟩

/-- **The overview agrees with the single cards** if and only if every symbol is undisturbed and its rows make a card, or none
makes a card alone and one that is undisturbed or displaced makes none in the overview either. -/
theorem overview_agrees_iff (timeframe familyFilter search : String) :
    svc.Agrees timeframe familyFilter search ↔
      (∀ c ∈ scanned familyFilter search, svc.Undisturbed timeframe (scanned familyFilter search) c ∧
        svc.Shows timeframe (svc.ownRows timeframe c)) ∨
      (∀ c ∈ scanned familyFilter search, ¬svc.Shows timeframe (svc.ownRows timeframe c)) ∧
        ∃ c ∈ scanned familyFilter search, svc.Undisturbed timeframe (scanned familyFilter search) c ∨
          ∃ l, svc.Displaced timeframe (scanned familyFilter search) c l ∧ ¬svc.Shows timeframe l := by
  have hsupported : ∀ c ∈ scanned familyFilter search, c ∈ supportedWeltradeSyntx := fun c hc => List.mem_of_mem_filter hc
  have hsingle : ∀ c ∈ scanned familyFilter search, svc.getSymbolCard c timeframe =
      (svc.card timeframe (supportedSpecs c) (svc.ownRows timeframe c)).map some := fun c hc =>
    svc.getSymbolCard_eq (hsupported c hc) timeframe
  have hraises : (∀ cands, candidates familyFilter search = .ok cands → ∀ specs ∈ cands, ∃ e,
      svc.getSymbolCard specs.symbol timeframe = .error e) ↔
      ∀ c ∈ scanned familyFilter search, ¬svc.Shows timeframe (svc.ownRows timeframe c) := by
    rw [candidates_eq]
    simp only [Except.ok.injEq, forall_eq', List.forall_mem_map, supportedSpecs_symbol]
    refine forall₂_congr fun c hc => ?_
    rw [hsingle c hc]
    exact svc.card_error
  unfold Agrees
  rw [getSyntxOverview_eq]
  generalize scanned familyFilter search = cands at *
  cases hoverview : cands.mapM fun c =>
      svc.card timeframe (supportedSpecs c) (svc.loadCandlesBatch cands timeframe c) with
  | ok instruments =>
    rw [mapM_eq_ok] at hoverview
    have hcards : ∀ c ∈ cands, ∃ k ∈ instruments,
        svc.card timeframe (supportedSpecs c) (svc.loadCandlesBatch cands timeframe c) = .ok k := by
      intro c hc
      obtain ⟨k, hk, hcard⟩ := List.mem_map.1 (hoverview ▸ List.mem_map_of_mem hc)
      exact ⟨k, hk, hcard.symm⟩
    have hsymbol : ∀ c k, ∀ l, svc.card timeframe (supportedSpecs c) l = .ok k → (l.candles = [] → l = unavailable) →
        k.symbol = c ∧ k.provenance = l.provenance := fun c k l hcard hl => by
      have hcard := svc.card_provenance hcard hl
      rwa [supportedSpecs_symbol] at hcard
    rw [ok_bind]
    constructor
    · intro h
      refine .inl fun c hc => ?_
      obtain ⟨k, hk, hcard⟩ := hcards c hc
      obtain ⟨hk', hprovenance⟩ := hsymbol c k _ hcard (svc.loadCandlesBatch_nil hc)
      have hown := h k hk
      rw [hk', hsingle c hc] at hown
      have hown : svc.card timeframe (supportedSpecs c) (svc.ownRows timeframe c) = .ok k := by
        cases hrows : svc.card timeframe (supportedSpecs c) (svc.ownRows timeframe c) with
        | error e =>
          rw [hrows] at hown
          cases hown
        | ok k' =>
          rw [hrows] at hown
          cases hown
          rfl
      rcases svc.loadCandlesBatch_cases hc with ⟨hundisturbed, -⟩ | ⟨-, hne, -⟩
      · exact ⟨hundisturbed, (svc.card_shows _).1 ⟨k, hown⟩⟩
      · exact absurd (hprovenance.symm.trans (hsymbol c k _ hown svc.ownRows_nil).2) hne
    · rintro (h | ⟨hnone, c, hc, h⟩)
      · intro k hk
        obtain ⟨c, hc, hcard⟩ := List.mem_map.1 (hoverview ▸ List.mem_map_of_mem (f := Except.ok) hk)
        rw [svc.loadCandlesBatch_undisturbed hc (h c hc).1] at hcard
        rw [(hsymbol c k _ hcard svc.ownRows_nil).1, hsingle c hc, hcard]
        rfl
      · obtain ⟨k, -, hcard⟩ := hcards c hc
        rcases h with hundisturbed | ⟨l, hdisplaced, hl⟩
        · rw [svc.loadCandlesBatch_undisturbed hc hundisturbed] at hcard
          exact absurd ((svc.card_shows _).1 ⟨k, hcard⟩) (hnone c hc)
        · rw [svc.loadCandlesBatch_displaced hdisplaced] at hcard
          exact absurd ((svc.card_shows _).1 ⟨k, hcard⟩) hl
  | error e =>
    have hlost : ∃ c ∈ cands, ¬svc.Shows timeframe (svc.loadCandlesBatch cands timeframe c) := by
      by_contra hall
      push Not at hall
      obtain ⟨instruments, hok⟩ := exists_mapM_ok.2 fun c hc => (svc.card_shows (supportedSpecs c)).2 (hall c hc)
      exact nomatch hoverview.symm.trans hok
    obtain ⟨c, hc, hlost⟩ := hlost
    refine hraises.trans ⟨fun h => .inr ⟨h, c, hc, ?_⟩, ?_⟩
    · rcases svc.loadCandlesBatch_cases hc with ⟨hundisturbed, -⟩ | ⟨-, -, hnone | hdisplaced⟩
      · exact .inl hundisturbed
      · rw [hnone] at hlost
        exact absurd (fun h => absurd rfl h) hlost
      · exact .inr ⟨_, hdisplaced, hlost⟩
    · rintro (h | h)
      · rw [svc.loadCandlesBatch_undisturbed hc (h c hc).1] at hlost
        exact absurd (h c hc).2 hlost
      · exact h.1

theorem not_agrees {svc : Service} {timeframe familyFilter search c : String}
    (hcard : (svc.getSymbolCard c timeframe).toOption.join.any (fun k => k.cacheStatus ≠ .missing) = true)
    (hoverview : (svc.getSyntxOverview timeframe familyFilter search).toOption.any (fun o => o.instruments.any fun k =>
      k.symbol = c ∧ k.cacheStatus = .missing) = true) : ¬svc.Agrees timeframe familyFilter search := by
  unfold Agrees
  cases h : svc.getSyntxOverview timeframe familyFilter search with
  | error e =>
    rw [h] at hoverview
    cases hoverview
  | ok o =>
    rw [h] at hoverview
    obtain ⟨k, hk, hshown⟩ := List.any_eq_true.1 (show o.instruments.any _ = true from hoverview)
    obtain ⟨rfl, hmissing⟩ := of_decide_eq_true hshown
    intro hagree
    rw [hagree k hk] at hcard
    exact of_decide_eq_true hcard hmissing

end Service

end

/-! ### A neighbour's milliseconds -/

def minuteRow (symbol : String) (time : ℚ) : CandleRow :=
  let price := .num (.fin 100)
  ⟨.text "weltrade", .text symbol, .text "M1", .num (.fin time), price, price, price, price, .null⟩

/-- The history of two symbols; a time of the first is in milliseconds. -/
def millisecondService : Service where
  history := some ⟨some [minuteRow "MAX PainX 1000" 1000000000000, minuteRow "MAX PainX 2000" 0], none⟩
  shadow := none
  watchedKeys := []
  now := 0

/-- What Python reads in the first moment of 1970. -/
@[reducible] def epochReads : TextReads where
  fromisoformat s := if s = "1970-01-01T00:00:00+00:00" then some (.aware 0) else none
  float _ := none

/-- The overview misses the rows of a symbol whose card alone shows them. -/
theorem overview_millisecond : ¬@Service.Agrees latinUnicode epochReads millisecondService "M1" "max_painx" "" := by
  let _ : PyUnicode := latinUnicode
  let _ : TextReads := epochReads
  refine Service.not_agrees (c := "MAX PainX 2000") ?_ ?_
  · rw [Service.getSymbolCard_eq _ (by decide)]
    decide +kernel
  · rw [Service.getSyntxOverview_eq]
    decide +kernel

end MarketScan
end Jqe
