import Jqe.Csv
import Jqe.PyText
import Jqe.Sha256
import Jqe.ShadowOutcomes
/-!
# Dataset — a frozen bundle of candles and its manifest (`data/dataset.py`)

Export verifies the manifest against the candles and writes a CSV text and a manifest payload; load reads both, checks
each row, restores the sources and verifies again.  In the CSV text the text of a float or of a moment is one symbol,
which reads back as what it was written from.  The manifest's JSON text stands for the payload it spells.
-/
namespace Jqe

/-- **The Python around the code**: whether its `csv.writer` quotes a carriage return (that differs with the version),
its local zone, and `repr` of a finite float. -/
class Dataset.Host where
  quotesReturn : Bool
  localInstant : ℤ → ℤ
  repr : ℚ → String

/-- The instant of `x.astimezone(timezone.utc)`; a naive time is taken as local. -/
def PyDatetime.utc [Dataset.Host] : PyDatetime → ℤ
  | aware t => t
  | naive t => Dataset.Host.localInstant t

namespace Dataset

structure Candle where
  time : PyDatetime
  open_ : PyFloat
  high : PyFloat
  low : PyFloat
  close : PyFloat
  volume : Option PyFloat
  source : String
  deriving DecidableEq

structure CandleDatasetManifest where
  provider : String
  source : String
  providerSymbol : String
  canonicalSymbol : String
  timeframe : Timeframe
  granularitySeconds : ℤ
  firstCandle : PyDatetime
  lastCandle : PyDatetime
  candleCount : ℤ
  volumeAvailable : Bool
  retrievedAt : PyDatetime
  contentHash : String
  deriving DecidableEq

/-- Raises unless a check holds. -/
def require (check : Bool) (message : String) : Except PyExc Unit :=
  if check then .ok () else .error (.exception message)

@[simp] theorem require_eq_ok {check : Bool} {message : String} : require check message = .ok () ↔ check = true := by
  unfold require
  cases check <;> simp

theorem require_bind {β : Type} {check : Bool} {message : String} {f : Unit → Except PyExc β} {b : β} :
    (require check message >>= f) = .ok b ↔ check = true ∧ f () = .ok b := by
  unfold require
  cases check
  · simp [bind, Except.bind]
  · simp [bind, Except.bind]

def isoformatMicroseconds (t : ℤ) : String :=
  String.ofList ((isoformat (t / 1000000)).toList.take 19) ++ "." ++ padded 6 (t % 1000000) ++ "+00:00"

section Hash

variable [Host]

def reprFloat : PyFloat → String
  | .fin q => Host.repr q
  | .posInf => "inf"
  | .negInf => "-inf"
  | .nan => "nan"

def jsonFloat : PyFloat → String
  | .fin q => Host.repr q
  | .posInf => "Infinity"
  | .negInf => "-Infinity"
  | .nan => "NaN"

def candleJson (c : Candle) : String :=
  "\x7b\"close\":" ++ jsonFloat c.close ++ ",\"high\":" ++ jsonFloat c.high ++ ",\"low\":" ++ jsonFloat c.low ++
    ",\"open\":" ++ jsonFloat c.open_ ++ ",\"source\":" ++ jsonString c.source ++ ",\"time\":" ++
    jsonString (isoformatMicroseconds c.time.utc) ++ ",\"volume\":" ++ c.volume.elim "null" jsonFloat ++ "\x7d"

def candleContentHash (candles : List Candle) : String :=
  "sha256:" ++ Sha256.hexdigest (("[" ++ ",".intercalate (candles.map candleJson) ++ "]").toList.map Char.toNat)

end Hash

/-- `any(current.time <= previous.time for previous, current in zip(ordered, ordered[1:]))`. -/
def unordered : List PyDatetime → Except PyExc Bool
  | previous :: current :: times => do
    if ← current.le previous then return true else unordered (current :: times)
  | _ => .ok false

section Verify

variable [Host]

def buildDatasetManifest (provider source providerSymbol canonicalSymbol : String) (timeframe : Timeframe)
    (retrievedAt : PyDatetime) : List Candle → Except PyExc CandleDatasetManifest
  | [] => .error (.exception "Cannot manifest an empty historical dataset")
  | head :: rest => do
    let ordered := head :: rest
    require ([provider, source, providerSymbol, canonicalSymbol].all fun value => !blank value)
      "Historical dataset manifest field is required"
    let late ← unordered (ordered.map Candle.time)
    require (!late) "Historical dataset timestamps must be strictly increasing"
    require (!retrievedAt.isNaive) "Dataset retrieval timestamp must be timezone-aware"
    let first := head.time
    let last := (ordered.getLast (List.cons_ne_nil head rest)).time
    require (!(first.isNaive || last.isNaive)) "Historical candle timestamps must be timezone-aware"
    return { provider := strip provider, source := strip source, providerSymbol := strip providerSymbol,
             canonicalSymbol := strip canonicalSymbol, timeframe := timeframe,
             granularitySeconds := timeframe.seconds, firstCandle := .aware first.utc, lastCandle := .aware last.utc,
             candleCount := ordered.length, volumeAvailable := ordered.all fun c => c.volume.isSome,
             retrievedAt := .aware retrievedAt.utc, contentHash := candleContentHash ordered }

def verifyDatasetManifest (manifest : CandleDatasetManifest) : List Candle → Except PyExc Unit
  | [] => .error (.exception "Historical dataset cannot be verified because it is empty")
  | head :: rest => do
    let ordered := head :: rest
    let late ← unordered (ordered.map Candle.time)
    require (!late) "Historical dataset verification requires strictly increasing timestamps"
    require (manifest.granularitySeconds == manifest.timeframe.seconds)
      "Historical dataset manifest granularity is inconsistent"
    require ((ordered.length : ℤ) == manifest.candleCount) "Historical dataset candle count does not match manifest"
    let first := head.time
    let last := (ordered.getLast (List.cons_ne_nil head rest)).time
    require (!(first.isNaive || last.isNaive)) "Historical dataset verification requires timezone-aware timestamps"
    -- an aware time is never equal to a naive one
    require (.aware first.utc == manifest.firstCandle) "Historical dataset first candle does not match manifest"
    require (.aware last.utc == manifest.lastCandle) "Historical dataset last candle does not match manifest"
    require ((ordered.all fun c => c.volume.isSome) == manifest.volumeAvailable)
      "Historical dataset volume availability does not match manifest"
    require (candleContentHash ordered == manifest.contentHash)
      "Historical dataset content hash does not match manifest"

end Verify

inductive CsvSymbol where
  | char (c : Char)
  | number (x : PyFloat)
  | moment (t : PyDatetime)
  deriving DecidableEq

def alphabet : Csv.Alphabet CsvSymbol where
  comma := .char ','
  quote := .char '"'
  lineFeed := .char '\n'
  carriageReturn := .char '\r'
  comma_ne_quote := by decide
  comma_ne_lineFeed := by decide
  comma_ne_carriageReturn := by decide
  quote_ne_lineFeed := by decide
  quote_ne_carriageReturn := by decide

abbrev Cell := List CsvSymbol

def text (s : String) : Cell := s.toList.map .char

def fieldSizeLimit : ℕ := 131072

def header : List Cell := ["time", "open", "high", "low", "close", "volume", "source"].map text

structure ManifestPayload where
  schemaVersion : ℤ
  provider : String
  source : String
  providerSymbol : String
  canonicalSymbol : String
  timeframe : String
  granularitySeconds : ℤ
  firstCandle : PyDatetime
  lastCandle : PyDatetime
  candleCount : ℤ
  volumeAvailable : Bool
  retrievedAt : PyDatetime
  contentHash : String
  deriving DecidableEq

structure BundleFiles where
  candles : List CsvSymbol
  manifest : ManifestPayload

section Export

variable [Host]

def marketCells (c : Candle) : List Cell :=
  [[.moment (.aware c.time.utc)], [.number c.open_], [.number c.high], [.number c.low], [.number c.close],
    c.volume.elim [] fun v => [.number v]]

def candleCells (c : Candle) : List Cell := marketCells c ++ [text c.source]

def csvText (candles : List Candle) : List CsvSymbol :=
  (header :: candles.map candleCells).flatMap (Csv.writeRow alphabet Host.quotesReturn)

def writeCandleCsv (ordered : List Candle) : Except PyExc (List CsvSymbol) := do
  require (!ordered.isEmpty) "Historical dataset cannot be exported because it is empty"
  let late ← unordered (ordered.map Candle.time)
  require (!late) "Historical dataset export requires strictly increasing timestamps"
  require (ordered.all fun c => !c.time.isNaive) "Historical dataset export requires timezone-aware timestamps"
  return csvText ordered

def saveDatasetManifest (m : CandleDatasetManifest) : ManifestPayload where
  schemaVersion := 1
  provider := m.provider
  source := m.source
  providerSymbol := m.providerSymbol
  canonicalSymbol := m.canonicalSymbol
  timeframe := m.timeframe.value
  granularitySeconds := m.granularitySeconds
  firstCandle := .aware m.firstCandle.utc
  lastCandle := .aware m.lastCandle.utc
  candleCount := m.candleCount
  volumeAvailable := m.volumeAvailable
  retrievedAt := .aware m.retrievedAt.utc
  contentHash := m.contentHash

def exportDatasetBundle (candles : List Candle) (manifest : CandleDatasetManifest) : Except PyExc BundleFiles := do
  verifyDatasetManifest manifest candles
  let written ← writeCandleCsv candles
  return ⟨written, saveDatasetManifest manifest⟩

end Export

def Timeframe.ofValue? (value : String) : Option Timeframe :=
  [Timeframe.m1, .m5, .m15, .m30, .h1, .h4, .d1].find? fun t => t.value == value

def invalidManifest : PyExc := .exception "Historical dataset manifest is invalid"

def isContentHash (s : String) : Bool :=
  "sha256:".toList.isPrefixOf s.toList && s.toList.length == 71 &&
    (s.toList.drop 7).all fun c => "0123456789abcdef".toList.contains c

def payloadValid [Host] (p : ManifestPayload) (timeframe : Timeframe) : Bool :=
  p.granularitySeconds == timeframe.seconds &&
    !(p.firstCandle.isNaive || p.lastCandle.isNaive || p.retrievedAt.isNaive) &&
    decide (0 < p.candleCount) && decide (p.firstCandle.utc ≤ p.lastCandle.utc) && isContentHash p.contentHash &&
    [p.provider, p.source, p.providerSymbol, p.canonicalSymbol].all fun value => !blank value

def loadDatasetManifest [Host] (p : ManifestPayload) : Except PyExc CandleDatasetManifest :=
  match Timeframe.ofValue? p.timeframe with
  | none => .error invalidManifest
  | some timeframe =>
    if p.schemaVersion = 1 ∧ payloadValid p timeframe = true then
      .ok { provider := strip p.provider, source := strip p.source, providerSymbol := strip p.providerSymbol,
            canonicalSymbol := strip p.canonicalSymbol, timeframe := timeframe,
            granularitySeconds := p.granularitySeconds, firstCandle := .aware p.firstCandle.utc,
            lastCandle := .aware p.lastCandle.utc, candleCount := p.candleCount,
            volumeAvailable := p.volumeAvailable, retrievedAt := .aware p.retrievedAt.utc,
            contentHash := p.contentHash }
    else .error invalidManifest

/-- A row of `csv.DictReader`; a cell is `none` where the row is too short. -/
abbrev DictRow := List (Cell × Option Cell)

def dictRow (fieldnames row : List Cell) : DictRow := fieldnames.zipIdx.map fun name => (name.1, row[name.2]?)

/-- `row.get(name)`: of two equal names the last one counts. -/
def DictRow.get (row : DictRow) (name : String) : Option Cell := (row.reverse.lookup (text name)).join

def dictReader (csv : List CsvSymbol) : Except PyExc (List DictRow) :=
  match Csv.rows alphabet fieldSizeLimit csv with
  | none => .error (.exception "field larger than field limit (131072)")
  | some [] => .ok []
  | some (fieldnames :: rows) => .ok (rows.map (dictRow fieldnames))

def number? : Cell → Option PyFloat
  | [.number x] => some x
  | _ => none

def moment? : Cell → Option PyDatetime
  | [.moment t] => some t
  | _ => none

def pyMax (first : PyFloat) (others : List PyFloat) : PyFloat := others.foldl (fun m x => if m.lt x then x else m) first

def pyMin (first : PyFloat) (others : List PyFloat) : PyFloat := others.foldl (fun m x => if x.lt m then x else m) first

def validPrices (open_ high low close : PyFloat) : Bool :=
  ([open_, high, low, close].all fun value => value.isFinite && PyFloat.zero.lt value) &&
    !high.lt (pyMax open_ [close, low]) && !(pyMin open_ [close, high]).lt low

def validVolume (volume : Option PyFloat) : Bool := volume.all fun value => value.isFinite && !value.lt PyFloat.zero

def readVolume (row : DictRow) : Option (Option PyFloat) :=
  let volumeText := if (row.get "volume").getD [] = [] then row.get "tick_volume" else row.get "volume"
  if volumeText.getD [] = [] then some none else (volumeText.bind number?).map some

def readCandle [Host] (source : String) (row : DictRow) : Option Candle := do
  let time ← (row.get "time").bind moment?
  let open_ ← (row.get "open").bind number?
  let high ← (row.get "high").bind number?
  let low ← (row.get "low").bind number?
  let close ← (row.get "close").bind number?
  let volume ← readVolume row
  if !time.isNaive && validPrices open_ high low close && validVolume volume then
    some ⟨.aware time.utc, open_, high, low, close, volume, source⟩
  else none

def setByTime : List (ℤ × Candle) → ℤ → Candle → List (ℤ × Candle)
  | [], k, c => [(k, c)]
  | (k', c') :: d, k, c => if k' = k then (k, c) :: d else (k', c') :: setByTime d k c

def byTime [Host] (candles : List Candle) : List Candle :=
  ((candles.foldl (fun d c => setByTime d c.time.utc c) []).mergeSort fun a b => decide (a.1 ≤ b.1)).map Prod.snd

def loadCandleCsv [Host] (csv : List CsvSymbol) (source : String) : Except PyExc (List Candle) := do
  require (!blank source) "Historical dataset source is required"
  let rows ← dictReader csv
  match rows.mapM (readCandle source) with
  | none => .error (.exception "Invalid historical candle")
  | some candles => .ok (byTime candles)

section Load

variable [Host]

def cellText (cell : Cell) : String := String.ofList (cell.flatMap fun
  | .char c => [c]
  | .number x => (reprFloat x).toList
  | .moment t => (isoformatMicroseconds t.utc).toList)

def rowSource (row : DictRow) : String := strip (((row.get "source").map cellText).getD "")

def restore (pair : Candle × DictRow) : Except PyExc Candle := do
  require (rowSource pair.2 != "") "Historical dataset bundle candle source is missing"
  return { pair.1 with source := rowSource pair.2 }

def loadDatasetBundle (files : BundleFiles) : Except PyExc (List Candle × CandleDatasetManifest) := do
  let manifest ← loadDatasetManifest files.manifest
  let candles ← loadCandleCsv files.candles manifest.source
  let rows ← dictReader files.candles
  require (rows.length == candles.length) "Historical dataset bundle row count is inconsistent"
  let restored ← (candles.zip rows).mapM restore
  verifyDatasetManifest manifest restored
  return (restored, manifest)

end Load

end Dataset
end Jqe
