import Jqe.CandleStore
import Jqe.WeltradeSymbols
import Mathlib.Data.List.Infix
/-!
# Coverage — which candles a range must hold (`data/coverage.py`)

`validate_historical_coverage` walks the buckets of an inclusive range under the policy of a provider and an instrument.
Weltrade's synthetic indices never close; Deriv's gold has sessions in UTC and in New York's time.
-/
namespace Jqe

open Dataset (Candle)

namespace Coverage

class NewYork where
  wall : ℤ → ℤ

def dayMicros : ℤ := 86400000000

def date (t : ℤ) : ℤ × ℤ × ℤ := civil (t / dayMicros)

def timeOfDay (t : ℤ) : ℤ := t % dayMicros

def weekday (t : ℤ) : ℤ := (t / dayMicros + 3) % 7

def clock (hour minute : ℤ) : ℤ := (hour * 60 + minute) * 60000000

structure HolidaySessionRule where
  name : String
  expectedIntervals : List (ℤ × ℤ)
  deriving DecidableEq

def holidayRules : List ((ℤ × ℤ × ℤ) × HolidaySessionRule) := [
  ((2026, 1, 19), ⟨"Martin Luther King Jr. Day", [(clock 0 0, clock 16 45)]⟩),
  ((2026, 2, 16), ⟨"Presidents Day", [(clock 0 0, clock 16 45)]⟩),
  ((2025, 11, 27), ⟨"Thanksgiving Day", [(clock 0 0, clock 16 45)]⟩),
  ((2025, 11, 28), ⟨"Day After Thanksgiving", [(clock 0 0, clock 21 0)]⟩)]

def earlyCloses : List (ℤ × ℤ × ℤ) := [(2026, 6, 19), (2026, 7, 3), (2026, 9, 7)]

inductive Policy where
  | weltradeSynthetic
  | derivXauUsdM15
  deriving DecidableEq

/-- `DerivXauUsdM15CoveragePolicy.is_candle_expected`. -/
def derivExpected [NewYork] (t : ℤ) : Bool :=
  match holidayRules.lookup (date t) with
  | some holiday => holiday.expectedIntervals.any fun (start, stop) => start ≤ timeOfDay t && timeOfDay t < stop
  | none =>
    if date t ∈ earlyCloses then timeOfDay t ≤ clock 17 0
    else if weekday t = 0 ∧ timeOfDay t < clock 5 0 then true
    else
      let ny := NewYork.wall t
      if weekday ny = 5 then false
      else if weekday ny = 6 then false
      else if weekday ny = 4 then weekday t = 4 && timeOfDay t ≤ clock 20 45
      else timeOfDay ny < clock 17 0 || clock 18 0 ≤ timeOfDay ny

def Policy.isCandleExpected [NewYork] : Policy → ℤ → Bool
  | weltradeSynthetic, _ => true
  | derivXauUsdM15, t => derivExpected t

/-- What the validation raises: a `MarketDataError` with the values of its context, or something else. -/
inductive CoverageError where
  | marketDataError (message : String) (context : List String)
  | other (e : PyExc)
  deriving DecidableEq

def CoverageError.exc : CoverageError → PyExc
  | marketDataError message _ => .exception message
  | other e => e

def unsupportedPolicy : String := "Unsupported historical coverage policy"

/-- `"Unsupported historical coverage policy" in str(exc)`; `str` shows the message, and `repr` of each value. -/
def mentionsUnsupported (message : String) (context : List String) : Bool :=
  (message :: context).any fun text => decide (unsupportedPolicy.toList <:+: text.toList)

section

variable [WeltradeSymbols.PyUnicode]

/-- `require_weltrade_synthetic`, as the validation raises it. -/
def requireSynthetic (symbol : String) : Except CoverageError Unit :=
  match WeltradeSymbols.requireWeltradeSynthetic symbol with
  | .ok _ => .ok ()
  | .error (.marketDataError message named) => .error (.marketDataError message [named])
  | .error (.keyError key) => .error (.other (.exception key))

def providerKey (provider : String) : String := CaseMap.lower (strip provider)

def getCoveragePolicy (provider canonicalSymbol providerSymbol : String) (timeframe : Timeframe) :
    Except CoverageError Policy := do
  if providerKey provider = "weltrade" then
    requireSynthetic canonicalSymbol
    requireSynthetic providerSymbol
    return .weltradeSynthetic
  else if providerKey provider = "deriv" ∧
      String.ofList (WeltradeSymbols.upper (strip canonicalSymbol).toList) = "XAUUSD" ∧
      strip providerSymbol = "frxXAUUSD" ∧ timeframe = .m15 then
    return .derivXauUsdM15
  else throw (.marketDataError unsupportedPolicy [provider, canonicalSymbol, providerSymbol, timeframe.value])

end

structure CoverageValidationResult where
  expectedCount : ℕ
  missingCount : ℕ
  firstMissing : Option ℤ
  legitimateClosedCount : ℕ
  returnedCount : ℕ
  expectedIntersectionReturned : ℕ
  unexpectedReturnedCount : ℕ
  missingExpectedBuckets : List ℤ
  unexpectedReturnedBuckets : List ℤ
  deriving DecidableEq

def CoverageValidationResult.isComplete (r : CoverageValidationResult) : Bool := r.missingCount == 0

def requireUtc : PyDatetime → Except CoverageError ℤ
  | .aware t => .ok t
  | .naive _ => .error (.marketDataError "Historical coverage timestamps must be timezone-aware" [])

def stepMicros (timeframe : Timeframe) : ℤ := timeframe.seconds * 1000000

/-- The values of `current`: `start`, and every step after it up to `stop`. -/
def buckets (start stop step : ℤ) : List ℤ :=
  (List.range ((stop - start) / step + 1).toNat).map fun k : ℕ => start + k * step

def coverageResult [NewYork] (policy : Policy) (walked present : List ℤ) : CoverageValidationResult :=
  let expected := walked.filter policy.isCandleExpected
  let missing := expected.filter fun t => t ∉ present
  let unexpected := (present.filter fun t => t ∉ expected).insertionSort (· ≤ ·)
  { expectedCount := expected.length
    missingCount := missing.length
    firstMissing := missing.head?
    legitimateClosedCount := (walked.filter fun t => !policy.isCandleExpected t).length
    returnedCount := present.length
    expectedIntersectionReturned := (expected.filter fun t => t ∈ present).length
    unexpectedReturnedCount := unexpected.length
    missingExpectedBuckets := missing
    unexpectedReturnedBuckets := unexpected }

section

variable [Dataset.Host] [NewYork] [WeltradeSymbols.PyUnicode]

def presentTimes (candles : List Candle) : List ℤ := (candles.map fun c => c.time.utc).dedup

def validateHistoricalCoverage (candles : List Candle) (provider canonicalSymbol providerSymbol : String)
    (timeframe : Timeframe) (start stop : PyDatetime) : Except CoverageError CoverageValidationResult := do
  let start ← requireUtc start
  let stop ← requireUtc stop
  if stop < start then throw (.marketDataError "Historical coverage range is not ordered" [])
  let policy ← getCoveragePolicy provider canonicalSymbol providerSymbol timeframe
  if CandleStore.second (.aware start) % timeframe.seconds ≠ 0 ∨ CandleStore.second (.aware stop) % timeframe.seconds ≠ 0 then
    throw (.marketDataError "Historical coverage bounds must align to the timeframe" [])
  return coverageResult policy (buckets start stop (stepMicros timeframe)) (presentTimes candles)

end

end Coverage
end Jqe
