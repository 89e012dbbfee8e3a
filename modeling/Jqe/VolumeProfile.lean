import Jqe.Bins
import Jqe.Dataset
import Mathlib.Data.Rat.Floor
/-!
# VolumeProfile — `research/volume_profile.py`: the volume profile of a fixed range of candles

`calculate_volume_profile`, with its refusals in order.  A float is the decimal it prints as, and decimal arithmetic is
exact.  `Bins` has the overlaps and the run of bins that grows from the point of control.
-/
namespace Jqe

inductive VolumeType where
  | realVolume
  | tickVolume
  | brokerVolume
  | simulatedVolume
  | unavailable
  | unknown
  deriving DecidableEq

inductive VolumeAllocationMethod where
  | uniformRangeOverlapV1
  | other (value : String)
  deriving DecidableEq

inductive VolumeProfileEligibility where
  | eligible
  | volumeUnavailable
  | volumeSemanticsUnknown
  | invalidRange
  | insufficientData
  | invalidBinConfiguration
  | missingCandleVolume
  | invalidCandleData
  | algorithmVersionUnsupported
  deriving DecidableEq

def frvpAlgorithmVersion : String := "frvp-contract-v1"

def maxProfileBins : ℕ := 2000

structure VolumeProfileRequest where
  startIndex : ℤ
  endIndex : ℤ
  binSize : PyFloat
  valueAreaFraction : PyFloat := .fin (7 / 10)
  allocationMethod : VolumeAllocationMethod := .uniformRangeOverlapV1
  algorithmVersion : String := frvpAlgorithmVersion
  deriving DecidableEq

structure VolumeProfileBin where
  low : ℚ
  high : ℚ
  volume : ℚ
  deriving DecidableEq

structure VolumeProfileSnapshot where
  datasetIdentity : String
  request : VolumeProfileRequest
  startTime : PyDatetime
  endTime : PyDatetime
  candleCount : ℕ
  volumeType : VolumeType
  volumeSource : String
  profileLow : ℚ
  profileHigh : ℚ
  totalVolume : ℚ
  bins : List VolumeProfileBin
  pointOfControl : ℚ
  valueAreaHigh : ℚ
  valueAreaLow : ℚ
  rangeHasGaps : Bool
  gapCount : ℕ
  deriving DecidableEq

structure VolumeProfileResult where
  eligibility : VolumeProfileEligibility
  reason : String
  snapshot : Option VolumeProfileSnapshot
  deriving DecidableEq

namespace VolumeProfile

open Dataset (Candle)

def eligibleType : VolumeType → Bool
  | .realVolume | .tickVolume | .brokerVolume | .simulatedVolume => true
  | .unavailable | .unknown => false

/-- A return before the profile. -/
def refuseIf (check : Bool) (eligibility : VolumeProfileEligibility) (reason : String) :
    Except VolumeProfileResult Unit :=
  if check then .error ⟨eligibility, reason, none⟩ else .ok ()

/-- A value that the code needs, or a return. -/
def orRefuse {α : Type} (value : Option α) (eligibility : VolumeProfileEligibility) (reason : String) :
    Except VolumeProfileResult α :=
  match value with
  | some x => .ok x
  | none => .error ⟨eligibility, reason, none⟩

structure RangeCandle where
  low : ℚ
  high : ℚ
  volume : ℚ
  deriving DecidableEq

structure Prepared where
  selected : List Candle
  candles : List RangeCandle
  binSize : ℚ
  fraction : ℚ
  profileLow : ℚ
  profileHigh : ℚ
  binCount : ℕ

def selectedCandles (candles : List Candle) (request : VolumeProfileRequest) : List Candle :=
  (candles.take (request.endIndex + 1).toNat).drop request.startIndex.toNat

/-- The checks of `calculate_volume_profile`, up to the bin count. -/
def prepare (candles : List Candle) (volumeType : VolumeType) (request : VolumeProfileRequest) :
    Except VolumeProfileResult Prepared := do
  refuseIf (volumeType = .unavailable) .volumeUnavailable "Volume data is unavailable"
  refuseIf (volumeType = .unknown) .volumeSemanticsUnknown "Volume semantics are unknown"
  refuseIf (!eligibleType volumeType) .volumeSemanticsUnknown "Volume semantics are unsupported"
  refuseIf (request.algorithmVersion ≠ frvpAlgorithmVersion) .algorithmVersionUnsupported
    "Algorithm version is unsupported"
  refuseIf (request.allocationMethod ≠ .uniformRangeOverlapV1) .invalidBinConfiguration
    "Allocation method is unsupported"
  refuseIf (request.startIndex < 0 ∨ request.endIndex < request.startIndex ∨ candles.length ≤ request.endIndex)
    .invalidRange "Selected candle range is invalid"
  let binSize ← orRefuse request.binSize.rat? .invalidBinConfiguration
    "Bin configuration must be finite Decimal values"
  let fraction ← orRefuse request.valueAreaFraction.rat? .invalidBinConfiguration
    "Bin configuration must be finite Decimal values"
  refuseIf (binSize ≤ 0 ∨ ¬(0 < fraction ∧ fraction ≤ 1)) .invalidBinConfiguration
    "Bin size and value-area fraction are invalid"
  let selected := selectedCandles candles request
  refuseIf selected.isEmpty .insufficientData "Selected range contains no candles"
  let lows ← orRefuse (selected.mapM (·.low.rat?)) .invalidCandleData "Candle values must be finite"
  let highs ← orRefuse (selected.mapM (·.high.rat?)) .invalidCandleData "Candle values must be finite"
  let volumes ← orRefuse (selected.mapM fun c => match c.volume with
    | some volume => volume.rat?.map some
    | none => some none) .invalidCandleData "Candle values must be finite"
  let volumes ← orRefuse (volumes.mapM id) .missingCandleVolume "Every selected candle requires volume"
  let ranged := (lows.zip (highs.zip volumes)).map fun x => (⟨x.1, x.2.1, x.2.2⟩ : RangeCandle)
  refuseIf (ranged.any (fun c => c.high < c.low) || ranged.any (fun c => c.volume < 0)) .invalidCandleData
    "Candle ranges and volumes must be valid"
  let profileLow := lows.min?.getD 0
  let profileHigh := highs.max?.getD 0
  let span := profileHigh - profileLow
  refuseIf (binSize * maxProfileBins < span) .invalidBinConfiguration "Profile exceeds 2000 bins"
  let binCount := max 1 ⌈span / binSize⌉.toNat
  refuseIf (maxProfileBins < binCount) .invalidBinConfiguration "Profile exceeds 2000 bins"
  return ⟨selected, ranged, binSize, fraction, profileLow, profileHigh, binCount⟩

/-! ### The profile -/

def Prepared.boundary (p : Prepared) (i : ℕ) : ℚ :=
  if i < p.binCount then p.profileLow + p.binSize * i
  else if 0 < p.profileHigh - p.profileLow then p.profileHigh else p.profileLow + p.binSize

structure Tally where
  allocated : ℕ → ℚ
  distributed : ℚ
  lastOverlap : Option ℕ

def Prepared.distribute (p : Prepared) (c : RangeCandle) (t : Tally) (i : ℕ) : Tally :=
  let overlap := min c.high (p.boundary (i + 1)) - max c.low (p.boundary i)
  if 0 < overlap then
    let share := c.volume * overlap / (c.high - c.low)
    ⟨Function.update t.allocated i (t.allocated i + share), t.distributed + share, some i⟩
  else t

/-- One candle: a point goes into its bin, and a range over the bins, what is left to the last one it overlaps. -/
def Prepared.allocate (p : Prepared) (allocated : ℕ → ℚ) (c : RangeCandle) : ℕ → ℚ :=
  if c.high = c.low then
    -- the low is not below the profile's, so `//` rounds down
    let i := min ⌊(c.low - p.profileLow) / p.binSize⌋.toNat (p.binCount - 1)
    Function.update allocated i (allocated i + c.volume)
  else
    let t := (List.range p.binCount).foldl (p.distribute c) ⟨allocated, 0, none⟩
    match t.lastOverlap with
    | some i => Function.update t.allocated i (t.allocated i + (c.volume - t.distributed))
    | none => t.allocated

def Prepared.volumes (p : Prepared) : ℕ → ℚ := p.candles.foldl p.allocate fun _ => 0

def Prepared.bins (p : Prepared) : List VolumeProfileBin :=
  (List.range p.binCount).map fun i => ⟨p.boundary i, p.boundary (i + 1), p.volumes i⟩

/-- `max(range(bin_count), key=lambda index: (bins[index].volume, -index))`. -/
def pocIndex (w : ℕ → ℚ) (n : ℕ) : ℕ :=
  (List.range n).foldl (fun best i => if w best < w i ∨ w best = w i ∧ -(best : ℤ) < -(i : ℤ) then i else best) 0

/-- The side that the value area takes: below where a bin is there, and no heavier one above. -/
def takesBelow (w : ℕ → ℚ) (n : ℕ) (r : Bins.Run ℚ) : Bool :=
  0 < r.low ∧ (¬r.high < n - 1 ∨ w (r.high + 1) ≤ w (r.low - 1))

def Prepared.total (p : Prepared) : ℚ := (p.bins.map VolumeProfileBin.volume).sum

def Prepared.valueArea (p : Prepared) : Bins.Run ℚ :=
  let poc := pocIndex p.volumes p.binCount
  Bins.grow p.volumes (takesBelow p.volumes p.binCount) p.binCount (p.total * p.fraction) p.binCount
    ⟨poc, poc, p.volumes poc⟩

def timeDelta : PyDatetime → PyDatetime → Except PyExc ℤ
  | .aware a, .aware b | .naive a, .naive b => .ok (b - a)
  | _, _ => .error (.exception "can't subtract offset-naive and offset-aware datetimes")

def gapCount (stepSeconds : ℤ) : List Candle → Except PyExc ℕ
  | a :: b :: candles => do
    let delta ← timeDelta a.time b.time
    let rest ← gapCount stepSeconds (b :: candles)
    return rest + if (stepSeconds : ℚ) * (3 / 2) < delta / 1000000 then 1 else 0
  | _ => .ok 0

end VolumeProfile

open VolumeProfile in
def calculateVolumeProfile (candles : List Dataset.Candle) (datasetIdentity : String) (volumeType : VolumeType)
    (volumeSource : String) (request : VolumeProfileRequest) (stepSeconds : Option ℤ) :
    Except PyExc VolumeProfileResult :=
  match prepare candles volumeType request with
  | .error refusal => .ok refusal
  | .ok p => do
    let poc := pocIndex p.volumes p.binCount
    let area := p.valueArea
    let gaps ← match stepSeconds with
      | none => pure 0
      | some step => gapCount step p.selected
    return ⟨.eligible, "Eligible volume semantics", some {
      datasetIdentity := datasetIdentity
      request := request
      startTime := (p.selected.head?.map Dataset.Candle.time).getD (.aware 0)
      endTime := (p.selected.getLast?.map Dataset.Candle.time).getD (.aware 0)
      candleCount := p.selected.length
      volumeType := volumeType
      volumeSource := volumeSource
      profileLow := p.profileLow
      profileHigh := p.profileHigh
      totalVolume := p.total
      bins := p.bins
      pointOfControl := (p.boundary poc + p.boundary (poc + 1)) / 2
      valueAreaHigh := p.boundary (area.high + 1)
      valueAreaLow := p.boundary area.low
      rangeHasGaps := 0 < gaps
      gapCount := gaps }⟩

end Jqe
