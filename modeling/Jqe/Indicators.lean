import Jqe.Column
/-!
# Indicators — `core/indicators.py` and the regimes of `intelligence/market_regime.py`

`calculate_indicators` over a table without a column of spreads, in exact arithmetic.
-/
namespace Jqe

open Column List

structure PriceRow where
  open_ : ℚ
  high : ℚ
  low : ℚ
  close : ℚ
  deriving DecidableEq

structure IndicatorRow extends PriceRow where
  ema50 : ℚ
  ema200 : ℚ
  rsi : Option ℚ
  atr : Option ℚ
  deriving DecidableEq

namespace Indicators

def diff (close : List ℚ) : List (Option ℚ) :=
  List.zipWith (fun c before => before.map (c - ·)) close (shift close)

def gain (close : List ℚ) : List (Option ℚ) := (diff close).map (Option.map (max · 0))

def loss (close : List ℚ) : List (Option ℚ) := (diff close).map (Option.map fun d => -min d 0)

/-- `100 - (100 / (1 + rs))` of the means; a division by zero is an infinity, or no number. -/
def relativeStrength : Option ℚ → Option ℚ → Option ℚ
  | some avgGain, some avgLoss =>
    if avgLoss = 0 then if avgGain = 0 then none else some 100
    else some (100 - 100 / (1 + avgGain / avgLoss))
  | _, _ => none

def rsi (close : List ℚ) : List (Option ℚ) :=
  List.zipWith relativeStrength (rolling 14 14 (gain close)) (rolling 14 14 (loss close))

def fromClose (price close : List ℚ) : List (Option ℚ) :=
  List.zipWith (fun p before => before.map fun c => |p - c|) price (shift close)

def trueRange (data : List PriceRow) : List (Option ℚ) :=
  List.zipWith larger (data.map fun r => some (r.high - r.low))
    (List.zipWith larger (fromClose (data.map (·.high)) (data.map (·.close)))
      (fromClose (data.map (·.low)) (data.map (·.close))))

def atr (data : List PriceRow) : List (Option ℚ) := rolling 14 14 (trueRange data)

def ema50 (close : List ℚ) : List ℚ := ewm (2 / 51) close

def ema200 (close : List ℚ) : List ℚ := ewm (2 / 201) close

end Indicators

open Indicators

def calculateIndicators (data : List PriceRow) : List IndicatorRow :=
  let close := data.map (·.close)
  List.zipWith (fun row found => ⟨row, found.1.1, found.1.2, found.2.1, found.2.2⟩) data
    (List.zip (List.zip (ema50 close) (ema200 close)) (List.zip (rsi close) (atr data)))

/-! ### Regimes -/

/-- What `detect_legacy_regime` answers. -/
inductive LegacyRegime where
  | trendUp
  | trendDown
  | range
  | noTrade
  deriving DecidableEq

/-- `detect_legacy_regime`, of the latest row; what `core.regime` has as `detect_regime`. -/
def IndicatorRow.regime (latest : IndicatorRow) : LegacyRegime :=
  if latest.ema50 < latest.close && latest.ema200 < latest.ema50 && below (some 50) latest.rsi then .trendUp
  else if latest.close < latest.ema50 && latest.ema50 < latest.ema200 && below latest.rsi (some 50) then .trendDown
  else if below (some |latest.ema50 - latest.ema200|) (latest.atr.map (· * (1 / 2))) then .range
  else .noTrade

namespace Indicators

/-! ### Lengths -/

@[simp] theorem diff_length (close : List ℚ) : (diff close).length = close.length := by
  unfold diff
  rw [length_zipWith, shift_length, Nat.min_self]

@[simp] theorem rsi_length (close : List ℚ) : (rsi close).length = close.length := by
  unfold rsi gain loss
  rw [length_zipWith, rolling_length, rolling_length, length_map, length_map, Nat.min_self, diff_length]

@[simp] theorem fromClose_length (price close : List ℚ) : (fromClose price close).length = min price.length close.length := by
  unfold fromClose
  rw [length_zipWith, shift_length]

@[simp] theorem trueRange_length (data : List PriceRow) : (trueRange data).length = data.length := by
  unfold trueRange
  simp only [length_zipWith, fromClose_length, length_map, Nat.min_self]

@[simp] theorem atr_length (data : List PriceRow) : (atr data).length = data.length := by
  unfold atr
  rw [rolling_length, trueRange_length]

@[simp] theorem calculateIndicators_length (data : List PriceRow) : (calculateIndicators data).length = data.length := by
  unfold calculateIndicators ema50 ema200
  simp only [length_zipWith, length_zip, ewm_length, rsi_length, atr_length, length_map, Nat.min_self]

/-! ### The rows -/

variable {data : List PriceRow}

theorem calculateIndicators_getElem? {i : ℕ} {row : PriceRow} (hrow : data[i]? = some row)
    {e50 e200 : ℚ} (h50 : (ema50 (data.map (·.close)))[i]? = some e50)
    (h200 : (ema200 (data.map (·.close)))[i]? = some e200) {strength range : Option ℚ}
    (hrsi : (rsi (data.map (·.close)))[i]? = some strength) (hatr : (atr data)[i]? = some range) :
    (calculateIndicators data)[i]? = some ⟨row, e50, e200, strength, range⟩ := by
  unfold calculateIndicators List.zip
  simp only [getElem?_zipWith, hrow, h50, h200, hrsi, hatr]

theorem columns_of_row {i : ℕ} {row : IndicatorRow} (h : (calculateIndicators data)[i]? = some row) :
    data[i]? = some row.toPriceRow ∧ (rsi (data.map (·.close)))[i]? = some row.rsi ∧ (atr data)[i]? = some row.atr := by
  have hi : i < data.length := by
    rw [← calculateIndicators_length data]
    exact (List.getElem?_eq_some_iff.1 h).1
  obtain ⟨e50, h50⟩ : ∃ e50, (ema50 (data.map (·.close)))[i]? = some e50 :=
    ⟨_, getElem?_eq_getElem (by unfold ema50; rwa [ewm_length, length_map])⟩
  obtain ⟨e200, h200⟩ : ∃ e200, (ema200 (data.map (·.close)))[i]? = some e200 :=
    ⟨_, getElem?_eq_getElem (by unfold ema200; rwa [ewm_length, length_map])⟩
  obtain ⟨strength, hrsi⟩ : ∃ strength, (rsi (data.map (·.close)))[i]? = some strength :=
    ⟨_, getElem?_eq_getElem (by rwa [rsi_length, length_map])⟩
  obtain ⟨range, hatr⟩ : ∃ range, (atr data)[i]? = some range := ⟨_, getElem?_eq_getElem (by rwa [atr_length])⟩
  rw [calculateIndicators_getElem? (getElem?_eq_getElem hi) h50 h200 hrsi hatr, Option.some.injEq] at h
  rw [← h]
  exact ⟨getElem?_eq_getElem hi, hrsi, hatr⟩

theorem trueRange_isSome {x : Option ℚ} (hx : x ∈ trueRange data) : x.isSome = true := by
  unfold trueRange at hx
  obtain ⟨i, hi, rfl⟩ := mem_iff_getElem.1 hx
  rw [getElem_zipWith, getElem_map]
  exact larger_isSome _ _

theorem atr_of_indicators {i : ℕ} {found : IndicatorRow}
    (h : (calculateIndicators data)[i]? = some found) (hi : 13 ≤ i) : ∃ q, found.atr = some q := by
  have hlt : i < data.length := by
    rw [← calculateIndicators_length data]
    exact (List.getElem?_eq_some_iff.1 h).1
  obtain ⟨-, -, hatr⟩ := columns_of_row h
  unfold atr at hatr
  rw [rolling_getElem? 14 14 (by rwa [trueRange_length]), Option.some.injEq] at hatr
  rw [← hatr]
  refine mean_isSome (fun x hx => trueRange_isSome (mem_of_mem_take (mem_of_mem_drop hx))) ?_
  unfold window
  rw [length_drop, length_take, trueRange_length]
  omega

/-! ### Causality -/

theorem causal_closes : Causal fun data : List PriceRow => data.map (·.close) := causal_map _

theorem causal_diff : Causal diff := causal_id.zipWith _ causal_shift

theorem causal_rsi : Causal rsi :=
  ((causal_rolling 14 14).comp ((causal_map _).comp causal_diff)).zipWith _
    ((causal_rolling 14 14).comp ((causal_map _).comp causal_diff))

theorem causal_fromClose (price : PriceRow → ℚ) :
    Causal fun data : List PriceRow => fromClose (data.map price) (data.map (·.close)) :=
  (causal_map price).zipWith _ (causal_shift.comp causal_closes)

theorem causal_trueRange : Causal trueRange :=
  (causal_map _).zipWith _ ((causal_fromClose _).zipWith _ (causal_fromClose _))

theorem causal_atr : Causal atr := (causal_rolling 14 14).comp causal_trueRange

theorem causal_calculateIndicators : Causal calculateIndicators := by
  have hema := ((causal_ewm (2 / 51)).comp causal_closes).zipWith Prod.mk ((causal_ewm (2 / 201)).comp causal_closes)
  have hranges := (causal_rsi.comp causal_closes).zipWith Prod.mk causal_atr
  exact causal_id.zipWith _ (hema.zipWith Prod.mk hranges)

/-! ### What is forgotten -/

theorem settled_diff : Settled 1 diff := (settled_id.mono (Nat.zero_le 1)).zipWith settled_shift _

theorem settled_rsi : Settled 15 rsi :=
  ((settled_diff.map _).rolling 14 14).zipWith ((settled_diff.map _).rolling 14 14) _

theorem settled_fromClose (price : PriceRow → ℚ) :
    Settled 1 fun data : List PriceRow => fromClose (data.map price) (data.map (·.close)) :=
  ((settled_id.mono (Nat.zero_le 1)).map price).zipWith (settled_shift.of_map _) _

theorem settled_atr : Settled 15 atr :=
  (((settled_id.mono (Nat.zero_le 1)).map _).zipWith ((settled_fromClose _).zipWith (settled_fromClose _) _) _).rolling 14 14

theorem row_of_drop {k j : ℕ} (hj : 15 ≤ j) {row row' : IndicatorRow}
    (h : (calculateIndicators (data.drop k))[j]? = some row) (h' : (calculateIndicators data)[k + j]? = some row') :
    row.toPriceRow = row'.toPriceRow ∧ row.rsi = row'.rsi ∧ row.atr = row'.atr := by
  obtain ⟨hprices, hrsi, hatr⟩ := columns_of_row h
  obtain ⟨hprices', hrsi', hatr'⟩ := columns_of_row h'
  rw [getElem?_drop, hprices', Option.some.injEq] at hprices
  rw [map_drop, settled_rsi k _ j hj, hrsi', Option.some.injEq] at hrsi
  rw [settled_atr k data j hj, hatr', Option.some.injEq] at hatr
  exact ⟨hprices.symm, hrsi.symm, hatr.symm⟩

end Indicators
end Jqe
