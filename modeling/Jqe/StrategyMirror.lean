import Jqe.StrategySignal
import Mathlib.Algebra.Order.Group.MinMax
import Mathlib.Tactic.FieldSimp
import Mathlib.Tactic.Positivity
/-!
# StrategyMirror — the pipeline in a mirrored market

The mirror image of a price is its reflection at a level.  The averages are mirrored with the prices, the RSI at 50, and
the ranges stay.  The pipeline buys in a market that rises and never sells in one that falls (`mirrored_iff`).
-/
namespace Jqe

open Column List

/-- The mirror image of a candle: high and low are swapped. -/
def PriceRow.mirror (c : ℚ) (row : PriceRow) : PriceRow := ⟨c - row.open_, c - row.low, c - row.high, c - row.close⟩

def IndicatorRow.mirror (c : ℚ) (row : IndicatorRow) : IndicatorRow :=
  { toPriceRow := row.toPriceRow.mirror c
    ema50 := c - row.ema50
    ema200 := c - row.ema200
    rsi := row.rsi.map (100 - ·)
    atr := row.atr }

namespace Indicators

/-! ### Relative strength -/

theorem diff_mirror (c : ℚ) (close : List ℚ) : diff (close.map (c - ·)) = (diff close).map (Option.map (- ·)) := by
  unfold diff
  rw [shift_map, zipWith_map, map_zipWith]
  congr 1
  funext x before
  cases before with
  | none => rfl
  | some y =>
    change some (c - x - (c - y)) = some (-(x - y))
    congr 1
    ring

theorem gain_mirror (c : ℚ) (close : List ℚ) : gain (close.map (c - ·)) = loss close := by
  unfold gain loss
  rw [diff_mirror, map_map]
  refine map_congr_left fun d _ => ?_
  cases d with
  | none => rfl
  | some d =>
    change some (max (-d) 0) = some (-min d 0)
    rw [← max_neg_neg, neg_zero]

theorem loss_mirror (c : ℚ) (close : List ℚ) : loss (close.map (c - ·)) = gain close := by
  unfold gain loss
  rw [diff_mirror, map_map]
  refine map_congr_left fun d _ => ?_
  cases d with
  | none => rfl
  | some d =>
    change some (-min (-d) 0) = some (max d 0)
    rw [← max_neg_neg, neg_zero, neg_neg]

theorem relativeStrength_swap {x y : Option ℚ} (hx : ∀ a, x = some a → 0 ≤ a) (hy : ∀ b, y = some b → 0 ≤ b) :
    relativeStrength y x = (relativeStrength x y).map (100 - ·) := by
  cases x with
  | none => cases y <;> rfl
  | some a =>
    cases y with
    | none => rfl
    | some b =>
      have ha := hx a rfl
      have hb := hy b rfl
      unfold relativeStrength
      dsimp only
      by_cases ha0 : a = 0
      · by_cases hb0 : b = 0
        · rw [if_pos ha0, if_pos hb0, if_pos hb0, if_pos ha0]
          rfl
        · rw [if_pos ha0, if_neg hb0, if_neg hb0, ha0, zero_div]
          norm_num
      · by_cases hb0 : b = 0
        · rw [if_neg ha0, if_pos hb0, if_neg ha0, hb0, zero_div]
          norm_num
        · have hpos : 0 < a + b := by positivity
          rw [if_neg ha0, if_neg hb0, Option.map_some]
          congr 1
          field_simp
          ring

theorem mean_nonneg {least : ℕ} {xs : List (Option ℚ)} (h : ∀ x, some x ∈ xs → 0 ≤ x) {m : ℚ}
    (hm : mean least xs = some m) : 0 ≤ m := by
  unfold mean at hm
  split at hm
  · cases hm
  · cases hm
    refine div_nonneg (sum_nonneg fun x hx => h x ?_) (Nat.cast_nonneg _)
    exact reduceOption_mem_iff.1 hx

theorem rolling_nonneg {n least : ℕ} {xs : List (Option ℚ)} (h : ∀ x, some x ∈ xs → 0 ≤ x) {i : ℕ} {m : ℚ}
    (hm : (rolling n least xs)[i]? = some (some m)) : 0 ≤ m := by
  have hi : i < xs.length := by
    rw [← rolling_length n least xs]
    exact (List.getElem?_eq_some_iff.1 hm).1
  rw [rolling_getElem? n least hi, Option.some.injEq] at hm
  exact mean_nonneg (fun x hx => h x (mem_of_mem_take (mem_of_mem_drop hx))) hm

theorem gain_nonneg {close : List ℚ} {x : ℚ} (h : some x ∈ gain close) : 0 ≤ x := by
  obtain ⟨d, -, hd⟩ := mem_map.1 h
  obtain ⟨d, rfl, rfl⟩ := Option.map_eq_some_iff.1 hd
  exact le_max_right d 0

theorem loss_nonneg {close : List ℚ} {x : ℚ} (h : some x ∈ loss close) : 0 ≤ x := by
  obtain ⟨d, -, hd⟩ := mem_map.1 h
  obtain ⟨d, rfl, rfl⟩ := Option.map_eq_some_iff.1 hd
  exact neg_nonneg.2 (min_le_right d 0)

theorem rsi_mirror (c : ℚ) (close : List ℚ) : rsi (close.map (c - ·)) = (rsi close).map (Option.map (100 - ·)) := by
  unfold rsi
  rw [gain_mirror, loss_mirror]
  apply ext_getElem?
  intro i
  rw [getElem?_map, getElem?_zipWith, getElem?_zipWith]
  cases hgain : (rolling 14 14 (gain close))[i]? with
  | none => cases (rolling 14 14 (loss close))[i]? <;> rfl
  | some x =>
    cases hloss : (rolling 14 14 (loss close))[i]? with
    | none => rfl
    | some y =>
      refine congrArg some (relativeStrength_swap (fun a ha => ?_) fun b hb => ?_)
      · exact rolling_nonneg (fun x hx => gain_nonneg hx) (ha ▸ hgain)
      · exact rolling_nonneg (fun x hx => loss_nonneg hx) (hb ▸ hloss)

/-! ### Ranges -/

theorem fromClose_mirror (c : ℚ) (price close : List ℚ) :
    fromClose (price.map (c - ·)) (close.map (c - ·)) = fromClose price close := by
  unfold fromClose
  rw [shift_map, zipWith_map]
  congr 1
  funext p before
  cases before with
  | none => rfl
  | some y =>
    change some |c - p - (c - y)| = some |p - y|
    rw [← abs_neg (p - y)]
    congr 2
    ring

theorem closes_mirror (c : ℚ) (data : List PriceRow) :
    (data.map (·.mirror c)).map (·.close) = (data.map (·.close)).map (c - ·) := by
  rw [map_map, map_map]
  rfl

theorem trueRange_mirror (c : ℚ) (data : List PriceRow) : trueRange (data.map (·.mirror c)) = trueRange data := by
  have hhigh : (data.map (·.mirror c)).map (·.high) = (data.map (·.low)).map (c - ·) := by
    rw [map_map, map_map]
    rfl
  have hlow : (data.map (·.mirror c)).map (·.low) = (data.map (·.high)).map (c - ·) := by
    rw [map_map, map_map]
    rfl
  have hrange : ((data.map (·.mirror c)).map fun r => some (r.high - r.low)) = data.map fun r => some (r.high - r.low) := by
    rw [map_map]
    refine map_congr_left fun r _ => ?_
    change some (c - r.low - (c - r.high)) = some (r.high - r.low)
    congr 1
    ring
  unfold trueRange
  rw [hrange, hhigh, hlow, closes_mirror, fromClose_mirror, fromClose_mirror]
  exact congrArg _ (zipWith_comm_of_comm larger_comm)

theorem calculateIndicators_mirror (c : ℚ) (data : List PriceRow) :
    calculateIndicators (data.map (·.mirror c)) = (calculateIndicators data).map (·.mirror c) := by
  have hranges : ((rsi (data.map (·.close))).map (Option.map (100 - ·))).zip (rolling 14 14 (trueRange data)) =
      ((rsi (data.map (·.close))).zip (rolling 14 14 (trueRange data))).map (Prod.map (Option.map (100 - ·)) id) :=
    zip_map_left
  unfold calculateIndicators ema50 ema200 atr
  dsimp only
  rw [closes_mirror, ewm_sub, ewm_sub, rsi_mirror, trueRange_mirror, zip_map, hranges, zip_map,
    zipWith_map, map_zipWith]
  rfl

end Indicators

namespace Strategy

/-! ### The signal in a mirror -/

def SignalKind.opposite : SignalKind → SignalKind
  | buy => sell
  | sell => buy
  | noTrade => noTrade

def rounding : ℚ := 1 / 100000

/-- Levels reflected at half of `c`, up to rounding. -/
def LevelsMirrored (c : ℚ) : Option Levels → Option Levels → Prop
  | none, none => True
  | some l, some l' => |l'.entry - (c - l.entry)| ≤ rounding ∧ |l'.stopLoss - (c - l.stopLoss)| ≤ rounding ∧
      |l'.takeProfit - (c - l.takeProfit)| ≤ rounding
  | _, _ => False

/-- **A decision and the one of the mirror image**: opposite signals, and plans that are mirror images. -/
structure Mirrored (c : ℚ) (d d' : Decision) : Prop where
  signal : d'.signal = d.signal.opposite
  plan : d'.tradePlan.signal = d.tradePlan.signal.opposite
  levels : LevelsMirrored c d.tradePlan.levels d'.tradePlan.levels

/-- The pipeline answers on a history and on its mirror image alike. -/
def Symmetric (c : ℚ) (data : List PriceRow) : Prop :=
  ∃ d d', signalOf (calculateIndicators data) = .ok d ∧ signalOf (calculateIndicators (data.map (·.mirror c))) = .ok d' ∧
    Mirrored c d d'

theorem rising_mirror (c : ℚ) {df : List IndicatorRow} {latest : IndicatorRow} :
    Rising (df.map (·.mirror c)) (latest.mirror c) ↔ Falling df latest := by
  have haverage : averageAtr (df.map (·.mirror c)) = averageAtr df := by
    unfold averageAtr
    rw [map_map]
    rfl
  have hrsi : below (some 60) (latest.rsi.map (100 - ·)) = below latest.rsi (some 40) := by
    cases latest.rsi with
    | none => rfl
    | some rsi =>
      change decide (60 < 100 - rsi) = decide (rsi < 40)
      rw [decide_eq_decide]
      constructor <;> intro h <;> linarith
  constructor
  · rintro ⟨hclose, haverages, hmomentum, hvolatility⟩
    refine ⟨(sub_lt_sub_iff_left c).1 hclose, (sub_lt_sub_iff_left c).1 haverages, ?_, ?_⟩
    · rw [← hrsi]
      exact hmomentum
    · rw [← haverage]
      exact hvolatility
  · rintro ⟨hclose, haverages, hmomentum, hvolatility⟩
    refine ⟨(sub_lt_sub_iff_left c).2 hclose, (sub_lt_sub_iff_left c).2 haverages, ?_, ?_⟩
    · exact hrsi.trans hmomentum
    · rw [haverage]
      exact hvolatility

/-- **The pipeline is symmetric on a history exactly when neither it nor its mirror image rises.** -/
theorem mirrored_iff (c : ℚ) {data : List PriceRow} {latest : IndicatorRow}
    (h : (calculateIndicators data).getLast? = some latest) :
    Symmetric c data ↔ ¬Rising (calculateIndicators data) latest ∧ ¬Falling (calculateIndicators data) latest := by
  have hmirror : (calculateIndicators (data.map (·.mirror c))).getLast? = some (latest.mirror c) := by
    rw [Indicators.calculateIndicators_mirror, List.getLast?_map, h]
    rfl
  have hsignal := signalOf_eq h
  have hsignal' := signalOf_eq hmirror
  rw [← rising_mirror c, ← Indicators.calculateIndicators_mirror]
  constructor
  · rintro ⟨d, d', hd, hd', hsymmetric⟩
    rw [hsignal, Except.ok.injEq] at hd
    rw [hsignal', Except.ok.injEq] at hd'
    subst hd hd'
    refine ⟨fun hrises => ?_, fun hrises => ?_⟩
    · -- a purchase, and no sale in the mirror
      have hsells := hsymmetric.signal
      rw [evaluate_buy_iff.2 hrises] at hsells
      exact evaluate_ne_sell hsells
    · have hopposite := hsymmetric.signal
      rw [evaluate_buy_iff.2 hrises] at hopposite
      cases hkind : (evaluate (calculateIndicators data) latest latest.regime).signal with
      | sell => exact evaluate_ne_sell hkind
      | buy =>
        rw [hkind] at hopposite
        cases hopposite
      | noTrade =>
        rw [hkind] at hopposite
        cases hopposite
  · rintro ⟨hrises, hrises'⟩
    obtain ⟨hplan, hlevels⟩ := evaluate_plan_of_not_rising hrises
    obtain ⟨hplan', hlevels'⟩ := evaluate_plan_of_not_rising hrises'
    refine ⟨_, _, hsignal, hsignal', ?_, ?_, ?_⟩
    · rw [evaluate_noTrade hrises, evaluate_noTrade hrises']
      rfl
    · rw [hplan, hplan']
      rfl
    · rw [hlevels, hlevels']
      trivial

/-! ### Samples -/

def flatPrice (price : ℚ) : PriceRow := ⟨price, price, price, price⟩

def leap : List PriceRow := List.replicate 15 (flatPrice 100) ++ [flatPrice 101]

/-- **A purchase without a sale in the mirror.** -/
theorem leap_unmirrored : ¬∀ (c : ℚ) (data : List PriceRow), data ≠ [] →
    (∀ row ∈ data, 0 < row.low ∧ row.low ≤ min row.open_ row.close ∧ max row.open_ row.close ≤ row.high ∧ row.high < c) →
      Symmetric c data := by
  intro h
  obtain ⟨d, d', hd, hd', hsymmetric⟩ := h 201 leap (by decide) (by decide)
  have hbuy : (signalOf (calculateIndicators leap)).toOption.map (·.signal) = some .buy := by decide +kernel
  have hwait : (signalOf (calculateIndicators (leap.map (·.mirror 201)))).toOption.map (·.signal) = some .noTrade := by
    decide +kernel
  have hopposite := hsymmetric.signal
  rw [hd] at hbuy
  rw [hd'] at hwait
  have hbuy : d.signal = .buy := Option.some.inj hbuy
  have hwait : d'.signal = .noTrade := Option.some.inj hwait
  rw [hbuy, hwait] at hopposite
  cases hopposite

/-- A history that does not move. -/
theorem mirrored_flat : ∃ latest : IndicatorRow,
    (calculateIndicators (List.replicate 16 (flatPrice 100))).getLast? = some latest ∧
      Symmetric 201 (List.replicate 16 (flatPrice 100)) := by
  have hlast : (calculateIndicators (List.replicate 16 (flatPrice 100))).getLast? =
      some ⟨flatPrice 100, 100, 100, none, some 0⟩ := by decide +kernel
  refine ⟨_, hlast, (mirrored_iff 201 hlast).2 ⟨fun hrises => ?_, fun hfalls => ?_⟩⟩
  · exact absurd hrises.close (by decide)
  · exact absurd hfalls.close (by decide)

end Strategy
end Jqe
