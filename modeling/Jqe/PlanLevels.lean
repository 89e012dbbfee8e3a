import Jqe.IndicatorRange
import Jqe.Mt5Volume
/-!
# PlanLevels — when a table of prices is bought, and at which levels

Whenever the pipeline buys there is a range above zero to plan with: it is above the mean of ranges that are not negative.
-/
namespace Jqe

open Column Strategy List

variable {lo hi : ℚ}

/-- The levels of a BUY at a close, by the range of its row. -/
def Strategy.buyLevels (close atr : ℚ) : Levels :=
  ⟨close, pyRound (close - 3 / 2 * atr) 5, pyRound (close + 3 * atr) 5, 2⟩

theorem buyLevels_ordered (close : ℚ) {atr : ℚ} (h : 1 / 300000 < atr) :
    (buyLevels close atr).stopLoss < close ∧ close < (buyLevels close atr).takeProfit := by
  have hstop := abs_le.1 (pyRound_near (close - 3 / 2 * atr) 5)
  have htarget := abs_le.1 (pyRound_near (close + 3 * atr) 5)
  norm_num at hstop htarget
  constructor <;> simp only [buyLevels] <;> linarith

theorem build_buy {reasons warnings : List String} {price atr : ℚ} (hprice : 0 < price) (hatr : 0 < atr) :
    (build .buy reasons warnings price (some atr)).signal = .buy ∧
      (build .buy reasons warnings price (some atr)).levels = some (buyLevels price atr) := by
  have hstop : price - atr * atrSlMultiplier = price - 3 / 2 * atr := by unfold atrSlMultiplier; ring
  have htarget : price + atr * atrSlMultiplier * targetRr = price + 3 * atr := by unfold atrSlMultiplier targetRr; ring
  have hrr : actualRr price (price - 3 / 2 * atr) (price + 3 * atr) = 2 := by
    have hloss : price - (price - 3 / 2 * atr) = 3 / 2 * atr := by ring
    have hgain : price - (price + 3 * atr) = -(3 * atr) := by ring
    unfold actualRr
    rw [hloss, hgain, abs_neg, abs_of_pos (by positivity), abs_of_pos (by positivity), if_pos (by positivity)]
    field_simp
  have htwo : pyRound 2 2 = 2 := by decide +kernel
  unfold build rawLevels
  dsimp only
  rw [if_neg (not_le.2 hprice), if_neg (by decide), if_neg (not_le.2 hatr), hstop, htarget, hrr, if_neg (by decide +kernel),
    htwo]
  exact ⟨rfl, rfl⟩

theorem evaluate_plan_of_rising {df : List IndicatorRow} {latest : IndicatorRow} {atr : ℚ} (h : Rising df latest)
    (hatr : latest.atr = some atr) (hprice : 0 < latest.close) (hpos : 0 < atr) :
    (Strategy.evaluate df latest latest.regime).tradePlan.signal = .buy ∧
      (Strategy.evaluate df latest latest.regime).tradePlan.levels = some (buyLevels latest.close atr) := by
  have hsignal : (presented (toCanonical latest.regime) (analyze df latest)).1 = .buy := evaluate_buy_iff.2 h
  change (build (presented (toCanonical latest.regime) (analyze df latest)).1 _ _ _ latest.atr).signal = _ ∧
    (build (presented (toCanonical latest.regime) (analyze df latest)).1 _ _ _ latest.atr).levels = _
  rw [hsignal, hatr]
  exact build_buy hprice hpos

theorem averageAtr_nonneg {df : List IndicatorRow} {m : ℚ} (h : ∀ row ∈ df, ∀ x, row.atr = some x → 0 ≤ x)
    (hm : averageAtr df = some m) : 0 ≤ m := by
  unfold averageAtr mean at hm
  split at hm
  · cases hm
  · cases hm
    refine div_nonneg (sum_nonneg fun x hx => ?_) (Nat.cast_nonneg _)
    obtain ⟨row, hrow, hx⟩ := mem_map.1 (reduceOption_mem_iff.1 hx)
    exact h row hrow x hx

/-- A BUY of this range, with its plan. -/
structure Strategy.Decision.Buys (d : Decision) (latest : IndicatorRow) (atr : ℚ) : Prop where
  signal : d.signal = .buy
  range : latest.atr = some atr
  levels : d.tradePlan.levels = some (buyLevels latest.close atr)
  valid : 1 / 300000 < atr → d.tradePlan.isValid = true

/-- **The pipeline buys exactly in a market that rises**, always with a plan, and plans nothing else. -/
theorem signal_plans (data : List PriceRow) {d : Decision} (hd : signalOf (calculateIndicators data) = .ok d) (hlo : 0 < lo)
    (h : ∀ r ∈ data, lo ≤ r.low ∧ r.low ≤ r.close ∧ r.close ≤ r.high ∧ r.high ≤ hi) :
    ∃ latest, (calculateIndicators data).getLast? = some latest ∧
      (Rising (calculateIndicators data) latest ∧ (∃ atr, 0 < atr ∧ atr ≤ hi - lo ∧ d.Buys latest atr) ∨
        ¬Rising (calculateIndicators data) latest ∧ d.signal = .noTrade ∧ d.tradePlan.levels = none) := by
  cases hlast : (calculateIndicators data).getLast? with
  | none =>
    unfold signalOf detectRegime at hd
    rw [hlast] at hd
    cases hd
  | some latest =>
    rw [signalOf_eq hlast] at hd
    cases hd
    refine ⟨latest, rfl, ?_⟩
    by_cases hrises : Rising (calculateIndicators data) latest
    · have hlatest := within_of_mem (mem_of_getLast? hlast) h
      obtain ⟨m, atr, hm, hatr, hlt⟩ := below_iff.1 hrises.volatility
      have hpos := (averageAtr_nonneg (fun row hrow x hx => ((within_of_mem hrow h).atr x hx).1) hm).trans_lt hlt
      have hprice := (hlo.trans_le hlatest.averages.1).trans hrises.close
      obtain ⟨hkind, hlevels⟩ := evaluate_plan_of_rising hrises hatr hprice hpos
      refine .inl ⟨hrises, atr, hpos, (hlatest.atr atr hatr).2, evaluate_buy_iff.2 hrises, hatr, hlevels, fun hwide => ?_⟩
      obtain ⟨hstop, htarget⟩ := buyLevels_ordered latest.close hwide
      unfold TradePlan.isValid
      rw [hkind, hlevels, Bool.and_eq_true, Bool.and_eq_true]
      exact ⟨⟨decide_eq_true hstop, decide_eq_true htarget⟩, by norm_num [buyLevels]⟩
    · exact .inr ⟨hrises, evaluate_noTrade hrises, (evaluate_plan_of_not_rising hrises).2⟩

theorem signal_plans_leap : ∃ (d : Decision) (latest : IndicatorRow), signalOf (calculateIndicators leap) = .ok d ∧
    d.tradePlan.isValid = true ∧ d.Buys latest (1 / 14) := by
  have hbuy : (signalOf (calculateIndicators leap)).toOption.map (·.signal) = some .buy := by decide +kernel
  have hatr : (calculateIndicators leap).getLast?.map (·.atr) = some (some (1 / 14)) := by decide +kernel
  cases hd : signalOf (calculateIndicators leap) with
  | error e =>
    rw [hd] at hbuy
    cases hbuy
  | ok d =>
    rw [hd] at hbuy
    obtain ⟨latest, hlast, ⟨-, atr, hpos, hle, hbuys⟩ | ⟨-, hnone, -⟩⟩ := @signal_plans 100 101 leap
        d hd (by norm_num) (by decide)
    · rw [hlast] at hatr
      cases (Option.some.inj hatr).symm.trans hbuys.range
      exact ⟨d, latest, rfl, hbuys.valid (by norm_num), hbuys⟩
    · cases hnone.symm.trans (Option.some.inj hbuy)

end Jqe
