import Jqe.Strategy
/-!
# StrategySignal — when the pipeline buys, and that it never sells

A sale needs a bearish trend, a regime that trends and a strong momentum, an RSI above 60.  A bearish trend is in a
trending regime only with an RSI below 50.
-/
namespace Jqe
namespace Strategy

open Column

/-- **A market that rises**: the latest row above its averages, its RSI above 60, its range above the mean. -/
structure Rising (df : List IndicatorRow) (latest : IndicatorRow) : Prop where
  close : latest.ema50 < latest.close
  averages : latest.ema200 < latest.ema50
  momentum : below (some 60) latest.rsi = true
  volatility : below (averageAtr df) latest.atr = true

/-- **A market that falls**, as a market that rises would in a mirror. -/
structure Falling (df : List IndicatorRow) (latest : IndicatorRow) : Prop where
  close : latest.close < latest.ema50
  averages : latest.ema50 < latest.ema200
  momentum : below latest.rsi (some 40) = true
  volatility : below (averageAtr df) latest.atr = true

variable {df : List IndicatorRow} {latest : IndicatorRow}

theorem analyze_trend : (analyze df latest).trend = if latest.ema200 < latest.ema50 then .bullish else .bearish := rfl

theorem analyze_strong : (analyze df latest).momentum = .strong ↔ below (some 60) latest.rsi = true := by
  unfold analyze
  dsimp only
  split
  · rename_i h
    exact ⟨fun _ => h, fun _ => rfl⟩
  · rename_i h
    split
    · exact ⟨fun hm => (by cases hm), fun hm => absurd hm h⟩
    · exact ⟨fun hm => (by cases hm), fun hm => absurd hm h⟩

theorem analyze_confidence (h : below (some 60) latest.rsi = true) :
    minConfidence ≤ (analyze df latest).confidence ↔ below (averageAtr df) latest.atr = true := by
  unfold analyze minConfidence
  dsimp only
  rw [if_pos h]
  split
  · rename_i hatr
    exact ⟨fun _ => hatr, fun _ => by decide⟩
  · rename_i hatr
    exact ⟨fun hle => absurd hle (by decide), fun hatr' => absurd hatr' hatr⟩

theorem regime_trending (h : below (some 60) latest.rsi = true) :
    toCanonical latest.regime = .trending ↔ latest.ema50 < latest.close ∧ latest.ema200 < latest.ema50 := by
  obtain ⟨a, rsi, ha, hrsi, hlt⟩ := below_iff.1 h
  cases ha
  unfold IndicatorRow.regime
  rw [hrsi]
  have hup : below (some 50) (some rsi) = true := by
    unfold below
    exact decide_eq_true (by linarith)
  have hdown : below (some rsi) (some 50) = false := by
    unfold below
    exact decide_eq_false (by linarith)
  rw [hup, hdown, Bool.and_true, Bool.and_false, if_neg Bool.false_ne_true]
  by_cases hrises : latest.ema50 < latest.close ∧ latest.ema200 < latest.ema50
  · rw [if_pos (by rw [decide_eq_true hrises.1, decide_eq_true hrises.2]; rfl)]
    exact ⟨fun _ => hrises, fun _ => rfl⟩
  · rw [if_neg]
    · refine ⟨fun ht => ?_, fun ht => absurd ht hrises⟩
      split at ht
      · cases ht
      · cases ht
    · rw [Bool.and_eq_true, decide_eq_true_eq, decide_eq_true_eq]
      exact hrises

theorem generate_eq {regime : Regime} {features : Features} : generate regime features =
    if regime = .trending ∧ features.momentum = .strong then
      (match features.trend with
        | .bullish => .buy
        | .bearish => .sell)
    else .wait := by
  obtain ⟨trend, momentum, volatility, confidence⟩ := features
  cases regime <;> cases trend <;> cases momentum <;> rfl

/-- **No sale**: where the momentum is strong, a regime that trends is a bullish one. -/
theorem generate_latest : generate (toCanonical latest.regime) (analyze df latest) =
    if (latest.ema50 < latest.close ∧ latest.ema200 < latest.ema50) ∧ below (some 60) latest.rsi = true then .buy
    else .wait := by
  rw [generate_eq]
  by_cases hstrong : below (some 60) latest.rsi = true
  · by_cases hrises : latest.ema50 < latest.close ∧ latest.ema200 < latest.ema50
    · rw [if_pos ⟨(regime_trending hstrong).2 hrises, analyze_strong.2 hstrong⟩, if_pos ⟨hrises, hstrong⟩, analyze_trend,
        if_pos hrises.2]
    · rw [if_neg fun h => hrises ((regime_trending hstrong).1 h.1), if_neg fun h => hrises h.1]
  · rw [if_neg fun h => hstrong (analyze_strong.1 h.2), if_neg fun h => hstrong h.2]

theorem presented_cases (df : List IndicatorRow) (latest : IndicatorRow) : Rising df latest ∧ (presented (toCanonical latest.regime) (analyze df latest)).1 = .buy ∨
    ¬Rising df latest ∧ (presented (toCanonical latest.regime) (analyze df latest)).1 = .noTrade := by
  unfold presented
  dsimp only
  rw [generate_latest]
  by_cases hbuys : (latest.ema50 < latest.close ∧ latest.ema200 < latest.ema50) ∧ below (some 60) latest.rsi = true
  · rw [if_pos hbuys]
    by_cases hatr : below (averageAtr df) latest.atr = true
    · have hconfidence := (analyze_confidence hbuys.2).2 hatr
      rw [if_neg (by omega)]
      exact .inl ⟨⟨hbuys.1.1, hbuys.1.2, hbuys.2, hatr⟩, rfl⟩
    · have hconfidence := mt (analyze_confidence hbuys.2).1 hatr
      rw [if_pos ⟨by decide, by omega⟩]
      exact .inr ⟨fun h => hatr h.volatility, rfl⟩
  · rw [if_neg hbuys, if_neg fun h => h.1 rfl]
    exact .inr ⟨fun h => hbuys ⟨⟨h.close, h.averages⟩, h.momentum⟩, rfl⟩

theorem evaluate_buy_iff : (evaluate df latest latest.regime).signal = .buy ↔ Rising df latest := by
  change (presented (toCanonical latest.regime) (analyze df latest)).1 = .buy ↔ Rising df latest
  rcases presented_cases df latest with ⟨h, hsignal⟩ | ⟨h, hsignal⟩
  · exact ⟨fun _ => h, fun _ => hsignal⟩
  · rw [hsignal]
    exact ⟨fun hbuy => (by cases hbuy), fun h' => absurd h' h⟩

theorem evaluate_ne_sell : (evaluate df latest latest.regime).signal ≠ .sell := by
  change (presented (toCanonical latest.regime) (analyze df latest)).1 ≠ .sell
  rcases presented_cases df latest with ⟨-, hsignal⟩ | ⟨-, hsignal⟩
  · rw [hsignal]
    decide
  · rw [hsignal]
    decide

theorem evaluate_noTrade (h : ¬Rising df latest) : (evaluate df latest latest.regime).signal = .noTrade := by
  rcases presented_cases df latest with ⟨h', -⟩ | ⟨-, hsignal⟩
  · exact absurd h' h
  · exact hsignal

theorem build_noTrade (reasons warnings : List String) (price : ℚ) (atr : Option ℚ) :
    (build .noTrade reasons warnings price atr).signal = .noTrade ∧
      (build .noTrade reasons warnings price atr).levels = none := by
  unfold build
  split
  · exact ⟨rfl, rfl⟩
  · rw [if_pos rfl]
    exact ⟨rfl, rfl⟩

theorem evaluate_plan_of_not_rising (h : ¬Rising df latest) :
    (evaluate df latest latest.regime).tradePlan.signal = .noTrade ∧
      (evaluate df latest latest.regime).tradePlan.levels = none := by
  have hsignal : (presented (toCanonical latest.regime) (analyze df latest)).1 = .noTrade := evaluate_noTrade h
  change (build (presented (toCanonical latest.regime) (analyze df latest)).1 _ _ _ _).signal = .noTrade ∧
    (build (presented (toCanonical latest.regime) (analyze df latest)).1 _ _ _ _).levels = none
  rw [hsignal]
  exact build_noTrade _ _ _ _

end Strategy
end Jqe
