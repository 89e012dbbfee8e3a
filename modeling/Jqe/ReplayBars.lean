import Jqe.PyText
import Jqe.ShadowOutcomes
import Jqe.StrategySignal
/-!
# ReplayBars — `replay_shadow_bars` (`research/shadow_outcomes.py`)

The pipeline runs on a window of 500 bars, at the bars that a mask lets through.  The mask is read off the indicators of the
whole history, and it drops the bars whose range is more than one and a half times its mean.
-/
namespace Jqe
namespace ReplayBars

open Column Indicators Strategy List

/-! ### The loop -/

def frame (bars : List ShadowBar) : List PriceRow := bars.map fun b => ⟨b.open_, b.high, b.low, b.close⟩

def history (data : List PriceRow) (index : ℕ) : List PriceRow := (data.take (index + 1)).drop (index - 499)

def atMost : Option ℚ → Option ℚ → Bool
  | some x, some y => x ≤ y
  | _, _ => false

def atrAverage (enriched : List IndicatorRow) : List (Option ℚ) := rolling 500 15 (enriched.map (·.atr))

/-- A row of `candidate_mask`. -/
def candidate (row : IndicatorRow) (average : Option ℚ) : Bool :=
  let bullishRegime := row.ema50 < row.close && row.ema200 < row.ema50 && below (some 50) row.rsi
  let bearishRegime := row.close < row.ema50 && row.ema50 < row.ema200 && below row.rsi (some 50)
  (bullishRegime || bearishRegime) && below (some 60) row.rsi && below average row.atr &&
    atMost row.atr (average.map (· * (3 / 2)))

def candidateMask (data : List PriceRow) : List Bool :=
  let enriched := calculateIndicators data
  List.zipWith candidate enriched (atrAverage enriched)

def defaultHorizonBars : ℕ := 20

/-- `SignalSpec(…)`, which raises what its checks refuse; its id is a digest of the bar's text. -/
def signalSpec (digest : String → String) (symbol : String) (timeframe : Timeframe) (side : OrderSide) (last : ShadowBar)
    (levels : Levels) (decision : Decision) : Except PyExc SignalSpec :=
  let signalClose := last.time + timeframe.seconds
  if h : 0 < levels.stopLoss ∧ 0 < levels.takeProfit then
    .ok {
      signalId := digest ("replay:" ++ symbol ++ ":" ++ timeframe.value ++ ":" ++ isoformat signalClose)
      symbol
      timeframe
      side
      signalClose
      stopLoss := levels.stopLoss
      takeProfit := levels.takeProfit
      legacyScore := some decision.confidence
      institutionalScore := some decision.breakdown.total
      horizonBars := defaultHorizonBars
      levels_pos := h
      horizon_pos := by decide }
  else .error (.exception "stop and target must be positive")

def sideOf : SignalKind → Option OrderSide
  | .buy => some .buy
  | .sell => some .sell
  | .noTrade => none

def bodyAt (digest : String → String) (symbol : String) (timeframe : Timeframe) (closedBars : List ShadowBar) (index : ℕ) :
    Except PyExc (Option SignalSpec) := do
  let decision ← signalOf (calculateIndicators (history (frame closedBars) index))
  match sideOf decision.signal, closedBars[index]?, decision.tradePlan.levels with
  | some side, some last, some levels =>
    if decision.tradePlan.isValid then
      let spec ← signalSpec digest symbol timeframe side last levels decision
      return some spec
    else return none
  | _, _, _ => return none

def specsAt (body : ℕ → Except PyExc (Option SignalSpec)) : List ℕ → Except PyExc (List SignalSpec)
  | [] => .ok []
  | index :: rest => do
    let spec ← body index
    let specs ← specsAt body rest
    return spec.toList ++ specs

structure Replay where
  specs : List SignalSpec
  closedBars : List ShadowBar
  reason : Option String

def closedBars (timeframe : Timeframe) (bars : List ShadowBar) (cutoff : ℤ) : List ShadowBar :=
  (sortByTime bars).filter fun bar => bar.time + timeframe.seconds ≤ cutoff

/-- `range(minimum_history - 1, len(closed_bars))`, of a minimum of one bar more than `first`. -/
def indices (first count : ℕ) : List ℕ := List.range' first (count - first)

def replayShadowBars (digest : String → String) (symbol : String) (timeframe : Timeframe) (bars : List ShadowBar) (first : ℕ)
    (cutoff : ℤ) : Except PyExc Replay := do
  let closed := closedBars timeframe bars cutoff
  let count := closed.length
  let minimum := first + 1
  if count < minimum then return ⟨[], closed, some s!"insufficient cached history ({count} < {minimum})"⟩
  let mask := candidateMask (frame closed)
  let candidates := (indices first count).filter fun index => mask.getD index false
  let specs ← specsAt (bodyAt digest symbol timeframe closed) candidates
  return ⟨specs, closed, none⟩

/-! ### The window and the history -/

variable {data : List PriceRow} {i : ℕ}

/-- A bar at which the pipeline yields a valid trade. -/
def Yields (data : List PriceRow) (i : ℕ) : Prop :=
  ∃ decision, signalOf (calculateIndicators (history data i)) = .ok decision ∧ decision.signal ≠ .noTrade ∧
    decision.tradePlan.isValid = true

/-- **A bar that the mask lets through if the pipeline yields a trade at it**: its range has a mean over the 500 bars and is at
most one and a half times it; and from the bar on that the window forgets the first one, the whole history rises too. -/
def Passes (data : List PriceRow) (i : ℕ) : Prop :=
  ∃ row average atr, (calculateIndicators data)[i]? = some row ∧ row.atr = some atr ∧
    mean 15 (window 500 i ((calculateIndicators data).map (·.atr))) = some average ∧ atr ≤ average * (3 / 2) ∧
      (500 ≤ i → row.ema50 < row.close ∧ row.ema200 < row.ema50 ∧ average < atr)

theorem history_length (hi : i < data.length) : (history data i).length = min (i + 1) 500 := by
  unfold history
  rw [length_drop, length_take]
  omega

theorem history_short (hi : i < 500) : calculateIndicators (history data i) = (calculateIndicators data).take (i + 1) := by
  unfold history
  rw [Nat.sub_eq_zero_of_le (by omega), drop_zero, causal_calculateIndicators]

theorem getElem?_take_self {α : Type} (l : List α) (i : ℕ) : (l.take (i + 1))[i]? = l[i]? :=
  getElem?_take_of_lt (Nat.lt_succ_self i)

theorem latest_of_history (hi : i < data.length) : ∃ latest row,
    (calculateIndicators (history data i)).getLast? = some latest ∧ (calculateIndicators data)[i]? = some row ∧
      latest.toPriceRow = row.toPriceRow ∧ latest.rsi = row.rsi ∧ latest.atr = row.atr ∧ (i < 500 → latest = row) := by
  obtain ⟨row, hrow⟩ : ∃ row, (calculateIndicators data)[i]? = some row :=
    ⟨_, getElem?_eq_getElem (by rwa [calculateIndicators_length])⟩
  rcases Nat.lt_or_ge i 500 with hshort | hlong
  · refine ⟨row, row, ?_, hrow, rfl, rfl, rfl, fun _ => rfl⟩
    have hlen : ((calculateIndicators data).take (i + 1)).length = i + 1 := by
      rw [length_take, calculateIndicators_length]
      omega
    rw [history_short hshort, getLast?_eq_getElem?, hlen, Nat.add_sub_cancel, getElem?_take_self, hrow]
  · have hlen : (calculateIndicators (history data i)).length = 500 := by
      rw [calculateIndicators_length, history_length hi]
      omega
    have hlast : 499 < (calculateIndicators (history data i)).length := by omega
    have hlatest := getElem?_eq_getElem hlast
    generalize (calculateIndicators (history data i))[499] = latest at hlatest
    have hwhole : (calculateIndicators (data.take (i + 1)))[i - 499 + 499]? = some row := by
      have hcancel : i - 499 + 499 = i := by omega
      rw [hcancel, causal_calculateIndicators, getElem?_take_self, hrow]
    obtain ⟨hprices, hrsi, hatr⟩ := row_of_drop (by decide) hlatest hwhole
    refine ⟨latest, row, ?_, hrow, hprices, hrsi, hatr, fun hshort => absurd hshort (not_lt.2 hlong)⟩
    rw [getLast?_eq_getElem?, hlen, hlatest]

/-! ### The mask -/

theorem mask_at {row : IndicatorRow} (hrow : (calculateIndicators data)[i]? = some row) :
    (candidateMask data).getD i false =
      candidate row (mean 15 (window 500 i ((calculateIndicators data).map (·.atr)))) := by
  have hi : i < ((calculateIndicators data).map (·.atr)).length := by
    rw [length_map]
    exact (List.getElem?_eq_some_iff.1 hrow).1
  unfold candidateMask atrAverage
  dsimp only
  rw [getD_eq_getElem?_getD, getElem?_zipWith, hrow, rolling_getElem? 500 15 hi]
  rfl

theorem atMost_iff {x y : Option ℚ} : atMost x y = true ↔ ∃ a b, x = some a ∧ y = some b ∧ a ≤ b := by
  cases x <;> cases y <;> simp [atMost]

theorem candidate_iff {row : IndicatorRow} {average : Option ℚ} (hrsi : below (some 60) row.rsi = true) :
    candidate row average = true ↔ ∃ m atr, average = some m ∧ row.atr = some atr ∧ row.ema50 < row.close ∧
      row.ema200 < row.ema50 ∧ m < atr ∧ atr ≤ m * (3 / 2) := by
  obtain ⟨a, rsi, ha, hr, hlt⟩ := below_iff.1 hrsi
  cases ha
  have hup : below (some 50) row.rsi = true := by
    rw [hr]
    exact decide_eq_true (by linarith)
  have hdown : below row.rsi (some 50) = false := by
    rw [hr]
    exact decide_eq_false (by linarith)
  unfold candidate
  rw [hup, hdown, hrsi]
  simp only [Bool.and_true, Bool.and_false, Bool.or_false, Bool.and_eq_true, decide_eq_true_eq, below_iff, atMost_iff]
  constructor
  · rintro ⟨⟨⟨hclose, haverages⟩, m, atr, hm, hatr, hmore⟩, atr', bound, hatr', hbound, hle⟩
    rw [hm] at hbound
    cases hbound
    cases hatr.symm.trans hatr'
    exact ⟨m, atr, hm, hatr, hclose, haverages, hmore, hle⟩
  · rintro ⟨m, atr, rfl, hatr, hclose, haverages, hmore, hle⟩
    exact ⟨⟨⟨hclose, haverages⟩, m, atr, rfl, hatr, hmore⟩, atr, _, hatr, rfl, hle⟩

theorem mean_least {xs : List (Option ℚ)} {n least : ℕ} {m : ℚ} (h : mean n xs = some m) (hle : least ≤ n) :
    mean least xs = some m := by
  unfold mean at h ⊢
  split at h
  · cases h
  · rename_i hn
    rw [if_neg (by omega)]
    exact h

/-- **Where the pipeline yields a trade** the market rises in the window. -/
theorem Yields.rising {latest : IndicatorRow} (h : Yields data i)
    (hlatest : (calculateIndicators (history data i)).getLast? = some latest) :
    Rising (calculateIndicators (history data i)) latest := by
  obtain ⟨decision, hdecision, htrade, -⟩ := h
  rw [signalOf_eq hlatest] at hdecision
  cases hdecision
  by_contra hnot
  exact htrade (evaluate_noTrade hnot)

/-- **The mask at a bar with a trade.** -/
theorem mask_iff_passes (hi : i < data.length) (h : Yields data i) :
    (candidateMask data).getD i false = true ↔ Passes data i := by
  obtain ⟨latest, row, hlatest, hrow, hprices, hrsi, hatr, hsame⟩ := latest_of_history hi
  have hrises := h.rising hlatest
  have hmomentum := hrises.momentum
  rw [hrsi] at hmomentum
  rw [mask_at hrow, candidate_iff hmomentum]
  constructor
  · rintro ⟨m, atr, hm, hatr', hclose, haverages, hmore, hle⟩
    exact ⟨row, m, atr, hrow, hatr', hm, hle, fun _ => ⟨hclose, haverages, hmore⟩⟩
  · rintro ⟨row', m, atr, hrow', hatr', hm, hle, hlate⟩
    cases hrow.symm.trans hrow'
    rcases Nat.lt_or_ge i 500 with hshort | hlong
    · cases hsame hshort
      -- the window is the whole history, and the range is above its mean
      have hmean : averageAtr (calculateIndicators (history data i)) = some m := by
        have hcolumn : (calculateIndicators (history data i)).map (·.atr) =
            window 500 i ((calculateIndicators data).map (·.atr)) := by
          unfold window
          rw [history_short hshort, Nat.sub_eq_zero_of_le (by omega), drop_zero, map_take]
        unfold averageAtr
        rw [hcolumn]
        exact mean_least hm (by decide)
      obtain ⟨a, b, ha, hb, hlt⟩ := below_iff.1 hrises.volatility
      rw [hmean] at ha
      rw [hatr'] at hb
      cases ha
      cases hb
      exact ⟨m, atr, hm, hatr', hrises.close, hrises.averages, hlt, hle⟩
    · obtain ⟨hclose, haverages, hmore⟩ := hlate hlong
      exact ⟨m, atr, hm, hatr', hclose, haverages, hmore, hle⟩

/-! ### The replay -/

theorem specsAt_filter {body : ℕ → Except PyExc (Option SignalSpec)} {mask : ℕ → Bool} : ∀ {l : List ℕ},
    (∀ index ∈ l, mask index = false → body index = .ok none) → specsAt body (l.filter mask) = specsAt body l
  | [], _ => rfl
  | index :: rest, h => by
    have ih := specsAt_filter fun j hj => h j (mem_cons_of_mem index hj)
    rw [filter_cons]
    cases hmask : mask index with
    | true =>
      rw [if_pos rfl]
      unfold specsAt
      rw [ih]
    | false =>
      rw [if_neg Bool.false_ne_true, ih]
      conv_rhs => unfold specsAt
      rw [h index mem_cons_self hmask]
      cases specsAt body rest <;> rfl

section

variable {digest : String → String} {symbol : String} {timeframe : Timeframe}

theorem frame_length (closed : List ShadowBar) : (frame closed).length = closed.length := length_map ..

theorem bodyAt_of_not_yields {closed : List ShadowBar} {index : ℕ} (hi : index < closed.length)
    (h : ¬Yields (frame closed) index) : bodyAt digest symbol timeframe closed index = .ok none := by
  obtain ⟨latest, -, hlatest, -⟩ := latest_of_history (i := index) (by rwa [frame_length] : index < (frame closed).length)
  have hsignal := signalOf_eq hlatest
  unfold bodyAt
  rw [hsignal]
  generalize Strategy.evaluate _ latest latest.regime = decision at hsignal
  change (match sideOf decision.signal, closed[index]?, decision.tradePlan.levels with
    | some side, some last, some levels =>
      if decision.tradePlan.isValid then do
        let spec ← signalSpec digest symbol timeframe side last levels decision
        return some spec
      else return none
    | _, _, _ => return none : Except PyExc (Option SignalSpec)) = .ok none
  split
  · rename_i hside _ _
    split
    · rename_i hvalid
      refine absurd ⟨decision, hsignal, fun hnone => ?_, hvalid⟩ h
      rw [hnone] at hside
      cases hside
    · rfl
  · rfl

theorem mem_indices {first count index : ℕ} : index ∈ indices first count ↔ first ≤ index ∧ index < count := by
  unfold indices
  rw [mem_range'_1]
  omega

variable (digest symbol timeframe)

theorem replay_specs (bars : List ShadowBar) (first : ℕ) (cutoff : ℤ) :
    Replay.specs <$> replayShadowBars digest symbol timeframe bars first cutoff =
      specsAt (bodyAt digest symbol timeframe (closedBars timeframe bars cutoff))
        ((indices first (closedBars timeframe bars cutoff).length).filter fun index =>
          (candidateMask (frame (closedBars timeframe bars cutoff))).getD index false) := by
  unfold replayShadowBars
  generalize closedBars timeframe bars cutoff = closed
  dsimp only
  by_cases hcount : closed.length < first + 1
  · have hnone : indices first closed.length = [] := by
      unfold indices
      rw [Nat.sub_eq_zero_of_le (by omega), range'_zero]
    rw [if_pos hcount, hnone]
    rfl
  · rw [if_neg hcount]
    cases specsAt _ _ <;> rfl

/-- **The prefilter is exact**: the specs are those of the body at every bar, and no bar with a valid trade is dropped. -/
structure Exact (bars : List ShadowBar) (first : ℕ) (cutoff : ℤ) : Prop where
  specs : Replay.specs <$> replayShadowBars digest symbol timeframe bars first cutoff =
    specsAt (bodyAt digest symbol timeframe (closedBars timeframe bars cutoff))
      (indices first (closedBars timeframe bars cutoff).length)
  kept : ∀ index, first ≤ index → index < (closedBars timeframe bars cutoff).length →
    Yields (frame (closedBars timeframe bars cutoff)) index →
      (candidateMask (frame (closedBars timeframe bars cutoff))).getD index false = true

/-- **The prefilter is exact exactly when every bar with a valid trade passes**: its range is at most one and a half times the
mean of 500 bars, and from the 501st bar on the whole history rises as well. -/
theorem prefilter_exact_iff (bars : List ShadowBar) (first : ℕ) (cutoff : ℤ) :
    Exact digest symbol timeframe bars first cutoff ↔
      ∀ index, first ≤ index → index < (closedBars timeframe bars cutoff).length →
        Yields (frame (closedBars timeframe bars cutoff)) index → Passes (frame (closedBars timeframe bars cutoff)) index := by
  constructor
  · intro h index hfirst hcount hyields
    exact (mask_iff_passes (by rwa [frame_length]) hyields).1 (h.kept index hfirst hcount hyields)
  · intro h
    have hkept : ∀ index, first ≤ index → index < (closedBars timeframe bars cutoff).length →
        Yields (frame (closedBars timeframe bars cutoff)) index →
          (candidateMask (frame (closedBars timeframe bars cutoff))).getD index false = true := by
      intro index hfirst hcount hyields
      exact (mask_iff_passes (by rwa [frame_length]) hyields).2 (h index hfirst hcount hyields)
    refine ⟨?_, hkept⟩
    rw [replay_specs]
    refine specsAt_filter fun index hindex hmask => ?_
    obtain ⟨hfirst, hcount⟩ := mem_indices.1 hindex
    refine bodyAt_of_not_yields hcount fun hyields => ?_
    rw [hkept index hfirst hcount hyields] at hmask
    cases hmask

end

/-! ### A range above its ceiling -/

def burstBars : List ShadowBar := (List.range 220).map fun n : ℕ =>
  if n < 206 then ⟨60 * n, 100, 201 / 2, 199 / 2, 100, none⟩
  else ⟨60 * n, n - 106, n - 100, n - 110, n - 105, none⟩

theorem burst_closed : closedBars .m1 burstBars 13200 = burstBars := by decide +kernel

theorem burst_buys : (signalOf (calculateIndicators (history (frame burstBars) 219))).toOption.map
    (fun decision => (decision.signal, decision.tradePlan.isValid)) = some (.buy, true) := by decide +kernel

theorem burst_masked : (candidateMask (frame burstBars)).getD 219 false = false := by decide +kernel

theorem burst_yields : Yields (frame burstBars) 219 := by
  have hbuys := burst_buys
  generalize hsignal : signalOf (calculateIndicators (history (frame burstBars) 219)) = result at hbuys
  cases result with
  | error exc => cases hbuys
  | ok decision =>
    injection hbuys with hpair
    obtain ⟨hbuy, hvalid⟩ := Prod.mk.inj hpair
    refine ⟨decision, hsignal, fun hnone => ?_, hvalid⟩
    rw [hnone] at hbuy
    cases hbuy

/-- **The prefilter drops a purchase** with the default minimum history. -/
theorem prefilter_drops_buy : ¬∀ (digest : String → String) (symbol : String) (timeframe : Timeframe) (bars : List ShadowBar)
    (first : ℕ) (cutoff : ℤ), Exact digest symbol timeframe bars first cutoff := by
  intro h
  have hkept := (h id "EURUSD" .m1 burstBars 219 13200).kept 219 le_rfl
  rw [burst_closed, burst_masked] at hkept
  have hcount : 219 < burstBars.length := by
    unfold burstBars
    rw [List.length_map, List.length_range]
    decide
  cases hkept hcount burst_yields

end ReplayBars
end Jqe
