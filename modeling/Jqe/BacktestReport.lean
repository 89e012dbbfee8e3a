import Mathlib
import Jqe.Backtest
import Jqe.Drawdowns
import Jqe.Streaks
/-!
# BacktestReport — `build_backtest_result` (`backtesting/backtest.py`, `backtesting/drawdown.py`)

The figures of a result, from the trades and the balances of an engine in one pass each.  The identity of the dataset,
its fingerprints and the indicator rows are left out.
-/
namespace Jqe

open Drawdowns Streaks List

def balanceDrawdown (balance peak : ℚ) : ℚ × ℚ × ℚ :=
  let peak := max peak balance
  let amount := peak - balance
  (peak, amount, if peak ≠ 0 then amount / peak * 100 else 0)

structure DrawdownScan where
  peak : ℚ
  maxDd : ℚ
  maxDdPct : ℚ
  deriving DecidableEq

def DrawdownScan.next (s : DrawdownScan) (balance : ℚ) : DrawdownScan :=
  let (peak, drawdown, percent) := balanceDrawdown balance s.peak
  if s.maxDd < drawdown then ⟨peak, drawdown, percent⟩ else { s with peak }

structure StreakScan where
  winRun : ℕ
  lossRun : ℕ
  maxWins : ℕ
  maxLosses : ℕ
  deriving DecidableEq

def StreakScan.next (s : StreakScan) (pnl : ℚ) : StreakScan :=
  let (winRun, lossRun) :=
    if 0 < pnl then (s.winRun + 1, 0) else if pnl < 0 then (0, s.lossRun + 1) else (0, 0)
  ⟨winRun, lossRun, max s.maxWins winRun, max s.maxLosses lossRun⟩

structure BacktestResult where
  initialCapital : ℚ
  endingCapital : ℚ
  absolutePnl : ℚ
  returnPercent : ℚ
  totalTrades : ℕ
  winningTrades : ℕ
  losingTrades : ℕ
  breakEvenTrades : ℕ
  winRatePercent : ℚ
  grossProfit : ℚ
  grossLoss : ℚ
  profitFactor : Option ℚ
  profitFactorStatus : String
  averageTradePnl : ℚ
  averageWinner : Option ℚ
  averageLoser : Option ℚ
  largestWinner : Option ℚ
  largestLoser : Option ℚ
  expectancy : ℚ
  maximumDrawdown : ℚ
  maximumDrawdownPercent : ℚ
  drawdownBasis : String
  averageHoldingCandles : ℚ
  maximumConsecutiveWins : ℕ
  maximumConsecutiveLosses : ℕ
  trades : List BacktestTrade
  decisions : List BacktestDecision
  deriving DecidableEq

def average (total : ℚ) (count : ℕ) : ℚ := if count = 0 then 0 else total / count

def profitFactor (grossProfit grossLoss : ℚ) : Option ℚ × String :=
  if grossLoss ≠ 0 then (some (grossProfit / grossLoss), "DEFINED")
  else if grossProfit ≠ 0 then (none, "POSITIVE_WITHOUT_LOSSES")
  else (none, "UNDEFINED_NO_PROFIT_OR_LOSS")

def buildBacktestResult (cfg : BacktestConfiguration) (engine : BacktestEngine) : Except PyExc BacktestResult :=
  match engine.equityCurve with
  | [] => .error (.exception "list index out of range")
  | first :: _ =>
    let pnls := engine.trades.map (·.netPnl)
    let wins := pnls.filter (0 < ·)
    let losses := pnls.filter (· < 0)
    let grossProfit := wins.sum
    let grossLoss := |losses.sum|
    let drawdowns := engine.equityCurve.foldl DrawdownScan.next ⟨first, 0, 0⟩
    let streaks := pnls.foldl StreakScan.next ⟨0, 0, 0, 0⟩
    let count := pnls.length
    .ok {
      initialCapital := cfg.startingBalance
      endingCapital := engine.balance
      absolutePnl := engine.balance - cfg.startingBalance
      returnPercent := (engine.balance - cfg.startingBalance) / cfg.startingBalance * 100
      totalTrades := count
      winningTrades := wins.length
      losingTrades := losses.length
      breakEvenTrades := count - wins.length - losses.length
      winRatePercent := if count = 0 then 0 else wins.length / count * 100
      grossProfit
      grossLoss
      profitFactor := (profitFactor grossProfit grossLoss).1
      profitFactorStatus := (profitFactor grossProfit grossLoss).2
      averageTradePnl := average pnls.sum count
      averageWinner := if wins = [] then none else some (average wins.sum wins.length)
      averageLoser := if losses = [] then none else some (average losses.sum losses.length)
      largestWinner := wins.max?
      largestLoser := losses.min?
      expectancy := average pnls.sum count
      maximumDrawdown := drawdowns.maxDd
      maximumDrawdownPercent := drawdowns.maxDdPct
      drawdownBasis := "REALIZED_BALANCE"
      averageHoldingCandles := average ((engine.trades.map (·.holdingCandles)).sum : ℤ) count
      maximumConsecutiveWins := streaks.maxWins
      maximumConsecutiveLosses := streaks.maxLosses
      trades := engine.trades
      decisions := engine.decisions }

/-! ## The loops -/

def percentOf (m : Mark ℚ) : ℚ := if m.peak ≠ 0 then m.amount / m.peak * 100 else 0

theorem drawdownScan_eq (curve : List ℚ) (p : ℚ) (b : Mark ℚ) :
    curve.foldl DrawdownScan.next ⟨p, b.amount, percentOf b⟩ =
      ⟨curve.foldl max p, (deepest b (marks p curve)).amount, percentOf (deepest b (marks p curve))⟩ := by
  induction curve generalizing p b with
  | nil => rfl
  | cons x curve ih =>
    have hnext : DrawdownScan.next ⟨p, b.amount, percentOf b⟩ x =
        if b.amount < max p x - x then ⟨max p x, max p x - x, percentOf ⟨max p x, max p x - x⟩⟩
        else ⟨max p x, b.amount, percentOf b⟩ := rfl
    have hdeepest : deepest b (marks p (x :: curve)) =
        deepest (if b.amount < max p x - x then ⟨max p x, max p x - x⟩ else b) (marks (max p x) curve) := rfl
    rw [foldl_cons, foldl_cons, hnext, hdeepest]
    by_cases hdeeper : b.amount < max p x - x
    · rw [if_pos hdeeper, if_pos hdeeper]
      exact ih (max p x) ⟨max p x, max p x - x⟩
    · rw [if_neg hdeeper, if_neg hdeeper]
      exact ih (max p x) b

theorem drawdownScan_start (first : ℚ) (curve : List ℚ) :
    (curve.foldl DrawdownScan.next ⟨first, 0, 0⟩).maxDd = (deepest ⟨first, 0⟩ (marks first curve)).amount ∧
      (curve.foldl DrawdownScan.next ⟨first, 0, 0⟩).maxDdPct = percentOf (deepest ⟨first, 0⟩ (marks first curve)) := by
  have hzero : percentOf ⟨first, 0⟩ = 0 := by
    unfold percentOf
    split
    · rw [zero_div, zero_mul]
    · rfl
  have hscan := drawdownScan_eq curve first ⟨first, 0⟩
  rw [hzero] at hscan
  rw [hscan]
  exact ⟨rfl, rfl⟩

theorem streakScan_eq (pnls : List ℚ) (wins losses : Runs) :
    pnls.foldl StreakScan.next ⟨wins.run, losses.run, wins.longest, losses.longest⟩ =
      ⟨((pnls.map fun p => decide (0 < p)).foldl Runs.next wins).run,
        ((pnls.map fun p => decide (p < 0)).foldl Runs.next losses).run,
        ((pnls.map fun p => decide (0 < p)).foldl Runs.next wins).longest,
        ((pnls.map fun p => decide (p < 0)).foldl Runs.next losses).longest⟩ := by
  induction pnls generalizing wins losses with
  | nil => rfl
  | cons p pnls ih =>
    have hnext : StreakScan.next ⟨wins.run, losses.run, wins.longest, losses.longest⟩ p =
        ⟨(wins.next (decide (0 < p))).run, (losses.next (decide (p < 0))).run, (wins.next (decide (0 < p))).longest,
          (losses.next (decide (p < 0))).longest⟩ := by
      unfold StreakScan.next Runs.next
      by_cases hwin : 0 < p
      · have hnot : ¬p < 0 := hwin.le.not_gt
        simp only [hwin, hnot, if_true, decide_true, decide_false, Bool.false_eq_true, if_false]
      · by_cases hloss : p < 0
        · simp only [hwin, hloss, if_true, decide_true, decide_false, Bool.false_eq_true, if_false]
        · simp only [hwin, hloss, decide_false, Bool.false_eq_true, if_false]
    rw [foldl_cons, hnext, ih]
    rfl

theorem wins_add_losses_le (pnls : List ℚ) :
    (pnls.filter (0 < ·)).length + (pnls.filter (· < 0)).length ≤ pnls.length := by
  induction pnls with
  | nil => exact le_refl 0
  | cons p pnls ih =>
    rw [filter_cons, filter_cons, length_cons]
    by_cases hwin : 0 < p
    · have hnot : ¬p < 0 := hwin.le.not_gt
      rw [if_pos (decide_eq_true hwin), if_neg (by rw [decide_eq_true_eq]; exact hnot), length_cons]
      omega
    · rw [if_neg (by rw [decide_eq_true_eq]; exact hwin)]
      split
      · rw [length_cons]
        omega
      · omega

/-! ## What is reported -/

/-- **The figures are what they say**: the drawdown is the greatest fall between two balances in order, the streaks are
the longest blocks of winners and of losers, and every trade is counted once. -/
theorem backtest_report (cfg : BacktestConfiguration) (engine : BacktestEngine) (hcurve : engine.equityCurve ≠ []) :
    ∃ r, buildBacktestResult cfg engine = .ok r ∧
      IsGreatest {d | ∃ (i j : ℕ) (x y : ℚ), i ≤ j ∧ engine.equityCurve[i]? = some x ∧ engine.equityCurve[j]? = some y ∧
        d = x - y} r.maximumDrawdown ∧
      IsGreatest {n | ∃ block, block <:+: engine.trades ∧ (∀ t ∈ block, 0 < t.netPnl) ∧ block.length = n}
        r.maximumConsecutiveWins ∧
      IsGreatest {n | ∃ block, block <:+: engine.trades ∧ (∀ t ∈ block, t.netPnl < 0) ∧ block.length = n}
        r.maximumConsecutiveLosses ∧
      r.winningTrades + r.losingTrades + r.breakEvenTrades = r.totalTrades ∧ r.totalTrades = engine.trades.length := by
  unfold buildBacktestResult
  cases hlist : engine.equityCurve with
  | nil => exact absurd hlist hcurve
  | cons first rest =>
    have hstreaks := streakScan_eq (engine.trades.map (·.netPnl)) ⟨0, 0⟩ ⟨0, 0⟩
    rw [List.map_map, List.map_map] at hstreaks
    refine ⟨_, rfl, ?_, ?_, ?_, ?_, List.length_map _⟩
    · change IsGreatest _ (((first :: rest).foldl DrawdownScan.next ⟨first, 0, 0⟩).maxDd)
      rw [(drawdownScan_start first (first :: rest)).1]
      exact deepest_isGreatest first rest first
    · change IsGreatest _ (((engine.trades.map (·.netPnl)).foldl StreakScan.next ⟨0, 0, 0, 0⟩).maxWins)
      rw [hstreaks]
      have hlongest := longest_isGreatest (fun t : BacktestTrade => decide (0 < t.netPnl)) engine.trades
      simp only [decide_eq_true_eq] at hlongest
      exact hlongest
    · change IsGreatest _ (((engine.trades.map (·.netPnl)).foldl StreakScan.next ⟨0, 0, 0, 0⟩).maxLosses)
      rw [hstreaks]
      have hlongest := longest_isGreatest (fun t : BacktestTrade => decide (t.netPnl < 0)) engine.trades
      simp only [decide_eq_true_eq] at hlongest
      exact hlongest
    · have hle := wins_add_losses_le (engine.trades.map (·.netPnl))
      dsimp only
      omega

def reportTrade (before net : ℚ) : BacktestTrade where
  tradeId := 1
  direction := .buy
  signalTimestamp := 0
  entryTimestamp := 60
  entryPrice := 100
  exitTimestamp := 120
  exitPrice := 100 + net
  stopPrice := 95
  targetPrice := 105
  quantity := ⟨1, .simulationUnits, by decide +kernel⟩
  grossPnl := net
  costs := 0
  netPnl := net
  balanceBefore := before
  balanceAfter := before + net
  holdingCandles := 1
  exitReason := .endOfData

def reportCurve : List ℚ := [10, 12, 14, 11, 12]

/-- Two winners, a loser and a winner. -/
def reportEngine : BacktestEngine :=
  { balance := 12, pending := none, position := none, decisions := [], equityCurve := reportCurve
    trades := [reportTrade 10 2, reportTrade 12 2, reportTrade 14 (-3), reportTrade 11 1]
    totalTrades := 4, wins := 3, losses := 1 }

theorem backtest_report_falls : ∃ r, buildBacktestResult ⟨10, {}, {}, by norm_num⟩ reportEngine = .ok r ∧
    (r.maximumDrawdown = 3 ∧ r.maximumConsecutiveWins = 2 ∧ r.maximumConsecutiveLosses = 1) ∧
      (14 - 12 : ℚ) ≤ r.maximumDrawdown := by
  obtain ⟨r, hr, hgreatest, _⟩ := backtest_report ⟨10, {}, {}, by norm_num⟩ reportEngine (by decide)
  refine ⟨r, hr, ?_, hgreatest.2 ⟨2, 4, 14, 12, by decide, rfl, rfl, rfl⟩⟩
  have hrun : (buildBacktestResult ⟨10, {}, {}, by norm_num⟩ reportEngine).toOption.any (fun r =>
      decide (r.maximumDrawdown = 3 ∧ r.maximumConsecutiveWins = 2 ∧ r.maximumConsecutiveLosses = 1)) = true := by
    decide +kernel
  rw [hr] at hrun
  exact of_decide_eq_true hrun

/-! ## The percentage -/

/-- The running peak at a point, and the decline from it. -/
def peakOf (curve : List ℚ) (k : ℕ) : ℚ := peakAt (curve.headD 0) curve k

def declineOf (curve : List ℚ) (k : ℕ) : ℚ := peakOf curve k - curve.getD k 0

structure FirstDeepest (curve : List ℚ) (k : ℕ) : Prop where
  inside : k < curve.length
  first : ∀ i < k, declineOf curve i < declineOf curve k
  deepest : ∀ i < curve.length, declineOf curve i ≤ declineOf curve k

/-- **Nowhere does a curve lose more of its peak than where it first loses most.** -/
def DeepestIsSteepest (curve : List ℚ) : Prop :=
  ∀ k, FirstDeepest curve k → ∀ j < curve.length, declineOf curve j * peakOf curve k ≤ declineOf curve k * peakOf curve j

theorem marks_of_lt (first : ℚ) (rest : List ℚ) {k : ℕ} (h : k < (first :: rest).length) :
    (marks first (first :: rest))[k]? = some ⟨peakOf (first :: rest) k, declineOf (first :: rest) k⟩ := by
  rw [marks_getElem?, getElem?_eq_getElem h, Option.map_some]
  unfold declineOf
  rw [getD_eq_getElem?_getD, getElem?_eq_getElem h]
  rfl

theorem peakOf_pos {first : ℚ} {rest : List ℚ} (hpos : ∀ b ∈ first :: rest, 0 < b) (k : ℕ) :
    0 < peakOf (first :: rest) k := by
  obtain ⟨i, _, hi⟩ := (peakAt_isGreatest first rest k).1
  exact hpos _ (mem_of_getElem? hi)

theorem declineOf_zero (first : ℚ) (rest : List ℚ) : declineOf (first :: rest) 0 = 0 := by
  change max first first - first = 0
  rw [max_self, sub_self]

theorem exists_firstDeepest (first : ℚ) (rest : List ℚ) : ∃ k, FirstDeepest (first :: rest) k ∧
    percentOf (deepest ⟨first, 0⟩ (marks first (first :: rest))) =
      percentOf ⟨peakOf (first :: rest) k, declineOf (first :: rest) k⟩ := by
  have hmark := fun {k : ℕ} (h : k < (first :: rest).length) => marks_of_lt first rest h
  rcases deepest_spec (marks first (first :: rest)) ⟨first, 0⟩ with ⟨heq, hle⟩ | ⟨k, m, hm, heq, _, hbefore, hle⟩
  · refine ⟨0, ⟨Nat.zero_lt_succ _, fun i hi => absurd hi (Nat.not_lt_zero i), fun i hi => ?_⟩, ?_⟩
    · rw [declineOf_zero]
      exact hle _ (mem_of_getElem? (hmark hi))
    · rw [heq, declineOf_zero]
      change percentOf ⟨first, 0⟩ = percentOf ⟨max first first, 0⟩
      rw [max_self]
  · have hk : k < (first :: rest).length := by
      by_contra hlt
      rw [marks_getElem?, getElem?_eq_none (not_lt.1 hlt)] at hm
      cases hm
    rw [hmark hk] at hm
    cases hm
    refine ⟨k, ⟨hk, fun i hi => hbefore i _ hi (hmark (hi.trans hk)), fun i hi => ?_⟩, by rw [heq]⟩
    exact hle _ (mem_of_getElem? (hmark hi))

theorem FirstDeepest.unique {curve : List ℚ} {k k' : ℕ} (h : FirstDeepest curve k) (h' : FirstDeepest curve k') :
    k = k' := by
  rcases Nat.lt_trichotomy k k' with hlt | heq | hlt
  · exact absurd (h.deepest k' h'.inside) (h'.first k hlt).not_ge
  · exact heq
  · exact absurd (h'.deepest k h.inside) (h.first k' hlt).not_ge

/-- **The reported percentage bounds every decline exactly when the curve loses most of its peak where it first loses
most.** -/
theorem drawdown_percent_iff (cfg : BacktestConfiguration) (engine : BacktestEngine) (hcurve : engine.equityCurve ≠ [])
    (hpos : ∀ b ∈ engine.equityCurve, 0 < b) : ∃ r, buildBacktestResult cfg engine = .ok r ∧
      ((∀ j < engine.equityCurve.length,
          declineOf engine.equityCurve j / peakOf engine.equityCurve j * 100 ≤ r.maximumDrawdownPercent) ↔
        DeepestIsSteepest engine.equityCurve) := by
  unfold buildBacktestResult
  cases hlist : engine.equityCurve with
  | nil => exact absurd hlist hcurve
  | cons first rest =>
    rw [hlist] at hpos
    refine ⟨_, rfl, ?_⟩
    change (∀ j < (first :: rest).length, declineOf (first :: rest) j / peakOf (first :: rest) j * 100 ≤
      ((first :: rest).foldl DrawdownScan.next ⟨first, 0, 0⟩).maxDdPct) ↔ _
    obtain ⟨k, hk, hpercent⟩ := exists_firstDeepest first rest
    have hkpos : 0 < peakOf (first :: rest) k := peakOf_pos hpos k
    rw [(drawdownScan_start first (first :: rest)).2, hpercent]
    unfold percentOf
    rw [if_pos hkpos.ne']
    have hpoint : ∀ j, declineOf (first :: rest) j / peakOf (first :: rest) j * 100 ≤
        declineOf (first :: rest) k / peakOf (first :: rest) k * 100 ↔
        declineOf (first :: rest) j * peakOf (first :: rest) k ≤ declineOf (first :: rest) k * peakOf (first :: rest) j := by
      intro j
      rw [mul_le_mul_iff_of_pos_right (by norm_num), div_le_div_iff₀ (peakOf_pos hpos j) hkpos]
    constructor
    · intro h k' hk' j hj
      rw [hk'.unique hk]
      exact (hpoint j).1 (h j hj)
    · exact fun h j hj => (hpoint j).2 (h k hk j hj)

theorem drawdown_percent_falls : ∃ r, buildBacktestResult ⟨10, {}, {}, by norm_num⟩ reportEngine = .ok r ∧
    declineOf reportCurve 3 / peakOf reportCurve 3 * 100 ≤ r.maximumDrawdownPercent := by
  obtain ⟨r, hr, hiff⟩ := drawdown_percent_iff ⟨10, {}, {}, by norm_num⟩ reportEngine (by decide) (by decide)
  refine ⟨r, hr, hiff.2 (fun k hk j hj => ?_) 3 (by decide)⟩
  have hall : ∀ k < 5, ∀ j < 5, (∀ i < 5, declineOf reportCurve i ≤ declineOf reportCurve k) →
      declineOf reportCurve j * peakOf reportCurve k ≤
        declineOf reportCurve k * peakOf reportCurve j := by
    decide +kernel
  exact hall k hk.inside j hj hk.deepest

/-- **Half of a small balance is lost, then a little of a great one**: the second loss is the larger, and its percentage
is reported. -/
theorem drawdown_percent_less :
    (buildBacktestResult ⟨100, {}, {}, by norm_num⟩ { reportEngine with equityCurve := [100, 50, 1000, 940] }).map
      (·.maximumDrawdownPercent) = .ok 6 ∧
    declineOf [100, 50, 1000, 940] 1 / peakOf [100, 50, 1000, 940] 1 * 100 = 50 := by
  decide +kernel

end Jqe
