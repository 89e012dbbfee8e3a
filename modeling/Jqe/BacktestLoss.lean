import Jqe.BacktestSound
/-!
# BacktestLoss — what a trade of the backtest may lose

The quantity is floored on the distance between the entry and the stop, and a candle that leaves the stop untouched closes
inside it.
-/
namespace Jqe

def OpenPosition.gain (p : OpenPosition) (price : ℚ) : ℚ :=
  match p.direction with
  | .buy => price - p.entryPrice
  | .sell => p.entryPrice - price

structure OpenPosition.Sized (cfg : BacktestConfiguration) (p : OpenPosition) : Prop where
  risk : -(p.gain p.stop * p.quantity.value) ≤ cfg.risk.riskPercent / 100 * p.balanceBefore
  target : p.gain p.stop ≤ p.gain p.target

/-- The trade lost no more than the authorized risk, and the fee beside it. -/
def BacktestTrade.LossBounded (cfg : BacktestConfiguration) (t : BacktestTrade) : Prop :=
  -(cfg.risk.riskPercent / 100 * t.balanceBefore + cfg.execution.feePerTrade) ≤ t.netPnl ∧
    -t.grossPnl ≤ cfg.risk.riskPercent / 100 * t.balanceBefore

def lastProcessed : Option ℕ → List BacktestCall → Option ℕ
  | last, [] => last
  | _, .process index :: cs => lastProcessed (some index) cs
  | last, .queue _ _ :: cs => lastProcessed last cs

variable {cfg : BacktestConfiguration} {table : List BacktestRow} {e e' : BacktestEngine}

theorem authorizeSimulationQuantity_le {balance riskPercent entry stopLoss : ℚ} {quantity : ExecutionQuantity}
    (h : (authorizeSimulationQuantity balance riskPercent entry stopLoss).quantity = some quantity) :
    quantity.value * |entry - stopLoss| ≤ balance * riskPercent / 100 := by
  unfold authorizeSimulationQuantity at h
  dsimp only at h
  split at h
  · cases h
  · rename_i hvalid
    split at h
    · cases h
    · cases h
      have hdistance : 0 < |entry - stopLoss| := not_le.1 fun hle => hvalid (.inr hle)
      have hincrement : (0 : ℚ) < 1 / 10 ^ 12 := by norm_num
      have hfloor := Int.floor_le (balance * riskPercent / 100 / |entry - stopLoss| / (1 / 10 ^ 12))
      have hquantity := (le_div_iff₀ hincrement).1 hfloor
      exact (le_div_iff₀ hdistance).1 hquantity

theorem BacktestEngine.enter_sized {p : PendingSignal} {index : ℕ} {row : BacktestRow}
    (h : e.enter cfg p index row = .ok e') : e'.balance = e.balance ∧ e'.trades = e.trades ∧
      (e'.position = e.position ∨ ∃ q, e'.position = some q ∧ q.Sized cfg ∧ q.balanceBefore = e.balance) := by
  unfold BacktestEngine.enter at h
  dsimp only at h
  split at h
  · split at h
    · cases h
      exact ⟨rfl, rfl, .inl rfl⟩
    · cases h
  · rename_i atr _
    split at h
    · cases h
      exact ⟨rfl, rfl, .inl rfl⟩
    · rename_i hvalid
      have hstop : 0 < atr * cfg.execution.stopAtrMultiple := not_le.1 fun hle => hvalid (.inl hle)
      obtain ⟨hstopMultiple, htargetMultiple⟩ := cfg.execution.multiples_pos
      have hatr : 0 < atr := pos_of_mul_pos_left hstop hstopMultiple.le
      have htarget : 0 < atr * cfg.execution.targetAtrMultiple := mul_pos hatr htargetMultiple
      split at h
      · rename_i quantity _ hquantity
        cases h
        refine ⟨rfl, rfl, .inr ⟨_, rfl, ?_, rfl⟩⟩
        have hrisk := authorizeSimulationQuantity_le hquantity
        cases hdirection : p.direction with
        | buy =>
          rw [hdirection] at hrisk
          dsimp only at hrisk
          rw [sub_sub_cancel, abs_of_pos hstop] at hrisk
          constructor
          · show -((_ - _ - _) * quantity.value) ≤ cfg.risk.riskPercent / 100 * e.balance
            rw [sub_sub_cancel_left]
            linarith
          · show _ - _ - _ ≤ _ + _ - _
            linarith
        | sell =>
          rw [hdirection] at hrisk
          dsimp only at hrisk
          rw [sub_add_cancel_left, abs_neg, abs_of_pos hstop] at hrisk
          constructor
          · show -((_ - (_ + _)) * quantity.value) ≤ cfg.risk.riskPercent / 100 * e.balance
            rw [sub_add_cancel_left]
            linarith
          · show _ - (_ + _) ≤ _ - (_ - _)
            linarith
      · cases h
        exact ⟨rfl, rfl, .inl rfl⟩

/-- **A candle that leaves the stop untouched closes inside it.** -/
theorem gain_close_of_stop_missed {p : OpenPosition} {row : BacktestRow}
    (h : BacktestEngine.stopHit p row = false) : p.gain p.stop ≤ p.gain row.close := by
  obtain ⟨hhigh, hlow⟩ := row.ohlc_ok
  have hhigh := (le_max_right row.open_ row.close).trans hhigh
  have hlow := hlow.trans (min_le_right row.open_ row.close)
  unfold BacktestEngine.stopHit at h
  unfold OpenPosition.gain
  cases hdirection : p.direction with
  | buy =>
    rw [hdirection] at h
    have hmissed : p.stop < row.low := not_le.1 (of_decide_eq_false h)
    dsimp only
    linarith
  | sell =>
    rw [hdirection] at h
    have hmissed : row.high < p.stop := not_le.1 (of_decide_eq_false h)
    dsimp only
    linarith

structure LossInv (cfg : BacktestConfiguration) (table : List BacktestRow) (last : Option ℕ) (e : BacktestEngine) :
    Prop where
  trades : ∀ t ∈ e.trades, t.LossBounded cfg
  position : ∀ p, e.position = some p → p.Sized cfg ∧ p.balanceBefore = e.balance ∧
    ∃ index row, last = some index ∧ rowAt table index = .ok row ∧ BacktestEngine.stopHit p row = false

/-- **A close at a price no worse than the stop books a bounded trade.** -/
theorem close_lossBounded (htrades : ∀ t ∈ e.trades, t.LossBounded cfg) {p : OpenPosition} (hsized : p.Sized cfg)
    (hbefore : p.balanceBefore = e.balance) {index : ℕ} {exitPrice : ℚ} {reason : BacktestExitReason}
    (hexit : p.gain p.stop ≤ p.gain exitPrice) (hclose : e.close cfg table p index exitPrice reason = .ok e') :
    (∀ t ∈ e'.trades, t.LossBounded cfg) ∧ e'.position = none := by
  obtain ⟨signalRow, -, hclose⟩ := bind_ok hclose
  obtain ⟨entryRow, -, hclose⟩ := bind_ok hclose
  obtain ⟨exitRow, -, hclose⟩ := bind_ok hclose
  cases hclose
  refine ⟨fun t ht => ?_, rfl⟩
  rcases List.mem_append.1 ht with ht | ht
  · exact htrades t ht
  · rw [List.mem_singleton.1 ht]
    have hgross : -(p.gain exitPrice * p.quantity.value) ≤ cfg.risk.riskPercent / 100 * p.balanceBefore :=
      (neg_le_neg (mul_le_mul_of_nonneg_right hexit p.quantity.value_pos.le)).trans hsized.risk
    refine ⟨?_, hgross⟩
    show _ ≤ max 0 (e.balance + (p.gain exitPrice * p.quantity.value - cfg.execution.feePerTrade)) - p.balanceBefore
    have hmax := le_max_right 0 (e.balance + (p.gain exitPrice * p.quantity.value - cfg.execution.feePerTrade))
    linarith

namespace LossInv

theorem new (cfg : BacktestConfiguration) (table : List BacktestRow) :
    LossInv cfg table none (BacktestEngine.new cfg) where
  trades := by simp [BacktestEngine.new]
  position := by simp [BacktestEngine.new]

theorem processCandle {last : Option ℕ} (h : LossInv cfg table last e) {index : ℕ}
    (hprocess : e.processCandle cfg table index = .ok e') : LossInv cfg table (some index) e' := by
  obtain ⟨row, hrow, hprocess⟩ := bind_ok hprocess
  obtain ⟨entered, hentered, hprocess⟩ := bind_ok hprocess
  -- entered on this candle or before, the position is sized
  have hin : entered.balance = e.balance ∧ entered.trades = e.trades ∧
      ∀ p, entered.position = some p → p.Sized cfg ∧ p.balanceBefore = e.balance := by
    unfold BacktestEngine.enterPending at hentered
    split at hentered
    · rename_i hnone _
      split at hentered
      · obtain ⟨opened, hopened, hentered⟩ := bind_ok hentered
        cases hentered
        obtain ⟨hbalance, htrades, hposition⟩ := BacktestEngine.enter_sized hopened
        refine ⟨hbalance, htrades, fun p hp => ?_⟩
        rcases hposition with hsame | ⟨q, hq, hsized, hbefore⟩
        · cases (hnone.symm.trans (hsame.symm.trans hp))
        · cases hq.symm.trans hp
          exact ⟨hsized, hbefore⟩
      · cases hentered
        exact ⟨rfl, rfl, fun p hp => ⟨(h.position p hp).1, (h.position p hp).2.1⟩⟩
    · cases hentered
      exact ⟨rfl, rfl, fun p hp => ⟨(h.position p hp).1, (h.position p hp).2.1⟩⟩
  obtain ⟨hbalance, htrades, hsized⟩ := hin
  have hbounded : ∀ t ∈ entered.trades, t.LossBounded cfg := by
    rw [htrades]
    exact h.trades
  cases hposition : entered.position with
  | none =>
    rw [hposition] at hprocess
    cases hprocess
    exact ⟨hbounded, fun p hp => by cases hposition.symm.trans hp⟩
  | some p =>
    obtain ⟨hsizedp, hbefore⟩ := hsized p hposition
    have hclosed : ∀ {exitPrice : ℚ} {reason : BacktestExitReason}, p.gain p.stop ≤ p.gain exitPrice →
        entered.close cfg table p index exitPrice reason = .ok e' → LossInv cfg table (some index) e' := by
      intro exitPrice reason hexit hclose
      obtain ⟨htrades', hnone⟩ := close_lossBounded hbounded hsizedp (hbefore.trans hbalance.symm) hexit hclose
      exact ⟨htrades', fun q hq => by cases hnone.symm.trans hq⟩
    rw [hposition] at hprocess
    change entered.evaluateExit cfg table p index row = .ok e' at hprocess
    unfold BacktestEngine.evaluateExit at hprocess
    split at hprocess
    · exact hclosed le_rfl hprocess
    · rename_i hmissed
      have hmissed : BacktestEngine.stopHit p row = false := by simpa using hmissed
      split at hprocess
      · exact hclosed hsizedp.target hprocess
      · split at hprocess
        · exact hclosed (gain_close_of_stop_missed hmissed) hprocess
        · cases hprocess
          refine ⟨hbounded, fun q hq => ?_⟩
          cases hposition.symm.trans hq
          exact ⟨hsizedp, hbefore.trans hbalance.symm, index, row, rfl, hrow, hmissed⟩

theorem queueSignal {last : Option ℕ} (h : LossInv cfg table last e) {signal : BacktestSignal} {index : ℕ}
    (hqueue : e.queueSignal cfg table signal index = .ok e') : LossInv cfg table last e' := by
  obtain ⟨row, -, hqueue⟩ := bind_ok hqueue
  cases hqueue
  exact ⟨h.trades, h.position⟩

theorem calls : ∀ {cs : List BacktestCall} {e e' : BacktestEngine} {last : Option ℕ}, LossInv cfg table last e →
    e.calls cfg table cs = .ok e' → LossInv cfg table (lastProcessed last cs) e'
  | [], _, _, _, h, hcalls => by
    cases hcalls
    exact h
  | .process index :: cs, _, e', _, h, hcalls => by
    obtain ⟨mid, hmid, hcalls⟩ := bind_ok hcalls
    have hrest : LossInv cfg table (lastProcessed (some index) cs) e' := calls (h.processCandle hmid) hcalls
    exact hrest
  | .queue _ _ :: cs, _, e', last, h, hcalls => by
    obtain ⟨mid, hmid, hcalls⟩ := bind_ok hcalls
    have hrest : LossInv cfg table (lastProcessed last cs) e' := calls (h.queueSignal hmid) hcalls
    exact hrest

theorem finish {last : Option ℕ} (h : LossInv cfg table last e) {finalIndex : ℕ}
    (hfinal : ∀ index, last = some index → index = finalIndex) (hfinish : e.finish cfg table finalIndex = .ok e') :
    ∀ t ∈ e'.trades, t.LossBounded cfg := by
  unfold BacktestEngine.finish at hfinish
  cases hposition : e.position with
  | none =>
    rw [hposition] at hfinish
    cases hfinish
    exact h.trades
  | some p =>
    obtain ⟨hsized, hbefore, index, row, hlast, hrow, hmissed⟩ := h.position p hposition
    obtain rfl := hfinal index hlast
    rw [hposition] at hfinish
    obtain ⟨final, hfound, hfinish⟩ := bind_ok hfinish
    cases hrow.symm.trans hfound
    obtain ⟨closed, hclosed, hfinish⟩ := bind_ok hfinish
    cases hfinish
    exact (close_lossBounded h.trades hsized hbefore (gain_close_of_stop_missed hmissed) hclosed).1

end LossInv

/-- **No trade loses more than the authorized risk and the fee**: none that a processed candle closes, and none that
`finish` closes at the candle processed last. -/
theorem backtest_loss_bounded (cfg : BacktestConfiguration) (table : List BacktestRow) (calls : List BacktestCall)
    (e : BacktestEngine) (h : (BacktestEngine.new cfg).calls cfg table calls = .ok e) :
    (∀ t ∈ e.trades, t.LossBounded cfg) ∧
      ∀ finalIndex e', (∀ index, lastProcessed none calls = some index → index = finalIndex) →
        e.finish cfg table finalIndex = .ok e' → ∀ t ∈ e'.trades, t.LossBounded cfg := by
  have hinv := (LossInv.new cfg table).calls h
  exact ⟨hinv.trades, fun _ _ hfinal hfinish => hinv.finish hfinal hfinish⟩

def sagRow (time : ℤ) : BacktestRow :=
  ⟨time, 100, 101, 197 / 2 + 1 / 10, 99, .fin 1, 0, by norm_num⟩

theorem backtest_loss_bounded_sag : ∃ e e', (BacktestEngine.new hundredConfiguration).calls hundredConfiguration
      [flatRow 0, flatRow 60, sagRow 120] (loopCalls (fun _ => buySignal) 0 3) = .ok e ∧
    e.finish hundredConfiguration [flatRow 0, flatRow 60, sagRow 120] 2 = .ok e' ∧
    e'.trades.map BacktestTrade.netPnl = [-(666666666666 / 10 ^ 12)] ∧ ∀ t ∈ e'.trades, t.LossBounded hundredConfiguration := by
  have hnet : ((backtestRun hundredConfiguration [flatRow 0, flatRow 60, sagRow 120]
      (loopCalls (fun _ => buySignal) 0 3) 2).toOption.map fun e => e.trades.map BacktestTrade.netPnl)
        = some [-(666666666666 / 10 ^ 12)] := by decide +kernel
  cases hrun : backtestRun hundredConfiguration [flatRow 0, flatRow 60, sagRow 120]
      (loopCalls (fun _ => buySignal) 0 3) 2 with
  | error exc =>
    rw [hrun] at hnet
    cases hnet
  | ok e' =>
    rw [hrun] at hnet
    obtain ⟨e, hcalls, hfinish⟩ := bind_ok hrun
    have hlast : ∀ index, lastProcessed none (loopCalls (fun _ => buySignal) 0 3) = some index → index = 2 := by
      intro index h
      exact (Option.some.inj h).symm
    exact ⟨e, e', hcalls, hfinish, Option.some.inj hnet,
      (backtest_loss_bounded _ _ _ e hcalls).2 2 e' hlast hfinish⟩

def dropRow (time : ℤ) : BacktestRow :=
  ⟨time, 100, 101, 50, 50, .fin 1, 0, by norm_num⟩

/-- `finish` at a candle that was not processed closes beyond the stop that the candle reaches. -/
theorem finish_unprocessed : ¬∀ (cfg : BacktestConfiguration) (table : List BacktestRow) (calls : List BacktestCall)
    (finalIndex : ℕ) (e : BacktestEngine), backtestRun cfg table calls finalIndex = .ok e →
      ∀ t ∈ e.trades, t.LossBounded cfg := by
  intro h
  have hlost : ((backtestRun hundredConfiguration [flatRow 0, flatRow 60, dropRow 120] (loopCalls (fun _ => buySignal) 0 2)
      2).toOption.map fun e => e.trades.map fun t => decide (-t.grossPnl ≤ 1 / 100 * t.balanceBefore)) = some [false] := by
    decide +kernel
  cases hrun : backtestRun hundredConfiguration [flatRow 0, flatRow 60, dropRow 120] (loopCalls (fun _ => buySignal) 0 2)
      2 with
  | error exc =>
    rw [hrun] at hlost
    cases hlost
  | ok e =>
    rw [hrun] at hlost
    obtain ⟨t, ht, hbeyond⟩ := List.map_eq_singleton_iff.1 (Option.some.inj hlost)
    exact of_decide_eq_false hbeyond (h _ _ _ _ e hrun t (ht ▸ List.mem_singleton_self t)).2

end Jqe
