import Jqe.Backtest
/-!
# BacktestSound — the cash and the positions of a run

The trades' balances hang together from the starting balance to the present one, and their candles follow one another, a
pending signal and an open position coming after the last exit.
-/
namespace Jqe

open List

structure TradeSpan where
  signalIndex : ℕ
  entryIndex : ℕ
  exitIndex : ℕ

structure BacktestTrade.On (t : BacktestTrade) (table : List BacktestRow) (s : TradeSpan) : Prop where
  signal : table[s.signalIndex]?.map BacktestRow.time = some t.signalTimestamp
  entry : table[s.entryIndex]?.map BacktestRow.time = some t.entryTimestamp
  exit : table[s.exitIndex]?.map BacktestRow.time = some t.exitTimestamp
  holding : t.holdingCandles = s.exitIndex - s.entryIndex + 1

/-- Each trade starts with the balance that the one before left. -/
def BalanceChain : ℚ → List BacktestTrade → ℚ → Prop
  | before, [], after => before = after
  | before, t :: ts, after => t.balanceBefore = before ∧ BalanceChain t.balanceAfter ts after

theorem BalanceChain.append : ∀ {ts : List BacktestTrade} {before after : ℚ} {t : BacktestTrade},
    BalanceChain before ts after → t.balanceBefore = after → BalanceChain before (ts ++ [t]) t.balanceAfter
  | [], _, _, _, h, ht => ⟨ht.trans h.symm, rfl⟩
  | _ :: _, _, _, _, h, ht => ⟨h.1, h.2.append ht⟩

theorem BalanceChain.sum : ∀ {ts : List BacktestTrade} {before after : ℚ}, BalanceChain before ts after →
    (∀ t ∈ ts, t.netPnl = t.balanceAfter - t.balanceBefore) → after = before + (ts.map BacktestTrade.netPnl).sum
  | [], before, after, h, _ => by
    rw [map_nil, sum_nil, add_zero]
    exact h.symm
  | t :: ts, before, after, h, hnet => by
    have hrest := h.2.sum fun x hx => hnet x (mem_cons_of_mem _ hx)
    rw [map_cons, sum_cons, hrest, hnet t mem_cons_self, h.1]
    ring

structure BacktestInv (cfg : BacktestConfiguration) (table : List BacktestRow) (e : BacktestEngine) (m : ℕ)
    (spans : List TradeSpan) : Prop where
  balance_nonneg : 0 ≤ e.balance
  chain : BalanceChain cfg.startingBalance e.trades e.balance
  net : ∀ t ∈ e.trades, t.netPnl = t.balanceAfter - t.balanceBefore
  after_nonneg : ∀ t ∈ e.trades, 0 ≤ t.balanceAfter
  curve : e.equityCurve = cfg.startingBalance :: e.trades.map BacktestTrade.balanceAfter
  total : e.totalTrades = e.trades.length
  outcomes : e.wins + e.losses ≤ e.totalTrades
  on : List.Forall₂ (fun t s => t.On table s) e.trades spans
  span : ∀ s ∈ spans, s.signalIndex < s.entryIndex ∧ s.entryIndex ≤ s.exitIndex ∧ s.exitIndex ≤ m
  follow : spans.Pairwise fun s s' => s.exitIndex < s'.entryIndex
  pending : ∀ p, e.pending = some p → p.signalIndex ≤ m ∧ ∀ s ∈ spans, s.exitIndex ≤ p.signalIndex
  position : ∀ p, e.position = some p → e.pending = none ∧ p.balanceBefore = e.balance ∧
    p.signalIndex < p.entryIndex ∧ p.entryIndex ≤ m ∧ ∀ s ∈ spans, s.exitIndex < p.entryIndex

variable {cfg : BacktestConfiguration} {table : List BacktestRow} {e e' : BacktestEngine} {m : ℕ}
  {spans : List TradeSpan}

theorem rowAt_time {index : ℕ} {row : BacktestRow} (h : rowAt table index = .ok row) :
    table[index]?.map BacktestRow.time = some row.time := by
  unfold rowAt at h
  cases hrow : table[index]? with
  | none =>
    rw [hrow] at h
    cases h
  | some found =>
    rw [hrow] at h
    cases h
    rfl

namespace BacktestInv

theorem new (cfg : BacktestConfiguration) (table : List BacktestRow) (m : ℕ) :
    BacktestInv cfg table (BacktestEngine.new cfg) m [] where
  balance_nonneg := cfg.startingBalance_pos.le
  chain := rfl
  net := by simp [BacktestEngine.new]
  after_nonneg := by simp [BacktestEngine.new]
  curve := rfl
  total := rfl
  outcomes := le_rfl
  on := .nil
  span := by simp
  follow := .nil
  pending := by simp [BacktestEngine.new]
  position := by simp [BacktestEngine.new]

theorem mono (h : BacktestInv cfg table e m spans) {index : ℕ} (hle : m ≤ index) :
    BacktestInv cfg table e index spans where
  balance_nonneg := h.balance_nonneg
  chain := h.chain
  net := h.net
  after_nonneg := h.after_nonneg
  curve := h.curve
  total := h.total
  outcomes := h.outcomes
  on := h.on
  span := fun s hs => by
    have hspan := h.span s hs
    omega
  follow := h.follow
  pending := fun p hp => ⟨(h.pending p hp).1.trans hle, (h.pending p hp).2⟩
  position := fun p hp => by
    obtain ⟨hpending, hbefore, hsignal, hentry, hspans⟩ := h.position p hp
    exact ⟨hpending, hbefore, hsignal, hentry.trans hle, hspans⟩

theorem of_books (h : BacktestInv cfg table e m spans) (hbalance : e'.balance = e.balance)
    (htrades : e'.trades = e.trades) (hcurve : e'.equityCurve = e.equityCurve) (htotal : e'.totalTrades = e.totalTrades)
    (hwins : e'.wins = e.wins) (hlosses : e'.losses = e.losses)
    (hpending : ∀ p, e'.pending = some p → p.signalIndex ≤ m ∧ ∀ s ∈ spans, s.exitIndex ≤ p.signalIndex)
    (hposition : ∀ p, e'.position = some p → e'.pending = none ∧ p.balanceBefore = e'.balance ∧
      p.signalIndex < p.entryIndex ∧ p.entryIndex ≤ m ∧ ∀ s ∈ spans, s.exitIndex < p.entryIndex) :
    BacktestInv cfg table e' m spans where
  balance_nonneg := by rw [hbalance]; exact h.balance_nonneg
  chain := by rw [hbalance, htrades]; exact h.chain
  net := by rw [htrades]; exact h.net
  after_nonneg := by rw [htrades]; exact h.after_nonneg
  curve := by rw [hcurve, htrades]; exact h.curve
  total := by rw [htotal, htrades]; exact h.total
  outcomes := by rw [hwins, hlosses, htotal]; exact h.outcomes
  on := by rw [htrades]; exact h.on
  span := h.span
  follow := h.follow
  pending := hpending
  position := hposition

theorem close (h : BacktestInv cfg table e m spans) {p : OpenPosition} (hp : e.position = some p) {index : ℕ}
    (hle : m ≤ index) {exitPrice : ℚ} {reason : BacktestExitReason}
    (hclose : e.close cfg table p index exitPrice reason = .ok e') :
    BacktestInv cfg table e' index (spans ++ [⟨p.signalIndex, p.entryIndex, index⟩]) ∧ e'.position = none := by
  obtain ⟨hpending, hbefore, hsignal, hentry, hspans⟩ := h.position p hp
  obtain ⟨signalRow, hsignalRow, hclose⟩ := bind_ok hclose
  obtain ⟨entryRow, hentryRow, hclose⟩ := bind_ok hclose
  obtain ⟨exitRow, hexitRow, hclose⟩ := bind_ok hclose
  cases hclose
  refine ⟨?_, rfl⟩
  constructor
  · exact le_max_left _ _
  · exact h.chain.append hbefore
  · intro t ht
    rcases mem_append.1 ht with ht | ht
    · exact h.net t ht
    · rw [mem_singleton.1 ht]
  · intro t ht
    rcases mem_append.1 ht with ht | ht
    · exact h.after_nonneg t ht
    · rw [mem_singleton.1 ht]
      exact le_max_left _ _
  · show e.equityCurve ++ [_] = cfg.startingBalance :: (e.trades ++ [_]).map BacktestTrade.balanceAfter
    rw [h.curve, map_append, cons_append]
    rfl
  · show e.totalTrades + 1 = (e.trades ++ [_]).length
    rw [h.total, length_append, length_singleton]
  · have houtcomes := h.outcomes
    show e.wins + (if _ then 1 else 0) + (e.losses + if _ then 1 else 0) ≤ e.totalTrades + 1
    generalize max 0 _ - p.balanceBefore = net
    by_cases hwin : 0 < net
    · rw [if_pos hwin, if_neg (not_lt.2 hwin.le)]
      omega
    · rw [if_neg hwin]
      split <;> omega
  · exact rel_append h.on (.cons ⟨rowAt_time hsignalRow, rowAt_time hentryRow, rowAt_time hexitRow, rfl⟩ .nil)
  · intro s hs
    rcases mem_append.1 hs with hs | hs
    · have hspan := h.span s hs
      omega
    · rw [mem_singleton.1 hs]
      exact ⟨hsignal, hentry.trans hle, le_rfl⟩
  · rw [pairwise_append]
    refine ⟨h.follow, pairwise_singleton _ _, fun s hs s' hs' => ?_⟩
    rw [mem_singleton.1 hs']
    exact hspans s hs
  · intro q hq
    rw [show _ = e.pending from rfl, hpending] at hq
    cases hq
  · intro q hq
    cases hq

theorem enterPending (h : BacktestInv cfg table e m spans) {index : ℕ} (hle : m ≤ index) {row : BacktestRow}
    (henter : e.enterPending cfg index row = .ok e') : BacktestInv cfg table e' index spans := by
  have hm := h.mono hle
  unfold BacktestEngine.enterPending at henter
  split at henter
  · rename_i p hposition hpending
    split at henter
    · rename_i hlt
      obtain ⟨entered, hentered, henter⟩ := bind_ok henter
      cases henter
      obtain ⟨-, hspans⟩ := hm.pending p hpending
      unfold BacktestEngine.enter at hentered
      dsimp only at hentered
      split at hentered
      · split at hentered
        · cases hentered
          exact hm.of_books rfl rfl rfl rfl rfl rfl (fun _ hq => by cases hq) fun q hq => by
            rw [show _ = e.position from rfl, hposition] at hq
            cases hq
        · cases hentered
      · split at hentered
        · cases hentered
          exact hm.of_books rfl rfl rfl rfl rfl rfl (fun _ hq => by cases hq) fun q hq => by
            rw [show _ = e.position from rfl, hposition] at hq
            cases hq
        · split at hentered
          · cases hentered
            refine hm.of_books rfl rfl rfl rfl rfl rfl (fun _ hq => by cases hq) fun q hq => ?_
            cases hq
            exact ⟨rfl, rfl, hlt, le_rfl, fun s hs => lt_of_le_of_lt (hspans s hs) hlt⟩
          · cases hentered
            exact hm.of_books rfl rfl rfl rfl rfl rfl (fun _ hq => by cases hq) fun q hq => by
              rw [show _ = e.position from rfl, hposition] at hq
              cases hq
    · cases henter
      exact hm
  · cases henter
    exact hm

theorem processCandle (h : BacktestInv cfg table e m spans) {index : ℕ} (hle : m ≤ index)
    (hprocess : e.processCandle cfg table index = .ok e') : ∃ spans', BacktestInv cfg table e' index spans' := by
  obtain ⟨row, -, hprocess⟩ := bind_ok hprocess
  obtain ⟨entered, hentered, hprocess⟩ := bind_ok hprocess
  have hin := h.enterPending hle hentered
  cases hposition : entered.position with
  | none =>
    rw [hposition] at hprocess
    cases hprocess
    exact ⟨spans, hin⟩
  | some p =>
    rw [hposition] at hprocess
    change entered.evaluateExit cfg table p index row = .ok e' at hprocess
    unfold BacktestEngine.evaluateExit at hprocess
    split at hprocess
    · exact ⟨_, (hin.close hposition le_rfl hprocess).1⟩
    · split at hprocess
      · exact ⟨_, (hin.close hposition le_rfl hprocess).1⟩
      · split at hprocess
        · exact ⟨_, (hin.close hposition le_rfl hprocess).1⟩
        · cases hprocess
          exact ⟨spans, hin⟩

theorem judge_pending {signal : BacktestSignal} {index : ℕ} {row : BacktestRow} :
    (e.judge cfg signal index row).2.2 = e.pending ∨
      e.position = none ∧ ∃ p, (e.judge cfg signal index row).2.2 = some p ∧ p.signalIndex = index := by
  unfold BacktestEngine.judge
  by_cases hposition : e.position.isSome = true
  · rw [if_pos hposition]
    exact .inl rfl
  · rw [if_neg hposition]
    split
    · exact .inl rfl
    · split
      · exact .inl rfl
      · split
        · exact .inl rfl
        · split
          · exact .inl rfl
          · split
            · exact .inr ⟨by simpa using hposition, _, rfl, rfl⟩
            · exact .inl rfl

theorem queueSignal (h : BacktestInv cfg table e m spans) {signal : BacktestSignal} {index : ℕ} (hle : m ≤ index)
    (hqueue : e.queueSignal cfg table signal index = .ok e') : BacktestInv cfg table e' index spans := by
  have hm := h.mono hle
  obtain ⟨row, -, hqueue⟩ := bind_ok hqueue
  have hjudge : (e.judge cfg signal index row).2.2 = e.pending ∨
      e.position = none ∧ ∃ p, (e.judge cfg signal index row).2.2 = some p ∧ p.signalIndex = index :=
    judge_pending
  generalize e.judge cfg signal index row = judged at hqueue hjudge
  obtain ⟨state, reasons, pending⟩ := judged
  cases hqueue
  rcases hjudge with hsame | ⟨hposition, p, hp, hindex⟩
  · refine hm.of_books rfl rfl rfl rfl rfl rfl (fun q hq => hm.pending q ?_) fun q hq => ?_
    · rw [← hsame]
      exact hq
    · obtain ⟨hnone, hrest⟩ := hm.position q hq
      exact ⟨hsame.trans hnone, hrest⟩
  · refine hm.of_books rfl rfl rfl rfl rfl rfl (fun q hq => ?_) fun q hq => ?_
    · rw [show _ = pending from rfl, show pending = some p from hp] at hq
      cases hq
      exact ⟨hindex.le, fun s hs => by rw [hindex]; exact (hm.span s hs).2.2⟩
    · rw [show _ = e.position from rfl, hposition] at hq
      cases hq

theorem call (h : BacktestInv cfg table e m spans) {c : BacktestCall} (hle : m ≤ c.index)
    (hcall : e.call cfg table c = .ok e') : ∃ spans', BacktestInv cfg table e' c.index spans' := by
  cases c with
  | process index => exact h.processCandle hle hcall
  | queue signal index => exact ⟨spans, h.queueSignal hle hcall⟩

theorem calls : ∀ {cs : List BacktestCall} {e e' : BacktestEngine} {m : ℕ} {spans : List TradeSpan},
    BacktestInv cfg table e m spans → (∀ c ∈ cs, m ≤ c.index) → (cs.Pairwise fun c c' => c.index ≤ c'.index) →
      ∀ {final : ℕ}, m ≤ final → (∀ c ∈ cs, c.index ≤ final) → e.calls cfg table cs = .ok e' →
        ∃ spans', BacktestInv cfg table e' final spans'
  | [], e, e', m, spans, h, _, _, final, hfinal, _, hcalls => by
    cases hcalls
    exact ⟨spans, h.mono hfinal⟩
  | c :: cs, e, e', m, spans, h, hle, horder, final, hfinal, hlast, hcalls => by
    obtain ⟨horder_head, horder_rest⟩ := pairwise_cons.1 horder
    obtain ⟨mid, hmid, hcalls⟩ := bind_ok hcalls
    obtain ⟨spans', hinv⟩ := h.call (hle c mem_cons_self) hmid
    exact calls hinv horder_head horder_rest (hlast c mem_cons_self)
      (fun x hx => hlast x (mem_cons_of_mem _ hx)) hcalls

theorem finish (h : BacktestInv cfg table e m spans) (hfinish : e.finish cfg table m = .ok e') :
    ∃ spans', BacktestInv cfg table e' m spans' ∧ e'.position = none := by
  unfold BacktestEngine.finish at hfinish
  cases hposition : e.position with
  | none =>
    rw [hposition] at hfinish
    cases hfinish
    exact ⟨spans, h.of_books rfl rfl rfl rfl rfl rfl (fun _ hq => by cases hq) (fun _ hq => by cases hq), rfl⟩
  | some p =>
    rw [hposition] at hfinish
    obtain ⟨row, -, hfinish⟩ := bind_ok hfinish
    obtain ⟨closed, hclosed, hfinish⟩ := bind_ok hfinish
    cases hfinish
    obtain ⟨hin, hnone⟩ := h.close hposition le_rfl hclosed
    refine ⟨_, hin.of_books rfl rfl rfl rfl rfl rfl (fun _ hq => by cases hq) (fun q hq => ?_), hnone⟩
    rw [show _ = closed.position from rfl, hnone] at hq
    cases hq

end BacktestInv

structure BacktestSound (cfg : BacktestConfiguration) (table : List BacktestRow) (e : BacktestEngine) : Prop where
  closed : e.position = none
  spans : ∃ spans : List TradeSpan, List.Forall₂ (fun t s => t.On table s) e.trades spans ∧
    (∀ s ∈ spans, s.signalIndex < s.entryIndex ∧ s.entryIndex ≤ s.exitIndex) ∧
    spans.Pairwise fun s s' => s.exitIndex < s'.entryIndex
  chain : BalanceChain cfg.startingBalance e.trades e.balance
  nonneg : 0 ≤ e.balance ∧ ∀ x ∈ e.equityCurve, 0 ≤ x
  ending : e.balance = cfg.startingBalance + (e.trades.map BacktestTrade.netPnl).sum
  counts : e.wins + e.losses ≤ e.totalTrades ∧ e.totalTrades = e.trades.length ∧
    e.equityCurve.length = e.trades.length + 1

theorem BacktestInv.sound (h : BacktestInv cfg table e m spans) (hclosed : e.position = none) :
    BacktestSound cfg table e where
  closed := hclosed
  spans := ⟨spans, h.on, fun s hs => ⟨(h.span s hs).1, (h.span s hs).2.1⟩, h.follow⟩
  chain := h.chain
  nonneg := by
    refine ⟨h.balance_nonneg, fun x hx => ?_⟩
    rw [h.curve] at hx
    rcases mem_cons.1 hx with rfl | hx
    · exact cfg.startingBalance_pos.le
    · obtain ⟨t, ht, rfl⟩ := mem_map.1 hx
      exact h.after_nonneg t ht
  ending := h.chain.sum h.net
  counts := ⟨h.outcomes, h.total, by rw [h.curve, length_cons, length_map]⟩

/-- **Every run of calls at candles in order, closed by `finish`, leaves sound books.** -/
theorem backtest_sound (cfg : BacktestConfiguration) (table : List BacktestRow) (calls : List BacktestCall)
    (finalIndex : ℕ) (engine : BacktestEngine) (horder : calls.Pairwise fun c c' => c.index ≤ c'.index)
    (hfinal : ∀ c ∈ calls, c.index ≤ finalIndex) (h : backtestRun cfg table calls finalIndex = .ok engine) :
    BacktestSound cfg table engine := by
  obtain ⟨e, hcalls, hfinish⟩ := bind_ok h
  obtain ⟨spans, hinv⟩ := (BacktestInv.new cfg table 0).calls (fun c _ => Nat.zero_le c.index) horder
    (Nat.zero_le finalIndex) hfinal hcalls
  obtain ⟨spans', hinv', hclosed⟩ := hinv.finish hfinish
  exact hinv'.sound hclosed

theorem loopCalls_order (signals : ℕ → BacktestSignal) : ∀ (count start : ℕ),
    ((loopCalls signals start count).Pairwise fun c c' => c.index ≤ c'.index) ∧
      ∀ c ∈ loopCalls signals start count, start ≤ c.index ∧ c.index < start + count
  | 0, start => ⟨.nil, fun c hc => absurd hc not_mem_nil⟩
  | count + 1, start => by
    obtain ⟨hpairwise, hrange⟩ := loopCalls_order signals count (start + 1)
    have hcons : loopCalls signals start (count + 1)
        = .process start :: .queue (signals start) start :: loopCalls signals (start + 1) count := by
      unfold loopCalls
      rw [range'_succ, flatMap_cons]
      rfl
    have hle : ∀ c ∈ loopCalls signals (start + 1) count, start ≤ c.index := fun c hc => by
      have hc := (hrange c hc).1
      omega
    rw [hcons]
    refine ⟨pairwise_cons.2 ⟨fun c hc => ?_, pairwise_cons.2 ⟨hle, hpairwise⟩⟩, fun c hc => ?_⟩
    · rcases mem_cons.1 hc with rfl | hc
      · exact le_rfl
      · exact hle c hc
    · rcases mem_cons.1 hc with rfl | hc
      · exact ⟨le_rfl, by show start < _; omega⟩
      · rcases mem_cons.1 hc with rfl | hc
        · exact ⟨le_rfl, by show start < _; omega⟩
        · have hc := hrange c hc
          omega

/-! ### One trade -/

theorem flatRow_ohlc : max 100 100 ≤ (101 : ℚ) ∧ 99 ≤ min 100 (100 : ℚ) := by norm_num

def flatRow (time : ℤ) : BacktestRow :=
  ⟨time, 100, 101, 99, 100, .fin 1, 0, flatRow_ohlc⟩

def peakRow (time : ℤ) : BacktestRow :=
  ⟨time, 100, 104, 99, 103, .fin 1, 0, by norm_num⟩

def hundredConfiguration : BacktestConfiguration where
  startingBalance := 100
  startingBalance_pos := by norm_num

def buySignal : BacktestSignal := ⟨some "BUY", 90, [], none, none, none⟩

theorem backtest_sound_trade : ∃ engine, backtestRun hundredConfiguration [flatRow 0, flatRow 60, peakRow 120]
    (loopCalls (fun _ => buySignal) 0 3) 2 = .ok engine ∧ engine.trades.length = 1 ∧
      BacktestSound hundredConfiguration [flatRow 0, flatRow 60, peakRow 120] engine := by
  have hone : ((backtestRun hundredConfiguration [flatRow 0, flatRow 60, peakRow 120]
      (loopCalls (fun _ => buySignal) 0 3) 2).toOption.map fun e => e.trades.length) = some 1 := by decide +kernel
  cases h : backtestRun hundredConfiguration [flatRow 0, flatRow 60, peakRow 120]
      (loopCalls (fun _ => buySignal) 0 3) 2 with
  | error exc =>
    rw [h] at hone
    cases hone
  | ok engine =>
    rw [h] at hone
    obtain ⟨horder, hrange⟩ := loopCalls_order (fun _ => buySignal) 3 0
    exact ⟨engine, rfl, Option.some.inj hone,
      backtest_sound _ _ _ 2 engine horder (fun c hc => by have hc := hrange c hc; omega) h⟩

end Jqe
