import Jqe.BacktestLater
import Jqe.BacktestSound
import Jqe.Strategy
/-!
# BacktestCausal — `run_backtest` (`backtesting/backtest.py`), and that it knows no later candle

The loop over a dataset with its indicators and the signals of the pipeline.
-/
namespace Jqe

open Column Indicators Strategy List

structure BacktestCandle where
  time : ℤ
  prices : PriceRow
  prices_pos : 0 < prices.open_ ∧ 0 < prices.high ∧ 0 < prices.low ∧ 0 < prices.close
  ohlc_ok : max prices.open_ prices.close ≤ prices.high ∧ prices.low ≤ min prices.open_ prices.close

def BacktestCandle.row (c : BacktestCandle) (found : IndicatorRow) : BacktestRow where
  time := c.time
  open_ := c.prices.open_
  high := c.prices.high
  low := c.prices.low
  close := c.prices.close
  atr := found.atr.elim .nan .fin
  spread := 0
  ohlc_ok := c.ohlc_ok

def indicatorsOf (candles : List BacktestCandle) : List IndicatorRow := calculateIndicators (candles.map (·.prices))

def backtestTable (candles : List BacktestCandle) : List BacktestRow :=
  List.zipWith BacktestCandle.row candles (indicatorsOf candles)

def Strategy.Decision.backtestSignal (d : Decision) : BacktestSignal where
  signal := some d.signal.text
  confidence := d.confidence
  reasons := d.reasons
  entry := d.tradePlan.levels.map (·.entry)
  stopLoss := d.tradePlan.levels.map (·.stopLoss)
  takeProfit := d.tradePlan.levels.map (·.takeProfit)

/-- The signal of `df.iloc[: i + 1]`. -/
def signalAt (candles : List BacktestCandle) (i : ℕ) : Except PyExc BacktestSignal := do
  let decision ← signalOf ((indicatorsOf candles).take (i + 1))
  return decision.backtestSignal

namespace BacktestEngine

variable (cfg : BacktestConfiguration) (table : List BacktestRow) (signals : ℕ → Except PyExc BacktestSignal)

def turn (e : BacktestEngine) (i : ℕ) : Except PyExc BacktestEngine := do
  let e ← e.processCandle cfg table i
  let signal ← signals i
  e.queueSignal cfg table signal i

def loop (e : BacktestEngine) (start : ℕ) : ℕ → Except PyExc BacktestEngine
  | 0 => .ok e
  | count + 1 => do
    let e ← e.turn cfg table signals start
    loop e (start + 1) count

end BacktestEngine

def warmupCandles : ℕ := 200

def evalStart (startIndex : Option ℤ) : ℤ := max warmupCandles (startIndex.getD warmupCandles)

def evalEnd (endIndex : Option ℤ) (length : ℕ) : ℤ := min length (endIndex.getD length)

def runBacktest (cfg : BacktestConfiguration) (startIndex endIndex : Option ℤ) (candles : List BacktestCandle) :
    Except PyExc BacktestEngine :=
  if ¬candles.IsChain (fun c c' => c.time < c'.time) then
    .error (.exception "Historical dataset timestamps must be strictly increasing")
  else if candles.length ≤ warmupCandles then
    .error (.exception "Not enough candles to clear the indicator warmup period")
  else do
    let table := backtestTable candles
    let first := evalStart startIndex
    let last := evalEnd endIndex candles.length
    let e ← (BacktestEngine.new cfg).loop cfg table (signalAt candles) first.toNat (last - first).toNat
    e.finish cfg table (last - 1).toNat

/-! ### The table -/

section

variable {candles candles' : List BacktestCandle} {i k : ℕ}

theorem indicatorsOf_take (n : ℕ) : indicatorsOf (candles.take n) = (indicatorsOf candles).take n := by
  unfold indicatorsOf
  rw [map_take]
  exact causal_calculateIndicators n _

@[simp] theorem indicatorsOf_length : (indicatorsOf candles).length = candles.length := by
  unfold indicatorsOf
  rw [calculateIndicators_length, length_map]

@[simp] theorem backtestTable_length : (backtestTable candles).length = candles.length := by
  unfold backtestTable
  rw [length_zipWith, indicatorsOf_length, Nat.min_self]

theorem backtestTable_take (n : ℕ) : backtestTable (candles.take n) = (backtestTable candles).take n := by
  unfold backtestTable
  rw [indicatorsOf_take, take_zipWith]

theorem backtestTable_congr (htake : candles.take k = candles'.take k) : ∀ j < k,
    (backtestTable candles)[j]? = (backtestTable candles')[j]? := by
  intro j hj
  rw [← getElem?_take_of_lt (l := backtestTable candles) hj, ← backtestTable_take, htake, backtestTable_take,
    getElem?_take_of_lt hj]

theorem signalAt_congr (htake : candles.take k = candles'.take k) (hi : i < k) : signalAt candles i = signalAt candles' i := by
  have hfirst : candles.take (i + 1) = candles'.take (i + 1) := by
    have h := congrArg (List.take (i + 1)) htake
    rw [take_take, take_take, Nat.min_eq_left hi] at h
    exact h
  unfold signalAt
  rw [← indicatorsOf_take, ← indicatorsOf_take, hfirst]

theorem signalAt_ok (hi : i < candles.length) : ∃ signal, signalAt candles i = .ok signal := by
  cases hlast : ((indicatorsOf candles).take (i + 1)).getLast? with
  | none =>
    have hnil := congrArg List.length (getLast?_eq_none_iff.1 hlast)
    rw [length_take, indicatorsOf_length, length_nil] at hnil
    omega
  | some latest =>
    unfold signalAt
    rw [signalOf_eq hlast]
    exact ⟨_, rfl⟩

theorem backtestTable_getElem? {c : BacktestCandle} (hc : candles[i]? = some c) : ∃ found,
    (indicatorsOf candles)[i]? = some found ∧ (backtestTable candles)[i]? = some (c.row found) := by
  obtain ⟨hlt, -⟩ := List.getElem?_eq_some_iff.1 hc
  have hlen : i < (indicatorsOf candles).length := by rwa [indicatorsOf_length]
  refine ⟨_, getElem?_eq_getElem hlen, ?_⟩
  unfold backtestTable
  rw [getElem?_zipWith, hc, getElem?_eq_getElem hlen]

end

/-! ### Turns -/

namespace BacktestEngine

section

variable {g : BacktestConfiguration} {table table' : List BacktestRow}
  {signals signals' : ℕ → Except PyExc BacktestSignal} {e e' : BacktestEngine} {i k n : ℕ}

/-- The rows and the signals of a run that raises nothing, up to the candle `n`. -/
def Regular (table : List BacktestRow) (signals : ℕ → Except PyExc BacktestSignal) (start n : ℕ) : Prop :=
  ∀ i, start ≤ i → i < n → (∃ row, table[i]? = some row ∧ ∃ atr, row.atr = .fin atr) ∧ ∃ signal, signals i = .ok signal

theorem turn_spec (h : e.Bounded i) {row : BacktestRow} (hrow : table[i]? = some row) (hatr : ∃ atr, row.atr = .fin atr)
    (hsignal : ∃ signal, signals i = .ok signal) :
    ∃ e', e.turn g table signals i = .ok e' ∧ e'.Bounded (i + 1) ∧ Adds table i (opened g e i row) e e' := by
  obtain ⟨e₁, hprocess, hbounded, hadds⟩ := processCandle_spec (g := g) h hrow
  obtain ⟨signal, hsignal⟩ := hsignal
  obtain ⟨e₂, hqueue, hbounded', hadds'⟩ := queueSignal_spec (g := g) hbounded hrow hatr signal
  refine ⟨e₂, ?_, hbounded', hadds.trans hadds'⟩
  unfold turn
  rw [hprocess, hsignal]
  exact hqueue

theorem turn_congr (hrows : ∀ j < k, table[j]? = table'[j]?) (hsignals : ∀ j < k, signals j = signals' j) (hi : i < k)
    (h : e.Bounded i) : e.turn g table signals i = e.turn g table' signals' i := by
  unfold turn queueSignal
  rw [processCandle_congr hrows hi h, hsignals i hi, rowAt_congr (hrows i hi)]

theorem loop_congr (hrows : ∀ j < k, table[j]? = table'[j]?) (hsignals : ∀ j < k, signals j = signals' j) :
    ∀ (count start : ℕ) (e : BacktestEngine), e.Bounded start → Regular table signals start k → start + count ≤ k →
      e.loop g table signals start count = e.loop g table' signals' start count
  | 0, _, _, _, _, _ => rfl
  | count + 1, start, e, h, hregular, hle => by
    obtain ⟨⟨row, hrow, hatr⟩, hsignal⟩ := hregular start le_rfl (by omega)
    obtain ⟨e₁, hturn, hbounded, -⟩ := turn_spec (g := g) h hrow hatr hsignal
    unfold loop
    rw [← turn_congr hrows hsignals (by omega) h, hturn]
    exact loop_congr hrows hsignals count (start + 1) e₁ hbounded (fun i hi => hregular i (by omega)) (by omega)

/-- **What calls at candles from `lo` on and before `hi` add.** -/
structure Between (table : List BacktestRow) (lo hi : ℕ) (e e' : BacktestEngine) : Prop where
  decisions : ∃ ds, e'.decisions = e.decisions ++ ds ∧ ∀ d ∈ ds, lo ≤ d.candleIndex ∧ d.candleIndex < hi
  trades : ∃ ts, e'.trades = e.trades ++ ts ∧ ∀ t ∈ ts, ∃ j, (lo ≤ j ∧ j < hi) ∧ t.exitTimestamp = timeAt table j
  entries : ∃ es, e'.entries table = e.entries table ++ es ∧ ∀ x ∈ es, ∃ j, (lo ≤ j ∧ j < hi) ∧ x.1 = timeAt table j

theorem Between.refl (table : List BacktestRow) (lo hi : ℕ) (e : BacktestEngine) : Between table lo hi e e where
  decisions := ⟨[], (append_nil _).symm, fun d hd => by cases hd⟩
  trades := ⟨[], (append_nil _).symm, fun t ht => by cases ht⟩
  entries := ⟨[], (append_nil _).symm, fun x hx => by cases hx⟩

variable {e₁ e₂ e₃ : BacktestEngine} {es : List (ℤ × BacktestLevels)}

theorem Between.trans {lo hi lo' hi' : ℕ} (h : Between table lo hi e₁ e₂) (h' : Between table lo' hi' e₂ e₃)
    (hlo : lo ≤ lo') (hhi : hi ≤ hi') : Between table lo hi' e₁ e₃ where
  decisions := appended_trans h.decisions h'.decisions (fun _ _ => by omega) fun _ _ => by omega
  trades := appended_trans h.trades h'.trades (fun _ ⟨j, hj, htime⟩ => ⟨j, by omega, htime⟩)
    fun _ ⟨j, hj, htime⟩ => ⟨j, by omega, htime⟩
  entries := appended_trans h.entries h'.entries (fun _ ⟨j, hj, htime⟩ => ⟨j, by omega, htime⟩)
    fun _ ⟨j, hj, htime⟩ => ⟨j, by omega, htime⟩

theorem Adds.between {opened : Option OpenPosition} (h : Adds table i opened e e')
    (hopened : ∀ p, opened = some p → p.entryIndex = i) : Between table i (i + 1) e e' := by
  obtain ⟨ds, hds, hd⟩ := h.decisions
  obtain ⟨ts, hts, ht⟩ := h.trades
  refine ⟨⟨ds, hds, fun d hmem => by rw [hd d hmem]; omega⟩, ⟨ts, hts, fun t hmem => ⟨i, by omega, ht t hmem⟩⟩,
    ⟨_, h.entries, fun x hmem => ?_⟩⟩
  obtain ⟨p, hp, rfl⟩ := mem_map.1 hmem
  have hentry := hopened p (Option.mem_toList.1 hp)
  exact ⟨i, by omega, by rw [hentry]⟩

theorem loop_between : ∀ (count start : ℕ) (e : BacktestEngine), e.Bounded start →
    Regular table signals start (start + count) →
      ∃ e', e.loop g table signals start count = .ok e' ∧ e'.Bounded (start + count) ∧
        Between table start (start + count) e e'
  | 0, start, e, h, _ => ⟨e, rfl, h, .refl table start _ e⟩
  | count + 1, start, e, h, hregular => by
    obtain ⟨⟨row, hrow, hatr⟩, hsignal⟩ := hregular start le_rfl (by omega)
    obtain ⟨e₁, hturn, hbounded, hadds⟩ := turn_spec (g := g) h hrow hatr hsignal
    obtain ⟨e₂, hloop, hbounded', hbetween⟩ := loop_between count (start + 1) e₁ hbounded
      fun i hi hi' => hregular i (by omega) (by omega)
    have hend : start + 1 + count = start + (count + 1) := by omega
    rw [hend] at hbounded' hbetween
    refine ⟨e₂, ?_, hbounded', ?_⟩
    · unfold loop
      rw [hturn]
      exact hloop
    · exact (hadds.between fun p hp => (opened_spec h hp).1).trans hbetween (by omega) (by omega)

theorem loop_succ (start count : ℕ) : e.loop g table signals start (count + 1) = (do
    let e ← e.turn g table signals start
    e.loop g table signals (start + 1) count) := rfl

theorem loop_add (g : BacktestConfiguration) (table : List BacktestRow) (signals : ℕ → Except PyExc BacktestSignal) :
    ∀ (m n start : ℕ) (e : BacktestEngine), e.loop g table signals start (m + n) = (do
      let e ← e.loop g table signals start m
      e.loop g table signals (start + m) n)
  | 0, n, start, e => by
    rw [Nat.zero_add]
    rfl
  | m + 1, n, start, e => by
    rw [show m + 1 + n = m + n + 1 by omega, loop_succ, loop_succ]
    cases hturn : e.turn g table signals start with
    | error exc => rfl
    | ok e₁ =>
      rw [show start + (m + 1) = start + 1 + m by omega]
      exact loop_add g table signals m n (start + 1) e₁

theorem finish_spec (h : e.Bounded n) (last : ℕ) (hlast : e.position ≠ none → n ≤ last + 1 ∧ last < table.length) :
    ∃ e', e.finish g table last = .ok e' ∧ (e'.position = none ∧ e'.pending = none) ∧ Adds table last none e e' := by
  unfold finish
  cases hposition : e.position with
  | none =>
    refine ⟨_, rfl, ⟨rfl, rfl⟩, (Adds.refl table last e).decisions, (Adds.refl table last e).trades, ?_⟩
    unfold entries
    rw [hposition]
    exact (append_nil _).symm
  | some p =>
    obtain ⟨hle, hlt⟩ := hlast (by rw [hposition]; exact Option.some_ne_none p)
    obtain ⟨hsignal, hentry⟩ := h.position p hposition
    obtain ⟨row, hrow, -⟩ := rowAt_of_lt hlt
    obtain ⟨e₁, hclose, hnone, -, hadds⟩ := @close_spec g table _ _ _ hposition (by omega) (by omega) hlt
      row.close .endOfData
    refine ⟨{ e₁ with pending := none }, ?_, ⟨hnone, rfl⟩, hadds.decisions, hadds.trades, hadds.entries⟩
    dsimp only
    rw [hrow]
    change (do
      let closed ← e.close g table p last row.close .endOfData
      return { closed with pending := none }) = _
    rw [hclose]
    rfl

theorem finish_congr (hrows : ∀ j < k, table[j]? = table'[j]?) (h : e.Bounded k) {last : ℕ}
    (hlast : e.position ≠ none → last < k) : e.finish g table last = e.finish g table' last := by
  unfold finish
  cases hposition : e.position with
  | none => rfl
  | some p =>
    have hlt := hlast (by rw [hposition]; exact Option.some_ne_none p)
    obtain ⟨hsignal, hentry⟩ := h.position p hposition
    dsimp only
    rw [rowAt_congr (hrows last hlt)]
    refine bind_congr fun row => ?_
    rw [close_congr hrows hsignal hentry hlt]

/-! ### A run cut at a candle -/

/-- **All that an engine holds is of candles before `k`.** -/
structure Prior (table : List BacktestRow) (k : ℕ) (e : BacktestEngine) : Prop where
  decisions : ∀ d ∈ e.decisions, d.candleIndex < k
  trades : ∀ t ∈ e.trades, ∃ j < k, t.exitTimestamp = timeAt table j
  entries : ∀ x ∈ e.entries table, ∃ j < k, x.1 = timeAt table j

/-- **What the candles from `k` on add**: the entries `es` at `k`, and later ones. -/
structure Cut (table : List BacktestRow) (k : ℕ) (es : List (ℤ × BacktestLevels)) (e e' : BacktestEngine) : Prop where
  decisions : ∃ ds, e'.decisions = e.decisions ++ ds ∧ ∀ d ∈ ds, k ≤ d.candleIndex
  trades : ∃ ts, e'.trades = e.trades ++ ts ∧
    ∀ t ∈ ts, ∃ j, (k ≤ j ∧ j < table.length) ∧ t.exitTimestamp = timeAt table j
  entries : ∃ es', e'.entries table = e.entries table ++ (es ++ es') ∧ (∀ x ∈ es, x.1 = timeAt table k) ∧
    ∀ x ∈ es', ∃ j, (k < j ∧ j < table.length) ∧ x.1 = timeAt table j

theorem prior_new (g : BacktestConfiguration) (table : List BacktestRow) (k : ℕ) :
    Prior table k (BacktestEngine.new g) where
  decisions d hd := by cases hd
  trades t ht := by cases ht
  entries x hx := by cases hx

theorem Between.prior {lo hi : ℕ} (h : Between table lo hi (BacktestEngine.new g) e) (hle : hi ≤ k) : Prior table k e := by
  obtain ⟨ds, hds, hd⟩ := h.decisions
  obtain ⟨ts, hts, ht⟩ := h.trades
  obtain ⟨es, hes, he⟩ := h.entries
  refine ⟨fun d hmem => ?_, fun t hmem => ?_, fun x hmem => ?_⟩
  · rw [hds] at hmem
    have hd := hd d hmem
    omega
  · rw [hts] at hmem
    obtain ⟨j, hj, htime⟩ := ht t hmem
    exact ⟨j, by omega, htime⟩
  · rw [hes] at hmem
    obtain ⟨j, hj, htime⟩ := he x hmem
    exact ⟨j, by omega, htime⟩

theorem Cut.refl (table : List BacktestRow) (k : ℕ) (e : BacktestEngine) : Cut table k [] e e where
  decisions := ⟨[], (append_nil _).symm, fun d hd => by cases hd⟩
  trades := ⟨[], (append_nil _).symm, fun t ht => by cases ht⟩
  entries := ⟨[], (append_nil _).symm, (fun x hx => by cases hx), fun x hx => by cases hx⟩

theorem Cut.trans {lo hi : ℕ} (h : Cut table k es e₁ e₂) (h' : Between table lo hi e₂ e₃) (hlo : k < lo)
    (hhi : hi ≤ table.length) : Cut table k es e₁ e₃ where
  decisions := appended_trans h.decisions h'.decisions (fun _ => id) fun _ _ => by omega
  trades := appended_trans h.trades h'.trades (fun _ => id) fun _ ⟨j, hj, htime⟩ => ⟨j, by omega, htime⟩
  entries := by
    obtain ⟨es₁, hes, hat, he⟩ := h.entries
    rw [← append_assoc] at hes
    obtain ⟨es', hes', he'⟩ := appended_trans ⟨es₁, hes, he⟩ h'.entries (fun _ => id)
      fun _ ⟨j, hj, htime⟩ => ⟨j, by omega, htime⟩
    rw [append_assoc] at hes'
    exact ⟨es', hes', hat, he'⟩

theorem Cut.finish {last : ℕ} (h : Cut table k es e₁ e₂) (h' : Adds table last none e₂ e₃) (hle : k ≤ last)
    (hlt : last < table.length) : Cut table k es e₁ e₃ where
  decisions := appended_trans h.decisions h'.decisions (fun _ => id) fun _ hd => hle.trans_eq hd.symm
  trades := appended_trans h.trades h'.trades (fun _ => id) fun _ htime => ⟨last, ⟨hle, hlt⟩, htime⟩
  entries := by
    have hentries := h'.entries
    rw [Option.toList_none, map_nil, append_nil] at hentries
    rw [hentries]
    exact h.entries

theorem Adds.cut {opened : Option OpenPosition} (h : Adds table k opened e e') (hk : k < table.length)
    (hopened : ∀ p, opened = some p → p.entryIndex = k) :
    Cut table k (opened.toList.map fun p => (timeAt table p.entryIndex, p.levels table)) e e' := by
  obtain ⟨ds, hds, hd⟩ := h.decisions
  obtain ⟨ts, hts, ht⟩ := h.trades
  refine ⟨⟨ds, hds, fun d hmem => (hd d hmem).ge⟩, ⟨ts, hts, fun t hmem => ⟨k, ⟨le_rfl, hk⟩, ht t hmem⟩⟩,
    ⟨[], by rw [append_nil]; exact h.entries, fun x hmem => ?_, fun x hmem => by cases hmem⟩⟩
  obtain ⟨p, hp, rfl⟩ := mem_map.1 hmem
  exact congrArg (timeAt table) (hopened p (Option.mem_toList.1 hp))

theorem entries_congr (hrows : ∀ j < k, table[j]? = table'[j]?) (h : e.Bounded k) :
    e.entries table = e.entries table' := by
  have htime : ∀ j < k, timeAt table j = timeAt table' j := by
    intro j hj
    unfold timeAt
    rw [hrows j hj]
  unfold entries
  congr 1
  cases hposition : e.position with
  | none => rfl
  | some p =>
    obtain ⟨hsignal, hentry⟩ := h.position p hposition
    simp only [Option.toList_some, map_cons, map_nil, OpenPosition.levels, htime _ hsignal, htime _ hentry]

theorem Cut.books (hcut : Cut table k es e e') (hprior : Prior table k e) (hclosed : e'.position = none)
    (htimes : ∀ i j, i < j → j < table.length → timeAt table i < timeAt table j) (hk : k < table.length) :
    (e'.decisions.filter (·.candleIndex < k) = e.decisions ∧
      e'.trades.filter (·.exitTimestamp < timeAt table k) = e.trades) ∧
    (e'.trades.filter (·.entryTimestamp < timeAt table k)).map (fun t => (t.entryTimestamp, t.levels)) = e.entries table ∧
    (e'.trades.filter (·.entryTimestamp = timeAt table k)).map (·.levels) = es.map (·.2) := by
  obtain ⟨ds, hds, hd⟩ := hcut.decisions
  obtain ⟨ts, hts, ht⟩ := hcut.trades
  obtain ⟨es', hes, hat, he⟩ := hcut.entries
  have hentries : e'.trades.map (fun t => (t.entryTimestamp, t.levels)) = e.entries table ++ (es ++ es') := by
    rw [← hes]
    unfold BacktestEngine.entries
    rw [hclosed]
    exact (append_nil _).symm
  have hbefore : ∀ x ∈ e.entries table, x.1 < timeAt table k := by
    intro x hx
    obtain ⟨j, hj, htime⟩ := hprior.entries x hx
    rw [htime]
    exact htimes j k hj hk
  have hafter : ∀ x ∈ es', timeAt table k < x.1 := by
    intro x hx
    obtain ⟨j, hj, htime⟩ := he x hx
    rw [htime]
    exact htimes k j hj.1 hj.2
  refine ⟨⟨?_, ?_⟩, ?_, ?_⟩
  · rw [hds, filter_append, filter_eq_self.2 fun d hmem => decide_eq_true (hprior.decisions d hmem),
      filter_eq_nil_iff.2 fun d hmem => ?_, append_nil]
    have hd := hd d hmem
    rw [decide_eq_true_eq]
    omega
  · rw [hts, filter_append, filter_eq_self.2 fun t hmem => ?_, filter_eq_nil_iff.2 fun t hmem => ?_,
      append_nil]
    · obtain ⟨j, hj, htime⟩ := ht t hmem
      rw [decide_eq_true_eq, htime]
      rcases hj.1.eq_or_lt with rfl | hlt
      · exact lt_irrefl _
      · exact (htimes k j hlt hj.2).not_gt
    · obtain ⟨j, hj, htime⟩ := hprior.trades t hmem
      rw [decide_eq_true_eq, htime]
      exact htimes j k hj hk
  · have hfilter : (e'.trades.filter (·.entryTimestamp < timeAt table k)).map (fun t => (t.entryTimestamp, t.levels)) =
        (e'.trades.map fun t => (t.entryTimestamp, t.levels)).filter (·.1 < timeAt table k) := by
      rw [filter_map]
      rfl
    rw [hfilter, hentries, filter_append, filter_append,
      filter_eq_self.2 fun x hx => decide_eq_true (hbefore x hx),
      filter_eq_nil_iff.2 fun x hx => (by rw [decide_eq_true_eq, hat x hx]; exact lt_irrefl _),
      filter_eq_nil_iff.2 fun x hx => (by rw [decide_eq_true_eq]; exact (hafter x hx).not_gt)]
    exact append_nil _
  · have hfilter : (e'.trades.filter (·.entryTimestamp = timeAt table k)).map (·.levels) =
        ((e'.trades.map fun t => (t.entryTimestamp, t.levels)).filter (·.1 = timeAt table k)).map (·.2) := by
      rw [filter_map, map_map]
      rfl
    rw [hfilter, hentries, filter_append, filter_append,
      filter_eq_nil_iff.2 fun x hx => (by rw [decide_eq_true_eq]; exact (hbefore x hx).ne),
      filter_eq_self.2 fun x hx => decide_eq_true (hat x hx),
      filter_eq_nil_iff.2 fun x hx => (by rw [decide_eq_true_eq]; exact (hafter x hx).ne'), append_nil]
    rfl

end

/-- **Two runs alike before a candle**, whose time is `x` in one and `y` in the other. -/
structure SameBefore (k : ℕ) (x y : ℤ) (e e' : BacktestEngine) : Prop where
  decisions : e.decisions.filter (·.candleIndex < k) = e'.decisions.filter (·.candleIndex < k)
  exits : e.trades.filter (·.exitTimestamp < x) = e'.trades.filter (·.exitTimestamp < y)
  entries : (e.trades.filter (·.entryTimestamp < x)).map (fun t => (t.entryTimestamp, t.levels)) =
    (e'.trades.filter (·.entryTimestamp < y)).map (fun t => (t.entryTimestamp, t.levels))
  entered : (e.trades.filter (·.entryTimestamp = x)).map (·.levels) =
    (e'.trades.filter (·.entryTimestamp = y)).map (·.levels)

structure Feed where
  table : List BacktestRow
  signals : ℕ → Except PyExc BacktestSignal
  times : ∀ i j, i < j → j < table.length → timeAt table i < timeAt table j
  regular : Regular table signals warmupCandles table.length

/-- A run over a feed: `count` turns from `start` on, and the end at `last`. -/
def Feed.run (f : Feed) (g : BacktestConfiguration) (start count last : ℕ) : Except PyExc BacktestEngine := do
  let e ← (BacktestEngine.new g).loop g f.table f.signals start count
  e.finish g f.table last

/-- **Two feeds that agree before `k`**, and on the open of it. -/
structure Feed.Agree (f f' : Feed) (k : ℕ) : Prop where
  rows : ∀ j < k, f.table[j]? = f'.table[j]?
  signals : ∀ j < k, f.signals j = f'.signals j
  row : ∃ row row', f.table[k]? = some row ∧ f'.table[k]? = some row' ∧ row.open_ = row'.open_

section

variable {g : BacktestConfiguration} {f f' : Feed} {e e₁ e₂ : BacktestEngine} {k start count last m : ℕ}

theorem Cut.same {es es' : List (ℤ × BacktestLevels)} (hagree : f.Agree f' k) (hbounded : e.Bounded k)
    (hprior : Prior f.table k e) (hprior' : Prior f'.table k e) (h : Cut f.table k es e e₁) (h' : Cut f'.table k es' e e₂)
    (hclosed : e₁.position = none) (hclosed' : e₂.position = none) (hes : es.map (·.2) = es'.map (·.2)) :
    SameBefore k (timeAt f.table k) (timeAt f'.table k) e₁ e₂ := by
  obtain ⟨row, row', hrow, hrow', -⟩ := hagree.row
  obtain ⟨⟨hdecisions, hexits⟩, hentries, hentered⟩ :=
    h.books hprior hclosed f.times (List.getElem?_eq_some_iff.1 hrow).1
  obtain ⟨⟨hdecisions', hexits'⟩, hentries', hentered'⟩ :=
    h'.books hprior' hclosed' f'.times (List.getElem?_eq_some_iff.1 hrow').1
  exact ⟨hdecisions.trans hdecisions'.symm, hexits.trans hexits'.symm,
    hentries.trans ((entries_congr hagree.rows hbounded).trans hentries'.symm), hentered.trans (hes.trans hentered'.symm)⟩

/-- **The rest of a run**, from `k` on. -/
theorem rest_cut (h : e.Bounded k) {row : BacktestRow} (hrow : f.table[k]? = some row) (hwarm : warmupCandles ≤ k)
    (hk : k < m) (hm : m ≤ f.table.length) :
    ∃ e', (do
      let e ← e.loop g f.table f.signals k (m - k)
      e.finish g f.table (m - 1)) = .ok e' ∧ e'.position = none ∧
      Cut f.table k ((opened g e k row).toList.map fun p => (timeAt f.table p.entryIndex, p.levels f.table)) e e' := by
  obtain ⟨⟨row', hrow', hatr⟩, hsignal⟩ := f.regular k hwarm (by omega)
  rw [hrow] at hrow'
  cases hrow'
  obtain ⟨ea, hturn, hbounded, hadds⟩ := turn_spec (g := g) h hrow hatr hsignal
  obtain ⟨eb, hloop, hbounded', hbetween⟩ := loop_between (g := g) (m - (k + 1)) (k + 1) ea hbounded
    fun i hi hi' => f.regular i (by omega) (by omega)
  rw [show k + 1 + (m - (k + 1)) = m by omega] at hbounded' hbetween
  obtain ⟨ec, hfinish, ⟨hclosed, -⟩, hlast⟩ := @finish_spec g f.table _ _ hbounded' (m - 1)
    fun _ => ⟨by omega, by omega⟩
  refine ⟨ec, ?_, hclosed, ?_⟩
  · rw [show m - k = m - (k + 1) + 1 by omega, loop_succ, hturn]
    change (do
      let e ← ea.loop g f.table f.signals (k + 1) (m - (k + 1))
      e.finish g f.table (m - 1)) = _
    rw [hloop]
    exact hfinish
  · exact ((hadds.cut (by omega) fun p hp => (opened_spec h hp).1).trans hbetween (Nat.lt_succ_self k) hm).finish hlast
      (by omega) (by omega)

theorem late_cut (hk : k < start) (hwarm : warmupCandles ≤ start)
    (hcount : 0 < count → start + count ≤ f.table.length ∧ last + 1 = start + count) :
    ∃ e', f.run g start count last = .ok e' ∧ e'.position = none ∧ Cut f.table k [] (BacktestEngine.new g) e' := by
  unfold Feed.run
  rcases Nat.eq_zero_or_pos count with rfl | hpos
  · exact ⟨_, rfl, rfl, .refl f.table k _⟩
  · obtain ⟨hle, hlast⟩ := hcount hpos
    obtain ⟨ea, hloop, hbounded, hbetween⟩ := loop_between (g := g) count start _ (bounded_new g start)
      fun i hi hi' => f.regular i (by omega) (by omega)
    obtain ⟨eb, hfinish, ⟨hclosed, -⟩, hends⟩ := @finish_spec g f.table _ _ hbounded last
      fun _ => ⟨by omega, by omega⟩
    refine ⟨eb, ?_, hclosed, ?_⟩
    · rw [hloop]
      exact hfinish
    · exact ((Cut.refl f.table k _).trans hbetween hk hle).finish hends (by omega) (by omega)

theorem same_before (hagree : f.Agree f' k) (hwarm : warmupCandles ≤ start) {count' last' : ℕ}
    (hcount : 0 < count → start + count ≤ f.table.length ∧ last + 1 = start + count)
    (hcount' : 0 < count' → start + count' ≤ f'.table.length ∧ last' + 1 = start + count')
    (hcases : k < start ∨ start ≤ k ∧ (start + count ≤ k ∧ count = count' ∧ last = last' ∨
      k < start + count ∧ k < start + count')) :
    ∃ e₁ e₂, f.run g start count last = .ok e₁ ∧ f'.run g start count' last' = .ok e₂ ∧
      SameBefore k (timeAt f.table k) (timeAt f'.table k) e₁ e₂ := by
  obtain ⟨row, row', hrow, hrow', hopen⟩ := hagree.row
  have hlen := (List.getElem?_eq_some_iff.1 hrow).1
  have hlen' := (List.getElem?_eq_some_iff.1 hrow').1
  rcases hcases with hk | ⟨hk, ⟨hle, rfl, rfl⟩ | ⟨hlt, hlt'⟩⟩
  · -- both start after the candle
    obtain ⟨e₁, hrun, hclosed, hcut⟩ := late_cut (g := g) hk hwarm hcount
    obtain ⟨e₂, hrun', hclosed', hcut'⟩ := late_cut (g := g) hk hwarm hcount'
    exact ⟨e₁, e₂, hrun, hrun', hcut.same hagree (bounded_new g k) (prior_new g _ k) (prior_new g _ k) hcut'
      hclosed hclosed' rfl⟩
  · -- both end before it
    rcases Nat.eq_zero_or_pos count with rfl | hpos
    · exact ⟨_, _, rfl, rfl, (Cut.refl f.table k _).same hagree (bounded_new g k) (prior_new g _ k) (prior_new g _ k)
        (Cut.refl f'.table k _) rfl rfl rfl⟩
    · obtain ⟨hm, hlast⟩ := hcount hpos
      obtain ⟨e₀, hloop, hbounded, hbetween⟩ := loop_between (g := g) count start _ (bounded_new g start)
        fun i hi hi' => f.regular i (by omega) (by omega)
      have hloop' := hloop
      rw [loop_congr hagree.rows hagree.signals count start _ (bounded_new g start)
        (fun i hi hi' => f.regular i (by omega) (by omega)) hle] at hloop'
      obtain ⟨e₁, hfinish, ⟨hclosed, hpending⟩, hends⟩ := @finish_spec g f.table _ _ hbounded last
        fun _ => ⟨by omega, by omega⟩
      have hfinish' := hfinish
      rw [finish_congr hagree.rows (hbounded.mono hle) fun _ => by omega] at hfinish'
      -- all that the run holds is of candles before `k`, in either feed
      have hprior : ∀ {f' : Feed}, f'.run g start count last = .ok e₁ → k < f'.table.length → Prior f'.table k e₁ := by
        intro f' hrun hlen
        obtain ⟨ea, hloop, hbounded, hbetween⟩ := loop_between (g := g) count start _ (bounded_new g start)
          fun i hi hi' => f'.regular i (by omega) (by omega)
        obtain ⟨eb, hfinish, -, hadds⟩ := @finish_spec g f'.table _ _ hbounded last
          fun _ => ⟨by omega, by omega⟩
        unfold Feed.run at hrun
        rw [hloop] at hrun
        change ea.finish g f'.table last = .ok e₁ at hrun
        rw [hfinish, Except.ok.injEq] at hrun
        subst hrun
        exact (hbetween.trans (hadds.between fun p hp => by cases hp) (by omega) (by omega)).prior (by omega)
      have hrun : f.run g start count last = .ok e₁ := by
        unfold Feed.run
        rw [hloop]
        exact hfinish
      have hrun' : f'.run g start count last = .ok e₁ := by
        unfold Feed.run
        rw [hloop']
        exact hfinish'
      refine ⟨e₁, e₁, hrun, hrun', (Cut.refl f.table k e₁).same hagree ⟨fun p hp => ?_, fun p hp => ?_⟩ (hprior hrun hlen)
        (hprior hrun' hlen') (Cut.refl f'.table k e₁) hclosed hclosed rfl⟩
      · rw [hpending] at hp
        cases hp
      · rw [hclosed] at hp
        cases hp
  · -- both reach it
    have hend : start + (k - start) = k := by omega
    obtain ⟨hm, hlast⟩ := hcount (by omega)
    obtain ⟨hm', hlast'⟩ := hcount' (by omega)
    obtain ⟨e₀, hloop, hbounded, hbetween⟩ := loop_between (g := g) (k - start) start _ (bounded_new g start)
      fun i hi hi' => f.regular i (by omega) (by omega)
    have hloop' := hloop
    rw [loop_congr hagree.rows hagree.signals (k - start) start _ (bounded_new g start)
      (fun i hi hi' => f.regular i (by omega) (by omega)) hend.le] at hloop'
    obtain ⟨e₀', hsame, -, hbetween'⟩ := loop_between (g := g) (k - start) start _ (bounded_new g start)
      fun i hi hi' => f'.regular i (by omega) (by omega)
    rw [hloop', Except.ok.injEq] at hsame
    subst hsame
    rw [hend] at hbounded hbetween hbetween'
    obtain ⟨e₁, hrest, hclosed, hcut⟩ := rest_cut (g := g) hbounded hrow (by omega) hlt hm
    obtain ⟨e₂, hrest', hclosed', hcut'⟩ := rest_cut (g := g) hbounded hrow' (by omega) hlt' hm'
    refine ⟨e₁, e₂, ?_, ?_, hcut.same hagree hbounded (hbetween.prior le_rfl) (hbetween'.prior le_rfl) hcut' hclosed hclosed'
      ?_⟩
    · unfold Feed.run
      rw [show count = k - start + (start + count - k) by omega, loop_add, hloop, show last = start + count - 1 by omega, hend]
      exact hrest
    · unfold Feed.run
      rw [show count' = k - start + (start + count' - k) by omega, loop_add, hloop', show last' = start + count' - 1 by omega,
        hend]
      exact hrest'
    · rw [opened_congr hopen, map_map, map_map]
      refine map_congr_left fun p hp => ?_
      have hsignal := (opened_spec hbounded (Option.mem_toList.1 hp)).2
      change p.levels f.table = p.levels f'.table
      unfold OpenPosition.levels timeAt
      rw [hagree.rows _ hsignal]

end

end BacktestEngine

/-! ### Runs of the backtest -/

open BacktestEngine

structure Accepted (candles : List BacktestCandle) : Prop where
  sorted : candles.IsChain fun c c' => c.time < c'.time
  long : warmupCandles < candles.length

section

variable {candles candles' : List BacktestCandle} {k : ℕ}

theorem backtestTable_time {i : ℕ} (hi : i < candles.length) : timeAt (backtestTable candles) i = candles[i].time := by
  have hfound : i < (indicatorsOf candles).length := by rwa [indicatorsOf_length]
  unfold timeAt backtestTable
  rw [getElem?_zipWith, getElem?_eq_getElem hi, getElem?_eq_getElem hfound]
  rfl

def Accepted.feed (h : Accepted candles) : Feed where
  table := backtestTable candles
  signals := signalAt candles
  times i j hij hj := by
    rw [backtestTable_length] at hj
    rw [backtestTable_time (hij.trans hj), backtestTable_time hj]
    have hpairwise := (List.isChain_iff_pairwise (R := fun c c' : BacktestCandle => c.time < c'.time)).1 h.sorted
    exact List.pairwise_iff_getElem.1 hpairwise i j _ _ hij
  regular i hi hlt := by
    rw [backtestTable_length] at hlt
    obtain ⟨found, hfound, hrow⟩ := backtestTable_getElem? (List.getElem?_eq_getElem hlt)
    obtain ⟨q, hq⟩ := atr_of_indicators hfound (le_trans (by decide) hi)
    refine ⟨⟨_, hrow, q, ?_⟩, signalAt_ok hlt⟩
    unfold BacktestCandle.row
    rw [hq]
    rfl

def turnsOf (startIndex endIndex : Option ℤ) (length : ℕ) : ℕ := (evalEnd endIndex length - evalStart startIndex).toNat

theorem runBacktest_eq (h : Accepted candles) (g : BacktestConfiguration) (startIndex endIndex : Option ℤ) :
    runBacktest g startIndex endIndex candles = h.feed.run g (evalStart startIndex).toNat
      (turnsOf startIndex endIndex candles.length) (evalEnd endIndex candles.length - 1).toNat := by
  unfold runBacktest
  rw [if_neg (not_not.2 h.sorted), if_neg (not_le.2 h.long)]
  rfl

/-- **`run_backtest` knows no later candle**: over datasets with the same candles before `k` and the same open of it, two
runs decide, enter and leave alike before `k`, and enter alike at it. -/
theorem backtest_causal (g : BacktestConfiguration) (startIndex endIndex : Option ℤ) (h : Accepted candles)
    (h' : Accepted candles') {x y : BacktestCandle} (hx : candles[k]? = some x) (hy : candles'[k]? = some y)
    (htake : candles.take k = candles'.take k) (hopen : x.prices.open_ = y.prices.open_) :
    ∃ e e', runBacktest g startIndex endIndex candles = .ok e ∧ runBacktest g startIndex endIndex candles' = .ok e' ∧
      SameBefore k x.time y.time e e' := by
  obtain ⟨hlt, rfl⟩ := List.getElem?_eq_some_iff.1 hx
  obtain ⟨hlt', rfl⟩ := List.getElem?_eq_some_iff.1 hy
  have hlong := h.long
  have hlong' := h'.long
  obtain ⟨found, -, hrow⟩ := backtestTable_getElem? hx
  obtain ⟨found', -, hrow'⟩ := backtestTable_getElem? hy
  have hagree : h.feed.Agree h'.feed k :=
    ⟨backtestTable_congr htake, fun j hj => signalAt_congr htake hj, _, _, hrow, hrow', hopen⟩
  rw [runBacktest_eq h, runBacktest_eq h', ← backtestTable_time hlt, ← backtestTable_time hlt']
  have hlen : h.feed.table.length = candles.length := backtestTable_length
  have hlen' : h'.feed.table.length = candles'.length := backtestTable_length
  refine same_before hagree ?_ ?_ ?_ ?_
  · unfold evalStart
    omega
  · rw [hlen]
    unfold turnsOf evalStart evalEnd
    omega
  · rw [hlen']
    unfold turnsOf evalStart evalEnd
    omega
  · unfold turnsOf evalStart evalEnd
    cases endIndex with
    | none =>
      rw [Option.getD_none, Option.getD_none]
      omega
    | some last =>
      rw [Option.getD_some, Option.getD_some]
      omega

end

/-! ### A dataset continued in two ways -/

def stillCandle (i : ℕ) : BacktestCandle where
  time := 900 * i
  prices := ⟨100, 100, 100, 100⟩
  prices_pos := by norm_num
  ohlc_ok := by norm_num

def burstCandle (i : ℕ) : BacktestCandle where
  time := 900 * i
  prices := ⟨100, 200, 50, 150⟩
  prices_pos := by norm_num
  ohlc_ok := by norm_num

def hundredBacktest : BacktestConfiguration := hundredConfiguration

def stillCandles (n : ℕ) : List BacktestCandle := (List.range n).map stillCandle

theorem stillCandles_length (n : ℕ) : (stillCandles n).length = n := by simp [stillCandles]

theorem accepted_still {c : BacktestCandle} (htime : c.time = 900 * 202) : Accepted (stillCandles 202 ++ [c]) where
  sorted := by
    refine (isChain_iff_pairwise (R := fun c c' : BacktestCandle => c.time < c'.time)).2
      (pairwise_append.2 ⟨?_, pairwise_singleton _ _, fun c' hc' c'' hc'' => ?_⟩)
    · refine pairwise_map.2 (List.pairwise_lt_range.imp fun {i j} hij => ?_)
      change (900 * (i : ℤ)) < 900 * (j : ℤ)
      omega
    · obtain ⟨i, hi, rfl⟩ := mem_map.1 hc'
      have hi := mem_range.1 hi
      rw [mem_singleton.1 hc'', htime]
      change (900 * (i : ℤ)) < 900 * 202
      omega
  long := by
    rw [length_append, stillCandles_length]
    change 200 < 202 + 1
    decide

theorem backtest_causal_still : ∃ e e', runBacktest hundredBacktest none none (stillCandles 202 ++ [stillCandle 202]) = .ok e ∧
    runBacktest hundredBacktest none none (stillCandles 202 ++ [burstCandle 202]) = .ok e' ∧
      SameBefore 202 (stillCandle 202).time (burstCandle 202).time e e' := by
  have hlast : ∀ c : BacktestCandle, (stillCandles 202 ++ [c])[202]? = some c := fun c => by
    rw [List.getElem?_append_right (by rw [stillCandles_length]), stillCandles_length]
    rfl
  have hfirst : ∀ c : BacktestCandle, (stillCandles 202 ++ [c]).take 202 = stillCandles 202 := fun c => by
    rw [List.take_append_of_le_length (by rw [stillCandles_length])]
    exact List.take_of_length_le (by rw [stillCandles_length])
  exact backtest_causal hundredBacktest none none (accepted_still rfl) (accepted_still rfl) (hlast _) (hlast _)
    ((hfirst _).trans (hfirst _).symm) rfl

end Jqe
