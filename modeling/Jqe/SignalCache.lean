import Jqe.Memo
import Jqe.MtfBacktest
import Jqe.Strategy
/-!
# SignalCache — the signal pass of `tools/weltrade_mtf_backtest.py` behind its files

`_signal_pass` judges every candle by the five hundred up to it, under the directions of two higher timeframes.  The name of
the file that keeps its arrays has the symbol, the timeframe and the number of candles.
-/
namespace Jqe
namespace Mtf

open List

/-- What `_direction_series` returns. -/
structure DirectionSeries where
  closeTimes : List ℤ
  direction : List ℤ

structure PassCall where
  symbol : String
  tf : String
  candles : List Candle
  h1 : DirectionSeries
  h4 : DirectionSeries

structure PassRow where
  signal : ℤ
  raw : ℤ
  atr : ℚ
  stop : ℚ
  blocked : ℤ
  deriving DecidableEq

def atrSlMultiplier : ℚ := 2

def tfSeconds : String → Except PyExc ℤ
  | "M1" => .ok 60
  | "M5" => .ok 300
  | "H1" => .ok 3600
  | "H4" => .ok 14400
  | tf => .error (.exception ("'" ++ tf ++ "'"))

/-- `np.searchsorted` with `side="right"`, between two positions. -/
def searchsortedRight (xs : List ℤ) (key : ℤ) (low high : ℕ) : ℕ :=
  if h : low < high then
    let mid := low + (high - low) / 2
    if key < xs.getD mid 0 then searchsortedRight xs key low mid else searchsortedRight xs key (mid + 1) high
  else low
termination_by high - low

def biasAt (series : DirectionSeries) (decisionTs : ℤ) : Except PyExc ℤ :=
  match searchsortedRight series.closeTimes decisionTs 0 series.closeTimes.length with
  | 0 => .ok 0
  | idx + 1 =>
    match series.direction[idx]? with
    | some direction => .ok direction
    | none => .error (.exception ("index " ++ toString idx ++ " is out of bounds for axis 0 with size " ++
        toString series.direction.length))

def Candle.priceRow (c : Candle) : PriceRow := ⟨c.open_, c.high, c.low, c.close⟩

/-- The seconds that `datetime.fromtimestamp` takes. -/
def datable (epoch : ℤ) : Bool := -62135596800 ≤ epoch && epoch ≤ 253402300799

namespace PassCall

variable (call : PassCall)

def rowAt (tfSec : ℤ) (i : ℕ) : Except PyExc PassRow := do
  let enriched := calculateIndicators ((call.candles.map Candle.priceRow).drop (i - (window - 1)) |>.take window)
  let regime ← detectRegime enriched
  let result ← generateTradingSignal enriched (some regime)
  -- the strategy presents the latest row's range as `intelligence["atr"]`
  let a := (enriched.getLast?.bind (·.atr)).getD 0
  let rawDir : ℤ := match result.signal with
    | .buy => 1
    | .sell => -1
    | .noTrade => 0
  let row : PassRow := ⟨0, rawDir, a, a * atrSlMultiplier, 0⟩
  if rawDir = 0 then return row
  let decisionTs := (call.candles.getD i default).time + tfSec
  let b1 ← biasAt call.h1 decisionTs
  let b4 ← biasAt call.h4 decisionTs
  if rawDir = 1 ∧ b1 = 1 ∧ b4 = 1 then return { row with signal := 1 }
  else if rawDir = -1 ∧ b1 = -1 ∧ b4 = -1 then return { row with signal := -1 }
  else return { row with blocked := 1 }

/-- **`_signal_pass`**, its arrays row by row. -/
def signalPass : Except PyExc (List PassRow) := do
  let tfSec ← tfSeconds call.tf
  if (call.candles.all fun c => datable c.time) = false then throw (.exception "year is out of range")
  let n := call.candles.length
  let rows ← (List.range' (window - 1) (n - (window - 1))).mapM (call.rowAt tfSec)
  return List.replicate (min n (window - 1)) ⟨0, 0, 0, 0, 0⟩ ++ rows

def path : String :=
  call.symbol.map (fun c => if c = ' ' then '_' else c) ++ "_" ++ call.tf ++ "_" ++ toString call.candles.length ++ ".npz"

/-- **`_signal_pass_cached`**: the arrays, and the files after it. -/
def signalPassCached (files : String → Option (List PassRow)) : Except PyExc (List PassRow) × (String → Option (List PassRow)) :=
  match files call.path with
  | some rows => (.ok rows, files)
  | none =>
    match call.signalPass with
    | .ok rows => (.ok rows, Function.update files call.path (some rows))
    | .error e => (.error e, files)

def answers (files : String → Option (List PassRow)) : List PassCall → List (Except PyExc (List PassRow))
  | [] => []
  | call :: calls => (call.signalPassCached files).1 :: answers (call.signalPassCached files).2 calls

/-- **Calls of one fixed history**: what the pass is computed from is the same. -/
structure SameHistory (call call' : PassCall) : Prop where
  tf : call.tf = call'.tf
  candles : call.candles = call'.candles
  h1 : call.h1 = call'.h1
  h4 : call.h4 = call'.h4

variable {call} {call' : PassCall}

theorem signalPassCached_eq (files : String → Option (List PassRow)) :
    call.signalPassCached files = Memo.call path signalPass files call := by
  unfold signalPassCached Memo.call
  cases files call.path with
  | some rows => rfl
  | none => cases call.signalPass <;> rfl

theorem answers_eq (files : String → Option (List PassRow)) (calls : List PassCall) :
    answers files calls = Memo.run path signalPass files calls := by
  induction calls generalizing files with
  | nil => rfl
  | cons call calls ih => rw [answers, Memo.run, ih, signalPassCached_eq]

theorem SameHistory.signalPass_eq (h : call.SameHistory call') : call.signalPass = call'.signalPass := by
  obtain ⟨symbol, tf, candles, h1, h4⟩ := call
  obtain ⟨symbol', tf', candles', h1', h4'⟩ := call'
  obtain ⟨rfl, rfl, rfl, rfl⟩ := h
  rfl

/-- **A sequence of calls is answered as `_signal_pass` answers each of them, exactly when no call has the file name of an
earlier one with another result; and so it is whenever calls of one file name are of one history.** -/
theorem signal_cache_transparent (calls : List PassCall) :
    (answers (fun _ => none) calls = calls.map signalPass ↔
        calls.Pairwise fun call call' => call.path = call'.path →
          ∀ rows, call.signalPass = .ok rows → call'.signalPass = .ok rows) ∧
      ((calls.Pairwise fun call call' => call.path = call'.path → call.SameHistory call') →
        answers (fun _ => none) calls = calls.map signalPass) := by
  rw [answers_eq]
  refine ⟨Memo.run_eq_map_iff, fun hfixed => Memo.run_eq_map_iff.2 (hfixed.imp fun hsame hpath rows hrows => ?_)⟩
  rw [← (hsame hpath).signalPass_eq]
  exact hrows

/-! ### A history that was refreshed -/

open Column Indicators in
theorem atr_replicate (row : PriceRow) (hlow : row.low ≤ row.close) (hhigh : row.close ≤ row.high) {n i : ℕ}
    (hi : i < n) (hlong : 13 ≤ i) : (atr (List.replicate n row))[i]? = some (some (row.high - row.low)) := by
  obtain ⟨m, rfl⟩ : ∃ m, n = m + 1 := ⟨n - 1, by omega⟩
  have hshift : shift (List.replicate (m + 1) row.close) = none :: List.replicate m (some row.close) := by
    unfold shift
    rw [length_replicate, take_succ_cons, map_replicate, take_replicate, Nat.min_eq_left m.le_succ]
  have hrange : trueRange (List.replicate (m + 1) row) = List.replicate (m + 1) (some (row.high - row.low)) := by
    have hlarger : larger (some (row.high - row.low))
        (larger (some |row.high - row.close|) (some |row.low - row.close|)) = some (row.high - row.low) := by
      rw [abs_of_nonneg (by linarith), abs_of_nonpos (by linarith)]
      simp only [larger, Option.some.injEq]
      rw [max_eq_left (max_le (by linarith) (by linarith))]
    unfold trueRange fromClose
    simp only [map_replicate, hshift]
    simp only [replicate_succ, zipWith_cons_cons, zipWith_replicate, Nat.min_self, Option.map_some,
      Option.map_none, hlarger]
    rfl
  unfold atr
  rw [rolling_getElem? 14 14 (by rwa [trueRange_length, length_replicate]), hrange]
  unfold Column.window mean
  rw [take_replicate, drop_replicate, show min (i + 1) (m + 1) - (i + 1 - 14) = 14 by omega]
  norm_num [List.reduceOption, List.replicate]
  ring

theorem rowAt_eq (tfSec : ℤ) (i : ℕ) {latest : IndicatorRow} {a : ℚ} (hh1 : call.h1 = ⟨[], []⟩) (hh4 : call.h4 = ⟨[], []⟩)
    (hlast : (calculateIndicators (((call.candles.map Candle.priceRow).drop (i - (Mtf.window - 1))).take
      Mtf.window)).getLast? = some latest) (hatr : latest.atr = some a) :
    ∃ row, call.rowAt tfSec i = .ok row ∧ row.atr = a := by
  have hbias : ∀ ts, biasAt ⟨[], []⟩ ts = .ok 0 := by
    intro ts
    unfold biasAt searchsortedRight
    rfl
  unfold rowAt detectRegime generateTradingSignal
  simp only [hlast, hh1, hh4, hbias, hatr, Option.bind_some, Option.getD_some, bind, Except.bind, pure, Except.pure]
  cases (Strategy.evaluate _ latest latest.regime).signal <;> simp

def steadyCall (n : ℕ) (range : ℚ) : PassCall :=
  ⟨"PainX 400", "M1", (List.range n).map fun i : ℕ => ⟨60 * i, 100, 100 + range, 100, 100, 1⟩, ⟨[], []⟩, ⟨[], []⟩⟩

theorem steadyCall_rows (n : ℕ) (range : ℚ) :
    (steadyCall n range).candles.map Candle.priceRow = List.replicate n ⟨100, 100 + range, 100, 100⟩ := by
  unfold steadyCall
  rw [map_map, eq_replicate_iff, length_map, length_range]
  refine ⟨rfl, fun row hrow => ?_⟩
  obtain ⟨i, -, rfl⟩ := mem_map.1 hrow
  rfl

theorem steadyCall_pass {n : ℕ} {range : ℚ} (hn : n = 500) (hrange : 0 ≤ range) :
    ∃ row, (steadyCall n range).signalPass = .ok (List.replicate 499 ⟨0, 0, 0, 0, 0⟩ ++ [row]) ∧ row.atr = range := by
  have hrows : (((steadyCall n range).candles.map Candle.priceRow).drop (499 - (Mtf.window - 1))).take Mtf.window =
      List.replicate n ⟨100, 100 + range, 100, 100⟩ := by
    rw [steadyCall_rows, drop_replicate, take_replicate]
    congr 1
    unfold Mtf.window
    omega
  have hatr := atr_replicate ⟨100, 100 + range, 100, 100⟩ le_rfl (by show (100 : ℚ) ≤ 100 + range; linarith)
    (show n - 1 < n by omega) (by omega)
  obtain ⟨latest, hlatest⟩ : ∃ latest, (calculateIndicators
      (List.replicate n ⟨100, 100 + range, 100, 100⟩))[n - 1]? = some latest :=
    ⟨_, getElem?_eq_getElem (by rw [Indicators.calculateIndicators_length, length_replicate]; omega)⟩
  have hcolumn := (Indicators.columns_of_row hlatest).2.2
  rw [hatr, Option.some.injEq] at hcolumn
  obtain ⟨row, hrow, hrowAtr⟩ := rowAt_eq 60 499 (show (steadyCall n range).h1 = ⟨[], []⟩ from rfl) rfl (by
    rw [hrows, getLast?_eq_getElem?, Indicators.calculateIndicators_length, length_replicate]
    exact hlatest) hcolumn.symm
  have hdates : ((steadyCall n range).candles.all fun c => datable c.time) = true := by
    unfold steadyCall
    rw [all_map, all_eq_true]
    intro i hi
    rw [mem_range] at hi
    simp only [Function.comp_apply, datable, Bool.and_eq_true, decide_eq_true_eq]
    omega
  have hlength : (steadyCall n range).candles.length = 500 := by
    unfold steadyCall
    rw [length_map, length_range, hn]
  refine ⟨row, ?_, by rw [hrowAtr]; ring⟩
  unfold signalPass
  dsimp only
  rw [show tfSeconds (steadyCall n range).tf = .ok 60 from rfl, hdates, hlength,
    show List.range' (Mtf.window - 1) (500 - (Mtf.window - 1)) = [499] from rfl, show min 500 (Mtf.window - 1) = 499 from rfl]
  simp only [mapM_cons, mapM_nil, hrow, bind, Except.bind, pure, Except.pure, Bool.true_eq_false, if_false]

/-- The history was refreshed under the same name and count: the second call is answered with the first one's ranges. -/
theorem signal_cache_stale : answers (fun _ => none) [steadyCall 500 0, steadyCall 500 20] ≠
    [steadyCall 500 0, steadyCall 500 20].map signalPass := by
  obtain ⟨row, hpass, hrow⟩ := steadyCall_pass rfl le_rfl
  obtain ⟨row', hpass', hrow'⟩ := steadyCall_pass rfl (show (0 : ℚ) ≤ 20 by norm_num)
  intro hall
  have hpath : (steadyCall 500 0).path = (steadyCall 500 20).path := by
    simp only [path, steadyCall, List.length_map]
  rw [answers_eq, Memo.run_eq_map_iff] at hall
  have hsame := List.rel_of_pairwise_cons hall (List.mem_singleton_self _) hpath _ hpass
  rw [hpass'] at hsame
  have hlast := congrArg List.getLast? (Except.ok.inj hsame)
  rw [List.getLast?_append_of_ne_nil _ (List.cons_ne_nil _ _), List.getLast?_append_of_ne_nil _ (List.cons_ne_nil _ _),
    List.getLast?_singleton, List.getLast?_singleton, Option.some.injEq] at hlast
  rw [hlast, hrow] at hrow'
  norm_num at hrow'

end PassCall
end Mtf
end Jqe
