import Jqe.Mt5Readers
import Jqe.WeltradeCanonical
/-!
# Mt5Range — reads of bars between two moments

The terminal compares the bounds with server times, and the times of what it returns are three hours less.

Positions count from the newest bar of the moment of each request.  The pages are one stretch of the series unless a bar is
appended between two requests that are made: then the later page ends with bars of the one before.
-/
namespace Jqe

open List

open Dataset (Candle)
open WeltradeSymbols (PyUnicode latinUnicode)

namespace Mt5Readers

/-- `_MT5_SERVER_UTC_OFFSET_SECONDS`, in microseconds. -/
def serverShift : ℤ := mt5ServerUtcOffsetSeconds * 1000000

def opensAt (rate : Mt5Bar) : ℤ := mt5TsToUtc rate.time * 1000000

/-- **What `copy_rates_range` returns**: the bars of a symbol's series whose server times lie between the bounds. -/
def RangeConvention (t : RatesTerminal) (timeframe : Timeframe) (series : String → List Mt5Bar) : Prop :=
  ∀ name start stop, t.copyRatesRange name timeframe start stop =
    .ok (some ((series name).filter fun rate => decide (start ≤ rate.time * 1000000) && decide (rate.time * 1000000 ≤ stop)))

def Between (start stop : ℤ) (rate : Mt5Bar) : Prop := start ≤ opensAt rate ∧ opensAt rate ≤ stop

/-- **The interval is returned**: candles within it only, and all of its bars; nothing is raised unless it has none. -/
def ReturnsInterval (series : List Mt5Bar) (source : String) (start stop : ℤ) : Except PyExc (List Candle) → Prop
  | .ok candles => (∀ c ∈ candles, ∃ time, c.time = .aware time ∧ start ≤ time ∧ time ≤ stop) ∧
    ∀ rate ∈ series, Between start stop rate → rate.toCandle source ∈ candles
  | .error _ => ∀ rate ∈ series, ¬Between start stop rate

/-- **No bar lies in only one of an interval and the one three hours before.** -/
def NoneShifted (series : List Mt5Bar) (start stop : ℤ) : Prop :=
  ∀ rate ∈ series, Between start stop rate ↔ Between (start - serverShift) (stop - serverShift) rate

theorem between_shifted {start stop : ℤ} {rate : Mt5Bar} :
    Between (start - serverShift) (stop - serverShift) rate ↔
      start ≤ rate.time * 1000000 ∧ rate.time * 1000000 ≤ stop := by
  unfold Between opensAt mt5TsToUtc serverShift
  constructor
  · rintro ⟨hstart, hstop⟩
    constructor <;> linarith
  · rintro ⟨hstart, hstop⟩
    constructor <;> linarith

theorem between_congr {start stop : ℤ} {rate rate' : Mt5Bar} (h : rate.time = rate'.time) :
    Between start stop rate ↔ Between start stop rate' := by
  unfold Between opensAt
  rw [h]

theorem returnsInterval_iff (series : List Mt5Bar) (source : String) (start stop : ℤ) :
    ReturnsInterval series source start stop
      ((someRates (some (series.filter fun rate =>
        decide (start ≤ rate.time * 1000000) && decide (rate.time * 1000000 ≤ stop)))).map
          fun rates => rates.map (Mt5Bar.toCandle source)) ↔ NoneShifted series start stop := by
  have hmem : ∀ rate, rate ∈ series.filter (fun rate =>
      decide (start ≤ rate.time * 1000000) && decide (rate.time * 1000000 ≤ stop)) ↔
      rate ∈ series ∧ Between (start - serverShift) (stop - serverShift) rate := by
    intro rate
    rw [mem_filter, between_shifted, Bool.and_eq_true, decide_eq_true_eq, decide_eq_true_eq]
  generalize series.filter _ = found at hmem ⊢
  cases found with
  | nil =>
    refine forall₂_congr fun rate hrate => ?_
    have hnot : ¬Between (start - serverShift) (stop - serverShift) rate := fun h => not_mem_nil ((hmem rate).2 ⟨hrate, h⟩)
    exact ⟨fun h => ⟨fun h' => absurd h' h, fun h' => absurd h' hnot⟩, fun h h' => hnot (h.1 h')⟩
  | cons head rest =>
    show (∀ c ∈ (head :: rest).map (Mt5Bar.toCandle source), _) ∧ _ ↔ _
    constructor
    · rintro ⟨hwithin, hall⟩ rate hrate
      constructor
      · intro hbetween
        obtain ⟨rate', hrate', hcandle⟩ := mem_map.1 (hall rate hrate hbetween)
        have htime : mt5TsToUtc rate'.time * 1000000 = mt5TsToUtc rate.time * 1000000 :=
          PyDatetime.aware.inj (congrArg Candle.time hcandle)
        have hsame : rate'.time = rate.time := by
          unfold mt5TsToUtc at htime
          omega
        exact (between_congr hsame).1 ((hmem rate').1 hrate').2
      · intro hshifted
        obtain ⟨time, htime, hstart, hstop⟩ := hwithin _ (mem_map_of_mem ((hmem rate).2 ⟨hrate, hshifted⟩))
        cases htime
        exact ⟨hstart, hstop⟩
    · intro hnone
      constructor
      · intro c hc
        obtain ⟨rate, hrate, rfl⟩ := mem_map.1 hc
        obtain ⟨hseries, hshifted⟩ := (hmem rate).1 hrate
        obtain ⟨hstart, hstop⟩ := (hnone rate hseries).2 hshifted
        exact ⟨_, rfl, hstart, hstop⟩
      · exact fun rate hrate hbetween => mem_map_of_mem ((hmem rate).2 ⟨hrate, (hnone rate hrate).1 hbetween⟩)

section

variable [PyUnicode] {reader : Reader} {g : MT5Gateway} {t : RatesTerminal} {symbol name : String}
  {timeframe : Timeframe}

theorem getCandlesRange_eq (hconnected : g.connected = true) (hname : resolveSymbol .weltrade t symbol = .ok (some name))
    (start stop : ℤ) {rates : List Mt5Bar} (hrates : t.copyRatesRange name timeframe start stop = .ok (some rates)) :
    getCandlesRange g t symbol timeframe start stop =
      (someRates (some rates)).map fun rates => rates.map (Mt5Bar.toCandle (Reader.marketDataProvider .weltrade)) := by
  unfold getCandlesRange MT5Gateway.requireConnected
  rw [hconnected, hname]
  show (Except.bind (Sdk.get (t.copyRatesRange name timeframe start stop)) _) = _
  rw [hrates]
  cases rates with
  | nil => rfl
  | cons head rest => rfl

theorem getCandles_stop_eq (hconnected : g.connected = true) (hname : resolveSymbol reader t symbol = .ok (some name))
    {count : ℤ} (hcount : 0 < count) (fuel : ℕ) (stop : ℤ) {rates : List Mt5Bar}
    (hrates : t.copyRatesRange name timeframe (stop - timeframe.seconds * count * 1000000) stop = .ok (some rates)) :
    getCandles reader g t symbol timeframe fuel count (some (.aware stop)) =
      some ((someRates (some rates)).map fun rates => rates.map (Mt5Bar.toCandle reader.marketDataProvider)) := by
  unfold getCandles candlePages MT5Gateway.requireConnected
  rw [hconnected, if_pos rfl]
  dsimp only
  rw [if_neg (not_le.2 hcount), hname]
  dsimp only
  rw [hrates]
  cases rates with
  | nil => rfl
  | cons head rest =>
    show some (Except.ok (([head :: rest].reverse.flatten).map _)) = some (Except.ok _)
    rw [reverse_singleton, flatten_singleton]

/-- **A ranged read returns its interval exactly when no bar lies in only one of it and the one three hours before**:
`get_candles_range` of Weltrade's gateway, and `get_candles` with an end. -/
theorem returns_interval_iff {series : String → List Mt5Bar} {other otherName : String} (hconnected : g.connected = true)
    (hconvention : RangeConvention t timeframe series) (hname : resolveSymbol .weltrade t symbol = .ok (some name))
    (hother : resolveSymbol reader t other = .ok (some otherName)) (start stop : ℤ) {count : ℤ} (hcount : 0 < count)
    (fuel : ℕ) :
    (ReturnsInterval (series name) (Reader.marketDataProvider .weltrade) start stop
        (getCandlesRange g t symbol timeframe start stop) ↔ NoneShifted (series name) start stop) ∧
    ((∃ outcome, getCandles reader g t other timeframe fuel count (some (.aware stop)) = some outcome ∧
        ReturnsInterval (series otherName) reader.marketDataProvider (stop - timeframe.seconds * count * 1000000) stop outcome) ↔
      NoneShifted (series otherName) (stop - timeframe.seconds * count * 1000000) stop) := by
  constructor
  · rw [getCandlesRange_eq hconnected hname start stop (hconvention name start stop)]
    exact returnsInterval_iff _ _ _ _
  · rw [getCandles_stop_eq hconnected hother hcount fuel stop (hconvention otherName _ stop),
      ← returnsInterval_iff (series otherName) reader.marketDataProvider]
    constructor
    · rintro ⟨outcome, houtcome, hreturns⟩
      cases houtcome
      exact hreturns
    · exact fun hreturns => ⟨_, rfl, hreturns⟩

end

/-! ### Bars of an index -/

def indexTerminal (series : List Mt5Bar) : RatesTerminal where
  accountInfo := .ok none
  terminalInfo := .ok none
  catalogue name := .ok (if name = "FiboX" then some true else none)
  makeVisible _ := .ok ()
  symbolSelect _ := .ok true
  symbolInfo _ := .ok none
  symbolInfoTick _ := .ok none
  orderCheck _ := .ok none
  orderSend _ := .ok none
  symbolsGet := .ok none
  copyRatesRange _ _ start stop :=
    .ok (some (series.filter fun rate => decide (start ≤ rate.time * 1000000) && decide (rate.time * 1000000 ≤ stop)))
  copyRatesFromPos _ _ _ start count := .ok (some (((series.reverse.drop start.toNat).take count.toNat).reverse))

def barAt (time : ℤ) : Mt5Bar := ⟨time, .fin 1, .fin 1, .fin 1, .fin 1, some (.fin 1)⟩

def activeGateway : MT5Gateway := ⟨true, none, none, none, none, false⟩

theorem returns_interval_iff_quiet :
    let _ : PyUnicode := latinUnicode
    (ReturnsInterval [barAt 21600] "weltrade" 0 36000000000
        (getCandlesRange activeGateway (indexTerminal [barAt 21600]) "FiboX" .h1 0 36000000000) ↔
      NoneShifted [barAt 21600] 0 36000000000) ∧
    ((∃ outcome, getCandles .mt5 activeGateway (indexTerminal [barAt 21600]) "FiboX" .h1 0 10 (some (.aware 36000000000)) =
        some outcome ∧ ReturnsInterval [barAt 21600] "mt5" (36000000000 - 3600 * 10 * 1000000) 36000000000 outcome) ↔
      NoneShifted [barAt 21600] (36000000000 - 3600 * 10 * 1000000) 36000000000) := by
  intro _
  have hconvention : RangeConvention (indexTerminal [barAt 21600]) .h1 fun _ => [barAt 21600] := fun _ _ _ => rfl
  exact returns_interval_iff rfl hconvention
    (by decide +kernel : resolveSymbol .weltrade (indexTerminal [barAt 21600]) "FiboX" = .ok (some "FiboX"))
    (by decide +kernel : resolveSymbol .mt5 (indexTerminal [barAt 21600]) "FiboX" = .ok (some "FiboX"))
    0 36000000000 (by decide) 0

/-- **Of bars that open at 21:00 and at 00:00 UTC**, the range from 00:00 to 01:00 returns the first: the server is three hours
ahead, and the bounds are not. -/
theorem shifted_bar_returned :
    let _ : PyUnicode := latinUnicode
    getCandlesRange activeGateway (indexTerminal [barAt 0, barAt 10800]) "FiboX" .h1 0 3600000000 =
      .ok [(barAt 0).toCandle "weltrade"] ∧
    ¬ReturnsInterval [barAt 0, barAt 10800] "weltrade" 0 3600000000
      (getCandlesRange activeGateway (indexTerminal [barAt 0, barAt 10800]) "FiboX" .h1 0 3600000000) ∧
    getCandles .mt5 activeGateway (indexTerminal [barAt 0, barAt 10800]) "FiboX" .h1 0 1 (some (.aware 3600000000)) =
      some (.ok [(barAt 0).toCandle "mt5"]) := by
  intro _
  have hranged : getCandlesRange activeGateway (indexTerminal [barAt 0, barAt 10800]) "FiboX" .h1 0 3600000000 =
      .ok [(barAt 0).toCandle "weltrade"] := by
    decide +kernel
  refine ⟨hranged, ?_, by decide +kernel⟩
  rw [hranged]
  rintro ⟨hwithin, -⟩
  obtain ⟨time, htime, hstart, -⟩ := hwithin _ (List.mem_singleton_self _)
  cases htime
  exact absurd hstart (by decide)

end Mt5Readers
end Jqe

/-! ## Candles page by page from the newest bar -/

namespace Jqe

open List
open Dataset (Candle)
open WeltradeSymbols (PyUnicode latinUnicode)

namespace Mt5Readers

/-- The bars at positions counted back from the newest, oldest first. -/
def fromPos (bars : List Mt5Bar) (start count : ℤ) : List Mt5Bar :=
  ((bars.reverse.drop start.toNat).take count.toNat).reverse

/-- **What `copy_rates_from_pos` returns** of a series at each call. -/
def PosConvention (t : RatesTerminal) (timeframe : Timeframe) (name : String) (series : ℕ → List Mt5Bar) : Prop :=
  ∀ call start count, t.copyRatesFromPos call name timeframe start count = .ok (some (fromPos (series call) start count))

/-- **A growing series**: bars are appended, and their times increase. -/
structure Growing (series : ℕ → List Mt5Bar) : Prop where
  appended : ∀ call, series call <+: series (call + 1)
  increasing : ∀ call, (series call).Pairwise fun a b => a.time < b.time

/-- **One stretch of a series**: strictly increasing times, and every bar between two of them. -/
def Stretch (series : ℕ → List Mt5Bar) (bars : List Mt5Bar) : Prop :=
  (bars.Pairwise fun a b => a.time < b.time) ∧
    ∀ call, ∀ bar ∈ series call, (∃ a ∈ bars, a.time ≤ bar.time) → (∃ b ∈ bars, bar.time ≤ b.time) → bar ∈ bars

/-- **The download ends**, with candles of one stretch; it raises only of a series without a closed bar. -/
structure DownloadsStretch (series : ℕ → List Mt5Bar) (source : String) (outcome : Option (Except PyExc (List Candle))) :
    Prop where
  ends : outcome ≠ none
  raises : ∀ e, outcome = some (.error e) → (series 0).length ≤ 1
  returns : ∀ candles, outcome = some (.ok candles) →
    ∃ bars, candles = bars.map (Mt5Bar.toCandle source) ∧ Stretch series bars

def pageSize : ℕ := 50000

theorem pageSize_pos : 0 < pageSize := by decide

/-- **No bar is appended between two requests that are made**: the request after a page is made when candles remain to be read
and all pages so far were full. -/
def Steady (series : ℕ → List Mt5Bar) (count : ℤ) : Prop :=
  ∀ call : ℕ, (call + 1) * pageSize < count → (∀ i ≤ call, 1 + (i + 1) * pageSize ≤ (series i).length) →
    (series (call + 1)).length = (series call).length

/-! ### Slices of a series -/

def slice (bars : List Mt5Bar) (low high : ℕ) : List Mt5Bar := (bars.take high).drop low

theorem fromPos_eq (bars : List Mt5Bar) (start count : ℕ) :
    fromPos bars start count = slice bars (bars.length - start - count) (bars.length - start) := by
  unfold fromPos slice
  rw [Int.toNat_natCast, Int.toNat_natCast, drop_reverse, take_reverse, reverse_reverse, length_take,
    Nat.min_eq_left (Nat.sub_le _ _)]

theorem slice_append {bars : List Mt5Bar} {low mid high : ℕ} (h : low ≤ mid) (h' : mid ≤ high) :
    slice bars low mid ++ slice bars mid high = slice bars low high := by
  unfold slice
  have hmid : bars.take mid = (bars.take high).take mid := by rw [take_take, Nat.min_eq_left h']
  rw [hmid]
  generalize bars.take high = xs
  have hsplit : (xs.take mid ++ xs.drop mid).drop low = (xs.take mid).drop low ++ (xs.drop mid).drop (low - (xs.take mid).length) :=
    drop_append
  rw [take_append_drop] at hsplit
  rw [hsplit]
  by_cases hlen : mid ≤ xs.length
  · rw [length_take, Nat.min_eq_left hlen, Nat.sub_eq_zero_of_le h, drop_zero]
  · rw [drop_eq_nil_of_le (le_of_lt (not_le.1 hlen)), drop_nil]

theorem slice_length (bars : List Mt5Bar) (low high : ℕ) : (slice bars low high).length = min high bars.length - low := by
  unfold slice
  rw [length_drop, length_take]

theorem slice_sublist (bars : List Mt5Bar) (low high : ℕ) : (slice bars low high).Sublist bars :=
  (drop_sublist _ _).trans (take_sublist _ _)

theorem slice_stretch {series : ℕ → List Mt5Bar} (h : Growing series) (low high : ℕ) :
    Stretch series (slice (series 0) low high) := by
  have hprefix : ∀ call, series 0 <+: series call := by
    intro call
    induction call with
    | zero => exact prefix_refl _
    | succ call ih => exact ih.trans (h.appended call)
  refine ⟨(h.increasing 0).sublist (slice_sublist _ _ _), ?_⟩
  rintro call bar hbar ⟨a, ha, hab⟩ ⟨b, hb, hbb⟩
  obtain ⟨post, hpost⟩ := hprefix call
  have hincreasing := h.increasing call
  have hparts : series call =
      ((series 0).take high).take low ++ (slice (series 0) low high ++ ((series 0).drop high ++ post)) := by
    unfold slice
    rw [← append_assoc, take_append_drop, ← append_assoc, take_append_drop, hpost]
  rw [hparts] at hbar hincreasing
  obtain ⟨-, hrest, hbefore⟩ := pairwise_append.1 hincreasing
  obtain ⟨-, -, hafter⟩ := pairwise_append.1 hrest
  rcases mem_append.1 hbar with hbar | hbar
  · exact absurd hab (not_le.2 (hbefore bar hbar a (mem_append_left _ ha)))
  · rcases mem_append.1 hbar with hbar | hbar
    · exact hbar
    · exact absurd hbb (not_le.2 (hafter b hb bar hbar))

/-! ### The pages of a download -/

section

variable {t : RatesTerminal} {timeframe : Timeframe} {name : String} {series : ℕ → List Mt5Bar} {count total : ℕ}

/-- The page that a request returns while bars remain. -/
def pageAt (series : ℕ → List Mt5Bar) (count call : ℕ) : List Mt5Bar :=
  slice (series call) ((series call).length - 1 - min count ((call + 1) * pageSize))
    ((series call).length - 1 - call * pageSize)

variable {call : ℕ}

theorem copy_page (hconvention : PosConvention t timeframe name series) (h : call * pageSize ≤ count) :
    t.copyRatesFromPos call name timeframe (1 + call * pageSize) (min (count - call * pageSize) maxRatesPerRequest) =
      .ok (some (pageAt series count call)) := by
  have hstart : (1 + call * pageSize : ℤ) = (1 + call * pageSize : ℕ) := by push_cast; rfl
  have hcount : (min (count - call * pageSize) maxRatesPerRequest : ℤ) = (min (count - call * pageSize) pageSize : ℕ) := by
    push_cast [Nat.cast_sub h]
    rfl
  have hlow : (series call).length - (1 + call * pageSize) - min (count - call * pageSize) pageSize =
      (series call).length - 1 - min count ((call + 1) * pageSize) := by
    rw [Nat.add_mul, Nat.one_mul]
    omega
  rw [hconvention, hstart, hcount, fromPos_eq, hlow, ← Nat.sub_sub]
  rfl

theorem page_length (series : ℕ → List Mt5Bar) (count call : ℕ) : (pageAt series count call).length =
    ((series call).length - 1 - call * pageSize) - ((series call).length - 1 - min count ((call + 1) * pageSize)) := by
  unfold pageAt
  rw [slice_length, Nat.min_eq_left (by omega)]

theorem page_length_le (series : ℕ → List Mt5Bar) (count call : ℕ) :
    (pageAt series count call).length ≤ min (count - call * pageSize) pageSize := by
  rw [page_length, Nat.add_mul, Nat.one_mul]
  omega

theorem page_full : (pageAt series count call).length = pageSize ↔
    (call + 1) * pageSize ≤ count ∧ 1 + (call + 1) * pageSize ≤ (series call).length := by
  rw [page_length, Nat.add_mul, Nat.one_mul]
  unfold pageSize
  omega

theorem page_empty (h : call * pageSize < count) :
    pageAt series count call = [] ↔ (series call).length ≤ 1 + call * pageSize := by
  rw [← length_eq_zero_iff, page_length, Nat.add_mul, Nat.one_mul]
  unfold pageSize at h ⊢
  omega

/-- **The requests that a download made**: every page but the last is full, and the last one ended it. -/
structure Downloaded (series : ℕ → List Mt5Bar) (count total : ℕ) : Prop where
  some_page : 0 < total
  asked : (total - 1) * pageSize < count
  full : ∀ call, call + 1 < total → (pageAt series count call).length = pageSize
  ended : count ≤ total * pageSize ∨ (pageAt series count (total - 1)).length < pageSize ∨ pageAt series count total = []

def Ends (series : ℕ → List Mt5Bar) (count : ℕ) (outcome : Except PyExc (List (List Mt5Bar))) : Prop :=
  (pageAt series count 0 = [] ∧ ∃ e, outcome = .error e) ∨
    ∃ total, Downloaded series count total ∧ outcome = .ok ((List.range total).map (pageAt series count))

theorem readPages_zero (fuel call : ℕ) (start : ℤ) (pages : List (List Mt5Bar)) :
    readPages t timeframe name fuel call start 0 pages = some (.ok pages) := by
  cases fuel <;> rfl

theorem readPages_succ (fuel call : ℕ) {start remaining : ℤ} (pages : List (List Mt5Bar)) :
    readPages t timeframe name (fuel + 1) call start remaining pages =
      if remaining = 0 then some (.ok pages)
      else match t.copyRatesFromPos call name timeframe start (min remaining maxRatesPerRequest) with
        | .error e => some (.error e.toPyExc)
        | .ok none => some (failWith "MT5 rejected candle history request")
        | .ok (some []) => if pages = [] then some (failWith "No candle data returned from MT5") else some (.ok pages)
        | .ok (some page) =>
          if (page.length : ℤ) < min remaining maxRatesPerRequest then some (.ok (pages ++ [page]))
          else readPages t timeframe name fuel (call + 1) (start + page.length) (remaining - page.length) (pages ++ [page]) :=
  rfl

theorem ends_at (hcount : 0 < count) (heq : count = call * pageSize)
    (hfull : ∀ i < call, (pageAt series count i).length = pageSize) :
    Ends series count (.ok ((List.range call).map (pageAt series count))) := by
  have hcall : 0 < call := by
    rcases Nat.eq_zero_or_pos call with rfl | hpos
    · omega
    · exact hpos
  refine .inr ⟨call, ⟨hcall, ?_, fun i hi => hfull i (by omega), .inl heq.le⟩, rfl⟩
  rw [Nat.sub_mul, Nat.one_mul, ← heq]
  unfold pageSize
  omega

theorem downloaded_through (hlt : call * pageSize < count)
    (hfull : ∀ i < call, (pageAt series count i).length = pageSize)
    (hend : count ≤ (call + 1) * pageSize ∨ (pageAt series count call).length < pageSize) :
    Downloaded series count (call + 1) :=
  ⟨Nat.succ_pos _, hlt, fun i hi => hfull i (by omega), hend.imp_right .inl⟩

theorem downloaded_to_empty (hcall : 0 < call) (hlt : call * pageSize < count)
    (hfull : ∀ i < call, (pageAt series count i).length = pageSize) (hempty : pageAt series count call = []) :
    Downloaded series count call :=
  ⟨hcall, lt_of_le_of_lt (Nat.mul_le_mul_right _ (Nat.sub_le _ _)) hlt, fun i hi => hfull i (by omega), .inr (.inr hempty)⟩

theorem readPages_done (hcount : 0 < count) {fuel : ℕ} (heq : count = call * pageSize)
    (hfull : ∀ i < call, (pageAt series count i).length = pageSize) :
    ∃ outcome, readPages t timeframe name fuel call (1 + call * pageSize) (count - call * pageSize)
      ((List.range call).map (pageAt series count)) = some outcome ∧ Ends series count outcome := by
  have hzero : (count - call * pageSize : ℤ) = 0 := by
    rw [heq]
    push_cast
    ring
  rw [hzero, readPages_zero]
  exact ⟨_, rfl, ends_at hcount heq hfull⟩

theorem readPages_request (hconvention : PosConvention t timeframe name series) (fuel : ℕ)
    (hlt : call * pageSize < count) (hfull : ∀ i < call, (pageAt series count i).length = pageSize) :
    (∃ outcome, readPages t timeframe name (fuel + 1) call (1 + call * pageSize) (count - call * pageSize)
      ((List.range call).map (pageAt series count)) = some outcome ∧ Ends series count outcome) ∨
    (pageAt series count call).length = pageSize ∧ (call + 1) * pageSize ≤ count ∧
      readPages t timeframe name (fuel + 1) call (1 + call * pageSize) (count - call * pageSize)
          ((List.range call).map (pageAt series count)) =
        readPages t timeframe name fuel (call + 1) (1 + (call + 1 : ℕ) * pageSize) (count - (call + 1 : ℕ) * pageSize)
          ((List.range (call + 1)).map (pageAt series count)) := by
  have hremaining : ¬(count - call * pageSize : ℤ) = 0 := by
    intro h
    exact hlt.ne' (by exact_mod_cast (sub_eq_zero.1 h))
  have hpages : (List.range call).map (pageAt series count) ++ [pageAt series count call] =
      (List.range (call + 1)).map (pageAt series count) := by
    rw [range_succ, map_append, map_singleton]
  have hpage := page_length_le series count call
  rw [readPages_succ, if_neg hremaining, copy_page hconvention hlt.le]
  generalize hp : pageAt series count call = page at hpage hpages ⊢
  cases page with
  | nil =>
    dsimp only
    refine .inl ?_
    by_cases hnone : (List.range call).map (pageAt series count) = []
    · rw [if_pos hnone]
      have hzero : call = 0 := by simpa using hnone
      subst hzero
      exact ⟨_, rfl, .inl ⟨hp, _, rfl⟩⟩
    · rw [if_neg hnone]
      have hcall : 0 < call := by
        rcases Nat.eq_zero_or_pos call with rfl | hpos
        · exact absurd rfl hnone
        · exact hpos
      exact ⟨_, rfl, .inr ⟨call, downloaded_to_empty hcall hlt hfull hp, rfl⟩⟩
  | cons head rest =>
    dsimp only
    have hmin : (min (count - call * pageSize) maxRatesPerRequest : ℤ) = (min (count - call * pageSize) pageSize : ℕ) := by
      push_cast [Nat.cast_sub hlt.le]
      rfl
    rw [hmin, hpages]
    by_cases hshort : ((head :: rest).length : ℤ) < (min (count - call * pageSize) pageSize : ℕ)
    · rw [if_pos hshort]
      have hlength : (pageAt series count call).length < pageSize := by
        rw [hp]
        exact lt_of_lt_of_le (Nat.cast_lt.1 hshort) (Nat.min_le_right _ _)
      exact .inl ⟨_, rfl, .inr ⟨call + 1, downloaded_through hlt hfull (.inr hlength), rfl⟩⟩
    · rw [if_neg hshort]
      have hlength : (head :: rest).length = min (count - call * pageSize) pageSize :=
        le_antisymm hpage (by exact_mod_cast not_lt.1 hshort)
      rw [hlength]
      by_cases hlast : count - call * pageSize ≤ pageSize
      · have hzero : (count - call * pageSize - (min (count - call * pageSize) pageSize : ℕ) : ℤ) = 0 := by
          rw [Nat.min_eq_left hlast, Nat.cast_sub hlt.le]
          push_cast
          ring
        have hall : count ≤ (call + 1) * pageSize := by
          rw [Nat.add_mul, Nat.one_mul]
          omega
        rw [hzero, readPages_zero]
        exact .inl ⟨_, rfl, .inr ⟨call + 1, downloaded_through hlt hfull (.inl hall), rfl⟩⟩
      · rw [Nat.min_eq_right (le_of_not_ge hlast)] at hlength ⊢
        have hstart : (1 + call * pageSize + pageSize : ℤ) = 1 + ((call + 1 : ℕ) : ℤ) * pageSize := by
          push_cast
          ring
        have hrest : (count - call * pageSize - pageSize : ℤ) = count - ((call + 1 : ℕ) : ℤ) * pageSize := by
          push_cast
          ring
        rw [hstart, hrest]
        refine .inr ⟨rfl, ?_, rfl⟩
        rw [Nat.add_mul, Nat.one_mul]
        omega

/-- **The run of the loop**, by induction on what is left: each step reads a full page, or ends. -/
theorem readPages_ends (hconvention : PosConvention t timeframe name series) (hcount : 0 < count) :
    ∀ fuel call : ℕ, count ≤ call * pageSize + fuel → call * pageSize ≤ count →
      (∀ i < call, (pageAt series count i).length = pageSize) →
      ∃ outcome, readPages t timeframe name fuel call (1 + call * pageSize) (count - call * pageSize)
        ((List.range call).map (pageAt series count)) = some outcome ∧ Ends series count outcome := by
  intro fuel
  induction fuel with
  | zero =>
    intro call hfuel hle hfull
    have heq : count = call * pageSize := by omega
    exact readPages_done hcount heq hfull
  | succ fuel ih =>
    intro call hfuel hle hfull
    rcases hle.eq_or_lt with heq | hlt
    · exact readPages_done hcount heq.symm hfull
    · rcases readPages_request hconvention fuel hlt hfull with hends | ⟨hlength, hnext, hstep⟩
      · exact hends
      · rw [hstep]
        refine ih (call + 1) ?_ hnext fun i hi => ?_
        · have hpos := pageSize_pos
          rw [Nat.add_mul, Nat.one_mul]
          omega
        · rcases Nat.lt_succ_iff_lt_or_eq.1 hi with hi | rfl
          · exact hfull i hi
          · exact hlength

/-! ### When the pages are one stretch -/

theorem page_lt (h : Downloaded series count total) (hcall : call < total) : call * pageSize < count :=
  lt_of_le_of_lt (Nat.mul_le_mul_right _ (by omega)) h.asked

theorem pages_slice (hgrowing : Growing series) (hsteady : Steady series count) {total : ℕ}
    (h : Downloaded series count total) : ∀ calls ≤ total, 0 < calls →
      (series (calls - 1)) = series 0 ∧ ((List.range calls).map (pageAt series count)).reverse.flatten =
        slice (series 0) ((series 0).length - 1 - min count (calls * pageSize)) ((series 0).length - 1) := by
  intro calls
  induction calls with
  | zero => exact fun _ h => absurd h (lt_irrefl 0)
  | succ calls ih =>
    intro hle _
    rcases Nat.eq_zero_or_pos calls with rfl | hpos
    · refine ⟨rfl, ?_⟩
      simp [pageAt]
    · obtain ⟨hseries, hslice⟩ := ih (by omega) hpos
      have hlength : (series calls).length = (series (calls - 1)).length := by
        obtain ⟨before, rfl⟩ := Nat.exists_eq_add_of_lt hpos
        have hnext := hsteady before (by
          have hlt := page_lt h (show before + 1 < total by omega)
          exact_mod_cast hlt) fun i hi => (page_full.1 (h.full i (by omega))).2
        simpa using hnext
      have hsame : series calls = series 0 := by
        have happended := hgrowing.appended (calls - 1)
        rw [Nat.sub_add_cancel hpos, hseries] at happended
        rw [hseries] at hlength
        exact (happended.eq_of_length hlength.symm).symm
      refine ⟨hsame, ?_⟩
      have hlast := page_full.1 (h.full (calls - 1) (by omega))
      rw [Nat.sub_add_cancel hpos, hseries] at hlast
      rw [range_succ, map_append, map_singleton, reverse_append, reverse_singleton,
        singleton_append, flatten_cons, hslice, Nat.min_eq_right hlast.1]
      unfold pageAt
      rw [hsame]
      have hnext : calls * pageSize ≤ (calls + 1) * pageSize := Nat.mul_le_mul_right _ (Nat.le_succ _)
      exact slice_append (Nat.sub_le_sub_left (le_min hlast.1 hnext) _) (Nat.sub_le _ _)

theorem prefix_getElem {xs ys : List Mt5Bar} (h : xs <+: ys) {i : ℕ} {bar : Mt5Bar} (hbar : xs[i]? = some bar) :
    ys[i]? = some bar := by
  obtain ⟨zs, rfl⟩ := h
  rw [getElem?_append_left (List.getElem?_eq_some_iff.1 hbar).1, hbar]

theorem slice_getElem {bars : List Mt5Bar} {low high i : ℕ} (h : low ≤ i) (h' : i < high) :
    (slice bars low high)[i - low]? = bars[i]? := by
  unfold slice
  rw [getElem?_drop, Nat.add_sub_cancel' h, getElem?_take_of_lt h']

theorem Downloaded.request_made (h : Downloaded series count total) (hcount : (call + 1) * pageSize < count)
    (hfulls : ∀ i ≤ call, (pageAt series count i).length = pageSize)
    (hgrown : (series call).length < (series (call + 1)).length) : call + 1 < total := by
  by_contra hnot
  have htotal : total ≤ call + 1 := not_lt.1 hnot
  have hpos := h.some_page
  rcases h.ended with hall | hshort | hempty
  · exact absurd (le_trans hall (Nat.mul_le_mul_right _ htotal)) (not_le.2 hcount)
  · rw [hfulls (total - 1) (by omega)] at hshort
    exact lt_irrefl _ hshort
  · rcases Nat.lt_or_ge call total with hcall | hcall
    · have heq : total = call + 1 := by omega
      have hlong := (page_full.1 (hfulls call le_rfl)).2
      rw [heq, page_empty hcount] at hempty
      omega
    · have hlength := hfulls total hcall
      rw [hempty] at hlength
      exact absurd hlength (by decide)

theorem later_page_before (hpages : ((List.range total).map (pageAt series count)).reverse.flatten.Pairwise fun a b => a.time < b.time)
    (hmade : call + 1 < total) {a b : Mt5Bar} (ha : a ∈ pageAt series count (call + 1))
    (hb : b ∈ pageAt series count call) : a.time < b.time := by
  rw [pairwise_flatten] at hpages
  have hrange := (pairwise_reverse.1 hpages.2)
  rw [pairwise_map] at hrange
  have hordered := pairwise_iff_getElem.1 hrange call (call + 1) (by rw [length_range]; omega)
    (by rw [length_range]; omega) (Nat.lt_succ_self _)
  rw [getElem_range, getElem_range] at hordered
  exact hordered a ha b hb

/-- **Pages that are one stretch were read from a series that did not grow between them**: the newest bar of a later page is not
before the oldest bar of the earlier one when it did. -/
theorem steady_of_pages (hgrowing : Growing series) (h : Downloaded series count total)
    (hpages : ((List.range total).map (pageAt series count)).reverse.flatten.Pairwise fun a b => a.time < b.time) :
    Steady series count := by
  intro call hcount hfull
  have hcount : (call + 1) * pageSize < count := by exact_mod_cast hcount
  by_contra hne
  have hlt : (series call).length < (series (call + 1)).length :=
    lt_of_le_of_ne (hgrowing.appended call).length_le (Ne.symm hne)
  have hlong := hfull call le_rfl
  have hpos := pageSize_pos
  have hfulls : ∀ i ≤ call, (pageAt series count i).length = pageSize := by
    intro i hi
    refine page_full.2 ⟨le_trans (Nat.mul_le_mul_right _ (by omega)) hcount.le, hfull i hi⟩
  have hmade : call + 1 < total := h.request_made hcount hfulls hlt
  -- the newest bar of the later page and the oldest of the earlier one
  obtain ⟨newest, hnewest⟩ : ∃ bar, (series (call + 1))[(series (call + 1)).length - 1 - (call + 1) * pageSize - 1]? = some bar :=
    ⟨_, getElem?_eq_getElem (by omega)⟩
  obtain ⟨oldest, holdest⟩ : ∃ bar, (series call)[(series call).length - 1 - (call + 1) * pageSize]? = some bar :=
    ⟨_, getElem?_eq_getElem (by omega)⟩
  have hnew : newest ∈ pageAt series count (call + 1) := by
    refine mem_of_getElem? (i := _) ((slice_getElem ?_ ?_).trans hnewest)
    · have hnext : (call + 1) * pageSize + 1 ≤ min count ((call + 1 + 1) * pageSize) := by
        rw [Nat.add_mul (call + 1), Nat.one_mul]
        omega
      omega
    · omega
  have hold : oldest ∈ pageAt series count call := by
    refine mem_of_getElem? (i := _) ((slice_getElem ?_ ?_).trans holdest)
    · rw [Nat.min_eq_right hcount.le]
    · have hmul : (call + 1) * pageSize = call * pageSize + pageSize := by rw [Nat.add_mul, Nat.one_mul]
      omega
  have hbefore : newest.time < oldest.time := later_page_before hpages hmade hnew hold
  have hlater : oldest.time ≤ newest.time := by
    have hold' := prefix_getElem (hgrowing.appended call) holdest
    obtain ⟨hi, hio⟩ := List.getElem?_eq_some_iff.1 hold'
    obtain ⟨hj, hjn⟩ := List.getElem?_eq_some_iff.1 hnewest
    rcases Nat.lt_or_ge ((series call).length - 1 - (call + 1) * pageSize)
      ((series (call + 1)).length - 1 - (call + 1) * pageSize - 1) with hij | hij
    · have htimes := pairwise_iff_getElem.1 (hgrowing.increasing (call + 1)) _ _ hi hj hij
      rw [hio, hjn] at htimes
      exact htimes.le
    · have heq : (series call).length - 1 - (call + 1) * pageSize =
        (series (call + 1)).length - 1 - (call + 1) * pageSize - 1 := by omega
      rw [heq] at hold'
      rw [hold'] at hnewest
      rw [Option.some.inj hnewest]
  exact absurd hbefore (not_lt.2 hlater)

variable [PyUnicode] {reader : Reader} {g : MT5Gateway} {symbol : String}

theorem getCandles_ends (hconnected : g.connected = true) (hname : resolveSymbol reader t symbol = .ok (some name))
    (hconvention : PosConvention t timeframe name series) (hcount : 0 < count) {fuel : ℕ} (hfuel : count ≤ fuel) :
    ∃ outcome, Ends series count outcome ∧ getCandles reader g t symbol timeframe fuel count none =
      some (outcome.map fun pages => (pages.reverse.flatten).map (Mt5Bar.toCandle reader.marketDataProvider)) := by
  obtain ⟨outcome, hrun, hends⟩ := readPages_ends hconvention hcount fuel 0 (by omega) (by omega) nofun
  refine ⟨outcome, hends, ?_⟩
  unfold getCandles candlePages MT5Gateway.requireConnected
  rw [hconnected, if_pos rfl]
  dsimp only
  rw [if_neg (by omega), hname]
  dsimp only
  rw [range_zero, map_nil, Nat.cast_zero, zero_mul, add_zero, sub_zero] at hrun
  rw [hrun]
  rfl

omit [PyUnicode] in
theorem toCandle_times {source : String} {xs ys : List Mt5Bar}
    (h : xs.map (Mt5Bar.toCandle source) = ys.map (Mt5Bar.toCandle source)) : xs.map Mt5Bar.time = ys.map Mt5Bar.time := by
  have hcandles := congrArg (List.map fun c => c.time) h
  rw [map_map, map_map] at hcandles
  have hinj : Function.Injective fun time : ℤ => PyDatetime.aware (mt5TsToUtc time * 1000000) := by
    intro a b hab
    have heq : mt5TsToUtc a * 1000000 = mt5TsToUtc b * 1000000 := PyDatetime.aware.inj hab
    unfold mt5TsToUtc at heq
    omega
  refine map_injective_iff.2 hinj ?_
  rw [map_map, map_map]
  exact hcandles

theorem steady_of_download (hconnected : g.connected = true) (hname : resolveSymbol reader t symbol = .ok (some name))
    (hconvention : PosConvention t timeframe name series) (hgrowing : Growing series) (hcount : 0 < count) {fuel : ℕ}
    (hfuel : count ≤ fuel) (h : DownloadsStretch series reader.marketDataProvider
      (getCandles reader g t symbol timeframe fuel count none)) : Steady series count := by
  obtain ⟨outcome, hends, hrun⟩ := getCandles_ends hconnected hname hconvention hcount hfuel
  rw [hrun] at h
  rcases hends with ⟨-, e, rfl⟩ | ⟨total, hdownloaded, rfl⟩
  · intro call _ hfull
    have hlong := hfull 0 (Nat.zero_le _)
    have hshort := h.raises e rfl
    have hpos := pageSize_pos
    omega
  · obtain ⟨bars, hbars, hincreasing, -⟩ := h.returns _ rfl
    refine steady_of_pages hgrowing hdownloaded ?_
    have htimes := toCandle_times hbars
    have hpairwise := pairwise_map.2 hincreasing
    rw [← htimes] at hpairwise
    exact pairwise_map.1 hpairwise

theorem download_of_steady (hconnected : g.connected = true) (hname : resolveSymbol reader t symbol = .ok (some name))
    (hconvention : PosConvention t timeframe name series) (hgrowing : Growing series) (hcount : 0 < count) {fuel : ℕ}
    (hfuel : count ≤ fuel) (hsteady : Steady series count) : DownloadsStretch series reader.marketDataProvider
      (getCandles reader g t symbol timeframe fuel count none) := by
  obtain ⟨outcome, hends, hrun⟩ := getCandles_ends hconnected hname hconvention hcount hfuel
  rw [hrun]
  rcases hends with ⟨hempty, e, rfl⟩ | ⟨total, hdownloaded, rfl⟩
  · rw [page_empty (by omega)] at hempty
    refine ⟨nofun, fun _ _ => ?_, nofun⟩
    omega
  · obtain ⟨-, hslice⟩ := pages_slice hgrowing hsteady hdownloaded total le_rfl hdownloaded.some_page
    refine ⟨nofun, nofun, ?_⟩
    rintro _ ⟨⟩
    dsimp only
    rw [hslice]
    exact ⟨_, rfl, slice_stretch hgrowing _ _⟩

/-- **A download ends with one stretch of the series exactly when no bar is appended between two requests that it makes.** -/
theorem downloads_stretch_iff (hconnected : g.connected = true) (hname : resolveSymbol reader t symbol = .ok (some name))
    (hconvention : PosConvention t timeframe name series) (hgrowing : Growing series) (hcount : 0 < count) {fuel : ℕ}
    (hfuel : count ≤ fuel) :
    DownloadsStretch series reader.marketDataProvider (getCandles reader g t symbol timeframe fuel count none) ↔
      Steady series count :=
  ⟨steady_of_download hconnected hname hconvention hgrowing hcount hfuel,
    download_of_steady hconnected hname hconvention hgrowing hcount hfuel⟩

end

/-! ### A bar between two pages -/

def pagedTerminal (series : ℕ → List Mt5Bar) : RatesTerminal :=
  { indexTerminal [] with copyRatesFromPos := fun call _ _ start count => .ok (some (fromPos (series call) start count)) }

theorem pagedTerminal_resolves (series : ℕ → List Mt5Bar) :
    @resolveSymbol latinUnicode .mt5 (pagedTerminal series) "FiboX" = .ok (some "FiboX") := by
  have hindex : @resolveSymbol latinUnicode .mt5 (indexTerminal []) "FiboX" = .ok (some "FiboX") := by
    decide +kernel
  exact hindex

def minuteBars (total : ℕ) : List Mt5Bar := (List.range total).map fun i : ℕ => barAt (60 * i)

theorem minuteBars_growing {lengths : ℕ → ℕ} (h : ∀ call, lengths call ≤ lengths (call + 1)) :
    Growing fun call => minuteBars (lengths call) := by
  refine ⟨fun call => ?_, fun call => ?_⟩
  · obtain ⟨more, hmore⟩ := Nat.exists_eq_add_of_le (h call)
    unfold minuteBars
    rw [hmore, range_add, map_append]
    exact prefix_append _ _
  · unfold minuteBars
    rw [pairwise_map]
    refine List.pairwise_lt_range.imp fun hab => ?_
    show (60 * _ : ℤ) < 60 * _
    omega

/-- Two pages of a series that does not grow are one stretch of it. -/
theorem downloads_stretch_iff_quiet : DownloadsStretch (fun _ => minuteBars 60000) "mt5" (@getCandles latinUnicode .mt5
    activeGateway (pagedTerminal fun _ => minuteBars 60000) "FiboX" .m1 50001 (50001 : ℕ) none) := by
  let _ : PyUnicode := latinUnicode
  have hcount : 0 < 50001 := by norm_num
  exact (downloads_stretch_iff rfl (pagedTerminal_resolves _) (fun _ _ _ => rfl) (minuteBars_growing fun _ => le_rfl) hcount
    le_rfl).2 fun _ _ _ => rfl

def lateBars (call : ℕ) : List Mt5Bar := minuteBars (50002 + min call 1)

/-- **A bar appended between the two requests for 50001 candles** is read twice. -/
theorem appended_bar_repeats : ¬DownloadsStretch lateBars "mt5"
    (@getCandles latinUnicode .mt5 activeGateway (pagedTerminal lateBars) "FiboX" .m1 50001 (50001 : ℕ) none) := by
  let _ : PyUnicode := latinUnicode
  intro h
  have hgrowing : Growing lateBars :=
    minuteBars_growing fun call => Nat.add_le_add_left (min_le_min_right 1 (Nat.le_succ call)) _
  have hcount : 0 < 50001 ∧ 50001 ≤ 50001 := by norm_num
  have hsteady : Steady lateBars (50001 : ℕ) :=
    steady_of_download rfl (pagedTerminal_resolves _) (fun _ _ _ => rfl) hgrowing hcount.1 hcount.2 h
  have hlength : ∀ call, (lateBars call).length = 50002 + min call 1 := fun call => by
    unfold lateBars minuteBars
    rw [List.length_map, List.length_range]
  have hasked : ((0 : ℕ) + 1) * (pageSize : ℤ) < (50001 : ℕ) := by
    unfold pageSize
    norm_num
  have hsame := hsteady 0 hasked fun i hi => by
    obtain rfl := Nat.le_zero.1 hi
    rw [hlength]
    unfold pageSize
    norm_num
  rw [hlength, hlength] at hsame
  exact absurd hsame (by norm_num)

end Mt5Readers
end Jqe
