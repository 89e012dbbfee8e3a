import Jqe.Coverage
import Jqe.HistoricalData
import Jqe.WeltradeCanonical
import Mathlib.Data.List.Dedup
/-!
# HistoricalRange — an inclusive range of candles, cached or downloaded (`data/historical.py`)

`get_candles_range` asks the cache first.  With a provider and its symbol a range is complete when the coverage policy misses
no bucket; without a policy it is complete when it reaches both ends without a gap of more than one and a half steps.
-/
namespace Jqe

open Dataset (Candle)
open WeltradeSymbols (PyUnicode)
open CandleStore Coverage

namespace HistoricalData

inductive RangeRequest where
  | candlesRange (symbol : String) (start stop count : ℤ)
  | candles (symbol : String) (count stop : ℤ)
  deriving DecidableEq

structure RangeGateway where
  ranged : Bool
  answer : ℕ → RangeRequest → Except PyExc (List Candle)

def askRange (gateway : RangeGateway) (request : RangeRequest) : Act (Except PyExc (List Candle)) := fun s =>
  .ok (gateway.answer s.calls request) { s with calls := s.calls + 1 }

def reaches (start stop : ℤ) (rows : List CandleRow) : Bool :=
  rows.head?.any (fun row => row.time * 1000000 ≤ start) && rows.getLast?.any fun row => stop ≤ row.time * 1000000

def expectedCount (timeframe : Timeframe) (start stop : ℤ) : Option ℤ → ℤ
  | some count => if count = 0 then (stop - start) / stepMicros timeframe + 1 else count
  | none => (stop - start) / stepMicros timeframe + 1

section

variable [Dataset.Host] [SqlOrder] [NewYork] [PyUnicode]

/-- The coverage of the cached rows; `None` without a provider, its symbol or a policy. -/
def cachedCoverage (rows : List CandleRow) (symbol : String) (timeframe : Timeframe) (start stop : ℤ) :
    Option String → Option String → Except PyExc (Option CoverageValidationResult)
  | some provider, some sourceSymbol =>
    match validateHistoricalCoverage (rows.map rowToCandle) provider symbol sourceSymbol timeframe (.aware start) (.aware stop) with
    | .ok coverage => .ok (some coverage)
    | .error (.marketDataError message context) =>
      if mentionsUnsupported message context then .ok none else .error (.exception message)
    | .error (.other e) => .error e
  | _, _ => .ok none

def refreshedComplete (rows : List CandleRow) (symbol : String) (timeframe : Timeframe) (start stop : ℤ)
    (provider sourceSymbol : String) : Option CoverageValidationResult → Except PyExc Bool
  | some _ =>
    match validateHistoricalCoverage (rows.map rowToCandle) provider symbol sourceSymbol timeframe (.aware start) (.aware stop) with
    | .ok coverage => .ok coverage.isComplete
    | .error e => .error e.exc
  | none => .ok (reaches start stop rows && (findGaps timeframe.seconds rows).isEmpty)

omit [SqlOrder] [NewYork] [PyUnicode] in
def saveFrom (sql : ℕ → SqlFaults) (symbol : String) (timeframe : Timeframe) (provider : Option String)
    (candles : List Candle) : Act ℕ := fun s =>
  match saveCandles s.table symbol timeframe candles provider false (sql s.calls) with
  | (table, .ok written) => .ok written { s with table := table }
  | (table, .error e) => .error e { s with table := table }

variable (gateway : RangeGateway) (sql : ℕ → SqlFaults) (symbol : String) (timeframe : Timeframe)

def downloadRange (start stop expected : ℤ) (provider sourceSymbol : Option String)
    (coverage : Option CoverageValidationResult) : Act (List Candle) := do
  let requested := match sourceSymbol with
    | some name => if name = "" then symbol else name
    | none => symbol
  let request := if gateway.ranged then RangeRequest.candlesRange requested start stop expected
    else .candles requested expected stop
  let answer ← askRange gateway request
  let fetched ← Raising.answered answer
  let _ ← saveFrom sql symbol timeframe provider fetched
  let s ← get
  let refreshed := loadRows s.table symbol timeframe (some (.aware start)) (some (.aware stop)) provider
  let complete ← Raising.answered (refreshedComplete refreshed symbol timeframe start stop (provider.getD "")
    (sourceSymbol.getD "") coverage)
  if complete then return refreshed.map rowToCandle
  else throw (.exception "Historical provider did not produce a complete requested range")

def cachedComplete (rows : List CandleRow) (start stop expected : ℤ) : Option CoverageValidationResult → Bool
  | some coverage => coverage.isComplete
  | none => reaches start stop rows && decide (expected ≤ rows.length) && (findGaps timeframe.seconds rows).isEmpty

def rangeError : PyExc := .exception "Historical range must be timezone-aware and ordered"

def getCandlesRange (start stop : PyDatetime) (count : Option ℤ) (provider sourceSymbol : Option String)
    (cachedOnly : Bool) : Act (List Candle) :=
  match start, stop with
  | .aware start, .aware stop =>
    if stop < start then throw rangeError
    else do
      let s ← get
      let cached := loadRows s.table symbol timeframe (some (.aware start)) (some (.aware stop)) provider
      let expected := expectedCount timeframe start stop count
      let coverage ← Raising.answered (cachedCoverage cached symbol timeframe start stop provider sourceSymbol)
      let complete := cachedComplete timeframe cached start stop expected coverage
      if complete then return cached.map rowToCandle
      else if cachedOnly then throw (.exception "Requested historical range is incomplete in cache")
      else downloadRange gateway sql symbol timeframe start stop expected provider sourceSymbol coverage
  | _, _ => throw rangeError

end

end HistoricalData
end Jqe

/-! ## What a ranged read of Weltrade's history returns -/

namespace Jqe

open Dataset (Candle)
open WeltradeSymbols (PyUnicode latinUnicode isWeltradeSynthetic)
open CandleStore Coverage Raising List

namespace HistoricalData

/-- A time at the start of every step of the range. -/
def EveryBucket (start stop step : ℤ) (times : List ℤ) : Prop :=
  ∀ k : ℕ, start + k * step ≤ stop → start + k * step ∈ times

/-- Times from one end to the other, at most one and a half steps apart. -/
def NoWideGap (start stop step : ℤ) (times : List ℤ) : Prop :=
  times.head? = some start ∧ times.getLast? = some stop ∧ times.IsChain fun a b => 2 * (b - a) ≤ 3 * step

/-- **What a ranged read returns**: strictly increasing times within the range, complete with the provider's symbol. -/
def ServedRange (timeframe : Timeframe) (start stop : ℤ) (sourceSymbol : Option String) (candles : List Candle) : Prop :=
  ∃ times : List ℤ, candles.map Candle.time = times.map PyDatetime.aware ∧ times.Pairwise (· < ·) ∧
    (∀ t ∈ times, start ≤ t ∧ t ≤ stop) ∧
    if sourceSymbol.isSome then EveryBucket start stop (stepMicros timeframe) times
    else NoWideGap start stop (stepMicros timeframe) times

/-! ### The rows of a range -/

def micros (rows : List CandleRow) : List ℤ := rows.map fun row => row.time * 1000000

theorem rowToCandle_times (rows : List CandleRow) :
    (rows.map rowToCandle).map Candle.time = (micros rows).map PyDatetime.aware := by
  unfold micros
  rw [map_map, map_map]
  rfl

theorem partition_nodup (table : CandleTable) (symbol : String) (timeframe : Timeframe) (name : String) :
    ((partition table symbol timeframe (some name)).map CandleRow.time).Nodup := by
  have hsub : (partition table symbol timeframe (some name)).Sublist table.rows := filter_sublist
  have hkeys : ((partition table symbol timeframe (some name)).map CandleRow.key).Nodup := table.keys.sublist (hsub.map _)
  have heq : (partition table symbol timeframe (some name)).map CandleRow.key =
      ((partition table symbol timeframe (some name)).map CandleRow.time).map fun time =>
        (name, symbol, timeframe.value, time) := by
    rw [map_map]
    refine map_congr_left fun row hrow => ?_
    obtain ⟨-, hprovider, hsymbol, htimeframe⟩ := CandleStore.mem_partition.1 hrow
    rw [CandleRow.key, hprovider, hsymbol, htimeframe]
    rfl
  rw [heq] at hkeys
  exact hkeys.of_map _

theorem stepMicros_pos (timeframe : Timeframe) : 0 < stepMicros timeframe := by
  cases timeframe <;> decide

section

variable [Dataset.Host]

theorem second_mul {start : ℤ} {timeframe : Timeframe} (h : stepMicros timeframe ∣ start) :
    second (.aware start) * 1000000 = start :=
  Int.tdiv_mul_cancel ((Dvd.intro_left _ rfl).trans h)

theorem loadRows_range [SqlOrder] (table : CandleTable) (symbol name : String) {timeframe : Timeframe} {start stop : ℤ}
    (hstart : stepMicros timeframe ∣ start) (hstop : stepMicros timeframe ∣ stop) :
    (micros (loadRows table symbol timeframe (some (.aware start)) (some (.aware stop)) (some name))).Pairwise (· < ·) ∧
    ∀ t ∈ micros (loadRows table symbol timeframe (some (.aware start)) (some (.aware stop)) (some name)),
      start ≤ t ∧ t ≤ stop := by
  unfold loadRows micros
  generalize hrows : (partition table symbol timeframe (some name)).filter _ = rows
  have hperm := SqlOrder.ascending_perm rows
  have hnodup : ((SqlOrder.ascending rows).map CandleRow.time).Nodup := by
    rw [(hperm.map CandleRow.time).nodup_iff, ← hrows]
    exact (partition_nodup table symbol timeframe name).sublist (List.filter_sublist.map _)
  have hne : (SqlOrder.ascending rows).Pairwise fun a b => a.time ≠ b.time := pairwise_map.1 hnodup
  constructor
  · rw [pairwise_map]
    refine ((SqlOrder.ascending_sorted rows).and hne).imp fun hab => ?_
    have hlt := lt_of_le_of_ne hab.1 hab.2
    omega
  · intro t ht
    obtain ⟨row, hrow, rfl⟩ := mem_map.1 ht
    rw [hperm.mem_iff, ← hrows, mem_filter] at hrow
    obtain ⟨-, hwithin⟩ := hrow
    rw [Bool.and_eq_true, Option.all_some, Option.all_some, decide_eq_true_eq, decide_eq_true_eq] at hwithin
    have hfirst := second_mul hstart
    have hlast := second_mul hstop
    omega

end

theorem findGaps_eq_nil {seconds : ℤ} : ∀ {rows : List CandleRow}, findGaps seconds rows = [] →
    (micros rows).IsChain fun a b => 2 * (b - a) ≤ 3 * (seconds * 1000000)
  | [], _ => .nil
  | [_], _ => .singleton _
  | previous :: current :: rows, h => by
    unfold findGaps at h
    split at h
    · cases h
    · next hle =>
      have hstep : 2 * (current.time * 1000000 - previous.time * 1000000) ≤ 3 * (seconds * 1000000) := by omega
      exact .cons_cons hstep (findGaps_eq_nil h)

theorem noWideGap_of_reaches {rows : List CandleRow} {start stop : ℤ} {timeframe : Timeframe}
    (hwithin : ∀ t ∈ micros rows, start ≤ t ∧ t ≤ stop) (hreaches : reaches start stop rows = true)
    (hgaps : (findGaps timeframe.seconds rows).isEmpty = true) :
    NoWideGap start stop (stepMicros timeframe) (micros rows) := by
  unfold reaches at hreaches
  rw [Bool.and_eq_true] at hreaches
  obtain ⟨hhead, hlast⟩ := hreaches
  refine ⟨?_, ?_, findGaps_eq_nil (List.isEmpty_iff.1 hgaps)⟩
  · rw [Option.any_eq_true] at hhead
    obtain ⟨row, hrow, hle⟩ := hhead
    have hmem := hwithin _ (mem_map_of_mem (mem_of_head? hrow))
    rw [decide_eq_true_eq] at hle
    unfold micros
    rw [head?_map, hrow, Option.map_some, le_antisymm hle hmem.1]
  · rw [Option.any_eq_true] at hlast
    obtain ⟨row, hrow, hle⟩ := hlast
    have hmem := hwithin _ (mem_map_of_mem (mem_of_getLast? hrow))
    rw [decide_eq_true_eq] at hle
    unfold micros
    rw [getLast?_map, hrow, Option.map_some, le_antisymm hmem.2 hle]

/-! ### The coverage of Weltrade's symbols -/

theorem requireSynthetic_cases [PyUnicode] {symbol : String}
    (h : isWeltradeSynthetic symbol = true) :
    requireSynthetic symbol = .ok () ∨ ∃ e, requireSynthetic symbol = .error (.other e) := by
  obtain ⟨n, hn, -, -⟩ := WeltradeSymbols.reads_of_accepted h
  unfold requireSynthetic WeltradeSymbols.requireWeltradeSynthetic
  by_cases hkept : ∀ c ∈ (strip symbol).toList, WeltradeSymbols.lost c = false
  · rw [WeltradeSymbols.canonical_of_reads hn hkept]
    exact .inl rfl
  · push Not at hkept
    obtain ⟨c, hc, hlost⟩ := hkept
    rw [ne_eq, Bool.not_eq_false] at hlost
    obtain ⟨key, hkey⟩ := WeltradeSymbols.canonical_of_lost hn hc hlost
    rw [hkey]
    exact .inr ⟨_, rfl⟩

theorem not_mentions : mentionsUnsupported "Historical coverage range is not ordered" [] = false ∧
    mentionsUnsupported "Historical coverage bounds must align to the timeframe" [] = false := by
  decide +kernel

theorem mem_buckets {start stop step : ℤ} (hstep : 0 < step) {k : ℕ} (h : start + k * step ≤ stop) :
    start + k * step ∈ buckets start stop step := by
  unfold buckets
  refine mem_map.2 ⟨k, mem_range.2 ?_, rfl⟩
  have hle : (k : ℤ) ≤ (stop - start) / step := (Int.le_ediv_iff_mul_le hstep).2 (le_sub_iff_add_le'.2 h)
  generalize (stop - start) / step = q at hle ⊢
  omega

theorem validate_weltrade [Dataset.Host] [NewYork] [PyUnicode] (rows : List CandleRow)
    {provider symbol name : String} (timeframe : Timeframe) (start stop : ℤ) (hprovider : providerKey provider = "weltrade")
    (hsymbol : isWeltradeSynthetic symbol = true) (hname : isWeltradeSynthetic name = true) :
    (∃ r, validateHistoricalCoverage (rows.map rowToCandle) provider symbol name timeframe (.aware start) (.aware stop) = .ok r ∧
      (r.isComplete = true → EveryBucket start stop (stepMicros timeframe) (micros rows))) ∨
    ∃ e, validateHistoricalCoverage (rows.map rowToCandle) provider symbol name timeframe (.aware start) (.aware stop) =
      .error e ∧ ∀ message context, e = .marketDataError message context → mentionsUnsupported message context = false := by
  have hpresent : presentTimes (rows.map rowToCandle) = (micros rows).dedup := by
    unfold presentTimes micros
    rw [map_map]
    rfl
  unfold validateHistoricalCoverage
  simp only [requireUtc, Except.bind, bind, pure, Except.pure, throw, throwThe, MonadExceptOf.throw]
  by_cases horder : stop < start
  · rw [if_pos horder]
    refine .inr ⟨_, rfl, ?_⟩
    rintro _ _ ⟨⟩
    exact not_mentions.1
  · rw [if_neg horder]
    unfold getCoveragePolicy
    rw [if_pos hprovider]
    simp only [Except.bind, bind, pure, Except.pure]
    rcases requireSynthetic_cases hsymbol with h | ⟨e, h⟩
    · rcases requireSynthetic_cases hname with h' | ⟨e, h'⟩
      · rw [h, h']
        dsimp only
        split
        · refine .inr ⟨_, rfl, ?_⟩
          rintro _ _ ⟨⟩
          exact not_mentions.2
        · refine .inl ⟨_, rfl, fun hcomplete k hk => ?_⟩
          unfold CoverageValidationResult.isComplete coverageResult at hcomplete
          rw [beq_iff_eq, length_eq_zero_iff, filter_eq_nil_iff] at hcomplete
          have hmem := hcomplete (start + k * stepMicros timeframe)
            (mem_filter.2 ⟨mem_buckets (stepMicros_pos timeframe) hk, rfl⟩)
          rw [decide_eq_true_eq, not_not, hpresent, mem_dedup] at hmem
          exact hmem
      · rw [h, h']
        exact .inr ⟨_, rfl, nofun⟩
    · rw [h]
      exact .inr ⟨_, rfl, nofun⟩

/-! ### The ranged read -/

section

variable [Dataset.Host] [SqlOrder] [NewYork] [PyUnicode] {provider symbol : String} {timeframe : Timeframe}
  {start stop : ℤ} {sourceSymbol : Option String}

def CoverageOf (timeframe : Timeframe) (start stop : ℤ) (rows : List CandleRow) :
    Option String → Option CoverageValidationResult → Prop
  | some _, some r => r.isComplete = true → EveryBucket start stop (stepMicros timeframe) (micros rows)
  | some _, none => False
  | none, coverage => coverage = none

omit [SqlOrder] in
theorem cachedCoverage_spec (rows : List CandleRow) (hprovider : providerKey provider = "weltrade")
    (hsymbol : isWeltradeSynthetic symbol = true)
    (hsource : ∀ name ∈ sourceSymbol, isWeltradeSynthetic name = true)
    {coverage : Option CoverageValidationResult}
    (h : cachedCoverage rows symbol timeframe start stop (some provider) sourceSymbol = .ok coverage) :
    CoverageOf timeframe start stop rows sourceSymbol coverage := by
  cases sourceSymbol with
  | none =>
    cases h
    rfl
  | some name =>
    unfold cachedCoverage at h
    dsimp only at h
    rcases validate_weltrade rows timeframe start stop hprovider hsymbol (hsource name rfl) with ⟨r, hr, hcomplete⟩ | ⟨e, he, hnot⟩
    · rw [hr] at h
      cases h
      exact hcomplete
    · rw [he] at h
      cases e with
      | marketDataError message context =>
        dsimp only at h
        rw [hnot message context rfl] at h
        cases h
      | other e => cases h

omit [NewYork] [PyUnicode] in
theorem served_of_rows (table : CandleTable) (hstart : stepMicros timeframe ∣ start) (hstop : stepMicros timeframe ∣ stop)
    (hcomplete : if sourceSymbol.isSome then EveryBucket start stop (stepMicros timeframe)
        (micros (loadRows table symbol timeframe (some (.aware start)) (some (.aware stop)) (some provider)))
      else reaches start stop (loadRows table symbol timeframe (some (.aware start)) (some (.aware stop)) (some provider)) = true ∧
        (findGaps timeframe.seconds
          (loadRows table symbol timeframe (some (.aware start)) (some (.aware stop)) (some provider))).isEmpty = true) :
    ServedRange timeframe start stop sourceSymbol
      ((loadRows table symbol timeframe (some (.aware start)) (some (.aware stop)) (some provider)).map rowToCandle) := by
  obtain ⟨hincreasing, hwithin⟩ := loadRows_range table symbol provider hstart hstop
  refine ⟨_, rowToCandle_times _, hincreasing, hwithin, ?_⟩
  split at hcomplete
  · next hsome =>
    rw [if_pos hsome]
    exact hcomplete
  · next hnone =>
    rw [if_neg hnone]
    exact noWideGap_of_reaches hwithin hcomplete.1 hcomplete.2

theorem downloadRange_served (gateway : RangeGateway) (sql : ℕ → SqlFaults) (expected : ℤ)
    (hprovider : providerKey provider = "weltrade") (hsymbol : isWeltradeSynthetic symbol = true)
    (hsource : ∀ name ∈ sourceSymbol, isWeltradeSynthetic name = true)
    (hstart : stepMicros timeframe ∣ start) (hstop : stepMicros timeframe ∣ stop) {rows : List CandleRow}
    {coverage : Option CoverageValidationResult} (hcoverage : CoverageOf timeframe start stop rows sourceSymbol coverage) :
    Triple (fun _ => True)
      (downloadRange gateway sql symbol timeframe start stop expected (some provider) sourceSymbol coverage)
      (fun candles _ => ServedRange timeframe start stop sourceSymbol candles) fun _ => True := by
  unfold downloadRange
  have htrue : ∀ {α : Type} (m : Act α), Triple (fun _ => True) m (fun _ _ => True) fun _ => True :=
    fun m => Triple.intro fun s _ => by
      cases hm : m s with
      | ok a t => exact .inl ⟨a, t, rfl, trivial⟩
      | error e t => exact .inr ⟨e, t, rfl, trivial⟩
  refine Triple.bind (htrue _) fun answer => Triple.bind (htrue _) fun fetched => Triple.bind (htrue _) fun written => ?_
  refine Triple.bind (Triple.reads (T := fun _ _ => True) fun _ _ => trivial) fun s => ?_
  refine Triple.bind (Triple.answers (Q := fun complete _ => refreshedComplete
    (loadRows s.table symbol timeframe (some (.aware start)) (some (.aware stop)) (some provider)) symbol timeframe start stop
    provider (sourceSymbol.getD "") coverage = .ok complete) fun _ _ => ⟨fun _ h => h, trivial⟩) fun complete => ?_
  refine Triple.ite (fun hcomplete => Triple.returns fun t hrefreshed => ?_) fun _ => Triple.raises fun _ _ => trivial
  rw [hcomplete] at hrefreshed
  refine served_of_rows s.table hstart hstop ?_
  cases sourceSymbol with
  | none =>
    rw [show coverage = none from hcoverage] at hrefreshed
    have hboth := Except.ok.inj hrefreshed
    rw [Bool.and_eq_true] at hboth
    exact hboth
  | some name =>
    cases coverage with
    | none => exact hcoverage.elim
    | some r =>
      unfold refreshedComplete at hrefreshed
      rcases validate_weltrade (loadRows s.table symbol timeframe (some (.aware start)) (some (.aware stop)) (some provider))
        timeframe start stop hprovider hsymbol (hsource name rfl) with ⟨r', hr', hevery⟩ | ⟨e, he, -⟩
      · dsimp only [Option.getD_some] at hrefreshed
        rw [hr'] at hrefreshed
        exact hevery (Except.ok.inj hrefreshed)
      · dsimp only [Option.getD_some] at hrefreshed
        rw [he] at hrefreshed
        cases hrefreshed

/-- **A ranged read of Weltrade's history returns strictly increasing candles within the range, one for every bucket if it
has the provider's symbol and without a wide gap if it has not; with `cached_only` the gateway is not called.** -/
theorem getCandlesRange_serves (gateway : RangeGateway) (sql : ℕ → SqlFaults) (count : Option ℤ) (cachedOnly : Bool)
    (hprovider : providerKey provider = "weltrade") (hsymbol : isWeltradeSynthetic symbol = true)
    (hsource : ∀ name ∈ sourceSymbol, isWeltradeSynthetic name = true)
    (hstart : stepMicros timeframe ∣ start) (hstop : stepMicros timeframe ∣ stop) (s : Service) :
    Triple (fun t => t = s)
      (getCandlesRange gateway sql symbol timeframe (.aware start) (.aware stop) count (some provider) sourceSymbol cachedOnly)
      (fun candles t => ServedRange timeframe start stop sourceSymbol candles ∧ (cachedOnly = true → t = s))
      fun t => cachedOnly = true → t = s := by
  unfold getCandlesRange
  refine Triple.ite (fun _ => Triple.raises fun t ht _ => ht) fun _ => ?_
  refine Triple.bind (Triple.reads (T := fun s' t => s' = s ∧ t = s) fun t ht => ⟨ht, ht⟩) fun s' => ?_
  refine Triple.bind (Triple.answers (Q := fun coverage t => t = s ∧ CoverageOf timeframe start stop
    (loadRows s'.table symbol timeframe (some (.aware start)) (some (.aware stop)) (some provider)) sourceSymbol coverage)
    fun t ht => ⟨fun coverage h => ⟨ht.2, cachedCoverage_spec _ hprovider hsymbol hsource h⟩, fun _ => ht.2⟩) fun coverage => ?_
  refine Triple.ite (fun hcomplete => Triple.returns fun t ht => ?_) fun _ => ?_
  · refine ⟨served_of_rows s'.table hstart hstop ?_, fun _ => ht.1⟩
    have hof := ht.2
    cases sourceSymbol with
    | none =>
      rw [show coverage = none from hof] at hcomplete
      unfold cachedComplete at hcomplete
      rw [Bool.and_eq_true, Bool.and_eq_true] at hcomplete
      exact ⟨hcomplete.1.1, hcomplete.2⟩
    | some name =>
      cases coverage with
      | none => exact hof.elim
      | some r => exact hof hcomplete
  · refine Triple.ite (fun _ => Triple.raises fun t ht _ => ht.1) fun honline => ?_
    intro t ht
    have hdownload := downloadRange_served gateway sql (expectedCount timeframe start stop count) hprovider hsymbol hsource
      hstart hstop ht.2
    exact (hdownload.weaken (fun _ (h : True) => h) (fun _ _ h => ⟨h, fun hcached => absurd hcached honline⟩)
      fun _ _ hcached => absurd hcached honline) t trivial

end

/-! ### A minute of an index -/

@[reducible] def summerTime : NewYork := ⟨fun t => t - 14400000000⟩

def fiboRows (times : List ℤ) : List CandleRow :=
  times.map fun time => ⟨"weltrade", "FiboX", "M1", time, ⟨.fin 1, .fin 1, .fin 1, .fin 1, none⟩, "weltrade"⟩

def minuteTable : CandleTable := ⟨fiboRows [0, 60, 120], by decide, by decide⟩

def shiftedTable : CandleTable := ⟨fiboRows [0, 75, 120], by decide, by decide⟩

def silentGateway : RangeGateway := ⟨false, fun _ _ => .ok []⟩

theorem getCandlesRange_serves_fiboX :
    let _ : Dataset.Host := Dataset.plainHost
    let _ : SqlOrder := tableOrder
    let _ : NewYork := summerTime
    let _ : PyUnicode := latinUnicode
    let served := getCandlesRange silentGateway (fun _ => {}) "FiboX" .m1 (.aware 0) (.aware 120000000) none (some "weltrade")
      (some "FiboX") true
    served ⟨minuteTable, 0⟩ = .ok ((fiboRows [0, 60, 120]).map rowToCandle) ⟨minuteTable, 0⟩ ∧
    Triple (fun t => t = ⟨minuteTable, 0⟩) served
      (fun candles t => ServedRange .m1 0 120000000 (some "FiboX") candles ∧ (true = true → t = ⟨minuteTable, 0⟩))
      fun t => true = true → t = ⟨minuteTable, 0⟩ := by
  intro _ _ _ _
  have hfibo : isWeltradeSynthetic "FiboX" = true ∧ providerKey "weltrade" = "weltrade" := by
    decide +kernel
  refine ⟨rfl, getCandlesRange_serves silentGateway (fun _ => {}) none true hfibo.2 hfibo.1 ?_ (by decide) (by decide) _⟩
  rintro _ ⟨⟩
  exact hfibo.1

/-- **Without the provider's symbol a bucket may be missing**: a cache of seconds 0, 75 and 120 serves the range from 0 to
120 of M1. -/
theorem shifted_range_served :
    let _ : Dataset.Host := Dataset.plainHost
    let _ : SqlOrder := tableOrder
    let _ : NewYork := summerTime
    let _ : PyUnicode := latinUnicode
    isWeltradeSynthetic "FiboX" = true ∧
    getCandlesRange silentGateway (fun _ => {}) "FiboX" .m1 (.aware 0) (.aware 120000000) none (some "weltrade") none true
      ⟨shiftedTable, 0⟩ = .ok ((fiboRows [0, 75, 120]).map rowToCandle) ⟨shiftedTable, 0⟩ ∧
    ¬ EveryBucket 0 120000000 (stepMicros .m1) (micros (fiboRows [0, 75, 120])) := by
  intro _ _ _ _
  refine ⟨by decide +kernel, ?_, fun hevery => ?_⟩
  · have hrows : loadRows shiftedTable "FiboX" .m1 (some (.aware 0)) (some (.aware 120000000)) (some "weltrade") =
        fiboRows [0, 75, 120] := by
      decide +kernel
    have hcomplete : cachedComplete .m1 (fiboRows [0, 75, 120]) 0 120000000 3 none = true := by
      decide +kernel
    have hget : (get : Act Service) ⟨shiftedTable, 0⟩ = .ok ⟨shiftedTable, 0⟩ ⟨shiftedTable, 0⟩ := rfl
    have hnone : Raising.answered (Except.ok none : Except PyExc (Option CoverageValidationResult)) (⟨shiftedTable, 0⟩ : Service) =
      .ok none ⟨shiftedTable, 0⟩ := rfl
    unfold getCandlesRange
    dsimp only
    rw [if_neg (by decide : ¬(120000000 : ℤ) < 0), Raising.run_bind hget, hrows]
    show (Raising.answered (.ok none) >>= _) _ = _
    rw [Raising.run_bind hnone, show expectedCount .m1 0 120000000 none = 3 by decide, hcomplete]
    rfl
  · have hbucket := hevery 1 (by decide)
    revert hbucket
    decide

end HistoricalData
end Jqe
