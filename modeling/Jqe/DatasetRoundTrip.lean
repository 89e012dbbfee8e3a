import Mathlib.Data.List.Chain
import Jqe.Dataset
/-!
# DatasetRoundTrip — which exported bundles load back

Export checks the order of the candles, the counts and the hash; load checks the prices and volumes of every row and
strips the texts.
-/
namespace Jqe
namespace Dataset

open List
open PyDatetime (le utc aware isNaive)
open Host (quotesReturn)
open Except (ok)

section RoundTrip

variable [Host]

structure LoadableCandle (c : Candle) : Prop where
  prices : validPrices c.open_ c.high c.low c.close = true
  volume : validVolume c.volume = true
  readable : Csv.Readable alphabet Host.quotesReturn fieldSizeLimit (text c.source)
  stripped : strip c.source = c.source
  nonblank : c.source ≠ ""

structure Loadable (candles : List Candle) (manifest : CandleDatasetManifest) : Prop where
  candles : ∀ c ∈ candles, LoadableCandle c
  texts : ∀ value ∈ [manifest.provider, manifest.source, manifest.providerSymbol, manifest.canonicalSymbol],
    strip value = value ∧ value ≠ ""
  retrieved : manifest.retrievedAt.isNaive = false

structure Exportable (candles : List Candle) (manifest : CandleDatasetManifest) : Prop where
  nonempty : candles ≠ []
  aware : ∀ c ∈ candles, c.time = .aware c.time.utc
  increasing : (candles.map fun c => c.time.utc).Pairwise (· < ·)
  granularity : manifest.granularitySeconds = manifest.timeframe.seconds
  count : (candles.length : ℤ) = manifest.candleCount
  range : ∃ first last, manifest.firstCandle = .aware first ∧ manifest.lastCandle = .aware last ∧ first ≤ last
  hash : candleContentHash candles = manifest.contentHash

omit [Host] in
theorem le_aware {s : PyDatetime} {t : ℤ} {b : Bool} (h : s.le (.aware t) = .ok b) :
    ∃ u, s = .aware u ∧ b = decide (u ≤ t) := by
  cases s with
  | aware u =>
    refine ⟨u, rfl, ?_⟩
    simpa [le] using h.symm
  | naive u => simp [le] at h

omit [Host] in
theorem increasing_of_unordered : ∀ {times : List PyDatetime} {t : ℤ}, unordered (.aware t :: times) = .ok false →
    ∃ ts, times = ts.map .aware ∧ (t :: ts).IsChain (· < ·)
  | [], t, _ => ⟨[], rfl, isChain_singleton t⟩
  | s :: times, t, h => by
    obtain ⟨late, hle, hrest⟩ := bind_ok h
    obtain ⟨u, rfl, rfl⟩ := le_aware hle
    by_cases hlate : u ≤ t
    · rw [if_pos (by simpa using hlate)] at hrest
      cases hrest
    · rw [if_neg (by simpa using hlate)] at hrest
      obtain ⟨ts, rfl, hchain⟩ := increasing_of_unordered hrest
      exact ⟨u :: ts, rfl, isChain_cons_cons.2 ⟨not_le.1 hlate, hchain⟩⟩

omit [Host] in
theorem head_le_getLast {ts : List ℤ} {t : ℤ} (h : (t :: ts).Pairwise (· < ·)) :
    t ≤ (t :: ts).getLast (cons_ne_nil t ts) := by
  cases ts with
  | nil => exact le_refl t
  | cons u ts =>
    rw [getLast_cons (cons_ne_nil u ts)]
    exact le_of_lt (rel_of_pairwise_cons h (getLast_mem (cons_ne_nil u ts)))

theorem aware_of_unordered {c : Candle} {cs : List Candle} (haware : c.time.isNaive = false)
    (h : unordered ((c :: cs).map Candle.time) = .ok false) : (∀ d ∈ c :: cs, d.time = .aware d.time.utc) ∧
      ((c :: cs).map fun d => d.time.utc).Pairwise (· < ·) := by
  cases htime : c.time with
  | naive wall =>
    rw [htime] at haware
    cases haware
  | aware t =>
    rw [map_cons, htime] at h
    obtain ⟨ts, hts, hchain⟩ := increasing_of_unordered h
    have hcs : ∀ d ∈ cs, d.time = .aware d.time.utc := by
      intro d hd
      have hmem := @List.mem_map_of_mem _ _ _ _ Candle.time hd
      rw [hts] at hmem
      obtain ⟨u, -, hu⟩ := mem_map.1 hmem
      rw [← hu]
      rfl
    have hutc : cs.map (fun d => d.time.utc) = ts := by
      have hmap := congrArg (List.map utc) hts
      rwa [map_map, map_map, show utc ∘ aware = id from rfl, map_id] at hmap
    refine ⟨fun d hd => ?_, ?_⟩
    · rcases mem_cons.1 hd with rfl | hd
      · rw [htime]
        rfl
      · exact hcs d hd
    · rw [map_cons, hutc, htime]
      exact isChain_iff_pairwise.1 hchain

/-- **Verification says what a manifest describes.** -/
theorem exportable_of_verify {candles : List Candle} {manifest : CandleDatasetManifest}
    (h : verifyDatasetManifest manifest candles = .ok ()) : Exportable candles manifest := by
  cases candles with
  | nil => cases h
  | cons c cs =>
    obtain ⟨late, hlate, h⟩ := bind_ok h
    obtain ⟨horder, h⟩ := require_bind.1 h
    obtain ⟨hgranularity, h⟩ := require_bind.1 h
    obtain ⟨hcount, h⟩ := require_bind.1 h
    obtain ⟨haware, h⟩ := require_bind.1 h
    obtain ⟨hfirst, h⟩ := require_bind.1 h
    obtain ⟨hlast, h⟩ := require_bind.1 h
    obtain ⟨-, hhash⟩ := require_bind.1 h
    rw [Bool.not_eq_true', Bool.or_eq_false_iff] at haware
    rw [Bool.not_eq_true'] at horder
    rw [horder] at hlate
    obtain ⟨hall, hincreasing⟩ := aware_of_unordered haware.1 hlate
    have hrange : c.time.utc ≤ ((c :: cs).getLast (cons_ne_nil c cs)).time.utc := by
      rw [← @List.getLast_map _ _ (fun d : Candle => d.time.utc)]
      exact head_le_getLast hincreasing
    exact {
      nonempty := cons_ne_nil c cs
      aware := hall
      increasing := hincreasing
      granularity := beq_iff_eq.1 hgranularity
      count := beq_iff_eq.1 hcount
      range := ⟨_, _, (beq_iff_eq.1 hfirst).symm, (beq_iff_eq.1 hlast).symm, hrange⟩
      hash := beq_iff_eq.1 (require_eq_ok.1 hhash) }

/-! ## The CSV text -/

omit [Host] in
theorem get_header (row : List Cell) :
    (dictRow header row).get "time" = row[0]? ∧ (dictRow header row).get "open" = row[1]? ∧
    (dictRow header row).get "high" = row[2]? ∧ (dictRow header row).get "low" = row[3]? ∧
    (dictRow header row).get "close" = row[4]? ∧ (dictRow header row).get "volume" = row[5]? ∧
    (dictRow header row).get "source" = row[6]? ∧ (dictRow header row).get "tick_volume" = none :=
  ⟨rfl, rfl, rfl, rfl, rfl, rfl, rfl, rfl⟩

@[simp] theorem cellText_text (s : String) : cellText (text s) = s := by
  simp [cellText, text, flatMap_map]

omit [Host] in
theorem length_stripChars_le (l : List Char) : (stripChars l).length ≤ l.length :=
  (dropWhile_suffix _).length_le.trans ( rdropWhile_prefix _ _).length_le

theorem strip_piece_ne {s : String} {piece : Cell} (hstart : piece <+: text s)
    (hlt : piece.length < (text s).length) : strip (cellText piece) ≠ s := by
  intro he
  have hpiece : piece = text (String.ofList (s.toList.take piece.length)) := by
    rw [text, String.toList_ofList, map_take]
    exact prefix_iff_eq_take.1 hstart
  have hlength := congrArg (fun t => t.toList.length) he
  rw [hpiece, cellText_text, strip, String.toList_ofList, String.toList_ofList] at hlength
  have hle := length_stripChars_le (s.toList.take piece.length)
  rw [hlength, length_take] at hle
  rw [text, length_map] at hlt
  omega

theorem readable_singleton {symbol : CsvSymbol} (h : alphabet.carriageReturn ≠ symbol) :
    Csv.Readable alphabet quotesReturn fieldSizeLimit [symbol] where
  fits := (by decide : 1 ≤ fieldSizeLimit)
  returns hmem := absurd (mem_singleton.1 hmem) h

theorem readable_marketCells (c : Candle) :
    ∀ cell ∈ marketCells c, Csv.Readable alphabet quotesReturn fieldSizeLimit cell := by
  have hvolume : Csv.Readable alphabet quotesReturn fieldSizeLimit
      (c.volume.elim [] fun v => [CsvSymbol.number v]) := by
    cases c.volume with
    | none => exact ⟨by decide, fun hmem => absurd hmem not_mem_nil⟩
    | some v => exact readable_singleton (by simp [alphabet])
  simp only [marketCells, forall_mem_cons]
  exact ⟨readable_singleton (by simp [alphabet]), readable_singleton (by simp [alphabet]),
    readable_singleton (by simp [alphabet]), readable_singleton (by simp [alphabet]),
    readable_singleton (by simp [alphabet]), hvolume, fun cell hcell => absurd hcell not_mem_nil⟩

theorem read_candleCells (c : Candle) (cs : List CsvSymbol) :
    Csv.read alphabet fieldSizeLimit .recordStart [] [] (Csv.writeRow alphabet quotesReturn (candleCells c) ++ cs) =
      Csv.read alphabet fieldSizeLimit .fieldStart [] (marketCells c)
        (Csv.writeField alphabet quotesReturn (text c.source) ++ alphabet.lineFeed :: cs) := by
  have hfirst : Csv.writeField alphabet quotesReturn [CsvSymbol.moment (.aware c.time.utc)] =
      [.moment (.aware c.time.utc)] := by simp [Csv.writeField, Csv.special, alphabet]
  have hhead : ∃ rest, Csv.writeRow alphabet quotesReturn (candleCells c) ++ cs =
      .moment (.aware c.time.utc) :: rest := by
    rw [candleCells, marketCells, cons_append, cons_append, Csv.writeRow, hfirst, singleton_append]
    exact ⟨_, cons_append⟩
  have hfields := Csv.read_fields (readable_marketCells c) (text c.source) cs []
  rw [nil_append, ← candleCells] at hfields
  obtain ⟨rest, hrest⟩ := hhead
  rw [hrest, Csv.read_recordStart (by simp [Csv.lineEnd, alphabet]), ← hrest, hfields]

def candlesText (candles : List Candle) : List CsvSymbol :=
  (candles.map candleCells).flatMap (Csv.writeRow alphabet Host.quotesReturn)

theorem candlesText_cons (c : Candle) (cs : List Candle) : candlesText (c :: cs) =
    Csv.writeRow alphabet quotesReturn (candleCells c) ++ candlesText cs := rfl

abbrev readCandles (candles : List Candle) : Option (List (List Cell)) :=
  Csv.read alphabet fieldSizeLimit .recordStart [] [] (candlesText candles)

theorem readCandles_cons {c : Candle} (h : Csv.Readable alphabet quotesReturn fieldSizeLimit (text c.source))
    (cs : List Candle) : readCandles (c :: cs) = (readCandles cs).map (candleCells c :: ·) := by
  obtain ⟨s, hs, hread⟩ := @Csv.read_writeField _ _ alphabet fieldSizeLimit _ (marketCells c) quotesReturn h
  rw [readCandles, candlesText_cons, read_candleCells, hread, Csv.read_lineEnd hs Csv.lineEnd_lineFeed]
  rfl

theorem readCandles_readable : ∀ {candles : List Candle},
    (∀ c ∈ candles, Csv.Readable alphabet quotesReturn fieldSizeLimit (text c.source)) →
    readCandles candles = some (candles.map candleCells)
  | [], _ => rfl
  | c :: cs, h => by
    rw [readCandles_cons (h c mem_cons_self),
      readCandles_readable fun d hd => h d (mem_cons_of_mem c hd)]
    rfl

omit [Host] in
theorem rowSource_cells [Host] (c : Candle) (cell : Cell) :
    rowSource (dictRow header (marketCells c ++ [cell])) = strip (cellText cell) := by
  rw [rowSource, (get_header _).2.2.2.2.2.2.1]
  rfl

theorem readable_of_sources : ∀ {candles : List Candle} {rows : List (List Cell)}, readCandles candles = some rows →
    rows.map (fun row => rowSource (dictRow header row)) = candles.map Candle.source →
    (∀ c ∈ candles, Csv.Readable alphabet quotesReturn fieldSizeLimit (text c.source)) ∧
      rows = candles.map candleCells
  | [], rows, h, _ => by
    obtain rfl : [] = rows := Option.some.inj h
    exact ⟨fun c hc => absurd hc not_mem_nil, rfl⟩
  | c :: cs, rows, h, hsources => by
    by_cases hc : Csv.Readable alphabet quotesReturn fieldSizeLimit (text c.source)
    · rw [readCandles_cons hc] at h
      obtain ⟨rest, hrest, rfl⟩ := Option.map_eq_some_iff.1 h
      obtain ⟨hall, rfl⟩ := readable_of_sources hrest (List.cons.inj hsources).2
      exact ⟨forall_mem_cons.2 ⟨hc, hall⟩, rfl⟩
    · -- the first row is cut in its source, so that source does not come back
      rw [readCandles, candlesText_cons, read_candleCells] at h
      rcases @Csv.read_writeField_cut _ _ alphabet fieldSizeLimit _ (marketCells c) quotesReturn hc (candlesText cs) with hnone | ⟨piece, rest, hpre, hlt, hcut⟩
      · exact absurd (hnone.symm.trans h) (Option.some_ne_none rows).symm
      · obtain ⟨below, -, rfl⟩ := Option.map_eq_some_iff.1 (hcut.symm.trans h)
        have hsource := (rowSource_cells c piece).symm.trans (List.cons.inj hsources).1
        exact absurd hsource (strip_piece_ne hpre hlt)

omit [Host] in
theorem readable_header : ∀ cell ∈ header, cell.length ≤ fieldSizeLimit ∧ alphabet.carriageReturn ∉ cell := by decide

theorem rows_csvText (candles : List Candle) :
    Csv.rows alphabet fieldSizeLimit (csvText candles) = (readCandles candles).map (header :: ·) := by
  have hreadable : ∀ cell ∈ header, Csv.Readable alphabet quotesReturn fieldSizeLimit cell := fun cell hcell =>
    ⟨(readable_header cell hcell).1, fun hmem => absurd hmem (readable_header cell hcell).2⟩
  have hrow := @Csv.read_writeRow _ _ alphabet fieldSizeLimit quotesReturn header.dropLast (fun cell hcell => hreadable cell (dropLast_subset _ hcell))
    (text "source") (hreadable (text "source") (by decide)) (candlesText candles)
  have hhead : ∃ rest, Csv.writeRow alphabet quotesReturn (header.dropLast ++ [text "source"]) ++
      candlesText candles = .char 't' :: rest := by
    cases quotesReturn <;> exact ⟨_, rfl⟩
  obtain ⟨rest, hrest⟩ := hhead
  have htext : csvText candles = .char 't' :: rest := hrest ▸ rfl
  rw [Csv.rows, htext, Csv.read_recordStart (by simp [Csv.lineEnd, alphabet]), ← hrest, hrow]
  rfl

theorem dictReader_ok_iff {candles : List Candle} {rows : List DictRow} : dictReader (csvText candles) = .ok rows ↔
    ∃ cells, readCandles candles = some cells ∧ rows = cells.map (dictRow header) := by
  rw [dictReader, rows_csvText]
  cases readCandles candles with
  | none => simp
  | some cells => simp [eq_comm]

/-! ## The rows as candles -/

/-- A candle as `load_candle_csv` makes it. -/
def asRead (source : String) (c : Candle) : Candle := { c with time := .aware c.time.utc, source := source }

def priced (c : Candle) : Bool := validPrices c.open_ c.high c.low c.close && validVolume c.volume

theorem readVolume_cells (c : Candle) : readVolume (dictRow header (candleCells c)) = some c.volume := by
  unfold readVolume
  rw [(get_header _).2.2.2.2.2.1, (get_header _).2.2.2.2.2.2.2]
  cases hv : c.volume with
  | none => simp [candleCells, marketCells, hv]
  | some v => simp [candleCells, marketCells, hv, number?]

theorem readCandle_cells (source : String) (c : Candle) :
    readCandle source (dictRow header (candleCells c)) = if priced c = true then some (asRead source c) else none := by
  obtain ⟨htime, hopen, hhigh, hlow, hclose, -⟩ := get_header (candleCells c)
  rw [readCandle, htime, hopen, hhigh, hlow, hclose, readVolume_cells]
  show (if (!false && validPrices c.open_ c.high c.low c.close && validVolume c.volume) = true then
    some (asRead source c) else none) = _
  rw [Bool.not_false, Bool.true_and]
  rfl

/-- **Every row reads as a candle exactly when every candle is priced.** -/
theorem readRows_iff (source : String) : ∀ {candles loaded : List Candle},
    ((candles.map candleCells).map (dictRow header)).mapM (readCandle source) = some loaded ↔
      (∀ c ∈ candles, priced c = true) ∧ loaded = candles.map (asRead source)
  | [], loaded => by
    constructor
    · intro h
      exact ⟨fun c hc => absurd hc not_mem_nil, (Option.some.inj h).symm⟩
    · rintro ⟨-, rfl⟩
      rfl
  | c :: cs, loaded => by
    rw [map_cons, map_cons, mapM_cons, readCandle_cells]
    by_cases hc : priced c = true
    · have ih := @readRows_iff source cs
      rw [if_pos hc, Option.bind_eq_bind, Option.bind_some]
      constructor
      · intro h
        obtain ⟨rest, hrest, hloaded⟩ := Option.bind_eq_some_iff.1 h
        obtain ⟨hall, rfl⟩ := ih.1 hrest
        exact ⟨forall_mem_cons.2 ⟨hc, hall⟩, (Option.some.inj hloaded).symm⟩
      · rintro ⟨hall, rfl⟩
        have hrest := ih.2 ⟨(forall_mem_cons.1 hall).2, rfl⟩
        rw [hrest]
        rfl
    · rw [if_neg hc]
      refine ⟨fun h => ?_, fun h => absurd (h.1 c mem_cons_self) hc⟩
      cases h

omit [Host] in
theorem setByTime_new {k : ℤ} {c : Candle} : ∀ {d : List (ℤ × Candle)}, (∀ e ∈ d, e.1 < k) →
    setByTime d k c = d ++ [(k, c)]
  | [], _ => rfl
  | e :: d, h => by
    have hne : e.1 ≠ k := ne_of_lt (h e mem_cons_self)
    rw [setByTime, if_neg hne, setByTime_new fun e' he' => h e' (mem_cons_of_mem e he'), cons_append]

theorem foldl_setByTime : ∀ {candles : List Candle} {d : List (ℤ × Candle)},
    (candles.map fun c => c.time.utc).Pairwise (· < ·) → (∀ e ∈ d, ∀ c ∈ candles, e.1 < c.time.utc) →
    candles.foldl (fun d c => setByTime d c.time.utc c) d = d ++ candles.map fun c => (c.time.utc, c)
  | [], d, _, _ => by simp
  | c :: cs, d, h, hd => by
    rw [map_cons, pairwise_cons] at h
    rw [foldl_cons, setByTime_new fun e he => hd e he c mem_cons_self, foldl_setByTime h.2, append_assoc]
    · rfl
    · intro e he c' hc'
      rcases mem_append.1 he with he | he
      · exact hd e he c' (mem_cons_of_mem c hc')
      · rw [mem_singleton.1 he]
        exact h.1 _ (mem_map_of_mem hc')

theorem byTime_increasing {candles : List Candle} (h : (candles.map fun c => c.time.utc).Pairwise (· < ·)) :
    byTime candles = candles := by
  have hsorted : (candles.map fun c => (c.time.utc, c)).Pairwise fun a b => decide (a.1 ≤ b.1) = true := by
    rw [pairwise_map] at h ⊢
    exact h.imp fun hlt => decide_eq_true (le_of_lt hlt)
  rw [byTime, foldl_setByTime h (fun e he => absurd he not_mem_nil), nil_append,
    mergeSort_of_pairwise hsorted, map_map]
  exact map_id candles

/-! ## The sources -/

theorem restore_ok {c r : Candle} {row : DictRow} (h : restore (c, row) = .ok r) :
    rowSource row ≠ "" ∧ r = { c with source := rowSource row } := by
  obtain ⟨hsource, hr⟩ := require_bind.1 h
  exact ⟨by simpa using hsource, (ok.inj hr).symm⟩

theorem sources_of_restore : ∀ {loaded restored : List Candle} {rows : List DictRow}, loaded.length = rows.length →
    (loaded.zip rows).mapM restore = .ok restored →
    restored.map Candle.source = rows.map rowSource ∧ ∀ row ∈ rows, rowSource row ≠ ""
  | [], restored, [], _, h => by
    obtain rfl : [] = restored := ok.inj h
    exact ⟨rfl, fun row hrow => absurd hrow not_mem_nil⟩
  | c :: cs, restored, row :: rows, hlength, h => by
    rw [zip_cons_cons, mapM_cons] at h
    obtain ⟨r, hr, h⟩ := bind_ok h
    obtain ⟨rs, hrs, h⟩ := bind_ok h
    obtain rfl : r :: rs = restored := ok.inj h
    obtain ⟨hsource, rfl⟩ := restore_ok hr
    obtain ⟨hmap, hall⟩ := sources_of_restore (Nat.succ.inj hlength) hrs
    refine ⟨?_, forall_mem_cons.2 ⟨hsource, hall⟩⟩
    rw [map_cons, map_cons, hmap]

theorem rowSource_candleCells (c : Candle) : rowSource (dictRow header (candleCells c)) = strip c.source := by
  rw [candleCells, rowSource_cells, cellText_text]

theorem restore_all {source : String} : ∀ {candles : List Candle},
    (∀ c ∈ candles, c.time = .aware c.time.utc ∧ strip c.source = c.source ∧ c.source ≠ "") →
    ((candles.map (asRead source)).zip ((candles.map candleCells).map (dictRow header))).mapM restore = .ok candles
  | [], _ => rfl
  | c :: cs, h => by
    obtain ⟨⟨htime, hstrip, hne⟩, hcs⟩ := forall_mem_cons.1 h
    have hrow : restore (asRead source c, dictRow header (candleCells c)) = .ok c := by
      refine require_bind.2 ⟨?_, ?_⟩
      · rw [rowSource_candleCells, hstrip]
        simpa using hne
      · have hc : ({ asRead source c with source := rowSource (dictRow header (candleCells c)) } : Candle) = c := by
          rw [rowSource_candleCells, hstrip, asRead, ← htime]
        exact congrArg ok hc
    rw [map_cons, map_cons, map_cons, zip_cons_cons, mapM_cons, hrow, restore_all hcs]
    rfl

/-! ## The manifest -/

omit [Host] in
theorem ofValue?_value (t : Timeframe) : Timeframe.ofValue? t.value = some t := by
  cases t <;> decide

theorem isContentHash_candleContentHash (candles : List Candle) :
    isContentHash (candleContentHash candles) = true := by
  have htext : (candleContentHash candles).toList = "sha256:".toList ++ (Sha256.hexdigest
      (("[" ++ ",".intercalate (candles.map candleJson) ++ "]").toList.map Char.toNat)).toList := by
    rw [candleContentHash, String.toList_append]
  rw [isContentHash, htext, Bool.and_eq_true, Bool.and_eq_true]
  refine ⟨⟨ isPrefixOf_iff_prefix.2 (prefix_append _ _), ?_⟩, ?_⟩
  · rw [length_append, Sha256.hexdigest_length]
    rfl
  · rw [all_eq_true]
    intro c hc
    have hdrop : c ∈ (Sha256.hexdigest
        (("[" ++ ",".intercalate (candles.map candleJson) ++ "]").toList.map Char.toNat)).toList := hc
    exact elem_eq_true_of_mem (Sha256.mem_hexdigest hdrop)

/-- What the texts of a manifest have to be for `load_dataset_manifest`. -/
def textsPresent (m : CandleDatasetManifest) : Bool :=
  [m.provider, m.source, m.providerSymbol, m.canonicalSymbol].all fun value => !blank value

theorem loadDatasetManifest_save {candles : List Candle} {m : CandleDatasetManifest} (h : Exportable candles m) :
    loadDatasetManifest (saveDatasetManifest m) = if textsPresent m = true then
      .ok { m with provider := strip m.provider, source := strip m.source, providerSymbol := strip m.providerSymbol,
                   canonicalSymbol := strip m.canonicalSymbol, retrievedAt := .aware m.retrievedAt.utc }
    else .error invalidManifest := by
  obtain ⟨first, last, hfirst, hlast, hle⟩ := h.range
  have hcount : 0 < m.candleCount := by
    have hpos := length_pos_iff.2 h.nonempty
    have hm := h.count
    omega
  have hhash : isContentHash m.contentHash = true := h.hash ▸ isContentHash_candleContentHash candles
  have hvalid : payloadValid (saveDatasetManifest m) m.timeframe = textsPresent m := by
    simp only [payloadValid, saveDatasetManifest, isNaive, utc, hfirst, hlast, h.granularity,
      hhash, beq_self_eq_true, decide_eq_true hcount, decide_eq_true hle, Bool.or_self, Bool.not_false,
      Bool.true_and]
    rfl
  have htimeframe : Timeframe.ofValue? (saveDatasetManifest m).timeframe = some m.timeframe := ofValue?_value m.timeframe
  have hschema : (saveDatasetManifest m).schemaVersion = 1 := rfl
  have hfirst_utc : aware (saveDatasetManifest m).firstCandle.utc = m.firstCandle := by
    rw [hfirst, saveDatasetManifest, hfirst]
    rfl
  have hlast_utc : aware (saveDatasetManifest m).lastCandle.utc = m.lastCandle := by
    rw [hlast, saveDatasetManifest, hlast]
    rfl
  rw [loadDatasetManifest, htimeframe]
  simp only [hschema, hvalid, hfirst_utc, hlast_utc, true_and]
  rfl

/-! ## The bundle -/

variable {candles : List Candle} {manifest : CandleDatasetManifest} {files : BundleFiles}

theorem export_ok (h : exportDatasetBundle candles manifest = .ok files) :
    verifyDatasetManifest manifest candles = .ok () ∧ files = ⟨csvText candles, saveDatasetManifest manifest⟩ := by
  obtain ⟨⟨⟩, hverify, h⟩ := bind_ok h
  obtain ⟨written, hwrite, h⟩ := bind_ok h
  obtain ⟨-, hwrite⟩ := require_bind.1 hwrite
  obtain ⟨late, -, hwrite⟩ := bind_ok hwrite
  obtain ⟨-, hwrite⟩ := require_bind.1 hwrite
  obtain ⟨-, hwrite⟩ := require_bind.1 hwrite
  obtain rfl : csvText candles = written := ok.inj hwrite
  exact ⟨hverify, (ok.inj h).symm⟩

omit [Host] in
theorem blank_eq_false {s : String} (h : strip s = s) : blank s = false ↔ s ≠ "" := by
  rw [← Bool.not_eq_true, blank_iff, h]

theorem loadDatasetManifest_eq_iff (h : Exportable candles manifest) :
    loadDatasetManifest (saveDatasetManifest manifest) = .ok manifest ↔
      (∀ value ∈ [manifest.provider, manifest.source, manifest.providerSymbol, manifest.canonicalSymbol],
        strip value = value ∧ value ≠ "") ∧ manifest.retrievedAt.isNaive = false := by
  rw [loadDatasetManifest_save h]
  constructor
  · intro hload
    by_cases hpresent : textsPresent manifest = true
    · rw [if_pos hpresent] at hload
      have hm := ok.inj hload
      have hall := all_eq_true.1 hpresent
      have hstrip : ∀ value ∈ [manifest.provider, manifest.source, manifest.providerSymbol, manifest.canonicalSymbol],
          strip value = value := by
        simp only [forall_mem_cons]
        exact ⟨congrArg (·.provider) hm, congrArg (·.source) hm, congrArg (·.providerSymbol) hm,
          congrArg (·.canonicalSymbol) hm, fun value hv => absurd hv not_mem_nil⟩
      refine ⟨fun value hv => ⟨hstrip value hv, ?_⟩, ?_⟩
      · have hb : blank value = false := by simpa using hall value hv
        exact (blank_eq_false (hstrip value hv)).1 hb
      · have hr := congrArg (·.retrievedAt) hm
        rw [← (hr : aware _ = manifest.retrievedAt)]
        rfl
    · rw [if_neg hpresent] at hload
      cases hload
  · rintro ⟨htexts, hretrieved⟩
    have hpresent : textsPresent manifest = true := by
      rw [textsPresent, all_eq_true]
      intro value hv
      rw [(blank_eq_false (htexts value hv).1).2 (htexts value hv).2]
      rfl
    obtain ⟨⟨hprovider, -⟩, ⟨hsource, -⟩, ⟨hsymbol, -⟩, ⟨hcanonical, -⟩, -⟩ := by
      simpa only [forall_mem_cons] using htexts
    rw [if_pos hpresent, hprovider, hsource, hsymbol, hcanonical]
    cases hr : manifest.retrievedAt with
    | naive wall =>
      rw [hr] at hretrieved
      cases hretrieved
    | aware t =>
      have hutc : (aware t).utc = t := rfl
      rw [hutc, ← hr]

theorem loadCandleCsv_ok_iff {source : String} {loaded : List Candle} :
    loadCandleCsv (csvText candles) source = .ok loaded ↔ blank source = false ∧
      ∃ cells, readCandles candles = some cells ∧ ∃ read, (cells.map (dictRow header)).mapM (readCandle source) = some read ∧
        loaded = byTime read := by
  constructor
  · intro hload
    obtain ⟨hsource, hload⟩ := require_bind.1 hload
    obtain ⟨rows, hrows, hload⟩ := bind_ok hload
    obtain ⟨cells, hcells, rfl⟩ := dictReader_ok_iff.1 hrows
    refine ⟨by simpa using hsource, cells, hcells, ?_⟩
    cases hread : (cells.map (dictRow header)).mapM (readCandle source) with
    | none =>
      rw [hread] at hload
      cases hload
    | some read =>
      rw [hread] at hload
      exact ⟨read, rfl, (ok.inj hload).symm⟩
  · rintro ⟨hsource, cells, hcells, read, hread, rfl⟩
    refine require_bind.2 ⟨by rw [hsource]; rfl, ?_⟩
    rw [dictReader_ok_iff.2 ⟨cells, hcells, rfl⟩]
    simp only [bind, Except.bind, hread]

theorem byTime_asRead {source : String} (h : Exportable candles manifest) :
    byTime (candles.map (asRead source)) = candles.map (asRead source) := by
  refine byTime_increasing ?_
  rw [map_map]
  exact h.increasing

theorem loadable_of_load (hexport : Exportable candles manifest)
    (hload : loadDatasetBundle ⟨csvText candles, saveDatasetManifest manifest⟩ = .ok (candles, manifest)) :
    Loadable candles manifest := by
  obtain ⟨m, hm, hload⟩ := bind_ok hload
  obtain ⟨loaded, hloaded, hload⟩ := bind_ok hload
  obtain ⟨rows, hrows, hload⟩ := bind_ok hload
  obtain ⟨hlength, hload⟩ := require_bind.1 hload
  obtain ⟨restored, hrestored, hload⟩ := bind_ok hload
  obtain ⟨⟨⟩, -, hload⟩ := bind_ok hload
  obtain ⟨rfl, rfl⟩ := Prod.mk.inj (ok.inj hload)
  obtain ⟨cells, hcells, rfl⟩ := dictReader_ok_iff.1 hrows
  obtain ⟨hsources, hpresent⟩ := sources_of_restore (beq_iff_eq.1 hlength).symm hrestored
  rw [map_map] at hsources
  obtain ⟨hreadable, rfl⟩ := readable_of_sources hcells hsources.symm
  obtain ⟨-, cells', hcells', read, hread, -⟩ := loadCandleCsv_ok_iff.1 hloaded
  obtain rfl : _ = cells' := Option.some.inj (hcells.symm.trans hcells')
  obtain ⟨hpriced, -⟩ := (readRows_iff m.source).1 hread
  obtain ⟨htexts, hretrieved⟩ := (loadDatasetManifest_eq_iff hexport).1 hm
  refine ⟨fun c hc => ?_, htexts, hretrieved⟩
  -- the source that the row of a candle brings back is its own
  have hsource : strip c.source = c.source := by
    rw [← rowSource_candleCells]
    rw [map_map] at hsources
    exact (map_inj_left.1 hsources c hc).symm
  have hne := hpresent _ (mem_map_of_mem (mem_map_of_mem hc))
  rw [rowSource_candleCells, hsource] at hne
  have hc' := hpriced c hc
  rw [priced, Bool.and_eq_true] at hc'
  exact ⟨hc'.1, hc'.2, hreadable c hc, hsource, hne⟩

theorem load_of_loadable (hverify : verifyDatasetManifest manifest candles = .ok ()) (h : Loadable candles manifest) :
    loadDatasetBundle ⟨csvText candles, saveDatasetManifest manifest⟩ = .ok (candles, manifest) := by
  have hexport := exportable_of_verify hverify
  have hm := (loadDatasetManifest_eq_iff hexport).2 ⟨h.texts, h.retrieved⟩
  have hcells := readCandles_readable fun c hc => (h.candles c hc).readable
  have hpriced : ∀ c ∈ candles, priced c = true := fun c hc => by
    rw [priced, (h.candles c hc).prices, (h.candles c hc).volume]
    rfl
  have hread := (readRows_iff manifest.source).2 ⟨hpriced, rfl⟩
  have hsource : blank manifest.source = false := by
    obtain ⟨hstrip, hne⟩ := h.texts manifest.source (by simp)
    exact (blank_eq_false hstrip).2 hne
  have hloaded := (loadCandleCsv_ok_iff.2
    ⟨hsource, _, hcells, _, hread, (byTime_asRead hexport).symm⟩)
  have hrestored := @restore_all _ manifest.source candles fun c hc =>
    ⟨hexport.aware c hc, (h.candles c hc).stripped, (h.candles c hc).nonblank⟩
  rw [loadDatasetBundle, hm]
  show (loadCandleCsv (csvText candles) manifest.source >>= _) = _
  rw [hloaded]
  show (dictReader (csvText candles) >>= _) = _
  rw [dictReader_ok_iff.2 ⟨_, hcells, rfl⟩]
  refine require_bind.2 ⟨by simp, ?_⟩
  rw [hrestored]
  show (verifyDatasetManifest manifest candles >>= _) = _
  rw [hverify]
  rfl

theorem unordered_of_verify (h : verifyDatasetManifest manifest candles = .ok ()) :
    unordered (candles.map Candle.time) = .ok false := by
  cases candles with
  | nil => rfl
  | cons c cs =>
    obtain ⟨late, hlate, h⟩ := bind_ok h
    obtain ⟨horder, -⟩ := require_bind.1 h
    rw [Bool.not_eq_true'] at horder
    rw [hlate, horder]

theorem export_of_verify (h : verifyDatasetManifest manifest candles = .ok ()) :
    exportDatasetBundle candles manifest = .ok ⟨csvText candles, saveDatasetManifest manifest⟩ := by
  have hexport := exportable_of_verify h
  have hnonempty : candles.isEmpty = false := by simpa using hexport.nonempty
  have haware : (candles.all fun c => !c.time.isNaive) = true := by
    rw [all_eq_true]
    intro c hc
    rw [hexport.aware c hc]
    rfl
  have horder := unordered_of_verify h
  have hwrite : writeCandleCsv candles = .ok (csvText candles) := by
    refine require_bind.2 ⟨by rw [hnonempty]; rfl, ?_⟩
    rw [horder]
    exact require_bind.2 ⟨haware, rfl⟩
  rw [exportDatasetBundle, h]
  show (writeCandleCsv candles >>= _) = _
  rw [hwrite]
  rfl

theorem verify_build {provider source providerSymbol canonicalSymbol : String} {timeframe : Timeframe}
    {retrievedAt : PyDatetime} (h : buildDatasetManifest provider source providerSymbol canonicalSymbol timeframe
      retrievedAt candles = .ok manifest) : verifyDatasetManifest manifest candles = .ok () := by
  cases candles with
  | nil => cases h
  | cons c cs =>
    obtain ⟨-, h⟩ := require_bind.1 h
    obtain ⟨late, hlate, h⟩ := bind_ok h
    obtain ⟨horder, h⟩ := require_bind.1 h
    obtain ⟨-, h⟩ := require_bind.1 h
    obtain ⟨haware, h⟩ := require_bind.1 h
    have hm := (ok.inj h).symm
    subst hm
    rw [verifyDatasetManifest, hlate]
    refine require_bind.2 ⟨horder, ?_⟩
    simp only [require_bind, beq_self_eq_true, haware, require_eq_ok, true_and]

end RoundTrip

@[reducible] def plainHost : Host where
  quotesReturn := true
  localInstant t := t
  repr q := toString q.floor ++ ".0"

/-- Two candles with volumes, of two sources. -/
def flatCandles (source : String) : List Candle :=
  [⟨.aware 0, .fin 1, .fin 2, .fin 1, .fin 2, some (.fin 5), source⟩,
    ⟨.aware 60000000, .fin 2, .fin 3, .fin 1, .fin 3, some (.fin 7), "mt5"⟩]

def flatManifest (source : String) : CandleDatasetManifest :=
  { provider := "deriv", source := "deriv", providerSymbol := "R_75", canonicalSymbol := "R_75", timeframe := .m1,
    granularitySeconds := 60, firstCandle := .aware 0, lastCandle := .aware 60000000, candleCount := 2,
    volumeAvailable := true, retrievedAt := .aware 60000000,
    contentHash := @candleContentHash plainHost (flatCandles source) }

theorem verify_flat (source : String) : @verifyDatasetManifest plainHost (flatManifest source) (flatCandles source) =
    .ok () := by
  have htexts : (["deriv", "deriv", "R_75", "R_75"].all fun value => !blank value) = true := by decide
  have hbuild : @buildDatasetManifest plainHost "deriv" "deriv" "R_75" "R_75" .m1 (.aware 60000000)
      (flatCandles source) = .ok (flatManifest source) := by
    refine require_bind.2 ⟨htexts, ?_⟩
    rfl
  exact @verify_build plainHost _ _ _ _ _ _ _ _ hbuild

theorem loadable_flat : @Loadable plainHost (flatCandles "deriv") (flatManifest "deriv") :=
  let _ : Host := plainHost
  { candles := by
      simp only [flatCandles, forall_mem_cons]
      refine ⟨?_, ?_, fun c hc => absurd hc not_mem_nil⟩ <;>
      exact { prices := by decide, volume := by decide, readable := ⟨by decide, fun h => absurd h (by decide)⟩,
              stripped := by decide, nonblank := by decide }
    texts := by
      simp only [flatManifest, forall_mem_cons]
      exact ⟨by decide, by decide, by decide, by decide, fun value hv => absurd hv not_mem_nil⟩
    retrieved := rfl }

end Dataset
end Jqe
