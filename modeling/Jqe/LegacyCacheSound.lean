import Jqe.LegacyCache
/-!
# LegacyCacheSound — the migration loses and mixes nothing

The rows that a committed migration leaves are read off those it found.
-/
namespace Jqe

open CandleStore List

theorem CandleTable.insertOrIgnore_rows (t : CandleTable) {row : CandleRow} (hreal : row.values.Real) :
    (t.insertOrIgnore row).rows = KeyedRows.insertNew CandleRow.key t.rows row := by
  have hbound : row.values.bound = row.values := by
    unfold Ohlcv.bound
    rw [if_neg hreal.2]
  have hrow : row.bound = row := by
    unfold CandleRow.bound
    rw [hbound]
  unfold insertOrIgnore insert? KeyedRows.insertNew
  by_cases hkey : row.key ∈ t.rows.map CandleRow.key
  · rw [dif_neg fun h => h.2 hkey, if_pos hkey]
    rfl
  · rw [dif_pos ⟨hbound.symm ▸ hreal, hkey⟩, if_neg hkey]
    show t.rows ++ [row.bound] = t.rows ++ [row]
    rw [hrow]

theorem CandleTable.insertAll_rows {new : List CandleRow} (hreal : ∀ row ∈ new, row.values.Real) (t : CandleTable) :
    (new.foldl insertOrIgnore t).rows = KeyedRows.insertAll CandleRow.key t.rows new := by
  induction new generalizing t with
  | nil => rfl
  | cons row new ih =>
    rw [foldl_cons, ih (fun r hr => hreal r (mem_cons_of_mem _ hr)),
      insertOrIgnore_rows t (hreal row mem_cons_self)]
    rfl

namespace LegacyCache

variable {r : Run} {symbols : List String} {db db' : CacheDatabase} {row : CandleRow}

theorem ofProvider_iff {provider : String} : ofProvider provider symbols row = true ↔
    row.provider = provider ∧ inPartition symbols row.symbol row.timeframe = true := by
  unfold ofProvider
  exact decide_eq_true_iff

/-- The row an `UPDATE` of the raw rows makes of a row. -/
def retimed (symbols : List String) (delta : ℤ) (row : CandleRow) : CandleRow :=
  if isRaw symbols row then { row with time := row.time + delta } else row

theorem isRaw_retimed (delta : ℤ) (row : CandleRow) : isRaw symbols (retimed symbols delta row) = isRaw symbols row := by
  unfold retimed
  split <;> rfl

theorem retimed_retimed (a b : ℤ) (row : CandleRow) :
    retimed symbols b (retimed symbols a row) = retimed symbols (a + b) row := by
  by_cases hraw : isRaw symbols row = true
  · have hraw' := (isRaw_retimed a row).trans hraw
    unfold retimed at hraw' ⊢
    rw [if_pos hraw] at hraw' ⊢
    rw [if_pos hraw', if_pos hraw, add_assoc]
  · unfold retimed
    rw [if_neg hraw, if_neg hraw, if_neg hraw]

theorem moveRaw_rows {t t' : CandleTable} {delta : ℤ} (h : r.moveRaw symbols delta t = .ok t') :
    t'.rows = t.rows.map (retimed symbols delta) := by
  unfold Run.moveRaw at h
  split at h
  · rename_i moved hmoved
    cases h
    unfold CandleTable.moveTimes? at hmoved
    split at hmoved
    · cases hmoved
    · rename_i rows hrows
      cases hmoved
      obtain ⟨heq, -⟩ := KeyedRows.moveAll?_eq t.keys
        (((r.visit_perm _).map _).nodup_iff.2 (t.keys.sublist (List.filter_sublist.map _)))
        (fun row hrow => mem_of_mem_filter ((r.visit_perm _).mem_iff.1 hrow)) hrows
      refine heq.trans (map_congr_left fun row hrow => ?_)
      -- a key of the table is one of a raw row exactly where its row is raw
      have hiff : row.key ∈ (r.visit (t.rows.filter (isRaw symbols))).map CandleRow.key ↔ isRaw symbols row = true := by
        constructor
        · intro hmem
          obtain ⟨raw, hraw, hkey⟩ := mem_map.1 hmem
          rw [(r.visit_perm _).mem_iff, mem_filter] at hraw
          rw [← inj_on_of_nodup_map t.keys hraw.1 hrow hkey]
          exact hraw.2
        · intro hraw
          exact mem_map_of_mem ((r.visit_perm _).mem_iff.2 (mem_filter.2 ⟨hrow, hraw⟩))
      unfold retimed
      by_cases hraw : isRaw symbols row = true
      · rw [if_pos (hiff.2 hraw), if_pos hraw]
      · rw [if_neg (mt hiff.1 hraw), if_neg hraw]
  · cases h

/-! ### A committed migration -/

def sourceRows (symbols : List String) (db : CacheDatabase) : List CandleRow :=
  db.candles.rows.filter (ofProvider "weltrade" symbols)

def withArchive (symbols : List String) (db : CacheDatabase) : List CandleRow :=
  db.candles.rows ++ (sourceRows symbols db).map archived

theorem ofProvider_archived (symbols : List String) (db : CacheDatabase) :
    ∀ row ∈ (sourceRows symbols db).map archived, ofProvider archiveProvider symbols row = true := by
  intro row hrow
  obtain ⟨old, hold, rfl⟩ := mem_map.1 hrow
  exact ofProvider_iff.2 ⟨rfl, (ofProvider_iff.1 (mem_filter.1 hold).2).2⟩

/-- **Where the counts match, every row of the source partitions was archived.** -/
theorem archive_rows
    (h : ((((sourceRows symbols db).map archived).foldl CandleTable.insertOrIgnore db.candles).rows.filter
        (ofProvider archiveProvider symbols)).length = (db.candles.rows.filter (ofProvider archiveProvider symbols)).length +
      (sourceRows symbols db).length) :
    (((sourceRows symbols db).map archived).foldl CandleTable.insertOrIgnore db.candles).rows = withArchive symbols db := by
  have hreal : ∀ row ∈ (sourceRows symbols db).map archived, row.values.Real := by
    intro row hrow
    obtain ⟨old, hold, rfl⟩ := mem_map.1 hrow
    exact db.candles.real old (mem_of_mem_filter hold)
  rw [CandleTable.insertAll_rows hreal] at h ⊢
  obtain ⟨inserted, hsub, heq⟩ : ∃ inserted, inserted.Sublist ((sourceRows symbols db).map archived) ∧
      KeyedRows.insertAll CandleRow.key db.candles.rows ((sourceRows symbols db).map archived) =
        db.candles.rows ++ inserted := KeyedRows.insertAll_eq _ _
  have hall : inserted.filter (ofProvider archiveProvider symbols) = inserted :=
    filter_eq_self.2 fun row hrow => ofProvider_archived symbols db row (hsub.subset hrow)
  rw [heq, filter_append, length_append, hall] at h
  have hlength : inserted.length = ((sourceRows symbols db).map archived).length := by
    rw [length_map]
    omega
  rw [heq, hsub.eq_of_length hlength]
  rfl

theorem mem_withArchive : row ∈ withArchive symbols db ↔ row ∈ db.candles.rows ∨
    ∃ old ∈ db.candles.rows, ofProvider "weltrade" symbols old = true ∧ archived old = row := by
  unfold withArchive sourceRows
  simp only [mem_append, mem_map, mem_filter, and_assoc]

theorem ofProvider_retimed (provider : String) (delta : ℤ) (row : CandleRow) :
    ofProvider provider symbols (retimed symbols delta row) = ofProvider provider symbols row := by
  unfold retimed
  split <;> rfl

theorem not_raw_of_other (h : ofProvider "weltrade" symbols row = false) : isRaw symbols row = false := by
  unfold isRaw
  rw [h, Bool.false_and]

theorem retimed_of_not_raw {delta : ℤ} (h : isRaw symbols row = false) :
    retimed symbols delta row = row := if_neg (by simp [h])

theorem not_collides_of_other {rows : List CandleRow} (h : ofProvider "weltrade" symbols row = false) :
    collides symbols rows row = false := by
  unfold collides
  rw [h, Bool.false_and, Bool.false_and]

theorem not_collides_of_source {rows : List CandleRow} (h : row.source = "weltrade") :
    collides symbols rows row = false := by
  simp [collides, h]

theorem isRaw_iff :
    isRaw symbols row = true ↔ ofProvider "weltrade" symbols row = true ∧ row.source = "weltrade" := by
  simp [isRaw]

theorem mem_of_withArchive (h : row ∈ withArchive symbols db)
    (hsource : ofProvider "weltrade" symbols row = true) : row ∈ db.candles.rows := by
  rcases mem_withArchive.1 h with hrow | ⟨old, -, -, rfl⟩
  · exact hrow
  · have hprovider : archiveProvider = "weltrade" := by
      unfold ofProvider at hsource
      exact (of_decide_eq_true hsource).1
    exact absurd hprovider (by decide)

theorem raw_rows : ((withArchive symbols db).filter fun row => !collides symbols (withArchive symbols db) row).filter
    (isRaw symbols) = db.candles.rows.filter (isRaw symbols) := by
  have hkeep : ∀ row ∈ withArchive symbols db, (isRaw symbols row && !collides symbols (withArchive symbols db) row) =
      isRaw symbols row := by
    intro row _
    by_cases hraw : isRaw symbols row = true
    · rw [not_collides_of_source (isRaw_iff.1 hraw).2, Bool.not_false, Bool.and_true]
    · rw [eq_false_of_ne_true hraw, Bool.false_and]
  have hcopies : ((sourceRows symbols db).map archived).filter (isRaw symbols) = [] := by
    rw [filter_eq_nil_iff]
    intro row hrow
    obtain ⟨old, -, rfl⟩ := mem_map.1 hrow
    simp [isRaw, ofProvider, archived, archiveProvider]
  rw [filter_filter, filter_congr hkeep, withArchive, filter_append, hcopies, append_nil]

def archivedProvenance (symbols : List String) (db : CacheDatabase) : List ProvenanceRow :=
  (db.provenance.rows.filter fun row => row.provider = "weltrade" ∧ inPartition symbols row.symbol row.timeframe).map
    fun row => { row with provider := archiveProvider }

/-- **What a transaction commits**, given what it returns. -/
inductive Committed (r : Run) (symbols : List String) (db : CacheDatabase) :
    CacheDatabase × Option String × ℕ × ℕ → Prop where
  | found (h : (db.metadata.lookup marker).isSome = true) : Committed r symbols db (db, none, 0, 0)
  | migrated {candles : CandleTable} {value : String} (h : (db.metadata.lookup marker).isSome = false)
      (hrows : candles.rows = ((withArchive symbols db).filter fun row => !collides symbols (withArchive symbols db) row).map
        (retimed symbols (-serverUtcOffsetSeconds))) : Committed r symbols db (⟨candles, db.provenance.insertAll (archivedProvenance symbols db),
        dictSet db.metadata marker value⟩, some r.backupPath, (sourceRows symbols db).length,
        (db.candles.rows.filter (isRaw symbols)).length)

theorem normalize_committed {result : CacheDatabase × Option String × ℕ × ℕ} (h : normalize r symbols db = .ok result) :
    Committed r symbols db result := by
  unfold normalize at h
  obtain ⟨-, -, h⟩ := bind_ok h
  by_cases hfound : (db.metadata.lookup marker).isSome = true
  · rw [if_pos hfound] at h
    cases h
    exact .found hfound
  rw [if_neg hfound] at h
  obtain ⟨-, -, h⟩ := bind_ok h
  obtain ⟨-, -, h⟩ := bind_ok h
  obtain ⟨-, -, h⟩ := bind_ok h
  obtain ⟨-, -, h⟩ := bind_ok h
  dsimp only at h
  split at h
  · cases h
  rename_i hcount
  obtain ⟨-, -, h⟩ := bind_ok h
  obtain ⟨-, -, h⟩ := bind_ok h
  obtain ⟨-, -, h⟩ := bind_ok h
  obtain ⟨lifted, hlifted, h⟩ := bind_ok h
  obtain ⟨-, -, h⟩ := bind_ok h
  obtain ⟨lowered, hlowered, h⟩ := bind_ok h
  obtain ⟨-, -, h⟩ := bind_ok h
  obtain ⟨-, -, h⟩ := bind_ok h
  cases h
  have harchive : (((sourceRows symbols db).map archived).foldl CandleTable.insertOrIgnore db.candles).rows =
      withArchive symbols db := archive_rows (by
    have hcount' := not_not.1 hcount
    unfold sourceRows
    omega)
  have hshifted : (lifted.rows.filter (isRaw symbols)).length = (db.candles.rows.filter (isRaw symbols)).length := by
    have hfilter : isRaw symbols ∘ retimed symbols temporaryOffset = isRaw symbols := funext (isRaw_retimed temporaryOffset)
    rw [moveRaw_rows hlifted, filter_map, length_map, hfilter, ← raw_rows, ← harchive]
    rfl
  rw [hshifted]
  refine .migrated (eq_false_of_ne_true hfound) ?_
  rw [moveRaw_rows hlowered, moveRaw_rows hlifted, map_map]
  have hboth : (retimed symbols (-(temporaryOffset + serverUtcOffsetSeconds))) ∘ retimed symbols temporaryOffset =
      retimed symbols (-serverUtcOffsetSeconds) := by
    funext row
    rw [Function.comp_apply, retimed_retimed]
    rfl
  rw [hboth, ← harchive]
  rfl

/-- **The migration of the selected partitions**, by what is stored after it. -/
structure Migrated (symbols : List String) (before after : CacheDatabase) : Prop where
  /-- every source row is kept under the archive provider, beside what the archive held -/
  archive : ∀ row, ofProvider archiveProvider symbols row = true → (row ∈ after.candles.rows ↔
    row ∈ before.candles.rows ∨ ∃ old ∈ before.candles.rows, old.provider = "weltrade" ∧ archived old = row)
  /-- the raw rows are the previous ones, earlier by the offset -/
  raw : ∀ row, isRaw symbols row = true →
    (row ∈ after.candles.rows ↔ { row with time := row.time + serverUtcOffsetSeconds } ∈ before.candles.rows)
  /-- a row of another source goes exactly where a raw row has its key now -/
  foreign : ∀ row, ofProvider "weltrade" symbols row = true → row.source ≠ "weltrade" →
    (row ∈ after.candles.rows ↔ row ∈ before.candles.rows ∧
      ¬∃ other ∈ after.candles.rows, other.source = "weltrade" ∧ other.key = row.key)
  others : ∀ row, ofProvider "weltrade" symbols row = false → ofProvider archiveProvider symbols row = false →
    (row ∈ after.candles.rows ↔ row ∈ before.candles.rows)
  provenance : ∀ row, row ∈ after.provenance.rows ↔ row ∈ before.provenance.rows ∨
    row ∈ archivedProvenance symbols before ∧ row.key ∉ before.provenance.rows.map ProvenanceRow.key
  metadata : ∀ key, key ≠ marker → after.metadata.lookup key = before.metadata.lookup key

section

variable {candles : CandleTable}
  (hrows : candles.rows = ((withArchive symbols db).filter fun row => !collides symbols (withArchive symbols db) row).map
    (retimed symbols (-serverUtcOffsetSeconds)))

include hrows

theorem mem_committed {row : CandleRow} : row ∈ candles.rows ↔ ∃ old ∈ withArchive symbols db,
    collides symbols (withArchive symbols db) old = false ∧ retimed symbols (-serverUtcOffsetSeconds) old = row := by
  rw [hrows, mem_map]
  simp only [mem_filter, Bool.not_eq_true', and_assoc]

theorem mem_committed_of_other {row : CandleRow} (h : ofProvider "weltrade" symbols row = false) :
    row ∈ candles.rows ↔ row ∈ withArchive symbols db := by
  rw [mem_committed hrows]
  constructor
  · rintro ⟨old, hold, -, rfl⟩
    rw [ofProvider_retimed] at h
    rw [retimed_of_not_raw (not_raw_of_other h)]
    exact hold
  · intro hrow
    exact ⟨row, hrow, not_collides_of_other h, retimed_of_not_raw (not_raw_of_other h)⟩

theorem mem_committed_of_raw {row : CandleRow} (h : isRaw symbols row = true) :
    row ∈ candles.rows ↔ { row with time := row.time + serverUtcOffsetSeconds } ∈ db.candles.rows := by
  rw [mem_committed hrows]
  constructor
  · rintro ⟨old, hold, -, rfl⟩
    rw [isRaw_retimed] at h
    have hmem := mem_of_withArchive hold (isRaw_iff.1 h).1
    unfold retimed
    rw [if_pos h]
    simpa using hmem
  · intro hrow
    have hraw : isRaw symbols { row with time := row.time + serverUtcOffsetSeconds } = true := h
    refine ⟨_, mem_withArchive.2 (.inl hrow), not_collides_of_source (isRaw_iff.1 h).2, ?_⟩
    unfold retimed
    rw [if_pos hraw]
    simp

theorem mem_committed_of_foreign {row : CandleRow} (hsource : ofProvider "weltrade" symbols row = true)
    (hforeign : row.source ≠ "weltrade") : row ∈ candles.rows ↔ row ∈ db.candles.rows ∧
      ¬∃ other ∈ candles.rows, other.source = "weltrade" ∧ other.key = row.key := by
  have hraw : isRaw symbols row = false := by simp [isRaw, hforeign]
  constructor
  · intro hrow
    refine ⟨?_, fun ⟨other, hother, hweltrade, hkey⟩ => ?_⟩
    · obtain ⟨old, hold, -, rfl⟩ := (mem_committed hrows).1 hrow
      rw [isRaw_retimed] at hraw
      rw [ofProvider_retimed] at hsource
      rw [retimed_of_not_raw hraw]
      exact mem_of_withArchive hold hsource
    · rw [inj_on_of_nodup_map candles.keys hother hrow hkey] at hweltrade
      exact hforeign hweltrade
  · rintro ⟨hrow, hfree⟩
    refine (mem_committed hrows).2 ⟨row, mem_withArchive.2 (.inl hrow), ?_, retimed_of_not_raw hraw⟩
    by_contra hcollides
    -- the raw row that it collides with has its key afterwards
    rw [Bool.not_eq_false] at hcollides
    unfold collides at hcollides
    simp only [Bool.and_eq_true, List.any_eq_true, decide_eq_true_eq] at hcollides
    obtain ⟨-, raw, hmem, hprovider, hweltrade, hsymbol, htimeframe, htime⟩ := hcollides
    have hpartition : ofProvider "weltrade" symbols raw = true := by
      unfold ofProvider at hsource ⊢
      rw [hsymbol, htimeframe]
      exact decide_eq_true ⟨hprovider, (of_decide_eq_true hsource).2⟩
    have hisRaw : isRaw symbols raw = true := isRaw_iff.2 ⟨hpartition, hweltrade⟩
    refine hfree ⟨retimed symbols (-serverUtcOffsetSeconds) raw, (mem_committed hrows).2
      ⟨raw, hmem, not_collides_of_source hweltrade, rfl⟩, ?_, ?_⟩
    · unfold retimed
      rw [if_pos hisRaw]
      exact hweltrade
    · have hprovider' : row.provider = "weltrade" := by
        unfold ofProvider at hsource
        exact (of_decide_eq_true hsource).1
      unfold retimed CandleRow.key
      rw [if_pos hisRaw]
      simp [hprovider, hprovider', hsymbol, htimeframe, htime]

end

theorem nodup_archivedProvenance (symbols : List String) (db : CacheDatabase) :
    ((archivedProvenance symbols db).map ProvenanceRow.key).Nodup := by
  unfold archivedProvenance
  rw [map_map]
  refine List.Nodup.map_on (fun a ha b hb hab => ?_) ((List.Nodup.of_map _ db.provenance.keys).filter _)
  have ha' := mem_filter.1 ha
  have hb' := mem_filter.1 hb
  refine inj_on_of_nodup_map db.provenance.keys ha'.1 hb'.1 ?_
  have hproviders := (of_decide_eq_true ha'.2).1.trans (of_decide_eq_true hb'.2).1.symm
  simp only [Function.comp_apply, ProvenanceRow.key, Prod.mk.injEq] at hab ⊢
  exact ⟨hproviders, hab.2⟩

theorem migrated_of_rows {candles : CandleTable} {value : String}
    (hrows : candles.rows = ((withArchive symbols db).filter fun row => !collides symbols (withArchive symbols db) row).map
      (retimed symbols (-serverUtcOffsetSeconds))) :
    Migrated symbols db ⟨candles, db.provenance.insertAll (archivedProvenance symbols db),
      dictSet db.metadata marker value⟩ where
  archive row hrow := by
    have hprovider : row.provider = archiveProvider ∧ inPartition symbols row.symbol row.timeframe = true := by
      unfold ofProvider at hrow
      exact of_decide_eq_true hrow
    have hother : ofProvider "weltrade" symbols row = false := by
      unfold ofProvider
      rw [hprovider.1]
      exact decide_eq_false fun h => absurd h.1 (by decide)
    refine (mem_committed_of_other hrows hother).trans (mem_withArchive.trans (or_congr_right ?_))
    constructor
    · rintro ⟨old, hold, hsource, heq⟩
      unfold ofProvider at hsource
      exact ⟨old, hold, (of_decide_eq_true hsource).1, heq⟩
    · rintro ⟨old, hold, hsource, rfl⟩
      exact ⟨old, hold, decide_eq_true ⟨hsource, hprovider.2⟩, rfl⟩
  raw row hrow := mem_committed_of_raw hrows hrow
  foreign row hsource hforeign := mem_committed_of_foreign hrows hsource hforeign
  others row hsource harchive := by
    refine (mem_committed_of_other hrows hsource).trans (mem_withArchive.trans (or_iff_left ?_))
    rintro ⟨old, -, hold, rfl⟩
    unfold ofProvider at hold harchive
    exact of_decide_eq_false harchive ⟨rfl, (of_decide_eq_true hold).2⟩
  provenance row := KeyedRows.mem_insertAll (nodup_archivedProvenance symbols db)
  metadata key hkey := by
    show (dictSet db.metadata marker value).lookup key = _
    rw [lookup_dictSet, if_neg hkey]

theorem normalize_of_marker (hmarker : (db.metadata.lookup marker).isSome = true)
    {result : CacheDatabase × Option String × ℕ × ℕ} (h : normalize r symbols db = .ok result) :
    result = (db, none, 0, 0) := by
  cases normalize_committed h with
  | found => rfl
  | migrated hnone => exact absurd hmarker (by simp [hnone])

theorem unchanged_of_marker (hmarker : (db.metadata.lookup marker).isSome = true) (r : Run) (symbols : List String)
    (first : CacheDatabase) : (archiveAndNormalizeLegacyCache r symbols first db).1 = db := by
  unfold archiveAndNormalizeLegacyCache
  split
  · rfl
  · rfl
  · split
    · rfl
    · rename_i db' result hresult
      cases normalize_of_marker hmarker hresult
      rfl

/-- **How a run ends**: it raises and leaves the cache as it is, it finds the marker, or it is the first one and migrates. -/
inductive Ends (r : Run) (symbols : List String) (first db : CacheDatabase) :
    CacheDatabase × Except SqlFault (Option String × ℕ × ℕ) → Prop where
  | raised (e : SqlFault) : Ends r symbols first db (db, .error e)
  | found (h : (first.metadata.lookup marker).isSome = true ∨ (db.metadata.lookup marker).isSome = true) :
      Ends r symbols first db (db, .ok (none, 0, 0))
  | migrated {db' : CacheDatabase} (hfirst : (first.metadata.lookup marker).isSome = false)
      (h : (db.metadata.lookup marker).isSome = false) (hmigrated : Migrated symbols db db')
      (again : ∀ (r' : Run) (symbols' : List String) (first' : CacheDatabase),
        (archiveAndNormalizeLegacyCache r' symbols' first' db').1 = db') :
      Ends r symbols first db (db', .ok (some r.backupPath, (sourceRows symbols db).length,
        (db.candles.rows.filter (isRaw symbols)).length))

/-- The cache of `test_legacy_cache_is_archived_and_server_time_normalized_once`. -/
def legacyCandles : CandleTable where
  rows :=
    [⟨"weltrade", "FX Vol 20", "M1", 1767268800, ⟨.fin 100, .fin 102, .fin 99, .fin 101, some (.fin 12)⟩, "weltrade"⟩,
      ⟨"weltrade", "FX Vol 20", "M1", 1767279600, ⟨.fin 103, .fin 105, .fin 102, .fin 104, some (.fin 13)⟩, "weltrade"⟩,
      ⟨"weltrade", "FX Vol 20", "M1", 1767258000, ⟨.fin 100, .fin 102, .fin 99, .fin 101, some (.fin 12)⟩, "mt5"⟩]
  keys := by decide
  real := by decide

def plainRun : Run := ⟨"history", ".db", "20260101T120000Z", fun _ => none, id, fun _ => .refl _⟩

example : ((archiveAndNormalizeLegacyCache plainRun ["FX Vol 20"] ⟨legacyCandles, ⟨[], by decide⟩, []⟩
    ⟨legacyCandles, ⟨[], by decide⟩, []⟩).1.candles.rows.map fun row => (row.provider, row.time, row.source)) =
    [("weltrade", 1767258000, "weltrade"), ("weltrade", 1767268800, "weltrade"),
      (archiveProvider, 1767268800, "weltrade"), (archiveProvider, 1767279600, "weltrade"),
      (archiveProvider, 1767258000, "mt5")] := by decide +kernel

end LegacyCache
end Jqe
