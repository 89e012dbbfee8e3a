import Jqe.CandleStore
import Jqe.KeyedRows
/-!
# LegacyCache — the cache migration of `tools/refresh_syntx_cache.py`

`archive_and_normalize_legacy_cache` over the tables of the cache.  Any statement may raise, and what was written is then
rolled back; an `UPDATE` visits its rows in any order.
-/
namespace Jqe

open CandleStore

namespace CandleTable

def insertOrIgnore (t : CandleTable) (row : CandleRow) : CandleTable := (t.insert? row).getD t

def deleteWhere (t : CandleTable) (p : CandleRow → Bool) : CandleTable where
  rows := t.rows.filter fun row => !p row
  keys := t.keys.sublist (List.filter_sublist.map _)
  real row hrow := t.real row (List.mem_of_mem_filter hrow)

/-- `UPDATE candles SET time=time+?` of the rows in `visited`; `none` where a key is taken. -/
def moveTimes? (t : CandleTable) (delta : ℤ) (visited : List CandleRow) (hvisited : (visited.map CandleRow.key).Nodup)
    (hsub : ∀ row ∈ visited, row ∈ t.rows) : Option CandleTable :=
  match h : KeyedRows.moveAll? CandleRow.key (fun row => { row with time := row.time + delta }) t.rows visited with
  | none => none
  | some rows => some {
      rows := rows
      keys := (KeyedRows.moveAll?_eq t.keys hvisited hsub h).2
      real := by
        obtain ⟨rfl, -⟩ := KeyedRows.moveAll?_eq t.keys hvisited hsub h
        intro row hrow
        obtain ⟨old, hold, rfl⟩ := List.mem_map.1 hrow
        split
        · exact t.real old hold
        · exact t.real old hold }

end CandleTable

structure ProvenanceRow where
  provider : String
  symbol : String
  timeframe : String
  source : String
  providerSymbol : String
  volumeType : String
  retrievedAt : String
  deriving DecidableEq

def ProvenanceRow.key (row : ProvenanceRow) : String × String × String := (row.provider, row.symbol, row.timeframe)

structure ProvenanceTable where
  rows : List ProvenanceRow
  keys : (rows.map ProvenanceRow.key).Nodup

def ProvenanceTable.insertAll (t : ProvenanceTable) (new : List ProvenanceRow) : ProvenanceTable where
  rows := KeyedRows.insertAll ProvenanceRow.key t.rows new
  keys := KeyedRows.nodup_insertAll t.keys new

structure CacheDatabase where
  candles : CandleTable
  provenance : ProvenanceTable
  metadata : List (String × String)

namespace LegacyCache

def marker : String := "weltrade_syntx_utc3_normalization_v1"

def archiveProvider : String := "weltrade_legacy_raw_server_time"

def timeframeLabels : List String := ["M1", "M5", "H1"]

def serverUtcOffsetSeconds : ℤ := 3 * 3600

def temporaryOffset : ℤ := 1000000000000

def inPartition (symbols : List String) (symbol timeframe : String) : Bool :=
  symbol ∈ symbols ∧ timeframe ∈ timeframeLabels

def ofProvider (provider : String) (symbols : List String) (row : CandleRow) : Bool :=
  row.provider = provider ∧ inPartition symbols row.symbol row.timeframe

def isRaw (symbols : List String) (row : CandleRow) : Bool :=
  ofProvider "weltrade" symbols row && row.source = "weltrade"

def collides (symbols : List String) (rows : List CandleRow) (row : CandleRow) : Bool :=
  ofProvider "weltrade" symbols row && row.source ≠ "weltrade" &&
    rows.any fun raw => raw.provider = "weltrade" ∧ raw.source = "weltrade" ∧ raw.symbol = row.symbol ∧
      raw.timeframe = row.timeframe ∧ raw.time = row.time + serverUtcOffsetSeconds

inductive Statement where
  | firstCheck
  | backup
  | connect
  | busyTimeout
  | secondCheck
  | countSource
  | countArchive
  | archive
  | recountArchive
  | archiveProvenance
  | deleteCollisions
  | lift
  | lower
  | mark
  | commit
  deriving DecidableEq

/-- **What a run meets**: the names of its files, the statements that raise, and the order in which an `UPDATE` visits its
rows. -/
structure Run where
  stem : String
  suffix : String
  stamp : String
  fault : Statement → Option SqlFault
  visit : List CandleRow → List CandleRow
  visit_perm : ∀ rows, (visit rows).Perm rows

namespace Run

variable (r : Run)

def backupPath : String := r.stem ++ ".pre-utc-fix-" ++ r.stamp ++ r.suffix

def execute (s : Statement) : Except SqlFault Unit := statement (r.fault s)

/-- An `UPDATE` of the times of the raw rows; a key that is taken is an `IntegrityError`. -/
def moveRaw (symbols : List String) (delta : ℤ) (t : CandleTable) : Except SqlFault CandleTable :=
  match t.moveTimes? delta (r.visit (t.rows.filter (isRaw symbols)))
      (((r.visit_perm _).map _).nodup_iff.2 (t.keys.sublist (List.filter_sublist.map _)))
      (fun _ hrow => List.mem_of_mem_filter ((r.visit_perm _).mem_iff.1 hrow)) with
  | some t => .ok t
  | none => .error .databaseError

end Run

def archived (row : CandleRow) : CandleRow := { row with provider := archiveProvider }

def archiveMismatch : SqlFault :=
  .other (.exception "Legacy cache archive count did not match the source partitions")

/-- The statements of the transaction, from the second marker check on: the database it commits, if any, and what is
returned. -/
def normalize (r : Run) (symbols : List String) (db : CacheDatabase) :
    Except SqlFault (CacheDatabase × Option String × ℕ × ℕ) := do
  r.execute .secondCheck
  if (db.metadata.lookup marker).isSome then
    return (db, none, 0, 0)
  else
    r.execute .countSource
    let source := db.candles.rows.filter (ofProvider "weltrade" symbols)
    r.execute .countArchive
    let archivedBefore := (db.candles.rows.filter (ofProvider archiveProvider symbols)).length
    r.execute .archive
    let candles := (source.map archived).foldl CandleTable.insertOrIgnore db.candles
    r.execute .recountArchive
    let archivedAfter := (candles.rows.filter (ofProvider archiveProvider symbols)).length
    if (archivedAfter : ℤ) - archivedBefore ≠ source.length then
      throw archiveMismatch
    else
      r.execute .archiveProvenance
      let provenance := db.provenance.insertAll ((db.provenance.rows.filter fun row =>
        row.provider = "weltrade" ∧ inPartition symbols row.symbol row.timeframe).map fun row =>
          { row with provider := archiveProvider })
      r.execute .deleteCollisions
      let candles := candles.deleteWhere (collides symbols candles.rows)
      r.execute .lift
      let candles ← r.moveRaw symbols temporaryOffset candles
      r.execute .lower
      let shifted := (candles.rows.filter (isRaw symbols)).length
      let candles ← r.moveRaw symbols (-(temporaryOffset + serverUtcOffsetSeconds)) candles
      r.execute .mark
      let metadata := dictSet db.metadata marker
        s!"offset_seconds={serverUtcOffsetSeconds}; archived_rows={source.length}"
      r.execute .commit
      return (⟨candles, provenance, metadata⟩, some r.backupPath, source.length, shifted)

/-- What the function does up to its transaction: whether the first check finds the marker. -/
def prepared (r : Run) (db : CacheDatabase) : Except SqlFault Bool := do
  r.execute .firstCheck
  if (db.metadata.lookup marker).isSome then
    return true
  else
    r.execute .backup
    r.execute .connect
    r.execute .busyTimeout
    return false

/-- **`archive_and_normalize_legacy_cache`**, with the database after it: `first` is what the first check reads, `db` what
the transaction finds, where another process may have migrated in between. -/
def archiveAndNormalizeLegacyCache (r : Run) (symbols : List String) (first db : CacheDatabase) :
    CacheDatabase × Except SqlFault (Option String × ℕ × ℕ) :=
  match prepared r first with
  | .error e => (db, .error e)
  | .ok true => (db, .ok (none, 0, 0))
  | .ok false =>
    match normalize r symbols db with
    | .error e => (db, .error e)
    | .ok (db', result) => (db', .ok result)

end LegacyCache
end Jqe
