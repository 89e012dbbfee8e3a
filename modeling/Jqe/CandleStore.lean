import Jqe.Dataset
/-!
# CandleStore — the local candle cache (`data/storage.py`)

`save_candles` writes in one transaction: a pass over the batch looks up each new key, and what is not stored yet is
inserted after it.  SQLite binds a NaN as NULL.  A statement that raises rolls everything back.
-/
namespace Jqe

open Dataset (Candle)

structure Ohlcv where
  open_ : PyFloat
  high : PyFloat
  low : PyFloat
  close : PyFloat
  volume : Option PyFloat
  deriving DecidableEq

/-- Values that SQLite holds: no NaN. -/
def Ohlcv.Real (v : Ohlcv) : Prop :=
  (v.open_ ≠ .nan ∧ v.high ≠ .nan ∧ v.low ≠ .nan ∧ v.close ≠ .nan) ∧ v.volume ≠ some .nan

instance (v : Ohlcv) : Decidable v.Real := inferInstanceAs (Decidable (_ ∧ _))

/-- The values as they are bound: a volume that is NaN becomes NULL. -/
def Ohlcv.bound (v : Ohlcv) : Ohlcv := { v with volume := if v.volume = some .nan then none else v.volume }

def Dataset.Candle.ohlcv (c : Candle) : Ohlcv := ⟨c.open_, c.high, c.low, c.close, c.volume⟩

/-- `(provider, symbol, timeframe, time)`. -/
abbrev CandleKey := String × String × String × ℤ

instance : LawfulBEq CandleKey := inferInstance

structure CandleRow where
  provider : String
  symbol : String
  timeframe : String
  time : ℤ
  values : Ohlcv
  source : String
  deriving DecidableEq

def CandleRow.key (row : CandleRow) : CandleKey := (row.provider, row.symbol, row.timeframe, row.time)

def CandleRow.bound (row : CandleRow) : CandleRow := { row with values := row.values.bound }

@[simp] theorem CandleRow.key_bound (row : CandleRow) : row.bound.key = row.key := rfl

structure CandleTable where
  rows : List CandleRow
  keys : (rows.map CandleRow.key).Nodup
  real : ∀ row ∈ rows, row.values.Real

namespace CandleTable

/-- `SELECT … WHERE provider=? AND symbol=? AND timeframe=? AND time=?`. -/
def find? (t : CandleTable) (key : CandleKey) : Option CandleRow := t.rows.find? fun row => row.key = key

theorem find?_eq_some {t : CandleTable} {key : CandleKey} {row : CandleRow} :
    t.find? key = some row ↔ row ∈ t.rows ∧ row.key = key := by
  unfold find?
  constructor
  · intro h
    exact ⟨List.mem_of_find?_eq_some h, by simpa using List.find?_some h⟩
  · rintro ⟨hmem, rfl⟩
    cases h : t.rows.find? fun r => decide (r.key = row.key) with
    | none => exact absurd (decide_eq_true rfl) (List.find?_eq_none.1 h row hmem)
    | some other =>
      have hother : other.key = row.key := by simpa using List.find?_some h
      rw [List.inj_on_of_nodup_map t.keys (List.mem_of_find?_eq_some h) hmem hother]

theorem find?_eq_none {t : CandleTable} {key : CandleKey} : t.find? key = none ↔ key ∉ t.rows.map CandleRow.key := by
  unfold find?
  rw [List.find?_eq_none, List.mem_map]
  constructor
  · rintro h ⟨row, hmem, hkey⟩
    exact h row hmem (decide_eq_true hkey)
  · intro h row hmem hkey
    exact h ⟨row, hmem, of_decide_eq_true hkey⟩

/-- `INSERT`: refused for a NULL price or a key that is there. -/
def insert? (t : CandleTable) (row : CandleRow) : Option CandleTable :=
  if h : row.values.bound.Real ∧ row.key ∉ t.rows.map CandleRow.key then
    some {
      rows := t.rows ++ [row.bound]
      keys := by
        rw [List.map_append, List.map_singleton, List.nodup_append]
        refine ⟨t.keys, List.nodup_singleton _, fun a ha b hb => ?_⟩
        rw [List.mem_singleton.1 hb, CandleRow.key_bound]
        rintro rfl
        exact h.2 ha
      real := by
        intro r hr
        rcases List.mem_append.1 hr with hold | hnew
        · exact t.real r hold
        · rw [List.mem_singleton.1 hnew]
          exact h.1 }
  else none

/-- `UPDATE` of the row with the key: refused for a NULL price. -/
def update? (t : CandleTable) (row : CandleRow) : Option CandleTable :=
  if h : row.values.bound.Real then
    some {
      rows := t.rows.map fun r => if r.key = row.key then row.bound else r
      keys := by
        have hkeys : (t.rows.map fun r => if r.key = row.key then row.bound else r).map CandleRow.key =
            t.rows.map CandleRow.key := by
          rw [List.map_map]
          refine List.map_congr_left fun r _ => ?_
          by_cases hkey : r.key = row.key
          · rw [Function.comp_apply, if_pos hkey, hkey, CandleRow.key_bound]
          · rw [Function.comp_apply, if_neg hkey]
        rw [hkeys]
        exact t.keys
      real := by
        intro r hr
        obtain ⟨old, hold, rfl⟩ := List.mem_map.1 hr
        by_cases hkey : old.key = row.key
        · rw [if_pos hkey]
          exact h
        · rw [if_neg hkey]
          exact t.real old hold }
  else none

end CandleTable

namespace CandleStore

section

variable [Dataset.Host]

def second (time : PyDatetime) : ℤ := time.utc.tdiv 1000000

end

/-- What a statement raises: a `sqlite3.DatabaseError`, or something else. -/
inductive SqlFault where
  | databaseError
  | other (e : PyExc)
  deriving DecidableEq

/-- The statements of a call that raise, by the key they are about. -/
structure SqlFaults where
  connect : Option SqlFault := none
  select : CandleKey → Option SqlFault := fun _ => none
  update : CandleKey → Option SqlFault := fun _ => none
  insert : Option SqlFault := none
  commit : Option SqlFault := none

structure Pass where
  table : CandleTable
  pending : List CandleRow
  seenKeys : List CandleKey
  written : ℕ

def conflictError : PyExc := .exception "Conflicting duplicate candle"

def saveRow (strictConflicts replaceConflicts : Bool) (f : SqlFaults) (st : Pass) (row : CandleRow) :
    Except SqlFault Pass :=
  if row.key ∈ st.seenKeys then .ok st
  else
    let st := { st with seenKeys := row.key :: st.seenKeys }
    match f.select row.key with
    | some fault => .error fault
    | none =>
      match st.table.find? row.key with
      | none => .ok { st with pending := st.pending ++ [row] }
      | some existing =>
        if existing.values = row.values then .ok st
        else if strictConflicts && !replaceConflicts then .error (.other conflictError)
        else
          match f.update row.key, st.table.update? row with
          | some fault, _ => .error fault
          | none, none => .error .databaseError
          | none, some table => .ok { st with table := table, written := st.written + 1 }

def statement (fault : Option SqlFault) : Except SqlFault Unit :=
  match fault with
  | some fault => .error fault
  | none => .ok ()

/-- `executemany` of the `INSERT`, if there is anything to insert. -/
def insertPending (f : SqlFaults) (table : CandleTable) (pending : List CandleRow) : Except SqlFault CandleTable :=
  if pending = [] then .ok table
  else
    match f.insert, pending.foldlM CandleTable.insert? table with
    | some fault, _ => .error fault
    | none, some table => .ok table
    | none, none => .error .databaseError

def saveRows (table : CandleTable) (rows : List CandleRow) (strictConflicts replaceConflicts : Bool) (f : SqlFaults) :
    Except SqlFault (CandleTable × ℕ) := do
  statement f.connect
  let st ← rows.foldlM (saveRow strictConflicts replaceConflicts f) ⟨table, [], [], 0⟩
  let table ← insertPending f st.table st.pending
  statement f.commit
  return (table, st.written + st.pending.length)

section

variable [Dataset.Host]

def toRow (provider symbol : String) (timeframe : Timeframe) (c : Candle) : CandleRow :=
  ⟨provider, symbol, timeframe.value, second c.time, c.ohlcv, c.source⟩

def providerOf (provider : Option String) (c : Candle) : String :=
  match provider with
  | some name => if name = "" then c.source else name
  | none => c.source

/-- **`save_candles`**, with the table after it. -/
def saveCandles (table : CandleTable) (symbol : String) (timeframe : Timeframe) (candles : List Candle)
    (provider : Option String) (replaceConflicts : Bool) (f : SqlFaults) : CandleTable × Except PyExc ℕ :=
  match candles with
  | [] => (table, .ok 0)
  | head :: rest =>
    let resolved := providerOf provider head
    if rest.any fun c => providerOf provider c ≠ resolved then
      (table, .error (.exception "Candle batch cannot mix providers"))
    else if blank resolved then (table, .error (.exception "Candle provider identity is required"))
    else
      match saveRows table ((head :: rest).map (toRow resolved symbol timeframe)) provider.isSome replaceConflicts f with
      | .ok (table', written) => (table', .ok written)
      | .error .databaseError => (table, .error (.exception "Failed to write candles to cache"))
      | .error (.other e) => (table, .error e)

end

/-! ### What is read back -/

/-- **SQLite's order**: rows of one time come in any order. -/
class SqlOrder where
  ascending : List CandleRow → List CandleRow
  descending : List CandleRow → List CandleRow
  ascending_perm : ∀ rows, (ascending rows).Perm rows
  descending_perm : ∀ rows, (descending rows).Perm rows
  ascending_sorted : ∀ rows, (ascending rows).Pairwise fun a b => a.time ≤ b.time
  descending_sorted : ∀ rows, (descending rows).Pairwise fun a b => b.time ≤ a.time

def rowToCandle (row : CandleRow) : Candle :=
  ⟨.aware (row.time * 1000000), row.values.open_, row.values.high, row.values.low, row.values.close, row.values.volume,
    row.source⟩

/-- The rows of a symbol and a timeframe, of one provider if it is given. -/
def partition (table : CandleTable) (symbol : String) (timeframe : Timeframe) (provider : Option String) :
    List CandleRow :=
  table.rows.filter fun row => row.symbol = symbol ∧ row.timeframe = timeframe.value ∧
    provider.all fun name => row.provider = name

section

variable [Dataset.Host] [SqlOrder]

def loadRows (table : CandleTable) (symbol : String) (timeframe : Timeframe) (start stop : Option PyDatetime)
    (provider : Option String) : List CandleRow :=
  SqlOrder.ascending ((partition table symbol timeframe provider).filter fun row =>
    (start.all fun time => second time ≤ row.time) && stop.all fun time => row.time ≤ second time)

def loadCandles (table : CandleTable) (symbol : String) (timeframe : Timeframe) (start stop : Option PyDatetime)
    (provider : Option String) : List Candle :=
  (loadRows table symbol timeframe start stop provider).map rowToCandle

omit [Dataset.Host] in
/-- The rows of `load_latest`; a negative limit is none. -/
def latestRows (table : CandleTable) (symbol : String) (timeframe : Timeframe) (count : ℤ) (provider : Option String) :
    List CandleRow :=
  let rows := SqlOrder.descending (partition table symbol timeframe provider)
  (if count < 0 then rows else rows.take count.toNat).reverse

end

end CandleStore
end Jqe
