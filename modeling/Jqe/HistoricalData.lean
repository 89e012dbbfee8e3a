import Jqe.Raising
import Jqe.CandleStoreSound
/-!
# HistoricalData — candles from the cache, downloaded where they are missing (`data/historical.py`)

`get_candles` brings the cache up to date, fills its gaps and serves the newest candles; every step reads and writes the
rows of a symbol and a timeframe without naming a provider.  The gateway answers call by call, as it likes.
-/
namespace Jqe

open Dataset (Candle)
open CandleStore

namespace CandleStore

def getCoverage (table : CandleTable) (symbol : String) (timeframe : Timeframe) (provider : Option String) :
    Option (ℤ × ℤ) :=
  let times := (partition table symbol timeframe provider).map CandleRow.time
  match times.min?, times.max? with
  | some first, some last => some (first, last)
  | _, _ => none

def countRows (table : CandleTable) (symbol : String) (timeframe : Timeframe) (provider : Option String) : ℕ :=
  (partition table symbol timeframe provider).length

/-- **`find_gaps`**: intervals of more than one and a half steps. -/
def findGaps (stepSeconds : ℤ) : List CandleRow → List (ℤ × ℤ)
  | previous :: current :: rows =>
    if 3 * stepSeconds < 2 * (current.time - previous.time) then
      (previous.time, current.time) :: findGaps stepSeconds (current :: rows)
    else findGaps stepSeconds (current :: rows)
  | _ => []

end CandleStore

namespace HistoricalData

inductive Request where
  | candles (count : ℤ) (stop : Option ℤ)
  | candlesRange (start stop : ℤ) (count : ℤ)
  deriving DecidableEq

inductive GatewayFault where
  | marketDataError (message : String)
  | other (e : PyExc)
  deriving DecidableEq

def GatewayFault.exc : GatewayFault → PyExc
  | .marketDataError message => .exception message
  | .other e => e

structure Gateway where
  ranged : Bool
  answer : ℕ → Request → Except GatewayFault (List Candle)

structure Service where
  table : CandleTable
  calls : ℕ

def relevant (start stop : ℤ) : List Candle → Except PyExc (List Candle)
  | [] => .ok []
  | c :: fetched =>
    match c.time, relevant start stop fetched with
    | .naive _, _ => .error (.exception "can't compare offset-naive and offset-aware datetimes")
    | .aware _, .error e => .error e
    | .aware time, .ok rest =>
      if start * 1000000 < time ∧ time < stop * 1000000 then .ok (c :: rest) else .ok rest

abbrev Act := EStateM PyExc Service

def ask (gateway : Gateway) (request : Request) : Act (Except GatewayFault (List Candle)) := fun s =>
  .ok (gateway.answer s.calls request) { s with calls := s.calls + 1 }

section

variable [Dataset.Host] (gateway : Gateway) (sql : ℕ → SqlFaults) (symbol : String) (timeframe : Timeframe)

omit gateway in
def save (candles : List Candle) : Act ℕ := fun s =>
  match saveCandles s.table symbol timeframe candles none false (sql s.calls) with
  | (table, .ok written) => .ok written { s with table := table }
  | (table, .error e) => .error e { s with table := table }

def download (count : ℤ) : Act ℕ := do
  match ← ask gateway (.candles count none) with
  | .error fault => throw fault.exc
  | .ok candles => save sql symbol timeframe candles

/-- **`_sync_recent`**, at a moment in microseconds. -/
def syncRecent (now count : ℤ) : Act ℕ := do
  let s ← get
  match getCoverage s.table symbol timeframe none with
  | none => download gateway sql symbol timeframe count
  | some (_, latest) =>
    let staleness := now - latest * 1000000
    let step := timeframe.seconds * 1000000
    let downloaded ←
      (if step < staleness then download gateway sql symbol timeframe (staleness / step + 1) else pure 0)
    let s ← get
    let more ←
      (if countRows s.table symbol timeframe none < count then download gateway sql symbol timeframe count else pure 0)
    return downloaded + more

/-- One gap of `fill_gaps`, with the gaps filled and the candles downloaded. -/
def fillGap (gap : ℤ × ℤ) : Act (ℕ × ℕ) := do
  let needed := max 1 ((gap.2 - gap.1) / timeframe.seconds + 2)
  let request := if gateway.ranged then Request.candlesRange gap.1 gap.2 needed else .candles needed (some gap.2)
  match ← ask gateway request with
  | .error (.marketDataError _) => return (0, 0)
  | .error (.other e) => throw e
  | .ok fetched =>
    let kept ← Raising.answered (relevant gap.1 gap.2 fetched)
    if kept = [] then return (0, 0)
    else
      let _ ← save sql symbol timeframe kept
      return (1, kept.length)

def fillEach : List (ℤ × ℤ) → Act (ℕ × ℕ)
  | [] => return (0, 0)
  | gap :: gaps => do
    let (filled, downloaded) ← fillGap gateway sql symbol timeframe gap
    let (more, moreDownloaded) ← fillEach gaps
    return (filled + more, downloaded + moreDownloaded)

variable [SqlOrder]

omit gateway sql in
def workingRows (table : CandleTable) : List CandleRow := loadRows table symbol timeframe none none none

/-- **`fill_gaps`**: the gaps filled, and the candles downloaded. -/
def fillGaps : Act (ℕ × ℕ) := do
  let s ← get
  let rows := workingRows symbol timeframe s.table
  if rows.length < 2 then return (0, 0)
  else fillEach gateway sql symbol timeframe (findGaps timeframe.seconds rows)

def getCandleRows (now count : ℤ) (fill : Bool) : Act (List CandleRow) := do
  let _ ← syncRecent gateway sql symbol timeframe now count
  let _ ← (if fill then fillGaps gateway sql symbol timeframe else pure (0, 0))
  let s ← get
  return latestRows s.table symbol timeframe count none

def getCandles (now count : ℤ) (fill : Bool) : Act (List Candle) := do
  let rows ← getCandleRows gateway sql symbol timeframe now count fill
  return rows.map rowToCandle

end

end HistoricalData
end Jqe

/-! ## When a served series is of one provider -/

namespace Jqe

open List
open Dataset (Candle)

namespace CandleStore

/-! ### The keys after a save -/

def Within (keys : Set CandleKey) (table : CandleTable) : Prop := ∀ row ∈ table.rows, row.key ∈ keys

variable {table : CandleTable} {strictConflicts replaceConflicts : Bool} {keys : Set CandleKey}

theorem Within.insert? {t : CandleTable} {row : CandleRow} (h : Within keys table)
    (hrow : row.key ∈ keys) (ht : table.insert? row = some t) : Within keys t := by
  unfold CandleTable.insert? at ht
  split at ht
  · cases ht
    intro r hr
    rcases mem_append.1 hr with hold | hnew
    · exact h r hold
    · rw [mem_singleton.1 hnew]
      exact hrow
  · cases ht

theorem Within.update? {t : CandleTable} {row : CandleRow} (h : Within keys table)
    (ht : table.update? row = some t) : Within keys t := by
  unfold CandleTable.update? at ht
  split at ht
  · cases ht
    intro r hr
    obtain ⟨old, hold, rfl⟩ := mem_map.1 hr
    have hkey := h old hold
    split
    · rename_i heq
      rw [CandleRow.key_bound, ← heq]
      exact hkey
    · exact hkey
  · cases ht

theorem Within.insertAll {rows : List CandleRow} : ∀ {table t : CandleTable},
    Within keys table → (∀ row ∈ rows, row.key ∈ keys) → rows.foldlM CandleTable.insert? table = some t →
    Within keys t := by
  induction rows with
  | nil =>
    intro table t h _ ht
    cases ht
    exact h
  | cons r rows ih =>
    intro table t h hrows ht
    rw [foldlM_cons] at ht
    obtain ⟨table', htable, ht⟩ := Option.bind_eq_some_iff.1 ht
    exact ih (h.insert? (hrows r mem_cons_self) htable) (fun row hrow => hrows row (mem_cons_of_mem r hrow)) ht

def Pass.Within (keys : Set CandleKey) (st : Pass) : Prop :=
  CandleStore.Within keys st.table ∧ ∀ row ∈ st.pending, row.key ∈ keys

theorem Pass.Within.saveRow {f : SqlFaults} {st st' : Pass} {row : CandleRow}
    (h : st.Within keys) (hrow : row.key ∈ keys)
    (hsave : CandleStore.saveRow strictConflicts replaceConflicts f st row = .ok st') : st'.Within keys := by
  unfold CandleStore.saveRow at hsave
  split at hsave
  · cases hsave
    exact h
  · dsimp only at hsave
    cases hselect : f.select row.key with
    | some fault =>
      rw [hselect] at hsave
      cases hsave
    | none =>
    rw [hselect] at hsave
    dsimp only at hsave
    cases hfind : st.table.find? row.key with
    | none =>
      rw [hfind] at hsave
      cases hsave
      refine ⟨h.1, fun r hr => ?_⟩
      rcases mem_append.1 hr with hold | hnew
      · exact h.2 r hold
      · rw [mem_singleton.1 hnew]
        exact hrow
    | some existing =>
    rw [hfind] at hsave
    dsimp only at hsave
    split at hsave
    · cases hsave
      exact h
    split at hsave
    · cases hsave
    -- a conflict that is replaced
    cases hupdate : f.update row.key with
    | some fault =>
      rw [hupdate] at hsave
      cases hsave
    | none =>
    rw [hupdate] at hsave
    cases htable : st.table.update? row with
    | none =>
      rw [htable] at hsave
      cases hsave
    | some table =>
      rw [htable] at hsave
      cases hsave
      exact ⟨h.1.update? htable, h.2⟩

theorem Pass.Within.foldlM {f : SqlFaults} {rows : List CandleRow} :
    ∀ {st st' : Pass}, st.Within keys → (∀ row ∈ rows, row.key ∈ keys) →
    rows.foldlM (CandleStore.saveRow strictConflicts replaceConflicts f) st = .ok st' → st'.Within keys := by
  induction rows with
  | nil =>
    intro st st' h _ hfold
    cases hfold
    exact h
  | cons r rows ih =>
    intro st st' h hrows hfold
    rw [foldlM_cons] at hfold
    obtain ⟨mid, hmid, hfold⟩ := bind_ok hfold
    exact ih (h.saveRow (hrows r mem_cons_self) hmid) (fun row hrow => hrows row (mem_cons_of_mem r hrow)) hfold

theorem Within.saveRows {t : CandleTable} {rows : List CandleRow} {f : SqlFaults} {written : ℕ}
    (h : Within keys table) (hrows : ∀ row ∈ rows, row.key ∈ keys)
    (hsave : CandleStore.saveRows table rows strictConflicts replaceConflicts f = .ok (t, written)) : Within keys t := by
  obtain ⟨⟨⟩, -, hsave⟩ := bind_ok hsave
  obtain ⟨st, hpass, hsave⟩ := bind_ok hsave
  obtain ⟨t', hinsert, hsave⟩ := bind_ok hsave
  obtain ⟨⟨⟩, -, hsave⟩ := bind_ok hsave
  cases hsave
  obtain ⟨htable, hpending⟩ := Pass.Within.foldlM ⟨h, fun row hrow => absurd hrow not_mem_nil⟩ hrows hpass
  unfold insertPending at hinsert
  split at hinsert
  · cases hinsert
    exact htable
  · cases hfault : f.insert with
    | some fault =>
      rw [hfault] at hinsert
      cases hinsert
    | none =>
    rw [hfault] at hinsert
    cases hall : st.pending.foldlM CandleTable.insert? st.table with
    | none =>
      rw [hall] at hinsert
      cases hinsert
    | some t'' =>
      rw [hall] at hinsert
      cases hinsert
      exact htable.insertAll hpending hall

/-! ### One provider -/

/-- The rows of a symbol and a timeframe are of one provider. -/
def OnlyFrom (provider symbol : String) (timeframe : Timeframe) (table : CandleTable) : Prop :=
  ∀ row ∈ partition table symbol timeframe none, row.provider = provider

/-- **A series that is not mixed**: strictly increasing times, and one provider. -/
def Unmixed (rows : List CandleRow) : Prop :=
  (rows.Pairwise fun a b => a.time < b.time) ∧ ∃ provider, ∀ row ∈ rows, row.provider = provider

theorem mem_partition_none {symbol : String} {timeframe : Timeframe} {row : CandleRow} :
    row ∈ partition table symbol timeframe none ↔
      row ∈ table.rows ∧ row.symbol = symbol ∧ row.timeframe = timeframe.value := by
  unfold partition
  rw [mem_filter, decide_eq_true_eq, Option.all_none]
  simp

section

variable {provider symbol : String} {timeframe : Timeframe} {table : CandleTable}

theorem OnlyFrom.nodup_times (h : OnlyFrom provider symbol timeframe table) :
    ((partition table symbol timeframe none).map CandleRow.time).Nodup := by
  have hsub : (partition table symbol timeframe none).Sublist table.rows := filter_sublist
  have hkeys : ((partition table symbol timeframe none).map CandleRow.key).Nodup := table.keys.sublist (hsub.map _)
  have heq : (partition table symbol timeframe none).map CandleRow.key =
      ((partition table symbol timeframe none).map CandleRow.time).map fun time =>
        (provider, symbol, timeframe.value, time) := by
    rw [map_map]
    refine map_congr_left fun row hrow => ?_
    obtain ⟨-, hsymbol, htimeframe⟩ := mem_partition_none.1 hrow
    rw [CandleRow.key, h row hrow, hsymbol, htimeframe]
    rfl
  rw [heq] at hkeys
  exact hkeys.of_map _

/-- **Sorted rows of one provider are a series that is not mixed.** -/
theorem OnlyFrom.unmixed (h : OnlyFrom provider symbol timeframe table) {rows all : List CandleRow}
    (hsub : rows.Sublist all) (hperm : all.Perm (partition table symbol timeframe none))
    (hsorted : rows.Pairwise fun a b => a.time ≤ b.time) : Unmixed rows := by
  have hnodup : (rows.map CandleRow.time).Nodup :=
    ((hperm.map CandleRow.time).nodup_iff.2 h.nodup_times).sublist (hsub.map _)
  refine ⟨?_, provider, fun row hrow => h row (hperm.mem_iff.1 (hsub.subset hrow))⟩
  have hne : rows.Pairwise fun a b => a.time ≠ b.time := pairwise_map.1 hnodup
  exact (hsorted.and hne).imp fun hab => lt_of_le_of_ne hab.1 hab.2

theorem partition_perm [Dataset.Host] [SqlOrder] :
    (loadRows table symbol timeframe none none none).Perm (partition table symbol timeframe none) := by
  unfold loadRows
  exact (SqlOrder.ascending_perm _).trans (List.Perm.of_eq (filter_eq_self.2 fun _ _ => rfl))

theorem OnlyFrom.working [Dataset.Host] [SqlOrder] (h : OnlyFrom provider symbol timeframe table) :
    Unmixed (loadRows table symbol timeframe none none none) :=
  h.unmixed (List.Sublist.refl _) partition_perm (SqlOrder.ascending_sorted _)

theorem OnlyFrom.latest [SqlOrder] (h : OnlyFrom provider symbol timeframe table) (count : ℤ) :
    Unmixed (latestRows table symbol timeframe count none) := by
  have hsorted := SqlOrder.descending_sorted (partition table symbol timeframe none)
  have hperm : (SqlOrder.descending (partition table symbol timeframe none)).reverse.Perm
      (partition table symbol timeframe none) :=
    (reverse_perm _).trans (SqlOrder.descending_perm _)
  unfold latestRows
  dsimp only
  split
  · exact h.unmixed (List.Sublist.refl _) hperm (pairwise_reverse.2 hsorted)
  · exact h.unmixed (take_sublist _ _).reverse hperm
      (pairwise_reverse.2 (hsorted.sublist (take_sublist _ _)))

/-- **A save under the candles' sources keeps a cache of one provider**, if it is theirs. -/
theorem OnlyFrom.saveCandles [Dataset.Host] {candles : List Candle} (h : OnlyFrom provider symbol timeframe table)
    (hsource : ∀ c ∈ candles, c.source = provider) (f : SqlFaults) :
    OnlyFrom provider symbol timeframe (CandleStore.saveCandles table symbol timeframe candles none false f).1 := by
  let keys : Set CandleKey := {key | key ∈ table.rows.map CandleRow.key ∨ key.1 = provider}
  have hwithin : ∀ t, Within keys t → OnlyFrom provider symbol timeframe t := by
    intro t ht row hrow
    obtain ⟨hmem, hsymbol, htimeframe⟩ := mem_partition_none.1 hrow
    rcases ht row hmem with hold | hnew
    · obtain ⟨old, hold, hkey⟩ := mem_map.1 hold
      simp only [CandleRow.key, Prod.mk.injEq] at hkey
      obtain ⟨hprovider, hsymbol', htimeframe', -⟩ := hkey
      rw [← hprovider]
      exact h old (mem_partition_none.2 ⟨hold, hsymbol'.trans hsymbol, htimeframe'.trans htimeframe⟩)
    · exact hnew
  unfold CandleStore.saveCandles
  cases candles with
  | nil => exact h
  | cons head rest =>
    dsimp only
    split
    · exact h
    split
    · exact h
    cases hsave : saveRows table ((head :: rest).map (toRow (providerOf none head) symbol timeframe))
      (none : Option String).isSome false f with
    | error fault => cases fault <;> exact h
    | ok saved =>
      refine hwithin saved.1 (Within.saveRows (fun row hrow => .inl (mem_map_of_mem hrow)) (fun row hrow => ?_) hsave)
      obtain ⟨c, -, rfl⟩ := mem_map.1 hrow
      exact .inr (hsource head mem_cons_self)

end

end CandleStore

namespace HistoricalData

open CandleStore
open Raising (Triple)

/-! ### The service keeps one provider -/

def Gateway.From (gateway : Gateway) (provider : String) : Prop :=
  ∀ n request candles, gateway.answer n request = .ok candles → ∀ c ∈ candles, c.source = provider

theorem relevant_subset {start stop : ℤ} : ∀ {fetched kept : List Candle}, relevant start stop fetched = .ok kept →
    ∀ c ∈ kept, c ∈ fetched
  | [], kept, h, c, hc => by
    cases h
    exact hc
  | d :: fetched, kept, h, c, hc => by
    unfold relevant at h
    cases htime : d.time with
    | naive wall =>
      rw [htime] at h
      cases h
    | aware time =>
    rw [htime] at h
    cases hrest : relevant start stop fetched with
    | error e =>
      rw [hrest] at h
      cases h
    | ok rest =>
    rw [hrest] at h
    dsimp only at h
    split at h
    · cases h
      rcases mem_cons.1 hc with rfl | hc
      · exact mem_cons_self
      · exact mem_cons_of_mem d (relevant_subset hrest c hc)
    · cases h
      exact mem_cons_of_mem d (relevant_subset hrest c hc)

def Keeps {α : Type} (provider symbol : String) (timeframe : Timeframe) (m : Act α) : Prop :=
  Triple (fun s => OnlyFrom provider symbol timeframe s.table) m
    (fun _ s => OnlyFrom provider symbol timeframe s.table) fun s => OnlyFrom provider symbol timeframe s.table

section

variable {provider symbol : String} {timeframe : Timeframe} {α β : Type}

theorem Keeps.pure (a : α) : Keeps provider symbol timeframe (Pure.pure a) := Triple.returns fun _ h => h

theorem Keeps.throw (e : PyExc) : Keeps provider symbol timeframe (MonadExcept.throw e : Act α) :=
  Triple.raises fun _ h => h

theorem Keeps.get : Keeps provider symbol timeframe MonadState.get := Triple.reads fun _ h => h

theorem Keeps.bind {m : Act α} {f : α → Act β} (hm : Keeps provider symbol timeframe m)
    (hf : ∀ a, Keeps provider symbol timeframe (f a)) : Keeps provider symbol timeframe (m >>= f) :=
  Triple.bind hm hf

theorem Keeps.ite {c : Prop} [Decidable c] {m n : Act α} (hm : Keeps provider symbol timeframe m)
    (hn : Keeps provider symbol timeframe n) : Keeps provider symbol timeframe (if c then m else n) :=
  Triple.ite (fun _ => hm) fun _ => hn

end

section

variable [Dataset.Host] {gateway : Gateway} {provider : String} (hgateway : gateway.From provider) (sql : ℕ → SqlFaults)
  (symbol : String) (timeframe : Timeframe)

theorem save_keeps {candles : List Candle} (hsource : ∀ c ∈ candles, c.source = provider) :
    Keeps provider symbol timeframe (save sql symbol timeframe candles) := by
  intro s h
  have hsaved := OnlyFrom.saveCandles h hsource (sql s.calls)
  unfold save
  cases hsave : saveCandles s.table symbol timeframe candles none false (sql s.calls) with
  | mk table result =>
    rw [hsave] at hsaved
    cases result with
    | ok written => exact hsaved
    | error e => exact hsaved

include hgateway in
omit [Dataset.Host] in
theorem ask_keeps {α : Type} {request : Request} {f : Except GatewayFault (List Candle) → Act α}
    (hfault : ∀ fault, Keeps provider symbol timeframe (f (.error fault)))
    (hcandles : ∀ candles, (∀ c ∈ candles, c.source = provider) → Keeps provider symbol timeframe (f (.ok candles))) :
    Keeps provider symbol timeframe (ask gateway request >>= f) := by
  refine Triple.bind (Q := fun answer s => OnlyFrom provider symbol timeframe s.table ∧
    ∀ candles, answer = .ok candles → ∀ c ∈ candles, c.source = provider) ?_ fun answer => ?_
  · intro s h
    exact ⟨h, fun candles hanswer => hgateway _ _ _ hanswer⟩
  · cases answer with
    | error fault => exact fun s h => hfault fault s h.1
    | ok candles => exact fun s h => hcandles candles (h.2 candles rfl) s h.1

include hgateway

theorem download_keeps (count : ℤ) : Keeps provider symbol timeframe (download gateway sql symbol timeframe count) :=
  ask_keeps hgateway symbol timeframe (fun fault => .throw fault.exc) fun _ hsource => save_keeps sql symbol timeframe hsource

theorem syncRecent_keeps (now count : ℤ) :
    Keeps provider symbol timeframe (syncRecent gateway sql symbol timeframe now count) := by
  have hdownload := download_keeps hgateway sql symbol timeframe
  refine Keeps.get.bind fun s => ?_
  cases getCoverage s.table symbol timeframe none with
  | none => exact hdownload count
  | some coverage =>
    refine (Keeps.ite (hdownload _) (.pure 0)).bind fun downloaded => Keeps.get.bind fun s' => ?_
    exact (Keeps.ite (hdownload count) (.pure 0)).bind fun more => .pure _

theorem fillGap_keeps (gap : ℤ × ℤ) :
    Keeps provider symbol timeframe (fillGap gateway sql symbol timeframe gap) := by
  refine ask_keeps hgateway symbol timeframe (fun fault => ?_) fun fetched hsource => ?_
  · cases fault with
    | marketDataError message => exact .pure _
    | other e => exact .throw e
  · refine Triple.bind (Q := fun kept s => OnlyFrom provider symbol timeframe s.table ∧ ∀ c ∈ kept, c ∈ fetched)
      (Triple.answers fun s h => ⟨fun kept hkept => ⟨h, relevant_subset hkept⟩, h⟩) fun kept => ?_
    intro s h
    have hkept := save_keeps sql symbol timeframe fun c hc => hsource c (h.2 c hc)
    exact (Keeps.ite (.pure _) (hkept.bind fun _ => .pure _)) s h.1

theorem fillEach_keeps : ∀ gaps : List (ℤ × ℤ),
    Keeps provider symbol timeframe (fillEach gateway sql symbol timeframe gaps)
  | [] => .pure _
  | gap :: gaps => (fillGap_keeps hgateway sql symbol timeframe gap).bind fun _ =>
      (fillEach_keeps gaps).bind fun _ => .pure _

variable [SqlOrder]

theorem fillGaps_keeps : Keeps provider symbol timeframe (fillGaps gateway sql symbol timeframe) :=
  Keeps.get.bind fun _ => Keeps.ite (.pure _) (fillEach_keeps hgateway sql symbol timeframe _)

/-- **What `get_candles` serves from a cache of the gateway's provider is not mixed.** -/
theorem getCandleRows_unmixed (now count : ℤ) (fill : Bool) :
    Triple (fun s => OnlyFrom provider symbol timeframe s.table)
      (getCandleRows gateway sql symbol timeframe now count fill) (fun rows _ => Unmixed rows)
      fun s => OnlyFrom provider symbol timeframe s.table := by
  refine Triple.bind (syncRecent_keeps hgateway sql symbol timeframe now count) fun _ => ?_
  have hfill : Keeps provider symbol timeframe
      (if fill then fillGaps gateway sql symbol timeframe else pure (0, 0)) :=
    Keeps.ite (fillGaps_keeps hgateway sql symbol timeframe) (.pure _)
  refine Triple.bind hfill fun _ => ?_
  refine Triple.bind (Triple.reads (T := fun s _ => OnlyFrom provider symbol timeframe s.table) fun _ h => h) fun s => ?_
  exact Triple.returns fun _ h => OnlyFrom.latest h count

end

/-! ### A cache of another provider -/

section

variable [Dataset.Host] {table : CandleTable} {symbol : String} {timeframe : Timeframe} {c : Candle}

theorem saveCandles_one (hsource : blank c.source = false) (hreal : c.ohlcv.Real)
    (hnew : table.find? (toRow c.source symbol timeframe c).key = none) :
    ∃ t, saveCandles table symbol timeframe [c] none false {} = (t, .ok 1) ∧
      t.rows = table.rows ++ [toRow c.source symbol timeframe c] := by
  have hbound : (toRow c.source symbol timeframe c).bound = toRow c.source symbol timeframe c :=
    congrArg (fun v => { toRow c.source symbol timeframe c with values := v }) (Ohlcv.bound_of_real hreal.2)
  rcases insert_cases (CandleTable.find?_eq_none.1 hnew) with ⟨-, t, ht, hrows⟩ | ⟨hnot, -⟩
  · rw [hbound] at hrows
    refine ⟨t, ?_, hrows⟩
    have hpass : saveRow false false {} ⟨table, [], [], 0⟩ (toRow c.source symbol timeframe c) =
        .ok ⟨table, [toRow c.source symbol timeframe c], [(toRow c.source symbol timeframe c).key], 0⟩ := by
      unfold saveRow
      rw [if_neg not_mem_nil]
      dsimp only
      rw [hnew]
      rfl
    have hsave : saveRows table [toRow c.source symbol timeframe c] false false {} = .ok (t, 1) := by
      unfold saveRows
      rw [foldlM_cons, hpass]
      show (insertPending {} table [toRow c.source symbol timeframe c] >>= _) = _
      unfold insertPending
      rw [if_neg (cons_ne_nil _ _), foldlM_cons, ht]
      rfl
    have hmixed : ([] : List Candle).any (fun d => decide (providerOf none d ≠ providerOf none c)) = false := rfl
    unfold saveCandles
    dsimp only
    rw [hmixed, if_neg Bool.false_ne_true, providerOf, hsource, if_neg Bool.false_ne_true]
    have hrun : saveRows table ([c].map (toRow c.source symbol timeframe)) (none : Option String).isSome false {} =
      .ok (t, 1) := hsave
    rw [hrun]
  · have hvalues : (toRow c.source symbol timeframe c).values.bound = c.ohlcv := Ohlcv.bound_of_real hreal.2
    exact absurd (hvalues ▸ hreal) hnot

/-- **A stale cache and a candle with a new key**: `get_candles` serves the cache and the candle. -/
theorem getCandleRows_one [SqlOrder] (hsource : blank c.source = false) (hreal : c.ohlcv.Real)
    (hnew : table.find? (toRow c.source symbol timeframe c).key = none) {coverage : ℤ × ℤ}
    (hcoverage : getCoverage table symbol timeframe none = some coverage) :
    ∃ t now s, t.rows = table.rows ++ [toRow c.source symbol timeframe c] ∧
      getCandleRows ⟨false, fun _ _ => .ok [c]⟩ (fun _ => {}) symbol timeframe now (countRows t symbol timeframe none) false
        ⟨table, 0⟩ = .ok (latestRows t symbol timeframe (countRows t symbol timeframe none) none) s := by
  obtain ⟨t, hsave, hrows⟩ := saveCandles_one hsource hreal hnew
  have hdownload : ∀ count, download ⟨false, fun _ _ => .ok [c]⟩ (fun _ => {}) symbol timeframe count ⟨table, 0⟩ =
      .ok 1 ⟨t, 1⟩ := by
    intro count
    show save (fun _ => {}) symbol timeframe [c] ⟨table, 1⟩ = _
    unfold save
    rw [hsave]
  refine ⟨t, (coverage.2 + 2 * timeframe.seconds) * 1000000, ⟨t, 1⟩, hrows, ?_⟩
  have hstale : timeframe.seconds * 1000000 < (coverage.2 + 2 * timeframe.seconds) * 1000000 - coverage.2 * 1000000 := by
    have hpos : 0 < timeframe.seconds := by cases timeframe <;> decide
    omega
  have hget : ∀ s : Service, (get : Act Service) s = .ok s s := fun _ => rfl
  have hsync : syncRecent ⟨false, fun _ _ => .ok [c]⟩ (fun _ => {}) symbol timeframe
      ((coverage.2 + 2 * timeframe.seconds) * 1000000) (countRows t symbol timeframe none) ⟨table, 0⟩ =
        .ok (1 + 0) ⟨t, 1⟩ := by
    unfold syncRecent
    rw [Raising.run_bind (hget _), hcoverage]
    dsimp only
    rw [if_pos hstale, Raising.run_bind (hdownload _), Raising.run_bind (hget _)]
    rw [if_neg (lt_irrefl ((countRows t symbol timeframe none : ℕ) : ℤ))]
    rfl
  unfold getCandleRows
  rw [Raising.run_bind hsync]
  rfl

variable [SqlOrder]

/-- **What is served of a symbol and a timeframe is not mixed**: every series of `load_latest` without a provider, the series
that `fill_gaps` works on, and every series of `get_candles` with a gateway of a source. -/
structure ServedUnmixed (table : CandleTable) (symbol : String) (timeframe : Timeframe) (source : String) : Prop where
  latest : ∀ count, Unmixed (latestRows table symbol timeframe count none)
  working : Unmixed (workingRows symbol timeframe table)
  candles : ∀ gateway : Gateway, gateway.From source → ∀ sql now count fill rows s,
    getCandleRows gateway sql symbol timeframe now count fill ⟨table, 0⟩ = .ok rows s → Unmixed rows

def wholeCandle (source : String) : Candle := ⟨.aware 0, .fin 1, .fin 1, .fin 1, .fin 1, none, source⟩

theorem onlyFrom_of_served {source : String} (hsource : blank source = false)
    (h : ServedUnmixed table symbol timeframe source) : OnlyFrom source symbol timeframe table := by
  intro row hrow
  obtain ⟨-, provider, hprovider⟩ := h.working
  have hall : OnlyFrom provider symbol timeframe table := fun r hr => hprovider r (partition_perm.mem_iff.2 hr)
  rw [hall row hrow]
  by_contra hne
  -- the cache is stale, and the gateway answers with one candle
  have hnew : table.find? (toRow (wholeCandle source).source symbol timeframe (wholeCandle source)).key = none := by
    rw [CandleTable.find?_eq_none]
    intro hmem
    obtain ⟨old, hold, hkey⟩ := mem_map.1 hmem
    simp only [CandleRow.key, toRow, Prod.mk.injEq] at hkey
    obtain ⟨hold', hsymbol, htimeframe, -⟩ := hkey
    exact hne ((hall old (mem_partition_none.2 ⟨hold, hsymbol, htimeframe⟩)).symm.trans hold')
  obtain ⟨coverage, hcoverage⟩ : ∃ coverage, getCoverage table symbol timeframe none = some coverage := by
    have hmem := mem_map_of_mem (f := CandleRow.time) hrow
    unfold getCoverage
    cases hmin : ((partition table symbol timeframe none).map CandleRow.time).min? with
    | none => exact absurd hmem (min?_eq_none_iff.1 hmin ▸ not_mem_nil)
    | some first =>
      cases hmax : ((partition table symbol timeframe none).map CandleRow.time).max? with
      | none => exact absurd hmem (max?_eq_none_iff.1 hmax ▸ not_mem_nil)
      | some last =>
        dsimp only
        rw [hmin, hmax]
        exact ⟨(first, last), rfl⟩
  have hreal : (⟨.fin 1, .fin 1, .fin 1, .fin 1, none⟩ : Ohlcv).Real := by decide
  obtain ⟨t, now, s, hrows, hrun⟩ := getCandleRows_one (c := wholeCandle source) hsource hreal hnew hcoverage
  have hfrom : Gateway.From ⟨false, fun _ _ => .ok [wholeCandle source]⟩ source := by
    intro n request candles hanswer c hc
    cases hanswer
    rw [mem_singleton.1 hc]
    rfl
  obtain ⟨-, served, hserved⟩ := h.candles _ hfrom _ _ _ _ _ _ hrun
  have hlatest : ∀ r ∈ partition t symbol timeframe none, r.provider = served := by
    intro r hr
    refine hserved r ?_
    have hperm := SqlOrder.descending_perm (partition t symbol timeframe none)
    unfold latestRows
    dsimp only
    rw [if_neg (Int.natCast_nonneg _).not_gt, mem_reverse, Int.toNat_natCast, countRows, ← hperm.length_eq,
      take_length]
    exact hperm.mem_iff.2 hr
  obtain ⟨hmem, hsymbol, htimeframe⟩ := mem_partition_none.1 hrow
  have hold : row.provider = served :=
    hlatest row (mem_partition_none.2 ⟨hrows ▸ mem_append_left _ hmem, hsymbol, htimeframe⟩)
  have hsaved : source = served :=
    hlatest (toRow source symbol timeframe (wholeCandle source)) (mem_partition_none.2
      ⟨hrows ▸ mem_append_right _ (mem_singleton_self _), rfl, rfl⟩)
  exact hne ((hall row hrow).symm.trans (hold.trans hsaved.symm))

/-- **What is served is not mixed exactly when the cache holds the symbol and the timeframe under the gateway's source only.** -/
theorem served_unmixed_iff {source : String} (hsource : blank source = false) :
    ServedUnmixed table symbol timeframe source ↔
      ∀ row ∈ partition table symbol timeframe none, row.provider = source := by
  refine ⟨onlyFrom_of_served hsource, fun h => ⟨OnlyFrom.latest h, OnlyFrom.working h, ?_⟩⟩
  intro gateway hgateway sql now count fill rows s hrun
  have hserved := getCandleRows_unmixed hgateway sql symbol timeframe now count fill ⟨table, 0⟩ h
  rwa [hrun] at hserved

end

/-! ### Two caches -/

def providerRows (providers : List String) : List CandleRow :=
  providers.map fun provider => ⟨provider, "XAUUSD", "M15", 0, ⟨.fin 1, .fin 1, .fin 1, .fin 1, none⟩, provider⟩

def publicTable : CandleTable := ⟨providerRows ["public"], by decide, by decide⟩

def sharedTable : CandleTable := ⟨providerRows ["public", "deriv"], by decide, by decide⟩

theorem served_unmixed_iff_public : @ServedUnmixed Dataset.plainHost tableOrder publicTable "XAUUSD" .m15 "public" := by
  let _ : Dataset.Host := Dataset.plainHost
  let _ : SqlOrder := tableOrder
  exact (served_unmixed_iff (by decide)).2 (by decide)

/-- **A cache of two providers is served mixed**: two candles of one time, of both providers. -/
theorem shared_served_mixed :
    @latestRows tableOrder sharedTable "XAUUSD" .m15 10 none = (providerRows ["public", "deriv"]).reverse ∧
    @workingRows Dataset.plainHost "XAUUSD" .m15 tableOrder sharedTable = providerRows ["public", "deriv"] ∧
    ¬@ServedUnmixed Dataset.plainHost tableOrder sharedTable "XAUUSD" .m15 "public" := by
  let _ : Dataset.Host := Dataset.plainHost
  let _ : SqlOrder := tableOrder
  have hlatest : latestRows sharedTable "XAUUSD" .m15 10 none = (providerRows ["public", "deriv"]).reverse := by decide
  have hworking : workingRows "XAUUSD" .m15 sharedTable = providerRows ["public", "deriv"] := by decide
  refine ⟨hlatest, hworking, fun h => ?_⟩
  obtain ⟨htimes, -⟩ := h.working
  rw [hworking] at htimes
  exact absurd htimes (by decide)

end HistoricalData
end Jqe
