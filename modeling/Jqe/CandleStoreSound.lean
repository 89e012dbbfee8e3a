import Jqe.CandleStore
import Jqe.DatasetRoundTrip
/-!
# CandleStoreSound — what a strict save keeps

A save with a provider either raises and changes nothing, or keeps every stored row and inserts, of the rows with a new
key, the first of each key.
-/
namespace Jqe

open List

open Dataset (Candle)
open CandleRow (key bound)

theorem Ohlcv.bound_of_real {v : Ohlcv} (h : v.volume ≠ some .nan) : v.bound = v := by
  unfold bound
  rw [if_neg h]

namespace CandleStore

/-! ### The first row of each key -/

/-- A row that no earlier row of the batch, and no key seen before, hides. -/
def First (seen : List CandleKey) (rows : List CandleRow) (row : CandleRow) : Prop :=
  row.key ∉ seen ∧ ∃ before after, rows = before ++ row :: after ∧ ∀ r ∈ before, r.key ≠ row.key

variable {seen : List CandleKey} {rows : List CandleRow} {row : CandleRow}

theorem First.mem (h : First seen rows row) : row ∈ rows := by
  obtain ⟨-, before, after, rfl, -⟩ := h
  exact mem_append_right before mem_cons_self

theorem not_first_nil : ¬First seen [] row := by
  intro h
  exact absurd h.mem not_mem_nil

theorem first_cons_seen {r : CandleRow} (hr : r.key ∈ seen) :
    First seen (r :: rows) row ↔ First seen rows row := by
  constructor
  · rintro ⟨hseen, before, after, heq, hbefore⟩
    cases before with
    | nil =>
      cases heq
      exact absurd hr hseen
    | cons r' before =>
      cases heq
      exact ⟨hseen, before, after, rfl, fun x hx => hbefore x (mem_cons_of_mem r hx)⟩
  · rintro ⟨hseen, before, after, rfl, hbefore⟩
    refine ⟨hseen, r :: before, after, rfl, fun x hx => ?_⟩
    rcases mem_cons.1 hx with rfl | hx
    · intro hkey
      exact hseen (hkey ▸ hr)
    · exact hbefore x hx

theorem first_cons_new {r : CandleRow} (hr : r.key ∉ seen) :
    First seen (r :: rows) row ↔ row = r ∨ First (r.key :: seen) rows row := by
  constructor
  · rintro ⟨hseen, before, after, heq, hbefore⟩
    cases before with
    | nil =>
      cases heq
      exact .inl rfl
    | cons r' before =>
      cases heq
      have hne := hbefore r mem_cons_self
      refine .inr ⟨?_, before, after, rfl, fun x hx => hbefore x (mem_cons_of_mem r hx)⟩
      rw [mem_cons]
      rintro (hkey | hold)
      · exact hne hkey.symm
      · exact hseen hold
  · rintro (rfl | ⟨hseen, before, after, rfl, hbefore⟩)
    · exact ⟨hr, [], rows, rfl, fun x hx => absurd hx not_mem_nil⟩
    · rw [mem_cons, not_or] at hseen
      refine ⟨hseen.2, r :: before, after, rfl, fun x hx => ?_⟩
      rcases mem_cons.1 hx with rfl | hx
      · exact fun hkey => hseen.1 hkey.symm
      · exact hbefore x hx

theorem exists_first : ∀ {seen : List CandleKey} {row : CandleRow}, row ∈ rows →
    row.key ∉ seen → ∃ first, First seen rows first ∧ first.key = row.key := by
  induction rows with
  | nil => exact fun hrow _ => absurd hrow not_mem_nil
  | cons r rows ih =>
    intro seen row hrow hseen
    by_cases hr : r.key ∈ seen
    · have hmem : row ∈ rows := (mem_cons.1 hrow).resolve_left fun he => hseen (he ▸ hr)
      obtain ⟨first, hfirst, hkey⟩ := ih hmem hseen
      exact ⟨first, (first_cons_seen hr).2 hfirst, hkey⟩
    · by_cases hkey : row.key = r.key
      · exact ⟨r, (first_cons_new hr).2 (.inl rfl), hkey.symm⟩
      · have hmem : row ∈ rows := (mem_cons.1 hrow).resolve_left fun he => hkey (congrArg key he)
        have hnew : row.key ∉ r.key :: seen := by
          rw [mem_cons, not_or]
          exact ⟨hkey, hseen⟩
        obtain ⟨first, hfirst, hfirstKey⟩ := ih hmem hnew
        exact ⟨first, (first_cons_new hr).2 (.inr hfirst), hfirstKey⟩

/-! ### The pass of a strict save -/

def fresh (table : CandleTable) (seen : List CandleKey) : List CandleRow → List CandleRow
  | [] => []
  | row :: rows =>
    if row.key ∈ seen then fresh table seen rows
    else if table.find? row.key = none then row :: fresh table (row.key :: seen) rows
    else fresh table (row.key :: seen) rows

theorem mem_fresh {table : CandleTable} : ∀ {rows : List CandleRow} {seen : List CandleKey},
    row ∈ fresh table seen rows ↔ First seen rows row ∧ table.find? row.key = none
  | [], seen => ⟨fun h => absurd h not_mem_nil, fun h => absurd h.1 not_first_nil⟩
  | r :: rows, seen => by
    unfold fresh
    by_cases hr : r.key ∈ seen
    · rw [if_pos hr, first_cons_seen hr]
      exact mem_fresh
    · rw [if_neg hr, first_cons_new hr]
      by_cases hnew : table.find? r.key = none
      · rw [if_pos hnew, mem_cons, mem_fresh]
        constructor
        · rintro (rfl | ⟨hfirst, hnone⟩)
          · exact ⟨.inl rfl, hnew⟩
          · exact ⟨.inr hfirst, hnone⟩
        · rintro ⟨rfl | hfirst, hnone⟩
          · exact .inl rfl
          · exact .inr ⟨hfirst, hnone⟩
      · rw [if_neg hnew, mem_fresh]
        constructor
        · rintro ⟨hfirst, hnone⟩
          exact ⟨.inr hfirst, hnone⟩
        · rintro ⟨rfl | hfirst, hnone⟩
          · exact absurd hnone hnew
          · exact ⟨hfirst, hnone⟩

theorem fresh_nodup {table : CandleTable} : ∀ {rows : List CandleRow} {seen : List CandleKey},
    ((fresh table seen rows).map key).Nodup
  | [], _ => nodup_nil
  | r :: rows, seen => by
    unfold fresh
    split
    · exact fresh_nodup
    · split
      · rw [map_cons, nodup_cons]
        refine ⟨fun hmem => ?_, fresh_nodup⟩
        obtain ⟨row, hrow, hkey⟩ := mem_map.1 hmem
        exact (mem_fresh.1 hrow).1.1 (hkey ▸ mem_cons_self)
      · exact fresh_nodup

def Admits (table : CandleTable) (f : SqlFaults) (row : CandleRow) : Prop :=
  f.select row.key = none ∧ ∀ existing, table.find? row.key = some existing → existing.values = row.values

theorem saveRow_strict (f : SqlFaults) {st : Pass} (hseen : row.key ∉ st.seenKeys) :
    (Admits st.table f row ∧ saveRow true false f st row = .ok { st with
        seenKeys := row.key :: st.seenKeys
        pending := st.pending ++ if st.table.find? row.key = none then [row] else [] }) ∨
      (¬Admits st.table f row ∧ ∃ fault, saveRow true false f st row = .error fault) := by
  unfold saveRow Admits
  rw [if_neg hseen]
  dsimp only
  cases hselect : f.select row.key with
  | some fault => exact .inr ⟨fun h => (by cases h.1), fault, rfl⟩
  | none =>
    dsimp only
    cases hfind : st.table.find? row.key with
    | none => exact .inl ⟨⟨rfl, fun existing h => (by cases h)⟩, rfl⟩
    | some existing =>
      dsimp only
      by_cases hvalues : existing.values = row.values
      · rw [if_pos hvalues, if_neg (Option.some_ne_none existing), append_nil]
        exact .inl ⟨⟨rfl, fun other h => (Option.some.inj h) ▸ hvalues⟩, rfl⟩
      · rw [if_neg hvalues]
        exact .inr ⟨fun h => hvalues (h.2 existing rfl), _, rfl⟩

theorem pass_strict (f : SqlFaults) (rows : List CandleRow) : ∀ st : Pass,
    ((∀ row, First st.seenKeys rows row → Admits st.table f row) ∧ ∃ seen,
      rows.foldlM (saveRow true false f) st =
        .ok ⟨st.table, st.pending ++ fresh st.table st.seenKeys rows, seen, st.written⟩) ∨
    ((∃ row, First st.seenKeys rows row ∧ ¬Admits st.table f row) ∧ ∃ fault,
      rows.foldlM (saveRow true false f) st = .error fault) := by
  induction rows with
  | nil =>
    intro st
    refine .inl ⟨fun row h => absurd h not_first_nil, st.seenKeys, ?_⟩
    rw [fresh, append_nil]
    rfl
  | cons r rows ih =>
    intro st
    rw [foldlM_cons]
    by_cases hseen : r.key ∈ st.seenKeys
    · have hstep : saveRow true false f st r = .ok st := if_pos hseen
      rw [hstep, fresh, if_pos hseen]
      simp only [first_cons_seen hseen]
      exact ih st
    · simp only [first_cons_new hseen]
      rw [fresh, if_neg hseen]
      rcases saveRow_strict f hseen with ⟨hadmits, hstep⟩ | ⟨hrefuses, fault, hstep⟩
      · rw [hstep]
        rcases ih { st with
          seenKeys := r.key :: st.seenKeys
          pending := st.pending ++ if st.table.find? r.key = none then [r] else [] } with
          ⟨hall, seen, heq⟩ | ⟨⟨row, hfirst, hnot⟩, heq⟩
        · refine .inl ⟨?_, seen, ?_⟩
          · rintro row (rfl | hfirst)
            · exact hadmits
            · exact hall row hfirst
          · refine heq.trans ?_
            dsimp only
            rw [append_assoc]
            split <;> rfl
        · exact .inr ⟨⟨row, .inr hfirst, hnot⟩, heq⟩
      · rw [hstep]
        exact .inr ⟨⟨r, .inl rfl, hrefuses⟩, fault, rfl⟩

/-! ### The insertion -/

theorem insert_cases {table : CandleTable} (hkey : row.key ∉ table.rows.map key) :
    (row.values.bound.Real ∧ ∃ t, table.insert? row = some t ∧ t.rows = table.rows ++ [row.bound]) ∨
      (¬row.values.bound.Real ∧ table.insert? row = none) := by
  unfold CandleTable.insert?
  by_cases hreal : row.values.bound.Real
  · rw [dif_pos ⟨hreal, hkey⟩]
    exact .inl ⟨hreal, _, rfl, rfl⟩
  · rw [dif_neg fun h => hreal h.1]
    exact .inr ⟨hreal, rfl⟩

/-- **Rows with new keys are all inserted, unless one has no price.** -/
theorem insertAll_cases : ∀ {table : CandleTable}, (rows.map key).Nodup →
    (∀ row ∈ rows, row.key ∉ table.rows.map key) →
    ((∀ row ∈ rows, row.values.bound.Real) ∧ ∃ t, rows.foldlM CandleTable.insert? table = some t ∧
      t.rows = table.rows ++ rows.map bound) ∨
    ((∃ row ∈ rows, ¬row.values.bound.Real) ∧ rows.foldlM CandleTable.insert? table = none) := by
  induction rows with
  | nil =>
    intro table _ _
    exact .inl ⟨fun row h => absurd h not_mem_nil, table, rfl, (append_nil _).symm⟩
  | cons r rows ih =>
    intro table hnodup hnew
    rw [map_cons, nodup_cons] at hnodup
    rw [foldlM_cons]
    rcases insert_cases (hnew r mem_cons_self) with ⟨hreal, t, ht, hrows⟩ | ⟨hnot, ht⟩
    · rw [ht]
      have hnew' : ∀ row ∈ rows, row.key ∉ t.rows.map key := by
        intro row hrow hmem
        rw [hrows, map_append, mem_append] at hmem
        rcases hmem with hold | hlast
        · exact hnew row (mem_cons_of_mem r hrow) hold
        · rw [map_singleton, mem_singleton, CandleRow.key_bound] at hlast
          exact hnodup.1 (hlast ▸ mem_map_of_mem hrow)
      rcases ih hnodup.2 hnew' with ⟨hall, t', ht', hrows'⟩ | ⟨⟨row, hrow, hnot⟩, ht'⟩
      · refine .inl ⟨forall_mem_cons.2 ⟨hreal, hall⟩, t', ht', ?_⟩
        rw [hrows', hrows, append_assoc]
        rfl
      · exact .inr ⟨⟨row, mem_cons_of_mem r hrow, hnot⟩, ht'⟩
    · rw [ht]
      exact .inr ⟨⟨r, mem_cons_self, hnot⟩, rfl⟩

/-! ### The whole save -/

/-- What makes the transaction of a strict save raise: a statement, a conflict with the table, or a price that is NaN. -/
def Refuses (table : CandleTable) (rows : List CandleRow) (f : SqlFaults) : Prop :=
  f.connect ≠ none ∨ (∃ row, First [] rows row ∧ ¬Admits table f row) ∨
    (∃ row, First [] rows row ∧ table.find? row.key = none ∧ (f.insert ≠ none ∨ ¬row.values.bound.Real)) ∨ f.commit ≠ none

theorem insertPending_cases (table : CandleTable) (f : SqlFaults) (rows : List CandleRow) :
    ((∀ row ∈ fresh table [] rows, f.insert = none ∧ row.values.bound.Real) ∧ ∃ t,
      insertPending f table (fresh table [] rows) = .ok t ∧
        t.rows = table.rows ++ (fresh table [] rows).map bound) ∨
    ((∃ row ∈ fresh table [] rows, f.insert ≠ none ∨ ¬row.values.bound.Real) ∧ ∃ fault,
      insertPending f table (fresh table [] rows) = .error fault) := by
  have hnew : ∀ row ∈ fresh table [] rows, row.key ∉ table.rows.map key := fun row hrow =>
    CandleTable.find?_eq_none.1 (mem_fresh.1 hrow).2
  generalize hpending : fresh table [] rows = pending at hnew ⊢
  have hnodup : (pending.map key).Nodup := hpending ▸ fresh_nodup
  unfold insertPending
  cases pending with
  | nil => exact .inl ⟨fun row h => absurd h not_mem_nil, table, rfl, (append_nil _).symm⟩
  | cons row pending =>
    rw [if_neg (cons_ne_nil row pending)]
    cases hinsert : f.insert with
    | some fault => exact .inr ⟨⟨row, mem_cons_self, .inl (Option.some_ne_none fault)⟩, fault, rfl⟩
    | none =>
      rcases insertAll_cases hnodup hnew with ⟨hreal, t, ht, hrows⟩ | ⟨⟨bad, hbad, hnot⟩, ht⟩
      · rw [ht]
        exact .inl ⟨fun r hr => ⟨rfl, hreal r hr⟩, t, rfl, hrows⟩
      · rw [ht]
        exact .inr ⟨⟨bad, hbad, .inr hnot⟩, _, rfl⟩

theorem saveRows_cases (table : CandleTable) (rows : List CandleRow) (f : SqlFaults) :
    (¬Refuses table rows f ∧ ∃ t n, saveRows table rows true false f = .ok (t, n) ∧
      t.rows = table.rows ++ (fresh table [] rows).map bound) ∨
    (Refuses table rows f ∧ ∃ fault, saveRows table rows true false f = .error fault) := by
  unfold saveRows
  cases hconnect : f.connect with
  | some fault => exact .inr ⟨.inl (by rw [hconnect]; exact Option.some_ne_none fault), fault, rfl⟩
  | none =>
  rcases pass_strict f rows ⟨table, [], [], 0⟩ with
    ⟨hadmits, seen, hpass⟩ | ⟨hconflict, fault, hpass⟩
  · rw [hpass, nil_append]
    rcases insertPending_cases table f rows with
      ⟨hreal, t, ht, hrows⟩ | ⟨⟨row, hrow, hbad⟩, fault, hfault⟩
    · cases hcommit : f.commit with
      | some fault =>
        refine .inr ⟨.inr (.inr (.inr (by rw [hcommit]; exact Option.some_ne_none fault))), fault, ?_⟩
        dsimp only [bind, Except.bind, statement]
        rw [ht]
      | none =>
        refine .inl ⟨?_, t, 0 + (fresh table [] rows).length, ?_, hrows⟩
        · rintro (hnot | ⟨row, hfirst, hnot⟩ | ⟨row, hfirst, hnone, hbad⟩ | hnot)
          · exact hnot hconnect
          · exact hnot (hadmits row hfirst)
          · obtain ⟨hinsert, hrow⟩ := hreal row (mem_fresh.2 ⟨hfirst, hnone⟩)
            exact hbad.elim (fun h => h hinsert) fun h => h hrow
          · exact hnot hcommit
        · dsimp only [bind, Except.bind, statement]
          rw [ht]
          rfl
    · obtain ⟨hfirst, hnone⟩ := mem_fresh.1 hrow
      refine .inr ⟨.inr (.inr (.inl ⟨row, hfirst, hnone, hbad⟩)), fault, ?_⟩
      dsimp only [bind, Except.bind, statement]
      rw [hfault]
  · rw [hpass]
    exact .inr ⟨.inr (.inl hconflict), fault, rfl⟩

section

variable [Dataset.Host]

abbrev under (name : String) (c : Candle) : String := providerOf (some name) c

def Refused (table : CandleTable) (symbol : String) (timeframe : Timeframe) (candles : List Candle) (name : String)
    (f : SqlFaults) : Prop :=
  ∃ head ∈ candles.head?, (∃ c ∈ candles, under name c ≠ under name head) ∨ blank (under name head) = true ∨
    Refuses table (candles.map (toRow (under name head) symbol timeframe)) f

/-- **A call with a provider raises and changes nothing, or it appends the first rows of the new keys.** -/
theorem saveCandles_cases (table : CandleTable) (symbol : String) (timeframe : Timeframe) (candles : List Candle)
    (name : String) (f : SqlFaults) :
    (Refused table symbol timeframe candles name f ∧ ∃ e,
      saveCandles table symbol timeframe candles (some name) false f = (table, .error e)) ∨
    (¬Refused table symbol timeframe candles name f ∧ ∃ t n,
      saveCandles table symbol timeframe candles (some name) false f = (t, .ok n) ∧
        ((candles = [] ∧ t = table) ∨ ∃ provider, (∀ c ∈ candles, under name c = provider) ∧ blank provider = false ∧
          (∀ row, First [] (candles.map (toRow provider symbol timeframe)) row → Admits table f row) ∧
          t.rows = table.rows ++
            (fresh table [] (candles.map (toRow provider symbol timeframe))).map bound)) := by
  cases candles with
  | nil =>
    refine .inr ⟨?_, table, 0, rfl, .inl ⟨rfl, rfl⟩⟩
    rintro ⟨head, hhead, -⟩
    cases hhead
  | cons head rest =>
    unfold saveCandles
    dsimp only
    by_cases hmixed : (rest.any fun c => decide (under name c ≠ under name head)) = true
    · rw [if_pos hmixed]
      obtain ⟨c, hc, hne⟩ := List.any_eq_true.1 hmixed
      exact .inl ⟨⟨head, rfl, .inl ⟨c, mem_cons_of_mem head hc, of_decide_eq_true hne⟩⟩, _, rfl⟩
    · rw [if_neg hmixed]
      have hsame : ∀ c ∈ head :: rest, under name c = under name head := by
        refine forall_mem_cons.2 ⟨rfl, fun c hc => ?_⟩
        by_contra hne
        exact hmixed (List.any_eq_true.2 ⟨c, hc, decide_eq_true hne⟩)
      by_cases hblank : blank (under name head) = true
      · rw [if_pos hblank]
        exact .inl ⟨⟨head, rfl, .inr (.inl hblank)⟩, _, rfl⟩
      · rw [if_neg hblank]
        rcases saveRows_cases table ((head :: rest).map (toRow (under name head) symbol timeframe)) f with
          ⟨haccepts, t, n, hsave, hrows⟩ | ⟨hrefuses, fault, hsave⟩
        · refine .inr ⟨?_, t, n, by rw [Option.isSome_some, hsave], .inr ⟨under name head, hsame, ?_, ?_, hrows⟩⟩
          · rintro ⟨head', hhead, ⟨c, hc, hne⟩ | hnot | hnot⟩
            · cases hhead
              exact hne (hsame c hc)
            · cases hhead
              exact hblank hnot
            · cases hhead
              exact haccepts hnot
          · exact Bool.not_eq_true _ ▸ hblank
          · intro row hfirst
            by_contra hnot
            exact haccepts (.inr (.inl ⟨row, hfirst, hnot⟩))
        · refine .inl ⟨⟨head, rfl, .inr (.inr hrefuses)⟩, ?_⟩
          rw [Option.isSome_some, hsave]
          cases fault with
          | databaseError => exact ⟨_, rfl⟩
          | other e => exact ⟨e, rfl⟩

def Holds (table : CandleTable) (symbol : String) (timeframe : Timeframe) (name : String) (c : Candle) : Prop :=
  ∃ row ∈ table.rows, row.key = (name, symbol, timeframe.value, second c.time) ∧ row.values = c.ohlcv

variable {table : CandleTable} {timeframe : Timeframe}

omit [Dataset.Host] in
theorem mem_partition {symbol name : String} {row : CandleRow} :
    row ∈ partition table symbol timeframe (some name) ↔
      row ∈ table.rows ∧ row.provider = name ∧ row.symbol = symbol ∧ row.timeframe = timeframe.value := by
  unfold partition
  rw [mem_filter, decide_eq_true_eq, Option.all_some, decide_eq_true_eq]
  tauto

theorem load_iff_holds [SqlOrder] {symbol name : String} {c : Candle} :
    (∃ d ∈ loadCandles table symbol timeframe none none (some name),
      d.time = .aware (second c.time * 1000000) ∧ d.ohlcv = c.ohlcv) ↔ Holds table symbol timeframe name c := by
  have hmem : ∀ row, row ∈ loadRows table symbol timeframe none none (some name) ↔
      row ∈ partition table symbol timeframe (some name) := by
    intro row
    unfold loadRows
    rw [(SqlOrder.ascending_perm _).mem_iff, mem_filter]
    exact ⟨And.left, fun h => ⟨h, rfl⟩⟩
  unfold loadCandles Holds
  constructor
  · rintro ⟨d, hd, htime, hvalues⟩
    obtain ⟨row, hrow, rfl⟩ := mem_map.1 hd
    obtain ⟨hin, hprovider, hsymbol, htimeframe⟩ := mem_partition.1 ((hmem row).1 hrow)
    have hsecond : row.time = second c.time :=
      mul_right_cancel₀ (by decide : (1000000 : ℤ) ≠ 0) (PyDatetime.aware.inj htime)
    exact ⟨row, hin, by rw [key, hprovider, hsymbol, htimeframe, hsecond], hvalues⟩
  · rintro ⟨row, hin, hkey, hvalues⟩
    unfold key at hkey
    simp only [Prod.mk.injEq] at hkey
    obtain ⟨hprovider, hsymbol, htimeframe, hsecond⟩ := hkey
    refine ⟨rowToCandle row, mem_map_of_mem ((hmem row).2 (mem_partition.2 ⟨hin, hprovider, hsymbol, htimeframe⟩)),
      ?_, hvalues⟩
    rw [← hsecond]
    rfl

/-- **The save loses nothing**: it raises and changes nothing, or load returns every candle of the batch with its values
and every stored row is as before. -/
def LosesNothing [SqlOrder] (table : CandleTable) (symbol : String) (timeframe : Timeframe) (candles : List Candle)
    (name : String) (f : SqlFaults) : Prop :=
  match saveCandles table symbol timeframe candles (some name) false f with
  | (table', .error _) => table' = table
  | (table', .ok _) =>
    (∀ c ∈ candles, ∃ d ∈ loadCandles table' symbol timeframe none none (some name),
      d.time = .aware (second c.time * 1000000) ∧ d.ohlcv = c.ohlcv) ∧ ∀ row ∈ table.rows, row ∈ table'.rows

/-- Candles of one second have the same values, and no volume is NaN. -/
def Consistent (candles : List Candle) : Prop :=
  (∀ c ∈ candles, ∀ d ∈ candles, second c.time = second d.time → c.ohlcv = d.ohlcv) ∧
    ∀ c ∈ candles, c.volume ≠ some .nan

theorem holds_all_iff {t : CandleTable} {symbol name : String} {candles : List Candle} {f : SqlFaults}
    (hadmits : ∀ row, First [] (candles.map (toRow name symbol timeframe)) row → Admits table f row)
    (hrows : t.rows = table.rows ++ (fresh table [] (candles.map (toRow name symbol timeframe))).map bound) :
    (∀ c ∈ candles, Holds t symbol timeframe name c) ↔ Consistent candles := by
  constructor
  · intro hall
    constructor
    · intro c hc d hd hsecond
      obtain ⟨row, hrow, hkey, hvalues⟩ := hall c hc
      obtain ⟨row', hrow', hkey', hvalues'⟩ := hall d hd
      rw [← hsecond] at hkey'
      rw [← hvalues, ← hvalues', inj_on_of_nodup_map t.keys hrow hrow' (hkey.trans hkey'.symm)]
    · intro c hc
      obtain ⟨row, hrow, -, hvalues⟩ := hall c hc
      have hreal := (t.real row hrow).2
      rwa [hvalues] at hreal
  · rintro ⟨hsame, hvolume⟩ c hc
    obtain ⟨first, hfirst, hkey⟩ := exists_first (mem_map_of_mem (f := toRow name symbol timeframe) hc)
      not_mem_nil
    obtain ⟨d, hd, rfl⟩ := mem_map.1 hfirst.mem
    have hsecond : second d.time = second c.time := by
      unfold toRow key at hkey
      simpa using hkey
    have hvalues : d.ohlcv = c.ohlcv := hsame d hd c hc hsecond
    cases hfind : table.find? (toRow name symbol timeframe d).key with
    | some existing =>
      obtain ⟨hmem, hexisting⟩ := CandleTable.find?_eq_some.1 hfind
      refine ⟨existing, by rw [hrows]; exact mem_append_left _ hmem, hexisting.trans hkey, ?_⟩
      exact ((hadmits _ hfirst).2 existing hfind).trans hvalues
    | none =>
      refine ⟨(toRow name symbol timeframe d).bound, ?_, hkey, ?_⟩
      · rw [hrows]
        exact mem_append_right _ (mem_map_of_mem (mem_fresh.2 ⟨hfirst, hfind⟩))
      · exact (Ohlcv.bound_of_real (hvolume d hd)).trans hvalues

/-- **A strict save loses nothing exactly when it raises, or no two candles of a second differ and no volume is NaN.** With the
empty provider, which stores under the candles' sources, the candles have to be stored already. -/
theorem save_candles_strict_iff [SqlOrder] (table : CandleTable) (symbol : String) (timeframe : Timeframe)
    (candles : List Candle) (name : String) (f : SqlFaults) :
    LosesNothing table symbol timeframe candles name f ↔
      Refused table symbol timeframe candles name f ∨ (name ≠ "" ∧ Consistent candles) ∨
        (name = "" ∧ ∀ c ∈ candles, Holds table symbol timeframe name c) := by
  unfold LosesNothing
  rcases saveCandles_cases table symbol timeframe candles name f with
    ⟨hrefused, e, heq⟩ | ⟨haccepted, t, n, heq, hcase⟩
  · rw [heq]
    exact ⟨fun _ => .inl hrefused, fun _ => rfl⟩
  · rw [heq]
    simp only [load_iff_holds, haccepted, false_or]
    rcases hcase with ⟨rfl, rfl⟩ | ⟨provider, hprovider, hblank, hadmits, hrows⟩
    · refine ⟨fun _ => ?_, fun _ => ⟨fun c hc => absurd hc List.not_mem_nil, fun row hrow => hrow⟩⟩
      by_cases hname : name = ""
      · exact .inr ⟨hname, fun c hc => absurd hc List.not_mem_nil⟩
      · exact .inl ⟨hname, fun c hc => absurd hc List.not_mem_nil, fun c hc => absurd hc List.not_mem_nil⟩
    · have hkept : ∀ row ∈ table.rows, row ∈ t.rows := fun row hrow => hrows ▸ List.mem_append_left _ hrow
      by_cases hname : name = ""
      · -- the new rows are under a source, and none of them is returned
        have hold : ∀ c ∈ candles, Holds t symbol timeframe name c ↔ Holds table symbol timeframe name c := by
          intro c hc
          refine ⟨?_, fun ⟨row, hrow, h⟩ => ⟨row, hkept row hrow, h⟩⟩
          rintro ⟨row, hrow, hkey, hvalues⟩
          rw [hrows, List.mem_append] at hrow
          rcases hrow with hrow | hrow
          · exact ⟨row, hrow, hkey, hvalues⟩
          · obtain ⟨new, hnew, rfl⟩ := List.mem_map.1 hrow
            obtain ⟨d, hd, rfl⟩ := List.mem_map.1 (mem_fresh.1 hnew).1.mem
            have hempty : provider = name := (Prod.mk.inj hkey).1
            rw [hempty, hname] at hblank
            exact absurd hblank (by decide)
        constructor
        · rintro ⟨hall, -⟩
          exact .inr ⟨hname, fun c hc => (hold c hc).1 (hall c hc)⟩
        · rintro (⟨hnot, -⟩ | ⟨-, hall⟩)
          · exact absurd hname hnot
          · exact ⟨fun c hc => (hold c hc).2 (hall c hc), hkept⟩
      · have hunder : ∀ c ∈ candles, provider = name := by
          intro c hc
          rw [← hprovider c hc]
          exact if_neg hname
        have hholds : (∀ c ∈ candles, Holds t symbol timeframe name c) ↔ Consistent candles := by
          cases candles with
          | nil => exact ⟨fun _ => ⟨fun c hc => absurd hc List.not_mem_nil, fun c hc => absurd hc List.not_mem_nil⟩,
              fun _ c hc => absurd hc List.not_mem_nil⟩
          | cons head rest =>
            obtain rfl := hunder head List.mem_cons_self
            exact holds_all_iff hadmits hrows
        constructor
        · rintro ⟨hall, -⟩
          exact .inl ⟨hname, hholds.1 hall⟩
        · rintro (⟨-, hconsistent⟩ | ⟨hnot, -⟩)
          · exact ⟨hholds.2 hconsistent, hkept⟩
          · exact absurd hnot hname

end

@[reducible] def tableOrder : SqlOrder where
  ascending rows := rows.insertionSort fun a b => a.time ≤ b.time
  descending rows := rows.insertionSort fun a b => b.time ≤ a.time
  ascending_perm rows := List.perm_insertionSort _ rows
  descending_perm rows := List.perm_insertionSort _ rows
  ascending_sorted rows :=
    let _ : Std.Total fun a b : CandleRow => a.time ≤ b.time := ⟨fun a b => le_total a.time b.time⟩
    let _ : IsTrans CandleRow fun a b => a.time ≤ b.time := ⟨fun _ _ _ => le_trans⟩
    List.pairwise_insertionSort _ rows
  descending_sorted rows :=
    let _ : Std.Total fun a b : CandleRow => b.time ≤ a.time := ⟨fun a b => le_total b.time a.time⟩
    let _ : IsTrans CandleRow fun a b => b.time ≤ a.time := ⟨fun _ _ _ hab hbc => le_trans hbc hab⟩
    List.pairwise_insertionSort _ rows

def emptyTable : CandleTable := ⟨[], List.nodup_nil, fun _ h => absurd h List.not_mem_nil⟩

def closeCandle (close : ℚ) : Candle := ⟨.aware 0, .fin 1, .fin 2, .fin 1, .fin close, none, "public"⟩

/-- **Of two candles of one second the second one is dropped without a word.** -/
theorem save_candles_strict_drops :
    (∃ t, @saveCandles Dataset.plainHost emptyTable "XAUUSD" .m15 [closeCandle 1, closeCandle 2] (some "public")
      false {} = (t, .ok 1) ∧ t.rows = [@toRow Dataset.plainHost "public" "XAUUSD" .m15 (closeCandle 1)]) ∧
    ¬@LosesNothing Dataset.plainHost tableOrder emptyTable "XAUUSD" .m15 [closeCandle 1, closeCandle 2] "public"
      {} := by
  let _ : Dataset.Host := Dataset.plainHost
  let _ : SqlOrder := tableOrder
  have hsave : ∃ t, saveCandles emptyTable "XAUUSD" .m15 [closeCandle 1, closeCandle 2] (some "public") false {} =
      (t, .ok 1) ∧ t.rows = [toRow "public" "XAUUSD" .m15 (closeCandle 1)] := ⟨_, rfl, rfl⟩
  refine ⟨hsave, fun h => ?_⟩
  obtain ⟨t, heq, hrows⟩ := hsave
  unfold LosesNothing at h
  rw [heq] at h
  obtain ⟨row, hrow, -, hvalues⟩ := load_iff_holds.1 (h.1 (closeCandle 2) (by decide))
  rw [hrows, List.mem_singleton] at hrow
  rw [hrow] at hvalues
  exact absurd hvalues (by decide)

end CandleStore
end Jqe
