import Mathlib.Data.List.Nodup
/-!
# KeyedRows — rows under a primary key

What `INSERT OR IGNORE` and an `UPDATE` of the key do to the rows of a table.  The update visits its rows in any order
and compares the new key of each with the keys that are there at its turn.
-/
namespace KeyedRows

open List

variable {α κ : Type} [DecidableEq κ] (key : α → κ)

def insertNew (rows : List α) (row : α) : List α := if key row ∈ rows.map key then rows else rows ++ [row]

def insertAll (rows new : List α) : List α := new.foldl (insertNew key) rows

/-- The row of a key is replaced, unless another row has the key of what replaces it. -/
def move? (f : α → α) (rows : List α) (row : α) : Option (List α) :=
  if ∃ r ∈ rows, key r ≠ key row ∧ key r = key (f row) then none
  else some (rows.map fun r => if key r = key row then f r else r)

/-- **`UPDATE`** of the rows in `visited`, one after the other. -/
def moveAll? (f : α → α) (rows visited : List α) : Option (List α) := visited.foldlM (move? key f) rows

variable {key}

/-! ### Insertions -/

theorem nodup_insertNew {rows : List α} (h : (rows.map key).Nodup) (row : α) :
    ((insertNew key rows row).map key).Nodup := by
  unfold insertNew
  split
  · exact h
  · rename_i hnew
    rw [map_append, map_singleton]
    exact nodup_append.2 ⟨h, nodup_singleton _, fun a ha b hb => by
      rw [mem_singleton.1 hb]
      rintro rfl
      exact hnew ha⟩

theorem nodup_insertAll {rows : List α} (h : (rows.map key).Nodup) (new : List α) :
    ((insertAll key rows new).map key).Nodup := by
  induction new generalizing rows with
  | nil => exact h
  | cons row new ih => exact ih (nodup_insertNew h row)

/-- **What is inserted comes last**, in its order. -/
theorem insertAll_eq (rows new : List α) : ∃ inserted, inserted.Sublist new ∧ insertAll key rows new = rows ++ inserted := by
  induction new generalizing rows with
  | nil => exact ⟨[], List.Sublist.refl _, (append_nil rows).symm⟩
  | cons row new ih =>
    obtain ⟨inserted, hsub, heq⟩ := ih (insertNew key rows row)
    change insertAll key rows (row :: new) = _ at heq
    by_cases hold : key row ∈ rows.map key
    · refine ⟨inserted, hsub.cons _, heq.trans ?_⟩
      rw [insertNew, if_pos hold]
    · refine ⟨row :: inserted, hsub.cons_cons _, heq.trans ?_⟩
      rw [insertNew, if_neg hold, append_assoc, singleton_append]

theorem mem_insertAll {rows new : List α} (hnew : (new.map key).Nodup) {r : α} :
    r ∈ insertAll key rows new ↔ r ∈ rows ∨ r ∈ new ∧ key r ∉ rows.map key := by
  induction new generalizing rows with
  | nil => simp [insertAll]
  | cons row new ih =>
    rw [map_cons, nodup_cons] at hnew
    show r ∈ insertAll key (insertNew key rows row) new ↔ _
    rw [ih hnew.2]
    unfold insertNew
    by_cases hold : key row ∈ rows.map key
    · rw [if_pos hold]
      constructor
      · rintro (hr | ⟨hr, hfree⟩)
        · exact .inl hr
        · exact .inr ⟨mem_cons_of_mem _ hr, hfree⟩
      · rintro (hr | ⟨hr, hfree⟩)
        · exact .inl hr
        · obtain rfl | hr := mem_cons.1 hr
          · exact absurd hold hfree
          · exact .inr ⟨hr, hfree⟩
    · rw [if_neg hold, map_append, map_singleton]
      simp only [mem_append, mem_cons, not_mem_nil, or_false]
      constructor
      · rintro ((hr | rfl) | ⟨hr, hfree⟩)
        · exact .inl hr
        · exact .inr ⟨.inl rfl, hold⟩
        · exact .inr ⟨.inr hr, fun h => hfree (.inl h)⟩
      · rintro (hr | ⟨rfl | hr, hfree⟩)
        · exact .inl (.inl hr)
        · exact .inl (.inr rfl)
        · refine .inr ⟨hr, ?_⟩
          rintro (h | h)
          · exact hfree h
          · exact hnew.1 (h ▸ mem_map_of_mem hr)

/-! ### Updates of the key -/

theorem nodup_move? {f : α → α} {rows out : List α} {row : α} (h : (rows.map key).Nodup) (hrow : row ∈ rows)
    (hout : move? key f rows row = some out) : (out.map key).Nodup := by
  unfold move? at hout
  split at hout
  · cases hout
  · rename_i hfree
    cases hout
    rw [map_map]
    refine List.Nodup.map_on (fun a ha b hb hab => ?_) (List.Nodup.of_map _ h)
    have hsame : ∀ c ∈ rows, key c = key row → c = row := fun c hc hkey => inj_on_of_nodup_map h hc hrow hkey
    simp only [Function.comp_apply] at hab
    by_cases ha' : key a = key row
    · by_cases hb' : key b = key row
      · rw [hsame a ha ha', hsame b hb hb']
      · rw [if_pos ha', if_neg hb', hsame a ha ha'] at hab
        exact absurd ⟨b, hb, hb', hab.symm⟩ hfree
    · by_cases hb' : key b = key row
      · rw [if_neg ha', if_pos hb', hsame b hb hb'] at hab
        exact absurd ⟨a, ha, ha', hab⟩ hfree
      · rw [if_neg ha', if_neg hb'] at hab
        exact inj_on_of_nodup_map h ha hb hab

/-- **An update that is not refused moves the rows it visits**, in whatever order, and no other row. -/
theorem moveAll?_eq {f : α → α} {rows visited out : List α} (h : (rows.map key).Nodup) (hvisited : (visited.map key).Nodup)
    (hsub : ∀ r ∈ visited, r ∈ rows) (hout : moveAll? key f rows visited = some out) :
    (out = rows.map fun r => if key r ∈ visited.map key then f r else r) ∧ (out.map key).Nodup := by
  induction visited generalizing rows with
  | nil =>
    cases hout
    simp [h]
  | cons row visited ih =>
    obtain ⟨rows', hmove, hrest⟩ := Option.bind_eq_some_iff.1 hout
    rw [map_cons, nodup_cons] at hvisited
    have hnodup := nodup_move? h (hsub row mem_cons_self) hmove
    have hother : ∀ r ∈ visited, key r ≠ key row := fun r hr heq => hvisited.1 (heq ▸ mem_map_of_mem hr)
    unfold move? at hmove
    split at hmove
    · cases hmove
    · rename_i hfree
      cases hmove
      have hsub' : ∀ r ∈ visited, r ∈ rows.map fun r => if key r = key row then f r else r := fun r hr =>
        mem_map.2 ⟨r, hsub r (mem_cons_of_mem _ hr), if_neg (hother r hr)⟩
      obtain ⟨heq, hkeys⟩ := ih hnodup hvisited.2 hsub' hrest
      refine ⟨heq.trans ?_, hkeys⟩
      rw [map_map]
      refine map_congr_left fun r hr => ?_
      rw [Function.comp_apply]
      by_cases hrow : key r = key row
      · have hr' : r = row := inj_on_of_nodup_map h hr (hsub row mem_cons_self) hrow
        -- the row's new key is none of those still to be visited
        have hdone : key (f row) ∉ visited.map key := by
          rintro hmem
          obtain ⟨v, hv, hkey⟩ := mem_map.1 hmem
          exact hfree ⟨v, hsub v (mem_cons_of_mem _ hv), hother v hv, hkey⟩
        rw [if_pos hrow, hr', if_neg hdone, if_pos (by simp)]
      · rw [if_neg hrow]
        simp [hrow]

end KeyedRows
