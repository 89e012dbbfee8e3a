import Mathlib.Data.List.Nodup
import Jqe.PyBase
/-!
# PyDict — dictionaries in insertion order

The items of a dictionary with distinct keys: `set` (`dictSet`) replaces the value of a key where it stands, and appends
a new key.

Values with their truth, and the entries of a mapping by key; an object without its class.
-/
namespace Jqe

open List

/-- **A dictionary.** -/
structure PyDict (V : Type) where
  items : List (String × V)
  nodup : (items.map Prod.fst).Nodup

namespace PyDict

variable {V : Type}

def empty : PyDict V := ⟨[], List.nodup_nil⟩

def values (d : PyDict V) : List V := d.items.map Prod.snd

def get? (d : PyDict V) (k : String) : Option V := d.items.lookup k

theorem map_fst_dictSet (k : String) (v : V) : ∀ d : List (String × V),
    (dictSet d k v).map Prod.fst = if k ∈ d.map Prod.fst then d.map Prod.fst else d.map Prod.fst ++ [k]
  | [] => by simp [dictSet]
  | (k', v') :: d => by
    unfold dictSet
    by_cases hk : k' = k
    · subst hk
      rw [if_pos rfl, map_cons, map_cons, if_pos mem_cons_self]
    · rw [if_neg hk, map_cons, map_fst_dictSet k v d, map_cons]
      by_cases hmem : k ∈ d.map Prod.fst
      · rw [if_pos hmem, if_pos (mem_cons_of_mem _ hmem)]
      · rw [if_neg hmem, if_neg (by simpa using ⟨Ne.symm hk, by simpa using hmem⟩), cons_append]

def set (d : PyDict V) (k : String) (v : V) : PyDict V where
  items := dictSet d.items k v
  nodup := by
    rw [map_fst_dictSet]
    split
    · exact d.nodup
    · rename_i hmem
      exact List.nodup_append.2 ⟨d.nodup, List.nodup_singleton k, fun a ha b hb => by
        rw [List.mem_singleton.1 hb]
        rintro rfl
        exact hmem ha⟩

@[simp] theorem get?_empty (k : String) : (empty : PyDict V).get? k = none := rfl

theorem get?_set (d : PyDict V) (k : String) (v : V) (k' : String) :
    (d.set k v).get? k' = if k' = k then some v else d.get? k' := lookup_dictSet k v k' d.items

@[simp] theorem get?_set_self (d : PyDict V) (k : String) (v : V) : (d.set k v).get? k = some v := by
  rw [get?_set, if_pos rfl]

theorem get?_set_of_ne (d : PyDict V) {k k' : String} (v : V) (h : k' ≠ k) : (d.set k v).get? k' = d.get? k' := by
  rw [get?_set, if_neg h]

theorem mem_items_iff (d : PyDict V) {k : String} {v : V} : (k, v) ∈ d.items ↔ d.get? k = some v := by
  have aux : ∀ l : List (String × V), (l.map Prod.fst).Nodup → ((k, v) ∈ l ↔ l.lookup k = some v) := by
    intro l
    induction l with
    | nil => simp
    | cons e l ih =>
      obtain ⟨k', v'⟩ := e
      intro hnodup
      rw [map_cons, nodup_cons] at hnodup
      by_cases hk : k = k'
      · subst hk
        rw [lookup_cons, beq_self_eq_true, mem_cons]
        constructor
        · rintro (heq | hmem)
          · cases heq
            rfl
          · exact absurd (mem_map_of_mem hmem) hnodup.1
        · intro heq
          cases heq
          exact .inl rfl
      · rw [lookup_cons, beq_false_of_ne hk, mem_cons, ← ih hnodup.2]
        constructor
        · rintro (heq | hmem)
          · cases heq
            exact absurd rfl hk
          · exact hmem
        · exact .inr
  exact aux d.items d.nodup

end PyDict

/-! ### A dictionary built from a list -/

section

variable {α : Type} (key : α → String)

theorem lookup_foldl_dictSet (k : String) : ∀ (l : List α) (d : List (String × α)),
    (l.foldl (fun d a => dictSet d (key a) a) d).lookup k = (l.reverse.find? fun a => key a == k).or (d.lookup k)
  | [], d => rfl
  | a :: l, d => by
    rw [foldl_cons, lookup_foldl_dictSet k l, lookup_dictSet, reverse_cons, find?_append, Option.or_assoc]
    by_cases h : k = key a
    · subst h
      simp
    · have hne : (key a == k) = false := beq_eq_false_iff_ne.2 (Ne.symm h)
      simp [h, hne]

theorem exists_perm_last [DecidableEq α] (l : List α) (f : String → Option α)
    (hsome : ∀ k a, f k = some a → a ∈ l ∧ key a = k) (hnone : ∀ k, f k = none → ∀ a ∈ l, key a ≠ k) :
    ∃ l' : List α, l'.Perm l ∧ ∀ k, (l'.reverse.find? fun a => key a == k) = f k := by
  refine ⟨l.filter (fun a => !decide (f (key a) = some a)) ++ l.filter (fun a => decide (f (key a) = some a)), ?_, ?_⟩
  · exact perm_append_comm.trans (filter_append_perm _ l)
  · intro k
    rw [reverse_append, find?_append]
    cases hk : f k with
    | some a =>
      obtain ⟨ha, rfl⟩ := hsome k a hk
      cases hfind : (l.filter fun b => decide (f (key b) = some b)).reverse.find? (fun b => key b == key a) with
      | some b =>
        have hmem := mem_reverse.1 (mem_of_find?_eq_some hfind)
        have hkey : key b = key a := by simpa using find?_some hfind
        have hb : f (key b) = some b := by simpa using (mem_filter.1 hmem).2
        rw [hkey, hk] at hb
        rw [hb]
        rfl
      | none =>
        have hno := List.find?_eq_none.1 hfind a (mem_reverse.2 (mem_filter.2 ⟨ha, by simpa using hk⟩))
        simp at hno
    | none =>
      rw [Option.or_eq_none_iff, List.find?_eq_none, List.find?_eq_none]
      have hno : ∀ a ∈ l, ¬((key a == k) = true) := fun a ha h => hnone k hk a ha (by simpa using h)
      exact ⟨fun a ha => hno a (mem_filter.1 (mem_reverse.1 ha)).1,
        fun a ha => hno a (mem_filter.1 (mem_reverse.1 ha)).1⟩

end

end Jqe

/-! ## What `json.loads` returns -/

namespace Jqe

inductive PyValue where
  | none
  | bool (b : Bool)
  | int (n : ℤ)
  | float (x : PyFloat)
  | str (s : String)
  | list (items : List PyValue)
  | dict (entries : List (String × PyValue))

namespace PyValue

def truthy : PyValue → Bool
  | none => false
  | bool b => b
  | int n => n != 0
  | float x => x != .fin 0
  | str s => s != ""
  | list items => !items.isEmpty
  | dict entries => !entries.isEmpty

/-- `hash(value)` does not raise. -/
def hashable : PyValue → Bool
  | list _ | dict _ => false
  | _ => true

/-- The value of a key, `None` where there is none. -/
def get (entries : List (String × PyValue)) (key : String) : PyValue := (entries.lookup key).getD none

def eqInt (value : PyValue) (n : ℤ) : Bool :=
  match value with
  | bool b => b.toNat == n
  | int m => m == n
  | float (.fin q) => q == n
  | _ => false

def eqStr (value : PyValue) (text : String) : Bool :=
  match value with
  | str s => s == text
  | _ => false

def text? : PyValue → Option String
  | str s => if blank s then .none else some s
  | _ => .none

end PyValue

end Jqe
