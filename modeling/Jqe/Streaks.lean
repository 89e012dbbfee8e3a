import Mathlib.Data.List.Induction
import Mathlib.Data.List.Forall2
import Mathlib.Order.Bounds.Basic
import Mathlib.Order.MinMax
/-!
# Streaks — a counter of hits in a row and the latch it trips

A counter counts the hits since the last miss; the latch closes at the `k`-th hit in a row and stays closed.  `Runs`
keeps the longest run instead.
-/
namespace Streaks

open List

structure Latch where
  count : ℕ
  tripped : Bool
  deriving DecidableEq

def Latch.next (k : ℕ) (l : Latch) (hit : Bool) : Latch :=
  if hit then ⟨l.count + 1, l.tripped || decide (k ≤ l.count + 1)⟩ else ⟨0, l.tripped⟩

/-- The latch after some results. -/
def latchOf (k : ℕ) (hits : List Bool) : Latch := hits.foldl (Latch.next k) ⟨0, false⟩

def HasRun (k : ℕ) (hits : List Bool) : Prop := List.replicate k true <:+: hits

theorem latchOf_concat (k : ℕ) (hits : List Bool) (hit : Bool) :
    latchOf k (hits ++ [hit]) = (latchOf k hits).next k hit := by
  unfold latchOf
  rw [foldl_append, foldl_cons, foldl_nil]

theorem le_count_iff (k n : ℕ) (hits : List Bool) :
    n ≤ (latchOf k hits).count ↔ List.replicate n true <:+ hits := by
  induction hits using List.reverseRecOn generalizing n with
  | nil =>
    rw [suffix_nil, replicate_eq_nil_iff]
    exact Nat.le_zero
  | append_singleton hits hit ih =>
    rw [latchOf_concat]
    cases n with
    | zero => exact iff_of_true (Nat.zero_le _) (nil_suffix)
    | succ n =>
      rw [suffix_concat_iff, replicate_succ']
      cases hit with
      | true =>
        have hcount : ((latchOf k hits).next k true).count = (latchOf k hits).count + 1 := rfl
        rw [hcount, Nat.succ_le_succ_iff, ih n]
        constructor
        · exact fun h => .inr ⟨_, rfl, h⟩
        · rintro (h | ⟨t, ht, hsuffix⟩)
          · simp at h
          · rw [append_cancel_right ht]
            exact hsuffix
      | false =>
        refine iff_of_false (Nat.not_succ_le_zero _) ?_
        rintro (h | ⟨t, ht, -⟩)
        · simp at h
        · have hlast := append_inj_right' ht rfl
          simp at hlast

/-- **The latch is closed exactly when some `k` results in a row were hits.** -/
theorem tripped_iff {k : ℕ} (hk : 0 < k) (hits : List Bool) : (latchOf k hits).tripped = true ↔ HasRun k hits := by
  induction hits using List.reverseRecOn with
  | nil =>
    refine iff_of_false Bool.false_ne_true fun h => ?_
    unfold HasRun at h
    rw [infix_nil, replicate_eq_nil_iff] at h
    omega
  | append_singleton hits hit ih =>
    unfold HasRun at ih ⊢
    rw [infix_concat_iff, ← le_count_iff k k, latchOf_concat, ← ih]
    cases hit with
    | true =>
      have htripped : ((latchOf k hits).next k true).tripped
          = ((latchOf k hits).tripped || decide (k ≤ ((latchOf k hits).next k true).count)) := rfl
      rw [htripped, Bool.or_eq_true, decide_eq_true_eq, or_comm]
    | false =>
      have hcount : ((latchOf k hits).next k false).count = 0 := rfl
      have htripped : ((latchOf k hits).next k false).tripped = (latchOf k hits).tripped := rfl
      rw [htripped, hcount]
      constructor
      · exact .inr
      · rintro (h | h)
        · omega
        · exact h

theorem Latch.next_mono {k : ℕ} {l l' : Latch} {hit hit' : Bool} (hcount : l.count ≤ l'.count)
    (htripped : l.tripped = true → l'.tripped = true) (hhit : hit = true → hit' = true) :
    (l.next k hit).count ≤ (l'.next k hit').count ∧
      ((l.next k hit).tripped = true → (l'.next k hit').tripped = true) := by
  unfold Latch.next
  cases hit with
  | false =>
    cases hit' with
    | false => exact ⟨Nat.le_refl _, htripped⟩
    | true => exact ⟨Nat.zero_le _, fun h => by simp [htripped h]⟩
  | true =>
    rw [hhit rfl]
    refine ⟨Nat.succ_le_succ hcount, fun h => ?_⟩
    simp only [if_true, Bool.or_eq_true, decide_eq_true_eq] at h ⊢
    rcases h with h | h
    · exact .inl (htripped h)
    · exact .inr (by omega)

theorem tripped_mono (k : ℕ) {hits hits' : List Bool}
    (h : List.Forall₂ (fun a b : Bool => a = true → b = true) hits hits') :
    (latchOf k hits).tripped = true → (latchOf k hits').tripped = true := by
  have hfold : ∀ {hits hits' : List Bool}, List.Forall₂ (fun a b : Bool => a = true → b = true) hits hits' →
      ∀ l l' : Latch, l.count ≤ l'.count → (l.tripped = true → l'.tripped = true) →
        (hits.foldl (Latch.next k) l).tripped = true → (hits'.foldl (Latch.next k) l').tripped = true := by
    intro hits hits' h
    induction h with
    | nil => exact fun _ _ _ htripped => htripped
    | cons hhit _ ih =>
      intro l l' hcount htripped
      obtain ⟨hcount', htripped'⟩ := Latch.next_mono (k := k) hcount htripped hhit
      exact ih _ _ hcount' htripped'
  exact hfold h _ _ (Nat.le_refl _) id

theorem HasRun.mono {k : ℕ} (hk : 0 < k) {hits hits' : List Bool}
    (h : List.Forall₂ (fun a b : Bool => a = true → b = true) hits hits') (hrun : HasRun k hits) : HasRun k hits' :=
  (tripped_iff hk hits').1 (tripped_mono k h ((tripped_iff hk hits).2 hrun))

/-! ### The longest run -/

structure Runs where
  run : ℕ
  longest : ℕ
  deriving DecidableEq

def Runs.next (r : Runs) (hit : Bool) : Runs :=
  let run := if hit then r.run + 1 else 0
  ⟨run, max r.longest run⟩

def runsOf (hits : List Bool) : Runs := hits.foldl Runs.next ⟨0, 0⟩

theorem runsOf_concat (hits : List Bool) (hit : Bool) : runsOf (hits ++ [hit]) = (runsOf hits).next hit := by
  unfold runsOf
  rw [foldl_append, foldl_cons, foldl_nil]

theorem run_eq_count (k : ℕ) (hits : List Bool) : (runsOf hits).run = (latchOf k hits).count := by
  induction hits using List.reverseRecOn with
  | nil => rfl
  | append_singleton hits hit ih =>
    rw [runsOf_concat, latchOf_concat]
    cases hit with
    | true => exact congrArg (· + 1) ih
    | false => rfl

theorem le_longest_iff (n : ℕ) (hits : List Bool) : n ≤ (runsOf hits).longest ↔ HasRun n hits := by
  induction hits using List.reverseRecOn with
  | nil =>
    unfold HasRun
    rw [infix_nil, replicate_eq_nil_iff]
    exact Nat.le_zero
  | append_singleton hits hit ih =>
    have hsuffix : n ≤ (runsOf (hits ++ [hit])).run ↔ List.replicate n true <:+ hits ++ [hit] := by
      rw [run_eq_count 0]
      exact le_count_iff 0 n _
    unfold HasRun at ih ⊢
    rw [infix_concat_iff, ← hsuffix, ← ih, runsOf_concat, or_comm]
    exact le_max_iff

/-- **The longest run is the longest block of hits.** -/
theorem longest_isGreatest {α : Type*} (hit : α → Bool) (l : List α) :
    IsGreatest {n | ∃ block, block <:+: l ∧ (∀ x ∈ block, hit x = true) ∧ block.length = n}
      (runsOf (l.map hit)).longest := by
  have hrun : ∀ n, HasRun n (l.map hit) ↔ ∃ block, block <:+: l ∧ (∀ x ∈ block, hit x = true) ∧ block.length = n := by
    intro n
    constructor
    · rintro ⟨pre, post, h⟩
      obtain ⟨rest, post', rfl, hrest, _⟩ := map_eq_append_iff.1 h.symm
      obtain ⟨pre', block, rfl, _, hblock⟩ := map_eq_append_iff.1 hrest
      obtain ⟨hlength, hall⟩ := eq_replicate_iff.1 hblock
      refine ⟨block, ⟨pre', post', rfl⟩, fun x hx => hall _ (mem_map_of_mem hx), ?_⟩
      rwa [length_map] at hlength
    · rintro ⟨block, hblock, hall, rfl⟩
      have hmap : block.map hit = List.replicate block.length true := by
        refine eq_replicate_iff.2 ⟨length_map _, fun b hb => ?_⟩
        obtain ⟨x, hx, rfl⟩ := mem_map.1 hb
        exact hall x hx
      unfold HasRun
      rw [← hmap]
      exact hblock.map hit
  constructor
  · exact (hrun _).1 ((le_longest_iff _ _).1 (le_refl _))
  · intro n hn
    exact (le_longest_iff n _).2 ((hrun n).2 hn)

end Streaks
