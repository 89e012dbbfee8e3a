import Mathlib.Algebra.BigOperators.Intervals
import Mathlib.Algebra.Order.Field.Basic
import Mathlib.Tactic.Linarith
/-!
# Bins — contiguous bins and runs of them

Bins between ascending boundaries `b 0 ≤ b 1 ≤ …`.  A range within the boundaries is the sum of its overlaps with the bins.
A run of bins that grows by one end bin at a time, until its weight reaches a threshold, is heavy enough and was not before
its last bin.
-/
namespace Jqe
namespace Bins

open Finset

/-! ### Overlaps -/

section

variable {F : Type} [AddCommGroup F] [LinearOrder F] [IsOrderedAddMonoid F] {b : ℕ → F} {low high : F} {n : ℕ}

def overlap (b : ℕ → F) (low high : F) (i : ℕ) : F := max 0 (min high (b (i + 1)) - max low (b i))

def clip (low high x : F) : F := max low (min high x)

omit [IsOrderedAddMonoid F] in
theorem overlap_nonneg (b : ℕ → F) (low high : F) (i : ℕ) : 0 ≤ overlap b low high i := le_max_left _ _

theorem overlap_eq_clip {i : ℕ} (hle : low ≤ high) (hb : b i ≤ b (i + 1)) :
    overlap b low high i = clip low high (b (i + 1)) - clip low high (b i) := by
  unfold overlap clip
  rcases le_total high (b i) with hright | hleft
  · -- the bin is to the right of the range
    rw [min_eq_left (hright.trans hb), min_eq_left hright, max_eq_right hle, sub_self]
    exact max_eq_left (sub_nonpos.2 (hright.trans (le_max_right _ _)))
  · rw [min_eq_right hleft]
    rcases le_total (b (i + 1)) low with hbelow | habove
    · -- the bin is to the left of it
      rw [min_eq_right (hbelow.trans hle), max_eq_left hbelow, max_eq_left (hb.trans hbelow), sub_self]
      exact max_eq_left (sub_nonpos.2 hbelow)
    · have hmin : low ≤ min high (b (i + 1)) := le_min hle habove
      rw [max_eq_right hmin]
      exact max_eq_right (sub_nonneg.2 (max_le hmin (le_min hleft hb)))

/-- **The overlaps of a range with the bins that cover it add up to its length.** -/
theorem sum_overlap (hb : ∀ i < n, b i ≤ b (i + 1)) (hle : low ≤ high) (hlow : b 0 ≤ low) (hhigh : high ≤ b n) :
    ∑ i ∈ range n, overlap b low high i = high - low := by
  have hclip : ∑ i ∈ range n, overlap b low high i =
      ∑ i ∈ range n, (clip low high (b (i + 1)) - clip low high (b i)) :=
    sum_congr rfl fun i hi => overlap_eq_clip hle (hb i (mem_range.1 hi))
  rw [hclip, sum_range_sub fun i => clip low high (b i)]
  unfold clip
  rw [min_eq_left hhigh, max_eq_right hle, min_eq_right (hlow.trans hle), max_eq_left hlow]

end

/-! ### Runs -/

structure Run (F : Type) where
  low : ℕ
  high : ℕ
  weight : F
  deriving DecidableEq

section

variable {F : Type} [AddCommMonoid F] [LinearOrder F] {w : ℕ → F} {below : Run F → Bool} {n : ℕ} {threshold : F}

def Run.extend (w : ℕ → F) (below : Run F → Bool) (r : Run F) : Run F :=
  if below r then { r with low := r.low - 1, weight := r.weight + w (r.low - 1) }
  else { r with high := r.high + 1, weight := r.weight + w (r.high + 1) }

/-- The run still grows: it is too light, and a bin of the `n` is left outside. -/
def Run.Grows (n : ℕ) (threshold : F) (r : Run F) : Prop := r.weight < threshold ∧ (0 < r.low ∨ r.high < n - 1)

instance (n : ℕ) (threshold : F) (r : Run F) : Decidable (r.Grows n threshold) :=
  inferInstanceAs (Decidable (_ ∧ _))

def grow (w : ℕ → F) (below : Run F → Bool) (n : ℕ) (threshold : F) : ℕ → Run F → Run F
  | 0, r => r
  | fuel + 1, r => if r.Grows n threshold then grow w below n threshold fuel (r.extend w below) else r

/-- A choice of sides that only takes bins that exist. -/
def Admissible (n : ℕ) (below : Run F → Bool) : Prop :=
  ∀ r : Run F, (below r = true → 0 < r.low) ∧ (below r = false → 0 < r.low ∨ r.high < n - 1 → r.high < n - 1)

/-- **A run around a bin**: its weight is that of its bins, and it was too light before the last bin that `below` chose. -/
structure Run.Around (w : ℕ → F) (below : Run F → Bool) (n : ℕ) (threshold : F) (p : ℕ) (r : Run F) : Prop where
  low_le : r.low ≤ p
  le_high : p ≤ r.high
  high_lt : r.high < n
  weight : r.weight = ∑ i ∈ Icc r.low r.high, w i
  last : (r.low = p ∧ r.high = p) ∨ ∃ r' : Run F, r'.weight < threshold ∧
    ((r.low < p ∧ below r' = true ∧ r' = ⟨r.low + 1, r.high, ∑ i ∈ Icc (r.low + 1) r.high, w i⟩) ∨
      (p < r.high ∧ below r' = false ∧ r' = ⟨r.low, r.high - 1, ∑ i ∈ Icc r.low (r.high - 1), w i⟩))

theorem Run.Around.extend {p : ℕ} {r : Run F} (h : r.Around w below n threshold p) (hbelow : Admissible n below)
    (hgrows : r.Grows n threshold) : (r.extend w below).Around w below n threshold p := by
  obtain ⟨hlight, houtside⟩ := hgrows
  have hle := h.low_le.trans h.le_high
  have hp := h.low_le
  have hhigh := h.le_high
  have hweight := h.weight
  unfold Run.extend
  cases hside : below r with
  | true =>
    obtain ⟨low, hlow⟩ := Nat.exists_eq_add_of_lt ((hbelow r).1 hside)
    rw [Nat.zero_add] at hlow
    rw [if_pos rfl, hlow, Nat.add_sub_cancel]
    refine ⟨by dsimp only; omega, hhigh, h.high_lt, ?_, .inr ⟨r, hlight, .inl ⟨by dsimp only; omega, hside, ?_⟩⟩⟩
    · dsimp only
      rw [hweight, hlow, Finset.Icc_add_one_left_eq_Ioc, add_comm, Finset.add_sum_Ioc_eq_sum_Icc (by omega)]
    · dsimp only
      rw [← hlow, ← hweight]
  | false =>
    have hlt := (hbelow r).2 hside houtside
    rw [if_neg Bool.false_ne_true]
    refine ⟨hp, by dsimp only; omega, by dsimp only; omega, ?_, .inr ⟨r, hlight, .inr ⟨by dsimp only; omega, hside, ?_⟩⟩⟩
    · dsimp only
      rw [hweight, Finset.sum_Icc_succ_top (by omega)]
    · dsimp only
      rw [Nat.add_sub_cancel, ← hweight]

theorem Run.Around.grow {p : ℕ} (hbelow : Admissible n below) : ∀ {fuel : ℕ} {r : Run F}, r.Around w below n threshold p →
    (Bins.grow w below n threshold fuel r).Around w below n threshold p
  | 0, _, h => h
  | fuel + 1, r, h => by
    unfold Bins.grow
    split
    · rename_i hgrows
      exact Run.Around.grow hbelow (h.extend hbelow hgrows)
    · exact h

omit [AddCommMonoid F] in
theorem Run.not_grows {r : Run F} (h : r.low + (n - 1 - r.high) = 0) : ¬r.Grows n threshold :=
  fun hgrows => by have := hgrows.2; omega

theorem grow_stops (hbelow : Admissible n below) : ∀ {fuel : ℕ} {r : Run F}, r.low + (n - 1 - r.high) ≤ fuel →
    ¬(grow w below n threshold fuel r).Grows n threshold
  | 0, r, h => by
    unfold grow
    exact Run.not_grows (by omega)
  | fuel + 1, r, h => by
    unfold grow
    split
    · rename_i hgrows
      refine grow_stops hbelow ?_
      unfold Run.extend
      cases hside : below r with
      | true =>
        have hpos := (hbelow r).1 hside
        rw [if_pos rfl]
        dsimp only
        omega
      | false =>
        have hlt := (hbelow r).2 hside hgrows.2
        rw [if_neg Bool.false_ne_true]
        dsimp only
        omega
    · assumption

theorem grow_spec {p : ℕ} (hbelow : Admissible n below) (hp : p < n) (htotal : threshold ≤ ∑ i ∈ range n, w i) :
    let r := grow w below n threshold n ⟨p, p, w p⟩
    r.Around w below n threshold p ∧ threshold ≤ r.weight := by
  intro r
  have hinit : Run.Around w below n threshold p ⟨p, p, w p⟩ := by
    refine ⟨Nat.le_refl p, Nat.le_refl p, hp, ?_, .inl ⟨rfl, rfl⟩⟩
    dsimp only
    rw [Icc_self, sum_singleton]
  have haround : r.Around w below n threshold p := hinit.grow hbelow
  have hstops : ¬r.Grows n threshold := grow_stops hbelow (by dsimp only; omega)
  refine ⟨haround, ?_⟩
  by_contra hlight
  have hall : r.low = 0 ∧ r.high = n - 1 := by
    have hlt := haround.high_lt
    have houtside : ¬(0 < r.low ∨ r.high < n - 1) := fun h => hstops ⟨not_le.1 hlight, h⟩
    omega
  have hrange : Icc r.low r.high = range n := by
    ext i
    rw [mem_Icc, mem_range]
    omega
  rw [haround.weight, hrange] at hlight
  exact hlight htotal

end

end Bins
end Jqe
