import Mathlib.Data.List.Chain
import Mathlib.Tactic.Linarith
import Mathlib.Tactic.Ring
/-!
# Spaced — numbers at one distance from each other

An ascending list of points of a grid, after `p` and up to `L`, has at most `(L - p) / d` members, and one that has as
many leaves no point out.
-/
namespace Spaced

open List

/-- Each number follows the one before it at the distance `d`. -/
def Steps (d : ℤ) (l : List ℤ) : Prop := l.IsChain fun a b => b = a + d

/-- The points of a grid after `p` and up to `L`. -/
def OnGrid (d p L x : ℤ) : Prop := p < x ∧ x ≤ L ∧ d ∣ x - p

variable {d p L : ℤ} {l : List ℤ}

theorem OnGrid.step_le {x : ℤ} (h : OnGrid d p L x) : p + d ≤ x := by
  have hle := Int.le_of_dvd (by linarith [h.1]) h.2.2
  linarith

theorem OnGrid.from {x y : ℤ} (hx : OnGrid d p L x) (hy : OnGrid d p L y) (hlt : x < y) : OnGrid d x L y := by
  refine ⟨hlt, hy.2.1, ?_⟩
  have hsub := Int.dvd_sub hy.2.2 hx.2.2
  rwa [show y - p - (x - p) = y - x by ring] at hsub

theorem grid_tail {x : ℤ} (hsorted : (x :: l).Pairwise (· < ·)) (hgrid : ∀ y ∈ x :: l, OnGrid d p L y) :
    ∀ y ∈ l, OnGrid d x L y := by
  intro y hy
  have hx := hgrid x mem_cons_self
  exact hx.from (hgrid y (mem_cons_of_mem x hy)) (rel_of_pairwise_cons hsorted hy)

/-- **A grid has no more points than fit.** -/
theorem length_le (hd : 0 < d) (hp : p ≤ L) (hsorted : l.Pairwise (· < ·)) (hgrid : ∀ x ∈ l, OnGrid d p L x) :
    (l.length : ℤ) ≤ (L - p) / d := by
  induction l generalizing p with
  | nil => exact Int.ediv_nonneg (by linarith) hd.le
  | cons x l ih =>
    have hx := hgrid x mem_cons_self
    have hrest := ih hx.2.1 hsorted.of_cons (grid_tail hsorted hgrid)
    have hstep := hx.step_le
    have hmono : (L - x + d) / d ≤ (L - p) / d := Int.ediv_le_ediv hd (by linarith)
    rw [Int.add_ediv_of_dvd_right (dvd_refl d), Int.ediv_self hd.ne'] at hmono
    rw [length_cons, Nat.cast_succ]
    linarith

/-- **A list with as many points as fit leaves none out.** -/
theorem steps_of_length (hd : 0 < d) (hsorted : l.Pairwise (· < ·)) (hgrid : ∀ x ∈ l, OnGrid d p L x)
    (hcount : (L - p) / d ≤ l.length) : Steps d (p :: l) := by
  induction l generalizing p with
  | nil => exact isChain_singleton p
  | cons x l ih =>
    have hx := hgrid x mem_cons_self
    have htail := grid_tail hsorted hgrid
    have hbound := length_le hd hx.2.1 hsorted.of_cons htail
    have hstep := hx.step_le
    rw [length_cons, Nat.cast_succ] at hcount
    have hfirst : x = p + d := by
      by_contra hne
      have hlt : p + d < x := lt_of_le_of_ne hstep (Ne.symm hne)
      -- a point that is left out costs the rest one more
      have hnext : OnGrid d (p + d) L x := by
        refine ⟨hlt, hx.2.1, ?_⟩
        have hsub := Int.dvd_sub hx.2.2 (dvd_refl d)
        rwa [show x - p - d = x - (p + d) by ring] at hsub
      have hstep2 := hnext.step_le
      have hmono : (L - x + d * 2) / d ≤ (L - p) / d := Int.ediv_le_ediv hd (by linarith)
      rw [Int.add_mul_ediv_left _ _ hd.ne'] at hmono
      linarith
    have hcount' : (L - x) / d ≤ l.length := by
      have heq : (L - x + d) / d = (L - p) / d := by rw [show L - x + d = L - p by rw [hfirst]; ring]
      rw [Int.add_ediv_of_dvd_right (dvd_refl d), Int.ediv_self hd.ne'] at heq
      linarith
    exact isChain_cons_cons.2 ⟨hfirst, ih hsorted.of_cons htail hcount'⟩

theorem Steps.mem (h : Steps d (p :: l)) (hL : L ∈ p :: l) {x : ℤ} (hx : OnGrid d p L x) : x ∈ l := by
  induction l generalizing p with
  | nil =>
    rw [mem_singleton] at hL
    have hlt := hx.1
    have hle := hx.2.1
    omega
  | cons y l ih =>
    obtain ⟨rfl, htail⟩ := isChain_cons_cons.1 h
    have hstep := hx.step_le
    by_cases heq : x = p + d
    · exact heq ▸ mem_cons_self
    · have hlt : p + d < x := lt_of_le_of_ne hstep (Ne.symm heq)
      have hsub := Int.dvd_sub hx.2.2 (dvd_refl d)
      rw [show x - p - d = x - (p + d) by ring] at hsub
      have hL' : L ∈ (p + d) :: l := by
        rcases mem_cons.1 hL with rfl | hL
        · exact absurd hx.2.1 (not_le.2 hx.1)
        · exact hL
      exact mem_cons_of_mem _ (ih htail hL' ⟨hlt, hx.2.1, hsub⟩)

theorem Steps.snoc {a b : ℤ} (h : Steps d l) (hlast : l.getLast? = some a) (hb : b = a + d) : Steps d (l ++ [b]) := by
  refine isChain_append.2 ⟨h, isChain_singleton b, fun x hx y hy => ?_⟩
  rw [hlast, Option.mem_some_iff] at hx
  rw [head?_cons, Option.mem_some_iff] at hy
  rw [← hx, ← hy, hb]

theorem Steps.pairwise (hd : 0 < d) (h : Steps d l) : l.Pairwise (· < ·) := by
  have hlt : l.IsChain (· < ·) := h.imp fun a b hab => by omega
  exact hlt.pairwise

end Spaced
