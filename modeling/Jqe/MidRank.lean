import Mathlib.Data.Rat.Floor
/-!
# MidRank — the first greatest value of a list, and the mid-rank of a value

Both depend on the order of the values alone: a strictly increasing map of the list keeps the index and the rank.
-/
namespace Jqe
namespace MidRank

open List

variable {α β : Type} [LinearOrder α] [LinearOrder β]

/-! ### The first greatest value -/

/-- The scan with the best index so far and its value; a later value replaces it when it is greater. -/
def firstMaxFrom (best : ℕ) (value : α) (i : ℕ) : List α → ℕ
  | [] => best
  | x :: xs => if value < x then firstMaxFrom i x (i + 1) xs else firstMaxFrom best value (i + 1) xs

/-- **The first index of a greatest value**; of an empty list it is 0. -/
def firstMax : List α → ℕ
  | [] => 0
  | x :: xs => firstMaxFrom 0 x 1 xs

/-- **An index of a greatest value, with every value before it smaller.** -/
structure IsFirstMax (l : List α) (i : ℕ) (v : α) : Prop where
  at_index : l[i]? = some v
  greatest : ∀ x ∈ l, x ≤ v
  first : ∀ j < i, ∀ x, l[j]? = some x → x < v

variable {l : List α}

theorem IsFirstMax.unique {i j : ℕ} {v w : α} (h : IsFirstMax l i v) (h' : IsFirstMax l j w) : i = j ∧ v = w := by
  have hvw : v = w := le_antisymm (h'.greatest v (mem_of_getElem? h.at_index))
    (h.greatest w (mem_of_getElem? h'.at_index))
  refine ⟨?_, hvw⟩
  rcases lt_trichotomy i j with hlt | heq | hgt
  · exact absurd (h'.first i hlt v h.at_index) (by rw [hvw]; exact lt_irrefl w)
  · exact heq
  · exact absurd (h.first j hgt w h'.at_index) (by rw [hvw]; exact lt_irrefl w)

theorem IsFirstMax.concat {i : ℕ} {v : α} (h : IsFirstMax l i v) (x : α) :
    if v < x then IsFirstMax (l ++ [x]) l.length x else IsFirstMax (l ++ [x]) i v := by
  split
  · rename_i hlt
    refine ⟨getElem?_concat_length, fun y hy => ?_, fun j hj y hy => ?_⟩
    · rcases mem_append.1 hy with hy | hy
      · exact (h.greatest y hy).trans hlt.le
      · exact (mem_singleton.1 hy).le
    · rw [getElem?_append_left hj] at hy
      exact (h.greatest y (mem_of_getElem? hy)).trans_lt hlt
  · rename_i hge
    have hi : i < l.length := (List.getElem?_eq_some_iff.1 h.at_index).1
    refine ⟨(getElem?_append_left hi).trans h.at_index, fun y hy => ?_, fun j hj y hy => ?_⟩
    · rcases mem_append.1 hy with hy | hy
      · exact h.greatest y hy
      · exact (mem_singleton.1 hy).le.trans (not_lt.1 hge)
    · rw [getElem?_append_left (hj.trans hi)] at hy
      exact h.first j hj y hy

theorem isFirstMax_from (rest : List α) : ∀ {seen : List α} {best : ℕ} {value : α}, IsFirstMax seen best value →
    ∃ v, IsFirstMax (seen ++ rest) (firstMaxFrom best value seen.length rest) v := by
  induction rest with
  | nil =>
    intro seen best value h
    rw [append_nil]
    exact ⟨value, h⟩
  | cons x xs ih =>
    intro seen best value h
    have hstep := h.concat x
    unfold firstMaxFrom
    have hlen : seen.length + 1 = (seen ++ [x]).length := by simp
    rw [← singleton_append, ← append_assoc, hlen]
    by_cases hlt : value < x
    · rw [if_pos hlt] at hstep ⊢
      exact ih hstep
    · rw [if_neg hlt] at hstep ⊢
      exact ih hstep

theorem isFirstMax_firstMax (h : l ≠ []) : ∃ v, IsFirstMax l (firstMax l) v := by
  cases l with
  | nil => exact absurd rfl h
  | cons x xs =>
    have hone : IsFirstMax [x] 0 x :=
      ⟨rfl, fun y hy => (mem_singleton.1 hy).le, fun j hj => absurd hj (Nat.not_lt_zero j)⟩
    exact isFirstMax_from xs hone

theorem IsFirstMax.map {i : ℕ} {v : α} (h : IsFirstMax l i v) {f : α → β} (hf : StrictMonoOn f {x | x ∈ l}) :
    IsFirstMax (l.map f) i (f v) := by
  have hv : v ∈ l := mem_of_getElem? h.at_index
  refine ⟨by rw [getElem?_map, h.at_index]; rfl, fun y hy => ?_, fun j hj y hy => ?_⟩
  · obtain ⟨x, hx, rfl⟩ := mem_map.1 hy
    exact hf.monotoneOn hx hv (h.greatest x hx)
  · rw [getElem?_map, Option.map_eq_some_iff] at hy
    obtain ⟨x, hx, rfl⟩ := hy
    exact hf (mem_of_getElem? hx) hv (h.first j hj x hx)

/-! ### Mid-ranks -/

/-- The least of the ranks a value shares with its equals, counted from 1. -/
def lowestRank (l : List α) (v : α) : ℕ := l.countP (· < v) + 1

def highestRank (l : List α) (v : α) : ℕ := l.countP (· ≤ v)

def midRank (l : List α) (v : α) : ℚ := (lowestRank l v + highestRank l v) / 2

theorem highestRank_eq (l : List α) (v : α) : highestRank l v = l.countP (· < v) + l.countP (· = v) := by
  unfold highestRank
  induction l with
  | nil => rfl
  | cons x xs ih =>
    simp only [countP_cons, ih, decide_eq_true_eq]
    rcases lt_trichotomy x v with hlt | heq | hgt
    · rw [if_pos hlt.le, if_pos hlt, if_neg hlt.ne]
      omega
    · rw [if_pos heq.le, if_neg heq.not_lt, if_pos heq]
      omega
    · simp only [if_neg hgt.not_ge, if_neg hgt.not_gt, if_neg hgt.ne', Nat.add_zero]

theorem midRank_eq (l : List α) (v : α) :
    midRank l v = l.countP (· < v) + 1 + 1 / 2 * ((l.countP (· = v) : ℚ) - 1) := by
  unfold midRank lowestRank
  rw [highestRank_eq]
  push_cast
  ring

theorem midRank_bounds {v : α} (h : v ∈ l) : 1 ≤ midRank l v ∧ midRank l v ≤ l.length := by
  have hequal : 0 < l.countP (· = v) := countP_pos_iff.2 ⟨v, h, decide_eq_true rfl⟩
  have hle : highestRank l v ≤ l.length := countP_le_length
  have hhigh : lowestRank l v ≤ highestRank l v := by
    unfold lowestRank
    rw [highestRank_eq]
    omega
  have hlow : 1 ≤ lowestRank l v := Nat.le_add_left 1 _
  unfold midRank
  have hlow' : (1 : ℚ) ≤ lowestRank l v := by exact_mod_cast hlow
  have hhigh' : (lowestRank l v : ℚ) ≤ highestRank l v := by exact_mod_cast hhigh
  have hle' : (highestRank l v : ℚ) ≤ l.length := by exact_mod_cast hle
  constructor <;> linarith

theorem midRank_map {v : α} (hv : v ∈ l) {f : α → β} (hf : StrictMonoOn f {x | x ∈ l}) :
    midRank (l.map f) (f v) = midRank l v := by
  have hlow : lowestRank (l.map f) (f v) = lowestRank l v := by
    unfold lowestRank
    rw [countP_map]
    refine congrArg (· + 1) (countP_congr fun x hx => ?_)
    simp only [Function.comp_apply, decide_eq_true_eq]
    exact hf.lt_iff_lt hx hv
  have hhigh : highestRank (l.map f) (f v) = highestRank l v := by
    unfold highestRank
    rw [countP_map]
    refine countP_congr fun x hx => ?_
    simp only [Function.comp_apply, decide_eq_true_eq]
    exact hf.le_iff_le hx hv
  unfold midRank
  rw [hlow, hhigh]

end MidRank
end Jqe
