import Mathlib.Algebra.Order.Group.Defs
import Mathlib.Data.List.Basic
import Mathlib.Order.Bounds.Basic
/-!
# Drawdowns — the declines of a curve from its running peak

`marks` is the running peak of a curve and its decline from it, point by point, and `deepest` the first of the greatest
declines.  The greatest decline is the greatest fall between two points in order.
-/
namespace Drawdowns

open List

structure Mark (α : Type*) where
  peak : α
  amount : α
  deriving DecidableEq

section Peak

variable {α : Type*} [LinearOrder α]

def peakAt (peak : α) (curve : List α) (k : ℕ) : α := (curve.take (k + 1)).foldl max peak

theorem foldl_max_isGreatest : ∀ (l : List α) (p : α), IsGreatest {x | x = p ∨ x ∈ l} (l.foldl max p)
  | [], p => ⟨.inl rfl, fun x hx => by
    rcases hx with rfl | hx
    · exact le_refl _
    · cases hx⟩
  | y :: l, p => by
    obtain ⟨hmem, hle⟩ := foldl_max_isGreatest l (max p y)
    constructor
    · rcases hmem with heq | hmem
      · rcases max_choice p y with hp | hy
        · exact .inl (heq.trans hp)
        · exact .inr (mem_cons.2 (.inl (heq.trans hy)))
      · exact .inr (mem_cons_of_mem _ hmem)
    · rintro x (rfl | hx)
      · exact (le_max_left _ _).trans (hle (.inl rfl))
      · rcases mem_cons.1 hx with rfl | hx
        · exact (le_max_right _ _).trans (hle (.inl rfl))
        · exact hle (.inr hx)

end Peak

variable {α : Type*} [AddCommGroup α] [LinearOrder α]

def marks (peak : α) : List α → List (Mark α)
  | [] => []
  | x :: xs => ⟨max peak x, max peak x - x⟩ :: marks (max peak x) xs

/-- The first mark that is deeper than all before it, and than the given one. -/
def deepest (best : Mark α) (ms : List (Mark α)) : Mark α :=
  ms.foldl (fun b m => if b.amount < m.amount then m else b) best

theorem marks_getElem? (curve : List α) (p : α) (k : ℕ) :
    (marks p curve)[k]? = curve[k]?.map fun x => ⟨peakAt p curve k, peakAt p curve k - x⟩ := by
  induction curve generalizing p k with
  | nil => rfl
  | cons x curve ih =>
    cases k with
    | zero => rfl
    | succ k => exact ih (max p x) k

omit [AddCommGroup α] in
theorem deepest_spec (ms : List (Mark α)) (b : Mark α) :
    (deepest b ms = b ∧ ∀ m ∈ ms, m.amount ≤ b.amount) ∨
      ∃ k m, ms[k]? = some m ∧ deepest b ms = m ∧ b.amount < m.amount ∧
        (∀ (i : ℕ) (m' : Mark α), i < k → ms[i]? = some m' → m'.amount < m.amount) ∧ ∀ m' ∈ ms, m'.amount ≤ m.amount := by
  induction ms generalizing b with
  | nil => exact .inl ⟨rfl, fun m hm => by cases hm⟩
  | cons m ms ih =>
    have hstep : deepest b (m :: ms) = deepest (if b.amount < m.amount then m else b) ms := rfl
    rw [hstep]
    by_cases hdeeper : b.amount < m.amount
    · rw [if_pos hdeeper]
      rcases ih m with ⟨heq, hle⟩ | ⟨k, m', hm', heq, hlt, hbefore, hle⟩
      · refine .inr ⟨0, m, rfl, heq, hdeeper, fun i _ hi => absurd hi (Nat.not_lt_zero i), fun m' hm' => ?_⟩
        rcases mem_cons.1 hm' with rfl | hm'
        · exact le_refl _
        · exact hle m' hm'
      · refine .inr ⟨k + 1, m', hm', heq, hdeeper.trans hlt, fun i m'' hi hm'' => ?_, fun m'' hm'' => ?_⟩
        · cases i with
          | zero =>
            cases hm''
            exact hlt
          | succ i => exact hbefore i m'' (Nat.lt_of_succ_lt_succ hi) hm''
        · rcases mem_cons.1 hm'' with rfl | hm''
          · exact hlt.le
          · exact hle m'' hm''
    · rw [if_neg hdeeper]
      have hm : m.amount ≤ b.amount := not_lt.1 hdeeper
      rcases ih b with ⟨heq, hle⟩ | ⟨k, m', hm', heq, hlt, hbefore, hle⟩
      · refine .inl ⟨heq, fun m' hm' => ?_⟩
        rcases mem_cons.1 hm' with rfl | hm'
        · exact hm
        · exact hle m' hm'
      · refine .inr ⟨k + 1, m', hm', heq, hlt, fun i m'' hi hm'' => ?_, fun m'' hm'' => ?_⟩
        · cases i with
          | zero =>
            cases hm''
            exact hm.trans_lt hlt
          | succ i => exact hbefore i m'' (Nat.lt_of_succ_lt_succ hi) hm''
        · rcases mem_cons.1 hm'' with rfl | hm''
          · exact hm.trans hlt.le
          · exact hle m'' hm''

omit [AddCommGroup α] in
theorem peakAt_isGreatest (first : α) (rest : List α) (k : ℕ) :
    IsGreatest {x | ∃ i, i ≤ k ∧ (first :: rest)[i]? = some x} (peakAt first (first :: rest) k) := by
  have hset : {x | ∃ i, i ≤ k ∧ (first :: rest)[i]? = some x} =
      {x | x = first ∨ x ∈ (first :: rest).take (k + 1)} := by
    ext x
    change (∃ i, i ≤ k ∧ (first :: rest)[i]? = some x) ↔ (x = first ∨ x ∈ (first :: rest).take (k + 1))
    rw [mem_iff_getElem?]
    constructor
    · rintro ⟨i, hi, hx⟩
      exact .inr ⟨i, by rw [getElem?_take_of_lt (Nat.lt_succ_of_le hi), hx]⟩
    · rintro (rfl | ⟨i, hx⟩)
      · exact ⟨0, Nat.zero_le k, rfl⟩
      · have hi : i < k + 1 := by
          by_contra hle
          rw [getElem?_take_eq_none (not_lt.1 hle)] at hx
          cases hx
        rw [getElem?_take_of_lt hi] at hx
        exact ⟨i, Nat.le_of_lt_succ hi, hx⟩
  rw [hset]
  exact foldl_max_isGreatest _ _

/-- **The greatest decline is the greatest fall between two points in order.** -/
theorem deepest_isGreatest [IsOrderedAddMonoid α] (first : α) (rest : List α) (p : α) :
    IsGreatest {d | ∃ (i j : ℕ) (x y : α), i ≤ j ∧ (first :: rest)[i]? = some x ∧ (first :: rest)[j]? = some y ∧ d = x - y}
      (deepest ⟨p, 0⟩ (marks first (first :: rest))).amount := by
  have hmark := marks_getElem? (first :: rest) first
  constructor
  · rcases deepest_spec (marks first (first :: rest)) ⟨p, 0⟩ with ⟨heq, _⟩ | ⟨k, m, hm, heq, _⟩
    · rw [heq]
      exact ⟨0, 0, first, first, le_refl 0, rfl, rfl, (sub_self first).symm⟩
    · rw [hmark, Option.map_eq_some_iff] at hm
      obtain ⟨y, hy, rfl⟩ := hm
      obtain ⟨i, hi, hx⟩ := (peakAt_isGreatest first rest k).1
      rw [heq]
      exact ⟨i, k, _, y, hi, hx, hy, rfl⟩
  · rintro d ⟨i, j, x, y, hij, hx, hy, rfl⟩
    have hpeak : x ≤ peakAt first (first :: rest) j := (peakAt_isGreatest first rest j).2 ⟨i, hij, hx⟩
    have hj : (marks first (first :: rest))[j]? =
        some ⟨peakAt first (first :: rest) j, peakAt first (first :: rest) j - y⟩ := by
      rw [hmark, hy]
      rfl
    have hmem := mem_of_getElem? hj
    have hle : peakAt first (first :: rest) j - y ≤ (deepest ⟨p, 0⟩ (marks first (first :: rest))).amount := by
      rcases deepest_spec (marks first (first :: rest)) ⟨p, 0⟩ with ⟨heq, hall⟩ | ⟨k, m, _, heq, _, _, hall⟩ <;> rw [heq]
      · exact hall _ hmem
      · exact hall _ hmem
    exact (sub_le_sub_right hpeak y).trans hle

end Drawdowns
