import Mathlib.Order.Nat
/-!
# Slot — runs of a cell that holds at most one item

A cell that is empty at first; every step puts an item into the empty cell, takes the one that is there, or keeps what
there is (perhaps changing it).
-/
namespace Slot

inductive Move where
  | put
  | take
  | keep
  deriving DecidableEq

variable {α : Type}

/-- **A run of `n` steps**, with what a step makes of the item it keeps. -/
structure Run (n : ℕ) (cell : ℕ → Option α) (move : ℕ → Move) (Kept : ℕ → α → α → Prop) : Prop where
  start : cell 0 = none
  put : ∀ k < n, move k = .put → cell k = none ∧ ∃ a, cell (k + 1) = some a
  take : ∀ k < n, move k = .take → (∃ a, cell k = some a) ∧ cell (k + 1) = none
  keep : ∀ k < n, move k = .keep → (cell k = none ∧ cell (k + 1) = none) ∨
    ∃ a b, cell k = some a ∧ cell (k + 1) = some b ∧ Kept k a b

/-- Nothing is put or taken strictly between two steps. -/
def Quiet (move : ℕ → Move) (i j : ℕ) : Prop := ∀ k, i < k → k < j → move k = .keep

variable {n : ℕ} {cell : ℕ → Option α} {move : ℕ → Move} {Kept : ℕ → α → α → Prop}

theorem Run.empty (h : Run n cell move Kept) {i j : ℕ} (hi : cell i = none) (hij : i ≤ j) (hj : j ≤ n)
    (hput : ∀ k, i ≤ k → k < j → move k ≠ .put) : cell j = none := by
  induction j, hij using Nat.le_induction with
  | base => exact hi
  | succ j hij ih =>
    have hcell := ih (by omega) fun k hk hkj => hput k hk (by omega)
    cases hmove : move j with
    | put => exact absurd hmove (hput j hij (Nat.lt_succ_self j))
    | take => exact (h.take j hj hmove).2
    | keep =>
      obtain ⟨-, hnext⟩ | ⟨a, b, ha, -, -⟩ := h.keep j hj hmove
      · exact hnext
      · rw [hcell] at ha
        cases ha

theorem Run.held (h : Run n cell move Kept) {i j : ℕ} (hi : move i = .put) (hij : i < j) (hj : j ≤ n)
    (htake : ∀ k, i < k → k < j → move k ≠ .take) : (∃ a, cell j = some a) ∧ Quiet move i j := by
  induction j, hij using Nat.le_induction with
  | base => exact ⟨(h.put i hj hi).2, fun k hk hkj => by omega⟩
  | succ j hij ih =>
    obtain ⟨⟨a, ha⟩, hquiet⟩ := ih (by omega) fun k hk hkj => htake k hk (by omega)
    cases hmove : move j with
    | put =>
      rw [(h.put j hj hmove).1] at ha
      cases ha
    | take => exact absurd hmove (htake j hij (Nat.lt_succ_self j))
    | keep =>
      refine ⟨?_, fun k hk hkj => ?_⟩
      · obtain ⟨hnone, -⟩ | ⟨-, b, -, hb, -⟩ := h.keep j hj hmove
        · rw [hnone] at ha
          cases ha
        · exact ⟨b, hb⟩
      · rcases Nat.lt_succ_iff_lt_or_eq.1 hkj with hkj | rfl
        · exact hquiet k hk hkj
        · exact hmove

theorem Run.put_before (h : Run n cell move Kept) {j : ℕ} (hj : j ≤ n) :
    ∀ {a : α}, cell j = some a → ∃ i < j, move i = .put ∧ Quiet move i j := by
  induction j with
  | zero =>
    intro a ha
    rw [h.start] at ha
    cases ha
  | succ j ih =>
    intro a ha
    cases hmove : move j with
    | put => exact ⟨j, Nat.lt_succ_self j, hmove, fun k hk hkj => by omega⟩
    | take =>
      rw [(h.take j hj hmove).2] at ha
      cases ha
    | keep =>
      obtain ⟨-, hnone⟩ | ⟨b, -, hb, -, -⟩ := h.keep j hj hmove
      · rw [hnone] at ha
        cases ha
      · obtain ⟨i, hi, hput, hquiet⟩ := ih (by omega) hb
        refine ⟨i, by omega, hput, fun k hk hkj => ?_⟩
        rcases Nat.lt_succ_iff_lt_or_eq.1 hkj with hkj | rfl
        · exact hquiet k hk hkj
        · exact hmove

theorem Run.put_between (h : Run n cell move Kept) {i j : ℕ} (hi : move i = .take) (hj : move j = .take) (hij : i < j)
    (hjn : j < n) : ∃ k, i < k ∧ k < j ∧ move k = .put := by
  by_contra hnone
  push Not at hnone
  have hcell := h.empty (h.take i (by omega) hi).2 hij (Nat.le_of_lt hjn) fun k hk hkj => hnone k hk hkj
  obtain ⟨⟨a, ha⟩, -⟩ := h.take j hjn hj
  rw [hcell] at ha
  cases ha

/-- **The rule for what is true of a held item**: it holds where the item is put, and every step that keeps the item
keeps it. -/
theorem Run.held_induction (h : Run n cell move Kept) {P : ℕ → α → Prop} {i j : ℕ} (hij : i < j) (hj : j ≤ n)
    (hquiet : Quiet move i j) (hput : ∀ a, cell (i + 1) = some a → P (i + 1) a)
    (hkeep : ∀ k a b, i < k → k < j → Kept k a b → P k a → P (k + 1) b) : ∀ a, cell j = some a → P j a := by
  induction j, hij using Nat.le_induction with
  | base => exact hput
  | succ j hij ih =>
    intro b hb
    obtain ⟨-, hnone⟩ | ⟨a, b', ha, hb', hkept⟩ := h.keep j hj (hquiet j hij (Nat.lt_succ_self j))
    · rw [hnone] at hb
      cases hb
    · obtain rfl : b' = b := Option.some.inj (hb'.symm.trans hb)
      have hbefore := ih (by omega) (fun k hk hkj => hquiet k hk (by omega))
        fun k a b hk hkj => hkeep k a b hk (by omega)
      exact hkeep j a b' hij (Nat.lt_succ_self j) hkept (hbefore a ha)

end Slot
