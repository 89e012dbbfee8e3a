import Mathlib.Data.List.ReduceOption
import Mathlib.Tactic.Linarith
import Mathlib.Tactic.Ring
/-!
# Column — operations on the columns of a table

A column is a list of numbers, one for each row; `none` is a value that is no number.  An operation is causal when its
value at a row is a function of the rows up to it.  The averages and the rolling operations are the recurrences that
pandas documents.
-/
namespace Jqe
namespace Column

open List

variable {α β γ : Type}

/-! ### Operations -/

/-- The exponentially weighted means after a value. -/
def ewmFrom (w : ℚ) : ℚ → List ℚ → List ℚ
  | _, [] => []
  | y, x :: xs => (w * x + (1 - w) * y) :: ewmFrom w (w * x + (1 - w) * y) xs

/-- **Exponentially weighted means**: the first is the first value. -/
def ewm (w : ℚ) : List ℚ → List ℚ
  | [] => []
  | x :: xs => x :: ewmFrom w x xs

/-- The values of the row before. -/
def shift (xs : List α) : List (Option α) := (none :: xs.map some).take xs.length

def window (n i : ℕ) (xs : List α) : List α := (xs.take (i + 1)).drop (i + 1 - n)

def mean (least : ℕ) (xs : List (Option ℚ)) : Option ℚ :=
  if xs.reduceOption.length < least then none else some (xs.reduceOption.sum / xs.reduceOption.length)

/-- **Means of the last `n` rows.** -/
def rolling (n least : ℕ) (xs : List (Option ℚ)) : List (Option ℚ) :=
  (List.range xs.length).map fun i => mean least (window n i xs)

def larger : Option ℚ → Option ℚ → Option ℚ
  | some x, some y => some (max x y)
  | some x, none => some x
  | none, y => y

/-- `x < y`: false unless both are numbers. -/
def below : Option ℚ → Option ℚ → Bool
  | some x, some y => x < y
  | _, _ => false

theorem below_iff {x y : Option ℚ} : below x y = true ↔ ∃ a b, x = some a ∧ y = some b ∧ a < b := by
  cases x <;> cases y <;> simp [below]

theorem larger_isSome (x : ℚ) (y : Option ℚ) : (larger (some x) y).isSome = true := by
  cases y <;> rfl

/-! ### Lengths and rows -/

@[simp] theorem ewmFrom_length (w : ℚ) : ∀ (y : ℚ) (xs : List ℚ), (ewmFrom w y xs).length = xs.length
  | _, [] => rfl
  | y, x :: xs => congrArg Nat.succ (ewmFrom_length w (w * x + (1 - w) * y) xs)

@[simp] theorem ewm_length (w : ℚ) (xs : List ℚ) : (ewm w xs).length = xs.length := by
  cases xs with
  | nil => rfl
  | cons x xs => exact congrArg Nat.succ (ewmFrom_length w x xs)

@[simp] theorem shift_length (xs : List α) : (shift xs).length = xs.length := by
  unfold shift
  rw [length_take, length_cons, length_map]
  omega

@[simp] theorem rolling_length (n least : ℕ) (xs : List (Option ℚ)) : (rolling n least xs).length = xs.length := by
  unfold rolling
  rw [length_map, length_range]

theorem shift_getElem?_succ (xs : List α) {i : ℕ} (hi : i + 1 < xs.length) : (shift xs)[i + 1]? = some xs[i]? := by
  unfold shift
  rw [getElem?_take_of_lt hi, getElem?_cons_succ, getElem?_map, getElem?_eq_getElem (by omega)]
  rfl

theorem rolling_getElem? (n least : ℕ) {xs : List (Option ℚ)} {i : ℕ} (hi : i < xs.length) :
    (rolling n least xs)[i]? = some (mean least (window n i xs)) := by
  unfold rolling
  rw [getElem?_map, getElem?_range hi]
  rfl

theorem mean_isSome {least : ℕ} {xs : List (Option ℚ)} (h : ∀ x ∈ xs, x.isSome = true) (hleast : least ≤ xs.length) :
    ∃ m, mean least xs = some m := by
  have hlen : xs.reduceOption.length = xs.length := reduceOption_length_eq_iff.2 h
  unfold mean
  rw [if_neg (by omega)]
  exact ⟨_, rfl⟩

/-! ### Causal operations -/

/-- **A causal operation**: of the first rows it makes the first rows of what it makes of all. -/
def Causal (f : List α → List β) : Prop := ∀ (n : ℕ) (xs : List α), f (xs.take n) = (f xs).take n

variable {f : List α → List β}

theorem Causal.comp {g : List β → List γ} (hg : Causal g) (hf : Causal f) : Causal fun xs => g (f xs) := by
  intro n xs
  dsimp only
  rw [hf n xs, hg n (f xs)]

theorem causal_id : Causal fun xs : List α => xs := fun _ _ => rfl

theorem causal_map (f : α → β) : Causal (List.map f) := fun _ _ => map_take

theorem Causal.zipWith {δ : Type} (g : β → γ → δ) {f' : List α → List γ} (hf : Causal f) (hf' : Causal f') :
    Causal fun xs => List.zipWith g (f xs) (f' xs) := by
  intro n xs
  dsimp only
  rw [hf n xs, hf' n xs, take_zipWith]

theorem causal_ewm (w : ℚ) : Causal (ewm w) := by
  have hfrom : ∀ (n : ℕ) (y : ℚ) (xs : List ℚ), ewmFrom w y (xs.take n) = (ewmFrom w y xs).take n := by
    intro n y xs
    induction xs generalizing n y with
    | nil =>
      rw [take_nil]
      exact take_nil.symm
    | cons x xs ih =>
      cases n with
      | zero => rfl
      | succ n =>
        rw [take_succ_cons]
        exact congrArg _ (ih n (w * x + (1 - w) * y))
  intro n xs
  cases xs with
  | nil =>
    rw [take_nil]
    exact take_nil.symm
  | cons x xs =>
    cases n with
    | zero => rfl
    | succ n =>
      rw [take_succ_cons]
      exact congrArg _ (hfrom n x xs)

theorem causal_shift : Causal (shift : List α → List (Option α)) := by
  intro n xs
  unfold shift
  rw [length_take, take_take, map_take]
  cases n with
  | zero => simp
  | succ n =>
    rw [← take_succ_cons, take_take]
    congr 1
    omega

theorem window_take {n i m : ℕ} (xs : List α) (hi : i < m) : window n i (xs.take m) = window n i xs := by
  unfold window
  rw [take_take, Nat.min_eq_left hi]

theorem causal_rolling (n least : ℕ) : Causal (rolling n least) := by
  intro m xs
  apply ext_getElem?
  intro i
  by_cases hi : i < (xs.take m).length
  · rw [rolling_getElem? n least hi]
    rw [length_take] at hi
    rw [getElem?_take_of_lt (by omega), rolling_getElem? n least (by omega), window_take xs (by omega)]
  · rw [getElem?_eq_none (by rw [rolling_length]; omega), getElem?_eq_none]
    rw [length_take, rolling_length, ← length_take]
    omega

/-! ### Operations that forget -/

/-- **An operation that has forgotten, after `d` rows, what came before the table.** -/
def Settled (d : ℕ) (f : List α → List β) : Prop :=
  ∀ (k : ℕ) (xs : List α) (j : ℕ), d ≤ j → (f (xs.drop k))[j]? = (f xs)[k + j]?

theorem settled_id : Settled 0 fun xs : List α => xs := fun _ _ _ _ => getElem?_drop

theorem Settled.mono {d d' : ℕ} (h : Settled d f) (hle : d ≤ d') : Settled d' f :=
  fun k xs j hj => h k xs j (hle.trans hj)

theorem Settled.map {d : ℕ} (h : Settled d f) (g : β → γ) : Settled d fun xs => (f xs).map g := by
  intro k xs j hj
  dsimp only
  rw [getElem?_map, getElem?_map, h k xs j hj]

theorem Settled.zipWith {δ : Type} {d : ℕ} {f' : List α → List γ} (h : Settled d f) (h' : Settled d f') (g : β → γ → δ) :
    Settled d fun xs => List.zipWith g (f xs) (f' xs) := by
  intro k xs j hj
  dsimp only
  rw [getElem?_zipWith, getElem?_zipWith, h k xs j hj, h' k xs j hj]

theorem Settled.of_map {d : ℕ} {g : List β → List γ} (h : Settled d g) (f : α → β) : Settled d fun xs => g (xs.map f) := by
  intro k xs j hj
  dsimp only
  rw [map_drop, h k (xs.map f) j hj]

theorem settled_shift : Settled 1 (shift : List α → List (Option α)) := by
  intro k xs j hj
  obtain ⟨j, rfl⟩ := Nat.exists_eq_add_of_le' hj
  by_cases hlt : k + j + 1 < xs.length
  · rw [shift_getElem?_succ (xs.drop k) (by rw [length_drop]; omega), getElem?_drop, ← Nat.add_assoc,
      shift_getElem?_succ xs hlt]
  · rw [getElem?_eq_none (by rw [shift_length, length_drop]; omega),
      getElem?_eq_none (by rw [shift_length]; omega)]

theorem window_congr {n i i' : ℕ} {xs ys : List α} (hn : n ≤ i + 1) (hn' : n ≤ i' + 1)
    (h : ∀ j < n, xs[i + 1 - n + j]? = ys[i' + 1 - n + j]?) : window n i xs = window n i' ys := by
  apply ext_getElem?
  intro j
  unfold window
  rw [getElem?_drop, getElem?_drop]
  by_cases hj : j < n
  · rw [getElem?_take_of_lt (by omega), getElem?_take_of_lt (by omega)]
    exact h j hj
  · rw [getElem?_eq_none (by rw [length_take]; omega), getElem?_eq_none (by rw [length_take]; omega)]

theorem Settled.rolling {d : ℕ} {f : List α → List (Option ℚ)} (h : Settled d f) (n least : ℕ) :
    Settled (d + n) fun xs => rolling n least (f xs) := by
  intro k xs j hj
  dsimp only
  have hrow := h k xs j (by omega)
  by_cases hlt : k + j < (f xs).length
  · have hwindow : window n j (f (xs.drop k)) = window n (k + j) (f xs) := by
      refine window_congr (by omega) (by omega) fun i hi => ?_
      rw [h k xs _ (by omega)]
      congr 1
      omega
    rw [getElem?_eq_getElem hlt] at hrow
    rw [rolling_getElem? n least hlt, rolling_getElem? n least (List.getElem?_eq_some_iff.1 hrow).1, hwindow]
  · have hlen : (f (xs.drop k)).length ≤ j :=
      List.getElem?_eq_none_iff.1 (hrow.trans (getElem?_eq_none (Nat.le_of_not_lt hlt)))
    rw [getElem?_eq_none (by rw [rolling_length]; exact hlen),
      getElem?_eq_none (by rw [rolling_length]; exact Nat.le_of_not_lt hlt)]

/-! ### Reflection -/

theorem ewm_sub (w c : ℚ) (xs : List ℚ) : ewm w (xs.map (c - ·)) = (ewm w xs).map (c - ·) := by
  have hfrom : ∀ (y : ℚ) (xs : List ℚ), ewmFrom w (c - y) (xs.map (c - ·)) = (ewmFrom w y xs).map (c - ·) := by
    intro y xs
    induction xs generalizing y with
    | nil => rfl
    | cons x xs ih =>
      have hstep : w * (c - x) + (1 - w) * (c - y) = c - (w * x + (1 - w) * y) := by ring
      rw [map_cons]
      unfold ewmFrom
      rw [hstep, ih, map_cons]
  cases xs with
  | nil => rfl
  | cons x xs => exact congrArg _ (hfrom x xs)

theorem shift_map (f : α → β) (xs : List α) : shift (xs.map f) = (shift xs).map (Option.map f) := by
  unfold shift
  rw [length_map, map_take, map_cons, map_map, map_map]
  rfl

theorem larger_comm (x y : Option ℚ) : larger x y = larger y x := by
  cases x with
  | none => cases y <;> rfl
  | some x =>
    cases y with
    | none => rfl
    | some y => exact congrArg some (max_comm x y)

end Column
end Jqe
