import Mathlib.Logic.Function.Basic
/-!
# Memo — a function behind a table of its results

`call` looks an input up by its key and computes it where the table has no entry; errors are not stored.
-/
namespace Jqe
namespace Memo

open List

section

variable {I K O ε : Type} [DecidableEq K] (key : I → K) (f : I → Except ε O)

def call (table : K → Option O) (x : I) : Except ε O × (K → Option O) :=
  match table (key x) with
  | some y => (.ok y, table)
  | none =>
    match f x with
    | .ok y => (.ok y, Function.update table (key x) (some y))
    | .error e => (.error e, table)

def run (table : K → Option O) : List I → List (Except ε O)
  | [] => []
  | x :: xs => (call key f table x).1 :: run (call key f table x).2 xs

/-- **Every entry is the result of an input that came before.** -/
def From (past : List I) (table : K → Option O) : Prop :=
  ∀ k y, table k = some y → ∃ x ∈ past, key x = k ∧ f x = .ok y

/-- An input that has the result of another with its key. -/
def Agree (x x' : I) : Prop := key x = key x' → ∀ y, f x = .ok y → f x' = .ok y

variable {key f} {table : K → Option O} {past xs : List I}

theorem From.call (h : From key f past table) (x : I) : From key f (past ++ [x]) (Memo.call key f table x).2 := by
  have hold : From key f (past ++ [x]) table := by
    intro k y hentry
    obtain ⟨x', hx', hkey, hresult⟩ := h k y hentry
    exact ⟨x', mem_append_left _ hx', hkey, hresult⟩
  unfold Memo.call
  split
  · exact hold
  · split
    · rename_i y hy
      intro k y' hentry
      dsimp only at hentry
      by_cases hk : k = key x
      · subst hk
        rw [Function.update_self] at hentry
        cases hentry
        exact ⟨x, mem_append_right _ (mem_singleton_self x), rfl, hy⟩
      · rw [Function.update_of_ne hk] at hentry
        exact hold k y' hentry
    · exact hold

theorem call_fst (h : From key f past table) {x : I} (hagree : ∀ p ∈ past, Agree key f p x) :
    (call key f table x).1 = f x := by
  unfold call
  cases hentry : table (key x) with
  | some y =>
    obtain ⟨p, hp, hkey, hresult⟩ := h _ y hentry
    exact (hagree p hp hkey y hresult).symm
  | none =>
    cases hx : f x with
    | ok y => rfl
    | error e => rfl

theorem run_eq_map (hfrom : From key f past table) (hpair : (past ++ xs).Pairwise (Agree key f)) :
    run key f table xs = xs.map f := by
  induction xs generalizing table past with
  | nil => rfl
  | cons x xs ih =>
    have hagree : ∀ p ∈ past, Agree key f p x := fun p hp =>
      (pairwise_append.1 hpair).2.2 p hp x mem_cons_self
    have hpair' : ((past ++ [x]) ++ xs).Pairwise (Agree key f) := by
      rwa [append_assoc, singleton_append]
    rw [run, map_cons, call_fst hfrom hagree, ih (hfrom.call x) hpair']

theorem call_snd {x : I} {y : O} (h : (call key f table x).1 = .ok y) : (call key f table x).2 (key x) = some y := by
  unfold call at h ⊢
  cases hentry : table (key x) with
  | some y' =>
    rw [hentry] at h
    cases h
    exact hentry
  | none =>
    cases hx : f x with
    | ok y' =>
      rw [hentry, hx] at h
      cases h
      exact Function.update_self _ _ _
    | error e =>
      rw [hentry, hx] at h
      cases h

theorem call_keeps {k : K} {y : O} (h : table k = some y) (x : I) : (call key f table x).2 k = some y := by
  unfold call
  cases hentry : table (key x) with
  | some y' => exact h
  | none =>
    have hne : k ≠ key x := by
      rintro rfl
      rw [h] at hentry
      cases hentry
    cases f x with
    | ok y' => exact (Function.update_of_ne hne _ _).trans h
    | error e => exact h

theorem result_of_entry {k : K} {y : O} (hentry : table k = some y) (hrun : run key f table xs = xs.map f) :
    ∀ x ∈ xs, key x = k → f x = .ok y := by
  induction xs generalizing table with
  | nil => intro x hx; cases hx
  | cons x xs ih =>
    rw [run, map_cons] at hrun
    obtain ⟨hcall, hrest⟩ := List.cons.inj hrun
    intro x' hx' hkey
    rcases mem_cons.1 hx' with rfl | hx'
    · rw [← hcall, call, hkey, hentry]
    · exact ih (call_keeps hentry x) hrest x' hx' hkey

theorem agree_of_run (hrun : run key f table xs = xs.map f) : xs.Pairwise (Agree key f) := by
  induction xs generalizing table with
  | nil => exact .nil
  | cons x xs ih =>
    rw [run, map_cons] at hrun
    obtain ⟨hcall, hrest⟩ := List.cons.inj hrun
    refine .cons (fun x' hx' hkey y hy => ?_) (ih hrest)
    exact result_of_entry (call_snd (hcall.trans hy)) hrest x' hx' hkey.symm

/-- **A run from the empty table answers as the function does exactly when every input agrees with those before it.** -/
theorem run_eq_map_iff : run key f (fun _ => none) xs = xs.map f ↔ xs.Pairwise (Agree key f) := by
  refine ⟨agree_of_run, fun hpair => ?_⟩
  have hfrom : From key f [] fun _ => none := fun _ _ h => nomatch h
  exact run_eq_map hfrom hpair

end

end Memo
end Jqe
