import Mathlib.Data.List.Forall2
/-!
# Regex — patterns matched by backtracking

A pattern tries its choices in order and repeats greedily, and what a group took last is kept.  What is repeated is one
letter of a class, so that a match always ends.  The matcher finds what the pattern can take (`run_sound`) and finds
something where it can take anything (`run_complete`).
-/
namespace Regex

open List

inductive Pattern (α G : Type) where
  | empty
  | letter (p : α → Bool)
  | many (p : α → Bool)
  /-- a test of the text that is left -/
  | look (p : List α → Bool)
  | seq (r r' : Pattern α G)
  | alt (r r' : Pattern α G)
  | group (g : G) (r : Pattern α G)

abbrev Groups (α G : Type) := G → Option (List α)

namespace Pattern

variable {α G β : Type}

/-- At least one letter of a class. -/
def plus (p : α → Bool) : Pattern α G := seq (letter p) (many p)

def opt (r : Pattern α G) : Pattern α G := alt r empty

def literal : List (α → Bool) → Pattern α G
  | [] => empty
  | p :: ps => seq (letter p) (literal ps)

def manyThen (p : α → Bool) (k : List α → Option β) : List α → Option β
  | [] => k []
  | a :: s => if p a then (manyThen p k s).or (k (a :: s)) else k (a :: s)

variable [DecidableEq G]

def run : Pattern α G → List α → Groups α G → (List α → Groups α G → Option β) → Option β
  | empty, s, m, k => k s m
  | letter p, s, m, k =>
    match s with
    | [] => none
    | a :: s => if p a then k s m else none
  | many p, s, m, k => manyThen p (fun t => k t m) s
  | look p, s, m, k => if p s then k s m else none
  | seq r r', s, m, k => r.run s m fun t m' => r'.run t m' k
  | alt r r', s, m, k => (r.run s m k).or (r'.run s m k)
  | group g r, s, m, k => r.run s m fun t m' => k t (Function.update m' g (some (s.take (s.length - t.length))))

/-- `fullmatch`: the groups of a match that takes all of the text. -/
def fullmatch (r : Pattern α G) (s : List α) : Option (Groups α G) :=
  r.run s (fun _ => none) fun t m => if t.isEmpty then some m else none

/-- `match`: the groups of a match at the start of the text. -/
def matchStart (r : Pattern α G) (s : List α) : Option (Groups α G) := r.run s (fun _ => none) fun _ m => some m

inductive Takes : Pattern α G → List α → List α → Groups α G → Groups α G → Prop
  | empty {t m} : Takes empty [] t m m
  | letter {p a t m} (h : p a = true) : Takes (letter p) [a] t m m
  | many {p u t m} (h : ∀ a ∈ u, p a = true) : Takes (many p) u t m m
  | look {p t m} (h : p t = true) : Takes (look p) [] t m m
  | seq {r r' u u' t m m' m''} (h : Takes r u (u' ++ t) m m') (h' : Takes r' u' t m' m'') : Takes (seq r r') (u ++ u') t m m''
  | left {r r' u t m m'} (h : Takes r u t m m') : Takes (alt r r') u t m m'
  | right {r r' u t m m'} (h : Takes r' u t m m') : Takes (alt r r') u t m m'
  | group {g r u t m m'} (h : Takes r u t m m') : Takes (group g r) u t m (Function.update m' g (some u))

/-! ### The matcher finds what the pattern takes -/

omit [DecidableEq G] in
theorem manyThen_sound {p : α → Bool} {k : List α → Option β} {b : β} :
    ∀ {s : List α}, manyThen p k s = some b → ∃ u t, s = u ++ t ∧ (∀ a ∈ u, p a = true) ∧ k t = some b
  | [], h => ⟨[], [], rfl, by simp, h⟩
  | a :: s, h => by
    unfold manyThen at h
    have hstay : k (a :: s) = some b → ∃ u t, a :: s = u ++ t ∧ (∀ a ∈ u, p a = true) ∧ k t = some b :=
      fun hk => ⟨[], a :: s, rfl, by simp, hk⟩
    by_cases hp : p a = true
    · rw [if_pos hp, Option.or_eq_some_iff] at h
      rcases h with h | ⟨-, h⟩
      · obtain ⟨u, t, rfl, hu, hk⟩ := manyThen_sound h
        exact ⟨a :: u, t, rfl, forall_mem_cons.2 ⟨hp, hu⟩, hk⟩
      · exact hstay h
    · rw [if_neg hp] at h
      exact hstay h

omit [DecidableEq G] in
theorem manyThen_complete {p : α → Bool} {k : List α → Option β} {t : List α} (hk : (k t).isSome = true) :
    ∀ {u : List α}, (∀ a ∈ u, p a = true) → (manyThen p k (u ++ t)).isSome = true
  | [], _ => by
    cases t with
    | nil => exact hk
    | cons a t =>
      unfold manyThen
      rw [nil_append]
      dsimp only
      split
      · rw [Option.isSome_or, hk, Bool.or_true]
      · exact hk
  | a :: u, hu => by
    rw [cons_append]
    unfold manyThen
    rw [if_pos (hu a mem_cons_self), Option.isSome_or,
      manyThen_complete hk fun x hx => hu x (mem_cons_of_mem a hx), Bool.true_or]

theorem run_sound : ∀ {r : Pattern α G} {s : List α} {m : Groups α G} {k : List α → Groups α G → Option β} {b : β},
    r.run s m k = some b → ∃ u t m', s = u ++ t ∧ Takes r u t m m' ∧ k t m' = some b
  | empty, s, m, _, _, h => ⟨[], s, m, rfl, .empty, h⟩
  | letter p, [], _, _, _, h => by cases h
  | letter p, a :: s, m, k, b, h => by
    have hrun : (if p a = true then k s m else none) = some b := h
    by_cases hp : p a = true
    · rw [if_pos hp] at hrun
      exact ⟨[a], s, m, rfl, .letter hp, hrun⟩
    · rw [if_neg hp] at hrun
      cases hrun
  | many p, s, m, k, b, h => by
    obtain ⟨u, t, hs, hu, hk⟩ := manyThen_sound h
    exact ⟨u, t, m, hs, .many hu, hk⟩
  | look p, s, m, k, b, h => by
    have hrun : (if p s = true then k s m else none) = some b := h
    by_cases hp : p s = true
    · rw [if_pos hp] at hrun
      exact ⟨[], s, m, rfl, .look hp, hrun⟩
    · rw [if_neg hp] at hrun
      cases hrun
  | seq r r', s, m, k, b, h => by
    obtain ⟨u, t, m', rfl, hr, hrest⟩ := run_sound (r := r) h
    obtain ⟨u', t', m'', rfl, hr', hk⟩ := run_sound (r := r') hrest
    exact ⟨u ++ u', t', m'', (append_assoc _ _ _).symm, .seq hr hr', hk⟩
  | alt r r', s, m, k, b, h => by
    rcases Option.or_eq_some_iff.1 h with h | ⟨-, h⟩
    · obtain ⟨u, t, m', hs, hr, hk⟩ := run_sound (r := r) h
      exact ⟨u, t, m', hs, .left hr, hk⟩
    · obtain ⟨u, t, m', hs, hr, hk⟩ := run_sound (r := r') h
      exact ⟨u, t, m', hs, .right hr, hk⟩
  | group g r, s, m, k, b, h => by
    obtain ⟨u, t, m', rfl, hr, hk⟩ := run_sound (r := r) h
    have htaken : (u ++ t).take ((u ++ t).length - t.length) = u := by
      rw [length_append, Nat.add_sub_cancel, take_left]
    rw [htaken] at hk
    exact ⟨u, t, _, rfl, .group hr, hk⟩

variable {r : Pattern α G} {m : Groups α G}

theorem run_complete {u t : List α} {m' : Groups α G} (h : Takes r u t m m') {k : List α → Groups α G → Option β}
    (hk : (k t m').isSome = true) : (r.run (u ++ t) m k).isSome = true := by
  induction h generalizing k with
  | empty => exact hk
  | letter hp =>
    show (if _ then k _ _ else none).isSome = true
    rw [if_pos hp]
    exact hk
  | many hu => exact manyThen_complete hk hu
  | look hp =>
    rw [nil_append]
    show (if _ then k _ _ else none).isSome = true
    rw [if_pos hp]
    exact hk
  | seq _ _ ih ih' =>
    rw [append_assoc]
    exact ih (ih' hk)
  | left _ ih =>
    show (Option.or _ _).isSome = true
    rw [Option.isSome_or, ih hk, Bool.true_or]
  | right _ ih =>
    show (Option.or _ _).isSome = true
    rw [Option.isSome_or, ih hk, Bool.or_true]
  | @group g r u t m m' _ ih =>
    refine ih ?_
    have htaken : (u ++ t).take ((u ++ t).length - t.length) = u := by
      rw [length_append, Nat.add_sub_cancel, take_left]
    rw [htaken]
    exact hk

theorem takes_of_fullmatch {s : List α} (h : r.fullmatch s = some m) : Takes r s [] (fun _ => none) m := by
  obtain ⟨u, t, m', rfl, hr, hk⟩ := run_sound h
  cases t with
  | nil =>
    cases hk
    rwa [append_nil]
  | cons a t => cases hk

theorem isSome_fullmatch {s : List α} : (r.fullmatch s).isSome = true ↔ ∃ m, Takes r s [] (fun _ => none) m := by
  constructor
  · intro h
    obtain ⟨m, hm⟩ := Option.isSome_iff_exists.1 h
    exact ⟨m, takes_of_fullmatch hm⟩
  · rintro ⟨m, hm⟩
    have hrun := run_complete hm (k := fun t m => if t.isEmpty then some m else none) rfl
    rwa [append_nil] at hrun

theorem takes_of_matchStart {s : List α} (h : r.matchStart s = some m) :
    ∃ u t, s = u ++ t ∧ Takes r u t (fun _ => none) m := by
  obtain ⟨u, t, m', hs, hr, hk⟩ := run_sound h
  cases hk
  exact ⟨u, t, hs, hr⟩

theorem isSome_matchStart {s : List α} (h : Takes r s [] (fun _ => none) m) : (r.matchStart s).isSome = true := by
  have hrun := run_complete h (k := fun _ m => some m) rfl
  rwa [append_nil] at hrun

/-! ### What each pattern takes -/

section

variable {u t : List α} {m m' : Groups α G} {r r' : Pattern α G} {p : α → Bool}

theorem takes_empty : Takes empty u t m m' ↔ u = [] ∧ m' = m := by
  constructor
  · intro h
    cases h
    exact ⟨rfl, rfl⟩
  · rintro ⟨rfl, rfl⟩
    exact .empty

theorem takes_look {p : List α → Bool} : Takes (look p) u t m m' ↔ (u = [] ∧ p t = true) ∧ m' = m := by
  constructor
  · intro h
    cases h with
    | look h => exact ⟨⟨rfl, h⟩, rfl⟩
  · rintro ⟨⟨rfl, h⟩, rfl⟩
    exact .look h

theorem takes_seq : Takes (seq r r') u t m m' ↔
    ∃ v w n, u = v ++ w ∧ Takes r v (w ++ t) m n ∧ Takes r' w t n m' := by
  constructor
  · intro h
    cases h with
    | seq h h' => exact ⟨_, _, _, rfl, h, h'⟩
  · rintro ⟨v, w, n, rfl, h, h'⟩
    exact .seq h h'

theorem takes_alt : Takes (alt r r') u t m m' ↔ Takes r u t m m' ∨ Takes r' u t m m' := by
  constructor
  · intro h
    cases h with
    | left h => exact .inl h
    | right h => exact .inr h
  · rintro (h | h)
    · exact .left h
    · exact .right h

theorem takes_opt : Takes (opt r) u t m m' ↔ Takes r u t m m' ∨ u = [] ∧ m' = m := takes_alt.trans (or_congr_right takes_empty)

theorem takes_group {g : G} : Takes (group g r) u t m m' ↔ ∃ n, Takes r u t m n ∧ m' = Function.update n g (some u) := by
  constructor
  · intro h
    cases h with
    | group h => exact ⟨_, h, rfl⟩
  · rintro ⟨n, h, rfl⟩
    exact .group h

/-- **A pattern without groups**, by the texts that it takes. -/
def Denotes (r : Pattern α G) (P : List α → Prop) : Prop := ∀ u t m m', Takes r u t m m' ↔ P u ∧ m' = m

variable {P : List α → Prop}

theorem Denotes.takes (h : Denotes r P) (hu : P u) (t : List α) (m : Groups α G) : Takes r u t m m :=
  (h u t m m).2 ⟨hu, rfl⟩

theorem denotes_letter : Denotes (G := G) (letter p) fun u => ∃ a, u = [a] ∧ p a = true := by
  intro u t m m'
  constructor
  · intro h
    cases h with
    | letter h => exact ⟨⟨_, rfl, h⟩, rfl⟩
  · rintro ⟨⟨a, rfl, h⟩, rfl⟩
    exact .letter h

theorem denotes_many : Denotes (G := G) (many p) fun u => ∀ a ∈ u, p a = true := by
  intro u t m m'
  constructor
  · intro h
    cases h with
    | many h => exact ⟨h, rfl⟩
  · rintro ⟨h, rfl⟩
    exact .many h

theorem denotes_plus : Denotes (G := G) (plus p) fun u => u ≠ [] ∧ ∀ a ∈ u, p a = true := by
  intro u t m m'
  unfold plus
  rw [takes_seq]
  constructor
  · rintro ⟨v, w, n, rfl, hv, hw⟩
    obtain ⟨⟨a, rfl, ha⟩, rfl⟩ := (denotes_letter _ _ _ _).1 hv
    obtain ⟨hall, rfl⟩ := (denotes_many _ _ _ _).1 hw
    exact ⟨⟨cons_ne_nil _ _, forall_mem_cons.2 ⟨ha, hall⟩⟩, rfl⟩
  · rintro ⟨⟨hne, hu⟩, rfl⟩
    cases u with
    | nil => exact absurd rfl hne
    | cons a u =>
      obtain ⟨ha, hu⟩ := forall_mem_cons.1 hu
      exact ⟨[a], u, m', rfl, .letter ha, .many hu⟩

theorem denotes_literal : ∀ {ps : List (α → Bool)},
    Denotes (G := G) (literal ps) (List.Forall₂ (fun p a => p a = true) ps)
  | [], u, t, m, m' => by
    unfold literal
    rw [takes_empty, forall₂_nil_left_iff]
  | p :: ps, u, t, m, m' => by
    unfold literal
    rw [takes_seq]
    constructor
    · rintro ⟨v, w, n, rfl, hv, hw⟩
      obtain ⟨⟨a, rfl, ha⟩, rfl⟩ := (denotes_letter _ _ _ _).1 hv
      obtain ⟨hall, rfl⟩ := (denotes_literal _ _ _ _).1 hw
      exact ⟨.cons ha hall, rfl⟩
    · rintro ⟨h, rfl⟩
      cases h with
      | cons ha hu => exact ⟨_, _, m', rfl, .letter ha, (denotes_literal _ _ _ _).2 ⟨hu, rfl⟩⟩

theorem Denotes.seq {P Q : List α → Prop} (h : Denotes r P) (h' : Denotes r' Q) :
    Denotes (seq r r') fun u => ∃ v w, u = v ++ w ∧ P v ∧ Q w := by
  intro u t m m'
  rw [takes_seq]
  constructor
  · rintro ⟨v, w, n, hu, hv, hw⟩
    obtain ⟨hP, rfl⟩ := (h _ _ _ _).1 hv
    obtain ⟨hQ, rfl⟩ := (h' _ _ _ _).1 hw
    exact ⟨⟨v, w, hu, hP, hQ⟩, rfl⟩
  · rintro ⟨⟨v, w, hu, hP, hQ⟩, rfl⟩
    exact ⟨v, w, m', hu, h.takes hP _ _, h'.takes hQ _ _⟩

theorem Denotes.alt {P Q : List α → Prop} (h : Denotes r P) (h' : Denotes r' Q) :
    Denotes (alt r r') fun u => P u ∨ Q u := by
  intro u t m m'
  rw [takes_alt, h u t m m', h' u t m m', or_and_right]

theorem Denotes.opt {P : List α → Prop} (h : Denotes r P) : Denotes (opt r) fun u => P u ∨ u = [] := by
  intro u t m m'
  rw [takes_opt, h u t m m', or_and_right]

theorem Denotes.congr {Q : List α → Prop} (h : Denotes r P) (hiff : ∀ u, P u ↔ Q u) : Denotes r Q := by
  intro u t m m'
  rw [h u t m m', hiff u]

theorem Denotes.fullmatch (h : Denotes r P) (s : List α) : (r.fullmatch s).isSome = true ↔ P s := by
  rw [isSome_fullmatch]
  constructor
  · rintro ⟨m, hm⟩
    exact ((h _ _ _ _).1 hm).1
  · exact fun hs => ⟨_, h.takes hs _ _⟩

end

end Pattern

end Regex
