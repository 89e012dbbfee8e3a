import Mathlib.Data.Nat.Notation
/-!
# Raising — computations that change a state and may raise

Rules of pre- and postconditions for `EStateM`: a triple says what holds of the state when the computation returns, and
what holds of it when the computation raises.  The state is kept by an exception.
-/
namespace Raising

variable {ε σ α β : Type}

/-- The state a computation leaves, however it ends. -/
def left : EStateM.Result ε σ α → σ
  | .ok _ s | .error _ s => s

/-- `try: body  except BaseException: handler; raise`. -/
def rethrow (body : EStateM ε σ α) (handler : EStateM ε σ Unit) : EStateM ε σ α := fun s =>
  match body s with
  | .ok a s' => .ok a s'
  | .error e s' =>
    match handler s' with
    | .ok _ s'' => .error e s''
    | .error e' s'' => .error e' s''

def finallyDo (body : EStateM ε σ α) (last : σ → σ) : EStateM ε σ α := fun s =>
  match body s with
  | .ok a s' => .ok a (last s')
  | .error e s' => .error e (last s')

/-- A value from outside, or the exception that comes instead. -/
def answered (answer : Except ε α) : EStateM ε σ α := fun s =>
  match answer with
  | .ok a => .ok a s
  | .error e => .error e s

theorem run_bind {m : EStateM ε σ α} {s t : σ} {a : α} (h : m s = .ok a t) (f : α → EStateM ε σ β) :
    (m >>= f) s = f a t := by
  show EStateM.bind m f s = f a t
  unfold EStateM.bind
  rw [h]

theorem run_bind_error {m : EStateM ε σ α} {s t : σ} {e : ε} (h : m s = .error e t) (f : α → EStateM ε σ β) :
    (m >>= f) s = .error e t := by
  show EStateM.bind m f s = .error e t
  unfold EStateM.bind
  rw [h]

/-- **From a state with `P`, a computation returns in one with `Q` or raises in one with `E`.** -/
def Triple (P : σ → Prop) (m : EStateM ε σ α) (Q : α → σ → Prop) (E : σ → Prop) : Prop :=
  ∀ s, P s → match m s with
    | .ok a s' => Q a s'
    | .error _ s' => E s'

variable {P P' R : σ → Prop} {m : EStateM ε σ α} {Q Q' : α → σ → Prop} {E E' : σ → Prop}

theorem Triple.intro (h : ∀ s, P s → (∃ a s', m s = .ok a s' ∧ Q a s') ∨ ∃ e s', m s = .error e s' ∧ E s') :
    Triple P m Q E := by
  intro s hs
  obtain ⟨a, s', hm, hQ⟩ | ⟨e, s', hm, hE⟩ := h s hs
  · rw [hm]
    exact hQ
  · rw [hm]
    exact hE

theorem Triple.elim (h : Triple P m Q E) {s : σ} (hs : P s) :
    (∃ a s', m s = .ok a s' ∧ Q a s') ∨ ∃ e s', m s = .error e s' ∧ E s' := by
  have hm := h s hs
  cases hr : m s with
  | ok a s' =>
    rw [hr] at hm
    exact .inl ⟨a, s', rfl, hm⟩
  | error e s' =>
    rw [hr] at hm
    exact .inr ⟨e, s', rfl, hm⟩

theorem Triple.weaken (h : Triple P m Q E) (hP : ∀ s, P' s → P s) (hQ : ∀ a s, Q a s → Q' a s)
    (hE : ∀ s, E s → E' s) : Triple P' m Q' E' := by
  intro s hs
  have hm := h s (hP s hs)
  cases hr : m s with
  | ok a t =>
    rw [hr] at hm
    exact hQ a t hm
  | error e t =>
    rw [hr] at hm
    exact hE t hm

theorem Triple.returns {a : α} (h : ∀ s, P s → Q a s) : Triple P (pure a : EStateM ε σ α) Q E := h

theorem Triple.bind {f : α → EStateM ε σ β} {T : β → σ → Prop} (hm : Triple P m Q E)
    (hf : ∀ a, Triple (Q a) (f a) T E) : Triple P (m >>= f) T E := by
  intro s hs
  have h := hm s hs
  show match EStateM.bind m f s with
    | .ok a s' => T a s'
    | .error _ s' => E s'
  unfold EStateM.bind
  cases hr : m s with
  | ok a t =>
    rw [hr] at h
    exact hf a t h
  | error e t =>
    rw [hr] at h
    exact h

theorem Triple.ite {c : Prop} [Decidable c] {n : EStateM ε σ α} (hm : c → Triple P m Q E) (hn : ¬ c → Triple P n Q E) :
    Triple P (if c then m else n) Q E := by
  by_cases h : c
  · rw [if_pos h]
    exact hm h
  · rw [if_neg h]
    exact hn h

theorem Triple.raises {e : ε} (h : ∀ s, P s → E s) : Triple P (throw e : EStateM ε σ α) Q E := h

theorem Triple.reads {T : σ → σ → Prop} (h : ∀ s, P s → T s s) : Triple P (get : EStateM ε σ σ) T E := h

theorem Triple.modifies {f : σ → σ} {T : Unit → σ → Prop} (h : ∀ s, P s → T () (f s)) :
    Triple P (modify f : EStateM ε σ PUnit) T E := h

theorem Triple.answers {answer : Except ε α} (h : ∀ s, P s → (∀ a, answer = .ok a → Q a s) ∧ E s) :
    Triple P (answered answer) Q E := by
  intro s hs
  obtain ⟨hok, herror⟩ := h s hs
  unfold answered
  cases answer with
  | ok a => exact hok a rfl
  | error e => exact herror

theorem Triple.rethrow {handler : EStateM ε σ Unit} (hm : Triple P m Q R)
    (hh : Triple R handler (fun _ => E) E) : Triple P (rethrow m handler) Q E := by
  intro s hs
  have h := hm s hs
  unfold Raising.rethrow
  cases hr : m s with
  | ok a t =>
    rw [hr] at h
    exact h
  | error e t =>
    rw [hr] at h
    have h' := hh t h
    show match (match handler t with
        | .ok _ s'' => EStateM.Result.error e s''
        | .error e' s'' => .error e' s'' : EStateM.Result ε σ α) with
      | .ok a s' => Q a s'
      | .error _ s' => E s'
    cases hr' : handler t with
    | ok u t' =>
      rw [hr'] at h'
      exact h'
    | error e' t' =>
      rw [hr'] at h'
      exact h'

theorem Triple.finallyDo {last : σ → σ} (h : Triple P m (fun a s => Q a (last s)) (fun s => E (last s))) :
    Triple P (finallyDo m last) Q E := by
  intro s hs
  have hm := h s hs
  unfold Raising.finallyDo
  cases hr : m s with
  | ok a t =>
    rw [hr] at hm
    exact hm
  | error e t =>
    rw [hr] at hm
    exact hm

end Raising
