import Mathlib.Logic.Function.Basic
/-!
# Coro — programs that stop at every request to their environment

A coroutine is a tree: it returns, raises, or asks its environment something and continues with the answer (a value or
an exception).  `bind`, `tryCatch` and `finallyDo` are `bindAny`, as `await`, `except` and `finally` are.  A `Protocol` is
an automaton over requests and answers, and `wp` says that every request of a program is allowed in the phase it is made
in, and what the program ends with.
-/
namespace Coro

universe u v w x y

/-- **A program that asks its environment**: requests `Req`, an answer of type `Ans r` to the request `r` or an
exception of type `ε`. -/
inductive Prog (Req : Type u) (Ans : Req → Type v) (ε : Type w) (α : Type x) : Type (max u v w x) where
  | ret (a : α)
  | raise (e : ε)
  | call (r : Req) (k : Except ε (Ans r) → Prog Req Ans ε α)

variable {Req : Type u} {Ans : Req → Type v} {ε : Type w} {α β : Type x} {Q : Type y}

/-- A deterministic environment with state `W`. -/
abbrev Handler (Req : Type u) (Ans : Req → Type v) (ε : Type w) (W : Type y) := W → (r : Req) → Except ε (Ans r) × W

namespace Prog

/-- Continue with whatever the program ends with, a value or an exception. -/
def bindAny : Prog Req Ans ε α → (Except ε α → Prog Req Ans ε β) → Prog Req Ans ε β
  | .ret a, f => f (.ok a)
  | .raise e, f => f (.error e)
  | .call r k, f => .call r fun ans => (k ans).bindAny f

def ofExcept : Except ε α → Prog Req Ans ε α
  | .ok a => .ret a
  | .error e => .raise e

/-- Sequencing: an exception ends the whole. -/
def bind (p : Prog Req Ans ε α) (f : α → Prog Req Ans ε β) : Prog Req Ans ε β :=
  p.bindAny fun
    | .ok a => f a
    | .error e => .raise e

theorem bind_ret : ∀ p : Prog Req Ans ε α, p.bind .ret = p
  | .ret _ => rfl
  | .raise _ => rfl
  | .call r k => by
    have hk : ∀ ans, (k ans).bind .ret = k ans := fun ans => bind_ret (k ans)
    unfold bind at hk ⊢
    simp only [bindAny, hk]

instance : Monad (Prog Req Ans ε) where
  pure := .ret
  bind := bind

/-- One request; its answer, or its exception raised. -/
def perform (r : Req) : Prog Req Ans ε (Ans r) :=
  .call r ofExcept

/-- `try … except`: the handler sees every exception and re-raises those it does not name. -/
def tryCatch (p : Prog Req Ans ε α) (h : ε → Prog Req Ans ε α) : Prog Req Ans ε α :=
  p.bindAny fun
    | .ok a => .ret a
    | .error e => h e

/-- `try … finally`: `c` runs however `p` ends; an exception of `c` replaces the outcome of `p`. -/
def finallyDo (p : Prog Req Ans ε α) (c : Prog Req Ans ε β) : Prog Req Ans ε α :=
  p.bindAny fun out => c.bindAny fun
    | .ok _ => ofExcept out
    | .error e => .raise e

/-- **A program under one deterministic environment.** -/
def run {W : Type y} (h : Handler Req Ans ε W) : Prog Req Ans ε α → W → Except ε α × W
  | .ret a, w => (.ok a, w)
  | .raise e, w => (.error e, w)
  | .call r k, w => (k (h w r).1).run h (h w r).2

theorem run_bind {W : Type y} (h : Handler Req Ans ε W) (f : α → Prog Req Ans ε β) :
    ∀ (p : Prog Req Ans ε α) (w : W), (p >>= f).run h w =
      match p.run h w with
      | (.ok a, w') => (f a).run h w'
      | (.error e, w') => (.error e, w')
  | .ret _, _ => rfl
  | .raise _, _ => rfl
  | .call r k, w => run_bind h f (k (h w r).1) (h w r).2

theorem run_bindAny {W : Type y} (h : Handler Req Ans ε W) (f : Except ε α → Prog Req Ans ε β) :
    ∀ (p : Prog Req Ans ε α) (w : W), (p.bindAny f).run h w = (f (p.run h w).1).run h (p.run h w).2
  | .ret _, _ => rfl
  | .raise _, _ => rfl
  | .call r k, w => run_bindAny h f (k (h w r).1) (h w r).2

theorem run_bind_raised {W : Type y} {h : Handler Req Ans ε W} {f : α → Prog Req Ans ε β}
    {p : Prog Req Ans ε α} {w : W} {e : ε} (hp : (p.run h w).1 = .error e) : ((p >>= f).run h w).1 = .error e := by
  show ((p.bindAny _).run h w).1 = _
  rw [run_bindAny, hp]
  rfl

theorem run_perform {W : Type y} (h : Handler Req Ans ε W) (r : Req) (w : W) :
    (perform r).run h w = h w r := by
  unfold perform
  rw [run]
  cases hr : (h w r).1 <;> exact Prod.ext hr.symm rfl

end Prog

/-- **An automaton over the requests of a program and their answers.** -/
structure Protocol (Req : Type u) (Ans : Req → Type v) (ε : Type w) (Q : Type y) where
  allows : Q → Req → Prop
  next : Q → (r : Req) → Except ε (Ans r) → Q

/-- **Every request is allowed where it is made, and every end meets `post`**, whatever the answers are. -/
def wp (P : Protocol Req Ans ε Q) : Prog Req Ans ε α → Q → (Except ε α → Q → Prop) → Prop
  | .ret a, q, post => post (.ok a) q
  | .raise e, q, post => post (.error e) q
  | .call r k, q, post => P.allows q r ∧ ∀ ans, wp P (k ans) (P.next q r ans) post

variable {P : Protocol Req Ans ε Q}

@[simp] theorem wp_ret (a : α) (q : Q) (post : Except ε α → Q → Prop) :
    wp P (.ret a) q post ↔ post (.ok a) q := Iff.rfl

@[simp] theorem wp_pure (a : α) (q : Q) (post : Except ε α → Q → Prop) :
    wp P (pure a : Prog Req Ans ε α) q post ↔ post (.ok a) q := Iff.rfl

@[simp] theorem wp_raise (e : ε) (q : Q) (post : Except ε α → Q → Prop) :
    wp P (.raise e) q post ↔ post (.error e) q := Iff.rfl

@[simp] theorem wp_ofExcept (out : Except ε α) (q : Q) (post : Except ε α → Q → Prop) :
    wp P (Prog.ofExcept out) q post ↔ post out q := by
  cases out <;> exact Iff.rfl

theorem wp_perform (r : Req) (q : Q) (post : Except ε (Ans r) → Q → Prop) :
    wp P (Prog.perform r) q post ↔ P.allows q r ∧ ∀ ans, post ans (P.next q r ans) := by
  unfold Prog.perform
  rw [wp]
  simp only [wp_ofExcept]

theorem wp_mono {post post' : Except ε α → Q → Prop} (hpost : ∀ out q, post out q → post' out q) :
    ∀ (p : Prog Req Ans ε α) (q : Q), wp P p q post → wp P p q post'
  | .ret _, q, h => hpost _ q h
  | .raise _, q, h => hpost _ q h
  | .call _ k, _, h => ⟨h.1, fun ans => wp_mono hpost (k ans) _ (h.2 ans)⟩

/-- **The rule of sequencing**: the postcondition of the first part is what the rest needs. -/
theorem wp_bindAny {f : Except ε α → Prog Req Ans ε β} {post : Except ε β → Q → Prop} :
    ∀ (p : Prog Req Ans ε α) (q : Q),
      wp P (p.bindAny f) q post ↔ wp P p q fun out q' => wp P (f out) q' post
  | .ret _, _ => Iff.rfl
  | .raise _, _ => Iff.rfl
  | .call _ k, _ => and_congr_right fun _ => forall_congr' fun ans => wp_bindAny (k ans) _

theorem wp_bind (p : Prog Req Ans ε α) (f : α → Prog Req Ans ε β) (q : Q) (post : Except ε β → Q → Prop) :
    wp P (p >>= f) q post ↔ wp P p q fun
      | .ok a, q' => wp P (f a) q' post
      | .error e, q' => post (.error e) q' := by
  refine (wp_bindAny p q).trans (Iff.of_eq (congrArg (wp P p q) ?_))
  funext out q'
  cases out <;> rfl

theorem wp_map (f : α → β) (p : Prog Req Ans ε α) (q : Q) (post : Except ε β → Q → Prop) :
    wp P (f <$> p) q post ↔ wp P p q fun
      | .ok a, q' => post (.ok (f a)) q'
      | .error e, q' => post (.error e) q' :=
  wp_bind p (fun a => pure (f a)) q post

theorem wp_tryCatch (p : Prog Req Ans ε α) (h : ε → Prog Req Ans ε α) (q : Q) (post : Except ε α → Q → Prop) :
    wp P (p.tryCatch h) q post ↔ wp P p q fun
      | .ok a, q' => post (.ok a) q'
      | .error e, q' => wp P (h e) q' post := by
  refine (wp_bindAny p q).trans (Iff.of_eq (congrArg (wp P p q) ?_))
  funext out q'
  cases out <;> rfl

theorem wp_finallyDo (p : Prog Req Ans ε α) (c : Prog Req Ans ε β) (q : Q) (post : Except ε α → Q → Prop) :
    wp P (p.finallyDo c) q post ↔ wp P p q fun out q' => wp P c q' fun
      | .ok _, q'' => post out q''
      | .error e, q'' => post (.error e) q'' := by
  refine (wp_bindAny p q).trans (Iff.of_eq (congrArg (wp P p q) ?_))
  funext out q'
  refine propext ((wp_bindAny c q').trans (Iff.of_eq (congrArg (wp P c q') ?_)))
  funext out' q''
  cases out' with
  | ok b => exact propext (wp_ofExcept out q'' post)
  | error e => rfl

end Coro
