import Jqe.Coro
/-!
# CoroTrace — the events of a run, and programs interpreted over other requests

`Prog.Trace` has the requests and answers a run has behind it, wherever it stopped, and `wp_trace` reads `wp` off them.
`Prog.interpret` replaces every request by a program over other requests, and `wp_interpret` carries `wp` over along a
relation of the phases.  `Prog.Makes`: every request meets a condition, whatever was answered before it.
-/
namespace Coro

universe u v w x y u' v' y'

abbrev Event (Req : Type u) (Ans : Req → Type v) (ε : Type w) := (r : Req) × Except ε (Ans r)

variable {Req : Type u} {Ans : Req → Type v} {ε : Type w} {α : Type v} {Q : Type y}
  {Req' : Type u'} {Ans' : Req' → Type v'} {Q' : Type y'}

namespace Prog

inductive Trace : Prog Req Ans ε α → List (Event Req Ans ε) → Prop
  | stop (p : Prog Req Ans ε α) : Trace p []
  | call {r : Req} {k : Except ε (Ans r) → Prog Req Ans ε α} (ans : Except ε (Ans r)) {tr : List (Event Req Ans ε)}
      (h : Trace (k ans) tr) : Trace (.call r k) (⟨r, ans⟩ :: tr)

/-- The events of a whole run under one deterministic environment. -/
def events {W : Type y} (h : Handler Req Ans ε W) : Prog Req Ans ε α → W → List (Event Req Ans ε)
  | .ret _, _ => []
  | .raise _, _ => []
  | .call r k, w => ⟨r, (h w r).1⟩ :: (k (h w r).1).events h (h w r).2

theorem trace_events {W : Type y} (h : Handler Req Ans ε W) :
    ∀ (p : Prog Req Ans ε α) (w : W), p.Trace (p.events h w)
  | .ret _, _ => .stop _
  | .raise _, _ => .stop _
  | .call _ k, w => .call _ (trace_events h (k (h w _).1) (h w _).2)

/-- **A program over other requests**: each request is a program there. -/
def interpret (f : (r : Req) → Prog Req' Ans' ε (Ans r)) : Prog Req Ans ε α → Prog Req' Ans' ε α
  | .ret a => .ret a
  | .raise e => .raise e
  | .call r k => (f r).bindAny fun ans => (k ans).interpret f

end Prog

def Protocol.after (P : Protocol Req Ans ε Q) (q : Q) (tr : List (Event Req Ans ε)) : Q :=
  tr.foldl (fun q e => P.next q e.1 e.2) q

variable {P : Protocol Req Ans ε Q} {P' : Protocol Req' Ans' ε Q'}

theorem wp_trace {post : Except ε α → Q → Prop} {r : Req} {ans : Except ε (Ans r)} {rest : List (Event Req Ans ε)} :
    ∀ (pre : List (Event Req Ans ε)) (p : Prog Req Ans ε α) (q : Q), wp P p q post →
      p.Trace (pre ++ ⟨r, ans⟩ :: rest) → P.allows (P.after q pre) r
  | [], p, q, hwp, htr => by
    cases htr with
    | call _ h => exact hwp.1
  | e :: pre, p, q, hwp, htr => by
    cases htr with
    | call a h => exact wp_trace pre _ _ (hwp.2 a) h

theorem wp_interpret {f : (r : Req) → Prog Req' Ans' ε (Ans r)} {R : Q → Q' → Prop}
    (hf : ∀ r q q', R q q' → P.allows q r → wp P' (f r) q' fun ans q'' => R (P.next q r ans) q'')
    {post : Except ε α → Q → Prop} : ∀ (p : Prog Req Ans ε α) (q : Q) (q' : Q'), R q q' → wp P p q post →
      wp P' (p.interpret f) q' fun out q'' => ∃ q₀, R q₀ q'' ∧ post out q₀
  | .ret _, q, _, hR, h => ⟨q, hR, h⟩
  | .raise _, q, _, hR, h => ⟨q, hR, h⟩
  | .call r k, q, q', hR, h =>
    (wp_bindAny _ _).2 (wp_mono (fun ans _ hR' => wp_interpret hf (k ans) _ _ hR' (h.2 ans)) _ _ (hf r q q' hR h.1))

namespace Prog

/-- **Some run of a program comes to a request of one kind before any of another.** -/
inductive ComesTo (goal stop : Req → Prop) : Prog Req Ans ε α → Prop
  | here {r : Req} {k : Except ε (Ans r) → Prog Req Ans ε α} (h : goal r) : ComesTo goal stop (.call r k)
  | there {r : Req} {k : Except ε (Ans r) → Prog Req Ans ε α} (ans : Except ε (Ans r)) (hr : ¬stop r)
      (h : ComesTo goal stop (k ans)) : ComesTo goal stop (.call r k)

theorem ComesTo.allowed {goal stop : Req → Prop} {I : Q → Prop}
    (hkeep : ∀ q r ans, I q → P.allows q r → ¬stop r → I (P.next q r ans)) {post : Except ε α → Q → Prop}
    {p : Prog Req Ans ε α} (h : p.ComesTo goal stop) : ∀ q, wp P p q post → I q → ∃ q' r, I q' ∧ goal r ∧ P.allows q' r := by
  induction h with
  | here h => exact fun q hwp hq => ⟨q, _, hq, h, hwp.1⟩
  | there ans hr _ ih => exact fun q hwp hq => ih _ (hwp.2 ans) (hkeep q _ ans hq hwp.1 hr)

end Prog

/-! ## The requests of a program -/

/-- **Every request a program makes meets a condition.** -/
def Prog.Makes {α : Type x} (C : Req → Prop) : Prog Req Ans ε α → Prop
  | .ret _ => True
  | .raise _ => True
  | .call r k => C r ∧ ∀ ans, (k ans).Makes C

section

variable {α β : Type x} {C : Req → Prop} {p : Prog Req Ans ε α}

theorem makes_any : ∀ p : Prog Req Ans ε α, p.Makes fun _ => True
  | .ret _ => trivial
  | .raise _ => trivial
  | .call _ k => ⟨trivial, fun ans => makes_any (k ans)⟩

theorem makes_mono {C' : Req → Prop} (h : ∀ r, C r → C' r) : ∀ {p : Prog Req Ans ε α}, p.Makes C → p.Makes C'
  | .ret _, _ => trivial
  | .raise _, _ => trivial
  | .call _ _, hp => ⟨h _ hp.1, fun ans => makes_mono h (hp.2 ans)⟩

theorem makes_pure (a : α) : (pure a : Prog Req Ans ε α).Makes C := trivial

theorem makes_ofExcept (out : Except ε α) : (Prog.ofExcept out : Prog Req Ans ε α).Makes C := by
  cases out <;> exact trivial

theorem makes_perform {r : Req} (h : C r) : (Prog.perform r : Prog Req Ans ε (Ans r)).Makes C :=
  ⟨h, makes_ofExcept⟩

theorem makes_bindAny {f : Except ε α → Prog Req Ans ε β} (hp : p.Makes C) (hf : ∀ out, (f out).Makes C) :
    (p.bindAny f).Makes C := by
  induction p with
  | ret a => exact hf _
  | raise e => exact hf _
  | call r k ih => exact ⟨hp.1, fun ans => ih ans (hp.2 ans)⟩

theorem makes_bind {f : α → Prog Req Ans ε β} (hp : p.Makes C) (hf : ∀ a, (f a).Makes C) : (p >>= f).Makes C := by
  refine makes_bindAny hp fun out => ?_
  cases out with
  | ok a => exact hf a
  | error e => exact trivial

theorem makes_tryCatch {handler : ε → Prog Req Ans ε α} (hp : p.Makes C) (hh : ∀ e, (handler e).Makes C) :
    (p.tryCatch handler).Makes C := by
  refine makes_bindAny hp fun out => ?_
  cases out with
  | ok a => exact trivial
  | error e => exact hh e

theorem makes_interpret {α : Type v} {p : Prog Req Ans ε α} {C' : Req' → Prop} {f : (r : Req) → Prog Req' Ans' ε (Ans r)} (hp : p.Makes C)
    (hf : ∀ r, C r → (f r).Makes C') : (p.interpret f).Makes C' := by
  induction p with
  | ret a => exact trivial
  | raise e => exact trivial
  | call r k ih => exact makes_bindAny (hf r hp.1) fun ans => ih ans (hp.2 ans)

theorem makes_of_wp {post : Except ε α → Q → Prop} (h : ∀ q r, P.allows q r → C r) {q : Q} (hwp : wp P p q post) :
    p.Makes C := by
  induction p generalizing q with
  | ret a => exact trivial
  | raise e => exact trivial
  | call r k ih => exact ⟨h q r hwp.1, fun ans => ih ans (hwp.2 ans)⟩

theorem wp_of_makes {q : Q} (h : ∀ r, C r → P.allows q r ∧ ∀ ans, P.next q r ans = q) (hp : p.Makes C) :
    wp P p q fun _ q' => q' = q := by
  induction p with
  | ret a => exact rfl
  | raise e => exact rfl
  | call r k ih =>
    refine ⟨(h r hp.1).1, fun ans => ?_⟩
    rw [(h r hp.1).2 ans]
    exact ih ans (hp.2 ans)

end

end Coro
