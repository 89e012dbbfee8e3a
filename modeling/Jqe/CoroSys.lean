import Jqe.Coro
import Mathlib.Logic.Relation
/-!
# CoroSys — any number of coroutines over one world

A system starts programs at any time, lets any live one make its next request, stops any of them at any point (a crash
or a cancellation: the program never runs again), and moves the world by itself.  When every started program conforms to
its protocol (`Coro.wp`), each reachable configuration is covered by one of the ghost system in which a run is only its
phase (`covered`), and invariants are proved there.
-/
namespace Coro

universe u v w x y z

variable {Req : Type u} {Ans : Req → Type v} {ε : Type w} {α : Type x} {W Info : Type z} {Q : Type y}

/-- **A world shared by programs**: where it starts, what a request of a run may do and be answered, and what happens
without a request. -/
structure System (Req : Type u) (Ans : Req → Type v) (ε : Type w) (W Info : Type z) where
  init : W → Prop
  admits : Info → Prop
  exec : W → Info → (r : Req) → Except ε (Ans r) → W → Prop
  tick : W → W → Prop

/-- The world and every run ever started: what it was started with, and its remaining program unless it was stopped. -/
structure Config (Req : Type u) (Ans : Req → Type v) (ε : Type w) (α : Type x) (W Info : Type z) where
  world : W
  runs : Nat → Option (Info × Option (Prog Req Ans ε α))

/-- The ghost of a configuration: of a run only its phase. -/
structure Ghost (W Info : Type z) (Q : Type y) where
  world : W
  runs : Nat → Option (Info × Q)

namespace Config

def start (w : W) : Config Req Ans ε α W Info := ⟨w, fun _ => none⟩

def setRun (c : Config Req Ans ε α W Info) (n : Nat) (i : Info) (p : Option (Prog Req Ans ε α)) :
    Config Req Ans ε α W Info :=
  { c with runs := Function.update c.runs n (some (i, p)) }

def setWorld (c : Config Req Ans ε α W Info) (w : W) : Config Req Ans ε α W Info := { c with world := w }

theorem setRun_self (c : Config Req Ans ε α W Info) (n : Nat) (i : Info) (p : Option (Prog Req Ans ε α)) :
    (c.setRun n i p).runs n = some (i, p) := Function.update_self _ _ _

@[simp] theorem setWorld_world (c : Config Req Ans ε α W Info) (w : W) : (c.setWorld w).world = w := rfl
@[simp] theorem setWorld_runs (c : Config Req Ans ε α W Info) (w : W) : (c.setWorld w).runs = c.runs := rfl

theorem setRun_cases {c : Config Req Ans ε α W Info} {m n : Nat} {i j : Info} {p q : Option (Prog Req Ans ε α)}
    (h : (c.setRun n i p).runs m = some (j, q)) : (m = n ∧ j = i ∧ q = p) ∨ (m ≠ n ∧ c.runs m = some (j, q)) := by
  by_cases hm : m = n
  · subst hm
    rw [setRun_self] at h
    cases h
    exact .inl ⟨rfl, rfl, rfl⟩
  · refine .inr ⟨hm, ?_⟩
    rw [← h]
    exact (Function.update_of_ne hm _ _).symm

end Config

namespace Ghost

def start (w : W) : Ghost W Info Q := ⟨w, fun _ => none⟩

def setRun (g : Ghost W Info Q) (n : Nat) (i : Info) (q : Q) : Ghost W Info Q :=
  { g with runs := Function.update g.runs n (some (i, q)) }

def setWorld (g : Ghost W Info Q) (w : W) : Ghost W Info Q := { g with world := w }

@[simp] theorem start_world (w : W) : (start w : Ghost W Info Q).world = w := rfl
@[simp] theorem start_runs (w : W) (n : Nat) : (start w : Ghost W Info Q).runs n = none := rfl
@[simp] theorem setRun_world (g : Ghost W Info Q) (n : Nat) (i : Info) (q : Q) :
    (g.setRun n i q).world = g.world := rfl
@[simp] theorem setWorld_world (g : Ghost W Info Q) (w : W) : (g.setWorld w).world = w := rfl
@[simp] theorem setWorld_runs (g : Ghost W Info Q) (w : W) : (g.setWorld w).runs = g.runs := rfl

@[simp] theorem setRun_self (g : Ghost W Info Q) (n : Nat) (i : Info) (q : Q) :
    (g.setRun n i q).runs n = some (i, q) := by simp [setRun]

theorem setRun_of_ne (g : Ghost W Info Q) {m n : Nat} (i : Info) (q : Q) (h : m ≠ n) :
    (g.setRun n i q).runs m = g.runs m := by simp [setRun, h]

theorem setRun_cases {g : Ghost W Info Q} {m n : Nat} {i j : Info} {q q' : Q}
    (h : (g.setRun n i q).runs m = some (j, q')) :
    (m = n ∧ j = i ∧ q' = q) ∨ (m ≠ n ∧ g.runs m = some (j, q')) := by
  by_cases hm : m = n
  · subst hm
    rw [setRun_self] at h
    cases h
    exact .inl ⟨rfl, rfl, rfl⟩
  · rw [setRun_of_ne _ _ _ hm] at h
    exact .inr ⟨hm, h⟩

end Ghost

inductive Step (S : System Req Ans ε W Info) (prog : Info → Prog Req Ans ε α) :
    Config Req Ans ε α W Info → Config Req Ans ε α W Info → Prop
  | spawn {c} (n : Nat) (i : Info) (hn : c.runs n = none) (hi : S.admits i) :
      Step S prog c (c.setRun n i (some (prog i)))
  | call {c} {n : Nat} {i : Info} {r : Req} {k : Except ε (Ans r) → Prog Req Ans ε α} (ans : Except ε (Ans r)) {w : W}
      (hn : c.runs n = some (i, some (.call r k))) (hx : S.exec c.world i r ans w) :
      Step S prog c ((c.setRun n i (some (k ans))).setWorld w)
  | stop {c} {n : Nat} {i : Info} {p : Prog Req Ans ε α} (hn : c.runs n = some (i, some p)) :
      Step S prog c (c.setRun n i none)
  | tick {c} {w : W} (hw : S.tick c.world w) : Step S prog c (c.setWorld w)

inductive Reachable (S : System Req Ans ε W Info) (prog : Info → Prog Req Ans ε α) :
    Config Req Ans ε α W Info → Prop
  | init {w : W} (h : S.init w) : Reachable S prog (.start w)
  | step {c c' : Config Req Ans ε α W Info} (h : Reachable S prog c) (hs : Step S prog c c') : Reachable S prog c'

inductive Move (S : System Req Ans ε W Info) (P : Info → Protocol Req Ans ε Q) (q₀ : Q) :
    Ghost W Info Q → Ghost W Info Q → Prop
  | spawn {g} (n : Nat) (i : Info) (hn : g.runs n = none) (hi : S.admits i) : Move S P q₀ g (g.setRun n i q₀)
  | call {g} {n : Nat} {i : Info} {q : Q} (r : Req) (ans : Except ε (Ans r)) {w : W} (hn : g.runs n = some (i, q))
      (ha : (P i).allows q r) (hx : S.exec g.world i r ans w) :
      Move S P q₀ g ((g.setRun n i ((P i).next q r ans)).setWorld w)
  | tick {g} {w : W} (hw : S.tick g.world w) : Move S P q₀ g (g.setWorld w)

inductive Reached (S : System Req Ans ε W Info) (P : Info → Protocol Req Ans ε Q) (q₀ : Q) : Ghost W Info Q → Prop
  | init {w : W} (h : S.init w) : Reached S P q₀ (.start w)
  | step {g g' : Ghost W Info Q} (h : Reached S P q₀ g) (hs : Move S P q₀ g g') : Reached S P q₀ g'

variable {S : System Req Ans ε W Info} {prog : Info → Prog Req Ans ε α} {P : Info → Protocol Req Ans ε Q} {q₀ : Q}
  {g : Ghost W Info Q} {c : Config Req Ans ε α W Info} {n : Nat} {i : Info}

/-- **The induction over whole runs**: what holds at the start and is kept by each step from a reached ghost where it
holds, holds of every reached ghost. -/
theorem Reached.invariant {I : Ghost W Info Q → Prop} (hinit : ∀ w, S.init w → I (.start w))
    (hstep : ∀ g g', Reached S P q₀ g → I g → Move S P q₀ g g' → I g') (h : Reached S P q₀ g) : I g := by
  induction h with
  | init h => exact hinit _ h
  | step h hs ih => exact hstep _ _ h ih hs

theorem Reached.admits (h : Reached S P q₀ g) : ∀ n i q, g.runs n = some (i, q) → S.admits i := by
  refine Reached.invariant (I := fun g => ∀ n i q, g.runs n = some (i, q) → S.admits i)
    (fun w _ n i q hn => by cases hn) (fun g g' _ ih hs => ?_) h
  cases hs with
  | spawn n i hn hi =>
    intro m j q hm
    rcases Ghost.setRun_cases hm with ⟨_, rfl, _⟩ | ⟨_, hold⟩
    · exact hi
    · exact ih m j q hold
  | call r ans hn ha hx =>
    intro m j q hm
    rcases Ghost.setRun_cases hm with ⟨_, rfl, _⟩ | ⟨_, hold⟩
    · exact ih _ _ _ hn
    · exact ih m j q hold
  | tick hw => exact ih

/-- A run and its ghost: a live run is where its phase says and will keep to its protocol. -/
def RunCovered (P : Info → Protocol Req Ans ε Q) (post : Info → Except ε α → Q → Prop) :
    Option (Info × Option (Prog Req Ans ε α)) → Option (Info × Q) → Prop
  | none, x => x = none
  | some (i, none), x => ∃ q, x = some (i, q)
  | some (i, some p), x => ∃ q, x = some (i, q) ∧ wp (P i) p q (post i)

def Covered (P : Info → Protocol Req Ans ε Q) (post : Info → Except ε α → Q → Prop)
    (c : Config Req Ans ε α W Info) (g : Ghost W Info Q) : Prop :=
  c.world = g.world ∧ ∀ n, RunCovered P post (c.runs n) (g.runs n)

theorem Covered.setRun {post : Info → Except ε α → Q → Prop} (h : Covered P post c g) (n : Nat) (i : Info)
    (p : Option (Prog Req Ans ε α)) (q : Q) (hp : ∀ p', p = some p' → wp (P i) p' q (post i)) :
    Covered P post (c.setRun n i p) (g.setRun n i q) := by
  refine ⟨h.1, fun m => ?_⟩
  by_cases hm : m = n
  · subst hm
    simp only [Config.setRun, Ghost.setRun, Function.update_self]
    cases p with
    | none => exact ⟨q, rfl⟩
    | some p' => exact ⟨q, rfl, hp p' rfl⟩
  · simp only [Config.setRun, Ghost.setRun, Function.update_of_ne hm]
    exact h.2 m

theorem Covered.run {post : Info → Except ε α → Q → Prop} (h : Covered P post c g) {q : Q} (hn : g.runs n = some (i, q)) :
    ∃ p, c.runs n = some (i, p) := by
  have hrun := h.2 n
  rw [hn] at hrun
  rcases hc : c.runs n with _ | ⟨j, _ | p⟩ <;> rw [hc] at hrun
  · cases hrun
  · obtain ⟨q', hq⟩ := hrun
    cases hq
    exact ⟨none, rfl⟩
  · obtain ⟨q', hq, _⟩ := hrun
    cases hq
    exact ⟨some p, rfl⟩

theorem Covered.live {post : Info → Except ε α → Q → Prop} (h : Covered P post c g) {p : Prog Req Ans ε α}
    (hn : c.runs n = some (i, some p)) : ∃ q, g.runs n = some (i, q) ∧ wp (P i) p q (post i) := by
  have hrun := h.2 n
  rwa [hn] at hrun

theorem covered (post : Info → Except ε α → Q → Prop) (hprog : ∀ i, S.admits i → wp (P i) (prog i) q₀ (post i))
    (h : Reachable S prog c) : ∃ g, Reached S P q₀ g ∧ Covered P post c g := by
  induction h with
  | init h => exact ⟨.start _, .init h, rfl, fun _ => rfl⟩
  | step _ hs ih =>
    obtain ⟨g, hg, hc⟩ := ih
    cases hs with
    | spawn n i hn hi =>
      have hgn : g.runs n = none := by simpa [RunCovered, hn] using hc.2 n
      exact ⟨_, hg.step (.spawn n i hgn hi), hc.setRun n i _ q₀ fun p' hp' => by cases hp'; exact hprog i hi⟩
    | call ans hn hx =>
      rename_i n i r k w
      obtain ⟨q, hgn, hwp⟩ := hc.live hn
      have hc' := hc.setRun n i (some (k ans)) ((P i).next q r ans) fun p' hp' => by cases hp'; exact hwp.2 ans
      exact ⟨_, hg.step (.call r ans hgn hwp.1 (hc.1 ▸ hx)), rfl, hc'.2⟩
    | stop hn =>
      rename_i n i p
      obtain ⟨q, hgn, _⟩ := hc.live hn
      refine ⟨g, hg, hc.1, fun m => ?_⟩
      by_cases hm : m = n
      · subst hm
        simp only [Config.setRun, Function.update_self]
        exact ⟨q, hgn⟩
      · simp only [Config.setRun, Function.update_of_ne hm]
        exact hc.2 m
    | tick hw => exact ⟨_, hg.step (.tick (hc.1 ▸ hw)), rfl, hc.2⟩

theorem Reachable.world_invariant (post : Info → Except ε α → Q → Prop)
    (hprog : ∀ i, S.admits i → wp (P i) (prog i) q₀ (post i)) {I : W → Prop} (hI : ∀ g, Reached S P q₀ g → I g.world)
    (h : Reachable S prog c) : I c.world := by
  obtain ⟨g, hg, hc⟩ := covered post hprog h
  exact hc.1 ▸ hI g hg

theorem Config.setRun_same (c : Config Req Ans ε α W Info) {p : Option (Prog Req Ans ε α)} (hn : c.runs n = some (i, p)) :
    (c.setRun n i p).setWorld c.world = c := by
  unfold setRun setWorld
  rw [← hn, Function.update_eq_self]

theorem Config.setRun_setRun (c : Config Req Ans ε α W Info) (n : Nat) (i : Info) (p p' : Option (Prog Req Ans ε α))
    (w w' : W) : (((c.setRun n i p).setWorld w).setRun n i p').setWorld w' = (c.setRun n i p').setWorld w' := by
  simp only [setRun, setWorld, Function.update_idem]

abbrev Later (S : System Req Ans ε W Info) (prog : Info → Prog Req Ans ε α) :
    Config Req Ans ε α W Info → Config Req Ans ε α W Info → Prop :=
  Relation.ReflTransGen (Step S prog)

theorem Reachable.later {c' : Config Req Ans ε α W Info} (hc : Reachable S prog c) (h : Later S prog c c') :
    Reachable S prog c' := by
  induction h with
  | refl => exact hc
  | tail _ hs ih => exact ih.step hs

/-- **What every request of a live program keeps holds at its end**, under one environment. -/
theorem Config.run_closed {h : Handler Req Ans ε W} {I : Config Req Ans ε α W Info → Prop}
    (hcall : ∀ c r k, I c → c.runs n = some (i, some (.call r k)) →
      I ((c.setRun n i (some (k (h c.world r).1))).setWorld (h c.world r).2)) :
    ∀ (p : Prog Req Ans ε α) {c : Config Req Ans ε α W Info}, I c → c.runs n = some (i, some p) →
      I ((c.setRun n i (some (Prog.ofExcept (p.run h c.world).1))).setWorld (p.run h c.world).2)
  | .ret _, c, hc, hn => (congrArg I (c.setRun_same hn)).mpr hc
  | .raise _, c, hc, hn => (congrArg I (c.setRun_same hn)).mpr hc
  | .call r k, c, hc, hn => by
    have hrest := Config.run_closed hcall (k (h c.world r).1) (hcall c r k hc hn) (c.setRun_self n i _)
    rw [Config.setRun_setRun] at hrest
    exact hrest

/-- **A whole run under one environment is a run of the system**: a live program brought to its end by an environment
the system permits. -/
theorem Later.run (h : Handler Req Ans ε W) (hx : ∀ w r, S.exec w i r (h w r).1 (h w r).2)
    (p : Prog Req Ans ε α) (hn : c.runs n = some (i, some p)) :
    Later S prog c ((c.setRun n i (some (Prog.ofExcept (p.run h c.world).1))).setWorld (p.run h c.world).2) :=
  Config.run_closed (fun c' r _ hlater hn' => hlater.tail (.call _ hn' (hx c'.world r))) p .refl hn

theorem Later.complete (hn : c.runs n = none) (hi : S.admits i) (h : Handler Req Ans ε W)
    (hx : ∀ w r, S.exec w i r (h w r).1 (h w r).2) :
    Later S prog c ((c.setRun n i (some (Prog.ofExcept ((prog i).run h c.world).1))).setWorld
      ((prog i).run h c.world).2) := by
  have hrun : Later S prog _ _ := Later.run h hx (prog i) (c.setRun_self n i _)
  have hsame := c.setRun_setRun n i (some (prog i)) (some (Prog.ofExcept ((prog i).run h c.world).1)) c.world
    ((prog i).run h c.world).2
  rw [← hsame]
  exact hrun.head (.spawn n i hn hi)

theorem Reachable.run (h : Handler Req Ans ε W) (hx : ∀ w r, S.exec w i r (h w r).1 (h w r).2)
    (p : Prog Req Ans ε α) (hc : Reachable S prog c) (hn : c.runs n = some (i, some p)) :
    Reachable S prog ((c.setRun n i (some (Prog.ofExcept (p.run h c.world).1))).setWorld (p.run h c.world).2) :=
  hc.later (Later.run h hx p hn)

theorem Reachable.complete (hc : Reachable S prog c) (hn : c.runs n = none) (hi : S.admits i)
    (h : Handler Req Ans ε W) (hx : ∀ w r, S.exec w i r (h w r).1 (h w r).2) :
    Reachable S prog ((c.setRun n i (some (Prog.ofExcept ((prog i).run h c.world).1))).setWorld
      ((prog i).run h c.world).2) :=
  hc.later (Later.complete hn hi h hx)

end Coro
