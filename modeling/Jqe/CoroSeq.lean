import Jqe.CoroSys
/-!
# CoroSeq — programs run one after the other

A run of one program goes on until it stops, at its end or anywhere before, and the world moves by itself in between
(`SeqReachable.invariant`).  The requests of a run may have to meet a condition on the world (`System.meeting`), on the
other runs too (`ReachableWhile`), or on their answers (`ReachableIf`).  `Prog.expand` puts a program in the place of each
request.
-/
namespace Coro

universe u v w x y z

variable {Req : Type u} {Ans : Req → Type v} {ε : Type w} {α : Type x} {W Info : Type z} {Q : Type y}

/-- The system whose requests all meet a condition on the world they are made in. -/
def System.meeting (S : System Req Ans ε W Info) (C : W → Req → Prop) : System Req Ans ε W Info :=
  { S with exec := fun w i r ans w' => C w r ∧ S.exec w i r ans w' }

inductive RunsTo (S : System Req Ans ε W Info) (i : Info) : Prog Req Ans ε α → W → W → Prop
  | stop (p : Prog Req Ans ε α) (w : W) : RunsTo S i p w w
  | call {r : Req} {k : Except ε (Ans r) → Prog Req Ans ε α} {w w' w'' : W} (ans : Except ε (Ans r))
      (hx : S.exec w i r ans w') (h : RunsTo S i (k ans) w' w'') : RunsTo S i (.call r k) w w''
  | tick {p : Prog Req Ans ε α} {w w' w'' : W} (ht : S.tick w w') (h : RunsTo S i p w' w'') : RunsTo S i p w w''

inductive EndsIn (S : System Req Ans ε W Info) (i : Info) : Prog Req Ans ε α → W → Except ε α → W → Prop
  | ret (a : α) (w : W) : EndsIn S i (.ret a) w (.ok a) w
  | raise (e : ε) (w : W) : EndsIn S i (.raise e) w (.error e) w
  | call {r : Req} {k : Except ε (Ans r) → Prog Req Ans ε α} {w w' w'' : W} {out : Except ε α}
      (ans : Except ε (Ans r)) (hx : S.exec w i r ans w') (h : EndsIn S i (k ans) w' out w'') :
      EndsIn S i (.call r k) w out w''
  | tick {p : Prog Req Ans ε α} {w w' w'' : W} {out : Except ε α} (ht : S.tick w w') (h : EndsIn S i p w' out w'') :
      EndsIn S i p w out w''

inductive SeqReachable (S : System Req Ans ε W Info) (prog : Info → Prog Req Ans ε α) : W → Prop
  | init {w : W} (h : S.init w) : SeqReachable S prog w
  | run {w w' : W} (i : Info) (h : SeqReachable S prog w) (hi : S.admits i) (hr : RunsTo S i (prog i) w w') :
      SeqReachable S prog w'
  | tick {w w' : W} (h : SeqReachable S prog w) (ht : S.tick w w') : SeqReachable S prog w'

variable {S : System Req Ans ε W Info} {prog : Info → Prog Req Ans ε α} {P : Info → Protocol Req Ans ε Q} {q₀ : Q}
  {i : Info} {n : Nat} {c : Config Req Ans ε α W Info}

theorem RunsTo.keeps {P : Protocol Req Ans ε Q} {J : Q → W → Prop} {post : Except ε α → Q → Prop}
    (hcall : ∀ q w r ans w', J q w → P.allows q r → S.exec w i r ans w' → J (P.next q r ans) w')
    (htick : ∀ q w w', J q w → S.tick w w' → J q w') {p : Prog Req Ans ε α} {w w' : W} (h : RunsTo S i p w w') :
    ∀ q, wp P p q post → J q w → ∃ q', J q' w' := by
  induction h with
  | stop p w => exact fun q _ hJ => ⟨q, hJ⟩
  | call ans hx _ ih => exact fun q hwp hJ => ih _ (hwp.2 ans) (hcall q _ _ ans _ hJ hwp.1 hx)
  | tick ht _ ih => exact fun q hwp hJ => ih q hwp (htick q _ _ hJ ht)

theorem SeqReachable.invariant {I : W → Prop} {J : Info → Q → W → Prop} (post : Info → Except ε α → Q → Prop)
    (hprog : ∀ i, S.admits i → wp (P i) (prog i) q₀ (post i)) (hinit : ∀ w, S.init w → I w)
    (hstart : ∀ i w, S.admits i → I w → J i q₀ w)
    (hcall : ∀ i q w r ans w', J i q w → (P i).allows q r → S.exec w i r ans w' → J i ((P i).next q r ans) w')
    (htick : ∀ i q w w', J i q w → S.tick w w' → J i q w') (hend : ∀ i q w, J i q w → I w)
    (hidle : ∀ w w', I w → S.tick w w' → I w') {w : W} (h : SeqReachable S prog w) : I w := by
  induction h with
  | init h => exact hinit _ h
  | run i _ hi hr ih =>
    obtain ⟨q, hJ⟩ := hr.keeps (hcall i) (htick i) q₀ (hprog i hi) (hstart i _ hi ih)
    exact hend i q _ hJ
  | tick _ ht ih => exact hidle _ _ ih ht

theorem RunsTo.of_run (h : Handler Req Ans ε W) (hx : ∀ w r, S.exec w i r (h w r).1 (h w r).2) :
    ∀ (p : Prog Req Ans ε α) (w : W), RunsTo S i p w (p.run h w).2
  | .ret _, _ => .stop _ _
  | .raise _, _ => .stop _ _
  | .call r k, w => .call _ (hx w r) (RunsTo.of_run h hx (k (h w r).1) (h w r).2)

def Prog.checked (c : W → Req → Bool) (h : Handler Req Ans ε W) : Prog Req Ans ε α → W → Bool
  | .ret _, _ => true
  | .raise _, _ => true
  | .call r k, w => c w r && (k (h w r).1).checked c h (h w r).2

theorem RunsTo.of_checked {C : W → Req → Prop} {c : W → Req → Bool} (hc : ∀ w r, c w r = true → C w r)
    (h : Handler Req Ans ε W) (hx : ∀ w r, S.exec w i r (h w r).1 (h w r).2) :
    ∀ (p : Prog Req Ans ε α) (w : W), p.checked c h w = true → RunsTo (S.meeting C) i p w (p.run h w).2
  | .ret _, _, _ => .stop _ _
  | .raise _, _, _ => .stop _ _
  | .call r k, w, hchecked => by
    unfold Prog.checked at hchecked
    rw [Bool.and_eq_true] at hchecked
    exact .call _ ⟨hc w r hchecked.1, hx w r⟩ (RunsTo.of_checked hc h hx (k (h w r).1) (h w r).2 hchecked.2)

theorem Config.run_of_checked {c : W → Req → Bool} {h : Handler Req Ans ε W}
    {I : Config Req Ans ε α W Info → Prop}
    (hcall : ∀ g r k, I g → g.runs n = some (i, some (.call r k)) → c g.world r = true →
      I ((g.setRun n i (some (k (h g.world r).1))).setWorld (h g.world r).2)) (p : Prog Req Ans ε α)
    {g : Config Req Ans ε α W Info} (hg : I g) (hn : g.runs n = some (i, some p))
    (hchecked : p.checked c h g.world = true) :
    I ((g.setRun n i (some (Prog.ofExcept (p.run h g.world).1))).setWorld (p.run h g.world).2) := by
  refine (Config.run_closed (I := fun g => I g ∧ ∀ p, g.runs n = some (i, some p) → p.checked c h g.world = true)
    (fun g r k hI hn => ?_) p ⟨hg, fun p' hp' => ?_⟩ hn).1
  · have hrest := hI.2 _ hn
    unfold Prog.checked at hrest
    rw [Bool.and_eq_true] at hrest
    refine ⟨hcall g r k hI.1 hn hrest.1, fun p hp => ?_⟩
    rw [Config.setWorld_runs, Config.setRun_self] at hp
    cases hp
    exact hrest.2
  · rw [hn] at hp'
    cases hp'
    exact hchecked

/-- The first requests of a run under one environment: what is left of the program, and the world. -/
def Prog.steps (h : Handler Req Ans ε W) : Nat → Prog Req Ans ε α → W → Prog Req Ans ε α × W
  | m + 1, .call r k, w => (k (h w r).1).steps h m (h w r).2
  | _, p, w => (p, w)

theorem Reachable.steps (h : Handler Req Ans ε W) (hx : ∀ w r, S.exec w i r (h w r).1 (h w r).2) :
    ∀ (m : Nat) (p : Prog Req Ans ε α) {c : Config Req Ans ε α W Info}, Reachable S prog c →
      c.runs n = some (i, some p) →
      Reachable S prog ((c.setRun n i (some (p.steps h m c.world).1)).setWorld (p.steps h m c.world).2)
  | 0, p, c, hc, hn => by
    have hsame : p.steps h 0 c.world = (p, c.world) := by cases p <;> rfl
    rw [hsame, c.setRun_same hn]
    exact hc
  | m + 1, .ret a, c, hc, hn => by
    change Reachable S prog ((c.setRun n i (some (.ret a))).setWorld c.world)
    rw [c.setRun_same hn]
    exact hc
  | m + 1, .raise e, c, hc, hn => by
    change Reachable S prog ((c.setRun n i (some (.raise e))).setWorld c.world)
    rw [c.setRun_same hn]
    exact hc
  | m + 1, .call r k, c, hc, hn => by
    have hstep := hc.step (.call (h c.world r).1 hn (hx c.world r))
    have hrest := Reachable.steps h hx m (k (h c.world r).1) hstep (c.setRun_self n i _)
    rw [Config.setRun_setRun] at hrest
    exact hrest

/-- One more request of a run is a step, if it changes the world. -/
theorem Step.of_steps {h : Handler Req Ans ε W} (hx : ∀ w r, S.exec w i r (h w r).1 (h w r).2) {p : Prog Req Ans ε α}
    (hn : c.runs n = some (i, some p)) (hne : (p.steps h 1 c.world).2 ≠ c.world) :
    Step S prog c ((c.setRun n i (some (p.steps h 1 c.world).1)).setWorld (p.steps h 1 c.world).2) := by
  cases p with
  | ret a => exact absurd rfl hne
  | raise e => exact absurd rfl hne
  | call r k =>
    have hone : (Prog.call r k).steps h 1 c.world = (k (h c.world r).1, (h c.world r).2) := by
      show (k (h c.world r).1).steps h 0 (h c.world r).2 = _
      cases k (h c.world r).1 <;> rfl
    rw [hone]
    exact .call _ hn (hx c.world r)

/-! ## Conditions on the other runs -/

/-- One step, whose request, if it is one, is made where the condition holds. -/
inductive StepWhile (S : System Req Ans ε W Info) (prog : Info → Prog Req Ans ε α)
    (C : Config Req Ans ε α W Info → Req → Prop) : Config Req Ans ε α W Info → Config Req Ans ε α W Info → Prop
  | spawn {c : _} (n : Nat) (i : Info) (hn : c.runs n = none) (hi : S.admits i) :
      StepWhile S prog C c (c.setRun n i (some (prog i)))
  | call {c : _} {n : Nat} {i : Info} {r : Req} {k : Except ε (Ans r) → Prog Req Ans ε α} (ans : Except ε (Ans r)) {w : W}
      (hn : c.runs n = some (i, some (.call r k))) (hC : C c r) (hx : S.exec c.world i r ans w) :
      StepWhile S prog C c ((c.setRun n i (some (k ans))).setWorld w)
  | stop {c : _} {n : Nat} {i : Info} {p : Prog Req Ans ε α} (hn : c.runs n = some (i, some p)) :
      StepWhile S prog C c (c.setRun n i none)
  | tick {c : _} {w : W} (hw : S.tick c.world w) : StepWhile S prog C c (c.setWorld w)

inductive ReachableWhile (S : System Req Ans ε W Info) (prog : Info → Prog Req Ans ε α)
    (C : Config Req Ans ε α W Info → Req → Prop) : Config Req Ans ε α W Info → Prop
  | init {w : W} (h : S.init w) : ReachableWhile S prog C (.start w)
  | step {c c' : Config Req Ans ε α W Info} (h : ReachableWhile S prog C c) (hs : StepWhile S prog C c c') :
      ReachableWhile S prog C c'

variable {C : Config Req Ans ε α W Info → Req → Prop}

theorem ReachableWhile.invariant {I : W → Prop} {J : Prog Req Ans ε α → W → Prop} (hinit : ∀ w, S.init w → I w)
    (hspawn : ∀ i w, S.admits i → J (prog i) w)
    (hown : ∀ c n i r k ans w', c.runs n = some (i, some (.call r k)) → C c r → S.exec c.world i r ans w' →
      I c.world → J (.call r k) c.world → I w' ∧ J (k ans) w')
    (hother : ∀ c i r ans w' m j p, c.runs m = some (j, some p) → C c r → S.exec c.world i r ans w' → J p c.world →
      J p w') (htick : ∀ w w', S.tick w w' → (I w → I w') ∧ ∀ p, J p w → J p w') (h : ReachableWhile S prog C c) :
    I c.world ∧ ∀ n i p, c.runs n = some (i, some p) → J p c.world := by
  induction h with
  | init h => exact ⟨hinit _ h, fun n i p hn => by cases hn⟩
  | step _ hs ih =>
    cases hs with
    | spawn n i hn hi =>
      refine ⟨ih.1, fun m j p hm => ?_⟩
      rcases Config.setRun_cases hm with ⟨_, _, hp⟩ | ⟨_, hold⟩
      · cases hp
        exact hspawn i _ hi
      · exact ih.2 m j p hold
    | call ans hn hC hx =>
      obtain ⟨hI, hJ⟩ := hown _ _ _ _ _ _ _ hn hC hx ih.1 (ih.2 _ _ _ hn)
      refine ⟨hI, fun m j p hm => ?_⟩
      rcases Config.setRun_cases hm with ⟨_, _, hp⟩ | ⟨_, hold⟩
      · cases hp
        exact hJ
      · exact hother _ _ _ _ _ m j p hold hC hx (ih.2 m j p hold)
    | stop hn =>
      refine ⟨ih.1, fun m j p hm => ?_⟩
      rcases Config.setRun_cases hm with ⟨_, _, hp⟩ | ⟨_, hold⟩
      · cases hp
      · exact ih.2 m j p hold
    | tick hw =>
      obtain ⟨hI, hJ⟩ := htick _ _ hw
      exact ⟨hI ih.1, fun m j p hm => hJ p (ih.2 m j p hm)⟩

def Config.Alone (c : Config Req Ans ε α W Info) (n : Nat) : Prop :=
  ∀ m, m ≠ n → ∀ i r k, c.runs m ≠ some (i, some (.call r k))

theorem Config.Alone.set (h : c.Alone n) (i : Info) (p : Option (Prog Req Ans ε α)) (w : W) :
    ((c.setRun n i p).setWorld w).Alone n := by
  intro m hm
  change ∀ i' r k, Function.update c.runs n _ m ≠ _
  rw [Function.update_of_ne hm]
  exact h m hm

theorem ReachableWhile.run (h : Handler Req Ans ε W) (hx : ∀ w r, S.exec w i r (h w r).1 (h w r).2)
    (hC : ∀ c r k, c.Alone n → c.runs n = some (i, some (.call r k)) → C c r) (p : Prog Req Ans ε α)
    (hc : ReachableWhile S prog C c) (halone : c.Alone n) (hn : c.runs n = some (i, some p)) :
    ReachableWhile S prog C ((c.setRun n i (some (Prog.ofExcept (p.run h c.world).1))).setWorld (p.run h c.world).2) :=
  (Config.run_closed (I := fun c => ReachableWhile S prog C c ∧ c.Alone n) (fun c r k hI hn =>
    ⟨hI.1.step (.call _ hn (hC c r k hI.2 hn) (hx c.world r)), hI.2.set i _ _⟩) p ⟨hc, halone⟩ hn).1

def Config.Idle (c : Config Req Ans ε α W Info) : Prop := ∀ n i r k, c.runs n ≠ some (i, some (.call r k))

theorem ReachableWhile.complete (hc : ReachableWhile S prog C c) (hidle : c.Idle) (hn : c.runs n = none)
    (hi : S.admits i) (h : Handler Req Ans ε W) (hx : ∀ w r, S.exec w i r (h w r).1 (h w r).2)
    (hC : ∀ c r k, c.Alone n → c.runs n = some (i, some (.call r k)) → C c r) :
    ReachableWhile S prog C ((c.setRun n i (some (Prog.ofExcept ((prog i).run h c.world).1))).setWorld
      ((prog i).run h c.world).2) ∧
      ((c.setRun n i (some (Prog.ofExcept ((prog i).run h c.world).1))).setWorld ((prog i).run h c.world).2).Idle := by
  constructor
  · have halone : ((c.setRun n i (some (prog i))).setWorld c.world).Alone n :=
      Config.Alone.set (fun m _ => hidle m) i _ _
    have hrun := ReachableWhile.run h hx hC (prog i) (hc.step (.spawn n i hn hi)) halone (c.setRun_self n i _)
    have hsame := c.setRun_setRun n i (some (prog i)) (some (Prog.ofExcept ((prog i).run h c.world).1)) c.world
      ((prog i).run h c.world).2
    rw [← hsame]
    exact hrun
  · intro m j r k hm
    rw [Config.setWorld_runs] at hm
    rcases Config.setRun_cases hm with ⟨_, _, hp⟩ | ⟨_, hold⟩
    · cases hout : ((prog i).run h c.world).1 with
      | ok a =>
        rw [hout] at hp
        cases hp
      | error e =>
        rw [hout] at hp
        cases hp
    · exact hidle m j r k hold

end Coro

/-! ## Requests that are programs themselves -/

namespace Coro

universe u v w y z

variable {Req Req' : Type u} {Ans : Req → Type v} {Ans' : Req' → Type v} {ε : Type w} {α : Type v} {Q : Type y}

/-- **A program for each request.** -/
def Prog.expand (f : (r : Req) → Prog Req' Ans' ε (Ans r)) : Prog Req Ans ε α → Prog Req' Ans' ε α
  | .ret a => .ret a
  | .raise e => .raise e
  | .call r k => (f r).bindAny fun out => (k out).expand f

/-- **What a program keeps to, its expansion keeps to**, where the program of each allowed request ends in the phase after
it, as far as the relation of the phases says. -/
theorem wp_expand {P : Protocol Req Ans ε Q} {P' : Protocol Req' Ans' ε Q} {f : (r : Req) → Prog Req' Ans' ε (Ans r)}
    {R : Q → Q → Prop} {post : Except ε α → Q → Prop}
    (hf : ∀ q q' r, R q q' → P.allows q r → wp P' (f r) q' fun out q'' => R (P.next q r out) q'') :
    ∀ (p : Prog Req Ans ε α) (q q' : Q), R q q' → wp P p q post →
      wp P' (p.expand f) q' fun out q'' => ∃ q, R q q'' ∧ post out q
  | .ret _, q, _, hR, hp => ⟨q, hR, hp⟩
  | .raise _, q, _, hR, hp => ⟨q, hR, hp⟩
  | .call r k, q, q', hR, hp => by
    unfold Prog.expand
    rw [wp_bindAny]
    exact wp_mono (fun out q'' hnext => wp_expand hf (k out) _ q'' hnext (hp.2 out)) _ _ (hf q q' r hR hp.1)

/-! ## Steps under a condition -/

variable {W Info : Type z} {S : System Req Ans ε W Info} {prog : Info → Prog Req Ans ε α}

/-- **One step, whose request meets the condition**, or which stops a program where that may be done. -/
inductive StepIf (S : System Req Ans ε W Info) (prog : Info → Prog Req Ans ε α)
    (C : W → (r : Req) → Except ε (Ans r) → W → Prop) (D : W → Prog Req Ans ε α → Prop) :
    Config Req Ans ε α W Info → Config Req Ans ε α W Info → Prop
  | spawn {c} (n : Nat) (i : Info) (hn : c.runs n = none) (hi : S.admits i) :
      StepIf S prog C D c (c.setRun n i (some (prog i)))
  | call {c} {n : Nat} {i : Info} {r : Req} {k : Except ε (Ans r) → Prog Req Ans ε α} (ans : Except ε (Ans r)) {w : W}
      (hn : c.runs n = some (i, some (.call r k))) (hx : S.exec c.world i r ans w) (hC : C c.world r ans w) :
      StepIf S prog C D c ((c.setRun n i (some (k ans))).setWorld w)
  | stop {c} {n : Nat} {i : Info} {p : Prog Req Ans ε α} (hn : c.runs n = some (i, some p)) (hD : D c.world p) :
      StepIf S prog C D c (c.setRun n i none)
  | tick {c} {w : W} (hw : S.tick c.world w) : StepIf S prog C D c (c.setWorld w)

inductive ReachableIf (S : System Req Ans ε W Info) (prog : Info → Prog Req Ans ε α)
    (C : W → (r : Req) → Except ε (Ans r) → W → Prop) (D : W → Prog Req Ans ε α → Prop) :
    Config Req Ans ε α W Info → Prop
  | init {w : W} (h : S.init w) : ReachableIf S prog C D (.start w)
  | step {c c' : Config Req Ans ε α W Info} (h : ReachableIf S prog C D c) (hs : StepIf S prog C D c c') :
      ReachableIf S prog C D c'

end Coro
