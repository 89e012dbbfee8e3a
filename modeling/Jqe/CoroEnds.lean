import Jqe.CoroTrace
/-!
# CoroEnds — whole runs of one program

`Ends exec p w out w'`: under the requests `exec` permits, the program `p` started in `w` may end with `out` in `w'`.
One inversion lemma for each way programs are made.
-/
namespace Coro

universe u v w x y

variable {Req : Type u} {Ans : Req → Type v} {ε : Type w} {α β : Type x} {W : Type y}

/-- **A run of a program to its end.** -/
inductive Ends (exec : W → (r : Req) → Except ε (Ans r) → W → Prop) :
    Prog Req Ans ε α → W → Except ε α → W → Prop
  | ret (a : α) (w : W) : Ends exec (.ret a) w (.ok a) w
  | raise (e : ε) (w : W) : Ends exec (.raise e) w (.error e) w
  | call {r : Req} {k : Except ε (Ans r) → Prog Req Ans ε α} {w w' w'' : W} {out : Except ε α} (ans : Except ε (Ans r))
      (hx : exec w r ans w') (h : Ends exec (k ans) w' out w'') : Ends exec (.call r k) w out w''

/-- A run cut off at one of its requests, or before the first. -/
inductive Cuts (exec : W → (r : Req) → Except ε (Ans r) → W → Prop) : Prog Req Ans ε α → W → W → Prop
  | here (p : Prog Req Ans ε α) (w : W) : Cuts exec p w w
  | call {r : Req} {k : Except ε (Ans r) → Prog Req Ans ε α} {w w' w'' : W} (ans : Except ε (Ans r))
      (hx : exec w r ans w') (h : Cuts exec (k ans) w' w'') : Cuts exec (.call r k) w w''

variable {exec : W → (r : Req) → Except ε (Ans r) → W → Prop} {w w' : W} {out : Except ε α} {p : Prog Req Ans ε α}
  {f : α → Prog Req Ans ε β}

@[simp] theorem ends_pure {a : α} : Ends exec (pure a : Prog Req Ans ε α) w out w' ↔ out = .ok a ∧ w' = w := by
  constructor
  · intro h
    cases h
    exact ⟨rfl, rfl⟩
  · rintro ⟨rfl, rfl⟩
    exact .ret a _

@[simp] theorem ends_raise {e : ε} : Ends exec (.raise e : Prog Req Ans ε α) w out w' ↔ out = .error e ∧ w' = w := by
  constructor
  · intro h
    cases h
    exact ⟨rfl, rfl⟩
  · rintro ⟨rfl, rfl⟩
    exact .raise e _

@[simp] theorem ends_ofExcept {x : Except ε α} :
    Ends exec (Prog.ofExcept x : Prog Req Ans ε α) w out w' ↔ out = x ∧ w' = w := by
  cases x with
  | ok a => exact ends_pure
  | error e => exact ends_raise

@[simp] theorem ends_perform {r : Req} {out : Except ε (Ans r)} :
    Ends exec (Prog.perform r) w out w' ↔ exec w r out w' := by
  constructor
  · intro h
    cases h with
    | call ans hx h =>
      obtain ⟨rfl, rfl⟩ := ends_ofExcept.1 h
      exact hx
  · exact fun hx => .call out hx (ends_ofExcept.2 ⟨rfl, rfl⟩)

/-- **A run of two parts** is a run of the first and one of the rest. -/
theorem ends_bindAny {f : Except ε α → Prog Req Ans ε β} {out : Except ε β} :
    Ends exec (p.bindAny f) w out w' ↔ ∃ mid w₁, Ends exec p w mid w₁ ∧ Ends exec (f mid) w₁ out w' := by
  induction p generalizing w with
  | ret a =>
    constructor
    · exact fun h => ⟨_, w, .ret a w, h⟩
    · rintro ⟨_, _, hp, hf⟩
      cases hp
      exact hf
  | raise e =>
    constructor
    · exact fun h => ⟨_, w, .raise e w, h⟩
    · rintro ⟨_, _, hp, hf⟩
      cases hp
      exact hf
  | call r k ih =>
    constructor
    · intro h
      cases h with
      | call ans hx h =>
        obtain ⟨mid, w₁, hp, hf⟩ := (ih ans).1 h
        exact ⟨mid, w₁, .call ans hx hp, hf⟩
    · rintro ⟨mid, w₁, hp, hf⟩
      cases hp with
      | call ans hx hp => exact .call ans hx ((ih ans).2 ⟨mid, w₁, hp, hf⟩)

theorem ends_bind {out : Except ε β} :
    Ends exec (p >>= f) w out w' ↔
      (∃ a w₁, Ends exec p w (.ok a) w₁ ∧ Ends exec (f a) w₁ out w') ∨
        ∃ e, out = .error e ∧ Ends exec p w (.error e) w' := by
  refine ends_bindAny.trans ⟨?_, ?_⟩
  · rintro ⟨mid, w₁, hp, hf⟩
    cases mid with
    | ok a => exact .inl ⟨a, w₁, hp, hf⟩
    | error e =>
      obtain ⟨rfl, rfl⟩ := ends_raise.1 hf
      exact .inr ⟨e, rfl, hp⟩
  · rintro (⟨a, w₁, hp, hf⟩ | ⟨e, rfl, hp⟩)
    · exact ⟨.ok a, w₁, hp, hf⟩
    · exact ⟨.error e, w', hp, ends_raise.2 ⟨rfl, rfl⟩⟩

theorem Ends.bind_ok {b : β} (h : Ends exec (p >>= f) w (.ok b) w') :
    ∃ a w₁, Ends exec p w (.ok a) w₁ ∧ Ends exec (f a) w₁ (.ok b) w' := by
  rcases ends_bind.1 h with hok | ⟨e, he, _⟩
  · exact hok
  · cases he

theorem Ends.tryCatch_ok {handler : ε → Prog Req Ans ε α} {a : α} (h : Ends exec (p.tryCatch handler) w (.ok a) w') :
    Ends exec p w (.ok a) w' ∨ ∃ e w₁, Ends exec p w (.error e) w₁ ∧ Ends exec (handler e) w₁ (.ok a) w' := by
  obtain ⟨mid, w₁, hp, hf⟩ := ends_bindAny.1 h
  cases mid with
  | ok b =>
    obtain ⟨hb, rfl⟩ := ends_pure.1 hf
    cases hb
    exact .inl hp
  | error e => exact .inr ⟨e, w₁, hp, hf⟩

theorem Ends.keeps {I : W → Prop} (hstep : ∀ w r ans w', I w → exec w r ans w' → I w') (h : Ends exec p w out w')
    (hw : I w) : I w' := by
  induction h with
  | ret _ _ => exact hw
  | raise _ _ => exact hw
  | call ans hx _ ih => exact ih (hstep _ _ ans _ hw hx)

theorem Cuts.keeps {I : W → Prop} (hstep : ∀ w r ans w', I w → exec w r ans w' → I w') (h : Cuts exec p w w') (hw : I w) :
    I w' := by
  induction h with
  | here _ _ => exact hw
  | call ans hx _ ih => exact ih (hstep _ _ ans _ hw hx)

theorem Ends.keeps_makes {C : Req → Prop} {I : W → Prop} (hstep : ∀ w r ans w', C r → I w → exec w r ans w' → I w')
    (h : Ends exec p w out w') (hp : p.Makes C) (hw : I w) : I w' := by
  induction h with
  | ret _ _ => exact hw
  | raise _ _ => exact hw
  | call ans hx _ ih => exact ih (hp.2 ans) (hstep _ _ ans _ hp.1 hw hx)

theorem Ends.of_wp {Q : Type*} {P : Protocol Req Ans ε Q} {R : Q → W → Prop}
    (hstep : ∀ q w r ans w', R q w → P.allows q r → exec w r ans w' → R (P.next q r ans) w')
    {post : Except ε α → Q → Prop} (h : Ends exec p w out w') :
    ∀ q, wp P p q post → R q w → ∃ q', R q' w' ∧ post out q' := by
  induction h with
  | ret a w => exact fun q hwp hR => ⟨q, hR, hwp⟩
  | raise e w => exact fun q hwp hR => ⟨q, hR, hwp⟩
  | call ans hx _ ih => exact fun q hwp hR => ih _ (hwp.2 ans) (hstep q _ _ ans _ hR hwp.1 hx)

theorem Ends.finallyDo_ok {c : Prog Req Ans ε β} {a : α} (h : Ends exec (p.finallyDo c) w (.ok a) w') :
    ∃ w₁ b, Ends exec p w (.ok a) w₁ ∧ Ends exec c w₁ (.ok b) w' := by
  obtain ⟨out, w₁, hp, hrest⟩ := ends_bindAny.1 h
  obtain ⟨out', w₂, hc, hend⟩ := ends_bindAny.1 hrest
  cases out' with
  | ok b =>
    obtain ⟨hout, rfl⟩ := ends_ofExcept.1 hend
    exact ⟨w₁, b, hout ▸ hp, hc⟩
  | error e =>
    obtain ⟨he, _⟩ := ends_raise.1 hend
    cases he

theorem Ends.map {V : Type*} {π : W → V} {exec' : V → (r : Req) → Except ε (Ans r) → V → Prop}
    (hstep : ∀ w r ans w', exec w r ans w' → exec' (π w) r ans (π w')) (h : Ends exec p w out w') :
    Ends exec' p (π w) out (π w') := by
  induction h with
  | ret a w => exact .ret a (π w)
  | raise e w => exact .raise e (π w)
  | call ans hx _ ih => exact .call ans (hstep _ _ ans _ hx) ih

theorem Ends.of_run (h : Handler Req Ans ε W) (hx : ∀ w r, exec w r (h w r).1 (h w r).2) :
    ∀ (p : Prog Req Ans ε α) (w : W), Ends exec p w (p.run h w).1 (p.run h w).2
  | .ret a, w => .ret a w
  | .raise e, w => .raise e w
  | .call r k, w => .call _ (hx w r) (Ends.of_run h hx (k (h w r).1) (h w r).2)

/-- Every request of a run under one environment passes a check. -/
def Prog.checks (h : Handler Req Ans ε W) (ok : W → Req → Bool) : Prog Req Ans ε α → W → Bool
  | .ret _, _ | .raise _, _ => true
  | .call r k, w => ok w r && (k (h w r).1).checks h ok (h w r).2

theorem Ends.of_checked (h : Handler Req Ans ε W) {ok : W → Req → Bool}
    (hx : ∀ w r, ok w r = true → exec w r (h w r).1 (h w r).2) : ∀ (p : Prog Req Ans ε α) (w : W),
      p.checks h ok w = true → Ends exec p w (p.run h w).1 (p.run h w).2
  | .ret a, w, _ => .ret a w
  | .raise e, w, _ => .raise e w
  | .call r k, w, hchecks => by
    obtain ⟨hok, hrest⟩ := Bool.and_eq_true_iff.1 hchecks
    exact .call _ (hx w r hok) (Ends.of_checked h hx (k (h w r).1) (h w r).2 hrest)

/-! ## Triples over whole runs -/

/-- **What a run of a program ensures**: from where `P` holds, it ends with an outcome and a world of `Q`. -/
def Ensures (exec : W → (r : Req) → Except ε (Ans r) → W → Prop) (P : W → Prop) (p : Prog Req Ans ε α)
    (Q : Except ε α → W → Prop) : Prop :=
  ∀ w out w', P w → Ends exec p w out w' → Q out w'

variable {P : W → Prop} {Q : Except ε β → W → Prop} {R : Except ε α → W → Prop}

theorem ensures_pure {a : α} (h : ∀ w, P w → R (.ok a) w) : Ensures exec P (pure a : Prog Req Ans ε α) R := by
  intro w out w' hP hends
  obtain ⟨rfl, rfl⟩ := ends_pure.1 hends
  exact h _ hP

theorem ensures_raise {e : ε} (h : ∀ w, P w → R (.error e) w) : Ensures exec P (.raise e : Prog Req Ans ε α) R := by
  intro w out w' hP hends
  obtain ⟨rfl, rfl⟩ := ends_raise.1 hends
  exact h _ hP

theorem ensures_ofExcept {x : Except ε α} (h : ∀ w, P w → R x w) :
    Ensures exec P (Prog.ofExcept x : Prog Req Ans ε α) R := by
  intro w out w' hP hends
  obtain ⟨rfl, rfl⟩ := ends_ofExcept.1 hends
  exact h _ hP

theorem ensures_perform {r : Req} {T : Except ε (Ans r) → W → Prop} (h : ∀ w ans w', P w → exec w r ans w' → T ans w') :
    Ensures exec P (Prog.perform r) T :=
  fun w out w' hP hends => h w out w' hP (ends_perform.1 hends)

theorem Ensures.bindAny {f : Except ε α → Prog Req Ans ε β} (hp : Ensures exec P p R)
    (hf : ∀ mid, Ensures exec (R mid) (f mid) Q) : Ensures exec P (p.bindAny f) Q := by
  intro w out w' hP hends
  obtain ⟨mid, w₁, hfirst, hrest⟩ := ends_bindAny.1 hends
  exact hf mid w₁ out w' (hp w mid w₁ hP hfirst) hrest

theorem Ensures.bind (hp : Ensures exec P p R) (hf : ∀ a, Ensures exec (R (.ok a)) (f a) Q)
    (herror : ∀ e w, R (.error e) w → Q (.error e) w) : Ensures exec P (p >>= f) Q := by
  intro w out w' hP hends
  rcases ends_bind.1 hends with ⟨a, w₁, hfirst, hrest⟩ | ⟨e, rfl, hfirst⟩
  · exact hf a w₁ out w' (hp w _ w₁ hP hfirst) hrest
  · exact herror e w' (hp w _ w' hP hfirst)

theorem Ensures.imp {P' : W → Prop} {R' : Except ε α → W → Prop} (hp : Ensures exec P p R) (hpre : ∀ w, P' w → P w)
    (hpost : ∀ out w, R out w → R' out w) : Ensures exec P' p R' :=
  fun w out w' hP hends => hpost out w' (hp w out w' (hpre w hP) hends)

theorem Ensures.finallyDo {T : W → Prop} {c : Prog Req Ans ε β} (hp : Ensures exec P p fun _ => T)
    (hc : Ensures exec T c fun _ => T) : Ensures exec P (p.finallyDo c) fun _ => T := by
  refine hp.bindAny fun out => hc.bindAny fun mid => ?_
  cases mid with
  | ok b => exact ensures_ofExcept fun _ h => h
  | error e => exact ensures_raise fun _ h => h

theorem ensures_of_makes {C : Req → Prop} (hstep : ∀ w r ans w', C r → P w → exec w r ans w' → P w') (hp : p.Makes C) :
    Ensures exec P p fun _ => P :=
  fun _ _ _ hP hends => hends.keeps_makes hstep hp hP

section

variable {Req' : Type u} {Ans' : Req' → Type v} {γ : Type v} {exec' : W → (r : Req') → Except ε (Ans' r) → W → Prop}
  {f : (r : Req) → Prog Req' Ans' ε (Ans r)}

theorem Ends.of_interpret {p : Prog Req Ans ε γ} {out : Except ε γ} (h : Ends exec' (p.interpret f) w out w') :
    Ends (fun w r ans w' => Ends exec' (f r) w ans w') p w out w' := by
  induction p generalizing w with
  | ret a =>
    obtain ⟨rfl, rfl⟩ := ends_pure.1 h
    exact .ret a _
  | raise e =>
    obtain ⟨rfl, rfl⟩ := ends_raise.1 h
    exact .raise e _
  | call r k ih =>
    obtain ⟨ans, w₁, hr, hrest⟩ := ends_bindAny.1 h
    exact .call ans hr (ih ans hrest)

theorem Ensures.interpret {p : Prog Req Ans ε γ} {R : Except ε γ → W → Prop}
    (hp : Ensures (fun w r ans w' => Ends exec' (f r) w ans w') P p R) : Ensures exec' P (p.interpret f) R :=
  fun w out w' hP hends => hp w out w' hP hends.of_interpret

end

end Coro
