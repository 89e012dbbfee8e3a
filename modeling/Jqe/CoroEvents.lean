import Jqe.CoroSys
import Jqe.CoroTrace
/-!
# CoroEvents — what the runs of a system have done, in order

`Recorded S prog evs c`: an execution that reaches `c` with the events `evs`, each with the number of its run.  The phase
of a run is read off its events (`phaseOf`), so an invariant of conforming programs is one of the events and the world
(`Recorded.invariant`).
-/
namespace Coro

open List

universe u v w x y z

variable {Req : Type u} {Ans : Req → Type v} {ε : Type w} {α : Type v} {W Info : Type z} {Q : Type y}

inductive Recorded (S : System Req Ans ε W Info) (prog : Info → Prog Req Ans ε α) :
    List (Nat × Event Req Ans ε) → Config Req Ans ε α W Info → Prop
  | init {w : W} (h : S.init w) : Recorded S prog [] (.start w)
  | spawn {evs c} (h : Recorded S prog evs c) (n : Nat) (i : Info) (hn : c.runs n = none) (hi : S.admits i) :
      Recorded S prog evs (c.setRun n i (some (prog i)))
  | call {evs c} {n : Nat} {i : Info} {r : Req} {k : Except ε (Ans r) → Prog Req Ans ε α} (ans : Except ε (Ans r)) {w : W}
      (h : Recorded S prog evs c) (hn : c.runs n = some (i, some (.call r k))) (hx : S.exec c.world i r ans w) :
      Recorded S prog (evs ++ [(n, ⟨r, ans⟩)]) ((c.setRun n i (some (k ans))).setWorld w)
  | stop {evs c} {n : Nat} {i : Info} {p : Prog Req Ans ε α} (h : Recorded S prog evs c)
      (hn : c.runs n = some (i, some p)) : Recorded S prog evs (c.setRun n i none)
  | tick {evs c} {w : W} (h : Recorded S prog evs c) (hw : S.tick c.world w) : Recorded S prog evs (c.setWorld w)

/-- The phase that the events of one run lead to. -/
def phaseOf (P : Protocol Req Ans ε Q) (q₀ : Q) (n : Nat) (evs : List (Nat × Event Req Ans ε)) : Q :=
  evs.foldl (fun q e => if e.1 = n then P.next q e.2.1 e.2.2 else q) q₀

variable {S : System Req Ans ε W Info} {prog : Info → Prog Req Ans ε α} {P : Protocol Req Ans ε Q} {q₀ : Q}
  {evs : List (Nat × Event Req Ans ε)} {c : Config Req Ans ε α W Info}

theorem phaseOf_append (n : Nat) (evs evs' : List (Nat × Event Req Ans ε)) :
    phaseOf P q₀ n (evs ++ evs') = phaseOf P (phaseOf P q₀ n evs) n evs' := foldl_append

@[simp] theorem phaseOf_snoc_self (n : Nat) (e : Event Req Ans ε) :
    phaseOf P q₀ n (evs ++ [(n, e)]) = P.next (phaseOf P q₀ n evs) e.1 e.2 := by
  rw [phaseOf_append]
  exact if_pos rfl

theorem phaseOf_snoc_of_ne {m n : Nat} (h : m ≠ n) (e : Event Req Ans ε) :
    phaseOf P q₀ n (evs ++ [(m, e)]) = phaseOf P q₀ n evs := by
  rw [phaseOf_append]
  exact if_neg h

theorem phaseOf_of_forall_ne {n : Nat} (h : ∀ e ∈ evs, e.1 ≠ n) : phaseOf P q₀ n evs = q₀ := by
  induction evs generalizing q₀ with
  | nil => rfl
  | cons e evs ih =>
    unfold phaseOf
    rw [foldl_cons, if_neg (h e mem_cons_self)]
    exact ih fun e' he' => h e' (mem_cons_of_mem _ he')

theorem Recorded.absent (h : Recorded S prog evs c) {n : Nat} (hn : c.runs n = none) : ∀ e ∈ evs, e.1 ≠ n := by
  induction h with
  | init h => exact fun e he => by cases he
  | spawn _ m i hm hi ih =>
    by_cases hmn : n = m
    · subst hmn
      rw [Config.setRun_self] at hn
      cases hn
    · exact ih ((Function.update_of_ne hmn _ _).symm.trans hn)
  | @call evs c m i r k ans w _ hm hx ih =>
    by_cases hmn : n = m
    · subst hmn
      rw [Config.setWorld_runs, Config.setRun_self] at hn
      cases hn
    · rw [Config.setWorld_runs] at hn
      intro e he
      rcases mem_append.1 he with he | he
      · exact ih ((Function.update_of_ne hmn _ _).symm.trans hn) e he
      · rw [mem_singleton.1 he]
        exact Ne.symm hmn
  | @stop evs c m i p _ hm ih =>
    by_cases hmn : n = m
    · subst hmn
      rw [Config.setRun_self] at hn
      cases hn
    · exact ih ((Function.update_of_ne hmn _ _).symm.trans hn)
  | tick _ hw ih => exact ih hn

variable {post : Info → Except ε α → Q → Prop}

theorem Recorded.conforms (hprog : ∀ i, S.admits i → wp P (prog i) q₀ (post i)) (h : Recorded S prog evs c) :
    ∀ n i p, c.runs n = some (i, some p) → wp P p (phaseOf P q₀ n evs) (post i) := by
  induction h with
  | init h => exact fun n i p hn => by cases hn
  | spawn h m j hm hj ih =>
    intro n i p hn
    rcases Config.setRun_cases hn with ⟨rfl, rfl, hp⟩ | ⟨_, hold⟩
    · cases hp
      rw [phaseOf_of_forall_ne (h.absent hm)]
      exact hprog _ hj
    · exact ih n i p hold
  | call ans _ hm hx ih =>
    intro n i p hn
    rw [Config.setWorld_runs] at hn
    rcases Config.setRun_cases hn with ⟨rfl, rfl, hp⟩ | ⟨hne, hold⟩
    · cases hp
      rw [phaseOf_snoc_self]
      exact (ih n i _ hm).2 ans
    · rw [phaseOf_snoc_of_ne (Ne.symm hne)]
      exact ih n i p hold
  | stop _ hm ih =>
    intro n i p hn
    rcases Config.setRun_cases hn with ⟨_, _, hp⟩ | ⟨_, hold⟩
    · cases hp
    · exact ih n i p hold
  | tick _ hw ih => exact ih

theorem Recorded.invariant (hprog : ∀ i, S.admits i → wp P (prog i) q₀ (post i))
    {I : List (Nat × Event Req Ans ε) → W → Prop} (hinit : ∀ w, S.init w → I [] w)
    (hcall : ∀ evs w n i r ans w', I evs w → P.allows (phaseOf P q₀ n evs) r → S.exec w i r ans w' →
      I (evs ++ [(n, ⟨r, ans⟩)]) w')
    (htick : ∀ evs w w', I evs w → S.tick w w' → I evs w') (h : Recorded S prog evs c) : I evs c.world := by
  induction h with
  | init h => exact hinit _ h
  | spawn _ n i hn hi ih => exact ih
  | @call evs c n i r k ans w h hn hx ih => exact hcall evs _ n i r ans w ih (h.conforms hprog n i _ hn).1 hx
  | stop _ hn ih => exact ih
  | tick _ hw ih => exact htick _ _ _ ih hw

/-- **Every event of an execution is allowed** in the phase its run was in, and what came before is an execution. -/
theorem Recorded.allowed (hprog : ∀ i, S.admits i → wp P (prog i) q₀ (post i)) (h : Recorded S prog evs c) :
    ∀ (pre : List (Nat × Event Req Ans ε)) (n : Nat) (r : Req) (ans : Except ε (Ans r))
      (rest : List (Nat × Event Req Ans ε)), evs = pre ++ (n, ⟨r, ans⟩) :: rest →
      P.allows (phaseOf P q₀ n pre) r ∧ ∃ c', Recorded S prog pre c' := by
  induction h with
  | init h =>
    intro pre n r ans rest heq
    rw [eq_comm, append_eq_nil_iff] at heq
    cases heq.2
  | spawn _ n i hn hi ih => exact ih
  | @call evs c m i r k ans w h hn hx ih =>
    intro pre n r' ans' rest heq
    rcases eq_nil_or_concat rest with rfl | ⟨rest', e, rfl⟩
    · obtain ⟨rfl, hlast⟩ := append_inj' heq rfl
      cases hlast
      exact ⟨(h.conforms hprog _ i _ hn).1, c, h⟩
    · rw [concat_eq_append, ← cons_append, ← append_assoc] at heq
      exact ih pre n r' ans' rest' (append_inj' heq rfl).1
  | stop _ hn ih => exact ih
  | tick _ hw ih => exact ih

theorem Recorded.run {n : Nat} {i : Info} (env : Handler Req Ans ε W)
    (hx : ∀ w r, S.exec w i r (env w r).1 (env w r).2) :
    ∀ (p : Prog Req Ans ε α) {evs : List (Nat × Event Req Ans ε)} {c : Config Req Ans ε α W Info},
      Recorded S prog evs c → c.runs n = some (i, some p) →
      Recorded S prog (evs ++ (p.events env c.world).map (n, ·))
        ((c.setRun n i (some (Prog.ofExcept (p.run env c.world).1))).setWorld (p.run env c.world).2)
  | .ret _, evs, c, hc, hn => by
    rw [Prog.events, map_nil, append_nil, Prog.run, Prog.ofExcept, c.setRun_same hn]
    exact hc
  | .raise _, evs, c, hc, hn => by
    rw [Prog.events, map_nil, append_nil, Prog.run, Prog.ofExcept, c.setRun_same hn]
    exact hc
  | .call r k, evs, c, hc, hn => by
    have hstep := hc.call (env c.world r).1 hn (hx c.world r)
    have hrest := Recorded.run env hx (k (env c.world r).1) hstep (c.setRun_self n i _)
    rw [Config.setRun_setRun, append_assoc] at hrest
    exact hrest

theorem Recorded.completed (hc : Recorded S prog evs c) {n : Nat} (hn : c.runs n = none) {i : Info} (hi : S.admits i)
    (env : Handler Req Ans ε W) (hx : ∀ w r, S.exec w i r (env w r).1 (env w r).2) :
    Recorded S prog (evs ++ ((prog i).events env c.world).map (n, ·))
      ((c.setRun n i (some (Prog.ofExcept ((prog i).run env c.world).1))).setWorld ((prog i).run env c.world).2) := by
  have hrun := Recorded.run env hx (prog i) (hc.spawn n i hn hi) (c.setRun_self n i _)
  have hsame := c.setRun_setRun n i (some (prog i)) (some (Prog.ofExcept ((prog i).run env c.world).1)) c.world
    ((prog i).run env c.world).2
  rw [← hsame]
  exact hrun

end Coro
