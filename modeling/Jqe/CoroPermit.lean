import Jqe.CoroSys
/-!
# CoroPermit — actions that are permitted once

A run is granted a permit for a key, holds it, and spends it with the action or drops it.  Where no key is granted twice,
none is acted on twice (`Permits.reached`).
-/
namespace Coro

universe u v w y z k

variable {Req : Type u} {Ans : Req → Type v} {ε : Type w} {W Info : Type z} {Q : Type y} {K : Type k}

/-- **Permits by keys**: the one a run holds in a phase, those granted so far, and the actions so far. -/
structure Permits (W : Type z) (Q : Type y) (K : Type k) where
  held : Q → Option K
  granted : W → K → Prop
  log : W → List K

namespace Permits

variable (p : Permits W Q K)

inductive Effect (w w' : W) (q q' : Q) : Prop
  | kept (hlog : p.log w' = p.log w) (hheld : ∀ k, p.held q' = some k → p.held q = some k)
  | granted (k : K) (hlog : p.log w' = p.log w) (hfresh : ¬p.granted w k) (hnow : p.granted w' k)
      (hheld : p.held q' = some k)
  | spent (k : K) (hheld : p.held q = some k) (hfree : p.held q' = none) (hlog : p.log w' = k :: p.log w)

structure Respected (S : System Req Ans ε W Info) (P : Info → Protocol Req Ans ε Q) (q₀ : Q) : Prop where
  init : ∀ w, S.init w → p.log w = []
  idle : p.held q₀ = none
  call : ∀ {w w' i q r ans}, (P i).allows q r → S.exec w i r ans w' → p.Effect w w' q ((P i).next q r ans)
  mono : ∀ {w w' i r ans}, S.exec w i r ans w' → ∀ k, p.granted w k → p.granted w' k
  tick : ∀ {w w'}, S.tick w w' → p.log w' = p.log w ∧ ∀ k, p.granted w k → p.granted w' k

/-- **The invariant**: a permit is held by one run, for a key that was granted and not acted on. -/
structure Inv (g : Ghost W Info Q) : Prop where
  once : (p.log g.world).Nodup
  logged : ∀ k ∈ p.log g.world, p.granted g.world k
  holders : ∀ n i q k, g.runs n = some (i, q) → p.held q = some k → p.granted g.world k ∧ k ∉ p.log g.world
  alone : ∀ m n i j q q' k, g.runs m = some (i, q) → g.runs n = some (j, q') → p.held q = some k →
    p.held q' = some k → m = n

variable {p} {S : System Req Ans ε W Info} {P : Info → Protocol Req Ans ε Q} {q₀ : Q} {g : Ghost W Info Q}

theorem Inv.spawn (h : p.Inv g) {n : Nat} {i : Info} (hidle : p.held q₀ = none) : p.Inv (g.setRun n i q₀) := by
  refine ⟨h.once, h.logged, ?_, ?_⟩
  · intro m j q k hm hheld
    rcases Ghost.setRun_cases hm with ⟨_, _, rfl⟩ | ⟨_, hold⟩
    · rw [hidle] at hheld
      cases hheld
    · exact h.holders m j q k hold hheld
  · intro m m' j j' q q' k hm hm' hheld hheld'
    rcases Ghost.setRun_cases hm with ⟨_, _, rfl⟩ | ⟨_, hold⟩
    · rw [hidle] at hheld
      cases hheld
    · rcases Ghost.setRun_cases hm' with ⟨_, _, rfl⟩ | ⟨_, hold'⟩
      · rw [hidle] at hheld'
        cases hheld'
      · exact h.alone m m' j j' q q' k hold hold' hheld hheld'

theorem Inv.kept (h : p.Inv g) {n : Nat} {i : Info} {q q' : Q} {w : W} (hn : g.runs n = some (i, q))
    (hmono : ∀ k, p.granted g.world k → p.granted w k) (hlog : p.log w = p.log g.world)
    (hheld : ∀ k, p.held q' = some k → p.held q = some k) : p.Inv ((g.setRun n i q').setWorld w) := by
  -- every run of the new ghost held its permit in the old one
  have hbefore : ∀ m j q₁ k, ((g.setRun n i q').setWorld w).runs m = some (j, q₁) → p.held q₁ = some k →
      ∃ q₂, g.runs m = some (j, q₂) ∧ p.held q₂ = some k := by
    intro m j q₁ k hm hk
    rcases Ghost.setRun_cases hm with ⟨rfl, rfl, rfl⟩ | ⟨_, hold⟩
    · exact ⟨q, hn, hheld k hk⟩
    · exact ⟨q₁, hold, hk⟩
  refine ⟨?_, ?_, ?_, ?_⟩
  · rw [Ghost.setWorld_world, hlog]
    exact h.once
  · intro k hk
    rw [Ghost.setWorld_world, hlog] at hk
    exact hmono k (h.logged k hk)
  · intro m j q₁ k hm hk
    obtain ⟨q₂, hm₂, hk₂⟩ := hbefore m j q₁ k hm hk
    obtain ⟨hgranted, hnot⟩ := h.holders m j q₂ k hm₂ hk₂
    rw [Ghost.setWorld_world, hlog]
    exact ⟨hmono k hgranted, hnot⟩
  · intro m m' j j' q₁ q₁' k hm hm' hk hk'
    obtain ⟨q₂, hm₂, hk₂⟩ := hbefore m j q₁ k hm hk
    obtain ⟨q₂', hm₂', hk₂'⟩ := hbefore m' j' q₁' k hm' hk'
    exact h.alone m m' j j' q₂ q₂' k hm₂ hm₂' hk₂ hk₂'

theorem Inv.grant (h : p.Inv g) {n : Nat} {i : Info} {q' : Q} {w : W} {k : K}
    (hmono : ∀ k, p.granted g.world k → p.granted w k) (hlog : p.log w = p.log g.world) (hfresh : ¬p.granted g.world k)
    (hnow : p.granted w k) (hheld : p.held q' = some k) : p.Inv ((g.setRun n i q').setWorld w) := by
  -- no run held the permit before, as its key was not granted
  have hother : ∀ m j q₁, g.runs m = some (j, q₁) → p.held q₁ ≠ some k := by
    intro m j q₁ hm hk
    exact hfresh (h.holders m j q₁ k hm hk).1
  refine ⟨?_, ?_, ?_, ?_⟩
  · rw [Ghost.setWorld_world, hlog]
    exact h.once
  · intro k' hk'
    rw [Ghost.setWorld_world, hlog] at hk'
    exact hmono k' (h.logged k' hk')
  · intro m j q₁ k' hm hk'
    rw [Ghost.setWorld_world, hlog]
    rcases Ghost.setRun_cases hm with ⟨_, _, rfl⟩ | ⟨_, hold⟩
    · rw [hheld] at hk'
      cases hk'
      exact ⟨hnow, fun hmem => hfresh (h.logged k hmem)⟩
    · obtain ⟨hgranted, hnot⟩ := h.holders m j q₁ k' hold hk'
      exact ⟨hmono k' hgranted, hnot⟩
  · intro m m' j j' q₁ q₁' k' hm hm' hk hk'
    rcases Ghost.setRun_cases hm with ⟨rfl, _, rfl⟩ | ⟨_, hold⟩
    · rw [hheld] at hk
      cases hk
      rcases Ghost.setRun_cases hm' with ⟨rfl, _, _⟩ | ⟨_, hold'⟩
      · rfl
      · exact absurd hk' (hother m' j' q₁' hold')
    · rcases Ghost.setRun_cases hm' with ⟨rfl, _, rfl⟩ | ⟨_, hold'⟩
      · rw [hheld] at hk'
        cases hk'
        exact absurd hk (hother m j q₁ hold)
      · exact h.alone m m' j j' q₁ q₁' k' hold hold' hk hk'

theorem Inv.spend (h : p.Inv g) {n : Nat} {i : Info} {q q' : Q} {w : W} {k : K} (hn : g.runs n = some (i, q))
    (hmono : ∀ k, p.granted g.world k → p.granted w k) (hheld : p.held q = some k) (hfree : p.held q' = none)
    (hlog : p.log w = k :: p.log g.world) : p.Inv ((g.setRun n i q').setWorld w) := by
  obtain ⟨hgranted, hnot⟩ := h.holders n i q k hn hheld
  have hothers : ∀ m j q₁ k', ((g.setRun n i q').setWorld w).runs m = some (j, q₁) → p.held q₁ = some k' →
      m ≠ n ∧ g.runs m = some (j, q₁) := by
    intro m j q₁ k' hm hk'
    rcases Ghost.setRun_cases hm with ⟨_, _, rfl⟩ | hold
    · rw [hfree] at hk'
      cases hk'
    · exact hold
  refine ⟨?_, ?_, ?_, ?_⟩
  · rw [Ghost.setWorld_world, hlog, List.nodup_cons]
    exact ⟨hnot, h.once⟩
  · intro k' hk'
    rw [Ghost.setWorld_world, hlog] at hk'
    rcases List.mem_cons.1 hk' with rfl | hk'
    · exact hmono _ hgranted
    · exact hmono k' (h.logged k' hk')
  · intro m j q₁ k' hm hk'
    obtain ⟨hne, hold⟩ := hothers m j q₁ k' hm hk'
    obtain ⟨hgranted', hnot'⟩ := h.holders m j q₁ k' hold hk'
    refine ⟨hmono k' hgranted', ?_⟩
    rw [Ghost.setWorld_world, hlog, List.mem_cons, not_or]
    refine ⟨?_, hnot'⟩
    rintro rfl
    exact hne (h.alone m n j i q₁ q k' hold hn hk' hheld)
  · intro m m' j j' q₁ q₁' k' hm hm' hk hk'
    exact h.alone m m' j j' q₁ q₁' k' (hothers m j q₁ k' hm hk).2 (hothers m' j' q₁' k' hm' hk').2 hk hk'

/-- **In every reached ghost no key is acted on twice.** -/
theorem reached (hp : p.Respected S P q₀) (h : Reached S P q₀ g) : p.Inv g := by
  refine Reached.invariant (I := p.Inv) (fun w hw => ?_) (fun g g' _ ih hs => ?_) h
  · have hlog := hp.init w hw
    refine ⟨?_, ?_, fun n i q k hn => (by cases hn), fun m n i j q q' k hm => (by cases hm)⟩
    · rw [Ghost.start_world, hlog]
      exact .nil
    · intro k hk
      rw [Ghost.start_world, hlog] at hk
      cases hk
  · cases hs with
    | spawn n i hn hi => exact ih.spawn hp.idle
    | call r ans hn ha hx =>
      cases hp.call ha hx with
      | kept hlog hheld => exact ih.kept hn (hp.mono hx) hlog hheld
      | granted k hlog hfresh hnow hheld => exact ih.grant (hp.mono hx) hlog hfresh hnow hheld
      | spent k hheld hfree hlog => exact ih.spend hn (hp.mono hx) hheld hfree hlog
    | tick hw =>
      obtain ⟨hlog, hmono⟩ := hp.tick hw
      refine ⟨?_, ?_, ?_, ih.alone⟩
      · rw [Ghost.setWorld_world, hlog]
        exact ih.once
      · intro k hk
        rw [Ghost.setWorld_world, hlog] at hk
        exact hmono k (ih.logged k hk)
      · intro n i q k hn hheld
        obtain ⟨hgranted, hnot⟩ := ih.holders n i q k hn hheld
        rw [Ghost.setWorld_world, hlog]
        exact ⟨hmono k hgranted, hnot⟩

end Permits

end Coro
