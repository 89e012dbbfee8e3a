import Jqe.ExecScript
/-!
# ExecOnce — one order for an idempotency key

A claim is the one insertion of its key, rows are never removed, and a run sends only what it claimed, once.
-/
namespace Jqe

open Coro List

def Phase.sentOrder? : Phase → Option OrderRequest
  | sent _ order | answered _ order _ | settled _ order _ _ => some order
  | _ => none

theorem Phase.hasClaimed_of_sent {q : Phase} {order : OrderRequest} (h : q.sentOrder? = some order) :
    q.hasClaimed = true := by
  cases q <;> first | rfl | cases h

section

variable [CaseMap] {B : Type} {V : Venue B} {w w' : ExecWorld B} {c : SubmitCall} {q : Phase} {r : ExecReq}
  {ans : Except PyExc r.Ans}

theorem claim_inserts (ha : Allowed c q r) (hx : Exec V w c r ans w') (hq : q.hasClaimed = false)
    (hq' : (phaseNext c q r ans).hasClaimed = true) :
    w.store.row c.key = none ∧ (w'.store.row c.key).isSome = true := by
  cases ha with
  | claim o h record broker hs hp hr =>
    have hkey := (rowOf_claim 0 hr).1
    cases ans with
    | error e => cases hq'
    | ok a =>
      cases a with
      | alreadyExists => cases hq'
      | conflict => cases hq'
      | claimed =>
        rcases hx.store_exec.cases_ok with ⟨_, e, he⟩ | ⟨now, a, happ, hans⟩
        · cases he
        · rcases hans with hans | ⟨e, he, _⟩
          · cases hans
            rcases Store.tryClaimUnderReservation_ok happ with ⟨hne, _⟩ | ⟨_, hnone, _, hs⟩
            · exact absurd rfl hne
            · rw [hkey] at hnone hs
              exact ⟨hnone, by rw [hs, Store.row_setRow]; rfl⟩
          · cases he
  | submit o order ho => cases hq
  | await o order => cases hq
  | settle o order out record hr => cases hq
  | after q result => rw [AsyncTradeExecutor.phaseNext_after, hq] at hq'; cases hq'
  | release q o ho => rw [AsyncTradeExecutor.phaseNext_release, hq] at hq'; cases hq'
  | draw => cases ans <;> cases hq'
  | acquire o => rcases ans with _ | _ | _ | _ <;> cases hq'
  | provide o h hs => cases ans <;> cases hq'
  | positions o h => cases ans <;> cases hq'
  | get o h => cases ans <;> cases hq'
  | reconcile o h record hr hu => cases ans <;> cases hq'
  | confirm o h a b hc => cases hq'
  | doubt o h => cases hq'
  | before o h decision => cases hq'

theorem sentOrder?_next (ha : Allowed c q r) {order : OrderRequest} (hq : q.sentOrder? = some order) :
    (phaseNext c q r ans).sentOrder? = some order := by
  cases ha with
  | await o order' => cases ans <;> exact hq
  | settle o order' out record hr => cases ans <;> exact hq
  | after q result => rwa [AsyncTradeExecutor.phaseNext_after]
  | release q o ho => rwa [AsyncTradeExecutor.phaseNext_release]
  | _ => cases hq

theorem sentEffect (ha : Allowed c q r) (hx : Exec V w c r ans w') :
    w'.sent = w.sent ∨ ∃ o order, q = .claimed o ∧ c.order? = some order ∧ w'.sent = ⟨c.scope, order⟩ :: w.sent ∧
      phaseNext c q r ans = .sent o order := by
  cases ha with
  | submit o order ho =>
    cases hx with
    | invoked _ hb => exact .inr ⟨o, order, rfl, ho, rfl, rfl⟩
    | raised _ e hr => cases hr
  | acquire o => cases hx <;> exact .inl rfl
  | get o h => cases hx <;> exact .inl rfl
  | confirm o h a b hc => cases hx <;> exact .inl rfl
  | doubt o h => cases hx <;> exact .inl rfl
  | claim o h record broker hs hp hr => cases hx <;> exact .inl rfl
  | settle o order out record hr => cases hx <;> exact .inl rfl
  | release q o ho => cases hx <;> exact .inl rfl
  | _ => cases hx <;> exact .inl rfl

theorem claimed_next {o : String} (ha : Allowed c q r) (hq' : phaseNext c q r ans = .claimed o) :
    q = .claimed o ∨ q.hasClaimed = false := by
  cases ha with
  | submit o' order ho => cases ans <;> cases hq'
  | await o' order => cases ans <;> cases hq'
  | settle o' order out record hr => cases ans <;> cases hq'
  | after q result => exact .inl (by rwa [AsyncTradeExecutor.phaseNext_after] at hq')
  | release q o' ho => exact .inl (by rwa [AsyncTradeExecutor.phaseNext_release] at hq')
  | _ => exact .inr rfl

structure OnceInv (g : ExecGhost B) : Prop where
  sent_by : ∀ x ∈ g.world.sent, ∃ n c q, g.runs n = some (c, q) ∧ q.sentOrder? = some x.order ∧ x.scope = c.scope ∧
    x.order.idempotencyKey = some c.key
  nodup : (g.world.sent.map fun x => x.order.idempotencyKey).Nodup
  claimed_row : ∀ n c q, g.runs n = some (c, q) → q.hasClaimed = true → (g.world.store.row c.key).isSome = true
  claimed_inj : ∀ m n c d q q', g.runs m = some (c, q) → g.runs n = some (d, q') → q.hasClaimed = true →
    q'.hasClaimed = true → c.key = d.key → m = n
  unsent : ∀ n c o, g.runs n = some (c, .claimed o) → ∀ x ∈ g.world.sent, x.order.idempotencyKey ≠ some c.key

omit [CaseMap] in
theorem OnceInv.start (w : ExecWorld B) (h : (execSystem V).init w) : OnceInv (.start w : ExecGhost B) where
  sent_by x hx := by
    rw [Ghost.start_world, h.2.1] at hx
    cases hx
  nodup := by
    rw [Ghost.start_world, h.2.1]
    exact nodup_nil
  claimed_row n c q hn := by cases hn
  claimed_inj m n c d q q' hm := by cases hm
  unsent n c o hn := by cases hn

omit [CaseMap] in
theorem OnceInv.spawn {g : ExecGhost B} (h : OnceInv g) (n : Nat) (i : SubmitCall) (hn : g.runs n = none) :
    OnceInv (g.setRun n i .idle) := by
  have old : ∀ {m c q}, (g.setRun n i Phase.idle).runs m = some (c, q) → q.hasClaimed = true →
      g.runs m = some (c, q) := by
    intro m c q hm hq
    refine started_before hm ?_
    rintro rfl
    cases hq
  refine ⟨fun x hx => ?_, h.nodup, fun m c q hm hq => h.claimed_row m c q (old hm hq) hq,
    fun m m' c d q q' hm hm' hq hq' => h.claimed_inj m m' c d q q' (old hm hq) (old hm' hq') hq hq',
    fun m c o hm => h.unsent m c o (old hm rfl)⟩
  obtain ⟨m, c, q, hm, hx⟩ := h.sent_by x hx
  have hne : m ≠ n := by
    rintro rfl
    rw [hn] at hm
    cases hm
  exact ⟨m, c, q, by rw [Ghost.setRun_of_ne _ _ _ hne, hm], hx⟩

theorem OnceInv.call {g : ExecGhost B} {n : Nat} (h : OnceInv g) (hn : g.runs n = some (c, q)) (ha : Allowed c q r)
    (hx : Exec V g.world c r ans w') : OnceInv ((g.setRun n c (phaseNext c q r ans)).setWorld w') := by
  have row_kept := hx.row_isSome
  -- a run that has claimed in the new ghost had claimed before, or is this one and found no row
  have claimed_old : ∀ {m d q'}, (g.setRun n c (phaseNext c q r ans)).runs m = some (d, q') → q'.hasClaimed = true →
      (∃ q₀, g.runs m = some (d, q₀) ∧ q₀.hasClaimed = true) ∨
        (m = n ∧ d = c ∧ g.world.store.row c.key = none ∧ (w'.store.row c.key).isSome = true) := by
    intro m d q' hm hq'
    rcases Ghost.setRun_cases hm with ⟨rfl, rfl, rfl⟩ | ⟨_, hold⟩
    · by_cases hq : q.hasClaimed = true
      · exact .inl ⟨q, hn, hq⟩
      · exact .inr ⟨rfl, rfl, claim_inserts ha hx (by simpa using hq) hq'⟩
    · exact .inl ⟨q', hold, hq'⟩
  have sent_kept : ∀ x ∈ g.world.sent, ∃ m d q', ((g.setRun n c (phaseNext c q r ans)).setWorld w').runs m =
      some (d, q') ∧ q'.sentOrder? = some x.order ∧ x.scope = d.scope ∧ x.order.idempotencyKey = some d.key := by
    intro x hx
    obtain ⟨m, d, q', hm, hsent, hrest⟩ := h.sent_by x hx
    by_cases hmn : m = n
    · subst hmn
      rw [hn] at hm
      cases hm
      exact ⟨m, c, _, Ghost.setRun_self _ _ _ _, sentOrder?_next ha hsent, hrest⟩
    · exact ⟨m, d, q', by rw [Ghost.setWorld_runs, Ghost.setRun_of_ne _ _ _ hmn, hm], hsent, hrest⟩
  have rows : ∀ m d q', (g.setRun n c (phaseNext c q r ans)).runs m = some (d, q') → q'.hasClaimed = true →
      (w'.store.row d.key).isSome = true := by
    intro m d q' hm hq'
    rcases claimed_old hm hq' with ⟨q₀, hold, hq₀⟩ | ⟨_, rfl, _, hrow⟩
    · exact row_kept _ (h.claimed_row m d q₀ hold hq₀)
    · exact hrow
  have inj : ∀ m m' d d' q₁ q₂, (g.setRun n c (phaseNext c q r ans)).runs m = some (d, q₁) →
      (g.setRun n c (phaseNext c q r ans)).runs m' = some (d', q₂) → q₁.hasClaimed = true → q₂.hasClaimed = true →
      d.key = d'.key → m = m' := by
    intro m m' d d' q₁ q₂ hm hm' hq₁ hq₂ hkey
    rcases claimed_old hm hq₁ with ⟨p, hold, hp⟩ | ⟨rfl, rfl, hnone, _⟩ <;>
      rcases claimed_old hm' hq₂ with ⟨p', hold', hp'⟩ | ⟨rfl, rfl, hnone', _⟩
    · exact h.claimed_inj m m' d d' p p' hold hold' hp hp' hkey
    · have := h.claimed_row m d p hold hp
      rw [hkey, hnone'] at this
      cases this
    · have := h.claimed_row m' d' p' hold' hp'
      rw [← hkey, hnone] at this
      cases this
    · rfl
  rcases sentEffect ha hx with hsent | ⟨o, order, rfl, horder, hsent, hnext⟩
  · refine ⟨?_, by rw [Ghost.setWorld_world, hsent]; exact h.nodup, rows, inj, fun m d o hm x hx' => ?_⟩
    · rw [Ghost.setWorld_world, hsent]
      exact sent_kept
    · rw [Ghost.setWorld_world, hsent] at hx'
      rcases claimed_old hm rfl with ⟨q₀, hold, hq₀⟩ | ⟨_, rfl, hnone, _⟩
      · rcases Ghost.setRun_cases hm with ⟨rfl, rfl, hq'⟩ | ⟨_, hold'⟩
        · rw [hn] at hold
          cases hold
          rcases claimed_next ha hq'.symm with rfl | hq
          · exact h.unsent _ _ _ hn x hx'
          · rw [hq] at hq₀
            cases hq₀
        · exact h.unsent _ _ _ hold' x hx'
      · -- a key that was sent has a row, and this one had none
        intro heq
        obtain ⟨m', d', q', hm', hs', _, hkey⟩ := h.sent_by x hx'
        have := h.claimed_row m' d' q' hm' (Phase.hasClaimed_of_sent hs')
        rw [hkey, Option.some.injEq] at heq
        rw [heq, hnone] at this
        cases this
  · obtain ⟨-, hkey⟩ := SubmitCall.order?_eq_some horder
    refine ⟨fun x hx' => ?_, ?_, rows, inj, fun m d p hm x hx' => ?_⟩
    · rw [Ghost.setWorld_world, hsent] at hx'
      rcases mem_cons.1 hx' with rfl | hx'
      · exact ⟨n, c, _, Ghost.setRun_self _ _ _ _, by rw [hnext]; rfl, rfl, hkey⟩
      · exact sent_kept x hx'
    · rw [Ghost.setWorld_world, hsent, map_cons, nodup_cons]
      refine ⟨fun hmem => ?_, h.nodup⟩
      obtain ⟨x, hx', hxkey⟩ := mem_map.1 hmem
      exact h.unsent n c o hn x hx' (hxkey.trans hkey)
    · rw [Ghost.setWorld_world, hsent] at hx'
      rcases Ghost.setRun_cases hm with ⟨rfl, rfl, hq'⟩ | ⟨hne, hold⟩
      · rw [hnext] at hq'
        cases hq'
      · rcases mem_cons.1 hx' with rfl | hx'
        · intro heq
          rw [hkey, Option.some.injEq] at heq
          exact hne (h.claimed_inj m n d c _ _ hold hn rfl rfl heq.symm)
        · exact h.unsent m d p hold x hx'

theorem OnceInv.reached {g : ExecGhost B} (hg : ExecReached V g) : OnceInv g := by
  refine Reached.invariant OnceInv.start (fun g g' _ h hm => ?_) hg
  cases hm with
  | spawn n i hn hi => exact h.spawn n i hn
  | call r ans hn ha hx => exact h.call hn ha hx
  | tick hw =>
    obtain ⟨b, _, rfl⟩ := hw
    exact ⟨h.sent_by, h.nodup, h.claimed_row, h.claimed_inj, h.unsent⟩

/-- **At most one order for a key**: in every configuration that any number of concurrent submissions reaches, in any
number of processes and over restarts, `gateway.submit_order` has been invoked at most once for each key. -/
theorem submitOrder_at_most_once (V : Venue B)
    (cfg : ExecConfig B) (h : ExecReachable V cfg)
    (key : String) : (cfg.world.sent.map fun x => x.order.idempotencyKey).count (some key) ≤ 1 := by
  have hnodup := h.world_invariant (I := fun w => (w.sent.map fun x => x.order.idempotencyKey).Nodup)
    (fun c => ResultMeans c) (fun c _ => AsyncTradeExecutor.submit_conforms c) fun g hg => (OnceInv.reached hg).nodup
  exact List.nodup_iff_count_le_one.1 hnodup (some key)

end

/-- The deployment that promises nothing: everything may be answered, and the store may fail in every way. -/
def anyVenue : Venue Unit where
  positions _ _ := True
  invoke _ _ _ := True
  answer _ _ _ _ := True
  reconcile _ _ _ := True
  tick _ _ := True
  contexts _ _ := True
  admits _ := True
  starts _ _ := True
  late := True

section
local instance onceCase : CaseMap := asciiCase

def twoSubmissions : ExecConfig Unit :=
  let call := sampleCall "PAINX1200" "k1" ["PAINX1200"] 1
  (fillingScript none).submitted 1 call ((fillingScript none).submitted 0 call (.start (startWorld ())))

theorem twoSubmissions_reachable : ExecReachable anyVenue twoSubmissions := by
  have permitted : ∀ call, Script.Permitted anyVenue (fillingScript none) call := fun call =>
    ⟨trivial, fun _ _ _ => trivial, fun _ _ _ _ => trivial, fun _ _ => trivial, fun _ _ => trivial⟩
  have first := (permitted (sampleCall "PAINX1200" "k1" ["PAINX1200"] 1)).reachable (n := 0) trivial
    (.init (startWorld_init anyVenue () trivial)) rfl
  exact (permitted _).reachable (n := 1) trivial first rfl

/-- The second submission of a key that was filled sends nothing. -/
theorem submitOrder_at_most_once_twice :
    (twoSubmissions.world.sent.map fun x => x.order.idempotencyKey) = [some "k1"] ∧
      (twoSubmissions.world.sent.map fun x => x.order.idempotencyKey).count (some "k1") ≤ 1 :=
  ⟨by decide +kernel, submitOrder_at_most_once anyVenue twoSubmissions twoSubmissions_reachable "k1"⟩

end

end Jqe
