import Jqe.CoroSeq
import Jqe.ExecRows
/-!
# ExecAlone — one unresolved intent for an account

The check of unresolved intents is made when the reservation is acquired, the claim later, possibly when the lease has
expired and another owner has taken over.  What links the two is the owner: while the reservation of a scope is in a
run's name, every unresolved intent of the account has that run's key.

The row of what a run has sent leaves `PENDING` and `UNKNOWN` only by the settlement of a definitive answer, or by a
reconciler that confirms the key, which it may do before the order is sent.
-/
namespace Jqe

open Coro

/-- **The reconcilers of a deployment are those of the repository**, and its store starts empty. -/
structure Venue.Shipped [CaseMap] {B : Type} (V : Venue B) : Prop where
  reconcile : ∀ b q r, V.reconcile b q r → ShippedAnswer q (.ok r)
  starts : ∀ s b, V.starts s b → s = .empty

section

variable [CaseMap] {B : Type} {V : Venue B} {w w' : ExecWorld B} {c : SubmitCall} {q : Phase} {r : ExecReq}
  {ans : Except PyExc r.Ans}

theorem owner_next {o : String} (ha : Allowed c q r) (hx : Exec V w c r ans w')
    (ho : (phaseNext c q r ans).owner? = some o) :
    q.owner? = some o ∨ (q.owner? = none ∧ o ∉ w.owners ∧ o ∈ w'.owners) := by
  cases ha with
  | draw =>
    cases hx with
    | drew o' hfresh =>
      cases ho
      exact .inr ⟨rfl, hfresh, List.mem_cons_self⟩
    | raised _ e he => cases ho
  | acquire o' => rcases ans with _ | _ | _ | _ <;> first | exact .inl ho | cases ho
  | claim o' h record broker hs hp hr => rcases ans with _ | _ | _ | _ <;> exact .inl ho
  | after q result => exact .inl (by rwa [AsyncTradeExecutor.phaseNext_after] at ho)
  | release q o' hown => exact .inl (by rwa [AsyncTradeExecutor.phaseNext_release] at ho)
  | _ => cases ans <;> exact .inl ho

omit [CaseMap] in
theorem owners_kept (hx : Exec V w c r ans w') {o : String} (h : o ∈ w.owners) : o ∈ w'.owners := by
  cases hx with
  | drew o' hfresh => exact List.mem_cons_of_mem _ h
  | _ => exact h

/-- **What a request does to a reservation**: nothing, drop it, or take it for the run that acquires. -/
theorem reservationEffect (ha : Allowed c q r) (hx : Exec V w c r ans w') (scope : String) :
    w'.store.reservation scope = w.store.reservation scope ∨ w'.store.reservation scope = none ∨
      ∃ o rsv, scope = c.scope ∧ q = .drawn o ∧ w'.store.reservation scope = some rsv ∧ rsv.ownerId = o := by
  have transition : ∀ (record : IntentRecord) {ans : Except PyExc Bool},
      Exec V w c (.store (.transition record)) ans w' →
      w'.store.reservation scope = w.store.reservation scope := by
    intro record ans hx
    rcases hx.store_exec.cases_ok with ⟨hs, _⟩ | ⟨now, a, happ, _⟩
    · rw [hs]
    · rcases Store.transition_ok happ with ⟨_, hs⟩ | ⟨_, row, _, _, hs⟩
      · rw [hs]
      · rw [hs, Store.reservation_setRow]
  cases ha with
  | acquire o =>
    rcases hx.store_exec.cases_ok with ⟨hs, _⟩ | ⟨now, a, happ, _⟩
    · exact .inl (by rw [hs])
    · rcases Store.acquireReservation_ok happ with ⟨_, hs⟩ | ⟨_, _, _, rsv, hown, hs⟩
      · exact .inl (by rw [hs])
      · by_cases hsc : scope = c.scope
        · subst hsc
          exact .inr (.inr ⟨o, rsv, rfl, rfl, by rw [hs, Store.reservation_setReservation], hown⟩)
        · exact .inl (by rw [hs, Store.reservation_setReservation_of_ne _ _ hsc])
  | release q o ho =>
    rcases hx.store_exec.cases_ok with ⟨hs, _⟩ | ⟨now, a, happ, _⟩
    · exact .inl (by rw [hs])
    · rcases Store.releaseReservation_ok happ with ⟨_, hs⟩ | ⟨_, hs, _⟩
      · exact .inl (by rw [hs])
      · by_cases hsc : scope = c.scope
        · subst hsc
          exact .inr (.inl (by rw [hs, Store.reservation_dropReservation]))
        · exact .inl (by rw [hs, Store.reservation_dropReservation_of_ne _ hsc])
  | claim o h record broker hs hp hr =>
    rcases hx.store_exec.cases_ok with ⟨hs, _⟩ | ⟨now, a, happ, _⟩
    · exact .inl (by rw [hs])
    · rcases Store.tryClaimUnderReservation_ok happ with ⟨_, hs⟩ | ⟨_, _, _, hs⟩
      · exact .inl (by rw [hs])
      · exact .inl (by rw [hs, Store.reservation_setRow])
  | get o h =>
    rcases hx.store_exec.cases_ok with ⟨hs, _⟩ | ⟨now, a, happ, _⟩
    · exact .inl (by rw [hs])
    · exact .inl (by rw [(Store.get_ok happ).1])
  | confirm o h a b hc => exact .inl (transition _ hx)
  | doubt o h => exact .inl (transition _ hx)
  | settle o order out record hr => exact .inl (transition _ hx)
  | _ => exact .inl (by rw [hx.store_eq (by simp)])

theorem Store.HeldBy.before {scope o : String} (ha : Allowed c q r) (hx : Exec V w c r ans w')
    (h : w'.store.HeldBy scope o) : w.store.HeldBy scope o ∨ scope = c.scope ∧ q = .drawn o := by
  obtain ⟨rsv, hrsv, hown⟩ := h
  rcases reservationEffect ha hx scope with hsame | hnone | ⟨o', rsv', hsc, hq, hset, hown'⟩
  · exact .inl ⟨rsv, hsame ▸ hrsv, hown⟩
  · rw [hnone] at hrsv
    cases hrsv
  · rw [hset] at hrsv
    cases hrsv
    rw [← hown', hown] at hq
    exact .inr ⟨hsc, hq⟩

theorem acquired_alone {o o' : String} {h' : Held} (ha : Allowed c (.drawn o) r) (hx : Exec V w c r ans w')
    (hq' : phaseNext c (.drawn o) r ans = .held o' h') : w.store.hasOtherUnresolvedIntent c.key = false := by
  cases ha with
  | acquire o =>
    rcases hx.store_exec.cases_ok with ⟨_, e, rfl⟩ | ⟨now, a, happ, rfl | ⟨e, rfl, _⟩⟩
    · cases hq'
    · rcases Store.acquireReservation_ok happ with ⟨hne, _⟩ | ⟨_, halone, _⟩
      · cases a <;> first | exact absurd rfl hne | cases hq'
      · exact halone
    · cases hq'
  | after q result => rw [AsyncTradeExecutor.phaseNext_after] at hq'; cases hq'
  | release q o' hown => rw [AsyncTradeExecutor.phaseNext_release] at hq'; cases hq'

structure AloneInv (g : ExecGhost B) : Prop where
  owner_drawn : ∀ n c q o, g.runs n = some (c, q) → q.owner? = some o → o ∈ g.world.owners
  owner_inj : ∀ m n c d q q' o, g.runs m = some (c, q) → g.runs n = some (d, q') → q.owner? = some o →
    q'.owner? = some o → m = n
  reservation_drawn : ∀ sc rsv, g.world.store.reservation sc = some rsv → rsv.ownerId ∈ g.world.owners
  holder : ∀ n c o h, g.runs n = some (c, .held o h) → g.world.store.HeldBy c.scope o → ∀ k row,
    g.world.store.row k = some row → row.state.unresolved = true → row.accountId = some c.scope → k = c.key

theorem unresolved_before {k : String} {row : IntentRow} (ha : Allowed c q r) (hx : Exec V w c r ans w')
    (hrow : w'.store.row k = some row) (hu : row.state.unresolved = true) :
    (∃ row₀, w.store.row k = some row₀ ∧ row₀.state.unresolved = true ∧ row₀.accountId = row.accountId) ∨
      (k = c.key ∧ row.accountId = some c.scope ∧ ∃ o h, q = .held o h ∧ w.store.HeldBy c.scope o) := by
  by_cases hk : k = c.key
  · subst hk
    cases rowEffect ha hx with
    | same hsame _ => exact .inl ⟨row, hsame ▸ hrow, hu, rfl⟩
    | claimed o h row' hq _ hafter _ hacc _ _ hheld _ =>
      rw [hrow] at hafter
      cases hafter
      exact .inr ⟨rfl, hacc, o, h, hq, hheld⟩
    | moved row' record now hb hallowed hafter _ =>
      rw [hrow] at hafter
      cases hafter
      refine .inl ⟨row', hb, ?_, rfl⟩
      rcases (IntentRecordStatus.allowedFrom_iff _ _).1 hallowed with ⟨h, _⟩ | ⟨h, hsame⟩
      · exact h
      · rw [hsame, h] at hu
        cases hu
  · rw [Exec.row_of_ne ha hx hk] at hrow
    exact .inl ⟨row, hrow, hu, rfl⟩

variable {g : ExecGhost B}

theorem AloneInv.call {n : Nat} (h : AloneInv g) (hn : g.runs n = some (c, q)) (ha : Allowed c q r)
    (hx : Exec V g.world c r ans w') : AloneInv ((g.setRun n c (phaseNext c q r ans)).setWorld w') := by
  -- an owner in the new ghost was there before in the same run, or has just been drawn
  have owner_old : ∀ {m d q' o}, (g.setRun n c (phaseNext c q r ans)).runs m = some (d, q') → q'.owner? = some o →
      (∃ q₀, g.runs m = some (d, q₀) ∧ q₀.owner? = some o) ∨ (m = n ∧ o ∉ g.world.owners ∧ o ∈ w'.owners) := by
    intro m d q' o hm ho
    rcases Ghost.setRun_cases hm with ⟨rfl, rfl, rfl⟩ | ⟨_, hold⟩
    · rcases owner_next ha hx ho with hq | ⟨_, hnew⟩
      · exact .inl ⟨q, hn, hq⟩
      · exact .inr ⟨rfl, hnew⟩
    · exact .inl ⟨q', hold, ho⟩
  refine ⟨fun m d q' o hm ho => ?_, fun m m' d d' q₁ q₂ o hm hm' ho ho' => ?_, fun sc rsv hrsv => ?_,
    fun m d o hd hm hheld k row hr hu hacc => ?_⟩
  · rcases owner_old hm ho with ⟨q₀, hold, ho₀⟩ | ⟨_, _, hnew⟩
    · exact owners_kept hx (h.owner_drawn m d q₀ o hold ho₀)
    · exact hnew
  · rcases owner_old hm ho with ⟨p, hold, hp⟩ | ⟨rfl, hfresh, _⟩ <;>
      rcases owner_old hm' ho' with ⟨p', hold', hp'⟩ | ⟨rfl, hfresh', _⟩
    · exact h.owner_inj m m' d d' p p' o hold hold' hp hp'
    · exact absurd (h.owner_drawn m d p o hold hp) hfresh'
    · exact absurd (h.owner_drawn m' d' p' o hold' hp') hfresh
    · rfl
  · rcases reservationEffect ha hx sc with hsame | hnone | ⟨o, rsv', _, hq, hset, hown⟩
    · exact owners_kept hx (h.reservation_drawn sc rsv (hsame ▸ hrsv))
    · rw [Ghost.setWorld_world, hnone] at hrsv
      cases hrsv
    · rw [Ghost.setWorld_world, hset] at hrsv
      cases hrsv
      exact owners_kept hx (h.owner_drawn n c q _ hn (by rw [hq]; exact congrArg some hown.symm))
  · rcases Ghost.setRun_cases hm with ⟨rfl, rfl, hq'⟩ | ⟨hne, hold⟩
    · rcases held_recalls ha hx hq'.symm with ⟨o₀, rfl, _, _⟩ | ⟨h₀, rfl, _, _⟩
      · -- the reservation was just acquired, when no other intent was unresolved
        have halone := acquired_alone ha hx hq'.symm
        rcases unresolved_before ha hx hr hu with ⟨row₀, hr₀, hu₀, _⟩ | ⟨hk, _⟩
        · by_contra hk
          have := (Store.hasOtherUnresolvedIntent_iff _ _).2 ⟨k, row₀, hr₀, hk, hu₀⟩
          rw [halone] at this
          cases this
        · exact hk
      · rcases unresolved_before ha hx hr hu with ⟨row₀, hr₀, hu₀, ha₀⟩ | ⟨hk, _⟩
        · rcases Store.HeldBy.before ha hx hheld with hb | ⟨_, hq⟩
          · exact h.holder _ _ o h₀ hn hb k row₀ hr₀ hu₀ (ha₀.trans hacc)
          · cases hq
        · exact hk
    · rcases Store.HeldBy.before ha hx hheld with hb | ⟨_, rfl⟩
      · rcases unresolved_before ha hx hr hu with ⟨row₀, hr₀, hu₀, ha₀⟩ | ⟨_, hsc, o', hd', rfl, hb'⟩
        · exact h.holder m d o hd hold hb k row₀ hr₀ hu₀ (ha₀.trans hacc)
        · -- two runs would be the owner of one reservation
          rw [hacc, Option.some.injEq] at hsc
          obtain ⟨rsv, hrsv, hown⟩ := hb
          obtain ⟨rsv', hrsv', hown'⟩ := hb'
          rw [hsc, hrsv'] at hrsv
          cases hrsv
          exact absurd (h.owner_inj m n d c _ _ o hold hn rfl (congrArg some (hown'.symm.trans hown))) hne
      · exact absurd (h.owner_inj m n d c _ _ _ hold hn rfl rfl) hne

omit [CaseMap] in
theorem AloneInv.start (w : ExecWorld B) (h : (execSystem V).init w) : AloneInv (.start w : ExecGhost B) where
  owner_drawn n c q o hn := by cases hn
  owner_inj m n c d q q' o hm := by cases hm
  reservation_drawn := h.2.2.2.2
  holder n c o hd hn := by cases hn

omit [CaseMap] in
theorem AloneInv.spawn (h : AloneInv g) (n : Nat) (i : SubmitCall) : AloneInv (g.setRun n i .idle) := by
  have ne_idle : ∀ {q : Phase} {o : String}, q.owner? = some o → q ≠ .idle := by
    rintro q o hq rfl
    cases hq
  exact ⟨fun m c q o hm ho => h.owner_drawn m c q o (started_before hm (ne_idle ho)) ho,
    fun m m' c d q q' o hm hm' ho ho' =>
      h.owner_inj m m' c d q q' o (started_before hm (ne_idle ho)) (started_before hm' (ne_idle ho')) ho ho',
    h.reservation_drawn, fun m c o hd hm => h.holder m c o hd (started_before hm (by simp))⟩

theorem AloneInv.reached (hg : ExecReached V g) : AloneInv g := by
  refine Reached.invariant AloneInv.start (fun g g' hr h hm => ?_) hg
  cases hm with
  | spawn n i hn hi => exact h.spawn n i
  | call r ans hn ha hx => exact h.call hn ha hx
  | tick hw =>
    obtain ⟨b, _, rfl⟩ := hw
    exact ⟨h.owner_drawn, h.owner_inj, h.reservation_drawn, h.holder⟩

/-- An account has at most one unresolved intent. -/
def OneUnresolved (s : Store) : Prop :=
  ∀ sc k k' row row', s.row k = some row → s.row k' = some row' → row.state.unresolved = true →
    row'.state.unresolved = true → row.accountId = some sc → row'.accountId = some sc → k = k'

theorem OneUnresolved.call {n : Nat} (h : OneUnresolved g.world.store) (hg : AloneInv g) (hn : g.runs n = some (c, q))
    (ha : Allowed c q r) (hx : Exec V g.world c r ans w') : OneUnresolved w'.store := by
  intro sc k k' row row' hr hr' hu hu' hacc hacc'
  rcases unresolved_before ha hx hr hu with ⟨row₀, hr₀, hu₀, ha₀⟩ | ⟨hk, hsc, o, hd, hq, hheld⟩ <;>
    rcases unresolved_before ha hx hr' hu' with ⟨row₁, hr₁, hu₁, ha₁⟩ | ⟨hk', hsc', o', hd', hq', hheld'⟩
  · exact h sc k k' row₀ row₁ hr₀ hr₁ hu₀ hu₁ (ha₀.trans hacc) (ha₁.trans hacc')
  · subst hq'
    rw [hk']
    exact hg.holder n c o' hd' hn hheld' k row₀ hr₀ hu₀ ((ha₀.trans hacc).trans (hacc'.symm.trans hsc'))
  · subst hq
    rw [hk]
    exact (hg.holder n c o hd hn hheld k' row₁ hr₁ hu₁ ((ha₁.trans hacc').trans (hacc.symm.trans hsc))).symm
  · rw [hk, hk']

theorem OneUnresolved.reached (hstart : ∀ s b, V.starts s b → OneUnresolved s) (hg : ExecReached V g) :
    OneUnresolved g.world.store := by
  refine Reached.invariant (I := fun g => OneUnresolved g.world.store) (fun w h => ?_) (fun g g' hr h hm => ?_) hg
  · exact hstart _ _ h.1
  · cases hm with
    | spawn n i hn hi => exact h
    | call r ans hn ha hx => exact h.call (AloneInv.reached hr) hn ha hx
    | tick hw =>
      obtain ⟨b, _, rfl⟩ := hw
      exact h

/-- **The invariant of the repository's reconcilers**: they are never asked with an identifier, so they never confirm. -/
structure UnidentifiedInv (g : ExecGhost B) : Prop where
  unconfirmed : g.world.confirmed = []
  row_ids : ∀ k row, g.world.store.row k = some row → row.state.unresolved = true →
    row.orderId = none ∧ row.transactionId = none
  seen_ids : ∀ n c o h record, g.runs n = some (c, .held o h) → h.seen = some record →
    record.status.unresolved = true → record.orderId = none ∧ record.transactionId = none

theorem UnidentifiedInv.call (hV : V.Shipped) {n : Nat} (h : UnidentifiedInv g) (hn : g.runs n = some (c, q))
    (ha : Allowed c q r) (hx : Exec V g.world c r ans w') :
    UnidentifiedInv ((g.setRun n c (phaseNext c q r ans)).setWorld w') := by
  refine ⟨?_, fun k row hrow hu => ?_, fun m d o hd record hm hseen hu => ?_⟩
  · have same : w'.confirmed = g.world.confirmed := by
      cases ha with
      | reconcile o hd record hr hu =>
        cases hx with
        | reconciled _ evidence hv =>
          obtain ⟨hid, htx⟩ := h.seen_ids n c o hd record hn hr hu
          exact if_neg ((hV.reconcile _ _ _ hv).not_confirmed hid htx)
        | raised _ e he => rfl
      | _ => cases hx <;> rfl
    exact same.trans h.unconfirmed
  · by_cases hk : k = c.key
    · subst hk
      cases rowEffect ha hx with
      | same hsame _ => exact h.row_ids _ row (hsame ▸ hrow) hu
      | claimed o hd row' hq _ hafter _ _ hids _ _ _ =>
        rw [Ghost.setWorld_world, hafter] at hrow
        cases hrow
        exact hids
      | moved row' record now hb hallowed hafter hw =>
        rw [Ghost.setWorld_world, hafter] at hrow
        cases hrow
        generalize phaseNext c q r ans = q₁ at hw
        cases hw with
        | confirm hconf hs =>
          dsimp only at hu
          rw [hs] at hu
          cases hu
        | doubt hs hid htx => exact ⟨hid, htx⟩
        | settle hr hp => exact (settlement_unknown hr hu).2
    · rw [Ghost.setWorld_world, Exec.row_of_ne ha hx hk] at hrow
      exact h.row_ids k row hrow hu
  · rcases Ghost.setRun_cases hm with ⟨rfl, rfl, hq⟩ | ⟨_, hold⟩
    · rcases held_recalls ha hx hq.symm with ⟨_, _, hnone, _⟩ | ⟨h₀, rfl, hsame | hread, _⟩
      · rw [hnone] at hseen
        cases hseen
      · exact h.seen_ids _ _ o h₀ record hn (hsame ▸ hseen) hu
      · obtain ⟨row, hrow, hdecode⟩ := hread record hseen
        obtain ⟨_, hst, hid, htx⟩ := Store.decode_ok hdecode
        rw [hid, htx]
        exact h.row_ids _ row hrow (hst ▸ hu)
    · exact h.seen_ids m d o hd record hold hseen hu

theorem UnidentifiedInv.start (hV : V.Shipped) (w : ExecWorld B) (h : (execSystem V).init w) :
    UnidentifiedInv (.start w : ExecGhost B) where
  unconfirmed := h.2.2.2.1
  row_ids k row hrow := by
    rw [Ghost.start_world, hV.starts _ _ h.1] at hrow
    cases hrow
  seen_ids n c o hd record hn := by cases hn

theorem UnidentifiedInv.reached (hV : V.Shipped) (hg : ExecReached V g) : UnidentifiedInv g := by
  refine Reached.invariant (UnidentifiedInv.start hV) (fun g g' hr h hm => ?_) hg
  cases hm with
  | spawn n i hn hi =>
    exact ⟨h.unconfirmed, h.row_ids, fun m c o hd record hm =>
      h.seen_ids m c o hd record (started_before hm (by simp))⟩
  | call r ans hn ha hx => exact h.call hV hn ha hx
  | tick hw =>
    obtain ⟨b, _, rfl⟩ := hw
    exact ⟨h.unconfirmed, h.row_ids, h.seen_ids⟩

theorem sending_step {cfg cfg' : ExecConfig B} (hcov : Covered submitProtocol (fun c => ResultMeans c) cfg g)
    (hs : Step (execSystem V) AsyncTradeExecutor.submit cfg cfg') {x : SentOrder}
    (hx : cfg'.world.sent = x :: cfg.world.sent) :
    ∃ n c o, g.runs n = some (c, .claimed o) ∧ x.scope = c.scope ∧ x.order.idempotencyKey = some c.key := by
  have absurd_same : cfg'.world.sent = cfg.world.sent → False := by
    intro hsame
    rw [hsame] at hx
    exact absurd (congrArg List.length hx) (by simp)
  cases hs with
  | spawn n i hn hi => exact (absurd_same rfl).elim
  | stop hn => exact (absurd_same rfl).elim
  | tick hw =>
    obtain ⟨b, _, rfl⟩ := hw
    exact (absurd_same rfl).elim
  | call ans hn hexec =>
    rename_i n c r k w
    obtain ⟨q, hgn, hallowed, _⟩ := hcov.live hn
    rcases sentEffect hallowed hexec with hsame | ⟨o, order, rfl, horder, hsent, _⟩
    · exact (absurd_same hsame).elim
    · have heq : x = ⟨c.scope, order⟩ := by
        have := hx.symm.trans hsent
        simpa using this
      subst heq
      exact ⟨n, c, o, hgn, rfl, (SubmitCall.order?_eq_some horder).2⟩

/-- **One unresolved intent for an account, and no order beside it**: in every configuration that concurrent submissions
reach, with any clocks and leases, an account scope has at most one `PENDING` or `UNKNOWN` intent, and no step starts
`gateway.submit_order` for the account while an intent of another key is unresolved there, unless a reconciler has
confirmed the order before it is sent.  The repository's reconcilers never do. -/
theorem one_unresolved_per_account (V : Venue B) (hstart : ∀ s b, V.starts s b → OneUnresolved s) (cfg : ExecConfig B)
    (h : ExecReachable V cfg) :
    (∀ scope k k' row row', cfg.world.store.row k = some row → cfg.world.store.row k' = some row' →
      row.state.unresolved = true → row'.state.unresolved = true → row.accountId = some scope →
      row'.accountId = some scope → k = k') ∧
    (∀ cfg' x, Step (execSystem V) AsyncTradeExecutor.submit cfg cfg' → cfg'.world.sent = x :: cfg.world.sent →
      x.order.idempotencyKey ∉ cfg.world.confirmed → ∀ k row, cfg.world.store.row k = some row →
        row.state.unresolved = true → row.accountId = some x.scope → x.order.idempotencyKey = some k) ∧
    (V.Shipped → cfg.world.confirmed = []) := by
  obtain ⟨g, hg, hcov⟩ := covered (fun c => ResultMeans c) (fun c _ => AsyncTradeExecutor.submit_conforms c) h
  have hone := OneUnresolved.reached hstart hg
  refine ⟨?_, fun cfg' x hs hx hconf k row hrow hu hacc => ?_, fun hV => ?_⟩
  · rw [hcov.1]
    exact hone
  · obtain ⟨n, c, o, hn, hscope, hkey⟩ := sending_step hcov hs hx
    rw [hcov.1] at hrow hconf
    obtain ⟨own, hown, hownacc, hmatch⟩ := (RowsInv.reached hg).row n c _ hn rfl (hkey ▸ hconf)
    rw [hkey, hone c.scope k c.key row own hrow hown hu hmatch (hacc.trans (congrArg some hscope)) hownacc]
  · rw [hcov.1]
    exact (UnidentifiedInv.reached hV hg).unconfirmed

end

section
local instance aloneCase : CaseMap := asciiCase

def shippedVenue : Venue Unit :=
  { anyVenue with reconcile := fun _ q r => ShippedAnswer q (.ok r), starts := fun s _ => s = .empty }

theorem shippedVenue_shipped : shippedVenue.Shipped := ⟨fun _ _ _ h => h, fun _ _ h => h⟩

def losingScript : Script Unit :=
  { fillingScript none with answer := fun _ _ => (.error (.exception "timed out"), ()) }

def lostThenOther : ExecConfig Unit :=
  let symbols := ["PAINX1200", "GAINX1200"]
  losingScript.submitted 1 (sampleCall "GAINX1200" "k2" symbols 2)
    (losingScript.submitted 0 (sampleCall "PAINX1200" "k1" symbols 2) (.start (startWorld ())))

theorem lostThenOther_reachable : ExecReachable shippedVenue lostThenOther := by
  have permitted : ∀ call, Script.Permitted shippedVenue losingScript call := fun call =>
    ⟨trivial, fun _ _ _ => trivial, fun _ q r h => by cases h; exact .mt5 "mt5_demo" none, fun _ _ => trivial,
      fun _ _ => trivial⟩
  have first := (permitted (sampleCall "PAINX1200" "k1" ["PAINX1200", "GAINX1200"] 2)).reachable (n := 0) trivial
    (.init (startWorld_init shippedVenue () rfl)) rfl
  exact (permitted _).reachable (n := 1) trivial first rfl

/-- The lost order stays `UNKNOWN`, alone, and nothing else is claimed on its account. -/
theorem one_unresolved_per_account_lost :
    ((lostThenOther.world.store.row "k1").map (·.state) = some .unknown ∧
      (lostThenOther.world.store.row "k2").isNone = true ∧ lostThenOther.world.sent.length = 1) ∧
    (∀ k k' row row', lostThenOther.world.store.row k = some row → lostThenOther.world.store.row k' = some row' →
      row.state.unresolved = true → row'.state.unresolved = true → row.accountId = some "mt5:1001" →
      row'.accountId = some "mt5:1001" → k = k') ∧ lostThenOther.world.confirmed = [] := by
  obtain ⟨hone, -, hconfirmed⟩ := one_unresolved_per_account shippedVenue (fun _ _ hs _ _ _ _ _ hrow => by
    rw [show _ = Store.empty from hs] at hrow
    cases hrow) lostThenOther lostThenOther_reachable
  exact ⟨by decide +kernel, hone "mt5:1001", hconfirmed shippedVenue_shipped⟩

/-! ### An order that a reconciler confirms before it is sent -/

def confirmingVenue : Venue Unit := { shippedVenue with reconcile := fun _ _ _ => True }

/-- Later than every lease of the other script, with a reconciler that confirms every key. -/
def confirmingScript : Script Unit :=
  { fillingScript none with
    now := 1000000000
    reconcile := fun _ _ => .ok ⟨.confirmedMatch, "matched", some "7001", none, none⟩ }

def firstCall : SubmitCall := sampleCall "PAINX1200" "k1" ["PAINX1200", "GAINX1200"] 2

def otherCall : SubmitCall := sampleCall "GAINX1200" "k2" ["PAINX1200", "GAINX1200"] 2

/-- A submission after its claim, before it sends. -/
def Script.claimed (s : Script Unit) (n : Nat) (c : SubmitCall) (cfg : ExecConfig Unit) : ExecConfig Unit :=
  let rest := (AsyncTradeExecutor.submit c).steps (s.handle c) 5 cfg.world
  ((cfg.setRun n c (some (AsyncTradeExecutor.submit c))).setRun n c (some rest.1)).setWorld rest.2

theorem Script.Permitted.claimed {s : Script Unit} {c : SubmitCall} (h : s.Permitted confirmingVenue c)
    {cfg : ExecConfig Unit} (hcfg : ExecReachable confirmingVenue cfg) {n : Nat} (hn : cfg.runs n = none) :
    ExecReachable confirmingVenue (s.claimed n c cfg) :=
  Reachable.steps (s.handle c) h.exec 5 _ (hcfg.step (.spawn n c hn trivial)) (cfg.setRun_self n c _)

/-- The first order is claimed and not sent, its key confirmed and settled, and the other order claimed. -/
def preempted : ExecConfig Unit :=
  confirmingScript.claimed 2 otherCall
    (confirmingScript.submitted 1 firstCall ((fillingScript none).claimed 0 firstCall (.start (startWorld ()))))

theorem Script.confirmed_permitted (s : Script Unit) (c : SubmitCall) : s.Permitted confirmingVenue c :=
  ⟨trivial, fun _ _ _ => trivial, fun _ _ _ _ => trivial, fun _ _ => trivial, fun _ _ => trivial⟩

theorem preempted_reachable : ExecReachable confirmingVenue preempted := by
  have hstart : ExecReachable confirmingVenue (.start (startWorld ())) := .init (startWorld_init confirmingVenue () rfl)
  have hclaimed := ((fillingScript none).confirmed_permitted firstCall).claimed hstart (n := 0) rfl
  have hsettled := (confirmingScript.confirmed_permitted firstCall).reachable trivial hclaimed (n := 1) rfl
  exact (confirmingScript.confirmed_permitted otherCall).claimed hsettled (n := 2) rfl

/-- **An order is sent beside an unresolved intent** of its account: a reconciler has confirmed it before it was sent. -/
theorem sent_beside_unresolved : ¬∀ cfg : ExecConfig Unit, ExecReachable confirmingVenue cfg →
    ∀ cfg' x, Step (execSystem confirmingVenue) AsyncTradeExecutor.submit cfg cfg' →
      cfg'.world.sent = x :: cfg.world.sent → ∀ k row, cfg.world.store.row k = some row →
        row.state.unresolved = true → row.accountId = some x.scope → x.order.idempotencyKey = some k := by
  intro h
  have hfirst := (fillingScript none).confirmed_permitted firstCall
  obtain ⟨rest, hrun, hnext⟩ : ∃ rest, preempted.runs 0 = some (firstCall, some rest) ∧
      (rest.steps ((fillingScript none).handle firstCall) 1 preempted.world).2.sent.map
        (fun x => (x.scope, x.order.idempotencyKey)) = [("mt5:1001", some "k1")] := ⟨_, rfl, by decide +kernel⟩
  have hnone : preempted.world.sent = [] := List.map_eq_nil_iff.1 (by decide +kernel :
    preempted.world.sent.map (·.scope) = [])
  have hother : (preempted.world.store.row "k2").map (fun row => (row.state.unresolved, row.accountId)) =
      some (true, some "mt5:1001") := by decide +kernel
  have hstep : Step (execSystem confirmingVenue) AsyncTradeExecutor.submit preempted _ :=
    Step.of_steps hfirst.exec hrun fun hsame => by
      rw [hsame, hnone] at hnext
      cases hnext
  obtain ⟨row, hrow, hfields⟩ := Option.map_eq_some_iff.1 hother
  obtain ⟨hunresolved, haccount⟩ := Prod.mk.inj hfields
  obtain ⟨x, hsent, hx⟩ := List.map_eq_singleton_iff.1 hnext
  obtain ⟨hscope, hkey⟩ := Prod.mk.inj hx
  have hsame := h preempted preempted_reachable _ x hstep (by rw [hnone]; exact hsent) "k2" row hrow hunresolved
    (haccount.trans (congrArg some hscope.symm))
  rw [hkey] at hsame
  exact absurd hsame (by decide)

end

end Jqe

/-! ## A sent order has a durable record, on the fail-closed side -/

namespace Jqe

open Coro

/-- **A definitive answer of the gateway**: `REJECTED`, `PreSubmitOrderRejected`, or `FILLED` or `SUBMITTED` with a
nonblank order id. -/
def Definitive : Except PyExc GatewayAnswer → Prop
  | .ok (.result r) => r.status = .rejected ∨ ((r.status = .filled ∨ r.status = .submitted) ∧ blank r.orderId = false)
  | .ok .other => False
  | .error (.preSubmitOrderRejected _) => True
  | .error _ => False

theorem OrderStatus.value_mem (s : OrderStatus) :
    s.value ∈ ["FILLED", "SUBMITTED", "REJECTED"] ∧ (s.value ∈ ["FILLED", "SUBMITTED"] ↔ s = .filled ∨ s = .submitted) := by
  cases s <;> decide

theorem IntentRecordStatus.unresolved_iff (s : IntentRecordStatus) :
    s.unresolved = true ↔ s = .pending ∨ s = .unknown := by
  cases s <;> decide

theorem definitive_of_terminal {c : SubmitCall} {ans : Except PyExc GatewayAnswer} {record : IntentRecord}
    (h : settlement c (outcomeOf ans) = some record) (ht : record.status.unresolved = false) : Definitive ans := by
  rcases ans with e | ⟨r | _⟩
  · cases e with
    | preSubmitOrderRejected m => trivial
    | exception m => cases h; cases ht
    | baseException => cases h
  · obtain ⟨hall, hacc⟩ := r.status.value_mem
    simp only [outcomeOf, AsyncTradeExecutor.gatewayOutcome, hall, not_true_eq_false, if_false] at h
    by_cases hst : r.status = .rejected
    · exact .inl hst
    · have hopen : r.status = .filled ∨ r.status = .submitted := by
        revert hst
        cases r.status <;> simp
      by_cases hb : blank r.orderId = true
      · rw [if_pos ⟨hacc.2 hopen, hb⟩] at h
        cases h
        cases ht
      · exact .inr ⟨hopen, by simpa using hb⟩
  · cases h
    cases ht

theorem RowMatches.settlement {late : Prop} {c : SubmitCall} {q : Phase} {row : IntentRow} {order : OrderRequest}
    (h : RowMatches late c q row) (hq : q.sentOrder? = some order) (ht : row.state.unresolved = false) :
    ∃ out record, q.outcome? = some (order, out) ∧ settlement c out = some record ∧ row.state = record.status := by
  have no : row.state.unresolved ≠ true := by
    rw [ht]
    simp
  cases q with
  | sent o order' => exact absurd h no
  | answered o order' out => exact absurd h no
  | settled o order' out p =>
    cases hq
    rcases p with _ | _ | _
    · obtain ⟨record, hr, hs⟩ := h.resolve_left no
      exact ⟨out, record, rfl, hr, hs⟩
    · obtain ⟨_, record, hr, hs⟩ := h.resolve_left no
      exact ⟨out, record, rfl, hr, hs⟩
    · obtain ⟨record, hr, hs, _⟩ := h
      exact ⟨out, record, rfl, hr, hs⟩
  | _ => cases hq

/-- No two runs of a configuration write the key. -/
def SoleActor {W : Type} (cfg : Config ExecReq ExecReq.Ans PyExc ExecutionResult W SubmitCall) (key : String) : Prop :=
  ∀ m n c d p p', cfg.runs m = some (c, p) → cfg.runs n = some (d, p') → c.key = key → d.key = key → m = n

section

variable [CaseMap] {B : Type} {V : Venue B} {cfg : ExecConfig B} {g : ExecGhost B}

theorem SoleActor.unconfirmed {n : Nat} {c : SubmitCall} {q : Phase}
    (hcov : Covered submitProtocol (fun c => ResultMeans c) cfg g) (hs : SoleActor cfg c.key) (hr : RowsInv V g)
    (hn : g.runs n = some (c, q)) (hq : q.hasClaimed = true) : some c.key ∉ g.world.confirmed := by
  intro hmem
  obtain ⟨m, d, q', hne, hm, hkey⟩ := hr.confirmed_other n c q hn hq hmem
  obtain ⟨p, hp⟩ := hcov.run hn
  obtain ⟨p', hp'⟩ := hcov.run hm
  exact hne (hs m n d c p' p hp' hp hkey rfl)

/-- **Crash safety of submission**, whatever the gateway does, whichever store writes fail and wherever a process stops.
An order that was sent has a durable record, `PENDING` or `UNKNOWN` until the gateway has answered definitively: when
no other run writes its key, and under the repository's reconcilers whoever writes.  And what a submission returns says
what is recorded. -/
theorem submission_crash_safe (V : Venue B)
    (cfg : ExecConfig B) (h : ExecReachable V cfg)
    (key : String) :
    (∀ x ∈ cfg.world.sent, x.order.idempotencyKey = some key → ∃ row, cfg.world.store.row key = some row ∧
      (SoleActor cfg key ∨ V.Shipped → (∀ ans, (x.order, ans) ∈ cfg.world.answers → ¬Definitive ans) →
        row.state = .pending ∨ row.state = .unknown)) ∧
    (SoleActor cfg key → ∀ n c result, cfg.runs n = some (c, some (.ret result)) → c.key = key →
      (∀ id, result.state = .alreadyExecuted → result.orderId = some id →
        ∃ row, cfg.world.store.row key = some row ∧ row.state = .accepted ∧ row.orderId = some id) ∧
      (¬V.late → result.state = .unknown → ∀ x ∈ cfg.world.sent, x.order.idempotencyKey = some key →
        ∀ row, cfg.world.store.row key = some row → row.state ≠ .rejected)) := by
  obtain ⟨g, hg, hcov⟩ := covered (fun c => ResultMeans c) (fun c _ => AsyncTradeExecutor.submit_conforms c) h
  have honce := OnceInv.reached hg
  have hrows := RowsInv.reached hg
  rw [hcov.1]
  refine ⟨fun x hx hkey => ?_, fun hsole n c result hn hc => ?_⟩
  · obtain ⟨n, c, q, hn, hsent, _, hckey⟩ := honce.sent_by x hx
    have hclaimed := Phase.hasClaimed_of_sent hsent
    have heq : c.key = key := by
      rw [hkey, Option.some.injEq] at hckey
      exact hckey.symm
    obtain ⟨row, hrow⟩ := Option.isSome_iff_exists.1 (honce.claimed_row n c q hn hclaimed)
    rw [heq] at hrow
    refine ⟨row, hrow, fun hactors hans => ?_⟩
    have hconf : some c.key ∉ g.world.confirmed := by
      rcases hactors with hsole | hV
      · exact SoleActor.unconfirmed hcov (heq ▸ hsole) hrows hn hclaimed
      · rw [(UnidentifiedInv.reached hV hg).unconfirmed]
        simp
    obtain ⟨row', hrow', _, hmatch⟩ := hrows.row n c q hn hclaimed hconf
    rw [heq, hrow] at hrow'
    cases hrow'
    rw [← IntentRecordStatus.unresolved_iff]
    by_contra hterminal
    obtain ⟨out, record, hout, hset, hst⟩ := hmatch.settlement hsent (by simpa using hterminal)
    obtain ⟨ans, hlogged, rfl⟩ := hrows.logged n c q x.order out hn hout
    exact hans ans hlogged (definitive_of_terminal hset (by rw [← hst]; simpa using hterminal))
  · subst hc
    obtain ⟨q, hgn, hmeans⟩ := hcov.live hn
    obtain ⟨hexec, hunk, hreturned⟩ := hmeans result rfl
    refine ⟨fun id hst hid => ?_, fun hlate hst x hx hkey row hrow => ?_⟩
    · obtain ⟨o, order, out, record, rfl, hset, hacc, hrid⟩ := hexec id hst hid
      obtain ⟨row, hrow, _, record', hset', hrst, hroid⟩ := hrows.row n c _ hgn rfl
        (SoleActor.unconfirmed hcov hsole hrows hgn rfl)
      rw [hset] at hset'
      cases hset'
      exact ⟨row, hrow, hrst.trans hacc, hroid.trans hrid⟩
    · -- the order was sent by this run, the only one of its key
      obtain ⟨m, d, q', hm, hsent, _, hdkey⟩ := honce.sent_by x hx
      have hkeys : d.key = c.key := by
        rw [hkey, Option.some.injEq] at hdkey
        exact hdkey.symm
      obtain ⟨p, hp⟩ := hcov.run hm
      have hmn : m = n := hsole m n d c _ _ hp hn hkeys rfl
      subst hmn
      rw [hgn] at hm
      cases hm
      have hclaimed := Phase.hasClaimed_of_sent hsent
      obtain ⟨row', hrow', _, hmatch⟩ := hrows.row _ _ _ hgn hclaimed
        (SoleActor.unconfirmed hcov hsole hrows hgn hclaimed)
      rw [hrow] at hrow'
      cases hrow'
      intro hrej
      have no : row.state.unresolved ≠ true := by
        rw [hrej]
        simp [IntentRecordStatus.unresolved]
      cases q with
      | sent o order => exact no hmatch
      | answered o order out => exact no hmatch
      | settled o order out p =>
        rcases p with _ | _ | _
        · exact hreturned o order out rfl
        · exact hlate (hmatch.resolve_left no).1
        · obtain ⟨record, hset, hrst, _⟩ := hmatch
          exact hunk o order out record rfl hset hst (hrst.symm.trans hrej)
      | _ => cases hsent

end

section
local instance crashCase : CaseMap := asciiCase

def lostOrder : ExecConfig Unit :=
  losingScript.submitted 0 (sampleCall "PAINX1200" "k1" ["PAINX1200"] 1) (.start (startWorld ()))

theorem lostOrder_reachable : ExecReachable anyVenue lostOrder := by
  have permitted : Script.Permitted anyVenue losingScript (sampleCall "PAINX1200" "k1" ["PAINX1200"] 1) :=
    ⟨trivial, fun _ _ _ => trivial, fun _ _ _ _ => trivial, fun _ _ => trivial, fun _ _ => trivial⟩
  exact permitted.reachable (n := 0) trivial (.init (startWorld_init anyVenue () trivial)) rfl

theorem lostOrder_sole : SoleActor lostOrder "k1" := by
  have only : ∀ m c p, lostOrder.runs m = some (c, p) → m = 0 := by
    intro m c p hm
    by_contra hne
    have hnone : lostOrder.runs m = none := Function.update_of_ne hne _ _
    rw [hnone] at hm
    cases hm
  intro m n c d p p' hm hn _ _
  rw [only m c p hm, only n d p' hn]

/-- The record of a lost order is `PENDING` or `UNKNOWN`. -/
theorem submission_crash_safe_lost :
    lostOrder.world.sent.length = 1 ∧ ∀ x ∈ lostOrder.world.sent, x.order.idempotencyKey = some "k1" →
      ∃ row, lostOrder.world.store.row "k1" = some row ∧
        ((∀ ans, (x.order, ans) ∈ lostOrder.world.answers → ¬Definitive ans) →
          row.state = .pending ∨ row.state = .unknown) := by
  refine ⟨by decide +kernel, fun x hx hkey => ?_⟩
  obtain ⟨row, hrow, hsafe⟩ := (submission_crash_safe anyVenue lostOrder lostOrder_reachable "k1").1 x hx hkey
  exact ⟨row, hrow, hsafe (.inl lostOrder_sole)⟩

end

end Jqe
