import Jqe.ExecAlone
import Mathlib.Data.List.Perm.Subperm
/-!
# ExecDesk — the position limits, over any number of submissions

The policy judges a snapshot of the positions, and the order goes out later.  At a desk that opens only what was sent
to it, nothing can open in between: an order in flight has an unresolved row.
-/
namespace Jqe

open Coro List

/-- An open position, with the order that opened it if there is one. -/
structure DeskPosition where
  position : Position
  order : Option OrderRequest

/-- **A broker's book**: the open positions, and the orders it was sent that may still open. -/
structure Desk where
  positions : List DeskPosition
  inflight : List OrderRequest

namespace Desk

def send (d : Desk) (order : OrderRequest) : Desk := { d with inflight := order :: d.inflight }

/-- The order will not open from here on. -/
def settle (d : Desk) (order : OrderRequest) : Desk := { d with inflight := d.inflight.filter (· ≠ order) }

def openPosition (d : Desk) (order : OrderRequest) (p : Position) : Desk :=
  ⟨⟨p, some order⟩ :: d.positions, d.inflight.filter (· ≠ order)⟩

/-- **What `submit_order` may answer**: an accepted order has opened, a rejected one never will. -/
inductive Answers (d : Desk) (order : OrderRequest) : Except PyExc GatewayAnswer → Desk → Prop
  | accepted (r : OrderResult) (hr : r.status ≠ .rejected) (ho : order ∉ d.inflight) :
      Answers d order (.ok (.result r)) d
  | rejected (r : OrderResult) (hr : r.status = .rejected) : Answers d order (.ok (.result r)) (d.settle order)
  | malformed : Answers d order (.ok .other) d
  | refused (message : String) : Answers d order (.error (.preSubmitOrderRejected message)) (d.settle order)
  | raised (e : PyExc) (he : ∀ message, e ≠ .preSubmitOrderRejected message) : Answers d order (.error e) d

theorem Answers.effect {d d' : Desk} {order : OrderRequest} {ans : Except PyExc GatewayAnswer}
    (h : d.Answers order ans d') :
    d'.positions = d.positions ∧ d'.inflight.Sublist d.inflight ∧ (Definitive ans → order ∉ d'.inflight) := by
  cases h with
  | accepted r hr ho => exact ⟨rfl, .refl _, fun _ => ho⟩
  | rejected r hr => exact ⟨rfl, filter_sublist, fun _ => by simp [settle]⟩
  | malformed => exact ⟨rfl, .refl _, fun h => h.elim⟩
  | refused message => exact ⟨rfl, filter_sublist, fun _ => by simp [settle]⟩
  | raised e he =>
    refine ⟨rfl, .refl _, fun h => ?_⟩
    cases e with
    | preSubmitOrderRejected message => exact absurd rfl (he message)
    | exception message => exact h.elim
    | baseException => exact h.elim

def orders (d : Desk) : List OrderRequest := d.inflight ++ d.positions.filterMap (·.order)

theorem mem_orders {d : Desk} {x : OrderRequest} :
    x ∈ d.orders ↔ x ∈ d.inflight ∨ ∃ p ∈ d.positions, p.order = some x := by
  simp [orders]

variable [CaseMap]

/-- What a position keeps while its prices move. -/
def mark (p : DeskPosition) : String × Option OrderRequest := (normalizeSymbol p.position.symbol, p.order)

def symbols (d : Desk) : List String := d.positions.map fun p => normalizeSymbol p.position.symbol

inductive Tick (d : Desk) : Desk → Prop
  | opens (order : OrderRequest) (p : Position) (ho : order ∈ d.inflight)
      (hs : normalizeSymbol p.symbol = normalizeSymbol order.symbol) : Tick d (d.openPosition order p)
  | vanishes (positions : List DeskPosition) (h : (positions.map mark).Subperm (d.positions.map mark)) :
      Tick d { d with positions }

omit [CaseMap] in
@[simp] theorem send_positions (d : Desk) (order : OrderRequest) : (d.send order).positions = d.positions := rfl

omit [CaseMap] in
@[simp] theorem send_inflight (d : Desk) (order : OrderRequest) : (d.send order).inflight = order :: d.inflight := rfl

theorem symbols_eq (d : Desk) : d.symbols = (d.positions.map mark).map Prod.fst := by
  simp [symbols, mark, Function.comp_def]

theorem orders_of_tick {d d' : Desk} {x : OrderRequest} (h : d.Tick d') (hx : x ∈ d'.orders) : x ∈ d.orders := by
  rw [mem_orders] at hx
  cases h with
  | opens order p ho hs =>
    rcases hx with hx | ⟨p', hp', hx⟩
    · exact mem_orders.2 (.inl (mem_of_mem_filter hx))
    · rcases mem_cons.1 hp' with rfl | hp'
      · cases hx
        exact mem_orders.2 (.inl ho)
      · exact mem_orders.2 (.inr ⟨p', hp', hx⟩)
  | vanishes positions h =>
    refine mem_orders.2 (hx.imp_right ?_)
    rintro ⟨p, hp, hpx⟩
    obtain ⟨p', hp', heq⟩ := mem_map.1 (h.subset (mem_map_of_mem (f := mark) hp))
    exact ⟨p', hp', (congrArg Prod.snd heq).trans hpx⟩

end Desk

variable [CaseMap]

/-- **A desk for one account, where every submission has the limit `M`.** -/
def deskVenue (account : String) (M : Int) : Venue Desk where
  positions d items := items = (d.positions.map (·.position)).map .position
  invoke d order d' := d' = d.send order
  answer := Desk.Answers
  reconcile d q r := r.state = .confirmedMatch →
    ∃ p ∈ d.positions, ∃ order, p.order = some order ∧ order.idempotencyKey = q.idempotencyKey
  tick := Desk.Tick
  contexts _ context := ∀ x, context = some x → x.maxOpenPositions = some M
  admits c := c.scope = account ∧ ∀ x, c.context = some x → x.maxOpenPositions = some M
  starts s d := d.inflight = [] ∧ (d.positions.length : Int) ≤ M ∧ d.symbols.Nodup ∧
    ∀ order ∈ d.orders, ∃ k, order.idempotencyKey = some k ∧ (s.row k).isSome = true
  late := True

section

variable {account : String} {M : Int} {w w' : ExecWorld Desk} {c : SubmitCall} {q : Phase} {r : ExecReq}
  {ans : Except PyExc r.Ans}

theorem deskEffect (ha : Allowed c q r) (hx : Exec (deskVenue account M) w c r ans w') :
    (w'.broker = w.broker ∧ w'.sent = w.sent ∧ (phaseNext c q r ans).outcome? = q.outcome?) ∨
      (∃ o order, q = .claimed o ∧ c.order? = some order ∧ phaseNext c q r ans = .sent o order ∧
        w' = { w with sent := ⟨c.scope, order⟩ :: w.sent, broker := w.broker.send order }) ∨
      ∃ o order a, q = .sent o order ∧ phaseNext c q r ans = .answered o order (outcomeOf a) ∧
        w.broker.Answers order a w'.broker ∧ w'.sent = w.sent := by
  have same := outcome_same ha hx
  cases ha with
  | submit o order ho =>
    cases hx with
    | invoked _ hb =>
      cases hb
      exact .inr (.inl ⟨o, order, rfl, ho, rfl, rfl⟩)
    | raised _ e hr => cases hr
  | await o order =>
    cases hx with
    | answered _ a hb =>
      refine .inr (.inr ⟨o, order, ans, rfl, ?_, hb, rfl⟩)
      cases ans <;> rfl
    | raised _ e hr => cases hr
  | _ => cases hx <;> exact .inl ⟨rfl, rfl, same (by simp)⟩

theorem confirmed_visible (ha : Allowed c q r) (hx : Exec (deskVenue account M) w c r ans w') :
    w'.confirmed = w.confirmed ∨ (w'.confirmed = some c.key :: w.confirmed ∧ w'.broker = w.broker ∧
      ∃ p ∈ w.broker.positions, ∃ order, p.order = some order ∧ order.idempotencyKey = some c.key) := by
  cases ha with
  | reconcile o h record hr hu =>
    cases hx with
    | reconciled _ evidence hv =>
      by_cases hm : evidence.state = .confirmedMatch
      · exact .inr ⟨if_pos hm, rfl, hv hm⟩
      · exact .inl (if_neg hm)
    | raised _ e he => exact .inl rfl
  | _ => cases hx <;> exact .inl rfl

theorem view_next {o : String} {h' : Held} (ha : Allowed c q r) (hx : Exec (deskVenue account M) w c r ans w')
    (hq' : phaseNext c q r ans = .held o h') :
    (∀ x, h'.context = some x → (∃ h, q = .held o h ∧ h.context = some x) ∨ c.context = some x ∨
        x.maxOpenPositions = some M) ∧
    ∀ items, h'.view = some items → (∃ h, q = .held o h ∧ h.view = some items) ∨
      (items = (w.broker.positions.map (·.position)).map .position ∧ w'.broker = w.broker) := by
  rcases held_next ha hq' with ⟨_, rfl⟩ | ⟨h, hq, hcontext, hview, _, _⟩
  · exact ⟨fun x hx => .inr (.inl hx), fun items hi => by cases hi⟩
  · refine ⟨fun x hx' => ?_, fun items hi => ?_⟩
    · by_cases hr : r = .contextProvider
      · subst hr hq
        cases hx with
        | provided context hv =>
          cases hq'
          exact .inr (.inr (hv x hx'))
        | raised _ e he =>
          cases hq'
          cases hx'
      · exact .inl ⟨h, hq, hcontext hr ▸ hx'⟩
    · by_cases hr : r = .getPositions
      · subst hr hq
        cases hx with
        | positions items hv =>
          cases hq'
          cases hi
          exact .inr ⟨hv, rfl⟩
        | raised _ e he =>
          cases hq'
          cases hi
      · exact .inl ⟨h, hq, hview hr ▸ hi⟩

/-- **The invariant of the book and the records**: an order in flight was sent, has an unresolved row, and its key is
neither confirmed nor settled. -/
structure BookInv (account : String) (g : ExecGhost Desk) : Prop where
  logged : ∀ x ∈ g.world.broker.inflight, ∃ s ∈ g.world.sent, s.order = x
  keyed : ∀ x ∈ g.world.broker.orders, ∃ k, x.idempotencyKey = some k ∧ (g.world.store.row k).isSome = true
  apart : ∀ x ∈ g.world.broker.inflight, ∀ p ∈ g.world.broker.positions, ∀ y, p.order = some y →
    x.idempotencyKey ≠ y.idempotencyKey
  unresolved : ∀ x ∈ g.world.broker.inflight, ∀ k, x.idempotencyKey = some k →
    ∃ row, g.world.store.row k = some row ∧ row.state.unresolved = true ∧ row.accountId = some account
  unconfirmed : ∀ x ∈ g.world.broker.inflight, x.idempotencyKey ∉ g.world.confirmed
  unsettled : ∀ n c q order out record, g.runs n = some (c, q) → q.outcome? = some (order, out) →
    settlement c out = some record → record.status.unresolved = false →
    ∀ x ∈ g.world.broker.inflight, x.idempotencyKey ≠ some c.key
  unsent : ∀ n c o, g.runs n = some (c, .claimed o) →
    (∀ x ∈ g.world.broker.orders, x.idempotencyKey ≠ some c.key) ∧ some c.key ∉ g.world.confirmed

variable {g : ExecGhost Desk} {x : OrderRequest}

omit [CaseMap] in
theorem BookInv.own {n : Nat} {order : OrderRequest} (h : BookInv account g) (ho : OnceInv g)
    (hn : g.runs n = some (c, q)) (hq : q.sentOrder? = some order) (hx : x ∈ g.world.broker.inflight)
    (hkey : x.idempotencyKey = some c.key) : x = order := by
  obtain ⟨s, hs, rfl⟩ := h.logged x hx
  obtain ⟨m, d, q', hm, hsent, _, hdkey⟩ := ho.sent_by s hs
  have hkeys : d.key = c.key := by
    rw [hkey, Option.some.injEq] at hdkey
    exact hdkey.symm
  have hmn := ho.claimed_inj m n d c q' q hm hn (Phase.hasClaimed_of_sent hsent) (Phase.hasClaimed_of_sent hq) hkeys
  subst hmn
  rw [hn] at hm
  cases hm
  rw [hq] at hsent
  exact (Option.some.inj hsent).symm

omit [CaseMap] in
theorem BookInv.same_key {y : OrderRequest} (h : BookInv account g) (ho : OnceInv g) (hx : x ∈ g.world.broker.inflight)
    (hy : y ∈ g.world.broker.inflight) (hkey : x.idempotencyKey = y.idempotencyKey) : x = y := by
  obtain ⟨s, hs, rfl⟩ := h.logged x hx
  obtain ⟨s', hs', rfl⟩ := h.logged y hy
  exact congrArg SentOrder.order (inj_on_of_nodup_map ho.nodup hs hs' hkey)

theorem BookInv.start (w : ExecWorld Desk) (h : (execSystem (deskVenue account M)).init w) :
    BookInv account (.start w) := by
  obtain ⟨hempty, _, _, hkeyed⟩ := h.1
  have none_inflight : ∀ x, x ∉ w.broker.inflight := by
    rw [hempty]
    simp
  exact ⟨fun x hx => absurd hx (none_inflight x), hkeyed, fun x hx => absurd hx (none_inflight x),
    fun x hx => absurd hx (none_inflight x), fun x hx => absurd hx (none_inflight x),
    fun n c q order out record hn => (by cases hn), fun n c o hn => by cases hn⟩

omit [CaseMap] in
theorem BookInv.spawn (h : BookInv account g) (n : Nat) (i : SubmitCall) : BookInv account (g.setRun n i .idle) :=
  ⟨h.logged, h.keyed, h.apart, h.unresolved, h.unconfirmed,
    fun m c q order out record hm ho =>
      h.unsettled m c q order out record (started_before hm (by rintro rfl; cases ho)) ho,
    fun m c o hm => h.unsent m c o (started_before hm (by simp))⟩

theorem inflight_before (ha : Allowed c q r) (hx : Exec (deskVenue account M) w c r ans w')
    (hmem : x ∈ w'.broker.inflight) :
    x ∈ w.broker.inflight ∨ ∃ o, q = .claimed o ∧ c.order? = some x ∧
      w' = { w with sent := ⟨c.scope, x⟩ :: w.sent, broker := w.broker.send x } := by
  rcases deskEffect ha hx with ⟨hd, _, _⟩ | ⟨o, order, rfl, horder, _, hw⟩ | ⟨o, order, a, rfl, _, hans, _⟩
  · exact .inl (hd ▸ hmem)
  · have hcons : x ∈ order :: w.broker.inflight := by rwa [hw] at hmem
    rcases mem_cons.1 hcons with rfl | hold
    · exact .inr ⟨o, rfl, horder, hw⟩
    · exact .inl hold
  · exact .inl (hans.effect.2.1.subset hmem)

theorem positions_call (ha : Allowed c q r) (hx : Exec (deskVenue account M) w c r ans w') :
    w'.broker.positions = w.broker.positions := by
  rcases deskEffect ha hx with ⟨hd, _, _⟩ | ⟨_, _, _, _, _, hw⟩ | ⟨_, _, _, _, _, hans, _⟩
  · rw [hd]
  · rw [hw]
    rfl
  · exact hans.effect.1

theorem orders_before (ha : Allowed c q r) (hx : Exec (deskVenue account M) w c r ans w') (hmem : x ∈ w'.broker.orders) :
    x ∈ w.broker.orders ∨ ∃ o, q = .claimed o ∧ c.order? = some x := by
  rcases Desk.mem_orders.1 hmem with hin | hpos
  · rcases inflight_before ha hx hin with hold | ⟨o, hq, horder, _⟩
    · exact .inl (Desk.mem_orders.2 (.inl hold))
    · exact .inr ⟨o, hq, horder⟩
  · rw [positions_call ha hx] at hpos
    exact .inl (Desk.mem_orders.2 (.inr hpos))

theorem BookInv.row_kept {n : Nat} {k : String} (h : BookInv account g) (hr : RowsInv (deskVenue account M) g)
    (hn : g.runs n = some (c, q)) (ha : Allowed c q r) (hx : Exec (deskVenue account M) g.world c r ans w')
    (hold : x ∈ g.world.broker.inflight) (hk : x.idempotencyKey = some k) :
    ∃ row, w'.store.row k = some row ∧ row.state.unresolved = true ∧ row.accountId = some account := by
  obtain ⟨row, hrow, hu, hacc⟩ := h.unresolved x hold k hk
  by_cases hkey : k = c.key
  · subst hkey
    cases rowEffect ha hx with
    | same hsame _ => exact ⟨row, hsame.trans hrow, hu, hacc⟩
    | claimed o hd row' hq hb _ _ _ _ _ _ _ => rw [hrow] at hb; cases hb
    | moved row' record now hb hallowed hafter hw =>
      rw [hrow] at hb
      cases hb
      refine ⟨_, hafter, ?_, hacc⟩
      generalize phaseNext c q r ans = q₁ at hw
      cases hw with
      | confirm hconf hs =>
        have hmem := hr.confirmed_held n c _ _ hn hconf
        rw [← hk] at hmem
        exact absurd hmem (h.unconfirmed x hold)
      | doubt hs hid htx =>
        dsimp only
        rw [hs]
        rfl
      | settle hrec hp =>
        by_contra hterminal
        exact h.unsettled n c _ _ _ record hn rfl hrec (by simpa using hterminal) x hold hk
  · exact ⟨row, (Exec.row_of_ne ha hx hkey).trans hrow, hu, hacc⟩

theorem BookInv.call {n : Nat} (h : BookInv account g) (ho : OnceInv g) (hr : RowsInv (deskVenue account M) g)
    (hscope : c.scope = account) (hn : g.runs n = some (c, q)) (ha : Allowed c q r)
    (hx : Exec (deskVenue account M) g.world c r ans w') :
    BookInv account ((g.setRun n c (phaseNext c q r ans)).setWorld w') := by
  -- a new order in flight carries the key of the run, which had claimed
  have key_of : ∀ {x : OrderRequest}, c.order? = some x → x.idempotencyKey = some c.key :=
    fun horder => (SubmitCall.order?_eq_some horder).2
  have pos : w'.broker.positions = g.world.broker.positions := positions_call ha hx
  refine ⟨fun x hmem => ?_, fun x hmem => ?_, fun x hmem p hp y hy => ?_, fun x hmem k hk => ?_, fun x hmem => ?_,
    fun m d q' order out record hm hout hrec ht x hmem => ?_, fun m d o hm => ?_⟩
  · rcases inflight_before ha hx hmem with hold | ⟨o, _, _, hw⟩
    · obtain ⟨s, hs, hsx⟩ := h.logged x hold
      rcases sentEffect ha hx with hsent | ⟨_, _, _, _, hsent, _⟩
      · exact ⟨s, by rwa [Ghost.setWorld_world, hsent], hsx⟩
      · exact ⟨s, by rw [Ghost.setWorld_world, hsent]; exact mem_cons_of_mem _ hs, hsx⟩
    · exact ⟨⟨c.scope, x⟩, by rw [Ghost.setWorld_world, hw]; exact mem_cons_self, rfl⟩
  · rcases orders_before ha hx hmem with hold | ⟨o, rfl, horder⟩
    · obtain ⟨k, hk, hrow⟩ := h.keyed x hold
      exact ⟨k, hk, hx.row_isSome k hrow⟩
    · exact ⟨c.key, key_of horder, hx.row_isSome _ (ho.claimed_row n c _ hn rfl)⟩
  · rw [Ghost.setWorld_world, pos] at hp
    rcases inflight_before ha hx hmem with hold | ⟨o, rfl, horder, _⟩
    · exact h.apart x hold p hp y hy
    · rw [key_of horder]
      exact ((h.unsent n c o hn).1 y (Desk.mem_orders.2 (.inr ⟨p, hp, hy⟩))).symm
  · rcases inflight_before ha hx hmem with hold | ⟨o, rfl, horder, hw⟩
    · exact h.row_kept hr hn ha hx hold hk
    · rw [key_of horder, Option.some.injEq] at hk
      subst hk
      obtain ⟨row, hrow, hacc, hmatch⟩ := hr.row n c _ hn rfl (h.unsent n c o hn).2
      exact ⟨row, by rw [Ghost.setWorld_world, hw]; exact hrow, hmatch, by rw [hacc, hscope]⟩
  · rcases inflight_before ha hx hmem with hold | ⟨o, rfl, horder, hw⟩
    · rw [Ghost.setWorld_world]
      rcases confirmed_visible ha hx with hc | ⟨hc, _, p, hp, y, hy, hykey⟩
      · rw [hc]
        exact h.unconfirmed x hold
      · rw [hc, mem_cons, not_or]
        exact ⟨hykey ▸ h.apart x hold p hp y hy, h.unconfirmed x hold⟩
    · rw [key_of horder, Ghost.setWorld_world, hw]
      exact (h.unsent n c o hn).2
  · have claimed_of : ∀ {q' : Phase}, q'.outcome? = some (order, out) → q'.sentOrder? = some order := by
      intro q' hq'
      cases q' <;> cases hq' <;> rfl
    rcases Ghost.setRun_cases hm with ⟨rfl, rfl, rfl⟩ | ⟨hne, hold'⟩
    · rcases deskEffect ha hx with ⟨hd, _, hsame⟩ | ⟨o, order', _, _, hnext, _⟩ | ⟨o, order', a, rfl, hnext, hans, _⟩
      · rw [Ghost.setWorld_world, hd] at hmem
        exact h.unsettled _ _ _ order out record hn (hsame ▸ hout) hrec ht x hmem
      · rw [hnext] at hout
        cases hout
      · rw [hnext] at hout
        cases hout
        intro hkey
        have hin := hans.effect.2.1.subset hmem
        have heq := h.own ho hn rfl hin hkey
        subst heq
        exact hans.effect.2.2 (definitive_of_terminal hrec ht) hmem
    · rcases inflight_before ha hx hmem with hold | ⟨o, rfl, horder, _⟩
      · exact h.unsettled m d q' order out record hold' hout hrec ht x hold
      · rw [key_of horder]
        intro hkey
        exact hne (ho.claimed_inj m n d c _ _ hold' hn (Phase.hasClaimed_of_sent (claimed_of hout)) rfl
          (Option.some.inj hkey).symm)
  · rw [Ghost.setWorld_world]
    rcases Ghost.setRun_cases hm with ⟨rfl, rfl, hq'⟩ | ⟨hne, hold⟩
    · rcases claimed_next ha hq'.symm with rfl | hno
      · -- the run had claimed before, so the request is none of its own
        have hconf : w'.confirmed = g.world.confirmed := by
          rcases confirmedEffect ha hx with hc | ⟨_, _, hq, _⟩
          · exact hc
          · cases hq
        rcases deskEffect ha hx with ⟨hd, _⟩ | ⟨_, _, _, _, hnext, _⟩ | ⟨_, _, _, hq, _⟩
        · rw [hd, hconf]
          exact h.unsent _ _ o hn
        · rw [hnext] at hq'
          cases hq'
        · cases hq
      · -- the run has just found no row, and every order and every confirmation has one
        have hnone := (claim_inserts ha hx hno (by rw [← hq']; rfl)).1
        refine ⟨fun x hmem hkey => ?_, fun hmem => ?_⟩
        · rcases orders_before ha hx hmem with hold | ⟨_, rfl, _⟩
          · obtain ⟨k, hk, hrow⟩ := h.keyed x hold
            rw [hkey, Option.some.injEq] at hk
            rw [← hk, hnone] at hrow
            cases hrow
          · cases hno
        · rcases confirmedEffect ha hx with hc | ⟨_, hd, rfl, hseen, _⟩
          · have hrow := hr.confirmed_row _ (hc ▸ hmem)
            rw [hnone] at hrow
            cases hrow
          · have hrow := hr.seen_row _ _ _ hd hn hseen
            rw [hnone] at hrow
            cases hrow
    · obtain ⟨horders, hconf⟩ := h.unsent m d o hold
      refine ⟨fun x hmem hkey => ?_, fun hmem => ?_⟩
      · rcases orders_before ha hx hmem with hbefore | ⟨_, rfl, horder⟩
        · exact horders x hbefore hkey
        · rw [key_of horder, Option.some.injEq] at hkey
          exact hne (ho.claimed_inj m n d c _ _ hold hn rfl rfl hkey.symm)
      · rcases confirmed_visible ha hx with hc | ⟨hc, _, p, hp, y, hy, hykey⟩
        · exact hconf (hc ▸ hmem)
        · rw [hc] at hmem
          rcases mem_cons.1 hmem with heq | hmem
          · exact horders y (Desk.mem_orders.2 (.inr ⟨p, hp, hy⟩)) (hykey.trans heq.symm)
          · exact hconf hmem

theorem BookInv.tick {b : Desk} (h : BookInv account g) (ho : OnceInv g) (ht : g.world.broker.Tick b) :
    BookInv account (g.setWorld { g.world with broker := b }) := by
  have hsub : ∀ x ∈ b.inflight, x ∈ g.world.broker.inflight := by
    cases ht with
    | opens order p ho hs => exact fun x hx => mem_of_mem_filter hx
    | vanishes positions hp => exact fun x hx => hx
  refine ⟨fun x hx => h.logged x (hsub x hx), fun x hx => h.keyed x (Desk.orders_of_tick ht hx),
    fun x hx p hp y hy hkey => ?_, fun x hx => h.unresolved x (hsub x hx), fun x hx => h.unconfirmed x (hsub x hx),
    fun n c q order out record hn hout hrec hst x hx =>
      h.unsettled n c q order out record hn hout hrec hst x (hsub x hx),
    fun n c o hn => ⟨fun x hx => (h.unsent n c o hn).1 x (Desk.orders_of_tick ht hx), (h.unsent n c o hn).2⟩⟩
  have hxin := hsub x hx
  cases ht with
  | opens order p' hord hs =>
    rcases mem_cons.1 hp with rfl | hp
    · -- the order that opens is no longer in flight, and no other has its key
      cases hy
      have heq := h.same_key ho hxin hord hkey
      simp [Desk.openPosition, heq] at hx
    · exact h.apart x hxin p hp y hy hkey
  | vanishes positions hpos =>
    obtain ⟨p', hp', heq⟩ := mem_map.1 (hpos.subset (mem_map_of_mem (f := Desk.mark) hp))
    exact h.apart x hxin p' hp' y ((congrArg Prod.snd heq).trans hy) hkey

theorem BookInv.reached (hg : ExecReached (deskVenue account M) g) : BookInv account g := by
  refine Reached.invariant BookInv.start (fun g g' hr h hm => ?_) hg
  cases hm with
  | spawn n i hn hi => exact h.spawn n i
  | call r ans hn ha hx => exact h.call (OnceInv.reached hr) (RowsInv.reached hr) (hr.admits _ _ _ hn).1 hn ha hx
  | tick hw =>
    obtain ⟨b, ht, rfl⟩ := hw
    exact h.tick (OnceInv.reached hr) ht

end

end Jqe
