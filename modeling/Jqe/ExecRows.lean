import Jqe.ExecOnce
/-!
# ExecRows — the durable row of a key a run has claimed

From the claim on, the row of a run's key is unresolved until the run settles it, unless a reconciler confirmed the
key.  A reconciler asks only about a row that is there, so one that confirms a claimed key is another run's.
-/
namespace Jqe

open Coro

/-- **What the row of a run's key is, by the run's phase.** -/
def RowMatches (late : Prop) (c : SubmitCall) : Phase → IntentRow → Prop
  | .settled _ _ out (some true), row =>
    ∃ record, settlement c out = some record ∧ row.state = record.status ∧ row.orderId = record.orderId
  | .settled _ _ out (some false), row =>
    row.state.unresolved = true ∨ late ∧ ∃ record, settlement c out = some record ∧ row.state = record.status
  | .settled _ _ out none, row =>
    row.state.unresolved = true ∨ ∃ record, settlement c out = some record ∧ row.state = record.status
  | _, row => row.state.unresolved = true

def Phase.outcome? : Phase → Option (OrderRequest × Except PyExc OrderResult)
  | answered _ order out | settled _ order out _ => some (order, out)
  | _ => none

section

variable [CaseMap] {B : Type} {V : Venue B} {w w' : ExecWorld B} {c : SubmitCall} {q : Phase} {r : ExecReq}
  {ans : Except PyExc r.Ans}

omit [CaseMap] in
theorem settlement_unknown {out : Except PyExc OrderResult} {record : IntentRecord}
    (h : settlement c out = some record) (hu : record.status.unresolved = true) :
    record.status = .unknown ∧ record.orderId = none ∧ record.transactionId = none := by
  unfold settlement at h
  split at h
  · cases h; cases hu
  · cases h; exact ⟨rfl, rfl, rfl⟩
  · cases h
  · split at h <;> cases h <;> cases hu

theorem confirmedEffect (ha : Allowed c q r) (hx : Exec V w c r ans w') :
    w'.confirmed = w.confirmed ∨ ∃ o h, q = .held o h ∧ h.seen.isSome = true ∧
      w'.confirmed = some c.key :: w.confirmed := by
  cases ha with
  | reconcile o h record hr hu =>
    cases hx with
    | reconciled _ evidence hv =>
      by_cases hm : evidence.state = .confirmedMatch
      · exact .inr ⟨o, h, rfl, by rw [hr]; rfl, if_pos hm⟩
      · exact .inl (if_neg hm)
    | raised _ e he => exact .inl rfl
  | _ => cases hx <;> exact .inl rfl

theorem held_recalls {o : String} {h' : Held} (ha : Allowed c q r) (hx : Exec V w c r ans w')
    (hq' : phaseNext c q r ans = .held o h') :
    (∃ o₀, q = .drawn o₀ ∧ h'.seen = none ∧ h'.confirmed = false) ∨
      ∃ h, q = .held o h ∧
        (h'.seen = h.seen ∨
          ∀ record, h'.seen = some record → ∃ row, w.store.row c.key = some row ∧ Store.decode c.key row = .ok record) ∧
        (h'.confirmed = true → h.confirmed = true ∨ some c.key ∈ w'.confirmed) := by
  rcases held_next ha hq' with ⟨hq, rfl⟩ | ⟨h, rfl, _, _, hseen, hconf⟩
  · exact .inl ⟨o, hq, rfl, rfl⟩
  · refine .inr ⟨h, rfl, ?_, fun hc => ?_⟩
    · by_cases hr : ∃ k, r = .store (.get k)
      · obtain ⟨k, rfl⟩ := hr
        cases ha
        cases ans with
        | error e =>
          cases hq'
          exact .inl rfl
        | ok record =>
          cases hq'
          refine .inr fun found hfound => ?_
          rcases hx.store_exec.cases_ok with ⟨_, e, he⟩ | ⟨now, a, happ, hans | ⟨e, he, _⟩⟩
          · cases he
          · cases hans
            rcases (Store.get_ok happ).2 with ⟨rfl, _⟩ | ⟨row, _, rfl, hrow, hdecode⟩
            · cases hfound
            · cases hfound
              exact ⟨row, hrow, hdecode⟩
          · cases he
      · exact .inl (hseen fun k hk => hr ⟨k, hk⟩)
    · by_cases hr : ∃ x, r = .reconcile x
      · obtain ⟨x, rfl⟩ := hr
        cases hx with
        | reconciled _ evidence hv =>
          cases hq'
          have hm : evidence.state = .confirmedMatch := by simpa using hc
          cases ha
          exact .inr (by simp [hm])
        | raised _ e he =>
          cases hq'
          exact .inl hc
      · exact .inl (hconf (fun x hx => hr ⟨x, hx⟩) ▸ hc)

theorem outcome_same (ha : Allowed c q r) (hx : Exec V w c r ans w') (hr : ∀ order, r ≠ .submitOrderResult order) :
    (phaseNext c q r ans).outcome? = q.outcome? := by
  cases ha with
  | submit o order' hord =>
    cases hx with
    | invoked _ hb => rfl
    | raised _ e he => cases he
  | await o order' => exact absurd rfl (hr order')
  | settle o order' out' record hr => cases ans <;> rfl
  | after q result => rw [AsyncTradeExecutor.phaseNext_after]
  | release q o hown => rw [AsyncTradeExecutor.phaseNext_release]
  | acquire o => rcases ans with _ | _ | _ | _ <;> rfl
  | claim o h record broker hs hp hr => rcases ans with _ | _ | _ | _ <;> rfl
  | _ => cases ans <;> rfl

theorem outcome_next {order : OrderRequest} {out : Except PyExc OrderResult} (ha : Allowed c q r)
    (hx : Exec V w c r ans w') (ho : (phaseNext c q r ans).outcome? = some (order, out)) :
    q.outcome? = some (order, out) ∨ ∃ a, (order, a) ∈ w'.answers ∧ outcomeOf a = out := by
  by_cases hr : ∃ order, r = .submitOrderResult order
  · obtain ⟨order', rfl⟩ := hr
    cases ha with
    | await o _ =>
      cases hx with
      | answered _ a hb => cases ans <;> cases ho <;> exact .inr ⟨_, List.mem_cons_self, rfl⟩
      | raised _ e he => cases he
  · exact .inl ((outcome_same ha hx fun order h => hr ⟨order, h⟩) ▸ ho)

omit [CaseMap] in
theorem answers_kept (hx : Exec V w c r ans w') {x : OrderRequest × Except PyExc GatewayAnswer} (h : x ∈ w.answers) :
    x ∈ w'.answers := by
  cases hx with
  | answered order a hb => exact List.mem_cons_of_mem _ h
  | _ => exact h

omit [CaseMap] in
theorem RowMatches.doubt {late : Prop} {row row' : IntentRow} (hq : q.hasClaimed = true) (h : RowMatches late c q row)
    (hallowed : row.state.allowedFrom .unknown = true) (hst : row'.state = .unknown) (hid : row'.orderId = none) :
    RowMatches late c q row' := by
  have hu : row'.state.unresolved = true := by rw [hst]; rfl
  cases q with
  | settled o order out p =>
    rcases p with _ | _ | _
    · exact .inl hu
    · exact .inl hu
    · obtain ⟨record, hr, hs, _⟩ := h
      -- the settled status can only be `UNKNOWN`, which carries no order id
      have hunres : record.status.unresolved = true := by
        rcases (IntentRecordStatus.allowedFrom_iff _ _).1 hallowed with ⟨hu', _⟩ | ⟨_, he⟩
        · rwa [← hs]
        · rw [← hs, ← he]
          rfl
      obtain ⟨hst', hid', _⟩ := settlement_unknown hr hunres
      exact ⟨record, hr, hst.trans hst'.symm, hid.trans hid'.symm⟩
  | claimed o => exact hu
  | sent o order => exact hu
  | answered o order out => exact hu
  | _ => cases hq

theorem RowMatches.unwritten {late : Prop} {row : IntentRow} (ha : Allowed c q r) (hq : q.hasClaimed = true)
    (h : RowMatches late c q row) (hu : Unwritten q (phaseNext c q r ans)) :
    RowMatches late c (phaseNext c q r ans) row := by
  cases ha with
  | submit o order ho => cases ans <;> exact h
  | await o order => cases ans <;> exact h
  | settle o order out record hr =>
    rcases ans with e | _ | _
    · dsimp only [phaseNext]
      split <;> exact .inl h
    · exact .inl h
    · exact absurd rfl (hu o order out rfl)
  | after q result => rwa [AsyncTradeExecutor.phaseNext_after]
  | release q o ho => rwa [AsyncTradeExecutor.phaseNext_release]
  | _ => cases hq

structure RowsInv (V : Venue B) (g : ExecGhost B) : Prop where
  confirmed_row : ∀ k, some k ∈ g.world.confirmed → (g.world.store.row k).isSome = true
  seen_row : ∀ n c o h, g.runs n = some (c, .held o h) → h.seen.isSome = true →
    (g.world.store.row c.key).isSome = true
  confirmed_held : ∀ n c o h, g.runs n = some (c, .held o h) → h.confirmed = true → some c.key ∈ g.world.confirmed
  confirmed_other : ∀ n c q, g.runs n = some (c, q) → q.hasClaimed = true → some c.key ∈ g.world.confirmed →
    ∃ m d q', m ≠ n ∧ g.runs m = some (d, q') ∧ d.key = c.key
  logged : ∀ n c q order out, g.runs n = some (c, q) → q.outcome? = some (order, out) →
    ∃ a, (order, a) ∈ g.world.answers ∧ outcomeOf a = out
  row : ∀ n c q, g.runs n = some (c, q) → q.hasClaimed = true → some c.key ∉ g.world.confirmed →
    ∃ row, g.world.store.row c.key = some row ∧ row.accountId = some c.scope ∧ RowMatches V.late c q row

omit [CaseMap] in
theorem RowsInv.start (w : ExecWorld B) (h : (execSystem V).init w) : RowsInv V (.start w) where
  confirmed_row k hk := by
    rw [Ghost.start_world, h.2.2.2.1] at hk
    cases hk
  seen_row n c o h hn := by cases hn
  confirmed_held n c o h hn := by cases hn
  confirmed_other n c q hn := by cases hn
  logged n c q order out hn := by cases hn
  row n c q hn := by cases hn

variable {g : ExecGhost B}

omit [CaseMap] in
theorem RowsInv.spawn (h : RowsInv V g) (n : Nat) (i : SubmitCall) (hn : g.runs n = none) :
    RowsInv V (g.setRun n i .idle) := by
  have ne_idle : ∀ {q : Phase}, q.hasClaimed = true → q ≠ .idle := by
    rintro q hq rfl
    cases hq
  refine ⟨h.confirmed_row, fun m c o hd hm => h.seen_row m c o hd (started_before hm (by simp)),
    fun m c o hd hm => h.confirmed_held m c o hd (started_before hm (by simp)), fun m c q hm hq hc => ?_,
    fun m c q order out hm ho => h.logged m c q order out (started_before hm (by rintro rfl; cases ho)) ho,
    fun m c q hm hq => h.row m c q (started_before hm (ne_idle hq)) hq⟩
  obtain ⟨m', d, q', hne, hm', hkey⟩ := h.confirmed_other m c q (started_before hm (ne_idle hq)) hq hc
  have hn' : m' ≠ n := by
    rintro rfl
    rw [hn] at hm'
    cases hm'
  exact ⟨m', d, q', hne, by rw [Ghost.setRun_of_ne _ _ _ hn', hm'], hkey⟩

theorem RowsInv.row_other {m n : Nat} {d : SubmitCall} {q' : Phase} (ho : OnceInv g) (h : RowsInv V g)
    (hn : g.runs n = some (c, q)) (ha : Allowed c q r) (hx : Exec V g.world c r ans w') (hm : g.runs m = some (d, q'))
    (hmn : m ≠ n) (hq' : q'.hasClaimed = true) (hc : some d.key ∉ g.world.confirmed) :
    ∃ row, w'.store.row d.key = some row ∧ row.accountId = some d.scope ∧ RowMatches V.late d q' row := by
  obtain ⟨row, hrow, hacc, hmatch⟩ := h.row m d q' hm hq' hc
  by_cases hkey : d.key = c.key
  · have heff := rowEffect ha hx
    rw [← hkey] at heff
    cases heff with
    | same hsame _ => exact ⟨row, hsame.trans hrow, hacc, hmatch⟩
    | claimed o hd row' hq hb _ _ _ _ _ _ _ => rw [hrow] at hb; cases hb
    | moved row' record now hb hallowed hafter hw =>
      rw [hrow] at hb
      cases hb
      generalize phaseNext c q r ans = q₁ at hw
      cases hw with
      | confirm hconf hs =>
        -- a confirmation is logged
        exact absurd (hkey ▸ h.confirmed_held n c _ _ hn hconf) hc
      | doubt hs hid htx =>
        rw [hs] at hallowed
        exact ⟨_, hafter, hacc, hmatch.doubt hq' hallowed hs hid⟩
      | settle hr hp => exact absurd (ho.claimed_inj m n d c _ _ hm hn hq' rfl hkey) hmn
  · exact ⟨row, (Exec.row_of_ne ha hx hkey).trans hrow, hacc, hmatch⟩

theorem RowsInv.row_self {n : Nat} (h : RowsInv V g) (hn : g.runs n = some (c, q)) (ha : Allowed c q r)
    (hx : Exec V g.world c r ans w') (hq' : (phaseNext c q r ans).hasClaimed = true)
    (hc : some c.key ∉ g.world.confirmed) :
    ∃ row, w'.store.row c.key = some row ∧ row.accountId = some c.scope ∧
      RowMatches V.late c (phaseNext c q r ans) row := by
  by_cases hq : q.hasClaimed = true
  · obtain ⟨row, hrow, hacc, hmatch⟩ := h.row n c q hn hq hc
    cases rowEffect ha hx with
    | same hsame hu => exact ⟨row, hsame.trans hrow, hacc, hmatch.unwritten ha hq hu⟩
    | claimed o hd row' hq₀ _ _ _ _ _ _ _ _ => rw [hq₀] at hq; cases hq
    | moved row' record now hb hallowed hafter hw =>
      rw [hrow] at hb
      cases hb
      refine ⟨_, hafter, hacc, ?_⟩
      generalize phaseNext c q r ans = q₁ at hw
      cases hw with
      | confirm hconf hs => cases hq
      | doubt hs hid htx => cases hq
      | @settle o order out p record hr hp =>
        rcases p with _ | _ | _
        · exact .inr ⟨record, hr, rfl⟩
        · exact .inr ⟨hp rfl, record, hr, rfl⟩
        · exact ⟨record, hr, rfl, rfl⟩
  · obtain ⟨hnone, hsome⟩ := claim_inserts ha hx (by simpa using hq) hq'
    cases rowEffect ha hx with
    | same hsame _ =>
      rw [hsame, hnone] at hsome
      cases hsome
    | claimed o hd row hq₀ hb hafter hst hacc hids hp _ hnext =>
      refine ⟨row, hafter, hacc, ?_⟩
      rcases hnext with hnext | ⟨h', hnext⟩
      · rw [hnext]
        show row.state.unresolved = true
        rw [hst]
        rfl
      · rw [hnext] at hq'
        cases hq'
    | moved row' record now hb _ _ _ => rw [hnone] at hb; cases hb

theorem RowsInv.call {n : Nat} (ho : OnceInv g) (h : RowsInv V g) (hn : g.runs n = some (c, q)) (ha : Allowed c q r)
    (hx : Exec V g.world c r ans w') : RowsInv V ((g.setRun n c (phaseNext c q r ans)).setWorld w') := by
  have run_stays : g.runs n = some (c, q) → ∀ m' d' q₁ {m : Nat} {d : SubmitCall}, m' ≠ m →
      g.runs m' = some (d', q₁) → d'.key = d.key → ∃ m' d' q', m' ≠ m ∧
        ((g.setRun n c (phaseNext c q r ans)).setWorld w').runs m' = some (d', q') ∧ d'.key = d.key := by
    intro hn m' d' q₁ m d hne hm' hkey
    by_cases hmn : m' = n
    · subst hmn
      rw [hn] at hm'
      cases hm'
      exact ⟨m', c, _, hne, Ghost.setRun_self _ _ _ _, hkey⟩
    · exact ⟨m', d', q₁, hne, by rw [Ghost.setWorld_runs, Ghost.setRun_of_ne _ _ _ hmn, hm'], hkey⟩
  have conf_kept : ∀ k, k ∈ g.world.confirmed → k ∈ w'.confirmed := by
    intro k hk
    rcases confirmedEffect ha hx with he | ⟨_, _, _, _, he⟩
    · rwa [he]
    · rw [he]
      exact List.mem_cons_of_mem _ hk
  refine ⟨fun k hk => ?_, fun m d o hd hm hs => ?_, fun m d o hd hm hc => ?_, fun m d q' hm hq' hc => ?_,
    fun m d q' order out hm hout => ?_, fun m d q' hm hq' hc => ?_⟩
  · rcases confirmedEffect ha hx with he | ⟨o, hd, rfl, hs, he⟩
    · exact hx.row_isSome k (h.confirmed_row k (he ▸ hk))
    · rw [Ghost.setWorld_world, he] at hk
      rcases List.mem_cons.1 hk with hk | hk
      · cases hk
        exact hx.row_isSome _ (h.seen_row n c o hd hn hs)
      · exact hx.row_isSome k (h.confirmed_row k hk)
  · rcases Ghost.setRun_cases hm with ⟨rfl, rfl, hq⟩ | ⟨_, hold⟩
    · rcases held_recalls ha hx hq.symm with ⟨_, _, hnone, _⟩ | ⟨h₀, rfl, hseen | hseen, _⟩
      · rw [hnone] at hs
        cases hs
      · exact hx.row_isSome _ (h.seen_row _ _ _ _ hn (hseen ▸ hs))
      · obtain ⟨record, hrecord⟩ := Option.isSome_iff_exists.1 hs
        obtain ⟨row, hrow, _⟩ := hseen record hrecord
        exact hx.row_isSome _ (by rw [hrow]; rfl)
    · exact hx.row_isSome _ (h.seen_row m d o hd hold hs)
  · rcases Ghost.setRun_cases hm with ⟨rfl, rfl, hq⟩ | ⟨_, hold⟩
    · rcases held_recalls ha hx hq.symm with ⟨_, _, _, hnone⟩ | ⟨h₀, rfl, _, hconf⟩
      · rw [hnone] at hc
        cases hc
      · rcases hconf hc with hconf | hconf
        · exact conf_kept _ (h.confirmed_held _ _ _ _ hn hconf)
        · exact hconf
    · exact conf_kept _ (h.confirmed_held m d o hd hold hc)
  · -- the run `m` had claimed before, since a key it has just inserted was not confirmed
    have hold : ∃ q₀, g.runs m = some (d, q₀) ∧ (some d.key ∈ g.world.confirmed → q₀.hasClaimed = true) := by
      rcases Ghost.setRun_cases hm with ⟨rfl, rfl, rfl⟩ | ⟨_, hold⟩
      · refine ⟨q, hn, fun hmem => ?_⟩
        by_contra hq
        have := h.confirmed_row _ hmem
        rw [(claim_inserts ha hx (by simpa using hq) hq').1] at this
        cases this
      · exact ⟨q', hold, fun _ => hq'⟩
    obtain ⟨q₀, hm₀, hq₀⟩ := hold
    rcases confirmedEffect ha hx with he | ⟨o, hd, rfl, hs, he⟩
    · rw [Ghost.setWorld_world, he] at hc
      obtain ⟨m', d', q₁, hne, hm', hkey⟩ := h.confirmed_other m d q₀ hm₀ (hq₀ hc) hc
      exact run_stays hn m' d' q₁ hne hm' hkey
    · rw [Ghost.setWorld_world, he] at hc
      by_cases hmem : some d.key ∈ g.world.confirmed
      · obtain ⟨m', d', q₁, hne, hm', hkey⟩ := h.confirmed_other m d q₀ hm₀ (hq₀ hmem) hmem
        exact run_stays hn m' d' q₁ hne hm' hkey
      · have hkey : d.key = c.key := by
          rcases List.mem_cons.1 hc with hk | hk
          · exact Option.some.inj hk
          · exact absurd hk hmem
        refine ⟨n, c, _, ?_, Ghost.setRun_self _ _ _ _, hkey.symm⟩
        rintro rfl
        -- the confirming run is under its reservation, and its record is there
        rw [Ghost.setWorld_runs, Ghost.setRun_self] at hm
        cases hm
        have := h.seen_row _ _ _ _ hn hs
        rw [(claim_inserts ha hx rfl hq').1] at this
        cases this
  · rcases Ghost.setRun_cases hm with ⟨rfl, rfl, rfl⟩ | ⟨_, hold⟩
    · rcases outcome_next ha hx hout with hold | hnew
      · obtain ⟨a, ha', hout'⟩ := h.logged _ _ _ _ _ hn hold
        exact ⟨a, answers_kept hx ha', hout'⟩
      · exact hnew
    · obtain ⟨a, ha', hout'⟩ := h.logged m d q' order out hold hout
      exact ⟨a, answers_kept hx ha', hout'⟩
  · have hc' : some d.key ∉ g.world.confirmed := fun hmem => hc (conf_kept _ hmem)
    rcases Ghost.setRun_cases hm with ⟨rfl, rfl, rfl⟩ | ⟨hne, hold⟩
    · exact h.row_self hn ha hx hq' hc'
    · exact h.row_other ho hn ha hx hold hne hq' hc'

theorem RowsInv.reached (hg : ExecReached V g) : RowsInv V g := by
  refine Reached.invariant RowsInv.start (fun g g' hr h hm => ?_) hg
  cases hm with
  | spawn n i hn hi => exact h.spawn n i hn
  | call r ans hn ha hx => exact h.call (OnceInv.reached hr) hn ha hx
  | tick hw =>
    obtain ⟨b, _, rfl⟩ := hw
    exact ⟨h.confirmed_row, h.seen_row, h.confirmed_held, h.confirmed_other, h.logged, h.row⟩

end

end Jqe
