import Jqe.PaperWedged
import Jqe.ExecScript
/-!
# PaperRefused — the paper runtime stands still after a refused order

A run of cycles keeps the count of its refusals in the intent store: as long as the venue has refused no order, every
intent is settled, and from the first refusal on an UNKNOWN intent keeps every new key out.
-/
namespace Jqe

open Coro Prog ContinuousPaperRuntime AsyncTradeExecutor
open Ensures (bind finallyDo)

theorem RefusalsCounted.of_rows {s s' : Store} {refused : List OrderRequest} (h : RefusalsCounted s refused)
    (hrows : ∀ key, s'.row key = s.row key) : RefusalsCounted s' refused := by
  refine ⟨fun hnone k row hrow => ?_, fun hne => ?_⟩
  · rw [hrows] at hrow
    exact h.1 hnone k row hrow
  · obtain ⟨key, row, hrow, hstate⟩ := h.2 hne
    exact ⟨key, row, by rw [hrows]; exact hrow, hstate⟩

theorem RefusalsCounted.resolved {s : Store} {refused : List OrderRequest} {key : String} (h : RefusalsCounted s refused)
    (hother : s.hasOtherUnresolvedIntent key = false) (hfresh : s.row key = none) : s.Resolved ∧ refused = [] := by
  have hresolved : s.Resolved := by
    intro k row hrow
    by_contra hopen
    have hkey : k ≠ key := by
      rintro rfl
      rw [hfresh] at hrow
      cases hrow
    have := (s.hasOtherUnresolvedIntent_iff key).2 ⟨k, row, hrow, hkey, by simpa using hopen⟩
    rw [hother] at this
    cases this
  refine ⟨hresolved, ?_⟩
  by_contra hne
  obtain ⟨k, row, hrow, hstate⟩ := h.2 hne
  have := hresolved k row hrow
  rw [hstate] at this
  cases this

/-- **A store that counts its refusals is unwedged** where there are none. -/
theorem RefusalsCounted.unwedged_iff {s : Store} {refused : List OrderRequest} (h : RefusalsCounted s refused) :
    s.Unwedged ↔ refused = [] := by
  constructor
  · intro hun
    by_contra hne
    obtain ⟨key, row, hrow, hstate⟩ := h.2 hne
    exact (hun.1 key row hrow).2 hstate
  · intro hnone
    have hresolved := h.1 hnone
    refine ⟨fun key row hrow => ?_, fun now lease scope owner key s' _ hacquire => ?_⟩
    · have hsettled := hresolved key row hrow
      constructor
      · intro hstate
        rw [hstate] at hsettled
        cases hsettled
      · intro hstate
        rw [hstate] at hsettled
        cases hsettled
    · have hother : s.hasOtherUnresolvedIntent key = false := by
        by_contra hopen
        obtain ⟨k, row, hrow, -, hstate⟩ := (s.hasOtherUnresolvedIntent_iff key).1 (by simpa using hopen)
        rw [hresolved k row hrow] at hstate
        cases hstate
      unfold Store.acquireReservation at hacquire
      iterate 4
        split at hacquire
        · cases hacquire
      split at hacquire
      · cases hacquire
      · rw [hother] at hacquire
        cases hacquire

section

variable [CaseMap] {g : PaperGateway} {c : SubmitCall}

/-! ## A submission -/

/-- The desks whose intent store counts the refusals. -/
def RefusalsKept (d : PaperDesk) : Prop := RefusalsCounted d.store d.refused

theorem ensures_store {P : PaperDesk → Prop} {op : StoreOp} {Q : Except PyExc op.Ans → PaperDesk → Prop}
    (h : ∀ now d, P d → Q (storeAnswer now op d.store).1 { d with store := (storeAnswer now op d.store).2 }) :
    Ensures (SubmitExec g) P (store op) Q := by
  refine ensures_perform fun d ans d' hP hx => ?_
  obtain ⟨now, rfl, rfl⟩ := SubmitExec.store hx
  exact h now d hP

theorem ensures_acquire (scope owner : String) (lease : Int) (key : String) :
    Ensures (SubmitExec g) RefusalsKept (attempt (store (.acquireReservation scope owner lease key))) fun out d =>
      RefusalsKept d ∧ (out = .ok (some .acquired) → d.store.hasOtherUnresolvedIntent key = false) := by
  refine Ensures.attempt (R := fun out d => RefusalsKept d ∧
    (out = .ok .acquired → d.store.hasOtherUnresolvedIntent key = false)) (ensures_store fun now d hd => ?_)
    (fun a d h => ⟨h.1, fun heq => h.2 (by cases heq; rfl)⟩) fun e d h => ⟨⟨h.1, by simp⟩, h.1, by simp⟩
  unfold storeAnswer
  cases happly : StoreOp.apply now (.acquireReservation scope owner lease key) d.store with
  | error e => exact ⟨hd, by simp⟩
  | ok out =>
    obtain ⟨a, s'⟩ := out
    rcases Store.acquireReservation_ok happly with ⟨hne, rfl⟩ | ⟨rfl, hother, -, r, -, rfl⟩
    · exact ⟨hd, fun heq => absurd (Except.ok.inj heq) hne⟩
    · exact ⟨hd.of_rows fun _ => rfl, fun _ => hother⟩

theorem ensures_release (scope owner : String) :
    Ensures (SubmitExec g) RefusalsKept (store (.releaseReservation scope owner)) fun _ => RefusalsKept := by
  refine ensures_store fun now d hd => ?_
  unfold storeAnswer
  cases happly : StoreOp.apply now (.releaseReservation scope owner) d.store with
  | error e => exact hd
  | ok out =>
    obtain ⟨b, s'⟩ := out
    rcases Store.releaseReservation_ok happly with ⟨-, rfl⟩ | ⟨-, rfl, -⟩
    · exact hd
    · exact hd.of_rows fun _ => rfl

def ClaimLeft (key : String) (out : Except PyExc (Option ClaimState)) (d : PaperDesk) : Prop :=
  d.refused = [] ∧ (out = .ok (some .claimed) → PendingFor key d.store) ∧
    (out ≠ .ok (some .claimed) → d.store.Resolved)

theorem ensures_claim (context : Option ExecutionContext) (scope owner : String) :
    Ensures (SubmitExec g) (fun d => d.store.Resolved ∧ d.refused = []) (attempt (claim c context scope owner))
      (ClaimLeft c.key) := by
  refine Ensures.attempt (R := fun out d => d.refused = [] ∧ (out = .ok .claimed → PendingFor c.key d.store) ∧
    (out ≠ .ok .claimed → d.store.Resolved)) ?_
    (fun a d h => ⟨h.1, fun heq => h.2.1 (by cases heq; rfl), fun hne => h.2.2 fun heq => hne (by cases heq; rfl)⟩)
    (fun e d h => ⟨⟨h.1, by simp, fun _ => h.2.2 (by simp)⟩, h.1, by simp, fun _ => h.2.2 (by simp)⟩)
  unfold claim
  refine bind (R := fun out d => (d.store.Resolved ∧ d.refused = []) ∧
    ∀ record, out = .ok record →
      IntentRecord.fromExecutionIntent c.intent .pending (context.bind (·.broker)) (some scope) = .ok record)
    (ensures_ofExcept fun d hd => ⟨hd, fun _ h => h⟩) (fun record => ensures_store fun now d hd => ?_)
    fun e d hd => ⟨hd.1.2, by simp, fun _ => hd.1.1⟩
  obtain ⟨⟨hresolved, hrefused⟩, hrecord⟩ := hd
  have hrecord := hrecord record rfl
  have hkey : record.idempotencyKey = c.key := by
    unfold IntentRecord.fromExecutionIntent at hrecord
    split at hrecord
    · cases hrecord
    · cases hrecord
      rfl
  unfold storeAnswer
  cases happly : StoreOp.apply now (.tryClaimUnderReservation record scope owner) d.store with
  | error e => exact ⟨hrefused, by simp, fun _ => hresolved⟩
  | ok out =>
    obtain ⟨a, s'⟩ := out
    have hnonblank : blank c.key = false := by
      obtain ⟨_, hvalid, -⟩ := bind_ok (show (Store.validateKey record.idempotencyKey >>= _) = _ from happly)
      unfold Store.validateKey at hvalid
      rw [← hkey]
      by_contra hblank
      rw [if_pos (by simpa using hblank)] at hvalid
      cases hvalid
    rcases Store.tryClaimUnderReservation_ok happly with ⟨hne, rfl⟩ | ⟨rfl, hfresh, -, rfl⟩
    · exact ⟨hrefused, fun heq => absurd (Except.ok.inj heq) hne, fun _ => hresolved⟩
    · rw [hkey] at hfresh
      refine ⟨hrefused, fun _ => ⟨hnonblank, ?_, fun k row hrow hk => ?_⟩, fun hne => absurd rfl hne⟩
      · obtain ⟨read, hread⟩ := @decode_claim _ _ _ (some (Store.orText record.accountId scope)) _ hrecord c.key now
        refine ⟨_, read, ?_, ?_, hread⟩
        · rw [hkey]
          exact Store.row_setRow _ _ _
        · unfold IntentRecord.fromExecutionIntent at hrecord
          split at hrecord
          · cases hrecord
          · cases hrecord
            rfl
      · rw [hkey, Store.row_setRow_of_ne _ _ hk] at hrow
        exact hresolved k row hrow

theorem ensures_transition {X : List OrderRequest → Prop} {status : IntentRecordStatus} (hstatus : status ≠ .pending)
    (orderId transactionId : Option String) :
    Ensures (SubmitExec g) (fun d => PendingFor c.key d.store ∧ X d.refused)
      (transition_ c status orderId transactionId) fun out d => out = .ok true ∧ X d.refused ∧
        (∃ row, d.store.row c.key = some row ∧ row.state = status) ∧ d.store.ResolvedBut c.key := by
  have hstore : Ensures (SubmitExec g) (fun d => PendingFor c.key d.store ∧ X d.refused)
      (store (.transition { idempotencyKey := c.key, status, orderId, transactionId })) fun out d => out = .ok true ∧
        X d.refused ∧ (∃ row, d.store.row c.key = some row ∧ row.state = status) ∧ d.store.ResolvedBut c.key := by
    refine ensures_store fun now d hd => ?_
    obtain ⟨row, s', hanswer, hrow, hstate, hothers⟩ := hd.1.transition now hstatus orderId transactionId
    rw [hanswer]
    exact ⟨rfl, hd.2, ⟨row, hrow, hstate⟩, hothers⟩
  have hattempt := Ensures.attempt (Q := fun out d => out = .ok (some true) ∧
    X d.refused ∧ (∃ row, d.store.row c.key = some row ∧ row.state = status) ∧ d.store.ResolvedBut c.key) hstore
    (fun a d h => ⟨by cases h.1; rfl, h.2⟩) fun e d h => by cases h.1
  unfold transition_
  refine bind hattempt (fun moved => ensures_pure fun d hd => ?_) fun e d hd => by cases hd.1
  cases hd.1
  exact ⟨rfl, hd.2⟩

theorem ensures_sendOrder (order : OrderRequest) :
    Ensures (SubmitExec g) (fun d => PendingFor c.key d.store ∧ d.refused = []) (sendOrder order) fun out d =>
      PendingFor c.key d.store ∧ ((∃ result, out = .ok result ∧ result.status = .filled ∧ d.refused = []) ∨
        ∃ message, out = .error (.exception message) ∧ d.refused ≠ []) := by
  have hinvoke : Ensures (SubmitExec g) (fun d => PendingFor c.key d.store ∧ d.refused = [])
      (AsyncTradeExecutor.ask (.submitOrder order)) fun out d =>
        out = .ok () ∧ PendingFor c.key d.store ∧ d.refused = [] := by
    refine ensures_perform fun d ans d' hd hx => ?_
    obtain ⟨hstore, hrefused⟩ := SubmitExec.quiet hx rfl
    rw [hstore, hrefused]
    exact ⟨SubmitExec.invoked hx, hd⟩
  have hanswer : Ensures (SubmitExec g) (fun d => PendingFor c.key d.store ∧ d.refused = [])
      (AsyncTradeExecutor.ask (.submitOrderResult order)) fun out d => PendingFor c.key d.store ∧
        ((∃ result, out = .ok (.result result) ∧ result.status = .filled ∧ blank result.orderId = false ∧
            d.refused = []) ∨
          ∃ message, out = .error (.exception message) ∧ d.refused ≠ []) := by
    refine ensures_perform fun d ans d' hd hx => ?_
    obtain ⟨hstore, hends⟩ := SubmitExec.answered hx
    rw [hstore]
    refine ⟨hd.1, ?_⟩
    rcases hends with ⟨result, hans, hstatus, hid, hrefused⟩ | ⟨message, hans, hrefused⟩
    · exact .inl ⟨result, hans, hstatus, hid, by rw [hrefused]; exact hd.2⟩
    · exact .inr ⟨message, hans, by rw [hrefused]; simp⟩
  unfold sendOrder
  refine bind hinvoke (fun _ => ?_) fun e d hd => by cases hd.1
  refine bind (hanswer.imp (fun d hd => hd.2) fun _ _ h => h) (fun answer => ?_) fun e d hd => ?_
  · refine ensures_ofExcept fun d hd => ⟨hd.1, ?_⟩
    rcases hd.2 with ⟨result, hans, hstatus, hid, hrefused⟩ | ⟨message, hans, -⟩
    · cases hans
      refine .inl ⟨result, ?_, hstatus, hrefused⟩
      unfold gatewayOutcome
      simp only [hstatus, hid]
      rfl
    · cases hans
  · refine ⟨hd.1, ?_⟩
    rcases hd.2 with ⟨result, hans, -⟩ | ⟨message, hans, hrefused⟩
    · cases hans
    · exact .inr ⟨message, by cases hans; rfl, hrefused⟩

theorem ensures_submitClaimed {decision : ExecutionDecision} (horder : ∃ order, c.order? = some order) :
    Ensures (SubmitExec g) (fun d => PendingFor c.key d.store ∧ d.refused = []) (submitClaimed c decision)
      fun _ => RefusalsKept := by
  obtain ⟨order, horder⟩ := horder
  unfold submitClaimed
  rw [horder]
  refine (ensures_sendOrder order).bindAny fun mid => ?_
  by_cases hfilled : ∃ result, mid = .ok result ∧ result.status = .filled
  · obtain ⟨result, rfl, hstatus⟩ := hfilled
    have haccepted : result.status.value ∈ ["FILLED", "SUBMITTED"] := by
      rw [hstatus]
      decide
    unfold AsyncTradeExecutor.settle
    simp only [haccepted, if_true]
    have hmove := ensures_transition (g := g) (c := c) (X := fun refused => refused = [])
      (by decide : IntentRecordStatus.accepted ≠ .pending) (some result.orderId) result.transactionId
    refine bind (hmove.imp (fun d hd => ⟨hd.1, ?_⟩) fun _ _ h => h) (fun moved => ?_) fun e d hd => by cases hd.1
    · rcases hd.2 with ⟨_, -, -, hrefused⟩ | ⟨_, h, -⟩
      · exact hrefused
      · cases h
    · have hkept : ∀ d : PaperDesk, (Except.ok moved = (.ok true : Except PyExc Bool) ∧ d.refused = [] ∧
          (∃ row, d.store.row c.key = some row ∧ row.state = .accepted) ∧ d.store.ResolvedBut c.key) →
          RefusalsKept d := by
        rintro d ⟨-, hrefused, ⟨row, hrow, hstate⟩, hothers⟩
        unfold RefusalsKept
        rw [hrefused]
        refine refusalsCounted_of_resolved fun k row' hrow' => ?_
        by_cases hk : k = c.key
        · subst hk
          rw [hrow] at hrow'
          cases hrow'
          rw [hstate]
          rfl
        · exact hothers k row' hrow' hk
      split
      · exact ensures_pure hkept
      · exact ensures_pure hkept
  · cases mid with
    | ok result =>
      refine fun d out d' hd _ => absurd ?_ hfilled
      rcases hd.2 with ⟨result', heq, hstatus, -⟩ | ⟨_, h, -⟩
      · exact ⟨result', heq, hstatus⟩
      · cases h
    | error e =>
      by_cases hmessage : ∃ message, e = .exception message
      · obtain ⟨message, rfl⟩ := hmessage
        have hmove := ensures_transition (g := g) (c := c) (X := fun refused => refused ≠ [])
          (by decide : IntentRecordStatus.unknown ≠ .pending) none none
        unfold AsyncTradeExecutor.settle
        refine bind (hmove.imp (fun d hd => ⟨hd.1, ?_⟩) fun _ _ h => h) (fun moved => ?_)
          fun e d hd => by cases hd.1
        · rcases hd.2 with ⟨_, h, -⟩ | ⟨_, -, hrefused⟩
          · cases h
          · exact hrefused
        · refine ensures_pure fun d hd => ?_
          obtain ⟨-, hrefused, ⟨row, hrow, hstate⟩, -⟩ := hd
          exact ⟨fun hnone => absurd hnone hrefused, fun _ => ⟨c.key, row, hrow, hstate⟩⟩
      · refine fun d out d' hd _ => absurd ?_ hmessage
        rcases hd.2 with ⟨_, h, -⟩ | ⟨message, h, -⟩
        · cases h
        · cases h
          exact ⟨message, rfl⟩

theorem ensures_submitClaim {context : Option ExecutionContext} {scope owner : String} {decision : ExecutionDecision}
    (hc : c.hasReconciler = false) (horder : ∃ order, c.order? = some order) :
    Ensures (SubmitExec g) (fun d => d.store.Resolved ∧ d.refused = []) (submitClaim c context scope owner decision)
      fun _ => RefusalsKept := by
  have hkept : ∀ {d : PaperDesk}, d.refused = [] → d.store.Resolved → RefusalsKept d := by
    intro d hrefused hresolved
    unfold RefusalsKept
    rw [hrefused]
    exact refusalsCounted_of_resolved hresolved
  unfold submitClaim
  refine bind (ensures_claim context scope owner) (fun claim => ?_)
    fun e d hd => hkept hd.1 (hd.2.2 (by simp))
  cases claim with
  | none => exact ensures_pure fun d hd => hkept hd.1 (hd.2.2 (by simp))
  | some claim =>
    dsimp only
    split
    · next hclaim =>
      have hleft := ensures_reconcile (g := g) (T := RefusalsCounted) hc none
      refine bind (hleft.imp (fun d hd => hkept hd.1 (hd.2.2 ?_)) fun _ _ h => h)
        (fun followUp => ensures_pure fun d hd => hd.1) fun e d hd => hd.1
      intro heq
      cases heq
      exact hclaim rfl
    · next hclaim =>
      have hclaimed : claim = .claimed := by simpa using hclaim
      subst hclaimed
      exact (ensures_submitClaimed horder).imp (fun d hd => ⟨hd.2.1 rfl, hd.1⟩) fun _ _ h => h

def Alone (key : String) (d : PaperDesk) : Prop :=
  RefusalsKept d ∧ d.store.hasOtherUnresolvedIntent key = false

theorem ensures_submitJudged {context : Option ExecutionContext} {scope owner : String}
    (positions : Option (List PositionItem)) (hc : c.hasReconciler = false) (hbefore : c.hasBeforeSubmit = false) :
    Ensures (SubmitExec g) (Alone c.key) (submitJudged c context scope owner positions) fun _ => RefusalsKept := by
  unfold submitJudged
  dsimp only
  split
  · exact ensures_pure fun d hd => hd.1
  · next hdenied =>
    have horder := order_of_allowed (c := c) (by simpa using hdenied)
    have hrec := ensures_reconcile (g := g) (c := c)
      (T := fun s l => RefusalsCounted s l ∧ s.hasOtherUnresolvedIntent c.key = false) hc positions
    refine bind hrec (fun reconciliation => ?_) fun e d hd => hd.1.1
    split
    · exact ensures_pure fun d hd => hd.1.1
    · next hready =>
      rw [hbefore]
      refine (ensures_submitClaim hc horder).imp (fun d hd => ?_) fun _ _ h => h
      exact hd.1.1.resolved hd.1.2 (hd.2 _ rfl (by simpa using hready))

theorem ensures_submit (entry : PaperEntry) :
    Ensures (SubmitExec g) RefusalsKept (submit (submitCall entry)) fun _ => RefusalsKept := by
  have hreserved : ∀ (context : Option ExecutionContext) (scope owner : String),
      Ensures (SubmitExec g) (Alone (submitCall entry).key) (submitReserved (submitCall entry) context scope owner)
        fun _ => RefusalsKept := by
    intro context scope owner
    have hread : Ensures (SubmitExec g) (Alone (submitCall entry).key)
        (AsyncTradeExecutor.attempt (AsyncTradeExecutor.ask .getPositions)) fun _ => Alone (submitCall entry).key :=
      Ensures.attempt (ensures_quiet (T := fun s l => RefusalsCounted s l ∧
        s.hasOtherUnresolvedIntent (submitCall entry).key = false) rfl) (fun _ _ h => h) fun _ _ h => ⟨h, h⟩
    exact bind hread (fun positions => ensures_submitJudged positions rfl rfl) fun e d hd => hd.1
  have hheld : ∀ owner, Ensures (SubmitExec g) (Alone (submitCall entry).key) (submitHeld (submitCall entry) owner)
      fun _ => RefusalsKept := by
    intro owner
    unfold submitHeld refreshedContext
    refine bind (R := fun _ => Alone (submitCall entry).key) (ensures_pure fun _ h => h)
      (fun context => ?_) fun e d hd => hd.1
    exact bind (hreserved context _ owner) (fun result => ensures_pure fun _ h => h) fun e d hd => hd
  unfold submit
  split
  · exact ensures_pure fun _ h => h
  · refine bind (ensures_quiet (T := RefusalsCounted) rfl) (fun owner => ?_) fun e d hd => hd
    refine bind (ensures_acquire _ owner _ _) (fun reservation => ?_) fun e d hd => hd.1
    cases reservation with
    | none => exact ensures_pure fun d hd => hd.1
    | some reservation =>
      dsimp only
      split
      · exact ensures_pure fun d hd => hd.1
      · next hacquired =>
        have hacquired : reservation = .acquired := by simpa using hacquired
        subst hacquired
        refine finallyDo ((hheld owner).imp (fun d hd => ⟨hd.1, hd.2 rfl⟩) fun _ _ h => h) ?_
        exact ensures_release _ owner

/-! ## A cycle -/

theorem ensures_undurable {α : Type} {p : PaperProg α} (hp : p.Makes fun r => r.durable = false) :
    Ensures DeskExec RefusalsKept p fun _ => RefusalsKept := by
  refine ensures_of_makes (fun d r ans d' hr hd hx => ?_) hp
  obtain ⟨hstore, hrefused⟩ := hx.quiet hr
  unfold RefusalsKept
  rw [hstore, hrefused]
  exact hd

omit [CaseMap] in
theorem undurable_of_unclaimed (r : PaperReq) (h : Unclaimed r) : r.durable = false := by
  cases r with
  | begin | decide | observe | venue | complete => exact h.elim
  | _ => rfl

variable [CaseFold]

theorem ensures_submitEntry (now : Int) (o : ClosedMarketObservation) (entry : PaperEntry) :
    Ensures DeskExec RefusalsKept (submitEntry now o entry) fun _ => RefusalsKept := by
  unfold submitEntry
  refine bind (ensures_undurable (makes_ask rfl)) (fun _ => ?_) fun e d hd => hd
  refine bind (R := fun _ => RefusalsKept) (ensures_ofExcept fun _ h => h) (fun g => ?_) fun e d hd => hd
  refine bind (Ensures.interpret (ensures_submit (g := g) entry)) (fun result => ?_) fun e d hd => hd
  exact ensures_undurable (makes_reportSubmission (fun _ => rfl) _ _)

theorem ensures_work (now : Int) (os : List ClosedMarketObservation) (o : ClosedMarketObservation) :
    Ensures DeskExec RefusalsKept (work now os o) fun _ => RefusalsKept := by
  unfold work
  refine bind (ensures_undurable (makes_ask rfl)) (fun positions => ?_) fun e d hd => hd
  have hobserve := makes_observePositions (C := fun r => r.durable = false) (o := o) (fun _ => rfl) (fun _ => rfl)
    (fun _ => rfl) positions 0
  refine bind (ensures_undurable hobserve) (fun closedCount => ?_) fun e d hd => hd
  refine bind (ensures_undurable (makes_ask rfl)) (fun _ => ?_) fun e d hd => hd
  refine bind (ensures_undurable (makes_ask rfl)) (fun entry => ?_) fun e d hd => hd
  cases entry with
  | none => exact ensures_pure fun _ h => h
  | some entry => exact ensures_submitEntry now o entry

variable [ExcClass]

theorem ensures_runOnce : Ensures DeskExec RefusalsKept runOnce fun _ => RefusalsKept := by
  have hunclaimed : ∀ {α : Type} {p : PaperProg α}, p.Makes Unclaimed →
      Ensures DeskExec RefusalsKept p fun _ => RefusalsKept :=
    fun hp => ensures_undurable (makes_mono undurable_of_unclaimed hp)
  have hclaimed : ∀ now os o claim,
      Ensures DeskExec RefusalsKept (claimed now os o claim) fun _ => RefusalsKept := by
    intro now os o claim
    cases claim with
    | unresolved => exact ensures_raise fun _ h => h
    | duplicate => exact hunclaimed (makes_bind (makes_ignored now _) fun _ => makes_pure _)
    | old => exact hunclaimed (makes_bind (makes_ignored now _) fun _ => makes_pure _)
    | new =>
      refine bind (ensures_work now os o) (fun report => ?_) fun e d hd => hd
      have hfinish : (finishCycle now o report).Makes fun r => r.durable = false :=
        makes_bind (makes_ask rfl) fun _ => makes_bind (makes_ask rfl) fun _ => makes_bind (makes_ask rfl) fun _ =>
          makes_ask rfl
      exact bind (ensures_undurable hfinish) (fun _ => ensures_pure fun _ h => h) fun e d hd => hd
  have hcycle : ∀ now, Ensures DeskExec RefusalsKept (cycle now) fun _ => RefusalsKept := by
    intro now
    unfold cycle
    refine bind (hunclaimed (makes_ask trivial)) (fun os => ?_) fun e d hd => hd
    cases os with
    | nil => exact ensures_raise fun _ h => h
    | cons first rest =>
      dsimp only [cycleWith]
      split
      · exact ensures_raise fun _ h => h
      · split
        · exact ensures_raise fun _ h => h
        · exact bind (ensures_undurable (makes_ask rfl)) (fun claim => hclaimed now _ _ claim) fun e d hd => hd
  have hcycleAt : ∀ now, Ensures DeskExec RefusalsKept (cycleAt now) fun _ => RefusalsKept := by
    intro now
    refine (hcycle now).bindAny fun mid => ?_
    rcases mid with exc | _ | heartbeat
    · dsimp only
      split
      · exact hunclaimed (makes_bind (makes_failed now exc) fun _ => makes_publishHeartbeat)
      · exact ensures_raise fun _ h => h
    · exact hunclaimed makes_publishHeartbeat
    · exact ensures_pure fun _ h => h
  unfold runOnce
  refine bind (hunclaimed (makes_ask trivial)) (fun free => ?_) fun e d hd => hd
  split
  · exact ensures_raise fun _ h => h
  · refine finallyDo ?_ (hunclaimed (makes_ask trivial))
    exact bind (hunclaimed (makes_ask trivial)) (fun now => hcycleAt now) fun e d hd => hd

theorem PaperCyclesReach.kept {d : PaperDesk} (h : PaperCyclesReach d) : RefusalsKept d := by
  induction h with
  | start paper => exact refusalsCounted_of_resolved fun k row hrow => by cases hrow
  | restart _ paper ih => exact ih
  | cycle _ hr ih => exact ensures_runOnce _ _ _ ih hr

/-- **Where the paper runtime is wedged**: after any cycles, an intent stands in the way exactly when the venue has
refused an order. -/
theorem paper_unwedged_iff {d : PaperDesk} (h : PaperCyclesReach d) : d.store.Unwedged ↔ d.refused = [] :=
  h.kept.unwedged_iff

end

/-! ## A stake below the minimum -/

local instance wedgedCase : CaseMap := asciiCase

local instance wedgedFold : CaseFold := ⟨CaseMap.lower⟩

local instance wedgedExc : ExcClass := ⟨fun _ => "RuntimeError", fun _ => false⟩

def deskAnswer (now : Int) (os : List ClosedMarketObservation) (entry : Option PaperEntry) (d : PaperDesk) :
    (r : PaperReq) → Except PyExc r.Ans × PaperDesk
  | .venue _ (.store op) => ((storeAnswer now op d.store).1, { d with store := (storeAnswer now op d.store).2 })
  | .venue g (.submitOrderResult order) =>
    match g.submitOrder order (d.paper.engine 0) with
    | (.ok result, e) => (.ok (.result result), { d with paper := d.paper.setEngine 0 e })
    | (.error exc, e) => (.error exc, { d with paper := d.paper.setEngine 0 e, refused := order :: d.refused })
  | r => ((paperAnswer now os entry true d.paper r).1, { d with paper := (paperAnswer now os entry true d.paper r).2 })

theorem deskAnswer_exec (now : Int) (os : List ClosedMarketObservation) (entry : Option PaperEntry) (d : PaperDesk)
    (r : PaperReq) : DeskExec d r (deskAnswer now os entry d r).1 (deskAnswer now os entry d r).2 := by
  have hother : ∀ r, r.durable = false →
      DeskExec d r (paperAnswer now os entry true d.paper r).1 { d with paper := (paperAnswer now os entry true d.paper r).2 } :=
    fun r hr => .other hr (paperAnswer_exec now os entry true d.paper r)
  cases r with
  | venue g r =>
    cases r with
    | store op => exact .stored g op now
    | submitOrderResult order =>
      unfold deskAnswer
      dsimp only
      cases hsubmit : g.submitOrder order (d.paper.engine 0) with
      | mk answer e =>
        cases answer with
        | ok result => exact .accepted g order hsubmit
        | error exc => exact .refused g order hsubmit
    | _ => exact hother _ rfl
  | _ => exact hother _ rfl

def deskAfter (now : Int) (os : List ClosedMarketObservation) (entry : Option PaperEntry) (d : PaperDesk) : PaperDesk :=
  (runOnce.run (deskAnswer now os entry) d).2

theorem reach_deskAfter (now : Int) (os : List ClosedMarketObservation) (entry : Option PaperEntry) {d : PaperDesk}
    (h : PaperCyclesReach d) : PaperCyclesReach (deskAfter now os entry d) :=
  .cycle h (Ends.of_run (deskAnswer now os entry) (deskAnswer_exec now os entry) runOnce d)

def emptyDesk : PaperDesk := ⟨emptyPaperWorld, .empty, []⟩

def goodEntry : PaperEntry := ⟨sampleIntent "XAUUSD" "k2", sampleContext ["XAUUSD"] 5⟩

def tinyEntry : PaperEntry :=
  ⟨{ sampleIntent "XAUUSD" "k1" with quantity := some ⟨1 / 1000, .mt5Lots, by decide +kernel⟩ },
    sampleContext ["XAUUSD"] 5⟩

def goodDesk : PaperDesk := deskAfter 1000 [quarter 900] (some goodEntry) emptyDesk

def wedgedDesk : PaperDesk := deskAfter 1000 [quarter 900] (some tinyEntry) emptyDesk

theorem paper_unwedged_good : goodDesk.store.Unwedged :=
  (paper_unwedged_iff (reach_deskAfter 1000 [quarter 900] (some goodEntry) (.start emptyPaperWorld))).2 (by decide +kernel)

def deskAction (now : Int) (os : List ClosedMarketObservation) (entry : Option PaperEntry) (d : PaperDesk) :
    Option String :=
  (runOnce.run (deskAnswer now os entry) d).1.toOption.map (·.lastAction)

/-- **One refused order wedges the runtime**: its intent stays UNKNOWN, and a valid entry of the next cycle, which a
runtime without that refusal opens, is blocked for it. -/
theorem paper_wedged_by_refusal : (¬∀ d : PaperDesk, PaperCyclesReach d → d.store.Unwedged) ∧
    deskAction 2000 [quarter 900, quarter 1800] (some goodEntry) wedgedDesk =
      some "BLOCKED:UNRESOLVED_DURABLE_INTENT" ∧
    deskAction 2000 [quarter 900, quarter 1800] (some goodEntry) emptyDesk = some "POSITION_OPENED" := by
  refine ⟨fun h => ?_, by decide +kernel, by decide +kernel⟩
  have hwedged := h wedgedDesk (reach_deskAfter 1000 [quarter 900] (some tinyEntry) (.start emptyPaperWorld))
  have hunknown : (wedgedDesk.store.row "k1").map (·.state) = some .unknown := by decide +kernel
  obtain ⟨row, hrow, hstate⟩ := Option.map_eq_some_iff.1 hunknown
  exact (hwedged.1 "k1" row hrow).2 hstate

end Jqe
