import Jqe.CoroSeq
import Jqe.ExecScript
import Jqe.StartupRecovery
/-!
# IdentityKept — when the broker's identifiers of a record survive

Any number of `submit`, `reconcile` and `recover` runs over one store, interleaved at their requests; whatever else they
ask is answered in any way.  `transition` overwrites both identifiers, and `ACCEPTED` may be written over `ACCEPTED`: a
run whose snapshot is older than the settlement of the record writes what it computed from it.
-/
namespace Jqe

open Coro Prog

inductive IdentityRun where
  | submit (c : SubmitCall)
  | reconcile (c : SubmitCall) (positions : Option (List PositionItem))
  | recover (svc : StartupRecoveryService)

inductive IdentityReq where
  | exec (r : ExecReq)
  | recover (r : RecoverReq)

@[reducible] def IdentityReq.Ans : IdentityReq → Type
  | exec r => r.Ans
  | recover r => r.Ans

def IdentityReq.transition? : IdentityReq → Option IntentRecord
  | exec (.store (.transition record)) => some record
  | recover (.transition record) => some record
  | _ => none

def execCall (r : ExecReq) : Prog IdentityReq IdentityReq.Ans PyExc r.Ans := perform (IdentityReq.exec r)

def recoverCall (r : RecoverReq) : Prog IdentityReq IdentityReq.Ans PyExc r.Ans := perform (IdentityReq.recover r)

def IdentityRun.prog [CaseMap] : IdentityRun → Prog IdentityReq IdentityReq.Ans PyExc Unit
  | submit c => (fun _ => ()) <$> (AsyncTradeExecutor.submit c).interpret execCall
  | reconcile c positions => (fun _ => ()) <$> (AsyncTradeExecutor.reconcile c positions).interpret execCall
  | recover svc => (fun _ => ()) <$> svc.recover.interpret recoverCall

structure IdentityWorld where
  store : Store
  past : List Store

inductive IdentityExec (w : IdentityWorld) (i : IdentityRun) :
    (r : IdentityReq) → Except PyExc r.Ans → IdentityWorld → Prop
  | store (op : StoreOp) {ans : Except PyExc op.Ans} {s' : Store} (h : StoreExec True w.store op ans s') :
      IdentityExec w i (.exec (.store op)) ans ⟨s', w.store :: w.past⟩
  | asked (r : ExecReq) (ans : Except PyExc r.Ans) (hr : ∀ op, r ≠ .store op) : IdentityExec w i (.exec r) ans w
  | recover (r : RecoverReq) {ans : Except PyExc r.Ans} {v : RecoveryWorld}
      (h : RecoverExec (fun _ _ => True) ⟨w.store, []⟩ r ans v) :
      IdentityExec w i (.recover r) ans ⟨v.store, w.store :: w.past⟩

/-- An unresolved record has no identifiers yet. -/
def UnresolvedBlank (s : Store) : Prop :=
  ∀ key r, s.row key = some r → r.state.unresolved = true → r.orderId = none ∧ r.transactionId = none

/-- **The runs on one store**, from any state that runs can leave. -/
def identitySystem : System IdentityReq IdentityReq.Ans PyExc IdentityWorld IdentityRun where
  init w := UnresolvedBlank w.store ∧ w.past = []
  admits _ := True
  exec := IdentityExec
  tick _ _ := False

/-- **The identifiers of every record are kept**, those that are there. -/
def IdKept (s s' : Store) : Prop :=
  ∀ key r, s.row key = some r → ∃ r', s'.row key = some r' ∧
    (∀ id, r.orderId = some id → r'.orderId = some id) ∧
    ∀ id, r.transactionId = some id → r'.transactionId = some id

/-- No transition writes a final status over itself. -/
def NoFinalAgain (w : IdentityWorld) (r : IdentityReq) : Prop :=
  ∀ record row, r.transition? = some record → w.store.row record.idempotencyKey = some row →
    record.status = row.state → row.state.unresolved = true

theorem IdKept.refl (s : Store) : IdKept s s := fun _ r hr => ⟨r, hr, fun _ h => h, fun _ h => h⟩

theorem IdKept.trans {s s' s'' : Store} (h : IdKept s s') (h' : IdKept s' s'') : IdKept s s'' := by
  intro key r hr
  obtain ⟨r', hr', hid, htx⟩ := h key r hr
  obtain ⟨r'', hr'', hid', htx'⟩ := h' key r' hr'
  exact ⟨r'', hr'', fun id h => hid' id (hid id h), fun id h => htx' id (htx id h)⟩

theorem IdKept.setRow {s : Store} {key : String} {r' : IntentRow}
    (h : ∀ r, s.row key = some r → (∀ id, r.orderId = some id → r'.orderId = some id) ∧
      ∀ id, r.transactionId = some id → r'.transactionId = some id) : IdKept s (s.setRow key r') := by
  intro k r hr
  by_cases hk : k = key
  · subst hk
    exact ⟨r', Store.row_setRow _ _ _, h r hr⟩
  · exact ⟨r, by rw [Store.row_setRow_of_ne _ _ hk, hr], fun _ h => h, fun _ h => h⟩

theorem UnresolvedBlank.setRow {s : Store} (h : UnresolvedBlank s) {key : String} {r' : IntentRow}
    (hr' : r'.state.unresolved = true → r'.orderId = none ∧ r'.transactionId = none) :
    UnresolvedBlank (s.setRow key r') := by
  intro k r hr hu
  by_cases hk : k = key
  · subst hk
    rw [Store.row_setRow, Option.some.injEq] at hr
    exact hr ▸ hr' (hr ▸ hu)
  · rw [Store.row_setRow_of_ne _ _ hk] at hr
    exact h k r hr hu

def BlankCall : StoreOp → Prop
  | .transition record => record.status = .unknown → record.orderId = none ∧ record.transactionId = none
  | .tryClaimUnderReservation record _ _ | .tryClaim record => record.orderId = none ∧ record.transactionId = none
  | _ => True

theorem IntentRecordStatus.eq_unknown {status : IntentRecordStatus} (hu : status.unresolved = true)
    (hne : status ≠ .pending) : status = .unknown := by
  cases status with
  | unknown => rfl
  | pending => exact absurd rfl hne
  | accepted | rejected => cases hu

/-- **A call that writes no final status over itself keeps the identifiers.** -/
theorem StoreExec.idKept {s s' : Store} {op : StoreOp} {ans : Except PyExc op.Ans} (h : StoreExec True s op ans s')
    (hblank : UnresolvedBlank s) (hcall : BlankCall op)
    (hfinds : ∀ record row, op = .transition record → s.row record.idempotencyKey = some row →
      record.status = row.state → row.state.unresolved = true) : UnresolvedBlank s' ∧ IdKept s s' := by
  have unchanged : ∀ {s'' : Store}, (∀ k, s''.row k = s.row k) → UnresolvedBlank s'' ∧ IdKept s s'' :=
    fun hsame => ⟨fun k r hr => hblank k r (hsame k ▸ hr),
      fun k r hr => ⟨r, (hsame k).trans hr, fun _ h => h, fun _ h => h⟩⟩
  have inserted : ∀ {k : String} {row : IntentRow}, s.row k = none → row.orderId = none ∧ row.transactionId = none →
      UnresolvedBlank (s.setRow k row) ∧ IdKept s (s.setRow k row) := by
    intro k row hk hids
    refine ⟨hblank.setRow fun _ => hids, .setRow fun r hr => ?_⟩
    rw [hk] at hr
    cases hr
  rcases h.cases_ok with ⟨rfl, _⟩ | ⟨now, a, happ, _⟩
  · exact unchanged fun _ => rfl
  cases op with
  | acquireReservation scope owner lease k =>
    rcases Store.acquireReservation_ok happ with ⟨_, rfl⟩ | ⟨_, _, _, _, _, rfl⟩ <;> exact unchanged fun _ => rfl
  | releaseReservation scope owner =>
    rcases Store.releaseReservation_ok happ with ⟨_, rfl⟩ | ⟨_, rfl, _⟩ <;> exact unchanged fun _ => rfl
  | tryClaimUnderReservation record scope owner =>
    rcases Store.tryClaimUnderReservation_ok happ with ⟨_, rfl⟩ | ⟨_, hnone, _, rfl⟩
    · exact unchanged fun _ => rfl
    · exact inserted hnone hcall
  | tryClaim record =>
    rcases Store.tryClaim_ok happ with ⟨_, rfl⟩ | ⟨_, hnone, rfl⟩
    · exact unchanged fun _ => rfl
    · exact inserted hnone hcall
  | get k =>
    obtain ⟨rfl, _⟩ := Store.get_ok happ
    exact unchanged fun _ => rfl
  | transition record =>
    rcases Store.transition_ok happ with ⟨_, rfl⟩ | ⟨_, row, hrow, hallowed, rfl⟩
    · exact unchanged fun _ => rfl
    · -- the row that is written over is unresolved, so that it has no identifiers to lose
      obtain ⟨hu, hne⟩ : row.state.unresolved = true ∧ record.status ≠ .pending := by
        rcases (IntentRecordStatus.allowedFrom_iff _ _).1 hallowed with hopen | ⟨hfinal, hsame⟩
        · exact hopen
        · rw [hfinds record row rfl hrow hsame] at hfinal
          cases hfinal
      obtain ⟨hid, htx⟩ := hblank _ row hrow hu
      refine ⟨hblank.setRow fun hu' => ?_, .setRow fun r hr => ?_⟩
      · exact hcall (IntentRecordStatus.eq_unknown hu' hne)
      · obtain rfl := Option.some.inj (hrow.symm.trans hr)
        exact ⟨fun id h => (by rw [hid] at h; cases h), fun id h => (by rw [htx] at h; cases h)⟩
  | recordRecoveryDiagnostic k outcome state reason =>
    rcases Store.recordRecoveryDiagnostic_ok happ with ⟨_, rfl⟩ | ⟨_, row, hrow, rfl⟩
    · exact unchanged fun _ => rfl
    · refine ⟨hblank.setRow fun hu => hblank _ row hrow hu, .setRow fun r hr => ?_⟩
      obtain rfl := Option.some.inj (hrow.symm.trans hr)
      exact ⟨fun _ h => h, fun _ h => h⟩

/-! ## What the runs ask -/

def BlankReq : ExecReq → Prop
  | .store op => BlankCall op
  | _ => True

/-- A recovery that has listed its records writes no doubt but over their identifiers. -/
def ListedReq (listed : List IntentRecord) : RecoverReq → Prop
  | .transition record => record.status = .unknown →
      ∃ r ∈ listed, record.orderId = r.orderId ∧ record.transactionId = r.transactionId
  | .listUnresolved => False
  | _ => True

variable [CaseMap]

theorem Allowed.blankReq {c : SubmitCall} {q : Phase} {r : ExecReq} (h : Allowed c q r) : BlankReq r := by
  cases h with
  | confirm o h orderId transactionId hc => exact nofun
  | doubt o h => exact fun _ => ⟨rfl, rfl⟩
  | claim o h record broker hs hp hr =>
    obtain ⟨_, _, hid, htx, _⟩ := IntentRecord.fromExecutionIntent_ok hr
    exact ⟨hid, htx⟩
  | settle o order out record hr =>
    intro hst
    unfold settlement at hr
    split at hr
    · cases hr
      cases hst
    · cases hr
      exact ⟨rfl, rfl⟩
    · cases hr
    · split at hr
      · cases hr
        cases hst
      · cases hr
        cases hst
  | _ => exact trivial

theorem submit_makes (c : SubmitCall) : (AsyncTradeExecutor.submit c).Makes BlankReq :=
  makes_of_wp (fun _ _ h => Allowed.blankReq h) (AsyncTradeExecutor.submit_conforms c)

theorem reconcile_makes (c : SubmitCall) (positions : Option (List PositionItem)) :
    (AsyncTradeExecutor.reconcile c positions).Makes BlankReq := by
  have hwp : ∀ post : Except PyExc ReconciliationResult → Phase → Prop, (∀ out q, post out q) →
      wp (submitProtocol c) (AsyncTradeExecutor.reconcile c positions) _ post := fun post hpost =>
    AsyncTradeExecutor.wp_reconcile "" ⟨c.context, none, none, false, false⟩ positions fun _ _ _ _ _ => hpost _ _
  exact makes_of_wp (fun _ _ h => Allowed.blankReq h) (hwp (fun _ _ => True) fun _ _ => trivial)

namespace StartupRecoveryService

omit [CaseMap] in
theorem makes_guarded {α : Type} {C : RecoverReq → Prop} {p : RecoverProg α} {handler : PyExc → RecoverProg α}
    (hp : p.Makes C) (hh : ∀ e, (handler e).Makes C) : (guarded p handler).Makes C := by
  refine makes_tryCatch hp fun e => ?_
  split
  · exact hh e
  · exact trivial

variable {listed : List IntentRecord}

omit [CaseMap] in
theorem remainUnresolved_makes {record : IntentRecord} (hr : record ∈ listed)
    (outcome : StartupRecoveryOutcome) (reason : String) :
    (remainUnresolved record outcome reason).Makes (ListedReq listed) := by
  unfold remainUnresolved
  split
  · refine makes_guarded (makes_bind (makes_perform fun _ => ⟨record, hr, rfl, rfl⟩) fun moved => ?_)
      fun e => makes_pure _
    split <;> exact makes_pure _
  · exact makes_pure _

omit [CaseMap] in
theorem persist_makes (record : IntentRecord) {status : IntentRecordStatus}
    (hst : status ≠ .unknown) (outcome : StartupRecoveryOutcome) (evidence : BrokerReconciliationResult) :
    (persist record status outcome evidence).Makes (ListedReq listed) := by
  refine makes_guarded (makes_bind (makes_perform fun h => absurd h hst) fun moved => ?_) fun e => makes_pure _
  split <;> exact makes_pure _

theorem recoverOne_makes {svc : StartupRecoveryService} {record : IntentRecord}
    (hr : record ∈ listed) : (svc.recoverOne record).Makes (ListedReq listed) := by
  have answered : ∀ evidence, (recoverAnswered record evidence).Makes (ListedReq listed) := by
    intro evidence
    unfold recoverAnswered
    split
    · exact remainUnresolved_makes hr _ _
    · exact persist_makes record (by decide) _ _
    · exact persist_makes record (by decide) _ _
    · exact remainUnresolved_makes hr _ _
  have recorded : (svc.recoverRecord record).Makes (ListedReq listed) := by
    unfold recoverRecord
    split
    · exact makes_pure _
    · exact makes_pure _
    · split
      · exact makes_pure _
      · refine makes_bind (makes_guarded (makes_bind (makes_perform trivial) fun _ => makes_pure _) fun _ => makes_pure _)
          fun evidence => ?_
        cases evidence with
        | none => exact makes_bind (remainUnresolved_makes hr _ _) fun _ => makes_pure _
        | some evidence => exact makes_bind (answered evidence) fun _ => makes_pure _
  refine makes_bind recorded fun x => makes_bind (makes_guarded (makes_perform trivial) fun _ => makes_pure _) fun b => ?_
  split <;> exact makes_pure _

theorem recoverEach_makes {svc : StartupRecoveryService} :
    ∀ {records : List IntentRecord}, records ⊆ listed → (svc.recoverEach records).Makes (ListedReq listed)
  | [], _ => makes_pure _
  | record :: records, h => by
    rw [List.cons_subset] at h
    exact makes_bind (recoverOne_makes h.1) fun _ => makes_bind (recoverEach_makes h.2) fun _ => makes_pure _

end StartupRecoveryService

def identityProtocol : Protocol IdentityReq IdentityReq.Ans PyExc (List IntentRecord) where
  allows listed
    | .exec r => BlankReq r
    | .recover r => r = .listUnresolved ∨ ListedReq listed r
  next
    | _, .recover .listUnresolved, .ok records => records
    | listed, _, _ => listed

def recoverProtocol : Protocol RecoverReq RecoverReq.Ans PyExc (List IntentRecord) where
  allows listed r := r = .listUnresolved ∨ ListedReq listed r
  next listed r ans := identityProtocol.next listed (.recover r) ans

theorem IdentityRun.conforms (i : IdentityRun) : wp identityProtocol i.prog [] fun _ _ => True := by
  have executed : ∀ {α : Type} {p : ExecProg α}, p.Makes BlankReq →
      wp identityProtocol ((fun _ => ()) <$> p.interpret execCall) [] fun _ _ => True := by
    intro α p hp
    rw [wp_map]
    have hcall : ∀ r : ExecReq, BlankReq r → (execCall r).Makes fun r => ∃ e, r = IdentityReq.exec e ∧ BlankReq e :=
      fun r hr => ⟨⟨r, rfl, hr⟩, makes_ofExcept⟩
    have hmakes := makes_interpret hp hcall
    refine wp_mono (fun out _ _ => ?_) _ _ (wp_of_makes (P := identityProtocol) (q := []) ?_ hmakes)
    · cases out <;> exact trivial
    · rintro _ ⟨e, rfl, he⟩
      exact ⟨he, fun _ => rfl⟩
  cases i with
  | submit c => exact executed (submit_makes c)
  | reconcile c positions => exact executed (reconcile_makes c positions)
  | recover svc =>
    have hrecover : wp recoverProtocol svc.recover [] fun _ _ => True := by
      unfold StartupRecoveryService.recover
      rw [wp_bind]
      refine (wp_perform _ _ _).2 ⟨.inl rfl, fun ans => ?_⟩
      cases ans with
      | error e => exact trivial
      | ok records =>
        have hmakes : (do
            let results ← svc.recoverEach records
            return ⟨results⟩ : RecoverProg StartupRecoverySummary).Makes (ListedReq records) :=
          makes_bind (StartupRecoveryService.recoverEach_makes (List.Subset.refl _)) fun _ => makes_pure _
        refine wp_mono (fun _ _ _ => trivial) _ _ (wp_of_makes (P := recoverProtocol) (q := records) ?_ hmakes)
        intro r hr
        refine ⟨.inr hr, fun ans => ?_⟩
        cases r with
        | listUnresolved => exact hr.elim
        | _ => rfl
    unfold IdentityRun.prog
    rw [wp_map]
    refine wp_mono (fun out _ _ => ?_) _ _ (wp_interpret (R := Eq) (fun r q q' heq hr => ?_) _ _ _ rfl hrecover)
    · cases out <;> exact trivial
    · subst heq
      exact (wp_perform (IdentityReq.recover r) q _).2 ⟨hr, fun ans => rfl⟩

/-! ## Every run -/

/-- **The invariant**: unresolved records have no identifiers, neither stored nor listed, and no state of the store had
any that are not there now. -/
structure IdentityInv (g : Ghost IdentityWorld IdentityRun (List IntentRecord)) : Prop where
  blank : UnresolvedBlank g.world.store
  listed : ∀ n i records, g.runs n = some (i, records) → ∀ r ∈ records, r.orderId = none ∧ r.transactionId = none
  kept : ∀ s ∈ g.world.past, IdKept s g.world.store

omit [CaseMap] in
theorem RecoverExec.call {R : Reconciler} {w v : RecoveryWorld} {r : RecoverReq} {ans : Except PyExc r.Ans}
    (h : RecoverExec R w r ans v) (hlist : r ≠ .listUnresolved) {listed : List IntentRecord} (hr : ListedReq listed r)
    (hblank : UnresolvedBlank w.store) (hlisted : ∀ r ∈ listed, r.orderId = none ∧ r.transactionId = none)
    (hfinds : ∀ record row, r = .transition record → w.store.row record.idempotencyKey = some row →
      record.status = row.state → row.state.unresolved = true) : UnresolvedBlank v.store ∧ IdKept w.store v.store := by
  cases h with
  | listed | unlisted => exact absurd rfl hlist
  | transition record hx =>
    refine hx.idKept hblank (fun hst => ?_) fun record' row heq => ?_
    · obtain ⟨listed', hmem, hid, htx⟩ := hr hst
      obtain ⟨hid', htx'⟩ := hlisted listed' hmem
      exact ⟨hid.trans hid', htx.trans htx'⟩
    · cases heq
      exact hfinds record row rfl
  | diagnostic key outcome state reason hx => exact hx.idKept hblank trivial fun _ _ heq => by cases heq
  | transitionRefused | diagnosticRefused | reconciled | unreconciled => exact ⟨hblank, .refl _⟩

omit [CaseMap] in
theorem IdentityInv.call {g : Ghost IdentityWorld IdentityRun (List IntentRecord)} (h : IdentityInv g) {n : Nat}
    {i : IdentityRun} {listed : List IntentRecord} (hn : g.runs n = some (i, listed)) {r : IdentityReq}
    {ans : Except PyExc r.Ans} {w : IdentityWorld} (ha : identityProtocol.allows listed r)
    (hx : IdentityExec g.world i r ans w) (hfinds : NoFinalAgain g.world r) :
    IdentityInv ((g.setRun n i (identityProtocol.next listed r ans)).setWorld w) := by
  have hown := h.listed n i listed hn
  have store : (UnresolvedBlank w.store ∧ IdKept g.world.store w.store) ∧
      (w.past = g.world.past ∧ w.store = g.world.store ∨ w.past = g.world.store :: g.world.past) := by
    cases hx with
    | asked r ans hr => exact ⟨⟨h.blank, .refl _⟩, .inl ⟨rfl, rfl⟩⟩
    | store op hx =>
      exact ⟨hx.idKept h.blank ha fun record row heq hrow => hfinds record row (by rw [heq]; rfl) hrow, .inr rfl⟩
    | recover r hx =>
      refine ⟨?_, .inr rfl⟩
      by_cases hlist : r = .listUnresolved
      · subst hlist
        cases hx <;> exact ⟨h.blank, .refl _⟩
      · exact hx.call hlist (ha.resolve_left hlist) h.blank hown fun record row heq hrow =>
          hfinds record row (by rw [heq]; rfl) hrow
  have next : ∀ r' ∈ identityProtocol.next listed r ans, r'.orderId = none ∧ r'.transactionId = none := by
    cases hx with
    | asked r ans hr => exact hown
    | store op hx => exact hown
    | recover r hx =>
      cases hx with
      | listed hl =>
        intro r' hr'
        obtain ⟨row, hrow, hd, hu⟩ := (Store.listUnresolved_ok hl).2.1 r' hr'
        obtain ⟨_, _, hid, htx⟩ := Store.decode_ok hd
        obtain ⟨hid', htx'⟩ := h.blank _ row hrow hu
        exact ⟨hid.trans hid', htx.trans htx'⟩
      | _ => exact hown
  refine ⟨store.1.1, fun m j records hm => ?_, fun s hs => ?_⟩
  · rcases Ghost.setRun_cases hm with ⟨_, _, rfl⟩ | ⟨_, hold⟩
    · exact next
    · exact h.listed m j records hold
  · change s ∈ w.past at hs
    rcases store.2 with ⟨hpast, hsame⟩ | hpast
    · exact (h.kept s (hpast ▸ hs)).trans store.1.2
    · rw [hpast] at hs
      rcases List.mem_cons.1 hs with rfl | hs
      · exact store.1.2
      · exact (h.kept s hs).trans store.1.2

/-- **Broker identity is kept where no final status is written over itself**: over all interleavings of `submit`,
`reconcile` and `recover` runs of which none does, no identifier that was ever stored is replaced. -/
theorem identity_kept {c : Config IdentityReq IdentityReq.Ans PyExc Unit IdentityWorld IdentityRun}
    (h : Reachable (identitySystem.meeting NoFinalAgain) IdentityRun.prog c) :
    ∀ s ∈ c.world.past, IdKept s c.world.store := by
  have hghost : ∀ g, Reached (identitySystem.meeting NoFinalAgain) (fun _ => identityProtocol) [] g →
      ∀ s ∈ g.world.past, IdKept s g.world.store := ?_
  · exact h.world_invariant (I := fun w => ∀ s ∈ w.past, IdKept s w.store) (fun _ _ _ => True) (fun i _ => i.conforms)
      hghost
  intro g hg
  suffices hinv : IdentityInv g from hinv.kept
  refine Reached.invariant (fun w hw => ?_) (fun g g' _ ih hs => ?_) hg
  · refine ⟨hw.1, fun n i records hn => (by cases hn), fun s hs => ?_⟩
    change s ∈ w.past at hs
    rw [hw.2] at hs
    cases hs
  · cases hs with
    | spawn n i hn hi =>
      refine ⟨ih.blank, fun m j records hm => ?_, ih.kept⟩
      rcases Ghost.setRun_cases hm with ⟨_, _, rfl⟩ | ⟨_, hold⟩
      · exact fun r hr => by cases hr
      · exact ih.listed m j records hold
    | call r ans hn ha hx => exact ih.call hn ha hx.2 hx.1
    | tick hw => exact hw.elim

/-! ## A sample: two runs of `reconcile` -/

end Jqe

namespace Jqe

open Coro Prog

local instance identityCase : CaseMap := asciiCase

def identityRun : IdentityRun := .reconcile (sampleCall "PAINX1200" "k1" [] 1) (some [])

def identityWorld : IdentityWorld :=
  ⟨Store.empty.setRow "k1" (Store.rowOf { idempotencyKey := "k1", status := .pending } 0 none), []⟩

theorem identityWorld_init : identitySystem.init identityWorld := by
  refine ⟨fun key r hr _ => ?_, rfl⟩
  by_cases hk : key = "k1"
  · subst hk
    cases hr
    exact ⟨rfl, rfl⟩
  · unfold identityWorld at hr
    rw [Store.row_setRow_of_ne _ _ hk] at hr
    cases hr

def identityMatch (contract : Option String) : BrokerReconciliationResult :=
  ⟨.confirmedMatch, "matched", contract, none, none⟩

def identityAnswer (evidence : BrokerReconciliationResult) (w : IdentityWorld) :
    (r : IdentityReq) → Except PyExc r.Ans × IdentityWorld
  | .exec (.store op) =>
    match op.apply 5 w.store with
    | .ok (a, s') => (.ok a, ⟨s', w.store :: w.past⟩)
    | .error e => (.error e, ⟨w.store, w.store :: w.past⟩)
  | .exec (.reconcile _) => (.ok evidence, w)
  | .exec .uuid4 | .exec .contextProvider | .exec .getPositions | .exec (.beforeSubmit _) | .exec (.afterSubmit _)
  | .exec (.submitOrder _) | .exec (.submitOrderResult _) => (.error .baseException, w)
  | .recover .listUnresolved | .recover (.transition _) | .recover (.recordRecoveryDiagnostic _ _ _ _)
  | .recover (.reconcile _) => (.error .baseException, ⟨w.store, w.store :: w.past⟩)

theorem identityAnswer_exec (evidence : BrokerReconciliationResult) (i : IdentityRun) (w : IdentityWorld)
    (r : IdentityReq) : IdentityExec w i r (identityAnswer evidence w r).1 (identityAnswer evidence w r).2 := by
  cases r with
  | exec r =>
    cases r with
    | store op =>
      unfold identityAnswer
      dsimp only
      split
      · rename_i a s' happ
        exact .store op (.committed 5 happ)
      · exact .store op (.rolledBack _)
    | _ => exact .asked _ _ fun _ h => by cases h
  | recover r =>
    cases r with
    | listUnresolved => exact .recover _ (.unlisted _)
    | transition record => exact .recover _ (.transition record (.rolledBack _))
    | recordRecoveryDiagnostic key outcome state reason =>
      exact .recover _ (.diagnostic key outcome state reason (.rolledBack _))
    | reconcile q => exact .recover _ (.unreconciled q trivial)

def identityStale : Prog IdentityReq IdentityReq.Ans PyExc Unit × IdentityWorld :=
  match identityRun.prog with
  | .call r k => (k (identityAnswer (identityMatch none) identityWorld r).1,
      (identityAnswer (identityMatch none) identityWorld r).2)
  | p => (p, identityWorld)

def identityStored : IdentityWorld := (identityRun.prog.run (identityAnswer (identityMatch (some "42"))) identityStale.2).2

def identityLost : IdentityWorld := (identityStale.1.run (identityAnswer (identityMatch none)) identityStored).2

theorem identityLost_reachable : ∃ c, Reachable identitySystem IdentityRun.prog c ∧ c.world = identityLost := by
  have hinit : Reachable identitySystem IdentityRun.prog (.start identityWorld) := .init identityWorld_init
  have hread := (hinit.step (.spawn 0 identityRun rfl trivial)).step
    (.call (identityAnswer (identityMatch none) identityWorld _).1 (Config.setRun_self _ 0 identityRun _)
      (identityAnswer_exec _ _ _ _))
  have hother := hread.complete (n := 1) rfl (i := identityRun) trivial _
    (identityAnswer_exec (identityMatch (some "42")) _)
  exact ⟨_, Reachable.run _ (identityAnswer_exec (identityMatch none) _) _ hother (n := 0) rfl, rfl⟩

/-- **A contract that was stored is lost**: a match that names none is written over it, from a record read before. -/
theorem identity_lost : ∃ c, Reachable identitySystem IdentityRun.prog c ∧
    ∃ s ∈ c.world.past, ¬ IdKept s c.world.store := by
  obtain ⟨c, hc, hw⟩ := identityLost_reachable
  have hpast : identityLost.past.any (fun s => (s.row "k1").bind (·.orderId) == some "42") = true := by rfl
  have hnow : (identityLost.store.row "k1").bind (·.orderId) = none := by decide
  obtain ⟨s, hs, hid⟩ := List.any_eq_true.1 hpast
  refine ⟨c, hc, s, hw ▸ hs, fun hkept => ?_⟩
  rw [beq_iff_eq, Option.bind_eq_some_iff] at hid
  obtain ⟨row, hrow, hid⟩ := hid
  obtain ⟨row', hrow', hkept, _⟩ := hkept _ row hrow
  rw [hw] at hrow'
  rw [hrow', Option.bind_some, hkept _ hid] at hnow
  cases hnow

def noFinalAgain (w : IdentityWorld) (r : IdentityReq) : Bool :=
  r.transition?.all fun record => (w.store.row record.idempotencyKey).all fun row =>
    record.status != row.state || row.state.unresolved

theorem noFinalAgain_sound (w : IdentityWorld) (r : IdentityReq) (h : noFinalAgain w r = true) : NoFinalAgain w r := by
  intro record row hr hrow hst
  unfold noFinalAgain at h
  rw [hr, Option.all_some, hrow, Option.all_some, hst, bne_self_eq_false, Bool.false_or] at h
  exact h

theorem identity_kept_match : ∃ c, Reachable (identitySystem.meeting NoFinalAgain) IdentityRun.prog c ∧
    (c.world.store.row "k1").bind (·.orderId) = some "42" ∧ ∀ s ∈ c.world.past, IdKept s c.world.store := by
  have hinit : Reachable (identitySystem.meeting NoFinalAgain) IdentityRun.prog (.start identityWorld) :=
    .init identityWorld_init
  have hend := Config.run_of_checked (I := Reachable (identitySystem.meeting NoFinalAgain) IdentityRun.prog)
    (fun g r _ hg hn hr => hg.step (.call _ hn ⟨noFinalAgain_sound _ _ hr,
      identityAnswer_exec (identityMatch (some "42")) identityRun g.world r⟩)) _
    (hinit.step (.spawn 0 identityRun rfl trivial)) (Config.setRun_self _ 0 identityRun _) (by decide)
  exact ⟨_, hend, by decide, identity_kept hend⟩

end Jqe
