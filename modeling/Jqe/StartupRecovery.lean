import Jqe.CoroEnds
import Jqe.RecordKept
/-!
# StartupRecovery — `StartupRecoveryService` (`execution/recovery.py`)

`recover` as a program over the store and a reconciler.  The store is written by nobody else while it runs; a write may
fail before or after its commit, or be refused.
-/
namespace Jqe

open List
open Store (decode decodeQuantity decodeSide decode_ok)

inductive StartupRecoveryOutcome where
  | resolvedAccepted
  | resolvedRejected
  | remainsUnknown
  | malformedRecord
  | scopeMismatch
  | reconciliationUnavailable
  | reconciliationError
  | persistenceError
  deriving DecidableEq

def StartupRecoveryOutcome.value : StartupRecoveryOutcome → String
  | resolvedAccepted => "RESOLVED_ACCEPTED"
  | resolvedRejected => "RESOLVED_REJECTED"
  | remainsUnknown => "REMAINS_UNKNOWN"
  | malformedRecord => "MALFORMED_RECORD"
  | scopeMismatch => "SCOPE_MISMATCH"
  | reconciliationUnavailable => "RECONCILIATION_UNAVAILABLE"
  | reconciliationError => "RECONCILIATION_ERROR"
  | persistenceError => "PERSISTENCE_ERROR"

def BrokerReconciliationState.value : BrokerReconciliationState → String
  | confirmedMatch => "CONFIRMED_MATCH"
  | confirmedAbsence => "CONFIRMED_ABSENCE"
  | ambiguous => "AMBIGUOUS"
  | unavailable => "UNAVAILABLE"

structure StartupRecoveryResult where
  idempotencyKey : String
  outcome : StartupRecoveryOutcome
  reason : String
  deriving DecidableEq

def StartupRecoveryResult.resolved (r : StartupRecoveryResult) : Bool :=
  r.outcome == .resolvedAccepted || r.outcome == .resolvedRejected

structure StartupRecoverySummary where
  results : List StartupRecoveryResult

def StartupRecoverySummary.unresolvedCount (s : StartupRecoverySummary) : Nat := s.results.countP (!·.resolved)

inductive RecoverReq where
  | listUnresolved
  | transition (record : IntentRecord)
  | recordRecoveryDiagnostic (key recoveryOutcome : String) (reconciliationState : Option String)
      (recoveryReason : String)
  | reconcile (q : ReconcileQuery)

@[reducible] def RecoverReq.Ans : RecoverReq → Type
  | listUnresolved => List IntentRecord
  | transition _ | recordRecoveryDiagnostic .. => Bool
  | reconcile _ => BrokerReconciliationResult

abbrev RecoverProg := Coro.Prog RecoverReq RecoverReq.Ans PyExc

structure StartupRecoveryService where
  broker : String
  accountId : String

namespace StartupRecoveryService

open Coro Prog

def ask (r : RecoverReq) : RecoverProg r.Ans := perform r

/-- `try: … except Exception as exc: …`. -/
def guarded {α : Type} (p : RecoverProg α) (handler : PyExc → RecoverProg α) : RecoverProg α :=
  tryCatch p fun e => if e.isException then handler e else .raise e

def result (record : IntentRecord) (outcome : StartupRecoveryOutcome) (reason : String) : StartupRecoveryResult :=
  ⟨record.idempotencyKey, outcome, reason⟩

def remainUnresolved (record : IntentRecord) (outcome : StartupRecoveryOutcome) (reason : String) :
    RecoverProg StartupRecoveryResult :=
  if record.status = .pending then
    guarded (do
      let moved ← ask (.transition { record with status := .unknown })
      if !moved then
        return result record .persistenceError "Ambiguous PENDING state could not be persisted as UNKNOWN"
      else return result record outcome reason)
      fun e => return result record .persistenceError e.str
  else return result record outcome reason

def persistedRecord (record : IntentRecord) (status : IntentRecordStatus) (evidence : BrokerReconciliationResult) :
    IntentRecord :=
  let orderId := match evidence.evidence with
    | some e => pyOr (pyOr record.orderId e.orderId) e.contractId
    | none => record.orderId
  let transactionId := match evidence.evidence with
    | some e => pyOr record.transactionId e.transactionId
    | none => record.transactionId
  { record with
    status
    orderId := if status = .accepted then pyOr orderId evidence.contractId else none
    transactionId := pyOr transactionId evidence.transactionId }

def persist (record : IntentRecord) (status : IntentRecordStatus) (outcome : StartupRecoveryOutcome)
    (evidence : BrokerReconciliationResult) : RecoverProg StartupRecoveryResult :=
  guarded (do
    let persisted ← ask (.transition (persistedRecord record status evidence))
    if !persisted then return result record .persistenceError "Recovered terminal outcome could not be persisted"
    else return result record outcome evidence.reason)
    fun e => return result record .persistenceError e.str

variable [CaseMap]

/-- The persisted broker and account are those of the service. -/
def inScope (svc : StartupRecoveryService) (record : IntentRecord) : Bool :=
  (record.broker.any fun b => b ≠ "" && CaseMap.lower (strip b) = CaseMap.lower (strip svc.broker)) &&
    record.accountId.any fun a => a ≠ "" && strip a = strip svc.accountId

def query (record : IntentRecord) (intent : ExecutionIntent) : ReconcileQuery where
  orderId := record.orderId
  transactionId := record.transactionId
  symbol := some intent.symbol
  idempotencyKey := some intent.idempotencyKey

omit [CaseMap] in
/-- The part of `_recover_record` after the reconciler answered. -/
def recoverAnswered (record : IntentRecord) (evidence : BrokerReconciliationResult) :
    RecoverProg StartupRecoveryResult :=
  match evidence.state with
  | .unavailable => remainUnresolved record .reconciliationUnavailable evidence.reason
  | .confirmedMatch => persist record .accepted .resolvedAccepted evidence
  | .confirmedAbsence => persist record .rejected .resolvedRejected evidence
  | .ambiguous => remainUnresolved record .remainsUnknown evidence.reason

def recoverRecord (svc : StartupRecoveryService) (record : IntentRecord) :
    RecoverProg (StartupRecoveryResult × Option String) :=
  match record.toExecutionIntent with
  | .error _ => return (result record .malformedRecord "Persisted intent payload is invalid", none)
  | .ok none => return (result record .malformedRecord "Canonical execution intent payload is incomplete", none)
  | .ok (some intent) =>
    if !svc.inScope record then
      return (result record .scopeMismatch "Persisted broker/account scope does not match startup scope", none)
    else do
      let evidence ← guarded (some <$> ask (.reconcile (query record intent))) fun _ => pure none
      match evidence with
      | none =>
        let r ← remainUnresolved record .reconciliationError "Recovery reconciliation failed"
        return (r, some "ERROR")
      | some evidence =>
        let r ← recoverAnswered record evidence
        return (r, some evidence.state.value)

def recoverOne (svc : StartupRecoveryService) (record : IntentRecord) : RecoverProg StartupRecoveryResult := do
  let (r, state) ← svc.recoverRecord record
  let published ← guarded (ask (.recordRecoveryDiagnostic record.idempotencyKey r.outcome.value state r.reason))
    fun _ => return false
  if !published then return result record .persistenceError "Recovery diagnostic could not be persisted"
  else return r

def recoverEach (svc : StartupRecoveryService) : List IntentRecord → RecoverProg (List StartupRecoveryResult)
  | [] => return []
  | record :: records => do
    let r ← svc.recoverOne record
    let rest ← svc.recoverEach records
    return r :: rest

def recover (svc : StartupRecoveryService) : RecoverProg StartupRecoverySummary := do
  let records ← ask .listUnresolved
  let results ← svc.recoverEach records
  return ⟨results⟩

end StartupRecoveryService

structure RecoveryWorld where
  store : Store
  answers : List (ReconcileQuery × BrokerReconciliationResult)

abbrev Reconciler := ReconcileQuery → Except PyExc BrokerReconciliationResult → Prop

inductive RecoverExec (R : Reconciler) (w : RecoveryWorld) :
    (r : RecoverReq) → Except PyExc r.Ans → RecoveryWorld → Prop
  | listed {records : List IntentRecord} (h : w.store.listUnresolved = .ok records) :
      RecoverExec R w .listUnresolved (.ok records) w
  | unlisted (e : PyExc) : RecoverExec R w .listUnresolved (.error e) w
  | transition (record : IntentRecord) {ans : Except PyExc Bool} {s' : Store}
      (h : StoreExec True w.store (.transition record) ans s') :
      RecoverExec R w (.transition record) ans { w with store := s' }
  | transitionRefused (record : IntentRecord) : RecoverExec R w (.transition record) (.ok false) w
  | diagnostic (key outcome : String) (state : Option String) (reason : String) {ans : Except PyExc Bool} {s' : Store}
      (h : StoreExec True w.store (.recordRecoveryDiagnostic key outcome state reason) ans s') :
      RecoverExec R w (.recordRecoveryDiagnostic key outcome state reason) ans { w with store := s' }
  | diagnosticRefused (key outcome : String) (state : Option String) (reason : String) :
      RecoverExec R w (.recordRecoveryDiagnostic key outcome state reason) (.ok false) w
  | reconciled (q : ReconcileQuery) {r : BrokerReconciliationResult} (h : R q (.ok r)) :
      RecoverExec R w (.reconcile q) (.ok r) { w with answers := (q, r) :: w.answers }
  | unreconciled (q : ReconcileQuery) {e : PyExc} (h : R q (.error e)) : RecoverExec R w (.reconcile q) (.error e) w

/-- **Only one row changed**, and its payload did not. -/
structure OneRow (s s' : Store) (key : String) (row row' : IntentRow) : Prop where
  before : s.row key = some row
  after : s'.row key = some row'
  others : ∀ k ≠ key, s'.row k = s.row k
  payload : row'.payload = row.payload

namespace OneRow

theorem refl {s : Store} {key : String} {row : IntentRow} (h : s.row key = some row) : OneRow s s key row row :=
  ⟨h, h, fun _ _ => rfl, rfl⟩

theorem trans {s s' s'' : Store} {key : String} {row row' row'' : IntentRow} (h : OneRow s s' key row row')
    (h' : OneRow s' s'' key row' row'') : OneRow s s'' key row row'' where
  before := h.before
  after := h'.after
  others k hk := (h'.others k hk).trans (h.others k hk)
  payload := h'.payload.trans h.payload

theorem setRow {s : Store} {key : String} {row row' : IntentRow} (h : s.row key = some row)
    (hp : row'.payload = row.payload) : OneRow s (s.setRow key row') key row row' where
  before := h
  after := Store.row_setRow _ _ _
  others _ hk := Store.row_setRow_of_ne _ _ hk
  payload := hp

end OneRow

structure Written (record : IntentRecord) (row : IntentRow) : Prop where
  state : row.state = record.status
  orderId : row.orderId = record.orderId
  transactionId : row.transactionId = record.transactionId

/-- **What a run of recovery leaves of an unresolved row**: it stays unresolved with its identifiers, or it leaves on
a confirmation of the reconciler. -/
inductive RecordRecovered [CaseMap] (svc : StartupRecoveryService)
    (answers : List (ReconcileQuery × BrokerReconciliationResult)) (key : String) (row row' : IntentRow) : Prop
  | stays (hstate : row'.state.unresolved = true) (hid : row'.orderId = row.orderId)
      (htx : row'.transactionId = row.transactionId)
  | leaves {record : IntentRecord} {intent : ExecutionIntent} {evidence : BrokerReconciliationResult}
      (hrecord : decode key row = .ok record) (hintent : record.toExecutionIntent = .ok (some intent))
      (hscope : svc.inScope record = true)
      (hanswer : (StartupRecoveryService.query record intent, evidence) ∈ answers)
      (hstate : (evidence.state = .confirmedMatch ∧ row'.state = .accepted) ∨
        (evidence.state = .confirmedAbsence ∧ row'.state = .rejected))

theorem RecordRecovered.mono [CaseMap] {svc : StartupRecoveryService}
    {answers answers' : List (ReconcileQuery × BrokerReconciliationResult)} {key : String} {row row' : IntentRow}
    (h : RecordRecovered svc answers key row row') (hsub : answers ⊆ answers') :
    RecordRecovered svc answers' key row row' := by
  cases h with
  | stays hstate hid htx => exact .stays hstate hid htx
  | leaves hrecord hintent hscope hanswer hstate => exact .leaves hrecord hintent hscope (hsub hanswer) hstate

variable {R : Reconciler} {w w' : RecoveryWorld} {record : IntentRecord} {row : IntentRow}

theorem RecoverExec.transition_row {ans : Except PyExc Bool} (h : RecoverExec R w (.transition record) ans w')
    (hrow : w.store.row record.idempotencyKey = some row) :
    w'.answers = w.answers ∧ ∃ row', OneRow w.store w'.store record.idempotencyKey row row' ∧
      (Written record row' ∨ (row' = row ∧ ans ≠ .ok true)) := by
  have kept : w'.store = w.store → ans ≠ .ok true → ∃ row', OneRow w.store w'.store record.idempotencyKey row row' ∧
      (Written record row' ∨ (row' = row ∧ ans ≠ .ok true)) :=
    fun hs hans => ⟨row, by rw [hs]; exact .refl hrow, .inr ⟨rfl, hans⟩⟩
  cases h with
  | transitionRefused => exact ⟨rfl, kept rfl (by simp)⟩
  | transition _ hx =>
    refine ⟨rfl, ?_⟩
    rcases hx.cases_ok with ⟨hs, e, rfl⟩ | ⟨now, a, happ, hans⟩
    · exact kept hs (by simp)
    · rcases Store.transition_ok happ with ⟨rfl, hs⟩ | ⟨_, r, hr, _, rfl⟩
      · refine kept hs ?_
        rcases hans with rfl | ⟨e, rfl, _⟩ <;> simp
      · obtain rfl := Option.some.inj (hrow.symm.trans hr)
        exact ⟨_, .setRow hrow rfl, .inl ⟨rfl, rfl, rfl⟩⟩

theorem RecoverExec.diagnostic_row {key outcome reason : String} {state : Option String} {ans : Except PyExc Bool}
    (h : RecoverExec R w (.recordRecoveryDiagnostic key outcome state reason) ans w')
    (hrow : w.store.row key = some row) :
    w'.answers = w.answers ∧ ∃ row', OneRow w.store w'.store key row row' ∧ row'.state = row.state ∧
      row'.orderId = row.orderId ∧ row'.transactionId = row.transactionId := by
  cases h with
  | diagnosticRefused => exact ⟨rfl, row, .refl hrow, rfl, rfl, rfl⟩
  | diagnostic _ _ _ _ hx =>
    refine ⟨rfl, ?_⟩
    rcases hx.cases_ok with ⟨rfl, _⟩ | ⟨now, a, happ, _⟩
    · exact ⟨row, .refl hrow, rfl, rfl, rfl⟩
    · rcases Store.recordRecoveryDiagnostic_ok happ with ⟨_, rfl⟩ | ⟨_, r, hr, rfl⟩
      · exact ⟨row, .refl hrow, rfl, rfl, rfl⟩
      · obtain rfl := Option.some.inj (hrow.symm.trans hr)
        exact ⟨_, .setRow hrow rfl, rfl, rfl, rfl⟩

namespace StartupRecoveryService

open Coro Prog

theorem guarded_ok {α : Type} {p : RecoverProg α} {handler : PyExc → RecoverProg α} {a : α}
    (h : Ends (RecoverExec R) (guarded p handler) w (.ok a) w') :
    Ends (RecoverExec R) p w (.ok a) w' ∨
      ∃ e w₁, Ends (RecoverExec R) p w (.error e) w₁ ∧ Ends (RecoverExec R) (handler e) w₁ (.ok a) w' := by
  rcases h.tryCatch_ok with h | ⟨e, w₁, hp, h⟩
  · exact .inl h
  · split at h
    · exact .inr ⟨e, w₁, hp, h⟩
    · cases h

variable {r : StartupRecoveryResult}

theorem guarded_transition (record : IntentRecord) {done refused : StartupRecoveryResult}
    {failed : PyExc → StartupRecoveryResult} (h : Ends (RecoverExec R) (guarded (do
      let moved ← ask (.transition record)
      if !moved then return refused else return done) fun e => return failed e) w (.ok r) w')
    (hrow : w.store.row record.idempotencyKey = some row) :
    w'.answers = w.answers ∧ ∃ row', OneRow w.store w'.store record.idempotencyKey row row' ∧
      ((r = done ∧ Written record row') ∨
        ((r = refused ∨ ∃ e, r = failed e) ∧ (row' = row ∨ Written record row'))) := by
  rcases guarded_ok h with h | ⟨e, w₁, hp, h⟩
  · obtain ⟨moved, w₁, hx, h⟩ := h.bind_ok
    obtain ⟨hanswers, row', hone, hrow'⟩ := (ends_perform.1 hx).transition_row hrow
    cases moved with
    | true =>
      obtain ⟨hr, rfl⟩ := ends_pure.1 h
      cases hr
      rcases hrow' with hw | ⟨_, hne⟩
      · exact ⟨hanswers, row', hone, .inl ⟨rfl, hw⟩⟩
      · exact absurd rfl hne
    | false =>
      obtain ⟨hr, rfl⟩ := ends_pure.1 h
      cases hr
      exact ⟨hanswers, row', hone, .inr ⟨.inl rfl, hrow'.symm.imp_left And.left⟩⟩
  · obtain ⟨hr, rfl⟩ := ends_pure.1 h
    cases hr
    rcases ends_bind.1 hp with ⟨moved, w₂, _, hp⟩ | ⟨e', _, hx⟩
    · cases moved <;> simp at hp
    · obtain ⟨hanswers, row', hone, hrow'⟩ := (ends_perform.1 hx).transition_row hrow
      exact ⟨hanswers, row', hone, .inr ⟨.inr ⟨e, rfl⟩, hrow'.symm.imp_left And.left⟩⟩

theorem remainUnresolved_ends {outcome : StartupRecoveryOutcome} {reason : String}
    (h : Ends (RecoverExec R) (remainUnresolved record outcome reason) w (.ok r) w')
    (hrow : w.store.row record.idempotencyKey = some row) (hdec : decode record.idempotencyKey row = .ok record)
    (hu : row.state.unresolved = true) (ho : (result record outcome reason).resolved = false) :
    w'.answers = w.answers ∧ r.resolved = false ∧ ∃ row', OneRow w.store w'.store record.idempotencyKey row row' ∧
      row'.state.unresolved = true ∧ row'.orderId = row.orderId ∧ row'.transactionId = row.transactionId := by
  obtain ⟨_, _, hid, htx⟩ := decode_ok hdec
  unfold remainUnresolved at h
  split at h
  · obtain ⟨hanswers, row', hone, hr⟩ := guarded_transition { record with status := .unknown } h hrow
    refine ⟨hanswers, ?_, row', hone, ?_⟩
    · rcases hr with ⟨rfl, _⟩ | ⟨rfl | ⟨e, rfl⟩, _⟩
      · exact ho
      · rfl
      · rfl
    · have kept : row' = row ∨ Written { record with status := .unknown } row' := by
        rcases hr with ⟨_, hw⟩ | ⟨_, hw⟩
        · exact .inr hw
        · exact hw
      rcases kept with rfl | hw
      · exact ⟨hu, rfl, rfl⟩
      · exact ⟨by rw [hw.state]; rfl, hw.orderId.trans hid, hw.transactionId.trans htx⟩
  · obtain ⟨hr, rfl⟩ := ends_pure.1 h
    cases hr
    exact ⟨rfl, ho, row, .refl hrow, hu, rfl, rfl⟩

theorem persist_ends {status : IntentRecordStatus} {outcome : StartupRecoveryOutcome}
    {evidence : BrokerReconciliationResult}
    (h : Ends (RecoverExec R) (persist record status outcome evidence) w (.ok r) w')
    (hrow : w.store.row record.idempotencyKey = some row) :
    w'.answers = w.answers ∧ ∃ row', OneRow w.store w'.store record.idempotencyKey row row' ∧
      (row' = row ∧ r.resolved = false ∨ row'.state = status) := by
  obtain ⟨hanswers, row', hone, hr⟩ := guarded_transition (persistedRecord record status evidence) h hrow
  refine ⟨hanswers, row', hone, ?_⟩
  rcases hr with ⟨_, hw⟩ | ⟨hr, rfl | hw⟩
  · exact .inr hw.state
  · refine .inl ⟨rfl, ?_⟩
    rcases hr with rfl | ⟨e, rfl⟩ <;> rfl
  · exact .inr hw.state

variable [CaseMap] {svc : StartupRecoveryService}

/-- What is left of a record's row when its result is `r`. -/
structure Left (svc : StartupRecoveryService) (w w' : RecoveryWorld) (record : IntentRecord) (row row' : IntentRow)
    (r : StartupRecoveryResult) : Prop where
  one : OneRow w.store w'.store record.idempotencyKey row row'
  recovered : RecordRecovered svc w'.answers record.idempotencyKey row row'
  resolved : r.resolved = true → row'.state.unresolved = false
  answers : w.answers ⊆ w'.answers

theorem recoverAnswered_ends {evidence : BrokerReconciliationResult} {intent : ExecutionIntent}
    (h : Ends (RecoverExec R) (recoverAnswered record evidence) w (.ok r) w')
    (hrow : w.store.row record.idempotencyKey = some row) (hdec : decode record.idempotencyKey row = .ok record)
    (hu : row.state.unresolved = true) (hintent : record.toExecutionIntent = .ok (some intent))
    (hscope : svc.inScope record = true) (hanswer : (query record intent, evidence) ∈ w.answers) :
    ∃ row', Left svc w w' record row row' r := by
  have remained : ∀ {outcome reason}, Ends (RecoverExec R) (remainUnresolved record outcome reason) w (.ok r) w' →
      (result record outcome reason).resolved = false → ∃ row', Left svc w w' record row row' r := by
    intro outcome reason h ho
    obtain ⟨hanswers, hr, row', hone, hu', hid, htx⟩ := remainUnresolved_ends h hrow hdec hu ho
    exact ⟨row', hone, .stays hu' hid htx, fun hres => (by rw [hr] at hres; cases hres), by rw [hanswers]; simp⟩
  have persisted : ∀ {status outcome}, Ends (RecoverExec R) (persist record status outcome evidence) w (.ok r) w' →
      (evidence.state = .confirmedMatch ∧ status = .accepted) ∨
        (evidence.state = .confirmedAbsence ∧ status = .rejected) → ∃ row', Left svc w w' record row row' r := by
    intro status outcome h hs
    obtain ⟨hanswers, row', hone, ⟨rfl, hr⟩ | hst⟩ := persist_ends h hrow
    · exact ⟨_, hone, .stays hu rfl rfl, fun hres => (by rw [hr] at hres; cases hres), by rw [hanswers]; simp⟩
    · refine ⟨row', hone, .leaves hdec hintent hscope (hanswers ▸ hanswer) (by rw [hst]; exact hs), fun _ => ?_,
        by rw [hanswers]; simp⟩
      rcases hs with ⟨_, rfl⟩ | ⟨_, rfl⟩ <;> rw [hst] <;> rfl
  unfold recoverAnswered at h
  split at h
  · exact remained h rfl
  · rename_i hst
    exact persisted h (.inl ⟨hst, rfl⟩)
  · rename_i hst
    exact persisted h (.inr ⟨hst, rfl⟩)
  · exact remained h rfl

theorem recoverRecord_ends {r : StartupRecoveryResult × Option String}
    (h : Ends (RecoverExec R) (svc.recoverRecord record) w (.ok r) w')
    (hrow : w.store.row record.idempotencyKey = some row) (hdec : decode record.idempotencyKey row = .ok record)
    (hu : row.state.unresolved = true) : ∃ row', Left svc w w' record row row' r.1 := by
  have untouched : ∀ {outcome reason state}, (result record outcome reason).resolved = false →
      Ends (RecoverExec R) (pure (result record outcome reason, state)) w (.ok r) w' →
      ∃ row', Left svc w w' record row row' r.1 := by
    intro outcome reason state ho h
    obtain ⟨hr, rfl⟩ := ends_pure.1 h
    cases hr
    exact ⟨row, .refl hrow, .stays hu rfl rfl, fun hres => (by rw [ho] at hres; cases hres), List.Subset.refl _⟩
  unfold recoverRecord at h
  split at h
  · exact untouched rfl h
  · exact untouched rfl h
  · rename_i intent hintent
    split at h
    · exact untouched rfl h
    · rename_i hscope
      rw [Bool.not_eq_true', Bool.not_eq_false] at hscope
      obtain ⟨answer, w₁, hguarded, h⟩ := h.bind_ok
      rcases guarded_ok hguarded with hmapped | ⟨e, w₀, hmapped, hnone⟩
      · -- the reconciler answered
        obtain ⟨evidence, w₀, hasked, hpure⟩ := hmapped.bind_ok
        obtain ⟨hanswer, rfl⟩ := ends_pure.1 hpure
        cases hanswer
        obtain ⟨r', w₂, hr, hpure⟩ := h.bind_ok
        obtain ⟨hr', rfl⟩ := ends_pure.1 hpure
        cases hr'
        cases ends_perform.1 hasked with
        | reconciled q hR =>
          obtain ⟨row', hone, hrec, hres, hsub⟩ :=
            recoverAnswered_ends hr hrow hdec hu hintent hscope mem_cons_self
          exact ⟨row', hone, hrec, hres, List.Subset.trans (subset_cons_self _ _) hsub⟩
      · -- it raised
        obtain ⟨hanswer, rfl⟩ := ends_pure.1 hnone
        cases hanswer
        obtain ⟨r', w₂, hr, hpure⟩ := h.bind_ok
        obtain ⟨hr', rfl⟩ := ends_pure.1 hpure
        cases hr'
        rcases ends_bind.1 hmapped with ⟨a, w₃, _, hpure⟩ | ⟨e', _, hasked⟩
        · cases hpure
        · cases ends_perform.1 hasked with
          | unreconciled q hR =>
            obtain ⟨hanswers, hres, row', hone, hu', hid, htx⟩ := remainUnresolved_ends hr hrow hdec hu rfl
            exact ⟨row', hone, .stays hu' hid htx, fun hres' => (by rw [hres] at hres'; cases hres'),
              by rw [hanswers]; simp⟩

omit [CaseMap] in
theorem published_ends {key outcome reason : String} {state : Option String} {b : Bool}
    (h : Ends (RecoverExec R) (guarded (ask (.recordRecoveryDiagnostic key outcome state reason)) fun _ => return false)
      w (.ok b) w') (hrow : w.store.row key = some row) :
    w'.answers = w.answers ∧ ∃ row', OneRow w.store w'.store key row row' ∧ row'.state = row.state ∧
      row'.orderId = row.orderId ∧ row'.transactionId = row.transactionId := by
  rcases guarded_ok h with h | ⟨e, w₁, hx, h⟩
  · exact (ends_perform.1 h).diagnostic_row hrow
  · obtain ⟨_, rfl⟩ := ends_pure.1 h
    exact (ends_perform.1 hx).diagnostic_row hrow

theorem recoverOne_ends (h : Ends (RecoverExec R) (svc.recoverOne record) w (.ok r) w')
    (hrow : w.store.row record.idempotencyKey = some row) (hdec : decode record.idempotencyKey row = .ok record)
    (hu : row.state.unresolved = true) : ∃ row', Left svc w w' record row row' r := by
  obtain ⟨⟨r₁, state⟩, w₁, hr, h⟩ := h.bind_ok
  obtain ⟨published, w₂, hp, h⟩ := h.bind_ok
  obtain ⟨row₁, hone, hrec, hres, hsub⟩ := recoverRecord_ends hr hrow hdec hu
  obtain ⟨hanswers, row₂, hone', hst, hid, htx⟩ := published_ends hp hone.after
  have hrec' : RecordRecovered svc w₂.answers record.idempotencyKey row row₂ := by
    cases hrec with
    | stays hu' hid' htx' => exact .stays (by rw [hst]; exact hu') (hid.trans hid') (htx.trans htx')
    | leaves hrecord hintent hscope hanswer hstate =>
      exact .leaves hrecord hintent hscope (hanswers ▸ hanswer) (by rw [hst]; exact hstate)
  cases published with
  | true =>
    obtain ⟨hr, rfl⟩ := ends_pure.1 h
    cases hr
    exact ⟨row₂, hone.trans hone', hrec', fun hres' => hst ▸ hres hres', hanswers ▸ hsub⟩
  | false =>
    obtain ⟨hr, rfl⟩ := ends_pure.1 h
    cases hr
    exact ⟨row₂, hone.trans hone', hrec', fun hres' => (by cases hres'), hanswers ▸ hsub⟩

theorem recoverEach_ends {records : List IntentRecord} {results : List StartupRecoveryResult}
    (h : Ends (RecoverExec R) (svc.recoverEach records) w (.ok results) w')
    (hnodup : (records.map (·.idempotencyKey)).Nodup)
    (hrows : ∀ record ∈ records, ∃ row, w.store.row record.idempotencyKey = some row ∧
      decode record.idempotencyKey row = .ok record ∧ row.state.unresolved = true) :
    w.answers ⊆ w'.answers ∧ (∀ k ∉ records.map (·.idempotencyKey), w'.store.row k = w.store.row k) ∧
      ∃ still : List String, still.length ≤ results.countP (!·.resolved) ∧
        ∀ record ∈ records, ∃ row row', w.store.row record.idempotencyKey = some row ∧
          w'.store.row record.idempotencyKey = some row' ∧ row'.payload = row.payload ∧
          RecordRecovered svc w'.answers record.idempotencyKey row row' ∧
          (row'.state.unresolved = true → record.idempotencyKey ∈ still) := by
  induction records generalizing w results with
  | nil =>
    obtain ⟨hres, rfl⟩ := ends_pure.1 h
    cases hres
    exact ⟨List.Subset.refl _, fun _ _ => rfl, [], Nat.le_refl _, by simp⟩
  | cons record records ih =>
    obtain ⟨r, w₁, hone, h⟩ := h.bind_ok
    obtain ⟨rest, w₂, hrest, h⟩ := h.bind_ok
    obtain ⟨hres, rfl⟩ := ends_pure.1 h
    cases hres
    rw [map_cons, nodup_cons] at hnodup
    obtain ⟨row, hrow, hdec, hu⟩ := hrows record mem_cons_self
    obtain ⟨row', hleft⟩ := recoverOne_ends hone hrow hdec hu
    -- the rows of the records to come are still as they were listed
    have hlater : ∀ later ∈ records, w₁.store.row later.idempotencyKey = w.store.row later.idempotencyKey :=
      fun later hlater => hleft.one.others _ fun heq => hnodup.1 (heq ▸ mem_map_of_mem hlater)
    obtain ⟨hsub, hothers, still, hlen, hall⟩ := ih hrest hnodup.2 fun later hl => by
      rw [hlater later hl]
      exact hrows later (mem_cons_of_mem _ hl)
    refine ⟨List.Subset.trans hleft.answers hsub, fun k hk => ?_, if r.resolved then still else record.idempotencyKey :: still,
      ?_, fun later hl => ?_⟩
    · rw [map_cons, mem_cons, not_or] at hk
      rw [hothers k hk.2, hleft.one.others k hk.1]
    · rw [countP_cons]
      cases r.resolved <;> simp <;> omega
    · rcases mem_cons.1 hl with rfl | hl
      · refine ⟨row, row', hrow, ?_, hleft.one.payload, hleft.recovered.mono hsub, fun hu' => ?_⟩
        · rw [hothers _ hnodup.1]
          exact hleft.one.after
        · cases hres : r.resolved with
          | true =>
            rw [hleft.resolved hres] at hu'
            cases hu'
          | false => exact mem_cons_self
      · obtain ⟨row₁, row₂, h₁, h₂, hp, hrec, hmem⟩ := hall later hl
        refine ⟨row₁, row₂, hlater later hl ▸ h₁, h₂, hp, hrec, fun hu' => ?_⟩
        split
        · exact hmem hu'
        · exact mem_cons_of_mem _ (hmem hu')

omit [CaseMap] in
theorem decode_of_payload {key : String} {row row' : IntentRow} {record : IntentRecord}
    (h : decode key row = .ok record) (hp : row'.payload = row.payload) :
    ∃ record', decode key row' = .ok record' := by
  have hside : row'.side = row.side := congrArg IntentPayload.side hp
  have hvalue : row'.quantityValue = row.quantityValue := congrArg IntentPayload.quantityValue hp
  have hunit : row'.quantityUnit = row.quantityUnit := congrArg IntentPayload.quantityUnit hp
  have hq : decodeQuantity row' = decodeQuantity row := by rw [decodeQuantity, hvalue, hunit]; rfl
  have hs : decodeSide row' = decodeSide row := by rw [decodeSide, hside]; rfl
  obtain ⟨quantity, hquantity, h⟩ := bind_ok h
  obtain ⟨side, hside', _⟩ := bind_ok h
  exact ⟨_, by rw [decode, hq, hs, hquantity, hside']; rfl⟩

/-- **What `recover` leaves**: of every stored row, and of the unresolved ones no more than it counts. -/
theorem recover_ends {summary : StartupRecoverySummary}
    (h : Ends (RecoverExec R) svc.recover w (.ok summary) w') :
    (∀ key row, w.store.row key = some row → ∃ row', w'.store.row key = some row' ∧
      (row.state.unresolved = true → RecordRecovered svc w'.answers key row row') ∧
      (row.state.unresolved = false → row' = row)) ∧
    ∃ still, w'.store.listUnresolved = .ok still ∧ still.length ≤ summary.unresolvedCount := by
  obtain ⟨records, w₁, hlist, h⟩ := h.bind_ok
  obtain ⟨results, w₂, heach, h⟩ := h.bind_ok
  obtain ⟨hsummary, rfl⟩ := ends_pure.1 h
  cases hsummary
  cases ends_perform.1 hlist with
  | listed hlisted =>
    obtain ⟨hnodup, hrecords, hrows⟩ := Store.listUnresolved_ok hlisted
    obtain ⟨_, hothers, still, hlen, hall⟩ := recoverEach_ends heach hnodup hrecords
    have hfinal : ∀ key row, w.store.row key = some row → ∃ row', w'.store.row key = some row' ∧
        row'.payload = row.payload ∧ (row.state.unresolved = false → row' = row) ∧
        (row.state.unresolved = true → RecordRecovered svc w'.answers key row row') ∧
        (row'.state.unresolved = true → key ∈ still) := by
      intro key row hrow
      by_cases hk : key ∈ records.map (·.idempotencyKey)
      · obtain ⟨record, hr, rfl⟩ := mem_map.1 hk
        obtain ⟨row₀, row', h₀, h', hp, hrec, hstill⟩ := hall record hr
        obtain rfl := Option.some.inj (hrow.symm.trans h₀)
        obtain ⟨row₁, h₁, _, hu⟩ := hrecords record hr
        obtain rfl := Option.some.inj (hrow.symm.trans h₁)
        exact ⟨row', h', hp, fun hu' => (by rw [hu] at hu'; cases hu'), fun _ => hrec, hstill⟩
      · obtain ⟨record, hd, hin⟩ := hrows key row hrow
        have hnot : row.state.unresolved ≠ true := fun hu =>
          hk (mem_map.2 ⟨record, hin hu, (decode_ok hd).1⟩)
        exact ⟨row, by rw [hothers key hk, hrow], rfl, fun _ => rfl, fun hu => absurd hu hnot, fun hu => absurd hu hnot⟩
    have hback : ∀ key row', w'.store.row key = some row' → ∃ row, w.store.row key = some row := by
      intro key row' hrow'
      by_cases hk : key ∈ records.map (·.idempotencyKey)
      · obtain ⟨record, hr, rfl⟩ := mem_map.1 hk
        obtain ⟨row, hrow, _⟩ := hrecords record hr
        exact ⟨row, hrow⟩
      · exact ⟨row', by rw [← hothers key hk, hrow']⟩
    refine ⟨fun key row hrow => ?_, ?_⟩
    · obtain ⟨row', hrow', _, hsame, hrec, _⟩ := hfinal key row hrow
      exact ⟨row', hrow', hrec, hsame⟩
    · have hreadable : ∀ key row', w'.store.row key = some row' → ∃ record, decode key row' = .ok record := by
        intro key row' hrow'
        obtain ⟨row, hrow⟩ := hback key row' hrow'
        obtain ⟨row'', hrow'', hp, _⟩ := hfinal key row hrow
        obtain rfl := Option.some.inj (hrow'.symm.trans hrow'')
        obtain ⟨record, hd, _⟩ := hrows key row hrow
        exact decode_of_payload hd hp
      obtain ⟨left, hleft⟩ := Store.listUnresolved_of_decode hreadable
      refine ⟨left, hleft, le_trans ?_ hlen⟩
      obtain ⟨hnodup', hleft', _⟩ := Store.listUnresolved_ok hleft
      have hsub : left.map (·.idempotencyKey) ⊆ still := by
        intro key hkey
        obtain ⟨record, hr, rfl⟩ := mem_map.1 hkey
        obtain ⟨row', hrow', _, hu⟩ := hleft' record hr
        obtain ⟨row, hrow⟩ := hback _ row' hrow'
        obtain ⟨row'', hrow'', _, _, _, hmem⟩ := hfinal _ row hrow
        obtain rfl := Option.some.inj (hrow'.symm.trans hrow'')
        exact hmem hu
      have hle := (subperm_of_subset hnodup' hsub).length_le
      rwa [length_map] at hle

end StartupRecoveryService

open Coro

/-- **Startup recovery is fail-closed**: whatever is stored, whatever the reconciler does and whichever writes fail or
are refused, a record leaves `PENDING`/`UNKNOWN` only on a confirmation of its own query, and no record that is still
unresolved goes uncounted. -/
theorem recovery_fail_closed [CaseMap] {R : Reconciler} {svc : StartupRecoveryService} {s : Store}
    {summary : StartupRecoverySummary} {w' : RecoveryWorld}
    (h : Ends (RecoverExec R) svc.recover ⟨s, []⟩ (.ok summary) w') :
    (∀ key row, s.row key = some row → row.state.unresolved = true →
      ∃ row', w'.store.row key = some row' ∧ RecordRecovered svc w'.answers key row row') ∧
    (∀ key row, s.row key = some row → row.state.unresolved = false → w'.store.row key = some row) ∧
    (∃ still, w'.store.listUnresolved = .ok still ∧ still.length ≤ summary.unresolvedCount) ∧
    (summary.unresolvedCount = 0 → w'.store.listUnresolved = .ok []) := by
  obtain ⟨hrows, still, hstill, hlen⟩ := StartupRecoveryService.recover_ends h
  refine ⟨fun key row hrow hu => ?_, fun key row hrow hu => ?_, ⟨still, hstill, hlen⟩, fun hzero => ?_⟩
  · obtain ⟨row', hrow', hrec, _⟩ := hrows key row hrow
    exact ⟨row', hrow', hrec hu⟩
  · obtain ⟨row', hrow', _, hsame⟩ := hrows key row hrow
    rw [hrow', hsame hu]
  · rw [hzero, Nat.le_zero, List.length_eq_zero_iff] at hlen
    rw [hstill, hlen]

section

local instance recoveryCase : CaseMap := asciiCase

def recoveryRow : IntentRow :=
  Store.rowOf {
    idempotencyKey := "k1", status := .pending, symbol := some "PAINX1200", side := some (.member .buy)
    quantity := some ⟨1 / 100, .mt5Lots, by decide +kernel⟩, entry := some (.fin 1000), stopLoss := some (.fin 990)
    takeProfit := some (.fin 1020), authorizedRiskAmount := some (.fin 10), expectedLossAtStop := some (.fin 5)
    broker := some "MT5 " } 0 (some "1001")

def recoveryService : StartupRecoveryService := ⟨"mt5", "1001"⟩

def recoveryEvidence : BrokerReconciliationResult := ⟨.confirmedMatch, "matched", none, none, none⟩

def recoveryAnswer (w : RecoveryWorld) : (r : RecoverReq) → Except PyExc r.Ans × RecoveryWorld
  | .listUnresolved => (.error .baseException, w)
  | .transition record =>
    match Store.transition 5 record w.store with
    | .ok (moved, s') => (.ok moved, { w with store := s' })
    | .error e => (.error e, w)
  | .recordRecoveryDiagnostic key outcome state reason =>
    match Store.recordRecoveryDiagnostic key outcome state reason w.store with
    | .ok (moved, s') => (.ok moved, { w with store := s' })
    | .error e => (.error e, w)
  | .reconcile q => (.ok recoveryEvidence, { w with answers := (q, recoveryEvidence) :: w.answers })

theorem recoveryAnswer_exec (w : RecoveryWorld) (r : RecoverReq) :
    RecoverExec (fun _ ans => ans = .ok recoveryEvidence) w r (recoveryAnswer w r).1 (recoveryAnswer w r).2 := by
  cases r with
  | listUnresolved => exact .unlisted _
  | transition record =>
    simp only [recoveryAnswer]
    split
    · rename_i h
      exact .transition record (.committed 5 h)
    · exact .transition record (.rolledBack _)
  | recordRecoveryDiagnostic key outcome state reason =>
    simp only [recoveryAnswer]
    split
    · rename_i h
      exact .diagnostic key outcome state reason (.committed 5 h)
    · exact .diagnostic key outcome state reason (.rolledBack _)
  | reconcile q => exact .reconciled q rfl

def recoveryRecord : IntentRecord :=
  match decode "k1" recoveryRow with
  | .ok record => record
  | .error _ => { idempotencyKey := "k1", status := .pending }

/-- A pending record that the broker confirms. -/
theorem recovery_fail_closed_match :
    ((recoveryService.recoverEach [recoveryRecord]).run recoveryAnswer
      ⟨Store.empty.setRow "k1" recoveryRow, []⟩).2.store.listUnresolved = .ok [] := by
  have hlist : (Store.empty.setRow "k1" recoveryRow).listUnresolved = .ok [recoveryRecord] := by
    unfold Store.listUnresolved
    rw [show (Store.empty.setRow "k1" recoveryRow).intents.entries = [⟨"k1", recoveryRow⟩] from rfl,
      List.mergeSort_singleton]
    decide +kernel
  have hrun := Ends.of_run recoveryAnswer recoveryAnswer_exec (recoveryService.recoverEach [recoveryRecord])
    ⟨Store.empty.setRow "k1" recoveryRow, []⟩
  have hout : ((recoveryService.recoverEach [recoveryRecord]).run recoveryAnswer
      ⟨Store.empty.setRow "k1" recoveryRow, []⟩).1 = .ok [⟨"k1", .resolvedAccepted, "matched"⟩] := by decide +kernel
  rw [hout] at hrun
  have hends : Ends (RecoverExec fun _ ans => ans = .ok recoveryEvidence) recoveryService.recover
      ⟨Store.empty.setRow "k1" recoveryRow, []⟩ (.ok ⟨[⟨"k1", .resolvedAccepted, "matched"⟩]⟩) _ :=
    ends_bind.2 (.inl ⟨_, _, ends_perform.2 (.listed hlist),
      ends_bind.2 (.inl ⟨_, _, hrun, ends_pure.2 ⟨rfl, rfl⟩⟩)⟩)
  exact (recovery_fail_closed hends).2.2.2 rfl

end

end Jqe
