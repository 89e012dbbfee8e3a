import Jqe.CoroSys
import Jqe.ExecPhase
/-!
# ExecSystem — any number of submissions over one store and one broker

The world of concurrent `submit` runs, in any processes: the shared tables, the owner ids drawn so far, the log of
`gateway.submit_order` invocations, the log of their outcomes, the keys for which a reconciler confirmed a match, and
the broker.  A `Venue` says what the broker side may do and answer.
-/
namespace Jqe

open Coro

structure SentOrder where
  scope : String
  order : OrderRequest

structure ExecWorld (B : Type) where
  store : Store
  owners : List String
  sent : List SentOrder
  answers : List (OrderRequest × Except PyExc GatewayAnswer)
  confirmed : List (Option String)
  broker : B

structure Venue (B : Type) where
  positions : B → List PositionItem → Prop
  invoke : B → OrderRequest → B → Prop
  answer : B → OrderRequest → Except PyExc GatewayAnswer → B → Prop
  reconcile : B → ReconcileQuery → BrokerReconciliationResult → Prop
  tick : B → B → Prop
  contexts : SubmitCall → Option ExecutionContext → Prop
  admits : SubmitCall → Prop
  starts : Store → B → Prop
  /-- whether a store call may raise an `Exception` although its transaction was committed -/
  late : Prop

/-- One store call: it commits, raises rolled back, or raises although it committed. -/
inductive StoreExec (late : Prop) (s : Store) (op : StoreOp) : Except PyExc op.Ans → Store → Prop
  | committed (now : Int) {a : op.Ans} {s' : Store} (h : op.apply now s = .ok (a, s')) : StoreExec late s op (.ok a) s'
  | rolledBack (e : PyExc) : StoreExec late s op (.error e) s
  | lost (now : Int) {a : op.Ans} {s' : Store} (e : PyExc) (h : op.apply now s = .ok (a, s'))
      (hl : e.isException = true → late) : StoreExec late s op (.error e) s'

namespace ExecReq

/-- The requests that can raise without having done anything. -/
def quiet : ExecReq → Bool
  | uuid4 | contextProvider | getPositions | reconcile _ | beforeSubmit _ | afterSubmit _ => true
  | store _ | submitOrder _ | submitOrderResult _ => false

end ExecReq

/-- What `submit_order`'s answer or exception amounts to. -/
def outcomeOf : Except PyExc GatewayAnswer → Except PyExc OrderResult
  | .ok answer => AsyncTradeExecutor.gatewayOutcome answer
  | .error e => .error e

variable {B : Type}

inductive Exec (V : Venue B) (w : ExecWorld B) (c : SubmitCall) :
    (r : ExecReq) → Except PyExc r.Ans → ExecWorld B → Prop
  | drew (o : String) (hfresh : o ∉ w.owners) : Exec V w c .uuid4 (.ok o) { w with owners := o :: w.owners }
  | store (op : StoreOp) {ans : Except PyExc op.Ans} {s' : Store} (h : StoreExec V.late w.store op ans s') :
      Exec V w c (.store op) ans { w with store := s' }
  | provided (context : Option ExecutionContext) (h : V.contexts c context) : Exec V w c .contextProvider (.ok context) w
  | positions (items : List PositionItem) (h : V.positions w.broker items) : Exec V w c .getPositions (.ok items) w
  | reconciled (q : ReconcileQuery) (r : BrokerReconciliationResult) (h : V.reconcile w.broker q r) :
      Exec V w c (.reconcile q) (.ok r)
        { w with confirmed := if r.state = .confirmedMatch then q.idempotencyKey :: w.confirmed else w.confirmed }
  | before (decision : ExecutionDecision) : Exec V w c (.beforeSubmit decision) (.ok ()) w
  | after (result : ExecutionResult) : Exec V w c (.afterSubmit result) (.ok ()) w
  | invoked (order : OrderRequest) {b : B} (h : V.invoke w.broker order b) :
      Exec V w c (.submitOrder order) (.ok ()) { w with sent := ⟨c.scope, order⟩ :: w.sent, broker := b }
  | answered (order : OrderRequest) (ans : Except PyExc GatewayAnswer) {b : B} (h : V.answer w.broker order ans b) :
      Exec V w c (.submitOrderResult order) ans
        { w with answers := (order, ans) :: w.answers, broker := b }
  | raised (r : ExecReq) (e : PyExc) (hr : r.quiet = true) : Exec V w c r (.error e) w

/-- **The system of all submissions** of a deployment.  Owner ids are drawn fresh, as `uuid4` draws them. -/
def execSystem (V : Venue B) : System ExecReq ExecReq.Ans PyExc (ExecWorld B) SubmitCall where
  init w := V.starts w.store w.broker ∧ w.sent = [] ∧ w.answers = [] ∧ w.confirmed = [] ∧
    ∀ sc r, w.store.reservation sc = some r → r.ownerId ∈ w.owners
  admits := V.admits
  exec := Exec V
  tick w w' := ∃ b, V.tick w.broker b ∧ w' = { w with broker := b }

abbrev ExecConfig (B : Type) := Config ExecReq ExecReq.Ans PyExc ExecutionResult (ExecWorld B) SubmitCall

section
variable [CaseMap]

abbrev ExecReachable (V : Venue B) : ExecConfig B → Prop :=
  Reachable (execSystem V) AsyncTradeExecutor.submit

abbrev ExecGhost (B : Type) := Ghost (ExecWorld B) SubmitCall Phase

abbrev ExecReached (V : Venue B) : ExecGhost B → Prop := Reached (execSystem V) submitProtocol .idle

end

theorem started_before {g : Ghost (ExecWorld B) SubmitCall Phase} {m n : Nat} {i c : SubmitCall} {q : Phase}
    (hm : (g.setRun n i .idle).runs m = some (c, q)) (hq : q ≠ .idle) : g.runs m = some (c, q) := by
  rcases Ghost.setRun_cases hm with ⟨_, _, rfl⟩ | ⟨_, hold⟩
  · exact absurd rfl hq
  · exact hold

/-! ## What one request can change -/

theorem StoreOp.apply_rows {now : Int} {op : StoreOp} {s s' : Store} {a : op.Ans}
    (h : op.apply now s = .ok (a, s')) : (∀ k, s'.row k = s.row k) ∨ ∃ key r, s' = s.setRow key r := by
  cases op with
  | acquireReservation scope owner lease key =>
    rcases Store.acquireReservation_ok h with ⟨_, rfl⟩ | ⟨_, _, _, r, _, rfl⟩ <;> exact .inl fun _ => rfl
  | releaseReservation scope owner =>
    rcases Store.releaseReservation_ok h with ⟨_, rfl⟩ | ⟨_, rfl, _⟩ <;> exact .inl fun _ => rfl
  | tryClaimUnderReservation record scope owner =>
    rcases Store.tryClaimUnderReservation_ok h with ⟨_, rfl⟩ | ⟨_, _, _, rfl⟩
    · exact .inl fun _ => rfl
    · exact .inr ⟨_, _, rfl⟩
  | tryClaim record =>
    rcases Store.tryClaim_ok h with ⟨_, rfl⟩ | ⟨_, _, rfl⟩
    · exact .inl fun _ => rfl
    · exact .inr ⟨_, _, rfl⟩
  | get key =>
    obtain ⟨rfl, _⟩ := Store.get_ok h
    exact .inl fun _ => rfl
  | transition record =>
    rcases Store.transition_ok h with ⟨_, rfl⟩ | ⟨_, r, _, _, rfl⟩
    · exact .inl fun _ => rfl
    · exact .inr ⟨_, _, rfl⟩
  | recordRecoveryDiagnostic key outcome state reason =>
    rcases Store.recordRecoveryDiagnostic_ok h with ⟨_, rfl⟩ | ⟨_, r, _, rfl⟩
    · exact .inl fun _ => rfl
    · exact .inr ⟨_, _, rfl⟩

theorem StoreExec.row_isSome {late : Prop} {s s' : Store} {op : StoreOp} {ans : Except PyExc op.Ans}
    (h : StoreExec late s op ans s') (k : String) (hk : (s.row k).isSome) : (s'.row k).isSome := by
  have kept : ∀ {now a}, op.apply now s = .ok (a, s') → (s'.row k).isSome := by
    intro now a happ
    rcases StoreOp.apply_rows happ with hsame | ⟨key, r, rfl⟩
    · rw [hsame]
      exact hk
    · by_cases hkey : k = key
      · subst hkey
        simp
      · rwa [Store.row_setRow_of_ne _ _ hkey]
  cases h with
  | committed now happ => exact kept happ
  | rolledBack e => exact hk
  | lost now e happ hl => exact kept happ

theorem Exec.row_isSome {V : Venue B} {w w' : ExecWorld B} {c : SubmitCall} {r : ExecReq} {ans : Except PyExc r.Ans}
    (h : Exec V w c r ans w') (k : String) (hk : (w.store.row k).isSome) : (w'.store.row k).isSome := by
  cases h with
  | store op hs => exact hs.row_isSome k hk
  | _ => exact hk

theorem StoreExec.cases_ok {late : Prop} {s s' : Store} {op : StoreOp} {ans : Except PyExc op.Ans}
    (h : StoreExec late s op ans s') :
    (s' = s ∧ ∃ e, ans = .error e) ∨ ∃ now a, op.apply now s = .ok (a, s') ∧
      (ans = .ok a ∨ ∃ e, ans = .error e ∧ (e.isException = true → late)) := by
  cases h with
  | committed now happ => exact .inr ⟨now, _, happ, .inl rfl⟩
  | rolledBack e => exact .inl ⟨rfl, e, rfl⟩
  | lost now e happ hl => exact .inr ⟨now, _, happ, .inr ⟨e, rfl, hl⟩⟩

section
variable [CaseMap]

inductive Writes (late : Prop) (c : SubmitCall) : Phase → Phase → IntentRecord → Prop
  | confirm {o : String} {h : Held} {q' : Phase} {record : IntentRecord} (hc : h.confirmed = true)
      (hs : record.status = .accepted) : Writes late c (.held o h) q' record
  | doubt {o : String} {h : Held} {q' : Phase} {record : IntentRecord} (hs : record.status = .unknown)
      (hid : record.orderId = none) (htx : record.transactionId = none) : Writes late c (.held o h) q' record
  | settle {o : String} {order : OrderRequest} {out : Except PyExc OrderResult} {p : Option Bool}
      {record : IntentRecord} (hr : settlement c out = some record) (hp : p = some false → late) :
      Writes late c (.answered o order out) (.settled o order out p) record

def Unwritten (q q' : Phase) : Prop := ∀ o order out, q = .answered o order out → q' ≠ .settled o order out (some true)

def Store.HeldBy (s : Store) (scope owner : String) : Prop :=
  ∃ rsv, s.reservation scope = some rsv ∧ rsv.ownerId = owner

/-- **What a request of a run does to the row of its key**: a row is inserted only under the run's reservation. -/
inductive RowEffect (late : Prop) (c : SubmitCall) (s : Store) (q q' : Phase) (before after : Option IntentRow) : Prop
  | same (h : after = before) (hu : Unwritten q q')
  | claimed (o : String) (h : Held) (row : IntentRow) (hq : q = .held o h) (hb : before = none) (ha : after = some row)
      (hst : row.state = .pending) (hacc : row.accountId = some c.scope)
      (hids : row.orderId = none ∧ row.transactionId = none) (hp : passedOn c h)
      (hheld : s.HeldBy c.scope o) (hq' : q' = .claimed o ∨ ∃ h', q' = .held o h')
  | moved (row : IntentRow) (record : IntentRecord) (now : Int) (hb : before = some row)
      (hallowed : row.state.allowedFrom record.status = true)
      (ha : after = some { row with
        state := record.status, orderId := record.orderId, transactionId := record.transactionId, updatedAt := now })
      (hw : Writes late c q q' record)

omit [CaseMap] in
theorem settlement_key {c : SubmitCall} {out : Except PyExc OrderResult} {record : IntentRecord}
    (h : settlement c out = some record) : record.idempotencyKey = c.key := by
  unfold settlement at h
  split at h
  · cases h; rfl
  · cases h; rfl
  · cases h
  · split at h <;> cases h <;> rfl

variable {V : Venue B} {w w' : ExecWorld B} {c : SubmitCall} {q : Phase} {r : ExecReq} {ans : Except PyExc r.Ans}

omit [CaseMap] in
theorem Exec.store_eq (hx : Exec V w c r ans w') (hr : ∀ op, r ≠ .store op) : w'.store = w.store := by
  cases hx with
  | store op h => exact absurd rfl (hr op)
  | _ => rfl

omit [CaseMap] in
theorem Exec.store_exec {op : StoreOp} {ans : Except PyExc op.Ans} (hx : Exec V w c (.store op) ans w') :
    StoreExec V.late w.store op ans w'.store := by
  cases hx with
  | store _ h => exact h
  | raised _ e hr => cases hr

omit [CaseMap] in
theorem rowOf_claim {broker : Option String} {record : IntentRecord} (now : Int)
    (hr : IntentRecord.fromExecutionIntent c.intent .pending broker (some c.scope) = .ok record) :
    record.idempotencyKey = c.key ∧ ∀ row, row = Store.rowOf record now (some (Store.orText record.accountId c.scope)) →
      row.state = .pending ∧ row.accountId = some c.scope ∧ row.orderId = none ∧ row.transactionId = none := by
  obtain ⟨hkey, hst, hid, htx, hacc⟩ := IntentRecord.fromExecutionIntent_ok hr
  refine ⟨hkey, fun row hrow => ?_⟩
  subst hrow
  refine ⟨hst, ?_, hid, htx⟩
  rw [hacc]
  unfold Store.rowOf Store.orText
  split <;> simp_all

/-- **What a request does to the row of its run's key**, once for every request a phase allows. -/
theorem rowEffect (ha : Allowed c q r) (hx : Exec V w c r ans w') :
    RowEffect V.late c w.store q (phaseNext c q r ans) (w.store.row c.key) (w'.store.row c.key) := by
  cases ha with
  | acquire o =>
    refine .same ?_ fun _ _ _ hq => by cases hq
    rcases hx.store_exec.cases_ok with ⟨hs, _⟩ | ⟨now, a, happ, _⟩
    · rw [hs]
    · rcases Store.acquireReservation_ok happ with ⟨_, hs⟩ | ⟨_, _, _, rsv, _, hs⟩ <;> rw [hs]
      rfl
  | get o h =>
    refine .same ?_ fun _ _ _ hq => by cases hq
    rcases hx.store_exec.cases_ok with ⟨hs, _⟩ | ⟨now, a, happ, _⟩
    · rw [hs]
    · rw [(Store.get_ok happ).1]
  | confirm o h orderId transactionId hc =>
    rcases hx.store_exec.cases_ok with ⟨hs, _⟩ | ⟨now, a, happ, _⟩
    · exact .same (by rw [hs]) fun _ _ _ hq => by cases hq
    · rcases Store.transition_ok happ with ⟨_, hs⟩ | ⟨_, row, hrow, hallowed, hs⟩
      · exact .same (by rw [hs]) fun _ _ _ hq => by cases hq
      · exact .moved row _ now hrow hallowed (by rw [hs]; exact Store.row_setRow _ _ _) (.confirm hc rfl)
  | doubt o h =>
    rcases hx.store_exec.cases_ok with ⟨hs, _⟩ | ⟨now, a, happ, _⟩
    · exact .same (by rw [hs]) fun _ _ _ hq => by cases hq
    · rcases Store.transition_ok happ with ⟨_, hs⟩ | ⟨_, row, hrow, hallowed, hs⟩
      · exact .same (by rw [hs]) fun _ _ _ hq => by cases hq
      · exact .moved row _ now hrow hallowed (by rw [hs]; exact Store.row_setRow _ _ _) (.doubt rfl rfl rfl)
  | claim o h record broker hs hp hr =>
    have hkey := (rowOf_claim 0 hr).1
    rcases hx.store_exec.cases_ok with ⟨hs, _⟩ | ⟨now, a, happ, hans⟩
    · exact .same (by rw [hs]) fun _ _ _ hq => by cases hq
    · rcases Store.tryClaimUnderReservation_ok happ with ⟨_, hs⟩ | ⟨rfl, hnone, ⟨rsv, hrsv, hown, _⟩, hs⟩
      · exact .same (by rw [hs]) fun _ _ _ hq => by cases hq
      · rw [hkey] at hnone hs
        obtain ⟨hst, hacc, hids⟩ := (rowOf_claim now hr).2 _ rfl
        refine .claimed o h _ rfl hnone (by rw [hs]; exact Store.row_setRow _ _ _) hst hacc hids hp ⟨rsv, hrsv, hown⟩ ?_
        rcases hans with rfl | ⟨e, rfl, _⟩
        · exact .inl rfl
        · exact .inr ⟨_, rfl⟩
  | settle o order out record hr =>
    rcases hx.store_exec.cases_ok with ⟨hs, e, rfl⟩ | ⟨now, a, happ, hans⟩
    · exact .same (by rw [hs]) fun _ _ _ _ => by simp [phaseNext]
    · rcases Store.transition_ok happ with ⟨rfl, hs⟩ | ⟨rfl, row, hrow, hallowed, hs⟩
      · refine .same (by rw [hs]) fun _ _ _ _ => ?_
        rcases hans with rfl | ⟨e, rfl, _⟩
        · simp [phaseNext]
        · simp [phaseNext]
      · rw [settlement_key hr] at hrow hs
        refine .moved row record now hrow hallowed (by rw [hs]; exact Store.row_setRow _ _ _) ?_
        rcases hans with rfl | ⟨e, rfl, hl⟩
        · exact .settle hr (by simp)
        · refine .settle hr fun he => hl ?_
          by_contra hne
          rw [if_neg hne] at he
          cases he
  | release q o ho =>
    rw [AsyncTradeExecutor.phaseNext_release]
    refine .same ?_ fun _ _ _ hq h => by rw [hq] at h; cases h
    rcases hx.store_exec.cases_ok with ⟨hs, _⟩ | ⟨now, a, happ, _⟩
    · rw [hs]
    · rcases Store.releaseReservation_ok happ with ⟨_, hs⟩ | ⟨_, hs, _⟩ <;> rw [hs]
      rfl
  | after q result =>
    rw [AsyncTradeExecutor.phaseNext_after]
    exact .same (by rw [hx.store_eq (by simp)]) fun _ _ _ hq h => by rw [hq] at h; cases h
  | _ => exact .same (by rw [hx.store_eq (by simp)]) fun _ _ _ hq => by cases hq

theorem Exec.row_of_ne (ha : Allowed c q r) (hx : Exec V w c r ans w') {k : String} (hk : k ≠ c.key) :
    w'.store.row k = w.store.row k := by
  have transition : ∀ (record : IntentRecord) {ans : Except PyExc Bool}, record.idempotencyKey = c.key →
      Exec V w c (.store (.transition record)) ans w' → w'.store.row k = w.store.row k := by
    intro record ans hkey hx
    rcases hx.store_exec.cases_ok with ⟨hs, _⟩ | ⟨now, a, happ, _⟩
    · rw [hs]
    · rcases Store.transition_ok happ with ⟨_, hs⟩ | ⟨_, row, _, _, hs⟩
      · rw [hs]
      · rw [hs, hkey, Store.row_setRow_of_ne _ _ hk]
  cases ha with
  | acquire o =>
    rcases hx.store_exec.cases_ok with ⟨hs, _⟩ | ⟨now, a, happ, _⟩
    · rw [hs]
    · rcases Store.acquireReservation_ok happ with ⟨_, hs⟩ | ⟨_, _, _, rsv, _, hs⟩ <;> rw [hs]
      rfl
  | get o h =>
    rcases hx.store_exec.cases_ok with ⟨hs, _⟩ | ⟨now, a, happ, _⟩
    · rw [hs]
    · rw [(Store.get_ok happ).1]
  | confirm o h orderId transactionId hc => exact transition _ rfl hx
  | doubt o h => exact transition _ rfl hx
  | settle o order out record hr => exact transition _ (settlement_key hr) hx
  | claim o h record broker hs hp hr =>
    have hkey := (rowOf_claim 0 hr).1
    rcases hx.store_exec.cases_ok with ⟨hs, _⟩ | ⟨now, a, happ, _⟩
    · rw [hs]
    · rcases Store.tryClaimUnderReservation_ok happ with ⟨_, hs⟩ | ⟨_, _, _, hs⟩
      · rw [hs]
      · rw [hs, hkey, Store.row_setRow_of_ne _ _ hk]
  | release q o ho =>
    rcases hx.store_exec.cases_ok with ⟨hs, _⟩ | ⟨now, a, happ, _⟩
    · rw [hs]
    · rcases Store.releaseReservation_ok happ with ⟨_, hs⟩ | ⟨_, hs, _⟩ <;> rw [hs]
      rfl
  | _ => rw [hx.store_eq (by simp)]

end

end Jqe
