import Jqe.CoroEnds
import Jqe.PaperSafety
/-!
# PaperWedged — what a refused paper order leaves in the intent store

The cycles of one runtime after another, each run to its end, over an intent store whose transactions all commit, with a
log of the orders that the paper venue refused.  Everything else of a cycle is any.

An order that the venue refuses raises, which the executor takes for an unknown outcome.
-/
namespace Jqe

open Coro ContinuousPaperRuntime

/-- What the runtime has, its intent store, and the orders on which `submit_order` has raised, the latest first. -/
structure PaperDesk where
  paper : PaperWorld
  store : Store
  refused : List OrderRequest

def storeAnswer (now : Int) (op : StoreOp) (s : Store) : Except PyExc op.Ans × Store :=
  match op.apply now s with
  | .ok (a, s') => (.ok a, s')
  | .error e => (.error e, s)

/-- The requests that go to the intent store, and the answer of `submit_order`. -/
def PaperReq.durable : PaperReq → Bool
  | .venue _ (.store _) | .venue _ (.submitOrderResult _) => true
  | _ => false

variable [CaseMap]

/-- **What a request of a cycle may do.** -/
inductive DeskExec (d : PaperDesk) : (r : PaperReq) → Except PyExc r.Ans → PaperDesk → Prop
  | stored (g : PaperGateway) (op : StoreOp) (now : Int) :
      DeskExec d (.venue g (.store op)) (storeAnswer now op d.store).1 { d with store := (storeAnswer now op d.store).2 }
  | accepted (g : PaperGateway) (order : OrderRequest) {result : OrderResult} {e : PaperContractEngine}
      (h : g.submitOrder order (d.paper.engine 0) = (.ok result, e)) :
      DeskExec d (.venue g (.submitOrderResult order)) (.ok (.result result)) { d with paper := d.paper.setEngine 0 e }
  | refused (g : PaperGateway) (order : OrderRequest) {exc : PyExc} {e : PaperContractEngine}
      (h : g.submitOrder order (d.paper.engine 0) = (.error exc, e)) :
      DeskExec d (.venue g (.submitOrderResult order)) (.error exc)
        { d with paper := d.paper.setEngine 0 e, refused := order :: d.refused }
  | other {r : PaperReq} {ans : Except PyExc r.Ans} {paper : PaperWorld} (hr : r.durable = false)
      (h : PaperExec d.paper ⟨0⟩ r ans paper) : DeskExec d r ans { d with paper := paper }

variable [CaseFold] [ExcClass]

/-- **The desks that sequences of cycles reach**, from an empty intent store; a restart begins with any memory. -/
inductive PaperCyclesReach : PaperDesk → Prop
  | start (paper : PaperWorld) : PaperCyclesReach ⟨paper, .empty, []⟩
  | restart {d : PaperDesk} (h : PaperCyclesReach d) (paper : PaperWorld) : PaperCyclesReach { d with paper := paper }
  | cycle {d d' : PaperDesk} {out : Except PyExc PaperRuntimeHeartbeat} (h : PaperCyclesReach d)
      (hr : Ends DeskExec runOnce d out d') : PaperCyclesReach d'

/-- **No intent stands in the way**: none is PENDING or UNKNOWN, and no intent with a new key is refused for another. -/
def Store.Unwedged (s : Store) : Prop :=
  (∀ key row, s.row key = some row → row.state ≠ .pending ∧ row.state ≠ .unknown) ∧
    ∀ (now lease : Int) (scope owner key : String) (s' : Store), s.row key = none →
      Store.acquireReservation now scope owner lease key s ≠ .ok (.unresolvedIntent, s')

end Jqe

namespace Jqe

open Coro Prog ContinuousPaperRuntime AsyncTradeExecutor

/-! ## The venue -/

theorem blank_contractId (key : String) : blank (paperContractId key) = false := by
  have hchars : (paperContractId key).toList = 'P' :: ("APER-C-".toList ++ key.toList) := by
    unfold paperContractId
    rw [String.toList_append]
    rfl
  exact blank_of_head hchars (by decide)

/-- An exception that says nothing of a rejection, or none. -/
def OnlyException {α : Type} (out : Except PyExc α) : Prop := ∀ exc, out = .error exc → ∃ message, exc = .exception message

theorem onlyException_ok {α : Type} (a : α) : OnlyException (.ok a) := fun _ h => by cases h

theorem onlyException_error {α : Type} (message : String) :
    OnlyException (.error (.exception message) : Except PyExc α) := fun _ h => ⟨message, by cases h; rfl⟩

theorem validateStake_only (specification : PaperContractSpecification) (stake : ℚ) :
    OnlyException (specification.validateStake stake) := by
  unfold PaperContractSpecification.validateStake
  split
  · exact onlyException_error _
  · split
    · exact onlyException_error _
    · split
      · exact onlyException_error _
      · exact onlyException_ok _

theorem propose_only (e : PaperContractEngine) (key : String) (side : OrderSide) (stake stopLoss takeProfit : ℚ)
    (o : ClosedMarketObservation) (entry : Option ℚ) :
    OnlyException (e.propose key side stake stopLoss takeProfit o entry).1 := by
  have hstake := validateStake_only e.specification stake
  unfold PaperContractEngine.propose
  split
  · next exc hexc =>
    obtain ⟨message, rfl⟩ := hstake exc hexc
    exact onlyException_error message
  · dsimp only
    split
    · exact onlyException_error _
    · split
      · exact onlyException_error _
      · split
        · exact onlyException_error _
        · unfold PaperContractEngine.register
          split
          · split
            · exact onlyException_error _
            · exact onlyException_ok _
          · exact onlyException_ok _

theorem proposeOrder_only (g : PaperGateway) (order : OrderRequest) (e : PaperContractEngine) :
    OnlyException (g.proposeOrder order e).1 := by
  have hstake := validateStake_only e.specification order.quantity.value
  unfold PaperGateway.proposeOrder
  split
  · exact onlyException_error _
  · split
    · exact propose_only e _ _ _ _ _ _ _
    · split
      · next exc hexc =>
        obtain ⟨message, rfl⟩ := hstake exc hexc
        exact onlyException_error message
      · exact onlyException_error _

section

variable [CaseMap]

/-- **What `submit_order` answers**: a filled order with an identity, or an exception that says nothing of a rejection. -/
theorem submitOrder_answer (g : PaperGateway) (order : OrderRequest) (e : PaperContractEngine) :
    OnlyException (g.submitOrder order e).1 ∧
      ∀ result, (g.submitOrder order e).1 = .ok result → result.status = .filled ∧ blank result.orderId = false := by
  have hpropose := proposeOrder_only g order e
  unfold PaperGateway.submitOrder
  split
  · exact ⟨onlyException_error _, fun _ h => by cases h⟩
  · split
    · next exc e' hexc =>
      rw [hexc] at hpropose
      obtain ⟨message, rfl⟩ := hpropose exc rfl
      exact ⟨onlyException_error message, fun _ h => by cases h⟩
    · next proposal e' _ =>
      unfold PaperGateway.fill
      split
      · exact ⟨onlyException_error _, fun _ h => by cases h⟩
      · unfold PaperContractEngine.open_
        dsimp only
        by_cases hopen : (e'.positions.get? (paperContractId proposal.idempotencyKey)).isSome = true
        · simp only [hopen, if_true]
          exact ⟨onlyException_error _, fun _ h => by cases h⟩
        · simp only [hopen]
          refine ⟨onlyException_ok _, fun _ h => ?_⟩
          cases h
          exact ⟨rfl, blank_contractId _⟩

/-! ## The requests of a submission -/

def SubmitExec (g : PaperGateway) (d : PaperDesk) (r : ExecReq) (ans : Except PyExc r.Ans) (d' : PaperDesk) : Prop :=
  Ends DeskExec (ContinuousPaperRuntime.ask (.venue g r)) d ans d'

variable {g : PaperGateway} {d d' : PaperDesk}

theorem SubmitExec.store {op : StoreOp} {ans : Except PyExc op.Ans} (h : SubmitExec g d (.store op) ans d') :
    ∃ now, ans = (storeAnswer now op d.store).1 ∧ d' = { d with store := (storeAnswer now op d.store).2 } := by
  have hx := ends_perform.1 h
  cases hx with
  | stored _ _ now => exact ⟨now, rfl, rfl⟩
  | other hr => cases hr

theorem DeskExec.quiet {r : PaperReq} {ans : Except PyExc r.Ans} (h : DeskExec d r ans d') (hr : r.durable = false) :
    d'.store = d.store ∧ d'.refused = d.refused := by
  cases h with
  | stored => cases hr
  | accepted => cases hr
  | refused => cases hr
  | other => exact ⟨rfl, rfl⟩

theorem SubmitExec.quiet {r : ExecReq} {ans : Except PyExc r.Ans} (h : SubmitExec g d r ans d')
    (hr : (PaperReq.venue g r).durable = false) : d'.store = d.store ∧ d'.refused = d.refused :=
  (ends_perform.1 h).quiet hr

theorem SubmitExec.invoked {order : OrderRequest} {ans : Except PyExc Unit}
    (h : SubmitExec g d (.submitOrder order) ans d') : ans = .ok () := by
  have hx := ends_perform.1 h
  cases hx with
  | other hr hx =>
    cases hx with
    | venue _ _ hg =>
      cases hg
      rfl
    | store _ _ _ hg => cases hg

theorem SubmitExec.answered {order : OrderRequest} {ans : Except PyExc GatewayAnswer}
    (h : SubmitExec g d (.submitOrderResult order) ans d') : d'.store = d.store ∧
      ((∃ result, ans = .ok (.result result) ∧ result.status = .filled ∧ blank result.orderId = false ∧
          d'.refused = d.refused) ∨
        ∃ message, ans = .error (.exception message) ∧ d'.refused = order :: d.refused) := by
  have hx := ends_perform.1 h
  obtain ⟨honly, hfilled⟩ := submitOrder_answer g order (d.paper.engine 0)
  cases hx with
  | accepted _ _ hsubmit =>
    rw [hsubmit] at hfilled
    obtain ⟨hstatus, hid⟩ := hfilled _ rfl
    exact ⟨rfl, .inl ⟨_, rfl, hstatus, hid, rfl⟩⟩
  | refused _ _ hsubmit =>
    rw [hsubmit] at honly
    obtain ⟨message, rfl⟩ := honly _ rfl
    exact ⟨rfl, .inr ⟨message, rfl, rfl⟩⟩
  | other hr => cases hr

/-! ## What the intent store holds -/

/-- No row but perhaps that of a key is unresolved. -/
def Store.ResolvedBut (s : Store) (key : String) : Prop :=
  ∀ k row, s.row k = some row → k ≠ key → row.state.unresolved = false

def Store.Resolved (s : Store) : Prop := ∀ k row, s.row k = some row → row.state.unresolved = false

/-- **The store counts the refusals**: all is resolved without one, and an UNKNOWN row stands after one. -/
def RefusalsCounted (s : Store) (refused : List OrderRequest) : Prop :=
  (refused = [] → s.Resolved) ∧ (refused ≠ [] → ∃ key row, s.row key = some row ∧ row.state = .unknown)

/-- A key is claimed and not settled. -/
structure PendingFor (key : String) (s : Store) : Prop where
  nonblank : blank key = false
  pending : ∃ row record, s.row key = some row ∧ row.state = .pending ∧ Store.decode key row = .ok record
  others : s.ResolvedBut key

omit [CaseMap] in
theorem refusalsCounted_of_resolved {s : Store} (h : s.Resolved) : RefusalsCounted s [] := ⟨fun _ => h, fun hne => absurd rfl hne⟩

omit [CaseMap] in
theorem storeAnswer_ok {now : Int} {op : StoreOp} {s s' : Store} {a : op.Ans} (h : op.apply now s = .ok (a, s')) :
    storeAnswer now op s = (.ok a, s') := by
  unfold storeAnswer
  rw [h]

omit [CaseMap] in
theorem PendingFor.transition {key : String} {s : Store} (h : PendingFor key s) (now : Int)
    {status : IntentRecordStatus} (hstatus : status ≠ .pending) (orderId transactionId : Option String) :
    ∃ row s', storeAnswer now (.transition { idempotencyKey := key, status, orderId, transactionId }) s =
        (.ok true, s') ∧ s'.row key = some row ∧ row.state = status ∧ s'.ResolvedBut key := by
  obtain ⟨row, record, hrow, hpending, hdecode⟩ := h.pending
  have hallowed : record.status.allowedFrom status = true := by
    rw [(Store.decode_ok hdecode).2.1, hpending]
    exact (IntentRecordStatus.allowedFrom_iff _ _).2 (.inl ⟨rfl, hstatus⟩)
  refine ⟨_, _, storeAnswer_ok (?_ : Store.transition now _ s = .ok (true, s.setRow key
    { row with state := status, orderId := orderId, transactionId := transactionId, updatedAt := now })),
    Store.row_setRow _ _ _, rfl, fun k row' hrow' hk => ?_⟩
  · unfold Store.transition Store.validateKey
    simp only [h.nonblank, hrow, hdecode, Bool.false_eq_true, if_false]
    exact if_pos hallowed
  · rw [Store.row_setRow_of_ne _ _ hk] at hrow'
    exact h.others k row' hrow' hk

omit [CaseMap] in
theorem decode_claim {intent : ExecutionIntent} {broker accountId account : Option String} {record : IntentRecord}
    (h : IntentRecord.fromExecutionIntent intent .pending broker accountId = .ok record) (key : String) (now : Int) :
    ∃ read, Store.decode key (Store.rowOf record now account) = .ok read := by
  unfold IntentRecord.fromExecutionIntent at h
  split at h
  · cases h
  · next side hside =>
    cases h
    have hside' : OrderSide.ofText? (SideValue.member side).raw = some side := OrderSide.ofText?_value side
    unfold Store.decode Store.decodeQuantity Store.decodeSide Store.rowOf
    cases intent.quantity with
    | none =>
      simp only [Option.map_none, Option.map_some, hside']
      exact ⟨_, rfl⟩
    | some quantity =>
      simp only [Option.map_some, Option.bind_some, ExecutionQuantityUnit.ofText?_value, hside',
        ExecutionQuantity.build?_self]
      exact ⟨_, rfl⟩

/-! ## A submission -/

theorem order_of_allowed {c : SubmitCall} {context : Option ExecutionContext}
    (h : (ExecutionPolicy.evaluate c.intent context).allowed = true) : ∃ order, c.order? = some order := by
  obtain ⟨context, -, hpassed⟩ := ExecutionPolicy.evaluate_allowed h
  obtain ⟨side, hside⟩ := Option.isSome_iff_exists.1 hpassed.direction
  have hquantity : ∃ quantity, c.intent.quantity = some quantity := by
    have hproblem := hpassed.quantity
    unfold ExecutionPolicy.quantityProblem at hproblem
    split at hproblem
    · cases hproblem
    · split at hproblem
      · cases hproblem
      · next quantity hquantity => exact ⟨quantity, hquantity⟩
  have hprices : ∃ sl tp, c.intent.stopLoss = .fin sl ∧ c.intent.takeProfit = .fin tp ∧ 0 < sl ∧ 0 < tp := by
    have hproblem := hpassed.price
    unfold ExecutionPolicy.priceProblem at hproblem
    split at hproblem
    · cases hproblem
    · next hfinite =>
      simp only [List.all_cons, List.all_nil, Bool.not_eq_true', Bool.not_eq_false, Bool.and_eq_true] at hfinite
      obtain ⟨-, ⟨hsl, hslpos⟩, ⟨htp, htppos⟩, -⟩ := hfinite
      obtain ⟨sl, hsl⟩ := (PyFloat.isFinite_iff _).1 hsl
      obtain ⟨tp, htp⟩ := (PyFloat.isFinite_iff _).1 htp
      rw [hsl] at hslpos
      rw [htp] at htppos
      exact ⟨sl, tp, hsl, htp, of_decide_eq_true hslpos, of_decide_eq_true htppos⟩
  obtain ⟨quantity, hquantity⟩ := hquantity
  obtain ⟨sl, tp, hsl, htp, hpos⟩ := hprices
  unfold SubmitCall.order?
  rw [hside, hquantity]
  dsimp only
  unfold OrderRequest.market?
  rw [hsl, htp]
  exact ⟨_, dif_pos hpos⟩

variable {P : PaperDesk → Prop} {α : Type}

theorem Ensures.attempt {p : ExecProg α} {R : Except PyExc α → PaperDesk → Prop}
    {Q : Except PyExc (Option α) → PaperDesk → Prop} (hp : Ensures (SubmitExec g) P p R)
    (hok : ∀ a d, R (.ok a) d → Q (.ok (some a)) d)
    (herror : ∀ e d, R (.error e) d → Q (.ok none) d ∧ Q (.error e) d) :
    Ensures (SubmitExec g) P (AsyncTradeExecutor.attempt p) Q := by
  have hmap : Ensures (SubmitExec g) P (some <$> p) fun out d => match out with
      | .ok a => Q (.ok a) d
      | .error e => R (.error e) d := by
    refine Ensures.bind hp (fun a => ensures_pure fun d hd => hok a d hd) fun e d hd => hd
  refine hmap.bindAny fun mid => ?_
  cases mid with
  | ok a => exact ensures_pure fun d hd => hd
  | error e =>
    dsimp only
    split
    · exact ensures_pure fun d hd => (herror e d hd).1
    · exact ensures_raise fun d hd => (herror e d hd).2

variable {T : Store → List OrderRequest → Prop} {c : SubmitCall}

theorem ensures_quiet {r : ExecReq} (hr : (PaperReq.venue g r).durable = false) :
    Ensures (SubmitExec g) (fun d => T d.store d.refused) (AsyncTradeExecutor.ask r) fun _ d => T d.store d.refused := by
  refine ensures_perform fun d ans d' hT hx => ?_
  obtain ⟨hstore, hrefused⟩ := SubmitExec.quiet hx hr
  rw [hstore, hrefused]
  exact hT

def ReadyUnknown (key : String) (out : Except PyExc ReconciliationResult) (d : PaperDesk) : Prop :=
  ∀ result, out = .ok result → result.state = .readyToSubmit → d.store.row key = none

theorem ensures_unready {U : PaperDesk → Prop} {result : ReconciliationResult}
    (hU : ∀ d, U d → T d.store d.refused) (hstate : result.state ≠ .readyToSubmit) :
    Ensures (SubmitExec g) U (pure result) fun out d => T d.store d.refused ∧ ReadyUnknown c.key out d := by
  refine ensures_pure fun d hd => ⟨hU d hd, fun result' h hready => ?_⟩
  cases h
  exact absurd hready hstate

theorem ensures_reconcileWith (hc : c.hasReconciler = false) (positions : Option (List PositionItem))
    (record : Option IntentRecord) :
    Ensures (SubmitExec g) (fun d => T d.store d.refused ∧ (record = none → d.store.row c.key = none))
      (reconcileWith c positions record) fun out d => T d.store d.refused ∧ ReadyUnknown c.key out d := by
  have hread : Ensures (SubmitExec g) (fun d => T d.store d.refused ∧ (record = none → d.store.row c.key = none))
      (AsyncTradeExecutor.attempt (AsyncTradeExecutor.ask .getPositions)) fun _ d =>
        T d.store d.refused ∧ (record = none → d.store.row c.key = none) :=
    Ensures.attempt (ensures_quiet (T := fun s l => T s l ∧ (record = none → s.row c.key = none)) rfl)
      (fun _ _ h => h) fun _ _ h => ⟨h, h⟩
  have hT : ∀ d : PaperDesk, T d.store d.refused ∧ (record = none → d.store.row c.key = none) →
      T d.store d.refused := fun d hd => hd.1
  unfold reconcileWith
  split
  · exact ensures_unready hT (by simp)
  · split
    · exact ensures_unready hT (by simp)
    · cases positions
      case' none => refine Ensures.bind hread (fun observed => ?_) fun e d hd => ⟨hd.1, fun result h => by cases h⟩
      case' some items =>
        refine Ensures.bind (ensures_pure (R := fun _ d => T d.store d.refused ∧
          (record = none → d.store.row c.key = none)) fun d hd => hd) (fun observed => ?_)
          fun e d hd => ⟨hd.1, fun result h => by cases h⟩
      all_goals
        dsimp only
        split
        · exact ensures_unready hT (by simp)
        · split
          · exact ensures_unready hT (by simp)
          · split
            · split
              · exact ensures_unready hT (by simp)
              · split
                · exact ensures_unready hT (by simp)
                · exact ensures_pure fun d hd => ⟨hd.1, fun _ _ _ => hd.2 rfl⟩
            · next record =>
              unfold reconcileRecord
              rw [hc]
              simp only [Bool.not_false, if_true]
              exact ensures_unready hT (by dsimp only; split <;> simp)

/-- **A reconciliation without a reconciler** changes nothing, and is ready only where the key has no row. -/
theorem ensures_reconcile (hc : c.hasReconciler = false) (positions : Option (List PositionItem)) :
    Ensures (SubmitExec g) (fun d => T d.store d.refused) (reconcile c positions) fun out d =>
      T d.store d.refused ∧ ReadyUnknown c.key out d := by
  have hget : Ensures (SubmitExec g) (fun d => T d.store d.refused) (AsyncTradeExecutor.attempt (store (.get c.key)))
      fun out d => T d.store d.refused ∧ ∀ record, out = .ok (some record) → record = none → d.store.row c.key = none := by
    refine Ensures.attempt (R := fun out d => T d.store d.refused ∧
      ∀ record, out = .ok record → record = none → d.store.row c.key = none) (ensures_perform fun d ans d' hT hx => ?_)
      (fun record d hd => ⟨hd.1, fun record' h => hd.2 record' (by cases h; rfl)⟩)
      (fun e d hd => ⟨⟨hd.1, fun record h => by cases h⟩, hd.1, fun record h => by cases h⟩)
    obtain ⟨now, rfl, rfl⟩ := SubmitExec.store hx
    unfold storeAnswer
    cases happly : StoreOp.apply now (.get c.key) d.store with
    | error e => exact ⟨hT, fun record h => by cases h⟩
    | ok out =>
      obtain ⟨found, s'⟩ := out
      obtain ⟨rfl, hfound⟩ := Store.get_ok happly
      refine ⟨hT, fun record h hnone => ?_⟩
      cases h
      subst hnone
      rcases hfound with ⟨-, hrow⟩ | ⟨_, _, h, -⟩
      · exact hrow
      · cases h
  unfold reconcile
  refine Ensures.bind hget (fun found => ?_) fun e d hd => ⟨hd.1, fun result h => by cases h⟩
  cases found with
  | none => exact ensures_unready (fun d hd => hd.1) (by simp)
  | some record =>
    exact (ensures_reconcileWith hc positions record).imp (fun d hd => ⟨hd.1, hd.2 record rfl⟩) fun _ _ h => h

end

end Jqe
