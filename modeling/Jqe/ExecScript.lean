import Jqe.ExecSystem
import Mathlib.Algebra.Order.BigOperators.Group.List
import Mathlib.Algebra.Order.Ring.Nat
/-!
# ExecScript — deterministic environments, to run submissions by evaluation

A script fixes every choice of the environment: one clock, one context, and the broker's answers as functions of its
state.  A run under a script that a venue permits is a run of the venue's system (`Script.reachable`).
-/
namespace Jqe

open Coro

def freshOwner (owners : List String) : String :=
  String.ofList (List.replicate ((owners.map fun o => o.toList.length).sum + 1) 'o')

theorem freshOwner_not_mem (owners : List String) : freshOwner owners ∉ owners := by
  intro h
  have hle : (freshOwner owners).toList.length ≤ (owners.map fun o => o.toList.length).sum :=
    List.single_le_sum (fun n _ => Nat.zero_le n) _ (List.mem_map_of_mem h)
  simp [freshOwner] at hle

structure Script (B : Type) where
  now : Int
  context : Option ExecutionContext
  positions : B → Except PyExc (List PositionItem)
  reconcile : B → ReconcileQuery → Except PyExc BrokerReconciliationResult
  invoke : B → OrderRequest → B
  answer : B → OrderRequest → Except PyExc GatewayAnswer × B

namespace Script

variable {B : Type}

def handle (s : Script B) (c : SubmitCall) (w : ExecWorld B) : (r : ExecReq) → Except PyExc r.Ans × ExecWorld B
  | .uuid4 => (.ok (freshOwner w.owners), { w with owners := freshOwner w.owners :: w.owners })
  | .store op =>
    match op.apply s.now w.store with
    | .ok (a, store) => (.ok a, { w with store })
    | .error e => (.error e, { w with store := w.store })
  | .contextProvider => (.ok s.context, w)
  | .getPositions =>
    match s.positions w.broker with
    | .ok items => (.ok items, w)
    | .error e => (.error e, w)
  | .reconcile q =>
    match s.reconcile w.broker q with
    | .ok r => (.ok r,
        { w with confirmed := if r.state = .confirmedMatch then q.idempotencyKey :: w.confirmed else w.confirmed })
    | .error e => (.error e, w)
  | .beforeSubmit _ | .afterSubmit _ => (.ok (), w)
  | .submitOrder order =>
    (.ok (), { w with sent := ⟨c.scope, order⟩ :: w.sent, broker := s.invoke w.broker order })
  | .submitOrderResult order =>
    ((s.answer w.broker order).1,
      { w with answers := (order, (s.answer w.broker order).1) :: w.answers
               broker := (s.answer w.broker order).2 })

structure Permitted (V : Venue B) (s : Script B) (c : SubmitCall) : Prop where
  context : V.contexts c s.context
  positions : ∀ b items, s.positions b = .ok items → V.positions b items
  reconcile : ∀ b q r, s.reconcile b q = .ok r → V.reconcile b q r
  invoke : ∀ b order, V.invoke b order (s.invoke b order)
  answer : ∀ b order, V.answer b order (s.answer b order).1 (s.answer b order).2

theorem Permitted.exec {V : Venue B} {s : Script B} {c : SubmitCall} (h : Permitted V s c) (w : ExecWorld B)
    (r : ExecReq) : Exec V w c r (s.handle c w r).1 (s.handle c w r).2 := by
  cases r with
  | uuid4 => exact .drew _ (freshOwner_not_mem w.owners)
  | store op =>
    unfold handle
    dsimp only
    split
    · rename_i a store happ
      exact .store op (.committed s.now happ)
    · rename_i e happ
      exact .store op (.rolledBack e)
  | contextProvider => exact .provided _ h.context
  | getPositions =>
    unfold handle
    dsimp only
    split
    · rename_i items hitems
      exact .positions items (h.positions _ _ hitems)
    · rename_i e he
      exact .raised _ e rfl
  | reconcile q =>
    unfold handle
    dsimp only
    split
    · rename_i r hr
      exact .reconciled q r (h.reconcile _ _ _ hr)
    · rename_i e he
      exact .raised _ e rfl
  | beforeSubmit d => exact .before d
  | afterSubmit result => exact .after result
  | submitOrder order => exact .invoked order (h.invoke _ order)
  | submitOrderResult order => exact .answered order _ (h.answer _ order)

variable [CaseMap]

def submit (s : Script B) (c : SubmitCall) (w : ExecWorld B) : Except PyExc ExecutionResult × ExecWorld B :=
  (AsyncTradeExecutor.submit c).run (s.handle c) w

def submitted (s : Script B) (n : Nat) (c : SubmitCall) (cfg : ExecConfig B) : ExecConfig B :=
  (cfg.setRun n c (some (Prog.ofExcept (s.submit c cfg.world).1))).setWorld (s.submit c cfg.world).2

/-- **A submission under a permitted script stays within the reachable configurations.** -/
theorem Permitted.reachable {V : Venue B} {s : Script B} {c : SubmitCall} (h : Permitted V s c) (hc : V.admits c)
    {cfg : ExecConfig B} (hcfg : ExecReachable V cfg) {n : Nat} (hn : cfg.runs n = none) : ExecReachable V (s.submitted n c cfg) :=
  hcfg.complete hn hc (s.handle c) h.exec

end Script

/-! ## A sample submission, for runs by evaluation -/

theorem one_lot_pos : 0 < (1 : ℚ) := by decide

def sampleIntent (symbol key : String) : ExecutionIntent where
  symbol
  side := .member .buy
  quantity := some ⟨1, .mt5Lots, one_lot_pos⟩
  authorizedRiskAmount := some (.fin 10)
  expectedLossAtStop := some (.fin 5)
  quantityRiskVerified := true
  entry := .fin 100
  stopLoss := .fin 90
  takeProfit := .fin 120
  idempotencyKey := key
  riskApproved := some true
  magicNumber := none
  orderComment := none

def sampleContext (symbols : List String) (maxOpen : Int) : ExecutionContext where
  emergencyStop := some false
  dailyLossPercent := some (.fin 0)
  maxDailyLossPercent := some (.fin 3)
  dailyTradeCount := some 0
  maxDailyTrades := some 5
  openPositions := some []
  maxOpenPositions := some maxOpen
  usedIdempotencyKeys := some []
  executionEnabled := true
  dryRun := false
  broker := some "mt5_demo"
  environment := some "demo"
  accountId := some "mt5:1001"
  approvedBrokers := ["mt5_demo"]
  approvedEnvironments := ["demo"]
  approvedAccounts := ["mt5:1001"]
  approvedSymbols := symbols
  dailyStateAuthoritative := true

def sampleCall (symbol key : String) (symbols : List String) (maxOpen : Int) : SubmitCall where
  intent := sampleIntent symbol key
  context := some (sampleContext symbols maxOpen)
  leaseSeconds := 120
  recoveryMode := false
  hasReconciler := true
  hasBeforeSubmit := false
  hasContextProvider := false
  hasAfterSubmit := false

def filledAnswer (order : OrderRequest) : GatewayAnswer :=
  .result { orderId := "7001", status := .filled, symbol := order.symbol, side := order.side
            volume := order.quantity.value, filledPrice := some 100, transactionId := none }

def fillingScript (context : Option ExecutionContext) : Script Unit where
  now := 0
  context
  positions _ := .ok []
  reconcile _ q := .ok (mt5Reconcile "mt5_demo" q none)
  invoke _ _ := ()
  answer _ order := (.ok (filledAnswer order), ())

def startWorld {B : Type} (broker : B) : ExecWorld B := ⟨.empty, [], [], [], [], broker⟩

theorem startWorld_init {B : Type} (V : Venue B) (broker : B) (h : V.starts .empty broker) :
    (execSystem V).init (startWorld broker) := by
  refine ⟨h, rfl, rfl, rfl, fun sc r hr => ?_⟩
  cases hr

end Jqe
