import Jqe.CoroSeq
import Jqe.MainPhase
/-!
# MainSystem — cycles one after the other, on one account

The world of a sequence of cycles: the executor's world, and the orders that were sent with the cycle each was sent in.
A cycle may be stopped anywhere; the next one starts on the tables as they are.
-/
namespace Jqe

open Coro

structure RunWorld (B : Type) where
  exec : ExecWorld B
  orders : List (CycleSettings × PlannedOrder)

structure Surroundings (B : Type) where
  venue : Venue B
  answers : B → (r : RunReq) → r.Ans → Prop
  admits : CycleSettings → Prop

def StoreOp.recovery : StoreOp → Bool
  | transition _ | recordRecoveryDiagnostic .. => true
  | _ => false

/-- **What a startup recovery does to the tables**, as far as it comes. -/
inductive Recovers (late : Prop) : Store → Store → Prop
  | done (s : Store) : Recovers late s s
  | step {s s' s'' : Store} (op : StoreOp) (hop : op.recovery = true) {ans : Except PyExc op.Ans}
      (h : StoreExec late s op ans s') (rest : Recovers late s' s'') : Recovers late s s''

/-- Requests that read or write the tables, or go through the executor. -/
def RunReq.tabled : RunReq → Bool
  | recover | listUnresolved | record _ | exec .. => true
  | _ => false

def sentOrders (s : CycleSettings) (orders : List (CycleSettings × PlannedOrder)) :
    RunReq → List (CycleSettings × PlannedOrder)
  | .exec p _ (.submitOrder _) => (s, p) :: orders
  | _ => orders

variable {B : Type}

inductive RunExec (D : Surroundings B) (w : RunWorld B) (s : CycleSettings) :
    (r : RunReq) → Except PyExc r.Ans → RunWorld B → Prop
  | exec (p : PlannedOrder) (c : SubmitCall) (r : ExecReq) {ans : Except PyExc r.Ans} {e : ExecWorld B}
      (h : Exec D.venue w.exec c r ans e) :
      RunExec D w s (.exec p c r) ans ⟨e, sentOrders s w.orders (.exec p c r)⟩
  | record (key : String) {ans : Except PyExc (Option IntentRecord)} {store : Store}
      (h : StoreExec D.venue.late w.exec.store (.get key) ans store) :
      RunExec D w s (.record key) ans { w with exec := { w.exec with store } }
  | recovered (ans : Except PyExc Unit) {store : Store} (h : Recovers D.venue.late w.exec.store store) :
      RunExec D w s .recover ans { w with exec := { w.exec with store } }
  | listed : RunExec D w s .listUnresolved
      (.ok (w.exec.store.intents.entries.countP fun e => e.2.state.unresolved)) w
  | own (r : RunReq) (a : r.Ans) (hr : r.tabled = false) (h : D.answers w.exec.broker r a) : RunExec D w s r (.ok a) w
  | raised (r : RunReq) (e : PyExc) (hr : ∀ p c r', r ≠ .exec p c r') : RunExec D w s r (.error e) w

def runSystem (D : Surroundings B) : System RunReq RunReq.Ans PyExc (RunWorld B) CycleSettings where
  init w := D.venue.starts w.exec.store w.exec.broker ∧ w.exec.sent = [] ∧ w.orders = []
  admits := D.admits
  exec := RunExec D
  tick w w' := ∃ b, D.venue.tick w.exec.broker b ∧ w' = { w with exec := { w.exec with broker := b } }

section
variable [CaseMap]

/-- **The worlds that sequences of cycles reach.** -/
abbrev CyclesReach (D : Surroundings B) : RunWorld B → Prop := SeqReachable (runSystem D) MainRun.run

end

theorem Recovers.row_isSome {late : Prop} {s s' : Store} (h : Recovers late s s') (k : String)
    (hk : (s.row k).isSome) : (s'.row k).isSome := by
  induction h with
  | done s => exact hk
  | step op hop h rest ih => exact ih (h.row_isSome k hk)

variable {D : Surroundings B} {w w' : RunWorld B} {s : CycleSettings}

theorem RunExec.row_isSome {r : RunReq} {ans : Except PyExc r.Ans} (h : RunExec D w s r ans w') (k : String)
    (hk : (w.exec.store.row k).isSome) : (w'.exec.store.row k).isSome := by
  cases h with
  | exec p c r h => exact h.row_isSome k hk
  | record key h => exact h.row_isSome k hk
  | recovered ans h => exact h.row_isSome k hk
  | _ => exact hk

theorem RunExec.orders_eq {r : RunReq} {ans : Except PyExc r.Ans} (h : RunExec D w s r ans w') :
    w'.orders = sentOrders s w.orders r := by
  cases h with
  | own r a hr h => cases r <;> first | rfl | cases hr
  | raised r e hr =>
    cases r with
    | exec p c r => exact absurd rfl (hr p c r)
    | _ => rfl
  | _ => rfl

theorem Exec.broker_eq {V : Venue B} {e e' : ExecWorld B} {c : SubmitCall} {r : ExecReq} {ans : Except PyExc r.Ans}
    (h : Exec V e c r ans e') (hi : ∀ order, r ≠ .submitOrder order) (ha : ∀ order, r ≠ .submitOrderResult order) :
    e'.broker = e.broker := by
  cases h with
  | invoked order h => exact absurd rfl (hi order)
  | answered order ans h => exact absurd rfl (ha order)
  | _ => rfl

/-! ## Cycles by evaluation -/

structure RunScript (B : Type) where
  script : Script B
  account : AccountInfo
  bars : List ClosedBar
  moment : B → Int
  history : B → Int → Int → Nat → TradeHistorySnapshot
  sizing : ExecutionSizingDecision

namespace RunScript

def handle (x : RunScript B) (s : CycleSettings) (w : RunWorld B) : (r : RunReq) → Except PyExc r.Ans × RunWorld B
  | .accountInfo => (.ok x.account, w)
  | .integrityHalt => (.ok none, w)
  | .recover => (.ok (), w)
  | .listUnresolved => (.ok (w.exec.store.intents.entries.countP fun e => e.2.state.unresolved), w)
  | .closedBars .. => (.ok x.bars, w)
  | .publish _ | .consume .. | .observeFill _ => (.ok (), w)
  | .now => (.ok (x.moment w.exec.broker), w)
  | .history start endAt count => (.ok (x.history w.exec.broker start endAt count), w)
  | .size .. => (.ok x.sizing, w)
  | .record key =>
    match Store.get key w.exec.store with
    | .ok (a, store) => (.ok a, { w with exec := { w.exec with store } })
    | .error e => (.error e, w)
  | .getPositions =>
    match x.script.positions w.exec.broker with
    | .ok items => (.ok items, w)
    | .error e => (.error e, w)
  | .exec p c r =>
    ((x.script.handle c w.exec r).1, ⟨(x.script.handle c w.exec r).2, sentOrders s w.orders (.exec p c r)⟩)

structure Permitted (D : Surroundings B) (x : RunScript B) : Prop where
  script : ∀ c, Script.Permitted D.venue x.script c
  account : ∀ b, D.answers b .accountInfo x.account
  halt : ∀ b, D.answers b .integrityHalt none
  bars : ∀ b symbol timeframe count, D.answers b (.closedBars symbol timeframe count) x.bars
  done : ∀ b, (∀ what, D.answers b (.publish what) ()) ∧ (∀ scope symbol, D.answers b (.consume scope symbol) ()) ∧
    ∀ f, D.answers b (.observeFill f) ()
  moment : ∀ b, D.answers b .now (x.moment b)
  history : ∀ b start endAt count, D.answers b (.history start endAt count) (x.history b start endAt count)
  size : ∀ b symbol side balance risk entry stop, D.answers b (.size symbol side balance risk entry stop) x.sizing
  positions : ∀ b items, x.script.positions b = .ok items → D.answers b .getPositions items

theorem Permitted.exec {x : RunScript B} (h : Permitted D x) (w : RunWorld B) (s : CycleSettings) (r : RunReq) :
    RunExec D w s r (x.handle s w r).1 (x.handle s w r).2 := by
  cases r with
  | accountInfo => exact .own _ _ rfl (h.account _)
  | integrityHalt => exact .own _ _ rfl (h.halt _)
  | recover => exact .recovered _ (.done _)
  | listUnresolved => exact .listed
  | closedBars symbol timeframe count => exact .own _ _ rfl (h.bars _ _ _ _)
  | publish what => exact .own _ _ rfl ((h.done _).1 what)
  | consume scope symbol => exact .own _ _ rfl ((h.done _).2.1 scope symbol)
  | observeFill f => exact .own _ _ rfl ((h.done _).2.2 f)
  | now => exact .own _ _ rfl (h.moment _)
  | history start endAt count => exact .own _ _ rfl (h.history _ _ _ _)
  | size symbol side balance risk entry stop => exact .own _ _ rfl (h.size _ _ _ _ _ _ _)
  | record key =>
    unfold handle
    dsimp only
    split
    · rename_i a store happ
      exact .record key (.committed 0 happ)
    · exact .raised _ _ (by simp)
  | getPositions =>
    unfold handle
    dsimp only
    split
    · rename_i items hitems
      exact .own _ _ rfl (h.positions _ _ hitems)
    · exact .raised _ _ (by simp)
  | exec p c r => exact .exec p c r ((h.script c).exec w.exec r)

variable [CaseMap]

def cycle (x : RunScript B) (s : CycleSettings) (w : RunWorld B) : RunWorld B :=
  ((MainRun.run s).run (x.handle s) w).2

theorem Permitted.reach {x : RunScript B} (h : Permitted D x) (hs : D.admits s) (hw : CyclesReach D w) :
    CyclesReach D (x.cycle s w) :=
  .run s hw hs (.of_run (x.handle s) (fun w r => h.exec w s r) _ w)

end RunScript

def sampleBar : ClosedBar := ⟨1767225600, 1767226500, 99, 101, 98, 100, none⟩

def sampleAnalysis (symbol : String) (bars : List ClosedBar) : Except PyExc Analysis :=
  match bars.getLast? with
  | none => .error (.exception "No closed candles")
  | some latest => .ok
    { signal := "BUY", confidence := 80, signalSymbol := none, atr := 5, spread := 1
      plan :=
        { symbol, signal := .buy, entry := some (.fin latest.close), stopLoss := some (.fin (latest.close - 10))
          takeProfit := some (.fin (latest.close + 20)), riskReward := some (.fin 2), note := none } }

def sampleSettings (symbol : String) (limit : Nat) (maxOpen : Int) : CycleSettings where
  symbol
  timeframe := "M15"
  activeBroker := "weltrade"
  environment := "demo"
  defaultCandleCount := 1
  emergencyStop := some false
  brokerExecutionEnabled := true
  engine :=
    { minConfidence := 60, maxRiskPercent := 1, minAtr := 1, maxSpread := 10, maxDailyLoss := 3
      maxTradesDaily := limit }
  demoMaxOpenPositions := maxOpen
  demoPositionEquityFloor := 50
  reservationLeaseSeconds := 120
  analyse := sampleAnalysis symbol

def oneLot : ExecutionQuantity := ⟨1, .mt5Lots, one_lot_pos⟩

def sampleAccount (balance : ℚ) : AccountInfo := ⟨"1001", balance, "USD", some balance, some "demo"⟩

def sampleSizing (balance : ℚ) (size : ExecutionQuantity) : ExecutionSizingDecision :=
  ⟨.fin (balance / 100), some size, some (.fin (size.value * 10)), true, "Sized from account currency risk"⟩

def sampleOrderOf (symbol : String) (size : ExecutionQuantity) : PlannedOrder :=
  ⟨symbol, .buy, some size, .fin 100, .fin 90, .fin 120, 1767225600⟩

theorem sampleOrderOf_key : @PlannedOrder.charsKey asciiCase (sampleOrderOf "PAINX1200" oneLot) =
    "jqe-v2-6e2c4c05d05703acddeeaec21428a2b2797e0ab5cd4ed2271ee02e37572c6f04" := by
  decide +kernel

end Jqe
