import Jqe.MainSystem
/-!
# SignalBar — how often one signal bar is traded

Cycles over a market that answers the same closed bars.  The order planned on them is the same in every cycle, but for
its quantity, and a key is sent once.
-/
namespace Jqe

open Coro List

structure SignalSource where
  bars : String → String → List ClosedBar
  analyse : String → String → List ClosedBar → Except PyExc Analysis
  defaultCandleCount : Nat

structure SignalId where
  symbol : String
  timeframe : String
  side : OrderSide
  signalTime : Int
  deriving DecidableEq

def signalId (x : CycleSettings × PlannedOrder) : SignalId := ⟨x.2.symbol, x.1.timeframe, x.2.side, x.2.signalTime⟩

section

variable [CaseMap]

namespace SignalSource

variable {B : Type}

def answers (m : SignalSource) : (r : RunReq) → r.Ans → Prop
  | .closedBars symbol timeframe _, bars => bars = m.bars (normalizeSymbol symbol) timeframe
  | _, _ => True

/-- Cycles on these bars over any broker. -/
def surroundings (m : SignalSource) (V : Venue B) : Surroundings B where
  venue := V
  answers _ := m.answers
  admits s := s.analyse = m.analyse (normalizeSymbol s.symbol) s.timeframe ∧ s.defaultCandleCount = m.defaultCandleCount

def work (m : SignalSource) (symbol timeframe : String) : List ClosedBar :=
  let bars := m.bars symbol timeframe
  bars.drop (bars.length - m.defaultCandleCount)

def planned? (m : SignalSource) (symbol timeframe : String) (quantity : Option ExecutionQuantity) :
    Option PlannedOrder :=
  match m.analyse symbol timeframe (m.work symbol timeframe), (m.work symbol timeframe).getLast? with
  | .ok analysis, some latest => analysis.plan.valid?.map fun (side, stopLoss, takeProfit) =>
    { symbol, side, quantity, entry := .fin latest.close, stopLoss, takeProfit, signalTime := latest.openedAt }
  | _, _ => none

theorem planned?_eq {m : SignalSource} {V : Venue B} {s : CycleSettings} (hs : (m.surroundings V).admits s)
    {bars : Option (List ClosedBar)} (hbars : ∀ b, bars = some b → b = m.bars (normalizeSymbol s.symbol) s.timeframe)
    {p : PlannedOrder} (hp : PlannedOn s bars p) : m.planned? p.symbol s.timeframe p.quantity = some p := by
  obtain ⟨answer, hanswer, hplan⟩ := hp
  obtain ⟨hanalyse, hcount⟩ := hs
  have hwork : MainRun.work s answer = m.work (normalizeSymbol s.symbol) s.timeframe := by
    unfold MainRun.work work
    rw [hbars answer hanswer, hcount]
  have hplan' : m.planned? (normalizeSymbol s.symbol) s.timeframe p.quantity = some p := by
    rw [← hplan]
    cases ha : m.analyse (normalizeSymbol s.symbol) s.timeframe (m.work (normalizeSymbol s.symbol) s.timeframe) <;>
      cases hl : (m.work (normalizeSymbol s.symbol) s.timeframe).getLast? <;>
      simp [planned?, CycleSettings.planned?, hwork, hanalyse, ha, hl]
  have hsymbol : p.symbol = normalizeSymbol s.symbol := by
    unfold planned? at hplan'
    split at hplan'
    · obtain ⟨_, _, h⟩ := Option.map_eq_some_iff.1 hplan'
      rw [← h]
    · cases hplan'
  rw [hsymbol]
  exact hplan'

end SignalSource

variable {B : Type} {m : SignalSource} {V : Venue B} {w w' : RunWorld B} {s : CycleSettings} {φ : RunPhase}

def orderKey (x : CycleSettings × PlannedOrder) : String := x.2.buildExecutionIdempotencyKey

/-- **What holds between two cycles**: keys are sent once and have rows, and orders are the market's. -/
structure SentOnce (m : SignalSource) (w : RunWorld B) : Prop where
  source : ∀ x ∈ w.orders, m.planned? x.2.symbol x.1.timeframe x.2.quantity = some x.2
  nodup : (w.orders.map orderKey).Nodup
  rows : ∀ x ∈ w.orders, (w.exec.store.row (orderKey x)).isSome = true

/-- **What holds in a phase of a cycle**: a claimed key has its row and was not sent. -/
structure Sending (m : SignalSource) (s : CycleSettings) (φ : RunPhase) (w : RunWorld B) : Prop where
  once : SentOnce m w
  bars : ∀ b, φ.bars = some b → b = m.bars (normalizeSymbol s.symbol) s.timeframe
  row : ∀ p c o, φ.stage = some (p, c, .claimed o) → (w.exec.store.row p.buildExecutionIdempotencyKey).isSome = true
  unsent : ∀ p c o, φ.stage = some (p, c, .claimed o) → ∀ x ∈ w.orders, orderKey x ≠ p.buildExecutionIdempotencyKey

theorem SentOnce.kept (h : SentOnce m w) (horders : w'.orders = w.orders)
    (hrows : ∀ k, (w.exec.store.row k).isSome = true → (w'.exec.store.row k).isSome = true) : SentOnce m w' := by
  refine ⟨?_, ?_, ?_⟩ <;> rw [horders]
  · exact h.source
  · exact h.nodup
  · exact fun x hx => hrows _ (h.rows x hx)

theorem Sending.kept (h : Sending m s φ w) {φ' : RunPhase} (hstage : φ'.stage = φ.stage)
    (hbars : ∀ b, φ'.bars = some b → b = m.bars (normalizeSymbol s.symbol) s.timeframe) (horders : w'.orders = w.orders)
    (hrows : ∀ k, (w.exec.store.row k).isSome = true → (w'.exec.store.row k).isSome = true) :
    Sending m s φ' w' := by
  refine ⟨h.once.kept horders hrows, hbars, fun p c o hst => ?_, fun p c o hst x hx => ?_⟩
  · exact hrows _ (h.row p c o (hstage ▸ hst))
  · exact h.unsent p c o (hstage ▸ hst) x (horders ▸ hx)

theorem Sending.exec (hs : (m.surroundings V).admits s) (h : Sending m s φ w) {p : PlannedOrder} {c : SubmitCall}
    {q : Phase} {r : ExecReq} {ans : Except PyExc r.Ans} {e : ExecWorld B} (hstage : AtStage p c q φ)
    (hplan : PlannedOn s φ.bars p) (hkey : c.key = p.buildExecutionIdempotencyKey) (hr : r.callback = false)
    (ha : Allowed c q r) (hx : Exec V w.exec c r ans e) :
    Sending m s (runNext φ (.exec p c r) ans) ⟨e, sentOrders s w.orders (.exec p c r)⟩ := by
  have hrows := hx.row_isSome
  have hbars : (runNext φ (.exec p c r) ans).bars = φ.bars := by cases r <;> rfl
  have hnext : (runNext φ (.exec p c r) ans).stage = some (p, c, (phaseNext c q r ans).forget) := by
    rw [← forget_next c q r ans hr, ← hstage.phase_eq hr ha]
    cases r <;> rfl
  -- a claimed phase was reached by a claim, or was there before
  have claimed_old : ∀ o, phaseNext c q r ans = .claimed o → (φ.stage = some (p, c, .claimed o)) ∨
      (w.exec.store.row c.key = none ∧ (e.store.row c.key).isSome = true) := by
    intro o hq'
    rcases claimed_next ha hq' with rfl | hno
    · rcases hstage with hst | ⟨_, hq | hq⟩
      · exact .inl hst
      · cases hq
      · cases hq
    · exact .inr (claim_inserts ha hx hno (by rw [hq']; rfl))
  have stage_claimed : ∀ p' c' o, (runNext φ (.exec p c r) ans).stage = some (p', c', .claimed o) →
      p' = p ∧ phaseNext c q r ans = .claimed o := by
    intro p' c' o hst
    rw [hnext] at hst
    simp only [Option.some.injEq, Prod.mk.injEq] at hst
    refine ⟨hst.1.symm, ?_⟩
    cases hq' : phaseNext c q r ans <;> rw [hq'] at hst <;> cases hst.2.2
    rfl
  by_cases horder : ∃ order, r = .submitOrder order
  · obtain ⟨order, rfl⟩ := horder
    cases ha with
    | submit o _ ho =>
      have hst : φ.stage = some (p, c, .claimed o) := by
        rcases hstage with hst | ⟨_, hq | hq⟩
        · exact hst
        · cases hq
        · cases hq
      refine ⟨⟨?_, ?_, ?_⟩, hbars ▸ h.bars, fun p' c' o' hst' => ?_, fun p' c' o' hst' => ?_⟩
      · intro x hx'
        rcases mem_cons.1 hx' with rfl | hx'
        · exact SignalSource.planned?_eq hs h.bars hplan
        · exact h.once.source x hx'
      · refine nodup_cons.2 ⟨fun hmem => ?_, h.once.nodup⟩
        obtain ⟨x, hx', hxkey⟩ := mem_map.1 hmem
        exact h.unsent p c o hst x hx' hxkey
      · intro x hx'
        rcases mem_cons.1 hx' with rfl | hx'
        · exact hrows _ (h.row p c o hst)
        · exact hrows _ (h.once.rows x hx')
      all_goals
        obtain ⟨_, hq'⟩ := stage_claimed p' c' o' hst'
        cases ans <;> cases hq'
  · have horders : sentOrders s w.orders (.exec p c r) = w.orders := by
      cases r with
      | submitOrder order => exact absurd ⟨order, rfl⟩ horder
      | _ => rfl
    rw [horders]
    refine ⟨h.once.kept rfl hrows, hbars ▸ h.bars, fun p' c' o hst => ?_, fun p' c' o hst x hx' => ?_⟩
    · obtain ⟨rfl, hq'⟩ := stage_claimed p' c' o hst
      rcases claimed_old o hq' with hold | ⟨_, hrow⟩
      · exact hrows _ (h.row p' c o hold)
      · rwa [← hkey]
    · obtain ⟨rfl, hq'⟩ := stage_claimed p' c' o hst
      rcases claimed_old o hq' with hold | ⟨hnone, _⟩
      · exact h.unsent p' c o hold x hx'
      · -- a key that was sent has a row, and this one had none
        intro heq
        have hrow := h.once.rows x hx'
        rw [heq, ← hkey, hnone] at hrow
        cases hrow

theorem Sending.call (hs : (m.surroundings V).admits s) {r : RunReq} {ans : Except PyExc r.Ans} (h : Sending m s φ w)
    (ha : RunAllowed s φ r) (hx : RunExec (m.surroundings V) w s r ans w') : Sending m s (runNext φ r ans) w' := by
  have hrows := hx.row_isSome
  cases ha with
  | exec p c q r hstage hplan hkey hr ha hcount =>
    cases hx with
    | exec _ _ _ hx => exact h.exec hs hstage hplan hkey hr ha hx
    | own _ a hr' _ => cases hr'
    | raised _ e hr' => exact absurd rfl (hr' p c r)
  | history t count ht => exact h.kept (by cases ans <;> rfl) (by cases ans <;> exact h.bars) hx.orders_eq hrows
  | now => exact h.kept (by cases ans <;> rfl) (by cases ans <;> exact h.bars) hx.orders_eq hrows
  | closedBars count =>
    refine h.kept (by cases ans <;> rfl) (fun b hb => ?_) hx.orders_eq hrows
    cases hx with
    | own _ a _ hans =>
      cases hb
      exact hans
    | raised _ e _ => exact h.bars b hb
  | plain r hr =>
    rw [runNext_plain r ans hr]
    refine h.kept rfl h.bars (hx.orders_eq.trans ?_) hrows
    cases r with
    | exec p c r => cases hr
    | _ => rfl

theorem CyclesReach.sentOnce (h : CyclesReach (m.surroundings V) w) : SentOnce m w := by
  refine SeqReachable.invariant (P := runProtocol) (I := SentOnce m)
    (J := fun s φ w => (m.surroundings V).admits s ∧ Sending m s φ w) (fun _ _ _ => True)
    (fun s _ => MainRun.run_conforms s) ?_ ?_ ?_ ?_ (fun _ _ _ hJ => hJ.2.once) ?_ h
  · rintro w ⟨_, _, horders⟩
    refine ⟨?_, ?_, ?_⟩ <;> rw [horders]
    · exact fun x hx => by cases hx
    · exact nodup_nil
    · exact fun x hx => by cases hx
  · intro s w hs hI
    exact ⟨hs, hI, fun b hb => (by cases hb), fun p c o hst => (by cases hst), fun p c o hst => by cases hst⟩
  · intro s φ w r ans w' hJ ha hx
    exact ⟨hJ.1, hJ.2.call hJ.1 ha hx⟩
  · rintro s φ w w' hJ ⟨b, _, rfl⟩
    exact ⟨hJ.1, hJ.2.kept rfl hJ.2.bars rfl fun _ hk => hk⟩
  · rintro w w' hI ⟨b, _, rfl⟩
    exact hI.kept rfl fun _ hk => hk

/-- **A signal bar is traded at most once with one quantity**: over every sequence of cycles, at most one order is sent
for each symbol, timeframe, side, signal bar and quantity. -/
theorem signal_bar_once (m : SignalSource) (V : Venue B) (w : RunWorld B) (h : CyclesReach (m.surroundings V) w) :
    (w.orders.map fun x => (signalId x, x.2.quantity)).Nodup := by
  have hI := h.sentOnce
  have same : ∀ x ∈ w.orders, ∀ y ∈ w.orders, (signalId x, x.2.quantity) = (signalId y, y.2.quantity) → x = y := by
    intro x hx y hy heq
    simp only [Prod.mk.injEq, signalId, SignalId.mk.injEq] at heq
    obtain ⟨⟨hsymbol, htimeframe, _, _⟩, hquantity⟩ := heq
    have hplan := hI.source x hx
    rw [hsymbol, htimeframe, hquantity, hI.source y hy, Option.some.injEq] at hplan
    refine List.inj_on_of_nodup_map hI.nodup hx hy ?_
    unfold orderKey
    rw [hplan]
  exact (List.Nodup.of_map _ hI.nodup).map_on same

end

section
local instance signalCase : CaseMap := asciiCase

def sampleSource : SignalSource := ⟨fun _ _ => [sampleBar], fun _ _ => sampleAnalysis "PAINX1200", 1⟩

def sampleCycle (balance : ℚ) (size : ExecutionQuantity) (moment : Int) (trades : List TradeHistoryEntry) :
    RunScript Unit where
  script := fillingScript none
  account := sampleAccount balance
  bars := [sampleBar]
  moment _ := moment
  history _ start endAt _ :=
    { trades, completeness := .complete, coverageStart := some start, coverageEnd := some endAt }
  sizing := sampleSizing balance size

def stoppedOut : TradeHistoryEntry :=
  { tradeId := "1", symbol := "PAINX1200", side := .buy, volume := .fin 1, openPrice := 90, closePrice := 90
    profit := -10, openedAt := 1767226700, closedAt := 1767226700, positionId := some "7001"
    closeReason := "STOP_LOSS" }

def lessThanOneLot : ExecutionQuantity := ⟨99 / 100, .mt5Lots, by decide +kernel⟩

def twoCycles : RunWorld Unit :=
  let s := sampleSettings "PAINX1200" 5 1
  (sampleCycle 990 lessThanOneLot 1767226800 [stoppedOut]).cycle s
    ((sampleCycle 1000 oneLot 1767226600 []).cycle s ⟨startWorld (), []⟩)

theorem sampleCycle_permitted (balance : ℚ) (size : ExecutionQuantity) (moment : Int)
    (trades : List TradeHistoryEntry) :
    (sampleCycle balance size moment trades).Permitted (sampleSource.surroundings anyVenue) where
  script _ := ⟨trivial, fun _ _ _ => trivial, fun _ _ _ _ => trivial, fun _ _ => trivial, fun _ _ => trivial⟩
  account _ := trivial
  halt _ := trivial
  bars _ _ _ _ := rfl
  done _ := ⟨fun _ => trivial, fun _ _ => trivial, fun _ => trivial⟩
  moment _ := trivial
  history _ _ _ _ := trivial
  size _ _ _ _ _ _ _ := trivial
  positions _ _ _ := trivial

theorem twoCycles_reach : CyclesReach (sampleSource.surroundings anyVenue) twoCycles :=
  (sampleCycle_permitted 990 lessThanOneLot _ _).reach ⟨rfl, rfl⟩
    ((sampleCycle_permitted 1000 oneLot _ _).reach ⟨rfl, rfl⟩ (.init ⟨trivial, rfl, rfl⟩))

def twoKeys : List (PlannedOrder × String) := [
  (sampleOrderOf "PAINX1200" oneLot, "jqe-v2-6e2c4c05d05703acddeeaec21428a2b2797e0ab5cd4ed2271ee02e37572c6f04"),
  (sampleOrderOf "PAINX1200" lessThanOneLot, "jqe-v2-26efafb95acf5e0cc35a541c7e29fa47ba8c458bfbcccad675bd08526b25519d")]

theorem twoKeys_known : PlannedOrder.buildExecutionIdempotencyKey = PlannedOrder.keyAmong twoKeys := by
  have hless : (sampleOrderOf "PAINX1200" lessThanOneLot).charsKey =
      "jqe-v2-26efafb95acf5e0cc35a541c7e29fa47ba8c458bfbcccad675bd08526b25519d" := by
    decide +kernel
  exact PlannedOrder.buildExecutionIdempotencyKey_among
    (forall_mem_cons.2 ⟨sampleOrderOf_key, forall_mem_singleton.2 hless⟩)

theorem twoCycles_orders : twoCycles.orders.map (fun x => (signalId x, x.2.quantity)) =
    [(⟨"PAINX1200", "M15", .buy, 1767225600⟩, some lessThanOneLot),
      (⟨"PAINX1200", "M15", .buy, 1767225600⟩, some oneLot)] := by
  rw [twoCycles, RunScript.cycle, RunScript.cycle, MainRun.run]
  simp only [MainRun.trade, MainRun.execute, MainRun.submitCall]
  rw [twoKeys_known]
  decide +kernel

/-- After a quick stop-out a signal bar is traded again, in another size: the key hashes the quantity. -/
theorem signal_bar_twice :
    CyclesReach (sampleSource.surroundings anyVenue) twoCycles ∧ ¬ (twoCycles.orders.map signalId).Nodup := by
  refine ⟨twoCycles_reach, fun h => ?_⟩
  have hmap : twoCycles.orders.map signalId =
      (twoCycles.orders.map fun x => (signalId x, x.2.quantity)).map Prod.fst := by
    rw [List.map_map]
    rfl
  rw [hmap, twoCycles_orders] at h
  exact absurd h (by decide)

theorem signal_bar_once_two : twoCycles.orders.length = 2 ∧
    (twoCycles.orders.map fun x => (signalId x, x.2.quantity)).Nodup := by
  refine ⟨?_, signal_bar_once sampleSource anyVenue twoCycles twoCycles_reach⟩
  have h := congrArg List.length twoCycles_orders
  rwa [List.length_map] at h

end

end Jqe
