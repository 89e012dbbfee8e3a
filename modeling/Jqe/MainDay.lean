import Jqe.AuditSound
import Jqe.MainSystem
/-!
# MainDay — the orders accepted in a day, and the trades counted in it

The broker's book of one UTC day under a sequence of cycles: what it accepts, what is closed in part or in full, and the
history the terminal shows of it.  The cycles count the closing deals of the day, not its openings.
-/
namespace Jqe

open Coro List

structure DayBook where
  now : Int
  serverHours : Int
  deals : List Mt5Deal
  positions : List Position
  /-- orders sent that the broker has not dealt with -/
  inflight : List OrderRequest
  opened : List Int

namespace DayBook

def offset (b : DayBook) : Int := b.serverHours * 3600

def closings (b : DayBook) (day : Int) : List Mt5Deal :=
  b.deals.filter fun d => d.closes && utcDay (d.time - b.offset) == day

/-- The orders of the day that are accepted or may still be. -/
def committed (b : DayBook) : Nat := b.opened.length + b.inflight.length

inductive Tick (day : Int) (b : DayBook) : DayBook → Prop
  | clock (t : Int) (ht : b.now ≤ t) (hday : utcDay t = day) : Tick day b { b with now := t }
  | accept (order : OrderRequest) (id : Int) (position : Position) (deal : Mt5Deal) (ho : order ∈ b.inflight)
      (hid : id ∉ b.opened) (hp : position.positionId = toString id) (hd : deal.positionId = some id)
      (hin : deal.entry = dealEntryIn) (ht : deal.time = b.now + b.offset) :
      Tick day b { b with
        deals := b.deals ++ [deal], positions := position :: b.positions, inflight := b.inflight.erase order
        opened := id :: b.opened }
  | drop (order : OrderRequest) (ho : order ∈ b.inflight) : Tick day b { b with inflight := b.inflight.erase order }
  | close (deal : Mt5Deal) (positions : List Position) (hd : deal.closes = true) (ht : deal.time = b.now + b.offset) :
      Tick day b { b with deals := b.deals ++ [deal], positions }
  | charge (deal : Mt5Deal) (hd : deal.trade = false) (ht : deal.time = b.now + b.offset) :
      Tick day b { b with deals := b.deals ++ [deal] }

/-- **What the terminal shows of the book**: the deals of a query, if it answers, and a tick of the server's clock. -/
structure Shown (b : DayBook) (t : HistoryTerminal) : Prop where
  tick : ∀ raw, t.tickTime = .ok (some raw) → |raw - b.offset - b.now| ≤ 120
  deals : ∀ first last deals, t.historyDealsGet first last = .ok (some deals) →
    deals = b.deals.filter fun d => decide (first ≤ d.time) && decide (d.time ≤ last)

end DayBook

def dayAnswers (b : DayBook) : (r : RunReq) → r.Ans → Prop
  | .now, t => t = b.now
  | .getPositions, items => items = b.positions.map .position
  | .history start endAt count, snapshot => ∃ t connected, b.Shown t ∧
    readMt5TradeHistorySnapshot t connected start endAt b.now count = .ok snapshot
  | _, _ => True

def dayVenue (day : Int) : Venue DayBook where
  positions b items := items = b.positions.map .position
  invoke b order b' := b' = { b with inflight := order :: b.inflight }
  answer b _ _ b' := Relation.ReflTransGen (DayBook.Tick day) b b'
  reconcile _ _ _ := True
  tick b b' := b.Tick day b'
  contexts _ _ := True
  admits _ := True
  starts _ b := utcDay b.now = day ∧ (∀ d ∈ b.deals, d.time ≤ b.now + b.offset) ∧ b.inflight = [] ∧ b.opened = []
  late := True

/-- **Cycles of one UTC day** under one limit of trades, whatever their caps of positions. -/
def daySurroundings (day : Int) (limit : Nat) : Surroundings DayBook where
  venue := dayVenue day
  answers := dayAnswers
  admits s := s.engine.maxTradesDaily = limit

/-- **No opening is missed where it matters**: where fewer trades than the limit were closed in the day, fewer orders
than the limit were accepted in it or may still be. -/
def DayBook.CaughtUp (day : Int) (limit : Nat) (b : DayBook) : Prop :=
  (b.closings day).length < limit → b.committed < limit

def readsCaughtUp (day : Int) (limit : Nat) (w : RunWorld DayBook) : RunReq → Prop
  | .history .. => w.exec.broker.CaughtUp day limit
  | _ => True

/-! ## What the terminal's history counts -/

theorem historyServerOffset_eq {tick : Option Int} {now hours offset : Int}
    (htick : ∀ raw, tick = some raw → |raw - hours * 3600 - now| ≤ 120)
    (h : historyServerOffset tick now = some offset) : offset = hours * 3600 := by
  unfold historyServerOffset at h
  split at h
  · cases h
  · rename_i raw
    split at h
    · cases h
    · split at h
      · rename_i o ho
        cases h
        have hmem := ho ▸ mem_singleton_self offset
        obtain ⟨hlist, hnear⟩ := mem_filter.1 hmem
        obtain ⟨k, _, rfl⟩ := mem_map.1 hlist
        have h₁ := abs_le.1 (of_decide_eq_true hnear)
        have h₂ := abs_le.1 (htick raw rfl)
        omega
      · cases h

theorem closedToday_eq {b : DayBook} {day start endAt : Int} {count : Nat} {snapshot : TradeHistorySnapshot} {t : Int}
    (hpast : ∀ d ∈ b.deals, d.time ≤ b.now + b.offset) (hstart : start = day * daySeconds) (ht : utcDay t = day)
    (ha : dayAnswers b (.history start endAt count) snapshot) (hc : snapshot.completeness = .complete) :
    (closedToday snapshot.trades t).length = (b.closings day).length := by
  obtain ⟨terminal, connected, hshown, hread⟩ := ha
  obtain ⟨offset, deals, tick, _, htick, hoffset, hdeals, htrades, _⟩ := snapshot_complete hread hc
  have hoff : offset = b.offset := by
    refine historyServerOffset_eq (fun raw hraw => hshown.tick raw ?_) hoffset
    rw [htick, hraw]
  subst hoff
  have hd := hshown.deals _ _ _ hdeals
  rw [htrades, hd]
  unfold closedToday DayBook.closings
  rw [filter_map, length_map, filter_filter, filter_filter]
  refine congrArg List.length (filter_congr fun d hdm => ?_)
  have hlast := hpast d hdm
  have htoday : utcDay (d.toEntry b.offset).closedAt = utcDay (d.time - b.offset) := rfl
  simp only [Function.comp_apply, htoday, ht]
  by_cases hday : utcDay (d.time - b.offset) = day
  · -- a deal of the day is within the query
    have hfirst : min start (serverDayStart b.now b.offset) + b.offset ≤ d.time := by
      have hlow : start ≤ d.time - b.offset := by
        rw [hstart, ← hday]
        unfold utcDay daySeconds
        omega
      omega
    have hupto : d.time ≤ max endAt b.now + b.offset := by omega
    simp [hfirst, hupto, hday]
  · rw [beq_false_of_ne hday]
    simp

/-! ## The orders of the day -/

/-- **What the book does by itself** stays in the day, keeps deals in the past, and commits no order. -/
theorem DayBook.Tick.effect {day : Int} {b b' : DayBook} (h : b.Tick day b') (hday : utcDay b.now = day)
    (hpast : ∀ d ∈ b.deals, d.time ≤ b.now + b.offset) :
    utcDay b'.now = day ∧ (∀ d ∈ b'.deals, d.time ≤ b'.now + b'.offset) ∧ b'.committed ≤ b.committed := by
  have more : ∀ deal : Mt5Deal, deal.time = b.now + b.offset → ∀ d ∈ b.deals ++ [deal], d.time ≤ b.now + b.offset := by
    intro deal ht d hd
    rcases mem_append.1 hd with hd | hd
    · exact hpast d hd
    · rw [mem_singleton.1 hd, ht]
  cases h with
  | clock t ht hday' =>
    refine ⟨hday', fun d hd => ?_, le_rfl⟩
    have hold := hpast d hd
    change d.time ≤ t + b.offset
    omega
  | accept order id position deal ho hid hp hd hin ht =>
    refine ⟨hday, more deal ht, ?_⟩
    have hlen := length_erase_of_mem ho
    have hpos := length_pos_of_mem ho
    unfold committed
    simp only [length_cons]
    omega
  | drop order ho =>
    refine ⟨hday, hpast, ?_⟩
    have hlen := length_erase_of_mem ho
    unfold committed
    dsimp only
    omega
  | close deal positions hd ht => exact ⟨hday, more deal ht, le_rfl⟩
  | charge deal hd ht => exact ⟨hday, more deal ht, le_rfl⟩

structure DayInv (day : Int) (limit : Nat) (b : DayBook) : Prop where
  day : utcDay b.now = day
  past : ∀ d ∈ b.deals, d.time ≤ b.now + b.offset
  bound : b.committed ≤ limit

/-- **What holds in a phase of a cycle**: a history that counts below the limit was read with room for an order. -/
structure DayPhase (day : Int) (limit : Nat) (φ : RunPhase) (b : DayBook) : Prop where
  inv : DayInv day limit b
  moment : ∀ t, φ.moment = some t → utcDay t = day
  room : ∀ snapshot t, φ.history = some snapshot → utcDay t = day → snapshot.completeness = .complete →
    (closedToday snapshot.trades t).length < limit → b.committed < limit

section

variable {day : Int} {limit : Nat} {φ : RunPhase} {b b' : DayBook}

theorem DayInv.tick (h : DayInv day limit b) (ht : b.Tick day b') : DayInv day limit b' := by
  obtain ⟨hday, hpast, hle⟩ := ht.effect h.day h.past
  exact ⟨hday, hpast, hle.trans h.bound⟩

theorem DayPhase.tick (h : DayPhase day limit φ b) (ht : b.Tick day b') : DayPhase day limit φ b' := by
  refine ⟨h.inv.tick ht, h.moment, fun snapshot t hs hday hc hlt => ?_⟩
  obtain ⟨_, _, hle⟩ := ht.effect h.inv.day h.inv.past
  have hroom := h.room snapshot t hs hday hc hlt
  omega

theorem DayPhase.ticks (h : DayPhase day limit φ b) (ht : Relation.ReflTransGen (DayBook.Tick day) b b') :
    DayPhase day limit φ b' := by
  induction ht with
  | refl => exact h
  | tail _ ht ih => exact ih.tick ht

theorem DayPhase.kept {φ' : RunPhase} (h : DayPhase day limit φ b) (hhistory : φ'.history = φ.history)
    (hmoment : φ'.moment = φ.moment) : DayPhase day limit φ' b :=
  ⟨h.inv, fun t ht => h.moment t (hmoment ▸ ht), fun snapshot t hs => h.room snapshot t (hhistory ▸ hs)⟩

theorem DayPhase.exec {s : CycleSettings} (hs : s.engine.maxTradesDaily = limit) {e e' : ExecWorld DayBook}
    (h : DayPhase day limit φ e.broker) {p : PlannedOrder} {c : SubmitCall} {r : ExecReq} {ans : Except PyExc r.Ans}
    (hcount : ∀ order, r = .submitOrder order → Counted s φ.history φ.moment)
    (hx : Exec (dayVenue day) e c r ans e') : DayPhase day limit (runNext φ (.exec p c r) ans) e'.broker := by
  by_cases hsubmit : ∃ order, r = .submitOrder order
  · obtain ⟨order, rfl⟩ := hsubmit
    obtain ⟨snapshot, now, hhistory, hmoment, hcomplete, hlt⟩ := hcount order rfl
    have hroom := h.room snapshot now hhistory (h.moment now hmoment) hcomplete (hs ▸ hlt)
    cases hx with
    | invoked _ hb =>
      cases hb
      refine ⟨⟨h.inv.day, h.inv.past, ?_⟩, h.moment, fun _ _ hnone => by cases hnone⟩
      unfold DayBook.committed at hroom ⊢
      simp only [length_cons]
      omega
    | raised _ e hr => cases hr
  · have hkept : DayPhase day limit (runNext φ (.exec p c r) ans) e.broker := by
      refine h.kept ?_ ?_ <;> cases r <;> first | rfl | exact absurd ⟨_, rfl⟩ hsubmit
    by_cases hanswer : ∃ order, r = .submitOrderResult order
    · obtain ⟨order, rfl⟩ := hanswer
      cases hx with
      | answered _ ans hb => exact hkept.ticks hb
      | raised _ e hr => cases hr
    · rw [hx.broker_eq (fun order h => hsubmit ⟨order, h⟩) fun order h => hanswer ⟨order, h⟩]
      exact hkept

variable [CaseMap]

theorem DayPhase.call {s : CycleSettings} (hs : s.engine.maxTradesDaily = limit) {w w' : RunWorld DayBook}
    (h : DayPhase day limit φ w.exec.broker) {r : RunReq} {ans : Except PyExc r.Ans} (ha : RunAllowed s φ r)
    (hc : readsCaughtUp day limit w r) (hx : RunExec (daySurroundings day limit) w s r ans w') :
    DayPhase day limit (runNext φ r ans) w'.exec.broker := by
  cases ha with
  | exec p c q r hstage hplan hkey hr ha hcount =>
    cases hx with
    | exec _ _ _ hx => exact h.exec hs hcount hx
    | own _ a hr' _ => cases hr'
    | raised _ e hr' => exact absurd rfl (hr' p c r)
  | history t count ht =>
    cases hx with
    | own _ snapshot _ hans =>
      refine ⟨h.inv, h.moment, fun snapshot' t' hs' hday hcomplete hlt => hc ?_⟩
      cases hs'
      have hstart : utcDay t * daySeconds = day * daySeconds := by rw [h.moment t ht]
      rwa [closedToday_eq h.inv.past hstart hday hans hcomplete] at hlt
    | raised _ e _ => exact h
  | now =>
    cases hx with
    | own _ t _ hans =>
      refine ⟨h.inv, fun t' ht' => ?_, h.room⟩
      cases ht'
      rw [show t = w.exec.broker.now from hans]
      exact h.inv.day
    | raised _ e _ => exact h
  | closedBars count =>
    cases hx with
    | own _ bars _ _ => exact h.kept rfl rfl
    | raised _ e _ => exact h
  | plain r hr =>
    rw [runNext_plain r ans hr]
    cases hx with
    | exec p c r _ => cases hr
    | _ => exact h

/-- **The orders accepted in a day are within the limit**, over every sequence of cycles whose reads of the history
all meet the condition. -/
theorem openings_within_limit (day : Int) (limit : Nat) (w : RunWorld DayBook)
    (h : SeqReachable ((runSystem (daySurroundings day limit)).meeting (readsCaughtUp day limit)) MainRun.run w) :
    w.exec.broker.opened.length ≤ limit := by
  have hinv : DayInv day limit w.exec.broker := by
    refine SeqReachable.invariant (P := runProtocol)
      (I := fun w => DayInv day limit w.exec.broker)
      (J := fun s φ w => s.engine.maxTradesDaily = limit ∧ DayPhase day limit φ w.exec.broker) (fun _ _ _ => True)
      (fun s _ => MainRun.run_conforms s) ?_ ?_ ?_ ?_ (fun _ _ _ hJ => hJ.2.inv) ?_ h
    · rintro w ⟨⟨hday, hpast, hinflight, hopened⟩, _, _⟩
      refine ⟨hday, hpast, ?_⟩
      unfold DayBook.committed
      rw [hinflight, hopened]
      exact Nat.zero_le limit
    · intro s w hs hI
      exact ⟨hs, hI, fun t ht => (by cases ht), fun _ _ hnone => by cases hnone⟩
    · rintro s φ w r ans w' ⟨hs, hJ⟩ ha ⟨hc, hx⟩
      exact ⟨hs, hJ.call hs ha hc hx⟩
    · rintro s φ w w' ⟨hs, hJ⟩ ⟨b, hb, rfl⟩
      exact ⟨hs, hJ.tick hb⟩
    · rintro w w' hI ⟨b, hb, rfl⟩
      exact hI.tick hb
  have hbound := hinv.bound
  unfold DayBook.committed at hbound
  omega

end

/-! ## Two cycles in which two positions are open -/

namespace DayBook

def terminal (b : DayBook) : HistoryTerminal where
  tickTime := .ok (some (b.now + b.offset))
  historyDealsGet first last := .ok (some (b.deals.filter fun d => decide (first ≤ d.time) && decide (d.time ≤ last)))

theorem terminal_shown (b : DayBook) : b.Shown b.terminal := by
  refine ⟨fun raw hraw => ?_, fun first last deals h => ?_⟩
  · cases hraw
    rw [show b.now + b.offset - b.offset - b.now = 0 by omega]
    decide
  · cases h
    rfl

theorem terminal_reads (b : DayBook) (start endAt : Int) (count : Nat) :
    ∃ snapshot, readMt5TradeHistorySnapshot b.terminal true start endAt b.now count = .ok snapshot := by
  have hread : ∃ snapshot, readHistory b.terminal start endAt b.now count = .ok snapshot := by
    unfold readHistory
    split
    · exact ⟨_, rfl⟩
    · dsimp only [terminal, bind, Except.bind]
      split <;> exact ⟨_, rfl⟩
  obtain ⟨snapshot, hread⟩ := hread
  unfold readMt5TradeHistorySnapshot
  split
  · exact ⟨_, rfl⟩
  · rw [hread]
    exact ⟨_, rfl⟩

def filled (b : DayBook) (order : OrderRequest) : DayBook :=
  let id : Int := 7001 + b.opened.length
  if order ∈ b.inflight ∧ id ∉ b.opened then
    { b with
      deals := b.deals ++ [{ ticket := id, symbol := order.symbol, type := dealTypeBuy, entry := dealEntryIn, volume := .fin 1
                             price := 100, profit := 0, commission := .fin 0, swap := .fin 0, time := b.now + b.offset
                             positionId := some id, reason := none }]
      positions := { auditedPosition (toString id) order.symbol with volume := order.quantity.value } :: b.positions
      inflight := b.inflight.erase order
      opened := id :: b.opened }
  else b

theorem filled_ticks (day : Int) (b : DayBook) (order : OrderRequest) :
    Relation.ReflTransGen (Tick day) b (b.filled order) := by
  unfold filled
  dsimp only
  split
  · rename_i h
    exact .single (.accept order _ _ _ h.1 h.2 rfl rfl rfl rfl)
  · exact .refl

end DayBook

def dayCycle : RunScript DayBook where
  script :=
    { now := 0
      context := none
      positions := fun b => .ok (b.positions.map .position)
      reconcile := fun _ q => .ok (mt5Reconcile "mt5_demo" q none)
      invoke := fun b order => { b with inflight := order :: b.inflight }
      answer := fun b order => (.ok (filledAnswer order), b.filled order) }
  account := sampleAccount 1000
  bars := [sampleBar]
  moment b := b.now
  history b start endAt count :=
    match readMt5TradeHistorySnapshot b.terminal true start endAt b.now count with
    | .ok snapshot => snapshot
    | .error _ => {}
  sizing := sampleSizing 1000 oneLot

theorem dayCycle_permitted (day : Int) (limit : Nat) : dayCycle.Permitted (daySurroundings day limit) where
  script _ := by
    refine ⟨trivial, fun b items h => ?_, fun _ _ _ _ => trivial, fun _ _ => rfl, fun b order => b.filled_ticks day order⟩
    cases h
    rfl
  account _ := trivial
  halt _ := trivial
  bars _ _ _ _ := trivial
  done _ := ⟨fun _ => trivial, fun _ _ => trivial, fun _ => trivial⟩
  moment _ := rfl
  history b start endAt count := by
    obtain ⟨snapshot, hread⟩ := b.terminal_reads start endAt count
    refine ⟨b.terminal, true, b.terminal_shown, ?_⟩
    rw [hread]
    simp only [dayCycle, hread]
  size _ _ _ _ _ _ _ := trivial
  positions b items h := by
    cases h
    rfl

def dayStart : RunWorld DayBook := ⟨startWorld ⟨1767226600, 3, [], [], [], []⟩, []⟩

theorem dayStart_init (limit : Nat) : (runSystem (daySurroundings 20454 limit)).init dayStart :=
  ⟨⟨by decide, fun d hd => (by cases hd), rfl, rfl⟩, rfl, rfl⟩

section
local instance dayCase : CaseMap := asciiCase

def firstCycle : RunWorld DayBook := dayCycle.cycle (sampleSettings "PAINX1200" 1 2) dayStart

def secondCycle : RunWorld DayBook := dayCycle.cycle (sampleSettings "GAINX1200" 1 2) firstCycle

def dayKeys : List (PlannedOrder × String) := [
  (sampleOrderOf "PAINX1200" oneLot, "jqe-v2-6e2c4c05d05703acddeeaec21428a2b2797e0ab5cd4ed2271ee02e37572c6f04"),
  (sampleOrderOf "GAINX1200" oneLot, "jqe-v2-32af181a5fc8d25ae74ca1e17c39a472df448bff1351424a27e47a8b8bb9b62b")]

theorem dayKeys_known : PlannedOrder.buildExecutionIdempotencyKey = PlannedOrder.keyAmong dayKeys := by
  have hgain : (sampleOrderOf "GAINX1200" oneLot).charsKey =
      "jqe-v2-32af181a5fc8d25ae74ca1e17c39a472df448bff1351424a27e47a8b8bb9b62b" := by
    decide +kernel
  exact PlannedOrder.buildExecutionIdempotencyKey_among
    (forall_mem_cons.2 ⟨sampleOrderOf_key, forall_mem_singleton.2 hgain⟩)

theorem secondCycle_opened : ¬ secondCycle.exec.broker.opened.length ≤ 1 := by
  rw [secondCycle, firstCycle, RunScript.cycle, RunScript.cycle, MainRun.run, MainRun.run]
  simp only [MainRun.trade, MainRun.execute, MainRun.submitCall]
  rw [dayKeys_known]
  decide +kernel

/-- Two orders are accepted in a day under a limit of one: open positions are not counted. -/
theorem openings_over_limit : CyclesReach (daySurroundings 20454 1) secondCycle ∧
    ¬ secondCycle.exec.broker.opened.length ≤ 1 :=
  ⟨(dayCycle_permitted 20454 1).reach rfl ((dayCycle_permitted 20454 1).reach rfl (.init (dayStart_init 1))),
    secondCycle_opened⟩

def checksCaughtUp (day : Int) (limit : Nat) (w : RunWorld DayBook) : RunReq → Bool
  | .history .. => decide (limit ≤ (w.exec.broker.closings day).length ∨ w.exec.broker.committed < limit)
  | _ => true

theorem checksCaughtUp_sound (day : Int) (limit : Nat) (w : RunWorld DayBook) (r : RunReq)
    (h : checksCaughtUp day limit w r = true) : readsCaughtUp day limit w r := by
  cases r with
  | history start endAt count =>
    intro hlt
    rcases of_decide_eq_true h with hle | hlt'
    · omega
    · exact hlt'
  | _ => trivial

theorem firstCycle_checked :
    (MainRun.run (sampleSettings "PAINX1200" 1 2)).checked (checksCaughtUp 20454 1)
      (dayCycle.handle (sampleSettings "PAINX1200" 1 2)) dayStart = true ∧ firstCycle.exec.broker.opened = [7001] := by
  rw [firstCycle, RunScript.cycle, MainRun.run]
  simp only [MainRun.trade, MainRun.execute, MainRun.submitCall]
  rw [dayKeys_known]
  decide +kernel

theorem openings_within_limit_first :
    firstCycle.exec.broker.opened = [7001] ∧ firstCycle.exec.broker.opened.length ≤ 1 := by
  refine ⟨firstCycle_checked.2, openings_within_limit 20454 1 firstCycle (.run (sampleSettings "PAINX1200" 1 2)
    (.init (dayStart_init 1)) rfl ?_)⟩
  rw [firstCycle, RunScript.cycle]
  exact .of_checked (checksCaughtUp_sound 20454 1) _
    (fun w r => (dayCycle_permitted 20454 1).exec w (sampleSettings "PAINX1200" 1 2) r) _ _ firstCycle_checked.1

end

end Jqe
