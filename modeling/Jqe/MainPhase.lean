import Jqe.ExecOnce
import Jqe.MainRun
/-!
# MainPhase — what a cycle may ask, and what its orders were judged on

The phase of a cycle is the phase of its submission, with the bars, the last history and the last moment it read.
A cycle sends its order only where the trades closed today, by the last history it read, are below the limit.
-/
namespace Jqe

open Coro
open MainRun (ask readDaily execOver submitted submission recovered plannedOrder execute work trade startup fail closedBars run)

/-- The phase without the context, which the cycle's own reads make. -/
def Phase.forget : Phase → Phase
  | held o h => held o { h with context := none }
  | q => q

/-- What a reconciliation starts from: it holds no reservation and will not claim. -/
def recovering : Held := ⟨none, none, none, false, true⟩

structure RunPhase where
  stage : Option (PlannedOrder × SubmitCall × Phase)
  bars : Option (List ClosedBar)
  history : Option TradeHistorySnapshot
  moment : Option Int

namespace RunPhase

def start : RunPhase := ⟨none, none, none, none⟩

def phase (φ : RunPhase) (r : ExecReq) : Phase :=
  match φ.stage, r with
  | some (_, _, q), _ => q
  | none, .uuid4 => .idle
  | none, _ => .held "" recovering

end RunPhase

def ExecReq.callback : ExecReq → Bool
  | contextProvider | beforeSubmit _ | afterSubmit _ => true
  | _ => false

def RunReq.plain : RunReq → Bool
  | exec .. | history .. | now | closedBars .. => false
  | _ => true

/-- **The trades closed today are below the limit**, by a complete history. -/
def Counted (s : CycleSettings) (history : Option TradeHistorySnapshot) (moment : Option Int) : Prop :=
  ∃ snapshot now, history = some snapshot ∧ moment = some now ∧ snapshot.completeness = .complete ∧
    (closedToday snapshot.trades now).length < s.engine.maxTradesDaily

def runNext : RunPhase → (r : RunReq) → Except PyExc r.Ans → RunPhase
  | φ, .now, .ok t => { φ with moment := some t }
  | φ, .closedBars .., .ok bars => { φ with bars := some bars }
  | φ, .history .., .ok h => { φ with history := some h }
  | φ, .exec p c (.submitOrder order), ans =>
    ⟨some (p, c, (phaseNext c (φ.phase (.submitOrder order)) (.submitOrder order) ans).forget), φ.bars, none, φ.moment⟩
  | φ, .exec p c r, ans => { φ with stage := some (p, c, (phaseNext c (φ.phase r) r ans).forget) }
  | φ, _, _ => φ

variable [CaseMap]

/-- **The order a cycle plans on the bars it works on**, whose quantity is the sizing's. -/
def CycleSettings.planned? (s : CycleSettings) (bars : List ClosedBar) (quantity : Option ExecutionQuantity) :
    Option PlannedOrder :=
  match s.analyse bars, bars.getLast? with
  | .ok analysis, some latest => analysis.plan.valid?.map fun (side, stopLoss, takeProfit) =>
    { symbol := normalizeSymbol s.symbol, side, quantity, entry := .fin latest.close, stopLoss, takeProfit
      signalTime := latest.openedAt }
  | _, _ => none

def PlannedOn (s : CycleSettings) (bars : Option (List ClosedBar)) (p : PlannedOrder) : Prop :=
  ∃ answer, bars = some answer ∧ s.planned? (MainRun.work s answer) p.quantity = some p

/-- Where the executor is, as far as the phase of the cycle tells. -/
def AtStage (p : PlannedOrder) (c : SubmitCall) (q : Phase) (φ : RunPhase) : Prop :=
  φ.stage = some (p, c, q.forget) ∨ φ.stage = none ∧ (q = .idle ∨ q = .held "" recovering)

inductive RunAllowed (s : CycleSettings) (φ : RunPhase) : RunReq → Prop
  | exec (p : PlannedOrder) (c : SubmitCall) (q : Phase) (r : ExecReq) (hstage : AtStage p c q φ)
      (hplan : PlannedOn s φ.bars p) (hkey : c.key = p.buildExecutionIdempotencyKey) (hr : r.callback = false)
      (ha : Allowed c q r)
      (hcount : ∀ order, r = .submitOrder order → Counted s φ.history φ.moment) : RunAllowed s φ (.exec p c r)
  | history (t : Int) (count : Nat) (ht : φ.moment = some t) :
      RunAllowed s φ (.history (utcDay t * daySeconds) t count)
  | now : RunAllowed s φ .now
  | closedBars (count : Nat) : RunAllowed s φ (.closedBars s.symbol s.timeframe count)
  | plain (r : RunReq) (hr : r.plain = true) : RunAllowed s φ r

def runProtocol (s : CycleSettings) : Protocol RunReq RunReq.Ans PyExc RunPhase := ⟨RunAllowed s, runNext⟩

omit [CaseMap] in
theorem forget_next (c : SubmitCall) (q : Phase) (r : ExecReq) (ans : Except PyExc r.Ans) (hr : r.callback = false) :
    (phaseNext c q.forget r ans).forget = (phaseNext c q r ans).forget := by
  cases q with
  | held o h =>
    cases r with
    | store op => cases op <;> rcases ans with _ | a <;> first | rfl | (cases a <;> rfl)
    | contextProvider => cases hr
    | beforeSubmit d => cases hr
    | afterSubmit result => cases hr
    | _ => cases ans <;> rfl
  | _ => rfl

theorem AtStage.phase_eq {p : PlannedOrder} {c : SubmitCall} {q : Phase} {φ : RunPhase} {r : ExecReq}
    (h : AtStage p c q φ) (hr : r.callback = false) (ha : Allowed c q r) : φ.phase r = q.forget := by
  unfold RunPhase.phase
  rcases h with h | ⟨h, rfl | rfl⟩ <;> rw [h]
  · cases ha with
    | draw => rfl
    | after q result => cases hr
    | release q o ho => cases ho
  · cases ha <;> rfl

/-! ## What the counters of a cycle are made of -/

def DailyOf (φ : RunPhase) (d : MainRun.DailyState) : Prop :=
  ∃ snapshot now, φ.history = some snapshot ∧ φ.moment = some now ∧
    d.daily.dailyTradesCount = (closedToday snapshot.trades now).length ∧
    (d.authoritative = true → snapshot.completeness = .complete)

def FromDaily (s : CycleSettings) (φ : RunPhase) (x : ExecutionContext) : Prop :=
  ∃ d, DailyOf φ d ∧ x.maxDailyTrades = some (s.engine.maxTradesDaily : Int) ∧
    x.dailyTradeCount = some (d.daily.dailyTradesCount : Int) ∧ x.dailyStateAuthoritative = d.authoritative

/-- **What the policy passes on these counters, the history counts below the limit.** -/
theorem counted_of_allowed {s : CycleSettings} {φ : RunPhase} {x : ExecutionContext} {intent : ExecutionIntent}
    {fresh : List PositionSnapshot} (hx : FromDaily s φ x)
    (ha : (ExecutionPolicy.evaluate intent (some { x with openPositions := some fresh })).allowed = true) :
    Counted s φ.history φ.moment := by
  obtain ⟨d, ⟨snapshot, now, hh, hm, hcount, hcomplete⟩, hmax, hn, hauth⟩ := hx
  obtain ⟨context, hcontext, hpassed⟩ := ExecutionPolicy.evaluate_allowed ha
  cases hcontext
  have hd : d.authoritative = true := hauth.symm.trans hpassed.daily
  obtain ⟨count, maxCount, _, _, hcount', hmaxCount, _, _, hlt, _⟩ := ExecutionPolicy.limitProblem_eq_none hpassed.limits
  have h₁ : some (d.daily.dailyTradesCount : Int) = some count := hn.symm.trans hcount'
  have h₂ : some (s.engine.maxTradesDaily : Int) = some maxCount := hmax.symm.trans hmaxCount
  simp only [Option.some.injEq] at h₁ h₂
  exact ⟨snapshot, now, hh, hm, hcomplete hd, by omega⟩

section

variable {s : CycleSettings} {φ : RunPhase}

omit [CaseMap] in
theorem runNext_plain (r : RunReq) (ans : Except PyExc r.Ans) (hr : r.plain = true) : runNext φ r ans = φ := by
  cases r with
  | now => cases hr
  | closedBars symbol timeframe count => cases hr
  | exec p c r => cases hr
  | history start endAt count => cases hr
  | _ => rfl

theorem wp_plain (r : RunReq) (hr : r.plain = true) {post : Except PyExc r.Ans → RunPhase → Prop}
    (h : ∀ ans, post ans φ) : wp (runProtocol s) (ask r) φ post := by
  refine (wp_perform r φ post).2 ⟨.plain r hr, fun ans => ?_⟩
  have hsame : (runProtocol s).next φ r ans = φ := runNext_plain r ans hr
  rw [hsame]
  exact h ans

theorem wp_plain_bind {α : Type} (r : RunReq) (hr : r.plain = true) {f : r.Ans → RunProg α}
    {post : Except PyExc α → RunPhase → Prop} (herr : ∀ e, post (.error e) φ)
    (hok : ∀ a, wp (runProtocol s) (f a) φ post) : wp (runProtocol s) (ask r >>= f) φ post := by
  rw [wp_bind]
  refine wp_plain r hr fun ans => ?_
  cases ans with
  | error e => exact herr e
  | ok a => exact hok a

theorem wp_readDaily (account : AccountInfo) {post : Except PyExc MainRun.DailyState → RunPhase → Prop}
    (hok : ∀ d φ', φ'.stage = φ.stage → φ'.bars = φ.bars → DailyOf φ' d → post (.ok d) φ')
    (herr : ∀ e φ', φ'.stage = φ.stage → φ'.bars = φ.bars → post (.error e) φ') :
    wp (runProtocol s) (readDaily account) φ post := by
  unfold readDaily
  rw [wp_bind]
  refine (wp_perform _ _ _).2 ⟨.now, fun ans => ?_⟩
  cases ans with
  | error e => exact herr e _ rfl rfl
  | ok endAt =>
    dsimp only
    rw [wp_bind]
    refine (wp_perform _ _ _).2 ⟨.history endAt 500 rfl, fun ans => ?_⟩
    cases ans with
    | error e => exact herr e _ rfl rfl
    | ok history =>
      dsimp only
      rw [wp_bind]
      refine (wp_perform _ _ _).2 ⟨.now, fun ans => ?_⟩
      cases ans with
      | error e => exact herr e _ rfl rfl
      | ok today =>
        dsimp only
        rw [wp_bind, wp_ofExcept]
        cases hdaily : reconcileDailyHistory history.trades account.balance today with
        | error e => exact herr e _ rfl rfl
        | ok daily =>
          refine hok _ _ rfl rfl ⟨history, today, rfl, rfl, reconcileDailyHistory_ok hdaily, fun hcovers => ?_⟩
          unfold TradeHistorySnapshot.covers at hcovers
          simp only [Bool.and_eq_true, beq_iff_eq] at hcovers
          exact hcovers.1.1

/-! ## The executor in a cycle -/

def Phase.fresh : Phase → Bool
  | idle | drawn _ => true
  | _ => false

theorem fresh_next {c : SubmitCall} {q : Phase} {r : ExecReq} {ans : Except PyExc r.Ans} (ha : Allowed c q r)
    (hq' : (phaseNext c q r ans).fresh = true) : q.fresh = true := by
  cases ha with
  | draw => rfl
  | acquire o => rfl
  | after q result => rwa [AsyncTradeExecutor.phaseNext_after] at hq'
  | release q o ho => rwa [AsyncTradeExecutor.phaseNext_release] at hq'
  | claim o h record broker hs hp hr => rcases ans with _ | _ | _ | _ <;> cases hq'
  | confirm o h a b hc => cases hq'
  | doubt o h => cases hq'
  | before o h decision => cases hq'
  | _ => cases ans <;> cases hq'

structure ExecAt (s : CycleSettings) (p : PlannedOrder) (c : SubmitCall) (q : Phase) (φ : RunPhase) : Prop where
  stage : AtStage p c q φ
  planned : PlannedOn s φ.bars p
  given : q.fresh = true → ∀ x, c.context = some x → FromDaily s φ x
  held : ∀ o h x, q = .held o h → h.context = some x → FromDaily s φ x
  claimed : ∀ o, q = .claimed o → Counted s φ.history φ.moment

namespace ExecAt

variable {p : PlannedOrder} {c : SubmitCall} {q : Phase} {r : ExecReq}

theorem counted (hR : ExecAt s p c q φ) {o : String} {h : Held} (hq : q = .held o h) (hp : passedOn c h) :
    Counted s φ.history φ.moment := by
  obtain ⟨context, items, fresh, hcontext, _, _, hallowed⟩ := hp
  exact counted_of_allowed (hR.held o h context hq hcontext) hallowed

theorem next (hR : ExecAt s p c q φ) (ha : Allowed c q r) (hr : r.callback = false) (ans : Except PyExc r.Ans) :
    ExecAt s p c (phaseNext c q r ans) (runNext φ (.exec p c r) ans) := by
  have hphase := hR.stage.phase_eq hr ha
  have hforget := forget_next c q r ans hr
  have stage : (runNext φ (.exec p c r) ans).stage = some (p, c, (phaseNext c q r ans).forget) := by
    rw [← hforget, ← hphase]
    cases r <;> rfl
  by_cases horder : ∃ order, r = .submitOrder order
  · -- the order is sent: nothing but the stage is left
    obtain ⟨order, rfl⟩ := horder
    cases ha with
    | submit o _ ho =>
      refine ⟨.inl stage, hR.planned, fun hq' => ?_, fun o' h x hq' => ?_, fun o' hq' => ?_⟩ <;> cases ans <;> cases hq'
  · have hφ : (runNext φ (.exec p c r) ans).history = φ.history ∧ (runNext φ (.exec p c r) ans).moment = φ.moment ∧
        (runNext φ (.exec p c r) ans).bars = φ.bars := by
      cases r with
      | submitOrder order => exact absurd ⟨order, rfl⟩ horder
      | _ => exact ⟨rfl, rfl, rfl⟩
    have from_old : ∀ {x}, FromDaily s φ x → FromDaily s (runNext φ (.exec p c r) ans) x := by
      rintro x ⟨d, ⟨snapshot, now, hh, hm, hrest⟩, hx⟩
      exact ⟨d, ⟨snapshot, now, hφ.1.trans hh, hφ.2.1.trans hm, hrest⟩, hx⟩
    refine ⟨.inl stage, hφ.2.2 ▸ hR.planned, fun hq' x hx => from_old (hR.given (fresh_next ha hq') x hx), fun o h' x hq' hx => ?_,
      fun o hq' => ?_⟩
    · rcases held_next ha hq' with ⟨rfl, rfl⟩ | ⟨h, rfl, hcontext, _⟩
      · exact from_old (hR.given rfl x hx)
      · have hne : r ≠ .contextProvider := by
          rintro rfl
          cases hr
        rw [hcontext hne] at hx
        exact from_old (hR.held o h x rfl hx)
    · rw [hφ.1, hφ.2.1]
      rcases claimed_next ha hq' with rfl | hno
      · exact hR.claimed o rfl
      · have hyes : (phaseNext c q r ans).hasClaimed = true := by
          rw [hq']
          rfl
        rcases hasClaimed_cases ha hyes with hq | ⟨o', h, hq, hp⟩
        · rw [hno] at hq
          cases hq
        · exact hR.counted hq hp

theorem provide (hR : ExecAt s p c q φ) (ha : Allowed c q .contextProvider) {φ' : RunPhase}
    (hstage : φ'.stage = φ.stage) (hbars : φ'.bars = φ.bars) (ans : Except PyExc (Option ExecutionContext))
    (hans : ∀ x, ans = .ok (some x) → FromDaily s φ' x) :
    ExecAt s p c (phaseNext c q .contextProvider ans) φ' := by
  cases ha with
  | provide o h hs =>
    have next : phaseNext c (.held o h) .contextProvider ans = .held o { h with context := ans.toOption.join } := by
      cases ans <;> rfl
    rw [next]
    refine ⟨.inl ?_, hbars ▸ hR.planned, fun hq' => (by cases hq'), fun o' h' x hq' hx => ?_, fun o' hq' => (by cases hq')⟩
    · rcases hR.stage with hst | ⟨_, hq | hq⟩
      · exact hstage.trans hst
      · cases hq
      · -- a reconciliation asks for no context
        cases hq
        cases hs
    · cases hq'
      cases ans with
      | error e => cases hx
      | ok context => exact hans x (by rw [show context = some x from hx])

end ExecAt

theorem wp_execOver {p : PlannedOrder} {c : SubmitCall} (account : AccountInfo) (context : ExecutionContext)
    (hkey : c.key = p.buildExecutionIdempotencyKey) (r : ExecReq) (q : Phase) (φ : RunPhase)
    (hR : ExecAt s p c q φ) (ha : Allowed c q r) :
    wp (runProtocol s) (execOver s account context p c r) φ fun ans φ' =>
      ExecAt s p c (phaseNext c q r ans) φ' := by
  have asked : r.callback = false → wp (runProtocol s) (ask (.exec p c r)) φ fun ans φ' =>
      ExecAt s p c (phaseNext c q r ans) φ' := by
    intro hr
    refine (wp_perform _ _ _).2 ⟨.exec p c q r hR.stage hR.planned hkey hr ha fun order horder => ?_, fun ans =>
      hR.next ha hr ans⟩
    subst horder
    cases ha with
    | submit o _ ho => exact hR.claimed o rfl
  cases r with
  | contextProvider =>
    unfold execOver MainRun.refreshExecutionContext
    rw [wp_bind]
    refine wp_plain _ rfl fun ans => ?_
    cases ans with
    | error e => exact hR.provide ha rfl rfl _ (by simp)
    | ok account =>
      dsimp only
      rw [wp_bind]
      refine wp_readDaily account (fun d φ' hstage hbars hd => ?_) fun e φ' hstage hbars =>
        hR.provide ha hstage hbars _ (by simp)
      refine hR.provide ha hstage hbars (.ok (some (MainRun.withDaily s context d))) fun x hx => ?_
      cases hx
      exact ⟨d, hd, rfl, rfl, rfl⟩
  | beforeSubmit decision =>
    cases ha with
    | before o h _ =>
      unfold execOver
      rw [wp_bind]
      refine wp_plain _ rfl fun ans => ?_
      cases ans with
      | error e => exact hR
      | ok _ => exact wp_plain _ rfl fun ans => hR
  | afterSubmit result =>
    unfold execOver
    refine wp_plain _ rfl fun ans => ?_
    rwa [AsyncTradeExecutor.phaseNext_after]
  | _ => exact asked rfl

/-! ## The cycle -/

theorem wp_submitted (p : PlannedOrder) (result : ExecutionResult) :
    wp (runProtocol s) (submitted s p result) φ fun _ _ => True := by
  unfold submitted
  refine wp_plain_bind _ rfl (fun _ => trivial) fun _ => ?_
  split
  · split
    · trivial
    · exact wp_plain_bind _ rfl (fun _ => trivial) fun _ => trivial
  · trivial

theorem wp_submission {p : PlannedOrder} {c : SubmitCall} (account : AccountInfo) {context : ExecutionContext}
    (hplan : PlannedOn s φ.bars p) (hkey : c.key = p.buildExecutionIdempotencyKey) (hcontext : c.context = some context)
    (hφ : φ.stage = none) (hdaily : FromDaily s φ context) :
    wp (runProtocol s) (submission s account context p c) φ fun _ _ => True := by
  have hR : ExecAt s p c .idle φ := by
    refine ⟨.inr ⟨hφ, .inl rfl⟩, hplan, fun _ x hx => ?_, fun o h x hq => (by cases hq), fun o hq => (by cases hq)⟩
    rw [hcontext, Option.some.injEq] at hx
    rwa [← hx]
  unfold submission
  rw [wp_bindAny]
  refine wp_mono (fun out φ' _ => ?_) _ _ (wp_interpret (R := fun q φ' => ExecAt s p c q φ')
    (wp_execOver account context hkey) _ .idle φ hR (AsyncTradeExecutor.submit_conforms c))
  cases out with
  | ok result => exact wp_submitted p result
  | error e =>
    dsimp only
    split
    · exact wp_plain_bind _ rfl (fun _ => trivial) fun _ => trivial
    · trivial

theorem wp_recovered {p : PlannedOrder} {c : SubmitCall} (account : AccountInfo) (context : ExecutionContext)
    (existing : IntentRecord) (hplan : PlannedOn s φ.bars p) (hkey : c.key = p.buildExecutionIdempotencyKey)
    (hφ : φ.stage = none) :
    wp (runProtocol s) (recovered s account context p c existing) φ fun _ _ => True := by
  have hR : ExecAt s p c (.held "" recovering) φ := by
    refine ⟨.inr ⟨hφ, .inr rfl⟩, hplan, fun hq => (by cases hq), fun o h x hq hx => ?_, fun o hq => (by cases hq)⟩
    cases hq
    cases hx
  have hreconcile : wp (submitProtocol c) (AsyncTradeExecutor.reconcile c none) (.held "" recovering) fun _ _ => True :=
    AsyncTradeExecutor.wp_reconcile "" recovering none fun _ _ _ _ _ => trivial
  unfold recovered
  rw [wp_bind]
  refine wp_mono (fun out φ' _ => ?_) _ _ (wp_interpret (R := fun q φ' => ExecAt s p c q φ')
    (wp_execOver account context hkey) _ (.held "" recovering) φ hR hreconcile)
  cases out with
  | error e => trivial
  | ok result =>
    dsimp only
    split
    · split
      · exact wp_plain_bind _ rfl (fun _ => trivial) fun _ => trivial
      · trivial
    · trivial

theorem wp_execute {d : MainRun.DailyState} (riskPercent : ℚ) (plan : TradePlan) (side : OrderSide)
    (stopLoss takeProfit : PyFloat) (latest : ClosedBar)
    (hplan : normalizeSymbol plan.symbol = normalizeSymbol s.symbol → ∀ sizing,
      PlannedOn s φ.bars (plannedOrder plan side stopLoss takeProfit latest sizing))
    (hφ : φ.stage = none) (hd : DailyOf φ d) :
    wp (runProtocol s) (execute s d riskPercent plan side stopLoss takeProfit latest) φ fun _ _ => True := by
  unfold execute
  refine wp_plain_bind _ rfl (fun _ => trivial) fun sizing => ?_
  refine wp_plain_bind _ rfl (fun _ => trivial) fun _ => ?_
  split
  · trivial
  · rename_i hsymbol
    have hp := hplan (not_not.1 hsymbol) sizing
    refine wp_plain_bind _ rfl (fun _ => trivial) fun existing => ?_
    refine wp_plain_bind _ rfl (fun _ => trivial) fun items => ?_
    split
    · trivial
    · split
      · exact wp_recovered d.account _ _ hp rfl hφ
      · dsimp only
        generalize hc : MainRun.submitCall s _ sizing _ = c
        obtain ⟨hkey, hcontext⟩ : c.key = PlannedOrder.buildExecutionIdempotencyKey _ ∧ c.context = some _ := by
          rw [← hc]
          exact ⟨rfl, rfl⟩
        exact wp_submission d.account hp hkey hcontext hφ ⟨d, hd, rfl, rfl, rfl⟩

theorem wp_trade {d : MainRun.DailyState} {a : Analysis} {latest : ClosedBar} {answer : List ClosedBar}
    (hbars : φ.bars = some answer) (ha : s.analyse (work s answer) = .ok a)
    (hlatest : (work s answer).getLast? = some latest) (hφ : φ.stage = none) (hd : DailyOf φ d) :
    wp (runProtocol s) (trade s d a latest) φ fun _ _ => True := by
  unfold trade
  dsimp only
  split
  · exact wp_plain_bind _ rfl (fun _ => trivial) fun _ => trivial
  · split
    · trivial
    · split
      · exact wp_plain_bind _ rfl (fun _ => trivial) fun _ => trivial
      · rename_i side stopLoss takeProfit hvalid
        refine wp_execute _ _ _ _ _ latest (fun hsymbol sizing => ⟨answer, hbars, ?_⟩) hφ hd
        unfold CycleSettings.planned? plannedOrder
        rw [ha, hlatest]
        simp only [hvalid, Option.map_some, hsymbol]

theorem wp_startup {post : Except PyExc AccountInfo → RunPhase → Prop} (h : ∀ out, post out φ) :
    wp (runProtocol s) (startup s) φ post := by
  unfold startup
  refine wp_plain_bind _ rfl (fun _ => h _) fun account => ?_
  split
  · exact h _
  · have rest : wp (runProtocol s) (do
        ask .recover
        let unresolved ← ask .listUnresolved
        if unresolved ≠ 0 then
          ask (.publish (.safety "UNRESOLVED_DURABLE_INTENT"))
          fail "New durable execution blocked after startup recovery: unresolved persisted intents remain"
        else return account) φ post := by
      refine wp_plain_bind _ rfl (fun _ => h _) fun _ => ?_
      refine wp_plain_bind _ rfl (fun _ => h _) fun unresolved => ?_
      split
      · exact wp_plain_bind _ rfl (fun _ => h _) fun _ => h _
      · exact h _
    split
    · refine wp_plain_bind _ rfl (fun _ => h _) fun halt => ?_
      dsimp only
      split
      · exact h _
      · exact rest
    · exact rest

theorem wp_closedBars {post : Except PyExc (List ClosedBar) → RunPhase → Prop}
    (hok : ∀ answer, post (.ok (work s answer)) { φ with bars := some answer })
    (herr : ∀ e φ', post (.error e) φ') : wp (runProtocol s) (closedBars s) φ post := by
  unfold closedBars
  rw [wp_bind]
  refine (wp_perform _ _ _).2 ⟨.closedBars _, fun ans => ?_⟩
  cases ans with
  | error e => exact herr e _
  | ok answer =>
    dsimp only
    split
    · exact herr _ _
    · exact hok answer

end

theorem MainRun.run_conforms (s : CycleSettings) :
    wp (runProtocol s) (run s) .start fun _ _ => True := by
  unfold run
  refine wp_plain_bind _ rfl (fun _ => trivial) fun _ => ?_
  refine wp_plain_bind _ rfl (fun _ => trivial) fun _ => ?_
  rw [wp_bind]
  refine wp_startup fun out => ?_
  cases out with
  | error e => trivial
  | ok account =>
    dsimp only
    rw [wp_bind]
    refine wp_closedBars (fun answer => ?_) fun e φ' => trivial
    dsimp only
    rw [wp_bind, wp_ofExcept]
    cases hanalysis : s.analyse (work s answer) with
    | error e => trivial
    | ok analysis =>
      dsimp only
      refine wp_plain_bind _ rfl (fun _ => trivial) fun _ => ?_
      rw [wp_bind]
      refine wp_readDaily account (fun d φ' hstage hbars hd => ?_) fun _ _ _ _ => trivial
      dsimp only
      split
      · trivial
      · rename_i latest hlatest
        exact wp_trade hbars hanalysis hlatest hstage hd

end Jqe
