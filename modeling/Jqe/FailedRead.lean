import Jqe.ExecScript
import Jqe.Alerts
import Jqe.TerminalAudit
/-!
# FailedRead — a failed read of the positions is no empty book, but for the terminal's error answer

The phases of a submission over MT5 are those of the submission with the last read of the positions; `order_judged`
says of every run that sends an order what that read was.
-/
namespace Jqe

open Coro

variable [CaseMap] {c : SubmitCall}

def JudgedOn (c : SubmitCall) (last : Option (Except PyExc PositionRead)) : Prop :=
  ∃ (read : PositionRead) (items : List PositionItem) (fresh : List PositionSnapshot) (context : ExecutionContext),
    last = some (.ok read) ∧ read.positions = .ok items ∧ fromPositions items = some fresh ∧
    (ExecutionPolicy.evaluate c.intent (some { context with openPositions := some fresh })).allowed = true

def readAnswer (ans : Except PyExc PositionRead) : Except PyExc (List PositionItem) := ans.bind (·.positions)

/-- What may be asked over MT5: what the submission may ask, and an order only where it is judged on the last read. -/
def overMt5Allows (c : SubmitCall) (q : Phase × Option (Except PyExc PositionRead)) : Mt5ExecReq → Prop
  | .exec r => Allowed c q.1 r ∧ ∀ order, r = .submitOrder order → JudgedOn c q.2
  | .positions => Allowed c q.1 .getPositions

def overMt5Next (c : SubmitCall) (q : Phase × Option (Except PyExc PositionRead)) :
    (r : Mt5ExecReq) → Except PyExc r.Ans → Phase × Option (Except PyExc PositionRead)
  | .exec r, ans => (phaseNext c q.1 r ans, q.2)
  | .positions, ans => (phaseNext c q.1 .getPositions (readAnswer ans), some ans)

def overMt5Protocol (c : SubmitCall) :
    Protocol Mt5ExecReq Mt5ExecReq.Ans PyExc (Phase × Option (Except PyExc PositionRead)) :=
  ⟨overMt5Allows c, overMt5Next c⟩

/-- **What the last read says of a phase**: the view is what it left, and a claim was judged on it. -/
structure ReadOf (c : SubmitCall) (q : Phase) (last : Option (Except PyExc PositionRead)) : Prop where
  view : ∀ o h items, q = .held o h → h.view = some items → ∃ read, last = some (.ok read) ∧ read.positions = .ok items
  claimed : q.hasClaimed = true → JudgedOn c last

namespace ReadOf

variable {q : Phase} {last : Option (Except PyExc PositionRead)}

theorem judged (hR : ReadOf c q last) {o : String} {h : Held} (hq : q = .held o h) (hp : passedOn c h) :
    JudgedOn c last := by
  obtain ⟨context, items, fresh, _, hview, hfresh, hallowed⟩ := hp
  obtain ⟨read, hlast, hread⟩ := hR.view o h items hq hview
  exact ⟨read, items, fresh, context, hlast, hread, hfresh, hallowed⟩

theorem exec {r : ExecReq} (hR : ReadOf c q last) (ha : Allowed c q r) (hr : r ≠ .getPositions)
    (ans : Except PyExc r.Ans) : ReadOf c (phaseNext c q r ans) last where
  view o h' items hq' hv := by
    rcases held_next ha hq' with ⟨_, rfl⟩ | ⟨h, hq, _, hview, _, _⟩
    · cases hv
    · exact hR.view o h items hq (hview hr ▸ hv)
  claimed hq' := by
    rcases hasClaimed_cases ha hq' with hq | ⟨o, h, hq, hp⟩
    · exact hR.claimed hq
    · exact hR.judged hq hp

theorem read (ha : Allowed c q .getPositions) (ans : Except PyExc PositionRead) :
    ReadOf c (phaseNext c q .getPositions (readAnswer ans)) (some ans) := by
  cases ha with
  | positions o h =>
    have next : ∀ x : Except PyExc (List PositionItem), phaseNext c (.held o h) .getPositions x =
        .held o { h with view := x.toOption } := by
      intro x
      cases x <;> rfl
    rw [next]
    refine ⟨fun o' h' items hq' hv => ?_, fun hq' => by cases hq'⟩
    cases hq'
    cases ans with
    | error e => cases hv
    | ok r =>
      refine ⟨r, rfl, ?_⟩
      change r.positions.toOption = some items at hv
      cases hp : r.positions with
      | error e =>
        rw [hp] at hv
        cases hv
      | ok items' =>
        rw [hp] at hv
        cases hv
        rfl

end ReadOf

theorem wp_execOverMt5 (r : ExecReq) (q : Phase) (q' : Phase × Option (Except PyExc PositionRead))
    (hR : q'.1 = q ∧ ReadOf c q q'.2) (ha : Allowed c q r) :
    wp (overMt5Protocol c) (execOverMt5 r) q' fun ans q'' =>
      q''.1 = phaseNext c q r ans ∧ ReadOf c (phaseNext c q r ans) q''.2 := by
  obtain ⟨q₀, last⟩ := q'
  obtain ⟨rfl, hR⟩ := hR
  have exec : r ≠ .getPositions → wp (overMt5Protocol c) (Prog.perform (Mt5ExecReq.exec r)) (q₀, last) fun ans q'' =>
      q''.1 = phaseNext c q₀ r ans ∧ ReadOf c (phaseNext c q₀ r ans) q''.2 := by
    intro hr
    refine (wp_perform (Mt5ExecReq.exec r) (q₀, last) _).2 ⟨⟨ha, fun order horder => hR.claimed ?_⟩, fun ans =>
      ⟨rfl, hR.exec ha hr ans⟩⟩
    subst horder
    cases ha
    rfl
  cases r with
  | getPositions =>
    unfold execOverMt5 readPositions
    rw [wp_bind]
    refine (wp_perform Mt5ExecReq.positions (q₀, last) _).2 ⟨ha, fun ans => ?_⟩
    cases ans with
    | error e => exact ⟨rfl, ReadOf.read ha (.error e)⟩
    | ok r => exact (wp_ofExcept _ _ _).2 ⟨rfl, ReadOf.read ha (.ok r)⟩
  | _ => exact exec (by simp)

/-- **A submission over MT5 keeps to its protocol.** -/
theorem submit_overMt5_conforms (c : SubmitCall) :
    wp (overMt5Protocol c) (overMt5 (AsyncTradeExecutor.submit c)) (.idle, none) fun _ _ => True :=
  wp_mono (fun _ _ _ => trivial) _ _ <|
    wp_interpret (R := fun q q' => q'.1 = q ∧ ReadOf c q q'.2) wp_execOverMt5 _ .idle (.idle, none)
      ⟨rfl, fun o h items hq => (by cases hq), fun hq => by cases hq⟩ (AsyncTradeExecutor.submit_conforms c)

theorem after_lastRead : ∀ (events : List Mt5Event) (q : Phase) (last : Option (Except PyExc PositionRead)),
    ((overMt5Protocol c).after (q, last) events).2 = lastRead last events
  | [], _, _ => rfl
  | ⟨.positions, _⟩ :: events, _, _ => after_lastRead events _ _
  | ⟨.exec _, _⟩ :: events, _, _ => after_lastRead events _ _

theorem order_judged {pre rest : List Mt5Event} {order : OrderRequest} {ans : Except PyExc Unit}
    (htr : (overMt5 (AsyncTradeExecutor.submit c)).Trace (pre ++ ⟨.exec (.submitOrder order), ans⟩ :: rest)) :
    JudgedOn c (freshRead pre) := by
  have hallowed := wp_trace (r := .exec (.submitOrder order)) pre _ _ (submit_overMt5_conforms c) htr
  have hlast := after_lastRead (c := c) pre .idle none
  have hjudged := hallowed.2 order rfl
  rwa [hlast] at hjudged

end Jqe

namespace Jqe

open Coro

section
variable [CaseMap]

/-- **No consumer takes what `get_positions` left for an empty book**: the policy allows nothing, the audit reports the
broker unavailable, and the observation of a fill does not return. -/
structure NeverEmpty (answer : Except PyExc (List PositionItem)) : Prop where
  policy : ∀ intent context,
    (ExecutionPolicy.evaluate intent (AsyncTradeExecutor.effectiveContext context answer.toOption)).allowed = false
  audit : ∀ (a : TerminalReconciliationAuditor) (s : AuditSources) (report : AuditReconciliationReport),
    a.audit answer s = .ok report → report = a.unavailable
  fill : ∀ (f : FillObservation) (terms : Alerts.FillTerms) (W : Type) (h : Handler AlertReq AlertReq.Ans PyExc W)
    (w : W), (h w .getPositions).1 = answer → ∃ e, ((Alerts.observeFill f terms).run h w).1 = .error e

theorem ExecutionPolicy.evaluate_none (intent : ExecutionIntent) :
    (ExecutionPolicy.evaluate intent none).allowed = false := by
  by_contra h
  obtain ⟨c, hc, _⟩ := evaluate_allowed (Bool.not_eq_false _ ▸ h)
  cases hc

section

variable {W : Type} {h : Handler AlertReq AlertReq.Ans PyExc W} {w : W} {e : PyExc}

theorem tryExcept_raised {α : Type} {p handler : AlertProg α} (hp : (p.run h w).1 = .error e)
    (hhandler : ∀ w, ∃ e, (handler.run h w).1 = .error e) :
    ∃ e', ((Alerts.tryExcept p handler).run h w).1 = .error e' := by
  unfold Alerts.tryExcept Prog.tryCatch
  rw [Prog.run_bindAny, hp]
  dsimp only
  split
  · exact hhandler _
  · exact ⟨e, rfl⟩

theorem observeFill_raised (f : FillObservation) (terms : Alerts.FillTerms) (hpositions : (h w .getPositions).1 = .error e) :
    ∃ e', ((Alerts.observeFill f terms).run h w).1 = .error e' := by
  have hverify : ((Alerts.verifyFill f terms).run h w).1 = .error e :=
    Prog.run_bind_raised ((congrArg Prod.fst (Prog.run_perform h _ w)).trans hpositions)
  refine (tryExcept_raised hverify fun w => ?_).imp fun _ => Prog.run_bind_raised
  -- whatever became of the halt, the supervisor is told to stop
  rw [Prog.run_bind]
  split <;> exact ⟨_, rfl⟩

end

theorem neverEmpty_error (e : PyExc) : NeverEmpty (.error e) where
  policy intent context := by
    have hnone : AsyncTradeExecutor.effectiveContext context (Except.error e : Except PyExc (List PositionItem)).toOption =
        none := by
      cases context <;> rfl
    rw [hnone]
    exact ExecutionPolicy.evaluate_none intent
  audit a s report h := by
    unfold TerminalReconciliationAuditor.audit at h
    dsimp only at h
    split at h
    · cases h
      rfl
    · cases h
  fill f terms _ _ _ hpositions := observeFill_raised f terms hpositions

def pendingObservation : FillObservation where
  symbol := "PAINX1200"
  side := .buy
  orderId := "7001"
  expectedStopLoss := .fin 90
  brokerResult := none
  rawPosition := none
  requirePosition := false

theorem not_neverEmpty_nil : ¬NeverEmpty (.ok []) := by
  intro h
  obtain ⟨e, he⟩ := h.fill pendingObservation ⟨none, none⟩ Unit (fun _ r => (match r with
    | .getPositions => .ok []
    | _ => .error (.exception "not asked"), ())) () rfl
  cases he

def JudgedOnBook (c : SubmitCall) (last : Option (Except PyExc PositionRead)) : Prop :=
  JudgedOn c last ∧ ∃ read ps, last = some (.ok read) ∧ read.Answered ps

def NullRead (last : Option (Except PyExc PositionRead)) : Prop := ∃ read, last = some (.ok read) ∧ read.Null

theorem JudgedOn.book_iff {c : SubmitCall} {last : Option (Except PyExc PositionRead)} (h : JudgedOn c last) :
    JudgedOnBook c last ↔ ¬NullRead last := by
  constructor
  · rintro ⟨_, read, ps, hlast, hps⟩ ⟨read', hlast', hnull⟩
    rw [hlast] at hlast'
    cases hlast'
    exact hnull.failed ps hps
  · intro hnull
    obtain ⟨read, items, fresh, context, hlast, hread, _⟩ := id h
    refine ⟨h, read, ?_⟩
    rcases PositionRead.positions_ok hread with ⟨ps, hps, _⟩ | ⟨hn, _⟩
    · exact ⟨ps, hlast, hps⟩
    · exact absurd ⟨read, hlast, hn⟩ hnull

/-- **A failed read of the positions is never an empty book, but for the terminal's error answer**: in every run of
`submit` over MT5 an order was judged on positions of the terminal exactly when the read before it was not answered
`None`, and the consumers meet a failed read as one exactly when it was not. -/
theorem failed_read_never_empty (c : SubmitCall) :
    (∀ (pre rest : List Mt5Event) (order : OrderRequest) (ans : Except PyExc Unit),
      (overMt5 (AsyncTradeExecutor.submit c)).Trace (pre ++ ⟨.exec (.submitOrder order), ans⟩ :: rest) →
        (JudgedOnBook c (freshRead pre) ↔ ¬NullRead (freshRead pre))) ∧
    ∀ read : PositionRead, read.Failed → (NeverEmpty read.positions ↔ ¬read.Null) := by
  refine ⟨fun pre rest order ans htr => (order_judged htr).book_iff, fun read hfail => ⟨fun h hnull => ?_, fun hnull => ?_⟩⟩
  · rw [hnull.positions] at h
    exact not_neverEmpty_nil h
  · obtain ⟨e, he⟩ := hfail.raises hnull
    rw [he]
    exact neverEmpty_error e

end

def Script.overTerminal {B : Type} (s : Script B) (c : SubmitCall) (read : PositionRead) (w : ExecWorld B) :
    (r : Mt5ExecReq) → Except PyExc r.Ans × ExecWorld B
  | .exec r => s.handle c w r
  | .positions => (.ok read, w)

def submitsOrder : Mt5Event → Bool
  | ⟨.exec (.submitOrder _), _⟩ => true
  | _ => false

def beforeOrder (events : List Mt5Event) : List Mt5Event := events.takeWhile fun e => !submitsOrder e

theorem exists_order {events : List Mt5Event} (h : events.any submitsOrder = true) :
    ∃ order ans rest, events = beforeOrder events ++ ⟨.exec (.submitOrder order), ans⟩ :: rest := by
  induction events with
  | nil => cases h
  | cons e events ih =>
    by_cases he : submitsOrder e = true
    · obtain ⟨r, ans⟩ := e
      cases r with
      | positions => cases he
      | exec r =>
        cases r with
        | submitOrder order => exact ⟨order, ans, events, rfl⟩
        | _ => cases he
    · rw [List.any_cons, Bool.or_eq_true] at h
      obtain ⟨order, ans, rest, hrest⟩ := ih (h.resolve_left he)
      have hbefore : beforeOrder (e :: events) = e :: beforeOrder events := by simp [beforeOrder, he]
      exact ⟨order, ans, rest, by rw [hbefore, List.cons_append, ← hrest]⟩

section
local instance failedReadCase : CaseMap := asciiCase

def sampleSubmission : Prog Mt5ExecReq Mt5ExecReq.Ans PyExc ExecutionResult :=
  overMt5 (AsyncTradeExecutor.submit (sampleCall "PAINX1200" "k1" ["PAINX1200"] 1))

def sampleEvents (positionsGet : Sdk (Option (List Mt5Position))) : List Mt5Event :=
  sampleSubmission.events
    ((fillingScript none).overTerminal (sampleCall "PAINX1200" "k1" ["PAINX1200"] 1) ⟨.sampleGateway, positionsGet⟩)
    (startWorld ())

theorem sample_trace (positionsGet : Sdk (Option (List Mt5Position)))
    (h : (sampleEvents positionsGet).any submitsOrder = true) : ∃ order ans rest,
      sampleSubmission.Trace (beforeOrder (sampleEvents positionsGet) ++ ⟨.exec (.submitOrder order), ans⟩ :: rest) := by
  obtain ⟨order, ans, rest, hrest⟩ := exists_order h
  exact ⟨order, ans, rest, hrest ▸ Prog.trace_events _ _ _⟩

/-- A terminal without open positions: the order is judged on its empty book. -/
theorem failed_read_never_empty_answered :
    ∃ (pre rest : List Mt5Event) (order : OrderRequest) (ans : Except PyExc Unit),
      sampleSubmission.Trace (pre ++ ⟨.exec (.submitOrder order), ans⟩ :: rest) ∧
        JudgedOnBook (sampleCall "PAINX1200" "k1" ["PAINX1200"] 1) (freshRead pre) := by
  obtain ⟨order, ans, rest, htr⟩ := sample_trace (.ok (some [])) (by decide +kernel)
  refine ⟨_, rest, order, ans, htr, ((failed_read_never_empty _).1 _ _ _ _ htr).2 ?_⟩
  rintro ⟨read, hlast, _, hnull⟩
  have hread : freshRead (beforeOrder (sampleEvents (.ok (some [])))) =
      some (.ok ⟨.sampleGateway, .ok (some [])⟩) := by decide +kernel
  rw [hread] at hlast
  cases hlast
  cases hnull

/-- **The error answer passes for an empty book**: an order is sent after it, and a fill that may be pending is left
alone. -/
theorem failed_read_taken_empty :
    ¬((∀ (c : SubmitCall) (pre rest : List Mt5Event) (order : OrderRequest) (ans : Except PyExc Unit),
        (overMt5 (AsyncTradeExecutor.submit c)).Trace (pre ++ ⟨.exec (.submitOrder order), ans⟩ :: rest) →
          ∀ read, freshRead pre = some (.ok read) → ¬read.Failed) ∨
      ∀ read : PositionRead, read.Failed → NeverEmpty read.positions) := by
  have hnull : PositionRead.Null ⟨.sampleGateway, .ok none⟩ := ⟨rfl, rfl⟩
  rintro (h | h)
  · obtain ⟨order, ans, rest, htr⟩ := sample_trace (.ok none) (by decide +kernel)
    exact h _ _ _ _ _ htr ⟨.sampleGateway, .ok none⟩ (by decide +kernel) hnull.failed
  · have hempty := h _ hnull.failed
    rw [hnull.positions] at hempty
    exact not_neverEmpty_nil hempty

end

end Jqe
