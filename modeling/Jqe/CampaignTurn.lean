import Jqe.Campaign
/-!
# CampaignTurn — what one turn of a campaign does

A turn in which `run_once` catches nothing has claimed its candle, evaluated it once and stored a record with the facts
of that evaluation.
-/
namespace Jqe
namespace Campaign

open Coro Prog Confirmation ContinuousPaperRuntime
open Ensures (bind)
open PaperRuntimeStateStore (begin)

variable [CaseMap]

/-- The requests of a turn that catches no failure and whose due candidates have the confidence of their entry candle. -/
def Quiet (w : World) : Req → Prop
  | .paper (.paperEvent kind) => kind ≠ "RUNTIME_ERROR"
  | .evaluateProductionDecision _ signal _ => signal.confidence? = w.facts.signalConfidence
  | _ => True

def QuietExec (regimeOf : List ClosedMarketObservation → String) (bs : List ClosedMarketObservation) (w : World)
    (r : Req) (ans : Except PyExc r.Ans) (w' : World) : Prop :=
  Exec regimeOf bs w r ans w' ∧ Quiet w r

variable {regimeOf : List ClosedMarketObservation → String} {bs : List ClosedMarketObservation} {w w' : World}

/-! ### The decision builder -/

/-- **The facts of the candle's own evaluation stand**, after one evaluation more. -/
structure OwnFacts (evaluations : List (ℤ × Facts)) (records : List Record) (t : ℤ) (own : Facts) (w : World) : Prop where
  evaluations : w.evaluations = evaluations ++ [(t, own)]
  records : w.records = records
  regime : w.facts.regime = own.regime
  direction : w.facts.strategySignalDirection = own.signalDirection
  confidence : w.facts.signalConfidence = own.signalConfidence

def Decided (evaluations : List (ℤ × Facts)) (records : List Record) (t : ℤ) (w : World) : Prop :=
  ∃ own, own.signalDirection.isSome ∧ OwnFacts evaluations records t own w

variable {evaluations : List (ℤ × Facts)} {records : List Record} {t : ℤ} {own : Facts}

def Frames : Req → Prop
  | .evaluateStrategyCandidate _ | .setFacts _ | .append _ => False
  | _ => True

theorem Exec.frames {r : Req} {ans : Except PyExc r.Ans} (h : Exec regimeOf bs w r ans w') (hr : Frames r) :
    w'.facts = w.facts ∧ w'.evaluations = w.evaluations ∧ w'.records = w.records := by
  cases h with
  | candidate | candidateFailed | setFacts | append | appendFailed => exact hr.elim
  | _ => exact ⟨rfl, rfl, rfl⟩

omit [CaseMap] in
theorem OwnFacts.frames (h : OwnFacts evaluations records t own w)
    (hw : w'.facts = w.facts ∧ w'.evaluations = w.evaluations ∧ w'.records = w.records) :
    OwnFacts evaluations records t own w' := by
  obtain ⟨hfacts, hevaluations, hrecords⟩ := hw
  exact ⟨hevaluations.trans h.evaluations, hrecords.trans h.records, by rw [hfacts]; exact h.regime,
    by rw [hfacts]; exact h.direction, by rw [hfacts]; exact h.confidence⟩

theorem ensures_frames {r : Req} (hr : Frames r) :
    Ensures (QuietExec regimeOf bs) (OwnFacts evaluations records t own) (ask r)
      fun _ => OwnFacts evaluations records t own :=
  ensures_perform fun _ _ _ hw hx => hw.frames (hx.1.frames hr)

theorem ensures_facts :
    Ensures (QuietExec regimeOf bs) (OwnFacts evaluations records t own) (ask .facts) fun out w =>
      OwnFacts evaluations records t own w ∧ ∀ facts, out = .ok facts → facts = w.facts := by
  refine ensures_perform fun w ans w' hw hx => ?_
  obtain ⟨hx, -⟩ := hx
  cases hx
  exact ⟨hw, fun facts h => by cases h; rfl⟩

theorem ensures_setFacts {P : World → Prop} {facts : Facts} (hw : ∀ w, P w → OwnFacts evaluations records t own w)
    (hfacts : ∀ w, P w → facts.regime = own.regime ∧ facts.strategySignalDirection = own.signalDirection ∧
      facts.signalConfidence = own.signalConfidence) :
    Ensures (QuietExec regimeOf bs) P (ask (.setFacts facts)) fun _ => OwnFacts evaluations records t own := by
  refine ensures_perform fun w ans w' hP hx => ?_
  obtain ⟨hx, -⟩ := hx
  cases hx
  obtain ⟨hregime, hdirection, hconfidence⟩ := hfacts w hP
  exact ⟨(hw w hP).evaluations, (hw w hP).records, hregime, hdirection, hconfidence⟩

variable {α : Type} {o : ClosedMarketObservation} {out : Except PyExc α}

theorem ensures_saved (a : α) :
    Ensures (QuietExec regimeOf bs) (OwnFacts evaluations records t own) (do ask .save; return a)
      fun _ => OwnFacts evaluations records t own :=
  bind (ensures_frames trivial) (fun _ => ensures_pure fun _ h => h) fun _ _ h => h

variable {symbol : String} {timeframe : Timeframe} {latest : ClosedMarketObservation} {signal : Signal}

/-- **An entry that is due** keeps the regime and the direction of its candle, and here its confidence. -/
theorem ensures_entryDue (candidate : PendingHistoricalCandidate ℤ) (hregime : own.regime = some (regimeOf bs)) :
    Ensures (QuietExec regimeOf bs) (OwnFacts evaluations records t own)
      (entryDue symbol timeframe bs latest candidate) fun _ => OwnFacts evaluations records t own := by
  unfold entryDue
  split
  · next original _ =>
    have hproduce : Ensures (QuietExec regimeOf bs) (OwnFacts evaluations records t own)
        (ask (.evaluateProductionDecision bs original latest.open_)) fun out w => OwnFacts evaluations records t own w ∧
          Signal.confidence? original = own.signalConfidence ∧ ∀ answer, out = .ok answer → answer.regime = regimeOf bs := by
      refine ensures_perform fun w ans w' hw hx => ?_
      obtain ⟨hx, hquiet⟩ := hx
      have hconfidence := hquiet.trans hw.confidence
      cases hx with
      | production _ _ _ hanswer => exact ⟨hw, hconfidence, fun answer h => by cases h; exact hanswer⟩
      | productionFailed => exact ⟨hw, hconfidence, fun answer h => by cases h⟩
    refine bind hproduce (fun answer => ?_) fun _ _ h => h.1
    have hread : Ensures (QuietExec regimeOf bs) (fun w => OwnFacts evaluations records t own w ∧
        Signal.confidence? original = own.signalConfidence ∧ answer.regime = regimeOf bs) (ask .facts) fun out w =>
          OwnFacts evaluations records t own w ∧ Signal.confidence? original = own.signalConfidence ∧
            answer.regime = regimeOf bs ∧ ∀ facts, out = .ok facts → facts = w.facts := by
      refine ensures_perform fun w ans w' hw hx => ?_
      obtain ⟨hx, -⟩ := hx
      cases hx
      exact ⟨hw.1, hw.2.1, hw.2.2, fun facts h => by cases h; rfl⟩
    refine bind (hread.imp (fun w hw => ⟨hw.1, hw.2.1, hw.2.2 answer rfl⟩) fun _ _ h => h) (fun facts => ?_)
      fun _ _ h => h.1
    refine bind (ensures_setFacts (fun w hw => hw.1) fun w hw => ?_) (fun _ => ?_) fun _ _ h => h
    · obtain ⟨hown, hconfidence, hanswer, hfacts⟩ := hw
      refine ⟨?_, ?_, hconfidence⟩
      · rw [hregime]
        exact congrArg some hanswer
      · rw [hfacts facts rfl]
        exact hown.direction
    · refine bind (ensures_frames trivial) (fun _ => ?_) fun _ _ h => h
      exact bind (ensures_frames trivial) (fun _ => ensures_saved _) fun _ _ h => h
  · exact ensures_raise fun _ h => h

theorem ensures_settled (transition : ConfirmationTransition ℤ) :
    Ensures (QuietExec regimeOf bs) (OwnFacts evaluations records t own) (settled transition)
      fun _ => OwnFacts evaluations records t own := by
  unfold settled
  refine bind ensures_facts (fun facts => ?_) fun _ _ h => h.1
  refine bind (ensures_setFacts (fun w hw => hw.1) fun w hw => ?_) (fun _ => ensures_saved _) fun _ _ h => h
  rw [hw.2 facts rfl]
  exact ⟨hw.1.regime, hw.1.direction, hw.1.confidence⟩

theorem ensures_queued (symbol : String) (timeframe : Timeframe) (signal : Signal) (latest : ClosedMarketObservation) :
    Ensures (QuietExec regimeOf bs) (OwnFacts evaluations records t own) (queued symbol timeframe signal latest)
      fun _ => OwnFacts evaluations records t own := by
  have hsame : ∀ (facts : Facts) (w : World), OwnFacts evaluations records t own w → facts = w.facts →
      facts.regime = own.regime ∧ facts.strategySignalDirection = own.signalDirection ∧
        facts.signalConfidence = own.signalConfidence := by
    rintro facts w hw rfl
    exact ⟨hw.regime, hw.direction, hw.confidence⟩
  unfold queued
  refine bind (ensures_frames trivial) (fun pending => ?_) fun _ _ h => h
  refine bind ensures_facts (fun facts => ?_) fun _ _ h => h.1
  split
  · refine bind (R := fun _ w => OwnFacts evaluations records t own w ∧ facts = w.facts)
      (ensures_perform fun w ans w' hw hx => ?_) (fun transition => ?_) fun _ _ h => h.1
    · have hframes := hx.1.frames trivial
      exact ⟨hw.1.frames hframes, by rw [hframes.1]; exact hw.2 facts rfl⟩
    · exact bind (ensures_setFacts (fun w hw => hw.1) fun w hw => hsame facts w hw.1 hw.2) (fun _ => ensures_saved _)
        fun _ _ h => h
  · split
    · exact bind (ensures_setFacts (fun w hw => hw.1) fun w hw => hsame facts w hw.1 (hw.2 facts rfl))
        (fun _ => ensures_saved _) fun _ _ h => h
    · exact (ensures_saved _).imp (fun w hw => hw.1) fun _ _ h => h

theorem ensures_announce (signal : Signal) (transition : ConfirmationTransition ℤ) :
    Ensures (QuietExec regimeOf bs) (OwnFacts evaluations records t own) (announce signal transition)
      fun _ => OwnFacts evaluations records t own := by
  unfold announce
  dsimp only
  split
  · refine bind (ensures_frames trivial) (fun _ => ?_) fun _ _ h => h
    split
    · exact ensures_frames trivial
    · exact ensures_pure fun _ h => h
  · split
    · exact ensures_frames trivial
    · exact ensures_pure fun _ h => h

theorem ensures_branch (transition : ConfirmationTransition ℤ) (hregime : own.regime = some (regimeOf bs)) :
    Ensures (QuietExec regimeOf bs) (OwnFacts evaluations records t own)
      (branch symbol timeframe bs signal latest transition) fun _ => OwnFacts evaluations records t own := by
  unfold branch
  split
  · exact ensures_entryDue _ hregime
  · exact ensures_settled _
  · exact ensures_settled _
  · exact ensures_settled _
  · exact ensures_settled _
  · exact ensures_settled _
  · exact ensures_queued _ _ _ _

theorem ensures_decide (ho : bs.getLast? = some o) :
    Ensures (QuietExec regimeOf bs) (fun w => w.evaluations = evaluations ∧ w.records = records)
      (decide symbol timeframe bs) fun out w => ∀ entry, out = .ok entry → Decided evaluations records o.closedAt w := by
  unfold decide
  refine bind (R := fun out w => ∀ regime signal, out = .ok (regime, signal) → regime = regimeOf bs ∧
    w.evaluations = evaluations ++ [(o.closedAt, candidateFacts regime signal)] ∧ w.records = records)
    (ensures_perform fun w ans w' hw hx => ?_) ?_ fun e w _ entry h => by cases h
  · intro regime signal h
    subst h
    obtain ⟨hx, -⟩ := hx
    cases hx
    unfold World.evaluated
    rw [ho, hw.1]
    exact ⟨rfl, rfl, hw.2⟩
  · rintro ⟨regime, signal⟩
    dsimp only
    rw [ho]
    refine bind (R := fun out w => out = .ok () → regime = regimeOf bs ∧
      OwnFacts evaluations records o.closedAt (candidateFacts regime signal) w)
      (ensures_perform fun w ans w' hw hx => ?_) (fun _ => ?_) fun e w _ entry h => by cases h
    · obtain ⟨hregime, hevaluations, hrecords⟩ := hw regime signal rfl
      obtain ⟨hx, -⟩ := hx
      cases hx
      exact fun _ => ⟨hregime, hevaluations, hrecords, rfl, rfl, rfl⟩
    · dsimp only
      by_cases hregime : regime = regimeOf bs
      · have hrest : Ensures (QuietExec regimeOf bs)
            (OwnFacts evaluations records o.closedAt (candidateFacts regime signal)) (do
              let transition ← ask (.observe (openedAt o) regime)
              announce signal transition
              branch symbol timeframe bs signal o transition)
            fun _ => OwnFacts evaluations records o.closedAt (candidateFacts regime signal) := by
          refine bind (ensures_frames trivial) (fun transition => ?_) fun _ _ h => h
          refine bind (ensures_announce signal transition) (fun _ => ?_) fun _ _ h => h
          exact ensures_branch transition (by rw [← hregime]; rfl)
        exact hrest.imp (fun w hw => (hw rfl).2) fun out w hw entry _ => ⟨_, rfl, hw⟩
      · exact fun w out w' hw _ => absurd (hw rfl).1 hregime

/-! ### The paper runtime -/

def Own : Req → Prop
  | .paper _ => False
  | _ => True

omit [CaseMap] in
theorem makes_own {r : Req} (h : Own r) : (ask r).Makes Own := makes_perform h

omit [CaseMap] in
theorem makes_saved (a : α) : (do ask .save; return a : CampaignProg α).Makes Own :=
  makes_bind (makes_own trivial) fun _ => makes_pure _

omit [CaseMap] in
theorem makes_decide (symbol : String) (timeframe : Timeframe) (window : List ClosedMarketObservation) :
    (decide symbol timeframe window).Makes Own := by
  have hentry : ∀ latest candidate, (entryDue symbol timeframe window latest candidate).Makes Own := by
    intro latest candidate
    unfold entryDue
    split
    · refine makes_bind (makes_own trivial) fun answer => makes_bind (makes_own trivial) fun facts => ?_
      refine makes_bind (makes_own trivial) fun _ => makes_bind (makes_own trivial) fun _ => ?_
      exact makes_bind (makes_own trivial) fun _ => makes_saved _
    · exact trivial
  have hsettled : ∀ transition, (settled transition).Makes Own := by
    intro transition
    unfold settled
    exact makes_bind (makes_own trivial) fun facts => makes_bind (makes_own trivial) fun _ => makes_saved _
  have hqueued : ∀ signal latest, (queued symbol timeframe signal latest).Makes Own := by
    intro signal latest
    unfold queued
    refine makes_bind (makes_own trivial) fun pending => makes_bind (makes_own trivial) fun facts => ?_
    split
    · exact makes_bind (makes_own trivial) fun transition => makes_bind (makes_own trivial) fun _ => makes_saved _
    · split
      · exact makes_bind (makes_own trivial) fun _ => makes_saved _
      · exact makes_saved _
  have hannounce : ∀ signal transition, (announce signal transition).Makes Own := by
    intro signal transition
    unfold announce
    dsimp only
    split
    · refine makes_bind (makes_own trivial) fun _ => ?_
      split
      · exact makes_own trivial
      · exact makes_pure _
    · split
      · exact makes_own trivial
      · exact makes_pure _
  unfold decide
  refine makes_bind (makes_own trivial) fun answer => makes_bind (makes_own trivial) fun _ => ?_
  split
  · exact trivial
  · refine makes_bind (makes_own trivial) fun transition => makes_bind (hannounce _ _) fun _ => ?_
    unfold branch
    split
    · exact hentry _ _
    · exact hsettled _
    · exact hsettled _
    · exact hsettled _
    · exact hsettled _
    · exact hsettled _
    · exact hqueued _ _

theorem ends_own {p : CampaignProg α} (h : Ends (Exec regimeOf bs) p w out w') (hp : p.Makes Own) :
    w'.paper = w.paper := by
  refine Ends.keeps_makes (C := Own) (I := fun w' => w'.paper = w.paper) (fun w₁ r ans w₂ hown hw hx => ?_) h hp rfl
  cases hx with
  | paper => exact hown.elim
  | candidate => exact hw
  | append r =>
    unfold World.insert
    split
    · exact hw
    · exact hw
  | _ => exact hw

def RuntimeExec (regimeOf : List ClosedMarketObservation → String) (bs : List ClosedMarketObservation) (symbol : String)
    (timeframe : Timeframe) (w : World) (r : PaperReq) (ans : Except PyExc r.Ans) (w' : World) : Prop :=
  Ends (QuietExec regimeOf bs) (asPaper symbol timeframe r) w ans w'

def Undecided : PaperReq → Prop
  | .decision _ => False
  | _ => True

theorem RuntimeExec.undecided {r : PaperReq} {ans : Except PyExc r.Ans}
    (h : RuntimeExec regimeOf bs symbol timeframe w r ans w') (hr : Undecided r) :
    QuietExec regimeOf bs w (.paper r) ans w' := by
  have hends : Ends (QuietExec regimeOf bs) (perform (Req.paper r)) w ans w' := by
    cases r with
    | decision => exact hr.elim
    | _ => exact h
  exact ends_perform.1 hends

theorem deliver_of_asPaper {r : PaperReq} {ans : Except PyExc r.Ans}
    (h : Ends (Exec regimeOf bs) (asPaper symbol timeframe r) w ans w') : deliver bs w.paper r ans w'.paper := by
  by_cases hr : Undecided r
  · have hends : Ends (Exec regimeOf bs) (perform (Req.paper r)) w ans w' := by
      cases r with
      | decision => exact hr.elim
      | _ => exact h
    cases ends_perform.1 hends with
    | paper hx => exact hx
  · cases r with
    | decision window =>
      have hkeep : w'.paper = w.paper := ends_own h (makes_decide symbol timeframe window)
      rw [hkeep]
      exact ⟨.decision window ans, trivial⟩
    | _ => exact absurd trivial hr

theorem RuntimeExec.deliver {r : PaperReq} {ans : Except PyExc r.Ans}
    (h : RuntimeExec regimeOf bs symbol timeframe w r ans w') : deliver bs w.paper r ans w'.paper :=
  deliver_of_asPaper (h.map (π := id) fun _ _ _ _ hx => hx.1)

structure SameFacts (w w' : World) : Prop where
  facts : w'.facts = w.facts
  evaluations : w'.evaluations = w.evaluations
  records : w'.records = w.records

omit [CaseMap] in
theorem SameFacts.refl (w : World) : SameFacts w w := ⟨rfl, rfl, rfl⟩

omit [CaseMap] in
theorem SameFacts.trans {w₁ w₂ w₃ : World} (h : SameFacts w₁ w₂) (h' : SameFacts w₂ w₃) : SameFacts w₁ w₃ :=
  ⟨h'.facts.trans h.facts, h'.evaluations.trans h.evaluations, h'.records.trans h.records⟩

omit [CaseMap] in
theorem Decided.same (h : Decided evaluations records t w) (hsame : SameFacts w w') :
    Decided evaluations records t w' := by
  obtain ⟨own, hdirection, hown⟩ := h
  exact ⟨own, hdirection, hown.frames ⟨hsame.facts, hsame.evaluations, hsame.records⟩⟩

theorem ends_undecided {p : PaperProg α} (h : Ends (RuntimeExec regimeOf bs symbol timeframe) p w out w')
    (hp : p.Makes Undecided) : SameFacts w w' := by
  refine h.keeps_makes (C := Undecided) (I := fun w' => SameFacts w w') (fun w₁ r ans w₂ hr hw hx => ?_) hp (.refl w)
  obtain ⟨hx, -⟩ := hx.undecided hr
  obtain ⟨hfacts, hevaluations, hrecords⟩ := hx.frames trivial
  exact hw.trans ⟨hfacts, hevaluations, hrecords⟩

theorem ends_undecided_ask {r : PaperReq} {out : Except PyExc r.Ans}
    (h : Ends (RuntimeExec regimeOf bs symbol timeframe) (ContinuousPaperRuntime.ask r) w out w') (hr : Undecided r) :
    SameFacts w w' := ends_undecided h (makes_perform hr)

theorem ends_deliver {p : PaperProg α} (h : Ends (RuntimeExec regimeOf bs symbol timeframe) p w out w') :
    Ends (Jqe.deliver bs) p w.paper out w'.paper :=
  h.map (π := World.paper) fun _ _ _ _ hx => hx.deliver

variable [CaseFold]

/-- **The work of a cycle** evaluates its candle once. -/
theorem ends_work_decided {now : Int} {report : CycleReport} (ho : bs.getLast? = some o)
    (h : Ends (RuntimeExec regimeOf bs symbol timeframe) (work now bs o) w (.ok report) w') :
    Decided w.evaluations w.records o.closedAt w' := by
  unfold work at h
  obtain ⟨positions, w₁, hpositions, h⟩ := h.bind_ok
  obtain ⟨closedCount, w₂, hobserve, h⟩ := h.bind_ok
  obtain ⟨_, w₃, hdecide, h⟩ := h.bind_ok
  obtain ⟨entry, w₄, hdecision, h⟩ := h.bind_ok
  have hbefore := ((ends_undecided_ask hpositions trivial).trans (ends_undecided hobserve
    (makes_observePositions (fun _ => trivial) (fun _ => trivial) (fun _ => trivial) positions 0))).trans
      (ends_undecided_ask hdecide trivial)
  have hdecided : Decided w.evaluations w.records o.closedAt w₄ := by
    have hexec : RuntimeExec regimeOf bs symbol timeframe w₃ (.decision bs) (.ok entry) w₄ := ends_perform.1 hdecision
    exact ensures_decide ho w₃ _ w₄ ⟨hbefore.evaluations, hbefore.records⟩ hexec entry rfl
  cases entry with
  | none =>
    obtain ⟨-, rfl⟩ := ends_pure.1 h
    exact hdecided
  | some entry =>
    refine hdecided.same (ends_undecided h (makes_mono (fun r hr => ?_) (makes_submitEntry now o entry)))
    cases r with
    | decision => exact hr.elim
    | _ => exact trivial

omit [CaseMap] [CaseFold] in
theorem begin_fresh [CaseMap] {table : PyDict ObservationRow}
    (hrow : ∀ row, table.get? o.scope = some row → row.state = .complete ∧ row.closedAt < o.closedAt) :
    (begin o table).1 = .new := by
  unfold begin
  cases hget : table.get? o.scope with
  | none => rfl
  | some row =>
    obtain ⟨hstate, hlt⟩ := hrow row hget
    dsimp only
    rw [if_neg (by rw [hstate]; decide), if_neg (by omega), if_neg (by omega)]

/-- **A cycle whose candle is newer than its row** evaluates it once. -/
theorem ends_cycle_decided {now : Int} {res : Option PaperRuntimeHeartbeat} (ho : bs.getLast? = some o)
    (hrow : ∀ row, w.paper.observations.get? o.scope = some row → row.state = .complete ∧ row.closedAt < o.closedAt)
    (h : Ends (RuntimeExec regimeOf bs symbol timeframe) (cycle now) w (.ok res) w') :
    Decided w.evaluations w.records o.closedAt w' := by
  obtain ⟨os, w₁, hsource, h⟩ := h.bind_ok
  have hsame := ends_undecided_ask hsource trivial
  obtain ⟨hx, hbs⟩ := (ends_perform.1 hsource).deliver
  have hos : os = bs := Except.ok.inj hbs
  subst hos
  have hpaper : w₁.paper = w.paper := by
    generalize w₁.paper = paper at hx
    cases hx
    rfl
  cases os with
  | nil => cases ho
  | cons first rest =>
    dsimp only [cycleWith] at h
    split at h
    · obtain ⟨herror, -⟩ := ends_raise.1 h
      cases herror
    · split at h
      · obtain ⟨herror, -⟩ := ends_raise.1 h
        cases herror
      · have hlast : (first :: rest).getLast (List.cons_ne_nil first rest) = o := by
          rw [List.getLast?_eq_some_getLast (List.cons_ne_nil first rest)] at ho
          exact Option.some.inj ho
        rw [hlast] at h
        obtain ⟨claim, w₂, hbegin, h⟩ := h.bind_ok
        have hclaimed := ends_undecided_ask hbegin trivial
        obtain ⟨hx, -⟩ := (ends_perform.1 hbegin).deliver
        have hnew : claim = .new := by
          have hclaim : claim = (begin o w₁.paper.observations).1 := by
            generalize w₂.paper = paper at hx
            cases hx
            rfl
          rw [hclaim, hpaper]
          exact begin_fresh hrow
        subst hnew
        obtain ⟨report, w₃, hwork, h⟩ := h.bind_ok
        obtain ⟨_, w₄, hfinish, h⟩ := h.bind_ok
        obtain ⟨-, rfl⟩ := ends_pure.1 h
        have hdecided := ends_work_decided ho hwork
        rw [hclaimed.evaluations, hclaimed.records, hsame.evaluations, hsame.records] at hdecided
        refine hdecided.same (ends_undecided hfinish ?_)
        exact makes_bind (makes_perform trivial) fun _ => makes_bind (makes_perform trivial) fun _ =>
          makes_bind (makes_perform trivial) fun _ => makes_perform trivial

variable [ExcClass]

/-- **`run_once` without a failure** is a cycle without an exception. -/
theorem ends_runOnce {heartbeat : PaperRuntimeHeartbeat}
    (h : Ends (RuntimeExec regimeOf bs symbol timeframe) runOnce w (.ok heartbeat) w') :
    ∃ now res w₁ w₂, Ends (RuntimeExec regimeOf bs symbol timeframe) (cycle now) w₁ (.ok res) w₂ ∧
      (SameVenue w.paper w₁.paper ∧ SameFacts w w₁) ∧ SameVenue w₂.paper w'.paper ∧ SameFacts w₂ w' := by
  have hask : ∀ {r : PaperReq} {out : Except PyExc r.Ans} {w w' : World},
      Ends (RuntimeExec regimeOf bs symbol timeframe) (ContinuousPaperRuntime.ask r) w out w' → Unclaimed r →
        Undecided r → SameVenue w.paper w'.paper ∧ SameFacts w w' :=
    fun h hr hu => ⟨deliver_same (ends_perform.1 h).deliver hr, ends_undecided_ask h hu⟩
  obtain ⟨free, w₁, hlock, h⟩ := h.bind_ok
  have hlocked := hask hlock trivial trivial
  cases free with
  | false =>
    obtain ⟨herror, -⟩ := ends_raise.1 h
    cases herror
  | true =>
    obtain ⟨w₂, _, hbody, hunlock⟩ := Ends.finallyDo_ok h
    have hunlocked := hask hunlock trivial trivial
    obtain ⟨now, w₃, hnow, hbody⟩ := hbody.bind_ok
    have hread := hask hnow trivial trivial
    obtain ⟨mid, w₄, hcycle, hend⟩ := ends_bindAny.1 hbody
    have hfirst : SameVenue w.paper w₃.paper ∧ SameFacts w w₃ := ⟨hlocked.1.trans hread.1, hlocked.2.trans hread.2⟩
    cases mid with
    | ok res =>
      refine ⟨now, res, w₃, w₄, hcycle, hfirst, ?_⟩
      cases res with
      | some heartbeat =>
        obtain ⟨-, rfl⟩ := ends_pure.1 hend
        exact hunlocked
      | none =>
        have hpublish : SameVenue w₄.paper w₂.paper ∧ SameFacts w₄ w₂ :=
          ⟨ends_same (ends_deliver hend) makes_publishHeartbeat, ends_undecided hend
            (makes_bind (makes_perform trivial) fun _ => makes_bind (makes_perform trivial) fun _ => makes_pure _)⟩
        exact ⟨hpublish.1.trans hunlocked.1, hpublish.2.trans hunlocked.2⟩
    | error exc =>
      -- the handler reports the exception
      dsimp only at hend
      split at hend
      · obtain ⟨_, w₅, hfailed, -⟩ := hend.bind_ok
        obtain ⟨old, w₆, -, hfailed⟩ := hfailed.bind_ok
        obtain ⟨_, w₇, -, hevent⟩ := hfailed.bind_ok
        have hexec : RuntimeExec regimeOf bs symbol timeframe w₇ (.paperEvent "RUNTIME_ERROR") (.ok ()) w₅ :=
          ends_perform.1 hevent
        exact absurd rfl (hexec.undecided trivial).2
      · obtain ⟨herror, -⟩ := ends_raise.1 hend
        cases herror

structure Turned (o : ClosedMarketObservation) (w w' : World) : Prop where
  row : w'.paper.observations.get? o.scope = some ⟨o.closedAt, .complete⟩
  recorded : ∃ own r, r.candleCloseTime = o.closedAt ∧ r.Carries own ∧
    w'.evaluations = w.evaluations ++ [(o.closedAt, own)] ∧ w'.records = (w.insert r).records

/-- **A turn that catches nothing**, on a candle newer than the row of its market. -/
theorem ends_turn (ho : bs.getLast? = some o)
    (hrow : ∀ row, w.paper.observations.get? o.scope = some row → row.state = .complete ∧ row.closedAt < o.closedAt)
    (h : Ends (QuietExec regimeOf bs) (turn symbol timeframe o) w (.ok ()) w') : Turned o w w' := by
  unfold turn at h
  obtain ⟨heartbeat, w₁, hcycle, h⟩ := h.bind_ok
  obtain ⟨facts, w₂, hread, h⟩ := h.bind_ok
  obtain ⟨_, w₃, happend, hreport⟩ := h.bind_ok
  -- the cycle
  obtain ⟨now, res, wa, wb, hinner, ⟨hvenue, hsame⟩, hvenue', hsame'⟩ := ends_runOnce hcycle.of_interpret
  rw [← hvenue.observations] at hrow
  have hdecided := (ends_cycle_decided ho hrow hinner).same hsame'
  rw [hsame.evaluations, hsame.records] at hdecided
  have hrow₁ : w₁.paper.observations.get? o.scope = some ⟨o.closedAt, .complete⟩ := by
    obtain ⟨o', ho', hcase⟩ := ends_cycle (ends_deliver hinner)
    rw [ho] at ho'
    cases ho'
    rw [hvenue'.observations]
    rcases hcase with ⟨row, hget, -, hle, -⟩ | ⟨-, hget, -⟩
    · have hlt := (hrow row hget).2
      omega
    · exact hget
  -- the record
  obtain ⟨own, hdirection, hown⟩ := hdecided
  obtain ⟨hx, -⟩ : QuietExec regimeOf bs w₁ .facts (.ok facts) w₂ := ends_perform.1 hread
  have hfacts : facts = w₁.facts ∧ w₂ = w₁ := by
    generalize hans : (Except.ok facts : Except PyExc Facts) = ans at hx
    cases hx
    cases hans
    exact ⟨rfl, rfl⟩
  obtain ⟨rfl, rfl⟩ := hfacts
  obtain ⟨hx, -⟩ : QuietExec regimeOf bs w₂ (.append _) (.ok ()) w₃ := ends_perform.1 happend
  cases hx
  obtain ⟨hx, -⟩ : QuietExec regimeOf bs _ (.report _) (.ok ()) w' := ends_perform.1 hreport
  cases hx
  have hinsert : ∀ r : Record, (w₂.insert r).records = (w.insert r).records ∧
      (w₂.insert r).evaluations = w₂.evaluations ∧ (w₂.insert r).paper = w₂.paper := by
    intro r
    unfold World.insert
    rw [hown.records]
    split
    · exact ⟨hown.records, rfl, rfl⟩
    · exact ⟨rfl, rfl, rfl⟩
  obtain ⟨hrecords, hevaluations, hpaper⟩ := hinsert (record o heartbeat.lastAction w₂.facts)
  refine ⟨by rw [hpaper]; exact hrow₁, own, record o heartbeat.lastAction w₂.facts, rfl, ?_,
    hevaluations.trans hown.evaluations, hrecords⟩
  obtain ⟨raw, hraw⟩ := Option.isSome_iff_exists.1 hdirection
  refine ⟨hown.regime, hown.confidence, ?_⟩
  unfold record
  dsimp only
  rw [hown.direction, hraw]
  rfl

end Campaign
end Jqe
