import Jqe.Slot
import Jqe.ConfirmationState
/-!
# ConfirmationSound — every candidate is settled once

The pending candidate is a slot: `queue` puts a candidate into it and four states of a transition take it out.  What is
true of a held candidate is carried along the calls that keep it.
-/
namespace Jqe
namespace Confirmation

open HistoricalConfirmationState List

def TransitionState.final : TransitionState → Bool
  | entryDue | confirmationFailed | incompleteConfirmation | incompleteEntry => true
  | _ => false

def moveOf : Option (Except PyExc (Option (ConfirmationTransition ℤ))) → Slot.Move
  | some (.ok (some t)) =>
    if t.state = .strategyCandidate then .put else if t.state.final then .take else .keep
  | _ => .keep

/-- A candidate as `queue` was asked for it, but for its evaluation. -/
structure OfArgs (c : PendingHistoricalCandidate ℤ) (q : QueueArgs ℤ) : Prop where
  symbol : c.symbol = q.symbol
  timeframe : c.timeframe = q.timeframe
  signalCandle : q.signalCandle = .aware c.signalCandle
  direction : c.direction = q.direction
  confidence : c.confidence = q.confidence
  strategyContext : c.strategyContext = q.strategyContext
  confirmation : c.expectedConfirmationCandle = c.signalCandle + q.candleInterval
  entry : c.expectedEntryCandle = c.signalCandle + q.candleInterval * 2

variable {q : QueueArgs ℤ} {c : PendingHistoricalCandidate ℤ} {i j : ℕ}

theorem ofArgs_candidate (h : q.candidate = .ok c) : OfArgs c q ∧ c.confirmationEvaluated = false := by
  obtain ⟨confirmation, hconfirmation, h⟩ := bind_ok h
  obtain ⟨entry, hentry, h⟩ := bind_ok h
  unfold PendingHistoricalCandidate.build at h
  split at h
  · cases hsignal : q.signalCandle with
    | naive t =>
      rw [hsignal] at h
      cases h
    | aware t =>
      rw [hsignal] at h hconfirmation hentry
      cases hconfirmation
      cases hentry
      dsimp only at h
      split at h
      · cases h
        exact ⟨⟨rfl, rfl, hsignal, rfl, rfl, rfl, rfl, rfl⟩, rfl⟩
      · cases h
  · cases h

theorem OfArgs.evaluated {c : PendingHistoricalCandidate ℤ} {q : QueueArgs ℤ} (h : OfArgs c q) (regime : String)
    (passed : Bool) : OfArgs (evaluated c regime passed) q :=
  ⟨h.symbol, h.timeframe, h.signalCandle, h.direction, h.confidence, h.strategyContext, h.confirmation, h.entry⟩

theorem load_save (s : HistoricalConfirmationState ℤ) : load (some s.save) = .ok s := by
  obtain ⟨pending⟩ := s
  cases pending with
  | none => rfl
  | some c =>
    have hbuild : fromPayload (payload c) = .ok c := by
      have hread : ∀ reason, PendingHistoricalCandidate.build c.symbol c.timeframe (.aware c.signalCandle) c.direction
          c.confidence c.strategyContext (.aware c.expectedConfirmationCandle) (.aware c.expectedEntryCandle)
          c.confirmationEvaluated c.confirmed reason = .ok { c with confirmationReason := reason } := fun reason => by
        simp only [PendingHistoricalCandidate.build, dif_pos c.side, dif_pos c.chronology]
      unfold payload
      cases hreason : c.confirmationReason with
      | none => exact (hread none).trans (by rw [← hreason])
      | some text => exact (hread (some text)).trans (by rw [← hreason])
    show (fromPayload (payload c)).map _ = _
    rw [hbuild]
    rfl

theorem step_restart (s : HistoricalConfirmationState ℤ) : step s .restart = (s, .ok none) := by
  simp only [step, load_save]

/-- How a call that keeps a candidate may change it. -/
def Kept (call : Option (Call ℤ)) (c c' : PendingHistoricalCandidate ℤ) : Prop :=
  c' = c ∨ (call = some (.observe (.aware c.expectedConfirmationCandle) c.expectedRegime) ∧
    c' = evaluated c c.expectedRegime true)

/-- **What a call can do**: put a candidate, take the candidate, or keep what there is. -/
inductive StepKind (s : HistoricalConfirmationState ℤ) (call : Call ℤ) : Prop where
  | put (q : QueueArgs ℤ) (c : PendingHistoricalCandidate ℤ) (hcall : call = .queue q) (hs : s.pending = none)
      (hc : q.candidate = .ok c)
      (hstep : step s call = (⟨some c⟩, .ok (some ⟨.strategyCandidate, some c, "Pending confirmation"⟩)))
  | take (state : TransitionState) (c c' : PendingHistoricalCandidate ℤ) (reason : String) (hs : s.pending = some c)
      (hfinal : state.final = true) (hstep : step s call = (⟨none⟩, .ok (some ⟨state, some c', reason⟩)))
      (hsame : c' = c ∨ ∃ regime, c' = evaluated c regime false)
      (hentry : state = .entryDue → c.confirmationEvaluated = true ∧
        ∃ regime, call = .observe (.aware c.expectedEntryCandle) regime)
  | keep (hmove : moveOf (some (step s call).2) = .keep)
      (hkept : (step s call).1 = s ∨ ∃ c c', s.pending = some c ∧ (step s call).1.pending = some c' ∧
        Kept (some call) c c')

theorem observePending_kind {s : HistoricalConfirmationState ℤ} (hs : s.pending = some c) (t : ℤ) (regime : String) :
    StepKind s (.observe (.aware t) regime) := by
  have hstep : step s (.observe (.aware t) regime) =
      ((s.observePending c t regime).1, (s.observePending c t regime).2.map some) := by
    simp only [step, observe, hs]
  unfold observePending at hstep
  by_cases hearly : t < c.expectedConfirmationCandle
  · rw [if_pos hearly] at hstep
    exact .keep (by rw [hstep]; rfl) (.inl (by rw [hstep]))
  rw [if_neg hearly] at hstep
  by_cases hmissed : c.expectedConfirmationCandle < t ∧ c.confirmationEvaluated = false
  · rw [if_pos hmissed] at hstep
    exact .take .incompleteConfirmation c c _ hs rfl hstep (.inl rfl) (fun h => by cases h)
  rw [if_neg hmissed] at hstep
  rw [show (t == c.expectedConfirmationCandle) = decide (t = c.expectedConfirmationCandle) from rfl] at hstep
  by_cases hconfirmation : t = c.expectedConfirmationCandle
  · rw [decide_eq_true hconfirmation, if_pos rfl] at hstep
    by_cases hevaluated : c.confirmationEvaluated = true
    · rw [if_pos hevaluated] at hstep
      exact .keep (by rw [hstep]; rfl) (.inl (by rw [hstep]))
    rw [if_neg hevaluated] at hstep
    by_cases hregime : regime = c.expectedRegime
    · rw [if_pos hregime] at hstep
      refine .keep (by rw [hstep]; rfl) (.inr ⟨c, evaluated c regime true, hs, by rw [hstep], .inr ⟨?_, ?_⟩⟩)
      · rw [hconfirmation, hregime]
      · rw [hregime]
    · rw [if_neg hregime] at hstep
      exact .take .confirmationFailed c (evaluated c regime false) _ hs rfl hstep (.inr ⟨regime, rfl⟩)
        (fun h => by cases h)
  rw [decide_eq_false hconfirmation, if_neg Bool.false_ne_true] at hstep
  by_cases hwaiting : t < c.expectedEntryCandle
  · rw [if_pos hwaiting] at hstep
    exact .keep (by rw [hstep]; rfl) (.inl (by rw [hstep]))
  rw [if_neg hwaiting] at hstep
  by_cases hlate : c.expectedEntryCandle < t
  · rw [if_pos hlate] at hstep
    exact .take .incompleteEntry c c _ hs rfl hstep (.inl rfl) (fun h => by cases h)
  rw [if_neg hlate] at hstep
  -- neither before nor after the entry candle, and past an evaluated confirmation
  have hentry : t = c.expectedEntryCandle := by omega
  have hevaluated : c.confirmationEvaluated = true := by
    by_contra hnot
    exact hmissed ⟨by omega, eq_false_of_ne_true hnot⟩
  exact .take .entryDue c c _ hs rfl hstep (.inl rfl) (fun _ => ⟨hevaluated, regime, by rw [hentry]⟩)

/-- **Every call is of one of the three kinds.** -/
theorem step_kind (s : HistoricalConfirmationState ℤ) (call : Call ℤ) : StepKind s call := by
  cases call with
  | restart => exact .keep (by rw [step_restart]; rfl) (.inl (by rw [step_restart]))
  | queue q =>
    cases hs : s.pending with
    | some c => exact .keep (by simp only [step, queue, hs]; rfl) (.inl (by simp only [step, queue, hs]))
    | none =>
      cases hc : q.candidate with
      | error e => exact .keep (by simp only [step, queue, hs, hc]; rfl) (.inl (by simp only [step, queue, hs, hc]))
      | ok c => exact .put q c rfl hs hc (by simp only [step, queue, hs, hc]; rfl)
  | finish =>
    cases hs : s.pending with
    | none => exact .keep (by simp only [step, finish, hs]; rfl) (.inl (by simp only [step, finish, hs]))
    | some c =>
      have hstep : step s .finish = (⟨none⟩, .ok (some ⟨if c.confirmed then .incompleteEntry else
          .incompleteConfirmation, some c, "CAMPAIGN_BOUNDARY"⟩)) := by simp only [step, finish, hs]
      cases hconfirmed : c.confirmed with
      | true =>
        rw [hconfirmed] at hstep
        exact .take .incompleteEntry c c _ hs rfl hstep (.inl rfl) (fun h => by cases h)
      | false =>
        rw [hconfirmed] at hstep
        exact .take .incompleteConfirmation c c _ hs rfl hstep (.inl rfl) (fun h => by cases h)
  | observe t regime =>
    cases hs : s.pending with
    | none => exact .keep (by simp only [step, observe, hs]; rfl) (.inl (by simp only [step, observe, hs]))
    | some c =>
      cases t with
      | naive t => exact .keep (by simp only [step, observe, hs]; rfl) (.inl (by simp only [step, observe, hs]))
      | aware t => exact observePending_kind hs t regime

/-! ## Runs -/

def cell (calls : List (Call ℤ)) (k : ℕ) : Option (PendingHistoricalCandidate ℤ) := (after (calls.take k)).pending

theorem after_succ {calls : List (Call ℤ)} {k : ℕ} {call : Call ℤ} (h : calls[k]? = some call) :
    after (calls.take (k + 1)) = (step (after (calls.take k)) call).1 := by
  rw [after, take_add_one, h, Option.toList_some, foldl_append]
  rfl

theorem answer_eq {calls : List (Call ℤ)} {k : ℕ} {call : Call ℤ} (h : calls[k]? = some call) :
    answer calls k = some (step (after (calls.take k)) call).2 := by
  rw [answer, h]
  rfl

theorem moveOf_final {state : TransitionState} (h : state.final = true) (c : Option (PendingHistoricalCandidate ℤ))
    (reason : String) : moveOf (some (.ok (some ⟨state, c, reason⟩))) = .take := by
  cases state <;> first | rfl | cases h

theorem slot_run (calls : List (Call ℤ)) : Slot.Run calls.length (cell calls) (fun k => moveOf (answer calls k))
    (fun k => Kept calls[k]?) where
  start := rfl
  put k hk hmove := by
    have hcall := getElem?_eq_getElem hk
    rw [answer_eq hcall] at hmove
    rw [cell, cell, after_succ hcall]
    cases step_kind (after (calls.take k)) calls[k] with
    | put q c _ hs _ hstep =>
      rw [hstep]
      exact ⟨hs, c, rfl⟩
    | take state c c' reason _ hfinal hstep _ _ =>
      rw [hstep, moveOf_final hfinal] at hmove
      cases hmove
    | keep hkeep _ =>
      rw [hkeep] at hmove
      cases hmove
  take k hk hmove := by
    have hcall := getElem?_eq_getElem hk
    rw [answer_eq hcall] at hmove
    rw [cell, cell, after_succ hcall]
    cases step_kind (after (calls.take k)) calls[k] with
    | put q c _ _ _ hstep =>
      rw [hstep] at hmove
      cases hmove
    | take state c c' reason hs _ hstep _ _ =>
      rw [hstep]
      exact ⟨⟨c, hs⟩, rfl⟩
    | keep hkeep _ =>
      rw [hkeep] at hmove
      cases hmove
  keep k hk hmove := by
    have hcall := getElem?_eq_getElem hk
    rw [answer_eq hcall] at hmove
    rw [cell, cell, after_succ hcall, hcall]
    cases step_kind (after (calls.take k)) calls[k] with
    | put q c _ _ _ hstep =>
      rw [hstep] at hmove
      cases hmove
    | take state c c' reason _ hfinal hstep _ _ =>
      rw [hstep, moveOf_final hfinal] at hmove
      cases hmove
    | keep _ hkept =>
      rcases hkept with hsame | ⟨c, c', hs, hs', hkept⟩
      · rw [hsame]
        cases (after (calls.take k)).pending with
        | none => exact .inl ⟨rfl, rfl⟩
        | some c => exact .inr ⟨c, c, rfl, rfl, .inl rfl⟩
      · exact .inr ⟨c, c', hs, hs', hkept⟩

structure Queued (calls : List (Call ℤ)) (i : ℕ) (q : QueueArgs ℤ) : Prop where
  call : calls[i]? = some (.queue q)
  answered : ∃ c reason, answer calls i = some (.ok (some ⟨.strategyCandidate, some c, reason⟩)) ∧ OfArgs c q

/-- **The candidate queued at `i` receives a state at `j`**: no other candidate is queued in between. -/
structure Receives (calls : List (Call ℤ)) (i : ℕ) (q : QueueArgs ℤ) (j : ℕ) (state : TransitionState) : Prop where
  later : i < j
  same : ∀ k q', i < k → k < j → ¬ Queued calls k q'
  answered : ∃ c reason, answer calls j = some (.ok (some ⟨state, some c, reason⟩)) ∧ OfArgs c q

variable {calls : List (Call ℤ)}

theorem lt_of_answer {k : ℕ} {a} (h : answer calls k = some a) : k < calls.length := by
  rw [answer, Option.map_eq_some_iff] at h
  obtain ⟨call, hcall, -⟩ := h
  exact (List.getElem?_eq_some_iff.1 hcall).1

theorem Queued.move (h : Queued calls i q) : moveOf (answer calls i) = .put := by
  obtain ⟨c, reason, hanswer, -⟩ := h.answered
  rw [hanswer]
  rfl

theorem queued_of_put (hi : i < calls.length) (h : moveOf (answer calls i) = .put) :
    ∃ q c, Queued calls i q ∧ cell calls (i + 1) = some c ∧ OfArgs c q ∧ c.confirmationEvaluated = false := by
  have hcall := getElem?_eq_getElem hi
  rw [answer_eq hcall] at h
  cases step_kind (after (calls.take i)) calls[i] with
  | put q c hq _ hc hstep =>
    obtain ⟨hof, hevaluated⟩ := ofArgs_candidate hc
    refine ⟨q, c, ⟨hq ▸ hcall, c, "Pending confirmation", ?_, hof⟩, ?_, hof, hevaluated⟩
    · rw [answer_eq hcall, hstep]
    · rw [cell, after_succ hcall, hstep]
  | take state c c' reason _ hfinal hstep _ _ =>
    rw [hstep, moveOf_final hfinal] at h
    cases h
  | keep hkeep _ =>
    rw [hkeep] at h
    cases h

theorem queued_args {q' : QueueArgs ℤ} (h : Queued calls i q) (h' : Queued calls i q') : q = q' := by
  have hcall := h.call.symm.trans h'.call
  cases hcall
  rfl

/-- What is true of the candidate queued at `i` before the call `k`: it is as asked for, and if it was evaluated then
its confirmation candle was observed in its regime since. -/
structure Held (calls : List (Call ℤ)) (i : ℕ) (q : QueueArgs ℤ) (k : ℕ) (c : PendingHistoricalCandidate ℤ) : Prop where
  ofArgs : OfArgs c q
  evaluated : c.confirmationEvaluated = true → ∃ m, i < m ∧ m < k ∧
    calls[m]? = some (.observe (.aware c.expectedConfirmationCandle) c.expectedRegime)

theorem held_candidate {k : ℕ} (hi : Queued calls i q) (hik : i < k) (hk : k ≤ calls.length)
    (hquiet : Slot.Quiet (fun k => moveOf (answer calls k)) i k) (hc : cell calls k = some c) : Held calls i q k c := by
  refine (slot_run calls).held_induction hik hk hquiet (fun a ha => ?_) (fun m a b him hmk hkept ha => ?_) c hc
  · obtain ⟨q', c', hq', hc', hof, hevaluated⟩ := queued_of_put (lt_of_answer hi.answered.choose_spec.choose_spec.1) hi.move
    obtain rfl := queued_args hi hq'
    obtain rfl : c' = a := Option.some.inj (hc'.symm.trans ha)
    exact ⟨hof, fun h => absurd (hevaluated.symm.trans h) Bool.false_ne_true⟩
  · rcases hkept with rfl | ⟨hcall, rfl⟩
    · refine ⟨ha.ofArgs, fun h => ?_⟩
      obtain ⟨m', him', hm', hobserved⟩ := ha.evaluated h
      exact ⟨m', him', by omega, hobserved⟩
    · exact ⟨ha.ofArgs.evaluated _ _, fun _ => ⟨m, him, Nat.lt_succ_self m, hcall⟩⟩

theorem take_of_final {state : TransitionState} {c : Option (PendingHistoricalCandidate ℤ)} {reason : String}
    (h : answer calls j = some (.ok (some ⟨state, c, reason⟩))) (hfinal : state.final = true) :
    ∃ d d', cell calls j = some d ∧ c = some d' ∧ (d' = d ∨ ∃ regime, d' = evaluated d regime false) ∧
      (state = .entryDue → d.confirmationEvaluated = true ∧
        ∃ regime, calls[j]? = some (.observe (.aware d.expectedEntryCandle) regime)) := by
  have hj := lt_of_answer h
  have hcall := getElem?_eq_getElem hj
  have hmove := moveOf_final hfinal c reason
  rw [← h, answer_eq hcall] at hmove
  rw [answer_eq hcall] at h
  cases step_kind (after (calls.take j)) calls[j] with
  | put q d _ _ _ hstep =>
    rw [hstep] at hmove
    cases hmove
  | keep hkeep _ =>
    rw [hkeep] at hmove
    cases hmove
  | take state' d d' reason' hs _ hstep hsame hentry =>
    rw [hstep] at h
    cases h
    refine ⟨d, d', hs, rfl, hsame, fun hdue => ?_⟩
    obtain ⟨hevaluated, regime, hobserve⟩ := hentry hdue
    exact ⟨hevaluated, regime, hobserve ▸ hcall⟩

theorem not_queued_of_quiet (h : Slot.Quiet (fun k => moveOf (answer calls k)) i j) :
    ∀ k q, i < k → k < j → ¬ Queued calls k q := by
  intro k q hik hkj hq
  have hput := hq.move.symm.trans (h k hik hkj)
  cases hput

theorem receives_of_final (hi : Queued calls i q) (hij : i < j)
    (hquiet : Slot.Quiet (fun k => moveOf (answer calls k)) i j) {state : TransitionState}
    {c : Option (PendingHistoricalCandidate ℤ)} {reason : String}
    (h : answer calls j = some (.ok (some ⟨state, c, reason⟩))) (hfinal : state.final = true) :
    Receives calls i q j state := by
  obtain ⟨d, d', hd, rfl, hsame, -⟩ := take_of_final h hfinal
  have hheld := held_candidate hi hij (Nat.le_of_lt (lt_of_answer h)) hquiet hd
  refine ⟨hij, not_queued_of_quiet hquiet, d', reason, h, ?_⟩
  rcases hsame with rfl | ⟨regime, rfl⟩
  · exact hheld.ofArgs
  · exact hheld.ofArgs.evaluated regime false

theorem final_of_take (h : moveOf (answer calls j) = .take) : ∃ state c reason,
    answer calls j = some (.ok (some ⟨state, c, reason⟩)) ∧ state.final = true := by
  cases hanswer : answer calls j with
  | none =>
    rw [hanswer] at h
    cases h
  | some a =>
    rw [hanswer] at h
    match a, h with
    | .ok (some ⟨state, c, reason⟩), h =>
      refine ⟨state, c, reason, rfl, ?_⟩
      simp only [moveOf] at h
      by_cases hput : state = .strategyCandidate
      · rw [if_pos hput] at h
        cases h
      · rw [if_neg hput] at h
        by_cases hfinal : state.final = true
        · exact hfinal
        · rw [if_neg hfinal] at h
          cases h

theorem quiet_or_received {m : ℕ} (hi : Queued calls i q) (him : i < m) (hm : m ≤ calls.length) :
    ((∃ c, cell calls m = some c) ∧ Slot.Quiet (fun k => moveOf (answer calls k)) i m) ∨
      ∃ j state, j < m ∧ state.final = true ∧ Receives calls i q j state := by
  by_cases htake : ∃ j, i < j ∧ j < m ∧ moveOf (answer calls j) = .take
  · right
    -- the first take after `i`
    obtain ⟨j, ⟨hij, hjm, hj⟩, hfirst⟩ : ∃ j, (i < j ∧ j < m ∧ moveOf (answer calls j) = .take) ∧
        ∀ k < j, ¬ (i < k ∧ k < m ∧ moveOf (answer calls k) = .take) :=
      ⟨Nat.find htake, Nat.find_spec htake, fun k hk => Nat.find_min htake hk⟩
    obtain ⟨-, hquiet⟩ := (slot_run calls).held hi.move hij (by omega) fun k hik hkj htakek =>
      hfirst k hkj ⟨hik, by omega, htakek⟩
    obtain ⟨state, c, reason, hanswer, hfinal⟩ := final_of_take hj
    exact ⟨j, state, hjm, hfinal, receives_of_final hi hij hquiet hanswer hfinal⟩
  · left
    push Not at htake
    exact (slot_run calls).held hi.move him hm htake

/-- **An entry is due only two intervals after the signal, and after a confirmation in between.** -/
theorem entryDue_confirmed {c : Option (PendingHistoricalCandidate ℤ)} {reason : String}
    (h : answer calls j = some (.ok (some ⟨.entryDue, c, reason⟩))) :
    ∃ i q, Queued calls i q ∧ Receives calls i q j .entryDue ∧ ∃ t m regime regime',
      q.signalCandle = .aware t ∧ i < m ∧ m < j ∧
      calls[m]? = some (.observe (.aware (t + q.candleInterval)) regime) ∧
      confirmationExpectedRegime q.direction = .ok regime ∧
      calls[j]? = some (.observe (.aware (t + q.candleInterval * 2)) regime') := by
  have hj := lt_of_answer h
  obtain ⟨d, d', hd, -, -, hdue⟩ := take_of_final h rfl
  obtain ⟨hevaluated, regime', hentry⟩ := hdue rfl
  obtain ⟨i, hij, hput, hquiet⟩ := (slot_run calls).put_before (Nat.le_of_lt hj) hd
  obtain ⟨q, -, hq, -⟩ := queued_of_put (Nat.lt_trans hij hj) hput
  have hheld := held_candidate hq hij (Nat.le_of_lt hj) hquiet hd
  obtain ⟨m, him, hmj, hobserved⟩ := hheld.evaluated hevaluated
  refine ⟨i, q, hq, receives_of_final hq hij hquiet h rfl, d.signalCandle, m, d.expectedRegime, regime',
    hheld.ofArgs.signalCandle, him, hmj, ?_, ?_, ?_⟩
  · rw [← hheld.ofArgs.confirmation]
    exact hobserved
  · rw [← hheld.ofArgs.direction]
    exact d.expectedRegime_eq
  · rw [← hheld.ofArgs.entry]
    exact hentry

theorem received_once {j' : ℕ} {state state' : TransitionState} (h : Receives calls i q j state)
    (h' : Receives calls i q j' state') (hfinal : state.final = true) (hfinal' : state'.final = true) : j = j' := by
  -- two takes have a put in between, but none is queued before the later one
  have hlt : ∀ {a b : ℕ} {sa sb : TransitionState}, Receives calls i q a sa → Receives calls i q b sb →
      sa.final = true → sb.final = true → ¬ a < b := by
    intro a b sa sb ha hb hfa hfb hab
    obtain ⟨ca, ra, hanswer, -⟩ := ha.answered
    obtain ⟨cb, rb, hanswer', -⟩ := hb.answered
    have hbn := lt_of_answer hanswer'
    have htake : moveOf (answer calls a) = .take := hanswer ▸ moveOf_final hfa (some ca) ra
    have htake' : moveOf (answer calls b) = .take := hanswer' ▸ moveOf_final hfb (some cb) rb
    obtain ⟨k, hak, hkb, hput⟩ := (slot_run calls).put_between htake htake' hab hbn
    obtain ⟨q', -, hq', -⟩ := queued_of_put (Nat.lt_trans hkb hbn) hput
    have hik : i < k := Nat.lt_trans ha.later hak
    exact hb.same k q' hik hkb hq'
  have h1 := hlt h h' hfinal hfinal'
  have h2 := hlt h' h hfinal' hfinal
  omega

theorem settles_pending {s : HistoricalConfirmationState ℤ} {call : Call ℤ} (hs : s.pending = some c)
    (hcall : call = .finish ∨ ∃ later regime, call = .observe (.aware later) regime ∧ c.expectedEntryCandle < later) :
    moveOf (some (step s call).2) = .take := by
  rcases hcall with rfl | ⟨later, regime, rfl, hlater⟩
  · have hstep : (step s .finish).2 = .ok (some ⟨if c.confirmed then .incompleteEntry else .incompleteConfirmation,
        some c, "CAMPAIGN_BOUNDARY"⟩) := by simp only [step, finish, hs]
    rw [hstep]
    cases c.confirmed <;> rfl
  · have hchronology := c.chronology
    have hearly : ¬ later < c.expectedConfirmationCandle := by omega
    have hconfirmation : ¬ (later == c.expectedConfirmationCandle) = true := by
      rw [beq_iff_eq]
      omega
    have hwaiting : ¬ later < c.expectedEntryCandle := by omega
    have hobserve : (step s (.observe (.aware later) regime)).2 = (s.observePending c later regime).2.map some := by
      simp only [step, observe, hs]
    rw [hobserve, observePending, if_neg hearly]
    by_cases hmissed : c.expectedConfirmationCandle < later ∧ c.confirmationEvaluated = false
    · rw [if_pos hmissed]
      rfl
    · rw [if_neg hmissed, if_neg hconfirmation, if_neg hwaiting, if_pos hlater]
      rfl

theorem received_after {m : ℕ} (hi : Queued calls i q) (him : i < m)
    (hm : calls[m]? = some .finish ∨ ∃ t later regime, q.signalCandle = .aware t ∧
      calls[m]? = some (.observe (.aware later) regime) ∧ t + q.candleInterval * 2 < later) :
    ∃ j state, j ≤ m ∧ state.final = true ∧ Receives calls i q j state := by
  have hmn : m < calls.length := by
    rcases hm with hm | ⟨t, later, regime, -, hm, -⟩
    · exact (List.getElem?_eq_some_iff.1 hm).1
    · exact (List.getElem?_eq_some_iff.1 hm).1
  rcases quiet_or_received hi him (Nat.le_of_lt hmn) with ⟨⟨c, hc⟩, hquiet⟩ | ⟨j, state, hjm, hfinal, hreceives⟩
  · have hheld := held_candidate hi him (Nat.le_of_lt hmn) hquiet hc
    have hcall := getElem?_eq_getElem hmn
    have htake : moveOf (answer calls m) = .take := by
      rw [answer_eq hcall]
      refine settles_pending hc ?_
      rcases hm with hm | ⟨t, later, regime, ht, hm, hlater⟩
      · exact .inl (Option.some.inj (hcall.symm.trans hm))
      · refine .inr ⟨later, regime, Option.some.inj (hcall.symm.trans hm), ?_⟩
        have hsame : Stamp.aware t = .aware c.signalCandle := ht.symm.trans hheld.ofArgs.signalCandle
        cases hsame
        rw [hheld.ofArgs.entry]
        exact hlater
    obtain ⟨state, c', reason, hanswer, hfinal⟩ := final_of_take htake
    exact ⟨m, state, Nat.le_refl m, hfinal, receives_of_final hi him hquiet hanswer hfinal⟩
  · exact ⟨j, state, Nat.le_of_lt hjm, hfinal, hreceives⟩

theorem received_before_next {i' : ℕ} {q' : QueueArgs ℤ} (hi : Queued calls i q) (hi' : Queued calls i' q')
    (hii' : i < i') : ∃ j state, j < i' ∧ state.final = true ∧ Receives calls i q j state := by
  have hn := lt_of_answer hi'.answered.choose_spec.choose_spec.1
  rcases quiet_or_received hi hii' (Nat.le_of_lt hn) with ⟨⟨c, hc⟩, -⟩ | hreceived
  · have hnone : cell calls i' = none := ((slot_run calls).put i' hn hi'.move).1
    rw [hnone] at hc
    cases hc
  · exact hreceived

/-! ## Restarts -/

section

variable {T : Type} [LT T] [DecidableLT T] [BEq T] [CandleTime T]

def isRestart : Call T → Bool
  | .restart => true
  | _ => false

def heard : HistoricalConfirmationState T → List (Call T) → List (Except PyExc (Option (ConfirmationTransition T)))
  | _, [] => []
  | s, call :: calls =>
    if isRestart call then heard (step s call).1 calls else (step s call).2 :: heard (step s call).1 calls

end

theorem heard_without_restarts (s : HistoricalConfirmationState ℤ) : ∀ calls : List (Call ℤ),
    heard s calls = heard s (calls.filter fun call => !isRestart call)
  | [] => rfl
  | call :: calls => by
    by_cases hrestart : isRestart call = true
    · have hcall : call = .restart := by cases call <;> first | rfl | cases hrestart
      rw [heard, if_pos hrestart, filter_cons_of_neg (by simpa using hrestart), hcall, step_restart,
        heard_without_restarts s calls]
    · rw [heard, if_neg hrestart, filter_cons_of_pos (by simpa using hrestart), heard, if_neg hrestart,
        heard_without_restarts _ calls]

structure Settled (calls : List (Call ℤ)) : Prop where
  entryDue : ∀ j c reason, answer calls j = some (.ok (some ⟨.entryDue, c, reason⟩)) →
    ∃ i q, Queued calls i q ∧ Receives calls i q j .entryDue ∧ ∃ t m regime regime',
      q.signalCandle = .aware t ∧ i < m ∧ m < j ∧
      calls[m]? = some (.observe (.aware (t + q.candleInterval)) regime) ∧
      confirmationExpectedRegime q.direction = .ok regime ∧
      calls[j]? = some (.observe (.aware (t + q.candleInterval * 2)) regime')
  atMostOne : ∀ i q j j' state state', Queued calls i q → Receives calls i q j state → Receives calls i q j' state' →
    state.final = true → state'.final = true → j = j' ∧ state = state'
  atLeastOne : ∀ i q m, Queued calls i q → i < m → (calls[m]? = some .finish ∨ ∃ t later regime,
      q.signalCandle = .aware t ∧ calls[m]? = some (.observe (.aware later) regime) ∧
        t + q.candleInterval * 2 < later) →
    ∃ j state, j ≤ m ∧ state.final = true ∧ Receives calls i q j state
  onePending : ∀ i i' q q', Queued calls i q → Queued calls i' q' → i < i' →
    ∃ j state, j < i' ∧ state.final = true ∧ Receives calls i q j state
  restarted : ∀ k, calls[k]? = some .restart → answer calls k = some (.ok none)
  restarts : heard ⟨none⟩ calls = heard ⟨none⟩ (calls.filter fun call => !isRestart call)

/-- **The confirmation machine**, over candle times of fixed offsets: an entry is due only two intervals after the signal and one after its confirmation,
every candidate is settled exactly once, one is pending at a time, and restarts change nothing. -/
theorem confirmation_settled (calls : List (Call ℤ)) : Settled calls where
  entryDue _ _ _ h := entryDue_confirmed h
  atMostOne i q j j' state state' _ h h' hfinal hfinal' := by
    have hj := received_once h h' hfinal hfinal'
    subst hj
    obtain ⟨c, reason, hanswer, -⟩ := h.answered
    obtain ⟨c', reason', hanswer', -⟩ := h'.answered
    have hsame := hanswer.symm.trans hanswer'
    cases hsame
    exact ⟨rfl, rfl⟩
  atLeastOne _ _ _ hi him hm := received_after hi him hm
  onePending _ _ _ _ hi hi' hii' := received_before_next hi hi' hii'
  restarted k hk := by rw [answer_eq hk, step_restart]
  restarts := heard_without_restarts ⟨none⟩ calls

example : (heard ⟨none⟩ [.queue ⟨"R_75", "M1", .aware (0 : ℤ), "BUY", 80, [], 60⟩, .observe (.aware 60) "TREND_UP", .restart,
    .observe (.aware 120) "RANGE"]).map (fun a => a.toOption.bind fun t => t.map (·.state)) =
    [some .strategyCandidate, some .confirmed, some .entryDue] := rfl

/-! ### Clocks that go back -/

open AwareTime

/-- Zone 1 is an hour ahead of UTC until 03:00 of the first day, when its clocks go back to 02:00. -/
@[reducible] def autumnZones : TimeZones where
  offset zone wall fold := if zone = 1 ∧ (wall < 7200000000 ∨ wall < 10800000000 ∧ fold = false) then 3600000000 else 0
  offset_utc wall fold := if_neg fun h => absurd h.1 (by decide)
  wall_unique zone wall wall' h h' heq := by
    simp only [and_true, and_false, or_false, Bool.true_eq_false] at h h' heq
    split_ifs at h h' heq <;> omega

def autumnTime (wall : ℤ) (h : 0 ≤ wall ∧ wall < maxWall) : Stamp ZonedTime := .aware (.zoned ⟨1, wall, false, h⟩)

/-- A signal at 01:00, a restart, and the candle of its confirmation at 02:00. -/
def autumnCalls : List (Call ZonedTime) :=
  [.queue ⟨"R_75", "H1", autumnTime 3600000000 (by decide), "BUY", 80, [], 3600000000⟩, .restart,
    .observe (autumnTime 7200000000 (by decide)) "TREND_DOWN"]

/-- **A restart changes a transition** where the clocks go back: the confirmation candle equals its saved time no more. -/
theorem restart_forgets_zone : ¬∀ (zones : TimeZones) (calls : List (Call ZonedTime)),
    heard ⟨none⟩ calls = heard ⟨none⟩ (calls.filter fun call => !isRestart call) := by
  intro h
  let _ : TimeZones := autumnZones
  have hstates := congrArg (List.map fun a => a.toOption.bind fun t => t.map (·.state)) (h autumnZones autumnCalls)
  exact absurd hstates (by decide +kernel)

end Confirmation
end Jqe
