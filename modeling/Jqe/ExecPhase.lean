import Jqe.Executor
/-!
# ExecPhase — where a submission is, and what it may ask there

The phases of `submit` as an automaton, and `submit_conforms`: the program keeps to it, whatever its environment
answers.  What a phase remembers is what the invariants over interleavings need.
-/
namespace Jqe

open Coro

structure Held where
  context : Option ExecutionContext
  view : Option (List PositionItem)
  seen : Option IntentRecord
  confirmed : Bool
  spent : Bool

inductive Phase where
  | idle
  | drawn (owner : String)
  | refused
  | held (owner : String) (h : Held)
  | claimed (owner : String)
  | sent (owner : String) (order : OrderRequest)
  | answered (owner : String) (order : OrderRequest) (out : Except PyExc OrderResult)
  /-- `persisted` is what `_transition` answered, `none` when something that is no `Exception` came through -/
  | settled (owner : String) (order : OrderRequest) (out : Except PyExc OrderResult) (persisted : Option Bool)

namespace Phase

def owner? : Phase → Option String
  | idle | refused => none
  | drawn o | held o _ | claimed o | sent o _ | answered o _ _ | settled o _ _ _ => some o

def hasClaimed : Phase → Bool
  | claimed _ | sent _ _ | answered _ _ _ | settled _ _ _ _ => true
  | _ => false

end Phase

/-- **The record a claimed run writes on the outcome of its order**: `none` for what is no `Exception`. -/
def settlement (c : SubmitCall) : Except PyExc OrderResult → Option IntentRecord
  | .error (.preSubmitOrderRejected _) => some { idempotencyKey := c.key, status := .rejected }
  | .error (.exception _) => some { idempotencyKey := c.key, status := .unknown }
  | .error .baseException => none
  | .ok r =>
    if r.status.value ∈ ["FILLED", "SUBMITTED"] then
      some { idempotencyKey := c.key, status := .accepted, orderId := some r.orderId, transactionId := r.transactionId }
    else some { idempotencyKey := c.key, status := .rejected, transactionId := r.transactionId }

variable [CaseMap]

/-- The policy passed on the positions of the view. -/
def passedOn (c : SubmitCall) (h : Held) : Prop :=
  ∃ context items fresh, h.context = some context ∧ h.view = some items ∧ fromPositions items = some fresh ∧
    (ExecutionPolicy.evaluate c.intent (some { context with openPositions := some fresh })).allowed = true

inductive Allowed (c : SubmitCall) : Phase → ExecReq → Prop
  | draw : Allowed c .idle .uuid4
  | acquire (o : String) :
      Allowed c (.drawn o) (.store (.acquireReservation c.scope o c.leaseSeconds c.key))
  | provide (o : String) (h : Held) (hs : h.spent = false) : Allowed c (.held o h) .contextProvider
  | positions (o : String) (h : Held) : Allowed c (.held o h) .getPositions
  | get (o : String) (h : Held) : Allowed c (.held o h) (.store (.get c.key))
  | reconcile (o : String) (h : Held) (record : IntentRecord) (hr : h.seen = some record)
      (hu : record.status.unresolved = true) :
      Allowed c (.held o h) (.reconcile
        { orderId := record.orderId, transactionId := record.transactionId, symbol := some c.intent.symbol
          idempotencyKey := some c.key })
  | confirm (o : String) (h : Held) (orderId transactionId : Option String) (hc : h.confirmed = true) :
      Allowed c (.held o h) (.store (.transition
        { idempotencyKey := c.key, status := .accepted, orderId, transactionId }))
  | doubt (o : String) (h : Held) :
      Allowed c (.held o h) (.store (.transition { idempotencyKey := c.key, status := .unknown }))
  | before (o : String) (h : Held) (decision : ExecutionDecision) : Allowed c (.held o h) (.beforeSubmit decision)
  | claim (o : String) (h : Held) (record : IntentRecord) (broker : Option String) (hs : h.spent = false)
      (hp : passedOn c h) (hr : IntentRecord.fromExecutionIntent c.intent .pending broker (some c.scope) = .ok record) :
      Allowed c (.held o h) (.store (.tryClaimUnderReservation record c.scope o))
  | submit (o : String) (order : OrderRequest) (ho : c.order? = some order) : Allowed c (.claimed o) (.submitOrder order)
  | await (o : String) (order : OrderRequest) : Allowed c (.sent o order) (.submitOrderResult order)
  | settle (o : String) (order : OrderRequest) (out : Except PyExc OrderResult) (record : IntentRecord)
      (hr : settlement c out = some record) : Allowed c (.answered o order out) (.store (.transition record))
  | after (q : Phase) (result : ExecutionResult) : Allowed c q (.afterSubmit result)
  | release (q : Phase) (o : String) (ho : q.owner? = some o) :
      Allowed c q (.store (.releaseReservation c.scope o))

def phaseNext (c : SubmitCall) : Phase → (r : ExecReq) → Except PyExc r.Ans → Phase
  | .idle, .uuid4, .ok o => .drawn o
  | .idle, .uuid4, .error _ => .refused
  | .drawn o, .store (.acquireReservation ..), .ok .acquired => .held o ⟨c.context, none, none, false, false⟩
  | .drawn _, .store (.acquireReservation ..), _ => .refused
  | .held o h, .contextProvider, .ok context => .held o { h with context }
  | .held o h, .contextProvider, .error _ => .held o { h with context := none }
  | .held o h, .getPositions, .ok items => .held o { h with view := some items }
  | .held o h, .getPositions, .error _ => .held o { h with view := none }
  | .held o h, .store (.get _), .ok record => .held o { h with seen := record }
  | .held o h, .reconcile _, .ok evidence => .held o { h with confirmed := evidence.state = .confirmedMatch }
  | .held o _, .store (.tryClaimUnderReservation ..), .ok .claimed => .claimed o
  | .held o h, .store (.tryClaimUnderReservation ..), _ => .held o { h with spent := true }
  | .claimed o, .submitOrder order, .ok _ => .sent o order
  | .claimed o, .submitOrder order, .error e => .answered o order (.error e)
  | .sent o order, .submitOrderResult _, .ok answer => .answered o order (AsyncTradeExecutor.gatewayOutcome answer)
  | .sent o order, .submitOrderResult _, .error e => .answered o order (.error e)
  | .answered o order out, .store (.transition _), .ok b => .settled o order out (some b)
  | .answered o order out, .store (.transition _), .error e =>
    .settled o order out (if e.isException then some false else none)
  | q, _, _ => q

def submitProtocol (c : SubmitCall) : Protocol ExecReq ExecReq.Ans PyExc Phase := ⟨Allowed c, phaseNext c⟩

/-- **What a returned result says of the phase it ends in.** -/
def ResultMeans (c : SubmitCall) (out : Except PyExc ExecutionResult) (q : Phase) : Prop :=
  ∀ result, out = .ok result →
    (∀ id, result.state = .alreadyExecuted → result.orderId = some id → ∃ o order outcome record,
      q = .settled o order outcome (some true) ∧ settlement c outcome = some record ∧ record.status = .accepted ∧
        record.orderId = some id) ∧
    (∀ o order outcome record, q = .settled o order outcome (some true) → settlement c outcome = some record →
      result.state = .unknown → record.status ≠ .rejected) ∧
    ∀ o order outcome, q ≠ .settled o order outcome none

namespace AsyncTradeExecutor

open Prog

variable {c : SubmitCall}

theorem wp_ask (r : ExecReq) (q : Phase) (post : Except PyExc r.Ans → Phase → Prop) :
    wp (submitProtocol c) (ask r) q post ↔ Allowed c q r ∧ ∀ ans, post ans (phaseNext c q r ans) :=
  wp_perform r q post

omit [CaseMap] in
theorem wp_attempt {α Q : Type} {P : Protocol ExecReq ExecReq.Ans PyExc Q} (p : ExecProg α) (q : Q)
    (post : Except PyExc (Option α) → Q → Prop) :
    wp P (attempt p) q post ↔ wp P p q fun
      | .ok a, q' => post (.ok (some a)) q'
      | .error e, q' => if e.isException then post (.ok none) q' else post (.error e) q' := by
  unfold attempt
  rw [wp_tryCatch, wp_map]
  refine Iff.of_eq (congrArg (wp P p q) ?_)
  funext out q'
  cases out with
  | ok a => rfl
  | error e =>
    dsimp only
    split <;> rfl

theorem wp_transition {q : Phase} {status : IntentRecordStatus} {a b : Option String}
    {post : Except PyExc Bool → Phase → Prop}
    (ha : Allowed c q (.store (.transition { idempotencyKey := c.key, status, orderId := a, transactionId := b })))
    (hok : ∀ moved ans, (ans = .ok moved ∨ moved = false ∧ ∃ e, e.isException = true ∧ ans = .error e) →
      post (.ok moved) (phaseNext c q (.store (.transition { idempotencyKey := c.key, status, orderId := a, transactionId := b })) ans))
    (herr : ∀ e, post (.error e) (phaseNext c q
      (.store (.transition { idempotencyKey := c.key, status, orderId := a, transactionId := b })) (.error e))) :
    wp (submitProtocol c) (transition_ c status a b) q post := by
  unfold transition_
  rw [wp_bind, wp_attempt]
  refine (wp_ask _ q _).2 ⟨ha, fun ans => ?_⟩
  cases ans with
  | ok moved => exact hok moved _ (.inl rfl)
  | error e =>
    dsimp only
    split
    · rename_i he
      exact hok false _ (.inr ⟨rfl, e, he, rfl⟩)
    · exact herr e

variable {post : Except PyExc ReconciliationResult → Phase → Prop}

theorem wp_reconcileRecord (o : String) (h : Held) (record : IntentRecord) (hseen : h.seen = some record)
    (hu : record.status.unresolved = true)
    (hpost : ∀ out confirmed, post out (.held o { h with confirmed })) :
    wp (submitProtocol c) (reconcileRecord c record) (.held o h) post := by
  unfold reconcileRecord
  split
  · exact hpost _ h.confirmed
  · rw [wp_bind]
    refine (wp_ask _ _ _).2 ⟨.reconcile o h record hseen hu, fun ans => ?_⟩
    cases ans with
    | error e => exact hpost _ h.confirmed
    | ok evidence =>
      dsimp only [phaseNext]
      split
      · rename_i hmatch
        rw [wp_bind]
        refine wp_transition (.confirm o _ _ _ (by simp [hmatch])) (fun moved ans _ => ?_) fun e => hpost _ _
        dsimp only
        cases ans <;> split <;> exact hpost _ _
      · split
        · rw [wp_bind]
          refine wp_transition (.doubt o _) (fun moved ans _ => ?_) fun e => hpost _ _
          dsimp only
          cases ans <;> split <;> exact hpost _ _
        · exact hpost _ _

/-- What follows the read of the positions, in the phase the read leaves. -/
theorem wp_reconcileObserved (o : String) {seen : Option IntentRecord}
    (hrej : ¬seen.any (·.status == .rejected) = true) (hacc : ¬seen.any (·.status == .accepted) = true)
    (observed : Option (List PositionItem)) (h : Held) (hseen : h.seen = seen)
    (hpost : ∀ out confirmed, post out (.held o { h with confirmed })) :
    wp (submitProtocol c) (match observed with
      | none => pure ⟨.unknown, "Broker state unavailable"⟩
      | some items =>
        match fromPositions items with
        | none => pure ⟨.unknown, "Broker state malformed"⟩
        | some snapshots =>
          match seen with
          | none =>
            if snapshots.any fun p => normalizeSymbol p.symbol == normalizeSymbol c.intent.symbol then
              pure ⟨.alreadyExecuted, "Symbol has an open position"⟩
            else if c.recoveryMode then pure ⟨.unknown, "Recovery mode cannot prove intent absence"⟩
            else pure ⟨.readyToSubmit, "No prior intent or position found"⟩
          | some record => reconcileRecord c record) (.held o h) post := by
  have hp : ∀ out, post out (.held o h) := fun out => hpost out h.confirmed
  split
  · exact hp _
  split
  · exact hp _
  split
  · split
    · exact hp _
    · split <;> exact hp _
  · rename_i record
    refine wp_reconcileRecord o h record hseen ?_ hpost
    revert hrej hacc
    cases hst : record.status <;> simp [hst, IntentRecordStatus.unresolved]

theorem wp_reconcileWith (o : String) (h : Held) (positions : Option (List PositionItem))
    (hpost : ∀ out h', h'.spent = h.spent → h'.context = h.context → (positions.isSome → h'.view = h.view) →
      post out (.held o h')) :
    wp (submitProtocol c) (reconcileWith c positions h.seen) (.held o h) post := by
  unfold reconcileWith
  split
  · exact hpost _ h rfl rfl fun _ => rfl
  rename_i hrej
  split
  · exact hpost _ h rfl rfl fun _ => rfl
  rename_i hacc
  have rest := @wp_reconcileObserved _ c post o h.seen hrej hacc
  cases positions with
  | some items => exact rest (some items) h rfl fun out _ => hpost out _ rfl rfl fun _ => rfl
  | none =>
    rw [wp_bind, wp_attempt]
    refine (wp_ask _ _ _).2 ⟨.positions o h, fun ans => ?_⟩
    cases ans with
    | ok items => exact rest (some items) { h with view := some items } rfl fun out _ => hpost out _ rfl rfl (by simp)
    | error e =>
      dsimp only [phaseNext]
      split
      · exact rest none { h with view := none } rfl fun out _ => hpost out _ rfl rfl (by simp)
      · exact hpost _ _ rfl rfl (by simp)

theorem wp_reconcile (o : String) (h : Held) (positions : Option (List PositionItem))
    (hpost : ∀ out h', h'.spent = h.spent → h'.context = h.context → (positions.isSome → h'.view = h.view) →
      post out (.held o h')) :
    wp (submitProtocol c) (reconcile c positions) (.held o h) post := by
  unfold reconcile
  rw [wp_bind, wp_attempt]
  refine (wp_ask _ _ _).2 ⟨.get o h, fun ans => ?_⟩
  cases ans with
  | ok record => exact wp_reconcileWith o { h with seen := record } positions hpost
  | error e =>
    dsimp only [phaseNext]
    split <;> exact hpost _ h rfl rfl fun _ => rfl

omit [CaseMap] in
@[simp] theorem phaseNext_release (q : Phase) (scope o : String) (ans : Except PyExc Bool) :
    phaseNext c q (.store (.releaseReservation scope o)) ans = q := by
  cases q <;> rfl

omit [CaseMap] in
@[simp] theorem phaseNext_after (q : Phase) (result : ExecutionResult) (ans : Except PyExc Unit) :
    phaseNext c q (.afterSubmit result) ans = q := by
  cases q <;> rfl

/-- The end of a run that holds or held its reservation. -/
def EndsWell (c : SubmitCall) (o : String) (out : Except PyExc ExecutionResult) (q : Phase) : Prop :=
  ResultMeans c out q ∧ q.owner? = some o

omit [CaseMap] in
theorem endsWell_error (o : String) (e : PyExc) {q : Phase} (ho : q.owner? = some o) : EndsWell c o (.error e) q :=
  ⟨fun _ h => (by cases h), ho⟩

omit [CaseMap] in
theorem endsWell_unsettled (o : String) {result : ExecutionResult} (hid : result.orderId = none) {q : Phase}
    (ho : q.owner? = some o) (hq : ∀ o order out b, q ≠ .settled o order out b) : EndsWell c o (.ok result) q := by
  refine ⟨fun r hr => ?_, ho⟩
  cases hr
  refine ⟨fun id _ h => ?_, fun o' order outcome record h => absurd h (hq _ _ _ _), fun _ _ _ => hq _ _ _ _⟩
  rw [hid] at h
  cases h

/-- **The settlement of an order ends with a result that says what was recorded.** -/
theorem wp_settle (o : String) (order : OrderRequest) (decision : ExecutionDecision) (out : Except PyExc OrderResult) :
    wp (submitProtocol c) (settle c decision out) (.answered o order out) (EndsWell c o) := by
  -- the run's result against its record, when the transition says `moved`
  have means : ∀ (record : IntentRecord) (moved : Bool) (result : ExecutionResult), settlement c out = some record →
      (∀ id, result.state = .alreadyExecuted → result.orderId = some id →
        moved = true ∧ record.status = .accepted ∧ record.orderId = some id) →
      (moved = true → result.state = .unknown → record.status ≠ .rejected) →
      EndsWell c o (.ok result) (.settled o order out (some moved)) := by
    intro record moved result hrec hacc hunk
    refine ⟨fun r hr => ?_, rfl⟩
    cases hr
    refine ⟨fun id hs hid => ?_, fun o' order' outcome record' hq hrec' hs => ?_, fun _ _ _ hq => by cases hq⟩
    · obtain ⟨hp, hst, hoid⟩ := hacc id hs hid
      exact ⟨o, order, out, record, by rw [hp], hrec, hst, hoid⟩
    · cases hq
      rw [hrec] at hrec'
      cases hrec'
      exact hunk rfl hs
  have answered : ∀ {a b : Option String} {status : IntentRecordStatus} {moved : Bool} {ans : Except PyExc Bool},
      (ans = .ok moved ∨ moved = false ∧ ∃ e, e.isException = true ∧ ans = .error e) →
      phaseNext c (.answered o order out)
        (.store (.transition { idempotencyKey := c.key, status, orderId := a, transactionId := b })) ans =
          .settled o order out (some moved) := by
    rintro a b status moved ans (rfl | ⟨rfl, e, he, rfl⟩)
    · rfl
    · simp [phaseNext, he]
  cases out with
  | error e =>
    cases e with
    | baseException => exact endsWell_error o _ rfl
    | preSubmitOrderRejected message =>
      unfold settle
      rw [wp_bind]
      refine wp_transition (.settle o order _ _ rfl) (fun moved ans h => ?_) fun e => endsWell_error o e rfl
      dsimp only
      rw [answered h]
      split
      · rename_i hmoved
        exact means _ moved _ rfl (by simp) (by simpa using hmoved)
      · exact means _ moved _ rfl (by simp) (by simp)
    | exception message =>
      unfold settle
      rw [wp_bind]
      refine wp_transition (.settle o order _ _ rfl) (fun moved ans h => ?_) fun e => endsWell_error o e rfl
      dsimp only
      rw [answered h]
      exact means _ moved _ rfl (by simp) (by simp)
  | ok result =>
    unfold settle
    by_cases haccepted : result.status.value ∈ ["FILLED", "SUBMITTED"]
    · have hset : settlement c (.ok result) = some
          { idempotencyKey := c.key, status := .accepted, orderId := some result.orderId
            transactionId := result.transactionId } := by simp only [settlement, if_pos haccepted]
      dsimp only
      simp only [if_pos haccepted]
      rw [wp_bind]
      refine wp_transition (.settle o order _ _ hset) (fun moved ans h => ?_) fun e => endsWell_error o e rfl
      dsimp only
      rw [answered h]
      split
      · rename_i hmoved
        exact means _ moved _ hset (by simp) (by simp)
      · rename_i hmoved
        have hm : moved = true := by simpa using hmoved
        exact means _ moved _ hset (by simp [hm]) (by simp)
    · have hset : settlement c (.ok result) = some
          { idempotencyKey := c.key, status := .rejected, transactionId := result.transactionId } := by
        simp only [settlement, if_neg haccepted]
      dsimp only
      simp only [if_neg haccepted]
      rw [wp_bind]
      refine wp_transition (.settle o order _ _ hset) (fun moved ans h => ?_) fun e => endsWell_error o e rfl
      dsimp only
      rw [answered h]
      split
      · rename_i hmoved
        exact means _ moved _ hset (by simp) (by simpa using hmoved)
      · exact means _ moved _ hset (by simp) (by simp)

theorem wp_submitClaimed (o : String) (decision : ExecutionDecision) :
    wp (submitProtocol c) (submitClaimed c decision) (.claimed o) (EndsWell c o) := by
  unfold submitClaimed
  split
  · rename_i order horder
    rw [wp_bindAny]
    unfold sendOrder
    rw [wp_bind]
    refine (wp_ask _ _ _).2 ⟨.submit o order horder, fun ans => ?_⟩
    cases ans with
    | error e => exact wp_settle o order decision _
    | ok _ =>
      dsimp only
      rw [wp_bind]
      refine (wp_ask _ _ _).2 ⟨.await o order, fun ans => ?_⟩
      cases ans with
      | error e => exact wp_settle o order decision _
      | ok answer =>
        dsimp only
        rw [wp_ofExcept]
        exact wp_settle o order decision _
  · exact endsWell_error o _ rfl

theorem wp_claim (o : String) (h : Held) (context : Option ExecutionContext) (hs : h.spent = false)
    (hp : passedOn c h) {post : Except PyExc ClaimState → Phase → Prop} (hclaimed : post (.ok .claimed) (.claimed o))
    (hnot : ∀ out spent, out ≠ .ok .claimed → post out (.held o { h with spent })) :
    wp (submitProtocol c) (claim c context c.scope o) (.held o h) post := by
  unfold claim
  rw [wp_bind, wp_ofExcept]
  cases hrec : IntentRecord.fromExecutionIntent c.intent .pending (context.bind (·.broker)) (some c.scope) with
  | error e => exact hnot _ h.spent (by simp)
  | ok record =>
    refine (wp_ask _ _ _).2 ⟨.claim o h record _ hs hp hrec, fun ans => ?_⟩
    cases ans with
    | error e => exact hnot _ true (by simp)
    | ok state =>
      cases state with
      | claimed => exact hclaimed
      | alreadyExists => exact hnot _ true (by simp)
      | conflict => exact hnot _ true (by simp)

omit [CaseMap] in
theorem effectiveContext_eq_some {context : Option ExecutionContext} {positions : Option (List PositionItem)}
    {effective : ExecutionContext} (h : effectiveContext context positions = some effective) :
    ∃ given items fresh, context = some given ∧ positions = some items ∧ fromPositions items = some fresh ∧
      effective = { given with openPositions := some fresh } := by
  unfold effectiveContext at h
  split at h
  · rename_i given fresh hfresh
    obtain ⟨items, hitems, hfrom⟩ := Option.bind_eq_some_iff.1 hfresh
    cases h
    exact ⟨given, items, fresh, rfl, hitems, hfrom, rfl⟩
  · cases h

theorem passedOn_of_allowed {h : Held}
    (ha : (ExecutionPolicy.evaluate c.intent (effectiveContext h.context h.view)).allowed = true) : passedOn c h := by
  obtain ⟨effective, hctx, _⟩ := ExecutionPolicy.evaluate_allowed ha
  rw [hctx] at ha
  obtain ⟨given, items, fresh, hgiven, hitems, hfrom, rfl⟩ := effectiveContext_eq_some hctx
  exact ⟨given, items, fresh, hgiven, hitems, hfrom, ha⟩

omit [CaseMap] in
theorem endsWell_held (o : String) (h : Held) {result : ExecutionResult} (hid : result.orderId = none) :
    EndsWell c o (.ok result) (.held o h) :=
  endsWell_unsettled o hid rfl fun _ _ _ _ hq => by cases hq

theorem wp_submitClaim (o : String) (h : Held) (context : Option ExecutionContext) (decision : ExecutionDecision)
    (hs : h.spent = false) (hp : passedOn c h) :
    wp (submitProtocol c) (submitClaim c context c.scope o decision) (.held o h) (EndsWell c o) := by
  unfold submitClaim
  rw [wp_bind, wp_attempt]
  refine wp_claim o h context hs hp (wp_submitClaimed o decision) fun out spent hne => ?_
  cases out with
  | error e =>
    dsimp only
    split
    · exact endsWell_held o _ rfl
    · exact endsWell_error o e rfl
  | ok state =>
    dsimp only
    rw [if_pos fun hst => hne (by rw [hst]), wp_bind]
    refine wp_reconcile o _ none fun out h' _ _ _ => ?_
    cases out with
    | error e => exact endsWell_error o e rfl
    | ok followUp => exact endsWell_held o h' rfl

theorem wp_submitJudged (o : String) (h : Held) (hs : h.spent = false) :
    wp (submitProtocol c) (submitJudged c h.context c.scope o h.view) (.held o h) (EndsWell c o) := by
  unfold submitJudged
  dsimp only
  split
  · exact endsWell_held o h rfl
  · rename_i hallowed
    have hp : passedOn c h := passedOn_of_allowed (by simpa using hallowed)
    obtain ⟨_, items, _, _, hview, _⟩ := id hp
    rw [wp_bind]
    refine wp_reconcile o h h.view fun out h' hspent hctx hsame => ?_
    cases out with
    | error e => exact endsWell_error o e rfl
    | ok reconciliation =>
      dsimp only
      split
      · exact endsWell_held o h' rfl
      · -- the policy was asked about the view the claim is made on
        have hp' : passedOn c h' := by
          unfold passedOn
          rw [hctx, hsame (by rw [hview]; rfl)]
          exact hp
        have rest := wp_submitClaim o h' h.context (ExecutionPolicy.evaluate c.intent
          (effectiveContext h.context h.view)) (hspent.trans hs) hp'
        split
        · rw [wp_bind]
          refine (wp_ask _ _ _).2 ⟨.before o h' _, fun ans => ?_⟩
          cases ans with
          | error e => exact endsWell_error o e rfl
          | ok _ => exact rest
        · exact rest

theorem wp_submitReserved (o : String) (h : Held) (hs : h.spent = false) :
    wp (submitProtocol c) (submitReserved c h.context c.scope o) (.held o h) (EndsWell c o) := by
  unfold submitReserved
  rw [wp_bind, wp_attempt]
  refine (wp_ask _ _ _).2 ⟨.positions o h, fun ans => ?_⟩
  cases ans with
  | ok items => exact wp_submitJudged o { h with view := some items } hs
  | error e =>
    dsimp only
    split
    · exact wp_submitJudged o { h with view := none } hs
    · exact endsWell_error o e rfl

theorem wp_refreshedContext (o : String) (h : Held) (hs : h.spent = false) (hc : h.context = c.context)
    {post : Except PyExc (Option ExecutionContext) → Phase → Prop}
    (hok : ∀ context, post (.ok context) (.held o { h with context }))
    (herr : ∀ e q, q.owner? = some o → post (.error e) q) :
    wp (submitProtocol c) (refreshedContext c) (.held o h) post := by
  unfold refreshedContext
  split
  · rw [wp_map, wp_attempt]
    refine (wp_ask _ _ _).2 ⟨.provide o h hs, fun ans => ?_⟩
    cases ans with
    | ok context => exact hok context
    | error e =>
      dsimp only
      split
      · exact hok none
      · exact herr e _ rfl
  · have := hok c.context
    rwa [← hc] at this ⊢

theorem wp_submitHeld (o : String) (h : Held) (hs : h.spent = false) (hc : h.context = c.context) :
    wp (submitProtocol c) (submitHeld c o) (.held o h) (EndsWell c o) := by
  unfold submitHeld
  rw [wp_bind]
  refine wp_refreshedContext o h hs hc (fun context => ?_) fun e q hq => endsWell_error o e hq
  dsimp only
  rw [wp_bind]
  refine wp_mono (fun out q hout => ?_) _ _ (wp_submitReserved o { h with context } hs)
  cases out with
  | error e => exact hout
  | ok result =>
    dsimp only
    split
    · rw [wp_bind]
      refine (wp_ask _ _ _).2 ⟨.after q result, fun ans => ?_⟩
      rw [phaseNext_after]
      cases ans with
      | error e => exact endsWell_error o e hout.2
      | ok _ => exact hout
    · exact hout

/-- **`submit` keeps to its protocol**, and a returned result means what it says. -/
theorem submit_conforms (c : SubmitCall) : wp (submitProtocol c) (submit c) .idle (ResultMeans c) := by
  have refusal : ∀ (code : ExecutionDecisionCode) (reason : String) (q : Phase), q.owner? = none ∨
      (∃ o, q = .drawn o) → ResultMeans c (.ok (refused code reason)) q := by
    intro code reason q hq result hr
    cases hr
    have unsettled : ∀ o order outcome b, q ≠ .settled o order outcome b := by
      rintro o order outcome b rfl
      rcases hq with hq | ⟨_, hq⟩ <;> cases hq
    exact ⟨fun id _ hid => (by cases hid), fun o order outcome record h => absurd h (unsettled _ _ _ _),
      fun _ _ _ => unsettled _ _ _ _⟩
  unfold submit
  split
  · exact refusal _ _ _ (.inl rfl)
  · rw [wp_bind]
    refine (wp_ask _ _ _).2 ⟨.draw, fun ans => ?_⟩
    cases ans with
    | error e => exact fun _ h => by cases h
    | ok o =>
      dsimp only
      rw [wp_bind, wp_attempt]
      refine (wp_ask _ _ _).2 ⟨.acquire o, fun ans => ?_⟩
      cases ans with
      | error e =>
        dsimp only
        split
        · exact refusal _ _ _ (.inl rfl)
        · exact fun _ h => by cases h
      | ok reservation =>
        dsimp only
        split
        · refine refusal _ _ _ (.inl ?_)
          cases reservation <;> first | rfl | contradiction
        · rename_i hacq
          have hres : reservation = .acquired := not_not.1 hacq
          subst hres
          rw [wp_finallyDo]
          refine wp_mono (fun out q hout => ?_) _ _ (wp_submitHeld o _ rfl rfl)
          refine (wp_ask _ _ _).2 ⟨.release q o hout.2, fun ans => ?_⟩
          rw [phaseNext_release]
          cases ans with
          | ok _ => exact hout.1
          | error e => exact fun _ h => by cases h

end AsyncTradeExecutor

/-! ## What one request leaves of a phase -/

section

variable {c : SubmitCall} {q : Phase} {r : ExecReq} {ans : Except PyExc r.Ans}

theorem held_next {o : String} {h' : Held} (ha : Allowed c q r) (hq' : phaseNext c q r ans = .held o h') :
    (q = .drawn o ∧ h' = ⟨c.context, none, none, false, false⟩) ∨ ∃ h, q = .held o h ∧
      (r ≠ .contextProvider → h'.context = h.context) ∧ (r ≠ .getPositions → h'.view = h.view) ∧
      ((∀ k, r ≠ .store (.get k)) → h'.seen = h.seen) ∧ ((∀ x, r ≠ .reconcile x) → h'.confirmed = h.confirmed) := by
  cases ha with
  | acquire o₀ =>
    rcases ans with _ | _ | _ | _ <;> cases hq'
    exact .inl ⟨rfl, rfl⟩
  | provide o₀ h hs => cases ans <;> cases hq' <;> exact .inr ⟨_, rfl, by simp, by simp, by simp, by simp⟩
  | positions o₀ h => cases ans <;> cases hq' <;> exact .inr ⟨_, rfl, by simp, by simp, by simp, by simp⟩
  | get o₀ h => cases ans <;> cases hq' <;> exact .inr ⟨_, rfl, by simp, by simp, by simp, by simp⟩
  | reconcile o₀ h record hr hu => cases ans <;> cases hq' <;> exact .inr ⟨_, rfl, by simp, by simp, by simp, by simp⟩
  | confirm o₀ h a b hc => cases hq'; exact .inr ⟨_, rfl, by simp, by simp, by simp, by simp⟩
  | doubt o₀ h => cases hq'; exact .inr ⟨_, rfl, by simp, by simp, by simp, by simp⟩
  | before o₀ h decision => cases hq'; exact .inr ⟨_, rfl, by simp, by simp, by simp, by simp⟩
  | claim o₀ h record broker hs hp hr =>
    rcases ans with e | _ | _ | _ <;> cases hq' <;> exact .inr ⟨_, rfl, by simp, by simp, by simp, by simp⟩
  | after q result =>
    rw [AsyncTradeExecutor.phaseNext_after] at hq'
    exact .inr ⟨h', hq', by simp, by simp, by simp, by simp⟩
  | release q o₀ ho =>
    rw [AsyncTradeExecutor.phaseNext_release] at hq'
    exact .inr ⟨h', hq', by simp, by simp, by simp, by simp⟩
  | draw => cases ans <;> cases hq'
  | submit o₀ order ho => cases ans <;> cases hq'
  | await o₀ order => cases ans <;> cases hq'
  | settle o₀ order out record hr => cases ans <;> cases hq'

theorem hasClaimed_cases (ha : Allowed c q r) (hq' : (phaseNext c q r ans).hasClaimed = true) :
    q.hasClaimed = true ∨ ∃ o h, q = .held o h ∧ passedOn c h := by
  cases ha with
  | claim o h record broker hs hp hr => exact .inr ⟨o, h, rfl, hp⟩
  | submit o order ho => exact .inl rfl
  | await o order => exact .inl rfl
  | settle o order out record hr => exact .inl rfl
  | after q result =>
    rw [AsyncTradeExecutor.phaseNext_after] at hq'
    exact .inl hq'
  | release q o ho =>
    rw [AsyncTradeExecutor.phaseNext_release] at hq'
    exact .inl hq'
  | acquire o => rcases ans with _ | _ | _ | _ <;> cases hq'
  | provide o h hs => cases ans <;> cases hq'
  | positions o h => cases ans <;> cases hq'
  | get o h => cases ans <;> cases hq'
  | reconcile o h record hr hu => cases ans <;> cases hq'
  | confirm o h a b hc => cases hq'
  | doubt o h => cases hq'
  | before o h decision => cases hq'
  | draw => cases ans <;> cases hq'

end

end Jqe
