import Jqe.DerivSubmit
/-!
# DerivSubmitSound — what the Deriv submissions buy

Everything a submission requests before its last request is no buy, and the buy is for the proposal just made.
-/
namespace Jqe
namespace DerivSubmit

open PyValue (get)
open Raising Gateway List
open Triple (intro bind reads ite returns answers raises)
open Gateway (submitOrder buyOutcome)

def isBuy (payload : Payload) : Bool := (payload.lookup "buy").isSome

variable {proposalId : String} {askPrice : ℚ} {passthrough : Option Payload} {g : Gateway}

theorem buildBuyRequest_ok {key : Option String} {buy : Payload}
    (h : buildBuyRequest proposalId askPrice key passthrough = .ok buy) :
    ∃ marks, buy = [("buy", .str proposalId), ("price", .float (.fin askPrice))] ++ marks ∧
      ∀ e ∈ marks, e.1 = "passthrough" := by
  obtain ⟨marked, _, hmarked⟩ := bind_ok h
  cases hmarked
  by_cases hempty : marked.isEmpty = true
  · exact ⟨[], by simp [hempty], by simp⟩
  · exact ⟨[("passthrough", .dict marked)], by simp [hempty], by simp⟩

def Unbought (before : List (Payload × Reply)) (g : Gateway) : Prop :=
  ∃ asked, g.exchanges = before ++ asked ∧ ∀ e ∈ asked, isBuy e.1 = false

/-- The last exchange since `before` is this one, and none before it is a buy. -/
def Logged (before : List (Payload × Reply)) (payload response : Payload) (g : Gateway) : Prop :=
  ∃ asked, g.exchanges = before ++ (asked ++ [(payload, .ok response)]) ∧ ∀ e ∈ asked, isBuy e.1 = false

variable {before : List (Payload × Reply)}

theorem request_exchanges (payload : Payload) (g : Gateway) :
    ∃ reply, (left (request payload g)).exchanges = g.exchanges ++ [(payload, reply)] ∧
      ∀ a g', request payload g = .ok a g' → reply = .ok a := by
  unfold request answered
  dsimp only
  cases g.replies.headD _ with
  | ok a => exact ⟨.ok a, rfl, fun b g' h => by cases h; rfl⟩
  | error e => exact ⟨.error e, rfl, fun b g' h => by cases h⟩

theorem request_logged {payload : Payload} (hpayload : isBuy payload = false) :
    Triple (Unbought before) (request payload)
      (Logged before payload) (Unbought before) := by
  refine intro fun g ⟨asked, hexchanges, hasked⟩ => ?_
  obtain ⟨reply, hleft, hreply⟩ := request_exchanges payload g
  cases hrun : request payload g with
  | ok response g' =>
    rw [hrun, hreply _ _ hrun] at hleft
    exact .inl ⟨response, g', rfl, asked, by rw [← append_assoc, ← hexchanges]; exact hleft, hasked⟩
  | error e g' =>
    rw [hrun] at hleft
    refine .inr ⟨e, g', rfl, asked ++ [(payload, reply)], by rw [← append_assoc, ← hexchanges]; exact hleft, ?_⟩
    simpa [or_imp, forall_and, hpayload] using hasked

theorem Logged.unbought {payload response : Payload} (h : Logged before payload response g)
    (hpayload : isBuy payload = false) : Unbought before g := by
  obtain ⟨asked, hexchanges, hasked⟩ := h
  refine ⟨_, hexchanges, ?_⟩
  simpa [or_imp, forall_and, hpayload] using hasked

theorem request_unbought {payload : Payload} (hpayload : isBuy payload = false) :
    Triple (Unbought before) (request payload) (fun _ => Unbought before) (Unbought before) :=
  (request_logged hpayload).weaken (fun _ h => h) (fun _ _ h => h.unbought hpayload) fun _ h => h

theorem requireConnected_unbought :
    Triple (Unbought before) requireConnected (fun _ => Unbought before) (Unbought before) := by
  refine intro fun g hg => ?_
  by_cases hconnected : g.connected = true
  · exact .inl ⟨(), g, if_pos hconnected, hg⟩
  · exact .inr ⟨_, g, if_neg hconnected, hg⟩

theorem resolveAccountCurrency_unbought :
    Triple (Unbought before) resolveAccountCurrency (fun _ => Unbought before) (Unbought before) := by
  refine bind (Q := fun _ => Unbought before) (reads fun _ h => h) fun g => ?_
  refine ite (fun _ => returns fun _ h => h) fun _ => ?_
  refine bind (request_unbought rfl) fun response => ?_
  split
  · exact bind (Q := fun _ => Unbought before) (Triple.modifies fun _ h => h) fun _ => returns fun _ h => h
  · exact returns fun _ h => h

variable [PyTexts]

theorem positiveFinancialNumber_pos {value : PyValue} {field : String} {q : ℚ}
    (h : positiveFinancialNumber value field = .ok q) : 0 < q := by
  unfold positiveFinancialNumber at h
  dsimp only at h
  split at h
  · split at h
    · cases h
    · rename_i hpos
      cases h
      exact not_le.1 hpos
  · cases h
  · cases h

theorem parseProposalResponse_pos {response : Payload} {symbol : String}
    (h : parseProposalResponse response symbol = .ok (proposalId, askPrice)) : 0 < askPrice := by
  unfold parseProposalResponse at h
  dsimp only at h
  split at h
  · split at h
    · cases h
    · split at h
      · rename_i hprice
        cases h
        exact positiveFinancialNumber_pos hprice
      · cases h
      · cases h
  · cases h

/-! ### What is requested -/

variable [CaseMap]

/-- **A proposal of the order**: its symbol, its direction and its amount. -/
structure Proposes (order : OrderRequest) (payload : Payload) : Prop where
  unbought : isBuy payload = false
  proposal : get payload "proposal" = .int 1
  symbol : get payload "underlying_symbol" = .str (providerSymbol order.symbol)
  direction : get payload "contract_type" = .str (contractType order.side)
  amount : get payload "amount" = .float (.fin order.quantity.value)
  basis : get payload "basis" = .str "stake"

/-- **Requests within the intent of an order**: no buy, or one buy at the end, right after a proposal of the order, for
the identity in its reply and with the ask price of that reply as limit. -/
inductive WithinIntent (order : OrderRequest) : List (Payload × Reply) → Prop where
  | unbought {asked : List (Payload × Reply)} (hasked : ∀ e ∈ asked, isBuy e.1 = false) : WithinIntent order asked
  | bought {asked : List (Payload × Reply)} {proposal response buy : Payload} {reply : Reply} {proposalId : String}
      {askPrice : ℚ} (hasked : ∀ e ∈ asked, isBuy e.1 = false) (hproposal : Proposes order proposal)
      (hresponse : parseProposalResponse response order.symbol = .ok (proposalId, askPrice)) (hpos : 0 < askPrice)
      (hid : get buy "buy" = .str proposalId) (hlimit : get buy "price" = .float (.fin askPrice)) :
      WithinIntent order (asked ++ [(proposal, .ok response), (buy, reply)])

/-- The last exchange is a proposal of the order whose reply reads as `quote`. -/
def Proposed (order : OrderRequest) (before : List (Payload × Reply)) (quote : String × ℚ) (g : Gateway) : Prop :=
  ∃ asked proposal response, g.exchanges = before ++ (asked ++ [(proposal, .ok response)]) ∧
    (∀ e ∈ asked, isBuy e.1 = false) ∧ Proposes order proposal ∧
    parseProposalResponse response order.symbol = .ok quote

omit [PyTexts] in
theorem buildProposalRequest_proposes {order : OrderRequest} {currency : String} {multiplier : Option ℤ} {payload : Payload}
    (h : buildProposalRequest order currency multiplier = .ok payload) : Proposes order payload := by
  unfold buildProposalRequest at h
  dsimp only at h
  split at h
  · cases h
    exact ⟨rfl, rfl, rfl, rfl, rfl, rfl⟩
  · split at h
    · cases h
    · cases h
      exact ⟨rfl, rfl, rfl, rfl, rfl, rfl⟩

variable {order : OrderRequest}

theorem resolveMultiplier_unbought :
    Triple (Unbought before) (resolveMultiplier order) (fun _ => Unbought before) (Unbought before) :=
  bind (request_unbought rfl) fun _ => answers fun _ h => ⟨fun _ _ => h, h⟩

/-- **Up to the buy nothing is bought**, and what is returned is read from the reply to a proposal of the order. -/
theorem propose_spec : Triple (Unbought before) (propose order) (Proposed order before) (Unbought before) := by
  refine bind resolveAccountCurrency_unbought fun currency => ?_
  refine bind resolveMultiplier_unbought fun multiplier => ?_
  refine bind (Q := fun payload g => Unbought before g ∧ Proposes order payload)
    (answers fun g h => ⟨fun payload hbuild => ⟨h, buildProposalRequest_proposes hbuild⟩, h⟩) fun payload => ?_
  intro g ⟨hunbought, hproposes⟩
  refine bind (request_logged hproposes.unbought) (fun response => ?_) g hunbought
  refine ite (fun _ => ?_) fun _ => ?_
  · refine bind (Q := fun _ => Unbought before) (answers fun g h => ?_) fun reason => raises fun _ h => h
    exact ⟨fun _ _ => h.unbought hproposes.unbought, h.unbought hproposes.unbought⟩
  · refine answers fun g h => ⟨fun quote hquote => ?_, h.unbought hproposes.unbought⟩
    obtain ⟨asked, hexchanges, hasked⟩ := h
    exact ⟨asked, payload, response, hexchanges, hasked, hproposes, hquote⟩

/-! ### What is bought -/

def Sent (order : OrderRequest) (before : List (Payload × Reply)) (g : Gateway) : Prop :=
  ∃ asked, g.exchanges = before ++ asked ∧ WithinIntent order asked

theorem Unbought.sent (h : Unbought before g) : Sent order before g :=
  let ⟨asked, hexchanges, hasked⟩ := h
  ⟨asked, hexchanges, .unbought hasked⟩

theorem Proposed.unbought {quote : String × ℚ} (h : Proposed order before quote g) : Unbought before g :=
  let ⟨_, _, _, hexchanges, hasked, hproposes, _⟩ := h
  Logged.unbought ⟨_, hexchanges, hasked⟩ hproposes.unbought

/-- What both submissions do from the quote on. -/
def buying (buyRequest : Except SubmitError Payload) (outcome : Payload → Except SubmitError DerivOrderResult) :
    Act DerivOrderResult := do
  let payload ← answered buyRequest
  let response ← request payload
  answered (outcome response)

theorem buying_sent {key : Option String} {outcome : Payload → Except SubmitError DerivOrderResult} :
    Triple (Proposed order before (proposalId, askPrice))
      (buying (buildBuyRequest proposalId askPrice key passthrough) outcome)
      (fun _ => Sent order before) (Sent order before) := by
  refine bind (Q := fun buy g => Proposed order before (proposalId, askPrice) g ∧
    get buy "buy" = .str proposalId ∧ get buy "price" = .float (.fin askPrice))
    (answers fun g h => ⟨fun buy hbuild => ⟨h, ?_⟩, h.unbought.sent⟩) fun buy => ?_
  · obtain ⟨marks, rfl, -⟩ := buildBuyRequest_ok hbuild
    exact ⟨rfl, rfl⟩
  · refine bind (Q := fun _ => Sent order before) ?_ fun response => answers fun _ h => ⟨fun _ _ => h, h⟩
    rintro g ⟨⟨asked, proposal, response, hexchanges, hasked, hproposes, hresponse⟩, hid, hlimit⟩
    obtain ⟨reply, hleft, -⟩ := request_exchanges buy g
    have hsent : Sent order before (left (request buy g)) :=
      ⟨asked ++ [(proposal, .ok response), (buy, reply)], by rw [hleft, hexchanges]; simp,
        .bought hasked hproposes hresponse (parseProposalResponse_pos hresponse) hid hlimit⟩
    cases hrun : request buy g with
    | ok _ _ | error _ _ =>
      rw [hrun] at hsent
      exact hsent

theorem Gateway.submitOrder_sent :
    Triple (Unbought before) (submitOrder order) (fun _ => Sent order before) (Sent order before) := by
  refine bind (requireConnected_unbought.weaken (fun _ h => h) (fun _ _ h => h) fun _ h => h.sent) fun _ => ?_
  refine ite (fun _ => raises fun _ h => h.sent) fun _ => ?_
  refine ite (fun _ => raises fun _ h => h.sent) fun _ => ?_
  exact bind (propose_spec.weaken (fun _ h => h) (fun _ _ h => h) fun _ h => h.sent)
    fun ⟨_, _⟩ => buying_sent

theorem DemoGateway.submitOrder_sent {demoVerified : Bool} :
    Triple (Unbought before) (DemoGateway.submitOrder demoVerified order) (fun _ => Sent order before)
      (Sent order before) := by
  refine bind (requireConnected_unbought.weaken (fun _ h => h) (fun _ _ h => h) fun _ h => h.sent) fun _ => ?_
  refine bind (Q := fun _ => Unbought before) (reads fun _ h => h) fun g => ?_
  refine ite (fun _ => raises fun _ h => h.sent) fun _ => ?_
  refine bind (Q := fun _ => Unbought before) (answers fun _ h => ⟨fun _ _ => h, h.sent⟩) fun _ => ?_
  exact bind (propose_spec.weaken (fun _ h => h) (fun _ _ h => h) fun _ h => h.sent)
    fun ⟨_, _⟩ => buying_sent

/-! ### The two submissions -/

/-- A fill that one submission takes and the other does not: its price is a number, but not positive and finite. -/
def LooseFill (response : Payload) : Prop :=
  (get response "error").truthy = false ∧ ∃ fill price, get response "buy" = .dict fill ∧
    contractMissing (get fill "contract_id") = false ∧ (get fill "buy_price").number? = some (.ok price) ∧
      ¬∃ q, price = .fin q ∧ 0 < q

omit [CaseMap] in
/-- **Both read every other response alike.** -/
theorem buyOutcome_eq {response : Payload} (h : ¬LooseFill response) :
    buyOutcome order response = DemoGateway.buyOutcome order response := by
  unfold buyOutcome DemoGateway.buyOutcome outcomeOfBuy
  by_cases herror : (get response "error").truthy = true
  · rw [if_pos herror, if_pos herror]
  rw [if_neg herror, if_neg herror]
  cases hbuy : get response "buy" with
  | dict fill =>
    dsimp only
    by_cases hcontract : contractMissing (get fill "contract_id") = true
    · rw [if_pos hcontract, if_pos hcontract]
    rw [if_neg hcontract, if_neg hcontract]
    cases hprice : (get fill "buy_price").number? with
    | none => rfl
    | some number =>
      cases number with
      | error e => rfl
      | ok price =>
        have hgood : ∃ q, price = .fin q ∧ 0 < q := by
          by_contra hbad
          exact h ⟨by simpa using herror, fill, price, hbuy, by simpa using hcontract, hprice, hbad⟩
        obtain ⟨q, rfl, hq⟩ := hgood
        have hcheck : (!(PyFloat.fin q).isFinite || (PyFloat.fin q).le .zero) = false := by
          simp [PyFloat.zero, PyFloat.isFinite, PyFloat.rat?, not_le.2 hq]
        exact if_neg (Bool.eq_false_iff.1 hcheck)
  | _ => rfl

def ended {ε σ α : Type} : EStateM.Result ε σ α → Except ε α
  | .ok a _ => .ok a
  | .error e _ => .error e

def unmarked (e : Payload × Reply) : Payload × Reply := (e.1.filter fun entry => entry.1 ≠ "passthrough", e.2)

/-- **Two submissions alike**: they request the same but for what is passed through, and they end the same but for a
loose fill. -/
structure Alike (base demo : EStateM.Result SubmitError Gateway DerivOrderResult) : Prop where
  exchanges : (left base).exchanges.map unmarked = (left demo).exchanges.map unmarked
  outcome : ended base = ended demo ∨ ∃ buy response,
    (left demo).exchanges.getLast? = some (buy, .ok response) ∧ isBuy buy = true ∧ LooseFill response

omit [CaseMap] [PyTexts] in
theorem buildBuyRequest_some (hmarks : (passthrough.getD []).lookup "jqe" = none) (proposalId : String) (askPrice : ℚ)
    (key : Option String) : ∃ buy, buildBuyRequest proposalId askPrice key passthrough = .ok buy := by
  have hkeyed : ∃ marked, keyedPassthrough (passthrough.getD []) key = .ok marked := by
    cases key with
    | none => exact ⟨_, rfl⟩
    | some key =>
      unfold keyedPassthrough
      rw [hmarks]
      exact ⟨_, rfl⟩
  obtain ⟨marked, hmarked⟩ := hkeyed
  unfold buildBuyRequest
  rw [hmarked]
  exact ⟨_, rfl⟩

omit [CaseMap] [PyTexts] in
theorem unmarked_buy {marks : Payload} (hmarks : ∀ e ∈ marks, e.1 = "passthrough") (reply : Reply) :
    unmarked ([("buy", .str proposalId), ("price", .float (.fin askPrice))] ++ marks, reply) =
      ([("buy", .str proposalId), ("price", .float (.fin askPrice))], reply) := by
  have hfilter : marks.filter (fun entry => entry.1 ≠ "passthrough") = [] := by
    rw [filter_eq_nil_iff]
    intro e he
    simp [hmarks e he]
  unfold unmarked
  rw [filter_append, hfilter]
  rfl

omit [CaseMap] [PyTexts] in
theorem buying_run {payload : Payload} {reply : Reply} {g' : Gateway} (hrequest : request payload g = answered reply g')
    (outcome : Payload → Except SubmitError DerivOrderResult) :
    ended (buying (.ok payload) outcome g) = reply.bind outcome ∧ left (buying (.ok payload) outcome g) = g' := by
  show ended (EStateM.bind (request payload) (fun response => answered (outcome response)) g) = _ ∧
    left (EStateM.bind (request payload) (fun response => answered (outcome response)) g) = g'
  unfold EStateM.bind
  rw [hrequest]
  cases reply with
  | error e => exact ⟨rfl, rfl⟩
  | ok response =>
    show ended (answered (outcome response) g') = outcome response ∧ left (answered (outcome response) g') = g'
    cases outcome response with
    | ok result => exact ⟨rfl, rfl⟩
    | error e => exact ⟨rfl, rfl⟩

omit [CaseMap] in
theorem buying_alike (hmarks : (passthrough.getD []).lookup "jqe" = none) (quote : String × ℚ) (g : Gateway) :
    Alike (buying (buildBuyRequest quote.1 quote.2 order.idempotencyKey none) (buyOutcome order) g)
      (buying (buildBuyRequest quote.1 quote.2 order.idempotencyKey passthrough)
        (DemoGateway.buyOutcome order) g) := by
  obtain ⟨buy, hbuy⟩ := buildBuyRequest_some (show ((none : Option Payload).getD []).lookup "jqe" = none from rfl)
    quote.1 quote.2 order.idempotencyKey
  obtain ⟨buy', hbuy'⟩ := buildBuyRequest_some hmarks quote.1 quote.2 order.idempotencyKey
  obtain ⟨marks, rfl, hplain⟩ := buildBuyRequest_ok hbuy
  obtain ⟨marks', rfl, hplain'⟩ := buildBuyRequest_ok hbuy'
  rw [hbuy, hbuy']
  -- the reply does not depend on what is passed through
  obtain ⟨reply, replies, hrequest⟩ : ∃ reply replies, ∀ marks : Payload,
      request ([("buy", .str quote.1), ("price", .float (.fin quote.2))] ++ marks) g = answered reply
        { g with replies := replies, exchanges := g.exchanges ++
          [([("buy", .str quote.1), ("price", .float (.fin quote.2))] ++ marks, reply)] } :=
    ⟨g.replies.headD (.error (.connection "Deriv API request timed out" [("request_type", .str "buy")])), g.replies.tail,
      fun _ => rfl⟩
  obtain ⟨hended, hleft⟩ := buying_run (hrequest marks) (buyOutcome order)
  obtain ⟨hended', hleft'⟩ := buying_run (hrequest marks') (DemoGateway.buyOutcome order)
  refine ⟨?_, ?_⟩
  · rw [hleft, hleft', map_append, map_append, map_singleton, map_singleton,
      unmarked_buy hplain, unmarked_buy hplain']
  · rw [hended, hended', hleft']
    cases reply with
    | error e => exact .inl rfl
    | ok response =>
      by_cases hloose : LooseFill response
      · exact .inr ⟨_, response, getLast?_concat, rfl, hloose⟩
      · exact .inl (buyOutcome_eq hloose)

structure Submits (order : OrderRequest) (demoVerified : Bool) (g : Gateway) : Prop where
  sent : ∃ asked, (left (Gateway.submitOrder order g)).exchanges = g.exchanges ++ asked ∧ WithinIntent order asked ∧
    ((∃ e ∈ asked, isBuy e.1 = true) → order.orderType = .market ∧ order.quantity.unit = .derivStake)
  demoSent : ∃ asked, (left (DemoGateway.submitOrder demoVerified order g)).exchanges = g.exchanges ++ asked ∧
    WithinIntent order asked
  guarded : g.connected = true → demoVerified = false ∨ g.accountId.getD "" = "" →
    ∃ message context, DemoGateway.submitOrder demoVerified order g = .error (.unsafeAccount message context) g
  alike : order.orderType = .market → order.quantity.unit = .derivStake → demoVerified = true →
    g.accountId.getD "" ≠ "" → Alike (Gateway.submitOrder order g) (DemoGateway.submitOrder demoVerified order g)

theorem Gateway.submitOrder_eq (hconnected : g.connected = true) (htype : order.orderType = .market)
    (hunit : order.quantity.unit = .derivStake) :
    submitOrder order g = EStateM.bind (propose order) (fun quote =>
      buying (buildBuyRequest quote.1 quote.2 order.idempotencyKey none) (buyOutcome order)) g := by
  unfold submitOrder
  rw [run_bind (show requireConnected g = .ok () g from if_pos hconnected), if_neg (not_not.2 htype),
    if_neg (not_not.2 hunit)]
  rfl

theorem DemoGateway.submitOrder_eq (hconnected : g.connected = true) (haccount : g.accountId.getD "" ≠ "") :
    DemoGateway.submitOrder true order g = EStateM.bind (propose order) (fun quote =>
      buying (buildBuyRequest quote.1 quote.2 order.idempotencyKey (commentPassthrough order))
        (DemoGateway.buyOutcome order)) g := by
  unfold DemoGateway.submitOrder
  rw [run_bind (show requireConnected g = .ok () g from if_pos hconnected),
    run_bind (show (MonadState.get : Act Gateway) g = .ok g g from rfl), if_neg (by simp [haccount])]
  rfl

theorem submitOrder_alike (htype : order.orderType = .market) (hunit : order.quantity.unit = .derivStake)
    (haccount : g.accountId.getD "" ≠ "") :
    Alike (submitOrder order g) (DemoGateway.submitOrder true order g) := by
  by_cases hconnected : g.connected = true
  · rw [Gateway.submitOrder_eq hconnected htype hunit, DemoGateway.submitOrder_eq hconnected haccount]
    unfold EStateM.bind
    cases propose order g with
    | error e g' => exact ⟨rfl, .inl rfl⟩
    | ok quote g' =>
      refine buying_alike ?_ quote g'
      unfold commentPassthrough
      split <;> rfl
  · unfold submitOrder DemoGateway.submitOrder
    rw [run_bind_error (if_neg hconnected : requireConnected g = _), run_bind_error (if_neg hconnected : requireConnected g = _)]
    exact ⟨rfl, .inl rfl⟩

theorem sent_of_triple {m : Act DerivOrderResult}
    (h : Triple (Unbought g.exchanges) m (fun _ => Sent order g.exchanges) (Sent order g.exchanges)) :
    Sent order g.exchanges (left (m g)) := by
  obtain ⟨_, _, hrun, hsent⟩ | ⟨_, _, hrun, hsent⟩ := h.elim (s := g) ⟨[], by simp, by simp⟩
  · rw [hrun]
    exact hsent
  · rw [hrun]
    exact hsent

theorem submitOrder_refused (h : ¬(order.orderType = .market ∧ order.quantity.unit = .derivStake)) :
    left (submitOrder order g) = g := by
  unfold submitOrder
  by_cases hconnected : g.connected = true
  · rw [run_bind (show requireConnected g = .ok () g from if_pos hconnected)]
    by_cases htype : order.orderType = .market
    · rw [if_neg (not_not.2 htype), if_pos fun hunit => h ⟨htype, hunit⟩]
      rfl
    · rw [if_pos htype]
      rfl
  · rw [run_bind_error (if_neg hconnected : requireConnected g = _)]
    rfl

/-- **Deriv orders stay within the intent**, up to the price limit. -/
theorem submits (order : OrderRequest) (demoVerified : Bool) (g : Gateway) : Submits order demoVerified g := by
  refine ⟨?_, sent_of_triple DemoGateway.submitOrder_sent, ?_, ?_⟩
  · by_cases hadmitted : order.orderType = .market ∧ order.quantity.unit = .derivStake
    · have hsent : Sent order g.exchanges (left (Gateway.submitOrder order g)) :=
        sent_of_triple Gateway.submitOrder_sent
      obtain ⟨asked, hexchanges, hwithin⟩ := hsent
      exact ⟨asked, hexchanges, hwithin, fun _ => hadmitted⟩
    · exact ⟨[], by rw [submitOrder_refused hadmitted, List.append_nil], .unbought (by simp), by simp⟩
  · intro hconnected hunverified
    unfold DemoGateway.submitOrder
    rw [run_bind (show requireConnected g = .ok () g from if_pos hconnected),
      run_bind (show (MonadState.get : Act Gateway) g = .ok g g from rfl), if_pos hunverified]
    exact ⟨_, _, rfl⟩
  · intro htype hunit hverified haccount
    subst hverified
    exact submitOrder_alike htype hunit haccount

omit [PyTexts] [CaseMap] in
theorem market_fields (side : OrderSide) : orderTypeProblem .market side none none = none := rfl

def stakeOrder : OrderRequest where
  symbol := "R_100"
  side := .buy
  quantity := ⟨10, .derivStake, by decide⟩
  orderType := .market
  entryPrice := none
  stopLimitPrice := none
  stopLoss := 5
  takeProfit := none
  idempotencyKey := some "JQE-intent-001"
  magicNumber := none
  orderComment := none
  prices_pos := by decide
  fields_ok := market_fields .buy

def pendingLots : OrderRequest :=
  { stakeOrder with
    quantity := ⟨10, .mt5Lots, by decide⟩
    orderType := .buyStop
    entryPrice := some 5
    prices_pos := by decide
    fields_ok := by decide }

/-- A gateway whose broker quotes 1000 and fills at `price`. -/
def quotedGateway (price : PyValue) : Gateway where
  connected := true
  accountId := some "VRTC1"
  currency := some "USD"
  replies :=
    [.ok [("contracts_for", .dict [("available", .list [.dict [("contract_type", .str "MULTUP"),
        ("multiplier_range", .list [.int 100])]])])],
      .ok [("proposal", .dict [("id", .str "prop-1"), ("ask_price", .float (.fin 1000))])],
      .ok [("buy", .dict [("contract_id", .int 7), ("buy_price", price)])]]
  exchanges := []

omit [PyTexts] [CaseMap] in
/-- **A limit of 1000 for a stake of 10**, by both; the demo submission also buys for a pending order in lots, and takes
a negative price where the other raises. -/
theorem limit_above_stake :
    letI := asciiCase
    letI : PyTexts := ⟨fun _ => "", fun _ => none, fun _ => none⟩
    let limits (g : Gateway) := (g.exchanges.filter fun e => isBuy e.1).map fun e => get e.1 "price"
    let filled (r : EStateM.Result SubmitError Gateway DerivOrderResult) :=
      match ended r with
      | .ok result => decide (result.status = .filled)
      | .error _ => false
    stakeOrder.quantity.value = 10 ∧
    limits (left (Gateway.submitOrder stakeOrder (quotedGateway (.float (.fin 10))))) = [.float (.fin 1000)] ∧
    limits (left (DemoGateway.submitOrder true stakeOrder (quotedGateway (.float (.fin 10))))) = [.float (.fin 1000)] ∧
    limits (left (DemoGateway.submitOrder true pendingLots (quotedGateway (.float (.fin 10))))) =
      [.float (.fin 1000)] ∧
    filled (Gateway.submitOrder stakeOrder (quotedGateway (.float (.fin (-1))))) = false ∧
    filled (DemoGateway.submitOrder true stakeOrder (quotedGateway (.float (.fin (-1))))) = true := by
  exact ⟨rfl, rfl, rfl, rfl, rfl, rfl⟩

end DerivSubmit
end Jqe
