import Jqe.ExecAlone
import Jqe.Mt5Terminal
/-!
# Mt5Order — `MT5Gateway.submit_order`

The request that is built and checked, and what the answer of `order_send` becomes.  A retcode that the order type does
not accept becomes `REJECTED`, which the executor records as final.
-/
namespace Jqe

namespace MT5Gateway

def normalizeVolume (requested : ℚ) (info : Mt5SymbolInfo) : Except PyExc ℚ :=
  let minimum := info.volumeMin.getD 0
  let maximum := info.volumeMax.getD 0
  let step := info.volumeStep.getD 0
  let tiny : ℚ := 1 / 10 ^ 12
  if requested ≤ 0 ∨ minimum ≤ 0 ∨ maximum < minimum ∨ step ≤ 0 then rejectOrder "Invalid MT5 volume specification"
  else if requested + tiny < minimum then rejectOrder "MT5 volume is below the symbol minimum"
  else if maximum + tiny < requested then rejectOrder "MT5 volume exceeds the symbol maximum"
  else
    let normalized := pyRound (((requested + tiny) / step).floor * step) 8
    if normalized + tiny < minimum then rejectOrder "MT5 normalized volume is below the symbol minimum"
    else .ok normalized

/-- **`_select_filling_mode`**, with the SDK's `SYMBOL_FILLING_FOK` 1, `SYMBOL_FILLING_IOC` 2 and
`SYMBOL_TRADE_EXECUTION_MARKET` 2. -/
def selectFillingMode (info : Mt5SymbolInfo) : Except PyExc Mt5Filling :=
  let flags := info.fillingMode.getD (-1)
  if 0 ≤ flags ∧ flags.toNat &&& 2 ≠ 0 then .ok .ioc
  else if 0 ≤ flags ∧ flags.toNat &&& 1 ≠ 0 then .ok .fok
  else if info.tradeExemode ≠ some 2 then .ok .ret
  else rejectOrder "MT5 symbol has no supported filling mode"

/-- The check of the distances of the stop loss and the take profit.  The rejection computes the distance in points. -/
def checkStops (info : Mt5SymbolInfo) (stopDistance : ℚ) (profitDistance : Option ℚ) : Except PyExc Unit :=
  let minimumDistance := info.tradeStopsLevel * info.point
  if stopDistance < minimumDistance then
    if info.point = 0 then failWith "float division by zero"
    else rejectOrder "MT5 stop-loss is closer than the symbol minimum"
  else if profitDistance.any (· < minimumDistance) then rejectOrder "MT5 take-profit validation failed"
  else .ok ()

def nativeType (type : OrderType) (side : OrderSide) : Mt5OrderType :=
  match type, side with
  | .market, .buy => .buy
  | .market, .sell => .sell
  | .buyStop, _ => .buyStop
  | .sellStop, _ => .sellStop
  | .stopLimit, .buy => .buyStopLimit
  | .stopLimit, .sell => .sellStopLimit

/-- The stop-limit price, rounded and checked against its trigger. -/
def stopLimitFor (order : OrderRequest) (price : ℚ) (digits : ℕ) : Except PyExc (Option ℚ) :=
  match order.orderType, order.stopLimitPrice with
  | .stopLimit, some p =>
    let limit := pyRound p digits
    if order.side = .buy ∧ price < limit then rejectOrder "MT5 buy stop-limit price must not exceed its trigger"
    else if order.side = .sell ∧ limit < price then
      rejectOrder "MT5 sell stop-limit price must not be below its trigger"
    else .ok (some limit)
  | _, _ => .ok none

/-- The part of `submit_order` from the prices to the request. -/
def buildRequest (order : OrderRequest) (symbol : String) (quantity : ℚ) (info : Mt5SymbolInfo) (tick : Mt5Tick) :
    Except PyExc Mt5Request := do
  let digits := info.digits
  let market := pyRound (if order.side = .buy then tick.ask else tick.bid) digits
  let price := (order.entryPrice.map (pyRound · digits)).getD market
  let stopLoss := pyRound order.stopLoss digits
  let takeProfit := order.takeProfit.map (pyRound · digits)
  let triggerDistance := if order.side = .buy then price - pyRound tick.ask digits else pyRound tick.bid digits - price
  if order.orderType ≠ .market ∧ triggerDistance < info.tradeStopsLevel * info.point then
    rejectOrder "MT5 pending trigger validation failed"
  let stoplimit ← stopLimitFor order price digits
  if order.side = .buy then checkStops info (price - stopLoss) (takeProfit.map (· - price))
  else checkStops info (stopLoss - price) (takeProfit.map (price - ·))
  let typeFilling ← if order.orderType = .market then selectFillingMode info else .ok .ret
  return { action := if order.orderType = .market then .deal else .pending, symbol, volume := quantity
           type := nativeType order.orderType order.side, price, sl := stopLoss, tp := takeProfit.getD 0
           deviation := 20, magic := pyOrInt order.magicNumber 20260802
           comment := pyOrText order.orderComment "JQE Gateway Execution", typeFilling, stoplimit }
where
  /-- `number or default` -/
  pyOrInt (x : Option Int) (d : Int) : Int := match x with
    | some n => if n = 0 then d else n
    | none => d
  /-- `text or default` -/
  pyOrText (x : Option String) (d : String) : String := match x with
    | some s => if s = "" then d else s
    | none => d

def checkReadiness (g : MT5Gateway) (t : Mt5Terminal) : Except PyExc Unit := do
  if g.strictLifecycle ∨ g.expectedEnvironment.any (· ≠ "") ∨ g.login.isSome ∨ g.server.isSome then
    let account ← Sdk.get t.accountInfo
    let terminal ← Sdk.get t.terminalInfo
    if !g.verifyConnectionIdentity account terminal true then
      failWith "MT5 pre-submit readiness verification failed"

def prepare (g : MT5Gateway) (t : Mt5Terminal) (order : OrderRequest) : Except PyExc Mt5Request := do
  g.requireConnected
  if order.quantity.unit ≠ .mt5Lots then rejectOrder "MT5 requires MT5_LOTS"
  g.checkReadiness t
  match ← resolveSymbol t order.symbol with
  | none | some "" => rejectOrder "Unknown MT5 symbol"
  | some symbol =>
    let selected ← Sdk.get (t.symbolSelect symbol)
    if !selected then failWith "Unable to select MT5 symbol"
    match ← Sdk.get (t.symbolInfo symbol) with
    | none => failWith "Unable to retrieve symbol info"
    | some info =>
      if info.tradeMode = some 0 then rejectOrder "MT5 symbol is disabled"
      let quantity ← normalizeVolume order.quantity.value info
      match ← Sdk.get (t.symbolInfoTick symbol) with
      | none => failWith "No tick data available"
      | some tick => buildRequest order symbol quantity info tick

def checked (g : MT5Gateway) (t : Mt5Terminal) (order : OrderRequest) : Except PyExc Mt5Request := do
  let request ← g.prepare t order
  let check ← Sdk.get (t.orderCheck request)
  if check ≠ some (some 0) then rejectOrder "MT5 order_check rejected request"
  return request

def acceptedRetcodes : OrderType → List Int
  | .market => [tradeRetcodeDone, tradeRetcodeDonePartial]
  | _ => [tradeRetcodeDone, tradeRetcodePlaced]

/-- `getattr(result, "order", None) or getattr(result, "deal", None)`. -/
def resultOrder (r : Mt5SendResult) : Option Int :=
  if r.order.any (· ≠ 0) then r.order else r.deal

def acceptedOutcome (order : OrderRequest) (quantity : ℚ) (retcode : Int) (r : Mt5SendResult) :
    Except PyExc OrderResult :=
  let partialFill := order.orderType = .market ∧ retcode = tradeRetcodeDonePartial
  let filled := (r.volume.getD (.fin quantity)).rat?
  if partialFill ∧ filled.all (fun v => v ≤ 0 ∨ quantity < v) then
    failWith "MT5 partial fill volume is unverifiable"
  else match resultOrder r with
    | none => failWith "MT5 successful response lacked execution evidence"
    | some ticket =>
      if order.orderType = .market ∧ r.price = none then
        failWith "MT5 successful response lacked execution evidence"
      else .ok
        { orderId := toString ticket, status := if order.orderType = .market then .filled else .submitted
          symbol := order.symbol, side := order.side
          volume := if partialFill then filled.getD quantity else quantity
          filledPrice := if order.orderType = .market then r.price else none, transactionId := none }

def rejectedResult (order : OrderRequest) (quantity : ℚ) : OrderResult :=
  { orderId := "", status := .rejected, symbol := order.symbol, side := order.side, volume := quantity
    filledPrice := none, transactionId := none }

/-- **What `submit_order` makes of the answer of `order_send`.** -/
def outcome (order : OrderRequest) (quantity : ℚ) : Option Mt5SendResult → Except PyExc OrderResult
  | none => failWith "MT5 order outcome is indeterminate"
  | some r =>
    match r.retcode with
    | none => failWith "MT5 order outcome is indeterminate"
    | some retcode =>
      if retcode ∉ acceptedRetcodes order.orderType then .ok (rejectedResult order quantity)
      else acceptedOutcome order quantity retcode r

def submitOrder (g : MT5Gateway) (t : Mt5Terminal) (order : OrderRequest) : Except PyExc OrderResult := do
  let request ← g.checked t order
  let answer ← Sdk.get (t.orderSend request)
  outcome order request.volume answer

def orderSent? (g : MT5Gateway) (t : Mt5Terminal) (order : OrderRequest) : Option (Sdk (Option Mt5SendResult)) :=
  match g.checked t order with
  | .ok request => some (t.orderSend request)
  | .error _ => none

end MT5Gateway

def Mt5SendResult.mayLive (r : Mt5SendResult) : Prop :=
  r.retcode = none ∨ (∃ code ∈ [tradeRetcodePlaced, tradeRetcodeDone, tradeRetcodeDonePartial, tradeRetcodeTimeout,
    tradeRetcodeConnection], r.retcode = some code) ∨ r.order.any (· ≠ 0) = true ∨ r.deal.any (· ≠ 0) = true

namespace MT5Gateway

/-- An order or position of the request can exist at the broker. -/
def mayExist (g : MT5Gateway) (t : Mt5Terminal) (order : OrderRequest) : Prop :=
  match g.orderSent? t order with
  | none => False
  | some (.ok (some r)) => r.mayLive
  | some _ => True

def reply (g : MT5Gateway) (t : Mt5Terminal) (order : OrderRequest) : Except PyExc GatewayAnswer :=
  (g.submitOrder t order).map .result

def RejectionFinal (c : SubmitCall) (g : MT5Gateway) (t : Mt5Terminal) (order : OrderRequest) : Prop :=
  ∀ record, settlement c (outcomeOf (g.reply t order)) = some record → record.status = .rejected →
    ¬g.mayExist t order

theorem settlement_rejected_iff (c : SubmitCall) (g : MT5Gateway) (t : Mt5Terminal) (order : OrderRequest) :
    (∃ record, settlement c (outcomeOf (g.reply t order)) = some record ∧ record.status = .rejected) ↔
      (∃ r, g.submitOrder t order = .ok r ∧ r.status = .rejected) ∨
        ∃ message, g.submitOrder t order = .error (.preSubmitOrderRejected message) := by
  unfold reply
  cases hout : g.submitOrder t order with
  | error e =>
    cases e with
    | preSubmitOrderRejected message => exact ⟨fun _ => .inr ⟨message, rfl⟩, fun _ => ⟨_, rfl, rfl⟩⟩
    | exception message =>
      constructor
      · rintro ⟨record, hset, hst⟩
        cases hset
        cases hst
      · rintro (⟨r, hr, _⟩ | ⟨m, hm⟩)
        · cases hr
        · cases hm
    | baseException =>
      constructor
      · rintro ⟨record, hset, _⟩
        cases hset
      · rintro (⟨r, hr, _⟩ | ⟨m, hm⟩)
        · cases hr
        · cases hm
  | ok r =>
    obtain ⟨hall, hacc⟩ := r.status.value_mem
    constructor
    · rintro ⟨record, hset, hst⟩
      refine .inl ⟨r, rfl, ?_⟩
      by_contra hne
      have hopen : r.status = .filled ∨ r.status = .submitted := by
        revert hne
        cases r.status <;> simp
      simp only [Except.map, outcomeOf, AsyncTradeExecutor.gatewayOutcome, hall, not_true_eq_false, if_false] at hset
      split at hset
      · cases hset
        cases hst
      · simp only [settlement, if_pos (hacc.2 hopen)] at hset
        cases hset
        cases hst
    · rintro (⟨r', hr, hst⟩ | ⟨m, hm⟩)
      · cases hr
        refine ⟨{ idempotencyKey := c.key, status := .rejected, transactionId := r.transactionId }, ?_, rfl⟩
        simp [Except.map, outcomeOf, AsyncTradeExecutor.gatewayOutcome, settlement, hst, OrderStatus.value]
      · cases hm

theorem acceptedOutcome_not_rejected (order : OrderRequest) (quantity : ℚ) (retcode : Int) (r : Mt5SendResult) :
    (∀ result, acceptedOutcome order quantity retcode r = .ok result → result.status ≠ .rejected) ∧
      ∀ message, acceptedOutcome order quantity retcode r ≠ .error (.preSubmitOrderRejected message) := by
  unfold acceptedOutcome failWith
  dsimp only
  split
  · simp
  · split
    · simp
    · split
      · simp
      · refine ⟨fun result h => ?_, by simp⟩
        cases h
        dsimp only
        split <;> simp

theorem outcome_rejected_iff (order : OrderRequest) (quantity : ℚ) (answer : Option Mt5SendResult) :
    ((∃ r, outcome order quantity answer = .ok r ∧ r.status = .rejected) ∨
        ∃ message, outcome order quantity answer = .error (.preSubmitOrderRejected message)) ↔
      ∃ r retcode, answer = some r ∧ r.retcode = some retcode ∧ retcode ∉ acceptedRetcodes order.orderType := by
  cases answer with
  | none => simp [outcome, failWith]
  | some r =>
    cases hcode : r.retcode with
    | none => simp [outcome, failWith, hcode]
    | some retcode =>
      by_cases hacc : retcode ∈ acceptedRetcodes order.orderType
      · obtain ⟨hok, herr⟩ := acceptedOutcome_not_rejected order quantity retcode r
        have hout : outcome order quantity (some r) = acceptedOutcome order quantity retcode r := by
          simp only [outcome, hcode, hacc, not_true_eq_false, if_false]
        rw [hout]
        constructor
        · rintro (⟨result, hres, hst⟩ | ⟨m, hm⟩)
          · exact absurd hst (hok result hres)
          · exact absurd hm (herr m)
        · rintro ⟨r', code, hr, hcode', hno⟩
          cases hr
          rw [hcode] at hcode'
          cases hcode'
          exact absurd hacc hno
      · refine ⟨fun _ => ⟨r, retcode, rfl, hcode, hacc⟩, fun _ => .inl ⟨rejectedResult order quantity, ?_, rfl⟩⟩
        simp only [outcome, hcode, hacc, not_false_eq_true, if_true]

/-- **Exactly when a rejection is final**: for every order, gateway and terminal, what the executor records `REJECTED`
exists nowhere if and only if an answer of `order_send` whose retcode the order type does not accept is one after which
nothing can be live. -/
theorem rejection_final_iff (c : SubmitCall) (g : MT5Gateway) (t : Mt5Terminal) (order : OrderRequest) :
    RejectionFinal c g t order ↔ ∀ request r retcode, g.checked t order = .ok request →
      t.orderSend request = .ok (some r) → r.retcode = some retcode →
      retcode ∉ acceptedRetcodes order.orderType → ¬r.mayLive := by
  constructor
  · intro hfinal request r retcode hchecked hsend hcode hno hlive
    have hout : g.submitOrder t order = outcome order request.volume (some r) := by
      unfold submitOrder
      rw [hchecked]
      show (Sdk.get (t.orderSend request) >>= _) = _
      rw [hsend]
      rfl
    have hrej := (outcome_rejected_iff order request.volume (some r)).2 ⟨r, retcode, rfl, hcode, hno⟩
    rw [← hout] at hrej
    obtain ⟨record, hset, hst⟩ := (settlement_rejected_iff c g t order).2 hrej
    refine hfinal record hset hst ?_
    unfold mayExist orderSent?
    rw [hchecked]
    dsimp only
    rw [hsend]
    exact hlive
  · intro hcond record hset hst hexist
    have hrej := (settlement_rejected_iff c g t order).1 ⟨record, hset, hst⟩
    unfold mayExist orderSent? at hexist
    cases hchecked : g.checked t order with
    | error e =>
      rw [hchecked] at hexist
      exact hexist
    | ok request =>
      have hout : g.submitOrder t order = (Sdk.get (t.orderSend request) >>= outcome order request.volume) := by
        unfold submitOrder
        rw [hchecked]
        rfl
      rw [hout] at hrej
      cases hsend : t.orderSend request with
      | error e =>
        -- an exception of the SDK is no rejection
        rw [hsend] at hrej
        rcases hrej with ⟨r, hr, _⟩ | ⟨m, hm⟩
        · cases hr
        · exact absurd (Except.error.inj hm) (e.toPyExc_ne m)
      | ok answer =>
        rw [hsend] at hrej
        obtain ⟨r, retcode, rfl, hcode, hno⟩ := (outcome_rejected_iff order request.volume answer).1 hrej
        rw [hchecked] at hexist
        dsimp only at hexist
        rw [hsend] at hexist
        exact hcond request r retcode hchecked hsend hcode hno hexist

def sampleOrder : OrderRequest where
  symbol := "PAINX1200"
  side := .buy
  quantity := ⟨1, .mt5Lots, one_lot_pos⟩
  orderType := .market
  entryPrice := none
  stopLimitPrice := none
  stopLoss := 90
  takeProfit := some 120
  idempotencyKey := some "k1"
  magicNumber := none
  orderComment := none
  prices_pos := by decide
  fields_ok := by decide

def sampleInfo : Mt5SymbolInfo where
  tradeMode := some 4
  volumeMin := some (1 / 100)
  volumeMax := some 10
  volumeStep := some (1 / 100)
  fillingMode := some 1
  tradeExemode := none
  digits := 2
  point := 1 / 100
  tradeStopsLevel := 10

/-- A terminal that passes every check and answers `order_send` with a retcode. -/
def sampleTerminal (retcode : Int) (ticket : Option Int) : Mt5Terminal where
  accountInfo := .ok none
  terminalInfo := .ok none
  catalogue _ := .ok (some true)
  makeVisible _ := .ok ()
  symbolSelect _ := .ok true
  symbolInfo _ := .ok (some sampleInfo)
  symbolInfoTick _ := .ok (some ⟨100, 99⟩)
  orderCheck _ := .ok (some (some 0))
  orderSend _ := .ok (some ⟨some retcode, ticket, none, some 100, none⟩)

/-- **A timeout is recorded as a rejection**, and the order may have reached the broker. -/
theorem rejection_not_final : ¬∀ (c : SubmitCall) (g : MT5Gateway) (t : Mt5Terminal) (order : OrderRequest),
    RejectionFinal c g t order := by
  intro h
  have hout : sampleGateway.submitOrder (sampleTerminal tradeRetcodeTimeout none) sampleOrder =
      .ok (rejectedResult sampleOrder 1) := by decide +kernel
  have hsent : sampleGateway.orderSent? (sampleTerminal tradeRetcodeTimeout none) sampleOrder =
      some (.ok (some ⟨some tradeRetcodeTimeout, none, none, some 100, none⟩)) := by decide +kernel
  obtain ⟨record, hset, hst⟩ := (settlement_rejected_iff (sampleCall "PAINX1200" "k1" ["PAINX1200"] 1) sampleGateway
    (sampleTerminal tradeRetcodeTimeout none) sampleOrder).2 (.inl ⟨_, hout, rfl⟩)
  refine h _ sampleGateway (sampleTerminal tradeRetcodeTimeout none) sampleOrder record hset hst ?_
  unfold mayExist
  rw [hsent]
  exact .inr (.inl ⟨tradeRetcodeTimeout, by simp, rfl⟩)

end MT5Gateway

end Jqe
