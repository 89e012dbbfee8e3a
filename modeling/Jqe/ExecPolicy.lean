import Jqe.BrokerTypes
/-!
# ExecPolicy — `execution/policy.py`: the checks an intent passes before anything is claimed or sent

`evaluate` in the order of the source, with its codes and texts.  The product with `1.0 + 1e-12` is exact here.
-/
namespace Jqe

inductive ExecutionDecisionCode where
  | allowed
  | emergencyStop
  | riskNotApproved
  | safetyContextMissing
  | safetyContextInvalid
  | invalidDirection
  | invalidExecutionQuantity
  | brokerQuantityMismatch
  | unverifiableBrokerRisk
  | invalidPriceLevels
  | buyLevelInvariant
  | sellLevelInvariant
  | dailyLossLimit
  | dailyTradeLimit
  | maxOpenPositions
  | duplicateSymbolPosition
  | idempotencyKeyReused
  | deploymentNotAuthorized
  | dailyStateNotAuthoritative
  | executionReservationHeld
  | executionReservationUnavailable
  | unresolvedDurableIntent
  deriving DecidableEq

def ExecutionDecisionCode.value : ExecutionDecisionCode → String
  | allowed => "ALLOWED"
  | emergencyStop => "EMERGENCY_STOP"
  | riskNotApproved => "RISK_NOT_APPROVED"
  | safetyContextMissing => "SAFETY_CONTEXT_MISSING"
  | safetyContextInvalid => "SAFETY_CONTEXT_INVALID"
  | invalidDirection => "INVALID_DIRECTION"
  | invalidExecutionQuantity => "INVALID_EXECUTION_QUANTITY"
  | brokerQuantityMismatch => "BROKER_QUANTITY_MISMATCH"
  | unverifiableBrokerRisk => "UNVERIFIABLE_BROKER_RISK"
  | invalidPriceLevels => "INVALID_PRICE_LEVELS"
  | buyLevelInvariant => "BUY_LEVEL_INVARIANT"
  | sellLevelInvariant => "SELL_LEVEL_INVARIANT"
  | dailyLossLimit => "DAILY_LOSS_LIMIT"
  | dailyTradeLimit => "DAILY_TRADE_LIMIT"
  | maxOpenPositions => "MAX_OPEN_POSITIONS"
  | duplicateSymbolPosition => "DUPLICATE_SYMBOL_POSITION"
  | idempotencyKeyReused => "IDEMPOTENCY_KEY_REUSED"
  | deploymentNotAuthorized => "DEPLOYMENT_NOT_AUTHORIZED"
  | dailyStateNotAuthoritative => "DAILY_STATE_NOT_AUTHORITATIVE"
  | executionReservationHeld => "EXECUTION_RESERVATION_HELD"
  | executionReservationUnavailable => "EXECUTION_RESERVATION_UNAVAILABLE"
  | unresolvedDurableIntent => "UNRESOLVED_DURABLE_INTENT"

structure ExecutionIntent where
  symbol : String
  side : SideValue
  quantity : Option ExecutionQuantity
  authorizedRiskAmount : Option PyFloat
  expectedLossAtStop : Option PyFloat
  quantityRiskVerified : Bool
  entry : PyFloat
  stopLoss : PyFloat
  takeProfit : PyFloat
  idempotencyKey : String
  riskApproved : Option Bool
  magicNumber : Option Int
  orderComment : Option String
  deriving DecidableEq

structure PositionSnapshot where
  symbol : String
  side : SideValue
  deriving DecidableEq

structure ExecutionContext where
  emergencyStop : Option Bool
  dailyLossPercent : Option PyFloat
  maxDailyLossPercent : Option PyFloat
  dailyTradeCount : Option Int
  maxDailyTrades : Option Int
  openPositions : Option (List PositionSnapshot)
  maxOpenPositions : Option Int
  usedIdempotencyKeys : Option (List String)
  executionEnabled : Bool
  dryRun : Bool
  broker : Option String
  environment : Option String
  accountId : Option String
  approvedBrokers : List String
  approvedEnvironments : List String
  approvedAccounts : List String
  approvedSymbols : List String
  dailyStateAuthoritative : Bool
  deriving DecidableEq

structure ExecutionDecision where
  allowed : Bool
  code : ExecutionDecisionCode
  reason : String
  deriving DecidableEq

def reject (code : ExecutionDecisionCode) (reason : String) : ExecutionDecision := ⟨false, code, reason⟩

def finiteNumber (x : Option PyFloat) : Option ℚ := x.bind PyFloat.rat?

def validPositionSnapshot (s : PositionSnapshot) : Bool := !blank s.symbol && s.side.side?.isSome

def nonblank? (s : Option String) : Bool := s.any fun s => !blank s

namespace ExecutionPolicy

variable [CaseMap]

/-- **A valid context**: what check 3 asks of the context alone. -/
def validContext (context : ExecutionContext) : Bool :=
  context.emergencyStop.isSome
    && (finiteNumber context.dailyLossPercent).any (0 ≤ ·)
    && (finiteNumber context.maxDailyLossPercent).any (0 < ·)
    && context.dailyTradeCount.any (0 ≤ ·)
    && context.maxDailyTrades.any (0 < ·)
    && context.openPositions.any (·.all validPositionSnapshot)
    && context.maxOpenPositions.any (0 < ·)
    && context.usedIdempotencyKeys.any (·.all (!blank ·))
    && nonblank? context.broker
    && nonblank? context.environment
    && nonblank? context.accountId
    && [context.approvedBrokers, context.approvedEnvironments, context.approvedAccounts,
        context.approvedSymbols].all (·.all (!blank ·))

/-- Check 3: every required field is there and valid. -/
def contextValid (intent : ExecutionIntent) (context : ExecutionContext) : Bool :=
  validContext context && !blank intent.symbol && !blank intent.idempotencyKey

def deploymentAuthorized (intent : ExecutionIntent) (context : ExecutionContext) : Bool :=
  context.executionEnabled
    && !context.dryRun
    && context.broker.any (context.approvedBrokers.contains ·)
    && context.environment.any (context.approvedEnvironments.contains ·)
    && context.accountId.any (context.approvedAccounts.contains ·)
    && context.approvedSymbols.contains (normalizeSymbol intent.symbol)

def expectedUnit (broker : Option String) : Option ExecutionQuantityUnit :=
  match broker with
  | some "simulation" => some .simulationUnits
  | some "deriv" | some "deriv_demo" => some .derivStake
  | some "mt5" | some "mt5_demo" | some "weltrade" | some "weltrade_demo" => some .mt5Lots
  | _ => none

/-- Check 5: a broker quantity of proven unit within the authorized risk. -/
def quantityProblem (intent : ExecutionIntent) (context : ExecutionContext) : Option (ExecutionDecisionCode × String) :=
  if !intent.quantityRiskVerified then
    some (.unverifiableBrokerRisk, "Broker quantity risk at the configured stop is not verifiable")
  else match intent.quantity with
    | none => some (.invalidExecutionQuantity, "Execution quantity is missing or invalid")
    | some quantity =>
      if expectedUnit context.broker ≠ some quantity.unit then
        some (.brokerQuantityMismatch, "Execution quantity unit does not match the configured broker")
      else match finiteNumber intent.authorizedRiskAmount, finiteNumber intent.expectedLossAtStop with
        | none, _ => some (.invalidExecutionQuantity, "Authorized risk must be positive and finite")
        | some risk, loss =>
          if risk ≤ 0 then some (.invalidExecutionQuantity, "Authorized risk must be positive and finite")
          else match loss with
            | none => some (.invalidExecutionQuantity, "Expected stop loss must be finite and non-negative")
            | some loss =>
              if loss < 0 then
                some (.invalidExecutionQuantity, "Expected stop loss must be finite and non-negative")
              else if risk * (1 + 1 / 10 ^ 12) < loss then
                some (.invalidExecutionQuantity, "Expected stop loss exceeds authorized risk")
              else none

/-- Check 6: positive finite prices in the order of the direction. -/
def priceProblem (intent : ExecutionIntent) : Option (ExecutionDecisionCode × String) :=
  if !([intent.entry, intent.stopLoss, intent.takeProfit].all fun p => p.isFinite && PyFloat.zero.lt p) then
    some (.invalidPriceLevels, "Entry, stop loss, and take profit must be positive and finite")
  else if intent.side.side? = some .buy ∧
      ¬ (intent.stopLoss.lt intent.entry && intent.entry.lt intent.takeProfit) = true then
    some (.buyLevelInvariant, "BUY requires stop_loss < entry < take_profit")
  else if intent.side.side? = some .sell ∧
      ¬ (intent.takeProfit.lt intent.entry && intent.entry.lt intent.stopLoss) = true then
    some (.sellLevelInvariant, "SELL requires take_profit < entry < stop_loss")
  else none

/-- Checks 7 to 9 and the same-symbol check 10, on a context whose fields are there by check 3. -/
def limitProblem (intent : ExecutionIntent) (context : ExecutionContext) : Option (ExecutionDecisionCode × String) :=
  match finiteNumber context.dailyLossPercent, finiteNumber context.maxDailyLossPercent, context.dailyTradeCount,
    context.maxDailyTrades, context.openPositions, context.maxOpenPositions with
  | some loss, some maxLoss, some count, some maxCount, some positions, some maxOpen =>
    if maxLoss ≤ loss then some (.dailyLossLimit, "Daily loss limit reached")
    else if maxCount ≤ count then some (.dailyTradeLimit, "Daily trade limit reached")
    else if maxOpen ≤ positions.length then some (.maxOpenPositions, "Maximum open positions reached")
    else if positions.any (fun p => normalizeSymbol p.symbol == normalizeSymbol intent.symbol) then
      some (.duplicateSymbolPosition, "An open position already exists for this symbol")
    else none
  | _, _, _, _, _, _ => some (.safetyContextInvalid, "Execution safety context is incomplete or invalid")

/-- **`ExecutionPolicy.evaluate`**: the first check that fails decides. -/
def evaluate (intent : ExecutionIntent) (context : Option ExecutionContext) : ExecutionDecision :=
  if context.any (·.emergencyStop == some true) then reject .emergencyStop "Emergency stop is active"
  else if intent.riskApproved ≠ some true then
    reject .riskNotApproved "Explicit upstream risk approval is required"
  else match context with
    | none => reject .safetyContextMissing "Execution safety context is missing"
    | some context =>
      if !contextValid intent context then
        reject .safetyContextInvalid "Execution safety context is incomplete or invalid"
      else if !deploymentAuthorized intent context then
        reject .deploymentNotAuthorized "Deployment authorization is incomplete or denied"
      else if !context.dailyStateAuthoritative then
        reject .dailyStateNotAuthoritative "Daily loss and trade counters are not authoritative"
      else if intent.side.side? = none then reject .invalidDirection "Direction must be BUY or SELL"
      else match (quantityProblem intent context).or ((priceProblem intent).or (limitProblem intent context)) with
        | some (code, reason) => reject code reason
        | none =>
          if context.usedIdempotencyKeys.any (·.contains intent.idempotencyKey) then
            reject .idempotencyKeyReused "Idempotency key has already been used"
          else ⟨true, .allowed, "Execution policy passed"⟩

structure Passed (intent : ExecutionIntent) (context : ExecutionContext) : Prop where
  risk : intent.riskApproved = some true
  valid : contextValid intent context = true
  deployment : deploymentAuthorized intent context = true
  daily : context.dailyStateAuthoritative = true
  direction : intent.side.side?.isSome = true
  quantity : quantityProblem intent context = none
  price : priceProblem intent = none
  limits : limitProblem intent context = none

theorem evaluate_allowed {intent : ExecutionIntent} {context : Option ExecutionContext}
    (h : (evaluate intent context).allowed = true) : ∃ c, context = some c ∧ Passed intent c := by
  unfold evaluate at h
  split at h
  · cases h
  · split at h
    · cases h
    · rename_i hrisk
      cases context with
      | none => cases h
      | some c =>
        dsimp only at h
        iterate 4
          split at h
          · cases h
        rename_i hvalid hdep hdaily hside
        split at h
        · cases h
        · rename_i hnone
          simp only [Option.or_eq_none_iff] at hnone
          exact ⟨c, rfl, not_not.1 hrisk, by simpa using hvalid, by simpa using hdep, by simpa using hdaily,
            by simpa [Option.isSome_iff_ne_none] using hside, hnone.1, hnone.2.1, hnone.2.2⟩

/-- **The limits an allowed intent is within**, on the positions it was judged by. -/
theorem limitProblem_eq_none {intent : ExecutionIntent} {context : ExecutionContext}
    (h : limitProblem intent context = none) :
    ∃ count maxCount positions maxOpen, context.dailyTradeCount = some count ∧ context.maxDailyTrades = some maxCount ∧
      context.openPositions = some positions ∧ context.maxOpenPositions = some maxOpen ∧ count < maxCount ∧
      (positions.length : Int) < maxOpen ∧
      ∀ p ∈ positions, normalizeSymbol p.symbol ≠ normalizeSymbol intent.symbol := by
  unfold limitProblem at h
  split at h
  · rename_i loss maxLoss count maxCount positions maxOpen _ _ hcount hmaxCount hpos hopen
    iterate 4
      split at h
      · cases h
    rename_i _ hc ho hdup
    refine ⟨count, maxCount, positions, maxOpen, hcount, hmaxCount, hpos, hopen, by omega, by omega, fun p hp heq => ?_⟩
    exact hdup (List.any_eq_true.2 ⟨p, hp, by simp [heq]⟩)
  · cases h

end ExecutionPolicy

end Jqe
