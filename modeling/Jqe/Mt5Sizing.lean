import Jqe.Mt5Volume
import Jqe.PositionSizing
/-!
# Mt5Sizing — the lots of an account-currency risk (`broker/mt5_demo.py`)

`verify_instrument_risk_spec` and `authorize_account_currency_risk`: the lots are a step multiple or the maximum, rounded
to eight decimals, and the terminal's own loss at the stop is within the authorized risk and the sizer's tolerance.
-/
namespace Jqe

namespace PyFloat

def sign : PyFloat → ℤ
  | fin q => if 0 < q then 1 else if q < 0 then -1 else 0
  | posInf => 1
  | negInf => -1
  | nan => 0

/-- The infinity of a sign; of zero it is a NaN. -/
def infinity (s : ℤ) : PyFloat := if 0 < s then posInf else if s < 0 then negInf else nan

def mul : PyFloat → PyFloat → PyFloat
  | fin a, fin b => fin (a * b)
  | nan, _ | _, nan => nan
  | x, y => infinity (x.sign * y.sign)

def div : PyFloat → PyFloat → PyFloat
  | fin a, fin b => fin (a / b)
  | nan, _ | _, nan => nan
  | fin _, _ => fin 0
  | x, fin b => infinity (x.sign * (fin b).sign)
  | _, _ => nan

def abs : PyFloat → PyFloat
  | fin q => fin |q|
  | nan => nan
  | _ => posInf

def floor : PyFloat → Except PyExc ℤ
  | fin q => .ok ⌊q⌋
  | nan => failWith "cannot convert float NaN to integer"
  | _ => failWith "cannot convert float infinity to integer"

def round (digits : ℕ) : PyFloat → PyFloat
  | fin q => fin (pyRound q digits)
  | x => x

@[simp] theorem mul_fin (a b : ℚ) : (fin a).mul (fin b) = fin (a * b) := rfl

@[simp] theorem add_fin (a b : ℚ) : (fin a).add (fin b) = fin (a + b) := rfl

theorem floor_eq_ok {x : PyFloat} {k : ℤ} (h : x.floor = .ok k) : ∃ q, x = fin q ∧ k = ⌊q⌋ := by
  cases x with
  | fin q =>
    cases h
    exact ⟨q, rfl, rfl⟩
  | posInf => cases h
  | negInf => cases h
  | nan => cases h

theorem round_eq_fin {x : PyFloat} {digits : ℕ} {v : ℚ} (h : x.round digits = fin v) :
    ∃ q, x = fin q ∧ v = pyRound q digits := by
  cases x with
  | fin q =>
    cases h
    exact ⟨q, rfl, rfl⟩
  | posInf => cases h
  | negInf => cases h
  | nan => cases h

theorem add_eq_fin {x : PyFloat} {b q : ℚ} (h : x.add (fin b) = fin q) : ∃ a, x = fin a ∧ q = a + b := by
  cases x with
  | fin a =>
    cases h
    exact ⟨a, rfl, rfl⟩
  | posInf => cases h
  | negInf => cases h
  | nan => cases h

theorem infinity_ne_fin (s : ℤ) (q : ℚ) : infinity s ≠ fin q := by
  unfold infinity
  split
  · exact PyFloat.noConfusion
  · split <;> exact PyFloat.noConfusion

theorem div_eq_fin {x : PyFloat} {b q : ℚ} (h : x.div (fin b) = fin q) : ∃ a, x = fin a ∧ q = a / b := by
  cases x with
  | fin a =>
    cases h
    exact ⟨a, rfl, rfl⟩
  | posInf => exact absurd h (infinity_ne_fin _ q)
  | negInf => exact absurd h (infinity_ne_fin _ q)
  | nan => cases h

end PyFloat

/-- What the sizing reads of `symbol_info`; an attribute that is missing reads 0. -/
structure RiskSymbolInfo where
  tradeContractSize : PyFloat
  tradeTickSize : PyFloat
  tradeTickValue : PyFloat
  tradeTickValueProfit : PyFloat
  tradeTickValueLoss : PyFloat
  point : PyFloat
  volumeMin : PyFloat
  volumeStep : PyFloat
  volumeMax : PyFloat
  deriving DecidableEq

structure RiskAccount where
  currency : String
  marginFree : PyFloat
  deriving DecidableEq

structure RiskTerminal where
  session : Mt5Terminal
  symbolInfo : ℕ → String → Sdk (Option RiskSymbolInfo)
  /-- the `ask` of `symbol_info_tick` -/
  ask : String → Sdk (Option PyFloat)
  accountInfo : ℕ → Sdk (Option RiskAccount)
  orderCalcProfit : ℕ → Mt5OrderType → String → PyFloat → PyFloat → PyFloat → Sdk (Option PyFloat)
  orderCalcMargin : ℕ → Mt5OrderType → String → PyFloat → PyFloat → Sdk (Option PyFloat)

/-- What `verify_instrument_risk_spec` returns. -/
structure InstrumentRiskSpec where
  symbol : String
  accountCurrency : String
  contractSize : PyFloat
  tickSize : PyFloat
  tickValue : PyFloat
  tickValueProfit : PyFloat
  tickValueLoss : PyFloat
  point : PyFloat
  volumeMin : PyFloat
  pointValue : PyFloat
  minimumVolumeMargin : PyFloat
  deriving DecidableEq

/-- The facts beside an authorized quantity. -/
structure RiskFacts where
  spec : InstrumentRiskSpec
  authorizedRiskAmount : PyFloat
  expectedLossAtStop : PyFloat
  marginRequirement : PyFloat
  volume : PyFloat
  entry : PyFloat
  stopLoss : PyFloat
  deriving DecidableEq

structure VolumeLimits where
  step : PyFloat
  minimum : PyFloat
  maximum : PyFloat
  deriving DecidableEq

/-- The limits of what `symbol_info` answers; of `None` each is 0. -/
def volumeLimits : Option RiskSymbolInfo → VolumeLimits
  | some info => ⟨info.volumeStep, info.volumeMin, info.volumeMax⟩
  | none => ⟨.zero, .zero, .zero⟩

namespace MT5DemoGateway

open MT5Gateway

def verifyInstrumentRiskSpec (g : MT5Gateway) (t : RiskTerminal) (symbol : String) :
    Except PyExc InstrumentRiskSpec := do
  requireConnected g
  let realSymbol := (← resolveSymbol t.session symbol).getD ""
  let info ← if realSymbol = "" then pure none else Sdk.get (t.symbolInfo 0 realSymbol)
  let ask ← if realSymbol = "" then pure none else Sdk.get (t.ask realSymbol)
  let account ← Sdk.get (t.accountInfo 0)
  match info, ask, account with
  | some info, some ask, some account =>
    if [info.tradeContractSize, info.tradeTickSize, info.tradeTickValue, info.tradeTickValueProfit,
        info.tradeTickValueLoss, info.point, info.volumeMin].any fun v => !v.isFinite || v.le .zero then
      failWith "MT5 instrument risk preflight contains invalid specifications"
    match ← Sdk.get (t.orderCalcMargin 0 .buy realSymbol info.volumeMin ask) with
    | none => failWith "MT5 margin requirement could not be verified"
    | some margin =>
      if !margin.isFinite || margin.le .zero then failWith "MT5 margin requirement could not be verified"
      return {
        symbol := realSymbol
        accountCurrency := account.currency
        contractSize := info.tradeContractSize
        tickSize := info.tradeTickSize
        tickValue := info.tradeTickValue
        tickValueProfit := info.tradeTickValueProfit
        tickValueLoss := info.tradeTickValueLoss
        point := info.point
        volumeMin := info.volumeMin
        pointValue := (info.tradeTickValue.mul info.point).div info.tradeTickSize
        minimumVolumeMargin := margin }
  | _, _, _ => failWith "MT5 instrument risk preflight data is unavailable"

def lossOf (profit : Option PyFloat) : PyFloat := (profit.map PyFloat.abs).getD .zero

/-- The step multiple a risk buys; without a positive step there is none. -/
def stepLots (authorizedRisk oneLotLoss step : PyFloat) : Except PyExc PyFloat := do
  if !PyFloat.zero.lt step then return .zero
  let count ← (((authorizedRisk.div oneLotLoss).add (.fin volumeTiny)).div step).floor
  return (PyFloat.fin count).mul step

def clampLots (lots maximum : PyFloat) : PyFloat := if PyFloat.zero.lt maximum && maximum.lt lots then maximum else lots

def sizedLots (authorizedRisk oneLotLoss : PyFloat) (limits : VolumeLimits) : Except PyExc PyFloat := do
  let lots := clampLots (← stepLots authorizedRisk oneLotLoss limits.step) limits.maximum
  if (lots.add (.fin volumeTiny)).lt limits.minimum then
    failWith "MT5 authorized risk is below the broker minimum lot risk"
  return lots.round 8

def riskTolerance (authorizedRisk : PyFloat) : PyFloat :=
  let relative := authorizedRisk.mul (.fin (1 / 10 ^ 6))
  if (PyFloat.fin (1 / 100)).lt relative then relative else .fin (1 / 100)

def authorizeAccountCurrencyRisk (g : MT5Gateway) (t : RiskTerminal) (symbol : String) (side : OrderSide)
    (balance riskPercent entry stopLoss : PyFloat) : Except PyExc (ExecutionQuantity × RiskFacts) := do
  let spec ← verifyInstrumentRiskSpec g t symbol
  let orderType := if side = .buy then Mt5OrderType.buy else .sell
  let oneLotLoss := lossOf (← Sdk.get (t.orderCalcProfit 0 orderType spec.symbol (.fin 1) entry stopLoss))
  let authorizedRisk := (balance.mul riskPercent).div (.fin 100)
  if !oneLotLoss.isFinite || oneLotLoss.le .zero || authorizedRisk.le .zero then
    failWith "MT5 account-currency stop loss could not be verified"
  let info ← Sdk.get (t.symbolInfo 1 spec.symbol)
  let lots ← sizedLots authorizedRisk oneLotLoss (volumeLimits info)
  let actualProfit ← Sdk.get (t.orderCalcProfit 1 orderType spec.symbol lots entry stopLoss)
  let margin ← Sdk.get (t.orderCalcMargin 1 orderType spec.symbol lots entry)
  let actualLoss := lossOf actualProfit
  let account ← Sdk.get (t.accountInfo 1)
  let freeMargin := (account.map RiskAccount.marginFree).getD .zero
  match actualProfit, margin with
  | some profit, some margin =>
    if PyFloat.zero.le profit || (authorizedRisk.add (riskTolerance authorizedRisk)).lt actualLoss ||
        margin.le .zero || freeMargin.lt margin then
      failWith "MT5 computed quantity failed stop-risk or margin verification"
    let quantity ← executionQuantity lots .mt5Lots
    return (quantity, ⟨spec, authorizedRisk, actualLoss, margin, lots, entry, stopLoss⟩)
  | _, _ => failWith "MT5 computed quantity failed stop-risk or margin verification"

/-! ### The lots -/

/-- **The step multiple**: nothing without a positive step, no number of an infinite one. -/
theorem stepLots_eq_ok {authorizedRisk step lots : PyFloat} {loss : ℚ}
    (h : stepLots authorizedRisk (.fin loss) step = .ok lots) :
    lots = .zero ∨ lots = .nan ∨
      ∃ a s, authorizedRisk = .fin a ∧ step = .fin s ∧ 0 < s ∧ lots = .fin (stepFloor (a / loss + volumeTiny) s) := by
  unfold stepLots at h
  cases hpos : PyFloat.zero.lt step with
  | false =>
    rw [hpos] at h
    cases h
    exact .inl rfl
  | true =>
    rw [hpos] at h
    obtain ⟨count, hcount, h⟩ := bind_ok h
    cases h
    obtain ⟨q, hq, rfl⟩ := PyFloat.floor_eq_ok hcount
    cases step with
    | fin s =>
      obtain ⟨b, hb, rfl⟩ := PyFloat.div_eq_fin hq
      obtain ⟨r, hr, rfl⟩ := PyFloat.add_eq_fin hb
      obtain ⟨a, rfl, rfl⟩ := PyFloat.div_eq_fin hr
      exact .inr (.inr ⟨a, s, rfl, rfl, of_decide_eq_true hpos, rfl⟩)
    | posInf =>
      -- a number by an infinite step is 0, and 0 of it is no number
      cases hsum : (authorizedRisk.div (.fin loss)).add (.fin volumeTiny) with
      | fin b =>
        rw [hsum] at hq
        cases hq
        rw [Int.floor_zero]
        exact .inr (.inl rfl)
      | posInf => rw [hsum] at hq; cases hq
      | negInf => rw [hsum] at hq; cases hq
      | nan => rw [hsum] at hq; cases hq
    | negInf => cases hpos
    | nan => cases hpos

theorem clampLots_cases (lots maximum : PyFloat) :
    (clampLots lots maximum = lots ∧ (PyFloat.zero.lt maximum = true → maximum.lt lots = false)) ∨
      (clampLots lots maximum = maximum ∧ PyFloat.zero.lt maximum = true ∧ maximum.lt lots = true) := by
  unfold clampLots
  cases hpos : PyFloat.zero.lt maximum with
  | false => exact .inl ⟨rfl, fun h => absurd h Bool.false_ne_true⟩
  | true =>
    cases hlt : maximum.lt lots with
    | false => exact .inl ⟨rfl, fun _ => rfl⟩
    | true => exact .inr ⟨rfl, rfl, rfl⟩

/-- **What the lots of a risk are before their rounding**: the step multiple, or the maximum below it. -/
structure Lots (limits : VolumeLimits) (volume step lots : ℚ) : Prop where
  on_step : limits.step = .fin step ∧ 0 < step
  minimum : (PyFloat.fin (lots + volumeTiny)).lt limits.minimum = false
  maximum : PyFloat.zero.lt limits.maximum = true → limits.maximum.lt (.fin lots) = false
  multiple : lots = stepFloor volume step ∨ (limits.maximum = .fin lots ∧ 0 < lots)

theorem sizedLots_eq_ok {authorizedRisk : PyFloat} {limits : VolumeLimits} {loss v : ℚ}
    (h : sizedLots authorizedRisk (.fin loss) limits = .ok (.fin v)) (hv : 0 < v) :
    ∃ a step lots, authorizedRisk = .fin a ∧ Lots limits (a / loss + volumeTiny) step lots ∧ v = pyRound lots 8 := by
  unfold sizedLots at h
  obtain ⟨multiple, hmultiple, h⟩ := bind_ok h
  dsimp only at h
  cases hmin : ((clampLots multiple limits.maximum).add (.fin volumeTiny)).lt limits.minimum with
  | true =>
    rw [hmin] at h
    cases h
  | false =>
    rw [hmin] at h
    obtain ⟨lots, hlots, hround⟩ := PyFloat.round_eq_fin (Except.ok.inj h)
    rw [hlots] at hmin
    have hzero : lots ≠ 0 := by
      rintro rfl
      have : pyRound 0 8 = 0 := by decide +kernel
      exact absurd (hround.trans this) hv.ne'
    obtain ⟨hkeep, hle⟩ | ⟨hclamp, hpos, hlt⟩ := clampLots_cases multiple limits.maximum
    · rw [hkeep] at hlots
      rw [hlots] at hle
      obtain hnone | hnan | ⟨a, step, hrisk, hstep, hspos, hfloor⟩ := stepLots_eq_ok hmultiple
      · cases hlots.symm.trans hnone
        exact absurd rfl hzero
      · cases hlots.symm.trans hnan
      · exact ⟨a, step, lots, hrisk, ⟨⟨hstep, hspos⟩, hmin, hle, .inl (PyFloat.fin.inj (hlots.symm.trans hfloor))⟩, hround⟩
    · rw [hclamp] at hlots
      rw [hlots] at hpos hlt
      have hlpos : 0 < lots := of_decide_eq_true hpos
      obtain rfl | rfl | ⟨a, step, hrisk, hstep, hspos, rfl⟩ := stepLots_eq_ok hmultiple
      · exact absurd (of_decide_eq_true hlt) hlpos.not_gt
      · cases hlt
      · refine ⟨a, step, lots, hrisk, ⟨⟨hstep, hspos⟩, hmin, fun _ => ?_, .inr ⟨hlots, hlpos⟩⟩, hround⟩
        rw [hlots, PyFloat.lt_fin]
        exact decide_eq_false (lt_irrefl lots)

/-! ### The authorization -/

theorem executionQuantity_eq_ok {value : PyFloat} {unit : ExecutionQuantityUnit} {q : ExecutionQuantity}
    (h : executionQuantity value unit = .ok q) : value = .fin q.value ∧ q.unit = unit := by
  unfold executionQuantity ExecutionQuantity.build? at h
  cases value with
  | fin v =>
    by_cases hpos : 0 < v
    · simp only [hpos, dite_true] at h
      cases h
      exact ⟨rfl, rfl⟩
    · simp only [hpos, dite_false] at h
      cases h
  | posInf => cases h
  | negInf => cases h
  | nan => cases h

/-- **What an authorization has passed**; `info` is the second answer of `symbol_info`. -/
structure Authorized (t : RiskTerminal) (q : ExecutionQuantity) (facts : RiskFacts) (info : Option RiskSymbolInfo)
    (oneLotLoss : ℚ) : Prop where
  answered : t.symbolInfo 1 facts.spec.symbol = .ok info
  budget_pos : facts.authorizedRiskAmount.le .zero = false
  loss_pos : 0 < oneLotLoss
  sized : sizedLots facts.authorizedRiskAmount (.fin oneLotLoss) (volumeLimits info) = .ok (.fin q.value)
  lots : facts.volume = .fin q.value ∧ q.unit = .mt5Lots
  loss : ∃ profit : PyFloat, PyFloat.zero.le profit = false ∧ facts.expectedLossAtStop = profit.abs ∧
    (facts.authorizedRiskAmount.add (riskTolerance facts.authorizedRiskAmount)).lt profit.abs = false

theorem authorizeAccountCurrencyRisk_eq_ok {g : MT5Gateway} {t : RiskTerminal} {symbol : String} {side : OrderSide}
    {balance riskPercent entry stopLoss : PyFloat} {q : ExecutionQuantity} {facts : RiskFacts}
    (h : authorizeAccountCurrencyRisk g t symbol side balance riskPercent entry stopLoss = .ok (q, facts)) :
    ∃ info oneLotLoss, Authorized t q facts info oneLotLoss ∧
      facts.authorizedRiskAmount = (balance.mul riskPercent).div (.fin 100) := by
  unfold authorizeAccountCurrencyRisk at h
  obtain ⟨spec, -, h⟩ := bind_ok h
  obtain ⟨oneLotProfit, -, h⟩ := bind_ok h
  dsimp only at h
  split at h
  · cases h
  · rename_i hvalid
    obtain ⟨info, hinfo, h⟩ := bind_ok h
    obtain ⟨lots, hlots, h⟩ := bind_ok h
    obtain ⟨actualProfit, -, h⟩ := bind_ok h
    obtain ⟨margin, -, h⟩ := bind_ok h
    obtain ⟨account, -, h⟩ := bind_ok h
    cases actualProfit with
    | none => cases h
    | some profit =>
      cases margin with
      | none => cases h
      | some margin =>
        dsimp only at h
        split at h
        · cases h
        · rename_i hverified
          obtain ⟨quantity, hquantity, h⟩ := bind_ok h
          cases h
          obtain ⟨rfl, hunit⟩ := executionQuantity_eq_ok hquantity
          simp only [Bool.or_eq_true, not_or, Bool.not_eq_true, Bool.not_eq_true', Bool.not_eq_false] at hvalid hverified
          obtain ⟨⟨hfinite, hpos⟩, hbudget⟩ := hvalid
          obtain ⟨loss, hloss⟩ := (PyFloat.isFinite_iff _).1 hfinite
          rw [hloss, le_zero_fin] at hpos
          rw [hloss] at hlots
          refine ⟨info, loss, ⟨Sdk.get_eq_ok hinfo, hbudget, not_le.1 (of_decide_eq_false hpos), hlots, ⟨rfl, hunit⟩, ?_⟩, rfl⟩
          exact ⟨profit, hverified.1.1.1, rfl, hverified.1.1.2⟩

def halfUnit : ℚ := 1 / (2 * 10 ^ 8)

/-- **An authorized volume within its limits**: of a step and a maximum that the eight decimals keep, it is a multiple
within them, and of any others it is off by no more than the rounding. -/
structure WithinLimits (limits : VolumeLimits) (step v : ℚ) : Prop where
  on_step : limits.step = .fin step ∧ 0 < step
  minimum : (PyFloat.fin (v + halfUnit + volumeTiny)).lt limits.minimum = false
  maximum : PyFloat.zero.lt limits.maximum = true → limits.maximum.lt (.fin (v - halfUnit)) = false
  multiple : (∃ k : ℤ, step = k / 10 ^ 8) → (∀ m, limits.maximum = .fin m → 0 < m → ∃ n : ℤ, m = n * step) →
    (PyFloat.fin (v + volumeTiny)).lt limits.minimum = false ∧
      (PyFloat.zero.lt limits.maximum = true → limits.maximum.lt (.fin v) = false) ∧ ∃ n : ℤ, v = n * step

theorem lt_minimum_mono {x y : ℚ} {minimum : PyFloat} (hxy : x ≤ y) (h : (PyFloat.fin x).lt minimum = false) :
    (PyFloat.fin y).lt minimum = false := by
  cases minimum with
  | fin m => exact decide_eq_false fun hlt => of_decide_eq_false h (hxy.trans_lt hlt)
  | posInf => cases h
  | negInf => rfl
  | nan => rfl

theorem maximum_lt_mono {x y : ℚ} {maximum : PyFloat} (hxy : x ≤ y) (h : maximum.lt (.fin y) = false) :
    maximum.lt (.fin x) = false := by
  cases maximum with
  | fin m => exact decide_eq_false fun hlt => of_decide_eq_false h (hlt.trans_le hxy)
  | posInf => rfl
  | negInf => cases h
  | nan => rfl

theorem pyRound_multiple {step : ℚ} (n : ℤ) (hunit : ∃ k : ℤ, step = k / 10 ^ 8) : pyRound (n * step) 8 = n * step := by
  obtain ⟨k, rfl⟩ := hunit
  have hone : (n : ℚ) * (k / 10 ^ 8) = ((n * k : ℤ) : ℚ) / 10 ^ 8 := by
    push_cast
    ring
  rw [hone, pyRound_of_unit]

theorem Lots.within {limits : VolumeLimits} {volume step lots : ℚ} (h : Lots limits volume step lots) :
    WithinLimits limits step (pyRound lots 8) := by
  have hnear := abs_le.1 (pyRound_near lots 8)
  refine ⟨h.on_step, lt_minimum_mono ?_ h.minimum, fun hpos => maximum_lt_mono ?_ (h.maximum hpos), fun hunit hmax => ?_⟩
  · unfold halfUnit
    linarith
  · unfold halfUnit
    linarith
  · obtain ⟨n, hn⟩ : ∃ n : ℤ, lots = n * step := by
      obtain hfloor | ⟨hclamp, hlpos⟩ := h.multiple
      · exact ⟨_, hfloor⟩
      · exact hmax lots hclamp hlpos
    have hkeep : pyRound lots 8 = lots := by
      rw [hn]
      exact pyRound_multiple n hunit
    rw [hkeep]
    exact ⟨h.minimum, h.maximum, n, hn⟩

theorem loss_within {a : ℚ} {profit : PyFloat} (hneg : PyFloat.zero.le profit = false)
    (hle : ((PyFloat.fin a).add (riskTolerance (.fin a))).lt profit.abs = false) (hnan : profit.abs ≠ .nan) :
    ∃ loss, profit.abs = .fin loss ∧ 0 < loss ∧ loss ≤ a + max (1 / 100) (a / 10 ^ 6) := by
  have htol : riskTolerance (.fin a) = .fin (max (1 / 100) (a / 10 ^ 6)) := by
    have hscale : a * (1 / 10 ^ 6) = a / 10 ^ 6 := by ring
    unfold riskTolerance
    simp only [PyFloat.mul_fin, PyFloat.lt_fin, hscale, decide_eq_true_eq]
    split
    · rename_i hlt
      rw [max_eq_right hlt.le]
    · rename_i hge
      rw [max_eq_left (not_lt.1 hge)]
  rw [htol, PyFloat.add_fin] at hle
  cases profit with
  | fin p =>
    have hp : p < 0 := not_le.1 (of_decide_eq_false (by rwa [PyFloat.zero, PyFloat.le_fin] at hneg))
    exact ⟨|p|, rfl, abs_pos.2 hp.ne, not_lt.1 (of_decide_eq_false hle)⟩
  | posInf => cases hneg
  | negInf => cases hle
  | nan => exact absurd rfl hnan

/-- **The policy takes an authorized quantity** exactly when its loss is a number within the policy's own tolerance. -/
theorem quantityProblem_iff {intent : ExecutionIntent} {context : ExecutionContext} {q : ExecutionQuantity} {a : ℚ}
    {expected : PyFloat} (ha : 0 < a) (hneg : expected.lt .zero = false) (hverified : intent.quantityRiskVerified = true)
    (hquantity : intent.quantity = some q) (hunit : ExecutionPolicy.expectedUnit context.broker = some q.unit)
    (hrisk : intent.authorizedRiskAmount = some (.fin a)) (hloss : intent.expectedLossAtStop = some expected) :
    ExecutionPolicy.quantityProblem intent context = none ↔
      ∃ loss, expected = .fin loss ∧ loss ≤ a * (1 + 1 / 10 ^ 12) := by
  unfold ExecutionPolicy.quantityProblem
  rw [hverified, hquantity, hrisk, hloss]
  simp only [Bool.not_true, Bool.false_eq_true, if_false, hunit, ne_eq, not_true, finiteNumber, Option.bind_some,
    PyFloat.rat?, not_le.2 ha]
  cases expected with
  | fin loss =>
    have hloss : ¬loss < 0 := of_decide_eq_false hneg
    simp only [if_neg hloss, PyFloat.fin.injEq, exists_eq_left']
    split
    · rename_i hlt
      exact ⟨fun h => absurd h (Option.some_ne_none _), fun hle => absurd hle (not_le.2 hlt)⟩
    · rename_i hle
      exact ⟨fun _ => not_lt.1 hle, fun _ => rfl⟩
  | posInf => simp
  | negInf => simp
  | nan => simp

/-- **The lots that are authorized**: within the symbol's limits up to the rounding, their loss within the authorized risk
and the sizer's tolerance, and taken by the policy exactly when the loss is within the policy's. -/
theorem authorizeAccountCurrencyRisk_within {g : MT5Gateway} {t : RiskTerminal} {symbol : String} {side : OrderSide}
    {balance riskPercent entry stopLoss : PyFloat} {q : ExecutionQuantity} {facts : RiskFacts}
    (h : authorizeAccountCurrencyRisk g t symbol side balance riskPercent entry stopLoss = .ok (q, facts)) :
    ∃ info step a, t.symbolInfo 1 facts.spec.symbol = .ok info ∧ WithinLimits (volumeLimits info) step q.value ∧
      facts.volume = .fin q.value ∧ q.unit = .mt5Lots ∧ 0 < a ∧ facts.authorizedRiskAmount = .fin a ∧
      (balance.mul riskPercent).div (.fin 100) = .fin a ∧
      (facts.expectedLossAtStop ≠ .nan → ∃ loss, facts.expectedLossAtStop = .fin loss ∧ 0 < loss ∧
        loss ≤ a + max (1 / 100) (a / 10 ^ 6)) ∧
      ∀ (intent : ExecutionIntent) (context : ExecutionContext), intent.quantityRiskVerified = true →
        intent.quantity = some q → ExecutionPolicy.expectedUnit context.broker = some .mt5Lots →
        intent.authorizedRiskAmount = some facts.authorizedRiskAmount →
        intent.expectedLossAtStop = some facts.expectedLossAtStop →
        (ExecutionPolicy.quantityProblem intent context = none ↔
          ∃ loss, facts.expectedLossAtStop = .fin loss ∧ loss ≤ a * (1 + 1 / 10 ^ 12)) := by
  obtain ⟨info, oneLotLoss, hauth, hbudget⟩ := authorizeAccountCurrencyRisk_eq_ok h
  obtain ⟨a, step, lots, ha, hlots, hv⟩ := sizedLots_eq_ok hauth.sized q.value_pos
  obtain ⟨profit, hneg, hexpected, htol⟩ := hauth.loss
  have hapos : 0 < a := by
    have hpos := hauth.budget_pos
    rw [ha, le_zero_fin] at hpos
    exact not_le.1 (of_decide_eq_false hpos)
  have hnotneg : profit.abs.lt .zero = false := by
    cases profit with
    | fin p => exact decide_eq_false (abs_nonneg p).not_gt
    | posInf => rfl
    | negInf => rfl
    | nan => rfl
  rw [ha] at htol
  refine ⟨info, step, a, hauth.answered, ?_, hauth.lots.1, hauth.lots.2, hapos, ha, hbudget.symm.trans ha, ?_, ?_⟩
  · rw [hv]
    exact hlots.within
  · rw [hexpected]
    exact loss_within hneg htol
  · intro intent context hverified hquantity hunit hrisk hloss
    rw [ha] at hrisk
    rw [hexpected] at hloss ⊢
    exact quantityProblem_iff hapos hnotneg hverified hquantity (by rw [hauth.lots.2]; exact hunit) hrisk hloss

def riskTerminal (step minimum maximum oneLot actual : ℚ) : RiskTerminal where
  session := sampleTerminal tradeRetcodeDone none
  symbolInfo _ _ := .ok (some ⟨.fin 100, .fin (1 / 100), .fin 1, .fin 1, .fin 1, .fin (1 / 100), .fin minimum, .fin step,
    .fin maximum⟩)
  ask _ := .ok (some (.fin 2000))
  accountInfo _ := .ok (some ⟨"USD", .fin 5000⟩)
  orderCalcProfit call _ _ _ _ _ := .ok (some (.fin (if call = 0 then oneLot else actual)))
  orderCalcMargin _ _ _ _ _ := .ok (some (.fin 50))

def sampleSizing (t : RiskTerminal) (balance : ℚ) : Except PyExc (ExecutionQuantity × RiskFacts) :=
  authorizeAccountCurrencyRisk sampleGateway t "XAUUSD" .buy (.fin balance) (.fin 1) (.fin 2000) (.fin 1990)

def sized (out : Except PyExc (ExecutionQuantity × RiskFacts)) : Option (ℚ × PyFloat × PyFloat) :=
  out.toOption.map fun r => (r.1.value, r.2.authorizedRiskAmount, r.2.expectedLossAtStop)

theorem authorizeAccountCurrencyRisk_within_tenth : ∃ q facts,
    sampleSizing (riskTerminal (1 / 100) (1 / 100) 100 (-1000) (-100)) 10000 = .ok (q, facts) ∧ q.value = 1 / 10 ∧
      ∃ step, WithinLimits ⟨.fin (1 / 100), .fin (1 / 100), .fin 100⟩ step q.value := by
  have hrun : sized (sampleSizing (riskTerminal (1 / 100) (1 / 100) 100 (-1000) (-100)) 10000) =
      some (1 / 10, .fin 100, .fin 100) := by decide +kernel
  cases hout : sampleSizing (riskTerminal (1 / 100) (1 / 100) 100 (-1000) (-100)) 10000 with
  | error e =>
    rw [hout] at hrun
    cases hrun
  | ok r =>
    rw [hout] at hrun
    obtain ⟨info, step, a, hinfo, hwithin, -⟩ := authorizeAccountCurrencyRisk_within hout
    cases hinfo
    exact ⟨r.1, r.2, rfl, congrArg (fun x : ℚ × PyFloat × PyFloat => x.1) (Option.some.inj hrun), step, hwithin⟩

/-- **The sizer goes beyond the policy**: a loss of 1.005 passes for a risk of 1; a step of 1.2e-8 is rounded below its
minimum and off its multiples, one of 1.6e-8 above its maximum; and a maximum of 0 is none. -/
theorem sizing_beyond_policy :
    (sized (sampleSizing (riskTerminal (1 / 100) (1 / 100) 100 (-10) (-1005 / 1000)) 100) =
        some (1 / 10, .fin 1, .fin (1005 / 1000)) ∧ ¬(1005 / 1000 : ℚ) ≤ 1 * (1 + 1 / 10 ^ 12)) ∧
      (sized (sampleSizing (riskTerminal (12 / 10 ^ 9) (12 / 10 ^ 9) (12 / 10) (-(10 ^ 8)) (-1)) 120) =
        some (1 / 10 ^ 8, .fin (12 / 10), .fin 1) ∧ ¬(12 / 10 ^ 9 : ℚ) - 1 / 10 ^ 12 ≤ 1 / 10 ^ 8 ∧
        (12 / 10 : ℚ) = (10 ^ 8 : ℤ) * (12 / 10 ^ 9) ∧ ¬∃ n : ℤ, (1 / 10 ^ 8 : ℚ) = n * (12 / 10 ^ 9)) ∧
      (sized (sampleSizing (riskTerminal (16 / 10 ^ 9) (16 / 10 ^ 9) (16 / 10 ^ 9) (-(10 ^ 8)) (-1)) 160) =
        some (2 / 10 ^ 8, .fin (16 / 10), .fin 1) ∧ ¬(2 / 10 ^ 8 : ℚ) ≤ 16 / 10 ^ 9 + 1 / 10 ^ 12) ∧
      (sized (sampleSizing (riskTerminal (1 / 100) (1 / 100) 0 (-10) (-1)) 100) = some (1 / 10, .fin 1, .fin 1) ∧
        ¬(1 / 10 : ℚ) ≤ 0 + 1 / 10 ^ 12) := by
  refine ⟨⟨by decide +kernel, by norm_num⟩, ⟨by decide +kernel, by norm_num, by norm_num, ?_⟩,
    ⟨by decide +kernel, by norm_num⟩, ⟨by decide +kernel, by norm_num⟩⟩
  rintro ⟨n, hn⟩
  have hten : ((10 : ℤ) : ℚ) = (n * 12 : ℤ) := by
    push_cast
    linarith
  have : (10 : ℤ) = n * 12 := by exact_mod_cast hten
  omega

end MT5DemoGateway

end Jqe
