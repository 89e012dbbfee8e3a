import Jqe.SyntheticQuantity
import Jqe.MainRun
import Jqe.PolicyMonotone
/-!
# PositionSizing — `risk/position_sizing.py`: the quantity that a cash risk buys

`authorize_execution_quantity`, with its numbers as the `Decimal`s of their texts.  The simulated quantity is judged by
its expected loss; the stake of a Deriv demo account is the cash risk rounded to cents.
-/
namespace Jqe

def canonicalSimulationProof : SimulationLossModelProof where
  lossModelId := "jqe:simulation-linear-loss"
  lossModelVersion := 1
  evidenceId := "jqe-owned:simulation-contract-v1"
  state := .verified
  broker := "simulation"
  contractFamily := "JQE_SYNTHETIC_LINEAR"
  quantityBasis := "SIMULATION_UNITS"
  stopSemantic := "PRICE_DISTANCE_CASH_PER_UNIT"

theorem minimum_finite : (toFloat (1 / 10 ^ 12)).isFinite = true := by decide +kernel

def canonicalSimulationSpecification (stopRiskPerUnit : PyFloat) : Except PyExc SimulationContractSpecification :=
  match stopRiskPerUnit with
  | .fin stop =>
    if h : 0 < stop ∧ (toFloat stop).isFinite = true then
      .ok {
        broker := "simulation"
        contractFamily := "JQE_SYNTHETIC_LINEAR"
        quantityBasis := "SIMULATION_UNITS"
        stopSemantic := "PRICE_DISTANCE_CASH_PER_UNIT"
        lossModelId := "jqe:simulation-linear-loss"
        lossModelVersion := 1
        evidenceId := "jqe-owned:simulation-contract-v1"
        stopRiskPerUnit := stop
        minimumQuantity := 1 / 10 ^ 12
        quantityIncrement := 1 / 10 ^ 12
        stop_pos := h.1
        minimum_pos := by norm_num
        increment_pos := by norm_num
        finite := ⟨h.2, minimum_finite, minimum_finite⟩ }
    else .error (.exception "stop_risk_per_unit must be a positive finite number")
  | _ => .error (.exception "stop_risk_per_unit must be a positive finite number")

/-- The reason of `evaluate_deriv_quantity_capability(current_deriv_multiplier_specification())`. -/
def derivCapabilityReason : String :=
  "Deriv loss-model proof is not verified: " ++ String.intercalate "; "
    ["supported contract type", "verified contract availability", "verified symbol eligibility",
      "duration requirements", "account-currency treatment", "verified multiplier-loss relationship", "minimum stake",
      "stake precision", "stake increment", "absolute stop-loss semantics", "versioned loss equation",
      "authoritative evidence source", "independently validated loss-model proof", "fully verified specification state"]

def authorizedRiskDecimal (balance riskPercent : PyFloat) : Except PyExc PyFloat := do
  let product ← decimalMul balance riskPercent
  decimalDiv product 100

def stopDistanceDecimal (entry stopLoss : PyFloat) : Except PyExc PyFloat := do
  let difference ← decimalSub entry stopLoss
  decimalAbs difference

def executionQuantity (value : PyFloat) (unit : ExecutionQuantityUnit) : Except PyExc ExecutionQuantity :=
  match ExecutionQuantity.build? value unit with
  | some quantity => .ok quantity
  | none => .error (.exception "execution quantity must be positive and finite")

def authorizeSimulated (authorizedRiskDecimal stopDistanceDecimal : PyFloat) : Except PyExc ExecutionSizingDecision := do
  let authorizedRisk := decimalFloat authorizedRiskDecimal
  let specification ← canonicalSimulationSpecification stopDistanceDecimal
  let registry ← SimulationProofRegistry.register [] canonicalSimulationProof
  let capability := evaluateSimulationCapability specification (some canonicalSimulationProof) registry
  if capability.1 = false then return ⟨authorizedRisk, none, none, false, capability.2⟩
  match (← floorSyntheticQuantityExact authorizedRiskDecimal specification) with
  | none =>
    return ⟨authorizedRisk, none, none, false, "Authorized risk is below the synthetic minimum quantity"⟩
  | some quantityDecimal =>
    let expectedLossDecimal ← decimalMul (.fin quantityDecimal) stopDistanceDecimal
    if authorizedRiskDecimal.lt expectedLossDecimal then
      return ⟨authorizedRisk, none, none, false, "Synthetic quantity exceeds the exact authorized risk"⟩
    let quantity ← executionQuantity (toFloat quantityDecimal) .simulationUnits
    return ⟨authorizedRisk, some quantity, some (decimalFloat expectedLossDecimal), true,
      "JQE synthetic simulation proof verifies linear stop risk"⟩

def authorizeExecutionQuantity (broker : String) (balance riskPercent entry stopLoss : PyFloat) :
    Except PyExc ExecutionSizingDecision := do
  let authorizedRiskDecimal ← authorizedRiskDecimal balance riskPercent
  let stopDistanceDecimal ← stopDistanceDecimal entry stopLoss
  let authorizedRisk := decimalFloat authorizedRiskDecimal
  let stopDistance := decimalFloat stopDistanceDecimal
  if authorizedRisk.le .zero || stopDistance.le .zero then
    return ⟨authorizedRisk, none, none, false, "Risk amount or stop distance is invalid"⟩
  if broker = "deriv" then return ⟨authorizedRisk, none, none, false, derivCapabilityReason⟩
  if broker = "mt5" ∨ broker = "mt5_demo" then
    return ⟨authorizedRisk, none, none, false,
      "MT5 sizing requires gateway order_calc_profit/order_calc_margin authority"⟩
  if broker = "deriv_demo" then
    let stake := roundCents authorizedRisk
    if stake.le .zero then return ⟨authorizedRisk, none, none, false, "Authorized stake is zero or negative"⟩
    let quantity ← executionQuantity stake .derivStake
    return ⟨authorizedRisk, some quantity, some stake, true, "Deriv demo stake authorized from cash risk"⟩
  if broker ≠ "simulation" then
    return ⟨authorizedRisk, none, none, false, "Broker stop-risk conversion is not proven"⟩
  authorizeSimulated authorizedRiskDecimal stopDistanceDecimal

/-! ### The budget -/

/-- **A verified decision is within its budget**: the expected loss is within the authorized risk, and the policy does
not reject it for exceeding that. -/
structure WithinBudget (d : ExecutionSizingDecision) : Prop where
  loss : d.riskVerifiable = true → ∃ loss, d.expectedLossAtStop = some loss ∧ loss.le d.authorizedRiskAmount = true
  policy : d.riskVerifiable = true → ∀ (intent : ExecutionIntent) (context : ExecutionContext),
    intent.quantity = d.quantity → intent.authorizedRiskAmount = some d.authorizedRiskAmount →
    intent.expectedLossAtStop = d.expectedLossAtStop → ExecutionPolicy.quantityProblem intent context ≠
      some (.invalidExecutionQuantity, "Expected stop loss exceeds authorized risk")

variable {d : ExecutionSizingDecision}

theorem withinBudget_of_unverified (h : d.riskVerifiable = false) : WithinBudget d :=
  ⟨fun hverified => absurd (h.symm.trans hverified) Bool.noConfusion,
    fun hverified => absurd (h.symm.trans hverified) Bool.noConfusion⟩

theorem quantityProblem_of_le {intent : ExecutionIntent} {context : ExecutionContext} {risk loss : ℚ} (hpos : 0 < risk)
    (hle : loss ≤ risk) (hrisk : intent.authorizedRiskAmount = some (.fin risk))
    (hloss : intent.expectedLossAtStop = some (.fin loss)) : ExecutionPolicy.quantityProblem intent context ≠
      some (.invalidExecutionQuantity, "Expected stop loss exceeds authorized risk") := by
  have hbound : ¬risk * (1 + 1 / 10 ^ 12) < loss := by
    have hmore : risk ≤ risk * (1 + 1 / 10 ^ 12) := by nlinarith
    linarith
  unfold ExecutionPolicy.quantityProblem
  rw [hrisk, hloss]
  simp only [finiteNumber, Option.bind_some, PyFloat.rat?]
  rw [if_neg (not_le.2 hpos), if_neg hbound]
  split
  · decide
  · split
    · decide
    · split
      · decide
      · split
        · decide
        · exact (Option.some_ne_none _).symm

theorem withinBudget_iff {risk loss : ℚ} (hpos : 0 < risk) (hverified : d.riskVerifiable = true)
    (hrisk : d.authorizedRiskAmount = .fin risk) (hloss : d.expectedLossAtStop = some (.fin loss)) :
    WithinBudget d ↔ loss ≤ risk := by
  constructor
  · intro h
    obtain ⟨loss', hloss', hle⟩ := h.loss hverified
    rw [hloss] at hloss'
    cases hloss'
    rw [hrisk, PyFloat.le_fin] at hle
    exact of_decide_eq_true hle
  · intro hle
    refine ⟨fun _ => ⟨_, hloss, ?_⟩, fun _ intent context _ hamount hexpected => ?_⟩
    · rw [hrisk, PyFloat.le_fin]
      exact decide_eq_true hle
    · rw [hrisk] at hamount
      rw [hloss] at hexpected
      exact quantityProblem_of_le hpos hle hamount hexpected

/-! ### The cents of a stake -/

/-- **The cent rounding does not exceed the amount**: it goes down, the fraction of a cent being less than half of one
or half of an even one, or the amount is itself the float of the cent above. -/
def CentsKept (x : ℚ) : Prop :=
  x * 100 - ⌊x * 100⌋ < 1 / 2 ∨ (x * 100 - ⌊x * 100⌋ = 1 / 2 ∧ ⌊x * 100⌋ % 2 = 0) ∨
    doublePrecision.round ((⌊x * 100⌋ + 1 : ℤ) / 100) = x

theorem pyRound_cents (x : ℚ) : pyRound x 2 = (roundHalfEven (x * 100) : ℤ) / 100 := by
  unfold pyRound
  norm_num

/-- **The stake of a cash risk is within it exactly when its cents are kept.** -/
theorem round_cents_le_iff {x : ℚ} (hx : 0 < x) (hexact : doublePrecision.Exact x) :
    doublePrecision.round (pyRound x 2) ≤ x ↔ CentsKept x := by
  have hfloor := Int.floor_le (x * 100)
  have hlt := Int.lt_floor_add_one (x * 100)
  have hnonneg : (0 : ℚ) ≤ ⌊x * 100⌋ := by exact_mod_cast Int.floor_nonneg.2 (by positivity)
  rw [pyRound_cents]
  by_cases hdown : x * 100 - ⌊x * 100⌋ < 1 / 2 ∨ (x * 100 - ⌊x * 100⌋ = 1 / 2 ∧ ⌊x * 100⌋ % 2 = 0)
  · have hround : roundHalfEven (x * 100) = ⌊x * 100⌋ := by
      rw [roundHalfEven_eq]
      rcases hdown with hless | ⟨heq, heven⟩
      · rw [if_pos hless]
      · rw [if_neg (by rw [heq]; norm_num), if_neg (by rw [heq]; norm_num), if_pos heven]
    rw [hround]
    have hle : doublePrecision.round ((⌊x * 100⌋ : ℚ) / 100) ≤ doublePrecision.round x :=
      Precision.round_mono_of_nonneg (by positivity) (by linarith)
    rw [hexact] at hle
    exact ⟨fun _ => hdown.imp id .inl, fun _ => hle⟩
  · have hround : roundHalfEven (x * 100) = ⌊x * 100⌋ + 1 := by
      rw [not_or, not_and] at hdown
      rw [roundHalfEven_eq, if_neg hdown.1]
      rcases (not_lt.1 hdown.1).lt_or_eq with hmore | heq
      · rw [if_pos hmore]
      · rw [if_neg (by rw [← heq]; exact lt_irrefl _), if_neg (hdown.2 heq.symm)]
    rw [hround]
    have hge : doublePrecision.round x ≤ doublePrecision.round (((⌊x * 100⌋ + 1 : ℤ) : ℚ) / 100) := by
      refine Precision.round_mono hx ?_
      push_cast
      linarith
    rw [hexact] at hge
    constructor
    · intro hle
      exact .inr (.inr (le_antisymm hle hge))
    · rintro (hless | hhalf | hsame)
      · exact absurd (.inl hless) hdown
      · exact absurd (.inr hhalf) hdown
      · exact hsame.le

theorem stake_pos {x : ℚ} (hx : 0 < x) (hexact : doublePrecision.Exact x) (h : ¬CentsKept x) :
    x < doublePrecision.round (pyRound x 2) := by
  by_contra hle
  exact h ((round_cents_le_iff hx hexact).1 (not_lt.1 hle))

/-! ### The decisions -/

theorem le_zero_fin (x : ℚ) : (PyFloat.fin x).le .zero = decide (x ≤ 0) := PyFloat.le_fin x 0

theorem decimalFloat_fin {a : PyFloat} {x : ℚ} (h : decimalFloat a = .fin x) : ∃ d, a = .fin d ∧ toFloat d = .fin x := by
  cases a with
  | fin d => exact ⟨d, rfl, h⟩
  | posInf => cases h
  | negInf => cases h
  | nan => cases h

theorem canonicalSimulationSpecification_ok {stop : PyFloat} {spec : SimulationContractSpecification}
    (h : canonicalSimulationSpecification stop = .ok spec) : ∃ s, stop = .fin s ∧ 0 < s := by
  cases stop with
  | fin s =>
    unfold canonicalSimulationSpecification at h
    dsimp only at h
    split at h
    · rename_i hvalid
      exact ⟨s, rfl, hvalid.1⟩
    · cases h
  | posInf => cases h
  | negInf => cases h
  | nan => cases h

theorem decimalMul_fin {p q : ℚ} {x : PyFloat} (h : decimalMul (.fin p) (.fin q) = .ok x) :
    ∃ l, l = decimalPrecision.round (p * q) ∧ x = .fin l := by
  change (PyFloat.fin <$> decimalOp (p * q) : Except PyExc PyFloat) = .ok x at h
  cases hop : decimalOp (p * q) with
  | error exc =>
    rw [hop] at h
    cases h
  | ok l =>
    rw [hop] at h
    cases h
    exact ⟨l, decimalOp_ok hop, rfl⟩

theorem authorizeSimulated_within {risk distance : PyFloat} (hrisk : (decimalFloat risk).le .zero = false)
    (h : authorizeSimulated risk distance = .ok d) : WithinBudget d := by
  unfold authorizeSimulated at h
  obtain ⟨spec, hspec, h⟩ := bind_ok h
  obtain ⟨registry, -, h⟩ := bind_ok h
  dsimp only at h
  split at h
  · cases h
    exact withinBudget_of_unverified rfl
  obtain ⟨found, hfound, h⟩ := bind_ok h
  cases found with
  | none =>
    cases h
    exact withinBudget_of_unverified rfl
  | some quantity =>
    obtain ⟨r, x, rfl, -, hx, hquantity⟩ := floorSynthetic_some hfound
    obtain ⟨stop, rfl, hstop⟩ := canonicalSimulationSpecification_ok hspec
    change (toFloat r).le .zero = false at hrisk
    rw [hx, le_zero_fin] at hrisk
    have hpos : 0 < x := not_le.1 (of_decide_eq_false hrisk)
    obtain ⟨loss, hloss, h⟩ := bind_ok h
    obtain ⟨l, hl, rfl⟩ := decimalMul_fin hloss
    split at h
    · cases h
      exact withinBudget_of_unverified rfl
    rename_i hwithin
    obtain ⟨size, -, h⟩ := bind_ok h
    have hle : l ≤ r := not_lt.1 (of_decide_eq_false (Bool.not_eq_true _ ▸ hwithin))
    have hnonneg : 0 ≤ l := by
      rw [hl]
      exact Precision.round_nonneg (mul_nonneg hquantity.le hstop.le)
    obtain ⟨y, hy, hyx⟩ := toFloat_mono hnonneg hle hx
    cases h
    exact (withinBudget_iff hpos rfl hx (congrArg some hy)).2 hyx

/-- The kind of input on which the stake of a demo account exceeds the risk: a positive cash risk `x` whose cents are not
kept, at a stop that is not the entry. -/
structure StakeRoundedUp (broker : String) (balance riskPercent entry stopLoss : PyFloat) (x : ℚ) : Prop where
  demo : broker = "deriv_demo"
  risk : ∃ d, authorizedRiskDecimal balance riskPercent = .ok (.fin d) ∧ toFloat d = .fin x
  positive : 0 < x
  distance : ∃ d, stopDistanceDecimal entry stopLoss = .ok d ∧ (decimalFloat d).le .zero = false
  cents : ¬CentsKept x

theorem toFloat_exact {d x : ℚ} (hx : 0 < x) (h : toFloat d = .fin x) : doublePrecision.Exact x := by
  rw [toFloat_fin h] at hx ⊢
  rcases lt_or_ge 0 d with hd | hd
  · exact Precision.exact_round hd
  · exact absurd hx (not_lt.2 (Precision.round_nonpos hd))

theorem demoStake_within_iff {x : ℚ} (hx : 0 < x) (hexact : doublePrecision.Exact x) (h : (do
      let stake := roundCents (.fin x)
      if stake.le .zero then
        return ⟨.fin x, none, none, false, "Authorized stake is zero or negative"⟩
      let quantity ← executionQuantity stake .derivStake
      return ⟨.fin x, some quantity, some stake, true, "Deriv demo stake authorized from cash risk"⟩ :
        Except PyExc ExecutionSizingDecision) = .ok d) : WithinBudget d ↔ CentsKept x := by
  dsimp only at h
  cases hstake : roundCents (.fin x) with
  | fin y =>
    have hy : y = doublePrecision.round (pyRound x 2) := toFloat_fin hstake
    rw [hstake] at h
    by_cases hzero : (PyFloat.fin y).le .zero = true
    · rw [if_pos hzero] at h
      cases h
      refine ⟨fun _ => ?_, fun _ => withinBudget_of_unverified rfl⟩
      by_contra hcents
      have hstakePos := stake_pos hx hexact hcents
      rw [← hy] at hstakePos
      rw [le_zero_fin] at hzero
      have hle := of_decide_eq_true hzero
      linarith
    · rw [if_neg hzero] at h
      obtain ⟨quantity, -, h⟩ := bind_ok h
      cases h
      rw [withinBudget_iff hx rfl rfl rfl, hy]
      exact round_cents_le_iff hx hexact
  | posInf =>
    rw [hstake] at h
    cases h
  | negInf =>
    have hnonneg : 0 ≤ pyRound x 2 := by
      rw [pyRound_cents]
      have hround := roundHalfEven_nonneg (show 0 ≤ x * 100 by positivity)
      have hround' : (0 : ℚ) ≤ roundHalfEven (x * 100) := by exact_mod_cast hround
      positivity
    exact absurd hstake (toFloat_ne_negInf hnonneg)
  | nan =>
    rw [hstake] at h
    cases h

/-- **When the sizer keeps to its budget**: always, but for a demo stake that the cents of its risk round up. -/
theorem sizing_within_iff (broker : String) (balance riskPercent entry stopLoss : PyFloat)
    (decision : ExecutionSizingDecision)
    (h : authorizeExecutionQuantity broker balance riskPercent entry stopLoss = .ok decision) :
    WithinBudget decision ↔ ¬∃ x, StakeRoundedUp broker balance riskPercent entry stopLoss x := by
  unfold authorizeExecutionQuantity at h
  obtain ⟨risk, hrisk, h⟩ := bind_ok h
  obtain ⟨distance, hdistance, h⟩ := bind_ok h
  dsimp only at h
  by_cases hvalid : ((decimalFloat risk).le .zero || (decimalFloat distance).le .zero) = true
  · rw [if_pos hvalid] at h
    cases h
    refine ⟨fun _ => ?_, fun _ => withinBudget_of_unverified rfl⟩
    rintro ⟨x, -, ⟨d, hd, hx⟩, hpos, ⟨d', hd', hfar⟩, -⟩
    rw [hrisk] at hd
    rw [hdistance] at hd'
    cases hd
    cases hd'
    rw [hfar, Bool.or_false] at hvalid
    change (toFloat d).le .zero = true at hvalid
    rw [hx, le_zero_fin] at hvalid
    exact absurd hpos (not_lt.2 (of_decide_eq_true hvalid))
  rw [if_neg hvalid] at h
  rw [Bool.not_eq_true, Bool.or_eq_false_iff] at hvalid
  by_cases hderiv : broker = "deriv"
  · rw [if_pos hderiv] at h
    cases h
    refine ⟨fun _ => ?_, fun _ => withinBudget_of_unverified rfl⟩
    rintro ⟨x, hdemo, -⟩
    rw [hderiv] at hdemo
    exact absurd hdemo (by decide)
  rw [if_neg hderiv] at h
  by_cases hmt5 : broker = "mt5" ∨ broker = "mt5_demo"
  · rw [if_pos hmt5] at h
    cases h
    refine ⟨fun _ => ?_, fun _ => withinBudget_of_unverified rfl⟩
    rintro ⟨x, hdemo, -⟩
    rw [hdemo] at hmt5
    exact absurd hmt5 (by decide)
  rw [if_neg hmt5] at h
  by_cases hdemo : broker = "deriv_demo"
  · rw [if_pos hdemo] at h
    cases hamount : decimalFloat risk with
    | fin x =>
      obtain ⟨d, rfl, hd⟩ := decimalFloat_fin hamount
      rw [hamount] at h hvalid
      have hpos : 0 < x := not_le.1 (of_decide_eq_false ((le_zero_fin x).symm.trans hvalid.1))
      refine (demoStake_within_iff hpos (toFloat_exact hpos hd) h).trans ⟨fun hkept => ?_, fun hnot => ?_⟩
      · rintro ⟨x', -, ⟨d', hd', hx'⟩, -, -, hcents⟩
        rw [hrisk] at hd'
        cases hd'
        rw [hd] at hx'
        cases hx'
        exact hcents hkept
      · by_contra hcents
        exact hnot ⟨x, hdemo, ⟨d, hrisk, hd⟩, hpos, ⟨distance, hdistance, hvalid.2⟩, hcents⟩
    | posInf =>
      rw [hamount] at h
      cases h
    | negInf =>
      rw [hamount] at hvalid
      cases hvalid.1
    | nan =>
      rw [hamount] at h
      cases h
  rw [if_neg hdemo] at h
  have hnot : ¬∃ x, StakeRoundedUp broker balance riskPercent entry stopLoss x := by
    rintro ⟨x, hx⟩
    exact hdemo hx.demo
  refine ⟨fun _ => hnot, fun _ => ?_⟩
  split at h
  · cases h
    exact withinBudget_of_unverified rfl
  · exact authorizeSimulated_within hvalid.1 h

/-- The cash risk of `12.6` at one percent. -/
def demoDecision : ExecutionSizingDecision where
  authorizedRiskAmount := toFloat (126 / 1000)
  quantity := some ⟨doublePrecision.round (13 / 100), .derivStake, by decide +kernel⟩
  expectedLossAtStop := some (toFloat (13 / 100))
  riskVerifiable := true
  reason := "Deriv demo stake authorized from cash risk"

/-- A risk of 12.6 cents buys a stake of 13 cents, which the policy rejects for exceeding the risk. -/
theorem demo_stake_over_risk :
    authorizeExecutionQuantity "deriv_demo" (.fin (126 / 10)) (.fin 1) (.fin 100) (.fin 99) = .ok demoDecision ∧
    ¬WithinBudget demoDecision ∧
    ExecutionPolicy.quantityProblem
      { ExecutionPolicy.approvedBuy with
        quantity := demoDecision.quantity
        authorizedRiskAmount := some demoDecision.authorizedRiskAmount
        expectedLossAtStop := demoDecision.expectedLossAtStop }
      { ExecutionPolicy.roomyContext with broker := some "deriv_demo" } =
        some (.invalidExecutionQuantity, "Expected stop loss exceeds authorized risk") := by
  refine ⟨by decide +kernel, fun h => ?_, by decide +kernel⟩
  obtain ⟨loss, hloss, hle⟩ := h.loss rfl
  cases hloss
  revert hle
  decide +kernel

/-- A simulated quantity of 50 cash at a distance of 8. -/
theorem sizing_within_iff_simulated : ∃ decision, authorizeExecutionQuantity "simulation" (.fin 10000) (.fin (1 / 2))
    (.fin 100) (.fin 92) = .ok decision ∧ WithinBudget decision := by
  have hreturns : (authorizeExecutionQuantity "simulation" (.fin 10000) (.fin (1 / 2)) (.fin 100) (.fin 92)).isOk = true := by
    decide +kernel
  cases h : authorizeExecutionQuantity "simulation" (.fin 10000) (.fin (1 / 2)) (.fin 100) (.fin 92) with
  | error exc =>
    rw [h] at hreturns
    cases hreturns
  | ok decision =>
    refine ⟨decision, rfl, (sizing_within_iff "simulation" _ _ _ _ decision h).2 ?_⟩
    rintro ⟨x, hx⟩
    exact absurd hx.demo (by decide)

end Jqe
