import Mathlib
import Jqe.PyDecimal
/-!
# SyntheticQuantity — the maximal quantity within a risk (`risk/simulation_contract.py`)

`floor_synthetic_quantity_exact` in the default `decimal` context: every operation rounds to 28 digits, and the checks
are made on rounded products.
-/
namespace Jqe

inductive SimulationProofState where
  | unverified
  | verified
  deriving DecidableEq

structure SimulationLossModelProof where
  lossModelId : String
  lossModelVersion : ℕ
  evidenceId : String
  state : SimulationProofState
  broker : String
  contractFamily : String
  quantityBasis : String
  stopSemantic : String
  deriving DecidableEq

def SimulationLossModelProof.identity (p : SimulationLossModelProof) : String × ℕ × String :=
  (p.lossModelId, p.lossModelVersion, p.evidenceId)

structure SimulationContractSpecification where
  broker : String
  contractFamily : String
  quantityBasis : String
  stopSemantic : String
  lossModelId : String
  lossModelVersion : ℕ
  evidenceId : String
  stopRiskPerUnit : ℚ
  minimumQuantity : ℚ
  quantityIncrement : ℚ
  stop_pos : 0 < stopRiskPerUnit
  minimum_pos : 0 < minimumQuantity
  increment_pos : 0 < quantityIncrement
  finite : (toFloat stopRiskPerUnit).isFinite = true ∧ (toFloat minimumQuantity).isFinite = true ∧
    (toFloat quantityIncrement).isFinite = true

/-- `SimulationProofRegistry`: identities of proofs. -/
abbrev SimulationProofRegistry := List (String × ℕ × String)

def SimulationProofRegistry.register (r : SimulationProofRegistry) (proof : SimulationLossModelProof) :
    Except PyExc SimulationProofRegistry :=
  if proof.state ≠ .verified then .error (.exception "Only verified simulation proofs may be registered")
  else .ok (proof.identity :: r)

def evaluateSimulationCapability (specification : SimulationContractSpecification)
    (proof : Option SimulationLossModelProof) (registry : SimulationProofRegistry) : Bool × String :=
  match proof with
  | none => (false, "Synthetic loss-model proof is missing")
  | some proof =>
    if proof.state ≠ .verified ∨ proof.identity ∉ registry then
      (false, "Synthetic loss-model proof is not registered")
    else if proof.broker ≠ specification.broker ∨ proof.contractFamily ≠ specification.contractFamily ∨
        proof.quantityBasis ≠ specification.quantityBasis ∨ proof.stopSemantic ≠ specification.stopSemantic ∨
        proof.lossModelId ≠ specification.lossModelId ∨ proof.lossModelVersion ≠ specification.lossModelVersion ∨
        proof.evidenceId ≠ specification.evidenceId then
      (false, "Synthetic proof applicability mismatch")
    else (true, "JQE synthetic loss model is registered")

/-- **`floor_synthetic_quantity_exact`**, of a `Decimal` that may be infinite or a NaN. -/
def floorSyntheticQuantityExact (riskAmount : PyFloat) (specification : SimulationContractSpecification) :
    Except PyExc (Option ℚ) :=
  match riskAmount with
  | .fin risk =>
    -- `math.isfinite` converts the `Decimal` to a float
    if (toFloat risk).isFinite = false ∨ risk ≤ 0 then .ok none
    else do
      let raw ← decimalOp (risk / specification.stopRiskPerUnit)
      let units ← decimalOp (raw / specification.quantityIncrement)
      let quantity ← decimalOp (⌊units⌋ * specification.quantityIncrement)
      if quantity < specification.minimumQuantity then return none
      let loss ← decimalOp (quantity * specification.stopRiskPerUnit)
      if risk < loss then
        let quantity ← decimalOp (quantity - specification.quantityIncrement)
        if quantity < specification.minimumQuantity then return none
        let loss ← decimalOp (quantity * specification.stopRiskPerUnit)
        if risk < loss then return none
        return some quantity
      return some quantity
  | _ => .ok none

/-- **The maximal quantity**: a multiple of the increment, no less than the minimum, whose exact loss is within the risk
and the next one's is not; or none, and then no such multiple is within the risk. -/
def Maximal (risk : ℚ) (specification : SimulationContractSpecification) : Option ℚ → Prop
  | some q => q * specification.stopRiskPerUnit ≤ risk ∧ (∃ k : ℤ, q = k * specification.quantityIncrement) ∧
      specification.minimumQuantity ≤ q ∧
      risk < (q + specification.quantityIncrement) * specification.stopRiskPerUnit
  | none => ∀ k : ℤ, specification.minimumQuantity ≤ k * specification.quantityIncrement →
      risk < k * specification.quantityIncrement * specification.stopRiskPerUnit

/-! ### The exact floor -/

section Floor

variable (risk : ℚ) (spec : SimulationContractSpecification)

/-- The increments that fit within the risk. -/
def fitting : ℤ := ⌊risk / (spec.stopRiskPerUnit * spec.quantityIncrement)⌋

/-- The greatest multiple of the increment within the risk. -/
def fittingQuantity : ℚ := fitting risk spec * spec.quantityIncrement

variable {risk spec}

theorem unit_risk_pos (spec : SimulationContractSpecification) : 0 < spec.stopRiskPerUnit * spec.quantityIncrement :=
  mul_pos spec.stop_pos spec.increment_pos

theorem le_fitting_iff (k : ℤ) :
    k ≤ fitting risk spec ↔ k * spec.quantityIncrement * spec.stopRiskPerUnit ≤ risk := by
  unfold fitting
  rw [Int.le_floor, le_div_iff₀ (unit_risk_pos spec)]
  constructor <;> intro h <;> linarith

/-- **The maximal quantity is the greatest fitting multiple**, when that is no less than the minimum. -/
theorem maximal_iff_eq (result : Option ℚ) : Maximal risk spec result ↔
    result = if spec.minimumQuantity ≤ fittingQuantity risk spec then some (fittingQuantity risk spec) else none := by
  have hinc := spec.increment_pos
  cases result with
  | none =>
    unfold Maximal
    constructor
    · intro h
      rw [if_neg]
      intro hle
      exact absurd (h _ hle) (not_lt.2 ((le_fitting_iff _).1 le_rfl))
    · intro h k hk
      by_contra hfit
      have hle : k ≤ fitting risk spec := (le_fitting_iff k).2 (not_lt.1 hfit)
      have hmul : (k : ℚ) * spec.quantityIncrement ≤ fittingQuantity risk spec :=
        mul_le_mul_of_nonneg_right (by exact_mod_cast hle) hinc.le
      rw [if_pos (hk.trans hmul)] at h
      cases h
  | some q =>
    unfold Maximal
    constructor
    · rintro ⟨hfit, ⟨k, rfl⟩, hmin, hnext⟩
      have hle : k ≤ fitting risk spec := (le_fitting_iff k).2 hfit
      have hlt : ¬k + 1 ≤ fitting risk spec := by
        rw [le_fitting_iff, not_le]
        push_cast
        linarith
      have hk : k = fitting risk spec := by omega
      have hq : (k : ℚ) * spec.quantityIncrement = fittingQuantity risk spec := by
        unfold fittingQuantity
        rw [hk]
      rw [hq] at hmin ⊢
      rw [if_pos hmin]
    · intro h
      split at h
      · rename_i hmin
        cases h
        refine ⟨(le_fitting_iff _).1 le_rfl, ⟨_, rfl⟩, hmin, ?_⟩
        have hnext : ¬fitting risk spec + 1 ≤ fitting risk spec := by omega
        rw [le_fitting_iff, not_le] at hnext
        push_cast at hnext
        unfold fittingQuantity
        linarith
      · cases h

theorem fitting_nonneg (h : 0 < risk) : 0 ≤ fitting risk spec := by
  rw [le_fitting_iff]
  push_cast
  linarith

end Floor

/-! ### The rounded run -/

section Rounded

variable (risk : ℚ) (spec : SimulationContractSpecification)

/-- The increments of the two rounded divisions. -/
def roundedUnits : ℚ :=
  decimalPrecision.round (decimalPrecision.round (risk / spec.stopRiskPerUnit) / spec.quantityIncrement)

def roundedLoss (q : ℚ) : ℚ := decimalPrecision.round (q * spec.stopRiskPerUnit)

def judged (q : ℚ) : Option ℚ :=
  if q < spec.minimumQuantity then none
  else if risk < roundedLoss spec q then
    let q := decimalPrecision.round (q - spec.quantityIncrement)
    if q < spec.minimumQuantity then none
    else if risk < roundedLoss spec q then none
    else some q
  else some q

def RoundsUp : Prop := ((fitting risk spec + 1 : ℤ) : ℚ) ≤ roundedUnits risk spec

/-- **What has few enough digits**: the numbers of a maximal quantity, and those of the next one when the divisions
round up to it; and rounding lifts no quantity to the minimum. -/
structure FewDigits : Prop where
  finite : (toFloat risk).isFinite = true
  quantity : spec.minimumQuantity ≤ fittingQuantity risk spec →
    decimalPrecision.Exact (fitting risk spec) ∧ decimalPrecision.Exact (fittingQuantity risk spec)
  minimum : fittingQuantity risk spec < spec.minimumQuantity →
    decimalPrecision.round (fittingQuantity risk spec) < spec.minimumQuantity
  next : RoundsUp risk spec → decimalPrecision.Exact ((fitting risk spec + 1 : ℤ) : ℚ) ∧
    decimalPrecision.Exact (fittingQuantity risk spec + spec.quantityIncrement)

/-- **The rounded checks see what the exact ones do**: the loss of the maximal quantity is not rounded above the risk,
and that of the next one, when the divisions round up to it, is not rounded down to the risk. -/
structure ChecksSee : Prop where
  quantity : spec.minimumQuantity ≤ fittingQuantity risk spec →
    roundedLoss spec (fittingQuantity risk spec) ≤ risk
  next : RoundsUp risk spec → spec.minimumQuantity ≤ fittingQuantity risk spec + spec.quantityIncrement →
    risk < roundedLoss spec (fittingQuantity risk spec + spec.quantityIncrement)

variable {risk spec} {result : Option ℚ}

theorem floorSynthetic_ok (hrisk : 0 < risk) (hfinite : (toFloat risk).isFinite = true)
    (h : floorSyntheticQuantityExact (.fin risk) spec = .ok result) :
    result = judged risk spec (decimalPrecision.round (⌊roundedUnits risk spec⌋ * spec.quantityIncrement)) := by
  unfold floorSyntheticQuantityExact at h
  dsimp only at h
  rw [if_neg (by rw [hfinite, not_or]; exact ⟨Bool.noConfusion, not_le.2 hrisk⟩)] at h
  obtain ⟨raw, hraw, h⟩ := bind_ok h
  obtain ⟨units, hunits, h⟩ := bind_ok h
  obtain ⟨quantity, hquantity, h⟩ := bind_ok h
  have hunits' : units = roundedUnits risk spec := by
    unfold roundedUnits
    rw [decimalOp_ok hunits, decimalOp_ok hraw]
  rw [← hunits', ← decimalOp_ok hquantity]
  unfold judged
  by_cases hmin : quantity < spec.minimumQuantity
  · rw [if_pos hmin] at h ⊢
    exact (Except.ok.inj h).symm
  rw [if_neg hmin] at h ⊢
  obtain ⟨loss, hloss, h⟩ := bind_ok h
  have hloss' : loss = roundedLoss spec quantity := decimalOp_ok hloss
  rw [← hloss']
  by_cases hover : risk < loss
  · rw [if_pos hover] at h ⊢
    obtain ⟨quantity', hquantity', h⟩ := bind_ok h
    rw [← decimalOp_ok hquantity']
    dsimp only
    by_cases hmin' : quantity' < spec.minimumQuantity
    · rw [if_pos hmin'] at h ⊢
      exact (Except.ok.inj h).symm
    rw [if_neg hmin'] at h ⊢
    obtain ⟨loss', hloss', h⟩ := bind_ok h
    rw [show roundedLoss spec quantity' = loss' from (decimalOp_ok hloss').symm]
    by_cases hover' : risk < loss'
    · rw [if_pos hover'] at h ⊢
      exact (Except.ok.inj h).symm
    · rw [if_neg hover'] at h ⊢
      exact (Except.ok.inj h).symm
  · rw [if_neg hover] at h ⊢
    exact (Except.ok.inj h).symm

theorem roundedUnits_nonneg (h : 0 < risk) : 0 ≤ roundedUnits risk spec :=
  Precision.round_nonneg (div_nonneg (Precision.round_nonneg (div_nonneg h.le spec.stop_pos.le)) spec.increment_pos.le)

theorem le_roundedUnits {k : ℤ} (hk : 0 ≤ k) (hfit : k ≤ fitting risk spec) (hcount : decimalPrecision.Exact (k : ℚ))
    (hquantity : decimalPrecision.Exact (k * spec.quantityIncrement)) : (k : ℚ) ≤ roundedUnits risk spec := by
  have hinc := spec.increment_pos
  have hk' : (0 : ℚ) ≤ k := by exact_mod_cast hk
  have hraw : (k : ℚ) * spec.quantityIncrement ≤ risk / spec.stopRiskPerUnit := by
    rw [le_div_iff₀ spec.stop_pos]
    exact (le_fitting_iff k).1 hfit
  have hround := Precision.round_mono_of_nonneg (P := decimalPrecision) (mul_nonneg hk' hinc.le) hraw
  rw [hquantity] at hround
  have hunits : (k : ℚ) ≤ decimalPrecision.round (risk / spec.stopRiskPerUnit) / spec.quantityIncrement := by
    rw [le_div_iff₀ hinc]
    exact hround
  have hround' := Precision.round_mono_of_nonneg (P := decimalPrecision) hk' hunits
  rwa [hcount] at hround'

theorem roundedUnits_le {k : ℤ} (hrisk : 0 < risk) (hfit : fitting risk spec < k) (hcount : decimalPrecision.Exact (k : ℚ))
    (hquantity : decimalPrecision.Exact (k * spec.quantityIncrement)) : roundedUnits risk spec ≤ k := by
  have hinc := spec.increment_pos
  have hraw : risk / spec.stopRiskPerUnit ≤ (k : ℚ) * spec.quantityIncrement := by
    rw [div_le_iff₀ spec.stop_pos]
    have hnot : ¬k ≤ fitting risk spec := by omega
    rw [le_fitting_iff, not_le] at hnot
    exact hnot.le
  have hround := Precision.round_mono (P := decimalPrecision) (div_pos hrisk spec.stop_pos) hraw
  rw [hquantity] at hround
  have hunits : decimalPrecision.round (risk / spec.stopRiskPerUnit) / spec.quantityIncrement ≤ k := by
    rw [div_le_iff₀ hinc]
    exact hround
  have hround' := Precision.round_mono_of_nonneg (P := decimalPrecision)
    (div_nonneg (Precision.round_nonneg (div_pos hrisk spec.stop_pos).le) hinc.le) hunits
  rwa [hcount] at hround'

theorem next_quantity : ((fitting risk spec + 1 : ℤ) : ℚ) * spec.quantityIncrement =
    fittingQuantity risk spec + spec.quantityIncrement := by
  unfold fittingQuantity
  push_cast
  ring

theorem floor_roundsUp (hrisk : 0 < risk) (h : FewDigits risk spec) (hup : RoundsUp risk spec) :
    ⌊roundedUnits risk spec⌋ = fitting risk spec + 1 := by
  obtain ⟨hcount, hquantity⟩ := h.next hup
  rw [← next_quantity] at hquantity
  have hle := roundedUnits_le hrisk (Int.lt_succ_self _) hcount hquantity
  have heq : roundedUnits risk spec = ((fitting risk spec + 1 : ℤ) : ℚ) := le_antisymm hle hup
  rw [heq, Int.floor_intCast]

theorem floor_le_of_not_roundsUp (hup : ¬RoundsUp risk spec) : ⌊roundedUnits risk spec⌋ ≤ fitting risk spec := by
  have hlt : ⌊roundedUnits risk spec⌋ < fitting risk spec + 1 := Int.floor_lt.2 (not_le.1 hup)
  omega

theorem roundedLoss_of_judged {q q' : ℚ} (h : judged risk spec q = some q') : roundedLoss spec q' ≤ risk := by
  unfold judged at h
  split at h
  · cases h
  split at h
  · dsimp only at h
    split at h
    · cases h
    split at h
    · cases h
    · rename_i hloss
      cases h
      exact not_lt.1 hloss
  · rename_i hloss
    cases h
    exact not_lt.1 hloss

theorem minimum_le_of_judged {q q' : ℚ} (h : judged risk spec q = some q') : spec.minimumQuantity ≤ q' := by
  unfold judged at h
  split at h
  · cases h
  rename_i hmin
  split at h
  · dsimp only at h
    split at h
    · cases h
    rename_i hmin'
    split at h
    · cases h
    · cases h
      exact not_lt.1 hmin'
  · cases h
    exact not_lt.1 hmin

theorem judged_of_le {q : ℚ} (hmin : spec.minimumQuantity ≤ q) (hloss : roundedLoss spec q ≤ risk) :
    judged risk spec q = some q := by
  unfold judged
  rw [if_neg (not_lt.2 hmin), if_neg (not_lt.2 hloss)]

theorem judged_next (hmin : spec.minimumQuantity ≤ fittingQuantity risk spec + spec.quantityIncrement)
    (hloss : risk < roundedLoss spec (fittingQuantity risk spec + spec.quantityIncrement)) :
    judged risk spec (fittingQuantity risk spec + spec.quantityIncrement) =
      if decimalPrecision.round (fittingQuantity risk spec) < spec.minimumQuantity then none
      else if risk < roundedLoss spec (decimalPrecision.round (fittingQuantity risk spec)) then none
      else some (decimalPrecision.round (fittingQuantity risk spec)) := by
  unfold judged
  rw [if_neg (not_lt.2 hmin), if_pos hloss, add_sub_cancel_right]

theorem maximal_iff_of_fits (hrisk : 0 < risk) (hdigits : FewDigits risk spec)
    (h : floorSyntheticQuantityExact (.fin risk) spec = .ok result)
    (hfits : spec.minimumQuantity ≤ fittingQuantity risk spec) :
    Maximal risk spec result ↔ ChecksSee risk spec := by
  obtain ⟨hcount, hquantity⟩ := hdigits.quantity hfits
  have hinc := spec.increment_pos
  have hresult := floorSynthetic_ok hrisk hdigits.finite h
  rw [maximal_iff_eq, if_pos hfits]
  by_cases hup : RoundsUp risk spec
  · rw [floor_roundsUp hrisk hdigits hup, next_quantity, (hdigits.next hup).2] at hresult
    have hmin : spec.minimumQuantity ≤ fittingQuantity risk spec + spec.quantityIncrement := by linarith
    by_cases hnext : risk < roundedLoss spec (fittingQuantity risk spec + spec.quantityIncrement)
    · rw [judged_next hmin hnext, hquantity, if_neg (not_lt.2 hfits)] at hresult
      by_cases hloss : risk < roundedLoss spec (fittingQuantity risk spec)
      · rw [if_pos hloss] at hresult
        rw [hresult]
        exact ⟨(fun hnone => by cases hnone), fun hsee => absurd (hsee.quantity hfits) (not_le.2 hloss)⟩
      · rw [if_neg hloss] at hresult
        exact ⟨fun _ => ⟨fun _ => not_lt.1 hloss, fun _ _ => hnext⟩, fun _ => hresult⟩
    · rw [judged_of_le hmin (not_lt.1 hnext)] at hresult
      rw [hresult]
      refine ⟨fun heq => ?_, fun hsee => absurd (hsee.next hup hmin) hnext⟩
      have hsame := Option.some.inj heq
      linarith
  · have hfloor : ⌊roundedUnits risk spec⌋ = fitting risk spec := by
      refine le_antisymm (floor_le_of_not_roundsUp hup) (Int.le_floor.2 ?_)
      exact le_roundedUnits (fitting_nonneg hrisk) le_rfl hcount hquantity
    rw [hfloor, show (fitting risk spec : ℚ) * spec.quantityIncrement = fittingQuantity risk spec from rfl, hquantity]
      at hresult
    by_cases hloss : roundedLoss spec (fittingQuantity risk spec) ≤ risk
    · rw [judged_of_le hfits hloss] at hresult
      exact ⟨fun _ => ⟨fun _ => hloss, fun hup' => absurd hup' hup⟩, fun _ => hresult⟩
    · refine ⟨fun heq => ?_, fun hsee => absurd (hsee.quantity hfits) hloss⟩
      rw [heq] at hresult
      exact absurd (roundedLoss_of_judged hresult.symm) hloss

theorem maximal_iff_of_not_fits (hrisk : 0 < risk) (hdigits : FewDigits risk spec)
    (h : floorSyntheticQuantityExact (.fin risk) spec = .ok result)
    (hsmall : fittingQuantity risk spec < spec.minimumQuantity) :
    Maximal risk spec result ↔ ChecksSee risk spec := by
  have hinc := spec.increment_pos
  have hround := hdigits.minimum hsmall
  have hresult := floorSynthetic_ok hrisk hdigits.finite h
  rw [maximal_iff_eq, if_neg (not_le.2 hsmall)]
  by_cases hup : RoundsUp risk spec
  · rw [floor_roundsUp hrisk hdigits hup, next_quantity, (hdigits.next hup).2] at hresult
    by_cases hmin : spec.minimumQuantity ≤ fittingQuantity risk spec + spec.quantityIncrement
    · by_cases hnext : risk < roundedLoss spec (fittingQuantity risk spec + spec.quantityIncrement)
      · rw [judged_next hmin hnext, if_pos hround] at hresult
        exact ⟨fun _ => ⟨fun hfits => absurd hfits (not_le.2 hsmall), fun _ _ => hnext⟩, fun _ => hresult⟩
      · rw [judged_of_le hmin (not_lt.1 hnext)] at hresult
        rw [hresult]
        exact ⟨(fun hsome => by cases hsome), fun hsee => absurd (hsee.next hup hmin) hnext⟩
    · unfold judged at hresult
      rw [if_pos (not_le.1 hmin)] at hresult
      exact ⟨fun _ => ⟨fun hfits => absurd hfits (not_le.2 hsmall), fun _ hmin' => absurd hmin' hmin⟩, fun _ => hresult⟩
  · have hfloor : ⌊roundedUnits risk spec⌋ ≤ fitting risk spec := floor_le_of_not_roundsUp hup
    have hpos : (0 : ℚ) ≤ ⌊roundedUnits risk spec⌋ := by
      exact_mod_cast Int.floor_nonneg.2 (roundedUnits_nonneg hrisk)
    have hle : (⌊roundedUnits risk spec⌋ : ℚ) * spec.quantityIncrement ≤ fittingQuantity risk spec :=
      mul_le_mul_of_nonneg_right (by exact_mod_cast hfloor) hinc.le
    have hrounded := Precision.round_mono_of_nonneg (P := decimalPrecision) (mul_nonneg hpos hinc.le) hle
    unfold judged at hresult
    rw [if_pos (hrounded.trans_lt hround)] at hresult
    exact ⟨fun _ => ⟨fun hfits => absurd hfits (not_le.2 hsmall), fun hup' => absurd hup' hup⟩, fun _ => hresult⟩

theorem exact_of_judged {q q' : ℚ} (h : judged risk spec (decimalPrecision.round q) = some q') :
    decimalPrecision.Exact q' := by
  have hmin := spec.minimum_pos
  have hexact : ∀ x : ℚ, spec.minimumQuantity ≤ decimalPrecision.round x → decimalPrecision.Exact (decimalPrecision.round x) := by
    intro x hx
    rcases lt_or_ge 0 x with hpos | hneg
    · exact Precision.exact_round hpos
    · exact absurd (Precision.round_nonpos (P := decimalPrecision) hneg) (not_le.2 (hmin.trans_le hx))
  unfold judged at h
  split at h
  · cases h
  rename_i hle
  split at h
  · dsimp only at h
    split at h
    · cases h
    rename_i hle'
    split at h
    · cases h
    · cases h
      exact hexact _ (not_lt.1 hle')
  · cases h
    exact hexact _ (not_lt.1 hle)

theorem floorSynthetic_some {amount : PyFloat} {q : ℚ} (h : floorSyntheticQuantityExact amount spec = .ok (some q)) :
    ∃ r x, amount = .fin r ∧ 0 < r ∧ toFloat r = .fin x ∧ 0 < q := by
  cases amount with
  | fin r =>
    by_cases hvalid : (toFloat r).isFinite = false ∨ r ≤ 0
    · unfold floorSyntheticQuantityExact at h
      dsimp only at h
      rw [if_pos hvalid] at h
      cases h
    · rw [not_or, Bool.not_eq_false, not_le] at hvalid
      obtain ⟨x, hx⟩ := (PyFloat.isFinite_iff _).1 hvalid.1
      have hjudged := floorSynthetic_ok hvalid.2 hvalid.1 h
      exact ⟨r, x, rfl, hvalid.2, hx, spec.minimum_pos.trans_le (minimum_le_of_judged hjudged.symm)⟩
  | posInf => cases h
  | negInf => cases h
  | nan => cases h

end Rounded

/-- **When `floor_synthetic_quantity_exact` is exact.**  On few digits, exactly when the rounded checks see what the
exact ones do.  A maximal quantity of too many digits is never returned, and a risk beyond the floats gives none. -/
theorem floorSynthetic_maximal_iff (risk : ℚ) (spec : SimulationContractSpecification) (result : Option ℚ)
    (hrisk : 0 < risk) (h : floorSyntheticQuantityExact (.fin risk) spec = .ok result) :
    (FewDigits risk spec → (Maximal risk spec result ↔ ChecksSee risk spec)) ∧
    ((toFloat risk).isFinite = true → spec.minimumQuantity ≤ fittingQuantity risk spec →
      ¬decimalPrecision.Exact (fittingQuantity risk spec) → ¬Maximal risk spec result) ∧
    ((toFloat risk).isFinite = false →
      (Maximal risk spec result ↔ fittingQuantity risk spec < spec.minimumQuantity)) := by
  refine ⟨fun hdigits => ?_, fun hfinite hfits hmany hmaximal => ?_, fun hinfinite => ?_⟩
  · rcases le_or_gt spec.minimumQuantity (fittingQuantity risk spec) with hfits | hsmall
    · exact maximal_iff_of_fits hrisk hdigits h hfits
    · exact maximal_iff_of_not_fits hrisk hdigits h hsmall
  · rw [maximal_iff_eq, if_pos hfits] at hmaximal
    have hresult := floorSynthetic_ok hrisk hfinite h
    rw [hmaximal] at hresult
    exact hmany (exact_of_judged hresult.symm)
  · unfold floorSyntheticQuantityExact at h
    dsimp only at h
    rw [if_pos (.inl hinfinite)] at h
    cases h
    rw [maximal_iff_eq]
    by_cases hfits : spec.minimumQuantity ≤ fittingQuantity risk spec
    · rw [if_pos hfits]
      exact ⟨(fun hnone => by cases hnone), fun hsmall => absurd hfits (not_le.2 hsmall)⟩
    · rw [if_neg hfits]
      exact ⟨fun _ => not_le.1 hfits, fun _ => rfl⟩

def fineSpecification (stop : ℚ) (hstop : 0 < stop) (hfinite : (toFloat stop).isFinite = true) :
    SimulationContractSpecification where
  broker := "simulation"
  contractFamily := "JQE_SYNTHETIC_LINEAR"
  quantityBasis := "SIMULATION_UNITS"
  stopSemantic := "PRICE_DISTANCE_CASH_PER_UNIT"
  lossModelId := "jqe:simulation-linear-loss"
  lossModelVersion := 1
  evidenceId := "jqe-owned:simulation-contract-v1"
  stopRiskPerUnit := stop
  minimumQuantity := 1 / 10 ^ 28
  quantityIncrement := 1 / 10 ^ 28
  stop_pos := hstop
  minimum_pos := by norm_num
  increment_pos := by norm_num
  finite := ⟨hfinite, by decide +kernel, by decide +kernel⟩

/-- Two thirds are rounded up, and the check on three times that is rounded down to the risk. -/
theorem two_thirds_over_risk :
    floorSyntheticQuantityExact (.fin 2) (fineSpecification 3 (by norm_num) (by decide +kernel)) =
      .ok (some (6666666666666666666666666667 / 10 ^ 28)) ∧
    ¬Maximal 2 (fineSpecification 3 (by norm_num) (by decide +kernel))
      (some (6666666666666666666666666667 / 10 ^ 28)) := by
  refine ⟨by decide +kernel, fun h => ?_⟩
  have hloss := h.1
  revert hloss
  decide +kernel

/-- A third is rounded down, which is the floor. -/
theorem floorSynthetic_maximal_iff_third : Maximal 1 (fineSpecification 3 (by norm_num) (by decide +kernel))
    (some (3333333333333333333333333333 / 10 ^ 28)) := by
  have h : floorSyntheticQuantityExact (.fin 1) (fineSpecification 3 (by norm_num) (by decide +kernel)) =
      .ok (some (3333333333333333333333333333 / 10 ^ 28)) := by decide +kernel
  have hup : ¬RoundsUp 1 (fineSpecification 3 (by norm_num) (by decide +kernel)) := by
    unfold RoundsUp
    decide +kernel
  have hcount : decimalPrecision.Exact (fitting 1 (fineSpecification 3 (by norm_num) (by decide +kernel))) := by
    unfold Precision.Exact
    decide +kernel
  have hquantity : decimalPrecision.Exact (fittingQuantity 1 (fineSpecification 3 (by norm_num) (by decide +kernel))) := by
    unfold Precision.Exact
    decide +kernel
  refine ((floorSynthetic_maximal_iff 1 _ _ (by norm_num) h).1 ?_).2 ?_
  · exact ⟨by decide +kernel, fun _ => ⟨hcount, hquantity⟩, fun hlt => absurd hlt (by decide +kernel), fun h => absurd h hup⟩
  · exact ⟨fun _ => by decide +kernel, fun h => absurd h hup⟩

end Jqe
