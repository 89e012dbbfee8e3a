import Jqe.DerivProofStore
/-!
# DerivTerms — offline terms from durable proofs (`broker/deriv_execution_terms_service.py`)

`OfflineDerivExecutionTermsService.evaluate` over what the store loads, with the lookup of `deriv_proof_registry`, the
validation of `deriv_proof_consumption` and the terms of `deriv_execution_terms`.  A `Decimal` is a rational, a moment a
number; the financial semantics are any type that shows what the terms are checked against.
-/
namespace Jqe

inductive DerivFinancialUnit where
  | accountCurrencyAmount
  | stakeCurrencyAmount
  | price
  | priceDistance
  | ratio
  | multiplier
  | contractQuantity
  | percentage
  deriving DecidableEq

inductive DerivOutputSemantic where
  | syntheticMonetaryLossForSuppliedInputs
  | syntheticMaximumMonetaryLoss
  | syntheticMonetaryProfitForSuppliedInputs
  deriving DecidableEq

inductive DerivCurrencyBinding where
  | applicabilityAccountCurrency
  | explicitCurrency
  | notApplicable
  deriving DecidableEq

/-- `DerivFinancialOutput`, as far as the terms look at it. -/
structure DerivFinancialOutput where
  semantic : DerivOutputSemantic
  unit : DerivFinancialUnit
  currencyBinding : DerivCurrencyBinding
  deriving DecidableEq

/-- `DerivFinancialSemanticsSpecification`, as far as the terms look at it. -/
class DerivTermsSemantics (S : Type) extends DerivSemantics S where
  output : S → DerivFinancialOutput
  takeProfitOutput : S → Option DerivFinancialOutput
  takeProfitSemanticId : S → Option String
  maximumLossOutput : S → Option DerivFinancialOutput
  maximumLossSemanticId : S → Option String
  allowedMultiplierValues : S → List ℚ

/-- `DerivSyntheticFinancialPropositions`, whose classification is the synthetic one. -/
structure DerivSyntheticFinancialPropositions where
  stake : ℚ
  multiplier : ℚ
  stopLossAmount : ℚ
  takeProfitAmount : ℚ
  maximumLoss : Option ℚ
  signs : 0 < stake ∧ 0 < multiplier ∧ 0 ≤ stopLossAmount ∧ 0 ≤ takeProfitAmount
  loss : ∀ l ∈ maximumLoss, 0 ≤ l

structure DerivExecutionTermsServiceRequest where
  applicability : DerivEvidenceApplicability
  evaluatedAt : ℤ
  authorizedRiskAmount : ℚ
  propositions : Option DerivSyntheticFinancialPropositions
  accountScope : Option String
  complete : applicability.complete = true
  risk : 0 < authorizedRiskAmount
  scope : ∀ s ∈ accountScope, blank s = false

section

variable {S : Type} [DerivTermsSemantics S]

/-! ## The lookup -/

def DerivProofGovernanceRevocation.targets (r : DerivProofGovernanceRevocation) (e : DerivProofRegistryEntry S) : Bool :=
  (r.targetKind == .candidate && r.targetId == e.candidateId) ||
    (r.targetKind == .independentVerification && r.targetId == e.verificationDecisionId) ||
    (r.targetKind == .registeredProof && r.targetId == e.proofId)

inductive DerivProofLookupResult (S : Type) [DerivSemantics S] where
  | activeEntryFound (entry : DerivProofRegistryEntry S)
  | noEntry
  | revokedEntry (entry : DerivProofRegistryEntry S)
  | conflictingState

def lookupDerivProofRegistry (registry : DerivProofRegistryState S) (applicability : DerivEvidenceApplicability)
    (revocations : List DerivProofGovernanceRevocation) : DerivProofLookupResult S :=
  if !decide (revocations.map fun r => r.revocationId).Nodup then .conflictingState
  else
    match registry.entries.filter fun e => e.applicability == applicability with
    | [] => .noEntry
    | [entry] => if revocations.any (fun r => r.targets entry) then .revokedEntry entry else .activeEntryFound entry
    | _ :: _ :: _ => .conflictingState

/-! ## The consumption -/

/-- `DerivProofConsumptionRequest`: the lineage of an entry, an applicability and a moment. -/
structure DerivProofConsumptionRequest (S : Type) [DerivSemantics S] where
  lineage : DerivProofMaterial S
  applicability : DerivEvidenceApplicability
  evaluatedAt : ℤ

def revocationsConflict : List DerivProofGovernanceRevocation → List DerivProofGovernanceRevocation → Bool
  | _, [] => false
  | seen, record :: records =>
    if seen.any fun r => r.revocationId == record.revocationId then true
    else
      match seen.find? fun r => r.targetKind == record.targetKind && r.targetId == record.targetId with
      | some existing =>
        if existing.reason != record.reason || existing.supersededById != record.supersededById then true
        else revocationsConflict (record :: seen) records
      | none => revocationsConflict (record :: seen) records

inductive DerivProofConsumptionReason where
  | exactActiveProof
  | noMatchingProof
  | proofRevoked
  | candidateRevoked
  | verificationRevoked
  | verificationSuperseded
  | applicabilityMismatch
  | materialHashMismatch
  | lineageMismatch
  | registryConflict
  | revocationConflict
  | malformedRegistryState
  | proofNotYetEffective
  | proofExpired
  deriving DecidableEq

/-- `DerivProofConsumptionResult`; a list of reasons stands for their set. -/
inductive DerivProofConsumptionResult (S : Type) [DerivSemantics S] where
  | proofAvailable (entry : DerivProofRegistryEntry S)
  | proofUnavailable (reasons : List DerivProofConsumptionReason)
  | proofRevoked (reasons : List DerivProofConsumptionReason)
  | proofConflict (reasons : List DerivProofConsumptionReason)

def revocationReasons (e : DerivProofRegistryEntry S) (revocations : List DerivProofGovernanceRevocation) :
    List DerivProofConsumptionReason :=
  revocations.filterMap fun record =>
    if record.targetKind == .registeredProof && record.targetId == e.proofId then some .proofRevoked
    else if record.targetKind == .candidate && record.targetId == e.candidateId then some .candidateRevoked
    else if record.targetKind == .independentVerification && record.targetId == e.verificationDecisionId then
      some (if record.reason = .superseded then .verificationSuperseded else .verificationRevoked)
    else none

variable [DecidableEq S]

/-- `_registry_is_well_formed`: its entries make the registry again. -/
def registryIsWellFormed (registry : DerivProofRegistryState S) : Bool :=
  match registryStateOf registry.entries with
  | .ok rebuilt => rebuilt == registry
  | .error _ => false

def unavailableReasons (request : DerivProofConsumptionRequest S) (e : DerivProofRegistryEntry S) :
    List DerivProofConsumptionReason :=
  let l := request.lineage
  (if l.candidateMaterialHash != e.candidateMaterialHash || l.artifactContentHashes != e.artifactContentHashes then
    [.materialHashMismatch] else []) ++
  (if l.proofId != e.proofId || l.admissionId != e.admissionId || l.candidateId != e.candidateId ||
      l.verificationDecisionId != e.verificationDecisionId || l.sourceAssessmentId != e.sourceAssessmentId ||
      l.reviewDecisionId != e.reviewDecisionId || l.artifactIds != e.artifactIds || l.claimIds != e.claimIds ||
      l.lossModelId != e.lossModelId || l.lossModelVersion != e.lossModelVersion ||
      l.evidenceSourceId != e.evidenceSourceId || l.validFrom != e.validFrom || l.validUntil != e.validUntil ||
      decide (l.financialSemantics ≠ e.financialSemantics) then
    [.lineageMismatch] else []) ++
  (if request.evaluatedAt < e.validFrom then [.proofNotYetEffective] else []) ++
  (if e.validUntil < request.evaluatedAt then [.proofExpired] else [])

/-- **`validate_authoritative_proof_for_capability`.** -/
def validateAuthoritativeProof (registry : DerivProofRegistryState S) (request : DerivProofConsumptionRequest S)
    (revocations : List DerivProofGovernanceRevocation) : DerivProofConsumptionResult S :=
  if !registryIsWellFormed registry then .proofUnavailable [.malformedRegistryState]
  else if revocationsConflict [] revocations then .proofConflict [.revocationConflict]
  else
    match lookupDerivProofRegistry registry request.applicability revocations with
    | .conflictingState => .proofConflict [.registryConflict]
    | .noEntry =>
      .proofUnavailable [if registry.entries.isEmpty then .noMatchingProof else .applicabilityMismatch]
    | .revokedEntry entry =>
      .proofRevoked (if (revocationReasons entry revocations).isEmpty then [.proofRevoked]
        else revocationReasons entry revocations)
    | .activeEntryFound entry =>
      if (unavailableReasons request entry).isEmpty then .proofAvailable entry
      else .proofUnavailable (unavailableReasons request entry)

/-! ## The terms -/

/-- `DerivExecutionTerms`; the stake's unit is the Deriv one. -/
structure DerivExecutionTerms where
  environment : String
  accountScope : Option String
  accountCurrency : String
  underlyingSymbol : String
  contractType : String
  stake : ℚ
  multiplier : ℚ
  stopLossAmount : ℚ
  takeProfitAmount : ℚ
  maximumLoss : ℚ
  proofId : String
  materialHash : String
  lossModelId : String
  lossModelVersion : ℤ
  applicability : DerivEvidenceApplicability
  deriving DecidableEq

def DerivExecutionTerms.postInit (t : DerivExecutionTerms) : Bool :=
  [t.environment, t.accountCurrency, t.underlyingSymbol, t.contractType, t.proofId, t.lossModelId].all
    (fun text => !blank text) &&
  (t.environment == "demo" || t.environment == "real") && t.accountScope.all (fun s => !blank s) &&
  (t.contractType == "MULTUP" || t.contractType == "MULTDOWN") &&
  decide (0 < t.stake) && decide (0 < t.multiplier) && decide (0 ≤ t.stopLossAmount) &&
  decide (0 ≤ t.takeProfitAmount) && decide (0 ≤ t.maximumLoss) && isSha256 t.materialHash &&
  decide (0 < t.lossModelVersion) && t.applicability.environment == some t.environment &&
  t.applicability.accountCurrency == some t.accountCurrency && t.applicability.symbol == some t.underlyingSymbol &&
  t.applicability.contractFamily == some t.contractType

inductive DerivExecutionTermsServiceState where
  | termsAvailable
  | proofUnavailable
  | proofRevoked
  | proofConflict
  | proofStoreUnavailable
  | modelUnsupported
  | financialInputInvalid
  | riskBoundExceeded
  deriving DecidableEq

structure DerivExecutionTermsServiceResult where
  state : DerivExecutionTermsServiceState
  reason : String
  terms : Option DerivExecutionTerms
  deriving DecidableEq

def monetary (output : DerivFinancialOutput) (semantic : DerivOutputSemantic) : Bool :=
  output.semantic == semantic && output.unit == .accountCurrencyAmount &&
    output.currencyBinding == .applicabilityAccountCurrency

/-- What the semantics have to establish for the multiplier of the propositions. -/
def termsSupported (semantics : S) (propositions : DerivSyntheticFinancialPropositions) : Bool :=
  monetary (DerivTermsSemantics.output semantics) .syntheticMonetaryLossForSuppliedInputs &&
    (DerivTermsSemantics.takeProfitOutput semantics).any
      (fun o => monetary o .syntheticMonetaryProfitForSuppliedInputs) &&
    (DerivTermsSemantics.maximumLossOutput semantics).any (fun o => monetary o .syntheticMaximumMonetaryLoss) &&
    (DerivTermsSemantics.takeProfitSemanticId semantics).getD "" != "" &&
    (DerivTermsSemantics.maximumLossSemanticId semantics).getD "" != "" &&
    !(DerivTermsSemantics.allowedMultiplierValues semantics).isEmpty &&
    (DerivTermsSemantics.allowedMultiplierValues semantics).contains propositions.multiplier

def termsOf (e : DerivProofRegistryEntry S) (p : DerivSyntheticFinancialPropositions) (maximumLoss : ℚ)
    (accountScope : Option String) : DerivExecutionTerms where
  environment := e.applicability.environment.getD ""
  accountScope := accountScope
  accountCurrency := e.applicability.accountCurrency.getD ""
  underlyingSymbol := e.applicability.symbol.getD ""
  contractType := e.applicability.contractFamily.getD ""
  stake := p.stake
  multiplier := p.multiplier
  stopLossAmount := p.stopLossAmount
  takeProfitAmount := p.takeProfitAmount
  maximumLoss := maximumLoss
  proofId := e.proofId
  materialHash := e.candidateMaterialHash
  lossModelId := e.lossModelId
  lossModelVersion := e.lossModelVersion
  applicability := e.applicability

/-- **`evaluate_synthetic_deriv_execution_terms`**, with the states of the service. -/
def evaluateSyntheticTerms (proof : DerivProofConsumptionResult S) (semantics : S)
    (propositions : Option DerivSyntheticFinancialPropositions) (authorizedRiskAmount : ℚ)
    (accountScope : Option String) : Except PyExc DerivExecutionTermsServiceResult :=
  if authorizedRiskAmount < 0 then .error (.exception "authorized_risk_amount must be nonnegative")
  else
    match proof with
    | .proofAvailable entry =>
      if entry.financialSemantics ≠ some semantics ∨
          DerivSemantics.materialHash semantics ≠ entry.candidateMaterialHash then
        .ok ⟨.proofUnavailable, "Financial semantics do not match consumed proof lineage", none⟩
      else
        match propositions with
        | none => .ok ⟨.modelUnsupported, "No authoritative financial propositions are available", none⟩
        | some p =>
          if !termsSupported semantics p then
            .ok ⟨.modelUnsupported, "Proof does not establish take-profit and multiplier authority", none⟩
          else
            match p.maximumLoss with
            | none => .ok ⟨.financialInputInvalid, "Maximum loss is unavailable", none⟩
            | some maximumLoss =>
              if authorizedRiskAmount < maximumLoss then
                .ok ⟨.riskBoundExceeded, "Maximum loss exceeds authorized risk", none⟩
              else if (termsOf entry p maximumLoss accountScope).postInit then
                .ok ⟨.termsAvailable, "Synthetic offline financial propositions validated",
                  some (termsOf entry p maximumLoss accountScope)⟩
              else .error (.exception "execution terms are invalid")
    | _ => .ok ⟨.proofUnavailable, "An exact active proof is required", none⟩

/-! ## The service -/

/-- `OfflineDerivExecutionTermsService.evaluate` from the entry of its lookup on. -/
def evaluateEntry (durable : DerivDurableProofState S) (request : DerivExecutionTermsServiceRequest)
    (entry : DerivProofRegistryEntry S) : Except PyExc DerivExecutionTermsServiceResult :=
  let proof := validateAuthoritativeProof durable.registry
    ⟨entry.toDerivProofMaterial, request.applicability, request.evaluatedAt⟩ durable.revocations
  match proof with
  | .proofRevoked _ => .ok ⟨.proofRevoked, "Exact proof authority is revoked", none⟩
  | .proofConflict _ => .ok ⟨.proofConflict, "Exact proof authority is conflicting", none⟩
  | .proofUnavailable _ =>
    .ok ⟨.proofUnavailable, "Exact proof authority is unavailable or outside its validity window", none⟩
  | .proofAvailable _ =>
    match entry.financialSemantics with
    | none => .ok ⟨.modelUnsupported, "Consumed proof has no approved financial semantics", none⟩
    | some semantics =>
      evaluateSyntheticTerms proof semantics request.propositions request.authorizedRiskAmount request.accountScope

/-- `OfflineDerivExecutionTermsService.evaluate` on what the store's `load` gives. -/
def evaluateTerms (loaded : Except PyExc (DerivDurableProofState S)) (request : DerivExecutionTermsServiceRequest) :
    Except PyExc DerivExecutionTermsServiceResult :=
  match loaded with
  | .error _ => .ok ⟨.proofStoreUnavailable, "Durable proof store unavailable", none⟩
  | .ok durable =>
    match lookupDerivProofRegistry durable.registry request.applicability durable.revocations with
    | .noEntry => .ok ⟨.proofUnavailable, "No exact proof applicability is available", none⟩
    | .conflictingState => .ok ⟨.proofConflict, "Durable proof authority is conflicting", none⟩
    | .activeEntryFound entry | .revokedEntry entry => evaluateEntry durable request entry

variable [PayloadHash S]

def evaluate (request : DerivExecutionTermsServiceRequest) :
    Coro.Prog (ProofReq S) ProofReq.Ans PyExc DerivExecutionTermsServiceResult :=
  loadProofState.bindAny fun loaded => Coro.Prog.ofExcept (evaluateTerms loaded request)

end

end Jqe
