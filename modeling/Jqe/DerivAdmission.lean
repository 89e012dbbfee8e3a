import Jqe.AwareTime
import Jqe.DerivEvidence
/-!
# DerivAdmission — `broker/deriv_proof_registration.py` and `admit_deriv_proof_registry_entry`

The candidate, its independent verification, the revocations, the eligibility and the admission to the registry.  Who
verified when and why is left out; `==` of moments and of semantics is Python's.
-/
namespace Jqe
namespace DerivAdmission

open AwareTime DecimalText

variable [CaseMap] [TimeZones]

/-! ### Candidate and verification -/

structure ProofLineage [CaseMap] [TimeZones] where
  candidateId : String
  candidateMaterialHash : String
  lossModelId : String
  lossModelVersion : ℤ
  evidenceSourceId : String
  sourceAssessmentId : String
  reviewDecisionId : String
  artifactIds : List String
  artifactContentHashes : List String
  claimIds : List String
  applicability : DerivEvidenceApplicability
  validFrom : AwareDatetime
  validUntil : AwareDatetime
  financialSemantics : Option DerivFinancialSemanticsSpecification

/-- The checks that all their constructors make. -/
def ProofLineage.postInit (l : ProofLineage) : Bool :=
  [l.candidateId, l.lossModelId, l.evidenceSourceId, l.sourceAssessmentId, l.reviewDecisionId].all
    (fun text => !blank text) &&
  isSha256 l.candidateMaterialHash && decide (0 < l.lossModelVersion) && identityTuple l.artifactIds &&
  l.artifactContentHashes.all isSha256 && l.artifactIds.length == l.artifactContentHashes.length &&
  identityTuple l.claimIds && applicabilityPostInit l.applicability && l.applicability.complete &&
  decide (l.validFrom.Before l.validUntil) &&
  l.financialSemantics.all fun s => s.applicability == l.applicability

/-- What a candidate and its verification also check of the semantics. -/
def ProofLineage.semanticsBound (l : ProofLineage) : Bool :=
  l.financialSemantics.all fun s =>
    s.semanticId == l.lossModelId && s.semanticVersion == l.lossModelVersion && s.materialHash == l.candidateMaterialHash

structure DerivAuthoritativeProofCandidate [CaseMap] [TimeZones] extends ProofLineage where
  ok : (toProofLineage.postInit && toProofLineage.semanticsBound) = true

inductive DerivIndependentVerificationState where
  | verified
  | rejected
  | insufficient
  deriving DecidableEq

structure DerivIndependentVerificationDecision [CaseMap] [TimeZones] extends ProofLineage where
  verificationDecisionId : String
  state : DerivIndependentVerificationState
  nonblank : blank verificationDecisionId = false
  ok : (toProofLineage.postInit && toProofLineage.semanticsBound) = true

/-! ### Revocations -/

structure GovernanceRevocation [TimeZones] where
  revocationId : String
  targetKind : DerivGovernanceRevocationTarget
  targetId : String
  reason : DerivGovernanceRevocationReason
  revokedBy : String
  revokedAt : AwareDatetime
  supersededById : Option String
  texts_nonblank : blank revocationId = false ∧ blank targetId = false ∧ blank revokedBy = false
  superseded_iff : (reason = .superseded → supersededById.any (fun s => !blank s)) ∧
    (reason ≠ .superseded → supersededById = none)

/-! ### Eligibility -/

inductive DerivProofRegistrationReason where
  | registrationChainComplete
  | sourceAssessmentInvalid
  | sourceAssessmentNotReady
  | advisoryDecisionNotApproved
  | candidateIdentityMismatch
  | evidenceIdentityMismatch
  | claimSetMismatch
  | applicabilityMismatch
  | independentVerificationMissing
  | independentVerificationNotVerified
  | independentVerificationMismatch
  | candidateRevoked
  | independentVerificationRevoked
  | revocationRecordConflict
  | financialSemanticsMissing
  | semanticIdMismatch
  | semanticVersionMismatch
  | equationIdentityMismatch
  | operandSchemaMismatch
  | unitSchemaMismatch
  | outputSemanticMismatch
  | domainMismatch
  | roundingPolicyMismatch
  deriving DecidableEq

structure DerivProofRegistrationEligibility where
  eligible : Bool
  reasonCodes : Finset DerivProofRegistrationReason
  ok : reasonCodes.Nonempty ∧ (eligible = true → reasonCodes = {.registrationChainComplete}) ∧
    (eligible = false → .registrationChainComplete ∉ reasonCodes)
  deriving DecidableEq

def DerivProofRegistrationEligibility.complete : DerivProofRegistrationEligibility :=
  ⟨true, {.registrationChainComplete}, by simp⟩

def semanticDifferences (left right : SemanticsFields ℚ) : Finset DerivProofRegistrationReason :=
  flag (left.semanticId ≠ right.semanticId) .semanticIdMismatch ∪
  flag (left.semanticVersion ≠ right.semanticVersion) .semanticVersionMismatch ∪
  flag (left.equationFamily ≠ right.equationFamily ∨ left.equationIdentityHash ≠ right.equationIdentityHash)
    .equationIdentityMismatch ∪
  flag (left.operands.map (fun o => (o.operandId, o.semanticId, o.role, o.position, o.required)) ≠
    right.operands.map (fun o => (o.operandId, o.semanticId, o.role, o.position, o.required))) .operandSchemaMismatch ∪
  flag (left.operands.map (·.unit) ≠ right.operands.map (·.unit) ∨ left.output.unit ≠ right.output.unit)
    .unitSchemaMismatch ∪
  flag (left.output.semantic ≠ right.output.semantic ∨ left.output.currencyBinding ≠ right.output.currencyBinding ∨
    left.output.explicitCurrency ≠ right.output.explicitCurrency ∨ left.output.signed ≠ right.output.signed ∨
    left.output.zeroAllowed ≠ right.output.zeroAllowed) .outputSemanticMismatch ∪
  flag (left.operands.map (fun o => (o.domain, o.lowerBound, o.upperBound, o.zeroAllowed)) ≠
    right.operands.map (fun o => (o.domain, o.lowerBound, o.upperBound, o.zeroAllowed)) ∨
    left.domainConstraintIds ≠ right.domainConstraintIds) .domainMismatch ∪
  flag (left.rounding ≠ right.rounding) .roundingPolicyMismatch

def semanticMismatchReasons (left right : Option DerivFinancialSemanticsSpecification) :
    Finset DerivProofRegistrationReason :=
  if SameSemantics left right then ∅
  else
    match left, right with
    | some left, some right =>
      if semanticDifferences left.key right.key = ∅ then {.candidateIdentityMismatch}
      else semanticDifferences left.key right.key
    | _, _ => {.financialSemanticsMissing}

/-- What `==` of a candidate's and a verification's lineage leaves to the applicability and the semantics. -/
def SameLineage (l m : ProofLineage) : Prop :=
  l.candidateId = m.candidateId ∧ l.candidateMaterialHash = m.candidateMaterialHash ∧ l.lossModelId = m.lossModelId ∧
  l.lossModelVersion = m.lossModelVersion ∧ l.evidenceSourceId = m.evidenceSourceId ∧
  l.sourceAssessmentId = m.sourceAssessmentId ∧ l.reviewDecisionId = m.reviewDecisionId ∧
  l.artifactIds = m.artifactIds ∧ l.artifactContentHashes = m.artifactContentHashes ∧ l.claimIds = m.claimIds ∧
  l.validFrom.Same m.validFrom ∧ l.validUntil.Same m.validUntil

instance (l m : ProofLineage) : Decidable (SameLineage l m) := inferInstanceAs (Decidable (_ ∧ _))

structure RegistrationChain [CaseMap] [TimeZones] where
  candidate : DerivAuthoritativeProofCandidate
  verification : DerivIndependentVerificationDecision
  sourceAssessment : DerivProofReviewAssessment
  reviewDecision : DerivEvidenceReviewDecision
  evidenceRegistry : DerivEvidenceRegistry
  revocations : List GovernanceRevocation

def RegistrationChain.Revoked (c : RegistrationChain) (kind : DerivGovernanceRevocationTarget) (id : String) : Prop :=
  ∃ record ∈ c.revocations, record.targetKind = kind ∧ record.targetId = id

instance (c : RegistrationChain) (kind : DerivGovernanceRevocationTarget) (id : String) : Decidable (c.Revoked kind id) :=
  inferInstanceAs (Decidable (∃ _ ∈ _, _))

/-- What `validate_deriv_proof_registration_eligibility` finds against a chain with a verification. -/
def RegistrationChain.reasons (c : RegistrationChain) : Finset DerivProofRegistrationReason :=
  let candidate := c.candidate.toProofLineage
  let verification := c.verification.toProofLineage
  let semanticReasons := semanticMismatchReasons candidate.financialSemantics verification.financialSemantics
  flag (proofReviewValid c.sourceAssessment.toAssessmentFields c.reviewDecision.toDecisionFields c.evidenceRegistry =
    false) .sourceAssessmentInvalid ∪
  flag (c.sourceAssessment.state ≠ .readyForAuthoritativeProofReview) .sourceAssessmentNotReady ∪
  flag (c.reviewDecision.state ≠ .approvedForProofReview) .advisoryDecisionNotApproved ∪
  flag (candidate.sourceAssessmentId ≠ c.sourceAssessment.assessmentId ∨
    candidate.reviewDecisionId ≠ c.reviewDecision.decisionId) .candidateIdentityMismatch ∪
  flag (candidate.artifactIds ≠ c.sourceAssessment.artifactIds ∨
    candidate.artifactContentHashes ≠ c.sourceAssessment.artifactContentHashes) .evidenceIdentityMismatch ∪
  flag (candidate.claimIds ≠ c.sourceAssessment.claimIds) .claimSetMismatch ∪
  flag (candidate.applicability ≠ c.sourceAssessment.applicability) .applicabilityMismatch ∪
  semanticMismatchReasons candidate.financialSemantics c.sourceAssessment.financialSemantics ∪
  flag (c.verification.state ≠ .verified) .independentVerificationNotVerified ∪
  flag (¬SameLineage verification candidate) .independentVerificationMismatch ∪
  flag (verification.applicability ≠ candidate.applicability) .applicabilityMismatch ∪
  (semanticReasons ∪ flag (semanticReasons ≠ ∅) .independentVerificationMismatch) ∪
  flag (¬(c.revocations.map (·.revocationId)).Nodup) .revocationRecordConflict ∪
  flag (c.Revoked .candidate candidate.candidateId) .candidateRevoked ∪
  flag (c.Revoked .independentVerification c.verification.verificationDecisionId) .independentVerificationRevoked

omit [CaseMap] [TimeZones] in
theorem mem_flag {R : Type} {c : Prop} [Decidable c] {reason x : R} : x ∈ flag c reason ↔ c ∧ x = reason := by
  unfold flag
  split
  · rename_i hc
    simp [hc]
  · rename_i hc
    simp [hc]

omit [CaseMap] [TimeZones] in
theorem complete_not_mem_differences (left right : SemanticsFields ℚ) :
    .registrationChainComplete ∉ semanticDifferences left right := by
  simp [semanticDifferences, mem_flag]

omit [TimeZones] in
theorem complete_not_mem_mismatch (left right : Option DerivFinancialSemanticsSpecification) :
    .registrationChainComplete ∉ semanticMismatchReasons left right := by
  unfold semanticMismatchReasons
  split
  · exact Finset.notMem_empty _
  · split
    · split
      · simp
      · exact complete_not_mem_differences _ _
    · simp

theorem RegistrationChain.complete_not_mem_reasons (c : RegistrationChain) :
    .registrationChainComplete ∉ c.reasons := by
  simp [reasons, mem_flag, complete_not_mem_mismatch]

/-- **`validate_deriv_proof_registration_eligibility`**, which never says a complete chain among other reasons. -/
def RegistrationChain.eligibility (c : RegistrationChain) : DerivProofRegistrationEligibility :=
  if h : c.reasons = ∅ then .complete
  else ⟨false, c.reasons, Finset.nonempty_iff_ne_empty.2 h, by simp, fun _ => c.complete_not_mem_reasons⟩

/-! ### The registry -/

structure AdmissionFields [CaseMap] [TimeZones] extends ProofLineage where
  admissionId : String
  proofId : String
  verificationDecisionId : String
  admittedBy : String
  admittedAt : AwareDatetime

/-- `DerivProofAdmissionRequest.__post_init__`, which every entry passes. -/
def AdmissionFields.postInit (m : AdmissionFields) : Bool :=
  [m.admissionId, m.proofId, m.verificationDecisionId, m.admittedBy].all (fun text => !blank text) &&
  m.toProofLineage.postInit

structure DerivProofAdmissionRequest [CaseMap] [TimeZones] extends AdmissionFields where
  ok : toAdmissionFields.postInit = true

/-- An entry; its eligibility is the complete one. -/
structure DerivProofRegistryEntry [CaseMap] [TimeZones] extends AdmissionFields where
  ok : toAdmissionFields.postInit = true

/-- `entry.authority_identity() == _request_authority_identity(request)`. -/
def SameAuthority (m n : AdmissionFields) : Prop :=
  m.proofId = n.proofId ∧ m.verificationDecisionId = n.verificationDecisionId ∧
  SameLineage m.toProofLineage n.toProofLineage ∧ m.applicability = n.applicability ∧
  SameSemantics m.financialSemantics n.financialSemantics

instance (m n : AdmissionFields) : Decidable (SameAuthority m n) := inferInstanceAs (Decidable (_ ∧ _))

structure DerivProofRegistryState [CaseMap] [TimeZones] where
  entries : List DerivProofRegistryEntry
  proofIds : (entries.map (·.proofId)).Nodup
  admissionIds : (entries.map (·.admissionId)).Nodup
  candidateIds : (entries.map (·.candidateId)).Nodup
  ordered : entries.Pairwise fun a b => a.proofId ≤ b.proofId

def DerivProofRegistryState.empty : DerivProofRegistryState :=
  ⟨[], List.nodup_nil, List.nodup_nil, List.nodup_nil, .nil⟩

def registryStateOf (entries : List DerivProofRegistryEntry) : Except PyExc DerivProofRegistryState :=
  if hproof : (entries.map (·.proofId)).Nodup then
    if hadmission : (entries.map (·.admissionId)).Nodup then
      if hcandidate : (entries.map (·.candidateId)).Nodup then
        if hordered : entries.Pairwise fun a b => a.proofId ≤ b.proofId then
          .ok ⟨entries, hproof, hadmission, hcandidate, hordered⟩
        else .error (.exception "registry entries must use deterministic proof-ID ordering")
      else .error (.exception "duplicate candidate ID is not allowed")
    else .error (.exception "duplicate admission ID is not allowed")
  else .error (.exception "duplicate proof ID is not allowed")

/-! ### The admission -/

inductive DerivProofAdmissionReason where
  | eligibilityInvalid
  | eligibilityStale
  | candidateMismatch
  | materialHashMismatch
  | verificationMismatch
  | advisoryChainMismatch
  | evidenceIdentityMismatch
  | claimSetMismatch
  | applicabilityMismatch
  | lossModelIdentityMismatch
  | candidateRevoked
  | verificationRevoked
  | verificationSuperseded
  | proofRevoked
  | proofIdConflict
  | registryStateConflict
  | revocationRecordConflict
  deriving DecidableEq

inductive DerivProofAdmissionResult [CaseMap] [TimeZones] where
  | admitted (entry : DerivProofRegistryEntry)
  | alreadyAdmitted (entry : DerivProofRegistryEntry)
  | rejected (reasons : Finset DerivProofAdmissionReason)

def revocationReasons (request : AdmissionFields) (verificationDecisionId : String) (record : GovernanceRevocation) :
    Finset DerivProofAdmissionReason :=
  if record.targetKind = .candidate ∧ record.targetId = request.candidateId then {.candidateRevoked}
  else if record.targetKind = .independentVerification ∧ record.targetId = verificationDecisionId then
    {if record.reason = .superseded then .verificationSuperseded else .verificationRevoked}
  else if record.targetKind = .registeredProof ∧ record.targetId = request.proofId then {.proofRevoked}
  else ∅

def validateRevocations (request : AdmissionFields) (verificationDecisionId : String)
    (revocations : List GovernanceRevocation) : Finset DerivProofAdmissionReason :=
  flag (¬(revocations.map (·.revocationId)).Nodup) .revocationRecordConflict ∪
  (revocations.map (revocationReasons request verificationDecisionId)).foldr (· ∪ ·) ∅

def admissionReasons (request : AdmissionFields) (eligibility : DerivProofRegistrationEligibility)
    (c : RegistrationChain) : Finset DerivProofAdmissionReason :=
  let candidate := c.candidate.toProofLineage
  flag (eligibility.eligible = false) .eligibilityInvalid ∪
  flag (c.eligibility ≠ eligibility ∨ c.eligibility.eligible = false) .eligibilityStale ∪
  flag (request.candidateId ≠ candidate.candidateId) .candidateMismatch ∪
  flag (request.candidateMaterialHash ≠ candidate.candidateMaterialHash) .materialHashMismatch ∪
  flag (request.verificationDecisionId ≠ c.verification.verificationDecisionId) .verificationMismatch ∪
  flag (request.sourceAssessmentId ≠ c.sourceAssessment.assessmentId ∨
    request.reviewDecisionId ≠ c.reviewDecision.decisionId) .advisoryChainMismatch ∪
  flag (request.artifactIds ≠ candidate.artifactIds ∨ request.artifactContentHashes ≠ candidate.artifactContentHashes)
    .evidenceIdentityMismatch ∪
  flag (request.claimIds ≠ candidate.claimIds) .claimSetMismatch ∪
  flag (request.applicability ≠ candidate.applicability) .applicabilityMismatch ∪
  flag (request.lossModelId ≠ candidate.lossModelId ∨ request.lossModelVersion ≠ candidate.lossModelVersion ∨
    request.evidenceSourceId ≠ candidate.evidenceSourceId ∨ ¬request.validFrom.Same candidate.validFrom ∨
    ¬request.validUntil.Same candidate.validUntil) .lossModelIdentityMismatch ∪
  flag (¬SameSemantics request.financialSemantics candidate.financialSemantics ∨
    ¬SameSemantics candidate.financialSemantics c.verification.financialSemantics ∨
    ¬SameSemantics candidate.financialSemantics c.sourceAssessment.financialSemantics ∨
    ¬SameSemantics candidate.financialSemantics c.reviewDecision.financialSemantics) .lossModelIdentityMismatch ∪
  validateRevocations request c.verification.verificationDecisionId c.revocations

structure AdmissionCall [CaseMap] [TimeZones] where
  request : DerivProofAdmissionRequest
  eligibility : DerivProofRegistrationEligibility
  chain : RegistrationChain

def AdmissionCall.entry (call : AdmissionCall) : DerivProofRegistryEntry :=
  ⟨call.request.toAdmissionFields, call.request.ok⟩

/-- What speaks against a call that is no exact duplicate. -/
def conflictReasons (registry : DerivProofRegistryState) (call : AdmissionCall) : Finset DerivProofAdmissionReason :=
  admissionReasons call.request.toAdmissionFields call.eligibility call.chain ∪
  flag (∃ e ∈ registry.entries, e.proofId = call.request.proofId) .proofIdConflict ∪
  flag (∃ e ∈ registry.entries, e.admissionId = call.request.admissionId ∨ e.candidateId = call.request.candidateId)
    .registryStateConflict

def admitDerivProofRegistryEntry (registry : DerivProofRegistryState) (call : AdmissionCall) :
    Except PyExc (DerivProofAdmissionResult × DerivProofRegistryState) :=
  let reasons := admissionReasons call.request.toAdmissionFields call.eligibility call.chain
  let admission : Except PyExc (DerivProofAdmissionResult × DerivProofRegistryState) :=
    if conflictReasons registry call ≠ ∅ then .ok (.rejected (conflictReasons registry call), registry)
    else do
      let registry' ← registryStateOf
        ((registry.entries ++ [call.entry]).mergeSort fun a b => decide (a.proofId ≤ b.proofId))
      return (.admitted call.entry, registry')
  match registry.entries.find? fun e => e.proofId == call.request.proofId with
  | some existing =>
    if SameAuthority existing.toAdmissionFields call.request.toAdmissionFields then
      if reasons ≠ ∅ then .ok (.rejected reasons, registry) else .ok (.alreadyAdmitted existing, registry)
    else admission
  | none => admission

def admitAll (registry : DerivProofRegistryState) : List AdmissionCall → Except PyExc DerivProofRegistryState
  | [] => .ok registry
  | call :: calls => do
    let outcome ← admitDerivProofRegistryEntry registry call
    admitAll outcome.2 calls

end DerivAdmission
end Jqe
