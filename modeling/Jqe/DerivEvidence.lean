import Jqe.DerivSpecification
/-!
# DerivEvidence — `broker/deriv_evidence.py`, `deriv_evidence_review.py` and `deriv_proof_review.py`

The evidence registry, the decision over it and the assessment of the decision.  Who reviewed when and why is left out,
as is what an artifact says of its source; a set of reasons is a `Finset`.
-/
namespace Jqe
namespace DerivAdmission

variable [CaseMap]

inductive DerivEvidenceReviewState where
  | unreviewed
  | reviewed
  | rejected
  deriving DecidableEq

inductive DerivEvidenceClaimType where
  | contractFamilyAvailability
  | quantityBasisSemantics
  | stopLossSemantics
  | multiplierSemantics
  | symbolEligibility
  | durationRequirements
  | currencySemantics
  | minimumStake
  | stakeIncrementPrecision
  | lossModelDescriptionIdentity
  deriving DecidableEq

structure DerivEvidenceClaim where
  claimId : String
  artifactId : String
  claimType : DerivEvidenceClaimType
  subject : String
  value : String
  applicability : DerivEvidenceApplicability
  reviewState : DerivEvidenceReviewState
  deriving DecidableEq

structure DerivEvidenceArtifact where
  artifactId : String
  contentHash : String
  claims : List DerivEvidenceClaim
  reviewState : DerivEvidenceReviewState
  nonblank : blank artifactId = false
  sha256 : isSha256 contentHash = true
  claimIds : (claims.map (·.claimId)).Nodup
  own : ∀ claim ∈ claims, claim.artifactId = artifactId

structure DerivEvidenceRegistry where
  artifacts : List DerivEvidenceArtifact
  artifactIds : (artifacts.map (·.artifactId)).Nodup
  contentHashes : (artifacts.map (·.contentHash)).Nodup

omit [CaseMap] in
/-- **`get_by_id`**, under the stripped id. -/
def DerivEvidenceRegistry.getById (registry : DerivEvidenceRegistry) (artifactId : String) : Option DerivEvidenceArtifact :=
  registry.artifacts.find? fun artifact => artifact.artifactId == strip artifactId

def flag {R : Type} (c : Prop) [Decidable c] (reason : R) : Finset R := if c then {reason} else ∅

def evidenceTexts (artifactIds artifactContentHashes claimIds : List String) : Bool :=
  artifactIds.all (fun id => !blank id) && decide artifactIds.Nodup && artifactContentHashes.all isSha256 &&
    artifactIds.length == artifactContentHashes.length && claimIds.all (fun id => !blank id) && decide claimIds.Nodup

/-! ### The decision -/

inductive DerivEvidenceDecisionState where
  | approvedForProofReview
  | rejected
  | insufficient
  deriving DecidableEq

inductive DerivEvidenceReviewReason where
  | missingRequiredClaim
  | artifactRejected
  | claimRejected
  | artifactUnreviewed
  | claimUnreviewed
  | applicabilityMismatch
  | contentIdentityMismatch
  | duplicateOrConflictingClaim
  | evidenceSetComplete
  deriving DecidableEq

structure DecisionFields [CaseMap] where
  decisionId : String
  artifactIds : List String
  artifactContentHashes : List String
  claimIds : List String
  state : DerivEvidenceDecisionState
  reasonCodes : Finset DerivEvidenceReviewReason
  applicability : DerivEvidenceApplicability
  financialSemantics : Option DerivFinancialSemanticsSpecification

def DecisionFields.postInit (d : DecisionFields) : Bool :=
  !blank d.decisionId && d.financialSemantics.all (fun s => s.applicability == d.applicability) &&
  evidenceTexts d.artifactIds d.artifactContentHashes d.claimIds && decide d.reasonCodes.Nonempty &&
  if d.state = .approvedForProofReview then
    !d.artifactIds.isEmpty && !d.claimIds.isEmpty && d.reasonCodes == {.evidenceSetComplete}
  else decide (.evidenceSetComplete ∉ d.reasonCodes)

structure DerivEvidenceReviewDecision [CaseMap] extends DecisionFields where
  ok : toDecisionFields.postInit = true

def artifactReasons (registry : DerivEvidenceRegistry) (artifactId expectedHash : String) :
    Finset DerivEvidenceReviewReason :=
  match registry.getById artifactId with
  | none => {.contentIdentityMismatch}
  | some artifact =>
    flag (artifact.contentHash ≠ expectedHash) .contentIdentityMismatch ∪
    if artifact.reviewState = .rejected then {.artifactRejected}
    else flag (artifact.reviewState ≠ .reviewed) .artifactUnreviewed

def foundArtifacts (registry : DerivEvidenceRegistry) (artifactIds : List String) : List DerivEvidenceArtifact :=
  artifactIds.filterMap registry.getById

def claimsById (artifacts : List DerivEvidenceArtifact) : List (String × DerivEvidenceClaim) :=
  (artifacts.flatMap (·.claims)).foldl (fun d claim => dictSet d claim.claimId claim) []

def claimReasons (claims : List (String × DerivEvidenceClaim)) (applicability : DerivEvidenceApplicability)
    (claimId : String) : Finset DerivEvidenceReviewReason :=
  match claims.lookup claimId with
  | none => {.missingRequiredClaim}
  | some claim =>
    (if claim.reviewState = .rejected then {.claimRejected}
      else flag (claim.reviewState ≠ .reviewed) .claimUnreviewed) ∪
    flag (claim.applicability ≠ applicability) .applicabilityMismatch

/-- The loop over `claims_by_subject`: two selected claims of one identity with different values. -/
def claimsConflict : List ((DerivEvidenceClaimType × String × DerivEvidenceApplicability) × String) →
    List DerivEvidenceClaim → Bool
  | _, [] => false
  | seen, claim :: claims =>
    let identity := (claim.claimType, claim.subject, claim.applicability)
    match seen.lookup identity with
    | some previous => previous != claim.value || claimsConflict seen claims
    | none => claimsConflict ((identity, claim.value) :: seen) claims

def evidenceReviewReasons (decision : DecisionFields) (registry : DerivEvidenceRegistry) :
    Finset DerivEvidenceReviewReason :=
  let claims := claimsById (foundArtifacts registry decision.artifactIds)
  let selected := decision.claimIds.filterMap fun id => claims.lookup id
  flag (decision.artifactIds = []) .missingRequiredClaim ∪
  ((decision.artifactIds.zip decision.artifactContentHashes).map fun e => artifactReasons registry e.1 e.2).foldr
    (· ∪ ·) ∅ ∪
  flag (decision.claimIds = []) .missingRequiredClaim ∪
  (decision.claimIds.map (claimReasons claims decision.applicability)).foldr (· ∪ ·) ∅ ∪
  flag (claimsConflict [] selected = true) .duplicateOrConflictingClaim ∪
  match decision.financialSemantics with
  | some semantics => flag (¬∃ claim ∈ selected, claim.claimType = .lossModelDescriptionIdentity ∧
      claim.value = semantics.materialHash) .missingRequiredClaim
  | none => ∅

def evidenceReviewValid (decision : DecisionFields) (registry : DerivEvidenceRegistry) : Bool :=
  let reasons := evidenceReviewReasons decision registry
  let observed := if reasons = ∅ then {.evidenceSetComplete} else reasons
  if .contentIdentityMismatch ∈ reasons ∨ observed ≠ decision.reasonCodes then false
  else
    match decision.state with
    | .approvedForProofReview => observed == {.evidenceSetComplete}
    | .rejected => decide (observed ∩ {.artifactRejected, .claimRejected, .applicabilityMismatch,
        .duplicateOrConflictingClaim}).Nonempty
    | .insufficient => decide (observed ∩ {.artifactUnreviewed, .claimUnreviewed, .missingRequiredClaim}).Nonempty

/-! ### The assessment -/

inductive DerivProofReviewState where
  | readyForAuthoritativeProofReview
  | rejected
  | insufficient
  deriving DecidableEq

inductive DerivProofReviewReason where
  | reviewDecisionNotApproved
  | reviewDecisionStale
  | applicabilityMismatch
  | evidenceIdentityMismatch
  | claimSetMismatch
  | reviewScopeIncomplete
  | reviewPackageConsistent
  | reviewPackageConflicting
  deriving DecidableEq

structure AssessmentFields [CaseMap] where
  assessmentId : String
  reviewDecisionId : String
  artifactIds : List String
  artifactContentHashes : List String
  claimIds : List String
  state : DerivProofReviewState
  reasonCodes : Finset DerivProofReviewReason
  applicability : DerivEvidenceApplicability
  financialSemantics : Option DerivFinancialSemanticsSpecification

def AssessmentFields.postInit (a : AssessmentFields) : Bool :=
  !blank a.assessmentId && !blank a.reviewDecisionId &&
  a.financialSemantics.all (fun s => s.applicability == a.applicability) &&
  evidenceTexts a.artifactIds a.artifactContentHashes a.claimIds && decide a.reasonCodes.Nonempty &&
  if a.state = .readyForAuthoritativeProofReview then
    !a.artifactIds.isEmpty && !a.claimIds.isEmpty && a.reasonCodes == {.reviewPackageConsistent}
  else decide (.reviewPackageConsistent ∉ a.reasonCodes)

structure DerivProofReviewAssessment [CaseMap] extends AssessmentFields where
  ok : toAssessmentFields.postInit = true

def SameSemantics (left right : Option DerivFinancialSemanticsSpecification) : Prop :=
  left.map (·.key) = right.map (·.key)

instance (left right : Option DerivFinancialSemanticsSpecification) : Decidable (SameSemantics left right) :=
  inferInstanceAs (Decidable (_ = _))

def proofReviewReasons (a : AssessmentFields) (d : DecisionFields) (registry : DerivEvidenceRegistry) :
    Finset DerivProofReviewReason :=
  flag (a.reviewDecisionId ≠ d.decisionId) .evidenceIdentityMismatch ∪
  flag (a.artifactIds ≠ d.artifactIds ∨ a.artifactContentHashes ≠ d.artifactContentHashes) .evidenceIdentityMismatch ∪
  flag (a.claimIds ≠ d.claimIds) .claimSetMismatch ∪
  flag (a.applicability ≠ d.applicability) .applicabilityMismatch ∪
  flag (¬SameSemantics a.financialSemantics d.financialSemantics) .evidenceIdentityMismatch ∪
  flag (evidenceReviewValid d registry = false) .reviewDecisionStale ∪
  match d.state with
  | .approvedForProofReview => ∅
  | .rejected => {.reviewDecisionNotApproved, .reviewPackageConflicting}
  | .insufficient => {.reviewDecisionNotApproved, .reviewScopeIncomplete}

def proofReviewValid (a : AssessmentFields) (d : DecisionFields) (registry : DerivEvidenceRegistry) : Bool :=
  let reasons := proofReviewReasons a d registry
  let observed := if reasons = ∅ then {.reviewPackageConsistent} else reasons
  if (reasons ∩ {.reviewDecisionStale, .applicabilityMismatch, .evidenceIdentityMismatch, .claimSetMismatch}).Nonempty ∨
      observed ≠ a.reasonCodes then false
  else
    match a.state with
    | .readyForAuthoritativeProofReview => observed == {.reviewPackageConsistent}
    | .rejected => decide (.reviewPackageConflicting ∈ observed)
    | .insufficient => decide (.reviewScopeIncomplete ∈ observed)

end DerivAdmission
end Jqe
