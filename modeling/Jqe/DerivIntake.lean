import Jqe.DerivEvidence
import Jqe.PyDict
/-!
# DerivIntake — `broker/deriv_evidence_intake.py`

External evidence with the claims declared of it, the decisions over its sources, and its readiness for a semantic
review.  Bytes are their numbers, and a moment is a whole number of microseconds in UTC.
-/
namespace Jqe
namespace DerivIntake

open DerivAdmission (Json DerivEvidenceClaimType flag)

/-! ### Checks -/

def refused (checks : List (Bool × String)) : Option String := (checks.find? fun check => !check.1).map Prod.snd

theorem refused_eq_none {checks : List (Bool × String)} : refused checks = none ↔ ∀ check ∈ checks, check.1 = true := by
  unfold refused
  simp

def textCheck (name value : String) : Bool × String := (!blank value, name ++ " must be a nonblank string")

def optionalTextCheck (name : String) (value : Option String) : Bool × String :=
  (value.all fun s => !blank s, name ++ " must be a nonblank string")

def hashCheck (name value : String) : Bool × String := (isSha256 value, name ++ " must be a lowercase SHA-256 ID")

/-! ### The evidence -/

inductive DerivEvidenceSourceType where
  | officialSchemaDocumentation
  | brokerResponseCapture
  | contractSpecificationCapture
  | proposalResponseCapture
  | transactionSettlementRecord
  | manualBrokerExport
  | syntheticTestFixture
  deriving DecidableEq

inductive DerivEvidenceClassification where
  | syntheticTestOnly
  | externalProductionCandidate
  deriving DecidableEq

inductive DerivEvidenceContentType where
  | json
  | document
  | binary
  | tabularExport
  deriving DecidableEq

inductive DerivEvidenceCompleteness where
  | complete
  | partially
  | unknown
  deriving DecidableEq

inductive DerivProvenanceConfidence where
  | directExternalSource
  | reviewerAttested
  | unknown
  deriving DecidableEq

inductive DerivClaimSupportState where
  | supported
  | contradicted
  | notEstablished
  deriving DecidableEq

structure DerivNormalizedEvidenceField where
  path : String
  value : String
  semanticId : String
  unitId : Option String
  ok : refused [textCheck "path" path, textCheck "value" value, textCheck "semantic_id" semanticId,
    optionalTextCheck "unit_id" unitId] = none
  deriving DecidableEq

def fieldToData (field : DerivNormalizedEvidenceField) : Json := .obj [
  ("path", .str field.path),
  ("semantic_id", .str field.semanticId),
  ("unit_id", .text field.unitId),
  ("value", .str field.value)]

/-- The fields in the order of their paths, as JSON. -/
def canonicalFields (fields : List DerivNormalizedEvidenceField) : String :=
  (Json.arr ((fields.mergeSort fun a b => decide (a.path ≤ b.path)).map fieldToData)).dumps

/-- **`canonicalize_deriv_evidence_fields`**, before it is encoded. -/
def canonicalizeDerivEvidenceFields (fields : List DerivNormalizedEvidenceField) : Except PyExc String :=
  if (fields.map (·.path)).Nodup then .ok (canonicalFields fields)
  else .error (.exception "duplicate normalized field paths are not allowed")

def sha256Material (material : List ℕ) : String := "sha256:" ++ Sha256.hexdigest material

/-- **A digest has the form of one.** -/
theorem isSha256_sha256Material (material : List ℕ) : isSha256 (sha256Material material) = true := by
  have hlist : (sha256Material material).toList = "sha256:".toList ++ (Sha256.hexdigest material).toList := by
    unfold sha256Material
    rw [String.toList_append]
  have hdigits : (sha256Material material).toList.drop 7 = (Sha256.hexdigest material).toList := by
    rw [hlist]
    exact List.drop_left' rfl
  have hhead : "sha256:".isPrefixOf (sha256Material material) = true := by
    unfold String.isPrefixOf
    rw [String.startsWith_string_iff, hlist]
    exact List.prefix_append _ _
  unfold isSha256
  dsimp only
  rw [hhead, hdigits, Sha256.hexdigest_length]
  have hhex : ∀ c ∈ "0123456789abcdef".toList, (c.isDigit || decide ('a' ≤ c) && decide (c ≤ 'f')) = true := by simp
  simpa using fun c hc => by simpa using hhex c (Sha256.mem_hexdigest hc)

def encode (text : String) : List ℕ := text.toList.map Char.toNat

structure ProvenanceFields where
  sourceIdentifier : String
  captureMethod : String
  captureActorId : Option String
  observedAt : Option ℤ
  rawMaterialHash : String
  normalizedMaterialHash : String
  environment : Option String
  accountScope : Option String
  confidence : DerivProvenanceConfidence
  deriving DecidableEq

def ProvenanceFields.checks (p : ProvenanceFields) : List (Bool × String) := [
  textCheck "source_identifier" p.sourceIdentifier,
  textCheck "capture_method" p.captureMethod,
  optionalTextCheck "capture_actor_id" p.captureActorId,
  hashCheck "raw_material_hash" p.rawMaterialHash,
  hashCheck "normalized_material_hash" p.normalizedMaterialHash,
  optionalTextCheck "environment" p.environment,
  optionalTextCheck "account_scope" p.accountScope]

structure DerivEvidenceProvenance extends ProvenanceFields where
  ok : refused toProvenanceFields.checks = none
  deriving DecidableEq

structure DerivSemanticClaimDeclaration where
  claimId : String
  claimType : DerivEvidenceClaimType
  semanticId : String
  value : String
  supportState : DerivClaimSupportState
  sourceFieldPaths : List String
  requiresCompleteSource : Bool
  ok : refused [textCheck "claim_id" claimId, textCheck "semantic_id" semanticId, textCheck "value" value,
    (!sourceFieldPaths.isEmpty && sourceFieldPaths.all fun path => !blank path,
      "claim source paths must be a nonempty immutable tuple"),
    (decide sourceFieldPaths.Nodup, "duplicate claim source paths are not allowed")] = none
  deriving DecidableEq

structure IntakeFields where
  intakeId : String
  sourceType : DerivEvidenceSourceType
  classification : DerivEvidenceClassification
  capturedAt : ℤ
  contentType : DerivEvidenceContentType
  sourceSchemaId : Option String
  rawMaterial : List ℕ
  normalizedFields : List DerivNormalizedEvidenceField
  provenance : DerivEvidenceProvenance
  completeness : DerivEvidenceCompleteness
  applicability : DerivEvidenceApplicability
  claimDeclarations : List DerivSemanticClaimDeclaration
  reviewerNotes : Option String
  validUntil : Option ℤ
  deriving DecidableEq

def IntakeFields.checks (i : IntakeFields) : List (Bool × String) := [
  textCheck "intake_id" i.intakeId,
  ((i.sourceType == .syntheticTestFixture) == (i.classification == .syntheticTestOnly),
    "synthetic source classification cannot be changed"),
  optionalTextCheck "source_schema_id" i.sourceSchemaId,
  (!i.rawMaterial.isEmpty, "raw_material must be nonempty bytes"),
  (decide (i.normalizedFields.map (·.path)).Nodup, "duplicate normalized field paths are not allowed"),
  (decide (i.claimDeclarations.map (·.claimId)).Nodup, "duplicate claim IDs are not allowed"),
  optionalTextCheck "reviewer_notes" i.reviewerNotes,
  (i.validUntil.all fun t => decide (i.capturedAt < t), "valid_until must follow captured_at")]

structure DerivExternalEvidenceIntake extends IntakeFields where
  ok : refused toIntakeFields.checks = none
  deriving DecidableEq

structure DerivExtractedEvidenceClaim where
  claimId : String
  intakeId : String
  rawMaterialHash : String
  normalizedMaterialHash : String
  sourceIdentifier : String
  classification : DerivEvidenceClassification
  claimType : DerivEvidenceClaimType
  semanticId : String
  value : String
  supportState : DerivClaimSupportState
  applicability : DerivEvidenceApplicability
  sourceFieldPaths : List String
  deriving DecidableEq

def unsupported (intake : DerivExternalEvidenceIntake) (claim : DerivSemanticClaimDeclaration) : Bool :=
  !(claim.sourceFieldPaths.all fun path => (intake.normalizedFields.map (·.path)).contains path) ||
    (claim.requiresCompleteSource && intake.completeness != .complete)

/-- **`extract_deriv_semantic_claims`**: all the claims declared, or none. -/
def extractDerivSemanticClaims (intake : DerivExternalEvidenceIntake) : List DerivExtractedEvidenceClaim :=
  if intake.claimDeclarations.any (unsupported intake) then []
  else
    intake.claimDeclarations.map fun claim => {
      claimId := claim.claimId
      intakeId := intake.intakeId
      rawMaterialHash := intake.provenance.rawMaterialHash
      normalizedMaterialHash := intake.provenance.normalizedMaterialHash
      sourceIdentifier := intake.provenance.sourceIdentifier
      classification := intake.classification
      claimType := claim.claimType
      semanticId := claim.semanticId
      value := claim.value
      supportState := claim.supportState
      applicability := intake.applicability
      sourceFieldPaths := claim.sourceFieldPaths }

/-! ### Decisions and revocations -/

inductive DerivSourceVerificationState where
  | verifiedSource
  | rejectedSource
  | insufficientSource
  deriving DecidableEq

structure DerivSourceVerificationDecision where
  verificationId : String
  intakeId : String
  rawMaterialHash : String
  normalizedMaterialHash : String
  sourceIdentifier : String
  classification : DerivEvidenceClassification
  applicability : DerivEvidenceApplicability
  state : DerivSourceVerificationState
  verifiedBy : String
  ok : refused [textCheck "verification_id" verificationId, textCheck "intake_id" intakeId,
    textCheck "source_identifier" sourceIdentifier, textCheck "verified_by" verifiedBy,
    hashCheck "raw_material_hash" rawMaterialHash, hashCheck "normalized_material_hash" normalizedMaterialHash] = none
  deriving DecidableEq

inductive DerivEvidenceRevocationTarget where
  | intake
  | sourceVerification
  deriving DecidableEq

structure DerivEvidenceRevocation where
  revocationId : String
  targetKind : DerivEvidenceRevocationTarget
  targetId : String
  reason : String
  ok : refused [textCheck "revocation_id" revocationId, textCheck "target_id" targetId, textCheck "reason" reason] = none
  deriving DecidableEq

def revoked (revocations : List DerivEvidenceRevocation) (kind : DerivEvidenceRevocationTarget) (id : String) : Bool :=
  revocations.any fun record => record.targetKind == kind && record.targetId == id

/-! ### The readiness -/

inductive DerivEvidenceReadinessState where
  | readyForSemanticReview
  | insufficient
  | rejected
  | conflict
  | productionEvidenceNotAvailable
  deriving DecidableEq

inductive DerivEvidenceReadinessReason where
  | sourceReady
  | syntheticNotProduction
  | sourceNotVerified
  | materialHashMismatch
  | normalizationHashMismatch
  | claimBindingMismatch
  | sourceIncomplete
  | provenanceUnknown
  | scopeMismatch
  | evidenceConflict
  | evidenceRevoked
  | sourceVerificationRevoked
  | evidenceStale
  | noProductionEvidence
  deriving DecidableEq

structure DerivEvidenceReadinessResult where
  state : DerivEvidenceReadinessState
  reasonCodes : Finset DerivEvidenceReadinessReason
  deriving DecidableEq

structure SemanticReviewRequest where
  intakes : List DerivExternalEvidenceIntake
  verifications : List DerivSourceVerificationDecision
  claims : List DerivExtractedEvidenceClaim
  expectedApplicability : DerivEvidenceApplicability
  expectedAccountScope : Option String
  evaluationAt : ℤ
  revocations : List DerivEvidenceRevocation
  scope : (optionalTextCheck "expected_account_scope" expectedAccountScope).1 = true

def rawHash (intake : DerivExternalEvidenceIntake) : String := sha256Material intake.rawMaterial

def normalizedHash (intake : DerivExternalEvidenceIntake) : String :=
  sha256Material (encode (canonicalFields intake.normalizedFields))

def intakeReasons (r : SemanticReviewRequest) (intake : DerivExternalEvidenceIntake) :
    Finset DerivEvidenceReadinessReason :=
  flag (intake.classification ≠ .externalProductionCandidate) .syntheticNotProduction ∪
  flag (rawHash intake ≠ intake.provenance.rawMaterialHash) .materialHashMismatch ∪
  flag (normalizedHash intake ≠ intake.provenance.normalizedMaterialHash) .normalizationHashMismatch ∪
  flag (intake.provenance.confidence = .unknown) .provenanceUnknown ∪
  flag (intake.completeness ≠ .complete) .sourceIncomplete ∪
  flag (intake.applicability ≠ r.expectedApplicability) .scopeMismatch ∪
  flag (intake.provenance.environment ≠ r.expectedApplicability.environment ∨
    intake.provenance.accountScope ≠ r.expectedAccountScope) .scopeMismatch ∪
  flag (∃ t ∈ intake.validUntil, t < r.evaluationAt) .evidenceStale ∪
  flag (revoked r.revocations .intake intake.intakeId = true) .evidenceRevoked

def verificationReasons (revocations : List DerivEvidenceRevocation) (intake : DerivExternalEvidenceIntake) :
    Option DerivSourceVerificationDecision → Finset DerivEvidenceReadinessReason
  | none => {.sourceNotVerified}
  | some verification =>
    if verification.state ≠ .verifiedSource then {.sourceNotVerified}
    else
      flag (revoked revocations .sourceVerification verification.verificationId = true) .sourceVerificationRevoked ∪
      flag (verification.rawMaterialHash ≠ rawHash intake ∨
        verification.normalizedMaterialHash ≠ normalizedHash intake ∨
        verification.sourceIdentifier ≠ intake.provenance.sourceIdentifier ∨
        verification.classification ≠ intake.classification ∨ verification.applicability ≠ intake.applicability)
        .materialHashMismatch

/-- What the claims supplied for an intake say: `claims_by_intake` against the claims extracted. -/
def bindingReasons (claims : List DerivExtractedEvidenceClaim) (intake : DerivExternalEvidenceIntake) :
    Finset DerivEvidenceReadinessReason :=
  let extracted := claims.filter fun claim => claim.intakeId == intake.intakeId
  flag (extracted ≠ extractDerivSemanticClaims intake ∨ ∃ claim ∈ extracted, claim.supportState ≠ .supported)
    .claimBindingMismatch

def claimValuesConflict : List ((DerivEvidenceClaimType × String × DerivEvidenceApplicability) × String) →
    List DerivExtractedEvidenceClaim → Bool
  | _, [] => false
  | seen, claim :: claims =>
    let key := (claim.claimType, claim.semanticId, claim.applicability)
    match seen.lookup key with
    | some previous => previous != claim.value || claimValuesConflict seen claims
    | none => claimValuesConflict ((key, claim.value) :: seen) claims

def verificationByIntake (verifications : List DerivSourceVerificationDecision) :
    List (String × DerivSourceVerificationDecision) :=
  verifications.foldl (fun d verification => dictSet d verification.intakeId verification) []

def readinessReasons (r : SemanticReviewRequest) : Finset DerivEvidenceReadinessReason :=
  (r.intakes.map fun intake => intakeReasons r intake ∪
    verificationReasons r.revocations intake ((verificationByIntake r.verifications).lookup intake.intakeId) ∪
    bindingReasons r.claims intake).foldr (· ∪ ·) ∅ ∪
  flag (claimValuesConflict [] r.claims = true) .evidenceConflict

def validateDerivEvidenceForSemanticReview (r : SemanticReviewRequest) : DerivEvidenceReadinessResult :=
  if r.intakes = [] then ⟨.productionEvidenceNotAvailable, {.noProductionEvidence}⟩
  else if readinessReasons r = ∅ then ⟨.readyForSemanticReview, {.sourceReady}⟩
  else if .evidenceConflict ∈ readinessReasons r then ⟨.conflict, readinessReasons r⟩
  else if readinessReasons r ⊆ {.sourceNotVerified, .sourceIncomplete, .provenanceUnknown} then
    ⟨.insufficient, readinessReasons r⟩
  else ⟨.rejected, readinessReasons r⟩

end DerivIntake
end Jqe
