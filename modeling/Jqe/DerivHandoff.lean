import Jqe.DerivIntake
/-!
# DerivHandoff — `broker/deriv_evidence_handoff.py`

A package of externally supplied artifacts, its identity, its validation, and the intake records it is turned into.
The schema version, of which there is one, is left out.
-/
namespace Jqe
namespace DerivHandoff

open DerivAdmission (Json flag)
open DerivIntake

inductive DerivEvidenceCategory where
  | equationIdentity
  | operandSemantics
  | quantityBasisSemantics
  | multiplierSemantics
  | stopLossSemantics
  | outputLossSemantics
  | accountCurrencyTreatment
  | contractFamilySpecification
  | financialRoundingPolicy
  | domainConstraints
  | officialSchemaDocumentation
  | brokerProposalCapture
  | brokerContractsForCapture
  | transactionSettlementRecord
  | manualBrokerExport
  | historicalTickCapture
  deriving DecidableEq

def DerivEvidenceCategory.value : DerivEvidenceCategory → String
  | .equationIdentity => "EQUATION_IDENTITY"
  | .operandSemantics => "OPERAND_SEMANTICS"
  | .quantityBasisSemantics => "QUANTITY_BASIS_SEMANTICS"
  | .multiplierSemantics => "MULTIPLIER_SEMANTICS"
  | .stopLossSemantics => "STOP_LOSS_SEMANTICS"
  | .outputLossSemantics => "OUTPUT_LOSS_SEMANTICS"
  | .accountCurrencyTreatment => "ACCOUNT_CURRENCY_TREATMENT"
  | .contractFamilySpecification => "CONTRACT_FAMILY_SPECIFICATION"
  | .financialRoundingPolicy => "FINANCIAL_ROUNDING_POLICY"
  | .domainConstraints => "DOMAIN_CONSTRAINTS"
  | .officialSchemaDocumentation => "OFFICIAL_SCHEMA_DOCUMENTATION"
  | .brokerProposalCapture => "BROKER_PROPOSAL_CAPTURE"
  | .brokerContractsForCapture => "BROKER_CONTRACTS_FOR_CAPTURE"
  | .transactionSettlementRecord => "TRANSACTION_SETTLEMENT_RECORD"
  | .manualBrokerExport => "MANUAL_BROKER_EXPORT"
  | .historicalTickCapture => "HISTORICAL_TICK_CAPTURE"

def requiredDerivSemanticCategories : Finset DerivEvidenceCategory :=
  {.equationIdentity, .operandSemantics, .quantityBasisSemantics, .multiplierSemantics, .stopLossSemantics,
    .outputLossSemantics, .accountCurrencyTreatment, .contractFamilySpecification, .financialRoundingPolicy,
    .domainConstraints}

def classificationValue : DerivEvidenceClassification → String
  | .syntheticTestOnly => "SYNTHETIC_TEST_ONLY"
  | .externalProductionCandidate => "EXTERNAL_PRODUCTION_CANDIDATE"

def completenessValue : DerivEvidenceCompleteness → String
  | .complete => "COMPLETE"
  | .partially => "PARTIAL"
  | .unknown => "UNKNOWN"

/-! ### Artifacts and packages -/

structure ArtifactFields where
  artifactId : String
  category : DerivEvidenceCategory
  sourceType : DerivEvidenceSourceType
  sourceIdentifier : String
  contentType : DerivEvidenceContentType
  rawMaterial : List ℕ
  rawMaterialHash : String
  captureMethod : String
  completeness : DerivEvidenceCompleteness
  provenanceConfidence : DerivProvenanceConfidence
  schemaOrContentVersion : Option String
  captureActorId : Option String
  observedAt : Option ℤ
  environment : Option String
  accountScope : Option String
  accountCurrency : Option String
  contractFamily : Option String
  symbol : Option String
  normalizedFields : List DerivNormalizedEvidenceField
  claimDeclarations : List DerivSemanticClaimDeclaration
  deriving DecidableEq

def ArtifactFields.checks (a : ArtifactFields) : List (Bool × String) := [
  textCheck "artifact_id" a.artifactId,
  textCheck "source_identifier" a.sourceIdentifier,
  (!a.rawMaterial.isEmpty, "raw_material must be nonempty bytes"),
  hashCheck "raw_material_hash" a.rawMaterialHash,
  textCheck "capture_method" a.captureMethod,
  optionalTextCheck "schema_or_content_version" a.schemaOrContentVersion,
  optionalTextCheck "capture_actor_id" a.captureActorId,
  optionalTextCheck "environment" a.environment,
  optionalTextCheck "account_scope" a.accountScope,
  optionalTextCheck "account_currency" a.accountCurrency,
  optionalTextCheck "contract_family" a.contractFamily,
  optionalTextCheck "symbol" a.symbol,
  (decide (a.normalizedFields.map (·.path)).Nodup, "duplicate normalized field paths are not allowed")]

structure DerivHandoffArtifactDescriptor extends ArtifactFields where
  ok : refused toArtifactFields.checks = none
  deriving DecidableEq

structure ArtifactSummary where
  artifactId : String
  category : DerivEvidenceCategory
  sourceIdentifier : String
  rawMaterialHash : String
  completeness : DerivEvidenceCompleteness
  deriving DecidableEq

def summary (a : DerivHandoffArtifactDescriptor) : ArtifactSummary :=
  ⟨a.artifactId, a.category, a.sourceIdentifier, a.rawMaterialHash, a.completeness⟩

def ArtifactSummary.toData (s : ArtifactSummary) : Json := .obj [
  ("artifact_id", .str s.artifactId),
  ("category", .str s.category.value),
  ("completeness", .str (completenessValue s.completeness)),
  ("raw_material_hash", .str s.rawMaterialHash),
  ("source_identifier", .str s.sourceIdentifier)]

/-- The text that is hashed, its keys sorted. -/
def packageText (broker environment : String) (classification : DerivEvidenceClassification)
    (contractFamily accountCurrency : Option String) (artifacts : List DerivHandoffArtifactDescriptor) : Json :=
  let ordered := artifacts.mergeSort fun a b => decide (a.artifactId ≤ b.artifactId)
  .obj [
    ("account_currency", .text accountCurrency),
    ("artifacts", .arr (ordered.map fun a => (summary a).toData)),
    ("broker", .str broker),
    ("classification", .str (classificationValue classification)),
    ("contract_family", .text contractFamily),
    ("environment", .str environment)]

def truncatedDigest (text : String) : String := String.ofList ((Sha256.hexdigest (encode text)).toList.take 32)

def computeHandoffPackageId (broker environment : String) (classification : DerivEvidenceClassification)
    (contractFamily accountCurrency : Option String) (artifacts : List DerivHandoffArtifactDescriptor) : String :=
  "pkg:deriv:handoff:" ++
    truncatedDigest (packageText broker environment classification contractFamily accountCurrency artifacts).dumps

structure PackageFields where
  packageId : String
  broker : String
  environment : String
  classification : DerivEvidenceClassification
  handedOffAt : ℤ
  artifacts : List DerivHandoffArtifactDescriptor
  contractFamily : Option String
  accountCurrency : Option String
  accountScope : Option String
  symbol : Option String
  operatorNotes : Option String

def PackageFields.checks (p : PackageFields) : List (Bool × String) := [
  textCheck "package_id" p.packageId,
  textCheck "broker" p.broker,
  textCheck "environment" p.environment,
  (decide (p.artifacts.map (·.artifactId)).Nodup, "duplicate artifact IDs are not allowed in a handoff package"),
  optionalTextCheck "contract_family" p.contractFamily,
  optionalTextCheck "account_currency" p.accountCurrency,
  optionalTextCheck "account_scope" p.accountScope,
  optionalTextCheck "symbol" p.symbol,
  optionalTextCheck "operator_notes" p.operatorNotes]

structure DerivEvidenceHandoffPackage extends PackageFields where
  ok : refused toPackageFields.checks = none

/-! ### The validation -/

inductive DerivHandoffEligibilityState where
  | eligibleForEvidenceIntake
  | insufficient
  | rejected
  | conflict
  deriving DecidableEq

def DerivHandoffEligibilityState.value : DerivHandoffEligibilityState → String
  | .eligibleForEvidenceIntake => "ELIGIBLE_FOR_EVIDENCE_INTAKE"
  | .insufficient => "INSUFFICIENT"
  | .rejected => "REJECTED"
  | .conflict => "CONFLICT"

inductive DerivHandoffReasonCode where
  | packageEligible
  | syntheticNotProduction
  | brokerMismatch
  | environmentMismatch
  | scopeMismatch
  | currencyMismatch
  | contractFamilyMismatch
  | missingRequiredCategory
  | sourceIncomplete
  | rawMaterialHashMismatch
  | provenanceIncomplete
  | duplicateArtifactIdentity
  | artifactMetadataConflict
  | packageTampered
  | noArtifactsSupplied
  deriving DecidableEq

structure DerivHandoffValidationResult where
  state : DerivHandoffEligibilityState
  reasonCodes : Finset DerivHandoffReasonCode
  missingRequiredCategories : Finset DerivEvidenceCategory
  coveredCategories : Finset DerivEvidenceCategory
  deriving DecidableEq

/-- The optional arguments of `validate_deriv_production_evidence_handoff`, with their defaults. -/
structure HandoffExpectations where
  expectedBroker : String := "deriv"
  expectedEnvironment : Option String := none
  expectedContractFamily : Option String := none
  expectedAccountCurrency : Option String := none
  expectedAccountScope : Option String := none
  enforceProductionClassification : Bool := true
  requiredCategories : Finset DerivEvidenceCategory := requiredDerivSemanticCategories

/-- The loop over `artifact_hashes`: an identifier comes back with another hash. -/
def duplicateIdentity : List (String × String) → List DerivHandoffArtifactDescriptor → Bool
  | _, [] => false
  | seen, artifact :: artifacts =>
    match seen.lookup artifact.artifactId with
    | some hash => hash != artifact.rawMaterialHash || duplicateIdentity seen artifacts
    | none => duplicateIdentity ((artifact.artifactId, artifact.rawMaterialHash) :: seen) artifacts

/-- The artifact and the package both give a text, and not the same. -/
def incompatible (ofArtifact ofPackage : Option String) : Prop := ∃ x ∈ ofArtifact, ∃ y ∈ ofPackage, x ≠ y

instance (ofArtifact ofPackage : Option String) : Decidable (incompatible ofArtifact ofPackage) := by
  unfold incompatible
  infer_instance

def artifactReasons (package : DerivEvidenceHandoffPackage) (artifact : DerivHandoffArtifactDescriptor) :
    Finset DerivHandoffReasonCode :=
  flag (sha256Material artifact.rawMaterial ≠ artifact.rawMaterialHash) .rawMaterialHashMismatch ∪
  flag (artifact.completeness ≠ .complete) .sourceIncomplete ∪
  flag (artifact.provenanceConfidence = .unknown) .provenanceIncomplete ∪
  flag (incompatible artifact.environment (some package.environment)) .environmentMismatch ∪
  flag (incompatible artifact.accountCurrency package.accountCurrency) .currencyMismatch ∪
  flag (incompatible artifact.accountScope package.accountScope) .scopeMismatch ∪
  flag (incompatible artifact.contractFamily package.contractFamily) .contractFamilyMismatch

def several (texts : List (Option String)) : Prop := 1 < (texts.filterMap id).toFinset.card

instance (texts : List (Option String)) : Decidable (several texts) := by
  unfold several
  infer_instance

def covered (package : DerivEvidenceHandoffPackage) : Finset DerivEvidenceCategory :=
  (package.artifacts.map (·.category)).toFinset

def expectedPackageId (p : DerivEvidenceHandoffPackage) : String :=
  computeHandoffPackageId p.broker p.environment p.classification p.contractFamily p.accountCurrency p.artifacts

abbrev metadataConflict (package : DerivEvidenceHandoffPackage) : Prop :=
  several (package.artifacts.map (·.environment)) ∨ several (package.artifacts.map (·.accountCurrency)) ∨
    several (package.artifacts.map (·.accountScope)) ∨ several (package.artifacts.map (·.contractFamily))

def handoffReasons [CaseMap] (package : DerivEvidenceHandoffPackage) (e : HandoffExpectations) :
    Finset DerivHandoffReasonCode :=
  flag (package.packageId ≠ expectedPackageId package) .packageTampered ∪
  flag (e.enforceProductionClassification = true ∧ package.classification ≠ .externalProductionCandidate)
    .syntheticNotProduction ∪
  flag (CaseMap.lower package.broker ≠ CaseMap.lower e.expectedBroker) .brokerMismatch ∪
  flag (∃ x ∈ e.expectedEnvironment, package.environment ≠ x) .environmentMismatch ∪
  flag (∃ x ∈ e.expectedContractFamily, package.contractFamily ≠ some x) .contractFamilyMismatch ∪
  flag (∃ x ∈ e.expectedAccountCurrency, package.accountCurrency ≠ some x) .currencyMismatch ∪
  flag (∃ x ∈ e.expectedAccountScope, package.accountScope ≠ some x) .scopeMismatch ∪
  (package.artifacts.map (artifactReasons package)).foldr (· ∪ ·) ∅ ∪
  flag (duplicateIdentity [] package.artifacts = true) .duplicateArtifactIdentity ∪
  flag (metadataConflict package) .artifactMetadataConflict ∪
  flag (e.requiredCategories \ covered package ≠ ∅) .missingRequiredCategory

def validateDerivProductionEvidenceHandoff [CaseMap] (package : DerivEvidenceHandoffPackage) (e : HandoffExpectations) :
    DerivHandoffValidationResult :=
  let reasons := handoffReasons package e
  let missing := e.requiredCategories \ covered package
  if package.artifacts = [] then ⟨.insufficient, {.noArtifactsSupplied}, e.requiredCategories, ∅⟩
  else if reasons = ∅ then ⟨.eligibleForEvidenceIntake, {.packageEligible}, ∅, covered package⟩
  else if .artifactMetadataConflict ∈ reasons then ⟨.conflict, reasons, missing, covered package⟩
  else if reasons ⊆ {.missingRequiredCategory, .sourceIncomplete, .provenanceIncomplete, .noArtifactsSupplied} then
    ⟨.insufficient, reasons, missing, covered package⟩
  else ⟨.rejected, reasons, missing, covered package⟩

/-! ### The intake records -/

def construct {F D : Type} (checks : F → List (Bool × String)) (make : (f : F) → refused (checks f) = none → D) (f : F) :
    Except PyExc D :=
  match h : refused (checks f) with
  | none => .ok (make f h)
  | some message => .error (.exception message)

def applicabilityChecks [CaseMap] (a : DerivEvidenceApplicability) : List (Bool × String) := [
  textCheck "broker" a.broker,
  (CaseMap.lower (strip a.broker) == "deriv", "broker must identify Deriv"),
  optionalTextCheck "contract_family" a.contractFamily,
  optionalTextCheck "symbol" a.symbol,
  optionalTextCheck "account_currency" a.accountCurrency,
  optionalTextCheck "environment" a.environment,
  optionalTextCheck "quantity_basis" a.quantityBasis,
  optionalTextCheck "stop_loss_semantic_id" a.stopLossSemanticId,
  optionalTextCheck "multiplier_semantics_id" a.multiplierSemanticsId,
  optionalTextCheck "symbol_capability_scope" a.symbolCapabilityScope]

section

variable [CaseMap] (package : DerivEvidenceHandoffPackage) (artifact : DerivHandoffArtifactDescriptor)

def applicabilityFields : DerivEvidenceApplicability where
  broker := package.broker
  contractFamily := artifact.contractFamily <|> package.contractFamily
  symbol := artifact.symbol <|> package.symbol
  accountCurrency := artifact.accountCurrency <|> package.accountCurrency
  environment := some (artifact.environment.getD package.environment)
  quantityBasis := none
  stopLossSemanticId := none
  multiplierSemanticsId := none
  symbolCapabilityScope := none

def provenanceFields (normalizedMaterialHash : String) : ProvenanceFields where
  sourceIdentifier := artifact.sourceIdentifier
  captureMethod := artifact.captureMethod
  captureActorId := artifact.captureActorId
  observedAt := some (artifact.observedAt.getD package.handedOffAt)
  rawMaterialHash := artifact.rawMaterialHash
  normalizedMaterialHash := normalizedMaterialHash
  environment := some (artifact.environment.getD package.environment)
  accountScope := artifact.accountScope <|> package.accountScope
  confidence := artifact.provenanceConfidence

def intakeFields (applicability : DerivEvidenceApplicability) (provenance : DerivEvidenceProvenance) : IntakeFields where
  intakeId := "intake:" ++ package.packageId ++ ":" ++ artifact.artifactId
  sourceType := artifact.sourceType
  classification := package.classification
  capturedAt := artifact.observedAt.getD package.handedOffAt
  contentType := artifact.contentType
  sourceSchemaId := artifact.schemaOrContentVersion
  rawMaterial := artifact.rawMaterial
  normalizedFields := artifact.normalizedFields
  provenance := provenance
  completeness := artifact.completeness
  applicability := applicability
  claimDeclarations := artifact.claimDeclarations
  reviewerNotes := package.operatorNotes
  validUntil := none

/-- The body of the loop of `build_candidate_intake_records_from_handoff`. -/
def candidateIntake : Except PyExc DerivExternalEvidenceIntake := do
  let applicability ← construct applicabilityChecks (fun a _ => a) (applicabilityFields package artifact)
  let canonical ← canonicalizeDerivEvidenceFields artifact.normalizedFields
  let provenance ← construct ProvenanceFields.checks DerivEvidenceProvenance.mk
    (provenanceFields package artifact (sha256Material (encode canonical)))
  construct IntakeFields.checks DerivExternalEvidenceIntake.mk (intakeFields package artifact applicability provenance)

end

def buildCandidateIntakeRecordsFromHandoff [CaseMap] (package : DerivEvidenceHandoffPackage) :
    Except PyExc (List DerivExternalEvidenceIntake) :=
  let validation := validateDerivProductionEvidenceHandoff package { enforceProductionClassification := false }
  if validation.state = .eligibleForEvidenceIntake then package.artifacts.mapM (candidateIntake package)
  else
    .error (.exception ("cannot build intake records from ineligible handoff package: " ++ validation.state.value))

end DerivHandoff
end Jqe
