import Jqe.DerivAdmission
/-!
# DerivPayload — the payloads of `broker/deriv_proof_store.py`

Entries and revocations to JSON and back, and the snapshot of a store file as `persist` writes it and `load` reads it.
A payload is the value that its text spells; what Python raises on a payload of another shape is one exception.
-/
namespace Jqe
namespace DerivAdmission

open AwareTime DecimalText

/-! ### Reading JSON -/

def malformed : PyExc := .exception "durable proof snapshot is malformed"

def Json.get (key : String) : Json → Except PyExc Json
  | .obj entries =>
    match entries.lookup key with
    | some j => .ok j
    | none => .error malformed
  | _ => .error malformed

def Json.keys : Json → List String
  | .obj entries => entries.map (·.1)
  | _ => []

def Json.asText : Json → Except PyExc String
  | .str s => .ok s
  | _ => .error malformed

def Json.asInt : Json → Except PyExc ℤ
  | .int n => .ok n
  | _ => .error malformed

def Json.asBool : Json → Except PyExc Bool
  | .bool b => .ok b
  | _ => .error malformed

def Json.asItems : Json → Except PyExc (List Json)
  | .arr items => .ok items
  | _ => .error malformed

def Json.orNone {α : Type} (read : Json → Except PyExc α) : Json → Except PyExc (Option α)
  | .null => .ok none
  | j => (read j).map some

def Json.asList {α : Type} (read : Json → Except PyExc α) (j : Json) : Except PyExc (List α) := do
  (← j.asItems).mapM read

def Json.asMember {E : Type} (members : List E) (value : E → String) : Json → Except PyExc E
  | .str s =>
    match members.find? fun m => value m == s with
    | some m => .ok m
    | none => .error malformed
  | _ => .error malformed

def DerivFinancialUnit.members : List DerivFinancialUnit :=
  [.accountCurrencyAmount, .stakeCurrencyAmount, .price, .priceDistance, .ratio, .multiplier, .contractQuantity,
    .percentage]

def DerivOutputSemantic.members : List DerivOutputSemantic :=
  [.syntheticMonetaryLossForSuppliedInputs, .syntheticMaximumMonetaryLoss, .syntheticMonetaryProfitForSuppliedInputs]

def DerivCurrencyBinding.members : List DerivCurrencyBinding :=
  [.applicabilityAccountCurrency, .explicitCurrency, .notApplicable]

def DerivOperandRole.members : List DerivOperandRole := [.factor, .rate, .base]

def DerivNumericDomain.members : List DerivNumericDomain := [.positive, .nonnegative, .signed, .unknown]

def DerivRoundingMode.members : List DerivRoundingMode := [.none, .roundFloor, .roundCeiling, .roundHalfEven]

def DerivRoundingStage.members : List DerivRoundingStage := [.none, .eachOperation, .finalOutput]

def targetKindValue : DerivGovernanceRevocationTarget → String
  | .candidate => "CANDIDATE"
  | .independentVerification => "INDEPENDENT_VERIFICATION"
  | .registeredProof => "REGISTERED_PROOF"

def revocationReasonValue : DerivGovernanceRevocationReason → String
  | .revoked => "REVOKED"
  | .superseded => "SUPERSEDED"
  | .evidenceInvalidated => "EVIDENCE_INVALIDATED"
  | .applicabilityInvalidated => "APPLICABILITY_INVALIDATED"

/-! ### Decimals and moments -/

def parseDecimal : Json → Except PyExc Dec
  | .decimal t =>
    if t.read.toEngString = t then .ok t.read else .error (.exception "Decimal text is not canonical and finite")
  | _ => .error (.exception "Decimal must be canonical text")

section

variable [TimeZones]

def timestamp (d : AwareDatetime) : Except PyExc Json :=
  match d.toUtc with
  | some u => .ok (.moment u.wall)
  | none => .error (.exception "date value out of range")

def parseTimestamp : Json → Except PyExc AwareDatetime
  | .moment wall =>
    if h : 0 ≤ wall ∧ wall < maxWall then .ok (.ofUtc wall h) else .error (.exception "timestamp is not canonical UTC text")
  | _ => .error (.exception "timestamp must be canonical text")

end

/-! ### Semantics -/

/-- The fields of `_applicability_from_data`, by their names in order. -/
def applicabilityKeys : List String := ["account_currency", "broker", "contract_family", "environment",
  "multiplier_semantics_id", "quantity_basis", "stop_loss_semantic_id", "symbol", "symbol_capability_scope"]

/-- `_applicability_from_data`, without the checks of the constructor. -/
def applicabilityFromData (j : Json) : Except PyExc DerivEvidenceApplicability := do
  if j.keys ≠ applicabilityKeys then .error (.exception "applicability payload is malformed")
  else
    let broker ← (← j.get "broker").asText
    let contractFamily ← (← j.get "contract_family").orNone Json.asText
    let symbol ← (← j.get "symbol").orNone Json.asText
    let accountCurrency ← (← j.get "account_currency").orNone Json.asText
    let environment ← (← j.get "environment").orNone Json.asText
    let quantityBasis ← (← j.get "quantity_basis").orNone Json.asText
    let stopLossSemanticId ← (← j.get "stop_loss_semantic_id").orNone Json.asText
    let multiplierSemanticsId ← (← j.get "multiplier_semantics_id").orNone Json.asText
    let symbolCapabilityScope ← (← j.get "symbol_capability_scope").orNone Json.asText
    return ⟨broker, contractFamily, symbol, accountCurrency, environment, quantityBasis, stopLossSemanticId,
      multiplierSemanticsId, symbolCapabilityScope⟩

/-- `_output_from_data`, without the checks of the constructor. -/
def outputFromData (j : Json) : Except PyExc DerivFinancialOutput := do
  if j.keys ≠ ["currency_binding", "explicit_currency", "semantic", "signed", "unit", "zero_allowed"] then
    .error (.exception "financial output payload is malformed")
  else
    let semantic ← (← j.get "semantic").asMember DerivOutputSemantic.members outputSemanticValue
    let unit ← (← j.get "unit").asMember DerivFinancialUnit.members unitValue
    let currencyBinding ← (← j.get "currency_binding").asMember DerivCurrencyBinding.members currencyBindingValue
    let explicitCurrency ← (← j.get "explicit_currency").orNone Json.asText
    let signed ← (← j.get "signed").asBool
    let zeroAllowed ← (← j.get "zero_allowed").asBool
    return ⟨semantic, unit, currencyBinding, explicitCurrency, signed, zeroAllowed⟩

def operandFromData (j : Json) : Except PyExc (DerivFinancialOperand Dec) := do
  let operandId ← (← j.get "operand_id").asText
  let semanticId ← (← j.get "semantic_id").asText
  let unit ← (← j.get "unit").asMember DerivFinancialUnit.members unitValue
  let role ← (← j.get "role").asMember DerivOperandRole.members DerivOperandRole.value
  let position ← (← j.get "position").asInt
  let required ← (← j.get "required").asBool
  let domain ← (← j.get "domain").asMember DerivNumericDomain.members DerivNumericDomain.value
  let lowerBound ← (← j.get "lower_bound").orNone parseDecimal
  let upperBound ← (← j.get "upper_bound").orNone parseDecimal
  let zeroAllowed ← (← j.get "zero_allowed").asBool
  let currencyBound ← (← j.get "currency_bound").asBool
  let multiplierBound ← (← j.get "multiplier_bound").asBool
  return ⟨operandId, semanticId, unit, role, position, required, domain, lowerBound, upperBound, zeroAllowed,
    currencyBound, multiplierBound⟩

def roundingFromData (j : Json) : Except PyExc DerivRoundingPolicy := do
  let required ← (← j.get "required").asBool
  let precision ← (← j.get "precision").orNone Json.asInt
  let mode ← (← j.get "mode").asMember DerivRoundingMode.members DerivRoundingMode.value
  let stage ← (← j.get "stage").asMember DerivRoundingStage.members DerivRoundingStage.value
  return ⟨required, precision, mode, stage⟩

/-- `_semantics_from_data`, without the checks of the constructors. -/
def semanticsFieldsFromData (j : Json) : Except PyExc (SemanticsFields Dec) := do
  if (← (← j.get "schema_version").asInt) ≠ 1 then .error (.exception "unsupported financial-semantics schema version")
  else
    let semanticId ← (← j.get "semantic_id").asText
    let semanticVersion ← (← j.get "semantic_version").asInt
    let equationFamily ← (← j.get "equation_family").asMember [.syntheticLinearProduct] DerivEquationFamily.value
    let equationIdentityHash ← (← j.get "equation_identity_hash").asText
    let operands ← (← j.get "operands").asList operandFromData
    let output ← outputFromData (← j.get "output")
    let rounding ← roundingFromData (← j.get "rounding")
    let domainConstraintIds ← (← j.get "domain_constraint_ids").asList Json.asText
    let applicability ← applicabilityFromData (← j.get "applicability")
    let contractFamily ← (← j.get "contract_family").asText
    let quantityBasisSemanticId ← (← j.get "quantity_basis_semantic_id").asText
    let stopSemanticId ← (← j.get "stop_semantic_id").asText
    let multiplierSemanticId ← (← j.get "multiplier_semantic_id").asText
    let takeProfitOutput ← (← j.get "take_profit_output").orNone outputFromData
    let takeProfitSemanticId ← (← j.get "take_profit_semantic_id").orNone Json.asText
    let maximumLossOutput ← (← j.get "maximum_loss_output").orNone outputFromData
    let maximumLossSemanticId ← (← j.get "maximum_loss_semantic_id").orNone Json.asText
    let allowedMultiplierValues ← (← j.get "allowed_multiplier_values").asList parseDecimal
    return ⟨semanticId, semanticVersion, equationFamily, equationIdentityHash, operands, output, rounding,
      domainConstraintIds, applicability, contractFamily, quantityBasisSemanticId, stopSemanticId,
      multiplierSemanticId, takeProfitOutput, takeProfitSemanticId, maximumLossOutput, maximumLossSemanticId,
      allowedMultiplierValues⟩

section

variable [CaseMap]

def specificationOf (s : SemanticsFields Dec) : Except PyExc DerivFinancialSemanticsSpecification :=
  if h : (s.map Dec.value).postInit = true then .ok ⟨s, h⟩ else .error (.exception "financial semantics are inconsistent")

def semanticsFromData (j : Json) : Except PyExc DerivFinancialSemanticsSpecification := do
  specificationOf (← semanticsFieldsFromData j)

end

/-! ### Entries and revocations -/

variable [CaseMap] [TimeZones]

def texts (values : List String) : Json := .arr (values.map .str)

def entryToData (e : AdmissionFields) : Except PyExc Json := do
  let admittedAt ← timestamp e.admittedAt
  let validFrom ← timestamp e.validFrom
  let validUntil ← timestamp e.validUntil
  return .obj [
    ("admission_id", .str e.admissionId),
    ("admitted_at", admittedAt),
    ("admitted_by", .str e.admittedBy),
    ("applicability", applicabilityToData e.applicability),
    ("artifact_content_hashes", texts e.artifactContentHashes),
    ("artifact_ids", texts e.artifactIds),
    ("candidate_id", .str e.candidateId),
    ("candidate_material_hash", .str e.candidateMaterialHash),
    ("claim_ids", texts e.claimIds),
    ("eligibility_reason_codes", texts ["REGISTRATION_CHAIN_COMPLETE"]),
    ("eligibility_state", .str "ELIGIBLE_FOR_REGISTRATION"),
    ("evidence_source_id", .str e.evidenceSourceId),
    ("financial_semantics", e.financialSemantics.elim .null fun s => semanticsToData s.toSemanticsFields),
    ("loss_model_id", .str e.lossModelId),
    ("loss_model_version", .int e.lossModelVersion),
    ("proof_id", .str e.proofId),
    ("review_decision_id", .str e.reviewDecisionId),
    ("schema_version", .int 1),
    ("source_assessment_id", .str e.sourceAssessmentId),
    ("valid_from", validFrom),
    ("valid_until", validUntil),
    ("verification_decision_id", .str e.verificationDecisionId)]

def registryEntryOf (m : AdmissionFields) : Except PyExc DerivProofRegistryEntry :=
  if h : m.postInit = true then .ok ⟨m, h⟩ else .error (.exception "registry entry is inconsistent")

def lineageMatches (m : AdmissionFields) : Bool :=
  m.financialSemantics.all fun s => s.materialHash == m.candidateMaterialHash

def entryFieldsFromData (j : Json) : Except PyExc AdmissionFields := do
  let financialSemantics ← (← j.get "financial_semantics").orNone semanticsFromData
  let schemaVersion ← (← j.get "schema_version").asInt
  let eligibilityState ← (← j.get "eligibility_state").asText
  let eligibilityReasonCodes ← (← j.get "eligibility_reason_codes").asList Json.asText
  if schemaVersion ≠ 1 then .error (.exception "unsupported proof-registry schema version")
  else if eligibilityState ≠ "ELIGIBLE_FOR_REGISTRATION" ∨ eligibilityReasonCodes = [] ∨
      eligibilityReasonCodes.any (· != "REGISTRATION_CHAIN_COMPLETE") then
    .error (.exception "registry entry requires complete registration eligibility")
  else
    let admissionId ← (← j.get "admission_id").asText
    let proofId ← (← j.get "proof_id").asText
    let candidateId ← (← j.get "candidate_id").asText
    let candidateMaterialHash ← (← j.get "candidate_material_hash").asText
    let verificationDecisionId ← (← j.get "verification_decision_id").asText
    let sourceAssessmentId ← (← j.get "source_assessment_id").asText
    let reviewDecisionId ← (← j.get "review_decision_id").asText
    let artifactIds ← (← j.get "artifact_ids").asList Json.asText
    let artifactContentHashes ← (← j.get "artifact_content_hashes").asList Json.asText
    let claimIds ← (← j.get "claim_ids").asList Json.asText
    let applicability ← applicabilityFromData (← j.get "applicability")
    let lossModelId ← (← j.get "loss_model_id").asText
    let lossModelVersion ← (← j.get "loss_model_version").asInt
    let evidenceSourceId ← (← j.get "evidence_source_id").asText
    let admittedBy ← (← j.get "admitted_by").asText
    let admittedAt ← parseTimestamp (← j.get "admitted_at")
    let validFrom ← parseTimestamp (← j.get "valid_from")
    let validUntil ← parseTimestamp (← j.get "valid_until")
    return ⟨⟨candidateId, candidateMaterialHash, lossModelId, lossModelVersion, evidenceSourceId, sourceAssessmentId,
      reviewDecisionId, artifactIds, artifactContentHashes, claimIds, applicability, validFrom, validUntil,
      financialSemantics⟩, admissionId, proofId, verificationDecisionId, admittedBy, admittedAt⟩

def entryFromData (j : Json) : Except PyExc DerivProofRegistryEntry := do
  let entry ← registryEntryOf (← entryFieldsFromData j)
  if lineageMatches entry.toAdmissionFields then .ok entry
  else .error (.exception "financial semantic material hash does not match proof lineage")

omit [CaseMap] in
def revocationToData (r : GovernanceRevocation) : Except PyExc Json := do
  let revokedAt ← timestamp r.revokedAt
  return .obj [
    ("reason", .str (revocationReasonValue r.reason)),
    ("revocation_id", .str r.revocationId),
    ("revoked_at", revokedAt),
    ("revoked_by", .str r.revokedBy),
    ("schema_version", .int 1),
    ("superseded_by_id", .text r.supersededById),
    ("target_id", .str r.targetId),
    ("target_kind", .str (targetKindValue r.targetKind))]

omit [CaseMap] in
def revocationFromData (j : Json) : Except PyExc GovernanceRevocation := do
  let schemaVersion ← (← j.get "schema_version").asInt
  let revocationId ← (← j.get "revocation_id").asText
  let targetKind ← (← j.get "target_kind").asMember [.candidate, .independentVerification, .registeredProof]
    targetKindValue
  let targetId ← (← j.get "target_id").asText
  let reason ← (← j.get "reason").asMember [.revoked, .superseded, .evidenceInvalidated, .applicabilityInvalidated]
    revocationReasonValue
  let revokedBy ← (← j.get "revoked_by").asText
  let revokedAt ← parseTimestamp (← j.get "revoked_at")
  let supersededById ← (← j.get "superseded_by_id").orNone Json.asText
  if schemaVersion ≠ 1 then .error (.exception "unsupported proof-registration schema version")
  else if htexts : blank revocationId = false ∧ blank targetId = false ∧ blank revokedBy = false then
    if hsuperseded : (reason = .superseded → supersededById.any (fun s => !blank s)) ∧
        (reason ≠ .superseded → supersededById = none) then
      .ok ⟨revocationId, targetKind, targetId, reason, revokedBy, revokedAt, supersededById, htexts, hsuperseded⟩
    else .error (.exception "superseded_by_id is allowed only for SUPERSEDED")
  else .error (.exception "revocation texts must be nonblank strings")

/-! ### The durable state -/

omit [CaseMap] in
def RevocationsAgree (a b : GovernanceRevocation) : Prop :=
  (a.targetKind, a.targetId) = (b.targetKind, b.targetId) →
    a.reason = b.reason ∧ a.supersededById = b.supersededById

instance (a b : GovernanceRevocation) : Decidable (RevocationsAgree a b) := inferInstanceAs (Decidable (_ → _))

structure DerivDurableProofState [CaseMap] [TimeZones] where
  registry : DerivProofRegistryState
  revocations : List GovernanceRevocation
  ordered : revocations.Pairwise fun a b => a.revocationId ≤ b.revocationId
  revocationIds : (revocations.map fun r => r.revocationId).Nodup
  agree : revocations.Pairwise RevocationsAgree

def DerivDurableProofState.empty : DerivDurableProofState := ⟨.empty, [], .nil, List.nodup_nil, .nil⟩

def durableStateOf (registry : DerivProofRegistryState) (revocations : List GovernanceRevocation) :
    Except PyExc DerivDurableProofState :=
  if hordered : revocations.Pairwise fun a b => a.revocationId ≤ b.revocationId then
    if hids : (revocations.map fun r => r.revocationId).Nodup then
      if hagree : revocations.Pairwise RevocationsAgree then
        .ok ⟨registry, revocations, hordered, hids, hagree⟩
      else .error (.exception "conflicting revocation authority is not allowed")
    else .error (.exception "duplicate revocation ID is not allowed")
  else .error (.exception "revocations must use deterministic ID ordering")

def stateToPayload (state : DerivDurableProofState) : Except PyExc Json := do
  let entries ← state.registry.entries.mapM fun e => entryToData e.toAdmissionFields
  let revocations ← state.revocations.mapM revocationToData
  return .obj [("entries", .arr entries), ("revocations", .arr revocations)]

def stateFromPayload (payload : Json) : Except PyExc DerivDurableProofState := do
  if payload.keys ≠ ["entries", "revocations"] then .error (.exception "durable payload shape is invalid")
  else
    let registry ← registryStateOf (← (← payload.get "entries").asList entryFromData)
    let state ← durableStateOf registry (← (← payload.get "revocations").asList revocationFromData)
    if (← stateToPayload state).dumps = payload.dumps then .ok state
    else .error (.exception "durable payload is not canonical")

/-! ### The store -/

structure ProofStateRow where
  schemaVersion : ℤ
  payload : Json
  payloadHash : String

def payloadHash (payload : Json) : String :=
  "sha256:" ++ Sha256.hexdigest (payload.dumps.toList.map Char.toNat)

def load (row : Option ProofStateRow) : Except PyExc DerivDurableProofState :=
  match row with
  | none => .ok .empty
  | some row =>
    if row.schemaVersion ≠ 1 then .error (.exception "durable proof snapshot metadata is malformed")
    else if row.payloadHash ≠ payloadHash row.payload then
      .error (.exception "durable proof snapshot integrity check failed")
    else
      match stateFromPayload row.payload with
      | .ok state => .ok state
      | .error _ => .error malformed

def SameEntry (m n : AdmissionFields) : Prop :=
  SameAuthority m n ∧ m.admissionId = n.admissionId ∧ m.admittedBy = n.admittedBy ∧ m.admittedAt.Same n.admittedAt

instance (m n : AdmissionFields) : Decidable (SameEntry m n) := inferInstanceAs (Decidable (_ ∧ _))

omit [CaseMap] in
def SameRevocation (r s : GovernanceRevocation) : Prop :=
  r.revocationId = s.revocationId ∧ r.targetKind = s.targetKind ∧ r.targetId = s.targetId ∧ r.reason = s.reason ∧
  r.revokedBy = s.revokedBy ∧ r.revokedAt.Same s.revokedAt ∧ r.supersededById = s.supersededById

instance (r s : GovernanceRevocation) : Decidable (SameRevocation r s) := inferInstanceAs (Decidable (_ ∧ _))

/-- `all(new.get(key) == value for key, value in current.items())`, over dictionaries by a unique key. -/
def keepsItems {α : Type} (same : α → α → Bool) (key : α → String) (current new : List α) : Bool :=
  current.all fun value => (new.find? fun item => key item == key value).any fun item => same item value

def persist (row : Option ProofStateRow) (state : DerivDurableProofState) :
    Except PyExc (DerivDurableProofState × Option ProofStateRow) := do
  let payload ← stateToPayload state
  let rebuilt ← stateFromPayload payload
  let current ← load row
  if !keepsItems (fun e f => decide (SameEntry e.toAdmissionFields f.toAdmissionFields)) (·.proofId)
      current.registry.entries rebuilt.registry.entries then
    .error (.exception "persisted proof authority cannot be altered or removed")
  else if !keepsItems (fun r s => decide (SameRevocation r s)) (·.revocationId) current.revocations
      rebuilt.revocations then
    .error (.exception "persisted revocation authority cannot be altered or removed")
  else .ok (rebuilt, some ⟨1, payload, payloadHash payload⟩)

end DerivAdmission
end Jqe
