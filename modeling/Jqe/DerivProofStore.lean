import Jqe.CoroSeq
import Jqe.PyBase
/-!
# DerivProofStore — `broker/deriv_proof_store.py`: durable proofs and revocations

The registry entries and the revocations, the snapshot they are stored as, and `load` and `persist` of any number of
store objects on one file.  Canonical JSON stands for the record it spells.  An entry has one eligibility, and a moment
is a whole number of microseconds; the financial semantics are any type with an applicability and a material hash, and
the hash of a payload is any function of it.
-/
namespace Jqe

open Coro Prog

structure DerivEvidenceApplicability where
  broker : String
  contractFamily : Option String
  symbol : Option String
  accountCurrency : Option String
  environment : Option String
  quantityBasis : Option String
  stopLossSemanticId : Option String
  multiplierSemanticsId : Option String
  symbolCapabilityScope : Option String
  deriving DecidableEq

def DerivEvidenceApplicability.complete (a : DerivEvidenceApplicability) : Bool :=
  [a.contractFamily, a.symbol, a.accountCurrency, a.environment, a.quantityBasis, a.stopLossSemanticId,
    a.multiplierSemanticsId, a.symbolCapabilityScope].all (fun text => text.any fun s => !blank s) &&
    (a.environment == some "demo" || a.environment == some "real")

/-- `DerivFinancialSemanticsSpecification`, as far as the registry looks at it. -/
class DerivSemantics (S : Type) where
  applicability : S → DerivEvidenceApplicability
  materialHash : S → String

def isSha256 (text : String) : Bool :=
  let digits := text.toList.drop 7
  "sha256:".isPrefixOf text && digits.length == 64 && digits.all fun c => c.isDigit || ('a' ≤ c && c ≤ 'f')

def identityTuple (values : List String) : Bool :=
  values.all (fun value => !blank value) && !values.isEmpty && decide values.Nodup

structure DerivProofMaterial (S : Type) where
  admissionId : String
  proofId : String
  candidateId : String
  candidateMaterialHash : String
  verificationDecisionId : String
  sourceAssessmentId : String
  reviewDecisionId : String
  artifactIds : List String
  artifactContentHashes : List String
  claimIds : List String
  applicability : DerivEvidenceApplicability
  lossModelId : String
  lossModelVersion : ℤ
  evidenceSourceId : String
  admittedBy : String
  admittedAt : ℤ
  validFrom : ℤ
  validUntil : ℤ
  financialSemantics : Option S
  deriving DecidableEq

def DerivProofMaterial.postInit {S : Type} [DerivSemantics S] (m : DerivProofMaterial S) : Bool :=
  [m.admissionId, m.proofId, m.candidateId, m.verificationDecisionId, m.sourceAssessmentId, m.reviewDecisionId,
    m.lossModelId, m.evidenceSourceId, m.admittedBy].all (fun text => !blank text) &&
  isSha256 m.candidateMaterialHash && decide (0 < m.lossModelVersion) && identityTuple m.artifactIds &&
  m.artifactContentHashes.all isSha256 && m.artifactIds.length == m.artifactContentHashes.length &&
  identityTuple m.claimIds && m.applicability.complete && decide (m.validFrom < m.validUntil) &&
  m.financialSemantics.all fun semantics => DerivSemantics.applicability semantics == m.applicability

structure DerivProofRegistryEntry (S : Type) [DerivSemantics S] extends DerivProofMaterial S where
  ok : toDerivProofMaterial.postInit = true
  deriving DecidableEq

inductive DerivGovernanceRevocationTarget where
  | candidate
  | independentVerification
  | registeredProof
  deriving DecidableEq

inductive DerivGovernanceRevocationReason where
  | revoked
  | superseded
  | evidenceInvalidated
  | applicabilityInvalidated
  deriving DecidableEq

structure DerivProofGovernanceRevocation where
  revocationId : String
  targetKind : DerivGovernanceRevocationTarget
  targetId : String
  reason : DerivGovernanceRevocationReason
  revokedBy : String
  revokedAt : ℤ
  supersededById : Option String
  texts_nonblank : blank revocationId = false ∧ blank targetId = false ∧ blank revokedBy = false
  superseded_iff : (reason = .superseded → supersededById.any (fun s => !blank s)) ∧
    (reason ≠ .superseded → supersededById = none)
  deriving DecidableEq

section

variable {S : Type} [DerivSemantics S]

/-- `DerivProofRegistryState`: unique identities, in the order of the proof IDs. -/
structure DerivProofRegistryState (S : Type) [DerivSemantics S] where
  entries : List (DerivProofRegistryEntry S)
  proofIds : (entries.map fun e => e.proofId).Nodup
  admissionIds : (entries.map fun e => e.admissionId).Nodup
  candidateIds : (entries.map fun e => e.candidateId).Nodup
  ordered : entries.Pairwise fun a b => a.proofId ≤ b.proofId
  deriving DecidableEq

def RevocationsAgree (a b : DerivProofGovernanceRevocation) : Prop :=
  (a.targetKind, a.targetId) = (b.targetKind, b.targetId) →
    a.reason = b.reason ∧ a.supersededById = b.supersededById

instance (a b : DerivProofGovernanceRevocation) : Decidable (RevocationsAgree a b) :=
  inferInstanceAs (Decidable (_ → _))

structure DerivDurableProofState (S : Type) [DerivSemantics S] where
  registry : DerivProofRegistryState S
  revocations : List DerivProofGovernanceRevocation
  ordered : revocations.Pairwise fun a b => a.revocationId ≤ b.revocationId
  revocationIds : (revocations.map fun r => r.revocationId).Nodup
  agree : revocations.Pairwise RevocationsAgree
  deriving DecidableEq

def DerivDurableProofState.empty : DerivDurableProofState S :=
  ⟨⟨[], .nil, .nil, .nil, .nil⟩, [], .nil, .nil, .nil⟩

structure DerivProofPayload (S : Type) [DerivSemantics S] where
  entries : List (DerivProofRegistryEntry S)
  revocations : List DerivProofGovernanceRevocation
  deriving DecidableEq

class PayloadHash (S : Type) [DerivSemantics S] where
  payloadHash : DerivProofPayload S → String

def stateToPayload (state : DerivDurableProofState S) : DerivProofPayload S :=
  ⟨state.registry.entries, state.revocations⟩

def registryStateOf (entries : List (DerivProofRegistryEntry S)) : Except PyExc (DerivProofRegistryState S) :=
  if hproof : (entries.map fun e => e.proofId).Nodup then
    if hadmission : (entries.map fun e => e.admissionId).Nodup then
      if hcandidate : (entries.map fun e => e.candidateId).Nodup then
        if hordered : entries.Pairwise fun a b => a.proofId ≤ b.proofId then
          .ok ⟨entries, hproof, hadmission, hcandidate, hordered⟩
        else .error (.exception "registry entries must use deterministic proof-ID ordering")
      else .error (.exception "duplicate candidate ID is not allowed")
    else .error (.exception "duplicate admission ID is not allowed")
  else .error (.exception "duplicate proof ID is not allowed")

def durableStateOf (registry : DerivProofRegistryState S) (revocations : List DerivProofGovernanceRevocation) :
    Except PyExc (DerivDurableProofState S) :=
  if hordered : revocations.Pairwise fun a b => a.revocationId ≤ b.revocationId then
    if hids : (revocations.map fun r => r.revocationId).Nodup then
      if hagree : revocations.Pairwise RevocationsAgree then
        .ok ⟨registry, revocations, hordered, hids, hagree⟩
      else .error (.exception "conflicting revocation authority is not allowed")
    else .error (.exception "duplicate revocation ID is not allowed")
  else .error (.exception "revocations must use deterministic ID ordering")

def lineageMatches (entry : DerivProofRegistryEntry S) : Bool :=
  entry.financialSemantics.all fun semantics => DerivSemantics.materialHash semantics == entry.candidateMaterialHash

def stateFromPayload [DecidableEq S] (payload : DerivProofPayload S) : Except PyExc (DerivDurableProofState S) := do
  if !payload.entries.all lineageMatches then
    .error (.exception "financial semantic material hash does not match proof lineage")
  else
    let registry ← registryStateOf payload.entries
    let state ← durableStateOf registry payload.revocations
    if stateToPayload state = payload then pure state
    else .error (.exception "durable payload is not canonical")

structure ProofStateRow (S : Type) [DerivSemantics S] where
  schemaVersion : ℤ
  payload : DerivProofPayload S
  payloadHash : String
  deriving DecidableEq

variable [DecidableEq S] [PayloadHash S]

def proofStateRow (payload : DerivProofPayload S) : ProofStateRow S := ⟨1, payload, PayloadHash.payloadHash payload⟩

def loadRow (row : Option (ProofStateRow S)) : Except PyExc (DerivDurableProofState S) :=
  match row with
  | none => .ok .empty
  | some row =>
    if row.schemaVersion ≠ 1 then .error (.exception "durable proof snapshot metadata is malformed")
    else if row.payloadHash ≠ PayloadHash.payloadHash row.payload then
      .error (.exception "durable proof snapshot integrity check failed")
    else
      match stateFromPayload row.payload with
      | .ok state => .ok state
      | .error _ => .error (.exception "durable proof snapshot is malformed")

/-- `all(new.get(key) == value for key, value in current.items())` over dictionaries by a unique key. -/
def keepsItems {α : Type} [DecidableEq α] (key : α → String) (current new : List α) : Bool :=
  current.all fun value => new.find? (fun item => key item == key value) == some value

/-! ### `load` and `persist` -/

/-- What a call asks of the file, each on a connection of its own. -/
inductive ProofReq (S : Type) [DerivSemantics S] where
  /-- `_validate_schema`, on a read-only connection -/
  | validateSchema
  /-- `SELECT … FROM deriv_proof_state` -/
  | selectState
  /-- the transaction of `persist`, from `BEGIN IMMEDIATE` to its commit -/
  | upsertState (row : ProofStateRow S)

@[reducible] def ProofReq.Ans {S : Type} [DerivSemantics S] : ProofReq S → Type
  | validateSchema | upsertState _ => Unit
  | selectState => Option (ProofStateRow S)

abbrev ProofProg (S : Type) [DerivSemantics S] := Prog (ProofReq S) ProofReq.Ans PyExc (DerivDurableProofState S)

def selectProofState : ProofProg S :=
  .call .selectState fun
    | .error e => .raise e
    | .ok row => Prog.ofExcept (loadRow row)

def loadProofState : ProofProg S :=
  .call .validateSchema fun
    | .error e => .raise e
    | .ok _ => selectProofState

def upsertProofState (payload : DerivProofPayload S) (rebuilt : DerivDurableProofState S) : ProofProg S :=
  .call (.upsertState (proofStateRow payload)) fun
    | .error e => .raise e
    | .ok _ => .ret rebuilt

/-- `persist` from its check on: what was loaded against what is to be stored. -/
def persistOver (payload : DerivProofPayload S) (rebuilt current : DerivDurableProofState S) : ProofProg S :=
  if !keepsItems (fun e : DerivProofRegistryEntry S => e.proofId) current.registry.entries rebuilt.registry.entries then
    .raise (.exception "persisted proof authority cannot be altered or removed")
  else if !keepsItems (fun r => r.revocationId) current.revocations rebuilt.revocations then
    .raise (.exception "persisted revocation authority cannot be altered or removed")
  else upsertProofState payload rebuilt

def persistProofState (state : DerivDurableProofState S) : ProofProg S :=
  match stateFromPayload (stateToPayload state) with
  | .error e => .raise e
  | .ok rebuilt => loadProofState.bind (persistOver (stateToPayload state) rebuilt)

inductive ProofCall (S : Type) [DerivSemantics S] where
  | load
  | persist (state : DerivDurableProofState S)

def ProofCall.prog : ProofCall S → ProofProg S
  | load => loadProofState
  | persist state => persistProofState state

/-- **What a request may do**: a transaction commits, raises rolled back, or raises although it committed. -/
inductive ProofExec (w : Option (ProofStateRow S)) :
    (r : ProofReq S) → Except PyExc r.Ans → Option (ProofStateRow S) → Prop
  | validated : ProofExec w .validateSchema (.ok ()) w
  | selected : ProofExec w .selectState (.ok w) w
  | committed (row : ProofStateRow S) : ProofExec w (.upsertState row) (.ok ()) (some row)
  | lost (row : ProofStateRow S) (e : PyExc) : ProofExec w (.upsertState row) (.error e) (some row)
  | failed (r : ProofReq S) (e : PyExc) : ProofExec w r (.error e) w

/-- **Any calls of any store objects on one file**, which holds any row at first. -/
def proofSystem (S : Type) [DerivSemantics S] :
    System (ProofReq S) ProofReq.Ans PyExc (Option (ProofStateRow S)) (ProofCall S) where
  init _ := True
  admits _ := True
  exec w _ r ans w' := ProofExec w r ans w'
  tick _ _ := False

abbrev ProofConfig (S : Type) [DerivSemantics S] :=
  Config (ProofReq S) ProofReq.Ans PyExc (DerivDurableProofState S) (Option (ProofStateRow S)) (ProofCall S)

end

end Jqe
