import Jqe.DerivStorable
import Jqe.DerivTermsSound
/-!
# DerivRenewal — a second proof of one applicability

The lookup counts the entries of an applicability before it looks at the revocations.
-/
namespace Jqe

open Coro Prog List

section

variable {S : Type} [DerivTermsSemantics S]

theorem registryStateOf_self (registry : DerivProofRegistryState S) :
    registryStateOf registry.entries = .ok registry := by
  unfold registryStateOf
  rw [dif_pos registry.proofIds, dif_pos registry.admissionIds, dif_pos registry.candidateIds, dif_pos registry.ordered]

theorem lookup_active_iff (registry : DerivProofRegistryState S) (applicability : DerivEvidenceApplicability)
    {revocations : List DerivProofGovernanceRevocation} (hids : (revocations.map fun r => r.revocationId).Nodup)
    (entry : DerivProofRegistryEntry S) :
    lookupDerivProofRegistry registry applicability revocations = .activeEntryFound entry ↔
      registry.entries.filter (fun e => e.applicability == applicability) = [entry] ∧
        ∀ r ∈ revocations, r.targets entry = false := by
  refine ⟨lookup_active, fun h => ?_⟩
  obtain ⟨honly, huntargeted⟩ := h
  have hany : revocations.any (fun r => r.targets entry) = false := by
    rw [any_eq_false]
    exact fun r hr => by simp [huntargeted r hr]
  unfold lookupDerivProofRegistry
  rw [honly]
  simp [hids, hany]

/-- **Two entries of an applicability conflict, whatever is revoked.** -/
theorem lookup_conflict {registry : DerivProofRegistryState S} {e e' : DerivProofRegistryEntry S}
    (he : e ∈ registry.entries) (he' : e' ∈ registry.entries) (hne : e ≠ e')
    (hsame : e.applicability = e'.applicability) (revocations : List DerivProofGovernanceRevocation) :
    lookupDerivProofRegistry registry e.applicability revocations = .conflictingState := by
  have hmem : e ∈ registry.entries.filter (fun f => f.applicability == e.applicability) := by simp [he]
  have hmem' : e' ∈ registry.entries.filter (fun f => f.applicability == e.applicability) := by simp [he', hsame]
  unfold lookupDerivProofRegistry
  split
  · rfl
  · split
    · next hnil =>
      rw [hnil] at hmem
      cases hmem
    · next hone =>
      rw [hone, mem_singleton] at hmem hmem'
      exact absurd (hmem.trans hmem'.symm) hne
    · rfl

omit [DerivTermsSemantics S] in
theorem revocationsConflict_eq_false : ∀ {revocations seen : List DerivProofGovernanceRevocation},
    ((seen.reverse ++ revocations).map fun r => r.revocationId).Nodup →
    (seen.reverse ++ revocations).Pairwise RevocationsAgree → revocationsConflict seen revocations = false
  | [], _, _, _ => rfl
  | record :: records, seen, hids, hagree => by
    have hshift : seen.reverse ++ record :: records = (record :: seen).reverse ++ records := by simp
    have hfresh : (seen.any fun r => r.revocationId == record.revocationId) = false := by
      rw [any_eq_false]
      intro r hr
      rw [beq_iff_eq]
      rw [map_append, nodup_append] at hids
      exact hids.2.2 _ (mem_map_of_mem (mem_reverse.2 hr)) _ (mem_map_of_mem mem_cons_self)
    have hrest : revocationsConflict (record :: seen) records = false :=
      revocationsConflict_eq_false (hshift ▸ hids) (hshift ▸ hagree)
    unfold revocationsConflict
    rw [hfresh, if_neg Bool.false_ne_true]
    split
    · next existing hfind =>
      have hmem := mem_of_find?_eq_some hfind
      have htarget := find?_some hfind
      rw [Bool.and_eq_true, beq_iff_eq, beq_iff_eq] at htarget
      have hpair := (pairwise_append.1 hagree).2.2 existing (mem_reverse.2 hmem) record mem_cons_self
      obtain ⟨hreason, hsuperseded⟩ := hpair (Prod.ext htarget.1 htarget.2)
      rw [hreason, hsuperseded]
      simpa using hrest
    · exact hrest

variable [DecidableEq S]

theorem validate_of_durable (durable : DerivDurableProofState S) :
    registryIsWellFormed durable.registry = true ∧ revocationsConflict [] durable.revocations = false := by
  constructor
  · unfold registryIsWellFormed
    rw [registryStateOf_self]
    simp
  · exact revocationsConflict_eq_false durable.revocationIds durable.agree

theorem validate_available_of_active {durable : DerivDurableProofState S} {e : DerivProofRegistryEntry S}
    (hlookup : lookupDerivProofRegistry durable.registry e.applicability durable.revocations = .activeEntryFound e)
    {evaluatedAt : ℤ} (hfrom : e.validFrom ≤ evaluatedAt) (huntil : evaluatedAt ≤ e.validUntil) :
    validateAuthoritativeProof durable.registry ⟨e.toDerivProofMaterial, e.applicability, evaluatedAt⟩
      durable.revocations = .proofAvailable e := by
  obtain ⟨hformed, hagree⟩ := validate_of_durable durable
  have hreasons : unavailableReasons ⟨e.toDerivProofMaterial, e.applicability, evaluatedAt⟩ e = [] := by
    unfold unavailableReasons
    simp [not_lt.2 hfrom, not_lt.2 huntil]
  unfold validateAuthoritativeProof
  simp [hformed, hagree, hlookup, hreasons]

theorem validate_conflict {durable : DerivDurableProofState S} {request : DerivProofConsumptionRequest S}
    (hlookup : lookupDerivProofRegistry durable.registry request.applicability durable.revocations =
      .conflictingState) :
    validateAuthoritativeProof durable.registry request durable.revocations = .proofConflict [.registryConflict] := by
  obtain ⟨hformed, hagree⟩ := validate_of_durable durable
  unfold validateAuthoritativeProof
  simp [hformed, hagree, hlookup]

variable [PayloadHash S]

/-- **What an applicability has of its entries.** -/
structure LookupSettled (S : Type) [DerivTermsSemantics S] [DecidableEq S] [PayloadHash S] : Prop where
  /-- the only entry, while no stored revocation targets it -/
  selects : ∀ (w : Option (ProofStateRow S)) durable applicability e, loadRow w = .ok durable →
    (lookupDerivProofRegistry durable.registry applicability durable.revocations = .activeEntryFound e ↔
      durable.registry.entries.filter (fun f => f.applicability == applicability) = [e] ∧
        ∀ r ∈ durable.revocations, r.targets e = false)
  /-- and it is available inside its window -/
  available : ∀ (w : Option (ProofStateRow S)) durable (e : DerivProofRegistryEntry S) evaluatedAt,
    loadRow w = .ok durable → durable.registry.entries.filter (fun f => f.applicability == e.applicability) = [e] →
    (∀ r ∈ durable.revocations, r.targets e = false) → e.validFrom ≤ evaluatedAt → evaluatedAt ≤ e.validUntil →
    validateAuthoritativeProof durable.registry ⟨e.toDerivProofMaterial, e.applicability, evaluatedAt⟩
      durable.revocations = .proofAvailable e
  /-- two entries conflict now and after any later calls of the store -/
  conflicts : ∀ (w w' : Option (ProofStateRow S)) durable (e e' : DerivProofRegistryEntry S), loadRow w = .ok durable →
    e ∈ durable.registry.entries → e' ∈ durable.registry.entries → e ≠ e' → e.applicability = e'.applicability →
    CallsTo S w w' →
    ∃ later, loadRow w' = .ok later ∧
      lookupDerivProofRegistry later.registry e.applicability later.revocations = .conflictingState ∧
      ∀ request : DerivProofConsumptionRequest S, request.applicability = e.applicability →
        validateAuthoritativeProof later.registry request later.revocations = .proofConflict [.registryConflict]

/-- **An applicability is for one proof**: what supersedes a proof never takes its place. -/
theorem lookup_settled (S : Type) [DerivTermsSemantics S] [DecidableEq S] [PayloadHash S] : LookupSettled S where
  selects := fun _ durable applicability e _ => lookup_active_iff durable.registry applicability durable.revocationIds e
  available := by
    intro _ durable e evaluatedAt _ honly huntargeted hfrom huntil
    exact validate_available_of_active
      ((lookup_active_iff durable.registry e.applicability durable.revocationIds e).2 ⟨honly, huntargeted⟩) hfrom huntil
  conflicts := by
    intro w w' durable e e' hload he he' hne hsame hcalls
    have hstored : Stored w durable := ⟨durable, hload, fun _ h => h, fun _ h => h⟩
    obtain ⟨later, hlater, hcovers⟩ := hstored.callsTo hcalls
    have hlookup : lookupDerivProofRegistry later.registry e.applicability later.revocations = .conflictingState :=
      lookup_conflict (hcovers.entries e he) (hcovers.entries e' he') hne hsame later.revocations
    exact ⟨later, hlater, hlookup, fun request happlicability => validate_conflict (happlicability ▸ hlookup)⟩

end

/-! ### A renewal -/

namespace DerivAdmission

open AwareTime

section

variable [CaseMap] [TimeZones]

theorem admit_next {registry registry' : DerivProofRegistryState} {call : AdmissionCall}
    (hreasons : conflictReasons registry call = ∅) (hentries : registry'.entries = registry.entries ++ [call.entry]) :
    admitDerivProofRegistryEntry registry call = .ok (.admitted call.entry, registry') := by
  have hfind : (registry.entries.find? fun e => e.proofId == call.request.proofId) = none := by
    have hnone := hreasons
    unfold conflictReasons at hnone
    simp only [Finset.union_eq_empty, flag_eq_empty] at hnone
    rw [List.find?_eq_none]
    intro e he hsame
    exact hnone.1.2 ⟨e, he, by simpa using hsame⟩
  have hsort : (registry.entries ++ [call.entry]).mergeSort (fun a b => decide (a.proofId ≤ b.proofId)) =
      registry'.entries := by
    rw [← hentries]
    exact mergeSort_of_pairwise (registry'.ordered.imp fun h => by simpa using h)
  unfold admitDerivProofRegistryEntry
  simp only [hfind, hreasons, ne_eq, not_true, if_false, hsort, registryStateOf_self]
  rfl

theorem admitAll_next {registry registry' : DerivProofRegistryState} {call : AdmissionCall} {calls : List AdmissionCall}
    {result : DerivProofAdmissionResult} (h : admitDerivProofRegistryEntry registry call = .ok (result, registry')) :
    admitAll registry (call :: calls) = admitAll registry' calls := by
  rw [admitAll, h]
  rfl

end

local instance renewalCase : CaseMap := asciiCase

local instance renewalZones : TimeZones := fixedZones

def renewalLineage (candidate : String) : ProofLineage :=
  { verifiedLineage with candidateId := candidate, financialSemantics := none }

def renewalChain (candidate verification : String) (h : blank verification = false)
    (hok : ((renewalLineage candidate).postInit && (renewalLineage candidate).semanticsBound) = true) :
    RegistrationChain where
  candidate := ⟨renewalLineage candidate, hok⟩
  verification := ⟨renewalLineage candidate, verification, .verified, h, hok⟩
  sourceAssessment := ⟨{ readyAssessment.toAssessmentFields with financialSemantics := none }, by decide +kernel⟩
  reviewDecision := ⟨{ approvedDecision.toDecisionFields with financialSemantics := none }, by decide +kernel⟩
  evidenceRegistry := reviewedEvidence
  revocations := []

def renewalFields (candidate verification admission proof : String) : AdmissionFields :=
  ⟨renewalLineage candidate, admission, proof, verification, "operator", (fieldsWith verifiedSemantics).admittedAt⟩

def firstCall : AdmissionCall where
  request := ⟨renewalFields "candidate-1" "verification-1" "admission-1" "proof-1", by decide +kernel⟩
  eligibility := .complete
  chain := renewalChain "candidate-1" "verification-1" (by decide) (by decide +kernel)

def secondCall : AdmissionCall where
  request := ⟨renewalFields "candidate-2" "verification-2" "admission-2" "proof-2", by decide +kernel⟩
  eligibility := .complete
  chain := renewalChain "candidate-2" "verification-2" (by decide) (by decide +kernel)

def renewedRegistry : DerivProofRegistryState :=
  ⟨[firstCall.entry, secondCall.entry], by decide +kernel, by decide +kernel, by decide +kernel, by decide +kernel⟩

theorem renewal_admitted : admitAll .empty [firstCall, secondCall] = .ok renewedRegistry := by
  have hfirst : admitDerivProofRegistryEntry .empty firstCall = .ok (.admitted firstCall.entry, registryOf firstCall.entry) :=
    admit_next (by decide +kernel) rfl
  have hsecond : admitDerivProofRegistryEntry (registryOf firstCall.entry) secondCall =
      .ok (.admitted secondCall.entry, renewedRegistry) := admit_next (by decide +kernel) rfl
  rw [admitAll_next hfirst, admitAll_next hsecond]
  rfl

def AdmissionFields.material (m : AdmissionFields) : DerivProofMaterial Unit where
  admissionId := m.admissionId
  proofId := m.proofId
  candidateId := m.candidateId
  candidateMaterialHash := m.candidateMaterialHash
  verificationDecisionId := m.verificationDecisionId
  sourceAssessmentId := m.sourceAssessmentId
  reviewDecisionId := m.reviewDecisionId
  artifactIds := m.artifactIds
  artifactContentHashes := m.artifactContentHashes
  claimIds := m.claimIds
  applicability := m.applicability
  lossModelId := m.lossModelId
  lossModelVersion := m.lossModelVersion
  evidenceSourceId := m.evidenceSourceId
  admittedBy := m.admittedBy
  admittedAt := m.admittedAt.instant
  validFrom := m.validFrom.instant
  validUntil := m.validUntil.instant
  financialSemantics := none

def boundScope : DerivEvidenceApplicability := { multiplierScope with contractFamily := some "MULTUP" }

def monetaryOutput (semantic : DerivOutputSemantic) : Jqe.DerivFinancialOutput :=
  ⟨semantic, .accountCurrencyAmount, .applicabilityAccountCurrency⟩

local instance renewalSemantics : DerivTermsSemantics Unit where
  applicability _ := boundScope
  materialHash _ := verifiedHash
  output _ := monetaryOutput .syntheticMonetaryLossForSuppliedInputs
  takeProfitOutput _ := some (monetaryOutput .syntheticMonetaryProfitForSuppliedInputs)
  takeProfitSemanticId _ := some "target"
  maximumLossOutput _ := some (monetaryOutput .syntheticMaximumMonetaryLoss)
  maximumLossSemanticId _ := some "loss"
  allowedMultiplierValues _ := [10]

local instance renewalHash : PayloadHash Unit :=
  ⟨fun payload => "sha256:" ++ String.intercalate "," (payload.entries.map fun e => e.proofId)⟩

def firstEntry : Jqe.DerivProofRegistryEntry Unit := ⟨firstCall.entry.material, by decide +kernel⟩

def secondEntry : Jqe.DerivProofRegistryEntry Unit := ⟨secondCall.entry.material, by decide +kernel⟩

def supersession : DerivProofGovernanceRevocation where
  revocationId := "revocation-1"
  targetKind := .registeredProof
  targetId := "proof-1"
  reason := .superseded
  revokedBy := "governance"
  revokedAt := 3
  supersededById := some "proof-2"
  texts_nonblank := by decide
  superseded_iff := by decide

/-- The second proof, for an applicability of its own. -/
def boundEntry : Jqe.DerivProofRegistryEntry Unit :=
  ⟨{ secondCall.entry.material with applicability := boundScope, financialSemantics := some () }, by decide +kernel⟩

def soleState : Jqe.DerivDurableProofState Unit where
  registry := ⟨[boundEntry], List.pairwise_singleton _ _, List.pairwise_singleton _ _, List.pairwise_singleton _ _,
    List.pairwise_singleton _ _⟩
  revocations := [supersession]
  ordered := List.pairwise_singleton _ _
  revocationIds := List.pairwise_singleton _ _
  agree := List.pairwise_singleton _ _

def soleRow : Option (Jqe.ProofStateRow Unit) := some (Jqe.proofStateRow (Jqe.stateToPayload soleState))

theorem soleRow_loads : loadRow soleRow = .ok soleState := loadRow_proofStateRow (by decide +kernel)

/-- It is available beside the record that supersedes the first proof. -/
theorem lookup_settled_sole : loadRow soleRow = .ok soleState ∧
    validateAuthoritativeProof soleState.registry ⟨boundEntry.toDerivProofMaterial, boundScope, boundEntry.validFrom⟩
      soleState.revocations = .proofAvailable boundEntry := by
  refine ⟨soleRow_loads, (lookup_settled Unit).available _ soleState boundEntry _ soleRow_loads rfl (fun r hr => ?_) le_rfl
    (by decide +kernel)⟩
  rw [List.mem_singleton.1 hr]
  decide +kernel

def boundPropositions : DerivSyntheticFinancialPropositions := ⟨20, 10, 5, 5, some 20, by decide +kernel, by decide +kernel⟩

def boundRequest : DerivExecutionTermsServiceRequest :=
  ⟨boundScope, boundEntry.validFrom, 20, some boundPropositions, none, by decide, by decide +kernel, by simp⟩

theorem terms_settled_sole : ∃ result, EndsIn (proofSystem Unit) .load (evaluate boundRequest) soleRow (.ok result) soleRow ∧
    loadRow soleRow = .ok soleState ∧ ∃ terms entry, result.terms = some terms ∧
      TermsAuthorized soleState boundRequest terms entry ∧ entry ≠ firstEntry := by
  obtain ⟨result, heval, hstate⟩ : ∃ result, evaluateTerms (.ok soleState) boundRequest = .ok result ∧
      result.state = .termsAvailable := ⟨⟨.termsAvailable, "Synthetic offline financial propositions validated",
    some (termsOf boundEntry boundPropositions 20 none)⟩, by decide +kernel, rfl⟩
  have hends : EndsIn (proofSystem Unit) .load (evaluate boundRequest) soleRow (.ok result) soleRow := by
    refine .call (.ok ()) .validated (.call (.ok _) .selected ?_)
    show EndsIn _ _ ((Prog.ofExcept (loadRow _)).bindAny fun loaded => Prog.ofExcept (evaluateTerms loaded boundRequest)) _ _ _
    rw [soleRow_loads]
    show EndsIn _ _ (Prog.ofExcept (evaluateTerms (.ok soleState) boundRequest)) _ _ _
    rw [heval]
    exact .ret _ _
  obtain ⟨later, terms, entry, hlater, hsome, hauthorized, hne, -⟩ := (terms_settled Unit).revoked _ _ soleState
    supersession firstEntry soleRow_loads List.mem_cons_self (by decide +kernel) .refl boundRequest .load _ result hends hstate
  cases soleRow_loads.symm.trans hlater
  exact ⟨result, hends, soleRow_loads, terms, entry, hsome, hauthorized, hne⟩

def renewedState : Jqe.DerivDurableProofState Unit where
  registry := ⟨[firstEntry, secondEntry], by decide +kernel, by decide +kernel, by decide +kernel, by decide +kernel⟩
  revocations := [supersession]
  ordered := List.pairwise_singleton _ _
  revocationIds := List.pairwise_singleton _ _
  agree := List.pairwise_singleton _ _

/-- **A superseded proof leaves its applicability in conflict**: both proofs were admitted, and the store holds them with
the record that names the second one. -/
theorem renewal_conflicts : ∃ (w : Option (Jqe.ProofStateRow Unit)) (durable : Jqe.DerivDurableProofState Unit)
    (old new : Jqe.DerivProofRegistryEntry Unit) (registry : DerivProofRegistryState),
    admitAll .empty [firstCall, secondCall] = .ok registry ∧
    registry.entries.map (fun e => e.material) = durable.registry.entries.map (fun e => e.toDerivProofMaterial) ∧
    CallsTo Unit none w ∧ loadRow w = .ok durable ∧ durable.registry.entries = [old, new] ∧
    old.applicability = new.applicability ∧
    (∃ r ∈ durable.revocations, r.targetKind = .registeredProof ∧ r.targetId = old.proofId ∧ r.reason = .superseded ∧
      r.supersededById = some new.proofId) ∧
    (∀ r ∈ durable.revocations, r.targets new = false) ∧
    lookupDerivProofRegistry durable.registry new.applicability durable.revocations = .conflictingState ∧
    ∀ evaluatedAt, validateAuthoritativeProof durable.registry ⟨new.toDerivProofMaterial, new.applicability, evaluatedAt⟩
      durable.revocations = .proofConflict [.registryConflict] := by
  have hstate : Jqe.stateFromPayload (Jqe.stateToPayload renewedState) = .ok renewedState := by decide +kernel
  have hcall : RunsTo (proofSystem Unit) (.persist renewedState) (ProofCall.persist renewedState).prog none
      (some (Jqe.proofStateRow (Jqe.stateToPayload renewedState))) := by
    show RunsTo _ _ (persistProofState renewedState) _ _
    unfold persistProofState
    rw [hstate]
    exact .call (.ok ()) .validated (.call (.ok none) .selected (.call (.ok ()) (.committed _) (.stop _ _)))
  have hne : firstEntry ≠ secondEntry := by decide +kernel
  have hlookup : lookupDerivProofRegistry renewedState.registry secondEntry.applicability renewedState.revocations =
      .conflictingState :=
    lookup_conflict (List.mem_cons_of_mem _ List.mem_cons_self) List.mem_cons_self hne.symm rfl _
  refine ⟨_, renewedState, firstEntry, secondEntry, renewedRegistry, renewal_admitted, rfl, .single ⟨_, hcall⟩,
    loadRow_proofStateRow hstate, rfl, rfl, ⟨supersession, List.mem_singleton_self _, rfl, rfl, rfl, rfl⟩, ?_, hlookup,
    fun _ => validate_conflict hlookup⟩
  intro r hr
  rw [List.mem_singleton.1 hr]
  decide +kernel

end DerivAdmission

end Jqe
