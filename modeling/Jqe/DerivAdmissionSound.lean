import Jqe.DerivAdmission
/-!
# DerivAdmissionSound — what stands behind an admitted entry

An admission that meets no reason has a verified candidate, a ready assessment and an approved decision that agree with
the request, evidence for each artifact and claim, and no revocation.
-/
namespace Jqe
namespace DerivAdmission

open AwareTime List

variable [CaseMap] [TimeZones]

structure Backed (call : AdmissionCall) (e : DerivProofRegistryEntry) : Prop where
  verified : call.chain.verification.state = .verified
  ready : call.chain.sourceAssessment.state = .readyForAuthoritativeProofReview
  approved : call.chain.reviewDecision.state = .approvedForProofReview
  verificationId : e.verificationDecisionId = call.chain.verification.verificationDecisionId
  assessmentId : e.sourceAssessmentId = call.chain.sourceAssessment.assessmentId
  decisionId : e.reviewDecisionId = call.chain.reviewDecision.decisionId
  lineage : SameLineage e.toProofLineage call.chain.verification.toProofLineage
  artifacts : e.artifactIds = call.chain.sourceAssessment.artifactIds ∧ e.artifactIds = call.chain.reviewDecision.artifactIds
  hashes : e.artifactContentHashes = call.chain.sourceAssessment.artifactContentHashes ∧
    e.artifactContentHashes = call.chain.reviewDecision.artifactContentHashes
  claims : e.claimIds = call.chain.sourceAssessment.claimIds ∧ e.claimIds = call.chain.reviewDecision.claimIds
  applicability : e.applicability = call.chain.verification.applicability ∧
    e.applicability = call.chain.sourceAssessment.applicability ∧ e.applicability = call.chain.reviewDecision.applicability
  semantics : SameSemantics e.financialSemantics call.chain.verification.financialSemantics ∧
    SameSemantics e.financialSemantics call.chain.sourceAssessment.financialSemantics ∧
    SameSemantics e.financialSemantics call.chain.reviewDecision.financialSemantics
  artifactsReviewed : ∀ p ∈ e.artifactIds.zip e.artifactContentHashes, ∃ a ∈ call.chain.evidenceRegistry.artifacts,
    a.artifactId = strip p.1 ∧ a.contentHash = p.2 ∧ a.reviewState = .reviewed
  claimsReviewed : ∀ id ∈ e.claimIds, ∃ a ∈ call.chain.evidenceRegistry.artifacts,
    (∃ artifactId ∈ e.artifactIds, a.artifactId = strip artifactId) ∧
      ∃ claim ∈ a.claims, claim.claimId = id ∧ claim.reviewState = .reviewed ∧ claim.applicability = e.applicability
  unrevoked : ¬call.chain.Revoked .candidate e.candidateId ∧
    ¬call.chain.Revoked .independentVerification e.verificationDecisionId ∧
    ¬call.chain.Revoked .registeredProof e.proofId

omit [CaseMap] [TimeZones] in
theorem flag_eq_empty {R : Type} {c : Prop} [Decidable c] {reason : R} : flag c reason = ∅ ↔ ¬c := by
  unfold flag
  split
  · rename_i hc
    simp [hc]
  · rename_i hc
    simp [hc]

omit [CaseMap] [TimeZones] in
theorem foldr_union_eq_empty {R : Type} [DecidableEq R] : ∀ {l : List (Finset R)},
    l.foldr (· ∪ ·) ∅ = ∅ ↔ ∀ s ∈ l, s = ∅
  | [] => by simp
  | s :: l => by rw [foldr_cons, Finset.union_eq_empty, foldr_union_eq_empty, forall_mem_cons]

omit [CaseMap] [TimeZones] in
theorem mem_foldr_union {R : Type} [DecidableEq R] {x : R} : ∀ {l : List (Finset R)},
    x ∈ l.foldr (· ∪ ·) ∅ ↔ ∃ s ∈ l, x ∈ s
  | [] => by simp
  | s :: l => by rw [foldr_cons, Finset.mem_union, mem_foldr_union, exists_mem_cons_iff]

/-! ### The evidence -/

omit [CaseMap] [TimeZones] in
theorem lookup_claims {id : String} {claim : DerivEvidenceClaim} : ∀ (claims : List DerivEvidenceClaim)
    (d : List (String × DerivEvidenceClaim)),
    (claims.foldl (fun d claim => dictSet d claim.claimId claim) d).lookup id = some claim →
    (claim ∈ claims ∧ claim.claimId = id) ∨ d.lookup id = some claim
  | [], d, h => .inr h
  | c :: claims, d, h => by
    rw [foldl_cons] at h
    rcases lookup_claims claims _ h with ⟨hmem, hid⟩ | hd
    · exact .inl ⟨mem_cons_of_mem _ hmem, hid⟩
    · rw [lookup_dictSet] at hd
      split at hd
      · rename_i heq
        cases hd
        exact .inl ⟨mem_cons_self, heq.symm⟩
      · exact .inr hd

variable {registry : DerivEvidenceRegistry} {c : RegistrationChain}

omit [CaseMap] [TimeZones] in
theorem getById_some {id : String} {a : DerivEvidenceArtifact} (h : registry.getById id = some a) :
    a ∈ registry.artifacts ∧ a.artifactId = strip id := by
  have hfound := find?_some h
  exact ⟨mem_of_find?_eq_some h, by simpa using hfound⟩

omit [CaseMap] [TimeZones] in
theorem lookup_claimsById {artifactIds : List String} {id : String} {claim : DerivEvidenceClaim}
    (h : (claimsById (foundArtifacts registry artifactIds)).lookup id = some claim) :
    ∃ a ∈ registry.artifacts, (∃ artifactId ∈ artifactIds, a.artifactId = strip artifactId) ∧
      claim ∈ a.claims ∧ claim.claimId = id := by
  rcases lookup_claims _ _ h with ⟨hmem, hid⟩ | hnil
  · obtain ⟨a, ha, hclaim⟩ := mem_flatMap.1 hmem
    obtain ⟨artifactId, hlisted, hget⟩ := mem_filterMap.1 ha
    obtain ⟨hreg, hstrip⟩ := getById_some hget
    exact ⟨a, hreg, ⟨artifactId, hlisted, hstrip⟩, hclaim, hid⟩
  · cases hnil

omit [CaseMap] [TimeZones] in
theorem artifactReasons_eq_empty {id hash : String} (h : artifactReasons registry id hash = ∅) :
    ∃ a ∈ registry.artifacts,
      a.artifactId = strip id ∧ a.contentHash = hash ∧ a.reviewState = .reviewed := by
  unfold artifactReasons at h
  cases hget : registry.getById id with
  | none =>
    rw [hget] at h
    exact absurd h (Finset.singleton_ne_empty _)
  | some a =>
    rw [hget] at h
    obtain ⟨hreg, hstrip⟩ := getById_some hget
    dsimp only at h
    rw [Finset.union_eq_empty, flag_eq_empty, not_not] at h
    obtain ⟨hhash, hstate⟩ := h
    split at hstate
    · exact absurd hstate (Finset.singleton_ne_empty _)
    · rw [flag_eq_empty, not_not] at hstate
      exact ⟨a, hreg, hstrip, hhash, hstate⟩

omit [CaseMap] [TimeZones] in
theorem claimReasons_eq_empty {claims : List (String × DerivEvidenceClaim)} {applicability : DerivEvidenceApplicability}
    {id : String} (h : claimReasons claims applicability id = ∅) :
    ∃ claim, claims.lookup id = some claim ∧ claim.reviewState = .reviewed ∧ claim.applicability = applicability := by
  unfold claimReasons at h
  cases hget : claims.lookup id with
  | none =>
    rw [hget] at h
    exact absurd h (Finset.singleton_ne_empty _)
  | some claim =>
    rw [hget] at h
    dsimp only at h
    rw [Finset.union_eq_empty, flag_eq_empty, not_not] at h
    obtain ⟨hstate, happ⟩ := h
    split at hstate
    · exact absurd hstate (Finset.singleton_ne_empty _)
    · rw [flag_eq_empty, not_not] at hstate
      exact ⟨claim, rfl, hstate, happ⟩

omit [TimeZones] in
theorem complete_not_mem_evidence (decision : DecisionFields) (registry : DerivEvidenceRegistry) :
    .evidenceSetComplete ∉ evidenceReviewReasons decision registry := by
  have hartifact : ∀ id hash, .evidenceSetComplete ∉ artifactReasons registry id hash := by
    intro id hash
    unfold artifactReasons
    split
    · simp
    · split <;> simp [mem_flag]
  have hclaim : ∀ claims applicability id, .evidenceSetComplete ∉ claimReasons claims applicability id := by
    intro claims applicability id
    unfold claimReasons
    split
    · simp
    · split <;> simp [mem_flag]
  intro hmem
  simp only [evidenceReviewReasons, Finset.mem_union, mem_flag, mem_foldr_union, mem_map, reduceCtorEq, and_false,
    false_or, or_false] at hmem
  rcases hmem with (⟨s, ⟨e, _, rfl⟩, hs⟩ | ⟨s, ⟨id, _, rfl⟩, hs⟩) | hs
  · exact hartifact _ _ hs
  · exact hclaim _ _ _ hs
  · split at hs
    · simp [mem_flag] at hs
    · simp at hs

omit [TimeZones] in
theorem evidenceReview_approved (d : DerivEvidenceReviewDecision) (registry : DerivEvidenceRegistry)
    (hvalid : evidenceReviewValid d.toDecisionFields registry = true) (happroved : d.state = .approvedForProofReview) :
    evidenceReviewReasons d.toDecisionFields registry = ∅ := by
  by_contra hne
  have hcodes : d.reasonCodes = {.evidenceSetComplete} := by
    have hok := d.ok
    unfold DecisionFields.postInit at hok
    rw [if_pos happroved] at hok
    simp only [Bool.and_eq_true, beq_iff_eq] at hok
    exact hok.2.2
  unfold evidenceReviewValid at hvalid
  dsimp only at hvalid
  rw [if_neg hne] at hvalid
  split at hvalid
  · cases hvalid
  · rename_i hno
    rw [not_or, not_not, hcodes] at hno
    have hmem := complete_not_mem_evidence d.toDecisionFields registry
    rw [hno.2] at hmem
    exact hmem (Finset.mem_singleton_self _)

/-! ### The chain -/

omit [TimeZones] in
theorem proofReview_valid {a : AssessmentFields} {d : DecisionFields} (hvalid : proofReviewValid a d registry = true) :
    a.artifactIds = d.artifactIds ∧ a.artifactContentHashes = d.artifactContentHashes ∧ a.claimIds = d.claimIds ∧
      a.applicability = d.applicability ∧ SameSemantics a.financialSemantics d.financialSemantics ∧
      evidenceReviewValid d registry = true := by
  have hempty : proofReviewReasons a d registry ∩ {.reviewDecisionStale, .applicabilityMismatch,
      .evidenceIdentityMismatch, .claimSetMismatch} = ∅ := by
    by_contra hne
    unfold proofReviewValid at hvalid
    dsimp only at hvalid
    rw [if_pos (.inl (Finset.nonempty_iff_ne_empty.2 hne))] at hvalid
    cases hvalid
  have hfree : ∀ r ∈ ({.reviewDecisionStale, .applicabilityMismatch, .evidenceIdentityMismatch, .claimSetMismatch} :
      Finset DerivProofReviewReason), r ∉ proofReviewReasons a d registry := by
    intro r hr hmem
    have hboth : r ∈ (∅ : Finset DerivProofReviewReason) := hempty ▸ Finset.mem_inter.2 ⟨hmem, hr⟩
    exact Finset.notMem_empty _ hboth
  refine ⟨?_, ?_, ?_, ?_, ?_, ?_⟩
  · by_contra hne
    exact hfree .evidenceIdentityMismatch (by simp) (by simp [proofReviewReasons, mem_flag, hne])
  · by_contra hne
    exact hfree .evidenceIdentityMismatch (by simp) (by simp [proofReviewReasons, mem_flag, hne])
  · by_contra hne
    exact hfree .claimSetMismatch (by simp) (by simp [proofReviewReasons, mem_flag, hne])
  · by_contra hne
    exact hfree .applicabilityMismatch (by simp) (by simp [proofReviewReasons, mem_flag, hne])
  · by_contra hne
    exact hfree .evidenceIdentityMismatch (by simp) (by simp [proofReviewReasons, mem_flag, hne])
  · by_contra hne
    exact hfree .reviewDecisionStale (by simp) (by simp [proofReviewReasons, mem_flag, hne])

omit [TimeZones] in
theorem sameSemantics_of_mismatch {left right : Option DerivFinancialSemanticsSpecification}
    (h : semanticMismatchReasons left right = ∅) : SameSemantics left right := by
  by_contra hne
  unfold semanticMismatchReasons at h
  rw [if_neg hne] at h
  split at h
  · split at h
    · exact absurd h (Finset.singleton_ne_empty _)
    · rename_i hdiff
      exact hdiff h
  · exact absurd h (Finset.singleton_ne_empty _)

structure ChainComplete (c : RegistrationChain) : Prop where
  assessment : proofReviewValid c.sourceAssessment.toAssessmentFields c.reviewDecision.toDecisionFields
    c.evidenceRegistry = true
  ready : c.sourceAssessment.state = .readyForAuthoritativeProofReview
  approved : c.reviewDecision.state = .approvedForProofReview
  verified : c.verification.state = .verified
  assessmentId : c.candidate.sourceAssessmentId = c.sourceAssessment.assessmentId
  decisionId : c.candidate.reviewDecisionId = c.reviewDecision.decisionId
  artifactIds : c.candidate.artifactIds = c.sourceAssessment.artifactIds
  hashes : c.candidate.artifactContentHashes = c.sourceAssessment.artifactContentHashes
  claimIds : c.candidate.claimIds = c.sourceAssessment.claimIds
  applicability : c.candidate.applicability = c.sourceAssessment.applicability
  semantics : SameSemantics c.candidate.financialSemantics c.sourceAssessment.financialSemantics
  lineage : SameLineage c.verification.toProofLineage c.candidate.toProofLineage
  scope : c.verification.applicability = c.candidate.applicability
  verifiedSemantics : SameSemantics c.candidate.financialSemantics c.verification.financialSemantics

theorem chainComplete (h : c.reasons = ∅) : ChainComplete c := by
  simp only [RegistrationChain.reasons, Finset.union_eq_empty, flag_eq_empty, ne_eq, not_not, not_or,
    Bool.not_eq_false, and_assoc] at h
  obtain ⟨hvalid, hready, happroved, hassessment, hdecision, hids, hhashes, hclaims, happlicability, hsemantics,
    hverified, hlineage, hscope, hsame, -⟩ := h
  exact ⟨hvalid, hready, happroved, hverified, hassessment, hdecision, hids, hhashes, hclaims, happlicability,
    sameSemantics_of_mismatch hsemantics, hlineage, hscope, sameSemantics_of_mismatch hsame⟩

theorem eligible_iff (c : RegistrationChain) : c.eligibility.eligible = true ↔ c.reasons = ∅ := by
  unfold RegistrationChain.eligibility
  split
  · rename_i h
    exact iff_of_true rfl h
  · rename_i h
    simp [h]

/-! ### The request -/

omit [TimeZones] in
theorem SameSemantics.trans {a b c : Option DerivFinancialSemanticsSpecification} (h : SameSemantics a b)
    (h' : SameSemantics b c) : SameSemantics a c := Eq.trans h h'

theorem revoked_reasons {request : AdmissionFields} {kind : DerivGovernanceRevocationTarget} {id : String}
    (hrev : c.Revoked kind id)
    (hhit : ∀ record : GovernanceRevocation, record.targetKind = kind → record.targetId = id →
      revocationReasons request c.verification.verificationDecisionId record ≠ ∅) :
    validateRevocations request c.verification.verificationDecisionId c.revocations ≠ ∅ := by
  obtain ⟨record, hmem, hkind, hid⟩ := hrev
  intro hempty
  unfold validateRevocations at hempty
  rw [Finset.union_eq_empty, foldr_union_eq_empty] at hempty
  exact hhit record hkind hid (hempty.2 _ (mem_map_of_mem hmem))

structure RequestAgrees (request : AdmissionFields) (c : RegistrationChain) : Prop where
  candidateId : request.candidateId = c.candidate.candidateId
  materialHash : request.candidateMaterialHash = c.candidate.candidateMaterialHash
  verificationId : request.verificationDecisionId = c.verification.verificationDecisionId
  assessmentId : request.sourceAssessmentId = c.sourceAssessment.assessmentId
  decisionId : request.reviewDecisionId = c.reviewDecision.decisionId
  artifactIds : request.artifactIds = c.candidate.artifactIds
  hashes : request.artifactContentHashes = c.candidate.artifactContentHashes
  claimIds : request.claimIds = c.candidate.claimIds
  applicability : request.applicability = c.candidate.applicability
  lossModel : request.lossModelId = c.candidate.lossModelId ∧ request.lossModelVersion = c.candidate.lossModelVersion
  evidenceSource : request.evidenceSourceId = c.candidate.evidenceSourceId
  validFrom : request.validFrom.Same c.candidate.validFrom
  validUntil : request.validUntil.Same c.candidate.validUntil
  semantics : SameSemantics request.financialSemantics c.candidate.financialSemantics
  complete : c.reasons = ∅
  revocations : validateRevocations request c.verification.verificationDecisionId c.revocations = ∅

theorem requestAgrees {request : AdmissionFields} {eligibility : DerivProofRegistrationEligibility}
    (h : admissionReasons request eligibility c = ∅) : RequestAgrees request c := by
  simp only [admissionReasons, Finset.union_eq_empty, flag_eq_empty, ne_eq, not_not, not_or, Bool.not_eq_false,
    and_assoc] at h
  obtain ⟨-, -, heligible, hcandidate, hmaterial, hverification, hassessment, hdecision, hids, hhashes, hclaims,
    hscope, hmodel, hversion, hsource, hfrom, huntil, hsemantics, -, -, -, hrevocations⟩ := h
  exact ⟨hcandidate, hmaterial, hverification, hassessment, hdecision, hids, hhashes, hclaims, hscope,
    ⟨hmodel, hversion⟩, hsource, hfrom, huntil, hsemantics, (eligible_iff c).1 heligible, hrevocations⟩

theorem evidence_of_chain (h : ChainComplete c) :
    (∀ p ∈ c.reviewDecision.artifactIds.zip c.reviewDecision.artifactContentHashes,
      ∃ a ∈ c.evidenceRegistry.artifacts, a.artifactId = strip p.1 ∧ a.contentHash = p.2 ∧ a.reviewState = .reviewed) ∧
    ∀ id ∈ c.reviewDecision.claimIds, ∃ a ∈ c.evidenceRegistry.artifacts,
      (∃ artifactId ∈ c.reviewDecision.artifactIds, a.artifactId = strip artifactId) ∧
        ∃ claim ∈ a.claims, claim.claimId = id ∧ claim.reviewState = .reviewed ∧
          claim.applicability = c.reviewDecision.applicability := by
  obtain ⟨-, -, -, -, -, hvalid⟩ := proofReview_valid h.assessment
  have hempty := evidenceReview_approved c.reviewDecision c.evidenceRegistry hvalid h.approved
  unfold evidenceReviewReasons at hempty
  simp only [Finset.union_eq_empty, foldr_union_eq_empty, forall_mem_map] at hempty
  obtain ⟨⟨⟨⟨⟨-, hartifacts⟩, -⟩, hclaims⟩, -⟩, -⟩ := hempty
  constructor
  · intro p hp
    exact artifactReasons_eq_empty (hartifacts p hp)
  · intro id hid
    obtain ⟨claim, hlookup, hreviewed, happ⟩ := claimReasons_eq_empty (hclaims id hid)
    obtain ⟨a, ha, hlisted, hmem, hname⟩ := lookup_claimsById hlookup
    exact ⟨a, ha, hlisted, claim, hmem, hname, hreviewed, happ⟩

theorem backed_of_reasons {call : AdmissionCall}
    (h : admissionReasons call.request.toAdmissionFields call.eligibility call.chain = ∅) : Backed call call.entry := by
  have hr := requestAgrees h
  have hc := chainComplete hr.complete
  obtain ⟨hid, hhash, hmodel, hversion, hsource, hassess, hdecision, hart, hcontent, hclaim, hfrom, huntil⟩ := hc.lineage
  obtain ⟨dart, dcontent, dclaim, dapp, dsem, -⟩ := proofReview_valid hc.assessment
  obtain ⟨hartifacts, hclaims⟩ := evidence_of_chain hc
  -- what the request says, through the candidate and the assessment, is what the decision says
  have hids : call.request.artifactIds = call.chain.reviewDecision.artifactIds :=
    hr.artifactIds.trans (hc.artifactIds.trans dart)
  have hhashes : call.request.artifactContentHashes = call.chain.reviewDecision.artifactContentHashes :=
    hr.hashes.trans (hc.hashes.trans dcontent)
  have hclaimIds : call.request.claimIds = call.chain.reviewDecision.claimIds :=
    hr.claimIds.trans (hc.claimIds.trans dclaim)
  have happ : call.request.applicability = call.chain.reviewDecision.applicability :=
    hr.applicability.trans (hc.applicability.trans dapp)
  constructor
  · exact hc.verified
  · exact hc.ready
  · exact hc.approved
  · exact hr.verificationId
  · exact hr.assessmentId
  · exact hr.decisionId
  · exact ⟨hr.candidateId.trans hid.symm, hr.materialHash.trans hhash.symm, hr.lossModel.1.trans hmodel.symm,
      hr.lossModel.2.trans hversion.symm, hr.evidenceSource.trans hsource.symm,
      (hr.assessmentId.trans hc.assessmentId.symm).trans hassess.symm,
      (hr.decisionId.trans hc.decisionId.symm).trans hdecision.symm, hr.artifactIds.trans hart.symm,
      hr.hashes.trans hcontent.symm, hr.claimIds.trans hclaim.symm, hr.validFrom.trans hfrom.symm,
      hr.validUntil.trans huntil.symm⟩
  · exact ⟨hr.artifactIds.trans hc.artifactIds, hids⟩
  · exact ⟨hr.hashes.trans hc.hashes, hhashes⟩
  · exact ⟨hr.claimIds.trans hc.claimIds, hclaimIds⟩
  · exact ⟨hr.applicability.trans hc.scope.symm, hr.applicability.trans hc.applicability, happ⟩
  · exact ⟨hr.semantics.trans hc.verifiedSemantics, hr.semantics.trans hc.semantics,
      (hr.semantics.trans hc.semantics).trans dsem⟩
  · intro p hp
    refine hartifacts p ?_
    rw [← hids, ← hhashes]
    exact hp
  · intro id hid
    obtain ⟨a, ha, ⟨artifactId, hlisted, hstrip⟩, claim, hmem, hname, hreviewed, hscope⟩ := hclaims id (hclaimIds ▸ hid)
    exact ⟨a, ha, ⟨artifactId, hids ▸ hlisted, hstrip⟩, claim, hmem, hname, hreviewed, hscope.trans happ.symm⟩
  · refine ⟨fun hrev => revoked_reasons hrev ?_ hr.revocations, fun hrev => revoked_reasons hrev ?_ hr.revocations,
      fun hrev => revoked_reasons hrev ?_ hr.revocations⟩
    · intro record hkind hid
      have hid' : record.targetId = call.request.candidateId := hid
      simp [revocationReasons, hkind, hid']
    · intro record hkind hid
      have hid' : record.targetId = call.chain.verification.verificationDecisionId := hid.trans hr.verificationId
      simp [revocationReasons, hkind, hid']
    · intro record hkind hid
      have hid' : record.targetId = call.request.proofId := hid
      simp [revocationReasons, hkind, hid']

/-! ### The registry -/

theorem registryStateOf_ok {entries : List DerivProofRegistryEntry} (hproof : (entries.map (·.proofId)).Nodup)
    (hadmission : (entries.map (·.admissionId)).Nodup) (hcandidate : (entries.map (·.candidateId)).Nodup)
    (hordered : entries.Pairwise fun a b => a.proofId ≤ b.proofId) :
    registryStateOf entries = .ok ⟨entries, hproof, hadmission, hcandidate, hordered⟩ := by
  unfold registryStateOf
  rw [dif_pos hproof, dif_pos hadmission, dif_pos hcandidate, dif_pos hordered]

theorem registryStateOf_insert (registry : DerivProofRegistryState) (e : DerivProofRegistryEntry)
    (hproof : ∀ x ∈ registry.entries, x.proofId ≠ e.proofId)
    (hrest : ∀ x ∈ registry.entries, x.admissionId ≠ e.admissionId ∧ x.candidateId ≠ e.candidateId) :
    ∃ registry', registryStateOf ((registry.entries ++ [e]).mergeSort fun a b => decide (a.proofId ≤ b.proofId)) =
      .ok registry' ∧ registry'.entries.Perm (e :: registry.entries) := by
  have hperm : ((registry.entries ++ [e]).mergeSort fun a b => decide (a.proofId ≤ b.proofId)).Perm
      (e :: registry.entries) := (mergeSort_perm _ _).trans (perm_append_singleton _ _)
  have hordered : ((registry.entries ++ [e]).mergeSort fun a b => decide (a.proofId ≤ b.proofId)).Pairwise
      fun a b => a.proofId ≤ b.proofId := by
    have h := @List.pairwise_mergeSort DerivProofRegistryEntry (fun a b => decide (a.proofId ≤ b.proofId))
      (fun a b c hab hbc => decide_eq_true (String.le_trans (of_decide_eq_true hab) (of_decide_eq_true hbc)))
      (fun a b => by simpa using String.le_total a.proofId b.proofId) (registry.entries ++ [e])
    exact h.imp of_decide_eq_true
  have hfresh : ∀ key : DerivProofRegistryEntry → String, (registry.entries.map key).Nodup →
      (∀ x ∈ registry.entries, key x ≠ key e) →
      ((((registry.entries ++ [e]).mergeSort fun a b => decide (a.proofId ≤ b.proofId)).map key)).Nodup := by
    intro key hnodup hne
    rw [(hperm.map key).nodup_iff, map_cons, nodup_cons]
    refine ⟨fun hmem => ?_, hnodup⟩
    obtain ⟨x, hx, heq⟩ := mem_map.1 hmem
    exact hne x hx heq
  exact ⟨_, registryStateOf_ok (hfresh _ registry.proofIds hproof)
    (hfresh _ registry.admissionIds fun x hx => (hrest x hx).1)
    (hfresh _ registry.candidateIds fun x hx => (hrest x hx).2) hordered, hperm⟩

/-- What a call does to a registry: one new entry with everything behind it, or nothing. -/
def Appends (registry : DerivProofRegistryState) (call : AdmissionCall)
    (outcome : DerivProofAdmissionResult × DerivProofRegistryState) : Prop :=
  match outcome.1 with
  | .admitted e => e = call.entry ∧ Backed call e ∧ outcome.2.entries.Perm (e :: registry.entries)
  | .alreadyAdmitted e => e ∈ registry.entries ∧ outcome.2 = registry
  | .rejected _ => outcome.2 = registry

theorem admit_appends (registry : DerivProofRegistryState) (call : AdmissionCall) :
    ∃ outcome, admitDerivProofRegistryEntry registry call = .ok outcome ∧ Appends registry call outcome := by
  have hadmission : ∃ outcome, (if conflictReasons registry call ≠ ∅ then
        .ok (.rejected (conflictReasons registry call), registry)
      else do
        let registry' ← registryStateOf
          ((registry.entries ++ [call.entry]).mergeSort fun a b => decide (a.proofId ≤ b.proofId))
        return (.admitted call.entry, registry') : Except PyExc (DerivProofAdmissionResult × DerivProofRegistryState)) =
      .ok outcome ∧ Appends registry call outcome := by
    by_cases hreasons : conflictReasons registry call = ∅
    · rw [if_neg (not_not_intro hreasons)]
      unfold conflictReasons at hreasons
      simp only [Finset.union_eq_empty, flag_eq_empty] at hreasons
      obtain ⟨⟨hnone, hproof⟩, hrest⟩ := hreasons
      obtain ⟨registry', hok, hperm⟩ := registryStateOf_insert registry call.entry
        (fun x hx heq => hproof ⟨x, hx, heq⟩)
        (fun x hx => ⟨fun heq => hrest ⟨x, hx, .inl heq⟩, fun heq => hrest ⟨x, hx, .inr heq⟩⟩)
      rw [hok]
      exact ⟨_, rfl, rfl, backed_of_reasons hnone, hperm⟩
    · rw [if_pos hreasons]
      exact ⟨_, rfl, rfl⟩
  unfold admitDerivProofRegistryEntry
  dsimp only
  split
  · rename_i existing hfind
    split
    · split
      · exact ⟨_, rfl, rfl⟩
      · exact ⟨_, rfl, mem_of_find?_eq_some hfind, rfl⟩
    · exact hadmission
  · exact hadmission

theorem admitAll_backed : ∀ (calls : List AdmissionCall) (registry : DerivProofRegistryState),
    ∃ registry', admitAll registry calls = .ok registry' ∧
      ∀ e ∈ registry'.entries, e ∈ registry.entries ∨ ∃ call ∈ calls, e = call.entry ∧ Backed call e
  | [], registry => ⟨registry, rfl, fun e he => .inl he⟩
  | call :: calls, registry => by
    obtain ⟨outcome, hok, happ⟩ := admit_appends registry call
    obtain ⟨registry', hrun, hbacked⟩ := admitAll_backed calls outcome.2
    refine ⟨registry', ?_, ?_⟩
    · unfold admitAll
      rw [hok]
      exact hrun
    · intro e he
      rcases hbacked e he with hold | ⟨c, hc, heq, hback⟩
      · unfold Appends at happ
        split at happ
        · obtain ⟨hentry, hback, hperm⟩ := happ
          rcases mem_cons.1 (hperm.mem_iff.1 hold) with rfl | hmem
          · exact .inr ⟨call, mem_cons_self, hentry, hback⟩
          · exact .inl hmem
        · exact .inl (happ.2 ▸ hold)
        · exact .inl (happ ▸ hold)
      · exact .inr ⟨c, mem_cons_of_mem _ hc, heq, hback⟩

/-- **Admission is sound and append-only.** -/
theorem admissions_sound (calls : List AdmissionCall) :
    ∃ registry, admitAll .empty calls = .ok registry ∧ (registry.entries.map (·.proofId)).Nodup ∧
      (registry.entries.map (·.admissionId)).Nodup ∧ (registry.entries.map (·.candidateId)).Nodup ∧
      (∀ e ∈ registry.entries, ∃ call ∈ calls, e = call.entry ∧ Backed call e) ∧
      ∀ call, ∃ outcome, admitDerivProofRegistryEntry registry call = .ok outcome ∧ Appends registry call outcome := by
  obtain ⟨registry, hrun, hbacked⟩ := admitAll_backed calls .empty
  refine ⟨registry, hrun, registry.proofIds, registry.admissionIds, registry.candidateIds, ?_, admit_appends registry⟩
  intro e he
  rcases hbacked e he with hmem | hcall
  · cases hmem
  · exact hcall

end DerivAdmission
end Jqe
