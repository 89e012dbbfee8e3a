import Jqe.DerivReadBack
/-!
# DerivStorable — which proof states are storable

An admitted state can be persisted and loaded again exactly where its semantics hash to what was verified and its moments
survive the way to UTC.
-/
namespace Jqe
namespace DerivAdmission

open AwareTime DecimalText List

section

variable [CaseMap] [TimeZones]

/-! ### States -/

omit [CaseMap] [TimeZones] in
theorem exists_forall₂_iff {α β : Type} {R : α → β → Prop} : ∀ {l : List α},
    (∃ l', List.Forall₂ R l l') ↔ ∀ x ∈ l, ∃ y, R x y
  | [] => by simp
  | x :: l => by
    rw [forall_mem_cons, ← exists_forall₂_iff]
    constructor
    · rintro ⟨_, h⟩
      cases h with
      | cons hxy hrest => exact ⟨⟨_, hxy⟩, _, hrest⟩
    · rintro ⟨⟨y, hxy⟩, l', hrest⟩
      exact ⟨y :: l', .cons hxy hrest⟩

omit [CaseMap] [TimeZones] in
theorem map_eq_of_forall₂ {α β γ : Type} {R : α → β → Prop} {f : α → γ} {g : β → γ} (hfg : ∀ x y, R x y → g y = f x) :
    ∀ {l : List α} {l' : List β}, List.Forall₂ R l l' → l'.map g = l.map f
  | _, _, .nil => rfl
  | _, _, .cons hxy h => by rw [map_cons, map_cons, hfg _ _ hxy, map_eq_of_forall₂ hfg h]

theorem EntryRead.ids {e e' : DerivProofRegistryEntry} (h : EntryRead e e') :
    e'.proofId = e.proofId ∧ e'.admissionId = e.admissionId ∧ e'.candidateId = e.candidateId := by
  obtain ⟨hr, heq, -, -⟩ := h.fields
  rw [heq]
  exact ⟨rfl, rfl, rfl⟩

def authorityOf (r : GovernanceRevocation) : String × (DerivGovernanceRevocationTarget × String) ×
    (DerivGovernanceRevocationReason × Option String) :=
  (r.revocationId, (r.targetKind, r.targetId), (r.reason, r.supersededById))

omit [CaseMap] in
theorem RevocationRead.authority {r r' : GovernanceRevocation} (h : RevocationRead r r') :
    authorityOf r' = authorityOf r := by
  obtain ⟨hr, heq⟩ := h.fields
  rw [heq]
  rfl

theorem exists_stateRead_iff (s : DerivDurableProofState) : (∃ t, StateRead s t) ↔
    (∀ e ∈ s.registry.entries, ∃ e', EntryRead e e') ∧ ∀ r ∈ s.revocations, ∃ r', RevocationRead r r' := by
  rw [← exists_forall₂_iff, ← exists_forall₂_iff]
  constructor
  · rintro ⟨t, h⟩
    exact ⟨⟨_, h.entries⟩, ⟨_, h.revocations⟩⟩
  · rintro ⟨⟨entries, hentries⟩, ⟨revocations, hrevocations⟩⟩
    have hproof := map_eq_of_forall₂ (fun _ _ h => (EntryRead.ids h).1) hentries
    have hadmission := map_eq_of_forall₂ (fun _ _ h => (EntryRead.ids h).2.1) hentries
    have hcandidate := map_eq_of_forall₂ (fun _ _ h => (EntryRead.ids h).2.2) hentries
    have hauthority := map_eq_of_forall₂ (fun _ _ h => RevocationRead.authority h) hrevocations
    have hids : revocations.map (·.revocationId) = s.revocations.map (·.revocationId) := by
      have h := congrArg (List.map Prod.fst) hauthority
      simpa only [map_map, Function.comp_def, authorityOf] using h
    have hordered : entries.Pairwise fun a b => a.proofId ≤ b.proofId := by
      have h := s.registry.ordered
      rw [← pairwise_map (R := (· ≤ ·))] at h ⊢
      rw [hproof]
      exact h
    have hrevocationOrder : revocations.Pairwise fun a b => a.revocationId ≤ b.revocationId := by
      have h := s.ordered
      rw [← pairwise_map (R := (· ≤ ·))] at h ⊢
      rw [hids]
      exact h
    have hagree : revocations.Pairwise RevocationsAgree := by
      have hkey : ∀ l : List GovernanceRevocation, l.Pairwise RevocationsAgree ↔ (l.map authorityOf).Pairwise
          fun a b => a.2.1 = b.2.1 → a.2.2.1 = b.2.2.1 ∧ a.2.2.2 = b.2.2.2 := by
        intro l
        rw [pairwise_map]
        exact Iff.rfl
      rw [hkey, hauthority, ← hkey]
      exact s.agree
    exact ⟨⟨⟨entries, hproof ▸ s.registry.proofIds, hadmission ▸ s.registry.admissionIds,
      hcandidate ▸ s.registry.candidateIds, hordered⟩, revocations, hrevocationOrder, hids ▸ s.revocationIds, hagree⟩,
      hentries, hrevocations⟩

/-! ### The store -/

def SameState (s t : DerivDurableProofState) : Prop :=
  List.Forall₂ (fun e f => SameEntry e.toAdmissionFields f.toAdmissionFields) s.registry.entries t.registry.entries ∧
    List.Forall₂ SameRevocation s.revocations t.revocations

/-- **`persist` on an empty store succeeds and a later `load` returns an equal state.** -/
def Stored (s : DerivDurableProofState) : Prop :=
  ∃ rebuilt row, persist none s = .ok (rebuilt, row) ∧ ∃ loaded, load row = .ok loaded ∧ SameState loaded s

theorem persist_ok {s t : DerivDurableProofState} {payload : Json} (hwrite : stateToPayload s = .ok payload)
    (hread : stateFromPayload payload = .ok t) :
    persist none s = .ok (t, some ⟨1, payload, payloadHash payload⟩) ∧
      load (some ⟨1, payload, payloadHash payload⟩) = .ok t := by
  constructor
  · unfold persist
    rw [hwrite, ok_bind, hread]
    rfl
  · simp [load, hread]

theorem stored_iff_read (s : DerivDurableProofState) : Stored s ↔ ∃ t, StateRead s t ∧ SameState t s := by
  constructor
  · rintro ⟨rebuilt, row, hpersist, loaded, hload, hsame⟩
    have hok := hpersist
    unfold persist at hok
    obtain ⟨payload, hwrite, hok⟩ := bind_ok hok
    obtain ⟨t, hread, -⟩ := bind_ok hok
    obtain ⟨hpersist', hload'⟩ := persist_ok hwrite hread
    cases hpersist.symm.trans hpersist'
    cases hload.symm.trans hload'
    exact ⟨_, (payload_read_iff s _).1 ⟨payload, hwrite, hread⟩, hsame⟩
  · rintro ⟨t, hst, hsame⟩
    obtain ⟨payload, hwrite, hread⟩ := (payload_read_iff s t).2 hst
    obtain ⟨hpersist, hload⟩ := persist_ok hwrite hread
    exact ⟨t, _, hpersist, t, hload, hsame⟩

omit [CaseMap] [TimeZones] in
theorem forall₂_flip_iff {α β : Type} {R : α → β → Prop} {S : β → α → Prop} {P : α → Prop}
    (hiff : ∀ x y, R x y → (S y x ↔ P x)) : ∀ {l : List α} {l' : List β}, List.Forall₂ R l l' →
    (List.Forall₂ S l' l ↔ ∀ x ∈ l, P x)
  | _, _, .nil => by simp
  | _, _, .cons hxy h => by rw [forall₂_cons, forall_mem_cons, hiff _ _ hxy, forall₂_flip_iff hiff h]

def AdmissionFields.Datable (m : AdmissionFields) : Prop :=
  m.InRange ∧ m.Plain ∧ m.validFrom.instant < m.validUntil.instant

def GovernanceRevocation.Datable (r : GovernanceRevocation) : Prop :=
  r.revokedAt.InRange ∧ (r.revokedAt.zone = 0 ∨ r.revokedAt.Plain)

theorem StateRead.same_iff {s t : DerivDurableProofState} (h : StateRead s t) : SameState t s ↔
    (∀ e ∈ s.registry.entries, e.Plain) ∧
      ∀ r ∈ s.revocations, r.revokedAt.zone = 0 ∨ r.revokedAt.Plain := by
  have hentry : ∀ e e' : DerivProofRegistryEntry, EntryRead e e' →
      (SameEntry e'.toAdmissionFields e.toAdmissionFields ↔ e.Plain) := fun _ _ he => he.same_iff
  have hrevocation : ∀ r r' : GovernanceRevocation, RevocationRead r r' →
      (SameRevocation r' r ↔ r.revokedAt.zone = 0 ∨ r.revokedAt.Plain) := fun _ _ hr => hr.same_iff
  exact and_congr (forall₂_flip_iff hentry h.entries) (forall₂_flip_iff hrevocation h.revocations)

theorem stored_iff (s : DerivDurableProofState) : Stored s ↔
    (∀ e ∈ s.registry.entries, e.Datable ∧ lineageMatches e.toAdmissionFields = true) ∧
      ∀ r ∈ s.revocations, r.Datable := by
  rw [stored_iff_read]
  constructor
  · rintro ⟨t, hst, hsame⟩
    obtain ⟨hread, hread'⟩ := (exists_stateRead_iff s).1 ⟨t, hst⟩
    obtain ⟨hplain, hplain'⟩ := hst.same_iff.1 hsame
    constructor
    · intro e he
      obtain ⟨hr, hlt, hmatches⟩ := (exists_entryRead_iff e).1 (hread e he)
      exact ⟨⟨hr, hplain e he, hlt⟩, hmatches⟩
    · intro r hr
      exact ⟨(exists_revocationRead_iff r).1 (hread' r hr), hplain' r hr⟩
  · rintro ⟨hentries, hrevocations⟩
    obtain ⟨t, hst⟩ := (exists_stateRead_iff s).2
      ⟨fun e he => (exists_entryRead_iff e).2 ⟨(hentries e he).1.1, (hentries e he).1.2.2, (hentries e he).2⟩,
        fun r hr => (exists_revocationRead_iff r).2 (hrevocations r hr).1⟩
    exact ⟨t, hst, hst.same_iff.2 ⟨fun e he => (hentries e he).1.2.1, fun r hr => (hrevocations r hr).2⟩⟩

/-! ### The admitted entries -/

def AdmissionCall.SpelledAsVerified (call : AdmissionCall) : Prop :=
  call.request.financialSemantics.map (·.materialHash) = call.chain.verification.financialSemantics.map (·.materialHash)

theorem Backed.lineageMatches_iff {call : AdmissionCall} (h : Backed call call.entry) :
    lineageMatches call.entry.toAdmissionFields = true ↔ call.SpelledAsVerified := by
  have hhash : call.request.candidateMaterialHash = call.chain.verification.candidateMaterialHash := h.lineage.2.1
  have hsame : SameSemantics call.request.financialSemantics call.chain.verification.financialSemantics := h.semantics.1
  have hverified := call.chain.verification.ok
  simp only [Bool.and_eq_true, ProofLineage.semanticsBound] at hverified
  have hbound := hverified.2
  show (call.request.financialSemantics.all fun s => s.materialHash == call.request.candidateMaterialHash) = true ↔ _
  unfold AdmissionCall.SpelledAsVerified
  unfold SameSemantics at hsame
  rw [hhash]
  cases hrequest : call.request.financialSemantics with
  | none =>
    cases hverification : call.chain.verification.financialSemantics with
    | none => simp
    | some v =>
      rw [hrequest, hverification] at hsame
      cases hsame
  | some s =>
    cases hverification : call.chain.verification.financialSemantics with
    | none =>
      rw [hrequest, hverification] at hsame
      cases hsame
    | some v =>
      rw [hverification] at hbound
      simp only [Option.all_some, Bool.and_eq_true, beq_iff_eq] at hbound
      simp only [Option.all_some, beq_iff_eq, Option.map_some, Option.some.injEq, hbound.2]

/-- **An admitted state is storable exactly where every admitting request spells its semantics as they were verified and
every moment stays what it is in UTC.** -/
theorem storable_iff (calls : List AdmissionCall) (s : DerivDurableProofState)
    (hrun : admitAll .empty calls = .ok s.registry) :
    (Stored s ∧ ∀ e ∈ s.registry.entries, lineageMatches e.toAdmissionFields = true) ↔
      (∀ call ∈ calls, call.entry ∈ s.registry.entries → Backed call call.entry → call.SpelledAsVerified) ∧
      (∀ e ∈ s.registry.entries, e.Datable) ∧ ∀ r ∈ s.revocations, r.Datable := by
  have hbacked : ∀ e ∈ s.registry.entries, ∃ call ∈ calls, e = call.entry ∧ Backed call e := by
    obtain ⟨registry, hregistry, hbacked⟩ := admitAll_backed calls .empty
    cases hrun.symm.trans hregistry
    intro e he
    rcases hbacked e he with hnil | hcall
    · cases hnil
    · exact hcall
  rw [stored_iff]
  constructor
  · rintro ⟨⟨hentries, hrevocations⟩, -⟩
    refine ⟨fun call _ hmem hback => ?_, fun e he => (hentries e he).1, hrevocations⟩
    exact hback.lineageMatches_iff.1 (hentries _ hmem).2
  · rintro ⟨hspelled, hentries, hrevocations⟩
    have hmatches : ∀ e ∈ s.registry.entries, lineageMatches e.toAdmissionFields = true := by
      intro e he
      obtain ⟨call, hcall, rfl, hback⟩ := hbacked e he
      exact hback.lineageMatches_iff.2 (hspelled call hcall he hback)
    exact ⟨⟨fun e he => ⟨hentries e he, hmatches e he⟩, hrevocations⟩, hmatches⟩

end

/-! ### Two spellings of a bound -/

section

local instance storableCase : CaseMap := asciiCase

local instance storableZones : TimeZones := fixedZones

def multiplierScope : DerivEvidenceApplicability :=
  ⟨"deriv", some "multiplier", some "R_100", some "USD", some "demo", some "stake", some "stop", some "factor", some "all"⟩

def zeroHash : String := "sha256:" ++ String.ofList (List.replicate 64 '0')

def boundedSemantics (lowerBound : Dec) : SemanticsFields Dec where
  semanticId := "model"
  semanticVersion := 1
  equationFamily := .syntheticLinearProduct
  equationIdentityHash := zeroHash
  operands := [⟨"stake", "stake", .stakeCurrencyAmount, .base, 0, true, .positive, some lowerBound, none, false, false,
    false⟩]
  output := ⟨.syntheticMonetaryLossForSuppliedInputs, .accountCurrencyAmount, .notApplicable, none, true, true⟩
  rounding := ⟨false, none, .none, .none⟩
  domainConstraintIds := []
  applicability := multiplierScope
  contractFamily := "multiplier"
  quantityBasisSemanticId := "stake"
  stopSemanticId := "stop"
  multiplierSemanticId := "factor"

def verifiedSemantics : DerivFinancialSemanticsSpecification :=
  ⟨boundedSemantics ⟨false, 100, -2⟩, by decide +kernel⟩

def respelledSemantics : DerivFinancialSemanticsSpecification :=
  ⟨boundedSemantics ⟨false, 10, -1⟩, by decide +kernel⟩

def verifiedHash : String := "sha256:25377efeab7832c1ee090d8cc9f2dd8eb67f8fe1a90ee59b5e7b8a0b33439dff"

theorem verified_materialHash : verifiedSemantics.materialHash = verifiedHash := by
  have hdigest : Sha256.hexdigestWindow ((semanticsToData verifiedSemantics.toSemanticsFields).chars.map Char.toNat) =
      "25377efeab7832c1ee090d8cc9f2dd8eb67f8fe1a90ee59b5e7b8a0b33439dff" := by decide +kernel
  unfold DerivFinancialSemanticsSpecification.materialHash
  rw [SemanticsFields.materialHash_chars, Sha256.hexdigest_eq_window, hdigest]
  decide +kernel

theorem respelled_materialHash : respelledSemantics.materialHash ≠ verifiedHash := by
  have hdigest : Sha256.hexdigestWindow ((semanticsToData respelledSemantics.toSemanticsFields).chars.map Char.toNat) =
      "5085a81ae287627c344aae2f5c49d129287ac6bcf467e6d6bb83585b9532cba0" := by decide +kernel
  unfold DerivFinancialSemanticsSpecification.materialHash
  rw [SemanticsFields.materialHash_chars, Sha256.hexdigest_eq_window, hdigest]
  decide +kernel

theorem epoch_inRange : 0 ≤ (0 : ℤ) ∧ 0 < maxWall := by decide

def verifiedLineage : ProofLineage where
  candidateId := "candidate"
  candidateMaterialHash := verifiedHash
  lossModelId := "model"
  lossModelVersion := 1
  evidenceSourceId := "source"
  sourceAssessmentId := "assessment"
  reviewDecisionId := "decision"
  artifactIds := ["artifact"]
  artifactContentHashes := [zeroHash]
  claimIds := ["claim"]
  applicability := multiplierScope
  validFrom := .ofUtc 0 epoch_inRange
  validUntil := .ofUtc 1 (by decide)
  financialSemantics := some verifiedSemantics

variable {s : DerivFinancialSemanticsSpecification}

theorem semanticsBound_of {l : ProofLineage} (hs : l.financialSemantics = some s) (hid : s.semanticId = l.lossModelId)
    (hversion : s.semanticVersion = l.lossModelVersion) (hhash : s.materialHash = l.candidateMaterialHash) :
    l.semanticsBound = true := by
  unfold ProofLineage.semanticsBound
  rw [hs]
  simp [hid, hversion, hhash]

theorem verifiedLineage_postInit : verifiedLineage.postInit = true := by decide +kernel

theorem verifiedLineage_ok : (verifiedLineage.postInit && verifiedLineage.semanticsBound) = true := by
  rw [verifiedLineage_postInit, semanticsBound_of rfl rfl rfl verified_materialHash, Bool.and_true]

theorem zeroHash_sha256 : isSha256 zeroHash = true := by decide +kernel

def reviewedEvidence : DerivEvidenceRegistry where
  artifacts := [⟨"artifact", zeroHash, [⟨"claim", "artifact", .lossModelDescriptionIdentity, "model", verifiedHash,
    multiplierScope, .reviewed⟩], .reviewed, by decide +kernel, zeroHash_sha256, by simp, by simp⟩]
  artifactIds := by simp
  contentHashes := by simp

def approvedDecision : DerivEvidenceReviewDecision where
  decisionId := "decision"
  artifactIds := ["artifact"]
  artifactContentHashes := [zeroHash]
  claimIds := ["claim"]
  state := .approvedForProofReview
  reasonCodes := {.evidenceSetComplete}
  applicability := multiplierScope
  financialSemantics := some verifiedSemantics
  ok := by decide +kernel

def readyAssessment : DerivProofReviewAssessment where
  assessmentId := "assessment"
  reviewDecisionId := "decision"
  artifactIds := ["artifact"]
  artifactContentHashes := [zeroHash]
  claimIds := ["claim"]
  state := .readyForAuthoritativeProofReview
  reasonCodes := {.reviewPackageConsistent}
  applicability := multiplierScope
  financialSemantics := some verifiedSemantics
  ok := by decide +kernel

def verifiedChain : RegistrationChain where
  candidate := ⟨verifiedLineage, verifiedLineage_ok⟩
  verification := ⟨verifiedLineage, "verification", .verified, by decide +kernel, verifiedLineage_ok⟩
  sourceAssessment := readyAssessment
  reviewDecision := approvedDecision
  evidenceRegistry := reviewedEvidence
  revocations := []

theorem evidence_reasons : evidenceReviewReasons approvedDecision.toDecisionFields reviewedEvidence = ∅ := by
  unfold evidenceReviewReasons
  refine Finset.union_eq_empty.2 ⟨by decide +kernel, ?_⟩
  refine flag_eq_empty.2 (not_not_intro ⟨⟨"claim", "artifact", .lossModelDescriptionIdentity, "model", verifiedHash,
    multiplierScope, .reviewed⟩, ?_, rfl, verified_materialHash.symm⟩)
  decide +kernel

theorem evidence_valid : evidenceReviewValid approvedDecision.toDecisionFields reviewedEvidence = true := by
  unfold evidenceReviewValid
  rw [evidence_reasons]
  decide

theorem assessment_valid : proofReviewValid readyAssessment.toAssessmentFields approvedDecision.toDecisionFields
    reviewedEvidence = true := by
  have hreasons : proofReviewReasons readyAssessment.toAssessmentFields approvedDecision.toDecisionFields
      reviewedEvidence = ∅ := by
    unfold proofReviewReasons
    simp only [Finset.union_eq_empty, flag_eq_empty, not_or, not_not, evidence_valid]
    exact ⟨⟨⟨⟨⟨⟨rfl, rfl, rfl⟩, rfl⟩, rfl⟩, rfl⟩, by decide⟩, rfl⟩
  unfold proofReviewValid
  rw [hreasons]
  decide

theorem verifiedChain_reasons : verifiedChain.reasons = ∅ := by
  have hvalid : proofReviewValid verifiedChain.sourceAssessment.toAssessmentFields
      verifiedChain.reviewDecision.toDecisionFields verifiedChain.evidenceRegistry = true := assessment_valid
  have hsame : semanticMismatchReasons (some verifiedSemantics) (some verifiedSemantics) = ∅ := if_pos rfl
  have hrevoked : ∀ kind target, ¬verifiedChain.Revoked kind target := by
    rintro kind target ⟨r, hr, -⟩
    cases hr
  unfold RegistrationChain.reasons
  dsimp only
  rw [hvalid]
  simp only [Finset.union_eq_empty, flag_eq_empty, not_or, not_not]
  exact ⟨⟨⟨⟨⟨⟨⟨⟨⟨⟨⟨⟨⟨⟨by decide, rfl⟩, rfl⟩, rfl, rfl⟩, rfl, rfl⟩, rfl⟩, rfl⟩, hsame⟩, rfl⟩,
    rfl, rfl, rfl, rfl, rfl, rfl, rfl, rfl, rfl, rfl, .refl _, .refl _⟩, rfl⟩, hsame, hsame⟩, nodup_nil⟩,
    hrevoked _ _⟩, hrevoked _ _⟩

def fieldsWith (s : DerivFinancialSemanticsSpecification) : AdmissionFields :=
  ⟨{ verifiedLineage with financialSemantics := some s }, "admission", "proof", "verification", "operator",
    .ofUtc 2 (by decide)⟩

def callWith (s : DerivFinancialSemanticsSpecification) (h : (fieldsWith s).postInit = true) : AdmissionCall :=
  ⟨⟨fieldsWith s, h⟩, verifiedChain.eligibility, verifiedChain⟩

theorem callWith_reasons (hs : SameSemantics (some s) (some verifiedSemantics)) :
    admissionReasons (fieldsWith s) verifiedChain.eligibility verifiedChain = ∅ := by
  have heligible : verifiedChain.eligibility.eligible = true := (eligible_iff _).2 verifiedChain_reasons
  have hsame : SameSemantics (some verifiedSemantics) (some verifiedSemantics) := rfl
  unfold admissionReasons
  simp only [Finset.union_eq_empty, flag_eq_empty, not_or, not_not, heligible]
  refine ⟨⟨⟨⟨⟨⟨⟨⟨⟨⟨⟨by decide, trivial, by decide⟩, rfl⟩, rfl⟩, rfl⟩, rfl, rfl⟩, rfl, rfl⟩, rfl⟩, rfl⟩, rfl, rfl, rfl,
    .refl _, .refl _⟩, hs, hsame, hsame, hsame⟩, rfl⟩

def registryOf (e : DerivProofRegistryEntry) : DerivProofRegistryState :=
  ⟨[e], List.nodup_singleton _, List.nodup_singleton _, List.nodup_singleton _, List.pairwise_singleton _ _⟩

theorem admitAll_first {call : AdmissionCall}
    (h : admissionReasons call.request.toAdmissionFields call.eligibility call.chain = ∅) :
    admitAll .empty [call] = .ok (registryOf call.entry) := by
  have hconflict : conflictReasons .empty call = ∅ := by
    unfold conflictReasons
    simp [h, flag_eq_empty, DerivProofRegistryState.empty]
  have hsort : (([] : List DerivProofRegistryEntry) ++ [call.entry]).mergeSort
      (fun a b => decide (a.proofId ≤ b.proofId)) = [call.entry] := by simp
  have houtcome : admitDerivProofRegistryEntry .empty call = .ok (.admitted call.entry, registryOf call.entry) := by
    show (if conflictReasons .empty call ≠ ∅ then _ else
      registryStateOf (([] ++ [call.entry]).mergeSort fun a b => decide (a.proofId ≤ b.proofId)) >>= _) = _
    have hone : registryStateOf [call.entry] = .ok (registryOf call.entry) := registryStateOf_self (registryOf call.entry)
    rw [if_neg (not_not_intro hconflict), hsort, hone]
    rfl
  unfold admitAll
  rw [houtcome]
  rfl

def stateOf (registry : DerivProofRegistryState) : DerivDurableProofState := { DerivDurableProofState.empty with registry }

theorem callWith_run (h : (fieldsWith s).postInit = true) (hs : SameSemantics (some s) (some verifiedSemantics)) :
    admitAll .empty [callWith s h] = .ok (registryOf (callWith s h).entry) :=
  admitAll_first (callWith_reasons hs)

theorem fieldsWith_ok (hs : (s.applicability == multiplierScope) = true) : (fieldsWith s).postInit = true := by
  have hlineage := verifiedLineage_postInit
  unfold ProofLineage.postInit at hlineage
  unfold AdmissionFields.postInit ProofLineage.postInit
  rw [Bool.and_eq_true] at hlineage ⊢
  have htexts : ["admission", "proof", "verification", "operator"].all (fun text => !blank text) = true := by decide
  refine ⟨htexts, ?_⟩
  rw [Bool.and_eq_true]
  exact ⟨hlineage.1, hs⟩

theorem respelled_ok : (fieldsWith respelledSemantics).postInit = true := fieldsWith_ok (by decide)

theorem verified_ok : (fieldsWith verifiedSemantics).postInit = true := fieldsWith_ok (by decide)

theorem lineageMatches_iff_of_some {m : AdmissionFields} (hs : m.financialSemantics = some s) :
    lineageMatches m = true ↔ s.materialHash = m.candidateMaterialHash := by
  unfold lineageMatches
  rw [hs, Option.all_some, beq_iff_eq]

/-- **An admitted entry that cannot be stored.** -/
theorem respelled_not_stored : ∃ s : DerivDurableProofState,
    admitAll .empty [callWith respelledSemantics respelled_ok] = .ok s.registry ∧ s.revocations = [] ∧ ¬Stored s ∧
    ∃ e ∈ s.registry.entries, e.financialSemantics = some respelledSemantics ∧
      respelledSemantics.materialHash ≠ e.candidateMaterialHash := by
  have hsame : SameSemantics (some respelledSemantics) (some verifiedSemantics) := by decide +kernel
  have hmem : (callWith respelledSemantics respelled_ok).entry ∈
      (stateOf (registryOf (callWith respelledSemantics respelled_ok).entry)).registry.entries := List.mem_singleton_self _
  have hhash : respelledSemantics.materialHash ≠
      (callWith respelledSemantics respelled_ok).entry.candidateMaterialHash := respelled_materialHash
  refine ⟨stateOf (registryOf (callWith respelledSemantics respelled_ok).entry), callWith_run respelled_ok hsame, rfl, ?_,
    (callWith respelledSemantics respelled_ok).entry, hmem, rfl, hhash⟩
  intro hstored
  obtain ⟨-, hmatches⟩ := ((stored_iff _).1 hstored).1 _ hmem
  exact hhash ((lineageMatches_iff_of_some rfl).1 hmatches)

theorem storable_iff_verified : ∃ s : DerivDurableProofState,
    admitAll .empty [callWith verifiedSemantics verified_ok] = .ok s.registry ∧ s.registry.entries ≠ [] ∧ Stored s := by
  have hdatable : (fieldsWith verifiedSemantics).Datable :=
    ⟨⟨by decide, by decide, by decide⟩, ⟨.inl rfl, .inl rfl, .inl rfl⟩, by decide⟩
  have hrun := callWith_run verified_ok rfl
  refine ⟨stateOf (registryOf (callWith verifiedSemantics verified_ok).entry), hrun, List.cons_ne_nil _ _, ?_⟩
  refine ((storable_iff _ (stateOf (registryOf (callWith verifiedSemantics verified_ok).entry)) hrun).2 ⟨?_, ?_, ?_⟩).1
  · intro call hcall _ _
    rw [List.mem_singleton.1 hcall]
    rfl
  · intro e he
    rw [List.mem_singleton.1 he]
    exact hdatable
  · intro r hr
    cases hr

end

end DerivAdmission
end Jqe
