import Jqe.DerivAdmissionSound
import Jqe.DerivIntake
/-!
# DerivIntakeSound — when readiness is sound

The readiness looks at the last verification of each listed intake and at the claims of listed intakes only.
-/
namespace Jqe
namespace DerivIntake

open List

open DerivAdmission (flag mem_flag flag_eq_empty mem_foldr_union)

/-- **What readiness stands for.** -/
structure ReadinessSound (r : SemanticReviewRequest) : Prop where
  claims : (validateDerivEvidenceForSemanticReview r).state = .readyForSemanticReview →
    ∀ claim ∈ r.claims, ∃ intake ∈ r.intakes, claim ∈ extractDerivSemanticClaims intake
  verifications : (validateDerivEvidenceForSemanticReview r).state = .readyForSemanticReview →
    ∀ intake ∈ r.intakes, ∀ verification ∈ r.verifications, verification.intakeId = intake.intakeId →
      verification.state = .verifiedSource ∧
      revoked r.revocations .sourceVerification verification.verificationId = false ∧
      verification.rawMaterialHash = rawHash intake ∧ verification.normalizedMaterialHash = normalizedHash intake
  intakes : (validateDerivEvidenceForSemanticReview r).state = .readyForSemanticReview →
    ∀ intake ∈ r.intakes, revoked r.revocations .intake intake.intakeId = false ∧
      (∀ t ∈ intake.validUntil, r.evaluationAt ≤ t) ∧ intake.completeness = .complete ∧
      intake.applicability = r.expectedApplicability ∧
      intake.provenance.environment = r.expectedApplicability.environment ∧
      intake.provenance.accountScope = r.expectedAccountScope
  order : ∀ intakes verifications revocations, intakes.Perm r.intakes → verifications.Perm r.verifications →
    revocations.Perm r.revocations →
    validateDerivEvidenceForSemanticReview { r with intakes, verifications, revocations } =
      validateDerivEvidenceForSemanticReview r

/-- A verification that some order of those supplied makes the last of an intake, or that there is none. -/
def Supplied (verifications : List DerivSourceVerificationDecision) (id : String) :
    Option DerivSourceVerificationDecision → Prop
  | some verification => verification ∈ verifications ∧ verification.intakeId = id
  | none => ∀ verification ∈ verifications, verification.intakeId ≠ id

/-- What speaks against the evidence whatever verifications are supplied. -/
def otherReasons (r : SemanticReviewRequest) : Finset DerivEvidenceReadinessReason :=
  (r.intakes.map fun intake => intakeReasons r intake ∪ bindingReasons r.claims intake).foldr (· ∪ ·) ∅ ∪
    flag (claimValuesConflict [] r.claims = true) .evidenceConflict

/-- **The verifications of one intake speak alike, and no claim is left over.** -/
structure EvidenceAgrees (r : SemanticReviewRequest) : Prop where
  /-- each reason is there anyway, or no verification gives it, or all those of one intake do -/
  alike : ∀ reason, reason ∈ otherReasons r ∨
    (∀ intake ∈ r.intakes, ∀ choice, Supplied r.verifications intake.intakeId choice →
      reason ∉ verificationReasons r.revocations intake choice) ∨
    ∃ intake ∈ r.intakes, ∀ choice, Supplied r.verifications intake.intakeId choice →
      ∃ other ∈ r.intakes, other.intakeId = intake.intakeId ∧ reason ∈ verificationReasons r.revocations other choice
  /-- where nothing speaks against the evidence, every claim names a listed intake -/
  bound : r.intakes ≠ [] → otherReasons r = ∅ →
    (∀ intake ∈ r.intakes, ∀ choice, Supplied r.verifications intake.intakeId choice →
      verificationReasons r.revocations intake choice = ∅) →
    ∀ claim ∈ r.claims, ∃ intake ∈ r.intakes, claim.intakeId = intake.intakeId

theorem lookup_verificationByIntake (verifications : List DerivSourceVerificationDecision) (id : String) :
    (verificationByIntake verifications).lookup id =
      verifications.reverse.find? fun verification => verification.intakeId == id := by
  unfold verificationByIntake
  rw [lookup_foldl_dictSet, lookup_nil, Option.or_none]

theorem supplied_lookup (verifications : List DerivSourceVerificationDecision) (id : String) :
    Supplied verifications id ((verificationByIntake verifications).lookup id) := by
  rw [lookup_verificationByIntake]
  cases hfind : verifications.reverse.find? fun verification => verification.intakeId == id with
  | some verification =>
    exact ⟨mem_reverse.1 (mem_of_find?_eq_some hfind), by simpa using find?_some hfind⟩
  | none =>
    intro verification hmem
    simpa using List.find?_eq_none.1 hfind verification (mem_reverse.2 hmem)

theorem supplied_perm {verifications verifications' : List DerivSourceVerificationDecision}
    (h : verifications.Perm verifications') {id : String} {choice : Option DerivSourceVerificationDecision} :
    Supplied verifications id choice ↔ Supplied verifications' id choice := by
  cases choice with
  | some verification => exact and_congr_left' h.mem_iff
  | none => exact forall_congr' fun verification => imp_congr_left h.mem_iff

variable {r : SemanticReviewRequest}

theorem mem_readinessReasons {reason : DerivEvidenceReadinessReason} :
    reason ∈ readinessReasons r ↔ reason ∈ otherReasons r ∨ ∃ intake ∈ r.intakes, reason ∈
      verificationReasons r.revocations intake ((verificationByIntake r.verifications).lookup intake.intakeId) := by
  unfold readinessReasons otherReasons
  simp only [Finset.mem_union, mem_foldr_union, mem_map, exists_exists_and_eq_and]
  constructor
  · rintro (⟨intake, hintake, (h | h) | h⟩ | h)
    · exact .inl (.inl ⟨intake, hintake, .inl h⟩)
    · exact .inr ⟨intake, hintake, h⟩
    · exact .inl (.inl ⟨intake, hintake, .inr h⟩)
    · exact .inl (.inr h)
  · rintro ((⟨intake, hintake, h | h⟩ | h) | ⟨intake, hintake, h⟩)
    · exact .inl ⟨intake, hintake, .inl (.inl h)⟩
    · exact .inl ⟨intake, hintake, .inr h⟩
    · exact .inr h
    · exact .inl ⟨intake, hintake, .inl (.inr h)⟩

/-! ### What the order leaves -/

theorem revoked_perm {revocations revocations' : List DerivEvidenceRevocation} (h : revocations.Perm revocations')
    (kind : DerivEvidenceRevocationTarget) (id : String) : revoked revocations kind id = revoked revocations' kind id := by
  unfold revoked
  rw [Bool.eq_iff_iff, List.any_eq_true, List.any_eq_true]
  exact exists_congr fun record => and_congr_left' h.mem_iff

theorem verificationReasons_perm {revocations revocations' : List DerivEvidenceRevocation}
    (h : revocations.Perm revocations') (intake : DerivExternalEvidenceIntake)
    (choice : Option DerivSourceVerificationDecision) :
    verificationReasons revocations intake choice = verificationReasons revocations' intake choice := by
  cases choice with
  | none => rfl
  | some verification =>
    unfold verificationReasons
    dsimp only
    rw [revoked_perm h]

section

variable {r : SemanticReviewRequest} {intakes : List DerivExternalEvidenceIntake}
  {verifications : List DerivSourceVerificationDecision} {revocations : List DerivEvidenceRevocation}

theorem otherReasons_perm (hintakes : intakes.Perm r.intakes) (hrevocations : revocations.Perm r.revocations) :
    otherReasons { r with intakes, verifications, revocations } = otherReasons r := by
  have hintake : ∀ intake, intakeReasons { r with intakes, verifications, revocations } intake = intakeReasons r intake := by
    intro intake
    unfold intakeReasons
    dsimp only
    rw [revoked_perm hrevocations]
  unfold otherReasons
  dsimp only
  ext reason
  simp only [Finset.mem_union, mem_foldr_union, mem_map, exists_exists_and_eq_and, hintake, hintakes.mem_iff]

theorem mem_reordered (hintakes : intakes.Perm r.intakes) (hrevocations : revocations.Perm r.revocations)
    {reason : DerivEvidenceReadinessReason} :
    reason ∈ readinessReasons { r with intakes, verifications, revocations } ↔ reason ∈ otherReasons r ∨
      ∃ intake ∈ r.intakes, reason ∈
        verificationReasons r.revocations intake ((verificationByIntake verifications).lookup intake.intakeId) := by
  rw [mem_readinessReasons, otherReasons_perm hintakes hrevocations]
  dsimp only
  simp only [hintakes.mem_iff, verificationReasons_perm hrevocations]

theorem reasons_of_alike (h : EvidenceAgrees r) (hintakes : intakes.Perm r.intakes)
    (hverifications : verifications.Perm r.verifications) (hrevocations : revocations.Perm r.revocations) :
    readinessReasons { r with intakes, verifications, revocations } = readinessReasons r := by
  ext reason
  rw [mem_reordered hintakes hrevocations, mem_readinessReasons]
  refine or_congr_right' fun hother => ?_
  have hsupplied : ∀ id, Supplied r.verifications id ((verificationByIntake verifications).lookup id) :=
    fun id => (supplied_perm hverifications).1 (supplied_lookup verifications id)
  rcases h.alike reason with hin | hnever | ⟨intake, hintake, halways⟩
  · exact absurd hin hother
  · constructor
    · rintro ⟨intake, hintake, hmem⟩
      exact absurd hmem (hnever intake hintake _ (hsupplied _))
    · rintro ⟨intake, hintake, hmem⟩
      exact absurd hmem (hnever intake hintake _ (supplied_lookup _ _))
  · constructor
    · rintro -
      obtain ⟨other, hlisted, hid, hmem⟩ := halways _ (supplied_lookup r.verifications intake.intakeId)
      exact ⟨other, hlisted, hid ▸ hmem⟩
    · rintro -
      obtain ⟨other, hlisted, hid, hmem⟩ := halways _ (hsupplied intake.intakeId)
      exact ⟨other, hlisted, hid ▸ hmem⟩

end

/-! ### What is answered -/

theorem sourceReady_not_mem (r : SemanticReviewRequest) : .sourceReady ∉ readinessReasons r := by
  have hverification : ∀ intake choice, .sourceReady ∉ verificationReasons r.revocations intake choice := by
    intro intake choice
    unfold verificationReasons
    split
    · simp
    · split <;> simp [mem_flag]
  rw [mem_readinessReasons]
  rintro (h | ⟨intake, -, h⟩)
  · simp [otherReasons, mem_foldr_union, intakeReasons, bindingReasons, mem_flag] at h
  · exact hverification _ _ h

theorem ready_iff :
    (validateDerivEvidenceForSemanticReview r).state = .readyForSemanticReview ↔
      r.intakes ≠ [] ∧ readinessReasons r = ∅ := by
  unfold validateDerivEvidenceForSemanticReview
  by_cases hintakes : r.intakes = []
  · simp [hintakes]
  · by_cases hreasons : readinessReasons r = ∅
    · simp [hintakes, hreasons]
    · simp only [hintakes, hreasons, if_false, and_false, iff_false]
      split
      · simp
      · split <;> simp

theorem validate_congr {r' : SemanticReviewRequest} (hintakes : r.intakes = [] ↔ r'.intakes = [])
    (hreasons : readinessReasons r = readinessReasons r') :
    validateDerivEvidenceForSemanticReview r = validateDerivEvidenceForSemanticReview r' := by
  unfold validateDerivEvidenceForSemanticReview
  simp only [hintakes, hreasons]

theorem reasons_of_validate {r' : SemanticReviewRequest} (hintakes : r.intakes ≠ []) (hintakes' : r'.intakes ≠ [])
    (h : validateDerivEvidenceForSemanticReview r = validateDerivEvidenceForSemanticReview r') :
    readinessReasons r = readinessReasons r' := by
  have hcodes : ∀ r : SemanticReviewRequest, r.intakes ≠ [] →
      (validateDerivEvidenceForSemanticReview r).reasonCodes =
        if readinessReasons r = ∅ then {.sourceReady} else readinessReasons r := by
    intro r hintakes
    unfold validateDerivEvidenceForSemanticReview
    rw [if_neg hintakes]
    split
    · rfl
    · split
      · rfl
      · split <;> rfl
  have hsame : (if readinessReasons r = ∅ then {.sourceReady} else readinessReasons r) =
      if readinessReasons r' = ∅ then {.sourceReady} else readinessReasons r' := by
    rw [← hcodes r hintakes, ← hcodes r' hintakes', h]
  have hr := sourceReady_not_mem r
  have hr' := sourceReady_not_mem r'
  split at hsame
  · next hnone =>
    split at hsame
    · next hnone' => rw [hnone, hnone']
    · rw [← hsame] at hr'
      exact absurd (Finset.mem_singleton_self _) hr'
  · split at hsame
    · rw [hsame] at hr
      exact absurd (Finset.mem_singleton_self _) hr
    · exact hsame

theorem verifications_silent (h : EvidenceAgrees r) (hready : readinessReasons r = ∅) :
    otherReasons r = ∅ ∧ ∀ intake ∈ r.intakes, ∀ choice, Supplied r.verifications intake.intakeId choice →
      verificationReasons r.revocations intake choice = ∅ := by
  have hnone : ∀ reason, reason ∉ readinessReasons r := Finset.eq_empty_iff_forall_notMem.1 hready
  have hother : ∀ reason, reason ∉ otherReasons r := fun reason hmem => hnone reason (mem_readinessReasons.2 (.inl hmem))
  refine ⟨Finset.eq_empty_iff_forall_notMem.2 hother, fun intake hintake choice hsupplied => ?_⟩
  rw [Finset.eq_empty_iff_forall_notMem]
  intro reason
  rcases h.alike reason with hin | hnever | ⟨other, hlisted, halways⟩
  · exact absurd hin (hother reason)
  · exact hnever intake hintake choice hsupplied
  · obtain ⟨named, hnamed, hid, hmem⟩ := halways _ (supplied_lookup r.verifications other.intakeId)
    exact absurd (mem_readinessReasons.2 (.inr ⟨named, hnamed, hid ▸ hmem⟩)) (hnone reason)

theorem other_silent (h : otherReasons r = ∅) {intake : DerivExternalEvidenceIntake} (hintake : intake ∈ r.intakes) :
    intakeReasons r intake = ∅ ∧ bindingReasons r.claims intake = ∅ := by
  have hnone := Finset.eq_empty_iff_forall_notMem.1 h
  unfold otherReasons at hnone
  simp only [Finset.mem_union, mem_foldr_union, mem_map, exists_exists_and_eq_and] at hnone
  exact ⟨Finset.eq_empty_iff_forall_notMem.2 fun reason hmem => hnone reason (.inl ⟨intake, hintake, .inl hmem⟩),
    Finset.eq_empty_iff_forall_notMem.2 fun reason hmem => hnone reason (.inl ⟨intake, hintake, .inr hmem⟩)⟩

theorem readinessSound_of_agrees (h : EvidenceAgrees r) : ReadinessSound r where
  claims := by
    intro hstate claim hclaim
    obtain ⟨hintakes, hready⟩ := ready_iff.1 hstate
    obtain ⟨hother, hsilent⟩ := verifications_silent h hready
    obtain ⟨intake, hintake, hid⟩ := h.bound hintakes hother hsilent claim hclaim
    have hbinding := (other_silent hother hintake).2
    unfold bindingReasons at hbinding
    rw [flag_eq_empty, not_or, not_not] at hbinding
    refine ⟨intake, hintake, ?_⟩
    rw [← hbinding.1]
    exact mem_filter.2 ⟨hclaim, by simpa using hid⟩
  verifications := by
    intro hstate intake hintake verification hverification hid
    obtain ⟨-, hready⟩ := ready_iff.1 hstate
    have hnone := (verifications_silent h hready).2 intake hintake (some verification) ⟨hverification, hid⟩
    unfold verificationReasons at hnone
    dsimp only at hnone
    split at hnone
    · exact absurd hnone (Finset.singleton_ne_empty _)
    · next hverified =>
      rw [Finset.union_eq_empty, flag_eq_empty, flag_eq_empty, not_or, not_not] at hnone
      exact ⟨not_not.1 hverified, by simpa using hnone.1, hnone.2.1, not_not.1 (not_or.1 hnone.2.2).1⟩
  intakes := by
    intro hstate intake hintake
    obtain ⟨-, hready⟩ := ready_iff.1 hstate
    have hnone := (other_silent (verifications_silent h hready).1 hintake).1
    unfold intakeReasons at hnone
    simp only [Finset.union_eq_empty, flag_eq_empty, not_not, not_or, not_exists, not_and, not_lt] at hnone
    obtain ⟨⟨⟨⟨⟨-, hcomplete⟩, happlicability⟩, henvironment, hscope⟩, hstale⟩, hrevoked⟩ := hnone
    exact ⟨by simpa using hrevoked, hstale, hcomplete, happlicability, henvironment, hscope⟩
  order := by
    intro intakes verifications revocations hintakes hverifications hrevocations
    refine validate_congr ?_ (reasons_of_alike h hintakes hverifications hrevocations)
    dsimp only
    rw [← length_eq_zero_iff, ← length_eq_zero_iff, hintakes.length_eq]

/-! ### The other direction -/

theorem exists_order {verifications : List DerivSourceVerificationDecision}
    {f : String → Option DerivSourceVerificationDecision} (hf : ∀ id, Supplied verifications id (f id)) :
    ∃ verifications' : List DerivSourceVerificationDecision, verifications'.Perm verifications ∧
      ∀ id, (verificationByIntake verifications').lookup id = f id := by
  have hsome : ∀ id verification, f id = some verification → verification ∈ verifications ∧ verification.intakeId = id := by
    intro id verification heq
    have h := hf id
    rw [heq] at h
    exact h
  have hnone : ∀ id, f id = none → ∀ verification ∈ verifications, verification.intakeId ≠ id := by
    intro id heq
    have h := hf id
    rw [heq] at h
    exact h
  obtain ⟨verifications', hperm, hlast⟩ := exists_perm_last _ verifications f hsome hnone
  exact ⟨verifications', hperm, fun id => (lookup_verificationByIntake _ id).trans (hlast id)⟩

theorem agrees_of_sound (h : ReadinessSound r) : EvidenceAgrees r where
  alike := by
    intro reason
    by_contra hno
    rw [not_or, not_or] at hno
    obtain ⟨hother, hsome, hspared⟩ := hno
    push Not at hsome hspared
    obtain ⟨intake, hintake, choice, hsupplied, hmem⟩ := hsome
    have hfree : ∀ id, ∃ choice, Supplied r.verifications id choice ∧
        ∀ other ∈ r.intakes, other.intakeId = id → reason ∉ verificationReasons r.revocations other choice := by
      intro id
      by_cases hlisted : ∃ other ∈ r.intakes, other.intakeId = id
      · obtain ⟨other, hin, rfl⟩ := hlisted
        exact hspared other hin
      · exact ⟨_, supplied_lookup r.verifications id, fun other hin hid => absurd ⟨other, hin, hid⟩ hlisted⟩
    choose free hfreeSupplied hfreeReason using hfree
    obtain ⟨silent, hsilent, hsilentLookup⟩ := exists_order hfreeSupplied
    -- the order that looks up the verification with the reason
    have hchosen : ∀ id, Supplied r.verifications id (if id = intake.intakeId then choice else free id) := by
      intro id
      split
      · next heq => exact heq ▸ hsupplied
      · exact hfreeSupplied id
    obtain ⟨loud, hloud, hloudLookup⟩ := exists_order hchosen
    have hreasons : ∀ verifications : List DerivSourceVerificationDecision, verifications.Perm r.verifications →
        readinessReasons { r with verifications } = readinessReasons r := by
      intro verifications hperm
      have hne : r.intakes ≠ [] := ne_nil_of_mem hintake
      exact reasons_of_validate hne hne (h.order r.intakes verifications r.revocations (.refl _) hperm (.refl _))
    have hin : reason ∈ readinessReasons r := by
      rw [← hreasons loud hloud, mem_readinessReasons]
      refine .inr ⟨intake, hintake, ?_⟩
      rw [hloudLookup, if_pos rfl]
      exact hmem
    rw [← hreasons silent hsilent, mem_readinessReasons] at hin
    rcases hin with hin | ⟨other, hlisted, hin⟩
    · exact hother hin
    · rw [hsilentLookup] at hin
      exact hfreeReason other.intakeId other hlisted rfl hin
  bound := by
    intro hintakes hother hsilent claim hclaim
    have hready : readinessReasons r = ∅ := by
      rw [Finset.eq_empty_iff_forall_notMem]
      intro reason hmem
      rcases mem_readinessReasons.1 hmem with hin | ⟨intake, hintake, hin⟩
      · rw [hother] at hin
        exact absurd hin (Finset.notMem_empty _)
      · rw [hsilent intake hintake _ (supplied_lookup _ _)] at hin
        exact absurd hin (Finset.notMem_empty _)
    obtain ⟨intake, hintake, hextracted⟩ := h.claims (ready_iff.2 ⟨hintakes, hready⟩) claim hclaim
    refine ⟨intake, hintake, ?_⟩
    unfold extractDerivSemanticClaims at hextracted
    split at hextracted
    · cases hextracted
    · obtain ⟨declaration, -, rfl⟩ := mem_map.1 hextracted
      rfl

/-- **Readiness is sound exactly where the verifications of one intake speak alike and no claim is left over.** -/
theorem readinessSound_iff (r : SemanticReviewRequest) : ReadinessSound r ↔ EvidenceAgrees r :=
  ⟨agrees_of_sound, readinessSound_of_agrees⟩

/-! ### A rejected source and a claim of nothing listed -/

def demoScope : DerivEvidenceApplicability :=
  ⟨"deriv", some "multiplier", some "R_100", some "USD", some "demo", some "stake", some "stop", some "factor", some "all"⟩

def capturedField : DerivNormalizedEvidenceField := ⟨"$.value", "1", "equation", none, by decide⟩

def capturedProvenance : DerivEvidenceProvenance where
  sourceIdentifier := "source"
  captureMethod := "manual"
  captureActorId := none
  observedAt := none
  rawMaterialHash := sha256Material [1]
  normalizedMaterialHash := sha256Material (encode (canonicalFields [capturedField]))
  environment := some "demo"
  accountScope := none
  confidence := .directExternalSource
  ok := by
    rw [refused_eq_none]
    simp only [ProvenanceFields.checks, hashCheck, isSha256_sha256Material, List.forall_mem_cons, true_and]
    decide

def capturedDeclaration : DerivSemanticClaimDeclaration :=
  ⟨"claim", .lossModelDescriptionIdentity, "equation", "1", .supported, ["$.value"], true, by decide⟩

def capturedIntake : DerivExternalEvidenceIntake where
  intakeId := "intake"
  sourceType := .contractSpecificationCapture
  classification := .externalProductionCandidate
  capturedAt := 0
  contentType := .json
  sourceSchemaId := none
  rawMaterial := [1]
  normalizedFields := [capturedField]
  provenance := capturedProvenance
  completeness := .complete
  applicability := demoScope
  claimDeclarations := [capturedDeclaration]
  reviewerNotes := none
  validUntil := none
  ok := by decide

def decisionOver (verificationId : String) (state : DerivSourceVerificationState)
    (h : (textCheck "verification_id" verificationId).1 = true) : DerivSourceVerificationDecision where
  verificationId := verificationId
  intakeId := "intake"
  rawMaterialHash := sha256Material [1]
  normalizedMaterialHash := sha256Material (encode (canonicalFields [capturedField]))
  sourceIdentifier := "source"
  classification := .externalProductionCandidate
  applicability := demoScope
  state := state
  verifiedBy := "reviewer"
  ok := by
    rw [refused_eq_none]
    simp only [hashCheck, isSha256_sha256Material, h, List.forall_mem_cons, true_and]
    decide

def rejectedSource : DerivSourceVerificationDecision := decisionOver "rejected" .rejectedSource (by decide)

def verifiedSource : DerivSourceVerificationDecision := decisionOver "verified" .verifiedSource (by decide)

def strayClaim : DerivExtractedEvidenceClaim where
  claimId := "claim"
  intakeId := "unlisted"
  rawMaterialHash := sha256Material [1]
  normalizedMaterialHash := sha256Material (encode (canonicalFields [capturedField]))
  sourceIdentifier := "source"
  classification := .externalProductionCandidate
  claimType := .lossModelDescriptionIdentity
  semanticId := "equation"
  value := "1"
  supportState := .contradicted
  applicability := demoScope
  sourceFieldPaths := ["$.value"]

def looseRequest : SemanticReviewRequest where
  intakes := [capturedIntake]
  verifications := [rejectedSource, verifiedSource]
  claims := extractDerivSemanticClaims capturedIntake ++ [strayClaim]
  expectedApplicability := demoScope
  expectedAccountScope := none
  evaluationAt := 0
  revocations := []
  scope := by decide

theorem looseRequest_other : otherReasons looseRequest = ∅ := by
  have hintake : intakeReasons looseRequest capturedIntake = ∅ := by
    unfold intakeReasons
    simp only [Finset.union_eq_empty, flag_eq_empty]
    exact ⟨⟨⟨⟨⟨⟨⟨⟨by decide, not_not_intro rfl⟩, not_not_intro rfl⟩, by decide⟩, by decide⟩, by decide⟩, by decide⟩,
      by simp [capturedIntake]⟩, by decide⟩
  have hbinding : bindingReasons looseRequest.claims capturedIntake = ∅ := by
    unfold bindingReasons
    dsimp only
    rw [flag_eq_empty, not_or]
    exact ⟨not_not_intro rfl, by decide⟩
  have hconflict : claimValuesConflict [] looseRequest.claims = false := by decide
  have hintakes : looseRequest.intakes = [capturedIntake] := rfl
  unfold otherReasons
  rw [hconflict, hintakes, map_singleton, hintake, hbinding]
  decide

theorem verifiedSource_silent : verificationReasons looseRequest.revocations capturedIntake
    ((verificationByIntake looseRequest.verifications).lookup capturedIntake.intakeId) = ∅ := by
  have hlookup : (verificationByIntake looseRequest.verifications).lookup capturedIntake.intakeId = some verifiedSource :=
    rfl
  rw [hlookup]
  unfold verificationReasons
  dsimp only
  rw [if_neg (by decide), Finset.union_eq_empty, flag_eq_empty, flag_eq_empty, not_or, not_or, not_or, not_or]
  exact ⟨by decide, not_not_intro rfl, not_not_intro rfl, not_not_intro rfl, not_not_intro rfl, not_not_intro rfl⟩

theorem rejectedSource_loud : verificationReasons looseRequest.revocations capturedIntake
    ((verificationByIntake [verifiedSource, rejectedSource]).lookup capturedIntake.intakeId) = {.sourceNotVerified} := by
  have hlookup : (verificationByIntake [verifiedSource, rejectedSource]).lookup capturedIntake.intakeId =
      some rejectedSource := rfl
  rw [hlookup]
  unfold verificationReasons
  dsimp only
  rw [if_pos (by decide)]

/-- **Ready, with a rejected source and a contradicted claim of no listed intake**; in the other order, insufficient. -/
theorem loose_evidence_ready : ∃ (r : SemanticReviewRequest) (verification : DerivSourceVerificationDecision)
    (verifications : List DerivSourceVerificationDecision) (claim : DerivExtractedEvidenceClaim)
    (intake : DerivExternalEvidenceIntake),
    (validateDerivEvidenceForSemanticReview r).state = .readyForSemanticReview ∧
      (claim ∈ r.claims ∧ ∀ intake ∈ r.intakes, claim ∉ extractDerivSemanticClaims intake) ∧
      (intake ∈ r.intakes ∧ verification ∈ r.verifications ∧ verification.intakeId = intake.intakeId ∧
        verification.state = .rejectedSource) ∧
      verifications.Perm r.verifications ∧
      (validateDerivEvidenceForSemanticReview { r with verifications }).state = .insufficient := by
  have hintakes : looseRequest.intakes = [capturedIntake] := rfl
  have hready : readinessReasons looseRequest = ∅ := by
    ext reason
    rw [mem_readinessReasons, looseRequest_other, hintakes]
    simp only [List.mem_singleton, exists_eq_left, verifiedSource_silent, Finset.notMem_empty, or_self]
  have hswapped : readinessReasons { looseRequest with verifications := [verifiedSource, rejectedSource] } =
      {.sourceNotVerified} := by
    ext reason
    rw [mem_reordered (r := looseRequest) (.refl _) (.refl _), looseRequest_other, hintakes]
    simp only [List.mem_singleton, exists_eq_left, rejectedSource_loud, Finset.notMem_empty, false_or]
  refine ⟨looseRequest, rejectedSource, [verifiedSource, rejectedSource], strayClaim, capturedIntake,
    ready_iff.2 ⟨List.cons_ne_nil _ _, hready⟩, ⟨List.mem_append_right _ (List.mem_singleton_self _), ?_⟩,
    ⟨List.mem_singleton_self _, List.mem_cons_self, rfl, rfl⟩, .swap _ _ _, ?_⟩
  · intro intake hintake hmem
    rw [hintakes, List.mem_singleton] at hintake
    subst hintake
    have hid : strayClaim.intakeId = capturedIntake.intakeId := by
      have hclaims : extractDerivSemanticClaims capturedIntake = [{ strayClaim with
        intakeId := "intake", supportState := .supported }] := rfl
      rw [hclaims] at hmem
      exact congrArg DerivExtractedEvidenceClaim.intakeId (List.mem_singleton.1 hmem)
    exact absurd hid (by decide)
  · unfold validateDerivEvidenceForSemanticReview
    rw [hswapped]
    rfl

end DerivIntake
end Jqe
