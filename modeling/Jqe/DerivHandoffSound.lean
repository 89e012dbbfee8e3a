import Jqe.DerivHandoff
import Jqe.DerivIntakeSound
import Jqe.DerivReadBack
import Jqe.JsonText
/-!
# DerivHandoffSound — what a package identity binds

The identity is a digest of the package's scope and of five fields of each artifact.  The intake records take more than
that.
-/
namespace Jqe
namespace DerivHandoff

open DerivAdmission (Json flag mem_flag flag_eq_empty mem_foldr_union)
open DerivIntake List
open Finset (mem_union union_eq_empty notMem_empty)
open ArtifactSummary (toData mk artifactId)
open ProvenanceFields (checks captureMethod captureActorId confidence accountScope)
open CaseMap (lower)

/-! ### The identity -/

theorem category_value_inj {c d : DerivEvidenceCategory} (h : c.value = d.value) : c = d := by
  cases c <;> cases d <;> first | rfl | exact absurd h (by decide)

theorem completenessValue_inj {c d : DerivEvidenceCompleteness} (h : completenessValue c = completenessValue d) :
    c = d := by
  cases c <;> cases d <;> first | rfl | exact absurd h (by decide)

theorem classificationValue_inj {c d : DerivEvidenceClassification} (h : classificationValue c = classificationValue d) :
    c = d := by
  cases c <;> cases d <;> first | rfl | exact absurd h (by decide)

theorem text_inj {s t : Option String} (h : Json.text s = Json.text t) : s = t := by
  cases s <;> cases t <;> cases h <;> rfl

theorem toData_inj {s t : ArtifactSummary} (h : s.toData = t.toData) : s = t := by
  unfold toData at h
  simp only [Json.obj.injEq, List.cons.injEq, Prod.mk.injEq, Json.str.injEq, true_and, and_true] at h
  obtain ⟨hid, hcategory, hcompleteness, hhash, hsource⟩ := h
  cases s
  cases t
  cases hid
  cases category_value_inj hcategory
  cases completenessValue_inj hcompleteness
  cases hhash
  cases hsource
  rfl

def ordered (artifacts : List DerivHandoffArtifactDescriptor) : List DerivHandoffArtifactDescriptor :=
  artifacts.mergeSort fun a b => decide (a.artifactId ≤ b.artifactId)

theorem ordered_perm (artifacts : List DerivHandoffArtifactDescriptor) : (ordered artifacts).Perm artifacts :=
  mergeSort_perm _ _

def textOf (p : DerivEvidenceHandoffPackage) : Json :=
  packageText p.broker p.environment p.classification p.contractFamily p.accountCurrency p.artifacts

theorem textualItems_map {A : Type} {f : A → Json} : ∀ (l : List A), (∀ a ∈ l, (f a).textual = true) →
    Json.textualItems (l.map f) = true
  | [], _ => rfl
  | a :: l, h => by
    rw [map_cons, Json.textualItems, h a mem_cons_self,
      textualItems_map l fun b hb => h b (mem_cons_of_mem a hb)]
    rfl

theorem textOf_textual (p : DerivEvidenceHandoffPackage) : (textOf p).textual = true := by
  have hitems := textualItems_map (f := fun a => (summary a).toData) (ordered p.artifacts) fun _ _ => rfl
  unfold textOf packageText
  simp only [Json.textual, Json.textualEntries, Json.textual_text, Bool.and_true, Bool.true_and]
  exact hitems

structure SameSummary (p q : DerivEvidenceHandoffPackage) : Prop where
  broker : p.broker = q.broker
  environment : p.environment = q.environment
  classification : p.classification = q.classification
  contractFamily : p.contractFamily = q.contractFamily
  accountCurrency : p.accountCurrency = q.accountCurrency
  artifacts : (ordered p.artifacts).map summary = (ordered q.artifacts).map summary

theorem sameSummary_of_text {p q : DerivEvidenceHandoffPackage} (h : textOf p = textOf q) : SameSummary p q := by
  unfold textOf packageText at h
  simp only [Json.obj.injEq, List.cons.injEq, Prod.mk.injEq, Json.arr.injEq, Json.str.injEq, true_and, and_true] at h
  obtain ⟨hcurrency, hartifacts, hbroker, hclassification, hfamily, henvironment⟩ := h
  refine ⟨hbroker, henvironment, classificationValue_inj hclassification, text_inj hfamily, text_inj hcurrency, ?_⟩
  have hinj : Function.Injective toData := fun _ _ => toData_inj
  refine (map_injective_iff.2 hinj) ?_
  rw [map_map, map_map]
  exact hartifacts

/-- **SHA-256 tells the two packages apart**, and their materials. -/
structure NoCollision (p q : DerivEvidenceHandoffPackage) : Prop where
  packages : truncatedDigest (textOf p).dumps = truncatedDigest (textOf q).dumps → (textOf p).dumps = (textOf q).dumps
  materials : ∀ a ∈ p.artifacts, ∀ b ∈ q.artifacts, sha256Material a.rawMaterial = sha256Material b.rawMaterial →
    a.rawMaterial = b.rawMaterial

theorem expectedPackageId_eq (p : DerivEvidenceHandoffPackage) :
    expectedPackageId p = "pkg:deriv:handoff:" ++ truncatedDigest (textOf p).dumps := rfl

theorem sameSummary {p q : DerivEvidenceHandoffPackage} (hp : p.packageId = expectedPackageId p)
    (hq : q.packageId = expectedPackageId q) (hid : p.packageId = q.packageId) (h : NoCollision p q) :
    SameSummary p q := by
  rw [hp, hq, expectedPackageId_eq, expectedPackageId_eq, String.append_right_inj] at hid
  exact sameSummary_of_text (Json.dumps_inj (textOf_textual p) (textOf_textual q) (h.packages hid))

/-! ### Eligibility -/

def ownReasons (package : DerivEvidenceHandoffPackage) : Finset DerivHandoffReasonCode :=
  flag (package.packageId ≠ expectedPackageId package) .packageTampered ∪
  (package.artifacts.map (artifactReasons package)).foldr (· ∪ ·) ∅ ∪
  flag (duplicateIdentity [] package.artifacts = true) .duplicateArtifactIdentity ∪
  flag (metadataConflict package) .artifactMetadataConflict

section

variable [CaseMap] {p : DerivEvidenceHandoffPackage} {e : HandoffExpectations}

theorem eligible_iff : (validateDerivProductionEvidenceHandoff p e).state = .eligibleForEvidenceIntake ↔
    p.artifacts ≠ [] ∧ handoffReasons p e = ∅ := by
  unfold validateDerivProductionEvidenceHandoff
  dsimp only
  split
  · next h => simp [h]
  split
  · next h hreasons => simp [h, hreasons]
  split
  · next h hreasons _ => simp [hreasons]
  split
  · next h hreasons _ _ => simp [hreasons]
  · next h hreasons _ _ => simp [hreasons]

theorem ownReasons_subset : ownReasons p ⊆ handoffReasons p e := by
  intro reason h
  unfold ownReasons at h
  unfold handoffReasons
  simp only [mem_union] at h ⊢
  tauto

theorem buildable_reasons (hown : ownReasons p = ∅) :
    handoffReasons p { enforceProductionClassification := false } = ∅ ↔
      lower p.broker = lower "deriv" ∧ requiredDerivSemanticCategories ⊆ covered p := by
  unfold ownReasons at hown
  simp only [union_eq_empty] at hown
  unfold handoffReasons
  simp only [union_eq_empty, flag_eq_empty, hown]
  simp [Finset.sdiff_eq_empty_iff_subset]

end

/-! ### A record -/

theorem construct_eq_ok {F D : Type} {checks : F → List (Bool × String)} {make : (f : F) → refused (checks f) = none → D}
    {f : F} {d : D} : construct checks make f = .ok d ↔ ∃ h, make f h = d := by
  unfold construct
  split
  · next h => exact ⟨fun heq => ⟨h, Except.ok.inj heq⟩, fun ⟨_, heq⟩ => congrArg _ heq⟩
  · next message h => exact ⟨fun heq => (nomatch heq), fun ⟨hnone, _⟩ => by rw [h] at hnone; cases hnone⟩

theorem optionalText_or {name : String} {s t : Option String} (hs : (optionalTextCheck name s).1 = true)
    (ht : (optionalTextCheck name t).1 = true) : (optionalTextCheck name (s <|> t)).1 = true := by
  cases s with
  | none => exact ht
  | some x => exact hs

theorem optionalText_getD {name : String} {s : Option String} {t : String} (hs : (optionalTextCheck name s).1 = true)
    (ht : (textCheck name t).1 = true) : (optionalTextCheck name (some (s.getD t))).1 = true := by
  cases s with
  | none => exact ht
  | some x => exact hs

section

variable {p : DerivEvidenceHandoffPackage} {a : DerivHandoffArtifactDescriptor}

theorem artifact_check (a : DerivHandoffArtifactDescriptor) (check : Bool × String) (h : check ∈ a.checks) :
    check.1 = true := refused_eq_none.1 a.ok check h

theorem package_check (p : DerivEvidenceHandoffPackage) (check : Bool × String) (h : check ∈ p.checks) :
    check.1 = true := refused_eq_none.1 p.ok check h

theorem canonicalize_artifact (a : DerivHandoffArtifactDescriptor) :
    canonicalizeDerivEvidenceFields a.normalizedFields = .ok (canonicalFields a.normalizedFields) := by
  have h := artifact_check a ((decide (a.normalizedFields.map (·.path)).Nodup,
    "duplicate normalized field paths are not allowed")) (by simp [ArtifactFields.checks])
  exact if_pos (of_decide_eq_true h)

theorem provenance_accepted (p : DerivEvidenceHandoffPackage) (a : DerivHandoffArtifactDescriptor)
    (material : List ℕ) : refused (provenanceFields p a (sha256Material material)).checks = none := by
  rw [refused_eq_none]
  have ha := artifact_check a
  have hp := package_check p
  simp only [ArtifactFields.checks, PackageFields.checks, forall_mem_cons] at ha hp
  simp only [checks, forall_mem_cons]
  obtain ⟨-, hsource, -, hhash, hmethod, -, hactor, henvironment, hscope, -⟩ := ha
  obtain ⟨-, -, henvironment', -, -, -, hscope', -⟩ := hp
  exact ⟨hsource, hmethod, hactor, hhash, isSha256_sha256Material _, optionalText_getD henvironment henvironment',
    optionalText_or hscope hscope', by simp⟩

theorem applicability_accepted [CaseMap] (p : DerivEvidenceHandoffPackage) (a : DerivHandoffArtifactDescriptor) :
    refused (applicabilityChecks (applicabilityFields p a)) = none ↔ lower (strip p.broker) = "deriv" := by
  rw [refused_eq_none]
  have ha := artifact_check a
  have hp := package_check p
  simp only [ArtifactFields.checks, PackageFields.checks, forall_mem_cons] at ha hp
  simp only [applicabilityChecks, forall_mem_cons]
  obtain ⟨-, -, -, -, -, -, -, henvironment, -, hcurrency, hfamily, hsymbol, -⟩ := ha
  obtain ⟨-, hbroker, henvironment', -, hfamily', hcurrency', -, hsymbol', -⟩ := hp
  refine ⟨fun h => eq_of_beq h.2.1, fun h => ⟨hbroker, beq_iff_eq.2 h, optionalText_or hfamily hfamily',
    optionalText_or hsymbol hsymbol', optionalText_or hcurrency hcurrency', optionalText_getD henvironment henvironment',
    rfl, rfl, rfl, rfl, by simp⟩⟩

theorem intake_accepted (p : DerivEvidenceHandoffPackage) (a : DerivHandoffArtifactDescriptor)
    (applicability : DerivEvidenceApplicability) (provenance : DerivEvidenceProvenance) :
    refused (intakeFields p a applicability provenance).checks = none ↔
      (a.sourceType = .syntheticTestFixture ↔ p.classification = .syntheticTestOnly) ∧
        (a.claimDeclarations.map (·.claimId)).Nodup := by
  rw [refused_eq_none]
  have ha := artifact_check a
  have hp := package_check p
  simp only [ArtifactFields.checks, PackageFields.checks, forall_mem_cons] at ha hp
  simp only [IntakeFields.checks, forall_mem_cons]
  obtain ⟨-, -, hraw, -, -, hschema, -, -, -, -, -, -, hpaths, -⟩ := ha
  obtain ⟨-, -, -, -, -, -, -, -, hnotes, -⟩ := hp
  have hid : (textCheck "intake_id" (intakeFields p a applicability provenance).intakeId).1 = true := by
    have hblank : blank (intakeFields p a applicability provenance).intakeId = false :=
      blank_of_head (c := 'i') (l := "ntake:".toList ++ (p.packageId ++ ":" ++ a.artifactId).toList)
        (by simp [intakeFields]) (by decide)
    unfold textCheck
    rw [hblank]
    rfl
  have hsynthetic : ((a.sourceType == .syntheticTestFixture) == (p.classification == .syntheticTestOnly)) = true ↔
      (a.sourceType = .syntheticTestFixture ↔ p.classification = .syntheticTestOnly) := by
    rw [beq_iff_eq, Bool.eq_iff_iff, beq_iff_eq, beq_iff_eq]
  constructor
  · rintro ⟨-, hkind, -, -, -, hclaims, -⟩
    exact ⟨hsynthetic.1 hkind, of_decide_eq_true hclaims⟩
  · rintro ⟨hkind, hclaims⟩
    exact ⟨hid, hsynthetic.2 hkind, hschema, hraw, hpaths, decide_eq_true hclaims, hnotes, rfl, by simp⟩

def provenanceOf (p : DerivEvidenceHandoffPackage) (a : DerivHandoffArtifactDescriptor) : DerivEvidenceProvenance :=
  ⟨_, provenance_accepted p a (encode (canonicalFields a.normalizedFields))⟩

/-- **A record that is built, and when it is.** -/
theorem candidateIntake_eq_ok [CaseMap] {record : DerivExternalEvidenceIntake} : candidateIntake p a = .ok record ↔
    lower (strip p.broker) = "deriv" ∧
      ((a.sourceType = .syntheticTestFixture ↔ p.classification = .syntheticTestOnly) ∧
        (a.claimDeclarations.map (·.claimId)).Nodup) ∧
      record.toIntakeFields = intakeFields p a (applicabilityFields p a) (provenanceOf p a) := by
  have hprovenance : construct checks DerivEvidenceProvenance.mk
      (provenanceFields p a (sha256Material (encode (canonicalFields a.normalizedFields)))) = .ok (provenanceOf p a) :=
    construct_eq_ok.2 ⟨provenance_accepted p a _, rfl⟩
  unfold candidateIntake
  rw [canonicalize_artifact]
  constructor
  · intro h
    obtain ⟨applicability, happ, h⟩ := bind_ok h
    obtain ⟨hbroker, rfl⟩ := construct_eq_ok.1 happ
    obtain ⟨canonical, hcanonical, h⟩ := bind_ok h
    cases hcanonical
    rw [hprovenance] at h
    obtain ⟨hintake, rfl⟩ := construct_eq_ok.1 h
    exact ⟨(applicability_accepted p a).1 hbroker, (intake_accepted p a _ _).1 hintake, rfl⟩
  · rintro ⟨hbroker, hintake, hrecord⟩
    have happ : construct applicabilityChecks (fun a _ => a) (applicabilityFields p a) = .ok (applicabilityFields p a) :=
      construct_eq_ok.2 ⟨(applicability_accepted p a).2 hbroker, rfl⟩
    rw [happ]
    show (construct checks DerivEvidenceProvenance.mk
      (provenanceFields p a (sha256Material (encode (canonicalFields a.normalizedFields)))) >>= _) = _
    rw [hprovenance]
    exact construct_eq_ok.2 ⟨(intake_accepted p a _ _).2 hintake, by cases record; cases hrecord; rfl⟩

end

/-! ### The records of a package -/

structure Buildable [CaseMap] (p : DerivEvidenceHandoffPackage) : Prop where
  recognised : CaseMap.lower p.broker = CaseMap.lower "deriv" ∧ CaseMap.lower (strip p.broker) = "deriv"
  covered : requiredDerivSemanticCategories ⊆ covered p
  artifacts : ∀ a ∈ p.artifacts, (a.sourceType = .syntheticTestFixture ↔ p.classification = .syntheticTestOnly) ∧
    (a.claimDeclarations.map (·.claimId)).Nodup

section

variable [CaseMap] {p q : DerivEvidenceHandoffPackage}

theorem build_eq_ok (hown : ownReasons p = ∅) (hne : p.artifacts ≠ []) {records : List DerivExternalEvidenceIntake} :
    buildCandidateIntakeRecordsFromHandoff p = .ok records ↔
      (lower p.broker = lower "deriv" ∧ requiredDerivSemanticCategories ⊆ covered p) ∧
        p.artifacts.map (candidateIntake p) = records.map .ok := by
  unfold buildCandidateIntakeRecordsFromHandoff
  dsimp only
  split
  · next h => rw [← buildable_reasons hown, mapM_eq_ok, and_iff_right (eligible_iff.1 h).2]
  · next h =>
    rw [eligible_iff, and_iff_right hne, buildable_reasons hown] at h
    exact ⟨fun heq => (nomatch heq), fun heq => absurd heq.1 h⟩

/-- **A package is turned into records where the builder takes it.** -/
theorem build_isOk (hown : ownReasons p = ∅) (hne : p.artifacts ≠ []) :
    (∃ records, buildCandidateIntakeRecordsFromHandoff p = .ok records) ↔ Buildable p := by
  constructor
  · rintro ⟨records, h⟩
    obtain ⟨hpackage, hmap⟩ := (build_eq_ok hown hne).1 h
    have hrecord : ∀ a ∈ p.artifacts, ∃ record, candidateIntake p a = .ok record := by
      intro a ha
      have hmem : candidateIntake p a ∈ records.map .ok := hmap ▸ mem_map_of_mem ha
      obtain ⟨record, -, hrecord⟩ := mem_map.1 hmem
      exact ⟨record, hrecord.symm⟩
    obtain ⟨a, ha⟩ := exists_mem_of_ne_nil _ hne
    obtain ⟨record, hbuilt⟩ := hrecord a ha
    refine ⟨⟨hpackage.1, (candidateIntake_eq_ok.1 hbuilt).1⟩, hpackage.2, fun b hb => ?_⟩
    obtain ⟨record, hbuilt⟩ := hrecord b hb
    exact (candidateIntake_eq_ok.1 hbuilt).2.1
  · intro h
    have hrecord : ∀ a ∈ p.artifacts, ∃ record, candidateIntake p a = .ok record := fun a ha =>
      ⟨⟨_, (intake_accepted p a (applicabilityFields p a) (provenanceOf p a)).2 (h.artifacts a ha)⟩,
        candidateIntake_eq_ok.2 ⟨h.recognised.2, h.artifacts a ha, rfl⟩⟩
    obtain ⟨a, ha⟩ := exists_mem_of_ne_nil _ hne
    obtain ⟨record, -⟩ := hrecord a ha
    have : Nonempty DerivExternalEvidenceIntake := ⟨record⟩
    choose! f hf using hrecord
    refine ⟨p.artifacts.map f, (build_eq_ok hown hne).2 ⟨⟨h.recognised.1, h.covered⟩, ?_⟩⟩
    rw [map_map]
    exact map_congr_left hf

end

def handedOffAs (p q : DerivEvidenceHandoffPackage) : DerivEvidenceHandoffPackage where
  toPackageFields := { p.toPackageFields with handedOffAt := q.handedOffAt, operatorNotes := q.operatorNotes }
  ok := by
    rw [refused_eq_none]
    have hp := package_check p
    have hq := package_check q
    simp only [PackageFields.checks, List.forall_mem_cons] at hp hq ⊢
    obtain ⟨hid, hbroker, henvironment, hids, hfamily, hcurrency, hscope, hsymbol, -⟩ := hp
    obtain ⟨-, -, -, -, -, -, -, -, hnotes, -⟩ := hq
    exact ⟨hid, hbroker, henvironment, hids, hfamily, hcurrency, hscope, hsymbol, hnotes, by simp⟩

/-- **What one identity stands for**: both packages are turned into records, and into the same ones in some order once
they are handed off alike. -/
structure IdentityBinds [CaseMap] (p q : DerivEvidenceHandoffPackage) : Prop where
  first : ∃ records, buildCandidateIntakeRecordsFromHandoff p = .ok records
  second : ∃ records, buildCandidateIntakeRecordsFromHandoff q = .ok records
  same : ∃ records records', buildCandidateIntakeRecordsFromHandoff (handedOffAs p q) = .ok records ∧
    buildCandidateIntakeRecordsFromHandoff q = .ok records' ∧ records.Perm records'

/-- **The artifacts agree in what the identity leaves out**, each with its package's defaults. -/
structure ArtifactsAgree (p q : DerivEvidenceHandoffPackage) (a b : DerivHandoffArtifactDescriptor) : Prop where
  sourceType : a.sourceType = b.sourceType
  contentType : a.contentType = b.contentType
  schemaOrContentVersion : a.schemaOrContentVersion = b.schemaOrContentVersion
  captureMethod : a.captureMethod = b.captureMethod
  captureActorId : a.captureActorId = b.captureActorId
  provenanceConfidence : a.provenanceConfidence = b.provenanceConfidence
  observedAt : a.observedAt.getD q.handedOffAt = b.observedAt.getD q.handedOffAt
  accountScope : (a.accountScope <|> p.accountScope) = (b.accountScope <|> q.accountScope)
  accountCurrency : (a.accountCurrency <|> p.accountCurrency) = (b.accountCurrency <|> q.accountCurrency)
  contractFamily : (a.contractFamily <|> p.contractFamily) = (b.contractFamily <|> q.contractFamily)
  symbol : (a.symbol <|> p.symbol) = (b.symbol <|> q.symbol)
  normalizedFields : a.normalizedFields = b.normalizedFields
  claimDeclarations : a.claimDeclarations = b.claimDeclarations

/-- **Both packages are taken, and the artifacts of one identifier agree.** -/
structure HandoffAgrees [CaseMap] (p q : DerivEvidenceHandoffPackage) : Prop where
  first : Buildable p
  second : Buildable q
  artifacts : ∀ a ∈ p.artifacts, ∀ b ∈ q.artifacts, a.artifactId = b.artifactId → ArtifactsAgree p q a b

theorem map_eq_map_of {A B C D : Type} {s : A → C} {t : B → C} {f : A → D} {g : B → D} : ∀ {l : List A} {r : List B},
    l.map s = r.map t → (∀ a ∈ l, ∀ b ∈ r, s a = t b → f a = g b) → l.map f = r.map g
  | [], [], _, _ => rfl
  | [], _ :: _, h, _ => by cases h
  | _ :: _, [], h, _ => by cases h
  | a :: l, b :: r, h, hfg => by
    obtain ⟨hab, hrest⟩ := List.cons.inj h
    rw [map_cons, map_cons, hfg a mem_cons_self b mem_cons_self hab,
      map_eq_map_of hrest fun a ha b hb => hfg a (mem_cons_of_mem _ ha) b (mem_cons_of_mem _ hb)]

section

variable {p q : DerivEvidenceHandoffPackage} {a b : DerivHandoffArtifactDescriptor}

theorem artifact_silent (hown : ownReasons p = ∅) (ha : a ∈ p.artifacts) :
    sha256Material a.rawMaterial = a.rawMaterialHash ∧ a.environment.getD p.environment = p.environment := by
  have hreasons : artifactReasons p a = ∅ := by
    rw [Finset.eq_empty_iff_forall_notMem]
    intro reason hreason
    have hmem : reason ∈ ownReasons p := by
      unfold ownReasons
      simp only [mem_union, mem_foldr_union]
      exact .inl (.inl (.inr ⟨_, mem_map_of_mem ha, hreason⟩))
    rw [hown] at hmem
    exact notMem_empty _ hmem
  unfold artifactReasons at hreasons
  simp only [union_eq_empty, flag_eq_empty] at hreasons
  obtain ⟨⟨⟨⟨⟨⟨hhash, -⟩, -⟩, henvironment⟩, -⟩, -⟩, -⟩ := hreasons
  refine ⟨not_not.1 hhash, ?_⟩
  cases hx : a.environment with
  | none => rfl
  | some x =>
    by_contra hne
    exact henvironment ⟨x, hx, p.environment, rfl, hne⟩

theorem packageId_eq (hown : ownReasons p = ∅) : p.packageId = expectedPackageId p := by
  unfold ownReasons at hown
  simp only [union_eq_empty, flag_eq_empty] at hown
  exact not_not.1 hown.1.1.1

variable [CaseMap]

theorem candidateIntake_congr (happlicability : applicabilityFields p a = applicabilityFields q b)
    (hfields : a.normalizedFields = b.normalizedFields)
    (hprovenance : ∀ hash, provenanceFields p a hash = provenanceFields q b hash)
    (hintake : ∀ applicability provenance,
      intakeFields p a applicability provenance = intakeFields q b applicability provenance) :
    candidateIntake p a = candidateIntake q b := by
  unfold candidateIntake
  simp only [happlicability, hfields, hprovenance, hintake]

/-- **Artifacts of one summary that agree are turned into one record.** -/
theorem candidateIntake_agree (hid : p.packageId = q.packageId) (hsame : SameSummary p q) (hp : ownReasons p = ∅)
    (hq : ownReasons q = ∅) (ha : a ∈ p.artifacts) (hb : b ∈ q.artifacts) (hraw : a.rawMaterial = b.rawMaterial)
    (hsummary : summary a = summary b) (h : ArtifactsAgree p q a b) :
    candidateIntake (handedOffAs p q) a = candidateIntake q b := by
  have henvironment : a.environment.getD p.environment = b.environment.getD q.environment := by
    rw [(artifact_silent hp ha).2, (artifact_silent hq hb).2, hsame.environment]
  unfold summary at hsummary
  rw [mk.injEq] at hsummary
  obtain ⟨hartifact, -, hsource, hhash, hcompleteness⟩ := hsummary
  refine candidateIntake_congr ?_ h.normalizedFields (fun hash => ?_) fun applicability provenance => ?_
  · unfold applicabilityFields handedOffAs
    rw [hsame.broker, h.contractFamily, h.symbol, h.accountCurrency, henvironment]
  · unfold provenanceFields handedOffAs
    rw [hsource, h.captureMethod, h.captureActorId, h.observedAt, hhash, henvironment, h.accountScope,
      h.provenanceConfidence]
  · unfold intakeFields handedOffAs
    rw [hid, hartifact, h.sourceType, hsame.classification, h.observedAt, h.contentType, h.schemaOrContentVersion, hraw,
      h.normalizedFields, hcompleteness, h.claimDeclarations]

theorem agree_of_record {record : DerivExternalEvidenceIntake}
    (ha : candidateIntake (handedOffAs p q) a = .ok record) (hb : candidateIntake q b = .ok record) :
    ArtifactsAgree p q a b := by
  have h := (candidateIntake_eq_ok.1 ha).2.2.symm.trans (candidateIntake_eq_ok.1 hb).2.2
  have happlicability := congrArg IntakeFields.applicability h
  have hprovenance := congrArg (fun i => i.provenance.toProvenanceFields) h
  exact {
    sourceType := congrArg IntakeFields.sourceType h
    contentType := congrArg IntakeFields.contentType h
    schemaOrContentVersion := congrArg IntakeFields.sourceSchemaId h
    captureMethod := congrArg captureMethod hprovenance
    captureActorId := congrArg captureActorId hprovenance
    provenanceConfidence := congrArg confidence hprovenance
    observedAt := congrArg IntakeFields.capturedAt h
    accountScope := congrArg accountScope hprovenance
    accountCurrency := congrArg DerivEvidenceApplicability.accountCurrency happlicability
    contractFamily := congrArg DerivEvidenceApplicability.contractFamily happlicability
    symbol := congrArg DerivEvidenceApplicability.symbol happlicability
    normalizedFields := congrArg IntakeFields.normalizedFields h
    claimDeclarations := congrArg IntakeFields.claimDeclarations h }

theorem artifactId_of_record (hid : p.packageId = q.packageId) {record : DerivExternalEvidenceIntake}
    (ha : candidateIntake p a = .ok record) (hb : candidateIntake q b = .ok record) : a.artifactId = b.artifactId := by
  have h := congrArg IntakeFields.intakeId
    ((candidateIntake_eq_ok.1 ha).2.2.symm.trans (candidateIntake_eq_ok.1 hb).2.2)
  dsimp only [intakeFields] at h
  rw [hid, String.append_right_inj] at h
  exact h

theorem buildable_handedOffAs : Buildable (handedOffAs p q) ↔ Buildable p :=
  ⟨fun h => ⟨h.recognised, h.covered, h.artifacts⟩, fun h => ⟨h.recognised, h.covered, h.artifacts⟩⟩

theorem agrees_of_binds (hp : ownReasons p = ∅) (hpne : p.artifacts ≠ []) (hq : ownReasons q = ∅) (hqne : q.artifacts ≠ [])
    (hid : p.packageId = q.packageId) (h : IdentityBinds p q) : HandoffAgrees p q := by
  refine ⟨(build_isOk hp hpne).1 h.first, (build_isOk hq hqne).1 h.second, fun a ha b hb hartifact => ?_⟩
  obtain ⟨records, records', hbuild, hbuild', hperm⟩ := h.same
  have hmap := ((build_eq_ok (p := handedOffAs p q) hp hpne).1 hbuild).2
  have hmap' := ((build_eq_ok hq hqne).1 hbuild').2
  -- the record of `a` is one of `q`'s, and its identifier names `b`
  obtain ⟨record, hrecord, hbuilt⟩ :=
    mem_map.1 (hmap ▸ mem_map_of_mem ha : candidateIntake (handedOffAs p q) a ∈ records.map .ok)
  obtain ⟨b', hb', hbuilt'⟩ := mem_map.1
    (hmap'.symm ▸ mem_map_of_mem (hperm.mem_iff.1 hrecord) : .ok record ∈ q.artifacts.map (candidateIntake q))
  have hname := artifactId_of_record (p := handedOffAs p q) hid hbuilt.symm hbuilt'
  have hids : (q.artifacts.map (·.artifactId)).Nodup := by
    have hcheck := package_check q ((decide (q.artifacts.map (·.artifactId)).Nodup,
      "duplicate artifact IDs are not allowed in a handoff package")) (by simp [PackageFields.checks])
    exact of_decide_eq_true hcheck
  have hbb : b' = b := inj_on_of_nodup_map hids hb' hb (hname.symm.trans hartifact)
  exact agree_of_record hbuilt.symm (hbb ▸ hbuilt')

theorem binds_of_agrees (hp : ownReasons p = ∅) (hpne : p.artifacts ≠ []) (hq : ownReasons q = ∅) (hqne : q.artifacts ≠ [])
    (hid : p.packageId = q.packageId) (hdigest : NoCollision p q) (h : HandoffAgrees p q) : IdentityBinds p q := by
  have hsame := sameSummary (packageId_eq hp) (packageId_eq hq) hid hdigest
  obtain ⟨records, hbuild⟩ := (build_isOk (p := handedOffAs p q) hp hpne).2 (buildable_handedOffAs.2 h.first)
  obtain ⟨records', hbuild'⟩ := (build_isOk hq hqne).2 h.second
  refine ⟨(build_isOk hp hpne).2 h.first, ⟨records', hbuild'⟩, records, records', hbuild, hbuild', ?_⟩
  have hmap := ((build_eq_ok (p := handedOffAs p q) hp hpne).1 hbuild).2
  have hmap' := ((build_eq_ok hq hqne).1 hbuild').2
  have hordered : (ordered p.artifacts).map (candidateIntake (handedOffAs p q)) =
      (ordered q.artifacts).map (candidateIntake q) := by
    refine map_eq_map_of hsame.artifacts fun a ha b hb hsummary => ?_
    have ha' := (ordered_perm _).mem_iff.1 ha
    have hb' := (ordered_perm _).mem_iff.1 hb
    have hraw : a.rawMaterial = b.rawMaterial := by
      refine hdigest.materials a ha' b hb' ?_
      rw [(artifact_silent hp ha').1, (artifact_silent hq hb').1]
      exact congrArg ArtifactSummary.rawMaterialHash hsummary
    exact candidateIntake_agree hid hsame hp hq ha' hb' hraw hsummary
      (h.artifacts a ha' b hb' (congrArg artifactId hsummary))
  have hperm : (records.map (Except.ok (ε := PyExc))).Perm (records'.map .ok) := by
    rw [← hmap, ← hmap']
    exact ((ordered_perm _).symm.map _).trans (hordered ▸ (ordered_perm _).map _)
  have hread := hperm.filterMap Except.toOption
  have hsome : Except.toOption ∘ Except.ok (ε := PyExc) (α := DerivExternalEvidenceIntake) = some := rfl
  rwa [filterMap_map, filterMap_map, hsome, filterMap_some, filterMap_some] at hread

theorem eligible_own {e : HandoffExpectations}
    (h : (validateDerivProductionEvidenceHandoff p e).state = .eligibleForEvidenceIntake) :
    ownReasons p = ∅ ∧ p.artifacts ≠ [] := by
  obtain ⟨hne, hreasons⟩ := eligible_iff.1 h
  exact ⟨Finset.subset_empty.1 (hreasons ▸ ownReasons_subset), hne⟩

/-- **Packages of one identity are turned into the same records exactly where they agree.** -/
theorem identityBinds_iff {e e' : HandoffExpectations}
    (hp : (validateDerivProductionEvidenceHandoff p e).state = .eligibleForEvidenceIntake)
    (hq : (validateDerivProductionEvidenceHandoff q e').state = .eligibleForEvidenceIntake)
    (hid : p.packageId = q.packageId) (hdigest : NoCollision p q) : IdentityBinds p q ↔ HandoffAgrees p q := by
  obtain ⟨hpown, hpne⟩ := eligible_own hp
  obtain ⟨hqown, hqne⟩ := eligible_own hq
  exact ⟨agrees_of_binds hpown hpne hqown hqne hid, binds_of_agrees hpown hpne hqown hqne hid hdigest⟩

end

/-! ### Two packages of one identity -/

section

local instance handoffCase : CaseMap := asciiCase

def demoClaim (supportState : DerivClaimSupportState) : DerivSemanticClaimDeclaration :=
  { capturedDeclaration with supportState }

def demoArtifact (supportState : DerivClaimSupportState) (category : DerivEvidenceCategory) :
    DerivHandoffArtifactDescriptor where
  artifactId := "artifact:" ++ category.value
  category := category
  sourceType := .contractSpecificationCapture
  sourceIdentifier := "source"
  contentType := .json
  rawMaterial := [1]
  rawMaterialHash := sha256Material [1]
  captureMethod := "manual-export"
  completeness := .complete
  provenanceConfidence := .directExternalSource
  schemaOrContentVersion := none
  captureActorId := none
  observedAt := none
  environment := none
  accountScope := none
  accountCurrency := none
  contractFamily := none
  symbol := none
  normalizedFields := []
  claimDeclarations := [demoClaim supportState]
  ok := by
    rw [refused_eq_none]
    simp only [ArtifactFields.checks, List.forall_mem_cons]
    have hid : blank ("artifact:" ++ category.value) = false :=
      blank_of_head (c := 'a') (l := "rtifact:".toList ++ category.value.toList) (by simp) (by decide)
    have hcheck : (textCheck "artifact_id" ("artifact:" ++ category.value)).1 = true := by
      unfold textCheck
      rw [hid]
      rfl
    have hhash : ∀ material, (hashCheck "raw_material_hash" (sha256Material material)).1 = true := isSha256_sha256Material
    exact ⟨hcheck, by decide, rfl, hhash [1], by decide, rfl, rfl, rfl, rfl, rfl, rfl, rfl, rfl, by simp⟩

def demoCategories : List DerivEvidenceCategory :=
  [.equationIdentity, .operandSemantics, .quantityBasisSemantics, .multiplierSemantics, .stopLossSemantics,
    .outputLossSemantics, .accountCurrencyTreatment, .contractFamilySpecification, .financialRoundingPolicy,
    .domainConstraints]

def demoArtifacts (supportState : DerivClaimSupportState) : List DerivHandoffArtifactDescriptor :=
  demoCategories.map (demoArtifact supportState)

theorem demoArtifacts_nodup (supportState : DerivClaimSupportState) :
    ((demoArtifacts supportState).map (·.artifactId)).Nodup := by
  have hinj : Function.Injective fun category : DerivEvidenceCategory => "artifact:" ++ category.value :=
    fun _ _ h => category_value_inj (String.append_right_inj _ |>.1 h)
  have hcategories : demoCategories.Nodup := by decide
  unfold demoArtifacts
  rw [map_map]
  exact hcategories.map hinj

def demoPackage (supportState : DerivClaimSupportState) (handedOffAt : ℤ) : DerivEvidenceHandoffPackage where
  packageId := computeHandoffPackageId "deriv" "demo" .externalProductionCandidate none none (demoArtifacts supportState)
  broker := "deriv"
  environment := "demo"
  classification := .externalProductionCandidate
  handedOffAt := handedOffAt
  artifacts := demoArtifacts supportState
  contractFamily := none
  accountCurrency := none
  accountScope := none
  symbol := none
  operatorNotes := none
  ok := by
    rw [refused_eq_none]
    simp only [PackageFields.checks, List.forall_mem_cons]
    refine ⟨?_, by decide, by decide, decide_eq_true (demoArtifacts_nodup supportState), rfl, rfl, rfl, rfl, rfl, by simp⟩
    unfold computeHandoffPackageId textCheck
    rw [blank_of_head (c := 'p') (l := "kg:deriv:handoff:".toList ++ _) (by rw [String.toList_append]; rfl) (by decide)]
    rfl

theorem duplicateIdentity_of_nodup : ∀ {artifacts : List DerivHandoffArtifactDescriptor} {seen : List (String × String)},
    (artifacts.map (·.artifactId)).Nodup → (∀ a ∈ artifacts, seen.lookup a.artifactId = none) →
    duplicateIdentity seen artifacts = false
  | [], _, _, _ => rfl
  | a :: artifacts, seen, hnodup, hseen => by
    rw [map_cons, nodup_cons] at hnodup
    rw [duplicateIdentity, hseen a mem_cons_self]
    refine duplicateIdentity_of_nodup hnodup.2 fun b hb => ?_
    have hne : (b.artifactId == a.artifactId) = false := by
      rw [beq_eq_false_iff_ne]
      exact fun h => hnodup.1 (h ▸ mem_map_of_mem hb)
    rw [lookup_cons, hne]
    exact hseen b (mem_cons_of_mem _ hb)

theorem demo_own (supportState : DerivClaimSupportState) (handedOffAt : ℤ) :
    ownReasons (demoPackage supportState handedOffAt) = ∅ := by
  have hartifact : ∀ a ∈ (demoPackage supportState handedOffAt).artifacts,
      artifactReasons (demoPackage supportState handedOffAt) a = ∅ := by
    intro a ha
    obtain ⟨category, -, rfl⟩ := mem_map.1 ha
    unfold artifactReasons
    simp only [union_eq_empty, flag_eq_empty]
    exact ⟨⟨⟨⟨⟨⟨not_not_intro rfl, not_not_intro rfl⟩, DerivProvenanceConfidence.noConfusion⟩, by rintro ⟨_, ⟨⟩, _⟩⟩,
      by rintro ⟨_, ⟨⟩, _⟩⟩, by rintro ⟨_, ⟨⟩, _⟩⟩, by rintro ⟨_, ⟨⟩, _⟩⟩
  have hartifacts : ((demoPackage supportState handedOffAt).artifacts.map
      (artifactReasons (demoPackage supportState handedOffAt))).foldr (· ∪ ·) ∅ = ∅ := by
    rw [Finset.eq_empty_iff_forall_notMem]
    intro reason hreason
    obtain ⟨reasons, hmem, hreason⟩ := mem_foldr_union.1 hreason
    obtain ⟨a, ha, rfl⟩ := mem_map.1 hmem
    rw [hartifact a ha] at hreason
    exact notMem_empty _ hreason
  have hduplicate : duplicateIdentity [] (demoPackage supportState handedOffAt).artifacts = false :=
    duplicateIdentity_of_nodup (demoArtifacts_nodup supportState) fun _ _ => rfl
  unfold ownReasons
  rw [hartifacts, hduplicate, Finset.union_empty, union_eq_empty, union_eq_empty, flag_eq_empty, flag_eq_empty,
    flag_eq_empty]
  have hnone : ¬several (List.replicate 10 none) := by decide
  exact ⟨⟨not_not_intro rfl, Bool.false_ne_true⟩, fun h => h.elim hnone fun h => h.elim hnone fun h => h.elim hnone hnone⟩

theorem demo_covered (supportState : DerivClaimSupportState) (handedOffAt : ℤ) :
    covered (demoPackage supportState handedOffAt) = requiredDerivSemanticCategories := by
  have hcategories : (demoPackage supportState handedOffAt).artifacts.map (·.category) = demoCategories := by
    unfold demoPackage demoArtifacts
    rw [map_map]
    rfl
  unfold covered
  rw [hcategories]
  decide

theorem demo_eligible (supportState : DerivClaimSupportState) (handedOffAt : ℤ) :
    (validateDerivProductionEvidenceHandoff (demoPackage supportState handedOffAt) {}).state =
      .eligibleForEvidenceIntake := by
  have hown := demo_own supportState handedOffAt
  unfold ownReasons at hown
  simp only [union_eq_empty] at hown
  rw [eligible_iff]
  refine ⟨cons_ne_nil _ _, ?_⟩
  unfold handoffReasons
  have hcovered : requiredDerivSemanticCategories \ covered (demoPackage supportState handedOffAt) = ∅ := by
    rw [demo_covered]
    exact Finset.sdiff_self _
  simp only [union_eq_empty, flag_eq_empty, hown, hcovered]
  simp [demoPackage]

theorem packageText_congr {artifacts artifacts' : List DerivHandoffArtifactDescriptor}
    (h : artifacts.map summary = artifacts'.map summary) (broker environment : String)
    (classification : DerivEvidenceClassification) (contractFamily accountCurrency : Option String) :
    packageText broker environment classification contractFamily accountCurrency artifacts =
      packageText broker environment classification contractFamily accountCurrency artifacts' := by
  have hordered : ∀ l, (ordered l).map summary =
      (l.map summary).mergeSort fun s t => decide (s.artifactId ≤ t.artifactId) := fun l =>
    map_mergeSort fun _ _ _ _ => rfl
  have hdata : (ordered artifacts).map (fun a => (summary a).toData) = (ordered artifacts').map fun a => (summary a).toData := by
    have hsummaries : (ordered artifacts).map summary = (ordered artifacts').map summary := by
      rw [hordered, hordered, h]
    exact map_eq_map_of hsummaries fun _ _ _ _ hsummary => congrArg toData hsummary
  unfold ordered at hdata
  unfold packageText
  dsimp only
  rw [hdata]

theorem demo_text (s t : DerivClaimSupportState) (m n : ℤ) : textOf (demoPackage s m) = textOf (demoPackage t n) := by
  have hsummary : summary ∘ demoArtifact s = summary ∘ demoArtifact t := by
    funext category
    rfl
  have hsummaries : (demoArtifacts s).map summary = (demoArtifacts t).map summary := by
    unfold demoArtifacts
    rw [map_map, map_map, hsummary]
  exact packageText_congr hsummaries "deriv" "demo" .externalProductionCandidate none none

theorem demo_packageId (s t : DerivClaimSupportState) (m n : ℤ) :
    (demoPackage s m).packageId = (demoPackage t n).packageId := by
  rw [packageId_eq (demo_own s m), packageId_eq (demo_own t n), expectedPackageId_eq, expectedPackageId_eq, demo_text]

theorem demo_noCollision (s t : DerivClaimSupportState) (m n : ℤ) : NoCollision (demoPackage s m) (demoPackage t n) := by
  refine ⟨fun _ => by rw [demo_text], fun a ha b hb _ => ?_⟩
  obtain ⟨_, -, rfl⟩ := mem_map.1 ha
  obtain ⟨_, -, rfl⟩ := mem_map.1 hb
  rfl

theorem demo_buildable (s : DerivClaimSupportState) (m : ℤ) : Buildable (demoPackage s m) := by
  have hbroker : lower (strip "deriv") = "deriv" := by decide
  refine ⟨⟨rfl, hbroker⟩, (demo_covered s m).symm.subset, fun a ha => ?_⟩
  obtain ⟨_, -, rfl⟩ := mem_map.1 ha
  exact ⟨⟨fun h => (nomatch h), fun h => (nomatch h)⟩, nodup_singleton _⟩

/-- Handed off again at another moment. -/
theorem identity_binds_demo : IdentityBinds (demoPackage .supported 0) (demoPackage .supported 1) :=
  (identityBinds_iff (demo_eligible .supported 0) (demo_eligible .supported 1) (demo_packageId _ _ _ _)
    (demo_noCollision _ _ _ _)).2 ⟨demo_buildable _ _, demo_buildable _ _, by
      intro a ha b hb hid
      obtain ⟨c, -, rfl⟩ := List.mem_map.1 ha
      obtain ⟨d, -, rfl⟩ := List.mem_map.1 hb
      have hcd : c = d := category_value_inj (String.append_right_inj _ |>.1 hid)
      subst hcd
      exact ⟨rfl, rfl, rfl, rfl, rfl, rfl, rfl, rfl, rfl, rfl, rfl, rfl, rfl⟩⟩

/-- **Two eligible packages of one identity, one with claims supported and one with claims contradicted.** -/
theorem identity_leaves_claims : ∃ p q : DerivEvidenceHandoffPackage,
    (validateDerivProductionEvidenceHandoff p {}).state = .eligibleForEvidenceIntake ∧
      (validateDerivProductionEvidenceHandoff q {}).state = .eligibleForEvidenceIntake ∧
      p.packageId = q.packageId ∧ NoCollision p q ∧
      (∃ records, buildCandidateIntakeRecordsFromHandoff p = .ok records) ∧
      (∃ records, buildCandidateIntakeRecordsFromHandoff q = .ok records) ∧ ¬IdentityBinds p q := by
  have hne : ∀ s m, (demoPackage s m).artifacts ≠ [] := fun _ _ => List.cons_ne_nil _ _
  refine ⟨demoPackage .supported 0, demoPackage .contradicted 0, demo_eligible _ _, demo_eligible _ _,
    demo_packageId _ _ _ _, demo_noCollision _ _ _ _, (build_isOk (demo_own _ _) (hne _ _)).2 (demo_buildable _ _),
    (build_isOk (demo_own _ _) (hne _ _)).2 (demo_buildable _ _), fun h => ?_⟩
  have hagree := (agrees_of_binds (demo_own _ _) (hne _ _) (demo_own _ _) (hne _ _) (demo_packageId _ _ _ _) h).artifacts
    (demoArtifact .supported .equationIdentity) List.mem_cons_self
    (demoArtifact .contradicted .equationIdentity) List.mem_cons_self rfl
  have hclaims : demoClaim .supported = demoClaim .contradicted := (List.cons.inj hagree.claimDeclarations).1
  exact absurd (congrArg DerivSemanticClaimDeclaration.supportState hclaims) (by decide)

end

end DerivHandoff
end Jqe
