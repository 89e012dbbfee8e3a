import Jqe.DerivStorable
import Jqe.PyDict
/-!
# DerivReviewOrder — when the order of a listing does not matter to its review

`validate_deriv_evidence_review` merges the claims of the listed artifacts by id, so an artifact hides the claims that
earlier ones carry under its ids.
-/
namespace Jqe
namespace DerivAdmission

open List

section

variable [CaseMap]

/-! ### The claim that is kept -/

def claimOf (id : String) (artifact : DerivEvidenceArtifact) : Option DerivEvidenceClaim :=
  artifact.claims.reverse.find? fun claim => claim.claimId == id

/-- What `claims_by_id` keeps under an id: the claim of the last artifact that has one. -/
def lastClaim (artifacts : List DerivEvidenceArtifact) (id : String) : Option DerivEvidenceClaim :=
  artifacts.reverse.findSome? (claimOf id)

variable {artifact : DerivEvidenceArtifact} {artifacts : List DerivEvidenceArtifact} {x z : DerivEvidenceClaim}
  {registry : DerivEvidenceRegistry} {pairs : List (String × String)} {d : DecisionFields} {claimIds : List String}
  {l : ArtifactListing}

omit [CaseMap] in
theorem claimOf_eq_some {id : String} {claim : DerivEvidenceClaim} :
    claimOf id artifact = some claim ↔ claim ∈ artifact.claims ∧ claim.claimId = id := by
  constructor
  · intro h
    exact ⟨mem_reverse.1 (mem_of_find?_eq_some h), by simpa using find?_some h⟩
  · rintro ⟨hmem, rfl⟩
    cases hfind : claimOf claim.claimId artifact with
    | none =>
      have hno := List.find?_eq_none.1 hfind claim (mem_reverse.2 hmem)
      simp at hno
    | some found =>
      have hfound := mem_reverse.1 (mem_of_find?_eq_some hfind)
      have hid : found.claimId = claim.claimId := by simpa using find?_some hfind
      rw [inj_on_of_nodup_map artifact.claimIds hfound hmem hid]

omit [CaseMap] in
theorem claimOf_eq_none {id : String} : claimOf id artifact = none ↔ ∀ claim ∈ artifact.claims, claim.claimId ≠ id := by
  unfold claimOf
  rw [List.find?_eq_none]
  simp

omit [CaseMap] in
theorem lookup_claimsById_eq (id : String) : ∀ artifacts : List DerivEvidenceArtifact,
    (claimsById artifacts).lookup id = lastClaim artifacts id := by
  intro artifacts
  unfold claimsById lastClaim
  rw [lookup_foldl_dictSet, lookup_nil, Option.or_none]
  induction artifacts with
  | nil => rfl
  | cons artifact artifacts ih =>
    rw [flatMap_cons, reverse_append, find?_append, ih, reverse_cons, findSome?_append]
    simp [claimOf]

omit [CaseMap] in
theorem lastClaim_last (artifacts : List DerivEvidenceArtifact) {claim : DerivEvidenceClaim}
    (hclaim : claim ∈ artifact.claims) : lastClaim (artifacts ++ [artifact]) claim.claimId = some claim := by
  unfold lastClaim
  rw [reverse_append, findSome?_append]
  simp [claimOf_eq_some.2 ⟨hclaim, rfl⟩]

omit [CaseMap] in
theorem lastClaim_append {id : String} (hnone : ∀ claim ∈ artifact.claims, claim.claimId ≠ id) :
    lastClaim (artifacts ++ [artifact]) id = lastClaim artifacts id := by
  unfold lastClaim
  rw [reverse_append, findSome?_append]
  simp [claimOf_eq_none.2 hnone]

def Listed (artifacts : List DerivEvidenceArtifact) (claim : DerivEvidenceClaim) : Prop :=
  ∃ artifact ∈ artifacts, claim ∈ artifact.claims

omit [CaseMap] in
theorem lastClaim_eq_none {id : String} :
    lastClaim artifacts id = none ↔ ∀ claim, Listed artifacts claim → claim.claimId ≠ id := by
  unfold lastClaim
  rw [findSome?_eq_none_iff]
  constructor
  · rintro h claim ⟨artifact, hlisted, hclaim⟩
    exact claimOf_eq_none.1 (h artifact (mem_reverse.2 hlisted)) claim hclaim
  · intro h artifact hlisted
    exact claimOf_eq_none.2 fun claim hclaim => h claim ⟨artifact, mem_reverse.1 hlisted, hclaim⟩

omit [CaseMap] in
theorem lastClaim_eq_some {id : String} {claim : DerivEvidenceClaim} (h : lastClaim artifacts id = some claim) :
    Listed artifacts claim ∧ claim.claimId = id := by
  obtain ⟨artifact, hlisted, hclaim⟩ := exists_of_findSome?_eq_some h
  obtain ⟨hmem, hid⟩ := claimOf_eq_some.1 hclaim
  exact ⟨⟨artifact, mem_reverse.1 hlisted, hmem⟩, hid⟩

/-- **Two claims that some order of the artifacts shows together**: no artifact of one hides the other. -/
def Together (artifacts : List DerivEvidenceArtifact) (x z : DerivEvidenceClaim) : Prop :=
  ∃ a ∈ artifacts, ∃ b ∈ artifacts, x ∈ a.claims ∧ z ∈ b.claims ∧
    (a = b ∨ (∀ claim ∈ a.claims, claim.claimId ≠ z.claimId) ∨ ∀ claim ∈ b.claims, claim.claimId ≠ x.claimId)

omit [CaseMap] in
theorem together_of_findSome {id id' : String} {x z : DerivEvidenceClaim} : ∀ {artifacts : List DerivEvidenceArtifact},
    artifacts.findSome? (claimOf id) = some x → artifacts.findSome? (claimOf id') = some z → Together artifacts x z
  | [], h, _ => by cases h
  | a :: artifacts, h, h' => by
    have hid : x.claimId = id := by
      obtain ⟨_, _, hclaim⟩ := exists_of_findSome?_eq_some h
      exact (claimOf_eq_some.1 hclaim).2
    have hid' : z.claimId = id' := by
      obtain ⟨_, _, hclaim⟩ := exists_of_findSome?_eq_some h'
      exact (claimOf_eq_some.1 hclaim).2
    rw [findSome?_cons] at h h'
    cases hx : claimOf id a with
    | some found =>
      rw [hx] at h
      cases h
      have hxa := (claimOf_eq_some.1 hx).1
      cases hz : claimOf id' a with
      | some found =>
        rw [hz] at h'
        cases h'
        exact ⟨a, mem_cons_self, a, mem_cons_self, hxa, (claimOf_eq_some.1 hz).1, .inl rfl⟩
      | none =>
        rw [hz] at h'
        obtain ⟨b, hb, hclaim⟩ := exists_of_findSome?_eq_some h'
        exact ⟨a, mem_cons_self, b, mem_cons_of_mem _ hb, hxa, (claimOf_eq_some.1 hclaim).1,
          .inr (.inl (hid' ▸ claimOf_eq_none.1 hz))⟩
    | none =>
      rw [hx] at h
      cases hz : claimOf id' a with
      | some found =>
        rw [hz] at h'
        cases h'
        obtain ⟨b, hb, hclaim⟩ := exists_of_findSome?_eq_some h
        exact ⟨b, mem_cons_of_mem _ hb, a, mem_cons_self, (claimOf_eq_some.1 hclaim).1,
          (claimOf_eq_some.1 hz).1, .inr (.inr (hid ▸ claimOf_eq_none.1 hx))⟩
      | none =>
        rw [hz] at h'
        obtain ⟨b, hb, c, hc, h⟩ := together_of_findSome h h'
        exact ⟨b, mem_cons_of_mem _ hb, c, mem_cons_of_mem _ hc, h⟩

omit [CaseMap] in
theorem lastClaim_together {id id' : String} (hx : lastClaim artifacts id = some x)
    (hz : lastClaim artifacts id' = some z) : Together artifacts x z := by
  obtain ⟨a, ha, b, hb, h⟩ := together_of_findSome hx hz
  exact ⟨a, mem_reverse.1 ha, b, mem_reverse.1 hb, h⟩

/-! ### The orders of a listing -/

omit [CaseMap] in
theorem mem_foundArtifacts : artifact ∈ foundArtifacts registry (pairs.map Prod.fst) ↔
      ∃ e ∈ pairs, registry.getById e.1 = some artifact := by
  unfold foundArtifacts
  simp [mem_filterMap]

omit [CaseMap] in
theorem foundArtifacts_append {e : String × String} (h : registry.getById e.1 = some artifact) :
    foundArtifacts registry ((pairs ++ [e]).map Prod.fst) =
      foundArtifacts registry (pairs.map Prod.fst) ++ [artifact] := by
  unfold foundArtifacts
  rw [map_append, filterMap_append]
  simp [h]

omit [CaseMap] in
theorem exists_last {a : DerivEvidenceArtifact} (ha : a ∈ foundArtifacts registry (pairs.map Prod.fst)) :
    ∃ pairs' : List (String × String), pairs'.Perm pairs ∧
      ∃ artifacts, foundArtifacts registry (pairs'.map Prod.fst) = artifacts ++ [a] := by
  obtain ⟨e, he, hget⟩ := mem_foundArtifacts.1 ha
  exact ⟨pairs.erase e ++ [e], (perm_append_singleton _ _).trans (perm_cons_erase he).symm, _,
    foundArtifacts_append hget⟩

omit [CaseMap] in
theorem exists_last_two {a b : DerivEvidenceArtifact} (ha : a ∈ foundArtifacts registry (pairs.map Prod.fst))
    (hb : b ∈ foundArtifacts registry (pairs.map Prod.fst)) (hne : a ≠ b) :
    ∃ pairs' : List (String × String), pairs'.Perm pairs ∧
      ∃ artifacts, foundArtifacts registry (pairs'.map Prod.fst) = artifacts ++ [b] ++ [a] := by
  obtain ⟨e, he, hget⟩ := mem_foundArtifacts.1 ha
  obtain ⟨f, hf, hget'⟩ := mem_foundArtifacts.1 hb
  have hef : f ≠ e := by
    rintro rfl
    exact hne (Option.some.inj (hget.symm.trans hget'))
  have hrest : f ∈ pairs.erase e := (mem_erase_of_ne hef).2 hf
  refine ⟨(pairs.erase e).erase f ++ [f] ++ [e], ?_, foundArtifacts registry (((pairs.erase e).erase f).map Prod.fst), ?_⟩
  · refine (perm_append_singleton _ _).trans (.trans (.cons _ ?_) (perm_cons_erase he).symm)
    exact (perm_append_singleton _ _).trans (perm_cons_erase hrest).symm
  · rw [foundArtifacts_append hget, foundArtifacts_append hget']

omit [CaseMap] in
theorem exists_shown (h : Together (foundArtifacts registry (pairs.map Prod.fst)) x z) :
    ∃ pairs' : List (String × String), pairs'.Perm pairs ∧
      lastClaim (foundArtifacts registry (pairs'.map Prod.fst)) x.claimId = some x ∧
      lastClaim (foundArtifacts registry (pairs'.map Prod.fst)) z.claimId = some z := by
  obtain ⟨a, ha, b, hb, hx, hz, h⟩ := h
  by_cases hab : a = b
  · subst hab
    obtain ⟨pairs', hperm, artifacts, hfound⟩ := exists_last ha
    exact ⟨pairs', hperm, hfound ▸ lastClaim_last artifacts hx, hfound ▸ lastClaim_last artifacts hz⟩
  · rcases h with h | hnone | hnone
    · exact absurd h hab
    · obtain ⟨pairs', hperm, artifacts, hfound⟩ := exists_last_two ha hb hab
      refine ⟨pairs', hperm, hfound ▸ lastClaim_last _ hx, ?_⟩
      rw [hfound, lastClaim_append hnone]
      exact lastClaim_last artifacts hz
    · obtain ⟨pairs', hperm, artifacts, hfound⟩ := exists_last_two hb ha (Ne.symm hab)
      refine ⟨pairs', hperm, ?_, hfound ▸ lastClaim_last _ hz⟩
      rw [hfound, lastClaim_append hnone]
      exact lastClaim_last artifacts hx

/-! ### The reasons -/

def Describes (claim : DerivEvidenceClaim) (semantics : DerivFinancialSemanticsSpecification) : Prop :=
  claim.claimType = .lossModelDescriptionIdentity ∧ claim.value = semantics.materialHash

def Contradicts (x z : DerivEvidenceClaim) : Prop :=
  (x.claimType, x.subject, x.applicability) = (z.claimType, z.subject, z.applicability) ∧ x.value ≠ z.value

omit [CaseMap] in
theorem Contradicts.symm (h : Contradicts x z) : Contradicts z x := ⟨h.1.symm, h.2.symm⟩

omit [CaseMap] in
theorem claimsConflict_iff : ∀ {claims : List DerivEvidenceClaim}
    {seen : List ((DerivEvidenceClaimType × String × DerivEvidenceApplicability) × String)},
    claimsConflict seen claims = true ↔ ∃ x ∈ claims,
      (∃ v, seen.lookup (x.claimType, x.subject, x.applicability) = some v ∧ v ≠ x.value) ∨
        ∃ z ∈ claims, Contradicts x z
  | [], seen => by simp [claimsConflict]
  | claim :: claims, seen => by
    unfold claimsConflict
    dsimp only
    cases hlookup : seen.lookup (claim.claimType, claim.subject, claim.applicability) with
    | some previous =>
      dsimp only
      rw [Bool.or_eq_true, bne_iff_ne, claimsConflict_iff]
      constructor
      · rintro (hne | ⟨x, hx, h | ⟨z, hz, h⟩⟩)
        · exact ⟨claim, mem_cons_self, .inl ⟨previous, hlookup, hne⟩⟩
        · exact ⟨x, mem_cons_of_mem _ hx, .inl h⟩
        · exact ⟨x, mem_cons_of_mem _ hx, .inr ⟨z, mem_cons_of_mem _ hz, h⟩⟩
      · rintro ⟨x, hx, h⟩
        by_cases hprevious : previous = claim.value
        · right
          -- what contradicts the claim contradicts what was seen of its identity
          have hseen : ∀ z ∈ claims, Contradicts claim z →
              ∃ v, seen.lookup (z.claimType, z.subject, z.applicability) = some v ∧ v ≠ z.value :=
            fun z _ hz => ⟨previous, hz.1 ▸ hlookup, hprevious ▸ hz.2⟩
          rcases mem_cons.1 hx with rfl | hxs
          · rcases h with ⟨v, hv, hne⟩ | ⟨z, hz, h⟩
            · rw [hlookup] at hv
              exact absurd (Option.some.inj hv ▸ hprevious) hne
            · rcases mem_cons.1 hz with rfl | hz
              · exact absurd rfl h.2
              · exact ⟨z, hz, .inl (hseen z hz h)⟩
          · rcases h with h | ⟨z, hz, h⟩
            · exact ⟨x, hxs, .inl h⟩
            · rcases mem_cons.1 hz with rfl | hz
              · exact ⟨x, hxs, .inl (hseen x hxs h.symm)⟩
              · exact ⟨x, hxs, .inr ⟨z, hz, h⟩⟩
        · exact .inl hprevious
    | none =>
      dsimp only
      rw [claimsConflict_iff]
      have hcons : ∀ x : DerivEvidenceClaim, (∃ v, List.lookup (x.claimType, x.subject, x.applicability)
          (((claim.claimType, claim.subject, claim.applicability), claim.value) :: seen) = some v ∧ v ≠ x.value) ↔
          (∃ v, seen.lookup (x.claimType, x.subject, x.applicability) = some v ∧ v ≠ x.value) ∨ Contradicts claim x := by
        intro x
        rw [lookup_cons]
        by_cases hsame : (x.claimType, x.subject, x.applicability) = (claim.claimType, claim.subject, claim.applicability)
        · have hnone : seen.lookup (x.claimType, x.subject, x.applicability) = none := hsame ▸ hlookup
          simp [hsame, hlookup, Contradicts]
        · have hne : ((x.claimType, x.subject, x.applicability) ==
            (claim.claimType, claim.subject, claim.applicability)) = false := beq_eq_false_iff_ne.2 hsame
          have hnot : ¬Contradicts claim x := fun h => hsame h.1.symm
          simp only [hne, hnot, or_false]
      constructor
      · rintro ⟨x, hx, h | ⟨z, hz, h⟩⟩
        · rcases (hcons x).1 h with h | h
          · exact ⟨x, mem_cons_of_mem _ hx, .inl h⟩
          · exact ⟨claim, mem_cons_self, .inr ⟨x, mem_cons_of_mem _ hx, h⟩⟩
        · exact ⟨x, mem_cons_of_mem _ hx, .inr ⟨z, mem_cons_of_mem _ hz, h⟩⟩
      · rintro ⟨x, hx, h⟩
        rcases mem_cons.1 hx with rfl | hxs
        · rcases h with ⟨v, hv, -⟩ | ⟨z, hz, h⟩
          · rw [hlookup] at hv
            cases hv
          · rcases mem_cons.1 hz with rfl | hz
            · exact absurd rfl h.2
            · exact ⟨z, hz, .inl ((hcons z).2 (.inr h))⟩
        · rcases h with h | ⟨z, hz, h⟩
          · exact ⟨x, hxs, .inl ((hcons x).2 (.inl h))⟩
          · rcases mem_cons.1 hz with rfl | hz
            · exact ⟨x, hxs, .inl ((hcons x).2 (.inr h.symm))⟩
            · exact ⟨x, hxs, .inr ⟨z, hz, h⟩⟩

/-- A selected claim of a decision: what is kept under one of its ids. -/
def Selected (artifacts : List DerivEvidenceArtifact) (claimIds : List String) (claim : DerivEvidenceClaim) : Prop :=
  ∃ id ∈ claimIds, lastClaim artifacts id = some claim

theorem mem_evidenceReviewReasons {r : DerivEvidenceReviewReason} : r ∈ evidenceReviewReasons d registry ↔
      (d.artifactIds = [] ∧ r = .missingRequiredClaim) ∨
      (∃ e ∈ d.artifactIds.zip d.artifactContentHashes, r ∈ artifactReasons registry e.1 e.2) ∨
      (d.claimIds = [] ∧ r = .missingRequiredClaim) ∨
      (∃ id ∈ d.claimIds, r ∈ claimReasons (claimsById (foundArtifacts registry d.artifactIds)) d.applicability id) ∨
      ((∃ x z, Selected (foundArtifacts registry d.artifactIds) d.claimIds x ∧
        Selected (foundArtifacts registry d.artifactIds) d.claimIds z ∧ Contradicts x z) ∧
        r = .duplicateOrConflictingClaim) ∨
      ∃ s, d.financialSemantics = some s ∧
        (¬∃ x, Selected (foundArtifacts registry d.artifactIds) d.claimIds x ∧ Describes x s) ∧
        r = .missingRequiredClaim := by
  have hselected : ∀ x, x ∈ (d.claimIds.filterMap fun id =>
      (claimsById (foundArtifacts registry d.artifactIds)).lookup id) ↔
        Selected (foundArtifacts registry d.artifactIds) d.claimIds x := by
    intro x
    simp only [mem_filterMap, lookup_claimsById_eq, Selected]
  have hconflict : claimsConflict [] (d.claimIds.filterMap fun id =>
      (claimsById (foundArtifacts registry d.artifactIds)).lookup id) = true ↔
      ∃ x z, Selected (foundArtifacts registry d.artifactIds) d.claimIds x ∧
        Selected (foundArtifacts registry d.artifactIds) d.claimIds z ∧ Contradicts x z := by
    rw [claimsConflict_iff]
    simp only [lookup_nil, hselected, reduceCtorEq, false_and, exists_false, false_or, exists_and_left]
  unfold evidenceReviewReasons
  dsimp only
  cases d.financialSemantics with
  | none =>
    simp only [Finset.mem_union, mem_flag, mem_foldr_union, mem_map, hconflict, exists_exists_and_eq_and, or_assoc,
      Finset.notMem_empty, reduceCtorEq, false_and, exists_false]
  | some s =>
    simp only [Finset.mem_union, mem_flag, mem_foldr_union, mem_map, hconflict, exists_exists_and_eq_and, or_assoc,
      hselected, Describes, Option.some.injEq, exists_eq_left']

omit [CaseMap] in
theorem artifactReasons_subset (registry : DerivEvidenceRegistry) (id hash : String) :
    artifactReasons registry id hash ⊆ {.contentIdentityMismatch, .artifactRejected, .artifactUnreviewed} := by
  unfold artifactReasons
  split
  · simp
  · split <;> intro r hr <;> simp [mem_flag] at hr ⊢ <;> tauto

/-! ### The review -/

structure DerivEvidenceDecisionValidation where
  valid : Bool
  observedReasons : Finset DerivEvidenceReviewReason

def validateDerivEvidenceReview (d : DecisionFields) (registry : DerivEvidenceRegistry) :
    DerivEvidenceDecisionValidation where
  valid := evidenceReviewValid d registry
  observedReasons :=
    if evidenceReviewReasons d registry = ∅ then {.evidenceSetComplete} else evidenceReviewReasons d registry

def DecisionFields.reordered (d : DecisionFields) (pairs : List (String × String)) (claimIds : List String) :
    DecisionFields :=
  { d with artifactIds := pairs.map Prod.fst, artifactContentHashes := pairs.map Prod.snd, claimIds := claimIds }

/-- **The order does not matter, and nothing is hidden.** -/
structure ReviewSettled (registry : DerivEvidenceRegistry) (d : DerivEvidenceReviewDecision) : Prop where
  order : ∀ pairs claimIds, pairs.Perm (d.artifactIds.zip d.artifactContentHashes) → claimIds.Perm d.claimIds →
    validateDerivEvidenceReview (d.reordered pairs claimIds) registry =
      validateDerivEvidenceReview d.toDecisionFields registry
  hidden : d.state = .approvedForProofReview → (validateDerivEvidenceReview d.toDecisionFields registry).valid = true →
    ∀ claim, Listed (foundArtifacts registry d.artifactIds) claim → claim.claimId ∈ d.claimIds →
      claim.reviewState = .reviewed ∧ claim.applicability = d.applicability

/-- **The claims of one id agree** in what the review looks at. -/
structure ClaimsConsistent (artifacts : List DerivEvidenceArtifact) : Prop where
  review : ∀ x y, Listed artifacts x → Listed artifacts y → x.claimId = y.claimId → blank x.claimId = false →
    x.reviewState = y.reviewState ∧ x.applicability = y.applicability
  describes : ∀ x y, Listed artifacts x → Listed artifacts y → x.claimId = y.claimId → blank x.claimId = false →
    ∀ s, Describes x s ↔ Describes y s
  contradicts : ∀ x y z w, Together artifacts x z → Together artifacts y w → x.claimId = y.claimId →
    z.claimId = w.claimId → x.claimId ≠ z.claimId → blank x.claimId = false → blank z.claimId = false →
    (Contradicts x z ↔ Contradicts y w)

structure SameEvidence (registry : DerivEvidenceRegistry) (d d' : DecisionFields) : Prop where
  pairs : ∀ e, e ∈ d.artifactIds.zip d.artifactContentHashes ↔ e ∈ d'.artifactIds.zip d'.artifactContentHashes
  none : d.artifactIds = [] ↔ d'.artifactIds = []
  found : ∀ a, a ∈ foundArtifacts registry d.artifactIds ↔ a ∈ foundArtifacts registry d'.artifactIds
  claimIds : ∀ id, id ∈ d.claimIds ↔ id ∈ d'.claimIds
  applicability : d.applicability = d'.applicability
  semantics : d.financialSemantics = d'.financialSemantics

namespace SameEvidence

variable {registry : DerivEvidenceRegistry} {d d' : DecisionFields}

theorem symm (h : SameEvidence registry d d') : SameEvidence registry d' d :=
  ⟨fun e => (h.pairs e).symm, h.none.symm, fun a => (h.found a).symm, fun id => (h.claimIds id).symm,
    h.applicability.symm, h.semantics.symm⟩

theorem listed (h : SameEvidence registry d d') {claim : DerivEvidenceClaim} :
    Listed (foundArtifacts registry d.artifactIds) claim ↔ Listed (foundArtifacts registry d'.artifactIds) claim :=
  exists_congr fun a => and_congr_left' (h.found a)

theorem together (h : SameEvidence registry d d') {x z : DerivEvidenceClaim}
    (hxz : Together (foundArtifacts registry d.artifactIds) x z) :
    Together (foundArtifacts registry d'.artifactIds) x z := by
  obtain ⟨a, ha, b, hb, hrest⟩ := hxz
  exact ⟨a, (h.found a).1 ha, b, (h.found b).1 hb, hrest⟩

theorem consistent (h : SameEvidence registry d d')
    (hconsistent : ClaimsConsistent (foundArtifacts registry d.artifactIds)) :
    ClaimsConsistent (foundArtifacts registry d'.artifactIds) where
  review := fun x y hx hy => hconsistent.review x y (h.listed.2 hx) (h.listed.2 hy)
  describes := fun x y hx hy => hconsistent.describes x y (h.listed.2 hx) (h.listed.2 hy)
  contradicts := fun x y z w hxz hyw => hconsistent.contradicts x y z w (h.symm.together hxz) (h.symm.together hyw)

theorem counterpart (h : SameEvidence registry d d') {id : String} {x : DerivEvidenceClaim}
    (hx : lastClaim (foundArtifacts registry d.artifactIds) id = some x) :
    ∃ y, lastClaim (foundArtifacts registry d'.artifactIds) id = some y := by
  rw [← Option.ne_none_iff_exists']
  intro hnone
  obtain ⟨hlisted, hid⟩ := lastClaim_eq_some hx
  exact lastClaim_eq_none.1 hnone x (h.listed.1 hlisted) hid

theorem reasons_subset (h : SameEvidence registry d d')
    (hconsistent : ClaimsConsistent (foundArtifacts registry d.artifactIds))
    (hids : ∀ id ∈ d.claimIds, blank id = false) :
    evidenceReviewReasons d registry ⊆ evidenceReviewReasons d' registry := by
  intro r hr
  rw [mem_evidenceReviewReasons] at hr ⊢
  rcases hr with ⟨hnone, hr⟩ | ⟨e, he, hr⟩ | ⟨hnone, hr⟩ | ⟨id, hid, hr⟩ | ⟨⟨x, z, ⟨i, hi, hx⟩, ⟨j, hj, hz⟩, hxz⟩, hr⟩ |
    ⟨s, hs, hno, hr⟩
  · exact .inl ⟨h.none.1 hnone, hr⟩
  · exact .inr (.inl ⟨e, (h.pairs e).1 he, hr⟩)
  · refine .inr (.inr (.inl ⟨?_, hr⟩))
    rw [eq_nil_iff_forall_not_mem] at hnone ⊢
    exact fun id hid => hnone id ((h.claimIds id).2 hid)
  · refine .inr (.inr (.inr (.inl ⟨id, (h.claimIds id).1 hid, ?_⟩)))
    unfold claimReasons at hr ⊢
    rw [lookup_claimsById_eq] at hr ⊢
    cases hx : lastClaim (foundArtifacts registry d.artifactIds) id with
    | none =>
      have hy : lastClaim (foundArtifacts registry d'.artifactIds) id = .none := by
        rw [Option.eq_none_iff_forall_ne_some]
        intro y hy
        obtain ⟨x, hsome⟩ := h.symm.counterpart hy
        rw [hx] at hsome
        cases hsome
      rw [hx] at hr
      rw [hy]
      exact hr
    | some x =>
      obtain ⟨y, hy⟩ := h.counterpart hx
      obtain ⟨hlisted, hxid⟩ := lastClaim_eq_some hx
      obtain ⟨hlisted', hyid⟩ := lastClaim_eq_some hy
      obtain ⟨hstate, happ⟩ := hconsistent.review x y hlisted (h.listed.2 hlisted') (hxid.trans hyid.symm)
        (hxid ▸ hids id hid)
      rw [hx] at hr
      rw [hy]
      simpa only [← hstate, ← happ, ← h.applicability] using hr
  · obtain ⟨y, hy⟩ := h.counterpart hx
    obtain ⟨w, hw⟩ := h.counterpart hz
    have hxid := (lastClaim_eq_some hx).2
    have hzid := (lastClaim_eq_some hz).2
    have hyid := (lastClaim_eq_some hy).2
    have hwid := (lastClaim_eq_some hw).2
    have hne : x.claimId ≠ z.claimId := by
      intro hsame
      rw [hxid, hzid] at hsame
      subst hsame
      rw [hx] at hz
      cases hz
      exact hxz.2 rfl
    refine .inr (.inr (.inr (.inr (.inl ⟨⟨y, w, ⟨i, (h.claimIds i).1 hi, hy⟩, ⟨j, (h.claimIds j).1 hj, hw⟩, ?_⟩, hr⟩))))
    exact (hconsistent.contradicts x y z w (lastClaim_together hx hz) (h.symm.together (lastClaim_together hy hw))
      (hxid.trans hyid.symm) (hzid.trans hwid.symm) hne (hxid ▸ hids i hi) (hzid ▸ hids j hj)).1 hxz
  · refine .inr (.inr (.inr (.inr (.inr ⟨s, h.semantics ▸ hs, ?_, hr⟩))))
    rintro ⟨y, ⟨id, hid, hy⟩, hdescribes⟩
    have hid := (h.claimIds id).2 hid
    obtain ⟨x, hx⟩ := h.symm.counterpart hy
    obtain ⟨hlisted, hxid⟩ := lastClaim_eq_some hx
    obtain ⟨hlisted', hyid⟩ := lastClaim_eq_some hy
    exact hno ⟨x, ⟨id, hid, hx⟩, (hconsistent.describes x y hlisted (h.listed.2 hlisted') (hxid.trans hyid.symm)
      (hxid ▸ hids id hid) s).2 hdescribes⟩

end SameEvidence

theorem zip_reordered (d : DecisionFields) (pairs : List (String × String)) (claimIds : List String) :
    (d.reordered pairs claimIds).artifactIds.zip (d.reordered pairs claimIds).artifactContentHashes = pairs :=
  (zip_of_prod rfl rfl).symm

theorem sameEvidence_reordered (hlength : d.artifactIds.length = d.artifactContentHashes.length)
    (hpairs : pairs.Perm (d.artifactIds.zip d.artifactContentHashes)) (hclaims : claimIds.Perm d.claimIds) :
    SameEvidence registry (d.reordered pairs claimIds) d := by
  have hids : (d.artifactIds.zip d.artifactContentHashes).map Prod.fst = d.artifactIds :=
    map_fst_zip hlength.le
  have hperm : (d.reordered pairs claimIds).artifactIds.Perm d.artifactIds := by
    have h := hpairs.map Prod.fst
    rwa [hids] at h
  refine ⟨fun e => ?_, ?_, fun a => ?_, fun id => hclaims.mem_iff, rfl, rfl⟩
  · rw [zip_reordered]
    exact hpairs.mem_iff
  · rw [← length_eq_zero_iff, ← length_eq_zero_iff, hperm.length_eq]
  · exact (hperm.filterMap registry.getById).mem_iff

theorem validate_congr {d' : DecisionFields}
    (hreasons : evidenceReviewReasons d registry = evidenceReviewReasons d' registry) (hstate : d.state = d'.state)
    (hcodes : d.reasonCodes = d'.reasonCodes) :
    validateDerivEvidenceReview d registry = validateDerivEvidenceReview d' registry := by
  unfold validateDerivEvidenceReview evidenceReviewValid
  rw [hreasons, hstate, hcodes]

theorem reasons_of_validate {d' : DecisionFields}
    (h : validateDerivEvidenceReview d registry = validateDerivEvidenceReview d' registry) :
    evidenceReviewReasons d registry = evidenceReviewReasons d' registry := by
  have hobserved := congrArg DerivEvidenceDecisionValidation.observedReasons h
  unfold validateDerivEvidenceReview at hobserved
  dsimp only at hobserved
  have hd := complete_not_mem_evidence d registry
  have hd' := complete_not_mem_evidence d' registry
  split at hobserved
  · next hnone =>
    split at hobserved
    · next hnone' => rw [hnone, hnone']
    · rw [← hobserved] at hd'
      exact absurd (Finset.mem_singleton_self _) hd'
  · split at hobserved
    · rw [hobserved] at hd
      exact absurd (Finset.mem_singleton_self _) hd
    · exact hobserved

theorem DerivEvidenceReviewDecision.texts (d : DerivEvidenceReviewDecision) :
    evidenceTexts d.artifactIds d.artifactContentHashes d.claimIds = true := by
  have hok := d.ok
  unfold DecisionFields.postInit at hok
  simp only [Bool.and_eq_true] at hok
  exact hok.1.1.2

theorem DerivEvidenceReviewDecision.length_eq (d : DerivEvidenceReviewDecision) :
    d.artifactIds.length = d.artifactContentHashes.length := by
  have h := d.texts
  unfold evidenceTexts at h
  simp only [Bool.and_eq_true, beq_iff_eq] at h
  exact h.1.1.2

theorem DerivEvidenceReviewDecision.claimIds_nonblank (d : DerivEvidenceReviewDecision) :
    ∀ id ∈ d.claimIds, blank id = false := by
  have h := d.texts
  unfold evidenceTexts at h
  simp only [Bool.and_eq_true, all_eq_true, Bool.not_eq_true'] at h
  exact h.1.2

theorem reviewSettled_of_consistent (d : DerivEvidenceReviewDecision)
    (hconsistent : ClaimsConsistent (foundArtifacts registry d.artifactIds)) : ReviewSettled registry d where
  order := by
    intro pairs claimIds hpairs hclaims
    have hsame : SameEvidence registry d.toDecisionFields (d.reordered pairs claimIds) :=
      (sameEvidence_reordered d.length_eq hpairs hclaims).symm
    refine validate_congr (Finset.Subset.antisymm ?_ ?_) rfl rfl
    · exact hsame.symm.reasons_subset (hsame.consistent hconsistent)
        fun id hid => d.claimIds_nonblank id (hclaims.mem_iff.1 hid)
    · exact hsame.reasons_subset hconsistent d.claimIds_nonblank
  hidden := by
    intro happroved hvalid claim hlisted hselected
    have hempty : evidenceReviewReasons d.toDecisionFields registry = ∅ := evidenceReview_approved d registry hvalid happroved
    have hnone : claimReasons (claimsById (foundArtifacts registry d.artifactIds)) d.applicability claim.claimId = ∅ := by
      rw [Finset.eq_empty_iff_forall_notMem] at hempty ⊢
      intro r hr
      exact hempty r (mem_evidenceReviewReasons.2 (.inr (.inr (.inr (.inl ⟨claim.claimId, hselected, hr⟩)))))
    obtain ⟨kept, hkept, hstate, happ⟩ := claimReasons_eq_empty hnone
    rw [lookup_claimsById_eq] at hkept
    obtain ⟨hkeptListed, hid⟩ := lastClaim_eq_some hkept
    obtain ⟨hsameState, hsameApp⟩ := hconsistent.review claim kept hlisted hkeptListed hid.symm
      (d.claimIds_nonblank _ hselected)
    exact ⟨hsameState.trans hstate, hsameApp.trans happ⟩

/-! ### The other direction -/

structure ArtifactListing where
  artifactIds : List String
  artifactContentHashes : List String
  ok : evidenceTexts artifactIds artifactContentHashes [] = true

def probe (l : ArtifactListing) (claimIds : List String) (applicability : DerivEvidenceApplicability)
    (semantics : Option DerivFinancialSemanticsSpecification) : DecisionFields where
  decisionId := "decision"
  artifactIds := l.artifactIds
  artifactContentHashes := l.artifactContentHashes
  claimIds := claimIds
  state := .insufficient
  reasonCodes := {.missingRequiredClaim}
  applicability := applicability
  financialSemantics := semantics

theorem probe_ok {applicability : DerivEvidenceApplicability} {semantics : Option DerivFinancialSemanticsSpecification}
    (hids : ∀ id ∈ claimIds, blank id = false) (hnodup : claimIds.Nodup)
    (hsemantics : ∀ s ∈ semantics, s.applicability = applicability) :
    (probe l claimIds applicability semantics).postInit = true := by
  have hl := l.ok
  unfold evidenceTexts at hl
  have htexts : evidenceTexts l.artifactIds l.artifactContentHashes claimIds = true := by
    unfold evidenceTexts
    simp only [Bool.and_eq_true] at hl ⊢
    exact ⟨⟨hl.1.1, all_eq_true.2 fun id hid => by simp [hids id hid]⟩, decide_eq_true hnodup⟩
  have hscope : (semantics.all fun s => s.applicability == applicability) = true := by
    cases semantics with
    | none => rfl
    | some s => simpa using hsemantics s rfl
  unfold DecisionFields.postInit probe
  dsimp only
  rw [htexts, hscope, if_neg (by decide)]
  rfl

theorem reasons_reordered (hsettled : ∀ d : DerivEvidenceReviewDecision, d.artifactIds = l.artifactIds →
      d.artifactContentHashes = l.artifactContentHashes → ReviewSettled registry d)
    {applicability : DerivEvidenceApplicability} {semantics : Option DerivFinancialSemanticsSpecification}
    (hok : (probe l claimIds applicability semantics).postInit = true) {pairs' : List (String × String)}
    (hpairs : pairs.Perm (l.artifactIds.zip l.artifactContentHashes))
    (hpairs' : pairs'.Perm (l.artifactIds.zip l.artifactContentHashes)) :
    evidenceReviewReasons ((probe l claimIds applicability semantics).reordered pairs claimIds) registry =
      evidenceReviewReasons ((probe l claimIds applicability semantics).reordered pairs' claimIds) registry := by
  have horder := (hsettled ⟨probe l claimIds applicability semantics, hok⟩ rfl rfl).order
  exact reasons_of_validate ((horder pairs claimIds hpairs (.refl _)).trans (horder pairs' claimIds hpairs' (.refl _)).symm)

theorem mem_reasons_of_claim (hids : d.claimIds = [x.claimId])
    (hx : lastClaim (foundArtifacts registry d.artifactIds) x.claimId = some x) :
    (.claimRejected ∈ evidenceReviewReasons d registry ↔ x.reviewState = .rejected) ∧
      (.claimUnreviewed ∈ evidenceReviewReasons d registry ↔ x.reviewState = .unreviewed) ∧
      (.applicabilityMismatch ∈ evidenceReviewReasons d registry ↔ x.applicability ≠ d.applicability) := by
  have hclaim : claimReasons (claimsById (foundArtifacts registry d.artifactIds)) d.applicability x.claimId =
      (if x.reviewState = .rejected then {.claimRejected} else flag (x.reviewState ≠ .reviewed) .claimUnreviewed) ∪
        flag (x.applicability ≠ d.applicability) .applicabilityMismatch := by
    unfold claimReasons
    rw [lookup_claimsById_eq, hx]
  have hmem : ∀ r ∈ ({.claimRejected, .claimUnreviewed, .applicabilityMismatch} : Finset DerivEvidenceReviewReason),
      (r ∈ evidenceReviewReasons d registry ↔
        r ∈ claimReasons (claimsById (foundArtifacts registry d.artifactIds)) d.applicability x.claimId) := by
    intro r hr
    have hother : ∀ r ∈ ({.claimRejected, .claimUnreviewed, .applicabilityMismatch} : Finset DerivEvidenceReviewReason),
        r ∉ ({.contentIdentityMismatch, .artifactRejected, .artifactUnreviewed} : Finset DerivEvidenceReviewReason) ∧
          r ≠ .missingRequiredClaim ∧ r ≠ .duplicateOrConflictingClaim := by decide
    obtain ⟨hartifact, hmissing, hduplicate⟩ := hother r hr
    have hartifact : ∀ e : String × String, r ∉ artifactReasons registry e.1 e.2 :=
      fun e he => hartifact (artifactReasons_subset registry e.1 e.2 he)
    simp only [mem_evidenceReviewReasons, hids, mem_singleton, exists_eq_left, hartifact, hmissing, hduplicate,
      and_false, false_or, or_false, exists_false]
  rw [hmem _ (by decide), hmem _ (by decide), hmem _ (by decide), hclaim]
  refine ⟨?_, ?_, ?_⟩ <;> cases hstate : x.reviewState <;> simp [mem_flag]

theorem missing_mem_reasons {s : DerivFinancialSemanticsSpecification} (hids : d.claimIds = [x.claimId])
    (hartifacts : d.artifactIds ≠ []) (hs : d.financialSemantics = some s)
    (hx : lastClaim (foundArtifacts registry d.artifactIds) x.claimId = some x) :
    .missingRequiredClaim ∈ evidenceReviewReasons d registry ↔ ¬Describes x s := by
  have hartifact : ∀ e : String × String, .missingRequiredClaim ∉ artifactReasons registry e.1 e.2 :=
    fun e he => absurd (artifactReasons_subset registry e.1 e.2 he) (by decide)
  have hclaim : .missingRequiredClaim ∉
      claimReasons (claimsById (foundArtifacts registry d.artifactIds)) d.applicability x.claimId := by
    unfold claimReasons
    rw [lookup_claimsById_eq, hx]
    dsimp only
    split <;> simp [mem_flag]
  simp only [mem_evidenceReviewReasons, hids, hartifacts, hs, mem_singleton, exists_eq_left, hclaim, hartifact,
    reduceCtorEq, and_false, false_or, exists_false, Selected, hx, Option.some.injEq, cons_ne_nil,
    and_true, exists_eq_left']

theorem duplicate_mem_reasons (hids : d.claimIds = [x.claimId, z.claimId])
    (hx : lastClaim (foundArtifacts registry d.artifactIds) x.claimId = some x)
    (hz : lastClaim (foundArtifacts registry d.artifactIds) z.claimId = some z) :
    .duplicateOrConflictingClaim ∈ evidenceReviewReasons d registry ↔ Contradicts x z := by
  have hartifact : ∀ e : String × String, .duplicateOrConflictingClaim ∉ artifactReasons registry e.1 e.2 :=
    fun e he => absurd (artifactReasons_subset registry e.1 e.2 he) (by decide)
  have hclaim : ∀ id, .duplicateOrConflictingClaim ∉
      claimReasons (claimsById (foundArtifacts registry d.artifactIds)) d.applicability id := by
    intro id
    unfold claimReasons
    split
    · simp
    · split <;> simp [mem_flag]
  have hselected : ∀ y, Selected (foundArtifacts registry d.artifactIds) d.claimIds y ↔ y = x ∨ y = z := by
    intro y
    unfold Selected
    rw [hids]
    simp only [mem_cons, not_mem_nil, or_false, exists_eq_or_imp, exists_eq_left, hx, hz, Option.some.injEq]
    exact or_congr eq_comm eq_comm
  simp only [mem_evidenceReviewReasons, hartifact, hclaim, hselected, reduceCtorEq, and_false, false_or, exists_false,
    or_false, and_true]
  constructor
  · rintro ⟨y, w, rfl | rfl, rfl | rfl, h⟩
    · exact absurd rfl h.2
    · exact h
    · exact h.symm
    · exact absurd rfl h.2
  · exact fun h => ⟨x, z, .inl rfl, .inr rfl, h⟩

omit [CaseMap] in
theorem ne_nil_of_lastClaim {artifactIds : List String} {id : String}
    (h : lastClaim (foundArtifacts registry artifactIds) id = some x) : artifactIds ≠ [] := by
  rintro rfl
  cases h

/-- **Where every review of a listing is settled its claims are consistent.** -/
theorem consistent_of_settled (hsettled : ∀ d : DerivEvidenceReviewDecision, d.artifactIds = l.artifactIds →
      d.artifactContentHashes = l.artifactContentHashes → ReviewSettled registry d) :
    ClaimsConsistent (foundArtifacts registry l.artifactIds) := by
  have hlength : l.artifactIds.length = l.artifactContentHashes.length := by
    have h := l.ok
    unfold evidenceTexts at h
    simp only [Bool.and_eq_true, beq_iff_eq] at h
    exact h.1.1.2
  have hzip : (l.artifactIds.zip l.artifactContentHashes).map Prod.fst = l.artifactIds := map_fst_zip hlength.le
  have hshown : ∀ x z, Together (foundArtifacts registry l.artifactIds) x z →
      ∃ pairs : List (String × String), pairs.Perm (l.artifactIds.zip l.artifactContentHashes) ∧
        lastClaim (foundArtifacts registry (pairs.map Prod.fst)) x.claimId = some x ∧
        lastClaim (foundArtifacts registry (pairs.map Prod.fst)) z.claimId = some z :=
    fun x z h => exists_shown (by rwa [hzip])
  have hlisted : ∀ x, Listed (foundArtifacts registry l.artifactIds) x →
      Together (foundArtifacts registry l.artifactIds) x x :=
    fun x ⟨a, ha, hx⟩ => ⟨a, ha, a, ha, hx, hx, .inl rfl⟩
  refine ⟨?_, ?_, ?_⟩
  · intro x y hx hy hid hblank
    obtain ⟨pairs, hperm, hshownx, -⟩ := hshown x x (hlisted x hx)
    obtain ⟨pairs', hperm', hshowny, -⟩ := hshown y y (hlisted y hy)
    have hok : (probe l [x.claimId] x.applicability none).postInit = true :=
      probe_ok (by simpa using hblank) (nodup_singleton _) (by simp)
    have hreasons := reasons_reordered hsettled hok hperm hperm'
    obtain ⟨hrejected, hunreviewed, happ⟩ := mem_reasons_of_claim
      (d := (probe l [x.claimId] x.applicability none).reordered pairs [x.claimId]) rfl hshownx
    obtain ⟨hrejected', hunreviewed', happ'⟩ := mem_reasons_of_claim
      (d := (probe l [x.claimId] x.applicability none).reordered pairs' [x.claimId]) (x := y) (by rw [← hid]; rfl) hshowny
    rw [hreasons] at hrejected hunreviewed happ
    have hsameRejected := hrejected.symm.trans hrejected'
    have hsameUnreviewed := hunreviewed.symm.trans hunreviewed'
    have hsameApp := happ.symm.trans happ'
    constructor
    · cases hstate : x.reviewState <;> cases hstate' : y.reviewState <;> simp_all
    · exact (not_ne_iff.1 (hsameApp.not.1 (not_not_intro rfl))).symm
  · intro x y hx hy hid hblank s
    obtain ⟨pairs, hperm, hshownx, -⟩ := hshown x x (hlisted x hx)
    obtain ⟨pairs', hperm', hshowny, -⟩ := hshown y y (hlisted y hy)
    have hok : (probe l [x.claimId] s.applicability (some s)).postInit = true :=
      probe_ok (by simpa using hblank) (nodup_singleton _) (by simp)
    have hmissing := missing_mem_reasons
      (d := (probe l [x.claimId] s.applicability (some s)).reordered pairs [x.claimId]) rfl
      (ne_nil_of_lastClaim hshownx) rfl hshownx
    have hmissing' := missing_mem_reasons
      (d := (probe l [x.claimId] s.applicability (some s)).reordered pairs' [x.claimId]) (x := y) (by rw [← hid]; rfl)
      (ne_nil_of_lastClaim hshowny) rfl hshowny
    rw [reasons_reordered hsettled hok hperm hperm'] at hmissing
    exact not_iff_not.1 (hmissing.symm.trans hmissing')
  · intro x y z w hxz hyw hxy hzw hne hblankx hblankz
    obtain ⟨pairs, hperm, hshownx, hshownz⟩ := hshown x z hxz
    obtain ⟨pairs', hperm', hshowny, hshownw⟩ := hshown y w hyw
    have hok : (probe l [x.claimId, z.claimId] x.applicability none).postInit = true := by
      refine probe_ok ?_ (by simpa using hne) (by simp)
      intro id hid
      rcases mem_pair.1 hid with rfl | rfl
      · exact hblankx
      · exact hblankz
    have hduplicate := duplicate_mem_reasons
      (d := (probe l [x.claimId, z.claimId] x.applicability none).reordered pairs [x.claimId, z.claimId]) rfl
      hshownx hshownz
    have hduplicate' := duplicate_mem_reasons
      (d := (probe l [x.claimId, z.claimId] x.applicability none).reordered pairs' [x.claimId, z.claimId])
      (x := y) (z := w) (by rw [← hxy, ← hzw]; rfl) hshowny hshownw
    rw [reasons_reordered hsettled hok hperm hperm'] at hduplicate
    exact hduplicate.symm.trans hduplicate'

/-- **The reviews of a listing do not depend on its order and hide nothing exactly where the claims of one id agree.** -/
theorem reviewSettled_iff (registry : DerivEvidenceRegistry) (l : ArtifactListing) :
    (∀ d : DerivEvidenceReviewDecision, d.artifactIds = l.artifactIds →
      d.artifactContentHashes = l.artifactContentHashes → ReviewSettled registry d) ↔
      ClaimsConsistent (foundArtifacts registry l.artifactIds) := by
  constructor
  · exact consistent_of_settled
  · intro hconsistent d hids _
    exact reviewSettled_of_consistent d (hids ▸ hconsistent)

end

/-! ### A rejected claim under a reviewed one -/

section

local instance reviewCase : CaseMap := asciiCase

def rejectedClaim : DerivEvidenceClaim :=
  ⟨"claim", "first", .stopLossSemantics, "stop", "amount", multiplierScope, .rejected⟩

def reviewedClaim : DerivEvidenceClaim :=
  ⟨"claim", "second", .stopLossSemantics, "stop", "amount", multiplierScope, .reviewed⟩

def firstArtifact : DerivEvidenceArtifact :=
  ⟨"first", zeroHash, [rejectedClaim], .reviewed, by decide +kernel, zeroHash_sha256, by simp, by simp [rejectedClaim]⟩

def hidingRegistry : DerivEvidenceRegistry where
  artifacts := [firstArtifact,
    ⟨"second", verifiedHash, [reviewedClaim], .reviewed, by decide +kernel, by decide +kernel, by simp,
      by simp [reviewedClaim]⟩]
  artifactIds := by decide +kernel
  contentHashes := by decide +kernel

def hidingDecision : DerivEvidenceReviewDecision where
  decisionId := "decision"
  artifactIds := ["first", "second"]
  artifactContentHashes := [zeroHash, verifiedHash]
  claimIds := ["claim"]
  state := .approvedForProofReview
  reasonCodes := {.evidenceSetComplete}
  applicability := multiplierScope
  financialSemantics := none
  ok := by decide +kernel

/-- **A valid approval with a rejected claim among its selected ones**, that the other order of its artifacts refuses. -/
theorem rejected_claim_hidden : ∃ (registry : DerivEvidenceRegistry) (d : DerivEvidenceReviewDecision)
    (claim : DerivEvidenceClaim) (pairs : List (String × String)),
    d.state = .approvedForProofReview ∧ (validateDerivEvidenceReview d.toDecisionFields registry).valid = true ∧
      Listed (foundArtifacts registry d.artifactIds) claim ∧ claim.claimId ∈ d.claimIds ∧
      claim.reviewState = .rejected ∧ pairs.Perm (d.artifactIds.zip d.artifactContentHashes) ∧
      (validateDerivEvidenceReview (d.reordered pairs d.claimIds) registry).valid = false ∧
      (validateDerivEvidenceReview (d.reordered pairs d.claimIds) registry).observedReasons = {.claimRejected} := by
  have hfound : firstArtifact ∈ foundArtifacts hidingRegistry hidingDecision.artifactIds :=
    List.mem_filterMap.2 ⟨"first", List.mem_cons_self, rfl⟩
  exact ⟨hidingRegistry, hidingDecision, rejectedClaim, [("second", verifiedHash), ("first", zeroHash)], rfl,
    by decide +kernel, ⟨firstArtifact, hfound, List.mem_singleton_self _⟩, List.mem_singleton_self _, rfl, .swap _ _ _,
    by decide +kernel, by decide +kernel⟩

end

end DerivAdmission
end Jqe
