import Mathlib.Data.List.Nodup
import Jqe.DerivTerms
import Jqe.DerivProofKept
/-!
# DerivTermsSound — terms need live and unrevoked authority

What the three validators leave of an evaluation that gives terms, and what a stored revocation takes away for good: a
`persist` keeps the entries and the revocations it loads, whatever it adds.
-/
namespace Jqe

open Coro Prog List

section

variable {S : Type} [DerivTermsSemantics S]

/-- **What the terms of a request rest on.** -/
structure TermsAuthorized (durable : DerivDurableProofState S) (request : DerivExecutionTermsServiceRequest)
    (terms : DerivExecutionTerms) (entry : DerivProofRegistryEntry S) : Prop where
  only : durable.registry.entries.filter (fun e => e.applicability == request.applicability) = [entry]
  effective : entry.validFrom ≤ request.evaluatedAt
  unexpired : request.evaluatedAt ≤ entry.validUntil
  unrevoked : ∀ r ∈ durable.revocations, r.targets entry = false
  proposed : ∃ semantics propositions maximumLoss, entry.financialSemantics = some semantics ∧
    DerivSemantics.materialHash semantics = entry.candidateMaterialHash ∧ request.propositions = some propositions ∧
    propositions.multiplier ∈ DerivTermsSemantics.allowedMultiplierValues semantics ∧
    propositions.maximumLoss = some maximumLoss ∧ maximumLoss ≤ request.authorizedRiskAmount ∧
    terms = termsOf entry propositions maximumLoss request.accountScope

theorem TermsAuthorized.mem {durable : DerivDurableProofState S} {request : DerivExecutionTermsServiceRequest}
    {terms : DerivExecutionTerms} {entry : DerivProofRegistryEntry S} (h : TermsAuthorized durable request terms entry) :
    entry ∈ durable.registry.entries ∧ entry.applicability = request.applicability := by
  have hmem : entry ∈ durable.registry.entries.filter (fun e => e.applicability == request.applicability) := by
    rw [h.only]
    exact mem_singleton_self entry
  simpa using hmem

theorem lookup_active {registry : DerivProofRegistryState S} {applicability : DerivEvidenceApplicability}
    {revocations : List DerivProofGovernanceRevocation} {entry : DerivProofRegistryEntry S}
    (h : lookupDerivProofRegistry registry applicability revocations = .activeEntryFound entry) :
    registry.entries.filter (fun e => e.applicability == applicability) = [entry] ∧
      ∀ r ∈ revocations, r.targets entry = false := by
  unfold lookupDerivProofRegistry at h
  split at h
  · cases h
  · split at h
    · cases h
    · next heq =>
      split at h
      · cases h
      · next hany =>
        cases h
        refine ⟨heq, fun r hr => ?_⟩
        simp only [List.any_eq_true, not_exists, not_and, Bool.not_eq_true] at hany
        exact hany r hr
    · cases h

theorem termsSupported_multiplier {semantics : S} {p : DerivSyntheticFinancialPropositions}
    (h : termsSupported semantics p = true) :
    p.multiplier ∈ DerivTermsSemantics.allowedMultiplierValues semantics := by
  unfold termsSupported at h
  rw [Bool.and_eq_true] at h
  exact contains_iff_mem.1 h.2

variable [DecidableEq S]

theorem unavailableReasons_window {request : DerivProofConsumptionRequest S} {e : DerivProofRegistryEntry S}
    (h : (unavailableReasons request e).isEmpty = true) :
    e.validFrom ≤ request.evaluatedAt ∧ request.evaluatedAt ≤ e.validUntil := by
  unfold unavailableReasons at h
  simp only [List.isEmpty_iff, append_eq_nil_iff, ite_eq_right_iff, cons_ne_nil, imp_false] at h
  exact ⟨not_lt.1 h.1.2, not_lt.1 h.2⟩

theorem validate_available {registry : DerivProofRegistryState S} {request : DerivProofConsumptionRequest S}
    {revocations : List DerivProofGovernanceRevocation} {entry : DerivProofRegistryEntry S}
    (h : validateAuthoritativeProof registry request revocations = .proofAvailable entry) :
    lookupDerivProofRegistry registry request.applicability revocations = .activeEntryFound entry ∧
      entry.validFrom ≤ request.evaluatedAt ∧ request.evaluatedAt ≤ entry.validUntil := by
  unfold validateAuthoritativeProof at h
  split at h
  · cases h
  · split at h
    · cases h
    · split at h
      · cases h
      · cases h
      · cases h
      · next hlookup =>
        split at h
        · next hreasons =>
          cases h
          exact ⟨hlookup, unavailableReasons_window hreasons⟩
        · cases h

theorem evaluateSyntheticTerms_available {entry : DerivProofRegistryEntry S} {semantics : S}
    {propositions : Option DerivSyntheticFinancialPropositions} {risk : ℚ} {scope : Option String}
    {result : DerivExecutionTermsServiceResult}
    (h : evaluateSyntheticTerms (.proofAvailable entry) semantics propositions risk scope = .ok result)
    (hstate : result.state = .termsAvailable) :
    DerivSemantics.materialHash semantics = entry.candidateMaterialHash ∧
      ∃ p maximumLoss, propositions = some p ∧
        p.multiplier ∈ DerivTermsSemantics.allowedMultiplierValues semantics ∧ p.maximumLoss = some maximumLoss ∧
        maximumLoss ≤ risk ∧ result.terms = some (termsOf entry p maximumLoss scope) := by
  unfold evaluateSyntheticTerms at h
  split at h
  · cases h
  · dsimp only at h
    split at h
    · cases h
      cases hstate
    · next hlineage =>
      rw [not_or, not_not, not_not] at hlineage
      split at h
      · cases h
        cases hstate
      · next p =>
        split at h
        · cases h
          cases hstate
        · next hsupported =>
          split at h
          · cases h
            cases hstate
          · next maximumLoss hloss =>
            split at h
            · cases h
              cases hstate
            · next hrisk =>
              split at h
              · cases h
                refine ⟨hlineage.2, p, maximumLoss, rfl, ?_, hloss, not_lt.1 hrisk, rfl⟩
                exact termsSupported_multiplier (by simpa using hsupported)
              · cases h

theorem evaluateEntry_available {durable : DerivDurableProofState S} {request : DerivExecutionTermsServiceRequest}
    {entry : DerivProofRegistryEntry S} {result : DerivExecutionTermsServiceResult}
    (hfound : lookupDerivProofRegistry durable.registry request.applicability durable.revocations =
        .activeEntryFound entry ∨
      lookupDerivProofRegistry durable.registry request.applicability durable.revocations = .revokedEntry entry)
    (h : evaluateEntry durable request entry = .ok result) (hstate : result.state = .termsAvailable) :
    ∃ terms, result.terms = some terms ∧ TermsAuthorized durable request terms entry := by
  unfold evaluateEntry at h
  dsimp only at h
  split at h
  · cases h
    cases hstate
  · cases h
    cases hstate
  · cases h
    cases hstate
  · next active hproof =>
    obtain ⟨hlookup, heffective, hunexpired⟩ := validate_available hproof
    dsimp only at hlookup heffective hunexpired
    -- the proof is of the entry that the service's own lookup found
    have hsame : active = entry := by
      rcases hfound with hfound | hfound
      · rw [hfound] at hlookup
        cases hlookup
        rfl
      · rw [hfound] at hlookup
        cases hlookup
    subst hsame
    obtain ⟨honly, hunrevoked⟩ := lookup_active hlookup
    rw [hproof] at h
    split at h
    · cases h
      cases hstate
    · next semantics hsemantics =>
      obtain ⟨hhash, p, maximumLoss, hp, hmultiplier, hloss, hrisk, hterms⟩ :=
        evaluateSyntheticTerms_available h hstate
      exact ⟨_, hterms, honly, heffective, hunexpired, hunrevoked, semantics, p, maximumLoss, hsemantics, hhash, hp,
        hmultiplier, hloss, hrisk, rfl⟩

/-- **An evaluation that gives terms.** -/
theorem evaluateTerms_available {loaded : Except PyExc (DerivDurableProofState S)}
    {request : DerivExecutionTermsServiceRequest} {result : DerivExecutionTermsServiceResult}
    (h : evaluateTerms loaded request = .ok result) (hstate : result.state = .termsAvailable) :
    ∃ durable terms entry, loaded = .ok durable ∧ result.terms = some terms ∧
      TermsAuthorized durable request terms entry := by
  unfold evaluateTerms at h
  split at h
  · cases h
    cases hstate
  · next durable =>
    split at h
    · cases h
      cases hstate
    · cases h
      cases hstate
    · next entry hfound =>
      obtain ⟨terms, hterms, hauthorized⟩ := evaluateEntry_available (.inl hfound) h hstate
      exact ⟨durable, terms, entry, rfl, hterms, hauthorized⟩
    · next entry hfound =>
      obtain ⟨terms, hterms, hauthorized⟩ := evaluateEntry_available (.inr hfound) h hstate
      exact ⟨durable, terms, entry, rfl, hterms, hauthorized⟩

variable [PayloadHash S]

/-! ## What a call keeps -/

variable {i : ProofCall S} {w w' : Option (ProofStateRow S)}

omit [DecidableEq S] [PayloadHash S] in
theorem runsTo_raise {e : PyExc} (h : RunsTo (proofSystem S) i (.raise e : ProofProg S) w w') : w' = w := by
  cases h with
  | stop => rfl
  | tick ht => exact ht.elim

omit [DecidableEq S] [PayloadHash S] in
theorem runsTo_ret {state : DerivDurableProofState S} (h : RunsTo (proofSystem S) i (.ret state : ProofProg S) w w') :
    w' = w := by
  cases h with
  | stop => rfl
  | tick ht => exact ht.elim

theorem runsTo_afterLoad {f : DerivDurableProofState S → ProofProg S}
    (h : RunsTo (proofSystem S) i (loadProofState.bind f) w w') :
    w' = w ∨ ∃ current, loadRow w = .ok current ∧ RunsTo (proofSystem S) i (f current) w w' := by
  change RunsTo _ i (.call ProofReq.validateSchema _) w w' at h
  cases h with
  | stop => exact .inl rfl
  | tick ht => exact ht.elim
  | call ans hx h =>
    cases hx with
    | failed _ e => exact .inl (runsTo_raise h)
    | validated =>
      change RunsTo _ i (.call ProofReq.selectState _) w w' at h
      cases h with
      | stop => exact .inl rfl
      | tick ht => exact ht.elim
      | call ans hx h =>
        cases hx with
        | failed _ e => exact .inl (runsTo_raise h)
        | selected =>
          change RunsTo _ i ((Prog.ofExcept (loadRow w)).bind f) w w' at h
          cases hload : loadRow w with
          | error e =>
            rw [hload] at h
            exact .inl (runsTo_raise h)
          | ok current =>
            rw [hload] at h
            exact .inr ⟨current, rfl, h⟩

omit [DecidableEq S] in
theorem runsTo_upsert {payload : DerivProofPayload S} {rebuilt : DerivDurableProofState S}
    (h : RunsTo (proofSystem S) i (upsertProofState payload rebuilt) w w') :
    w' = w ∨ w' = some (proofStateRow payload) := by
  unfold upsertProofState at h
  cases h with
  | stop => exact .inl rfl
  | tick ht => exact ht.elim
  | call ans hx h =>
    cases hx with
    | committed => exact .inr (runsTo_ret h)
    | lost _ e => exact .inr (runsTo_raise h)
    | failed _ e => exact .inl (runsTo_raise h)

omit [DerivTermsSemantics S] [DecidableEq S] [PayloadHash S] in
theorem keepsItems_mem {α : Type} [DecidableEq α] {key : α → String} {current new : List α}
    (h : keepsItems key current new = true) : ∀ value ∈ current, value ∈ new := by
  intro value hvalue
  have hfind := all_eq_true.1 h value hvalue
  exact mem_of_find?_eq_some (by simpa using hfind)

theorem runsTo_persistOver {payload : DerivProofPayload S} {rebuilt current : DerivDurableProofState S}
    (h : RunsTo (proofSystem S) i (persistOver payload rebuilt current) w w') :
    w' = w ∨ w' = some (proofStateRow payload) ∧ rebuilt.Covers current := by
  unfold persistOver at h
  split at h
  · exact .inl (runsTo_raise h)
  · next hentries =>
    split at h
    · exact .inl (runsTo_raise h)
    · next hrevocations =>
      rcases runsTo_upsert h with hsame | hstored
      · exact .inl hsame
      · rw [Bool.not_eq_true, Bool.not_eq_false'] at hentries hrevocations
        exact .inr ⟨hstored, keepsItems_mem hentries, keepsItems_mem hrevocations⟩

theorem Stored.runsTo {state : DerivDurableProofState S} (hstored : Stored w state) {call : ProofCall S}
    (h : RunsTo (proofSystem S) i call.prog w w') : Stored w' state := by
  cases call with
  | load =>
    change RunsTo _ i loadProofState w w' at h
    rw [← loadProofState.bind_ret] at h
    rcases runsTo_afterLoad h with rfl | ⟨current, -, h⟩
    · exact hstored
    · rw [runsTo_ret h]
      exact hstored
  | persist new =>
    change RunsTo _ i (persistProofState new) w w' at h
    unfold persistProofState at h
    split at h
    · rw [runsTo_raise h]
      exact hstored
    · next rebuilt hrebuilt =>
      rcases runsTo_afterLoad h with rfl | ⟨current, hcurrent, h⟩
      · exact hstored
      · rcases runsTo_persistOver h with rfl | ⟨rfl, hcovers⟩
        · exact hstored
        · obtain ⟨stored, hload, hstored⟩ := hstored
          rw [hcurrent] at hload
          cases hload
          exact ⟨rebuilt, loadRow_proofStateRow hrebuilt, hcovers.trans hstored⟩

/-- The files that calls of the store, one after the other, bring a file to: accepted, refused or cut off. -/
abbrev CallsTo (S : Type) [DerivSemantics S] [DecidableEq S] [PayloadHash S] :
    Option (ProofStateRow S) → Option (ProofStateRow S) → Prop :=
  Relation.ReflTransGen fun w w' => ∃ call : ProofCall S, RunsTo (proofSystem S) call call.prog w w'

theorem Stored.callsTo {state : DerivDurableProofState S} (hstored : Stored w state) (h : CallsTo S w w') :
    Stored w' state := by
  induction h with
  | refl => exact hstored
  | tail _ hcall ih =>
    obtain ⟨call, hcall⟩ := hcall
    exact ih.runsTo hcall

/-! ## What an evaluation gives -/

theorem evaluate_ends {request : DerivExecutionTermsServiceRequest}
    {out : Except PyExc DerivExecutionTermsServiceResult} (h : EndsIn (proofSystem S) i (evaluate request) w out w') :
    w' = w ∧ ∃ loaded, (loaded = loadRow w ∨ ∃ e, loaded = .error e) ∧ out = evaluateTerms loaded request := by
  have hjudged : ∀ loaded : Except PyExc (DerivDurableProofState S),
      EndsIn (proofSystem S) i (Prog.ofExcept (evaluateTerms loaded request)) w out w' →
      w' = w ∧ out = evaluateTerms loaded request := by
    intro loaded h
    cases hout : evaluateTerms loaded request with
    | ok result =>
      rw [hout] at h
      cases h with
      | ret => exact ⟨rfl, rfl⟩
      | tick ht => exact ht.elim
    | error e =>
      rw [hout] at h
      cases h with
      | raise => exact ⟨rfl, rfl⟩
      | tick ht => exact ht.elim
  change EndsIn _ i (.call ProofReq.validateSchema _) w out w' at h
  cases h with
  | tick ht => exact ht.elim
  | call ans hx h =>
    cases hx with
    | failed _ e =>
      obtain ⟨hw, hout⟩ := hjudged (.error e) h
      exact ⟨hw, _, .inr ⟨e, rfl⟩, hout⟩
    | validated =>
      change EndsIn _ i (.call ProofReq.selectState _) w out w' at h
      cases h with
      | tick ht => exact ht.elim
      | call ans hx h =>
        cases hx with
        | failed _ e =>
          obtain ⟨hw, hout⟩ := hjudged (.error e) h
          exact ⟨hw, _, .inr ⟨e, rfl⟩, hout⟩
        | selected =>
          change EndsIn _ i ((Prog.ofExcept (loadRow w)).bindAny _) w out w' at h
          have hjudged := hjudged (loadRow w)
          cases hload : loadRow w with
          | error e =>
            rw [hload] at h hjudged
            obtain ⟨hw, hout⟩ := hjudged h
            exact ⟨hw, _, .inl rfl, hout⟩
          | ok state =>
            rw [hload] at h hjudged
            obtain ⟨hw, hout⟩ := hjudged h
            exact ⟨hw, _, .inl rfl, hout⟩

theorem evaluate_available {request : DerivExecutionTermsServiceRequest} {result : DerivExecutionTermsServiceResult}
    (h : EndsIn (proofSystem S) i (evaluate request) w (.ok result) w') (hstate : result.state = .termsAvailable) :
    ∃ durable terms entry, loadRow w = .ok durable ∧ result.terms = some terms ∧
      TermsAuthorized durable request terms entry := by
  obtain ⟨-, loaded, hloaded, hout⟩ := evaluate_ends h
  obtain ⟨durable, terms, entry, rfl, hterms, hauthorized⟩ := evaluateTerms_available hout.symm hstate
  rcases hloaded with hloaded | ⟨e, hloaded⟩
  · exact ⟨durable, terms, entry, hloaded.symm, hterms, hauthorized⟩
  · cases hloaded

/-- **What holds of the terms of the service.** -/
structure TermsSettled (S : Type) [DerivTermsSemantics S] [DecidableEq S] [PayloadHash S] : Prop where
  /-- terms have their authority in the file -/
  authorized : ∀ request i w w' result, EndsIn (proofSystem S) i (evaluate request) w (.ok result) w' →
    result.state = .termsAvailable →
    ∃ durable terms entry, loadRow w = .ok durable ∧ result.terms = some terms ∧
      TermsAuthorized durable request terms entry
  /-- a stored revocation stays, and no terms are of what it targets -/
  revoked : ∀ (w w' : Option (ProofStateRow S)) durable r (e : DerivProofRegistryEntry S), loadRow w = .ok durable →
    r ∈ durable.revocations → r.targets e = true → CallsTo S w w' →
    ∀ request i w'' result, EndsIn (proofSystem S) i (evaluate request) w' (.ok result) w'' →
      result.state = .termsAvailable →
      ∃ later terms entry, loadRow w' = .ok later ∧ result.terms = some terms ∧
        TermsAuthorized later request terms entry ∧ entry ≠ e ∧
        (e ∈ durable.registry.entries → terms.proofId ≠ e.proofId ∧ request.applicability ≠ e.applicability)

/-- **Terms need live, unrevoked authority.** -/
theorem terms_settled (S : Type) [DerivTermsSemantics S] [DecidableEq S] [PayloadHash S] : TermsSettled S where
  authorized := fun request i w w' result h hstate => evaluate_available h hstate
  revoked := by
    intro w w' durable r e hload hr htargets hcalls request i w'' result h hstate
    obtain ⟨later, terms, entry, hlater, hterms, hauthorized⟩ := evaluate_available h hstate
    have hstored : Stored w durable := ⟨durable, hload, fun _ h => h, fun _ h => h⟩
    obtain ⟨stored, hstored, hcovers⟩ := hstored.callsTo hcalls
    rw [hlater] at hstored
    cases hstored
    have hr := hcovers.revocations r hr
    have hne : entry ≠ e := by
      rintro rfl
      rw [hauthorized.unrevoked r hr] at htargets
      cases htargets
    refine ⟨later, terms, entry, hlater, hterms, hauthorized, hne, fun he => ?_⟩
    have he := hcovers.entries e he
    obtain ⟨hmem, happlicability⟩ := hauthorized.mem
    constructor
    · intro hproof
      obtain ⟨_, _, _, _, _, _, _, _, _, rfl⟩ := hauthorized.proposed
      exact hne (List.inj_on_of_nodup_map later.registry.proofIds hmem he hproof)
    · intro hsame
      have hfilter : e ∈ later.registry.entries.filter (fun e => e.applicability == request.applicability) := by
        simp [he, hsame]
      rw [hauthorized.only] at hfilter
      exact hne (List.mem_singleton.1 hfilter).symm

end

end Jqe
