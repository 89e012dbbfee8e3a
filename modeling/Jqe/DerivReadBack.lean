import Jqe.DerivAdmissionSound
import Jqe.DerivPayload
/-!
# DerivReadBack — what a payload of proof state is read back as

Semantics come back with the same values and texts, moments as their UTC times.  An entry comes back where its moments
have UTC times in their order and its semantics hash to what it states; a state is read back item by item.
-/
namespace Jqe
namespace DerivAdmission

open AwareTime DecimalText List
open Json (obj arr asText null asInt str asBool)

/-! ### Values that are read back -/

theorem get_head (key : String) (j : Json) (rest : List (String × Json)) :
    (obj ((key, j) :: rest)).get key = .ok j := by
  simp [Json.get]

theorem get_tail {key key' : String} (j : Json) (rest : List (String × Json)) (h : key ≠ key') :
    (obj ((key', j) :: rest)).get key = (obj rest).get key := by
  have hne : (key == key') = false := by simp [h]
  simp [Json.get, lookup_cons, hne]

theorem asList_map {α β : Type} {read : Json → Except PyExc β} {write : α → Json} (g : α → β) {l : List α}
    (h : ∀ x ∈ l, read (write x) = .ok (g x)) : (arr (l.map write)).asList read = .ok (l.map g) := by
  have hread : (l.map write).mapM read = .ok (l.map g) := by
    rw [mapM_map]
    exact mapM_ok h
  exact hread

theorem asList_texts (values : List String) : (arr (values.map .str)).asList asText = .ok values := by
  have h : (arr (values.map .str)).asList asText = .ok (values.map id) := asList_map id fun x _ => rfl
  rwa [map_id] at h

theorem orNone_text (s : Option String) : (Json.text s).orNone asText = .ok s := by
  cases s with
  | none => rfl
  | some s => rfl

theorem orNone_int (n : Option ℤ) : (n.elim null .int).orNone asInt = .ok n := by
  cases n with
  | none => rfl
  | some n => rfl

def reread (d : Dec) : Dec := d.toEngString.read

theorem parseDecimal_decimal (d : Dec) : parseDecimal (.decimal d.toEngString) = .ok (reread d) := by
  simp [parseDecimal, reread, Dec.toEngString_read]

theorem orNone_decimal (d : Option Dec) : (decimalToData d).orNone parseDecimal = .ok (d.map reread) := by
  cases d with
  | none => rfl
  | some d =>
    show (parseDecimal (.decimal d.toEngString)).map some = _
    rw [parseDecimal_decimal]
    rfl

theorem asMember_unit (unit : DerivFinancialUnit) :
    (str (unitValue unit)).asMember DerivFinancialUnit.members unitValue = .ok unit := by
  cases unit <;> decide

theorem asMember_semantic (semantic : DerivOutputSemantic) :
    (str (outputSemanticValue semantic)).asMember DerivOutputSemantic.members outputSemanticValue =
      .ok semantic := by
  cases semantic <;> decide

theorem asMember_binding (binding : DerivCurrencyBinding) :
    (str (currencyBindingValue binding)).asMember DerivCurrencyBinding.members currencyBindingValue =
      .ok binding := by
  cases binding <;> decide

theorem asMember_role (role : DerivOperandRole) :
    (str role.value).asMember DerivOperandRole.members DerivOperandRole.value = .ok role := by
  cases role <;> decide

theorem asMember_domain (domain : DerivNumericDomain) :
    (str domain.value).asMember DerivNumericDomain.members DerivNumericDomain.value = .ok domain := by
  cases domain <;> decide

theorem asMember_mode (mode : DerivRoundingMode) :
    (str mode.value).asMember DerivRoundingMode.members DerivRoundingMode.value = .ok mode := by
  cases mode <;> decide

theorem asMember_stage (stage : DerivRoundingStage) :
    (str stage.value).asMember DerivRoundingStage.members DerivRoundingStage.value = .ok stage := by
  cases stage <;> decide

/-! ### Semantics that are read back -/

theorem applicability_read (a : DerivEvidenceApplicability) : applicabilityFromData (applicabilityToData a) = .ok a := by
  simp [applicabilityFromData, applicabilityToData, Json.keys, applicabilityKeys, ok_bind, get_head, get_tail, orNone_text,
    asText]

theorem output_read (o : DerivFinancialOutput) : outputFromData (outputToData o) = .ok o := by
  simp [outputFromData, outputToData, Json.keys, ok_bind, get_head, get_tail, orNone_text, asMember_semantic, asMember_unit,
    asMember_binding, asBool]

theorem optionalOutput_read (o : Option DerivFinancialOutput) :
    (optionalOutputToData o).orNone outputFromData = .ok o := by
  cases o with
  | none => rfl
  | some o =>
    show (outputFromData (outputToData o)).map some = _
    rw [output_read]
    rfl

theorem operand_read (o : DerivFinancialOperand Dec) : operandFromData (operandToData o) = .ok (o.map reread) := by
  simp [operandFromData, operandToData, ok_bind, get_head, get_tail, asMember_unit, asMember_role, asMember_domain,
    orNone_decimal, asText, asInt, asBool, DerivFinancialOperand.map]

theorem rounding_read (r : DerivRoundingPolicy) : roundingFromData (roundingToData r) = .ok r := by
  simp [roundingFromData, roundingToData, ok_bind, get_head, get_tail, orNone_int, asMember_mode, asMember_stage, asBool]

theorem semanticsFields_read (s : SemanticsFields Dec) :
    semanticsFieldsFromData (semanticsToData s) = .ok (s.map reread) := by
  have hoperands : (arr (s.operands.map operandToData)).asList operandFromData =
      .ok (s.operands.map fun o => o.map reread) := asList_map _ fun o _ => operand_read o
  have hvalues : (arr (s.allowedMultiplierValues.map fun v => decimalToData (some v))).asList parseDecimal =
      .ok (s.allowedMultiplierValues.map reread) := asList_map _ fun v _ => parseDecimal_decimal v
  have hfamily : (str s.equationFamily.value).asMember [.syntheticLinearProduct] DerivEquationFamily.value =
      .ok s.equationFamily := by
    cases s.equationFamily
    decide
  simp [semanticsFieldsFromData, semanticsToData, ok_bind, get_head, get_tail, hoperands, hvalues, hfamily, asList_texts,
    output_read, rounding_read, applicability_read, optionalOutput_read, orNone_text, asText, asInt,
    SemanticsFields.map]

theorem map_value_reread (s : SemanticsFields Dec) : (s.map reread).map Dec.value = s.map Dec.value := by
  have hoption : ∀ d : Option Dec, (d.map reread).map Dec.value = d.map Dec.value := by
    intro d
    cases d with
    | none => rfl
    | some d => exact congrArg some (Dec.value_read d)
  have hoperand : ∀ o : DerivFinancialOperand Dec, (o.map reread).map Dec.value = o.map Dec.value := by
    intro o
    simp only [DerivFinancialOperand.map, hoption]
  simp only [SemanticsFields.map, map_map, Function.comp_def, hoperand, reread, Dec.value_read]

theorem semanticsToData_reread (s : SemanticsFields Dec) : semanticsToData (s.map reread) = semanticsToData s := by
  have hoption : ∀ d : Option Dec, decimalToData (d.map reread) = decimalToData d := by
    intro d
    cases d with
    | none => rfl
    | some d => exact congrArg Json.decimal (Dec.toEngString_read d)
  have hoperand : ∀ o : DerivFinancialOperand Dec, operandToData (o.map reread) = operandToData o := by
    intro o
    simp only [operandToData, DerivFinancialOperand.map, hoption]
  have hvalue : ∀ d : Dec, decimalToData (some (reread d)) = decimalToData (some d) := fun d => hoption (some d)
  simp only [semanticsToData, SemanticsFields.map, map_map, Function.comp_def, hoperand, hvalue]

section

variable [CaseMap]

def DerivFinancialSemanticsSpecification.reread (s : DerivFinancialSemanticsSpecification) :
    DerivFinancialSemanticsSpecification :=
  ⟨s.toSemanticsFields.map DerivAdmission.reread, by rw [map_value_reread]; exact s.ok⟩

theorem key_reread (s : DerivFinancialSemanticsSpecification) : s.reread.key = s.key :=
  map_value_reread s.toSemanticsFields

theorem materialHash_reread (s : DerivFinancialSemanticsSpecification) : s.reread.materialHash = s.materialHash := by
  show (s.toSemanticsFields.map reread).materialHash = s.toSemanticsFields.materialHash
  unfold SemanticsFields.materialHash
  rw [semanticsToData_reread]

theorem semantics_read (s : DerivFinancialSemanticsSpecification) :
    semanticsFromData (semanticsToData s.toSemanticsFields) = .ok s.reread := by
  unfold semanticsFromData
  rw [semanticsFields_read, ok_bind]
  exact dif_pos s.reread.ok

theorem orNone_semantics (s : Option DerivFinancialSemanticsSpecification) :
    (s.elim null fun s => semanticsToData s.toSemanticsFields).orNone semanticsFromData =
      .ok (s.map (·.reread)) := by
  cases s with
  | none => rfl
  | some s =>
    show (semanticsFromData (semanticsToData s.toSemanticsFields)).map some = _
    rw [semantics_read]
    rfl

/-! ### Moments and entries that are read back -/

variable [TimeZones] {d : AwareDatetime} {e e' : DerivProofRegistryEntry} {r r' : GovernanceRevocation}

omit [CaseMap] in
theorem timestamp_inRange {j : Json} (h : timestamp d = .ok j) : d.InRange := by
  unfold timestamp at h
  split at h
  · rename_i u hu
    exact AwareDatetime.inRange_of_toUtc hu
  · cases h

omit [CaseMap] in
theorem timestamp_ok (h : d.InRange) : timestamp d = .ok (.moment d.instant) := by
  obtain ⟨u, hu⟩ := AwareDatetime.exists_toUtc h
  unfold timestamp
  rw [hu, ← (AwareDatetime.toUtc_some hu).2]

def atUtc (d : AwareDatetime) (h : d.InRange) : AwareDatetime := .ofUtc d.instant h

omit [CaseMap] in
theorem parseTimestamp_moment (h : d.InRange) : parseTimestamp (.moment d.instant) = .ok (atUtc d h) :=
  dif_pos h

omit [CaseMap] in
theorem timestamp_atUtc (h : d.InRange) : timestamp (atUtc d h) = .ok (.moment d.instant) := by
  have hself : (atUtc d h).toUtc = some (atUtc d h) := AwareDatetime.toUtc_ofUtc h
  unfold timestamp
  rw [hself]
  rfl

omit [CaseMap] in
theorem same_atUtc (h : d.InRange) : (atUtc d h).Same d ↔ d.zone = 0 ∨ d.Plain :=
  AwareDatetime.same_utc_iff rfl rfl

def AdmissionFields.InRange (m : AdmissionFields) : Prop :=
  m.admittedAt.InRange ∧ m.validFrom.InRange ∧ m.validUntil.InRange

def AdmissionFields.reread (m : AdmissionFields) (h : m.InRange) : AdmissionFields :=
  { m with
    admittedAt := atUtc m.admittedAt h.1
    validFrom := atUtc m.validFrom h.2.1
    validUntil := atUtc m.validUntil h.2.2
    financialSemantics := m.financialSemantics.map (·.reread) }

theorem entryToData_inRange {m : AdmissionFields} {j : Json} (h : entryToData m = .ok j) : m.InRange := by
  unfold entryToData at h
  obtain ⟨a, ha, h⟩ := bind_ok h
  obtain ⟨b, hb, h⟩ := bind_ok h
  obtain ⟨c, hc, h⟩ := bind_ok h
  exact ⟨timestamp_inRange ha, timestamp_inRange hb, timestamp_inRange hc⟩

theorem entryFields_read (m : AdmissionFields) (h : m.InRange) :
    ∃ j, entryToData m = .ok j ∧ entryFieldsFromData j = .ok (m.reread h) ∧ entryToData (m.reread h) = .ok j := by
  have hsemantics : ((m.financialSemantics.map (·.reread)).elim null fun s => semanticsToData s.toSemanticsFields) =
      m.financialSemantics.elim null fun s => semanticsToData s.toSemanticsFields := by
    cases m.financialSemantics with
    | none => rfl
    | some s => exact semanticsToData_reread s.toSemanticsFields
  unfold entryToData
  rw [timestamp_ok h.1, timestamp_ok h.2.1, timestamp_ok h.2.2]
  refine ⟨_, rfl, ?_, ?_⟩
  · have htexts : ∀ values, (texts values).asList asText = .ok values := asList_texts
    simp [entryFieldsFromData, ok_bind, get_head, get_tail, orNone_semantics, htexts,
      applicability_read, asText, asInt, parseTimestamp_moment h.1, parseTimestamp_moment h.2.1,
      parseTimestamp_moment h.2.2, AdmissionFields.reread]
  · simp only [AdmissionFields.reread, timestamp_atUtc, hsemantics]
    rfl

theorem lineageMatches_reread (m : AdmissionFields) (h : m.InRange) :
    lineageMatches (m.reread h) = lineageMatches m := by
  unfold lineageMatches AdmissionFields.reread
  dsimp only
  cases m.financialSemantics with
  | none => rfl
  | some s => simp only [Option.map_some, Option.all_some, materialHash_reread]

theorem postInit_reread {m : AdmissionFields} (h : m.InRange) (hm : m.postInit = true) :
    (m.reread h).postInit = true ↔ m.validFrom.instant < m.validUntil.instant := by
  have hbefore : (atUtc m.validFrom h.2.1).Before (atUtc m.validUntil h.2.2) ↔
      m.validFrom.instant < m.validUntil.instant := AwareDatetime.before_ofUtc h.2.1 h.2.2
  have hsemantics : (m.financialSemantics.map (·.reread)).all (fun s => s.applicability == m.applicability) =
      m.financialSemantics.all fun s => s.applicability == m.applicability := by
    cases m.financialSemantics with
    | none => rfl
    | some s => rfl
  simp only [AdmissionFields.postInit, ProofLineage.postInit, Bool.and_eq_true, decide_eq_true_eq] at hm ⊢
  simp only [AdmissionFields.reread, hsemantics, hbefore]
  tauto

def EntryRead (e e' : DerivProofRegistryEntry) : Prop :=
  ∃ j, entryToData e.toAdmissionFields = .ok j ∧ entryFromData j = .ok e'

theorem EntryRead.fields (h : EntryRead e e') :
    ∃ hr : e.InRange, e'.toAdmissionFields = e.toAdmissionFields.reread hr ∧
      (e.toAdmissionFields.reread hr).postInit = true ∧ lineageMatches e.toAdmissionFields = true := by
  obtain ⟨j, hwrite, hread⟩ := h
  have hr := entryToData_inRange hwrite
  obtain ⟨j', hwrite', hfields, -⟩ := entryFields_read e.toAdmissionFields hr
  cases hwrite.symm.trans hwrite'
  unfold entryFromData at hread
  rw [hfields, ok_bind] at hread
  obtain ⟨entry, hentry, hread⟩ := bind_ok hread
  unfold registryEntryOf at hentry
  split at hentry
  · rename_i hok
    cases hentry
    split at hread
    · rename_i hmatches
      cases hread
      exact ⟨hr, rfl, hok, (lineageMatches_reread _ hr).symm.trans hmatches⟩
    · cases hread
  · cases hentry

theorem EntryRead.data (h : EntryRead e e') : entryToData e'.toAdmissionFields = entryToData e.toAdmissionFields := by
  obtain ⟨hr, heq, -, -⟩ := h.fields
  obtain ⟨j, hwrite, -, hagain⟩ := entryFields_read e.toAdmissionFields hr
  rw [heq, hwrite, hagain]

theorem exists_entryRead_iff (e : DerivProofRegistryEntry) : (∃ e', EntryRead e e') ↔
    e.InRange ∧ e.validFrom.instant < e.validUntil.instant ∧ lineageMatches e.toAdmissionFields = true := by
  constructor
  · rintro ⟨e', h⟩
    obtain ⟨hr, -, hok, hmatches⟩ := h.fields
    exact ⟨hr, (postInit_reread hr e.ok).1 hok, hmatches⟩
  · rintro ⟨hr, hlt, hmatches⟩
    obtain ⟨j, hwrite, hfields, -⟩ := entryFields_read e.toAdmissionFields hr
    have hok := (postInit_reread hr e.ok).2 hlt
    refine ⟨⟨e.toAdmissionFields.reread hr, hok⟩, j, hwrite, ?_⟩
    have hentry : registryEntryOf (e.toAdmissionFields.reread hr) = .ok ⟨e.toAdmissionFields.reread hr, hok⟩ :=
      dif_pos hok
    unfold entryFromData
    rw [hfields, ok_bind, hentry, ok_bind]
    dsimp only
    rw [lineageMatches_reread, if_pos hmatches]

def AdmissionFields.Plain (m : AdmissionFields) : Prop :=
  (m.admittedAt.zone = 0 ∨ m.admittedAt.Plain) ∧ (m.validFrom.zone = 0 ∨ m.validFrom.Plain) ∧
    (m.validUntil.zone = 0 ∨ m.validUntil.Plain)

theorem EntryRead.same_iff (h : EntryRead e e') : SameEntry e'.toAdmissionFields e.toAdmissionFields ↔ e.Plain := by
  obtain ⟨hr, heq, -, -⟩ := h.fields
  have hsemantics : SameSemantics (e.financialSemantics.map (·.reread)) e.financialSemantics := by
    unfold SameSemantics
    cases e.financialSemantics with
    | none => rfl
    | some s => exact congrArg some (key_reread s)
  rw [heq]
  unfold AdmissionFields.Plain
  rw [← same_atUtc hr.1, ← same_atUtc hr.2.1, ← same_atUtc hr.2.2]
  simp only [SameEntry, SameAuthority, SameLineage, AdmissionFields.reread, true_and]
  tauto

/-! ### Revocations that are read back -/

def RevocationRead (r r' : GovernanceRevocation) : Prop := ∃ j, revocationToData r = .ok j ∧ revocationFromData j = .ok r'

omit [CaseMap] in
theorem revocation_read (r : GovernanceRevocation) (h : r.revokedAt.InRange) :
    ∃ j, revocationToData r = .ok j ∧ revocationFromData j = .ok { r with revokedAt := atUtc r.revokedAt h } ∧
      revocationToData { r with revokedAt := atUtc r.revokedAt h } = .ok j := by
  have htarget : (str (targetKindValue r.targetKind)).asMember [.candidate, .independentVerification,
      .registeredProof] targetKindValue = .ok r.targetKind := by
    cases r.targetKind <;> decide
  have hreason : (str (revocationReasonValue r.reason)).asMember [.revoked, .superseded, .evidenceInvalidated,
      .applicabilityInvalidated] revocationReasonValue = .ok r.reason := by
    cases r.reason <;> decide
  unfold revocationToData
  rw [timestamp_ok h]
  refine ⟨_, rfl, ?_, ?_⟩
  · have htexts := r.texts_nonblank
    have hsuperseded := r.superseded_iff
    simp only [revocationFromData, ok_bind, get_head, get_tail, ne_eq, String.reduceEq, not_false_eq_true, htarget,
      hreason, orNone_text, asText, asInt, parseTimestamp_moment h]
    rw [dif_pos htexts, dif_pos hsuperseded]
    rfl
  · rw [timestamp_atUtc]
    rfl

omit [CaseMap] in
theorem RevocationRead.fields (h : RevocationRead r r') :
    ∃ hr : r.revokedAt.InRange, r' = { r with revokedAt := atUtc r.revokedAt hr } := by
  obtain ⟨j, hwrite, hread⟩ := h
  have hr : r.revokedAt.InRange := by
    unfold revocationToData at hwrite
    obtain ⟨a, ha, -⟩ := bind_ok hwrite
    exact timestamp_inRange ha
  obtain ⟨j', hwrite', hread', -⟩ := revocation_read r hr
  cases hwrite.symm.trans hwrite'
  cases hread.symm.trans hread'
  exact ⟨hr, rfl⟩

omit [CaseMap] in
theorem RevocationRead.data (h : RevocationRead r r') : revocationToData r' = revocationToData r := by
  obtain ⟨hr, heq⟩ := h.fields
  obtain ⟨j, hwrite, -, hagain⟩ := revocation_read r hr
  rw [heq, hwrite, hagain]

omit [CaseMap] in
theorem exists_revocationRead_iff (r : GovernanceRevocation) : (∃ r', RevocationRead r r') ↔ r.revokedAt.InRange := by
  constructor
  · rintro ⟨r', h⟩
    exact h.fields.1
  · intro hr
    obtain ⟨j, hwrite, hread, -⟩ := revocation_read r hr
    exact ⟨_, j, hwrite, hread⟩

omit [CaseMap] in
theorem RevocationRead.same_iff (h : RevocationRead r r') :
    SameRevocation r' r ↔ r.revokedAt.zone = 0 ∨ r.revokedAt.Plain := by
  obtain ⟨hr, heq⟩ := h.fields
  rw [heq, ← same_atUtc hr]
  simp only [SameRevocation, true_and, and_true]

/-! ### States that are read back -/

omit [CaseMap] [TimeZones] in
theorem mapM_ok_iff {α β : Type} {f : α → Except PyExc β} {l : List α} {l' : List β} :
    l.mapM f = .ok l' ↔ List.Forall₂ (fun x y => f x = .ok y) l l' := by
  rw [mapM_eq_ok, ← forall₂_eq_eq_eq, forall₂_map_left_iff, forall₂_map_right_iff]

structure StateRead (s t : DerivDurableProofState) : Prop where
  entries : List.Forall₂ EntryRead s.registry.entries t.registry.entries
  revocations : List.Forall₂ RevocationRead s.revocations t.revocations

omit [CaseMap] [TimeZones] in
theorem forall₂_comp {α β : Type} {write : α → Except PyExc Json} {read : Json → Except PyExc β} :
    ∀ {l : List α} {l' : List β},
    (∃ js, l.mapM write = .ok js ∧ js.mapM read = .ok l') ↔
      List.Forall₂ (fun x y => ∃ j, write x = .ok j ∧ read j = .ok y) l l' := by
  intro l l'
  simp only [mapM_ok_iff]
  constructor
  · rintro ⟨js, hwrite, hread⟩
    induction hwrite generalizing l' with
    | nil =>
      cases hread
      exact .nil
    | cons hj _ ih =>
      cases hread with
      | cons hy hrest => exact .cons ⟨_, hj, hy⟩ (ih hrest)
  · intro h
    induction h with
    | nil => exact ⟨[], .nil, .nil⟩
    | cons hxy _ ih =>
      obtain ⟨j, hj, hy⟩ := hxy
      obtain ⟨js, hwrite, hread⟩ := ih
      exact ⟨j :: js, .cons hj hwrite, .cons hy hread⟩

omit [CaseMap] [TimeZones] in
theorem mapM_eq_of_forall₂ {α β γ : Type} {R : α → β → Prop} {f : α → Except PyExc γ} {g : β → Except PyExc γ}
    (hfg : ∀ x y, R x y → g y = f x) : ∀ {l : List α} {l' : List β}, List.Forall₂ R l l' → l'.mapM g = l.mapM f
  | _, _, .nil => rfl
  | _, _, .cons hxy h => by rw [mapM_cons, mapM_cons, hfg _ _ hxy, mapM_eq_of_forall₂ hfg h]

theorem registryStateOf_self (registry : DerivProofRegistryState) : registryStateOf registry.entries = .ok registry :=
  registryStateOf_ok registry.proofIds registry.admissionIds registry.candidateIds registry.ordered

theorem registryStateOf_entries {entries : List DerivProofRegistryEntry} {registry : DerivProofRegistryState}
    (h : registryStateOf entries = .ok registry) : registry.entries = entries := by
  unfold registryStateOf at h
  split at h
  · split at h
    · split at h
      · split at h
        · cases h
          rfl
        · cases h
      · cases h
    · cases h
  · cases h

theorem durableStateOf_self (s : DerivDurableProofState) : durableStateOf s.registry s.revocations = .ok s := by
  unfold durableStateOf
  rw [dif_pos s.ordered, dif_pos s.revocationIds, dif_pos s.agree]

theorem durableStateOf_fields {registry : DerivProofRegistryState} {revocations : List GovernanceRevocation}
    {s : DerivDurableProofState} (h : durableStateOf registry revocations = .ok s) :
    s.registry = registry ∧ s.revocations = revocations := by
  unfold durableStateOf at h
  split at h
  · split at h
    · split at h
      · cases h
        exact ⟨rfl, rfl⟩
      · cases h
    · cases h
  · cases h

theorem StateRead.payload {s t : DerivDurableProofState} (h : StateRead s t) : stateToPayload t = stateToPayload s := by
  unfold stateToPayload
  rw [mapM_eq_of_forall₂ (fun _ _ he => he.data) h.entries, mapM_eq_of_forall₂ (fun _ _ hr => hr.data) h.revocations]

theorem payload_read_iff (s t : DerivDurableProofState) :
    (∃ payload, stateToPayload s = .ok payload ∧ stateFromPayload payload = .ok t) ↔ StateRead s t := by
  have hread_eq : ∀ entries revocations : List Json, stateFromPayload (.obj [("entries", .arr entries),
      ("revocations", .arr revocations)]) = (do
        let registry ← registryStateOf (← entries.mapM entryFromData)
        let state ← durableStateOf registry (← revocations.mapM revocationFromData)
        if (← stateToPayload state).dumps = (obj [("entries", .arr entries), ("revocations", .arr revocations)]).dumps
        then .ok state
        else .error (.exception "durable payload is not canonical")) := by
    intro entries revocations
    simp [stateFromPayload, Json.keys, get_head, get_tail, ok_bind, Json.asList, Json.asItems]
  constructor
  · rintro ⟨payload, hwrite, hread⟩
    unfold stateToPayload at hwrite
    obtain ⟨entries, hentries, hwrite⟩ := bind_ok hwrite
    obtain ⟨revocations, hrevocations, hwrite⟩ := bind_ok hwrite
    cases hwrite
    rw [hread_eq] at hread
    obtain ⟨es, hes, hread⟩ := bind_ok hread
    obtain ⟨registry, hregistry, hread⟩ := bind_ok hread
    obtain ⟨rs, hrs, hread⟩ := bind_ok hread
    obtain ⟨state, hstate, hread⟩ := bind_ok hread
    obtain ⟨again, -, hread⟩ := bind_ok hread
    split at hread
    · cases hread
      obtain ⟨hstateRegistry, hstateRevocations⟩ := durableStateOf_fields hstate
      constructor
      · rw [hstateRegistry, registryStateOf_entries hregistry]
        exact forall₂_comp.1 ⟨entries, hentries, hes⟩
      · rw [hstateRevocations]
        exact forall₂_comp.1 ⟨revocations, hrevocations, hrs⟩
    · cases hread
  · intro h
    obtain ⟨entries, hentries, hes⟩ := forall₂_comp.2 h.entries
    obtain ⟨revocations, hrevocations, hrs⟩ := forall₂_comp.2 h.revocations
    have hwrite : stateToPayload s = .ok (.obj [("entries", .arr entries), ("revocations", .arr revocations)]) := by
      unfold stateToPayload
      rw [hentries, ok_bind, hrevocations]
      rfl
    refine ⟨_, hwrite, ?_⟩
    rw [hread_eq, hes, ok_bind, registryStateOf_self, ok_bind, hrs, ok_bind, durableStateOf_self, ok_bind, h.payload,
      hwrite, ok_bind, if_pos rfl]

end

end DerivAdmission
end Jqe
