import Jqe.DecimalText
import Jqe.DerivTerms
import Jqe.PyText
import Jqe.Sha256
/-!
# DerivSpecification — `broker/deriv_financial_semantics.py`

The specification of financial semantics over any type of numbers: over decimals it is what the code holds, over their
values it is what `==` sees of it.  Its material hash is taken of its canonical JSON text, which spells the decimals.
-/
namespace Jqe
namespace DerivAdmission

open DecimalText

/-! ### JSON -/

/-- A JSON value; the text of a moment stands for the moment and that of a decimal for its parts. -/
inductive Json where
  | null
  | bool (b : Bool)
  | int (n : ℤ)
  | str (s : String)
  | decimal (t : Parts)
  | moment (wall : ℤ)
  | arr (items : List Json)
  | obj (entries : List (String × Json))

def epochSeconds : ℤ := 62135596800

mutual

/-- `json.dumps(…, sort_keys=True, separators=(",", ":"))`, on objects that list their keys in order. -/
def Json.dumps : Json → String
  | .null => "null"
  | .bool b => if b then "true" else "false"
  | .int n => toString n
  | .str s => jsonString s
  | .decimal t => jsonString t.text
  | .moment wall =>
    let seconds := wall / 1000000 - epochSeconds
    jsonString (String.ofList ((isoformat seconds).toList.take 19) ++ "." ++ padded 6 (wall % 1000000) ++ "+00:00")
  | .arr items => "[" ++ Json.dumpsItems items ++ "]"
  | .obj entries => "\x7b" ++ Json.dumpsEntries entries ++ "\x7d"

def Json.dumpsItems : List Json → String
  | [] => ""
  | [j] => j.dumps
  | j :: k :: items => j.dumps ++ "," ++ Json.dumpsItems (k :: items)

def Json.dumpsEntries : List (String × Json) → String
  | [] => ""
  | [(key, j)] => jsonString key ++ ":" ++ j.dumps
  | (key, j) :: e :: entries => jsonString key ++ ":" ++ j.dumps ++ "," ++ Json.dumpsEntries (e :: entries)

end

def Json.text (s : Option String) : Json := s.elim .null .str

/-! ### The types -/

inductive DerivEquationFamily where
  | syntheticLinearProduct
  deriving DecidableEq

inductive DerivOperandRole where
  | factor
  | rate
  | base
  deriving DecidableEq

inductive DerivNumericDomain where
  | positive
  | nonnegative
  | signed
  | unknown
  deriving DecidableEq

inductive DerivRoundingMode where
  | none
  | roundFloor
  | roundCeiling
  | roundHalfEven
  deriving DecidableEq

inductive DerivRoundingStage where
  | none
  | eachOperation
  | finalOutput
  deriving DecidableEq

structure DerivFinancialOperand (D : Type) where
  operandId : String
  semanticId : String
  unit : DerivFinancialUnit
  role : DerivOperandRole
  position : ℤ
  required : Bool
  domain : DerivNumericDomain
  lowerBound : Option D := none
  upperBound : Option D := none
  zeroAllowed : Bool := false
  currencyBound : Bool := false
  multiplierBound : Bool := false
  deriving DecidableEq

structure DerivFinancialOutput where
  semantic : DerivOutputSemantic
  unit : DerivFinancialUnit
  currencyBinding : DerivCurrencyBinding
  explicitCurrency : Option String
  signed : Bool
  zeroAllowed : Bool
  deriving DecidableEq

structure DerivRoundingPolicy where
  required : Bool
  precision : Option ℤ
  mode : DerivRoundingMode
  stage : DerivRoundingStage
  deriving DecidableEq

structure SemanticsFields (D : Type) where
  semanticId : String
  semanticVersion : ℤ
  equationFamily : DerivEquationFamily
  equationIdentityHash : String
  operands : List (DerivFinancialOperand D)
  output : DerivFinancialOutput
  rounding : DerivRoundingPolicy
  domainConstraintIds : List String
  applicability : DerivEvidenceApplicability
  contractFamily : String
  quantityBasisSemanticId : String
  stopSemanticId : String
  multiplierSemanticId : String
  takeProfitOutput : Option DerivFinancialOutput := none
  takeProfitSemanticId : Option String := none
  maximumLossOutput : Option DerivFinancialOutput := none
  maximumLossSemanticId : Option String := none
  allowedMultiplierValues : List D := []
  deriving DecidableEq

def DerivFinancialOperand.map {D E : Type} (f : D → E) (o : DerivFinancialOperand D) : DerivFinancialOperand E :=
  { o with lowerBound := o.lowerBound.map f, upperBound := o.upperBound.map f }

def SemanticsFields.map {D E : Type} (f : D → E) (s : SemanticsFields D) : SemanticsFields E :=
  { s with operands := s.operands.map (·.map f), allowedMultiplierValues := s.allowedMultiplierValues.map f }

/-! ### The checks of the constructors -/

def applicabilityPostInit [CaseMap] (a : DerivEvidenceApplicability) : Bool :=
  !blank a.broker && CaseMap.lower (strip a.broker) == "deriv" &&
  [a.contractFamily, a.symbol, a.accountCurrency, a.environment, a.quantityBasis, a.stopLossSemanticId,
    a.multiplierSemanticsId, a.symbolCapabilityScope].all (fun text => text.all fun s => !blank s)

def DerivFinancialOperand.postInit (o : DerivFinancialOperand ℚ) : Bool :=
  !blank o.operandId && !blank o.semanticId && decide (0 ≤ o.position) &&
  (match o.lowerBound, o.upperBound with
    | some lower, some upper => decide (lower ≤ upper)
    | _, _ => true) &&
  !(o.domain == .positive && o.zeroAllowed)

def DerivFinancialOutput.postInit (o : DerivFinancialOutput) : Bool :=
  if o.currencyBinding = .explicitCurrency then o.explicitCurrency.any fun s => !blank s else o.explicitCurrency.isNone

def DerivRoundingPolicy.postInit (r : DerivRoundingPolicy) : Bool :=
  if r.required then r.precision.any (fun p => decide (0 ≤ p)) && r.mode != .none && r.stage != .none
  else r.precision.isNone && r.mode == .none && r.stage == .none

def extraOutput (semantic : DerivOutputSemantic) (output : Option DerivFinancialOutput) (id : Option String) : Bool :=
  match output with
  | some o => id.any (fun s => !blank s) && o.semantic == semantic && o.unit == .accountCurrencyAmount
  | none => id.isNone

def SemanticsFields.postInit [CaseMap] (s : SemanticsFields ℚ) : Bool :=
  !blank s.semanticId && decide (0 < s.semanticVersion) && isSha256 s.equationIdentityHash &&
  !s.operands.isEmpty && s.operands.all (·.postInit) && decide (s.operands.map (·.operandId)).Nodup &&
  s.operands.map (·.position) == (List.range s.operands.length).map (fun n : ℕ => (n : ℤ)) &&
  s.output.postInit && s.rounding.postInit && s.domainConstraintIds.all (fun id => !blank id) &&
  decide (s.domainConstraintIds.Pairwise (· < ·)) && applicabilityPostInit s.applicability &&
  [s.contractFamily, s.quantityBasisSemanticId, s.stopSemanticId, s.multiplierSemanticId].all (fun id => !blank id) &&
  s.takeProfitOutput.all (·.postInit) &&
  extraOutput .syntheticMonetaryProfitForSuppliedInputs s.takeProfitOutput s.takeProfitSemanticId &&
  s.maximumLossOutput.all (·.postInit) &&
  extraOutput .syntheticMaximumMonetaryLoss s.maximumLossOutput s.maximumLossSemanticId &&
  s.allowedMultiplierValues.all (fun v => decide (0 < v)) && decide (s.allowedMultiplierValues.Pairwise (· < ·)) &&
  some s.contractFamily == s.applicability.contractFamily &&
  some s.quantityBasisSemanticId == s.applicability.quantityBasis &&
  some s.stopSemanticId == s.applicability.stopLossSemanticId &&
  some s.multiplierSemanticId == s.applicability.multiplierSemanticsId

structure DerivFinancialSemanticsSpecification [CaseMap] extends SemanticsFields Dec where
  ok : (toSemanticsFields.map Dec.value).postInit = true
  deriving DecidableEq

/-! ### The material hash -/

def unitValue : DerivFinancialUnit → String
  | .accountCurrencyAmount => "ACCOUNT_CURRENCY_AMOUNT"
  | .stakeCurrencyAmount => "STAKE_CURRENCY_AMOUNT"
  | .price => "PRICE"
  | .priceDistance => "PRICE_DISTANCE"
  | .ratio => "RATIO"
  | .multiplier => "MULTIPLIER"
  | .contractQuantity => "CONTRACT_QUANTITY"
  | .percentage => "PERCENTAGE"

def outputSemanticValue : DerivOutputSemantic → String
  | .syntheticMonetaryLossForSuppliedInputs => "SYNTHETIC_MONETARY_LOSS_FOR_SUPPLIED_INPUTS"
  | .syntheticMaximumMonetaryLoss => "SYNTHETIC_MAXIMUM_MONETARY_LOSS"
  | .syntheticMonetaryProfitForSuppliedInputs => "SYNTHETIC_MONETARY_PROFIT_FOR_SUPPLIED_INPUTS"

def currencyBindingValue : DerivCurrencyBinding → String
  | .applicabilityAccountCurrency => "APPLICABILITY_ACCOUNT_CURRENCY"
  | .explicitCurrency => "EXPLICIT_CURRENCY"
  | .notApplicable => "NOT_APPLICABLE"

def DerivEquationFamily.value : DerivEquationFamily → String
  | .syntheticLinearProduct => "SYNTHETIC_LINEAR_PRODUCT"

def DerivOperandRole.value : DerivOperandRole → String
  | .factor => "FACTOR"
  | .rate => "RATE"
  | .base => "BASE"

def DerivNumericDomain.value : DerivNumericDomain → String
  | .positive => "POSITIVE"
  | .nonnegative => "NONNEGATIVE"
  | .signed => "SIGNED"
  | .unknown => "UNKNOWN"

def DerivRoundingMode.value : DerivRoundingMode → String
  | .none => "NONE"
  | .roundFloor => "ROUND_FLOOR"
  | .roundCeiling => "ROUND_CEILING"
  | .roundHalfEven => "ROUND_HALF_EVEN"

def DerivRoundingStage.value : DerivRoundingStage → String
  | .none => "NONE"
  | .eachOperation => "EACH_OPERATION"
  | .finalOutput => "FINAL_OUTPUT"

def decimalToData (d : Option Dec) : Json := d.elim .null fun d => .decimal d.toEngString

def applicabilityToData (a : DerivEvidenceApplicability) : Json := .obj [
  ("account_currency", .text a.accountCurrency),
  ("broker", .str a.broker),
  ("contract_family", .text a.contractFamily),
  ("environment", .text a.environment),
  ("multiplier_semantics_id", .text a.multiplierSemanticsId),
  ("quantity_basis", .text a.quantityBasis),
  ("stop_loss_semantic_id", .text a.stopLossSemanticId),
  ("symbol", .text a.symbol),
  ("symbol_capability_scope", .text a.symbolCapabilityScope)]

def outputToData (o : DerivFinancialOutput) : Json := .obj [
  ("currency_binding", .str (currencyBindingValue o.currencyBinding)),
  ("explicit_currency", .text o.explicitCurrency),
  ("semantic", .str (outputSemanticValue o.semantic)),
  ("signed", .bool o.signed),
  ("unit", .str (unitValue o.unit)),
  ("zero_allowed", .bool o.zeroAllowed)]

def optionalOutputToData (o : Option DerivFinancialOutput) : Json := o.elim .null outputToData

def operandToData (o : DerivFinancialOperand Dec) : Json := .obj [
  ("currency_bound", .bool o.currencyBound),
  ("domain", .str o.domain.value),
  ("lower_bound", decimalToData o.lowerBound),
  ("multiplier_bound", .bool o.multiplierBound),
  ("operand_id", .str o.operandId),
  ("position", .int o.position),
  ("required", .bool o.required),
  ("role", .str o.role.value),
  ("semantic_id", .str o.semanticId),
  ("unit", .str (unitValue o.unit)),
  ("upper_bound", decimalToData o.upperBound),
  ("zero_allowed", .bool o.zeroAllowed)]

def roundingToData (r : DerivRoundingPolicy) : Json := .obj [
  ("mode", .str r.mode.value),
  ("precision", r.precision.elim .null .int),
  ("required", .bool r.required),
  ("stage", .str r.stage.value)]

def semanticsToData (s : SemanticsFields Dec) : Json := .obj [
  ("allowed_multiplier_values", .arr (s.allowedMultiplierValues.map fun v => decimalToData (some v))),
  ("applicability", applicabilityToData s.applicability),
  ("contract_family", .str s.contractFamily),
  ("domain_constraint_ids", .arr (s.domainConstraintIds.map .str)),
  ("equation_family", .str s.equationFamily.value),
  ("equation_identity_hash", .str s.equationIdentityHash),
  ("maximum_loss_output", optionalOutputToData s.maximumLossOutput),
  ("maximum_loss_semantic_id", .text s.maximumLossSemanticId),
  ("multiplier_semantic_id", .str s.multiplierSemanticId),
  ("operands", .arr (s.operands.map operandToData)),
  ("output", outputToData s.output),
  ("quantity_basis_semantic_id", .str s.quantityBasisSemanticId),
  ("rounding", roundingToData s.rounding),
  ("schema_version", .int 1),
  ("semantic_id", .str s.semanticId),
  ("semantic_version", .int s.semanticVersion),
  ("stop_semantic_id", .str s.stopSemanticId),
  ("take_profit_output", optionalOutputToData s.takeProfitOutput),
  ("take_profit_semantic_id", .text s.takeProfitSemanticId)]

def SemanticsFields.materialHash (s : SemanticsFields Dec) : String :=
  "sha256:" ++ Sha256.hexdigest ((semanticsToData s).dumps.toList.map Char.toNat)

/-! ### The text as characters -/

mutual

def Json.chars : Json → List Char
  | .null => "null".toList
  | .bool b => (if b then "true" else "false").toList
  | .int n => (toString n).toList
  | .str s => '"' :: (s.toList.flatMap jsonChar ++ ['"'])
  | .decimal t => (Json.decimal t).dumps.toList
  | .moment wall => (Json.moment wall).dumps.toList
  | .arr items => '[' :: (Json.charsItems items ++ [']'])
  | .obj entries => '\x7b' :: (Json.charsEntries entries ++ ['\x7d'])

def Json.charsItems : List Json → List Char
  | [] => []
  | [j] => j.chars
  | j :: k :: items => j.chars ++ ',' :: Json.charsItems (k :: items)

def Json.charsEntries : List (String × Json) → List Char
  | [] => []
  | [(key, j)] => '"' :: (key.toList.flatMap jsonChar ++ '"' :: ':' :: j.chars)
  | (key, j) :: e :: entries =>
    '"' :: (key.toList.flatMap jsonChar ++ '"' :: ':' :: (j.chars ++ ',' :: Json.charsEntries (e :: entries)))

end

mutual

theorem Json.dumps_toList : ∀ j : Json, j.dumps.toList = j.chars
  | .null => rfl
  | .bool b => rfl
  | .int n => rfl
  | .str s => jsonString_toList s
  | .decimal t => rfl
  | .moment wall => rfl
  | .arr items => by
    rw [Json.dumps, Json.chars, String.toList_append, String.toList_append, Json.dumpsItems_toList items]
    rfl
  | .obj entries => by
    rw [Json.dumps, Json.chars, String.toList_append, String.toList_append, Json.dumpsEntries_toList entries]
    rfl

theorem Json.dumpsItems_toList : ∀ items : List Json, (Json.dumpsItems items).toList = Json.charsItems items
  | [] => rfl
  | [j] => Json.dumps_toList j
  | j :: k :: items => by
    rw [Json.dumpsItems, Json.charsItems, String.toList_append, String.toList_append, Json.dumps_toList j,
      Json.dumpsItems_toList (k :: items), List.append_assoc]
    rfl

theorem Json.dumpsEntries_toList : ∀ entries : List (String × Json),
    (Json.dumpsEntries entries).toList = Json.charsEntries entries
  | [] => rfl
  | [(key, j)] => by
    rw [Json.dumpsEntries, Json.charsEntries, String.toList_append, String.toList_append, jsonString_toList,
      Json.dumps_toList j]
    simp
  | (key, j) :: e :: entries => by
    rw [Json.dumpsEntries, Json.charsEntries, String.toList_append, String.toList_append, String.toList_append,
      String.toList_append, jsonString_toList, Json.dumps_toList j, Json.dumpsEntries_toList (e :: entries)]
    simp

end

theorem SemanticsFields.materialHash_chars (s : SemanticsFields Dec) :
    s.materialHash = "sha256:" ++ Sha256.hexdigest ((semanticsToData s).chars.map Char.toNat) := by
  unfold materialHash
  rw [Json.dumps_toList]

namespace DerivFinancialSemanticsSpecification

variable [CaseMap]

def materialHash (s : DerivFinancialSemanticsSpecification) : String := s.toSemanticsFields.materialHash

/-- What `==` sees. -/
def key (s : DerivFinancialSemanticsSpecification) : SemanticsFields ℚ := s.toSemanticsFields.map Dec.value

end DerivFinancialSemanticsSpecification

end DerivAdmission
end Jqe
