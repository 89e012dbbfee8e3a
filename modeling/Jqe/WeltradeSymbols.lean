import Jqe.PyBase
import Jqe.Regex
/-!
# WeltradeSymbols — the names of synthetic instruments (`broker/weltrade_symbols.py`)

`is_weltrade_synthetic`, `weltrade_symbol_key` and `canonical_weltrade_symbol`, over `re` with `IGNORECASE` on Unicode text:
`\s` and `\d` take Unicode's spaces and decimal digits, and four letters outside ASCII match letters of the patterns.
-/
namespace Jqe

open Regex (Pattern)

namespace WeltradeSymbols

def dottedCapitalI : Char := Char.ofNat 0x130

def dotlessI : Char := Char.ofNat 0x131

def longS : Char := Char.ofNat 0x17F

def kelvinSign : Char := Char.ofNat 0x212A

def isCapital (c : Char) : Bool := 'A' ≤ c && c ≤ 'Z'

def isKeyChar (c : Char) : Bool := isCapital c || c.isDigit

/-- **The Unicode tables of a Python**, with what every version says of the characters of a symbol. -/
class PyUnicode extends CaseMap where
  /-- what `str.upper()` makes of a character -/
  upperChar : Char → List Char
  upper_eq : ∀ s : String, upper s = String.ofList (s.toList.flatMap upperChar)
  isDecimal : Char → Bool
  upperChar_ascii : ∀ c : Char, c.toNat < 128 → upperChar c = [c.toUpper]
  upperChar_letters : upperChar dotlessI = ['I'] ∧ upperChar longS = ['S'] ∧
    upperChar dottedCapitalI = [dottedCapitalI] ∧ upperChar kelvinSign = [kelvinSign]
  upperChar_other : ∀ c : Char, 128 ≤ c.toNat → isDecimal c = true ∨ isPySpace c = true → upperChar c = [c]
  upperChar_upper : ∀ c : Char, ∀ d ∈ upperChar c, upperChar d = [d]
  lower_ascii : ∀ s : String, (∀ c ∈ s.toList, c.toNat < 128) → lower s = String.ofList (s.toList.map Char.toLower)
  isDecimal_ascii : ∀ c : Char, c.toNat < 128 → isDecimal c = c.isDigit
  isDecimal_space : ∀ c : Char, isDecimal c = true → isPySpace c = false
  isDecimal_letters : ∀ c ∈ [dottedCapitalI, dotlessI, longS, kelvinSign], isDecimal c = false

/-- The capital that a character matches when case is ignored. -/
def foldCase (c : Char) : Char :=
  if c = dottedCapitalI ∨ c = dotlessI then 'I' else if c = longS then 'S' else if c = kelvinSign then 'K' else c.toUpper

/-- The named groups of `_CANONICAL_PATTERN`. -/
inductive Part where
  | maxPrefix
  | family
  | number
  deriving DecidableEq

def text (capitals : String) : Pattern Char Part := .literal (capitals.toList.map fun l c => foldCase c == l)

def dot : Pattern Char Part := .letter (· == '.')

def spaces : Pattern Char Part := .plus isPySpace

def anySpaces : Pattern Char Part := .many isPySpace

/-- `$`: the end of the text, or of all but its last line feed. -/
def atEnd : Pattern Char Part := .look fun rest => rest.isEmpty || rest == ['\n']

section

variable [PyUnicode]

def decimals : Pattern Char Part := .plus PyUnicode.isDecimal

def scopePattern : Pattern Char Part :=
  .alt (.seq (.opt (text "S")) (.seq (text "FX") (.seq spaces (.seq (text "VOL") (.seq (.opt dot) (.seq anySpaces decimals))))))
    (.alt (.seq (.opt (.seq (text "MAX") spaces)) (.seq (.alt (text "PAINX") (text "GAINX")) (.seq spaces decimals)))
      (.alt (.seq (text "FLIPX") (.seq spaces decimals))
        (.alt (.seq (text "SWITCHX") (.seq spaces decimals))
          (.alt (.seq (text "BREAKX") (.seq spaces decimals)) (text "FIBOX")))))

def canonicalPattern : Pattern Char Part :=
  .seq (.opt (.seq (.group .maxPrefix (text "MAX")) spaces))
    (.seq (.group .family
        (.alt (.seq (.opt (text "S")) (.seq (text "FX") (.seq anySpaces (.seq (text "VOL") (.opt dot)))))
          (.alt (text "PAINX") (.alt (text "GAINX") (.alt (text "FLIPX") (.alt (text "SWITCHX")
            (.alt (text "BREAKX") (text "FIBOX"))))))))
      (.seq (.opt (.seq anySpaces (.group .number decimals))) atEnd))

def isWeltradeSynthetic (symbol : String) : Bool := (scopePattern.fullmatch (strip symbol).toList).isSome

def upper (symbol : List Char) : List Char := symbol.flatMap PyUnicode.upperChar

def symbolKey (symbol : List Char) : List Char := (upper symbol).filter isKeyChar

def weltradeSymbolKey (symbol : String) : String := String.ofList (symbolKey symbol.toList)

end

/-- `re.sub(r"\s+", " ", clean)`, within a run of spaces or not. -/
def collapse : Bool → List Char → List Char
  | _, [] => []
  | inRun, c :: clean =>
    if isPySpace c then (if inRun then collapse true clean else ' ' :: collapse true clean) else c :: collapse false clean

def canonicalFamilies : List (String × String) := [
  ("FXVOL", "FX Vol"), ("SFXVOL", "SFX Vol"), ("PAINX", "PainX"), ("GAINX", "GainX"), ("FLIPX", "FlipX"),
  ("SWITCHX", "SwitchX"), ("BREAKX", "BreakX"), ("FIBOX", "FiboX")]

/-- What `canonical_weltrade_symbol` raises. -/
inductive SymbolError where
  | marketDataError (message symbol : String)
  | keyError (key : String)
  deriving DecidableEq

def unsupported (symbol : String) : SymbolError :=
  .marketDataError "Only native Weltrade synthetic indices are supported" symbol

def canonicalWeltradeSymbol [PyUnicode] (symbol : String) : Except SymbolError String :=
  let clean := strip symbol
  if isWeltradeSynthetic clean then
    match canonicalPattern.matchStart (collapse false clean.toList) with
    | none => .error (unsupported symbol)
    | some groups =>
      let key := String.ofList (symbolKey ((groups .family).getD []))
      match canonicalFamilies.lookup key with
      | none => .error (.keyError key)
      | some family =>
        if family = "FiboX" then .ok family
        else .ok ((if ((groups .maxPrefix).getD []).isEmpty then "" else "MAX ") ++ family ++ " " ++
          (groups .number).elim "None" String.ofList)
  else .error (unsupported symbol)

def requireWeltradeSynthetic [PyUnicode] (symbol : String) : Except SymbolError String := canonicalWeltradeSymbol symbol

end WeltradeSymbols
end Jqe
