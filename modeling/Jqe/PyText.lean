import Jqe.PyBase
import Mathlib.Algebra.Group.Nat.Defs
/-!
# PyText — numbers, times and texts as Python writes them

`format(x, ".17g")`, `datetime.isoformat()` of a whole second in UTC, `datetime`s with or without a zone, and the strings
of `json.dumps`.
-/
namespace Jqe

def exponentBelowOne : ℕ → ℚ → ℤ
  | 0, _ => 0
  | n + 1, x => if 1 ≤ x then 0 else exponentBelowOne n (x * 10) - 1

def decimalExponent (x : ℚ) : ℤ :=
  if 1 ≤ x then (toString x.floor.toNat).length - 1 else exponentBelowOne (toString x.den).length x

def dropZeros (digits : List Char) : List Char := digits.rdropWhile (· == '0')

def fraction (digits : List Char) : List Char := if digits.isEmpty then [] else '.' :: digits

/-- The significant digits of a positive number written with its exponent `e`, as `g` does it. -/
def layoutG (digits : List Char) (e : ℤ) : List Char :=
  if e < -4 ∨ 17 ≤ e then
    let exponent := (toString e.natAbs).toList
    digits.take 1 ++ fraction (dropZeros (digits.drop 1)) ++ ['e', if e < 0 then '-' else '+'] ++
      (if exponent.length < 2 then '0' :: exponent else exponent)
  else if 0 ≤ e then digits.take (e.toNat + 1) ++ fraction (dropZeros (digits.drop (e.toNat + 1)))
  else '0' :: fraction (List.replicate ((-e).toNat - 1) '0' ++ dropZeros digits)

/-- **`format(x, ".17g")`** of a finite float: seventeen significant digits, a tie to the even one. -/
def formatG17 (x : ℚ) : String :=
  if x = 0 then "0"
  else
    let e := decimalExponent |x|
    let m := (roundHalfEven (|x| * 10 ^ (16 - e))).toNat
    let (m, e) := if 10 ^ 17 ≤ m then (m / 10, e + 1) else (m, e)
    String.ofList ((if x < 0 then ['-'] else []) ++ layoutG (toString m).toList e)

def PyFloat.formatG17 : PyFloat → String
  | fin q => Jqe.formatG17 q
  | posInf => "inf"
  | negInf => "-inf"
  | nan => "nan"

def padded (width : ℕ) (n : ℤ) : String :=
  let digits := (toString n.toNat).toList
  String.ofList (List.replicate (width - digits.length) '0' ++ digits)

def daySeconds : Int := 86400

/-- The day of a moment, counted from 1970-01-01: what `.date()` compares. -/
def utcDay (t : Int) : Int := t / daySeconds

/-- Year, month and day of a day. -/
def civil (day : Int) : Int × Int × Int :=
  let z := day + 719468
  let era := z / 146097
  let doe := z % 146097
  let yoe := (doe - doe / 1460 + doe / 36524 - doe / 146096) / 365
  let doy := doe - (365 * yoe + yoe / 4 - yoe / 100)
  let mp := (5 * doy + 2) / 153
  let month := if mp < 10 then mp + 3 else mp - 9
  (yoe + era * 400 + (if month ≤ 2 then 1 else 0), month, doy - (153 * mp + 2) / 5 + 1)

def isoformat (t : Int) : String :=
  let (y, m, d) := civil (utcDay t)
  let s := t % daySeconds
  padded 4 y ++ "-" ++ padded 2 m ++ "-" ++ padded 2 d ++ "T" ++ padded 2 (s / 3600) ++ ":" ++
    padded 2 (s / 60 % 60) ++ ":" ++ padded 2 (s % 60) ++ "+00:00"

/-- A `datetime` in microseconds: an instant, in UTC or at a fixed offset from it, or a wall-clock time with no zone. -/
inductive PyDatetime where
  | aware (instant : ℤ)
  | naive (wall : ℤ)
  deriving DecidableEq

def PyDatetime.isNaive : PyDatetime → Bool
  | aware _ => false
  | naive _ => true

def PyDatetime.le : PyDatetime → PyDatetime → Except PyExc Bool
  | aware s, aware t | naive s, naive t => .ok (decide (s ≤ t))
  | _, _ => .error (.exception "can't compare offset-naive and offset-aware datetimes")

def hex4 (n : ℕ) : List Char :=
  [n / 4096 % 16, n / 256 % 16, n / 16 % 16, n % 16].map fun d => Char.ofNat (if d < 10 then 48 + d else 87 + d)

/-- A character in a string of `json.dumps`: everything outside printable ASCII is escaped. -/
def jsonChar (c : Char) : List Char :=
  let n := c.toNat
  if c = '"' then ['\\', '"']
  else if c = '\\' then ['\\', '\\']
  else if n = 10 then ['\\', 'n']
  else if n = 13 then ['\\', 'r']
  else if n = 9 then ['\\', 't']
  else if n = 12 then ['\\', 'f']
  else if n = 8 then ['\\', 'b']
  else if 32 ≤ n ∧ n ≤ 126 then [c]
  else if n < 65536 then '\\' :: 'u' :: hex4 n
  else '\\' :: 'u' :: hex4 (55296 + (n - 65536) / 1024) ++ '\\' :: 'u' :: hex4 (56320 + (n - 65536) % 1024)

def jsonString (s : String) : String := String.ofList ('"' :: s.toList.flatMap jsonChar ++ ['"'])

theorem jsonString_toList (s : String) : (jsonString s).toList = '"' :: (s.toList.flatMap jsonChar ++ ['"']) := by
  rw [jsonString, String.toList_ofList, List.cons_append]

/-- A string or `null`. -/
def jsonText (s : Option String) : String := s.elim "null" jsonString

example : [formatG17 (3602879701896397 / 2 ^ 55), formatG17 100, formatG17 (-1 / 2 ^ 17), formatG17 (10 ^ 17)] =
    ["0.10000000000000001", "100", "-7.62939453125e-06", "1e+17"] := by decide +kernel

example : isoformat 1789725600 = "2026-09-18T10:00:00+00:00" := by rfl

end Jqe
