import Mathlib.Data.List.DropRight
import Mathlib.Algebra.Order.Ring.Unbundled.Rat
/-!
# PyBase — the parts of Python's built-in values the modelled code computes with

Text (`str.strip` and the test for a blank text; upper and lower casing over any case mapping), floats (an exact
rational, an infinity or a NaN: sums and products of finite floats are exact here) and exceptions.
-/
namespace Jqe

open List

/-- The characters `str.strip` removes: Python's whitespace, which is more than ASCII's. -/
def isPySpace (c : Char) : Bool :=
  let n := c.toNat
  (0x9 ≤ n && n ≤ 0xD) || (0x1C ≤ n && n ≤ 0x20) || n == 0x85 || n == 0xA0 || n == 0x1680 ||
    (0x2000 ≤ n && n ≤ 0x200A) || n == 0x2028 || n == 0x2029 || n == 0x202F || n == 0x205F || n == 0x3000

/-- `strip` on the characters: the trailing run goes first, then the leading one. -/
def stripChars (l : List Char) : List Char := (l.rdropWhile isPySpace).dropWhile isPySpace

def strip (s : String) : String := String.ofList (stripChars s.toList)

def blank (s : String) : Bool := (stripChars s.toList).isEmpty

theorem stripChars_idem (l : List Char) : stripChars (stripChars l) = stripChars l := by
  have hlast : (stripChars l).rdropWhile isPySpace = stripChars l := by
    rw [rdropWhile_eq_self_iff]
    intro hne
    -- what is left is a suffix of the list without its trailing run, so both have the same last character
    have hsuf : stripChars l <:+ l.rdropWhile isPySpace := dropWhile_suffix _
    rw [hsuf.getLast hne]
    exact rdropWhile_last_not _ _ _
  conv_lhs => rw [stripChars, hlast]
  exact dropWhile_idempotent _ _

@[simp] theorem strip_idem (s : String) : strip (strip s) = strip s := by
  simp [strip, stripChars_idem]

theorem blank_of_head {s : String} {c : Char} {l : List Char} (hs : s.toList = c :: l)
    (hc : isPySpace c = false) : blank s = false := by
  unfold blank
  rw [hs, isEmpty_eq_false_iff]
  intro hempty
  unfold stripChars at hempty
  rw [dropWhile_eq_nil_iff] at hempty
  have hprefix := rdropWhile_prefix isPySpace (l := c :: l)
  cases hkept : List.rdropWhile isPySpace (c :: l) with
  | nil =>
    have hall := rdropWhile_eq_nil_iff.1 hkept c mem_cons_self
    rw [hc] at hall
    cases hall
  | cons d ds =>
    rw [hkept] at hprefix hempty
    have hd : d = c := (cons_prefix_cons.1 hprefix).1
    have hspace := hempty d mem_cons_self
    rw [hd, hc] at hspace
    cases hspace

theorem blank_iff (s : String) : blank s = true ↔ strip s = "" := by
  simp [blank, strip, String.ext_iff]

theorem isPySpace_of_isDigit {c : Char} (h : c.isDigit = true) : isPySpace c = false := by
  unfold Char.isDigit at h
  rw [Bool.and_eq_true, decide_eq_true_eq, decide_eq_true_eq] at h
  have hlo : 48 ≤ c.toNat := h.1
  have hhi : c.toNat ≤ 57 := h.2
  unfold isPySpace
  simp only [Bool.or_eq_false_iff, Bool.and_eq_false_iff, decide_eq_false_iff_not, beq_eq_false_iff_ne]
  omega

theorem stripChars_of_all {l : List Char} (h : ∀ c ∈ l, isPySpace c = false) : stripChars l = l := by
  unfold stripChars
  rw [rdropWhile_eq_self_iff.2 fun hne => ?_, dropWhile_eq_self_iff.2 fun hpos => ?_]
  · rw [h _ (getElem_mem _)]
    exact Bool.false_ne_true
  · rw [h _ (getLast_mem hne)]
    exact Bool.false_ne_true

theorem isPySpace_of_mem_repr {m : Nat} {c : Char} (h : c ∈ m.repr.toList) : isPySpace c = false := by
  rw [Nat.toList_repr] at h
  exact isPySpace_of_isDigit (Nat.isDigit_of_mem_toDigits (by decide) (by decide) h)

@[simp] theorem strip_toString (n : Int) : strip (toString n) = toString n := by
  have hchars : ∀ c ∈ (toString n).toList, isPySpace c = false := by
    cases n with
    | ofNat m => exact fun c hc => isPySpace_of_mem_repr hc
    | negSucc m =>
      intro c hc
      rw [show toString (Int.negSucc m) = "-" ++ (m + 1).repr from rfl, String.toList_append, mem_append] at hc
      rcases hc with hc | hc
      · rw [mem_singleton.1 hc]
        decide
      · exact isPySpace_of_mem_repr hc
  rw [strip, stripChars_of_all hchars, String.ofList_toList]

theorem toString_int_inj {m n : Int} (h : toString m = toString n) : m = n := by
  have hnat : ∀ {a b : Nat}, a.repr = b.repr → a = b := by
    intro a b hab
    have hdigits : Nat.toDigits 10 a = Nat.toDigits 10 b := by rw [← Nat.toList_repr, ← Nat.toList_repr, hab]
    have hvalue := congrArg (fun cs => Nat.ofDigitChars 10 cs 0) hdigits
    simpa using hvalue
  -- a digit is no minus sign
  have hsign : ∀ {a b : Nat}, a.repr ≠ "-" ++ b.repr := by
    intro a b hab
    have hmem : '-' ∈ a.repr.toList := by
      rw [hab, String.toList_append]
      exact mem_append_left _ (mem_singleton_self _)
    rw [Nat.toList_repr] at hmem
    exact absurd (Nat.isDigit_of_mem_toDigits (by decide) (by decide) hmem) (by decide)
  cases m with
  | ofNat a =>
    cases n with
    | ofNat b => exact congrArg Int.ofNat (hnat h)
    | negSucc b => exact absurd h hsign
  | negSucc a =>
    cases n with
    | ofNat b => exact absurd h.symm hsign
    | negSucc b =>
      have htail : (a + 1).repr = (b + 1).repr := by
        have hlist := congrArg String.toList h
        rw [show toString (Int.negSucc a) = "-" ++ (a + 1).repr from rfl,
          show toString (Int.negSucc b) = "-" ++ (b + 1).repr from rfl, String.toList_append, String.toList_append] at hlist
        exact String.toList_inj.1 (append_cancel_left hlist)
      exact congrArg Int.negSucc (Nat.succ.inj (hnat htail))
/-- **The case mappings of a Python**: full Unicode ones, of which nothing is used but that they are functions. -/
class CaseMap where
  upper : String → String
  lower : String → String

@[reducible] def asciiCase : CaseMap where
  upper s := String.ofList (s.toList.map Char.toUpper)
  lower s := String.ofList (s.toList.map Char.toLower)

def normalizeSymbol [CaseMap] (symbol : String) : String := CaseMap.upper (strip symbol)

@[simp] theorem normalizeSymbol_strip [CaseMap] (symbol : String) :
    normalizeSymbol (strip symbol) = normalizeSymbol symbol := by simp [normalizeSymbol]

/-- **A Python float.** -/
inductive PyFloat where
  | fin (q : ℚ)
  | posInf
  | negInf
  | nan
  deriving DecidableEq

namespace PyFloat

/-- The rational a finite float is; what `math.isfinite` lets through. -/
def rat? : PyFloat → Option ℚ
  | fin q => some q
  | _ => none

def isFinite (x : PyFloat) : Bool := x.rat?.isSome

/-- `x < y`: a NaN compares false with everything. -/
def lt : PyFloat → PyFloat → Bool
  | fin a, fin b => a < b
  | fin _, posInf | negInf, fin _ | negInf, posInf => true
  | _, _ => false

def le : PyFloat → PyFloat → Bool
  | nan, _ | _, nan => false
  | x, y => !y.lt x

def zero : PyFloat := fin 0

@[simp] theorem isFinite_iff (x : PyFloat) : x.isFinite = true ↔ ∃ q, x = fin q := by
  cases x <;> simp [isFinite, rat?]

@[simp] theorem lt_fin (a b : ℚ) : (fin a).lt (fin b) = decide (a < b) := rfl

@[simp] theorem le_fin (a b : ℚ) : (fin a).le (fin b) = decide (a ≤ b) := by
  have h : (fin a).le (fin b) = !decide (b < a) := rfl
  rw [h, ← decide_not, decide_eq_decide, not_lt]

end PyFloat

/-- The nearest integer, a tie to the even one. -/
def roundHalfEven (x : ℚ) : ℤ :=
  if x - x.floor < 1 / 2 then x.floor
  else if 1 / 2 < x - x.floor then x.floor + 1
  else if x.floor % 2 = 0 then x.floor else x.floor + 1

def pyRound (x : ℚ) (digits : ℕ) : ℚ := roundHalfEven (x * 10 ^ digits) / 10 ^ digits

/-- **The exceptions the modelled code tells apart**: the gateway's `PreSubmitOrderRejected`, every other `Exception`
(with `str(exc)`), and what is no `Exception` (a cancellation, an interrupt). -/
inductive PyExc where
  | preSubmitOrderRejected (message : String)
  | exception (message : String)
  | baseException
  deriving DecidableEq

def PyExc.str : PyExc → String
  | .preSubmitOrderRejected m | .exception m => m
  | .baseException => ""

/-- What `except Exception` catches. -/
def PyExc.isException : PyExc → Bool
  | .baseException => false
  | _ => true

theorem bind_ok {ε α β : Type} {x : Except ε α} {f : α → Except ε β} {b : β} (h : x >>= f = .ok b) :
    ∃ a, x = .ok a ∧ f a = .ok b := by
  cases x with
  | error e => cases h
  | ok a => exact ⟨a, rfl, h⟩

theorem except_bind_error {ε α β : Type} {x : Except ε α} {f : α → Except ε β} {e : ε} (h : x >>= f = .error e) :
    x = .error e ∨ ∃ a, x = .ok a ∧ f a = .error e := by
  cases x with
  | error e' =>
    cases h
    exact .inl rfl
  | ok a => exact .inr ⟨a, rfl, h⟩

theorem ok_bind {ε α β : Type} (a : α) (f : α → Except ε β) : Except.ok a >>= f = f a := rfl

theorem mapM_eq_ok {ε α β : Type} {f : α → Except ε β} : ∀ {l : List α} {r : List β},
    l.mapM f = .ok r ↔ l.map f = r.map .ok
  | [], r => ⟨fun h => by cases h; rfl, fun h => by rw [map_eq_nil_iff.1 h.symm]; rfl⟩
  | x :: l, r => by
    rw [mapM_cons]
    constructor
    · intro h
      obtain ⟨y, hy, h⟩ := bind_ok h
      obtain ⟨rest, hrest, h⟩ := bind_ok h
      cases h
      rw [map_cons, map_cons, hy, mapM_eq_ok.1 hrest]
    · intro h
      cases r with
      | nil => cases h
      | cons y rest =>
        rw [map_cons, map_cons, List.cons.injEq] at h
        rw [h.1, mapM_eq_ok.2 h.2]
        rfl

theorem mapM_ok {ε α β : Type} {f : α → Except ε β} {g : α → β} {l : List α} (h : ∀ x ∈ l, f x = .ok (g x)) :
    l.mapM f = .ok (l.map g) := by
  rw [mapM_eq_ok, map_map]
  exact map_congr_left h

/-- `d[k] = v`: a new key comes last, an old one keeps its place. -/
def dictSet {α : Type} : List (String × α) → String → α → List (String × α)
  | [], k, v => [(k, v)]
  | (k', v') :: d, k, v => if k' = k then (k, v) :: d else (k', v') :: dictSet d k v

theorem lookup_dictSet {α : Type} (k : String) (v : α) (k' : String) :
    ∀ d : List (String × α), (dictSet d k v).lookup k' = if k' = k then some v else d.lookup k'
  | [] => by
    by_cases h : k' = k
    · simp [dictSet, h]
    · simp [dictSet, h]
  | (k₀, v₀) :: d => by
    have ih := lookup_dictSet k v k' d
    unfold dictSet
    by_cases h₀ : k₀ = k
    · subst h₀
      by_cases h : k' = k₀
      · simp [h]
      · simp [lookup_cons, h, beq_false_of_ne h]
    · rw [if_neg h₀]
      by_cases h : k' = k₀
      · subst h
        simp [h₀]
      · simp only [lookup_cons, beq_false_of_ne h]
        exact ih

end Jqe
