import Mathlib.Data.Nat.Digits.Lemmas
import Mathlib.Algebra.Order.Field.Power
/-!
# DecimalText — the texts of finite decimals

A decimal is a sign, a coefficient and an exponent.  `toEngString` writes it in the parts of its text, with an exponent
that is a multiple of three if any; reading the text gives a decimal of the same value that is written the same way.
-/
namespace DecimalText

open List

/-- A finite `Decimal`. -/
@[ext] structure Dec where
  negative : Bool
  coefficient : ℕ
  exponent : ℤ
  deriving DecidableEq

/-- The parts of a decimal's text: the digits before and after the point, the exponent after `E`. -/
structure Parts where
  negative : Bool
  whole : List ℕ
  fraction : List ℕ
  exponent : Option ℤ
  deriving DecidableEq

namespace Dec

def value (d : Dec) : ℚ := (if d.negative then -1 else 1) * d.coefficient * 10 ^ d.exponent

/-- The digits of the coefficient, the first one first. -/
def digits (n : ℕ) : List ℕ := if n = 0 then [0] else (Nat.digits 10 n).reverse

/-- Where the digits would end with exponent 0. -/
def leftDigits (d : Dec) : ℤ := d.exponent + (digits d.coefficient).length

def dotPlace (d : Dec) : ℤ :=
  if d.exponent ≤ 0 ∧ -6 < d.leftDigits then d.leftDigits
  else if d.coefficient = 0 then (d.leftDigits + 1) % 3 - 1
  else (d.leftDigits - 1) % 3 + 1

def toEngString (d : Dec) : Parts :=
  let ds := digits d.coefficient
  let exponent := if d.leftDigits = d.dotPlace then none else some (d.leftDigits - d.dotPlace)
  if d.dotPlace ≤ 0 then ⟨d.negative, [0], List.replicate (-d.dotPlace).toNat 0 ++ ds, exponent⟩
  else if ds.length ≤ d.dotPlace then
    ⟨d.negative, ds ++ List.replicate (d.dotPlace - ds.length).toNat 0, [], exponent⟩
  else ⟨d.negative, ds.take d.dotPlace.toNat, ds.drop d.dotPlace.toNat, exponent⟩

end Dec

def Parts.read (t : Parts) : Dec :=
  ⟨t.negative, Nat.ofDigits 10 (t.whole ++ t.fraction).reverse, t.exponent.getD 0 - t.fraction.length⟩

def Parts.text (t : Parts) : String :=
  let chars (ds : List ℕ) : List Char := ds.map Nat.digitChar
  String.ofList ((if t.negative then ['-'] else []) ++ chars t.whole ++
    (if t.fraction.isEmpty then [] else '.' :: chars t.fraction) ++
    match t.exponent with
    | none => []
    | some e => 'E' :: (if e < 0 then '-' else '+') :: (toString e.natAbs).toList)

namespace Dec

theorem digits_length_pos (n : ℕ) : 0 < (digits n).length := by
  unfold digits
  split
  · exact Nat.one_pos
  · rename_i h
    rw [length_reverse]
    exact length_pos_of_ne_nil (Nat.digits_ne_nil_iff_ne_zero.2 h)

theorem ofDigits_digits (n : ℕ) : Nat.ofDigits 10 (digits n).reverse = n := by
  unfold digits
  split
  · rename_i h
    rw [h]
    rfl
  · rw [reverse_reverse, Nat.ofDigits_digits]

theorem digits_shift {n k : ℕ} (hn : n ≠ 0) : digits (n * 10 ^ k) = digits n ++ List.replicate k 0 := by
  have hpos : 0 < n := Nat.pos_of_ne_zero hn
  unfold digits
  rw [if_neg hn, if_neg (Nat.mul_ne_zero hn (pow_ne_zero k (by decide))), Nat.mul_comm,
    Nat.digits_base_pow_mul (by decide) hpos, reverse_append, reverse_replicate]

theorem ofDigits_zeros_append (k : ℕ) (ds : List ℕ) :
    Nat.ofDigits 10 (List.replicate k 0 ++ ds).reverse = Nat.ofDigits 10 ds.reverse := by
  rw [reverse_append, Nat.ofDigits_append, reverse_replicate, Nat.ofDigits_replicate_zero, Nat.mul_zero,
    Nat.add_zero]

theorem ofDigits_append_zeros (k : ℕ) (ds : List ℕ) :
    Nat.ofDigits 10 (ds ++ List.replicate k 0).reverse = Nat.ofDigits 10 ds.reverse * 10 ^ k := by
  rw [reverse_append, Nat.ofDigits_append, reverse_replicate, Nat.ofDigits_replicate_zero, Nat.zero_add,
    length_replicate, Nat.mul_comm]

theorem getD_exponent (d : Dec) :
    (if d.leftDigits = d.dotPlace then none else some (d.leftDigits - d.dotPlace)).getD 0 = d.leftDigits - d.dotPlace := by
  split
  · rename_i h
    rw [h, Int.sub_self]
    rfl
  · rfl

theorem read_toEngString (d : Dec) : d.toEngString.read = d ∨
    ((digits d.coefficient).length < d.dotPlace ∧ d.toEngString.read = ⟨d.negative,
      d.coefficient * 10 ^ (d.dotPlace - (digits d.coefficient).length).toNat, d.leftDigits - d.dotPlace⟩) := by
  unfold toEngString Parts.read
  dsimp only
  have hleft : d.leftDigits = d.exponent + (digits d.coefficient).length := rfl
  split
  · rename_i hdot
    refine .inl ?_
    dsimp only
    rw [getD_exponent, length_append, length_replicate, cons_append, nil_append, reverse_cons,
      Nat.ofDigits_append, ofDigits_zeros_append, ofDigits_digits]
    refine Dec.ext rfl (by simp) ?_
    dsimp only
    push_cast
    omega
  · split
    · rename_i hdot hlen
      dsimp only
      rw [getD_exponent, append_nil, ofDigits_append_zeros, ofDigits_digits, length_nil]
      by_cases heq : ((digits d.coefficient).length : ℤ) = d.dotPlace
      · refine .inl ?_
        refine Dec.ext rfl ?_ ?_
        · dsimp only
          rw [← heq]
          simp
        · dsimp only
          push_cast
          omega
      · exact .inr ⟨by omega, by simp⟩
    · rename_i hdot hlen
      refine .inl ?_
      dsimp only
      rw [getD_exponent, take_append_drop, ofDigits_digits, length_drop]
      refine Dec.ext rfl rfl ?_
      dsimp only
      omega

theorem value_read (d : Dec) : d.toEngString.read.value = d.value := by
  rcases read_toEngString d with h | ⟨hlt, h⟩
  · rw [h]
  · rw [h]
    unfold value
    dsimp only
    have hexp : d.exponent = (d.dotPlace - (digits d.coefficient).length).toNat + (d.leftDigits - d.dotPlace) := by
      have hleft : d.leftDigits = d.exponent + (digits d.coefficient).length := rfl
      omega
    conv_rhs => rw [hexp, zpow_add₀ (by norm_num), zpow_natCast]
    push_cast
    ring

theorem toEngString_read (d : Dec) : d.toEngString.read.toEngString = d.toEngString := by
  rcases read_toEngString d with h | ⟨hlt, h⟩
  · rw [h]
  · have hlen := digits_length_pos d.coefficient
    have hleft : d.leftDigits = d.exponent + (digits d.coefficient).length := rfl
    -- the digits stop before the point, so the exponent is positive or the number is below one millionth
    have hbranch : ¬(d.exponent ≤ 0 ∧ -6 < d.leftDigits) := by
      intro hin
      have hdot : d.dotPlace = d.leftDigits := by rw [dotPlace, if_pos hin]
      omega
    have hzero : d.coefficient ≠ 0 := by
      intro hz
      have hone : (digits d.coefficient).length = 1 := by rw [hz]; rfl
      have hdot : d.dotPlace = (d.leftDigits + 1) % 3 - 1 := by rw [dotPlace, if_neg hbranch, if_pos hz]
      omega
    have hdot : d.dotPlace = (d.leftDigits - 1) % 3 + 1 := by rw [dotPlace, if_neg hbranch, if_neg hzero]
    obtain ⟨r, hr⟩ : ∃ r, r = d.toEngString.read := ⟨_, rfl⟩
    have hr' := hr.trans h
    have hdigits : digits r.coefficient = digits d.coefficient ++
        List.replicate (d.dotPlace - (digits d.coefficient).length).toNat 0 := by
      rw [hr']
      exact digits_shift hzero
    have hrlen : ((digits r.coefficient).length : ℤ) = d.dotPlace := by
      rw [hdigits, length_append, length_replicate]
      push_cast
      omega
    have hrleft : r.leftDigits = d.leftDigits := by
      rw [leftDigits, hrlen, hr']
      dsimp only
      omega
    have hrzero : r.coefficient ≠ 0 := by
      rw [hr']
      exact Nat.mul_ne_zero hzero (pow_ne_zero _ (by decide))
    have hrexp : r.exponent = d.leftDigits - d.dotPlace := by rw [hr']
    have hrdot : r.dotPlace = d.dotPlace := by
      rw [dotPlace, hrleft]
      by_cases hin : r.exponent ≤ 0 ∧ -6 < d.leftDigits
      · rw [if_pos hin]
        omega
      · rw [if_neg hin, if_neg hrzero, hdot]
    rw [← hr]
    unfold toEngString
    dsimp only
    have hpoint : ¬d.dotPlace ≤ 0 := by omega
    have hrle : ((digits r.coefficient).length : ℤ) ≤ d.dotPlace := by omega
    have hle : ((digits d.coefficient).length : ℤ) ≤ d.dotPlace := by omega
    have hnone : (d.dotPlace - ((digits r.coefficient).length : ℤ)).toNat = 0 := by
      rw [hrlen, Int.sub_self]
      rfl
    have hneg : r.negative = d.negative := by rw [hr']
    simp only [hrleft, hrdot, hneg, if_neg hpoint, if_pos hrle, if_pos hle, hnone, replicate_zero, append_nil]
    rw [hdigits]

end Dec

example : (⟨false, 123, 1⟩ : Dec).toEngString.text = "1.23E+3" := by decide

example : [(⟨false, 1, 1⟩ : Dec), ⟨true, 0, 1⟩, ⟨false, 100, -2⟩, ⟨false, 1, -10⟩].map (·.toEngString.text) =
    ["10", "-0.00E+3", "1.00", "100E-12"] := by decide

end DecimalText
