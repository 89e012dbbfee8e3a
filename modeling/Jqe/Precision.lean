import Mathlib.Data.Int.Log
import Mathlib.Data.Rat.Floor
import Mathlib.Tactic.Positivity
import Jqe.PyBase
/-!
# Precision — numbers of finitely many digits

`Precision.round` rounds a rational to the significant digits of a base, half to even, with digits no smaller than a
least unit.  It is monotone, and it fixes what has few enough digits.
-/
namespace Jqe

/-! ### The nearest integer -/

theorem roundHalfEven_eq (x : ℚ) : roundHalfEven x =
    if x - ⌊x⌋ < 1 / 2 then ⌊x⌋
    else if 1 / 2 < x - ⌊x⌋ then ⌊x⌋ + 1
    else if ⌊x⌋ % 2 = 0 then ⌊x⌋ else ⌊x⌋ + 1 := rfl

theorem roundHalfEven_bounds (x : ℚ) : ⌊x⌋ ≤ roundHalfEven x ∧ roundHalfEven x ≤ ⌊x⌋ + 1 := by
  rw [roundHalfEven_eq]
  split
  · omega
  · split
    · omega
    · split <;> omega

theorem roundHalfEven_mono {x y : ℚ} (h : x ≤ y) : roundHalfEven x ≤ roundHalfEven y := by
  rcases (Int.floor_le_floor h).lt_or_eq with hlt | heq
  · have hx := (roundHalfEven_bounds x).2
    have hy := (roundHalfEven_bounds y).1
    omega
  · -- on one floor the fraction decides
    rw [roundHalfEven_eq, roundHalfEven_eq, ← heq]
    by_cases hx : x - ⌊x⌋ < 1 / 2
    · rw [if_pos hx]
      split
      · exact le_rfl
      · split
        · omega
        · split <;> omega
    · have hy : ¬y - ⌊x⌋ < 1 / 2 := by linarith
      rw [if_neg hx, if_neg hy]
      by_cases hx' : 1 / 2 < x - ⌊x⌋
      · rw [if_pos hx', if_pos (by linarith)]
      · rw [if_neg hx']
        by_cases hy' : 1 / 2 < y - ⌊x⌋
        · rw [if_pos hy']
          split <;> omega
        · rw [if_neg hy']

@[simp] theorem roundHalfEven_intCast (k : ℤ) : roundHalfEven (k : ℚ) = k := by
  rw [roundHalfEven_eq, Int.floor_intCast, sub_self, if_pos (by norm_num)]

theorem roundHalfEven_nonneg {x : ℚ} (h : 0 ≤ x) : 0 ≤ roundHalfEven x := by
  have hmono := roundHalfEven_mono h
  rwa [show (0 : ℚ) = ((0 : ℤ) : ℚ) by norm_num, roundHalfEven_intCast] at hmono

theorem roundHalfEven_nonpos {x : ℚ} (h : x ≤ 0) : roundHalfEven x ≤ 0 := by
  have hmono := roundHalfEven_mono h
  rwa [show (0 : ℚ) = ((0 : ℤ) : ℚ) by norm_num, roundHalfEven_intCast] at hmono

/-! ### Significant digits -/

structure Precision where
  base : ℕ
  digits : ℕ
  least : ℤ
  base_gt : 1 < base
  digits_pos : 0 < digits

namespace Precision

variable (P : Precision)

/-- The exponent of the last digit that is kept. -/
def unit (x : ℚ) : ℤ := max (Int.log P.base |x| + 1 - P.digits) P.least

/-- **The nearest number of the precision**, a tie to the even one. -/
def round (x : ℚ) : ℚ := roundHalfEven (x / (P.base : ℚ) ^ P.unit x) * (P.base : ℚ) ^ P.unit x

/-- A number of the precision. -/
def Exact (x : ℚ) : Prop := P.round x = x

variable {P} {x y : ℚ}

theorem pow_pos (e : ℤ) : 0 < (P.base : ℚ) ^ e := zpow_pos (by exact_mod_cast (Nat.zero_lt_of_lt P.base_gt)) e

@[simp] theorem round_zero : P.round 0 = 0 := by
  unfold round
  rw [zero_div, show (0 : ℚ) = ((0 : ℤ) : ℚ) by norm_num, roundHalfEven_intCast]
  norm_num

theorem round_nonneg (h : 0 ≤ x) : 0 ≤ P.round x :=
  mul_nonneg (by exact_mod_cast roundHalfEven_nonneg (div_nonneg h (pow_pos _).le)) (pow_pos _).le

theorem round_nonpos (h : x ≤ 0) : P.round x ≤ 0 :=
  mul_nonpos_of_nonpos_of_nonneg
    (by exact_mod_cast roundHalfEven_nonpos (div_nonpos_of_nonpos_of_nonneg h (pow_pos _).le)) (pow_pos _).le

theorem exact_of_mul_unit {k : ℤ} (h : x = k * (P.base : ℚ) ^ P.unit x) : P.Exact x := by
  unfold Exact round
  have hk : x / (P.base : ℚ) ^ P.unit x = k := by
    rw [div_eq_iff (pow_pos _).ne']
    exact h
  rw [hk, roundHalfEven_intCast]
  exact h.symm

theorem log_mono (hx : 0 < x) (h : x ≤ y) : Int.log P.base x ≤ Int.log P.base y := Int.log_mono_right hx h

theorem unit_mono (hx : 0 < x) (h : x ≤ y) : P.unit x ≤ P.unit y := by
  unfold unit
  rw [abs_of_pos hx, abs_of_pos (hx.trans_le h)]
  have hlog := P.log_mono hx h
  omega

theorem pow_eq_mul {u e : ℤ} (h : u ≤ e) : (P.base : ℚ) ^ e = ((P.base ^ (e - u).toNat : ℕ) : ℤ) * (P.base : ℚ) ^ u := by
  have hne : (P.base : ℚ) ≠ 0 := by exact_mod_cast (Nat.zero_lt_of_lt P.base_gt).ne'
  push_cast
  rw [← zpow_natCast, Int.toNat_of_nonneg (by omega), ← zpow_add₀ hne]
  congr 1
  omega

theorem round_le_pow {e : ℤ} (h : x ≤ (P.base : ℚ) ^ e) (hu : P.unit x ≤ e) :
    P.round x ≤ (P.base : ℚ) ^ e := by
  unfold round
  rw [pow_eq_mul hu] at h ⊢
  have hdiv : x / (P.base : ℚ) ^ P.unit x ≤ (((P.base ^ (e - P.unit x).toNat : ℕ) : ℤ) : ℚ) := by
    rw [div_le_iff₀ (pow_pos _)]
    exact h
  have hround := roundHalfEven_mono hdiv
  rw [roundHalfEven_intCast] at hround
  exact mul_le_mul_of_nonneg_right (by exact_mod_cast hround) (pow_pos _).le

theorem pow_le_round {e : ℤ} (h : (P.base : ℚ) ^ e ≤ x) (hu : P.unit x ≤ e) : (P.base : ℚ) ^ e ≤ P.round x := by
  unfold round
  rw [pow_eq_mul hu] at h ⊢
  have hdiv : (((P.base ^ (e - P.unit x).toNat : ℕ) : ℤ) : ℚ) ≤ x / (P.base : ℚ) ^ P.unit x := by
    rw [le_div_iff₀ (pow_pos _)]
    exact h
  have hround := roundHalfEven_mono hdiv
  rw [roundHalfEven_intCast] at hround
  exact mul_le_mul_of_nonneg_right (by exact_mod_cast hround) (pow_pos _).le

theorem round_mono (hx : 0 < x) (h : x ≤ y) : P.round x ≤ P.round y := by
  rcases (P.unit_mono hx h).lt_or_eq with hlt | heq
  · -- a power of the base lies between, and rounding does not cross it
    have hy : 0 < y := hx.trans_le h
    have hdigits := P.digits_pos
    have hunit : P.unit y = Int.log P.base y + 1 - P.digits := by
      unfold unit at hlt ⊢
      rw [abs_of_pos hx, abs_of_pos hy] at hlt
      rw [abs_of_pos hy]
      omega
    have hlog : Int.log P.base x + 1 ≤ Int.log P.base y := by
      unfold unit at hlt
      rw [abs_of_pos hx, abs_of_pos hy] at hlt
      omega
    have hxle : x ≤ (P.base : ℚ) ^ Int.log P.base y := by
      have hlt' := Int.lt_zpow_succ_log_self P.base_gt x
      refine hlt'.le.trans (zpow_le_zpow_right₀ ?_ hlog)
      exact_mod_cast P.base_gt.le
    have hyle : (P.base : ℚ) ^ Int.log P.base y ≤ y := Int.zpow_log_le_self P.base_gt hy
    exact (round_le_pow hxle (by omega)).trans (pow_le_round hyle (by omega))
  · unfold round
    rw [heq]
    refine mul_le_mul_of_nonneg_right ?_ (pow_pos _).le
    exact_mod_cast roundHalfEven_mono (div_le_div_of_nonneg_right h (pow_pos _).le)

theorem round_mono_of_nonneg (hx : 0 ≤ x) (h : x ≤ y) : P.round x ≤ P.round y := by
  rcases hx.lt_or_eq with hpos | rfl
  · exact round_mono hpos h
  · rw [round_zero]
    exact round_nonneg h

theorem exact_of_mul_pow {k e : ℤ} (h : x = k * (P.base : ℚ) ^ e) (he : P.unit x ≤ e) : P.Exact x := by
  refine @exact_of_mul_unit P x (k * ((P.base ^ (e - P.unit x).toNat : ℕ) : ℤ)) ?_
  rw [pow_eq_mul he] at h
  push_cast at h ⊢
  rw [mul_assoc]
  exact h

theorem exact_round (hx : 0 < x) : P.Exact (P.round x) := by
  have hdigits := P.digits_pos
  have hround : P.round x = roundHalfEven (x / (P.base : ℚ) ^ P.unit x) * (P.base : ℚ) ^ P.unit x := rfl
  rcases (round_nonneg (P := P) hx.le).lt_or_eq with hpos | hzero
  · have hxlt := Int.lt_zpow_succ_log_self P.base_gt x
    have hlog : P.unit x ≤ Int.log P.base x + 1 ∨ Int.log P.base x + 1 < P.least := by
      unfold unit
      rw [abs_of_pos hx]
      omega
    rcases hlog with hlog | hsmall
    · have hle := round_le_pow hxlt.le hlog
      rcases hle.lt_or_eq with hlt | heq
      · -- the digits are those of `x`
        refine exact_of_mul_pow hround ?_
        have hlog' := (Int.lt_zpow_iff_log_lt P.base_gt hpos).1 hlt
        unfold unit
        rw [abs_of_pos hpos, abs_of_pos hx]
        omega
      · -- the rounding carried to a power of the base
        refine @exact_of_mul_pow P _ 1 (Int.log P.base x + 1) (by rw [heq]; norm_num) ?_
        have hlog' : Int.log P.base (P.round x) = Int.log P.base x + 1 := by rw [heq, Int.log_zpow P.base_gt]
        unfold unit at hlog ⊢
        rw [abs_of_pos hx] at hlog
        rw [abs_of_pos hpos, hlog']
        omega
    · have hunit : P.unit x = P.least := by
        unfold unit
        rw [abs_of_pos hx]
        omega
      have hle : P.round x ≤ (P.base : ℚ) ^ P.least := by
        refine round_le_pow (hxlt.le.trans (zpow_le_zpow_right₀ ?_ hsmall.le)) hunit.le
        exact_mod_cast P.base_gt.le
      refine exact_of_mul_pow hround ?_
      have hlog' := Int.log_mono_right (b := P.base) hpos hle
      rw [Int.log_zpow P.base_gt] at hlog'
      rw [hunit]
      unfold unit
      rw [abs_of_pos hpos]
      omega
  · rw [← hzero]
    exact round_zero

end Precision

end Jqe
