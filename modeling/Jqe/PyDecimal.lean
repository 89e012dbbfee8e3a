import Jqe.Precision
/-!
# PyDecimal — the default `decimal` context and the floats

A finite `Decimal` is a rational, and so is a finite float.  An operation of the default context rounds its exact result
to 28 digits, half to even; a conversion to `float` rounds to 53 bits.
-/
namespace Jqe

/-- The 28 digits of the default context, down to `Etiny`. -/
def decimalPrecision : Precision := ⟨10, 28, -1000026, by norm_num, by norm_num⟩

/-- The 53 bits of a float, down to the least subnormal. -/
def doublePrecision : Precision := ⟨2, 53, -1074, by norm_num, by norm_num⟩

/-- **The result of an operation**: rounded, and beyond `Emax` the trap `Overflow`. -/
def decimalOp (exact : ℚ) : Except PyExc ℚ :=
  if 1000000 ≤ Int.log 10 |decimalPrecision.round exact| then .error (.exception "[<class 'decimal.Overflow'>]")
  else .ok (decimalPrecision.round exact)

def toFloat (d : ℚ) : PyFloat :=
  if 1024 ≤ Int.log 2 |doublePrecision.round d| then if 0 < d then .posInf else .negInf
  else .fin (doublePrecision.round d)

theorem decimalOp_ok {exact y : ℚ} (h : decimalOp exact = .ok y) : y = decimalPrecision.round exact := by
  unfold decimalOp at h
  split at h
  · cases h
  · exact (Except.ok.inj h).symm

theorem toFloat_fin {d x : ℚ} (h : toFloat d = .fin x) : x = doublePrecision.round d := by
  unfold toFloat at h
  split at h
  · split at h <;> cases h
  · exact (PyFloat.fin.inj h).symm

theorem toFloat_ne_negInf {d : ℚ} (h : 0 ≤ d) : toFloat d ≠ .negInf := by
  intro hinf
  unfold toFloat at hinf
  split at hinf
  · rename_i hbig
    rcases h.lt_or_eq with hpos | rfl
    · rw [if_pos hpos] at hinf
      cases hinf
    · rw [Precision.round_zero, abs_zero, Int.log_zero_right] at hbig
      omega
  · cases hinf

theorem toFloat_mono {c d y : ℚ} (hc : 0 ≤ c) (h : c ≤ d) (hd : toFloat d = .fin y) :
    ∃ x, toFloat c = .fin x ∧ x ≤ y := by
  have hle := Precision.round_mono_of_nonneg (P := doublePrecision) hc h
  have hnonneg := Precision.round_nonneg (P := doublePrecision) hc
  have hsmall : ¬1024 ≤ Int.log 2 |doublePrecision.round c| := by
    intro hbig
    unfold toFloat at hd
    split at hd
    · split at hd <;> cases hd
    · rename_i hfinite
      rw [abs_of_nonneg (hnonneg.trans hle)] at hfinite
      rw [abs_of_nonneg hnonneg] at hbig
      rcases hnonneg.lt_or_eq with hpos | hzero
      · have hlog := Int.log_mono_right (b := 2) hpos hle
        omega
      · rw [← hzero, Int.log_zero_right] at hbig
        omega
  refine ⟨doublePrecision.round c, ?_, ?_⟩
  · unfold toFloat
    rw [if_neg hsmall]
  · rw [toFloat_fin hd]
    exact hle

/-! ### Operations on any `Decimal`

A `Decimal` that may be infinite or a NaN is written as a `PyFloat` is. -/

def invalidOperation {α : Type} : Except PyExc α := .error (.exception "[<class 'decimal.InvalidOperation'>]")

def PyFloat.neg : PyFloat → PyFloat
  | .fin q => .fin (-q)
  | .posInf => .negInf
  | .negInf => .posInf
  | .nan => .nan

def decimalMul (a b : PyFloat) : Except PyExc PyFloat :=
  match a, b with
  | .nan, _ | _, .nan => .ok .nan
  | .fin p, .fin q => .fin <$> decimalOp (p * q)
  | .fin p, x | x, .fin p => if p = 0 then invalidOperation else .ok (if 0 < p then x else x.neg)
  | x, y => .ok (if x = y then .posInf else .negInf)

def decimalSub (a b : PyFloat) : Except PyExc PyFloat :=
  match a, b with
  | .nan, _ | _, .nan => .ok .nan
  | .fin p, .fin q => .fin <$> decimalOp (p - q)
  | .fin _, x => .ok x.neg
  | x, .fin _ => .ok x
  | x, y => if x = y then invalidOperation else .ok x

/-- `a / d`, of a finite `d > 0`. -/
def decimalDiv (a : PyFloat) (d : ℚ) : Except PyExc PyFloat :=
  match a with
  | .fin p => .fin <$> decimalOp (p / d)
  | x => .ok x

def decimalAbs (a : PyFloat) : Except PyExc PyFloat :=
  match a with
  | .fin p => .fin <$> decimalOp |p|
  | .nan => .ok .nan
  | _ => .ok .posInf

def decimalFloat : PyFloat → PyFloat
  | .fin q => toFloat q
  | x => x

/-- `round(x, 2)`, of a float: the float nearest to the nearest cent, half to even. -/
def roundCents : PyFloat → PyFloat
  | .fin x => toFloat (pyRound x 2)
  | x => x

end Jqe
