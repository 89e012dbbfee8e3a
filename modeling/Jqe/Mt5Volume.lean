import Jqe.Mt5Order
import Jqe.Precision
/-!
# Mt5Volume — what `_normalize_volume` returns

The volume is a step multiple at or below the request, up to two tolerances, rounded to eight decimals.
-/
namespace Jqe

/-! ### Rounding to decimals -/

theorem roundHalfEven_near (x : ℚ) : |(roundHalfEven x : ℚ) - x| ≤ 1 / 2 := by
  have hlo : ((⌊x⌋ : ℤ) : ℚ) ≤ x := Int.floor_le x
  have hhi : x < ⌊x⌋ + 1 := Int.lt_floor_add_one x
  rw [roundHalfEven_eq, abs_le]
  split
  · constructor <;> linarith
  · split
    · rw [Int.cast_add, Int.cast_one]
      constructor <;> linarith
    · have hhalf : x - ⌊x⌋ = 1 / 2 := by linarith
      split
      · constructor <;> linarith
      · rw [Int.cast_add, Int.cast_one]
        constructor <;> linarith

theorem pyRound_near (x : ℚ) (digits : ℕ) : |pyRound x digits - x| ≤ 1 / (2 * 10 ^ digits) := by
  have hpos : (0 : ℚ) < 10 ^ digits := by positivity
  have hdiff : pyRound x digits - x = (roundHalfEven (x * 10 ^ digits) - x * 10 ^ digits) / 10 ^ digits := by
    unfold pyRound
    field_simp
  rw [hdiff, abs_div, abs_of_pos hpos, div_le_iff₀ hpos]
  have hnear := roundHalfEven_near (x * 10 ^ digits)
  have hhalf : 1 / (2 * 10 ^ digits) * (10 : ℚ) ^ digits = 1 / 2 := by field_simp
  rwa [hhalf]

theorem pyRound_of_unit (k : ℤ) (digits : ℕ) : pyRound (k / 10 ^ digits) digits = k / 10 ^ digits := by
  have hpos : (10 : ℚ) ^ digits ≠ 0 := by positivity
  unfold pyRound
  rw [div_mul_cancel₀ _ hpos, roundHalfEven_intCast]

namespace MT5Gateway

def volumeTiny : ℚ := 1 / 10 ^ 12

/-- The greatest multiple of a step at or below a volume. -/
def stepFloor (volume step : ℚ) : ℚ := ⌊volume / step⌋ * step

theorem stepFloor_le {volume step : ℚ} (hstep : 0 < step) : stepFloor volume step ≤ volume := by
  have hfloor := mul_le_mul_of_nonneg_right (Int.floor_le (volume / step)) hstep.le
  rwa [div_mul_cancel₀ _ hstep.ne'] at hfloor

theorem le_stepFloor {volume step : ℚ} (hstep : 0 < step) {n : ℤ} (h : n * step ≤ volume) :
    n * step ≤ stepFloor volume step := by
  refine mul_le_mul_of_nonneg_right ?_ hstep.le
  exact_mod_cast Int.le_floor.2 ((le_div_iff₀ hstep).2 h)

theorem pyRound_stepFloor {volume step : ℚ} {k : ℤ} (hstep : step = k / 10 ^ 8) :
    pyRound (stepFloor volume step) 8 = stepFloor volume step := by
  have hunit : stepFloor volume step = ((⌊volume / step⌋ * k : ℤ) : ℚ) / 10 ^ 8 := by
    unfold stepFloor
    rw [hstep]
    push_cast
    ring
  rw [hunit, pyRound_of_unit]

theorem normalizeVolume_eq_ok {requested v : ℚ} {info : Mt5SymbolInfo} (h : normalizeVolume requested info = .ok v) :
    0 < requested ∧ 0 < info.volumeStep.getD 0 ∧ info.volumeMin.getD 0 ≤ requested + volumeTiny ∧
      requested ≤ info.volumeMax.getD 0 + volumeTiny ∧ info.volumeMin.getD 0 ≤ v + volumeTiny ∧
      v = pyRound (stepFloor (requested + volumeTiny) (info.volumeStep.getD 0)) 8 := by
  unfold normalizeVolume at h
  dsimp only at h
  split at h
  · cases h
  · rename_i hvalid
    rw [not_or, not_or, not_or, not_le, not_le, not_lt, not_le] at hvalid
    split at h
    · cases h
    · rename_i hmin
      split at h
      · cases h
      · rename_i hmax
        split at h
        · cases h
        · rename_i hnormal
          cases h
          exact ⟨hvalid.1, hvalid.2.2.2, not_lt.1 hmin, not_lt.1 hmax, not_lt.1 hnormal, rfl⟩

/-- **`_normalize_volume` returns the greatest step multiple at or below the request**, up to its tolerance and rounded
to eight decimals, or raises. -/
theorem normalizeVolume_floor (requested : ℚ) (info : Mt5SymbolInfo) :
    (∀ v, normalizeVolume requested info = .ok v →
      info.volumeMin.getD 0 - volumeTiny ≤ v ∧
      |v - stepFloor (requested + volumeTiny) (info.volumeStep.getD 0)| ≤ 1 / (2 * 10 ^ 8) ∧
      ((∃ k : ℤ, info.volumeStep.getD 0 = k / 10 ^ 8) →
        v ≤ requested + volumeTiny ∧ v ≤ info.volumeMax.getD 0 + 2 * volumeTiny ∧
          (∃ n : ℤ, v = n * info.volumeStep.getD 0) ∧
          ∀ n : ℤ, n * info.volumeStep.getD 0 ≤ requested + volumeTiny → n * info.volumeStep.getD 0 ≤ v)) ∧
    ((∀ n : ℤ, n * info.volumeStep.getD 0 ≤ requested + volumeTiny →
        n * info.volumeStep.getD 0 + 1 / (2 * 10 ^ 8) < info.volumeMin.getD 0 - volumeTiny) →
      ∃ e, normalizeVolume requested info = .error e) ∧
    ((∃ k : ℤ, info.volumeStep.getD 0 = k / 10 ^ 8) →
      (∀ n : ℤ, n * info.volumeStep.getD 0 ≤ requested + volumeTiny →
        n * info.volumeStep.getD 0 < info.volumeMin.getD 0 - volumeTiny) →
      ∃ e, normalizeVolume requested info = .error e) := by
  have raised : (∀ v, normalizeVolume requested info ≠ .ok v) → ∃ e, normalizeVolume requested info = .error e := by
    intro hnot
    cases hout : normalizeVolume requested info with
    | error e => exact ⟨e, rfl⟩
    | ok v => exact absurd hout (hnot v)
  refine ⟨fun v hv => ?_, fun hnone => raised fun v hv => ?_, fun ⟨k, hk⟩ hnone => raised fun v hv => ?_⟩
  · obtain ⟨_, hstep, _, hmax, hmin, rfl⟩ := normalizeVolume_eq_ok hv
    refine ⟨by linarith, pyRound_near _ 8, fun ⟨k, hk⟩ => ?_⟩
    rw [pyRound_stepFloor hk]
    have hle : stepFloor (requested + volumeTiny) (info.volumeStep.getD 0) ≤ requested + volumeTiny :=
      stepFloor_le hstep
    exact ⟨hle, by linarith, ⟨_, rfl⟩, fun n hn => le_stepFloor hstep hn⟩
  · obtain ⟨_, hstep, _, _, hmin, rfl⟩ := normalizeVolume_eq_ok hv
    have hfloor := hnone _ (stepFloor_le hstep)
    have hnear := (abs_le.1 (pyRound_near (stepFloor (requested + volumeTiny) (info.volumeStep.getD 0)) 8)).2
    unfold stepFloor at hnear hmin
    linarith
  · obtain ⟨_, hstep, _, _, hmin, rfl⟩ := normalizeVolume_eq_ok hv
    rw [pyRound_stepFloor hk] at hmin
    have hfloor := hnone _ (stepFloor_le hstep)
    unfold stepFloor at hmin
    linarith

def stepInfo (minimum maximum step : ℚ) : Mt5SymbolInfo where
  tradeMode := none
  volumeMin := some minimum
  volumeMax := some maximum
  volumeStep := some step
  fillingMode := none
  tradeExemode := none
  digits := 2
  point := 1 / 100
  tradeStopsLevel := 0

theorem normalizeVolume_floor_cents : normalizeVolume (127 / 10000) (stepInfo (1 / 100) 10 (1 / 100)) = .ok (1 / 100) ∧
    (1 / 100 : ℚ) ≤ 127 / 10000 + volumeTiny ∧
    ∃ e, normalizeVolume (1 / 100) (stepInfo (2 / 100) 10 (1 / 100)) = .error e := by
  have hok : normalizeVolume (127 / 10000) (stepInfo (1 / 100) 10 (1 / 100)) = .ok (1 / 100) := by decide +kernel
  have hcents : (1 / 100 : ℚ) = (1000000 : ℤ) / 10 ^ 8 := by norm_num
  refine ⟨hok, (((normalizeVolume_floor _ _).1 _ hok).2.2 ⟨1000000, hcents⟩).1,
    (normalizeVolume_floor _ _).2.2 ⟨1000000, hcents⟩ fun n hn => ?_⟩
  have hn' : (n : ℚ) * (1 / 100) ≤ 1 / 100 + 1 / 10 ^ 12 := hn
  have hlt : (n : ℚ) < 2 := by linarith
  have hone : n ≤ 1 := Int.lt_add_one_iff.1 (by exact_mod_cast hlt)
  have hone' : (n : ℚ) ≤ 1 := by exact_mod_cast hone
  change (n : ℚ) * (1 / 100) < 2 / 100 - 1 / 10 ^ 12
  linarith

/-- **The tolerances and the rounding show**: a volume above the maximum and its tolerance, one above the request where
no multiple is at or below it, and one that is no multiple and above the request. -/
theorem normalizeVolume_over :
    (normalizeVolume (1 - 1 / (2 * 10 ^ 12)) (stepInfo (1 / 2) (1 - 3 / (2 * 10 ^ 12)) 1) = .ok 1 ∧
      (1 - 3 / (2 * 10 ^ 12) : ℚ) + volumeTiny < 1) ∧
    (normalizeVolume (1 - 1 / (2 * 10 ^ 12)) (stepInfo 1 1 1) = .ok 1 ∧
      ∀ n : ℤ, n * 1 ≤ (1 - 1 / (2 * 10 ^ 12) : ℚ) → (n * 1 : ℚ) < 1 - volumeTiny) ∧
    normalizeVolume (16 / 10 ^ 9) (stepInfo (16 / 10 ^ 9) 1 (16 / 10 ^ 9)) = .ok (2 / 10 ^ 8) ∧
      (16 / 10 ^ 9 : ℚ) + volumeTiny < 2 / 10 ^ 8 ∧ ∀ n : ℤ, (2 / 10 ^ 8 : ℚ) ≠ n * (16 / 10 ^ 9) := by
  refine ⟨⟨by decide +kernel, by decide +kernel⟩, ⟨by decide +kernel, fun n hn => ?_⟩, by decide +kernel,
    by decide +kernel, fun n hn => ?_⟩
  · have hlt : (n : ℚ) < 1 := by linarith
    have hzero : n ≤ 0 := Int.lt_add_one_iff.1 (by exact_mod_cast hlt)
    have hzero' : (n : ℚ) ≤ 0 := by exact_mod_cast hzero
    unfold volumeTiny
    linarith
  · have hfour : (5 : ℚ) = 4 * n := by linarith
    have hint : (5 : ℤ) = 4 * n := by exact_mod_cast hfour
    omega

end MT5Gateway

end Jqe
