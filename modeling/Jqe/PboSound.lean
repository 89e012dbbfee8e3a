import Jqe.Pbo
import Mathlib.Data.List.Sort
/-!
# PboSound — what the probability of backtest overfitting is

The share is the one of the splits whose first in-sample maximiser has a mid-rank of at most half, and it is one of the
orders of the rows alone.
-/
namespace Jqe
namespace Pbo

open MidRank List

/-! ### One split -/

/-- **A split whose selection degrades**: its first in-sample maximiser has an out-of-sample mid-rank of at most half. -/
def Degraded (nModels : ℕ) (s : List ℚ × List ℚ) : Prop :=
  ∃ m best selected, IsFirstMax s.1 m best ∧ s.2[m]? = some selected ∧ midRank s.2 selected ≤ ((nModels : ℚ) + 1) / 2

variable {nModels : ℕ} {s : List ℚ × List ℚ}

theorem selection (hpos : 0 < nModels) (hshape : s.1.length = nModels ∧ s.2.length = nModels) :
    ∃ m best selected, IsFirstMax s.1 m best ∧ s.2[m]? = some selected ∧
      relativeRank nModels s = midRank s.2 selected / (nModels + 1) := by
  have hne : s.1 ≠ [] := ne_nil_of_length_pos (hshape.1.symm ▸ hpos)
  obtain ⟨best, hbest⟩ := isFirstMax_firstMax hne
  have hlt : firstMax s.1 < s.2.length := by
    rw [hshape.2, ← hshape.1]
    exact (List.getElem?_eq_some_iff.1 hbest.at_index).1
  refine ⟨firstMax s.1, best, s.2[firstMax s.1], hbest, getElem?_eq_getElem hlt, ?_⟩
  have hget : s.2.getD (firstMax s.1) 0 = s.2[firstMax s.1] := by
    rw [getD_eq_getElem?_getD, getElem?_eq_getElem hlt, Option.getD_some]
  unfold relativeRank
  dsimp only
  rw [hget, midRank_eq]

theorem relativeRank_le_half_iff (hpos : 0 < nModels) (hshape : s.1.length = nModels ∧ s.2.length = nModels) :
    relativeRank nModels s ≤ 1 / 2 ↔ Degraded nModels s := by
  obtain ⟨m, best, selected, hbest, hselected, hrank⟩ := selection hpos hshape
  have hden : (0 : ℚ) < nModels + 1 := by positivity
  have hhalf : 1 / 2 * ((nModels : ℚ) + 1) = (nModels + 1) / 2 := by ring
  rw [hrank, div_le_iff₀ hden, hhalf]
  constructor
  · intro hle
    exact ⟨m, best, selected, hbest, hselected, hle⟩
  · rintro ⟨m', best', selected', hbest', hselected', hle⟩
    obtain ⟨rfl, -⟩ := hbest.unique hbest'
    cases hselected.symm.trans hselected'
    exact hle

/-- **A relative rank lies between `1 / (n + 1)` and `n / (n + 1)`.** -/
theorem relativeRank_bounds (hpos : 0 < nModels) (hshape : s.1.length = nModels ∧ s.2.length = nModels) :
    1 / ((nModels : ℚ) + 1) ≤ relativeRank nModels s ∧ relativeRank nModels s ≤ 1 - 1 / (nModels + 1) := by
  obtain ⟨m, best, selected, -, hselected, hrank⟩ := selection hpos hshape
  obtain ⟨hlow, hhigh⟩ := midRank_bounds (mem_of_getElem? hselected)
  rw [hshape.2] at hhigh
  have hden : (0 : ℚ) < nModels + 1 := by positivity
  have htop : 1 - 1 / ((nModels : ℚ) + 1) = nModels / (nModels + 1) := by
    field_simp
    ring
  rw [hrank, htop]
  exact ⟨div_le_div_of_nonneg_right hlow hden.le, div_le_div_of_nonneg_right hhigh hden.le⟩

theorem relativeRank_map (hpos : 0 < nModels) (hshape : s.1.length = nModels ∧ s.2.length = nModels) {f g : ℚ → ℚ}
    (hf : StrictMonoOn f {x | x ∈ s.1}) (hg : StrictMonoOn g {x | x ∈ s.2}) :
    relativeRank nModels (s.1.map f, s.2.map g) = relativeRank nModels s := by
  have hshape' : (s.1.map f).length = nModels ∧ (s.2.map g).length = nModels := by
    rwa [length_map, length_map]
  obtain ⟨m, best, selected, hbest, hselected, hrank⟩ := selection hpos hshape
  obtain ⟨m', best', selected', hbest', hselected', hrank'⟩ := selection (s := (s.1.map f, s.2.map g)) hpos hshape'
  obtain ⟨rfl, -⟩ := hbest'.unique (hbest.map hf)
  have hsame : g selected = selected' := by
    rw [getElem?_map, hselected] at hselected'
    exact Option.some.inj hselected'
  rw [hrank', hrank, ← hsame, midRank_map (mem_of_getElem? hselected) hg]

/-! ### The splits together -/

/-- **The share of the splits whose selection degrades.** -/
noncomputable def degradedShare (input : PBOInput) : ℚ :=
  open Classical in (input.splits.countP (Degraded input.nModels ·) : ℚ) / input.splits.length

theorem share_relativeRanks (input : PBOInput) : share (relativeRanks input) = degradedShare input := by
  have hcount : degradedCount (relativeRanks input) =
      open Classical in input.splits.countP (Degraded input.nModels ·) := by
    unfold degradedCount relativeRanks
    rw [countP_map]
    refine countP_congr fun s hs => ?_
    simp only [Function.comp_apply, decide_eq_true_eq]
    exact relativeRank_le_half_iff input.models_pos (input.shape s hs)
  unfold share degradedShare
  rw [hcount]
  unfold relativeRanks
  rw [length_map]

theorem calculatePbo_input (log : ℚ → ℚ) (input : PBOInput) :
    calculatePbo log input.isMatrix input.oosMatrix = .ok (resultOf log input.nModels (relativeRanks input)) := by
  unfold calculatePbo
  rw [validate_eq_ok.2 ⟨rfl, rfl⟩]
  rfl

def PBOInput.transform (input : PBOInput) (f g : ℕ → ℚ → ℚ) : PBOInput where
  nModels := input.nModels
  splits := input.splits.mapIdx fun c s => (s.1.map (f c), s.2.map (g c))
  splits_ne := by
    rw [ne_eq, List.mapIdx_eq_nil_iff]
    exact input.splits_ne
  models_pos := input.models_pos
  shape s hs := by
    obtain ⟨c, hc, rfl⟩ := List.mem_mapIdx.1 hs
    rw [List.length_map, List.length_map]
    exact input.shape _ (List.getElem_mem hc)

structure RowsIncrease (input : PBOInput) (f g : ℕ → ℚ → ℚ) : Prop where
  inSample : ∀ c s, input.splits[c]? = some s → StrictMonoOn (f c) {x | x ∈ s.1}
  outOfSample : ∀ c s, input.splits[c]? = some s → StrictMonoOn (g c) {x | x ∈ s.2}

theorem relativeRanks_transform {input : PBOInput} {f g : ℕ → ℚ → ℚ} (h : RowsIncrease input f g) :
    relativeRanks (input.transform f g) = relativeRanks input := by
  unfold relativeRanks PBOInput.transform
  refine ext_getElem? fun c => ?_
  rw [getElem?_map, getElem?_mapIdx, getElem?_map, Option.map_map]
  cases hs : input.splits[c]? with
  | none => rfl
  | some s =>
    exact congrArg some (relativeRank_map input.models_pos (input.shape s (mem_of_getElem? hs)) (h.inSample c s hs)
      (h.outOfSample c s hs))

/-- **Two results that differ in the order of their splits alone.** -/
structure PBOResult.SameUpToOrder (r r' : PBOResult) : Prop where
  pbo : r.pbo = r'.pbo
  sizes : r.nSplits = r'.nSplits ∧ r.nModels = r'.nModels
  degraded : r.degradedSplitsCount = r'.degradedSplitsCount
  median : r.medianOosRank = r'.medianOosRank
  level : r.riskLevel = r'.riskLevel
  ranks : (r.logits.zip r.relativeRanks).Perm (r'.logits.zip r'.relativeRanks)

theorem medianRank_perm {ranks ranks' : List ℚ} (h : ranks.Perm ranks') : medianRank ranks = medianRank ranks' := by
  have hsort : ranks.mergeSort (· ≤ ·) = ranks'.mergeSort (· ≤ ·) :=
    (((mergeSort_perm _ _).trans h).trans (mergeSort_perm _ _).symm).eq_of_pairwise'
      (pairwise_mergeSort' (· ≤ ·) _) (pairwise_mergeSort' (· ≤ ·) _)
  unfold medianRank
  rw [hsort, h.length_eq]

theorem resultOf_perm (log : ℚ → ℚ) (nModels : ℕ) {ranks ranks' : List ℚ} (h : ranks.Perm ranks') :
    (resultOf log nModels ranks).SameUpToOrder (resultOf log nModels ranks') := by
  have hcount : degradedCount ranks = degradedCount ranks' := h.countP_eq _
  have hshare : share ranks = share ranks' := by
    unfold share
    rw [hcount, h.length_eq]
  unfold resultOf
  refine ⟨?_, ⟨h.length_eq, rfl⟩, hcount, ?_, ?_, ?_⟩
  · dsimp only
    rw [hshare]
  · dsimp only
    rw [medianRank_perm h]
  · dsimp only
    rw [hshare]
  · dsimp only
    rw [zip_map', zip_map']
    exact h.map _

theorem nModels_of_perm {input input' : PBOInput} (h : input'.splits.Perm input.splits) : input'.nModels = input.nModels := by
  obtain ⟨s, hs⟩ := exists_mem_of_ne_nil _ input.splits_ne
  exact (input'.shape s (h.mem_iff.2 hs)).1.symm.trans (input.shape s hs).1

/-! ### The two decisions -/

theorem half_le_pyRound_iff (x : ℚ) : 1 / 2 ≤ pyRound x 4 ↔ 9999 / 20000 ≤ x := by
  have hunit : (1 : ℚ) / 2 ≤ pyRound x 4 ↔ 5000 ≤ roundHalfEven (x * 10 ^ 4) := by
    unfold pyRound
    rw [le_div_iff₀ (by norm_num), show (1 : ℚ) / 2 * 10 ^ 4 = ((5000 : ℤ) : ℚ) by norm_num, Int.cast_le]
  rw [hunit]
  constructor
  · intro h
    by_contra hlt
    have hscaled : x * 10 ^ 4 < 9999 / 2 := by linarith [not_le.1 hlt]
    have hnear := (abs_le.1 (roundHalfEven_near (x * 10 ^ 4))).2
    generalize roundHalfEven (x * 10 ^ 4) = rounded at h hnear
    have h' : (5000 : ℚ) ≤ rounded := by exact_mod_cast h
    linarith
  · intro h
    have hmono := roundHalfEven_mono (show (9999 / 2 : ℚ) ≤ x * 10 ^ 4 by linarith)
    have hhalf : roundHalfEven (9999 / 2) = 5000 := by decide +kernel
    rwa [hhalf] at hmono

theorem riskLevel_severe_iff (x : ℚ) : riskLevel x = .severe ↔ 1 / 2 ≤ x := by
  unfold riskLevel
  split
  · rename_i h
    simp only [reduceCtorEq, false_iff, not_le]
    linarith
  · split
    · rename_i h
      simp only [reduceCtorEq, false_iff, not_le]
      linarith
    · split
      · rename_i h
        simp only [reduceCtorEq, false_iff, not_le]
        exact h
      · rename_i h
        simp only [true_iff]
        exact not_lt.1 h

/-- **The two decisions agree** but for a share that the rounding lifts to one half. -/
theorem overfit_iff_severe_iff (log : ℚ → ℚ) (nModels : ℕ) (ranks : List ℚ) :
    ((resultOf log nModels ranks).isOverfit = true ↔ (resultOf log nModels ranks).riskLevel = .severe) ↔
      ¬(9999 / 20000 ≤ share ranks ∧ share ranks < 1 / 2) := by
  have hover : (resultOf log nModels ranks).isOverfit = true ↔ 9999 / 20000 ≤ share ranks := by
    unfold PBOResult.isOverfit
    rw [decide_eq_true_eq]
    exact half_le_pyRound_iff _
  have hlevel : (resultOf log nModels ranks).riskLevel = .severe ↔ 1 / 2 ≤ share ranks := riskLevel_severe_iff _
  rw [hover, hlevel, not_and, not_lt]
  exact ⟨fun h => h.1, fun h => ⟨h, fun hhalf => le_trans (by norm_num) hhalf⟩⟩

/-! ### The estimate -/

/-- **What an estimate is to be**: the share of the degrading splits, with relative ranks strictly between 0 and 1, of the
orders of the rows alone and of no order of the splits, and overfit exactly when its level is severe. -/
structure EstimateSound (log : ℚ → ℚ) (input : PBOInput) : Prop where
  fraction : share (relativeRanks input) = degradedShare input
  ranks : ∀ omega ∈ relativeRanks input, 0 < omega ∧ omega < 1
  increasing : ∀ f g, RowsIncrease input f g →
    calculatePbo log (input.transform f g).isMatrix (input.transform f g).oosMatrix =
      calculatePbo log input.isMatrix input.oosMatrix
  permuted : ∀ input' : PBOInput, input'.splits.Perm input.splits →
    ∃ r r', calculatePbo log input.isMatrix input.oosMatrix = .ok r ∧
      calculatePbo log input'.isMatrix input'.oosMatrix = .ok r' ∧ r'.SameUpToOrder r
  decisions : ∃ r, calculatePbo log input.isMatrix input.oosMatrix = .ok r ∧ r.pbo = pyRound (degradedShare input) 4 ∧
    (r.isOverfit = true ↔ r.riskLevel = .severe)

theorem relativeRanks_bounds {input : PBOInput} {omega : ℚ} (h : omega ∈ relativeRanks input) :
    1 / ((input.nModels : ℚ) + 1) ≤ omega ∧ omega ≤ 1 - 1 / (input.nModels + 1) := by
  obtain ⟨s, hs, rfl⟩ := mem_map.1 h
  exact relativeRank_bounds input.models_pos (input.shape s hs)

/-- **The estimate is sound** but for a share from 0.49995 up to one half. -/
theorem estimateSound_iff (log : ℚ → ℚ) (input : PBOInput) :
    EstimateSound log input ↔ ¬(9999 / 20000 ≤ degradedShare input ∧ degradedShare input < 1 / 2) := by
  have hrun := calculatePbo_input log input
  rw [← share_relativeRanks, ← overfit_iff_severe_iff log input.nModels]
  constructor
  · intro h
    obtain ⟨r, hr, -, hdecisions⟩ := h.decisions
    cases hrun.symm.trans hr
    exact hdecisions
  · intro h
    refine ⟨share_relativeRanks input, fun omega homega => ?_, fun f g hfg => ?_, fun input' hperm => ?_, ?_⟩
    · obtain ⟨hlow, hhigh⟩ := relativeRanks_bounds homega
      have hpos : 0 < 1 / ((input.nModels : ℚ) + 1) := by positivity
      constructor <;> linarith
    · rw [hrun, calculatePbo_input, relativeRanks_transform hfg]
      rfl
    · refine ⟨_, _, hrun, calculatePbo_input log input', ?_⟩
      rw [nModels_of_perm hperm]
      refine resultOf_perm log _ ?_
      unfold relativeRanks
      rw [nModels_of_perm hperm]
      exact hperm.map _
    · refine ⟨_, hrun, ?_, h⟩
      rw [← share_relativeRanks]
      rfl

def mixedInput (degrading kept : ℕ) (h : 0 < degrading + kept) : PBOInput where
  nModels := 2
  splits := List.replicate degrading ([1, 0], [0, 1]) ++ List.replicate kept ([1, 0], [1, 0])
  splits_ne := by
    refine List.ne_nil_of_length_pos ?_
    rwa [List.length_append, List.length_replicate, List.length_replicate]
  models_pos := Nat.two_pos
  shape s hs := by
    rcases List.mem_append.1 hs with hs | hs <;> cases List.eq_of_mem_replicate hs <;> exact ⟨rfl, rfl⟩

theorem share_mixedInput (degrading kept : ℕ) (h : 0 < degrading + kept) :
    share (relativeRanks (mixedInput degrading kept h)) = degrading / (degrading + kept) := by
  have hbad : relativeRank 2 ([1, 0], [0, 1]) = 1 / 3 := by decide +kernel
  have hkept : relativeRank 2 ([1, 0], [1, 0]) = 2 / 3 := by decide +kernel
  have hranks : relativeRanks (mixedInput degrading kept h) =
      List.replicate degrading (1 / 3) ++ List.replicate kept (2 / 3) := by
    unfold relativeRanks mixedInput
    rw [map_append, map_replicate, map_replicate, hbad, hkept]
  have hthird : decide ((1 : ℚ) / 3 ≤ 1 / 2) = true := by decide +kernel
  have htwo : decide ((2 : ℚ) / 3 ≤ 1 / 2) = false := by decide +kernel
  unfold share degradedCount
  rw [hranks, countP_append, countP_replicate, countP_replicate, hthird, htwo, length_append,
    length_replicate, length_replicate, if_pos rfl, if_neg Bool.false_ne_true]
  push_cast
  rw [add_zero]

/-- **5000 of 10001 splits degrade**: the estimate is overfit, and its level is high. -/
theorem overfit_not_severe : (∀ log : ℚ → ℚ, ∃ r, calculatePbo log (mixedInput 5000 5001 (by decide)).isMatrix
      (mixedInput 5000 5001 (by decide)).oosMatrix = .ok r ∧ r.isOverfit = true ∧ r.riskLevel = .high) ∧
    ¬∀ (log : ℚ → ℚ) (input : PBOInput), EstimateSound log input := by
  have hover : decide (1 / 2 ≤ pyRound (((5000 : ℕ) : ℚ) / ((5000 : ℕ) + (5001 : ℕ))) 4) = true := by decide +kernel
  have hlevel : riskLevel (((5000 : ℕ) : ℚ) / ((5000 : ℕ) + (5001 : ℕ))) = .high := by decide +kernel
  have hrun : ∀ log : ℚ → ℚ, ∃ r, calculatePbo log (mixedInput 5000 5001 (by decide)).isMatrix
      (mixedInput 5000 5001 (by decide)).oosMatrix = .ok r ∧ r.isOverfit = true ∧ r.riskLevel = .high := by
    intro log
    refine ⟨_, calculatePbo_input log _, ?_, ?_⟩
    · unfold resultOf PBOResult.isOverfit
      dsimp only
      rw [share_mixedInput, hover]
    · unfold resultOf
      dsimp only
      rw [share_mixedInput, hlevel]
  refine ⟨hrun, fun h => ?_⟩
  obtain ⟨r, hr, hover, hhigh⟩ := hrun id
  obtain ⟨r', hr', -, hdecisions⟩ := (h id (mixedInput 5000 5001 (by decide))).decisions
  cases hr.symm.trans hr'
  cases hhigh.symm.trans (hdecisions.1 hover)

end Pbo
end Jqe
