import Jqe.Blocks
import Jqe.PyBase
import Mathlib.Data.Finset.Sort
import Mathlib.Order.Interval.Finset.Nat
import Mathlib.Tactic.NormNum
/-!
# Cpcv — `research/cpcv.py`: combinatorial purged cross-validation

Of a candle only its time is read.  `int(total_candles * embargo_fraction)` is a float product: the rounding `fl` of the
exact product to a float is a parameter of the definitions.
-/
namespace Jqe

open Blocks List

structure CPCVConfig where
  nGroups : ℕ := 5
  kTestGroups : ℕ := 2
  /-- the float nearest to one hundredth -/
  embargoFraction : ℚ := 5764607523034235 / 576460752303423488
  minEmbargoBars : ℕ := 5
  purgeBars : ℕ := 0
  three_le_nGroups : 3 ≤ nGroups := by decide
  one_le_kTestGroups : 1 ≤ kTestGroups := by decide
  kTestGroups_lt : kTestGroups < nGroups := by decide
  embargoFraction_nonneg : 0 ≤ embargoFraction := by norm_num
  embargoFraction_lt : embargoFraction < 1 / 2 := by norm_num

def CPCVConfig.postInit (nGroups kTestGroups : ℤ) (embargoFraction : ℚ) (minEmbargoBars purgeBars : ℤ) :
    Except PyExc CPCVConfig :=
  if hn : nGroups < 3 then .error (.exception "CPCV requires at least 3 groups")
  else if hk : ¬(1 ≤ kTestGroups ∧ kTestGroups < nGroups) then
    .error (.exception
      s!"k_test_groups must be in [1, n_groups-1], got k={kTestGroups}, n={nGroups}")
  else if hf : ¬(0 ≤ embargoFraction ∧ embargoFraction < 1 / 2) then
    .error (.exception "embargo_fraction must be in [0.0, 0.5)")
  else if minEmbargoBars < 0 then .error (.exception "min_embargo_bars cannot be negative")
  else if purgeBars < 0 then .error (.exception "purge_bars cannot be negative")
  else
    .ok { nGroups := nGroups.toNat
          kTestGroups := kTestGroups.toNat
          embargoFraction := embargoFraction
          minEmbargoBars := minEmbargoBars.toNat
          purgeBars := purgeBars.toNat
          three_le_nGroups := by omega
          one_le_kTestGroups := by omega
          kTestGroups_lt := by omega
          embargoFraction_nonneg := (not_not.1 hf).1
          embargoFraction_lt := (not_not.1 hf).2 }

structure CPCVGroup (Time : Type) where
  groupId : ℕ
  startIndex : ℕ
  /-- exclusive -/
  endIndex : ℕ
  candleCount : ℕ
  startTime : Time
  endTime : Time
  deriving DecidableEq

structure CPCVSplit where
  splitId : ℕ
  testGroupIds : List ℕ
  trainGroupIds : List ℕ
  testIndices : List ℕ
  trainIndices : List ℕ
  purgedIndices : List ℕ
  embargoedIndices : List ℕ
  deriving DecidableEq

/-- `xs[i]` of a tuple, for `i` no negative index. -/
def tupleItem {α : Type} (xs : List α) (i : ℕ) : Except PyExc α :=
  match xs[i]? with
  | some x => .ok x
  | none => .error (.exception "tuple index out of range")

variable {Time : Type}

/-- The loop of `partition_groups`, from the group ids left and `current_idx` on. -/
def partitionLoop (times : List Time) (baseSize remainder : ℕ) : List ℕ → ℕ → Except PyExc (List (CPCVGroup Time))
  | [], _ => .ok []
  | g :: ids, currentIdx => do
    let size := baseSize + if g < remainder then 1 else 0
    let endIdx := currentIdx + size
    let startTime ← tupleItem times currentIdx
    let endTime ← tupleItem times (endIdx - 1)
    let groups ← partitionLoop times baseSize remainder ids endIdx
    return { groupId := g, startIndex := currentIdx, endIndex := endIdx, candleCount := size, startTime, endTime }
      :: groups

def partitionGroups [LinearOrder Time] (times : List Time) (nGroups : ℕ) : Except PyExc (List (CPCVGroup Time)) :=
  let total := times.length
  if total < nGroups * 3 then
    .error (.exception
      s!"Insufficient candles ({total}) for {nGroups} CPCV groups (minimum {nGroups * 3})")
  else if (times.zip times.tail).any fun p => p.2 ≤ p.1 then
    .error (.exception "Candle timestamps must be strictly increasing for CPCV")
  else partitionLoop times (total / nGroups) (total % nGroups) (List.range nGroups) 0

/-- The indices of the groups with the given ids: `test_indices_set` and `train_candidates`. -/
def collectIndices (groups : List (CPCVGroup Time)) : List ℕ → Finset ℕ → Except PyExc (Finset ℕ)
  | [], indices => .ok indices
  | gid :: ids, indices => do
    let grp ← tupleItem groups gid
    collectIndices groups ids (indices ∪ Finset.Ico grp.startIndex grp.endIndex)

/-- The purge and embargo margins of the test groups: `purged_set` and `embargoed_set`. -/
def applyMargins (groups : List (CPCVGroup Time)) (purgeBars embargoBars total : ℕ) (candidates : Finset ℕ) :
    List ℕ → Finset ℕ × Finset ℕ → Except PyExc (Finset ℕ × Finset ℕ)
  | [], sets => .ok sets
  | gid :: ids, (purged, embargoed) => do
    let grp ← tupleItem groups gid
    let purged :=
      if 0 < purgeBars then
        purged ∪ {idx ∈ Finset.Ico (grp.startIndex - purgeBars) grp.startIndex | idx ∈ candidates}
      else purged
    let embargoed :=
      if 0 < embargoBars then
        embargoed ∪ {idx ∈ Finset.Ico grp.endIndex (min total (grp.endIndex + embargoBars)) | idx ∈ candidates}
      else embargoed
    applyMargins groups purgeBars embargoBars total candidates ids (purged, embargoed)

def pyInt (x : ℚ) : ℤ := if 0 ≤ x then x.floor else x.ceil

def embargoBarsOf (fl : ℚ → ℚ) (cfg : CPCVConfig) (total : ℕ) : ℕ :=
  (max (pyInt (fl (total * cfg.embargoFraction))) cfg.minEmbargoBars).toNat

def cpcvSplit (groups : List (CPCVGroup Time)) (cfg : CPCVConfig) (embargoBars total : ℕ) (splitId : ℕ)
    (testGroupIds : List ℕ) : Except PyExc CPCVSplit := do
  let trainGroupIds := (List.range cfg.nGroups).filter fun g => g ∉ testGroupIds
  let testIndicesSet ← collectIndices groups testGroupIds ∅
  let trainCandidates ← collectIndices groups trainGroupIds ∅
  let (purgedSet, embargoedSet) ←
    applyMargins groups cfg.purgeBars embargoBars total trainCandidates testGroupIds (∅, ∅)
  let finalTrainSet := (trainCandidates \ purgedSet) \ embargoedSet
  if finalTrainSet = ∅ then
    .error (.exception s!"CPCV split {splitId} has empty training set after purging/embargoing")
  else if testIndicesSet = ∅ then
    .error (.exception s!"CPCV split {splitId} has empty test set")
  else
    .ok { splitId
          testGroupIds
          trainGroupIds
          testIndices := testIndicesSet.sort (· ≤ ·)
          trainIndices := finalTrainSet.sort (· ≤ ·)
          purgedIndices := purgedSet.sort (· ≤ ·)
          embargoedIndices := embargoedSet.sort (· ≤ ·) }

def cpcvSplits (groups : List (CPCVGroup Time)) (cfg : CPCVConfig) (embargoBars total : ℕ) :
    ℕ → List (List ℕ) → Except PyExc (List CPCVSplit)
  | _, [] => .ok []
  | splitId, testGroupIds :: combos => do
    let split ← cpcvSplit groups cfg embargoBars total splitId testGroupIds
    let splits ← cpcvSplits groups cfg embargoBars total (splitId + 1) combos
    return split :: splits

def generateCpcvSplits [LinearOrder Time] (fl : ℚ → ℚ) (times : List Time) (config : Option CPCVConfig) :
    Except PyExc (List CPCVSplit) := do
  let cfg := config.getD {}
  let groups ← partitionGroups times cfg.nGroups
  let total := times.length
  cpcvSplits groups cfg (embargoBarsOf fl cfg total) total 0
    (combinations cfg.kTestGroups (List.range cfg.nGroups))

/-! ### The groups -/

theorem tupleItem_ok {α : Type} {xs : List α} {i : ℕ} {x : α} (h : tupleItem xs i = .ok x) : xs[i]? = some x := by
  unfold tupleItem at h
  split at h
  · rename_i y hy
    cases h
    exact hy
  · cases h

def CPCVGroup.block (grp : CPCVGroup Time) : ℕ × ℕ := (grp.startIndex, grp.endIndex)

def groupSize (baseSize remainder g : ℕ) : ℕ := baseSize + if g < remainder then 1 else 0

theorem partitionLoop_fill {times : List Time} {baseSize remainder : ℕ} (hbase : 0 < baseSize) :
    ∀ {ids : List ℕ} {currentIdx : ℕ} {groups : List (CPCVGroup Time)},
      partitionLoop times baseSize remainder ids currentIdx = .ok groups →
      groups.length = ids.length ∧
        Fill currentIdx (groups.map CPCVGroup.block) (currentIdx + (ids.map (groupSize baseSize remainder)).sum)
  | [], _, _, h => by
    cases h
    exact ⟨rfl, rfl⟩
  | g :: ids, currentIdx, groups, h => by
    obtain ⟨startTime, -, h⟩ := bind_ok h
    obtain ⟨endTime, -, h⟩ := bind_ok h
    obtain ⟨rest, hrest, h⟩ := bind_ok h
    cases h
    obtain ⟨hlen, hfill⟩ := partitionLoop_fill hbase hrest
    have hsum : currentIdx + ((g :: ids).map (groupSize baseSize remainder)).sum
        = currentIdx + groupSize baseSize remainder g + (ids.map (groupSize baseSize remainder)).sum := by
      rw [map_cons, sum_cons]
      omega
    refine ⟨by rw [length_cons, length_cons, hlen], rfl, ?_, ?_⟩
    · show currentIdx < currentIdx + (baseSize + _)
      omega
    · rw [hsum]
      exact hfill

theorem sum_groupSize (baseSize remainder : ℕ) :
    ∀ n, ((List.range n).map (groupSize baseSize remainder)).sum = n * baseSize + min n remainder
  | 0 => by simp
  | n + 1 => by
    rw [range_succ, map_append, sum_append, sum_groupSize baseSize remainder n, map_singleton,
      sum_singleton, Nat.succ_mul, groupSize]
    split <;> omega

theorem sum_groupSize_total {total nGroups : ℕ} (hn : 0 < nGroups) :
    ((List.range nGroups).map (groupSize (total / nGroups) (total % nGroups))).sum = total := by
  rw [sum_groupSize, Nat.min_eq_right (Nat.mod_lt _ hn).le, Nat.div_add_mod]

variable {groups : List (CPCVGroup Time)} {embargoBars : ℕ}

/-- **The groups fill the candles**, each starting where the one before ends. -/
theorem partitionGroups_fill [LinearOrder Time] {times : List Time} {nGroups : ℕ} (hn : 0 < nGroups)
    (h : partitionGroups times nGroups = .ok groups) :
    groups.length = nGroups ∧ Fill 0 (groups.map CPCVGroup.block) times.length := by
  unfold partitionGroups at h
  dsimp only at h
  split at h
  · cases h
  · rename_i htotal
    split at h
    · cases h
    · have hbase : 0 < times.length / nGroups := Nat.div_pos (by omega) hn
      obtain ⟨hlen, hfill⟩ := partitionLoop_fill hbase h
      rw [sum_groupSize_total hn, Nat.zero_add] at hfill
      exact ⟨by rw [hlen, length_range], hfill⟩

/-! ### The index sets -/

theorem mem_collectIndices {groups : List (CPCVGroup Time)} :
    ∀ {ids : List ℕ} {indices s : Finset ℕ}, collectIndices groups ids indices = .ok s →
      ∀ i, i ∈ s ↔ i ∈ indices ∨ ∃ gid ∈ ids, ∃ grp, groups[gid]? = some grp ∧ grp.startIndex ≤ i ∧ i < grp.endIndex
  | [], _, _, h, i => by
    cases h
    simp
  | gid :: ids, indices, s, h, i => by
    obtain ⟨grp, hgrp, h⟩ := bind_ok h
    have hgrp := tupleItem_ok hgrp
    rw [mem_collectIndices h i, Finset.mem_union, Finset.mem_Ico, or_assoc]
    refine or_congr_right ⟨?_, ?_⟩
    · rintro (hin | ⟨g, hg, hin⟩)
      · exact ⟨gid, mem_cons_self, grp, hgrp, hin⟩
      · exact ⟨g, mem_cons_of_mem _ hg, hin⟩
    · rintro ⟨g, hg, grp', hgrp', hin⟩
      rcases mem_cons.1 hg with rfl | hg
      · rw [hgrp] at hgrp'
        cases hgrp'
        exact .inl hin
      · exact .inr ⟨g, hg, grp', hgrp', hin⟩

theorem mem_margin {bars low high : ℕ} {margin candidates : Finset ℕ} (hnone : bars = 0 → high ≤ low) (i : ℕ) :
    i ∈ (if 0 < bars then margin ∪ {idx ∈ Finset.Ico low high | idx ∈ candidates} else margin) ↔
      i ∈ margin ∨ i ∈ candidates ∧ low ≤ i ∧ i < high := by
  split
  · rw [Finset.mem_union, Finset.mem_filter, Finset.mem_Ico, and_comm (b := i ∈ candidates)]
  · rename_i hbars
    have hempty := hnone (by omega)
    refine ⟨.inl, fun hin => hin.elim id fun hin => ?_⟩
    omega

theorem mem_applyMargins {groups : List (CPCVGroup Time)} {purgeBars embargoBars total : ℕ} {candidates : Finset ℕ} :
    ∀ {ids : List ℕ} {sets : Finset ℕ × Finset ℕ} {purged embargoed : Finset ℕ},
      applyMargins groups purgeBars embargoBars total candidates ids sets = .ok (purged, embargoed) →
      ∀ i,
        (i ∈ purged ↔ i ∈ sets.1 ∨ ∃ gid ∈ ids, ∃ grp, groups[gid]? = some grp ∧ i ∈ candidates ∧
          grp.startIndex - purgeBars ≤ i ∧ i < grp.startIndex) ∧
        (i ∈ embargoed ↔ i ∈ sets.2 ∨ ∃ gid ∈ ids, ∃ grp, groups[gid]? = some grp ∧ i ∈ candidates ∧
          grp.endIndex ≤ i ∧ i < min total (grp.endIndex + embargoBars))
  | [], _, _, _, h, i => by
    cases h
    simp
  | gid :: ids, (purged₀, embargoed₀), purged, embargoed, h, i => by
    obtain ⟨grp, hgrp, h⟩ := bind_ok h
    have hgrp := tupleItem_ok hgrp
    obtain ⟨hpurged, hembargoed⟩ := mem_applyMargins h i
    have hnext : ∀ P : CPCVGroup Time → Prop, (∃ g ∈ gid :: ids, ∃ grp', groups[g]? = some grp' ∧ P grp') ↔
        P grp ∨ ∃ g ∈ ids, ∃ grp', groups[g]? = some grp' ∧ P grp' := by
      intro P
      simp only [mem_cons, exists_eq_or_imp, hgrp, Option.some.injEq, exists_eq_left']
    rw [hpurged, hembargoed, hnext, hnext, ← or_assoc, ← or_assoc]
    exact ⟨or_congr_left (mem_margin (by omega) i), or_congr_left (mem_margin (by omega) i)⟩

/-! ### One split -/

/-- **A split without leakage**, of groups over `total` candles. -/
structure CPCVSplit.Clean (s : CPCVSplit) (groups : List (CPCVGroup Time)) (total embargoBars purgeBars : ℕ) : Prop where
  /-- the test indices are those of the test groups -/
  tested : ∀ i, i ∈ s.testIndices ↔ ∃ gid ∈ s.testGroupIds, ∃ grp, groups[gid]? = some grp ∧
    grp.startIndex ≤ i ∧ i < grp.endIndex
  covers : ∀ i, i < total ↔
    i ∈ s.testIndices ∨ i ∈ s.trainIndices ∨ i ∈ s.purgedIndices ∨ i ∈ s.embargoedIndices
  test_train : s.testIndices.Disjoint s.trainIndices
  test_margins : s.testIndices.Disjoint (s.purgedIndices ++ s.embargoedIndices)
  train_margins : s.trainIndices.Disjoint (s.purgedIndices ++ s.embargoedIndices)
  /-- no training bar within `embargo_bars` after a test bar -/
  embargoed : ∀ t ∈ s.trainIndices, ∀ x ∈ s.testIndices, ¬(x < t ∧ t ≤ x + embargoBars)
  /-- nor within `purge_bars` before one -/
  purged : ∀ t ∈ s.trainIndices, ∀ x ∈ s.testIndices, ¬(t < x ∧ x ≤ t + purgeBars)

structure SplitSets (groups : List (CPCVGroup Time)) (cfg : CPCVConfig) (embargoBars total : ℕ) (s : CPCVSplit)
    (candidates : Finset ℕ) : Prop where
  test : ∀ i, i ∈ s.testIndices ↔ ∃ gid ∈ s.testGroupIds, ∃ grp, groups[gid]? = some grp ∧
    grp.startIndex ≤ i ∧ i < grp.endIndex
  candidate : ∀ i, i ∈ candidates ↔ ∃ gid < cfg.nGroups, gid ∉ s.testGroupIds ∧ ∃ grp, groups[gid]? = some grp ∧
    grp.startIndex ≤ i ∧ i < grp.endIndex
  train : ∀ i, i ∈ s.trainIndices ↔ i ∈ candidates ∧ i ∉ s.purgedIndices ∧ i ∉ s.embargoedIndices
  purged : ∀ i, i ∈ s.purgedIndices ↔ ∃ gid ∈ s.testGroupIds, ∃ grp, groups[gid]? = some grp ∧ i ∈ candidates ∧
    grp.startIndex - cfg.purgeBars ≤ i ∧ i < grp.startIndex
  embargoed : ∀ i, i ∈ s.embargoedIndices ↔ ∃ gid ∈ s.testGroupIds, ∃ grp, groups[gid]? = some grp ∧
    i ∈ candidates ∧ grp.endIndex ≤ i ∧ i < min total (grp.endIndex + embargoBars)

theorem cpcvSplit_sets {cfg : CPCVConfig} {total splitId : ℕ} {testGroupIds : List ℕ} {s : CPCVSplit}
    (h : cpcvSplit groups cfg embargoBars total splitId testGroupIds = .ok s) :
    s.testGroupIds = testGroupIds ∧ ∃ candidates, SplitSets groups cfg embargoBars total s candidates := by
  obtain ⟨test, htest, h⟩ := bind_ok h
  obtain ⟨candidates, hcandidates, h⟩ := bind_ok h
  obtain ⟨⟨purged, embargoed⟩, hmargins, h⟩ := bind_ok h
  dsimp only at h
  split at h
  · cases h
  · split at h
    · cases h
    · cases h
      refine ⟨rfl, candidates, ?_, ?_, ?_, ?_, ?_⟩
      · intro i
        rw [Finset.mem_sort, mem_collectIndices htest]
        simp
      · intro i
        rw [mem_collectIndices hcandidates]
        simp [and_assoc]
      · intro i
        simp only [Finset.mem_sort, Finset.mem_sdiff, and_assoc]
      · intro i
        rw [Finset.mem_sort, (mem_applyMargins hmargins i).1]
        simp
      · intro i
        rw [Finset.mem_sort, (mem_applyMargins hmargins i).2]
        simp

/-- **A split of groups that fill the candles is clean.** -/
theorem SplitSets.clean {cfg : CPCVConfig} {total : ℕ} {s : CPCVSplit} {candidates : Finset ℕ}
    (h : SplitSets groups cfg embargoBars total s candidates) (hlen : groups.length = cfg.nGroups)
    (hfill : Fill 0 (groups.map CPCVGroup.block) total) : s.Clean groups total embargoBars cfg.purgeBars := by
  have hblock : ∀ {gid : ℕ} {grp : CPCVGroup Time}, groups[gid]? = some grp →
      (groups.map CPCVGroup.block)[gid]? = some grp.block := fun hgrp => by rw [getElem?_map, hgrp]; rfl
  have hinside : ∀ {gid : ℕ} {grp : CPCVGroup Time} {i : ℕ}, groups[gid]? = some grp → i < grp.endIndex → i < total := by
    intro gid grp i hgrp hi
    have hle := (hfill.bounds.2 _ (mem_of_getElem? (hblock hgrp))).2.2
    exact lt_of_lt_of_le hi hle
  -- a candidate lies outside every test group
  have houtside : ∀ {gid : ℕ} {grp : CPCVGroup Time} {i : ℕ}, gid ∈ s.testGroupIds → groups[gid]? = some grp →
      i ∈ candidates → i < grp.startIndex ∨ grp.endIndex ≤ i := by
    intro gid grp i hgid hgrp hi
    obtain ⟨gid', -, hnot, grp', hgrp', hlow, hhigh⟩ := (h.candidate i).1 hi
    by_contra hin
    have heq := hfill.block_unique (hblock hgrp) (hblock hgrp') (by simp only [CPCVGroup.block]; omega)
      (by simp only [CPCVGroup.block]; omega) hlow hhigh
    exact hnot (heq ▸ hgid)
  have htest_not : ∀ {i : ℕ}, i ∈ s.testIndices → i ∉ candidates := by
    intro i hi hc
    obtain ⟨gid, hgid, grp, hgrp, hlow, hhigh⟩ := (h.test i).1 hi
    have hout := houtside hgid hgrp hc
    omega
  have hpurged : ∀ {i : ℕ}, i ∈ s.purgedIndices → i ∈ candidates := fun hi => by
    obtain ⟨-, -, -, -, hc, -⟩ := (h.purged _).1 hi
    exact hc
  have hembargoed : ∀ {i : ℕ}, i ∈ s.embargoedIndices → i ∈ candidates := fun hi => by
    obtain ⟨-, -, -, -, hc, -⟩ := (h.embargoed _).1 hi
    exact hc
  refine ⟨h.test, ?_, ?_, ?_, ?_, ?_, ?_⟩
  · intro i
    constructor
    · intro hi
      obtain ⟨gid, b, hb, hlow, hhigh⟩ := hfill.exists_block i (Nat.zero_le i) hi
      rw [getElem?_map, Option.map_eq_some_iff] at hb
      obtain ⟨grp, hgrp, rfl⟩ := hb
      by_cases hgid : gid ∈ s.testGroupIds
      · exact .inl ((h.test i).2 ⟨gid, hgid, grp, hgrp, hlow, hhigh⟩)
      · have hlt : gid < cfg.nGroups := by
          rw [← hlen]
          exact (List.getElem?_eq_some_iff.1 hgrp).1
        have hc := (h.candidate i).2 ⟨gid, hlt, hgid, grp, hgrp, hlow, hhigh⟩
        have htrain := h.train i
        tauto
    · intro hi
      have hcases : i ∈ s.testIndices ∨ i ∈ candidates := by
        rcases hi with hi | hi | hi | hi
        · exact .inl hi
        · exact .inr ((h.train i).1 hi).1
        · exact .inr (hpurged hi)
        · exact .inr (hembargoed hi)
      rcases hcases with hi | hi
      · obtain ⟨gid, -, grp, hgrp, -, hhigh⟩ := (h.test i).1 hi
        exact hinside hgrp hhigh
      · obtain ⟨gid, -, -, grp, hgrp, -, hhigh⟩ := (h.candidate i).1 hi
        exact hinside hgrp hhigh
  · intro i htest htrain
    exact htest_not htest ((h.train i).1 htrain).1
  · intro i htest hmargin
    rcases mem_append.1 hmargin with hi | hi
    · exact htest_not htest (hpurged hi)
    · exact htest_not htest (hembargoed hi)
  · intro i htrain hmargin
    have hnot := ((h.train i).1 htrain).2
    rcases mem_append.1 hmargin with hi | hi
    · exact hnot.1 hi
    · exact hnot.2 hi
  · rintro t ht x hx ⟨hlt, hle⟩
    obtain ⟨hc, -, hnot⟩ := (h.train t).1 ht
    obtain ⟨gid, hgid, grp, hgrp, hlow, hhigh⟩ := (h.test x).1 hx
    have hout := houtside hgid hgrp hc
    have htotal : t < total := by
      obtain ⟨_, -, -, grp', hgrp', -, ht'⟩ := (h.candidate t).1 hc
      exact hinside hgrp' ht'
    exact hnot ((h.embargoed t).2 ⟨gid, hgid, grp, hgrp, hc, by omega, by omega⟩)
  · rintro t ht x hx ⟨hlt, hle⟩
    obtain ⟨hc, hnot, -⟩ := (h.train t).1 ht
    obtain ⟨gid, hgid, grp, hgrp, hlow, hhigh⟩ := (h.test x).1 hx
    have hout := houtside hgid hgrp hc
    exact hnot ((h.purged t).2 ⟨gid, hgid, grp, hgrp, hc, by omega, by omega⟩)

/-! ### All splits -/

theorem cpcvSplits_ok {groups : List (CPCVGroup Time)} {cfg : CPCVConfig} {embargoBars total : ℕ} :
    ∀ {combos : List (List ℕ)} {splitId : ℕ} {splits : List CPCVSplit},
      cpcvSplits groups cfg embargoBars total splitId combos = .ok splits →
      splits.map CPCVSplit.testGroupIds = combos ∧
        ∀ s ∈ splits, ∃ candidates, SplitSets groups cfg embargoBars total s candidates
  | [], _, _, h => by
    cases h
    exact ⟨rfl, fun _ hs => absurd hs not_mem_nil⟩
  | ids :: combos, splitId, splits, h => by
    obtain ⟨s, hs, h⟩ := bind_ok h
    obtain ⟨rest, hrest, h⟩ := bind_ok h
    cases h
    obtain ⟨hids, hsets⟩ := cpcvSplit_sets hs
    obtain ⟨hmap, hall⟩ := cpcvSplits_ok hrest
    refine ⟨by rw [map_cons, hids, hmap], fun s' hs' => ?_⟩
    rcases mem_cons.1 hs' with rfl | hs'
    · exact hsets
    · exact hall s' hs'

theorem countP_tested {total purgeBars : ℕ} {splits : List CPCVSplit}
    (hclean : ∀ s ∈ splits, s.Clean groups total embargoBars purgeBars)
    (hfill : Fill 0 (groups.map CPCVGroup.block) total) {gid : ℕ} {grp : CPCVGroup Time}
    (hgrp : groups[gid]? = some grp) {i : ℕ} (hlow : grp.startIndex ≤ i) (hhigh : i < grp.endIndex) :
    splits.countP (i ∈ ·.testIndices) = (splits.map CPCVSplit.testGroupIds).countP (gid ∈ ·) := by
  rw [countP_map]
  refine countP_congr fun s hs => ?_
  simp only [Function.comp_apply, decide_eq_true_eq]
  rw [(hclean s hs).tested i]
  constructor
  · rintro ⟨gid', hgid', grp', hgrp', hlow', hhigh'⟩
    have hblock : ∀ {g : ℕ} {x : CPCVGroup Time}, groups[g]? = some x →
        (groups.map CPCVGroup.block)[g]? = some x.block := by
      intro g x hx
      rw [getElem?_map, hx]
      rfl
    have heq := hfill.block_unique (hblock hgrp) (hblock hgrp') hlow hhigh hlow' hhigh'
    exact heq ▸ hgid'
  · intro hgid
    exact ⟨gid, hgid, grp, hgrp, hlow, hhigh⟩

/-- **The splits of `generate_cpcv_splits` leak nothing**, and their test sets are the selections of `k` of the `n`
groups, each once. -/
theorem cpcv_no_leakage [LinearOrder Time] (fl : ℚ → ℚ) (times : List Time) (config : Option CPCVConfig) (splits : List CPCVSplit)
    (h : generateCpcvSplits fl times config = .ok splits) :
    let cfg := config.getD {}
    let testGroups := splits.map fun s => s.testGroupIds.toFinset
    ∃ groups, partitionGroups times cfg.nGroups = .ok groups ∧ groups.length = cfg.nGroups ∧
      Fill 0 (groups.map CPCVGroup.block) times.length ∧
      (∀ s ∈ splits, s.Clean groups times.length (embargoBarsOf fl cfg times.length) cfg.purgeBars) ∧
      testGroups.Nodup ∧
      (∀ S, S ∈ testGroups ↔ S ⊆ Finset.range cfg.nGroups ∧ S.card = cfg.kTestGroups) ∧
      ∀ i < times.length, splits.countP (i ∈ ·.testIndices) = (cfg.nGroups - 1).choose (cfg.kTestGroups - 1) := by
  intro cfg testGroups
  obtain ⟨groups, hgroups, h⟩ := bind_ok h
  have hn : 0 < cfg.nGroups := by
    have hthree := cfg.three_le_nGroups
    omega
  obtain ⟨hlen, hfill⟩ := partitionGroups_fill hn hgroups
  obtain ⟨hmap, hsets⟩ := cpcvSplits_ok h
  have hclean : ∀ s ∈ splits, s.Clean groups times.length (embargoBarsOf fl cfg times.length) cfg.purgeBars := by
    intro s hs
    obtain ⟨candidates, hs⟩ := hsets s hs
    exact hs.clean hlen hfill
  have hsorted : (List.range cfg.nGroups).Pairwise (· < ·) := List.pairwise_lt_range
  have hall : (testGroups : Multiset (Finset ℕ)) = ((Finset.range cfg.nGroups).powersetCard cfg.kTestGroups).val := by
    have hcombos := combinations_toFinset (k := cfg.kTestGroups) hsorted
    rw [← hmap, List.map_map, List.toFinset_range] at hcombos
    exact hcombos
  refine ⟨groups, hgroups, hlen, hfill, hclean, ?_, ?_, ?_⟩
  · rw [← Multiset.coe_nodup, hall]
    exact Finset.nodup _
  · intro S
    rw [← Multiset.mem_coe, hall, Finset.mem_val, Finset.mem_powersetCard]
  · intro i hi
    obtain ⟨gid, b, hb, hlow, hhigh⟩ := hfill.exists_block i (Nat.zero_le i) hi
    rw [List.getElem?_map, Option.map_eq_some_iff] at hb
    obtain ⟨grp, hgrp, rfl⟩ := hb
    have hgid : gid ∈ List.range cfg.nGroups := by
      rw [List.mem_range, ← hlen]
      exact (List.getElem?_eq_some_iff.1 hgrp).1
    rw [countP_tested hclean hfill hgrp hlow hhigh, hmap, countP_combinations hsorted hgid cfg.one_le_kTestGroups,
      List.length_range]

def quarterEmbargo : CPCVConfig where
  nGroups := 3
  kTestGroups := 1
  embargoFraction := 1 / 4
  minEmbargoBars := 0
  purgeBars := 1

theorem cpcv_no_leakage_twelve : ∃ splits, generateCpcvSplits id (List.range 12) (some quarterEmbargo) = .ok splits ∧
    (∀ s ∈ splits, s.testIndices.Disjoint s.trainIndices) ∧ ∀ i < 12, splits.countP (i ∈ ·.testIndices) = 1 := by
  have hok : (generateCpcvSplits id (List.range 12) (some quarterEmbargo)).isOk = true := by decide +kernel
  cases h : generateCpcvSplits id (List.range 12) (some quarterEmbargo) with
  | error e =>
    rw [h] at hok
    cases hok
  | ok splits =>
    obtain ⟨groups, -, -, -, hclean, -, -, hcount⟩ := cpcv_no_leakage id (List.range 12) (some quarterEmbargo) splits h
    refine ⟨splits, rfl, fun s hs => (hclean s hs).test_train, fun i hi => ?_⟩
    exact hcount i (by rw [List.length_range]; exact hi)

end Jqe
