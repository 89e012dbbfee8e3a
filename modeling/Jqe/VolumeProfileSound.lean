import Jqe.VolumeProfile
import Mathlib.Algebra.BigOperators.Field
import Mathlib.Algebra.Order.BigOperators.Group.Finset
/-!
# VolumeProfileSound — what a volume profile holds

The overlaps of a candle with the bins add up to its range, so nothing is left to the last bin and every volume is
allocated whole.
-/
namespace Jqe
namespace VolumeProfile

open Finset

/-! ### What the checks let through -/

def Reads (c : Dataset.Candle) (r : RangeCandle) : Prop :=
  c.low = .fin r.low ∧ c.high = .fin r.high ∧ c.volume = some (.fin r.volume)

structure Prepared.Valid (p : Prepared) : Prop where
  reads : List.Forall₂ Reads p.selected p.candles
  nonempty : p.candles ≠ []
  binSize_pos : 0 < p.binSize
  fraction_pos : 0 < p.fraction
  fraction_le : p.fraction ≤ 1
  range : ∀ c ∈ p.candles, c.low ≤ c.high
  volume_nonneg : ∀ c ∈ p.candles, 0 ≤ c.volume
  low : IsLeast {x | ∃ c ∈ p.candles, c.low = x} p.profileLow
  high : IsGreatest {x | ∃ c ∈ p.candles, c.high = x} p.profileHigh
  binCount : p.binCount = max 1 ⌈(p.profileHigh - p.profileLow) / p.binSize⌉.toNat

theorem refuseIf_bind {α : Type} {check : Bool} {eligibility : VolumeProfileEligibility} {reason : String}
    {f : Unit → Except VolumeProfileResult α} {x : α} :
    (refuseIf check eligibility reason >>= f) = .ok x ↔ check = false ∧ f () = .ok x := by
  unfold refuseIf
  cases check
  · simp [bind, Except.bind]
  · simp [bind, Except.bind]

theorem orRefuse_bind {α β : Type} {value : Option α} {eligibility : VolumeProfileEligibility} {reason : String}
    {f : α → Except VolumeProfileResult β} {x : β} :
    (orRefuse value eligibility reason >>= f) = .ok x ↔ ∃ y, value = some y ∧ f y = .ok x := by
  unfold orRefuse
  cases value
  · simp [bind, Except.bind]
  · simp [bind, Except.bind]

theorem mapM_eq_some {α β : Type} {f : α → Option β} : ∀ {l : List α} {ys : List β},
    l.mapM f = some ys ↔ List.Forall₂ (fun x y => f x = some y) l ys
  | [], ys => by
    rw [List.mapM_nil, List.forall₂_nil_left_iff]
    exact ⟨fun h => (Option.some.inj h).symm, fun h => h ▸ rfl⟩
  | x :: l, ys => by
    rw [List.mapM_cons, List.forall₂_cons_left_iff]
    constructor
    · intro h
      obtain ⟨y, hy, h⟩ := Option.bind_eq_some_iff.1 h
      obtain ⟨ys', hys, h⟩ := Option.bind_eq_some_iff.1 h
      cases h
      exact ⟨y, ys', hy, mapM_eq_some.1 hys, rfl⟩
    · rintro ⟨y, ys', hy, hys, rfl⟩
      rw [hy, mapM_eq_some.2 hys]
      rfl

theorem reads_of_columns {selected : List Dataset.Candle} : ∀ {lows highs volumes : List ℚ} {values : List (Option ℚ)},
    List.Forall₂ (fun c q => c.low.rat? = some q) selected lows →
    List.Forall₂ (fun c q => c.high.rat? = some q) selected highs →
    List.Forall₂ (fun (c : Dataset.Candle) v => (match c.volume with
      | some volume => volume.rat?.map some
      | none => some none) = some v) selected values →
    List.Forall₂ (fun v q => id v = some q) values volumes →
    let ranged := (lows.zip (highs.zip volumes)).map fun x => (⟨x.1, x.2.1, x.2.2⟩ : RangeCandle)
    List.Forall₂ Reads selected ranged ∧ ranged.map RangeCandle.low = lows ∧ ranged.map RangeCandle.high = highs := by
  induction selected with
  | nil =>
    intro lows highs volumes values hlows hhighs hvalues _
    cases hlows
    cases hhighs
    cases hvalues
    exact ⟨.nil, rfl, rfl⟩
  | cons c selected ih =>
    intro lows highs volumes values hlows hhighs hvalues hvolumes
    cases hlows with
    | cons hlow hlows =>
    cases hhighs with
    | cons hhigh hhighs =>
    cases hvalues with
    | cons hvalue hvalues =>
    cases hvolumes with
    | cons hvolume hvolumes =>
    obtain ⟨hreads, hmapLow, hmapHigh⟩ := ih hlows hhighs hvalues hvolumes
    have hfin : ∀ {x : PyFloat} {q : ℚ}, x.rat? = some q → x = .fin q := by
      intro x q h
      cases x <;> cases h
      rfl
    refine ⟨.cons ⟨hfin hlow, hfin hhigh, ?_⟩ hreads, congrArg _ hmapLow, congrArg _ hmapHigh⟩
    cases hvol : c.volume with
    | none =>
      rw [hvol] at hvalue
      cases hvalue
      cases hvolume
    | some volume =>
      rw [hvol] at hvalue
      obtain ⟨q, hq, heq⟩ := Option.map_eq_some_iff.1 hvalue
      cases heq
      cases hvolume
      rw [hfin hq]

theorem isLeast_min? {l : List ℚ} (hne : l ≠ []) : IsLeast {x | x ∈ l} (l.min?.getD 0) := by
  cases h : l.min? with
  | none => exact absurd (List.min?_eq_none_iff.1 h) hne
  | some m =>
    obtain ⟨hmem, hle⟩ := List.min?_eq_some_iff.1 h
    exact ⟨hmem, fun x hx => hle x hx⟩

theorem isGreatest_max? {l : List ℚ} (hne : l ≠ []) : IsGreatest {x | x ∈ l} (l.max?.getD 0) := by
  cases h : l.max? with
  | none => exact absurd (List.max?_eq_none_iff.1 h) hne
  | some m =>
    obtain ⟨hmem, hle⟩ := List.max?_eq_some_iff.1 h
    exact ⟨hmem, fun x hx => hle x hx⟩

theorem prepare_valid {candles : List Dataset.Candle} {volumeType : VolumeType} {request : VolumeProfileRequest}
    {p : Prepared} (h : prepare candles volumeType request = .ok p) :
    p.selected = selectedCandles candles request ∧ request.valueAreaFraction = .fin p.fraction ∧ p.Valid := by
  unfold prepare at h
  simp only [refuseIf_bind, orRefuse_bind] at h
  obtain ⟨-, -, -, -, -, -, binSize, hbinSize, fraction, hfraction, hsizes, hselected, lows, hlows, highs, hhighs, values,
    hvalues, volumes, hvolumes, hranges, -, -, h⟩ := h
  cases h
  obtain ⟨hreads, hmapLow, hmapHigh⟩ := reads_of_columns (mapM_eq_some.1 hlows) (mapM_eq_some.1 hhighs)
    (mapM_eq_some.1 hvalues) (mapM_eq_some.1 hvolumes)
  generalize hranged : ((lows.zip (highs.zip volumes)).map fun x => (⟨x.1, x.2.1, x.2.2⟩ : RangeCandle)) = ranged at *
  have hne : ranged ≠ [] := by
    rintro rfl
    rw [List.forall₂_nil_right_iff.1 hreads] at hselected
    cases hselected
  have hsizes' : ¬(binSize ≤ 0 ∨ ¬(0 < fraction ∧ fraction ≤ 1)) := of_decide_eq_false hsizes
  push Not at hsizes'
  obtain ⟨hsize, hpos, hle⟩ := hsizes'
  rw [Bool.or_eq_false_iff, List.any_eq_false, List.any_eq_false] at hranges
  have hrat : request.valueAreaFraction = .fin fraction := by
    cases hvalue : request.valueAreaFraction <;> rw [hvalue] at hfraction <;> cases hfraction
    rfl
  refine ⟨rfl, hrat, hreads, hne, hsize, hpos, hle, fun c hc => ?_, fun c hc => ?_, ?_, ?_, rfl⟩
  · have hnot := hranges.1 c hc
    simpa using hnot
  · have hnot := hranges.2 c hc
    simpa using hnot
  · have hleast := isLeast_min? (l := lows) (by rw [← hmapLow]; simpa using hne)
    have hset : {x | ∃ c ∈ ranged, c.low = x} = {x | x ∈ lows} := by
      ext x
      rw [← hmapLow]
      simp
    rwa [hset]
  · have hgreatest := isGreatest_max? (l := highs) (by rw [← hmapHigh]; simpa using hne)
    have hset : {x | ∃ c ∈ ranged, c.high = x} = {x | x ∈ highs} := by
      ext x
      rw [← hmapHigh]
      simp
    rwa [hset]

/-! ### The boundaries -/

namespace Prepared.Valid

variable {p : Prepared}

theorem low_le_high (h : p.Valid) : p.profileLow ≤ p.profileHigh := by
  obtain ⟨c, hc⟩ := List.exists_mem_of_ne_nil _ h.nonempty
  exact (h.low.2 ⟨c, hc, rfl⟩).trans ((h.range c hc).trans (h.high.2 ⟨c, hc, rfl⟩))

theorem binCount_pos (h : p.Valid) : 0 < p.binCount := by
  rw [h.binCount]
  exact Nat.lt_of_lt_of_le Nat.zero_lt_one (Nat.le_max_left _ _)

theorem last_low_lt (h : p.Valid) (hspan : p.profileLow < p.profileHigh) :
    p.profileLow + p.binSize * ((p.binCount - 1 : ℕ) : ℚ) < p.profileHigh := by
  have hquot : 0 < (p.profileHigh - p.profileLow) / p.binSize := div_pos (sub_pos.2 hspan) h.binSize_pos
  have hceil := Int.ceil_pos.2 hquot
  have hbelow := Int.ceil_lt_add_one ((p.profileHigh - p.profileLow) / p.binSize)
  have hcount : ((p.binCount - 1 : ℕ) : ℚ) = ⌈(p.profileHigh - p.profileLow) / p.binSize⌉ - 1 := by
    have hint : ((p.binCount - 1 : ℕ) : ℤ) = ⌈(p.profileHigh - p.profileLow) / p.binSize⌉ - 1 := by
      rw [h.binCount]
      omega
    exact_mod_cast hint
  have hlt : ((p.binCount - 1 : ℕ) : ℚ) < (p.profileHigh - p.profileLow) / p.binSize := by
    rw [hcount]
    linarith
  rw [lt_div_iff₀ h.binSize_pos] at hlt
  linarith

theorem binCount_of_point (h : p.Valid) (hspan : p.profileHigh ≤ p.profileLow) : p.binCount = 1 := by
  have heq : p.profileHigh - p.profileLow = 0 := sub_eq_zero.2 (le_antisymm hspan h.low_le_high)
  rw [h.binCount, heq, zero_div, Int.ceil_zero]
  rfl

theorem boundary_zero (h : p.Valid) : p.boundary 0 = p.profileLow := by
  unfold boundary
  rw [if_pos h.binCount_pos, Nat.cast_zero, mul_zero, add_zero]

theorem high_le_boundary (h : p.Valid) : p.profileHigh ≤ p.boundary p.binCount := by
  unfold boundary
  rw [if_neg (Nat.lt_irrefl _)]
  split
  · exact le_rfl
  · have := h.binSize_pos
    linarith

theorem boundary_lt (h : p.Valid) {i : ℕ} (hi : i < p.binCount) : p.boundary i < p.boundary (i + 1) := by
  have hsize := h.binSize_pos
  unfold boundary
  rw [if_pos hi]
  by_cases hlast : i + 1 < p.binCount
  · rw [if_pos hlast]
    push_cast
    linarith
  · rw [if_neg hlast]
    have hi' : i = p.binCount - 1 := by omega
    split
    · rename_i hspan
      rw [hi']
      exact h.last_low_lt (sub_pos.1 hspan)
    · rename_i hspan
      have hone := h.binCount_of_point (sub_nonpos.1 (not_lt.1 hspan))
      have hzero : i = 0 := by omega
      rw [hzero, Nat.cast_zero, mul_zero]
      linarith

end Prepared.Valid

/-! ### One candle -/

namespace Prepared

def pointBin (p : Prepared) (c : RangeCandle) : ℕ :=
  min ⌊(c.low - p.profileLow) / p.binSize⌋.toNat (p.binCount - 1)

/-- **What a candle gives to each bin.** -/
def share (p : Prepared) (c : RangeCandle) (i : ℕ) : ℚ :=
  if c.high = c.low then if i = p.pointBin c then c.volume else 0
  else c.volume * Bins.overlap p.boundary c.low c.high i / (c.high - c.low)

theorem distribute_spec {p : Prepared} {c : RangeCandle} (hc : c.high ≠ c.low) (t : Tally) (i j : ℕ) :
    (p.distribute c t i).allocated j = t.allocated j + (if j = i then p.share c i else 0) ∧
      (p.distribute c t i).distributed = t.distributed + p.share c i := by
  unfold share distribute
  rw [if_neg hc]
  dsimp only
  by_cases hpos : 0 < min c.high (p.boundary (i + 1)) - max c.low (p.boundary i)
  · rw [if_pos hpos]
    unfold Bins.overlap
    rw [max_eq_right hpos.le]
    refine ⟨?_, rfl⟩
    dsimp only
    by_cases hj : j = i
    · rw [hj, if_pos rfl, Function.update_self]
    · rw [if_neg hj, Function.update_of_ne hj, add_zero]
  · -- a bin without an overlap gets nothing
    rw [if_neg hpos]
    unfold Bins.overlap
    rw [max_eq_left (not_lt.1 hpos), mul_zero, zero_div, ite_self, add_zero, add_zero]
    exact ⟨rfl, rfl⟩

theorem foldl_distribute {p : Prepared} {c : RangeCandle} (hc : c.high ≠ c.low) (t : Tally) : ∀ n : ℕ,
    let t' := (List.range n).foldl (p.distribute c) t
    (∀ j, t'.allocated j = t.allocated j + if j < n then p.share c j else 0) ∧
      t'.distributed = t.distributed + ∑ j ∈ Finset.range n, p.share c j
  | 0 => by
    refine ⟨fun j => ?_, ?_⟩
    · rw [if_neg (Nat.not_lt_zero j), add_zero]
      rfl
    · rw [Finset.sum_range_zero, add_zero]
      rfl
  | n + 1 => by
    obtain ⟨hallocated, hdistributed⟩ := foldl_distribute hc t n
    rw [List.range_succ, List.foldl_append]
    refine ⟨fun j => ?_, ?_⟩
    · rw [List.foldl_cons, List.foldl_nil, (distribute_spec hc _ n j).1, hallocated]
      by_cases hj : j = n
      · rw [hj, if_neg (Nat.lt_irrefl n), if_pos rfl, if_pos (Nat.lt_succ_self n), add_zero]
      · rw [if_neg hj, add_zero]
        congr 1
        exact if_congr (by omega) rfl rfl
    · rw [List.foldl_cons, List.foldl_nil, (distribute_spec hc _ n 0).2, hdistributed, Finset.sum_range_succ, add_assoc]

namespace Valid

variable {p : Prepared}

theorem share_nonneg (h : p.Valid) {c : RangeCandle} (hc : c ∈ p.candles) (i : ℕ) : 0 ≤ p.share c i := by
  have hvolume := h.volume_nonneg c hc
  unfold share
  split
  · split
    · exact hvolume
    · exact le_rfl
  · exact div_nonneg (mul_nonneg hvolume (Bins.overlap_nonneg _ _ _ _)) (sub_nonneg.2 (h.range c hc))

theorem sum_share (h : p.Valid) {c : RangeCandle} (hc : c ∈ p.candles) :
    ∑ i ∈ Finset.range p.binCount, p.share c i = c.volume := by
  unfold share
  by_cases hpoint : c.high = c.low
  · simp only [if_pos hpoint]
    rw [sum_ite_eq', if_pos]
    rw [mem_range, pointBin]
    have := h.binCount_pos
    omega
  · simp only [if_neg hpoint]
    have hwidth : c.high - c.low ≠ 0 := sub_ne_zero.2 hpoint
    have hoverlap := Bins.sum_overlap (fun i hi => (h.boundary_lt hi).le) (h.range c hc)
      (h.boundary_zero.trans_le (h.low.2 ⟨c, hc, rfl⟩)) ((h.high.2 ⟨c, hc, rfl⟩).trans h.high_le_boundary)
    rw [← Finset.sum_div, ← mul_sum, hoverlap, mul_div_assoc, div_self hwidth, mul_one]

theorem allocate_eq (h : p.Valid) {c : RangeCandle} (hc : c ∈ p.candles) (a : ℕ → ℚ) {i : ℕ} (hi : i < p.binCount) :
    p.allocate a c i = a i + p.share c i := by
  have hsum := h.sum_share hc
  unfold allocate
  by_cases hpoint : c.high = c.low
  · rw [if_pos hpoint, share, if_pos hpoint]
    change Function.update a (p.pointBin c) (a (p.pointBin c) + c.volume) i = _
    by_cases hbin : i = p.pointBin c
    · rw [if_pos hbin, hbin, Function.update_self]
    · rw [if_neg hbin, Function.update_of_ne hbin, add_zero]
  · rw [if_neg hpoint]
    obtain ⟨hallocated, hdistributed⟩ := foldl_distribute hpoint (⟨a, 0, none⟩ : Tally) p.binCount
    have hbin := hallocated i
    rw [if_pos hi] at hbin
    rw [hsum, zero_add] at hdistributed
    dsimp only at hbin ⊢
    rw [hdistributed, sub_self]
    cases ((List.range p.binCount).foldl (p.distribute c) ⟨a, 0, none⟩).lastOverlap with
    | none => exact hbin
    | some last =>
      dsimp only
      rwa [add_zero, Function.update_eq_self]

theorem volumes_eq (h : p.Valid) {i : ℕ} (hi : i < p.binCount) :
    p.volumes i = (p.candles.map fun c => p.share c i).sum := by
  have hfold : ∀ (candles : List RangeCandle) (a : ℕ → ℚ), (∀ c ∈ candles, c ∈ p.candles) →
      candles.foldl p.allocate a i = a i + (candles.map fun c => p.share c i).sum := by
    intro candles
    induction candles with
    | nil =>
      intro a _
      rw [List.foldl_nil, List.map_nil, List.sum_nil, add_zero]
    | cons c candles ih =>
      intro a hmem
      rw [List.foldl_cons, ih _ fun c hc => hmem c (List.mem_cons_of_mem _ hc),
        h.allocate_eq (hmem c List.mem_cons_self) a hi, List.map_cons, List.sum_cons, add_assoc]
  have heq := hfold p.candles (fun _ => 0) fun c hc => hc
  rwa [zero_add] at heq

theorem volumes_nonneg (h : p.Valid) {i : ℕ} (hi : i < p.binCount) : 0 ≤ p.volumes i := by
  rw [h.volumes_eq hi]
  refine List.sum_nonneg fun x hx => ?_
  obtain ⟨c, hc, rfl⟩ := List.mem_map.1 hx
  exact h.share_nonneg hc i

theorem sum_volumes (h : p.Valid) :
    ∑ i ∈ Finset.range p.binCount, p.volumes i = (p.candles.map RangeCandle.volume).sum := by
  have hswap : ∀ candles : List RangeCandle, (∀ c ∈ candles, c ∈ p.candles) →
      ∑ i ∈ Finset.range p.binCount, (candles.map fun c => p.share c i).sum =
        (candles.map RangeCandle.volume).sum := by
    intro candles hmem
    induction candles with
    | nil => exact Finset.sum_const_zero
    | cons c candles ih =>
      simp only [List.map_cons, List.sum_cons]
      rw [Finset.sum_add_distrib, h.sum_share (hmem c List.mem_cons_self),
        ih fun c hc => hmem c (List.mem_cons_of_mem _ hc)]
  rw [← hswap p.candles fun c hc => hc]
  exact Finset.sum_congr rfl fun i hi => h.volumes_eq (Finset.mem_range.1 hi)

end Valid

theorem total_eq (p : Prepared) : p.total = ∑ i ∈ Finset.range p.binCount, p.volumes i := by
  unfold total bins
  rw [List.map_map]
  rfl

end Prepared

/-! ### The point of control and the value area -/

theorem pocIndex_spec (w : ℕ → ℚ) : ∀ {n : ℕ}, 0 < n →
    pocIndex w n < n ∧ (∀ i < n, w i ≤ w (pocIndex w n)) ∧ ∀ i < pocIndex w n, w i < w (pocIndex w n)
  | 1, _ => by
    have hzero : pocIndex w 1 = 0 := ite_self _
    rw [hzero]
    refine ⟨Nat.zero_lt_one, fun i hi => ?_, fun i hi => absurd hi (Nat.not_lt_zero i)⟩
    rw [Nat.lt_one_iff.1 hi]
  | n + 2, _ => by
    obtain ⟨hlt, hmax, hlow⟩ := pocIndex_spec w (Nat.succ_pos n)
    have hstep : pocIndex w (n + 2) = if w (pocIndex w (n + 1)) < w (n + 1) then n + 1 else pocIndex w (n + 1) := by
      unfold pocIndex
      rw [List.range_succ, List.foldl_append]
      refine if_congr ⟨?_, .inl⟩ rfl rfl
      rintro (hless | ⟨-, hneg⟩)
      · exact hless
      · -- the new index is the highest, so a tie keeps the old one
        change pocIndex w (n + 1) < n + 1 at hlt
        unfold pocIndex at hlt
        push_cast at hneg
        omega
    rw [hstep]
    split
    · rename_i hless
      refine ⟨Nat.lt_succ_self _, fun i hi => ?_, fun i hi => (hmax i hi).trans_lt hless⟩
      rcases Nat.lt_succ_iff_lt_or_eq.1 hi with hold | rfl
      · exact ((hmax i hold).trans_lt hless).le
      · exact le_rfl
    · rename_i hless
      refine ⟨Nat.lt_succ_of_lt hlt, fun i hi => ?_, hlow⟩
      rcases Nat.lt_succ_iff_lt_or_eq.1 hi with hold | rfl
      · exact hmax i hold
      · exact not_lt.1 hless

theorem takesBelow_admissible (w : ℕ → ℚ) (n : ℕ) : Bins.Admissible n (takesBelow w n) := by
  intro r
  unfold takesBelow
  constructor
  · intro hside
    exact (of_decide_eq_true hside).1
  · intro hside houtside
    have hnot := of_decide_eq_false hside
    by_contra habove
    exact hnot ⟨houtside.resolve_right habove, .inl habove⟩

/-- **The value area grows from the point of control until it is heavy enough.** -/
theorem Prepared.Valid.valueArea_spec {p : Prepared} (h : p.Valid) :
    p.valueArea.Around p.volumes (takesBelow p.volumes p.binCount) p.binCount (p.total * p.fraction) (pocIndex p.volumes p.binCount) ∧
      p.total * p.fraction ≤ p.valueArea.weight := by
  refine Bins.grow_spec (takesBelow_admissible _ _) (pocIndex_spec _ h.binCount_pos).1 ?_
  rw [← p.total_eq]
  refine mul_le_of_le_one_right ?_ h.fraction_le
  rw [p.total_eq]
  exact Finset.sum_nonneg fun i hi => h.volumes_nonneg (Finset.mem_range.1 hi)

/-! ### The refusals -/

/-- A run of checks that only refuses as not eligible. -/
def Refuses {α : Type} (x : Except VolumeProfileResult α) : Prop :=
  ∀ r, x = .error r → r.eligibility ≠ .eligible

theorem Refuses.ok {α : Type} (x : α) : Refuses (.ok x) := fun _ h => nomatch h

theorem Refuses.refuseIf {α : Type} {check : Bool} {eligibility : VolumeProfileEligibility} {reason : String}
    {f : Unit → Except VolumeProfileResult α} (h : eligibility ≠ .eligible) (hf : Refuses (f ())) :
    Refuses (refuseIf check eligibility reason >>= f) := by
  unfold VolumeProfile.refuseIf
  cases check with
  | false => exact hf
  | true =>
    rintro r hr
    cases hr
    exact h

theorem Refuses.orRefuse {α β : Type} {value : Option α} {eligibility : VolumeProfileEligibility} {reason : String}
    {f : α → Except VolumeProfileResult β} (h : eligibility ≠ .eligible) (hf : ∀ x, Refuses (f x)) :
    Refuses (orRefuse value eligibility reason >>= f) := by
  unfold VolumeProfile.orRefuse
  cases value with
  | some x => exact hf x
  | none =>
    rintro r hr
    cases hr
    exact h

theorem prepare_refuses (candles : List Dataset.Candle) (volumeType : VolumeType) (request : VolumeProfileRequest) :
    Refuses (prepare candles volumeType request) := by
  unfold prepare
  refine .refuseIf (by decide) (.refuseIf (by decide) (.refuseIf (by decide) (.refuseIf (by decide) ?_)))
  refine .refuseIf (by decide) (.refuseIf (by decide) ?_)
  refine .orRefuse (by decide) fun binSize => .orRefuse (by decide) fun fraction => ?_
  refine .refuseIf (by decide) (.refuseIf (by decide) ?_)
  refine .orRefuse (by decide) fun lows => .orRefuse (by decide) fun highs => ?_
  refine .orRefuse (by decide) fun values => .orRefuse (by decide) fun volumes => ?_
  exact .refuseIf (by decide) (.refuseIf (by decide) (.refuseIf (by decide) (.ok _)))

end VolumeProfile

/-! ### The result -/

namespace VolumeProfileSnapshot

open VolumeProfile

def volume (s : VolumeProfileSnapshot) (i : ℕ) : ℚ := (s.bins[i]?.map VolumeProfileBin.volume).getD 0

def runVolume (s : VolumeProfileSnapshot) (low high : ℕ) : ℚ := ∑ i ∈ Finset.Icc low high, s.volume i

/-- **The bins are contiguous and cover the range of the candles.** -/
structure Covers (s : VolumeProfileSnapshot) (candles : List RangeCandle) : Prop where
  low : IsLeast {x | ∃ c ∈ candles, c.low = x} s.profileLow
  high : IsGreatest {x | ∃ c ∈ candles, c.high = x} s.profileHigh
  contiguous : s.bins.IsChain fun a b => a.high = b.low
  width : ∀ b ∈ s.bins, b.low < b.high
  first : s.bins.head?.map VolumeProfileBin.low = some s.profileLow
  last : ∃ b, s.bins.getLast? = some b ∧ s.profileHigh ≤ b.high ∧ (s.profileLow < s.profileHigh → b.high = s.profileHigh)

/-- **The bins hold the volume of the candles.** -/
structure Conserves (s : VolumeProfileSnapshot) (candles : List RangeCandle) : Prop where
  nonneg : ∀ b ∈ s.bins, 0 ≤ b.volume
  sum : (s.bins.map VolumeProfileBin.volume).sum = (candles.map RangeCandle.volume).sum
  total : s.totalVolume = (candles.map RangeCandle.volume).sum

/-- **The lowest bin of maximum volume, with its price.** -/
structure PointOfControlAt (s : VolumeProfileSnapshot) (poc : ℕ) : Prop where
  price : ∃ b, s.bins[poc]? = some b ∧ s.pointOfControl = (b.low + b.high) / 2
  maximum : ∀ i < s.bins.length, s.volume i ≤ s.volume poc
  lowest : ∀ i < poc, s.volume i < s.volume poc

/-- **A run of bins around the point of control that is heavy enough, and was not without its last bin.** -/
structure ValueAreaAt (s : VolumeProfileSnapshot) (poc low high : ℕ) (fraction : ℚ) : Prop where
  low_le : low ≤ poc
  le_high : poc ≤ high
  low_price : s.bins[low]?.map VolumeProfileBin.low = some s.valueAreaLow
  high_price : s.bins[high]?.map VolumeProfileBin.high = some s.valueAreaHigh
  enough : s.totalVolume * fraction ≤ s.runVolume low high
  /-- the last bin is the lower end, if no heavier one follows the upper end, and else the upper end -/
  last : (low = poc ∧ high = poc) ∨
    (low < poc ∧ s.runVolume (low + 1) high < s.totalVolume * fraction ∧
      (high + 1 < s.bins.length → s.volume (high + 1) ≤ s.volume low)) ∨
    (poc < high ∧ s.runVolume low (high - 1) < s.totalVolume * fraction ∧ (0 < low → s.volume (low - 1) < s.volume high))

structure Correct (s : VolumeProfileSnapshot) (selected : List Dataset.Candle) (request : VolumeProfileRequest)
    (candles : List RangeCandle) (fraction : ℚ) (poc low high : ℕ) : Prop where
  reads : List.Forall₂ Reads selected candles
  fraction_eq : request.valueAreaFraction = .fin fraction
  covers : s.Covers candles
  conserves : s.Conserves candles
  pointOfControl : s.PointOfControlAt poc
  valueArea : s.ValueAreaAt poc low high fraction

end VolumeProfileSnapshot

namespace VolumeProfile

open VolumeProfileSnapshot

variable {p : Prepared}

theorem bins_length (p : Prepared) : p.bins.length = p.binCount := by
  unfold Prepared.bins
  rw [List.length_map, List.length_range]

theorem bins_getElem? (p : Prepared) {i : ℕ} (hi : i < p.binCount) :
    p.bins[i]? = some ⟨p.boundary i, p.boundary (i + 1), p.volumes i⟩ := by
  unfold Prepared.bins
  rw [List.getElem?_map, List.getElem?_range hi]
  rfl

theorem mem_bins {b : VolumeProfileBin} (hb : b ∈ p.bins) :
    ∃ i < p.binCount, b = ⟨p.boundary i, p.boundary (i + 1), p.volumes i⟩ := by
  obtain ⟨i, hi, rfl⟩ := List.mem_map.1 hb
  exact ⟨i, List.mem_range.1 hi, rfl⟩

theorem bins_isChain (p : Prepared) : p.bins.IsChain fun a b => a.high = b.low := by
  unfold Prepared.bins
  rw [List.isChain_iff_getElem]
  intro i hi
  rw [List.getElem_map, List.getElem_map, List.getElem_range, List.getElem_range]

variable {s : VolumeProfileSnapshot}

theorem volume_eq (hbins : s.bins = p.bins) {i : ℕ} (hi : i < p.binCount) : s.volume i = p.volumes i := by
  unfold VolumeProfileSnapshot.volume
  rw [hbins, bins_getElem? p hi]
  rfl

theorem runVolume_eq (hbins : s.bins = p.bins) {low high : ℕ} (hhigh : high < p.binCount) :
    s.runVolume low high = ∑ i ∈ Finset.Icc low high, p.volumes i :=
  Finset.sum_congr rfl fun _ hi => volume_eq hbins ((Finset.mem_Icc.1 hi).2.trans_lt hhigh)

theorem Prepared.Valid.covers (h : p.Valid) (hbins : s.bins = p.bins) (hlow : s.profileLow = p.profileLow)
    (hhigh : s.profileHigh = p.profileHigh) : s.Covers p.candles := by
  have hpos := h.binCount_pos
  refine ⟨hlow ▸ h.low, hhigh ▸ h.high, hbins ▸ bins_isChain p, fun b hb => ?_, ?_, ?_⟩
  · obtain ⟨i, hi, rfl⟩ := mem_bins (hbins ▸ hb)
    exact h.boundary_lt hi
  · rw [hbins, List.head?_eq_getElem?, bins_getElem? p hpos, hlow, ← h.boundary_zero]
    rfl
  · have hsucc : p.binCount - 1 + 1 = p.binCount := Nat.sub_add_cancel hpos
    rw [hbins, List.getLast?_eq_getElem?, bins_length, bins_getElem? p (Nat.sub_lt hpos Nat.zero_lt_one), hsucc, hlow,
      hhigh]
    refine ⟨_, rfl, h.high_le_boundary, fun hspan => ?_⟩
    dsimp only
    unfold Prepared.boundary
    rw [if_neg (Nat.lt_irrefl _), if_pos (sub_pos.2 hspan)]

theorem Prepared.Valid.conserves (h : p.Valid) (hbins : s.bins = p.bins) (htotal : s.totalVolume = p.total) :
    s.Conserves p.candles := by
  have hsum : (p.bins.map VolumeProfileBin.volume).sum = (p.candles.map RangeCandle.volume).sum := by
    rw [← h.sum_volumes, ← p.total_eq]
    rfl
  refine ⟨fun b hb => ?_, hbins ▸ hsum, htotal.trans hsum⟩
  obtain ⟨i, hi, rfl⟩ := mem_bins (hbins ▸ hb)
  exact h.volumes_nonneg hi

theorem Prepared.Valid.pointOfControl (h : p.Valid) (hbins : s.bins = p.bins)
    (hprice : s.pointOfControl = (p.boundary (pocIndex p.volumes p.binCount) +
      p.boundary (pocIndex p.volumes p.binCount + 1)) / 2) : s.PointOfControlAt (pocIndex p.volumes p.binCount) := by
  obtain ⟨hlt, hmax, hlow⟩ := pocIndex_spec p.volumes h.binCount_pos
  refine ⟨⟨_, (hbins ▸ bins_getElem? p hlt : s.bins[_]? = _), hprice⟩, fun i hi => ?_, fun i hi => ?_⟩
  · rw [hbins, bins_length] at hi
    rw [volume_eq hbins hi, volume_eq hbins hlt]
    exact hmax i hi
  · rw [volume_eq hbins (hi.trans hlt), volume_eq hbins hlt]
    exact hlow i hi

theorem Prepared.Valid.valueAreaAt (h : p.Valid) (hbins : s.bins = p.bins) (htotal : s.totalVolume = p.total)
    (hlow : s.valueAreaLow = p.boundary p.valueArea.low) (hhigh : s.valueAreaHigh = p.boundary (p.valueArea.high + 1)) :
    s.ValueAreaAt (pocIndex p.volumes p.binCount) p.valueArea.low p.valueArea.high p.fraction := by
  obtain ⟨haround, henough⟩ := h.valueArea_spec
  have hlt := haround.high_lt
  have hle := haround.low_le.trans haround.le_high
  refine ⟨haround.low_le, haround.le_high, ?_, ?_, ?_, ?_⟩
  · rw [hbins, bins_getElem? p (hle.trans_lt hlt), hlow]
    rfl
  · rw [hbins, bins_getElem? p hlt, hhigh]
    rfl
  · rwa [runVolume_eq hbins hlt, ← haround.weight, htotal]
  · refine haround.last.imp_right fun ⟨r', hlight, hlast⟩ => ?_
    rw [runVolume_eq hbins hlt, runVolume_eq hbins ((Nat.sub_le _ _).trans_lt hlt), htotal, hbins, bins_length]
    rcases hlast with ⟨hlow, hside, rfl⟩ | ⟨hhigh, hside, rfl⟩
    · refine .inl ⟨hlow, hlight, fun habove => ?_⟩
      rw [volume_eq hbins habove, volume_eq hbins (hle.trans_lt hlt)]
      exact (of_decide_eq_true hside).2.resolve_left (not_not.2 (Nat.lt_sub_of_add_lt habove))
    · refine .inr ⟨hhigh, hlight, fun hbelow => ?_⟩
      rw [volume_eq hbins ((Nat.sub_le _ _).trans_lt (hle.trans_lt hlt)), volume_eq hbins hlt]
      have hnot := of_decide_eq_false hside
      dsimp only at hnot
      rw [Nat.sub_add_cancel (by omega)] at hnot
      exact not_le.1 fun hheavy => hnot ⟨hbelow, .inr hheavy⟩

end VolumeProfile

open VolumeProfile in
/-- **An eligible volume profile is right**: its bins are contiguous and cover the range of the candles, they hold the volume of the
candles, the point of control is the lowest bin of maximum volume, and the value area around it is heavy enough and was not before
its last bin. -/
theorem volume_profile_correct {candles : List Dataset.Candle} {datasetIdentity : String} {volumeType : VolumeType}
    {volumeSource : String} {request : VolumeProfileRequest} {stepSeconds : Option ℤ} {result : VolumeProfileResult}
    (hresult : calculateVolumeProfile candles datasetIdentity volumeType volumeSource request stepSeconds = .ok result)
    (heligible : result.eligibility = .eligible) :
    ∃ (s : VolumeProfileSnapshot) (ranged : List RangeCandle) (fraction : ℚ) (poc low high : ℕ), result.snapshot = some s ∧
      s.Correct (selectedCandles candles request) request ranged fraction poc low high := by
  unfold calculateVolumeProfile at hresult
  cases hprepare : prepare candles volumeType request with
  | error refusal =>
    rw [hprepare] at hresult
    cases hresult
    exact absurd heligible (prepare_refuses _ _ _ _ hprepare)
  | ok p =>
    rw [hprepare] at hresult
    obtain ⟨hselected, hfraction, hvalid⟩ := prepare_valid hprepare
    -- the gaps do not matter
    obtain ⟨s, hs, hlow, hhigh, htotal, hbins, hpoc, hareaLow, hareaHigh⟩ : ∃ s : VolumeProfileSnapshot,
        result.snapshot = some s ∧ s.profileLow = p.profileLow ∧ s.profileHigh = p.profileHigh ∧ s.totalVolume = p.total ∧
          s.bins = p.bins ∧ s.pointOfControl = (p.boundary (pocIndex p.volumes p.binCount) +
            p.boundary (pocIndex p.volumes p.binCount + 1)) / 2 ∧
          s.valueAreaLow = p.boundary p.valueArea.low ∧ s.valueAreaHigh = p.boundary (p.valueArea.high + 1) := by
      cases stepSeconds with
      | none =>
        cases hresult
        exact ⟨_, rfl, rfl, rfl, rfl, rfl, rfl, rfl, rfl⟩
      | some step =>
        dsimp only [bind, Except.bind] at hresult
        cases hgaps : gapCount step p.selected with
        | error e =>
          rw [hgaps] at hresult
          cases hresult
        | ok gaps =>
          rw [hgaps] at hresult
          cases hresult
          exact ⟨_, rfl, rfl, rfl, rfl, rfl, rfl, rfl, rfl⟩
    refine ⟨s, p.candles, p.fraction, pocIndex p.volumes p.binCount, p.valueArea.low, p.valueArea.high, hs, ?_⟩
    exact ⟨hselected ▸ hvalid.reads, hfraction, hvalid.covers hbins hlow hhigh, hvalid.conserves hbins htotal,
      hvalid.pointOfControl hbins hpoc, hvalid.valueAreaAt hbins htotal hareaLow hareaHigh⟩

namespace VolumeProfile

def trialCandle (minute : ℤ) (low high volume : ℚ) : Dataset.Candle :=
  ⟨.aware (minute * 60000000), .fin low, .fin high, .fin low, .fin high, some (.fin volume), "deriv"⟩

def trialCandles : List Dataset.Candle := [trialCandle 0 0 1 2, trialCandle 1 1 2 5, trialCandle 2 2 3 2]

def trialRequest : VolumeProfileRequest where
  startIndex := 0
  endIndex := 2
  binSize := .fin 1
  valueAreaFraction := .fin (3 / 4)

def trialResult : VolumeProfileResult :=
  ⟨.eligible, "Eligible volume semantics", some {
    datasetIdentity := "dataset"
    request := trialRequest
    startTime := .aware 0
    endTime := .aware 120000000
    candleCount := 3
    volumeType := .tickVolume
    volumeSource := "deriv"
    profileLow := 0
    profileHigh := 3
    totalVolume := 9
    bins := [⟨0, 1, 2⟩, ⟨1, 2, 5⟩, ⟨2, 3, 2⟩]
    pointOfControl := 3 / 2
    valueAreaHigh := 2
    valueAreaLow := 0
    rangeHasGaps := false
    gapCount := 0 }⟩

theorem trial_profile :
    calculateVolumeProfile trialCandles "dataset" .tickVolume "deriv" trialRequest (some 60) = .ok trialResult := by
  decide +kernel

end VolumeProfile

open VolumeProfile in
theorem volume_profile_correct_trial :
    ∃ (s : VolumeProfileSnapshot) (ranged : List RangeCandle) (fraction : ℚ) (poc low high : ℕ),
      trialResult.snapshot = some s ∧
      s.Correct (selectedCandles trialCandles trialRequest) trialRequest ranged fraction poc low high :=
  volume_profile_correct trial_profile rfl

end Jqe
