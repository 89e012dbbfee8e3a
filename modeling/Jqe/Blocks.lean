import Mathlib.Data.Finset.Powerset
/-!
# Blocks — combinations in order, and runs of consecutive blocks

Two general notions: the `k`-element selections from a list in the order of Python's `itertools.combinations`, and a
list of blocks `[start, stop)` each of which begins where the one before ends.
-/
namespace Blocks

open List

universe u

variable {α : Type u}

/-! ### Combinations -/

def combinations : ℕ → List α → List (List α)
  | 0, _ => [[]]
  | _ + 1, [] => []
  | k + 1, a :: l => (combinations k l).map (a :: ·) ++ combinations (k + 1) l

theorem combinations_perm : ∀ (k : ℕ) (l : List α), (combinations k l).Perm (l.sublistsLen k)
  | 0, l => by rw [combinations, sublistsLen_zero]
  | k + 1, [] => by rw [combinations, sublistsLen_succ_nil]
  | k + 1, a :: l => by
    rw [combinations, sublistsLen_succ_cons]
    have htake := (combinations_perm k l).map (a :: ·)
    have hskip := combinations_perm (k + 1) l
    exact (htake.append hskip).trans perm_append_comm

theorem mem_combinations {k : ℕ} {l c : List α} : c ∈ combinations k l ↔ c.Sublist l ∧ c.length = k := by
  rw [(combinations_perm k l).mem_iff, mem_sublistsLen]

theorem nodup_combinations (k : ℕ) {l : List α} (h : l.Nodup) : (combinations k l).Nodup :=
  (combinations_perm k l).nodup_iff.2 (nodup_sublistsLen k h)

variable [LinearOrder α]

/-- **The combinations of a sorted list are the subsets of its elements, each once.** -/
theorem combinations_toFinset {k : ℕ} {l : List α} (h : l.Pairwise (· < ·)) :
    (((combinations k l).map List.toFinset : List (Finset α)) : Multiset (Finset α))
      = (l.toFinset.powersetCard k).val := by
  have hnodup : l.Nodup := h.imp ne_of_lt
  have hinj : ∀ c ∈ combinations k l, ∀ d ∈ combinations k l, c.toFinset = d.toFinset → c = d := by
    intro c hc d hd heq
    have hcl := (mem_combinations.1 hc).1
    have hdl := (mem_combinations.1 hd).1
    have hperm : c.Perm d :=
      (perm_ext_iff_of_nodup (hcl.nodup hnodup) (hdl.nodup hnodup)).2 fun a => by
        rw [← mem_toFinset, heq, mem_toFinset]
    exact hperm.eq_of_pairwise (fun a b _ _ hab hba => absurd hab (lt_asymm hba)) (h.sublist hcl) (h.sublist hdl)
  have hmap : ((combinations k l).map List.toFinset).Nodup := (nodup_combinations k hnodup).map_on hinj
  refine (Multiset.Nodup.ext (Multiset.coe_nodup.2 hmap) (Finset.nodup _)).2 fun S => ?_
  rw [Multiset.mem_coe, mem_map, Finset.mem_val, Finset.mem_powersetCard]
  constructor
  · rintro ⟨c, hc, rfl⟩
    obtain ⟨hsub, hlen⟩ := mem_combinations.1 hc
    exact ⟨fun a ha => mem_toFinset.2 (hsub.subset (mem_toFinset.1 ha)),
      by rw [toFinset_card_of_nodup (hsub.nodup hnodup), hlen]⟩
  · rintro ⟨hsub, hcard⟩
    have hfilter : (l.filter (· ∈ S)).toFinset = S := by
      ext a
      rw [mem_toFinset, mem_filter, decide_eq_true_eq]
      exact ⟨fun ha => ha.2, fun ha => ⟨mem_toFinset.1 (hsub ha), ha⟩⟩
    refine ⟨l.filter (· ∈ S), mem_combinations.2 ⟨filter_sublist, ?_⟩, hfilter⟩
    rw [← toFinset_card_of_nodup (hnodup.filter _), hfilter, hcard]

theorem countP_combinations {k : ℕ} {l : List α} (h : l.Pairwise (· < ·)) {a : α} (ha : a ∈ l) (hk : 1 ≤ k) :
    (combinations k l).countP (a ∈ ·) = (l.length - 1).choose (k - 1) := by
  have hcount := congrArg (fun M : Multiset (Finset α) => M.countP (a ∈ ·)) (combinations_toFinset (k := k) h)
  simp only [Multiset.coe_countP, countP_map] at hcount
  have hsub : {a} ⊆ l.toFinset := by simpa using ha
  have hcard := Finset.card_filter_powersetCard_subset {a} l.toFinset k hsub (by simpa using hk)
  rw [Finset.card_singleton, toFinset_card_of_nodup (h.imp ne_of_lt)] at hcard
  rw [← hcard, Finset.card_def, Finset.filter_val, ← Multiset.countP_eq_card_filter]
  simp only [Finset.singleton_subset_iff]
  rw [← hcount]
  refine countP_congr fun c _ => ?_
  simp

/-! ### Consecutive blocks -/

/-- **The blocks fill `[start, stop)` one after another, none of them empty.** -/
def Fill : ℕ → List (ℕ × ℕ) → ℕ → Prop
  | start, [], stop => start = stop
  | start, b :: bs, stop => b.1 = start ∧ start < b.2 ∧ Fill b.2 bs stop

theorem Fill.bounds : ∀ {bs : List (ℕ × ℕ)} {start stop : ℕ}, Fill start bs stop →
    start ≤ stop ∧ ∀ b ∈ bs, start ≤ b.1 ∧ b.1 < b.2 ∧ b.2 ≤ stop
  | [], start, stop, h => ⟨le_of_eq h, fun _ hb => absurd hb not_mem_nil⟩
  | b :: bs, start, stop, h => by
    obtain ⟨hstart, hlt, hrest⟩ := h
    obtain ⟨hle, hall⟩ := hrest.bounds
    refine ⟨by omega, fun c hc => ?_⟩
    rcases mem_cons.1 hc with rfl | hc
    · omega
    · have hbounds := hall c hc
      omega

theorem Fill.exists_block : ∀ {bs : List (ℕ × ℕ)} {start stop : ℕ}, Fill start bs stop →
    ∀ i, start ≤ i → i < stop → ∃ (g : ℕ) (b : ℕ × ℕ), bs[g]? = some b ∧ b.1 ≤ i ∧ i < b.2
  | [], start, stop, h, i, hlow, hhigh => by
    have hempty : start = stop := h
    omega
  | b :: bs, start, stop, h, i, hlow, hhigh => by
    obtain ⟨hstart, hlt, hrest⟩ := h
    by_cases hi : i < b.2
    · exact ⟨0, b, rfl, by omega, hi⟩
    · obtain ⟨g, c, hc, hin⟩ := hrest.exists_block i (by omega) hhigh
      exact ⟨g + 1, c, hc, hin⟩

theorem Fill.block_unique : ∀ {bs : List (ℕ × ℕ)} {start stop : ℕ}, Fill start bs stop →
    ∀ {g g' : ℕ} {b b' : ℕ × ℕ} {i : ℕ}, bs[g]? = some b → bs[g']? = some b' → b.1 ≤ i → i < b.2 → b'.1 ≤ i →
      i < b'.2 → g = g'
  | [], _, _, _, _, _, _, _, _, hb, _, _, _, _, _ => by cases hb
  | c :: bs, start, stop, h, g, g', b, b', i, hb, hb', h₁, h₂, h₃, h₄ => by
    obtain ⟨hstart, hlt, hrest⟩ := h
    have hlater : ∀ {j : ℕ} {d : ℕ × ℕ}, bs[j]? = some d → c.2 ≤ d.1 := fun hd =>
      (hrest.bounds.2 _ (mem_of_getElem? hd)).1
    cases g with
    | zero =>
      cases g' with
      | zero => rfl
      | succ j =>
        have hle := hlater (j := j) hb'
        cases hb
        omega
    | succ j =>
      cases g' with
      | zero =>
        have hle := hlater (j := j) hb
        cases hb'
        omega
      | succ j' =>
        have hjj : j = j' := hrest.block_unique hb hb' h₁ h₂ h₃ h₄
        rw [hjj]

end Blocks
