import Jqe.MidRank
import Jqe.Mt5Volume
/-!
# Pbo — the probability of backtest overfitting (`analytics/pbo.py`)

`calculate_pbo` reads two matrices of performances, ranks in every split the model that is best in sample among the
out-of-sample performances, and counts the splits in which it falls below the median.
-/
namespace Jqe
namespace Pbo

open MidRank List

/-! ### The matrices -/

/-- **Two finite matrices of one positive shape**, split by split: the in-sample and the out-of-sample row. -/
structure PBOInput where
  nModels : ℕ
  splits : List (List ℚ × List ℚ)
  splits_ne : splits ≠ []
  models_pos : 0 < nModels
  shape : ∀ s ∈ splits, s.1.length = nModels ∧ s.2.length = nModels

def checkModels (c m : ℕ) : List PyFloat → List PyFloat → Except PyExc (List ℚ × List ℚ)
  | x :: xs, y :: ys =>
    match x.rat?, y.rat? with
    | some p, some q => do
      let rest ← checkModels c (m + 1) xs ys
      return (p :: rest.1, q :: rest.2)
    | _, _ => .error (.exception s!"Non-finite value at split {c}, model {m}")
  | _, _ => .ok ([], [])

def checkSplits (nModels c : ℕ) : List (List PyFloat × List PyFloat) → Except PyExc (List (List ℚ × List ℚ))
  | [] => .ok []
  | (isRow, oosRow) :: rest => do
    let isCount := isRow.length
    let oosCount := oosRow.length
    if isCount ≠ nModels then
      throw (.exception s!"Split {c} in is_matrix has {isCount} models, expected {nModels}")
    if oosCount ≠ nModels then
      throw (.exception s!"Split {c} in oos_matrix has {oosCount} models, expected {nModels}")
    let split ← checkModels c 0 isRow oosRow
    let splits ← checkSplits nModels (c + 1) rest
    return split :: splits

theorem checkModels_eq_ok {c : ℕ} : ∀ {m : ℕ} {xs ys : List PyFloat} {s : List ℚ × List ℚ}, xs.length = ys.length →
    (checkModels c m xs ys = .ok s ↔ xs = s.1.map .fin ∧ ys = s.2.map .fin)
  | _, [], [], (ps, qs), _ => by
    unfold checkModels
    cases ps <;> cases qs <;> simp
  | _, [], _ :: _, _, h => by cases h
  | _, _ :: _, [], _, h => by cases h
  | m, x :: xs, y :: ys, (ps, qs), h => by
    have ih := fun s => checkModels_eq_ok (c := c) (m := m + 1) (s := s) (Nat.succ.inj h)
    unfold checkModels
    constructor
    · intro hrun
      cases x with
      | fin p =>
        cases y with
        | fin q =>
          obtain ⟨rest, hrest, hrun⟩ := bind_ok hrun
          cases hrun
          obtain ⟨rfl, rfl⟩ := (ih rest).1 hrest
          exact ⟨rfl, rfl⟩
        | _ => cases hrun
      | _ => cases hrun
    · rintro ⟨hx, hy⟩
      cases ps with
      | nil => cases hx
      | cons p ps =>
        cases qs with
        | nil => cases hy
        | cons q qs =>
          cases hx
          cases hy
          have hrest := (ih (ps, qs)).2 ⟨rfl, rfl⟩
          simp only [PyFloat.rat?]
          rw [hrest]
          rfl

def floats (s : List ℚ × List ℚ) : List PyFloat × List PyFloat := (s.1.map .fin, s.2.map .fin)

theorem checkSplits_eq_ok {nModels : ℕ} : ∀ {c : ℕ} {rows : List (List PyFloat × List PyFloat)}
    {splits : List (List ℚ × List ℚ)}, checkSplits nModels c rows = .ok splits ↔
      rows = splits.map floats ∧ ∀ s ∈ splits, s.1.length = nModels ∧ s.2.length = nModels
  | _, [], splits => by
    unfold checkSplits
    cases splits <;> simp
  | c, (isRow, oosRow) :: rest, splits => by
    have ih := fun l => @checkSplits_eq_ok nModels (c + 1) rest l
    unfold checkSplits
    dsimp only
    constructor
    · intro hrun
      split at hrun
      · cases hrun
      · rename_i his
        split at hrun
        · cases hrun
        · rename_i hoos
          rw [not_not] at his hoos
          obtain ⟨s, hs, hrun⟩ := bind_ok hrun
          obtain ⟨l, hl, hrun⟩ := bind_ok hrun
          cases hrun
          obtain ⟨rfl, rfl⟩ := (checkModels_eq_ok (his.trans hoos.symm)).1 hs
          obtain ⟨rfl, hshape⟩ := (ih l).1 hl
          rw [length_map] at his hoos
          exact ⟨rfl, forall_mem_cons.2 ⟨⟨his, hoos⟩, hshape⟩⟩
    · rintro ⟨hrows, hshape⟩
      cases splits with
      | nil => cases hrows
      | cons s l =>
        cases hrows
        obtain ⟨⟨his, hoos⟩, hrest⟩ := forall_mem_cons.1 hshape
        have hs : checkModels c 0 (s.1.map .fin) (s.2.map .fin) = .ok s :=
          (checkModels_eq_ok (by rw [length_map, length_map, his, hoos])).2 ⟨rfl, rfl⟩
        rw [if_neg (by rwa [length_map, not_not]), if_neg (by rwa [length_map, not_not])]
        rw [hs, (ih l).2 ⟨rfl, hrest⟩]
        rfl

theorem splits_ne {first : List PyFloat} {rest oosMatrix : List (List PyFloat)} {c : ℕ} {splits : List (List ℚ × List ℚ)}
    (hlen : oosMatrix.length = (first :: rest).length)
    (h : checkSplits first.length c ((first :: rest).zip oosMatrix) = .ok splits) : splits ≠ [] := by
  rintro rfl
  have hrows := (checkSplits_eq_ok.1 h).1
  cases oosMatrix with
  | nil => cases hlen
  | cons _ _ => cases hrows

/-- **The checks of `calculate_pbo`.** -/
def validate (isMatrix oosMatrix : List (List PyFloat)) : Except PyExc PBOInput :=
  let nSplits := isMatrix.length
  let oosSplits := oosMatrix.length
  match isMatrix with
  | [] => .error (.exception "is_matrix must contain at least one split")
  | first :: rest =>
    if hlen : oosMatrix.length = (first :: rest).length then
      if hmodels : first.length = 0 then .error (.exception "is_matrix must contain at least one model column")
      else match hrun : checkSplits first.length 0 ((first :: rest).zip oosMatrix) with
        | .error e => .error e
        | .ok splits =>
          .ok ⟨first.length, splits, splits_ne hlen hrun, Nat.pos_of_ne_zero hmodels, (checkSplits_eq_ok.1 hrun).2⟩
    else .error (.exception s!"Dimension mismatch: is_matrix has {nSplits} splits, oos_matrix has {oosSplits}")

/-! ### The estimate -/

inductive PBORiskLevel where
  | low
  | moderate
  | high
  | severe
  deriving DecidableEq

structure PBOResult where
  pbo : ℚ
  nSplits : ℕ
  nModels : ℕ
  logits : List ℚ
  relativeRanks : List ℚ
  degradedSplitsCount : ℕ
  medianOosRank : ℚ
  riskLevel : PBORiskLevel
  deriving DecidableEq

def PBOResult.isOverfit (r : PBOResult) : Bool := decide (1 / 2 ≤ r.pbo)

def riskLevel (pbo : ℚ) : PBORiskLevel :=
  if pbo < 15 / 100 then .low else if pbo < 35 / 100 then .moderate else if pbo < 1 / 2 then .high else .severe

/-- `omega`: the relative rank of a split's selection. -/
def relativeRank (nModels : ℕ) (s : List ℚ × List ℚ) : ℚ :=
  let oosSelectedPerf := s.2.getD (firstMax s.1) 0
  let nLess := s.2.countP (· < oosSelectedPerf)
  let nEqual := s.2.countP (· = oosSelectedPerf)
  (nLess + 1 + 1 / 2 * ((nEqual : ℚ) - 1)) / (nModels + 1)

def logit (log : ℚ → ℚ) (omega : ℚ) : ℚ :=
  let clamped := min (max omega (1 / 10 ^ 6)) (1 - 1 / 10 ^ 6)
  log (clamped / (1 - clamped))

def relativeRanks (input : PBOInput) : List ℚ := input.splits.map (relativeRank input.nModels)

def degradedCount (ranks : List ℚ) : ℕ := ranks.countP (· ≤ 1 / 2)

def share (ranks : List ℚ) : ℚ := degradedCount ranks / ranks.length

def medianRank (ranks : List ℚ) : ℚ :=
  let sorted := ranks.mergeSort (· ≤ ·)
  let mid := ranks.length / 2
  if ranks.length % 2 = 1 then sorted.getD mid 0 else 1 / 2 * (sorted.getD (mid - 1) 0 + sorted.getD mid 0)

def resultOf (log : ℚ → ℚ) (nModels : ℕ) (ranks : List ℚ) : PBOResult where
  pbo := pyRound (share ranks) 4
  nSplits := ranks.length
  nModels := nModels
  logits := ranks.map fun omega => pyRound (logit log omega) 4
  relativeRanks := ranks.map fun omega => pyRound omega 4
  degradedSplitsCount := degradedCount ranks
  medianOosRank := pyRound (medianRank ranks) 4
  riskLevel := riskLevel (share ranks)

def calculatePbo (log : ℚ → ℚ) (isMatrix oosMatrix : List (List PyFloat)) : Except PyExc PBOResult := do
  let input ← validate isMatrix oosMatrix
  return resultOf log input.nModels (relativeRanks input)

/-! ### The matrices of an input -/

def PBOInput.isMatrix (input : PBOInput) : List (List PyFloat) := input.splits.map fun s => s.1.map .fin

def PBOInput.oosMatrix (input : PBOInput) : List (List PyFloat) := input.splits.map fun s => s.2.map .fin

theorem PBOInput.zip_matrices (input : PBOInput) : input.isMatrix.zip input.oosMatrix = input.splits.map floats :=
  zip_map' ..

theorem PBOInput.ext_splits {input input' : PBOInput} (h : input.splits = input'.splits) : input = input' := by
  obtain ⟨nModels, splits, hne, _, hshape⟩ := input
  obtain ⟨nModels', splits', _, _, hshape'⟩ := input'
  cases h
  obtain ⟨s, hs⟩ := exists_mem_of_ne_nil _ hne
  cases (hshape s hs).1.symm.trans (hshape' s hs).1
  rfl

theorem map_fin_injective : Function.Injective (List.map PyFloat.fin) :=
  map_injective_iff.2 fun _ _ h => PyFloat.fin.inj h

theorem floats_injective : Function.Injective floats := by
  rintro ⟨a, b⟩ ⟨a', b'⟩ h
  have hpair := Prod.mk.inj h
  exact Prod.ext (map_fin_injective hpair.1) (map_fin_injective hpair.2)

theorem validate_matrices {isMatrix oosMatrix : List (List PyFloat)} {input : PBOInput}
    (h : validate isMatrix oosMatrix = .ok input) : isMatrix = input.isMatrix ∧ oosMatrix = input.oosMatrix := by
  unfold validate at h
  dsimp only at h
  split at h
  · cases h
  · rename_i first rest
    split at h
    · rename_i hlen
      split at h
      · cases h
      · split at h
        · cases h
        · rename_i splits hrun
          cases h
          have hrows := (checkSplits_eq_ok.1 hrun).1
          have hfst := congrArg (List.map Prod.fst) hrows
          have hsnd := congrArg (List.map Prod.snd) hrows
          rw [map_fst_zip hlen.ge, map_map] at hfst
          rw [map_snd_zip hlen.le, map_map] at hsnd
          exact ⟨hfst, hsnd⟩
    · cases h

theorem validate_eq_ok {isMatrix oosMatrix : List (List PyFloat)} {input : PBOInput} :
    validate isMatrix oosMatrix = .ok input ↔ isMatrix = input.isMatrix ∧ oosMatrix = input.oosMatrix := by
  refine ⟨validate_matrices, ?_⟩
  rintro ⟨rfl, rfl⟩
  cases hrun : validate input.isMatrix input.oosMatrix with
  | ok input' =>
    obtain ⟨his, hoos⟩ := validate_matrices hrun
    have hsplits : input.splits.map floats = input'.splits.map floats := by
      rw [← input.zip_matrices, ← input'.zip_matrices, his, hoos]
    rw [PBOInput.ext_splits (map_injective_iff.2 floats_injective hsplits)]
  | error e =>
    exfalso
    obtain ⟨nModels, splits, hne, hpos, hshape⟩ := input
    cases splits with
    | nil => exact hne rfl
    | cons s l =>
      have hfirst : (s.1.map PyFloat.fin).length = nModels := by
        rw [length_map, (hshape s mem_cons_self).1]
      have hok : checkSplits nModels 0 ((s :: l).map floats) = .ok (s :: l) := checkSplits_eq_ok.2 ⟨rfl, hshape⟩
      rw [← PBOInput.zip_matrices ⟨nModels, s :: l, hne, hpos, hshape⟩] at hok
      unfold validate PBOInput.isMatrix PBOInput.oosMatrix at hrun
      dsimp only at hrun
      split at hrun
      · rename_i hnil
        cases hnil
      · rename_i hcons
        obtain ⟨rfl, rfl⟩ := List.cons.inj hcons
        split at hrun
        · split at hrun
          · rename_i hzero
            exact hpos.ne' (hfirst.symm.trans hzero)
          · split at hrun
            · rename_i hfail
              rw [hfirst] at hfail
              cases hfail.symm.trans hok
            · cases hrun
        · rename_i hlen
          exact hlen (by simp)

end Pbo
end Jqe
