import Jqe.PyBase
import Mathlib.Data.Finset.Insert
import Mathlib.Tactic.Linarith
/-!
# Continuation — `execution/continuation_preparation.py`, `execution/pending_limits.py`: drafts that share one budget

A preview reserves risk, pending slots and keys for the drafts it has found ready, and the next candidate is judged by
what is left (`continuation_caps`).  The rounding of float arithmetic is any function `fl`; a moment without a timezone
is `none`, and the others are microseconds.
-/
namespace Jqe

structure LimitDraft where
  symbol : String
  side : String
  entry : PyFloat
  stopLoss : PyFloat
  takeProfit : PyFloat
  riskAmount : PyFloat
  idempotencyKey : String
  deriving DecidableEq

structure LimitPreparation where
  ready : Bool
  reason : String
  deriving DecidableEq

def positive (v : PyFloat) : Bool := v.isFinite && PyFloat.zero.lt v

def PyFloat.value (v : PyFloat) : ℚ := v.rat?.getD 0

def limitLevelsValid (draft : LimitDraft) (bid ask : PyFloat) : Bool :=
  if draft.side = "BUY" then
    draft.stopLoss.lt draft.entry && draft.entry.lt draft.takeProfit && draft.entry.lt ask
  else if draft.side = "SELL" then
    draft.takeProfit.lt draft.entry && draft.entry.lt draft.stopLoss && bid.lt draft.entry
  else false

def prepareLimit [CaseMap] (draft : LimitDraft) (bid ask : PyFloat) (openSymbols pendingSymbols : List String)
    (snapshotsComplete riskApproved : Bool) (authorizedRiskAmount : PyFloat) (totalCap : ℤ)
    (usedKeys : Finset String) : LimitPreparation :=
  if snapshotsComplete = false ∨ (∃ s ∈ openSymbols ++ pendingSymbols, blank s = true) ∨ ∃ s ∈ usedKeys, blank s = true then
    ⟨false, "BROKER_STATE_UNAVAILABLE"⟩
  else if ¬(1 ≤ totalCap ∧ totalCap ≤ 5) then ⟨false, "CAP_UNAVAILABLE"⟩
  else if 2 ≤ pendingSymbols.length then ⟨false, "PENDING_LIMIT_REACHED"⟩
  else if totalCap ≤ openSymbols.length + pendingSymbols.length then ⟨false, "TOTAL_CAP_REACHED"⟩
  else if blank draft.symbol = true ∨ blank draft.idempotencyKey = true then ⟨false, "INVALID_DRAFT"⟩
  else if draft.idempotencyKey ∈ usedKeys then ⟨false, "DUPLICATE_DRAFT"⟩
  else if normalizeSymbol draft.symbol ∈ (openSymbols ++ pendingSymbols).map normalizeSymbol then
    ⟨false, "SAME_SYMBOL_BLOCKED"⟩
  else if (∃ v ∈ [bid, ask, draft.entry, draft.stopLoss, draft.takeProfit, draft.riskAmount, authorizedRiskAmount],
      positive v = false) ∨ ask.lt bid = true then
    ⟨false, "PRICE_OR_RISK_UNAVAILABLE"⟩
  else if riskApproved = false ∨ authorizedRiskAmount.lt draft.riskAmount = true then ⟨false, "RISK_NOT_APPROVED"⟩
  else if limitLevelsValid draft bid ask = true then ⟨true, "DRAFT_READY_NOT_AUTHORIZED_FOR_SUBMISSION"⟩
  else ⟨false, "INVALID_LIMIT_LEVELS"⟩

def continuationFactors : Finset String := {"trend", "structure", "liquidity", "momentum", "volatility", "risk"}

structure ContinuationEvidence where
  signal : String
  regime : String
  confirmedFactors : Finset String
  observedAt : Option ℤ
  closedBarAt : Option ℤ
  provider : String
  continuationConfirmed : Bool
  riskApproved : Bool
  authorizedRiskAmount : PyFloat
  bid : PyFloat
  ask : PyFloat
  barSeconds : ℤ := 300

structure ContinuationCandidate where
  draft : LimitDraft
  evidence : ContinuationEvidence

structure PreparedContinuation where
  draft : LimitDraft
  ready : Bool
  reason : String
  submissionAuthorized : Bool := false
  deriving DecidableEq

def ContinuationEvidence.fresh (evidence : ContinuationEvidence) (now : Option ℤ) : Bool :=
  match now, evidence.observedAt, evidence.closedBarAt with
  | some now, some observedAt, some closedBarAt =>
    evidence.provider = "weltrade" && (evidence.barSeconds = 60 || evidence.barSeconds = 300) &&
      (0 ≤ now - closedBarAt && now - closedBarAt ≤ (evidence.barSeconds + 90) * 10 ^ 6) &&
      (0 ≤ now - observedAt && now - observedAt ≤ 90 * 10 ^ 6) && closedBarAt ≤ observedAt
  | _, _, _ => false

structure ContinuationAccount where
  openSymbols : List String
  pendingSymbols : List String
  snapshotsComplete : Bool
  usedKeys : Finset String
  verifiedDemo : Bool
  equity : PyFloat
  currency : String
  totalCap : ℤ
  totalRiskBudget : PyFloat
  existingReservedRisk : PyFloat

def ContinuationAccount.stateValid (fl : ℚ → ℚ) (a : ContinuationAccount) : Bool :=
  a.snapshotsComplete && a.verifiedDemo && a.currency = "USD" && positive a.equity && positive a.totalRiskBudget &&
    a.existingReservedRisk.isFinite && PyFloat.zero.le a.existingReservedRisk &&
    a.totalRiskBudget.le (.fin (fl (a.equity.value * fl (5 / 1000)))) &&
    (1 ≤ a.totalCap && a.totalCap ≤ if (PyFloat.fin 50).le a.equity then 5 else 1)

structure ContinuationPreview where
  outcomes : List PreparedContinuation
  previewPending : List String
  previewKeys : Finset String
  reserved : ℚ

/-- The reward for each unit of risk falls short, or there is no risk. -/
def rewardTooSmall (fl : ℚ → ℚ) (draft : LimitDraft) : Bool :=
  let risk := |fl (draft.entry.value - draft.stopLoss.value)|
  let reward := |fl (draft.takeProfit.value - draft.entry.value)|
  risk = 0 || fl (reward / risk) < 3 / 2

def continuationRefusal (fl : ℚ → ℚ) (a : ContinuationAccount) (now : Option ℤ) (reserved : ℚ)
    (c : ContinuationCandidate) : Option String :=
  if a.stateValid fl = false then some "COMPLETE_DEMO_ACCOUNT_RISK_STATE_REQUIRED"
  else if c.evidence.fresh now = false then some "FRESH_CLOSED_BROKER_EVIDENCE_REQUIRED"
  else if c.evidence.continuationConfirmed = false ∨ c.evidence.regime ≠ "TRENDING" ∨ c.evidence.signal ≠ c.draft.side ∨
      c.evidence.confirmedFactors ≠ continuationFactors then
    some "CONTINUATION_AND_ALL_FACTORS_REQUIRED"
  else if positive c.draft.riskAmount = false ∨
      a.totalRiskBudget.lt (.fin (fl (reserved + c.draft.riskAmount.value))) = true then
    some "COMBINED_RISK_BUDGET_EXCEEDED"
  else if (∀ v ∈ [c.draft.entry, c.draft.stopLoss, c.draft.takeProfit], positive v = true) ∧
      rewardTooSmall fl c.draft = true then
    some "CANONICAL_MINIMUM_REWARD_RISK_REQUIRED"
  else none

def prepareCandidate [CaseMap] (fl : ℚ → ℚ) (a : ContinuationAccount) (now : Option ℤ) (p : ContinuationPreview)
    (c : ContinuationCandidate) : ContinuationPreview :=
  let result : LimitPreparation :=
    match continuationRefusal fl a now p.reserved c with
    | some reason => ⟨false, reason⟩
    | none =>
      prepareLimit c.draft c.evidence.bid c.evidence.ask a.openSymbols p.previewPending true c.evidence.riskApproved
        c.evidence.authorizedRiskAmount a.totalCap p.previewKeys
  let outcomes := p.outcomes ++ [{ draft := c.draft, ready := result.ready, reason := result.reason }]
  if result.ready then
    { outcomes
      previewPending := p.previewPending ++ [c.draft.symbol]
      previewKeys := insert c.draft.idempotencyKey p.previewKeys
      reserved := fl (p.reserved + c.draft.riskAmount.value) }
  else { p with outcomes }

def prepareContinuationBatch [CaseMap] (fl : ℚ → ℚ) (a : ContinuationAccount) (now : Option ℤ)
    (candidates : List ContinuationCandidate) : List PreparedContinuation :=
  (candidates.foldl (prepareCandidate fl a now)
    ⟨[], a.pendingSymbols, a.usedKeys, a.existingReservedRisk.value⟩).outcomes

def readyDrafts (outcomes : List PreparedContinuation) : List LimitDraft :=
  (outcomes.filter (·.ready)).map (·.draft)

def reservedWith (fl : ℚ → ℚ) (reserved : ℚ) (drafts : List LimitDraft) : ℚ :=
  drafts.foldl (fun sum d => fl (sum + d.riskAmount.value)) reserved

end Jqe

/-! ## What the ready drafts of a batch keep together -/

namespace Jqe

open List

variable {fl : ℚ → ℚ} {a : ContinuationAccount} {now : Option ℤ}

/-- Stop, entry and target in the side's order. -/
def LimitDraft.LevelsOrdered (d : LimitDraft) : Prop :=
  (d.side = "BUY" ∧ d.stopLoss.lt d.entry = true ∧ d.entry.lt d.takeProfit = true) ∨
    (d.side = "SELL" ∧ d.takeProfit.lt d.entry = true ∧ d.entry.lt d.stopLoss = true)

theorem positive_iff (v : PyFloat) : positive v = true ↔ ∃ q, v = .fin q ∧ 0 < q := by
  unfold positive
  rw [Bool.and_eq_true, PyFloat.isFinite_iff]
  constructor
  · rintro ⟨⟨q, rfl⟩, hpos⟩
    exact ⟨q, rfl, of_decide_eq_true hpos⟩
  · rintro ⟨q, rfl, hpos⟩
    exact ⟨⟨q, rfl⟩, decide_eq_true hpos⟩

theorem limitLevelsValid_ordered {d : LimitDraft} {bid ask : PyFloat} (h : limitLevelsValid d bid ask = true) :
    d.LevelsOrdered := by
  unfold limitLevelsValid at h
  split at h
  · rename_i hside
    rw [Bool.and_eq_true, Bool.and_eq_true] at h
    exact .inl ⟨hside, h.1⟩
  · split at h
    · rename_i hside
      rw [Bool.and_eq_true, Bool.and_eq_true] at h
      exact .inr ⟨hside, h.1⟩
    · cases h

theorem stateValid_fin (h : a.stateValid fl = true) :
    ∃ existing budget, a.existingReservedRisk = .fin existing ∧ a.totalRiskBudget = .fin budget := by
  unfold ContinuationAccount.stateValid at h
  simp only [Bool.and_eq_true] at h
  obtain ⟨⟨⟨⟨⟨-, hbudget⟩, hexisting⟩, -⟩, -⟩, -⟩ := h
  obtain ⟨budget, hbudget, -⟩ := (positive_iff _).1 hbudget
  obtain ⟨existing, hexisting⟩ := (PyFloat.isFinite_iff _).1 hexisting
  exact ⟨existing, budget, hexisting, hbudget⟩

theorem continuationRefusal_none {reserved : ℚ} {c : ContinuationCandidate}
    (h : continuationRefusal fl a now reserved c = none) :
    (∃ existing budget, a.existingReservedRisk = .fin existing ∧ a.totalRiskBudget = .fin budget ∧
      fl (reserved + c.draft.riskAmount.value) ≤ budget) ∧ ∃ risk, c.draft.riskAmount = .fin risk ∧ 0 < risk := by
  unfold continuationRefusal at h
  split at h
  · cases h
  rename_i hvalid
  split at h
  · cases h
  split at h
  · cases h
  split at h
  · cases h
  rename_i hrisk
  rw [not_or] at hrisk
  obtain ⟨existing, budget, hexisting, hbudget⟩ := stateValid_fin (by simpa using hvalid)
  have hwithin := hrisk.2
  rw [hbudget, PyFloat.lt_fin, decide_eq_true_eq, not_lt] at hwithin
  exact ⟨⟨existing, budget, hexisting, hbudget, hwithin⟩, (positive_iff _).1 (by simpa using hrisk.1)⟩

theorem reservedWith_append (reserved : ℚ) (drafts : List LimitDraft) (d : LimitDraft) :
    reservedWith fl reserved (drafts ++ [d]) = fl (reservedWith fl reserved drafts + d.riskAmount.value) := by
  rw [reservedWith, foldl_append]
  rfl

theorem reservedWith_id : ∀ (drafts : List LimitDraft) (reserved : ℚ),
    reservedWith id reserved drafts = reserved + (drafts.map fun d => d.riskAmount.value).sum
  | [], reserved => (add_zero reserved).symm
  | d :: ds, reserved => by
    have hrest := reservedWith_id ds (reserved + d.riskAmount.value)
    rw [map_cons, sum_cons, ← add_assoc]
    exact hrest

theorem readyDrafts_append (outcomes : List PreparedContinuation) (o : PreparedContinuation) :
    readyDrafts (outcomes ++ [o]) = readyDrafts outcomes ++ if o.ready = true then [o.draft] else [] := by
  unfold readyDrafts
  rw [filter_append, map_append]
  by_cases hready : o.ready = true
  · rw [if_pos hready, filter_cons_of_pos hready]
    rfl
  · rw [if_neg hready, filter_cons_of_neg hready]
    rfl

section

variable [CaseMap]

theorem prepareLimit_ready {draft : LimitDraft} {bid ask authorized : PyFloat} {openSymbols pendingSymbols : List String}
    {complete approved : Bool} {totalCap : ℤ} {usedKeys : Finset String}
    (h : (prepareLimit draft bid ask openSymbols pendingSymbols complete approved authorized totalCap usedKeys).ready
      = true) :
    pendingSymbols.length < 2 ∧ ((openSymbols.length + pendingSymbols.length : ℕ) : ℤ) < totalCap ∧
      draft.idempotencyKey ∉ usedKeys ∧
      normalizeSymbol draft.symbol ∉ (openSymbols ++ pendingSymbols).map normalizeSymbol ∧ draft.LevelsOrdered := by
  unfold prepareLimit at h
  split at h
  · cases h
  split at h
  · cases h
  split at h
  · cases h
  rename_i hpending
  split at h
  · cases h
  rename_i htotal
  split at h
  · cases h
  split at h
  · cases h
  rename_i hkey
  split at h
  · cases h
  rename_i hsymbol
  split at h
  · cases h
  split at h
  · cases h
  split at h
  · rename_i hlevels
    push_cast
    exact ⟨not_le.1 hpending, not_le.1 htotal, hkey, hsymbol, limitLevelsValid_ordered hlevels⟩
  · cases h

/-- **The caps that the drafts keep jointly.** -/
structure ContinuationCaps (fl : ℚ → ℚ) (a : ContinuationAccount) (ready : List LimitDraft) : Prop where
  risks : ∀ d ∈ ready, ∃ risk, d.riskAmount = .fin risk ∧ 0 < risk
  /-- as the additions round, and so without a rounding: the sum -/
  budget : ready ≠ [] → ∃ existing budget, a.existingReservedRisk = .fin existing ∧ a.totalRiskBudget = .fin budget ∧
    reservedWith fl existing ready ≤ budget ∧
      (fl = id → existing + (ready.map fun d => d.riskAmount.value).sum ≤ budget)
  total : ready ≠ [] → ((a.openSymbols.length + a.pendingSymbols.length + ready.length : ℕ) : ℤ) ≤ a.totalCap
  pending : ready ≠ [] → a.pendingSymbols.length + ready.length ≤ 2
  symbols : (ready.map fun d => normalizeSymbol d.symbol).Nodup ∧
    ∀ d ∈ ready, normalizeSymbol d.symbol ∉ (a.openSymbols ++ a.pendingSymbols).map normalizeSymbol
  keys : (ready.map (·.idempotencyKey)).Nodup ∧ ∀ d ∈ ready, d.idempotencyKey ∉ a.usedKeys
  levels : ∀ d ∈ ready, d.LevelsOrdered

structure PreviewInv (fl : ℚ → ℚ) (a : ContinuationAccount) (p : ContinuationPreview) : Prop where
  previewPending : p.previewPending = a.pendingSymbols ++ (readyDrafts p.outcomes).map (·.symbol)
  previewKeys : ∀ k, k ∈ p.previewKeys ↔ k ∈ a.usedKeys ∨ k ∈ (readyDrafts p.outcomes).map (·.idempotencyKey)
  reserved : p.reserved = reservedWith fl a.existingReservedRisk.value (readyDrafts p.outcomes)
  caps : ContinuationCaps fl a (readyDrafts p.outcomes)

theorem ContinuationCaps.append {ready : List LimitDraft} (h : ContinuationCaps fl a ready) {d : LimitDraft}
    {existing budget risk : ℚ} (hexisting : a.existingReservedRisk = .fin existing)
    (hbudget : a.totalRiskBudget = .fin budget) (hrisk : d.riskAmount = .fin risk) (hpos : 0 < risk)
    (hwithin : reservedWith fl existing (ready ++ [d]) ≤ budget)
    (hpending : a.pendingSymbols.length + ready.length < 2)
    (htotal : ((a.openSymbols.length + a.pendingSymbols.length + ready.length : ℕ) : ℤ) < a.totalCap)
    (hkey : d.idempotencyKey ∉ a.usedKeys) (hfresh : d.idempotencyKey ∉ ready.map (·.idempotencyKey))
    (hsymbol : normalizeSymbol d.symbol ∉ (a.openSymbols ++ a.pendingSymbols).map normalizeSymbol)
    (hother : normalizeSymbol d.symbol ∉ ready.map fun x => normalizeSymbol x.symbol) (hlevels : d.LevelsOrdered) :
    ContinuationCaps fl a (ready ++ [d]) := by
  have hall : ∀ {P : LimitDraft → Prop}, (∀ x ∈ ready, P x) → P d → ∀ x ∈ ready ++ [d], P x := by
    intro P hready hd x hx
    rcases mem_append.1 hx with hx | hx
    · exact hready x hx
    · rw [mem_singleton.1 hx]
      exact hd
  have hlength : (ready ++ [d]).length = ready.length + 1 := length_append
  have hnodup : ∀ {f : LimitDraft → String}, (ready.map f).Nodup → f d ∉ ready.map f → ((ready ++ [d]).map f).Nodup := by
    intro f hnodup hnew
    rw [map_append]
    exact hnodup.append (nodup_singleton _) (disjoint_singleton.2 hnew)
  constructor
  · exact hall h.risks ⟨risk, hrisk, hpos⟩
  · refine fun _ => ⟨existing, budget, hexisting, hbudget, hwithin, ?_⟩
    rintro rfl
    rwa [reservedWith_id] at hwithin
  · intro _
    rw [hlength]
    omega
  · intro _
    rw [hlength]
    omega
  · exact ⟨hnodup h.symbols.1 hother, hall h.symbols.2 hsymbol⟩
  · exact ⟨hnodup h.keys.1 hfresh, hall h.keys.2 hkey⟩
  · exact hall h.levels hlevels

theorem prepareCandidate_inv {p : ContinuationPreview} (h : PreviewInv fl a p) (c : ContinuationCandidate) :
    PreviewInv fl a (prepareCandidate fl a now p c) := by
  have hrefused : ∀ reason, PreviewInv fl a { p with
      outcomes := p.outcomes ++ [{ draft := c.draft, ready := false, reason }] } := by
    intro reason
    have hsame : readyDrafts (p.outcomes ++ [{ draft := c.draft, ready := false, reason }]) = readyDrafts p.outcomes := by
      rw [readyDrafts_append]
      exact append_nil _
    constructor
    · rw [hsame]
      exact h.previewPending
    · rw [hsame]
      exact h.previewKeys
    · rw [hsame]
      exact h.reserved
    · rw [hsame]
      exact h.caps
  unfold prepareCandidate
  cases hrefusal : continuationRefusal fl a now p.reserved c with
  | some reason => exact hrefused reason
  | none =>
    dsimp only
    generalize hresult : prepareLimit c.draft _ _ _ _ _ _ _ _ _ = result
    obtain ⟨ready, reason⟩ := result
    cases ready with
    | false => exact hrefused reason
    | true =>
      obtain ⟨⟨existing, budget, hexisting, hbudget, hwithin⟩, risk, hrisk, hpos⟩ := continuationRefusal_none hrefusal
      obtain ⟨hpending, htotal, hkey, hsymbol, hlevels⟩ := prepareLimit_ready (congrArg LimitPreparation.ready hresult)
      have hready : ∀ reason, readyDrafts (p.outcomes ++ [{ draft := c.draft, ready := true, reason }])
          = readyDrafts p.outcomes ++ [c.draft] := fun reason => readyDrafts_append _ _
      have hreserved : fl (p.reserved + c.draft.riskAmount.value)
          = reservedWith fl a.existingReservedRisk.value (readyDrafts p.outcomes ++ [c.draft]) := by
        rw [reservedWith_append, h.reserved]
      have hcount : p.previewPending.length = a.pendingSymbols.length + (readyDrafts p.outcomes).length := by
        rw [h.previewPending, length_append, length_map]
      rw [h.previewKeys, not_or] at hkey
      rw [h.previewPending, ← append_assoc, map_append, mem_append, not_or, map_map] at hsymbol
      rw [if_pos rfl]
      constructor
      · rw [hready, h.previewPending, map_append, append_assoc]
        rfl
      · intro k
        rw [hready, Finset.mem_insert, h.previewKeys, map_append, mem_append, map_singleton,
          mem_singleton]
        tauto
      · rw [hready]
        exact hreserved
      · rw [hready]
        refine h.caps.append hexisting hbudget hrisk hpos ?_ (by omega) (by omega) hkey.1 hkey.2 hsymbol.1 hsymbol.2
          hlevels
        rw [hexisting] at hreserved
        exact hreserved.symm.le.trans hwithin

/-- **The drafts that a batch returns ready keep every cap together**, whatever the account's state is. -/
theorem continuation_caps (fl : ℚ → ℚ) (a : ContinuationAccount) (now : Option ℤ)
    (candidates : List ContinuationCandidate) :
    ContinuationCaps fl a (readyDrafts (prepareContinuationBatch fl a now candidates)) := by
  have hrun : ∀ (cs : List ContinuationCandidate) (p : ContinuationPreview), PreviewInv fl a p →
      PreviewInv fl a (cs.foldl (prepareCandidate fl a now) p) := by
    intro cs
    induction cs with
    | nil => exact fun p hp => hp
    | cons c cs ih => exact fun p hp => ih _ (prepareCandidate_inv hp c)
  have hempty : ContinuationCaps fl a [] := by
    constructor <;> simp
  have hstart : PreviewInv fl a ⟨[], a.pendingSymbols, a.usedKeys, a.existingReservedRisk.value⟩ := by
    refine ⟨(List.append_nil _).symm, fun k => ?_, rfl, hempty⟩
    simp [readyDrafts]
  exact (hrun candidates _ hstart).caps

end

def spentAccount : ContinuationAccount where
  openSymbols := []
  pendingSymbols := ["A", "B", "C"]
  snapshotsComplete := true
  usedKeys := ∅
  verifiedDemo := true
  equity := .fin 1000
  currency := "USD"
  totalCap := 5
  totalRiskBudget := .fin 5
  existingReservedRisk := .fin 6

/-- With no draft ready, nothing bounds what was reserved and pending before. -/
theorem continuation_caps_spent : ¬∀ (a : ContinuationAccount) (candidates : List ContinuationCandidate),
    a.stateValid id = true →
      let ready := readyDrafts (@prepareContinuationBatch asciiCase id a (some 0) candidates)
      reservedWith id a.existingReservedRisk.value ready ≤ a.totalRiskBudget.value ∧
        a.pendingSymbols.length + ready.length ≤ 2 := by
  intro h
  have hvalid : spentAccount.stateValid id = true := by decide +kernel
  have hspent := (h spentAccount [] hvalid).1
  exact absurd hspent (by decide)

end Jqe
