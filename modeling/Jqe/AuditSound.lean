import Jqe.TerminalAudit
import Mathlib.Data.Fintype.Card
import Mathlib.Data.List.Find
/-!
# AuditSound — what a clean audit says of the positions

Where no fallback takes a trade that states an id or that has been taken before, a clean audit has matched every position
with a trade of its own.
-/
namespace Jqe

open List

theorem pairwise_get {α : Type} {R : α → α → Prop} {l : List α} (h : l.Pairwise R) (hsymm : ∀ a b, R a b → R b a)
    {i j : Fin l.length} (hij : i ≠ j) : R (l.get i) (l.get j) := by
  rcases lt_or_gt_of_ne hij with hlt | hlt
  · exact pairwise_iff_get.1 h i j hlt
  · exact hsymm _ _ (pairwise_iff_get.1 h j i hlt)

namespace TerminalReconciliationAuditor

def Stated (trades : List TrackedTradeState) (pid : String) : Prop := ∃ t ∈ trades, t.positionId = some pid

theorem lookup_foldl (pid : String) : ∀ (trades : List TrackedTradeState) (d : List (String × TrackedTradeState)),
    (∃ t ∈ trades, t.positionId = some pid ∧ (trades.foldl (fun d t => match t.positionId with
        | some pid => dictSet d pid t
        | none => d) d).lookup pid = some t) ∨
      (¬Stated trades pid ∧ (trades.foldl (fun d t => match t.positionId with
        | some pid => dictSet d pid t
        | none => d) d).lookup pid = d.lookup pid)
  | [], d => .inr ⟨by simp [Stated], rfl⟩
  | t :: ts, d => by
    rw [foldl_cons]
    rcases lookup_foldl pid ts (match t.positionId with
      | some pid => dictSet d pid t
      | none => d) with ⟨t', ht', hid, hl⟩ | ⟨hno, hl⟩
    · exact .inl ⟨t', mem_cons_of_mem _ ht', hid, hl⟩
    · by_cases hid : t.positionId = some pid
      · refine .inl ⟨t, mem_cons_self, hid, hl.trans ?_⟩
        rw [hid]
        dsimp only
        rw [lookup_dictSet, if_pos rfl]
      · refine .inr ⟨?_, hl.trans ?_⟩
        · rintro ⟨t', ht', hid'⟩
          rcases mem_cons.1 ht' with rfl | ht'
          · exact hid hid'
          · exact hno ⟨t', ht', hid'⟩
        · cases ht : t.positionId with
          | none => rfl
          | some x =>
            have hne : pid ≠ x := by
              rintro rfl
              exact hid ht
            dsimp only
            rw [lookup_dictSet, if_neg hne]

theorem lookup_trackedMap (trades : List TrackedTradeState) (pid : String) :
    (∃ t ∈ trades, t.positionId = some pid ∧ (trackedMap trades).lookup pid = some t) ∨
      (¬Stated trades pid ∧ (trackedMap trades).lookup pid = none) := by
  rcases lookup_foldl pid trades [] with h | ⟨hno, hl⟩
  · exact .inl h
  · exact .inr ⟨hno, hl⟩

variable [CaseMap] {a : TerminalReconciliationAuditor} {trades : List TrackedTradeState}

structure Accounts (p : Position) (t : TrackedTradeState) : Prop where
  symbol : normalizeSymbol p.symbol = t.symbol
  side : p.side = t.side
  volume : ∀ v, t.volume = some v → |p.volume - v| ≤ 1 / 10 ^ 4
  positionId : ∀ pid, t.positionId = some pid → p.positionId = pid

/-- **Every position has a trade of its own that accounts for it, and every trade that states an id has a position.** -/
def Accounted (positions : List Position) (trades : List TrackedTradeState) : Prop :=
  ∃ f : Fin positions.length → Fin trades.length, Function.Injective f ∧
    (∀ i, Accounts (positions.get i) (trades.get (f i))) ∧ ∀ j, (trades.get j).positionId.isSome = true → ∃ i, f i = j

/-- **Positions and trades on which the audit's matching is one to one**: ids are stated once and positions with stated
ids differ, a position without one falls back to a trade without one, and no two fall back on one symbol. -/
structure Separable (positions : List Position) (trades : List TrackedTradeState) : Prop where
  ids : trades.Pairwise fun s t => ∀ pid, s.positionId = some pid → t.positionId ≠ some pid
  distinct : positions.Pairwise fun p q => Stated trades p.positionId → p.positionId ≠ q.positionId
  fallback : ∀ pre p post, positions = pre ++ p :: post → ¬Stated trades p.positionId →
    ∀ t, fallback trades (pre.map (·.positionId)) p = some t → t.positionId = none
  lone : positions.Pairwise fun p q => ¬Stated trades p.positionId → ¬Stated trades q.positionId →
    normalizeSymbol p.symbol = normalizeSymbol q.symbol →
      ∀ t ∈ trades, t.symbol = normalizeSymbol p.symbol → t.positionId.isSome = true

theorem mismatches_nil {p : Position} {t : TrackedTradeState} (h : a.mismatches p t = [])
    (hid : ∀ pid, t.positionId = some pid → p.positionId = pid) : Accounts p t := by
  unfold mismatches at h
  simp only [append_eq_nil_iff, ite_eq_right_iff, cons_ne_nil, imp_false, not_not] at h
  obtain ⟨⟨⟨hsym, hside⟩, hvol⟩, _⟩ := h
  refine ⟨hsym, hside, fun v hv => ?_, hid⟩
  rw [hv] at hvol
  by_contra hlt
  simp only [if_pos (not_le.1 hlt)] at hvol
  cases hvol

theorem fallback_congr {m m' : List String} (p : Position) (h : ∀ pid, Stated trades pid → (pid ∈ m ↔ pid ∈ m')) :
    fallback trades m p = fallback trades m' p := by
  unfold fallback
  refine find?_congr fun t ht => ?_
  cases hid : t.positionId with
  | none => rfl
  | some pid => simp [h pid ⟨t, ht, hid⟩]

theorem reconcilePositions_nil {positions : List Position} (hs : Separable positions trades) :
    ∀ (ps pre : List Position) (matched : List String), positions = pre ++ ps →
      (∀ pid, pid ∈ matched ↔ pid ∈ pre.map (·.positionId) ∧ Stated trades pid) →
      (reconcilePositions a trades ps matched).1 = [] →
      (∀ p ∈ ps, ∃ t ∈ trades, Accounts p t ∧ (t.positionId = none → ¬Stated trades p.positionId)) ∧
        ∀ pid, pid ∈ (reconcilePositions a trades ps matched).2 ↔
          pid ∈ positions.map (·.positionId) ∧ Stated trades pid
  | [], pre, matched, hpos, hm, _ => by
    rw [append_nil] at hpos
    subst hpos
    exact ⟨fun p hp => absurd hp not_mem_nil, hm⟩
  | p :: ps, pre, matched, hpos, hm, hnil => by
    have hpos' : positions = (pre ++ [p]) ++ ps := by rw [hpos, append_assoc]; rfl
    unfold reconcilePositions at hnil ⊢
    dsimp only at hnil ⊢
    rw [append_eq_nil_iff] at hnil
    obtain ⟨hhere, hrest⟩ := hnil
    -- the trade of this position, and the matched ids after it
    have found : ∃ t ∈ trades, Accounts p t ∧ (t.positionId = none → ¬Stated trades p.positionId) ∧
        ∀ pid, pid ∈ (matchPosition trades matched p).2 ↔
          pid ∈ (pre ++ [p]).map (·.positionId) ∧ Stated trades pid := by
      unfold matchPosition at hhere ⊢
      rcases lookup_trackedMap trades p.positionId with ⟨t, ht, hid, hl⟩ | ⟨hno, hl⟩
      · rw [hl] at hhere ⊢
        dsimp only at hhere ⊢
        refine ⟨t, ht, mismatches_nil hhere fun pid h => Option.some.inj (hid.symm.trans h), fun h => ?_, fun pid => ?_⟩
        · rw [hid] at h
          cases h
        · rw [mem_cons, hm, map_append, mem_append, map_cons, map_nil, mem_singleton]
          constructor
          · rintro (rfl | ⟨hpre, hst⟩)
            · exact ⟨.inr rfl, t, ht, hid⟩
            · exact ⟨.inl hpre, hst⟩
          · rintro ⟨hpre | rfl, hst⟩
            · exact .inr ⟨hpre, hst⟩
            · exact .inl rfl
      · rw [hl] at hhere ⊢
        dsimp only at hhere ⊢
        have hcongr : fallback trades matched p = fallback trades (pre.map (·.positionId)) p :=
          fallback_congr p fun pid hst => ⟨fun h => ((hm pid).1 h).1, fun h => (hm pid).2 ⟨h, hst⟩⟩
        cases hf : fallback trades matched p with
        | none =>
          rw [hf] at hhere
          cases hhere
        | some t =>
          rw [hf] at hhere
          dsimp only at hhere ⊢
          have hnone := hs.fallback pre p ps hpos hno t (hcongr ▸ hf)
          refine ⟨t, mem_of_find?_eq_some hf, mismatches_nil hhere fun pid h => ?_, fun _ => hno, fun pid => ?_⟩
          · rw [hnone] at h
            cases h
          · rw [hnone, Option.toList_none, nil_append, hm, map_append, mem_append, map_cons,
              map_nil, mem_singleton]
            constructor
            · rintro ⟨hpre, hst⟩
              exact ⟨.inl hpre, hst⟩
            · rintro ⟨hpre | rfl, hst⟩
              · exact ⟨hpre, hst⟩
              · exact absurd hst hno
    obtain ⟨t, ht, hacc, hid, hm'⟩ := found
    obtain ⟨hall, hfinal⟩ := reconcilePositions_nil hs ps (pre ++ [p]) _ hpos' hm' hrest
    refine ⟨fun q hq => ?_, hfinal⟩
    rcases mem_cons.1 hq with rfl | hq
    · exact ⟨t, ht, hacc, hid⟩
    · exact hall q hq

omit [CaseMap] in
theorem phantoms_nil {matched : List String} (h : phantoms trades matched = []) {pid : String}
    (hst : Stated trades pid) : pid ∈ matched := by
  rcases lookup_trackedMap trades pid with ⟨t, _, _, hl⟩ | ⟨hno, _⟩
  · by_contra hnot
    unfold phantoms at h
    rw [map_eq_nil_iff, filter_eq_nil_iff] at h
    obtain ⟨l₁, l₂, hsplit, _⟩ := lookup_eq_some_iff.1 hl
    exact h (pid, t) (by rw [hsplit]; simp) (by simpa using hnot)
  · exact absurd hst hno

/-- **A clean audit of separable positions accounts for all of them.** -/
theorem audit_clean_accounted (a : TerminalReconciliationAuditor) (items : List PositionItem) (s : AuditSources)
    (report : AuditReconciliationReport) (trades : List TrackedTradeState)
    (haudit : a.audit (.ok items) s = .ok report) (hclean : report.isClean = true) (htrades : s.tracked = .ok trades)
    (hs : Separable (readable items) trades) : Accounted (readable items) trades := by
  have hreport : report = a.report items trades := by
    unfold audit at haudit
    rw [htrades] at haudit
    cases haudit
    rfl
  subst hreport
  unfold AuditReconciliationReport.isClean TerminalReconciliationAuditor.report at hclean
  dsimp only at hclean
  rw [List.isEmpty_iff, List.append_eq_nil_iff, List.append_eq_nil_iff] at hclean
  obtain ⟨⟨_, hloop⟩, hphantom⟩ := hclean
  obtain ⟨hall, hfinal⟩ := reconcilePositions_nil hs (readable items) [] [] rfl (by simp) hloop
  have choice : ∀ i, ∃ j, Accounts ((readable items).get i) (trades.get j) ∧
      ((trades.get j).positionId = none → ¬Stated trades ((readable items).get i).positionId) := by
    intro i
    obtain ⟨t, ht, hacc, hid⟩ := hall _ (List.get_mem _ i)
    obtain ⟨j, rfl⟩ := List.get_of_mem ht
    exact ⟨j, hacc, hid⟩
  choose f hacc hid using choice
  refine ⟨f, fun i i' heq => ?_, hacc, fun j hj => ?_⟩
  · by_contra hne
    cases ht : (trades.get (f i)).positionId with
    | none =>
      -- two positions that fell back on one symbol
      have hsome := pairwise_get hs.lone (fun p q h hq hp hsym t ht hts => h hp hq hsym.symm t ht (hts.trans hsym)) hne
        (hid i ht) (hid i' (heq ▸ ht)) ((hacc i).symbol.trans (heq ▸ (hacc i').symbol.symm)) _ (List.get_mem _ (f i))
        (hacc i).symbol.symm
      rw [ht] at hsome
      cases hsome
    | some pid =>
      have hi := (hacc i).positionId pid ht
      have hi' := (hacc i').positionId pid (heq ▸ ht)
      have hst : Stated trades ((readable items).get i).positionId := ⟨_, List.get_mem _ (f i), by rw [hi, ht]⟩
      exact pairwise_get hs.distinct (fun p q h hq heq' => h (heq' ▸ hq) heq'.symm) hne hst (hi.trans hi'.symm)
  · obtain ⟨pid, hpid⟩ := Option.isSome_iff_exists.1 hj
    have hst : Stated trades pid := ⟨_, List.get_mem _ j, hpid⟩
    obtain ⟨hmem, _⟩ := (hfinal pid).1 (phantoms_nil hphantom hst)
    obtain ⟨p, hp, rfl⟩ := List.mem_map.1 hmem
    obtain ⟨i, rfl⟩ := List.get_of_mem hp
    refine ⟨i, ?_⟩
    by_contra hne
    cases ht : (trades.get (f i)).positionId with
    | none => exact hid i ht hst
    | some pid' =>
      have hi := (hacc i).positionId pid' ht
      exact pairwise_get hs.ids (fun s t h pid ht hs' => h pid hs' ht) hne _ (hi ▸ ht) hpid

end TerminalReconciliationAuditor

section
open TerminalReconciliationAuditor

local instance auditCase : CaseMap := asciiCase

def auditedPosition (id symbol : String) : Position where
  positionId := id
  symbol
  side := .buy
  volume := 1
  openPrice := 100
  currentPrice := none
  profit := none
  stopLoss := none
  takeProfit := none
  openedAt := none
  magic := none
  comment := none

def sampleAuditor : TerminalReconciliationAuditor := ⟨"weltrade", none⟩

def sampleSources : AuditSources where
  explicitTracked := [{ symbol := "PAINX1200", side := .buy, positionId := some "1" }]
  activePlans := [⟨"GAINX1200", "BUY", none, none⟩]
  ledger := .ok []
  intents := .ok []

def sampleTrades : List TrackedTradeState :=
  [{ symbol := "PAINX1200", side := .buy, positionId := some "1" },
    { symbol := "GAINX1200", side := .buy, source := "trade_plan" }]

def sampleItems : List PositionItem :=
  [.position (auditedPosition "1" "PAINX1200"), .position (auditedPosition "2" "GAINX1200")]

theorem sample_stated : Stated sampleTrades "1" ∧ ¬Stated sampleTrades "2" := by
  simp [Stated, sampleTrades]

theorem sample_separable : Separable (readable sampleItems) sampleTrades where
  ids := by simp [sampleTrades]
  distinct := by simp [readable, sampleItems, auditedPosition]
  fallback pre p post hpos hno t ht := by
    rcases pre with _ | ⟨p₁, _ | ⟨p₂, pre⟩⟩
    · cases hpos
      exact absurd sample_stated.1 hno
    · cases hpos
      have hfall : fallback sampleTrades ["1"] (auditedPosition "2" "GAINX1200") =
          some { symbol := "GAINX1200", side := .buy, source := "trade_plan" } := by decide
      rw [map_cons, map_nil] at ht
      rw [show (auditedPosition "1" "PAINX1200").positionId = "1" from rfl, hfall] at ht
      cases ht
      rfl
    · simp [readable, sampleItems] at hpos
  lone := by
    refine pairwise_cons.2 ⟨fun q _ hp => absurd sample_stated.1 hp, pairwise_singleton _ _⟩

/-- A position of its own for each of the two trades. -/
theorem audit_clean_accounted_two : Accounted (readable sampleItems) sampleTrades :=
  audit_clean_accounted sampleAuditor sampleItems sampleSources (sampleAuditor.report sampleItems sampleTrades)
    sampleTrades rfl (by decide) (by decide) sample_separable

/-- **A clean audit can hide a position**: two positions fall back on one plan. -/
theorem audit_clean_unaccounted :
    ¬∀ (a : TerminalReconciliationAuditor) (items : List PositionItem) (s : AuditSources)
      (report : AuditReconciliationReport) (trades : List TrackedTradeState), a.audit (.ok items) s = .ok report →
      report.isClean = true → s.tracked = .ok trades → Accounted (readable items) trades := by
  intro h
  obtain ⟨f, hinj, _⟩ := h sampleAuditor
    [.position (auditedPosition "1" "PAINX1200"), .position (auditedPosition "2" "PAINX1200")]
    { explicitTracked := [], activePlans := [⟨"PAINX1200", "BUY", none, none⟩], ledger := .ok [], intents := .ok [] }
    _ [{ symbol := "PAINX1200", side := .buy, source := "trade_plan" }] rfl (by decide) (by decide)
  exact absurd (Fintype.card_le_of_injective f hinj) (by decide)

end

end Jqe
