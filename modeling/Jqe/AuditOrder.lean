import Jqe.AuditSound
import Jqe.PyDict
/-!
# AuditOrder — the audit under another enumeration

Where no trade is wanted by a second position and the ledger has one entry for a symbol, every position gets the trade
that it would get alone; elsewhere the trade of some position depends on the order.
-/
namespace Jqe

open List

section lists

variable {α : Type} {l l' : List α} {P : α → Bool}

theorem filter_eq_of_perm (h : l'.Perm l) (hnd : l.Nodup) (hone : ∀ e ∈ l, ∀ e' ∈ l, P e = true → P e' = true → e = e') :
    l'.filter P = l.filter P := by
  have hp : (l'.filter P).Perm (l.filter P) := h.filter P
  have hnd' : (l.filter P).Nodup := hnd.filter P
  have hall : ∀ e ∈ l.filter P, ∀ e' ∈ l.filter P, e = e' := by
    intro e he e' he'
    rw [mem_filter] at he he'
    exact hone e he.1 e' he'.1 he.2 he'.2
  match hl : l.filter P with
  | [] => rw [hl] at hp; exact hp.eq_nil
  | [x] => rw [hl] at hp; exact perm_singleton.1 hp
  | x :: y :: rest =>
    rw [hl] at hnd' hall
    have hxy : x = y := hall x (by simp) y (by simp)
    rw [nodup_cons] at hnd'
    exact absurd (by simp [hxy]) hnd'.1

theorem find?_eq_of_perm (h : l'.Perm l) (hnd : l.Nodup) (hone : ∀ e ∈ l, ∀ e' ∈ l, P e = true → P e' = true → e = e') :
    l'.find? P = l.find? P := by
  rw [← head?_filter, ← head?_filter, filter_eq_of_perm h hnd hone]

theorem find?_and_of_find? {Q : α → Bool} {t : α} (h : l.find? P = some t) (hq : Q t = true) :
    l.find? (fun x => P x && Q x) = some t := by
  obtain ⟨hP, pre, post, rfl, hpre⟩ := find?_eq_some_iff_append.1 h
  refine find?_eq_some_iff_append.2 ⟨by rw [hP, hq]; rfl, pre, post, rfl, fun x hx => ?_⟩
  have hx' := hpre x hx
  rw [Bool.not_eq_true'] at hx' ⊢
  rw [hx', Bool.false_and]

theorem find?_and_of_find?_none {Q : α → Bool} (h : l.find? P = none) : l.find? (fun x => P x && Q x) = none := by
  rw [List.find?_eq_none] at h ⊢
  intro x hx hPQ
  exact h x hx (Bool.and_eq_true_iff.1 hPQ).1

end lists

/-- What a source answered; one that could not be read has nothing. -/
def orNothing {β : Type} : Except PyExc (List β) → List β
  | .ok l => l
  | .error _ => []

theorem orSkipped_cases {β : Type} (x : Except PyExc (List β)) :
    (∃ e, orSkipped x = .error e) ∨ orSkipped x = .ok (orNothing x) := by
  cases x with
  | ok l => exact .inr rfl
  | error e =>
    unfold orSkipped
    dsimp only
    cases e.isException with
    | true => exact .inr rfl
    | false => exact .inl ⟨e, rfl⟩

namespace AuditSources

def ledgerEntries (s : AuditSources) : List AuditedEntry := orNothing s.ledger

def withLedger (s : AuditSources) (l : List AuditedEntry) : AuditSources :=
  match s.ledger with
  | .ok _ => { s with ledger := .ok l }
  | .error _ => s

variable [CaseMap]

def before (s : AuditSources) : List TrackedTradeState := s.explicitTracked ++ s.activePlans.map .fromTradePlan

def tradesOf (s : AuditSources) (l : List AuditedEntry) : List TrackedTradeState :=
  s.before ++ l.map .fromLedgerEntry ++ TrackedTradeState.ofAccepted (orNothing s.intents)

theorem tracked_ok {s : AuditSources} (hl : orSkipped s.ledger = .ok s.ledgerEntries)
    (hi : orSkipped s.intents = .ok (orNothing s.intents)) : s.tracked = .ok (s.tradesOf s.ledgerEntries) := by
  unfold tracked
  rw [hl, hi]
  rfl

theorem tracked_withLedger (s : AuditSources) {l : List AuditedEntry} (hl : l.Perm s.ledgerEntries) :
    (∃ e, (s.withLedger l).tracked = .error e ∧ s.tracked = .error e) ∨
      (s.withLedger l).tracked = .ok (s.tradesOf l) ∧ s.tracked = .ok (s.tradesOf s.ledgerEntries) := by
  obtain ⟨explicitTracked, activePlans, ledger, intents⟩ := s
  rcases orSkipped_cases intents with ⟨e, hi⟩ | hi
  · cases ledger with
    | ok l₀ => exact .inl ⟨e, by unfold tracked withLedger; rw [hi]; rfl, by unfold tracked; rw [hi]; rfl⟩
    | error e' =>
      rcases orSkipped_cases (.error e' : Except PyExc (List AuditedEntry)) with ⟨e₁, h₁⟩ | h₁
      · exact .inl ⟨e₁, by unfold tracked withLedger; rw [h₁]; rfl, by unfold tracked; rw [h₁]; rfl⟩
      · exact .inl ⟨e, by unfold tracked withLedger; rw [h₁, hi]; rfl, by unfold tracked; rw [h₁, hi]; rfl⟩
  · cases ledger with
    | ok l₀ => exact .inr ⟨tracked_ok rfl hi, tracked_ok rfl hi⟩
    | error e' =>
      have hnil : l = [] := hl.eq_nil
      subst hnil
      rcases orSkipped_cases (.error e' : Except PyExc (List AuditedEntry)) with ⟨e₁, h₁⟩ | h₁
      · exact .inl ⟨e₁, by unfold tracked withLedger; rw [h₁]; rfl, by unfold tracked; rw [h₁]; rfl⟩
      · exact .inr ⟨tracked_ok h₁ hi, tracked_ok h₁ hi⟩

end AuditSources

namespace TerminalReconciliationAuditor

variable [CaseMap] {a : TerminalReconciliationAuditor} {trades trades' : List TrackedTradeState}

def firstOn (trades : List TrackedTradeState) (p : Position) : Option TrackedTradeState :=
  trades.find? fun t => t.symbol == normalizeSymbol p.symbol

def firstId (trades : List TrackedTradeState) (p : Position) : Option String :=
  (firstOn trades p).bind (·.positionId)

/-- **No trade is wanted twice**: the first trade on the symbol of a position that falls back is neither the first trade
of another one that falls back nor stated for a position. -/
structure Uncontested (trades : List TrackedTradeState) (ps : List Position) : Prop where
  lone : ps.Pairwise fun p q => ¬Stated trades p.positionId → ¬Stated trades q.positionId →
    ∀ x, firstId trades p = some x → firstId trades q ≠ some x
  unlisted : ∀ p ∈ ps, ¬Stated trades p.positionId → ∀ x, firstId trades p = some x → ∀ q ∈ ps, q.positionId ≠ x

def Free (trades : List TrackedTradeState) (matched : List String) (p : Position) : Prop :=
  ¬Stated trades p.positionId → ∀ x, firstId trades p = some x → x ∉ matched

def alone (trades : List TrackedTradeState) (p : Position) : Option TrackedTradeState := (matchPosition trades [] p).1

def takes (trades : List TrackedTradeState) (p : Position) : List String := (matchPosition trades [] p).2

theorem matchPosition_stated (p : Position) (h : Stated trades p.positionId) (matched : List String) :
    matchPosition trades matched p = ((trackedMap trades).lookup p.positionId, p.positionId :: matched) := by
  rcases lookup_trackedMap trades p.positionId with ⟨t, _, _, hl⟩ | ⟨hno, _⟩
  · unfold matchPosition
    rw [hl]
  · exact absurd h hno

theorem matchPosition_unstated (p : Position) (h : ¬Stated trades p.positionId) (matched : List String) :
    matchPosition trades matched p =
      (fallback trades matched p, ((fallback trades matched p).bind (·.positionId)).toList ++ matched) := by
  rcases lookup_trackedMap trades p.positionId with ⟨t, ht, hid, _⟩ | ⟨_, hl⟩
  · exact absurd ⟨t, ht, hid⟩ h
  · unfold matchPosition
    rw [hl]
    dsimp only
    cases fallback trades matched p <;> rfl

variable {matched : List String} {p : Position}

theorem fallback_free (h : ∀ x, firstId trades p = some x → x ∉ matched) :
    fallback trades matched p = firstOn trades p := by
  unfold fallback
  cases hf : firstOn trades p with
  | none => exact find?_and_of_find?_none hf
  | some t =>
    refine find?_and_of_find? hf ?_
    cases hid : t.positionId with
    | none => rfl
    | some x => simpa using h x (by rw [firstId, hf]; exact hid)

theorem takes_stated (p : Position) (h : Stated trades p.positionId) : takes trades p = [p.positionId] := by
  rw [takes, matchPosition_stated p h]

theorem alone_unstated (p : Position) (h : ¬Stated trades p.positionId) : alone trades p = firstOn trades p := by
  rw [alone, matchPosition_unstated p h, fallback_free (fun _ _ => not_mem_nil)]

theorem takes_unstated (p : Position) (h : ¬Stated trades p.positionId) :
    takes trades p = (firstId trades p).toList := by
  rw [takes, matchPosition_unstated p h, fallback_free (fun _ _ => not_mem_nil), append_nil]
  rfl

theorem matchPosition_free (h : Free trades matched p) :
    matchPosition trades matched p = (alone trades p, takes trades p ++ matched) := by
  by_cases hst : Stated trades p.positionId
  · rw [takes_stated p hst, alone, matchPosition_stated p hst, matchPosition_stated p hst]
    rfl
  · rw [takes_unstated p hst, alone_unstated p hst, matchPosition_unstated p hst, fallback_free (h hst)]
    rfl

theorem matchPosition_taken (hst : ¬Stated trades p.positionId) {x : String} (hx : firstId trades p = some x)
    (hm : x ∈ matched) : (matchPosition trades matched p).1 ≠ alone trades p := by
  rw [matchPosition_unstated p hst, alone_unstated p hst]
  intro heq
  unfold firstId at hx
  cases hf : firstOn trades p with
  | none =>
    rw [hf] at hx
    cases hx
  | some t =>
    rw [hf] at hx heq
    have hfound := find?_some heq
    rw [Bool.and_eq_true_iff, show t.positionId = some x from hx] at hfound
    simp [hm] at hfound

def discrepanciesOf (a : TerminalReconciliationAuditor) (trades : List TrackedTradeState) (p : Position) :
    List ReconciliationDiscrepancy :=
  match alone trades p with
  | some t => a.mismatches p t
  | none => [a.untracked p]

theorem Uncontested.free {ps : List Position} (h : Uncontested trades (p :: ps))
    (hfree : ∀ q ∈ ps, Free trades matched q) : ∀ q ∈ ps, Free trades (takes trades p ++ matched) q := by
  intro q hq hst x hx hmem
  rcases mem_append.1 hmem with hmem | hmem
  · by_cases hp : Stated trades p.positionId
    · rw [takes_stated p hp, mem_singleton] at hmem
      exact h.unlisted q (mem_cons_of_mem _ hq) hst x hx p mem_cons_self hmem.symm
    · rw [takes_unstated p hp, Option.mem_toList] at hmem
      exact (pairwise_cons.1 h.lone).1 q hq hp hst x hmem hx
  · exact hfree q hq hst x hx hmem

theorem Uncontested.tail {ps : List Position} (h : Uncontested trades (p :: ps)) :
    Uncontested trades ps where
  lone := (pairwise_cons.1 h.lone).2
  unlisted q hq hst x hx r hr := h.unlisted q (mem_cons_of_mem _ hq) hst x hx r (mem_cons_of_mem _ hr)

/-- **The loop over uncontested positions**: each has the discrepancies that it has alone. -/
theorem reconcilePositions_free : ∀ (ps : List Position) (matched : List String), Uncontested trades ps →
    (∀ p ∈ ps, Free trades matched p) →
    (reconcilePositions a trades ps matched).1 = ps.flatMap (discrepanciesOf a trades) ∧
      ∀ pid, pid ∈ (reconcilePositions a trades ps matched).2 ↔ pid ∈ matched ∨ ∃ p ∈ ps, pid ∈ takes trades p
  | [], matched, _, _ => ⟨rfl, fun pid => by simp [reconcilePositions]⟩
  | p :: ps, matched, hun, hfree => by
    have hp := matchPosition_free (hfree p mem_cons_self)
    obtain ⟨hds, hids⟩ := reconcilePositions_free ps (takes trades p ++ matched) hun.tail
      (hun.free fun q hq => hfree q (mem_cons_of_mem _ hq))
    unfold reconcilePositions
    rw [hp]
    dsimp only
    refine ⟨by rw [hds]; rfl, fun pid => ?_⟩
    rw [hids, mem_append, exists_mem_cons_iff]
    tauto

theorem free_after : ∀ (pre : List Position) (matched : List String) (p : Position) (post : List Position),
    Uncontested trades (pre ++ p :: post) → (∀ q ∈ pre ++ p :: post, Free trades matched q) →
    (matchPosition trades (reconcilePositions a trades pre matched).2 p).1 = alone trades p
  | [], matched, p, post, _, hfree => by
    rw [show (reconcilePositions a trades [] matched).2 = matched from rfl,
      matchPosition_free (hfree p mem_cons_self)]
  | q :: pre, matched, p, post, hun, hfree => by
    unfold reconcilePositions
    rw [matchPosition_free (hfree q mem_cons_self)]
    exact free_after pre _ p post hun.tail (hun.free fun r hr => hfree r (mem_cons_of_mem _ hr))

/-- **Positions and a ledger whose order does not matter**: no trade is wanted twice, and a position that falls back
finds a trade before the ledger's or at most one entry of the ledger on its symbol. -/
structure Settled (s : AuditSources) (ps : List Position) : Prop where
  uncontested : Uncontested (s.tradesOf s.ledgerEntries) ps
  ledger : ∀ p ∈ ps, ¬Stated (s.tradesOf s.ledgerEntries) p.positionId →
    (∃ t ∈ s.before, t.symbol = normalizeSymbol p.symbol) ∨
      ∀ e ∈ s.ledgerEntries, ∀ e' ∈ s.ledgerEntries, normalizeSymbol e.symbol = normalizeSymbol p.symbol →
        normalizeSymbol e'.symbol = normalizeSymbol p.symbol → e = e'

/-- **In every order each position is matched with one and the same trade.** -/
def MatchedAlike (a : TerminalReconciliationAuditor) (s : AuditSources) (ps : List Position) : Prop :=
  ∀ ps' l', List.Perm ps' ps → List.Perm l' s.ledgerEntries → ∀ pre p post, ps' = pre ++ p :: post →
    (matchPosition (s.tradesOf l') (reconcilePositions a (s.tradesOf l') pre []).2 p).1 =
      alone (s.tradesOf s.ledgerEntries) p

def kinds (r : AuditReconciliationReport) : List (ReconciliationDiscrepancyType × Option String) :=
  r.discrepancies.map fun d => (d.type, d.positionId)

/-- **Two audits say the same.** -/
def SameVerdict : Except PyExc AuditReconciliationReport → Except PyExc AuditReconciliationReport → Prop
  | .ok r, .ok r' => r'.isClean = r.isClean ∧ (kinds r').Perm (kinds r)
  | .error e, .error e' => e = e'
  | _, _ => False

section reordered

variable {s : AuditSources} {l l' : List AuditedEntry} {ps ps' : List Position}

theorem tradesOf_perm (s : AuditSources) (h : l'.Perm l) : (s.tradesOf l').Perm (s.tradesOf l) :=
  (((h.map _).append_left _).append_right _)

omit [CaseMap] in
theorem stated_of_perm (h : trades'.Perm trades) (pid : String) : Stated trades' pid ↔ Stated trades pid := by
  unfold Stated
  constructor
  · rintro ⟨t, ht, hid⟩
    exact ⟨t, h.subset ht, hid⟩
  · rintro ⟨t, ht, hid⟩
    exact ⟨t, h.symm.subset ht, hid⟩

theorem stated_tradesOf (s : AuditSources) (h : l'.Perm l) (pid : String) :
    Stated (s.tradesOf l') pid ↔ Stated (s.tradesOf l) pid := stated_of_perm (tradesOf_perm s h) pid

omit [CaseMap] in
theorem lookup_foldl_filter (pid : String) : ∀ (trades : List TrackedTradeState) (d d' : List (String × TrackedTradeState)),
    d.lookup pid = d'.lookup pid →
    (trades.foldl (fun d t => match t.positionId with
      | some pid => dictSet d pid t
      | none => d) d).lookup pid =
    ((trades.filter fun t => t.positionId == some pid).foldl (fun d t => match t.positionId with
      | some pid => dictSet d pid t
      | none => d) d').lookup pid
  | [], d, d', h => h
  | t :: ts, d, d', h => by
    rw [foldl_cons, filter_cons]
    by_cases hid : t.positionId = some pid
    · rw [if_pos (by simp [hid]), foldl_cons]
      refine lookup_foldl_filter pid ts _ _ ?_
      rw [hid]
      dsimp only
      rw [lookup_dictSet, if_pos rfl, lookup_dictSet, if_pos rfl]
    · rw [if_neg (by simpa using hid)]
      refine lookup_foldl_filter pid ts _ _ (Eq.trans ?_ h)
      cases ht : t.positionId with
      | none => rfl
      | some x =>
        have hne : pid ≠ x := by
          rintro rfl
          exact hid ht
        dsimp only
        rw [lookup_dictSet, if_neg hne]

omit [CaseMap] in
theorem lookup_filter (trades : List TrackedTradeState) (pid : String) : (trackedMap trades).lookup pid =
    (trackedMap (trades.filter fun t => t.positionId == some pid)).lookup pid :=
  lookup_foldl_filter pid trades [] [] rfl

theorem lookup_tradesOf (s : AuditSources) (hkey : (l.map (·.positionId)).Nodup) (h : l'.Perm l) (pid : String) :
    (trackedMap (s.tradesOf l')).lookup pid = (trackedMap (s.tradesOf l)).lookup pid := by
  rw [lookup_filter, lookup_filter (s.tradesOf l)]
  have hfilter : (s.tradesOf l').filter (fun t => t.positionId == some pid) =
      (s.tradesOf l).filter (fun t => t.positionId == some pid) := by
    unfold AuditSources.tradesOf
    rw [filter_append, filter_append, filter_append, filter_append, filter_map,
      filter_map, filter_eq_of_perm h (List.Nodup.of_map _ hkey)]
    intro e he e' he' hP hP'
    have hid : e.positionId = pid := by simpa [TrackedTradeState.fromLedgerEntry] using hP
    have hid' : e'.positionId = pid := by simpa [TrackedTradeState.fromLedgerEntry] using hP'
    exact inj_on_of_nodup_map hkey he he' (hid.trans hid'.symm)
  rw [hfilter]

variable {p : Position} {items' : List PositionItem}

theorem firstOn_tradesOf (hkey : (s.ledgerEntries.map (·.positionId)).Nodup) (h : l'.Perm s.ledgerEntries)
    (hp : (∃ t ∈ s.before, t.symbol = normalizeSymbol p.symbol) ∨
      ∀ e ∈ s.ledgerEntries, ∀ e' ∈ s.ledgerEntries, normalizeSymbol e.symbol = normalizeSymbol p.symbol →
        normalizeSymbol e'.symbol = normalizeSymbol p.symbol → e = e') :
    firstOn (s.tradesOf l') p = firstOn (s.tradesOf s.ledgerEntries) p := by
  unfold firstOn AuditSources.tradesOf
  rw [find?_append, find?_append, find?_append, find?_append]
  rcases hp with ⟨t, ht, hsym⟩ | hone
  · cases hf : s.before.find? fun t => t.symbol == normalizeSymbol p.symbol with
    | some t' => rfl
    | none =>
      rw [List.find?_eq_none] at hf
      exact absurd (by simpa using hsym) (hf t ht)
  · rw [find?_map, find?_map, find?_eq_of_perm h (List.Nodup.of_map _ hkey)]
    intro e he e' he' hP hP'
    exact hone e he e' he' (by simpa [TrackedTradeState.fromLedgerEntry] using hP)
      (by simpa [TrackedTradeState.fromLedgerEntry] using hP')

theorem Settled.matchPosition_eq (hs : Settled s ps) (hkey : (s.ledgerEntries.map (·.positionId)).Nodup)
    (h : l'.Perm s.ledgerEntries) (hp : p ∈ ps) :
    matchPosition (s.tradesOf l') [] p = matchPosition (s.tradesOf s.ledgerEntries) [] p := by
  by_cases hst : Stated (s.tradesOf s.ledgerEntries) p.positionId
  · rw [matchPosition_stated p hst, matchPosition_stated p ((stated_tradesOf s h _).2 hst), lookup_tradesOf s hkey h]
  · have hst' : ¬Stated (s.tradesOf l') p.positionId := fun hs' => hst ((stated_tradesOf s h _).1 hs')
    rw [matchPosition_unstated p hst, matchPosition_unstated p hst', fallback_free (fun _ _ => not_mem_nil),
      fallback_free (fun _ _ => not_mem_nil), firstOn_tradesOf hkey h (hs.ledger p hp hst)]

theorem Settled.uncontested_of_perm (hs : Settled s ps) (hkey : (s.ledgerEntries.map (·.positionId)).Nodup)
    (h : l'.Perm s.ledgerEntries) (hps : ps'.Perm ps) : Uncontested (s.tradesOf l') ps' := by
  have hfirst : ∀ p ∈ ps, ¬Stated (s.tradesOf s.ledgerEntries) p.positionId →
      firstId (s.tradesOf l') p = firstId (s.tradesOf s.ledgerEntries) p := fun p hp hst => by
    unfold firstId
    rw [firstOn_tradesOf hkey h (hs.ledger p hp hst)]
  constructor
  · refine (hps.pairwise_iff ?_).2 (hs.uncontested.lone.imp_of_mem ?_)
    · intro p q hpq hq hp x hx hxp
      exact hpq hp hq x hxp hx
    · intro p q hp hq hpq hstp hstq x hx
      rw [stated_tradesOf s h] at hstp hstq
      rw [hfirst p hp hstp] at hx
      rw [hfirst q hq hstq]
      exact hpq hstp hstq x hx
  · intro p hp hst x hx q hq
    rw [stated_tradesOf s h] at hst
    rw [hfirst p (hps.subset hp) hst] at hx
    exact hs.uncontested.unlisted p (hps.subset hp) hst x hx q (hps.subset hq)

theorem free_nil (p : Position) : Free trades [] p := fun _ _ _ => not_mem_nil

theorem Settled.matchedAlike (hs : Settled s ps) (hkey : (s.ledgerEntries.map (·.positionId)).Nodup) :
    MatchedAlike a s ps := by
  rintro ps' l' hps hl pre p post rfl
  rw [free_after pre [] p post (hs.uncontested_of_perm hkey hl hps) fun q _ => free_nil q]
  unfold alone
  rw [hs.matchPosition_eq hkey hl (hps.subset (by simp))]

/-! ### The verdict -/

omit [CaseMap] in
theorem keys_foldl : ∀ (trades : List TrackedTradeState) (d : List (String × TrackedTradeState)),
    (d.map Prod.fst).Nodup →
    ((trades.foldl (fun d t => match t.positionId with
      | some pid => dictSet d pid t
      | none => d) d).map Prod.fst).Nodup ∧
    ∀ pid, pid ∈ (trades.foldl (fun d t => match t.positionId with
      | some pid => dictSet d pid t
      | none => d) d).map Prod.fst ↔ pid ∈ d.map Prod.fst ∨ Stated trades pid
  | [], d, hd => ⟨hd, fun pid => by simp [Stated]⟩
  | t :: ts, d, hd => by
    rw [foldl_cons]
    cases ht : t.positionId with
    | none =>
      obtain ⟨hnd, hmem⟩ := keys_foldl ts d hd
      exact ⟨hnd, fun pid => by simp [hmem, Stated, ht]⟩
    | some x =>
      obtain ⟨hnd, hmem⟩ := keys_foldl ts (dictSet d x t) ((PyDict.mk d hd).set x t).nodup
      refine ⟨hnd, fun pid => ?_⟩
      rw [hmem, PyDict.map_fst_dictSet]
      have hst : Stated (t :: ts) pid ↔ pid = x ∨ Stated ts pid := by
        simp [Stated, ht, eq_comm]
      rw [hst]
      by_cases hx : x ∈ d.map Prod.fst
      · rw [if_pos hx]
        constructor
        · rintro (h | h)
          · exact .inl h
          · exact .inr (.inr h)
        · rintro (h | rfl | h)
          · exact .inl h
          · exact .inl hx
          · exact .inr h
      · rw [if_neg hx, mem_append, mem_singleton]
        exact or_assoc

def leftOver (trades : List TrackedTradeState) (matched : List String) : List String :=
  ((trackedMap trades).map Prod.fst).filter (· ∉ matched)

omit [CaseMap] in
theorem phantoms_kinds (trades : List TrackedTradeState) (matched : List String) :
    (phantoms trades matched).map (fun d => (d.type, d.positionId)) =
      (leftOver trades matched).map fun pid => (.phantomInternalPosition, some pid) := by
  unfold phantoms leftOver
  rw [filter_map, map_map, map_map]
  rfl

omit [CaseMap] in
theorem leftOver_perm (h : trades'.Perm trades) {m m' : List String} (hm : ∀ pid, pid ∈ m' ↔ pid ∈ m) :
    (leftOver trades' m').Perm (leftOver trades m) := by
  obtain ⟨hnd, hmem⟩ := keys_foldl trades [] nodup_nil
  obtain ⟨hnd', hmem'⟩ := keys_foldl trades' [] nodup_nil
  refine (perm_ext_iff_of_nodup (hnd'.filter _) (hnd.filter _)).2 fun pid => ?_
  rw [mem_filter, mem_filter, hmem, hmem', stated_of_perm h]
  simp [hm]

/-- **The verdict on settled positions is the same in every order.** -/
theorem Settled.kinds_perm {items : List PositionItem} (hs : Settled s (readable items))
    (hkey : (s.ledgerEntries.map (·.positionId)).Nodup) (hl : l'.Perm s.ledgerEntries) (hitems : items'.Perm items)
    (hps : (readable items').Perm (readable items)) :
    (kinds (a.report items' (s.tradesOf l'))).Perm (kinds (a.report items (s.tradesOf s.ledgerEntries))) := by
  obtain ⟨hloop, hids⟩ := reconcilePositions_free (a := a) (readable items) [] hs.uncontested fun p _ => free_nil p
  obtain ⟨hloop', hids'⟩ := reconcilePositions_free (a := a) (readable items') []
    (hs.uncontested_of_perm hkey hl hps) fun p _ => free_nil p
  unfold kinds report
  dsimp only
  rw [map_append, map_append, map_append, map_append, hloop, hloop', phantoms_kinds, phantoms_kinds]
  refine ((((hitems.filter _).map _).map _).append ?_).append ?_
  · refine (List.Perm.trans ?_ (hps.flatMap_right _)).map _
    refine List.Perm.flatMap_left _ fun p hp => ?_
    unfold discrepanciesOf alone
    rw [hs.matchPosition_eq hkey hl (hps.subset hp)]
  · refine (leftOver_perm (tradesOf_perm s hl) fun pid => ?_).map _
    rw [hids, hids']
    refine or_congr_right ⟨?_, ?_⟩
    · rintro ⟨p, hp, hpid⟩
      unfold takes at hpid
      rw [hs.matchPosition_eq hkey hl (hps.subset hp)] at hpid
      exact ⟨p, hps.subset hp, hpid⟩
    · rintro ⟨p, hp, hpid⟩
      refine ⟨p, hps.symm.subset hp, ?_⟩
      unfold takes
      rw [hs.matchPosition_eq hkey hl hp]
      exact hpid

omit [CaseMap] in
theorem readable_perm {items : List PositionItem} (h : items'.Perm items) :
    (readable items').Perm (readable items) := by
  have hmap : ∀ items : List PositionItem, readable items = items.filterMap fun
      | .position p => some p
      | .other => none := by
    intro items
    induction items with
    | nil => rfl
    | cons item items ih =>
      cases item with
      | position p => rw [readable, ih]; rfl
      | other => rw [readable, ih]; rfl
  rw [hmap, hmap]
  exact h.filterMap _

theorem isClean_report (a : TerminalReconciliationAuditor) (items : List PositionItem) (trades : List TrackedTradeState) :
    (a.report items trades).isClean = (kinds (a.report items trades)).isEmpty := by
  unfold kinds
  rw [isEmpty_map]
  rfl

/-- **Audits of settled positions say the same in every order.** -/
theorem Settled.sameVerdict {items : List PositionItem} (hs : Settled s (readable items))
    (hkey : (s.ledgerEntries.map (·.positionId)).Nodup) (hl : l'.Perm s.ledgerEntries) (hitems : items'.Perm items) :
    SameVerdict (a.audit (.ok items) s) (a.audit (.ok items') (s.withLedger l')) := by
  unfold audit
  rcases s.tracked_withLedger hl with ⟨e, he', he⟩ | ⟨hok', hok⟩
  · rw [he, he']
    rfl
  · rw [hok, hok']
    have hkinds := hs.kinds_perm (a := a) hkey hl hitems (readable_perm hitems)
    refine ⟨?_, hkinds⟩
    rw [isClean_report, isClean_report]
    exact Bool.eq_iff_iff.2 ⟨fun h => by
      rw [List.isEmpty_iff] at h ⊢
      exact (h ▸ hkinds).nil_eq.symm, fun h => by
      rw [List.isEmpty_iff] at h ⊢
      exact (h ▸ hkinds).eq_nil⟩

/-! ### Where the order decides -/

omit [CaseMap] in
theorem exists_perm_cons {β : Type} {l : List β} {x : β} (h : x ∈ l) : ∃ rest, (x :: rest).Perm l := by
  obtain ⟨pre, post, rfl⟩ := append_of_mem h
  exact ⟨pre ++ post, perm_middle.symm⟩

theorem MatchedAlike.not_taken (h : MatchedAlike a s ps) {q : Position} {rest : List Position}
    (hps : (q :: p :: rest).Perm ps) (hst : ¬Stated (s.tradesOf s.ledgerEntries) p.positionId) {x : String}
    (hx : firstId (s.tradesOf s.ledgerEntries) p = some x) : x ∉ takes (s.tradesOf s.ledgerEntries) q := by
  intro hmem
  have hpre : (reconcilePositions a (s.tradesOf s.ledgerEntries) [q] []).2 = takes (s.tradesOf s.ledgerEntries) q := rfl
  have heq := h _ _ hps (List.Perm.refl _) [q] p rest rfl
  rw [hpre] at heq
  exact matchPosition_taken hst hx hmem heq

theorem firstOn_cons (s : AuditSources) (e : AuditedEntry) (rest : List AuditedEntry)
    (hno : ¬∃ t ∈ s.before, t.symbol = normalizeSymbol p.symbol)
    (he : normalizeSymbol e.symbol = normalizeSymbol p.symbol) :
    firstOn (s.tradesOf (e :: rest)) p = some (.fromLedgerEntry e) := by
  have hbefore : s.before.find? (fun t => t.symbol == normalizeSymbol p.symbol) = none := by
    rw [List.find?_eq_none]
    intro t ht hsym
    exact hno ⟨t, ht, by simpa using hsym⟩
  unfold firstOn AuditSources.tradesOf
  rw [append_assoc, find?_append, hbefore, Option.none_or, map_cons, cons_append,
    find?_cons_of_pos (by simpa [TrackedTradeState.fromLedgerEntry] using he)]

theorem MatchedAlike.alone_eq (h : MatchedAlike a s ps) (hp : p ∈ ps)
    (hst : ¬Stated (s.tradesOf s.ledgerEntries) p.positionId)
    (hno : ¬∃ t ∈ s.before, t.symbol = normalizeSymbol p.symbol) {e : AuditedEntry} (he : e ∈ s.ledgerEntries)
    (hsym : normalizeSymbol e.symbol = normalizeSymbol p.symbol) :
    alone (s.tradesOf s.ledgerEntries) p = some (.fromLedgerEntry e) := by
  obtain ⟨ps', hps⟩ := exists_perm_cons hp
  obtain ⟨l', hl⟩ := exists_perm_cons he
  have heq : alone (s.tradesOf (e :: l')) p = _ := h _ _ hps hl [] p ps' rfl
  rw [← heq, alone_unstated p fun hs' => hst ((stated_tradesOf s hl _).1 hs'), firstOn_cons s e l' hno hsym]

theorem MatchedAlike.settled (h : MatchedAlike a s ps) (hkey : (s.ledgerEntries.map (·.positionId)).Nodup) :
    Settled s ps := by
  refine ⟨⟨?_, ?_⟩, ?_⟩
  · refine pairwise_iff_forall_sublist.2 ?_
    intro p q hsub hp hq x hx hxq
    obtain ⟨rest, hrest⟩ := hsub.exists_perm_append
    have hps : (q :: p :: rest).Perm ps := (List.Perm.swap p q rest).trans hrest.symm
    refine h.not_taken hps hp hx ?_
    rw [takes_unstated q hq, hxq]
    simp
  · intro p hp hst x hx q hq hqx
    obtain ⟨t, ht, hid⟩ := Option.bind_eq_some_iff.1 hx
    have hstq : Stated (s.tradesOf s.ledgerEntries) q.positionId := ⟨t, mem_of_find?_eq_some ht, hqx ▸ hid⟩
    obtain ⟨ps', hps⟩ := exists_perm_cons hp
    have hq' : q ∈ ps' := by
      rcases mem_cons.1 (hps.symm.subset hq) with rfl | hq'
      · exact absurd hstq hst
      · exact hq'
    obtain ⟨rest, hrest⟩ := exists_perm_cons hq'
    refine h.not_taken ((List.Perm.swap p q rest).trans ((hrest.cons p).trans hps)) hst hx ?_
    rw [takes_stated q hstq, hqx]
    exact mem_singleton_self x
  · intro p hp hst
    by_cases hno : ∃ t ∈ s.before, t.symbol = normalizeSymbol p.symbol
    · exact .inl hno
    · refine .inr fun e he e' he' hsym hsym' => ?_
      have heq := (h.alone_eq hp hst hno he hsym).symm.trans (h.alone_eq hp hst hno he' hsym')
      have hid : some e.positionId = some e'.positionId :=
        congrArg (fun t : Option TrackedTradeState => t.bind (·.positionId)) heq
      exact inj_on_of_nodup_map hkey he he' (Option.some.inj hid)

end reordered

/-- **Audits say the same in every order where no position's trade depends on it, and its trade does not exactly where
the positions are settled.**  The ledger has one entry for a position id, its key. -/
theorem settled_iff_order_free (a : TerminalReconciliationAuditor) (items : List PositionItem) (s : AuditSources)
    (hkey : (s.ledgerEntries.map (·.positionId)).Nodup) :
    (Settled s (readable items) ↔ MatchedAlike a s (readable items)) ∧
      (Settled s (readable items) → ∀ items' l', List.Perm items' items → List.Perm l' s.ledgerEntries →
        SameVerdict (a.audit (.ok items) s) (a.audit (.ok items') (s.withLedger l'))) :=
  ⟨⟨fun h => h.matchedAlike hkey, fun h => h.settled hkey⟩, fun h _ _ hitems hl => h.sameVerdict hkey hl hitems⟩

end TerminalReconciliationAuditor

section
open TerminalReconciliationAuditor

local instance orderCase : CaseMap := asciiCase

def orderedSources : AuditSources where
  explicitTracked := []
  activePlans := [⟨"GAINX1200", "BUY", none, none⟩]
  ledger := .ok [⟨"PAINX1200", "1", "10"⟩]
  intents := .ok []

def orderedTrades : List TrackedTradeState :=
  [{ symbol := "GAINX1200", side := .buy, source := "trade_plan" },
    { symbol := "PAINX1200", side := .buy, positionId := some "1", orderId := some "10", source := "ledger_entry" }]

theorem orderedSources_trades : orderedSources.tradesOf orderedSources.ledgerEntries = orderedTrades := by decide

theorem orderedSources_settled : TerminalReconciliationAuditor.Settled orderedSources (readable sampleItems) := by
  have hone : Stated (orderedSources.tradesOf orderedSources.ledgerEntries)
      (auditedPosition "1" "PAINX1200").positionId := by
    rw [orderedSources_trades]
    simp [Stated, orderedTrades, auditedPosition]
  have htwo : firstId (orderedSources.tradesOf orderedSources.ledgerEntries) (auditedPosition "2" "GAINX1200") = none := by
    rw [orderedSources_trades]
    rfl
  have hmem : ∀ p ∈ readable sampleItems, p = auditedPosition "1" "PAINX1200" ∨ p = auditedPosition "2" "GAINX1200" := by
    simp [readable, sampleItems]
  constructor
  · constructor
    · exact pairwise_cons.2 ⟨fun q _ hp => absurd hone hp, pairwise_singleton _ _⟩
    · intro p hp hst x hx
      rcases hmem p hp with rfl | rfl
      · exact absurd hone hst
      · rw [htwo] at hx
        cases hx
  · intro p hp hst
    rcases hmem p hp with rfl | rfl
    · exact absurd hone hst
    · exact .inl ⟨{ symbol := "GAINX1200", side := .buy, source := "trade_plan" }, by decide⟩

/-- One verdict for the two orders of two positions. -/
theorem settled_iff_order_free_two : SameVerdict (sampleAuditor.audit (.ok sampleItems) orderedSources)
    (sampleAuditor.audit (.ok sampleItems.reverse) (orderedSources.withLedger orderedSources.ledgerEntries)) :=
  (settled_iff_order_free sampleAuditor sampleItems orderedSources (by decide)).2 orderedSources_settled _ _
    (List.reverse_perm _) (List.Perm.refl _)

/-- **The order decides**: two positions on the symbol of the ledger's only entry, one of them with its id.  The other
one is untracked, unless it stands first and takes the entry. -/
theorem audit_order_decides :
    ¬∀ (a : TerminalReconciliationAuditor) (items items' : List PositionItem) (s : AuditSources)
      (l' : List AuditedEntry), items'.Perm items → l'.Perm s.ledgerEntries →
      SameVerdict (a.audit (.ok items) s) (a.audit (.ok items') (s.withLedger l')) := by
  intro h
  have hsame := h sampleAuditor
    [.position (auditedPosition "1" "PAINX1200"), .position (auditedPosition "9" "PAINX1200")]
    [.position (auditedPosition "9" "PAINX1200"), .position (auditedPosition "1" "PAINX1200")]
    orderedSources orderedSources.ledgerEntries (List.Perm.swap _ _ _) (List.Perm.refl _)
  have hclean : true = false := hsame.1
  cases hclean

end

end Jqe
