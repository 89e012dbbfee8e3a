import Jqe.CoroEnds
import Jqe.PaperLifecycle
import Jqe.PaperSafety
/-!
# PaperReplay — what the runtime closes and what `replay` closes

`run_once` observes the newest candle of a batch when it is newer than every one taken before; `replay` observes every
candle.  Both close a contract at the first exit among what they observe (`closeOn`).
-/
namespace Jqe

open Coro Prog List

/-! ### The first exit of a chronological list -/

theorem findSome?_eq_some_iff_first {β : Type} {f : ClosedMarketObservation → Option β}
    {os : List ClosedMarketObservation} (hsorted : os.Pairwise fun o o' => o.closedAt < o'.closedAt) {x : β} :
    os.findSome? f = some x ↔
      ∃ o ∈ os, f o = some x ∧ ∀ o' ∈ os, o'.closedAt < o.closedAt → f o' = none := by
  rw [findSome?_eq_some_iff]
  constructor
  · rintro ⟨before, o, after, rfl, hfound, hnone⟩
    refine ⟨o, by simp, hfound, fun o' ho' hlt => ?_⟩
    rw [pairwise_append] at hsorted
    rcases mem_append.1 ho' with hmem | hmem
    · exact hnone o' hmem
    · rcases mem_cons.1 hmem with rfl | hafter
      · omega
      · have hlater := (pairwise_cons.1 hsorted.2.1).1 o' hafter
        omega
  · rintro ⟨o, ho, hfound, hnone⟩
    obtain ⟨before, after, rfl⟩ := append_of_mem ho
    refine ⟨before, o, after, rfl, hfound, fun o' ho' => hnone o' (mem_append_left _ ho') ?_⟩
    rw [pairwise_append] at hsorted
    exact hsorted.2.2 o' ho' o mem_cons_self

theorem eq_of_closedAt {os : List ClosedMarketObservation} (hsorted : os.Pairwise fun o o' => o.closedAt < o'.closedAt)
    {o o' : ClosedMarketObservation} (ho : o ∈ os) (ho' : o' ∈ os) (heq : o.closedAt = o'.closedAt) : o = o' := by
  obtain ⟨i, hi, rfl⟩ := getElem_of_mem ho
  obtain ⟨j, hj, rfl⟩ := getElem_of_mem ho'
  rw [pairwise_iff_getElem] at hsorted
  rcases Nat.lt_trichotomy i j with hij | hij | hij
  · have hlt := hsorted i j hi hj hij
    omega
  · subst hij
    rfl
  · have hlt := hsorted j i hj hi hij
    omega

namespace PaperContractEngine

/-! ### Candles observed one by one -/

/-- **The close that the first exit among candles makes.** -/
def closeOn (e : PaperContractEngine) (c : String) (p : PaperPosition) (os : List ClosedMarketObservation) :
    Option PaperClose :=
  os.findSome? fun o => (p.levelExit o).map fun found => e.closeOf c p o found.1 found.2

variable {e : PaperContractEngine} {c : String} {p : PaperPosition}

theorem observe_open {o : ClosedMarketObservation} (hp : e.positions.get? c = some p) (hclose : e.closes.get? c = none)
    (hsymbol : o.canonicalSymbol = p.symbol) (hlater : p.lastObservedAt < o.closedAt) :
    e.observe c o false false = match p.levelExit o with
      | none => (.ok none, { e with positions := e.positions.set c { p with lastObservedAt := o.closedAt } })
      | some (reason, price) => (.ok (some (e.closeOf c p o reason price)),
          { e with
            closes := e.closes.set c (e.closeOf c p o reason price)
            positions := e.positions.set c
              { p with lastObservedAt := o.closedAt, closeRequested := true, state := .closed } }) := by
  have hexit : p.exit? o false false = p.levelExit o := by
    unfold PaperPosition.exit?
    cases p.levelExit o <;> rfl
  unfold observe
  rw [hp]
  dsimp only
  rw [hclose, if_neg (by simp), if_neg (not_not.2 hsymbol), if_neg (by omega)]
  generalize p.exit? o false false = found at hexit ⊢
  subst hexit
  cases p.levelExit o with
  | none => rfl
  | some found => rfl

/-- **`replay` closes at the first exit.** -/
theorem replay_eq_closeOn (c : String) : ∀ (os : List ClosedMarketObservation) {e : PaperContractEngine}
    {p : PaperPosition}, e.positions.get? c = some p → e.closes.get? c = none →
      (∀ o ∈ os, o.canonicalSymbol = p.symbol) → (∀ o ∈ os, p.lastObservedAt < o.closedAt) →
      (os.Pairwise fun o o' => o.closedAt < o'.closedAt) → (e.replay c false os).1 = .ok (e.closeOn c p os)
  | [], _, _, _, _, _, _, _ => rfl
  | o :: rest, e, p, hp, hclose, hsymbol, hlater, hsorted => by
    obtain ⟨hfirst, hrest⟩ := pairwise_cons.1 hsorted
    unfold replay closeOn
    rw [Bool.false_and, observe_open hp hclose (hsymbol o mem_cons_self) (hlater o mem_cons_self),
      findSome?_cons]
    cases hexit : p.levelExit o with
    | some found => rfl
    | none =>
      have ih := replay_eq_closeOn c rest (p := { p with lastObservedAt := o.closedAt })
        (e := { e with positions := e.positions.set c { p with lastObservedAt := o.closedAt } }) (PyDict.get?_set_self e.positions c _) hclose (fun o' ho' => hsymbol o' (mem_cons_of_mem _ ho')) hfirst hrest
      exact ih

def view (e : PaperContractEngine) (c : String) : PaperContractSpecification × Option PaperPosition × Option PaperClose :=
  (e.specification, e.positions.get? c, e.closes.get? c)

theorem observe_view_of_ne (e : PaperContractEngine) {c' : String} (o : ClosedMarketObservation) (s f : Bool)
    (h : c' ≠ c) : (e.observe c o s f).2.view c' = e.view c' := by
  rcases observe_cases e c o s f with ⟨exc, heq⟩ | ⟨p, -, -, -, -, ⟨-, heq⟩ | ⟨reason, price, -, heq⟩⟩
  · rw [heq]
  · rw [heq]
    unfold view
    dsimp only
    rw [PyDict.get?_set_of_ne _ _ h]
  · rw [heq]
    unfold view
    dsimp only
    rw [PyDict.get?_set_of_ne _ _ h, PyDict.get?_set_of_ne _ _ h]

/-- What the loop of a cycle does with one position of its list. -/
def observeStep (o : ClosedMarketObservation) (e : PaperContractEngine) (p : PaperPosition) : PaperContractEngine :=
  if p.state = .closed then e
  else if o.canonicalSymbol = p.symbol ∧ p.lastObservedAt < o.closedAt then (e.observe p.contractId o false false).2
  else e

theorem observeStep_view_of_ne (e : PaperContractEngine) (o : ClosedMarketObservation) (p : PaperPosition)
    (h : p.contractId ≠ c) : (observeStep o e p).view c = e.view c := by
  unfold observeStep
  split
  · rfl
  · split
    · exact observe_view_of_ne e o false false (Ne.symm h)
    · rfl

theorem foldl_observeStep_view_of_ne {c : String} (o : ClosedMarketObservation) : ∀ (ps : List PaperPosition)
    (e : PaperContractEngine), (∀ p ∈ ps, p.contractId ≠ c) → (ps.foldl (observeStep o) e).view c = e.view c
  | [], _, _ => rfl
  | p :: ps, e, h => by
    rw [foldl_cons, foldl_observeStep_view_of_ne o ps _ fun q hq => h q (mem_cons_of_mem _ hq)]
    exact observeStep_view_of_ne e o p (h p mem_cons_self)

theorem Keyed.map_contractId (h : e.Keyed) :
    e.positions.values.map (·.contractId) = e.positions.items.map Prod.fst := by
  unfold PyDict.values
  rw [map_map]
  refine map_congr_left fun item hitem => ?_
  exact h item.1 item.2 (e.positions.mem_items_iff.1 hitem)

theorem Keyed.values_split (h : e.Keyed) (hp : e.positions.get? c = some p) :
    ∃ before after, e.positions.values = before ++ p :: after ∧
      (∀ q ∈ before, q.contractId ≠ c) ∧ ∀ q ∈ after, q.contractId ≠ c := by
  have hmem : p ∈ e.positions.values := mem_map.2 ⟨(c, p), e.positions.mem_items_iff.2 hp, rfl⟩
  obtain ⟨before, after, hsplit⟩ := append_of_mem hmem
  have hnodup : (e.positions.values.map (·.contractId)).Nodup := by
    rw [h.map_contractId]
    exact e.positions.nodup
  rw [hsplit, map_append, map_cons, nodup_append, nodup_cons] at hnodup
  have hid : p.contractId = c := h c p hp
  rw [hid] at hnodup
  refine ⟨before, after, hsplit, fun q hq heq => ?_, fun q hq heq => ?_⟩
  · exact hnodup.2.2 c (heq ▸ mem_map_of_mem hq) c mem_cons_self rfl
  · exact hnodup.2.1.1 (heq ▸ mem_map_of_mem hq)

/-- **A cycle observes an open contract of its symbol once**, on the candle it has claimed. -/
theorem foldl_observeStep_open (h : e.Keyed) {o : ClosedMarketObservation} (hp : e.positions.get? c = some p)
    (hclose : e.closes.get? c = none) (hstate : p.state ≠ .closed) (hsymbol : o.canonicalSymbol = p.symbol)
    (hlater : p.lastObservedAt < o.closedAt) :
    (e.positions.values.foldl (observeStep o) e).view c = (e.observe c o false false).2.view c := by
  obtain ⟨before, after, hsplit, hbefore, hafter⟩ := h.values_split hp
  rw [hsplit, foldl_append, foldl_cons, foldl_observeStep_view_of_ne o after _ hafter]
  have hview := foldl_observeStep_view_of_ne o before e hbefore
  generalize before.foldl (observeStep o) e = e₁ at hview
  obtain ⟨hspec, hpos, hclosed⟩ : e₁.specification = e.specification ∧ e₁.positions.get? c = e.positions.get? c ∧
      e₁.closes.get? c = e.closes.get? c := by simpa [view] using hview
  unfold observeStep
  rw [if_neg hstate, if_pos ⟨hsymbol, hlater⟩, h c p hp,
    observe_open (hpos.trans hp) (hclosed.trans hclose) hsymbol hlater, observe_open hp hclose hsymbol hlater]
  cases p.levelExit o with
  | none =>
    unfold view
    simp [hspec, hclosed]
  | some found =>
    unfold view
    simp [hspec, closeOf]

theorem foldl_observeStep_closed (h : e.Keyed) (o : ClosedMarketObservation) (hp : e.positions.get? c = some p)
    (hstate : p.state = .closed) : (e.positions.values.foldl (observeStep o) e).view c = e.view c := by
  obtain ⟨before, after, hsplit, hbefore, hafter⟩ := h.values_split hp
  rw [hsplit, foldl_append, foldl_cons, foldl_observeStep_view_of_ne o after _ hafter]
  have hstep : observeStep o (before.foldl (observeStep o) e) p = before.foldl (observeStep o) e := by
    unfold observeStep
    rw [if_pos hstate]
  rw [hstep]
  exact foldl_observeStep_view_of_ne o before e hbefore

end PaperContractEngine

end Jqe
