import Jqe.ExecScript
import Jqe.PaperCycles
/-!
# PaperTaken — when the runtime closes as `replay` does

A batch is represented by its newest candle, if that is newer than every one taken before (`taken`).
-/
namespace Jqe

open Coro Prog ContinuousPaperRuntime PaperContractEngine List

/-- **The candles taken from batches**, after one that closed at `t`. -/
def taken (t : Int) : List (List ClosedMarketObservation) → List ClosedMarketObservation
  | [] => []
  | batch :: batches =>
    match batch.getLast? with
    | none => taken t batches
    | some o => if t < o.closedAt then o :: taken o.closedAt batches else taken t batches

theorem mem_taken {o : ClosedMarketObservation} : ∀ {batches : List (List ClosedMarketObservation)} {t : Int},
    o ∈ taken t batches → o ∈ batches.flatten ∧ t < o.closedAt
  | batch :: batches, t, h => by
    unfold taken at h
    rw [flatten_cons, mem_append]
    cases hlast : batch.getLast? with
    | none =>
      rw [hlast] at h
      obtain ⟨hmem, hlt⟩ := mem_taken h
      exact ⟨.inr hmem, hlt⟩
    | some last =>
      rw [hlast] at h
      dsimp only at h
      by_cases hnew : t < last.closedAt
      · rw [if_pos hnew] at h
        rcases mem_cons.1 h with rfl | h
        · exact ⟨.inl (mem_of_getLast? hlast), hnew⟩
        · obtain ⟨hmem, hlt⟩ := mem_taken h
          exact ⟨.inr hmem, by omega⟩
      · rw [if_neg hnew] at h
        obtain ⟨hmem, hlt⟩ := mem_taken h
        exact ⟨.inr hmem, hlt⟩

theorem taken_sorted : ∀ (batches : List (List ClosedMarketObservation)) (t : Int),
    (taken t batches).Pairwise fun o o' => o.closedAt < o'.closedAt
  | [], _ => .nil
  | batch :: batches, t => by
    unfold taken
    cases batch.getLast? with
    | none => exact taken_sorted batches t
    | some last =>
      dsimp only
      split
      · exact .cons (fun o ho => (mem_taken ho).2) (taken_sorted batches last.closedAt)
      · exact taken_sorted batches t

def OfMarket (symbol : String) (timeframe : Timeframe) (os : List ClosedMarketObservation) : Prop :=
  ∀ o ∈ os, o.canonicalSymbol = symbol ∧ o.timeframe = timeframe

section Exits

variable {e : PaperContractEngine} {c : String} {p : PaperPosition} {t : Int}
  {batches : List (List ClosedMarketObservation)} {seq : List ClosedMarketObservation}

/-- **Two lists close a contract alike** exactly when the shorter has an exit no later than any of the longer. -/
theorem closeOn_eq_iff {short long : List ClosedMarketObservation} (hsub : ∀ o ∈ short, o ∈ long)
    (hlong : long.Pairwise fun o o' => o.closedAt < o'.closedAt)
    (hshort : short.Pairwise fun o o' => o.closedAt < o'.closedAt) :
    e.closeOn c p long = e.closeOn c p short ↔
      ∀ o ∈ long, (p.levelExit o).isSome → ∃ o' ∈ short, o'.closedAt ≤ o.closedAt ∧ (p.levelExit o').isSome := by
  have hsome : ∀ {o x}, (p.levelExit o).map (fun found => e.closeOf c p o found.1 found.2) = some x →
      (p.levelExit o).isSome ∧ x.closedAt = o.closedAt := by
    intro o x h
    obtain ⟨found, hfound, rfl⟩ := Option.map_eq_some_iff.1 h
    exact ⟨by rw [hfound]; rfl, rfl⟩
  have hnone : ∀ {o}, (p.levelExit o).map (fun found => e.closeOf c p o found.1 found.2) = none →
      ¬(p.levelExit o).isSome := by
    intro o h
    rw [Option.map_eq_none_iff.1 h]
    exact Bool.false_ne_true
  unfold closeOn
  constructor
  · intro heq o ho hexit
    -- the longer list has an exit, so both have the same first one
    have hfound : (long.findSome? fun o => (p.levelExit o).map fun found => e.closeOf c p o found.1 found.2).isSome := by
      rw [findSome?_isSome_iff]
      exact ⟨o, ho, by rw [Option.isSome_map]; exact hexit⟩
    obtain ⟨x, hx⟩ := Option.isSome_iff_exists.1 hfound
    obtain ⟨o₁, ho₁, hx₁, hfirst₁⟩ := (findSome?_eq_some_iff_first hlong).1 hx
    obtain ⟨o₂, ho₂, hx₂, -⟩ := (findSome?_eq_some_iff_first hshort).1 (heq ▸ hx)
    refine ⟨o₂, ho₂, ?_, (hsome hx₂).1⟩
    have htime : o₂.closedAt = o₁.closedAt := (hsome hx₂).2.symm.trans (hsome hx₁).2
    by_contra hlt
    exact hnone (hfirst₁ o ho (by omega)) hexit
  · intro hcond
    cases hlongest : long.findSome? fun o => (p.levelExit o).map fun found => e.closeOf c p o found.1 found.2 with
    | none =>
      rw [findSome?_eq_none_iff] at hlongest
      exact (findSome?_eq_none_iff.2 fun o ho => hlongest o (hsub o ho)).symm
    | some x =>
      obtain ⟨o, ho, hx, hfirst⟩ := (findSome?_eq_some_iff_first hlong).1 hlongest
      obtain ⟨o', ho', hle, hexit⟩ := hcond o ho (hsome hx).1
      have heq : o' = o := by
        refine eq_of_closedAt hlong (hsub o' ho') ho ?_
        by_contra hne
        exact hnone (hfirst o' (hsub o' ho') (by omega)) hexit
      refine ((findSome?_eq_some_iff_first hshort).2 ⟨o, heq ▸ ho', hx, ?_⟩).symm
      exact fun o'' ho'' hlt => hfirst o'' (hsub o'' ho'') hlt

end Exits

/-! ### A contract over successful cycles -/

theorem observeStep_changes (o : ClosedMarketObservation) : ∀ (ps : List PaperPosition) (e : PaperContractEngine),
    Changes e (ps.foldl (observeStep o) e)
  | [], _ => .refl
  | p :: ps, e => by
    rw [foldl_cons]
    refine Changes.trans ?_ (observeStep_changes o ps (observeStep o e p))
    unfold observeStep
    split
    · exact .refl
    · split
      · exact observe_changes e p.contractId o false false
      · exact .refl

theorem position_lastObservedAt {p : PaperPosition} (h : p.lastObservedAt = p.openedAt) :
    { p with lastObservedAt := p.openedAt } = p := by
  cases p
  cases h
  rfl

section Runtime

variable [CaseMap] [CaseFold] [ExcClass]

/-- **Successful cycles**, one for each batch. -/
inductive Cycles : PaperWorld → List (List ClosedMarketObservation) → PaperWorld → Prop
  | nil (w : PaperWorld) : Cycles w [] w
  | cons {w w₁ w₂ : PaperWorld} {batch : List ClosedMarketObservation} {batches : List (List ClosedMarketObservation)}
      (h : CycleSucceeds batch w w₁) (hrest : Cycles w₁ batches w₂) : Cycles w (batch :: batches) w₂

/-- **Where a contract stands** after a candle that closed at `t`. -/
structure Standing (e : PaperContractEngine) (c : String) (p : PaperPosition) (scope : String) (t : Int)
    (close : Option PaperClose) (w : PaperWorld) : Prop where
  keyed : (w.engine 0).Keyed
  closedStored : (w.engine 0).ClosedStored
  row : w.observations.get? scope = some ⟨t, .complete⟩
  specification : (w.engine 0).specification = e.specification
  closes : (w.engine 0).closes.get? c = close
  position : close = none → (w.engine 0).positions.get? c = some { p with lastObservedAt := t }

variable {e : PaperContractEngine} {c scope : String} {p : PaperPosition} {t : Int} {w w' : PaperWorld}
  {batch : List ClosedMarketObservation}

theorem Standing.cycle {close : Option PaperClose} (h : Standing e c p scope t close w) (hp : p.state ≠ .closed)
    (hcycle : CycleSucceeds batch w w') {o : ClosedMarketObservation} (ho : batch.getLast? = some o)
    (hscope : o.scope = scope) (hsymbol : o.canonicalSymbol = p.symbol) :
    (¬t < o.closedAt ∧ Standing e c p scope t close w') ∨
    (t < o.closedAt ∧ Standing e c p scope o.closedAt
      (close <|> (p.levelExit o).map fun found => e.closeOf c p o found.1 found.2) w') := by
  obtain ⟨o', ho', hcase⟩ := cycle_cases hcycle
  rw [ho] at ho'
  cases ho'
  rw [hscope] at hcase
  rcases hcase with ⟨row, hrow, -, hle, hsame⟩ | ⟨hnew, hrow, hentered⟩
  · rw [h.row] at hrow
    cases hrow
    refine .inl ⟨not_lt.2 hle, ?_⟩
    obtain ⟨hobs, hengine⟩ := hsame
    constructor
    · rw [hengine]; exact h.keyed
    · rw [hengine]; exact h.closedStored
    · rw [hobs]; exact h.row
    · rw [hengine]; exact h.specification
    · rw [hengine]; exact h.closes
    · rw [hengine]; exact h.position
  · have hlt : t < o.closedAt := hnew _ h.row
    have hchanges := observeStep_changes o (w.engine 0).positions.values (w.engine 0)
    refine .inr ⟨hlt, ?_⟩
    have hkeyed : (w'.engine 0).Keyed := hentered.changes.keyed (hchanges.keyed h.keyed)
    have hstored : (w'.engine 0).ClosedStored := hentered.changes.closedStored (hchanges.closedStored h.closedStored)
    cases hc : close with
    | some x =>
      -- a closed contract is left alone
      obtain ⟨q, hq, hstate⟩ := (h.closedStored c).2 ⟨x, by rw [h.closes, hc]⟩
      have hview := foldl_observeStep_closed h.keyed o hq hstate
      generalize (w.engine 0).positions.values.foldl (observeStep o) (w.engine 0) = e₁ at hview hentered
      obtain ⟨hspec, -, hcloses⟩ : e₁.specification = (w.engine 0).specification ∧
          e₁.positions.get? c = (w.engine 0).positions.get? c ∧ e₁.closes.get? c = (w.engine 0).closes.get? c := by
        simpa [view] using hview
      refine ⟨hkeyed, hstored, hrow, ?_, ?_, fun hnone => ?_⟩
      · rw [hentered.specification, hspec, h.specification]
      · rw [hentered.closes, hcloses, h.closes, hc]
        rfl
      · cases hnone
    | none =>
      have hpos := h.position hc
      have hclose : (w.engine 0).closes.get? c = none := by rw [h.closes, hc]
      have hview := foldl_observeStep_open h.keyed hpos hclose hp hsymbol hlt
      rw [observe_open hpos hclose hsymbol hlt] at hview
      have hexit : ({ p with lastObservedAt := t } : PaperPosition).levelExit o = p.levelExit o := rfl
      rw [hexit] at hview
      generalize (w.engine 0).positions.values.foldl (observeStep o) (w.engine 0) = e₁ at hview hentered
      cases hfound : p.levelExit o with
      | none =>
        rw [hfound] at hview
        obtain ⟨hspec, hpos₁, hcloses⟩ : e₁.specification = (w.engine 0).specification ∧
            e₁.positions.get? c = some { p with lastObservedAt := o.closedAt } ∧
            e₁.closes.get? c = (w.engine 0).closes.get? c := by
          simpa [view] using hview
        refine ⟨hkeyed, hstored, hrow, ?_, ?_, fun _ => hentered.kept c _ hpos₁⟩
        · rw [hentered.specification, hspec, h.specification]
        · rw [hentered.closes, hcloses, hclose]
          rfl
      | some found =>
        rw [hfound] at hview
        obtain ⟨hspec, -, hcloses⟩ : e₁.specification = (w.engine 0).specification ∧
            e₁.positions.get? c = some { p with
              lastObservedAt := o.closedAt, closeRequested := true, state := .closed } ∧
            e₁.closes.get? c = some ((w.engine 0).closeOf c p o found.1 found.2) := by
          simpa [view, closeOf] using hview
        refine ⟨hkeyed, hstored, hrow, ?_, ?_, fun hnone => ?_⟩
        · rw [hentered.specification, hspec, h.specification]
        · rw [hentered.closes, hcloses]
          unfold closeOf
          rw [h.specification]
          rfl
        · cases hnone

theorem Standing.cycles {symbol : String} {timeframe : Timeframe} (hp : p.state ≠ .closed)
    (hsymbol : symbol = p.symbol) (hscope : normalizeSymbol symbol ++ ":" ++ timeframe.value = scope) :
    ∀ {batches : List (List ClosedMarketObservation)} {w w' : PaperWorld} {t : Int} {close : Option PaperClose},
      Standing e c p scope t close w → Cycles w batches w' → OfMarket symbol timeframe batches.flatten →
      ∃ t', Standing e c p scope t' (close <|> e.closeOn c p (taken t batches)) w'
  | [], w, w', t, close, h, hcycles, _ => by
    cases hcycles
    refine ⟨t, ?_⟩
    change Standing e c p scope t (close <|> none) w
    rw [show (close <|> none) = close by cases close <;> rfl]
    exact h
  | batch :: batches, w, w', t, close, h, hcycles, hmarket => by
    cases hcycles with
    | cons hcycle hrest =>
      have hmarket' : OfMarket symbol timeframe batches.flatten := fun o ho =>
        hmarket o (by rw [flatten_cons]; exact mem_append_right _ ho)
      obtain ⟨o, ho, -⟩ := cycle_cases hcycle
      obtain ⟨hsym, htf⟩ := hmarket o (by
        rw [flatten_cons]
        exact mem_append_left _ (mem_of_getLast? ho))
      have hsc : o.scope = scope := by
        unfold ClosedMarketObservation.scope
        rw [hsym, htf, hscope]
      unfold taken
      rw [ho]
      dsimp only
      rcases h.cycle hp hcycle ho hsc (hsym.trans hsymbol) with ⟨hold, hstand⟩ | ⟨hnew, hstand⟩
      · rw [if_neg hold]
        exact Standing.cycles hp hsymbol hscope hstand hrest hmarket'
      · obtain ⟨t', hfinal⟩ := Standing.cycles hp hsymbol hscope hstand hrest hmarket'
        refine ⟨t', ?_⟩
        rw [if_pos hnew]
        unfold closeOn at hfinal ⊢
        rw [findSome?_cons]
        cases close with
        | some x => exact hfinal
        | none =>
          cases hfound : (p.levelExit o).map fun found => e.closeOf c p o found.1 found.2 with
          | some x =>
            rw [hfound] at hfinal
            exact hfinal
          | none =>
            rw [hfound] at hfinal
            exact hfinal

theorem Standing.opened (hkeyed : (w.engine 0).Keyed) (hstored : (w.engine 0).ClosedStored)
    (hcycle : CycleSucceeds batch w w')
    (habsent : (w.engine 0).positions.get? c = none) (hp : (w'.engine 0).positions.get? c = some p) :
    p.state ≠ .closed ∧ ∃ o, batch.getLast? = some o ∧ o.canonicalSymbol = p.symbol ∧ p.openedAt = o.closedAt ∧
      Standing (w'.engine 0) c p o.scope p.openedAt none w' := by
  obtain ⟨o, ho, hcase⟩ := cycle_cases hcycle
  rcases hcase with ⟨-, -, -, -, hsame⟩ | ⟨-, hrow, hentered⟩
  · rw [hsame.engine, habsent] at hp
    cases hp
  have hobserved := observeStep_changes o (w.engine 0).positions.values (w.engine 0)
  have habsent' : ((w.engine 0).positions.values.foldl (observeStep o) (w.engine 0)).positions.get? c = none := by
    have hview := foldl_observeStep_view_of_ne (c := c) o (w.engine 0).positions.values (w.engine 0) (by
      intro q hq hid
      obtain ⟨⟨k, q'⟩, hitem, rfl⟩ := mem_map.1 hq
      have hget := (w.engine 0).positions.mem_items_iff.1 hitem
      have hk : k = c := (hkeyed k q' hget).symm.trans hid
      rw [hk, habsent] at hget
      cases hget)
    have hpos := congrArg (fun v => v.2.1) hview
    exact hpos.trans habsent
  have hkeyed' : (w'.engine 0).Keyed := hentered.changes.keyed (hobserved.keyed hkeyed)
  have hstored' : (w'.engine 0).ClosedStored := hentered.changes.closedStored (hobserved.closedStored hstored)
  rcases hentered.opened c p hp with hold | ⟨hopened, hlast, hsymbol, hstate⟩
  · rw [habsent'] at hold
    cases hold
  have hopen : p.state ≠ .closed := by
    rw [hstate]
    decide
  refine ⟨hopen, o, ho, hsymbol.symm, hopened, hkeyed', hstored', ?_, rfl, ?_, fun _ => ?_⟩
  · rw [hopened]
    exact hrow
  · cases hclose : (w'.engine 0).closes.get? c with
    | none => rfl
    | some x =>
      obtain ⟨q, hq, hclosed⟩ := (hstored' c).2 ⟨x, hclose⟩
      rw [hp] at hq
      cases hq
      exact absurd hclosed hopen
  · rw [hp, position_lastObservedAt (hlast.trans hopened.symm)]

/-- **The runtime closes a contract as `replay` closes it** on all candles delivered after it was opened exactly when
every such candle that reaches a level is preceded by, or is, a candle taken that does. -/
theorem paper_runtime_replay {w₀ : PaperWorld} {specification : PaperContractSpecification} {calls : List EngineCall}
    (symbol : String) (timeframe : Timeframe) (hvenue : w₀.engine 0 = (fresh specification).after calls) (hopening : CycleSucceeds batch w₀ w)
    (habsent : (w₀.engine 0).positions.get? c = none) (hp : (w.engine 0).positions.get? c = some p)
    {batches : List (List ClosedMarketObservation)} (hcycles : Cycles w batches w')
    (hmarket : OfMarket symbol timeframe (batch ++ batches.flatten))
    {delivered : List ClosedMarketObservation} (hsorted : delivered.Pairwise fun o o' => o.closedAt < o'.closedAt)
    (hdelivered : ∀ o, o ∈ delivered ↔ o ∈ batches.flatten ∧ p.openedAt < o.closedAt) :
    ((w.engine 0).replay c false delivered).1 = .ok ((w'.engine 0).closes.get? c) ↔
      ∀ o ∈ delivered, (p.levelExit o).isSome →
        ∃ o' ∈ taken p.openedAt batches, o'.closedAt ≤ o.closedAt ∧ (p.levelExit o').isSome := by
  have hcalls := after_changes calls (fresh specification)
  rw [← hvenue] at hcalls
  obtain ⟨hopen, o, ho, hsymbol, -, hstanding⟩ := Standing.opened (hcalls.keyed fun c p h => by cases h)
    (hcalls.closedStored (fresh_closedStored specification)) hopening habsent hp
  obtain ⟨hsym, htf⟩ := hmarket o (List.mem_append_left _ (List.mem_of_getLast? ho))
  have hscope : normalizeSymbol symbol ++ ":" ++ timeframe.value = o.scope := by
    unfold ClosedMarketObservation.scope
    rw [hsym, htf]
  obtain ⟨t', hfinal⟩ := Standing.cycles hopen (hsym.symm.trans hsymbol) hscope hstanding hcycles
    fun o' ho' => hmarket o' (List.mem_append_right _ ho')
  have hself : { p with lastObservedAt := p.openedAt } = p := by
    have hpos := hstanding.position rfl
    rw [hp] at hpos
    exact (Option.some.inj hpos).symm
  have hreplay : ((w.engine 0).replay c false delivered).1 = .ok ((w.engine 0).closeOn c p delivered) := by
    refine replay_eq_closeOn c delivered hp hstanding.closes ?_ ?_ hsorted
    · intro o' ho'
      obtain ⟨hmem, -⟩ := (hdelivered o').1 ho'
      rw [(hmarket o' (List.mem_append_right _ hmem)).1, ← hsym]
      exact hsymbol
    · intro o' ho'
      rw [← hself]
      exact ((hdelivered o').1 ho').2
  have hruntime : (w'.engine 0).closes.get? c = (w.engine 0).closeOn c p (taken p.openedAt batches) := hfinal.closes
  rw [hreplay, hruntime, Except.ok.injEq]
  exact closeOn_eq_iff (fun o' ho' => (hdelivered o').2 (mem_taken ho')) hsorted (taken_sorted batches p.openedAt)

end Runtime

/-! ### A contract whose stop is passed over -/

local instance missedCase : CaseMap := asciiCase

local instance missedFold : CaseFold := ⟨CaseMap.lower⟩

local instance missedExc : ExcClass := ⟨fun _ => "RuntimeError", fun _ => false⟩

theorem cycleSucceeds_of_run {now : Int} {os : List ClosedMarketObservation} {entry : Option PaperEntry} {w : PaperWorld}
    (action : String) (h : (runOnce.run (paperAnswer now os entry true) w).1.toOption.map (·.lastAction) = some action)
    (hok : action ≠ "ERROR" ∧ action ≠ "BLOCKED:MARKET_DATA") :
    CycleSucceeds os w (runOnce.run (paperAnswer now os entry true) w).2 := by
  have hexec : ∀ w r, deliver os w r (paperAnswer now os entry true w r).1 (paperAnswer now os entry true w r).2 := by
    refine fun w r => ⟨paperAnswer_exec now os entry true w r, ?_⟩
    cases r with
    | source => rfl
    | _ => trivial
  have hends := Ends.of_run (paperAnswer now os entry true) hexec runOnce w
  generalize runOnce.run (paperAnswer now os entry true) w = out at h hends ⊢
  obtain ⟨exc | heartbeat, w'⟩ := out
  · cases h
  · refine ⟨heartbeat, hends, ?_⟩
    rw [Except.toOption, Option.map_some, Option.some.injEq] at h
    rw [h]
    exact hok

def fallingQuarter (closedAt : Int) : ClosedMarketObservation :=
  { quarter closedAt with low := 80, prices_ok := by norm_num [quarter], ohlc_ok := by norm_num [quarter] }

def openedWorld : PaperWorld :=
  (runOnce.run (paperAnswer 1000 [quarter 900]
    (some ⟨sampleIntent "XAUUSD" "k1", sampleContext ["XAUUSD"] 5⟩) true) emptyPaperWorld).2

def worldAfter (os : List ClosedMarketObservation) : PaperWorld :=
  (runOnce.run (paperAnswer 3000 os none true) openedWorld).2

def missedContract : String := paperContractId "k1"

theorem missed_cycles :
    ((runOnce.run (paperAnswer 1000 [quarter 900] (some ⟨sampleIntent "XAUUSD" "k1", sampleContext ["XAUUSD"] 5⟩) true)
        emptyPaperWorld).1.toOption.map (·.lastAction) = some "POSITION_OPENED" ∧
      ((openedWorld.engine 0).positions.get? missedContract).map (·.openedAt) = some 900) ∧
    (runOnce.run (paperAnswer 3000 [fallingQuarter 1800] none true) openedWorld).1.toOption.map (·.lastAction) =
      some "POSITION_CLOSED" ∧
    (runOnce.run (paperAnswer 3000 [fallingQuarter 1800, quarter 2700] none true) openedWorld).1.toOption.map
      (·.lastAction) = some "NO_SIGNAL" ∧
    ((openedWorld.engine 0).replay missedContract false [fallingQuarter 1800, quarter 2700]).1.toOption.join.map
      (·.reason) = some .stopLoss ∧
    ((worldAfter [fallingQuarter 1800, quarter 2700]).engine 0).closes.get? missedContract = none := by
  decide +kernel

theorem openedWorld_succeeds : CycleSucceeds [quarter 900] emptyPaperWorld openedWorld :=
  cycleSucceeds_of_run "POSITION_OPENED" missed_cycles.1.1 (by decide)

theorem openedWorld_position : ∃ p, (openedWorld.engine 0).positions.get? missedContract = some p ∧ p.openedAt = 900 := by
  obtain ⟨p, hp, hopened⟩ := Option.map_eq_some_iff.1 missed_cycles.1.2
  exact ⟨p, hp, hopened⟩

theorem worldAfter_missed : CycleSucceeds [fallingQuarter 1800, quarter 2700] openedWorld
    (worldAfter [fallingQuarter 1800, quarter 2700]) :=
  cycleSucceeds_of_run "NO_SIGNAL" missed_cycles.2.2.1 (by decide)

theorem worldAfter_taken : CycleSucceeds [fallingQuarter 1800] openedWorld (worldAfter [fallingQuarter 1800]) :=
  cycleSucceeds_of_run "POSITION_CLOSED" missed_cycles.2.1 (by decide)

theorem emptyPaperWorld_venue : emptyPaperWorld.engine 0 = (fresh .default).after [] := rfl

/-- **An outage of one cycle**: the stop is hit by a candle that arrives together with a newer one, and the runtime
never closes the contract. -/
theorem paper_runtime_missed_exit : ¬∀ (w₀ w w' : PaperWorld) (calls : List EngineCall) (batch : List ClosedMarketObservation)
    (batches : List (List ClosedMarketObservation)) (c : String) (p : PaperPosition)
    (delivered : List ClosedMarketObservation),
    w₀.engine 0 = (fresh .default).after calls → CycleSucceeds batch w₀ w → (w₀.engine 0).positions.get? c = none →
    (w.engine 0).positions.get? c = some p → Cycles w batches w' → OfMarket "XAUUSD" .m15 (batch ++ batches.flatten) →
    (delivered.Pairwise fun o o' => o.closedAt < o'.closedAt) →
    (∀ o, o ∈ delivered ↔ o ∈ batches.flatten ∧ p.openedAt < o.closedAt) →
    ((w.engine 0).replay c false delivered).1 = .ok ((w'.engine 0).closes.get? c) := by
  intro h
  obtain ⟨p, hp, hopened⟩ := openedWorld_position
  have hclaim := h emptyPaperWorld openedWorld (worldAfter [fallingQuarter 1800, quarter 2700]) [] [quarter 900]
    [[fallingQuarter 1800, quarter 2700]] missedContract p [fallingQuarter 1800, quarter 2700] emptyPaperWorld_venue
    openedWorld_succeeds rfl hp (.cons worldAfter_missed (.nil _)) (by
      intro o ho
      rcases List.mem_cons.1 ho with rfl | ho
      · exact ⟨rfl, rfl⟩
      · rcases List.mem_cons.1 ho with rfl | ho
        · exact ⟨rfl, rfl⟩
        · rw [List.mem_singleton.1 ho]
          exact ⟨rfl, rfl⟩) (by
      refine .cons (fun o ho => ?_) (List.pairwise_singleton _ _)
      rw [List.mem_singleton.1 ho]
      decide) (by
      intro o
      rw [hopened]
      refine ⟨fun ho => ⟨ho, ?_⟩, fun ho => ho.1⟩
      rcases List.mem_cons.1 ho with rfl | ho
      · decide
      · rw [List.mem_singleton.1 ho]
        decide)
  obtain ⟨hreplay, hruntime⟩ := missed_cycles.2.2.2
  rw [hclaim, hruntime] at hreplay
  cases hreplay

/-- The same stop taken by a cycle of its own. -/
theorem paper_runtime_replay_taken :
    ((openedWorld.engine 0).replay missedContract false [fallingQuarter 1800]).1 =
      .ok (((worldAfter [fallingQuarter 1800]).engine 0).closes.get? missedContract) := by
  obtain ⟨p, hp, hopened⟩ := openedWorld_position
  refine (paper_runtime_replay "XAUUSD" .m15 emptyPaperWorld_venue openedWorld_succeeds rfl hp
    (.cons worldAfter_taken (.nil _)) ?_ (List.pairwise_singleton _ _) ?_).2 ?_
  · intro o ho
    rcases List.mem_cons.1 ho with rfl | ho
    · exact ⟨rfl, rfl⟩
    · rw [List.mem_singleton.1 ho]
      exact ⟨rfl, rfl⟩
  · intro o
    rw [hopened]
    refine ⟨fun ho => ⟨ho, ?_⟩, fun ho => ho.1⟩
    rw [List.mem_singleton.1 ho]
    decide
  · intro o ho hexit
    refine ⟨o, ?_, le_rfl, hexit⟩
    rw [hopened, List.mem_singleton.1 ho]
    exact List.mem_cons_self

end Jqe
