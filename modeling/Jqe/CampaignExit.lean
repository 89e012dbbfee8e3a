import Jqe.CampaignSound
/-!
# CampaignExit — the exits of a campaign's positions

A candidate enters at the open of a candle that has closed, and its position counts that candle as observed: the first
candle that can close it is the next.
-/
namespace Jqe
namespace Campaign

open Coro Prog Confirmation ContinuousPaperRuntime PaperContractEngine List

section

variable [CaseMap] [CaseFold] [ExcClass] {regimeOf : List ClosedMarketObservation → String} {symbol : String}
  {timeframe : Timeframe} {os : List ClosedMarketObservation} {w w' : World} {c : String} {p : PaperPosition}

/-! ### The engine of a campaign -/

omit [CaseFold] [ExcClass] in
theorem paperExec_changes {w w' : PaperWorld} {r : PaperReq} {ans : Except PyExc r.Ans} (h : PaperExec w ⟨0⟩ r ans w') :
    Changes (w.engine 0) (w'.engine 0) := by
  cases h with
  | observe c o =>
    rw [setEngine_engine]
    exact observe_changes (w.engine 0) c o false false
  | venue g r hg =>
    rw [setEngine_engine]
    exact (exec_entered hg).changes
  | _ => exact .refl

/-- The positions are kept by their ids, and the closed ones are those with a close. -/
def Sound (w : World) : Prop := (w.paper.engine 0).Keyed ∧ (w.paper.engine 0).ClosedStored

omit [CaseMap] [CaseFold] [ExcClass] in
theorem sound_fresh {w : World} (h : w.paper.engine 0 = .fresh specification) : Sound w := by
  unfold Sound
  rw [h]
  exact ⟨fun c p h => (by cases h), fresh_closedStored specification⟩

omit [CaseFold] [ExcClass] in
theorem exec_sound {bs : List ClosedMarketObservation} (w : World) (r : Req) (ans : Except PyExc r.Ans) (w' : World)
    (hw : Sound w) (h : Exec regimeOf bs w r ans w') : Sound w' := by
  cases h with
  | paper hx =>
    have hchanges := paperExec_changes hx.1
    exact ⟨hchanges.keyed hw.1, hchanges.closedStored hw.2⟩
  | candidate => exact hw
  | append r =>
    unfold World.insert
    split
    · exact hw
    · exact hw
  | _ => exact hw

theorem Reached.sound {s : State} (h : Reached regimeOf symbol timeframe os s) : Sound s.world := by
  induction h with
  | refl => exact sound_fresh rfl
  | tail _ hstep ih =>
    cases hstep with
    | turn _ _ _ h => exact h.keeps exec_sound ih
    | raised _ _ _ h => exact h.keeps exec_sound ih
    | cut _ _ _ h => exact h.keeps exec_sound ih
    | resume => exact sound_fresh rfl
    | _ => exact ih

/-! ### Turns that succeed -/

def store (o : ClosedMarketObservation) (lastAction : String) : CampaignProg Unit := do
  let facts ← ask .facts
  ask (.append (record o lastAction facts))
  ask (.report lastAction)

variable (regimeOf symbol timeframe os) in
/-- **A turn whose `run_once` reports no exception**, and that stores its record. -/
def TurnSucceeds (i : ℕ) (o : ClosedMarketObservation) (w w' : World) : Prop :=
  ∃ heartbeat w₁, Ends (Exec regimeOf (window os (i + 1))) (runtimeCycle symbol timeframe) w (.ok heartbeat) w₁ ∧
    heartbeat.lastAction ≠ "ERROR" ∧ heartbeat.lastAction ≠ "BLOCKED:MARKET_DATA" ∧
    Ends (Exec regimeOf (window os (i + 1))) (store o heartbeat.lastAction) w₁ (.ok ()) w'

theorem TurnSucceeds.ends {i : ℕ} {o : ClosedMarketObservation} (h : TurnSucceeds regimeOf symbol timeframe os i o w w') :
    Ends (Exec regimeOf (window os (i + 1))) (turn symbol timeframe o) w (.ok ()) w' := by
  obtain ⟨heartbeat, w₁, hcycle, -, -, hstore⟩ := h
  exact ends_bind.2 (.inl ⟨heartbeat, w₁, hcycle, hstore⟩)

theorem TurnSucceeds.cycle {i : ℕ} {o : ClosedMarketObservation} (h : TurnSucceeds regimeOf symbol timeframe os i o w w') :
    CycleSucceeds (window os (i + 1)) w.paper w'.paper := by
  obtain ⟨heartbeat, w₁, hcycle, herror, hmarket, hstore⟩ := h
  have hkeep : w'.paper = w₁.paper := ends_own hstore
    (makes_bind (makes_own trivial) fun _ => makes_bind (makes_own trivial) fun _ => makes_own trivial)
  refine ⟨heartbeat, ?_, herror, hmarket⟩
  rw [hkeep]
  exact hcycle.of_interpret.map (π := World.paper) fun _ _ _ _ hx => deliver_of_asPaper hx

variable (regimeOf symbol timeframe os) in
inductive Turns : ℕ → List ClosedMarketObservation → World → World → Prop
  | nil (i : ℕ) (w : World) : Turns i [] w w
  | cons {i : ℕ} {o : ClosedMarketObservation} {later : List ClosedMarketObservation} {w w₁ w₂ : World}
      (ho : os[i]? = some o) (h : TurnSucceeds regimeOf symbol timeframe os i o w w₁) (hrest : Turns (i + 1) later w₁ w₂) :
      Turns i (o :: later) w w₂

def windows (os : List ClosedMarketObservation) : ℕ → List ClosedMarketObservation → List (List ClosedMarketObservation)
  | _, [] => []
  | i, _ :: later => window os (i + 1) :: windows os (i + 1) later

theorem Turns.cycles {i : ℕ} {later : List ClosedMarketObservation} (h : Turns regimeOf symbol timeframe os i later w w') :
    Cycles w.paper (windows os i later) w'.paper := by
  induction h with
  | nil i w => exact .nil _
  | cons _ h _ ih => exact .cons h.cycle ih

theorem Turns.prefix {i : ℕ} {later : List ClosedMarketObservation} (h : Turns regimeOf symbol timeframe os i later w w') :
    later <+: os.drop i := by
  induction h with
  | nil i w => exact nil_prefix
  | cons ho _ _ ih =>
    obtain ⟨hi, rfl⟩ := List.getElem?_eq_some_iff.1 ho
    rw [drop_eq_getElem_cons hi]
    exact cons_prefix_cons.2 ⟨rfl, ih⟩

/-- **The candles taken from the windows of turns** are the candles of the turns. -/
theorem Turns.taken {i : ℕ} {later : List ClosedMarketObservation} (h : Turns regimeOf symbol timeframe os i later w w')
    (hsorted : os.Pairwise fun o o' => o.closedAt < o'.closedAt) : ∀ t : ℤ, (∀ o ∈ later, t < o.closedAt) →
      taken t (windows os i later) = later := by
  induction h with
  | nil i w => exact fun _ _ => rfl
  | @cons i o later w w₁ w₂ ho _ hrest ih =>
    intro t ht
    unfold windows Jqe.taken
    rw [window_getLast? ho]
    dsimp only
    rw [if_pos (ht o mem_cons_self)]
    congr 1
    refine ih o.closedAt fun o' ho' => ?_
    -- a later candle of the dataset closes later
    obtain ⟨hi, rfl⟩ := List.getElem?_eq_some_iff.1 ho
    have hmem := hrest.prefix.subset ho'
    have hdrop : (os.drop i).Pairwise fun o o' => o.closedAt < o'.closedAt := hsorted.sublist (drop_sublist i os)
    rw [drop_eq_getElem_cons hi] at hdrop
    exact (pairwise_cons.1 hdrop).1 o' hmem

omit [CaseMap] [CaseFold] [ExcClass] in
theorem mem_windows : ∀ {later : List ClosedMarketObservation} {i : ℕ} {o : ClosedMarketObservation},
    o ∈ (windows os i later).flatten → o ∈ os
  | [], _, _, h => by cases h
  | _ :: later, i, o, h => by
    unfold windows at h
    rw [flatten_cons, mem_append] at h
    rcases h with h | h
    · exact mem_of_mem_take (mem_of_mem_drop h)
    · exact mem_windows h

/-! ### The exit -/

def observedAt (e : PaperContractEngine) (c : String) (p : PaperPosition) (t : ℤ) : PaperContractEngine :=
  { e with positions := e.positions.set c { p with lastObservedAt := t } }

/-- **The exit of a position opened in a turn is that of all candles from its entry candle on**, observed in order,
exactly when the entry candle itself reaches neither level. -/
theorem campaign_exit_iff (hos : Series symbol timeframe os) {s : State} (hs : Reached regimeOf symbol timeframe os s)
    {k : ℕ} {o : ClosedMarketObservation} (ho : os[k]? = some o)
    (hentry : TurnSucceeds regimeOf symbol timeframe os k o s.world w)
    (habsent : (s.world.paper.engine 0).positions.get? c = none) (hp : (w.paper.engine 0).positions.get? c = some p)
    {later : List ClosedMarketObservation} (hlater : Turns regimeOf symbol timeframe os (k + 1) later w w') :
    ((observedAt (w.paper.engine 0) c p o.candleOpenedAt).replay c false (o :: later)).1 =
        .ok ((w'.paper.engine 0).closes.get? c) ↔ p.levelExit o = none := by
  obtain ⟨hopen, o', ho', hsymbol, hopened, hstanding⟩ := Standing.opened hs.sound.1 hs.sound.2 hentry.cycle habsent hp
  rw [window_getLast? ho] at ho'
  cases ho'
  have homem : o ∈ os := List.mem_of_getElem? ho
  -- the candles from the entry on
  have hchain : (o :: later).Pairwise fun o o' => o.closedAt < o'.closedAt := by
    obtain ⟨hi, rfl⟩ := List.getElem?_eq_some_iff.1 ho
    have hdrop : (os.drop k).Pairwise fun o o' => o.closedAt < o'.closedAt :=
      hos.sorted.sublist (List.drop_sublist k os)
    rw [List.drop_eq_getElem_cons hi] at hdrop
    exact hdrop.sublist (List.Sublist.cons_cons _ hlater.prefix.sublist)
  obtain ⟨hafter, hsorted⟩ := List.pairwise_cons.1 hchain
  have hmem : ∀ o' ∈ o :: later, o' ∈ os := by
    intro o' ho'
    rcases List.mem_cons.1 ho' with rfl | ho'
    · exact homem
    · exact List.mem_of_mem_drop ( hlater.prefix.subset ho')
  -- the runtime closes at the first exit of the candles after the entry
  obtain ⟨t', hfinal⟩ := Standing.cycles hopen ((hos.market o homem).1.symm.trans hsymbol) (hos.scope homem).symm
    hstanding hlater.cycles fun o' ho' => hos.market o' (mem_windows ho')
  have hruntime : (w'.paper.engine 0).closes.get? c = (w.paper.engine 0).closeOn c p later := by
    have hcloses := hfinal.closes
    rw [hopened, hlater.taken hos.sorted o.closedAt hafter] at hcloses
    exact hcloses
  -- the candles observed in order close at their first exit
  have hreplay : ((observedAt (w.paper.engine 0) c p o.candleOpenedAt).replay c false (o :: later)).1 =
      .ok ((w.paper.engine 0).closeOn c p (o :: later)) := by
    refine replay_eq_closeOn c (o :: later) (e := observedAt (w.paper.engine 0) c p o.candleOpenedAt)
      (p := { p with lastObservedAt := o.candleOpenedAt }) (PyDict.get?_set_self _ c _) hstanding.closes (fun o' ho' => ?_) (fun o' ho' => ?_) hchain
    · exact (hos.market o' (hmem o' ho')).1.trans ((hos.market o homem).1.symm.trans hsymbol)
    · rcases List.mem_cons.1 ho' with rfl | ho'
      · exact o'.times_ok
      · exact o.times_ok.trans (hafter o' ho')
  rw [hreplay, hruntime, Except.ok.injEq, closeOn_eq_iff (fun o' ho' => List.mem_cons_of_mem o ho') hchain hsorted]
  constructor
  · intro hfirst
    by_contra hexit
    obtain ⟨o', ho', hle, -⟩ := hfirst o List.mem_cons_self (Option.isSome_iff_ne_none.2 hexit)
    have hlt := hafter o' ho'
    omega
  · intro hnone o' ho' hexit
    rcases List.mem_cons.1 ho' with rfl | ho'
    · rw [hnone] at hexit
      cases hexit
    · exact ⟨o', ho', le_rfl, hexit⟩

end

/-! ### An entry candle that falls through the stop -/

local instance exitCase : CaseMap := asciiCase

local instance exitFold : CaseFold := ⟨CaseMap.lower⟩

local instance exitExc : ExcClass := ⟨fun _ => "RuntimeError", fun _ => false⟩

def sampleCycle (os : List ClosedMarketObservation) (i : ℕ) (signal : Signal) (production : Option ProductionAnswer)
    (w : World) : Except PyExc PaperRuntimeHeartbeat × World :=
  (runtimeCycle "XAUUSD" .m15).run (sampleAnswer (window os (i + 1)) (some signal) production) w

def sampleStored (os : List ClosedMarketObservation) (i : ℕ) (o : ClosedMarketObservation) (signal : Signal)
    (production : Option ProductionAnswer) (action : String) (w : World) : Except PyExc Unit × World :=
  (store o action).run (sampleAnswer (window os (i + 1)) (some signal) production) (sampleCycle os i signal production w).2

theorem turnSucceeds_sample (os : List ClosedMarketObservation) (i : ℕ) (o : ClosedMarketObservation) (signal : Signal)
    (production : Option ProductionAnswer) (action : String) (w : World)
    (haction : (sampleCycle os i signal production w).1.toOption.map (·.lastAction) = some action)
    (hok : action ≠ "ERROR" ∧ action ≠ "BLOCKED:MARKET_DATA")
    (hstored : (sampleStored os i o signal production action w).1.toOption = some ()) :
    TurnSucceeds (fun _ => "TREND_UP") "XAUUSD" .m15 os i o w (sampleStored os i o signal production action w).2 := by
  have hcycle := Ends.of_run (sampleAnswer (window os (i + 1)) (some signal) production)
    (sampleAnswer_exec _ (some signal) production) (runtimeCycle "XAUUSD" .m15) w
  have hstore := Ends.of_run (sampleAnswer (window os (i + 1)) (some signal) production)
    (sampleAnswer_exec _ (some signal) production) (store o action) (sampleCycle os i signal production w).2
  unfold sampleStored at hstored ⊢
  unfold sampleCycle at haction hstore hstored ⊢
  generalize (runtimeCycle "XAUUSD" .m15).run (sampleAnswer (window os (i + 1)) (some signal) production) w = out
    at haction hcycle hstore hstored ⊢
  obtain ⟨exc | heartbeat, w₁⟩ := out
  · cases haction
  · rw [Except.toOption, Option.map_some, Option.some.injEq] at haction
    dsimp only at hstore hstored ⊢
    generalize (store o action).run (sampleAnswer (window os (i + 1)) (some signal) production) w₁ = out
      at hstore hstored ⊢
    obtain ⟨exc | _, w₂⟩ := out
    · cases hstored
    · exact ⟨heartbeat, w₁, hcycle, by rw [haction]; exact hok.1, by rw [haction]; exact hok.2, by rw [haction]; exact hstore⟩

def entrySeries (entry : ClosedMarketObservation) : List ClosedMarketObservation :=
  quarters 502 ++ [entry, quarter 453600]

def buySignal : Signal := [("signal", .str "BUY"), ("confidence", .int 80)]

def buyDecision : ProductionAnswer where
  regime := "TREND_UP"
  decision := some ⟨sampleIntent "XAUUSD" "k1", sampleContext ["XAUUSD"] 5⟩
  riskAuthorizationState := some "AUTHORIZED"
  authorizedQuantity := some 1
  blockReason := none

def sampleEnds (os : List ClosedMarketObservation) (i : ℕ) (o : ClosedMarketObservation) (signal : Signal)
    (production : Option ProductionAnswer) (action : String) (w : World) : Bool :=
  (sampleCycle os i signal production w).1.toOption.map (·.lastAction) == some action &&
    (sampleStored os i o signal production action w).1.toOption == some ()

theorem turnSucceeds_of_sampleEnds {os : List ClosedMarketObservation} {i : ℕ} {o : ClosedMarketObservation}
    {signal : Signal} {production : Option ProductionAnswer} {action : String} {w : World}
    (h : sampleEnds os i o signal production action w = true) (hok : action ≠ "ERROR" ∧ action ≠ "BLOCKED:MARKET_DATA") :
    TurnSucceeds (fun _ => "TREND_UP") "XAUUSD" .m15 os i o w (sampleStored os i o signal production action w).2 := by
  obtain ⟨haction, hstored⟩ := Bool.and_eq_true_iff.1 h
  exact turnSucceeds_sample os i o signal production action w (eq_of_beq haction) hok (eq_of_beq hstored)

def candidateWorld (entry : ClosedMarketObservation) : World :=
  (sampleStored (entrySeries entry) 500 (quarter 450900) buySignal none "NO_SIGNAL" World.new).2

def confirmedWorld (entry : ClosedMarketObservation) : World :=
  (sampleStored (entrySeries entry) 501 (quarter 451800) [] none "NO_SIGNAL" (candidateWorld entry)).2

def enteredWorld (entry : ClosedMarketObservation) : World :=
  (sampleStored (entrySeries entry) 502 entry [] (some buyDecision) "POSITION_OPENED" (confirmedWorld entry)).2

def lastWorld (entry : ClosedMarketObservation) : World :=
  (sampleStored (entrySeries entry) 503 (quarter 453600) [] none "NO_SIGNAL" (enteredWorld entry)).2

def entryEnds (entry : ClosedMarketObservation) : Bool :=
  sampleEnds (entrySeries entry) 500 (quarter 450900) buySignal none "NO_SIGNAL" World.new &&
    (sampleEnds (entrySeries entry) 501 (quarter 451800) [] none "NO_SIGNAL" (candidateWorld entry) &&
      (sampleEnds (entrySeries entry) 502 entry [] (some buyDecision) "POSITION_OPENED" (confirmedWorld entry) &&
        sampleEnds (entrySeries entry) 503 (quarter 453600) [] none "NO_SIGNAL" (enteredWorld entry)))

def entryContract : String := paperContractId "k1"

structure EntryRun (entry : ClosedMarketObservation) (w w' w'' : World) (p : PaperPosition) : Prop where
  reached : Reached (fun _ => "TREND_UP") "XAUUSD" .m15 (entrySeries entry) ⟨w, some ⟨502, []⟩, false⟩
  opening : TurnSucceeds (fun _ => "TREND_UP") "XAUUSD" .m15 (entrySeries entry) 502 entry w w'
  absent : (w.paper.engine 0).positions.get? entryContract = none
  opened : (w'.paper.engine 0).positions.get? entryContract = some p
  later : TurnSucceeds (fun _ => "TREND_UP") "XAUUSD" .m15 (entrySeries entry) 503 (quarter 453600) w' w''
  unclosed : (w''.paper.engine 0).closes.get? entryContract = none

theorem entrySeries_get (entry : ClosedMarketObservation) : (entrySeries entry)[500]? = some (quarter 450900) ∧
    (entrySeries entry)[501]? = some (quarter 451800) ∧ (entrySeries entry)[502]? = some entry ∧
      (entrySeries entry)[503]? = some (quarter 453600) := by
  have hlen : (quarters 502).length = 502 := by simp [quarters]
  unfold entrySeries
  refine ⟨?_, ?_, ?_, ?_⟩
  · rw [getElem?_append_left (by omega)]
    exact quarters_getElem? (by decide)
  · rw [getElem?_append_left (by omega)]
    exact quarters_getElem? (by decide)
  · rw [getElem?_append_right (by omega), hlen]
    rfl
  · rw [getElem?_append_right (by omega), hlen]
    rfl

variable {entry : ClosedMarketObservation}

theorem entrySeries_series (hmarket : OfMarket "XAUUSD" .m15 [entry])
    (htime : entry.closedAt = 452700) : Series "XAUUSD" .m15 (entrySeries entry) where
  market o ho := by
    rcases mem_append.1 ho with ho | ho
    · exact (quarters_series 502).market o ho
    · rcases mem_cons.1 ho with rfl | ho
      · exact hmarket o mem_cons_self
      · rw [mem_singleton.1 ho]
        exact ⟨rfl, rfl⟩
  sorted := by
    refine pairwise_append.2 ⟨(quarters_series 502).sorted, ?_, fun o ho o' ho' => ?_⟩
    · refine .cons (fun o ho => ?_) (pairwise_singleton _ _)
      rw [mem_singleton.1 ho, htime]
      decide
    · obtain ⟨i, hi, rfl⟩ := mem_map.1 ho
      have hi := mem_range.1 hi
      have hlt : (quarter (900 * ((i : ℤ) + 1))).closedAt < 452700 := by
        change 900 * ((i : ℤ) + 1) < 452700
        omega
      rcases mem_cons.1 ho' with rfl | ho'
      · rw [htime]
        exact hlt
      · rw [mem_singleton.1 ho']
        exact hlt.trans (by decide)

theorem reached_entry {w₁ w₂ : World}
    (hfirst : TurnSucceeds (fun _ => "TREND_UP") "XAUUSD" .m15 (entrySeries entry) 500 (quarter 450900) World.new w₁)
    (hsecond : TurnSucceeds (fun _ => "TREND_UP") "XAUUSD" .m15 (entrySeries entry) 501 (quarter 451800) w₁ w₂) :
    Reached (fun _ => "TREND_UP") "XAUUSD" .m15 (entrySeries entry) ⟨w₂, some ⟨502, []⟩, false⟩ := by
  obtain ⟨h500, h501, -, -⟩ := entrySeries_get entry
  exact (Relation.ReflTransGen.single (.turn (p := ⟨500, []⟩) rfl h500 not_mem_nil hfirst.ends)).tail
    (.turn (p := ⟨501, []⟩) rfl h501 not_mem_nil hsecond.ends)

def entryCheck (entry : ClosedMarketObservation) (check : PaperContractEngine → PaperPosition → Bool) : Bool :=
  entryEnds entry && ((((confirmedWorld entry).paper.engine 0).positions.get? entryContract).isNone &&
    ((((lastWorld entry).paper.engine 0).closes.get? entryContract).isNone &&
      (((enteredWorld entry).paper.engine 0).positions.get? entryContract).any
        (check ((enteredWorld entry).paper.engine 0))))

theorem exists_entryRun {check : PaperContractEngine → PaperPosition → Bool}
    (h : entryCheck entry check = true) :
    ∃ w w' w'' p, EntryRun entry w w' w'' p ∧ check (w'.paper.engine 0) p = true := by
  obtain ⟨hends, h⟩ := Bool.and_eq_true_iff.1 h
  obtain ⟨habsent, h⟩ := Bool.and_eq_true_iff.1 h
  obtain ⟨hunclosed, h⟩ := Bool.and_eq_true_iff.1 h
  obtain ⟨p, hp, hcheck⟩ := (Option.any_eq_true _ _).1 h
  obtain ⟨hfirst, hends⟩ := Bool.and_eq_true_iff.1 hends
  obtain ⟨hsecond, hends⟩ := Bool.and_eq_true_iff.1 hends
  obtain ⟨hthird, hfourth⟩ := Bool.and_eq_true_iff.1 hends
  have hquiet : ("NO_SIGNAL" : String) ≠ "ERROR" ∧ ("NO_SIGNAL" : String) ≠ "BLOCKED:MARKET_DATA" := by decide
  have hreached := reached_entry (turnSucceeds_of_sampleEnds hfirst hquiet) (turnSucceeds_of_sampleEnds hsecond hquiet)
  have hopening := turnSucceeds_of_sampleEnds hthird (by decide)
  have hlater := turnSucceeds_of_sampleEnds hfourth hquiet
  exact ⟨confirmedWorld entry, enteredWorld entry, lastWorld entry, p,
    ⟨hreached, hopening, Option.isNone_iff_eq_none.1 habsent, hp, hlater, Option.isNone_iff_eq_none.1 hunclosed⟩, hcheck⟩

theorem EntryRun.turns {w w' w'' : World} {p : PaperPosition}
    (h : EntryRun entry w w' w'' p) :
    Turns (fun _ => "TREND_UP") "XAUUSD" .m15 (entrySeries entry) 503 [quarter 453600] w' w'' :=
  .cons (entrySeries_get entry).2.2.2 h.later (.nil _ _)

def replayCloses (o : ClosedMarketObservation) (e : PaperContractEngine) (p : PaperPosition) : Bool :=
  ((observedAt e entryContract p o.candleOpenedAt).replay entryContract false [o, quarter 453600]).1.toOption.any
    Option.isSome

def entryQuiet (o : ClosedMarketObservation) (_ : PaperContractEngine) (p : PaperPosition) : Bool := (p.levelExit o).isNone

theorem exists_fallingEntry : ∃ w w' w'' p, EntryRun (fallingQuarter 452700) w w' w'' p ∧
    replayCloses (fallingQuarter 452700) (w'.paper.engine 0) p = true := exists_entryRun (by decide +kernel)

theorem exists_steadyEntry : ∃ w w' w'' p, EntryRun (quarter 452700) w w' w'' p ∧
    entryQuiet (quarter 452700) (w'.paper.engine 0) p = true := exists_entryRun (by decide +kernel)

theorem ofMarket_one {symbol : String} {timeframe : Timeframe} {o : ClosedMarketObservation}
    (h : o.canonicalSymbol = symbol ∧ o.timeframe = timeframe) : OfMarket symbol timeframe [o] := by
  intro o' ho'
  rw [mem_singleton.1 ho']
  exact h

/-- **The entry candle is skipped**: it falls through the stop, and the position is still open one candle later. -/
theorem entry_candle_skipped : ¬∀ (regimeOf : List ClosedMarketObservation → String) (symbol : String)
    (timeframe : Timeframe) (os : List ClosedMarketObservation), Series symbol timeframe os →
    ∀ s : State, Reached regimeOf symbol timeframe os s → ∀ (k : ℕ) (o : ClosedMarketObservation), os[k]? = some o →
    ∀ w : World, TurnSucceeds regimeOf symbol timeframe os k o s.world w →
    ∀ (c : String) (p : PaperPosition), (s.world.paper.engine 0).positions.get? c = none →
      (w.paper.engine 0).positions.get? c = some p →
    ∀ (later : List ClosedMarketObservation) (w' : World), Turns regimeOf symbol timeframe os (k + 1) later w w' →
      ((observedAt (w.paper.engine 0) c p o.candleOpenedAt).replay c false (o :: later)).1 =
        .ok ((w'.paper.engine 0).closes.get? c) := by
  intro h
  obtain ⟨w, w', w'', p, hrun, hcloses⟩ := exists_fallingEntry
  have hentry := (entrySeries_get (fallingQuarter 452700)).2.2.1
  have hreplay := h _ _ _ _ (entrySeries_series (ofMarket_one ⟨rfl, rfl⟩) rfl) _ hrun.reached 502 _ hentry w'
    hrun.opening entryContract p hrun.absent hrun.opened _ w'' hrun.turns
  unfold replayCloses at hcloses
  rw [hreplay, hrun.unclosed] at hcloses
  cases hcloses

/-- An entry candle that reaches neither level. -/
theorem campaign_exit_steady : ∃ (s : State) (w w' : World) (p : PaperPosition),
    Reached (fun _ => "TREND_UP") "XAUUSD" .m15 (entrySeries (quarter 452700)) s ∧
    (w.paper.engine 0).positions.get? entryContract = some p ∧
    ((observedAt (w.paper.engine 0) entryContract p (quarter 452700).candleOpenedAt).replay entryContract false
      [quarter 452700, quarter 453600]).1 = .ok ((w'.paper.engine 0).closes.get? entryContract) := by
  obtain ⟨w, w', w'', p, hrun, hexit⟩ := exists_steadyEntry
  refine ⟨_, w', w'', p, hrun.reached, hrun.opened, ?_⟩
  exact (campaign_exit_iff (entrySeries_series (ofMarket_one ⟨rfl, rfl⟩) rfl) hrun.reached
    (entrySeries_get (quarter 452700)).2.2.1 hrun.opening hrun.absent hrun.opened hrun.turns).2
    (Option.isNone_iff_eq_none.1 hexit)

end Campaign
end Jqe
