import Jqe.CampaignTurn
import Jqe.PaperTaken
/-!
# CampaignSound — a completed campaign evaluated every candle

`run_once` swallows the failure of a cycle and leaves a PROCESSING row, which keeps every later candle of the market from
being claimed; the loop records them all the same.
-/
namespace Jqe
namespace Campaign

open Coro Prog Confirmation ContinuousPaperRuntime List

/-- **The candles of a campaign**: of one market, one after the other. -/
structure Series (symbol : String) (timeframe : Timeframe) (os : List ClosedMarketObservation) : Prop where
  market : OfMarket symbol timeframe os
  sorted : os.Pairwise fun o o' => o.closedAt < o'.closedAt

variable {os : List ClosedMarketObservation} {o : ClosedMarketObservation}

theorem Series.scope [CaseMap] {symbol : String} {timeframe : Timeframe} (h : Series symbol timeframe os) (ho : o ∈ os) :
    o.scope = normalizeSymbol symbol ++ ":" ++ timeframe.value := by
  unfold ClosedMarketObservation.scope
  rw [(h.market o ho).1, (h.market o ho).2]

theorem window_getLast? {i : ℕ} (ho : os[i]? = some o) : (window os (i + 1)).getLast? = some o := by
  obtain ⟨hi, rfl⟩ := List.getElem?_eq_some_iff.1 ho
  have hlen : (os.take (i + 1)).length = i + 1 := by
    rw [length_take]
    omega
  unfold window warmup
  rw [getLast?_drop, if_neg (by omega), getLast?_eq_getElem?, hlen, getElem?_take_of_lt (by omega),
    Nat.add_sub_cancel, getElem?_eq_getElem hi]

section

variable [CaseMap] [CaseFold] [ExcClass] (regimeOf : List ClosedMarketObservation → String) (symbol : String)
  (timeframe : Timeframe) (os : List ClosedMarketObservation)

/-- **A quiet step**: a turn that catches nothing, or a step between the turns. -/
inductive QuietStep (s : State) : State → Prop
  | turn {p : Process} {o : ClosedMarketObservation} {w : World} (hp : s.process = some p) (ho : os[p.cursor]? = some o)
      (hnew : o.closedAt ∉ p.processedTimes)
      (h : Ends (QuietExec regimeOf (window os (p.cursor + 1))) (turn symbol timeframe o) s.world (.ok ()) w) :
      QuietStep s ⟨w, some { p with cursor := p.cursor + 1 }, s.completed⟩
  | skip {p : Process} {o : ClosedMarketObservation} (hp : s.process = some p) (ho : os[p.cursor]? = some o)
      (hold : o.closedAt ∈ p.processedTimes) : QuietStep s { s with process := some { p with cursor := p.cursor + 1 } }
  | stop : QuietStep s { s with process := none }
  | finish {p : Process} (hp : s.process = some p) (hend : os.length ≤ p.cursor) : QuietStep s ⟨s.world, none, true⟩
  | resume {confirmation : HistoricalConfirmationState ℤ} (hp : s.process = none) (hopen : s.completed = false)
      (h : HistoricalConfirmationState.load s.world.confirmationFile = .ok confirmation) :
      QuietStep s (s.resumed confirmation)

variable {regimeOf symbol timeframe os} {s s' : State}

theorem QuietStep.step (h : QuietStep regimeOf symbol timeframe os s s') : Step regimeOf symbol timeframe os s s' := by
  cases h with
  | turn hp ho hnew h => exact .turn hp ho hnew (h.map (π := id) fun _ _ _ _ hx => hx.1)
  | skip hp ho hold => exact .skip hp ho hold
  | stop => exact .stop
  | finish hp hend => exact .finish hp hend
  | resume hp hopen h => exact .resume hp hopen h

abbrev Done := ClosedMarketObservation × Facts × Record

/-- **What quiet steps keep**: the stores hold one evaluation and one record for each candle done, and the row of the
market is complete at the latest. -/
structure Kept (symbol : String) (timeframe : Timeframe) (os : List ClosedMarketObservation) (ds : List Done)
    (s : State) : Prop where
  series : ∃ rest, os.drop warmup = ds.map (·.1) ++ rest ∧
    ∀ o ∈ rest, ∀ row, s.world.paper.observations.get? (normalizeSymbol symbol ++ ":" ++ timeframe.value) = some row →
      row.state = .complete ∧ row.closedAt < o.closedAt
  evaluations : s.world.evaluations = ds.map fun d => (d.1.closedAt, d.2.1)
  records : s.world.records = ds.map (·.2.2)
  carries : ∀ d ∈ ds, d.2.2.candleCloseTime = d.1.closedAt ∧ d.2.2.Carries d.2.1
  process : ∀ p, s.process = some p → p.cursor = warmup + ds.length ∧
    ∀ t ∈ p.processedTimes, t ∈ ds.map (·.1.closedAt)
  completed : s.completed = true → os.length ≤ warmup + ds.length

omit [CaseFold] [ExcClass] in
theorem kept_start (symbol : String) (timeframe : Timeframe) (os : List ClosedMarketObservation) :
    Kept symbol timeframe os [] State.start where
  series := ⟨os.drop warmup, rfl, fun o _ row hrow => by cases hrow⟩
  evaluations := rfl
  records := rfl
  carries d hd := by cases hd
  process p hp := by
    cases hp
    exact ⟨rfl, fun t ht => by cases ht⟩
  completed h := by cases h

omit [CaseFold] [ExcClass] in
theorem Kept.next {ds : List Done} (h : Kept symbol timeframe os ds s) {p : Process} (hp : s.process = some p)
    {o : ClosedMarketObservation} (ho : os[p.cursor]? = some o) {rest : List ClosedMarketObservation}
    (hrest : os.drop warmup = ds.map (·.1) ++ rest) : ∃ later, rest = o :: later := by
  have hcursor := (h.process p hp).1
  have hget : (os.drop warmup)[ds.length]? = some o := by
    rw [getElem?_drop, ← hcursor]
    exact ho
  rw [hrest, getElem?_append_right (by rw [length_map]), length_map, Nat.sub_self] at hget
  cases rest with
  | nil => cases hget
  | cons o' later =>
    cases hget
    exact ⟨later, rfl⟩

theorem Kept.step (hos : Series symbol timeframe os) {ds : List Done} (h : Kept symbol timeframe os ds s)
    (hstep : QuietStep regimeOf symbol timeframe os s s') : ∃ ds', Kept symbol timeframe os ds' s' := by
  obtain ⟨rest, hrest, hrow⟩ := h.series
  have hsorted : (ds.map (·.1) ++ rest).Pairwise fun o o' => o.closedAt < o'.closedAt := by
    rw [← hrest]
    exact hos.sorted.sublist (drop_sublist _ _)
  cases hstep with
  | @turn p o w hp ho hnew hturn =>
    obtain ⟨later, rfl⟩ := h.next hp ho hrest
    have hmem : ∀ o' ∈ o :: later, o' ∈ os := fun o' ho' =>
      mem_of_mem_drop (by rw [hrest]; exact mem_append_right _ ho')
    have hscope := hos.scope (hmem o mem_cons_self)
    have hturned := ends_turn (window_getLast? ho) (by rw [hscope]; exact hrow o mem_cons_self) hturn
    obtain ⟨own, r, htime, hcarries, hevaluations, hrecords⟩ := hturned.recorded
    -- no record has the time of this candle yet
    have hearlier : ∀ d ∈ ds, d.1.closedAt < o.closedAt := fun d hd =>
      (pairwise_append.1 hsorted).2.2 d.1 (mem_map_of_mem hd) o mem_cons_self
    have hinsert : (s.world.insert r).records = s.world.records ++ [r] := by
      unfold World.insert
      rw [if_neg]
      rw [h.records, any_map, List.any_eq_true]
      rintro ⟨d, hd, heq⟩
      have hdtime := (h.carries d hd).1
      have hlt := hearlier d hd
      have heq : d.2.2.candleCloseTime = r.candleCloseTime := of_decide_eq_true heq
      omega
    refine ⟨ds ++ [(o, own, r)], ⟨later, ?_, fun o' ho' row hget => ?_⟩, ?_, ?_, fun d hd => ?_, fun q hq => ?_,
      fun hdone => ?_⟩
    · rw [hrest, map_append, append_assoc]
      rfl
    · rw [← hscope, hturned.row] at hget
      cases hget
      exact ⟨rfl, (pairwise_cons.1 (pairwise_append.1 hsorted).2.1).1 o' ho'⟩
    · rw [hevaluations, h.evaluations, map_append]
      rfl
    · rw [hrecords, hinsert, h.records, map_append]
      rfl
    · rcases mem_append.1 hd with hd | hd
      · exact h.carries d hd
      · rw [mem_singleton.1 hd]
        exact ⟨htime, hcarries⟩
    · cases hq
      obtain ⟨hcursor, hprocessed⟩ := h.process p hp
      refine ⟨?_, fun t ht => ?_⟩
      · rw [length_append, length_singleton]
        dsimp only
        omega
      · rw [map_append]
        exact mem_append_left _ (hprocessed t ht)
    · have hlen := h.completed hdone
      rw [length_append]
      omega
  | @skip p o hp ho hold =>
    -- no candle of a next turn was processed
    obtain ⟨later, rfl⟩ := h.next hp ho hrest
    obtain ⟨d, hd, heq⟩ := mem_map.1 ((h.process p hp).2 _ hold)
    have hlt := (pairwise_append.1 hsorted).2.2 d.1 (mem_map_of_mem hd) o mem_cons_self
    omega
  | stop => exact ⟨ds, ⟨rest, hrest, hrow⟩, h.evaluations, h.records, h.carries, (fun p hp => by cases hp), h.completed⟩
  | @finish p hp hend =>
    refine ⟨ds, ⟨rest, hrest, hrow⟩, h.evaluations, h.records, h.carries, (fun p hp => by cases hp), fun _ => ?_⟩
    rw [← (h.process p hp).1]
    exact hend
  | resume hp hopen hload =>
    refine ⟨ds, ⟨rest, hrest, hrow⟩, h.evaluations, h.records, h.carries, fun p hp => ?_, h.completed⟩
    cases hp
    dsimp only
    rw [h.records, length_map]
    refine ⟨rfl, fun t ht => ?_⟩
    rw [map_map] at ht
    obtain ⟨d, hd, rfl⟩ := mem_map.1 ht
    exact mem_map.2 ⟨d, hd, (h.carries d hd).1.symm⟩

theorem kept_of_quiet (hos : Series symbol timeframe os)
    (h : Relation.ReflTransGen (QuietStep regimeOf symbol timeframe os) State.start s) :
    ∃ ds, Kept symbol timeframe os ds s := by
  induction h with
  | refl => exact ⟨[], kept_start symbol timeframe os⟩
  | tail _ hstep ih =>
    obtain ⟨ds, hkept⟩ := ih
    exact hkept.step hos hstep

omit [CaseMap] [CaseFold] [ExcClass] in
theorem filter_time {β : Type} (time : β → ℤ) : ∀ {ds : List β}, ds.Pairwise (fun d d' => time d < time d') →
    ∀ {d : β}, d ∈ ds → ds.filter (time · = time d) = [d]
  | d' :: ds, hsorted, d, hd => by
    obtain ⟨hfirst, hrest⟩ := pairwise_cons.1 hsorted
    rcases mem_cons.1 hd with rfl | hd
    · rw [filter_cons_of_pos (by simp), filter_eq_nil_iff.2 fun d' hd' => ?_]
      have hlt := hfirst d' hd'
      simp only [decide_eq_true_eq]
      omega
    · have hlt := hfirst d hd
      rw [filter_cons_of_neg (by simp only [decide_eq_true_eq]; omega)]
      exact filter_time time hrest hd

/-- **A campaign of quiet steps that is completed has evaluated every candle once**, and its records carry what the
evaluations found. -/
theorem quiet_evaluated (hos : Series symbol timeframe os)
    (h : Relation.ReflTransGen (QuietStep regimeOf symbol timeframe os) State.start s) :
    Reached regimeOf symbol timeframe os s ∧ (s.completed = true → Evaluated os s.world) := by
  refine ⟨h.lift id fun _ _ => QuietStep.step, fun hdone => ?_⟩
  obtain ⟨ds, hkept⟩ := kept_of_quiet hos h
  obtain ⟨rest, hrest, -⟩ := hkept.series
  have hall : os.drop warmup = ds.map (·.1) := by
    have hlen := congrArg List.length hrest
    rw [List.length_drop, List.length_append, List.length_map] at hlen
    have hend := hkept.completed hdone
    have hnil : rest = [] := List.length_eq_zero_iff.1 (by omega)
    rw [hrest, hnil, List.append_nil]
  have hsorted : ds.Pairwise fun d d' => d.1.closedAt < d'.1.closedAt := by
    have hdropped := hos.sorted.sublist (List.drop_sublist warmup os)
    rw [hall, List.pairwise_map] at hdropped
    exact hdropped
  intro o ho
  rw [hall] at ho
  obtain ⟨d, hd, rfl⟩ := List.mem_map.1 ho
  have hone := filter_time (·.1.closedAt) hsorted hd
  refine ⟨d.2.1, d.2.2, ?_, ?_, (hkept.carries d hd).2⟩
  · rw [hkept.evaluations, List.filter_map]
    exact congrArg (List.map _) hone
  · rw [hkept.records, List.filter_map]
    have hsame : ds.filter ((fun r : Record => Decidable.decide (r.candleCloseTime = d.1.closedAt)) ∘ (·.2.2)) =
        ds.filter (·.1.closedAt = d.1.closedAt) := by
      refine List.filter_congr fun d' hd' => ?_
      simp only [Function.comp_apply, (hkept.carries d' hd').1]
    rw [hsame]
    exact congrArg (List.map _) hone

end

/-! ### Samples -/

local instance campaignCase : CaseMap := asciiCase

local instance campaignFold : CaseFold := ⟨CaseMap.lower⟩

local instance campaignExc : ExcClass := ⟨fun _ => "RuntimeError", fun _ => false⟩

def quarters (n : ℕ) : List ClosedMarketObservation := (List.range n).map fun i : ℕ => quarter (900 * ((i : ℤ) + 1))

theorem quarters_series (n : ℕ) : Series "XAUUSD" .m15 (quarters n) where
  market o ho := by
    obtain ⟨i, -, rfl⟩ := mem_map.1 ho
    exact ⟨rfl, rfl⟩
  sorted := by
    refine pairwise_map.2 (List.pairwise_lt_range.imp fun {i j} hij => ?_)
    change (900 * ((i : Int) + 1)) < 900 * ((j : Int) + 1)
    omega

def sampleAnswer (bs : List ClosedMarketObservation) (signal : Option Signal) (production : Option ProductionAnswer)
    (w : World) : (r : Req) → Except PyExc r.Ans × World
  | .paper r =>
    ((paperAnswer 1000000 bs none true w.paper r).1, { w with paper := (paperAnswer 1000000 bs none true w.paper r).2 })
  | .evaluateStrategyCandidate os =>
    match signal with
    | some signal => (.ok ("TREND_UP", signal), w.evaluated os (candidateFacts "TREND_UP" signal))
    | none => (.error (.exception "paper runtime market data failed validation"), w)
  | .evaluateProductionDecision .. =>
    match production with
    | some answer => (.ok { answer with regime := "TREND_UP" }, w)
    | none => (.error (.exception "Signal model did not produce a valid setup"), w)
  | .facts => (.ok w.facts, w)
  | .setFacts facts => (.ok (), { w with facts := facts })
  | .pending => (.ok w.confirmation.pending, w)
  | .observe t regime => ((w.confirmation.observe t regime).2, { w with confirmation := (w.confirmation.observe t regime).1 })
  | .queue args => ((w.confirmation.queue args).2, { w with confirmation := (w.confirmation.queue args).1 })
  | .save => (.ok (), { w with confirmationFile := some w.confirmation.save })
  | .emit _ | .report _ => (.ok (), w)
  | .append r => (.ok (), w.insert r)

theorem sampleAnswer_exec (bs : List ClosedMarketObservation) (signal : Option Signal)
    (production : Option ProductionAnswer) (w : World) (r : Req) :
    Exec (fun _ => "TREND_UP") bs w r (sampleAnswer bs signal production w r).1 (sampleAnswer bs signal production w r).2 := by
  cases r with
  | paper r =>
    refine .paper ⟨paperAnswer_exec 1000000 bs none true w.paper r, ?_⟩
    cases r with
    | source => rfl
    | _ => trivial
  | evaluateStrategyCandidate os =>
    cases signal with
    | some signal => exact .candidate os signal
    | none => exact .candidateFailed os _
  | evaluateProductionDecision os original entry =>
    cases production with
    | some answer => exact .production os original entry rfl
    | none => exact .productionFailed os original entry _
  | facts => exact .facts
  | setFacts facts => exact .setFacts facts
  | pending => exact .pending
  | observe t regime => exact .observe t regime
  | queue args => exact .queue args
  | save => exact .save
  | emit eventType => exact .emit eventType _
  | append r => exact .append r
  | report lastAction => exact .report lastAction _

def sampleTurn (os : List ClosedMarketObservation) (i : ℕ) (signal : Option Signal) (w : World) :
    Except PyExc Unit × World :=
  match os[i]? with
  | some o => (turn "XAUUSD" .m15 o).run (sampleAnswer (window os (i + 1)) signal none) w
  | none => (.ok (), w)

theorem ends_sampleTurn {i : ℕ} (ho : os[i]? = some o) (signal : Option Signal) (w : World)
    (h : (sampleTurn os i signal w).1.toOption = some ()) :
    Ends (Exec (fun _ => "TREND_UP") (window os (i + 1))) (turn "XAUUSD" .m15 o) w (.ok ()) (sampleTurn os i signal w).2 := by
  have hends := Ends.of_run (sampleAnswer (window os (i + 1)) signal none) (sampleAnswer_exec _ signal none)
    (turn "XAUUSD" .m15 o) w
  unfold sampleTurn at h ⊢
  rw [ho] at h ⊢
  dsimp only at h ⊢
  generalize (turn "XAUUSD" .m15 o).run (sampleAnswer (window os (i + 1)) signal none) w = out at h hends ⊢
  obtain ⟨exc | _, w'⟩ := out
  · cases h
  · exact hends

theorem quarters_getElem? {n i : ℕ} (hi : i < n) : (quarters n)[i]? = some (quarter (900 * ((i : ℤ) + 1))) := by
  unfold quarters
  rw [getElem?_map, getElem?_range hi]
  rfl

theorem exists_unevaluated : ∃ w₁ w₂ : World,
    Ends (Exec (fun _ => "TREND_UP") (window (quarters 502) (warmup + 1)))
      (turn "XAUUSD" .m15 (quarter (900 * ((warmup : ℤ) + 1)))) World.new (.ok ()) w₁ ∧
    Ends (Exec (fun _ => "TREND_UP") (window (quarters 502) (warmup + 1 + 1)))
      (turn "XAUUSD" .m15 (quarter (900 * (((warmup + 1 : ℕ) : ℤ) + 1)))) w₁ (.ok ()) w₂ ∧ w₂.evaluations = [] :=
  ⟨(sampleTurn (quarters 502) warmup none World.new).2,
    (sampleTurn (quarters 502) (warmup + 1) (some []) (sampleTurn (quarters 502) warmup none World.new).2).2,
    ends_sampleTurn (quarters_getElem? (by decide)) none World.new (by decide +kernel),
    ends_sampleTurn (quarters_getElem? (by decide)) (some []) _ (by decide +kernel), by decide +kernel⟩

/-- **A failure in the first cycle**: the strategy raises on the first candle; the campaign of two candles completes,
and neither was evaluated. -/
theorem completed_unevaluated : ¬∀ (regimeOf : List ClosedMarketObservation → String) (symbol : String)
    (timeframe : Timeframe) (os : List ClosedMarketObservation) (s : State), Series symbol timeframe os →
      Reached regimeOf symbol timeframe os s → s.completed = true → Evaluated os s.world := by
  intro h
  obtain ⟨w₁, w₂, hends, hends', hnone⟩ := exists_unevaluated
  have hfirst : Step (fun _ => "TREND_UP") "XAUUSD" .m15 (quarters 502) State.start ⟨w₁, some ⟨warmup + 1, []⟩, false⟩ :=
    .turn (p := ⟨warmup, []⟩) rfl (quarters_getElem? (by decide)) List.not_mem_nil hends
  have hsecond : Step (fun _ => "TREND_UP") "XAUUSD" .m15 (quarters 502) ⟨w₁, some ⟨warmup + 1, []⟩, false⟩
      ⟨w₂, some ⟨warmup + 1 + 1, []⟩, false⟩ :=
    .turn (p := ⟨warmup + 1, []⟩) rfl (quarters_getElem? (by decide)) List.not_mem_nil hends'
  have hreached : Reached (fun _ => "TREND_UP") "XAUUSD" .m15 (quarters 502) ⟨w₂, none, true⟩ :=
    ((Relation.ReflTransGen.single hfirst).tail hsecond).tail
      (.finish (p := ⟨warmup + 1 + 1, []⟩) rfl (by simp [quarters, warmup]))
  obtain ⟨own, r, hone, -⟩ := h _ _ _ _ _ (quarters_series 502) hreached rfl (quarter (900 * ((warmup : ℤ) + 1)))
    (List.mem_drop_iff_getElem.2 ⟨0, by simp [quarters, warmup], by simp [quarters, warmup]⟩)
  rw [hnone] at hone
  cases hone

def quietCheck (w : World) : Req → Bool
  | .paper (.paperEvent kind) => kind ≠ "RUNTIME_ERROR"
  | .evaluateProductionDecision _ signal _ => signal.confidence? = w.facts.signalConfidence
  | _ => true

theorem quiet_of_check {w : World} {r : Req} (h : quietCheck w r = true) : Quiet w r := by
  cases r with
  | paper r =>
    cases r with
    | paperEvent kind =>
      change kind ≠ "RUNTIME_ERROR"
      simpa [quietCheck] using h
    | _ => trivial
  | evaluateProductionDecision os signal entry =>
    change signal.confidence? = w.facts.signalConfidence
    simpa [quietCheck] using h
  | _ => trivial

theorem exists_quiet : ∃ w : World, Ends (QuietExec (fun _ => "TREND_UP") (window (quarters 501) (warmup + 1)))
    (turn "XAUUSD" .m15 (quarter (900 * ((warmup : ℤ) + 1)))) World.new (.ok ()) w := by
  have hreturned : ((turn "XAUUSD" .m15 (quarter (900 * ((warmup : ℤ) + 1)))).run
      (sampleAnswer (window (quarters 501) (warmup + 1)) (some []) none) World.new).1.toOption = some () := by
    decide +kernel
  have hquiet : ∀ w r, quietCheck w r = true → QuietExec (fun _ => "TREND_UP") (window (quarters 501) (warmup + 1)) w r
      (sampleAnswer (window (quarters 501) (warmup + 1)) (some []) none w r).1
      (sampleAnswer (window (quarters 501) (warmup + 1)) (some []) none w r).2 :=
    fun w r hr => ⟨sampleAnswer_exec _ _ _ w r, quiet_of_check hr⟩
  have hends := Ends.of_checked (sampleAnswer (window (quarters 501) (warmup + 1)) (some []) none) hquiet
    (turn "XAUUSD" .m15 (quarter (900 * ((warmup : ℤ) + 1)))) World.new (by decide +kernel)
  generalize (turn "XAUUSD" .m15 (quarter (900 * ((warmup : ℤ) + 1)))).run
    (sampleAnswer (window (quarters 501) (warmup + 1)) (some []) none) World.new = out at hreturned hends
  obtain ⟨exc | _, w⟩ := out
  · cases hreturned
  · exact ⟨w, hends⟩

theorem quiet_evaluated_one : ∃ s : State, s.completed = true ∧
    Reached (fun _ => "TREND_UP") "XAUUSD" .m15 (quarters 501) s ∧ Evaluated (quarters 501) s.world := by
  obtain ⟨w, hends⟩ := exists_quiet
  have hfirst : QuietStep (fun _ => "TREND_UP") "XAUUSD" .m15 (quarters 501) State.start
      ⟨w, some ⟨warmup + 1, []⟩, false⟩ :=
    .turn (p := ⟨warmup, []⟩) rfl (quarters_getElem? (by decide)) List.not_mem_nil hends
  have hreached : Relation.ReflTransGen (QuietStep (fun _ => "TREND_UP") "XAUUSD" .m15 (quarters 501)) State.start
      ⟨w, none, true⟩ :=
    (Relation.ReflTransGen.single hfirst).tail (.finish (p := ⟨warmup + 1, []⟩) rfl (by simp [quarters, warmup]))
  obtain ⟨hreached, hevaluated⟩ := quiet_evaluated (quarters_series 501) hreached
  exact ⟨_, rfl, hreached, hevaluated rfl⟩

end Campaign
end Jqe
