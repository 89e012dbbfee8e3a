import Jqe.ObservationDaemon
import Jqe.Spaced
/-!
# ObservationKept — what the runs of `observe_pair` leave of a scope

The rows of a scope follow each other at one timeframe, as long as no run that found the scope without a cursor jumps
over one that is there by then.  A run that found a cursor goes on from it in steps (`Spaced`).
-/
namespace Jqe
namespace Daemon

open Coro Prog Spaced List

/-! ## The window -/

variable {timeframe : Timeframe}

theorem observationOfCandle_closedAt {symbol : String} {candle : Candle} {time : ℤ}
    {observation : ClosedMarketObservation} (h : observationOfCandle symbol timeframe candle time = .ok observation) :
    observation.closedAt = time + timeframe.seconds := by
  unfold observationOfCandle at h
  split at h
  · split at h
    · split at h
      · cases h
        rfl
      · cases h
    · cases h
  · cases h

theorem closedWindow_from {symbol : String} {now : ℤ} :
    ∀ {candles : List Candle} {observations : List ClosedMarketObservation},
      closedWindow symbol timeframe now candles = .ok observations → ∀ o ∈ observations,
        ∃ c ∈ candles, c.time = .aware (o.closedAt - timeframe.seconds)
  | [], observations, h => by
    cases h
    exact fun o ho => absurd ho not_mem_nil
  | candle :: candles, observations, h => by
    unfold closedWindow at h
    split at h
    · cases h
    · next time htime =>
      obtain ⟨observation, hobservation, h⟩ := bind_ok h
      obtain ⟨rest, hrest, h⟩ := bind_ok h
      have hclosed := observationOfCandle_closedAt hobservation
      have hcandle : candle.time = .aware (observation.closedAt - timeframe.seconds) := by
        rw [htime, hclosed, Int.add_sub_cancel]
      have ih := closedWindow_from hrest
      cases h
      intro o ho
      split at ho
      · rcases mem_cons.1 ho with rfl | ho
        · exact ⟨candle, mem_cons_self, hcandle⟩
        · obtain ⟨c, hc, htime⟩ := ih o ho
          exact ⟨c, mem_cons_of_mem _ hc, htime⟩
      · obtain ⟨c, hc, htime⟩ := ih o ho
        exact ⟨c, mem_cons_of_mem _ hc, htime⟩

theorem closedWindow_ascending {symbol : String} {now : ℤ} :
    ∀ {candles : List Candle} {observations : List ClosedMarketObservation},
      candles.Pairwise (fun a b => ∀ s t, a.time = .aware s → b.time = .aware t → s < t) →
      closedWindow symbol timeframe now candles = .ok observations →
      (observations.map fun o => o.closedAt).Pairwise (· < ·)
  | [], observations, _, h => by
    cases h
    exact List.Pairwise.nil
  | candle :: candles, observations, hascending, h => by
    unfold closedWindow at h
    split at h
    · cases h
    · next time htime =>
      obtain ⟨observation, hobservation, h⟩ := bind_ok h
      obtain ⟨rest, hrest, h⟩ := bind_ok h
      have ih := closedWindow_ascending hascending.of_cons hrest
      have hclosed := observationOfCandle_closedAt hobservation
      cases h
      split
      · rw [map_cons, pairwise_cons]
        refine ⟨fun t ht => ?_, ih⟩
        obtain ⟨o, ho, rfl⟩ := mem_map.1 ht
        obtain ⟨c, hc, hctime⟩ := closedWindow_from hrest o ho
        have hlt := rel_of_pairwise_cons hascending hc _ _ htime hctime
        omega
      · exact ih

/-- **The closings of a provider's window ascend on the grid of its timeframe.** -/
structure WindowOk (timeframe : Timeframe) (observations : List ClosedMarketObservation) : Prop where
  ascending : (observations.map fun o => o.closedAt).Pairwise (· < ·)
  aligned : ∀ o ∈ observations, timeframe.seconds ∣ o.closedAt

theorem windowOk {symbol : String} {now : ℤ} {provided : ProviderCandles timeframe}
    {observations : List ClosedMarketObservation}
    (h : closedObservationsFromCandles symbol timeframe now provided.candles = .ok observations) :
    WindowOk timeframe observations := by
  unfold closedObservationsFromCandles at h
  obtain ⟨window, hwindow, h⟩ := bind_ok h
  split at h
  · cases h
  · cases h
    refine ⟨closedWindow_ascending provided.ascending hwindow, fun o ho => ?_⟩
    obtain ⟨c, hc, htime⟩ := closedWindow_from hwindow o ho
    have hdvd := Int.dvd_add (provided.aligned c hc _ htime) (dvd_refl timeframe.seconds)
    rwa [Int.sub_add_cancel] at hdvd

/-! ## What is pending -/

variable {strategy : ObservationStrategy} {run : ObserveRun} {observations : List ClosedMarketObservation}
  {latest : ClosedMarketObservation}

theorem latest_ge (hwindow : WindowOk run.pair.timeframe observations) (hlast : observations.getLast? = some latest) :
    ∀ o ∈ observations, o.closedAt ≤ latest.closedAt := by
  obtain ⟨init, rfl⟩ := getLast?_eq_some_iff.1 hlast
  have hascending := hwindow.ascending
  rw [map_append, pairwise_append] at hascending
  intro o ho
  rcases mem_append.1 ho with ho | ho
  · exact (hascending.2.2 _ (mem_map_of_mem ho) _ (mem_singleton_self _)).le
  · rw [mem_singleton.1 ho]

theorem pending_grid (hwindow : WindowOk run.pair.timeframe observations) (hlast : observations.getLast? = some latest)
    {prior : ℤ} (hprior : run.pair.timeframe.seconds ∣ prior) :
    ((pendingAfter observations latest (some prior)).map fun o => o.closedAt).Pairwise (· < ·) ∧
      ∀ t ∈ (pendingAfter observations latest (some prior)).map fun o => o.closedAt,
        OnGrid run.pair.timeframe.seconds prior latest.closedAt t := by
  constructor
  · exact hwindow.ascending.sublist (List.filter_sublist.map _)
  · intro t ht
    obtain ⟨o, ho, rfl⟩ := mem_map.1 ht
    obtain ⟨ho, hafter⟩ := mem_filter.1 ho
    exact ⟨of_decide_eq_true hafter, latest_ge hwindow hlast o ho, Int.dvd_sub (hwindow.aligned o ho) hprior⟩

/-- **What passes the check of the count leaves no closing out.** -/
theorem pending_steps (hwindow : WindowOk run.pair.timeframe observations) (hlast : observations.getLast? = some latest)
    {prior : ℤ} (hprior : run.pair.timeframe.seconds ∣ prior)
    (hcount : expectedCount run latest prior ≤ (pendingAfter observations latest (some prior)).length) :
    Steps run.pair.timeframe.seconds
      (prior :: (pendingAfter observations latest (some prior)).map fun o => o.closedAt) := by
  obtain ⟨hsorted, hgrid⟩ := pending_grid hwindow hlast hprior
  refine steps_of_length (seconds_pos _) hsorted hgrid ?_
  rw [length_map]
  exact hcount

/-- **A missing closing raises**: from a cursor on, no request is made where the window leaves one out. -/
theorem observeFrom_gap (hwindow : WindowOk run.pair.timeframe observations)
    (hlast : observations.getLast? = some latest) {prior t : ℤ} (hprior : run.pair.timeframe.seconds ∣ prior)
    (hgrid : OnGrid run.pair.timeframe.seconds prior latest.closedAt t)
    (hmissing : ∀ o ∈ observations, o.closedAt ≠ t) :
    observeFrom strategy run observations latest (some prior) =
      .raise (.exception "Observation catch-up history is incomplete; refusing to advance cursor") := by
  have hlater : ¬ latest.closedAt ≤ prior := not_le.2 (lt_of_lt_of_le hgrid.1 hgrid.2.1)
  have hshort : ((pendingAfter observations latest (some prior)).length : ℤ) < expectedCount run latest prior := by
    by_contra hcount
    have hsteps := pending_steps hwindow hlast hprior (not_lt.1 hcount)
    have hmem : latest ∈ pendingAfter observations latest (some prior) :=
      mem_filter.2 ⟨mem_of_getLast? hlast, decide_eq_true (not_le.1 hlater)⟩
    have ht := hsteps.mem (mem_cons_of_mem _ (mem_map_of_mem hmem)) hgrid
    obtain ⟨o, ho, htime⟩ := mem_map.1 ht
    exact hmissing o (mem_filter.1 ho).1 htime
  have hchecked : pendingChecked run observations latest (some prior) =
      .error (.exception "Observation catch-up history is incomplete; refusing to advance cursor") := by
    unfold pendingChecked
    simp only [hlater, hshort, if_true, if_false]
  unfold observeFrom
  rw [hchecked]
  rfl

/-! ## What a run asks -/

/-- **Where a run of `observe_pair` stands**: with the cursor it found, the last closing it has tried. -/
inductive ObservePhase where
  | start
  | windowed
  | first
  | catching (prior reached : ℤ)

/-- What a run may ask: a run from a cursor on tries the next closing. -/
def observeProtocol (run : ObserveRun) : Protocol ObserveReq ObserveReq.Ans PyExc ObservePhase where
  allows
    | .start, .getCandles pair => pair = run.pair
    | .windowed, .lastClose scope => scope = run.pair.scope
    | .first, .appendSignal row =>
      row.pair = run.pair ∧ run.pair.timeframe.seconds ∣ row.closedAt ∧ row.facts.catchUp = false
    | .catching prior reached, .appendSignal row =>
      row.pair = run.pair ∧
        (run.pair.timeframe.seconds ∣ prior → row.closedAt = reached + run.pair.timeframe.seconds)
    | .first, .sample _ _ | .catching _ _, .sample _ _ => True
    | .first, .runtimeHealth _ _ | .catching _ _, .runtimeHealth _ _ => True
    | _, _ => False
  next
    | .start, .getCandles _, .ok _ => .windowed
    | .windowed, .lastClose _, .ok none => .first
    | .windowed, .lastClose _, .ok (some prior) => .catching prior prior
    | .catching prior _, .appendSignal row, .ok _ => .catching prior row.closedAt
    | phase, _, _ => phase

def Pending (run : ObserveRun) (closings : List ℤ) : ObservePhase → Prop
  | .first => ∀ t ∈ closings, run.pair.timeframe.seconds ∣ t
  | .catching prior reached =>
    run.pair.timeframe.seconds ∣ prior → Steps run.pair.timeframe.seconds (reached :: closings)
  | _ => False

def Found (found : Option ℤ) : ObservePhase → Prop
  | .first => found = none
  | .catching prior _ => found = some prior
  | _ => False

theorem wp_observeOne {found : Option ℤ} {count : ℕ} {window : List ClosedMarketObservation}
    {observation : ClosedMarketObservation} {state : CatchUp} {phase : ObservePhase} {closings : List ℤ}
    (hfound : Found found phase) (hpending : Pending run (observation.closedAt :: closings) phase) :
    wp (observeProtocol run) (observeOne strategy run found count window observation state) phase fun out q =>
      ∀ s, out = .ok s → Found found q ∧ Pending run closings q := by
  unfold observeOne
  rw [wp_bind, wp_ofExcept]
  cases strategy.evaluate window with
  | error e => exact fun s hs => by cases hs
  | ok evaluation =>
    dsimp only
    rw [wp_bind, wp_ofExcept]
    cases strategy.tradePlan evaluation run.pair observation with
    | error e => exact fun s hs => by cases hs
    | ok tradePlan =>
      dsimp only
      rw [wp_bind]
      -- the sampler comes after the append and does not move the phase
      have hsampled : ∀ q, Found found q → Pending run closings q → ∀ b : Bool,
          wp (observeProtocol run) (if b then do
              let _ ← perform (ObserveReq.sample observation evaluation)
              pure ⟨state.appended + 1,
                if run.freshness observation = "stale" then some (run.age observation) else state.staleLatest⟩
            else pure state : ObserveProg CatchUp) q fun out q =>
            ∀ s, out = .ok s → Found found q ∧ Pending run closings q := by
        intro q hq hclosings b
        cases b with
        | false => exact fun s _ => ⟨hq, hclosings⟩
        | true =>
          rw [if_pos rfl, wp_bind]
          cases q with
          | start => exact hq.elim
          | windowed => exact hq.elim
          | first =>
            refine (wp_perform _ _ _).2 ⟨trivial, fun ans => ?_⟩
            cases ans with
            | error e => exact fun s hs => by cases hs
            | ok _ => exact fun s _ => ⟨hq, hclosings⟩
          | catching prior reached =>
            refine (wp_perform _ _ _).2 ⟨trivial, fun ans => ?_⟩
            cases ans with
            | error e => exact fun s hs => by cases hs
            | ok _ => exact fun s _ => ⟨hq, hclosings⟩
      cases phase with
      | start => exact hfound.elim
      | windowed => exact hfound.elim
      | first =>
        have hnone : found = none := hfound
        subst hnone
        refine (wp_perform _ _ _).2 ⟨⟨rfl, hpending _ mem_cons_self, rfl⟩, fun ans => ?_⟩
        cases ans with
        | error e => exact fun s hs => by cases hs
        | ok b => exact hsampled .first rfl (fun t ht => hpending t (mem_cons_of_mem _ ht)) b
      | catching prior reached =>
        have hnext : run.pair.timeframe.seconds ∣ prior →
            observation.closedAt = reached + run.pair.timeframe.seconds ∧
              Steps run.pair.timeframe.seconds (observation.closedAt :: closings) := fun hdvd =>
          isChain_cons_cons.1 (hpending hdvd)
        refine (wp_perform _ _ _).2 ⟨⟨rfl, fun hdvd => (hnext hdvd).1⟩, fun ans => ?_⟩
        cases ans with
        | error e => exact fun s hs => by cases hs
        | ok b => exact hsampled (.catching prior observation.closedAt) hfound (fun hdvd => (hnext hdvd).2) b

theorem wp_catchUp {found : Option ℤ} {pending : List ClosedMarketObservation} :
    ∀ (rest : List ClosedMarketObservation) (index : ℕ) (state : CatchUp) (phase : ObservePhase), Found found phase →
      Pending run ((rest.filter fun o => o ∈ pending).map fun o => o.closedAt) phase →
      wp (observeProtocol run) (catchUp strategy run found observations pending index rest state) phase fun out q =>
        ∀ s, out = .ok s → Found found q
  | [], _, _, _, hfound, _ => fun s _ => hfound
  | o :: rest, index, state, phase, hfound, hpending => by
    unfold catchUp
    by_cases ho : o ∈ pending
    · simp only [filter_cons, ho, decide_true, if_true, map_cons] at hpending
      rw [if_pos ho, wp_bind]
      refine wp_mono (fun out q hout => ?_) _ _ (wp_observeOne hfound hpending)
      cases out with
      | error e => exact fun s hs => by cases hs
      | ok s =>
        obtain ⟨hfound, hpending⟩ := hout s rfl
        exact wp_catchUp rest (index + 1) s q hfound hpending
    · simp only [filter_cons, ho, decide_false, if_false, Bool.false_eq_true] at hpending
      rw [if_neg ho]
      exact wp_catchUp rest (index + 1) state phase hfound hpending

def foundPhase : Option ℤ → ObservePhase
  | none => .first
  | some prior => .catching prior prior

theorem pendingChecked_pending (hwindow : WindowOk run.pair.timeframe observations)
    (hlast : observations.getLast? = some latest) {found : Option ℤ} {pending : List ClosedMarketObservation}
    (h : pendingChecked run observations latest found = .ok pending) :
    Pending run ((observations.filter fun o => o ∈ pending).map fun o => o.closedAt) (foundPhase found) := by
  cases found with
  | none =>
    intro t ht
    obtain ⟨o, ho, rfl⟩ := mem_map.1 ht
    exact hwindow.aligned o (mem_filter.1 ho).1
  | some prior =>
    intro hprior
    unfold pendingChecked at h
    dsimp only at h
    split at h
    · cases h
      simp only [not_mem_nil, decide_false, filter_false, map_nil]
      exact isChain_singleton prior
    · split at h
      · cases h
      · next hcount =>
        cases h
        have hsame : observations.filter (fun o => o ∈ pendingAfter observations latest (some prior)) =
            pendingAfter observations latest (some prior) := by
          refine filter_congr fun o ho => ?_
          simp only [pendingAfter, mem_filter, ho, true_and, decide_eq_true_eq]
        rw [hsame]
        exact pending_steps hwindow hlast hprior (not_lt.1 hcount)

theorem wp_observeFrom (hwindow : WindowOk run.pair.timeframe observations)
    (hlast : observations.getLast? = some latest) (found : Option ℤ) :
    wp (observeProtocol run) (observeFrom strategy run observations latest found) (foundPhase found)
      fun _ _ => True := by
  unfold observeFrom
  rw [wp_bind, wp_ofExcept]
  cases hpending : pendingChecked run observations latest found with
  | error e => exact trivial
  | ok pending =>
    dsimp only
    rw [wp_bind]
    have hphase : Found found (foundPhase found) := by cases found <;> rfl
    refine wp_mono (fun out q hout => ?_) _ _
      (wp_catchUp observations 0 _ _ hphase (pendingChecked_pending hwindow hlast hpending))
    cases out with
    | error e => exact trivial
    | ok state =>
      have hq := hout state rfl
      dsimp only
      cases state.staleLatest with
      | none => exact trivial
      | some age =>
        dsimp only
        by_cases hnotifies : run.notifies = true
        · rw [if_pos hnotifies, wp_bind]
          cases q with
          | start => exact hq.elim
          | windowed => exact hq.elim
          | first =>
            refine (wp_perform _ _ _).2 ⟨trivial, fun ans => ?_⟩
            cases ans <;> exact trivial
          | catching prior reached =>
            refine (wp_perform _ _ _).2 ⟨trivial, fun ans => ?_⟩
            cases ans <;> exact trivial
        · rw [if_neg hnotifies]
          exact trivial

theorem wp_observePair [CaseMap] (strategy : ObservationStrategy) (run : ObserveRun) :
    wp (observeProtocol run) (observePair strategy run) .start fun _ _ => True := by
  unfold observePair
  rw [wp_bind]
  refine (wp_perform _ _ _).2 ⟨rfl, fun ans => ?_⟩
  cases ans with
  | error e => exact trivial
  | ok provided =>
    change wp (observeProtocol run) _ .windowed _
    rw [wp_bind, wp_ofExcept]
    split
    · next observations hobservations =>
      have hwindow := windowOk hobservations
      cases hlast : observations.getLast? with
      | none => exact trivial
      | some latest =>
        dsimp only
        rw [wp_bind]
        refine (wp_perform _ _ _).2 ⟨rfl, fun ans => ?_⟩
        cases ans with
        | error e => exact trivial
        | ok found =>
          have hnext : (observeProtocol run).next .windowed (.lastClose run.pair.scope) (.ok found) =
              foundPhase found := by cases found <;> rfl
          rw [hnext]
          exact wp_observeFrom hwindow hlast found
    · exact trivial

end Daemon
end Jqe
