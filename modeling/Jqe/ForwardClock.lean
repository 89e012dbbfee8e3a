import Jqe.ForwardCollector
import Jqe.Mt5Positions
/-!
# ForwardClock — the two clocks of the forward plans

A plan is made of gateway candles, whose moments are the terminal's less three hours; its outcome is read off raw
terminal rates, whose moments are the terminal's own.  The strategy and the plan builder are a parameter, as is the text
of a moment.
-/
namespace Jqe

open List

/-! ### The terminal and its two readings -/

structure Mt5Rate where
  time : ℤ
  open_ : ℚ
  high : ℚ
  low : ℚ
  close : ℚ
  spread : ℚ
  deriving DecidableEq

def barsFromMt5Rates (rates : List Mt5Rate) (point : ℚ) : List ShadowBar :=
  sortByTime (rates.map fun rate =>
    { time := rate.time
      open_ := rate.open_
      high := rate.high
      low := rate.low
      close := rate.close
      spreadPrice := if 0 < point then some (rate.spread * point) else none })

/-- `MT5Gateway.get_candles`: `count` rates from position 1 on, before the forming one. -/
def gatewayRates (count : ℕ) (rates : List Mt5Rate) : List Mt5Rate :=
  rates.dropLast.drop (rates.dropLast.length - count)

/-- One observation of `closed_observations_from_candles`; `none` is the `ValueError` of its model. -/
def observationOf (rate : Mt5Rate) : Option ClosedMarketObservation :=
  let candleTime := mt5TsToUtc rate.time
  if hprices : 0 < rate.open_ ∧ 0 < rate.high ∧ 0 < rate.low ∧ 0 < rate.close then
    if hohlc : max rate.open_ rate.close ≤ rate.high ∧ rate.low ≤ min rate.open_ rate.close then
      some { canonicalSymbol := "PAINX 1200"
             timeframe := .m1
             candleOpenedAt := candleTime
             closedAt := candleTime + Timeframe.m1.seconds
             open_ := rate.open_
             high := rate.high
             low := rate.low
             close := rate.close
             symbol_ok := by decide
             times_ok := by show candleTime < candleTime + 60; omega
             prices_ok := hprices
             ohlc_ok := hohlc }
    else none
  else none

def closedObservations (now : ℤ) (rates : List Mt5Rate) : Except PyExc (List ClosedMarketObservation) :=
  match rates.mapM observationOf with
  | none => .error (.exception "invalid market observation")
  | some observations =>
    if (observations.filter fun o => o.isClosedAt now) = [] then
      .error (.exception "No provider candles are provably closed")
    else .ok (observations.filter fun o => o.isClosedAt now)

/-! ### The sampler -/

structure PlanLevels where
  stopLoss : ℚ
  takeProfit : ℚ
  levels_pos : 0 < stopLoss ∧ 0 < takeProfit

/-- `_evaluate`, and `TradePlanBuilder().build` for a side. -/
structure ForwardStrategy (S : Type) where
  evaluate : List ClosedMarketObservation → Except PyExc S
  levels : S → ClosedMarketObservation → OrderSide → Option PlanLevels
  /-- `isoformat()` -/
  iso : ℤ → String

structure ForwardPlans where
  lastClose : Option ℤ
  cursor : Option (ℕ × ℤ)
  plans : List SignalSpec

def sampleEveryClosedBars : ℕ := 20

def defaultHorizonBars : ℕ := 20

theorem defaultHorizonBars_pos : 0 < defaultHorizonBars := by decide

def latestPlanTime (plans : List SignalSpec) (side : OrderSide) : Option ℤ :=
  ((plans.filter fun plan => plan.side = side).map SignalSpec.signalClose).max?

def overlapsPrevious (observation : ClosedMarketObservation) (plans : List SignalSpec) (side : OrderSide) : Bool :=
  match latestPlanTime plans side with
  | none => false
  | some previous => observation.closedAt < previous + observation.timeframe.seconds * defaultHorizonBars

def alreadyCounted (prior : Option (ℕ × ℤ)) (closedAt : ℤ) : Bool := prior.any fun p => closedAt ≤ p.2

/-- `append_signal`: whether the observation is later than the observation cursor. -/
def ForwardPlans.appends (store : ForwardPlans) (observation : ClosedMarketObservation) : Bool :=
  match store.lastClose with
  | none => true
  | some last => last < observation.closedAt

variable {S : Type}

/-- The plan that a closed bar is given, by the texts of its symbol and its moment. -/
def forwardSpec (symbol closedText : String) (timeframe : Timeframe) (side : OrderSide) (signalClose : ℤ)
    (levels : PlanLevels) : SignalSpec where
  signalId := "forward-ungated:" ++ symbol ++ ":" ++ timeframe.value ++ ":" ++ side.value ++ ":" ++ closedText
  symbol
  timeframe
  side
  signalClose
  stopLoss := levels.stopLoss
  takeProfit := levels.takeProfit
  legacyScore := none
  institutionalScore := none
  horizonBars := defaultHorizonBars
  levels_pos := levels.levels_pos
  horizon_pos := defaultHorizonBars_pos

/-- One side of `append_for_closed_bar`, without the faults of `Sampler.sampleSide`: of one market, in whole seconds. -/
def samplePlan (strategy : ForwardStrategy S) (observation : ClosedMarketObservation) (signal : S)
    (plans : List SignalSpec) (side : OrderSide) : List SignalSpec :=
  match strategy.levels signal observation side with
  | none => plans
  | some levels =>
    let spec := forwardSpec observation.canonicalSymbol (strategy.iso observation.closedAt) observation.timeframe side
      observation.closedAt levels
    if overlapsPrevious observation plans side then plans
    -- `INSERT OR IGNORE`
    else if plans.any fun plan => plan.signalId = spec.signalId then plans
    else plans ++ [spec]

def appendForClosedBar (strategy : ForwardStrategy S) (observation : ClosedMarketObservation) (signal : S)
    (store : ForwardPlans) : ForwardPlans :=
  if alreadyCounted store.cursor observation.closedAt then store
  else
    let closedCount := (store.cursor.elim 0 Prod.fst) + 1
    let store := { store with cursor := some (closedCount, observation.closedAt) }
    if closedCount % sampleEveryClosedBars ≠ 0 then store
    else { store with plans := [OrderSide.buy, .sell].foldl (samplePlan strategy observation signal) store.plans }

/-- The loop of `observe_pair` over the observations with their indices. -/
def observeLoop (strategy : ForwardStrategy S) (observations pending : List ClosedMarketObservation) :
    List (ClosedMarketObservation × ℕ) → ForwardPlans → Except PyExc Unit × ForwardPlans
  | [], store => (.ok (), store)
  | (observation, index) :: rest, store =>
    if observation ∉ pending then observeLoop strategy observations pending rest store
    else
      match strategy.evaluate ((observations.take (index + 1)).drop (index - 499)) with
      | .error e => (.error e, store)
      | .ok signal =>
        if store.appends observation then
          let store := appendForClosedBar strategy observation signal { store with lastClose := some observation.closedAt }
          observeLoop strategy observations pending rest store
        else observeLoop strategy observations pending rest store

def pendingOf (observations : List ClosedMarketObservation) (prior : Option ℤ) : List ClosedMarketObservation :=
  match prior with
  | none => observations.getLast?.toList
  | some prior => observations.filter fun o => prior < o.closedAt

def nothingNew (observations : List ClosedMarketObservation) (prior : Option ℤ) : Bool :=
  match prior, observations.getLast? with
  | some prior, some latest => latest.closedAt ≤ prior
  | _, _ => false

def incomplete (observations pending : List ClosedMarketObservation) (prior : Option ℤ) : Bool :=
  match prior, observations.getLast? with
  | some prior, some latest => (pending.length : ℤ) < (latest.closedAt - prior) / Timeframe.m1.seconds
  | _, _ => false

def observePair (strategy : ForwardStrategy S) (now : ℤ) (rates : List Mt5Rate) (store : ForwardPlans) :
    Except PyExc Unit × ForwardPlans :=
  match closedObservations now (gatewayRates 501 rates) with
  | .error e => (.error e, store)
  | .ok observations =>
    let pending := pendingOf observations store.lastClose
    if nothingNew observations store.lastClose || pending = [] then (.ok (), store)
    else if incomplete observations pending store.lastClose then
      (.error (.exception "Observation catch-up history is incomplete; refusing to advance cursor"), store)
    else observeLoop strategy observations pending observations.zipIdx store

structure TerminalView where
  now : ℤ
  rates : List Mt5Rate
  point : ℚ

/-- **The plans after the `observe_pair` calls of some cycles**, from empty stores. -/
def observeAll (strategy : ForwardStrategy S) (views : List TerminalView) : ForwardPlans :=
  views.foldl (fun store view => (observePair strategy view.now view.rates store).2) ⟨none, none, []⟩

/-- `_market_bars`: the last 10000 rates from position 0 on, the forming one among them. -/
def TerminalView.marketBars (view : TerminalView) : List ShadowBar :=
  barsFromMt5Rates (view.rates.drop (view.rates.length - 10000)) view.point

/-! ### Where a plan comes from -/

/-- The plan was made at the close of this rate: its moment is the raw close less three hours. -/
def MadeAt (plan : SignalSpec) (rate : Mt5Rate) : Prop :=
  plan.timeframe = .m1 ∧ plan.signalClose = mt5TsToUtc (rate.time + Timeframe.m1.seconds)

variable {o : ClosedMarketObservation} {strategy : ForwardStrategy S} {plan : SignalSpec} {bars : List ShadowBar}

theorem observationOf_closedAt {rate : Mt5Rate} (h : observationOf rate = some o) :
    o.timeframe = .m1 ∧ o.closedAt = mt5TsToUtc (rate.time + Timeframe.m1.seconds) := by
  unfold observationOf at h
  dsimp only at h
  split at h
  · split at h
    · cases h
      refine ⟨rfl, ?_⟩
      show mt5TsToUtc rate.time + _ = mt5TsToUtc (rate.time + _)
      unfold mt5TsToUtc
      ring
    · cases h
  · cases h

theorem mapM_mem {α β : Type} {f : α → Option β} : ∀ {l : List α} {l' : List β}, l.mapM f = some l' →
    ∀ b ∈ l', ∃ a ∈ l, f a = some b
  | [], l', h, b, hb => by
    cases h
    cases hb
  | a :: l, l', h, b, hb => by
    rw [mapM_cons] at h
    obtain ⟨b', hb', h⟩ := Option.bind_eq_some_iff.1 h
    obtain ⟨rest, hrest, h⟩ := Option.bind_eq_some_iff.1 h
    cases h
    rcases mem_cons.1 hb with rfl | hb
    · exact ⟨a, mem_cons_self, hb'⟩
    · obtain ⟨x, hx, hfx⟩ := mapM_mem hrest b hb
      exact ⟨x, mem_cons_of_mem _ hx, hfx⟩

theorem closedObservations_mem {now : ℤ} {rates : List Mt5Rate} {observations : List ClosedMarketObservation}
    (h : closedObservations now rates = .ok observations) :
    ∀ o ∈ observations, ∃ rate ∈ rates, observationOf rate = some o := by
  unfold closedObservations at h
  cases hall : rates.mapM observationOf with
  | none =>
    rw [hall] at h
    cases h
  | some all =>
    rw [hall] at h
    dsimp only at h
    split at h
    · cases h
    · cases h
      exact fun o ho => mapM_mem hall o (mem_filter.1 ho).1

theorem samplePlan_mem {signal : S} {plans : List SignalSpec} {side : OrderSide}
    (h : plan ∈ samplePlan strategy o signal plans side) :
    plan ∈ plans ∨ (plan.timeframe = o.timeframe ∧ plan.signalClose = o.closedAt) := by
  unfold samplePlan at h
  split at h
  · exact .inl h
  · dsimp only at h
    split at h
    · exact .inl h
    · split at h
      · exact .inl h
      · rcases mem_append.1 h with h | h
        · exact .inl h
        · rw [mem_singleton.1 h]
          exact .inr ⟨rfl, rfl⟩

theorem appendForClosedBar_mem {signal : S} {store : ForwardPlans}
    (h : plan ∈ (appendForClosedBar strategy o signal store).plans) :
    plan ∈ store.plans ∨ (plan.timeframe = o.timeframe ∧ plan.signalClose = o.closedAt) := by
  unfold appendForClosedBar at h
  dsimp only at h
  split at h
  · exact .inl h
  · split at h
    · exact .inl h
    · rw [foldl_cons, foldl_cons, foldl_nil] at h
      rcases samplePlan_mem h with h | h
      · exact samplePlan_mem h
      · exact .inr h

theorem observeLoop_mem {strategy : ForwardStrategy S} {observations pending : List ClosedMarketObservation}
    {plan : SignalSpec} : ∀ {indexed : List (ClosedMarketObservation × ℕ)} {store : ForwardPlans},
      plan ∈ (observeLoop strategy observations pending indexed store).2.plans →
      plan ∈ store.plans ∨ ∃ p ∈ indexed, plan.timeframe = p.1.timeframe ∧ plan.signalClose = p.1.closedAt
  | [], _, h => .inl h
  | (o, index) :: rest, store, h => by
    have hrest : ∀ {store' : ForwardPlans}, plan ∈ (observeLoop strategy observations pending rest store').2.plans →
        plan ∈ store'.plans ∨
          ∃ p ∈ (o, index) :: rest, plan.timeframe = p.1.timeframe ∧ plan.signalClose = p.1.closedAt := by
      intro store' h'
      rcases observeLoop_mem h' with h' | ⟨p, hp, hplan⟩
      · exact .inl h'
      · exact .inr ⟨p, mem_cons_of_mem _ hp, hplan⟩
    unfold observeLoop at h
    split at h
    · exact hrest h
    · split at h
      · exact .inl h
      · dsimp only at h
        split at h
        · rcases hrest h with h | h
          · rcases appendForClosedBar_mem h with h | h
            · exact .inl h
            · exact .inr ⟨(o, index), mem_cons_self, h⟩
          · exact .inr h
        · exact hrest h

theorem observePair_mem {now : ℤ} {rates : List Mt5Rate} {store : ForwardPlans}
    (h : plan ∈ (observePair strategy now rates store).2.plans) :
    plan ∈ store.plans ∨ ∃ rate ∈ rates, MadeAt plan rate := by
  unfold observePair at h
  cases hobs : closedObservations now (gatewayRates 501 rates) with
  | error e =>
    rw [hobs] at h
    exact .inl h
  | ok observations =>
    rw [hobs] at h
    dsimp only at h
    split at h
    · exact .inl h
    · split at h
      · exact .inl h
      · rcases observeLoop_mem h with h | ⟨⟨o, index⟩, ho, hframe, hclose⟩
        · exact .inl h
        · have hmem : o ∈ observations := fst_mem_of_mem_zipIdx ho
          obtain ⟨rate, hrate, hobservation⟩ := closedObservations_mem hobs o hmem
          obtain ⟨hm1, hclosed⟩ := observationOf_closedAt hobservation
          refine .inr ⟨rate, ?_, hframe.trans hm1, hclose.trans hclosed⟩
          exact (dropLast_sublist _).subset (mem_of_mem_drop hrate)

/-- **Every plan was made at the close of a rate that a cycle saw.** -/
theorem observeAll_mem (strategy : ForwardStrategy S) : ∀ (views : List TerminalView),
    plan ∈ (observeAll strategy views).plans → ∃ view ∈ views, ∃ rate ∈ view.rates, MadeAt plan rate := by
  intro views
  induction views using List.reverseRecOn with
  | nil => exact fun h => absurd h not_mem_nil
  | append_singleton views view ih =>
    intro h
    unfold observeAll at h ih
    rw [foldl_append, foldl_cons, foldl_nil] at h
    rcases observePair_mem h with h | h
    · obtain ⟨v, hv, hmade⟩ := ih h
      exact ⟨v, mem_append_left _ hv, hmade⟩
    · exact ⟨view, mem_append_right _ (mem_singleton_self _), h⟩

/-! ### Outcomes on the terminal's clock -/

/-- **An outcome of bars after the signal**, all on the terminal's clock: `rawClose` is the close of the signal's bar and
`rawNow` the moment of the cycle. -/
structure AfterSignal (plan : SignalSpec) (rawClose rawNow : ℤ) (bars : List ShadowBar) : Prop where
  entry : ∀ entryBar, (plan.live bars).head? = some entryBar → rawClose ≤ entryBar.time
  /-- every bar of the horizon that is looked at -/
  deciding : ∀ before bar after, (plan.live bars).take plan.horizonBars = before ++ bar :: after →
    (∀ b ∈ before, ¬plan.Touches b) → rawClose ≤ bar.time
  timeout : (resolveForward plan bars).status = .timeout → ∀ last,
    ((plan.live bars).take plan.horizonBars).getLast? = some last → last.time + plan.timeframe.seconds ≤ rawNow
  overshoot : ∀ bar ∈ bars, bar.time < plan.signalClose → bar.time + plan.timeframe.seconds ≤ rawClose

/-- **When the two clocks do no harm**: no bar of the window opens in the three hours before the signal's close, and where
no bar of the horizon touches a barrier, its last bar is closed. -/
structure ClocksAgree (plan : SignalSpec) (rawClose rawNow : ℤ) (bars : List ShadowBar) : Prop where
  clear : ∀ bar ∈ bars, ¬(rawClose - mt5ServerUtcOffsetSeconds ≤ bar.time ∧ bar.time < rawClose)
  closed : ∀ entryBar later spread last, plan.live bars = entryBar :: later → entryBar.spreadPrice = some spread →
    0 < plan.riskAt (plan.entryAt entryBar spread) → plan.decidingBar? (entryBar :: later) = none →
    ((entryBar :: later).take plan.horizonBars).getLast? = some last → last.time + plan.timeframe.seconds ≤ rawNow

theorem resolveFrom_timeout_iff {spec : SignalSpec} {entryBar : ShadowBar} (hne : bars ≠ []) {exitMode : ExitMode}
    {overshoot : ℚ} :
    (spec.resolveFrom noDrill forwardSource exitMode overshoot entryBar bars).status = .timeout ↔
      ∃ spread, entryBar.spreadPrice = some spread ∧ 0 < spec.riskAt (spec.entryAt entryBar spread) ∧
        spec.decidingBar? bars = none := by
  constructor
  · intro h
    unfold SignalSpec.resolveFrom at h
    cases hspread : entryBar.spreadPrice with
    | none =>
      rw [hspread] at h
      cases h
    | some spread =>
      rw [hspread] at h
      dsimp only at h
      by_cases hrisk : spec.riskAt (spec.entryAt entryBar spread) ≤ 0
      · rw [if_pos hrisk] at h
        cases h
      · rw [if_neg hrisk] at h
        refine ⟨spread, rfl, not_le.1 hrisk, ?_⟩
        by_contra hbar
        obtain ⟨bar, hbar⟩ := Option.ne_none_iff_exists'.1 hbar
        have htouch := find?_some hbar
        unfold SignalSpec.decidingBar? at hbar
        rw [findSome?_eq_deciding, hbar, Option.bind_some, resolveParent_noDrill] at h
        unfold resolveBar at h
        unfold SignalSpec.touches at htouch
        cases hhit : triggered spec.side bar spec.stopLoss spec.takeProfit with
        | error text =>
          rw [hhit] at h
          cases h
        | ok hits =>
          obtain ⟨hitStop, hitTarget⟩ := hits
          rw [hhit] at h htouch
          cases hitStop <;> cases hitTarget
          · cases htouch
          · cases h
          · cases h
          · simp [resolveTicks] at h
  · rintro ⟨spread, hspread, hrisk, hbar⟩
    have hnone : ∀ parent ∈ bars.take spec.horizonBars, ∀ bar ∈ noDrill.sequence parent, ¬spec.Touches bar := by
      intro parent hparent bar hb
      rw [show noDrill.sequence parent = [parent] from rfl, mem_singleton] at hb
      subst hb
      rw [← SignalSpec.touches_iff]
      exact List.find?_eq_none.1 hbar bar hparent
    have hspreads : ∀ b ∈ bars.take spec.horizonBars, b.spreadPrice.isSome := by
      intro b hb
      have hb' := hnone b hb b (mem_singleton_self b)
      unfold SignalSpec.Touches triggered at hb'
      cases hsome : b.spreadPrice with
      | none =>
        rw [hsome] at hb'
        exact absurd (by simp) hb'
      | some _ => rfl
    have htake : bars.take spec.horizonBars ≠ [] := by
      intro hnil
      rcases take_eq_nil_iff.1 hnil with hzero | hnil
      · have hpos := spec.horizon_pos
        omega
      · exact hne hnil
    have htimeout := resolveFrom_timeout hspread hrisk htake hspreads (length_take_le _ _) hnone
      forwardSource exitMode overshoot
    unfold SignalSpec.resolveFrom at htimeout ⊢
    rw [take_take, Nat.min_self] at htimeout
    exact htimeout

theorem live_sorted (spec : SignalSpec) (bars : List ShadowBar) : Chronological (spec.live bars) :=
  (pairwise_insertionSort (fun a b : ShadowBar => a.time ≤ b.time) bars).sublist (dropWhile_sublist _)

theorem mem_live {spec : SignalSpec} {bar : ShadowBar} (h : bar ∈ spec.live bars) : bar ∈ bars :=
  (mem_insertionSort _).1 ((dropWhile_sublist _).subset h)

theorem mem_live_of_le {spec : SignalSpec} {bar : ShadowBar} (h : bar ∈ bars) (hle : spec.signalClose ≤ bar.time) :
    bar ∈ spec.live bars := by
  have hsorted : bar ∈ sortByTime bars := (mem_insertionSort _).2 h
  rw [← takeWhile_append_dropWhile (p := fun b : ShadowBar => decide (b.time < spec.signalClose))
    (l := sortByTime bars)] at hsorted
  rcases mem_append.1 hsorted with hbefore | hafter
  · have hlt := mem_takeWhile_imp (p := fun b : ShadowBar => decide (b.time < spec.signalClose)) hbefore
    exact absurd hle (not_le.2 (of_decide_eq_true hlt))
  · exact hafter

theorem le_of_mem_live {spec : SignalSpec} {bar : ShadowBar} (h : bar ∈ spec.live bars) :
    spec.signalClose ≤ bar.time := by
  cases hlive : spec.live bars with
  | nil =>
    rw [hlive] at h
    exact absurd h not_mem_nil
  | cons first rest =>
    have hhead := head?_dropWhile_not (fun b : ShadowBar => decide (b.time < spec.signalClose)) (sortByTime bars)
    have hsorted := live_sorted spec bars
    unfold SignalSpec.live at hlive
    rw [hlive] at hhead
    have hfirst := not_lt.1 (of_decide_eq_false hhead)
    rw [SignalSpec.live, hlive] at h
    unfold SignalSpec.live at hsorted
    rw [hlive] at hsorted
    rcases mem_cons.1 h with rfl | h
    · exact hfirst
    · exact hfirst.trans (rel_of_pairwise_cons hsorted h)

/-- **The outcomes of a plan, on bars and at a moment, are after its signal exactly when the clocks do no harm.** -/
theorem afterSignal_iff {rawClose rawNow : ℤ} (hframe : plan.timeframe = .m1)
    (hclose : plan.signalClose = mt5TsToUtc rawClose) :
    AfterSignal plan rawClose rawNow bars ↔ ClocksAgree plan rawClose rawNow bars := by
  unfold mt5TsToUtc at hclose
  have htimeout : ∀ {entryBar later}, plan.live bars = entryBar :: later →
      ((resolveForward plan bars).status = .timeout ↔ ∃ spread, entryBar.spreadPrice = some spread ∧
        0 < plan.riskAt (plan.entryAt entryBar spread) ∧ plan.decidingBar? (entryBar :: later) = none) := by
    intro entryBar later hlive
    rw [resolveForward_cons hlive]
    exact resolveFrom_timeout_iff (cons_ne_nil _ _)
  constructor
  · intro h
    refine ⟨?_, ?_⟩
    · rintro bar hbar ⟨hlow, hhigh⟩
      have hlive : bar ∈ plan.live bars := mem_live_of_le hbar (by omega)
      cases hcons : plan.live bars with
      | nil =>
        rw [hcons] at hlive
        exact absurd hlive not_mem_nil
      | cons entryBar later =>
        have hentry := h.entry entryBar (by rw [hcons]; rfl)
        have hsorted := live_sorted plan bars
        rw [hcons] at hlive hsorted
        rcases mem_cons.1 hlive with rfl | hlater
        · omega
        · have hle := rel_of_pairwise_cons hsorted hlater
          omega
    · intro entryBar later spread last hlive hspread hrisk hbar hlast
      exact h.timeout ((htimeout hlive).2 ⟨spread, hspread, hrisk, hbar⟩) last (by rw [hlive]; exact hlast)
  · intro h
    have hlate : ∀ bar ∈ plan.live bars, rawClose ≤ bar.time := by
      intro bar hbar
      have hle := le_of_mem_live hbar
      have hclear := h.clear bar (mem_live hbar)
      omega
    refine ⟨?_, ?_, ?_, ?_⟩
    · intro entryBar hentry
      exact hlate entryBar (mem_of_mem_head? hentry)
    · intro before bar after hsplit _
      refine hlate bar (mem_of_mem_take (i := plan.horizonBars) ?_)
      rw [hsplit]
      exact mem_append_right _ mem_cons_self
    · intro hstatus last hlast
      cases hcons : plan.live bars with
      | nil =>
        rw [hcons] at hlast
        rw [take_nil] at hlast
        cases hlast
      | cons entryBar later =>
        obtain ⟨spread, hspread, hrisk, hbar⟩ := (htimeout hcons).1 hstatus
        exact h.closed entryBar later spread last hcons hspread hrisk hbar (by rw [← hcons]; exact hlast)
    · intro bar _ hlt
      have hoffset : mt5ServerUtcOffsetSeconds = 10800 := rfl
      rw [hframe]
      show bar.time + 60 ≤ rawClose
      omega

/-- **Forward outcomes use only closed bars after the signal exactly when the clocks do no harm**: for every plan of every
run, in every later cycle, whatever the server's offset. -/
theorem forward_clock_iff (strategy : ForwardStrategy S) (views : List TerminalView) (plan : SignalSpec)
    (hplan : plan ∈ (observeAll strategy views).plans) (offset : ℤ) (later : TerminalView) :
    ∃ view ∈ views, ∃ signal ∈ view.rates, MadeAt plan signal ∧
      (AfterSignal plan (signal.time + plan.timeframe.seconds) (later.now + offset) later.marketBars ↔
        ClocksAgree plan (signal.time + plan.timeframe.seconds) (later.now + offset) later.marketBars) := by
  obtain ⟨view, hview, signal, hsignal, hmade⟩ := observeAll_mem strategy views hplan
  obtain ⟨hframe, hclose⟩ := hmade
  refine ⟨view, hview, signal, hsignal, ⟨hframe, hclose⟩, afterSignal_iff hframe ?_⟩
  rw [hclose, hframe]

/-! ### Twenty bars and a plan -/

/-- Minute bars from one moment on, none of which reaches a level of `hundredPlan`. -/
def hundredRate (i : ℕ) : Mt5Rate := ⟨1759700400 + 60 * i, 100, 101, 199 / 2, 100, 1⟩

def hundredStrategy : ForwardStrategy Unit where
  evaluate _ := .ok ()
  levels _ _ side := match side with
    | .buy => some ⟨99, 102, twoBarPlan.levels_pos⟩
    | .sell => none
  iso t := toString t

def hundredView (n : ℕ) : TerminalView :=
  ⟨(hundredRate n).time + 1 - 10800, (List.range (n + 1)).map hundredRate, 1 / 10⟩

def hundredPlan : SignalSpec :=
  { twoBarPlan with
    signalId := "forward-ungated:PAINX 1200:M1:BUY:" ++ toString (1759700400 + 1200 - 10800 : ℤ)
    signalClose := 1759700400 + 1200 - 10800
    horizonBars := 20
    horizon_pos := defaultHorizonBars_pos }

theorem hundredPlan_mem : hundredPlan ∈ (observeAll hundredStrategy [hundredView 1, hundredView 20]).plans := by
  decide +kernel

/-- In the cycle that makes the plan, its outcome is a timeout of the twenty bars before it. -/
theorem forward_outcome_before_signal :
    hundredPlan ∈ (observeAll hundredStrategy [hundredView 1, hundredView 20]).plans ∧
      MadeAt hundredPlan (hundredRate 19) ∧
      (resolveForward hundredPlan (hundredView 20).marketBars).status = .timeout ∧
      (resolveForward hundredPlan (hundredView 20).marketBars).entryTime = some (hundredRate 0).time ∧
      ¬AfterSignal hundredPlan ((hundredRate 19).time + 60) ((hundredView 20).now + 10800)
        (hundredView 20).marketBars := by
  refine ⟨hundredPlan_mem, ⟨rfl, by rfl⟩, by decide +kernel, by decide +kernel, fun h => ?_⟩
  have hentry := h.entry ⟨1759700400, 100, 101, 199 / 2, 100, some (1 / 10)⟩ (by decide +kernel)
  exact absurd hentry (by decide)

theorem forward_clock_iff_hundred : ∃ view ∈ [hundredView 1, hundredView 20], ∃ signal ∈ view.rates,
    MadeAt hundredPlan signal ∧
      (AfterSignal hundredPlan (signal.time + 60) ((hundredView 20).now + 10800) (hundredView 20).marketBars ↔
        ClocksAgree hundredPlan (signal.time + 60) ((hundredView 20).now + 10800) (hundredView 20).marketBars) :=
  forward_clock_iff hundredStrategy [hundredView 1, hundredView 20] hundredPlan hundredPlan_mem 10800 (hundredView 20)

end Jqe
