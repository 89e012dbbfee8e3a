import Jqe.ShadowStable
import Mathlib.Data.Rat.Floor
/-!
# ForwardCollector — `monitoring/painx1200_forward_collector.py`: plans resolved again and again

A cycle of the collector resolves every stored plan on the last `count` bars of the terminal and overwrites the stored
outcomes.
-/
namespace Jqe

open List
open SignalSpec (live_eq resolveFrom outcome touches)

/-! ### The overshoot of the bars before the signal -/

def percentile (values : List ℚ) (quantile : ℚ) : ℚ :=
  let ordered := (values.filter fun value => 0 ≤ value).insertionSort (· ≤ ·)
  if ordered = [] then 0
  else
    let position := (ordered.length - 1 : ℚ) * min 1 (max 0 quantile)
    let lower := position.floor.toNat
    let upper := position.ceil.toNat
    if lower = upper then ordered.getD lower 0
    else ordered.getD lower 0 + (ordered.getD upper 0 - ordered.getD lower 0) * (position - lower)

def estimateAdverseOvershoot95 (bars : List ShadowBar) (side : OrderSide) : ℚ :=
  let values := bars.map fun bar =>
    match side with
    | .buy => max 0 (bar.open_ - bar.low)
    | .sell => max 0 (bar.high - bar.open_)
  percentile (values.filter fun value => 0 < value) (95 / 100)

def gapAwareOvershoot (spec : SignalSpec) (bars : List ShadowBar) : ℚ :=
  estimateAdverseOvershoot95 (bars.filter fun bar => bar.time < spec.signalClose) spec.side

theorem percentile_nonneg (values : List ℚ) (quantile : ℚ) : 0 ≤ percentile values quantile := by
  unfold percentile
  dsimp only
  generalize hordered : (values.filter fun value => 0 ≤ value).insertionSort (· ≤ ·) = ordered
  have hitem : ∀ i, 0 ≤ ordered.getD i 0 := by
    intro i
    rw [getD_eq_getElem?_getD]
    cases hi : ordered[i]? with
    | none => exact le_rfl
    | some value =>
      have hmem : value ∈ values.filter fun value => 0 ≤ value := by
        rw [← mem_insertionSort (· ≤ ·), hordered]
        exact mem_of_getElem? hi
      exact of_decide_eq_true (mem_filter.1 hmem).2
  by_cases hempty : ordered = []
  · rw [if_pos hempty]
  · rw [if_neg hempty]
    have hlength : (1 : ℚ) ≤ ordered.length := by
      exact_mod_cast length_pos_iff.2 hempty
    generalize hposition : (ordered.length - 1 : ℚ) * min 1 (max 0 quantile) = position
    have hpos : 0 ≤ position := by
      rw [← hposition]
      exact mul_nonneg (by linarith) (le_min zero_le_one (le_max_left _ _))
    by_cases hsame : position.floor.toNat = position.ceil.toNat
    · rw [if_pos hsame]
      exact hitem _
    · rw [if_neg hsame]
      have hfloor : ((position.floor.toNat : ℕ) : ℚ) = (position.floor : ℚ) := by
        have hnonneg : 0 ≤ position.floor := Int.floor_nonneg.2 hpos
        exact_mod_cast Int.toNat_of_nonneg hnonneg
      have hlow : (position.floor : ℚ) ≤ position := Int.floor_le position
      have hhigh : position < position.floor + 1 := Int.lt_floor_add_one position
      have hl := hitem position.floor.toNat
      have hu := hitem position.ceil.toNat
      rw [hfloor]
      nlinarith

theorem gapAwareOvershoot_nonneg (spec : SignalSpec) (bars : List ShadowBar) : 0 ≤ gapAwareOvershoot spec bars :=
  percentile_nonneg _ _

/-! ### The outcome store -/

/-- The row of an upsert takes the place of the row with its key, or comes last. -/
def upsertRow (row : ShadowOutcome) : List ShadowOutcome → List ShadowOutcome
  | [] => [row]
  | old :: rows =>
    if old.source = row.source ∧ old.signalId = row.signalId then row :: rows else old :: upsertRow row rows

def upsertOutcomes (outcomes rows : List ShadowOutcome) : List ShadowOutcome :=
  outcomes.foldl (fun rows row => upsertRow row rows) rows

def storedRow (rows : List ShadowOutcome) (source signalId : String) : Option ShadowOutcome :=
  rows.find? fun row => row.source = source ∧ row.signalId = signalId

theorem storedRow_upsertRow (row : ShadowOutcome) (source signalId : String) :
    ∀ rows : List ShadowOutcome, storedRow (upsertRow row rows) source signalId =
      if row.source = source ∧ row.signalId = signalId then some row else storedRow rows source signalId
  | [] => by
    unfold upsertRow storedRow
    rw [find?_singleton, find?_nil]
    simp only [decide_eq_true_eq]
  | old :: rows => by
    have ih := storedRow_upsertRow row source signalId rows
    unfold storedRow at ih ⊢
    unfold upsertRow
    by_cases hkey : old.source = row.source ∧ old.signalId = row.signalId
    · rw [if_pos hkey, find?_cons, find?_cons, hkey.1, hkey.2]
      by_cases hrow : row.source = source ∧ row.signalId = signalId
      · simp [hrow]
      · simp [hrow]
    · rw [if_neg hkey, find?_cons, find?_cons, ih]
      by_cases hold : old.source = source ∧ old.signalId = signalId
      · have hrow : ¬(row.source = source ∧ row.signalId = signalId) := by
          rintro ⟨hs, hi⟩
          exact hkey ⟨hold.1.trans hs.symm, hold.2.trans hi.symm⟩
        rw [if_neg hrow, if_neg hrow]
      · simp [hold]

theorem storedRow_upsert_of_ne {source signalId : String} :
    ∀ {outcomes : List ShadowOutcome} (rows : List ShadowOutcome),
      (∀ o ∈ outcomes, ¬(o.source = source ∧ o.signalId = signalId)) →
      storedRow (upsertOutcomes outcomes rows) source signalId = storedRow rows source signalId
  | [], _, _ => rfl
  | o :: outcomes, rows, h => by
    have hrest := storedRow_upsert_of_ne (upsertRow o rows) fun x hx => h x (mem_cons_of_mem _ hx)
    rw [upsertOutcomes, foldl_cons]
    exact hrest.trans (by rw [storedRow_upsertRow, if_neg (h o mem_cons_self)])

/-- **An upsert of rows with different keys stores each of them.** -/
theorem storedRow_upsert {source : String} : ∀ {outcomes : List ShadowOutcome} {row : ShadowOutcome}
    (rows : List ShadowOutcome), (∀ o ∈ outcomes, o.source = source) → (outcomes.map ShadowOutcome.signalId).Nodup →
      row ∈ outcomes → storedRow (upsertOutcomes outcomes rows) source row.signalId = some row
  | [], _, _, _, _, hrow => absurd hrow not_mem_nil
  | o :: outcomes, row, rows, hsource, hids, hrow => by
    rw [map_cons, nodup_cons] at hids
    rw [upsertOutcomes, foldl_cons]
    rcases mem_cons.1 hrow with rfl | hrow
    · have hne : ∀ x ∈ outcomes, ¬(x.source = source ∧ x.signalId = row.signalId) := fun x hx heq =>
        hids.1 (heq.2 ▸ mem_map_of_mem hx)
      exact (storedRow_upsert_of_ne _ hne).trans
        (by rw [storedRow_upsertRow, if_pos ⟨hsource _ mem_cons_self, rfl⟩])
    · exact storedRow_upsert _ (fun x hx => hsource x (mem_cons_of_mem _ hx)) hids.2 hrow

/-! ### A cycle of the collector -/

/-- `copy_rates_from_pos(.., 0, count)`: the last bars of the terminal's series. -/
def marketBars (count : ℕ) (series : List ShadowBar) : List ShadowBar := series.drop (series.length - count)

def forwardSource : String := "painx1200_forward_candidate"

/-- The outcome of a plan on the bars of a cycle; the collector has no drill-down data. -/
def resolveForward (spec : SignalSpec) (bars : List ShadowBar) : ShadowOutcome :=
  resolveSignal spec bars noDrill forwardSource .gapAware (some (gapAwareOvershoot spec bars))

/-- `PainX1200ForwardCollector.resolve`: the outcome table afterwards. -/
def collectorResolve (count : ℕ) (specs : List SignalSpec) (series : List ShadowBar) (rows : List ShadowOutcome) :
    List ShadowOutcome :=
  upsertOutcomes (specs.map fun spec => resolveForward spec (marketBars count series)) rows

/-! ### The window of a chronological series -/

theorem Chronological.marketBars {series : List ShadowBar} (h : Chronological series) (count : ℕ) :
    Chronological (marketBars count series) := List.Pairwise.drop h

variable {series : List ShadowBar} {entryBar : ShadowBar} {bars : List ShadowBar}

/-- **The live bars of a window are the window of the live bars.** -/
theorem live_marketBars (h : Chronological series) (spec : SignalSpec) (count : ℕ) :
    spec.live (marketBars count series) = marketBars count (spec.live series) := by
  have hsplit : series.takeWhile (fun bar => bar.time < spec.signalClose) ++ spec.live series = series := by
    rw [live_eq h]
    exact takeWhile_append_dropWhile
  have hbefore : ∀ bar ∈ series.takeWhile (fun bar => bar.time < spec.signalClose),
      decide (bar.time < spec.signalClose) = true := fun bar hbar =>
    mem_takeWhile_imp (p := fun bar : ShadowBar => decide (bar.time < spec.signalClose)) hbar
  have hafter : ∀ bar ∈ spec.live series, spec.signalClose ≤ bar.time := by
    cases hlive : spec.live series with
    | nil => exact fun bar hbar => absurd hbar not_mem_nil
    | cons first rest =>
      have hsorted : Chronological (first :: rest) := by
        rw [← hlive, live_eq h]
        exact h.sublist (dropWhile_sublist _)
      have hfirst : spec.signalClose ≤ first.time := by
        have hhead := head?_dropWhile_not (fun bar : ShadowBar => decide (bar.time < spec.signalClose)) series
        rw [← live_eq h, hlive] at hhead
        exact not_lt.1 (of_decide_eq_false hhead)
      intro bar hbar
      rcases mem_cons.1 hbar with rfl | hbar
      · exact hfirst
      · exact hfirst.trans (rel_of_pairwise_cons hsorted hbar)
  rw [live_eq (h.marketBars count)]
  generalize hpre : series.takeWhile (fun bar => bar.time < spec.signalClose) = pre at hsplit hbefore
  generalize spec.live series = live at hsplit hafter
  subst hsplit
  have hself : ∀ l : List ShadowBar, (∀ bar ∈ l, spec.signalClose ≤ bar.time) →
      l.dropWhile (fun bar => bar.time < spec.signalClose) = l := by
    intro l hl
    rw [dropWhile_eq_self_iff]
    intro hpos hlt
    exact absurd (hl _ (getElem_mem hpos)) (not_le.2 (of_decide_eq_true hlt))
  unfold marketBars
  rw [length_append, drop_append]
  by_cases hcount : live.length ≤ count
  · rw [show pre.length + live.length - count - pre.length = 0 by omega,
      show live.length - count = 0 by omega, drop_zero,
      dropWhile_append_of_pos fun bar hbar => hbefore bar (mem_of_mem_drop hbar)]
    exact hself live hafter
  · rw [drop_eq_nil_of_le (by omega), nil_append,
      show pre.length + live.length - count - pre.length = live.length - count by omega]
    exact hself _ fun bar hbar => hafter bar (mem_of_mem_drop hbar)

theorem marketBars_of_le {count : ℕ} (h : series.length ≤ count) : marketBars count series = series := by
  unfold marketBars
  rw [Nat.sub_eq_zero_of_le h, drop_zero]

/-! ### What decides an outcome -/

def SignalSpec.decidingBar? (spec : SignalSpec) (bars : List ShadowBar) : Option ShadowBar :=
  (bars.take spec.horizonBars).find? spec.touches

theorem resolveParent_noDrill (spec : SignalSpec) (fill : StopFill) (bar : ShadowBar) :
    spec.resolveParent noDrill fill bar =
      resolveBar spec.side spec.stopLoss spec.takeProfit [(bar.time, [])] fill bar := by
  show List.findSome? _ [bar] = _
  rw [findSome?_singleton]
  rfl

theorem findSome?_eq_deciding (spec : SignalSpec) (fill : StopFill) (bars : List ShadowBar) :
    bars.findSome? (spec.resolveParent noDrill fill) =
      (bars.find? spec.touches).bind (spec.resolveParent noDrill fill) := by
  induction bars with
  | nil => rfl
  | cons bar bars ih =>
    rw [findSome?_cons, find?_cons]
    by_cases htouch : spec.touches bar = true
    · rw [htouch]
      cases hparent : spec.resolveParent noDrill fill bar with
      | none =>
        rw [resolveParent_noDrill, resolveBar_eq_none] at hparent
        exact absurd ((spec.touches_iff bar).1 htouch) hparent
      | some verdict => exact hparent.symm
    · have hparent : spec.resolveParent noDrill fill bar = none := by
        rw [resolveParent_noDrill, resolveBar_eq_none, ← SignalSpec.touches_iff]
        exact htouch
      rw [hparent, ih]
      simp only [htouch]

theorem resolveFrom_hit {spec : SignalSpec} {bar : ShadowBar} {spread : ℚ}
    (hspread : entryBar.spreadPrice = some spread) (hrisk : 0 < spec.riskAt (spec.entryAt entryBar spread))
    (hbar : spec.decidingBar? bars = some bar) (exitMode : ExitMode) (overshoot : ℚ) :
    let outcome := spec.resolveFrom noDrill forwardSource exitMode overshoot entryBar bars
    let entry := spec.entryAt entryBar spread
    let fillPrice := stopFillPrice spec.side bar spec.stopLoss ⟨exitMode, spread, overshoot⟩
    (triggered spec.side bar spec.stopLoss spec.takeProfit = .ok (true, false) →
      outcome.status = .sl ∧ outcome.netR = some (resolveR spec.side entry fillPrice (spec.riskAt entry))) ∧
    (triggered spec.side bar spec.stopLoss spec.takeProfit = .ok (false, true) →
      outcome.status = .tp ∧ outcome.netR = some (resolveR spec.side entry spec.takeProfit (spec.riskAt entry))) := by
  intro outcome entry fillPrice
  have hfind : (bars.take spec.horizonBars).findSome? (spec.resolveParent noDrill ⟨exitMode, spread, overshoot⟩)
      = resolveBar spec.side spec.stopLoss spec.takeProfit [(bar.time, [])] ⟨exitMode, spread, overshoot⟩ bar := by
    unfold SignalSpec.decidingBar? at hbar
    rw [findSome?_eq_deciding, hbar, Option.bind_some, resolveParent_noDrill]
  have houtcome : outcome = spec.resolveFrom noDrill forwardSource exitMode overshoot entryBar bars := rfl
  unfold resolveFrom at houtcome
  rw [hspread] at houtcome
  dsimp only at houtcome
  rw [if_neg (not_le.2 hrisk), hfind] at houtcome
  unfold resolveBar at houtcome
  constructor
  · intro hhit
    rw [hhit] at houtcome
    rw [houtcome]
    exact ⟨rfl, rfl⟩
  · intro hhit
    rw [hhit] at houtcome
    rw [houtcome]
    exact ⟨rfl, rfl⟩

/-- **A target or a stop has an entry at a valid stop and a deciding bar that hits one barrier.** -/
theorem resolveFrom_inv {spec : SignalSpec} {exitMode : ExitMode} {overshoot : ℚ}
    (h : (spec.resolveFrom noDrill forwardSource exitMode overshoot entryBar bars).status = .tp ∨
      (spec.resolveFrom noDrill forwardSource exitMode overshoot entryBar bars).status = .sl) :
    ∃ spread bar, entryBar.spreadPrice = some spread ∧ 0 < spec.riskAt (spec.entryAt entryBar spread) ∧
      spec.decidingBar? bars = some bar ∧
      (triggered spec.side bar spec.stopLoss spec.takeProfit = .ok (true, false) ∨
        triggered spec.side bar spec.stopLoss spec.takeProfit = .ok (false, true)) := by
  unfold resolveFrom at h
  cases hspread : entryBar.spreadPrice with
  | none =>
    rw [hspread] at h
    simp [outcome] at h
  | some spread =>
    rw [hspread] at h
    dsimp only at h
    by_cases hrisk : spec.riskAt (spec.entryAt entryBar spread) ≤ 0
    · rw [if_pos hrisk] at h
      simp [outcome] at h
    · rw [if_neg hrisk, findSome?_eq_deciding] at h
      cases hbar : spec.decidingBar? bars with
      | none =>
        unfold SignalSpec.decidingBar? at hbar
        rw [hbar, Option.bind_none] at h
        dsimp only at h
        split at h <;> simp [outcome] at h
      | some bar =>
        refine ⟨spread, bar, rfl, not_le.1 hrisk, rfl, ?_⟩
        unfold SignalSpec.decidingBar? at hbar
        have htouch := find?_some hbar
        rw [hbar, Option.bind_some, resolveParent_noDrill] at h
        unfold touches at htouch
        unfold resolveBar at h
        cases hhit : triggered spec.side bar spec.stopLoss spec.takeProfit with
        | error text =>
          rw [hhit] at h
          simp [outcome] at h
        | ok hits =>
          obtain ⟨hitStop, hitTarget⟩ := hits
          cases hitStop <;> cases hitTarget
          · rw [hhit] at htouch
            cases htouch
          · exact .inr rfl
          · exact .inl rfl
          · rw [hhit] at h
            simp [resolveTicks, outcome] at h

/-! ### The row of a plan over the cycles -/

theorem resolveFrom_key (signal : SignalSpec) (drill : DrillDown) (source : String) (exitMode : ExitMode)
    (overshoot : ℚ) (entryBar : ShadowBar) (bars : List ShadowBar) :
    (signal.resolveFrom drill source exitMode overshoot entryBar bars).source = source ∧
      (signal.resolveFrom drill source exitMode overshoot entryBar bars).signalId = signal.signalId ∧
      (signal.resolveFrom drill source exitMode overshoot entryBar bars).entryTime = some entryBar.time := by
  unfold resolveFrom
  cases entryBar.spreadPrice with
  | none => exact ⟨rfl, rfl, rfl⟩
  | some spread =>
    dsimp only
    split
    · exact ⟨rfl, rfl, rfl⟩
    · split
      · exact ⟨rfl, rfl, rfl⟩
      · exact ⟨rfl, rfl, rfl⟩
      · exact ⟨rfl, rfl, rfl⟩
      · split <;> exact ⟨rfl, rfl, rfl⟩

theorem resolveForward_key (spec : SignalSpec) (bars : List ShadowBar) :
    (resolveForward spec bars).source = forwardSource ∧ (resolveForward spec bars).signalId = spec.signalId := by
  unfold resolveForward resolveSignal
  cases spec.live bars with
  | nil => exact ⟨rfl, rfl⟩
  | cons entryBar rest =>
    obtain ⟨hsource, hid, -⟩ := resolveFrom_key spec noDrill forwardSource .gapAware
      (max 0 ((some (gapAwareOvershoot spec bars)).getD 0)) entryBar (entryBar :: rest)
    exact ⟨hsource, hid⟩

theorem storedRow_collectorResolve {specs : List SignalSpec} (hids : (specs.map SignalSpec.signalId).Nodup)
    {spec : SignalSpec} (hspec : spec ∈ specs) (count : ℕ) (series : List ShadowBar) (rows : List ShadowOutcome) :
    storedRow (collectorResolve count specs series rows) forwardSource spec.signalId =
      some (resolveForward spec (marketBars count series)) := by
  have hmap : (specs.map fun spec => resolveForward spec (marketBars count series)).map ShadowOutcome.signalId
      = specs.map SignalSpec.signalId := by
    rw [map_map]
    exact map_congr_left fun s _ => (resolveForward_key s _).2
  have hsource : ∀ o ∈ specs.map fun spec => resolveForward spec (marketBars count series),
      o.source = forwardSource := by
    intro o ho
    obtain ⟨s, -, rfl⟩ := mem_map.1 ho
    exact (resolveForward_key s _).1
  have hrow : resolveForward spec (marketBars count series) ∈
      specs.map fun spec => resolveForward spec (marketBars count series) := mem_map_of_mem hspec
  have hstored := storedRow_upsert rows hsource (by rw [hmap]; exact hids) hrow
  rw [(resolveForward_key spec _).2] at hstored
  exact hstored

theorem resolveForward_cons {spec : SignalSpec} {rest : List ShadowBar} (hlive : spec.live bars = entryBar :: rest) :
    resolveForward spec bars =
      spec.resolveFrom noDrill forwardSource .gapAware (gapAwareOvershoot spec bars) entryBar (entryBar :: rest) := by
  unfold resolveForward resolveSignal
  rw [hlive]
  dsimp only
  rw [Option.getD_some, max_eq_right (gapAwareOvershoot_nonneg spec bars)]

theorem stopFillPrice_gapAware_inj {side : OrderSide} {bar : ShadowBar} {stop spread o o' : ℚ} (ho : 0 ≤ o)
    (ho' : 0 ≤ o') :
    stopFillPrice side bar stop ⟨.gapAware, spread, o⟩ = stopFillPrice side bar stop ⟨.gapAware, spread, o'⟩ ↔
      (opensThrough side bar stop = false → o = o') := by
  unfold stopFillPrice
  simp only [reduceCtorEq, if_false]
  cases hopen : opensThrough side bar stop with
  | true => simp
  | false =>
    rw [max_eq_right ho, max_eq_right ho']
    cases side <;> simp

theorem resolveR_inj {side : OrderSide} {entry risk price price' : ℚ} (hrisk : 0 < risk) :
    resolveR side entry price risk = resolveR side entry price' risk ↔ price = price' := by
  unfold resolveR
  cases side with
  | buy =>
    dsimp only
    rw [div_left_inj' hrisk.ne', sub_left_inj]
  | sell =>
    dsimp only
    rw [div_left_inj' hrisk.ne', sub_right_inj]

/-- The later row of a plan keeps the entry, the status and the R of the earlier one, and the entry is the first bar at
or after the signal's close of the whole series. -/
structure OutcomeKept (spec : SignalSpec) (series : List ShadowBar) (first second : ShadowOutcome) : Prop where
  first_entry : first.entryTime = (series.find? fun bar => spec.signalClose ≤ bar.time).map ShadowBar.time
  entry : second.entryTime = first.entryTime
  status : second.status = first.status
  netR : second.netR = first.netR

/-- **When the later window still decides as the earlier one did**: every bar from the entry on is in it, and a stop that
is not opened through is filled at the same overshoot. -/
structure WindowHolds (count : ℕ) (spec : SignalSpec) (series later : List ShadowBar) : Prop where
  reaches : (spec.live (series ++ later)).length ≤ count
  overshoot : ∀ bar, spec.decidingBar? (spec.live series) = some bar →
    triggered spec.side bar spec.stopLoss spec.takeProfit = .ok (true, false) →
    opensThrough spec.side bar spec.stopLoss = false →
    gapAwareOvershoot spec (marketBars count series) = gapAwareOvershoot spec (marketBars count (series ++ later))

theorem live_head_time (spec : SignalSpec) (h : Chronological series) :
    (series.find? fun bar => spec.signalClose ≤ bar.time) = (spec.live series).head? := by
  rw [live_eq h, ← find?_not_eq_head?_dropWhile]
  congr 1
  funext bar
  rw [← decide_not, decide_eq_decide, not_lt]

/-- **A stored target or stop is kept by a later cycle exactly when the later window still reaches back to the entry and
gives its stop the same overshoot.** -/
theorem forward_outcome_kept_iff (count : ℕ) (spec : SignalSpec) (specs specs' : List SignalSpec)
    (rows rows' : List ShadowOutcome) (series later : List ShadowBar) (first : ShadowOutcome)
    (hspec : spec ∈ specs) (hspec' : spec ∈ specs') (hids : (specs.map SignalSpec.signalId).Nodup)
    (hids' : (specs'.map SignalSpec.signalId).Nodup)
    (hchron : (series ++ later).Pairwise fun a b => a.time < b.time)
    (hfirst : storedRow (collectorResolve count specs series rows) forwardSource spec.signalId = some first)
    (hdecided : first.status = .tp ∨ first.status = .sl) :
    (∃ second, storedRow (collectorResolve count specs' (series ++ later) rows') forwardSource spec.signalId
        = some second ∧ OutcomeKept spec (series ++ later) first second) ↔ WindowHolds count spec series later := by
  have happend : Chronological (series ++ later) := hchron.imp fun hab => le_of_lt hab
  have hseries : Chronological series := (List.pairwise_append.1 happend).1
  rw [storedRow_collectorResolve hids hspec] at hfirst
  cases hfirst
  rw [storedRow_collectorResolve hids' hspec']
  -- the windows of the bars from the entry on
  have hwindow := live_marketBars hseries spec count
  have hwindow' := live_marketBars happend spec count
  cases hlive : spec.live series with
  | nil =>
    rw [hlive] at hwindow
    unfold resolveForward resolveSignal at hdecided
    rw [hwindow] at hdecided
    simp [marketBars, SignalSpec.outcome] at hdecided
  | cons entryBar rest =>
    have hlive' := SignalSpec.live_append hseries happend hlive
    have hentry : ((series ++ later).find? fun bar => spec.signalClose ≤ bar.time).map ShadowBar.time
        = some entryBar.time := by
      rw [live_head_time spec happend, hlive']
      rfl
    have hlater : ∀ bar ∈ rest ++ later, entryBar.time < bar.time := by
      have hsorted : (entryBar :: (rest ++ later)).Pairwise fun a b => a.time < b.time := by
        rw [← hlive', SignalSpec.live_eq happend]
        exact hchron.sublist (List.dropWhile_sublist _)
      exact fun bar hbar => List.rel_of_pairwise_cons hsorted hbar
    by_cases hcount : (entryBar :: (rest ++ later)).length ≤ count
    · -- both windows hold every bar from the entry on
      have hshort : (entryBar :: rest).length ≤ count := by
        rw [List.length_cons, List.length_append] at hcount
        rw [List.length_cons]
        omega
      rw [hlive, marketBars_of_le hshort] at hwindow
      rw [hlive', marketBars_of_le hcount] at hwindow'
      rw [resolveForward_cons hwindow] at hdecided ⊢
      obtain ⟨spread, bar, hspread, hrisk, hbar, hhit⟩ := resolveFrom_inv hdecided
      have hbar' : spec.decidingBar? (entryBar :: (rest ++ later)) = some bar := by
        unfold SignalSpec.decidingBar? at hbar ⊢
        rw [← List.cons_append, List.take_append, List.find?_append, hbar, Option.some_or]
      obtain ⟨hsl, htp⟩ := resolveFrom_hit hspread hrisk hbar .gapAware (gapAwareOvershoot spec (marketBars count series))
      obtain ⟨hsl', htp'⟩ := resolveFrom_hit hspread hrisk hbar' .gapAware
        (gapAwareOvershoot spec (marketBars count (series ++ later)))
      have hnonneg := gapAwareOvershoot_nonneg spec (marketBars count series)
      have hnonneg' := gapAwareOvershoot_nonneg spec (marketBars count (series ++ later))
      have hkey := resolveFrom_key spec noDrill forwardSource .gapAware
        (gapAwareOvershoot spec (marketBars count series)) entryBar (entryBar :: rest)
      have hkey' := resolveFrom_key spec noDrill forwardSource .gapAware
        (gapAwareOvershoot spec (marketBars count (series ++ later))) entryBar (entryBar :: (rest ++ later))
      rw [resolveForward_cons hwindow']
      constructor
      · rintro ⟨second, hsecond, hkept⟩
        cases hsecond
        refine ⟨by rw [hlive']; exact hcount, fun bar' hbar'' hstop hopen => ?_⟩
        rw [hlive, hbar] at hbar''
        cases hbar''
        have hnet := hkept.netR
        rw [(hsl hstop).2, (hsl' hstop).2, Option.some.injEq, resolveR_inj hrisk,
          stopFillPrice_gapAware_inj hnonneg' hnonneg] at hnet
        exact (hnet hopen).symm
      · intro hholds
        refine ⟨_, rfl, ?_, ?_, ?_, ?_⟩
        · rw [hkey.2.2, hentry]
        · rw [hkey.2.2, hkey'.2.2]
        · rcases hhit with hstop | htarget
          · rw [(hsl hstop).1, (hsl' hstop).1]
          · rw [(htp htarget).1, (htp' htarget).1]
        · rcases hhit with hstop | htarget
          · rw [(hsl hstop).2, (hsl' hstop).2, Option.some.injEq, resolveR_inj hrisk,
              stopFillPrice_gapAware_inj hnonneg' hnonneg]
            exact fun hopen => (hholds.overshoot bar (by rw [hlive]; exact hbar) hstop hopen).symm
          · rw [(htp htarget).2, (htp' htarget).2]
    · -- the later window has lost the entry bar
      constructor
      · rintro ⟨second, hsecond, hkept⟩
        cases hsecond
        exfalso
        have hsome : (resolveForward spec (marketBars count (series ++ later))).entryTime = some entryBar.time := by
          rw [hkept.entry, hkept.first_entry, hentry]
        have hlost : ∀ bar ∈ spec.live (marketBars count (series ++ later)), entryBar.time < bar.time := by
          intro bar hbar
          rw [hwindow', hlive'] at hbar
          unfold marketBars at hbar
          obtain ⟨n, hn⟩ : ∃ n, (entryBar :: (rest ++ later)).length - count = n + 1 :=
            Nat.exists_eq_add_one.2 (by omega)
          rw [hn, List.drop_succ_cons] at hbar
          exact hlater bar (List.mem_of_mem_drop hbar)
        cases hwin : spec.live (marketBars count (series ++ later)) with
        | nil =>
          unfold resolveForward resolveSignal at hsome
          rw [hwin] at hsome
          cases hsome
        | cons entryBar' rest' =>
          rw [resolveForward_cons hwin, (resolveFrom_key spec noDrill forwardSource .gapAware _ _ _).2.2,
            Option.some.injEq] at hsome
          have hlt := hlost entryBar' (by rw [hwin]; exact List.mem_cons_self)
          omega
      · intro hholds
        have hreach := hholds.reaches
        rw [hlive'] at hreach
        exact absurd hreach hcount

/-! ### A plan that outlives its window -/

def targetBar (t : ℤ) : ShadowBar := ⟨t, 100, 103, 199 / 2, 102, some (1 / 10)⟩

def quietBars (n : ℕ) : List ShadowBar := (List.range n).map fun i : ℕ => quietBar (60 * (i + 2))

theorem targetBar_quietBars_chain (n : ℕ) :
    ([targetBar 60] ++ quietBars n).IsChain fun a b => b.time = a.time + 60 := by
  unfold quietBars
  rw [isChain_iff_getElem]
  intro i hi
  cases i with
  | zero =>
    simp only [singleton_append, getElem_cons_zero, getElem_cons_succ, getElem_map,
      getElem_range]
    rfl
  | succ i =>
    simp only [singleton_append, getElem_cons_succ, getElem_map, getElem_range]
    show 60 * (((i + 1 : ℕ) : ℤ) + 2) = 60 * ((i : ℤ) + 2) + 60
    push_cast
    ring

theorem targetBar_quietBars_chronological (n : ℕ) : Chronological ([targetBar 60] ++ quietBars n) := by
  unfold quietBars
  refine pairwise_cons.2 ⟨fun b hb => ?_, ?_⟩
  · obtain ⟨i, -, rfl⟩ := mem_map.1 hb
    show (60 : ℤ) ≤ 60 * ((i : ℤ) + 2)
    omega
  · refine pairwise_map.2 (List.pairwise_lt_range.imp fun {i j} hij => ?_)
    show 60 * ((i : ℤ) + 2) ≤ 60 * ((j : ℤ) + 2)
    omega

theorem resolveForward_quietBars (n : ℕ) :
    (resolveForward twoBarPlan (marketBars (n + 1) ([targetBar 60] ++ quietBars (n + 1)))).entryTime = some 120 := by
  have hchron := targetBar_quietBars_chronological (n + 1)
  have hlive : twoBarPlan.live ([targetBar 60] ++ quietBars (n + 1)) = targetBar 60 :: quietBars (n + 1) := by
    rw [live_eq hchron]
    exact dropWhile_cons_of_neg (by decide)
  have hcons : ∃ rest, quietBars (n + 1) = quietBar 120 :: rest := by
    unfold quietBars
    rw [range_succ_eq_map, map_cons]
    exact ⟨_, rfl⟩
  obtain ⟨rest, hrest⟩ := hcons
  have hlength : (quietBars (n + 1)).length = n + 1 := by
    unfold quietBars
    rw [length_map, length_range]
  have hwindow : twoBarPlan.live (marketBars (n + 1) ([targetBar 60] ++ quietBars (n + 1))) = quietBar 120 :: rest := by
    rw [live_marketBars hchron, hlive]
    unfold marketBars
    rw [length_cons, hlength, Nat.add_sub_cancel_left, drop_succ_cons, drop_zero, hrest]
  rw [resolveForward_cons hwindow]
  exact (resolveFrom_key _ _ _ _ _ _ _).2.2

/-- The plan is stored with the target hit at its entry at 60; 10000 bars later the stored entry is at 120. -/
theorem forward_outcome_slides :
    let rows := collectorResolve 10000 [twoBarPlan] [targetBar 60] []
    let rows' := collectorResolve 10000 [twoBarPlan] ([targetBar 60] ++ quietBars 10000) rows
    ([targetBar 60] ++ quietBars 10000).IsChain (fun a b => b.time = a.time + 60) ∧
      (∃ first, storedRow rows forwardSource "plan-1" = some first ∧ first.status = .tp ∧ first.entryTime = some 60) ∧
      ∃ second, storedRow rows' forwardSource "plan-1" = some second ∧ second.entryTime = some 120 := by
  intro rows rows'
  have hids : ([twoBarPlan].map SignalSpec.signalId).Nodup := by simp
  exact ⟨targetBar_quietBars_chain _,
    ⟨_, storedRow_collectorResolve hids List.mem_cons_self 10000 [targetBar 60] [], by decide +kernel,
      by decide +kernel⟩,
    _, storedRow_collectorResolve hids List.mem_cons_self 10000 _ rows, resolveForward_quietBars 9999⟩

theorem forward_outcome_kept_next :
    let rows := collectorResolve 10000 [twoBarPlan] [targetBar 60] []
    ∃ second, storedRow (collectorResolve 10000 [twoBarPlan] ([targetBar 60] ++ [quietBar 120]) rows) forwardSource
        twoBarPlan.signalId = some second ∧
      OutcomeKept twoBarPlan ([targetBar 60] ++ [quietBar 120])
        (resolveForward twoBarPlan (marketBars 10000 [targetBar 60])) second := by
  intro rows
  have hids : ([twoBarPlan].map SignalSpec.signalId).Nodup := by simp
  refine (forward_outcome_kept_iff 10000 twoBarPlan [twoBarPlan] [twoBarPlan] [] rows [targetBar 60] [quietBar 120] _
    List.mem_cons_self List.mem_cons_self hids hids (List.pairwise_pair.2 (by decide))
    (storedRow_collectorResolve hids List.mem_cons_self 10000 [targetBar 60] []) (.inl (by decide +kernel))).2
    ⟨by decide, fun _ _ _ _ => by decide⟩

end Jqe
