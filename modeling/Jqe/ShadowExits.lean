import Jqe.ShadowStable
import Mathlib.Algebra.Order.Field.Basic
import Mathlib.Tactic.Linarith
/-!
# ShadowExits — what a resolved exit earns

The first bar of the horizon that touches a barrier decides, whatever the exit mode; the mode only moves the fill of a stop.
A target is paid at its own price, and earns what lies between it and the entry.
-/
namespace Jqe

open List

/-! ### The bar that decides -/

theorem findSome?_eq_find?_bind {α β : Type} {p : α → Bool} {f : α → Option β} :
    ∀ {l : List α}, (∀ x ∈ l, f x = none ↔ p x = false) → l.findSome? f = (l.find? p).bind f
  | [], _ => rfl
  | x :: l, h => by
    have ih := findSome?_eq_find?_bind fun y hy => h y (mem_cons_of_mem x hy)
    rw [findSome?_cons, find?_cons]
    cases hp : p x with
    | false =>
      rw [(h x mem_cons_self).2 hp, ih]
    | true =>
      cases hf : f x with
      | none => rw [(h x mem_cons_self).1 hf] at hp; cases hp
      | some b => exact hf.symm

namespace SignalSpec

variable (signal : SignalSpec)

def tickTouches (tick : ShadowTick) : Bool :=
  match tickTriggered signal.side tick signal.stopLoss signal.takeProfit with
  | .ok (false, false) => false
  | _ => true

def tickTakesTarget (tick : ShadowTick) : Bool :=
  match tickTriggered signal.side tick signal.stopLoss signal.takeProfit with
  | .ok (false, true) => true
  | _ => false

/-- The parent and the bar of its sequence that decide on a horizon. -/
def firstTouch (drill : DrillDown) (horizon : List ShadowBar) : Option (ShadowBar × ShadowBar) :=
  horizon.findSome? fun parent => ((drill.sequence parent).find? signal.touches).map fun bar => (parent, bar)

/-- Whether a touching bar takes the target: it hits the target alone, or both barriers and its first tick that touches
one hits the target alone. -/
def takesTarget (ticks : List ShadowTick) (bar : ShadowBar) : Bool :=
  match triggered signal.side bar signal.stopLoss signal.takeProfit with
  | .ok (false, true) => true
  | .ok (true, true) => (ticks.find? signal.tickTouches).any signal.tickTakesTarget
  | _ => false

/-- **The target is what the horizon reaches first.** -/
def TargetFirst (drill : DrillDown) (horizon : List ShadowBar) : Prop :=
  ∃ parent bar, signal.firstTouch drill horizon = some (parent, bar) ∧
    signal.takesTarget ((drill.ticks.lookup parent.time).getD []) bar = true

def TargetBeyond (entry : ℚ) : Prop :=
  match signal.side with
  | .buy => entry < signal.takeProfit
  | .sell => signal.takeProfit < entry

variable {signal}

theorem touches_eq_false {bar : ShadowBar} : signal.touches bar = false ↔ ¬signal.Touches bar := by
  rw [← signal.touches_iff bar, Bool.not_eq_true]

theorem ticksOf_lookup {drill : DrillDown} {parent bar : ShadowBar} (h : bar ∈ drill.sequence parent) :
    ((drill.ticksOf parent).lookup bar.time).getD [] = (drill.ticks.lookup parent.time).getD [] := by
  have hlookup : (drill.ticksOf parent).lookup bar.time = some ((drill.ticks.lookup parent.time).getD []) := by
    unfold DrillDown.ticksOf
    generalize drill.sequence parent = bars at h
    induction bars with
    | nil => cases h
    | cons b bars ih =>
      rw [map_cons, lookup_cons]
      split
      · rfl
      · rename_i hne
        rcases mem_cons.1 h with rfl | h
        · simp at hne
        · exact ih h
  rw [hlookup, Option.getD_some]

def decide? (signal : SignalSpec) (drill : DrillDown) (fill : StopFill) (x : ShadowBar × ShadowBar) : Option Verdict :=
  resolveBar signal.side signal.stopLoss signal.takeProfit (drill.ticksOf x.1) fill x.2

/-- **The horizon is decided by its first bar that touches**, under every fill. -/
theorem findSome?_resolveParent (signal : SignalSpec) (drill : DrillDown) (fill : StopFill) (horizon : List ShadowBar) :
    horizon.findSome? (signal.resolveParent drill fill)
      = (signal.firstTouch drill horizon).bind (signal.decide? drill fill) := by
  have hparent : ∀ parent, signal.resolveParent drill fill parent =
      (((drill.sequence parent).find? signal.touches).map fun bar => (parent, bar)).bind (signal.decide? drill fill) := by
    intro parent
    have hbars : signal.resolveParent drill fill parent = ((drill.sequence parent).find? signal.touches).bind
        fun bar => signal.decide? drill fill (parent, bar) :=
      findSome?_eq_find?_bind fun bar _ => (resolveBar_eq_none signal _ fill bar).trans touches_eq_false.symm
    rw [hbars, Option.bind_map]
    rfl
  unfold firstTouch
  induction horizon with
  | nil => rfl
  | cons parent horizon ih =>
    rw [findSome?_cons, findSome?_cons, hparent parent]
    cases hfind : (drill.sequence parent).find? signal.touches with
    | none => exact ih
    | some bar =>
      have htouch := find?_some hfind
      have hsome : signal.decide? drill fill (parent, bar) ≠ none := by
        intro hnone
        have := touches_eq_false.2 ((resolveBar_eq_none signal _ fill bar).1 hnone)
        rw [this] at htouch
        cases htouch
      obtain ⟨v, hv⟩ := Option.ne_none_iff_exists'.1 hsome
      dsimp only [Option.map_some, Option.bind_some]
      rw [hv]

end SignalSpec

/-! ### What it decides -/

def Verdict.refill (price : ℚ) (v : Verdict) : Verdict := if v.status = .sl then { v with price := some price } else v

/-- The verdict is no timeout, and what it takes is paid at the target or at the fill of the stop. -/
structure Verdict.PaidAt (target fill : ℚ) (v : Verdict) : Prop where
  ne_timeout : v.status ≠ .timeout
  target : v.status = .tp → v.price = some target
  stop : v.status = .sl → v.price = some fill

section

variable {side : OrderSide} {stop target : ℚ} {fill : StopFill} {bar : ShadowBar}

theorem resolveTicks_refill (fill fill' : StopFill) (ticks : List ShadowTick) :
    resolveTicks side stop target fill' bar ticks =
      (resolveTicks side stop target fill bar ticks).map (Verdict.refill (stopFillPrice side bar stop fill')) := by
  induction ticks with
  | nil => rfl
  | cons tick ticks ih =>
    unfold resolveTicks
    split
    · rfl
    · rfl
    · rfl
    · rfl
    · exact ih

/-- **An exit mode moves the fill of a stop and nothing else.** -/
theorem resolveBar_refill (fill fill' : StopFill) (ticksByBar : List (ℤ × List ShadowTick)) :
    resolveBar side stop target ticksByBar fill' bar =
      (resolveBar side stop target ticksByBar fill bar).map (Verdict.refill (stopFillPrice side bar stop fill')) := by
  unfold resolveBar
  split
  · rfl
  · rfl
  · rw [resolveTicks_refill fill fill']
    cases resolveTicks side stop target fill bar ((ticksByBar.lookup bar.time).getD []) <;> rfl
  · rfl
  · rfl

theorem resolveTicks_paidAt {ticks : List ShadowTick} {v : Verdict}
    (h : resolveTicks side stop target fill bar ticks = some v) :
    v.PaidAt target (stopFillPrice side bar stop fill) := by
  induction ticks with
  | nil => cases h
  | cons tick ticks ih =>
    unfold resolveTicks at h
    split at h
    · cases h
      exact ⟨by simp, by simp, by simp⟩
    · cases h
      exact ⟨by simp, by simp, by simp⟩
    · cases h
      exact ⟨by simp, by simp, fun _ => rfl⟩
    · cases h
      exact ⟨by simp, fun _ => rfl, by simp⟩
    · exact ih h

theorem resolveBar_paidAt {ticksByBar : List (ℤ × List ShadowTick)} {v : Verdict}
    (h : resolveBar side stop target ticksByBar fill bar = some v) :
    v.PaidAt target (stopFillPrice side bar stop fill) := by
  unfold resolveBar at h
  split at h
  · cases h
    exact ⟨by simp, by simp, by simp⟩
  · cases h
  · split at h
    · rename_i found hfound
      cases h
      exact resolveTicks_paidAt hfound
    · cases h
      exact ⟨by simp, by simp, by simp⟩
  · cases h
    exact ⟨by simp, by simp, fun _ => rfl⟩
  · cases h
    exact ⟨by simp, fun _ => rfl, by simp⟩

end

namespace SignalSpec

variable {signal : SignalSpec} {drill : DrillDown} {fill : StopFill}

theorem resolveTicks_target (fill : StopFill) (bar : ShadowBar) (ticks : List ShadowTick) :
    (resolveTicks signal.side signal.stopLoss signal.takeProfit fill bar ticks).any (·.status = .tp) =
      (ticks.find? signal.tickTouches).any signal.tickTakesTarget := by
  induction ticks with
  | nil => rfl
  | cons tick ticks ih =>
    unfold resolveTicks
    cases htick : tickTriggered signal.side tick signal.stopLoss signal.takeProfit with
    | error text => simp [tickTouches, tickTakesTarget, htick]
    | ok hits =>
      obtain ⟨hitStop, hitTarget⟩ := hits
      cases hitStop <;> cases hitTarget
      · simpa [tickTouches, htick] using ih
      · simp [tickTouches, tickTakesTarget, htick]
      · simp [tickTouches, tickTakesTarget, htick]
      · simp [tickTouches, tickTakesTarget, htick]

/-- **The verdict of the deciding bar is the target exactly where it takes the target.** -/
theorem decide?_target (signal : SignalSpec) (drill : DrillDown) (fill : StopFill) {parent bar : ShadowBar}
    (h : bar ∈ drill.sequence parent) :
    (signal.decide? drill fill (parent, bar)).any (·.status = .tp) =
      signal.takesTarget ((drill.ticks.lookup parent.time).getD []) bar := by
  unfold decide? resolveBar takesTarget
  dsimp only
  rw [ticksOf_lookup h]
  cases htrig : triggered signal.side bar signal.stopLoss signal.takeProfit with
  | error text => simp
  | ok hits =>
    obtain ⟨hitStop, hitTarget⟩ := hits
    cases hitStop <;> cases hitTarget
    · rfl
    · rfl
    · rfl
    · dsimp only
      rw [← resolveTicks_target fill bar]
      cases resolveTicks signal.side signal.stopLoss signal.takeProfit fill bar
        ((drill.ticks.lookup parent.time).getD []) <;> rfl

theorem mem_of_firstTouch {horizon : List ShadowBar} {parent bar : ShadowBar}
    (h : signal.firstTouch drill horizon = some (parent, bar)) :
    parent ∈ horizon ∧ bar ∈ drill.sequence parent ∧ signal.Touches bar := by
  obtain ⟨parent', hparent, hfind⟩ := exists_of_findSome?_eq_some h
  obtain ⟨bar', hbar, heq⟩ := Option.map_eq_some_iff.1 hfind
  cases heq
  refine ⟨hparent, mem_of_find?_eq_some hbar, ?_⟩
  by_contra hnot
  have htouch := find?_some hbar
  rw [touches_eq_false.2 hnot] at htouch
  cases htouch

/-! ### The outcome -/

variable {entryBar : ShadowBar} {bars : List ShadowBar} {spread : ℚ} {source : String} {exitMode : ExitMode}
  {overshoot : ℚ}

theorem resolveFrom_paid (hspread : entryBar.spreadPrice = some spread)
    (hrisk : 0 < signal.riskAt (signal.entryAt entryBar spread)) {v : Verdict} {price : ℚ}
    (hfind : (bars.take signal.horizonBars).findSome? (signal.resolveParent drill ⟨exitMode, spread, overshoot⟩)
      = some v)
    (hstatus : v.status = .tp ∨ v.status = .sl) (hprice : v.price = some price) :
    (signal.resolveFrom drill source exitMode overshoot entryBar bars).netR = some (resolveR signal.side
      (signal.entryAt entryBar spread) price (signal.riskAt (signal.entryAt entryBar spread))) := by
  unfold resolveFrom
  rw [hspread]
  dsimp only
  rw [if_neg (not_le.2 hrisk), hfind]
  obtain ⟨status, time, _, detail⟩ := v
  cases hprice
  rcases hstatus with hstatus | hstatus
  · cases hstatus
    rfl
  · cases hstatus
    rfl

theorem resolveFrom_unentered (h : ∀ spread, entryBar.spreadPrice = some spread →
    signal.riskAt (signal.entryAt entryBar spread) ≤ 0) :
    (signal.resolveFrom drill source exitMode overshoot entryBar bars).status = .unresolved := by
  unfold resolveFrom
  cases hspread : entryBar.spreadPrice with
  | none => rfl
  | some spread =>
    dsimp only
    rw [if_pos (h spread hspread)]
    rfl

theorem resolveFrom_undecided (hspread : entryBar.spreadPrice = some spread)
    (hrisk : 0 < signal.riskAt (signal.entryAt entryBar spread))
    (hfind : (bars.take signal.horizonBars).findSome? (signal.resolveParent drill ⟨exitMode, spread, overshoot⟩)
      = none) :
    let outcome := signal.resolveFrom drill source exitMode overshoot entryBar bars
    outcome.status = .timeout ∨ outcome.status = .unresolved := by
  unfold resolveFrom
  rw [hspread]
  dsimp only
  rw [if_neg (not_le.2 hrisk), hfind]
  dsimp only
  split
  · exact .inr rfl
  · exact .inl rfl

/-- **The outcome is a target exactly where the horizon reaches the target first.** -/
theorem resolveFrom_tp_iff (hspread : entryBar.spreadPrice = some spread)
    (hrisk : 0 < signal.riskAt (signal.entryAt entryBar spread)) (drill : DrillDown) (bars : List ShadowBar)
    (source : String) (exitMode : ExitMode) (overshoot : ℚ) :
    (signal.resolveFrom drill source exitMode overshoot entryBar bars).status = .tp ↔
      signal.TargetFirst drill (bars.take signal.horizonBars) := by
  have hfind := signal.findSome?_resolveParent drill ⟨exitMode, spread, overshoot⟩
    (bars.take signal.horizonBars)
  unfold TargetFirst
  cases hfirst : signal.firstTouch drill (bars.take signal.horizonBars) with
  | none =>
    rw [hfirst] at hfind
    constructor
    · intro htp
      rcases resolveFrom_undecided hspread hrisk hfind with hstatus | hstatus
      · cases htp.symm.trans hstatus
      · cases htp.symm.trans hstatus
    · rintro ⟨parent, bar, hnone, -⟩
      cases hnone
  | some x =>
    obtain ⟨parent, bar⟩ := x
    obtain ⟨-, hbar, htouch⟩ := mem_of_firstTouch hfirst
    obtain ⟨v, hv⟩ : ∃ v, signal.decide? drill ⟨exitMode, spread, overshoot⟩ (parent, bar) = some v :=
      Option.ne_none_iff_exists'.1 fun hnone => (resolveBar_eq_none signal _ _ bar).1 hnone htouch
    rw [hfirst, Option.bind_some, hv] at hfind
    rw [resolveFrom_decided hspread hrisk hfind]
    have htarget := signal.decide?_target drill ⟨exitMode, spread, overshoot⟩ hbar
    rw [hv, Option.any_some] at htarget
    constructor
    · intro htp
      refine ⟨parent, bar, rfl, ?_⟩
      rw [← htarget, htp]
      rfl
    · rintro ⟨_, _, heq, htakes⟩
      cases heq
      rw [htakes] at htarget
      exact of_decide_eq_true htarget

theorem paidAt_of_find {horizon : List ShadowBar} {v : Verdict}
    (hfind : horizon.findSome? (signal.resolveParent drill fill) = some v) :
    ∃ bar, v.PaidAt signal.takeProfit (stopFillPrice signal.side bar signal.stopLoss fill) := by
  obtain ⟨parent, -, hparent⟩ := exists_of_findSome?_eq_some hfind
  obtain ⟨bar, -, hbar⟩ := exists_of_findSome?_eq_some hparent
  exact ⟨bar, resolveBar_paidAt hbar⟩

end SignalSpec

/-! ### Fills -/

def OrderSide.NoBetter : OrderSide → ℚ → ℚ → Prop
  | .buy, price, price' => price ≤ price'
  | .sell, price, price' => price' ≤ price

theorem OrderSide.NoBetter.refl (side : OrderSide) (price : ℚ) : side.NoBetter price price := by
  cases side <;> exact le_rfl

theorem resolveR_le {side : OrderSide} {price price' : ℚ} (h : side.NoBetter price price') {risk : ℚ} (hrisk : 0 < risk)
    (entry : ℚ) : resolveR side entry price risk ≤ resolveR side entry price' risk := by
  cases side with
  | buy => exact div_le_div_of_nonneg_right (sub_le_sub_right h entry) hrisk.le
  | sell => exact div_le_div_of_nonneg_right (sub_le_sub_left h entry) hrisk.le

section

variable (side : OrderSide) (bar : ShadowBar) (stop spread overshoot : ℚ)

theorem stopFillPrice_gapAware : side.NoBetter (stopFillPrice side bar stop ⟨.gapAware, spread, overshoot⟩)
    (stopFillPrice side bar stop ⟨.atSl, spread, overshoot⟩) := by
  have hovershoot : 0 ≤ max 0 overshoot := le_max_left _ _
  unfold stopFillPrice OrderSide.NoBetter
  cases side with
  | buy =>
    simp only [reduceCtorEq, ↓reduceIte]
    split
    · exact min_le_left _ _
    · linarith
  | sell =>
    simp only [reduceCtorEq, ↓reduceIte]
    split
    · exact le_max_left _ _
    · linarith

theorem stopFillPrice_conservative :
    side.NoBetter (stopFillPrice side bar stop ⟨.conservativeSlippage, spread, overshoot⟩)
      (stopFillPrice side bar stop ⟨.gapAware, spread, overshoot⟩) := by
  have hovershoot : 0 ≤ max 0 overshoot := le_max_left _ _
  have hwider : 0 ≤ max 0 (bar.spreadPrice.getD 0 - spread) := le_max_left _ _
  unfold stopFillPrice OrderSide.NoBetter
  cases side with
  | buy =>
    simp only [reduceCtorEq, ↓reduceIte]
    linarith
  | sell =>
    simp only [reduceCtorEq, ↓reduceIte]
    linarith

/-- **A stop never fills better than at its price.** -/
theorem stopFillPrice_noBetter (exitMode : ExitMode) :
    side.NoBetter (stopFillPrice side bar stop ⟨exitMode, spread, overshoot⟩) stop := by
  have hgap := stopFillPrice_gapAware side bar stop spread overshoot
  have hconservative := stopFillPrice_conservative side bar stop spread overshoot
  have hat : stopFillPrice side bar stop ⟨.atSl, spread, overshoot⟩ = stop := rfl
  rw [hat] at hgap
  cases exitMode with
  | atSl => exact OrderSide.NoBetter.refl side stop
  | gapAware => exact hgap
  | conservativeSlippage =>
    cases side with
    | buy => exact le_trans hconservative hgap
    | sell => exact le_trans hgap hconservative

end

namespace SignalSpec

variable {signal : SignalSpec}

theorem resolveR_stop {entry price : ℚ} (hrisk : 0 < signal.riskAt entry)
    (hprice : signal.side.NoBetter price signal.stopLoss) :
    resolveR signal.side entry price (signal.riskAt entry) < 0 := by
  refine lt_of_le_of_lt (resolveR_le hprice hrisk entry) ?_
  unfold resolveR
  cases hside : signal.side with
  | buy =>
    have hentry : signal.riskAt entry = entry - signal.stopLoss := by rw [riskAt, hside]
    exact div_neg_of_neg_of_pos (by linarith) hrisk
  | sell =>
    have hentry : signal.riskAt entry = signal.stopLoss - entry := by rw [riskAt, hside]
    exact div_neg_of_neg_of_pos (by linarith) hrisk

theorem resolveR_target {entry : ℚ} (hrisk : 0 < signal.riskAt entry) :
    0 < resolveR signal.side entry signal.takeProfit (signal.riskAt entry) ↔ signal.TargetBeyond entry := by
  unfold resolveR TargetBeyond
  cases signal.side with
  | buy => rw [div_pos_iff_of_pos_right hrisk, sub_pos]
  | sell => rw [div_pos_iff_of_pos_right hrisk, sub_pos]

end SignalSpec

/-! ### A target is a profit, where the entry has not passed it -/

/-- **A plan is entered**: at the open of a bar that carries a spread, on the right side of its stop. -/
structure SignalSpec.Enters (signal : SignalSpec) (bars : List ShadowBar) (entryBar : ShadowBar)
    (later : List ShadowBar) (spread : ℚ) : Prop where
  live : signal.live bars = entryBar :: later
  known : entryBar.spreadPrice = some spread
  risk : 0 < signal.riskAt (signal.entryAt entryBar spread)

structure ShadowOutcome.Signed (outcome : ShadowOutcome) : Prop where
  profit : outcome.status = .tp → ∃ r, outcome.netR = some r ∧ 0 < r
  loss : outcome.status = .sl → ∃ r, outcome.netR = some r ∧ r < 0

section

variable {signal : SignalSpec} {bars : List ShadowBar} {entryBar : ShadowBar} {later : List ShadowBar} {spread : ℚ}

theorem resolveSignal_entered (h : signal.Enters bars entryBar later spread) (drill : DrillDown) (source : String)
    (exitMode : ExitMode) (overshootPrice : Option ℚ) :
    resolveSignal signal bars drill source exitMode overshootPrice =
      signal.resolveFrom drill source exitMode (max 0 (overshootPrice.getD 0)) entryBar (entryBar :: later) := by
  unfold resolveSignal
  rw [h.live]

theorem resolveSignal_unentered (h : ∀ entryBar later spread, ¬signal.Enters bars entryBar later spread)
    (drill : DrillDown) (source : String) (exitMode : ExitMode) (overshootPrice : Option ℚ) :
    (resolveSignal signal bars drill source exitMode overshootPrice).status = .unresolved := by
  unfold resolveSignal
  cases hlive : signal.live bars with
  | nil => rfl
  | cons entryBar later =>
    refine SignalSpec.resolveFrom_unentered fun spread hspread => ?_
    by_contra hrisk
    exact h entryBar later spread ⟨hlive, hspread, not_le.1 hrisk⟩

theorem SignalSpec.Enters.unique (h : signal.Enters bars entryBar later spread) {entryBar' : ShadowBar}
    {later' : List ShadowBar} {spread' : ℚ} (h' : signal.Enters bars entryBar' later' spread') :
    entryBar' = entryBar ∧ later' = later ∧ spread' = spread := by
  have hlive := h.live.symm.trans h'.live
  cases hlive
  have hspread := h.known.symm.trans h'.known
  cases hspread
  exact ⟨rfl, rfl, rfl⟩

theorem resolveFrom_netR (hspread : entryBar.spreadPrice = some spread)
    (hrisk : 0 < signal.riskAt (signal.entryAt entryBar spread)) (drill : DrillDown) (bars : List ShadowBar)
    (source : String) (exitMode : ExitMode) (overshoot : ℚ) :
    let outcome := signal.resolveFrom drill source exitMode overshoot entryBar bars
    let entry := signal.entryAt entryBar spread
    (outcome.status = .tp → outcome.netR = some (resolveR signal.side entry signal.takeProfit (signal.riskAt entry))) ∧
      (outcome.status = .sl → ∃ bar, outcome.netR = some (resolveR signal.side entry
        (stopFillPrice signal.side bar signal.stopLoss ⟨exitMode, spread, overshoot⟩) (signal.riskAt entry))) := by
  intro outcome entry
  cases hfind : (bars.take signal.horizonBars).findSome?
      (signal.resolveParent drill ⟨exitMode, spread, overshoot⟩) with
  | none =>
    have hstatus : outcome.status = .timeout ∨ outcome.status = .unresolved :=
      SignalSpec.resolveFrom_undecided hspread hrisk hfind
    constructor
    · intro htp
      simp [htp] at hstatus
    · intro hsl
      simp [hsl] at hstatus
  | some v =>
    obtain ⟨bar, hpaid⟩ := SignalSpec.paidAt_of_find hfind
    have hstatus : outcome.status = v.status := resolveFrom_decided hspread hrisk hfind
    constructor
    · intro htp
      have hv := hstatus.symm.trans htp
      exact SignalSpec.resolveFrom_paid hspread hrisk hfind (.inl hv) (hpaid.target hv)
    · intro hsl
      have hv := hstatus.symm.trans hsl
      exact ⟨bar, SignalSpec.resolveFrom_paid hspread hrisk hfind (.inr hv) (hpaid.stop hv)⟩

end

/-- **A target is paid for a profit, and a stop for a loss, exactly where the entry has not passed the target that the
horizon reaches first.** -/
theorem take_profit_iff (signal : SignalSpec) (bars : List ShadowBar) (drill : DrillDown) (source : String)
    (exitMode : ExitMode) (overshootPrice : Option ℚ) :
    (resolveSignal signal bars drill source exitMode overshootPrice).Signed ↔
      ∀ entryBar later spread, signal.Enters bars entryBar later spread →
        signal.TargetFirst drill ((entryBar :: later).take signal.horizonBars) →
        signal.TargetBeyond (signal.entryAt entryBar spread) := by
  by_cases hentered : ∃ entryBar later spread, signal.Enters bars entryBar later spread
  · obtain ⟨entryBar, later, spread, h⟩ := hentered
    rw [resolveSignal_entered h]
    obtain ⟨htarget, hstop⟩ := resolveFrom_netR h.known h.risk drill (entryBar :: later) source exitMode
      (max 0 (overshootPrice.getD 0))
    have htp := SignalSpec.resolveFrom_tp_iff h.known h.risk drill (entryBar :: later) source exitMode
      (max 0 (overshootPrice.getD 0))
    constructor
    · intro hsigned entryBar' later' spread' h' hfirst
      obtain ⟨rfl, rfl, rfl⟩ := h.unique h'
      have hstatus := htp.2 hfirst
      obtain ⟨r, hr, hpos⟩ := hsigned.profit hstatus
      have hpaid := hr.symm.trans (htarget hstatus)
      cases hpaid
      exact (SignalSpec.resolveR_target h.risk).1 hpos
    · intro hbeyond
      refine ⟨fun hstatus => ?_, fun hstatus => ?_⟩
      · exact ⟨_, htarget hstatus, (SignalSpec.resolveR_target h.risk).2 (hbeyond _ _ _ h (htp.1 hstatus))⟩
      · obtain ⟨bar, hpaid⟩ := hstop hstatus
        exact ⟨_, hpaid, SignalSpec.resolveR_stop h.risk (stopFillPrice_noBetter _ _ _ _ _ _)⟩
  · have hnone : ∀ entryBar later spread, ¬signal.Enters bars entryBar later spread :=
      fun entryBar later spread h => hentered ⟨entryBar, later, spread, h⟩
    have hstatus := resolveSignal_unentered hnone drill source exitMode overshootPrice
    constructor
    · intro _ entryBar later spread h
      exact absurd h (hnone entryBar later spread)
    · intro _
      exact ⟨fun htp => absurd (htp.symm.trans hstatus) (by simp), fun hsl => absurd (hsl.symm.trans hstatus) (by simp)⟩

def passedPlan : SignalSpec :=
  { twoBarPlan with
    signalId := "plan-2", symbol := "GAINX 1200", stopLoss := 90, takeProfit := 100, levels_pos := by norm_num }

/-- The open at 105 takes the target at 100 for a loss. -/
theorem target_below_entry :
    let outcome := resolveSignal passedPlan [⟨60, 105, 106, 101, 104, some 1⟩] noDrill "replay" .atSl none
    outcome.status = .tp ∧ outcome.netR = some (-(3 / 8)) ∧ ¬outcome.Signed := by
  have htaken : let outcome := resolveSignal passedPlan [⟨60, 105, 106, 101, 104, some 1⟩] noDrill "replay" .atSl none
      outcome.status = .tp ∧ outcome.netR = some (-(3 / 8)) := by decide +kernel
  obtain ⟨hstatus, hnet⟩ := htaken
  refine ⟨hstatus, hnet, fun hsigned => ?_⟩
  obtain ⟨r, hr, hpos⟩ := hsigned.profit hstatus
  rw [hnet] at hr
  cases hr
  norm_num at hpos

/-! ### The modes are ordered -/

/-- **An outcome that agrees with another, and earns no more**: less only where both are stopped. -/
structure ShadowOutcome.NoBetter (worse better : ShadowOutcome) : Prop where
  status : worse.status = better.status
  outcomeTime : worse.outcomeTime = better.outcomeTime
  netR_le : Option.Rel (· ≤ ·) worse.netR better.netR
  netR_eq : better.status ≠ .sl → worse.netR = better.netR

theorem ShadowOutcome.NoBetter.of_agree {worse better : ShadowOutcome} (hstatus : worse.status = better.status)
    (htime : worse.outcomeTime = better.outcomeTime) (hnet : worse.netR = better.netR) : worse.NoBetter better := by
  refine ⟨hstatus, htime, ?_, fun _ => hnet⟩
  rw [hnet]
  cases better.netR with
  | none => exact .none
  | some r => exact .some le_rfl

section

variable {signal : SignalSpec} {entryBar : ShadowBar} {bars : List ShadowBar} {mode mode' : ExitMode}

theorem resolveFrom_noBetter (hfills : ∀ bar spread overshoot, signal.side.NoBetter
      (stopFillPrice signal.side bar signal.stopLoss ⟨mode, spread, overshoot⟩)
      (stopFillPrice signal.side bar signal.stopLoss ⟨mode', spread, overshoot⟩))
    (drill : DrillDown) (source : String) (overshoot : ℚ) :
    (signal.resolveFrom drill source mode overshoot entryBar bars).NoBetter
      (signal.resolveFrom drill source mode' overshoot entryBar bars) := by
  unfold SignalSpec.resolveFrom
  cases hspread : entryBar.spreadPrice with
  | none => exact .of_agree rfl rfl rfl
  | some spread =>
    dsimp only
    by_cases hrisk : signal.riskAt (signal.entryAt entryBar spread) ≤ 0
    · rw [if_pos hrisk, if_pos hrisk]
      exact .of_agree rfl rfl rfl
    rw [if_neg hrisk, if_neg hrisk, signal.findSome?_resolveParent, signal.findSome?_resolveParent]
    cases signal.firstTouch drill (bars.take signal.horizonBars) with
    | none =>
      dsimp only [Option.bind_none]
      cases ((bars.take signal.horizonBars).getLast?.getD entryBar).spreadPrice with
      | none => exact .of_agree rfl rfl rfl
      | some lastSpread => exact .of_agree rfl rfl rfl
    | some x =>
      -- the deciding bar is the same, and only the fill of its stop differs
      have hrefill : signal.decide? drill ⟨mode, spread, overshoot⟩ x =
          (signal.decide? drill ⟨mode', spread, overshoot⟩ x).map
            (Verdict.refill (stopFillPrice signal.side x.2 signal.stopLoss ⟨mode, spread, overshoot⟩)) :=
        resolveBar_refill _ _ _
      rw [Option.bind_some, Option.bind_some, hrefill]
      cases hv : signal.decide? drill ⟨mode', spread, overshoot⟩ x with
      | none =>
        dsimp only [Option.map_none]
        cases ((bars.take signal.horizonBars).getLast?.getD entryBar).spreadPrice with
        | none => exact .of_agree rfl rfl rfl
        | some lastSpread => exact .of_agree rfl rfl rfl
      | some v =>
        obtain ⟨status, time, price, detail⟩ := v
        cases status with
        | sl =>
          have hprice := (resolveBar_paidAt hv).stop rfl
          cases hprice
          refine ⟨rfl, rfl, .some ?_, fun h => absurd rfl h⟩
          exact resolveR_le (hfills x.2 spread overshoot) (not_le.1 hrisk) _
        | tp => exact .of_agree rfl rfl rfl
        | timeout => exact .of_agree rfl rfl rfl
        | ambiguous => exact .of_agree rfl rfl rfl
        | unresolved => exact .of_agree rfl rfl rfl

theorem resolveSignal_noBetter (hfills : ∀ bar spread overshoot, signal.side.NoBetter
      (stopFillPrice signal.side bar signal.stopLoss ⟨mode, spread, overshoot⟩)
      (stopFillPrice signal.side bar signal.stopLoss ⟨mode', spread, overshoot⟩))
    (drill : DrillDown) (source : String) (overshootPrice : Option ℚ) :
    (resolveSignal signal bars drill source mode overshootPrice).NoBetter
      (resolveSignal signal bars drill source mode' overshootPrice) := by
  unfold resolveSignal
  cases signal.live bars with
  | nil => exact .of_agree rfl rfl rfl
  | cons entryBar later => exact resolveFrom_noBetter hfills drill source _

end

/-- **Conservative slippage is no better than allowing for gaps, which is no better than a fill at the stop.** -/
theorem exit_modes_ordered (signal : SignalSpec) (bars : List ShadowBar) (drill : DrillDown) (source : String)
    (overshootPrice : Option ℚ) :
    let outcome := fun exitMode => resolveSignal signal bars drill source exitMode overshootPrice
    (outcome .conservativeSlippage).NoBetter (outcome .gapAware) ∧ (outcome .gapAware).NoBetter (outcome .atSl) := by
  intro outcome
  constructor
  · exact resolveSignal_noBetter (stopFillPrice_conservative signal.side · signal.stopLoss · ·) drill source _
  · exact resolveSignal_noBetter (stopFillPrice_gapAware signal.side · signal.stopLoss · ·) drill source _

end Jqe
