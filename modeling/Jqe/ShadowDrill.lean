import Jqe.ShadowExits
/-!
# ShadowDrill — detail bars refine the bar they are the parts of

Where the detail bars of a parent span its range and the spreads are known, a plan to buy is decided on the same parent
with or without them.  They only order two barriers that the parent hits both.
-/
namespace Jqe

open List

/-- **The parts of a bar**: they carry spreads, and their lows and highs have its low and high as minimum and maximum. -/
structure ShadowBar.Spans (parent : ShadowBar) (details : List ShadowBar) : Prop where
  known : ∀ bar ∈ details, bar.spreadPrice.isSome
  low_le : ∀ bar ∈ details, parent.low ≤ bar.low
  low_mem : ∃ bar ∈ details, bar.low = parent.low
  le_high : ∀ bar ∈ details, bar.high ≤ parent.high
  high_mem : ∃ bar ∈ details, bar.high = parent.high

def SignalSpec.decidingParent (signal : SignalSpec) (drill : DrillDown) (fill : StopFill) (horizon : List ShadowBar) :
    Option ShadowBar :=
  horizon.find? fun parent => (signal.resolveParent drill fill parent).isSome

/-- A verdict from the parts of a parent agrees with the one from the parent itself. -/
structure Verdict.Refines (parent : ShadowBar) (parts : List ShadowBar) (exitMode : ExitMode) (fine coarse : Verdict) :
    Prop where
  status : fine.status = coarse.status ∨ coarse.status = .ambiguous ∧ (fine.status = .sl ∨ fine.status = .tp)
  unresolved : coarse.status = .unresolved → fine = coarse
  time : coarse.status ≠ .unresolved → coarse.time = some parent.time ∧ ∃ bar ∈ parts, fine.time = some bar.time
  target : coarse.status = .tp → fine.price = coarse.price
  stop : coarse.status = .sl → exitMode = .atSl → fine.price = coarse.price
  ne_timeout : coarse.status ≠ .timeout

def DrillDown.ofBars (details : List (ℤ × List ShadowBar)) : DrillDown := ⟨details, []⟩

theorem DrillDown.sequence_nil (parent : ShadowBar) : (DrillDown.ofBars []).sequence parent = [parent] := rfl

/-- What a bar decides without ticks, by the barriers it hits. -/
def SignalSpec.barVerdict (signal : SignalSpec) (fill : StopFill) (bar : ShadowBar) : Bool × Bool → Option Verdict
  | (false, false) => none
  | (true, true) => some ⟨.ambiguous, some bar.time, none, some "both barriers hit; tick order unavailable"⟩
  | (true, false) => some ⟨.sl, some bar.time, some (stopFillPrice signal.side bar signal.stopLoss fill), none⟩
  | (false, true) => some ⟨.tp, some bar.time, some signal.takeProfit, none⟩

def SignalSpec.buyHits (signal : SignalSpec) (bar : ShadowBar) : Bool × Bool :=
  (bar.low ≤ signal.stopLoss, signal.takeProfit ≤ bar.high)

section

variable {signal : SignalSpec} {fill : StopFill} {parent : ShadowBar}

theorem triggered_buy (hbuy : signal.side = .buy) {bar : ShadowBar} (hknown : bar.spreadPrice.isSome) :
    triggered signal.side bar signal.stopLoss signal.takeProfit = .ok (signal.buyHits bar) := by
  obtain ⟨spread, hspread⟩ := Option.isSome_iff_exists.1 hknown
  unfold triggered
  rw [hspread, hbuy]
  rfl

theorem resolveBar_noTicks {bar : ShadowBar} {hits : Bool × Bool} {ticksByBar : List (ℤ × List ShadowTick)}
    (hticks : (ticksByBar.lookup bar.time).getD [] = [])
    (htrig : triggered signal.side bar signal.stopLoss signal.takeProfit = .ok hits) :
    resolveBar signal.side signal.stopLoss signal.takeProfit ticksByBar fill bar = signal.barVerdict fill bar hits := by
  obtain ⟨hitStop, hitTarget⟩ := hits
  unfold resolveBar
  rw [htrig]
  cases hitStop <;> cases hitTarget
  · rfl
  · rfl
  · rfl
  · dsimp only
    rw [hticks]
    rfl

theorem ticksOf_noTicks (details : List (ℤ × List ShadowBar)) (parent : ShadowBar) (t : ℤ) :
    (((DrillDown.ofBars details).ticksOf parent).lookup t).getD [] = [] := by
  unfold DrillDown.ticksOf
  generalize (DrillDown.ofBars details).sequence parent = bars
  induction bars with
  | nil => rfl
  | cons bar bars ih =>
    rw [map_cons, lookup_cons]
    split
    · rfl
    · exact ih

theorem Verdict.Refines.refl {v : Verdict} (hv : signal.resolveParent (.ofBars []) fill parent = some v) :
    v.Refines parent [parent] fill.exitMode v := by
  have hbar : resolveBar signal.side signal.stopLoss signal.takeProfit ((DrillDown.ofBars []).ticksOf parent) fill parent
      = some v := by
    unfold SignalSpec.resolveParent resolveSequence at hv
    rwa [DrillDown.sequence_nil, findSome?_singleton] at hv
  refine ⟨.inl rfl, fun _ => rfl, fun hstatus => ?_, fun _ => rfl, fun _ _ => rfl, (resolveBar_paidAt hbar).ne_timeout⟩
  cases htrig : triggered signal.side parent signal.stopLoss signal.takeProfit with
  | error text =>
    unfold resolveBar at hbar
    rw [htrig] at hbar
    cases hbar
    exact absurd rfl hstatus
  | ok hits =>
    rw [resolveBar_noTicks (ticksOf_noTicks [] parent _) htrig] at hbar
    obtain ⟨hitStop, hitTarget⟩ := hits
    cases hitStop <;> cases hitTarget <;> cases hbar <;> exact ⟨rfl, parent, mem_singleton_self parent, rfl⟩

theorem barVerdict_refines {bar : ShadowBar} {parts : List ShadowBar} (hin : bar ∈ parts) {hits hits' : Bool × Bool}
    (hstop : hits.1 = true → hits'.1 = true) (htarget : hits.2 = true → hits'.2 = true) {v : Verdict}
    (hv : signal.barVerdict fill bar hits = some v) :
    ∃ v', signal.barVerdict fill parent hits' = some v' ∧ v.Refines parent parts fill.exitMode v' := by
  obtain ⟨hitStop, hitTarget⟩ := hits
  obtain ⟨hitStop', hitTarget'⟩ := hits'
  cases hitStop with
  | false =>
    cases hitTarget with
    | false => cases hv
    | true =>
      cases htarget rfl
      cases hv
      cases hitStop' with
      | false => exact ⟨_, rfl, .inl rfl, by simp, fun _ => ⟨rfl, bar, hin, rfl⟩, fun _ => rfl, by simp, by simp⟩
      | true =>
        exact ⟨_, rfl, .inr ⟨rfl, .inr rfl⟩, by simp, fun _ => ⟨rfl, bar, hin, rfl⟩, by simp, by simp, by simp⟩
  | true =>
    cases hstop rfl
    cases hitTarget with
    | true =>
      cases htarget rfl
      cases hv
      exact ⟨_, rfl, .inl rfl, by simp, fun _ => ⟨rfl, bar, hin, rfl⟩, fun _ => rfl, by simp, by simp⟩
    | false =>
      cases hv
      cases hitTarget' with
      | true =>
        exact ⟨_, rfl, .inr ⟨rfl, .inl rfl⟩, by simp, fun _ => ⟨rfl, bar, hin, rfl⟩, by simp, by simp, by simp⟩
      | false =>
        have hat : fill.exitMode = .atSl → ∀ b, stopFillPrice signal.side b signal.stopLoss fill = signal.stopLoss :=
          fun hmode b => by
            unfold stopFillPrice
            rw [if_pos hmode]
        refine ⟨_, rfl, .inl rfl, by simp, fun _ => ⟨rfl, bar, hin, rfl⟩, by simp, fun _ hmode => ?_, by simp⟩
        dsimp only
        rw [hat hmode, hat hmode]

/-- **A parent with parts that span it decides where it would without them**, and differently only between two barriers
it hits both. -/
theorem resolveParent_spans (hbuy : signal.side = .buy) {details : List (ℤ × List ShadowBar)} {parts : List ShadowBar}
    (hsequence : (DrillDown.ofBars details).sequence parent = sortByTime parts) (hspans : parent.Spans parts)
    (hknown : parent.spreadPrice.isSome) :
    Option.Rel (Verdict.Refines parent (sortByTime parts) fill.exitMode)
      (signal.resolveParent (.ofBars details) fill parent) (signal.resolveParent (.ofBars []) fill parent) := by
  have hmem : ∀ bar, bar ∈ sortByTime parts ↔ bar ∈ parts := fun bar => (perm_insertionSort _ parts).mem_iff
  have hbar : ∀ bar ∈ sortByTime parts, resolveBar signal.side signal.stopLoss signal.takeProfit
      ((DrillDown.ofBars details).ticksOf parent) fill bar = signal.barVerdict fill bar (signal.buyHits bar) :=
    fun bar hbar => resolveBar_noTicks (ticksOf_noTicks details parent _)
      (triggered_buy hbuy (hspans.known bar ((hmem bar).1 hbar)))
  have hcoarse : signal.resolveParent (.ofBars []) fill parent = signal.barVerdict fill parent (signal.buyHits parent) := by
    unfold SignalSpec.resolveParent resolveSequence
    rw [DrillDown.sequence_nil, findSome?_singleton,
      resolveBar_noTicks (ticksOf_noTicks [] parent _) (triggered_buy hbuy hknown)]
  have hstop : ∀ bar ∈ sortByTime parts, (signal.buyHits bar).1 = true → (signal.buyHits parent).1 = true := by
    intro bar hin hhit
    have hle := hspans.low_le bar ((hmem bar).1 hin)
    exact decide_eq_true (hle.trans (of_decide_eq_true hhit))
  have htarget : ∀ bar ∈ sortByTime parts, (signal.buyHits bar).2 = true → (signal.buyHits parent).2 = true := by
    intro bar hin hhit
    have hle := hspans.le_high bar ((hmem bar).1 hin)
    exact decide_eq_true ((of_decide_eq_true hhit).trans hle)
  rw [hcoarse]
  unfold SignalSpec.resolveParent resolveSequence
  rw [hsequence]
  cases hfind : (sortByTime parts).findSome? (resolveBar signal.side signal.stopLoss signal.takeProfit
      ((DrillDown.ofBars details).ticksOf parent) fill) with
  | none =>
    have hnot : ∀ bar ∈ sortByTime parts, signal.buyHits bar = (false, false) := by
      intro bar hin
      have hnone := findSome?_eq_none_iff.1 hfind bar hin
      rw [hbar bar hin] at hnone
      generalize signal.buyHits bar = hits at hnone
      obtain ⟨hitStop, hitTarget⟩ := hits
      cases hitStop <;> cases hitTarget
      · rfl
      · cases hnone
      · cases hnone
      · cases hnone
    -- the parts that have the parent's low and high touch no barrier, so neither does the parent
    have hparent : signal.buyHits parent = (false, false) := by
      obtain ⟨low, hlow, heqLow⟩ := hspans.low_mem
      obtain ⟨high, hhigh, heqHigh⟩ := hspans.high_mem
      have hnotLow := congrArg Prod.fst (hnot low ((hmem low).2 hlow))
      have hnotHigh := congrArg Prod.snd (hnot high ((hmem high).2 hhigh))
      unfold SignalSpec.buyHits at hnotLow hnotHigh ⊢
      rw [heqLow] at hnotLow
      rw [heqHigh] at hnotHigh
      exact Prod.ext hnotLow hnotHigh
    rw [hparent]
    exact .none
  | some v =>
    obtain ⟨bar, hin, hv⟩ := exists_of_findSome?_eq_some hfind
    rw [hbar bar hin] at hv
    obtain ⟨v', hv', hrefines⟩ := barVerdict_refines hin (hstop bar hin) (htarget bar hin) hv
    rw [hv']
    exact .some hrefines

/-- **Every parent decides alike with or without detail bars**, once those it has span it. -/
theorem resolveParent_refines (hbuy : signal.side = .buy) {details : List (ℤ × List ShadowBar)}
    (hspans : ∀ d ds, details.lookup parent.time = some (d :: ds) → parent.Spans (d :: ds))
    (hknown : ∀ d ds, details.lookup parent.time = some (d :: ds) → parent.spreadPrice.isSome) :
    Option.Rel (Verdict.Refines parent ((DrillDown.ofBars details).sequence parent) fill.exitMode)
      (signal.resolveParent (.ofBars details) fill parent) (signal.resolveParent (.ofBars []) fill parent) := by
  by_cases hparts : ∃ d ds, details.lookup parent.time = some (d :: ds)
  · obtain ⟨d, ds, hlookup⟩ := hparts
    have hsequence : (DrillDown.ofBars details).sequence parent = sortByTime (d :: ds) := by
      unfold DrillDown.sequence DrillDown.ofBars
      rw [hlookup]
    rw [hsequence]
    exact resolveParent_spans hbuy hsequence (hspans d ds hlookup) (hknown d ds hlookup)
  · have hsequence : (DrillDown.ofBars details).sequence parent = [parent] := by
      unfold DrillDown.sequence DrillDown.ofBars
      split
      · rename_i d ds hlookup
        exact absurd ⟨d, ds, hlookup⟩ hparts
      · rfl
    have hsame : signal.resolveParent (.ofBars details) fill parent = signal.resolveParent (.ofBars []) fill parent := by
      unfold SignalSpec.resolveParent DrillDown.ticksOf
      rw [hsequence]
      rfl
    rw [hsequence, hsame]
    cases hv : signal.resolveParent (.ofBars []) fill parent with
    | none => exact .none
    | some v => exact .some (.refl hv)

end

theorem findSome?_rel {α β : Type} {R : α → β → β → Prop} {f g : α → Option β} :
    ∀ {l : List α}, (∀ x ∈ l, Option.Rel (R x) (f x) (g x)) →
      (l.find? fun x => (f x).isSome) = (l.find? fun x => (g x).isSome) ∧
        (l.findSome? f = none ∧ l.findSome? g = none ∨ ∃ x y y', (l.find? fun x => (g x).isSome) = some x ∧
          l.findSome? f = some y ∧ l.findSome? g = some y' ∧ R x y y')
  | [], _ => ⟨rfl, .inl ⟨rfl, rfl⟩⟩
  | x :: l, h => by
    have ih := findSome?_rel fun y hy => h y (mem_cons_of_mem x hy)
    have hx := h x mem_cons_self
    rw [find?_cons, find?_cons, findSome?_cons, findSome?_cons]
    cases hf : f x with
    | none =>
      cases hg : g x with
      | none => exact ih
      | some y' =>
        rw [hf, hg] at hx
        cases hx
    | some y =>
      cases hg : g x with
      | none =>
        rw [hf, hg] at hx
        cases hx
      | some y' =>
        rw [hf, hg] at hx
        cases hx with
        | some hR => exact ⟨rfl, .inr ⟨x, y, y', rfl, rfl, rfl, hR⟩⟩

/-! ### The outcome -/

/-- **An outcome from detail bars agrees with the one without them**: only a parent that hits both barriers is resolved
otherwise. -/
structure ShadowOutcome.Refines (fine coarse : ShadowOutcome) : Prop where
  entry : fine.entryTime = coarse.entryTime ∧ fine.entryPrice = coarse.entryPrice ∧
    fine.spreadCostPrice = coarse.spreadCostPrice
  status : fine.status = coarse.status ∨ coarse.status = .ambiguous ∧ (fine.status = .sl ∨ fine.status = .tp)
  undecided : coarse.status = .timeout ∨ coarse.status = .unresolved → fine = coarse
  target : coarse.status = .tp → fine.outcomePrice = coarse.outcomePrice ∧ fine.netR = coarse.netR
  stop : coarse.status = .sl → coarse.exitMode = .atSl →
    fine.outcomePrice = coarse.outcomePrice ∧ fine.netR = coarse.netR

theorem ShadowOutcome.Refines.refl (outcome : ShadowOutcome) : outcome.Refines outcome :=
  ⟨⟨rfl, rfl, rfl⟩, .inl rfl, fun _ => rfl, fun _ => ⟨rfl, rfl⟩, fun _ _ => ⟨rfl, rfl⟩⟩

/-- **Outcomes with and without detail bars agree on a horizon**: a barrier is decided on one parent, at its time without
them and at that of one of its parts with them. -/
structure SignalSpec.DrillAgrees (signal : SignalSpec) (details : List (ℤ × List ShadowBar)) (horizon : List ShadowBar)
    (fine coarse : ShadowOutcome) : Prop where
  refines : fine.Refines coarse
  parent : ∀ fill, signal.decidingParent (.ofBars details) fill horizon = signal.decidingParent (.ofBars []) fill horizon
  time : coarse.status = .tp ∨ coarse.status = .sl ∨ coarse.status = .ambiguous →
    ∃ parent, (∀ fill, signal.decidingParent (.ofBars []) fill horizon = some parent) ∧
      coarse.outcomeTime = some parent.time ∧
      ∃ bar ∈ (DrillDown.ofBars details).sequence parent, fine.outcomeTime = some bar.time

section

variable {signal : SignalSpec} {details : List (ℤ × List ShadowBar)} {entryBar : ShadowBar} {bars : List ShadowBar}

theorem decidingParent_fill (drill : DrillDown) (fill fill' : StopFill) (horizon : List ShadowBar) :
    signal.decidingParent drill fill horizon = signal.decidingParent drill fill' horizon := by
  have hsome : ∀ parent, (signal.resolveParent drill fill parent).isSome =
      (signal.resolveParent drill fill' parent).isSome := by
    intro parent
    have hnone := (resolveParent_eq_none signal drill fill parent).trans
      (resolveParent_eq_none signal drill fill' parent).symm
    rw [Bool.eq_iff_iff, Option.isSome_iff_ne_none, Option.isSome_iff_ne_none, ne_eq, ne_eq, hnone]
  unfold SignalSpec.decidingParent
  simp only [hsome]

theorem resolveFrom_refines (hparents : ∀ fill, ∀ parent ∈ bars.take signal.horizonBars,
      Option.Rel (Verdict.Refines parent ((DrillDown.ofBars details).sequence parent) fill.exitMode)
        (signal.resolveParent (.ofBars details) fill parent) (signal.resolveParent (.ofBars []) fill parent))
    (source : String) (exitMode : ExitMode) (overshoot : ℚ) :
    signal.DrillAgrees details (bars.take signal.horizonBars)
      (signal.resolveFrom (.ofBars details) source exitMode overshoot entryBar bars)
      (signal.resolveFrom (.ofBars []) source exitMode overshoot entryBar bars) := by
  have hparent := fun fill => (findSome?_rel (hparents fill)).1
  have hsame : ∀ outcome : ShadowOutcome,
      ¬(outcome.status = .tp ∨ outcome.status = .sl ∨ outcome.status = .ambiguous) →
        signal.DrillAgrees details (bars.take signal.horizonBars) outcome outcome :=
    fun outcome hnot => ⟨.refl outcome, hparent, fun h => absurd h hnot⟩
  unfold SignalSpec.resolveFrom
  cases hspread : entryBar.spreadPrice with
  | none => exact hsame _ (by simp [SignalSpec.outcome])
  | some spread =>
    dsimp only
    by_cases hrisk : signal.riskAt (signal.entryAt entryBar spread) ≤ 0
    · rw [if_pos hrisk, if_pos hrisk]
      exact hsame _ (by simp [SignalSpec.outcome])
    rw [if_neg hrisk, if_neg hrisk]
    rcases (findSome?_rel (hparents ⟨exitMode, spread, overshoot⟩)).2 with ⟨hfine, hcoarse⟩ | hdecided
    · rw [hfine, hcoarse]
      dsimp only
      cases ((bars.take signal.horizonBars).getLast?.getD entryBar).spreadPrice with
      | none => exact hsame _ (by simp [SignalSpec.outcome])
      | some lastSpread => exact hsame _ (by simp)
    · obtain ⟨parent, v, v', hfind, hfine, hcoarse, hrefines⟩ := hdecided
      have hfills : ∀ fill, signal.decidingParent (.ofBars []) fill (bars.take signal.horizonBars) = some parent :=
        fun fill => (decidingParent_fill _ _ _ _).trans hfind
      rw [hfine, hcoarse]
      obtain ⟨status, time, price, detail⟩ := v
      obtain ⟨status', time', price', detail'⟩ := v'
      obtain ⟨hstatus, hunresolved, htime, htarget, hstop, htimeout⟩ := hrefines
      dsimp only at hstatus hunresolved htime htarget hstop htimeout
      -- a barrier without the parts is decided on the one parent that is found
      have hdecides (hnot : status' ≠ .unresolved) := And.intro hfills (htime hnot)
      cases status' with
      | timeout => exact absurd rfl htimeout
      | unresolved =>
        cases hunresolved rfl
        exact hsame _ (by simp [SignalSpec.outcome])
      | tp =>
        have hfine : status = .tp := by simpa using hstatus
        subst hfine
        cases htarget rfl
        exact ⟨⟨⟨rfl, rfl, rfl⟩, .inl rfl, by simp, fun _ => ⟨rfl, rfl⟩, by simp⟩, hparent,
          fun _ => ⟨parent, hdecides (by simp)⟩⟩
      | sl =>
        have hfine : status = .sl := by simpa using hstatus
        subst hfine
        refine ⟨⟨⟨rfl, rfl, rfl⟩, .inl rfl, by simp, by simp, fun _ hmode => ?_⟩, hparent,
          fun _ => ⟨parent, hdecides (by simp)⟩⟩
        cases hstop rfl hmode
        exact ⟨rfl, rfl⟩
      | ambiguous =>
        have hfine : status = .ambiguous ∨ status = .sl ∨ status = .tp := hstatus.imp_right And.right
        have hagrees : status = .ambiguous ∨ (ShadowStatus.ambiguous = .ambiguous ∧ (status = .sl ∨ status = .tp)) :=
          hfine.imp_right (And.intro rfl)
        rcases hfine with rfl | rfl | rfl <;>
          exact ⟨⟨⟨rfl, rfl, rfl⟩, hagrees, by simp, by simp, by simp⟩, hparent, fun _ => ⟨parent, hdecides (by simp)⟩⟩

end

/-- **Detail bars refine their parents**: for a plan to buy, where the details of every parent span it and the parent itself
carries a spread, the outcome with them agrees with the one without. -/
theorem drill_down_refines (signal : SignalSpec) (hbuy : signal.side = .buy) (bars : List ShadowBar)
    (details : List (ℤ × List ShadowBar))
    (hspans : ∀ parent ∈ bars, ∀ d ds, details.lookup parent.time = some (d :: ds) → parent.Spans (d :: ds))
    (hknown : ∀ parent ∈ bars, ∀ d ds, details.lookup parent.time = some (d :: ds) → parent.spreadPrice.isSome)
    (source : String) (exitMode : ExitMode) (overshootPrice : Option ℚ) :
    signal.DrillAgrees details ((signal.live bars).take signal.horizonBars)
      (resolveSignal signal bars (.ofBars details) source exitMode overshootPrice)
      (resolveSignal signal bars (.ofBars []) source exitMode overshootPrice) := by
  have hlive : ∀ parent ∈ (signal.live bars).take signal.horizonBars, parent ∈ bars := fun parent hparent =>
    (List.perm_insertionSort _ bars).mem_iff.1 ((List.dropWhile_sublist _).subset (List.mem_of_mem_take hparent))
  have hparents : ∀ fill, ∀ parent ∈ (signal.live bars).take signal.horizonBars,
      Option.Rel (Verdict.Refines parent ((DrillDown.ofBars details).sequence parent) fill.exitMode)
        (signal.resolveParent (.ofBars details) fill parent) (signal.resolveParent (.ofBars []) fill parent) :=
    fun fill parent hparent =>
      resolveParent_refines hbuy (hspans parent (hlive parent hparent)) (hknown parent (hlive parent hparent))
  unfold resolveSignal
  cases h : signal.live bars with
  | nil =>
    rw [List.take_nil]
    exact ⟨.refl _, fun _ => rfl, by simp [SignalSpec.outcome]⟩
  | cons entryBar later =>
    rw [h] at hparents
    exact resolveFrom_refines hparents source exitMode _

def hiddenBar (spreadPrice : Option ℚ) : ShadowBar := ⟨120, 100, 101, 98, 98, spreadPrice⟩

def hiddenParts : List ShadowBar := [⟨120, 100, 101, 100, 100, some (1 / 10)⟩, ⟨150, 98, 99, 98, 98, some (1 / 10)⟩]

theorem hiddenParts_span (spreadPrice : Option ℚ) : (hiddenBar spreadPrice).Spans hiddenParts := by
  constructor <;> simp [hiddenBar, hiddenParts] <;> norm_num

/-- Detail bars resolve a parent without a spread; elsewhere they move the moment and the fill of a stop. -/
theorem drill_down_differs :
    let plan := fun details bar exitMode =>
      resolveSignal twoBarPlan [quietBar 60, bar] (.ofBars details) "replay" exitMode none
    let parts := [(120, hiddenParts)]
    ((∀ spread, (hiddenBar spread).Spans hiddenParts) ∧ (plan [] (hiddenBar none) .atSl).status = .unresolved ∧
        (plan parts (hiddenBar none) .atSl).status = .sl) ∧
      (plan [] (hiddenBar (some (1 / 10))) .gapAware).status = .sl ∧
      (plan parts (hiddenBar (some (1 / 10))) .gapAware).status = .sl ∧
      (plan [] (hiddenBar (some (1 / 10))) .gapAware).outcomeTime = some 120 ∧
      (plan parts (hiddenBar (some (1 / 10))) .gapAware).outcomeTime = some 150 ∧
      (plan [] (hiddenBar (some (1 / 10))) .gapAware).outcomePrice = some 99 ∧
      (plan parts (hiddenBar (some (1 / 10))) .gapAware).outcomePrice = some 98 := by
  refine ⟨⟨hiddenParts_span, ?_⟩, ?_⟩
  · decide +kernel
  · decide +kernel

theorem drill_down_refines_halves : twoBarPlan.DrillAgrees [(120, hiddenParts)]
    ((twoBarPlan.live [quietBar 60, hiddenBar (some (1 / 10))]).take twoBarPlan.horizonBars)
    (resolveSignal twoBarPlan [quietBar 60, hiddenBar (some (1 / 10))] (.ofBars [(120, hiddenParts)]) "replay" .atSl none)
    (resolveSignal twoBarPlan [quietBar 60, hiddenBar (some (1 / 10))] (.ofBars []) "replay" .atSl none) := by
  refine drill_down_refines twoBarPlan rfl _ _ (fun parent hparent d ds hlookup => ?_)
    (fun parent hparent d ds hlookup => ?_) "replay" .atSl none
  · rcases List.mem_pair.1 hparent with rfl | rfl
    · cases hlookup
    · cases hlookup
      exact hiddenParts_span _
  · rcases List.mem_pair.1 hparent with rfl | rfl
    · cases hlookup
    · rfl

end Jqe
