import Jqe.ForwardClock
import Jqe.IsoOrder
import Jqe.Raising
import Jqe.WeltradeSymbols
/-!
# Sampler — the durable counter and plans of the forward sampler (`monitoring/forward_shadow_sampler.py`)

`append_for_closed_bar` reads its cursor, moves it, and every twenty bars reads the latest plan of a side and inserts a new
one, each in a transaction of its own.  A call may end at any of them, and the store is opened again after it.  Moments are in
microseconds; a row's text of a moment is `isoText` of it, and the latest plan is the one whose text sorts last.
-/
namespace Jqe

open List

open WeltradeSymbols (PyUnicode)
open Raising (Triple)

namespace Sampler

variable {I : Type}

/-- `TradePlanBuilder().build` and `is_valid()`, by symbol, intelligence, side and price: the levels of a valid plan. -/
abbrev Planner (I : Type) := String → I → OrderSide → ℚ → Except PyExc (Option (ℚ × ℚ))

/-- **A call of `append_for_closed_bar`**, with what stops it before a transaction takes effect. -/
structure Call (I : Type) where
  observation : ClosedMarketObservation
  inRange : InRange observation.closedAt
  /-- `dict(signal.get("intelligence") or {})` -/
  intelligence : Except PyExc I
  cursorFault : Option PyExc
  advanceFault : Option PyExc
  latestFault : OrderSide → Option PyExc
  insertFault : OrderSide → Option PyExc

/-- The tables `sampler_cursor` and `plans`, and the bars counted so far. -/
structure Store where
  cursor : String → Option (ℕ × ℤ)
  plans : List SignalSpec
  counted : List ClosedMarketObservation

def Store.empty : Store := ⟨fun _ => none, [], []⟩

structure Result where
  plansCreated : ℕ
  skippedOverlap : ℕ
  skippedInvalidPlan : ℕ
  deriving DecidableEq

abbrev Act (α : Type) := EStateM PyExc Store α

/-- A transaction that may be stopped. -/
def faulted : Option PyExc → Act Unit
  | none => pure ()
  | some e => throw e

/-- `interval * DEFAULT_HORIZON_BARS`, in microseconds. -/
def horizonMicros (timeframe : Timeframe) : ℤ := timeframe.seconds * defaultHorizonBars * 1000000

def laterText (best : Option ℤ) (t : ℤ) : Option ℤ :=
  match best with
  | none => some t
  | some b => if (isoText b).toList < (isoText t).toList then some t else some b

/-- `ORDER BY signal_close DESC LIMIT 1`. -/
def lastByText (times : List ℤ) : Option ℤ := times.foldl laterText none

theorem faulted_triple {P : Store → Prop} (fault : Option PyExc) : Triple P (faulted fault) (fun _ => P) P := by
  cases fault with
  | none => exact Triple.returns fun _ h => h
  | some e => exact Triple.raises fun _ h => h

theorem foldl_laterText : ∀ (times : List ℤ) (best : Option ℤ), (∀ t ∈ times, InRange t) → (∀ b, best = some b → InRange b) →
    (times.foldl laterText best = none → best = none ∧ times = []) ∧
    ∀ last, times.foldl laterText best = some last → (∀ b, best = some b → b ≤ last) ∧ ∀ t ∈ times, t ≤ last
  | [], best, _, _ => by
    refine ⟨fun h => ⟨h, rfl⟩, fun last h => ⟨fun b hb => ?_, nofun⟩⟩
    rw [foldl_nil, hb] at h
    exact (Option.some.inj h).le
  | t :: times, best, htimes, hbest => by
    have ht := htimes t mem_cons_self
    have hstep : ∃ b, laterText best t = some b ∧ InRange b ∧ t ≤ b ∧ ∀ b', best = some b' → b' ≤ b := by
      unfold laterText
      cases best with
      | none => exact ⟨t, rfl, ht, le_rfl, nofun⟩
      | some b =>
        have hb := hbest b rfl
        dsimp only
        split
        · refine ⟨t, rfl, ht, le_rfl, fun b' hb' => ?_⟩
          cases hb'
          by_contra hlt
          exact List.lt_asymm (isoText_lt ht hb (not_le.1 hlt)) ‹_›
        · refine ⟨b, rfl, hb, ?_, fun b' hb' => (Option.some.inj hb').ge⟩
          by_contra hlt
          exact ‹¬_› (isoText_lt hb ht (not_le.1 hlt))
    obtain ⟨b, heq, hb, htb, hle⟩ := hstep
    obtain ⟨hnone, hsome⟩ := foldl_laterText times (some b) (fun u hu => htimes u (mem_cons_of_mem _ hu))
      (fun b' hb' => Option.some.inj hb' ▸ hb)
    rw [foldl_cons, heq]
    refine ⟨fun h => (nomatch (hnone h).1), fun last hlast => ?_⟩
    obtain ⟨hbl, hall⟩ := hsome last hlast
    refine ⟨fun b' hb' => (hle b' hb').trans (hbl b rfl), fun u hu => ?_⟩
    rcases mem_cons.1 hu with rfl | hu
    · exact htb.trans (hbl b rfl)
    · exact hall u hu

theorem le_lastByText {times : List ℤ} (h : ∀ t ∈ times, InRange t) :
    (lastByText times = none → times = []) ∧ ∀ last, lastByText times = some last → ∀ t ∈ times, t ≤ last := by
  obtain ⟨hnone, hsome⟩ := foldl_laterText times none h nofun
  exact ⟨fun heq => (hnone heq).2, fun last heq => (hsome last heq).2⟩

def upTo (times : List ℤ) (t : ℤ) : ℕ := (times.filter fun u => u ≤ t).length

def cursorOf (times : List ℤ) : Option (ℕ × ℤ) := times.getLast?.map fun t => (times.length, t)

theorem upTo_eq_length {times : List ℤ} {t : ℤ} (h : ∀ u ∈ times, u ≤ t) : upTo times t = times.length := by
  unfold upTo
  rw [filter_eq_self.2 fun u hu => decide_eq_true (h u hu)]

def Store.planTimes (s : Store) (symbol : String) (timeframe : Timeframe) (side : OrderSide) : List ℤ :=
  (s.plans.filter fun p => p.symbol = symbol ∧ p.timeframe = timeframe ∧ p.side = side).map SignalSpec.signalClose

theorem planTimes_append (s : Store) (spec : SignalSpec) (symbol : String) (timeframe : Timeframe) (side : OrderSide) :
    ({ s with plans := s.plans ++ [spec] } : Store).planTimes symbol timeframe side = s.planTimes symbol timeframe side ++
      if spec.symbol = symbol ∧ spec.timeframe = timeframe ∧ spec.side = side then [spec.signalClose] else [] := by
  unfold Store.planTimes
  rw [filter_append, map_append, filter_singleton]
  by_cases h : spec.symbol = symbol ∧ spec.timeframe = timeframe ∧ spec.side = side
  · rw [if_pos h, decide_eq_true h]
    rfl
  · rw [if_neg h, decide_eq_false h]
    rfl

section

variable [PyUnicode]

def upper (symbol : String) : String := String.ofList (WeltradeSymbols.upper symbol.toList)

def scopeOf (symbol : String) (timeframe : Timeframe) : String := upper symbol ++ "|" ++ timeframe.value

def Store.latestPlanTime (s : Store) (symbol : String) (timeframe : Timeframe) (side : OrderSide) : Option ℤ :=
  lastByText (s.planTimes (upper symbol) timeframe side)

def Store.countedTimes (s : Store) (symbol : String) (timeframe : Timeframe) : List ℤ :=
  (s.counted.filter fun o => scopeOf o.canonicalSymbol o.timeframe = scopeOf symbol timeframe).map
    ClosedMarketObservation.closedAt

def Store.advance (s : Store) (scope : String) (closedCount : ℕ) (o : ClosedMarketObservation) : Store :=
  { s with
    cursor := fun key => if key = scope then some (closedCount, o.closedAt) else s.cursor key
    counted := s.counted ++ [o] }

def overlapEnd (timeframe : Timeframe) (previous : ℤ) : Except PyExc ℤ :=
  if InRange (previous + horizonMicros timeframe) then .ok (previous + horizonMicros timeframe)
  else .error (.exception "date value out of range")

def overlaps (o : ClosedMarketObservation) : Option ℤ → Except PyExc Bool
  | none => .ok false
  | some previous => do
    let stop ← overlapEnd o.timeframe previous
    pure (o.closedAt < stop)

def specOf (o : ClosedMarketObservation) (side : OrderSide) (levels : ℚ × ℚ) : Except PyExc SignalSpec :=
  if h : 0 < levels.1 ∧ 0 < levels.2 then
    .ok (forwardSpec (upper o.canonicalSymbol) (isoText o.closedAt) o.timeframe side o.closedAt ⟨levels.1, levels.2, h⟩)
  else .error (.exception "stop and target must be positive")

def insertPlan (spec : SignalSpec) : Act Bool := do
  let s ← get
  if s.plans.any fun p => p.signalId = spec.signalId then pure false
  else
    set { s with plans := s.plans ++ [spec] }
    pure true

/-- One turn of the loop over the sides. -/
def sampleSide (planner : Planner I) (call : Call I) (intelligence : I) (result : Result) (side : OrderSide) : Act Result := do
  let o := call.observation
  match ← Raising.answered (planner (upper o.canonicalSymbol) intelligence side o.close) with
  | none => pure { result with skippedInvalidPlan := result.skippedInvalidPlan + 1 }
  | some levels =>
    faulted (call.latestFault side)
    let previous := (← get).latestPlanTime (upper o.canonicalSymbol) o.timeframe side
    if ← Raising.answered (overlaps o previous) then pure { result with skippedOverlap := result.skippedOverlap + 1 }
    else
      let spec ← Raising.answered (specOf o side levels)
      faulted (call.insertFault side)
      let changed ← insertPlan spec
      pure { result with plansCreated := result.plansCreated + changed.toNat }

def appendForClosedBar (planner : Planner I) (call : Call I) : Act Result := do
  let o := call.observation
  let scope := scopeOf (upper o.canonicalSymbol) o.timeframe
  faulted call.cursorFault
  let prior := (← get).cursor scope
  if alreadyCounted prior o.closedAt then pure ⟨0, 0, 0⟩
  else
    let closedCount := prior.elim 0 Prod.fst + 1
    faulted call.advanceFault
    modify fun s => s.advance scope closedCount o
    if closedCount % sampleEveryClosedBars ≠ 0 then pure ⟨0, 0, 0⟩
    else
      let intelligence ← Raising.answered call.intelligence
      let result ← sampleSide planner call intelligence ⟨0, 0, 0⟩ .buy
      sampleSide planner call intelligence result .sell

def sampled (planner : Planner I) (calls : List (Call I)) : Store :=
  calls.foldl (fun s call => Raising.left (appendForClosedBar planner call s)) Store.empty

/-! ### What a run of calls keeps -/

structure Store.Spaced (s : Store) : Prop where
  /-- no bar is counted twice -/
  once : ∀ symbol timeframe, (s.countedTimes symbol timeframe).Nodup
  increasing : ∀ symbol timeframe, (s.countedTimes symbol timeframe).Pairwise (· < ·)
  /-- plans of one side are twenty bar lengths apart -/
  apart : ∀ symbol timeframe side, (s.planTimes symbol timeframe side).Pairwise fun a b => a + horizonMicros timeframe ≤ b
  /-- and twenty counted bars -/
  bars_apart : ∀ p ∈ s.plans, ∀ q ∈ s.plans, p.symbol = q.symbol → p.timeframe = q.timeframe → p.signalClose < q.signalClose →
    20 ≤ ((s.countedTimes q.symbol q.timeframe).filter fun t => p.signalClose < t ∧ t ≤ q.signalClose).length

structure Store.Rooted (s : Store) (p : SignalSpec) : Prop where
  symbol : upper p.symbol = p.symbol
  inRange : InRange p.signalClose
  counted : p.signalClose ∈ s.countedTimes p.symbol p.timeframe
  twenty : 20 ∣ upTo (s.countedTimes p.symbol p.timeframe) p.signalClose

structure Store.Sound (s : Store) : Prop where
  cursor : ∀ symbol timeframe, s.cursor (scopeOf symbol timeframe) = cursorOf (s.countedTimes symbol timeframe)
  increasing : ∀ symbol timeframe, (s.countedTimes symbol timeframe).Pairwise (· < ·)
  apart : ∀ symbol timeframe side, (s.planTimes symbol timeframe side).Pairwise fun a b => a + horizonMicros timeframe ≤ b
  rooted : ∀ p ∈ s.plans, s.Rooted p

structure Store.Ready (s : Store) (o : ClosedMarketObservation) : Prop where
  sound : s.Sound
  last : o.closedAt ∈ s.countedTimes o.canonicalSymbol o.timeframe
  top : ∀ t ∈ s.countedTimes o.canonicalSymbol o.timeframe, t ≤ o.closedAt
  twenty : 20 ∣ (s.countedTimes o.canonicalSymbol o.timeframe).length

theorem upper_upper (symbol : String) : upper (upper symbol) = upper symbol := by
  unfold upper
  rw [String.toList_ofList]
  congr 1
  unfold WeltradeSymbols.upper
  rw [flatMap_assoc]
  refine flatMap_congr fun c _ => ?_
  calc (PyUnicode.upperChar c).flatMap PyUnicode.upperChar
      = (PyUnicode.upperChar c).flatMap fun d => [d] := flatMap_congr fun d hd => PyUnicode.upperChar_upper c d hd
    _ = PyUnicode.upperChar c := flatMap_singleton' _

theorem scopeOf_upper (symbol : String) (timeframe : Timeframe) : scopeOf (upper symbol) timeframe = scopeOf symbol timeframe := by
  unfold scopeOf
  rw [upper_upper]

theorem countedTimes_upper (s : Store) (symbol : String) (timeframe : Timeframe) :
    s.countedTimes (upper symbol) timeframe = s.countedTimes symbol timeframe := by
  unfold Store.countedTimes
  rw [scopeOf_upper]

variable {s : Store} {o : ClosedMarketObservation}

theorem Store.Sound.planTimes_inRange (h : s.Sound) (symbol : String) (timeframe : Timeframe) (side : OrderSide) :
    ∀ t ∈ s.planTimes symbol timeframe side, InRange t := by
  intro t ht
  obtain ⟨p, hp, rfl⟩ := mem_map.1 ht
  exact (h.rooted p (mem_filter.1 hp).1).inRange

/-- **A bar that does not overlap the latest plan comes after every plan of the side.** -/
theorem Store.Sound.clear (h : s.Sound) {side : OrderSide}
    (hclear : overlaps o (s.latestPlanTime (upper o.canonicalSymbol) o.timeframe side) = .ok false) :
    ∀ t ∈ s.planTimes (upper o.canonicalSymbol) o.timeframe side, t + horizonMicros o.timeframe ≤ o.closedAt := by
  have htimes := h.planTimes_inRange (upper o.canonicalSymbol) o.timeframe side
  obtain ⟨hnone, hsome⟩ := le_lastByText htimes
  unfold Store.latestPlanTime at hclear
  rw [upper_upper] at hclear
  intro t ht
  cases hlast : lastByText (s.planTimes (upper o.canonicalSymbol) o.timeframe side) with
  | none =>
    rw [hnone hlast] at ht
    cases ht
  | some last =>
    have hle := hsome last hlast t ht
    rw [hlast] at hclear
    obtain ⟨stop, hstop, hlt⟩ := bind_ok hclear
    unfold overlapEnd at hstop
    split at hstop
    · cases hstop
      have hlt' := of_decide_eq_false (Except.ok.inj hlt)
      omega
    · cases hstop

/-! ### One call -/

theorem Store.Ready.insert (h : s.Ready o) (hrange : InRange o.closedAt) {side : OrderSide} {levels : ℚ × ℚ}
    {spec : SignalSpec} (hspec : specOf o side levels = .ok spec)
    (hclear : ∀ t ∈ s.planTimes (upper o.canonicalSymbol) o.timeframe side, t + horizonMicros o.timeframe ≤ o.closedAt) :
    ({ s with plans := s.plans ++ [spec] } : Store).Ready o := by
  have hfields : spec.symbol = upper o.canonicalSymbol ∧ spec.timeframe = o.timeframe ∧ spec.side = side ∧
      spec.signalClose = o.closedAt := by
    unfold specOf at hspec
    split at hspec
    · cases hspec
      exact ⟨rfl, rfl, rfl, rfl⟩
    · cases hspec
  obtain ⟨hsymbol, hframe, hside, hclose⟩ := hfields
  refine ⟨⟨h.sound.cursor, h.sound.increasing, ?_, ?_⟩, h.last, h.top, h.twenty⟩
  · intro symbol timeframe side'
    rw [planTimes_append]
    split
    · obtain ⟨rfl, rfl, rfl⟩ := ‹_›
      refine pairwise_append.2 ⟨h.sound.apart _ _ _, pairwise_singleton _ _, fun a ha b hb => ?_⟩
      rw [mem_singleton.1 hb, hclose]
      rw [hsymbol, hframe, hside] at ha
      rw [hframe]
      exact hclear a ha
    · rw [append_nil]
      exact h.sound.apart _ _ _
  · intro p hp
    rcases mem_append.1 hp with hp | hp
    · obtain ⟨hsymbol', hrange', hcounted, htwenty⟩ := h.sound.rooted p hp
      exact ⟨hsymbol', hrange', hcounted, htwenty⟩
    · rw [mem_singleton.1 hp]
      have htimes : s.countedTimes spec.symbol spec.timeframe = s.countedTimes o.canonicalSymbol o.timeframe := by
        rw [hsymbol, hframe, countedTimes_upper]
      refine ⟨?_, ?_, ?_, ?_⟩
      · rw [hsymbol, upper_upper]
      · rw [hclose]
        exact hrange
      · show spec.signalClose ∈ s.countedTimes spec.symbol spec.timeframe
        rw [htimes, hclose]
        exact h.last
      · show 20 ∣ upTo (s.countedTimes spec.symbol spec.timeframe) spec.signalClose
        rw [htimes, hclose, upTo_eq_length h.top]
        exact h.twenty

theorem sampleSide_triple (planner : Planner I) (call : Call I) (intelligence : I) (result : Result) (side : OrderSide) :
    Triple (fun s => s.Ready call.observation) (sampleSide planner call intelligence result side)
      (fun _ s => s.Ready call.observation) Store.Sound := by
  have herror : ∀ s : Store, s.Ready call.observation → s.Sound := fun s h => h.sound
  unfold sampleSide
  refine Triple.bind (Triple.answers fun s h => ⟨fun _ _ => h, h.sound⟩) fun plan => ?_
  cases plan with
  | none => exact Triple.returns fun s h => h
  | some levels =>
    refine Triple.bind ((faulted_triple _).weaken (fun _ h => h) (fun _ _ h => h) herror) fun _ => ?_
    refine Triple.bind (Triple.reads (T := fun read s => read = s ∧ s.Ready call.observation) fun s h => ⟨rfl, h⟩) fun read => ?_
    refine Triple.bind (Triple.answers (Q := fun held s => s.Ready call.observation ∧ (held = false →
      ∀ t ∈ s.planTimes (upper call.observation.canonicalSymbol) call.observation.timeframe side,
        t + horizonMicros call.observation.timeframe ≤ call.observation.closedAt)) fun s h => ?_) fun held => ?_
    · obtain ⟨rfl, hready⟩ := h
      refine ⟨fun held hheld => ⟨hready, fun hfree => ?_⟩, hready.sound⟩
      exact hready.sound.clear (hfree ▸ hheld)
    · refine Triple.ite (fun _ => Triple.returns fun s h => h.1) fun hfree => ?_
      have hfree' : held = false := Bool.eq_false_iff.2 hfree
      refine Triple.bind (Triple.answers (Q := fun spec s => (s.Ready call.observation ∧ ∀ t ∈ s.planTimes
        (upper call.observation.canonicalSymbol) call.observation.timeframe side, t + horizonMicros call.observation.timeframe ≤
          call.observation.closedAt) ∧ specOf call.observation side levels = .ok spec) fun s h =>
            ⟨fun spec hspec => ⟨⟨h.1, h.2 hfree'⟩, hspec⟩, h.1.sound⟩) fun spec => ?_
      refine Triple.bind ((faulted_triple _).weaken (fun _ h => h) (fun _ _ h => h) fun s h => h.1.1.sound) fun _ => ?_
      refine Triple.bind ?_ fun _ => Triple.returns fun s h => h
      unfold insertPlan
      refine Triple.bind (Triple.reads (T := fun read s => read = s ∧ (s.Ready call.observation ∧ ∀ t ∈ s.planTimes
        (upper call.observation.canonicalSymbol) call.observation.timeframe side, t + horizonMicros call.observation.timeframe ≤
          call.observation.closedAt) ∧ specOf call.observation side levels = .ok spec) fun s h => ⟨rfl, h⟩) fun read => ?_
      refine Triple.ite (fun _ => Triple.returns fun s h => h.2.1.1) fun _ => ?_
      rintro s ⟨rfl, ⟨hready, hclear⟩, hspec⟩
      exact hready.insert call.inRange hspec hclear
theorem countedTimes_advance (s : Store) (o : ClosedMarketObservation) (n : ℕ) (key symbol : String) (timeframe : Timeframe) :
    (s.advance key n o).countedTimes symbol timeframe = s.countedTimes symbol timeframe ++
      if scopeOf o.canonicalSymbol o.timeframe = scopeOf symbol timeframe then [o.closedAt] else [] := by
  unfold Store.countedTimes Store.advance
  dsimp only
  rw [filter_append, map_append, filter_singleton]
  by_cases h : scopeOf o.canonicalSymbol o.timeframe = scopeOf symbol timeframe
  · rw [if_pos h, decide_eq_true h]
    rfl
  · rw [if_neg h, decide_eq_false h]
    rfl

theorem Store.Sound.later (h : s.Sound)
    (hnew : alreadyCounted (s.cursor (scopeOf o.canonicalSymbol o.timeframe)) o.closedAt = false) :
    ∀ t ∈ s.countedTimes o.canonicalSymbol o.timeframe, t < o.closedAt := by
  have hsorted := h.increasing o.canonicalSymbol o.timeframe
  rw [h.cursor] at hnew
  unfold cursorOf at hnew
  rcases eq_nil_or_concat (s.countedTimes o.canonicalSymbol o.timeframe) with hnil | ⟨times, last, heq⟩
  · rw [hnil]
    nofun
  · rw [concat_eq_append] at heq
    rw [heq] at hnew hsorted ⊢
    rw [getLast?_concat] at hnew
    have hlast : last < o.closedAt := not_le.1 (of_decide_eq_false hnew)
    intro t ht
    rcases mem_append.1 ht with ht | ht
    · exact ((pairwise_append.1 hsorted).2.2 t ht last mem_cons_self).trans hlast
    · exact mem_singleton.1 ht ▸ hlast

/-- **A bar is counted**: the plans stay where they stand, and the bar is the last one. -/
theorem Store.Sound.advance (h : s.Sound)
    (hnew : alreadyCounted (s.cursor (scopeOf o.canonicalSymbol o.timeframe)) o.closedAt = false) :
    (s.advance (scopeOf o.canonicalSymbol o.timeframe)
      ((s.cursor (scopeOf o.canonicalSymbol o.timeframe)).elim 0 Prod.fst + 1) o).Sound := by
  have hlater := h.later hnew
  have hcount : (s.cursor (scopeOf o.canonicalSymbol o.timeframe)).elim 0 Prod.fst =
      (s.countedTimes o.canonicalSymbol o.timeframe).length := by
    rw [h.cursor]
    unfold cursorOf
    cases hlast : (s.countedTimes o.canonicalSymbol o.timeframe).getLast? with
    | none =>
      rw [getLast?_eq_none_iff.1 hlast]
      rfl
    | some t => rfl
  have hsame : ∀ {symbol timeframe}, scopeOf o.canonicalSymbol o.timeframe = scopeOf symbol timeframe →
      s.countedTimes symbol timeframe = s.countedTimes o.canonicalSymbol o.timeframe := by
    intro symbol timeframe hscope
    unfold Store.countedTimes
    rw [hscope]
  refine ⟨?_, ?_, h.apart, ?_⟩
  · intro symbol timeframe
    rw [countedTimes_advance]
    by_cases hscope : scopeOf o.canonicalSymbol o.timeframe = scopeOf symbol timeframe
    · rw [if_pos hscope, hsame hscope]
      show (if scopeOf symbol timeframe = scopeOf o.canonicalSymbol o.timeframe then _ else _) = _
      unfold cursorOf
      rw [if_pos hscope.symm, hcount, getLast?_concat, length_append]
      rfl
    · rw [if_neg hscope, append_nil, ← h.cursor]
      exact if_neg fun heq => hscope heq.symm
  · intro symbol timeframe
    rw [countedTimes_advance]
    split
    · rw [hsame ‹_›]
      refine pairwise_append.2 ⟨h.increasing _ _, pairwise_singleton _ _, fun a ha b hb => ?_⟩
      exact mem_singleton.1 hb ▸ hlater a ha
    · rw [append_nil]
      exact h.increasing symbol timeframe
  · intro p hp
    obtain ⟨hsymbol, hrange, hcounted, htwenty⟩ := h.rooted p hp
    refine ⟨hsymbol, hrange, ?_, ?_⟩
    · rw [countedTimes_advance]
      exact mem_append_left _ hcounted
    · rw [countedTimes_advance]
      unfold upTo at htwenty ⊢
      rw [filter_append]
      split
      · have hlt : p.signalClose < o.closedAt := hlater _ (hsame ‹_› ▸ hcounted)
        rw [filter_singleton, decide_eq_false (not_le.2 hlt), cond_false, append_nil]
        exact htwenty
      · rw [filter_nil, append_nil]
        exact htwenty

theorem Store.Sound.ready (h : s.Sound)
    (hnew : alreadyCounted (s.cursor (scopeOf o.canonicalSymbol o.timeframe)) o.closedAt = false)
    (htwenty : ((s.cursor (scopeOf o.canonicalSymbol o.timeframe)).elim 0 Prod.fst + 1) % sampleEveryClosedBars = 0) :
    (s.advance (scopeOf o.canonicalSymbol o.timeframe)
      ((s.cursor (scopeOf o.canonicalSymbol o.timeframe)).elim 0 Prod.fst + 1) o).Ready o := by
  have hsound := h.advance hnew
  have hlater := h.later hnew
  have hcursor := hsound.cursor o.canonicalSymbol o.timeframe
  have hlength := (if_pos rfl).symm.trans hcursor
  unfold cursorOf at hlength
  obtain ⟨t, -, hlength⟩ := Option.map_eq_some_iff.1 hlength.symm
  refine ⟨hsound, ?_, ?_, ?_⟩
  · rw [countedTimes_advance, if_pos rfl]
    exact mem_append_right _ mem_cons_self
  · rw [countedTimes_advance, if_pos rfl]
    intro t ht
    rcases mem_append.1 ht with ht | ht
    · exact (hlater t ht).le
    · exact (mem_singleton.1 ht).le
  · rw [(Prod.mk.inj hlength).1]
    exact Nat.dvd_of_mod_eq_zero htwenty

theorem appendForClosedBar_triple (planner : Planner I) (call : Call I) :
    Triple Store.Sound (appendForClosedBar planner call) (fun _ => Store.Sound) Store.Sound := by
  unfold appendForClosedBar
  dsimp only
  rw [scopeOf_upper]
  refine Triple.bind (faulted_triple _) fun _ => ?_
  refine Triple.bind (Triple.reads (T := fun read s => read = s ∧ s.Sound) fun s h => ⟨rfl, h⟩) fun read => ?_
  refine Triple.ite (fun _ => Triple.returns fun s h => h.2) fun hnew => ?_
  have hnew' := Bool.eq_false_iff.2 hnew
  refine Triple.bind ((faulted_triple (P := fun s => read = s ∧ s.Sound) _).weaken (fun _ h => h) (fun _ _ h => h)
    fun s h => h.2) fun _ => ?_
  refine Triple.bind (Triple.modifies (T := fun _ s => s.Sound ∧
    (((read.cursor (scopeOf call.observation.canonicalSymbol call.observation.timeframe)).elim 0 Prod.fst + 1) %
      sampleEveryClosedBars = 0 → s.Ready call.observation)) fun s h => ?_) fun _ => ?_
  · obtain ⟨rfl, hsound⟩ := h
    exact ⟨hsound.advance hnew', hsound.ready hnew'⟩
  · refine Triple.ite (fun _ => Triple.returns fun s h => h.1) fun htwenty => ?_
    refine Triple.bind (Triple.answers (Q := fun _ s => s.Ready call.observation) fun s h =>
      ⟨fun _ _ => h.2 (not_not.1 htwenty), h.1⟩) fun intelligence => ?_
    refine Triple.bind (sampleSide_triple planner call intelligence _ _) fun result => ?_
    exact (sampleSide_triple planner call intelligence result _).weaken (fun _ h => h) (fun _ _ h => h.sound) fun _ h => h

/-! ### Every run of calls -/

theorem sound_empty : Store.empty.Sound where
  cursor _ _ := rfl
  increasing _ _ := List.Pairwise.nil
  apart _ _ _ := List.Pairwise.nil
  rooted _ hp := nomatch hp

theorem sampled_sound (planner : Planner I) (calls : List (Call I)) : (sampled planner calls).Sound := by
  induction calls using List.reverseRecOn with
  | nil => exact sound_empty
  | append_singleton calls call ih =>
    unfold sampled at ih ⊢
    rw [foldl_append, foldl_cons, foldl_nil]
    obtain ⟨_, s, heq, h⟩ | ⟨_, s, heq, h⟩ := (appendForClosedBar_triple planner call).elim ih
    · rw [heq]
      exact h
    · rw [heq]
      exact h

theorem Store.Sound.bars_apart (h : s.Sound) {p q : SignalSpec} (hp : p ∈ s.plans) (hq : q ∈ s.plans)
    (hsymbol : p.symbol = q.symbol) (hframe : p.timeframe = q.timeframe) (hlt : p.signalClose < q.signalClose) :
    20 ≤ ((s.countedTimes q.symbol q.timeframe).filter fun t => p.signalClose < t ∧ t ≤ q.signalClose).length := by
  obtain ⟨-, -, -, hptwenty⟩ := h.rooted p hp
  obtain ⟨-, -, hcounted, hqtwenty⟩ := h.rooted q hq
  rw [hsymbol, hframe] at hptwenty
  generalize s.countedTimes q.symbol q.timeframe = times at *
  have hsplit : upTo times q.signalClose = upTo times p.signalClose +
      (times.filter fun t => p.signalClose < t ∧ t ≤ q.signalClose).length := by
    unfold upTo
    rw [← countP_eq_length_filter, ← countP_eq_length_filter, ← countP_eq_length_filter]
    clear hptwenty hqtwenty hcounted
    induction times with
    | nil => rfl
    | cons t times ih =>
      rw [countP_cons, countP_cons, countP_cons, ih]
      simp only [decide_eq_true_eq]
      split <;> split <;> split <;> omega
  have hpos : 0 < (times.filter fun t => p.signalClose < t ∧ t ≤ q.signalClose).length :=
    length_pos_of_mem (mem_filter.2 ⟨hcounted, decide_eq_true ⟨hlt, le_rfl⟩⟩)
  obtain ⟨a, ha⟩ := hptwenty
  obtain ⟨b, hb⟩ := hqtwenty
  omega

/-- **The forward sampler counts a bar once, in the order of the closes, and keeps the plans of a side twenty bars apart**:
after every sequence of calls. -/
theorem forward_sampler_spaced (planner : Planner I) (calls : List (Call I)) : (sampled planner calls).Spaced := by
  have h := sampled_sound planner calls
  exact ⟨fun symbol timeframe => (h.increasing symbol timeframe).imp fun hlt => hlt.ne, h.increasing, h.apart,
    fun _ hp _ hq hsymbol hframe hlt => h.bars_apart hp hq hsymbol hframe hlt⟩

end

end Sampler

end Jqe
