import Jqe.ReplayMemo
import Jqe.Strategy
/-!
# StratifiedControl — the random controls of `research/sequential_replay.py` that match strata

`build_stratified_random_specs_from_counts` draws bars that a module-level cache remembers as usable for a day,
`_spec_from_index` builds the plan of a bar by checks of its own, and the resolver says where the plan enters.
-/
namespace Jqe
namespace Stratified

open List

/-- A series with its ATRs; `none` is a value that is not finite. -/
structure Series extends LoadedSeries where
  atr : List (Option ℚ)

@[ext] structure Stratum where
  symbol : String
  timeframe : Timeframe
  day : ℤ
  deriving DecidableEq

structure Call where
  series : String → Timeframe → Option Series
  strata : List (Stratum × ℤ)
  keys : (strata.map Prod.fst).Nodup
  seed : ℤ
  horizon : ℤ
  side : OrderSide

structure EligibleKey where
  symbol : String
  timeframe : Timeframe
  horizon : ℤ
  size : ℕ
  first : Option ℤ
  last : Option ℤ
  deriving DecidableEq

structure Lookup where
  symbol : String
  timeframe : Timeframe
  horizon : ℤ
  item : Series

structure Candidate where
  spec : SignalSpec
  split : String

/-- What is drawn for a stratum: `missing` is what its pool is short of. -/
structure Draw where
  stratum : Stratum
  count : ℤ
  missing : ℤ
  drawn : List (ℕ × Option Candidate)

/-- **`random.Random`**: a seeded state, and `sample` as the positions it takes. -/
structure Generator where
  State : Type
  seeded : ℤ → State
  sample : State → ℕ → ℕ → List ℕ × State
  nodup : ∀ s n k, (sample s n k).1.Nodup
  size : ∀ s n k, k ≤ n → (sample s n k).1.length = k
  bound : ∀ s n k, ∀ i ∈ (sample s n k).1, i < n

abbrev Cache := EligibleKey → Option (ℤ → List ℕ)

namespace Series

variable (item : Series)

def size : ℕ := item.arrays.bars.length

/-- ATR and bar of an index, where ATR and spread are finite. -/
def known (i : ℕ) : Option (ℚ × ShadowBar) := do
  let atr ← item.atr.getD i none
  let bar ← item.arrays.bars[i]?
  let _ ← bar.spreadPrice
  return (atr, bar)

/-- An index with enough bars before and after it. -/
def roomy (horizon : ℤ) (i : ℕ) : Bool := 220 ≤ i && (i : ℤ) + max 1 horizon + 1 < item.size

def grouped (horizon : ℤ) (timeframe : Timeframe) (day : ℤ) : List ℕ :=
  (List.range item.size).filter fun i => item.roomy horizon i && (item.known i).any fun x =>
    (x.2.time + timeframe.seconds) / 86400 = day

def levelsAt (side : OrderSide) (x : ℚ × ShadowBar) : Option Strategy.Levels :=
  let plan := Strategy.build (match side with | .buy => .buy | .sell => .sell) [] [] x.2.close (some x.1)
  if plan.isValid then plan.levels else none

/-- **`_spec_from_index`**; the id is the text before its digest. -/
def specFromIndex (i : ℕ) (side : OrderSide) (seed : ℤ) (ordinal : ℕ) (horizon : ℤ) (label : String) :
    Except PyExc (Option Candidate) :=
  if item.roomy horizon i = false then .ok none
  else
    match item.known i with
    | none => .ok none
    | some x =>
      match levelsAt side x with
      | none => .ok none
      | some levels =>
        let signalClose := x.2.time + item.timeframe.seconds
        if h : 0 < levels.stopLoss ∧ 0 < levels.takeProfit then
          if h' : 0 < horizon then
            .ok (some {
              spec := {
                signalId := label ++ ":" ++ toString seed ++ ":" ++ item.symbol ++ ":" ++ item.timeframe.value ++ ":" ++
                  toString signalClose ++ ":" ++ toString ordinal
                symbol := item.symbol
                timeframe := item.timeframe
                side
                signalClose
                stopLoss := levels.stopLoss
                takeProfit := levels.takeProfit
                legacyScore := none
                institutionalScore := none
                horizonBars := horizon.toNat
                levels_pos := h
                horizon_pos := Int.lt_toNat.2 h' }
              split := if signalClose < item.arrays.splitEpoch then "exploration" else "holdout" })
          else .error (.exception "horizon_bars must be positive")
        else .error (.exception "stop and target must be positive")

def resolved (c : Candidate) : ShadowOutcome :=
  resolveSignal c.spec (item.arrays.sliceFor c.spec.signalClose c.spec.horizonBars) noDrill "sequential" .atSl none

end Series

namespace Lookup

variable (l : Lookup)

def key : EligibleKey where
  symbol := l.symbol
  timeframe := l.timeframe
  horizon := l.horizon
  size := l.item.size
  first := l.item.arrays.bars.head?.map (·.time)
  last := l.item.arrays.bars.getLast?.map (·.time)

def grouped : ℤ → List ℕ := l.item.grouped l.horizon l.timeframe

/-- The groups of a series, from the cache or into it. -/
def remember (cache : Cache) : (ℤ → List ℕ) × Cache :=
  match cache l.key with
  | some grouped => (grouped, cache)
  | none => (l.grouped, Function.update cache l.key (some l.grouped))

end Lookup

def gather (cache : Cache) : List Lookup → (Stratum → List ℕ) × Cache
  | [] => (fun _ => [], cache)
  | l :: ls =>
    let (grouped, cache) := l.remember cache
    let (eligible, cache) := gather cache ls
    (fun s => if s.symbol = l.symbol ∧ s.timeframe = l.timeframe then grouped s.day else eligible s, cache)

namespace Call

variable (call : Call)

def lookups : List Lookup :=
  (call.strata.map fun e => (e.1.symbol, e.1.timeframe)).dedup.filterMap fun pair =>
    (call.series pair.1 pair.2).map fun item => ⟨pair.1, pair.2, call.horizon, item⟩

def label : String :=
  match call.side with
  | .buy => "stratified-random-buy"
  | .sell => "stratified-random-sell"

def ordered : List (Stratum × ℤ) :=
  call.strata.insertionSort fun a b => a.1.symbol < b.1.symbol ∨ a.1.symbol = b.1.symbol ∧
    (a.1.timeframe.value < b.1.timeframe.value ∨ a.1.timeframe.value = b.1.timeframe.value ∧ a.1.day ≤ b.1.day)

def specs (item : Series) (xs : List (ℕ × ℕ)) : Except PyExc (List (ℕ × Option Candidate)) :=
  xs.mapM fun x => do
    let candidate ← item.specFromIndex x.1 call.side call.seed x.2 call.horizon call.label
    return (x.1, candidate)

/-- The body of the loop: a draw, the generator and the next ordinal. -/
def drawStratum (gen : Generator) (eligible : Stratum → List ℕ) (state : gen.State × ℕ) (e : Stratum × ℤ) :
    Except PyExc (Draw × gen.State × ℕ) :=
  match call.series e.1.symbol e.1.timeframe with
  | none => .ok (⟨e.1, e.2, e.2, []⟩, state)
  | some item =>
    let pool := eligible e.1
    let take := min e.2 pool.length
    if take < 0 then .error (.exception "Sample larger than population or is negative")
    else do
      let sampled := gen.sample state.1 pool.length take.toNat
      let indices := sampled.1.map fun p => pool.getD p 0
      let drawn ← call.specs item (indices.zipIdx state.2)
      return (⟨e.1, e.2, e.2 - take, drawn⟩, sampled.2, state.2 + indices.length)

def drawAll (gen : Generator) (eligible : Stratum → List ℕ) : gen.State × ℕ → List (Stratum × ℤ) → Except PyExc (List Draw)
  | _, [] => .ok []
  | state, e :: es => do
    let (draw, state) ← call.drawStratum gen eligible state e
    let draws ← drawAll gen eligible state es
    return draw :: draws

/-- **`build_stratified_random_specs_from_counts`**, stratum by stratum, and the cache after it. -/
def build (gen : Generator) (cache : Cache) : Except PyExc (List Draw) × Cache :=
  let (eligible, cache) := gather cache call.lookups
  (call.drawAll gen eligible (gen.seeded call.seed, 0) call.ordered, cache)

end Call

def Draw.generated (d : Draw) : ℕ := d.drawn.countP fun x => x.2.isSome

def Draw.shortfall (d : Draw) : ℤ := d.missing + d.drawn.countP fun x => x.2.isNone

structure Returned where
  result : List Candidate
  requested : ℤ
  generated : ℕ
  shortfall : ℤ

def returned (draws : List Draw) : Returned where
  result := draws.flatMap fun d => d.drawn.filterMap Prod.snd
  requested := (draws.map (·.count)).sum
  generated := (draws.flatMap fun d => d.drawn.filterMap Prod.snd).length
  shortfall := (draws.map (·.shortfall)).sum

def cacheAfter (gen : Generator) : Cache → List Call → Cache
  | cache, [] => cache
  | cache, call :: calls => cacheAfter gen (call.build gen cache).2 calls

/-! ### What a control is for -/

def Call.usable (call : Call) (s : Stratum) : List ℕ :=
  match call.series s.symbol s.timeframe with
  | none => []
  | some item => (item.grouped call.horizon s.timeframe s.day).filter fun i =>
      ((item.known i).bind (Series.levelsAt call.side)).isSome

structure Call.Matched (call : Call) (draws : List Draw) : Prop where
  strata : draws.map (fun d => (d.stratum, d.count)) = call.ordered
  balance : ((returned draws).generated : ℤ) + (returned draws).shortfall = (returned draws).requested
  apart : (draws.flatMap fun d => d.drawn.map fun x => (d.stratum.symbol, d.stratum.timeframe, x.1)).Nodup
  short : ∀ d ∈ draws, 0 < d.shortfall → ((call.usable d.stratum).length : ℤ) < d.count
  entries : ∀ d ∈ draws, ∀ x ∈ d.drawn, ∀ c, x.2 = some c →
    ∃ item, call.series d.stratum.symbol d.stratum.timeframe = some item ∧
      ∃ t, (item.resolved c).entryTime = some t ∧ t / 86400 = d.stratum.day

/-- **A bar that suits its day**: its plan has positive levels, and the next bar opens on the day. -/
structure Series.Suits (item : Series) (side : OrderSide) (day : ℤ) (i : ℕ) : Prop where
  plan : ∃ x levels, item.known i = some x ∧ Series.levelsAt side x = some levels ∧ 0 < levels.stopLoss ∧ 0 < levels.takeProfit
  entry : ∀ x, item.known i = some x →
    ∃ next, item.arrays.bars.find? (fun b => x.2.time + item.timeframe.seconds ≤ b.time) = some next ∧ next.time / 86400 = day

structure Call.Suited (call : Call) : Prop where
  horizon : 0 < call.horizon
  counts : ∀ e ∈ call.strata, 0 ≤ e.2
  bars : ∀ e ∈ call.strata, ∀ item, call.series e.1.symbol e.1.timeframe = some item →
    ∀ i ∈ item.grouped call.horizon e.1.timeframe e.1.day, item.Suits call.side e.1.day i

/-! ### The cache -/

def Lookup.result (l : Lookup) : Except PyExc (ℤ → List ℕ) := .ok l.grouped

theorem Lookup.remember_eq (l : Lookup) (cache : Cache) :
    Memo.call Lookup.key Lookup.result cache l = (.ok (l.remember cache).1, (l.remember cache).2) := by
  unfold Memo.call Lookup.remember Lookup.result
  cases cache l.key <;> rfl

/-- **Two lookups of one key that group alike.** -/
def Lookup.Alike (l l' : Lookup) : Prop := l.key = l'.key → l.grouped = l'.grouped

theorem Lookup.Alike.agree {l l' : Lookup} (h : l.Alike l') : Memo.Agree Lookup.key Lookup.result l l' := by
  intro hkey grouped hgrouped
  cases hgrouped
  exact congrArg Except.ok (h hkey).symm

def freshOf : List Lookup → Stratum → List ℕ
  | [], _ => []
  | l :: ls, s => if s.symbol = l.symbol ∧ s.timeframe = l.timeframe then l.grouped s.day else freshOf ls s

theorem gather_spec {past ls : List Lookup} {cache : Cache} (hfrom : Memo.From Lookup.key Lookup.result past cache)
    (halike : (past ++ ls).Pairwise Lookup.Alike) : (gather cache ls).1 = freshOf ls ∧
      Memo.From Lookup.key Lookup.result (past ++ ls) (gather cache ls).2 := by
  induction ls generalizing past cache with
  | nil => exact ⟨rfl, by rwa [append_nil]⟩
  | cons l ls ih =>
    have hagree : ∀ p ∈ past, Memo.Agree Lookup.key Lookup.result p l := fun p hp =>
      ((pairwise_append.1 halike).2.2 p hp l mem_cons_self).agree
    have hcall := Memo.call_fst hfrom hagree
    have hnext := hfrom.call l
    rw [l.remember_eq] at hcall hnext
    rw [← singleton_append, ← append_assoc] at halike
    obtain ⟨hrest, hlast⟩ := ih hnext halike
    rw [append_assoc, singleton_append] at hlast
    refine ⟨?_, hlast⟩
    funext s
    unfold gather freshOf
    dsimp only at hcall hrest ⊢
    rw [hrest, Except.ok.inj hcall]

theorem cacheAfter_from (gen : Generator) {calls : List Call} {past : List Lookup} {cache : Cache}
    (hfrom : Memo.From Lookup.key Lookup.result past cache)
    (halike : (past ++ calls.flatMap Call.lookups).Pairwise Lookup.Alike) :
    Memo.From Lookup.key Lookup.result (past ++ calls.flatMap Call.lookups) (cacheAfter gen cache calls) := by
  induction calls generalizing past cache with
  | nil => rwa [flatMap_nil, append_nil]
  | cons call calls ih =>
    rw [flatMap_cons, ← append_assoc] at halike ⊢
    exact ih (gather_spec hfrom (pairwise_append.1 halike).1).2 halike

variable {call : Call}

theorem build_eq (gen : Generator) (calls : List Call)
    (halike : (calls.flatMap Call.lookups ++ call.lookups).Pairwise Lookup.Alike) :
    (call.build gen (cacheAfter gen (fun _ => none) calls)).1 =
      call.drawAll gen (freshOf call.lookups) (gen.seeded call.seed, 0) call.ordered := by
  have hempty : Memo.From Lookup.key Lookup.result [] fun _ => none := fun _ _ h => nomatch h
  have hfrom := cacheAfter_from gen hempty (pairwise_append.1 halike).1
  show call.drawAll gen (gather _ call.lookups).1 _ _ = _
  rw [(gather_spec hfrom halike).1]

theorem freshOf_lookups {s : Stratum} {item : Series} (hs : s ∈ call.strata.map Prod.fst)
    (hitem : call.series s.symbol s.timeframe = some item) :
    freshOf call.lookups s = item.grouped call.horizon s.timeframe s.day := by
  have hpair : (s.symbol, s.timeframe) ∈ (call.strata.map fun e => (e.1.symbol, e.1.timeframe)).dedup := by
    obtain ⟨e, he, rfl⟩ := mem_map.1 hs
    exact mem_dedup.2 (mem_map_of_mem he)
  unfold Call.lookups
  generalize (call.strata.map fun e => (e.1.symbol, e.1.timeframe)).dedup = pairs at hpair ⊢
  induction pairs with
  | nil => cases hpair
  | cons pair pairs ih =>
    cases hseries : call.series pair.1 pair.2 with
    | none =>
      rw [filterMap_cons_none (by rw [hseries]; rfl)]
      rcases mem_cons.1 hpair with rfl | hpair
      · exact nomatch hitem.symm.trans hseries
      · exact ih hpair
    | some item' =>
      rw [filterMap_cons_some (by rw [hseries]; rfl), freshOf]
      by_cases heq : s.symbol = pair.1 ∧ s.timeframe = pair.2
      · rw [if_pos heq]
        rw [← heq.1, ← heq.2, hitem] at hseries
        cases hseries
        rw [← heq.2]
        rfl
      · rw [if_neg heq]
        rcases mem_cons.1 hpair with rfl | hpair
        · exact absurd ⟨rfl, rfl⟩ heq
        · exact ih hpair

/-! ### The plan of a bar -/

theorem resolveSignal_entryTime (signal : SignalSpec) (bars : List ShadowBar) (drill : DrillDown) (source : String)
    (exitMode : ExitMode) (overshoot : Option ℚ) :
    (resolveSignal signal bars drill source exitMode overshoot).entryTime = (signal.live bars).head?.map (·.time) := by
  unfold resolveSignal
  cases signal.live bars with
  | nil => rfl
  | cons entryBar later =>
    dsimp only [SignalSpec.resolveFrom]
    split
    · rfl
    · split
      · rfl
      · split
        · rfl
        · rfl
        · rfl
        · split <;> rfl

theorem Series.resolved_entryTime {item : Series} {c : Candidate} {next : ShadowBar}
    (h : item.arrays.bars.find? (fun b => c.spec.signalClose ≤ b.time) = some next) :
    (item.resolved c).entryTime = some next.time := by
  have hle : c.spec.signalClose ≤ next.time := by simpa using find?_some h
  unfold Series.resolved
  rw [resolveSignal_entryTime]
  rw [find?_eq_getElem?_findIdx] at h
  obtain ⟨hlt, hnext⟩ := List.getElem?_eq_some_iff.1 h
  obtain ⟨n, hn⟩ : ∃ n, max 1 c.spec.horizonBars = n + 1 := ⟨max 1 c.spec.horizonBars - 1, by omega⟩
  have hslice : item.arrays.sliceFor c.spec.signalClose c.spec.horizonBars =
      next :: (item.arrays.bars.drop (item.arrays.bars.findIdx (fun b => c.spec.signalClose ≤ b.time) + 1)).take n := by
    unfold SeriesArrays.sliceFor
    dsimp only
    rw [drop_eq_getElem_cons hlt, hnext, hn, take_succ_cons]
  have hsorted : Chronological (item.arrays.sliceFor c.spec.signalClose c.spec.horizonBars) := by
    unfold SeriesArrays.sliceFor
    exact item.arrays.bars_sorted.sublist ((take_sublist _ _).trans (drop_sublist _ _))
  unfold SignalSpec.live
  rw [sortByTime_of_chronological hsorted, hslice, dropWhile_cons_of_neg (by simpa using hle)]
  rfl

theorem Series.Suits.spec {item : Series} {side : OrderSide} {day horizon : ℤ} {i : ℕ} (h : item.Suits side day i)
    (hroomy : item.roomy horizon i = true) (hhorizon : 0 < horizon) (seed : ℤ) (ordinal : ℕ) (label : String) :
    ∃ c, item.specFromIndex i side seed ordinal horizon label = .ok (some c) ∧
      ∃ t, (item.resolved c).entryTime = some t ∧ t / 86400 = day := by
  obtain ⟨x, levels, hknown, hlevels, hpos⟩ := h.plan
  obtain ⟨next, hnext, hday⟩ := h.entry x hknown
  unfold Series.specFromIndex
  rw [hroomy, if_neg Bool.noConfusion, hknown]
  dsimp only
  rw [hlevels]
  dsimp only
  rw [dif_pos hpos, dif_pos hhorizon]
  exact ⟨_, rfl, next.time, Series.resolved_entryTime hnext, hday⟩

theorem Series.Suits.usable {item : Series} {side : OrderSide} {day : ℤ} {i : ℕ} (h : item.Suits side day i) :
    ((item.known i).bind (Series.levelsAt side)).isSome = true := by
  obtain ⟨x, levels, hknown, hlevels, -⟩ := h.plan
  rw [hknown, Option.bind_some, hlevels]
  rfl

/-! ### The draws -/

structure Call.DrawMatched (call : Call) (d : Draw) : Prop where
  balance : (d.generated : ℤ) + d.shortfall = d.count
  nodup : (d.drawn.map Prod.fst).Nodup
  grouped : ∀ x ∈ d.drawn, ∃ item, call.series d.stratum.symbol d.stratum.timeframe = some item ∧
    x.1 ∈ item.grouped call.horizon d.stratum.timeframe d.stratum.day
  short : 0 < d.shortfall → ((call.usable d.stratum).length : ℤ) < d.count
  entries : ∀ x ∈ d.drawn, ∀ c, x.2 = some c →
    ∃ item, call.series d.stratum.symbol d.stratum.timeframe = some item ∧
      ∃ t, (item.resolved c).entryTime = some t ∧ t / 86400 = d.stratum.day

theorem specs_eq (hhorizon : 0 < call.horizon) {item : Series} {day : ℤ} : ∀ {xs : List (ℕ × ℕ)},
    (∀ x ∈ xs, item.roomy call.horizon x.1 = true ∧ item.Suits call.side day x.1) →
      ∃ drawn, call.specs item xs = .ok drawn ∧ drawn.map Prod.fst = xs.map Prod.fst ∧
        ∀ y ∈ drawn, ∃ c, y.2 = some c ∧ ∃ t, (item.resolved c).entryTime = some t ∧ t / 86400 = day
  | [], _ => ⟨[], rfl, rfl, fun _ h => nomatch h⟩
  | x :: xs, h => by
    obtain ⟨hroomy, hsuits⟩ := h x mem_cons_self
    obtain ⟨c, hspec, hentry⟩ := hsuits.spec hroomy hhorizon call.seed x.2 call.label
    obtain ⟨drawn, hrest, hindices, hall⟩ := specs_eq hhorizon fun y hy => h y (mem_cons_of_mem x hy)
    refine ⟨(x.1, some c) :: drawn, ?_, ?_, ?_⟩
    · unfold Call.specs at hrest ⊢
      rw [mapM_cons, hspec, hrest]
      rfl
    · rw [map_cons, map_cons, hindices]
    · intro y hy
      rcases mem_cons.1 hy with rfl | hy
      · exact ⟨c, rfl, hentry⟩
      · exact hall y hy

theorem nodup_positions {pool positions : List ℕ} (hpool : pool.Nodup) (hpositions : positions.Nodup)
    (hbound : ∀ p ∈ positions, p < pool.length) : (positions.map fun p => pool.getD p 0).Nodup ∧
      ∀ i ∈ positions.map fun p => pool.getD p 0, i ∈ pool := by
  have hget : ∀ p ∈ positions, ∀ h : p < pool.length, pool.getD p 0 = pool[p] := fun p _ h => by
    rw [getD_eq_getElem?_getD, getElem?_eq_getElem h, Option.getD_some]
  refine ⟨List.Nodup.map_on (fun p hp q hq heq => ?_) hpositions, fun i hi => ?_⟩
  · rw [hget p hp (hbound p hp), hget q hq (hbound q hq)] at heq
    exact (List.Nodup.getElem_inj_iff hpool).1 heq
  · obtain ⟨p, hp, rfl⟩ := mem_map.1 hi
    rw [hget p hp (hbound p hp)]
    exact getElem_mem _

theorem drawStratum_matched (hsuited : call.Suited) (gen : Generator) (state : gen.State × ℕ)
    {e : Stratum × ℤ} (he : e ∈ call.strata) :
    ∃ d next, call.drawStratum gen (freshOf call.lookups) state e = .ok (d, next) ∧ (d.stratum, d.count) = e ∧
      call.DrawMatched d := by
  have hcount := hsuited.counts e he
  unfold Call.drawStratum
  cases hitem : call.series e.1.symbol e.1.timeframe with
  | none =>
    have husable : call.usable e.1 = [] := by
      unfold Call.usable
      rw [hitem]
    refine ⟨⟨e.1, e.2, e.2, []⟩, state, rfl, rfl, by simp [Draw.generated, Draw.shortfall], nodup_nil,
      fun _ h => absurd h not_mem_nil, fun hshort => ?_, fun _ h => absurd h not_mem_nil⟩
    rw [husable]
    simpa [Draw.shortfall] using hshort
  | some item =>
    have hpool := freshOf_lookups (mem_map_of_mem he) hitem
    generalize freshOf call.lookups e.1 = pool at hpool ⊢
    have hsuits : ∀ i ∈ pool, item.roomy call.horizon i = true ∧ item.Suits call.side e.1.day i := by
      intro i hi
      rw [hpool] at hi
      have hchecked := (mem_filter.1 hi).2
      rw [Bool.and_eq_true] at hchecked
      exact ⟨hchecked.1, hsuited.bars e he item hitem i hi⟩
    have hdistinct : pool.Nodup := hpool ▸ List.nodup_range.filter _
    have husable : (call.usable e.1).length = pool.length := by
      unfold Call.usable
      rw [hitem]
      dsimp only
      rw [← hpool, filter_eq_self.2 fun i hi => (hsuits i hi).2.usable]
    dsimp only
    rw [if_neg (show ¬min e.2 (pool.length : ℤ) < 0 by omega)]
    have hsize := gen.size state.1 pool.length (min e.2 (pool.length : ℤ)).toNat (by omega)
    obtain ⟨hnodup, hmem⟩ := nodup_positions hdistinct (gen.nodup state.1 pool.length (min e.2 (pool.length : ℤ)).toNat)
      (gen.bound state.1 pool.length _)
    generalize gen.sample state.1 pool.length (min e.2 (pool.length : ℤ)).toNat = sampled at hsize hnodup hmem ⊢
    rw [← length_map (f := fun p => pool.getD p 0)] at hsize
    generalize sampled.1.map (fun p => pool.getD p 0) = indices at hsize hnodup hmem ⊢
    have hfirst : (indices.zipIdx state.2).map Prod.fst = indices := zipIdx_map_fst ..
    obtain ⟨drawn, hdrawn, hindices, hall⟩ := specs_eq hsuited.horizon fun x (hx : x ∈ indices.zipIdx state.2) =>
      hsuits x.1 (hmem x.1 (hfirst ▸ mem_map_of_mem hx))
    rw [hfirst] at hindices
    have hlength : drawn.length = indices.length := by rw [← hindices, length_map]
    have hgenerated : drawn.countP (fun x => x.2.isSome) = drawn.length := countP_eq_length.2 fun y hy => by
      obtain ⟨c, hc, -⟩ := hall y hy
      rw [hc]
      rfl
    have hnone : drawn.countP (fun x => x.2.isNone) = 0 := countP_eq_zero.2 fun y hy => by
      obtain ⟨c, hc, -⟩ := hall y hy
      rw [hc]
      exact Bool.noConfusion
    refine ⟨⟨e.1, e.2, e.2 - min e.2 pool.length, drawn⟩, (sampled.2, state.2 + indices.length), ?_, rfl, ?_, ?_,
      fun x hx => ?_, fun hshort => ?_, fun x hx c hc => ?_⟩
    · rw [hdrawn]
      rfl
    · unfold Draw.generated Draw.shortfall
      dsimp only
      rw [hgenerated, hnone]
      omega
    · rwa [hindices]
    · refine ⟨item, hitem, ?_⟩
      rw [← hpool]
      exact hmem x.1 (hindices ▸ mem_map_of_mem hx)
    · unfold Draw.shortfall at hshort
      dsimp only at hshort ⊢
      rw [hnone] at hshort
      rw [husable]
      omega
    · obtain ⟨c', hc', hentry⟩ := hall x hx
      cases hc.symm.trans hc'
      exact ⟨item, hitem, hentry⟩

theorem drawAll_matched (hsuited : call.Suited) (gen : Generator) : ∀ {es : List (Stratum × ℤ)}
    (state : gen.State × ℕ), (∀ e ∈ es, e ∈ call.strata) →
      ∃ draws, call.drawAll gen (freshOf call.lookups) state es = .ok draws ∧
        draws.map (fun d => (d.stratum, d.count)) = es ∧ ∀ d ∈ draws, call.DrawMatched d
  | [], _, _ => ⟨[], rfl, rfl, nofun⟩
  | e :: es, state, hes => by
    obtain ⟨d, next, hdraw, hstratum, hmatched⟩ := drawStratum_matched hsuited gen state (hes e mem_cons_self)
    obtain ⟨draws, hrest, hstrata, hall⟩ := drawAll_matched hsuited gen next fun e' he' => hes e' (mem_cons_of_mem e he')
    refine ⟨d :: draws, ?_, by rw [map_cons, hstratum, hstrata], fun d' hd' => ?_⟩
    · rw [Call.drawAll, hdraw]
      show (do let draws ← call.drawAll gen (freshOf call.lookups) next es; return d :: draws) = _
      rw [hrest]
      rfl
    · rcases mem_cons.1 hd' with rfl | hd'
      · exact hmatched
      · exact hall d' hd'

theorem returned_balance {draws : List Draw} (h : ∀ d ∈ draws, call.DrawMatched d) :
    ((returned draws).generated : ℤ) + (returned draws).shortfall = (returned draws).requested := by
  unfold returned
  induction draws with
  | nil => rfl
  | cons d draws ih =>
    have hd := (h d mem_cons_self).balance
    have hrest := ih fun d' hd' => h d' (mem_cons_of_mem d hd')
    have hlength : (d.drawn.filterMap Prod.snd).length = d.generated := length_filterMap_eq_countP ..
    dsimp only at hrest ⊢
    rw [flatMap_cons, length_append, map_cons, sum_cons, map_cons, sum_cons, hlength]
    push_cast
    linarith

theorem drawn_apart {draws : List Draw} (hmatched : ∀ d ∈ draws, call.DrawMatched d)
    (hstrata : (draws.map Draw.stratum).Nodup) :
    (draws.flatMap fun d => d.drawn.map fun x => (d.stratum.symbol, d.stratum.timeframe, x.1)).Nodup := by
  refine nodup_flatMap.2 ⟨fun d hd => ?_, (pairwise_map.1 hstrata).imp_of_mem fun {d d'} hd hd' hne => ?_⟩
  · have hinj : Function.Injective fun i : ℕ => (d.stratum.symbol, d.stratum.timeframe, i) := fun i j h => by
      simpa using h
    have hnodup := (hmatched d hd).nodup.map hinj
    rwa [map_map] at hnodup
  · intro x hx hx'
    obtain ⟨y, hy, rfl⟩ := mem_map.1 hx
    obtain ⟨y', hy', heq⟩ := mem_map.1 hx'
    simp only [Prod.mk.injEq] at heq
    obtain ⟨hsymbol, htimeframe, hindex⟩ := heq
    obtain ⟨item, hitem, hgrouped⟩ := (hmatched d hd).grouped y hy
    obtain ⟨item', hitem', hgrouped'⟩ := (hmatched d' hd').grouped y' hy'
    rw [hsymbol, htimeframe, hitem, Option.some.injEq] at hitem'
    subst hitem'
    have hday := (mem_filter.1 hgrouped).2
    have hday' := (mem_filter.1 hgrouped').2
    rw [Bool.and_eq_true, Option.any_eq_true] at hday hday'
    obtain ⟨-, b, hb, hday⟩ := hday
    obtain ⟨-, b', hb', hday'⟩ := hday'
    rw [hindex, hb, Option.some.injEq] at hb'
    subst hb'
    rw [htimeframe] at hday'
    exact hne (Stratum.ext hsymbol.symm htimeframe.symm
      ((of_decide_eq_true hday).symm.trans (of_decide_eq_true hday')))

/-- **The controls match their strata**, after any history whose calls group the bars of one cache key alike and whose
bars suit their days. -/
theorem stratified_controls (gen : Generator) (calls : List Call)
    (halike : (calls.flatMap Call.lookups).Pairwise Lookup.Alike) (hsuited : ∀ call ∈ calls, call.Suited) :
    ∀ past call later, calls = past ++ call :: later →
      ∃ draws, (call.build gen (cacheAfter gen (fun _ => none) past)).1 = .ok draws ∧
        (call.build gen fun _ => none).1 = .ok draws ∧ call.Matched draws := by
  rintro past call later rfl
  rw [List.flatMap_append, List.flatMap_cons, ← List.append_assoc] at halike
  have hpast := (List.pairwise_append.1 halike).1
  have hcall := hsuited call (List.mem_append_right _ List.mem_cons_self)
  have hperm : call.ordered.Perm call.strata := List.perm_insertionSort _ _
  obtain ⟨draws, hdraws, hstrata, hmatched⟩ := drawAll_matched hcall gen (gen.seeded call.seed, 0) fun e he => hperm.mem_iff.1 he
  have hnodup : (draws.map Draw.stratum).Nodup := by
    have hfst := congrArg (List.map Prod.fst) hstrata
    rw [List.map_map] at hfst
    exact hfst ▸ (hperm.map Prod.fst).nodup_iff.2 call.keys
  refine ⟨draws, (build_eq gen past hpast).trans hdraws,
    (build_eq gen [] (List.pairwise_append.1 hpast).2.1).trans hdraws, hstrata, returned_balance hmatched, drawn_apart hmatched hnodup, fun d hd => (hmatched d hd).short,
    fun d hd => (hmatched d hd).entries⟩

def firstPositions : Generator where
  State := Unit
  seeded _ := ()
  sample _ n k := (List.range (min k n), ())
  nodup _ _ _ := List.nodup_range
  size _ n k h := by rw [List.length_range, Nat.min_eq_left h]
  bound _ n k i hi := (List.mem_range.1 hi).trans_le (min_le_right k n)

/-- `n` minutes of one price; after minute `last` the market is closed for a day. -/
def gapSeries (last n : ℕ) : Series where
  symbol := "PainX 400"
  timeframe := .m1
  arrays := {
    bars := (List.range n).map fun i : ℕ => ⟨if i ≤ last then 60 * i else 86400 + 60 * i, 100, 100, 100, 100, some 0⟩
    splitEpoch := 0
    bars_sorted := by
      refine List.pairwise_map.2 (List.pairwise_lt_range.imp fun {i j} hij => ?_)
      dsimp only
      split <;> split <;> omega }
  atr := List.replicate n (some 1)

/-- One control for the first day of the series. -/
def gapCall (last n : ℕ) : Call where
  series symbol timeframe := if symbol = "PainX 400" ∧ timeframe = .m1 then some (gapSeries last n) else none
  strata := [(⟨"PainX 400", .m1, 0⟩, 1)]
  keys := List.nodup_singleton _
  seed := 0
  horizon := 1
  side := .buy

theorem minutes_suit : (gapSeries 222 223).Suits .buy 0 220 := by
  have hchecked : ((gapSeries 222 223).known 220).any (fun x =>
      (Series.levelsAt .buy x).any (fun levels => decide (0 < levels.stopLoss ∧ 0 < levels.takeProfit)) &&
        ((gapSeries 222 223).arrays.bars.find? fun b => x.2.time + (gapSeries 222 223).timeframe.seconds ≤ b.time).any
          fun next => decide (next.time / 86400 = 0)) = true := by decide +kernel
  obtain ⟨x, hx, h⟩ := (Option.any_eq_true _ _).1 hchecked
  rw [Bool.and_eq_true] at h
  obtain ⟨levels, hlevels, hpos⟩ := (Option.any_eq_true _ _).1 h.1
  obtain ⟨next, hnext, hday⟩ := (Option.any_eq_true _ _).1 h.2
  refine ⟨⟨x, levels, hx, hlevels, of_decide_eq_true hpos⟩, fun x' hx' => ?_⟩
  cases hx.symm.trans hx'
  exact ⟨next, hnext, of_decide_eq_true hday⟩

/-- One bar is drawn in a day without a pause, also from the cache. -/
theorem stratified_controls_minutes : ∃ draws,
    ((gapCall 222 223).build firstPositions (cacheAfter firstPositions (fun _ => none) [gapCall 222 223])).1 = .ok draws ∧
      ((gapCall 222 223).build firstPositions fun _ => none).1 = .ok draws ∧ (gapCall 222 223).Matched draws ∧
      (returned draws).generated = 1 := by
  have hlookups : (gapCall 222 223).lookups = [⟨"PainX 400", .m1, 1, gapSeries 222 223⟩] := rfl
  have hsuited : (gapCall 222 223).Suited := by
    refine ⟨by decide, by decide, fun e he item hitem i hi => ?_⟩
    obtain rfl := List.mem_singleton.1 he
    cases hitem
    have hone : (gapSeries 222 223).grouped 1 .m1 0 = [220] := by decide +kernel
    obtain rfl := List.mem_singleton.1 (hone ▸ hi : i ∈ [220])
    exact minutes_suit
  obtain ⟨draws, hcached, hfresh, hmatched⟩ := stratified_controls firstPositions [gapCall 222 223, gapCall 222 223] (by
    rw [List.flatMap_cons, List.flatMap_singleton, hlookups]
    exact List.pairwise_pair.2 fun _ => rfl) (by simp [hsuited]) [gapCall 222 223] (gapCall 222 223) [] rfl
  have hdrawn : ((gapCall 222 223).build firstPositions fun _ => none).1.toOption.map (fun ds => (returned ds).generated) =
      some 1 := by decide +kernel
  rw [hfresh] at hdrawn
  exact ⟨draws, hcached, hfresh, hmatched, Option.some.inj hdrawn⟩

/-- The bar after the drawn one opens a day later, and so does the trade of the plan. -/
theorem stratified_next_day : ∃ draws, ((gapCall 220 223).build firstPositions fun _ => none).1 = .ok draws ∧
    ¬(gapCall 220 223).Matched draws := by
  have hwrong : ((gapCall 220 223).build firstPositions fun _ => none).1.toOption.any (fun draws => draws.any fun d =>
      decide (d.stratum = ⟨"PainX 400", .m1, 0⟩) && d.drawn.any fun x => x.2.any fun c =>
        ((gapSeries 220 223).resolved c).entryTime.any fun t => t / 86400 ≠ 0) = true := by
    decide +kernel
  cases hbuild : ((gapCall 220 223).build firstPositions fun _ => none).1 with
  | error e =>
    rw [hbuild] at hwrong
    cases hwrong
  | ok draws =>
    refine ⟨draws, rfl, fun hmatched => ?_⟩
    rw [hbuild] at hwrong
    obtain ⟨d, hd, hwrong⟩ := List.any_eq_true.1 (show draws.any _ = true from hwrong)
    rw [Bool.and_eq_true, decide_eq_true_iff, List.any_eq_true] at hwrong
    obtain ⟨hstratum, x, hx, hwrong⟩ := hwrong
    obtain ⟨c, hc, hwrong⟩ := (Option.any_eq_true _ _).1 hwrong
    obtain ⟨t, ht, hlate⟩ := (Option.any_eq_true _ _).1 hwrong
    obtain ⟨item, hitem, t', ht', hday⟩ := hmatched.entries d hd x hx c hc
    rw [hstratum] at hitem hday
    cases hitem
    rw [ht, Option.some.injEq] at ht'
    rw [ht'] at hlate
    exact of_decide_eq_true hlate hday

end Stratified
end Jqe
