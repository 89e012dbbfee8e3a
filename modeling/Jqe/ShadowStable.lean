import Jqe.ShadowOutcomes
/-!
# ShadowStable — which outcomes stay as a series grows

An outcome is final when the plan is not entered, when a bar of the horizon touches a barrier, or when the whole horizon
is there.  A timeout on a shorter horizon is not: a later bar changes it.
-/
namespace Jqe

open List

def Chronological (bars : List ShadowBar) : Prop := bars.Pairwise fun a b => a.time ≤ b.time

variable {bars : List ShadowBar} {entryBar : ShadowBar} {drill : DrillDown}

theorem sortByTime_of_chronological (h : Chronological bars) : sortByTime bars = bars :=
  List.Pairwise.insertionSort_eq h

theorem SignalSpec.live_eq (h : Chronological bars) (signal : SignalSpec) :
    signal.live bars = bars.dropWhile fun bar => bar.time < signal.signalClose := by
  unfold SignalSpec.live
  rw [sortByTime_of_chronological h]

theorem Chronological.append {later : List ShadowBar} (h : Chronological bars) (h' : Chronological later)
    (hlater : ∀ b ∈ bars, ∀ c ∈ later, b.time < c.time) : Chronological (bars ++ later) :=
  pairwise_append.2 ⟨h, h', fun b hb c hc => (hlater b hb c hc).le⟩

variable {signal : SignalSpec}

theorem SignalSpec.live_append {later : List ShadowBar} (hbars : Chronological bars)
    (happend : Chronological (bars ++ later)) {rest : List ShadowBar} (hlive : signal.live bars = entryBar :: rest) :
    signal.live (bars ++ later) = entryBar :: (rest ++ later) := by
  rw [SignalSpec.live_eq hbars] at hlive
  rw [SignalSpec.live_eq happend, dropWhile_append, hlive, isEmpty_cons, if_neg Bool.false_ne_true,
    cons_append]

/-- A bar that ends the search of `_resolve_sequence`: it hits a barrier, or has no spread. -/
def SignalSpec.Touches (signal : SignalSpec) (bar : ShadowBar) : Prop :=
  triggered signal.side bar signal.stopLoss signal.takeProfit ≠ .ok (false, false)

def SignalSpec.touches (signal : SignalSpec) (bar : ShadowBar) : Bool :=
  match triggered signal.side bar signal.stopLoss signal.takeProfit with
  | .ok (false, false) => false
  | _ => true

theorem SignalSpec.touches_iff (signal : SignalSpec) (bar : ShadowBar) : signal.touches bar = true ↔ signal.Touches bar := by
  unfold SignalSpec.touches SignalSpec.Touches
  split
  · rename_i h
    simp [h]
  · rename_i h
    simpa using h

theorem resolveBar_eq_none (signal : SignalSpec) (ticksByBar : List (ℤ × List ShadowTick)) (fill : StopFill)
    (bar : ShadowBar) :
    resolveBar signal.side signal.stopLoss signal.takeProfit ticksByBar fill bar = none ↔ ¬signal.Touches bar := by
  unfold resolveBar SignalSpec.Touches
  cases h : triggered signal.side bar signal.stopLoss signal.takeProfit with
  | error text => simp
  | ok hits =>
    obtain ⟨hitStop, hitTarget⟩ := hits
    cases hitStop <;> cases hitTarget <;> simp
    split <;> simp

theorem resolveParent_eq_none (signal : SignalSpec) (drill : DrillDown) (fill : StopFill) (parent : ShadowBar) :
    signal.resolveParent drill fill parent = none ↔ ∀ bar ∈ drill.sequence parent, ¬signal.Touches bar := by
  unfold SignalSpec.resolveParent resolveSequence
  rw [findSome?_eq_none_iff]
  exact forall₂_congr fun bar _ => resolveBar_eq_none signal _ fill bar

/-- **When the outcome on some bars is final**: if the plan is entered at a valid stop, a bar of the horizon touches a
barrier, or `horizon_bars` bars from the entry on are there. -/
def SignalSpec.Final (signal : SignalSpec) (drill : DrillDown) (bars : List ShadowBar) : Prop :=
  ∀ entryBar later spread, signal.live bars = entryBar :: later → entryBar.spreadPrice = some spread →
    0 < signal.riskAt (signal.entryAt entryBar spread) →
    (∃ parent ∈ (entryBar :: later).take signal.horizonBars, ∃ bar ∈ drill.sequence parent, signal.Touches bar) ∨
      signal.horizonBars ≤ (entryBar :: later).length

/-- The later outcome agrees with a resolved one. -/
def ShadowOutcome.Kept (before after : ShadowOutcome) : Prop :=
  before.status ≠ .unresolved →
    after.status = before.status ∧ after.outcomeTime = before.outcomeTime ∧ after.outcomePrice = before.outcomePrice ∧
      after.netR = before.netR

theorem ShadowOutcome.Kept.of_eq {before after : ShadowOutcome} (h : after = before) : before.Kept after := by
  subst h
  exact fun _ => ⟨rfl, rfl, rfl, rfl⟩

/-! ### A final outcome stays -/

theorem resolveFrom_append
    (h : ∀ spread, entryBar.spreadPrice = some spread → 0 < signal.riskAt (signal.entryAt entryBar spread) →
      (∃ parent ∈ bars.take signal.horizonBars, ∃ bar ∈ drill.sequence parent, signal.Touches bar) ∨
        signal.horizonBars ≤ bars.length) (source : String) (exitMode : ExitMode) (overshoot : ℚ)
    (later : List ShadowBar) :
    signal.resolveFrom drill source exitMode overshoot entryBar (bars ++ later)
      = signal.resolveFrom drill source exitMode overshoot entryBar bars := by
  unfold SignalSpec.resolveFrom
  cases hspread : entryBar.spreadPrice with
  | none => rfl
  | some spread =>
    dsimp only
    by_cases hrisk : signal.riskAt (signal.entryAt entryBar spread) ≤ 0
    · rw [if_pos hrisk, if_pos hrisk]
    · rw [if_neg hrisk, if_neg hrisk, take_append]
      rcases h spread hspread (not_le.1 hrisk) with ⟨parent, hparent, bar, hbar, htouch⟩ | hlen
      · have hsome : ((bars.take signal.horizonBars).findSome?
            (signal.resolveParent drill ⟨exitMode, spread, overshoot⟩)) ≠ none := by
          intro hnone
          have hparent_none := findSome?_eq_none_iff.1 hnone parent hparent
          exact (resolveParent_eq_none signal drill _ parent).1 hparent_none bar hbar htouch
        obtain ⟨verdict, hverdict⟩ := Option.ne_none_iff_exists'.1 hsome
        rw [findSome?_append, hverdict, Option.some_or]
        obtain ⟨status, time, price, detail⟩ := verdict
        cases status <;> rfl
      · rw [Nat.sub_eq_zero_of_le hlen, take_zero, append_nil]

theorem resolveSignal_append {later : List ShadowBar} (hbars : Chronological bars)
    (happend : Chronological (bars ++ later)) (hentered : signal.live bars ≠ []) (hfinal : signal.Final drill bars)
    (source : String) (exitMode : ExitMode) (overshoot : Option ℚ) :
    resolveSignal signal (bars ++ later) drill source exitMode overshoot
      = resolveSignal signal bars drill source exitMode overshoot := by
  obtain ⟨entryBar, rest, hlive⟩ := exists_cons_of_ne_nil hentered
  have hlive' := SignalSpec.live_append hbars happend hlive
  unfold resolveSignal
  rw [hlive, hlive']
  exact resolveFrom_append (fun spread hspread hrisk => hfinal entryBar rest spread hlive hspread hrisk) source exitMode
    _ later

/-! ### A timeout on a short horizon does not -/

theorem exists_later : ∀ l : List ℤ, ∃ t, ∀ x ∈ l, x < t
  | [] => ⟨0, fun _ hx => absurd hx not_mem_nil⟩
  | a :: l => by
    obtain ⟨t, ht⟩ := exists_later l
    refine ⟨max (a + 1) t, fun x hx => ?_⟩
    rcases mem_cons.1 hx with rfl | hx
    · omega
    · have hlt := ht x hx
      omega

def SignalSpec.stopBar (signal : SignalSpec) (t : ℤ) : ShadowBar where
  time := t
  open_ := signal.stopLoss
  high := signal.stopLoss
  low := signal.stopLoss
  close := signal.stopLoss
  spreadPrice := some 0

theorem resolveParent_stopBar (signal : SignalSpec) (fill : StopFill) {t : ℤ} (ht : drill.detailBars.lookup t = none) :
    ∃ verdict, signal.resolveParent drill fill (signal.stopBar t) = some verdict ∧ verdict.status ≠ .timeout := by
  have hsequence : drill.sequence (signal.stopBar t) = [signal.stopBar t] := by
    unfold DrillDown.sequence
    rw [show (signal.stopBar t).time = t from rfl, ht]
  obtain ⟨hitTarget, hhit⟩ : ∃ hitTarget,
      triggered signal.side (signal.stopBar t) signal.stopLoss signal.takeProfit = .ok (true, hitTarget) := by
    unfold triggered SignalSpec.stopBar
    cases signal.side <;> simp
  have hticks : ∀ (ticks : List ShadowTick) (verdict : Verdict),
      resolveTicks signal.side signal.stopLoss signal.takeProfit fill (signal.stopBar t) ticks = some verdict →
        verdict.status ≠ .timeout := by
    intro ticks
    induction ticks with
    | nil => intro verdict h; cases h
    | cons tick ticks ih =>
      intro verdict h
      unfold resolveTicks at h
      split at h
      · cases h; simp
      · cases h; simp
      · cases h; simp
      · cases h; simp
      · exact ih verdict h
  unfold SignalSpec.resolveParent resolveSequence
  rw [hsequence, findSome?_cons]
  unfold resolveBar
  rw [hhit]
  cases hitTarget with
  | false => exact ⟨_, rfl, by simp⟩
  | true =>
    dsimp only
    split
    · rename_i verdict hverdict
      split at hverdict
      · rename_i found hfound
        cases hverdict
        exact ⟨_, rfl, hticks _ _ hfound⟩
      · cases hverdict
        exact ⟨_, rfl, by simp⟩
    · rename_i hnone
      split at hnone <;> cases hnone

theorem resolveFrom_timeout {spread : ℚ} (hspread : entryBar.spreadPrice = some spread)
    (hrisk : 0 < signal.riskAt (signal.entryAt entryBar spread)) (hne : bars ≠ [])
    (hspreads : ∀ b ∈ bars, b.spreadPrice.isSome) (hlen : bars.length ≤ signal.horizonBars)
    (hnone : ∀ parent ∈ bars, ∀ bar ∈ drill.sequence parent, ¬signal.Touches bar) (source : String)
    (exitMode : ExitMode) (overshoot : ℚ) :
    (signal.resolveFrom drill source exitMode overshoot entryBar bars).status = .timeout := by
  have hfind : bars.findSome? (signal.resolveParent drill ⟨exitMode, spread, overshoot⟩) = none :=
    findSome?_eq_none_iff.2 fun parent hparent =>
      (resolveParent_eq_none signal drill _ parent).2 (hnone parent hparent)
  have hlast : bars.getLast?.getD entryBar = bars.getLast hne := by
    rw [getLast?_eq_some_getLast hne, Option.getD_some]
  obtain ⟨lastSpread, hlastSpread⟩ := Option.isSome_iff_exists.1 (hspreads _ (getLast_mem hne))
  unfold SignalSpec.resolveFrom
  rw [hspread]
  dsimp only
  rw [if_neg (not_le.2 hrisk), take_of_length_le hlen, hfind]
  dsimp only
  rw [hlast, hlastSpread]

theorem resolveFrom_decided {spread : ℚ} (hspread : entryBar.spreadPrice = some spread)
    (hrisk : 0 < signal.riskAt (signal.entryAt entryBar spread)) {source : String} {exitMode : ExitMode} {overshoot : ℚ}
    {verdict : Verdict}
    (hfind : (bars.take signal.horizonBars).findSome? (signal.resolveParent drill ⟨exitMode, spread, overshoot⟩)
      = some verdict) : (signal.resolveFrom drill source exitMode overshoot entryBar bars).status = verdict.status := by
  unfold SignalSpec.resolveFrom
  rw [hspread]
  dsimp only
  rw [if_neg (not_le.2 hrisk), hfind]
  obtain ⟨status, time, price, detail⟩ := verdict
  cases status <;> rfl

/-- **What `resolve_signal` returns stays as later bars come in, exactly when it is final.** -/
theorem outcome_stable_iff (signal : SignalSpec) (drill : DrillDown) (source : String) (exitMode : ExitMode)
    (overshoot : Option ℚ) (bars : List ShadowBar) (hbars : Chronological bars)
    (hspreads : ∀ b ∈ bars, b.spreadPrice.isSome) :
    (∀ later, Chronological later → (∀ c ∈ later, c.spreadPrice.isSome) →
        (∀ b ∈ bars, ∀ c ∈ later, b.time < c.time) →
        (resolveSignal signal bars drill source exitMode overshoot).Kept
          (resolveSignal signal (bars ++ later) drill source exitMode overshoot)) ↔
      signal.Final drill bars := by
  constructor
  · intro hkept
    by_contra hfinal
    unfold SignalSpec.Final at hfinal
    push Not at hfinal
    obtain ⟨entryBar, rest, spread, hlive, hspread, hrisk, hnone, hlen⟩ := hfinal
    have hsub : ∀ b ∈ entryBar :: rest, b ∈ bars := by
      intro b hb
      rw [← hlive, SignalSpec.live_eq hbars] at hb
      exact (List.dropWhile_sublist _).subset hb
    rw [List.take_of_length_le hlen.le] at hnone
    -- one later bar at the stop, at a moment the drill-down data say nothing of
    obtain ⟨t, ht⟩ := exists_later (bars.map ShadowBar.time ++ drill.detailBars.map Prod.fst)
    have hlater : ∀ b ∈ bars, ∀ c ∈ [signal.stopBar t], b.time < c.time := by
      intro b hb c hc
      rw [List.mem_singleton.1 hc]
      exact ht _ (List.mem_append_left _ (List.mem_map_of_mem hb))
    have hchron : Chronological [signal.stopBar t] := List.pairwise_singleton _ _
    have happend := hbars.append hchron hlater
    have hlookup : drill.detailBars.lookup t = none := by
      rw [List.lookup_eq_none_iff]
      intro p hp
      have hlt := ht p.1 (List.mem_append_right _ (List.mem_map_of_mem hp))
      rw [bne_iff_ne]
      omega
    have hlive' := SignalSpec.live_append hbars happend hlive
    have hbefore : (resolveSignal signal bars drill source exitMode overshoot).status = .timeout := by
      unfold resolveSignal
      rw [hlive]
      exact resolveFrom_timeout hspread hrisk (List.cons_ne_nil _ _) (fun b hb => hspreads b (hsub b hb)) hlen.le hnone
        _ _ _
    have hafter : (resolveSignal signal (bars ++ [signal.stopBar t]) drill source exitMode overshoot).status
        ≠ .timeout := by
      obtain ⟨verdict, hverdict, hne⟩ :=
        resolveParent_stopBar signal ⟨exitMode, spread, max 0 (overshoot.getD 0)⟩ hlookup
      have hrest : (entryBar :: rest).findSome?
          (signal.resolveParent drill ⟨exitMode, spread, max 0 (overshoot.getD 0)⟩) = none :=
        List.findSome?_eq_none_iff.2 fun parent hparent =>
          (resolveParent_eq_none signal drill _ parent).2 (hnone parent hparent)
      have hfind : ((entryBar :: (rest ++ [signal.stopBar t])).take signal.horizonBars).findSome?
          (signal.resolveParent drill ⟨exitMode, spread, max 0 (overshoot.getD 0)⟩) = some verdict := by
        rw [List.take_of_length_le (by
            rw [List.length_cons] at hlen
            rw [List.length_cons, List.length_append, List.length_singleton]
            omega),
          ← List.cons_append, List.findSome?_append, hrest, Option.none_or, List.findSome?_singleton, hverdict]
      unfold resolveSignal
      rw [hlive']
      dsimp only
      rw [resolveFrom_decided hspread hrisk hfind]
      exact hne
    have hsame := (hkept [signal.stopBar t] hchron (by
      intro c hc
      rw [List.mem_singleton.1 hc]
      rfl) hlater (by rw [hbefore]; simp)).1
    rw [hbefore] at hsame
    exact hafter hsame
  · intro hfinal later hchron _ hlater
    by_cases hentered : signal.live bars = []
    · intro hresolved
      unfold resolveSignal at hresolved
      rw [hentered] at hresolved
      exact absurd rfl hresolved
    · exact .of_eq (resolveSignal_append hbars (hbars.append hchron hlater) hentered hfinal source exitMode overshoot)

/-! ### A timeout that a stop replaces -/

def twoBarPlan : SignalSpec where
  signalId := "plan-1"
  symbol := "PAINX 1200"
  timeframe := .m1
  side := .buy
  signalClose := 60
  stopLoss := 99
  takeProfit := 102
  legacyScore := none
  institutionalScore := none
  horizonBars := 2
  levels_pos := by norm_num
  horizon_pos := by norm_num

def quietBar (t : ℤ) : ShadowBar := ⟨t, 100, 101, 199 / 2, 100, some (1 / 10)⟩

def noDrill : DrillDown := ⟨[], []⟩

/-- The first of two bars is a timeout; the second hits the stop. -/
theorem outcome_rewritten :
    let before := resolveSignal twoBarPlan [quietBar 60] noDrill "replay" .atSl none
    let after := resolveSignal twoBarPlan [quietBar 60, twoBarPlan.stopBar 120] noDrill "replay" .atSl none
    before.status = .timeout ∧ after.status = .sl ∧ before.netR ≠ after.netR := by
  decide +kernel

theorem outcome_stable_iff_whole : twoBarPlan.Final noDrill [quietBar 60, quietBar 120] ∧
    ∀ later, Chronological later → (∀ c ∈ later, c.spreadPrice.isSome) →
      (∀ b ∈ [quietBar 60, quietBar 120], ∀ c ∈ later, b.time < c.time) →
      (resolveSignal twoBarPlan [quietBar 60, quietBar 120] noDrill "replay" .atSl none).Kept
        (resolveSignal twoBarPlan ([quietBar 60, quietBar 120] ++ later) noDrill "replay" .atSl none) := by
  have hfinal : twoBarPlan.Final noDrill [quietBar 60, quietBar 120] := by
    intro entryBar later spread hlive _ _
    right
    have hlength : (twoBarPlan.live [quietBar 60, quietBar 120]).length = 2 := by decide
    rw [← hlive, hlength]
    exact le_rfl
  have hsorted : Chronological [quietBar 60, quietBar 120] := List.pairwise_pair.2 (by decide)
  have hspreads : ∀ b ∈ [quietBar 60, quietBar 120], b.spreadPrice.isSome := by decide
  exact ⟨hfinal, (outcome_stable_iff twoBarPlan noDrill "replay" .atSl none _ hsorted hspreads).2 hfinal⟩

end Jqe
