import Jqe.ObservationKept
/-!
# ObservationSound — the rows of a scope over all interleavings
-/
namespace Jqe
namespace Daemon

open Coro Prog Spaced List

/-! ## One scope -/

theorem scope_timeframe {a b : WatchPair} (h : a.scope = b.scope) : a.timeframe = b.timeframe := by
  have hchars := congrArg (fun s => s.toList.reverse) h
  unfold WatchPair.scope at hchars
  simp only [String.toList_append, reverse_append, append_assoc] at hchars
  cases ha : a.timeframe <;> cases hb : b.timeframe <;> first
    | rfl
    | (rw [ha, hb] at hchars; simp [Timeframe.value] at hchars)

def ObservationFile.closings (w : ObservationFile) (scope : String) : List ℤ :=
  (w.rows.filter fun row => row.pair.scope = scope).map fun row => row.closedAt

/-- **The rows of a pair's scope follow each other**, and the cursor is the last of them. -/
structure ScopeKept (w : ObservationFile) (pair : WatchPair) : Prop where
  steps : Steps pair.timeframe.seconds (w.closings pair.scope)
  aligned : ∀ t ∈ w.closings pair.scope, pair.timeframe.seconds ∣ t
  last : (w.closings pair.scope).getLast? = w.cursor pair.scope

variable {w w' : ObservationFile} {pair : WatchPair}

theorem ScopeKept.cursor_aligned (h : ScopeKept w pair) {cursor : ℤ} (hcursor : w.cursor pair.scope = some cursor) :
    pair.timeframe.seconds ∣ cursor :=
  h.aligned cursor (mem_of_getLast? (h.last.trans hcursor))

variable {row : SignalRow}

theorem closings_append_of_ne {scope : String} (h : row.pair.scope ≠ scope) :
    (w.append row).closings scope = w.closings scope ∧ (w.append row).cursor scope = w.cursor scope := by
  constructor
  · simp [ObservationFile.closings, ObservationFile.append, filter_append, h]
  · exact Function.update_of_ne (Ne.symm h) _ _

theorem closings_append_self (w : ObservationFile) (row : SignalRow) :
    (w.append row).closings row.pair.scope = w.closings row.pair.scope ++ [row.closedAt] ∧
      (w.append row).cursor row.pair.scope = some row.closedAt := by
  constructor
  · simp [ObservationFile.closings, ObservationFile.append, filter_append]
  · exact Function.update_self _ _ _

theorem ScopeKept.append (h : ScopeKept w pair)
    (haligned : row.pair.timeframe.seconds ∣ row.closedAt)
    (hnext : ∀ cursor, w.cursor row.pair.scope = some cursor →
      row.closedAt = cursor + row.pair.timeframe.seconds) : ScopeKept (w.append row) pair := by
  by_cases hscope : row.pair.scope = pair.scope
  · have htimeframe := scope_timeframe hscope
    obtain ⟨hclosings, hcursor⟩ := closings_append_self w row
    rw [hscope] at hclosings hcursor hnext
    rw [htimeframe] at haligned hnext
    have hsteps : Steps pair.timeframe.seconds (w.closings pair.scope ++ [row.closedAt]) := by
      cases hlast : (w.closings pair.scope).getLast? with
      | none =>
        rw [getLast?_eq_none_iff.1 hlast]
        exact isChain_singleton _
      | some cursor => exact h.steps.snoc hlast (hnext cursor (h.last.symm.trans hlast))
    refine ⟨by rw [hclosings]; exact hsteps, fun t ht => ?_, by rw [hclosings, hcursor, getLast?_concat]⟩
    rw [hclosings, mem_append, mem_singleton] at ht
    rcases ht with ht | rfl
    · exact h.aligned t ht
    · exact haligned
  · obtain ⟨hclosings, hcursor⟩ := closings_append_of_ne (w := w) hscope
    refine ⟨?_, ?_, ?_⟩
    · rw [hclosings]
      exact h.steps
    · rw [hclosings]
      exact h.aligned
    · rw [hclosings, hcursor]
      exact h.last

def Advances (w w' : ObservationFile) : Prop :=
  ∀ scope cursor, w.cursor scope = some cursor → ∃ cursor', w'.cursor scope = some cursor' ∧ cursor ≤ cursor'

theorem Advances.refl (w : ObservationFile) : Advances w w := fun _ cursor h => ⟨cursor, h, le_refl cursor⟩

theorem admits_lt (h : w.admits row = true) {cursor : ℤ}
    (hcursor : w.cursor row.pair.scope = some cursor) : cursor < row.closedAt := by
  unfold ObservationFile.admits at h
  rw [hcursor] at h
  exact of_decide_eq_true h

theorem refused_le (h : w.admits row = false) :
    ∃ cursor, w.cursor row.pair.scope = some cursor ∧ row.closedAt ≤ cursor := by
  unfold ObservationFile.admits at h
  split at h
  · cases h
  · next cursor hcursor => exact ⟨cursor, hcursor, not_lt.1 (of_decide_eq_false h)⟩

theorem advances_append (h : w.admits row = true) : Advances w (w.append row) := by
  intro scope cursor hcursor
  by_cases hscope : row.pair.scope = scope
  · subst hscope
    exact ⟨row.closedAt, (closings_append_self w row).2, (admits_lt h hcursor).le⟩
  · exact ⟨cursor, (closings_append_of_ne hscope).2.trans hcursor, le_refl cursor⟩

/-! ## All interleavings -/

/-- **A run that found no cursor does not jump**: its row follows what its scope has by then by one timeframe at most. -/
def DoesNotJump (w : ObservationFile) : ObserveReq → Prop
  | .appendSignal row =>
    row.facts.catchUp = false →
      ∀ cursor, w.cursor row.pair.scope = some cursor → row.closedAt ≤ cursor + row.pair.timeframe.seconds
  | _ => True

abbrev steadySystem := observeSystem.meeting DoesNotJump

/-- The cursor is not behind what a run has tried. -/
def PhaseKept (w : ObservationFile) (run : ObserveRun) : ObservePhase → Prop
  | .catching prior reached =>
    run.pair.timeframe.seconds ∣ prior ∧ run.pair.timeframe.seconds ∣ reached ∧
      ∃ cursor, w.cursor run.pair.scope = some cursor ∧ reached ≤ cursor
  | _ => True

theorem PhaseKept.advance (h : Advances w w') {run : ObserveRun} {phase : ObservePhase}
    (hphase : PhaseKept w run phase) : PhaseKept w' run phase := by
  cases phase with
  | catching prior reached =>
    obtain ⟨hprior, hreached, cursor, hcursor, hle⟩ := hphase
    obtain ⟨cursor', hcursor', hle'⟩ := h _ cursor hcursor
    exact ⟨hprior, hreached, cursor', hcursor', hle.trans hle'⟩
  | _ => trivial

/-- **A row that passes the check of its transaction follows the cursor.** -/
theorem append_next (hkept : ∀ pair, ScopeKept w pair) {run : ObserveRun} {phase : ObservePhase}
    (hphase : PhaseKept w run phase) (hallowed : (observeProtocol run).allows phase (.appendSignal row))
    (hjump : DoesNotJump w (.appendSignal row)) (hadmits : w.admits row = true) :
    run.pair.timeframe.seconds ∣ row.closedAt ∧ row.pair = run.pair ∧
      ∀ cursor, w.cursor row.pair.scope = some cursor → row.closedAt = cursor + row.pair.timeframe.seconds := by
  cases phase with
  | start => exact hallowed.elim
  | windowed => exact hallowed.elim
  | first =>
    obtain ⟨hpair, haligned, hcatchUp⟩ := hallowed
    refine ⟨haligned, hpair, fun cursor hcursor => ?_⟩
    have hle := hjump hcatchUp cursor hcursor
    have hlt := admits_lt hadmits hcursor
    rw [hpair] at hle hcursor ⊢
    have hdvd := Int.dvd_sub haligned ((hkept run.pair).cursor_aligned hcursor)
    have hstep := Int.le_of_dvd (by omega) hdvd
    omega
  | catching prior reached =>
    obtain ⟨hpair, hnext⟩ := hallowed
    obtain ⟨hprior, hreached, cursor, hcursor, hle⟩ := hphase
    have hclosed := hnext hprior
    refine ⟨by rw [hclosed]; exact Int.dvd_add hreached (dvd_refl _), hpair, fun cursor' hcursor' => ?_⟩
    have hlt := admits_lt hadmits hcursor'
    rw [hpair] at hcursor' ⊢
    rw [hcursor] at hcursor'
    cases hcursor'
    have hdvd := Int.dvd_sub ((hkept run.pair).cursor_aligned hcursor) hreached
    -- a cursor past what was tried would be past the row too
    by_cases heq : cursor = reached
    · rw [heq]
      exact hclosed
    · have hstep := Int.le_of_dvd (by omega) hdvd
      omega

theorem phaseKept_after_append {run : ObserveRun} {phase : ObservePhase} {b : Bool}
    (hphase : PhaseKept w run phase) (hallowed : (observeProtocol run).allows phase (.appendSignal row))
    (hcursor : ∃ cursor, w'.cursor row.pair.scope = some cursor ∧ row.closedAt ≤ cursor) :
    PhaseKept w' run ((observeProtocol run).next phase (.appendSignal row) (.ok b)) := by
  cases phase with
  | catching prior reached =>
    obtain ⟨hpair, hnext⟩ := hallowed
    obtain ⟨hprior, hreached, -⟩ := hphase
    rw [hpair] at hcursor
    refine ⟨hprior, ?_, hcursor⟩
    rw [hnext hprior]
    exact Int.dvd_add hreached (dvd_refl _)
  | _ => exact trivial

theorem exec_kept (hkept : ∀ pair, ScopeKept w pair) {run : ObserveRun} {phase : ObservePhase} {r : ObserveReq}
    {ans : Except PyExc r.Ans} (hphase : PhaseKept w run phase) (hallowed : (observeProtocol run).allows phase r)
    (hjump : DoesNotJump w r) (hx : ObserveExec w r ans w') :
    (∀ pair, ScopeKept w' pair) ∧ Advances w w' ∧ PhaseKept w' run ((observeProtocol run).next phase r ans) := by
  cases hx with
  | candles pair provided =>
    refine ⟨hkept, .refl w, ?_⟩
    cases phase with
    | start => exact trivial
    | _ => exact hallowed.elim
  | cursor scope =>
    refine ⟨hkept, .refl w, ?_⟩
    cases phase with
    | windowed =>
      have hscope : scope = run.pair.scope := hallowed
      subst hscope
      cases hcursor : w.cursor run.pair.scope with
      | none => exact trivial
      | some cursor =>
        have haligned := (hkept run.pair).cursor_aligned hcursor
        exact ⟨haligned, haligned, cursor, hcursor, le_refl cursor⟩
    | _ => exact hallowed.elim
  | refused row h => exact ⟨hkept, .refl w, phaseKept_after_append hphase hallowed (refused_le h)⟩
  | appended row h =>
    obtain ⟨haligned, hpair, hnext⟩ := append_next hkept hphase hallowed hjump h
    rw [← hpair] at haligned
    exact ⟨fun pair => (hkept pair).append haligned hnext, advances_append h,
      phaseKept_after_append hphase hallowed ⟨_, (closings_append_self w row).2, le_refl _⟩⟩
  | lost row e h =>
    obtain ⟨haligned, hpair, hnext⟩ := append_next hkept hphase hallowed hjump h
    rw [← hpair] at haligned
    refine ⟨fun pair => (hkept pair).append haligned hnext, advances_append h, ?_⟩
    have hsame : (observeProtocol run).next phase (.appendSignal row) (.error e) = phase := by cases phase <;> rfl
    rw [hsame]
    exact hphase.advance (advances_append h)
  | sampled observation evaluation =>
    have hsame : (observeProtocol run).next phase (.sample observation evaluation) (.ok ()) = phase := by
      cases phase <;> rfl
    rw [hsame]
    exact ⟨hkept, .refl w, hphase⟩
  | notified pair age =>
    have hsame : (observeProtocol run).next phase (.runtimeHealth pair age) (.ok ()) = phase := by
      cases phase <;> rfl
    rw [hsame]
    exact ⟨hkept, .refl w, hphase⟩
  | failed r e =>
    have hsame : (observeProtocol run).next phase r (.error e) = phase := by
      cases phase <;> cases r <;> rfl
    rw [hsame]
    exact ⟨hkept, .refl w, hphase⟩

/-- **What every ghost keeps.** -/
def Observed (g : Ghost ObservationFile ObserveRun ObservePhase) : Prop :=
  (∀ pair, ScopeKept g.world pair) ∧ ∀ n run phase, g.runs n = some (run, phase) → PhaseKept g.world run phase

theorem observed_of_reached {g : Ghost ObservationFile ObserveRun ObservePhase}
    (h : Reached steadySystem observeProtocol .start g) : Observed g := by
  refine h.invariant ?_ ?_
  · rintro w rfl
    refine ⟨fun pair => ⟨isChain_nil, fun t ht => ?_, rfl⟩, fun n run phase hn => by cases hn⟩
    exact absurd ht not_mem_nil
  · intro g g' _ hg hs
    obtain ⟨hkept, hphases⟩ := hg
    cases hs with
    | spawn n run hn hi =>
      refine ⟨hkept, fun m run' phase hm => ?_⟩
      rcases Ghost.setRun_cases hm with ⟨_, rfl, rfl⟩ | ⟨_, hold⟩
      · exact trivial
      · exact hphases m run' phase hold
    | call r ans hn hallowed hx =>
      obtain ⟨hjump, hx⟩ := hx
      obtain ⟨hkept', hadvances, hnext⟩ := exec_kept hkept (hphases _ _ _ hn) hallowed hjump hx
      refine ⟨hkept', fun m run' phase' hm => ?_⟩
      rcases Ghost.setRun_cases hm with ⟨_, rfl, rfl⟩ | ⟨_, hold⟩
      · exact hnext
      · exact (hphases m run' phase' hold).advance hadvances
    | tick hw => exact hw.elim

theorem scopeKept_of_reachable [CaseMap] (strategy : ObservationStrategy)
    {c : Config ObserveReq ObserveReq.Ans PyExc Bool ObservationFile ObserveRun}
    (h : Reachable steadySystem (observePair strategy) c) (pair : WatchPair) : ScopeKept c.world pair :=
  h.world_invariant (fun _ _ _ => True) (fun run _ => wp_observePair strategy run)
    (I := fun w => ScopeKept w pair) fun _ hg => (observed_of_reached hg).1 pair

/-- **Catch-up loses nothing** in the runs of a system. -/
structure CatchUpKept [CaseMap] (S : System ObserveReq ObserveReq.Ans PyExc ObservationFile ObserveRun)
    (strategy : ObservationStrategy) : Prop where
  ascending : ∀ c, Reachable S (observePair strategy) c → ∀ pair : WatchPair,
    (c.world.closings pair.scope).Pairwise (· < ·)
  consecutive : ∀ c, Reachable S (observePair strategy) c → ∀ pair : WatchPair,
    (c.world.closings pair.scope).IsChain fun a b => b = a + pair.timeframe.seconds
  /-- a closing that the window leaves out after the cursor raises, and no request is made -/
  gap : ∀ c, Reachable S (observePair strategy) c → ∀ (run : ObserveRun) (provided : ProviderCandles run.pair.timeframe)
    observations latest cursor t,
    closedObservationsFromCandles (normalizeSymbol run.pair.symbol) run.pair.timeframe run.now provided.candles =
      .ok observations → observations.getLast? = some latest → c.world.cursor run.pair.scope = some cursor →
    cursor < t → t ≤ latest.closedAt → run.pair.timeframe.seconds ∣ t → (∀ o ∈ observations, o.closedAt ≠ t) →
    observeFrom strategy run observations latest (some cursor) =
      .raise (.exception "Observation catch-up history is incomplete; refusing to advance cursor")

/-- **Catch-up loses nothing** while no run that found no cursor jumps. -/
theorem catchUp_kept [CaseMap] (strategy : ObservationStrategy) : CatchUpKept steadySystem strategy where
  ascending := fun c h pair => (scopeKept_of_reachable strategy h pair).steps.pairwise (seconds_pos _)
  consecutive := fun c h pair => (scopeKept_of_reachable strategy h pair).steps
  gap := by
    intro c h run provided observations latest cursor t hwindow hlast hcursor hafter hbefore haligned hmissing
    have hkept := (scopeKept_of_reachable strategy h run.pair).cursor_aligned hcursor
    exact observeFrom_gap (windowOk hwindow) hlast hkept ⟨hafter, hbefore, Int.dvd_sub haligned hkept⟩ hmissing

/-! ### Two daemons on a new scope -/

def idleStrategy : ObservationStrategy where
  evaluate _ := .ok ⟨"NO_TRADE", none, "POOR", "RANGE"⟩
  tradePlan _ _ _ := .ok "null"

def flatCandle (time : ℤ) : Candle := ⟨.aware time, 1, 1, 1, 1⟩

def flatCandles (timeframe : Timeframe) : ProviderCandles timeframe where
  candles := [flatCandle (timeframe.seconds * 9), flatCandle (timeframe.seconds * 10),
    flatCandle (timeframe.seconds * 11)]
  ascending := by
    have hpos := seconds_pos timeframe
    simp only [List.pairwise_cons, List.mem_cons, List.not_mem_nil, flatCandle]
    refine ⟨?_, ?_, ?_, .nil⟩
    · rintro c (rfl | rfl | hc) s t hs ht
      · cases hs
        cases ht
        omega
      · cases hs
        cases ht
        omega
      · exact hc.elim
    · rintro c (rfl | hc) s t hs ht
      · cases hs
        cases ht
        omega
      · exact hc.elim
    · exact fun c hc => hc.elim
  aligned := by
    intro c hc t ht
    simp only [List.mem_cons, List.not_mem_nil, or_false] at hc
    rcases hc with rfl | rfl | rfl <;> cases ht <;> exact Dvd.intro _ rfl

def observeAnswer (w : ObservationFile) : (r : ObserveReq) → Except PyExc r.Ans × ObservationFile
  | .getCandles pair => (.ok (flatCandles pair.timeframe), w)
  | .lastClose scope => (.ok (w.cursor scope), w)
  | .appendSignal row => if w.admits row then (.ok true, w.append row) else (.ok false, w)
  | .sample _ _ => (.ok (), w)
  | .runtimeHealth _ _ => (.ok (), w)

theorem observeAnswer_exec (w : ObservationFile) (r : ObserveReq) :
    ObserveExec w r (observeAnswer w r).1 (observeAnswer w r).2 := by
  cases r with
  | getCandles pair => exact .candles pair _
  | lastClose scope => exact .cursor scope
  | appendSignal row =>
    by_cases h : w.admits row = true
    · have hans : observeAnswer w (.appendSignal row) = (.ok true, w.append row) := if_pos h
      rw [hans]
      exact .appended row h
    · have hans : observeAnswer w (.appendSignal row) = (.ok false, w) := if_neg h
      rw [hans]
      exact .refused row (Bool.not_eq_true _ ▸ h)
  | sample o e => exact .sampled o e
  | runtimeHealth pair age => exact .notified pair age

local instance daemonCase : CaseMap := asciiCase

def runAt (sessionId : String) (now : ℤ) : ObserveRun := ⟨sessionId, ⟨"FX VOL 20", .m1⟩, now, false⟩

def followsUp (w : ObservationFile) : ObserveReq → Bool
  | .appendSignal row => row.facts.catchUp || (w.cursor row.pair.scope).isNone
  | _ => true

theorem doesNotJump_of_followsUp {r : ObserveReq} (h : followsUp w r = true) : DoesNotJump w r := by
  cases r with
  | appendSignal row =>
    intro hfirst cursor hcursor
    rw [followsUp, hfirst, hcursor] at h
    cases h
  | _ => trivial

/-- A second daemon that comes after the first catches up. -/
theorem catchUp_kept_twice : ∃ c, Reachable steadySystem (observePair idleStrategy) c ∧
    c.world.closings "FX VOL 20:M1" = [600, 660, 720] ∧
    (c.world.closings "FX VOL 20:M1").IsChain fun a b => b = a + 60 := by
  have hcall : ∀ n i c r k, Reachable steadySystem (observePair idleStrategy) c → c.runs n = some (i, some (.call r k)) →
      followsUp c.world r = true → Reachable steadySystem (observePair idleStrategy)
        ((c.setRun n i (some (k (observeAnswer c.world r).1))).setWorld (observeAnswer c.world r).2) :=
    fun n i c r k hc hn hr => hc.step (.call _ hn ⟨doesNotJump_of_followsUp hr, observeAnswer_exec c.world r⟩)
  have hinit : Reachable steadySystem (observePair idleStrategy) (.start ⟨[], fun _ => none⟩) := .init rfl
  have hfirst := Config.run_of_checked (hcall 0 _) _ (hinit.step (.spawn 0 (runAt "a" 605) rfl trivial))
    (Config.setRun_self _ 0 _ _) (by decide)
  have hsecond := Config.run_of_checked (hcall 1 _) _ (hfirst.step (.spawn 1 (runAt "b" 725) rfl trivial))
    (Config.setRun_self _ 1 _ _) (by decide)
  exact ⟨_, hsecond, by decide, (catchUp_kept idleStrategy).consecutive _ hsecond ⟨"FX VOL 20", .m1⟩⟩

/-- **A closed candle is lost**: the later of two daemons has read the new scope before the earlier one's first row. -/
theorem first_signal_jumped : (∃ c, Reachable observeSystem (observePair idleStrategy) c ∧
    c.world.closings "FX VOL 20:M1" = [600, 720]) ∧ ¬ CatchUpKept observeSystem idleStrategy := by
  have hreached : ∃ c, Reachable observeSystem (observePair idleStrategy) c ∧
      c.world.closings "FX VOL 20:M1" = [600, 720] := by
    have hinit : Reachable observeSystem (observePair idleStrategy) (.start ⟨[], fun _ => none⟩) := .init rfl
    have hread := Reachable.steps observeAnswer observeAnswer_exec 2 _
      (hinit.step (.spawn 0 (runAt "b" 725) rfl trivial)) (Config.setRun_self _ 0 _ _)
    have hother := hread.complete (n := 1) rfl (i := runAt "a" 605) trivial observeAnswer observeAnswer_exec
    have hdone := Reachable.run (n := 0) observeAnswer observeAnswer_exec _ hother rfl
    exact ⟨_, hdone, by decide⟩
  refine ⟨hreached, fun h => ?_⟩
  obtain ⟨c, hc, hclosings⟩ := hreached
  have hchain := h.consecutive c hc ⟨"FX VOL 20", .m1⟩
  have hscope : (⟨"FX VOL 20", .m1⟩ : WatchPair).scope = "FX VOL 20:M1" := by decide
  rw [hscope, hclosings] at hchain
  exact absurd hchain (by decide)

end Daemon
end Jqe
