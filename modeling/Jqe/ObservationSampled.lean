import Jqe.ObservationSound
import Jqe.Sampler
/-!
# ObservationSampled — the bars that `observe_pair` records and the bars that the sampler counts

A SIGNAL row is a transaction on the evidence file, its count one on the sampler's file, and any number of runs go on between
the two.  `append_for_closed_bar` is its transactions here, as far as they read or move the cursor; what it does to the plans
is one request.
-/
namespace Jqe
namespace Daemon

open Coro Prog List

/-! ## The two files -/

inductive SampledReq where
  /-- a request of `observe_pair` itself -/
  | observe (r : ObserveReq)
  /-- `_cursor` -/
  | cursor (o : ClosedMarketObservation)
  /-- `_advance_cursor` -/
  | advance (closedCount : ℕ) (o : ClosedMarketObservation)
  /-- the loop over the sides -/
  | plans (o : ClosedMarketObservation) (evaluation : Evaluation)

@[reducible] def SampledReq.Ans : SampledReq → Type
  | observe r => r.Ans
  | cursor _ => Option (ℕ × ℤ)
  | advance _ _ | plans _ _ => Unit

abbrev SampledProg := Prog SampledReq SampledReq.Ans PyExc

def SampledReq.bar : SampledReq → Option ClosedMarketObservation
  | cursor o | advance _ o => some o
  | _ => none

/-- The evidence file, how many rows it had when the sampler was first enabled, and the sampler's cursors with the bars
counted so far. -/
structure SampledWorld where
  file : ObservationFile
  before : ℕ
  cursor : String → Option (ℕ × ℤ)
  counted : List ClosedMarketObservation

section

variable [CaseMap]

/-- `_scope`, of the symbol that `append_for_closed_bar` has upper-cased. -/
def samplerScope (symbol : String) (timeframe : Timeframe) : String :=
  CaseMap.upper (CaseMap.upper symbol) ++ "|" ++ timeframe.value

def barScope (o : ClosedMarketObservation) : String := samplerScope o.canonicalSymbol o.timeframe

def WatchPair.samplerScope (pair : WatchPair) : String := Daemon.samplerScope (normalizeSymbol pair.symbol) pair.timeframe

def sampleBar (o : ClosedMarketObservation) (evaluation : Evaluation) : SampledProg Unit := do
  let prior ← perform (SampledReq.cursor o)
  if alreadyCounted prior o.closedAt then pure ()
  else
    let closedCount := prior.elim 0 Prod.fst + 1
    let _ ← perform (SampledReq.advance closedCount o)
    if closedCount % sampleEveryClosedBars ≠ 0 then pure () else perform (SampledReq.plans o evaluation)

def transactions : (r : ObserveReq) → SampledProg r.Ans
  | .sample o evaluation => sampleBar o evaluation
  | .getCandles pair => perform (SampledReq.observe (.getCandles pair))
  | .lastClose scope => perform (SampledReq.observe (.lastClose scope))
  | .appendSignal row => perform (SampledReq.observe (.appendSignal row))
  | .runtimeHealth pair age => perform (SampledReq.observe (.runtimeHealth pair age))

/-- **`observe_pair` with its sampler.** -/
def observeSampled (strategy : ObservationStrategy) (run : ObserveRun) : SampledProg Bool :=
  (observePair strategy run).expand transactions

def SampledWorld.advance (w : SampledWorld) (closedCount : ℕ) (o : ClosedMarketObservation) : SampledWorld :=
  { w with
    cursor := Function.update w.cursor (barScope o) (some (closedCount, o.closedAt))
    counted := w.counted ++ [o] }

/-- **What a request may do**: a transaction commits, raises rolled back, or raises although it committed. -/
inductive SampledExec (w : SampledWorld) : (r : SampledReq) → Except PyExc r.Ans → SampledWorld → Prop
  | observe {r : ObserveReq} {ans : Except PyExc r.Ans} {file : ObservationFile} (h : ObserveExec w.file r ans file) :
      SampledExec w (.observe r) ans { w with file := file }
  | cursor (o : ClosedMarketObservation) : SampledExec w (.cursor o) (.ok (w.cursor (barScope o))) w
  | advanced (closedCount : ℕ) (o : ClosedMarketObservation) :
      SampledExec w (.advance closedCount o) (.ok ()) (w.advance closedCount o)
  | lost (closedCount : ℕ) (o : ClosedMarketObservation) (e : PyExc) :
      SampledExec w (.advance closedCount o) (.error e) (w.advance closedCount o)
  | planned (o : ClosedMarketObservation) (evaluation : Evaluation) : SampledExec w (.plans o evaluation) (.ok ()) w
  | failed (r : SampledReq) (e : PyExc) : SampledExec w r (.error e) w

abbrev SampledConfig := Config SampledReq SampledReq.Ans PyExc Bool SampledWorld ObserveRun

/-- **Runs of `observe_pair` by any daemons**, on an evidence file with any rows and a new file of the sampler. -/
def sampledSystem : System SampledReq SampledReq.Ans PyExc SampledWorld ObserveRun where
  init w := w.before = w.file.rows.length ∧ w.cursor = (fun _ => none) ∧ w.counted = []
  admits _ := True
  exec w _ r ans w' := SampledExec w r ans w'
  tick _ _ := False

def SampledWorld.since (w : SampledWorld) : List SignalRow := w.file.rows.drop w.before

def SampledWorld.Recorded (w : SampledWorld) (scope : String) (closedAt : ℤ) : Prop :=
  ∃ row ∈ w.since, row.pair.samplerScope = scope ∧ row.closedAt = closedAt

def SampledWorld.Counted (w : SampledWorld) (scope : String) (closedAt : ℤ) : Prop :=
  ∃ o ∈ w.counted, barScope o = scope ∧ o.closedAt = closedAt

/-- **The bars counted are the bars recorded.** -/
def SampledWorld.AllCounted (w : SampledWorld) : Prop := ∀ scope closedAt, w.Counted scope closedAt ↔ w.Recorded scope closedAt

end

def Counting (c : SampledConfig) : Prop :=
  ∃ n run r k, c.runs n = some (run, some (.call r k)) ∧ r.bar.isSome

theorem observationOfCandle_bar {symbol : String} {timeframe : Timeframe} {candle : Candle} {time : ℤ}
    {observation : ClosedMarketObservation} (h : observationOfCandle symbol timeframe candle time = .ok observation) :
    observation.canonicalSymbol = symbol ∧ observation.timeframe = timeframe := by
  unfold observationOfCandle at h
  split at h
  · split at h
    · split at h
      · cases h
        exact ⟨rfl, rfl⟩
      · cases h
    · cases h
  · cases h

theorem closedWindow_bars {symbol : String} {timeframe : Timeframe} {now : ℤ} :
    ∀ {candles : List Candle} {observations : List ClosedMarketObservation},
      closedWindow symbol timeframe now candles = .ok observations →
      ∀ o ∈ observations, o.canonicalSymbol = symbol ∧ o.timeframe = timeframe
  | [], observations, h => by
    cases h
    exact fun o ho => absurd ho not_mem_nil
  | candle :: candles, observations, h => by
    unfold closedWindow at h
    split at h
    · cases h
    · obtain ⟨observation, hobservation, h⟩ := bind_ok h
      obtain ⟨rest, hrest, h⟩ := bind_ok h
      have ih := closedWindow_bars hrest
      cases h
      intro o ho
      split at ho
      · rcases mem_cons.1 ho with rfl | ho
        · exact observationOfCandle_bar hobservation
        · exact ih o ho
      · exact ih o ho

theorem observeExec_rows {file file' : ObservationFile} {r : ObserveReq} {ans : Except PyExc r.Ans}
    (h : ObserveExec file r ans file') :
    file' = file ∨ ∃ row, r = .appendSignal row ∧ file' = file.append row := by
  cases h with
  | appended row _ => exact .inr ⟨row, rfl, rfl⟩
  | lost row e _ => exact .inr ⟨row, rfl, rfl⟩
  | _ => exact .inl rfl

section

variable [CaseMap]

/-! ## Runs in which no bar is cut off -/

def InOrder (w : SampledWorld) : SampledReq → Prop
  | .cursor o => alreadyCounted (w.cursor (barScope o)) o.closedAt = false ∨ w.Counted (barScope o) o.closedAt
  | _ => True

/-- What raises leaves no row without its count. -/
def Uncut (w w' : SampledWorld) : (r : SampledReq) → Except PyExc r.Ans → Prop
  | .observe (.appendSignal row), .error _ => w' = w ∨ w'.Counted row.pair.samplerScope row.closedAt
  | .cursor o, .error _ | .advance _ o, .error _ => w'.Counted (barScope o) o.closedAt
  | _, _ => True

def MayStop (w : SampledWorld) : SampledProg Bool → Prop
  | .call r _ => ∀ o, r.bar = some o → w.Counted (barScope o) o.closedAt
  | _ => True

/-- **The runs in which no bar is cut off or overtaken.** -/
abbrev SteadyReachable (strategy : ObservationStrategy) : SampledConfig → Prop :=
  ReachableIf sampledSystem (observeSampled strategy) (fun w r ans w' => InOrder w r ∧ Uncut w w' r ans) MayStop

/-! ## What a run asks -/

inductive RecordPhase where
  | idle
  | appended (row : SignalRow)
  | reading (row : SignalRow)
  | ended

def RecordPhase.row : RecordPhase → Option SignalRow
  | appended row | reading row => some row
  | _ => none

def SignalRow.IsBar (row : SignalRow) (o : ClosedMarketObservation) : Prop :=
  barScope o = row.pair.samplerScope ∧ o.closedAt = row.closedAt

/-- `observe_pair` samples what it has appended, and nothing comes in between. -/
def recordProtocol : Protocol ObserveReq ObserveReq.Ans PyExc RecordPhase where
  allows
    | .idle, .sample _ _ => False
    | .idle, _ => True
    | .appended row, .sample o _ => row.IsBar o
    | _, _ => False
  next
    | .idle, .appendSignal row, .ok true => .appended row
    | .idle, _, _ => .idle
    | .appended _, .sample _ _, .ok _ => .idle
    | _, _, _ => .ended

def sampledProtocol : Protocol SampledReq SampledReq.Ans PyExc RecordPhase where
  allows
    | .idle, .observe r => recordProtocol.allows .idle r
    | .idle, .plans _ _ => True
    | .appended row, .cursor o => row.IsBar o
    | .reading row, .advance _ o => row.IsBar o
    | _, _ => False
  next
    | .idle, .observe r, ans => recordProtocol.next .idle r ans
    | .idle, _, _ => .idle
    | .appended row, .cursor _, .ok prior => if alreadyCounted prior row.closedAt then .idle else .reading row
    | .reading _, .advance _ _, .ok _ => .idle
    | _, _, _ => .ended

def RecordPhase.Done (q : RecordPhase) : Prop := q.row = none

theorem closedObservations_scope {pair : WatchPair} {now : ℤ} {candles : List Candle}
    {observations : List ClosedMarketObservation}
    (h : closedObservationsFromCandles (normalizeSymbol pair.symbol) pair.timeframe now candles = .ok observations) :
    ∀ o ∈ observations, barScope o = pair.samplerScope := by
  unfold closedObservationsFromCandles at h
  obtain ⟨window, hwindow, h⟩ := bind_ok h
  split at h
  · cases h
  · cases h
    intro o ho
    obtain ⟨hsymbol, htimeframe⟩ := closedWindow_bars hwindow o ho
    unfold barScope WatchPair.samplerScope
    rw [hsymbol, htimeframe]

variable {strategy : ObservationStrategy} {run : ObserveRun}

theorem wp_observeOne_record {found : Option ℤ} {count : ℕ} {window : List ClosedMarketObservation}
    {o : ClosedMarketObservation} (ho : barScope o = run.pair.samplerScope) (state : CatchUp) :
    wp recordProtocol (observeOne strategy run found count window o state) .idle fun out q =>
      q.Done ∧ ∀ s, out = .ok s → q = .idle := by
  unfold observeOne
  rw [wp_bind, wp_ofExcept]
  cases strategy.evaluate window with
  | error e => exact ⟨rfl, nofun⟩
  | ok evaluation =>
    dsimp only
    rw [wp_bind, wp_ofExcept]
    cases strategy.tradePlan evaluation run.pair o with
    | error e => exact ⟨rfl, nofun⟩
    | ok tradePlan =>
      dsimp only
      rw [wp_bind]
      refine (wp_perform _ _ _).2 ⟨trivial, fun ans => ?_⟩
      cases ans with
      | error e => exact ⟨rfl, nofun⟩
      | ok appended =>
        cases appended with
        | false => exact ⟨rfl, fun _ _ => rfl⟩
        | true =>
          dsimp only
          rw [if_pos rfl, wp_bind]
          refine (wp_perform _ _ _).2 ⟨⟨ho, rfl⟩, fun ans => ?_⟩
          cases ans with
          | error e => exact ⟨rfl, nofun⟩
          | ok _ => exact ⟨rfl, fun _ _ => rfl⟩

theorem wp_catchUp_record {found : Option ℤ} {observations pending : List ClosedMarketObservation}
    (rest : List ClosedMarketObservation) (index : ℕ) (state : CatchUp)
    (hrest : ∀ o ∈ rest, barScope o = run.pair.samplerScope) :
    wp recordProtocol (catchUp strategy run found observations pending index rest state) .idle fun out q =>
      q.Done ∧ ∀ s, out = .ok s → q = .idle := by
  induction rest generalizing index state with
  | nil => exact ⟨rfl, fun _ _ => rfl⟩
  | cons o rest ih =>
    have hlater : ∀ o' ∈ rest, barScope o' = run.pair.samplerScope := fun o' ho' => hrest o' (mem_cons_of_mem _ ho')
    unfold catchUp
    by_cases ho : o ∈ pending
    · rw [if_pos ho, wp_bind]
      refine wp_mono (fun out q hout => ?_) _ _ (wp_observeOne_record (hrest o mem_cons_self) state)
      cases out with
      | error e => exact ⟨hout.1, fun _ h => by cases h⟩
      | ok s =>
        rw [hout.2 s rfl]
        exact ih (index + 1) s hlater
    · rw [if_neg ho]
      exact ih (index + 1) state hlater

theorem wp_observePair_record (strategy : ObservationStrategy) (run : ObserveRun) :
    wp recordProtocol (observePair strategy run) .idle fun _ q => q.Done := by
  unfold observePair
  rw [wp_bind]
  refine (wp_perform _ _ _).2 ⟨trivial, fun ans => ?_⟩
  cases ans with
  | error e => exact rfl
  | ok provided =>
    change wp recordProtocol _ .idle _
    rw [wp_bind, wp_ofExcept]
    split
    · next observations hobservations =>
      have hscope := closedObservations_scope hobservations
      cases observations.getLast? with
      | none => exact rfl
      | some latest =>
        dsimp only
        rw [wp_bind]
        refine (wp_perform _ _ _).2 ⟨trivial, fun ans => ?_⟩
        cases ans with
        | error e => exact rfl
        | ok found =>
          change wp recordProtocol _ .idle _
          unfold observeFrom
          rw [wp_bind, wp_ofExcept]
          cases pendingChecked run observations latest found with
          | error e => exact rfl
          | ok pending =>
            dsimp only
            rw [wp_bind]
            refine wp_mono (fun out q hout => ?_) _ _ (wp_catchUp_record observations 0 ⟨0, none⟩ hscope)
            cases out with
            | error e => exact hout.1
            | ok state =>
              rw [hout.2 state rfl]
              dsimp only
              cases state.staleLatest with
              | none => exact rfl
              | some age =>
                dsimp only
                by_cases hnotifies : run.notifies = true
                · rw [if_pos hnotifies, wp_bind]
                  refine (wp_perform _ _ _).2 ⟨trivial, fun ans => ?_⟩
                  cases ans <;> exact rfl
                · rw [if_neg hnotifies]
                  exact rfl
    · exact rfl

/-- The phases of a run and of its transactions: an ended run may have counted its bar. -/
def SamePhase (q q' : RecordPhase) : Prop := q' = q ∨ q = .ended ∧ q' = .idle

theorem wp_sampleBar {row : SignalRow} {o : ClosedMarketObservation} (hbar : row.IsBar o) (evaluation : Evaluation) :
    wp sampledProtocol (sampleBar o evaluation) (.appended row) fun out q =>
      SamePhase (recordProtocol.next (.appended row) (.sample o evaluation) out) q := by
  unfold sampleBar
  rw [wp_bind]
  refine (wp_perform _ _ _).2 ⟨hbar, fun ans => ?_⟩
  cases ans with
  | error e => exact .inl rfl
  | ok prior =>
    have hnext : sampledProtocol.next (.appended row) (.cursor o) (.ok prior) =
        if alreadyCounted prior o.closedAt then .idle else .reading row := by rw [hbar.2]; rfl
    rw [hnext]
    dsimp only
    by_cases hcounted : alreadyCounted prior o.closedAt = true
    · rw [if_pos hcounted, if_pos hcounted]
      exact .inl rfl
    · rw [if_neg hcounted, if_neg hcounted, wp_bind]
      refine (wp_perform _ _ _).2 ⟨hbar, fun ans => ?_⟩
      cases ans with
      | error e => exact .inl rfl
      | ok _ =>
        change wp sampledProtocol _ .idle _
        split
        · exact .inl rfl
        · refine (wp_perform _ _ _).2 ⟨trivial, fun ans => ?_⟩
          cases ans with
          | error e => exact .inr ⟨rfl, rfl⟩
          | ok _ => exact .inl rfl

theorem wp_transactions (q q' : RecordPhase) (r : ObserveReq) (hsame : SamePhase q q') (hallowed : recordProtocol.allows q r) :
    wp sampledProtocol (transactions r) q' fun out q'' => SamePhase (recordProtocol.next q r out) q'' := by
  rcases hsame with rfl | ⟨rfl, -⟩
  · cases q' with
    | idle =>
      cases r with
      | sample o evaluation => exact hallowed.elim
      | _ => exact (wp_perform _ _ _).2 ⟨trivial, fun ans => .inl rfl⟩
    | appended row =>
      cases r with
      | sample o evaluation => exact wp_sampleBar hallowed evaluation
      | _ => exact hallowed.elim
    | reading row => exact hallowed.elim
    | ended => exact hallowed.elim
  · exact hallowed.elim

theorem wp_observeSampled (strategy : ObservationStrategy) (run : ObserveRun) :
    wp sampledProtocol (observeSampled strategy run) .idle fun _ q => q.Done := by
  refine wp_mono (fun out q hq => ?_) _ _
    (wp_expand wp_transactions _ .idle .idle (.inl rfl) (wp_observePair_record strategy run))
  obtain ⟨q', hsame | ⟨-, hidle⟩, hdone⟩ := hq
  · rw [hsame]
    exact hdone
  · rw [hidle]
    rfl

/-! ## All interleavings -/

def Held (c : SampledConfig) (row : SignalRow) : Prop :=
  ∃ n run p q, c.runs n = some (run, some p) ∧ wp sampledProtocol p q (fun _ q => q.Done) ∧ q.row = some row

/-- **The invariant**: every row was counted or is held, and every live run holds a row at most. -/
structure Steady (c : SampledConfig) : Prop where
  before : c.world.before ≤ c.world.file.rows.length
  counted : ∀ o ∈ c.world.counted, c.world.Recorded (barScope o) o.closedAt
  rows : ∀ row ∈ c.world.since, c.world.Counted row.pair.samplerScope row.closedAt ∨ Held c row
  live : ∀ n run p, c.runs n = some (run, some p) → ∃ q, wp sampledProtocol p q (fun _ q => q.Done) ∧
    ∀ row, q.row = some row → row ∈ c.world.since

variable {q : RecordPhase} {w w' : SampledWorld} {r : SampledReq} {ans : Except PyExc r.Ans} {row : SignalRow}

theorem holder_bar {p : SampledProg Bool} (hwp : wp sampledProtocol p q fun _ q => q.Done)
    (hrow : q.row = some row) : ∃ r k o, p = .call r k ∧ r.bar = some o ∧ row.IsBar o := by
  cases p with
  | ret b => exact absurd (hwp.symm.trans hrow) nofun
  | raise e => exact absurd (hwp.symm.trans hrow) nofun
  | call r k =>
    cases q with
    | idle => cases hrow
    | ended => cases hrow
    | appended row' =>
      cases hrow
      cases r with
      | cursor o => exact ⟨_, k, o, rfl, rfl, hwp.1⟩
      | _ => exact hwp.1.elim
    | reading row' =>
      cases hrow
      cases r with
      | advance count o => exact ⟨_, k, o, rfl, rfl, hwp.1⟩
      | _ => exact hwp.1.elim

variable {c : SampledConfig}

theorem held_counting (h : Held c row) : Counting c := by
  obtain ⟨n, run, p, q, hn, hwp, hrow⟩ := h
  obtain ⟨r, k, o, rfl, hbar, -⟩ := holder_bar hwp hrow
  exact ⟨n, run, r, k, hn, Option.isSome_iff_exists.2 ⟨o, hbar⟩⟩

/-- What a request leaves of the rows and of the bars counted: both only grow. -/
structure Grows (w w' : SampledWorld) : Prop where
  before : w'.before = w.before
  rows : w.file.rows <+: w'.file.rows
  counted : ∀ scope closedAt, w.Counted scope closedAt → w'.Counted scope closedAt

theorem Grows.refl (w : SampledWorld) : Grows w w := ⟨rfl, prefix_refl _, fun _ _ h => h⟩

theorem Grows.since (h : Grows w w') (hbefore : w.before ≤ w.file.rows.length) (hrow : row ∈ w.since) :
    row ∈ w'.since := by
  obtain ⟨later, hlater⟩ := h.rows
  unfold SampledWorld.since at hrow ⊢
  rw [h.before, ← hlater, drop_append_of_le_length hbefore]
  exact mem_append_left _ hrow

theorem sampledExec_grows (h : SampledExec w r ans w') : Grows w w' := by
  have hadvance : ∀ count o, Grows w (w.advance count o) := fun count o =>
    ⟨rfl, prefix_refl _, fun scope closedAt hcounted => by
      obtain ⟨o', ho', hbar⟩ := hcounted
      exact ⟨o', mem_append_left _ ho', hbar⟩⟩
  cases h with
  | observe hx =>
    refine ⟨rfl, ?_, fun _ _ h => h⟩
    rcases observeExec_rows hx with rfl | ⟨row, rfl, rfl⟩
    · exact prefix_refl _
    · exact prefix_append _ _
  | advanced count o => exact hadvance count o
  | lost count o e => exact hadvance count o
  | _ => exact .refl w

variable {k : Except PyExc r.Ans → SampledProg Bool}

/-- **The run that makes a request**: a row it held is held or counted after it, and a new row is held or counted. -/
theorem own_row (hwp : wp sampledProtocol (.call r k) q fun _ q => q.Done)
    (hx : SampledExec w r ans w') (horder : InOrder w r) (huncut : Uncut w w' r ans)
    (hrow : q.row = some row) :
    w'.Counted row.pair.samplerScope row.closedAt ∨ (sampledProtocol.next q r ans).row = some row := by
  cases q with
  | idle => cases hrow
  | ended => cases hrow
  | appended row' =>
    cases hrow
    cases r with
    | cursor o =>
      obtain ⟨hscope, hclosed⟩ := (show row.IsBar o from hwp.1)
      rw [← hscope, ← hclosed]
      cases hx with
      | cursor _ =>
        rcases horder with hnew | hcounted
        · refine .inr ?_
          show (if alreadyCounted _ row.closedAt = true then RecordPhase.idle else .reading row).row = _
          rw [← hclosed, hnew]
          rfl
        · exact .inl hcounted
      | failed _ e => exact .inl huncut
    | _ => exact hwp.1.elim
  | reading row' =>
    cases hrow
    cases r with
    | advance count o =>
      obtain ⟨hscope, hclosed⟩ := (show row.IsBar o from hwp.1)
      rw [← hscope, ← hclosed]
      cases hx with
      | advanced _ _ => exact .inl ⟨o, mem_append_right _ mem_cons_self, rfl, rfl⟩
      | lost _ _ e => exact .inl ⟨o, mem_append_right _ mem_cons_self, rfl, rfl⟩
      | failed _ e => exact .inl huncut
    | _ => exact hwp.1.elim

theorem new_row (hwp : wp sampledProtocol (.call r k) q fun _ q => q.Done)
    (hx : SampledExec w r ans w') (huncut : Uncut w w' r ans) (hold : row ∉ w.since)
    (hnew : row ∈ w'.since) (hbefore : w.before ≤ w.file.rows.length) :
    w'.Counted row.pair.samplerScope row.closedAt ∨ (sampledProtocol.next q r ans).row = some row := by
  have happended : ∀ row', row ∈ ({ w with file := w.file.append row' } : SampledWorld).since → row = row' := by
    intro row' hrow
    unfold SampledWorld.since ObservationFile.append at hrow
    rw [drop_append_of_le_length hbefore] at hrow
    rcases mem_append.1 hrow with hrow | hrow
    · exact absurd hrow hold
    · exact mem_singleton.1 hrow
  cases hx with
  | observe hx =>
    cases hx with
    | appended row' _ =>
      have heq := happended row' hnew
      subst heq
      cases q with
      | idle => exact .inr rfl
      | _ => exact hwp.1.elim
    | lost row' e _ =>
      have heq := happended row' hnew
      subst heq
      rcases huncut with hsame | hcounted
      · rw [hsame] at hnew
        exact absurd hnew hold
      · exact .inl hcounted
    | _ => exact absurd hnew hold
  | _ => exact absurd hnew hold

theorem since_next (hwp : wp sampledProtocol (.call r k) q fun _ q => q.Done) (hx : SampledExec w r ans w')
    (hbefore : w.before ≤ w.file.rows.length) (hq : ∀ row, q.row = some row → row ∈ w.since) :
    ∀ row, (sampledProtocol.next q r ans).row = some row → row ∈ w'.since := by
  have hgrows := sampledExec_grows hx
  intro row hrow
  cases q with
  | idle =>
    cases r with
    | observe r =>
      cases hx with
      | observe hx =>
        cases hx with
        | appended row' _ =>
          cases hrow
          show row ∈ (w.file.rows ++ [row]).drop w.before
          rw [drop_append_of_le_length hbefore]
          exact mem_append_right _ mem_cons_self
        | failed _ e => cases r <;> cases hrow
        | _ => cases hrow
      | failed _ e => cases r <;> cases hrow
    | plans o evaluation => cases hrow
    | _ => exact hwp.1.elim
  | ended => exact hwp.1.elim
  | appended row' =>
    cases r with
    | cursor o =>
      have hsame : row = row' := by
        cases ans with
        | error e => cases hrow
        | ok prior =>
          change (if alreadyCounted prior row'.closedAt = true then RecordPhase.idle else .reading row').row = some row at hrow
          split at hrow
          · cases hrow
          · cases hrow
            rfl
      rw [hsame]
      exact hgrows.since hbefore (hq row' rfl)
    | _ => exact hwp.1.elim
  | reading row' =>
    cases r with
    | advance count o => cases ans <;> cases hrow
    | _ => exact hwp.1.elim

theorem Held.of_ne {m : Nat}
    {i : ObserveRun} {p' : Option (SampledProg Bool)}
    (h : ∃ n run p q, n ≠ m ∧ c.runs n = some (run, some p) ∧ wp sampledProtocol p q (fun _ q => q.Done) ∧ q.row = some row) :
    Held ((c.setRun m i p').setWorld w) row := by
  obtain ⟨n, run, p, q, hne, hn, hwp, hrow⟩ := h
  exact ⟨n, run, p, q, (Function.update_of_ne hne _ _).trans hn, hwp, hrow⟩

theorem counted_next (hwp : wp sampledProtocol (.call r k) q fun _ q => q.Done) (hx : SampledExec w r ans w')
    (hq : ∀ row, q.row = some row → row ∈ w.since) (hold : ∀ o ∈ w.counted, w'.Recorded (barScope o) o.closedAt) :
    ∀ o ∈ w'.counted, w'.Recorded (barScope o) o.closedAt := by
  have hadvance : ∀ {count o}, r = .advance count o → w' = w.advance count o →
      ∀ o' ∈ w'.counted, w'.Recorded (barScope o') o'.closedAt := by
    rintro count o rfl rfl o' ho'
    rcases mem_append.1 ho' with ho' | ho'
    · exact hold o' ho'
    · rw [mem_singleton.1 ho']
      cases q with
      | reading row =>
        obtain ⟨hscope, hclosed⟩ := (show row.IsBar o from hwp.1)
        exact ⟨row, hq row rfl, hscope.symm, hclosed.symm⟩
      | _ => exact hwp.1.elim
  cases hx with
  | advanced count o => exact hadvance rfl rfl
  | lost count o e => exact hadvance rfl rfl
  | _ => exact hold

theorem Steady.step {c' : SampledConfig} (h : Steady c)
    (hs : StepIf sampledSystem (observeSampled strategy) (fun w r ans w' => InOrder w r ∧ Uncut w w' r ans) MayStop c c') :
    Steady c' := by
  cases hs with
  | spawn n i hn hi =>
    refine ⟨h.before, h.counted, fun row hrow => ?_, fun m j p hm => ?_⟩
    · rcases h.rows row hrow with hcounted | ⟨m, j, p, q, hm, hheld⟩
      · exact .inl hcounted
      · refine .inr (Held.of_ne (w := c.world) ⟨m, j, p, q, fun heq => ?_, hm, hheld⟩)
        rw [heq, hn] at hm
        cases hm
    · rcases Config.setRun_cases hm with ⟨_, rfl, hp⟩ | ⟨_, hold⟩
      · cases hp
        exact ⟨.idle, wp_observeSampled strategy j, nofun⟩
      · exact h.live m j p hold
  | call ans hn hx hC =>
    rename_i n i r k w
    obtain ⟨horder, huncut⟩ := hC
    have hgrows := sampledExec_grows hx
    obtain ⟨q, hwp, hq⟩ := h.live n i _ hn
    have hself : ∀ {q'} {row}, wp sampledProtocol (.call r k) q' (fun _ q => q.Done) →
        (sampledProtocol.next q' r ans).row = some row → Held ((c.setRun n i (some (k ans))).setWorld w) row :=
      fun hwp' hrow => ⟨n, i, k ans, _, c.setRun_self n i _, hwp'.2 ans, hrow⟩
    refine ⟨?_, ?_, ?_, ?_⟩
    · show w.before ≤ w.file.rows.length
      rw [hgrows.before]
      exact h.before.trans hgrows.rows.length_le
    · refine counted_next hwp hx hq fun o ho => ?_
      obtain ⟨row, hrow, hbar⟩ := h.counted o ho
      exact ⟨row, hgrows.since h.before hrow, hbar⟩
    · intro row hrow
      by_cases hold : row ∈ c.world.since
      · rcases h.rows row hold with hcounted | ⟨m, j, p, q', hm, hwp', hheld⟩
        · exact .inl (hgrows.counted _ _ hcounted)
        · by_cases hmn : m = n
          · subst hmn
            rw [hn] at hm
            cases hm
            rcases own_row hwp' hx horder huncut hheld with hcounted | hheld
            · exact .inl hcounted
            · exact .inr (hself hwp' hheld)
          · exact .inr (.of_ne ⟨m, j, p, q', hmn, hm, hwp', hheld⟩)
      · rcases new_row hwp hx huncut hold hrow h.before with hcounted | hheld
        · exact .inl hcounted
        · exact .inr (hself hwp hheld)
    · intro m j p hm
      rcases Config.setRun_cases hm with ⟨_, rfl, hp⟩ | ⟨_, hold⟩
      · cases hp
        exact ⟨_, hwp.2 ans, since_next hwp hx h.before hq⟩
      · obtain ⟨q', hwp', hq'⟩ := h.live m j p hold
        exact ⟨q', hwp', fun row hrow => hgrows.since h.before (hq' row hrow)⟩
  | stop hn hD =>
    rename_i n i p
    refine ⟨h.before, h.counted, fun row hrow => ?_, fun m j p' hm => ?_⟩
    · rcases h.rows row hrow with hcounted | ⟨m, j, p', q, hm, hwp, hheld⟩
      · exact .inl hcounted
      · by_cases hmn : m = n
        · -- a run that may be stopped has its bar counted
          subst hmn
          rw [hn] at hm
          cases hm
          obtain ⟨r, k, o, rfl, hbar, hscope, hclosed⟩ := holder_bar hwp hheld
          have hcounted := hD o hbar
          rw [hscope, hclosed] at hcounted
          exact .inl hcounted
        · exact .inr (Held.of_ne (w := c.world) ⟨m, j, p', q, hmn, hm, hwp, hheld⟩)
    · rcases Config.setRun_cases hm with ⟨_, _, hp⟩ | ⟨_, hold⟩
      · cases hp
      · exact h.live m j p' hold
  | tick hw => exact hw.elim

theorem steady_of_reachable (h : SteadyReachable strategy c) : Steady c := by
  induction h with
  | @init w h =>
    obtain ⟨hbefore, -, hcounted⟩ := h
    refine ⟨hbefore.le, fun o ho => ?_, fun row hrow => ?_, nofun⟩
    · have hnone : o ∈ w.counted := ho
      rw [hcounted] at hnone
      cases hnone
    · have hnone : row ∈ w.file.rows.drop w.before := hrow
      rw [hbefore, drop_length] at hnone
      cases hnone
  | step _ hs ih => exact ih.step hs

/-- **The sampler sees every recorded bar** wherever no bar is cut off or overtaken between its row and its count: whenever no
run is on its way to count one. -/
theorem allCounted_of_steady (strategy : ObservationStrategy)
    {c : SampledConfig} (h : SteadyReachable strategy c)
    (hrest : ¬Counting c) : c.world.AllCounted := by
  have hsteady := steady_of_reachable h
  intro scope closedAt
  constructor
  · rintro ⟨o, ho, rfl, rfl⟩
    exact hsteady.counted o ho
  · rintro ⟨row, hrow, rfl, rfl⟩
    rcases hsteady.rows row hrow with hcounted | hheld
    · exact hcounted
    · exact absurd (held_counting hheld) hrest
end

/-! ### Two daemons and a new sampler -/

local instance sampledCase : CaseMap := asciiCase

def sampledAnswer (w : SampledWorld) : (r : SampledReq) → Except PyExc r.Ans × SampledWorld
  | .observe r => ((observeAnswer w.file r).1, { w with file := (observeAnswer w.file r).2 })
  | .cursor o => (.ok (w.cursor (barScope o)), w)
  | .advance closedCount o => (.ok (), w.advance closedCount o)
  | .plans _ _ => (.ok (), w)

theorem sampledAnswer_exec (w : SampledWorld) (r : SampledReq) : SampledExec w r (sampledAnswer w r).1 (sampledAnswer w r).2 := by
  cases r with
  | observe r => exact .observe (observeAnswer_exec w.file r)
  | cursor o => exact .cursor o
  | advance closedCount o => exact .advanced closedCount o
  | plans o evaluation => exact .planned o evaluation

def newFiles : SampledWorld := ⟨⟨[], fun _ => none⟩, 0, fun _ => none, []⟩

def firstRecorded : SampledConfig :=
  ((Config.start newFiles).setRun 0 (runAt "a" 605)
    (some ((observeSampled idleStrategy (runAt "a" 605)).steps sampledAnswer 3 newFiles).1)).setWorld
      ((observeSampled idleStrategy (runAt "a" 605)).steps sampledAnswer 3 newFiles).2

theorem firstRecorded_reachable : Reachable sampledSystem (observeSampled idleStrategy) firstRecorded := by
  have hinit : Reachable sampledSystem (observeSampled idleStrategy) (.start newFiles) := .init ⟨rfl, rfl, rfl⟩
  have hsteps := Reachable.steps sampledAnswer sampledAnswer_exec 3 _ (hinit.step (.spawn 0 (runAt "a" 605) rfl trivial))
    (Config.setRun_self _ 0 _ _)
  have hsame := (Config.start newFiles).setRun_setRun 0 (runAt "a" 605) (some (observeSampled idleStrategy (runAt "a" 605)))
    (some ((observeSampled idleStrategy (runAt "a" 605)).steps sampledAnswer 3 newFiles).1) newFiles
      ((observeSampled idleStrategy (runAt "a" 605)).steps sampledAnswer 3 newFiles).2
  unfold firstRecorded
  rw [← hsame]
  exact hsteps

theorem alone_start (w : SampledWorld) (n : Nat) :
    (Config.start w : SampledConfig).Alone n := by
  intro m _ i r k h
  cases h

theorem ofExcept_ne_call (out : Except PyExc Bool) (r : SampledReq) (k : Except PyExc r.Ans → SampledProg Bool) :
    (some (Prog.ofExcept out) : Option (SampledProg Bool)) ≠ some (.call r k) := by
  intro h
  cases out <;> cases h

theorem not_counting {c : SampledConfig} {n : Nat} (h : c.Alone n)
    (i : ObserveRun) {p : Option (SampledProg Bool)} (hp : ∀ r k, p ≠ some (.call r k)) (w : SampledWorld) :
    ¬Counting ((c.setRun n i p).setWorld w) := by
  rintro ⟨m, run, r, k, hm, -⟩
  rw [Config.setWorld_runs] at hm
  rcases Config.setRun_cases hm with ⟨_, _, heq⟩ | ⟨hne, hold⟩
  · exact hp r k heq.symm
  · exact h m hne run r k hold

/-- **A recorded bar is not counted**: its daemon is stopped in between, or another daemon overtakes it. -/
theorem recorded_not_counted :
    (∃ c, Reachable sampledSystem (observeSampled idleStrategy) c ∧ ¬Counting c ∧
      c.world.since.map (·.closedAt) = [600] ∧ c.world.counted = [] ∧ ¬c.world.AllCounted) ∧
    ∃ c, Reachable sampledSystem (observeSampled idleStrategy) c ∧ ¬Counting c ∧
      c.world.since.map (·.closedAt) = [600, 660] ∧ c.world.counted.map (·.closedAt) = [660] ∧ ¬c.world.AllCounted := by
  have hmissing : ∀ {w : SampledWorld}, 600 ∈ w.since.map (·.closedAt) → 600 ∉ w.counted.map (·.closedAt) → ¬w.AllCounted := by
    intro w hrecorded hnot hall
    obtain ⟨row, hrow, hclosed⟩ := List.mem_map.1 hrecorded
    obtain ⟨o, ho, -, heq⟩ := (hall row.pair.samplerScope 600).2 ⟨row, hrow, rfl, hclosed⟩
    exact hnot (List.mem_map.2 ⟨o, ho, heq⟩)
  constructor
  · have hstopped := firstRecorded_reachable.step (.stop (n := 0) rfl)
    refine ⟨_, hstopped, ?_, by decide, by decide, hmissing (by decide) (by decide)⟩
    exact not_counting (Config.Alone.set (alone_start newFiles 0) _ _ _) _ (fun _ _ h => by cases h) firstRecorded.world
  · have hother := firstRecorded_reachable.complete (n := 1) rfl (i := runAt "b" 665) trivial sampledAnswer sampledAnswer_exec
    have hdone := Reachable.run (n := 0) sampledAnswer sampledAnswer_exec _ hother rfl
    refine ⟨_, hdone, not_counting ?_ _ (ofExcept_ne_call _) _, by decide, by decide, hmissing (by decide) (by decide)⟩
    intro m hm run r k heq
    rw [Config.setWorld_runs] at heq
    rcases Config.setRun_cases heq with ⟨_, _, hp⟩ | ⟨_, hold⟩
    · exact ofExcept_ne_call _ r k hp.symm
    · exact Config.Alone.set (alone_start newFiles 0) _ _ _ m hm run r k hold

def countsInOrder (w : SampledWorld) : SampledReq → Bool
  | .cursor o => !alreadyCounted (w.cursor (barScope o)) o.closedAt
  | _ => true

/-- One daemon on its own: its row's bar is counted. -/
theorem allCounted_of_steady_alone : ∃ c, SteadyReachable idleStrategy c ∧ c.world.since.map (·.closedAt) = [600] ∧
    c.world.AllCounted := by
  have hchecked : ∀ w r, countsInOrder w r = true → InOrder w r ∧ Uncut w (sampledAnswer w r).2 r (sampledAnswer w r).1 := by
    intro w r h
    cases r with
    | observe r =>
      refine ⟨trivial, ?_⟩
      cases r with
      | appendSignal row =>
        unfold sampledAnswer observeAnswer
        dsimp only
        split <;> exact trivial
      | _ => exact trivial
    | cursor o => exact ⟨.inl (Bool.not_eq_true' _ ▸ h), trivial⟩
    | _ => exact ⟨trivial, trivial⟩
  have hspawn : SteadyReachable idleStrategy ((Config.start newFiles).setRun 0 (runAt "a" 605) _) :=
    ReachableIf.step (.init ⟨rfl, rfl, rfl⟩) (.spawn 0 (runAt "a" 605) rfl trivial)
  have hdone := Config.run_of_checked (n := 0) (I := SteadyReachable idleStrategy) (fun g r _ hg hn hr =>
    hg.step (.call _ hn (sampledAnswer_exec g.world r) (hchecked _ _ hr))) _ hspawn (Config.setRun_self _ 0 _ _) (by decide)
  refine ⟨_, hdone, by decide, allCounted_of_steady idleStrategy hdone ?_⟩
  exact not_counting (Config.Alone.set (alone_start newFiles 0) _ _ newFiles) _ (ofExcept_ne_call _) _

end Daemon
end Jqe
