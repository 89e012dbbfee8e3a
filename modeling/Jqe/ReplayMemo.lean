import Jqe.Memo
import Jqe.Precision
import Jqe.SequentialReplay
/-!
# ReplayMemo — `_resolve_fast` behind its module-level cache

The key of `_FAST_OUTCOME_CACHE` names a series and a plan by symbol, timeframe, signal close, side, rounded levels and
horizon.
-/
namespace Jqe


structure LoadedSeries where
  symbol : String
  timeframe : Timeframe
  arrays : SeriesArrays

structure ResolveCall where
  spec : SignalSpec
  series : LoadedSeries
  horizon : ℤ
  source : String

structure OutcomeKey where
  symbol : String
  timeframe : Timeframe
  signalClose : ℤ
  side : OrderSide
  stopLoss : ℚ
  takeProfit : ℚ
  horizon : ℤ
  deriving DecidableEq

/-- `adjusted`: the plan with the horizon of the call. -/
def SignalSpec.withHorizon (spec : SignalSpec) (horizon : ℕ) (h : 0 < horizon) : SignalSpec :=
  { spec with horizonBars := horizon, horizon_pos := h }

namespace ResolveCall

def cacheKey (call : ResolveCall) : OutcomeKey where
  symbol := call.series.symbol
  timeframe := call.series.timeframe
  signalClose := call.spec.signalClose
  side := call.spec.side
  stopLoss := pyRound call.spec.stopLoss 12
  takeProfit := pyRound call.spec.takeProfit 12
  horizon := call.horizon

/-- The bars of the call: `series.slice_for(spec.signal_close, horizon)`. -/
def slice (call : ResolveCall) : List ShadowBar :=
  call.series.arrays.sliceFor call.spec.signalClose call.horizon.toNat

/-- **What `resolve_signal` says of the plan, the horizon and the slice of a call**; `SignalSpec` refuses a horizon that is
not positive. -/
def resolve (call : ResolveCall) : Except String ShadowOutcome :=
  if h : 0 < call.horizon then
    let adjusted := call.spec.withHorizon call.horizon.toNat (Int.lt_toNat.2 h)
    .ok (resolveSignal adjusted call.slice noDrill call.source .atSl none)
  else .error "horizon_bars must be positive"

def resolveFast (cache : OutcomeKey → Option ShadowOutcome) (call : ResolveCall) :
    Except String ShadowOutcome × (OutcomeKey → Option ShadowOutcome) :=
  match cache call.cacheKey with
  | some cached => (.ok cached, cache)
  | none =>
    match call.resolve with
    | .ok outcome => (.ok outcome, Function.update cache call.cacheKey (some outcome))
    | .error text => (.error text, cache)

def answers (cache : OutcomeKey → Option ShadowOutcome) : List ResolveCall → List (Except String ShadowOutcome)
  | [] => []
  | call :: calls => (resolveFast cache call).1 :: answers (resolveFast cache call).2 calls

/-- **Two calls that ask the same**: the plan but for its own horizon, the slice and the source. -/
structure SameInput (call call' : ResolveCall) : Prop where
  spec : call.spec.withHorizon 1 Nat.one_pos = call'.spec.withHorizon 1 Nat.one_pos
  slice : call.slice = call'.slice
  source : call.source = call'.source

theorem resolveFast_eq (cache : OutcomeKey → Option ShadowOutcome) (call : ResolveCall) :
    resolveFast cache call = Memo.call cacheKey resolve cache call := by
  unfold resolveFast Memo.call
  cases cache call.cacheKey with
  | some cached => rfl
  | none => cases call.resolve <;> rfl

theorem answers_eq (cache : OutcomeKey → Option ShadowOutcome) (calls : List ResolveCall) :
    answers cache calls = Memo.run cacheKey resolve cache calls := by
  induction calls generalizing cache with
  | nil => rfl
  | cons call calls ih =>
    rw [answers, Memo.run, ih, resolveFast_eq]

theorem SameInput.resolve_eq {call call' : ResolveCall} (h : call.SameInput call')
    (hhorizon : call.horizon = call'.horizon) : call.resolve = call'.resolve := by
  have hadjusted : ∀ n hn, call.spec.withHorizon n hn = call'.spec.withHorizon n hn := by
    intro n hn
    have hspec := h.spec
    unfold SignalSpec.withHorizon at hspec ⊢
    simp only [SignalSpec.mk.injEq] at hspec ⊢
    tauto
  unfold resolve
  by_cases hpos : 0 < call.horizon
  · have hpos' : 0 < call'.horizon := hhorizon ▸ hpos
    rw [dif_pos hpos, dif_pos hpos']
    simp only [hadjusted, hhorizon, h.slice, h.source]
  · have hpos' : ¬0 < call'.horizon := hhorizon ▸ hpos
    rw [dif_neg hpos, dif_neg hpos']

end ResolveCall

/-- **A sequence of calls is answered as `resolve_signal` answers each of them, exactly when no call has the key of an earlier
one with another outcome; and so it is whenever calls of one key ask the same.** -/
theorem memo_transparent (calls : List ResolveCall) :
    (ResolveCall.answers (fun _ => none) calls = calls.map ResolveCall.resolve ↔
        calls.Pairwise fun call call' => call.cacheKey = call'.cacheKey →
          ∀ outcome, call.resolve = .ok outcome → call'.resolve = .ok outcome) ∧
      ((calls.Pairwise fun call call' => call.cacheKey = call'.cacheKey → call.SameInput call') →
        ResolveCall.answers (fun _ => none) calls = calls.map ResolveCall.resolve) := by
  rw [ResolveCall.answers_eq]
  refine ⟨Memo.run_eq_map_iff, fun hsame => Memo.run_eq_map_iff.2 (hsame.imp fun hinput hkey outcome hok => ?_)⟩
  have hhorizon := congrArg OutcomeKey.horizon hkey
  rw [← (hinput hkey).resolve_eq hhorizon]
  exact hok

def reloadedCall (bars : List ShadowBar) (h : Chronological bars) : ResolveCall where
  spec := twoBarPlan
  series := ⟨"PAINX 1200", .m1, ⟨bars, 0, h⟩⟩
  horizon := 2
  source := "sequential"

def answeredStatus (answer : Except String ShadowOutcome) : Option ShadowStatus := answer.toOption.map ShadowOutcome.status

/-- The series is loaded again with a bar at the stop, and the call is answered with the timeout of before. -/
theorem memo_stale :
    let calls := [reloadedCall [quietBar 60] (List.pairwise_singleton _ _),
      reloadedCall [quietBar 60, twoBarPlan.stopBar 120] (List.pairwise_pair.2 (by decide))]
    (ResolveCall.answers (fun _ => none) calls).map answeredStatus = [some .timeout, some .timeout] ∧
      (calls.map ResolveCall.resolve).map answeredStatus = [some .timeout, some .sl] ∧
      ResolveCall.answers (fun _ => none) calls ≠ calls.map ResolveCall.resolve := by
  intro calls
  have hstatus : (ResolveCall.answers (fun _ => none) calls).map answeredStatus = [some .timeout, some .timeout] ∧
      (calls.map ResolveCall.resolve).map answeredStatus = [some .timeout, some .sl] := by
    decide +kernel
  refine ⟨hstatus.1, hstatus.2, fun heq => ?_⟩
  rw [heq, hstatus.2] at hstatus
  simp at hstatus

end Jqe
