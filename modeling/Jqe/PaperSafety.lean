import Jqe.CoroEvents
import Jqe.PaperRuntime
/-!
# PaperSafety — which observations are decided on

A cycle decides and trades only between its claim and its completion, on the observation it claimed (`runOnce_conforms`).
While a scope's row says PROCESSING, the cycle that claimed it is the only one that may act there.
-/
namespace Jqe

open Coro Prog ContinuousPaperRuntime List
open PaperRuntimeStateStore (begin)
open PaperGateway (build)

/-- **Where a cycle stands with its claim.** -/
inductive CyclePhase where
  | idle
  | claimed (o : ClosedMarketObservation) (decided : Bool)
  | done
  deriving DecidableEq

def cyclePhases : Protocol PaperReq PaperReq.Ans PyExc CyclePhase where
  allows
    | φ, .begin _ => φ = .idle
    | φ, .decide os => ∃ o, φ = .claimed o false ∧ os.getLast? = some o
    | φ, .observe _ o => ∃ decided, φ = .claimed o decided
    | φ, .venue g _ => ∃ decided, φ = .claimed g.observation decided
    | φ, .complete o => ∃ decided, φ = .claimed o decided
    | _, _ => True
  next
    | .idle, .begin o, .ok .new => .claimed o false
    | .claimed o _, .decide _, _ => .claimed o true
    | .claimed _ _, .complete _, .ok _ => .done
    | φ, _, _ => φ

/-- The requests that have nothing to do with a claim. -/
def Unclaimed : PaperReq → Prop
  | .begin _ | .decide _ | .observe .. | .venue .. | .complete _ => False
  | _ => True

def Within (o : ClosedMarketObservation) : PaperReq → Prop
  | .begin _ | .decide _ | .complete _ => False
  | .observe _ o' => o' = o
  | .venue g _ => g.observation = o
  | _ => True

def Trades (o : ClosedMarketObservation) : PaperReq → Prop
  | .venue g _ => g.observation = o
  | .paperEvent _ => True
  | _ => False

variable {o : ClosedMarketObservation}

theorem Trades.within {r : PaperReq} (h : Trades o r) : Within o r := by
  cases r with
  | venue => exact h
  | paperEvent => exact trivial
  | _ => exact h.elim

theorem unclaimed_allowed (φ : CyclePhase) (r : PaperReq) (h : Unclaimed r) :
    cyclePhases.allows φ r ∧ ∀ ans, cyclePhases.next φ r ans = φ := by
  cases r with
  | begin | decide | observe | venue | complete => exact h.elim
  | _ => exact ⟨trivial, fun _ => by cases φ <;> rfl⟩

theorem within_allowed {decided : Bool} (r : PaperReq) (h : Within o r) :
    cyclePhases.allows (.claimed o decided) r ∧
      ∀ ans, cyclePhases.next (.claimed o decided) r ans = .claimed o decided := by
  cases r with
  | begin | decide | complete => exact h.elim
  | observe c o' =>
    cases h
    exact ⟨⟨decided, rfl⟩, fun _ => rfl⟩
  | venue g r =>
    cases h
    exact ⟨⟨decided, rfl⟩, fun _ => rfl⟩
  | _ => exact ⟨trivial, fun _ => rfl⟩

theorem makes_ask {C : PaperReq → Prop} {r : PaperReq} (h : C r) : (ContinuousPaperRuntime.ask r).Makes C :=
  makes_perform h

theorem wp_unclaimed {α : Type} {p : PaperProg α} (hp : p.Makes Unclaimed) (φ : CyclePhase) :
    wp cyclePhases p φ fun _ φ' => φ' = φ := wp_of_makes (unclaimed_allowed φ) hp

theorem wp_within {α : Type} {p : PaperProg α} (hp : p.Makes (Within o)) (decided : Bool) :
    wp cyclePhases p (.claimed o decided) fun _ φ' => φ' = .claimed o decided := wp_of_makes within_allowed hp

theorem wp_finallyDo_true {α β : Type} {p : PaperProg α} {c : PaperProg β} {φ : CyclePhase}
    (hp : wp cyclePhases p φ fun _ _ => True) (hc : ∀ φ', wp cyclePhases c φ' fun _ _ => True) :
    wp cyclePhases (p.finallyDo c) φ fun _ _ => True := by
  rw [wp_finallyDo]
  refine wp_mono (fun out φ' _ => wp_mono ?_ _ _ (hc φ')) _ _ hp
  rintro (exc | b) _ _
  · exact trivial
  · exact trivial

theorem PaperGateway.build_observation {now : Int} {risk : Option PyFloat} {entry : PyFloat} {g : PaperGateway}
    (h : build o now risk entry = .ok g) : g.observation = o := by
  unfold build at h
  split at h
  · cases h
  · split at h
    · cases h
    · split at h
      · split at h
        · cases h
        · cases h
          rfl
      · cases h

section Programs

theorem makes_observePositions {C : PaperReq → Prop} {o : ClosedMarketObservation} (hobserve : ∀ c, C (.observe c o))
    (hreconcile : ∀ c, C (.reconcile c)) (hevent : ∀ kind, C (.paperEvent kind)) :
    ∀ (positions : List PaperPosition) (n : Nat), (observePositions o positions n).Makes C
  | [], n => makes_pure n
  | p :: rest, n => by
    unfold observePositions
    have hrest := makes_observePositions hobserve hreconcile hevent rest
    split
    · exact hrest n
    · split
      · refine makes_bind (makes_ask (hobserve _)) fun closed => ?_
        cases closed with
        | none => exact hrest n
        | some closed =>
          refine makes_bind (makes_ask (hreconcile _)) fun reconciled => ?_
          split
          · exact trivial
          · exact makes_bind (makes_ask (hevent _)) fun _ => makes_bind (makes_ask (hevent _)) fun _ => hrest (n + 1)
      · exact hrest n

theorem makes_ignored (now : Int) (action : String) : (ignored now action).Makes Unclaimed :=
  makes_bind (makes_ask trivial) fun _ => makes_bind (makes_ask trivial) fun _ =>
    makes_bind (makes_ask trivial) fun _ => makes_pure _

theorem makes_publishHeartbeat : publishHeartbeat.Makes Unclaimed :=
  makes_bind (makes_ask trivial) fun _ => makes_bind (makes_ask trivial) fun _ => makes_pure _

theorem makes_failed [ExcClass] (now : Int) (exc : PyExc) : (failed now exc).Makes Unclaimed :=
  makes_bind (makes_ask trivial) fun _ => makes_bind (makes_ask trivial) fun _ => makes_ask trivial

variable [CaseFold]

theorem makes_reportSubmission {C : PaperReq → Prop} (hevent : ∀ kind, C (.paperEvent kind)) (signal : String)
    (result : ExecutionResult) : (reportSubmission signal result).Makes C := by
  unfold reportSubmission
  split
  · exact makes_bind (makes_ask (hevent _)) fun _ => makes_pure _
  · split
    · exact makes_bind (makes_ask (hevent _)) fun _ => makes_pure _
    · split
      · exact makes_bind (makes_ask (hevent _)) fun _ => makes_pure _
      · exact makes_bind (makes_ask (hevent _)) fun _ => makes_pure _

variable [CaseMap]

theorem makes_submitEntry (now : Int) (o : ClosedMarketObservation) (entry : PaperEntry) :
    (submitEntry now o entry).Makes (Trades o) := by
  unfold submitEntry
  refine makes_bind (makes_ask trivial) fun _ => ?_
  cases hg : build o now entry.intent.authorizedRiskAmount entry.intent.entry with
  | error exc => exact trivial
  | ok g =>
    change (((AsyncTradeExecutor.submit (submitCall entry)).interpret fun r =>
      ContinuousPaperRuntime.ask (.venue g r)) >>= reportSubmission entry.intent.side.raw).Makes _
    refine makes_bind (makes_interpret (makes_any _) fun r _ => makes_ask ?_) fun result => ?_
    · exact PaperGateway.build_observation hg
    · exact makes_reportSubmission (fun _ => trivial) _ _

theorem wp_work (now : Int) (os : List ClosedMarketObservation) (o : ClosedMarketObservation)
    (ho : os.getLast? = some o) :
    wp cyclePhases (work now os o) (.claimed o false) fun out φ => ∀ report, out = .ok report → φ = .claimed o true := by
  unfold work
  rw [wp_bind]
  refine (wp_perform _ _ _).2 ⟨trivial, ?_⟩
  rintro (exc | positions)
  · exact fun report h => by cases h
  change wp cyclePhases _ (.claimed o false) _
  rw [wp_bind]
  refine wp_mono ?_ _ _ (wp_within
    (makes_observePositions (fun _ => rfl) (fun _ => trivial) (fun _ => trivial) positions 0) false)
  rintro (exc | closedCount) φ rfl
  · exact fun report h => by cases h
  dsimp only
  rw [wp_bind]
  refine (wp_perform _ _ _).2 ⟨⟨o, rfl, ho⟩, ?_⟩
  rintro (exc | _)
  · exact fun report h => by cases h
  change wp cyclePhases _ (.claimed o true) _
  rw [wp_bind]
  refine (wp_perform _ _ _).2 ⟨trivial, ?_⟩
  rintro (exc | entry)
  · exact fun report h => by cases h
  cases entry with
  | none => exact fun _ _ => rfl
  | some entry =>
    refine wp_mono ?_ _ _ (wp_within (makes_mono (fun _ => Trades.within) (makes_submitEntry now o entry)) true)
    exact fun _ φ hφ _ _ => hφ

theorem wp_claimed (now : Int) (os : List ClosedMarketObservation) (o : ClosedMarketObservation)
    (ho : os.getLast? = some o) (claim : ObservationClaim) (φ : CyclePhase) (hφ : claim = .new → φ = .claimed o false) :
    wp cyclePhases (claimed now os o claim) φ fun _ _ => True := by
  cases claim with
  | unresolved => exact trivial
  | duplicate => exact wp_mono (fun _ _ _ => trivial) _ _ (wp_unclaimed (makes_bind (makes_ignored now _) fun _ => makes_pure _) φ)
  | old => exact wp_mono (fun _ _ _ => trivial) _ _ (wp_unclaimed (makes_bind (makes_ignored now _) fun _ => makes_pure _) φ)
  | new =>
    rw [hφ rfl]
    unfold claimed
    rw [wp_bind]
    refine wp_mono ?_ _ _ (wp_work now os o ho)
    rintro (exc | report) φ' hreport
    · exact trivial
    dsimp only
    rw [hreport report rfl]
    unfold finishCycle
    rw [wp_bind, wp_bind]
    refine (wp_perform _ _ _).2 ⟨⟨true, rfl⟩, ?_⟩
    rintro (exc | _)
    · exact trivial
    dsimp only
    rw [wp_bind]
    refine (wp_perform _ _ _).2 ⟨trivial, ?_⟩
    rintro (exc | positions)
    · exact trivial
    dsimp only
    rw [wp_bind]
    refine (wp_perform _ _ _).2 ⟨trivial, ?_⟩
    rintro (exc | heartbeat)
    · exact trivial
    refine (wp_perform _ _ _).2 ⟨trivial, ?_⟩
    rintro (exc | _)
    · exact trivial
    · exact trivial

theorem wp_cycle (now : Int) : wp cyclePhases (cycle now) .idle fun _ _ => True := by
  unfold cycle
  rw [wp_bind]
  refine (wp_perform _ _ _).2 ⟨trivial, ?_⟩
  rintro (exc | os)
  · exact trivial
  cases os with
  | nil => exact trivial
  | cons first rest =>
    dsimp only [cycleWith]
    split
    · exact trivial
    · split
      · exact trivial
      · rw [wp_bind]
        refine (wp_perform _ _ _).2 ⟨rfl, ?_⟩
        rintro (exc | claim)
        · exact trivial
        · refine wp_claimed now _ _ (getLast?_eq_some_getLast _) claim _ ?_
          rintro rfl
          rfl

variable [ExcClass]

theorem wp_cycleAt (now : Int) : wp cyclePhases (cycleAt now) .idle fun _ _ => True := by
  unfold cycleAt
  rw [wp_bindAny]
  refine wp_mono ?_ _ _ (wp_cycle now)
  rintro (exc | _ | heartbeat) φ _
  · dsimp only
    split
    · exact wp_mono (fun _ _ _ => trivial) _ _
        (wp_unclaimed (makes_bind (makes_failed now exc) fun _ => makes_publishHeartbeat) φ)
    · exact trivial
  · exact wp_mono (fun _ _ _ => trivial) _ _ (wp_unclaimed makes_publishHeartbeat φ)
  · exact trivial

/-- **A cycle decides, observes and trades only on what it has claimed and not completed, and decides once.** -/
theorem runOnce_conforms : wp cyclePhases runOnce .idle fun _ _ => True := by
  unfold runOnce
  rw [wp_bind]
  refine (wp_perform _ _ _).2 ⟨trivial, ?_⟩
  rintro (exc | free)
  · exact trivial
  cases free with
  | false => exact trivial
  | true =>
    change wp cyclePhases (finallyDo _ _) .idle _
    refine wp_finallyDo_true ?_ fun φ => ?_
    · rw [wp_bind]
      refine (wp_perform _ _ _).2 ⟨trivial, ?_⟩
      rintro (exc | now)
      · exact trivial
      · exact wp_cycleAt now
    · exact (wp_perform _ _ _).2 ⟨trivial, fun _ => trivial⟩

end Programs

/-! ### What the table says -/

abbrev PaperRunEvent := Nat × Event PaperReq PaperReq.Ans PyExc

def decidedOn : PaperRunEvent → Option ClosedMarketObservation
  | (_, ⟨.decide os, _⟩) => os.getLast?
  | _ => none

def decided (evs : List PaperRunEvent) : List ClosedMarketObservation := evs.filterMap decidedOn

theorem decided_snoc (evs : List PaperRunEvent) (e : PaperRunEvent) :
    decided (evs ++ [e]) = decided evs ++ (decidedOn e).toList := by
  unfold decided
  rw [filterMap_append]
  cases h : decidedOn e <;> simp [h]

def phase (n : Nat) (evs : List PaperRunEvent) : CyclePhase := phaseOf cyclePhases .idle n evs

theorem phase_snoc {evs : List PaperRunEvent} {n : Nat} {r : PaperReq} {ans : Except PyExc r.Ans} (m : Nat) :
    phase m (evs ++ [(n, ⟨r, ans⟩)]) = if n = m then cyclePhases.next (phase n evs) r ans else phase m evs := by
  unfold phase
  by_cases hm : n = m
  · subst hm
    rw [phaseOf_snoc_self, if_pos rfl]
  · rw [phaseOf_snoc_of_ne hm, if_neg hm]

theorem claimed_stays {n : Nat} {o : ClosedMarketObservation} : ∀ (evs : List PaperRunEvent) (d : Bool),
    (∀ o', (n, ⟨.complete o', .ok ()⟩) ∉ evs) → ∃ d', phaseOf cyclePhases (.claimed o d) n evs = .claimed o d'
  | [], d, _ => ⟨d, rfl⟩
  | (m, ⟨r, ans⟩) :: evs, d, h => by
    have hrest : ∀ o', (n, ⟨.complete o', .ok ()⟩) ∉ evs := fun o' ho' => h o' (mem_cons_of_mem _ ho')
    have hnext : ∃ d', (if m = n then cyclePhases.next (.claimed o d) r ans else .claimed o d) = .claimed o d' := by
      by_cases hm : m = n
      · subst hm
        rw [if_pos rfl]
        cases r with
        | decide os => exact ⟨true, rfl⟩
        | complete o' =>
          cases ans with
          | ok _ => exact absurd mem_cons_self (h o')
          | error exc => exact ⟨d, rfl⟩
        | _ => exact ⟨d, rfl⟩
      · exact ⟨d, if_neg hm⟩
    obtain ⟨d', hd'⟩ := hnext
    unfold phaseOf
    rw [foldl_cons]
    dsimp only
    rw [hd']
    exact claimed_stays evs d' hrest

section Claims

variable [CaseMap] {o : ClosedMarketObservation}

/-- **A claim that is granted** finds no row in progress and only older ones, and leaves its own. -/
theorem begin_new {table : PyDict ObservationRow} (h : (begin o table).1 = .new) :
    (begin o table).2 = table.set o.scope ⟨o.closedAt, .processing⟩ ∧
      ∀ row, table.get? o.scope = some row → row.state ≠ .processing ∧ row.closedAt < o.closedAt := by
  unfold begin at h ⊢
  cases hrow : table.get? o.scope with
  | none => exact ⟨rfl, fun row hrow => by cases hrow⟩
  | some row =>
    rw [hrow] at h
    dsimp only at h ⊢
    by_cases hstate : row.state = .processing
    · rw [if_pos hstate] at h
      cases h
    rw [if_neg hstate] at h ⊢
    by_cases heq : o.closedAt = row.closedAt
    · rw [if_pos heq] at h
      cases h
    rw [if_neg heq] at h ⊢
    by_cases hlt : o.closedAt < row.closedAt
    · rw [if_pos hlt] at h
      cases h
    rw [if_neg hlt]
    refine ⟨rfl, fun row' hrow' => ?_⟩
    cases hrow'
    exact ⟨hstate, by omega⟩

theorem begin_not_new {table : PyDict ObservationRow} (h : (begin o table).1 ≠ .new) :
    (begin o table).2 = table := by
  unfold begin at h ⊢
  cases hrow : table.get? o.scope with
  | none =>
    rw [hrow] at h
    exact absurd rfl h
  | some row =>
    rw [hrow] at h
    dsimp only at h ⊢
    split
    · rfl
    · split
      · rfl
      · split
        · rfl
        · rename_i hstate heq hlt
          rw [if_neg hstate, if_neg heq, if_neg hlt] at h
          exact absurd rfl h

def ActsOn (scope : String) : PaperReq → Prop
  | .decide os => ∃ o, os.getLast? = some o ∧ o.scope = scope
  | .venue g (.submitOrder _) => g.observation.scope = scope
  | _ => False

/-- **What every execution keeps.** -/
structure ClaimsHeld (evs : List PaperRunEvent) (w : PaperWorld) : Prop where
  held : ∀ n o d, phase n evs = .claimed o d → w.observations.get? o.scope = some ⟨o.closedAt, .processing⟩
  alone : ∀ n m o o' d d', phase n evs = .claimed o d → phase m evs = .claimed o' d' → o.scope = o'.scope → n = m
  reached : ∀ o ∈ decided evs, ∃ row, w.observations.get? o.scope = some row ∧ o.closedAt ≤ row.closedAt
  undecided : ∀ n o, phase n evs = .claimed o false → ∀ o' ∈ decided evs, o'.scope = o.scope → o'.closedAt < o.closedAt
  increasing : (decided evs).Pairwise fun o o' => o.scope = o'.scope → o.closedAt < o'.closedAt

variable {evs : List PaperRunEvent} {w : PaperWorld} {n : Nat}

theorem ClaimsHeld.quiet (h : ClaimsHeld evs w) {r : PaperReq} {ans : Except PyExc r.Ans} {w' : PaperWorld}
    (hphase : cyclePhases.next (phase n evs) r ans = phase n evs) (hdecided : decidedOn (n, ⟨r, ans⟩) = none)
    (hw : w'.observations = w.observations) : ClaimsHeld (evs ++ [(n, ⟨r, ans⟩)]) w' := by
  have hphases : ∀ m, phase m (evs ++ [(n, ⟨r, ans⟩)]) = phase m evs := by
    intro m
    rw [phase_snoc, hphase]
    split
    · rename_i hm
      rw [hm]
    · rfl
  have hsame : decided (evs ++ [(n, ⟨r, ans⟩)]) = decided evs := by rw [decided_snoc, hdecided, Option.toList_none, append_nil]
  constructor
  · intro m o d hm
    rw [hphases] at hm
    rw [hw]
    exact h.held m o d hm
  · intro m m' o o' d d' hm hm'
    rw [hphases] at hm hm'
    exact h.alone m m' o o' d d' hm hm'
  · rw [hsame, hw]
    exact h.reached
  · intro m o hm
    rw [hphases] at hm
    rw [hsame]
    exact h.undecided m o hm
  · rw [hsame]
    exact h.increasing

/-- One cycle has moved: it has no claim now, or one on a scope that no other cycle has claimed. -/
theorem ClaimsHeld.alone_moved (h : ClaimsHeld evs w) {evs' : List PaperRunEvent} {φ : CyclePhase}
    (hphases : ∀ m, phase m evs' = if n = m then φ else phase m evs)
    (hfree : ∀ o d m o' d', φ = .claimed o d → n ≠ m → phase m evs = .claimed o' d' → o'.scope ≠ o.scope) (m m' : ℕ)
    (o₁ o₂ : ClosedMarketObservation) (d₁ d₂ : Bool) (hm : phase m evs' = .claimed o₁ d₁)
    (hm' : phase m' evs' = .claimed o₂ d₂) (hscope : o₁.scope = o₂.scope) : m = m' := by
  rw [hphases] at hm hm'
  split at hm <;> rename_i hnm <;> split at hm' <;> rename_i hnm'
  · exact hnm.symm.trans hnm'
  · exact absurd hscope.symm (hfree _ _ _ _ _ hm hnm' hm')
  · exact absurd hscope (hfree _ _ _ _ _ hm' hnm hm)
  · exact h.alone m m' o₁ o₂ d₁ d₂ hm hm' hscope

theorem ClaimsHeld.claim (h : ClaimsHeld evs w) (hidle : phase n evs = .idle)
    (hnew : (begin o w.observations).1 = .new) :
    ClaimsHeld (evs ++ [(n, ⟨.begin o, .ok .new⟩)])
      { w with observations := (begin o w.observations).2 } := by
  obtain ⟨htable, hrow⟩ := begin_new hnew
  rw [htable]
  -- nobody else is at work in the scope: its row would be in progress
  have hfree : ∀ m o' d, phase m evs = .claimed o' d → o'.scope ≠ o.scope := by
    intro m o' d hm hscope
    have hheld := h.held m o' d hm
    rw [hscope] at hheld
    exact (hrow _ hheld).1 rfl
  have hphase : ∀ m, phase m (evs ++ [(n, ⟨.begin o, .ok .new⟩)]) = if n = m then .claimed o false else phase m evs := by
    intro m
    rw [phase_snoc, hidle]
    rfl
  have hsame : decided (evs ++ [(n, ⟨.begin o, .ok .new⟩)]) = decided evs := by
    rw [decided_snoc]
    exact append_nil _
  have holder : ∀ o' ∈ decided evs, o'.scope = o.scope → o'.closedAt < o.closedAt := by
    intro o' ho' hscope
    obtain ⟨row, hget, hle⟩ := h.reached o' ho'
    rw [hscope] at hget
    have hlt := (hrow row hget).2
    omega
  constructor
  · intro m o' d hm
    rw [hphase] at hm
    dsimp only
    split at hm
    · cases hm
      exact PyDict.get?_set_self _ _ _
    · rw [PyDict.get?_set_of_ne _ _ (hfree m o' d hm)]
      exact h.held m o' d hm
  · refine h.alone_moved hphase fun o₁ d m o' d' hclaim _ hm => ?_
    cases hclaim
    exact hfree m o' d' hm
  · rw [hsame]
    intro o' ho'
    dsimp only
    by_cases hscope : o'.scope = o.scope
    · rw [hscope, PyDict.get?_set_self]
      exact ⟨_, rfl, (holder o' ho' hscope).le⟩
    · rw [PyDict.get?_set_of_ne _ _ hscope]
      exact h.reached o' ho'
  · intro m o₁ hm
    rw [hphase] at hm
    rw [hsame]
    by_cases hnm : n = m
    · rw [if_pos hnm] at hm
      cases hm
      exact holder
    · rw [if_neg hnm] at hm
      exact h.undecided m o₁ hm
  · rw [hsame]
    exact h.increasing

theorem ClaimsHeld.decide (h : ClaimsHeld evs w) {os : List ClosedMarketObservation}
    (hphase : phase n evs = .claimed o false) (ho : os.getLast? = some o) (ans : Except PyExc Unit) :
    ClaimsHeld (evs ++ [(n, ⟨.decide os, ans⟩)]) w := by
  have hphases : ∀ m, phase m (evs ++ [(n, ⟨.decide os, ans⟩)]) = if n = m then .claimed o true else phase m evs := by
    intro m
    rw [phase_snoc, hphase]
    rfl
  have hdecided : decided (evs ++ [(n, ⟨.decide os, ans⟩)]) = decided evs ++ [o] := by
    rw [decided_snoc]
    unfold decidedOn
    dsimp only
    rw [ho, Option.toList_some]
  constructor
  · intro m o' d hm
    rw [hphases] at hm
    split at hm
    · cases hm
      exact h.held n o false hphase
    · exact h.held m o' d hm
  · refine h.alone_moved hphases fun o₁ d m o' d' hclaim hnm hm hscope => ?_
    cases hclaim
    exact hnm (h.alone n m o o' false d' hphase hm hscope.symm)
  · rw [hdecided]
    intro o' ho'
    rcases mem_append.1 ho' with hold | hnew
    · exact h.reached o' hold
    · rw [mem_singleton.1 hnew]
      exact ⟨_, h.held n o false hphase, le_rfl⟩
  · intro m o₁ hm
    rw [hphases] at hm
    by_cases hnm : n = m
    · rw [if_pos hnm] at hm
      cases hm
    · rw [if_neg hnm] at hm
      rw [hdecided]
      intro o' ho' hscope
      rcases mem_append.1 ho' with hold | hnew
      · exact h.undecided m o₁ hm o' hold hscope
      · rw [mem_singleton.1 hnew] at hscope
        exact absurd (h.alone n m o o₁ false false hphase hm hscope) hnm
  · rw [hdecided, pairwise_append]
    refine ⟨h.increasing, pairwise_singleton _ _, fun o' ho' o'' ho'' hscope => ?_⟩
    rw [mem_singleton.1 ho''] at hscope ⊢
    exact h.undecided n o hphase o' ho' hscope

theorem ClaimsHeld.complete (h : ClaimsHeld evs w) {d : Bool} (hphase : phase n evs = .claimed o d) :
    ClaimsHeld (evs ++ [(n, ⟨.complete o, .ok ()⟩)])
      { w with observations := PaperRuntimeStateStore.complete o w.observations } := by
  have hheld := h.held n o d hphase
  have htable : PaperRuntimeStateStore.complete o w.observations = w.observations.set o.scope ⟨o.closedAt, .complete⟩ := by
    unfold PaperRuntimeStateStore.complete
    rw [hheld]
  have hphases : ∀ m, phase m (evs ++ [(n, ⟨.complete o, .ok ()⟩)]) = if n = m then .done else phase m evs := by
    intro m
    rw [phase_snoc, hphase]
    rfl
  have hsame : decided (evs ++ [(n, ⟨.complete o, .ok ()⟩)]) = decided evs := by
    rw [decided_snoc]
    exact append_nil _
  rw [htable]
  constructor
  · intro m o' d' hm
    rw [hphases] at hm
    dsimp only
    by_cases hnm : n = m
    · rw [if_pos hnm] at hm
      cases hm
    · rw [if_neg hnm] at hm
      rw [PyDict.get?_set_of_ne _ _ fun hscope => hnm (h.alone n m o o' d d' hphase hm hscope.symm)]
      exact h.held m o' d' hm
  · exact h.alone_moved hphases fun _ _ _ _ _ hclaim => by cases hclaim
  · rw [hsame]
    intro o' ho'
    dsimp only
    by_cases hscope : o'.scope = o.scope
    · obtain ⟨row, hget, hle⟩ := h.reached o' ho'
      rw [hscope, hheld] at hget
      cases hget
      rw [hscope, PyDict.get?_set_self]
      exact ⟨_, rfl, hle⟩
    · rw [PyDict.get?_set_of_ne _ _ hscope]
      exact h.reached o' ho'
  · intro m o₁ hm
    rw [hphases] at hm
    rw [hsame]
    by_cases hnm : n = m
    · rw [if_pos hnm] at hm
      cases hm
    · rw [if_neg hnm] at hm
      exact h.undecided m o₁ hm
  · rw [hsame]
    exact h.increasing

variable [CaseFold] [ExcClass] {c : Config PaperReq PaperReq.Ans PyExc PaperRuntimeHeartbeat PaperWorld PaperCycle}

theorem cycles_conform : ∀ i : PaperCycle, paperSystem.admits i →
    wp cyclePhases (runOnce : PaperProg PaperRuntimeHeartbeat) .idle fun _ _ => True := fun _ _ => runOnce_conforms

theorem Recorded.claimsHeld (h : Recorded paperSystem (fun _ => runOnce) evs c) : ClaimsHeld evs c.world := by
  refine Recorded.invariant cycles_conform ?_ ?_ ?_ h
  · intro w hw
    exact ⟨fun n o d hn => (by cases hn), fun n m o o' d d' hn => (by cases hn), fun o ho => (by cases ho),
      fun n o hn => (by cases hn), List.Pairwise.nil⟩
  · intro evs w n i r ans w' ih hallowed hx
    have hnext : ∀ {r' : PaperReq} {ans' : Except PyExc r'.Ans}, Unclaimed r' →
        cyclePhases.next (phase n evs) r' ans' = phase n evs := fun h => (unclaimed_allowed _ _ h).2 _
    cases hx with
    | tryLock | unlock | heartbeat | setHeartbeat | now | source | positions | reconcile | paperEvent | decision |
      publish | publishFailed => exact ih.quiet (hnext trivial) rfl rfl
    | begin o =>
      have hidle : phase n evs = .idle := hallowed
      by_cases hnew : (begin o w.observations).1 = .new
      · have hclaim := ih.claim hidle hnew
        rw [← hnew] at hclaim
        exact hclaim
      · refine ih.quiet ?_ rfl (begin_not_new hnew)
        rw [hidle]
        generalize (begin o w.observations).1 = claim at hnew ⊢
        cases claim with
        | new => exact absurd rfl hnew
        | _ => rfl
    | beginFailed o exc =>
      have hidle : phase n evs = .idle := hallowed
      refine ih.quiet ?_ rfl rfl
      rw [hidle]
      rfl
    | observe contractId o =>
      obtain ⟨d, hphase⟩ := hallowed
      change phase n evs = _ at hphase
      refine ih.quiet ?_ rfl rfl
      rw [hphase]
      rfl
    | decide os =>
      obtain ⟨o, hphase, ho⟩ := hallowed
      exact ih.decide hphase ho _
    | venue g r he =>
      obtain ⟨d, hphase⟩ := hallowed
      change phase n evs = _ at hphase
      refine ih.quiet ?_ rfl rfl
      rw [hphase]
      rfl
    | store g r ans he =>
      obtain ⟨d, hphase⟩ := hallowed
      change phase n evs = _ at hphase
      refine ih.quiet ?_ rfl rfl
      rw [hphase]
      rfl
    | complete o =>
      obtain ⟨d, hphase⟩ := hallowed
      exact ih.complete hphase
    | completeFailed o exc =>
      obtain ⟨d, hphase⟩ := hallowed
      change phase n evs = _ at hphase
      refine ih.quiet ?_ rfl rfl
      rw [hphase]
      rfl
  · intro evs w w' ih ht
    exact ⟨fun n o d hn => by rw [ht]; exact ih.held n o d hn, ih.alone, fun o ho => by rw [ht]; exact ih.reached o ho,
      ih.undecided, ih.increasing⟩

/-- **The decision builder is never asked twice about one candle of a market, nor about an earlier one after a later
one**, and once a cycle has claimed a candle of a market, no other cycle decides or trades there until it has completed
it: never, if it stops or fails before.  A candle's `closed_at` is in UTC. -/
theorem paper_observation_safety (h : Recorded paperSystem (fun _ => runOnce) evs c) :
    (decided evs).Pairwise (fun o o' => o.scope = o'.scope → o.closedAt < o'.closedAt) ∧
    ∀ pre n o rest, evs = pre ++ (n, ⟨.begin o, .ok .new⟩) :: rest → (∀ o', (n, ⟨.complete o', .ok ()⟩) ∉ rest) →
      ∀ m r ans, (m, ⟨r, ans⟩) ∈ rest → ActsOn o.scope r → m = n := by
  refine ⟨(Recorded.claimsHeld h).increasing, ?_⟩
  intro pre n o rest heq hopen m r ans hmem hacts
  obtain ⟨mid, post, rfl⟩ := List.append_of_mem hmem
  have hidle : phase n pre = .idle := (h.allowed cycles_conform pre n _ _ _ heq).1
  rw [← List.cons_append, ← List.append_assoc] at heq
  obtain ⟨hallowed, c', hc'⟩ := h.allowed cycles_conform _ m r ans post heq
  have hheld := Recorded.claimsHeld hc'
  have hclaimed : ∃ d, phase n (pre ++ (n, ⟨.begin o, .ok .new⟩) :: mid) = .claimed o d := by
    have hstays := claimed_stays (n := n) (o := o) mid false
      fun o' ho' => hopen o' (List.mem_append_left _ ho')
    unfold phase at hidle ⊢
    rw [phaseOf_append, hidle]
    unfold phaseOf at hstays ⊢
    rw [List.foldl_cons, if_pos rfl]
    exact hstays
  obtain ⟨d, hn⟩ := hclaimed
  have hother : ∃ o' d', phase m (pre ++ (n, ⟨.begin o, .ok .new⟩) :: mid) = .claimed o' d' ∧ o'.scope = o.scope := by
    cases r with
    | decide os =>
      obtain ⟨o', hphase, ho'⟩ := hallowed
      obtain ⟨o'', ho'', hscope⟩ := hacts
      rw [ho'] at ho''
      cases ho''
      exact ⟨o', false, hphase, hscope⟩
    | venue g r =>
      obtain ⟨d', hphase⟩ := hallowed
      cases r with
      | submitOrder order => exact ⟨g.observation, d', hphase, hacts⟩
      | _ => exact hacts.elim
    | _ => exact hacts.elim
  obtain ⟨o', d', hm, hscope⟩ := hother
  exact hheld.alone m n o' o d' d hm hn hscope

end Claims

/-! ### Three cycles, the second of which cannot complete -/

local instance paperCase : CaseMap := asciiCase

local instance paperFold : CaseFold := ⟨CaseMap.lower⟩

local instance paperExc : ExcClass := ⟨fun _ => "RuntimeError", fun _ => false⟩

def grantingStore : (r : ExecReq) → Except PyExc r.Ans
  | .uuid4 => .ok "owner"
  | .store (.acquireReservation ..) => .ok .acquired
  | .store (.releaseReservation ..) => .ok true
  | .store (.get _) => .ok none
  | .store (.tryClaimUnderReservation ..) => .ok .claimed
  | .store (.transition _) => .ok true
  | _ => .error (.exception "database is locked")

def paperAnswer (now : Int) (os : List ClosedMarketObservation) (entry : Option PaperEntry) (completes : Bool)
    (w : PaperWorld) : (r : PaperReq) → Except PyExc r.Ans × PaperWorld
  | .tryLock => (.ok true, w)
  | .unlock => (.ok (), w)
  | .heartbeat => (.ok (w.heartbeat 0), w)
  | .setHeartbeat hb => (.ok (), { w with heartbeat := Function.update w.heartbeat 0 hb })
  | .now => (.ok now, w)
  | .source => (.ok os, w)
  | .begin o =>
    (.ok (PaperRuntimeStateStore.begin o w.observations).1,
      { w with observations := (PaperRuntimeStateStore.begin o w.observations).2 })
  | .positions => (.ok (w.engine 0).positions.values, w)
  | .observe c o => (((w.engine 0).observe c o false false).1, w.setEngine 0 ((w.engine 0).observe c o false false).2)
  | .reconcile c => (.ok ((w.engine 0).reconcile c), w)
  | .paperEvent _ => (.ok (), w)
  | .decide _ => (.ok (), w)
  | .decision _ => (.ok entry, w)
  | .venue g r =>
    match g.exec? (w.engine 0) r with
    | some (ans, e) => (ans, w.setEngine 0 e)
    | none => (grantingStore r, w)
  | .complete o =>
    if completes then (.ok (), { w with observations := PaperRuntimeStateStore.complete o w.observations })
    else (.error (.exception "database is locked"), w)
  | .publish hb => (.ok (), { w with published := some hb })

theorem paperAnswer_exec (now : Int) (os : List ClosedMarketObservation) (entry : Option PaperEntry) (completes : Bool)
    (w : PaperWorld) (r : PaperReq) :
    PaperExec w ⟨0⟩ r (paperAnswer now os entry completes w r).1 (paperAnswer now os entry completes w r).2 := by
  cases r with
  | tryLock => exact .tryLock true
  | unlock => exact .unlock
  | heartbeat => exact .heartbeat
  | setHeartbeat hb => exact .setHeartbeat hb
  | now => exact .now _
  | source => exact .source _
  | begin o => exact .begin o
  | positions => exact .positions
  | observe c o => exact .observe c o
  | reconcile c => exact .reconcile c
  | paperEvent kind => exact .paperEvent kind _
  | decide os => exact .decide os
  | decision os => exact .decision os _
  | venue g r =>
    unfold paperAnswer
    dsimp only
    cases hg : g.exec? (w.engine 0) r with
    | none => exact .store g r _ hg
    | some out => exact .venue g r hg
  | complete o =>
    cases completes with
    | false => exact .completeFailed o _
    | true => exact .complete o
  | publish hb => exact .publish hb

def quarter (closedAt : Int) : ClosedMarketObservation where
  canonicalSymbol := "XAUUSD"
  timeframe := .m15
  candleOpenedAt := closedAt - 900
  closedAt := closedAt
  open_ := 100
  high := 101
  low := 99
  close := 100
  symbol_ok := by decide
  times_ok := by omega
  prices_ok := by norm_num
  ohlc_ok := by norm_num

def emptyPaperWorld : PaperWorld := ⟨.empty, none, fun _ => .fresh .default, fun _ => {}⟩

def cycleEvents (n : Nat) (now : Int) (os : List ClosedMarketObservation) (completes : Bool) (w : PaperWorld) :
    List PaperRunEvent × PaperWorld :=
  ((runOnce.events (paperAnswer now os none completes) w).map (n, ·),
    (runOnce.run (paperAnswer now os none completes) w).2)

def cleanCycle : List PaperRunEvent × PaperWorld := cycleEvents 0 1000 [quarter 900] true emptyPaperWorld

def brokenCycle : List PaperRunEvent × PaperWorld := cycleEvents 1 2000 [quarter 900, quarter 1800] false cleanCycle.2

def blockedCycle : List PaperRunEvent × PaperWorld := cycleEvents 2 3000 [quarter 1800, quarter 2700] true brokenCycle.2

theorem threeCycles_recorded : ∃ c, Recorded paperSystem (fun _ => runOnce)
    (cleanCycle.1 ++ brokenCycle.1 ++ blockedCycle.1) c := by
  have hinit : Recorded paperSystem (fun _ => runOnce) [] (.start emptyPaperWorld) := .init rfl
  have hfirst := hinit.completed (n := 0) rfl (i := ⟨0⟩) trivial (paperAnswer 1000 [quarter 900] none true)
    (paperAnswer_exec _ _ _ _)
  have hsecond := hfirst.completed (n := 1) rfl (i := ⟨0⟩) trivial (paperAnswer 2000 [quarter 900, quarter 1800] none false)
    (paperAnswer_exec _ _ _ _)
  have hthird := hsecond.completed (n := 2) rfl (i := ⟨0⟩) trivial (paperAnswer 3000 [quarter 1800, quarter 2700] none true)
    (paperAnswer_exec _ _ _ _)
  exact ⟨_, hthird⟩

theorem paper_observation_safety_three : decided (cleanCycle.1 ++ brokenCycle.1 ++ blockedCycle.1) =
      [quarter 900, quarter 1800] ∧
    (decided (cleanCycle.1 ++ brokenCycle.1 ++ blockedCycle.1)).Pairwise
      fun o o' => o.scope = o'.scope → o.closedAt < o'.closedAt := by
  obtain ⟨c, hc⟩ := threeCycles_recorded
  exact ⟨by decide, (paper_observation_safety hc).1⟩

end Jqe
