import Jqe.PaperContract
/-!
# PaperLifecycle — a run of calls on the paper venue

Any calls in any order, on contracts of any keys.  `Change` says what a call can do to the venue; every invariant is
read off it.
-/
namespace Jqe

open PaperContractEngine

inductive EngineCall where
  | propose (idempotencyKey : String) (side : OrderSide) (stake stopLoss takeProfit : ℚ)
      (observation : ClosedMarketObservation) (entryPrice : Option ℚ)
  | open_ (proposal : PaperProposal)
  | requestClose (contractId : String)
  | observe (contractId : String) (observation : ClosedMarketObservation) (strategyExit forceClose : Bool)
  | replay (contractId : String) (observations : List ClosedMarketObservation) (forceClose : Bool)
  | reconcile (contractId : String)

inductive EngineAnswer where
  | proposal (proposal : PaperProposal)
  | position (position : PaperPosition)
  | close (close : Option PaperClose)
  | reconciliation (reconciliation : PaperReconciliation)

def Outcome.map {α β : Type} (f : α → β) (out : PaperContractEngine.Outcome α) : PaperContractEngine.Outcome β :=
  (out.1.map f, out.2)

def EngineCall.apply (e : PaperContractEngine) : EngineCall → PaperContractEngine.Outcome EngineAnswer
  | .propose key side stake stopLoss takeProfit o entry =>
    Outcome.map .proposal (e.propose key side stake stopLoss takeProfit o entry)
  | .open_ proposal => Outcome.map .position (e.open_ proposal)
  | .requestClose contractId => Outcome.map .position (e.requestClose contractId)
  | .observe contractId o strategyExit forceClose => Outcome.map .close (e.observe contractId o strategyExit forceClose)
  | .replay contractId os forceClose => Outcome.map .close (e.replay contractId forceClose os)
  | .reconcile contractId => (.ok (.reconciliation (e.reconcile contractId)), e)

namespace PaperContractEngine

def after (e : PaperContractEngine) : List EngineCall → PaperContractEngine
  | [] => e
  | call :: calls => (call.apply e).2.after calls

def trace (e : PaperContractEngine) : List EngineCall → List (EngineCall × Except PyExc EngineAnswer)
  | [] => []
  | call :: calls => (call, (call.apply e).1) :: (call.apply e).2.trace calls

theorem after_append (e : PaperContractEngine) : ∀ calls calls' : List EngineCall,
    e.after (calls ++ calls') = (e.after calls).after calls'
  | [], _ => rfl
  | call :: calls, calls' => by
    rw [List.cons_append]
    exact after_append (call.apply e).2 calls calls'

/-! ### What a call can do -/

/-- **One change of the venue.** -/
inductive Change (e : PaperContractEngine) : PaperContractEngine → Prop where
  | proposed (proposals : PyDict PaperProposal) : Change e { e with proposals := proposals }
  | opened {c : String} {p : PaperPosition} (absent : e.positions.get? c = none) (named : p.contractId = c)
      (state : p.state = .purchasedOpen) : Change e { e with positions := e.positions.set c p }
  | moved {c : String} {p q : PaperPosition} (stored : e.positions.get? c = some p) (named : q.contractId = p.contractId)
      (unclosed : e.closes.get? c = none) (later : p.lastObservedAt ≤ q.lastObservedAt)
      (state : q.state = p.state ∨ q.state = .closeRequested) : Change e { e with positions := e.positions.set c q }
  | closed {c : String} {p q : PaperPosition} {x : PaperClose} (stored : e.positions.get? c = some p)
      (named : q.contractId = p.contractId) (unclosed : e.closes.get? c = none)
      (later : p.lastObservedAt ≤ q.lastObservedAt) (state : q.state = .closed) :
      Change e { e with closes := e.closes.set c x, positions := e.positions.set c q }

/-- **Changes one after another.** -/
inductive Changes (e : PaperContractEngine) : PaperContractEngine → Prop where
  | refl : Changes e e
  | tail {e₁ e₂ : PaperContractEngine} (changes : Changes e e₁) (change : Change e₁ e₂) : Changes e e₂

variable {e e' : PaperContractEngine} {c : String}

theorem Changes.single (h : Change e e') : Changes e e' := .tail .refl h

theorem Changes.trans {e₁ e₂ : PaperContractEngine} (h : Changes e e₁) (h' : Changes e₁ e₂) : Changes e e₂ := by
  induction h' with
  | refl => exact h
  | tail _ change ih => exact .tail ih change

theorem propose_changes (e : PaperContractEngine) (key : String) (side : OrderSide) (stake stopLoss takeProfit : ℚ)
    (o : ClosedMarketObservation) (entry : Option ℚ) :
    Changes e (e.propose key side stake stopLoss takeProfit o entry).2 := by
  unfold propose
  cases e.specification.validateStake stake with
  | error exc => exact .refl
  | ok _ =>
    dsimp only
    split
    · exact .refl
    · split
      · exact .refl
      · split
        · exact .refl
        · unfold register
          cases e.proposals.get? key with
          | none => exact .single (.proposed _)
          | some existing =>
            dsimp only
            split
            · exact .refl
            · exact .refl

theorem open_changes (e : PaperContractEngine) (proposal : PaperProposal) : Changes e (e.open_ proposal).2 := by
  unfold open_
  dsimp only
  split
  · exact .refl
  · rename_i habsent
    rw [Bool.not_eq_true, Option.isSome_eq_false_iff, Option.isNone_iff_eq_none] at habsent
    exact .single (.opened habsent rfl rfl)

theorem requestClose_changes (e : PaperContractEngine) (c : String) : Changes e (e.requestClose c).2 := by
  unfold requestClose
  cases hp : e.positions.get? c with
  | none => exact .refl
  | some p =>
    dsimp only
    split
    · exact .refl
    · rename_i hopen
      rw [not_or, Bool.not_eq_true, Option.isSome_eq_false_iff, Option.isNone_iff_eq_none] at hopen
      exact .single (.moved hp rfl hopen.1 le_rfl (.inr rfl))

theorem observe_cases (e : PaperContractEngine) (c : String) (o : ClosedMarketObservation)
    (strategyExit forceClose : Bool) :
    (∃ exc, e.observe c o strategyExit forceClose = (.error exc, e)) ∨
    ∃ p, e.positions.get? c = some p ∧ e.closes.get? c = none ∧ o.canonicalSymbol = p.symbol ∧
      p.lastObservedAt < o.closedAt ∧
      ((p.exit? o strategyExit forceClose = none ∧ e.observe c o strategyExit forceClose =
          (.ok none, { e with positions := e.positions.set c { p with lastObservedAt := o.closedAt } })) ∨
        ∃ reason price, p.exit? o strategyExit forceClose = some (reason, price) ∧
          e.observe c o strategyExit forceClose = (.ok (some (e.closeOf c p o reason price)),
            { e with
              closes := e.closes.set c (e.closeOf c p o reason price)
              positions := e.positions.set c
                { p with lastObservedAt := o.closedAt, closeRequested := true, state := .closed } })) := by
  unfold observe
  cases hp : e.positions.get? c with
  | none => exact .inl ⟨_, rfl⟩
  | some p =>
    dsimp only
    by_cases hclosed : (e.closes.get? c).isSome = true
    · rw [if_pos hclosed]
      exact .inl ⟨_, rfl⟩
    rw [if_neg hclosed]
    by_cases hsymbol : o.canonicalSymbol ≠ p.symbol
    · rw [if_pos hsymbol]
      exact .inl ⟨_, rfl⟩
    rw [if_neg hsymbol]
    by_cases htime : o.closedAt ≤ p.lastObservedAt
    · rw [if_pos htime]
      exact .inl ⟨_, rfl⟩
    rw [if_neg htime]
    refine .inr ⟨p, rfl, by simpa using hclosed, not_not.1 hsymbol, not_le.1 htime, ?_⟩
    cases hexit : p.exit? o strategyExit forceClose with
    | none => exact .inl ⟨rfl, rfl⟩
    | some found => exact .inr ⟨found.1, found.2, rfl, rfl⟩

theorem observe_changes (e : PaperContractEngine) (c : String) (o : ClosedMarketObservation)
    (strategyExit forceClose : Bool) : Changes e (e.observe c o strategyExit forceClose).2 := by
  rcases observe_cases e c o strategyExit forceClose with
    ⟨exc, heq⟩ | ⟨p, hp, hopen, -, htime, ⟨-, heq⟩ | ⟨reason, price, -, heq⟩⟩
  · rw [heq]
    exact .refl
  · rw [heq]
    exact .single (.moved hp rfl hopen htime.le (.inl rfl))
  · rw [heq]
    exact .single (.closed hp rfl hopen htime.le rfl)

theorem replay_changes (c : String) (forceClose : Bool) : ∀ (os : List ClosedMarketObservation)
    (e : PaperContractEngine), Changes e (e.replay c forceClose os).2
  | [], _ => .refl
  | o :: rest, e => by
    have hfirst := observe_changes e c o false (forceClose && rest.isEmpty)
    unfold replay
    generalize e.observe c o false (forceClose && rest.isEmpty) = out at hfirst ⊢
    obtain ⟨exc | ans, e'⟩ := out
    · exact hfirst
    · cases ans with
      | some result => exact hfirst
      | none => exact hfirst.trans (replay_changes c forceClose rest e')

theorem apply_changes (e : PaperContractEngine) : ∀ call : EngineCall, Changes e (call.apply e).2
  | .propose key side stake stopLoss takeProfit o entry => propose_changes e key side stake stopLoss takeProfit o entry
  | .open_ proposal => open_changes e proposal
  | .requestClose c => requestClose_changes e c
  | .observe c o strategyExit forceClose => observe_changes e c o strategyExit forceClose
  | .replay c os forceClose => replay_changes c forceClose os e
  | .reconcile _ => .refl

theorem after_changes : ∀ (calls : List EngineCall) (e : PaperContractEngine), Changes e (e.after calls)
  | [], _ => .refl
  | call :: calls, e => (apply_changes e call).trans (after_changes calls (call.apply e).2)

/-! ### What every change keeps -/

def IsClosed (e : PaperContractEngine) (c : String) : Prop := ∃ p, e.positions.get? c = some p ∧ p.state = .closed

def ClosedStored (e : PaperContractEngine) : Prop := ∀ c, e.IsClosed c ↔ ∃ x, e.closes.get? c = some x

theorem fresh_closedStored (spec : PaperContractSpecification) : (fresh spec).ClosedStored := by
  intro c
  constructor
  · rintro ⟨p, hp, -⟩
    cases hp
  · rintro ⟨x, hx⟩
    cases hx

theorem isClosed_set (e : PaperContractEngine) (closes : PyDict PaperClose) (c c' : String) (q : PaperPosition) :
    ({ e with closes := closes, positions := e.positions.set c q } : PaperContractEngine).IsClosed c' ↔
      (c' = c ∧ q.state = .closed) ∨ (c' ≠ c ∧ e.IsClosed c') := by
  unfold IsClosed
  dsimp only
  rw [PyDict.get?_set]
  by_cases h : c' = c
  · subst h
    simp
  · simp [h]

theorem Change.closedStored (h : Change e e') (hinv : e.ClosedStored) : e'.ClosedStored := by
  intro c'
  cases h with
  | proposed => exact hinv c'
  | @opened c p absent named state =>
    rw [show ({ e with positions := e.positions.set c p } : PaperContractEngine) =
      { e with closes := e.closes, positions := e.positions.set c p } from rfl, isClosed_set, hinv c']
    by_cases hc : c' = c
    · subst hc
      have hnone : ¬∃ x, e.closes.get? c' = some x := by
        rw [← hinv c']
        rintro ⟨p', hp', -⟩
        rw [absent] at hp'
        cases hp'
      simp [state]
      exact fun x hx => hnone ⟨x, hx⟩
    · simp [hc]
  | @moved c p q stored named unclosed later state =>
    rw [show ({ e with positions := e.positions.set c q } : PaperContractEngine) =
      { e with closes := e.closes, positions := e.positions.set c q } from rfl, isClosed_set, hinv c']
    by_cases hc : c' = c
    · subst hc
      have hopen : p.state ≠ .closed := fun hstate => by
        obtain ⟨x, hx⟩ := (hinv c').1 ⟨p, stored, hstate⟩
        rw [unclosed] at hx
        cases hx
      have hstate : q.state ≠ .closed := by
        rcases state with heq | heq
        · rw [heq]
          exact hopen
        · rw [heq]
          decide
      simp [hstate, unclosed]
    · simp [hc]
  | @closed c p q x stored named unclosed later state =>
    rw [isClosed_set, hinv c']
    dsimp only
    rw [PyDict.get?_set]
    by_cases hc : c' = c
    · simp [hc, state]
    · simp [hc]

/-- **A contract is CLOSED exactly when its close is stored**, whatever the calls. -/
theorem Changes.closedStored (h : Changes e e') (hinv : e.ClosedStored) : e'.ClosedStored := by
  induction h with
  | refl => exact hinv
  | tail _ change ih => exact change.closedStored ih

/-- Every position is stored under its own contract. -/
def Keyed (e : PaperContractEngine) : Prop := ∀ c p, e.positions.get? c = some p → p.contractId = c

theorem keyed_set {d : PyDict PaperPosition} (h : ∀ c p, d.get? c = some p → p.contractId = c) {q : PaperPosition}
    (hq : q.contractId = c) (c' : String) (p : PaperPosition) (hp : (d.set c q).get? c' = some p) :
    p.contractId = c' := by
  rw [PyDict.get?_set] at hp
  by_cases hc : c' = c
  · rw [if_pos hc] at hp
    cases hp
    exact hq.trans hc.symm
  · rw [if_neg hc] at hp
    exact h c' p hp

theorem Change.keyed (h : Change e e') (hinv : e.Keyed) : e'.Keyed := by
  cases h with
  | proposed => exact hinv
  | opened absent named state => exact keyed_set hinv named
  | moved stored named unclosed later state => exact keyed_set hinv (named.trans (hinv _ _ stored))
  | closed stored named unclosed later state => exact keyed_set hinv (named.trans (hinv _ _ stored))

theorem Changes.keyed (h : Changes e e') (hinv : e.Keyed) : e'.Keyed := by
  induction h with
  | refl => exact hinv
  | tail _ change ih => exact change.keyed ih

/-- What was stored before: every close as it is, every position under its contract, never observed earlier. -/
structure Extends (e e' : PaperContractEngine) : Prop where
  closes : ∀ c x, e.closes.get? c = some x → e'.closes.get? c = some x
  positions : ∀ c p, e.positions.get? c = some p →
    ∃ p', e'.positions.get? c = some p' ∧ p.lastObservedAt ≤ p'.lastObservedAt

theorem Extends.refl (e : PaperContractEngine) : Extends e e := ⟨fun _ _ h => h, fun _ p h => ⟨p, h, le_rfl⟩⟩

theorem Extends.trans {e₁ e₂ : PaperContractEngine} (h : Extends e e₁) (h' : Extends e₁ e₂) : Extends e e₂ where
  closes c x hx := h'.closes c x (h.closes c x hx)
  positions c p hp := by
    obtain ⟨p₁, hp₁, hle₁⟩ := h.positions c p hp
    obtain ⟨p₂, hp₂, hle₂⟩ := h'.positions c p₁ hp₁
    exact ⟨p₂, hp₂, hle₁.trans hle₂⟩

theorem positions_set {d : PyDict PaperPosition} {q : PaperPosition}
    (hq : ∀ p, d.get? c = some p → p.lastObservedAt ≤ q.lastObservedAt) (c' : String) (p : PaperPosition)
    (hp : d.get? c' = some p) : ∃ p', (d.set c q).get? c' = some p' ∧ p.lastObservedAt ≤ p'.lastObservedAt := by
  rw [PyDict.get?_set]
  by_cases hc : c' = c
  · subst hc
    exact ⟨q, if_pos rfl, hq p hp⟩
  · exact ⟨p, by rw [if_neg hc]; exact hp, le_rfl⟩

theorem Change.extends (h : Change e e') : Extends e e' := by
  cases h with
  | proposed => exact ⟨fun _ _ h => h, fun _ p h => ⟨p, h, le_rfl⟩⟩
  | opened absent named state =>
    refine ⟨fun _ _ h => h, positions_set ?_⟩
    intro p hp
    rw [absent] at hp
    cases hp
  | moved stored named unclosed later state =>
    refine ⟨fun _ _ h => h, positions_set ?_⟩
    intro p hp
    rw [stored] at hp
    cases hp
    exact later
  | @closed c p q x stored named unclosed later state =>
    refine ⟨?_, positions_set ?_⟩
    · intro c' x' hx'
      dsimp only
      rw [PyDict.get?_set_of_ne _ _ fun hc => by
        subst hc
        rw [unclosed] at hx'
        cases hx']
      exact hx'
    · intro p' hp'
      rw [stored] at hp'
      cases hp'
      exact later

theorem Changes.extends (h : Changes e e') : Extends e e' := by
  induction h with
  | refl => exact .refl e
  | tail _ change ih => exact ih.trans change.extends

/-! ### What the answers say -/

def opens (key : String) : EngineCall × Except PyExc EngineAnswer → Bool
  | (.open_ _, .ok (.position p)) => p.idempotencyKey = key
  | _ => false

def closesKey (key : String) : EngineCall × Except PyExc EngineAnswer → Bool
  | (_, .ok (.close (some x))) => x.contractId = paperContractId key
  | _ => false

theorem open_ok {proposal : PaperProposal} {p : PaperPosition} (h : e.open_ proposal = (.ok p, e')) :
    p.idempotencyKey = proposal.idempotencyKey ∧ e.positions.get? (paperContractId proposal.idempotencyKey) = none ∧
      e'.positions.get? (paperContractId proposal.idempotencyKey) = some p := by
  unfold open_ at h
  dsimp only at h
  by_cases hc : (e.positions.get? (paperContractId proposal.idempotencyKey)).isSome = true
  · rw [if_pos hc] at h
    cases h
  · rw [if_neg hc] at h
    cases h
    exact ⟨rfl, by simpa using hc, PyDict.get?_set_self _ _ _⟩

theorem observe_ok {o : ClosedMarketObservation} {s f : Bool} {x : PaperClose}
    (h : e.observe c o s f = (.ok (some x), e')) :
    x.contractId = c ∧ e.closes.get? c = none ∧ e'.closes.get? c = some x := by
  rcases observe_cases e c o s f with ⟨exc, heq⟩ | ⟨p, hp, hopen, -, -, ⟨-, heq⟩ | ⟨reason, price, -, heq⟩⟩
  · rw [heq] at h
    cases h
  · rw [heq] at h
    cases h
  · rw [heq] at h
    cases h
    exact ⟨rfl, hopen, PyDict.get?_set_self _ _ _⟩

theorem replay_ok {c : String} {f : Bool} {e' : PaperContractEngine} {x : PaperClose} :
    ∀ {os : List ClosedMarketObservation} {e : PaperContractEngine}, e.replay c f os = (.ok (some x), e') →
      x.contractId = c ∧ e.closes.get? c = none ∧ e'.closes.get? c = some x
  | [], _, h => by cases h
  | o :: rest, e, h => by
    unfold replay at h
    generalize hout : e.observe c o false (f && rest.isEmpty) = out at h
    obtain ⟨exc | ans, e₁⟩ := out
    · cases h
    · cases ans with
      | some result =>
        cases h
        exact observe_ok hout
      | none =>
        obtain ⟨hname, hnone, hstored⟩ := replay_ok h
        refine ⟨hname, ?_, hstored⟩
        have hext := observe_changes e c o false (f && rest.isEmpty)
        rw [hout] at hext
        -- a close stored before the first candle would still be stored
        cases hbefore : e.closes.get? c with
        | none => rfl
        | some y =>
          have hafter : e₁.closes.get? c = some y := hext.extends.closes c y hbefore
          rw [hnone] at hafter
          cases hafter

/-- **A call that answers with a close stores it**, where none was. -/
theorem apply_close {call : EngineCall} {x : PaperClose} (h : (call.apply e).1 = .ok (.close (some x))) :
    e.closes.get? x.contractId = none ∧ (call.apply e).2.closes.get? x.contractId = some x := by
  cases call with
  | propose key side stake stopLoss takeProfit o entry =>
    simp only [EngineCall.apply, Outcome.map] at h
    cases hout : (e.propose key side stake stopLoss takeProfit o entry).1 <;> rw [hout] at h <;> cases h
  | open_ proposal =>
    simp only [EngineCall.apply, Outcome.map] at h
    cases hout : (e.open_ proposal).1 <;> rw [hout] at h <;> cases h
  | requestClose c =>
    simp only [EngineCall.apply, Outcome.map] at h
    cases hout : (e.requestClose c).1 <;> rw [hout] at h <;> cases h
  | reconcile c => cases h
  | observe c o s f =>
    simp only [EngineCall.apply, Outcome.map] at h ⊢
    generalize hout : e.observe c o s f = out at h ⊢
    obtain ⟨exc | ans, e'⟩ := out
    · cases h
    · cases h
      obtain ⟨rfl, hnone, hstored⟩ := observe_ok hout
      exact ⟨hnone, hstored⟩
  | replay c os f =>
    simp only [EngineCall.apply, Outcome.map] at h ⊢
    generalize hout : e.replay c f os = out at h ⊢
    obtain ⟨exc | ans, e'⟩ := out
    · cases h
    · cases h
      obtain ⟨rfl, hnone, hstored⟩ := replay_ok hout
      exact ⟨hnone, hstored⟩

/-- **A call that opens a key** finds no position under it and leaves one. -/
theorem apply_opens {call : EngineCall} {key : String} (h : opens key (call, (call.apply e).1) = true) :
    e.positions.get? (paperContractId key) = none ∧
      ∃ p, (call.apply e).2.positions.get? (paperContractId key) = some p := by
  cases call with
  | open_ proposal =>
    simp only [EngineCall.apply, Outcome.map] at h ⊢
    generalize hout : e.open_ proposal = out at h ⊢
    obtain ⟨exc | p, e'⟩ := out
    · cases h
    · have hkey : p.idempotencyKey = key := of_decide_eq_true h
      obtain ⟨hsame, hnone, hstored⟩ := open_ok hout
      rw [← hkey, hsame]
      exact ⟨hnone, p, hstored⟩
  | _ => cases h

/-- **What happens only where something fails to hold, and makes it hold for good, happens once.** -/
theorem countP_trace_le {marked : EngineCall × Except PyExc EngineAnswer → Bool} (holds : PaperContractEngine → Prop)
    (hkeep : ∀ e call, holds e → holds (EngineCall.apply e call).2)
    (hmark : ∀ e call, marked (call, (EngineCall.apply e call).1) = true →
      ¬holds e ∧ holds (EngineCall.apply e call).2) :
    ∀ (calls : List EngineCall) (e : PaperContractEngine),
      (e.trace calls).countP marked ≤ 1 ∧ (holds e → (e.trace calls).countP marked = 0)
  | [], _ => ⟨Nat.zero_le 1, fun _ => rfl⟩
  | call :: calls, e => by
    obtain ⟨hle, hzero⟩ := countP_trace_le holds hkeep hmark calls (call.apply e).2
    rw [trace, List.countP_cons]
    by_cases hm : marked (call, (call.apply e).1) = true
    · obtain ⟨hnot, hafter⟩ := hmark e call hm
      rw [if_pos hm, hzero hafter]
      exact ⟨le_rfl, fun h => absurd h hnot⟩
    · rw [if_neg hm]
      exact ⟨hle, fun h => hzero (hkeep e call h)⟩

theorem trace_close {x : PaperClose} {call : EngineCall} : ∀ {calls : List EngineCall} {e : PaperContractEngine},
    (call, Except.ok (EngineAnswer.close (some x))) ∈ e.trace calls → (e.after calls).closes.get? x.contractId = some x
  | [], _, h => by cases h
  | first :: calls, e, h => by
    rw [trace, List.mem_cons] at h
    rw [after]
    rcases h with heq | hmem
    · have hanswer : (first.apply e).1 = .ok (.close (some x)) := (congrArg Prod.snd heq).symm
      exact (after_changes calls (first.apply e).2).extends.closes _ _ (apply_close hanswer).2
    · exact trace_close hmem

/-- **`reconcile` reports what is stored.** -/
theorem reconcile_stored (hinv : e.ClosedStored) {p : PaperPosition} (hp : e.positions.get? c = some p) :
    e.reconcile c = ⟨p.state, c, (e.closes.get? c).map (·.closeId), (e.closes.get? c).map (·.realizedProfit)⟩ := by
  unfold reconcile
  rw [hp]
  dsimp only
  cases hx : e.closes.get? c with
  | none => rfl
  | some x =>
    obtain ⟨p', hp', hstate⟩ := (hinv c).2 ⟨x, hx⟩
    rw [hp] at hp'
    cases hp'
    rw [hstate]
    rfl

theorem open_raises {proposal : PaperProposal} {exc : PyExc} (h : (e.open_ proposal).1 = .error exc) :
    (e.open_ proposal).2 = e := by
  unfold open_ at h ⊢
  dsimp only at h ⊢
  split at h
  · rw [if_pos (by assumption)]
    rfl
  · cases h

theorem requestClose_raises {exc : PyExc} (h : (e.requestClose c).1 = .error exc) : (e.requestClose c).2 = e := by
  unfold requestClose at h ⊢
  cases hp : e.positions.get? c with
  | none => rfl
  | some p =>
    rw [hp] at h
    dsimp only at h ⊢
    split at h
    · rw [if_pos (by assumption)]
      rfl
    · cases h

theorem observe_raises {o : ClosedMarketObservation} {s f : Bool} {exc : PyExc} (h : (e.observe c o s f).1 = .error exc) :
    (e.observe c o s f).2 = e := by
  rcases observe_cases e c o s f with ⟨exc', heq⟩ | ⟨p, -, -, -, -, ⟨-, heq⟩ | ⟨reason, price, -, heq⟩⟩
  · rw [heq]
  · rw [heq] at h
    cases h
  · rw [heq] at h
    cases h

/-- **The life of paper contracts**, over any calls in any order: a key is opened at most once and closed at most
once, a close stays as it was stored, CLOSED goes with a stored close, observations never go back, `reconcile` reports
what is stored, and a refused `open`, `request_close` or `observe` changes nothing. -/
theorem paper_lifecycle (specification : PaperContractSpecification) (calls : List EngineCall) :
    (∀ key, ((fresh specification).trace calls).countP (opens key) ≤ 1) ∧
    (∀ key, ((fresh specification).trace calls).countP (closesKey key) ≤ 1) ∧
    (∀ call x, (call, Except.ok (EngineAnswer.close (some x))) ∈ (fresh specification).trace calls →
      ((fresh specification).after calls).closes.get? x.contractId = some x) ∧
    (∀ earlier later, calls = earlier ++ later →
      Extends ((fresh specification).after earlier) ((fresh specification).after calls)) ∧
    (∀ c, ((fresh specification).after calls).IsClosed c ↔
      ∃ x, ((fresh specification).after calls).closes.get? c = some x) ∧
    (∀ c, ((fresh specification).after calls).positions.get? c = none →
      ((fresh specification).after calls).reconcile c = ⟨.submissionUnknown, c, none, none⟩) ∧
    (∀ c p, ((fresh specification).after calls).positions.get? c = some p →
      ((fresh specification).after calls).reconcile c =
        ⟨p.state, c, (((fresh specification).after calls).closes.get? c).map (·.closeId),
          (((fresh specification).after calls).closes.get? c).map (·.realizedProfit)⟩) ∧
    (∀ call exc, (EngineCall.apply ((fresh specification).after calls) call).1 = .error exc →
      (∀ key side stake stopLoss takeProfit o entry, call ≠ .propose key side stake stopLoss takeProfit o entry) →
      (∀ c os f, call ≠ .replay c os f) →
      (EngineCall.apply ((fresh specification).after calls) call).2 = (fresh specification).after calls) := by
  have hinv : ((fresh specification).after calls).ClosedStored :=
    (after_changes calls _).closedStored (fresh_closedStored specification)
  refine ⟨?_, ?_, ?_, ?_, hinv, ?_, ?_, ?_⟩
  · intro key
    refine (countP_trace_le (fun e => ∃ p, e.positions.get? (paperContractId key) = some p) ?_ ?_ calls _).1
    · rintro e call ⟨p, hp⟩
      obtain ⟨p', hp', -⟩ := (apply_changes e call).extends.positions _ p hp
      exact ⟨p', hp'⟩
    · intro e call hmark
      obtain ⟨hnone, hsome⟩ := apply_opens hmark
      refine ⟨?_, hsome⟩
      rintro ⟨p, hp⟩
      rw [hnone] at hp
      cases hp
  · intro key
    refine (countP_trace_le (fun e => ∃ x, e.closes.get? (paperContractId key) = some x) ?_ ?_ calls _).1
    · rintro e call ⟨x, hx⟩
      exact ⟨x, (apply_changes e call).extends.closes _ x hx⟩
    · intro e call hmark
      unfold closesKey at hmark
      split at hmark
      · rename_i x heq
        obtain ⟨-, hanswer⟩ := Prod.mk.inj heq
        rw [← of_decide_eq_true hmark]
        obtain ⟨hnone, hstored⟩ := apply_close hanswer
        refine ⟨?_, x, hstored⟩
        rintro ⟨y, hy⟩
        rw [hnone] at hy
        cases hy
      · cases hmark
  · intro call x hmem
    exact trace_close hmem
  · rintro earlier later rfl
    rw [after_append]
    exact (after_changes later _).extends
  · intro c hp
    unfold reconcile
    rw [hp]
  · intro c p hp
    exact reconcile_stored hinv hp
  · intro call exc herror hpropose hreplay
    cases call with
    | propose key side stake stopLoss takeProfit o entry => exact absurd rfl (hpropose _ _ _ _ _ _ _)
    | replay c os f => exact absurd rfl (hreplay _ _ _)
    | reconcile c => rfl
    | open_ proposal =>
      simp only [EngineCall.apply, Outcome.map] at herror ⊢
      cases hout : (((fresh specification).after calls).open_ proposal).1 with
      | error exc' => exact open_raises hout
      | ok p =>
        rw [hout] at herror
        cases herror
    | requestClose c =>
      simp only [EngineCall.apply, Outcome.map] at herror ⊢
      cases hout : (((fresh specification).after calls).requestClose c).1 with
      | error exc' => exact requestClose_raises hout
      | ok p =>
        rw [hout] at herror
        cases herror
    | observe c o s f =>
      simp only [EngineCall.apply, Outcome.map] at herror ⊢
      cases hout : (((fresh specification).after calls).observe c o s f).1 with
      | error exc' => exact observe_raises hout
      | ok p =>
        rw [hout] at herror
        cases herror

end PaperContractEngine

end Jqe
