import Jqe.PaperReplay
/-!
# PaperCycles — the paper positions over successful cycles

A successful cycle that claims its newest candle observes every open position of the symbol on it, then may open one;
any other leaves the positions (`cycle_cases`).
-/
namespace Jqe

open Coro Prog ContinuousPaperRuntime PaperContractEngine

/-! ### Entries -/

/-- **What an entry on `o` does to the venue**: what is there stays, and a new position starts at `o`. -/
structure Entered (o : ClosedMarketObservation) (e e' : PaperContractEngine) : Prop where
  changes : Changes e e'
  specification : e'.specification = e.specification
  closes : e'.closes = e.closes
  kept : ∀ c p, e.positions.get? c = some p → e'.positions.get? c = some p
  opened : ∀ c p, e'.positions.get? c = some p → e.positions.get? c = some p ∨
    (p.openedAt = o.closedAt ∧ p.lastObservedAt = o.closedAt ∧ p.symbol = o.canonicalSymbol ∧ p.state = .purchasedOpen)

theorem Entered.refl (o : ClosedMarketObservation) (e : PaperContractEngine) : Entered o e e :=
  ⟨.refl, rfl, rfl, fun _ _ h => h, fun _ _ h => .inl h⟩

variable {o : ClosedMarketObservation} {e : PaperContractEngine}

theorem Entered.trans {e₁ e₂ : PaperContractEngine} (h : Entered o e e₁) (h' : Entered o e₁ e₂) : Entered o e e₂ where
  changes := h.changes.trans h'.changes
  specification := h'.specification.trans h.specification
  closes := h'.closes.trans h.closes
  kept c p hp := h'.kept c p (h.kept c p hp)
  opened c p hp := by
    rcases h'.opened c p hp with hold | hnew
    · exact h.opened c p hold
    · exact .inr hnew

theorem propose_ok {e' : PaperContractEngine} {key : String} {side : OrderSide} {stake stopLoss takeProfit : ℚ}
    {entry : Option ℚ} {proposal : PaperProposal}
    (h : e.propose key side stake stopLoss takeProfit o entry = (.ok proposal, e')) :
    proposal.observationClosedAt = o.closedAt ∧ proposal.symbol = o.canonicalSymbol := by
  unfold propose at h
  split at h
  · cases h
  · dsimp only at h
    split at h
    · cases h
    · split at h
      · cases h
      · split at h
        · cases h
        · obtain rfl := register_ok (congrArg Prod.fst h)
          exact ⟨rfl, rfl⟩

theorem propose_entered (e : PaperContractEngine) (key : String) (side : OrderSide) (stake stopLoss takeProfit : ℚ)
    (o : ClosedMarketObservation) (entry : Option ℚ) :
    Entered o e (e.propose key side stake stopLoss takeProfit o entry).2 := by
  have hchanges := propose_changes e key side stake stopLoss takeProfit o entry
  have hsame : ∃ proposals, (e.propose key side stake stopLoss takeProfit o entry).2 = { e with proposals := proposals } := by
    unfold propose
    split
    · exact ⟨_, rfl⟩
    · dsimp only
      split
      · exact ⟨_, rfl⟩
      · split
        · exact ⟨_, rfl⟩
        · split
          · exact ⟨_, rfl⟩
          · exact register_proposals ..
  obtain ⟨proposals, heq⟩ := hsame
  rw [heq] at hchanges ⊢
  exact ⟨hchanges, rfl, rfl, fun _ _ h => h, fun _ _ h => .inl h⟩

theorem open_entered (e : PaperContractEngine) {proposal : PaperProposal}
    (hclosedAt : proposal.observationClosedAt = o.closedAt) (hsymbol : proposal.symbol = o.canonicalSymbol) :
    Entered o e (e.open_ proposal).2 := by
  have hchanges := open_changes e proposal
  unfold open_ at hchanges ⊢
  dsimp only at hchanges ⊢
  split
  · exact .refl o e
  · rename_i habsent
    rw [if_neg habsent] at hchanges
    rw [Bool.not_eq_true, Option.isSome_eq_false_iff, Option.isNone_iff_eq_none] at habsent
    refine ⟨hchanges, rfl, rfl, fun c p hp => ?_, fun c p hp => ?_⟩
    · dsimp only
      rw [PyDict.get?_set_of_ne _ _ fun hc => by rw [hc, habsent] at hp; cases hp]
      exact hp
    · dsimp only at hp
      rw [PyDict.get?_set] at hp
      by_cases hc : c = paperContractId proposal.idempotencyKey
      · rw [if_pos hc] at hp
        cases hp
        exact .inr ⟨hclosedAt, hclosedAt, hsymbol, rfl⟩
      · rw [if_neg hc] at hp
        exact .inl hp

theorem proposeOrder_entered (g : PaperGateway) (order : OrderRequest) (e : PaperContractEngine) :
    Entered g.observation e (g.proposeOrder order e).2 := by
  unfold PaperGateway.proposeOrder
  split
  · exact .refl _ e
  · split
    · exact propose_entered e _ _ _ _ _ _ _
    · split
      · exact .refl _ e
      · exact .refl _ e

structure SameVenue (w w' : PaperWorld) : Prop where
  observations : w'.observations = w.observations
  engine : w'.engine 0 = w.engine 0

theorem SameVenue.refl (w : PaperWorld) : SameVenue w w := ⟨rfl, rfl⟩

theorem SameVenue.trans {w w₁ w₂ : PaperWorld} (h : SameVenue w w₁) (h' : SameVenue w₁ w₂) : SameVenue w w₂ :=
  ⟨h'.observations.trans h.observations, h'.engine.trans h.engine⟩

@[simp] theorem setEngine_engine (w : PaperWorld) (e : PaperContractEngine) : (w.setEngine 0 e).engine 0 = e := by
  simp [PaperWorld.setEngine]

@[simp] theorem setEngine_observations (w : PaperWorld) (e : PaperContractEngine) :
    (w.setEngine 0 e).observations = w.observations := rfl

variable [CaseMap]

theorem submitOrder_entered (g : PaperGateway) (order : OrderRequest) (e : PaperContractEngine) :
    Entered g.observation e (g.submitOrder order e).2 := by
  have hpropose := proposeOrder_entered g order e
  unfold PaperGateway.submitOrder
  split
  · exact .refl _ e
  · generalize hout : g.proposeOrder order e = out at hpropose
    obtain ⟨exc | proposal, e'⟩ := out
    · exact hpropose
    · have hbound : proposal.observationClosedAt = g.observation.closedAt ∧
          proposal.symbol = g.observation.canonicalSymbol := by
        unfold PaperGateway.proposeOrder at hout
        split at hout
        · cases hout
        · split at hout
          · exact propose_ok hout
          · split at hout
            · cases hout
            · cases hout
      have hopen := open_entered e' hbound.1 hbound.2
      dsimp only [PaperGateway.fill]
      split
      · exact hpropose
      · generalize e'.open_ proposal = out at hopen
        obtain ⟨exc | position, e''⟩ := out
        · exact hpropose.trans hopen
        · exact hpropose.trans hopen

theorem exec_entered {g : PaperGateway} {e' : PaperContractEngine} {r : ExecReq} {ans : Except PyExc r.Ans}
    (h : g.exec? e r = some (ans, e')) : Entered g.observation e e' := by
  cases r with
  | getPositions =>
    cases h
    exact .refl _ e
  | submitOrder order =>
    cases h
    exact .refl _ e
  | submitOrderResult order =>
    have hsubmit := submitOrder_entered g order e
    unfold PaperGateway.exec? at h
    dsimp only at h
    generalize g.submitOrder order e = out at h hsubmit
    obtain ⟨exc | result, e₁⟩ := out
    · cases h
      exact hsubmit
    · cases h
      exact hsubmit
  | _ => cases h

/-! ### One cycle -/

def Delivers (bs : List ClosedMarketObservation) : (r : PaperReq) → Except PyExc r.Ans → Prop
  | .source, ans => ans = .ok bs
  | _, _ => True

/-- The requests of a cycle of runtime 0 whose source delivers `bs`. -/
def deliver (bs : List ClosedMarketObservation) (w : PaperWorld) (r : PaperReq) (ans : Except PyExc r.Ans)
    (w' : PaperWorld) : Prop :=
  PaperExec w ⟨0⟩ r ans w' ∧ Delivers bs r ans

variable {bs : List ClosedMarketObservation} {w w' : PaperWorld}

theorem ends_ask {r : PaperReq} {out : Except PyExc r.Ans} (h : Ends (deliver bs) (ContinuousPaperRuntime.ask r) w out w') :
    deliver bs w r out w' := ends_perform.1 h

theorem deliver_same {r : PaperReq} {ans : Except PyExc r.Ans} (h : deliver bs w r ans w') (hr : Unclaimed r) :
    SameVenue w w' := by
  obtain ⟨hx, -⟩ := h
  cases hx with
  | begin | beginFailed | observe | venue | store | complete | completeFailed | decide => exact hr.elim
  | _ => exact ⟨rfl, rfl⟩

theorem ends_same {α : Type} {p : PaperProg α} {out : Except PyExc α} (h : Ends (deliver bs) p w out w')
    (hp : p.Makes Unclaimed) : SameVenue w w' :=
  h.keeps_makes (C := Unclaimed) (I := fun w' => SameVenue w w') (fun _ _ _ _ hr hw hx => hw.trans (deliver_same hx hr)) hp (.refl w)

theorem ends_observePositions (o : ClosedMarketObservation) : ∀ (ps : List PaperPosition) (n k : Nat) (w : PaperWorld),
    Ends (deliver bs) (observePositions o ps n) w (.ok k) w' →
      w'.observations = w.observations ∧ w'.engine 0 = ps.foldl (observeStep o) (w.engine 0)
  | [], n, k, w, h => by
    obtain ⟨-, rfl⟩ := ends_pure.1 h
    exact ⟨rfl, rfl⟩
  | p :: rest, n, k, w, h => by
    rw [List.foldl_cons]
    unfold observePositions at h
    unfold observeStep
    by_cases hstate : p.state = .closed
    · rw [if_pos hstate] at h ⊢
      exact ends_observePositions o rest n k w h
    rw [if_neg hstate] at h ⊢
    by_cases hseen : o.canonicalSymbol = p.symbol ∧ p.lastObservedAt < o.closedAt
    · rw [if_pos hseen] at h ⊢
      obtain ⟨closed, w₁, hobserve, hrest⟩ := h.bind_ok
      obtain ⟨hx, -⟩ := ends_ask hobserve
      have hw₁ : w₁ = w.setEngine 0 ((w.engine 0).observe p.contractId o false false).2 := by
        generalize (Except.ok closed : Except PyExc (Option PaperClose)) = ans at hx
        cases hx
        rfl
      subst hw₁
      cases closed with
      | none =>
        have ih := ends_observePositions o rest n k _ hrest
        rw [setEngine_engine, setEngine_observations] at ih
        exact ih
      | some closed =>
        obtain ⟨reconciled, w₂, hreconcile, hrest⟩ := hrest.bind_ok
        have hsame := deliver_same (ends_ask hreconcile) trivial
        split at hrest
        · obtain ⟨herror, -⟩ := ends_raise.1 hrest
          cases herror
        · obtain ⟨_, w₃, hevent, hrest⟩ := hrest.bind_ok
          obtain ⟨_, w₄, hevent', hrest⟩ := hrest.bind_ok
          have hsame' := (hsame.trans (deliver_same (ends_ask hevent) trivial)).trans
            (deliver_same (ends_ask hevent') trivial)
          have ih := ends_observePositions o rest (n + 1) k _ hrest
          rw [hsame'.engine, hsame'.observations, setEngine_engine, setEngine_observations] at ih
          exact ih
    · rw [if_neg hseen] at h ⊢
      exact ends_observePositions o rest n k w h

theorem begin_ignored {table : PyDict ObservationRow}
    (h : (PaperRuntimeStateStore.begin o table).1 = .duplicate ∨ (PaperRuntimeStateStore.begin o table).1 = .old) :
    ∃ row, table.get? o.scope = some row ∧ row.state = .complete ∧ o.closedAt ≤ row.closedAt := by
  unfold PaperRuntimeStateStore.begin at h
  cases hrow : table.get? o.scope with
  | none =>
    rw [hrow] at h
    rcases h with h | h <;> cases h
  | some row =>
    rw [hrow] at h
    dsimp only at h
    have hstate : row.state = .complete := by
      cases hs : row.state with
      | complete => rfl
      | processing =>
        rw [if_pos hs] at h
        rcases h with h | h <;> cases h
    rw [if_neg (by rw [hstate]; decide)] at h
    refine ⟨row, rfl, hstate, ?_⟩
    by_contra hlater
    rw [if_neg (by omega), if_neg (by omega)] at h
    rcases h with h | h <;> cases h

theorem ends_ignored {now : Int} {action : String} {out : Except PyExc (Option PaperRuntimeHeartbeat)}
    (h : Ends (deliver bs) (some <$> ignored now action) w out w') : SameVenue w w' :=
  ends_same h (makes_bind (makes_ignored now action) fun _ => makes_pure _)

variable [CaseFold]

theorem ends_submitEntry {now : Int} {entry : PaperEntry} {out : Except PyExc CycleReport}
    (h : Ends (deliver bs) (submitEntry now o entry) w out w') :
    w'.observations = w.observations ∧ Entered o (w.engine 0) (w'.engine 0) := by
  refine h.keeps_makes (C := Trades o)
    (I := fun w' => w'.observations = w.observations ∧ Entered o (w.engine 0) (w'.engine 0))
    ?_ (makes_submitEntry now o entry) ⟨rfl, .refl o _⟩
  rintro w₁ r ans w₂ htrades ⟨hobs, hentered⟩ ⟨hx, -⟩
  cases hx with
  | paperEvent => exact ⟨hobs, hentered⟩
  | store => exact ⟨hobs, hentered⟩
  | venue g r hg =>
    have hown : g.observation = o := htrades
    subst hown
    refine ⟨hobs, hentered.trans ?_⟩
    rw [setEngine_engine]
    exact exec_entered hg
  | _ => exact htrades.elim

theorem ends_work {now : Int} {os : List ClosedMarketObservation} {report : CycleReport}
    (h : Ends (deliver bs) (work now os o) w (.ok report) w') :
    w'.observations = w.observations ∧
      Entered o ((w.engine 0).positions.values.foldl (observeStep o) (w.engine 0)) (w'.engine 0) := by
  unfold work at h
  obtain ⟨positions, w₁, hpositions, h⟩ := h.bind_ok
  obtain ⟨closedCount, w₂, hobserve, h⟩ := h.bind_ok
  obtain ⟨_, w₃, hdecide, h⟩ := h.bind_ok
  obtain ⟨entry, w₄, hdecision, h⟩ := h.bind_ok
  obtain ⟨hx, -⟩ := ends_ask hpositions
  cases hx
  obtain ⟨hobs, hengine⟩ := ends_observePositions o _ _ _ _ hobserve
  have hdecided : SameVenue w₂ w₃ := by
    obtain ⟨hx, -⟩ := ends_ask hdecide
    cases hx
    exact .refl _
  have hsame := hdecided.trans (deliver_same (ends_ask hdecision) trivial)
  rw [← hengine]
  cases entry with
  | none =>
    obtain ⟨-, rfl⟩ := ends_pure.1 h
    rw [hsame.engine, hsame.observations]
    exact ⟨hobs, .refl o _⟩
  | some entry =>
    obtain ⟨hobs', hentered⟩ := ends_submitEntry h
    rw [hsame.engine] at hentered
    exact ⟨hobs'.trans (hsame.observations.trans hobs), hentered⟩

theorem ends_claimed {now : Int} {os : List ClosedMarketObservation} {res : Option PaperRuntimeHeartbeat}
    {claim : ObservationClaim} (h : Ends (deliver bs) (claimed now os o claim) w (.ok res) w') :
    ((claim = .duplicate ∨ claim = .old) ∧ SameVenue w w') ∨
    (claim = .new ∧ w'.observations = PaperRuntimeStateStore.complete o w.observations ∧
      Entered o ((w.engine 0).positions.values.foldl (observeStep o) (w.engine 0)) (w'.engine 0)) := by
  cases claim with
  | unresolved =>
    obtain ⟨herror, -⟩ := ends_raise.1 h
    cases herror
  | duplicate => exact .inl ⟨.inl rfl, ends_ignored h⟩
  | old => exact .inl ⟨.inr rfl, ends_ignored h⟩
  | new =>
    obtain ⟨report, w₁, hwork, h⟩ := h.bind_ok
    obtain ⟨_, w₂, hfinish, h⟩ := h.bind_ok
    obtain ⟨-, rfl⟩ := ends_pure.1 h
    obtain ⟨hobs, hentered⟩ := ends_work hwork
    obtain ⟨_, w₃, hcomplete, hrest⟩ := hfinish.bind_ok
    obtain ⟨hx, -⟩ := ends_ask hcomplete
    cases hx
    have hsame := ends_same hrest (makes_bind (makes_ask trivial) fun _ => makes_bind (makes_ask trivial) fun _ =>
      makes_ask trivial)
    rw [hsame.observations, hsame.engine]
    refine .inr ⟨rfl, ?_, hentered⟩
    dsimp only
    rw [hobs]

/-- **What a successful cycle has done.** -/
def CycleDone (bs : List ClosedMarketObservation) (w w' : PaperWorld) : Prop := ∃ o, bs.getLast? = some o ∧
  ((∃ row, w.observations.get? o.scope = some row ∧ row.state = .complete ∧ o.closedAt ≤ row.closedAt ∧
      SameVenue w w') ∨
    ((∀ row, w.observations.get? o.scope = some row → row.closedAt < o.closedAt) ∧
      w'.observations.get? o.scope = some ⟨o.closedAt, .complete⟩ ∧
      Entered o ((w.engine 0).positions.values.foldl (observeStep o) (w.engine 0)) (w'.engine 0)))

theorem ends_cycle {now : Int} {res : Option PaperRuntimeHeartbeat}
    (h : Ends (deliver bs) (cycle now) w (.ok res) w') : CycleDone bs w w' := by
  obtain ⟨os, w₁, hsource, h⟩ := h.bind_ok
  obtain ⟨hx, hbs⟩ := ends_ask hsource
  have hos : os = bs := Except.ok.inj hbs
  subst hos
  cases hx
  cases os with
  | nil =>
    obtain ⟨herror, -⟩ := ends_raise.1 h
    cases herror
  | cons first rest =>
    dsimp only [cycleWith] at h
    split at h
    · obtain ⟨herror, -⟩ := ends_raise.1 h
      cases herror
    · split at h
      · obtain ⟨herror, -⟩ := ends_raise.1 h
        cases herror
      · refine ⟨_, List.getLast?_eq_some_getLast (List.cons_ne_nil first rest), ?_⟩
        generalize (first :: rest).getLast (List.cons_ne_nil first rest) = o at h ⊢
        obtain ⟨claim, w₂, hbegin, h⟩ := h.bind_ok
        obtain ⟨hx, -⟩ := ends_ask hbegin
        cases hx
        rcases ends_claimed h with ⟨hignored, hsame⟩ | ⟨hnew, hobs, hentered⟩
        · obtain ⟨row, hrow, hstate, hle⟩ := begin_ignored hignored
          refine .inl ⟨row, hrow, hstate, hle, ⟨?_, hsame.engine⟩⟩
          rw [hsame.observations]
          refine begin_not_new fun hnew => ?_
          rw [hnew] at hignored
          rcases hignored with h | h <;> cases h
        · obtain ⟨htable, hrow⟩ := begin_new hnew
          refine .inr ⟨fun row hget => (hrow row hget).2, ?_, hentered⟩
          rw [hobs]
          dsimp only
          rw [htable]
          unfold PaperRuntimeStateStore.complete
          rw [PyDict.get?_set_self]
          exact PyDict.get?_set_self _ _ _

variable [ExcClass]

/-- **A cycle that succeeded**: `run_once` returned a heartbeat that reports no exception. -/
def CycleSucceeds (bs : List ClosedMarketObservation) (w w' : PaperWorld) : Prop :=
  ∃ heartbeat, Ends (deliver bs) runOnce w (.ok heartbeat) w' ∧
    heartbeat.lastAction ≠ "ERROR" ∧ heartbeat.lastAction ≠ "BLOCKED:MARKET_DATA"

theorem ends_cycleAt {now : Int} {heartbeat : PaperRuntimeHeartbeat}
    (h : Ends (deliver bs) (cycleAt now) w (.ok heartbeat) w')
    (hok : heartbeat.lastAction ≠ "ERROR" ∧ heartbeat.lastAction ≠ "BLOCKED:MARKET_DATA") :
    ∃ res w₁, Ends (deliver bs) (cycle now) w (.ok res) w₁ ∧ SameVenue w₁ w' := by
  obtain ⟨mid, w₁, hcycle, h⟩ := ends_bindAny.1 h
  cases mid with
  | ok res =>
    refine ⟨res, w₁, hcycle, ?_⟩
    cases res with
    | some heartbeat =>
      obtain ⟨-, rfl⟩ := ends_pure.1 h
      exact .refl _
    | none => exact ends_same h makes_publishHeartbeat
  | error exc =>
    dsimp only at h
    split at h
    · obtain ⟨_, w₂, hfailed, hpublish⟩ := h.bind_ok
      obtain ⟨old, w₃, hold, hfailed⟩ := hfailed.bind_ok
      obtain ⟨_, w₄, hset, hevent⟩ := hfailed.bind_ok
      obtain ⟨new, w₅, hnew, hpublish⟩ := hpublish.bind_ok
      obtain ⟨_, w₆, _, hpublish⟩ := hpublish.bind_ok
      obtain ⟨heq, -⟩ := ends_pure.1 hpublish
      cases heq
      obtain ⟨hx, -⟩ := ends_ask hset
      cases hx
      obtain ⟨hx, -⟩ := ends_ask hevent
      cases hx
      obtain ⟨hx, -⟩ := ends_ask hnew
      cases hx
      -- the heartbeat read is the one the handler wrote
      dsimp only at hok
      rw [Function.update_self] at hok
      dsimp only at hok
      split at hok
      · exact absurd rfl hok.2
      · exact absurd rfl hok.1
    · obtain ⟨herror, -⟩ := ends_raise.1 h
      cases herror

theorem cycle_cases (h : CycleSucceeds bs w w') : CycleDone bs w w' := by
  obtain ⟨heartbeat, hends, hok⟩ := h
  obtain ⟨free, w₁, hlock, hends⟩ := hends.bind_ok
  obtain ⟨hx, -⟩ := ends_ask hlock
  cases hx
  cases free with
  | false =>
    obtain ⟨herror, -⟩ := ends_raise.1 hends
    cases herror
  | true =>
    obtain ⟨w₂, _, hbody, hunlock⟩ := Ends.finallyDo_ok hends
    have hunlocked := deliver_same (ends_ask hunlock) trivial
    obtain ⟨now, w₃, hnow, hbody⟩ := hbody.bind_ok
    obtain ⟨hx, -⟩ := ends_ask hnow
    cases hx
    obtain ⟨res, w₄, hcycle, hsame⟩ := ends_cycleAt hbody hok
    have hrest := hsame.trans hunlocked
    obtain ⟨o, ho, hcase⟩ := ends_cycle hcycle
    refine ⟨o, ho, ?_⟩
    rw [hrest.observations, hrest.engine]
    rcases hcase with ⟨row, hrow, hstate, hle, hkept⟩ | hnew
    · exact .inl ⟨row, hrow, hstate, hle, hkept.trans hrest⟩
    · exact .inr hnew

end Jqe
