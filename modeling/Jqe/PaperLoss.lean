import Mathlib
import Jqe.PaperLifecycle
/-!
# PaperLoss — the maximum loss of a proposal bounds the loss of its contract

`propose` computes the loss at the slipped stop with the fees of both sides; `observe` computes the profit of the exit
taken.
-/
namespace Jqe

open PaperContractEngine

def EngineCall.observations : EngineCall → List ClosedMarketObservation
  | .observe _ o _ _ => [o]
  | .replay _ os _ => os
  | _ => []

def PaperProposal.OpenedBeyond (p : PaperProposal) (o : ClosedMarketObservation) : Prop :=
  match p.side with
  | .buy => o.open_ < p.stopLoss
  | .sell => p.stopLoss < o.open_

/-- **The bound of a close at a candle**: only a stop that the candle opened beyond may cost more, and a stop inside the
candle costs exactly the maximum loss. -/
structure LossBounded (p : PaperProposal) (o : ClosedMarketObservation) (x : PaperClose) : Prop where
  bound : ¬(x.reason = .stopLoss ∧ p.OpenedBeyond o) → -p.maximumLoss ≤ x.realizedProfit
  stop : x.reason = .stopLoss → ¬p.OpenedBeyond o → x.realizedProfit = -p.maximumLoss

/-- A proposal as `propose` makes it. -/
structure Proposed (spec : PaperContractSpecification) (p : PaperProposal) : Prop where
  stake_pos : 0 < p.stake
  buy : p.side = .buy → p.stopLoss < p.entry ∧ p.entry < p.takeProfit ∧
    p.maximumLoss = |p.entry - (p.stopLoss - spec.slippage)| * p.stake +
      (spec.fee p.entry p.stake + spec.fee (p.stopLoss - spec.slippage) p.stake)
  sell : p.side = .sell → p.takeProfit < p.entry ∧ p.entry < p.stopLoss ∧
    p.maximumLoss = |p.entry - (p.stopLoss + spec.slippage)| * p.stake +
      (spec.fee p.entry p.stake + spec.fee (p.stopLoss + spec.slippage) p.stake)

/-- What a position keeps of its proposal. -/
structure PaperPosition.Under (q : PaperPosition) (p : PaperProposal) : Prop where
  side : q.side = p.side
  stake : q.stake = p.stake
  entry : q.entry = p.entry
  stopLoss : q.stopLoss = p.stopLoss
  takeProfit : q.takeProfit = p.takeProfit

/-! ### The proposal -/

theorem stake_pos_of_valid {spec : PaperContractSpecification} {stake : ℚ} (h : spec.validateStake stake = .ok ()) :
    0 < stake := by
  unfold PaperContractSpecification.validateStake at h
  split at h
  · cases h
  · rename_i hmin
    have hpos := spec.stakes_pos.1
    linarith

variable {o : ClosedMarketObservation}

theorem proposed_of_ok {e : PaperContractEngine} {key : String} {side : OrderSide} {stake stopLoss takeProfit : ℚ}
    {entryPrice : Option ℚ} {p : PaperProposal}
    (h : (e.propose key side stake stopLoss takeProfit o entryPrice).1 = .ok p) :
    Proposed e.specification p ∧ p.idempotencyKey = key := by
  unfold propose at h
  cases hstake : e.specification.validateStake stake with
  | error exc =>
    rw [hstake] at h
    cases h
  | ok _ =>
    rw [hstake] at h
    dsimp only at h
    generalize entryPrice.getD o.close = entry at h
    split at h
    · cases h
    split at h
    · cases h
    rename_i hbuy
    split at h
    · cases h
    rename_i hsell
    obtain rfl := register_ok h
    refine ⟨⟨stake_pos_of_valid hstake, ?_, ?_⟩, rfl⟩
    · intro hside
      change side = .buy at hside
      subst hside
      have hlevels : stopLoss < entry ∧ entry < takeProfit := by simpa using hbuy
      exact ⟨hlevels.1, hlevels.2, rfl⟩
    · intro hside
      change side = .sell at hside
      subst hside
      have hlevels : takeProfit < entry ∧ entry < stopLoss := by simpa using hsell
      exact ⟨hlevels.1, hlevels.2, rfl⟩

/-! ### The exit -/

theorem exit_buy {q : PaperPosition} (hside : q.side = .buy) (hlevels : q.stopLoss < q.takeProfit) {s f : Bool}
    {reason : PaperExitReason} {price : ℚ} (h : q.exit? o s f = some (reason, price)) :
    (reason = .stopLoss ∧ o.open_ < q.stopLoss) ∨
      (q.stopLoss ≤ price ∧ (reason = .stopLoss → price = q.stopLoss)) := by
  have hlow : o.low ≤ o.close := o.ohlc_ok.2.trans (min_le_right _ _)
  unfold PaperPosition.exit? PaperPosition.levelExit at h
  rw [hside] at h
  dsimp only at h
  by_cases hstop : o.open_ ≤ q.stopLoss
  · rw [if_pos hstop] at h
    cases h
    rcases hstop.lt_or_eq with hlt | heq
    · exact .inl ⟨rfl, hlt⟩
    · exact .inr ⟨heq.ge, fun _ => heq⟩
  rw [if_neg hstop] at h
  right
  by_cases htake : q.takeProfit ≤ o.open_
  · rw [if_pos htake] at h
    cases h
    exact ⟨by linarith, fun hne => by cases hne⟩
  rw [if_neg htake] at h
  by_cases hinside : o.low ≤ q.stopLoss
  · rw [if_pos hinside] at h
    cases h
    exact ⟨le_rfl, fun _ => rfl⟩
  rw [if_neg hinside] at h
  by_cases hhigh : q.takeProfit ≤ o.high
  · rw [if_pos hhigh] at h
    cases h
    exact ⟨hlevels.le, fun hne => by cases hne⟩
  rw [if_neg hhigh] at h
  cases s with
  | true =>
    cases h
    exact ⟨by linarith, fun hne => by cases hne⟩
  | false =>
    cases f with
    | true =>
      cases h
      exact ⟨by linarith, fun hne => by cases hne⟩
    | false => cases h

theorem exit_sell {q : PaperPosition} (hside : q.side = .sell) (hlevels : q.takeProfit < q.stopLoss) {s f : Bool}
    {reason : PaperExitReason} {price : ℚ} (h : q.exit? o s f = some (reason, price)) :
    (reason = .stopLoss ∧ q.stopLoss < o.open_) ∨
      (price ≤ q.stopLoss ∧ (reason = .stopLoss → price = q.stopLoss)) := by
  have hhigh : o.close ≤ o.high := (le_max_right _ _).trans o.ohlc_ok.1
  unfold PaperPosition.exit? PaperPosition.levelExit at h
  rw [hside] at h
  dsimp only at h
  by_cases hstop : q.stopLoss ≤ o.open_
  · rw [if_pos hstop] at h
    cases h
    rcases hstop.lt_or_eq with hlt | heq
    · exact .inl ⟨rfl, hlt⟩
    · exact .inr ⟨heq.ge, fun _ => heq.symm⟩
  rw [if_neg hstop] at h
  right
  by_cases htake : o.open_ ≤ q.takeProfit
  · rw [if_pos htake] at h
    cases h
    exact ⟨by linarith, fun hne => by cases hne⟩
  rw [if_neg htake] at h
  by_cases hinside : q.stopLoss ≤ o.high
  · rw [if_pos hinside] at h
    cases h
    exact ⟨le_rfl, fun _ => rfl⟩
  rw [if_neg hinside] at h
  by_cases hlow : o.low ≤ q.takeProfit
  · rw [if_pos hlow] at h
    cases h
    exact ⟨hlevels.le, fun hne => by cases hne⟩
  rw [if_neg hlow] at h
  cases s with
  | true =>
    cases h
    exact ⟨by linarith, fun hne => by cases hne⟩
  | false =>
    cases f with
    | true =>
      cases h
      exact ⟨by linarith, fun hne => by cases hne⟩
    | false => cases h

/-! ### The bound -/

/-- **The fee grows by less than the price**, at a rate of at most 1. -/
theorem fee_le {spec : PaperContractSpecification} (hrate : spec.feeRate ≤ 1) (price slipped : ℚ) {stake : ℚ}
    (hstake : 0 < stake) : spec.fee price stake ≤ spec.fee slipped stake + |price - slipped| * stake := by
  unfold PaperContractSpecification.fee
  have hrate₀ := spec.rates_nonneg.1
  have htriangle : |price * stake| ≤ |slipped * stake| + |price - slipped| * stake := by
    have hsplit : price * stake = slipped * stake + (price - slipped) * stake := by ring
    calc |price * stake| = |slipped * stake + (price - slipped) * stake| := by rw [← hsplit]
      _ ≤ |slipped * stake| + |(price - slipped) * stake| := abs_add_le _ _
      _ = |slipped * stake| + |price - slipped| * stake := by rw [abs_mul (price - slipped), abs_of_pos hstake]
  have hmove : 0 ≤ |price - slipped| * stake := mul_nonneg (abs_nonneg _) hstake.le
  calc |price * stake| * spec.feeRate ≤ (|slipped * stake| + |price - slipped| * stake) * spec.feeRate :=
        mul_le_mul_of_nonneg_right htriangle hrate₀
    _ = |slipped * stake| * spec.feeRate + |price - slipped| * stake * spec.feeRate := by ring
    _ ≤ |slipped * stake| * spec.feeRate + |price - slipped| * stake := by
        have hscaled := mul_le_of_le_one_right hmove hrate
        linarith

/-- A close filled at `fill`, in the direction `d` of its position, against the loss of a fill at the stop. -/
theorem lossBounded_of_fill {spec : PaperContractSpecification} (hrate : spec.feeRate ≤ 1) {p : PaperProposal}
    {x : PaperClose} {stopFill : ℚ} (fill d : ℚ) (hstake : 0 < p.stake)
    (hrealized : x.realizedProfit =
      (fill - p.entry) * p.stake * d - (spec.fee p.entry p.stake + spec.fee fill p.stake))
    (hmax : p.maximumLoss =
      |p.entry - stopFill| * p.stake + (spec.fee p.entry p.stake + spec.fee stopFill p.stake))
    (hentry : |p.entry - stopFill| = (p.entry - stopFill) * d)
    (hexit : (x.reason = .stopLoss ∧ p.OpenedBeyond o) ∨
      (|fill - stopFill| = (fill - stopFill) * d ∧ (x.reason = .stopLoss → fill = stopFill))) :
    LossBounded p o x := by
  refine ⟨fun hnot => ?_, fun hreason hnot => ?_⟩
  · rcases hexit with hgap | ⟨hfill, -⟩
    · exact absurd hgap hnot
    · have hfee := fee_le hrate fill stopFill hstake
      rw [hfill] at hfee
      rw [hrealized, hmax, hentry]
      linarith
  · rcases hexit with hgap | ⟨-, hfill⟩
    · exact absurd hgap.2 hnot
    · rw [hrealized, hmax, hentry, hfill hreason]
      ring

/-- **A close is within the bound of its proposal.** -/
theorem closeOf_bounded {e : PaperContractEngine} {p : PaperProposal} {q : PaperPosition}
    (hrate : e.specification.feeRate ≤ 1) (hp : Proposed e.specification p) (hq : q.Under p) {c : String} {s f : Bool}
    {reason : PaperExitReason} {price : ℚ} (h : q.exit? o s f = some (reason, price)) :
    LossBounded p o (e.closeOf c q o reason price) := by
  have hslip := e.specification.rates_nonneg.2
  have hside := hq.side
  cases hdir : p.side with
  | buy =>
    rw [hdir] at hside
    obtain ⟨hstop, htake, hmax⟩ := hp.buy hdir
    refine lossBounded_of_fill hrate (price - e.specification.slippage) 1 hp.stake_pos ?_ hmax
      (by rw [mul_one]; exact abs_of_nonneg (by linarith)) ?_
    · unfold closeOf
      rw [hside, hq.entry, hq.stake]
    · have hexit := exit_buy hside (by rw [hq.stopLoss, hq.takeProfit]; linarith) h
      rw [hq.stopLoss] at hexit
      refine hexit.imp (fun hgap => ⟨hgap.1, ?_⟩) fun hfill => ⟨?_, fun hreason => by rw [hfill.2 hreason]⟩
      · unfold PaperProposal.OpenedBeyond
        rw [hdir]
        exact hgap.2
      · rw [mul_one]
        exact abs_of_nonneg (by linarith)
  | sell =>
    rw [hdir] at hside
    obtain ⟨htake, hstop, hmax⟩ := hp.sell hdir
    refine lossBounded_of_fill hrate (price + e.specification.slippage) (-1) hp.stake_pos ?_ hmax
      (by rw [mul_neg_one]; exact abs_of_nonpos (by linarith)) ?_
    · unfold closeOf
      rw [hside, hq.entry, hq.stake]
    · have hexit := exit_sell hside (by rw [hq.stopLoss, hq.takeProfit]; linarith) h
      rw [hq.stopLoss] at hexit
      refine hexit.imp (fun hgap => ⟨hgap.1, ?_⟩) fun hfill => ⟨?_, fun hreason => by rw [hfill.2 hreason]⟩
      · unfold PaperProposal.OpenedBeyond
        rw [hdir]
        exact hgap.2
      · rw [mul_neg_one]
        exact abs_of_nonpos (by linarith)

/-! ### The run of a contract -/

theorem PaperContractEngine.Change.specification {e e' : PaperContractEngine} (h : Change e e') : e'.specification = e.specification := by
  cases h <;> rfl

theorem PaperContractEngine.Changes.specification {e e' : PaperContractEngine} (h : Changes e e') : e'.specification = e.specification := by
  induction h with
  | refl => rfl
  | tail _ change ih => exact change.specification.trans ih

/-- The position of a proposal is stored, on the terms of the proposal. -/
def Stands (p : PaperProposal) (positions : PyDict PaperPosition) : Prop :=
  ∃ q, positions.get? (paperContractId p.idempotencyKey) = some q ∧ q.Under p

variable {p : PaperProposal} {e e' : PaperContractEngine}

theorem Stands.set {positions : PyDict PaperPosition} (h : Stands p positions) {c : String} {q' : PaperPosition}
    (hq : ∀ q, positions.get? c = some q → q.Under p → q'.Under p) : Stands p (positions.set c q') := by
  obtain ⟨q, hget, hunder⟩ := h
  by_cases hc : paperContractId p.idempotencyKey = c
  · subst hc
    exact ⟨q', PyDict.get?_set_self _ _ _, hq q hget hunder⟩
  · exact ⟨q, by rw [PyDict.get?_set_of_ne _ _ hc]; exact hget, hunder⟩

theorem observe_stands (hrate : e.specification.feeRate ≤ 1) (hp : Proposed e.specification p)
    (h : Stands p e.positions) (c : String) (o : ClosedMarketObservation) (s f : Bool) :
    Stands p (e.observe c o s f).2.positions ∧
      ∀ x, (e.observe c o s f).1 = .ok (some x) → x.contractId = paperContractId p.idempotencyKey →
        x.closedAt = o.closedAt ∧ LossBounded p o x := by
  rcases observe_cases e c o s f with
    ⟨exc, heq⟩ | ⟨q, hq, -, -, -, ⟨-, heq⟩ | ⟨reason, price, hexit, heq⟩⟩
  · rw [heq]
    exact ⟨h, fun x hx => by cases hx⟩
  · rw [heq]
    refine ⟨h.set fun q' hq' hunder => ?_, fun x hx => by cases hx⟩
    rw [hq] at hq'
    cases hq'
    exact ⟨hunder.side, hunder.stake, hunder.entry, hunder.stopLoss, hunder.takeProfit⟩
  · rw [heq]
    refine ⟨h.set fun q' hq' hunder => ?_, fun x hx hname => ?_⟩
    · rw [hq] at hq'
      cases hq'
      exact ⟨hunder.side, hunder.stake, hunder.entry, hunder.stopLoss, hunder.takeProfit⟩
    · cases hx
      obtain ⟨q', hq', hunder⟩ := h
      change c = _ at hname
      subst hname
      rw [hq] at hq'
      cases hq'
      exact ⟨rfl, closeOf_bounded hrate hp hunder hexit⟩

theorem replay_stands (c : String) (f : Bool) : ∀ (os : List ClosedMarketObservation) {e : PaperContractEngine},
    e.specification.feeRate ≤ 1 → Proposed e.specification p → Stands p e.positions →
    Stands p (e.replay c f os).2.positions ∧
      ∀ x, (e.replay c f os).1 = .ok (some x) → x.contractId = paperContractId p.idempotencyKey →
        ∃ o ∈ os, x.closedAt = o.closedAt ∧ LossBounded p o x
  | [], _, _, _, h => ⟨h, fun x hx => by cases hx⟩
  | o :: rest, e, hrate, hp, h => by
    obtain ⟨hstands, hclose⟩ := observe_stands hrate hp h c o false (f && rest.isEmpty)
    have hspec := (observe_changes e c o false (f && rest.isEmpty)).specification
    unfold replay
    generalize e.observe c o false (f && rest.isEmpty) = out at hstands hclose hspec ⊢
    obtain ⟨exc | ans, e'⟩ := out
    · exact ⟨hstands, fun x hx => by cases hx⟩
    · cases ans with
      | some result =>
        refine ⟨hstands, fun x hx hname => ?_⟩
        cases hx
        exact ⟨o, List.mem_cons_self, hclose _ rfl hname⟩
      | none =>
        dsimp only at hspec hstands ⊢
        rw [← hspec] at hrate hp
        obtain ⟨hafter, hlater⟩ := replay_stands c f rest hrate hp hstands
        refine ⟨hafter, fun x hx hname => ?_⟩
        obtain ⟨o', ho', hbounded⟩ := hlater x hx hname
        exact ⟨o', List.mem_cons_of_mem _ ho', hbounded⟩

theorem apply_stands (hrate : e.specification.feeRate ≤ 1) (hp : Proposed e.specification p)
    (h : Stands p e.positions) (call : EngineCall) :
    Stands p (call.apply e).2.positions ∧
      ∀ x, (call.apply e).1 = .ok (.close (some x)) → x.contractId = paperContractId p.idempotencyKey →
        ∃ o ∈ call.observations, x.closedAt = o.closedAt ∧ LossBounded p o x := by
  cases call with
  | propose key side stake stopLoss takeProfit o entry =>
    have hsame : (e.propose key side stake stopLoss takeProfit o entry).2.positions = e.positions := by
      unfold propose
      cases e.specification.validateStake stake with
      | error exc => rfl
      | ok _ =>
        dsimp only
        iterate 3
          split
          · rfl
        obtain ⟨proposals, hregister⟩ := register_proposals e key _
        rw [hregister]
    refine ⟨?_, fun x hx => ?_⟩
    · simp only [EngineCall.apply, Outcome.map, hsame]
      exact h
    · simp only [EngineCall.apply, Outcome.map] at hx
      cases hout : (e.propose key side stake stopLoss takeProfit o entry).1 <;> rw [hout] at hx <;> cases hx
  | open_ proposal =>
    refine ⟨?_, fun x hx => ?_⟩
    · simp only [EngineCall.apply, Outcome.map]
      unfold open_
      dsimp only
      by_cases hc : (e.positions.get? (paperContractId proposal.idempotencyKey)).isSome = true
      · rw [if_pos hc]
        exact h
      · rw [if_neg hc]
        refine h.set fun q hq _ => ?_
        rw [hq] at hc
        exact absurd rfl hc
    · simp only [EngineCall.apply, Outcome.map] at hx
      cases hout : (e.open_ proposal).1 <;> rw [hout] at hx <;> cases hx
  | requestClose c =>
    refine ⟨?_, fun x hx => ?_⟩
    · simp only [EngineCall.apply, Outcome.map]
      unfold requestClose
      cases hq : e.positions.get? c with
      | none => exact h
      | some q =>
        dsimp only
        split
        · exact h
        · refine h.set fun q' hq' hunder => ?_
          rw [hq] at hq'
          cases hq'
          exact ⟨hunder.side, hunder.stake, hunder.entry, hunder.stopLoss, hunder.takeProfit⟩
    · simp only [EngineCall.apply, Outcome.map] at hx
      cases hout : (e.requestClose c).1 <;> rw [hout] at hx <;> cases hx
  | reconcile c => exact ⟨h, fun x hx => by cases hx⟩
  | observe c o s f =>
    obtain ⟨hstands, hclose⟩ := observe_stands hrate hp h c o s f
    refine ⟨hstands, fun x hx hname => ⟨o, List.mem_singleton_self o, hclose x ?_ hname⟩⟩
    simp only [EngineCall.apply, Outcome.map] at hx
    cases hout : (e.observe c o s f).1 with
    | error exc =>
      rw [hout] at hx
      cases hx
    | ok ans =>
      rw [hout] at hx
      cases hx
      rfl
  | replay c os f =>
    obtain ⟨hstands, hclose⟩ := replay_stands c f os hrate hp h
    refine ⟨hstands, fun x hx hname => hclose x ?_ hname⟩
    simp only [EngineCall.apply, Outcome.map] at hx
    cases hout : (e.replay c f os).1 with
    | error exc =>
      rw [hout] at hx
      cases hx
    | ok ans =>
      rw [hout] at hx
      cases hx
      rfl

theorem trace_stands {call : EngineCall} {x : PaperClose} : ∀ (calls : List EngineCall) {e : PaperContractEngine},
    e.specification.feeRate ≤ 1 → Proposed e.specification p → Stands p e.positions →
    (call, Except.ok (EngineAnswer.close (some x))) ∈ e.trace calls → x.contractId = paperContractId p.idempotencyKey →
    ∃ o ∈ call.observations, x.closedAt = o.closedAt ∧ LossBounded p o x
  | [], _, _, _, _, hmem, _ => by cases hmem
  | first :: calls, e, hrate, hp, h, hmem, hname => by
    obtain ⟨hstands, hclose⟩ := apply_stands hrate hp h first
    rw [trace, List.mem_cons] at hmem
    rcases hmem with heq | hmem
    · obtain ⟨rfl, hanswer⟩ := Prod.mk.inj heq
      exact hclose x hanswer.symm hname
    · have hspec := (apply_changes e first).specification
      rw [← hspec] at hrate hp
      exact trace_stands calls hrate hp hstands hmem hname

/-- **The maximum loss of a proposal bounds its contract**: `propose` answers with `p` on a venue in any state, the
proposal is opened on that venue in any later state, and any calls follow.  A close of the contract is made on a candle
of its call and loses no more than `p.maximumLoss`, unless it is a stop that the candle opened beyond; a stop inside the
candle loses exactly that. -/
theorem maximumLoss_bounds (proposing opening : PaperContractEngine)
    (hsame : opening.specification = proposing.specification) (hrate : proposing.specification.feeRate ≤ 1)
    (key : String) (side : OrderSide) (stake stopLoss takeProfit : ℚ) (o : ClosedMarketObservation)
    (entryPrice : Option ℚ) (p : PaperProposal) (position : PaperPosition)
    (hproposed : (proposing.propose key side stake stopLoss takeProfit o entryPrice).1 = .ok p)
    (hopened : (opening.open_ p).1 = .ok position) (calls : List EngineCall) (call : EngineCall) (x : PaperClose)
    (hclose : (call, Except.ok (EngineAnswer.close (some x))) ∈ (opening.open_ p).2.trace calls)
    (hname : x.contractId = position.contractId) :
    ∃ o' ∈ call.observations, x.closedAt = o'.closedAt ∧ LossBounded p o' x := by
  obtain ⟨hp, -⟩ := proposed_of_ok hproposed
  have hspec : (opening.open_ p).2.specification = proposing.specification :=
    (open_changes opening p).specification.trans hsame
  have hstands : Stands p (opening.open_ p).2.positions ∧ position.contractId = paperContractId p.idempotencyKey := by
    unfold open_ at hopened ⊢
    dsimp only at hopened ⊢
    split at hopened
    · cases hopened
    · rename_i habsent
      cases hopened
      rw [if_neg habsent]
      exact ⟨⟨openedPosition p, PyDict.get?_set_self _ _ _, ⟨rfl, rfl, rfl, rfl, rfl⟩⟩, rfl⟩
  rw [hstands.2] at hname
  rw [← hspec] at hrate hp
  exact trace_stands calls hrate hp hstands.1 hclose hname

def costlyVenue : PaperContractEngine := fresh
  { PaperContractSpecification.default with
    feeRate := 1 / 100
    slippage := 1 / 2
    rates_nonneg := by norm_num }

def dip (closedAt : Int) (hclosed : 0 < closedAt) : ClosedMarketObservation where
  canonicalSymbol := "EURUSD"
  timeframe := .m15
  candleOpenedAt := 0
  closedAt := closedAt
  open_ := 99
  high := 100
  low := 94
  close := 96
  symbol_ok := by decide
  times_ok := hclosed
  prices_ok := by norm_num
  ohlc_ok := by norm_num

def dipped : PaperProposal :=
  costlyVenue.proposalOf "k" .buy 1 95 110 (dip 900 (by norm_num)) 100

def dippedClose : PaperClose :=
  costlyVenue.closeOf (paperContractId "k") (openedPosition dipped) (dip 1800 (by norm_num)) .stopLoss 95

theorem maximumLoss_bounds_dip : ∃ o' ∈ [dip 1800 (by norm_num)], dippedClose.closedAt = o'.closedAt ∧
    LossBounded dipped o' dippedClose := by
  have hproposed : (costlyVenue.propose "k" .buy 1 95 110 (dip 900 (by norm_num)) (some 100)).1 = .ok dipped := by
    decide +kernel
  have hopened : (costlyVenue.open_ dipped).1 = .ok (openedPosition dipped) := by decide
  have hobserved : ((costlyVenue.open_ dipped).2.observe (paperContractId "k") (dip 1800 (by norm_num)) false false).1 =
      .ok (some dippedClose) := by rfl
  refine maximumLoss_bounds costlyVenue costlyVenue rfl (by norm_num [costlyVenue, fresh]) "k" .buy 1 95 110 _ _ _ _
    hproposed hopened [.observe (paperContractId "k") (dip 1800 (by norm_num)) false false]
    (.observe (paperContractId "k") (dip 1800 (by norm_num)) false false) dippedClose ?_ rfl
  rw [trace, List.mem_cons]
  left
  rw [EngineCall.apply, Outcome.map, hobserved]
  rfl

end Jqe
