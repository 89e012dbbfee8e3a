import Mathlib
import Jqe.PaperRuntime
/-!
# PaperLeftover — the proposal that a rejected paper order leaves

`propose` registers the proposal of a new key; the entry binding, the risk bound and `open` come after.  An order that
fails one of these is rejected and stays registered.
-/
namespace Jqe

namespace PaperContractEngine

/-- `propose` on the text of a side, which is equal to the member and is not it: no level is checked, and the stop slips
upwards. -/
def proposeText (e : PaperContractEngine) (idempotencyKey : String) (side : OrderSide) (stake stopLoss takeProfit : ℚ)
    (observation : ClosedMarketObservation) : Outcome PaperProposal :=
  match e.specification.validateStake stake with
  | .error exc => (.error exc, e)
  | .ok () =>
    if observation.close ≤ 0 then e.raise "entry_price must be positive"
    else
      e.register idempotencyKey
        { e.proposalOf idempotencyKey .sell stake stopLoss takeProfit observation observation.close with side }

def proposeSide (e : PaperContractEngine) (idempotencyKey : String) (side : SideValue) (stake stopLoss takeProfit : ℚ)
    (observation : ClosedMarketObservation) : Outcome PaperProposal :=
  match side with
  | .member side => e.propose idempotencyKey side stake stopLoss takeProfit observation none
  | .text text =>
    match OrderSide.ofText? text with
    | some side => e.proposeText idempotencyKey side stake stopLoss takeProfit observation
    | none => e.raise text

/-- What `authorize_and_propose` checks of a proposal it has made. -/
def checkBinding (e : PaperContractEngine) (intent : ExecutionIntent) (proposal : PaperProposal) : Outcome PaperProposal :=
  if intent.entry.rat? ≠ some proposal.entry then e.raise "intent entry is not bound to the closed observation"
  else match finiteNumber intent.authorizedRiskAmount with
    | none => e.raise "paper maximum loss exceeds authorized risk"
    | some risk =>
      if risk < proposal.maximumLoss then e.raise "paper maximum loss exceeds authorized risk" else (.ok proposal, e)

def authorizeAndPropose [CaseMap] (e : PaperContractEngine) (intent : ExecutionIntent) (context : Option ExecutionContext)
    (observation : ClosedMarketObservation) (observedAt : Int) : Outcome PaperProposal :=
  let decision := ExecutionPolicy.evaluate intent context
  if decision.allowed = false then e.raise ("paper trade blocked: " ++ decision.code.value)
  else if normalizeSymbol intent.symbol ≠ normalizeSymbol observation.canonicalSymbol then
    e.raise "paper intent symbol does not match the closed observation"
  else if observation.isClosedAt observedAt = false then e.raise "paper market observation is not closed"
  else match intent.quantity, intent.stopLoss, intent.takeProfit with
    | none, _, _ => e.raise "paper stake is missing"
    | some quantity, .fin stopLoss, .fin takeProfit =>
      match e.proposeSide intent.idempotencyKey intent.side quantity.value stopLoss takeProfit observation with
      | (.error exc, e') => (.error exc, e')
      | (.ok proposal, e') => e'.checkBinding intent proposal
    | some _, _, _ => e.raise "[<class 'decimal.InvalidOperation'>]"

/-- **The orders as they were**: proposals, positions and closes. -/
structure Untouched (e e' : PaperContractEngine) : Prop where
  proposals : e'.proposals = e.proposals
  positions : e'.positions = e.positions
  closes : e'.closes = e.closes

theorem Untouched.refl (e : PaperContractEngine) : Untouched e e := ⟨rfl, rfl, rfl⟩

end PaperContractEngine

open PaperContractEngine

/-! ### What an order comes to -/

/-- The levels of a side, as `propose` checks them when it is given the member. -/
def LevelsOk (side : SideValue) (stopLoss entry takeProfit : ℚ) : Prop :=
  match side with
  | .member .buy => stopLoss < entry ∧ entry < takeProfit
  | .member .sell => takeProfit < entry ∧ entry < stopLoss
  | .text _ => True

namespace PaperContractSpecification

/-- What `propose` checks before it registers. -/
structure Admits (spec : PaperContractSpecification) (side : SideValue) (stake stopLoss entry takeProfit : ℚ) : Prop where
  stake_ok : spec.validateStake stake = .ok ()
  entry_pos : 0 < entry
  levels : LevelsOk side stopLoss entry takeProfit

def slipped (spec : PaperContractSpecification) (side : SideValue) (stopLoss : ℚ) : ℚ :=
  if side = .member .buy then stopLoss - spec.slippage else stopLoss + spec.slippage

def lossAtStop (spec : PaperContractSpecification) (side : SideValue) (stake stopLoss entry : ℚ) : ℚ :=
  |entry - spec.slipped side stopLoss| * stake +
    (spec.fee entry stake + spec.fee (spec.slipped side stopLoss) stake)

end PaperContractSpecification

def proposalFor (e : PaperContractEngine) (key : String) (side : SideValue) (stake stopLoss takeProfit : ℚ)
    (o : ClosedMarketObservation) (entry : ℚ) : PaperProposal :=
  match side with
  | .member side => e.proposalOf key side stake stopLoss takeProfit o entry
  | .text text =>
    { e.proposalOf key .sell stake stopLoss takeProfit o entry with side := (OrderSide.ofText? text).getD .sell }

theorem proposalFor_maximumLoss (e : PaperContractEngine) (key : String) (side : SideValue) (stake stopLoss takeProfit : ℚ)
    (o : ClosedMarketObservation) (entry : ℚ) : (proposalFor e key side stake stopLoss takeProfit o entry).maximumLoss =
      e.specification.lossAtStop side stake stopLoss entry := by
  rcases side with ⟨_ | _⟩ | text
  · rfl
  · rfl
  · rfl

variable {e : PaperContractEngine} {key : String} {stake stopLoss takeProfit : ℚ} {o : ClosedMarketObservation}

theorem propose_eq (side : OrderSide) (entryPrice : Option ℚ) :
    (e.specification.Admits (.member side) stake stopLoss (entryPrice.getD o.close) takeProfit →
      e.propose key side stake stopLoss takeProfit o entryPrice =
        e.register key (proposalFor e key (.member side) stake stopLoss takeProfit o (entryPrice.getD o.close))) ∧
    (¬e.specification.Admits (.member side) stake stopLoss (entryPrice.getD o.close) takeProfit →
      ∃ exc, e.propose key side stake stopLoss takeProfit o entryPrice = (.error exc, e)) := by
  generalize hentry : entryPrice.getD o.close = entry
  refine ⟨fun h => ?_, fun h => ?_⟩
  · unfold propose
    rw [h.stake_ok, hentry]
    dsimp only
    rw [if_neg (not_le.2 h.entry_pos)]
    have hlevels := h.levels
    cases side with
    | buy =>
      rw [if_neg (fun hbad => hbad.2 hlevels), if_neg (fun hbad => by cases hbad.1)]
      rfl
    | sell =>
      rw [if_neg (fun hbad => by cases hbad.1), if_neg (fun hbad => hbad.2 hlevels)]
      rfl
  · unfold propose
    cases hstake : e.specification.validateStake stake with
    | error exc => exact ⟨exc, rfl⟩
    | ok _ =>
      rw [hentry]
      dsimp only
      by_cases hpos : entry ≤ 0
      · rw [if_pos hpos]
        exact ⟨_, rfl⟩
      rw [if_neg hpos]
      cases side with
      | buy =>
        rw [if_pos ⟨rfl, fun hlevels => h ⟨hstake, not_le.1 hpos, hlevels⟩⟩]
        exact ⟨_, rfl⟩
      | sell =>
        rw [if_neg (fun hbad => by cases hbad.1), if_pos ⟨rfl, fun hlevels => h ⟨hstake, not_le.1 hpos, hlevels⟩⟩]
        exact ⟨_, rfl⟩

theorem proposeText_eq {text : String} {side : OrderSide} (hside : OrderSide.ofText? text = some side) :
    (e.specification.Admits (.text text) stake stopLoss o.close takeProfit →
      e.proposeText key side stake stopLoss takeProfit o =
        e.register key (proposalFor e key (.text text) stake stopLoss takeProfit o o.close)) ∧
    (¬e.specification.Admits (.text text) stake stopLoss o.close takeProfit →
      ∃ exc, e.proposeText key side stake stopLoss takeProfit o = (.error exc, e)) := by
  refine ⟨fun h => ?_, fun h => ?_⟩
  · unfold proposeText proposalFor
    rw [h.stake_ok]
    dsimp only
    rw [if_neg (not_le.2 h.entry_pos), hside]
    rfl
  · unfold proposeText
    cases hstake : e.specification.validateStake stake with
    | error exc => exact ⟨exc, rfl⟩
    | ok _ =>
      dsimp only
      rw [if_pos (not_lt.1 fun hpos => h ⟨hstake, hpos, trivial⟩)]
      exact ⟨_, rfl⟩

theorem register_known {existing : PaperProposal} (h : e.proposals.get? key = some existing) (proposal : PaperProposal) :
    ∃ out, e.register key proposal = (out, e) := by
  unfold register
  rw [h]
  dsimp only
  split <;> exact ⟨_, rfl⟩

theorem register_new {proposal : PaperProposal} (h : e.proposals.get? key = none) :
    e.register key proposal = (.ok proposal, { e with proposals := e.proposals.set key proposal }) := by
  unfold register
  rw [h]

theorem not_untouched_register {proposal : PaperProposal} (h : e.proposals.get? key = none)
    {e' : PaperContractEngine} (heq : e'.proposals = e.proposals.set key proposal) : ¬Untouched e e' := by
  intro huntouched
  have hget : (e.proposals.set key proposal).get? key = e.proposals.get? key := by rw [← heq, huntouched.proposals]
  rw [PyDict.get?_set_self, h] at hget
  cases hget

theorem proposeSide_eq {side : SideValue} (hside : side.side?.isSome = true) :
    (e.specification.Admits side stake stopLoss o.close takeProfit →
      e.proposeSide key side stake stopLoss takeProfit o =
        e.register key (proposalFor e key side stake stopLoss takeProfit o o.close)) ∧
    (¬e.specification.Admits side stake stopLoss o.close takeProfit →
      ∃ exc, e.proposeSide key side stake stopLoss takeProfit o = (.error exc, e)) := by
  cases side with
  | member side => exact propose_eq side none
  | text text =>
    obtain ⟨side, htext⟩ := Option.isSome_iff_exists.1 hside
    change OrderSide.ofText? text = some side at htext
    have hcall : e.proposeSide key (.text text) stake stopLoss takeProfit o =
        e.proposeText key side stake stopLoss takeProfit o := by
      unfold proposeSide
      dsimp only
      rw [htext]
    rw [hcall]
    exact proposeText_eq htext

/-! ### `authorize_and_propose` -/

/-- An intent that is registered and then rejected: its entry is not the close of the candle, or its loss at the stop
exceeds its authorized risk. -/
structure AuthorizeStrays [CaseMap] (e : PaperContractEngine) (intent : ExecutionIntent) (context : Option ExecutionContext)
    (o : ClosedMarketObservation) (observedAt : Int) (quantity : ExecutionQuantity) (stopLoss takeProfit : ℚ) : Prop where
  allowed : (ExecutionPolicy.evaluate intent context).allowed = true
  symbol : normalizeSymbol intent.symbol = normalizeSymbol o.canonicalSymbol
  closed : o.isClosedAt observedAt = true
  stake : intent.quantity = some quantity
  stop : intent.stopLoss = .fin stopLoss
  take : intent.takeProfit = .fin takeProfit
  admitted : e.specification.Admits intent.side quantity.value stopLoss o.close takeProfit
  new : e.proposals.get? intent.idempotencyKey = none
  rejected : intent.entry.rat? ≠ some o.close ∨ ∀ risk, finiteNumber intent.authorizedRiskAmount = some risk →
    risk < e.specification.lossAtStop intent.side quantity.value stopLoss o.close

theorem proposalFor_entry (e : PaperContractEngine) (key : String) (side : SideValue) (stake stopLoss takeProfit : ℚ)
    (o : ClosedMarketObservation) (entry : ℚ) :
    (proposalFor e key side stake stopLoss takeProfit o entry).entry = entry := by
  cases side <;> rfl

theorem checkBinding_snd (e : PaperContractEngine) (intent : ExecutionIntent) (proposal : PaperProposal) :
    (e.checkBinding intent proposal).2 = e := by
  unfold checkBinding
  split
  · rfl
  · split
    · rfl
    · split <;> rfl

theorem checkBinding_raises_iff (e : PaperContractEngine) (intent : ExecutionIntent) (proposal : PaperProposal) :
    (∃ exc, (e.checkBinding intent proposal).1 = .error exc) ↔
      intent.entry.rat? ≠ some proposal.entry ∨
        ∀ risk, finiteNumber intent.authorizedRiskAmount = some risk → risk < proposal.maximumLoss := by
  unfold checkBinding
  by_cases hentry : intent.entry.rat? ≠ some proposal.entry
  · rw [if_pos hentry]
    exact ⟨fun _ => .inl hentry, fun _ => ⟨_, rfl⟩⟩
  rw [if_neg hentry]
  cases finiteNumber intent.authorizedRiskAmount with
  | none => exact ⟨fun _ => .inr fun risk hrisk => (by cases hrisk), fun _ => ⟨_, rfl⟩⟩
  | some risk =>
    dsimp only
    by_cases hrisk : risk < proposal.maximumLoss
    · rw [if_pos hrisk]
      refine ⟨fun _ => .inr fun risk' hrisk' => ?_, fun _ => ⟨_, rfl⟩⟩
      cases hrisk'
      exact hrisk
    · rw [if_neg hrisk]
      refine ⟨?_, ?_⟩
      · rintro ⟨exc, hexc⟩
        cases hexc
      · rintro (hne | hless)
        · exact absurd hne hentry
        · exact absurd (hless risk rfl) hrisk

/-- **`authorize_and_propose`** rejects an intent without a trace, unless the intent strays. -/
theorem authorize_untouched_iff [CaseMap] (e : PaperContractEngine) (intent : ExecutionIntent)
    (context : Option ExecutionContext) (o : ClosedMarketObservation) (observedAt : Int) :
    (∀ exc, (e.authorizeAndPropose intent context o observedAt).1 = .error exc →
      Untouched e (e.authorizeAndPropose intent context o observedAt).2) ↔
    ¬∃ quantity stopLoss takeProfit, AuthorizeStrays e intent context o observedAt quantity stopLoss takeProfit := by
  constructor
  · rintro huntouched ⟨quantity, stopLoss, takeProfit, h⟩
    obtain ⟨_, -, hpassed⟩ := ExecutionPolicy.evaluate_allowed h.allowed
    have hregister := (@proposeSide_eq e intent.idempotencyKey quantity.value stopLoss takeProfit o _
      hpassed.direction).1 h.admitted
    rw [register_new h.new] at hregister
    have hrejected := h.rejected
    rw [← proposalFor_maximumLoss e intent.idempotencyKey _ _ _ takeProfit o] at hrejected
    have hentry := proposalFor_entry e intent.idempotencyKey intent.side quantity.value stopLoss takeProfit o o.close
    generalize proposalFor e intent.idempotencyKey intent.side quantity.value stopLoss takeProfit o o.close = proposal
      at hregister hrejected hentry
    rw [← hentry] at hrejected
    have hcall : e.authorizeAndPropose intent context o observedAt =
        checkBinding { e with proposals := e.proposals.set intent.idempotencyKey proposal } intent proposal := by
      unfold authorizeAndPropose
      dsimp only
      rw [h.allowed, h.closed, h.stake, h.stop, h.take]
      dsimp only
      rw [if_neg Bool.noConfusion, if_neg (not_not.2 h.symbol), if_neg Bool.noConfusion, hregister]
    rw [hcall] at huntouched
    obtain ⟨exc, hexc⟩ := (checkBinding_raises_iff _ intent _).2 hrejected
    refine @not_untouched_register e intent.idempotencyKey proposal h.new _ ?_ (huntouched exc hexc)
    rw [checkBinding_snd]
  · intro hstrays exc
    unfold authorizeAndPropose
    dsimp only
    by_cases hallowed : (ExecutionPolicy.evaluate intent context).allowed = false
    · rw [if_pos hallowed]
      exact fun _ => .refl e
    rw [if_neg hallowed]
    by_cases hsymbol : normalizeSymbol intent.symbol ≠ normalizeSymbol o.canonicalSymbol
    · rw [if_pos hsymbol]
      exact fun _ => .refl e
    rw [if_neg hsymbol]
    by_cases hclosed : o.isClosedAt observedAt = false
    · rw [if_pos hclosed]
      exact fun _ => .refl e
    rw [if_neg hclosed]
    rw [Bool.not_eq_false] at hallowed hclosed
    split
    · exact fun _ => .refl e
    · rename_i quantity stopLoss takeProfit hquantity hstop htake
      obtain ⟨_, -, hpassed⟩ := ExecutionPolicy.evaluate_allowed hallowed
      obtain ⟨hregister, hrefuse⟩ := @proposeSide_eq e intent.idempotencyKey quantity.value stopLoss takeProfit o _
        hpassed.direction
      by_cases hadmits : e.specification.Admits intent.side quantity.value stopLoss o.close takeProfit
      · rw [hregister hadmits]
        cases hknown : e.proposals.get? intent.idempotencyKey with
        | some existing =>
          obtain ⟨exc' | proposal, hsame⟩ := register_known hknown (proposalFor e intent.idempotencyKey intent.side
            quantity.value stopLoss takeProfit o o.close)
          · rw [hsame]
            exact fun _ => .refl e
          · rw [hsame]
            dsimp only
            rw [checkBinding_snd]
            exact fun _ => .refl e
        | none =>
          rw [register_new hknown]
          intro hexc
          have hrejected := (checkBinding_raises_iff _ intent _).1 ⟨exc, hexc⟩
          rw [proposalFor_entry, proposalFor_maximumLoss] at hrejected
          exact absurd ⟨quantity, stopLoss, takeProfit, hallowed, not_not.1 hsymbol, hclosed, hquantity, hstop, htake,
            hadmits, hknown, hrejected⟩ hstrays
      · obtain ⟨exc', hexc'⟩ := hrefuse hadmits
        rw [hexc']
        exact fun _ => .refl e
    · exact fun _ => .refl e

/-! ### `submit_order` -/

theorem fill_cases (g : PaperGateway) (e : PaperContractEngine) (proposal : PaperProposal) :
    (g.authorizedRiskAmount < proposal.maximumLoss ∨
        (e.positions.get? (paperContractId proposal.idempotencyKey)).isSome = true) ∧
      (∃ exc, g.fill e proposal = (.error exc, e)) ∨
    ¬(g.authorizedRiskAmount < proposal.maximumLoss ∨
        (e.positions.get? (paperContractId proposal.idempotencyKey)).isSome = true) ∧
      ∃ result, (g.fill e proposal).1 = .ok result := by
  unfold PaperGateway.fill open_
  by_cases hrisk : g.authorizedRiskAmount < proposal.maximumLoss
  · rw [if_pos hrisk]
    exact .inl ⟨.inl hrisk, _, rfl⟩
  rw [if_neg hrisk]
  dsimp only
  by_cases hopen : (e.positions.get? (paperContractId proposal.idempotencyKey)).isSome = true
  · rw [if_pos hopen]
    exact .inl ⟨.inr hopen, _, rfl⟩
  · rw [if_neg hopen]
    exact .inr ⟨not_or.2 ⟨hrisk, hopen⟩, _, rfl⟩

/-- An order that is registered and then rejected: its loss at the stop exceeds the authorized risk of the gateway, or
its contract is open already. -/
structure SubmitStrays [CaseMap] (g : PaperGateway) (order : OrderRequest) (e : PaperContractEngine)
    (takeProfit entry : ℚ) : Prop where
  symbol : normalizeSymbol order.symbol = normalizeSymbol g.observation.canonicalSymbol
  take : order.takeProfit = some takeProfit
  price : g.entryPrice = .fin entry
  admitted : e.specification.Admits (.member order.side) order.quantity.value order.stopLoss entry takeProfit
  new : e.proposals.get? (order.idempotencyKey.getD "") = none
  rejected : g.authorizedRiskAmount <
      e.specification.lossAtStop (.member order.side) order.quantity.value order.stopLoss entry ∨
    (e.positions.get? (paperContractId (order.idempotencyKey.getD ""))).isSome = true

theorem proposeOrder_cases (g : PaperGateway) (order : OrderRequest) (e : PaperContractEngine) :
    (∃ exc, g.proposeOrder order e = (.error exc, e)) ∨
      ∃ takeProfit entry, order.takeProfit = some takeProfit ∧ g.entryPrice = .fin entry ∧
        e.specification.Admits (.member order.side) order.quantity.value order.stopLoss entry takeProfit ∧
        g.proposeOrder order e = e.register (order.idempotencyKey.getD "") (proposalFor e
          (order.idempotencyKey.getD "") (.member order.side) order.quantity.value order.stopLoss takeProfit
          g.observation entry) := by
  unfold PaperGateway.proposeOrder
  cases htake : order.takeProfit with
  | none => exact .inl ⟨_, rfl⟩
  | some takeProfit =>
    dsimp only
    split
    · rename_i entry hprice
      obtain ⟨hregister, hrefuse⟩ := @propose_eq e (order.idempotencyKey.getD "") order.quantity.value order.stopLoss
        takeProfit g.observation order.side (some entry)
      by_cases hadmits : e.specification.Admits (.member order.side) order.quantity.value order.stopLoss entry takeProfit
      · exact .inr ⟨takeProfit, entry, rfl, hprice, hadmits, hregister hadmits⟩
      · exact .inl (hrefuse hadmits)
    · cases e.specification.validateStake order.quantity.value with
      | error exc => exact .inl ⟨exc, rfl⟩
      | ok _ => exact .inl ⟨_, rfl⟩

/-- **`submit_order`** rejects an order without a trace, unless the order strays. -/
theorem submit_untouched_iff [CaseMap] (g : PaperGateway) (order : OrderRequest) (e : PaperContractEngine) :
    (∀ exc, (g.submitOrder order e).1 = .error exc → Untouched e (g.submitOrder order e).2) ↔
      ¬∃ takeProfit entry, SubmitStrays g order e takeProfit entry := by
  constructor
  · rintro huntouched ⟨takeProfit, entry, h⟩
    have hregister := (@propose_eq e (order.idempotencyKey.getD "") order.quantity.value order.stopLoss takeProfit
      g.observation order.side (some entry)).1 h.admitted
    rw [register_new h.new] at hregister
    have hrejected := h.rejected
    rw [← proposalFor_maximumLoss e (order.idempotencyKey.getD "") _ _ _ takeProfit g.observation] at hrejected
    have hkey : (proposalFor e (order.idempotencyKey.getD "") (.member order.side) order.quantity.value order.stopLoss
      takeProfit g.observation entry).idempotencyKey = order.idempotencyKey.getD "" := rfl
    rw [Option.getD_some] at hregister
    generalize proposalFor e (order.idempotencyKey.getD "") (.member order.side) order.quantity.value order.stopLoss
      takeProfit g.observation entry = proposal at hregister hrejected hkey
    have hcall : g.submitOrder order e =
        g.fill { e with proposals := e.proposals.set (order.idempotencyKey.getD "") proposal } proposal := by
      rw [PaperGateway.submitOrder, if_neg (not_not.2 h.symbol)]
      unfold PaperGateway.proposeOrder
      rw [h.take, h.price]
      dsimp only
      rw [hregister]
    rw [hcall] at huntouched
    rcases fill_cases g { e with proposals := e.proposals.set (order.idempotencyKey.getD "") proposal } proposal with
      ⟨-, exc, hexc⟩ | ⟨hnot, -⟩
    · rw [hexc] at huntouched
      exact not_untouched_register h.new rfl (huntouched exc rfl)
    · rw [hkey] at hnot
      exact hnot hrejected
  · intro hstrays exc
    rw [PaperGateway.submitOrder]
    by_cases hsymbol : normalizeSymbol order.symbol ≠ normalizeSymbol g.observation.canonicalSymbol
    · rw [if_pos hsymbol]
      exact fun _ => .refl e
    rw [if_neg hsymbol]
    rcases proposeOrder_cases g order e with ⟨exc', hexc'⟩ | ⟨takeProfit, entry, htake, hprice, hadmits, hproposed⟩
    · rw [hexc']
      exact fun _ => .refl e
    rw [hproposed]
    cases hknown : e.proposals.get? (order.idempotencyKey.getD "") with
    | some existing =>
      obtain ⟨exc' | proposal, hsame⟩ := register_known hknown (proposalFor e (order.idempotencyKey.getD "")
        (.member order.side) order.quantity.value order.stopLoss takeProfit g.observation entry)
      · rw [hsame]
        exact fun _ => .refl e
      · rw [hsame]
        dsimp only
        rcases fill_cases g e proposal with ⟨-, exc', hexc'⟩ | ⟨-, result, hresult⟩
        · rw [hexc']
          exact fun _ => .refl e
        · rw [hresult]
          exact fun hexc => by cases hexc
    | none =>
      rw [register_new hknown]
      have hmax := proposalFor_maximumLoss e (order.idempotencyKey.getD "") (.member order.side) order.quantity.value
        order.stopLoss takeProfit g.observation entry
      have hkey : (proposalFor e (order.idempotencyKey.getD "") (.member order.side) order.quantity.value order.stopLoss
        takeProfit g.observation entry).idempotencyKey = order.idempotencyKey.getD "" := rfl
      generalize proposalFor e (order.idempotencyKey.getD "") (.member order.side) order.quantity.value order.stopLoss
        takeProfit g.observation entry = proposal at hmax hkey
      dsimp only
      rcases fill_cases g { e with proposals := e.proposals.set (order.idempotencyKey.getD "") proposal } proposal with
        ⟨hrejected, -⟩ | ⟨-, result, hresult⟩
      · rw [hmax, hkey] at hrejected
        exact absurd ⟨takeProfit, entry, not_not.1 hsymbol, htake, hprice, hadmits, hknown, hrejected⟩ hstrays
      · rw [hresult]
        exact fun hexc => by cases hexc

/-- **Rejected paper orders leave no trace**, exactly unless they stray: they pass what `propose` checks under a new key
and fail what comes after it. -/
theorem rejected_untouched_iff [CaseMap] (e : PaperContractEngine) (intent : ExecutionIntent)
    (context : Option ExecutionContext) (o : ClosedMarketObservation) (observedAt : Int) (g : PaperGateway)
    (order : OrderRequest) :
    ((∀ exc, (e.authorizeAndPropose intent context o observedAt).1 = .error exc →
        Untouched e (e.authorizeAndPropose intent context o observedAt).2) ↔
      ¬∃ quantity stopLoss takeProfit, AuthorizeStrays e intent context o observedAt quantity stopLoss takeProfit) ∧
    ((∀ exc, (g.submitOrder order e).1 = .error exc → Untouched e (g.submitOrder order e).2) ↔
      ¬∃ takeProfit entry, SubmitStrays g order e takeProfit entry) :=
  ⟨authorize_untouched_iff e intent context o observedAt, submit_untouched_iff g order e⟩

local instance leftoverCase : CaseMap := asciiCase

def levelQuarter : ClosedMarketObservation where
  canonicalSymbol := "EURUSD"
  timeframe := .m15
  candleOpenedAt := 0
  closedAt := 900
  open_ := 100
  high := 100
  low := 100
  close := 100
  symbol_ok := rfl
  times_ok := (by norm_num : (0 : ℤ) < 15 * 60)
  prices_ok := by norm_num
  ohlc_ok := by norm_num

def gateway20 : PaperGateway := ⟨levelQuarter, 20, .fin 100⟩

def longOrder (quantity : ℚ) (hquantity : 0 < quantity) : OrderRequest where
  symbol := "EURUSD"
  side := .buy
  quantity := ⟨quantity, .simulationUnits, hquantity⟩
  orderType := .market
  entryPrice := none
  stopLimitPrice := none
  stopLoss := 95
  takeProfit := some 110
  idempotencyKey := some "k"
  magicNumber := none
  orderComment := none
  prices_pos := ⟨by norm_num, by simp, by simp, by simp⟩
  fields_ok := rfl

/-- An order of 10 may lose 50 and is rejected with its proposal registered: the order of 4, which the venue would fill,
is then refused for the key. -/
theorem overrisk_order_registered :
    ¬(∀ (e : PaperContractEngine) (g : PaperGateway) (order : OrderRequest) (exc : PyExc),
      (g.submitOrder order e).1 = .error exc → Untouched e (g.submitOrder order e).2) ∧
    ((gateway20.submitOrder (longOrder 4 (by norm_num)) (fresh .default)).1.isOk = true ∧
      (gateway20.submitOrder (longOrder 4 (by norm_num))
        (gateway20.submitOrder (longOrder 10 (by norm_num)) (fresh .default)).2).1 =
          .error (.exception "paper idempotency context mismatch")) := by
  refine ⟨fun h => ?_, by decide +kernel, by decide +kernel⟩
  have hraises : (gateway20.submitOrder (longOrder 10 (by norm_num)) (fresh .default)).1 =
      .error (.exception "paper maximum loss exceeds authorized risk") := by decide +kernel
  have hkey := congrArg (fun d => (d.get? "k").isSome) (h _ _ _ _ hraises).proposals
  revert hkey
  decide +kernel

end Jqe
