import Jqe.RecordKept
import Jqe.PolicyMonotone
/-!
# ExecRoundTrip — what recovery reads of a claimed intent

The claim writes every column that the policy made sure of, no later call touches them, and each decodes to what was
written.
-/
namespace Jqe

/-- **The same intent to Python**, but for the two fields that a record does not keep: a side may be told by its text. -/
def ExecutionIntent.SameOrder (a b : ExecutionIntent) : Prop :=
  a.side.raw = b.side.raw ∧ { a with side := b.side, magicNumber := b.magicNumber, orderComment := b.orderComment } = b

/-- **An intent whose every column has a value**, and a finite one where it is a number. -/
structure ExecutionIntent.Complete (intent : ExecutionIntent) : Prop where
  risk : intent.riskApproved = some true
  verified : intent.quantityRiskVerified = true
  side : ∃ side, intent.side.side? = some side
  quantity : ∃ quantity, intent.quantity = some quantity
  authorized : ∃ risk, intent.authorizedRiskAmount = some (.fin risk)
  loss : ∃ loss, intent.expectedLossAtStop = some (.fin loss)
  entry : ∃ entry, intent.entry = .fin entry
  stopLoss : ∃ stopLoss, intent.stopLoss = .fin stopLoss
  takeProfit : ∃ takeProfit, intent.takeProfit = .fin takeProfit

theorem finiteNumber_some {x : Option PyFloat} {q : ℚ} (h : finiteNumber x = some q) : x = some (.fin q) := by
  obtain ⟨v, rfl, hv⟩ := Option.bind_eq_some_iff.1 h
  cases v with
  | fin p =>
    cases hv
    rfl
  | posInf => cases hv
  | negInf => cases hv
  | nan => cases hv

namespace ExecutionPolicy

theorem quantityProblem_none {intent : ExecutionIntent} {context : ExecutionContext}
    (h : quantityProblem intent context = none) :
    intent.quantityRiskVerified = true ∧ (∃ quantity, intent.quantity = some quantity) ∧
      (∃ risk, intent.authorizedRiskAmount = some (.fin risk)) ∧ ∃ loss, intent.expectedLossAtStop = some (.fin loss) := by
  unfold quantityProblem at h
  split at h
  · cases h
  rename_i hverified
  split at h
  · cases h
  rename_i quantity hquantity
  split at h
  · cases h
  split at h
  · cases h
  rename_i _ _ risk hrisk
  split at h
  · cases h
  split at h
  · cases h
  rename_i loss hloss
  exact ⟨by simpa using hverified, ⟨quantity, hquantity⟩, ⟨risk, finiteNumber_some hrisk⟩, ⟨loss, finiteNumber_some hloss⟩⟩

theorem priceProblem_none {intent : ExecutionIntent} (h : priceProblem intent = none) :
    (∃ entry, intent.entry = .fin entry) ∧ (∃ stopLoss, intent.stopLoss = .fin stopLoss) ∧
      ∃ takeProfit, intent.takeProfit = .fin takeProfit := by
  unfold priceProblem at h
  split at h
  · cases h
  rename_i hprices
  simp only [Bool.not_eq_true, Bool.not_eq_false', List.all_cons, List.all_nil, Bool.and_eq_true,
    PyFloat.isFinite_iff] at hprices
  obtain ⟨⟨hentry, -⟩, ⟨hstop, -⟩, ⟨htarget, -⟩, -⟩ := hprices
  exact ⟨hentry, hstop, htarget⟩

/-- **What the policy allows is complete.** -/
theorem complete_of_allowed [CaseMap] {intent : ExecutionIntent} {context : Option ExecutionContext}
    (h : (evaluate intent context).allowed = true) : intent.Complete ∧ blank intent.idempotencyKey = false := by
  obtain ⟨c, -, hpassed⟩ := evaluate_allowed h
  obtain ⟨hverified, hquantity, hrisk, hloss⟩ := quantityProblem_none hpassed.quantity
  obtain ⟨hentry, hstop, htarget⟩ := priceProblem_none hpassed.price
  have hkey := hpassed.valid
  unfold contextValid at hkey
  rw [Bool.and_eq_true, Bool.not_eq_true'] at hkey
  exact ⟨⟨hpassed.risk, hverified, Option.isSome_iff_exists.1 hpassed.direction, hquantity, hrisk, hloss, hentry, hstop,
    htarget⟩, hkey.2⟩

end ExecutionPolicy

theorem raw_of_side? {side : SideValue} {member : OrderSide} (h : side.side? = some member) :
    member.value = side.raw := by
  cases side with
  | member m =>
    cases h
    rfl
  | text t =>
    change OrderSide.ofText? t = some member at h
    unfold OrderSide.ofText? at h
    split at h
    · rename_i ht
      cases h
      exact ht.symm
    · split at h
      · rename_i ht
        cases h
        exact ht.symm
      · cases h

theorem decode_claimed {intent : ExecutionIntent} (hintent : intent.Complete) {status : IntentRecordStatus}
    {broker accountId : Option String} {record : IntentRecord}
    (hrecord : IntentRecord.fromExecutionIntent intent status broker accountId = .ok record) {now : ℤ}
    {account : Option String} {row : IntentRow} (hrow : row.payload = (Store.rowOf record now account).payload) :
    ∃ found back, Store.decode intent.idempotencyKey row = .ok found ∧ found.toExecutionIntent = .ok (some back) ∧
      back.SameOrder intent := by
  obtain ⟨hrisk, hverified, ⟨side, hside⟩, ⟨quantity, hquantity⟩, ⟨risk, hauthorized⟩, ⟨loss, hloss⟩, ⟨entry, hentry⟩,
    ⟨stopLoss, hstop⟩, ⟨takeProfit, htarget⟩⟩ := hintent
  unfold IntentRecord.fromExecutionIntent at hrecord
  rw [hside] at hrecord
  cases hrecord
  rw [IntentRow.payload, IntentRow.payload, IntentPayload.mk.injEq] at hrow
  obtain ⟨-, hsymbol, hrowSide, hvalue, hunit, hrowEntry, hrowStop, hrowTarget, hrowRisk, hrowLoss, -, -⟩ := hrow
  simp only [Store.rowOf, hquantity, hentry, hstop, htarget, hauthorized, hloss, Option.map_some, Option.bind_some,
    Store.bindReal, SideValue.raw] at hsymbol hrowSide hvalue hunit hrowEntry hrowStop hrowTarget hrowRisk hrowLoss
  have hdecodeQuantity : Store.decodeQuantity row = .ok (some quantity) := by
    unfold Store.decodeQuantity
    rw [hvalue, hunit]
    simp only [Option.bind_some, ExecutionQuantityUnit.ofText?_value, ExecutionQuantity.build?_self]
  have hdecodeSide : Store.decodeSide row = .ok (some (.member side)) := by
    unfold Store.decodeSide
    rw [hrowSide]
    simp only [OrderSide.ofText?_value]
  have hdecode : Store.decode intent.idempotencyKey row = .ok
      { idempotencyKey := intent.idempotencyKey
        status := row.state
        orderId := row.orderId
        transactionId := row.transactionId
        symbol := some intent.symbol
        side := some (.member side)
        quantity := some quantity
        entry := some (.fin entry)
        stopLoss := some (.fin stopLoss)
        takeProfit := some (.fin takeProfit)
        authorizedRiskAmount := some (.fin risk)
        expectedLossAtStop := some (.fin loss)
        broker := row.broker
        accountId := row.accountId } := by
    unfold Store.decode
    rw [hdecodeQuantity, hdecodeSide, hsymbol, hrowEntry, hrowStop, hrowTarget, hrowRisk, hrowLoss]
    rfl
  refine ⟨_, _, hdecode, rfl, raw_of_side? hside, ?_⟩
  cases intent
  simp only at hrisk hverified hquantity hauthorized hloss hentry hstop htarget
  subst hrisk hverified hquantity hauthorized hloss hentry hstop htarget
  rfl

/-- **A claimed intent is read back as it was**, after whatever calls of the store follow its claim. -/
theorem intent_read_back [CaseMap] (intent : ExecutionIntent) (context : Option ExecutionContext)
    (hallowed : (ExecutionPolicy.evaluate intent context).allowed = true) (status : IntentRecordStatus)
    (broker accountId : Option String) : ∃ record,
      IntentRecord.fromExecutionIntent intent status broker accountId = .ok record ∧
      ∀ now scope owner s s₁ s₂, Store.tryClaimUnderReservation now record scope owner s = .ok (.claimed, s₁) →
        Relation.ReflTransGen StoreStep s₁ s₂ → ∃ found back, s₂.get intent.idempotencyKey = .ok (some found, s₂) ∧
          found.toExecutionIntent = .ok (some back) ∧ back.SameOrder intent := by
  obtain ⟨hcomplete, hkey⟩ := ExecutionPolicy.complete_of_allowed hallowed
  obtain ⟨side, hside⟩ := hcomplete.side
  obtain ⟨record, hrecord⟩ : ∃ record, IntentRecord.fromExecutionIntent intent status broker accountId = .ok record := by
    unfold IntentRecord.fromExecutionIntent
    rw [hside]
    exact ⟨_, rfl⟩
  refine ⟨record, hrecord, fun now scope owner s s₁ s₂ hclaim hrun => ?_⟩
  rcases Store.tryClaimUnderReservation_ok hclaim with ⟨hnot, -⟩ | ⟨-, -, -, rfl⟩
  · exact absurd rfl hnot
  · obtain ⟨row, hrow, hkept⟩ := RowKept.of_calls hrun (Store.row_setRow _ _ _)
    obtain ⟨found, back, hdecode, hback, hsame⟩ := decode_claimed hcomplete hrecord hkept.payload
    refine ⟨found, back, ?_, hback, hsame⟩
    rw [(IntentRecord.fromExecutionIntent_ok hrecord).1] at hrow
    unfold Store.get Store.validateKey
    rw [hkey, hrow]
    change (Store.decode intent.idempotencyKey row >>= fun record => _) = _
    rw [hdecode]
    rfl

/-- A store in which `"owner-1"` holds the reservation of its account. -/
def reservedStore : Store :=
  Store.empty.setReservation "mt5:1001" ⟨"owner-1", 0, 60000000, by decide, by decide⟩

def claimedBuy : IntentRecord where
  idempotencyKey := "k"
  status := .pending
  symbol := some "EURUSD"
  side := some (.member .buy)
  quantity := ExecutionPolicy.approvedBuy.quantity
  entry := some (.fin 100)
  stopLoss := some (.fin 91)
  takeProfit := some (.fin 120)
  authorizedRiskAmount := some (.fin 10)
  expectedLossAtStop := some (.fin 9)

/-- A claim whose submission turns out unknown. -/
theorem intent_read_back_unknown : ∃ (s₁ s₂ : Store) (found : IntentRecord) (back : ExecutionIntent),
    IntentRecord.fromExecutionIntent ExecutionPolicy.approvedBuy .pending none none = .ok claimedBuy ∧
      Store.tryClaimUnderReservation 5 claimedBuy "mt5:1001" "owner-1" reservedStore = .ok (.claimed, s₁) ∧
      Store.transition 6 { idempotencyKey := "k", status := .unknown } s₁ = .ok (true, s₂) ∧
      s₂.get "k" = .ok (some found, s₂) ∧ found.toExecutionIntent = .ok (some back) ∧
      back.SameOrder ExecutionPolicy.approvedBuy := by
  obtain ⟨record, hrecord, hread⟩ := @intent_read_back asciiCase ExecutionPolicy.approvedBuy
    (some ExecutionPolicy.roomyContext) (by decide +kernel) .pending none none
  obtain rfl : claimedBuy = record := Except.ok.inj hrecord
  obtain ⟨s₁, hclaim⟩ : ∃ s₁, Store.tryClaimUnderReservation 5 claimedBuy "mt5:1001" "owner-1" reservedStore
      = .ok (.claimed, s₁) := ⟨_, rfl⟩
  obtain ⟨s₂, hunknown⟩ : ∃ s₂, Store.transition 6 { idempotencyKey := "k", status := .unknown } s₁ = .ok (true, s₂) := by
    cases hclaim
    exact ⟨_, rfl⟩
  obtain ⟨found, back, hget, hback, hsame⟩ := hread 5 "mt5:1001" "owner-1" reservedStore s₁ s₂ hclaim
    (.single ⟨.transition { idempotencyKey := "k", status := .unknown }, .ok true, .committed 6 hunknown⟩)
  exact ⟨s₁, s₂, found, back, hrecord, hclaim, hunknown, hget, hback, hsame⟩

end Jqe
