import Jqe.ExecSystem
/-!
# RecordKept — what a stored record keeps

Every call of the store is one transaction, so that any interleaving of callers is a sequence of calls, with whatever
arguments a stale snapshot gave them.
-/
namespace Jqe

/-- **The columns of a record that its claim writes.** -/
structure IntentPayload where
  createdAt : Int
  symbol : Option String
  side : Option String
  quantityValue : Option PyFloat
  quantityUnit : Option String
  entry : Option PyFloat
  stopLoss : Option PyFloat
  takeProfit : Option PyFloat
  authorizedRiskAmount : Option PyFloat
  expectedLossAtStop : Option PyFloat
  broker : Option String
  accountId : Option String
  deriving DecidableEq

def IntentRow.payload (r : IntentRow) : IntentPayload where
  createdAt := r.createdAt
  symbol := r.symbol
  side := r.side
  quantityValue := r.quantityValue
  quantityUnit := r.quantityUnit
  entry := r.entry
  stopLoss := r.stopLoss
  takeProfit := r.takeProfit
  authorizedRiskAmount := r.authorizedRiskAmount
  expectedLossAtStop := r.expectedLossAtStop
  broker := r.broker
  accountId := r.accountId

/-- **A later row of the same key.** -/
structure RowKept (r r' : IntentRow) : Prop where
  payload : r'.payload = r.payload
  final : r.state.unresolved = false → r'.state = r.state
  pending : r'.state = .pending → r.state = .pending

namespace RowKept

theorem refl (r : IntentRow) : RowKept r r := ⟨rfl, fun _ => rfl, fun h => h⟩

theorem trans {r r' r'' : IntentRow} (h : RowKept r r') (h' : RowKept r' r'') : RowKept r r'' where
  payload := h'.payload.trans h.payload
  final hr := by
    have hr' := h.final hr
    rw [h'.final (by rw [hr', hr]), hr']
  pending hr := h.pending (h'.pending hr)

end RowKept

/-- **One call of the store by anyone**, which may be rolled back or lost to its caller. -/
def StoreStep (s s' : Store) : Prop := ∃ (op : StoreOp) (ans : Except PyExc op.Ans), StoreExec True s op ans s'

theorem StoreOp.apply_kept {now : Int} {op : StoreOp} {s s' : Store} {a : op.Ans} (h : op.apply now s = .ok (a, s'))
    {key : String} {r : IntentRow} (hr : s.row key = some r) : ∃ r', s'.row key = some r' ∧ RowKept r r' := by
  -- an insertion finds no row, so that it is of another key
  have inserted : ∀ {k : String} {row : IntentRow}, s.row k = none →
      ∃ r', (s.setRow k row).row key = some r' ∧ RowKept r r' := by
    intro k row hk
    have hne : key ≠ k := by
      rintro rfl
      rw [hr] at hk
      cases hk
    exact ⟨r, by rw [Store.row_setRow_of_ne _ _ hne, hr], .refl r⟩
  -- an update of a row leaves the others
  have updated : ∀ {k : String} {row row' : IntentRow}, s.row k = some row → RowKept row row' →
      ∃ r', (s.setRow k row').row key = some r' ∧ RowKept r r' := by
    intro k row row' hk hkept
    by_cases hkey : key = k
    · subst hkey
      rw [hr, Option.some.injEq] at hk
      exact ⟨row', Store.row_setRow _ _ _, hk ▸ hkept⟩
    · exact ⟨r, by rw [Store.row_setRow_of_ne _ _ hkey, hr], .refl r⟩
  cases op with
  | acquireReservation scope owner lease k =>
    rcases Store.acquireReservation_ok h with ⟨_, rfl⟩ | ⟨_, _, _, _, _, rfl⟩ <;> exact ⟨r, hr, .refl r⟩
  | releaseReservation scope owner =>
    rcases Store.releaseReservation_ok h with ⟨_, rfl⟩ | ⟨_, rfl, _⟩ <;> exact ⟨r, hr, .refl r⟩
  | tryClaimUnderReservation record scope owner =>
    rcases Store.tryClaimUnderReservation_ok h with ⟨_, rfl⟩ | ⟨_, hnone, _, rfl⟩
    · exact ⟨r, hr, .refl r⟩
    · exact inserted hnone
  | tryClaim record =>
    rcases Store.tryClaim_ok h with ⟨_, rfl⟩ | ⟨_, hnone, rfl⟩
    · exact ⟨r, hr, .refl r⟩
    · exact inserted hnone
  | get k =>
    obtain ⟨rfl, _⟩ := Store.get_ok h
    exact ⟨r, hr, .refl r⟩
  | transition record =>
    rcases Store.transition_ok h with ⟨_, rfl⟩ | ⟨_, row, hrow, hallowed, rfl⟩
    · exact ⟨r, hr, .refl r⟩
    · refine updated hrow ⟨rfl, fun hfinal => ?_, fun hpending => ?_⟩
      all_goals rcases (IntentRecordStatus.allowedFrom_iff _ _).1 hallowed with ⟨hu, hne⟩ | ⟨_, hsame⟩
      · rw [hu] at hfinal
        cases hfinal
      · exact hsame
      · exact absurd hpending hne
      · exact hsame ▸ hpending
  | recordRecoveryDiagnostic k outcome state reason =>
    rcases Store.recordRecoveryDiagnostic_ok h with ⟨_, rfl⟩ | ⟨_, row, hrow, rfl⟩
    · exact ⟨r, hr, .refl r⟩
    · exact updated hrow ⟨rfl, fun _ => rfl, fun hp => hp⟩

theorem RowKept.of_calls {s s' : Store} (h : Relation.ReflTransGen StoreStep s s') {key : String} {r : IntentRow}
    (hr : s.row key = some r) : ∃ r', s'.row key = some r' ∧ RowKept r r' := by
  induction h with
  | refl => exact ⟨r, hr, .refl r⟩
  | tail _ hstep ih =>
    obtain ⟨r', hr', hkept⟩ := ih
    obtain ⟨op, ans, hx⟩ := hstep
    rcases hx.cases_ok with ⟨rfl, _⟩ | ⟨now, a, happ, _⟩
    · exact ⟨r', hr', hkept⟩
    · obtain ⟨r'', hr'', hkept'⟩ := op.apply_kept happ hr'
      exact ⟨r'', hr'', hkept.trans hkept'⟩

/-- **Records are kept**: over every sequence of calls of the store, a stored record stays, with its payload; a terminal
status is final, and none becomes `PENDING` again. -/
theorem records_kept {s s' : Store} (h : Relation.ReflTransGen StoreStep s s') {key : String} {r : IntentRow}
    (hr : s.row key = some r) : ∃ r', s'.row key = some r' ∧ RowKept r r' :=
  RowKept.of_calls h hr

def keptRow : IntentRow :=
  Store.rowOf { idempotencyKey := "k1", status := .pending, symbol := some "PAINX1200" } 0 (some "mt5:1001")

def keptStore : Store := Store.empty.setRow "k1" keptRow

/-- A pending record that is rejected. -/
theorem records_kept_rejected :
    ∃ r', (keptStore.setRow "k1" { keptRow with state := .rejected, updatedAt := 5 }).row "k1" = some r' ∧
      RowKept keptRow r' := by
  have hstep : StoreStep keptStore (keptStore.setRow "k1" { keptRow with state := .rejected, updatedAt := 5 }) :=
    ⟨.transition { idempotencyKey := "k1", status := .rejected }, .ok true, .committed 5 rfl⟩
  exact records_kept (.single hstep) (Store.row_setRow _ _ _)

end Jqe
