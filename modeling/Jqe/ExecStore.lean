import Jqe.ExecModels
import Mathlib.Data.List.AList
/-!
# ExecStore — `SQLiteIntentRecordStore` (`execution/persistence.py`)

The two tables by their primary keys, and each public operation as one `BEGIN IMMEDIATE` transaction on them: it reads
its clock (`now`, in microseconds), validates its arguments, and either commits or raises, rolled back.  Rows keep what
SQLite stores: enumerations and units as their text, numbers as `REAL` (which has no NaN).
-/
namespace Jqe

open List

structure IntentRow where
  state : IntentRecordStatus
  orderId : Option String
  transactionId : Option String
  createdAt : Int
  updatedAt : Int
  symbol : Option String
  side : Option String
  quantityValue : Option PyFloat
  quantityUnit : Option String
  entry : Option PyFloat
  stopLoss : Option PyFloat
  takeProfit : Option PyFloat
  authorizedRiskAmount : Option PyFloat
  expectedLossAtStop : Option PyFloat
  broker : Option String
  accountId : Option String
  recoveryOutcome : Option String := none
  reconciliationState : Option String := none
  recoveryReason : Option String := none
  deriving DecidableEq

/-- **A row of `execution_reservations`** as `_decode_reservation` admits it. -/
structure Reservation where
  ownerId : String
  acquiredAt : Int
  expiresAt : Int
  owner_nonblank : blank ownerId = false
  lease_pos : acquiredAt < expiresAt

structure Store where
  intents : AList fun _ : String => IntentRow
  reservations : AList fun _ : String => Reservation

namespace Store

def empty : Store := ⟨∅, ∅⟩

def row (s : Store) (key : String) : Option IntentRow := s.intents.lookup key

def reservation (s : Store) (scope : String) : Option Reservation := s.reservations.lookup scope

def setRow (s : Store) (key : String) (r : IntentRow) : Store := { s with intents := s.intents.insert key r }

def setReservation (s : Store) (scope : String) (r : Reservation) : Store :=
  { s with reservations := s.reservations.insert scope r }

def dropReservation (s : Store) (scope : String) : Store := { s with reservations := s.reservations.erase scope }

@[simp] theorem row_setRow (s : Store) (key : String) (r : IntentRow) : (s.setRow key r).row key = some r :=
  AList.lookup_insert _

theorem row_setRow_of_ne (s : Store) {k key : String} (r : IntentRow) (h : k ≠ key) :
    (s.setRow key r).row k = s.row k := AList.lookup_insert_ne h

@[simp] theorem row_setReservation (s : Store) (scope : String) (r : Reservation) (k : String) :
    (s.setReservation scope r).row k = s.row k := rfl

@[simp] theorem row_dropReservation (s : Store) (scope k : String) : (s.dropReservation scope).row k = s.row k := rfl

@[simp] theorem reservation_setRow (s : Store) (key : String) (r : IntentRow) (scope : String) :
    (s.setRow key r).reservation scope = s.reservation scope := rfl

@[simp] theorem reservation_setReservation (s : Store) (scope : String) (r : Reservation) :
    (s.setReservation scope r).reservation scope = some r := AList.lookup_insert _

theorem reservation_setReservation_of_ne (s : Store) {sc scope : String} (r : Reservation) (h : sc ≠ scope) :
    (s.setReservation scope r).reservation sc = s.reservation sc := AList.lookup_insert_ne h

@[simp] theorem reservation_dropReservation (s : Store) (scope : String) :
    (s.dropReservation scope).reservation scope = none := AList.lookup_erase _ _

theorem reservation_dropReservation_of_ne (s : Store) {sc scope : String} (h : sc ≠ scope) :
    (s.dropReservation scope).reservation sc = s.reservation sc := AList.lookup_erase_ne h

/-- What binding a float to a `REAL` column stores: SQLite turns a NaN into NULL. -/
def bindReal : PyFloat → Option PyFloat
  | .nan => none
  | x => some x

def rowOf (record : IntentRecord) (now : Int) (accountId : Option String) : IntentRow where
  state := record.status
  orderId := record.orderId
  transactionId := record.transactionId
  createdAt := now
  updatedAt := now
  symbol := record.symbol
  side := record.side.map SideValue.raw
  quantityValue := record.quantity.map fun q => .fin q.value
  quantityUnit := record.quantity.map fun q => q.unit.value
  entry := record.entry.bind bindReal
  stopLoss := record.stopLoss.bind bindReal
  takeProfit := record.takeProfit.bind bindReal
  authorizedRiskAmount := record.authorizedRiskAmount.bind bindReal
  expectedLossAtStop := record.expectedLossAtStop.bind bindReal
  broker := record.broker
  accountId := accountId

def decodeQuantity (row : IntentRow) : Except PyExc (Option ExecutionQuantity) :=
  match row.quantityValue with
  | none => .ok none
  | some v =>
    match row.quantityUnit.bind ExecutionQuantityUnit.ofText? with
    | none => .error (.exception "Malformed persisted intent record")
    | some unit =>
      match ExecutionQuantity.build? v unit with
      | none => .error (.exception "Malformed persisted intent record")
      | some q => .ok (some q)

def decodeSide (row : IntentRow) : Except PyExc (Option SideValue) :=
  match row.side with
  | none => .ok none
  | some t =>
    match OrderSide.ofText? t with
    | none => .error (.exception "Malformed persisted intent record")
    | some side => .ok (some (.member side))

def decode (key : String) (row : IntentRow) : Except PyExc IntentRecord := do
  let quantity ← decodeQuantity row
  let side ← decodeSide row
  return {
    idempotencyKey := key
    status := row.state
    orderId := row.orderId
    transactionId := row.transactionId
    symbol := row.symbol
    side
    quantity
    entry := row.entry
    stopLoss := row.stopLoss
    takeProfit := row.takeProfit
    authorizedRiskAmount := row.authorizedRiskAmount
    expectedLossAtStop := row.expectedLossAtStop
    broker := row.broker
    accountId := row.accountId }

theorem decode_ok {key : String} {row : IntentRow} {record : IntentRecord} (h : decode key row = .ok record) :
    record.idempotencyKey = key ∧ record.status = row.state ∧ record.orderId = row.orderId ∧
      record.transactionId = row.transactionId := by
  unfold decode at h
  cases hq : decodeQuantity row with
  | error e => rw [hq] at h; cases h
  | ok q =>
    cases hs : decodeSide row with
    | error e => rw [hq, hs] at h; cases h
    | ok sd =>
      rw [hq, hs] at h
      cases h
      exact ⟨rfl, rfl, rfl, rfl⟩

def validateKey (key : String) : Except PyExc Unit :=
  if blank key then .error (.exception "Idempotency key must be a nonblank string") else .ok ()

def validateReservationIdentity (scope ownerId : String) : Except PyExc Unit :=
  if blank scope then .error (.exception "Reservation scope must be a nonblank string")
  else if blank ownerId then .error (.exception "Reservation owner must be a nonblank string")
  else .ok ()

/-- `_has_other_unresolved_intent`: over every row, whatever its account. -/
def hasOtherUnresolvedIntent (s : Store) (key : String) : Bool :=
  s.intents.entries.any fun e => e.1 != key && e.2.state.unresolved

theorem hasOtherUnresolvedIntent_iff (s : Store) (key : String) :
    s.hasOtherUnresolvedIntent key = true ↔ ∃ k r, s.row k = some r ∧ k ≠ key ∧ r.state.unresolved = true := by
  unfold hasOtherUnresolvedIntent
  rw [List.any_eq_true]
  constructor
  · rintro ⟨⟨k, r⟩, he, h⟩
    simp only [Bool.and_eq_true, bne_iff_ne] at h
    exact ⟨k, r, AList.mem_lookup_iff.2 he, h.1, h.2⟩
  · rintro ⟨k, r, hr, hk, hu⟩
    exact ⟨⟨k, r⟩, AList.mem_lookup_iff.1 hr, by simp [hk, hu]⟩

def acquireReservation (now : Int) (scope ownerId : String) (leaseSeconds : Int) (intentKey : String) (s : Store) :
    Except PyExc (ReservationState × Store) :=
  if blank scope then .error (.exception "Reservation scope must be a nonblank string")
  else if howner : blank ownerId then .error (.exception "Reservation owner must be a nonblank string")
  else if blank intentKey then .error (.exception "Idempotency key must be a nonblank string")
  else if hlease : leaseSeconds ≤ 0 then
    .error (.exception "Reservation lease duration must be a positive integer")
  else if (s.reservation scope).any fun current => now < current.expiresAt then .ok (.held, s)
  else if s.hasOtherUnresolvedIntent intentKey then .ok (.unresolvedIntent, s)
  else .ok (.acquired, s.setReservation scope {
    ownerId, acquiredAt := now, expiresAt := now + leaseSeconds * 1000000
    owner_nonblank := by simpa using howner, lease_pos := by omega })

/-- **`release_reservation`**: only the owner's row goes. -/
def releaseReservation (scope ownerId : String) (s : Store) : Except PyExc (Bool × Store) := do
  validateReservationIdentity scope ownerId
  if (s.reservation scope).any fun r => r.ownerId = ownerId then return (true, s.dropReservation scope)
  else return (false, s)

def orText (text : Option String) (default : String) : String :=
  match text with
  | some "" | none => default
  | some t => t

/-- **`try_claim_under_reservation`**: the primary key decides between two claims. -/
def tryClaimUnderReservation (now : Int) (record : IntentRecord) (scope ownerId : String) (s : Store) :
    Except PyExc (ClaimState × Store) := do
  validateKey record.idempotencyKey
  validateReservationIdentity scope ownerId
  match s.reservation scope with
  | none => return (.conflict, s)
  | some reservation =>
    if reservation.ownerId ≠ ownerId ∨ reservation.expiresAt ≤ now then return (.conflict, s)
    else if (s.row record.idempotencyKey).isSome then return (.alreadyExists, s)
    else return (.claimed, s.setRow record.idempotencyKey (rowOf record now (some (orText record.accountId scope))))

def tryClaim (now : Int) (record : IntentRecord) (s : Store) : Except PyExc (ClaimState × Store) := do
  validateKey record.idempotencyKey
  if (s.row record.idempotencyKey).isSome then return (.alreadyExists, s)
  else return (.claimed, s.setRow record.idempotencyKey (rowOf record now record.accountId))

def get (key : String) (s : Store) : Except PyExc (Option IntentRecord × Store) := do
  validateKey key
  match s.row key with
  | none => return (none, s)
  | some r =>
    let record ← decode key r
    return (some record, s)

def creationOrder (a b : (_ : String) × IntentRow) : Bool :=
  a.2.createdAt < b.2.createdAt || (a.2.createdAt == b.2.createdAt && decide (a.1 ≤ b.1))

def decodeAll : List ((_ : String) × IntentRow) → Except PyExc (List IntentRecord)
  | [] => .ok []
  | ⟨key, row⟩ :: rows => do
    let record ← decode key row
    let records ← decodeAll rows
    return record :: records

/-- **`list_unresolved`**: every row is decoded, a terminal one too. -/
def listUnresolved (s : Store) : Except PyExc (List IntentRecord) := do
  let records ← decodeAll (s.intents.entries.mergeSort creationOrder)
  return records.filter (·.status.unresolved)

/-- **`transition`**: the status moves along `_ALLOWED_TRANSITIONS`, and the broker's identifiers are overwritten. -/
def transition (now : Int) (record : IntentRecord) (s : Store) : Except PyExc (Bool × Store) := do
  validateKey record.idempotencyKey
  match s.row record.idempotencyKey with
  | none => return (false, s)
  | some r =>
    let current ← decode record.idempotencyKey r
    if current.status.allowedFrom record.status then
      return (true, s.setRow record.idempotencyKey
        { r with state := record.status, orderId := record.orderId, transactionId := record.transactionId
                 updatedAt := now })
    else return (false, s)

/-- **`record_recovery_diagnostic`**: no execution state changes. -/
def recordRecoveryDiagnostic (key recoveryOutcome : String) (reconciliationState : Option String)
    (recoveryReason : String) (s : Store) : Except PyExc (Bool × Store) := do
  validateKey key
  match s.row key with
  | none => return (false, s)
  | some r =>
    return (true, s.setRow key
      { r with recoveryOutcome := some recoveryOutcome, reconciliationState, recoveryReason := some recoveryReason })

/-! ## The unresolved records -/

theorem decodeAll_ok {rows : List ((_ : String) × IntentRow)} {records : List IntentRecord}
    (h : decodeAll rows = .ok records) :
    records.map (·.idempotencyKey) = rows.map Sigma.fst ∧
      (∀ e ∈ rows, ∃ record ∈ records, decode e.1 e.2 = .ok record) ∧
      ∀ record ∈ records, ∃ e ∈ rows, decode e.1 e.2 = .ok record := by
  induction rows generalizing records with
  | nil =>
    cases h
    simp
  | cons e rows ih =>
    obtain ⟨record, hd, h⟩ := bind_ok h
    obtain ⟨rest, hrest, h⟩ := bind_ok h
    cases h
    obtain ⟨hkeys, hrows, hrecords⟩ := ih hrest
    refine ⟨by simp [hkeys, (decode_ok hd).1], fun e' he' => ?_, fun record' hrecord' => ?_⟩
    · rcases mem_cons.1 he' with rfl | he'
      · exact ⟨record, mem_cons_self, hd⟩
      · obtain ⟨record', hmem, hd'⟩ := hrows e' he'
        exact ⟨record', mem_cons_of_mem _ hmem, hd'⟩
    · rcases mem_cons.1 hrecord' with rfl | hrecord'
      · exact ⟨e, mem_cons_self, hd⟩
      · obtain ⟨e', hmem, hd'⟩ := hrecords record' hrecord'
        exact ⟨e', mem_cons_of_mem _ hmem, hd'⟩

theorem decodeAll_of_forall {rows : List ((_ : String) × IntentRow)}
    (h : ∀ e ∈ rows, ∃ record, decode e.1 e.2 = .ok record) : ∃ records, decodeAll rows = .ok records := by
  induction rows with
  | nil => exact ⟨[], rfl⟩
  | cons e rows ih =>
    obtain ⟨record, hd⟩ := h e mem_cons_self
    obtain ⟨rest, hrest⟩ := ih fun e' he' => h e' (mem_cons_of_mem _ he')
    exact ⟨record :: rest, by rw [decodeAll, hd, hrest]; rfl⟩

variable {s s' : Store}

theorem mem_sorted {key : String} {row : IntentRow} :
    (⟨key, row⟩ : (_ : String) × IntentRow) ∈ s.intents.entries.mergeSort creationOrder ↔ s.row key = some row := by
  rw [mem_mergeSort]
  exact AList.mem_lookup_iff.symm

theorem listUnresolved_ok {records : List IntentRecord} (h : s.listUnresolved = .ok records) :
    (records.map (·.idempotencyKey)).Nodup ∧
      (∀ record ∈ records, ∃ row, s.row record.idempotencyKey = some row ∧
        decode record.idempotencyKey row = .ok record ∧ row.state.unresolved = true) ∧
      ∀ key row, s.row key = some row → ∃ record, decode key row = .ok record ∧
        (row.state.unresolved = true → record ∈ records) := by
  obtain ⟨all, hall, h⟩ := bind_ok h
  cases h
  obtain ⟨hkeys, hrows, hrecords⟩ := decodeAll_ok hall
  have hnodup : (all.map (·.idempotencyKey)).Nodup := by
    rw [hkeys, ((mergeSort_perm _ _).map Sigma.fst).nodup_iff]
    exact s.intents.nodupKeys
  refine ⟨hnodup.sublist (List.filter_sublist.map _), fun record hrecord => ?_, fun key row hrow => ?_⟩
  · obtain ⟨hmem, hu⟩ := mem_filter.1 hrecord
    obtain ⟨⟨key, row⟩, he, hd⟩ := hrecords record hmem
    obtain ⟨rfl, hst, _⟩ := decode_ok hd
    exact ⟨row, mem_sorted.1 he, hd, hst ▸ hu⟩
  · obtain ⟨record, hmem, hd⟩ := hrows _ (mem_sorted.2 hrow)
    exact ⟨record, hd, fun hu => mem_filter.2 ⟨hmem, by rw [(decode_ok hd).2.1, hu]⟩⟩

theorem listUnresolved_of_decode (h : ∀ key row, s.row key = some row → ∃ record, decode key row = .ok record) :
    ∃ records, s.listUnresolved = .ok records := by
  obtain ⟨all, hall⟩ := decodeAll_of_forall fun e he => h e.1 e.2 (mem_sorted.1 he)
  exact ⟨_, by rw [listUnresolved, hall]; rfl⟩

/-! ## What each operation does when it commits -/

theorem acquireReservation_ok {now lease : Int} {scope owner key : String} {a : ReservationState}
    (h : acquireReservation now scope owner lease key s = .ok (a, s')) :
    (a ≠ .acquired ∧ s' = s) ∨
      (a = .acquired ∧ s.hasOtherUnresolvedIntent key = false ∧ (∀ r, s.reservation scope = some r → r.expiresAt ≤ now) ∧
        ∃ r, r.ownerId = owner ∧ s' = s.setReservation scope r) := by
  unfold acquireReservation at h
  iterate 4
    split at h
    · cases h
  split at h
  · cases h
    exact .inl ⟨by decide, rfl⟩
  · rename_i hfree
    split at h
    · cases h
      exact .inl ⟨by decide, rfl⟩
    · rename_i hother
      cases h
      refine .inr ⟨rfl, by simpa using hother, fun r hr => ?_, _, rfl, rfl⟩
      simpa [hr] using hfree

theorem releaseReservation_ok {scope owner : String} {b : Bool} (h : releaseReservation scope owner s = .ok (b, s')) :
    (b = false ∧ s' = s) ∨
      (b = true ∧ s' = s.dropReservation scope ∧ ∃ r, s.reservation scope = some r ∧ r.ownerId = owner) := by
  obtain ⟨_, _, h⟩ := bind_ok h
  split at h
  · rename_i hown
    cases h
    obtain ⟨r, hr, ho⟩ := (Option.any_eq_true _ _).1 hown
    exact .inr ⟨rfl, rfl, r, hr, by simpa using ho⟩
  · cases h
    exact .inl ⟨rfl, rfl⟩

theorem tryClaimUnderReservation_ok {now : Int} {record : IntentRecord} {scope owner : String} {a : ClaimState}
    (h : tryClaimUnderReservation now record scope owner s = .ok (a, s')) :
    (a ≠ .claimed ∧ s' = s) ∨
      (a = .claimed ∧ s.row record.idempotencyKey = none ∧
        (∃ r, s.reservation scope = some r ∧ r.ownerId = owner ∧ now < r.expiresAt) ∧
        s' = s.setRow record.idempotencyKey (rowOf record now (some (orText record.accountId scope)))) := by
  obtain ⟨_, _, h⟩ := bind_ok h
  obtain ⟨_, _, h⟩ := bind_ok h
  split at h
  · cases h
    exact .inl ⟨by decide, rfl⟩
  · rename_i r hr
    split at h
    · cases h
      exact .inl ⟨by decide, rfl⟩
    · rename_i hown
      split at h
      · cases h
        exact .inl ⟨by decide, rfl⟩
      · rename_i hnone
        cases h
        refine .inr ⟨rfl, by simpa using hnone, ⟨r, hr, ?_, ?_⟩, rfl⟩
        · by_contra hne
          exact hown (.inl hne)
        · by_contra hlt
          exact hown (.inr (by omega))

theorem tryClaim_ok {now : Int} {record : IntentRecord} {a : ClaimState} (h : tryClaim now record s = .ok (a, s')) :
    (a ≠ .claimed ∧ s' = s) ∨
      (a = .claimed ∧ s.row record.idempotencyKey = none ∧
        s' = s.setRow record.idempotencyKey (rowOf record now record.accountId)) := by
  obtain ⟨_, _, h⟩ := bind_ok h
  split at h
  · cases h
    exact .inl ⟨by decide, rfl⟩
  · rename_i hnone
    cases h
    exact .inr ⟨rfl, by simpa using hnone, rfl⟩

theorem recordRecoveryDiagnostic_ok {key outcome reason : String} {state : Option String} {b : Bool}
    (h : recordRecoveryDiagnostic key outcome state reason s = .ok (b, s')) :
    (b = false ∧ s' = s) ∨
      (b = true ∧ ∃ r, s.row key = some r ∧ s' = s.setRow key
        { r with recoveryOutcome := some outcome, reconciliationState := state, recoveryReason := some reason }) := by
  obtain ⟨_, _, h⟩ := bind_ok h
  split at h
  · cases h
    exact .inl ⟨rfl, rfl⟩
  · rename_i r hr
    cases h
    exact .inr ⟨rfl, r, hr, rfl⟩

theorem get_ok {key : String} {a : Option IntentRecord} (h : get key s = .ok (a, s')) :
    s' = s ∧ ((a = none ∧ s.row key = none) ∨
      ∃ r record, a = some record ∧ s.row key = some r ∧ decode key r = .ok record) := by
  obtain ⟨_, _, h⟩ := bind_ok h
  split at h
  · rename_i hr
    cases h
    exact ⟨rfl, .inl ⟨rfl, hr⟩⟩
  · rename_i r hr
    obtain ⟨record, hd, h⟩ := bind_ok h
    cases h
    exact ⟨rfl, .inr ⟨r, record, rfl, hr, hd⟩⟩

theorem transition_ok {now : Int} {record : IntentRecord} {b : Bool} (h : transition now record s = .ok (b, s')) :
    (b = false ∧ s' = s) ∨
      (b = true ∧ ∃ r, s.row record.idempotencyKey = some r ∧ r.state.allowedFrom record.status = true ∧
        s' = s.setRow record.idempotencyKey
          { r with state := record.status, orderId := record.orderId, transactionId := record.transactionId
                   updatedAt := now }) := by
  obtain ⟨_, _, h⟩ := bind_ok h
  split at h
  · cases h
    exact .inl ⟨rfl, rfl⟩
  · rename_i r hr
    obtain ⟨current, hd, h⟩ := bind_ok h
    split at h
    · rename_i hallowed
      cases h
      rw [(decode_ok hd).2.1] at hallowed
      exact .inr ⟨rfl, r, hr, hallowed, rfl⟩
    · cases h
      exact .inl ⟨rfl, rfl⟩

end Store

inductive StoreOp where
  | acquireReservation (scope ownerId : String) (leaseSeconds : Int) (intentKey : String)
  | releaseReservation (scope ownerId : String)
  | tryClaimUnderReservation (record : IntentRecord) (scope ownerId : String)
  | tryClaim (record : IntentRecord)
  | get (key : String)
  | transition (record : IntentRecord)
  | recordRecoveryDiagnostic (key recoveryOutcome : String) (reconciliationState : Option String)
      (recoveryReason : String)

namespace StoreOp

@[reducible] def Ans : StoreOp → Type
  | acquireReservation .. => ReservationState
  | releaseReservation .. | transition .. | recordRecoveryDiagnostic .. => Bool
  | tryClaimUnderReservation .. | tryClaim .. => ClaimState
  | get .. => Option IntentRecord

/-- The operation as a transaction at the store's clock. -/
def apply (now : Int) : (op : StoreOp) → Store → Except PyExc (op.Ans × Store)
  | acquireReservation scope owner lease key => Store.acquireReservation now scope owner lease key
  | releaseReservation scope owner => Store.releaseReservation scope owner
  | tryClaimUnderReservation record scope owner => Store.tryClaimUnderReservation now record scope owner
  | tryClaim record => Store.tryClaim now record
  | get key => Store.get key
  | transition record => Store.transition now record
  | recordRecoveryDiagnostic key outcome state reason => Store.recordRecoveryDiagnostic key outcome state reason

end StoreOp

end Jqe
