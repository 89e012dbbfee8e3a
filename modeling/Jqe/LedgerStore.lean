import Jqe.ExecStore
/-!
# LedgerStore — `SQLitePositionLedger` (`execution/persistence.py`)

`live_paper_positions` by its primary key, and each public operation as one transaction: it validates its arguments, and
either commits or raises, rolled back.  A moment without a time zone is `none`.
-/
namespace Jqe

structure LedgerRow where
  symbol : String
  orderId : String
  openedAt : Int
  closedAt : Option Int := none
  closePrice : Option PyFloat := none
  realizedPnl : Option PyFloat := none
  currency : Option String := none
  reconciliationState : Option String := none
  side : Option OrderSide := none
  volume : Option ℚ := none
  entryPrice : Option ℚ := none
  stopLoss : Option ℚ := none
  notificationClaimedAt : Option Int := none
  remainingVolume : Option ℚ := none
  closeReason : Option String := none
  closeNotificationClaimedAt : Option Int := none
  closeUnconfirmedNotificationClaimedAt : Option Int := none
  expectedLifetimeAt : Option Int := none
  timeframe : Option String := none
  deriving DecidableEq

structure PositionLedgerEntry extends LedgerRow where
  broker : String
  positionId : String
  deriving DecidableEq

structure Ledger where
  rows : AList fun _ : String × String => LedgerRow

namespace Ledger

def empty : Ledger := ⟨∅⟩

def row (l : Ledger) (key : String × String) : Option LedgerRow := l.rows.lookup key

def setRow (l : Ledger) (key : String × String) (r : LedgerRow) : Ledger := ⟨l.rows.insert key r⟩

@[simp] theorem row_empty (key : String × String) : empty.row key = none := rfl

@[simp] theorem row_setRow (l : Ledger) (key : String × String) (r : LedgerRow) : (l.setRow key r).row key = some r :=
  AList.lookup_insert _

theorem row_setRow_of_ne (l : Ledger) {k key : String × String} (r : LedgerRow) (h : k ≠ key) :
    (l.setRow key r).row k = l.row k := AList.lookup_insert_ne h

/-- `UPDATE … WHERE` a key and a condition: whether a row changed. -/
def updateWhere (l : Ledger) (key : String × String) (where_ : LedgerRow → Bool) (set : LedgerRow → LedgerRow) :
    Bool × Ledger :=
  match l.row key with
  | some r => if where_ r then (true, l.setRow key (set r)) else (false, l)
  | none => (false, l)

def requiredTexts : List (String × String) → Except PyExc Unit
  | [] => .ok ()
  | (name, value) :: rest =>
    if blank value then .error (.exception (name ++ " must be a nonblank string")) else requiredTexts rest

/-- The moment of an argument that must be timezone-aware. -/
def aware (name : String) (moment : Option Int) : Except PyExc Int :=
  match moment with
  | some t => .ok t
  | none => .error (.exception (name ++ " must be timezone-aware"))

/-- The row that `record_open` writes: of an old one, four columns. -/
def openedRow (old : Option LedgerRow) (symbol orderId : String) (openedAt : Int) : LedgerRow :=
  match old with
  | some r => { r with symbol, orderId, openedAt, closedAt := none }
  | none => { symbol, orderId, openedAt }

def recordOpen (broker symbol positionId orderId : String) (openedAt : Option Int) (l : Ledger) :
    Except PyExc (Unit × Ledger) := do
  let openedAt ← aware "opened_at" openedAt
  requiredTexts [("broker", broker), ("symbol", symbol), ("position_id", positionId), ("order_id", orderId)]
  let key := (strip broker, strip positionId)
  return ((), l.setRow key (openedRow (l.row key) (strip symbol) (strip orderId) openedAt))

structure ConfirmedFill where
  broker : String
  symbol : String
  positionId : String
  orderId : String
  side : OrderSide
  volume : PyFloat
  entryPrice : PyFloat
  stopLoss : PyFloat
  openedAt : Option Int
  expectedLifetimeAt : Option Int
  timeframe : Option String

/-- The three numbers of a fill that passes the checks of `record_confirmed_fill_once`. -/
def fillNumbers (fill : ConfirmedFill) : Except PyExc (ℚ × ℚ × ℚ) :=
  match fill.volume, fill.entryPrice, fill.stopLoss with
  | .fin volume, .fin entry, .fin stop =>
    if ¬(0 < volume ∧ 0 < entry ∧ 0 < stop) then
      .error (.exception "fill quantity, entry, and stop must be positive and finite")
    else if fill.side = .buy ∧ ¬stop < entry then .error (.exception "BUY fill must retain a protective stop")
    else if fill.side = .sell ∧ ¬entry < stop then .error (.exception "SELL fill must retain a protective stop")
    else .ok (volume, entry, stop)
  | _, _, _ => .error (.exception "fill quantity, entry, and stop must be positive and finite")

def filledRow (fill : ConfirmedFill) (openedAt : Int) (volume entry stop : ℚ) : LedgerRow where
  symbol := strip fill.symbol
  orderId := strip fill.orderId
  openedAt
  side := some fill.side
  volume := some volume
  entryPrice := some entry
  stopLoss := some stop
  remainingVolume := some volume
  expectedLifetimeAt := fill.expectedLifetimeAt
  timeframe := fill.timeframe

def sameFill (a b : LedgerRow) : Bool :=
  a.symbol = b.symbol ∧ a.orderId = b.orderId ∧ a.side = b.side ∧ a.volume = b.volume ∧
    a.entryPrice = b.entryPrice ∧ a.stopLoss = b.stopLoss

def recordConfirmedFillOnce (fill : ConfirmedFill) (l : Ledger) : Except PyExc (Bool × Ledger) := do
  let openedAt ← aware "opened_at" fill.openedAt
  let (volume, entry, stop) ← fillNumbers fill
  requiredTexts [("broker", fill.broker), ("symbol", fill.symbol), ("position_id", fill.positionId),
    ("order_id", fill.orderId)]
  let row := filledRow fill openedAt volume entry stop
  match l.row (strip fill.broker, strip fill.positionId) with
  | none => return (true, l.setRow (strip fill.broker, strip fill.positionId) row)
  | some old =>
    if sameFill old row then return (false, l)
    else .error (.exception "Existing position ledger evidence conflicts with the confirmed fill")

def claimOpenNotificationOnce (now : Int) (broker positionId : String) (l : Ledger) : Bool × Ledger :=
  l.updateWhere (broker, positionId) (·.notificationClaimedAt.isNone) fun r => { r with notificationClaimedAt := some now }

structure CloseFacts where
  closePrice : Option PyFloat := none
  realizedPnl : Option PyFloat := none
  currency : Option String := none
  reconciliationState : Option String := none
  closeReason : Option String := none

def closedRow (closedAt : Int) (facts : CloseFacts) (r : LedgerRow) : LedgerRow :=
  { r with
    closedAt := some closedAt
    closePrice := facts.closePrice.bind Store.bindReal
    realizedPnl := facts.realizedPnl.bind Store.bindReal
    currency := facts.currency
    reconciliationState := facts.reconciliationState
    closeReason := facts.closeReason
    remainingVolume := some 0 }

def markClosed (broker positionId : String) (closedAt : Option Int) (facts : CloseFacts) (l : Ledger) :
    Except PyExc (Bool × Ledger) := do
  let closedAt ← aware "closed_at" closedAt
  requiredTexts [("broker", broker), ("position_id", positionId)]
  return l.updateWhere (strip broker, strip positionId) (·.closedAt.isNone) (closedRow closedAt facts)

def partialRow (remaining pnl : ℚ) (r : LedgerRow) : LedgerRow :=
  { r with remainingVolume := some remaining, realizedPnl := some (.fin pnl)
           reconciliationState := some "PARTIAL_CLOSE_CONFIRMED" }

def markPartialClose (broker positionId : String) (remainingVolume realizedPnl : PyFloat) (l : Ledger) :
    Except PyExc (Bool × Ledger) :=
  match remainingVolume, realizedPnl with
  | .fin remaining, .fin pnl =>
    if 0 < remaining then
      .ok (l.updateWhere (broker, positionId)
        (fun r => r.closedAt.isNone ∧ (r.remainingVolume ≠ some remaining ∨ r.realizedPnl ≠ some (.fin pnl)))
        (partialRow remaining pnl))
    else .error (.exception "Partial close requires a remaining position")
  | _, _ => .error (.exception "Partial close requires a remaining position")

def markCloseUnconfirmed (broker positionId : String) (l : Ledger) : Bool × Ledger :=
  l.updateWhere (broker, positionId)
    (fun r => r.closedAt.isNone ∧ r.reconciliationState ≠ some "CLOSE_UNCONFIRMED") fun r =>
    { r with reconciliationState := some "CLOSE_UNCONFIRMED" }

def claimCloseNotificationOnce (now : Int) (broker positionId : String) (l : Ledger) : Bool × Ledger :=
  l.updateWhere (broker, positionId) (fun r => r.closedAt.isSome ∧ r.closeNotificationClaimedAt.isNone) fun r =>
    { r with closeNotificationClaimedAt := some now }

def claimCloseUnconfirmedNotificationOnce (now : Int) (broker positionId : String) (l : Ledger) : Bool × Ledger :=
  l.updateWhere (broker, positionId)
    (fun r => r.reconciliationState = some "CLOSE_UNCONFIRMED" ∧ r.closeUnconfirmedNotificationClaimedAt.isNone) fun r =>
    { r with closeUnconfirmedNotificationClaimedAt := some now }

def openingOrder (a b : PositionLedgerEntry) : Bool :=
  a.openedAt < b.openedAt || (a.openedAt == b.openedAt && decide (a.positionId ≤ b.positionId))

def entries (l : Ledger) : List PositionLedgerEntry :=
  (l.rows.entries.map fun e => ⟨e.2, e.1.1, e.1.2⟩).mergeSort openingOrder

def openEntries (broker : String) (l : Ledger) : Except PyExc (List PositionLedgerEntry) := do
  requiredTexts [("broker", broker)]
  return l.entries.filter fun e => e.broker = strip broker ∧ e.closedAt.isNone

def pendingCloseNotifications (broker : String) (l : Ledger) : List PositionLedgerEntry :=
  l.entries.filter fun e => e.broker = broker ∧ e.closedAt.isSome ∧ e.reconciliationState = some "CLOSE_CONFIRMED" ∧
    e.closeNotificationClaimedAt.isNone

theorem updateWhere_cases (l : Ledger) (key : String × String) (where_ : LedgerRow → Bool)
    (set : LedgerRow → LedgerRow) :
    (l.updateWhere key where_ set = (false, l) ∧ ∀ r, l.row key = some r → where_ r = false) ∨
      ∃ r, l.row key = some r ∧ where_ r = true ∧ l.updateWhere key where_ set = (true, l.setRow key (set r)) := by
  unfold updateWhere
  rcases hr : l.row key with _ | r
  · exact .inl ⟨rfl, fun r h => absurd h (Option.some_ne_none r).symm⟩
  · by_cases hw : where_ r = true
    · exact .inr ⟨r, rfl, hw, if_pos hw⟩
    · exact .inl ⟨if_neg hw, fun r' hr' => Option.some.inj hr' ▸ Bool.eq_false_iff.2 hw⟩

theorem row_iff_mem {l : Ledger} {key : String × String} {r : LedgerRow} :
    l.row key = some r ↔ ⟨key, r⟩ ∈ l.rows.entries := AList.mem_lookup_iff

theorem mem_entries {l : Ledger} {e : PositionLedgerEntry} :
    e ∈ l.entries ↔ l.row (e.broker, e.positionId) = some e.toLedgerRow := by
  rw [row_iff_mem, entries, List.mem_mergeSort, List.mem_map]
  constructor
  · rintro ⟨e', he, rfl⟩
    exact he
  · intro h
    exact ⟨_, h, rfl⟩

/-! ## What the operations that check their arguments do when they commit -/

variable {l l' : Ledger}

theorem aware_ok {name : String} {moment : Option Int} {t : Int} (h : aware name moment = .ok t) : moment = some t := by
  cases moment <;> cases h
  rfl

theorem recordOpen_ok {broker symbol positionId orderId : String} {openedAt : Option Int} {a : Unit}
    (h : recordOpen broker symbol positionId orderId openedAt l = .ok (a, l')) :
    ∃ t, openedAt = some t ∧ requiredTexts [("broker", broker), ("symbol", symbol), ("position_id", positionId),
      ("order_id", orderId)] = .ok () ∧ l' = l.setRow (strip broker, strip positionId)
        (openedRow (l.row (strip broker, strip positionId)) (strip symbol) (strip orderId) t) := by
  obtain ⟨t, ht, h⟩ := bind_ok h
  obtain ⟨_, htexts, h⟩ := bind_ok h
  cases h
  exact ⟨t, aware_ok ht, htexts, rfl⟩

theorem fillNumbers_ok {fill : ConfirmedFill} {volume entry stop : ℚ}
    (h : fillNumbers fill = .ok (volume, entry, stop)) : 0 < volume := by
  unfold fillNumbers at h
  split at h
  · split at h
    · cases h
    · rename_i hpos
      rw [not_not] at hpos
      split at h
      · cases h
      · split at h
        · cases h
        · cases h
          exact hpos.1
  · cases h

theorem recordConfirmedFillOnce_ok {fill : ConfirmedFill} {a : Bool}
    (h : recordConfirmedFillOnce fill l = .ok (a, l')) :
    (a = false ∧ l' = l) ∨ (a = true ∧ l.row (strip fill.broker, strip fill.positionId) = none ∧
      ∃ t volume entry stop, 0 < volume ∧
        l' = l.setRow (strip fill.broker, strip fill.positionId) (filledRow fill t volume entry stop)) := by
  obtain ⟨t, _, h⟩ := bind_ok h
  obtain ⟨⟨volume, entry, stop⟩, hnumbers, h⟩ := bind_ok h
  obtain ⟨_, _, h⟩ := bind_ok h
  dsimp only at h
  split at h
  · rename_i hrow
    cases h
    exact .inr ⟨rfl, hrow, t, volume, entry, stop, fillNumbers_ok hnumbers, rfl⟩
  · split at h
    · cases h
      exact .inl ⟨rfl, rfl⟩
    · cases h

theorem markClosed_ok {broker positionId : String} {closedAt : Option Int} {facts : CloseFacts} {a : Bool}
    (h : markClosed broker positionId closedAt facts l = .ok (a, l')) :
    ∃ t, closedAt = some t ∧
      (a, l') = l.updateWhere (strip broker, strip positionId) (·.closedAt.isNone) (closedRow t facts) := by
  obtain ⟨t, ht, h⟩ := bind_ok h
  obtain ⟨_, _, h⟩ := bind_ok h
  exact ⟨t, aware_ok ht, (Except.ok.inj h).symm⟩

theorem markPartialClose_ok {broker positionId : String} {remainingVolume realizedPnl : PyFloat} {a : Bool}
    (h : markPartialClose broker positionId remainingVolume realizedPnl l = .ok (a, l')) :
    ∃ remaining pnl, remainingVolume = .fin remaining ∧ realizedPnl = .fin pnl ∧ 0 < remaining ∧
      (a, l') = l.updateWhere (broker, positionId)
        (fun r => r.closedAt.isNone ∧ (r.remainingVolume ≠ some remaining ∨ r.realizedPnl ≠ some (.fin pnl)))
        (partialRow remaining pnl) := by
  unfold markPartialClose at h
  split at h
  · rename_i remaining pnl
    split at h
    · rename_i hpos
      exact ⟨remaining, pnl, rfl, rfl, hpos, (Except.ok.inj h).symm⟩
    · cases h
  · cases h

end Ledger

inductive LedgerOp where
  | recordOpen (broker symbol positionId orderId : String) (openedAt : Option Int)
  | recordConfirmedFillOnce (fill : Ledger.ConfirmedFill)
  | claimOpenNotificationOnce (broker positionId : String)
  | markClosed (broker positionId : String) (closedAt : Option Int) (facts : Ledger.CloseFacts)
  | markPartialClose (broker positionId : String) (remainingVolume realizedPnl : PyFloat)
  | markCloseUnconfirmed (broker positionId : String)
  | claimCloseNotificationOnce (broker positionId : String)
  | claimCloseUnconfirmedNotificationOnce (broker positionId : String)

namespace LedgerOp

@[reducible] def Ans : LedgerOp → Type
  | recordOpen .. => Unit
  | recordConfirmedFillOnce .. | claimOpenNotificationOnce .. | markClosed .. | markPartialClose ..
  | markCloseUnconfirmed .. | claimCloseNotificationOnce .. | claimCloseUnconfirmedNotificationOnce .. => Bool

/-- The operation as a transaction at the ledger's clock. -/
def apply (now : Int) : (op : LedgerOp) → Ledger → Except PyExc (op.Ans × Ledger)
  | recordOpen broker symbol positionId orderId openedAt => Ledger.recordOpen broker symbol positionId orderId openedAt
  | recordConfirmedFillOnce fill => Ledger.recordConfirmedFillOnce fill
  | claimOpenNotificationOnce broker positionId => fun l => .ok (l.claimOpenNotificationOnce now broker positionId)
  | markClosed broker positionId closedAt facts => Ledger.markClosed broker positionId closedAt facts
  | markPartialClose broker positionId remaining pnl => Ledger.markPartialClose broker positionId remaining pnl
  | markCloseUnconfirmed broker positionId => fun l => .ok (l.markCloseUnconfirmed broker positionId)
  | claimCloseNotificationOnce broker positionId => fun l => .ok (l.claimCloseNotificationOnce now broker positionId)
  | claimCloseUnconfirmedNotificationOnce broker positionId => fun l =>
      .ok (l.claimCloseUnconfirmedNotificationOnce now broker positionId)

end LedgerOp

end Jqe
