import Jqe.Alerts
/-!
# AlertsOnce — no alert is attempted twice

Every attempt follows a claim of its own run, no claim is undone, and no key is claimed twice.
-/
namespace Jqe

open Coro Prog

/-! ## What a call makes of a row -/

namespace AlertKind

def claimedAt : AlertKind → LedgerRow → Option Int
  | opened, r => r.notificationClaimedAt
  | closed, r => r.closeNotificationClaimedAt
  | closeUnconfirmed, r => r.closeUnconfirmedNotificationClaimedAt

def claim (now : Int) : AlertKind → LedgerRow → LedgerRow
  | opened, r => { r with notificationClaimedAt := some now }
  | closed, r => { r with closeNotificationClaimedAt := some now }
  | closeUnconfirmed, r => { r with closeUnconfirmedNotificationClaimedAt := some now }

def due : AlertKind → LedgerRow → Bool
  | opened, _ => true
  | closed, r => r.closedAt.isSome
  | closeUnconfirmed, r => r.reconciliationState == some "CLOSE_UNCONFIRMED"

theorem claimedAt_claim (kind : AlertKind) (now : Int) (r : LedgerRow) :
    kind.claimedAt (kind.claim now r) = some now := by
  cases kind <;> rfl

theorem claimedAt_claim_isSome (kind kind' : AlertKind) (now : Int) {r : LedgerRow}
    (h : (kind'.claimedAt r).isSome = true) : (kind'.claimedAt (kind.claim now r)).isSome = true := by
  cases kind <;> cases kind' <;> first | exact h | rfl

end AlertKind

namespace LedgerOp

def claim? : LedgerOp → Option (AlertKind × String × String)
  | claimOpenNotificationOnce broker id => some (.opened, broker, id)
  | claimCloseNotificationOnce broker id => some (.closed, broker, id)
  | claimCloseUnconfirmedNotificationOnce broker id => some (.closeUnconfirmed, broker, id)
  | _ => none

def granted : (op : LedgerOp) → Except PyExc op.Ans → Option AlertKey
  | claimOpenNotificationOnce broker id, .ok true => some (.trade .opened broker id)
  | claimCloseNotificationOnce broker id, .ok true => some (.trade .closed broker id)
  | claimCloseUnconfirmedNotificationOnce broker id, .ok true => some (.trade .closeUnconfirmed broker id)
  | _, _ => none

inductive Change : LedgerOp → String × String → Option LedgerRow → LedgerRow → Prop
  | opened (broker symbol id orderId : String) (t : Int) (old : Option LedgerRow) :
      Change (.recordOpen broker symbol id orderId (some t)) (strip broker, strip id) old
        (Ledger.openedRow old (strip symbol) (strip orderId) t)
  | filled (fill : Ledger.ConfirmedFill) (t : Int) (volume entry stop : ℚ) :
      Change (.recordConfirmedFillOnce fill) (strip fill.broker, strip fill.positionId) none
        (Ledger.filledRow fill t volume entry stop)
  | closed (broker id : String) (t : Int) (facts : Ledger.CloseFacts) {r : LedgerRow} (hopen : r.closedAt = none) :
      Change (.markClosed broker id (some t) facts) (strip broker, strip id) (some r) (Ledger.closedRow t facts r)
  | partly (broker id : String) (remaining pnl : ℚ) {r : LedgerRow} (hopen : r.closedAt = none) :
      Change (.markPartialClose broker id (.fin remaining) (.fin pnl)) (broker, id) (some r)
        (Ledger.partialRow remaining pnl r)
  | unconfirmed (broker id : String) {r : LedgerRow} (hopen : r.closedAt = none) :
      Change (.markCloseUnconfirmed broker id) (broker, id) (some r)
        { r with reconciliationState := some "CLOSE_UNCONFIRMED" }
  | claimed {op : LedgerOp} (kind : AlertKind) (broker id : String) (now : Int) {r : LedgerRow}
      (hop : op.claim? = some (kind, broker, id)) (hdue : kind.due r = true) (hfree : kind.claimedAt r = none) :
      Change op (broker, id) (some r) (kind.claim now r)

variable {now : Int} {op : LedgerOp} {l l' : Ledger}

theorem claim_cases {kind : AlertKind} {broker id : String} {changed : Bool} {where_ : LedgerRow → Bool}
    (hwhere : ∀ r, where_ r = true → kind.due r = true ∧ kind.claimedAt r = none)
    (h : (changed, l') = l.updateWhere (broker, id) where_ (kind.claim now)) :
    (changed = false ∧ l' = l) ∨ (changed = true ∧ ∃ r, l.row (broker, id) = some r ∧ kind.due r = true ∧
      kind.claimedAt r = none ∧ l' = l.setRow (broker, id) (kind.claim now r)) := by
  rcases l.updateWhere_cases (broker, id) where_ (kind.claim now) with ⟨heq, _⟩ | ⟨r, hr, hw, heq⟩
  · rw [heq] at h
    cases h
    exact .inl ⟨rfl, rfl⟩
  · rw [heq] at h
    cases h
    obtain ⟨hdue, hfree⟩ := hwhere r hw
    exact .inr ⟨rfl, r, hr, hdue, hfree, rfl⟩

theorem claim_apply {kind : AlertKind} {broker id : String} (hop : op.claim? = some (kind, broker, id)) {a : op.Ans}
    (h : op.apply now l = .ok (a, l')) :
    (op.granted (.ok a) = none ∧ l' = l) ∨ (op.granted (.ok a) = some (.trade kind broker id) ∧
      ∃ r, l.row (broker, id) = some r ∧ kind.due r = true ∧ kind.claimedAt r = none ∧
        l' = l.setRow (broker, id) (kind.claim now r)) := by
  cases op with
  | claimOpenNotificationOnce b i =>
    cases hop
    have hwhere : ∀ r : LedgerRow, r.notificationClaimedAt.isNone = true →
        AlertKind.opened.due r = true ∧ AlertKind.opened.claimedAt r = none :=
      fun r hr => ⟨rfl, Option.isNone_iff_eq_none.1 hr⟩
    rcases claim_cases hwhere (Except.ok.inj h).symm with ⟨rfl, hl⟩ | ⟨rfl, hr⟩
    · exact .inl ⟨rfl, hl⟩
    · exact .inr ⟨rfl, hr⟩
  | claimCloseNotificationOnce b i =>
    cases hop
    have hwhere : ∀ r : LedgerRow, decide (r.closedAt.isSome ∧ r.closeNotificationClaimedAt.isNone) = true →
        AlertKind.closed.due r = true ∧ AlertKind.closed.claimedAt r = none := by
      intro r hr
      obtain ⟨hclosed, hfree⟩ := of_decide_eq_true hr
      exact ⟨hclosed, Option.isNone_iff_eq_none.1 hfree⟩
    rcases claim_cases hwhere (Except.ok.inj h).symm with ⟨rfl, hl⟩ | ⟨rfl, hr⟩
    · exact .inl ⟨rfl, hl⟩
    · exact .inr ⟨rfl, hr⟩
  | claimCloseUnconfirmedNotificationOnce b i =>
    cases hop
    have hwhere : ∀ r : LedgerRow, decide (r.reconciliationState = some "CLOSE_UNCONFIRMED" ∧
        r.closeUnconfirmedNotificationClaimedAt.isNone) = true →
        AlertKind.closeUnconfirmed.due r = true ∧ AlertKind.closeUnconfirmed.claimedAt r = none := by
      intro r hr
      obtain ⟨hstate, hfree⟩ := of_decide_eq_true hr
      exact ⟨beq_iff_eq.2 hstate, Option.isNone_iff_eq_none.1 hfree⟩
    rcases claim_cases hwhere (Except.ok.inj h).symm with ⟨rfl, hl⟩ | ⟨rfl, hr⟩
    · exact .inl ⟨rfl, hl⟩
    · exact .inr ⟨rfl, hr⟩
  | _ => cases hop

theorem apply_change {a : op.Ans} (h : op.apply now l = .ok (a, l')) :
    l' = l ∨ ∃ key r', l' = l.setRow key r' ∧ op.Change key (l.row key) r' := by
  have updated : ∀ {b key where_} {set : LedgerRow → LedgerRow}, (b, l') = l.updateWhere key where_ set →
      (∀ r, where_ r = true → op.Change key (some r) (set r)) →
      l' = l ∨ ∃ key r', l' = l.setRow key r' ∧ op.Change key (l.row key) r' := by
    intro b key where_ set heq hset
    rcases l.updateWhere_cases key where_ set with ⟨hsame, _⟩ | ⟨r, hr, hw, hupdate⟩
    · rw [hsame] at heq
      cases heq
      exact .inl rfl
    · rw [hupdate] at heq
      cases heq
      refine .inr ⟨key, set r, rfl, ?_⟩
      rw [hr]
      exact hset r hw
  have claims : ∀ {kind broker id}, op.claim? = some (kind, broker, id) →
      l' = l ∨ ∃ key r', l' = l.setRow key r' ∧ op.Change key (l.row key) r' := by
    intro kind broker id hop
    rcases claim_apply hop h with ⟨_, hl⟩ | ⟨_, r, hr, hdue, hfree, hl⟩
    · exact .inl hl
    · refine .inr ⟨(broker, id), _, hl, ?_⟩
      rw [hr]
      exact .claimed kind broker id now hop hdue hfree
  cases op with
  | recordOpen broker symbol id orderId openedAt =>
    obtain ⟨t, rfl, _, rfl⟩ := Ledger.recordOpen_ok h
    exact .inr ⟨_, _, rfl, .opened broker symbol id orderId t _⟩
  | recordConfirmedFillOnce fill =>
    rcases Ledger.recordConfirmedFillOnce_ok h with ⟨_, rfl⟩ | ⟨_, hnone, t, volume, entry, stop, _, rfl⟩
    · exact .inl rfl
    · refine .inr ⟨_, _, rfl, ?_⟩
      rw [hnone]
      exact .filled fill t volume entry stop
  | markClosed broker id closedAt facts =>
    obtain ⟨t, rfl, heq⟩ := Ledger.markClosed_ok h
    exact updated heq fun r hw => .closed broker id t facts (Option.isNone_iff_eq_none.1 hw)
  | markPartialClose broker id remainingVolume realizedPnl =>
    obtain ⟨remaining, pnl, rfl, rfl, _, heq⟩ := Ledger.markPartialClose_ok h
    refine updated heq fun r hw => .partly broker id remaining pnl ?_
    exact Option.isNone_iff_eq_none.1 (of_decide_eq_true hw).1
  | markCloseUnconfirmed broker id =>
    refine updated (Except.ok.inj h).symm fun r hw => .unconfirmed broker id ?_
    exact Option.isNone_iff_eq_none.1 (of_decide_eq_true hw).1
  | claimOpenNotificationOnce broker id => exact claims rfl
  | claimCloseNotificationOnce broker id => exact claims rfl
  | claimCloseUnconfirmedNotificationOnce broker id => exact claims rfl

theorem Change.claimedAt_isSome {key : String × String} {r r' : LedgerRow} (h : op.Change key (some r) r')
    (kind : AlertKind) (hr : (kind.claimedAt r).isSome = true) : (kind.claimedAt r').isSome = true := by
  cases h with
  | claimed kind' broker id now hop hdue hfree => exact kind'.claimedAt_claim_isSome kind now hr
  | _ => cases kind <;> exact hr

theorem granted_claim? {ans : Except PyExc op.Ans} {key : AlertKey} (h : op.granted ans = some key) :
    ∃ kind broker id, key = .trade kind broker id ∧ op.claim? = some (kind, broker, id) := by
  unfold granted at h
  split at h
  · cases h
    exact ⟨_, _, _, rfl, rfl⟩
  · cases h
    exact ⟨_, _, _, rfl, rfl⟩
  · cases h
    exact ⟨_, _, _, rfl, rfl⟩
  · cases h

end LedgerOp

def Ledger.Claimed (l : Ledger) (kind : AlertKind) (broker id : String) : Prop :=
  ∃ r, l.row (broker, id) = some r ∧ (kind.claimedAt r).isSome = true

namespace LedgerOp

variable {now : Int} {op : LedgerOp} {l l' : Ledger} {kind : AlertKind} {broker id : String}

theorem claimed_apply {a : op.Ans} (h : op.apply now l = .ok (a, l')) (hc : l.Claimed kind broker id) :
    l'.Claimed kind broker id := by
  obtain ⟨r, hr, hclaimed⟩ := hc
  rcases apply_change h with rfl | ⟨key, r', rfl, hchange⟩
  · exact ⟨r, hr, hclaimed⟩
  · by_cases hkey : (broker, id) = key
    · subst hkey
      rw [hr] at hchange
      exact ⟨r', Ledger.row_setRow _ _ _, hchange.claimedAt_isSome kind hclaimed⟩
    · exact ⟨r, (Ledger.row_setRow_of_ne _ _ hkey).trans hr, hclaimed⟩

theorem granted_apply {a : op.Ans} (h : op.apply now l = .ok (a, l'))
    (hg : op.granted (.ok a) = some (.trade kind broker id)) :
    ¬l.Claimed kind broker id ∧ l'.Claimed kind broker id ∧
      ∃ r, l.row (broker, id) = some r ∧ kind.due r = true ∧ kind.claimedAt r = none := by
  obtain ⟨kind', broker', id', hkey, hop⟩ := granted_claim? hg
  cases hkey
  rcases claim_apply hop h with ⟨hnone, _⟩ | ⟨_, r, hr, hdue, hfree, rfl⟩
  · rw [hg] at hnone
    cases hnone
  · refine ⟨?_, ⟨_, Ledger.row_setRow _ _ _, ?_⟩, r, hr, hdue, hfree⟩
    · rintro ⟨r₂, hr₂, hclaimed⟩
      rw [hr] at hr₂
      cases hr₂
      rw [hfree] at hclaimed
      cases hclaimed
    · rw [AlertKind.claimedAt_claim]
      rfl

end LedgerOp

/-! ## The protocol of a run -/

/-- **Where a run is**: the alert it has claimed and not yet attempted, and the closes it has seen pending. -/
structure AlertPhase where
  held : Option AlertKey := none
  pending : List String := []

namespace AlertPhase

def take (q : AlertPhase) (key : Option AlertKey) : AlertPhase := { q with held := key }

def drop (q : AlertPhase) : AlertPhase := q.take none

/-- The answer to a claim replaces what is held; no other call touches it. -/
def answered (q : AlertPhase) (op : LedgerOp) (ans : Except PyExc op.Ans) : AlertPhase :=
  if op.claim? = none then q else q.take (op.granted ans)

/-- A claim of a close is of one that was pending. -/
def mayCall (q : AlertPhase) (op : LedgerOp) : Prop :=
  ∀ broker id, op.claim? = some (.closed, broker, id) → broker = "weltrade" ∧ id ∈ q.pending

def allows (q : AlertPhase) : AlertReq → Prop
  | .close (.tradeBlocked row) => q.held = some (.trade .closeUnconfirmed "weltrade" row.positionId)
  | .close (.demoTrade row) => q.held = some (.trade .closed "weltrade" row.positionId)
  | .openedTrade id => q.held = some (.trade .opened "weltrade" id)
  | .post event => q.held = some (.channel event)
  | .ledger op | .close (.ledger op) => q.mayCall op
  | _ => True

def next (q : AlertPhase) : (r : AlertReq) → Except PyExc r.Ans → AlertPhase
  | .close (.tradeBlocked _), _ | .close (.demoTrade _), _ | .openedTrade _, _ | .post _, .ok .delivered => q.drop
  | .ledger op, ans | .close (.ledger op), ans => q.answered op ans
  | .claimOnce event, .ok true => q.take (some (.channel event))
  | .close .pendingCloseNotifications, .ok rows => { q with pending := rows.map (·.positionId) }
  | .close .pendingCloseNotifications, .error _ => { q with pending := [] }
  | _, _ => q

theorem answered_pending (q : AlertPhase) (op : LedgerOp) (ans : Except PyExc op.Ans) :
    (q.answered op ans).pending = q.pending := by
  unfold answered
  split <;> rfl

end AlertPhase

def alertProtocol : Protocol AlertReq AlertReq.Ans PyExc AlertPhase where
  allows := AlertPhase.allows
  next := AlertPhase.next

def closeProtocol : Protocol CloseReq CloseReq.Ans PyExc AlertPhase where
  allows q r := q.allows (.close r)
  next q r ans := q.next (.close r) ans

def AlertsSafely {α : Type} (p : CloseProg α) : Prop := ∀ q, wp closeProtocol p q fun _ _ => True

namespace CloseMonitor

section Compose

variable {α β : Type}

theorem safely_pure (a : α) : AlertsSafely (pure a : CloseProg α) := fun _ => trivial

theorem safely_fail (message : String) : AlertsSafely (fail message : CloseProg α) := fun _ => trivial

theorem safely_ask {r : CloseReq} (h : ∀ q : AlertPhase, q.allows (.close r)) : AlertsSafely (ask r) :=
  fun q => (wp_perform r q _).2 ⟨h q, fun _ => trivial⟩

theorem safely_bindAny {p : CloseProg α} {f : Except PyExc α → CloseProg β} (hp : AlertsSafely p)
    (hf : ∀ out, AlertsSafely (f out)) : AlertsSafely (p.bindAny f) :=
  fun q => (wp_bindAny p q).2 (wp_mono (fun out q' _ => hf out q') p q (hp q))

theorem safely_bind {p : CloseProg α} {f : α → CloseProg β} (hp : AlertsSafely p) (hf : ∀ a, AlertsSafely (f a)) :
    AlertsSafely (p >>= f) := by
  refine safely_bindAny hp fun out => ?_
  cases out with
  | ok a => exact hf a
  | error e => exact fun _ => trivial

theorem safely_tryExcept {p handler : CloseProg α} (hp : AlertsSafely p) (hh : AlertsSafely handler) :
    AlertsSafely (tryExcept p handler) := by
  refine safely_bindAny hp fun out => ?_
  cases out with
  | ok a => exact fun _ => trivial
  | error e =>
    dsimp only
    split
    · exact hh
    · exact fun _ => trivial

theorem safely_finallyDo {p : CloseProg α} {c : CloseProg β} (hp : AlertsSafely p) (hc : AlertsSafely c) :
    AlertsSafely (p.finallyDo c) := by
  refine safely_bindAny hp fun out => safely_bindAny hc fun out' => ?_
  cases out' with
  | ok _ => exact fun q => (wp_ofExcept out q _).2 trivial
  | error e => exact fun _ => trivial

end Compose

theorem safely_halt {α : Type} (reason : String) : AlertsSafely (halt reason : CloseProg α) :=
  safely_bind (safely_ask fun _ => trivial) fun _ => safely_fail _

theorem safely_alertUnconfirmed (row : PositionLedgerEntry) : AlertsSafely (alertUnconfirmed row) := by
  intro q
  refine (wp_bind _ _ _ _).2 ((wp_perform _ _ _).2 ⟨fun _ _ h => (by cases h), fun ans => ?_⟩)
  cases ans with
  | error e => exact trivial
  | ok claimed =>
    cases claimed with
    | false => exact trivial
    | true =>
      refine (wp_tryCatch _ _ _ _).2 ((wp_perform _ _ _).2 ⟨rfl, fun ans => ?_⟩)
      cases ans with
      | ok _ => exact trivial
      | error e =>
        dsimp only
        split <;> exact trivial

theorem safely_unconfirmed (notify : Bool) (row : PositionLedgerEntry) : AlertsSafely (unconfirmed notify row) := by
  refine safely_bind (safely_tryExcept (safely_bind (safely_ask fun _ => ?_) fun _ => ?_) (safely_halt _))
    fun _ => safely_halt _
  · intro _ _ h
    cases h
  · split
    · exact safely_alertUnconfirmed row
    · exact safely_pure ()

theorem wp_claimedClose {row : PositionLedgerEntry} {q : AlertPhase} (h : row.positionId ∈ q.pending) :
    wp closeProtocol (sendPendingClose row) q fun _ q' => q'.pending = q.pending := by
  refine (wp_bind _ _ _ _).2 ((wp_perform _ _ _).2 ⟨?_, fun ans => ?_⟩)
  · intro broker id hop
    cases hop
    exact ⟨rfl, h⟩
  · cases ans with
    | error e => exact AlertPhase.answered_pending _ _ _
    | ok claimed =>
      cases claimed with
      | false => exact AlertPhase.answered_pending _ _ _
      | true =>
        refine (wp_tryCatch _ _ _ _).2 ((wp_perform _ _ _).2 ⟨rfl, fun ans => ?_⟩)
        cases ans with
        | ok _ => exact rfl
        | error e =>
          dsimp only
          split <;> exact rfl

theorem wp_claimedEach : ∀ {rows : List PositionLedgerEntry} {q : AlertPhase},
    (∀ row ∈ rows, row.positionId ∈ q.pending) → wp closeProtocol (sendPendingEach rows) q fun _ _ => True
  | [], _, _ => trivial
  | row :: rows, q, h => by
    rw [List.forall_mem_cons] at h
    refine (wp_bind _ _ _ _).2 (wp_mono (fun out q' hq' => ?_) _ _ (wp_claimedClose h.1))
    cases out with
    | error e => exact trivial
    | ok _ =>
      refine wp_claimedEach fun row' hrow' => ?_
      rw [hq']
      exact h.2 row' hrow'

theorem safely_sendPendingCloses : AlertsSafely sendPendingCloses := by
  intro q
  refine (wp_bind _ _ _ _).2 ((wp_perform _ _ _).2 ⟨trivial, fun ans => ?_⟩)
  cases ans with
  | error e => exact trivial
  | ok rows =>
    refine wp_claimedEach fun row hrow => ?_
    exact List.mem_map_of_mem hrow

theorem safely_settle (row : PositionLedgerEntry) (observed : Option ℚ) (currency : String) (f : CloseFinding)
    (exitPrice : ℚ) : AlertsSafely (settle row observed currency f exitPrice) := by
  unfold settle
  cases observed with
  | none =>
    refine safely_bind (safely_ask fun _ _ _ h => by cases h) fun changed => ?_
    split
    · exact safely_fail _
    · exact safely_pure ()
  | some remaining =>
    refine safely_bind (safely_ask fun _ _ _ h => by cases h) fun changed => ?_
    split
    · exact safely_pure ()
    · refine safely_bind (safely_ask fun _ => trivial) fun rows => ?_
      split
      · exact safely_pure ()
      · exact safely_fail _

variable [CaseMap]

theorem safely_closeRow (notify : Bool) (positions : List Mt5Position) (now : Int) (currency : String)
    (row : PositionLedgerEntry) : AlertsSafely (closeRow notify positions now currency row) := by
  unfold closeRow
  split
  · exact safely_unconfirmed notify row
  · dsimp only
    split
    · exact safely_pure ()
    · refine safely_bind (safely_ask fun _ => trivial) fun history => ?_
      split
      · exact safely_unconfirmed notify row
      · split
        · exact safely_fail _
        · exact safely_tryExcept (safely_settle _ _ _ _ _) (safely_halt _)

theorem safely_closeRows (notify : Bool) (positions : List Mt5Position) (now : Int) (currency : String) :
    ∀ rows : List PositionLedgerEntry, AlertsSafely (closeRows notify positions now currency rows)
  | [] => safely_pure ()
  | row :: rows => safely_bind (safely_closeRow notify positions now currency row) fun _ =>
      safely_closeRows notify positions now currency rows

omit [CaseMap] in
theorem safely_finishPass (notify : Bool) : AlertsSafely (finishPass notify) := by
  refine safely_bind (safely_tryExcept ?_ (safely_halt _)) fun _ => ?_
  · split
    · exact safely_sendPendingCloses
    · exact safely_pure ()
  · refine safely_bind (safely_ask fun _ => trivial) fun halted => ?_
    split
    · exact safely_fail _
    · exact safely_pure ()

theorem safely_reconcilePass (notify : Bool) (currency : String) : AlertsSafely (reconcilePass notify currency) := by
  refine safely_bind (safely_ask fun _ => trivial) fun positions => ?_
  cases positions with
  | none => exact safely_halt _
  | some positions =>
    refine safely_bind (safely_ask fun _ => trivial) fun now => ?_
    refine safely_bind (safely_ask fun _ => trivial) fun rows => ?_
    exact safely_bind (safely_closeRows _ _ _ _ _) fun _ => safely_finishPass notify

theorem safely_monitor (notify : Bool) : AlertsSafely (monitorWeltradeCloses notify) := by
  refine safely_bind (safely_ask fun _ => trivial) fun connected => safely_finallyDo ?_ ?_
  · split
    · exact safely_bind (safely_ask fun _ => trivial) fun currency => safely_reconcilePass notify currency
    · exact safely_fail _
  · split
    · exact safely_ask fun _ => trivial
    · exact safely_pure ()

end CloseMonitor

namespace Alerts

variable {α : Type}

theorem wp_tryExcept {p handler : AlertProg α} {q : AlertPhase} {post : Except PyExc α → AlertPhase → Prop}
    (hp : wp alertProtocol p q fun
      | .ok a, q' => post (.ok a) q'
      | .error e, q' => wp alertProtocol handler q' post ∧ post (.error e) q') :
    wp alertProtocol (tryExcept p handler) q post := by
  refine (wp_tryCatch p _ q post).2 (wp_mono (fun out q' h => ?_) p q hp)
  cases out with
  | ok a => exact h
  | error e =>
    dsimp only
    split
    · exact h.1
    · exact h.2

def HoldsOpened (out : Except PyExc (Option String)) (q : AlertPhase) : Prop :=
  ∀ id, out = .ok (some id) → q.held = some (.trade .opened "weltrade" id)

theorem holdsOpened_none (q : AlertPhase) : HoldsOpened (.ok none) q := fun _ h => by cases h

theorem holdsOpened_error (e : PyExc) (q : AlertPhase) : HoldsOpened (.error e) q := fun _ h => by cases h

theorem wp_recordFill (f : FillObservation) (terms : FillTerms) (p : Position) (openedAt : Int) (stopLoss : ℚ)
    (q : AlertPhase) : wp alertProtocol (recordFill f terms p openedAt stopLoss) q fun out q' =>
      out = .ok true → q'.held = some (.trade .opened "weltrade" p.positionId) := by
  refine (wp_bind _ _ _ _).2 ((wp_perform _ _ _).2 ⟨fun _ _ h => (by cases h), fun ans => ?_⟩)
  cases ans with
  | error e => exact fun h => by cases h
  | ok _ =>
    refine (wp_perform _ _ _).2 ⟨fun _ _ h => (by cases h), fun ans hans => ?_⟩
    subst hans
    exact rfl

variable [CaseMap]

theorem wp_verifyFill (f : FillObservation) (terms : FillTerms) (q : AlertPhase) :
    wp alertProtocol (verifyFill f terms) q HoldsOpened := by
  refine (wp_bind _ _ _ _).2 ((wp_perform _ _ _).2 ⟨trivial, fun positions => ?_⟩)
  cases positions with
  | error e => exact holdsOpened_error e _
  | ok positions =>
    refine (wp_bind _ _ _ _).2 ((wp_ofExcept _ _ _).2 ?_)
    cases f.matching positions with
    | error e => exact holdsOpened_error e _
    | ok matching =>
      dsimp only
      split
      · split
        · exact holdsOpened_none _
        · exact holdsOpened_error _ _
      · rename_i p
        split
        · exact holdsOpened_error _ _
        · split
          · rename_i openedAt stopLoss _ _
            refine (wp_bind _ _ _ _).2 ((wp_perform _ _ _).2 ⟨trivial, fun point => ?_⟩)
            cases point with
            | error e => exact holdsOpened_error e _
            | ok point =>
              dsimp only
              split
              · exact holdsOpened_error _ _
              · refine (wp_bind _ _ _ _).2 (wp_mono (fun out q' hout => ?_) _ _
                  (wp_recordFill f terms p openedAt stopLoss _))
                cases out with
                | error e => exact holdsOpened_error e _
                | ok sendOnce =>
                  cases sendOnce with
                  | false => exact holdsOpened_none _
                  | true =>
                    intro id hid
                    cases hid
                    exact hout rfl
          · exact holdsOpened_error _ _
      · exact holdsOpened_error _ _

omit [CaseMap] in
theorem wp_unverified (q : AlertPhase) : wp alertProtocol (do
    tryExcept (ask (.recordPostFillIntegrityHalt "CONFIRMED_FILL_LEDGER_UNVERIFIED")) (pure ())
    fail "Weltrade post-fill ledger unverified; supervisor must stop") q HoldsOpened := by
  refine (wp_bind _ _ _ _).2 (wp_tryExcept ((wp_perform _ _ _).2 ⟨trivial, fun ans => ?_⟩))
  cases ans with
  | ok _ => exact holdsOpened_error _ _
  | error e => exact ⟨holdsOpened_error _ _, holdsOpened_error _ _⟩

theorem wp_observeFill (f : FillObservation) (terms : FillTerms) (q : AlertPhase) :
    wp alertProtocol (observeFill f terms) q fun _ _ => True := by
  have hverify : wp alertProtocol (tryExcept (verifyFill f terms) (do
      tryExcept (ask (.recordPostFillIntegrityHalt "CONFIRMED_FILL_LEDGER_UNVERIFIED")) (pure ())
      fail "Weltrade post-fill ledger unverified; supervisor must stop")) q HoldsOpened := by
    refine wp_tryExcept (wp_mono (fun out q' h => ?_) _ _ (wp_verifyFill f terms q))
    cases out with
    | ok claimed => exact h
    | error e => exact ⟨wp_unverified q', holdsOpened_error e q'⟩
  refine (wp_bind _ _ _ _).2 (wp_mono (fun out q' h => ?_) _ _ hverify)
  cases out with
  | error e => exact trivial
  | ok claimed =>
    cases claimed with
    | none => exact trivial
    | some id =>
      refine wp_tryExcept ((wp_perform _ _ _).2 ⟨h id rfl, fun ans => ?_⟩)
      cases ans with
      | ok _ => exact trivial
      | error e => exact ⟨trivial, trivial⟩

omit [CaseMap] in
theorem wp_postFrom (event : ChannelEvent) : ∀ (n : ℕ) (q : AlertPhase), q.held = some (.channel event) →
    wp alertProtocol (postFrom event n) q fun _ _ => True
  | 0, _, _ => trivial
  | n + 1, q, h => by
    refine (wp_bind _ _ _ _).2 (wp_tryExcept ((wp_perform _ _ _).2 ⟨h, fun ans => ?_⟩))
    cases ans with
    | error e => exact ⟨trivial, trivial⟩
    | ok reply =>
      cases reply with
      | delivered | failed => exact trivial
      | rateLimited =>
        dsimp only
        split
        · exact trivial
        · refine (wp_bind _ _ _ _).2 ((wp_perform _ _ _).2 ⟨trivial, fun ans => ?_⟩)
          cases ans with
          | error e => exact trivial
          | ok _ => exact wp_postFrom event n _ h

omit [CaseMap] in
theorem wp_deliver (event : ChannelEvent) (q : AlertPhase) :
    wp alertProtocol (deliver event) q fun _ _ => True := by
  refine wp_tryExcept ((wp_bind _ _ _ _).2 ((wp_perform _ _ _).2 ⟨trivial, fun ans => ?_⟩))
  cases ans with
  | error e => exact ⟨trivial, trivial⟩
  | ok claimed =>
    cases claimed with
    | false => exact trivial
    | true =>
      refine (wp_bind _ _ _ _).2 (wp_mono (fun out q' _ => ?_) _ _ (wp_postFrom event 3 _ rfl))
      cases out with
      | error e => exact ⟨trivial, trivial⟩
      | ok _ =>
        refine (wp_perform _ _ _).2 ⟨trivial, fun ans => ?_⟩
        cases ans with
        | ok _ => exact trivial
        | error e => exact ⟨trivial, trivial⟩

end Alerts

theorem LedgerOp.claim?_of_not_claims {op : LedgerOp} (h : op.claims = false) : op.claim? = none := by
  cases op <;> first | rfl | cases h

theorem AlertRun.wp_prog [CaseMap] {i : AlertRun} (hi : alertSystem.admits i) (q : AlertPhase) :
    wp alertProtocol i.prog q fun _ _ => True := by
  cases i with
  | monitor notify =>
    refine wp_mono (fun _ _ _ => trivial) _ _ (wp_interpret (R := Eq) (fun r q q' hq hr => ?_) _ _ _ rfl
      (CloseMonitor.safely_monitor notify q))
    subst hq
    exact (wp_perform _ _ _).2 ⟨hr, fun _ => rfl⟩
  | cycle f terms => exact Alerts.wp_observeFill f terms q
  | writer op =>
    refine (wp_bind _ _ _ _).2 ((wp_perform _ _ _).2 ⟨fun broker id hop => ?_, fun ans => ?_⟩)
    · rw [LedgerOp.claim?_of_not_claims hi] at hop
      cases hop
    · cases ans <;> exact trivial
  | delivery event => exact Alerts.wp_deliver event q

/-! ## Claims as permits -/

def AlertWorld.Claimed (w : AlertWorld) : AlertKey → Prop
  | .trade kind broker id => w.ledger.Claimed kind broker id
  | .channel event => event ∈ w.channelClaims

def alertPermits : Permits AlertWorld AlertPhase AlertKey where
  held := (·.held)
  granted := AlertWorld.Claimed
  log := (·.log)

theorem ledgerExec_effect {op : LedgerOp} {ans : Except PyExc op.Ans} {w : AlertWorld} {l' : Ledger} {q : AlertPhase}
    (h : LedgerExec w.ledger op ans l') :
    alertPermits.Effect w { w with ledger := l' } q (q.answered op ans) := by
  have kept : op.granted ans = none → alertPermits.Effect w { w with ledger := l' } q (q.answered op ans) := by
    intro hnone
    refine .kept rfl fun key hk => ?_
    unfold AlertPhase.answered at hk
    split at hk
    · exact hk
    · rw [hnone] at hk
      cases hk
  cases h with
  | rolledBack e => exact kept (by cases op <;> rfl)
  | lost now e h => exact kept (by cases op <;> rfl)
  | committed now h =>
    cases hg : op.granted (.ok _) with
    | none => exact kept hg
    | some key =>
      obtain ⟨kind, broker, id, rfl, hop⟩ := LedgerOp.granted_claim? hg
      obtain ⟨hfresh, hnow, _⟩ := LedgerOp.granted_apply h hg
      refine .granted (.trade kind broker id) rfl hfresh hnow ?_
      change (q.answered op _).held = _
      unfold AlertPhase.answered
      rw [hop, if_neg nofun]
      exact hg

theorem ledgerExec_claimed {op : LedgerOp} {ans : Except PyExc op.Ans} {l l' : Ledger} (h : LedgerExec l op ans l')
    {kind : AlertKind} {broker id : String} (hc : l.Claimed kind broker id) : l'.Claimed kind broker id := by
  cases h with
  | committed now h => exact LedgerOp.claimed_apply h hc
  | rolledBack e => exact hc
  | lost now e h => exact LedgerOp.claimed_apply h hc

theorem AlertExec.claimed_mono {w w' : AlertWorld} {r : AlertReq} {ans : Except PyExc r.Ans} (h : AlertExec w r ans w')
    {key : AlertKey} (hkey : w.Claimed key) : w'.Claimed key := by
  cases h with
  | ledger op h | closeLedger op h =>
    cases key with
    | trade kind broker id => exact ledgerExec_claimed h hkey
    | channel event => exact hkey
  | claimed event hnot | claimLost event e hnot =>
    cases key with
    | trade kind broker id => exact hkey
    | channel event' => exact List.mem_cons_of_mem _ hkey
  | _ => exact hkey

theorem AlertExec.effect {w w' : AlertWorld} {r : AlertReq} {ans : Except PyExc r.Ans} (h : AlertExec w r ans w')
    {q : AlertPhase} (hallows : q.allows r) : alertPermits.Effect w w' q (q.next r ans) := by
  cases h with
  | free r ans hr =>
    have hsame : q.next r ans = q := by
      cases r with
      | close r => cases r <;> first | rfl | cases hr
      | _ => first | rfl | cases hr
    rw [hsame]
    exact .kept rfl fun _ hk => hk
  | raised r e hr =>
    have hsame : (q.next r (.error e)).held = q.held := by
      cases r with
      | close r => cases r <;> first | rfl | cases hr
      | _ => first | rfl | cases hr
    exact .kept rfl fun _ hk => hsame.symm.trans hk
  | ledger op h | closeLedger op h => exact ledgerExec_effect h
  | pending => exact .kept rfl fun _ hk => hk
  | openEntries h | openEntriesAgain h => exact .kept rfl fun _ hk => hk
  | tradeBlocked row ans | demoTrade row ans | openedTrade id ans => exact .spent _ hallows rfl rfl
  | claimed event hnot => exact .granted (.channel event) rfl hnot List.mem_cons_self rfl
  | claimLost event e hnot => exact .kept rfl fun _ hk => hk
  | notClaimed event hmem => exact .kept rfl fun _ hk => hk
  | posted event => exact .spent (.channel event) hallows rfl rfl
  | notPosted event reply hreply =>
    cases reply with
    | delivered => exact absurd rfl hreply
    | rateLimited | failed => exact .kept rfl fun _ hk => hk

theorem alertPermits_respected : alertPermits.Respected alertSystem (fun _ => alertProtocol) {} where
  init _ h := h.1
  idle := rfl
  call ha hx := AlertExec.effect hx ha
  mono hx _ hk := AlertExec.claimed_mono hx hk
  tick h := h.elim

theorem alerts_once [CaseMap] {c : AlertConfig} (h : Reachable alertSystem AlertRun.prog c) : c.world.log.Nodup :=
  Reachable.world_invariant (I := fun w => w.log.Nodup) (fun _ _ _ => True) (fun _ hi => AlertRun.wp_prog hi {})
    (fun _ hg => (Permits.reached alertPermits_respected hg).once) h

end Jqe
