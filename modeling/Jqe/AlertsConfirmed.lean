import Jqe.AlertsOnce
/-!
# AlertsConfirmed — when a CLOSED alert is of a confirmed close

The claim of a CLOSED alert looks at the close of the row and not at its reconciliation state, and the attempt looks at
neither, so a row may change after a monitor has listed it (`alerts_disturbed`).
-/
namespace Jqe

open Coro Prog
open AlertRun (monitor prog wp_prog writer)

/-! ## What disturbs a row under a monitor -/

namespace LedgerOp

/-- **A call closes a row that is open and unclaimed, without confirming it.** -/
def ClosesUnconfirmed (l : Ledger) (id : String) : LedgerOp → Prop
  | markClosed broker positionId closedAt facts => closedAt ≠ none ∧ (strip broker, strip positionId) = ("weltrade", id) ∧
      facts.reconciliationState ≠ some "CLOSE_CONFIRMED" ∧
      ∃ r, l.row ("weltrade", id) = some r ∧ r.closedAt = none ∧ r.closeNotificationClaimedAt = none
  | _ => False

/-- **A call opens a row.** -/
def Opens (id : String) : LedgerOp → Prop
  | recordOpen broker _ positionId _ openedAt => openedAt ≠ none ∧ (strip broker, strip positionId) = ("weltrade", id)
  | _ => False

end LedgerOp

namespace AlertReq

def op? : AlertReq → Option LedgerOp
  | ledger op | close (.ledger op) => some op
  | _ => none

theorem op?_of_free {r : AlertReq} (h : r.free = true) : r.op? = none := by
  cases r with
  | close r => cases r <;> first | rfl | cases h
  | _ => first | rfl | cases h

theorem op?_of_raises {r : AlertReq} (h : r.raises = true) : r.op? = none := by
  cases r with
  | close r => cases r <;> first | rfl | cases h
  | _ => first | rfl | cases h

def ClaimsClosed (id : String) (r : AlertReq) : Prop :=
  ∃ op, r.op? = some op ∧ op.claim? = some (.closed, "weltrade", id)

def SendsClosed (id : String) (r : AlertReq) : Prop :=
  ∃ row, r = .close (.demoTrade row) ∧ row.positionId = id

def Lists (r : AlertReq) : Prop := r = .close .pendingCloseNotifications

end AlertReq

/-- A run that may still claim the CLOSED alert of a position, from the pending closes it has listed. -/
def MayClaim (p : AlertProg Unit) (id : String) : Prop := p.ComesTo (AlertReq.ClaimsClosed id) AlertReq.Lists

/-- A run that has claimed the CLOSED alert of a position and may still attempt it. -/
def MaySend (p : AlertProg Unit) (id : String) : Prop :=
  p.ComesTo (AlertReq.SendsClosed id) (AlertReq.ClaimsClosed id)

/-- **No monitor is disturbed**: its row is not closed unconfirmed before its claim, nor opened before its attempt. -/
def Undisturbed (c : AlertConfig) (r : AlertReq) : Prop :=
  ∀ n i p op id, c.runs n = some (i, some p) → r.op? = some op →
    (MayClaim p id → ¬op.ClosesUnconfirmed c.world.ledger id) ∧ (MaySend p id → ¬op.Opens id)

/-! ## Rows that no call disturbs -/

namespace Ledger

/-- If the CLOSED alert of a row could be claimed, its close is confirmed. -/
def ClaimReady (l : Ledger) (id : String) : Prop :=
  ∀ r, l.row ("weltrade", id) = some r → r.closedAt ≠ none → r.closeNotificationClaimedAt = none →
    r.reconciliationState = some "CLOSE_CONFIRMED"

theorem closeConfirmed_iff {l : Ledger} {id : String} : l.closeConfirmed id = true ↔
    ∃ r, l.row ("weltrade", id) = some r ∧ r.closedAt ≠ none ∧ r.reconciliationState = some "CLOSE_CONFIRMED" := by
  unfold closeConfirmed
  rw [Option.any_eq_true]
  refine exists_congr fun r => and_congr_right fun _ => ?_
  rw [Bool.and_eq_true, beq_iff_eq, Option.isSome_iff_ne_none]

end Ledger

namespace LedgerOp

variable {now : Int} {op : LedgerOp} {l l' : Ledger} {id : String}

theorem Change.claimReady {old : Option LedgerRow} {r' : LedgerRow} (hrow : l.row ("weltrade", id) = old)
    (h : op.Change ("weltrade", id) old r') (hquiet : ¬op.ClosesUnconfirmed l id) (hready : l.ClaimReady id)
    (hclosed : r'.closedAt ≠ none) (hfree : r'.closeNotificationClaimedAt = none) :
    r'.reconciliationState = some "CLOSE_CONFIRMED" := by
  generalize hkey : (("weltrade", id) : String × String) = key at h
  cases h with
  | opened broker symbol positionId orderId t old =>
    cases old <;> exact absurd rfl hclosed
  | filled fill t volume entry stop => exact absurd rfl hclosed
  | closed broker positionId t facts hopen =>
    by_contra hstate
    exact hquiet ⟨nofun, hkey.symm, hstate, _, hrow, hopen, hfree⟩
  | partly broker positionId remaining pnl hopen => exact absurd hopen hclosed
  | unconfirmed broker positionId hopen => exact absurd hopen hclosed
  | claimed kind broker positionId now hop hdue hunclaimed =>
    have hold := hready _ hrow
    cases kind with
    | opened => exact hold hclosed hfree
    | closed => cases hfree
    | closeUnconfirmed => exact hold hclosed hfree

theorem claimReady_apply {a : op.Ans} (h : op.apply now l = .ok (a, l')) (hquiet : ¬op.ClosesUnconfirmed l id)
    (hready : l.ClaimReady id) : l'.ClaimReady id := by
  rcases apply_change h with rfl | ⟨key, r', rfl, hchange⟩
  · exact hready
  · by_cases hkey : ("weltrade", id) = key
    · subst hkey
      intro r hr
      rw [Ledger.row_setRow] at hr
      cases hr
      exact hchange.claimReady rfl hquiet hready
    · unfold Ledger.ClaimReady
      rw [Ledger.row_setRow_of_ne _ _ hkey]
      exact hready

/-- **A confirmed close stays one until its row is opened.** -/
theorem closeConfirmed_apply {a : op.Ans} (h : op.apply now l = .ok (a, l')) (hquiet : ¬op.Opens id)
    (hconfirmed : l.closeConfirmed id = true) : l'.closeConfirmed id = true := by
  obtain ⟨r, hr, hclosed, hstate⟩ := Ledger.closeConfirmed_iff.1 hconfirmed
  rcases apply_change h with rfl | ⟨key, r', rfl, hchange⟩
  · exact hconfirmed
  · refine Ledger.closeConfirmed_iff.2 ?_
    by_cases hkey : ("weltrade", id) = key
    · subst hkey
      rw [hr] at hchange
      refine ⟨r', Ledger.row_setRow _ _ _, ?_⟩
      generalize hkey : (("weltrade", id) : String × String) = key at hchange
      cases hchange with
      | opened broker symbol positionId orderId t old => exact absurd ⟨nofun, hkey.symm⟩ hquiet
      | closed broker positionId t facts hopen => exact absurd hopen hclosed
      | partly broker positionId remaining pnl hopen => exact absurd hopen hclosed
      | unconfirmed broker positionId hopen => exact absurd hopen hclosed
      | claimed kind broker positionId now hop hdue hunclaimed => cases kind <;> exact ⟨hclosed, hstate⟩
    · exact ⟨r, (Ledger.row_setRow_of_ne _ _ hkey).trans hr, hclosed, hstate⟩

end LedgerOp

variable {w' : AlertWorld} {r : AlertReq} {ans : Except PyExc r.Ans}

theorem AlertExec.keeps_ledger {P : Ledger → Prop} {w : AlertWorld} (h : AlertExec w r ans w')
    (hop : ∀ op, r.op? = some op → ∀ now (a : op.Ans) l', op.apply now w.ledger = .ok (a, l') → P l') (hP : P w.ledger) :
    P w'.ledger := by
  have keeps : ∀ {op ans l'}, r.op? = some op → LedgerExec w.ledger op ans l' → P l' := by
    intro op ans l' hr hx
    cases hx with
    | committed now h => exact hop op hr now _ _ h
    | rolledBack e => exact hP
    | lost now e h => exact hop op hr now _ _ h
  cases h with
  | ledger op h => exact keeps rfl h
  | closeLedger op h => exact keeps rfl h
  | _ => exact hP

/-! ## Runs -/

/-- **What the rest of a run and the world keep to.** -/
structure AlertRest (p : AlertProg Unit) (w : AlertWorld) : Prop where
  safe : ∃ q, wp alertProtocol p q fun _ _ => True
  ready : ∀ id, MayClaim p id → w.ledger.ClaimReady id
  confirmed : ∀ id, MaySend p id → w.ledger.closeConfirmed id = true

namespace AlertPhase

variable {q : AlertPhase} {r : AlertReq} {id : String}

theorem next_pending (ans : Except PyExc r.Ans) (h : ¬r.Lists) : (q.next r ans).pending = q.pending := by
  unfold next
  split
  · rfl
  · rfl
  · rfl
  · rfl
  · exact answered_pending _ _ _
  · exact answered_pending _ _ _
  · rfl
  · exact absurd rfl h
  · exact absurd rfl h
  · rfl

theorem allows_claimsClosed (h : q.allows r) (hr : r.ClaimsClosed id) : id ∈ q.pending := by
  obtain ⟨op, hop, hclaim⟩ := hr
  unfold AlertReq.op? at hop
  split at hop
  · cases hop
    exact (h _ _ hclaim).2
  · cases hop
    exact (h _ _ hclaim).2
  · cases hop

theorem next_held (ans : Except PyExc r.Ans) (hq : q.held ≠ some (.trade .closed "weltrade" id))
    (h : ¬r.ClaimsClosed id) : (q.next r ans).held ≠ some (.trade .closed "weltrade" id) := by
  have hanswered : ∀ {op : LedgerOp} (ans : Except PyExc op.Ans), r.op? = some op →
      (q.answered op ans).held ≠ some (.trade .closed "weltrade" id) := by
    intro op ans hr
    unfold answered
    split
    · exact hq
    · intro hheld
      obtain ⟨kind, broker, id', hkey, hclaim⟩ := LedgerOp.granted_claim? hheld
      cases hkey
      exact h ⟨op, hr, hclaim⟩
  unfold next
  split
  · exact nofun
  · exact nofun
  · exact nofun
  · exact nofun
  · exact hanswered _ rfl
  · exact hanswered _ rfl
  · exact nofun
  · exact hq
  · exact hq
  · exact hq

end AlertPhase

theorem mayClaim_pending {p : AlertProg Unit} {id : String} (h : MayClaim p id) {q : AlertPhase}
    (hwp : wp alertProtocol p q fun _ _ => True) : id ∈ q.pending := by
  obtain ⟨q', r, hpending, hr, hallows⟩ := h.allowed (P := alertProtocol) (I := fun q' => q'.pending = q.pending)
    (fun q' r ans hq' _ hr => (AlertPhase.next_pending ans hr).trans hq') q hwp rfl
  exact hpending ▸ AlertPhase.allows_claimsClosed hallows hr

theorem maySend_held {p : AlertProg Unit} {id : String} (h : MaySend p id) {q : AlertPhase}
    (hwp : wp alertProtocol p q fun _ _ => True) : q.held = some (.trade .closed "weltrade" id) := by
  by_contra hheld
  obtain ⟨q', r, hnot, ⟨row, rfl, rfl⟩, hallows⟩ := h.allowed (P := alertProtocol)
    (I := fun q' => q'.held ≠ some (.trade .closed "weltrade" id))
    (fun q' r ans hq' _ hr => AlertPhase.next_held ans hq' hr) q hwp hheld
  exact hnot hallows

theorem AlertRest.undisturbed {c : AlertConfig} (hC : Undisturbed c r) (hx : AlertExec c.world r ans w') {n : ℕ}
    {i : AlertRun} {p : AlertProg Unit} (hn : c.runs n = some (i, some p)) {id : String} :
    (MayClaim p id → c.world.ledger.ClaimReady id → w'.ledger.ClaimReady id) ∧
      (MaySend p id → c.world.ledger.closeConfirmed id = true → w'.ledger.closeConfirmed id = true) := by
  constructor
  · intro hp hready
    refine hx.keeps_ledger (P := fun l => l.ClaimReady id) (fun op hop now a l' h => ?_) hready
    exact LedgerOp.claimReady_apply h ((hC n i p op id hn hop).1 hp) hready
  · intro hp hconfirmed
    refine hx.keeps_ledger (P := fun l => l.closeConfirmed id = true) (fun op hop now a l' h => ?_) hconfirmed
    exact LedgerOp.closeConfirmed_apply h ((hC n i p op id hn hop).2 hp) hconfirmed

theorem Ledger.claimReady_of_pending {l : Ledger} {id : String}
    (h : id ∈ (l.pendingCloseNotifications "weltrade").map (·.positionId)) : l.ClaimReady id := by
  obtain ⟨row, hrow, rfl⟩ := List.mem_map.1 h
  obtain ⟨hmem, hpending⟩ := List.mem_filter.1 hrow
  rw [decide_eq_true_eq] at hpending
  obtain ⟨hbroker, _, hstate, _⟩ := hpending
  intro r hr _ _
  rw [Ledger.mem_entries, hbroker, hr] at hmem
  cases hmem
  exact hstate

theorem AlertExec.granted_confirmed {w : AlertWorld} {q : AlertPhase} {id : String} (hx : AlertExec w r ans w')
    (hr : r.ClaimsClosed id) (hready : w.ledger.ClaimReady id)
    (hheld : (q.next r ans).held = some (.trade .closed "weltrade" id)) : w'.ledger.closeConfirmed id = true := by
  have granted : ∀ {op : LedgerOp} {ans : Except PyExc op.Ans} {l' : Ledger},
      op.claim? = some (.closed, "weltrade", id) → LedgerExec w.ledger op ans l' →
      (q.answered op ans).held = some (.trade .closed "weltrade" id) → l'.closeConfirmed id = true := by
    intro op ans l' hclaim hx hheld
    unfold AlertPhase.answered at hheld
    rw [hclaim, if_neg nofun] at hheld
    have hnone : ∀ e : PyExc, op.granted (.error e) = none := fun e => by cases op <;> rfl
    cases hx with
    | rolledBack e => cases (hnone e).symm.trans hheld
    | lost now e h => cases (hnone e).symm.trans hheld
    | committed now h =>
      obtain ⟨_, _, row, hrow, hdue, hfree⟩ := LedgerOp.granted_apply h hheld
      have hclosed : row.closedAt ≠ none := Option.isSome_iff_ne_none.1 hdue
      refine LedgerOp.closeConfirmed_apply h ?_
        (Ledger.closeConfirmed_iff.2 ⟨row, hrow, hclosed, hready row hrow hclosed hfree⟩)
      cases op <;> first | exact fun h => h | cases hclaim
  obtain ⟨op, hop, hclaim⟩ := hr
  cases hx with
  | ledger op' h =>
    cases hop
    exact granted hclaim h hheld
  | closeLedger op' h =>
    cases hop
    exact granted hclaim h hheld
  | free r ans hfree => cases (AlertReq.op?_of_free hfree).symm.trans hop
  | raised r e hraises => cases (AlertReq.op?_of_raises hraises).symm.trans hop
  | _ => cases hop

theorem AlertExec.premature {w : AlertWorld} (hx : AlertExec w r ans w')
    (h : ∀ id, r.SendsClosed id → w.ledger.closeConfirmed id = true) : w'.premature = w.premature := by
  cases hx with
  | demoTrade row ans => exact if_pos (h row.positionId ⟨row, rfl, rfl⟩)
  | _ => rfl

theorem AlertRest.step {c : AlertConfig} {n : ℕ} {i : AlertRun} {k : Except PyExc r.Ans → AlertProg Unit}
    (hn : c.runs n = some (i, some (.call r k))) (hC : Undisturbed c r) (hx : AlertExec c.world r ans w')
    (h : AlertRest (.call r k) c.world) : AlertRest (k ans) w' := by
  obtain ⟨q, hallows, hrest⟩ := h.safe
  have hwp : wp alertProtocol (k ans) (q.next r ans) fun _ _ => True := hrest ans
  refine ⟨⟨_, hwp⟩, fun id hmay => ?_, fun id hmay => ?_⟩
  · by_cases hlists : r.Lists
    · -- what it may claim it has just listed
      obtain rfl : r = .close .pendingCloseNotifications := hlists
      have hpending := mayClaim_pending hmay hwp
      cases hx with
      | free _ _ hfree => cases hfree
      | raised _ e _ => cases hpending
      | pending => exact Ledger.claimReady_of_pending hpending
    · have hbefore : MayClaim (.call r k) id := .there ans hlists hmay
      exact (AlertRest.undisturbed hC hx hn).1 hbefore (h.ready id hbefore)
  · by_cases hclaims : r.ClaimsClosed id
    · exact hx.granted_confirmed hclaims (h.ready id (.here hclaims)) (maySend_held hmay hwp)
    · have hbefore : MaySend (.call r k) id := .there ans hclaims hmay
      exact (AlertRest.undisturbed hC hx hn).2 hbefore (h.confirmed id hbefore)

theorem AlertRest.start [CaseMap] {i : AlertRun} (hi : alertSystem.admits i) (w : AlertWorld) : AlertRest i.prog w := by
  have hwp := wp_prog hi {}
  refine ⟨⟨{}, hwp⟩, fun id hmay => ?_, fun id hmay => ?_⟩
  · cases mayClaim_pending hmay hwp
  · cases maySend_held hmay hwp

theorem premature_nil [CaseMap] {c : AlertConfig} (h : ReachableWhile alertSystem prog Undisturbed c) :
    c.world.premature = [] := by
  refine (h.invariant (I := fun w => w.premature = []) (J := AlertRest) (fun w (hw : alertSystem.init w) => hw.2)
    (fun _ w hi => AlertRest.start hi w) ?_ ?_ (fun _ _ ht => ht.elim)).1
  · intro c n i r k ans w' hn hC hx hI hJ
    refine ⟨(hx.premature fun id hr => ?_).trans hI, hJ.step hn hC hx⟩
    exact hJ.confirmed id (.here hr)
  · intro c i r ans w' m j p hm hC hx hJ
    refine ⟨hJ.safe, fun id hmay => ?_, fun id hmay => ?_⟩
    · exact (AlertRest.undisturbed hC hx hm).1 hmay (hJ.ready id hmay)
    · exact (AlertRest.undisturbed hC hx hm).2 hmay (hJ.confirmed id hmay)

/-- **Trade alerts**: none is attempted twice and no channel event is delivered twice, in any run; and a CLOSED alert is
attempted for confirmed closes only, in every run in which no monitor is disturbed. -/
theorem alerts_confirmed [CaseMap] : (∀ c : AlertConfig, Reachable alertSystem prog c → c.world.log.Nodup) ∧
    ∀ c : AlertConfig, ReachableWhile alertSystem prog Undisturbed c → c.world.premature = [] :=
  ⟨fun _ h => alerts_once h, fun _ h => premature_nil h⟩

/-! ## Runs over one row -/

def confirmedRow : LedgerRow where
  symbol := "PAINX1200"
  orderId := "7"
  openedAt := 999000
  closedAt := some 999900
  reconciliationState := some "CLOSE_CONFIRMED"

def confirmedLedger : Ledger := Ledger.empty.setRow ("weltrade", "7001") confirmedRow

theorem confirmedLedger_entries : confirmedLedger.entries = [⟨confirmedRow, "weltrade", "7001"⟩] := List.mergeSort_singleton _

def alertAnswer (w : AlertWorld) : (r : AlertReq) → Except PyExc r.Ans × AlertWorld
  | .close .connect => (.ok true, w)
  | .close .login => (.ok "USD", w)
  | .close .positionsGet => (.ok (some []), w)
  | .close .now => (.ok 1000000, w)
  | .close .openEntries => (if w.ledger.rows.entries = confirmedLedger.rows.entries then .ok [] else .error .baseException, w)
  | .close .pendingCloseNotifications =>
    (if w.ledger.rows.entries = confirmedLedger.rows.entries then .ok [⟨confirmedRow, "weltrade", "7001"⟩] else .error .baseException, w)
  | .close .openEntriesAgain | .close (.history ..) => (.error .baseException, w)
  | .close (.ledger op) | .ledger op =>
    match op.apply 1000000 w.ledger with
    | .ok (a, l') => (.ok a, { w with ledger := l' })
    | .error e => (.error e, w)
  | .close (.tradeBlocked row) => (.ok (), w.attempt (.trade .closeUnconfirmed "weltrade" row.positionId))
  | .close (.demoTrade row) => (.ok (), w.closedAttempt row.positionId)
  | .close (.recordPostFillIntegrityHalt _) | .close .shutdown | .recordPostFillIntegrityHalt _ | .sleep => (.ok (), w)
  | .close .postFillIntegrityHalt => (.ok none, w)
  | .getPositions => (.ok [], w)
  | .getPricePoint _ => (.ok .nan, w)
  | .openedTrade id => (.ok (), w.attempt (.trade .opened "weltrade" id))
  | .claimOnce event =>
    if event ∈ w.channelClaims then (.ok false, w) else (.ok true, { w with channelClaims := event :: w.channelClaims })
  | .post event => (.ok .delivered, w.attempt (.channel event))

theorem ledger_ext {l l' : Ledger} (h : l.rows.entries = l'.rows.entries) : l = l' :=
  congrArg Ledger.mk (AList.ext h)

theorem alertAnswer_exec (i : AlertRun) (w : AlertWorld) (r : AlertReq) :
    alertSystem.exec w i r (alertAnswer w r).1 (alertAnswer w r).2 := by
  have call : ∀ op : LedgerOp, ∃ ans l', LedgerExec w.ledger op ans l' ∧
      (alertAnswer w (.ledger op)) = (ans, { w with ledger := l' }) ∧
      (alertAnswer w (.close (.ledger op))) = (ans, { w with ledger := l' }) := by
    intro op
    cases h : op.apply 1000000 w.ledger with
    | ok r =>
      refine ⟨.ok r.1, r.2, .committed 1000000 h, ?_, ?_⟩ <;> simp only [alertAnswer, h]
    | error e =>
      refine ⟨.error e, w.ledger, .rolledBack e, ?_, ?_⟩ <;> simp only [alertAnswer, h]
  cases r with
  | close r =>
    cases r with
    | openEntries =>
      dsimp only [alertAnswer]
      split
      · rename_i h
        refine .openEntries ?_
        rw [ledger_ext h]
        unfold Ledger.openEntries
        rw [confirmedLedger_entries]
        decide
      · exact .raised _ _ rfl
    | pendingCloseNotifications =>
      dsimp only [alertAnswer]
      split
      · rename_i h
        have hpending : w.ledger.pendingCloseNotifications "weltrade" = [⟨confirmedRow, "weltrade", "7001"⟩] := by
          rw [ledger_ext h]
          unfold Ledger.pendingCloseNotifications
          rw [confirmedLedger_entries]
          decide
        rw [← hpending]
        exact .pending
      · exact .raised _ _ rfl
    | openEntriesAgain => exact .raised _ _ rfl
    | ledger op =>
      obtain ⟨ans, l', hx, _, heq⟩ := call op
      rw [heq]
      exact .closeLedger op hx
    | tradeBlocked row => exact .tradeBlocked row _
    | demoTrade row => exact .demoTrade row _
    | _ => exact .free _ _ rfl
  | ledger op =>
    obtain ⟨ans, l', hx, heq, _⟩ := call op
    rw [heq]
    exact .ledger op hx
  | openedTrade id => exact .openedTrade id _
  | claimOnce event =>
    dsimp only [alertAnswer]
    split
    · rename_i h
      exact .notClaimed event h
    · rename_i h
      exact .claimed event h
  | post event => exact .posted event
  | _ => exact .free _ _ rfl

def confirmedWorld : AlertWorld := ⟨confirmedLedger, [], [], []⟩

local instance alertCase : CaseMap := asciiCase

/-- A call that may disturb a monitor. -/
def AlertReq.disturbs (r : AlertReq) : Bool :=
  match r.op? with
  | some (.markClosed ..) | some (.recordOpen ..) => true
  | _ => false

theorem undisturbed_of_not_disturbs (c : AlertConfig) (r : AlertReq) (h : (!r.disturbs) = true) : Undisturbed c r := by
  intro n i p op id _ hop
  unfold AlertReq.disturbs at h
  rw [hop] at h
  cases op <;> first | exact ⟨fun _ => fun h => h, fun _ => fun h => h⟩ | cases h

def notifiedWorld : AlertWorld := ((monitor true).prog.run alertAnswer confirmedWorld).2

theorem alerts_confirmed_monitor : notifiedWorld.log = [.trade .closed "weltrade" "7001"] ∧ notifiedWorld.log.Nodup ∧
    notifiedWorld.premature = [] := by
  have hinit : Reachable alertSystem prog (.start confirmedWorld) := .init ⟨rfl, rfl⟩
  have hrun := hinit.complete (n := 0) rfl (i := monitor true) trivial alertAnswer (alertAnswer_exec _)
  have hwhile : ReachableWhile alertSystem prog Undisturbed _ :=
    Config.run_of_checked (c := fun _ r => !r.disturbs) (fun g r _ hg hn hr =>
        hg.step (.call _ hn (undisturbed_of_not_disturbs g r hr) (alertAnswer_exec (.monitor true) g.world r)))
      (monitor true).prog
      (.step (.init (w := confirmedWorld) ⟨rfl, rfl⟩) (.spawn 0 (monitor true) rfl trivial))
      (Config.setRun_self _ 0 (monitor true) _) (by decide)
  exact ⟨by decide, alerts_confirmed.1 _ hrun, alerts_confirmed.2 _ hwhile⟩

def listedMonitor : AlertProg Unit × AlertWorld := (monitor true).prog.steps alertAnswer 6 confirmedWorld

def reopening : LedgerOp := .recordOpen "weltrade" "PAINX1200" "7001" "7" (some 999950)

def pendingClose : LedgerOp := .markClosed "weltrade" "7001" (some 1000000) { reconciliationState := some "PENDING" }

def afterWrite (op : LedgerOp) (w : AlertWorld) : AlertWorld := ((writer op).prog.run alertAnswer w).2

def disturbedWorld : AlertWorld :=
  (listedMonitor.1.run alertAnswer (afterWrite pendingClose (afterWrite reopening listedMonitor.2))).2

/-- **A CLOSED alert is attempted for a close that is not confirmed.** -/
theorem alerts_disturbed : ∃ c : AlertConfig, Reachable alertSystem prog c ∧ c.world.premature = ["7001"] := by
  have hinit : Reachable alertSystem prog (.start confirmedWorld) := .init ⟨rfl, rfl⟩
  have hlisted := Reachable.steps alertAnswer (alertAnswer_exec _) 6 _
    (hinit.step (.spawn 0 (monitor true) rfl trivial)) (Config.setRun_self _ 0 (monitor true) _)
  have hopened := hlisted.complete (n := 1) rfl (i := writer reopening) rfl alertAnswer (alertAnswer_exec _)
  have hclosed := hopened.complete (n := 2) rfl (i := writer pendingClose) rfl alertAnswer (alertAnswer_exec _)
  have hdone := Reachable.run alertAnswer (alertAnswer_exec _) _ hclosed (n := 0) rfl
  have hpremature : disturbedWorld.premature = ["7001"] := by decide
  exact ⟨_, hdone, hpremature⟩

end Jqe
