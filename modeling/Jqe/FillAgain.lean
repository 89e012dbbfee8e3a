import Jqe.AlertsOnce
import Jqe.CloseSound
/-!
# FillAgain — a confirmed fill is observed once more

After its fill is in the ledger an order is observed again without the broker's answer, as `run` does for a record that
is there already.  The close monitor may have passed over the ledger in between; no pass of it writes the columns that a
repeated fill is compared in (`MonitorPass.fillsKept`).
-/
namespace Jqe

open Coro Prog

/-! ## The columns of a fill -/

namespace Ledger

theorem sameFill_iff {a b : LedgerRow} : sameFill a b = true ↔ a.symbol = b.symbol ∧ a.orderId = b.orderId ∧
    a.side = b.side ∧ a.volume = b.volume ∧ a.entryPrice = b.entryPrice ∧ a.stopLoss = b.stopLoss :=
  decide_eq_true_iff

theorem sameFill_refl (r : LedgerRow) : sameFill r r = true := sameFill_iff.2 ⟨rfl, rfl, rfl, rfl, rfl, rfl⟩

theorem sameFill_trans {a b c : LedgerRow} (hab : sameFill a b = true) (hbc : sameFill b c = true) :
    sameFill a c = true := by
  rw [sameFill_iff] at hab hbc ⊢
  obtain ⟨h₁, h₂, h₃, h₄, h₅, h₆⟩ := hab
  rw [h₁, h₂, h₃, h₄, h₅, h₆]
  exact hbc

/-- **No row has lost or changed its fill.** -/
def FillsKept (l l' : Ledger) : Prop :=
  ∀ key r, l.row key = some r → ∃ r', l'.row key = some r' ∧ sameFill r' r = true

theorem FillsKept.refl (l : Ledger) : l.FillsKept l := fun _ r hr => ⟨r, hr, sameFill_refl r⟩

theorem FillsKept.trans {l l' l'' : Ledger} (h : l.FillsKept l') (h' : l'.FillsKept l'') : l.FillsKept l'' := by
  intro key r hr
  obtain ⟨r', hr', hsame⟩ := h key r hr
  obtain ⟨r'', hr'', hsame'⟩ := h' key r' hr'
  exact ⟨r'', hr'', sameFill_trans hsame' hsame⟩

end Ledger

namespace LedgerOp

/-- The call that replaces the columns of a row. -/
def reopens : LedgerOp → Bool
  | recordOpen .. => true
  | _ => false

theorem Change.sameFill {op : LedgerOp} {key : String × String} {r r' : LedgerRow} (h : op.Change key (some r) r')
    (hop : op.reopens = false) : Ledger.sameFill r' r = true := by
  cases h with
  | opened => cases hop
  | closed | partly | unconfirmed => exact Ledger.sameFill_refl r
  | claimed kind =>
    cases kind <;> exact Ledger.sameFill_refl r

theorem fillsKept {op : LedgerOp} (hop : op.reopens = false) {now : Int} {l l' : Ledger} {a : op.Ans}
    (h : op.apply now l = .ok (a, l')) : l.FillsKept l' := by
  rcases apply_change h with rfl | ⟨key, r', rfl, hchange⟩
  · exact .refl _
  · intro k r hr
    by_cases hk : k = key
    · subst hk
      rw [hr] at hchange
      exact ⟨r', Ledger.row_setRow _ _ _, hchange.sameFill hop⟩
    · exact ⟨r, (Ledger.row_setRow_of_ne _ _ hk).trans hr, Ledger.sameFill_refl r⟩

end LedgerOp

/-! ## The passes of the monitor -/

def CloseReq.KeepsFills : CloseReq → Prop
  | .ledger op => op.reopens = false
  | _ => True

namespace CloseMonitor

section Makes

variable {α : Type}

theorem makes_tryExcept {C : CloseReq → Prop} {p handler : CloseProg α} (hp : p.Makes C) (hh : handler.Makes C) :
    (tryExcept p handler).Makes C := by
  refine makes_tryCatch hp fun e => ?_
  split
  · exact hh
  · exact trivial

theorem makes_halt (reason : String) : (halt reason : CloseProg α).Makes CloseReq.KeepsFills :=
  makes_bind (makes_perform trivial) fun _ => trivial

theorem makes_alertUnconfirmed (row : PositionLedgerEntry) : (alertUnconfirmed row).Makes CloseReq.KeepsFills := by
  refine makes_bind (makes_perform rfl) fun claimed => ?_
  split
  · exact makes_tryExcept (makes_perform trivial) (makes_pure ())
  · exact makes_pure ()

theorem makes_unconfirmed (notify : Bool) (row : PositionLedgerEntry) :
    (unconfirmed notify row).Makes CloseReq.KeepsFills := by
  refine makes_bind (makes_tryExcept (makes_bind (makes_perform rfl) fun _ => ?_) (makes_halt _)) fun _ => makes_halt _
  split
  · exact makes_alertUnconfirmed row
  · exact makes_pure ()

theorem makes_sendPendingEach : ∀ rows : List PositionLedgerEntry, (sendPendingEach rows).Makes CloseReq.KeepsFills
  | [] => makes_pure ()
  | row :: rows => by
    refine makes_bind (makes_bind (makes_perform rfl) fun claimed => ?_) fun _ => makes_sendPendingEach rows
    split
    · exact makes_tryExcept (makes_perform trivial) (makes_pure ())
    · exact makes_pure ()

theorem makes_settle (row : PositionLedgerEntry) (observed : Option ℚ) (currency : String) (f : CloseFinding)
    (exitPrice : ℚ) : (settle row observed currency f exitPrice).Makes CloseReq.KeepsFills := by
  unfold settle
  cases observed with
  | none =>
    refine makes_bind (makes_perform rfl) fun changed => ?_
    split
    · exact trivial
    · exact makes_pure ()
  | some remaining =>
    refine makes_bind (makes_perform rfl) fun changed => ?_
    split
    · exact makes_pure ()
    · refine makes_bind (makes_perform trivial) fun rows => ?_
      split
      · exact makes_pure ()
      · exact trivial

theorem makes_finishPass (notify : Bool) : (finishPass notify).Makes CloseReq.KeepsFills := by
  refine makes_bind (makes_tryExcept ?_ (makes_halt _)) fun _ => makes_bind (makes_perform trivial) fun halted => ?_
  · split
    · exact makes_bind (makes_perform trivial) fun rows => makes_sendPendingEach rows
    · exact makes_pure ()
  · split
    · exact trivial
    · exact makes_pure ()

end Makes

variable [CaseMap]

theorem makes_closeRow (notify : Bool) (positions : List Mt5Position) (now : Int) (currency : String)
    (row : PositionLedgerEntry) : (closeRow notify positions now currency row).Makes CloseReq.KeepsFills := by
  unfold closeRow
  split
  · exact makes_unconfirmed notify row
  · dsimp only
    split
    · exact makes_pure ()
    · refine makes_bind (makes_perform trivial) fun history => ?_
      split
      · exact makes_unconfirmed notify row
      · split
        · exact trivial
        · exact makes_tryExcept (makes_settle _ _ _ _ _) (makes_halt _)

theorem makes_closeRows (notify : Bool) (positions : List Mt5Position) (now : Int) (currency : String) :
    ∀ rows : List PositionLedgerEntry, (closeRows notify positions now currency rows).Makes CloseReq.KeepsFills
  | [] => makes_pure ()
  | row :: rows => makes_bind (makes_closeRow notify positions now currency row) fun _ =>
      makes_closeRows notify positions now currency rows

theorem makes_monitor (notify : Bool) : (monitorWeltradeCloses notify).Makes CloseReq.KeepsFills := by
  refine makes_bind (makes_perform trivial) fun connected => makes_bindAny ?_ fun out => makes_bindAny ?_ fun out' => ?_
  · split
    · refine makes_bind (makes_perform trivial) fun currency => makes_bind (makes_perform trivial) fun positions => ?_
      cases positions with
      | none => exact makes_halt _
      | some positions =>
        refine makes_bind (makes_perform trivial) fun now => makes_bind (makes_perform trivial) fun rows => ?_
        exact makes_bind (makes_closeRows _ _ _ _ _) fun _ => makes_finishPass notify
    · exact trivial
  · split
    · exact makes_perform trivial
    · exact makes_pure ()
  · cases out' with
    | ok _ => exact makes_ofExcept out
    | error e => exact trivial

end CloseMonitor

theorem CloseExec.fillsKept {sc : CloseScene} {w w' : CloseWorld} {r : CloseReq} {ans : Except PyExc r.Ans}
    (hr : r.KeepsFills) (h : CloseExec sc w r ans w') : w.ledger.FillsKept w'.ledger := by
  cases h with
  | ledgerOk op h =>
    cases h with
    | committed now h => exact LedgerOp.fillsKept hr h
  | ledgerRaised op h =>
    cases h with
    | rolledBack e => exact .refl _
    | lost now e h => exact LedgerOp.fillsKept hr h
  | _ => exact .refl _

/-- **A pass of the close monitor over a ledger**, against any scene, whatever it ends with. -/
def MonitorPass [CaseMap] (l l' : Ledger) : Prop :=
  ∃ sc notify w w' out, w.ledger = l ∧ w'.ledger = l' ∧ Ends (CloseExec sc) (monitorWeltradeCloses notify) w out w'

theorem MonitorPass.fillsKept [CaseMap] {l l' : Ledger} (h : MonitorPass l l') : l.FillsKept l' := by
  obtain ⟨sc, notify, w, w', out, rfl, rfl, h⟩ := h
  exact Ends.keeps_makes (I := fun v => w.ledger.FillsKept v.ledger)
    (fun _ _ _ _ hr hkept hx => hkept.trans (hx.fillsKept hr)) h (CloseMonitor.makes_monitor notify) (.refl _)

theorem MonitorPass.fillsKept_run [CaseMap] {l l' : Ledger} (h : Relation.ReflTransGen MonitorPass l l') :
    l.FillsKept l' := by
  induction h with
  | refl => exact .refl _
  | tail _ hpass ih => exact ih.trans hpass.fillsKept

/-! ## What the ledger makes of a fill -/

namespace Ledger

variable {fill : ConfirmedFill} {l l' : Ledger}

theorem fillNumbers_error {e : PyExc} (h : fillNumbers fill = .error e) : e.isException = true := by
  unfold fillNumbers at h
  split at h
  · split at h
    · cases h
      rfl
    · split at h
      · cases h
        rfl
      · split at h
        · cases h
          rfl
        · cases h
  · cases h
    rfl

theorem requiredTexts_error {e : PyExc} : ∀ {texts : List (String × String)}, requiredTexts texts = .error e →
    e.isException = true
  | [], h => by cases h
  | (name, value) :: rest, h => by
    unfold requiredTexts at h
    split at h
    · cases h
      rfl
    · exact requiredTexts_error h

theorem recordConfirmedFillOnce_error {e : PyExc} (h : recordConfirmedFillOnce fill l = .error e) :
    e.isException = true := by
  rcases except_bind_error h with h | ⟨t, _, h⟩
  · cases ht : fill.openedAt with
    | none =>
      rw [ht] at h
      cases h
      rfl
    | some t =>
      rw [ht] at h
      cases h
  · rcases except_bind_error h with h | ⟨numbers, _, h⟩
    · exact fillNumbers_error h
    · rcases except_bind_error h with h | ⟨_, _, h⟩
      · exact requiredTexts_error h
      · dsimp only at h
        split at h
        · cases h
        · split at h
          · cases h
          · cases h
            rfl

theorem fillNumbers_fin {volume entry stop : ℚ} (h : fillNumbers fill = .ok (volume, entry, stop)) :
    fill.volume = .fin volume ∧ fill.entryPrice = .fin entry ∧ fill.stopLoss = .fin stop := by
  unfold fillNumbers at h
  split at h
  · rename_i hvolume hentry hstop
    split at h
    · cases h
    · split at h
      · cases h
      · split at h
        · cases h
        · cases h
          exact ⟨hvolume, hentry, hstop⟩
  · cases h

theorem recordConfirmedFillOnce_row {fresh : Bool} (h : recordConfirmedFillOnce fill l = .ok (fresh, l')) :
    ∃ t volume entry stop r, aware "opened_at" fill.openedAt = .ok t ∧ fillNumbers fill = .ok (volume, entry, stop) ∧
      requiredTexts [("broker", fill.broker), ("symbol", fill.symbol), ("position_id", fill.positionId),
        ("order_id", fill.orderId)] = .ok () ∧
      l'.row (strip fill.broker, strip fill.positionId) = some r ∧
      sameFill r (filledRow fill t volume entry stop) = true := by
  obtain ⟨t, ht, h⟩ := bind_ok h
  obtain ⟨⟨volume, entry, stop⟩, hnumbers, h⟩ := bind_ok h
  obtain ⟨_, htexts, h⟩ := bind_ok h
  dsimp only at h
  split at h
  · cases h
    exact ⟨t, volume, entry, stop, _, ht, hnumbers, htexts, row_setRow _ _ _, sameFill_refl _⟩
  · rename_i old hold
    split at h
    · rename_i hsame
      cases h
      exact ⟨t, volume, entry, stop, old, ht, hnumbers, htexts, hold, hsame⟩
    · cases h

theorem recordConfirmedFillOnce_same {t : Int} {volume entry stop : ℚ} {r : LedgerRow} {lifetime : Option Int}
    {timeframe : Option String} (ht : aware "opened_at" fill.openedAt = .ok t)
    (hnumbers : fillNumbers fill = .ok (volume, entry, stop))
    (htexts : requiredTexts [("broker", fill.broker), ("symbol", fill.symbol), ("position_id", fill.positionId),
      ("order_id", fill.orderId)] = .ok ())
    (hrow : l.row (strip fill.broker, strip fill.positionId) = some r)
    (hsame : sameFill r (filledRow fill t volume entry stop) = true) :
    recordConfirmedFillOnce { fill with expectedLifetimeAt := lifetime, timeframe } l = .ok (false, l) := by
  have hnumbers' : fillNumbers { fill with expectedLifetimeAt := lifetime, timeframe } = .ok (volume, entry, stop) :=
    hnumbers
  unfold recordConfirmedFillOnce
  simp only [Bind.bind, Except.bind, ht, hnumbers', htexts, hrow]
  exact if_pos hsame

end Ledger

/-! ## One observation -/

structure FillWorld where
  ledger : Ledger
  halts : List String

/-- **What a request of an observation may do**, while the reads answer `positions` and `point` and the ledger's database
does not fail. -/
inductive FillExec (positions : List PositionItem) (point : String → PyFloat) (w : FillWorld) :
    (r : AlertReq) → Except PyExc r.Ans → FillWorld → Prop
  | positions : FillExec positions point w .getPositions (.ok positions) w
  | point (symbol : String) : FillExec positions point w (.getPricePoint symbol) (.ok (point symbol)) w
  | committed (op : LedgerOp) (now : Int) {a : op.Ans} {l' : Ledger} (h : op.apply now w.ledger = .ok (a, l')) :
      FillExec positions point w (.ledger op) (.ok a) { w with ledger := l' }
  | refused (op : LedgerOp) (now : Int) {e : PyExc} (h : op.apply now w.ledger = .error e) :
      FillExec positions point w (.ledger op) (.error e) w
  | halted (reason : String) :
      FillExec positions point w (.recordPostFillIntegrityHalt reason) (.ok ()) { w with halts := reason :: w.halts }
  | haltLost (reason : String) (e : PyExc) : FillExec positions point w (.recordPostFillIntegrityHalt reason) (.error e) w
  | opened (positionId : String) (ans : Except PyExc Unit) (h : ∀ e, ans = .error e → e.isException = true) :
      FillExec positions point w (.openedTrade positionId) ans w

namespace FillObservation

variable [CaseMap]

/-- **The order observed again**: `broker_result=None`, `require_position=False`. -/
def again (f : FillObservation) : FillObservation :=
  { f with brokerResult := none, rawPosition := none, requirePosition := false }

theorem again_matching (f : FillObservation) : ∀ items : List PositionItem, f.again.matching items = f.matching items
  | [] => rfl
  | .other :: _ => rfl
  | .position p :: items => by
    unfold matching
    rw [again_matching f items]
    rfl

structure Confirmed (f : FillObservation) (point : String → PyFloat) (p : Position) (moment : Int) (stop : ℚ) :
    Prop where
  linked : f.unlinked p = none
  volume : f.volumeProblem p = none
  openedAt : p.openedAt = some moment
  stopLoss : p.stopLoss = some stop
  held : f.stopHeld stop (point p.symbol) = true

def Records (f : FillObservation) (terms : Alerts.FillTerms) (point : String → PyFloat) (p : Position)
    (l : Ledger) : Prop :=
  ∃ moment stop fresh l', f.Confirmed point p moment stop ∧
    Ledger.recordConfirmedFillOnce (f.fill terms p moment stop) l = .ok (fresh, l')

end FillObservation

namespace Alerts

variable [CaseMap] {f : FillObservation} {terms : FillTerms} {positions : List PositionItem} {point : String → PyFloat}
  {p : Position} {w w' : FillWorld}

omit [CaseMap] in
theorem recordFill_ends {moment : Int} {stop : ℚ} {out : Except PyExc Bool}
    (h : Ends (FillExec positions point) (recordFill f terms p moment stop) w out w') :
    (∃ fresh l' b, Ledger.recordConfirmedFillOnce (f.fill terms p moment stop) w.ledger = .ok (fresh, l') ∧
      out = .ok b ∧ w'.halts = w.halts ∧ l'.FillsKept w'.ledger) ∨
    ∃ e, Ledger.recordConfirmedFillOnce (f.fill terms p moment stop) w.ledger = .error e ∧ out = .error e ∧ w' = w := by
  rcases ends_bind.1 h with ⟨fresh, w₁, hrecord, hclaim⟩ | ⟨e, rfl, hrecord⟩
  · left
    cases ends_perform.1 hrecord with
    | committed _ now happ =>
      cases ends_perform.1 hclaim with
      | committed _ now' hclaimed => exact ⟨_, _, _, happ, rfl, rfl, LedgerOp.fillsKept rfl hclaimed⟩
      | refused _ _ hclaimed => cases hclaimed
  · right
    cases ends_perform.1 hrecord with
    | refused _ now happ => exact ⟨e, happ, rfl, rfl⟩

def Recorded (f : FillObservation) (terms : FillTerms) (point : String → PyFloat) (p : Position) (w w' : FillWorld) :
    Prop :=
  w'.halts = w.halts ∧ ∃ moment stop fresh l', f.Confirmed point p moment stop ∧
    Ledger.recordConfirmedFillOnce (f.fill terms p moment stop) w.ledger = .ok (fresh, l') ∧ l'.FillsKept w'.ledger

variable {out : Except PyExc (Option String)}

omit [CaseMap] in
theorem confirmed_ends {moment : Int} {stop : ℚ} (hconfirmed : f.Confirmed point p moment stop)
    (h : Ends (FillExec positions point)
      (do let sendOnce ← recordFill f terms p moment stop
          if sendOnce then pure (some p.positionId) else pure none) w out w') :
    (∃ alert, out = .ok alert ∧ Recorded f terms point p w w') ∨
      ∃ e, out = .error e ∧ e.isException = true ∧ w' = w ∧ ¬f.Records terms point p w.ledger := by
  rcases ends_bind.1 h with ⟨sendOnce, w₁, hrecord, h⟩ | ⟨e, rfl, hrecord⟩
  · rcases recordFill_ends hrecord with ⟨fresh, l', b, happ, _, hhalts, hkept⟩ | ⟨e, _, he, _⟩
    · left
      have hend : (∃ alert, out = .ok alert) ∧ w' = w₁ := by
        split at h
        · exact ⟨⟨_, (ends_pure.1 h).1⟩, (ends_pure.1 h).2⟩
        · exact ⟨⟨_, (ends_pure.1 h).1⟩, (ends_pure.1 h).2⟩
      obtain ⟨⟨alert, rfl⟩, rfl⟩ := hend
      exact ⟨alert, rfl, hhalts, moment, stop, fresh, l', hconfirmed, happ, hkept⟩
    · cases he
  · rcases recordFill_ends hrecord with ⟨_, _, _, _, he, _⟩ | ⟨e', happ, he, hw⟩
    · cases he
    · cases he
      refine .inr ⟨e, rfl, Ledger.recordConfirmedFillOnce_error happ, hw, ?_⟩
      rintro ⟨moment', stop', fresh, l', hconfirmed', hrecords⟩
      rw [Option.some.inj (hconfirmed'.openedAt.symm.trans hconfirmed.openedAt),
        Option.some.inj (hconfirmed'.stopLoss.symm.trans hconfirmed.stopLoss), happ] at hrecords
      cases hrecords

/-- The positions are read, and what is made of them comes after. -/
theorem ends_matching {α : Type} {found : List Position} {k : List Position → AlertProg α} {out : Except PyExc α}
    (hmatch : f.matching positions = .ok found)
    (h : Ends (FillExec positions point)
      (do let positions ← ask .getPositions
          k (← (Prog.ofExcept (f.matching positions) : AlertProg _))) w out w') :
    Ends (FillExec positions point) (k found) w out w' := by
  rcases ends_bind.1 h with ⟨items, w₁, hread, h⟩ | ⟨e, _, hread⟩
  case inr => cases ends_perform.1 hread
  cases ends_perform.1 hread
  rcases ends_bind.1 h with ⟨found', w₁, hfound, h⟩ | ⟨e, _, hfound⟩
  case inr =>
    rw [hmatch] at hfound
    cases (ends_ofExcept.1 hfound).1
  obtain ⟨hfound, rfl⟩ := ends_ofExcept.1 hfound
  rw [hmatch] at hfound
  cases hfound
  exact h

theorem verifyFill_ends (hmatch : f.matching positions = .ok [p])
    (h : Ends (FillExec positions point) (verifyFill f terms) w out w') :
    (∃ alert, out = .ok alert ∧ Recorded f terms point p w w') ∨
      ∃ e, out = .error e ∧ e.isException = true ∧ w' = w ∧ ¬f.Records terms point p w.ledger := by
  replace h := ends_matching hmatch h
  dsimp only at h
  -- what the checks refuse is not confirmed
  have hfails : ∀ {message : String}, (∀ moment stop, ¬f.Confirmed point p moment stop) →
      Ends (FillExec positions point) (fail message : AlertProg (Option String)) w out w' →
      ∃ e, out = .error e ∧ e.isException = true ∧ w' = w ∧ ¬f.Records terms point p w.ledger := by
    intro message hnot h
    obtain ⟨rfl, rfl⟩ := ends_raise.1 h
    exact ⟨_, rfl, rfl, rfl, fun ⟨moment, stop, _, _, hconfirmed, _⟩ => hnot moment stop hconfirmed⟩
  split at h
  · rename_i message hproblem
    refine .inr (hfails (fun moment stop hconfirmed => ?_) h)
    rw [hconfirmed.linked, hconfirmed.volume] at hproblem
    cases hproblem
  · rename_i hproblem
    obtain ⟨hlinked, hvolume⟩ := Option.or_eq_none_iff.1 hproblem
    split at h
    · rename_i moment stop hmoment hstop
      rcases ends_bind.1 h with ⟨pt, w₂, hpoint, h⟩ | ⟨e, _, hpoint⟩
      case inr => cases ends_perform.1 hpoint
      cases ends_perform.1 hpoint
      split at h
      · rename_i hheld
        refine .inr (hfails (fun moment' stop' hconfirmed => ?_) h)
        have hheld' := hconfirmed.held
        rw [Option.some.inj (hconfirmed.stopLoss.symm.trans hstop)] at hheld'
        rw [hheld'] at hheld
        cases hheld
      · rename_i hheld
        rw [Bool.not_eq_true, Bool.not_eq_false'] at hheld
        exact confirmed_ends ⟨hlinked, hvolume, hmoment, hstop, hheld⟩ h
    · rename_i hlacks
      exact .inr (hfails (fun moment stop hconfirmed => hlacks _ _ hconfirmed.openedAt hconfirmed.stopLoss) h)

theorem verifyFill_none (hmatch : f.matching positions = .ok []) (hrequire : f.requirePosition = false)
    (h : Ends (FillExec positions point) (verifyFill f terms) w out w') : out = .ok none ∧ w' = w := by
  replace h := ends_matching hmatch h
  dsimp only at h
  rw [hrequire] at h
  exact ends_pure.1 h

theorem observeFill_ends {out : Except PyExc Unit} (h : Ends (FillExec positions point) (observeFill f terms) w out w') :
    (∃ alert, out = .ok () ∧ Ends (FillExec positions point) (verifyFill f terms) w (.ok alert) w') ∨
      ∃ e w₁, (∃ e', out = .error e') ∧ Ends (FillExec positions point) (verifyFill f terms) w (.error e) w₁ := by
  rcases ends_bind.1 h with ⟨claimed, w₁, htry, h⟩ | ⟨e, he, htry⟩
  · rcases htry.tryCatch_ok with hverified | ⟨e, w₂, _, hhandler⟩
    · left
      refine ⟨claimed, ?_⟩
      cases claimed with
      | none =>
        obtain ⟨rfl, rfl⟩ := ends_pure.1 h
        exact ⟨rfl, hverified⟩
      | some id =>
        obtain ⟨ans, w₂, hsent, h⟩ := ends_bindAny.1 h
        cases ends_perform.1 hsent with
        | opened _ _ hans =>
          cases ans with
          | ok _ =>
            obtain ⟨rfl, rfl⟩ := ends_pure.1 h
            exact ⟨rfl, hverified⟩
          | error e =>
            dsimp only at h
            rw [if_pos (hans e rfl)] at h
            obtain ⟨rfl, rfl⟩ := ends_pure.1 h
            exact ⟨rfl, hverified⟩
    · exfalso
      split at hhandler
      · obtain ⟨_, _, _, hfail⟩ := hhandler.bind_ok
        cases (ends_raise.1 hfail).1
      · cases (ends_raise.1 hhandler).1
  · right
    obtain ⟨mid, w₁, hverified, hrest⟩ := ends_bindAny.1 htry
    cases mid with
    | ok alert => cases (ends_pure.1 hrest).1
    | error e₁ => exact ⟨e₁, w₁, ⟨e, he⟩, hverified⟩

end Alerts

/-! ## The second observation -/

/-- **The position is still there**: only its volume, its price, its profit and its target may have changed. -/
structure Position.Remains (p₀ p : Position) : Prop where
  positionId : p.positionId = p₀.positionId
  symbol : p.symbol = p₀.symbol
  side : p.side = p₀.side
  openPrice : p.openPrice = p₀.openPrice
  stopLoss : p.stopLoss = p₀.stopLoss
  openedAt : p.openedAt = p₀.openedAt

namespace FillObservation

variable {f : FillObservation} {terms terms' : Alerts.FillTerms} {point : String → PyFloat} {p₀ p : Position}
  {l₀ l₁ l : Ledger}

theorem again_confirmed {moment : Int} {stop : ℚ} (hconfirmed : f.Confirmed point p₀ moment stop) (hp : p₀.Remains p)
    (hid : p.positionId = f.orderId) : f.again.Confirmed point p moment stop where
  linked := by
    change (if p.positionId ≠ f.orderId then _ else none) = none
    exact if_neg (not_not.2 hid)
  volume := rfl
  openedAt := hp.openedAt.trans hconfirmed.openedAt
  stopLoss := hp.stopLoss.trans hconfirmed.stopLoss
  held := by
    rw [hp.symbol]
    exact hconfirmed.held

theorem again_linked {moment : Int} {stop : ℚ} (h : f.again.Confirmed point p moment stop) : p.positionId = f.orderId := by
  have hlinked := h.linked
  change (if p.positionId ≠ f.orderId then _ else none) = none at hlinked
  by_contra hne
  rw [if_pos hne] at hlinked
  cases hlinked

/-- **A fill that the ledger took is taken again for its volume only**, wherever no row lost its fill. -/
theorem again_records {moment : Int} {stop : ℚ} {fresh : Bool} (hconfirmed : f.Confirmed point p₀ moment stop)
    (hfirst : Ledger.recordConfirmedFillOnce (f.fill terms p₀ moment stop) l₀ = .ok (fresh, l₁))
    (hkept : l₁.FillsKept l) (hp : p₀.Remains p) :
    f.again.Records terms' point p l ↔ p.volume = p₀.volume ∧ p.positionId = f.orderId := by
  obtain ⟨t, volume, entry, stop', r₁, ht, hnumbers, htexts, hrow₁, hsame₁⟩ := Ledger.recordConfirmedFillOnce_row hfirst
  obtain ⟨hvolume, hentry, hstop⟩ := Ledger.fillNumbers_fin hnumbers
  cases hvolume
  cases hentry
  cases hstop
  obtain ⟨r, hrow, hsame⟩ := hkept _ r₁ hrow₁
  have hsame := Ledger.sameFill_trans hsame hsame₁
  constructor
  · rintro ⟨moment', stop'', fresh', l', hconfirmed', hrecord⟩
    have hid := again_linked hconfirmed'
    obtain ⟨t', volume', entry', stop₂, r', _, hnumbers', _, hrow', hsame'⟩ := Ledger.recordConfirmedFillOnce_row hrecord
    obtain ⟨hvolume', _, _⟩ := Ledger.fillNumbers_fin hnumbers'
    cases hvolume'
    rcases Ledger.recordConfirmedFillOnce_ok hrecord with ⟨_, rfl⟩ | ⟨_, hnone, _⟩
    · -- the row that the fill is compared with is the one of the first time
      change l'.row (strip "weltrade", strip p.positionId) = some r' at hrow'
      rw [hp.positionId] at hrow'
      have hr : r' = r := Option.some.inj (hrow'.symm.trans hrow)
      subst hr
      obtain ⟨_, _, _, hv, _⟩ := Ledger.sameFill_iff.1 hsame
      obtain ⟨_, _, _, hv', _⟩ := Ledger.sameFill_iff.1 hsame'
      exact ⟨Option.some.inj (hv'.symm.trans hv), hid⟩
    · change l.row (strip "weltrade", strip p.positionId) = none at hnone
      rw [hp.positionId] at hnone
      cases hnone.symm.trans hrow
  · rintro ⟨hvolume, hid⟩
    refine ⟨moment, stop, false, l, again_confirmed hconfirmed hp hid, ?_⟩
    have hfill : f.again.fill terms' p moment stop =
        { f.fill terms p₀ moment stop with
          expectedLifetimeAt := terms'.lifetimeMinutes.map fun minutes => moment + 60 * minutes
          timeframe := terms'.timeframe } := by
      unfold fill again
      rw [hp.symbol, hp.positionId, hp.side, hvolume, hp.openPrice]
    rw [hfill]
    exact Ledger.recordConfirmedFillOnce_same ht hnumbers htexts hrow hsame

end FillObservation

/-- **A fill is observed again without harm** exactly when nothing is left of its position, or when the position still
has the volume of the fill and the ticket of the order. -/
theorem fill_again_iff [CaseMap] (f : FillObservation) (terms terms' : Alerts.FillTerms)
    {positions₀ positions : List PositionItem} {point : String → PyFloat} {p₀ : Position} {w₀ w₁ w' : FillWorld}
    {l : Ledger} {out : Except PyExc Unit}
    (hmatch₀ : f.matching positions₀ = .ok [p₀])
    (hfirst : Ends (FillExec positions₀ point) (Alerts.observeFill f terms) w₀ (.ok ()) w₁)
    (hpasses : Relation.ReflTransGen MonitorPass w₁.ledger l)
    (hleft : f.matching positions = .ok [] ∨ ∃ p, f.matching positions = .ok [p] ∧ p₀.Remains p)
    (hrun : Ends (FillExec positions point) (Alerts.observeFill f.again terms') ⟨l, []⟩ out w') :
    (out = .ok () ∧ w'.halts = []) ↔
      ∀ p, f.matching positions = .ok [p] → p.volume = p₀.volume ∧ p.positionId = f.orderId := by
  rw [← f.again_matching] at hleft
  have hruns := Alerts.observeFill_ends hrun
  rcases hleft with hnone | ⟨p, hsome, hp⟩
  · -- with no position left the program returns before the ledger
    constructor
    · intro _ p hmatch
      rw [← f.again_matching, hnone] at hmatch
      cases hmatch
    · intro _
      rcases hruns with ⟨alert, rfl, hverified⟩ | ⟨e, w₂, _, hverified⟩
      · obtain ⟨_, rfl⟩ := Alerts.verifyFill_none hnone rfl hverified
        exact ⟨rfl, rfl⟩
      · cases (Alerts.verifyFill_none hnone rfl hverified).1
  · -- what the first run recorded is in its row still
    obtain ⟨moment, stop, fresh, l₁, hconfirmed, hrecorded, hkept₁⟩ : ∃ moment stop fresh l₁,
        f.Confirmed point p₀ moment stop ∧
        Ledger.recordConfirmedFillOnce (f.fill terms p₀ moment stop) w₀.ledger = .ok (fresh, l₁) ∧
        l₁.FillsKept w₁.ledger := by
      rcases Alerts.observeFill_ends hfirst with ⟨alert, _, hverified⟩ | ⟨e, w₂, ⟨e', he'⟩, _⟩
      · rcases Alerts.verifyFill_ends hmatch₀ hverified with ⟨_, _, _, hrecorded⟩ | ⟨_, he, _⟩
        · exact hrecorded
        · cases he
      · cases he'
    have hkept := hkept₁.trans (MonitorPass.fillsKept_run hpasses)
    have hrecords : f.again.Records terms' point p l ↔ p.volume = p₀.volume ∧ p.positionId = f.orderId :=
      FillObservation.again_records hconfirmed hrecorded hkept hp
    have hfound : (∀ q, f.matching positions = .ok [q] → q.volume = p₀.volume ∧ q.positionId = f.orderId) ↔
        p.volume = p₀.volume ∧ p.positionId = f.orderId := by
      rw [← f.again_matching, hsome]
      exact ⟨fun h => h p rfl, fun h q hq => by cases hq; exact h⟩
    rw [hfound, ← hrecords]
    constructor
    · rintro ⟨rfl, _⟩
      rcases hruns with ⟨alert, _, hverified⟩ | ⟨_, _, ⟨_, he⟩, _⟩
      · rcases Alerts.verifyFill_ends hsome hverified with ⟨_, _, _, m, s, fr, l', hc, hr, _⟩ | ⟨_, he, _⟩
        · exact ⟨m, s, fr, l', hc, hr⟩
        · cases he
      · cases he
    · intro hr
      rcases hruns with ⟨alert, rfl, hverified⟩ | ⟨e, w₂, _, hverified⟩
      · rcases Alerts.verifyFill_ends hsome hverified with ⟨_, _, hhalts, _⟩ | ⟨_, he, _⟩
        · exact ⟨rfl, hhalts⟩
        · cases he
      · rcases Alerts.verifyFill_ends hsome hverified with ⟨_, he, _⟩ | ⟨_, _, _, _, hnot⟩
        · cases he
        · exact absurd hr hnot

/-! ## A position that is closed by half -/

def fillAnswer (positions : List PositionItem) (point : String → PyFloat) (now : Int) (w : FillWorld) :
    (r : AlertReq) → Except PyExc r.Ans × FillWorld
  | .getPositions => (.ok positions, w)
  | .getPricePoint symbol => (.ok (point symbol), w)
  | .ledger op =>
    match op.apply now w.ledger with
    | .ok (a, l') => (.ok a, { w with ledger := l' })
    | .error e => (.error e, w)
  | .recordPostFillIntegrityHalt reason => (.ok (), { w with halts := reason :: w.halts })
  | .openedTrade _ => (.ok (), w)
  | .close _ | .claimOnce _ | .post _ | .sleep => (.error .baseException, w)

def AlertReq.ofFill : AlertReq → Bool
  | .getPositions | .getPricePoint _ | .ledger _ | .recordPostFillIntegrityHalt _ | .openedTrade _ => true
  | .close _ | .claimOnce _ | .post _ | .sleep => false

theorem fillAnswer_exec (positions : List PositionItem) (point : String → PyFloat) (now : Int) (w : FillWorld)
    (r : AlertReq) (hr : r.ofFill = true) :
    FillExec positions point w r (fillAnswer positions point now w r).1 (fillAnswer positions point now w r).2 := by
  cases r with
  | getPositions => exact .positions
  | getPricePoint symbol => exact .point symbol
  | ledger op =>
    dsimp only [fillAnswer]
    split
    · rename_i a l' h
      exact .committed op now h
    · rename_i e h
      exact .refused op now h
  | recordPostFillIntegrityHalt reason => exact .halted reason
  | openedTrade id => exact .opened id _ fun e he => by cases he
  | close _ | claimOnce _ | post _ | sleep => cases hr

section Half

local instance fillCase : CaseMap := asciiCase

def halfPosition (volume : ℚ) : Mt5Position where
  ticket := 7001
  symbol := "PAINX1200"
  type := 0
  volume
  priceOpen := 1000
  priceCurrent := 1000
  profit := 0
  sl := 900
  tp := 1100
  time := 1010000
  magic := none
  comment := none

def halfFill : FillObservation where
  symbol := "PAINX1200"
  side := .buy
  orderId := "7001"
  expectedStopLoss := .fin 900
  brokerResult := some { orderId := "7001", status := .filled, symbol := "PAINX1200", side := .buy, volume := 1
                         filledPrice := some 1000, transactionId := none }
  rawPosition := none
  requirePosition := true

def halfTerms : Alerts.FillTerms := ⟨none, none⟩

def observeHalf (f : FillObservation) (volume : ℚ) (w : FillWorld) : Except PyExc Unit × FillWorld :=
  (Alerts.observeFill f halfTerms).run (fillAnswer [.position (halfPosition volume).toPosition] (fun _ => .fin 1) 1000000) w

def halfLedger : Ledger := (observeHalf halfFill 1 ⟨.empty, []⟩).2.ledger

def halfRow : LedgerRow where
  symbol := "PAINX1200"
  orderId := "7001"
  openedAt := 999200
  side := some .buy
  volume := some 1
  entryPrice := some 1000
  stopLoss := some 900
  notificationClaimedAt := some 1000000
  remainingVolume := some 1

def halfPass : Except PyExc Unit × CloseWorld :=
  (do CloseMonitor.closeRows false [halfPosition (1 / 2)] 1000000 "USD" [⟨halfRow, "weltrade", "7001"⟩]
      CloseMonitor.finishPass false : CloseProg Unit).run
    (closeAnswer [halfPosition (1 / 2)] (dealsTerminal (roundTrip 1 (1 / 2))) 1000000 false) ⟨halfLedger, none, false⟩

def halfChecks (f : FillObservation) (volume : ℚ) (w : FillWorld) : Bool :=
  (Alerts.observeFill f halfTerms).checks
    (fillAnswer [.position (halfPosition volume).toPosition] (fun _ => .fin 1) 1000000) (fun _ r => r.ofFill) w

theorem half_facts : (halfLedger.rows.entries = [⟨("weltrade", "7001"), halfRow⟩] ∧ halfPass.1.isOk = true ∧
      halfPass.2.ledger.row ("weltrade", "7001") = some (Ledger.partialRow (1 / 2) 9 halfRow)) ∧
    ((observeHalf halfFill 1 ⟨.empty, []⟩).1.isOk = true ∧ halfChecks halfFill 1 ⟨.empty, []⟩ = true) ∧
    ((observeHalf halfFill.again (1 / 2) ⟨halfPass.2.ledger, []⟩).1 =
        .error (.exception "Weltrade post-fill ledger unverified; supervisor must stop") ∧
      (observeHalf halfFill.again (1 / 2) ⟨halfPass.2.ledger, []⟩).2.halts = ["CONFIRMED_FILL_LEDGER_UNVERIFIED"] ∧
      halfChecks halfFill.again (1 / 2) ⟨halfPass.2.ledger, []⟩ = true) ∧
    halfChecks halfFill.again 1 ⟨halfLedger, []⟩ = true ∧
    (halfPosition 1).toPosition.positionId = halfFill.orderId := by
  decide +kernel

theorem halfLedger_openEntries : halfLedger.openEntries "weltrade" = .ok [⟨halfRow, "weltrade", "7001"⟩] := by
  have hentries : halfLedger.entries = [⟨halfRow, "weltrade", "7001"⟩] := by
    unfold Ledger.entries
    rw [half_facts.1.1, List.map_singleton, List.mergeSort_singleton]
  unfold Ledger.openEntries
  rw [hentries]
  rfl

theorem ok_of_isOk {x : Except PyExc Unit} (h : x.isOk = true) : x = .ok () := by
  cases x with
  | ok _ => rfl
  | error e => cases h

theorem observeHalf_ends (f : FillObservation) (volume : ℚ) (w : FillWorld)
    (h : halfChecks f volume w = true) :
    Ends (FillExec [.position (halfPosition volume).toPosition] fun _ => .fin 1) (Alerts.observeFill f halfTerms) w
      (observeHalf f volume w).1 (observeHalf f volume w).2 :=
  Ends.of_checked _ (fun w r hr => fillAnswer_exec _ _ _ w r hr) _ w h

theorem halfLedger_ends : Ends (FillExec [.position (halfPosition 1).toPosition] fun _ => .fin 1)
    (Alerts.observeFill halfFill halfTerms) ⟨.empty, []⟩ (.ok ()) (observeHalf halfFill 1 ⟨.empty, []⟩).2 := by
  rw [← ok_of_isOk half_facts.2.1.1]
  exact observeHalf_ends _ _ _ half_facts.2.1.2

theorem halfPass_ends : Ends (CloseExec ⟨[halfPosition (1 / 2)], 1000000, (· = dealsTerminal (roundTrip 1 (1 / 2)))⟩)
    (monitorWeltradeCloses false) ⟨halfLedger, none, false⟩ (.ok ()) halfPass.2 := by
  rw [← ok_of_isOk half_facts.1.2.1]
  exact monitor_of_rows halfLedger_openEntries (Ends.of_run _ (closeAnswer_exec _ _ _ false) _ _)

theorem halfPosition_buy (volume : ℚ) : (halfPosition volume).toPosition.side = .buy := by
  have htype : (halfPosition volume).type = orderTypeBuy := rfl
  simp [Mt5Position.toPosition, htype]

/-- **A partial close that the monitor accepted**: the order observed again is halted, and raises. -/
theorem fill_again_partial :
    Ends (FillExec [.position (halfPosition 1).toPosition] fun _ => .fin 1) (Alerts.observeFill halfFill halfTerms)
      ⟨.empty, []⟩ (.ok ()) (observeHalf halfFill 1 ⟨.empty, []⟩).2 ∧
    Ends (CloseExec ⟨[halfPosition (1 / 2)], 1000000, (· = dealsTerminal (roundTrip 1 (1 / 2)))⟩)
      (monitorWeltradeCloses false) ⟨(observeHalf halfFill 1 ⟨.empty, []⟩).2.ledger, none, false⟩ (.ok ()) halfPass.2 ∧
    halfPass.2.ledger.row ("weltrade", "7001") = some (Ledger.partialRow (1 / 2) 9 halfRow) ∧
    ∃ e w', Ends (FillExec [.position (halfPosition (1 / 2)).toPosition] fun _ => .fin 1)
        (Alerts.observeFill halfFill.again halfTerms) ⟨halfPass.2.ledger, []⟩ (.error e) w' ∧
      w'.halts = ["CONFIRMED_FILL_LEDGER_UNVERIFIED"] := by
  obtain ⟨hend, hhalts, hchecks⟩ := half_facts.2.2.1
  refine ⟨halfLedger_ends, halfPass_ends, half_facts.1.2.2,
    .exception "Weltrade post-fill ledger unverified; supervisor must stop",
    (observeHalf halfFill.again (1 / 2) ⟨halfPass.2.ledger, []⟩).2, ?_, hhalts⟩
  rw [← hend]
  exact observeHalf_ends _ _ _ hchecks

theorem halfFill_matching (volume : ℚ) :
    halfFill.matching [.position (halfPosition volume).toPosition] = .ok [(halfPosition volume).toPosition] :=
  congrArg Except.ok (if_pos ⟨rfl, halfPosition_buy volume⟩)

/-- The whole position observed again. -/
theorem fill_again_whole : (observeHalf halfFill.again 1 ⟨halfLedger, []⟩).1 = .ok () ∧
    (observeHalf halfFill.again 1 ⟨halfLedger, []⟩).2.halts = [] := by
  refine (fill_again_iff halfFill halfTerms halfTerms (halfFill_matching 1) halfLedger_ends .refl
    (.inr ⟨_, halfFill_matching 1, ⟨rfl, rfl, rfl, rfl, rfl, rfl⟩⟩) (observeHalf_ends _ _ _ half_facts.2.2.2.1)).2 ?_
  intro p hp
  cases Except.ok.inj ((halfFill_matching 1).symm.trans hp)
  exact ⟨rfl, half_facts.2.2.2.2⟩

end Half

end Jqe
