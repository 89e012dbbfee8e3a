import Jqe.LedgerStore
/-!
# LedgerSound — which sequences of calls keep the position ledger sound

A row is sound when its open or closed state agrees with its other columns.  All operations keep every row sound but
two: `record_open` of a closed position revives its row with the columns of the close, and `mark_partial_close` takes a
remainder above the volume.
-/
namespace Jqe

/-- **The open or closed state of a row agrees with its other columns.** -/
structure LedgerRow.Sound (r : LedgerRow) : Prop where
  opened : r.closedAt = none → r.closePrice = none ∧ r.closeReason = none ∧ r.remainingVolume ≠ some 0 ∧
    r.reconciliationState ≠ some "CLOSE_CONFIRMED"
  closed : r.closedAt ≠ none → r.remainingVolume = some 0
  bounded : ∀ v q, r.volume = some v → r.remainingVolume = some q → q ≤ v

/-- A row with a volume has a positive one, and a remainder. -/
def LedgerRow.Measured (r : LedgerRow) : Prop := ∀ v, r.volume = some v → 0 < v ∧ ∃ q, r.remainingVolume = some q

namespace Ledger

def Sound (l : Ledger) : Prop := ∀ key r, l.row key = some r → r.Sound

def Measured (l : Ledger) : Prop := ∀ key r, l.row key = some r → r.Measured

theorem forall_setRow_iff {P : LedgerRow → Prop} {l : Ledger} (h : ∀ key r, l.row key = some r → P r)
    (key : String × String) (r' : LedgerRow) : (∀ k r, (l.setRow key r').row k = some r → P r) ↔ P r' := by
  constructor
  · exact fun hall => hall key r' (row_setRow l key r')
  · intro hr k r hk
    by_cases hkey : k = key
    · rw [hkey, row_setRow, Option.some.injEq] at hk
      exact hk ▸ hr
    · rw [row_setRow_of_ne l r' hkey] at hk
      exact h k r hk

theorem forall_updateWhere {P : LedgerRow → Prop} {l : Ledger} {key : String × String} {where_ : LedgerRow → Bool}
    {set : LedgerRow → LedgerRow} (h : ∀ key r, l.row key = some r → P r)
    (hset : ∀ r, l.row key = some r → where_ r = true → P (set r)) :
    ∀ k r, (l.updateWhere key where_ set).2.row k = some r → P r := by
  rcases l.updateWhere_cases key where_ set with ⟨heq, _⟩ | ⟨r, hr, hw, heq⟩ <;> rw [heq]
  · exact h
  · exact (forall_setRow_iff h key (set r)).2 (hset r hr hw)

end Ledger

/-- **The calls that keep the ledger sound**: no closed row is opened again, and no row with a volume is left with more
than it. -/
def LedgerOp.Careful (l : Ledger) : LedgerOp → Prop
  | recordOpen broker symbol positionId orderId openedAt =>
    openedAt ≠ none → Ledger.requiredTexts [("broker", broker), ("symbol", symbol), ("position_id", positionId),
      ("order_id", orderId)] = .ok () → ∀ r, l.row (strip broker, strip positionId) = some r → r.closedAt = none
  | markPartialClose broker positionId remainingVolume realizedPnl =>
    ∀ remaining pnl, remainingVolume = .fin remaining → realizedPnl = .fin pnl → 0 < remaining →
      ∀ r v, l.row (broker, positionId) = some r → r.closedAt = none → r.volume = some v → remaining ≤ v
  | _ => True

namespace LedgerOp

open Ledger

variable {now : Int} {op : LedgerOp} {l l' : Ledger} {a : op.Ans}

theorem apply_measured (h : op.apply now l = .ok (a, l')) (hm : l.Measured) : l'.Measured := by
  have updated : ∀ {b key where_} {set : LedgerRow → LedgerRow}, (b, l') = l.updateWhere key where_ set →
      (∀ r, (set r).volume = r.volume ∧ (r.remainingVolume.isSome → (set r).remainingVolume.isSome)) →
      l'.Measured := by
    intro b key where_ set heq hset
    rw [show l' = (l.updateWhere key where_ set).2 from congrArg Prod.snd heq]
    refine forall_updateWhere (P := LedgerRow.Measured) hm fun r hr _ v hv => ?_
    rw [(hset r).1] at hv
    obtain ⟨hpos, q, hq⟩ := hm key r hr v hv
    exact ⟨hpos, Option.isSome_iff_exists.1 ((hset r).2 (by rw [hq]; rfl))⟩
  cases op with
  | recordOpen broker symbol positionId orderId openedAt =>
    obtain ⟨t, _, _, rfl⟩ := recordOpen_ok h
    refine (forall_setRow_iff (P := LedgerRow.Measured) hm _ _).2 ?_
    cases hr : l.row (strip broker, strip positionId) with
    | some r => exact hm _ r hr
    | none => exact fun v hv => by cases hv
  | recordConfirmedFillOnce fill =>
    rcases recordConfirmedFillOnce_ok h with ⟨_, rfl⟩ | ⟨_, _, t, volume, entry, stop, hpos, rfl⟩
    · exact hm
    · refine (forall_setRow_iff (P := LedgerRow.Measured) hm _ _).2 fun v hv => ?_
      cases hv
      exact ⟨hpos, _, rfl⟩
  | markClosed broker positionId closedAt facts =>
    obtain ⟨t, _, heq⟩ := markClosed_ok h
    exact updated heq fun r => ⟨rfl, fun _ => rfl⟩
  | markPartialClose broker positionId remainingVolume realizedPnl =>
    obtain ⟨remaining, pnl, _, _, _, heq⟩ := markPartialClose_ok h
    exact updated heq fun r => ⟨rfl, fun _ => rfl⟩
  | claimOpenNotificationOnce => exact updated (Except.ok.inj h).symm fun r => ⟨rfl, fun hr => hr⟩
  | markCloseUnconfirmed => exact updated (Except.ok.inj h).symm fun r => ⟨rfl, fun hr => hr⟩
  | claimCloseNotificationOnce => exact updated (Except.ok.inj h).symm fun r => ⟨rfl, fun hr => hr⟩
  | claimCloseUnconfirmedNotificationOnce => exact updated (Except.ok.inj h).symm fun r => ⟨rfl, fun hr => hr⟩

theorem sound_openedRow_none (symbol orderId : String) (t : Int) : (openedRow none symbol orderId t).Sound where
  opened _ := ⟨rfl, rfl, nofun, nofun⟩
  closed h := absurd rfl h
  bounded _ _ hv := by cases hv

theorem sound_filledRow {fill : ConfirmedFill} {t : Int} {volume entry stop : ℚ} (hpos : 0 < volume) :
    (filledRow fill t volume entry stop).Sound where
  opened _ := by
    refine ⟨rfl, rfl, fun h => ?_, nofun⟩
    have hzero : volume = 0 := Option.some.inj h
    exact absurd hzero hpos.ne'
  closed h := absurd rfl h
  bounded v q hv hq := by
    cases hv
    cases hq
    exact le_refl _

theorem sound_openedRow_iff {r : LedgerRow} (hr : r.Sound) (symbol orderId : String) (t : Int) :
    (openedRow (some r) symbol orderId t).Sound ↔ r.closedAt = none := by
  constructor
  · intro hs
    by_contra hclosed
    exact (hs.opened rfl).2.2.1 (hr.closed hclosed)
  · intro hopen
    exact ⟨fun _ => hr.opened hopen, fun h => absurd rfl h, hr.bounded⟩

theorem sound_closedRow {r : LedgerRow} (hm : r.Measured) (t : Int) (facts : CloseFacts) :
    (closedRow t facts r).Sound where
  opened h := by cases h
  closed _ := rfl
  bounded v q hv hq := by
    cases hq
    exact (hm v hv).1.le

theorem sound_partialRow_iff {r : LedgerRow} (hr : r.Sound) (hopen : r.closedAt = none) {remaining pnl : ℚ}
    (hpos : 0 < remaining) : (partialRow remaining pnl r).Sound ↔ ∀ v, r.volume = some v → remaining ≤ v := by
  constructor
  · exact fun hs v hv => hs.bounded v remaining hv rfl
  · intro hle
    refine ⟨fun _ => ⟨(hr.opened hopen).1, (hr.opened hopen).2.1, fun h => ?_, fun h => ?_⟩,
      fun h => absurd hopen h, fun v q hv hq => ?_⟩
    · exact absurd (Option.some.inj h) hpos.ne'
    · exact absurd (Option.some.inj h) (by decide)
    · cases hq
      exact hle v hv

/-- **One call keeps the ledger sound exactly when it is careful.** -/
theorem apply_sound_iff (h : op.apply now l = .ok (a, l')) (hs : l.Sound) (hm : l.Measured) :
    l'.Sound ↔ op.Careful l := by
  have updated : ∀ {b key where_} {set : LedgerRow → LedgerRow}, (b, l') = l.updateWhere key where_ set →
      (∀ r, r.Sound → r.Measured → where_ r = true → (set r).Sound) → l'.Sound := by
    intro b key where_ set heq hset
    rw [show l' = (l.updateWhere key where_ set).2 from congrArg Prod.snd heq]
    exact forall_updateWhere (P := LedgerRow.Sound) hs fun r hr hw => hset r (hs key r hr) (hm key r hr) hw
  cases op with
  | recordOpen broker symbol positionId orderId openedAt =>
    obtain ⟨t, rfl, htexts, rfl⟩ := recordOpen_ok h
    refine (forall_setRow_iff (P := LedgerRow.Sound) hs _ _).trans ?_
    cases hr : l.row (strip broker, strip positionId) with
    | none => exact ⟨fun _ _ _ r h => absurd (hr.symm.trans h).symm (Option.some_ne_none r),
        fun _ => sound_openedRow_none _ _ _⟩
    | some r =>
      refine (sound_openedRow_iff (hs _ r hr) _ _ _).trans ⟨fun hopen _ _ r' h' => ?_, fun hc => ?_⟩
      · rwa [← Option.some.inj (hr.symm.trans h')]
      · exact hc (Option.some_ne_none t) htexts r hr
  | recordConfirmedFillOnce fill =>
    refine ⟨fun _ => trivial, fun _ => ?_⟩
    rcases recordConfirmedFillOnce_ok h with ⟨_, rfl⟩ | ⟨_, _, t, volume, entry, stop, hpos, rfl⟩
    · exact hs
    · exact (forall_setRow_iff (P := LedgerRow.Sound) hs _ _).2 (sound_filledRow hpos)
  | markClosed broker positionId closedAt facts =>
    obtain ⟨t, _, heq⟩ := markClosed_ok h
    exact ⟨fun _ => trivial, fun _ => updated heq fun r _ hm _ => sound_closedRow hm t facts⟩
  | markPartialClose broker positionId remainingVolume realizedPnl =>
    obtain ⟨remaining, pnl, rfl, rfl, hpos, heq⟩ := markPartialClose_ok h
    rcases l.updateWhere_cases _ _ _ with ⟨hsame, hnot⟩ | ⟨r, hr, hw, hset⟩
    · -- nothing is written: a row that is open says the same already
      rw [hsame] at heq
      cases heq
      refine ⟨fun _ q p hq _ _ r v hr hopen hv => ?_, fun _ => hs⟩
      have hclear := hnot r hr
      simp only [hopen, Option.isNone_none, true_and, decide_eq_false_iff_not, not_or, not_not] at hclear
      cases hq
      exact (hs _ r hr).bounded v remaining hv hclear.1
    · rw [hset] at heq
      cases heq
      have hopen : r.closedAt = none := by simpa using (of_decide_eq_true hw).1
      refine (forall_setRow_iff (P := LedgerRow.Sound) hs _ _).trans
        ((sound_partialRow_iff (hs _ r hr) hopen hpos).trans ⟨fun hle q p hq _ _ r' v hr' _ hv => ?_, fun hc v hv => ?_⟩)
      · cases hq
        rw [← Option.some.inj (hr.symm.trans hr')] at hv
        exact hle v hv
      · exact hc remaining pnl rfl rfl hpos r v hr hopen hv
  | claimOpenNotificationOnce =>
    exact ⟨fun _ => trivial, fun _ => updated (Except.ok.inj h).symm fun r hr _ _ => ⟨hr.opened, hr.closed, hr.bounded⟩⟩
  | markCloseUnconfirmed =>
    refine ⟨fun _ => trivial, fun _ => updated (Except.ok.inj h).symm fun r hr _ _ =>
      ⟨fun hopen => ?_, hr.closed, hr.bounded⟩⟩
    exact ⟨(hr.opened hopen).1, (hr.opened hopen).2.1, (hr.opened hopen).2.2.1,
      fun h => absurd (Option.some.inj h) (by decide)⟩
  | claimCloseNotificationOnce =>
    exact ⟨fun _ => trivial, fun _ => updated (Except.ok.inj h).symm fun r hr _ _ => ⟨hr.opened, hr.closed, hr.bounded⟩⟩
  | claimCloseUnconfirmedNotificationOnce =>
    exact ⟨fun _ => trivial, fun _ => updated (Except.ok.inj h).symm fun r hr _ _ => ⟨hr.opened, hr.closed, hr.bounded⟩⟩

theorem careful_of_error {e : PyExc} (h : op.apply now l = .error e) : op.Careful l := by
  cases op with
  | recordOpen broker symbol positionId orderId openedAt =>
    intro hopened htexts
    obtain ⟨t, rfl⟩ := Option.ne_none_iff_exists'.1 hopened
    change Ledger.recordOpen broker symbol positionId orderId (some t) l = _ at h
    unfold Ledger.recordOpen at h
    rw [htexts] at h
    cases h
  | markPartialClose broker positionId remainingVolume realizedPnl =>
    rintro remaining pnl rfl rfl hpos
    change Ledger.markPartialClose broker positionId (.fin remaining) (.fin pnl) l = _ at h
    unfold Ledger.markPartialClose at h
    dsimp only at h
    rw [if_pos hpos] at h
    cases h
  | _ => exact trivial

end LedgerOp

namespace Ledger

/-- A call by anyone at a moment: what raises is rolled back. -/
def after (l : Ledger) (call : Int × LedgerOp) : Ledger :=
  match call.2.apply call.1 l with
  | .ok (_, l') => l'
  | .error _ => l

def states (l : Ledger) : List (Int × LedgerOp) → List Ledger
  | [] => [l]
  | call :: calls => l :: states (l.after call) calls

def CarefulRun (l : Ledger) : List (Int × LedgerOp) → Prop
  | [] => True
  | call :: calls => call.2.Careful l ∧ CarefulRun (l.after call) calls

theorem after_measured {l : Ledger} (hm : l.Measured) (call : Int × LedgerOp) : (l.after call).Measured := by
  unfold after
  split
  · rename_i happ
    exact call.2.apply_measured happ hm
  · exact hm

theorem after_sound_iff {l : Ledger} (hs : l.Sound) (hm : l.Measured) (call : Int × LedgerOp) :
    (l.after call).Sound ↔ call.2.Careful l := by
  unfold after
  split
  · rename_i happ
    exact LedgerOp.apply_sound_iff happ hs hm
  · rename_i happ
    exact ⟨fun _ => LedgerOp.careful_of_error happ, fun _ => hs⟩

theorem states_sound_iff {l : Ledger} (hs : l.Sound) (hm : l.Measured) (calls : List (Int × LedgerOp)) :
    (∀ l' ∈ l.states calls, l'.Sound) ↔ l.CarefulRun calls := by
  induction calls generalizing l with
  | nil => simpa [states, CarefulRun] using hs
  | cons call calls ih =>
    have hafter := after_sound_iff hs hm call
    have hmeasured := after_measured hm call
    have hmem : ∀ {l' : Ledger} {calls}, l' ∈ l'.states calls := by
      intro l' calls
      cases calls <;> exact List.mem_cons_self
    constructor
    · intro hall
      have hnext : (l.after call).Sound := hall _ (List.mem_cons_of_mem _ hmem)
      exact ⟨hafter.1 hnext, (ih hnext hmeasured).1 fun l' hl' => hall l' (List.mem_cons_of_mem _ hl')⟩
    · rintro ⟨hcareful, hrest⟩ l' hl'
      rcases List.mem_cons.1 hl' with rfl | hl'
      · exact hs
      · exact (ih (hafter.2 hcareful) hmeasured).2 hrest l' hl'

end Ledger

/-- **A run keeps the ledger sound exactly when none of its calls opens a closed row again or leaves more than the
volume.** -/
theorem ledger_sound_iff (calls : List (Int × LedgerOp)) :
    (∀ l ∈ Ledger.empty.states calls, l.Sound) ↔ Ledger.empty.CarefulRun calls :=
  Ledger.states_sound_iff (fun _ _ hr => by cases hr) (fun _ _ hr => by cases hr) calls

def revivedCalls : List (Int × LedgerOp) :=
  [(0, .recordOpen "weltrade" "PAINX1200" "7001" "7001" (some 0)),
    (1, .markClosed "weltrade" "7001" (some 1) { closePrice := some (.fin 990), reconciliationState := some "CLOSE_CONFIRMED" }),
    (2, .recordOpen "weltrade" "PAINX1200" "7001" "7001" (some 2))]

/-- **An open row with the columns of its close.** -/
theorem ledger_revived : ¬ ∀ l ∈ Ledger.empty.states revivedCalls, l.Sound := by
  intro hall
  have hrevived : (((Ledger.empty.states revivedCalls).getLast?.bind (·.row ("weltrade", "7001"))).any
      fun r => r.closedAt.isNone ∧ r.remainingVolume = some 0) = true := by decide
  obtain ⟨r, hr, hzero⟩ := (Option.any_eq_true _ _).1 hrevived
  obtain ⟨l, hl, hrow⟩ := Option.bind_eq_some_iff.1 hr
  have hsound := hall l (List.mem_of_getLast? hl) _ r hrow
  obtain ⟨hopen, hzero⟩ := of_decide_eq_true hzero
  exact (hsound.opened (by simpa using hopen)).2.2.1 hzero

end Jqe
