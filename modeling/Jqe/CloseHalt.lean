import Jqe.CloseSettled
/-!
# CloseHalt — what a pass of the close monitor raises after

In two parts: a pass that raises has recorded an integrity halt, or found one, unless it met a mishap; and the whole pass.
-/
namespace Jqe

open Coro Prog CloseMonitor

/-- Whether an answer is, or follows on, a recorded halt, or is a mishap. -/
def CloseReq.marks : (r : CloseReq) → Except PyExc r.Ans → Bool
  | recordPostFillIntegrityHalt _, _ => true
  | postFillIntegrityHalt, .ok halted => halted.isSome
  | r, .error e => !e.isException || !r.caught
  | _, .ok _ => false

def haltProtocol : Protocol CloseReq CloseReq.Ans PyExc Bool where
  allows _ _ := True
  next q r ans := q || r.marks ans

def OnError {α : Type} (φ : PyExc → Prop) (out : Except PyExc α) (q : Bool) : Prop :=
  ∀ e, out = .error e → φ e → q = true

section Rules

variable {α β : Type} {φ : PyExc → Prop} {q : Bool}

theorem onError_ok (a : α) (q : Bool) : OnError φ (.ok a) q := fun e he => by cases he

theorem wp_bind_onError {p : CloseProg α} {f : α → CloseProg β} (hp : wp haltProtocol p q (OnError φ))
    (hf : ∀ a q', wp haltProtocol (f a) q' (OnError φ)) : wp haltProtocol (p >>= f) q (OnError φ) := by
  rw [wp_bind]
  refine wp_mono (fun out q' hout => ?_) p q hp
  cases out with
  | ok a => exact hf a q'
  | error e =>
    intro e' he
    cases he
    exact hout e rfl

theorem wp_marked (p : CloseProg α) : wp haltProtocol p true (OnError φ) := by
  induction p with
  | ret a => exact fun _ _ _ => rfl
  | raise e => exact fun _ _ _ => rfl
  | call r k ih =>
    refine ⟨trivial, fun ans => ?_⟩
    have hmarked : haltProtocol.next true r ans = true := Bool.true_or (r.marks ans)
    rw [hmarked]
    exact ih ans

theorem wp_ask_uncaught {r : CloseReq} (hr : r.caught = false) (q : Bool) :
    wp haltProtocol (ask r) q (OnError φ) := by
  unfold ask
  rw [wp_perform]
  refine ⟨trivial, fun ans e he _ => ?_⟩
  subst he
  change (q || r.marks (.error e)) = true
  cases r <;> simp_all [CloseReq.marks, CloseReq.caught]

theorem wp_ask_weak (r : CloseReq) (q : Bool) : wp haltProtocol (ask r) q (OnError fun e => e.isException = false) := by
  unfold ask
  rw [wp_perform]
  refine ⟨trivial, fun ans e he hφ => ?_⟩
  subst he
  change (q || r.marks (.error e)) = true
  cases r <;> simp_all [CloseReq.marks]

theorem wp_fail_weak (message : String) (q : Bool) :
    wp haltProtocol (fail message : CloseProg α) q (OnError fun e => e.isException = false) := by
  intro e he hφ
  cases he
  cases hφ

theorem wp_halt (reason : String) (q : Bool) : wp haltProtocol (halt reason : CloseProg α) q (OnError φ) := by
  unfold halt ask
  rw [wp_bind, wp_perform]
  refine ⟨trivial, fun ans => ?_⟩
  have hmarked : haltProtocol.next q (.recordPostFillIntegrityHalt reason) ans = true := Bool.or_true q
  rw [hmarked]
  cases ans with
  | ok _ => exact wp_marked _
  | error e => exact fun _ _ _ => rfl

theorem wp_tryExcept_onError {p handler : CloseProg α}
    (hp : wp haltProtocol p q (OnError fun e => e.isException = false))
    (hhandler : ∀ q, wp haltProtocol handler q (OnError φ)) : wp haltProtocol (tryExcept p handler) q (OnError φ) := by
  unfold tryExcept
  rw [wp_tryCatch]
  refine wp_mono (fun out q' hout => ?_) p q hp
  cases out with
  | ok a => exact onError_ok a q'
  | error e =>
    dsimp only
    split
    · exact hhandler q'
    · rename_i he
      exact fun _ _ _ => hout e rfl (Bool.eq_false_iff.2 he)

end Rules

namespace CloseMonitor

variable {q : Bool}

theorem wp_sendPendingEach (rows : List PositionLedgerEntry) (q : Bool) :
    wp haltProtocol (sendPendingEach rows) q (OnError fun e => e.isException = false) := by
  induction rows generalizing q with
  | nil => exact onError_ok () q
  | cons row rows ih =>
    refine wp_bind_onError (wp_bind_onError (wp_ask_weak _ q) fun claimed q' => ?_) fun _ q' => ih q'
    split
    · exact wp_tryExcept_onError (wp_ask_weak _ q') (onError_ok ())
    · exact onError_ok () q'

theorem wp_unconfirmed (notify : Bool) (row : PositionLedgerEntry) (q : Bool) :
    wp haltProtocol (unconfirmed notify row) q (OnError fun _ => True) := by
  refine wp_bind_onError (wp_tryExcept_onError (wp_bind_onError (wp_ask_weak _ q) fun _ q' => ?_) (wp_halt _)) fun _ q' =>
    wp_halt _ q'
  split
  · refine wp_bind_onError (wp_ask_weak _ q') fun claimed q'' => ?_
    split
    · exact wp_tryExcept_onError (wp_ask_weak _ q'') (onError_ok ())
    · exact onError_ok () q''
  · exact onError_ok () q'

theorem wp_settle (row : PositionLedgerEntry) (observed : Option ℚ) (currency : String) (f : CloseFinding)
    (exitPrice : ℚ) (q : Bool) :
    wp haltProtocol (settle row observed currency f exitPrice) q (OnError fun e => e.isException = false) := by
  unfold settle
  cases observed with
  | none =>
    refine wp_bind_onError (wp_ask_weak _ q) fun changed q' => ?_
    split
    · exact wp_fail_weak _ q'
    · exact onError_ok () q'
  | some remaining =>
    refine wp_bind_onError (wp_ask_weak _ q) fun changed q' => ?_
    split
    · exact onError_ok () q'
    · refine wp_bind_onError (wp_ask_weak _ q') fun rows q'' => ?_
      split
      · exact onError_ok () q''
      · exact wp_fail_weak _ q''

theorem wp_finishPass (notify : Bool) (q : Bool) : wp haltProtocol (finishPass notify) q (OnError fun _ => True) := by
  unfold finishPass
  refine wp_bind_onError (wp_tryExcept_onError ?_ (wp_halt _)) fun _ q' => ?_
  · split
    · exact wp_bind_onError (wp_ask_weak _ q) fun rows q' => wp_sendPendingEach rows q'
    · exact onError_ok () q
  · unfold ask
    rw [wp_bind, wp_perform]
    refine ⟨trivial, fun ans => ?_⟩
    cases ans with
    | ok halted =>
      dsimp only
      by_cases hhalted : halted.isSome = true
      · rw [show haltProtocol.next q' .postFillIntegrityHalt (.ok halted) = true from
          (congrArg (q' || ·) hhalted).trans (Bool.or_true q')]
        exact wp_marked _
      · rw [if_neg hhalted]
        exact onError_ok () _
    | error e =>
      intro _ _ _
      change (q' || (!e.isException || !false)) = true
      simp

variable [CaseMap]

theorem finding?_closed {row : PositionLedgerEntry} {volume observed : ℚ} {s : TradeHistorySnapshot} {start now : Int}
    {f : CloseFinding} (hf : finding? row volume observed s start now = some f) :
    0 < volume - observed ∧ closeVolume f.closedVolume (volume - observed) = true := by
  unfold finding? at hf
  dsimp only at hf
  split at hf
  · split at hf
    · rename_i hchecks
      simp only [Bool.and_eq_true, decide_eq_true_eq] at hchecks
      obtain ⟨⟨⟨⟨_, hpos⟩, _, hclosed⟩, _⟩, _⟩ := hchecks
      cases hf
      exact ⟨hpos, hclosed⟩
    · cases hf
  · cases hf

theorem closedVolume_ne_zero {row : PositionLedgerEntry} {volume : ℚ} {observed : Option ℚ}
    {s : TradeHistorySnapshot} {start now : Int} {f : CloseFinding} (hvolume : volumeTol < volume)
    (hobserved : ¬observed.any (closeVolume · volume) = true)
    (hf : finding? row volume (observed.getD 0) s start now = some f) : f.closedVolume ≠ 0 := by
  intro hzero
  obtain ⟨hpos, hclosed⟩ := finding?_closed hf
  rw [hzero, closeVolume_iff, abs_zero, mul_zero, zero_sub, abs_neg, abs_of_pos hpos] at hclosed
  have hsmall : volume - observed.getD 0 ≤ volumeTol := by
    rcases hclosed with h | h | h
    · exact absurd hpos (not_lt.2 h)
    · have hscale : volumeTol * (volume - observed.getD 0) ≤ 1 / 2 * (volume - observed.getD 0) :=
        mul_le_mul_of_nonneg_right (by decide +kernel) hpos.le
      linarith
    · exact h
  cases observed with
  | none =>
    rw [Option.getD_none, sub_zero] at hsmall
    exact absurd hvolume (not_lt.2 hsmall)
  | some o =>
    rw [Option.getD_some] at hpos hsmall
    refine hobserved (closeVolume_iff.2 (.inr (.inr ?_)))
    rw [abs_sub_comm, abs_of_pos hpos]
    exact hsmall

theorem wp_closeRow (notify : Bool) (positions : List Mt5Position) (now : Int) (currency : String)
    {row : PositionLedgerEntry} (hrow : ∀ volume, row.volume = some volume → volumeTol < volume) (q : Bool) :
    wp haltProtocol (closeRow notify positions now currency row) q (OnError fun _ => True) := by
  unfold closeRow
  split
  · exact wp_unconfirmed notify row q
  · rename_i volume hfilter
    have hvolume := (Option.filter_eq_some_iff.1 hfilter).1
    dsimp only
    by_cases hsame : ((byTicket positions row.positionId).map (·.volume)).any (closeVolume · volume) = true
    · rw [if_pos hsame]
      exact onError_ok () q
    · rw [if_neg hsame]
      refine wp_bind_onError (wp_ask_uncaught rfl q) fun history q' => ?_
      split
      · exact wp_unconfirmed notify row q'
      · rename_i f hf
        rw [if_neg (closedVolume_ne_zero (hrow volume hvolume) hsame hf)]
        exact wp_tryExcept_onError (wp_settle _ _ _ _ _ q') (wp_halt _)

theorem wp_closeRows (notify : Bool) (positions : List Mt5Position) (now : Int) (currency : String)
    {rows : List PositionLedgerEntry} (hrows : ∀ row ∈ rows, ∀ volume, row.volume = some volume → volumeTol < volume)
    (q : Bool) : wp haltProtocol (closeRows notify positions now currency rows) q (OnError fun _ => True) := by
  induction rows generalizing q with
  | nil => exact onError_ok () q
  | cons row rows ih =>
    rw [List.forall_mem_cons] at hrows
    exact wp_bind_onError (wp_closeRow notify positions now currency hrows.1 q) fun _ q' => ih hrows.2 q'

end CloseMonitor

/-! ## The whole pass -/

section Pass

variable {sc : CloseScene} {w w' : CloseWorld}

/-- A marked phase is a halt that is recorded, or a mishap. -/
def Marked (q : Bool) (w : CloseWorld) : Prop := q = true → w.halt.isSome = true ∨ w.mishap = true

theorem exec_marked {q : Bool} {r : CloseReq} {ans : Except PyExc r.Ans} (hq : Marked q w)
    (h : CloseExec sc w r ans w') : Marked (q || r.marks ans) w' := by
  intro hmark
  rw [Bool.or_eq_true] at hmark
  cases h with
  | free r a hr =>
    refine hq (hmark.resolve_right fun hmark => ?_)
    cases r <;> first | exact Bool.false_ne_true hmark | cases hr
  | notConnected => exact .inr rfl
  | halted reason => exact .inl rfl
  | haltRead => exact hmark.elim hq .inl
  | ledgerRaised op _ =>
    rcases hmark with hmark | hmark
    · exact (hq hmark).imp_right fun hm => by simp [CloseWorld.raised, hm]
    · refine .inr ?_
      change (w.mishap || !_ || !_) = true
      rw [Bool.or_assoc]
      exact Bool.or_eq_true _ _ ▸ .inr hmark
  | raised r e _ =>
    rcases hmark with hmark | hmark
    · exact (hq hmark).imp_right fun hm => by simp [CloseWorld.raised, hm]
    · refine .inr ?_
      change (w.mishap || !_ || !_) = true
      rw [Bool.or_assoc]
      refine Bool.or_eq_true _ _ ▸ .inr ?_
      cases r <;> first | exact hmark | exact Bool.or_true _
  | _ => exact hq (hmark.resolve_right fun hmark => by cases hmark)

def Stopped (out : Except PyExc Unit) (w : CloseWorld) : Prop :=
  (∃ e, out = .error e) ∧ (w.halt.isSome = true ∨ w.mishap = true)

theorem ask_error_stopped {r : CloseReq} {e : PyExc} (hr : r.caught = false)
    (h : Ends (CloseExec sc) (ask r) w (.error e) w') : w'.mishap = true := by
  cases ends_perform.1 h with
  | ledgerRaised _ _ => cases hr
  | raised r e _ =>
    change (w.mishap || !_ || !r.caught) = true
    rw [hr]
    exact Bool.or_true _

theorem halt_stopped {reason : String} {out : Except PyExc Unit}
    (h : Ends (CloseExec sc) (halt reason) w out w') : Stopped out w' := by
  rcases ends_bind.1 h with ⟨_, w₁, hask, hfail⟩ | ⟨e, rfl, hask⟩
  · obtain ⟨rfl, rfl⟩ := ends_raise.1 hfail
    refine ⟨⟨_, rfl⟩, .inl ?_⟩
    cases ends_perform.1 hask with
    | free _ _ hr => cases hr
    | halted => rfl
  · exact ⟨⟨e, rfl⟩, .inr (ask_error_stopped rfl hask)⟩

variable [CaseMap] {notify : Bool}

theorem reconcilePass_cases {currency : String} {out : Except PyExc Unit}
    (h : Ends (CloseExec sc) (reconcilePass notify currency) w out w') :
    Stopped out w' ∨ ∃ rows, w.ledger.openEntries "weltrade" = .ok rows ∧
      Ends (CloseExec sc) (do closeRows notify sc.positions sc.now currency rows; finishPass notify) w out w' := by
  rcases ends_bind.1 h with ⟨positions?, w₁, hask, h⟩ | ⟨e, rfl, hask⟩
  · cases ends_perform.1 hask with
    | free _ _ hr => cases hr
    | noPositions => exact .inl (halt_stopped h)
    | positions =>
      rcases ends_bind.1 h with ⟨now, w₁, hask, h⟩ | ⟨e, rfl, hask⟩
      · cases ends_perform.1 hask with
        | free _ _ hr => cases hr
        | now =>
          rcases ends_bind.1 h with ⟨rows, w₁, hask, h⟩ | ⟨e, rfl, hask⟩
          · cases ends_perform.1 hask with
            | free _ _ hr => cases hr
            | openEntries hrows => exact .inr ⟨rows, hrows, h⟩
          · exact .inl ⟨⟨e, rfl⟩, .inr (ask_error_stopped rfl hask)⟩
      · exact .inl ⟨⟨e, rfl⟩, .inr (ask_error_stopped rfl hask)⟩
  · exact .inl ⟨⟨e, rfl⟩, .inr (ask_error_stopped rfl hask)⟩

theorem pass_cases {out : Except PyExc Unit} (h : Ends (CloseExec sc) (monitorWeltradeCloses notify) w out w') :
    Stopped out w' ∨ ∃ currency rows, w.ledger.openEntries "weltrade" = .ok rows ∧
      Ends (CloseExec sc) (do closeRows notify sc.positions sc.now currency rows; finishPass notify) w out w' := by
  rcases ends_bind.1 h with ⟨connected, w₁, hask, h⟩ | ⟨e, rfl, hask⟩
  · obtain ⟨mid, w₂, hbody, hfinally⟩ := ends_bindAny.1 h
    obtain ⟨fin, w₃, hshutdown, hend⟩ := ends_bindAny.1 hfinally
    cases connected with
    | false =>
      obtain ⟨rfl, rfl⟩ := ends_raise.1 hbody
      obtain ⟨rfl, rfl⟩ := ends_pure.1 hshutdown
      obtain ⟨rfl, rfl⟩ := ends_raise.1 hend
      refine .inl ⟨⟨_, rfl⟩, .inr ?_⟩
      cases ends_perform.1 hask with
      | free _ _ hr => cases hr
      | notConnected => rfl
    | true =>
      have hw₁ : w₁ = w := by
        cases ends_perform.1 hask with
        | free _ _ hr => cases hr
        | connected => rfl
      subst hw₁
      cases fin with
      | error e =>
        obtain ⟨rfl, rfl⟩ := ends_raise.1 hend
        exact .inl ⟨⟨e, rfl⟩, .inr (ask_error_stopped rfl hshutdown)⟩
      | ok _ =>
        obtain ⟨rfl, rfl⟩ := ends_ofExcept.1 hend
        have hw' : w' = w₂ := by
          cases ends_perform.1 hshutdown with
          | free _ _ _ => rfl
        subst hw'
        rcases ends_bind.1 hbody with ⟨currency, w₃, hask, hsession⟩ | ⟨e, rfl, hask⟩
        · have hw₃ : w₃ = w₁ := by
            cases ends_perform.1 hask with
            | free _ _ _ => rfl
          subst hw₃
          rcases reconcilePass_cases hsession with hstopped | ⟨rows, hrows, hpass⟩
          · exact .inl hstopped
          · exact .inr ⟨currency, rows, hrows, hpass⟩
        · exact .inl ⟨⟨e, rfl⟩, .inr (ask_error_stopped rfl hask)⟩
  · exact .inl ⟨⟨e, rfl⟩, .inr (ask_error_stopped rfl hask)⟩

end Pass

end Jqe
