import Jqe.MainRun
import Jqe.ExecPhase
/-!
# CapPhase — the turn of a cycle at the daily guard

`DailyInstrumentTradeGuard`: one counter for each account scope, instrument and UTC day in a file that processes share.
`consume` is one transaction on the file; what it returns is read again after the commit.

At most one start of a cycle is counted, under the reservation and before the claim (`MainRun.run_capped`).
-/
namespace Jqe

/-- **`daily_instrument_trade_counter`**: a missing row counts nothing. -/
structure GuardFile where
  starts : String × String → Int → Nat

namespace GuardFile

def empty : GuardFile := ⟨fun _ _ => 0⟩

def put (f : GuardFile) (key : String × String) (day : Int) (count : Nat) : GuardFile :=
  ⟨fun k d => if k = key ∧ d = day then count else f.starts k d⟩

@[simp] theorem put_self (f : GuardFile) (key : String × String) (day : Int) (count : Nat) :
    (f.put key day count).starts key day = count := if_pos ⟨rfl, rfl⟩

theorem put_of_ne (f : GuardFile) {key k : String × String} {day d : Int} (count : Nat) (h : ¬(k = key ∧ d = day)) :
    (f.put key day count).starts k d = f.starts k d := if_neg h

variable [CaseMap]

def key (scope instrument : String) : String × String := (strip scope, normalizeSymbol instrument)

def key? (scope instrument : String) : Except PyExc (String × String) :=
  if blank scope then .error (.exception "Account scope must be nonblank")
  else if blank instrument then .error (.exception "Instrument must be nonblank")
  else .ok (key scope instrument)

def consume (limit : Nat) (scope instrument : String) (now : Int) (f : GuardFile) : Except PyExc GuardFile := do
  let k ← key? scope instrument
  if limit ≤ f.starts k (utcDay now) then .error dailyInstrumentCapReached
  else return f.put k (utcDay now) (f.starts k (utcDay now) + 1)

variable {limit : Nat} {scope instrument : String} {now : Int} {f f' : GuardFile}

theorem key?_ok {k : String × String} (h : key? scope instrument = .ok k) : k = key scope instrument := by
  unfold key? at h
  split at h
  · cases h
  · split at h
    · cases h
    · exact (Except.ok.inj h).symm

/-- **What `consume` commits**: one start more, where there was room. -/
theorem consume_ok (h : consume limit scope instrument now f = .ok f') :
    f.starts (key scope instrument) (utcDay now) < limit ∧
      f' = f.put (key scope instrument) (utcDay now) (f.starts (key scope instrument) (utcDay now) + 1) := by
  obtain ⟨k, hk, h⟩ := bind_ok h
  rw [key?_ok hk] at h
  by_cases hle : limit ≤ f.starts (key scope instrument) (utcDay now)
  · rw [if_pos hle] at h
    cases h
  · rw [if_neg hle] at h
    exact ⟨by omega, (Except.ok.inj h).symm⟩

end GuardFile

end Jqe

namespace Jqe

open Coro Prog

/-- **What a request means for the daily cap.** -/
inductive CapAct where
  | acquire (scope owner : String)
  | release (scope owner : String)
  | consume (key : String × String)
  | claim
  | order (symbol : String)
  | other
  deriving DecidableEq

inductive CapMark where
  | fresh
  | refused
  | passed (key : String × String)
  | claimed (key : String × String)
  | sent (key : String × String)
  deriving DecidableEq

structure CapPhase where
  held : Option (String × String)
  mark : CapMark
  deriving DecidableEq

def ExecReq.act : ExecReq → CapAct
  | .store (.acquireReservation scope owner _ _) => .acquire scope owner
  | .store (.releaseReservation scope owner) => .release scope owner
  | .store (.tryClaimUnderReservation ..) | .store (.tryClaim _) => .claim
  | .submitOrder order => .order order.symbol
  | _ => .other

def ExecReq.went : (r : ExecReq) → Except PyExc r.Ans → Bool
  | .store (.acquireReservation ..), .ok answer => answer == .acquired
  | .store (.tryClaimUnderReservation ..), .ok answer | .store (.tryClaim _), .ok answer => answer == .claimed
  | _, .ok _ => true
  | _, .error _ => false

def RunReq.went : (r : RunReq) → Except PyExc r.Ans → Bool
  | .exec _ _ r, ans => r.went ans
  | _, .ok _ => true
  | _, .error _ => false

namespace CapPhase

def start : CapPhase := ⟨none, .fresh⟩

def next (φ : CapPhase) : CapAct → Bool → CapPhase
  | .acquire scope owner, true => { φ with held := some (scope, owner) }
  | .release _ _, _ => { φ with held := none }
  | .consume key, true => { φ with mark := .passed key }
  | .consume _, false => { φ with mark := .refused }
  | .claim, _ =>
    match φ.mark with
    | .passed key => { φ with mark := .claimed key }
    | _ => φ
  | .order _, _ =>
    match φ.mark with
    | .claimed key => { φ with mark := .sent key }
    | _ => φ
  | _, _ => φ

variable [CaseMap]

def Allows (φ : CapPhase) : CapAct → Prop
  | .acquire _ _ => φ.mark = .fresh ∧ φ.held = none
  | .release scope owner => φ.held = some (scope, owner)
  | .consume _ => φ.mark = .fresh ∧ φ.held.isSome
  | .claim => ∃ key, φ.mark = .passed key
  | .order symbol => ∃ key, φ.mark = .claimed key ∧ key.2 = normalizeSymbol symbol
  | .other => True

end CapPhase

variable [CaseMap]

def RunReq.act : RunReq → CapAct
  | .consume scope instrument => .consume (GuardFile.key scope instrument)
  | .exec _ _ r => r.act
  | _ => .other

def capProtocol : Protocol RunReq RunReq.Ans PyExc CapPhase where
  allows φ r := φ.Allows r.act
  next φ r ans := φ.next r.act (r.went ans)

/-! ## The executor, with its callback as the start -/

/-- What a request of the executor means in a cycle whose start is counted under a key. -/
def ExecReq.actIn (key : String × String) : ExecReq → CapAct
  | .beforeSubmit _ => .consume key
  | r => r.act

def turnProtocol (key : String × String) : Protocol ExecReq ExecReq.Ans PyExc CapPhase where
  allows φ r := φ.Allows (r.actIn key)
  next φ r ans := φ.next (r.actIn key) (r.went ans)

def ExecReq.Neutral (r : ExecReq) : Prop := ∀ key, r.actIn key = .other

namespace AsyncTradeExecutor

variable {c : SubmitCall} {key : String × String} {φ : CapPhase}

omit [CaseMap] in
theorem makes_attempt {α : Type} {C : ExecReq → Prop} {p : ExecProg α} (hp : p.Makes C) : (attempt p).Makes C := by
  refine makes_tryCatch (makes_bind hp fun a => makes_pure _) fun e => ?_
  split
  · exact makes_pure _
  · exact trivial

omit [CaseMap] in
theorem neutral_ask {r : ExecReq} (h : r.Neutral) : (ask r).Makes ExecReq.Neutral := makes_perform h

omit [CaseMap] in
theorem neutral_transition (c : SubmitCall) (status : IntentRecordStatus) (a b : Option String) :
    (transition_ c status a b).Makes ExecReq.Neutral :=
  makes_bind (makes_attempt (neutral_ask fun _ => rfl)) fun _ => makes_pure _

theorem neutral_reconcile (c : SubmitCall) (positions : Option (List PositionItem)) :
    (reconcile c positions).Makes ExecReq.Neutral := by
  have recorded : ∀ record, (reconcileRecord c record).Makes ExecReq.Neutral := by
    intro record
    unfold reconcileRecord
    split
    · exact makes_pure _
    · refine makes_bind (neutral_ask fun _ => rfl) fun evidence => ?_
      split
      · refine makes_bind (neutral_transition ..) fun moved => ?_
        split <;> exact makes_pure _
      · split
        · refine makes_bind (neutral_transition ..) fun moved => ?_
          split <;> exact makes_pure _
        · exact makes_pure _
  refine makes_bind (makes_attempt (neutral_ask fun _ => rfl)) fun answer => ?_
  cases answer with
  | none => exact makes_pure _
  | some record =>
    dsimp only
    unfold reconcileWith
    split
    · exact makes_pure _
    · split
      · exact makes_pure _
      · cases positions
        case' none => refine makes_bind (makes_attempt (neutral_ask fun _ => rfl)) fun observed => ?_
        case' some items => refine makes_bind (makes_pure _) fun observed => ?_
        all_goals
          dsimp only
          split
          · exact makes_pure _
          · split
            · exact makes_pure _
            · split
              · split
                · exact makes_pure _
                · split <;> exact makes_pure _
              · exact recorded _

omit [CaseMap] in
theorem neutral_settle (decision : ExecutionDecision) (out : Except PyExc OrderResult) :
    (settle c decision out).Makes ExecReq.Neutral := by
  unfold settle
  split
  · refine makes_bind (neutral_transition ..) fun moved => ?_
    split <;> exact makes_pure _
  · exact trivial
  · exact makes_bind (neutral_transition ..) fun _ => makes_pure _
  · refine makes_bind (neutral_transition ..) fun moved => ?_
    split <;> exact makes_pure _

theorem wp_neutral {α : Type} {p : ExecProg α} (hp : p.Makes ExecReq.Neutral) :
    wp (turnProtocol key) p φ fun _ φ' => φ' = φ := by
  refine wp_of_makes (fun r hr => ?_) hp
  have hact : r.actIn key = .other := hr key
  refine ⟨?_, fun ans => ?_⟩
  · change φ.Allows (r.actIn key)
    rw [hact]
    trivial
  · change φ.next (r.actIn key) _ = φ
    rw [hact]
    rfl

theorem wp_neutral_bind {α β : Type} {p : ExecProg α} {f : α → ExecProg β} {post : Except PyExc β → CapPhase → Prop}
    (hp : p.Makes ExecReq.Neutral) (herr : ∀ e, post (.error e) φ) (hok : ∀ a, wp (turnProtocol key) (f a) φ post) :
    wp (turnProtocol key) (p >>= f) φ post := by
  rw [wp_bind]
  refine wp_mono (fun out φ' heq => ?_) _ _ (wp_neutral hp)
  subst heq
  cases out with
  | ok a => exact hok a
  | error e => exact herr e

theorem turn_claimed (decision : ExecutionDecision) (hmark : φ.mark = .claimed key)
    (hkey : key.2 = normalizeSymbol c.intent.symbol) :
    wp (turnProtocol key) (submitClaimed c decision) φ fun _ φ' => φ'.held = φ.held := by
  unfold submitClaimed
  split
  · rename_i order horder
    have hsymbol : normalizeSymbol order.symbol = normalizeSymbol c.intent.symbol := by
      rw [(SubmitCall.order?_eq_some horder).1, normalizeSymbol_strip]
    have settled : ∀ {φ'} out, φ'.held = φ.held →
        wp (turnProtocol key) (settle c decision out) φ' fun _ φ'' => φ''.held = φ.held := fun out hφ' =>
      wp_mono (fun _ _ heq => heq ▸ hφ') _ _ (wp_neutral (neutral_settle decision out))
    rw [wp_bindAny]
    unfold sendOrder
    rw [wp_bind]
    refine (wp_perform _ _ _).2 ⟨⟨key, hmark, hkey.trans hsymbol.symm⟩, fun ans => ?_⟩
    have hheld : ((turnProtocol key).next φ (.submitOrder order) ans).held = φ.held := by
      change (φ.next (.order order.symbol) (ExecReq.went _ ans)).held = φ.held
      unfold CapPhase.next
      rw [hmark]
    cases ans with
    | error e => exact settled _ hheld
    | ok _ =>
      refine wp_neutral_bind (neutral_ask fun _ => rfl) (fun e => settled _ hheld) fun answer => ?_
      exact (wp_ofExcept _ _ _).2 (settled _ hheld)
  · exact rfl

theorem turn_claim (context : Option ExecutionContext) (scope owner : String) (decision : ExecutionDecision)
    (hmark : φ.mark = .passed key) (hkey : key.2 = normalizeSymbol c.intent.symbol) :
    wp (turnProtocol key) (submitClaim c context scope owner decision) φ fun _ φ' => φ'.held = φ.held := by
  have kept : ∀ {α : Type} {p : ExecProg α} {φ' : CapPhase}, p.Makes ExecReq.Neutral → φ'.held = φ.held →
      wp (turnProtocol key) p φ' fun _ φ'' => φ''.held = φ.held := fun hp hφ' =>
    wp_mono (fun _ _ heq => heq ▸ hφ') _ _ (wp_neutral hp)
  unfold submitClaim
  rw [wp_bind, wp_attempt]
  unfold claim
  rw [wp_bind, wp_ofExcept]
  cases IntentRecord.fromExecutionIntent c.intent .pending (context.bind (·.broker)) (some scope) with
  | error e =>
    dsimp only
    split <;> exact rfl
  | ok record =>
    refine (wp_perform _ _ _).2 ⟨⟨key, hmark⟩, fun ans => ?_⟩
    have hnext : (turnProtocol key).next φ (.store (.tryClaimUnderReservation record scope owner)) ans =
        { φ with mark := .claimed key } := by
      change φ.next .claim (ExecReq.went _ ans) = _
      unfold CapPhase.next
      rw [hmark]
    rw [hnext]
    cases ans with
    | error e =>
      dsimp only
      split <;> exact rfl
    | ok state =>
      dsimp only
      split
      · exact kept (makes_bind (neutral_reconcile c none) fun _ => makes_pure _) rfl
      · exact turn_claimed decision rfl hkey

theorem turn_judged (context : Option ExecutionContext) (scope owner : String) (positions : Option (List PositionItem))
    (hb : c.hasBeforeSubmit = true) (hmark : φ.mark = .fresh) (hheld : φ.held.isSome)
    (hkey : key.2 = normalizeSymbol c.intent.symbol) :
    wp (turnProtocol key) (submitJudged c context scope owner positions) φ fun _ φ' => φ'.held = φ.held := by
  unfold submitJudged
  dsimp only
  split
  · exact rfl
  · refine wp_neutral_bind (neutral_reconcile c positions) (fun e => rfl) fun reconciliation => ?_
    split
    · exact rfl
    · rw [wp_bind]
      refine (wp_perform _ _ _).2 ⟨⟨hmark, hheld⟩, fun ans => ?_⟩
      cases ans with
      | error e => exact rfl
      | ok _ => exact turn_claim context scope owner _ rfl hkey

theorem turn_held (owner : String) (hb : c.hasBeforeSubmit = true) (hmark : φ.mark = .fresh) (hheld : φ.held.isSome)
    (hkey : key.2 = normalizeSymbol c.intent.symbol) :
    wp (turnProtocol key) (submitHeld c owner) φ fun _ φ' => φ'.held = φ.held := by
  have hrefreshed : (refreshedContext c).Makes ExecReq.Neutral := by
    unfold refreshedContext
    split
    · exact makes_bind (makes_attempt (neutral_ask fun _ => rfl)) fun _ => makes_pure _
    · exact makes_pure _
  unfold submitHeld submitReserved
  refine wp_neutral_bind hrefreshed (fun e => rfl) fun context => ?_
  rw [wp_bind]
  refine wp_neutral_bind (makes_attempt (neutral_ask fun _ => rfl)) (fun e => rfl) fun positions => ?_
  refine wp_mono (fun out φ' hφ' => ?_) _ _ (turn_judged context c.scope owner positions hb hmark hheld hkey)
  cases out with
  | error e => exact hφ'
  | ok result =>
    dsimp only
    split
    · exact wp_neutral_bind (neutral_ask fun _ => rfl) (fun e => hφ') fun _ => hφ'
    · exact hφ'

theorem submit_turn (hb : c.hasBeforeSubmit = true) (hkey : key.2 = normalizeSymbol c.intent.symbol) :
    wp (turnProtocol key) (submit c) .start fun _ φ => φ.held = none := by
  unfold submit
  split
  · exact rfl
  · refine wp_neutral_bind (neutral_ask fun _ => rfl) (fun e => rfl) fun owner => ?_
    rw [wp_bind, wp_attempt]
    refine (wp_perform _ _ _).2 ⟨⟨rfl, rfl⟩, fun ans => ?_⟩
    cases ans with
    | error e =>
      dsimp only
      split <;> exact rfl
    | ok state =>
      cases state with
      | acquired =>
        refine (wp_finallyDo _ _ _ _).2 (wp_mono (fun out φ' hφ' => ?_) _ _ (turn_held owner hb rfl rfl hkey))
        refine (wp_perform _ _ _).2 ⟨hφ', fun ans => ?_⟩
        cases ans <;> exact rfl
      | _ => exact rfl

end AsyncTradeExecutor

/-! ## The cycle -/

def RunReq.Plain (r : RunReq) : Prop := r.act = .other

namespace MainRun

theorem plain_ask {r : RunReq} (h : r.act = .other) : (ask r).Makes RunReq.Plain := makes_perform h

theorem wp_plain_end {α : Type} {φ : CapPhase} {p : RunProg α} (hp : p.Makes RunReq.Plain) :
    wp capProtocol p φ fun _ φ' => φ' = φ := by
  refine wp_of_makes (fun r hr => ?_) hp
  have hact : r.act = .other := hr
  refine ⟨?_, fun ans => ?_⟩
  · change φ.Allows r.act
    rw [hact]
    trivial
  · change φ.next r.act _ = φ
    rw [hact]
    rfl

theorem wp_plainly {α β : Type} {φ : CapPhase} {p : RunProg α} {f : α → RunProg β}
    {post : Except PyExc β → CapPhase → Prop} (hp : p.Makes RunReq.Plain) (herr : ∀ e, post (.error e) φ)
    (hok : ∀ a, wp capProtocol (f a) φ post) : wp capProtocol (p >>= f) φ post := by
  rw [wp_bind]
  refine wp_mono (fun out φ' heq => ?_) _ _ (wp_plain_end hp)
  subst heq
  cases out with
  | ok a => exact hok a
  | error e => exact herr e

theorem plain_readDaily (account : AccountInfo) : (readDaily account).Makes RunReq.Plain := by
  refine makes_bind (plain_ask rfl) fun endAt => makes_bind (plain_ask rfl) fun history => ?_
  exact makes_bind (plain_ask rfl) fun today => makes_bind (makes_ofExcept _) fun daily => makes_pure _

theorem plain_startup (s : CycleSettings) : (startup s).Makes RunReq.Plain := by
  have rest : ∀ account : AccountInfo, (do
      ask .recover
      let unresolved ← ask .listUnresolved
      if unresolved ≠ 0 then
        ask (.publish (.safety "UNRESOLVED_DURABLE_INTENT"))
        fail "New durable execution blocked after startup recovery: unresolved persisted intents remain"
      else return account : RunProg AccountInfo).Makes RunReq.Plain := by
    intro account
    refine makes_bind (plain_ask rfl) fun _ => makes_bind (plain_ask rfl) fun unresolved => ?_
    split
    · exact makes_bind (plain_ask rfl) fun _ => trivial
    · exact makes_pure _
  refine makes_bind (plain_ask rfl) fun account => ?_
  split
  · exact trivial
  · split
    · refine makes_bind (plain_ask rfl) fun halt => ?_
      dsimp only
      split
      · exact trivial
      · exact rest account
    · exact rest account

theorem plain_closedBars (s : CycleSettings) : (closedBars s).Makes RunReq.Plain := by
  refine makes_bind (plain_ask rfl) fun bars => ?_
  split
  · exact trivial
  · exact makes_pure _

theorem plain_submitted (s : CycleSettings) (p : PlannedOrder) (result : ExecutionResult) :
    (submitted s p result).Makes RunReq.Plain := by
  refine makes_bind (plain_ask rfl) fun _ => ?_
  split
  · split
    · exact trivial
    · exact makes_bind (plain_ask rfl) fun _ => makes_pure _
  · exact makes_pure _

variable {s : CycleSettings} {account : AccountInfo} {context : ExecutionContext} {p : PlannedOrder} {c : SubmitCall}

theorem plain_execOver {r : ExecReq} (h : r.Neutral) : (execOver s account context p c r).Makes RunReq.Plain := by
  cases r with
  | contextProvider => exact makes_bind (plain_ask rfl) fun account => makes_bind (plain_readDaily account) fun _ => makes_pure _
  | beforeSubmit d => cases h ("", "")
  | afterSubmit result => exact plain_ask rfl
  | _ => exact plain_ask (h ("", ""))

theorem plain_recovered (existing : IntentRecord) :
    (recovered s account context p c existing).Makes RunReq.Plain := by
  refine makes_bind (makes_interpret (AsyncTradeExecutor.neutral_reconcile c none) fun r hr => plain_execOver hr)
    fun result => ?_
  dsimp only
  cases existing.orderId.filter (· ≠ "") with
  | none => exact makes_pure _
  | some orderId =>
    dsimp only
    by_cases hobserve : s.activeBroker = "weltrade" ∧ result.state = .alreadyExecuted
    · rw [if_pos hobserve]
      exact makes_bind (plain_ask rfl) fun _ => makes_pure _
    · rw [if_neg hobserve]
      exact makes_pure _

/-- The phase of the cycle is the executor's, but for a start that was counted before the callback raised. -/
def CapPhase.Beside (key : String × String) (q φ : CapPhase) : Prop :=
  φ = q ∨ q.mark = .refused ∧ φ = ⟨q.held, .passed key⟩

theorem CapPhase.Beside.next {key : String × String} {q φ : CapPhase} (h : Beside key q φ) {a : CapAct}
    (ha : q.Allows a) (hc : ∀ k, a ≠ .consume k) : φ.Allows a ∧ ∀ went, Beside key (q.next a went) (φ.next a went) := by
  rcases h with rfl | ⟨hmark, rfl⟩
  · exact ⟨ha, fun _ => .inl rfl⟩
  · cases a with
    | acquire scope owner =>
      rw [ha.1] at hmark
      cases hmark
    | release scope owner => exact ⟨ha, fun _ => .inr ⟨hmark, rfl⟩⟩
    | consume k => exact absurd rfl (hc k)
    | claim =>
      obtain ⟨k, hk⟩ := ha
      rw [hk] at hmark
      cases hmark
    | order symbol =>
      obtain ⟨k, hk, _⟩ := ha
      rw [hk] at hmark
      cases hmark
    | other => exact ⟨trivial, fun _ => .inr ⟨hmark, rfl⟩⟩

/-- **Each request of the executor, as the cycle makes it**: its callback is the start. -/
theorem beside_execOver (context : ExecutionContext) (p : PlannedOrder) {key : String × String}
    (hkey : key = GuardFile.key (scope s account) c.intent.symbol)
    (r : ExecReq) (q φ : CapPhase) (hR : CapPhase.Beside key q φ) (ha : (turnProtocol key).allows q r) :
    wp capProtocol (execOver s account context p c r) φ fun ans φ' =>
      CapPhase.Beside key ((turnProtocol key).next q r ans) φ' := by
  have asked : (∀ d, r ≠ .beforeSubmit d) → wp capProtocol (ask (.exec p c r)) φ fun ans φ' =>
      CapPhase.Beside key ((turnProtocol key).next q r ans) φ' := by
    intro hr
    have hact : r.actIn key = r.act := by
      cases r with
      | beforeSubmit d => exact absurd rfl (hr d)
      | _ => rfl
    have hc : ∀ k, r.act ≠ .consume k := by
      intro k
      cases r with
      | store op => cases op <;> exact nofun
      | _ => exact nofun
    change q.Allows (r.actIn key) at ha
    rw [hact] at ha
    obtain ⟨hallows, hnext⟩ := hR.next ha hc
    refine (wp_perform _ _ _).2 ⟨hallows, fun ans => ?_⟩
    change CapPhase.Beside key (q.next (r.actIn key) (r.went ans)) (φ.next r.act (r.went ans))
    rw [hact]
    exact hnext _
  have plainly : r.Neutral → wp capProtocol (execOver s account context p c r) φ fun ans φ' =>
      CapPhase.Beside key ((turnProtocol key).next q r ans) φ' := by
    intro hr
    refine wp_mono (fun ans φ' heq => ?_) _ _ (wp_plain_end (plain_execOver hr))
    have hsame : (turnProtocol key).next q r ans = q := by
      change q.next (r.actIn key) (r.went ans) = q
      rw [hr key]
      rfl
    rw [hsame, heq]
    exact hR
  cases r with
  | contextProvider => exact plainly fun _ => rfl
  | afterSubmit result => exact plainly fun _ => rfl
  | beforeSubmit decision =>
    obtain ⟨hmark, hheld⟩ := ha
    -- the cycle has not been refused, so that its phase is the executor's
    obtain rfl : φ = q := by
      rcases hR with rfl | ⟨hrefused, _⟩
      · rfl
      · rw [hmark] at hrefused
        cases hrefused
    unfold execOver
    rw [wp_bind]
    refine (wp_perform _ _ _).2 ⟨⟨hmark, hheld⟩, fun ans => ?_⟩
    cases ans with
    | error e =>
      left
      rfl
    | ok _ =>
      refine (wp_perform _ _ _).2 ⟨trivial, fun ans => ?_⟩
      cases ans with
      | error e => exact .inr ⟨rfl, by rw [hkey]; rfl⟩
      | ok _ => exact .inl (by rw [hkey]; rfl)
  | _ => exact asked fun d h => by cases h

theorem capped_submission (hb : c.hasBeforeSubmit = true) :
    wp capProtocol (submission s account context p c) .start fun _ φ => φ.held = none := by
  unfold submission
  rw [wp_bindAny]
  refine wp_mono (fun out φ h => ?_) _ _
    (wp_interpret (beside_execOver context p rfl) _ .start .start (.inl rfl)
      (AsyncTradeExecutor.submit_turn hb rfl))
  have hheld : φ.held = none := by
    obtain ⟨q, rfl | ⟨_, rfl⟩, hq⟩ := h
    · exact hq
    · exact hq
  have ended : ∀ {α : Type} {p : RunProg α}, p.Makes RunReq.Plain → wp capProtocol p φ fun _ φ' => φ'.held = none :=
    fun hp => wp_mono (fun _ _ heq => heq ▸ hheld) _ _ (wp_plain_end hp)
  cases out with
  | ok result => exact ended (plain_submitted s p result)
  | error e =>
    dsimp only
    split
    · exact ended (makes_bind (plain_ask rfl) fun _ => makes_pure _)
    · exact hheld

theorem capped_trade (d : DailyState) (a : Analysis) (latest : ClosedBar) :
    wp capProtocol (trade s d a latest) .start fun _ φ => φ.held = none := by
  have ended : ∀ {α : Type} {p : RunProg α}, p.Makes RunReq.Plain →
      wp capProtocol p .start fun _ φ => φ.held = none :=
    fun hp => wp_mono (fun _ _ heq => heq ▸ rfl) _ _ (wp_plain_end hp)
  unfold trade
  dsimp only
  split
  · exact ended (makes_bind (plain_ask rfl) fun _ => makes_pure _)
  · split
    · exact rfl
    · split
      · exact ended (makes_bind (plain_ask rfl) fun _ => makes_pure _)
      · unfold execute
        refine wp_plainly (plain_ask rfl) (fun e => rfl) fun sizing => ?_
        refine wp_plainly (plain_ask rfl) (fun e => rfl) fun _ => ?_
        split
        · exact rfl
        · refine wp_plainly (plain_ask rfl) (fun e => rfl) fun existing => ?_
          refine wp_plainly (plain_ask rfl) (fun e => rfl) fun items => ?_
          split
          · exact rfl
          · split
            · exact ended (plain_recovered _)
            · dsimp only
              generalize hc : submitCall s _ sizing _ = c
              have hb : c.hasBeforeSubmit = true := by
                rw [← hc]
                rfl
              exact capped_submission hb

/-- **A cycle keeps to its turn at the daily guard.** -/
theorem run_capped (s : CycleSettings) : wp capProtocol (run s) .start fun _ φ => φ.held = none := by
  unfold run
  refine wp_plainly (plain_ask rfl) (fun e => rfl) fun _ => ?_
  refine wp_plainly (plain_ask rfl) (fun e => rfl) fun _ => ?_
  refine wp_plainly (plain_startup s) (fun e => rfl) fun account => ?_
  refine wp_plainly (plain_closedBars s) (fun e => rfl) fun bars => ?_
  refine wp_plainly (makes_ofExcept _) (fun e => rfl) fun analysis => ?_
  refine wp_plainly (plain_ask rfl) (fun e => rfl) fun _ => ?_
  refine wp_plainly (plain_readDaily account) (fun e => rfl) fun daily => ?_
  split
  · exact rfl
  · exact capped_trade daily analysis _

end MainRun

end Jqe
