import Jqe.DerivLink
/-!
# DerivLinkSound — when connected means served

The flag is set by `connect` after its last await and cleared by the end of any reader.  It stands for a session that is
served exactly in the runs whose steps are harmless.
-/
namespace Jqe

open Function (update update_idem update_of_ne update_self)
namespace DerivLink

variable {cfg : LinkConfig} {s s' : DerivLink} {move : LinkMove} {k r : ℕ}

/-! ### What connected stands for -/

/-- A task reads the socket, or will once it starts. -/
def Alive (s : DerivLink) (reader socket : ℕ) : Prop := s.readers reader = .created ∨ s.readers reader = .running socket

/-- **The session is whole**: a reader of the connection, and the account that was reported on it. -/
def Whole (cfg : LinkConfig) (s : DerivLink) : Prop :=
  (∃ socket reader, s.connection = some socket ∧ s.Alive reader socket ∧ s.reported socket = s.accountId) ∧
    s.accountId ≠ none ∧ (cfg.auth = true → s.identity = s.accountId)

def Others (s : DerivLink) (k : ℕ) : Prop := ∀ j, j ≠ k → (s.calls j).connecting = false

/-- **Connected means served**, outside `connect`. -/
def Served (cfg : LinkConfig) (s : DerivLink) : Prop :=
  s.connected = true → (∀ j, (s.calls j).connecting = false) → s.Whole cfg

/-- **The end of an earlier reader leaves a newer session.** -/
def KeepsNewer (s : DerivLink) (move : LinkMove) (s' : DerivLink) : Prop :=
  ∀ r o, move = .readerEnds r → s.connected = true → s.owner = some o → r < o →
    s'.connected = true ∧ s'.accountId = s.accountId ∧ s'.identity = s.identity

/-- **The steps that do no harm.** -/
def Harmless (cfg : LinkConfig) (s : DerivLink) : LinkMove → Prop
  | .resumes k =>
    match s.calls k, s.futures k with
    | .waiting _ _, .answered a =>
      -- the flag is set: a reader of the connection is left, and the account is the one reported on it
      a.accepted cfg = true → s.Others k →
        ∃ socket reader, s.connection = some socket ∧ s.Alive reader socket ∧ s.reported socket = a.loginid.map strip
    | .waiting _ _, .failed => s.connected = true → s.Others k → s.Whole cfg
    | _, _ => True
  | .verified k account demo =>
    match s.calls k with
    | .verifying socket =>
      match s.authConnection with
      | none => s.connected = true → ¬s.Others k
      | some current =>
        demo = true → blank account = false → s.Others k → current ≠ socket →
          s.reported current = some (strip account)
    | _ => True
  -- a call of `connect` that raises leaves the flag alone
  | .raises k => s.connected = true → s.Others k → s.Whole cfg
  | .authFails k _ | .closed k => s.connected = true → ¬s.Others k
  -- the flag of a later reader's session is cleared
  | .readerEnds r => ∀ o, s.connected = true → s.owner = some o → ¬r < o
  | _ => True

/-! ### Lemmas on the parts of a step -/

theorem served_of_connecting (h : (s.calls k).connecting = true) : s.Served cfg := by
  intro _ hcalm
  rw [hcalm k] at h
  cases h

theorem served_of_disconnected (h : s.connected = false) : s.Served cfg := by
  intro hconnected
  rw [h] at hconnected
  cases hconnected

theorem keepsNewer_of_ne (h : ∀ r, move ≠ .readerEnds r) : KeepsNewer s move s' := fun r _ hmove => absurd hmove (h r)

@[simp] theorem setCall_calls (phase : CallPhase) : (s.setCall k phase).calls k = phase := update_self _ _ _

@[simp] theorem setCall_connected (phase : CallPhase) : (s.setCall k phase).connected = s.connected := rfl

theorem calm_iff (h : s'.calls = update s.calls k .over) :
    (∀ j, (s'.calls j).connecting = false) ↔ s.Others k := by
  rw [h]
  constructor
  · intro hcalm j hj
    have hcall := hcalm j
    rwa [update_of_ne hj] at hcall
  · intro hothers j
    by_cases hj : j = k
    · rw [hj, update_self]
      rfl
    · rw [update_of_ne hj]
      exact hothers j hj

theorem served_over_iff (h : s'.calls = update s.calls k .over) :
    s'.Served cfg ↔ (s'.connected = true → s.Others k → s'.Whole cfg) := by
  unfold Served
  rw [calm_iff h]

theorem not_whole_of_account (h : s.accountId = none) : ¬s.Whole cfg := fun hwhole => hwhole.2.1 h

theorem served_cleared_iff (h : s'.calls = update s.calls k .over) (hconnected : s'.connected = s.connected)
    (haccount : s'.accountId = none) : s'.Served cfg ↔ (s.connected = true → ¬s.Others k) := by
  rw [served_over_iff h, hconnected]
  exact forall_congr' fun _ => forall_congr' fun _ => iff_of_false (not_whole_of_account haccount) not_false

theorem teardown_eq (phase : CallPhase) : s.teardown cfg k phase = (s.teardownBegins cfg).setCall k phase ∨
    s.teardown cfg k phase = (s.teardownBegins cfg).teardownEnds.setCall k .over := ite_eq_or_eq _ _ _

theorem teardown_connected (phase : CallPhase) : (s.teardown cfg k phase).connected = false := by
  obtain h | h := (teardown_eq phase : s.teardown cfg k phase = _ ∨ s.teardown cfg k phase = _)
  all_goals
    rw [h]
    rfl

/-! ### What a step is -/

/-- The steps with what each takes place on. -/
inductive Stepped (cfg : LinkConfig) (s : DerivLink) : LinkMove → DerivLink → Prop
  | connect : Stepped cfg s .connect (s.connect cfg)
  | opened {k : ℕ} : s.calls k = .opening → Stepped cfg s (.opened k) (s.opened k)
  | sent {k socket reader : ℕ} : s.calls k = .sending socket reader →
    Stepped cfg s (.sent k) (s.setCall k (.waiting socket reader))
  | answered {r k socket reader : ℕ} {a : AuthorizeReply} :
    s.calls k = .sending socket reader ∨ s.calls k = .waiting socket reader → s.readers r = .running socket →
    s.futures k = .pending → Stepped cfg s (.answered r k a) (s.answered k socket a)
  | authorized {k socket reader : ℕ} {a : AuthorizeReply} : s.calls k = .waiting socket reader →
    s.futures k = .answered a → a.accepted cfg = true → Stepped cfg s (.resumes k) (s.authorized k reader a)
  | turnedDown {k socket reader : ℕ} {a : AuthorizeReply} : s.calls k = .waiting socket reader →
    s.futures k = .answered a → a.accepted cfg = false → Stepped cfg s (.resumes k) (s.teardown cfg k .tearing)
  | unanswered {k socket reader : ℕ} : s.calls k = .waiting socket reader → s.futures k = .failed →
    Stepped cfg s (.resumes k) (s.setCall k .over)
  | otpReceived {k : ℕ} : s.calls k = .requestingOtp →
    Stepped cfg s (.otpReceived k) (s.setCall k .openingSession)
  | sessionOpened {k : ℕ} : s.calls k = .openingSession →
    Stepped cfg s (.sessionOpened k)
      ({ s with authConnection := some s.nextSocket, nextSocket := s.nextSocket + 1 }.setCall k (.verifying s.nextSocket))
  | verified {k socket : ℕ} {account : String} {demo : Bool} : s.calls k = .verifying socket →
    Stepped cfg s (.verified k account demo)
      ({ s with reported := update s.reported socket (some (strip account)) }.verified k account demo)
  | authFails {k : ℕ} {state : DerivIdentityState} :
    s.calls k = .requestingOtp ∨ s.calls k = .openingSession ∨ (∃ socket, s.calls k = .verifying socket) →
    Stepped cfg s (.authFails k state) (s.refused k state)
  | raises {k : ℕ} : s.calls k ≠ .over →
    Stepped cfg s (.raises k) ({ s with futures := update s.futures k .failed }.setCall k .over)
  | torn {k : ℕ} : s.calls k = .tearing ∨ s.calls k = .disconnecting →
    Stepped cfg s (.closed k) (s.teardownEnds.setCall k .over)
  | refused {k : ℕ} {state : DerivIdentityState} : s.calls k = .refusing state →
    Stepped cfg s (.closed k) (s.refused k state)
  | disconnect : Stepped cfg s .disconnect ({ s with nextCall := s.nextCall + 1 }.teardown cfg s.nextCall .disconnecting)
  | readerStarts {r : ℕ} : s.readers r = .created →
    Stepped cfg s (.readerStarts r)
      { s with readers := update s.readers r (s.connection.elim .ended .running) }
  | readerEnds {r : ℕ} : (∃ socket, s.readers r = .running socket) ∨ s.readers r = .cancelled →
    Stepped cfg s (.readerEnds r) (s.endReader cfg r)

theorem stepped (hstep : s.step cfg move = some s') : Stepped cfg s move s' := by
  unfold step at hstep
  split at hstep
  · cases hstep
    exact .connect
  · next k =>
    split at hstep
    · next hcall =>
      cases hstep
      exact .opened hcall
    · cases hstep
  · next k =>
    split at hstep
    · next socket reader hcall =>
      cases hstep
      exact .sent hcall
    · cases hstep
  · next r k a =>
    split at hstep
    · next socket reader hcall =>
      split at hstep
      · next h =>
        cases hstep
        exact .answered (.inl hcall) h.1 h.2
      · cases hstep
    · next socket reader hcall =>
      split at hstep
      · next h =>
        cases hstep
        exact .answered (.inr hcall) h.1 h.2
      · cases hstep
    · cases hstep
  · next k =>
    split at hstep
    · next socket reader a hcall hfuture =>
      cases hstep
      split
      · next haccepted => exact .authorized hcall hfuture haccepted
      · next haccepted => exact .turnedDown hcall hfuture (Bool.eq_false_iff.2 haccepted)
    · next socket reader hcall hfuture =>
      cases hstep
      exact .unanswered hcall hfuture
    · cases hstep
  · next k =>
    split at hstep
    · next hcall =>
      cases hstep
      exact .otpReceived hcall
    · cases hstep
  · next k =>
    split at hstep
    · next hcall =>
      cases hstep
      exact .sessionOpened hcall
    · cases hstep
  · next k account demo =>
    split at hstep
    · next socket hcall =>
      cases hstep
      exact .verified hcall
    · cases hstep
  · next k state =>
    split at hstep
    · next hcall =>
      cases hstep
      exact .authFails (.inl hcall)
    · next hcall =>
      cases hstep
      exact .authFails (.inr (.inl hcall))
    · next socket hcall =>
      cases hstep
      exact .authFails (.inr (.inr ⟨socket, hcall⟩))
    · cases hstep
  · next k =>
    split at hstep
    · cases hstep
    · next hcall =>
      cases hstep
      exact .raises hcall
  · next k =>
    split at hstep
    · next hcall =>
      cases hstep
      exact .torn (.inl hcall)
    · next hcall =>
      cases hstep
      exact .torn (.inr hcall)
    · next state hcall =>
      cases hstep
      exact .refused hcall
    · cases hstep
  · cases hstep
    exact .disconnect
  · next r =>
    split at hstep
    · next hreader =>
      cases hstep
      exact .readerStarts hreader
    · cases hstep
  · next r =>
    split at hstep
    · next socket hreader =>
      cases hstep
      exact .readerEnds (.inl ⟨socket, hreader⟩)
    · next hreader =>
      cases hstep
      exact .readerEnds (.inr hreader)
    · cases hstep

/-! ### The two ways to connect -/

def fits (cfg : LinkConfig) : CallPhase → Bool
  | .opening | .sending _ _ | .waiting _ _ => !cfg.auth
  | .requestingOtp | .openingSession | .verifying _ | .refusing _ => cfg.auth && cfg.demo
  | _ => true

/-- **Every call is on the way that is configured**, and only a demo gateway is connected. -/
structure Configured (cfg : LinkConfig) (s : DerivLink) : Prop where
  calls : ∀ k, fits cfg (s.calls k) = true
  demo : s.connected = true → cfg.demo = true

theorem Configured.update (h : s.Configured cfg) (phase : CallPhase) (hphase : fits cfg phase = true)
    (hcalls : s'.calls = update s.calls k phase) (hconnected : s'.connected = true → cfg.demo = true) :
    s'.Configured cfg := by
  refine ⟨fun j => ?_, hconnected⟩
  rw [hcalls]
  by_cases hj : j = k
  · rw [hj, update_self]
    exact hphase
  · rw [update_of_ne hj]
    exact h.calls j

theorem Configured.same (h : s.Configured cfg) (hcalls : s'.calls = s.calls)
    (hconnected : s'.connected = true → s.connected = true) : s'.Configured cfg :=
  ⟨fun k => hcalls ▸ h.calls k, fun hc => h.demo (hconnected hc)⟩

theorem Configured.fit (h : s.Configured cfg) {phase : CallPhase} (hcall : s.calls k = phase) : fits cfg phase = true :=
  hcall ▸ h.calls k

theorem Configured.next (h : s.Configured cfg) {before : CallPhase} (phase : CallPhase) (hcall : s.calls k = before)
    (hphase : fits cfg phase = fits cfg before) (hcalls : s'.calls = Function.update s.calls k phase)
    (hconnected : s'.connected = s.connected) : s'.Configured cfg :=
  h.update phase (hphase.trans (h.fit hcall)) hcalls fun hc => h.demo (hconnected ▸ hc)

theorem Configured.teardown (h : s.Configured cfg) {phase : CallPhase} (hphase : fits cfg phase = true) :
    (s.teardown cfg k phase).Configured cfg := by
  have hdemo : (s.teardown cfg k phase).connected = true → cfg.demo = true := by
    rw [teardown_connected]
    exact fun hc => (nomatch hc)
  obtain heq | heq := (teardown_eq phase : s.teardown cfg k phase = _ ∨ s.teardown cfg k phase = _)
  · rw [heq] at hdemo ⊢
    exact h.update _ hphase rfl hdemo
  · rw [heq] at hdemo ⊢
    exact h.update .over rfl rfl hdemo

theorem Configured.refuse (h : s.Configured cfg) {state : DerivIdentityState}
    (hphase : fits cfg (.refusing state) = true) : (s.refuse k state).Configured cfg := by
  unfold DerivLink.refuse
  split
  · exact h.update _ hphase rfl h.demo
  · exact h.update .over rfl rfl h.demo

theorem Configured.step (h : s.Configured cfg) (hstep : s.step cfg move = some s') : s'.Configured cfg := by
  cases stepped hstep with
  | connect =>
    unfold DerivLink.connect
    dsimp only
    split
    · next hauth =>
      split
      · next hdemo => exact h.update .requestingOtp (by simp [fits, hauth, hdemo]) rfl h.demo
      · exact h.same rfl id
    · next hauth => exact h.update .opening (by simp [fits, hauth]) rfl h.demo
  | opened hcall => exact h.next (.sending _ _) hcall rfl rfl rfl
  | sent hcall => exact h.next (.waiting _ _) hcall rfl rfl rfl
  | answered _ _ _ => exact h.same rfl id
  | authorized _ _ haccepted =>
    refine h.update .over rfl rfl fun _ => ?_
    unfold AuthorizeReply.accepted at haccepted
    simp only [Bool.and_eq_true] at haccepted
    exact haccepted.1.1.1.2
  | turnedDown _ _ _ => exact h.teardown rfl
  | unanswered _ _ => exact h.update .over rfl rfl h.demo
  | otpReceived hcall => exact h.next .openingSession hcall rfl rfl rfl
  | sessionOpened hcall => exact h.next (.verifying _) hcall rfl rfl rfl
  | @verified k socket account demo hcall =>
    have hfits : (cfg.auth && cfg.demo) = true := h.fit hcall
    have hsame : Configured cfg { s with reported := Function.update s.reported socket (some (strip account)) } :=
      h.same rfl id
    unfold DerivLink.verified
    split
    · exact hsame.refuse hfits
    split
    · exact hsame.refuse hfits
    · exact h.update .over rfl rfl fun _ => (Bool.and_eq_true_iff.1 hfits).2
  | authFails _ => exact h.update .over rfl rfl h.demo
  | raises _ => exact h.update .over rfl rfl h.demo
  | torn _ => exact h.update .over rfl rfl h.demo
  | refused _ => exact h.update .over rfl rfl h.demo
  | disconnect =>
    have hsame : Configured cfg { s with nextCall := s.nextCall + 1 } := h.same rfl id
    exact hsame.teardown rfl
  | readerStarts _ => exact h.same rfl id
  | readerEnds _ => exact h.same rfl fun hc => (nomatch hc)

/-! ### Steps and runs -/

theorem keeps_iff (hmove : ∀ r, move ≠ .readerEnds r) : s'.Served cfg ∧ KeepsNewer s move s' ↔ s'.Served cfg :=
  and_iff_left (keepsNewer_of_ne hmove)

theorem authorized_served {socket reader : ℕ} {a : AuthorizeReply} (hconfigured : s.Configured cfg)
    (hcall : s.calls k = .waiting socket reader) (haccepted : a.accepted cfg = true) :
    (s.authorized k reader a).Served cfg ↔ (s.Others k →
      ∃ socket reader, s.connection = some socket ∧ s.Alive reader socket ∧ s.reported socket = a.loginid.map strip) := by
  have hauth : cfg.auth = false := by
    have hfits : (!cfg.auth) = true := hconfigured.fit hcall
    rwa [Bool.not_eq_true'] at hfits
  have haccount : a.loginid.map strip ≠ none := by
    unfold AuthorizeReply.accepted at haccepted
    simp only [Bool.and_eq_true] at haccepted
    intro hnone
    rw [Option.map_eq_none_iff] at hnone
    rw [hnone] at haccepted
    cases haccepted.1.2
  rw [served_over_iff (s := s) (k := k) rfl, forall_prop_of_true (by rfl)]
  refine imp_congr_right fun _ => ?_
  exact ⟨fun hwhole => hwhole.1, fun hwhole => ⟨hwhole, haccount, fun h => by rw [hauth] at h; cases h⟩⟩

theorem refuse_served {state : DerivIdentityState} :
    (s.refuse k state).Served cfg ↔ (s.authConnection = none → s.connected = true → ¬s.Others k) := by
  unfold refuse
  split
  · next h =>
    refine iff_of_true (served_of_connecting (k := k) (by rw [setCall_calls]; rfl)) fun hnone => ?_
    rw [hnone] at h
    cases h
  · next h =>
    rw [forall_prop_of_true (Option.not_isSome_iff_eq_none.1 h)]
    exact served_cleared_iff rfl rfl rfl

theorem verified_served {socket : ℕ} {account : String} {demo : Bool} (hcall : s.calls k = .verifying socket) :
    ({ s with reported := update s.reported socket (some (strip account)) }.verified k account demo).Served cfg ↔
      Harmless cfg s (.verified k account demo) := by
  simp only [Harmless, hcall]
  unfold DerivLink.verified
  cases hauth : s.authConnection with
  | none =>
    -- nothing to close: the session is refused at once
    have hrefuse : ∀ state, (refuse { s with
        reported := update s.reported socket (some (strip account)), authConnection := none } k state).Served cfg ↔
        (s.connected = true → ¬s.Others k) := fun state =>
      refuse_served.trans (forall_prop_of_true rfl)
    cases demo with
    | false => exact hrefuse .liveAccount
    | true => exact hrefuse .ambiguous
  | some current =>
    have hrefuse : ∀ state, (refuse { s with
        reported := update s.reported socket (some (strip account)), authConnection := some current } k
        state).Served cfg := fun state => refuse_served.2 fun hnone => (nomatch hnone)
    cases demo with
    | false => exact iff_of_true (hrefuse .liveAccount) fun h => (nomatch h)
    | true =>
      cases hblank : blank account with
      | true => exact iff_of_true (hrefuse .ambiguous) fun _ h => (nomatch h)
      | false =>
        refine (served_over_iff rfl).trans ⟨fun h _ _ hothers hne => ?_, fun h _ hothers => ?_⟩
        · obtain ⟨⟨c, reader, hconnection, -, hreported⟩, -⟩ := h rfl hothers
          cases hconnection
          have hother : update s.reported socket (some (strip account)) current = some (strip account) := hreported
          rwa [update_of_ne hne] at hother
        · refine ⟨⟨current, s.nextReader, rfl, .inl (update_self _ _ _), ?_⟩, nofun, fun _ => rfl⟩
          show update s.reported socket (some (strip account)) current = some (strip account)
          by_cases hsocket : current = socket
          · rw [hsocket, update_self]
          · rw [update_of_ne hsocket]
            exact h rfl rfl hothers hsocket

/-- **A step keeps the session whole, and leaves a newer one, exactly where it is harmless.** -/
theorem harmless_iff (hconfigured : s.Configured cfg) (hserved : s.Served cfg) (hstep : s.step cfg move = some s') :
    s'.Served cfg ∧ KeepsNewer s move s' ↔ Harmless cfg s move := by
  cases stepped hstep with
  | connect =>
    refine (keeps_iff (by simp)).trans (iff_of_true ?_ trivial)
    unfold DerivLink.connect
    dsimp only
    split
    · split
      · exact served_of_connecting (k := s.nextCall) (by rw [setCall_calls]; rfl)
      · next hdemo => exact served_of_disconnected (Bool.eq_false_iff.2 fun hc => hdemo (hconfigured.demo hc))
    · exact served_of_connecting (k := s.nextCall) (by rw [setCall_calls]; rfl)
  | @opened k hcall =>
    refine (keeps_iff (by simp)).trans (iff_of_true ?_ trivial)
    have hcalls : (s.opened k).calls = update s.calls k (.sending s.nextSocket s.nextReader) := rfl
    exact served_of_connecting (k := k) (by rw [hcalls, update_self]; rfl)
  | @sent k socket reader hcall =>
    refine (keeps_iff (by simp)).trans (iff_of_true ?_ trivial)
    exact served_of_connecting (k := k) (by rw [setCall_calls]; rfl)
  | @answered r k socket reader a hcall _ _ =>
    refine (keeps_iff (by simp)).trans (iff_of_true ?_ trivial)
    refine served_of_connecting (k := k) ?_
    show (s.calls k).connecting = true
    obtain h | h := hcall <;> rw [h] <;> rfl
  | @authorized k socket reader a hcall hfuture haccepted =>
    refine (keeps_iff (by simp)).trans ((authorized_served hconfigured hcall haccepted).trans ?_)
    simp only [Harmless, hcall, hfuture]
    exact ⟨fun h _ => h, fun h => h haccepted⟩
  | @turnedDown k socket reader a hcall hfuture haccepted =>
    refine (keeps_iff (by simp)).trans (iff_of_true (served_of_disconnected (teardown_connected _)) ?_)
    simp only [Harmless, hcall, hfuture]
    exact fun h => by rw [haccepted] at h; cases h
  | @unanswered k socket reader hcall hfuture =>
    refine (keeps_iff (by simp)).trans ((served_over_iff rfl).trans ?_)
    simp only [Harmless, hcall, hfuture]
    rfl
  | @otpReceived k hcall =>
    refine (keeps_iff (by simp)).trans (iff_of_true ?_ trivial)
    exact served_of_connecting (k := k) (by rw [setCall_calls]; rfl)
  | @sessionOpened k hcall =>
    refine (keeps_iff (by simp)).trans (iff_of_true ?_ trivial)
    exact served_of_connecting (k := k) (by rw [setCall_calls]; rfl)
  | @verified k socket account demo hcall =>
    exact (keeps_iff (by simp)).trans (verified_served hcall)
  | authFails hcall => exact (keeps_iff (by simp)).trans (served_cleared_iff rfl rfl rfl)
  | raises hcall => exact (keeps_iff (by simp)).trans (served_over_iff rfl)
  | torn hcall => exact (keeps_iff (by simp)).trans (served_cleared_iff rfl rfl rfl)
  | refused hcall => exact (keeps_iff (by simp)).trans (served_cleared_iff rfl rfl rfl)
  | disconnect =>
    exact (keeps_iff (by simp)).trans (iff_of_true (served_of_disconnected (teardown_connected _)) trivial)
  | @readerStarts r hreader =>
    refine (keeps_iff (by simp)).trans (iff_of_true (fun hconnected hcalm => ?_) trivial)
    obtain ⟨⟨socket, reader, hconnection, halive, hreported⟩, hrest⟩ := hserved hconnected hcalm
    refine ⟨⟨socket, reader, hconnection, ?_, hreported⟩, hrest⟩
    unfold Alive
    dsimp only
    by_cases hr : reader = r
    · rw [hr, update_self, hconnection]
      exact .inr rfl
    · rw [update_of_ne hr]
      exact halive
  | @readerEnds r hreader =>
    rw [and_iff_right (served_of_disconnected rfl)]
    constructor
    · intro hkeeps o hconnected howner hlt
      cases (hkeeps r o rfl hconnected howner hlt).1
    · rintro hharmless r' o hmove hconnected howner hlt
      cases hmove
      exact absurd hlt (hharmless o hconnected howner)

/-- Connected means served in every state of the run, and no step clears a newer session. -/
def ServedRun (cfg : LinkConfig) : DerivLink → List LinkMove → Prop
  | s, [] => s.Served cfg
  | s, move :: moves => s.Served cfg ∧ ∀ s', s.step cfg move = some s' → KeepsNewer s move s' ∧ ServedRun cfg s' moves

def HarmlessRun (cfg : LinkConfig) : DerivLink → List LinkMove → Prop
  | _, [] => True
  | s, move :: moves => ∀ s', s.step cfg move = some s' → Harmless cfg s move ∧ HarmlessRun cfg s' moves

theorem servedRun_served : ∀ {moves : List LinkMove} {s : DerivLink}, ServedRun cfg s moves → s.Served cfg
  | [], _, h => h
  | _ :: _, _, h => h.1

theorem servedRun_iff_harmless : ∀ (moves : List LinkMove) {s : DerivLink}, s.Configured cfg → s.Served cfg →
    (ServedRun cfg s moves ↔ HarmlessRun cfg s moves)
  | [], _, _, hserved => iff_of_true hserved trivial
  | move :: moves, s, hconfigured, hserved => by
    unfold ServedRun HarmlessRun
    rw [and_iff_right hserved]
    refine forall_congr' fun s' => forall_congr' fun hstep => ?_
    have hiff := harmless_iff hconfigured hserved hstep
    have hrun := servedRun_iff_harmless moves (s := s') (hconfigured.step hstep)
    constructor
    · rintro ⟨hkeeps, hserved'⟩
      exact ⟨hiff.1 ⟨servedRun_served hserved', hkeeps⟩, (hrun (servedRun_served hserved')).1 hserved'⟩
    · rintro ⟨hharmless, hrest⟩
      obtain ⟨hserved', hkeeps⟩ := hiff.2 hharmless
      exact ⟨hkeeps, (hrun hserved').2 hrest⟩

/-- **Connected means served along a run exactly where every step of it is harmless.** -/
theorem servedRun_iff (cfg : LinkConfig) (moves : List LinkMove) : ServedRun cfg {} moves ↔ HarmlessRun cfg {} moves :=
  servedRun_iff_harmless moves ⟨fun _ => rfl, fun hc => (nomatch hc)⟩ fun hc => (nomatch hc)

/-! ### Two runs in which it does not -/

def plainConfig : LinkConfig := ⟨false, true⟩

def demoReply : AuthorizeReply := ⟨false, true, true, some "VRTC1", some "USD"⟩

/-- The socket is closed behind the answer, before `connect` goes on. -/
def closedBehind : List LinkMove :=
  [.connect, .opened 0, .readerStarts 0, .sent 0, .answered 0 0 demoReply, .readerEnds 0, .resumes 0]

/-- The answer is late, `connect` is called again, and the first reader ends. -/
def connectedAgain : List LinkMove :=
  [.connect, .opened 0, .readerStarts 0, .sent 0, .raises 0, .connect, .opened 1, .readerStarts 1, .sent 1,
    .answered 1 1 demoReply, .resumes 1]

/-- **Connected with no reader, and a newer session cleared by an earlier reader.** -/
theorem connected_alone : (∃ s, run plainConfig {} closedBehind = some s ∧ ¬s.Served plainConfig) ∧
    ∃ s s', run plainConfig {} connectedAgain = some s ∧ s.step plainConfig (.readerEnds 0) = some s' ∧
      ¬KeepsNewer s (.readerEnds 0) s' := by
  constructor
  · obtain ⟨s, hrun⟩ : ∃ s, run plainConfig {} closedBehind = some s := ⟨_, rfl⟩
    have hreaders : s.readers = update (update (update (fun _ => .ended) 0 .created) 0
        (.running 0)) 0 .ended := by
      cases hrun
      rfl
    have hcalls : s.calls = update (update (update (update (fun _ => .over) 0 .opening)
        0 (.sending 0 0)) 0 (.waiting 0 0)) 0 .over := by
      cases hrun
      rfl
    refine ⟨s, hrun, fun h => ?_⟩
    rw [update_idem, update_idem, Function.update_eq_self_iff.2 rfl] at hreaders
    rw [update_idem, update_idem, update_idem, Function.update_eq_self_iff.2 rfl] at hcalls
    have hconnected : s.connected = true := by
      cases hrun
      rfl
    obtain ⟨⟨socket, reader, -, halive, -⟩, -⟩ := h hconnected fun j => by rw [hcalls]; rfl
    unfold Alive at halive
    rw [hreaders] at halive
    exact halive.elim nofun nofun
  · refine ⟨_, _, rfl, rfl, fun h => ?_⟩
    cases (h 0 1 rfl rfl rfl (by decide)).1

end DerivLink
end Jqe
