import Jqe.DerivAuth
/-!
# DerivAuthSound — when authentication is all or nothing

`connect` sets its state by hand on each way out.  It is all or nothing exactly where the ways out that leave the state
or the socket behind are not taken.
-/
namespace Jqe
namespace DerivPATOTPSession

variable {cfg : DerivAuthConfig} {s s' : DerivPATOTPSession} {t : TransportRun}

/-! ### The verification -/

/-- The first answer to the request is a balance of the account; what comes before it is for others. -/
def Confirms (expected : String) : List RecvReply → Prop
  | .text (some (.dict response)) :: replies =>
    if (PyValue.get response "req_id").eqInt 1 = true then
      (PyValue.get response "error").truthy = false ∧ (PyValue.get response "msg_type").eqStr "balance" = true ∧
        ∃ balance, PyValue.get response "balance" = .dict balance ∧
          ∃ loginId, (PyValue.get balance "loginid").text? = some loginId ∧ strip loginId = expected
    else Confirms expected replies
  | _ => False

/-- **What a verified account is, and when it is verified.** -/
theorem verifyReplies_eq_ok {expected id : String} : ∀ {replies : List RecvReply},
    verifyReplies expected replies = .ok id ↔ Confirms (strip expected) replies ∧ id = strip expected
  | [] => iff_of_false nofun fun h => h.1
  | .raises _ :: _ => iff_of_false nofun fun h => h.1
  | .other :: _ => iff_of_false nofun fun h => h.1
  | .undecodable :: _ => iff_of_false nofun fun h => h.1
  | .text none :: _ => iff_of_false nofun fun h => h.1
  | .text (some (.dict response)) :: replies => by
    unfold verifyReplies Confirms
    cases hid : (PyValue.get response "req_id").eqInt 1 with
    | false =>
      simp only [Bool.not_false, if_true, Bool.false_eq_true, if_false]
      exact verifyReplies_eq_ok
    | true =>
      simp only [Bool.not_true, Bool.false_eq_true, if_false, if_true]
      cases herror : (PyValue.get response "error").truthy with
      | true => simp
      | false =>
        cases htype : (PyValue.get response "msg_type").eqStr "balance" with
        | false => simp
        | true =>
          simp only [Bool.not_true, Bool.false_eq_true, if_false, true_and]
          cases hbalance : PyValue.get response "balance" with
          | dict balance =>
            cases hlogin : (PyValue.get balance "loginid").text? with
            | none => simp [hlogin]
            | some loginId =>
              by_cases hsame : strip loginId = strip expected
              · simp [hlogin, hsame, eq_comm]
              · simp [hlogin, hsame]
          | _ => simp
  | .text (some .none) :: _ => iff_of_false nofun fun h => h.1
  | .text (some (.bool _)) :: _ => iff_of_false nofun fun h => h.1
  | .text (some (.int _)) :: _ => iff_of_false nofun fun h => h.1
  | .text (some (.float _)) :: _ => iff_of_false nofun fun h => h.1
  | .text (some (.str _)) :: _ => iff_of_false nofun fun h => h.1
  | .text (some (.list _)) :: _ => iff_of_false nofun fun h => h.1

/-- **The socket that is opened answers for the configured account.** -/
structure Confirmed (cfg : DerivAuthConfig) (kind : SocketKind) (t : TransportRun) : Prop where
  timeout : positiveTimeout cfg.identityTimeoutSeconds = true
  socket : (kind.sends && kind.receives) = true
  send : t.send = none
  replies : ∀ accountId, cfg.optionsAccountId.text? = some accountId → Confirms (strip accountId) t.replies

theorem text?_nonblank {v : PyValue} {text : String} (h : v.text? = some text) : blank text = false := by
  unfold PyValue.text? at h
  split at h
  · split at h
    · cases h
    · next hblank =>
      cases h
      exact Bool.eq_false_iff.2 hblank
  · cases h

theorem blank_strip (text : String) : blank (strip text) = blank text := by
  rw [Bool.eq_iff_iff, blank_iff, blank_iff, strip_idem]

theorem verify_eq_ok {kind : SocketKind} {accountId id : String} (haccount : cfg.optionsAccountId.text? = some accountId) :
    verifyAccountIdentity (strip accountId) cfg.identityTimeoutSeconds kind t = .ok id ↔
      Confirmed cfg kind t ∧ id = strip accountId := by
  have hblank : blank (strip accountId) = false := (blank_strip accountId).trans (text?_nonblank haccount)
  unfold verifyAccountIdentity
  rw [hblank, if_neg Bool.false_ne_true]
  constructor
  · intro h
    split at h
    · cases h
    next htimeout =>
    split at h
    · cases h
    next hsocket =>
    split at h
    · cases h
    next hsend =>
    rw [verifyReplies_eq_ok, strip_idem] at h
    refine ⟨⟨by simpa using htimeout, by simpa using hsocket, hsend, fun accountId' haccount' => ?_⟩, h.2⟩
    rw [haccount] at haccount'
    cases haccount'
    exact h.1
  · rintro ⟨hconfirmed, rfl⟩
    rw [hconfirmed.timeout, hconfirmed.socket, hconfirmed.send]
    refine verifyReplies_eq_ok.2 ⟨?_, (strip_idem accountId).symm⟩
    rw [strip_idem]
    exact hconfirmed.replies accountId haccount

/-! ### All or nothing -/

/-- **A session with all it stands for, or a failure that leaves nothing.** -/
def AllOrNothing (cfg : DerivAuthConfig) (s : DerivPATOTPSession) :
    DerivPATOTPSession × Except AuthError DerivAuthSession → Prop
  | (s', .ok session) =>
    (∃ accountId, cfg.optionsAccountId = .str accountId ∧ session.accountId = strip accountId) ∧
      (cfg.expectedEnvironment = .none ∨ cfg.expectedEnvironment = .str session.environment) ∧
      s'.session = some session ∧ s'.state = .ready ∧
      ∃ socket, s'.connection = some socket ∧ socket.number = s.nextSocket ∧ socket.number ∈ s'.openSockets
  | (s', .error _) =>
    s'.session = none ∧ s'.state = .failed ∧ (∀ n ∈ s'.openSockets, n < s.nextSocket) ∧
      ∀ socket ∈ s'.connection, socket.number < s.nextSocket

/-- **Every call of `connect` is all or nothing, and one socket at most is open.** -/
def UpheldRun (cfg : DerivAuthConfig) : DerivPATOTPSession → List AuthCall → Prop
  | s, [] => s.openSockets.length ≤ 1
  | s, call :: calls =>
    s.openSockets.length ≤ 1 ∧ (∀ t, call = .connect t → AllOrNothing cfg s (s.connect cfg t)) ∧
      UpheldRun cfg (s.call cfg call) calls

/-- **The call takes no way out that leaves something behind.** -/
def Clean (cfg : DerivAuthConfig) (s : DerivPATOTPSession) : AuthCall → Prop
  | .connect t =>
    (cfg.appId.text?.isSome ∧ cfg.pat.text?.isSome ∧ cfg.optionsAccountId.text?.isSome) ∧
      match t.otp with
      | .error e => e ≠ .baseException
      | .ok response =>
        match readResponse cfg response with
        | .error e => e ≠ .typeError
        | .ok _ =>
          match t.socket with
          | .error e => e ≠ .baseException
          | .ok kind => s.openSockets = [] ∧ Confirmed cfg kind t
  | _ => True

def CleanRun (cfg : DerivAuthConfig) : DerivPATOTPSession → List AuthCall → Prop
  | _, [] => True
  | s, call :: calls => Clean cfg s call ∧ CleanRun cfg (s.call cfg call) calls

def Numbered (s : DerivPATOTPSession) : Prop := ∀ n ∈ s.openSockets, n < s.nextSocket

theorem Numbered.call (h : s.Numbered) (call : AuthCall) : (s.call cfg call).Numbered := by
  have hopened : ∀ kind, (s.opened kind).Numbered := by
    intro kind n hn
    obtain rfl | hn := List.mem_cons.1 hn
    · exact Nat.lt_succ_self _
    · exact Nat.lt_succ_of_lt (h n hn)
  cases call with
  | connect t =>
    unfold DerivPATOTPSession.call connect
    dsimp only
    split
    · exact h
    · exact h
    · exact h
    split
    · exact h
    · exact h
    · exact h
    split
    · exact h
    · exact h
    split
    · exact h
    · exact h
    next kind _ =>
    split
    · exact hopened kind
    · exact hopened kind
    · exact hopened kind
  | close works =>
    intro n hn
    unfold DerivPATOTPSession.call close at hn ⊢
    dsimp only at hn
    split at hn
    · split at hn
      · exact h n (List.mem_of_mem_filter hn)
      · exact h n hn
    · exact h n hn
  | markExpired => exact h

theorem text?_eq {v : PyValue} {text : String} (h : v.text? = some text) : v = .str text := by
  unfold PyValue.text? at h
  split at h
  · split at h <;> cases h
    rfl
  · cases h

theorem readResponse_environment {response : PyValue} {url environment : String}
    (h : readResponse cfg response = .ok (url, environment)) :
    cfg.expectedEnvironment = .none ∨ cfg.expectedEnvironment = .str environment := by
  unfold readResponse at h
  dsimp only at h
  repeat' split at h
  all_goals cases h
  · exact .inl (by assumption)
  · have hsame : cfg.expectedEnvironment.eqStr environment = true := by assumption
    refine .inr ?_
    unfold PyValue.eqStr at hsame
    split at hsame
    · next heq =>
      rw [beq_iff_eq] at hsame
      rw [heq, hsame]
    · cases hsame

section

variable (e : AuthError)

theorem not_allOrNothing_of_state (h : s'.state ≠ .failed) : ¬AllOrNothing cfg s (s', .error e) := fun hall => h hall.2.1

theorem not_allOrNothing_of_open (h : s.nextSocket ∈ s'.openSockets) : ¬AllOrNothing cfg s (s', .error e) :=
  fun hall => lt_irrefl _ (hall.2.2.1 _ h)

end

theorem connect_iff (hone : s.openSockets.length ≤ 1) (hnumbered : s.Numbered) :
    AllOrNothing cfg s (s.connect cfg t) ∧ (s.connect cfg t).1.openSockets.length ≤ 1 ↔ Clean cfg s (.connect t) := by
  unfold connect Clean
  dsimp only
  -- the state is left as `AUTHENTICATING`
  have hleft : ∀ (e : AuthError), ¬(AllOrNothing cfg s
      ({ s with session := none, connection := none, state := .authenticating }, .error e) ∧ s.openSockets.length ≤ 1) :=
    fun e h => not_allOrNothing_of_state e (fun hstate => by cases hstate) h.1
  have hfailed : ∀ (e : AuthError), AllOrNothing cfg s
      ({ s with session := none, connection := none, state := .failed }, .error e) ∧ s.openSockets.length ≤ 1 :=
    fun e => ⟨⟨rfl, rfl, hnumbered, nofun⟩, hone⟩
  cases happ : cfg.appId.text? with
  | none => exact iff_of_false (hleft _) fun h => Bool.false_ne_true h.1.1
  | some app =>
    cases hpat : cfg.pat.text? with
    | none => exact iff_of_false (hleft _) fun h => Bool.false_ne_true h.1.2.1
    | some pat =>
      cases haccount : cfg.optionsAccountId.text? with
      | none => exact iff_of_false (hleft _) fun h => Bool.false_ne_true h.1.2.2
      | some accountId =>
        simp only [Option.isSome_some, and_self, true_and]
        cases hotp : t.otp with
        | error e =>
          cases e with
          | baseException => exact iff_of_false (hleft _) fun h => h rfl
          | failure code => exact iff_of_true (hfailed _) nofun
          | timeout => exact iff_of_true (hfailed _) nofun
          | exception => exact iff_of_true (hfailed _) nofun
        | ok response =>
          dsimp only
          cases hread : readResponse cfg response with
          | error e =>
            cases e with
            | typeError => exact iff_of_false (hleft _) fun h => h rfl
            | failure code => exact iff_of_true (hfailed _) nofun
            | baseException => exact iff_of_true (hfailed _) nofun
          | ok read =>
            dsimp only
            cases hsocket : t.socket with
            | error e =>
              cases e with
              | baseException => exact iff_of_false (hleft _) fun h => h rfl
              | failure code => exact iff_of_true (hfailed _) nofun
              | timeout => exact iff_of_true (hfailed _) nofun
              | exception => exact iff_of_true (hfailed _) nofun
            | ok kind =>
              dsimp only
              have hopen : ∀ (state : DerivAuthState) (e : AuthError), ¬(AllOrNothing cfg s
                  ({ s.opened kind with session := none, state := state }, .error e) ∧
                    (s.nextSocket :: s.openSockets).length ≤ 1) :=
                fun _ e h => not_allOrNothing_of_open e List.mem_cons_self h.1
              have hverify : ∀ id, verifyAccountIdentity (strip accountId) cfg.identityTimeoutSeconds kind t = .ok id ↔
                  Confirmed cfg kind t ∧ id = strip accountId := fun _ => verify_eq_ok haccount
              cases hresult : verifyAccountIdentity (strip accountId) cfg.identityTimeoutSeconds kind t with
              | error e =>
                have hnot : ¬(s.openSockets = [] ∧ Confirmed cfg kind t) := fun h => by
                  rw [(hverify _).2 ⟨h.2, rfl⟩] at hresult
                  cases hresult
                cases e with
                | baseException => exact iff_of_false (hopen .authenticating _) hnot
                | failure code => exact iff_of_false (hopen .failed _) hnot
                | typeError => exact iff_of_false (hopen .failed _) hnot
              | ok verified =>
                obtain ⟨hconfirmed, rfl⟩ := (hverify _).1 hresult
                constructor
                · rintro ⟨-, hlength⟩
                  exact ⟨List.eq_nil_of_length_eq_zero (by simpa [opened] using hlength), hconfirmed⟩
                · rintro ⟨hnil, -⟩
                  refine ⟨⟨⟨accountId, text?_eq haccount, rfl⟩, readResponse_environment hread, rfl, rfl,
                    { kind with number := s.nextSocket }, rfl, rfl, List.mem_cons_self⟩, ?_⟩
                  simp [opened, hnil]

theorem call_length (hone : s.openSockets.length ≤ 1) {call : AuthCall} (hcall : ∀ t, call ≠ .connect t) :
    (s.call cfg call).openSockets.length ≤ 1 := by
  cases call with
  | connect t => exact absurd rfl (hcall t)
  | close works =>
    unfold DerivPATOTPSession.call close
    dsimp only
    split
    · split
      · exact (List.length_filter_le _ _).trans hone
      · exact hone
    · exact hone
  | markExpired => exact hone

theorem upheldRun_length : ∀ {calls : List AuthCall} {s : DerivPATOTPSession}, UpheldRun cfg s calls →
    s.openSockets.length ≤ 1
  | [], _, h => h
  | _ :: _, _, h => h.1

theorem upheldRun_iff_clean : ∀ (calls : List AuthCall) {s : DerivPATOTPSession}, s.openSockets.length ≤ 1 →
    s.Numbered → (UpheldRun cfg s calls ↔ CleanRun cfg s calls)
  | [], _, hone, _ => iff_of_true hone trivial
  | call :: calls, s, hone, hnumbered => by
    have hrest := upheldRun_iff_clean calls (s := s.call cfg call)
    have hstep : (∀ t, call = .connect t → AllOrNothing cfg s (s.connect cfg t)) ∧
        (s.call cfg call).openSockets.length ≤ 1 ↔ Clean cfg s call := by
      cases call with
      | connect t =>
        rw [← connect_iff hone hnumbered]
        exact and_congr_left' ⟨fun h => h t rfl, fun h t' heq => by cases heq; exact h⟩
      | close works =>
        have hlength : (s.call cfg (.close works)).openSockets.length ≤ 1 := call_length hone (by simp)
        exact iff_of_true ⟨fun t heq => (by cases heq), hlength⟩ trivial
      | markExpired => exact iff_of_true ⟨fun t heq => (by cases heq), hone⟩ trivial
    unfold UpheldRun CleanRun
    rw [and_iff_right hone]
    constructor
    · rintro ⟨hall, hrun⟩
      have hlength := upheldRun_length hrun
      exact ⟨hstep.1 ⟨hall, hlength⟩, (hrest hlength (hnumbered.call call)).1 hrun⟩
    · rintro ⟨hclean, hrun⟩
      obtain ⟨hall, hlength⟩ := hstep.2 hclean
      exact ⟨hall, (hrest hlength (hnumbered.call call)).2 hrun⟩

/-- **Authentication is all or nothing along a run of calls exactly where each of them is clean.** -/
theorem upheldRun_iff (cfg : DerivAuthConfig) (calls : List AuthCall) : UpheldRun cfg {} calls ↔ CleanRun cfg {} calls :=
  upheldRun_iff_clean calls (Nat.zero_le 1) nofun

/-! ### A socket of another account -/

def demoConfig : DerivAuthConfig where
  appId := .str "app"
  pat := .str "pat"
  optionsAccountId := .str "CR1"
  expectedEnvironment := .str "demo"

/-- The OTP is accepted, and the socket answers for `CR2`. -/
def mismatchRun : TransportRun where
  otp := .ok (.dict [("url", .str "wss://fake/demo"), ("account_id", .str "CR1"), ("environment", .str "demo")])
  socket := .ok ⟨true, true, true⟩
  send := none
  replies := [.text (some (.dict [("req_id", .int 1), ("msg_type", .str "balance"),
    ("balance", .dict [("loginid", .str "CR2")])]))]

/-- **A mismatch leaves its socket open and exposed, the next call opens another, and a missing id leaves the state.** -/
theorem mismatch_leaves_socket : ∃ (cfg : DerivAuthConfig) (t : TransportRun) (s : DerivPATOTPSession),
    connect cfg {} t = (s, .error (.failure .accountMismatch)) ∧ s.connection.map (·.number) = some 0 ∧
      s.openSockets = [0] ∧ (s.connect cfg t).1.openSockets = [1, 0] ∧
      (connect { cfg with appId := .none } {} t).1.state = .authenticating ∧ ¬UpheldRun cfg {} [.connect t] := by
  refine ⟨demoConfig, mismatchRun, _, rfl, rfl, rfl, rfl, rfl, fun h => ?_⟩
  have hall := (h.2.1 mismatchRun rfl).2.2.1 0 List.mem_cons_self
  exact lt_irrefl 0 hall

end DerivPATOTPSession
end Jqe
