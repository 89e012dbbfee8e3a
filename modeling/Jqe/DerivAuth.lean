import Jqe.PyDict
/-!
# DerivAuth — `broker/deriv_auth.py`

`DerivPATOTPSession` over any transport, with the verification of `DerivPATOTPTransport`.  What the transport and the
socket do in a call is given with the call; sockets go by number, and those that are open are kept beside the session.
-/
namespace Jqe

inductive DerivAuthErrorCode where
  | missingAppId
  | missingToken
  | invalidToken
  | expiredToken
  | revokedToken
  | otpFailure
  | malformedOtpResponse
  | websocketFailure
  | accountMismatch
  | accountIdentityFailure
  | accountIdentityTimeout
  | malformedAccountResponse
  | missingAccountId
  | environmentMismatch
  | missingEnvironment
  | httpFailure
  | invalidSessionUrl
  deriving DecidableEq

inductive DerivAuthState where
  | uninitialized
  | authenticating
  | ready
  | failed
  | closed
  deriving DecidableEq

structure DerivAuthConfig where
  appId : PyValue
  pat : PyValue
  optionsAccountId : PyValue := .none
  expectedEnvironment : PyValue := .none
  identityTimeoutSeconds : PyValue := .float (.fin 7)

structure DerivAuthSession where
  accountId : String
  environment : String
  websocketUrl : String
  deriving DecidableEq

/-- What a call of `connect` raises: a `DerivAuthFailure`, a `TypeError`, or no `Exception`. -/
inductive AuthError where
  | failure (code : DerivAuthErrorCode)
  | typeError
  | baseException
  deriving DecidableEq

inductive TransportError where
  | failure (code : DerivAuthErrorCode)
  | timeout
  | exception
  | baseException
  deriving DecidableEq

/-- What the socket object can do. -/
structure SocketKind where
  sends : Bool
  receives : Bool
  closes : Bool

structure Socket extends SocketKind where
  number : ℕ

/-- What `recv` and the decoding of its message come to. -/
inductive RecvReply where
  | raises (e : TransportError)
  /-- no text, and no bytes -/
  | other
  /-- the decoding raises, other than by a `ValueError` of `json.loads` -/
  | undecodable
  | text (parsed : Option PyValue)

/-- What the transport does in a call of `connect`; the timeout fires after the last reply. -/
structure TransportRun where
  otp : Except TransportError PyValue
  socket : Except TransportError SocketKind
  send : Option TransportError
  replies : List RecvReply

/-! ### The verification -/

def TransportError.verifying : TransportError → AuthError
  | .failure code => .failure code
  | .timeout => .failure .accountIdentityTimeout
  | .exception => .failure .websocketFailure
  | .baseException => .baseException

def verifyReplies (expected : String) : List RecvReply → Except AuthError String
  | [] => .error (.failure .accountIdentityTimeout)
  | .raises e :: _ => .error e.verifying
  | .other :: _ => .error (.failure .malformedAccountResponse)
  | .undecodable :: _ => .error (.failure .websocketFailure)
  | .text (some (.dict response)) :: replies =>
    if !(PyValue.get response "req_id").eqInt 1 then verifyReplies expected replies
    else if (PyValue.get response "error").truthy then .error (.failure .accountIdentityFailure)
    else if !(PyValue.get response "msg_type").eqStr "balance" then .error (.failure .malformedAccountResponse)
    else
      match PyValue.get response "balance" with
      | .dict balance =>
        match (PyValue.get balance "loginid").text? with
        | some loginId =>
          if strip loginId ≠ strip expected then .error (.failure .accountMismatch) else .ok (strip loginId)
        | none => .error (.failure .malformedAccountResponse)
      | _ => .error (.failure .malformedAccountResponse)
  | .text _ :: _ => .error (.failure .malformedAccountResponse)

def positiveTimeout : PyValue → Bool
  | .bool b => b
  | .int n => 0 < n
  | .float x => !x.le .zero
  | _ => false

def verifyAccountIdentity (expectedAccountId : String) (timeoutSeconds : PyValue) (kind : SocketKind) (t : TransportRun) :
    Except AuthError String :=
  if blank expectedAccountId then .error (.failure .missingAccountId)
  else if !positiveTimeout timeoutSeconds then .error (.failure .accountIdentityTimeout)
  else if !(kind.sends && kind.receives) then .error (.failure .websocketFailure)
  else
    match t.send with
    | some e => .error e.verifying
    | none => verifyReplies expectedAccountId t.replies

/-! ### The session -/

/-- `connect`, from the response to the OTP request on: the URL and the environment. -/
def readResponse (cfg : DerivAuthConfig) (response : PyValue) : Except AuthError (String × String) :=
  match response with
  | .dict entries =>
    let error := PyValue.get entries "error"
    -- `in` a set hashes the value
    if !error.hashable then .error .typeError
    else if error.eqStr "invalid_token" || error.eqStr "invalid_pat" then .error (.failure .invalidToken)
    else if error.eqStr "expired_token" then .error (.failure .expiredToken)
    else if error.eqStr "revoked_token" then .error (.failure .revokedToken)
    else if error.truthy then .error (.failure .otpFailure)
    else
      match (PyValue.get entries "url").text?, (PyValue.get entries "account_id").text? with
      | none, _ => .error (.failure .malformedOtpResponse)
      | _, none => .error (.failure .missingAccountId)
      | some url, some accountId =>
        match PyValue.get entries "environment" with
        | .list _ | .dict _ => .error .typeError
        | .str environment =>
          if environment ≠ "demo" ∧ environment ≠ "real" then .error (.failure .missingEnvironment)
          else if !cfg.optionsAccountId.text?.all (fun id => strip accountId == strip id) then
            .error (.failure .accountMismatch)
          else
            match cfg.expectedEnvironment with
            | .none => .ok (strip url, environment)
            | expected =>
              if expected.eqStr environment then .ok (strip url, environment) else .error (.failure .environmentMismatch)
        | _ => .error (.failure .missingEnvironment)
  | _ => .error (.failure .malformedOtpResponse)

structure DerivPATOTPSession where
  session : Option DerivAuthSession := none
  connection : Option Socket := none
  state : DerivAuthState := .uninitialized
  openSockets : List ℕ := []
  nextSocket : ℕ := 0

namespace DerivPATOTPSession

variable (cfg : DerivAuthConfig) (s : DerivPATOTPSession)

def failed : DerivPATOTPSession := { s with state := .failed }

def opened (kind : SocketKind) : DerivPATOTPSession :=
  { s with
    connection := some { kind with number := s.nextSocket }
    openSockets := s.nextSocket :: s.openSockets
    nextSocket := s.nextSocket + 1 }

def connect (t : TransportRun) : DerivPATOTPSession × Except AuthError DerivAuthSession :=
  let s := { s with session := none, connection := none, state := .authenticating }
  match cfg.appId.text?, cfg.pat.text?, cfg.optionsAccountId.text? with
  | none, _, _ => (s, .error (.failure .missingAppId))
  | _, none, _ => (s, .error (.failure .missingToken))
  | _, _, none => (s, .error (.failure .missingAccountId))
  | some _, some _, some accountId =>
    match t.otp with
    | .error (.failure code) => (s.failed, .error (.failure code))
    | .error .baseException => (s, .error .baseException)
    | .error _ => (s.failed, .error (.failure .otpFailure))
    | .ok response =>
      match readResponse cfg response with
      | .error .typeError => (s, .error .typeError)
      | .error e => (s.failed, .error e)
      | .ok (url, environment) =>
        match t.socket with
        | .error .baseException => (s, .error .baseException)
        | .error _ => (s.failed, .error (.failure .websocketFailure))
        | .ok kind =>
          let s := s.opened kind
          match verifyAccountIdentity (strip accountId) cfg.identityTimeoutSeconds kind t with
          | .error .baseException => (s, .error .baseException)
          | .error e => (s.failed, .error e)
          | .ok verified =>
            let session := ⟨verified, environment, url⟩
            ({ s with session := some session, state := .ready }, .ok session)

def close (works : Bool) : DerivPATOTPSession :=
  { s with
    session := none
    connection := none
    state := .closed
    openSockets :=
      match s.connection with
      | some socket => if socket.closes && works then s.openSockets.filter (· ≠ socket.number) else s.openSockets
      | none => s.openSockets }

def markExpired : DerivPATOTPSession := { s with session := none, connection := none, state := .failed }

end DerivPATOTPSession

inductive AuthCall where
  | connect (t : TransportRun)
  | close (works : Bool)
  | markExpired

def DerivPATOTPSession.call (cfg : DerivAuthConfig) (s : DerivPATOTPSession) : AuthCall → DerivPATOTPSession
  | .connect t => (s.connect cfg t).1
  | .close works => s.close works
  | .markExpired => s.markExpired

end Jqe
