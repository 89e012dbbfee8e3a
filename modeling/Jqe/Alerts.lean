import Jqe.CloseSettled
import Jqe.CoroPermit
import Jqe.CoroSeq
/-!
# Alerts — who sends a trade notification, and when

Close monitors, main cycles behind a confirmed fill, other writers of the position ledger and deliveries of the Telegram
channel (`notifications/telegram_channel.py`), any number of each over one ledger and one claim store.  What a
notification says is left out; a delivery is one turn of the channel's worker, whose notification may be any.
-/
namespace Jqe

open Coro Prog

/-! ### Requests -/

inductive ChannelKind where
  | positionOpened
  | positionClosed
  | orderRejected
  | channelUpdate
  deriving DecidableEq

/-- **What a channel post is claimed by.** -/
structure ChannelEvent where
  destination : String
  kind : ChannelKind
  eventId : String
  deriving DecidableEq

/-- How a post ends: without an error, with one of code 429, or with another one. -/
inductive PostReply where
  | delivered
  | rateLimited
  | failed
  deriving DecidableEq

inductive AlertReq where
  | close (r : CloseReq)
  | getPositions
  | getPricePoint (symbol : String)
  | ledger (op : LedgerOp)
  | recordPostFillIntegrityHalt (reason : String)
  /-- `demo_trade` of kind OPENED -/
  | openedTrade (positionId : String)
  /-- `_claim_once` -/
  | claimOnce (event : ChannelEvent)
  | post (event : ChannelEvent)
  | sleep

@[reducible] def AlertReq.Ans : AlertReq → Type
  | close r => r.Ans
  | getPositions => List PositionItem
  | getPricePoint _ => PyFloat
  | ledger op => op.Ans
  | recordPostFillIntegrityHalt _ | openedTrade _ | sleep => Unit
  | claimOnce _ => Bool
  | post _ => PostReply

abbrev AlertProg := Prog AlertReq AlertReq.Ans PyExc

namespace Alerts

def ask (r : AlertReq) : AlertProg r.Ans := perform r

def fail {α : Type} (message : String) : AlertProg α := .raise (.exception message)

/-- `try: … except Exception: …`. -/
def tryExcept {α : Type} (p handler : AlertProg α) : AlertProg α :=
  tryCatch p fun e => if e.isException then handler else .raise e

/-! ### The main cycle -/

/-- The settings of a fill that only its row keeps. -/
structure FillTerms where
  lifetimeMinutes : Option Int
  timeframe : Option String

end Alerts

def FillObservation.fill (f : FillObservation) (terms : Alerts.FillTerms) (p : Position) (openedAt : Int) (stopLoss : ℚ) :
    Ledger.ConfirmedFill where
  broker := "weltrade"
  symbol := p.symbol
  positionId := p.positionId
  orderId := f.orderId
  side := p.side
  volume := .fin p.volume
  entryPrice := .fin p.openPrice
  stopLoss := .fin stopLoss
  openedAt := some openedAt
  expectedLifetimeAt := terms.lifetimeMinutes.map fun minutes => openedAt + 60 * minutes
  timeframe := terms.timeframe

namespace Alerts

/-- The ledger's part: the fill is recorded and its alert claimed. -/
def recordFill (f : FillObservation) (terms : FillTerms) (p : Position) (openedAt : Int) (stopLoss : ℚ) :
    AlertProg Bool := do
  let _ ← ask (.ledger (.recordConfirmedFillOnce (f.fill terms p openedAt stopLoss)))
  ask (.ledger (.claimOpenNotificationOnce "weltrade" p.positionId))

/-- The body of the `try`: the position whose OPENED alert was claimed, if it was. -/
def verifyFill [CaseMap] (f : FillObservation) (terms : FillTerms) : AlertProg (Option String) := do
  let positions ← ask .getPositions
  match ← (Prog.ofExcept (f.matching positions) : AlertProg _) with
  | [] =>
    if !f.requirePosition then pure none else fail "Confirmed Weltrade fill has no unique broker position"
  | [p] =>
    match (f.unlinked p).or (f.volumeProblem p) with
    | some message => fail message
    | none =>
      match p.openedAt, p.stopLoss with
      | some openedAt, some stopLoss => do
        let point ← ask (.getPricePoint p.symbol)
        if !f.stopHeld stopLoss point then fail "Broker position stop differs from the approved trade plan"
        else
          let sendOnce ← recordFill f terms p openedAt stopLoss
          if sendOnce then pure (some p.positionId) else pure none
      | _, _ => fail "Broker position lacks opening time or protective stop"
  | _ => fail "Confirmed Weltrade fill has no unique broker position"

def observeFill [CaseMap] (f : FillObservation) (terms : FillTerms) : AlertProg Unit := do
  let claimed ← tryExcept (verifyFill f terms) (do
    tryExcept (ask (.recordPostFillIntegrityHalt "CONFIRMED_FILL_LEDGER_UNVERIFIED")) (pure ())
    fail "Weltrade post-fill ledger unverified; supervisor must stop")
  match claimed with
  | some positionId => tryExcept (ask (.openedTrade positionId)) (pure ())
  | none => pure ()

/-! ### The channel -/

def postFrom (event : ChannelEvent) : ℕ → AlertProg Unit
  | 0 => pure ()
  | n + 1 => do
    let reply ← tryExcept (ask (.post event)) (pure .failed)
    match reply with
    | .delivered | .failed => pure ()
    | .rateLimited =>
      if n = 0 then pure ()
      else
        ask .sleep
        postFrom event n

def deliver (event : ChannelEvent) : AlertProg Unit :=
  tryExcept (do
    let claimed ← ask (.claimOnce event)
    if !claimed then pure ()
    else
      postFrom event 3
      ask .sleep) (pure ())

end Alerts

inductive AlertRun where
  | monitor (notify : Bool)
  | cycle (f : FillObservation) (terms : Alerts.FillTerms)
  | writer (op : LedgerOp)
  | delivery (event : ChannelEvent)

def AlertRun.prog [CaseMap] : AlertRun → AlertProg Unit
  | monitor notify => (monitorWeltradeCloses notify).interpret fun r => perform (.close r)
  | cycle f terms => Alerts.observeFill f terms
  | writer op => do
    let _ ← Alerts.ask (.ledger op)
    pure ()
  | delivery event => Alerts.deliver event

/-! ### The world -/

inductive AlertKind where
  | opened
  | closed
  | closeUnconfirmed
  deriving DecidableEq

inductive AlertKey where
  | trade (kind : AlertKind) (broker positionId : String)
  | channel (event : ChannelEvent)
  deriving DecidableEq

def Ledger.closeConfirmed (l : Ledger) (positionId : String) : Bool :=
  (l.row ("weltrade", positionId)).any fun r => r.closedAt.isSome && r.reconciliationState == some "CLOSE_CONFIRMED"

structure AlertWorld where
  ledger : Ledger
  /-- `telegram_channel_claims` -/
  channelClaims : List ChannelEvent
  /-- the attempts of alerts, and the channel posts that ended without an error -/
  log : List AlertKey
  /-- the positions of CLOSED attempts whose close was not confirmed at that moment -/
  premature : List String

namespace AlertWorld

def attempt (w : AlertWorld) (key : AlertKey) : AlertWorld := { w with log := key :: w.log }

def closedAttempt (w : AlertWorld) (positionId : String) : AlertWorld :=
  { w.attempt (.trade .closed "weltrade" positionId) with
    premature := if w.ledger.closeConfirmed positionId then w.premature else positionId :: w.premature }

end AlertWorld

def AlertReq.free : AlertReq → Bool
  | .close .connect | .close .login | .close .positionsGet | .close .now | .close (.history ..)
  | .close (.recordPostFillIntegrityHalt _) | .close .postFillIntegrityHalt | .close .shutdown | .getPositions
  | .getPricePoint _ | .recordPostFillIntegrityHalt _ | .sleep => true
  | _ => false

/-- The requests that may also raise without an effect. -/
def AlertReq.raises : AlertReq → Bool
  | .close .openEntries | .close .openEntriesAgain | .close .pendingCloseNotifications | .claimOnce _ | .post _ => true
  | _ => false

/-- **What a request may do.**  Each statement of the ledger and of the claim store is atomic. -/
inductive AlertExec (w : AlertWorld) : (r : AlertReq) → Except PyExc r.Ans → AlertWorld → Prop
  | free (r : AlertReq) (ans : Except PyExc r.Ans) (hr : r.free = true) : AlertExec w r ans w
  | raised (r : AlertReq) (e : PyExc) (hr : r.raises = true) : AlertExec w r (.error e) w
  | ledger (op : LedgerOp) {ans : Except PyExc op.Ans} {l' : Ledger} (h : LedgerExec w.ledger op ans l') :
      AlertExec w (.ledger op) ans { w with ledger := l' }
  | closeLedger (op : LedgerOp) {ans : Except PyExc op.Ans} {l' : Ledger} (h : LedgerExec w.ledger op ans l') :
      AlertExec w (.close (.ledger op)) ans { w with ledger := l' }
  | openEntries {rows : List PositionLedgerEntry} (h : w.ledger.openEntries "weltrade" = .ok rows) :
      AlertExec w (.close .openEntries) (.ok rows) w
  | openEntriesAgain {rows : List PositionLedgerEntry} (h : w.ledger.openEntries "weltrade" = .ok rows) :
      AlertExec w (.close .openEntriesAgain) (.ok rows) w
  | pending : AlertExec w (.close .pendingCloseNotifications) (.ok (w.ledger.pendingCloseNotifications "weltrade")) w
  | tradeBlocked (row : PositionLedgerEntry) (ans : Except PyExc Unit) :
      AlertExec w (.close (.tradeBlocked row)) ans (w.attempt (.trade .closeUnconfirmed "weltrade" row.positionId))
  | demoTrade (row : PositionLedgerEntry) (ans : Except PyExc Unit) :
      AlertExec w (.close (.demoTrade row)) ans (w.closedAttempt row.positionId)
  | openedTrade (positionId : String) (ans : Except PyExc Unit) :
      AlertExec w (.openedTrade positionId) ans (w.attempt (.trade .opened "weltrade" positionId))
  | claimed (event : ChannelEvent) (h : event ∉ w.channelClaims) :
      AlertExec w (.claimOnce event) (.ok true) { w with channelClaims := event :: w.channelClaims }
  | claimLost (event : ChannelEvent) (e : PyExc) (h : event ∉ w.channelClaims) :
      AlertExec w (.claimOnce event) (.error e) { w with channelClaims := event :: w.channelClaims }
  | notClaimed (event : ChannelEvent) (h : event ∈ w.channelClaims) : AlertExec w (.claimOnce event) (.ok false) w
  | posted (event : ChannelEvent) : AlertExec w (.post event) (.ok .delivered) (w.attempt (.channel event))
  | notPosted (event : ChannelEvent) (reply : PostReply) (h : reply ≠ .delivered) :
      AlertExec w (.post event) (.ok reply) w

def LedgerOp.claims : LedgerOp → Bool
  | claimOpenNotificationOnce .. | claimCloseNotificationOnce .. | claimCloseUnconfirmedNotificationOnce .. => true
  | _ => false

/-- **Runs of any programs over one ledger and one claim store**, from any rows and claims; others do not claim. -/
def alertSystem : System AlertReq AlertReq.Ans PyExc AlertWorld AlertRun where
  init w := w.log = [] ∧ w.premature = []
  admits
    | .writer op => op.claims = false
    | _ => True
  exec w _ := AlertExec w
  tick _ _ := False

abbrev AlertConfig := Config AlertReq AlertReq.Ans PyExc Unit AlertWorld AlertRun

end Jqe
