import Jqe.FillObserve
import Jqe.LedgerStore
import Jqe.Mt5History
import Jqe.Mt5Positions
/-!
# CloseMonitor — `monitoring/weltrade_close_monitor.py`

One pass over the open rows of the position ledger: each is compared with the broker's positions, and where it shrank
with the closed deals of the account.  What a notification says is left out.
-/
namespace Jqe

open Coro Prog

inductive CloseReq where
  /-- the configuration and `terminal.initialize` -/
  | connect
  /-- `terminal.login` and the checks of the account: its currency -/
  | login
  | positionsGet
  | now
  | openEntries
  /-- `read_mt5_trade_history_snapshot` -/
  | history (start endAt : Int)
  | ledger (op : LedgerOp)
  | tradeBlocked (row : PositionLedgerEntry)
  /-- `open_entries`, read again after an update that changed nothing -/
  | openEntriesAgain
  | pendingCloseNotifications
  | demoTrade (row : PositionLedgerEntry)
  | recordPostFillIntegrityHalt (reason : String)
  | postFillIntegrityHalt
  | shutdown

@[reducible] def CloseReq.Ans : CloseReq → Type
  | connect => Bool
  | login => String
  | positionsGet => Option (List Mt5Position)
  | now => Int
  | openEntries | openEntriesAgain | pendingCloseNotifications => List PositionLedgerEntry
  | history .. => TradeHistorySnapshot
  | ledger op => op.Ans
  | tradeBlocked _ | demoTrade _ | recordPostFillIntegrityHalt _ | shutdown => Unit
  | postFillIntegrityHalt => Option String

abbrev CloseProg := Prog CloseReq CloseReq.Ans PyExc

/-- The tolerance of volumes, relative and absolute. -/
def volumeTol : ℚ := 1 / 10 ^ 8

def closeVolume (a b : ℚ) : Bool := isClose a b volumeTol volumeTol

def TradeHistoryEntry.lots (t : TradeHistoryEntry) : ℚ := t.volume.rat?.getD 0

def lastClosed : List TradeHistoryEntry → Option TradeHistoryEntry
  | [] => none
  | t :: closes => some (closes.foldl (fun best t => if best.closedAt < t.closedAt then t else best) t)

structure CloseFinding where
  last : TradeHistoryEntry
  closeReason : String
  pnl : ℚ
  turnover : ℚ
  closedVolume : ℚ
  deriving DecidableEq

namespace CloseMonitor

def ask (r : CloseReq) : CloseProg r.Ans := perform r

def fail {α : Type} (message : String) : CloseProg α := .raise (.exception message)

def tryExcept {α : Type} (p handler : CloseProg α) : CloseProg α :=
  tryCatch p fun e => if e.isException then handler else .raise e

def halt {α : Type} (reason : String) : CloseProg α := do
  ask (.recordPostFillIntegrityHalt reason)
  fail ("Weltrade close reconciliation halted: " ++ reason)

def alertUnconfirmed (row : PositionLedgerEntry) : CloseProg Unit := do
  let claimed ← ask (.ledger (.claimCloseUnconfirmedNotificationOnce "weltrade" row.positionId))
  if claimed then tryExcept (ask (.tradeBlocked row)) (pure ()) else pure ()

def sendPendingClose (row : PositionLedgerEntry) : CloseProg Unit := do
  let claimed ← ask (.ledger (.claimCloseNotificationOnce "weltrade" row.positionId))
  if claimed then tryExcept (ask (.demoTrade row)) (pure ()) else pure ()

def sendPendingEach : List PositionLedgerEntry → CloseProg Unit
  | [] => pure ()
  | row :: rows => do
    sendPendingClose row
    sendPendingEach rows

def sendPendingCloses : CloseProg Unit := do
  let rows ← ask .pendingCloseNotifications
  sendPendingEach rows

/-- A row whose evidence does not hold. -/
def unconfirmed (notify : Bool) (row : PositionLedgerEntry) : CloseProg Unit := do
  tryExcept (do
    let _ ← ask (.ledger (.markCloseUnconfirmed "weltrade" row.positionId))
    if notify then alertUnconfirmed row else pure ()) (halt "CLOSE_LEDGER_WRITE_FAILED")
  halt "CLOSE_UNCONFIRMED"

def byTicket (positions : List Mt5Position) (positionId : String) : Option Mt5Position :=
  (positions.filter fun p => toString p.ticket == positionId).getLast?

variable [CaseMap]

/-- **The checks of a row that shrank**, and what its close is recorded with when they pass. -/
def finding? (row : PositionLedgerEntry) (volume observed : ℚ) (history : TradeHistorySnapshot) (start now : Int) :
    Option CloseFinding :=
  let closes := history.trades.filter fun t => t.positionId == some row.positionId
  let closedVolume := (closes.map (·.lots)).sum
  match lastClosed closes, history.positionFees.lookup row.positionId with
  | some last, some fees =>
    if history.covers start now
        && closes.all (fun t => normalizeSymbol t.symbol == normalizeSymbol row.symbol)
        && decide (0 < volume - observed)
        && (closes.all (·.volume.isFinite) && closeVolume closedVolume (volume - observed))
        && closes.all (fun t => decide (0 < t.closePrice))
        && closeVolume ((history.positionOpenVolume.lookup row.positionId).getD 0) volume then
      some {
        last
        closeReason := if closes.all (·.closeReason == last.closeReason) then last.closeReason else "UNKNOWN"
        pnl := (closes.map (·.profit)).sum + fees
        turnover := (closes.map fun t => t.lots * t.closePrice).sum
        closedVolume }
    else none
  | _, _ => none

omit [CaseMap] in
/-- The row that an update left is the one wanted: `math.isclose` at its defaults. -/
def agrees (current : PositionLedgerEntry) (remaining pnl : ℚ) : Bool :=
  (current.remainingVolume.any fun q => isClose q remaining (1 / 10 ^ 9) 0) &&
    ((current.realizedPnl.bind (·.rat?)).any fun q => isClose q pnl (1 / 10 ^ 9) 0)

omit [CaseMap] in
/-- The writes of a confirmed close, of the whole position or of a part of it. -/
def settle (row : PositionLedgerEntry) (observed : Option ℚ) (currency : String) (f : CloseFinding) (exitPrice : ℚ) :
    CloseProg Unit :=
  match observed with
  | none => do
    let changed ← ask (.ledger (.markClosed "weltrade" row.positionId (some f.last.closedAt)
      { closePrice := some (.fin exitPrice), realizedPnl := some (.fin f.pnl), currency := some currency
        reconciliationState := some "CLOSE_CONFIRMED", closeReason := some f.closeReason }))
    if !changed then fail "Confirmed close ledger row was not updated" else pure ()
  | some remaining => do
    let changed ← ask (.ledger (.markPartialClose "weltrade" row.positionId (.fin remaining) (.fin f.pnl)))
    if changed then pure ()
    else
      let rows ← ask .openEntriesAgain
      if (rows.find? (·.positionId == row.positionId)).any fun current => agrees current remaining f.pnl then pure ()
      else fail "Partial close ledger row was not updated"

def closeRow (notify : Bool) (positions : List Mt5Position) (now : Int) (currency : String) (row : PositionLedgerEntry) :
    CloseProg Unit :=
  match row.volume.filter (0 < ·) with
  | none => unconfirmed notify row
  | some volume =>
    let observed := (byTicket positions row.positionId).map (·.volume)
    if observed.any (closeVolume · volume) then pure ()
    else do
      let start := row.openedAt - 300
      let history ← ask (.history start now)
      match finding? row volume (observed.getD 0) history start now with
      | none => unconfirmed notify row
      | some f =>
        if f.closedVolume = 0 then fail "float division by zero"
        else tryExcept (settle row observed currency f (f.turnover / f.closedVolume)) (halt "CLOSE_LEDGER_WRITE_FAILED")

def closeRows (notify : Bool) (positions : List Mt5Position) (now : Int) (currency : String) :
    List PositionLedgerEntry → CloseProg Unit
  | [] => pure ()
  | row :: rows => do
    closeRow notify positions now currency row
    closeRows notify positions now currency rows

def finishPass (notify : Bool) : CloseProg Unit := do
  tryExcept (if notify then sendPendingCloses else pure ()) (halt "CLOSE_LEDGER_WRITE_FAILED")
  let halted ← ask .postFillIntegrityHalt
  if halted.isSome then fail "Weltrade persisted integrity halt remains active" else pure ()

def reconcilePass (notify : Bool) (currency : String) : CloseProg Unit := do
  match ← ask .positionsGet with
  | none => halt "CLOSE_POSITION_SNAPSHOT_UNAVAILABLE"
  | some positions =>
    let now ← ask .now
    let rows ← ask .openEntries
    closeRows notify positions now currency rows
    finishPass notify

end CloseMonitor

def monitorWeltradeCloses [CaseMap] (notify : Bool) : CloseProg Unit := do
  let connected ← CloseMonitor.ask .connect
  finallyDo
    (if connected then do
      let currency ← CloseMonitor.ask .login
      CloseMonitor.reconcilePass notify currency
    else CloseMonitor.fail "Weltrade close monitor connection unavailable")
    (if connected then CloseMonitor.ask .shutdown else pure ())

end Jqe
