import Jqe.AwareTime
import Jqe.BrokerTypes
import Mathlib.Algebra.BigOperators.Group.List.Basic
import Mathlib.Tactic.Ring
import Mathlib.Tactic.Linarith
/-!
# DashboardPaper — `DashboardPaperStore` of `execution/dashboard_paper.py`: paper outcomes and the day's counters

One row an outcome, its payload with it; a close overwrites the row.  `PaperRecord` is what happened to a setup, of which
the store keeps the last word only.  Decimals are rationals, and a moment without a timezone is one in UTC.
-/
namespace Jqe

open AwareTime

inductive PaperOutcomeStatus where
  | opened
  | closed
  | blocked
  | alreadyRecorded
  | unknown
  deriving DecidableEq

inductive PaperSetupState where
  | ready
  | blocked
  | expired
  | executed
  deriving DecidableEq

structure PaperOutcome where
  outcomeId : String
  setupId : String
  recordedAt : AwareDatetime
  status : PaperOutcomeStatus
  setupState : PaperSetupState
  orderId : Option String := none
  executionPrice : Option ℚ := none
  quantity : Option ℚ := none
  quantityUnit : Option String := none
  realizedPnl : Option ℚ := none
  closeReason : Option String := none
  reasonCodes : List String := []
  message : String
  deriving DecidableEq

structure DashboardSetup where
  setupId : String
  symbol : String
  direction : String
  deriving DecidableEq

structure PaperOutcomeRow where
  outcomeId : String
  setupId : String
  symbol : String
  side : String
  orderId : Option String
  executionPrice : Option ℚ
  quantity : Option ℚ
  quantityUnit : Option String
  status : PaperOutcomeStatus
  payload : PaperOutcome
  recordedAt : AwareDatetime
  deriving DecidableEq

structure DashboardClose where
  realizedPnl : ℚ
  closeReason : String
  recordedAt : AwareDatetime
  message : String
  deriving DecidableEq

def PaperOutcome.closedBy (o : PaperOutcome) (c : DashboardClose) : PaperOutcome :=
  { o with
    status := .closed
    realizedPnl := some c.realizedPnl
    closeReason := some c.closeReason
    recordedAt := c.recordedAt
    message := c.message }

def outcomeRow (setup : DashboardSetup) (o : PaperOutcome) : PaperOutcomeRow :=
  ⟨o.outcomeId, setup.setupId, setup.symbol, setup.direction, o.orderId, o.executionPrice, o.quantity, o.quantityUnit,
    o.status, o, o.recordedAt⟩

def recordOutcome (rows : List PaperOutcomeRow) (setup : DashboardSetup) (o : PaperOutcome) :
    Except PyExc (List PaperOutcomeRow) :=
  if ∃ r ∈ rows, r.outcomeId = o.outcomeId then .error (.exception "UNIQUE constraint failed: paper_outcomes.outcome_id")
  else if ∃ r ∈ rows, r.setupId = setup.setupId then
    .error (.exception "UNIQUE constraint failed: paper_outcomes.setup_id")
  else .ok (rows ++ [outcomeRow setup o])

def getOutcome (rows : List PaperOutcomeRow) (setupId : String) : Option PaperOutcome :=
  (rows.find? (·.setupId = setupId)).map (·.payload)

def recordClose (rows : List PaperOutcomeRow) (setupId : String) (c : DashboardClose) :
    Except PyExc (List PaperOutcomeRow × PaperOutcome) :=
  match getOutcome rows setupId with
  | none => .error (.exception "Paper position is not open")
  | some existing =>
    if existing.status = .closed then .ok (rows, existing)
    else if existing.status ≠ .opened then .error (.exception "Paper position is not open")
    else
      let closed := existing.closedBy c
      let changed := rows.countP fun r => r.setupId = setupId && r.status = .opened
      let updated := rows.map fun r =>
        if r.setupId = setupId ∧ r.status = .opened then
          { r with status := .closed, payload := closed, recordedAt := c.recordedAt }
        else r
      if changed = 1 then .ok (updated, closed)
      else
        match getOutcome updated setupId with
        | some winner =>
          if winner.status = .closed then .ok (updated, winner)
          else .error (.exception "Paper close persistence conflict")
        | none => .error (.exception "Paper close persistence conflict")

def dayMicros : ℤ := 86400 * 10 ^ 6

def textDate (d : AwareDatetime) : ℤ := d.wall / dayMicros

def utcDate [TimeZones] (d : AwareDatetime) : ℤ := d.instant / dayMicros

/-- What a realized P/L adds to the day's loss. -/
def realizedLoss : Option ℚ → ℚ
  | some pnl => if pnl < 0 then -pnl else 0
  | none => 0

/-- **`daily_counts`**: the payloads of the rows whose moment's text starts with the UTC date of `now`. -/
def dailyCounts [TimeZones] (rows : List PaperOutcomeRow) (now : AwareDatetime) : Except PyExc (ℕ × ℚ) :=
  match now.toUtc with
  | none => .error (.exception "date value out of range")
  | some utc =>
    let outcomes := (rows.filter fun r => textDate r.recordedAt = textDate utc).map (·.payload)
    .ok (outcomes.countP (·.status = .opened), (outcomes.map fun o => realizedLoss o.realizedPnl).sum)

/-! ### What happened -/

/-- **What happened to a setup**: the outcome recorded for it, and the close that took effect. -/
structure PaperRecord where
  setup : DashboardSetup
  outcome : PaperOutcome
  close : Option DashboardClose

inductive DashboardCall where
  | recordOutcome (setup : DashboardSetup) (outcome : PaperOutcome)
  | recordClose (setupId : String) (close : DashboardClose)

structure DashboardState where
  rows : List PaperOutcomeRow
  records : List PaperRecord

def DashboardState.call (s : DashboardState) : DashboardCall → DashboardState
  | .recordOutcome setup o =>
    match recordOutcome s.rows setup o with
    | .ok rows => ⟨rows, s.records ++ [⟨setup, o, none⟩]⟩
    | .error _ => s
  | .recordClose setupId c =>
    match recordClose s.rows setupId c with
    | .ok (rows, _) =>
      -- an outcome closed before is returned as it is
      if (getOutcome s.rows setupId).map (·.status) = some .opened then
        ⟨rows, s.records.map fun r => if r.setup.setupId = setupId then { r with close := some c } else r⟩
      else ⟨rows, s.records⟩
    | .error _ => s

def dashboardRun (calls : List DashboardCall) : DashboardState := calls.foldl DashboardState.call ⟨[], []⟩

section

variable [TimeZones]

def PaperRecord.OpenedOn (r : PaperRecord) (day : ℤ) : Prop :=
  r.outcome.status = .opened ∧ utcDate r.outcome.recordedAt = day

instance (r : PaperRecord) (day : ℤ) : Decidable (r.OpenedOn day) := inferInstanceAs (Decidable (_ ∧ _))

def openedOn (records : List PaperRecord) (day : ℤ) : ℕ := records.countP fun r => r.OpenedOn day

/-- What the setup lost on the day: with its outcome, and with its close. -/
def PaperRecord.lostOn (r : PaperRecord) (day : ℤ) : ℚ :=
  (if utcDate r.outcome.recordedAt = day then realizedLoss r.outcome.realizedPnl else 0) +
    match r.close with
    | some c => if utcDate c.recordedAt = day then realizedLoss (some c.realizedPnl) else 0
    | none => 0

def lostOn (records : List PaperRecord) (day : ℤ) : ℚ := (records.map (·.lostOn day)).sum

/-- What counts is recorded at a moment whose text has its UTC date. -/
def DashboardCall.Dated : DashboardCall → Prop
  | .recordOutcome _ o => o.status = .opened ∨ realizedLoss o.realizedPnl ≠ 0 → textDate o.recordedAt = utcDate o.recordedAt
  | .recordClose _ c => c.realizedPnl < 0 → textDate c.recordedAt = utcDate c.recordedAt

end

end Jqe
