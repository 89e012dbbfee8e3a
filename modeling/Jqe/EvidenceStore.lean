import Jqe.CoroSeq
import Jqe.ExecStore
/-!
# EvidenceStore — `CampaignEvidenceStore` (`research/campaign_provenance.py`)

The two tables of campaign evidence, and `start`, `append` and `finalize` on connections of their own.  A `SELECT` runs
outside any transaction.  Each transaction is one writing statement with its commit: nobody else writes in between, and
nobody reads it before.  A fingerprint is its canonical JSON, and so is the payload of an event.
-/
namespace Jqe

open Coro Prog

inductive CampaignStatus where
  | running
  | completed
  deriving DecidableEq

structure CampaignRow where
  fingerprint : String
  status : CampaignStatus
  deriving DecidableEq

structure CampaignEvidence where
  eventId : String
  payload : String
  deriving DecidableEq

structure EvidenceRow extends CampaignEvidence where
  sessionId : String
  deriving DecidableEq

structure EvidenceDb where
  campaigns : AList fun _ : String => CampaignRow
  /-- in the order of `rowid` -/
  evidence : List EvidenceRow

namespace EvidenceDb

def empty : EvidenceDb := ⟨∅, []⟩

def campaign (db : EvidenceDb) (sessionId : String) : Option CampaignRow := db.campaigns.lookup sessionId

def status (db : EvidenceDb) (sessionId : String) : Option CampaignStatus := (db.campaign sessionId).map (·.status)

def rowsOf (db : EvidenceDb) (sessionId : String) : List EvidenceRow :=
  db.evidence.filter (·.sessionId == sessionId)

def setCampaign (db : EvidenceDb) (sessionId : String) (row : CampaignRow) : EvidenceDb :=
  { db with campaigns := db.campaigns.insert sessionId row }

@[simp] theorem campaign_setCampaign (db : EvidenceDb) (sessionId : String) (row : CampaignRow) :
    (db.setCampaign sessionId row).campaign sessionId = some row := AList.lookup_insert _

theorem campaign_setCampaign_of_ne (db : EvidenceDb) {id sessionId : String} (row : CampaignRow)
    (h : id ≠ sessionId) : (db.setCampaign sessionId row).campaign id = db.campaign id := AList.lookup_insert_ne h

def insertCampaign (sessionId fingerprint : String) (db : EvidenceDb) : Except PyExc (Unit × EvidenceDb) :=
  match db.campaign sessionId with
  | some _ => .ok ((), db)
  | none => .ok ((), db.setCampaign sessionId ⟨fingerprint, .running⟩)

def insertEvidence (sessionId : String) (event : CampaignEvidence) (db : EvidenceDb) :
    Except PyExc (Unit × EvidenceDb) :=
  if db.evidence.any fun row => row.sessionId == sessionId && row.eventId == event.eventId then
    .error (.exception "UNIQUE constraint failed: evidence.session_id, evidence.event_id")
  else .ok ((), { db with evidence := db.evidence ++ [{ event with sessionId }] })

/-- `UPDATE campaign SET status='COMPLETED'` of a running one: the rows changed. -/
def completeCampaign (sessionId : String) (db : EvidenceDb) : Except PyExc (Nat × EvidenceDb) :=
  match db.campaign sessionId with
  | some row =>
    if row.status = .running then .ok (1, db.setCampaign sessionId { row with status := .completed }) else .ok (0, db)
  | none => .ok (0, db)

end EvidenceDb

inductive EvidenceStmt where
  | insertCampaign (sessionId fingerprint : String)
  | insertEvidence (sessionId : String) (event : CampaignEvidence)
  | completeCampaign (sessionId : String)
  deriving DecidableEq

namespace EvidenceStmt

@[reducible] def Ans : EvidenceStmt → Type
  | insertCampaign .. | insertEvidence .. => Unit
  | completeCampaign _ => Nat

def apply : (s : EvidenceStmt) → EvidenceDb → Except PyExc (s.Ans × EvidenceDb)
  | insertCampaign sessionId fingerprint => EvidenceDb.insertCampaign sessionId fingerprint
  | insertEvidence sessionId event => EvidenceDb.insertEvidence sessionId event
  | completeCampaign sessionId => EvidenceDb.completeCampaign sessionId

theorem apply_cases {s : EvidenceStmt} {db db' : EvidenceDb} {a : s.Ans} (h : s.apply db = .ok (a, db')) :
    (db' = db ∧ (∀ id event, s ≠ insertEvidence id event) ∧
        ∀ id fingerprint, s = insertCampaign id fingerprint → db.campaign id ≠ none) ∨
      (∃ id fingerprint, s = insertCampaign id fingerprint ∧ db.campaign id = none ∧
        db' = db.setCampaign id ⟨fingerprint, .running⟩) ∨
      (∃ id event, s = insertEvidence id event ∧
        db' = { db with evidence := db.evidence ++ [{ event with sessionId := id }] }) ∨
      ∃ id row, s = completeCampaign id ∧ db.campaign id = some row ∧
        db' = db.setCampaign id { row with status := .completed } := by
  cases s with
  | insertCampaign id fingerprint =>
    change EvidenceDb.insertCampaign id fingerprint db = _ at h
    unfold EvidenceDb.insertCampaign at h
    split at h
    · rename_i row hrow
      cases h
      refine .inl ⟨rfl, fun _ _ h => (by cases h), fun id' fingerprint' heq => ?_⟩
      cases heq
      rw [hrow]
      exact Option.some_ne_none row
    · rename_i hnone
      cases h
      exact .inr (.inl ⟨id, fingerprint, rfl, hnone, rfl⟩)
  | insertEvidence id event =>
    change EvidenceDb.insertEvidence id event db = _ at h
    unfold EvidenceDb.insertEvidence at h
    split at h
    · cases h
    · cases h
      exact .inr (.inr (.inl ⟨id, event, rfl, rfl⟩))
  | completeCampaign id =>
    change EvidenceDb.completeCampaign id db = _ at h
    unfold EvidenceDb.completeCampaign at h
    split at h
    · rename_i row hrow
      split at h
      · cases h
        exact .inr (.inr (.inr ⟨id, row, rfl, hrow, rfl⟩))
      · cases h
        exact .inl ⟨rfl, fun _ _ h => (by cases h), fun _ _ h => (by cases h)⟩
    · cases h
      exact .inl ⟨rfl, fun _ _ h => (by cases h), fun _ _ h => (by cases h)⟩

end EvidenceStmt

inductive EvidenceReq where
  | connect
  /-- `SELECT … FROM campaign WHERE session_id=?` -/
  | selectCampaign (sessionId : String)
  /-- a statement and the commit that ends its `with` -/
  | write (stmt : EvidenceStmt)
  deriving DecidableEq

@[reducible] def EvidenceReq.Ans : EvidenceReq → Type
  | connect => Unit
  | selectCampaign _ => Option CampaignRow
  | write stmt => stmt.Ans

abbrev EvidenceProg := Prog EvidenceReq EvidenceReq.Ans PyExc

namespace CampaignEvidenceStore

def ask (r : EvidenceReq) : EvidenceProg r.Ans := perform r

def fail {α : Type} (message : String) : EvidenceProg α := .raise (.exception message)

def startWith (sessionId fingerprint : String) (row : Option CampaignRow) : EvidenceProg Unit :=
  if row.any (·.fingerprint != fingerprint) then fail "research fingerprint mismatch"
  else if row.any (·.status == .completed) then fail "completed campaign evidence is immutable"
  else ask (.write (.insertCampaign sessionId fingerprint))

def start (sessionId fingerprint : String) : EvidenceProg Unit := do
  ask .connect
  let row ← ask (.selectCampaign sessionId)
  startWith sessionId fingerprint row

def appendWith (sessionId : String) (event : CampaignEvidence) (row : Option CampaignRow) : EvidenceProg Unit :=
  if row.any (·.status == .running) then ask (.write (.insertEvidence sessionId event))
  else fail "campaign evidence is unavailable or immutable"

def append (sessionId : String) (event : CampaignEvidence) : EvidenceProg Unit := do
  ask .connect
  let row ← ask (.selectCampaign sessionId)
  appendWith sessionId event row

def finalize (sessionId : String) : EvidenceProg Unit := do
  ask .connect
  let changed ← ask (.write (.completeCampaign sessionId))
  if changed ≠ 1 then fail "campaign evidence cannot be finalized" else pure ()

end CampaignEvidenceStore

inductive EvidenceCall where
  | start (sessionId fingerprint : String)
  | append (sessionId : String) (event : CampaignEvidence)
  | finalize (sessionId : String)

def EvidenceCall.prog : EvidenceCall → EvidenceProg Unit
  | start sessionId fingerprint => CampaignEvidenceStore.start sessionId fingerprint
  | append sessionId event => CampaignEvidenceStore.append sessionId event
  | finalize sessionId => CampaignEvidenceStore.finalize sessionId

structure EvidenceWorld where
  db : EvidenceDb
  past : List EvidenceDb

/-- **What a request may do**: a statement commits, raises rolled back, or raises although it committed. -/
inductive EvidenceExec (w : EvidenceWorld) : (r : EvidenceReq) → Except PyExc r.Ans → EvidenceWorld → Prop
  | connected : EvidenceExec w .connect (.ok ()) w
  | selected (sessionId : String) : EvidenceExec w (.selectCampaign sessionId) (.ok (w.db.campaign sessionId)) w
  | committed (stmt : EvidenceStmt) {a : stmt.Ans} {db' : EvidenceDb} (h : stmt.apply w.db = .ok (a, db')) :
      EvidenceExec w (.write stmt) (.ok a) ⟨db', w.db :: w.past⟩
  | lost (stmt : EvidenceStmt) {a : stmt.Ans} {db' : EvidenceDb} (e : PyExc) (h : stmt.apply w.db = .ok (a, db')) :
      EvidenceExec w (.write stmt) (.error e) ⟨db', w.db :: w.past⟩
  | failed (r : EvidenceReq) (e : PyExc) : EvidenceExec w r (.error e) w

/-- **Any calls on one database, each on its own connection.** -/
def evidenceSystem : System EvidenceReq EvidenceReq.Ans PyExc EvidenceWorld EvidenceCall where
  init w := w.past = []
  admits _ := True
  exec w _ r ans w' := EvidenceExec w r ans w'
  tick _ _ := False

abbrev EvidenceConfig := Config EvidenceReq EvidenceReq.Ans PyExc Unit EvidenceWorld EvidenceCall

end Jqe
