import Jqe.EvidenceStore
/-!
# EvidenceSealed — when a finished session stays as it is

`append` and `start` read the campaign in one statement and write in a later one, outside any transaction of the first.
What was read still holds at the write exactly where the write of no other call comes between (`Apart`).
-/
namespace Jqe

open Coro Prog CampaignEvidenceStore

/-- **No write comes between the reading of another call and its own write**: no session is completed that a call is
about to add evidence to, and none is created that a call is about to create with another fingerprint. -/
def Apart (c : EvidenceConfig) : EvidenceReq → Prop
  | .write (.completeCampaign sessionId) =>
    ∀ n i event k, c.runs n ≠ some (i, some (.call (.write (.insertEvidence sessionId event)) k))
  | .write (.insertCampaign sessionId fingerprint) =>
    c.world.db.campaign sessionId = none → ∀ n i other k,
      c.runs n = some (i, some (.call (.write (.insertCampaign sessionId other)) k)) → other = fingerprint
  | _ => True

/-- A session that was completed has the evidence it had then, and still is. -/
def EvidenceWorld.Sealed (w : EvidenceWorld) : Prop :=
  ∀ db ∈ w.past, ∀ id, db.status id = some .completed →
    w.db.status id = some .completed ∧ w.db.rowsOf id = db.rowsOf id

/-- **Where a call stands**, and what of its reading still holds. -/
inductive Stage (db : EvidenceDb) : EvidenceCall → EvidenceProg Unit → Prop
  | begun (call : EvidenceCall) : Stage db call call.prog
  | raised (call : EvidenceCall) (e : PyExc) : Stage db call (.raise e)
  | startRead (id fingerprint : String) :
      Stage db (.start id fingerprint) (ask (.selectCampaign id) >>= startWith id fingerprint)
  | startWrite (id fingerprint : String) (h : ∀ row, db.campaign id = some row → row.fingerprint = fingerprint) :
      Stage db (.start id fingerprint) (ask (.write (.insertCampaign id fingerprint)))
  | started (id fingerprint : String) (h : ∃ row, db.campaign id = some row ∧ row.fingerprint = fingerprint) :
      Stage db (.start id fingerprint) (.ret ())
  | appendRead (id : String) (event : CampaignEvidence) :
      Stage db (.append id event) (ask (.selectCampaign id) >>= appendWith id event)
  | appendWrite (id : String) (event : CampaignEvidence) (h : db.status id = some .running) :
      Stage db (.append id event) (ask (.write (.insertEvidence id event)))
  | appended (id : String) (event : CampaignEvidence) : Stage db (.append id event) (.ret ())
  | finalizeWrite (id : String) :
      Stage db (.finalize id) (do
        let changed ← ask (.write (.completeCampaign id))
        if changed ≠ 1 then fail "campaign evidence cannot be finalized" else pure ())
  | finalized (id : String) : Stage db (.finalize id) (.ret ())

structure EvidenceInv (c : EvidenceConfig) : Prop where
  stage : ∀ n i p, c.runs n = some (i, some p) → Stage c.world.db i p
  closed : c.world.Sealed

/-! ## What a statement leaves -/

section Statement

variable {s : EvidenceStmt} {db db' : EvidenceDb} {a : s.Ans} {id : String}

theorem EvidenceStmt.apply_campaign (h : s.apply db = .ok (a, db')) {row : CampaignRow}
    (hrow : db.campaign id = some row) : ∃ row', db'.campaign id = some row' ∧ row'.fingerprint = row.fingerprint ∧
      (row'.status = row.status ∨ s = .completeCampaign id ∧ row'.status = .completed) := by
  rcases apply_cases h with ⟨rfl, _⟩ | ⟨id', fingerprint, rfl, hnone, rfl⟩ | ⟨id', event, rfl, rfl⟩ |
    ⟨id', old, rfl, hold, rfl⟩
  · exact ⟨row, hrow, rfl, .inl rfl⟩
  · have hne : id ≠ id' := by
      rintro rfl
      rw [hnone] at hrow
      cases hrow
    exact ⟨row, by rw [EvidenceDb.campaign_setCampaign_of_ne _ _ hne, hrow], rfl, .inl rfl⟩
  · exact ⟨row, hrow, rfl, .inl rfl⟩
  · by_cases hid : id = id'
    · subst hid
      rw [hold, Option.some.injEq] at hrow
      exact ⟨_, EvidenceDb.campaign_setCampaign _ _ _, by rw [hrow], .inr ⟨rfl, rfl⟩⟩
    · exact ⟨row, by rw [EvidenceDb.campaign_setCampaign_of_ne _ _ hid, hrow], rfl, .inl rfl⟩

theorem EvidenceStmt.apply_created (h : s.apply db = .ok (a, db')) (hnone : db.campaign id = none) {row' : CampaignRow}
    (hrow' : db'.campaign id = some row') : s = .insertCampaign id row'.fingerprint := by
  rcases apply_cases h with ⟨rfl, _⟩ | ⟨id', fingerprint, rfl, _, rfl⟩ | ⟨id', event, rfl, rfl⟩ |
    ⟨id', old, rfl, hold, rfl⟩
  · rw [hnone] at hrow'
    cases hrow'
  · by_cases hid : id = id'
    · subst hid
      rw [EvidenceDb.campaign_setCampaign, Option.some.injEq] at hrow'
      rw [← hrow']
    · rw [EvidenceDb.campaign_setCampaign_of_ne _ _ hid, hnone] at hrow'
      cases hrow'
  · exact absurd (hnone.symm.trans hrow') (Option.some_ne_none row').symm
  · have hne : id ≠ id' := by
      rintro rfl
      rw [hnone] at hold
      cases hold
    rw [EvidenceDb.campaign_setCampaign_of_ne _ _ hne, hnone] at hrow'
    cases hrow'

theorem EvidenceStmt.apply_rowsOf (h : s.apply db = .ok (a, db')) :
    db'.rowsOf id = db.rowsOf id ∨ ∃ event, s = .insertEvidence id event := by
  rcases apply_cases h with ⟨rfl, _⟩ | ⟨id', fingerprint, rfl, _, rfl⟩ | ⟨id', event, rfl, rfl⟩ |
    ⟨id', old, rfl, hold, rfl⟩
  · exact .inl rfl
  · exact .inl rfl
  · by_cases hid : id' = id
    · exact .inr ⟨event, by rw [hid]⟩
    · refine .inl ?_
      unfold EvidenceDb.rowsOf
      rw [List.filter_append, List.filter_cons_of_neg (by simpa using hid), List.filter_nil, List.append_nil]
  · exact .inl rfl

theorem EvidenceStmt.apply_completed (h : s.apply db = .ok (a, db')) (hdone : db.status id = some .completed) :
    db'.status id = some .completed := by
  obtain ⟨row, hrow, hstatus⟩ := Option.map_eq_some_iff.1 hdone
  obtain ⟨row', hrow', _, hsame | ⟨_, hdone'⟩⟩ := apply_campaign h hrow
  · unfold EvidenceDb.status
    rw [hrow', Option.map_some, hsame, hstatus]
  · unfold EvidenceDb.status
    rw [hrow', Option.map_some, hdone']

end Statement

/-! ## The steps -/

variable {i : EvidenceCall}

theorem Stage.after {c : EvidenceConfig} {s : EvidenceStmt} {db' : EvidenceDb} {a : s.Ans}
    (h : s.apply c.world.db = .ok (a, db')) (hapart : Apart c (.write s)) {n : Nat} {p : EvidenceProg Unit}
    (hn : c.runs n = some (i, some p)) (hstage : Stage c.world.db i p) : Stage db' i p := by
  cases hstage with
  | begun => exact .begun i
  | raised => exact .raised i _
  | startRead id fingerprint => exact .startRead id fingerprint
  | startWrite id fingerprint hread =>
    refine .startWrite id fingerprint fun row' hrow' => ?_
    cases hrow : c.world.db.campaign id with
    | some row =>
      obtain ⟨row'', hrow'', hsame, _⟩ := EvidenceStmt.apply_campaign h hrow
      rw [hrow', Option.some.injEq] at hrow''
      rw [hrow'', hsame]
      exact hread row hrow
    | none =>
      -- another call has created the session in between, with this fingerprint
      obtain rfl := EvidenceStmt.apply_created h hrow hrow'
      exact (hapart hrow n _ fingerprint _ hn).symm
  | started id fingerprint hstarted =>
    obtain ⟨row, hrow, hfp⟩ := hstarted
    obtain ⟨row', hrow', hsame, _⟩ := EvidenceStmt.apply_campaign h hrow
    exact .started id fingerprint ⟨row', hrow', hsame.trans hfp⟩
  | appendRead id event => exact .appendRead id event
  | appendWrite id event hrunning =>
    refine .appendWrite id event ?_
    obtain ⟨row, hrow, hstatus⟩ := Option.map_eq_some_iff.1 hrunning
    obtain ⟨row', hrow', _, hsame | ⟨rfl, _⟩⟩ := EvidenceStmt.apply_campaign h hrow
    · unfold EvidenceDb.status
      rw [hrow', Option.map_some, hsame, hstatus]
    · exact absurd hn (hapart n _ event _)
  | appended id event => exact .appended id event
  | finalizeWrite id => exact .finalizeWrite id
  | finalized id => exact .finalized id

theorem Stage.call {w w' : EvidenceWorld} {r : EvidenceReq} {k : Except PyExc r.Ans → EvidenceProg Unit}
    {ans : Except PyExc r.Ans} (hstage : Stage w.db i (.call r k)) (hx : EvidenceExec w r ans w') :
    Stage w'.db i (k ans) := by
  generalize hp : Prog.call r k = p at hstage
  cases hstage with
  | begun =>
    cases i with
    | start id fingerprint =>
      cases hp
      cases ans with
      | ok _ => exact .startRead id fingerprint
      | error e => exact .raised _ e
    | append id event =>
      cases hp
      cases ans with
      | ok _ => exact .appendRead id event
      | error e => exact .raised _ e
    | finalize id =>
      cases hp
      cases ans with
      | ok _ => exact .finalizeWrite id
      | error e => exact .raised _ e
  | raised => cases hp
  | startRead id fingerprint =>
    cases hp
    cases hx with
    | failed _ e => exact .raised _ e
    | selected =>
      change Stage w.db _ (startWith id fingerprint (w.db.campaign id))
      unfold startWith
      split
      · exact .raised _ _
      · rename_i hsame
        split
        · exact .raised _ _
        · refine .startWrite id fingerprint fun row hrow => ?_
          rw [hrow, Option.any_some, bne_iff_ne, not_not] at hsame
          exact hsame
  | startWrite id fingerprint hread =>
    cases hp
    cases hx with
    | lost _ e _ => exact .raised _ e
    | failed _ e => exact .raised _ e
    | committed _ h =>
      refine .started id fingerprint ?_
      rcases EvidenceStmt.apply_cases h with ⟨rfl, _, hthere⟩ | ⟨_, _, heq, _, rfl⟩ | ⟨_, _, heq, _⟩ | ⟨_, _, heq, _⟩
      · obtain ⟨row, hrow⟩ := Option.ne_none_iff_exists'.1 (hthere id fingerprint rfl)
        exact ⟨row, hrow, hread row hrow⟩
      · cases heq
        exact ⟨_, EvidenceDb.campaign_setCampaign _ _ _, rfl⟩
      · cases heq
      · cases heq
  | started => cases hp
  | appendRead id event =>
    cases hp
    cases hx with
    | failed _ e => exact .raised _ e
    | selected =>
      change Stage w.db _ (appendWith id event (w.db.campaign id))
      unfold appendWith
      split
      · rename_i hrunning
        obtain ⟨row, hrow, hstatus⟩ := (Option.any_eq_true _ _).1 hrunning
        refine .appendWrite id event ?_
        unfold EvidenceDb.status
        rw [hrow, Option.map_some, beq_iff_eq.1 hstatus]
      · exact .raised _ _
  | appendWrite id event hrunning =>
    cases hp
    cases ans with
    | ok _ => exact .appended id event
    | error e => exact .raised _ e
  | appended => cases hp
  | finalizeWrite id =>
    cases hp
    cases ans with
    | ok changed =>
      change Stage w'.db _ (if changed ≠ 1 then fail _ else pure ())
      split
      · exact .raised _ _
      · exact .finalized id
    | error e => exact .raised _ e
  | finalized => cases hp

/-- **A statement of a call keeps what was sealed**: an insert finds its session running. -/
theorem EvidenceWorld.Sealed.write {w : EvidenceWorld} (h : w.Sealed) {s : EvidenceStmt} {db' : EvidenceDb} {a : s.Ans}
    (happ : s.apply w.db = .ok (a, db'))
    (hrunning : ∀ id event, s = .insertEvidence id event → w.db.status id = some .running) :
    EvidenceWorld.Sealed ⟨db', w.db :: w.past⟩ := by
  have hstep : ∀ id, w.db.status id = some .completed →
      db'.status id = some .completed ∧ db'.rowsOf id = w.db.rowsOf id := by
    intro id hdone
    refine ⟨EvidenceStmt.apply_completed happ hdone, (EvidenceStmt.apply_rowsOf happ).resolve_right ?_⟩
    rintro ⟨event, rfl⟩
    rw [hrunning id event rfl] at hdone
    cases hdone
  intro db hdb id hdone
  rcases List.mem_cons.1 hdb with rfl | hdb
  · exact hstep id hdone
  · obtain ⟨hdone', hrows⟩ := h db hdb id hdone
    obtain ⟨hdone'', hrows'⟩ := hstep id hdone'
    exact ⟨hdone'', hrows'.trans hrows⟩

theorem Stage.running {db : EvidenceDb} {id : String} {event : CampaignEvidence}
    {k : Except PyExc Unit → EvidenceProg Unit} (h : Stage db i (.call (.write (.insertEvidence id event)) k)) :
    db.status id = some .running := by
  generalize hp : (Prog.call (.write (.insertEvidence id event)) k : EvidenceProg Unit) = p at h
  cases h with
  | begun => cases i <;> cases hp
  | appendWrite _ _ hrunning =>
    cases hp
    exact hrunning
  | _ => cases hp

theorem EvidenceInv.call {c : EvidenceConfig} (h : EvidenceInv c) {n : Nat} {r : EvidenceReq}
    {k : Except PyExc r.Ans → EvidenceProg Unit} {ans : Except PyExc r.Ans} {w : EvidenceWorld}
    (hn : c.runs n = some (i, some (.call r k))) (hapart : Apart c r) (hx : EvidenceExec c.world r ans w) :
    EvidenceInv ((c.setRun n i (some (k ans))).setWorld w) := by
  have hstage := h.stage n i _ hn
  -- what is sealed and what the other calls have read are kept, whatever the request is
  have hkept : w.Sealed ∧ ∀ m j p, c.runs m = some (j, some p) → Stage w.db j p := by
    have written : ∀ {s : EvidenceStmt} {a : s.Ans} {db' : EvidenceDb}, r = .write s →
        s.apply c.world.db = .ok (a, db') → EvidenceWorld.Sealed ⟨db', c.world.db :: c.world.past⟩ ∧
          ∀ m j p, c.runs m = some (j, some p) → Stage db' j p := by
      rintro s a db' rfl happ
      refine ⟨h.closed.write happ ?_, fun m j p hm => Stage.after happ hapart hm (h.stage m j p hm)⟩
      rintro id event rfl
      exact hstage.running
    cases hx with
    | connected => exact ⟨h.closed, h.stage⟩
    | selected id => exact ⟨h.closed, h.stage⟩
    | failed e => exact ⟨h.closed, h.stage⟩
    | committed s happ => exact written rfl happ
    | lost s e happ => exact written rfl happ
  refine ⟨fun m j p hm => ?_, hkept.1⟩
  rcases Config.setRun_cases hm with ⟨_, rfl, hp⟩ | ⟨_, hold⟩
  · cases hp
    exact hstage.call hx
  · exact hkept.2 m j p hold

theorem EvidenceInv.reached {c : EvidenceConfig} (h : ReachableWhile evidenceSystem EvidenceCall.prog Apart c) :
    EvidenceInv c := by
  induction h with
  | init hw =>
    rename_i w
    refine ⟨fun n i p hn => (by cases hn), fun db hdb => ?_⟩
    have hpast : w.past = [] := hw
    change db ∈ w.past at hdb
    rw [hpast] at hdb
    cases hdb
  | step _ hs ih =>
    cases hs with
    | spawn n i hn hi =>
      refine ⟨fun m j p hm => ?_, ih.closed⟩
      rcases Config.setRun_cases hm with ⟨_, rfl, hp⟩ | ⟨_, hold⟩
      · cases hp
        exact .begun j
      · exact ih.stage m j p hold
    | call ans hn hapart hx => exact ih.call hn hapart hx
    | stop hn =>
      refine ⟨fun m j p hm => ?_, ih.closed⟩
      rcases Config.setRun_cases hm with ⟨_, _, hp⟩ | ⟨_, hold⟩
      · cases hp
      · exact ih.stage m j p hold
    | tick hw => exact hw.elim

/-- **What is promised of the evidence**: a completed session gets none, and a `start` that returned has its own
fingerprint stored. -/
structure EvidenceKept (c : EvidenceConfig) : Prop where
  sealed : ∀ db ∈ c.world.past, ∀ id, db.status id = some .completed → c.world.db.rowsOf id = db.rowsOf id
  started : ∀ n id fingerprint, c.runs n = some (.start id fingerprint, some (.ret ())) →
    ∃ row, c.world.db.campaign id = some row ∧ row.fingerprint = fingerprint

/-- **Evidence is kept while no write comes between a reading and its write.** -/
theorem evidence_sealed {c : EvidenceConfig} (h : ReachableWhile evidenceSystem EvidenceCall.prog Apart c) :
    EvidenceKept c := by
  have hinv := EvidenceInv.reached h
  refine ⟨fun db hdb id hdone => (hinv.closed db hdb id hdone).2, fun n id fingerprint hn => ?_⟩
  have hstage := hinv.stage n _ _ hn
  generalize hp : Prog.ret () = p at hstage
  generalize hi : EvidenceCall.start id fingerprint = i at hstage
  cases hstage with
  | begun => cases i <;> cases hp
  | started _ _ hstarted =>
    cases hi
    exact hstarted
  | appended => cases hi
  | finalized => cases hi
  | _ => cases hp

/-! ## Calls on one database that commits every statement -/

def evidenceAnswer (w : EvidenceWorld) : (r : EvidenceReq) → Except PyExc r.Ans × EvidenceWorld
  | .connect => (.ok (), w)
  | .selectCampaign id => (.ok (w.db.campaign id), w)
  | .write s =>
    match s.apply w.db with
    | .ok (a, db') => (.ok a, ⟨db', w.db :: w.past⟩)
    | .error e => (.error e, w)

theorem evidenceAnswer_exec (i : EvidenceCall) (w : EvidenceWorld) (r : EvidenceReq) :
    evidenceSystem.exec w i r (evidenceAnswer w r).1 (evidenceAnswer w r).2 := by
  cases r with
  | connect => exact .connected
  | selectCampaign id => exact .selected id
  | write s =>
    unfold evidenceAnswer
    dsimp only
    split
    · rename_i a db' happ
      exact .committed s happ
    · exact .failed _ _

def emptyEvidence : EvidenceWorld := ⟨.empty, []⟩

def lateEvent : CampaignEvidence := ⟨"e1", "{}"⟩

def afterCall (call : EvidenceCall) (w : EvidenceWorld) : EvidenceWorld := (call.prog.run evidenceAnswer w).2

/-- An `append` that has read its campaign, and no more. -/
def lateAppend : EvidenceProg Unit × EvidenceWorld :=
  (EvidenceCall.append "s1" lateEvent).prog.steps evidenceAnswer 2 (afterCall (.start "s1" "{}") emptyEvidence)

def lateWorld : EvidenceWorld := (lateAppend.1.run evidenceAnswer (afterCall (.finalize "s1") lateAppend.2)).2

theorem lateWorld_reachable : ∃ c : EvidenceConfig, Reachable evidenceSystem EvidenceCall.prog c ∧ c.world = lateWorld := by
  have hinit : Reachable evidenceSystem EvidenceCall.prog (.start emptyEvidence) := .init rfl
  have hstart := hinit.complete (n := 0) rfl (i := .start "s1" "{}") trivial evidenceAnswer (evidenceAnswer_exec _)
  have hread := Reachable.steps evidenceAnswer (evidenceAnswer_exec _) 2 _
    (hstart.step (.spawn 1 (.append "s1" lateEvent) rfl trivial)) (Config.setRun_self _ 1 _ _)
  have hdone := hread.complete (n := 2) rfl (i := .finalize "s1") trivial evidenceAnswer (evidenceAnswer_exec _)
  exact ⟨_, Reachable.run evidenceAnswer (evidenceAnswer_exec _) _ hdone (n := 1) rfl, rfl⟩

/-- A `start` that has read that there is no campaign, and no more. -/
def lateStart : EvidenceProg Unit × EvidenceWorld :=
  (EvidenceCall.start "s1" "{}").prog.steps evidenceAnswer 2 emptyEvidence

def lateStarted : Except PyExc Unit × EvidenceWorld :=
  lateStart.1.run evidenceAnswer (afterCall (.start "s1" "[]") lateStart.2)

theorem lateStarted_reachable : ∃ c : EvidenceConfig, Reachable evidenceSystem EvidenceCall.prog c ∧ c.world = lateStarted.2 ∧
    c.runs 0 = some (.start "s1" "{}", some (Prog.ofExcept lateStarted.1)) := by
  have hinit : Reachable evidenceSystem EvidenceCall.prog (.start emptyEvidence) := .init rfl
  have hread := Reachable.steps evidenceAnswer (evidenceAnswer_exec _) 2 _
    (hinit.step (.spawn 0 (.start "s1" "{}") rfl trivial)) (Config.setRun_self _ 0 _ _)
  have hother := hread.complete (n := 1) rfl (i := .start "s1" "[]") trivial evidenceAnswer
    (evidenceAnswer_exec _)
  refine ⟨_, Reachable.run evidenceAnswer (evidenceAnswer_exec _) _ hother (n := 0) rfl, rfl, ?_⟩
  rw [Config.setWorld_runs, Config.setRun_self]
  rfl

/-- **Evidence is added to a completed session**, and a `start` returns over another's fingerprint. -/
theorem evidence_unsealed :
    (∃ c : EvidenceConfig, Reachable evidenceSystem EvidenceCall.prog c ∧ ∃ db ∈ c.world.past, db.status "s1" = some .completed ∧
      c.world.db.rowsOf "s1" ≠ db.rowsOf "s1") ∧
    ∃ c : EvidenceConfig, Reachable evidenceSystem EvidenceCall.prog c ∧ c.runs 0 = some (.start "s1" "{}", some (.ret ())) ∧
      ∀ row, c.world.db.campaign "s1" = some row → row.fingerprint ≠ "{}" := by
  constructor
  · obtain ⟨c, hc, hw⟩ := lateWorld_reachable
    have hlate : (lateWorld.past.any fun db => db.status "s1" == some .completed &&
        lateWorld.db.rowsOf "s1" != db.rowsOf "s1") = true := by decide
    obtain ⟨db, hdb, hlate⟩ := List.any_eq_true.1 hlate
    rw [Bool.and_eq_true, beq_iff_eq, bne_iff_ne] at hlate
    exact ⟨c, hc, db, hw ▸ hdb, hlate.1, hw ▸ hlate.2⟩
  · obtain ⟨c, hc, hw, hn⟩ := lateStarted_reachable
    have hok : lateStarted.1 = .ok () := by rfl
    have hother : (lateStarted.2.db.campaign "s1").any (·.fingerprint == "{}") = false := by decide
    refine ⟨c, hc, ?_, fun row hrow heq => ?_⟩
    · rw [hn, hok]
      exact rfl
    · rw [← hw, hrow, Option.any_some, heq] at hother
      cases hother

theorem apart_of_alone {n : Nat} (c : EvidenceConfig) (r : EvidenceReq) (k : Except PyExc r.Ans → EvidenceProg Unit)
    (halone : c.Alone n) (hn : c.runs n = some (i, some (.call r k))) : Apart c r := by
  have hown : ∀ {m j r' k'}, c.runs m = some (j, some (.call r' k')) → r' = r := by
    intro m j r' k' hm
    by_cases hmn : m = n
    · subst hmn
      rw [hn] at hm
      cases hm
      rfl
    · exact absurd hm (halone m hmn j r' k')
  cases r with
  | connect => exact trivial
  | selectCampaign id => exact trivial
  | write s =>
    cases s with
    | insertCampaign id fingerprint =>
      intro _ m j other k' hm
      cases hown hm
      rfl
    | insertEvidence id event => exact trivial
    | completeCampaign id =>
      intro m j event k' hm
      cases hown hm

def doneWorld : EvidenceWorld :=
  afterCall (.finalize "s1") (afterCall (.append "s1" lateEvent) (afterCall (.start "s1" "{}") emptyEvidence))

theorem evidence_sealed_done : ∃ c : EvidenceConfig, EvidenceKept c ∧ c.world = doneWorld ∧
    doneWorld.db.status "s1" = some .completed ∧
    doneWorld.db.rowsOf "s1" = [{ lateEvent with sessionId := "s1" }] := by
  have hinit : ReachableWhile evidenceSystem EvidenceCall.prog Apart (.start emptyEvidence) := .init rfl
  obtain ⟨hstart, hidle⟩ := hinit.complete (n := 0) (fun _ _ _ _ h => by cases h) rfl (i := .start "s1" "{}") trivial
    evidenceAnswer (evidenceAnswer_exec _) apart_of_alone
  obtain ⟨happend, hidle⟩ := hstart.complete (n := 1) hidle rfl (i := .append "s1" lateEvent) trivial evidenceAnswer
    (evidenceAnswer_exec _) apart_of_alone
  obtain ⟨hdone, _⟩ := happend.complete (n := 2) hidle rfl (i := .finalize "s1") trivial evidenceAnswer
    (evidenceAnswer_exec _) apart_of_alone
  exact ⟨_, evidence_sealed hdone, rfl, by decide, by decide⟩

end Jqe
