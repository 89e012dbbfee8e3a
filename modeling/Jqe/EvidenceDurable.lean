import Jqe.EvidenceSealed
/-!
# EvidenceDurable — what a call is told stays so

Over all interleavings, stops, lost answers and failing statements: evidence is only appended, and what a call that
returned has written is in every later database.  One event is appended for one caller.
-/
namespace Jqe

open Coro Prog CampaignEvidenceStore List

/-- **What every later database owes an earlier one.** -/
structure EvidenceDb.Grows (db db' : EvidenceDb) : Prop where
  evidence : db.evidence <+: db'.evidence
  campaign : ∀ id row, db.campaign id = some row → ∃ row', db'.campaign id = some row' ∧
    row'.fingerprint = row.fingerprint ∧ (row.status = .completed → row'.status = .completed)

/-- **What an acknowledged statement has left.** -/
def EvidenceDb.Holds (db : EvidenceDb) : EvidenceStmt → Prop
  | .insertCampaign id _ => db.campaign id ≠ none
  | .insertEvidence id event => { event with sessionId := id } ∈ db.evidence
  | .completeCampaign id => db.status id = some .completed

variable {db db' db'' : EvidenceDb}

theorem EvidenceDb.Grows.refl (db : EvidenceDb) : db.Grows db :=
  ⟨prefix_refl _, fun _ row hrow => ⟨row, hrow, rfl, id⟩⟩

theorem EvidenceDb.Grows.trans (h : db.Grows db') (h' : db'.Grows db'') : db.Grows db'' := by
  refine ⟨h.evidence.trans h'.evidence, fun id row hrow => ?_⟩
  obtain ⟨row', hrow', hsame, hdone⟩ := h.campaign id row hrow
  obtain ⟨row'', hrow'', hsame', hdone'⟩ := h'.campaign id row' hrow'
  exact ⟨row'', hrow'', hsame'.trans hsame, fun hstatus => hdone' (hdone hstatus)⟩

theorem EvidenceDb.Holds.grows {s : EvidenceStmt} (h : db.Holds s) (hgrows : db.Grows db') : db'.Holds s := by
  cases s with
  | insertCampaign id fingerprint =>
    obtain ⟨row, hrow⟩ := Option.ne_none_iff_exists'.1 h
    obtain ⟨row', hrow', _⟩ := hgrows.campaign id row hrow
    exact fun hnone => Option.some_ne_none _ (hrow'.symm.trans hnone)
  | insertEvidence id event => exact hgrows.evidence.subset h
  | completeCampaign id =>
    obtain ⟨row, hrow, hstatus⟩ := Option.map_eq_some_iff.1 h
    obtain ⟨row', hrow', _, hdone⟩ := hgrows.campaign id row hrow
    exact Option.map_eq_some_iff.2 ⟨row', hrow', hdone hstatus⟩

/-- No row of the evidence has the key of the event. -/
def EvidenceStmt.Fresh (db : EvidenceDb) : EvidenceStmt → Prop
  | .insertEvidence id event => ∀ row ∈ db.evidence, (row.sessionId, row.eventId) ≠ (id, event.eventId)
  | _ => True

theorem EvidenceStmt.apply_fresh {s : EvidenceStmt} {a : s.Ans} (h : s.apply db = .ok (a, db')) : s.Fresh db := by
  cases s with
  | insertEvidence id event =>
    change EvidenceDb.insertEvidence id event db = _ at h
    unfold EvidenceDb.insertEvidence at h
    split at h
    · cases h
    · rename_i hnone
      intro row hrow heq
      obtain ⟨hid, hevent⟩ := Prod.mk.inj heq
      exact hnone (List.any_eq_true.2 ⟨row, hrow, by rw [hid, hevent, beq_self_eq_true, beq_self_eq_true, Bool.and_self]⟩)
  | _ => exact trivial

theorem EvidenceStmt.apply_grows {s : EvidenceStmt} {a : s.Ans} (h : s.apply db = .ok (a, db')) : db.Grows db' := by
  refine ⟨?_, fun id row hrow => ?_⟩
  · rcases apply_cases h with ⟨rfl, _⟩ | ⟨_, _, _, _, rfl⟩ | ⟨_, _, _, rfl⟩ | ⟨_, _, _, _, rfl⟩
    · exact prefix_refl _
    · exact prefix_refl _
    · exact prefix_append _ _
    · exact prefix_refl _
  · obtain ⟨row', hrow', hsame, hstatus⟩ := apply_campaign h hrow
    exact ⟨row', hrow', hsame, fun hdone => hstatus.elim (·.trans hdone) And.right⟩

/-! ## The acknowledgements -/

/-- **The statement that a call was last told to be done.** -/
def acknowledged : Option EvidenceStmt → (r : EvidenceReq) → Except PyExc r.Ans → Option EvidenceStmt
  | _, .write (.completeCampaign id), .ok changed => if changed = 1 then some (.completeCampaign id) else none
  | _, .write (.insertCampaign id fingerprint), .ok _ => some (.insertCampaign id fingerprint)
  | _, .write (.insertEvidence id event), .ok _ => some (.insertEvidence id event)
  | q, _, _ => q

theorem acknowledged_error (q : Option EvidenceStmt) (r : EvidenceReq) (e : PyExc) : acknowledged q r (.error e) = q := by
  cases r with
  | write s => cases s <;> rfl
  | _ => rfl

theorem EvidenceStmt.apply_holds {s t : EvidenceStmt} {a : s.Ans} {q : Option EvidenceStmt}
    (h : s.apply db = .ok (a, db')) (hq : acknowledged q (.write s) (.ok a) = some t) : t = s ∧ db'.Holds s := by
  cases s with
  | insertCampaign id fingerprint =>
    cases hq
    refine ⟨rfl, ?_⟩
    rcases apply_cases h with ⟨rfl, _, hthere⟩ | ⟨_, _, heq, _, rfl⟩ | ⟨_, _, heq, _⟩ | ⟨_, _, heq, _⟩ <;>
      try cases heq
    · exact hthere id fingerprint rfl
    · exact fun hnone => by cases (db.campaign_setCampaign id _).symm.trans hnone
  | insertEvidence id event =>
    cases hq
    change EvidenceDb.insertEvidence id event db = _ at h
    unfold EvidenceDb.insertEvidence at h
    split at h <;> cases h
    exact ⟨rfl, mem_append_right _ (mem_singleton_self _)⟩
  | completeCampaign id =>
    change EvidenceDb.completeCampaign id db = _ at h
    unfold EvidenceDb.completeCampaign at h
    split at h
    · split at h <;> cases h <;> cases hq
      exact ⟨rfl, Option.map_eq_some_iff.2 ⟨_, db.campaign_setCampaign id _, rfl⟩⟩
    · cases h
      cases hq

def EvidenceCall.stmt : EvidenceCall → EvidenceStmt
  | start id fingerprint => .insertCampaign id fingerprint
  | append id event => .insertEvidence id event
  | finalize id => .completeCampaign id

def acknowledging : Protocol EvidenceReq EvidenceReq.Ans PyExc (Option EvidenceStmt) := ⟨fun _ _ => True, acknowledged⟩

theorem wp_ask {α : Type} {r : EvidenceReq} {f : r.Ans → EvidenceProg α} {q : Option EvidenceStmt}
    {post : Except PyExc α → Option EvidenceStmt → Prop} (herror : ∀ e q, post (.error e) q)
    (hok : ∀ a, wp acknowledging (f a) (acknowledged q r (.ok a)) post) : wp acknowledging (ask r >>= f) q post := by
  refine (wp_bind _ _ _ _).2 ((wp_perform _ _ _).2 ⟨trivial, fun ans => ?_⟩)
  cases ans with
  | ok a => exact hok a
  | error e => exact herror e _

/-- **A call that returns was told that its statement is done.** -/
theorem EvidenceCall.acknowledges (i : EvidenceCall) :
    wp acknowledging i.prog none fun out q => out = .ok () → q = some i.stmt := by
  have herror : ∀ (e : PyExc) (q : Option EvidenceStmt), (.error e : Except PyExc Unit) = .ok () → q = some i.stmt :=
    fun _ _ h => by cases h
  have hwrite : ∀ (s : EvidenceStmt) (q : Option EvidenceStmt), wp acknowledging (ask (.write s)) q fun out q' =>
      ∀ a, out = .ok a → q' = acknowledged q (.write s) (.ok a) :=
    fun s q => (wp_perform _ _ _).2 ⟨trivial, fun ans a hans => by rw [hans]; rfl⟩
  cases i with
  | start id fingerprint =>
    refine wp_ask herror fun _ => wp_ask herror fun row => ?_
    unfold startWith
    split
    · exact fun h => by cases h
    · split
      · exact fun h => by cases h
      · exact wp_mono (fun _ _ h => h ()) _ _ (hwrite _ _)
  | append id event =>
    refine wp_ask herror fun _ => wp_ask herror fun row => ?_
    unfold appendWith
    split
    · exact wp_mono (fun _ _ h => h ()) _ _ (hwrite _ _)
    · exact fun h => by cases h
  | finalize id =>
    refine wp_ask herror fun _ => wp_ask herror fun changed => ?_
    split
    · exact fun h => by cases h
    · rename_i hone
      exact fun _ => if_pos (not_not.1 hone)

structure AckInv (g : Ghost EvidenceWorld EvidenceCall (Option EvidenceStmt)) : Prop where
  held : ∀ n i s, g.runs n = some (i, some s) → g.world.db.Holds s
  once : ∀ m n i j id event event', g.runs m = some (i, some (.insertEvidence id event)) →
    g.runs n = some (j, some (.insertEvidence id event')) → event.eventId = event'.eventId → m = n
  grown : ∀ db ∈ g.world.past, db.Grows g.world.db

theorem AckInv.put {g : Ghost EvidenceWorld EvidenceCall (Option EvidenceStmt)} (h : AckInv g) {n : Nat}
    {i : EvidenceCall} {q : Option EvidenceStmt}
    (hq : (∃ j, g.runs n = some (j, q)) ∨ ∀ s, q = some s → db'.Holds s ∧ s.Fresh g.world.db)
    (hgrows : g.world.db.Grows db') {past : List EvidenceDb} (hpast : ∀ db ∈ past, db = g.world.db ∨ db ∈ g.world.past) :
    AckInv ((g.setRun n i q).setWorld ⟨db', past⟩) := by
  have hnew : ∀ m j id event event', m ≠ n → g.runs m = some (j, some (.insertEvidence id event)) →
      q = some (.insertEvidence id event') → event.eventId ≠ event'.eventId := by
    rintro m j id event event' hne hm rfl heq
    rcases hq with ⟨k, hn⟩ | hq
    · exact hne (h.once m n j k id event event' hm hn heq)
    · exact (hq _ rfl).2 _ (h.held m j _ hm) (by rw [heq])
  refine ⟨fun m j s hm => ?_, fun m m' j j' id event event' hm hm' heq => ?_, fun db hdb => ?_⟩
  · rcases Ghost.setRun_cases hm with ⟨_, _, rfl⟩ | ⟨_, hold⟩
    · rcases hq with ⟨k, hn⟩ | hq
      · exact (h.held n k s hn).grows hgrows
      · exact (hq s rfl).1
    · exact (h.held m j s hold).grows hgrows
  · rcases Ghost.setRun_cases hm with ⟨rfl, _, hs⟩ | ⟨hne, hold⟩ <;>
      rcases Ghost.setRun_cases hm' with ⟨rfl, _, hs'⟩ | ⟨hne', hold'⟩
    · rfl
    · exact absurd heq.symm (hnew m' j' id event' event hne' hold' hs.symm)
    · exact absurd heq (hnew m j id event event' hne hold hs'.symm)
    · exact h.once m m' j j' id event event' hold hold' heq
  · rcases hpast db hdb with rfl | hold
    · exact hgrows
    · exact (h.grown db hold).trans hgrows

theorem AckInv.reached {g : Ghost EvidenceWorld EvidenceCall (Option EvidenceStmt)}
    (h : Reached evidenceSystem (fun _ => acknowledging) none g) : AckInv g := by
  refine h.invariant (fun w hw => ⟨fun _ _ _ hn => (by cases hn), fun _ _ _ _ _ _ _ hm => (by cases hm),
    fun db hdb => ?_⟩) fun g g' _ ih hs => ?_
  · have hpast : w.past = [] := hw
    change db ∈ w.past at hdb
    rw [hpast] at hdb
    cases hdb
  · cases hs with
    | spawn n i hn hi => exact ih.put (.inr fun _ hs => by cases hs) (.refl _) fun _ => .inr
    | tick hw => exact hw.elim
    | call r ans hn ha hx =>
      rename_i n i q w
      have hkept : ∀ e, ∃ j, g.runs n = some (j, acknowledged q r (.error e)) := fun e =>
        ⟨i, by rw [acknowledged_error, hn]⟩
      cases hx with
      | connected => exact ih.put (.inl ⟨_, hn⟩) (.refl _) fun _ => .inr
      | selected => exact ih.put (.inl ⟨_, hn⟩) (.refl _) fun _ => .inr
      | failed => exact ih.put (.inl (hkept _)) (.refl _) fun _ => .inr
      | lost s e happ => exact ih.put (.inl (hkept e)) (EvidenceStmt.apply_grows happ) fun _ => mem_cons.1
      | committed s happ =>
        refine ih.put (.inr fun t ht => ?_) (EvidenceStmt.apply_grows happ) fun _ => mem_cons.1
        obtain ⟨rfl, hholds⟩ := EvidenceStmt.apply_holds happ ht
        exact ⟨hholds, EvidenceStmt.apply_fresh happ⟩

/-- **What was told to callers stays**: what each returned call has written, one append of an event, and all that any
database had before. -/
structure EvidenceDurable (c : EvidenceConfig) : Prop where
  answered : ∀ n i, c.runs n = some (i, some (.ret ())) → c.world.db.Holds i.stmt
  once : ∀ m n id event event', c.runs m = some (.append id event, some (.ret ())) →
    c.runs n = some (.append id event', some (.ret ())) → event.eventId = event'.eventId → m = n
  grown : ∀ db ∈ c.world.past, db.Grows c.world.db

/-- **Evidence is durable in every interleaving.** -/
theorem evidence_durable {c : EvidenceConfig} (h : Reachable evidenceSystem EvidenceCall.prog c) : EvidenceDurable c := by
  obtain ⟨g, hg, hc⟩ := covered _ (fun i _ => i.acknowledges) h
  have hinv := AckInv.reached hg
  have hreturned : ∀ {n i}, c.runs n = some (i, some (.ret ())) → g.runs n = some (i, some i.stmt) := by
    intro n i hn
    obtain ⟨q, hq, hpost⟩ := hc.live hn
    rw [hq, hpost rfl]
  refine ⟨fun n i hn => hc.1 ▸ hinv.held n i _ (hreturned hn), fun m n id event event' hm hn heq => ?_, hc.1 ▸ hinv.grown⟩
  exact hinv.once m n _ _ id event event' (hreturned hm) (hreturned hn) heq

theorem evidence_durable_late : ∃ c : EvidenceConfig, EvidenceDurable c ∧ c.world = lateWorld ∧
    lateWorld.db.rowsOf "s1" = [{ lateEvent with sessionId := "s1" }] := by
  obtain ⟨c, hc, hworld⟩ := lateWorld_reachable
  exact ⟨c, evidence_durable hc, hworld, by decide⟩

end Jqe
