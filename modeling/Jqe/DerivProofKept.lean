import Jqe.DerivProofStore
/-!
# DerivProofKept — when persisted proof authority stays

`persist` checks its state against a snapshot that it loaded before its transaction, and overwrites the one row.  Over
all interleavings: authority stays where every transaction finds a snapshot that its own state contains.
-/
namespace Jqe

open Coro Prog
open ProofCall (persist prog)

section

variable {S : Type} [DerivSemantics S]

/-- One state has the entries and the revocations of another. -/
structure DerivDurableProofState.Covers (new old : DerivDurableProofState S) : Prop where
  entries : ∀ e ∈ old.registry.entries, e ∈ new.registry.entries
  revocations : ∀ r ∈ old.revocations, r ∈ new.revocations

theorem DerivDurableProofState.Covers.trans {a b c : DerivDurableProofState S} (h : a.Covers b) (h' : b.Covers c) :
    a.Covers c :=
  ⟨fun e he => h.entries e (h'.entries e he), fun r hr => h.revocations r (h'.revocations r hr)⟩

variable [DecidableEq S]

theorem stateFromPayload_eq {payload : DerivProofPayload S} {state : DerivDurableProofState S}
    (h : stateFromPayload payload = .ok state) : stateToPayload state = payload := by
  unfold stateFromPayload at h
  split at h
  · cases h
  · obtain ⟨registry, -, h⟩ := bind_ok h
    obtain ⟨state', -, h⟩ := bind_ok h
    split at h
    · next heq =>
      cases h
      exact heq
    · cases h

theorem rebuilt_covers {state rebuilt : DerivDurableProofState S}
    (h : stateFromPayload (stateToPayload state) = .ok rebuilt) : rebuilt.Covers state := by
  have heq := stateFromPayload_eq h
  obtain ⟨hentries, hrevocations⟩ := DerivProofPayload.mk.inj heq
  exact ⟨fun e he => hentries ▸ he, fun r hr => hrevocations ▸ hr⟩

variable [PayloadHash S]

theorem loadRow_proofStateRow {payload : DerivProofPayload S} {state : DerivDurableProofState S}
    (h : stateFromPayload payload = .ok state) : loadRow (some (proofStateRow payload)) = .ok state := by
  unfold loadRow
  dsimp only
  rw [if_neg (by simp [proofStateRow]), if_neg (by simp [proofStateRow])]
  have hpayload : (proofStateRow payload).payload = payload := rfl
  rw [hpayload, h]

/-- **A transaction finds a snapshot that its own state contains**: the check of `persist`, made again where it writes. -/
def KeepsStored (stored : Option (ProofStateRow S)) : ProofReq S → Prop
  | .upsertState row =>
    ∀ old new, loadRow stored = .ok old → loadRow (some row) = .ok new → new.Covers old
  | _ => True

/-- The file's snapshot has the authority of a state. -/
def Stored (w : Option (ProofStateRow S)) (state : DerivDurableProofState S) : Prop :=
  ∃ stored, loadRow w = .ok stored ∧ stored.Covers state

/-- **Where a call stands.** -/
inductive ProofStage (w : Option (ProofStateRow S)) : ProofCall S → ProofProg S → Prop
  | begun (call : ProofCall S) : ProofStage w call call.prog
  | raised (call : ProofCall S) (e : PyExc) : ProofStage w call (.raise e)
  | loadSelect : ProofStage w .load selectProofState
  | loaded (state : DerivDurableProofState S) : ProofStage w .load (.ret state)
  | persistSelect (state rebuilt : DerivDurableProofState S)
      (h : stateFromPayload (stateToPayload state) = .ok rebuilt) :
      ProofStage w (.persist state) (selectProofState.bind (persistOver (stateToPayload state) rebuilt))
  | persistWrite (state rebuilt : DerivDurableProofState S)
      (h : stateFromPayload (stateToPayload state) = .ok rebuilt) :
      ProofStage w (.persist state) (upsertProofState (stateToPayload state) rebuilt)
  | persisted (state rebuilt : DerivDurableProofState S) (h : Stored w state) :
      ProofStage w (.persist state) (.ret rebuilt)

variable {w w' : Option (ProofStateRow S)} {r : ProofReq S} {ans : Except PyExc r.Ans} {call : ProofCall S}

theorem ProofStage.row_loads {row : ProofStateRow S} {k : Except PyExc Unit → ProofProg S}
    (h : ProofStage w call (.call (.upsertState row) k)) : ∃ new, loadRow (some row) = .ok new := by
  generalize hp : (Prog.call (.upsertState row) k : ProofProg S) = p at h
  cases h with
  | begun =>
    cases call with
    | load => cases hp
    | persist state =>
      change _ = persistProofState state at hp
      unfold persistProofState at hp
      split at hp <;> cases hp
  | persistWrite state rebuilt h =>
    cases hp
    exact ⟨rebuilt, loadRow_proofStateRow h⟩
  | _ => cases hp

variable {k : Except PyExc r.Ans → ProofProg S}

/-- **What is stored stays stored** by a request that meets the condition. -/
theorem Stored.exec {state : DerivDurableProofState S} (h : Stored w state)
    (hstage : ProofStage w call (.call r k)) (hkeeps : KeepsStored w r)
    (hx : ProofExec w r ans w') : Stored w' state := by
  obtain ⟨old, hold, hcovers⟩ := h
  cases hx with
  | validated => exact ⟨old, hold, hcovers⟩
  | selected => exact ⟨old, hold, hcovers⟩
  | failed => exact ⟨old, hold, hcovers⟩
  | committed row =>
    obtain ⟨new, hnew⟩ := hstage.row_loads
    exact ⟨new, hnew, (hkeeps old new hold hnew).trans hcovers⟩
  | lost row e =>
    obtain ⟨new, hnew⟩ := hstage.row_loads
    exact ⟨new, hnew, (hkeeps old new hold hnew).trans hcovers⟩

theorem ProofStage.exec
    (hstage : ProofStage w call (.call r k)) (hx : ProofExec w r ans w') : ProofStage w' call (k ans) := by
  generalize hp : Prog.call r k = p at hstage
  cases hstage with
  | begun =>
    cases call with
    | load =>
      cases hp
      cases ans with
      | ok _ => exact .loadSelect
      | error e => exact .raised _ e
    | persist state =>
      change _ = persistProofState state at hp
      unfold persistProofState at hp
      split at hp
      · cases hp
      · next rebuilt hrebuilt =>
        cases hp
        cases ans with
        | ok _ => exact .persistSelect state rebuilt hrebuilt
        | error e => exact .raised _ e
  | raised => cases hp
  | loadSelect =>
    cases hp
    cases ans with
    | ok row =>
      change ProofStage w' _ (Prog.ofExcept (loadRow row))
      cases loadRow row with
      | ok state => exact .loaded state
      | error e => exact .raised _ e
    | error e => exact .raised _ e
  | loaded => cases hp
  | persistSelect state rebuilt hrebuilt =>
    cases hp
    cases ans with
    | ok row =>
      change ProofStage w' _ ((Prog.ofExcept (loadRow row)).bind (persistOver (stateToPayload state) rebuilt))
      cases loadRow row with
      | ok current =>
        change ProofStage w' _ (persistOver (stateToPayload state) rebuilt current)
        unfold persistOver
        split
        · exact .raised _ _
        · split
          · exact .raised _ _
          · exact .persistWrite state rebuilt hrebuilt
      | error e => exact .raised _ e
    | error e => exact .raised _ e
  | persistWrite state rebuilt hrebuilt =>
    cases hp
    cases hx with
    | lost _ e => exact .raised _ e
    | failed _ e => exact .raised _ e
    | committed =>
      exact .persisted state rebuilt ⟨rebuilt, loadRow_proofStateRow hrebuilt, rebuilt_covers hrebuilt⟩
  | persisted => cases hp

theorem ProofStage.after (hstored : ∀ state, Stored w state → Stored w' state) {p : ProofProg S}
    (h : ProofStage w call p) : ProofStage w' call p := by
  cases h with
  | begun => exact .begun call
  | raised => exact .raised call _
  | loadSelect => exact .loadSelect
  | loaded state => exact .loaded state
  | persistSelect state rebuilt h => exact .persistSelect state rebuilt h
  | persistWrite state rebuilt h => exact .persistWrite state rebuilt h
  | persisted state rebuilt h => exact .persisted state rebuilt (hstored state h)

abbrev keepingSystem (S : Type) [DerivSemantics S] [DecidableEq S] [PayloadHash S] :=
  (proofSystem S).meeting KeepsStored

theorem keepingStep {c : ProofConfig S} {n : ℕ}
    (ans : Except PyExc r.Ans) (hn : c.runs n = some (call, some (.call r k))) (hkeeps : KeepsStored c.world r)
    (hx : ProofExec c.world r ans w) :
    Step (keepingSystem S) prog c ((c.setRun n call (some (k ans))).setWorld w) :=
  .call ans hn ⟨hkeeps, hx⟩

theorem proofStage_of_reachable {c : ProofConfig S} (h : Reachable (keepingSystem S) prog c) :
    ∀ n i p, c.runs n = some (i, some p) → ProofStage c.world i p := by
  induction h with
  | init hw => exact fun n i p hn => by cases hn
  | step _ hs ih =>
    cases hs with
    | spawn n i hn hi =>
      intro m j p hm
      rcases Config.setRun_cases hm with ⟨_, rfl, hp⟩ | ⟨_, hold⟩
      · cases hp
        exact .begun j
      · exact ih m j p hold
    | call ans hn hx =>
      obtain ⟨hkeeps, hx⟩ := hx
      have hstage := ih _ _ _ hn
      intro m j p hm
      rcases Config.setRun_cases hm with ⟨_, rfl, hp⟩ | ⟨_, hold⟩
      · cases hp
        exact hstage.exec hx
      · exact (ih m j p hold).after fun state hstored => hstored.exec hstage hkeeps hx
    | stop hn =>
      intro m j p hm
      rcases Config.setRun_cases hm with ⟨_, _, hp⟩ | ⟨_, hold⟩
      · cases hp
      · exact ih m j p hold
    | tick hw => exact hw.elim

theorem later_load {c : ProofConfig S} {m : ℕ} (hm : c.runs m = none) {state : DerivDurableProofState S}
    (hload : loadRow c.world = .ok state) :
    ∃ c', Later (keepingSystem S) prog c c' ∧ c'.runs m = some (.load, some (.ret state)) := by
  have hspawn : Step (keepingSystem S) prog c (c.setRun m .load (some loadProofState)) :=
    .spawn m .load hm trivial
  have hvalidate : Step (keepingSystem S) prog (c.setRun m .load (some loadProofState)) _ :=
    keepingStep (.ok ()) (c.setRun_self m _ _) trivial .validated
  have hselect : Step (keepingSystem S) prog
      (((c.setRun m .load (some loadProofState)).setRun m .load (some selectProofState)).setWorld c.world) _ :=
    keepingStep (.ok c.world) (Config.setRun_self _ m _ _) trivial .selected
  refine ⟨_, ((Relation.ReflTransGen.single hspawn).tail hvalidate).tail hselect, ?_⟩
  rw [Config.setWorld_runs, Config.setRun_self]
  dsimp only
  rw [hload]
  rfl

/-- A `load` that started after a state was stored, where it stands. -/
def LoadStage (state : DerivDurableProofState S) (p : ProofProg S) : Prop :=
  p = loadProofState ∨ p = selectProofState ∨ (∃ e, p = .raise e) ∨ ∃ loaded, p = .ret loaded ∧ loaded.Covers state

theorem LoadStage.exec {state : DerivDurableProofState S} (hstored : Stored w state)
    (h : LoadStage state (.call r k)) (hx : ProofExec w r ans w') :
    LoadStage state (k ans) := by
  rcases h with h | h | ⟨e, h⟩ | ⟨loaded, h, -⟩
  · cases h
    cases ans with
    | ok _ => exact .inr (.inl rfl)
    | error e => exact .inr (.inr (.inl ⟨e, rfl⟩))
  · cases h
    cases hx with
    | failed _ e => exact .inr (.inr (.inl ⟨e, rfl⟩))
    | selected =>
      obtain ⟨stored, hload, hcovers⟩ := hstored
      refine .inr (.inr (.inr ⟨stored, ?_, hcovers⟩))
      dsimp only
      rw [hload]
      rfl
  · cases h
  · cases h

/-- **Persisted authority stays while every transaction finds a snapshot that its state contains**: after a `persist`
has returned, each `load` that starts and returns has the entries and the revocations of its state. -/
theorem proof_authority_kept {c c' : ProofConfig S} (h : Reachable (keepingSystem S) prog c)
    (hlater : Later (keepingSystem S) prog c c') {n m : ℕ}
    {state rebuilt loaded : DerivDurableProofState S}
    (hpersisted : c.runs n = some (.persist state, some (.ret rebuilt))) (hnew : c.runs m = none)
    (hloaded : c'.runs m = some (.load, some (.ret loaded))) : loaded.Covers state := by
  have hstored : Stored c.world state := by
    have hstage := proofStage_of_reachable h n _ _ hpersisted
    generalize hp : (Prog.ret rebuilt : ProofProg S) = p at hstage
    cases hstage with
    | begun =>
      change _ = persistProofState state at hp
      unfold persistProofState at hp
      split at hp <;> cases hp
    | raised => cases hp
    | persistSelect => cases hp
    | persistWrite => cases hp
    | persisted _ _ hstored => exact hstored
  have hkept : Reachable (keepingSystem S) prog c' ∧ Stored c'.world state ∧
      ∀ p, c'.runs m = some (.load, some p) → LoadStage state p := by
    clear hloaded
    induction hlater with
    | refl => exact ⟨h, hstored, fun p hp => by rw [hnew] at hp; cases hp⟩
    | tail _ hs ih =>
      obtain ⟨hreach, hstored, hload⟩ := ih
      refine ⟨hreach.step hs, ?_⟩
      cases hs with
      | spawn j i hj hi =>
        refine ⟨hstored, fun p hp => ?_⟩
        rcases Config.setRun_cases hp with ⟨_, rfl, hp⟩ | ⟨_, hold⟩
        · cases hp
          exact .inl rfl
        · exact hload p hold
      | call ans hj hx =>
        obtain ⟨hkeeps, hx⟩ := hx
        refine ⟨hstored.exec (proofStage_of_reachable hreach _ _ _ hj) hkeeps hx, fun p hp => ?_⟩
        rcases Config.setRun_cases hp with ⟨rfl, hcall, hrest⟩ | ⟨_, hold⟩
        · cases hcall
          cases hrest
          exact (hload _ hj).exec hstored hx
        · exact hload p hold
      | stop hj =>
        refine ⟨hstored, fun p hp => ?_⟩
        rcases Config.setRun_cases hp with ⟨_, _, hp⟩ | ⟨_, hold⟩
        · cases hp
        · exact hload p hold
      | tick hw => exact hw.elim
  obtain ⟨-, -, hload⟩ := hkept
  rcases hload _ hloaded with heq | heq | ⟨e, heq⟩ | ⟨loaded', heq, hcovers⟩
  · cases heq
  · cases heq
  · cases heq
  · cases heq
    exact hcovers

end

/-! ### Two writers -/

local instance noSemantics : DerivSemantics Empty := ⟨Empty.elim, Empty.elim⟩

local instance idsHash : PayloadHash Empty :=
  ⟨fun payload => "sha256:" ++ String.intercalate "," (payload.revocations.map fun r => r.revocationId)⟩

def firstRevocation : DerivProofGovernanceRevocation where
  revocationId := "r1"
  targetKind := .registeredProof
  targetId := "p1"
  reason := .revoked
  revokedBy := "governance"
  revokedAt := 0
  supersededById := none
  texts_nonblank := by decide
  superseded_iff := by decide

def secondRevocation : DerivProofGovernanceRevocation where
  revocationId := "r2"
  targetKind := .registeredProof
  targetId := "p2"
  reason := .revoked
  revokedBy := "governance"
  revokedAt := 0
  supersededById := none
  texts_nonblank := by decide
  superseded_iff := by decide

def revokedState (r : DerivProofGovernanceRevocation) : DerivDurableProofState Empty :=
  ⟨DerivDurableProofState.empty.registry, [r], List.pairwise_singleton _ _, List.pairwise_singleton _ _,
    List.pairwise_singleton _ _⟩

/-- One writer and a reader after it. -/
theorem proof_authority_kept_alone : ∃ (c c' : ProofConfig Empty) (loaded : DerivDurableProofState Empty),
    Reachable (keepingSystem Empty) prog c ∧ Later (keepingSystem Empty) prog c c' ∧
      c'.runs 1 = some (.load, some (.ret loaded)) ∧ loaded.Covers (revokedState firstRevocation) := by
  have hinit : Reachable (keepingSystem Empty) prog (.start none) := .init trivial
  have hspawn := hinit.step (.spawn 0 (.persist (revokedState firstRevocation)) rfl trivial)
  have hread := (hspawn.step (keepingStep (n := 0) (.ok ()) rfl trivial .validated)).step
    (keepingStep (n := 0) (.ok none) rfl trivial .selected)
  have hkeeps : KeepsStored none (.upsertState (proofStateRow (stateToPayload (revokedState firstRevocation)))) := by
    intro old new hold _
    cases hold
    exact ⟨fun e he => absurd he List.not_mem_nil, fun r hr => absurd hr List.not_mem_nil⟩
  have hdone := hread.step (keepingStep (n := 0) (.ok ()) rfl hkeeps (.committed _))
  have hstored : loadRow (some (proofStateRow (stateToPayload (revokedState firstRevocation)))) =
      .ok (revokedState firstRevocation) := loadRow_proofStateRow rfl
  obtain ⟨c, hc, hpersisted, hnew, hstored⟩ : ∃ c : ProofConfig Empty, Reachable (keepingSystem Empty) prog c ∧
      c.runs 0 = some (.persist (revokedState firstRevocation), some (.ret (revokedState firstRevocation))) ∧
      c.runs 1 = none ∧ loadRow c.world = .ok (revokedState firstRevocation) := ⟨_, hdone, rfl, rfl, hstored⟩
  obtain ⟨c', hlater, hload⟩ := later_load hnew hstored
  exact ⟨c, c', _, hc, hlater, hload, proof_authority_kept hc hlater hpersisted hnew hload⟩

def proofAnswer (w : Option (ProofStateRow Empty)) :
    (r : ProofReq Empty) → Except PyExc r.Ans × Option (ProofStateRow Empty)
  | .validateSchema => (.ok (), w)
  | .selectState => (.ok w, w)
  | .upsertState row => (.ok (), some row)

theorem proofAnswer_exec (i : ProofCall Empty) (w : Option (ProofStateRow Empty)) (r : ProofReq Empty) :
    (proofSystem Empty).exec w i r (proofAnswer w r).1 (proofAnswer w r).2 := by
  cases r with
  | validateSchema => exact .validated
  | selectState => exact .selected
  | upsertState row => exact .committed row

/-- A `persist` of the first revocation that has loaded the empty file, and no more. -/
def latePersist : ProofProg Empty × Option (ProofStateRow Empty) :=
  (persist (revokedState firstRevocation)).prog.steps proofAnswer 2 none

/-- **A persisted revocation is lost**: the snapshot of a writer that loaded before it overwrites it. -/
theorem proof_revocation_lost : ∃ c c' : ProofConfig Empty, Reachable (proofSystem Empty) prog c ∧
    Later (proofSystem Empty) prog c c' ∧
    c.runs 1 = some (.persist (revokedState secondRevocation), some (.ret (revokedState secondRevocation))) ∧
    c.runs 2 = none ∧ c'.runs 2 = some (.load, some (.ret (revokedState firstRevocation))) ∧
    secondRevocation ∉ (revokedState firstRevocation).revocations := by
  have hinit : Reachable (proofSystem Empty) prog (.start none) := .init trivial
  have hread := Reachable.steps proofAnswer (proofAnswer_exec _) 2 _
    (hinit.step (.spawn 0 (.persist (revokedState firstRevocation)) rfl trivial)) (Config.setRun_self _ 0 _ _)
  have hdone := hread.complete (n := 1) rfl (i := .persist (revokedState secondRevocation)) trivial proofAnswer
    (proofAnswer_exec _)
  refine ⟨_, _, hdone, Relation.ReflTransGen.trans (Later.run proofAnswer (proofAnswer_exec _) latePersist.1 (n := 0) rfl)
    (Later.complete (n := 2) rfl (i := .load) trivial proofAnswer (proofAnswer_exec _)), ?_, rfl, ?_, by decide⟩
  · rfl
  · rfl

end Jqe
