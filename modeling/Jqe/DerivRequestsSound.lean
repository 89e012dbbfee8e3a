import Jqe.DerivRequests
/-!
# DerivRequestsSound — each call gets its own message or an error

What has become of a call is its first message or the end of its reader, whichever came first (`standing`).
-/
namespace Jqe
namespace DerivGateway

open List
open Function (update_of_ne update_self update)

inductive Standing where
  | unanswered
  | answered (m : DerivMessage)
  | closed
  deriving DecidableEq

def advance (id : ℕ) (st : Standing) : DemuxEvent → Standing
  | .registered id' => if id' = id then .unanswered else st
  | .received m => if st = .unanswered ∧ m.carries id = true then .answered m else st
  | .closed => if st = .unanswered then .closed else st

/-- **What has become of a call since it was registered**: the first message with its id, or the first end of a reader
or of a teardown. -/
def standing (id : ℕ) (log : List DemuxEvent) : Standing := log.foldl (advance id) .unanswered

theorem standing_append (id : ℕ) (log : List DemuxEvent) (e : DemuxEvent) :
    standing id (log ++ [e]) = advance id (standing id log) e := by
  unfold standing
  rw [foldl_append]
  rfl

/-- **Requests are demultiplexed**: a call that returns returns the first message with its id, one whose reader ended or
whose gateway was disconnected before that raises a `BrokerConnectionError` (unless its task is cancelled), and one that
has ended has no entry. -/
structure Demultiplexed (s : DerivGateway) : Prop where
  returned : ∀ id c m, s.calls id = some c → c.phase = .ended (.returned m) →
    m.carries id = true ∧ standing id s.log = .answered m
  closed : ∀ id c, s.calls id = some c → standing id s.log = .closed →
    (∀ o, c.phase = .ended o → o = .interrupted ∨ ∃ e : RequestError, e.isBroker = true ∧ o = .raised e) ∧
      (c.phase = .waiting → ∃ e : RequestError, e.isBroker = true ∧ s.futures c.future = .exception e)
  removed : ∀ id c o, s.calls id = some c → c.phase = .ended o → ∀ f, (id, f) ∉ s.pending

/-- **The steps that keep it**: a cancelled task has no entry any more when it ends, and a disconnect that clears the
entries finds their futures done. -/
def Orderly (s : DerivGateway) : DemuxMove → Prop
  | .cancelSend id => ∀ f, (id, f) ∉ s.pending
  | .cancelled id => ∀ f, (id, f) ∉ s.pending
  | .teardownEnds => ∀ e ∈ s.pending, s.futures e.2 ≠ .pending
  | _ => True

def OrderlyRun : DerivGateway → List DemuxMove → Prop
  | _, [] => True
  | s, move :: moves => Orderly s move ∧ ∀ s', s.step move = some s' → OrderlyRun s' moves

/-! ### The invariant -/

structure CallKept (s : DerivGateway) (id : ℕ) (c : RequestCall) : Prop where
  pending : s.futures c.future = .pending → (id, c.future) ∈ s.pending ∧ (c.phase = .sending ∨ c.phase = .waiting)
  result : ∀ m, s.futures c.future = .result m → m.carries id = true ∧ standing id s.log = .answered m
  exception : ∀ e, s.futures c.future = .exception e → e.isBroker = true ∧ standing id s.log = .closed
  cancelled : s.futures c.future = .cancelled → c.phase ≠ .sending ∧ c.phase ≠ .waiting
  returned : ∀ m, c.phase = .ended (.returned m) → s.futures c.future = .result m
  raised : ∀ e : RequestError, c.phase = .ended (.raised e) → e.isBroker = true

/-- **Every entry belongs to an open, unanswered call.** -/
structure Kept (s : DerivGateway) : Prop where
  fresh : ∀ id c, s.calls id = some c → id < s.nextId ∧ c.future < s.nextFuture
  distinct : ∀ id id' c c', s.calls id = some c → s.calls id' = some c' → c.future = c'.future → id = id'
  entry : ∀ id f, (id, f) ∈ s.pending →
    ∃ c, s.calls id = some c ∧ c.future = f ∧ standing id s.log = .unanswered ∧ ∀ o, c.phase ≠ .ended o
  call : ∀ id c, s.calls id = some c → CallKept s id c

theorem Kept.demultiplexed {s : DerivGateway} (h : Kept s) : Demultiplexed s where
  returned id c m hc hph := by
    have hk := h.call id c hc
    exact hk.result m (hk.returned m hph)
  closed id c hc hst := by
    have hk := h.call id c hc
    refine ⟨fun o hph => ?_, fun hph => ?_⟩
    · cases o with
      | returned m =>
        have hans := (hk.result m (hk.returned m hph)).2
        rw [hst] at hans
        cases hans
      | raised e => exact .inr ⟨e, hk.raised e hph, rfl⟩
      | interrupted => exact .inl rfl
    · cases hf : s.futures c.future with
      | pending =>
        obtain ⟨_, _, _, hopen, _⟩ := h.entry id c.future (hk.pending hf).1
        rw [hst] at hopen
        cases hopen
      | result m =>
        have hans := (hk.result m hf).2
        rw [hst] at hans
        cases hans
      | exception e => exact ⟨e, (hk.exception e hf).1, rfl⟩
      | cancelled => exact absurd hph (hk.cancelled hf).2
  removed id c o hc hph f hmem := by
    obtain ⟨c', hc', _, _, hno⟩ := h.entry id f hmem
    rw [hc] at hc'
    cases hc'
    exact hno o hph

/-! ### The steps -/

theorem settle_of_ne (fs : ℕ → FutureState) {f f' : ℕ} (v : FutureState) (h : f' ≠ f) : settle fs f v f' = fs f' := by
  unfold settle
  split
  · exact update_of_ne h v fs
  · rfl

theorem settle_self (fs : ℕ → FutureState) (f : ℕ) (v : FutureState) :
    settle fs f v f = if fs f = .pending then v else fs f := by
  unfold settle
  split
  · exact update_self f v fs
  · rfl

theorem foldl_settle {v : FutureState} (hv : v ≠ .pending) (f : ℕ) : ∀ (es : List (ℕ × ℕ)) (fs : ℕ → FutureState),
    es.foldl (fun fs e => settle fs e.2 v) fs f = if (∃ e ∈ es, e.2 = f) ∧ fs f = .pending then v else fs f
  | [], fs => by simp
  | e :: es, fs => by
    rw [foldl_cons, foldl_settle hv f es]
    by_cases he : e.2 = f
    · subst he
      rw [settle_self]
      by_cases hp : fs e.2 = .pending
      · rw [if_pos hp, if_neg (fun h => hv h.2), if_pos ⟨⟨e, mem_cons_self, rfl⟩, hp⟩]
      · rw [if_neg hp, if_neg (fun h => hp h.2), if_neg (fun h => hp h.2)]
    · rw [settle_of_ne fs v (Ne.symm he)]
      simp only [mem_cons, exists_eq_or_imp, he, false_or]

variable {s s' : DerivGateway} {id : ℕ} {c : RequestCall}

theorem settleAll_apply {v : FutureState} (hv : v ≠ .pending) (f : ℕ) :
    s.settleAll v f = if (∃ e ∈ s.pending, e.2 = f) ∧ s.futures f = .pending then v else s.futures f :=
  foldl_settle hv f s.pending s.futures

theorem mem_pop {id' f : ℕ} : (id', f) ∈ s.pop id ↔ (id', f) ∈ s.pending ∧ id' ≠ id := by
  simp [pop]

theorem Kept.of_same (h : Kept s) (hid : s'.nextId = s.nextId) (hnf : s'.nextFuture = s.nextFuture)
    (hp : s'.pending = s.pending) (hf : s'.futures = s.futures) (hc : s'.calls = s.calls) (hl : s'.log = s.log) :
    Kept s' where
  fresh id c hcall := by
    rw [hc] at hcall
    rw [hid, hnf]
    exact h.fresh id c hcall
  distinct id id' c c' hcall hcall' := by
    rw [hc] at hcall hcall'
    exact h.distinct id id' c c' hcall hcall'
  entry id f hmem := by
    rw [hp] at hmem
    rw [hc, hl]
    exact h.entry id f hmem
  call id c hcall := by
    rw [hc] at hcall
    obtain ⟨h₁, h₂, h₃, h₄, h₅, h₆⟩ := h.call id c hcall
    exact ⟨by rw [hf, hp]; exact h₁, by rw [hf, hl]; exact h₂, by rw [hf, hl]; exact h₃, by rw [hf]; exact h₄,
      by rw [hf]; exact h₅, h₆⟩

theorem Kept.ofCall (h : Kept s) (hcall : s.calls id = some c) {phase : RequestPhase} (hid : s'.nextId = s.nextId)
    (hnf : s'.nextFuture = s.nextFuture) (hl : s'.log = s.log) (hc : s'.calls = s.setPhase id c phase)
    (hf : ∀ f, f ≠ c.future → s'.futures f = s.futures f)
    (hp : ∀ id' f, id' ≠ id → ((id', f) ∈ s'.pending ↔ (id', f) ∈ s.pending))
    (hown : ∀ f, (id, f) ∈ s'.pending → (id, f) ∈ s.pending ∧ ∀ o, phase ≠ .ended o)
    (hkept : CallKept s' id { c with phase }) : Kept s' where
  fresh id' c' hcall' := by
    rw [hc, setPhase] at hcall'
    rw [hid, hnf]
    by_cases hne : id' = id
    · subst hne
      rw [update_self] at hcall'
      cases hcall'
      exact h.fresh id' c hcall
    · rw [update_of_ne hne] at hcall'
      exact h.fresh id' c' hcall'
  distinct := by
    have hold : ∀ id' c', s'.calls id' = some c' → ∃ c₀, s.calls id' = some c₀ ∧ c₀.future = c'.future := by
      intro id' c' hcall'
      rw [hc, setPhase] at hcall'
      by_cases hne : id' = id
      · subst hne
        rw [update_self] at hcall'
        cases hcall'
        exact ⟨c, hcall, rfl⟩
      · rw [update_of_ne hne] at hcall'
        exact ⟨c', hcall', rfl⟩
    intro id₁ id₂ c₁ c₂ h₁ h₂ heq
    obtain ⟨d₁, hd₁, hf₁⟩ := hold id₁ c₁ h₁
    obtain ⟨d₂, hd₂, hf₂⟩ := hold id₂ c₂ h₂
    exact h.distinct id₁ id₂ d₁ d₂ hd₁ hd₂ (by rw [hf₁, hf₂, heq])
  entry id' f hmem := by
    rw [hc, hl, setPhase]
    by_cases hne : id' = id
    · subst hne
      obtain ⟨hmem', hopen⟩ := hown f hmem
      obtain ⟨c₀, hc₀, hf₀, hst, _⟩ := h.entry id' f hmem'
      rw [hcall] at hc₀
      cases hc₀
      exact ⟨_, update_self _ _ _, hf₀, hst, hopen⟩
    · rw [update_of_ne hne]
      exact h.entry id' f ((hp id' f hne).1 hmem)
  call id' c' hcall' := by
    rw [hc, setPhase] at hcall'
    by_cases hne : id' = id
    · subst hne
      rw [update_self] at hcall'
      cases hcall'
      exact hkept
    · rw [update_of_ne hne] at hcall'
      have hfne : c'.future ≠ c.future := fun heq => hne (h.distinct id' id c' c hcall' hcall heq)
      obtain ⟨h₁, h₂, h₃, h₄, h₅, h₆⟩ := h.call id' c' hcall'
      have hfeq := hf c'.future hfne
      exact ⟨by rw [hfeq, hp id' c'.future hne]; exact h₁, by rw [hfeq, hl]; exact h₂, by rw [hfeq, hl]; exact h₃,
        by rw [hfeq]; exact h₄, by rw [hfeq]; exact h₅, h₆⟩

theorem atPhase_some {phase : RequestPhase} {f : RequestCall → Option DerivGateway} (h : s.atPhase id phase f = some s') :
    ∃ c, s.calls id = some c ∧ c.phase = phase ∧ f c = some s' := by
  unfold atPhase at h
  cases hc : s.calls id with
  | none =>
    rw [hc] at h
    cases h
  | some c =>
    rw [hc] at h
    dsimp only at h
    split at h
    · rename_i hph
      exact ⟨c, rfl, hph, h⟩
    · cases h

theorem Kept.request (h : Kept s) {requestType : String} (hstep : s.request requestType = some s') : Kept s' := by
  unfold DerivGateway.request at hstep
  split at hstep
  · have hs' := (Option.some.inj hstep).symm
    have hcalls : s'.calls = update s.calls s.nextId (some ⟨requestType, s.nextFuture, .sending⟩) := by rw [hs']
    have hfutures : s'.futures = update s.futures s.nextFuture .pending := by rw [hs']
    have hpending : s'.pending = s.pending.filter (·.1 ≠ s.nextId) ++ [(s.nextId, s.nextFuture)] := by rw [hs']
    have hlog : s'.log = s.log ++ [.registered s.nextId] := by rw [hs']
    have hnext : s'.nextId = s.nextId + 1 ∧ s'.nextFuture = s.nextFuture + 1 := by rw [hs']; exact ⟨rfl, rfl⟩
    have hold : ∀ id, id ≠ s.nextId → standing id s'.log = standing id s.log := by
      intro id hne
      rw [hlog, standing_append, advance, if_neg (Ne.symm hne)]
    -- a call of the new state is the one that starts or an old one
    have hcases : ∀ id c, s'.calls id = some c →
        (id = s.nextId ∧ c = ⟨requestType, s.nextFuture, .sending⟩) ∨
          (id ≠ s.nextId ∧ c.future ≠ s.nextFuture ∧ s.calls id = some c) := by
      intro id c hc
      rw [hcalls] at hc
      by_cases hne : id = s.nextId
      · rw [hne, update_self] at hc
        exact .inl ⟨hne, (Option.some.inj hc).symm⟩
      · rw [update_of_ne hne] at hc
        exact .inr ⟨hne, (h.fresh id c hc).2.ne, hc⟩
    constructor
    · intro id c hc
      rw [hnext.1, hnext.2]
      rcases hcases id c hc with ⟨rfl, rfl⟩ | ⟨_, _, hc⟩
      · exact ⟨Nat.lt_succ_self _, Nat.lt_succ_self _⟩
      · exact ⟨Nat.lt_succ_of_lt (h.fresh id c hc).1, Nat.lt_succ_of_lt (h.fresh id c hc).2⟩
    · intro id id' c c' hc hc' heq
      rcases hcases id c hc with ⟨hid, rfl⟩ | ⟨_, hne, hc⟩ <;> rcases hcases id' c' hc' with ⟨hid', rfl⟩ | ⟨_, hne', hc'⟩
      · rw [hid, hid']
      · exact absurd heq.symm hne'
      · exact absurd heq hne
      · exact h.distinct id id' c c' hc hc' heq
    · intro id f hmem
      rw [hpending, mem_append, mem_filter, mem_singleton] at hmem
      rw [hcalls]
      rcases hmem with ⟨hmem, hne⟩ | heq
      · have hne' : id ≠ s.nextId := by simpa using hne
        rw [hold id hne', update_of_ne hne']
        exact h.entry id f hmem
      · cases heq
        rw [hlog, standing_append, advance, if_pos rfl, update_self]
        exact ⟨_, rfl, rfl, rfl, fun o ho => by cases ho⟩
    · intro id c hc
      rcases hcases id c hc with ⟨rfl, rfl⟩ | ⟨hne, hne', hc⟩
      · have hfut : s'.futures s.nextFuture = .pending := by rw [hfutures, update_self]
        exact ⟨fun _ => ⟨by rw [hpending]; simp, .inl rfl⟩, fun m hm => (by rw [hfut] at hm; cases hm),
          fun e he => (by rw [hfut] at he; cases he), fun hcan => (by rw [hfut] at hcan; cases hcan),
          fun m hm => (by cases hm), fun e he => by cases he⟩
      · have hfut : s'.futures c.future = s.futures c.future := by rw [hfutures, update_of_ne hne']
        have hmem : (id, c.future) ∈ s.pending → (id, c.future) ∈ s'.pending := fun hm => by
          rw [hpending]
          exact mem_append_left _ (mem_filter.2 ⟨hm, by simpa using hne⟩)
        obtain ⟨h₁, h₂, h₃, h₄, h₅, h₆⟩ := h.call id c hc
        exact ⟨by rw [hfut]; exact fun hf => ⟨hmem (h₁ hf).1, (h₁ hf).2⟩, by rw [hfut, hold id hne]; exact h₂,
          by rw [hfut, hold id hne]; exact h₃, by rw [hfut]; exact h₄, by rw [hfut]; exact h₅, h₆⟩
  · cases hstep

theorem Kept.sent (h : Kept s) (hcall : s.calls id = some c) (hph : c.phase = .sending) :
    Kept { s with calls := s.setPhase id c .waiting } := by
  obtain ⟨h₁, h₂, h₃, h₄, h₅, h₆⟩ := h.call id c hcall
  refine h.ofCall hcall rfl rfl rfl rfl (fun f _ => rfl) (fun id' f _ => Iff.rfl) (fun f hm => ⟨hm, fun o ho => by cases ho⟩)
    ⟨fun hf => ⟨(h₁ hf).1, .inr rfl⟩, h₂, h₃, fun hf => absurd hph (h₄ hf).1, fun m hm => (by cases hm),
      fun e he => by cases he⟩

theorem Kept.sendFails (h : Kept s) (hcall : s.calls id = some c) : Kept (s.sendFails id c) := by
  obtain ⟨h₁, h₂, h₃, h₄, h₅, h₆⟩ := h.call id c hcall
  refine h.ofCall hcall rfl rfl rfl rfl (fun f hne => settle_of_ne _ _ hne)
    (fun id' f hne => ⟨fun hm => (mem_pop.1 hm).1, fun hm => mem_pop.2 ⟨hm, hne⟩⟩)
    (fun f hm => absurd rfl (mem_pop.1 hm).2) ?_
  have hfut : (s.sendFails id c).futures c.future =
      if s.futures c.future = .pending then .cancelled else s.futures c.future := settle_self _ _ _
  by_cases hp : s.futures c.future = .pending
  · rw [if_pos hp] at hfut
    exact ⟨fun hf => (by rw [hfut] at hf; cases hf), fun m hm => (by rw [hfut] at hm; cases hm),
      fun e he => (by rw [hfut] at he; cases he), fun _ => ⟨by simp, by simp⟩, fun m hm => (by cases hm),
      fun e he => by cases he; rfl⟩
  · rw [if_neg hp] at hfut
    exact ⟨fun hf => absurd (hfut.symm.trans hf) hp, by rw [hfut]; exact h₂, by rw [hfut]; exact h₃,
      fun _ => ⟨by simp, by simp⟩, fun m hm => (by cases hm), fun e he => by cases he; rfl⟩

theorem Kept.no_entry (h : Kept s) (hst : standing id s.log ≠ .unanswered) (f : ℕ) :
    (id, f) ∉ s.pending := by
  intro hm
  obtain ⟨_, _, _, hopen, _⟩ := h.entry id f hm
  exact hst hopen

theorem Kept.ends (h : Kept s) (hcall : s.calls id = some c) {o : RequestOutcome}
    (hst : standing id s.log ≠ .unanswered) (hret : ∀ m, o = .returned m → s.futures c.future = .result m)
    (hraised : ∀ e : RequestError, o = .raised e → e.isBroker = true)
    (hfut : s.futures c.future ≠ .pending ∧ s.futures c.future ≠ .cancelled) :
    Kept { s with calls := s.setPhase id c (.ended o) } := by
  obtain ⟨h₁, h₂, h₃, h₄, h₅, h₆⟩ := h.call id c hcall
  refine h.ofCall hcall rfl rfl rfl rfl (fun f _ => rfl) (fun id' f _ => Iff.rfl)
    (fun f hm => absurd hm (h.no_entry hst f)) ⟨fun hf => absurd hf hfut.1, h₂, h₃, fun hf => absurd hf hfut.2,
      fun m hm => ?_, fun e he => ?_⟩
  · cases hm
    exact hret m rfl
  · cases he
    exact hraised e rfl

theorem Kept.resume (h : Kept s) (hcall : s.calls id = some c) (hph : c.phase = .waiting)
    (hstep : s.resume id c = some s') : Kept s' := by
  have hk := h.call id c hcall
  unfold DerivGateway.resume at hstep
  cases hf : s.futures c.future with
  | pending =>
    rw [hf] at hstep
    cases hstep
  | result m =>
    rw [hf] at hstep
    cases hstep
    refine h.ends hcall ?_ (fun m' hm => ?_) (fun e he => by cases he) ⟨by rw [hf]; simp, by rw [hf]; simp⟩
    · rw [(hk.result m hf).2]
      simp
    · cases hm
      exact hf
  | exception e =>
    rw [hf] at hstep
    cases hstep
    refine h.ends hcall ?_ (fun m' hm => by cases hm) (fun e' he => ?_) ⟨by rw [hf]; simp, by rw [hf]; simp⟩
    · rw [(hk.exception e hf).2]
      simp
    · cases he
      exact (hk.exception e hf).1
  | cancelled => exact absurd hph (hk.cancelled hf).2

theorem Kept.taken (h : Kept s) (hcall : s.calls id = some c) {phase : RequestPhase}
    (hphase : phase = .expiring ∨ phase = .cancelling) :
    Kept { s with futures := settle s.futures c.future .cancelled, calls := s.setPhase id c phase } := by
  obtain ⟨h₁, h₂, h₃, h₄, h₅, h₆⟩ := h.call id c hcall
  have hno : phase ≠ .sending ∧ phase ≠ .waiting ∧ ∀ o, phase ≠ .ended o := by
    rcases hphase with rfl | rfl <;> simp
  refine h.ofCall hcall rfl rfl rfl rfl (fun f hne => settle_of_ne _ _ hne) (fun id' f _ => Iff.rfl)
    (fun f hm => ⟨hm, hno.2.2⟩) ?_
  have hfut := settle_self s.futures c.future .cancelled
  by_cases hp : s.futures c.future = .pending
  · rw [if_pos hp] at hfut
    exact ⟨fun hf => absurd (hfut.symm.trans hf) (by simp), fun m hm => absurd (hfut.symm.trans hm) (by simp),
      fun e he => absurd (hfut.symm.trans he) (by simp), fun _ => ⟨hno.1, hno.2.1⟩,
      fun m hm => absurd hm (hno.2.2 _), fun e he => absurd he (hno.2.2 _)⟩
  · rw [if_neg hp] at hfut
    exact ⟨fun hf => absurd (hfut.symm.trans hf) hp, fun m hm => h₂ m (hfut.symm.trans hm),
      fun e he => h₃ e (hfut.symm.trans he), fun _ => ⟨hno.1, hno.2.1⟩, fun m hm => absurd hm (hno.2.2 _),
      fun e he => absurd he (hno.2.2 _)⟩

theorem Kept.interrupted (h : Kept s) (hcall : s.calls id = some c) (hgone : ∀ f, (id, f) ∉ s.pending) :
    Kept { s with calls := s.setPhase id c (.ended .interrupted) } := by
  obtain ⟨h₁, h₂, h₃, h₄, h₅, h₆⟩ := h.call id c hcall
  exact h.ofCall hcall rfl rfl rfl rfl (fun f _ => rfl) (fun id' f _ => Iff.rfl) (fun f hm => absurd hm (hgone f))
    ⟨fun hf => absurd (h₁ hf).1 (hgone _), h₂, h₃, fun _ => ⟨by simp, by simp⟩, fun m hm => (by cases hm),
      fun e he => by cases he⟩

theorem Kept.cancelExpired (h : Kept s) (hcall : s.calls id = some c) (hph : c.phase = .expiring) :
    Kept { s with calls := s.setPhase id c .cancelling } := by
  obtain ⟨h₁, h₂, h₃, h₄, h₅, h₆⟩ := h.call id c hcall
  refine h.ofCall hcall rfl rfl rfl rfl (fun f _ => rfl) (fun id' f _ => Iff.rfl) (fun f hm => ⟨hm, by simp⟩)
    ⟨fun hf => ?_, h₂, h₃, fun _ => ⟨by simp, by simp⟩, fun m hm => (by cases hm), fun e he => by cases he⟩
  rcases (h₁ hf).2 with hs | hw
  · rw [hph] at hs
    cases hs
  · rw [hph] at hw
    cases hw

theorem Kept.timedOut (h : Kept s) (hcall : s.calls id = some c) (hph : c.phase = .expiring) :
    Kept (s.timedOut id c) := by
  obtain ⟨h₁, h₂, h₃, h₄, h₅, h₆⟩ := h.call id c hcall
  refine h.ofCall hcall rfl rfl rfl rfl (fun f _ => rfl)
    (fun id' f hne => ⟨fun hm => (mem_pop.1 hm).1, fun hm => mem_pop.2 ⟨hm, hne⟩⟩)
    (fun f hm => absurd rfl (mem_pop.1 hm).2)
    ⟨fun hf => ?_, h₂, h₃, fun _ => ⟨by simp, by simp⟩, fun m hm => (by cases hm), fun e he => by cases he; rfl⟩
  rcases (h₁ hf).2 with hs | hw
  · rw [hph] at hs
    cases hs
  · rw [hph] at hw
    cases hw

variable {m : DerivMessage}

theorem carries_inj {id id' : ℕ} (h : m.carries id = true) (h' : m.carries id' = true) : id = id' := by
  unfold DerivMessage.carries at h h'
  rw [decide_eq_true_eq] at h h'
  rw [h] at h'
  exact Rat.natCast_inj.1 (ReqId.number.inj (Option.some.inj h'))

theorem advance_received_of_ne {id : ℕ} {st : Standing} (h : st ≠ .unanswered) : advance id st (.received m) = st := by
  rw [advance, if_neg fun h' => h h'.1]

theorem Kept.ignored (h : Kept s) (hnone : ∀ e ∈ s.pending, m.carries e.1 = false) (hid : s'.nextId = s.nextId)
    (hnf : s'.nextFuture = s.nextFuture) (hp : s'.pending = s.pending) (hf : s'.futures = s.futures)
    (hc : s'.calls = s.calls) (hl : s'.log = s.log ++ [.received m]) : Kept s' := by
  have hst : ∀ id, standing id s.log ≠ .unanswered → standing id s'.log = standing id s.log := fun id hne => by
    rw [hl, standing_append, advance_received_of_ne hne]
  constructor
  · rw [hc, hid, hnf]
    exact h.fresh
  · rw [hc]
    exact h.distinct
  · intro id f hmem
    rw [hp] at hmem
    rw [hc]
    obtain ⟨c, hcall, hfut, hopen, hno⟩ := h.entry id f hmem
    refine ⟨c, hcall, hfut, ?_, hno⟩
    rw [hl, standing_append, hopen, advance, if_neg]
    rintro ⟨_, hcar⟩
    rw [hnone _ hmem] at hcar
    cases hcar
  · intro id c hcall
    rw [hc] at hcall
    obtain ⟨h₁, h₂, h₃, h₄, h₅, h₆⟩ := h.call id c hcall
    refine ⟨by rw [hf, hp]; exact h₁, ?_, ?_, by rw [hf]; exact h₄, by rw [hf]; exact h₅, h₆⟩
    · intro m' hm
      rw [hf] at hm
      obtain ⟨hcar, hans⟩ := h₂ m' hm
      exact ⟨hcar, by rw [hst id (by rw [hans]; simp), hans]⟩
    · intro e he
      rw [hf] at he
      obtain ⟨hbr, hcl⟩ := h₃ e he
      exact ⟨hbr, by rw [hst id (by rw [hcl]; simp), hcl]⟩

theorem Kept.delivered (h : Kept s) {f : ℕ} (hmem : (id, f) ∈ s.pending) (hcar : m.carries id = true) :
    Kept { s with pending := s.pop id, futures := settle s.futures f (.result m), log := s.log ++ [.received m] } := by
  obtain ⟨c, hcall, rfl, hopen, hno⟩ := h.entry id f hmem
  have hother : ∀ id', id' ≠ id → standing id' (s.log ++ [.received m]) = standing id' s.log := by
    intro id' hne
    rw [standing_append, advance, if_neg]
    rintro ⟨_, hcar'⟩
    exact hne (carries_inj hcar' hcar)
  have hmine : standing id (s.log ++ [.received m]) = .answered m := by
    rw [standing_append, hopen, advance, if_pos ⟨rfl, hcar⟩]
  constructor
  · exact h.fresh
  · exact h.distinct
  · intro id' f' hm
    obtain ⟨hm, hne⟩ := mem_pop.1 hm
    dsimp only
    rw [hother id' hne]
    exact h.entry id' f' hm
  · intro id' c' hcall'
    obtain ⟨h₁, h₂, h₃, h₄, h₅, h₆⟩ := h.call id' c' hcall'
    by_cases hne : id' = id
    · subst hne
      have hcc : c' = c := Option.some.inj (hcall'.symm.trans hcall)
      subst hcc
      have hfut := settle_self s.futures c'.future (.result m)
      by_cases hp : s.futures c'.future = .pending
      · rw [if_pos hp] at hfut
        refine ⟨fun hf => absurd (hfut.symm.trans hf) (by simp), fun m' hm => ?_,
          fun e he => absurd (hfut.symm.trans he) (by simp), fun hf => absurd (hfut.symm.trans hf) (by simp),
          fun m' hm => absurd hm (hno _), h₆⟩
        have hm' : m = m' := FutureState.result.inj (hfut.symm.trans hm)
        subst hm'
        exact ⟨hcar, hmine⟩
      · -- the timeout has cancelled the future already
        rw [if_neg hp] at hfut
        refine ⟨fun hf => absurd (hfut.symm.trans hf) hp, fun m' hm => ?_, fun e he => ?_,
          fun hf => h₄ (hfut.symm.trans hf), fun m' hm => absurd hm (hno _), h₆⟩
        · have hans := (h₂ m' (hfut.symm.trans hm)).2
          rw [hopen] at hans
          cases hans
        · have hcl := (h₃ e (hfut.symm.trans he)).2
          rw [hopen] at hcl
          cases hcl
    · have hfne : c'.future ≠ c.future := fun heq => hne (h.distinct id' id c' c hcall' hcall heq)
      have hfut : settle s.futures c.future (.result m) c'.future = s.futures c'.future := settle_of_ne _ _ hfne
      exact ⟨fun hf => ⟨mem_pop.2 ⟨(h₁ (hfut.symm.trans hf)).1, hne⟩, (h₁ (hfut.symm.trans hf)).2⟩,
        fun m' hm => (by rw [hother id' hne]; exact h₂ m' (hfut.symm.trans hm)),
        fun e he => (by rw [hother id' hne]; exact h₃ e (hfut.symm.trans he)),
        fun hf => h₄ (hfut.symm.trans hf), fun m' hm => hfut.trans (h₅ m' hm), h₆⟩

theorem Kept.receive (h : Kept s) (hstep : s.receive m = some s') : Kept s' := by
  unfold DerivGateway.receive at hstep
  dsimp only at hstep
  cases hfind : s.pending.find? fun e => m.carries e.1 with
  | some e =>
    obtain ⟨id, f⟩ := e
    rw [hfind] at hstep
    cases hstep
    have hcar := find?_some hfind
    exact h.delivered (mem_of_find?_eq_some hfind) hcar
  | none =>
    have hnone : ∀ e ∈ s.pending, m.carries e.1 = false := by
      intro e he
      have hno := List.find?_eq_none.1 hfind e he
      simpa using hno
    rw [hfind] at hstep
    dsimp only at hstep
    split at hstep
    · split at hstep
      · cases hstep
      · cases hstep
        exact h.ignored hnone rfl rfl rfl rfl rfl rfl
      · split at hstep
        · cases hstep
          exact h.ignored hnone rfl rfl rfl rfl rfl rfl
        · cases hstep
          exact h.ignored hnone rfl rfl rfl rfl rfl rfl
    · cases hstep
      exact h.ignored hnone rfl rfl rfl rfl rfl rfl

theorem advance_closed_of_ne {id : ℕ} {st : Standing} (h : st ≠ .unanswered) : advance id st .closed = st := by
  rw [advance, if_neg h]

theorem Kept.swept (h : Kept s) {v : FutureState} (hid : s'.nextId = s.nextId) (hnf : s'.nextFuture = s.nextFuture)
    (hp : s'.pending = []) (hf : s'.futures = s.settleAll v) (hc : s'.calls = s.calls)
    (hl : s'.log = s.log ++ [.closed])
    (hv : (∃ e : RequestError, e.isBroker = true ∧ v = .exception e) ∨
      v ≠ .pending ∧ ∀ e ∈ s.pending, s.futures e.2 ≠ .pending) : Kept s' := by
  have hvp : v ≠ .pending := by
    rcases hv with ⟨e, _, rfl⟩ | ⟨hv, _⟩
    · simp
    · exact hv
  have hst : ∀ id, standing id s.log ≠ .unanswered → standing id s'.log = standing id s.log := fun id hne => by
    rw [hl, standing_append, advance_closed_of_ne hne]
  constructor
  · rw [hc, hid, hnf]
    exact h.fresh
  · rw [hc]
    exact h.distinct
  · intro id f hmem
    rw [hp] at hmem
    cases hmem
  · intro id c hcall
    rw [hc] at hcall
    obtain ⟨h₁, h₂, h₃, h₄, h₅, h₆⟩ := h.call id c hcall
    have hfut : s'.futures c.future =
        if (∃ e ∈ s.pending, e.2 = c.future) ∧ s.futures c.future = .pending then v else s.futures c.future := by
      rw [hf, settleAll_apply hvp]
    by_cases hund : s.futures c.future = .pending
    · have hmem := (h₁ hund).1
      rcases hv with ⟨e, hbr, rfl⟩ | ⟨_, hdone⟩
      · rw [if_pos ⟨⟨_, hmem, rfl⟩, hund⟩] at hfut
        obtain ⟨_, _, _, hopen, _⟩ := h.entry id c.future hmem
        refine ⟨fun hq => (by rw [hfut] at hq; cases hq), fun m hm => (by rw [hfut] at hm; cases hm), fun e' he => ?_,
          fun hq => (by rw [hfut] at hq; cases hq), fun m hm => ?_, h₆⟩
        · rw [hfut] at he
          cases he
          refine ⟨hbr, ?_⟩
          rw [hl, standing_append, hopen, advance, if_pos rfl]
        · have hres := h₅ m hm
          rw [hund] at hres
          cases hres
      · exact absurd hund (hdone _ hmem)
    · rw [if_neg fun hq => hund hq.2] at hfut
      refine ⟨fun hq => absurd (hfut.symm.trans hq) hund, fun m hm => ?_, fun e he => ?_, by rw [hfut]; exact h₄,
        by rw [hfut]; exact h₅, h₆⟩
      · rw [hfut] at hm
        obtain ⟨hcar, hans⟩ := h₂ m hm
        exact ⟨hcar, by rw [hst id (by rw [hans]; simp), hans]⟩
      · rw [hfut] at he
        obtain ⟨hbr, hcl⟩ := h₃ e he
        exact ⟨hbr, by rw [hst id (by rw [hcl]; simp), hcl]⟩

theorem Kept.step (h : Kept s) {move : DemuxMove} (horderly : Orderly s move) (hstep : s.step move = some s') :
    Kept s' := by
  cases move with
  | opened | authorized | teardownBegins | subscribes | unsubscribes =>
    cases hstep
    exact h.of_same rfl rfl rfl rfl rfl rfl
  | readerStarts r =>
    unfold DerivGateway.step at hstep
    dsimp only at hstep
    split at hstep
    · cases hstep
      exact h.of_same rfl rfl rfl rfl rfl rfl
    · cases hstep
  | request requestType => exact h.request hstep
  | sent id =>
    obtain ⟨c, hcall, hph, hs'⟩ := atPhase_some hstep
    cases hs'
    exact h.sent hcall hph
  | sendFails id =>
    obtain ⟨c, hcall, hph, hs'⟩ := atPhase_some hstep
    cases hs'
    exact h.sendFails hcall
  | resumes id =>
    obtain ⟨c, hcall, hph, hs'⟩ := atPhase_some hstep
    exact h.resume hcall hph hs'
  | expires id =>
    obtain ⟨c, hcall, hph, hs'⟩ := atPhase_some hstep
    cases hs'
    exact h.taken hcall (.inl rfl)
  | timedOut id =>
    obtain ⟨c, hcall, hph, hs'⟩ := atPhase_some hstep
    cases hs'
    exact h.timedOut hcall hph
  | cancelSend id =>
    obtain ⟨c, hcall, hph, hs'⟩ := atPhase_some hstep
    cases hs'
    exact h.interrupted hcall horderly
  | cancelWait id =>
    obtain ⟨c, hcall, hph, hs'⟩ := atPhase_some hstep
    cases hs'
    exact h.taken hcall (.inr rfl)
  | cancelExpired id =>
    obtain ⟨c, hcall, hph, hs'⟩ := atPhase_some hstep
    cases hs'
    exact h.cancelExpired hcall hph
  | cancelled id =>
    obtain ⟨c, hcall, hph, hs'⟩ := atPhase_some hstep
    cases hs'
    exact h.interrupted hcall horderly
  | receives r m =>
    unfold DerivGateway.step at hstep
    dsimp only at hstep
    split at hstep
    · exact h.receive hstep
    · cases hstep
  | readerEnds r e =>
    unfold DerivGateway.step at hstep
    dsimp only at hstep
    split at hstep
    · cases hstep
      exact h.swept rfl rfl rfl rfl rfl rfl (.inl ⟨_, rfl, rfl⟩)
    · cases hstep
  | teardownEnds =>
    unfold DerivGateway.step at hstep
    dsimp only at hstep
    split at hstep
    · cases hstep
      exact h.swept rfl rfl rfl rfl rfl rfl (.inr ⟨by simp, horderly⟩)
    · cases hstep
  | teardownFails =>
    unfold DerivGateway.step at hstep
    dsimp only at hstep
    split at hstep
    · cases hstep
      exact h.of_same rfl rfl rfl rfl rfl rfl
    · cases hstep

theorem kept_initial : Kept {} where
  fresh id c hc := by cases hc
  distinct id id' c c' hc := by cases hc
  entry id f hm := by cases hm
  call id c hc := by cases hc

theorem Kept.run : ∀ (moves : List DemuxMove) {s s' : DerivGateway}, Kept s → OrderlyRun s moves →
    s.run moves = some s' → Kept s'
  | [], s, s', h, _, hrun => by
    cases hrun
    exact h
  | move :: moves, s, s', h, horderly, hrun => by
    obtain ⟨s₁, hstep, hrest⟩ := Option.bind_eq_some_iff.1 hrun
    exact Kept.run moves (h.step horderly.1 hstep) (horderly.2 s₁ hstep) hrest

/-- **Every state that a gateway reaches by orderly steps demultiplexes its requests.** -/
theorem orderly_demultiplexed (moves : List DemuxMove) (s : DerivGateway) (horderly : OrderlyRun {} moves)
    (hrun : run {} moves = some s) : Demultiplexed s := (Kept.run moves kept_initial horderly hrun).demultiplexed

def balanceMessage : DerivMessage := { reqId := some (.number 1), body := "balance" }

def balanceSent : List DemuxMove := [.opened, .readerStarts 0, .request "balance", .sent 1]

/-- The balance comes and is returned. -/
theorem orderly_demultiplexed_balance : ∃ s, run {} (balanceSent ++ [.receives 0 balanceMessage, .resumes 1]) = some s ∧
    Demultiplexed s ∧ (s.calls 1).map (·.phase) = some (.ended (.returned balanceMessage)) := by
  have horderly : OrderlyRun {} (balanceSent ++ [.receives 0 balanceMessage, .resumes 1]) :=
    ⟨trivial, fun _ _ => ⟨trivial, fun _ _ => ⟨trivial, fun _ _ => ⟨trivial, fun _ _ =>
      ⟨trivial, fun _ _ => ⟨trivial, fun _ _ => trivial⟩⟩⟩⟩⟩⟩
  exact ⟨_, rfl, orderly_demultiplexed _ _ horderly rfl, by decide⟩

/-- **A cancelled task leaves its entry, and a disconnect that does not wait for the reader makes a request raise a
`CancelledError`.** -/
theorem not_demultiplexed : (∃ s, run {} (balanceSent ++ [.cancelWait 1, .cancelled 1]) = some s ∧ ¬Demultiplexed s) ∧
    ∃ s, run {} (balanceSent ++ [.teardownBegins, .teardownEnds, .resumes 1]) = some s ∧ ¬Demultiplexed s := by
  constructor
  · refine ⟨_, rfl, fun h => ?_⟩
    exact h.removed 1 ⟨"balance", 0, .ended .interrupted⟩ .interrupted rfl rfl 0 (by decide)
  · refine ⟨_, rfl, fun h => ?_⟩
    have hclosed := h.closed 1 ⟨"balance", 0, .ended (.raised .cancelledError)⟩ rfl (by decide)
    rcases hclosed.1 _ rfl with heq | ⟨e, hbr, heq⟩
    · cases heq
    · cases heq
      cases hbr

end DerivGateway
end Jqe
