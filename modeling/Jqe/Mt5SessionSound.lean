import Jqe.Mt5Session
/-!
# Mt5SessionSound — one owner at a time

What every locked section does to the session, for its caller: nothing where another owner holds it; otherwise it ends
owning or with no owner, and shuts the terminal down only while it owns the session.
-/
namespace Jqe
namespace Mt5

open Raising
open Triple (ite returns intro bind reads modifies raises weaken)
open Raising (run_bind)

variable {G : Type} [DecidableEq G]

/-- What a section of `o` may have done so far besides owning: shut down as the owner, and pinned its own identity. -/
structure Since (o : Owner G) (w₀ w : World G) : Prop where
  shutdowns : ∃ k, w.shutdowns = w₀.shutdowns ++ List.replicate k (o, some o)
  pinned : ∀ g, o ≠ .gateway g → w.pinned g = w₀.pinned g

/-- Inside a section of `o`, which owns the session. -/
structure Holding (o : Owner G) (w₀ w : World G) : Prop where
  owner : w.owner = some o
  since : Since o w₀ w

/-- After a section of `o` that gave the session up. -/
structure Released (o : Owner G) (w₀ w : World G) : Prop where
  owner : w.owner = none
  active : w.active = false
  since : Since o w₀ w

omit [DecidableEq G] in
theorem Since.refl (o : Owner G) (w : World G) : Since o w w := ⟨⟨0, by simp⟩, fun _ _ => rfl⟩

variable {o : Owner G} {w₀ w : World G} {g : G}

omit [DecidableEq G] in
theorem Since.session (h : Since o w₀ w) (owner : Option (Owner G)) (active : Bool) :
    Since o w₀ { w with owner := owner, active := active } := ⟨h.shutdowns, h.pinned⟩

theorem Since.setPinned (h : Since (.gateway g) w₀ w) (pinned : Option Identity) :
    Since (.gateway g) w₀ (setPinned g pinned w) where
  shutdowns := h.shutdowns
  pinned g' hne := by
    have hg : g' ≠ g := fun he => hne (by rw [he])
    rw [← h.pinned g' hne]
    exact Function.update_of_ne hg pinned w.pinned

def Foreign (o : Owner G) (w : World G) : Prop := w.owner ≠ none ∧ w.owner ≠ some o

omit [DecidableEq G] in
theorem answered_keeps {α : Type} {P : World G → Prop} (answer : Except PyExc α) :
    Triple P (answered answer) (fun _ => P) P := Triple.answers fun _ hs => ⟨fun _ _ => hs, hs⟩

omit [DecidableEq G] in
theorem shutdown_holding (answer : Except PyExc Unit) :
    Triple (Holding o w₀) (shutdown o answer) (fun _ => Holding o w₀) (Holding o w₀) := by
  intro w h
  obtain ⟨k, hk⟩ := h.since.shutdowns
  have hafter : Holding o w₀ { w with shutdowns := w.shutdowns ++ [(o, w.owner)] } := by
    refine ⟨h.owner, ⟨k + 1, ?_⟩, h.since.pinned⟩
    show w.shutdowns ++ [(o, w.owner)] = _
    rw [hk, h.owner, List.append_assoc, ← List.replicate_succ']
  exact answered_keeps answer _ hafter

omit [DecidableEq G] in
theorem initializeTerminal_holding (p : ConnectArgs) (a : ConnectAnswers) :
    Triple (Holding o w₀) (initializeTerminal o p a) (fun _ => Holding o w₀) (Holding o w₀) := by
  have hlogin : Triple (Holding o w₀)
      (do if p.login then
            if !(← answered a.login) then
              shutdown o a.shutdown
              return false
          return true) (fun _ => Holding o w₀) (Holding o w₀) := by
    refine ite (fun _ => ?_) (fun _ => returns fun _ hs => hs)
    refine (answered_keeps a.login).bind fun ok => ite (fun _ => ?_) (fun _ => returns fun _ hs => hs)
    exact (shutdown_holding a.shutdown).bind fun _ => returns fun _ hs => hs
  have hinitialized : Triple (Holding o w₀)
      (do if !(← answered a.initialized) then return false
          if p.login then
            if !(← answered a.login) then
              shutdown o a.shutdown
              return false
          return true) (fun _ => Holding o w₀) (Holding o w₀) :=
    (answered_keeps a.initialized).bind fun ok =>
      ite (fun _ => returns fun _ hs => hs) (fun _ => hlogin)
  unfold initializeTerminal
  refine ite (fun _ => ?_) (fun _ => hinitialized)
  exact (answered_keeps a.isFile).bind fun ok =>
    ite (fun _ => returns fun _ hs => hs) (fun _ => hinitialized)

omit [DecidableEq G] in
theorem invalidate_released : Triple (Holding o w₀) invalidate (fun _ => Released o w₀) (Released o w₀) :=
  fun _ h => ⟨rfl, rfl, h.since.session none false⟩

theorem activate_holding {E : World G → Prop} :
    Triple (Holding o w₀) (activate o) (fun _ w => Holding o w₀ w ∧ w.active = true) E := by
  refine intro fun w h => .inl ⟨(), { w with active := true }, if_neg (fun hne => hne h.owner), ?_, rfl⟩
  exact ⟨h.owner, h.since.session w.owner true⟩

theorem reserve_foreign (h : Foreign o w) : reserve o w = .ok false w := if_pos h

theorem reserve_holding (h : ¬ Foreign o w) :
    reserve o w = .ok true { w with owner := some o, active := false } := if_neg h

theorem connect_foreign (h : Foreign o w) (p : ConnectArgs) (a : ConnectAnswers) : connect o p a w = .ok false w := by
  unfold connect
  rw [run_bind (reserve_foreign h)]
  rfl

/-- **`connect` of a caller that may**: it returns `True` holding the session active, or gives it up. -/
theorem connect_triple (p : ConnectArgs) (a : ConnectAnswers) :
    Triple (fun w => ¬ Foreign o w ∧ Since o w₀ w) (connect o p a)
      (fun result w => (result = true ∧ Holding o w₀ w ∧ w.active = true) ∨ (result = false ∧ Released o w₀ w))
      (Released o w₀) := by
  intro w ⟨hmay, hsince⟩
  have hholding : Holding o w₀ { w with owner := some o, active := false } := ⟨rfl, hsince.session (some o) false⟩
  have hbody : Triple (Holding o w₀)
      (do let result ← initializeTerminal o p a
          if result then activate o else invalidate
          return result)
      (fun result w => (result = true ∧ Holding o w₀ w ∧ w.active = true) ∨ (result = false ∧ Released o w₀ w))
      (fun w => Holding o w₀ w ∨ Released o w₀ w) := by
    refine ((initializeTerminal_holding p a).weaken (fun _ hs => hs) (fun _ _ hs => hs) (fun _ => .inl)).bind
      fun result => ?_
    cases result with
    | true =>
      refine bind (Q := fun _ w => Holding o w₀ w ∧ w.active = true) ?_
        fun _ => returns fun _ hs => .inl ⟨rfl, hs⟩
      exact activate_holding
    | false =>
      exact (invalidate_released.weaken (fun _ hs => hs) (fun _ _ hs => hs) (fun _ => .inr)).bind
        fun _ => returns fun _ hs => .inr ⟨rfl, hs⟩
  have hhandler : Triple (fun w => Holding o w₀ w ∨ Released o w₀ w) invalidate (fun _ => Released o w₀)
      (Released o w₀) := by
    rintro w (h | h)
    · exact ⟨rfl, rfl, h.since.session none false⟩
    · exact ⟨rfl, rfl, h.since.session none false⟩
  have htry := hbody.rethrow hhandler _ hholding
  unfold connect
  rw [run_bind (reserve_holding hmay)]
  exact htry

theorem disconnect_other (h : w.owner ≠ some o) (answer : Except PyExc Unit) : disconnect o answer w = .ok false w := by
  have howns : owns o w = .ok false w := by rw [owns, decide_eq_false h]
  unfold disconnect release
  rw [run_bind howns]
  rfl

theorem disconnect_owner (answer : Except PyExc Unit) :
    Triple (Holding o w₀) (disconnect o answer) (fun _ => Released o w₀) (Released o w₀) := by
  intro w h
  have howns : owns o w = .ok true w := by rw [owns, decide_eq_true h.owner]
  have hrelease : Triple (Holding o w₀) (finallyDo (shutdown o answer) fun w => { w with active := false, owner := none })
      (fun _ => Released o w₀) (Released o w₀) := by
    refine Triple.finallyDo ((shutdown_holding answer).weaken (fun _ hs => hs) (fun _ s hs => ?_) (fun s hs => ?_))
    · exact ⟨rfl, rfl, hs.since.session none false⟩
    · exact ⟨rfl, rfl, hs.since.session none false⟩
  have hreturn := hrelease.bind fun _ => (returns fun _ hs => hs :
    Triple (Released o w₀) (pure true : Act G Bool) (fun _ => Released o w₀) (Released o w₀))
  unfold disconnect release
  rw [run_bind howns]
  exact hreturn w h

/-! ## The gateway -/

omit [DecidableEq G] in
theorem verify_keeps {P : World G → Prop} (config : GatewayConfig) (a : VerifyAnswers) (requireTrading : Bool) :
    Triple P (verifyConnectionIdentity config g a requireTrading) (fun _ => P) P := by
  unfold verifyConnectionIdentity
  refine (answered_keeps a.account).bind fun account => (answered_keeps a.terminal).bind fun terminal => ?_
  exact bind (Q := fun _ => P) (reads fun _ hs => hs) fun _ => returns fun _ hs => hs

/-- Inside `_connect_session`: the session is held, or the `connect` inside gave it up. -/
def Trying (o : Owner G) (w₀ w : World G) : Prop := Holding o w₀ w ∨ Released o w₀ w

theorem connectPinned_triple (config : GatewayConfig) (a : SessionAnswers) :
    Triple (fun w => ¬ Foreign (.gateway g) w ∧ Since (.gateway g) w₀ w) (connectPinned config g a)
      (fun _ w => Holding (.gateway g) w₀ w ∧ w.active = true ∧ (w.pinned g).isSome = true) (Trying (.gateway g) w₀) := by
  have hactivate : Triple (fun w => Holding (.gateway g) w₀ w ∧ (w.pinned g).isSome = true) (activate (.gateway g))
      (fun _ w => Holding (.gateway g) w₀ w ∧ w.active = true ∧ (w.pinned g).isSome = true)
      (Trying (.gateway g) w₀) := by
    refine intro fun w ⟨h, hpinned⟩ => .inl ⟨(), { w with active := true }, if_neg (fun hne => hne h.owner), ?_⟩
    exact ⟨⟨h.owner, h.since.session w.owner true⟩, rfl, hpinned⟩
  have hpin (info : Option Account) : Triple (Holding (.gateway g) w₀) (modify (setPinned g (identity info)) : Act G PUnit)
      (fun _ w => Holding (.gateway g) w₀ w ∧ w.pinned g = identity info) (Trying (.gateway g) w₀) := by
    refine modifies fun w h => ⟨⟨h.owner, h.since.setPinned _⟩, ?_⟩
    exact Function.update_self g (identity info) w.pinned
  unfold connectPinned
  refine ((connect_triple (o := .gateway g) _ a.connect).weaken (fun _ hs => hs) (fun _ _ hs => hs)
    (fun _ => .inr)).bind fun connected => ?_
  refine ite (fun hno => ?_) (fun hyes => ?_)
  · refine bind (Q := fun _ _ => False) (raises fun w hs => ?_) fun _ _ hs => hs.elim
    rcases hs with ⟨rfl, -, -⟩ | ⟨-, hs⟩
    · cases hno
    · exact .inr hs
  obtain rfl : connected = true := by simpa using hyes
  refine weaken (P := Holding (.gateway g) w₀) ?_ (fun w hs => ?_) (fun _ _ hs => hs) (fun _ hs => hs)
  · refine ((verify_keeps config a.first false).weaken (fun _ hs => hs) (fun _ _ hs => hs) (fun _ => .inl)).bind
      fun first => ?_
    refine ite (fun _ => ?_) (fun _ => ?_)
    · exact bind (Q := fun _ _ => False) (raises fun _ => .inl) fun _ _ hs => hs.elim
    refine ((answered_keeps a.account).weaken (fun _ hs => hs) (fun _ _ hs => hs) (fun _ => .inl)).bind fun info => ?_
    refine (hpin info).bind fun _ => ite (fun _ => ?_) (fun hidentity => ?_)
    · exact bind (Q := fun _ _ => False) (raises fun _ hs => .inl hs.1) fun _ _ hs => hs.elim
    have hsome : (identity info).isSome = true := by
      simp only [Bool.or_eq_true, not_or, Bool.not_eq_true, Option.isNone_eq_false_iff] at hidentity
      exact hidentity.1
    refine ((verify_keeps config a.second false).weaken (fun _ hs => hs) (fun _ _ hs => hs)
      (fun _ hs => .inl hs.1)).bind fun second => ite (fun _ => ?_) (fun _ => ?_)
    · exact bind (Q := fun _ _ => False) (raises fun _ hs => .inl hs.1) fun _ _ hs => hs.elim
    · refine hactivate.weaken (fun w hs => ⟨hs.1, ?_⟩) (fun _ _ hs => hs) (fun _ hs => hs)
      rw [hs.2]
      exact hsome
  · rcases hs with ⟨-, hs, -⟩ | ⟨hs, -⟩
    · exact hs
    · cases hs

/-- **`_connect_session` of a gateway that may**: it returns with the session active and an identity pinned, or raises
having given the session up. -/
theorem connectSession_triple (config : GatewayConfig) (a : SessionAnswers) :
    Triple (fun w => ¬ Foreign (.gateway g) w ∧ Since (.gateway g) w₀ w) (connectSession config g a)
      (fun _ w => Holding (.gateway g) w₀ w ∧ w.active = true ∧ (w.pinned g).isSome = true)
      (Released (.gateway g) w₀) := by
  intro w ⟨hmay, hsince⟩
  have hclean : Triple (Trying (.gateway g) w₀) (finallyDo (disconnect (.gateway g) a.shutdown) fun w =>
      setPinned g none { w with active := false, owner := none }) (fun _ => Released (.gateway g) w₀)
      (Released (.gateway g) w₀) := by
    have hgone : ∀ w, Released (.gateway g) w₀ w →
        Released (.gateway g) w₀ (setPinned g none { w with active := false, owner := none }) := fun w h =>
      ⟨rfl, rfl, (h.since.session none false).setPinned none⟩
    refine Triple.finallyDo (weaken (P := Trying (.gateway g) w₀) ?_ (fun _ hs => hs) (fun _ => hgone) hgone)
    rintro w (h | h)
    · exact disconnect_owner a.shutdown w h
    · -- the `connect` inside already gave the session up, so nothing is shut down
      have hother : w.owner ≠ some (.gateway g) := by
        rw [h.owner]
        exact Option.some_ne_none _ |>.symm
      rw [disconnect_other hother]
      exact h
  have hhandler := hclean.bind fun _ => (returns fun _ hs => hs :
    Triple (Released (.gateway g) w₀) (pure () : Act G Unit) (fun _ => Released (.gateway g) w₀)
      (Released (.gateway g) w₀))
  have htry := (connectPinned_triple config a).rethrow hhandler
  have hpin : Triple (Holding (.gateway g) w₀) (modify (setPinned g none) : Act G PUnit)
      (fun _ w => ¬ Foreign (.gateway g) w ∧ Since (.gateway g) w₀ w) (Released (.gateway g) w₀) :=
    modifies fun w h => ⟨fun hforeign => hforeign.2 h.owner, h.since.setPinned none⟩
  have hrest := (hpin.bind fun _ => htry) { w with owner := some (.gateway g), active := false }
    ⟨rfl, hsince.session (some (.gateway g)) false⟩
  unfold connectSession
  rw [run_bind (reserve_holding hmay)]
  exact hrest

theorem connectSession_foreign (h : Foreign (.gateway g) w) (config : GatewayConfig) (a : SessionAnswers) :
    ∃ e, connectSession config g a w = .error e w := by
  refine ⟨.exception "MT5 process-global session already owned", ?_⟩
  unfold connectSession
  rw [run_bind (reserve_foreign h)]
  rfl

theorem disconnectSession_other (h : w.owner ≠ some (.gateway g)) (answer : Except PyExc Unit) :
    disconnectSession g answer w = .ok () w := by
  have howns : owns (.gateway g) w = .ok false w := by rw [owns, decide_eq_false h]
  unfold disconnectSession
  rw [run_bind howns]
  rfl

theorem disconnectSession_owner (answer : Except PyExc Unit) :
    Triple (Holding (.gateway g) w₀) (disconnectSession g answer) (fun _ => Released (.gateway g) w₀)
      (Released (.gateway g) w₀) := by
  intro w h
  have howns : owns (.gateway g) w = .ok true w := by rw [owns, decide_eq_true h.owner]
  have hgone : ∀ w, Released (.gateway g) w₀ w →
      Released (.gateway g) w₀ (setPinned g none { w with active := false, owner := none }) := fun w h =>
    ⟨rfl, rfl, (h.since.session none false).setPinned none⟩
  have hrelease : Triple (Holding (.gateway g) w₀) (finallyDo (disconnect (.gateway g) answer) fun w =>
      setPinned g none { w with active := false, owner := none }) (fun _ => Released (.gateway g) w₀)
      (Released (.gateway g) w₀) :=
    Triple.finallyDo ((disconnect_owner answer).weaken (fun _ hs => hs) (fun _ => hgone) hgone)
  have hreturn := hrelease.bind fun _ => (returns fun _ hs => hs :
    Triple (Released (.gateway g) w₀) (pure () : Act G Unit) (fun _ => Released (.gateway g) w₀)
      (Released (.gateway g) w₀))
  unfold disconnectSession
  rw [run_bind howns]
  exact hreturn w h

/-- What a read or a failed check of `o` may leave: the world as it was, or the session of `o` inactive. -/
def Dimmed (o : Owner G) (w₀ w : World G) : Prop := w = w₀ ∨ (w₀.owner = some o ∧ w = { w₀ with active := false })

theorem deactivate_dimmed {E : World G → Prop} :
    Triple (· = w₀) (deactivate o) (fun _ => Dimmed o w₀) E := by
  refine intro fun w h => .inl ⟨(), _, rfl, ?_⟩
  subst h
  by_cases howner : w.owner = some o
  · rw [if_pos howner]
    exact .inr ⟨howner, rfl⟩
  · rw [if_neg howner]
    exact .inl rfl

theorem readAccountInfo_dimmed (config : GatewayConfig) (a : ReadAnswers) :
    Triple (· = w₀) (readAccountInfo config g a) (fun _ => Dimmed (.gateway g) w₀) (Dimmed (.gateway g) w₀) := by
  have hsame : ∀ w : World G, w = w₀ → Dimmed (.gateway g) w₀ w := fun _ => .inl
  have hfail {α : Type} (message : String) (rest : PUnit → Act G α) : Triple (· = w₀)
      (deactivate (.gateway g) >>= fun _ => raise message >>= rest) (fun _ => Dimmed (.gateway g) w₀)
      (Dimmed (.gateway g) w₀) :=
    deactivate_dimmed.bind fun _ =>
      bind (Q := fun _ _ => False) (raises fun _ hs => hs) fun _ _ hs => hs.elim
  have hverify : Triple (· = w₀) (Bool.not <$> verifyConnectionIdentity config g a.verify false : Act G Bool)
      (fun _ => (· = w₀)) (Dimmed (.gateway g) w₀) := by
    rw [map_eq_pure_bind]
    exact ((verify_keeps config a.verify false).weaken (fun _ hs => hs) (fun _ _ hs => hs) hsame).bind
      fun _ => returns fun _ hs => hs
  have hlast (info : Option Account) (conflict : Bool) : Triple (· = w₀)
      (if conflict then deactivate (.gateway g) >>= fun _ =>
          raise "MT5 pinned account identity or DEMO verification failed" >>= fun _ : PUnit => pure info
        else pure info : Act G (Option Account)) (fun _ => Dimmed (.gateway g) w₀) (Dimmed (.gateway g) w₀) :=
    ite (fun _ => hfail _ _) (fun _ => returns hsame)
  unfold readAccountInfo
  refine bind (Q := fun _ => (· = w₀)) (fun _ hs => hs) fun active => ite (fun _ => ?_) (fun _ => ?_)
  · exact bind (Q := fun _ _ => False) (raises hsame) fun _ _ hs => hs.elim
  refine ((answered_keeps a.account).weaken (fun _ hs => hs) (fun _ _ hs => hs) hsame).bind fun info => ?_
  refine ite (fun _ => hfail _ _) (fun _ => ?_)
  refine bind (Q := fun _ => (· = w₀)) (reads fun _ hs => hs) fun seen => ?_
  refine ite (fun _ => ?_) (fun _ => hverify.bind (hlast info))
  exact bind (Q := fun _ => (· = w₀)) (returns fun _ hs => hs) (hlast info)

/-! ## Calls -/

def failed : EStateM.Result PyExc (World G) (Option Bool) → Bool
  | .ok (some true) _ | .ok none _ => false
  | .ok (some false) _ | .error _ _ => true

/-- **What a call does to the session.** -/
inductive Effect (w : World G) (call : Call G) (result : EStateM.Result PyExc (World G) (Option Bool)) : Prop where
  | opened (hmay : ¬ Foreign call.caller w) (hresult : failed result = false)
      (hholding : Holding call.caller w (left result)) (hactive : (left result).active = true)
      (hpinned : ∀ g, call.caller = .gateway g → ((left result).pinned g).isSome = true) (hcall : call.isConnect = true)
  | released (hmay : if call.isConnect then ¬ Foreign call.caller w else w.owner = some call.caller)
      (hreleased : Released call.caller w (left result))
  | refused (hforeign : Foreign call.caller w) (hsame : left result = w)
  | dimmed (hcall : call.isConnect = false) (hdimmed : Dimmed call.caller w (left result))

theorem legacyConnect_effect (config : G → GatewayConfig) (w : World G) (p : ConnectArgs) (a : ConnectAnswers) :
    Effect w (.legacyConnect p a) ((Call.legacyConnect p a).run config w) := by
  by_cases hforeign : Foreign (.legacy : Owner G) w
  · refine .refused hforeign ?_
    show left ((connect .legacy p a >>= fun r => pure (some r)) w) = w
    rw [run_bind (connect_foreign hforeign p a)]
    rfl
  · have hreturn : ∀ r : Bool, Triple
        (fun w' => (r = true ∧ Holding .legacy w w' ∧ w'.active = true) ∨ (r = false ∧ Released .legacy w w'))
        (pure (some r) : Act G (Option Bool))
        (fun result w' => (result = some true ∧ Holding .legacy w w' ∧ w'.active = true) ∨
          (result = some false ∧ Released .legacy w w')) (Released .legacy w) := fun r =>
      returns fun w' hs => by simpa using hs
    have hrun := ((connect_triple p a).bind hreturn).elim ⟨hforeign, Since.refl .legacy w⟩
    obtain ⟨result, w', hresult, ⟨rfl, hholding, hactive⟩ | ⟨rfl, hreleased⟩⟩ | ⟨e, w', hresult, hreleased⟩ := hrun
    · have hrun : (Call.legacyConnect p a).run config w = .ok (some true) w' := hresult
      rw [hrun]
      exact .opened hforeign rfl hholding hactive (fun g hg => by cases hg) rfl
    · have hrun : (Call.legacyConnect p a).run config w = .ok (some false) w' := hresult
      rw [hrun]
      exact .released hforeign hreleased
    · have hrun : (Call.legacyConnect p a).run config w = .error e w' := hresult
      rw [hrun]
      exact .released hforeign hreleased

theorem connect_effect (config : G → GatewayConfig) (w : World G) (g : G) (a : SessionAnswers) :
    Effect w (.connect g a) ((Call.connect g a).run config w) := by
  by_cases hforeign : Foreign (.gateway g) w
  · obtain ⟨e, he⟩ := connectSession_foreign hforeign (config g) a
    have hrun : (Call.connect g a).run config w = .error e w := by
      show EStateM.bind (connectSession (config g) g a) _ w = _
      unfold EStateM.bind
      rw [he]
    rw [hrun]
    exact .refused hforeign rfl
  · have hreturn : ∀ r : Unit, Triple
        (fun w' => Holding (.gateway g) w w' ∧ w'.active = true ∧ (w'.pinned g).isSome = true)
        (pure none : Act G (Option Bool))
        (fun result w' => result = none ∧ Holding (.gateway g) w w' ∧ w'.active = true ∧ (w'.pinned g).isSome = true)
        (Released (.gateway g) w) := fun _ => returns fun w' hs => ⟨rfl, hs⟩
    have hrun := ((connectSession_triple (config g) a).bind hreturn).elim ⟨hforeign, Since.refl (.gateway g) w⟩
    obtain ⟨result, w', hresult, rfl, hholding, hactive, hpinned⟩ | ⟨e, w', hresult, hreleased⟩ := hrun
    · have hrun : (Call.connect g a).run config w = .ok none w' := hresult
      rw [hrun]
      refine .opened hforeign rfl hholding hactive (fun g' hg => ?_) rfl
      cases hg
      exact hpinned
    · have hrun : (Call.connect g a).run config w = .error e w' := hresult
      rw [hrun]
      exact .released hforeign hreleased

omit [DecidableEq G] in
theorem left_of_triple {α β : Type} {m : Act G α} {f : α → β} {P : World G → Prop}
    (h : Triple (· = w) m (fun _ => P) P) : P (left ((m >>= fun r => pure (f r)) w)) := by
  have hrun := (h.bind fun r => (returns fun _ hs => hs : Triple P (pure (f r) : Act G β) (fun _ => P) P)).elim rfl
  obtain ⟨b, w', hresult, hP⟩ | ⟨e, w', hresult, hP⟩ := hrun
  · rw [hresult]
    exact hP
  · rw [hresult]
    exact hP

theorem call_effect (config : G → GatewayConfig) (w : World G) (call : Call G) :
    Effect w call (call.run config w) := by
  cases call with
  | legacyConnect p a => exact legacyConnect_effect config w p a
  | connect g a => exact connect_effect config w g a
  | legacyDisconnect answer =>
    by_cases howner : w.owner = some .legacy
    · refine .released howner ?_
      refine left_of_triple ((disconnect_owner answer).weaken (fun w' hw => ?_) (fun _ _ hs => hs) (fun _ hs => hs))
      subst hw
      exact ⟨howner, Since.refl .legacy w'⟩
    · refine .dimmed rfl (.inl ?_)
      show left ((disconnect .legacy answer >>= fun r => pure (some r)) w) = w
      rw [run_bind (disconnect_other howner answer)]
      rfl
  | disconnect g answer =>
    by_cases howner : w.owner = some (.gateway g)
    · refine .released howner ?_
      refine left_of_triple (((disconnectSession_owner answer)).weaken (fun w' hw => ?_) (fun _ _ hs => hs)
        (fun _ hs => hs))
      subst hw
      exact ⟨howner, Since.refl (.gateway g) w'⟩
    · refine .dimmed rfl (.inl ?_)
      show left ((disconnectSession g answer >>= fun _ => pure none) w) = w
      rw [run_bind (disconnectSession_other howner answer)]
      rfl
  | isConnected g => exact .dimmed rfl (.inl rfl)
  | readAccountInfo g a => exact .dimmed rfl (left_of_triple (readAccountInfo_dimmed (config g) a))
  | deactivate g => exact .dimmed rfl (left_of_triple deactivate_dimmed)

def Pinned (w : World G) : Prop :=
  ∀ g, w.owner = some (.gateway g) → w.active = true → (w.pinned g).isSome = true

omit [DecidableEq G] in
theorem Effect.pinned {call : Call G} {result : EStateM.Result PyExc (World G) (Option Bool)}
    (h : Effect w call result) (hw : Pinned w) : Pinned (left result) := by
  cases h with
  | opened _ _ hholding _ hpinned _ =>
    intro g howner _
    rw [hholding.owner] at howner
    exact hpinned g (Option.some.inj howner)
  | released _ hreleased =>
    intro g howner _
    rw [hreleased.owner] at howner
    cases howner
  | refused _ hsame =>
    rw [hsame]
    exact hw
  | dimmed _ hdimmed =>
    obtain hsame | ⟨-, hdim⟩ := hdimmed
    · rw [hsame]
      exact hw
    · rw [hdim]
      intro g _ hactive
      cases hactive

theorem after_snoc (config : G → GatewayConfig) (calls : List (Call G)) (call : Call G) :
    after config (calls ++ [call]) = left (call.run config (after config calls)) := by
  rw [after, List.foldl_append]
  rfl

/-- **In every run an active gateway has pinned an identity.** -/
theorem pinned_after (config : G → GatewayConfig) (calls : List (Call G)) : Pinned (after config calls) := by
  induction calls using List.reverseRecOn with
  | nil => exact fun _ howner => by cases howner
  | append_singleton calls call ih =>
    rw [after_snoc]
    exact (call_effect config _ call).pinned ih

/-- `is_active`, as others see it between two sections. -/
def Active (o : Owner G) (w : World G) : Prop := isActive o w = .ok true w

theorem active_iff : Active o w ↔ w.owner = some o ∧ w.active = true := by
  unfold Active isActive
  simp

/-- **What a call of `call.caller` in the world `w` keeps.** -/
structure Exclusive (w : World G) (call : Call G) (result : EStateM.Result PyExc (World G) (Option Bool)) : Prop where
  oneActive : ∀ o o', Active o (left result) → Active o' (left result) → o = o'
  shutdowns : ∃ k, (left result).shutdowns = w.shutdowns ++ List.replicate k (call.caller, some call.caller)
  bystander : w.owner ≠ some call.caller → ¬ (call.isConnect = true ∧ w.owner = none) →
    (left result).owner = w.owner ∧ (left result).active = w.active
  failedHeld : call.isConnect = true → failed result = true → w.owner = none ∨ w.owner = some call.caller →
    (left result).owner = none
  failedForeign : call.isConnect = true → failed result = true → w.owner ≠ none → w.owner ≠ some call.caller →
    (left result).owner = w.owner ∧ (left result).active = w.active
  connected : ∀ g, Active (.gateway g) (left result) → ((left result).pinned g).isSome = true

omit [DecidableEq G] in
theorem Effect.shutdowns {call : Call G} {result : EStateM.Result PyExc (World G) (Option Bool)}
    (h : Effect w call result) :
    ∃ k, (left result).shutdowns = w.shutdowns ++ List.replicate k (call.caller, some call.caller) := by
  cases h with
  | opened _ _ hholding _ _ _ => exact hholding.since.shutdowns
  | released _ hreleased => exact hreleased.since.shutdowns
  | refused _ hsame => exact ⟨0, by rw [hsame]; simp⟩
  | dimmed _ hdimmed =>
    obtain hsame | ⟨-, hdim⟩ := hdimmed
    · exact ⟨0, by rw [hsame]; simp⟩
    · exact ⟨0, by rw [hdim]; simp⟩

omit [DecidableEq G] in
theorem Effect.bystander {call : Call G} {result : EStateM.Result PyExc (World G) (Option Bool)}
    (h : Effect w call result) (hother : w.owner ≠ some call.caller)
    (hconnect : ¬ (call.isConnect = true ∧ w.owner = none)) :
    (left result).owner = w.owner ∧ (left result).active = w.active := by
  cases h with
  | opened hmay _ _ _ _ hcall => exact absurd ⟨fun hnone => hconnect ⟨hcall, hnone⟩, hother⟩ hmay
  | released hmay _ =>
    by_cases hcall : call.isConnect = true
    · rw [if_pos hcall] at hmay
      exact absurd ⟨fun hnone => hconnect ⟨hcall, hnone⟩, hother⟩ hmay
    · rw [if_neg hcall] at hmay
      exact absurd hmay hother
  | refused _ hsame =>
    rw [hsame]
    exact ⟨rfl, rfl⟩
  | dimmed _ hdimmed =>
    obtain hsame | ⟨howner, -⟩ := hdimmed
    · rw [hsame]
      exact ⟨rfl, rfl⟩
    · exact absurd howner hother

/-- **The session is exclusive**: whatever calls came before, in whatever order and however they ended, the next one
keeps all of it. -/
theorem session_exclusive (config : G → GatewayConfig) (calls : List (Call G)) (call : Call G) :
    Exclusive (after config calls) call (call.run config (after config calls)) := by
  have heffect := call_effect config (after config calls) call
  refine ⟨fun o o' ho ho' => ?_, heffect.shutdowns, heffect.bystander, fun hcall hfailed hmay => ?_,
    fun _ _ hsome hother => heffect.bystander hother fun h => hsome h.2, fun g hg => ?_⟩
  · have hsame := (active_iff.1 ho).1.symm.trans (active_iff.1 ho').1
    exact Option.some.inj hsame
  · cases heffect with
    | opened _ hresult _ _ _ _ =>
      rw [hresult] at hfailed
      cases hfailed
    | released _ hreleased => exact hreleased.owner
    | refused hforeign _ =>
      rcases hmay with hmay | hmay
      · exact absurd hmay hforeign.1
      · exact absurd hmay hforeign.2
    | dimmed hno _ =>
      rw [hcall] at hno
      cases hno
  · have hactive := active_iff.1 hg
    exact heffect.pinned (pinned_after config calls) g hactive.1 hactive.2

end Mt5
end Jqe
