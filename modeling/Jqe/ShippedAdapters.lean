import Jqe.StartupRecovery
/-!
# ShippedAdapters — when the answers of the shipped reconcilers can be relied on

`AnswerSound`: never an absence, a match only on an identifier of the intent, and Deriv's contradictions ambiguous.
-/
namespace Jqe

open List

/-- **The reconcilers `get_reconciliation_adapter` builds**; Weltrade's is MT5's. -/
inductive ShippedAdapter where
  | simulation
  | mt5 (broker : String)
  | deriv
  deriving DecidableEq

structure BrokerObserved where
  positions : List Observation
  history : List Observation
  ledger : List (String × String)

def BrokerObserved.items (o : BrokerObserved) : List Observation := o.positions ++ o.history

namespace ShippedAdapter

/-- An identifier as the adapter compares it. -/
def reads : ShippedAdapter → Option String → Option String
  | deriv, id => normalizeIdentifier id
  | _, id => id

/-- **The item carries the intent's order or transaction id**, or is the position the ledger maps the order to. -/
def Carries (a : ShippedAdapter) (q : ReconcileQuery) (ledger : List (String × String)) (item : Observation) : Prop :=
  (∃ id, a.reads q.orderId = some id ∧
    ∃ field ∈ ["position_id", "trade_id", "order_id", "order"], a.reads (item.get? field) = some id) ∨
  (∃ id, a.reads q.transactionId = some id ∧ a.reads (item.get? "transaction_id") = some id) ∨
  ∃ entry ∈ ledger, q.orderId = some entry.1 ∧ item.identity = some entry.2

/-- **An item bears one of the two identifiers and contradicts the other.** -/
def Contradicts (contractId transactionId : String) (o : DerivObservation) : Prop :=
  (o.contract = some contractId ∧ ∃ t, o.transaction = some t ∧ t ≠ transactionId) ∨
    (o.transaction = some transactionId ∧ ∃ c, o.contract = some c ∧ c ≠ contractId)

variable [CaseMap]

/-- **The adapter's answer**; `none` when its gateway or ledger raised. -/
def reconcile (a : ShippedAdapter) (q : ReconcileQuery) (observed : Option BrokerObserved) :
    Except PyExc BrokerReconciliationResult :=
  match a with
  | simulation => simulationReconcile q (observed.map fun o => (o.positions, o.history))
  | mt5 broker => .ok (mt5Reconcile broker q (observed.map fun o =>
      (o.positions, o.history, o.ledger.map fun entry => ⟨some entry.1, some entry.2⟩)))
  | deriv => derivReconcile q (observed.map fun o => (o.positions, o.history))

end ShippedAdapter

open ShippedAdapter

/-- **What can be relied on of an answer.** -/
structure AnswerSound (a : ShippedAdapter) (q : ReconcileQuery) (o : BrokerObserved) (r : BrokerReconciliationResult) :
    Prop where
  present : r.state ≠ .confirmedAbsence
  carried : r.state = .confirmedMatch → ∃ item ∈ o.items, a.Carries q o.ledger item
  ambiguous : a = .deriv → ∀ contractId transactionId, normalizeIdentifier q.orderId = some contractId →
    normalizeIdentifier q.transactionId = some transactionId →
    (∃ item ∈ o.items, Contradicts contractId transactionId (derivObservation item)) → r.state = .ambiguous

/-- **The misreading**: the simulation adapter is asked for the order id `"None"`, none of the items carries it, and
one has no identifier at all. -/
def Misread (a : ShippedAdapter) (q : ReconcileQuery) (o : BrokerObserved) : Prop :=
  a = .simulation ∧ q.orderId = some "None" ∧ (∃ item ∈ o.items, item.identity = none) ∧
    ∀ item ∈ o.items, ¬ a.Carries q o.ledger item

theorem identity_field {item : Observation} {id : String} (h : item.identity = some id) :
    ∃ field ∈ ["position_id", "trade_id", "order_id", "order"], item.get? field = some id := by
  unfold Observation.identity at h
  split at h
  · exact ⟨"trade_id", by simp, h⟩
  · exact ⟨"trade_id", by simp, h⟩
  · exact ⟨"position_id", by simp, h ▸ ‹_›⟩

theorem normalize_identity {item : Observation} {id : String} (h : normalizeIdentifier item.identity = some id) :
    ∃ field ∈ ["position_id", "trade_id", "order_id", "order"], normalizeIdentifier (item.get? field) = some id := by
  cases hid : item.identity with
  | none => simp [hid, normalizeIdentifier] at h
  | some raw =>
    obtain ⟨field, hmem, hfield⟩ := identity_field hid
    exact ⟨field, hmem, by rw [hfield, ← hid, h]⟩

/-! ## Simulation -/

theorem simulationMatch_some {q : ReconcileQuery} {r : BrokerReconciliationResult} :
    ∀ {items : List Observation}, simulationMatch q items = some r → r.state = .confirmedMatch ∧
      ∃ item ∈ items, (q.orderId.isSome ∧ pyStr item.identity = pyStr q.orderId) ∨
        (∃ id, q.transactionId = some id ∧ item.get? "transaction_id" = some id)
  | item :: items, h => by
    unfold simulationMatch at h
    dsimp only at h
    split at h
    · rename_i horder
      cases h
      exact ⟨rfl, item, mem_cons_self, .inl horder⟩
    · split at h
      · rename_i htx
        cases h
        obtain ⟨id, hid⟩ := Option.isSome_iff_exists.1 htx.1
        exact ⟨rfl, item, mem_cons_self, .inr ⟨id, hid, htx.2.2.trans hid⟩⟩
      · obtain ⟨hst, item', hmem, hmatch⟩ := simulationMatch_some h
        exact ⟨hst, item', mem_cons_of_mem _ hmem, hmatch⟩

theorem simulationMatch_of_mem {q : ReconcileQuery} {item : Observation} (horder : q.orderId.isSome)
    (hid : pyStr item.identity = pyStr q.orderId) :
    ∀ {items : List Observation}, item ∈ items → ∃ r, simulationMatch q items = some r
  | other :: items, h => by
    unfold simulationMatch
    dsimp only
    split
    · exact ⟨_, rfl⟩
    · rename_i hne
      split
      · exact ⟨_, rfl⟩
      · rcases mem_cons.1 h with rfl | h
        · exact absurd ⟨horder, hid⟩ hne
        · exact simulationMatch_of_mem horder hid h

section

variable [CaseMap] {q : ReconcileQuery} {r : BrokerReconciliationResult}

theorem simulation_sound_iff {o : BrokerObserved} (h : ShippedAdapter.simulation.reconcile q (some o) = .ok r) :
    AnswerSound .simulation q o r ↔ ¬ Misread .simulation q o := by
  unfold ShippedAdapter.reconcile simulationReconcile at h
  dsimp only [Option.map_some] at h
  constructor
  · rintro hsound ⟨_, horder, ⟨item, hmem, hid⟩, hnone⟩
    obtain ⟨r', hr'⟩ := simulationMatch_of_mem (q := q) (by rw [horder]; rfl)
      (by rw [hid, horder]; rfl : pyStr item.identity = pyStr q.orderId) hmem
    rw [show o.positions ++ o.history = o.items from rfl, hr'] at h
    cases h
    obtain ⟨item', hmem', hcarries⟩ := hsound.carried (simulationMatch_some hr').1
    exact hnone item' hmem' hcarries
  · intro hread
    split at h
    · rename_i r' hmatch
      cases h
      obtain ⟨hst, item, hmem, hitem⟩ := simulationMatch_some hmatch
      refine ⟨by rw [hst]; decide, fun _ => ?_, nofun⟩
      rcases hitem with ⟨horder, hid⟩ | htx
      · obtain ⟨id, hq⟩ := Option.isSome_iff_exists.1 horder
        cases hidentity : item.identity with
        | some id' =>
          have heq : id' = id := by simpa [hidentity, hq, pyStr] using hid
          subst heq
          exact ⟨item, hmem, .inl ⟨id', hq, identity_field hidentity⟩⟩
        | none =>
          have hnone : q.orderId = some "None" := by
            rw [hidentity, hq] at hid
            rw [hq, show id = "None" from hid.symm]
          by_contra hcarries
          exact hread ⟨rfl, hnone, ⟨item, hmem, hidentity⟩, fun item' h' hc => hcarries ⟨item', h', hc⟩⟩
      · exact ⟨item, hmem, .inr (.inl htx)⟩
    · obtain ⟨found, _, hr⟩ := bind_ok h
      cases hr
      have hst := classifyObservation_state "simulation" found q.idempotencyKey
      exact ⟨by rw [hst]; decide, fun hc => (by rw [hst] at hc; cases hc), nofun⟩

/-! ## MT5 and Weltrade -/

omit [CaseMap] in
theorem ledgerMatch_some {q : ReconcileQuery} {broker : String} {ledger : List LedgerLink}
    {r : BrokerReconciliationResult} :
    ∀ {items : List Observation}, ledgerMatch q broker ledger items = some r → r.state = .confirmedMatch ∧
      ∃ item ∈ items, ∃ id, item.identity = some id ∧
        ∃ entry ∈ ledger, pyStr entry.orderId = pyStr q.orderId ∧ pyStr entry.positionId = id
  | item :: items, h => by
    unfold ledgerMatch at h
    split at h
    · rename_i hany
      cases h
      obtain ⟨id, hid, hledger⟩ := (Option.any_eq_true _ _).1 hany
      obtain ⟨entry, hentry, hmatch⟩ := List.any_eq_true.1 hledger
      exact ⟨rfl, item, mem_cons_self, id, hid, entry, hentry, of_decide_eq_true hmatch⟩
    · obtain ⟨hst, item', hmem, hmatch⟩ := ledgerMatch_some h
      exact ⟨hst, item', mem_cons_of_mem _ hmem, hmatch⟩

omit [CaseMap] in
theorem matchesId_order {item : Observation} (h : matchesId item q.orderId ["order_id", "order"] = true) :
    ∃ id, q.orderId = some id ∧
      ∃ field ∈ ["position_id", "trade_id", "order_id", "order"], item.get? field = some id := by
  obtain ⟨id, hid, hfields⟩ := (Option.any_eq_true _ _).1 h
  obtain ⟨field, hfield, heq⟩ := List.any_eq_true.1 hfields
  exact ⟨id, hid, field, by simp at hfield ⊢; tauto, of_decide_eq_true heq⟩

theorem mt5_sound {broker : String} {o : BrokerObserved} (hsymbol : q.symbol ≠ none ∧ q.symbol ≠ some "")
    (h : (ShippedAdapter.mt5 broker).reconcile q (some o) = .ok r) : AnswerSound (.mt5 broker) q o r := by
  cases h
  unfold mt5Reconcile
  dsimp only [Option.map_some]
  split
  · rename_i r' hledger
    split at hledger
    · rename_i horder
      obtain ⟨hst, item, hmem, id, hid, link, hlink, horder', hposition⟩ := ledgerMatch_some hledger
      refine ⟨by rw [hst]; decide, fun _ => ⟨item, hmem, .inr (.inr ?_)⟩, nofun⟩
      obtain ⟨entry, hentry, rfl⟩ := mem_map.1 hlink
      obtain ⟨oid, hoid⟩ := Option.isSome_iff_exists.1 horder
      have heq : entry.1 = oid := by simpa [pyStr, hoid] using horder'
      have hpos : entry.2 = id := by simpa [pyStr] using hposition
      exact ⟨entry, hentry, by rw [hoid, heq], by rw [hid, hpos]⟩
    · cases hledger
  · split
    · rename_i item hfind
      have hmatch := find?_some (p := fun item => matchesId item q.orderId ["order_id", "order"]) hfind
      obtain ⟨id, hid, field, hfield, heq⟩ := matchesId_order hmatch
      exact ⟨nofun, fun _ => ⟨item, mem_of_find?_eq_some hfind, .inl ⟨id, hid, field, hfield, heq⟩⟩, nofun⟩
    · rw [if_pos (Or.inr hsymbol)]
      exact ⟨nofun, nofun, nofun⟩

/-! ## Deriv -/

omit [CaseMap] in
theorem derivById_some {contractId transactionId key : Option String} {observations : List DerivObservation}
    (h : derivById contractId transactionId key observations = some r) :
    r.state ≠ .confirmedAbsence ∧ (r.state = .confirmedMatch → ∃ o ∈ observations,
      (contractId.isSome ∧ o.contract = contractId) ∨ (transactionId.isSome ∧ o.transaction = transactionId)) := by
  unfold derivById at h
  dsimp only at h
  split at h
  · rename_i hboth
    split at h
    · rename_i o _ hfind
      cases h
      have ho := find?_some hfind
      simp only [Bool.decide_and, Bool.and_eq_true, decide_eq_true_eq] at ho
      exact ⟨nofun, fun _ => ⟨o, mem_of_find?_eq_some hfind, .inl ⟨hboth.1, ho.1⟩⟩⟩
    · split at h
      · cases h
        exact ⟨nofun, nofun⟩
      · cases h
  · generalize hcontract : (observations.filter fun o => contractId.isSome ∧ o.contract = contractId) = cs at h
    generalize htransaction : (observations.filter fun o => transactionId.isSome ∧ o.transaction = transactionId) = ts
      at h
    have either : ∀ {P : Prop} [Decidable P] {r₁ r₂ : BrokerReconciliationResult},
        (if P then some r₁ else some r₂) = some r → r₁.state ≠ .confirmedAbsence → r₂.state ≠ .confirmedAbsence →
        r.state ≠ .confirmedAbsence := by
      intro P _ r₁ r₂ h h₁ h₂
      split at h
      · exact Option.some.inj h ▸ h₁
      · exact Option.some.inj h ▸ h₂
    cases cs with
    | cons o rest =>
      have ho := mem_filter.1 (hcontract ▸ mem_cons_self : o ∈ observations.filter _)
      exact ⟨either h nofun nofun, fun _ => ⟨o, ho.1, .inl (by simpa using ho.2)⟩⟩
    | nil =>
      cases ts with
      | cons o rest =>
        have ho := mem_filter.1 (htransaction ▸ mem_cons_self : o ∈ observations.filter _)
        exact ⟨either h nofun nofun, fun _ => ⟨o, ho.1, .inr (by simpa using ho.2)⟩⟩
      | nil => cases h

omit [CaseMap] in
theorem derivById_contradicts {contractId transactionId : String} (key : Option String)
    {observations : List DerivObservation} {o : DerivObservation} (ho : o ∈ observations)
    (hc : Contradicts contractId transactionId o) :
    ∃ r, derivById (some contractId) (some transactionId) key observations = some r ∧ r.state = .ambiguous := by
  unfold derivById
  dsimp only
  rw [if_pos ⟨rfl, rfl⟩]
  have hconflict : ((observations.filter fun o => (some contractId).isSome ∧ o.contract = some contractId).any
        (fun o => o.transaction.isSome ∧ o.transaction ≠ some transactionId) ||
      (observations.filter fun o => (some transactionId).isSome ∧ o.transaction = some transactionId).any
        fun o => o.contract.isSome ∧ o.contract ≠ some contractId) = true := by
    rw [Bool.or_eq_true, List.any_eq_true, List.any_eq_true]
    rcases hc with ⟨hcontract, t, ht, hne⟩ | ⟨htransaction, c, hcontract, hne⟩
    · exact .inl ⟨o, mem_filter.2 ⟨ho, by simp [hcontract]⟩, by simp [ht, hne]⟩
    · exact .inr ⟨o, mem_filter.2 ⟨ho, by simp [htransaction]⟩, by simp [hcontract, hne]⟩
  rw [hconflict]
  have hsome : (observations.filter fun o => (some contractId).isSome ∧ o.contract = some contractId) ≠ [] ∨
      (observations.filter fun o => (some transactionId).isSome ∧ o.transaction = some transactionId) ≠ [] := by
    rcases hc with ⟨hcontract, _⟩ | ⟨htransaction, _⟩
    · exact .inl (ne_nil_of_mem (mem_filter.2 ⟨ho, by simp [hcontract]⟩))
    · exact .inr (ne_nil_of_mem (mem_filter.2 ⟨ho, by simp [htransaction]⟩))
  rw [if_pos hsome]
  exact ⟨_, rfl, rfl⟩

theorem deriv_sound {o : BrokerObserved} (h : ShippedAdapter.deriv.reconcile q (some o) = .ok r) :
    AnswerSound .deriv q o r := by
  unfold ShippedAdapter.reconcile derivReconcile at h
  dsimp only [Option.map_some] at h
  constructor
  · split at h
    · rename_i r' hmatch
      cases h
      exact (derivById_some hmatch).1
    · obtain ⟨found, _, hr⟩ := bind_ok h
      cases hr
      rw [classifyObservation_state]
      decide
  · intro hconfirmed
    split at h
    · rename_i r' hmatch
      cases h
      obtain ⟨observation, hmem, hid⟩ := (derivById_some hmatch).2 hconfirmed
      obtain ⟨item, hitem, rfl⟩ := mem_map.1 hmem
      rcases hid with ⟨hsome, heq⟩ | ⟨hsome, heq⟩
      · obtain ⟨id, hid⟩ := Option.isSome_iff_exists.1 hsome
        exact ⟨item, hitem, .inl ⟨id, hid, normalize_identity (heq.trans hid)⟩⟩
      · obtain ⟨id, hid⟩ := Option.isSome_iff_exists.1 hsome
        exact ⟨item, hitem, .inr (.inl ⟨id, hid, heq.trans hid⟩)⟩
    · obtain ⟨found, _, hr⟩ := bind_ok h
      cases hr
      rw [classifyObservation_state] at hconfirmed
      cases hconfirmed
  · rintro - contractId transactionId hcontract htransaction ⟨item, hitem, hc⟩
    obtain ⟨r', hr', hst⟩ := derivById_contradicts q.idempotencyKey (mem_map_of_mem hitem) hc
    rw [hcontract, htransaction, show o.positions ++ o.history = o.items from rfl, hr'] at h
    cases h
    exact hst

/-! ## All adapters -/

/-- **For a nonblank symbol no adapter answers that the intent is absent.** -/
theorem ShippedAdapter.reconcile_present {a : ShippedAdapter} {observed : Option BrokerObserved} {symbol : String}
    (hsymbol : q.symbol = some symbol) (hblank : blank symbol = false) (h : a.reconcile q observed = .ok r) :
    r.state ≠ .confirmedAbsence := by
  have hnonempty : q.symbol ≠ none ∧ q.symbol ≠ some "" := by
    refine ⟨by simp [hsymbol], fun hempty => ?_⟩
    rw [hsymbol, Option.some.injEq] at hempty
    rw [hempty] at hblank
    exact absurd hblank (by decide)
  cases observed with
  | none =>
    cases a <;> cases h <;> exact nofun
  | some o =>
    cases a with
    | simulation =>
      unfold ShippedAdapter.reconcile simulationReconcile at h
      dsimp only [Option.map_some] at h
      split at h
      · rename_i r' hmatch
        cases h
        rw [(simulationMatch_some hmatch).1]
        exact nofun
      · obtain ⟨found, _, hr⟩ := bind_ok h
        cases hr
        rw [classifyObservation_state]
        exact nofun
    | mt5 broker => exact (mt5_sound hnonempty h).present
    | deriv => exact (deriv_sound h).present

omit [CaseMap] in
theorem query_symbol {key : String} {row : IntentRow} {record : IntentRecord} {intent : ExecutionIntent}
    (hrecord : Store.decode key row = .ok record) (hintent : record.toExecutionIntent = .ok (some intent)) :
    row.symbol = (StartupRecoveryService.query record intent).symbol := by
  have hrow : record.symbol = row.symbol := by
    obtain ⟨quantity, _, h⟩ := bind_ok hrecord
    obtain ⟨side, _, h⟩ := bind_ok h
    cases h
    rfl
  unfold IntentRecord.toExecutionIntent at hintent
  split at hintent
  · rename_i hsymbol _ _ _ _ _ _ _
    split at hintent
    · cases hintent
    · cases hintent
      rw [← hrow, hsymbol]
      rfl
  · cases hintent

def ShippedAdapter.reconciler (a : ShippedAdapter) : Reconciler := fun q ans => ∃ observed, a.reconcile q observed = ans

open Coro

omit [CaseMap] in
theorem answered {R : Reconciler} {α : Type} {p : RecoverProg α} {s : Store} {out : Except PyExc α}
    {w' : RecoveryWorld} (h : Ends (RecoverExec R) p ⟨s, []⟩ out w') : ∀ x ∈ w'.answers, R x.1 (.ok x.2) := by
  refine h.keeps (I := fun w => ∀ x ∈ w.answers, R x.1 (.ok x.2)) (fun w r ans w' hw hx => ?_) (by simp)
  cases hx with
  | reconciled q hR =>
    intro x hx
    rcases mem_cons.1 hx with rfl | hx
    · exact hR
    · exact hw x hx
  | _ => exact hw

/-- **The shipped adapters are sound unless they misread**, and automatic recovery with one of them never rejects an
intent of a nonblank symbol. -/
theorem shipped_adapters_sound :
    (∀ (a : ShippedAdapter) (q : ReconcileQuery) (o : BrokerObserved) (r : BrokerReconciliationResult) (symbol : String),
      q.symbol = some symbol → blank symbol = false → a.reconcile q (some o) = .ok r →
      (AnswerSound a q o r ↔ ¬ Misread a q o)) ∧
    ∀ (a : ShippedAdapter) (svc : StartupRecoveryService) (s : Store) (summary : StartupRecoverySummary)
      (w' : RecoveryWorld), Ends (RecoverExec a.reconciler) svc.recover ⟨s, []⟩ (.ok summary) w' →
      ∀ key row symbol, s.row key = some row → row.state.unresolved = true → row.symbol = some symbol →
        blank symbol = false → ∃ row', w'.store.row key = some row' ∧ row'.state ≠ .rejected := by
  constructor
  · intro a q o r symbol hsymbol hblank h
    cases a with
    | simulation => exact simulation_sound_iff h
    | mt5 broker =>
      refine ⟨fun _ hread => absurd hread.1 nofun, fun _ => mt5_sound ⟨by simp [hsymbol], fun hempty => ?_⟩ h⟩
      rw [hsymbol, Option.some.injEq] at hempty
      rw [hempty] at hblank
      exact absurd hblank (by decide)
    | deriv => exact ⟨fun _ hread => absurd hread.1 nofun, fun _ => deriv_sound h⟩
  · intro a svc s summary w' h key row symbol hrow hu hsymbol hblank
    obtain ⟨row', hrow', hrec, _⟩ := (StartupRecoveryService.recover_ends h).1 key row hrow
    refine ⟨row', hrow', fun hrejected => ?_⟩
    cases hrec hu with
    | stays hstate =>
      rw [hrejected] at hstate
      cases hstate
    | leaves hrecord hintent _ hanswer hstate =>
      rcases hstate with ⟨_, haccepted⟩ | ⟨habsence, _⟩
      · rw [hrejected] at haccepted
        cases haccepted
      · obtain ⟨observed, hobserved⟩ := answered h _ hanswer
        exact a.reconcile_present ((query_symbol hrecord hintent).symm.trans hsymbol) hblank hobserved habsence

end

def Observation.ofPosition (p : Position) (transactionId : Option String) : Observation where
  attr name :=
    if name = "position_id" then some (some p.positionId)
    else if name = "symbol" then some (some p.symbol)
    else if name = "transaction_id" then some transactionId
    else if name = "magic" then some (p.magic.map toString)
    else if name = "comment" then some p.comment
    else none
  side := some p.side.value
  volume := some p.volume
  source := "Position"

section

local instance shippedCase : CaseMap := asciiCase

def unnamedPosition : Position :=
  ⟨"", "PAINX1200", .buy, 1 / 100, 1000, none, none, none, none, none, none, none⟩

def unnamedObserved : BrokerObserved := ⟨[.ofPosition unnamedPosition none], [], []⟩

def noneQuery (orderId : String) : ReconcileQuery := ⟨some orderId, none, some "PAINX1200", some "k1"⟩

/-- **An order id `"None"` is confirmed by a position without an id.** -/
theorem shipped_adapters_misread :
    ∃ r, ShippedAdapter.simulation.reconcile (noneQuery "None") (some unnamedObserved) = .ok r ∧
      ¬ AnswerSound .simulation (noneQuery "None") unnamedObserved r := by
  refine ⟨_, rfl, fun hsound => ?_⟩
  obtain ⟨item, hitem, hcarries⟩ := hsound.carried rfl
  obtain rfl : item = .ofPosition unnamedPosition none := by simpa [unnamedObserved, BrokerObserved.items] using hitem
  rcases hcarries with ⟨id, hid, field, hfield, heq⟩ | ⟨id, hid, _⟩ | ⟨entry, hentry, _⟩
  · cases hid
    revert field
    decide
  · cases hid
  · cases hentry

/-- The same position under another order id. -/
theorem shipped_adapters_sound_ticket :
    AnswerSound .simulation (noneQuery "42") unnamedObserved
      (classifyObservation "simulation" true (some "k1")) := by
  refine (shipped_adapters_sound.1 .simulation (noneQuery "42") unnamedObserved _ "PAINX1200" rfl (by decide)
    (by rfl)).2 ?_
  rintro ⟨_, horder, _⟩
  exact absurd horder (by decide)

end

end Jqe
