import Jqe.AuditSound
import Jqe.LedgerStore
/-!
# AuditComplete — which exact states the continuous reconciliation accepts

`ContinuousTerminalReconciliationService.reconcile_and_protect` over the audit of an open ledger that mirrors the
broker's positions.  The contents of the published snapshot besides its reason codes are left out.
-/
namespace Jqe

open List

structure SafetySettings where
  emergencyStopActive : Bool
  brokerExecutionEnabled : Bool
  deriving DecidableEq

structure ContinuousTerminalReconciliationService where
  auditor : TerminalReconciliationAuditor
  hasSafetyStore : Bool
  hasCircuitBreakCallback : Bool

structure ReconciliationServiceState where
  lastReport : Option AuditReconciliationReport
  emergencyStopLatched : Bool
  settings : Option SafetySettings
  published : List (List ReconciliationDiscrepancyType)
  deriving DecidableEq

/-- `try: … except Exception` around a call whose result is not used. -/
def swallowed (x : Except PyExc Unit) : Except PyExc Unit :=
  match x with
  | .ok () => .ok ()
  | .error e => if e.isException then .ok () else .error e

namespace ContinuousTerminalReconciliationService

/-- What a report that is not clean sets off. -/
def trip (svc : ContinuousTerminalReconciliationService) (state : ReconciliationServiceState)
    (report : AuditReconciliationReport) (publish callback : Except PyExc Unit) :
    Except PyExc AuditReconciliationReport × ReconciliationServiceState :=
  let latched := { state with
    lastReport := some report, emergencyStopLatched := true, settings := state.settings.map fun _ => ⟨true, false⟩ }
  let recorded := if svc.hasSafetyStore ∧ publish = .ok () then
    { latched with published := report.discrepancies.map (·.type) :: latched.published } else latched
  match (do
    swallowed (if svc.hasSafetyStore then publish else .ok ())
    swallowed (if svc.hasCircuitBreakCallback then callback else .ok ())) with
  | .error e => (.error e, recorded)
  | .ok () =>
    let tripped := { report with isClean := false, emergencyStopTripped := true, actionTaken := "EMERGENCY_STOP_TRIPPED" }
    (.ok tripped, { recorded with lastReport := some tripped })

variable [CaseMap]

/-- **`reconcile_and_protect`**, on what `get_positions`, the safety store and the callback answer. -/
def reconcileAndProtect (svc : ContinuousTerminalReconciliationService) (state : ReconciliationServiceState)
    (answer : Except PyExc (List PositionItem)) (sources : AuditSources) (publish callback : Except PyExc Unit) :
    Except PyExc AuditReconciliationReport × ReconciliationServiceState :=
  match svc.auditor.audit answer sources with
  | .error e => (.error e, state)
  | .ok report =>
    if report.isClean then (.ok report, { state with lastReport := some report })
    else svc.trip state report publish callback

end ContinuousTerminalReconciliationService

def PositionLedgerEntry.audited (e : PositionLedgerEntry) : AuditedEntry := ⟨e.symbol, e.positionId, e.orderId⟩

/-- **The sources of an audit** with a ledger, an intent store, and no trades besides. -/
def ledgerSources (broker : String) (l : Ledger) (intents : Store) : AuditSources where
  explicitTracked := []
  activePlans := []
  ledger := (l.openEntries broker).map (·.map (·.audited))
  intents := intents.listUnresolved

/-- **The open entries mirror the positions**: one to one by id, with the same symbol, side and volume. -/
structure Mirrors [CaseMap] (entries : List PositionLedgerEntry) (positions : List Position) : Prop where
  ids : (entries.map (·.positionId)).Perm (positions.map (·.positionId))
  distinct : (positions.map (·.positionId)).Nodup
  same : ∀ e ∈ entries, ∀ p ∈ positions, e.positionId = p.positionId →
    normalizeSymbol e.symbol = normalizeSymbol p.symbol ∧ e.side = some p.side ∧ e.volume = some p.volume

/-- **What the audit needs of a mirrored position**: a `BUY`, with no magic number but the expected one. -/
def Unremarkable (a : TerminalReconciliationAuditor) (p : Position) : Prop :=
  p.side = .buy ∧ ∀ expected magic, a.expectedMagicNumber = some expected → p.magic = some magic → magic = expected

namespace TerminalReconciliationAuditor

variable [CaseMap] {a : TerminalReconciliationAuditor}

omit [CaseMap] in
theorem decodeAll_error {rows : List ((_ : String) × IntentRow)} {e : PyExc} (h : Store.decodeAll rows = .error e) :
    e.isException = true := by
  induction rows with
  | nil => cases h
  | cons row rows ih =>
    unfold Store.decodeAll at h
    cases hd : Store.decode row.1 row.2 with
    | error e' =>
      rw [hd] at h
      cases h
      unfold Store.decode at hd
      cases hq : Store.decodeQuantity row.2 with
      | error e'' =>
        rw [hq] at hd
        cases hd
        unfold Store.decodeQuantity at hq
        repeat' split at hq
        all_goals cases hq <;> rfl
      | ok quantity =>
        rw [hq] at hd
        cases hs : Store.decodeSide row.2 with
        | error e'' =>
          rw [hs] at hd
          cases hd
          unfold Store.decodeSide at hs
          repeat' split at hs
          all_goals cases hs <;> rfl
        | ok side =>
          rw [hs] at hd
          cases hd
    | ok record =>
      rw [hd] at h
      cases hrest : Store.decodeAll rows with
      | error e' =>
        rw [hrest] at h
        cases h
        exact ih hrest
      | ok records =>
        rw [hrest] at h
        cases h

omit [CaseMap] in
theorem listUnresolved_error {s : Store} {e : PyExc} (h : s.listUnresolved = .error e) : e.isException = true := by
  unfold Store.listUnresolved at h
  cases hall : Store.decodeAll (s.intents.entries.mergeSort Store.creationOrder) with
  | error e' =>
    rw [hall] at h
    cases h
    exact decodeAll_error hall
  | ok records =>
    rw [hall] at h
    cases h

omit [CaseMap] in
theorem ofAccepted_unresolved [CaseMap] : ∀ {records : List IntentRecord},
    (∀ r ∈ records, r.status.unresolved = true) → TrackedTradeState.ofAccepted records = []
  | [], _ => rfl
  | r :: records, h => by
    have hr : r.status ≠ .accepted := fun heq => by
      have hu := h r mem_cons_self
      rw [heq] at hu
      cases hu
    rw [TrackedTradeState.ofAccepted, if_neg hr]
    exact ofAccepted_unresolved fun r' h' => h r' (mem_cons_of_mem _ h')

theorem tracked_ledgerSources {broker : String} {l : Ledger} {entries : List PositionLedgerEntry} (intents : Store)
    (h : l.openEntries broker = .ok entries) :
    (ledgerSources broker l intents).tracked = .ok (entries.map fun e => .fromLedgerEntry e.audited) := by
  have hintents : ∃ records, orSkipped intents.listUnresolved = .ok records ∧
      TrackedTradeState.ofAccepted records = [] := by
    cases hl : intents.listUnresolved with
    | error e => exact ⟨[], by rw [orSkipped, if_pos (listUnresolved_error hl)], rfl⟩
    | ok records =>
      refine ⟨records, rfl, ofAccepted_unresolved fun r hr => ?_⟩
      obtain ⟨row, _, hd, hu⟩ := (Store.listUnresolved_ok hl).2.1 r hr
      rw [(Store.decode_ok hd).2.1, hu]
  obtain ⟨records, hrecords, hnone⟩ := hintents
  unfold AuditSources.tracked ledgerSources
  dsimp only
  rw [h, hrecords]
  simp [Except.map, orSkipped, hnone, Bind.bind, Except.bind, Pure.pure, Except.pure]

variable {entries : List PositionLedgerEntry} {ps : List Position}

theorem lookup_mirrored (h : Mirrors entries ps) {p : Position} (hp : p ∈ ps) :
    ∃ e ∈ entries, e.positionId = p.positionId ∧
      (trackedMap (entries.map fun e => .fromLedgerEntry e.audited)).lookup p.positionId =
        some (.fromLedgerEntry e.audited) := by
  rcases lookup_trackedMap (entries.map fun e => .fromLedgerEntry e.audited) p.positionId with
    ⟨t, ht, hid, hl⟩ | ⟨hno, _⟩
  · obtain ⟨e, he, rfl⟩ := mem_map.1 ht
    exact ⟨e, he, Option.some.inj hid, hl⟩
  · obtain ⟨e, he, hid⟩ := mem_map.1 (h.ids.mem_iff.2 (mem_map_of_mem hp))
    exact absurd ⟨.fromLedgerEntry e.audited, mem_map_of_mem he, congrArg some hid⟩ hno

/-- **Where an entry and its position agree, the audit still compares the side with `BUY`.** -/
theorem mismatches_fromLedgerEntry_iff {e : PositionLedgerEntry} {p : Position}
    (hsymbol : normalizeSymbol e.symbol = normalizeSymbol p.symbol) :
    a.mismatches p (.fromLedgerEntry e.audited) = [] ↔ Unremarkable a p := by
  have hsym : normalizeSymbol p.symbol = (TrackedTradeState.fromLedgerEntry e.audited).symbol := hsymbol.symm
  have hside : (TrackedTradeState.fromLedgerEntry e.audited).side = .buy := rfl
  have hvolume : (TrackedTradeState.fromLedgerEntry e.audited).volume = none := rfl
  unfold mismatches Unremarkable
  rw [← hsym, hside, hvolume]
  cases a.expectedMagicNumber with
  | none => simp
  | some expected =>
    cases p.magic with
    | none => simp
    | some magic => simp

theorem reconcilePositions_byId {trades : List TrackedTradeState} {C : Position → Prop} :
    ∀ (ps : List Position) (matched : List String),
      (∀ p ∈ ps, ∃ t, (trackedMap trades).lookup p.positionId = some t ∧ (a.mismatches p t = [] ↔ C p)) →
      ((a.reconcilePositions trades ps matched).1 = [] ↔ ∀ p ∈ ps, C p) ∧
        matched ⊆ (a.reconcilePositions trades ps matched).2 ∧
        ps.map (·.positionId) ⊆ (a.reconcilePositions trades ps matched).2
  | [], matched, _ => ⟨by simp [reconcilePositions], List.Subset.refl _, by simp⟩
  | p :: ps, matched, h => by
    obtain ⟨t, hlookup, hC⟩ := h p mem_cons_self
    have hfound : matchPosition trades matched p = (some t, p.positionId :: matched) := by
      rw [matchPosition, hlookup]
    obtain ⟨hiff, hsub, hids⟩ := reconcilePositions_byId ps (p.positionId :: matched)
      fun p' hp' => h p' (mem_cons_of_mem _ hp')
    have hstep : a.reconcilePositions trades (p :: ps) matched =
        (a.mismatches p t ++ (a.reconcilePositions trades ps (p.positionId :: matched)).1,
          (a.reconcilePositions trades ps (p.positionId :: matched)).2) := by
      rw [reconcilePositions, hfound]
    rw [hstep]
    refine ⟨by rw [append_eq_nil_iff, hiff, hC, forall_mem_cons], fun id hid => ?_, ?_⟩
    · exact hsub (mem_cons_of_mem _ hid)
    · rw [map_cons, cons_subset]
      exact ⟨hsub mem_cons_self, hids⟩

omit [CaseMap] in
theorem phantoms_eq_nil {trades : List TrackedTradeState} {matched : List String}
    (h : ∀ pid, Stated trades pid → pid ∈ matched) : phantoms trades matched = [] := by
  unfold phantoms
  rw [map_eq_nil_iff, filter_eq_nil_iff]
  rintro ⟨pid, t⟩ hmem hnot
  have hlookup : ((trackedMap trades).lookup pid).isSome := by
    rw [Option.isSome_iff_ne_none, ne_eq, lookup_eq_none_iff]
    exact fun hall => absurd (hall _ hmem) (by simp)
  rcases lookup_trackedMap trades pid with ⟨t', ht', hid, _⟩ | ⟨_, hnone⟩
  · exact absurd (h pid ⟨t', ht', hid⟩) (by simpa using hnot)
  · rw [hnone] at hlookup
    cases hlookup

omit [CaseMap] in
theorem readable_map_position (ps : List Position) : readable (ps.map .position) = ps := by
  induction ps with
  | nil => rfl
  | cons p ps ih => rw [map_cons, readable, ih]

/-- **The report on mirrored positions is clean exactly when all of them are unremarkable.** -/
theorem report_mirrored_iff (h : Mirrors entries ps) :
    (a.report (ps.map .position) (entries.map fun e => .fromLedgerEntry e.audited)).isClean = true ↔
      ∀ p ∈ ps, Unremarkable a p := by
  have hfound : ∀ p ∈ ps, ∃ t, (trackedMap (entries.map fun e => .fromLedgerEntry e.audited)).lookup p.positionId =
      some t ∧ (a.mismatches p t = [] ↔ Unremarkable a p) := by
    intro p hp
    obtain ⟨e, he, hid, hlookup⟩ := lookup_mirrored h hp
    exact ⟨_, hlookup, mismatches_fromLedgerEntry_iff (h.same e he p hp hid).1⟩
  obtain ⟨hiff, _, hids⟩ := reconcilePositions_byId ps [] hfound
  have hnophantom : phantoms (entries.map fun e => .fromLedgerEntry e.audited)
      (a.reconcilePositions (entries.map fun e => .fromLedgerEntry e.audited) ps []).2 = [] := by
    refine phantoms_eq_nil fun pid hst => hids (h.ids.mem_iff.1 ?_)
    obtain ⟨t, ht, hpid⟩ := hst
    obtain ⟨e, he, rfl⟩ := mem_map.1 ht
    exact mem_map.2 ⟨e, he, Option.some.inj hpid⟩
  have hwell : ((ps.map PositionItem.position).filter (· == .other)) = [] := by
    rw [filter_eq_nil_iff]
    intro item hitem
    obtain ⟨p, _, rfl⟩ := mem_map.1 hitem
    simp
  unfold report
  dsimp only
  rw [readable_map_position, hwell, hnophantom, List.isEmpty_iff]
  simp only [map_nil, nil_append, append_nil]
  exact hiff

end TerminalReconciliationAuditor

namespace ContinuousTerminalReconciliationService

/-- **An exact state passes exactly when it is unremarkable**: the audit of open entries that mirror the positions is
clean, and trips nothing, if and only if every position is a `BUY` without a foreign magic number. -/
theorem exact_state_clean_iff [CaseMap] (svc : ContinuousTerminalReconciliationService)
    (state : ReconciliationServiceState) (l : Ledger) (intents : Store) (entries : List PositionLedgerEntry)
    (ps : List Position) (publish callback : Except PyExc Unit)
    (hentries : l.openEntries svc.auditor.broker = .ok entries) (hmirrors : Mirrors entries ps) :
    (∃ report, svc.reconcileAndProtect state (.ok (ps.map .position))
        (ledgerSources svc.auditor.broker l intents) publish callback =
          (.ok report, { state with lastReport := some report }) ∧
        report.isClean = true ∧ report.emergencyStopTripped = false) ↔
      ∀ p ∈ ps, Unremarkable svc.auditor p := by
  have haudit : svc.auditor.audit (.ok (ps.map .position)) (ledgerSources svc.auditor.broker l intents) =
      .ok (svc.auditor.report (ps.map .position) (entries.map fun e => .fromLedgerEntry e.audited)) := by
    unfold TerminalReconciliationAuditor.audit
    rw [TerminalReconciliationAuditor.tracked_ledgerSources intents hentries]
    rfl
  rw [← TerminalReconciliationAuditor.report_mirrored_iff hmirrors]
  unfold reconcileAndProtect
  rw [haudit]
  dsimp only
  constructor
  · rintro ⟨report, heq, hclean, _⟩
    by_contra hdirty
    rw [if_neg hdirty] at heq
    -- what trips returns an unclean report or raises
    unfold trip at heq
    dsimp only at heq
    split at heq
    · cases heq
    · rw [← Except.ok.inj (congrArg Prod.fst heq)] at hclean
      cases hclean
  · intro hclean
    exact ⟨_, if_pos hclean, hclean, rfl⟩

end ContinuousTerminalReconciliationService

section

local instance completeCase : CaseMap := asciiCase

def mirroredFill (side : OrderSide) (stop : ℚ) : Ledger.ConfirmedFill :=
  ⟨"weltrade", "PAINX1200", "7001", "7001", side, .fin (1 / 100), .fin 1000, .fin stop, some 0, none, none⟩

def mirroredKey : String × String := ("weltrade", "7001")

def mirroredLedger (side : OrderSide) (stop : ℚ) : Ledger :=
  Ledger.empty.setRow mirroredKey (Ledger.filledRow (mirroredFill side stop) 0 (1 / 100) 1000 stop)

def mirroredEntry (side : OrderSide) (stop : ℚ) : PositionLedgerEntry :=
  ⟨Ledger.filledRow (mirroredFill side stop) 0 (1 / 100) 1000 stop, "weltrade", "7001"⟩

def mirroredPosition (side : OrderSide) : Position :=
  ⟨"7001", "PAINX1200", side, 1 / 100, 1000, none, none, none, none, none, none, none⟩

def mirroredService : ContinuousTerminalReconciliationService := ⟨⟨"weltrade", none⟩, true, false⟩

def quietState : ReconciliationServiceState := ⟨none, false, some ⟨false, true⟩, []⟩

theorem openEntries_mirroredLedger (side : OrderSide) (stop : ℚ) :
    (mirroredLedger side stop).openEntries "weltrade" = .ok [mirroredEntry side stop] := by
  have hentries : (mirroredLedger side stop).entries = [mirroredEntry side stop] := mergeSort_singleton _
  have hblank : blank "weltrade" = false := by decide
  have hstrip : strip "weltrade" = "weltrade" := by decide
  unfold Ledger.openEntries
  simp only [Ledger.requiredTexts, hblank, hentries, hstrip]
  rfl

theorem mirrors_sample (side : OrderSide) (stop : ℚ) : Mirrors [mirroredEntry side stop] [mirroredPosition side] where
  ids := .refl _
  distinct := nodup_singleton _
  same e he p hp _ := by
    obtain rfl := mem_singleton.1 he
    obtain rfl := mem_singleton.1 hp
    exact ⟨normalizeSymbol_strip "PAINX1200", rfl, rfl⟩

/-- One `BUY`. -/
theorem exact_state_clean_buy :
    ∃ report, mirroredService.reconcileAndProtect quietState (.ok [.position (mirroredPosition .buy)])
        (ledgerSources "weltrade" (mirroredLedger .buy 990) Store.empty) (.ok ()) (.ok ()) =
          (.ok report, { quietState with lastReport := some report }) ∧
        report.isClean = true ∧ report.emergencyStopTripped = false :=
  (mirroredService.exact_state_clean_iff quietState (mirroredLedger .buy 990) Store.empty _ [mirroredPosition .buy]
    (.ok ()) (.ok ()) (openEntries_mirroredLedger .buy 990) (mirrors_sample .buy 990)).2
    (by simp [Unremarkable, mirroredPosition, mirroredService])

/-- **A mirrored `SELL` trips the emergency stop.** -/
theorem exact_state_sell_trips :
    Mirrors [mirroredEntry .sell 1010] [mirroredPosition .sell] ∧
      (mirroredLedger .sell 1010).openEntries "weltrade" = .ok [mirroredEntry .sell 1010] ∧
      (mirroredService.reconcileAndProtect quietState (.ok [.position (mirroredPosition .sell)])
        (ledgerSources "weltrade" (mirroredLedger .sell 1010) Store.empty) (.ok ()) (.ok ())).2.emergencyStopLatched =
          true := by
  refine ⟨mirrors_sample .sell 1010, openEntries_mirroredLedger .sell 1010, ?_⟩
  have haudit : mirroredService.auditor.audit (.ok [.position (mirroredPosition .sell)])
      (ledgerSources "weltrade" (mirroredLedger .sell 1010) Store.empty) =
      .ok (mirroredService.auditor.report ([mirroredPosition .sell].map .position)
        ([mirroredEntry .sell 1010].map fun e => .fromLedgerEntry e.audited)) := by
    unfold TerminalReconciliationAuditor.audit
    rw [TerminalReconciliationAuditor.tracked_ledgerSources Store.empty (openEntries_mirroredLedger .sell 1010)]
    rfl
  unfold ContinuousTerminalReconciliationService.reconcileAndProtect
  rw [haudit]
  decide

end

end Jqe
