import Jqe.CloseHalt
/-!
# CloseSound — every pass of the close monitor

A pass that returns has settled every open row and changed no other; one with a row that fails raises; and what raises
has a halt on record unless it met a mishap.
-/
namespace Jqe

open Coro Prog CloseMonitor List

namespace Ledger

theorem openEntries_mem {l : Ledger} {rows : List PositionLedgerEntry} (h : l.openEntries "weltrade" = .ok rows)
    (e : PositionLedgerEntry) :
    e ∈ rows ↔ e.broker = "weltrade" ∧ l.row ("weltrade", e.positionId) = some e.toLedgerRow ∧ e.closedAt = none := by
  obtain ⟨_, _, h⟩ := bind_ok h
  cases h
  rw [mem_filter, mem_entries, decide_eq_true_eq, show strip "weltrade" = "weltrade" by decide,
    Option.isNone_iff_eq_none]
  constructor
  · rintro ⟨hrow, hbroker, hopen⟩
    rw [hbroker] at hrow
    exact ⟨hbroker, hrow, hopen⟩
  · rintro ⟨hbroker, hrow, hopen⟩
    rw [hbroker]
    exact ⟨hrow, rfl, hopen⟩

theorem openEntries_nodup {l : Ledger} {rows : List PositionLedgerEntry} (h : l.openEntries "weltrade" = .ok rows) :
    (rows.map fun e => (e.broker, e.positionId)).Nodup := by
  obtain ⟨_, _, h⟩ := bind_ok h
  cases h
  refine List.Nodup.sublist (List.filter_sublist.map _) ?_
  unfold entries
  rw [((mergeSort_perm _ openingOrder).map _).nodup_iff, map_map]
  exact l.rows.nodupKeys

end Ledger

def OpenRow (l : Ledger) (id : String) (r : LedgerRow) : Prop := l.row ("weltrade", id) = some r ∧ r.closedAt = none

/-- **A pass of the close monitor**: what a return and what a raise say of every row. -/
theorem close_monitor [CaseMap] (sc : CloseScene) (notify : Bool) {w w' : CloseWorld} {out : Except PyExc Unit}
    (hgrown : ∀ id r, OpenRow w.ledger id r → NotGrown sc id r)
    (h : Ends (CloseExec sc) (monitorWeltradeCloses notify) w out w') :
    (out = .ok () →
      (∀ id r, OpenRow w.ledger id r → ∃ r', w'.ledger.row ("weltrade", id) = some r' ∧ Settled sc id r r') ∧
        ∀ key, (∀ id r, OpenRow w.ledger id r → key ≠ ("weltrade", id)) → KeptRow w.ledger w'.ledger key) ∧
      ((∃ id r, OpenRow w.ledger id r ∧ ¬Passes sc ⟨r, "weltrade", id⟩) → ∃ e, out = .error e) ∧
      ∀ e, out = .error e → (∀ id r volume, OpenRow w.ledger id r → r.volume = some volume → volumeTol < volume) →
        w'.halt.isSome = true ∨ w'.mishap = true := by
  rcases pass_cases h with ⟨⟨e, rfl⟩, hstopped⟩ | ⟨currency, rows, hrows, hpass⟩
  · exact ⟨fun hout => (by cases hout), fun _ => ⟨e, rfl⟩, fun _ _ _ => hstopped⟩
  · have hmem := Ledger.openEntries_mem hrows
    have hentry : ∀ id r, OpenRow w.ledger id r → (⟨r, "weltrade", id⟩ : PositionLedgerEntry) ∈ rows := by
      rintro id r ⟨hrow, hopen⟩
      exact (hmem ⟨r, "weltrade", id⟩).2 ⟨rfl, hrow, hopen⟩
    have hopens : ∀ row ∈ rows, OpenRow w.ledger row.positionId row.toLedgerRow := fun row hrow =>
      ((hmem row).1 hrow).2
    have hbrokers : ∀ row ∈ rows, row.broker = "weltrade" := fun row hrow => ((hmem row).1 hrow).1
    -- what a pass that returns has made of its rows
    have hturns : out = .ok () → ∃ w₁ : CloseWorld, Notified w₁.ledger w'.ledger ∧
        (∀ row ∈ rows, Passes sc row ∧ ∃ r', w₁.ledger.row (row.broker, row.positionId) = some r' ∧
          Settled sc row.positionId row.toLedgerRow r') ∧
        ∀ key, (∀ row ∈ rows, key ≠ (row.broker, row.positionId)) → w₁.ledger.row key = w.ledger.row key := by
      rintro rfl
      obtain ⟨_, w₁, hturns, hfinish⟩ := hpass.bind_ok
      refine ⟨w₁, finishPass_ok hfinish, closeRows_ok (fun row hrow => ⟨hbrokers row hrow, (hopens row hrow).2⟩)
        (fun row hrow => hgrown _ _ (hopens row hrow)) (Ledger.openEntries_nodup hrows) (fun row hrow => ?_) hturns⟩
      rw [hbrokers row hrow]
      exact (hopens row hrow).1
    refine ⟨fun hout => ?_, ?_, ?_⟩
    · obtain ⟨w₁, hnotified, hsettled, hkept⟩ := hturns hout
      constructor
      · intro id r hopen
        obtain ⟨_, r₁, hr₁, hsettled⟩ := hsettled _ (hentry id r hopen)
        rcases hnotified ("weltrade", id) with heq | ⟨r₂, claimed, _, hr₂, hset⟩
        · exact ⟨r₁, heq.trans hr₁, hsettled⟩
        · rw [hr₁] at hr₂
          cases hr₂
          exact ⟨_, hset, hsettled.notified claimed⟩
      · intro key hkey
        have hsame : w₁.ledger.row key = w.ledger.row key := by
          refine hkept key fun row hrow => ?_
          rw [hbrokers row hrow]
          exact hkey _ _ (hopens row hrow)
        have hnotified := hnotified key
        unfold KeptRow at hnotified ⊢
        rwa [hsame] at hnotified
    · rintro ⟨id, r, hopen, hfails⟩
      cases out with
      | ok _ =>
        obtain ⟨_, _, hsettled, _⟩ := hturns rfl
        exact absurd (hsettled _ (hentry id r hopen)).1 hfails
      | error e => exact ⟨e, rfl⟩
    · intro e hout hvolumes
      have hwp : wp haltProtocol (do closeRows notify sc.positions sc.now currency rows; finishPass notify) false
          (OnError fun _ => True) :=
        wp_bind_onError (wp_closeRows notify _ _ _ (fun row hrow volume => hvolumes _ _ volume (hopens row hrow)) false)
          fun _ q => wp_finishPass notify q
      obtain ⟨q, hq, herror⟩ := Ends.of_wp (R := Marked) (fun q w r ans w' hq _ hx => exec_marked hq hx) hpass false hwp
        (fun h => by cases h)
      exact hq (herror e hout trivial)

/-! ## Passes against one terminal -/

def closeAnswer (positions : List Mt5Position) (t : HistoryTerminal) (now : Int) (haltLost : Bool) (w : CloseWorld) :
    (r : CloseReq) → Except PyExc r.Ans × CloseWorld
  | .connect => (.ok true, w)
  | .login => (.ok "USD", w)
  | .positionsGet => (.ok (some positions), w)
  | .now => (.ok now, w)
  | .history start endAt =>
    match readMt5TradeHistorySnapshot t true start endAt now 500 with
    | .ok s => (.ok s, w)
    | .error e => (.error e, w.raised (.history start endAt) e)
  | .ledger op =>
    match op.apply now w.ledger with
    | .ok (a, l') => (.ok a, { w with ledger := l' })
    | .error e => (.error e, w.raised (.ledger op) e)
  | .recordPostFillIntegrityHalt reason =>
    let lost : PyExc := .exception "disk I/O error"
    if haltLost then (.error lost, w.raised (.recordPostFillIntegrityHalt reason) lost)
    else (.ok (), { w with halt := some (w.halt.getD (strip reason)) })
  | .postFillIntegrityHalt => (.ok w.halt, w)
  | .tradeBlocked _ | .demoTrade _ | .shutdown => (.ok (), w)
  | r@(.openEntries) | r@(.openEntriesAgain) | r@(.pendingCloseNotifications) =>
    (.error .baseException, w.raised r .baseException)

theorem closeAnswer_exec (positions : List Mt5Position) (t : HistoryTerminal) (now : Int) (haltLost : Bool)
    (w : CloseWorld) (r : CloseReq) :
    CloseExec ⟨positions, now, (· = t)⟩ w r (closeAnswer positions t now haltLost w r).1
      (closeAnswer positions t now haltLost w r).2 := by
  cases r with
  | connect => exact .connected
  | positionsGet => exact .positions
  | now => exact .now
  | history start endAt =>
    dsimp only [closeAnswer]
    split
    · rename_i s h
      exact .history t rfl now h
    · exact .raised _ _ fun op h => by cases h
  | ledger op =>
    dsimp only [closeAnswer]
    split
    · rename_i a l' h
      exact .ledgerOk op (.committed now h)
    · exact .ledgerRaised op (.rolledBack _)
  | recordPostFillIntegrityHalt reason =>
    dsimp only [closeAnswer]
    split
    · exact .raised _ _ fun op h => by cases h
    · exact .halted reason
  | postFillIntegrityHalt => exact .haltRead
  | openEntries | openEntriesAgain | pendingCloseNotifications => exact .raised _ _ fun op h => by cases h
  | login | tradeBlocked _ | demoTrade _ | shutdown => exact .free _ _ rfl

theorem monitor_of_rows [CaseMap] {sc : CloseScene} {notify : Bool} {w w' : CloseWorld} {out : Except PyExc Unit}
    {rows : List PositionLedgerEntry} (hrows : w.ledger.openEntries "weltrade" = .ok rows)
    (h : Ends (CloseExec sc) (do closeRows notify sc.positions sc.now "USD" rows; finishPass notify) w out w') :
    Ends (CloseExec sc) (monitorWeltradeCloses notify) w out w' := by
  have hsession : Ends (CloseExec sc) (do let currency ← ask .login; reconcilePass notify currency) w out w' := by
    refine ends_bind.2 (.inl ⟨"USD", w, ends_perform.2 (.free .login _ rfl), ?_⟩)
    refine ends_bind.2 (.inl ⟨some sc.positions, w, ends_perform.2 .positions, ?_⟩)
    refine ends_bind.2 (.inl ⟨sc.now, w, ends_perform.2 .now, ?_⟩)
    exact ends_bind.2 (.inl ⟨rows, w, ends_perform.2 (.openEntries hrows), h⟩)
  refine ends_bind.2 (.inl ⟨true, w, ends_perform.2 .connected, ?_⟩)
  refine ends_bindAny.2 ⟨out, w', hsession, ?_⟩
  exact ends_bindAny.2 ⟨.ok (), w', ends_perform.2 (.free .shutdown _ rfl), ends_ofExcept.2 ⟨rfl, rfl⟩⟩

def heldRow (openedAt : Int) (volume : Option ℚ) : LedgerRow where
  symbol := "PAINX1200"
  orderId := "7"
  openedAt
  volume
  remainingVolume := volume

def roundTrip (opened closed : ℚ) : List Mt5Deal :=
  [{ ticket := 1, symbol := "PAINX1200", type := 0, entry := 0, volume := .fin opened, price := 1000, profit := 0
     commission := .fin (-1), swap := .fin 0, time := 1010000, positionId := some 7001, reason := some 3 },
   { ticket := 2, symbol := "PAINX1200", type := 1, entry := 1, volume := .fin closed, price := 1010, profit := 10
     commission := .fin 0, swap := .fin 0, time := 1010500, positionId := some 7001, reason := some 5 }]

def dealsTerminal (deals : List Mt5Deal) : HistoryTerminal where
  tickTime := .ok (some 1010800)
  historyDealsGet _ _ := .ok (some deals)

def heldLedger (first second : Option ℚ) : Ledger :=
  (Ledger.empty.setRow ("weltrade", "7001") (heldRow 999000 first)).setRow ("weltrade", "7002") (heldRow 999100 second)

def heldRows (first second : Option ℚ) : List PositionLedgerEntry :=
  [⟨heldRow 999000 first, "weltrade", "7001"⟩, ⟨heldRow 999100 second, "weltrade", "7002"⟩]

theorem mergeSort_pair {α : Type} (le : α → α → Bool) (a b : α) :
    [a, b].mergeSort le = if le a b then [a, b] else [b, a] := by
  rw [List.mergeSort]
  simp [List.MergeSort.Internal.splitInTwo, List.merge]

theorem heldLedger_openEntries (first second : Option ℚ) :
    (heldLedger first second).openEntries "weltrade" = .ok (heldRows first second) := by
  have hentries : (heldLedger first second).entries = heldRows first second := by
    change [(⟨heldRow 999100 second, "weltrade", "7002"⟩ : PositionLedgerEntry),
      ⟨heldRow 999000 first, "weltrade", "7001"⟩].mergeSort Ledger.openingOrder = _
    rw [mergeSort_pair]
    rfl
  unfold Ledger.openEntries
  rw [hentries]
  rfl

def heldEnds [CaseMap] (positions : List Mt5Position) (t : HistoryTerminal) (haltLost : Bool) (first second : Option ℚ) :
    Except PyExc Unit × CloseWorld :=
  (do closeRows false positions 1000000 "USD" (heldRows first second); finishPass false : CloseProg Unit).run
    (closeAnswer positions t 1000000 haltLost) ⟨heldLedger first second, none, false⟩

theorem heldEnds_ends [CaseMap] (positions : List Mt5Position) (t : HistoryTerminal) (haltLost : Bool)
    (first second : Option ℚ) : Ends (CloseExec ⟨positions, 1000000, (· = t)⟩) (monitorWeltradeCloses false)
      ⟨heldLedger first second, none, false⟩ (heldEnds positions t haltLost first second).1
      (heldEnds positions t haltLost first second).2 :=
  monitor_of_rows (heldLedger_openEntries first second)
    (Ends.of_run _ (closeAnswer_exec positions t 1000000 haltLost) _ _)

theorem heldLedger_notGrown {positions : List Mt5Position} {terminals : HistoryTerminal → Prop} {first second : Option ℚ}
    (hfirst : ∀ v ∈ first, ∀ p ∈ positions, p.volume ≤ v) (hsecond : ∀ v ∈ second, ∀ p ∈ positions, p.volume ≤ v)
    (id : String) (r : LedgerRow) (h : OpenRow (heldLedger first second) id r) :
    NotGrown ⟨positions, 1000000, terminals⟩ id r := by
  have hall : ∀ key r, (heldLedger first second).row key = some r →
      ∃ volume, r.volume = volume ∧ r.remainingVolume = volume ∧ ∀ v ∈ volume, ∀ p ∈ positions, p.volume ≤ v := by
    refine (Ledger.forall_setRow_iff ?_ _ _).2 ⟨second, rfl, rfl, hsecond⟩
    refine (Ledger.forall_setRow_iff (fun _ _ hr => ?_) _ _).2 ⟨first, rfl, rfl, hfirst⟩
    cases hr
  obtain ⟨volume, hvolume, hremaining, hle⟩ := hall _ r h.1
  intro v hv
  refine ⟨v, by rw [hremaining, ← hvolume, hv], le_refl v, fun p hp => hle v (hvolume ▸ hv) p ?_⟩
  exact mem_of_mem_filter (mem_of_getLast? hp)

local instance closeCase : CaseMap := asciiCase

def heldPosition : Mt5Position where
  ticket := 7002
  symbol := "PAINX1200"
  type := 1
  volume := 1 - 1 / 10 ^ 9
  priceOpen := 1000
  priceCurrent := 1000
  profit := 0
  sl := 1100
  tp := 900
  time := 1010000
  magic := none
  comment := none

def settledEnds : Except PyExc Unit × CloseWorld :=
  heldEnds [heldPosition] (dealsTerminal (roundTrip 1 1)) false (some 1) (some 1)

def lostEnds : Except PyExc Unit × CloseWorld := heldEnds [] (dealsTerminal []) true none none

def tinyEnds : Except PyExc Unit × CloseWorld :=
  heldEnds [] (dealsTerminal (roundTrip (5 / 10 ^ 9) 0)) false (some (5 / 10 ^ 9)) none

theorem heldEnds_facts : (settledEnds.1.isOk = true ∧
      (settledEnds.2.ledger.row ("weltrade", "7001")).any (·.closedAt.isSome) = true ∧
      settledEnds.2.ledger.row ("weltrade", "7002") = some (heldRow 999100 (some 1))) ∧
    (lostEnds.1 = .error (.exception "disk I/O error") ∧ lostEnds.2.halt = none) ∧
    (tinyEnds.1 = .error (.exception "float division by zero") ∧ tinyEnds.2.halt = none ∧ tinyEnds.2.mishap = false) ∧
    byTicket [heldPosition] "7002" = some heldPosition ∧ heldPosition.volume < 1 := by
  decide +kernel

theorem settledEnds_ok : settledEnds.1 = .ok () := by
  have hok := heldEnds_facts.1.1
  cases hout : settledEnds.1 with
  | ok _ => rfl
  | error e =>
    rw [hout] at hok
    cases hok

theorem heldPosition_le : ∀ v ∈ (some 1 : Option ℚ), ∀ p ∈ [heldPosition], p.volume ≤ v := by
  intro v hv p hp
  cases hv
  rw [mem_singleton.1 hp]
  exact heldEnds_facts.2.2.2.2.le

theorem close_monitor_settled : ∃ r', settledEnds.2.ledger.row ("weltrade", "7001") = some r' ∧ r'.closedAt.isSome ∧
    Settled ⟨[heldPosition], 1000000, (· = dealsTerminal (roundTrip 1 1))⟩ "7001" (heldRow 999000 (some 1)) r' := by
  have hpass := close_monitor _ false (heldLedger_notGrown heldPosition_le heldPosition_le)
    (heldEnds_ends [heldPosition] (dealsTerminal (roundTrip 1 1)) false (some 1) (some 1))
  obtain ⟨r', hr', hsettled⟩ := (hpass.1 settledEnds_ok).1 "7001" (heldRow 999000 (some 1)) ⟨rfl, rfl⟩
  refine ⟨r', hr', ?_, hsettled⟩
  have hclosed := heldEnds_facts.1.2.1
  rwa [show settledEnds.2.ledger.row ("weltrade", "7001") = some r' from hr'] at hclosed

/-- **A row may stay open within the tolerance only**; and a row may fail without a halt on record: the write of the halt
raises, or a row before it does. -/
theorem close_halt_lost :
    (∃ w' r', Ends (CloseExec ⟨[heldPosition], 1000000, (· = dealsTerminal (roundTrip 1 1))⟩)
        (monitorWeltradeCloses false) ⟨heldLedger (some 1) (some 1), none, false⟩ (.ok ()) w' ∧
      w'.ledger.row ("weltrade", "7002") = some r' ∧ r'.closedAt = none ∧
      byTicket [heldPosition] "7002" = some heldPosition ∧ r'.remainingVolume ≠ some heldPosition.volume) ∧
    (∃ e w', Ends (CloseExec ⟨[], 1000000, (· = dealsTerminal [])⟩) (monitorWeltradeCloses false)
        ⟨heldLedger none none, none, false⟩ (.error e) w' ∧
      OpenRow (heldLedger none none) "7001" (heldRow 999000 none) ∧
      ¬Passes ⟨[], 1000000, (· = dealsTerminal [])⟩ ⟨heldRow 999000 none, "weltrade", "7001"⟩ ∧ w'.halt = none) ∧
    ∃ e w', Ends (CloseExec ⟨[], 1000000, (· = dealsTerminal (roundTrip (5 / 10 ^ 9) 0))⟩) (monitorWeltradeCloses false)
        ⟨heldLedger (some (5 / 10 ^ 9)) none, none, false⟩ (.error e) w' ∧
      OpenRow (heldLedger (some (5 / 10 ^ 9)) none) "7002" (heldRow 999100 none) ∧
      ¬Passes ⟨[], 1000000, (· = dealsTerminal (roundTrip (5 / 10 ^ 9) 0))⟩
        ⟨heldRow 999100 none, "weltrade", "7002"⟩ ∧ w'.halt = none ∧ w'.mishap = false := by
  have hfails : ∀ (sc : CloseScene) (openedAt : Int) (id : String),
      ¬Passes sc ⟨heldRow openedAt none, "weltrade", id⟩ := by
    rintro sc openedAt id ⟨volume, hvolume, _⟩
    cases hvolume
  obtain ⟨⟨-, -, hheld⟩, ⟨hlost, hhalt⟩, ⟨htiny, hquiet⟩, hticket, hvolume⟩ := heldEnds_facts
  refine ⟨⟨settledEnds.2, _, ?_, hheld, rfl, hticket, fun heq => hvolume.ne (Option.some.inj heq).symm⟩,
    ⟨.exception "disk I/O error", lostEnds.2, ?_, ⟨rfl, rfl⟩, hfails _ _ _, hhalt⟩,
    ⟨.exception "float division by zero", tinyEnds.2, ?_, ⟨rfl, rfl⟩, hfails _ _ _, hquiet⟩⟩
  · rw [← settledEnds_ok]
    exact heldEnds_ends _ _ _ _ _
  · rw [← hlost]
    exact heldEnds_ends _ _ _ _ _
  · rw [← htiny]
    exact heldEnds_ends _ _ _ _ _

end Jqe
