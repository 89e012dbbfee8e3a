import Jqe.RecordKept
import Jqe.ResolveIntent
/-!
# ResolveSound — what the resolution of an intent rests on

- a walk over the history meets every record of its interval (`history_shown`);
- the shift of the server's clock is the one whole hour that explains its tick (`serverOffset_iff`);
- a resolution changes one row and writes one audit row, or nothing (`confirm_cases`).
-/
namespace Jqe

open Resolve List

theorem Sdk.get_ok {α : Type} {x : Sdk α} {a : α} (h : x.get = .ok a) : x = .ok a := by
  cases x with
  | ok b =>
    cases h
    rfl
  | error e => cases h

/-! ## The walk over the history -/

/-- **A method of the terminal shows a history**: it returns records of it, all those of the interval when they are
fewer than a thousand; and a ticket names one record. -/
structure HistoryGet.Shows (get : HistoryGet) (records : List BrokerRecord) : Prop where
  real : ∀ {start endAt : Int} {part : List BrokerRecord}, get start endAt = .ok (some part) → ∀ r ∈ part, r ∈ records
  whole : ∀ {start endAt : Int} {part : List BrokerRecord}, get start endAt = .ok (some part) →
    part.length < maxChunkRecords → ∀ r ∈ records, start ≤ r.time * second → r.time * second ≤ endAt → r ∈ part
  ticket : ∀ r ∈ records, ∀ r' ∈ records, ∀ n, r.ticket = some n → r'.ticket = some n → r = r'

def HeldIn (d : List (String × BrokerRecord)) (r : BrokerRecord) : Prop :=
  ∃ n, r.ticket = some n ∧ d.lookup (toString n) = some r

theorem HeldIn.mem {d : List (String × BrokerRecord)} {r : BrokerRecord} (h : HeldIn d r) : r ∈ d.map Prod.snd := by
  obtain ⟨n, _, hlookup⟩ := h
  obtain ⟨l₁, l₂, rfl, _⟩ := lookup_eq_some_iff.1 hlookup
  exact mem_map_of_mem (f := Prod.snd) (mem_append_right l₁ mem_cons_self)

section Walk

variable {method : String} {get : HistoryGet} {records : List BrokerRecord}

theorem collectPart_held (hticket : ∀ r ∈ records, ∀ r' ∈ records, ∀ n, r.ticket = some n → r'.ticket = some n → r = r') :
    ∀ {part : List BrokerRecord} {d d' : List (String × BrokerRecord)}, (∀ r ∈ part, r ∈ records) →
      collectPart method part d = .ok d' → (∀ r ∈ records, HeldIn d r → HeldIn d' r) ∧ ∀ r ∈ part, HeldIn d' r
  | [], d, d', _, h => by
    cases h
    exact ⟨fun _ _ hr => hr, fun _ hr => by cases hr⟩
  | item :: part, d, d', hreal, h => by
    rw [forall_mem_cons] at hreal
    unfold collectPart at h
    split at h
    · cases h
    · rename_i n hn
      obtain ⟨hkept, hpart⟩ := collectPart_held hticket hreal.2 h
      refine ⟨fun r hr hheld => hkept r hr ?_, forall_mem_cons.2 ⟨hkept item hreal.1 ⟨n, hn, ?_⟩, hpart⟩⟩
      · -- under the ticket of the item there was the item or nothing
        obtain ⟨m, hm, hlookup⟩ := hheld
        refine ⟨m, hm, ?_⟩
        rw [lookup_dictSet]
        split
        · rename_i hsame
          have hmn : m = n := toString_int_inj hsame
          rw [hticket r hr item hreal.1 n (hmn ▸ hm) hn]
        · exact hlookup
      · rw [lookup_dictSet, if_pos rfl]

theorem historyFrom_held (hshows : get.Shows records) {cursor endAt : Int} {d d' : List (String × BrokerRecord)}
    (h : historyFrom method get cursor endAt d = .ok d') :
    (∀ r ∈ records, HeldIn d r → HeldIn d' r) ∧
      ∀ r ∈ records, cursor < endAt → cursor ≤ r.time * second → r.time * second ≤ endAt → HeldIn d' r := by
  induction cursor, d using historyFrom.induct endAt with
  | case1 cursor d hlt nextEnd ih =>
    rw [historyFrom, if_pos hlt] at h
    obtain ⟨answer, hget, h⟩ := bind_ok h
    cases answer with
    | none => cases h
    | some part =>
      dsimp only at h
      split at h
      · cases h
      · rename_i hshort
        obtain ⟨d₁, hcollect, h⟩ := bind_ok h
        have hpart : get cursor nextEnd = .ok (some part) := Sdk.get_ok hget
        obtain ⟨hkept, hnew⟩ := collectPart_held hshows.ticket (hshows.real hpart) hcollect
        obtain ⟨hkept', hlater⟩ := ih _ h
        refine ⟨fun r hr hheld => hkept' r hr (hkept r hr hheld), fun r hr _ hstart hend => ?_⟩
        by_cases hnext : r.time * second ≤ nextEnd
        · exact hkept' r hr (hnew r (hshows.whole hpart (Nat.lt_of_not_le hshort) r hr hstart hnext))
        · have hnext := Int.lt_of_not_ge hnext
          exact hlater r hr (Int.lt_of_lt_of_le hnext hend) (Int.le_of_lt hnext) hend
  | case2 cursor d hge =>
    rw [historyFrom, if_neg hge] at h
    cases h
    exact ⟨fun _ _ hr => hr, fun _ _ hlt => absurd hlt hge⟩

theorem history_shown (hshows : get.Shows records) {start endAt : Int} (hlt : start < endAt) {out : List BrokerRecord}
    (h : history method get start endAt = .ok out) {r : BrokerRecord} (hr : r ∈ records)
    (hstart : start ≤ r.time * second) (hend : r.time * second ≤ endAt) : r ∈ out := by
  obtain ⟨d, hwalk, h⟩ := bind_ok h
  cases h
  exact ((historyFrom_held hshows hwalk).2 r hr hlt hstart hend).mem

theorem history_nil {start endAt : Int}
    (hnone : ∀ a b, start ≤ a → b ≤ endAt → get a b = .ok (some [])) : history method get start endAt = .ok [] := by
  have hwalk : ∀ cursor (d : List (String × BrokerRecord)), start ≤ cursor →
      historyFrom method get cursor endAt d = .ok d := by
    intro cursor d
    induction cursor, d using historyFrom.induct endAt with
    | case1 cursor d hlt nextEnd ih =>
      intro hstart
      have hchunk : 0 < historyChunk := by decide
      have hnext : start ≤ nextEnd := by omega
      have hget : get cursor nextEnd = .ok (some []) := hnone _ _ hstart (min_le_right _ _)
      rw [historyFrom, if_pos hlt]
      change (get cursor nextEnd).get >>= _ = _
      rw [hget]
      exact ih d hnext
    | case2 cursor d hge =>
      intro _
      rw [historyFrom, if_neg hge]
  unfold history
  rw [hwalk start [] (le_refl _)]
  rfl

end Walk

/-! ## The clock of the server -/

theorem filter_singleton_iff {α : Type} {p : α → Bool} {l : List α} (hl : l.Nodup)
    (hone : ∀ a ∈ l, ∀ b ∈ l, p a = true → p b = true → a = b) (o : α) : l.filter p = [o] ↔ o ∈ l ∧ p o = true := by
  constructor
  · intro h
    exact mem_filter.1 (by rw [h]; exact mem_singleton_self o)
  · rintro ⟨ho, hp⟩
    have hmem : ∀ a ∈ l.filter p, a = o := fun a ha =>
      hone a (mem_filter.1 ha).1 o ho (mem_filter.1 ha).2 hp
    have hperm : (l.filter p).Perm [o] := by
      refine (perm_ext_iff_of_nodup (hl.filter p) (nodup_singleton o)).2 fun a => ?_
      rw [mem_singleton]
      exact ⟨hmem a, fun ha => ha ▸ mem_filter.2 ⟨ho, hp⟩⟩
    exact perm_singleton.1 hperm

/-- A clock that is a whole number of hours from UTC, on which a tick is two minutes old at most. -/
def ExplainedBy (raw observed offset : Int) : Prop :=
  ∃ hours : Int, -12 ≤ hours ∧ hours ≤ 14 ∧ offset = hours * 3600 ∧ |(raw - offset) * second - observed| ≤ 120 * second

theorem ExplainedBy.unique {raw observed offset offset' : Int} (h : ExplainedBy raw observed offset)
    (h' : ExplainedBy raw observed offset') : offset = offset' := by
  have hsecond : second = 1000000 := rfl
  obtain ⟨m, _, _, rfl, hm⟩ := h
  obtain ⟨n, _, _, rfl, hn⟩ := h'
  rw [abs_le, hsecond] at hm hn
  have hmn : m = n := by omega
  rw [hmn]

/-- **The shift that is resolved is the one that explains the tick**: no two whole hours do. -/
theorem serverOffset_iff {raw observed offset : Int} :
    serverOffset (some raw) observed = some offset ↔ 0 < raw ∧ ExplainedBy raw observed offset := by
  have hmem : ∀ o : Int, o ∈ (List.range 27).map (fun h : ℕ => ((h : Int) - 12) * 3600) ↔
      ∃ hours : Int, -12 ≤ hours ∧ hours ≤ 14 ∧ o = hours * 3600 := by
    intro o
    rw [mem_map]
    constructor
    · rintro ⟨h, hh, rfl⟩
      rw [mem_range] at hh
      exact ⟨(h : Int) - 12, by omega, by omega, rfl⟩
    · rintro ⟨hours, hlow, hhigh, rfl⟩
      refine ⟨(hours + 12).toNat, mem_range.2 (by omega), ?_⟩
      have hcast : (((hours + 12).toNat : ℕ) : Int) = hours + 12 := Int.toNat_of_nonneg (by omega)
      rw [hcast]
      omega
  have hnodup : ((List.range 27).map fun h : ℕ => ((h : Int) - 12) * 3600).Nodup := by decide
  have hsingle := filter_singleton_iff (p := fun o => decide (|(raw - o) * second - observed| ≤ 120 * second)) hnodup (by
    intro a ha b hb hpa hpb
    obtain ⟨m, hm, hm', rfl⟩ := (hmem a).1 ha
    obtain ⟨n, hn, hn', rfl⟩ := (hmem b).1 hb
    exact ExplainedBy.unique ⟨m, hm, hm', rfl, of_decide_eq_true hpa⟩ ⟨n, hn, hn', rfl, of_decide_eq_true hpb⟩) offset
  unfold serverOffset
  dsimp only
  by_cases hraw : raw ≤ 0
  · rw [if_pos hraw]
    constructor
    · intro h
      cases h
    · rintro ⟨hpos, _⟩
      omega
  · rw [if_neg hraw]
    constructor
    · intro h
      split at h
      · rename_i o ho
        cases h
        obtain ⟨hin, hp⟩ := hsingle.1 ho
        obtain ⟨hours, hlow, hhigh, heq⟩ := (hmem _).1 hin
        exact ⟨by omega, hours, hlow, hhigh, heq, of_decide_eq_true hp⟩
      · cases h
    · rintro ⟨_, hours, hlow, hhigh, heq, habs⟩
      rw [hsingle.2 ⟨(hmem _).2 ⟨hours, hlow, hhigh, heq⟩, decide_eq_true habs⟩]

/-! ## What an inspection finds -/

/-- **What the broker has**: the current positions and pending orders, and the history of orders and of deals. -/
structure BrokerBook where
  positions : List BrokerRecord
  pending : List BrokerRecord
  orders : List BrokerRecord
  deals : List BrokerRecord

structure RecoveryEvidence.Shows (e : RecoveryEvidence) (b : BrokerBook) : Prop where
  positions : ∀ items, e.positionsGet = .ok (some items) → items = b.positions
  pending : ∀ items, e.ordersGet = .ok (some items) → items = b.pending
  orders : e.historyOrdersGet.Shows b.orders
  deals : e.historyDealsGet.Shows b.deals

/-- A moment of a server's clock, `clock` seconds ahead of UTC, is in a window. -/
def BrokerRecord.Within (r : BrokerRecord) (clock start endAt : Int) : Prop :=
  start + clock * second ≤ r.time * second ∧ r.time * second ≤ endAt + clock * second

section Inspect

variable [CaseMap]

/-- **Nothing of a symbol is at the broker**, in a window of its history or now. -/
def BrokerBook.Absent (b : BrokerBook) (symbol : String) (clock start endAt : Int) : Prop :=
  ∀ r, (r ∈ b.positions ∨ r ∈ b.pending ∨ (r ∈ b.orders ∨ r ∈ b.deals) ∧ r.Within clock start endAt) →
    normalizeSymbol r.symbol ≠ symbol

/-- **A recommendation to reject is right**, whatever the broker has and however the terminal shows it. -/
def SoundInspection (intentId : String) (heartbeat : Heartbeat) (s : RecoverySettings) (t : RecoverySession)
    (store : Store) (observed clock : Int) : Prop :=
  ∀ (e : RecoveryEvidence) (b : BrokerBook) (f : RecoveryFinding), e.Shows b →
    inspectIntent intentId heartbeat s t e store observed = .ok f → f.recommendation = .rejected →
    ∃ row, store.row intentId = some row ∧
      b.Absent (normalizeSymbol (row.symbol.getD "")) clock (row.createdAt - windowMargin) observed

/-- **The records are come to**: every check before the clock is passed, and the session ends well. -/
structure InspectionOpens (intentId : String) (heartbeat : Heartbeat) (s : RecoverySettings) (t : RecoverySession)
    (store : Store) (observed : Int) (row : IntentRow) : Prop where
  resolvable : resolvableRow intentId heartbeat s store observed = .ok row
  initialized : t.initialized = .ok true
  login : t.login = .ok true
  identity : ∃ account info, t.accountInfo = .ok (some account) ∧ t.terminalInfo = .ok (some info) ∧
    info.connected = true ∧ identityHeld s row account info = .ok ()
  shutdown : t.shutdown = .ok ()

variable {intentId : String} {heartbeat : Heartbeat} {s : RecoverySettings} {t : RecoverySession} {store : Store}
  {observed : Int} {row : IntentRow}

omit [CaseMap] in
theorem readIntent_ok {storeIsFile : Bool} (h : readIntent storeIsFile store intentId = .ok row) :
    store.row intentId = some row := by
  unfold readIntent at h
  split at h
  · cases h
  · split at h
    · cases h
    · rename_i r hr
      split at h
      · cases h
      · split at h
        · cases h
        · split at h
          · cases h
          · cases h
            exact hr

theorem resolvableRow_ok (h : resolvableRow intentId heartbeat s store observed = .ok row) :
    store.row intentId = some row ∧ row.createdAt ≤ observed := by
  unfold resolvableRow at h
  split at h
  · cases h
  · obtain ⟨_, _, h⟩ := bind_ok h
    obtain ⟨r, hread, h⟩ := bind_ok h
    split at h
    · cases h
    · rename_i hmoment
      split at h
      · cases h
      · cases h
        exact ⟨readIntent_ok hread, Int.le_of_not_gt hmoment⟩

theorem sessionOffset_ok {offset : Int} (h : sessionOffset s t row observed = .ok offset) :
    t.login = .ok true ∧ (∃ account info, t.accountInfo = .ok (some account) ∧ t.terminalInfo = .ok (some info) ∧
      info.connected = true ∧ identityHeld s row account info = .ok ()) ∧
      ∃ tick, t.tickTime = .ok tick ∧ serverOffset tick observed = some offset := by
  obtain ⟨login, hlogin, h⟩ := bind_ok h
  cases login with
  | false => cases h
  | true =>
    obtain ⟨account, haccount, h⟩ := bind_ok h
    obtain ⟨info, hinfo, h⟩ := bind_ok h
    cases account with
    | none => cases h
    | some account =>
      cases info with
      | none => cases h
      | some info =>
        cases hconnected : info.connected with
        | false =>
          rw [Option.filter_some, hconnected] at h
          cases h
        | true =>
          rw [Option.filter_some, hconnected] at h
          obtain ⟨_, hidentity, h⟩ := bind_ok h
          obtain ⟨tick, htick, h⟩ := bind_ok h
          split at h
          · cases h
          · rename_i o ho
            cases h
            exact ⟨Sdk.get_ok hlogin, ⟨account, info, Sdk.get_ok haccount, Sdk.get_ok hinfo, hconnected, hidentity⟩,
              tick, Sdk.get_ok htick, ho⟩

theorem sessionOffset_opens {row : IntentRow} (h : InspectionOpens intentId heartbeat s t store observed row)
    {tick : Option Int} (htick : t.tickTime = .ok tick) {offset : Int} (ho : serverOffset tick observed = some offset) :
    sessionOffset s t row observed = .ok offset := by
  obtain ⟨account, info, haccount, hinfo, hconnected, hidentity⟩ := h.identity
  unfold sessionOffset
  simp only [Bind.bind, Except.bind, Sdk.get, h.login, haccount, hinfo, htick, Option.filter_some, hconnected, if_true,
    hidentity, ho]
  rfl

theorem matchingIds_nil {symbol : String} {records : List BrokerRecord} (h : matchingIds symbol records = .ok []) :
    ∀ r ∈ records, normalizeSymbol r.symbol ≠ symbol := by
  obtain ⟨tickets, hmap, h⟩ := bind_ok h
  have hempty : tickets = [] := length_eq_zero_iff.1 (by
    rw [← length_insertionSort (· ≤ ·) tickets, Except.ok.inj h]
    rfl)
  subst hempty
  have hfilter : (records.filter fun r => normalizeSymbol r.symbol = symbol) = [] := by
    cases hfound : records.filter fun r => normalizeSymbol r.symbol = symbol with
    | nil => rfl
    | cons r rest =>
      rw [hfound, mapM_cons] at hmap
      obtain ⟨_, _, hmap⟩ := bind_ok hmap
      obtain ⟨_, _, hmap⟩ := bind_ok hmap
      cases hmap
  intro r hr hsymbol
  exact absurd (filter_eq_nil_iff.1 hfilter r hr) (not_not.2 (decide_eq_true hsymbol))

variable {e : RecoveryEvidence} {f : RecoveryFinding}

theorem evidenceFinding_ok {offset : Int} (h : evidenceFinding intentId row e observed offset = .ok f) :
    f.intentId = intentId ∧ f.symbol = normalizeSymbol (row.symbol.getD "") ∧ f.createdAt = row.createdAt ∧
      ∃ positions pending orders deals, e.positionsGet = .ok (some positions) ∧ e.ordersGet = .ok (some pending) ∧
        history "history_orders_get" e.historyOrdersGet (row.createdAt - windowMargin + offset * second)
          (observed + offset * second) = .ok orders ∧
        history "history_deals_get" e.historyDealsGet (row.createdAt - windowMargin + offset * second)
          (observed + offset * second) = .ok deals ∧
        (f.recommendation = .rejected → ∀ r, (r ∈ positions ∨ r ∈ pending ∨ r ∈ orders ∨ r ∈ deals) →
          normalizeSymbol r.symbol ≠ normalizeSymbol (row.symbol.getD "")) := by
  obtain ⟨positions, hpositions, h⟩ := bind_ok h
  obtain ⟨pending, hpending, h⟩ := bind_ok h
  cases positions with
  | none => cases h
  | some positions =>
    cases pending with
    | none => cases h
    | some pending =>
      obtain ⟨orders, horders, h⟩ := bind_ok h
      obtain ⟨deals, hdeals, h⟩ := bind_ok h
      obtain ⟨ps, hps, h⟩ := bind_ok h
      obtain ⟨os, hos, h⟩ := bind_ok h
      obtain ⟨ho, hho, h⟩ := bind_ok h
      obtain ⟨hd, hhd, h⟩ := bind_ok h
      cases h
      refine ⟨rfl, rfl, rfl, positions, pending, orders, deals, Sdk.get_ok hpositions, Sdk.get_ok hpending, horders,
        hdeals, fun hrejected => ?_⟩
      -- none of the four lists has a ticket
      have hnone : [ps, os, ho, hd].any (!·.isEmpty) = false := by
        dsimp only at hrejected
        split at hrejected
        · cases hrejected
        · rename_i hnot
          exact Bool.eq_false_iff.2 hnot
      simp only [any_cons, any_nil, Bool.or_false, Bool.or_eq_false_iff, Bool.not_eq_false',
        List.isEmpty_iff] at hnone
      obtain ⟨rfl, rfl, rfl, rfl⟩ := hnone
      rintro r (hr | hr | hr | hr)
      · exact matchingIds_nil hps r hr
      · exact matchingIds_nil hos r hr
      · exact matchingIds_nil hho r hr
      · exact matchingIds_nil hhd r hr

theorem inspectIntent_ok (h : inspectIntent intentId heartbeat s t e store observed = .ok f) :
    ∃ row tick offset, InspectionOpens intentId heartbeat s t store observed row ∧ t.tickTime = .ok tick ∧
      serverOffset tick observed = some offset ∧ evidenceFinding intentId row e observed offset = .ok f := by
  obtain ⟨row, hrow, h⟩ := bind_ok h
  obtain ⟨initialized, hinitialized, h⟩ := bind_ok h
  cases initialized with
  | false => cases h
  | true =>
    obtain ⟨_, hshutdown, h⟩ := bind_ok h
    obtain ⟨offset, hsession, h⟩ := bind_ok h
    obtain ⟨hlogin, hidentity, tick, htick, hoffset⟩ := sessionOffset_ok hsession
    exact ⟨row, tick, offset, ⟨hrow, Sdk.get_ok hinitialized, hlogin, hidentity, Sdk.get_ok hshutdown⟩, htick, hoffset, h⟩

theorem inspectIntent_opens {row : IntentRow} (h : InspectionOpens intentId heartbeat s t store observed row)
    {tick : Option Int} (htick : t.tickTime = .ok tick) {offset : Int} (ho : serverOffset tick observed = some offset)
    (e : RecoveryEvidence) : inspectIntent intentId heartbeat s t e store observed =
      evidenceFinding intentId row e observed offset := by
  have hsession := sessionOffset_opens h htick ho
  unfold inspectIntent
  rw [h.resolvable, h.initialized, h.shutdown]
  change (sessionOffset s t row observed >>= fun offset => evidenceFinding intentId row e observed offset) = _
  rw [hsession]
  rfl

/-- **On the right clock a recommendation to reject is right.** -/
theorem evidence_absent {b : BrokerBook} (hshows : e.Shows b) {offset : Int} (hcreated : row.createdAt ≤ observed)
    (h : evidenceFinding intentId row e observed offset = .ok f) (hrejected : f.recommendation = .rejected) :
    b.Absent (normalizeSymbol (row.symbol.getD "")) offset (row.createdAt - windowMargin) observed := by
  obtain ⟨_, _, _, positions, pending, orders, deals, hpositions, hpending, horders, hdeals, hnone⟩ := evidenceFinding_ok h
  have hnone := hnone hrejected
  have hlt : row.createdAt - windowMargin + offset * second < observed + offset * second := by
    have hmargin : 0 < windowMargin := by decide
    omega
  rintro r (hr | hr | ⟨hr | hr, hstart, hend⟩)
  · exact hnone r (.inl (hshows.positions _ hpositions ▸ hr))
  · exact hnone r (.inr (.inl (hshows.pending _ hpending ▸ hr)))
  · exact hnone r (.inr (.inr (.inl (history_shown hshows.orders hlt horders hr hstart hend))))
  · exact hnone r (.inr (.inr (.inr (history_shown hshows.deals hlt hdeals hr hstart hend))))

/-! ### A wrong clock -/

omit [CaseMap] in
theorem exists_missed {created offset clock : Int} (hcreated : created ≤ observed) (hne : offset ≠ clock) :
    ∃ time : Int, (created - windowMargin + clock * second ≤ time * second ∧ time * second ≤ observed + clock * second) ∧
      (time * second < created - windowMargin + offset * second ∨ observed + offset * second < time * second) := by
  have hsecond : second = 1000000 := rfl
  have hmargin : windowMargin = 600000000 := rfl
  rw [hsecond, hmargin]
  rcases Int.lt_or_gt_of_ne hne with hlt | hgt
  · refine ⟨observed / 1000000 + clock, ⟨?_, ?_⟩, .inr ?_⟩ <;> omega
  · refine ⟨(created - 600000000 + 999999) / 1000000 + clock, ⟨?_, ?_⟩, .inl ?_⟩ <;> omega

def oneOrder (r : BrokerRecord) : HistoryGet := fun start endAt =>
  .ok (some (if start ≤ r.time * second ∧ r.time * second ≤ endAt then [r] else []))

def oneEvidence (r : BrokerRecord) : RecoveryEvidence where
  positionsGet := .ok (some [])
  ordersGet := .ok (some [])
  historyOrdersGet := oneOrder r
  historyDealsGet _ _ := .ok (some [])

omit [CaseMap] in
theorem oneOrder_shows (r : BrokerRecord) : (oneOrder r).Shows [r] where
  real h r' hr' := by
    cases h
    split at hr'
    · exact hr'
    · cases hr'
  whole h _ r' hr' hstart hend := by
    cases h
    rw [mem_singleton.1 hr'] at hstart hend ⊢
    rw [if_pos ⟨hstart, hend⟩]
    exact mem_singleton_self r
  ticket r₁ h₁ r₂ h₂ _ _ _ := by rw [mem_singleton.1 h₁, mem_singleton.1 h₂]

omit [CaseMap] in
theorem oneEvidence_shows (r : BrokerRecord) : (oneEvidence r).Shows ⟨[], [], [r], []⟩ where
  positions _ h := by
    cases h
    rfl
  pending _ h := by
    cases h
    rfl
  orders := oneOrder_shows r
  deals := {
    real := fun h r' hr' => by
      cases h
      cases hr'
    whole := fun _ _ r' hr' => by cases hr'
    ticket := fun r₁ h₁ => by cases h₁ }

theorem oneEvidence_rejected (intentId : String) (row : IntentRow) (r : BrokerRecord) {observed offset : Int}
    (hmissed : r.time * second < row.createdAt - windowMargin + offset * second ∨
      observed + offset * second < r.time * second) :
    ∃ f, evidenceFinding intentId row (oneEvidence r) observed offset = .ok f ∧ f.recommendation = .rejected := by
  have horders : history "history_orders_get" (oneEvidence r).historyOrdersGet
      (row.createdAt - windowMargin + offset * second) (observed + offset * second) = .ok [] := by
    refine history_nil fun a b ha hb => ?_
    have hnot : ¬(a ≤ r.time * second ∧ r.time * second ≤ b) := by
      rintro ⟨h₁, h₂⟩
      rcases hmissed with h | h <;> omega
    exact congrArg (fun l => Except.ok (some l)) (if_neg hnot)
  have hdeals : history "history_deals_get" (oneEvidence r).historyDealsGet
      (row.createdAt - windowMargin + offset * second) (observed + offset * second) = .ok [] :=
    history_nil fun _ _ _ _ => rfl
  unfold evidenceFinding
  change ∃ f, (history "history_orders_get" (oneEvidence r).historyOrdersGet
      (row.createdAt - windowMargin + offset * second) (observed + offset * second) >>= fun historicalOrders =>
    history "history_deals_get" (oneEvidence r).historyDealsGet
      (row.createdAt - windowMargin + offset * second) (observed + offset * second) >>= fun historicalDeals => _) = .ok f ∧ _
  rw [horders, hdeals]
  exact ⟨_, rfl, rfl⟩

/-- **An inspection is sound exactly when no other clock explains the tick.** -/
theorem inspection_sound_iff (intentId : String) (heartbeat : Heartbeat) (s : RecoverySettings) (t : RecoverySession)
    (store : Store) (observed clock : Int) : SoundInspection intentId heartbeat s t store observed clock ↔
      ∀ row, InspectionOpens intentId heartbeat s t store observed row → ∀ raw, t.tickTime = .ok (some raw) → 0 < raw →
        ∀ offset, ExplainedBy raw observed offset → offset = clock := by
  constructor
  · intro hsound row hopens raw htick hraw offset hexplained
    by_contra hne
    obtain ⟨hrow, hcreated⟩ := resolvableRow_ok hopens.resolvable
    obtain ⟨time, hwithin, hmissed⟩ := exists_missed hcreated hne
    have hoffset := serverOffset_iff.2 ⟨hraw, hexplained⟩
    obtain ⟨f, hf, hrejected⟩ := oneEvidence_rejected intentId row ⟨some 1, row.symbol.getD "", time⟩ hmissed
    obtain ⟨row', hrow', habsent⟩ := hsound _ _ f (oneEvidence_shows _)
      ((inspectIntent_opens hopens htick hoffset _).trans hf) hrejected
    cases hrow.symm.trans hrow'
    exact habsent _ (.inr (.inr ⟨.inl (mem_singleton_self _), hwithin⟩)) rfl
  · intro hclock e b f hshows h hrejected
    obtain ⟨row, tick, offset, hopens, htick, hoffset, hf⟩ := inspectIntent_ok h
    obtain ⟨hrow, hcreated⟩ := resolvableRow_ok hopens.resolvable
    cases tick with
    | none => cases hoffset
    | some raw =>
      obtain ⟨hraw, hexplained⟩ := serverOffset_iff.1 hoffset
      have hright := hclock row hopens raw htick hraw offset hexplained
      subst hright
      exact ⟨row, hrow, evidence_absent hshows hcreated hf hrejected⟩

end Inspect

/-! ## The resolution -/

/-- **A resolution of an intent** that was inspected in the row `r₀`: the one row it changes and the one it adds. -/
structure Resolution (intentId : String) (r₀ : IntentRow) (w w' : ResolveWorld) (r r' : IntentRow) (entry : RecoveryAudit) :
    Prop where
  found : w.store.row intentId = some r
  unknown : r.state = .unknown
  unsent : r.orderId = none ∧ r.transactionId = none
  inspected : r.symbol = r₀.symbol ∧ r.createdAt = r₀.createdAt
  store : w'.store = w.store.setRow intentId r'
  rejected : r'.state = .rejected
  kept : r'.payload = r.payload ∧ r'.orderId = none ∧ r'.transactionId = none
  audit : w'.auditRows = w.auditRows ++ [entry]
  audited : entry.intentId = intentId ∧ entry.fromState = .unknown ∧ entry.toState = .rejected

theorem resolveWhere_unknown {at_ : Int} {reason intentId : String} {store : Store} {r : IntentRow}
    (hrow : store.row intentId = some r) (hstate : r.state = .unknown) (horder : r.orderId = none)
    (htransaction : r.transactionId = none) :
    resolveWhere at_ reason intentId store = (1, store.setRow intentId (resolvedRow at_ reason r)) := by
  unfold resolveWhere
  rw [hrow]
  exact if_pos ⟨hstate, horder, htransaction⟩

/-- **What a run of the resolution does**: nothing, or it rejects the intent that the finding is of. -/
theorem confirm_cases {f : RecoveryFinding} {c : ConfirmCall} {w w' : ResolveWorld} {out : Except PyExc String}
    (h : ConfirmExec f c w out w') : (∃ e, out = .error e ∧ w' = w) ∨
      (∃ path, out = .ok path) ∧ ∃ r₀ r entry, r₀.symbol = some f.symbol ∧ r₀.createdAt = f.createdAt ∧
        Resolution f.intentId r₀ w w' r (resolvedRow c.at_ f.reason r) entry := by
  cases h with
  | failed e => exact .inl ⟨e, rfl, rfl⟩
  | ran =>
    unfold confirmResolution
    split
    · exact .inl ⟨_, rfl, rfl⟩
    · split
      · exact .inl ⟨_, rfl, rfl⟩
      · split
        · exact .inl ⟨_, rfl, rfl⟩
        · rename_i backup _
          split
          · rename_i w₁ hbody
            right
            refine ⟨⟨backup, rfl⟩, ?_⟩
            unfold resolveBody at hbody
            split at hbody
            · cases hbody
            · rename_i r hrow
              split at hbody
              · cases hbody
              · rename_i hsame
                rw [not_not] at hsame
                simp only [Prod.mk.injEq] at hsame
                obtain ⟨hstate, _, hsymbol, hcreated, horder, htransaction⟩ := hsame
                dsimp only at hbody
                rw [resolveWhere_unknown hrow hstate horder htransaction] at hbody
                dsimp only at hbody
                rw [if_neg (not_not.2 rfl)] at hbody
                split at hbody
                · cases hbody
                · cases hbody
                  exact ⟨r, r, _, hsymbol, hcreated, hrow, hstate, ⟨horder, htransaction⟩, ⟨rfl, rfl⟩, rfl, rfl,
                    ⟨rfl, horder, htransaction⟩, rfl, rfl, rfl, rfl⟩
          · exact .inl ⟨_, rfl, rfl⟩

theorem ResolveStep.rowKept {w w' : ResolveWorld} (h : ResolveStep w w') {key : String} {r : IntentRow}
    (hr : w.store.row key = some r) : ∃ r', w'.store.row key = some r' ∧ RowKept r r' := by
  cases h with
  | store hx => exact RowKept.of_calls (.single ⟨_, _, hx⟩) hr
  | @confirm f c _ _ hx =>
    rcases confirm_cases hx with ⟨_, _, rfl⟩ | ⟨_, _, r₁, _, _, _, hresolved⟩
    · exact ⟨r, hr, .refl r⟩
    · rw [hresolved.store]
      by_cases hkey : key = f.intentId
      · subst hkey
        cases hr.symm.trans hresolved.found
        refine ⟨_, Store.row_setRow _ _ _, hresolved.kept.1, fun hfinal => ?_, fun hpending => ?_⟩
        · rw [hresolved.unknown] at hfinal
          cases hfinal
        · rw [hresolved.rejected] at hpending
          cases hpending
      · exact ⟨r, (Store.row_setRow_of_ne _ _ hkey).trans hr, .refl r⟩

theorem ResolveStep.rowKept_run {w w' : ResolveWorld} (h : Relation.ReflTransGen ResolveStep w w') {key : String}
    {r : IntentRow} (hr : w.store.row key = some r) : ∃ r', w'.store.row key = some r' ∧ RowKept r r' := by
  induction h with
  | refl => exact ⟨r, hr, .refl r⟩
  | tail _ hstep ih =>
    obtain ⟨r', hr', hkept⟩ := ih
    obtain ⟨r'', hr'', hkept'⟩ := hstep.rowKept hr'
    exact ⟨r'', hr'', hkept.trans hkept'⟩

/-- **An intent is resolved exactly, or not at all**, whatever is done between its inspection and its resolution; and the
recommendation to reject it is right for every broker exactly when no whole-hour clock but the server's own explains the
tick that the clock is told by. -/
theorem resolution_exact_iff [CaseMap] (intentId : String) (heartbeat : Heartbeat) (s : RecoverySettings)
    (t : RecoverySession) (observed clock : Int) (w₀ : ResolveWorld) :
    (∀ e f w₁ c out w₂, inspectIntent intentId heartbeat s t e w₀.store observed = .ok f →
      Relation.ReflTransGen ResolveStep w₀ w₁ → ConfirmExec f c w₁ out w₂ →
      (∃ error, out = .error error ∧ w₂ = w₁) ∨
        (∃ path, out = .ok path) ∧ ∃ r₀ r r' entry, w₀.store.row intentId = some r₀ ∧
          Resolution intentId r₀ w₁ w₂ r r' entry) ∧
    (SoundInspection intentId heartbeat s t w₀.store observed clock ↔
      ∀ row, InspectionOpens intentId heartbeat s t w₀.store observed row → ∀ raw, t.tickTime = .ok (some raw) →
        0 < raw → ∀ offset, ExplainedBy raw observed offset → offset = clock) := by
  refine ⟨fun e f w₁ c out w₂ hinspect hsteps hconfirm => ?_, inspection_sound_iff _ _ _ _ _ _ _⟩
  rcases confirm_cases hconfirm with hfailed | ⟨hpath, _, r, entry, _, _, hresolved⟩
  · exact .inl hfailed
  · right
    obtain ⟨r₀, tick, offset, hopens, _, _, hfinding⟩ := inspectIntent_ok hinspect
    obtain ⟨hrow, _⟩ := resolvableRow_ok hopens.resolvable
    obtain ⟨hid, _⟩ := evidenceFinding_ok hfinding
    rw [hid] at hresolved
    -- the row that is changed is a later one of the row that was inspected
    obtain ⟨r', hr', hkept⟩ := ResolveStep.rowKept_run hsteps hrow
    obtain rfl : r' = r := Option.some.inj (hr'.symm.trans hresolved.found)
    exact ⟨hpath, r₀, r', _, entry, hrow, { hresolved with
      inspected := ⟨congrArg IntentPayload.symbol hkept.payload, congrArg IntentPayload.createdAt hkept.payload⟩ }⟩

/-! ## A tick that is an hour old -/

section Stale

local instance staleCase : CaseMap := asciiCase

def staleRow : IntentRow :=
  Store.rowOf { idempotencyKey := "k1", status := .unknown, symbol := some "SFX VOL 99", broker := some "weltrade" }
    (999880 * second) (some "4242")

def staleWorld : ResolveWorld := ⟨Store.empty.setRow "k1" staleRow, none⟩

def staleSettings : RecoverySettings where
  storeIsFile := true
  broker := "weltrade"
  marketDataSource := some "broker"
  terminalIsFile := true
  terminalParent := "C:/Weltrade"
  login := some 4242
  server := some "Weltrade-Demo"
  password := true

def staleSession : RecoverySession where
  initialized := .ok true
  login := .ok true
  accountInfo := .ok (some ⟨some 4242, some "Weltrade-Demo", some 0⟩)
  terminalInfo := .ok (some ⟨true, "C:/Weltrade"⟩)
  tickTime := .ok (some (1000000 + 10800 - 3600))
  shutdown := .ok ()

def staleOrder : BrokerRecord := ⟨some 771, "SFX Vol 99", 999885 + 10800⟩

theorem stale_opens : InspectionOpens "k1" .missing staleSettings staleSession staleWorld.store (1000000 * second) staleRow where
  resolvable := by decide
  initialized := rfl
  login := rfl
  identity := ⟨_, _, rfl, rfl, rfl, by decide⟩
  shutdown := rfl

/-- **An order that is there is not found**: the tick is explained by the clock of an hour less, and a resolution of the
intent is recommended. -/
theorem resolution_stale_tick : (oneEvidence staleOrder).Shows ⟨[], [], [staleOrder], []⟩ ∧
    staleOrder.Within 10800 (staleRow.createdAt - windowMargin) (1000000 * second) ∧
    normalizeSymbol staleOrder.symbol = normalizeSymbol (staleRow.symbol.getD "") ∧
    ∃ f, inspectIntent "k1" .missing staleSettings staleSession (oneEvidence staleOrder) staleWorld.store
      (1000000 * second) = .ok f ∧ f.recommendation = .rejected := by
  have hoffset : serverOffset (some (1000000 + 10800 - 3600)) (1000000 * second) = some 7200 := by decide
  have hmissed : 1000000 * second + 7200 * second < staleOrder.time * second := by decide
  obtain ⟨f, hf, hrejected⟩ := oneEvidence_rejected "k1" staleRow staleOrder (.inr hmissed)
  exact ⟨oneEvidence_shows _, ⟨by decide, by decide⟩, by decide +kernel, f,
    (inspectIntent_opens stale_opens rfl hoffset _).trans hf, hrejected⟩

end Stale

end Jqe
