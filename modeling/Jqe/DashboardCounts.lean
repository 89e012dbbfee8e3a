import Jqe.DashboardPaper
import Mathlib.Data.List.Nodup
/-!
# DashboardCounts — when the day's counters are right

The rows are what happened, the closed ones with their last word only (`DashboardInv`); so a close takes a position out of
the count of the day it was opened on, and nothing else does.
-/
namespace Jqe

open AwareTime List

def PaperRecord.payload (r : PaperRecord) : PaperOutcome :=
  match r.close with
  | some c => r.outcome.closedBy c
  | none => r.outcome

def PaperRecord.row (r : PaperRecord) : PaperOutcomeRow :=
  { outcomeRow r.setup r.outcome with
    status := r.payload.status
    payload := r.payload
    recordedAt := r.payload.recordedAt }

structure DashboardInv (s : DashboardState) : Prop where
  rows : s.rows = s.records.map PaperRecord.row
  setups : (s.records.map fun r => r.setup.setupId).Nodup
  closed : ∀ r ∈ s.records, r.close ≠ none → r.outcome.status = .opened

theorem getOutcome_map (records : List PaperRecord) (setupId : String) :
    getOutcome (records.map PaperRecord.row) setupId
      = (records.find? fun r => r.setup.setupId = setupId).map PaperRecord.payload := by
  unfold getOutcome
  rw [find?_map, Option.map_map]
  rfl

theorem mem_of_setup {records : List PaperRecord} (hnodup : (records.map fun r => r.setup.setupId).Nodup)
    {setupId : String} {found r : PaperRecord} (hfound : records.find? (fun r => r.setup.setupId = setupId) = some found)
    (hr : r ∈ records) (hsetup : r.setup.setupId = setupId) : r = found := by
  have hfoundId : found.setup.setupId = setupId := by simpa using find?_some hfound
  exact inj_on_of_nodup_map hnodup hr (mem_of_find?_eq_some hfound) (hsetup.trans hfoundId.symm)

theorem recordClose_ok {records : List PaperRecord} (hnodup : (records.map fun r => r.setup.setupId).Nodup)
    {setupId : String} {c : DashboardClose} {rows : List PaperOutcomeRow} {outcome : PaperOutcome}
    (h : recordClose (records.map PaperRecord.row) setupId c = .ok (rows, outcome)) :
    ∃ found, records.find? (fun r => r.setup.setupId = setupId) = some found ∧
      ((found.payload.status = .closed ∧ rows = records.map PaperRecord.row) ∨
        (found.payload.status = .opened ∧ rows = records.map fun r =>
          if r.setup.setupId = setupId then
            { r.row with status := .closed, payload := found.payload.closedBy c, recordedAt := c.recordedAt }
          else r.row)) := by
  unfold recordClose at h
  rw [getOutcome_map] at h
  cases hfound : records.find? (fun r => r.setup.setupId = setupId) with
  | none =>
    rw [hfound] at h
    cases h
  | some found =>
    rw [hfound] at h
    dsimp only [Option.map_some] at h
    refine ⟨found, rfl, ?_⟩
    split at h
    · rename_i hclosed
      cases h
      exact .inl ⟨hclosed, rfl⟩
    · split at h
      · cases h
      · rename_i hopened
        rw [not_not] at hopened
        refine .inr ⟨hopened, ?_⟩
        have hupdated : ((records.map PaperRecord.row).map fun r =>
            if r.setupId = setupId ∧ r.status = .opened then
              { r with status := .closed, payload := found.payload.closedBy c, recordedAt := c.recordedAt }
            else r) = records.map fun r =>
              if r.setup.setupId = setupId then
                { r.row with status := .closed, payload := found.payload.closedBy c, recordedAt := c.recordedAt }
              else r.row := by
          rw [map_map]
          refine map_congr_left fun r hr => ?_
          by_cases hsetup : r.setup.setupId = setupId
          · have hstatus : r.row.status = .opened := by
              rw [mem_of_setup hnodup hfound hr hsetup]
              exact hopened
            have hrow : r.row.setupId = setupId := hsetup
            rw [Function.comp_apply, if_pos ⟨hrow, hstatus⟩, if_pos hsetup]
          · have hrow : ¬r.row.setupId = setupId := hsetup
            rw [Function.comp_apply, if_neg (fun hboth => hrow hboth.1), if_neg hsetup]
        rw [hupdated] at h
        split at h
        · cases h
          rfl
        · split at h
          · split at h
            · cases h
              rfl
            · cases h
          · cases h

namespace DashboardInv

theorem call {s : DashboardState} (h : DashboardInv s) (c : DashboardCall) : DashboardInv (s.call c) := by
  cases c with
  | recordOutcome setup o =>
    cases hrows : recordOutcome s.rows setup o with
    | error _ =>
      simp only [DashboardState.call, hrows]
      exact h
    | ok rows =>
      simp only [DashboardState.call, hrows]
      unfold recordOutcome at hrows
      split at hrows
      · cases hrows
      split at hrows
      · cases hrows
      rename_i hsetup
      cases hrows
      constructor
      · show s.rows ++ [_] = (s.records ++ [_]).map PaperRecord.row
        rw [h.rows, map_append]
        rfl
      · show ((s.records ++ [_]).map fun r : PaperRecord => r.setup.setupId).Nodup
        rw [map_append]
        refine h.setups.append (nodup_singleton _) (disjoint_singleton.2 fun hmem => hsetup ?_)
        obtain ⟨r, hr, hid⟩ := mem_map.1 hmem
        exact ⟨r.row, by rw [h.rows]; exact mem_map_of_mem hr, hid⟩
      · intro r hr hclose
        rcases mem_append.1 hr with hr | hr
        · exact h.closed r hr hclose
        · rw [mem_singleton.1 hr] at hclose
          exact absurd rfl hclose
  | recordClose setupId c =>
    cases hclose : recordClose s.rows setupId c with
    | error _ =>
      simp only [DashboardState.call, hclose]
      exact h
    | ok result =>
      obtain ⟨rows, outcome⟩ := result
      simp only [DashboardState.call, hclose]
      rw [h.rows] at hclose
      obtain ⟨found, hfound, hcases⟩ := recordClose_ok h.setups hclose
      have hstatus : (getOutcome s.rows setupId).map (·.status) = some found.payload.status := by
        rw [h.rows, getOutcome_map, hfound]
        rfl
      rw [hstatus]
      rcases hcases with ⟨hclosed, rfl⟩ | ⟨hopened, rfl⟩
      · rw [hclosed, if_neg (by decide)]
        exact ⟨rfl, h.setups, h.closed⟩
      · rw [hopened, if_pos rfl]
        -- the payload is open, so the setup had no close
        have hnone : found.close = none := by
          cases hc : found.close with
          | none => rfl
          | some c' =>
            unfold PaperRecord.payload at hopened
            rw [hc] at hopened
            cases hopened
        have hpayload : found.payload = found.outcome := by
          unfold PaperRecord.payload
          rw [hnone]
        rw [hpayload] at hopened ⊢
        constructor
        · show _ = (s.records.map _).map PaperRecord.row
          rw [map_map]
          refine map_congr_left fun r hr => ?_
          by_cases hsetup : r.setup.setupId = setupId
          · rw [Function.comp_apply, if_pos hsetup, if_pos hsetup, mem_of_setup h.setups hfound hr hsetup]
            rfl
          · rw [Function.comp_apply, if_neg hsetup, if_neg hsetup]
        · show ((s.records.map _).map fun r : PaperRecord => r.setup.setupId).Nodup
          rw [map_map]
          have hsame : s.records.map ((fun r : PaperRecord => r.setup.setupId) ∘ fun r =>
              if r.setup.setupId = setupId then { r with close := some c } else r)
              = s.records.map fun r => r.setup.setupId := by
            refine map_congr_left fun r _ => ?_
            rw [Function.comp_apply]
            split <;> rfl
          rw [hsame]
          exact h.setups
        · intro r hr hclosed
          obtain ⟨r', hr', rfl⟩ := mem_map.1 hr
          by_cases hsetup : r'.setup.setupId = setupId
          · rw [if_pos hsetup, mem_of_setup h.setups hfound hr' hsetup]
            exact hopened
          · rw [if_neg hsetup] at hclosed ⊢
            exact h.closed r' hr' hclosed

theorem run : ∀ (calls : List DashboardCall) {s : DashboardState}, DashboardInv s →
    DashboardInv (calls.foldl DashboardState.call s)
  | [], _, h => h
  | c :: cs, _, h => run cs (h.call c)

end DashboardInv

theorem countP_eq_iff {α : Type} {p q : α → Bool} : ∀ {l : List α}, (∀ x ∈ l, p x = true → q x = true) →
    (l.countP p ≤ l.countP q ∧ (l.countP p = l.countP q ↔ ∀ x ∈ l, q x = true → p x = true))
  | [], _ => by simp
  | x :: l, h => by
    obtain ⟨hle, hiff⟩ := countP_eq_iff fun y hy => h y (mem_cons_of_mem _ hy)
    have hhead := h x mem_cons_self
    rw [countP_cons, countP_cons, forall_mem_cons]
    by_cases hp : p x = true
    · rw [if_pos hp, if_pos (hhead hp), Nat.add_right_cancel_iff, hiff]
      exact ⟨by omega, fun hrest => ⟨fun _ => hp, hrest⟩, And.right⟩
    · by_cases hq : q x = true
      · rw [if_neg hp, if_pos hq]
        exact ⟨by omega, fun heq => by omega, fun hall => absurd (hall.1 hq) hp⟩
      · rw [if_neg hp, if_neg hq, Nat.add_zero, Nat.add_zero, hiff]
        exact ⟨hle, fun hrest => ⟨fun hqx => absurd hqx hq, hrest⟩, And.right⟩

section

variable [TimeZones]

/-- What counts of the record is at moments whose texts have their UTC dates. -/
structure PaperRecord.Dated (r : PaperRecord) : Prop where
  outcome : (DashboardCall.recordOutcome r.setup r.outcome).Dated
  close : ∀ c, r.close = some c → (DashboardCall.recordClose r.setup.setupId c).Dated

theorem dated_call {s : DashboardState} (h : ∀ r ∈ s.records, r.Dated) {c : DashboardCall} (hc : c.Dated) :
    ∀ r ∈ (s.call c).records, r.Dated := by
  cases c with
  | recordOutcome setup o =>
    cases hrows : recordOutcome s.rows setup o with
    | error _ =>
      simp only [DashboardState.call, hrows]
      exact h
    | ok rows =>
      simp only [DashboardState.call, hrows]
      intro r hr
      rcases mem_append.1 hr with hr | hr
      · exact h r hr
      · rw [mem_singleton.1 hr]
        exact ⟨hc, fun _ hnone => by cases hnone⟩
  | recordClose setupId c =>
    cases hclose : recordClose s.rows setupId c with
    | error _ =>
      simp only [DashboardState.call, hclose]
      exact h
    | ok result =>
      simp only [DashboardState.call, hclose]
      split
      · intro r hr
        obtain ⟨r', hr', rfl⟩ := mem_map.1 hr
        by_cases hsetup : r'.setup.setupId = setupId
        · rw [if_pos hsetup]
          exact ⟨(h r' hr').outcome, fun c' hc' => by cases hc'; exact hc⟩
        · rw [if_neg hsetup]
          exact h r' hr'
      · exact h

theorem dated_run : ∀ (calls : List DashboardCall) {s : DashboardState}, (∀ r ∈ s.records, r.Dated) →
    (∀ c ∈ calls, c.Dated) → ∀ r ∈ (calls.foldl DashboardState.call s).records, r.Dated
  | [], _, h, _ => h
  | c :: cs, _, h, hcalls =>
    dated_run cs (dated_call h (hcalls c mem_cons_self)) fun x hx => hcalls x (mem_cons_of_mem _ hx)

def PaperRecord.counted (r : PaperRecord) (day : ℤ) : Bool :=
  textDate r.payload.recordedAt = day && r.payload.status = .opened

def PaperRecord.added (r : PaperRecord) (day : ℤ) : ℚ :=
  if textDate r.payload.recordedAt = day then realizedLoss r.payload.realizedPnl else 0

theorem dailyCounts_map {records : List PaperRecord} {now : AwareDatetime} {counts : ℕ × ℚ}
    (h : dailyCounts (records.map PaperRecord.row) now = .ok counts) :
    counts = (records.countP (·.counted (utcDate now)), (records.map (·.added (utcDate now))).sum) := by
  unfold dailyCounts at h
  cases hutc : now.toUtc with
  | none =>
    rw [hutc] at h
    cases h
  | some utc =>
    rw [hutc] at h
    cases h
    have hday : textDate utc = utcDate now := congrArg (· / dayMicros) (AwareDatetime.toUtc_some hutc).2
    rw [hday]
    clear hutc hday
    induction records with
    | nil => rfl
    | cons r records ih =>
      obtain ⟨hcount, hsum⟩ := Prod.mk.inj ih
      by_cases htext : textDate r.row.recordedAt = utcDate now
      · have hpayload : textDate r.payload.recordedAt = utcDate now := htext
        rw [map_cons, filter_cons_of_pos (by simpa using htext), map_cons, countP_cons, map_cons,
          sum_cons, hcount, hsum, countP_cons, map_cons, sum_cons]
        unfold PaperRecord.counted PaperRecord.added
        simp only [hpayload, decide_true, Bool.true_and, if_true]
        rfl
      · have hpayload : ¬textDate r.payload.recordedAt = utcDate now := htext
        rw [map_cons, filter_cons_of_neg (by simpa using htext), hcount, hsum, countP_cons, map_cons,
          sum_cons]
        unfold PaperRecord.counted PaperRecord.added
        simp only [hpayload, decide_false, Bool.false_and, if_false]
        simp

/-- **An open position counts for the day it was opened on; closed, it no longer does.** -/
theorem counted_iff {r : PaperRecord} (hdated : r.Dated) (day : ℤ) :
    r.counted day = true ↔ r.OpenedOn day ∧ r.close = none := by
  unfold PaperRecord.counted PaperRecord.OpenedOn PaperRecord.payload
  cases hclose : r.close with
  | some c => simp [PaperOutcome.closedBy]
  | none =>
    simp only [Bool.and_eq_true, decide_eq_true_eq, and_true]
    constructor
    · rintro ⟨htext, hopened⟩
      exact ⟨hopened, (hdated.outcome (.inl hopened)).symm.trans htext⟩
    · rintro ⟨hopened, hutc⟩
      exact ⟨(hdated.outcome (.inl hopened)).trans hutc, hopened⟩

theorem realizedLoss_at {d : AwareDatetime} {pnl : Option ℚ} (h : realizedLoss pnl ≠ 0 → textDate d = utcDate d) (day : ℤ) :
    (if textDate d = day then realizedLoss pnl else 0) = if utcDate d = day then realizedLoss pnl else 0 := by
  by_cases hzero : realizedLoss pnl = 0
  · rw [hzero, ite_self, ite_self]
  · rw [h hzero]

theorem added_eq {r : PaperRecord} (hdated : r.Dated) (hclosed : r.close ≠ none → r.outcome.status = .opened) {day : ℤ}
    (hopen : r.OpenedOn day → r.close = none) : r.added day = r.lostOn day := by
  unfold PaperRecord.added PaperRecord.lostOn PaperRecord.payload
  cases hclose : r.close with
  | none =>
    rw [realizedLoss_at fun hloss => hdated.outcome (.inr hloss)]
    exact (add_zero _).symm
  | some c =>
    have hother : ¬utcDate r.outcome.recordedAt = day := by
      intro hday
      have hnone := hopen ⟨hclosed (by rw [hclose]; exact Option.some_ne_none c), hday⟩
      rw [hclose] at hnone
      cases hnone
    have hloss : realizedLoss (some c.realizedPnl) ≠ 0 → textDate c.recordedAt = utcDate c.recordedAt := by
      intro hloss
      refine hdated.close c hclose (not_le.1 fun hle => hloss ?_)
      exact if_neg (not_lt.2 hle)
    show (if textDate c.recordedAt = day then realizedLoss (some c.realizedPnl) else 0) = _
    rw [realizedLoss_at hloss, if_neg hother, zero_add]

/-- **The day's counters are right exactly while no position opened on the day has been closed**, in every run that
records at moments whose texts have their UTC dates. -/
theorem dailyCounts_iff (calls : List DashboardCall) (hdated : ∀ c ∈ calls, c.Dated) (now : AwareDatetime)
    (counts : ℕ × ℚ) (h : dailyCounts (dashboardRun calls).rows now = .ok counts) :
    counts = (openedOn (dashboardRun calls).records (utcDate now), lostOn (dashboardRun calls).records (utcDate now)) ↔
      ∀ r ∈ (dashboardRun calls).records, r.OpenedOn (utcDate now) → r.close = none := by
  have hempty : DashboardInv ⟨[], []⟩ := ⟨rfl, List.nodup_nil, fun _ hr => absurd hr List.not_mem_nil⟩
  have hinv : DashboardInv (dashboardRun calls) := hempty.run calls
  have hrecords : ∀ r ∈ (dashboardRun calls).records, r.Dated :=
    dated_run calls (fun _ hr => absurd hr List.not_mem_nil) hdated
  rw [hinv.rows] at h
  rw [dailyCounts_map h, Prod.mk.injEq]
  have hcount := (countP_eq_iff (p := fun r : PaperRecord => r.counted (utcDate now))
    (q := fun r => decide (r.OpenedOn (utcDate now))) (l := (dashboardRun calls).records) fun r hr hcounted =>
      decide_eq_true ((counted_iff (hrecords r hr) _).1 hcounted).1).2
  have hopen : (∀ r ∈ (dashboardRun calls).records, decide (r.OpenedOn (utcDate now)) = true →
      r.counted (utcDate now) = true) ↔
      ∀ r ∈ (dashboardRun calls).records, r.OpenedOn (utcDate now) → r.close = none := by
    refine forall₂_congr fun r hr => ?_
    rw [decide_eq_true_eq, counted_iff (hrecords r hr)]
    exact ⟨fun hall hopened => (hall hopened).2, fun hall hopened => ⟨hopened, hall hopened⟩⟩
  constructor
  · rintro ⟨heq, -⟩
    exact hopen.1 (hcount.1 heq)
  · intro hall
    refine ⟨hcount.2 (hopen.2 hall), ?_⟩
    exact congrArg List.sum (List.map_congr_left fun r hr =>
      added_eq (hrecords r hr) (hinv.closed r hr) (hall r hr))

end

/-! ### One position -/

def noon : AwareDatetime := AwareDatetime.ofUtc (739000 * 86400000000 + 43200000000) (by unfold maxWall; omega)

def openedOutcome : PaperOutcome where
  outcomeId := "paper-1"
  setupId := "1"
  recordedAt := noon
  status := .opened
  setupState := .executed
  message := ""

def openCall : DashboardCall := .recordOutcome ⟨"1", "PAINX1200", "BUY"⟩ openedOutcome

def lossCall : DashboardCall := .recordClose "1" ⟨-5, "STOP_LOSS", noon, ""⟩

theorem dailyCounts_iff_open : @dailyCounts fixedZones (dashboardRun [openCall]).rows noon = .ok (1, 0) ∧
    (((1, 0) : ℕ × ℚ) = (@openedOn fixedZones (dashboardRun [openCall]).records (@utcDate fixedZones noon),
      @lostOn fixedZones (dashboardRun [openCall]).records (@utcDate fixedZones noon)) ↔
      ∀ r ∈ (dashboardRun [openCall]).records, @PaperRecord.OpenedOn fixedZones r (@utcDate fixedZones noon) →
        r.close = none) := by
  have hcounts : @dailyCounts fixedZones (dashboardRun [openCall]).rows noon = .ok (1, 0) := by decide +kernel
  refine ⟨hcounts, @dailyCounts_iff fixedZones [openCall] (fun c hc => ?_) noon (1, 0) hcounts⟩
  rw [List.mem_singleton.1 hc]
  exact fun _ => by decide

/-- Its close takes the position out of the day's count. -/
theorem dailyCounts_closed : ¬∀ (calls : List DashboardCall) (now : AwareDatetime) (counts : ℕ × ℚ),
    @dailyCounts fixedZones (dashboardRun calls).rows now = .ok counts →
      counts = (@openedOn fixedZones (dashboardRun calls).records (@utcDate fixedZones now),
        @lostOn fixedZones (dashboardRun calls).records (@utcDate fixedZones now)) := by
  intro h
  have hcounts : @dailyCounts fixedZones (dashboardRun [openCall, lossCall]).rows noon = .ok (0, 5) := by decide +kernel
  exact absurd (h [openCall, lossCall] noon (0, 5) hcounts) (by decide)

end Jqe
