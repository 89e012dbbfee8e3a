import Jqe.MainSystem
import Mathlib.Data.List.Dedup
/-!
# DailyLoss — the daily loss that `main.run` hands to the policy

`reconcile_daily_history` adds up the closing deals of the UTC day that lost, one deal at a time.  The commissions and the
swaps stay in `position_fees`, which it does not read, and closes by an opposite position are not in the snapshot.
-/
namespace Jqe
namespace DailyLoss

open List

/-! ### Sums by key -/

section

variable {α κ : Type} [DecidableEq κ]

theorem sum_ite_key {ks : List κ} {k : κ} (hn : ks.Nodup) (hk : k ∈ ks) (x : ℚ) :
    (ks.map fun k' => if k = k' then x else 0).sum = x := by
  induction ks with
  | nil => cases hk
  | cons k' ks ih =>
    obtain ⟨hnew, hn⟩ := nodup_cons.1 hn
    rw [map_cons, sum_cons]
    by_cases hkk : k = k'
    · have hrest : (ks.map fun k' => if k = k' then x else 0) = ks.map fun _ => 0 := by
        refine map_congr_left fun a ha => if_neg ?_
        rintro rfl
        exact hnew (hkk ▸ ha)
      rw [if_pos hkk, hrest, sum_map_zero, add_zero]
    · rw [if_neg hkk, zero_add]
      exact ih hn ((mem_cons.1 hk).resolve_left hkk)

/-- **A sum over a list is the sum over the keys of its members, and over the members without one.** -/
theorem sum_by_key (key : α → Option κ) (f : α → ℚ) {ks : List κ} (hn : ks.Nodup) : ∀ l : List α,
    (∀ a ∈ l, ∀ k, key a = some k → k ∈ ks) → (l.map f).sum =
      (ks.map fun k => ((l.filter fun a => key a == some k).map f).sum).sum + ((l.filter fun a => key a == none).map f).sum
  | [], _ => by
    rw [filter_nil, map_nil, sum_nil, add_zero]
    exact sum_map_zero.symm
  | a :: l, h => by
    have ih := sum_by_key key f hn l fun b hb => h b (mem_cons_of_mem a hb)
    rw [map_cons, sum_cons, ih]
    cases hkey : key a with
    | none =>
      have hothers : ∀ k, (a :: l).filter (fun b => key b == some k) = l.filter fun b => key b == some k := fun k => by
        rw [filter_cons_of_neg (by rw [hkey]; exact Bool.false_ne_true)]
      rw [filter_cons_of_pos (by rw [hkey]; rfl), map_cons, sum_cons]
      simp only [hothers]
      exact add_left_comm _ _ _
    | some k =>
      have hothers : ∀ k', (((a :: l).filter fun b => key b == some k').map f).sum =
          (if k = k' then f a else 0) + ((l.filter fun b => key b == some k').map f).sum := by
        intro k'
        by_cases hk : k = k'
        · subst hk
          rw [if_pos rfl, filter_cons_of_pos (by rw [hkey]; exact beq_self_eq_true _), map_cons, sum_cons]
        · rw [if_neg hk, zero_add, filter_cons_of_neg (by rw [hkey]; simpa using hk)]
      rw [filter_cons_of_neg (by rw [hkey]; exact Bool.false_ne_true)]
      simp only [hothers]
      rw [sum_map_add, sum_ite_key hn (h a mem_cons_self k hkey), add_assoc]

end

/-! ### The deals of a day -/

/-- A close by an opposite position: 3 is the value the SDK gives `DEAL_ENTRY_OUT_BY`. -/
def closesBy (d : Mt5Deal) : Bool := d.entry == 3 && d.trade

section

variable (deals : List Mt5Deal) (offset day : ℤ)

/-- The closing deals of a UTC day, of a server that is an offset ahead. -/
def closings : List Mt5Deal := deals.filter fun d => (d.closes || closesBy d) && utcDay (d.time - offset) == day

def closedPositions : List String := ((closings deals offset day).filterMap (·.key?)).dedup

def closingProfit (id : String) : ℚ := (((closings deals offset day).filter (·.key? == some id)).map (·.profit)).sum

/-- The commissions and the swaps of a position on the day. -/
def dayCharges (id : String) : ℚ :=
  ((deals.filter fun d => d.key? == some id && utcDay (d.time - offset) == day).map (·.charge)).sum

/-- **The net realized loss of a day**: what each position that had a closing deal lost, with its charges. -/
def netRealizedLoss : ℚ :=
  ((closedPositions deals offset day).map fun id =>
    max 0 (-(closingProfit deals offset day id + dayCharges deals offset day id))).sum

def gains (id : String) : ℚ :=
  (((closings deals offset day).filter (·.key? == some id)).map fun d => max 0 d.profit).sum

def losses (id : String) : ℚ :=
  (((closings deals offset day).filter (·.key? == some id)).map fun d => max 0 (-d.profit)).sum

/-- The losing closing deals that name no position. -/
def looseLosses : ℚ := (((closings deals offset day).filter (·.key? == none)).map fun d => max 0 (-d.profit)).sum

/-- The losses among the closing deals that satisfy a test. -/
def lossWhere (p : Mt5Deal → Bool) : ℚ :=
  ((deals.filter fun d => p d && utcDay (d.time - offset) == day).map fun d => max 0 (-d.profit)).sum

/-- **The charges beyond the gains of their own position**, and the losses closed by an opposite position, are at most what
gains, less the charges, make up for among the losses of theirs, and the losses without a position. -/
def ChargesCovered : Prop :=
  ((closedPositions deals offset day).map fun id => max 0 (-(gains deals offset day id + dayCharges deals offset day id))).sum +
      lossWhere deals offset day closesBy ≤
    ((closedPositions deals offset day).map fun id =>
      min (losses deals offset day id) (max 0 (gains deals offset day id + dayCharges deals offset day id))).sum +
        looseLosses deals offset day

instance : Decidable (ChargesCovered deals offset day) := by unfold ChargesCovered; infer_instance

/-- The losing closing deals that the snapshot shows, one at a time. -/
def grossLoss : ℚ := lossWhere deals offset day Mt5Deal.closes

variable {deals offset day}

theorem losses_nonneg (id : String) : 0 ≤ losses deals offset day id := by
  refine sum_nonneg fun x hx => ?_
  obtain ⟨d, -, rfl⟩ := mem_map.1 hx
  exact le_max_left 0 _

theorem closingProfit_eq (id : String) :
    closingProfit deals offset day id = gains deals offset day id - losses deals offset day id := by
  unfold closingProfit gains losses
  induction (closings deals offset day).filter (·.key? == some id) with
  | nil => exact (sub_zero _).symm
  | cons d ds ih =>
    simp only [map_cons, sum_cons]
    rw [ih]
    rcases le_total 0 d.profit with h | h
    · rw [max_eq_right h, max_eq_left (by linarith)]
      ring
    · rw [max_eq_left h, max_eq_right (by linarith)]
      ring

theorem net_of_position {gross : ℚ} (rest : ℚ) (h : 0 ≤ gross) :
    max 0 (gross - rest) = gross - min gross (max 0 rest) + max 0 (-rest) := by
  rcases le_total 0 rest with hr | hr
  · rw [max_eq_right hr, max_eq_left (by linarith : -rest ≤ 0)]
    rcases le_total gross rest with hg | hg
    · rw [min_eq_left hg, max_eq_left (by linarith)]
      ring
    · rw [min_eq_right hg, max_eq_right (by linarith)]
      ring
  · rw [max_eq_left hr, max_eq_right (by linarith : (0 : ℚ) ≤ -rest), min_eq_right h, max_eq_right (by linarith)]
    ring

theorem closes_or_by (d : Mt5Deal) : (d.closes = true ∧ closesBy d = false) ∨ d.closes = false := by
  unfold Mt5Deal.closes closesBy
  by_cases h : d.entry = 3
  · rw [h]
    exact .inr rfl
  · cases hentry : [dealEntryOut, dealEntryInout].contains d.entry && d.trade
    · exact .inr rfl
    · exact .inl ⟨rfl, by simp [h]⟩

theorem lossWhere_closing : lossWhere deals offset day (fun d => d.closes || closesBy d) =
    grossLoss deals offset day + lossWhere deals offset day closesBy := by
  unfold grossLoss lossWhere
  induction deals with
  | nil => exact (add_zero _).symm
  | cons d ds ih =>
    simp only [filter_cons]
    cases utcDay (d.time - offset) == day with
    | false => simpa only [Bool.and_false, Bool.false_eq_true, if_false] using ih
    | true =>
      rcases closes_or_by d with ⟨hc, hb⟩ | hc
      · simp [hc, hb, ih, add_assoc]
      · cases hb : closesBy d <;> simp [hc, ih, add_left_comm]

theorem grossLoss_eq : grossLoss deals offset day + lossWhere deals offset day closesBy =
    ((closedPositions deals offset day).map (losses deals offset day)).sum + looseLosses deals offset day := by
  rw [← lossWhere_closing]
  refine sum_by_key Mt5Deal.key? _ (nodup_dedup _) _ fun d hd id hid => ?_
  exact mem_dedup.2 (mem_filterMap.2 ⟨d, hd, hid⟩)

theorem netRealizedLoss_eq : netRealizedLoss deals offset day =
    ((closedPositions deals offset day).map (losses deals offset day)).sum -
      ((closedPositions deals offset day).map fun id =>
        min (losses deals offset day id) (max 0 (gains deals offset day id + dayCharges deals offset day id))).sum +
      ((closedPositions deals offset day).map fun id =>
        max 0 (-(gains deals offset day id + dayCharges deals offset day id))).sum := by
  unfold netRealizedLoss
  induction closedPositions deals offset day with
  | nil => simp only [map_nil, sum_nil, sub_zero, add_zero]
  | cons id ids ih =>
    simp only [map_cons, sum_cons]
    rw [ih, closingProfit_eq]
    have hnet := net_of_position (gains deals offset day id + dayCharges deals offset day id)
      (losses_nonneg id : 0 ≤ losses deals offset day id)
    have hsame : -(gains deals offset day id - losses deals offset day id + dayCharges deals offset day id) =
        losses deals offset day id - (gains deals offset day id + dayCharges deals offset day id) := by ring
    rw [hsame, hnet]
    ring

/-- **The losing deals make up for the net losses exactly where the charges are covered.** -/
theorem net_le_gross_iff :
    netRealizedLoss deals offset day ≤ grossLoss deals offset day ↔ ChargesCovered deals offset day := by
  have hgross := @grossLoss_eq deals offset day
  unfold ChargesCovered
  rw [netRealizedLoss_eq]
  constructor <;> intro h <;> linarith

end

theorem lossPercent_eq (closed : List Mt5Deal) (offset : ℤ) {balance : ℚ} (hbalance : 0 < balance) :
    lossPercent (closed.map (·.toEntry offset)) balance = some (100 * (closed.map fun d => max 0 (-d.profit)).sum / balance) := by
  unfold lossPercent
  dsimp only
  rw [if_neg fun hzero => hbalance.ne' hzero.1]
  refine congrArg some ?_
  induction closed with
  | nil => simp only [map_nil, filter_nil, sum_nil, mul_zero, zero_div]
  | cons d closed ih =>
    have hprofit : (d.toEntry offset).profit = d.profit := rfl
    simp only [map_cons, sum_cons, hprofit]
    rw [mul_add, add_div, ← ih]
    rcases lt_or_ge d.profit 0 with hloss | hwin
    · rw [filter_cons_of_pos (by simpa using hloss), map_cons, sum_cons, max_eq_right (by linarith : 0 ≤ -d.profit),
        abs_of_neg hloss, max_eq_right (by have := div_pos (neg_pos.2 hloss) hbalance; linarith)]
      ring
    · rw [filter_cons_of_neg (by simpa using hwin), max_eq_left (by linarith : -d.profit ≤ 0), mul_zero, zero_div, zero_add]

theorem closedToday_eq (deals : List Mt5Deal) (offset today : ℤ) :
    closedToday ((deals.filter (·.closes)).map (·.toEntry offset)) today =
      (deals.filter fun d => d.closes && utcDay (d.time - offset) == utcDay today).map (·.toEntry offset) := by
  unfold closedToday
  rw [filter_map, filter_filter]
  refine congrArg _ (filter_congr fun d _ => ?_)
  exact Bool.and_comm _ _

/-! ### The context of the policy -/

/-- **What a refresh of the context reads**: the account, the deals of the terminal, and the clock at its three readings. -/
structure Readings where
  account : AccountInfo
  tick : Option ℤ
  deals : List Mt5Deal
  endAt : ℤ
  readAt : ℤ
  today : ℤ

namespace Readings

variable (x : Readings)

def terminal : HistoryTerminal := ⟨.ok x.tick, fun _ _ => .ok (some x.deals)⟩

def answer : List ℤ → (r : RunReq) → Except PyExc r.Ans × List ℤ
  | clock, .accountInfo => (.ok x.account, clock)
  | time :: clock, .now => (.ok time, clock)
  | clock, .history start endAt count => (readMt5TradeHistorySnapshot x.terminal true start endAt x.readAt count, clock)
  | clock, _ => (.error (.exception "not asked"), clock)

/-- **The context that a refresh hands to the policy.** -/
def handed (s : CycleSettings) (context : ExecutionContext) : Except PyExc (Option ExecutionContext) :=
  ((MainRun.refreshExecutionContext s context).run x.answer [x.endAt, x.today]).1

def offset : ℤ := (historyServerOffset x.tick x.readAt).getD 0

def day : ℤ := utcDay x.today

def netLossPercent : ℚ := 100 * netRealizedLoss x.deals x.offset x.day / x.account.balance

variable {x} {s : CycleSettings} {context : ExecutionContext}

theorem handed_run (s : CycleSettings) (context : ExecutionContext) : x.handed s context = (do
    let start := utcDay x.endAt * daySeconds
    let history ← readMt5TradeHistorySnapshot x.terminal true start x.endAt x.readAt 500
    let daily ← reconcileDailyHistory history.trades x.account.balance x.today
    return some (MainRun.withDaily s context ⟨x.account, daily, history.covers start x.endAt⟩)) := by
  unfold handed MainRun.refreshExecutionContext MainRun.readDaily MainRun.ask
  simp only [Coro.Prog.run_bind, Coro.Prog.run_perform, answer]
  cases readMt5TradeHistorySnapshot x.terminal true (utcDay x.endAt * daySeconds) x.endAt x.readAt 500 with
  | error e => rfl
  | ok history =>
    change _ = (do
      let daily ← reconcileDailyHistory history.trades x.account.balance x.today
      return some (MainRun.withDaily s context ⟨x.account, daily, history.covers (utcDay x.endAt * daySeconds) x.endAt⟩))
    dsimp only
    cases reconcileDailyHistory history.trades x.account.balance x.today <;> rfl

/-- **What a complete history hands over**: the losing deals of the day in percent of the balance. -/
theorem handed_eq {c : ExecutionContext} (h : x.handed s context = .ok (some c)) (hauth : c.dailyStateAuthoritative = true)
    (hbalance : 0 < x.account.balance) :
    c.dailyLossPercent = some (.fin (100 * grossLoss x.deals x.offset x.day / x.account.balance)) ∧
      c.maxDailyLossPercent = some (.fin s.engine.maxDailyLoss) := by
  rw [handed_run] at h
  obtain ⟨history, hread, h⟩ := bind_ok h
  obtain ⟨daily, hdaily, h⟩ := bind_ok h
  cases h
  have hcomplete : history.completeness = .complete := by
    have hcovers : history.covers (utcDay x.endAt * daySeconds) x.endAt = true := hauth
    unfold TradeHistorySnapshot.covers at hcovers
    simp only [Bool.and_eq_true, beq_iff_eq] at hcovers
    exact hcovers.1.1
  obtain ⟨offset, deals, tick, -, htick, hoffset, hdeals, htrades, -⟩ := snapshot_complete hread hcomplete
  cases htick
  cases hdeals
  have hsame : x.offset = offset := by
    unfold Readings.offset
    rw [hoffset]
    rfl
  unfold reconcileDailyHistory at hdaily
  rw [htrades, closedToday_eq, lossPercent_eq _ _ hbalance] at hdaily
  cases hdaily
  rw [hsame]
  exact ⟨rfl, rfl⟩

variable [CaseMap]

/-- **The gate counts the net losses of the day**: the daily loss is at least what they are of the balance, and the policy
refuses every intent once they reach the limit. -/
structure CountsLosses (x : Readings) (s : CycleSettings) (c : ExecutionContext) : Prop where
  atLeast : ∃ loss, c.dailyLossPercent = some (.fin loss) ∧ x.netLossPercent ≤ loss
  refused : s.engine.maxDailyLoss ≤ x.netLossPercent → ∀ intent, (ExecutionPolicy.evaluate intent (some c)).allowed = false

theorem refused_of_loss {intent : ExecutionIntent} {c : ExecutionContext} {loss limit : ℚ}
    (hloss : c.dailyLossPercent = some (.fin loss)) (hlimit : c.maxDailyLossPercent = some (.fin limit)) (h : limit ≤ loss) :
    (ExecutionPolicy.evaluate intent (some c)).allowed = false := by
  rw [← Bool.not_eq_true]
  intro hallowed
  obtain ⟨c', hc, hpassed⟩ := ExecutionPolicy.evaluate_allowed hallowed
  cases hc
  have hlimits := hpassed.limits
  unfold ExecutionPolicy.limitProblem at hlimits
  rw [hloss, hlimit] at hlimits
  split at hlimits
  · rename_i hl hm _ _ _ _
    cases hl
    cases hm
    rw [if_pos h] at hlimits
    cases hlimits
  · cases hlimits

/-- **The gate counts the net losses of the day exactly where the charges are covered.** -/
theorem countsLosses_iff {c : ExecutionContext} (h : x.handed s context = .ok (some c))
    (hauth : c.dailyStateAuthoritative = true) (hbalance : 0 < x.account.balance) :
    CountsLosses x s c ↔ ChargesCovered x.deals x.offset x.day := by
  obtain ⟨hloss, hlimit⟩ := handed_eq h hauth hbalance
  rw [← net_le_gross_iff]
  have hpercent : x.netLossPercent ≤ 100 * grossLoss x.deals x.offset x.day / x.account.balance ↔
      netRealizedLoss x.deals x.offset x.day ≤ grossLoss x.deals x.offset x.day := by
    unfold netLossPercent
    rw [div_le_div_iff_of_pos_right hbalance]
    constructor <;> intro h <;> linarith
  constructor
  · rintro ⟨⟨loss, hl, hle⟩, -⟩
    rw [hloss] at hl
    cases hl
    exact hpercent.1 hle
  · intro hle
    have hle := hpercent.2 hle
    exact ⟨⟨_, hloss, hle⟩, fun hreached intent => refused_of_loss hloss hlimit (hreached.trans hle)⟩

end Readings

/-! ### A loss that its charges make -/

local instance lossCase : CaseMap := asciiCase

def lossSettings : CycleSettings := sampleSettings "PAINX1200" 5 1

def chargedReadings : Readings where
  account := sampleAccount 1000
  tick := some 1767229200
  deals := [⟨1, "PAINX1200", 1, dealEntryOut, .fin 1, 100, -25, .fin (-6), .fin 0, 1767228000, some 1, none⟩]
  endAt := 1767229200
  readAt := 1767229200
  today := 1767229200

def coveredReadings : Readings :=
  { chargedReadings with
    deals := [⟨1, "PAINX1200", 1, dealEntryOut, .fin 1, 100, -25, .fin 0, .fin 0, 1767228000, some 1, none⟩,
      ⟨2, "GAINX1200", 0, dealEntryIn, .fin 1, 100, 0, .fin (-6), .fin 0, 1767228000, some 2, none⟩,
      ⟨3, "GAINX600", 1, 3, .fin 1, 100, 2, .fin (-1), .fin 0, 1767228000, some 3, none⟩] }

def lossContext : ExecutionContext :=
  MainRun.firstContext lossSettings ⟨sampleAccount 1000, ⟨5 / 2, 1⟩, true⟩ [] "key" none

theorem charged_handed : chargedReadings.handed lossSettings lossContext = .ok (some lossContext) := by
  rw [Readings.handed_run]
  decide +kernel

theorem covered_handed : coveredReadings.handed lossSettings lossContext = .ok (some lossContext) := by
  rw [Readings.handed_run]
  decide +kernel

/-- **The gate misses the charges**: with a limit of 3 percent, a net loss of 3.1 percent counts as 2.5. -/
theorem gate_misses_charges : ¬∀ (x : Readings) (s : CycleSettings) (context c : ExecutionContext),
    x.handed s context = .ok (some c) → c.dailyStateAuthoritative = true → 0 < x.account.balance →
      Readings.CountsLosses x s c := by
  intro h
  obtain ⟨loss, hloss, hle⟩ := (h _ _ _ _ charged_handed rfl (by decide +kernel)).atLeast
  cases hloss
  exact absurd hle (by decide +kernel)

theorem countsLosses_covered : Readings.CountsLosses coveredReadings lossSettings lossContext :=
  (Readings.countsLosses_iff covered_handed rfl (by decide +kernel)).2 (by decide +kernel)

end DailyLoss
end Jqe
