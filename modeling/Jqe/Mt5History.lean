import Jqe.Mt5Terminal
import Jqe.PyText
/-!
# Mt5History — the closed deals of an account (`broker/mt5_gateway.py`)

`read_mt5_trade_history_snapshot` with its evidence of coverage.  Moments are whole seconds.
-/
namespace Jqe

open List

/-- `x + y`: opposite infinities make a NaN. -/
def PyFloat.add : PyFloat → PyFloat → PyFloat
  | fin a, fin b => fin (a + b)
  | nan, _ | _, nan | posInf, negInf | negInf, posInf => nan
  | posInf, _ | _, posInf => posInf
  | negInf, _ | _, negInf => negInf

/-- The value the SDK gives `DEAL_ENTRY_IN`. -/
def dealEntryIn : Int := 0

def dealEntryOut : Int := 1

def dealEntryInout : Int := 2

/-- The value the SDK gives `DEAL_TYPE_BUY`. -/
def dealTypeBuy : Int := 0

/-- The values the SDK gives `DEAL_TYPE_COMMISSION`, `_INTEREST`, `_BALANCE`, `_CREDIT` and `_BONUS`. -/
def dealTypesNonTrade : List Int := [7, 12, 2, 3, 6]

/-- The value the SDK gives `DEAL_REASON_SL`. -/
def dealReasonSl : Int := 4

def dealReasonTp : Int := 5

/-- The values the SDK gives `DEAL_REASON_CLIENT`, `_MOBILE` and `_WEB`. -/
def dealReasonsManual : List Int := [0, 1, 2]

structure Mt5Deal where
  ticket : Int
  symbol : String
  type : Int
  entry : Int
  volume : PyFloat
  price : ℚ
  profit : ℚ
  commission : PyFloat
  swap : PyFloat
  time : Int
  positionId : Option Int
  reason : Option Int
  deriving DecidableEq

namespace Mt5Deal

def trade (d : Mt5Deal) : Bool := !dealTypesNonTrade.contains d.type

def closes (d : Mt5Deal) : Bool := [dealEntryOut, dealEntryInout].contains d.entry && d.trade

/-- `str(position_id)`, of an id that names a position. -/
def key? (d : Mt5Deal) : Option String := (d.positionId.filter (· ≠ 0)).map toString

end Mt5Deal

structure TradeHistoryEntry where
  tradeId : String
  symbol : String
  side : OrderSide
  volume : PyFloat
  openPrice : ℚ
  closePrice : ℚ
  profit : ℚ
  openedAt : Int
  closedAt : Int
  positionId : Option String
  closeReason : String
  deriving DecidableEq

inductive TradeHistoryCompleteness where
  | complete
  | truncated
  | unknown
  deriving DecidableEq

structure TradeHistorySnapshot where
  trades : List TradeHistoryEntry := []
  completeness : TradeHistoryCompleteness := .unknown
  coverageStart : Option Int := none
  coverageEnd : Option Int := none
  positionFees : List (String × ℚ) := []
  positionOpenVolume : List (String × ℚ) := []
  deriving DecidableEq

def TradeHistorySnapshot.covers (s : TradeHistorySnapshot) (start endAt : Int) : Bool :=
  s.completeness == .complete && s.coverageStart.any (· ≤ start) && s.coverageEnd.any (endAt ≤ ·)

structure HistoryTerminal where
  /-- `symbol_info_tick("FX Vol 20").time`, if it is an `int` -/
  tickTime : Sdk (Option Int)
  historyDealsGet : Int → Int → Sdk (Option (List Mt5Deal))

/-- `_history_server_offset`, of the tick's time: the one whole hour that explains it. -/
def historyServerOffset (tickTime : Option Int) (now : Int) : Option Int :=
  match tickTime with
  | none => none
  | some raw =>
    if raw ≤ 0 then none
    else match (((List.range 27).map fun h => ((h : Int) - 12) * 3600).filter fun o => |raw - o - now| ≤ 120) with
      | [o] => some o
      | _ => none

/-- `d[k] = d.get(k, 0.0) + x`. -/
def dictAdd (d : List (String × ℚ)) (k : String) (x : ℚ) : List (String × ℚ) :=
  dictSet d k ((d.lookup k).getD 0 + x)

/-- The charges and the opened volumes by position; `none` where one of them is no usable number. -/
def charges : List Mt5Deal → List (String × ℚ) → List (String × ℚ) → Option (List (String × ℚ) × List (String × ℚ))
  | [], fees, opened => some (fees, opened)
  | d :: deals, fees, opened =>
    match d.key? with
    | none => charges deals fees opened
    | some key =>
      match (d.commission.add d.swap).rat? with
      | none => none
      | some charge =>
        if d.entry = dealEntryIn ∧ d.trade = true then
          match d.volume.rat? with
          | none => none
          | some volume =>
            if volume ≤ 0 then none else charges deals (dictAdd fees key charge) (dictAdd opened key volume)
        else charges deals (dictAdd fees key charge) opened

/-- The commission and the swap of a deal, together. -/
def Mt5Deal.charge (d : Mt5Deal) : ℚ := ((d.commission.add d.swap).rat?).getD 0

def Mt5Deal.lots (d : Mt5Deal) : ℚ := d.volume.rat?.getD 0

def Mt5Deal.opens (id : String) (d : Mt5Deal) : Bool := d.key? == some id && d.entry == dealEntryIn && d.trade

theorem lookup_dictAdd (d : List (String × ℚ)) (k id : String) (x : ℚ) :
    ((dictAdd d k x).lookup id).getD 0 = (d.lookup id).getD 0 + if id = k then x else 0 := by
  unfold dictAdd
  rw [lookup_dictSet]
  by_cases h : id = k
  · rw [if_pos h, if_pos h, h]
    rfl
  · rw [if_neg h, if_neg h, add_zero]

/-- **The charges and the opened volume of a position are sums over its deals.** -/
theorem charges_sum (id : String) : ∀ (deals : List Mt5Deal) (fees opened fees' opened' : List (String × ℚ)),
    charges deals fees opened = some (fees', opened') →
      (fees'.lookup id).getD 0 =
          (fees.lookup id).getD 0 + ((deals.filter fun d => d.key? == some id).map (·.charge)).sum ∧
        (opened'.lookup id).getD 0 = (opened.lookup id).getD 0 + ((deals.filter (·.opens id)).map (·.lots)).sum := by
  intro deals
  induction deals with
  | nil =>
    intro fees opened fees' opened' h
    cases h
    exact ⟨(add_zero _).symm, (add_zero _).symm⟩
  | cons d deals ih =>
    intro fees opened fees' opened' h
    unfold charges at h
    split at h
    · rename_i hkey
      have hskip : (d.key? == some id) = false ∧ d.opens id = false := by
        unfold Mt5Deal.opens
        rw [hkey]
        exact ⟨rfl, rfl⟩
      rw [filter_cons_of_neg (by rw [hskip.1]; decide), filter_cons_of_neg (by rw [hskip.2]; decide)]
      exact ih _ _ _ _ h
    · rename_i key hkey
      split at h
      · cases h
      · rename_i charge hcharge
        have hfee : d.charge = charge := by
          unfold Mt5Deal.charge
          rw [hcharge]
          rfl
        have hfees : ((dictAdd fees key charge).lookup id).getD 0 + ((deals.filter fun d => d.key? == some id).map (·.charge)).sum =
            (fees.lookup id).getD 0 + (((d :: deals).filter fun d => d.key? == some id).map (·.charge)).sum := by
          rw [lookup_dictAdd]
          by_cases hid : id = key
          · rw [if_pos hid, filter_cons_of_pos (by rw [hkey, hid]; exact beq_self_eq_true _), map_cons,
              sum_cons, hfee, add_assoc]
          · rw [if_neg hid, add_zero, filter_cons_of_neg (by rw [hkey]; simpa using fun h => hid h.symm)]
        by_cases hopens : d.entry = dealEntryIn ∧ d.trade = true
        · rw [if_pos hopens] at h
          split at h
          · cases h
          · rename_i volume hvolume
            split at h
            · cases h
            · have hlots : d.lots = volume := by
                unfold Mt5Deal.lots
                rw [hvolume]
                rfl
              obtain ⟨hf, ho⟩ := ih _ _ _ _ h
              refine ⟨hf.trans hfees, ho.trans ?_⟩
              rw [lookup_dictAdd]
              by_cases hid : id = key
              · rw [if_pos hid, filter_cons_of_pos (by simp [Mt5Deal.opens, hkey, hid, hopens]), map_cons,
                  sum_cons, hlots, add_assoc]
              · rw [if_neg hid, add_zero, filter_cons_of_neg (by simp [Mt5Deal.opens, hkey, Ne.symm hid])]
        · rw [if_neg hopens] at h
          obtain ⟨hf, ho⟩ := ih _ _ _ _ h
          have hskip : d.opens id = false := by
            unfold Mt5Deal.opens
            rw [Bool.and_assoc, Bool.and_eq_false_iff]
            refine .inr ?_
            rw [Bool.and_eq_false_iff]
            rw [not_and_or] at hopens
            simpa using hopens
          refine ⟨hf.trans hfees, ho.trans ?_⟩
          rw [filter_cons_of_neg (by rw [hskip]; decide)]

def closeReason (reason : Option Int) : String :=
  if reason = some dealReasonSl then "STOP_LOSS"
  else if reason = some dealReasonTp then "TAKE_PROFIT"
  else if reason.any dealReasonsManual.contains then "MANUAL"
  else "UNKNOWN"

def Mt5Deal.toEntry (offset : Int) (d : Mt5Deal) : TradeHistoryEntry where
  tradeId := toString d.ticket
  symbol := d.symbol
  side := if d.type = dealTypeBuy then .sell else .buy
  volume := d.volume
  openPrice := d.price
  closePrice := d.price
  profit := d.profit
  openedAt := d.time - offset
  closedAt := d.time - offset
  positionId := d.positionId.map toString
  closeReason := closeReason d.reason

def serverDayStart (now offset : Int) : Int := utcDay (now + offset) * daySeconds - offset

def snapshotOf (deals : List Mt5Deal) (offset queryStart queryEnd : Int) (count : Nat) : TradeHistorySnapshot :=
  let closed := deals.filter (·.closes)
  if count < closed.length then { completeness := .truncated }
  else match charges deals [] [] with
    | none => {}
    | some (fees, opened) =>
      { trades := closed.map (·.toEntry offset), completeness := .complete, coverageStart := some queryStart
        coverageEnd := some queryEnd, positionFees := fees, positionOpenVolume := opened }

def readHistory (t : HistoryTerminal) (start endAt now : Int) (count : Nat) : Sdk TradeHistorySnapshot := do
  if now < endAt then return {}
  else
    let tickTime ← t.tickTime
    match historyServerOffset tickTime now with
    | none => return {}
    | some offset =>
      let queryStart := min start (serverDayStart now offset)
      let queryEnd := max endAt now
      match ← t.historyDealsGet (queryStart + offset) (queryEnd + offset) with
      | none => return {}
      | some deals => return snapshotOf deals offset queryStart queryEnd count

def readMt5TradeHistorySnapshot (t : HistoryTerminal) (connected : Bool) (start endAt now : Int) (count : Nat) :
    Except PyExc TradeHistorySnapshot :=
  if !connected || count == 0 || endAt ≤ start then .ok {}
  else match readHistory t start endAt now count with
    | .ok snapshot => .ok snapshot
    | .error e => if e.toPyExc.isException then .ok {} else .error e.toPyExc

theorem snapshot_complete {t : HistoryTerminal} {connected : Bool} {start endAt now : Int} {count : Nat}
    {s : TradeHistorySnapshot} (h : readMt5TradeHistorySnapshot t connected start endAt now count = .ok s)
    (hc : s.completeness = .complete) : ∃ offset deals tick, endAt ≤ now ∧
      t.tickTime = .ok tick ∧ historyServerOffset tick now = some offset ∧
      t.historyDealsGet (min start (serverDayStart now offset) + offset) (max endAt now + offset) = .ok (some deals) ∧
      s.trades = (deals.filter (·.closes)).map (·.toEntry offset) ∧
      charges deals [] [] = some (s.positionFees, s.positionOpenVolume) := by
  unfold readMt5TradeHistorySnapshot at h
  split at h
  · cases h
    cases hc
  · split at h
    · rename_i snapshot hread
      cases h
      unfold readHistory at hread
      split at hread
      · cases hread
        cases hc
      · rename_i hnow
        obtain ⟨tick, htick, hread⟩ := bind_ok hread
        split at hread
        · cases hread
          cases hc
        · rename_i offset hoffset
          obtain ⟨answer, hanswer, hread⟩ := bind_ok hread
          split at hread
          · cases hread
            cases hc
          · rename_i deals
            refine ⟨offset, deals, tick, by omega, htick, hoffset, hanswer, ?_⟩
            cases hread
            unfold snapshotOf at hc ⊢
            dsimp only at hc ⊢
            split at hc
            · cases hc
            · rename_i hcount
              rw [if_neg hcount]
              split at hc
              · cases hc
              · rename_i fees opened hcharges
                exact ⟨rfl, hcharges⟩
    · split at h
      · cases h
        cases hc
      · cases h

end Jqe
