import Jqe.BacktestCausal
/-!
# ConfirmedEntry — the backtest whose entries wait for a candle that confirms them (`research/regime_diagnostics.py`)

`ConfirmedEntryBacktestEngine`, which queues, enters, exits and closes as the base engine does, and `run_variant_backtest`
over a dataset and any signals.  A signal of candle `i` is confirmed or rejected at `i + 1` and entered at `i + 2`.
-/
namespace Jqe

open Column Indicators

structure VariantConfiguration where
  base : BacktestConfiguration
  sellOnly : Bool
  requireConfirmation : Bool

structure ConfirmedEngine where
  base : BacktestEngine
  rejectedConfirmations : ℕ
  confirmedEntryIndex : Option ℕ

def LegacyRegime.text : LegacyRegime → String
  | trendUp => "TREND_UP"
  | trendDown => "TREND_DOWN"
  | range => "RANGE"
  | noTrade => "NO_TRADE"

def confirmationExpectedRegime : OrderSide → LegacyRegime
  | .buy => .trendUp
  | .sell => .trendDown

def confirmationRegimePasses (direction : OrderSide) (observed : LegacyRegime) : Bool :=
  observed = confirmationExpectedRegime direction

def regimeAt (candles : List BacktestCandle) (index : ℕ) : Except PyExc LegacyRegime :=
  detectRegime ((indicatorsOf candles).take (index + 1))

namespace ConfirmedEngine

def new (v : VariantConfiguration) : ConfirmedEngine := ⟨.new v.base, 0, none⟩

/-- The signal that `queue_signal` hands to the base engine. -/
def filtered (v : VariantConfiguration) (signal : BacktestSignal) : BacktestSignal :=
  if v.sellOnly ∧ signal.signal = some "BUY" then
    { signal with signal := some "NO_TRADE", reasons := signal.reasons ++ ["SELL_ONLY_RESEARCH_FILTER"] }
  else signal

section

variable (v : VariantConfiguration) (candles : List BacktestCandle)

def queueSignal (c : ConfirmedEngine) (signal : BacktestSignal) (index : ℕ) : Except PyExc ConfirmedEngine := do
  let base ← c.base.queueSignal v.base (backtestTable candles) (filtered v signal) index
  return { c with base }

/-- A decision of `process_candle` about the pending signal. -/
def confirmation (p : PendingSignal) (index : ℕ) (row : BacktestRow) (state reason : String) : BacktestDecision :=
  ⟨index, row.time, p.direction.value, p.confidence, state, [reason], none, none, none⟩

/-- The confirmation of the pending signal, or its rejection. -/
def confirm (c : ConfirmedEngine) (p : PendingSignal) (index : ℕ) (row : BacktestRow) : Except PyExc ConfirmedEngine :=
  if index < p.signalIndex + 1 then .ok c
  else do
    let regime ← regimeAt candles index
    if index = p.signalIndex + 1 ∧ confirmationRegimePasses p.direction regime then
      let decision := confirmation p index row "CONFIRMATION_PASSED"
        ("Confirmation candle regime " ++ regime.text ++ "; entry eligible at next candle open")
      return { c with
        confirmedEntryIndex := some (index + 1)
        base := { c.base with decisions := c.base.decisions ++ [decision] } }
    else
      let reason :=
        if index = p.signalIndex + 1 then
          "Confirmation candle regime " ++ regime.text ++ " failed " ++ (confirmationExpectedRegime p.direction).text ++
            " requirement"
        else "Pending confirmation expired before chronological evaluation"
      return {
        base := { c.base with
          pending := none
          decisions := c.base.decisions ++ [confirmation p index row "CONFIRMATION_REJECTED" reason] }
        rejectedConfirmations := c.rejectedConfirmations + 1
        confirmedEntryIndex := none }

/-- The entry of the confirmed signal, and what the candle does to the new position. -/
def enterConfirmed (c : ConfirmedEngine) (p : PendingSignal) (index : ℕ) (row : BacktestRow) : Except PyExc ConfirmedEngine := do
  let entered ← c.base.enter v.base p index row
  let base := { entered with pending := none }
  match base.position with
  | some q => do
    let base ← base.evaluateExit v.base (backtestTable candles) q index row
    return { c with base, confirmedEntryIndex := none }
  | none => return { c with base, confirmedEntryIndex := none }

def processCandle (c : ConfirmedEngine) (index : ℕ) : Except PyExc ConfirmedEngine :=
  if v.requireConfirmation = false then do
    let base ← c.base.processCandle v.base (backtestTable candles) index
    return { c with base }
  else do
    let row ← rowAt (backtestTable candles) index
    match c.base.position, c.base.pending, c.confirmedEntryIndex with
    | some q, _, _ => do
      let base ← c.base.evaluateExit v.base (backtestTable candles) q index row
      return { c with base }
    | none, none, _ => return c
    | none, some p, some entryIndex => if entryIndex ≤ index then c.enterConfirmed v candles p index row else return c
    | none, some p, none => c.confirm candles p index row

def finish (c : ConfirmedEngine) (finalIndex : ℕ) : Except PyExc ConfirmedEngine := do
  let base ← c.base.finish v.base (backtestTable candles) finalIndex
  return { c with base, confirmedEntryIndex := none }

def turn (signals : ℕ → Except PyExc BacktestSignal) (c : ConfirmedEngine) (i : ℕ) : Except PyExc ConfirmedEngine := do
  let c ← c.processCandle v candles i
  let signal ← signals i
  c.queueSignal v candles signal i

def loop (signals : ℕ → Except PyExc BacktestSignal) (c : ConfirmedEngine) (start : ℕ) : ℕ → Except PyExc ConfirmedEngine
  | 0 => .ok c
  | count + 1 => do
    let c ← c.turn v candles signals start
    loop signals c (start + 1) count

end

end ConfirmedEngine

def runVariantBacktest (v : VariantConfiguration) (signals : ℕ → Except PyExc BacktestSignal) (candles : List BacktestCandle) :
    Except PyExc ConfirmedEngine :=
  if candles = [] then .error (.exception "Backtest dataset identity and candles are required")
  else if ¬candles.IsChain (fun c c' => c.time < c'.time) then
    .error (.exception "Backtest candles must be unique and strictly increasing")
  else do
    let c ← (ConfirmedEngine.new v).loop v candles signals warmupCandles (candles.length - warmupCandles)
    c.finish v candles (candles.length - 1)

end Jqe

/-! ## Every trade of the confirmed backtest is of candles `i`, `i + 1` and `i + 2` -/

namespace Jqe

open Column Indicators List

/-! ### What the base engine does -/

/-- The fill of an entry: the open of its candle, moved by the costs. -/
def fillPrice (ea : BacktestExecutionAssumptions) (direction : OrderSide) (atr open_ : ℚ) : ℚ :=
  let totalAdverse := ea.spread + ea.slippage + atr * (ea.spreadAtrFraction + ea.adverseSlippageAtrFraction)
  match direction with
  | .buy => open_ + totalAdverse
  | .sell => open_ - totalAdverse

namespace BacktestEngine

variable {g : BacktestConfiguration} {table : List BacktestRow} {e e' : BacktestEngine} {i : ℕ}

theorem enter_cases {p : PendingSignal} {row : BacktestRow} (h : e.enter g p i row = .ok e') :
    e'.trades = e.trades ∧
      (∃ ds, e'.decisions = e.decisions ++ ds ∧ ∀ d ∈ ds, d.candleIndex = i ∧ d.state = "EXECUTION_REJECTED") ∧
      (e'.position = e.position ∨ ∃ atr q, p.atr = .fin atr ∧ e'.position = some q ∧ q.signalIndex = p.signalIndex ∧
        q.entryIndex = i ∧ q.direction = p.direction ∧
        q.entryPrice = fillPrice g.execution p.direction atr row.open_) := by
  have hrefl : ∃ ds, e.decisions = e.decisions ++ ds ∧ ∀ d ∈ ds, d.candleIndex = i ∧ d.state = "EXECUTION_REJECTED" :=
    ⟨[], (append_nil _).symm, nofun⟩
  unfold enter at h
  dsimp only at h
  cases hatr : p.atr with
  | fin atr =>
    rw [hatr] at h
    dsimp only [PyFloat.rat?] at h
    split at h
    · cases h
      exact ⟨rfl, hrefl, .inl rfl⟩
    · split at h
      · cases h
        exact ⟨rfl, hrefl, .inr ⟨atr, _, rfl, rfl, rfl, rfl, rfl, rfl⟩⟩
      · cases h
        exact ⟨rfl, ⟨[_], rfl, fun d hd => by rw [mem_singleton.1 hd]; exact ⟨rfl, rfl⟩⟩, .inl rfl⟩
  | _ =>
    rw [hatr] at h
    dsimp only [PyFloat.rat?] at h
    split at h
    · cases h
      exact ⟨rfl, hrefl, .inl rfl⟩
    · cases h

structure Books (table : List BacktestRow) (q : OpenPosition) (t : BacktestTrade) : Prop where
  direction : t.direction = q.direction
  price : t.entryPrice = q.entryPrice
  signal : ∃ row, rowAt table q.signalIndex = .ok row ∧ t.signalTimestamp = row.time
  entry : ∃ row, rowAt table q.entryIndex = .ok row ∧ t.entryTimestamp = row.time

structure Closes (table : List BacktestRow) (q : OpenPosition) (e e' : BacktestEngine) : Prop where
  position : e'.position = none
  pending : e'.pending = e.pending
  decisions : e'.decisions = e.decisions
  trades : ∃ t, e'.trades = e.trades ++ [t] ∧ Books table q t

theorem close_cases {q : OpenPosition} {exitPrice : ℚ} {reason : BacktestExitReason}
    (h : e.close g table q i exitPrice reason = .ok e') : Closes table q e e' := by
  unfold close at h
  obtain ⟨signalRow, hsignal, h⟩ := bind_ok h
  obtain ⟨entryRow, hentry, h⟩ := bind_ok h
  obtain ⟨exitRow, -, h⟩ := bind_ok h
  cases h
  exact ⟨rfl, rfl, rfl, _, rfl, rfl, rfl, ⟨signalRow, hsignal, rfl⟩, entryRow, hentry, rfl⟩

theorem evaluateExit_cases {q : OpenPosition} {row : BacktestRow} (h : e.evaluateExit g table q i row = .ok e') :
    e' = e ∨ Closes table q e e' := by
  unfold evaluateExit at h
  split at h
  · exact .inr (close_cases h)
  · split at h
    · exact .inr (close_cases h)
    · split at h
      · exact .inr (close_cases h)
      · cases h
        exact .inl rfl

theorem judge_cases (signal : BacktestSignal) (row : BacktestRow) :
    (e.judge g signal i row).1 ≠ "CONFIRMATION_REJECTED" ∧ ((e.judge g signal i row).2.2 = e.pending ∨
      e.position = none ∧ e.pending = none ∧ (e.judge g signal i row).1 = "QUEUED" ∧
        ∃ direction, signal.signal.bind OrderSide.ofText? = some direction ∧
          (e.judge g signal i row).2.2 = some ⟨direction, signal.confidence, i, row.atr⟩) := by
  unfold judge
  by_cases hposition : e.position.isSome = true
  · rw [if_pos hposition]
    exact ⟨by simp, .inl rfl⟩
  · rw [if_neg hposition]
    by_cases hpending : e.pending.isSome = true
    · rw [if_pos hpending]
      exact ⟨by simp, .inl rfl⟩
    · rw [if_neg hpending]
      cases hdirection : signal.signal.bind OrderSide.ofText? with
      | none => exact ⟨by simp, .inl rfl⟩
      | some direction =>
        dsimp only
        split
        · exact ⟨by simp, .inl rfl⟩
        · split
          · exact ⟨by simp, .inl rfl⟩
          · split
            · exact ⟨by simp, .inr ⟨Option.not_isSome_iff_eq_none.1 hposition, Option.not_isSome_iff_eq_none.1 hpending, rfl,
                direction, rfl, rfl⟩⟩
            · exact ⟨by simp, .inl rfl⟩

end BacktestEngine

/-! ### Entries by the rule -/

/-- **An entry by the rule**: queued at `s`, confirmed at `s + 1` and filled at the open of `s + 2`. -/
structure ByRule (v : VariantConfiguration) (candles : List BacktestCandle) (decisions : List BacktestDecision) (s : ℕ)
    (direction : OrderSide) (price : ℚ) : Prop where
  queued : ∃ d ∈ decisions, d.state = "QUEUED" ∧ d.candleIndex = s
  /-- the regime of the candles up to `s + 1` -/
  regime : detectRegime (indicatorsOf (candles.take (s + 2))) = .ok (confirmationExpectedRegime direction)
  /-- the ATR is that of the candles up to `s`, and of the entry's candle only the open is read -/
  price : ∃ signalRow atr entryCandle, (backtestTable (candles.take (s + 1)))[s]? = some signalRow ∧ signalRow.atr = .fin atr ∧
    candles[s + 2]? = some entryCandle ∧ price = fillPrice v.base.execution direction atr entryCandle.prices.open_
  unrejected : ∀ d ∈ decisions, d.state = "CONFIRMATION_REJECTED" → d.candleIndex ≠ s + 1
  side : v.sellOnly = true → direction = .sell

structure TradeOf (candles : List BacktestCandle) (s : ℕ) (t : BacktestTrade) : Prop where
  signal : ∃ c, candles[s]? = some c ∧ t.signalTimestamp = c.time
  entry : ∃ c, candles[s + 2]? = some c ∧ t.entryTimestamp = c.time

/-- **What a run says of its trades**: each was entered by the rule, and a rejection is that of the signal queued a candle
before. -/
structure FollowsRule (v : VariantConfiguration) (candles : List BacktestCandle) (e : BacktestEngine) : Prop where
  trades : ∀ t ∈ e.trades, ∃ s, ByRule v candles e.decisions s t.direction t.entryPrice ∧ TradeOf candles s t
  rejected : ∀ d ∈ e.decisions, d.state = "CONFIRMATION_REJECTED" →
    ∃ d' ∈ e.decisions, d'.state = "QUEUED" ∧ d.candleIndex = d'.candleIndex + 1

namespace ConfirmedEngine

/-- A signal that waits at the start of turn `i`: for its confirmation, or confirmed. -/
structure Waiting (v : VariantConfiguration) (candles : List BacktestCandle) (c : ConfirmedEngine) (i : ℕ) (p : PendingSignal) :
    Prop where
  queued : ∃ d ∈ c.base.decisions, d.state = "QUEUED" ∧ d.candleIndex = p.signalIndex
  atr : ∃ row, (backtestTable (candles.take (p.signalIndex + 1)))[p.signalIndex]? = some row ∧ p.atr = row.atr
  side : v.sellOnly = true → p.direction = .sell
  turn : c.confirmedEntryIndex = none ∧ i = p.signalIndex + 1 ∨
    c.confirmedEntryIndex = some i ∧ i = p.signalIndex + 2 ∧
      detectRegime (indicatorsOf (candles.take (p.signalIndex + 2))) = .ok (confirmationExpectedRegime p.direction) ∧
        ∀ d ∈ c.base.decisions, d.state = "CONFIRMATION_REJECTED" → d.candleIndex ≠ p.signalIndex + 1

structure Rule (v : VariantConfiguration) (candles : List BacktestCandle) (i : ℕ) (c : ConfirmedEngine) : Prop where
  bound : ∀ d ∈ c.base.decisions, d.candleIndex < i
  rejected : ∀ d ∈ c.base.decisions, d.state = "CONFIRMATION_REJECTED" →
    ∃ d' ∈ c.base.decisions, d'.state = "QUEUED" ∧ d.candleIndex = d'.candleIndex + 1
  trades : ∀ t ∈ c.base.trades, ∃ s, s + 2 < i ∧ ByRule v candles c.base.decisions s t.direction t.entryPrice ∧ TradeOf candles s t
  position : ∀ q, c.base.position = some q → c.base.pending = none ∧ c.confirmedEntryIndex = none ∧
    q.entryIndex = q.signalIndex + 2 ∧ q.entryIndex < i ∧
      ByRule v candles c.base.decisions q.signalIndex q.direction q.entryPrice
  pending : ∀ p, c.base.pending = some p → Waiting v candles c i p
  idle : c.base.pending = none → c.confirmedEntryIndex = none

end ConfirmedEngine

section

variable {v : VariantConfiguration} {candles : List BacktestCandle} {i : ℕ}

theorem ByRule.grow {decisions ds : List BacktestDecision} {s : ℕ} {direction : OrderSide} {price : ℚ}
    (h : ByRule v candles decisions s direction price) (hds : ∀ d ∈ ds, d.state = "CONFIRMATION_REJECTED" → d.candleIndex ≠ s + 1) :
    ByRule v candles (decisions ++ ds) s direction price where
  queued := by
    obtain ⟨d, hd, hstate⟩ := h.queued
    exact ⟨d, mem_append_left _ hd, hstate⟩
  regime := h.regime
  price := h.price
  unrejected d hd := (mem_append.1 hd).elim (h.unrejected d) (hds d)
  side := h.side

theorem candle_of_row {j : ℕ} {row : BacktestRow} (h : rowAt (backtestTable candles) j = .ok row) :
    ∃ c, candles[j]? = some c ∧ row.time = c.time ∧ row.open_ = c.prices.open_ := by
  unfold rowAt at h
  split at h
  · next row' hrow =>
    cases h
    unfold backtestTable at hrow
    obtain ⟨c, found, hc, -, rfl⟩ := getElem?_zipWith_eq_some.1 hrow
    exact ⟨c, hc, rfl, rfl⟩
  · cases h

theorem row_of_take {j : ℕ} {row : BacktestRow} (h : rowAt (backtestTable candles) j = .ok row) :
    (backtestTable (candles.take (j + 1)))[j]? = some row := by
  rw [backtestTable_take, getElem?_take_of_lt (Nat.lt_succ_self j)]
  unfold rowAt at h
  split at h
  · next row' hrow =>
    cases h
    exact hrow
  · cases h

theorem tradeOf_books {q : OpenPosition} {t : BacktestTrade} (h : BacktestEngine.Books (backtestTable candles) q t)
    (hentry : q.entryIndex = q.signalIndex + 2) : TradeOf candles q.signalIndex t := by
  obtain ⟨signalRow, hsignalRow, hsignal⟩ := h.signal
  obtain ⟨entryRow, hentryRow, hfill⟩ := h.entry
  obtain ⟨signalCandle, hsignalCandle, hsignalTime, -⟩ := candle_of_row hsignalRow
  obtain ⟨entryCandle, hentryCandle, hentryTime, -⟩ := candle_of_row hentryRow
  rw [hentry] at hentryCandle
  exact ⟨⟨signalCandle, hsignalCandle, hsignal.trans hsignalTime⟩, entryCandle, hentryCandle, hfill.trans hentryTime⟩

namespace ConfirmedEngine

theorem rule_new (v : VariantConfiguration) (candles : List BacktestCandle) (i : ℕ) : Rule v candles i (new v) where
  bound _ hd := absurd hd not_mem_nil
  rejected _ hd := absurd hd not_mem_nil
  trades _ ht := absurd ht not_mem_nil
  position q hq := by cases hq
  pending p hp := by cases hp
  idle _ := rfl

variable {c c' : ConfirmedEngine}

theorem Rule.bound_append (h : Rule v candles i c) {ds : List BacktestDecision} {j : ℕ} (hij : i ≤ j)
    (hds : ∀ d ∈ ds, d.candleIndex < j) : ∀ d ∈ c.base.decisions ++ ds, d.candleIndex < j := by
  intro d hd
  rcases mem_append.1 hd with hd | hd
  · exact (h.bound d hd).trans_le hij
  · exact hds d hd

theorem Rule.rejected_append (h : Rule v candles i c) {ds : List BacktestDecision}
    (hds : ∀ d ∈ ds, d.state = "CONFIRMATION_REJECTED" →
      ∃ d' ∈ c.base.decisions, d'.state = "QUEUED" ∧ d.candleIndex = d'.candleIndex + 1) :
    ∀ d ∈ c.base.decisions ++ ds, d.state = "CONFIRMATION_REJECTED" →
      ∃ d' ∈ c.base.decisions ++ ds, d'.state = "QUEUED" ∧ d.candleIndex = d'.candleIndex + 1 := by
  intro d hd hstate
  obtain ⟨d', hd', hq⟩ := (mem_append.1 hd).elim (h.rejected d · hstate) (hds d · hstate)
  exact ⟨d', mem_append_left _ hd', hq⟩

theorem Rule.trades_append (h : Rule v candles i c) {ds : List BacktestDecision} {j : ℕ} (hij : i ≤ j)
    (hds : ∀ d ∈ ds, d.state = "CONFIRMATION_REJECTED" → i ≤ d.candleIndex) :
    ∀ t ∈ c.base.trades, ∃ s, s + 2 < j ∧ ByRule v candles (c.base.decisions ++ ds) s t.direction t.entryPrice ∧
      TradeOf candles s t := by
  intro t ht
  obtain ⟨s, hs, hrule, htrade⟩ := h.trades t ht
  refine ⟨s, hs.trans_le hij, hrule.grow fun d hd hstate => ?_, htrade⟩
  have hle := hds d hd hstate
  omega

theorem Rule.later (h : Rule v candles i c) (hpending : c.base.pending = none) : Rule v candles (i + 1) c where
  bound d hd := (h.bound d hd).trans (Nat.lt_succ_self i)
  rejected := h.rejected
  trades t ht := by
    obtain ⟨s, hs, hrule⟩ := h.trades t ht
    exact ⟨s, hs.trans (Nat.lt_succ_self i), hrule⟩
  position q hq := by
    obtain ⟨hnone, hidle, hentry, hlt, hrule⟩ := h.position q hq
    exact ⟨hnone, hidle, hentry, hlt.trans (Nat.lt_succ_self i), hrule⟩
  pending p hp := by
    rw [hpending] at hp
    cases hp
  idle := h.idle

theorem Rule.exit (h : Rule v candles i c) {q : OpenPosition} (hq : c.base.position = some q) {base : BacktestEngine}
    (hclose : base = c.base ∨ BacktestEngine.Closes (backtestTable candles) q c.base base) :
    Rule v candles i { c with base } := by
  rcases hclose with rfl | ⟨hposition, hpending, hdecisions, t, htrades, hbooks⟩
  · exact h
  · obtain ⟨hnone, hidle, hentry, hlt, hrule⟩ := h.position q hq
    refine ⟨?_, ?_, ?_, ?_, ?_, fun _ => hidle⟩
    · rw [hdecisions]
      exact h.bound
    · rw [hdecisions]
      exact h.rejected
    · rw [htrades, hdecisions]
      intro t' ht'
      rcases mem_append.1 ht' with ht' | ht'
      · exact h.trades t' ht'
      · rw [mem_singleton.1 ht', hbooks.direction, hbooks.price]
        exact ⟨q.signalIndex, by omega, hrule, tradeOf_books hbooks hentry⟩
    · intro q' hq'
      rw [show _ = base.position from rfl, hposition] at hq'
      cases hq'
    · intro p hp
      rw [show _ = base.pending from rfl, hpending, hnone] at hp
      cases hp

/-! ### A turn -/

theorem regimeAt_take {j : ℕ} : regimeAt candles j = detectRegime (indicatorsOf (candles.take (j + 1))) := by
  unfold regimeAt
  rw [indicatorsOf_take]

theorem Rule.confirm (h : Rule v candles i c) {p : PendingSignal} (hp : c.base.pending = some p)
    (hposition : c.base.position = none) (hnone : c.confirmedEntryIndex = none) {row : BacktestRow}
    (hc : c.confirm candles p i row = .ok c') : Rule v candles (i + 1) c' := by
  obtain ⟨hqueued, hatr, hside, hturn⟩ := h.pending p hp
  have hi : i = p.signalIndex + 1 := by
    rcases hturn with ⟨-, hi⟩ | ⟨hsome, -⟩
    · exact hi
    · rw [hnone] at hsome
      cases hsome
  unfold ConfirmedEngine.confirm at hc
  rw [if_neg (by omega)] at hc
  obtain ⟨regime, hregime, hc⟩ := bind_ok hc
  split at hc
  · next hpass =>
    cases hc
    have hobserved : regime = confirmationExpectedRegime p.direction := of_decide_eq_true hpass.2
    refine ⟨h.bound_append (Nat.le_succ i) (forall_mem_singleton.2 (Nat.lt_succ_self i)),
      h.rejected_append (forall_mem_singleton.2 fun hstate => ?_),
      h.trades_append (Nat.le_succ i) (forall_mem_singleton.2 fun _ => le_rfl),
      fun q hq => ?_, fun p' hp' => ?_, fun hp' => ?_⟩
    · exact absurd hstate (by simp [confirmation])
    · rw [show _ = c.base.position from rfl, hposition] at hq
      cases hq
    · have hsame : p' = p := Option.some.inj (hp'.symm.trans hp)
      subst hsame
      obtain ⟨d, hd, hq⟩ := hqueued
      refine ⟨⟨d, mem_append_left _ hd, hq⟩, hatr, hside, .inr ⟨rfl, by omega, ?_, fun d' hd' hstate => ?_⟩⟩
      · rw [regimeAt_take, hobserved, hi] at hregime
        exact hregime
      · rcases mem_append.1 hd' with hd' | hd'
        · have hlt := h.bound d' hd'
          omega
        · rw [mem_singleton.1 hd'] at hstate
          exact absurd hstate (by simp [confirmation])
    · rw [show _ = c.base.pending from rfl, hp] at hp'
      cases hp'
  · cases hc
    refine ⟨h.bound_append (Nat.le_succ i) (forall_mem_singleton.2 (Nat.lt_succ_self i)),
      h.rejected_append (forall_mem_singleton.2 fun _ => ?_),
      h.trades_append (Nat.le_succ i) (forall_mem_singleton.2 fun _ => le_rfl),
      fun q hq => ?_, fun p' hp' => ?_, fun _ => rfl⟩
    · obtain ⟨d', hd', hstate', hindex⟩ := hqueued
      refine ⟨d', hd', hstate', ?_⟩
      rw [hindex]
      exact hi
    · rw [show _ = c.base.position from rfl, hposition] at hq
      cases hq
    · cases hp'

theorem Rule.enter (h : Rule v candles i c) {p : PendingSignal} (hp : c.base.pending = some p)
    (hposition : c.base.position = none) {k : ℕ} (hsome : c.confirmedEntryIndex = some k) {row : BacktestRow}
    (hrow : rowAt (backtestTable candles) i = .ok row) (hc : c.enterConfirmed v candles p i row = .ok c') :
    Rule v candles (i + 1) c' := by
  obtain ⟨hqueued, ⟨signalRow, hsignalRow, hatr⟩, hside, hturn⟩ := h.pending p hp
  obtain ⟨hi, hregime, hunrejected⟩ : i = p.signalIndex + 2 ∧
      detectRegime (indicatorsOf (candles.take (p.signalIndex + 2))) = .ok (confirmationExpectedRegime p.direction) ∧
        ∀ d ∈ c.base.decisions, d.state = "CONFIRMATION_REJECTED" → d.candleIndex ≠ p.signalIndex + 1 := by
    rcases hturn with ⟨hnone, -⟩ | ⟨-, hrest⟩
    · rw [hsome] at hnone
      cases hnone
    · exact hrest
  obtain ⟨entryCandle, hentryCandle, -, hopen⟩ := candle_of_row hrow
  unfold enterConfirmed at hc
  obtain ⟨entered, henter, hc⟩ := bind_ok hc
  obtain ⟨htrades, ⟨ds, hdecisions, hds⟩, hopens⟩ := BacktestEngine.enter_cases henter
  have hquiet : ∀ d ∈ ds, d.state ≠ "CONFIRMATION_REJECTED" := fun d hd => by
    rw [(hds d hd).2]
    decide
  have hentered : Rule v candles (i + 1) { c with base := { entered with pending := none }, confirmedEntryIndex := none } := by
    have hbound := h.bound_append (Nat.le_succ i) fun d hd => (hds d hd).1.trans_lt (Nat.lt_succ_self i)
    have hrejected := h.rejected_append fun d hd hstate => absurd hstate (hquiet d hd)
    have hpast := h.trades_append (Nat.le_succ i) fun d hd hstate => absurd hstate (hquiet d hd)
    rw [← hdecisions] at hbound hrejected hpast
    rw [← htrades] at hpast
    refine ⟨hbound, hrejected, hpast, fun q hq => ⟨rfl, rfl, ?_⟩, fun p' hp' => ?_, fun _ => rfl⟩
    · change entered.position = some q at hq
      rcases hopens with hsame | ⟨atr, q', hfin, hq', hqsignal, hqentry, hqdirection, hqprice⟩
      · rw [hsame, hposition] at hq
        cases hq
      · rw [hq'] at hq
        cases hq
        refine ⟨by omega, by omega, ?_⟩
        change ByRule v candles entered.decisions q.signalIndex q.direction q.entryPrice
        rw [hdecisions, hqsignal, hqdirection, hqprice]
        refine ByRule.grow ⟨hqueued, hregime, ⟨signalRow, atr, entryCandle, hsignalRow, hatr ▸ hfin, ?_, ?_⟩, hunrejected, hside⟩
          fun d hd hstate => absurd hstate (hquiet d hd)
        · rw [← hi]
          exact hentryCandle
        · rw [hopen]
    · cases hp'
  dsimp only at hc
  cases hq : entered.position with
  | none =>
    rw [hq] at hc hentered
    cases hc
    exact hentered
  | some q =>
    rw [hq] at hc hentered
    obtain ⟨base, hexit, hc⟩ := bind_ok hc
    cases hc
    exact hentered.exit rfl (BacktestEngine.evaluateExit_cases hexit)

theorem Rule.process (h : Rule v candles i c) (hconfirm : v.requireConfirmation = true)
    (hc : c.processCandle v candles i = .ok c') : Rule v candles (i + 1) c' := by
  unfold ConfirmedEngine.processCandle at hc
  rw [if_neg (by rw [hconfirm]; decide)] at hc
  obtain ⟨row, hrow, hc⟩ := bind_ok hc
  cases hposition : c.base.position with
  | some q =>
    rw [hposition] at hc
    obtain ⟨base, hexit, hc⟩ := bind_ok hc
    cases hc
    exact (h.later (h.position q hposition).1).exit hposition (BacktestEngine.evaluateExit_cases hexit)
  | none =>
    cases hp : c.base.pending with
    | none =>
      rw [hposition, hp] at hc
      cases hc
      exact h.later hp
    | some p =>
      cases hsome : c.confirmedEntryIndex with
      | none =>
        rw [hposition, hp, hsome] at hc
        exact h.confirm hp hposition hsome hc
      | some k =>
        rw [hposition, hp, hsome] at hc
        dsimp only at hc
        have hk : k = i := by
          rcases (h.pending p hp).turn with ⟨hnone, -⟩ | ⟨hk, -⟩
          · rw [hsome] at hnone
            cases hnone
          · exact Option.some.inj (hsome.symm.trans hk)
        rw [if_pos hk.le] at hc
        exact h.enter hp hposition hsome hrow hc

theorem filtered_side {signal : BacktestSignal} {direction : OrderSide}
    (h : (filtered v signal).signal.bind OrderSide.ofText? = some direction) (hside : v.sellOnly = true) :
    direction = .sell := by
  unfold filtered at h
  by_cases hbuy : v.sellOnly ∧ signal.signal = some "BUY"
  · rw [if_pos hbuy] at h
    cases h
  · rw [if_neg hbuy] at h
    obtain ⟨text, htext, hdirection⟩ := Option.bind_eq_some_iff.1 h
    cases direction with
    | sell => rfl
    | buy =>
      unfold OrderSide.ofText? at hdirection
      split at hdirection
      · next heq => exact absurd ⟨hside, by rw [htext, heq]⟩ hbuy
      · split at hdirection <;> cases hdirection

theorem Rule.queue (h : Rule v candles (i + 1) c) {signal : BacktestSignal}
    (hc : c.queueSignal v candles signal i = .ok c') : Rule v candles (i + 1) c' := by
  unfold ConfirmedEngine.queueSignal at hc
  obtain ⟨base, hbase, hc⟩ := bind_ok hc
  cases hc
  unfold BacktestEngine.queueSignal at hbase
  obtain ⟨row, hrow, hbase⟩ := bind_ok hbase
  obtain ⟨hstate, hjudged⟩ := BacktestEngine.judge_cases (g := v.base) (e := c.base) (i := i) (filtered v signal) row
  generalize c.base.judge v.base (filtered v signal) i row = judged at hbase hstate hjudged
  obtain ⟨state, reasons, pending⟩ := judged
  cases hbase
  dsimp only at hstate hjudged
  refine ⟨h.bound_append le_rfl (forall_mem_singleton.2 (Nat.lt_succ_self i)),
    h.rejected_append (forall_mem_singleton.2 fun hrejected => absurd hrejected hstate),
    h.trades_append le_rfl (forall_mem_singleton.2 fun hrejected => absurd hrejected hstate), ?_, ?_, ?_⟩
  · intro q hq
    obtain ⟨hnone, hidle, hentry, hlt, hrule⟩ := h.position q hq
    refine ⟨?_, hidle, hentry, hlt, hrule.grow fun d hd hrejected => ?_⟩
    · rcases hjudged with hsame | ⟨hposition, -⟩
      · exact hsame.trans hnone
      · rw [show c.base.position = some q from hq] at hposition
        cases hposition
    · rw [mem_singleton.1 hd] at hrejected
      exact absurd hrejected hstate
  · intro p hp
    change pending = some p at hp
    rcases hjudged with hsame | ⟨-, hnone, rfl, direction, hdirection, hnew⟩
    · obtain ⟨⟨d, hd, hq⟩, hatr, hside, hturn⟩ := h.pending p (hsame.symm.trans hp)
      refine ⟨⟨d, mem_append_left _ hd, hq⟩, hatr, hside, ?_⟩
      rcases hturn with hturn | ⟨hsome, hi, hregime, hunrejected⟩
      · exact .inl hturn
      · refine .inr ⟨hsome, hi, hregime, fun d' hd' hrejected => ?_⟩
        rcases mem_append.1 hd' with hd' | hd'
        · exact hunrejected d' hd' hrejected
        · rw [mem_singleton.1 hd'] at hrejected
          exact absurd hrejected hstate
    · rw [hnew] at hp
      cases hp
      exact ⟨⟨_, mem_append_right _ mem_cons_self, rfl, rfl⟩, ⟨row, row_of_take hrow, rfl⟩, filtered_side hdirection,
        .inl ⟨h.idle hnone, rfl⟩⟩
  · intro hnone
    change pending = none at hnone
    rcases hjudged with hsame | ⟨-, -, -, direction, -, hnew⟩
    · exact h.idle (hsame.symm.trans hnone)
    · rw [hnew] at hnone
      cases hnone

/-! ### Runs -/

theorem Rule.loop (hconfirm : v.requireConfirmation = true) {signals : ℕ → Except PyExc BacktestSignal} :
    ∀ (count start : ℕ) {c c' : ConfirmedEngine}, Rule v candles start c →
      c.loop v candles signals start count = .ok c' → Rule v candles (start + count) c'
  | 0, _, _, _, h, hc => by
    cases hc
    exact h
  | count + 1, start, c, c', h, hc => by
    unfold ConfirmedEngine.loop at hc
    obtain ⟨turned, hturn, hc⟩ := bind_ok hc
    unfold ConfirmedEngine.turn at hturn
    obtain ⟨processed, hprocess, hturn⟩ := bind_ok hturn
    obtain ⟨signal, -, hqueue⟩ := bind_ok hturn
    have hrest := Rule.loop hconfirm count (start + 1) ((h.process hconfirm hprocess).queue hqueue) hc
    rwa [Nat.add_assoc, Nat.add_comm 1] at hrest

theorem Rule.follows (h : Rule v candles i c) : FollowsRule v candles c.base where
  trades t ht := by
    obtain ⟨s, -, hrule⟩ := h.trades t ht
    exact ⟨s, hrule⟩
  rejected := h.rejected

theorem Rule.finish (h : Rule v candles i c) {final : ℕ} (hc : c.finish v candles final = .ok c') :
    FollowsRule v candles c'.base := by
  unfold ConfirmedEngine.finish at hc
  obtain ⟨base, hbase, hc⟩ := bind_ok hc
  cases hc
  unfold BacktestEngine.finish at hbase
  cases hposition : c.base.position with
  | none =>
    rw [hposition] at hbase
    cases hbase
    exact ⟨h.follows.trades, h.follows.rejected⟩
  | some q =>
    rw [hposition] at hbase
    obtain ⟨row, -, hbase⟩ := bind_ok hbase
    obtain ⟨closed, hclose, hbase⟩ := bind_ok hbase
    cases hbase
    have hclosed := (h.exit hposition (.inr (BacktestEngine.close_cases hclose))).follows
    exact ⟨hclosed.trades, hclosed.rejected⟩

end ConfirmedEngine

/-- **Confirmed entries follow the rule**: every trade of a run was queued at some `s`, confirmed at `s + 1` by the regime of
its direction, not rejected there, and entered at `s + 2`, at the open of that candle and the ATR of `s`; with `sell_only`
it is a sale. -/
theorem confirmed_by_rule {v : VariantConfiguration} (hconfirm : v.requireConfirmation = true)
    (signals : ℕ → Except PyExc BacktestSignal) (candles : List BacktestCandle) {c : ConfirmedEngine}
    (h : runVariantBacktest v signals candles = .ok c) : FollowsRule v candles c.base := by
  unfold runVariantBacktest at h
  split at h
  · cases h
  · split at h
    · cases h
    · obtain ⟨looped, hloop, hfinish⟩ := bind_ok h
      exact ((ConfirmedEngine.rule_new v candles warmupCandles).loop hconfirm _ _ hloop).finish hfinish

end

/-! ### A rise after the warm-up -/

def risingCandle (i : ℕ) : BacktestCandle where
  time := 900 * i
  prices := ⟨100 + (i - 197 : ℕ), 100 + (i - 197 : ℕ), 100 + (i - 197 : ℕ), 100 + (i - 197 : ℕ)⟩
  prices_pos := by
    have h : (0 : ℚ) < 100 + ((i - 197 : ℕ) : ℚ) := by positivity
    exact ⟨h, h, h, h⟩
  ohlc_ok := ⟨max_le le_rfl le_rfl, le_min le_rfl le_rfl⟩

def risingVariant : VariantConfiguration where
  base := { hundredBacktest with risk := { hundredBacktest.risk with minimumAtr := 0, limits_nonneg := by norm_num [hundredBacktest, hundredConfiguration] } }
  sellOnly := false
  requireConfirmation := true

/-- A purchase is queued at 200, confirmed at 201 and entered at 202. -/
theorem confirmed_by_rule_rising : ∃ c, runVariantBacktest risingVariant (fun _ => .ok ⟨some "BUY", 90, [], none, none, none⟩)
    ((List.range 204).map risingCandle) = .ok c ∧
      c.base.trades.map (fun t => (t.signalTimestamp, t.entryTimestamp)) = [(900 * 200, 900 * 202)] ∧
        FollowsRule risingVariant ((List.range 204).map risingCandle) c.base := by
  have htrades : (match runVariantBacktest risingVariant (fun _ => .ok ⟨some "BUY", 90, [], none, none, none⟩)
      ((List.range 204).map risingCandle) with
    | .ok c => c.base.trades.map fun t => (t.signalTimestamp, t.entryTimestamp)
    | .error _ => []) = [(900 * 200, 900 * 202)] := by decide +kernel
  cases hrun : runVariantBacktest risingVariant (fun _ => .ok ⟨some "BUY", 90, [], none, none, none⟩)
      ((List.range 204).map risingCandle) with
  | error e =>
    rw [hrun] at htrades
    cases htrades
  | ok c =>
    rw [hrun] at htrades
    exact ⟨c, rfl, htrades, confirmed_by_rule rfl _ _ hrun⟩

end Jqe
