import Jqe.Mt5Readers
import Jqe.WeltradeCanonical
/-!
# Mt5Clock — the server clock as each reader takes it

Positions, candles and the deals of `get_trade_history` are three hours behind the server's clock; the snapshot of the deals
and the latest tick are behind it by the offset that a quote resolves to.
-/
namespace Jqe

open Dataset (Candle)
open WeltradeSymbols (PyUnicode latinUnicode)

namespace Mt5Readers

def openedAt : PositionItem → Option ℤ
  | .position p => p.openedAt
  | .other => none

/-- **What is read of one terminal**: its snapshot within a window at one moment, and a quote at another. -/
structure Reading where
  gateway : MT5Gateway
  /-- the time of the quote that the snapshot resolves the clock by -/
  tickTime : Option ℤ
  start : ℤ
  stop : ℤ
  now : ℤ
  count : ℕ
  symbol : String
  raw : RawTick
  tickNow : ℤ

def Reading.snapshot (r : Reading) (deals : List Mt5Deal) : Except PyExc TradeHistorySnapshot :=
  readMt5TradeHistorySnapshot ⟨.ok r.tickTime, fun _ _ => .ok (some deals)⟩ true r.start r.stop r.now r.count

section

variable [PyUnicode]

/-- **Every reader is behind the server's clock by one offset.** -/
structure OneOffset (r : Reading) (offset : ℤ) : Prop where
  positions : ∀ ps items, r.gateway.getPositions (.ok (some ps)) = .ok items →
    items.map openedAt = ps.map fun p => some (p.time - offset)
  candles : ∀ reader t symbol timeframe fuel count stop pages candles,
    candlePages reader t symbol timeframe fuel count stop = some (.ok pages) →
    getCandles reader r.gateway t symbol timeframe fuel count stop = some (.ok candles) →
    candles.map Candle.time = pages.reverse.flatten.map fun rate => .aware ((rate.time - offset) * 1000000)
  history : ∀ t now count deals trades, t.historyDealsGet (now - tradeHistoryLookback) now = .ok (some deals) →
    getTradeHistory r.gateway t now count = .ok trades →
    trades.map ClosingTrade.closedAt = (lastOf count (deals.filter Mt5Deal.closes)).map fun d => d.time - offset
  snapshot : ∀ deals s, r.snapshot deals = .ok s → s.completeness = .complete →
    s.trades.map TradeHistoryEntry.closedAt = (deals.filter Mt5Deal.closes).map fun d => d.time - offset
  tick : ∀ stamp latest, r.raw.time = some stamp →
    getLatestTick r.gateway (fun _ => .ok (some r.raw)) r.symbol r.tickNow = .ok (some latest) →
    latest.time = r.raw.milliseconds stamp - offset * 1000

/-- **A position is not opened after a deal that is not before it.** -/
def OpenedFirst (r : Reading) : Prop :=
  ∀ ps items deals s, r.gateway.getPositions (.ok (some ps)) = .ok items → r.snapshot deals = .ok s →
    s.completeness = .complete →
      ∀ (i j : ℕ) (p : Mt5Position) (item : PositionItem) (d : Mt5Deal) (trade : TradeHistoryEntry),
        ps[i]? = some p → items[i]? = some item → (deals.filter Mt5Deal.closes)[j]? = some d → s.trades[j]? = some trade →
          p.time ≤ d.time → ∀ opened ∈ openedAt item, opened ≤ trade.closedAt

/-- **The clocks agree.** -/
def ClocksAgree (r : Reading) : Prop := (∃ offset, OneOffset r offset) ∧ OpenedFirst r

/-! ### The snapshot and the tick by their own offsets -/

omit [PyUnicode] in
theorem snapshot_times {r : Reading} {offset : ℤ} (hoffset : historyServerOffset r.tickTime r.now = some offset)
    {deals : List Mt5Deal} {s : TradeHistorySnapshot} (h : r.snapshot deals = .ok s) (hc : s.completeness = .complete) :
    s.trades = (deals.filter Mt5Deal.closes).map (·.toEntry offset) := by
  obtain ⟨offset', deals', tick, -, htick, hoffset', hdeals, htrades, -⟩ := snapshot_complete h hc
  cases htick
  rw [hoffset] at hoffset'
  cases hoffset'
  cases hdeals
  exact htrades

def plainDeal (time : ℤ) : Mt5Deal :=
  ⟨1, "FiboX", dealTypeBuy, dealEntryOut, .fin 1, 1, 0, .fin 0, .fin 0, time, none, none⟩

omit [PyUnicode] in
theorem snapshot_plain {r : Reading} {offset : ℤ} (hoffset : historyServerOffset r.tickTime r.now = some offset)
    (hwindow : r.start < r.stop ∧ r.stop ≤ r.now ∧ 0 < r.count) (time : ℤ) :
    ∃ s, r.snapshot [plainDeal time] = .ok s ∧ s.completeness = .complete ∧ s.trades = [(plainDeal time).toEntry offset] := by
  obtain ⟨hstart, hstop, hcount⟩ := hwindow
  have hread : ¬(!true || r.count == 0 || decide (r.stop ≤ r.start)) = true := by
    rw [Bool.not_true, Bool.false_or, Bool.or_eq_true, beq_iff_eq, decide_eq_true_eq]
    omega
  refine ⟨snapshotOf [plainDeal time] offset (min r.start (serverDayStart r.now offset)) (max r.stop r.now) r.count, ?_, ?_⟩
  · unfold Reading.snapshot readMt5TradeHistorySnapshot readHistory
    rw [if_neg hread, if_neg (not_lt.2 hstop)]
    dsimp only [Bind.bind, Except.bind]
    rw [hoffset]
    rfl
  · have hclosed : [plainDeal time].filter Mt5Deal.closes = [plainDeal time] := rfl
    have hlength : ¬r.count < [plainDeal time].length := not_lt.2 hcount
    unfold snapshotOf
    dsimp only
    rw [hclosed, if_neg hlength]
    exact ⟨rfl, rfl⟩

theorem latestTick_time {r : Reading} {stamp offset : ℤ} (hstamp : r.raw.time = some stamp)
    (hoffset : historyServerOffset r.raw.time r.tickNow = some offset) {latest : LatestTick}
    (h : getLatestTick r.gateway (fun _ => .ok (some r.raw)) r.symbol r.tickNow = .ok (some latest)) :
    latest.time = r.raw.milliseconds stamp - offset * 1000 := by
  unfold getLatestTick at h
  obtain ⟨_, -, h⟩ := bind_ok h
  split at h
  · obtain ⟨answer, hanswer, h⟩ := bind_ok h
    cases hanswer
    dsimp only at h
    rw [hoffset, hstamp] at h
    dsimp only at h
    split at h
    · cases h
      rfl
    · cases h
  · cases h

omit [PyUnicode] in
theorem getPositions_some {g : MT5Gateway} {ps : List Mt5Position} {items : List PositionItem}
    (h : g.getPositions (.ok (some ps)) = .ok items) : items = ps.map fun p => .position p.toPosition := by
  unfold MT5Gateway.getPositions at h
  obtain ⟨_, -, h⟩ := bind_ok h
  cases h
  rfl

omit [PyUnicode] in
theorem positions_times {g : MT5Gateway} {ps : List Mt5Position} {items : List PositionItem}
    (h : g.getPositions (.ok (some ps)) = .ok items) : items.map openedAt = ps.map fun p => some (p.time - 10800) := by
  rw [getPositions_some h, List.map_map]
  rfl

theorem candles_times {reader : Reader} {g : MT5Gateway} {t : RatesTerminal} {symbol : String} {timeframe : Timeframe}
    {fuel : ℕ} {count : ℤ} {stop : Option PyDatetime} {pages : List (List Mt5Bar)} {candles : List Candle}
    (hpages : candlePages reader t symbol timeframe fuel count stop = some (.ok pages))
    (h : getCandles reader g t symbol timeframe fuel count stop = some (.ok candles)) :
    candles.map Candle.time = pages.reverse.flatten.map fun rate => .aware ((rate.time - 10800) * 1000000) := by
  unfold getCandles at h
  split at h
  · cases h
  · split at h
    · cases h
    · rw [hpages] at h
      cases h
      rw [List.map_map]
      rfl

omit [PyUnicode] in
theorem history_times {g : MT5Gateway} {t : HistoryTerminal} {now count : ℤ} {deals : List Mt5Deal}
    {trades : List ClosingTrade} (hdeals : t.historyDealsGet (now - tradeHistoryLookback) now = .ok (some deals))
    (h : getTradeHistory g t now count = .ok trades) :
    trades.map ClosingTrade.closedAt = (lastOf count (deals.filter Mt5Deal.closes)).map fun d => d.time - 10800 := by
  unfold getTradeHistory at h
  obtain ⟨_, -, h⟩ := bind_ok h
  rw [hdeals] at h
  cases h
  rw [List.map_map]
  rfl

/-! ### When the clocks agree -/

/-- **A reading that answers**: the session is active, the window is read, both quotes resolve the clock, and the latest one is
returned. -/
structure Reading.Answers (r : Reading) (offset tickOffset stamp : ℤ) (latest : LatestTick) : Prop where
  connected : r.gateway.connected = true
  window : r.start < r.stop ∧ r.stop ≤ r.now ∧ 0 < r.count
  offset : historyServerOffset r.tickTime r.now = some offset
  stamp : r.raw.time = some stamp
  tickOffset : historyServerOffset r.raw.time r.tickNow = some tickOffset
  latest : getLatestTick r.gateway (fun _ => .ok (some r.raw)) r.symbol r.tickNow = .ok (some latest)

def plainPosition (time : ℤ) : Mt5Position := ⟨1, "FiboX", orderTypeBuy, 1, 1, 1, 0, 0, 0, time, none, none⟩

omit [PyUnicode] in
theorem getPositions_plain {g : MT5Gateway} (h : g.connected = true) (time : ℤ) :
    g.getPositions (.ok (some [plainPosition time])) = .ok [.position (plainPosition time).toPosition] := by
  unfold MT5Gateway.getPositions MT5Gateway.requireConnected
  rw [h]
  rfl

theorem OneOffset.offset_eq {r : Reading} {offset tickOffset stamp o : ℤ} {latest : LatestTick}
    (h : OneOffset r o) (hr : r.Answers offset tickOffset stamp latest) : offset = 10800 ∧ tickOffset = 10800 := by
  have hposition := h.positions _ _ (getPositions_plain hr.connected 0)
  rw [positions_times (getPositions_plain hr.connected 0)] at hposition
  have hfixed : (0 : ℤ) - 10800 = 0 - o := Option.some.inj (List.singleton_inj.1 hposition)
  obtain ⟨s, hs, hcomplete, htrades⟩ := snapshot_plain hr.offset hr.window 0
  have hsnapshot := h.snapshot _ _ hs hcomplete
  rw [htrades] at hsnapshot
  have hresolved : (0 : ℤ) - offset = 0 - o := List.singleton_inj.1 hsnapshot
  have htick := h.tick stamp latest hr.stamp hr.latest
  rw [latestTick_time hr.stamp hr.tickOffset hr.latest] at htick
  omega

/-- **The clocks agree exactly when both quotes resolve the server's clock to three hours.** -/
theorem clocksAgree_iff {r : Reading} {offset tickOffset stamp : ℤ} {latest : LatestTick}
    (hr : r.Answers offset tickOffset stamp latest) : ClocksAgree r ↔ offset = 10800 ∧ tickOffset = 10800 := by
  constructor
  · rintro ⟨⟨o, ho⟩, -⟩
    exact ho.offset_eq hr
  · rintro ⟨rfl, rfl⟩
    have hsnapshot : ∀ deals s, r.snapshot deals = .ok s → s.completeness = .complete →
        s.trades.map TradeHistoryEntry.closedAt = (deals.filter Mt5Deal.closes).map fun d => d.time - 10800 := by
      intro deals s hs hcomplete
      rw [snapshot_times hr.offset hs hcomplete, List.map_map]
      rfl
    refine ⟨⟨10800, ?_, ?_, ?_, hsnapshot, ?_⟩, ?_⟩
    · exact fun ps items h => positions_times h
    · exact fun _ _ _ _ _ _ _ _ _ hpages h => candles_times hpages h
    · exact fun _ _ _ _ _ hdeals h => history_times hdeals h
    · exact fun stamp' latest' hstamp hlatest => latestTick_time hstamp hr.tickOffset hlatest
    · intro ps items deals s hps hs hcomplete i j p item d trade hp hitem hd htrade hle opened hopened
      rw [getPositions_some hps, List.getElem?_map, hp] at hitem
      cases hitem
      rw [snapshot_times hr.offset hs hcomplete, List.getElem?_map, hd] at htrade
      cases htrade
      cases hopened
      exact Int.sub_le_sub_right hle 10800

end

/-! ### A server of its own time -/

def serverReading (offset : ℤ) : Reading where
  gateway := ⟨true, none, none, none, none, false⟩
  tickTime := some (1000000000 + offset)
  start := 999990000
  stop := 1000000000
  now := 1000000000
  count := 100
  symbol := "FiboX"
  raw := ⟨some (1000000000 + offset), none, .fin 1, .fin 1, none⟩
  tickNow := 1000000000

theorem clocksAgree_iff_three_hours :
    @ClocksAgree latinUnicode (serverReading 10800) ↔ (10800 : ℤ) = 10800 ∧ (10800 : ℤ) = 10800 := by
  let _ : PyUnicode := latinUnicode
  have hanswers : (serverReading 10800).Answers 10800 10800 1000010800 ⟨1000000000000, "FiboX", .fin 1, .fin 1, none⟩ :=
    ⟨by decide, by decide, by decide +kernel, by decide, by decide +kernel, by decide +kernel⟩
  exact clocksAgree_iff hanswers

/-- **Of a server four hours ahead of UTC**, a position is opened after the deal that closes it a minute later. -/
theorem clocks_disagree :
    ¬OpenedFirst (serverReading 14400) ∧ ¬@ClocksAgree latinUnicode (serverReading 14400) := by
  have hoffset : historyServerOffset (serverReading 14400).tickTime (serverReading 14400).now = some 14400 := by
    decide +kernel
  have hlate : ¬OpenedFirst (serverReading 14400) := by
    intro h
    obtain ⟨s, hs, hcomplete, htrades⟩ := snapshot_plain hoffset (by decide) 60
    have hle := h _ _ _ s (getPositions_plain rfl 0) hs hcomplete 0 0 (plainPosition 0) _ (plainDeal 60) _ rfl rfl rfl
      (congrArg (·[0]?) htrades) (by decide) _ rfl
    exact absurd hle (by decide)
  exact ⟨hlate, fun h => hlate h.2⟩

end Mt5Readers
end Jqe
