import Jqe.Precision
/-!
# MtfBacktest — `tools/weltrade_mtf_backtest.py`: the executor

`_execute` turns a series of signals into trades, one position at a time.  Arithmetic is exact, and the rounding of what
is reported is any function `rd`: a check of a signal does not look at a candle, and a trade does not look past its exit.
-/
namespace Jqe
namespace Mtf

def window : ℕ := 500

def targetRr : ℚ := 2

def slippageSpreadFraction : ℚ := 1 / 2

/-- A candle of the history cache: prices are bids, the spread is in points. -/
structure Candle where
  time : ℤ
  open_ : ℚ
  high : ℚ
  low : ℚ
  close : ℚ
  spread : ℚ
  deriving DecidableEq, Inhabited

structure Terms where
  volumeMin : ℚ
  volumeStep : ℚ
  valuePerPointMinLot : Option ℚ
  minStopDistance : ℚ

/-- The arguments of `_execute`; `signal` and `stop` are the arrays of the signal pass, one entry for each candle. -/
structure Replay where
  candles : List Candle
  point : ℚ
  signal : ℕ → ℤ
  stop : ℕ → ℚ
  terms : Terms
  cap : ℚ
  seriesMid : ℤ

inductive Dir where
  | long
  | short
  deriving DecidableEq

inductive ExitReason where
  | sl
  | tp
  | eod
  deriving DecidableEq

structure Trade where
  entryTs : ℤ
  exitTs : ℤ
  dir : Dir
  reason : ExitReason
  barsHeld : ℕ
  lot : ℚ
  risked : ℚ
  pnl : ℚ
  r : ℚ
  firstHalf : Bool
  deriving DecidableEq

/-- A trade, with the bars of its signal and of its exit. -/
structure Executed where
  signal : ℕ
  exit : ℕ
  trade : Trade

/-- What the loop does with a signal before it looks at a candle. -/
inductive Check where
  | pass
  | minstop
  | sizing
  | lot (lot : ℚ)

/-- The levels of a position at its entry. -/
structure Position where
  dir : Dir
  entryFill : ℚ
  slLevel : ℚ
  tpLevel : ℚ

structure Book where
  trades : List Executed
  rejectedSizing : ℕ
  rejectedMinstop : ℕ

structure Result where
  cap : ℚ
  trades : List Trade
  rejectedSizing : ℕ
  rejectedMinstop : ℕ

def exact (_ : ℕ) (x : ℚ) : ℚ := x

def floorToStep (rd : ℕ → ℚ → ℚ) (value step : ℚ) : ℚ :=
  if step ≤ 0 then value else rd 10 (⌊value / step + 1 / 10 ^ 9⌋ * step)

def closesLastBid (dir : Dir) (last : Candle) (spread slip : ℚ) : ℚ :=
  match dir with
  | .long => last.close - slip
  | .short => last.close + spread + slip

namespace Replay

variable (rd : ℕ → ℚ → ℚ) (s : Replay)

def bar (j : ℕ) : Candle := s.candles.getD j default

def spreadOf (c : Candle) : ℚ := c.spread * s.point

def slip (c : Candle) : ℚ := slippageSpreadFraction * s.spreadOf c

def vppMin : ℚ := s.terms.valuePerPointMinLot.getD 0

def vppPerLot : ℚ := if s.terms.volumeMin = 0 then 0 else s.vppMin / s.terms.volumeMin

def lotMax (stopDist : ℚ) : ℚ :=
  let lossAtStopMinlot := s.vppMin * stopDist
  if 0 < lossAtStopMinlot then s.cap * s.terms.volumeMin / lossAtStopMinlot else 0

def check (i : ℕ) : Check :=
  if s.signal i = 0 then .pass
  else if s.stop i ≤ 0 then .pass
  else if s.stop i < s.terms.minStopDistance then .minstop
  else
    let lot := floorToStep rd (s.lotMax (s.stop i)) s.terms.volumeStep
    if lot < s.terms.volumeMin - 1 / 10 ^ 12 then .sizing else .lot lot

def dirAt (i : ℕ) : Dir := if s.signal i = 1 then .long else .short

def openAt (dir : Dir) (entry : Candle) (stopDist : ℚ) : Position :=
  let tpDist := stopDist * targetRr
  match dir with
  | .long =>
    let entryFill := entry.open_ + s.spreadOf entry + s.slip entry
    ⟨.long, entryFill, entryFill - stopDist, entryFill + tpDist⟩
  | .short =>
    let entryFill := entry.open_ - s.slip entry
    ⟨.short, entryFill, entryFill + stopDist, entryFill - tpDist⟩

/-- The exit of a position on one bar, the stop before the target. -/
def exitOn (p : Position) (c : Candle) : Option (ExitReason × ℚ) :=
  match p.dir with
  | .long =>
    if c.low ≤ p.slLevel then some (.sl, min c.open_ p.slLevel - s.slip c)
    else if p.tpLevel ≤ c.high then some (.tp, max c.open_ p.tpLevel)
    else none
  | .short =>
    let spread := s.spreadOf c
    if p.slLevel ≤ c.high + spread then some (.sl, max (c.open_ + spread) p.slLevel + s.slip c)
    else if c.low + spread ≤ p.tpLevel then some (.tp, min (c.open_ + spread) p.tpLevel)
    else none

def firstExit (p : Position) : List Candle → ℕ → Option (ℕ × ExitReason × ℚ)
  | [], _ => none
  | c :: bars, j =>
    match s.exitOn p c with
    | some (reason, price) => some (j, reason, price)
    | none => firstExit p bars (j + 1)

/-- Bar, reason and price of the exit of a position entered at bar `e`; without one it is marked at the last close. -/
def exitOf (p : Position) (e : ℕ) : ℕ × ExitReason × ℚ :=
  match s.firstExit p (s.candles.drop e) e with
  | some x => x
  | none =>
    let last := s.bar (s.candles.length - 1)
    (s.candles.length - 1, .eod, closesLastBid p.dir last (s.spreadOf last) (s.slip last))

def pnlOf (p : Position) (exitPrice lot : ℚ) : ℚ :=
  let pnlPerPoint := s.vppPerLot * lot
  match p.dir with
  | .long => (exitPrice - p.entryFill) * pnlPerPoint
  | .short => (p.entryFill - exitPrice) * pnlPerPoint

def positionAt (i : ℕ) : Position := s.openAt (s.dirAt i) (s.bar (i + 1)) (s.stop i)

def exitAt (i : ℕ) : ℕ × ExitReason × ℚ := s.exitOf (s.positionAt i) (i + 1)

def report (i : ℕ) (lot : ℚ) (p : Position) (exitBar : ℕ) (reason : ExitReason) (exitPrice : ℚ) : Trade :=
  let e := i + 1
  let risked := s.vppPerLot * lot * s.stop i
  let pnl := s.pnlOf p exitPrice lot
  let r := if 0 < risked then pnl / risked else 0
  { entryTs := (s.bar e).time
    exitTs := (s.bar exitBar).time
    dir := p.dir
    reason := reason
    barsHeld := exitBar - e
    lot := rd 10 lot
    risked := rd 6 risked
    pnl := rd 6 pnl
    r := rd 6 r
    firstHalf := (s.bar e).time < s.seriesMid }

def tradeAt (i : ℕ) (lot : ℚ) : Executed where
  signal := i
  exit := (s.exitAt i).1
  trade := s.report rd i lot (s.positionAt i) (s.exitAt i).1 (s.exitAt i).2.1 (s.exitAt i).2.2

theorem positionAt_dir (i : ℕ) : (s.positionAt i).dir = s.dirAt i := by
  unfold positionAt openAt
  cases s.dirAt i <;> rfl

@[simp] theorem tradeAt_exit (i : ℕ) (lot : ℚ) : (s.tradeAt rd i lot).exit = (s.exitAt i).1 := rfl

@[simp] theorem tradeAt_reason (i : ℕ) (lot : ℚ) : (s.tradeAt rd i lot).trade.reason = (s.exitAt i).2.1 := rfl

@[simp] theorem tradeAt_dir (i : ℕ) (lot : ℚ) : (s.tradeAt rd i lot).trade.dir = s.dirAt i := s.positionAt_dir i

theorem le_firstExit {p : Position} {bars : List Candle} {e j : ℕ} {x : ExitReason × ℚ}
    (h : s.firstExit p bars e = some (j, x)) : e ≤ j := by
  induction bars generalizing e with
  | nil => cases h
  | cons c bars ih =>
    unfold firstExit at h
    cases hc : s.exitOn p c with
    | some y =>
      rw [hc, Option.some.injEq, Prod.mk.injEq] at h
      exact h.1.le
    | none =>
      rw [hc] at h
      exact (Nat.le_succ e).trans (ih h)

theorem lt_exit {i : ℕ} (h : i + 1 < s.candles.length) : i < (s.exitAt i).1 := by
  unfold exitAt exitOf
  split
  · rename_i x hx
    exact s.le_firstExit hx
  · exact Nat.lt_sub_of_add_lt h

def run (i : ℕ) : Book :=
  if h : i + 1 < s.candles.length then
    match s.check rd i with
    | .pass => run (i + 1)
    | .minstop =>
      let rest := run (i + 1)
      { rest with rejectedMinstop := rest.rejectedMinstop + 1 }
    | .sizing =>
      let rest := run (i + 1)
      { rest with rejectedSizing := rest.rejectedSizing + 1 }
    | .lot lot =>
      have := s.lt_exit h
      let rest := run ((s.tradeAt rd i lot).exit + 1)
      { rest with trades := s.tradeAt rd i lot :: rest.trades }
  else ⟨[], 0, 0⟩
termination_by s.candles.length - i

def executed : List Executed := (s.run rd (window - 1)).trades

def execute : Result :=
  let book := s.run rd (window - 1)
  ⟨s.cap, book.trades.map (·.trade), book.rejectedSizing, book.rejectedMinstop⟩

end Replay
end Mtf
end Jqe
