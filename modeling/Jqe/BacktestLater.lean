import Jqe.Backtest
/-!
# BacktestLater — what a call of the backtest engine adds

The decisions, the trades and the entries of an engine only grow, and a call at a candle adds those of the candle.  A call
reads the rows of the signals it holds, and the row of its candle.
-/
namespace Jqe

open List

/-- What is fixed when a position is entered. -/
structure BacktestLevels where
  direction : OrderSide
  signalTimestamp : ℤ
  entryPrice : ℚ
  stopPrice : ℚ
  targetPrice : ℚ
  quantity : ExecutionQuantity
  balanceBefore : ℚ
  deriving DecidableEq

def BacktestTrade.levels (t : BacktestTrade) : BacktestLevels :=
  ⟨t.direction, t.signalTimestamp, t.entryPrice, t.stopPrice, t.targetPrice, t.quantity, t.balanceBefore⟩

def timeAt (table : List BacktestRow) (i : ℕ) : ℤ := (table[i]?.map (·.time)).getD 0

def OpenPosition.levels (table : List BacktestRow) (p : OpenPosition) : BacktestLevels :=
  ⟨p.direction, timeAt table p.signalIndex, p.entryPrice, p.stop, p.target, p.quantity, p.balanceBefore⟩

namespace BacktestEngine

/-- **The entries so far**: those of the trades, and that of the open position. -/
def entries (table : List BacktestRow) (e : BacktestEngine) : List (ℤ × BacktestLevels) :=
  (e.trades.map fun t => (t.entryTimestamp, t.levels)) ++
    e.position.toList.map fun p => (timeAt table p.entryIndex, p.levels table)

/-- The candles that an engine holds come before `n`, and its pending signal has a number for its ATR. -/
structure Bounded (e : BacktestEngine) (n : ℕ) : Prop where
  pending : ∀ p, e.pending = some p → p.signalIndex < n ∧ ∃ atr, p.atr = .fin atr
  position : ∀ p, e.position = some p → p.signalIndex < n ∧ p.entryIndex < n

theorem Bounded.mono {e : BacktestEngine} {n m : ℕ} (h : e.Bounded n) (hle : n ≤ m) : e.Bounded m where
  pending p hp := ⟨(h.pending p hp).1.trans_le hle, (h.pending p hp).2⟩
  position p hp := ⟨(h.position p hp).1.trans_le hle, (h.position p hp).2.trans_le hle⟩

theorem bounded_new (cfg : BacktestConfiguration) (n : ℕ) : (BacktestEngine.new cfg).Bounded n where
  pending p hp := by cases hp
  position p hp := by cases hp

theorem appended_trans {α : Type} {P Q R : α → Prop} {xs ys zs : List α} (h : ∃ new, ys = xs ++ new ∧ ∀ x ∈ new, P x)
    (h' : ∃ new, zs = ys ++ new ∧ ∀ x ∈ new, Q x) (hP : ∀ x, P x → R x) (hQ : ∀ x, Q x → R x) :
    ∃ new, zs = xs ++ new ∧ ∀ x ∈ new, R x := by
  obtain ⟨new, rfl, hnew⟩ := h
  obtain ⟨new', rfl, hnew'⟩ := h'
  exact ⟨new ++ new', append_assoc _ _ _, fun x hx =>
    (mem_append.1 hx).elim (fun hx => hP x (hnew x hx)) fun hx => hQ x (hnew' x hx)⟩

section

variable {g : BacktestConfiguration} {table table' : List BacktestRow} {e e' : BacktestEngine} {i k : ℕ}

theorem rowAt_of_lt (hi : i < table.length) : ∃ row, rowAt table i = .ok row ∧ row.time = timeAt table i := by
  unfold rowAt timeAt
  rw [getElem?_eq_getElem hi]
  exact ⟨table[i], rfl, rfl⟩

theorem rowAt_congr (h : table[i]? = table'[i]?) : rowAt table i = rowAt table' i := by
  unfold rowAt
  rw [h]

/-- **What a call at a candle adds.** -/
structure Adds (table : List BacktestRow) (i : ℕ) (opened : Option OpenPosition) (e e' : BacktestEngine) : Prop where
  decisions : ∃ ds, e'.decisions = e.decisions ++ ds ∧ ∀ d ∈ ds, d.candleIndex = i
  trades : ∃ ts, e'.trades = e.trades ++ ts ∧ ∀ t ∈ ts, t.exitTimestamp = timeAt table i
  entries : e'.entries table = e.entries table ++ opened.toList.map fun p => (timeAt table p.entryIndex, p.levels table)

theorem Adds.refl (table : List BacktestRow) (i : ℕ) (e : BacktestEngine) : Adds table i none e e where
  decisions := ⟨[], (append_nil _).symm, fun d hd => by cases hd⟩
  trades := ⟨[], (append_nil _).symm, fun t ht => by cases ht⟩
  entries := (append_nil _).symm

theorem Adds.trans {opened : Option OpenPosition} {e₁ e₂ e₃ : BacktestEngine} (h : Adds table i opened e₁ e₂)
    (h' : Adds table i none e₂ e₃) : Adds table i opened e₁ e₃ where
  decisions := appended_trans h.decisions h'.decisions (fun _ => id) fun _ => id
  trades := appended_trans h.trades h'.trades (fun _ => id) fun _ => id
  entries := by
    rw [h'.entries, h.entries]
    exact append_nil _

/-! ### Closes -/

theorem close_spec {p : OpenPosition} (hp : e.position = some p) (hsignal : p.signalIndex < table.length)
    (hentry : p.entryIndex < table.length) (hi : i < table.length) (exitPrice : ℚ) (reason : BacktestExitReason) :
    ∃ e', e.close g table p i exitPrice reason = .ok e' ∧ e'.position = none ∧ e'.pending = e.pending ∧
      Adds table i none e e' := by
  obtain ⟨signalRow, hsignalRow, hsignalTime⟩ := rowAt_of_lt hsignal
  obtain ⟨entryRow, hentryRow, hentryTime⟩ := rowAt_of_lt hentry
  obtain ⟨exitRow, hexitRow, hexitTime⟩ := rowAt_of_lt hi
  unfold close
  rw [hsignalRow, hentryRow, hexitRow]
  refine ⟨_, rfl, rfl, rfl, ⟨[], (append_nil _).symm, fun d hd => by cases hd⟩, ⟨[_], rfl, fun t ht => ?_⟩, ?_⟩
  · rw [mem_singleton.1 ht]
    exact hexitTime
  · unfold entries
    rw [hp]
    simp only [Option.toList_some, Option.toList_none, map_append, map_cons, map_nil, append_nil,
      BacktestTrade.levels, OpenPosition.levels, hsignalTime, hentryTime]

theorem close_congr {p : OpenPosition} (hrows : ∀ j < k, table[j]? = table'[j]?) (hsignal : p.signalIndex < k)
    (hentry : p.entryIndex < k) (hi : i < k) (exitPrice : ℚ) (reason : BacktestExitReason) :
    e.close g table p i exitPrice reason = e.close g table' p i exitPrice reason := by
  unfold close
  rw [rowAt_congr (hrows _ hsignal), rowAt_congr (hrows _ hentry), rowAt_congr (hrows _ hi)]

/-! ### Entries -/

def opened (g : BacktestConfiguration) (e : BacktestEngine) (i : ℕ) (row : BacktestRow) : Option OpenPosition :=
  match e.position, e.enterPending g i row with
  | none, .ok e' => e'.position
  | _, _ => none

theorem enter_spec {p : PendingSignal} {atr : ℚ} (hatr : p.atr = .fin atr) (row : BacktestRow) :
    ∃ e', e.enter g p i row = .ok e' ∧ e'.trades = e.trades ∧ e'.pending = e.pending ∧
      (∃ ds, e'.decisions = e.decisions ++ ds ∧ ∀ d ∈ ds, d.candleIndex = i) ∧
      (e'.position = e.position ∨ ∃ q, e'.position = some q ∧ q.signalIndex = p.signalIndex ∧ q.entryIndex = i) := by
  have hrefl : ∃ ds, e.decisions = e.decisions ++ ds ∧ ∀ d ∈ ds, d.candleIndex = i :=
    ⟨[], (append_nil _).symm, fun d hd => by cases hd⟩
  unfold enter
  rw [hatr]
  dsimp only [PyFloat.rat?]
  split
  · exact ⟨e, rfl, rfl, rfl, hrefl, .inl rfl⟩
  · split
    · exact ⟨_, rfl, rfl, rfl, hrefl, .inr ⟨_, rfl, rfl, rfl⟩⟩
    · exact ⟨_, rfl, rfl, rfl, ⟨[_], rfl, fun d hd => by rw [mem_singleton.1 hd]⟩, .inl rfl⟩

theorem enter_position_congr {p : PendingSignal} {row row' : BacktestRow} (hopen : row.open_ = row'.open_) :
    (e.enter g p i row).map (·.position) = (e.enter g p i row').map (·.position) := by
  unfold enter
  rw [hopen]
  cases p.atr.rat? with
  | none => rfl
  | some atr =>
    dsimp only
    split
    · rfl
    · split <;> rfl

theorem opened_congr {row row' : BacktestRow} (hopen : row.open_ = row'.open_) :
    opened g e i row = opened g e i row' := by
  unfold opened enterPending
  cases e.position with
  | some p => rfl
  | none =>
    cases e.pending with
    | none => rfl
    | some p =>
      dsimp only
      by_cases hlt : p.signalIndex < i
      · have hposition := enter_position_congr (g := g) (e := e) (i := i) (p := p) hopen
        rw [if_pos hlt, if_pos hlt]
        cases h : e.enter g p i row <;> cases h' : e.enter g p i row' <;> rw [h, h'] at hposition
        · rfl
        · cases hposition
        · cases hposition
        · exact Except.ok.inj hposition
      · rw [if_neg hlt, if_neg hlt]

theorem opened_spec (h : e.Bounded i) {row : BacktestRow} {q : OpenPosition} (hq : opened g e i row = some q) :
    q.entryIndex = i ∧ q.signalIndex < i := by
  unfold opened enterPending at hq
  cases hposition : e.position with
  | some p =>
    rw [hposition] at hq
    cases hq
  | none =>
    rw [hposition] at hq
    cases hpending : e.pending with
    | none =>
      rw [hpending] at hq
      dsimp only at hq
      rw [hposition] at hq
      cases hq
    | some p =>
      obtain ⟨hlt, atr, hatr⟩ := h.pending p hpending
      obtain ⟨e₁, henter, -, -, -, hopens⟩ := enter_spec (g := g) (e := e) (i := i) hatr row
      rw [hpending] at hq
      dsimp only at hq
      rw [if_pos hlt, henter] at hq
      change e₁.position = some q at hq
      rcases hopens with hsame | ⟨q', hq', hsignal, hentry⟩
      · rw [hsame, hposition] at hq
        cases hq
      · rw [hq', Option.some.injEq] at hq
        rw [← hq, hsignal]
        exact ⟨hentry, hlt⟩

theorem enterPending_spec (h : e.Bounded i) (row : BacktestRow) :
    ∃ e', e.enterPending g i row = .ok e' ∧ e'.Bounded (i + 1) ∧ Adds table i (opened g e i row) e e' := by
  have hbounded := h.mono (Nat.le_succ i)
  cases hposition : e.position with
  | some q =>
    refine ⟨e, ?_, hbounded, ?_⟩
    · unfold enterPending
      rw [hposition]
    · unfold opened
      rw [hposition]
      exact .refl table i e
  | none =>
    cases hpending : e.pending with
    | none =>
      have henter : e.enterPending g i row = .ok e := by
        unfold enterPending
        rw [hposition, hpending]
      refine ⟨e, henter, hbounded, ?_⟩
      unfold opened
      rw [hposition, henter]
      dsimp only
      rw [hposition]
      exact .refl table i e
    | some p =>
      obtain ⟨hlt, atr, hatr⟩ := h.pending p hpending
      obtain ⟨e₁, henter, htrades, -, hdecisions, hopens⟩ := enter_spec (g := g) (e := e) (i := i) hatr row
      have hentered : e.enterPending g i row = .ok { e₁ with pending := none } := by
        unfold enterPending
        rw [hposition, hpending]
        dsimp only
        rw [if_pos hlt, henter]
        rfl
      refine ⟨_, hentered, ⟨(fun q hq => by cases hq), fun q hq => ?_⟩, hdecisions, ?_, ?_⟩
      · rcases hopens with hsame | ⟨q', hq', hsignal, hentry⟩
        · rw [show _ = e₁.position from rfl, hsame, hposition] at hq
          cases hq
        · rw [show _ = e₁.position from rfl, hq'] at hq
          cases hq
          omega
      · exact ⟨[], by rw [append_nil]; exact htrades, fun t ht => by cases ht⟩
      · unfold opened entries
        rw [hposition, hentered]
        dsimp only
        rw [htrades]
        simp

/-! ### The calls of a candle -/

theorem evaluateExit_spec {p : OpenPosition} (hp : e.position = some p) (h : e.Bounded (i + 1)) (hi : i < table.length)
    (row : BacktestRow) :
    ∃ e', e.evaluateExit g table p i row = .ok e' ∧ e'.Bounded (i + 1) ∧ Adds table i none e e' := by
  obtain ⟨hsignal, hentry⟩ := h.position p hp
  have hclose : ∀ exitPrice reason, ∃ e', e.close g table p i exitPrice reason = .ok e' ∧ e'.Bounded (i + 1) ∧
      Adds table i none e e' := by
    intro exitPrice reason
    obtain ⟨e', hclosed, hposition, hpending, hadds⟩ :=
      close_spec (g := g) hp (by omega) (by omega) hi exitPrice reason
    refine ⟨e', hclosed, ⟨fun q hq => h.pending q (hpending ▸ hq), fun q hq => ?_⟩, hadds⟩
    rw [hposition] at hq
    cases hq
  unfold evaluateExit
  split
  · exact hclose _ _
  · split
    · exact hclose _ _
    · split
      · exact hclose _ _
      · exact ⟨e, rfl, h, .refl table i e⟩

theorem processCandle_spec (h : e.Bounded i) {row : BacktestRow} (hrow : table[i]? = some row) :
    ∃ e', e.processCandle g table i = .ok e' ∧ e'.Bounded (i + 1) ∧ Adds table i (opened g e i row) e e' := by
  have hi : i < table.length := (List.getElem?_eq_some_iff.1 hrow).1
  have hread : rowAt table i = .ok row := by
    unfold rowAt
    rw [hrow]
  obtain ⟨e₁, hentered, hbounded, hadds⟩ := @enterPending_spec g table e i h row
  unfold processCandle
  simp only [bind, Except.bind, hread, hentered]
  cases hposition : e₁.position with
  | none => exact ⟨e₁, rfl, hbounded, hadds⟩
  | some p =>
    obtain ⟨e₂, hexit, hbounded', hadds'⟩ := evaluateExit_spec (g := g) hposition hbounded hi row
    exact ⟨e₂, hexit, hbounded', hadds.trans hadds'⟩

theorem processCandle_congr (hrows : ∀ j < k, table[j]? = table'[j]?) (hi : i < k) (h : e.Bounded i) :
    e.processCandle g table i = e.processCandle g table' i := by
  unfold processCandle
  rw [rowAt_congr (hrows i hi)]
  refine bind_congr fun row => ?_
  obtain ⟨e₁, hentered, hbounded, -⟩ := @enterPending_spec g table e i h row
  simp only [bind, Except.bind, hentered]
  cases hposition : e₁.position with
  | none => rfl
  | some p =>
    obtain ⟨hsignal, hentry⟩ := hbounded.position p hposition
    dsimp only
    unfold evaluateExit
    rw [close_congr hrows (by omega) (by omega) hi, close_congr hrows (by omega) (by omega) hi,
      close_congr hrows (by omega) (by omega) hi]

theorem judge_spec (signal : BacktestSignal) (row : BacktestRow) : (e.judge g signal i row).2.2 = e.pending ∨
    ∃ p, (e.judge g signal i row).2.2 = some p ∧ p.signalIndex = i ∧ p.atr = row.atr := by
  unfold judge
  split
  · exact .inl rfl
  · split
    · exact .inl rfl
    · split
      · exact .inl rfl
      · split
        · exact .inl rfl
        · split
          · exact .inl rfl
          · split
            · exact .inr ⟨_, rfl, rfl, rfl⟩
            · exact .inl rfl

theorem queueSignal_spec (h : e.Bounded (i + 1)) {row : BacktestRow} (hrow : table[i]? = some row)
    (hatr : ∃ atr, row.atr = .fin atr) (signal : BacktestSignal) :
    ∃ e', e.queueSignal g table signal i = .ok e' ∧ e'.Bounded (i + 1) ∧ Adds table i none e e' := by
  have hread : rowAt table i = .ok row := by
    unfold rowAt
    rw [hrow]
  have hjudge := judge_spec (g := g) (e := e) (i := i) signal row
  unfold queueSignal
  rw [hread]
  generalize hjudged : e.judge g signal i row = judged at hjudge
  obtain ⟨state, reasons, pending⟩ := judged
  refine ⟨{ e with
      pending
      decisions := e.decisions ++ [⟨i, row.time, signalText signal, signal.confidence, state, reasons, signal.entry,
        signal.stopLoss, signal.takeProfit⟩] }, ?_, ⟨fun p hp => ?_, h.position⟩,
    ⟨[_], rfl, fun d hd => by rw [mem_singleton.1 hd]⟩,
    ⟨[], (append_nil _).symm, fun t ht => by cases ht⟩, (append_nil _).symm⟩
  · simp only [bind, Except.bind, hjudged]
    rfl
  · rcases hjudge with hsame | ⟨q, hq, hindex, hqatr⟩
    · exact h.pending p (hsame ▸ hp)
    · have hpq : p = q := Option.some.inj (hp.symm.trans hq)
      subst hpq
      rw [hqatr]
      exact ⟨by omega, hatr⟩

end

end BacktestEngine
end Jqe
