import Jqe.MtfBacktest
/-!
# MtfBacktestSound — the trades of `_execute`

Every trade is the one of a checked signal (`mem_run`), so its entry, its size and its result follow from the signal and
the bars up to its exit.
-/
namespace Jqe
namespace Mtf
namespace Replay

open List

variable {rd : ℕ → ℚ → ℚ} {s s' : Replay}

/-! ### The loop -/

theorem run_trades (i : ℕ) : (s.run rd i).trades =
    if i + 1 < s.candles.length then
      match s.check rd i with
      | .lot lot => s.tradeAt rd i lot :: (s.run rd ((s.tradeAt rd i lot).exit + 1)).trades
      | _ => (s.run rd (i + 1)).trades
    else [] := by
  rw [run]
  split
  · cases s.check rd i <;> rfl
  · rfl

theorem mem_run {i : ℕ} {x : Executed} (h : x ∈ (s.run rd i).trades) :
    i ≤ x.signal ∧ x.signal + 1 < s.candles.length ∧ x.signal < x.exit ∧
      ∃ lot, s.check rd x.signal = .lot lot ∧ x = s.tradeAt rd x.signal lot := by
  induction i using run.induct rd s with
  | case1 i hi hcheck ih | case2 i hi hcheck ih | case3 i hi hcheck ih =>
    rw [run_trades, if_pos hi, hcheck] at h
    obtain ⟨hle, hrest⟩ := ih h
    exact ⟨Nat.le_of_succ_le hle, hrest⟩
  | case4 i hi lot hcheck hexit ih =>
    rw [run_trades, if_pos hi, hcheck] at h
    rcases mem_cons.1 h with rfl | h
    · exact ⟨le_rfl, hi, hexit, lot, hcheck, rfl⟩
    · obtain ⟨hle, hrest⟩ := ih h
      rw [tradeAt_exit] at hle
      exact ⟨by omega, hrest⟩
  | case5 i hi =>
    rw [run_trades, if_neg hi] at h
    cases h

theorem run_pairwise (i : ℕ) : (s.run rd i).trades.Pairwise fun x y => x.exit < y.signal := by
  induction i using run.induct rd s with
  | case1 i hi hcheck ih | case2 i hi hcheck ih | case3 i hi hcheck ih =>
    rw [run_trades, if_pos hi, hcheck]
    exact ih
  | case4 i hi lot hcheck _ ih =>
    rw [run_trades, if_pos hi, hcheck]
    exact .cons (fun y hy => (mem_run hy).1) ih
  | case5 i hi =>
    rw [run_trades, if_neg hi]
    exact .nil

/-! ### The size -/

theorem check_eq_lot {i : ℕ} {lot : ℚ} (h : s.check rd i = .lot lot) :
    s.signal i ≠ 0 ∧ 0 < s.stop i ∧ lot = floorToStep rd (s.lotMax (s.stop i)) s.terms.volumeStep ∧
      s.terms.volumeMin - 1 / 10 ^ 12 ≤ lot := by
  unfold check at h
  split at h
  · cases h
  · rename_i hsignal
    split at h
    · cases h
    · rename_i hstop
      split at h
      · cases h
      · dsimp only at h
        split at h
        · cases h
        · rename_i hlot
          cases h
          exact ⟨hsignal, not_le.1 hstop, rfl, not_lt.1 hlot⟩

theorem floorToStep_bounds (value : ℚ) {step : ℚ} (hstep : 0 < step) :
    (∃ k : ℤ, floorToStep exact value step = k * step) ∧ floorToStep exact value step ≤ value + 1 / 10 ^ 9 * step := by
  unfold floorToStep exact
  rw [if_neg (not_le.2 hstep)]
  refine ⟨⟨_, rfl⟩, ?_⟩
  have hfloor := mul_le_mul_of_nonneg_right (Int.floor_le (value / step + 1 / 10 ^ 9)) hstep.le
  rwa [add_mul, div_mul_cancel₀ _ hstep.ne'] at hfloor

/-- **Terms a broker can have**: a positive least lot, step and value of a point. -/
structure Tradable (s : Replay) : Prop where
  volumeMin : 0 < s.terms.volumeMin
  volumeStep : 0 < s.terms.volumeStep
  value : 0 < s.vppMin

theorem Tradable.vppPerLot_pos (h : s.Tradable) : 0 < s.vppPerLot := by
  unfold vppPerLot
  rw [if_neg h.volumeMin.ne']
  exact div_pos h.value h.volumeMin

theorem Tradable.risk_lotMax (h : s.Tradable) {stopDist : ℚ} (hstop : 0 < stopDist) :
    s.vppPerLot * s.lotMax stopDist * stopDist = s.cap := by
  have hloss : 0 < s.vppMin * stopDist := mul_pos h.value hstop
  have hmin := h.volumeMin.ne'
  have hvalue := h.value.ne'
  unfold vppPerLot lotMax
  rw [if_neg hmin, if_pos hloss]
  field_simp

theorem Tradable.risked_le (h : s.Tradable) {stopDist lot : ℚ} (hstop : 0 < stopDist)
    (hlot : lot ≤ s.lotMax stopDist + 1 / 10 ^ 9 * s.terms.volumeStep) :
    s.vppPerLot * lot * stopDist ≤ s.cap + 1 / 10 ^ 9 * (s.vppPerLot * s.terms.volumeStep * stopDist) := by
  calc s.vppPerLot * lot * stopDist
      ≤ s.vppPerLot * (s.lotMax stopDist + 1 / 10 ^ 9 * s.terms.volumeStep) * stopDist :=
        mul_le_mul_of_nonneg_right (mul_le_mul_of_nonneg_left hlot h.vppPerLot_pos.le) hstop.le
    _ = s.vppPerLot * s.lotMax stopDist * stopDist + 1 / 10 ^ 9 * (s.vppPerLot * s.terms.volumeStep * stopDist) := by ring
    _ = _ := by rw [h.risk_lotMax hstop]

/-! ### The result -/

variable {p : Position} {x : ExitReason × ℚ}

theorem firstExit_some {bars : List Candle} {e j : ℕ} (h : s.firstExit p bars e = some (j, x)) :
    ∃ c ∈ bars, s.exitOn p c = some x := by
  induction bars generalizing e with
  | nil => cases h
  | cons c bars ih =>
    unfold firstExit at h
    cases hc : s.exitOn p c with
    | some y =>
      rw [hc, Option.some.injEq, Prod.mk.injEq] at h
      exact ⟨c, mem_cons_self, hc.trans (congrArg some h.2)⟩
    | none =>
      rw [hc] at h
      obtain ⟨c', hmem, hexit⟩ := ih h
      exact ⟨c', mem_cons_of_mem c hmem, hexit⟩

def gain (p : Position) (exitPrice : ℚ) : ℚ :=
  match p.dir with
  | .long => exitPrice - p.entryFill
  | .short => p.entryFill - exitPrice

theorem pnlOf_eq (p : Position) (exitPrice lot : ℚ) : s.pnlOf p exitPrice lot = gain p exitPrice * (s.vppPerLot * lot) := by
  unfold pnlOf gain
  cases p.dir <;> rfl

theorem gain_of_exitOn {dir : Dir} {entry c : Candle} {stopDist price : ℚ} {reason : ExitReason}
    (hspread : 0 ≤ s.spreadOf c) (h : s.exitOn (s.openAt dir entry stopDist) c = some (reason, price)) :
    (reason = .sl ∧ gain (s.openAt dir entry stopDist) price ≤ -stopDist) ∨
      (reason = .tp ∧ 2 * stopDist ≤ gain (s.openAt dir entry stopDist) price) := by
  have hslip : 0 ≤ s.slip c := mul_nonneg (by norm_num [slippageSpreadFraction]) hspread
  unfold exitOn openAt targetRr at h
  unfold gain openAt targetRr
  cases dir <;> dsimp only at h ⊢ <;> split at h
  · cases h
    refine .inl ⟨rfl, ?_⟩
    have := min_le_right c.open_ (entry.open_ + s.spreadOf entry + s.slip entry - stopDist)
    linarith
  · split at h
    · cases h
      refine .inr ⟨rfl, ?_⟩
      have := le_max_right c.open_ (entry.open_ + s.spreadOf entry + s.slip entry + stopDist * 2)
      linarith
    · cases h
  · cases h
    refine .inl ⟨rfl, ?_⟩
    have := le_max_right (c.open_ + s.spreadOf c) (entry.open_ - s.slip entry + stopDist)
    linarith
  · split at h
    · cases h
      refine .inr ⟨rfl, ?_⟩
      have := min_le_right (c.open_ + s.spreadOf c) (entry.open_ - s.slip entry - stopDist * 2)
      linarith
    · cases h

/-- **What the trade of a signal is worth.** -/
theorem gain_of_exitAt {i : ℕ} (hspread : ∀ c ∈ s.candles, 0 ≤ s.spreadOf c) :
    ((s.exitAt i).2.1 = .sl → gain (s.positionAt i) (s.exitAt i).2.2 ≤ -s.stop i) ∧
      ((s.exitAt i).2.1 = .tp → 2 * s.stop i ≤ gain (s.positionAt i) (s.exitAt i).2.2) := by
  unfold exitAt exitOf
  cases hx : s.firstExit (s.positionAt i) (s.candles.drop (i + 1)) (i + 1) with
  | some x =>
    obtain ⟨c, hmem, hexit⟩ := firstExit_some hx
    rcases gain_of_exitOn (hspread c (mem_of_mem_drop hmem)) hexit with ⟨hsl, hle⟩ | ⟨htp, hle⟩
    · exact ⟨fun _ => hle, fun htp => by rw [hsl] at htp; cases htp⟩
    · exact ⟨fun hsl => (by rw [htp] at hsl; cases hsl), fun _ => hle⟩
  | none => exact ⟨nofun, nofun⟩

theorem exitAt_of_exitOn {i : ℕ} (hi : i + 1 < s.candles.length)
    (h : s.exitOn (s.positionAt i) (s.bar (i + 1)) = some x) : s.exitAt i = (i + 1, x) := by
  unfold bar at h
  rw [getD_eq_getElem?_getD, getElem?_eq_getElem hi, Option.getD_some] at h
  unfold exitAt exitOf
  rw [drop_eq_getElem_cons hi, firstExit, h]

/-! ### Two series -/

def «over» (s : Replay) (candles : List Candle) : Replay := { s with candles := candles }

theorem over_firstExit {candles : List Candle} (p : Position) (bars : List Candle) (e : ℕ) :
    (s.over candles).firstExit p bars e = s.firstExit p bars e := by
  induction bars generalizing e with
  | nil => rfl
  | cons c bars ih =>
    unfold firstExit
    rw [ih]
    rfl

theorem firstExit_of_take {bars bars' : List Candle} {e j : ℕ} (h : s.firstExit p bars e = some (j, x))
    (htake : bars'.take (j + 1 - e) = bars.take (j + 1 - e)) : s.firstExit p bars' e = some (j, x) := by
  have hle := s.le_firstExit h
  induction bars generalizing e bars' with
  | nil => cases h
  | cons c bars ih =>
    obtain ⟨k, hk⟩ : ∃ k, j + 1 - e = k + 1 := ⟨j - e, by omega⟩
    rw [hk, take_succ_cons] at htake
    cases bars' with
    | nil => cases htake
    | cons c' bars' =>
      rw [take_succ_cons, List.cons.injEq] at htake
      obtain ⟨rfl, htake⟩ := htake
      unfold firstExit at h ⊢
      cases hc : s.exitOn p c' with
      | some y =>
        rw [hc] at h
        exact h
      | none =>
        rw [hc] at h
        exact ih h (by rwa [show j + 1 - (e + 1) = k by omega]) (s.le_firstExit h)

theorem bar_of_take {candles : List Candle} {k j : ℕ} (htake : candles.take k = s.candles.take k) (hj : j < k) :
    (s.over candles).bar j = s.bar j := by
  unfold bar «over»
  rw [getD_eq_getElem?_getD, getD_eq_getElem?_getD, ← getElem?_take_of_lt hj, htake,
    getElem?_take_of_lt hj]

/-- **A trade that ends by its levels looks at no bar past its exit.** -/
theorem tradeAt_of_take {candles : List Candle} {i : ℕ} {lot : ℚ} (hi : i < (s.exitAt i).1)
    (htake : candles.take ((s.exitAt i).1 + 1) = s.candles.take ((s.exitAt i).1 + 1)) (hreason : (s.exitAt i).2.1 ≠ .eod) :
    (s.over candles).tradeAt rd i lot = s.tradeAt rd i lot := by
  have hentry : (s.over candles).bar (i + 1) = s.bar (i + 1) := bar_of_take htake (Nat.succ_lt_succ hi)
  have hlast : (s.over candles).bar (s.exitAt i).1 = s.bar (s.exitAt i).1 :=
    bar_of_take htake (Nat.lt_succ_self _)
  have hposition : (s.over candles).positionAt i = s.positionAt i := by
    unfold positionAt
    rw [hentry]
    rfl
  have hexit : (s.over candles).exitAt i = s.exitAt i := by
    unfold exitAt at htake hreason ⊢
    rw [hposition]
    unfold exitOf at htake hreason ⊢
    cases hfirst : s.firstExit (s.positionAt i) (s.candles.drop (i + 1)) (i + 1) with
    | none =>
      rw [hfirst] at hreason
      exact absurd rfl hreason
    | some x =>
      rw [hfirst] at htake
      have hdrop := congrArg (List.drop (i + 1)) htake
      rw [drop_take, drop_take] at hdrop
      have hfirst' : (s.over candles).firstExit (s.positionAt i) (candles.drop (i + 1)) (i + 1) = some x :=
        (over_firstExit _ _ _).trans (firstExit_of_take hfirst hdrop)
      dsimp only
      rw [show (s.over candles).candles = candles from rfl, hfirst']
  have hreport : ∀ p x, (s.over candles).bar (s.exitAt i).1 = s.bar (s.exitAt i).1 →
      (s.over candles).report rd i lot p (s.exitAt i).1 x (s.exitAt i).2.2 = s.report rd i lot p (s.exitAt i).1 x (s.exitAt i).2.2 := by
    intro p x hbar
    unfold report
    rw [hbar]
    simp only [hentry]
    rfl
  unfold tradeAt
  rw [hexit, hposition, hreport _ _ hlast]

theorem exitOn_reason {c : Candle} (h : s.exitOn p c = some x) : x.1 ≠ .eod := by
  unfold exitOn at h
  cases hdir : p.dir <;> rw [hdir] at h <;> dsimp only at h <;> split at h
  · cases h
    exact nofun
  · split at h
    · cases h
      exact nofun
    · cases h
  · cases h
    exact nofun
  · split at h
    · cases h
      exact nofun
    · cases h

theorem firstExit_lt {bars : List Candle} {e j : ℕ} (h : s.firstExit p bars e = some (j, x)) : j < e + bars.length := by
  induction bars generalizing e with
  | nil => cases h
  | cons c bars ih =>
    rw [length_cons]
    unfold firstExit at h
    cases hc : s.exitOn p c with
    | some y =>
      rw [hc, Option.some.injEq, Prod.mk.injEq] at h
      omega
    | none =>
      rw [hc] at h
      have := ih h
      omega

theorem exit_lt {i : ℕ} (h : i + 1 < s.candles.length) : (s.exitAt i).1 < s.candles.length := by
  unfold exitAt exitOf
  cases hx : s.firstExit (s.positionAt i) (s.candles.drop (i + 1)) (i + 1) with
  | some x =>
    have := firstExit_lt hx
    rw [length_drop] at this
    dsimp only
    omega
  | none => exact Nat.sub_lt (by omega) Nat.one_pos

theorem exit_of_eod {i : ℕ} (h : (s.exitAt i).2.1 = .eod) : (s.exitAt i).1 = s.candles.length - 1 := by
  unfold exitAt exitOf at h ⊢
  cases hx : s.firstExit (s.positionAt i) (s.candles.drop (i + 1)) (i + 1) with
  | some x =>
    rw [hx] at h
    obtain ⟨c, -, hexit⟩ := firstExit_some hx
    exact absurd h (exitOn_reason hexit)
  | none => rfl

/-- **Two series that agree up to the exit of a trade have the same trades up to it.** -/
theorem run_stable {candles : List Candle} {i : ℕ} {pre post : List Executed} {x : Executed}
    (hrun : (s.run rd i).trades = pre ++ x :: post) (hreason : x.trade.reason ≠ .eod)
    (htake : candles.take (x.exit + 1) = s.candles.take (x.exit + 1)) (hexit : x.exit < s.candles.length) :
    ∃ post', ((s.over candles).run rd i).trades = pre ++ x :: post' := by
  have hlength := congrArg List.length htake
  rw [length_take, length_take] at hlength
  have hx : x ∈ (s.run rd i).trades := by
    rw [hrun]
    exact mem_append_right _ mem_cons_self
  have hafter : i + 1 < (s.over candles).candles.length := by
    show i + 1 < candles.length
    obtain ⟨hle, -, hlt, -⟩ := mem_run hx
    omega
  induction i using run.induct rd s generalizing pre with
  | case1 i hi hcheck ih | case2 i hi hcheck ih | case3 i hi hcheck ih =>
    rw [run_trades, if_pos hi, hcheck] at hrun hx
    rw [run_trades, if_pos hafter, show (s.over candles).check rd i = _ from hcheck]
    obtain ⟨hle, -, hlt, -⟩ := mem_run hx
    exact ih hrun hx (by show i + 1 + 1 < candles.length; omega)
  | case4 i hi lot hcheck hlt ih =>
    rw [run_trades, if_pos hi, hcheck] at hrun hx
    rw [run_trades, if_pos hafter, show (s.over candles).check rd i = _ from hcheck]
    cases pre with
    | nil =>
      obtain ⟨hhead, -⟩ := List.cons.inj hrun
      subst hhead
      exact ⟨_, congrArg (· :: _) (tradeAt_of_take hlt htake hreason)⟩
    | cons t pre =>
      obtain ⟨rfl, hrest⟩ := List.cons.inj hrun
      have hx' : x ∈ (s.run rd ((s.tradeAt rd i lot).exit + 1)).trades := by
        rw [hrest]
        exact mem_append_right _ mem_cons_self
      obtain ⟨hle, hsignal, hxlt, -⟩ := mem_run hx'
      have hle' : (s.exitAt i).1 + 1 ≤ x.signal := hle
      -- a trade marked at the last close would be the last one
      have hnot : (s.exitAt i).2.1 ≠ .eod := by
        intro heod
        have := exit_of_eod heod
        omega
      have htake' : candles.take ((s.exitAt i).1 + 1) = s.candles.take ((s.exitAt i).1 + 1) := by
        have := congrArg (List.take ((s.exitAt i).1 + 1)) htake
        rwa [take_take, take_take, Nat.min_eq_left (by omega)] at this
      have hsame : (s.over candles).tradeAt rd i lot = s.tradeAt rd i lot := tradeAt_of_take hlt htake' hnot
      obtain ⟨post', hpost⟩ := ih hrest hx' (by show (s.exitAt i).1 + 1 + 1 < candles.length; omega)
      refine ⟨post', ?_⟩
      dsimp only
      rw [hsame, hpost]
      rfl
  | case5 i hi =>
    rw [run_trades, if_neg hi] at hx
    cases hx

/-! ### What the executor promises -/

structure Sound (s : Replay) (x : Executed) : Prop where
  signal : s.signal x.signal ≠ 0
  dir : x.trade.dir = .long ↔ s.signal x.signal = 1
  entry : x.trade.entryTs = (s.bar (x.signal + 1)).time
  exit : x.signal < x.exit ∧ x.trade.exitTs = (s.bar x.exit).time
  step : ∃ k : ℤ, x.trade.lot = k * s.terms.volumeStep
  least : s.terms.volumeMin - 1 / 10 ^ 12 ≤ x.trade.lot
  risked : x.trade.risked ≤ s.cap + 1 / 10 ^ 9 * (s.vppPerLot * s.terms.volumeStep * s.stop x.signal)
  lot_pos : 1 / 10 ^ 12 < s.terms.volumeMin → 0 < x.trade.lot
  stopped : 0 < x.trade.lot → x.trade.reason = .sl → x.trade.r ≤ -1
  taken : 0 < x.trade.lot → x.trade.reason = .tp → 2 ≤ x.trade.r

theorem Tradable.sound (h : s.Tradable) (hspread : ∀ c ∈ s.candles, 0 ≤ s.spreadOf c) {i : ℕ} {lot : ℚ}
    (hcheck : s.check exact i = .lot lot) (hexit : i < (s.exitAt i).1) : s.Sound (s.tradeAt exact i lot) := by
  obtain ⟨hsignal, hstop, hlot, hleast⟩ := check_eq_lot hcheck
  obtain ⟨hstep, hle⟩ := floorToStep_bounds (s.lotMax (s.stop i)) h.volumeStep
  rw [← hlot] at hstep hle
  obtain ⟨hsl, htp⟩ := gain_of_exitAt (i := i) hspread
  have hrisk (hpos : 0 < lot) : 0 < s.vppPerLot * lot * s.stop i := mul_pos (mul_pos h.vppPerLot_pos hpos) hstop
  have hr (hpos : 0 < lot) : (s.tradeAt exact i lot).trade.r =
      gain (s.positionAt i) (s.exitAt i).2.2 * (s.vppPerLot * lot) / (s.vppPerLot * lot * s.stop i) := by
    show (if 0 < s.vppPerLot * lot * s.stop i then _ / _ else (0 : ℚ)) = _
    rw [if_pos (hrisk hpos), pnlOf_eq]
  have hunit (hpos : 0 < lot) : 0 ≤ s.vppPerLot * lot := (mul_pos h.vppPerLot_pos hpos).le
  refine ⟨hsignal, ?_, rfl, ⟨hexit, rfl⟩, hstep, hleast, h.risked_le hstop hle, fun hmin => ?_, fun hpos hreason => ?_,
    fun hpos hreason => ?_⟩
  · rw [tradeAt_dir]
    unfold dirAt
    show _ ↔ s.signal i = 1
    by_cases hone : s.signal i = 1 <;> simp [hone]
  · show 0 < lot
    linarith
  · rw [hr hpos, div_le_iff₀ (hrisk hpos)]
    have := mul_le_mul_of_nonneg_right (hsl hreason) (hunit hpos)
    linarith
  · rw [hr hpos, le_div_iff₀ (hrisk hpos)]
    have := mul_le_mul_of_nonneg_right (htp hreason) (hunit hpos)
    linarith

/-! ### Positions that end on their entry bar -/

def wideBar : Candle := ⟨0, 100, 110, 90, 100, 1⟩

/-- `n` wide bars, with stops of one. -/
def wideReplay (n : ℕ) (terms : Terms) (signal : ℕ → ℤ) : Replay :=
  ⟨List.replicate n wideBar, 1, signal, fun _ => 1, terms, 1, 0⟩

def oneLot : Terms := ⟨1, 1, some 1, 0⟩

variable {n i : ℕ} {terms : Terms} {signal : ℕ → ℤ}

theorem wideReplay_length : (wideReplay n terms signal).candles.length = n := length_replicate

theorem wideReplay_spread {c : Candle} (hc : c ∈ (wideReplay n terms signal).candles) :
    0 ≤ (wideReplay n terms signal).spreadOf c := by
  obtain rfl := eq_of_mem_replicate hc
  norm_num [spreadOf, wideBar, wideReplay]

theorem wideReplay_exitAt (h : i + 1 < n) : (wideReplay n terms signal).exitAt i =
    (i + 1, .sl, if signal i = 1 then 100 - slippageSpreadFraction else 101 + slippageSpreadFraction) := by
  refine exitAt_of_exitOn (by rwa [wideReplay_length]) ?_
  have hbar : (wideReplay n terms signal).bar (i + 1) = wideBar := by
    unfold bar wideReplay
    rw [getD_eq_getElem?_getD, getElem?_replicate_of_lt h, Option.getD_some]
  unfold positionAt
  rw [hbar]
  by_cases hlong : signal i = 1
  · norm_num [exitOn, openAt, dirAt, wideReplay, hlong, wideBar, spreadOf, slip, slippageSpreadFraction, targetRr]
  · norm_num [exitOn, openAt, dirAt, wideReplay, hlong, wideBar, spreadOf, slip, slippageSpreadFraction, targetRr]

/-- **The trades of `_execute`**: each is sound, the next one's signal is after the exit, and another course of the candles
after the exit of a trade changes neither it nor an earlier one. -/
theorem execute_sound (s : Replay) (hterms : s.Tradable) (hspread : ∀ c ∈ s.candles, 0 ≤ s.spreadOf c) :
    (∀ x ∈ s.executed exact, s.Sound x) ∧ (s.executed exact).Pairwise (fun x y => x.exit < y.signal) ∧
      ∀ candles pre x post, s.executed exact = pre ++ x :: post →
        candles.take (x.exit + 1) = s.candles.take (x.exit + 1) →
        candles.length = s.candles.length ∨ x.trade.reason ≠ .eod →
        ∃ post', (s.over candles).executed exact = pre ++ x :: post' := by
  refine ⟨fun x hx => ?_, run_pairwise _, fun candles pre x post hrun htake hwhole => ?_⟩
  · obtain ⟨-, -, hlt, lot, hcheck, heq⟩ := mem_run hx
    rw [heq] at hlt ⊢
    exact hterms.sound hspread hcheck hlt
  · have hx : x ∈ s.executed exact := by
      rw [hrun]
      exact List.mem_append_right _ List.mem_cons_self
    obtain ⟨-, hsignal, hlt, lot, -, heq⟩ := mem_run hx
    by_cases heod : x.trade.reason = .eod
    · -- the last bar is the exit, so the series are one
      have hlength := hwhole.resolve_right (not_not.2 heod)
      have hexit : x.exit = s.candles.length - 1 := by
        rw [heq] at heod ⊢
        exact exit_of_eod heod
      rw [hexit, Nat.sub_add_cancel (by omega), List.take_length, ← hlength, List.take_length] at htake
      refine ⟨post, ?_⟩
      rw [htake]
      exact hrun
    · refine run_stable hrun heod htake ?_
      rw [heq]
      exact exit_lt (by omega)

theorem twoTrades_executed : (wideReplay 503 oneLot fun _ => 1).executed exact =
    [(wideReplay 503 oneLot fun _ => 1).tradeAt exact 499 1, (wideReplay 503 oneLot fun _ => 1).tradeAt exact 501 1] := by
  have hcheck : ∀ i, (wideReplay 503 oneLot fun _ => 1).check exact i = .lot 1 := fun i => by
    norm_num [check, wideReplay, oneLot, lotMax, vppMin, floorToStep, exact]
  have hend : ((wideReplay 503 oneLot fun _ => 1).run exact (502 + 1)).trades = [] := by
    rw [run_trades, wideReplay_length, if_neg (by omega)]
  unfold executed window
  rw [run_trades, wideReplay_length, if_pos (by omega), hcheck]
  dsimp only
  rw [tradeAt_exit, wideReplay_exitAt (by omega), run_trades, wideReplay_length, if_pos (by omega), hcheck]
  dsimp only
  rw [tradeAt_exit, wideReplay_exitAt (by omega), hend]

/-- Two trades of one lot at a spread of one are sound. -/
theorem execute_sound_unit : ∃ s : Replay, s.Tradable ∧ (∀ c ∈ s.candles, s.spreadOf c = 1) ∧
    (s.executed exact).map (·.signal) = [499, 501] ∧ ∀ x ∈ s.executed exact, s.Sound x := by
  have hterms : (wideReplay 503 oneLot fun _ => 1).Tradable :=
    ⟨by norm_num [wideReplay, oneLot], by norm_num [wideReplay, oneLot], by norm_num [wideReplay, oneLot, vppMin]⟩
  refine ⟨wideReplay 503 oneLot fun _ => 1, hterms, fun c hc => ?_, by rw [twoTrades_executed]; rfl,
    (execute_sound _ hterms fun _ => wideReplay_spread).1⟩
  obtain rfl := List.eq_of_mem_replicate hc
  norm_num [spreadOf, wideBar, wideReplay]

/-- Terms whose least lot is below the tolerance of the comparison. -/
def dust : Terms := ⟨1 / 10 ^ 13, 1, some 1, 0⟩

theorem dust_executed : (wideReplay 501 dust fun _ => 1).executed exact =
    [(wideReplay 501 dust fun _ => 1).tradeAt exact 499 0] := by
  have hcheck : (wideReplay 501 dust fun _ => 1).check exact 499 = .lot 0 := by
    norm_num [check, wideReplay, dust, lotMax, vppMin, floorToStep, exact]
  have hend : ((wideReplay 501 dust fun _ => 1).run exact (500 + 1)).trades = [] := by
    rw [run_trades, wideReplay_length, if_neg (by omega)]
  unfold executed window
  rw [run_trades, wideReplay_length, if_pos (by omega), hcheck]
  dsimp only
  rw [tradeAt_exit, wideReplay_exitAt (by omega), hend]

/-- A lot of zero passes the check, and the trade that is stopped has a result of zero. -/
theorem execute_dust : (wideReplay 501 dust fun _ => 1).Tradable ∧ (∀ c ∈ (wideReplay 501 dust fun _ => 1).candles,
    0 ≤ (wideReplay 501 dust fun _ => 1).spreadOf c ∧ c.low ≤ c.open_ ∧ c.open_ ≤ c.high ∧ c.low ≤ c.close ∧ c.close ≤ c.high) ∧
    ∃ x ∈ (wideReplay 501 dust fun _ => 1).executed exact, x.trade.reason = .sl ∧ ¬x.trade.r ≤ -1 := by
  refine ⟨⟨by norm_num [wideReplay, dust], by norm_num [wideReplay, dust], by norm_num [wideReplay, dust, vppMin]⟩,
    fun c hc => ⟨wideReplay_spread hc, ?_⟩, ?_⟩
  · obtain rfl := List.eq_of_mem_replicate hc
    norm_num [wideBar]
  · rw [dust_executed]
    refine ⟨_, List.mem_singleton_self _, ?_, ?_⟩
    · rw [tradeAt_reason, wideReplay_exitAt (by omega)]
    · have hr : ((wideReplay 501 dust fun _ => 1).tradeAt exact 499 0).trade.r = 0 := by
        show (if 0 < (wideReplay 501 dust fun _ => 1).vppPerLot * 0 * 1 then _ / _ else (0 : ℚ)) = 0
        rw [if_neg (by simp)]
      rw [hr]
      norm_num

end Replay
end Mtf
end Jqe
