import Jqe.MtfBacktestSound
import Jqe.Mt5Volume
/-!
# RandomControl — `tools/weltrade_scope_backtest.py`: the random-entry control

`random_control` draws signals of both directions, more than the strategy has trades, and keeps the first of the trades
that the executor makes of them.  A draw is any choice without replacement; an index past the candles is refused.
-/
namespace Jqe
namespace Mtf

open List

def rounded (digits : ℕ) (x : ℚ) : ℚ := pyRound x digits

def Dir.sign : Dir → ℤ
  | long => 1
  | short => -1

/-- The arguments of `random_control` besides its seed; `pools` is `terms["eligible_random_indices"]`, and the signals of
`replay` are not read. -/
structure Control where
  replay : Replay
  pools : Dir → List ℕ
  strategy : List Trade
  simulations : ℕ := 200

def Dir.other : Dir → Dir
  | long => short
  | short => long

def tradesOf (dir : Dir) (trades : List Trade) : ℕ := (trades.map (·.dir)).count dir

/-- `random_sp["signal"]`: the shorts are written over the longs. -/
def randomSignal (chosen : Dir → List ℕ) (i : ℕ) : ℤ :=
  if i ∈ chosen .short then -1 else if i ∈ chosen .long then 1 else 0

theorem mem_of_randomSignal {chosen : Dir → List ℕ} {i : ℕ} (h : randomSignal chosen i ≠ 0) :
    i ∈ chosen (if randomSignal chosen i = 1 then .long else .short) := by
  unfold randomSignal at h ⊢
  by_cases hshort : i ∈ chosen .short
  · simp [hshort]
  · by_cases hlong : i ∈ chosen .long
    · simp [hshort, hlong]
    · simp [hshort, hlong] at h

namespace Control

variable (c : Control)

def target : ℕ := c.strategy.length

def observed : Dir → ℕ
  | .long => tradesOf .long c.strategy
  | .short => c.strategy.length - tradesOf .long c.strategy

/-- **What `rng.choice` may return**, for each simulation, multiplier and direction. -/
structure Draws where
  chosen : ℕ → ℕ → Dir → List ℕ
  subperm : ∀ k m dir, (chosen k m dir).Subperm (c.pools dir)
  size : ∀ k m dir, (chosen k m dir).length = min (c.observed dir * m) (c.pools dir).length

def randomReplay (chosen : Dir → List ℕ) : Replay := { c.replay with signal := randomSignal chosen, cap := 1 }

/-- The trades that one oversampling keeps. -/
def attempt (chosen : Dir → List ℕ) : Except PyExc (List Trade) :=
  match (chosen .long ++ chosen .short).find? fun i => c.replay.candles.length ≤ i with
  | some i => .error (.exception ("index " ++ toString i ++ " is out of bounds for axis 0 with size " ++
      toString c.replay.candles.length))
  | none => .ok (((c.randomReplay chosen).execute rounded).trades.take c.target)

variable {c}

def attempts (draws : c.Draws) (k : ℕ) : List ℕ → List Trade → Except PyExc (List Trade)
  | [], vals => .ok vals
  | m :: ms, _ => do
    let vals ← c.attempt (draws.chosen k m)
    if c.target ≤ vals.length then .ok vals else attempts draws k ms vals

def simulation (draws : c.Draws) (k : ℕ) : Except PyExc (List Trade) := do
  let vals ← attempts draws k [2, 3, 4, 6] []
  if vals.length ≠ c.target then
    .error (.exception ("random control could not match " ++ toString c.target ++ " trades; got " ++ toString vals.length))
  else .ok vals

/-- The trades of the simulations that are counted, of which the result has the mean R and the number. -/
def kept (draws : c.Draws) : Except PyExc (List (List Trade)) := (List.range c.simulations).mapM (simulation draws)

variable (c)

/-- **The control keeps the strategy's mix**: whatever is drawn, it raises or every simulation it counts has as many trades
of each direction as the strategy. -/
def KeepsMix : Prop :=
  ∀ draws : c.Draws, ∀ simulations, kept draws = .ok simulations →
    ∀ vals ∈ simulations, ∀ dir, tradesOf dir vals = tradesOf dir c.strategy

variable {c}

/-! ### What is kept -/

theorem tradesOf_add (trades : List Trade) : tradesOf .long trades + tradesOf .short trades = trades.length := by
  induction trades with
  | nil => rfl
  | cons t trades ih =>
    unfold tradesOf at ih ⊢
    rw [map_cons, length_cons]
    cases t.dir <;> simp <;> omega

theorem observed_eq (dir : Dir) : c.observed dir = tradesOf dir c.strategy := by
  cases dir with
  | long => rfl
  | short =>
    have := tradesOf_add c.strategy
    show c.strategy.length - tradesOf .long c.strategy = _
    omega

theorem tradesOf_randomReplay (chosen : Dir → List ℕ) (dir : Dir) :
    tradesOf dir ((c.randomReplay chosen).execute rounded).trades ≤ (chosen dir).length := by
  have hpairwise : ((c.randomReplay chosen).run rounded (window - 1)).trades.Pairwise fun x y => x.exit < y.signal :=
    Replay.run_pairwise _
  show (((((c.randomReplay chosen).run rounded (window - 1)).trades.map (·.trade)).map (·.dir)).count dir) ≤ _
  rw [map_map, List.count, countP_map, countP_eq_length_filter, ← length_map (f := Executed.signal)]
  refine (subperm_of_subset ?_ fun i hi => ?_).length_le
  · refine pairwise_map.2 ((hpairwise.filter _).imp_of_mem fun hx _ hlt => ?_)
    obtain ⟨-, -, hexit, -⟩ := Replay.mem_run (mem_filter.1 hx).1
    omega
  · obtain ⟨x, hx, rfl⟩ := mem_map.1 hi
    obtain ⟨hrun, hdir⟩ := mem_filter.1 hx
    obtain ⟨-, -, -, lot, hcheck, heq⟩ := Replay.mem_run hrun
    rw [Function.comp_apply, heq, Function.comp_apply, Replay.tradeAt_dir, beq_iff_eq] at hdir
    rw [← hdir]
    exact mem_of_randomSignal (Replay.check_eq_lot hcheck).1

theorem tradesOf_attempt {chosen : Dir → List ℕ} {vals : List Trade} (h : c.attempt chosen = .ok vals) (dir : Dir) :
    tradesOf dir vals ≤ (chosen dir).length := by
  unfold attempt at h
  split at h
  · cases h
  · cases h
    exact (((take_sublist _ _).map _).count_le _).trans (tradesOf_randomReplay chosen dir)

theorem attempts_eq_ok {draws : c.Draws} {k : ℕ} {ms : List ℕ} {vals₀ vals : List Trade}
    (h : attempts draws k ms vals₀ = .ok vals) : vals = vals₀ ∨ ∃ m ∈ ms, c.attempt (draws.chosen k m) = .ok vals := by
  induction ms generalizing vals₀ with
  | nil => exact .inl (Except.ok.inj h).symm
  | cons m ms ih =>
    obtain ⟨vals', hattempt, h⟩ := bind_ok h
    split at h
    · cases h
      exact .inr ⟨m, mem_cons_self, hattempt⟩
    · rcases ih h with rfl | ⟨m', hm', hok⟩
      · exact .inr ⟨m, mem_cons_self, hattempt⟩
      · exact .inr ⟨m', mem_cons_of_mem m hm', hok⟩

theorem attempts_reach (draws : c.Draws) (k : ℕ) : ∀ (ms : List ℕ) (vals₀ : List Trade),
    (∀ m ∈ ms, ∃ vals, c.attempt (draws.chosen k m) = .ok vals) →
    (∃ m ∈ ms, ∀ vals, c.attempt (draws.chosen k m) = .ok vals → c.target ≤ vals.length) →
    ∃ m ∈ ms, ∃ vals, attempts draws k ms vals₀ = .ok vals ∧ c.attempt (draws.chosen k m) = .ok vals ∧ c.target ≤ vals.length
  | [], _, _, ⟨_, hm, _⟩ => nomatch hm
  | m :: ms, _, hok, hreach => by
    obtain ⟨vals, hvals⟩ := hok m mem_cons_self
    rw [attempts, hvals]
    by_cases htarget : c.target ≤ vals.length
    · exact ⟨m, mem_cons_self, vals, if_pos htarget, hvals, htarget⟩
    · have hrest : ∃ m ∈ ms, ∀ vals, c.attempt (draws.chosen k m) = .ok vals → c.target ≤ vals.length := by
        obtain ⟨m', hm', hreach⟩ := hreach
        rcases mem_cons.1 hm' with rfl | hm'
        · exact absurd (hreach vals hvals) htarget
        · exact ⟨m', hm', hreach⟩
      obtain ⟨m', hm', vals', hattempts, hvals', htarget'⟩ :=
        attempts_reach draws k ms vals (fun m' hm' => hok m' (mem_cons_of_mem m hm')) hrest
      exact ⟨m', mem_cons_of_mem m hm', vals', (if_neg htarget).trans hattempts, hvals', htarget'⟩

theorem simulation_spec {draws : c.Draws} {k : ℕ} {vals : List Trade} (h : simulation draws k = .ok vals) :
    vals.length = c.target ∧ ∀ dir, tradesOf dir vals ≤ min (6 * tradesOf dir c.strategy) (c.pools dir).length := by
  obtain ⟨vals', hattempts, h⟩ := bind_ok h
  split at h
  · cases h
  · rename_i hlength
    cases h
    refine ⟨not_not.1 hlength, fun dir => ?_⟩
    rcases attempts_eq_ok hattempts with rfl | ⟨m, hm, hattempt⟩
    · exact Nat.zero_le _
    · have hm6 : m ≤ 6 := by
        simp only [mem_cons, not_mem_nil, or_false] at hm
        omega
      refine (tradesOf_attempt hattempt dir).trans ?_
      rw [draws.size, observed_eq, Nat.mul_comm]
      exact min_le_min_right _ (Nat.mul_le_mul_right _ hm6)

theorem mem_kept {draws : c.Draws} : ∀ {ks : List ℕ} {simulations : List (List Trade)},
    ks.mapM (simulation draws) = .ok simulations → ∀ vals ∈ simulations, ∃ k, simulation draws k = .ok vals
  | [], simulations, h, vals, hvals => by
    cases h
    cases hvals
  | k :: ks, simulations, h, vals, hvals => by
    rw [mapM_cons] at h
    obtain ⟨first, hfirst, h⟩ := bind_ok h
    obtain ⟨rest, hrest, h⟩ := bind_ok h
    cases h
    rcases mem_cons.1 hvals with rfl | hvals
    · exact ⟨k, hfirst⟩
    · exact mem_kept hrest vals hvals

/-- **Where the mix is kept**: one side only, no pool larger than its side, or too few indices for the trades. -/
def Separable (longs shorts p q : ℕ) : Prop :=
  longs = 0 ∨ shorts = 0 ∨ (p ≤ longs ∧ q ≤ shorts) ∨ min (6 * longs) p + min (6 * shorts) q < longs + shorts

theorem keepsMix_of_separable (h : Separable (tradesOf .long c.strategy) (tradesOf .short c.strategy)
    (c.pools .long).length (c.pools .short).length) : c.KeepsMix := by
  intro draws simulations hkept vals hvals
  obtain ⟨k, hk⟩ := mem_kept hkept vals hvals
  obtain ⟨hlength, hbound⟩ := simulation_spec hk
  have htarget := tradesOf_add c.strategy
  have hvals := tradesOf_add vals
  have hlong := hbound .long
  have hshort := hbound .short
  unfold target at hlength
  have hmix : tradesOf .long vals = tradesOf .long c.strategy := by
    unfold Separable at h
    omega
  intro dir
  cases dir with
  | long => exact hmix
  | short => omega

end Control

/-! ### Signals that are all traded -/

section

variable {n i : ℕ} {signal : ℕ → ℤ} {dir : Dir}

def dirsFrom (n : ℕ) (signal : ℕ → ℤ) (i : ℕ) : List Dir :=
  ((Replay.wideReplay n Replay.oneLot signal).run rounded i).trades.map fun x => x.trade.dir

theorem dirsFrom_end (h : n ≤ i + 1) : dirsFrom n signal i = [] := by
  unfold dirsFrom
  rw [Replay.run_trades, Replay.wideReplay_length, if_neg (Nat.not_lt.2 h)]
  rfl

theorem dirsFrom_quiet (h : signal i = 0) : dirsFrom n signal i = dirsFrom n signal (i + 1) := by
  by_cases hi : i + 1 < n
  · have hcheck : (Replay.wideReplay n Replay.oneLot signal).check rounded i = .pass := if_pos h
    unfold dirsFrom
    rw [Replay.run_trades, Replay.wideReplay_length, if_pos hi, hcheck]
  · rw [dirsFrom_end (by omega), dirsFrom_end (by omega)]

theorem dirsFrom_signal (hi : i + 1 < n) (h : signal i = dir.sign) :
    dirsFrom n signal i = dir :: dirsFrom n signal (i + 2) := by
  have hround : rounded 10 1 = 1 := by
    have hunit := pyRound_of_unit (10 ^ 10) 10
    rwa [Int.cast_pow, Int.cast_ofNat, div_self (by positivity)] at hunit
  have hne : signal i ≠ 0 := by
    rw [h]
    cases dir <;> decide
  have hcheck : (Replay.wideReplay n Replay.oneLot signal).check rounded i = .lot 1 := by
    norm_num [Replay.check, Replay.wideReplay, hne, Replay.oneLot, Replay.lotMax, Replay.vppMin, floorToStep, hround]
  have hdir : (Replay.wideReplay n Replay.oneLot signal).dirAt i = dir := by
    unfold Replay.dirAt
    show (if signal i = 1 then Dir.long else Dir.short) = dir
    rw [h]
    cases dir <;> rfl
  unfold dirsFrom
  rw [Replay.run_trades, Replay.wideReplay_length, if_pos hi, hcheck]
  dsimp only
  rw [map_cons, Replay.tradeAt_dir, hdir, Replay.tradeAt_exit, Replay.wideReplay_exitAt hi]

theorem dirsFrom_quiets (k : ℕ) (h : ∀ j < k, signal (i + j) = 0) : dirsFrom n signal i = dirsFrom n signal (i + k) := by
  induction k with
  | zero => rfl
  | succ k ih => rw [ih fun j hj => h j (hj.trans k.lt_succ_self), dirsFrom_quiet (h k k.lt_succ_self), Nat.add_assoc]

theorem dirsFrom_signals (k : ℕ) (hn : i + 2 * k ≤ n) (h : ∀ j < k, signal (i + 2 * j) = dir.sign) :
    dirsFrom n signal i = List.replicate k dir ++ dirsFrom n signal (i + 2 * k) := by
  induction k with
  | zero => rfl
  | succ k ih =>
    rw [ih (by omega) fun j hj => h j (hj.trans k.lt_succ_self), dirsFrom_signal (by omega) (h k k.lt_succ_self),
      replicate_succ', append_assoc]
    rfl

end

namespace Control

/-- `n` indices two bars apart, after `first` others. -/
def spaced (first n : ℕ) : List ℕ := (List.range n).map fun j => 499 + 2 * (first + j)

theorem mem_spaced {first n i : ℕ} : i ∈ spaced first n ↔ ∃ j < n, i = 499 + 2 * (first + j) := by
  unfold spaced
  simp only [mem_map, mem_range, eq_comm]

theorem take_spaced (first n m : ℕ) : (spaced first n).take m = spaced first (min m n) := by
  unfold spaced
  rw [← map_take, take_range]

def tradeOf (dir : Dir) : Trade := ⟨0, 0, dir, .eod, 0, 0, 0, 0, 0, true⟩

structure Sizes where
  dir : Dir
  count : ℕ
  pool : ℕ
  count' : ℕ
  pool' : ℕ

/-- All indices of one direction before those of the other; every signal is traded on its next bar. -/
def Sizes.control (x : Sizes) : Control where
  replay := Replay.wideReplay (500 + 2 * (x.pool + x.pool')) Replay.oneLot fun _ => 0
  pools dir := if dir = x.dir then spaced 0 x.pool else spaced x.pool x.pool'
  strategy := List.replicate x.count (tradeOf x.dir) ++ List.replicate x.count' (tradeOf x.dir.other)
  simulations := 1

def Sizes.draws (x : Sizes) : x.control.Draws where
  chosen _ m dir := (x.control.pools dir).take (x.control.observed dir * m)
  subperm _ _ dir := (List.take_sublist _ (x.control.pools dir)).subperm
  size _ _ _ := List.length_take

theorem Dir.ne_other (dir : Dir) : dir.other ≠ dir := by cases dir <;> decide

theorem Dir.other_other (dir : Dir) : dir.other.other = dir := by cases dir <;> rfl

theorem randomSignal_of_mem {chosen : Dir → List ℕ} {dir : Dir} {i : ℕ} (h : i ∈ chosen dir) (h' : i ∉ chosen dir.other) :
    randomSignal chosen i = dir.sign := by
  cases dir <;> simp_all [randomSignal, Dir.other, Dir.sign]

theorem randomSignal_of_not_mem {chosen : Dir → List ℕ} (dir : Dir) {i : ℕ} (h : i ∉ chosen dir)
    (h' : i ∉ chosen dir.other) : randomSignal chosen i = 0 := by
  cases dir <;> simp_all [randomSignal, Dir.other]

namespace Sizes

variable (x : Sizes)

theorem tradesOf_dir : tradesOf x.dir x.control.strategy = x.count := by
  simp [control, tradesOf, tradeOf, count_replicate, Dir.ne_other]

theorem tradesOf_other : tradesOf x.dir.other x.control.strategy = x.count' := by
  simp [control, tradesOf, tradeOf, count_replicate, (Dir.ne_other x.dir).symm]

theorem target_eq : x.control.target = x.count + x.count' := by
  simp [target, control]

theorem chosen_dir (m : ℕ) : x.draws.chosen 0 m x.dir = spaced 0 (min (x.count * m) x.pool) := by
  show ((if x.dir = x.dir then _ else _ : List ℕ)).take _ = _
  rw [if_pos rfl, take_spaced, observed_eq, tradesOf_dir]

theorem chosen_other (m : ℕ) : x.draws.chosen 0 m x.dir.other = spaced x.pool (min (x.count' * m) x.pool') := by
  show ((if x.dir.other = x.dir then _ else _ : List ℕ)).take _ = _
  rw [if_neg (Dir.ne_other x.dir), take_spaced, observed_eq, tradesOf_other]

/-- **What the executor makes of the first indices**: all of the one direction, then all of the other. -/
theorem executed_dirs (m : ℕ) : ((x.control.randomReplay (x.draws.chosen 0 m)).execute rounded).trades.map (·.dir) =
    List.replicate (min (x.count * m) x.pool) x.dir ++ List.replicate (min (x.count' * m) x.pool') x.dir.other := by
  have hfirst := x.chosen_dir m
  have hsecond := x.chosen_other m
  generalize x.draws.chosen 0 m = chosen at hfirst hsecond ⊢
  have ha : min (x.count * m) x.pool ≤ x.pool := min_le_right _ _
  have hb : min (x.count' * m) x.pool' ≤ x.pool' := min_le_right _ _
  generalize min (x.count * m) x.pool = a at hfirst ha ⊢
  generalize min (x.count' * m) x.pool' = b at hsecond hb ⊢
  have hsignal : ∀ j < a, randomSignal chosen (499 + 2 * j) = x.dir.sign := by
    intro j hj
    refine randomSignal_of_mem ?_ ?_
    · rw [hfirst, mem_spaced]
      exact ⟨j, hj, by omega⟩
    · rw [hsecond, mem_spaced]
      omega
  have hsignal' : ∀ j < b, randomSignal chosen (499 + 2 * x.pool + 2 * j) = x.dir.other.sign := by
    intro j hj
    refine randomSignal_of_mem ?_ ?_
    · rw [hsecond, mem_spaced]
      exact ⟨j, hj, by omega⟩
    · rw [Dir.other_other, hfirst, mem_spaced]
      omega
  have hquiet : ∀ i, 499 + 2 * a ≤ i → i < 499 + 2 * x.pool ∨ 499 + 2 * (x.pool + b) ≤ i → randomSignal chosen i = 0 := by
    intro i hi hout
    refine randomSignal_of_not_mem x.dir ?_ ?_
    · rw [hfirst, mem_spaced]
      omega
    · rw [hsecond, mem_spaced]
      omega
  show ((((Replay.wideReplay (500 + 2 * (x.pool + x.pool')) Replay.oneLot (randomSignal chosen)).run rounded 499).trades.map
    (·.trade)).map (·.dir)) = _
  rw [map_map]
  show dirsFrom (500 + 2 * (x.pool + x.pool')) (randomSignal chosen) 499 = _
  rw [dirsFrom_signals a (by omega) hsignal, dirsFrom_quiets (2 * (x.pool - a)) fun t _ => hquiet _ (by omega) (by omega),
    show 499 + 2 * a + 2 * (x.pool - a) = 499 + 2 * x.pool by omega, dirsFrom_signals b (by omega) hsignal',
    dirsFrom_quiets (2 * (x.pool' - b)) fun t _ => hquiet _ (by omega) (by omega), dirsFrom_end (by omega), append_nil]

theorem attempt_eq (m : ℕ) : ∃ vals, x.control.attempt (x.draws.chosen 0 m) = .ok vals ∧
    vals.length = min (x.count + x.count') (min (x.count * m) x.pool + min (x.count' * m) x.pool') ∧
    tradesOf x.dir vals = min (x.count + x.count') (min (x.count * m) x.pool) := by
  have hdirs := x.executed_dirs m
  have hinside : ((x.draws.chosen 0 m .long ++ x.draws.chosen 0 m .short).find? fun i =>
      x.control.replay.candles.length ≤ i) = none := by
    refine List.find?_eq_none.2 fun i hi => ?_
    have hmem : i ∈ spaced 0 (min (x.count * m) x.pool) ∨ i ∈ spaced x.pool (min (x.count' * m) x.pool') := by
      rw [← chosen_dir, ← chosen_other]
      cases x.dir with
      | long => exact mem_append.1 hi
      | short => exact (mem_append.1 hi).symm
    rw [mem_spaced, mem_spaced] at hmem
    rw [decide_eq_true_iff, show x.control.replay.candles.length = 500 + 2 * (x.pool + x.pool') from
      Replay.wideReplay_length]
    omega
  refine ⟨_, by unfold attempt; rw [hinside], ?_, ?_⟩
  · rw [length_take, target_eq, ← length_map (f := Trade.dir), hdirs, length_append, length_replicate,
      length_replicate]
  · unfold tradesOf
    rw [target_eq, map_take, hdirs, take_append, count_append, take_replicate, take_replicate,
      count_replicate_self, count_replicate, if_neg (by simpa using Dir.ne_other x.dir), Nat.add_zero]

/-- **More indices of one direction than the strategy has trades of it**: a simulation is counted with another mix. -/
theorem mixed (hpool : x.count < x.pool) (hcount : 0 < x.count) (hcount' : 0 < x.count')
    (hreach : x.count + x.count' ≤ min (6 * x.count) x.pool + min (6 * x.count') x.pool') : ¬x.control.KeepsMix := by
  intro hkeeps
  obtain ⟨m, hm, vals, hattempts, hattempt, hlong⟩ := attempts_reach x.draws 0 [2, 3, 4, 6] []
    (fun m _ => (x.attempt_eq m).imp fun _ h => h.1) ⟨6, by simp, fun vals hvals => by
      obtain ⟨vals', hvals', hlength, -⟩ := x.attempt_eq 6
      cases hvals.symm.trans hvals'
      rw [hlength, target_eq]
      omega⟩
  obtain ⟨vals', hvals', hlength, hdirs⟩ := x.attempt_eq m
  cases hattempt.symm.trans hvals'
  rw [target_eq] at hlong
  have hsimulation : simulation x.draws 0 = .ok vals := by
    unfold simulation
    rw [hattempts]
    exact if_neg (not_not.2 (by rw [target_eq]; omega))
  have hkept : kept x.draws = .ok [vals] := by
    show [0].mapM (simulation x.draws) = .ok [vals]
    rw [mapM_cons, hsimulation]
    rfl
  have hmix := hkeeps _ _ hkept vals (mem_singleton_self vals) x.dir
  have htwo : 2 * x.count ≤ x.count * m := by
    rw [Nat.mul_comm]
    refine Nat.mul_le_mul_left _ ?_
    simp only [mem_cons, not_mem_nil, or_false] at hm
    omega
  rw [tradesOf_dir, hdirs] at hmix
  omega

end Sizes

/-- **A control keeps the strategy's mix for all candles, stops, terms and draws of its sizes exactly where the sizes alone
keep it.** -/
theorem random_control_mix (longs shorts p q : ℕ) :
    (∀ c : Control, tradesOf .long c.strategy = longs → tradesOf .short c.strategy = shorts → (c.pools .long).length = p →
      (c.pools .short).length = q → c.KeepsMix) ↔ Separable longs shorts p q := by
  have hspaced (first n : ℕ) : (spaced first n).length = n := by
    unfold spaced
    rw [List.length_map, List.length_range]
  constructor
  · intro hall
    by_contra hnot
    unfold Separable at hnot
    by_cases hlong : longs < p
    · let x : Sizes := ⟨.long, longs, p, shorts, q⟩
      exact x.mixed hlong (by show 0 < longs; omega) (by show 0 < shorts; omega)
        (by show longs + shorts ≤ min (6 * longs) p + min (6 * shorts) q; omega)
        (hall _ x.tradesOf_dir x.tradesOf_other (hspaced 0 p) (hspaced p q))
    · let x : Sizes := ⟨.short, shorts, q, longs, p⟩
      exact x.mixed (by show shorts < q; omega) (by show 0 < shorts; omega) (by show 0 < longs; omega)
        (by show shorts + longs ≤ min (6 * shorts) q + min (6 * longs) p; omega)
        (hall _ x.tradesOf_other x.tradesOf_dir (hspaced q p) (hspaced 0 q))
  · rintro hsizes c rfl rfl rfl rfl
    exact keepsMix_of_separable hsizes

/-- Two indices to buy at lie before the one to sell at: the two trades kept are both LONG. -/
theorem random_control_two_longs : ¬(Sizes.control ⟨.long, 1, 2, 1, 1⟩).KeepsMix :=
  Sizes.mixed ⟨.long, 1, 2, 1, 1⟩ (by decide) (by decide) (by decide) (by decide)

end Control
end Mtf
end Jqe
