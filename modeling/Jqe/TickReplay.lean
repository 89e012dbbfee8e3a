import Jqe.ShadowExits
/-!
# TickReplay — `research/tick_quote_replay.py`: a plan to buy on executable quotes

`replay_buy_plan` enters at the ask of the first quote from the signal close on and exits at the bid.  An entry may come
after the horizon, and a target that the entry has passed is taken for a loss.
-/
namespace Jqe

open List

structure TickQuote where
  timeMsc : ℤ
  bid : ℚ
  ask : ℚ
  deriving DecidableEq

structure TickReplayOutcome where
  signalId : String
  status : ShadowStatus
  entryTime : Option ℤ
  entryPrice : Option ℚ
  outcomeTime : Option ℤ
  outcomePrice : Option ℚ
  netR : Option ℚ
  unresolvedReason : Option String
  entryDelayMs : Option ℤ
  timeoutDelayMs : Option ℤ
  maximumQuoteGapMs : Option ℤ
  hasQuoteGap : Bool
  deriving DecidableEq

def TickQuote.executable (quote : TickQuote) : Bool := 0 < quote.bid ∧ quote.bid ≤ quote.ask

/-- `valid`: a stable sort by `time_msc`. -/
def validQuotes (quotes : List TickQuote) : List TickQuote :=
  (quotes.filter TickQuote.executable).insertionSort fun a b => a.timeMsc ≤ b.timeMsc

namespace SignalSpec

def entryBoundary (spec : SignalSpec) : ℤ := spec.signalClose * 1000

def horizonBoundary (spec : SignalSpec) : ℤ := spec.entryBoundary + spec.horizonBars * 60000

def liveQuotes (spec : SignalSpec) (quotes : List TickQuote) : List TickQuote :=
  (validQuotes quotes).dropWhile fun q => q.timeMsc < spec.entryBoundary

def exits (spec : SignalSpec) (quote : TickQuote) : Bool := quote.bid ≤ spec.stopLoss ∨ spec.takeProfit ≤ quote.bid

end SignalSpec

def maxGap (path : List TickQuote) : ℤ :=
  ((path.zipWith (fun a b => b.timeMsc - a.timeMsc) path.tail).max?).getD 0

def SignalSpec.replayFrom (spec : SignalSpec) (threshold : ℤ) (entryQuote : TickQuote) (live : List TickQuote) :
    TickReplayOutcome :=
  let entry := entryQuote.ask
  let risk := entry - spec.stopLoss
  let entryDelay := entryQuote.timeMsc - spec.entryBoundary
  let base : TickReplayOutcome := {
    signalId := spec.signalId
    status := .unresolved
    entryTime := some entryQuote.timeMsc
    entryPrice := some entry
    outcomeTime := none
    outcomePrice := none
    netR := none
    unresolvedReason := none
    entryDelayMs := some entryDelay
    timeoutDelayMs := none
    maximumQuoteGapMs := none
    hasQuoteGap := threshold < entryDelay }
  if risk ≤ 0 then { base with unresolvedReason := some "stop invalid for executable ask entry" }
  else
    let path := live.filter fun q => q.timeMsc ≤ spec.horizonBoundary
    let gap := maxGap path
    match path.find? spec.exits with
    | some quote =>
      { base with
        status := if quote.bid ≤ spec.stopLoss then .sl else .tp
        outcomeTime := some quote.timeMsc
        outcomePrice := some quote.bid
        netR := some ((quote.bid - entry) / risk)
        maximumQuoteGapMs := some gap
        hasQuoteGap := threshold < entryDelay ∨ threshold < gap }
    | none =>
      match live.find? fun q => spec.horizonBoundary ≤ q.timeMsc with
      | none =>
        { base with
          unresolvedReason := some "timeout quote unavailable"
          maximumQuoteGapMs := some gap
          hasQuoteGap := true }
      | some quote =>
        let timeoutDelay := quote.timeMsc - spec.horizonBoundary
        { base with
          status := .timeout
          outcomeTime := some quote.timeMsc
          outcomePrice := some quote.bid
          netR := some ((quote.bid - entry) / risk)
          timeoutDelayMs := some timeoutDelay
          maximumQuoteGapMs := some gap
          hasQuoteGap := threshold < entryDelay ∨ threshold < timeoutDelay ∨ threshold < gap }

def replayBuyPlan (spec : SignalSpec) (quotes : List TickQuote) (quoteGapThresholdMs : ℤ) :
    Except String TickReplayOutcome :=
  if spec.side ≠ .buy then .error "tick replay currently accepts BUY plans only"
  else
    match spec.liveQuotes quotes with
    | [] =>
      .ok {
        signalId := spec.signalId
        status := .unresolved
        entryTime := none
        entryPrice := none
        outcomeTime := none
        outcomePrice := none
        netR := none
        unresolvedReason := some "entry quote unavailable"
        entryDelayMs := none
        timeoutDelayMs := none
        maximumQuoteGapMs := none
        hasQuoteGap := true }
    | entryQuote :: later => .ok (spec.replayFrom quoteGapThresholdMs entryQuote (entryQuote :: later))

/-! ### What a replay is held to -/

/-- **A sane outcome of a replay**: it enters at a quote between the signal close and the end of the horizon, exits between the
entry and the first quote at or after that end, gains by a target and loses by a stop. -/
structure TickReplayOutcome.Sane (spec : SignalSpec) (quotes : List TickQuote) (outcome : TickReplayOutcome) : Prop where
  entry : ∀ t ∈ outcome.entryTime, spec.entryBoundary ≤ t ∧ t ≤ spec.horizonBoundary ∧
    ∃ quote ∈ quotes, quote.executable ∧ quote.timeMsc = t ∧ outcome.entryPrice = some quote.ask
  exit : ∀ t ∈ outcome.outcomeTime, (∃ entry, outcome.entryTime = some entry ∧ entry ≤ t) ∧
    (∃ quote ∈ quotes, quote.executable ∧ quote.timeMsc = t ∧ outcome.outcomePrice = some quote.bid) ∧
    ∀ quote ∈ quotes, quote.executable → spec.horizonBoundary ≤ quote.timeMsc → t ≤ quote.timeMsc
  target : outcome.status = .tp → ∃ r, outcome.netR = some r ∧ 0 < r
  stop : outcome.status = .sl → ∃ r, outcome.netR = some r ∧ r < 0

/-- **The result does not depend on the order of the quotes**, when their moments are distinct. -/
def OrderFree (spec : SignalSpec) (quotes : List TickQuote) (threshold : ℤ) : Prop :=
  (quotes.map TickQuote.timeMsc).Nodup → ∀ quotes', quotes'.Perm quotes →
    replayBuyPlan spec quotes' threshold = replayBuyPlan spec quotes threshold

def SignalSpec.entryQuote (spec : SignalSpec) (quotes : List TickQuote) : Option TickQuote :=
  (validQuotes quotes).find? fun q => spec.entryBoundary ≤ q.timeMsc

/-- The first quote from there to the end of the horizon that takes the stop or the target. -/
def SignalSpec.exitQuote (spec : SignalSpec) (quotes : List TickQuote) : Option TickQuote :=
  (validQuotes quotes).find? fun q => spec.entryBoundary ≤ q.timeMsc ∧ q.timeMsc ≤ spec.horizonBoundary ∧ spec.exits q

/-- **When a replay is sane**: the entry quote comes by the end of the horizon, and a target that is reached first from an entry
above the stop is reached at a bid above the ask of the entry. -/
def SignalSpec.Replayable (spec : SignalSpec) (quotes : List TickQuote) : Prop :=
  ∀ entry ∈ spec.entryQuote quotes, entry.timeMsc ≤ spec.horizonBoundary ∧
    (spec.stopLoss < entry.ask → ∀ exit ∈ spec.exitQuote quotes, spec.stopLoss < exit.bid → entry.ask < exit.bid)

/-! ### The quotes -/

theorem mem_validQuotes {quotes : List TickQuote} {quote : TickQuote} :
    quote ∈ validQuotes quotes ↔ quote ∈ quotes ∧ quote.executable = true := by
  unfold validQuotes
  rw [(perm_insertionSort _ _).mem_iff, mem_filter]

theorem validQuotes_sorted (quotes : List TickQuote) :
    (validQuotes quotes).Pairwise fun a b => a.timeMsc ≤ b.timeMsc :=
  pairwise_insertionSort (fun a b : TickQuote => a.timeMsc ≤ b.timeMsc) _

theorem dropWhile_eq_filter (t : ℤ) : ∀ {l : List TickQuote}, (l.Pairwise fun a b => a.timeMsc ≤ b.timeMsc) →
    (l.dropWhile fun q => q.timeMsc < t) = l.filter fun q => t ≤ q.timeMsc
  | [], _ => rfl
  | q :: l, h => by
    obtain ⟨hle, hl⟩ := pairwise_cons.1 h
    by_cases hq : q.timeMsc < t
    · rw [dropWhile_cons_of_pos (by simpa using hq), filter_cons_of_neg (by simpa using hq)]
      exact dropWhile_eq_filter t hl
    · rw [dropWhile_cons_of_neg (by simpa using hq)]
      have hall : ∀ x ∈ q :: l, decide (t ≤ x.timeMsc) = true := by
        intro x hx
        rcases mem_cons.1 hx with rfl | hx
        · exact decide_eq_true (not_lt.1 hq)
        · exact decide_eq_true ((not_lt.1 hq).trans (hle x hx))
      exact (filter_eq_self.2 hall).symm

theorem validQuotes_perm {quotes quotes' : List TickQuote} (hnodup : (quotes.map TickQuote.timeMsc).Nodup)
    (hperm : quotes'.Perm quotes) : validQuotes quotes' = validQuotes quotes := by
  have hperm' : (validQuotes quotes').Perm (validQuotes quotes) :=
    ((perm_insertionSort _ _).trans (hperm.filter _)).trans (perm_insertionSort _ _).symm
  refine hperm'.eq_of_pairwise (fun a b ha hb hab hba => ?_) (validQuotes_sorted quotes') (validQuotes_sorted quotes)
  have ha' := hperm.mem_iff.1 (mem_validQuotes.1 ha).1
  have hb' := (mem_validQuotes.1 hb).1
  exact inj_on_of_nodup_map hnodup ha' hb' (le_antisymm hab hba)

theorem orderFree (spec : SignalSpec) (quotes : List TickQuote) (threshold : ℤ) : OrderFree spec quotes threshold := by
  intro hnodup quotes' hperm
  unfold replayBuyPlan SignalSpec.liveQuotes
  rw [validQuotes_perm hnodup hperm]

namespace SignalSpec

variable {spec : SignalSpec} {quotes : List TickQuote}

theorem liveQuotes_eq : spec.liveQuotes quotes = (validQuotes quotes).filter fun q => spec.entryBoundary ≤ q.timeMsc :=
  dropWhile_eq_filter _ (validQuotes_sorted quotes)

theorem entryQuote_eq : spec.entryQuote quotes = (spec.liveQuotes quotes).head? := by
  rw [liveQuotes_eq, head?_filter]
  rfl

theorem exitQuote_eq : spec.exitQuote quotes =
    ((spec.liveQuotes quotes).filter fun q => q.timeMsc ≤ spec.horizonBoundary).find? spec.exits := by
  rw [liveQuotes_eq, find?_filter, find?_filter]
  unfold exitQuote
  congr 1
  funext q
  simp

theorem mem_liveQuotes {quote : TickQuote} : quote ∈ spec.liveQuotes quotes ↔
    quote ∈ quotes ∧ quote.executable = true ∧ spec.entryBoundary ≤ quote.timeMsc := by
  rw [liveQuotes_eq, mem_filter, mem_validQuotes, and_assoc, decide_eq_true_iff]

theorem liveQuotes_sorted (spec : SignalSpec) (quotes : List TickQuote) :
    (spec.liveQuotes quotes).Pairwise fun a b => a.timeMsc ≤ b.timeMsc := by
  rw [liveQuotes_eq]
  exact (validQuotes_sorted quotes).filter _

theorem entryBoundary_le_horizon (spec : SignalSpec) : spec.entryBoundary ≤ spec.horizonBoundary := by
  unfold horizonBoundary
  omega

/-! ### The outcome -/

section

variable {entry : TickQuote} (threshold : ℤ) (live : List TickQuote)

theorem replayFrom_entry (spec : SignalSpec) (threshold : ℤ) (entry : TickQuote) (live : List TickQuote) :
    (spec.replayFrom threshold entry live).entryTime = some entry.timeMsc ∧
    (spec.replayFrom threshold entry live).entryPrice = some entry.ask := by
  unfold replayFrom
  dsimp only
  split
  · exact ⟨rfl, rfl⟩
  · split
    · exact ⟨rfl, rfl⟩
    · split <;> exact ⟨rfl, rfl⟩

/-- **What comes of an entry above the stop**: the first quote of the horizon that takes a barrier, or the first quote from its
end on, or neither. -/
theorem replayFrom_cases (hrisk : spec.stopLoss < entry.ask) :
    let outcome := spec.replayFrom threshold entry live
    (∃ exit, (live.filter fun q => q.timeMsc ≤ spec.horizonBoundary).find? spec.exits = some exit ∧
        outcome.status = (if exit.bid ≤ spec.stopLoss then .sl else .tp) ∧ outcome.outcomeTime = some exit.timeMsc ∧
        outcome.outcomePrice = some exit.bid ∧
        outcome.netR = some ((exit.bid - entry.ask) / (entry.ask - spec.stopLoss))) ∨
      (live.filter fun q => q.timeMsc ≤ spec.horizonBoundary).find? spec.exits = none ∧
        ((∃ last, live.find? (fun q => spec.horizonBoundary ≤ q.timeMsc) = some last ∧ outcome.status = .timeout ∧
            outcome.outcomeTime = some last.timeMsc ∧ outcome.outcomePrice = some last.bid) ∨
          outcome.status = .unresolved ∧ outcome.outcomeTime = none) := by
  have hnot : ¬entry.ask - spec.stopLoss ≤ 0 := by linarith
  unfold replayFrom
  dsimp only
  rw [if_neg hnot]
  cases hexit : (live.filter fun q => q.timeMsc ≤ spec.horizonBoundary).find? spec.exits with
  | some exit => exact .inl ⟨exit, rfl, rfl, rfl, rfl, rfl⟩
  | none =>
    refine .inr ⟨rfl, ?_⟩
    cases hlast : live.find? fun q => spec.horizonBoundary ≤ q.timeMsc with
    | some last => exact .inl ⟨last, rfl, rfl, rfl, rfl⟩
    | none => exact .inr ⟨rfl, rfl⟩

theorem replayFrom_refused (hrisk : entry.ask ≤ spec.stopLoss) :
    (spec.replayFrom threshold entry live).status = .unresolved ∧
      (spec.replayFrom threshold entry live).outcomeTime = none := by
  have hle : entry.ask - spec.stopLoss ≤ 0 := by linarith
  unfold replayFrom
  dsimp only
  rw [if_pos hle]
  exact ⟨rfl, rfl⟩

end

theorem find?_first {p : TickQuote → Bool} {l : List TickQuote} (hsorted : l.Pairwise fun a b => a.timeMsc ≤ b.timeMsc)
    {first : TickQuote} (hfind : l.find? p = some first) {quote : TickQuote} (hmem : quote ∈ l) (hp : p quote = true) :
    first.timeMsc ≤ quote.timeMsc := by
  obtain ⟨-, before, after, rfl, hbefore⟩ := find?_eq_some_iff_append.1 hfind
  rcases mem_append.1 hmem with hmem | hmem
  · have hnot := hbefore quote hmem
    rw [hp] at hnot
    cases hnot
  · rcases mem_cons.1 hmem with rfl | hmem
    · exact le_rfl
    · exact (pairwise_cons.1 (pairwise_append.1 hsorted).2.1).1 quote hmem

/-! ### A replay from an entry quote -/

section

variable {threshold : ℤ} {entry : TickQuote} {later : List TickQuote}

theorem live_mem (hlive : spec.liveQuotes quotes = entry :: later) {quote : TickQuote} (hquote : quote ∈ entry :: later) :
    quote ∈ quotes ∧ quote.executable = true ∧ spec.entryBoundary ≤ quote.timeMsc :=
  mem_liveQuotes.1 (hlive ▸ hquote)

theorem live_sorted (hlive : spec.liveQuotes quotes = entry :: later) :
    (entry :: later).Pairwise fun a b => a.timeMsc ≤ b.timeMsc := hlive ▸ liveQuotes_sorted spec quotes

theorem entry_le (hlive : spec.liveQuotes quotes = entry :: later) {quote : TickQuote}
    (hquote : quote ∈ entry :: later) : entry.timeMsc ≤ quote.timeMsc := by
  rcases mem_cons.1 hquote with rfl | hquote
  · exact le_rfl
  · exact (pairwise_cons.1 (live_sorted hlive)).1 quote hquote

theorem entry_sane (hlive : spec.liveQuotes quotes = entry :: later) (hinside : entry.timeMsc ≤ spec.horizonBoundary) :
    ∀ t ∈ (spec.replayFrom threshold entry (entry :: later)).entryTime, spec.entryBoundary ≤ t ∧
      t ≤ spec.horizonBoundary ∧ ∃ quote ∈ quotes, quote.executable ∧ quote.timeMsc = t ∧
        (spec.replayFrom threshold entry (entry :: later)).entryPrice = some quote.ask := by
  obtain ⟨htime, hprice⟩ := replayFrom_entry spec threshold entry (entry :: later)
  intro t ht
  rw [htime] at ht
  cases ht
  obtain ⟨hquote, hexecutable, hfrom⟩ := live_mem hlive mem_cons_self
  exact ⟨hfrom, hinside, entry, hquote, hexecutable, rfl, hprice⟩

theorem sane_of_undecided (hlive : spec.liveQuotes quotes = entry :: later)
    (hinside : entry.timeMsc ≤ spec.horizonBoundary)
    (hstatus : (spec.replayFrom threshold entry (entry :: later)).status = .unresolved)
    (hnone : (spec.replayFrom threshold entry (entry :: later)).outcomeTime = none) :
    (spec.replayFrom threshold entry (entry :: later)).Sane spec quotes := by
  refine ⟨entry_sane hlive hinside, fun t ht => ?_, fun htp => ?_, fun hsl => ?_⟩
  · rw [hnone] at ht
    cases ht
  · rw [hstatus] at htp
    cases htp
  · rw [hstatus] at hsl
    cases hsl

theorem exit_sane (hlive : spec.liveQuotes quotes = entry :: later) {exit : TickQuote} (hin : exit ∈ entry :: later)
    (htime : (spec.replayFrom threshold entry (entry :: later)).outcomeTime = some exit.timeMsc)
    (hprice : (spec.replayFrom threshold entry (entry :: later)).outcomePrice = some exit.bid)
    (hfirst : ∀ q ∈ quotes, q.executable → spec.horizonBoundary ≤ q.timeMsc → exit.timeMsc ≤ q.timeMsc) :
    ∀ t ∈ (spec.replayFrom threshold entry (entry :: later)).outcomeTime,
      (∃ e, (spec.replayFrom threshold entry (entry :: later)).entryTime = some e ∧ e ≤ t) ∧
      (∃ quote ∈ quotes, quote.executable ∧ quote.timeMsc = t ∧
        (spec.replayFrom threshold entry (entry :: later)).outcomePrice = some quote.bid) ∧
      ∀ quote ∈ quotes, quote.executable → spec.horizonBoundary ≤ quote.timeMsc → t ≤ quote.timeMsc := by
  obtain ⟨hquote, hexecutable, -⟩ := live_mem hlive hin
  intro t ht
  rw [htime] at ht
  cases ht
  exact ⟨⟨_, (replayFrom_entry spec threshold entry _).1, entry_le hlive hin⟩,
    ⟨exit, hquote, hexecutable, rfl, hprice⟩, hfirst⟩

/-- **A replay from an entry quote is sane exactly when the quote is in the horizon and the target is ahead of it.** -/
theorem replayFrom_sane_iff (hlive : spec.liveQuotes quotes = entry :: later) :
    (spec.replayFrom threshold entry (entry :: later)).Sane spec quotes ↔
      entry.timeMsc ≤ spec.horizonBoundary ∧ (spec.stopLoss < entry.ask → ∀ exit ∈ spec.exitQuote quotes,
        spec.stopLoss < exit.bid → entry.ask < exit.bid) := by
  constructor
  · intro hsane
    refine ⟨(hsane.entry _ (replayFrom_entry spec threshold entry _).1).2.1, fun hrisk exit hexit hbid => ?_⟩
    rw [exitQuote_eq, hlive] at hexit
    rcases replayFrom_cases threshold (entry :: later) hrisk with ⟨exit', hfind, hstatus, -, -, hnet⟩ | ⟨hnone, -⟩
    · rw [hfind] at hexit
      cases hexit
      rw [if_neg (not_le.2 hbid)] at hstatus
      obtain ⟨r, hr, hpos⟩ := hsane.target hstatus
      rw [hnet] at hr
      cases hr
      have hgain := (div_pos_iff_of_pos_right (sub_pos.2 hrisk)).1 hpos
      linarith
    · rw [hnone] at hexit
      cases hexit
  · rintro ⟨hinside, hahead⟩
    by_cases hrisk : spec.stopLoss < entry.ask
    · rcases replayFrom_cases threshold (entry :: later) hrisk with
        ⟨exit, hfind, hstatus, htime, hprice, hnet⟩ |
          ⟨-, ⟨last, hfind, hstatus, htime, hprice⟩ | ⟨hstatus, htime⟩⟩
      · obtain ⟨hin, hbefore⟩ := mem_filter.1 (mem_of_find?_eq_some hfind)
        refine ⟨entry_sane hlive hinside, exit_sane hlive hin htime hprice fun q _ _ hq => ?_,
          fun htp => ⟨_, hnet, ?_⟩, fun hsl => ⟨_, hnet, ?_⟩⟩
        · exact (of_decide_eq_true hbefore).trans hq
        · have hbid : spec.stopLoss < exit.bid := by
            by_contra hle
            rw [if_pos (not_lt.1 hle), htp] at hstatus
            cases hstatus
          have hgain := hahead hrisk exit (by rw [exitQuote_eq, hlive, hfind]; rfl) hbid
          exact div_pos (sub_pos.2 hgain) (sub_pos.2 hrisk)
        · have hbid : exit.bid ≤ spec.stopLoss := by
            by_contra hlt
            rw [if_neg hlt, hsl] at hstatus
            cases hstatus
          exact div_neg_of_neg_of_pos (by linarith) (sub_pos.2 hrisk)
      · have hin := mem_of_find?_eq_some hfind
        refine ⟨entry_sane hlive hinside, exit_sane hlive hin htime hprice fun q hq hqexec hlate => ?_,
          fun htp => ?_, fun hsl => ?_⟩
        · have hqlive : q ∈ entry :: later :=
            hlive ▸ mem_liveQuotes.2 ⟨hq, hqexec, (entryBoundary_le_horizon spec).trans hlate⟩
          exact find?_first (live_sorted hlive) hfind hqlive (decide_eq_true hlate)
        · rw [hstatus] at htp
          cases htp
        · rw [hstatus] at hsl
          cases hsl
      · exact sane_of_undecided hlive hinside hstatus htime
    · obtain ⟨hstatus, hnone⟩ := replayFrom_refused threshold (entry :: later) (not_lt.1 hrisk)
      exact sane_of_undecided hlive hinside hstatus hnone

end

end SignalSpec

/-- **A replay of a plan to buy is sane, in any order of its quotes, exactly when the plan is replayable on them.** -/
theorem tick_replay_iff (spec : SignalSpec) (hbuy : spec.side = .buy) (quotes : List TickQuote) (threshold : ℤ) :
    ((∃ outcome, replayBuyPlan spec quotes threshold = .ok outcome ∧ outcome.Sane spec quotes) ∧
        OrderFree spec quotes threshold) ↔
      spec.Replayable quotes := by
  rw [and_iff_left (orderFree spec quotes threshold)]
  have hnot : ¬spec.side ≠ .buy := not_not.2 hbuy
  unfold replayBuyPlan SignalSpec.Replayable
  rw [if_neg hnot, SignalSpec.entryQuote_eq]
  cases hlive : spec.liveQuotes quotes with
  | nil =>
    refine iff_of_true ⟨_, rfl, ?_⟩ fun entry hentry => by cases hentry
    constructor
    · intro t ht
      cases ht
    · intro t ht
      cases ht
    · intro htp
      cases htp
    · intro hsl
      cases hsl
  | cons entry later =>
    constructor
    · rintro ⟨outcome, hok, hsane⟩ entry' hentry
      cases hok
      cases hentry
      exact (SignalSpec.replayFrom_sane_iff hlive).1 hsane
    · intro h
      exact ⟨_, rfl, (SignalSpec.replayFrom_sane_iff hlive).2 (h entry rfl)⟩

/-- The only quote comes after the horizon; or it is already beyond the target. -/
theorem tick_replay_insane :
    let late := passedPlan.replayFrom 2000 ⟨200000, 95, 96⟩ [⟨200000, 95, 96⟩]
    let passed := passedPlan.replayFrom 2000 ⟨60000, 105, 106⟩ [⟨60000, 105, 106⟩]
    (replayBuyPlan passedPlan [⟨200000, 95, 96⟩] 2000 = .ok late ∧ late.entryTime = some 200000 ∧
        passedPlan.horizonBoundary = 180000 ∧ ¬late.Sane passedPlan [⟨200000, 95, 96⟩]) ∧
      replayBuyPlan passedPlan [⟨60000, 105, 106⟩] 2000 = .ok passed ∧ passed.status = .tp ∧
        passed.netR = some (-(1 / 16)) ∧ ¬passed.Sane passedPlan [⟨60000, 105, 106⟩] := by
  intro late passed
  have hlate : replayBuyPlan passedPlan [⟨200000, 95, 96⟩] 2000 = .ok late ∧ late.entryTime = some 200000 ∧
      passedPlan.horizonBoundary = 180000 := ⟨rfl, by decide +kernel⟩
  have hpassed : replayBuyPlan passedPlan [⟨60000, 105, 106⟩] 2000 = .ok passed ∧ passed.status = .tp ∧
      passed.netR = some (-(1 / 16)) := ⟨rfl, by decide +kernel⟩
  refine ⟨⟨hlate.1, hlate.2.1, hlate.2.2, fun hsane => ?_⟩, hpassed.1, hpassed.2.1, hpassed.2.2, fun hsane => ?_⟩
  · have hle := (hsane.entry _ hlate.2.1).2.1
    rw [hlate.2.2] at hle
    norm_num at hle
  · obtain ⟨r, hr, hpos⟩ := hsane.target hpassed.2.1
    rw [hpassed.2.2] at hr
    cases hr
    norm_num at hpos

theorem tick_replay_iff_gain : passedPlan.Replayable [⟨60000, 95, 96⟩, ⟨61000, 101, 102⟩] ∧
    ∃ outcome, replayBuyPlan passedPlan [⟨60000, 95, 96⟩, ⟨61000, 101, 102⟩] 2000 = .ok outcome ∧
      outcome.Sane passedPlan [⟨60000, 95, 96⟩, ⟨61000, 101, 102⟩] := by
  have hreplayable : passedPlan.Replayable [⟨60000, 95, 96⟩, ⟨61000, 101, 102⟩] := by
    have hquotes : passedPlan.entryQuote [⟨60000, 95, 96⟩, ⟨61000, 101, 102⟩] = some ⟨60000, 95, 96⟩ ∧
        passedPlan.exitQuote [⟨60000, 95, 96⟩, ⟨61000, 101, 102⟩] = some ⟨61000, 101, 102⟩ := by
      decide +kernel
    intro entry hentry
    rw [hquotes.1] at hentry
    cases hentry
    refine ⟨by decide, fun _ exit hexit _ => ?_⟩
    rw [hquotes.2] at hexit
    cases hexit
    norm_num
  exact ⟨hreplayable, ((tick_replay_iff passedPlan rfl _ 2000).2 hreplayable).1⟩

end Jqe
