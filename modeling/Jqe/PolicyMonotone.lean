import Jqe.ExecPolicy
import Mathlib.Data.List.Perm.Subperm
import Mathlib.Tactic.Linarith
/-!
# PolicyMonotone — a more restrictive context allows no more

`Restricts c c'`: the context `c'` is at least as restrictive as `c`, field by field.  What is allowed under `c'` is
allowed under `c`, by one lemma for each check that reads the context.
-/
namespace Jqe

namespace ExecutionPolicy

variable {intent : ExecutionIntent} {c c' : ExecutionContext}

theorem contextValid_eq (intent : ExecutionIntent) (context : ExecutionContext) :
    contextValid intent context = (validContext context && !blank intent.symbol && !blank intent.idempotencyKey) := rfl

structure Restricts (c c' : ExecutionContext) : Prop where
  emergencyStop : c.emergencyStop = some true → c'.emergencyStop = some true
  dailyLoss : ∀ l l', finiteNumber c.dailyLossPercent = some l → finiteNumber c'.dailyLossPercent = some l' → l ≤ l'
  maxDailyLoss : ∀ m m', finiteNumber c.maxDailyLossPercent = some m →
    finiteNumber c'.maxDailyLossPercent = some m' → m' ≤ m
  dailyTrades : ∀ n n', c.dailyTradeCount = some n → c'.dailyTradeCount = some n' → n ≤ n'
  maxDailyTrades : ∀ n n', c.maxDailyTrades = some n → c'.maxDailyTrades = some n' → n' ≤ n
  openPositions : ∀ ps ps', c.openPositions = some ps → c'.openPositions = some ps' → ps.Subperm ps'
  maxOpenPositions : ∀ n n', c.maxOpenPositions = some n → c'.maxOpenPositions = some n' → n' ≤ n
  usedKeys : ∀ ks ks', c.usedIdempotencyKeys = some ks → c'.usedIdempotencyKeys = some ks' → ks ⊆ ks'
  enabled : c'.executionEnabled = true → c.executionEnabled = true
  dryRun : c.dryRun = true → c'.dryRun = true
  authoritative : c'.dailyStateAuthoritative = true → c.dailyStateAuthoritative = true
  brokers : c'.approvedBrokers ⊆ c.approvedBrokers
  environments : c'.approvedEnvironments ⊆ c.approvedEnvironments
  accounts : c'.approvedAccounts ⊆ c.approvedAccounts
  symbols : c'.approvedSymbols ⊆ c.approvedSymbols
  broker : c'.broker = c.broker
  environment : c'.environment = c.environment
  account : c'.accountId = c.accountId

/-! ### What is allowed -/

theorem any_eq_true {α : Type} {o : Option α} {p : α → Bool} (h : o.any p = true) : ∃ a, o = some a ∧ p a = true := by
  cases o with
  | none => cases h
  | some a => exact ⟨a, rfl, h⟩

theorem contains_mono {α : Type} [DecidableEq α] {as bs : List α} (h : as ⊆ bs) {a : α} (ha : as.contains a = true) :
    bs.contains a = true := by
  rw [List.contains_iff_mem] at ha ⊢
  exact h ha

theorem any_contains_mono {o : Option String} {as bs : List String} (h : as ⊆ bs)
    (ho : o.any (as.contains ·) = true) : o.any (bs.contains ·) = true := by
  obtain ⟨a, rfl, ha⟩ := any_eq_true ho
  exact contains_mono h ha

theorem quantityProblem_congr (h : c'.broker = c.broker) : quantityProblem intent c' = quantityProblem intent c := by
  unfold quantityProblem
  rw [h]

theorem usedKey_mono (hvalid : validContext c' = true) (h : Restricts c c')
    (hfree : c'.usedIdempotencyKeys.any (·.contains intent.idempotencyKey) = false) :
    c.usedIdempotencyKeys.any (·.contains intent.idempotencyKey) = false := by
  unfold validContext at hvalid
  simp only [Bool.and_eq_true] at hvalid
  obtain ⟨keys', hkeys', -⟩ := any_eq_true hvalid.1.1.1.1.2
  by_cases hused : c.usedIdempotencyKeys.any (·.contains intent.idempotencyKey) = true
  · obtain ⟨keys, hkeys, hmem⟩ := any_eq_true hused
    rw [hkeys', Option.any_some, contains_mono (h.usedKeys _ _ hkeys hkeys') hmem] at hfree
    cases hfree
  · simpa using hused

section Policy

variable [CaseMap]

theorem evaluate_allowed_iff : (evaluate intent (some c)).allowed = true ↔
    c.emergencyStop ≠ some true ∧ Passed intent c ∧
      c.usedIdempotencyKeys.any (·.contains intent.idempotencyKey) = false := by
  constructor
  · intro h
    obtain ⟨c₀, hc₀, hpassed⟩ := evaluate_allowed h
    cases hc₀
    unfold evaluate at h
    split at h
    · cases h
    rename_i hstop
    refine ⟨fun heq => hstop (by simp [heq]), hpassed, ?_⟩
    rw [if_neg (not_not.2 hpassed.risk)] at h
    have hside : intent.side.side? ≠ none := Option.isSome_iff_ne_none.1 hpassed.direction
    simp only [hpassed.valid, hpassed.deployment, hpassed.daily, hside, hpassed.quantity, hpassed.price,
      hpassed.limits, Bool.not_true, Bool.false_eq_true, if_false, Option.none_or] at h
    split at h
    · cases h
    · rename_i hkey
      simpa using hkey
  · rintro ⟨hstop, hpassed, hkey⟩
    have hside : intent.side.side? ≠ none := Option.isSome_iff_ne_none.1 hpassed.direction
    have hstop' : ¬ (some c).any (·.emergencyStop == some true) = true := by
      intro heq
      exact hstop (by simpa using heq)
    unfold evaluate
    rw [if_neg hstop', if_neg (not_not.2 hpassed.risk)]
    simp only [hpassed.valid, hpassed.deployment, hpassed.daily, hside, hpassed.quantity, hpassed.price,
      hpassed.limits, hkey, Bool.not_true, Bool.false_eq_true, if_false, Option.none_or]

/-! ### The checks, one by one -/

theorem deploymentAuthorized_mono (h : Restricts c c') (hauth : deploymentAuthorized intent c' = true) :
    deploymentAuthorized intent c = true := by
  unfold deploymentAuthorized at hauth ⊢
  simp only [Bool.and_eq_true] at hauth ⊢
  obtain ⟨⟨⟨⟨⟨henabled, hdry⟩, hbroker⟩, henvironment⟩, haccount⟩, hsymbol⟩ := hauth
  rw [h.broker] at hbroker
  rw [h.environment] at henvironment
  rw [h.account] at haccount
  refine ⟨⟨⟨⟨⟨h.enabled henabled, ?_⟩, any_contains_mono h.brokers hbroker⟩,
    any_contains_mono h.environments henvironment⟩, any_contains_mono h.accounts haccount⟩,
    contains_mono h.symbols hsymbol⟩
  by_cases hrun : c.dryRun = true
  · rw [h.dryRun hrun] at hdry
    cases hdry
  · simpa using hrun

theorem limitProblem_mono (hvalid : validContext c = true) (h : Restricts c c')
    (hnone : limitProblem intent c' = none) : limitProblem intent c = none := by
  unfold validContext at hvalid
  simp only [Bool.and_eq_true] at hvalid
  obtain ⟨⟨⟨⟨⟨⟨⟨⟨⟨⟨⟨-, hloss⟩, hmaxLoss⟩, htrades⟩, hmaxTrades⟩, hpositions⟩, hmaxOpen⟩, -⟩, -⟩, -⟩, -⟩, -⟩ := hvalid
  obtain ⟨loss, hloss, -⟩ := any_eq_true hloss
  obtain ⟨maxLoss, hmaxLoss, -⟩ := any_eq_true hmaxLoss
  obtain ⟨count, htrades, -⟩ := any_eq_true htrades
  obtain ⟨maxCount, hmaxTrades, -⟩ := any_eq_true hmaxTrades
  obtain ⟨positions, hpositions, -⟩ := any_eq_true hpositions
  obtain ⟨maxOpen, hmaxOpen, -⟩ := any_eq_true hmaxOpen
  unfold limitProblem at hnone
  split at hnone
  · rename_i loss' maxLoss' count' maxCount' positions' maxOpen' hloss' hmaxLoss' htrades' hmaxTrades' hpositions' hmaxOpen'
    have hlossLe := h.dailyLoss _ _ hloss hloss'
    have hmaxLossLe := h.maxDailyLoss _ _ hmaxLoss hmaxLoss'
    have hcountLe := h.dailyTrades _ _ htrades htrades'
    have hmaxCountLe := h.maxDailyTrades _ _ hmaxTrades hmaxTrades'
    have hsub := h.openPositions _ _ hpositions hpositions'
    have hlength := hsub.length_le
    have hmaxOpenLe := h.maxOpenPositions _ _ hmaxOpen hmaxOpen'
    iterate 4
      split at hnone
      · cases hnone
    rename_i hlossOk hcountOk hopenOk hsameOk
    unfold limitProblem
    rw [hloss, hmaxLoss, htrades, hmaxTrades, hpositions, hmaxOpen]
    dsimp only
    rw [if_neg (by linarith), if_neg (by omega), if_neg (by omega), if_neg ?_]
    intro hsame
    obtain ⟨p, hp, heq⟩ := List.any_eq_true.1 hsame
    exact hsameOk (List.any_eq_true.2 ⟨p, hsub.subset hp, heq⟩)
  · cases hnone

/-! ### The policy -/

/-- **Monotonicity of the policy**: what the more restrictive context allows, the other allows, and what this one
refuses, that one refuses. -/
theorem evaluate_antitone (intent : ExecutionIntent) (c c' : ExecutionContext) (hvalid : validContext c = true)
    (hvalid' : validContext c' = true) (h : Restricts c c') :
    ((evaluate intent (some c')).allowed = true → (evaluate intent (some c)).allowed = true) ∧
      ((evaluate intent (some c)).allowed = false → (evaluate intent (some c')).allowed = false) := by
  have hallowed : (evaluate intent (some c')).allowed = true → (evaluate intent (some c)).allowed = true := by
    intro hallowed
    obtain ⟨hstop, hpassed, hkey⟩ := evaluate_allowed_iff.1 hallowed
    have hintent := hpassed.valid
    rw [contextValid_eq, hvalid', Bool.true_and] at hintent
    refine evaluate_allowed_iff.2 ⟨fun heq => hstop (h.emergencyStop heq), ?_, usedKey_mono hvalid' h hkey⟩
    exact {
      risk := hpassed.risk
      valid := by rw [contextValid_eq, hvalid, Bool.true_and]; exact hintent
      deployment := deploymentAuthorized_mono h hpassed.deployment
      daily := h.authoritative hpassed.daily
      direction := hpassed.direction
      quantity := by rw [← quantityProblem_congr h.broker]; exact hpassed.quantity
      price := hpassed.price
      limits := limitProblem_mono hvalid h hpassed.limits }
  refine ⟨hallowed, fun hrefused => ?_⟩
  by_cases hc : (evaluate intent (some c')).allowed = true
  · rw [hallowed hc] at hrefused
    cases hrefused
  · simpa using hc

end Policy

local instance policyCase : CaseMap := asciiCase

def approvedBuy : ExecutionIntent where
  symbol := "EURUSD"
  side := .member .buy
  quantity := some ⟨1, .simulationUnits, by norm_num⟩
  authorizedRiskAmount := some (.fin 10)
  expectedLossAtStop := some (.fin 9)
  quantityRiskVerified := true
  entry := .fin 100
  stopLoss := .fin 91
  takeProfit := .fin 120
  idempotencyKey := "k"
  riskApproved := some true
  magicNumber := none
  orderComment := none

def roomyContext : ExecutionContext where
  emergencyStop := some false
  dailyLossPercent := some (.fin 1)
  maxDailyLossPercent := some (.fin 5)
  dailyTradeCount := some 1
  maxDailyTrades := some 5
  openPositions := some [⟨"USDJPY", .member .sell⟩]
  maxOpenPositions := some 4
  usedIdempotencyKeys := some ["j"]
  executionEnabled := true
  dryRun := false
  broker := some "simulation"
  environment := some "paper"
  accountId := some "A"
  approvedBrokers := ["simulation", "mt5"]
  approvedEnvironments := ["paper"]
  approvedAccounts := ["A"]
  approvedSymbols := ["EURUSD", "USDJPY"]
  dailyStateAuthoritative := true

def tightContext : ExecutionContext :=
  { roomyContext with
    dailyLossPercent := some (.fin 2)
    maxDailyLossPercent := some (.fin 3)
    dailyTradeCount := some 2
    maxDailyTrades := some 3
    openPositions := some [⟨"USDJPY", .member .sell⟩, ⟨"USDCHF", .member .buy⟩]
    maxOpenPositions := some 3
    usedIdempotencyKeys := some ["i", "j"]
    approvedBrokers := ["simulation"]
    approvedSymbols := ["EURUSD"] }

theorem evaluate_antitone_tight :
    (evaluate approvedBuy (some tightContext)).allowed = true ∧ (evaluate approvedBuy (some roomyContext)).allowed = true := by
  have htight : (evaluate approvedBuy (some tightContext)).allowed = true := by decide +kernel
  refine ⟨htight, (evaluate_antitone approvedBuy roomyContext tightContext (by rfl) (by decide)
    ?_).1 htight⟩
  exact {
    emergencyStop := by decide
    dailyLoss := by rintro _ _ ⟨⟩ ⟨⟩; norm_num
    maxDailyLoss := by rintro _ _ ⟨⟩ ⟨⟩; norm_num
    dailyTrades := by rintro _ _ ⟨⟩ ⟨⟩; decide
    maxDailyTrades := by rintro _ _ ⟨⟩ ⟨⟩; decide
    openPositions := by rintro _ _ ⟨⟩ ⟨⟩; exact (List.sublist_append_left _ _).subperm
    maxOpenPositions := by rintro _ _ ⟨⟩ ⟨⟩; decide
    usedKeys := by rintro _ _ ⟨⟩ ⟨⟩; decide
    enabled := fun _ => rfl
    dryRun := fun h => h
    authoritative := fun _ => rfl
    brokers := by decide
    environments := by decide
    accounts := by decide
    symbols := by decide
    broker := rfl
    environment := rfl
    account := rfl }

end ExecutionPolicy

end Jqe
