import Jqe.Mt5History
/-!
# RiskEngine — the daily limits and the approval of a signal (`risk/risk_engine.py`)

The numbers rendered behind the texts of the limits are left out.
-/
namespace Jqe

inductive RiskDecisionCode where
  | noTradeSignal
  | confidenceTooLow
  | dailyTradeLimitReached
  | dailyLossLimitReached
  | lowVolatility
  | spreadTooHigh
  | riskApproved
  deriving DecidableEq

def RiskDecisionCode.value : RiskDecisionCode → String
  | noTradeSignal => "NO_TRADE_SIGNAL"
  | confidenceTooLow => "CONFIDENCE_TOO_LOW"
  | dailyTradeLimitReached => "DAILY_TRADE_LIMIT_REACHED"
  | dailyLossLimitReached => "DAILY_LOSS_LIMIT_REACHED"
  | lowVolatility => "LOW_VOLATILITY"
  | spreadTooHigh => "SPREAD_TOO_HIGH"
  | riskApproved => "RISK_APPROVED"

structure RiskEngine where
  minConfidence : Int
  maxRiskPercent : ℚ
  minAtr : ℚ
  maxSpread : ℚ
  maxDailyLoss : ℚ
  maxTradesDaily : Nat

/-- What `reconcile_daily_history` leaves, as `get_daily_state` shows it. -/
structure DailyRiskState where
  dailyRealizedLossPercent : ℚ
  dailyTradesCount : Nat
  deriving DecidableEq

structure RiskDecision where
  approved : Bool
  reason : String
  reasonCode : RiskDecisionCode
  riskPercent : ℚ
  authorizedRiskAmount : ℚ
  deriving DecidableEq

def closedToday (trades : List TradeHistoryEntry) (now : Int) : List TradeHistoryEntry :=
  trades.filter fun t => utcDay t.closedAt == utcDay now

/-- The losses among trades, in percent of the balance; `none` is the division by a zero balance. -/
def lossPercent (trades : List TradeHistoryEntry) (balance : ℚ) : Option ℚ :=
  let losses := (trades.map (·.profit)).filter (· < 0)
  if balance = 0 ∧ losses ≠ [] then none else some ((losses.map fun p => max 0 (|p| / balance * 100)).sum)

/-- **`reconcile_daily_history`**: every trade closed today counts. -/
def reconcileDailyHistory (trades : List TradeHistoryEntry) (balance : ℚ) (now : Int) : Except PyExc DailyRiskState :=
  match lossPercent (closedToday trades now) balance with
  | none => .error (.exception "float division by zero")
  | some loss => .ok ⟨loss, (closedToday trades now).length⟩

theorem reconcileDailyHistory_ok {trades : List TradeHistoryEntry} {balance : ℚ} {now : Int} {s : DailyRiskState}
    (h : reconcileDailyHistory trades balance now = .ok s) : s.dailyTradesCount = (closedToday trades now).length := by
  unfold reconcileDailyHistory at h
  split at h
  · cases h
  · cases h
    rfl

namespace RiskEngine

def evaluateLimits (e : RiskEngine) (s : DailyRiskState) : Option (RiskDecisionCode × String) :=
  if e.maxTradesDaily ≤ s.dailyTradesCount then some (.dailyTradeLimitReached, "Daily trade limit reached")
  else if e.maxDailyLoss ≤ s.dailyRealizedLossPercent then
    some (.dailyLossLimitReached, "Daily maximum loss limit reached")
  else none

def refuse (code : RiskDecisionCode) (reason : String) : RiskDecision := ⟨false, reason, code, 0, 0⟩

def approveTrade (e : RiskEngine) (s : DailyRiskState) (direction : String) (confidence : Int) (atr spread : ℚ)
    (balance : ℚ) : RiskDecision :=
  if direction ∉ ["BUY", "SELL"] then refuse .noTradeSignal "No trade signal"
  else if confidence < e.minConfidence then refuse .confidenceTooLow "Confidence too low"
  else match e.evaluateLimits s with
    | some (code, reason) => refuse code reason
    | none =>
      if atr < e.minAtr then refuse .lowVolatility "Low volatility"
      else if e.maxSpread < spread then refuse .spreadTooHigh "Spread too high"
      else ⟨true, "Institutional risk passed", .riskApproved, e.maxRiskPercent, balance * (e.maxRiskPercent / 100)⟩

end RiskEngine

end Jqe
