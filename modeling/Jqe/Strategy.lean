import Jqe.Indicators
import Jqe.PyBase
/-!
# Strategy — `strategy/pipeline.py` and what it runs

The features, the confidence model, the signal engine, its scorer and the trade plans, with the default engine.  The
market is without a column of spreads, which then are 1.  Rendered numbers in texts are left out.
-/
namespace Jqe
namespace Strategy

open Column

/-! ### Features -/

inductive Trend where
  | bullish
  | bearish
  deriving DecidableEq

/-- The scorers know `MODERATE`, which no feature is. -/
inductive Momentum where
  | strong
  | moderate
  | neutral
  | weak
  deriving DecidableEq

/-- The scorers know `MEDIUM` and `LOW`, which no feature is. -/
inductive Volatility where
  | high
  | medium
  | low
  | normal
  deriving DecidableEq

inductive Regime where
  | trending
  | ranging
  | highVolatility
  | unknown
  deriving DecidableEq

inductive Action where
  | buy
  | sell
  | wait
  deriving DecidableEq

structure Features where
  trend : Trend
  momentum : Momentum
  volatility : Volatility
  confidence : ℤ
  deriving DecidableEq

def averageAtr (df : List IndicatorRow) : Option ℚ := mean 1 (df.map (·.atr))

def analyze (df : List IndicatorRow) (latest : IndicatorRow) : Features :=
  let trend := if latest.ema200 < latest.ema50 then Trend.bullish else .bearish
  let trendScore := 30
  let (momentum, momentumScore) :=
    if below (some 60) latest.rsi then (Momentum.strong, 30)
    else if below latest.rsi (some 40) then (.weak, 10)
    else (.neutral, 20)
  let (volatility, volatilityScore) :=
    if below (averageAtr df) latest.atr then (Volatility.high, 20) else (.normal, 10)
  { trend, momentum, volatility, confidence := trendScore + momentumScore + volatilityScore }

/-- `RegimeTranslator.to_canonical`, of what `detect_regime` answers. -/
def toCanonical : LegacyRegime → Regime
  | .trendUp | .trendDown => .trending
  | .range => .ranging
  | .noTrade => .unknown

/-! ### The confidence model -/

inductive Liquidity where
  | good
  | medium
  | low
  deriving DecidableEq

def liquidityOf (spread : ℚ) : Liquidity := if spread < 3 then .good else if spread < 8 then .medium else .low

inductive StructureClass where
  | confirmed
  | weak
  | none
  | unknown
  deriving DecidableEq

def classifyStructure (candles : List PriceRow) : StructureClass :=
  if candles.length < 21 then .unknown
  else
    let reference := (candles.drop (candles.length - 21)).dropLast
    match candles.getLast?, (reference.map (·.high)).max?, (reference.map (·.low)).min? with
    | some latest, some rangeHigh, some rangeLow =>
      let rangeSize := rangeHigh - rangeLow
      if rangeSize ≤ 0 then .unknown
      else if rangeHigh < latest.close ∨ latest.close < rangeLow then .confirmed
      else
        let position := (latest.close - rangeLow) / rangeSize
        if 3 / 4 ≤ position ∨ position ≤ 1 / 4 then .weak else .none
    | _, _, _ => .unknown

inductive RiskCondition where
  | favorable
  | moderate
  | unfavorable
  | unknown
  deriving DecidableEq

/-- `classify_risk_conditions`; no number compares with a ratio. -/
def classifyRiskConditions (spread : ℚ) : Option ℚ → RiskCondition
  | none => .unfavorable
  | some atr =>
    if atr ≤ 0 then .unknown
    else if spread / atr < 3 / 20 then .favorable
    else if spread / atr < 7 / 20 then .moderate
    else .unfavorable

structure ConfidenceBreakdown where
  trendScore : ℤ
  structureScore : ℤ
  liquidityScore : ℤ
  momentumScore : ℤ
  volatilityScore : ℤ
  riskScore : ℤ
  total : ℤ
  deriving DecidableEq

def calculate (shape : StructureClass) (liquidity : Liquidity) (momentum : Momentum)
    (volatility : Volatility) (risk : RiskCondition) : ConfidenceBreakdown :=
  let trendScore := 25
  let structureScore := match shape with
    | .confirmed => 20
    | .weak => 10
    | _ => 0
  let liquidityScore := match liquidity with
    | .good => 20
    | .medium => 10
    | .low => 0
  let momentumScore := match momentum with
    | .strong => 15
    | .moderate => 10
    | _ => 0
  let volatilityScore := match volatility with
    | .medium => 10
    | .high => 6
    | .low => 3
    | .normal => 0
  let riskScore := match risk with
    | .favorable => 10
    | .moderate => 5
    | _ => 0
  { trendScore, structureScore, liquidityScore, momentumScore, volatilityScore, riskScore
    total := trendScore + structureScore + liquidityScore + momentumScore + volatilityScore + riskScore }

/-! ### The signal -/

def generate (regime : Regime) (features : Features) : Action :=
  match regime with
  | .highVolatility => .wait
  | .trending =>
    match features.trend, features.momentum with
    | .bullish, .strong => .buy
    | .bearish, .strong => .sell
    | _, _ => .wait
  | .ranging => .wait
  | .unknown => .wait

def scorer (regime : Regime) (features : Features) : ℤ × List String :=
  let trend : ℤ × List String := (30, ["Trend alignment"])
  let momentum : ℤ × List String := match features.momentum with
    | .strong => (25, ["Strong momentum confirmation"])
    | .moderate => (15, ["Moderate momentum"])
    | _ => (0, [])
  let volatility : ℤ × List String := match features.volatility with
    | .low | .medium => (20, ["Controlled volatility"])
    | .high => (5, ["High volatility risk"])
    | .normal => (0, [])
  let market : ℤ × List String := match regime with
    | .trending => (25, ["Trending market condition"])
    | .ranging => (5, ["Range market"])
    | _ => (0, [])
  (trend.1 + momentum.1 + volatility.1 + market.1, trend.2 ++ momentum.2 ++ volatility.2 ++ market.2)

def qualityOf (score : ℤ) : String :=
  if 90 ≤ score then "HIGH" else if 70 ≤ score then "GOOD" else if 50 ≤ score then "WEAK" else "POOR"

inductive SignalKind where
  | buy
  | sell
  | noTrade
  deriving DecidableEq

def SignalKind.text : SignalKind → String
  | buy => "BUY"
  | sell => "SELL"
  | noTrade => "NO_TRADE"

def Action.signal : Action → SignalKind
  | buy => .buy
  | sell => .sell
  | wait => .noTrade

def minConfidence : ℤ := 75

/-! ### Trade plans -/

structure Levels where
  entry : ℚ
  stopLoss : ℚ
  takeProfit : ℚ
  riskReward : ℚ
  deriving DecidableEq

structure TradePlan where
  signal : SignalKind
  setupType : String
  levels : Option Levels
  reasons : List String
  warnings : List String
  deriving DecidableEq

def TradePlan.isValid (plan : TradePlan) : Bool :=
  match plan.signal, plan.levels with
  | .noTrade, _ | _, none => false
  | .buy, some l => l.stopLoss < l.entry && l.entry < l.takeProfit && 3 / 2 ≤ l.riskReward
  | .sell, some l => l.takeProfit < l.entry && l.entry < l.stopLoss && 3 / 2 ≤ l.riskReward

def reject (reasons warnings : List String) (reason : String) : TradePlan :=
  ⟨.noTrade, "NO_SETUP", none, reasons ++ ["Rejected: " ++ reason], warnings⟩

def warningsOf (liquidity : Liquidity) (volatility : Volatility) (rsi : Option ℚ) : List String :=
  (if liquidity = .low then ["Low liquidity"] else []) ++
  (if volatility = .high then ["High volatility"] else []) ++
  match rsi with
  | none => []
  | some rsi =>
    if 70 ≤ rsi then ["Elevated RSI (Overbought)"] else if rsi ≤ 30 then ["Depressed RSI (Oversold)"] else []

def atrSlMultiplier : ℚ := 3 / 2

def targetRr : ℚ := 2

def minRr : ℚ := 3 / 2

def actualRr (entry stopLoss takeProfit : ℚ) : ℚ :=
  if 0 < |entry - stopLoss| then |entry - takeProfit| / |entry - stopLoss| else 0

/-- The levels of a direction, before they are rounded. -/
def rawLevels (signal : SignalKind) (entry atr : ℚ) : ℚ × ℚ :=
  match signal with
  | .buy => (entry - atr * atrSlMultiplier, entry + atr * atrSlMultiplier * targetRr)
  | _ => (entry + atr * atrSlMultiplier, entry - atr * atrSlMultiplier * targetRr)

def build (signal : SignalKind) (reasons warnings : List String) (price : ℚ) (atr : Option ℚ) : TradePlan :=
  if price ≤ 0 then reject reasons [] "Invalid or unavailable market price"
  else if signal = .noTrade then reject reasons warnings "Signal model did not produce a valid setup"
  else
    match atr with
    | none => reject reasons warnings "Risk/reward below minimum threshold"
    | some atr =>
      if atr ≤ 0 then reject reasons warnings "Cannot calculate ATR-based stops (Invalid ATR)"
      else
        let (stopLoss, takeProfit) := rawLevels signal price atr
        let rr := actualRr price stopLoss takeProfit
        if rr < minRr then reject reasons warnings "Risk/reward below minimum threshold"
        else
          { signal
            setupType := "TREND_CONTINUATION"
            levels := some ⟨price, pyRound stopLoss 5, pyRound takeProfit 5, pyRound rr 2⟩
            reasons
            warnings }

/-! ### The engine -/

structure Decision where
  signal : SignalKind
  confidence : ℤ
  quality : String
  score : ℤ
  reasons : List String
  breakdown : ConfidenceBreakdown
  tradePlan : TradePlan
  deriving DecidableEq

def currentSpread : ℚ := 1

def presented (regime : Regime) (features : Features) : SignalKind × List String :=
  let signal := (generate regime features).signal
  let reasons := (scorer regime features).2
  if signal ≠ .noTrade ∧ features.confidence < minConfidence then
    (.noTrade, reasons ++ ["Confidence below configured threshold (" ++ toString minConfidence ++ ")"])
  else (signal, reasons)

def evaluate (df : List IndicatorRow) (latest : IndicatorRow) (regime : LegacyRegime) : Decision :=
  let features := analyze df latest
  let canonical := toCanonical regime
  let liquidity := liquidityOf currentSpread
  let volatilityTier := if features.volatility = .normal then Volatility.medium else features.volatility
  let breakdown := calculate (classifyStructure ((df.drop (df.length - 30)).map (·.toPriceRow))) liquidity
    features.momentum volatilityTier (classifyRiskConditions currentSpread latest.atr)
  let (signal, reasons) := presented canonical features
  let score := (scorer canonical features).1
  { signal
    confidence := features.confidence
    quality := qualityOf score
    score
    reasons
    breakdown
    tradePlan := build signal reasons (warningsOf liquidity features.volatility latest.rsi) latest.close latest.atr }

end Strategy

open Strategy

def detectRegime (df : List IndicatorRow) : Except PyExc LegacyRegime :=
  match df.getLast? with
  | none => .error (.exception "single positional indexer is out-of-bounds")
  | some latest => .ok latest.regime

def generateTradingSignal (df : List IndicatorRow) (regime : Option LegacyRegime) : Except PyExc Decision :=
  match df.getLast? with
  | none => .error (.exception "single positional indexer is out-of-bounds")
  | some latest => .ok (Strategy.evaluate df latest (regime.getD latest.regime))

/-- **The signal of a history** with its indicators, where the caller detects the regime. -/
def signalOf (history : List IndicatorRow) : Except PyExc Decision := do
  let regime ← detectRegime history
  generateTradingSignal history (some regime)

theorem signalOf_eq {history : List IndicatorRow} {latest : IndicatorRow} (h : history.getLast? = some latest) :
    signalOf history = .ok (Strategy.evaluate history latest latest.regime) := by
  unfold signalOf detectRegime generateTradingSignal
  rw [h]
  rfl

end Jqe
