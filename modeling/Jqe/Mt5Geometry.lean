import Jqe.Mt5Order
/-!
# Mt5Geometry — where the stop and the target of a request lie (`MT5Gateway.submit_order`)

Every distance is measured from one price: the quote of a market order, the trigger of a pending one.  A stop-limit order is
filled at its second price.
-/
namespace Jqe
namespace MT5Gateway

/-- How far a level lies on the losing side of a price. -/
def adverse (side : OrderSide) (price level : ℚ) : ℚ :=
  match side with
  | .buy => price - level
  | .sell => level - price

/-- How far a level lies on the winning side of a price. -/
def favourable (side : OrderSide) (price level : ℚ) : ℚ :=
  match side with
  | .buy => level - price
  | .sell => price - level

def minimumDistance (info : Mt5SymbolInfo) : ℚ := info.tradeStopsLevel * info.point

def fillPrice (r : Mt5Request) : ℚ := r.stoplimit.getD r.price

/-- **The geometry of a request**: its stop on the losing side of the fill and its target on the winning one, both at least
the minimum distance away, and no target only where the order had none. -/
structure WellPlaced (order : OrderRequest) (info : Mt5SymbolInfo) (r : Mt5Request) : Prop where
  stop : 0 < adverse order.side (fillPrice r) r.sl ∧ minimumDistance info ≤ adverse order.side (fillPrice r) r.sl
  target : order.takeProfit.isSome = true →
    0 < favourable order.side (fillPrice r) r.tp ∧ minimumDistance info ≤ favourable order.side (fillPrice r) r.tp
  zero : r.tp = 0 → order.takeProfit = none

/-- The rounded quote or trigger of an order. -/
def roundedPrice (order : OrderRequest) (info : Mt5SymbolInfo) (tick : Mt5Tick) : ℚ :=
  (order.entryPrice.map (pyRound · info.digits)).getD (pyRound (if order.side = .buy then tick.ask else tick.bid) info.digits)

def roundedFill (order : OrderRequest) (info : Mt5SymbolInfo) (tick : Mt5Tick) : ℚ :=
  (order.stopLimitPrice.map (pyRound · info.digits)).getD (roundedPrice order info tick)

/-- **What the checks leave open**: levels that meet the price where the symbol has no minimum distance, the stop of a
stop-limit order beside its second price, and a target that rounds to zero. -/
structure Clear (order : OrderRequest) (info : Mt5SymbolInfo) (tick : Mt5Tick) : Prop where
  apart : minimumDistance info ≤ 0 →
    0 < adverse order.side (roundedFill order info tick) (pyRound order.stopLoss info.digits) ∧
      ∀ p ∈ order.takeProfit, 0 < favourable order.side (roundedFill order info tick) (pyRound p info.digits)
  limit : order.orderType = .stopLimit →
    minimumDistance info ≤ adverse order.side (roundedFill order info tick) (pyRound order.stopLoss info.digits)
  zero : ∀ p ∈ order.takeProfit, pyRound p info.digits ≠ 0

variable {order : OrderRequest} {info : Mt5SymbolInfo} {tick : Mt5Tick}

theorem checkStops_ok {stopDistance : ℚ} {profitDistance : Option ℚ}
    (h : checkStops info stopDistance profitDistance = .ok ()) :
    minimumDistance info ≤ stopDistance ∧ ∀ d ∈ profitDistance, minimumDistance info ≤ d := by
  unfold checkStops at h
  dsimp only at h
  split at h
  · split at h <;> cases h
  · rename_i hstop
    split at h
    · cases h
    · rename_i hprofit
      refine ⟨not_lt.1 hstop, fun d hd => ?_⟩
      rw [Option.mem_def.1 hd] at hprofit
      exact not_lt.1 fun hlt => hprofit (decide_eq_true hlt)

theorem stopLimitPrice_iff (order : OrderRequest) : order.stopLimitPrice.isSome = true ↔ order.orderType = .stopLimit := by
  have hfields := order.fields_ok
  cases htype : order.orderType <;> cases hprice : order.stopLimitPrice <;> cases hentry : order.entryPrice <;>
    simp [orderTypeProblem, htype, hprice, hentry] at hfields ⊢

theorem stopLimitFor_ok {price : ℚ} {digits : ℕ} {limit : Option ℚ} (h : stopLimitFor order price digits = .ok limit) :
    limit = order.stopLimitPrice.map (pyRound · digits) ∧ ∀ p ∈ limit, 0 ≤ adverse order.side price p := by
  unfold stopLimitFor at h
  split at h
  · rename_i p htype hp
    dsimp only at h
    split at h
    · cases h
    · rename_i hbuy
      split at h
      · cases h
      · rename_i hsell
        cases h
        rw [hp]
        refine ⟨rfl, fun q hq => ?_⟩
        cases hq
        cases hside : order.side with
        | buy => exact sub_nonneg.2 (not_lt.1 fun hlt => hbuy ⟨hside, hlt⟩)
        | sell => exact sub_nonneg.2 (not_lt.1 fun hlt => hsell ⟨hside, hlt⟩)
  · rename_i hnot
    cases h
    have hnone : order.stopLimitPrice = none := by
      cases hp : order.stopLimitPrice with
      | none => rfl
      | some p =>
        have htype : order.orderType = .stopLimit := (stopLimitPrice_iff order).1 (by rw [hp]; rfl)
        exact absurd hp (hnot p htype)
    rw [hnone]
    exact ⟨rfl, fun p hp => by cases hp⟩

theorem buildRequest_ok {symbol : String} {quantity : ℚ} {r : Mt5Request}
    (h : buildRequest order symbol quantity info tick = .ok r) :
    ∃ limit, stopLimitFor order (roundedPrice order info tick) info.digits = .ok limit ∧
      checkStops info (adverse order.side (roundedPrice order info tick) (pyRound order.stopLoss info.digits))
        ((order.takeProfit.map (pyRound · info.digits)).map (favourable order.side (roundedPrice order info tick))) = .ok () ∧
      r.price = roundedPrice order info tick ∧ r.sl = pyRound order.stopLoss info.digits ∧
        r.tp = (order.takeProfit.map (pyRound · info.digits)).getD 0 ∧ r.stoplimit = limit ∧ r.symbol = symbol := by
  unfold buildRequest at h
  dsimp only at h
  unfold adverse favourable roundedPrice
  cases hside : order.side <;>
  · simp only [hside, if_true, reduceCtorEq, if_false] at h ⊢
    split at h
    · cases h
    · obtain ⟨limit, hlimit, h⟩ := bind_ok h
      obtain ⟨⟨⟩, hstops, h⟩ := bind_ok h
      refine ⟨limit, hlimit, hstops, ?_⟩
      split at h <;>
      · obtain ⟨filling, -, h⟩ := bind_ok h
        cases h
        exact ⟨rfl, rfl, rfl, rfl, rfl⟩

theorem favourable_of_adverse {side : OrderSide} {price fill level : ℚ} (h : 0 ≤ adverse side price fill) :
    favourable side price level ≤ favourable side fill level := by
  unfold adverse at h
  unfold favourable
  cases side
  · dsimp only at h ⊢
    linarith
  · dsimp only at h ⊢
    linarith

/-- **The geometry of a request, exactly**: it is right where what the checks leave open does not happen. -/
theorem wellPlaced_iff_of_built {symbol : String} {quantity : ℚ} {r : Mt5Request}
    (h : buildRequest order symbol quantity info tick = .ok r) : WellPlaced order info r ↔ Clear order info tick := by
  obtain ⟨limit, hlimit, hstops, hprice, hsl, htp, hstoplimit, -⟩ := buildRequest_ok h
  obtain ⟨hstop, hprofit⟩ := checkStops_ok hstops
  obtain ⟨hsecond, hside⟩ := stopLimitFor_ok hlimit
  have hfill : fillPrice r = roundedFill order info tick := by
    unfold fillPrice roundedFill
    rw [hstoplimit, hsecond, hprice]
  have htarget : ∀ p ∈ order.takeProfit, r.tp = pyRound p info.digits := by
    intro p hp
    rw [htp, Option.mem_def.1 hp]
    rfl
  constructor
  · intro hplaced
    have hstop := hplaced.stop
    rw [hfill, hsl] at hstop
    refine ⟨fun _ => ⟨hstop.1, fun p hp => ?_⟩, fun _ => hstop.2, fun p hp hzero => ?_⟩
    · have hp' := (hplaced.target (Option.isSome_iff_exists.2 ⟨p, hp⟩)).1
      rwa [hfill, htarget p hp] at hp'
    · have hnone := hplaced.zero ((htarget p hp).trans hzero)
      rw [hnone] at hp
      cases hp
  · intro hclear
    -- the checks measure from the trigger; only a stop-limit order is filled elsewhere
    have hdistance : minimumDistance info ≤ adverse order.side (roundedFill order info tick) (pyRound order.stopLoss info.digits) := by
      by_cases htype : order.orderType = .stopLimit
      · exact hclear.limit htype
      · have hnone : order.stopLimitPrice = none := by
          rw [← Option.not_isSome_iff_eq_none, stopLimitPrice_iff]
          exact htype
        unfold roundedFill
        rw [hnone]
        exact hstop
    have hbeyond : ∀ p ∈ order.takeProfit,
        minimumDistance info ≤ favourable order.side (roundedFill order info tick) (pyRound p info.digits) := by
      intro p hp
      have hfar := hprofit (favourable order.side (roundedPrice order info tick) (pyRound p info.digits))
        (by rw [Option.mem_def.1 hp]; rfl)
      unfold roundedFill
      cases hlim : order.stopLimitPrice with
      | none => exact hfar
      | some q => exact hfar.trans (favourable_of_adverse (hside _ (by rw [hsecond, hlim]; rfl)))
    refine ⟨?_, fun hsome => ?_, fun hzero => ?_⟩
    · rw [hfill, hsl]
      refine ⟨?_, hdistance⟩
      rcases le_or_gt (minimumDistance info) 0 with hmin | hmin
      · exact (hclear.apart hmin).1
      · exact hmin.trans_le hdistance
    · obtain ⟨p, hp⟩ := Option.isSome_iff_exists.1 hsome
      rw [hfill, htarget p hp]
      refine ⟨?_, hbeyond p hp⟩
      rcases le_or_gt (minimumDistance info) 0 with hmin | hmin
      · exact (hclear.apart hmin).2 p hp
      · exact hmin.trans_le (hbeyond p hp)
    · cases hp : order.takeProfit with
      | none => rfl
      | some p => exact absurd ((htarget p hp).symm.trans hzero) (hclear.zero p hp)

theorem prepare_ok {g : MT5Gateway} {t : Mt5Terminal} {r : Mt5Request} (h : g.prepare t order = .ok r) :
    ∃ quantity info tick, t.symbolInfo r.symbol = .ok (some info) ∧ t.symbolInfoTick r.symbol = .ok (some tick) ∧
      buildRequest order r.symbol quantity info tick = .ok r := by
  unfold prepare at h
  obtain ⟨_, -, h⟩ := bind_ok h
  dsimp only at h
  split at h
  · cases h
  · obtain ⟨_, -, h⟩ := bind_ok h
    obtain ⟨resolved, -, h⟩ := bind_ok h
    split at h
    · cases h
    · cases h
    · rename_i symbol _
      obtain ⟨selected, -, h⟩ := bind_ok h
      split at h
      · cases h
      · obtain ⟨info?, hinfo, h⟩ := bind_ok h
        split at h
        · cases h
        · rename_i info
          split at h
          · cases h
          · obtain ⟨quantity, -, h⟩ := bind_ok h
            obtain ⟨tick?, htick, h⟩ := bind_ok h
            split at h
            · cases h
            · rename_i tick
              obtain ⟨_, _, _, _, _, _, _, hsymbol⟩ := buildRequest_ok h
              rw [hsymbol]
              exact ⟨quantity, info, tick, Sdk.get_eq_ok hinfo, Sdk.get_eq_ok htick, h⟩

/-- **The geometry of every request**: what is passed to `order_check` is well placed exactly where, of the specification and
the tick it was built of, what the checks leave open does not happen. -/
theorem wellPlaced_iff {g : MT5Gateway} {t : Mt5Terminal} {r : Mt5Request} (h : g.prepare t order = .ok r)
    (hinfo : t.symbolInfo r.symbol = .ok (some info)) (htick : t.symbolInfoTick r.symbol = .ok (some tick)) :
    WellPlaced order info r ↔ Clear order info tick := by
  obtain ⟨quantity, info', tick', hinfo', htick', hbuilt⟩ := prepare_ok h
  rw [hinfo] at hinfo'
  rw [htick] at htick'
  cases hinfo'
  cases htick'
  exact wellPlaced_iff_of_built hbuilt

def limitOrder (stop : ℚ) (hstop : 0 < stop) : OrderRequest where
  symbol := "PAINX1200"
  side := .buy
  quantity := ⟨1, .mt5Lots, one_lot_pos⟩
  orderType := .stopLimit
  entryPrice := some 110
  stopLimitPrice := some 102
  stopLoss := stop
  takeProfit := some 120
  idempotencyKey := some "k1"
  magicNumber := none
  orderComment := none
  prices_pos := ⟨hstop, by decide, by decide, by decide⟩
  fields_ok := by decide

/-- What is passed to `order_check` for it. -/
def limitRequest (stop : ℚ) : Mt5Request where
  action := .pending
  symbol := "PAINX1200"
  volume := 1
  type := .buyStopLimit
  price := 110
  sl := stop
  tp := 120
  deviation := 20
  magic := 20260802
  comment := "JQE Gateway Execution"
  typeFilling := .ret
  stoplimit := some 102

/-- **The stop of a stop-limit order may lie on the winning side of its fill**: bought at 102, it is stopped at 105. -/
theorem stop_beyond_fill : ¬∀ (g : MT5Gateway) (t : Mt5Terminal) (order : OrderRequest) (info : Mt5SymbolInfo)
    (tick : Mt5Tick) (r : Mt5Request), g.prepare t order = .ok r → t.symbolInfo r.symbol = .ok (some info) →
      t.symbolInfoTick r.symbol = .ok (some tick) → WellPlaced order info r := by
  intro h
  have hrequest : sampleGateway.prepare (sampleTerminal tradeRetcodeDone none) (limitOrder 105 (by decide)) =
      .ok (limitRequest 105) := by decide +kernel
  have hstop := (h _ _ _ _ _ _ hrequest rfl rfl).stop.1
  exact absurd hstop (by decide +kernel)

theorem wellPlaced_below_both : WellPlaced (limitOrder 90 (by decide)) sampleInfo (limitRequest 90) := by
  have hrequest : sampleGateway.prepare (sampleTerminal tradeRetcodeDone none) (limitOrder 90 (by decide)) =
      .ok (limitRequest 90) := by decide +kernel
  have htick : (sampleTerminal tradeRetcodeDone none).symbolInfoTick (limitRequest 90).symbol = .ok (some ⟨100, 99⟩) := rfl
  refine (wellPlaced_iff hrequest rfl htick).2 ⟨fun hmin => ?_, fun _ => ?_, fun p hp => ?_⟩
  · exact absurd hmin (by decide +kernel)
  · decide +kernel
  · cases hp
    decide +kernel

end MT5Gateway
end Jqe
