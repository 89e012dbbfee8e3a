import Jqe.StrategyMirror
/-!
# IndicatorRange — the indicators stay within the prices seen so far

The averages lie among the prices up to their row, the RSI between 0 and 100, and the ATR is no wider than the prices.
-/
namespace Jqe

open Column Indicators List

/-- Every number of a column lies between the two. -/
def Column.Within (lo hi : ℚ) (xs : List (Option ℚ)) : Prop := ∀ x, some x ∈ xs → lo ≤ x ∧ x ≤ hi

variable {lo hi : ℚ}

theorem ewm_within {w : ℚ} (hw : 0 ≤ w ∧ w ≤ 1) {xs : List ℚ} (h : ∀ x ∈ xs, lo ≤ x ∧ x ≤ hi) :
    ∀ m ∈ ewm w xs, lo ≤ m ∧ m ≤ hi := by
  have hfrom : ∀ (y : ℚ) (xs : List ℚ), lo ≤ y ∧ y ≤ hi → (∀ x ∈ xs, lo ≤ x ∧ x ≤ hi) →
      ∀ m ∈ ewmFrom w y xs, lo ≤ m ∧ m ≤ hi := by
    intro y xs
    induction xs generalizing y with
    | nil => exact fun _ _ m hm => by cases hm
    | cons x xs ih =>
      intro hy hxs
      obtain ⟨hx, hxs⟩ := forall_mem_cons.1 hxs
      have hnext : lo ≤ w * x + (1 - w) * y ∧ w * x + (1 - w) * y ≤ hi := by constructor <;> nlinarith
      exact forall_mem_cons.2 ⟨hnext, ih _ hnext hxs⟩
  cases xs with
  | nil => exact fun m hm => by cases hm
  | cons x xs => exact forall_mem_cons.2 ⟨h x mem_cons_self, hfrom x xs (h x mem_cons_self) (forall_mem_cons.1 h).2⟩

theorem rolling_within {n least : ℕ} (hleast : 0 < least) {xs : List (Option ℚ)} (h : Column.Within lo hi xs) :
    Column.Within lo hi (rolling n least xs) := by
  intro m hm
  obtain ⟨i, -, hm⟩ := mem_map.1 hm
  unfold mean at hm
  split at hm
  · cases hm
  · rename_i hcount
    cases hm
    have hwindow : ∀ x ∈ (window n i xs).reduceOption, lo ≤ x ∧ x ≤ hi := fun x hx =>
      h x (mem_of_mem_take (mem_of_mem_drop (reduceOption_mem_iff.1 hx)))
    have hpos : (0 : ℚ) < (window n i xs).reduceOption.length := by exact_mod_cast hleast.trans_le (not_lt.1 hcount)
    have hlow := card_nsmul_le_sum _ lo fun x hx => (hwindow x hx).1
    have hhigh := sum_le_card_nsmul _ hi fun x hx => (hwindow x hx).2
    rw [nsmul_eq_mul] at hlow hhigh
    rw [le_div_iff₀ hpos, div_le_iff₀ hpos]
    constructor <;> linarith

theorem exists_of_mem_zipWith {α β γ : Type} {f : α → β → γ} {as : List α} {bs : List β} {z : γ} (h : z ∈ zipWith f as bs) :
    ∃ a ∈ as, ∃ b ∈ bs, f a b = z := by
  rw [← map_uncurry_zip_eq_zipWith] at h
  obtain ⟨⟨a, b⟩, hab, hz⟩ := mem_map.1 h
  exact ⟨a, (of_mem_zip hab).1, b, (of_mem_zip hab).2, hz⟩

theorem rsi_within (close : List ℚ) : Column.Within 0 100 (rsi close) := by
  intro x hx
  obtain ⟨g, hg, l, hl, hx⟩ := exists_of_mem_zipWith hx
  obtain ⟨i, hi⟩ := mem_iff_getElem?.1 hg
  obtain ⟨j, hj⟩ := mem_iff_getElem?.1 hl
  cases g with
  | none => cases hx
  | some g =>
    cases l with
    | none => cases hx
    | some l =>
      have hgain := rolling_nonneg (fun x hx => gain_nonneg hx) hi
      have hloss := rolling_nonneg (fun x hx => loss_nonneg hx) hj
      unfold relativeStrength at hx
      dsimp only at hx
      split at hx
      · split at hx <;> cases hx
        norm_num
      · cases hx
        have hratio : 1 ≤ 1 + g / l := le_add_of_nonneg_right (div_nonneg hgain hloss)
        have hpart := div_le_self (by norm_num : (0 : ℚ) ≤ 100) hratio
        have hpos : 0 < 100 / (1 + g / l) := by positivity
        constructor <;> linarith

theorem of_larger {a b : Option ℚ} {x : ℚ} (h : larger a b = some x) : a = some x ∨ b = some x := by
  cases a with
  | none => exact .inr h
  | some a =>
    cases b with
    | none => exact .inl h
    | some b =>
      rw [larger] at h
      rcases max_choice a b with hmax | hmax <;> rw [hmax] at h
      · exact .inl h
      · exact .inr h

theorem of_fromClose {price close : List ℚ} {x : ℚ} (h : some x ∈ fromClose price close) :
    ∃ p ∈ price, ∃ c ∈ close, |p - c| = x := by
  obtain ⟨p, hp, before, hbefore, hx⟩ := exists_of_mem_zipWith h
  obtain ⟨c, rfl, rfl⟩ := Option.map_eq_some_iff.1 hx
  refine ⟨p, hp, c, ?_, rfl⟩
  simpa using mem_of_mem_take hbefore

theorem trueRange_within {data : List PriceRow}
    (h : ∀ r ∈ data, lo ≤ r.low ∧ r.low ≤ r.close ∧ r.close ≤ r.high ∧ r.high ≤ hi) :
    Column.Within 0 (hi - lo) (trueRange data) := by
  have hfrom : ∀ {f : PriceRow → ℚ}, (∀ r ∈ data, lo ≤ f r ∧ f r ≤ hi) → ∀ {x},
      some x ∈ fromClose (data.map f) (data.map (·.close)) → 0 ≤ x ∧ x ≤ hi - lo := by
    intro f hf x hx
    obtain ⟨_, hp, _, hc, rfl⟩ := of_fromClose hx
    obtain ⟨r, hr, rfl⟩ := mem_map.1 hp
    obtain ⟨r', hr', rfl⟩ := mem_map.1 hc
    have hr := hf r hr
    have hr' := h r' hr'
    refine ⟨abs_nonneg _, abs_le.2 ⟨?_, ?_⟩⟩ <;> linarith
  intro x hx
  obtain ⟨a, ha, b, hb, hx⟩ := exists_of_mem_zipWith hx
  rcases of_larger hx with rfl | rfl
  · obtain ⟨r, hr, hx⟩ := mem_map.1 ha
    cases hx
    have hr := h r hr
    constructor <;> linarith
  · obtain ⟨a, ha, b, hb, hx⟩ := exists_of_mem_zipWith hb
    rcases of_larger hx with rfl | rfl
    · exact hfrom (fun r hr => by have hr := h r hr; constructor <;> linarith) ha
    · exact hfrom (fun r hr => by have hr := h r hr; constructor <;> linarith) hb

structure IndicatorRow.Within (lo hi : ℚ) (row : IndicatorRow) : Prop where
  averages : lo ≤ row.ema50 ∧ row.ema50 ≤ hi ∧ lo ≤ row.ema200 ∧ row.ema200 ≤ hi
  rsi : ∀ x, row.rsi = some x → 0 ≤ x ∧ x ≤ 100
  atr : ∀ x, row.atr = some x → 0 ≤ x ∧ x ≤ hi - lo

theorem within_of_mem {data : List PriceRow} {row : IndicatorRow} (hmem : row ∈ calculateIndicators data)
    (h : ∀ r ∈ data, lo ≤ r.low ∧ r.low ≤ r.close ∧ r.close ≤ r.high ∧ r.high ≤ hi) : row.Within lo hi := by
  have hclose : ∀ x ∈ data.map (·.close), lo ≤ x ∧ x ≤ hi := forall_mem_map.2 fun r hr => by
    have hr := h r hr
    constructor <;> linarith
  obtain ⟨r, -, ⟨⟨e50, e200⟩, strength, range⟩, hfound, rfl⟩ := exists_of_mem_zipWith hmem
  obtain ⟨haverages, hothers⟩ := of_mem_zip hfound
  obtain ⟨h50, h200⟩ := of_mem_zip haverages
  obtain ⟨hrsi, hatr⟩ := of_mem_zip hothers
  have h50 := ewm_within (by norm_num) hclose _ h50
  have h200 := ewm_within (by norm_num) hclose _ h200
  have hrange : Column.Within 0 (hi - lo) (atr data) := rolling_within (by norm_num) (trueRange_within h)
  refine ⟨⟨h50.1, h50.2, h200⟩, fun x hx => rsi_within (data.map (·.close)) x ?_, fun x hx => hrange x ?_⟩
  · rw [← hx]
    exact hrsi
  · rw [← hx]
    exact hatr

/-- **The indicators of a row stay within the prices up to it.** -/
theorem indicators_within (data : List PriceRow) {i : ℕ} {row : IndicatorRow}
    (hrow : (calculateIndicators data)[i]? = some row)
    (h : ∀ r ∈ data.take (i + 1), lo ≤ r.low ∧ r.low ≤ r.close ∧ r.close ≤ r.high ∧ r.high ≤ hi) : row.Within lo hi := by
  refine within_of_mem ?_ h
  rw [causal_calculateIndicators]
  exact mem_of_getElem? ((getElem?_take_of_lt (Nat.lt_succ_self i)).trans hrow)

theorem indicators_within_leap : ∃ row : IndicatorRow, (calculateIndicators Strategy.leap)[15]? = some row ∧
    row.rsi = some 100 ∧ row.Within 100 101 := by
  have hrsi : (calculateIndicators Strategy.leap)[15]?.map (·.rsi) = some (some 100) := by decide +kernel
  obtain ⟨row, hrow, hrsi⟩ := Option.map_eq_some_iff.1 hrsi
  exact ⟨row, hrow, hrsi, indicators_within _ hrow (by decide)⟩

end Jqe
