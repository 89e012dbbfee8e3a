import Jqe.PyText
import Mathlib.Tactic.Ring
/-!
# IsoOrder — the texts of moments in UTC sort as the moments do

A day splits into eras, centuries, groups of four years and years, all counted from March.  Later days have later dates, and
dates and times are written with digits of fixed width.
-/
namespace Jqe

open List

/-! ### Dates -/

/-- **A day of an era**: its century, its group of four years, its year in the group and its day in the year. -/
structure EraDay where
  century : ℤ
  group : ℤ
  year : ℤ
  day : ℤ

def EraDay.of (doe : ℤ) : EraDay :=
  let century := min (doe / 36524) 3
  let r := doe - 36524 * century
  let s := r % 1461
  ⟨century, r / 1461, min (s / 365) 3, s - 365 * min (s / 365) 3⟩

structure EraDay.Spec (doe : ℤ) (p : EraDay) : Prop where
  sum : doe = 36524 * p.century + 1461 * p.group + 365 * p.year + p.day
  century : 0 ≤ p.century ∧ p.century ≤ 3
  group : 0 ≤ p.group ∧ p.group ≤ 24
  year : 0 ≤ p.year ∧ p.year ≤ 3
  day : 0 ≤ p.day ∧ p.day ≤ 365
  within_group : 365 * p.year + p.day ≤ 1460
  within_year : p.year < 3 → p.day < 365
  within_century : p.century < 3 → 1461 * p.group + 365 * p.year + p.day < 36524

theorem EraDay.spec {doe : ℤ} (h : 0 ≤ doe) (h' : doe < 146097) : (EraDay.of doe).Spec doe := by
  unfold EraDay.of
  constructor <;> dsimp only <;> omega

theorem yearOfEra_eq {doe : ℤ} {p : EraDay} (h : p.Spec doe) :
    (doe - doe / 1460 + doe / 36524 - doe / 146096) / 365 = 100 * p.century + 4 * p.group + p.year := by
  obtain ⟨hsum, hcentury, hgroup, hyear, hday, hwithin, hshort, hlast⟩ := h
  have h1460 : doe / 1460 = 25 * p.century + p.group + (24 * p.century + p.group + 365 * p.year + p.day) / 1460 := by omega
  have hcenturies : doe / 36524 - doe / 146096 = p.century := by
    rcases (by omega : p.century = 0 ∨ p.century = 1 ∨ p.century = 2 ∨ p.century = 3) with hc | hc | hc | hc
    · omega
    · omega
    · omega
    · omega
  have hcarry : (24 * p.century + p.group + 365 * p.year + p.day) / 1460 = 0 ∨
      (24 * p.century + p.group + 365 * p.year + p.day) / 1460 = 1 ∧ p.year = 3 ∧ 1 ≤ p.day := by omega
  rcases hcarry with hcarry | ⟨hcarry, hlastyear, hpos⟩
  · omega
  · omega

def marchDate (year day : ℤ) : ℤ × ℤ × ℤ :=
  let mp := (5 * day + 2) / 153
  let month := if mp < 10 then mp + 3 else mp - 9
  (year + (if month ≤ 2 then 1 else 0), month, day - (153 * mp + 2) / 5 + 1)

def marchYear (day : ℤ) : ℤ :=
  let p := EraDay.of ((day + 719468) % 146097)
  400 * ((day + 719468) / 146097) + 100 * p.century + 4 * p.group + p.year

def marchDay (day : ℤ) : ℤ := (EraDay.of ((day + 719468) % 146097)).day

theorem eraDay_spec (z : ℤ) : (EraDay.of (z % 146097)).Spec (z % 146097) :=
  EraDay.spec (Int.emod_nonneg _ (by decide)) (Int.emod_lt_of_pos _ (by decide))

theorem civil_eq (day : ℤ) : civil day = marchDate (marchYear day) (marchDay day) := by
  have hspec := eraDay_spec (day + 719468)
  have hyear := yearOfEra_eq hspec
  unfold civil marchDate marchYear marchDay
  dsimp only
  rw [hyear]
  obtain ⟨hsum, hcentury, hgroup, hyears, -, -, -, -⟩ := hspec
  generalize EraDay.of ((day + 719468) % 146097) = p at *
  have hfours : (100 * p.century + 4 * p.group + p.year) / 4 = 25 * p.century + p.group := by omega
  have hcenturies : (100 * p.century + 4 * p.group + p.year) / 100 = p.century := by omega
  have hday : (day + 719468) % 146097 - (365 * (100 * p.century + 4 * p.group + p.year) +
      (100 * p.century + 4 * p.group + p.year) / 4 - (100 * p.century + 4 * p.group + p.year) / 100) = p.day := by omega
  rw [hday]
  congr 1
  ring

/-- **A later day is of a later year, or later in the year.** -/
theorem march_lt {day day' : ℤ} (h : day < day') :
    marchYear day < marchYear day' ∨ marchYear day = marchYear day' ∧ marchDay day < marchDay day' := by
  unfold marchYear marchDay
  dsimp only
  obtain ⟨hsum, hcentury, hgroup, hyears, hday, hwithin, hshort, hlast⟩ := eraDay_spec (day + 719468)
  obtain ⟨hsum', hcentury', hgroup', hyears', hday', hwithin', hshort', hlast'⟩ := eraDay_spec (day' + 719468)
  generalize EraDay.of ((day + 719468) % 146097) = p at *
  generalize EraDay.of ((day' + 719468) % 146097) = p' at *
  have hera := Int.mul_ediv_add_emod (day + 719468) 146097
  have hera' := Int.mul_ediv_add_emod (day' + 719468) 146097
  generalize (day + 719468) / 146097 = e at *
  generalize (day' + 719468) / 146097 = e' at *
  rw [hsum] at hera
  rw [hsum'] at hera'
  -- eras first, then centuries, groups and years
  rcases lt_trichotomy e e' with he | rfl | he
  · omega
  · rcases lt_trichotomy p.century p'.century with hc | hc | hc
    · omega
    · rcases lt_trichotomy p.group p'.group with hg | hg | hg
      · omega
      · omega
      · omega
    · omega
  · omega

theorem monthDay_lt {a b : ℤ} (hab : a < b) :
    (5 * a + 2) / 153 < (5 * b + 2) / 153 ∨ (5 * a + 2) / 153 = (5 * b + 2) / 153 ∧
      a - (153 * ((5 * a + 2) / 153) + 2) / 5 < b - (153 * ((5 * b + 2) / 153) + 2) / 5 := by
  rcases lt_or_eq_of_le (show (5 * a + 2) / 153 ≤ (5 * b + 2) / 153 by omega) with h | h
  · exact .inl h
  · refine .inr ⟨h, ?_⟩
    rw [h]
    omega

def DateLt : ℤ × ℤ × ℤ → ℤ × ℤ × ℤ → Prop
  | (y, m, d), (y', m', d') => y < y' ∨ y = y' ∧ (m < m' ∨ m = m' ∧ d < d')

theorem marchDate_lt {year year' day day' : ℤ} (hday : 0 ≤ day ∧ day ≤ 365) (hday' : 0 ≤ day' ∧ day' ≤ 365)
    (h : year < year' ∨ year = year' ∧ day < day') : DateLt (marchDate year day) (marchDate year' day') := by
  have hmonth : 0 ≤ (5 * day + 2) / 153 ∧ (5 * day + 2) / 153 ≤ 11 := by omega
  have hmonth' : 0 ≤ (5 * day' + 2) / 153 ∧ (5 * day' + 2) / 153 ≤ 11 := by omega
  unfold marchDate DateLt
  dsimp only
  rcases h with h | ⟨rfl, h⟩
  · split <;> split <;> omega
  · have hlater := monthDay_lt h
    split <;> split <;> omega

theorem marchDay_bounds (day : ℤ) : 0 ≤ marchDay day ∧ marchDay day ≤ 365 := (eraDay_spec (day + 719468)).day

/-- **Later days have later dates.** -/
theorem civil_lt {day day' : ℤ} (h : day < day') : DateLt (civil day) (civil day') := by
  rw [civil_eq, civil_eq]
  exact marchDate_lt (marchDay_bounds day) (marchDay_bounds day') (march_lt h)

theorem civil_bounds (day : ℤ) : (1 ≤ (civil day).2.1 ∧ (civil day).2.1 ≤ 12) ∧ 1 ≤ (civil day).2.2 ∧ (civil day).2.2 ≤ 31 := by
  have hbounds := marchDay_bounds day
  rw [civil_eq]
  generalize marchDay day = doy at *
  unfold marchDate
  dsimp only
  constructor
  · split <;> omega
  · omega

/-- The first and the last day of `datetime`. -/
def firstDay : ℤ := -719162

def lastDay : ℤ := 2932896

theorem civil_year {day : ℤ} (h : firstDay ≤ day) (h' : day ≤ lastDay) : 1 ≤ (civil day).1 ∧ (civil day).1 ≤ 9999 := by
  have hfirst : civil firstDay = (1, 1, 1) := by decide
  have hlast : civil lastDay = (9999, 12, 31) := by decide
  constructor
  · rcases lt_or_eq_of_le h with h | rfl
    · have hlt := civil_lt h
      rw [hfirst] at hlt
      rcases hlt with hlt | ⟨heq, -⟩
      · exact hlt.le
      · exact heq.le
    · rw [hfirst]
  · rcases lt_or_eq_of_le h' with h' | rfl
    · have hlt := civil_lt h'
      rw [hlast] at hlt
      rcases hlt with hlt | ⟨heq, -⟩
      · exact hlt.le
      · exact heq.le
    · rw [hlast]

/-! ### Digits of a fixed width -/

theorem append_lt_append {a b : List Char} (h : a < b) (hlength : a.length = b.length) (x y : List Char) :
    a ++ x < b ++ y := by
  induction a generalizing b with
  | nil =>
    cases b with
    | nil => exact absurd h (List.lt_irrefl _)
    | cons c b => cases hlength
  | cons c a ih =>
    cases b with
    | nil => cases hlength
    | cons d b =>
      rw [cons_append, cons_append, cons_lt_cons_iff]
      rcases cons_lt_cons_iff.1 h with hcd | ⟨rfl, hab⟩
      · exact .inl hcd
      · exact .inr ⟨rfl, ih hab (Nat.succ.inj hlength)⟩

/-- The digits of `padded`. -/
def digitsOf (width n : ℕ) : List Char :=
  List.replicate (width - (Nat.toDigits 10 n).length) '0' ++ Nat.toDigits 10 n

theorem padded_toList (width : ℕ) (n : ℤ) : (padded width n).toList = digitsOf width n.toNat := by
  unfold padded digitsOf
  rw [String.toList_ofList]
  show List.replicate (width - (Nat.repr n.toNat).toList.length) '0' ++ (Nat.repr n.toNat).toList = _
  rw [Nat.toList_repr]

theorem digitsOf_succ {width n : ℕ} (hwidth : 0 < width) :
    digitsOf (width + 1) n = digitsOf width (n / 10) ++ [(n % 10).digitChar] := by
  unfold digitsOf
  by_cases hn : n < 10
  · rw [Nat.toDigits_of_lt_base hn, Nat.div_eq_of_lt hn, Nat.mod_eq_of_lt hn, Nat.toDigits_zero, length_singleton,
      length_singleton, Nat.add_sub_cancel, ← replicate_succ', Nat.sub_add_cancel hwidth]
  · rw [Nat.toDigits_of_base_le (by decide) (not_lt.1 hn), length_append, length_singleton, Nat.add_sub_add_right,
      append_assoc]

theorem digitsOf_one {n : ℕ} (h : n < 10) : digitsOf 1 n = [n.digitChar] := by
  unfold digitsOf
  rw [Nat.toDigits_of_lt_base h]
  rfl

theorem digitsOf_length {width : ℕ} (hwidth : 1 ≤ width) : ∀ {n : ℕ}, n < 10 ^ width → (digitsOf width n).length = width := by
  induction width, hwidth using Nat.le_induction with
  | base => exact fun h => by rw [digitsOf_one h]; rfl
  | succ width hwidth ih =>
    intro n h
    rw [digitsOf_succ hwidth, length_append, ih (by rw [pow_succ] at h; omega)]
    rfl

theorem digitsOf_lt {width : ℕ} (hwidth : 1 ≤ width) : ∀ {n m : ℕ}, n < m → m < 10 ^ width →
    digitsOf width n < digitsOf width m := by
  have hdigit : ∀ a < 10, ∀ b < 10, a < b → (Nat.digitChar a) < Nat.digitChar b := by decide
  induction width, hwidth using Nat.le_induction with
  | base =>
    intro n m h hm
    rw [digitsOf_one (h.trans hm), digitsOf_one hm, cons_lt_cons_iff]
    exact .inl (hdigit n (h.trans hm) m hm h)
  | succ width hwidth ih =>
    intro n m h hm
    have hm10 : m / 10 < 10 ^ width := by rw [pow_succ] at hm; omega
    rw [digitsOf_succ hwidth, digitsOf_succ hwidth]
    rcases Nat.lt_or_ge (n / 10) (m / 10) with hlt | hge
    · exact append_lt_append (ih hlt hm10)
        (by rw [digitsOf_length hwidth (hlt.trans hm10), digitsOf_length hwidth hm10]) _ _
    · have heq : n / 10 = m / 10 := by omega
      rw [heq]
      refine append_left_lt ?_
      rw [cons_lt_cons_iff]
      exact .inl (hdigit _ (Nat.mod_lt _ (by decide)) _ (Nat.mod_lt _ (by decide)) (by omega))

theorem padded_lt {width : ℕ} (hwidth : 1 ≤ width) {n m : ℤ} (hn : 0 ≤ n) (h : n < m) (hm : m < 10 ^ width) :
    (padded width n).toList < (padded width m).toList := by
  rw [padded_toList, padded_toList]
  have hbound : m.toNat < 10 ^ width := (Int.toNat_lt (hn.trans h.le)).2 (by exact_mod_cast hm)
  exact digitsOf_lt hwidth (by omega) hbound

theorem padded_length {width : ℕ} (hwidth : 1 ≤ width) {n : ℤ} (hn : 0 ≤ n) (h : n < 10 ^ width) :
    (padded width n).toList.length = width := by
  rw [padded_toList]
  have hbound : n.toNat < 10 ^ width := (Int.toNat_lt hn).2 (by exact_mod_cast h)
  exact digitsOf_length hwidth hbound

/-! ### Texts of moments -/

def dateText (day : ℤ) : List Char :=
  (padded 4 (civil day).1).toList ++ '-' :: ((padded 2 (civil day).2.1).toList ++ '-' :: (padded 2 (civil day).2.2).toList)

def timeText (s : ℤ) : List Char :=
  (padded 2 (s / 3600)).toList ++ ':' :: ((padded 2 (s / 60 % 60)).toList ++ ':' :: (padded 2 (s % 60)).toList)

theorem isoformat_toList (t : ℤ) :
    (isoformat t).toList = dateText (utcDay t) ++ 'T' :: (timeText (t % daySeconds) ++ "+00:00".toList) := by
  have hmarks : "-".toList = ['-'] ∧ "T".toList = ['T'] ∧ ":".toList = [':'] := ⟨rfl, rfl, rfl⟩
  unfold isoformat dateText timeText
  generalize civil (utcDay t) = date
  obtain ⟨y, m, d⟩ := date
  dsimp only
  simp only [String.toList_append, hmarks.1, hmarks.2.1, hmarks.2.2, append_assoc, cons_append, nil_append]

theorem marked_lt {a b x y : List Char} {mark : Char} (hlength : a.length = b.length) (h : a < b ∨ a = b ∧ x < y) :
    a ++ mark :: x < b ++ mark :: y := by
  rcases h with h | ⟨rfl, h⟩
  · exact append_lt_append h hlength _ _
  · refine append_left_lt ?_
    rw [cons_lt_cons_iff]
    exact .inr ⟨rfl, h⟩

theorem padded_marked_lt {width : ℕ} {n m : ℤ} {x y : List Char} {mark : Char} (hwidth : 1 ≤ width)
    (hn : 0 ≤ n ∧ n < 10 ^ width) (hm : 0 ≤ m ∧ m < 10 ^ width) (h : n < m ∨ n = m ∧ x < y) :
    (padded width n).toList ++ mark :: x < (padded width m).toList ++ mark :: y := by
  refine marked_lt ?_ ?_
  · rw [padded_length hwidth hn.1 hn.2, padded_length hwidth hm.1 hm.2]
  · rcases h with h | ⟨rfl, h⟩
    · exact .inl (padded_lt hwidth hn.1 h hm.2)
    · exact .inr ⟨rfl, h⟩

theorem dateText_length {day : ℤ} (h : firstDay ≤ day) (h' : day ≤ lastDay) : (dateText day).length = 10 := by
  obtain ⟨hy, hy'⟩ := civil_year h h'
  obtain ⟨⟨hm, hm'⟩, hd, hd'⟩ := civil_bounds day
  unfold dateText
  rw [length_append, length_cons, length_append, length_cons,
    padded_length (by decide) (by omega) (by norm_num; omega), padded_length (by decide) (by omega) (by norm_num; omega),
    padded_length (by decide) (by omega) (by norm_num; omega)]

theorem dateText_lt {day day' : ℤ} (h : day < day') (hfirst : firstDay ≤ day) (hlast : day' ≤ lastDay) :
    dateText day < dateText day' := by
  obtain ⟨hy, hy'⟩ := civil_year hfirst (h.le.trans hlast)
  obtain ⟨hz, hz'⟩ := civil_year (hfirst.trans h.le) hlast
  obtain ⟨⟨hm, hm'⟩, hd, hd'⟩ := civil_bounds day
  obtain ⟨⟨hn, hn'⟩, he, he'⟩ := civil_bounds day'
  have hlater := civil_lt h
  unfold dateText
  refine padded_marked_lt (by decide) (by norm_num; omega) (by norm_num; omega) ?_
  rcases hlater with hlater | ⟨hyear, hlater⟩
  · exact .inl hlater
  · refine .inr ⟨hyear, padded_marked_lt (by decide) (by norm_num; omega) (by norm_num; omega) ?_⟩
    rcases hlater with hlater | ⟨hmonth, hlater⟩
    · exact .inl hlater
    · exact .inr ⟨hmonth, padded_lt (by decide) (by omega) hlater (by norm_num; omega)⟩

theorem timeText_length {s : ℤ} (h : 0 ≤ s) (h' : s < 86400) : (timeText s).length = 8 := by
  unfold timeText
  rw [length_append, length_cons, length_append, length_cons,
    padded_length (by decide) (by omega) (by norm_num; omega), padded_length (by decide) (by omega) (by norm_num; omega),
    padded_length (by decide) (by omega) (by norm_num; omega)]

theorem timeText_lt {s s' : ℤ} (h : s < s') (hfirst : 0 ≤ s) (hlast : s' < 86400) : timeText s < timeText s' := by
  unfold timeText
  refine padded_marked_lt (by decide) (by norm_num; omega) (by norm_num; omega) ?_
  rcases lt_or_eq_of_le (show s / 3600 ≤ s' / 3600 by omega) with hlt | heq
  · exact .inl hlt
  · refine .inr ⟨heq, padded_marked_lt (by decide) (by norm_num; omega) (by norm_num; omega) ?_⟩
    rcases lt_or_eq_of_le (show s / 60 % 60 ≤ s' / 60 % 60 by omega) with hlt | heq
    · exact .inl hlt
    · exact .inr ⟨heq, padded_lt (by decide) (by omega) (by omega) (by norm_num; omega)⟩

/-- **`isoformat()`** of a moment in microseconds. -/
def isoText (t : ℤ) : String :=
  let text := isoformat (t / 1000000)
  if t % 1000000 = 0 then text
  else String.ofList (text.toList.take 19) ++ "." ++ padded 6 (t % 1000000) ++ "+00:00"

def tailText (micros : ℤ) : List Char :=
  if micros = 0 then "+00:00".toList else '.' :: ((padded 6 micros).toList ++ "+00:00".toList)

/-- **A moment of `datetime`**: the years 1 to 9999. -/
def InRange (t : ℤ) : Prop := firstDay * 86400000000 ≤ t ∧ t < (lastDay + 1) * 86400000000

instance (t : ℤ) : Decidable (InRange t) := inferInstanceAs (Decidable (_ ∧ _))

theorem InRange.day {t : ℤ} (h : InRange t) : firstDay ≤ t / 1000000 / 86400 ∧ t / 1000000 / 86400 ≤ lastDay := by
  unfold InRange at h
  omega

theorem isoText_toList {t : ℤ} (h : InRange t) :
    (isoText t).toList = dateText (t / 1000000 / 86400) ++
      'T' :: (timeText (t / 1000000 % 86400) ++ tailText (t % 1000000)) := by
  have hiso := isoformat_toList (t / 1000000)
  unfold utcDay daySeconds at hiso
  have hlength : (dateText (t / 1000000 / 86400) ++ 'T' :: timeText (t / 1000000 % 86400)).length = 19 := by
    rw [length_append, length_cons, dateText_length h.day.1 h.day.2,
      timeText_length (by omega) (by omega)]
  unfold isoText tailText
  dsimp only
  split
  · rw [hiso]
  · have htake : (isoformat (t / 1000000)).toList.take 19 =
        dateText (t / 1000000 / 86400) ++ 'T' :: timeText (t / 1000000 % 86400) := by
      rw [hiso, ← cons_append, ← append_assoc, ← hlength, take_left]
    have hdot : ".".toList = ['.'] := rfl
    simp only [String.toList_append, String.toList_ofList, htake, hdot, append_assoc, cons_append, nil_append]

theorem tailText_lt {a b : ℤ} (ha : 0 ≤ a) (h : a < b) (hb : b < 1000000) : tailText a < tailText b := by
  unfold tailText
  rw [if_neg (show ¬b = 0 by omega)]
  split
  · show ('+' :: _ : List Char) < '.' :: _
    rw [cons_lt_cons_iff]
    exact .inl (by decide)
  · rw [cons_lt_cons_iff]
    refine .inr ⟨rfl, append_lt_append (padded_lt (by decide) ha h (by norm_num; omega)) ?_ _ _⟩
    rw [padded_length (by decide) ha (by norm_num; omega), padded_length (by decide) (ha.trans h.le) (by norm_num; omega)]

theorem isoText_lt {t t' : ℤ} (ht : InRange t) (ht' : InRange t') (h : t < t') :
    (isoText t).toList < (isoText t').toList := by
  rw [isoText_toList ht, isoText_toList ht']
  refine marked_lt ?_ ?_
  · rw [dateText_length ht.day.1 ht.day.2, dateText_length ht'.day.1 ht'.day.2]
  · rcases lt_or_eq_of_le (show t / 1000000 / 86400 ≤ t' / 1000000 / 86400 by omega) with hday | hday
    · exact .inl (dateText_lt hday ht.day.1 ht'.day.2)
    · refine .inr ⟨by rw [hday], ?_⟩
      rcases lt_or_eq_of_le (show t / 1000000 % 86400 ≤ t' / 1000000 % 86400 by omega) with hsecond | hsecond
      · refine append_lt_append (timeText_lt hsecond (by omega) (by omega)) ?_ _ _
        rw [timeText_length (by omega) (by omega), timeText_length (by omega) (by omega)]
      · rw [hsecond]
        exact append_left_lt (tailText_lt (by omega) (by omega) (by omega))

end Jqe
