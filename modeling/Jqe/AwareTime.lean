import Mathlib.Data.Int.Notation
import Mathlib.Order.Basic
/-!
# AwareTime — aware datetimes and their comparisons

A datetime is a wall time in a zone; the zone's offset depends on the fold where a wall time is repeated or skipped.
Datetimes of one zone object compare by their wall times, those of two by their instants, and a repeated or skipped wall
time equals none of another zone.
-/
namespace AwareTime

/-- The microseconds from the first moment of year 1 to the last of year 9999. -/
def maxWall : ℤ := 315537897600000000

/-- **Zones with folds.**  A zone object goes by a number, and UTC is 0. -/
class TimeZones where
  offset : ℕ → ℤ → Bool → ℤ
  offset_utc : ∀ wall fold, offset 0 wall fold = 0
  /-- two wall times of one instant are told apart by the fold -/
  wall_unique : ∀ zone wall wall', offset zone wall false = offset zone wall true →
    offset zone wall' false = offset zone wall' true → wall - offset zone wall false = wall' - offset zone wall' false →
    wall = wall'

@[reducible] def fixedZones : TimeZones where
  offset zone _ _ := zone * 3600000000
  offset_utc wall fold := by simp
  wall_unique zone wall wall' _ _ h := by omega

structure AwareDatetime where
  zone : ℕ
  wall : ℤ
  fold : Bool
  inRange : 0 ≤ wall ∧ wall < maxWall
  deriving DecidableEq

namespace AwareDatetime

variable [TimeZones] (d e f : AwareDatetime)

def offset : ℤ := TimeZones.offset d.zone d.wall d.fold

def instant : ℤ := d.wall - d.offset

/-- The offset does not depend on the fold. -/
def Plain : Prop := TimeZones.offset d.zone d.wall false = TimeZones.offset d.zone d.wall true

instance : Decidable d.Plain := inferInstanceAs (Decidable (_ = _))

def Same : Prop := if d.zone = e.zone then d.wall = e.wall else d.Plain ∧ e.Plain ∧ d.instant = e.instant

instance : Decidable (d.Same e) := inferInstanceAs (Decidable (ite _ _ _))

def Before : Prop := if d.zone = e.zone then d.wall < e.wall else d.instant < e.instant

instance : Decidable (d.Before e) := inferInstanceAs (Decidable (ite _ _ _))

variable {d e f}

theorem instant_of_plain (h : d.Plain) : d.instant = d.wall - TimeZones.offset d.zone d.wall false := by
  unfold instant offset
  cases hf : d.fold with
  | false => rfl
  | true => rw [h]

theorem Same.refl (d : AwareDatetime) : d.Same d := by
  unfold Same
  rw [if_pos rfl]

theorem Same.symm (h : d.Same e) : e.Same d := by
  unfold Same at h ⊢
  by_cases hz : d.zone = e.zone
  · rw [if_pos hz] at h
    rw [if_pos hz.symm, h]
  · rw [if_neg hz] at h
    rw [if_neg (Ne.symm hz)]
    exact ⟨h.2.1, h.1, h.2.2.symm⟩

theorem plain_of_wall (hz : d.zone = e.zone) (hw : d.wall = e.wall) (h : e.Plain) : d.Plain := by
  unfold Plain at h ⊢
  rw [hz, hw]
  exact h

theorem instant_eq_of_wall (hz : d.zone = e.zone) (hw : d.wall = e.wall) (h : e.Plain) : d.instant = e.instant := by
  rw [instant_of_plain h, instant_of_plain (plain_of_wall hz hw h), hz, hw]

theorem wall_eq_of_instant (hz : d.zone = e.zone) (hd : d.Plain) (he : e.Plain) (h : d.instant = e.instant) :
    d.wall = e.wall := by
  rw [instant_of_plain hd, instant_of_plain he, hz] at h
  exact TimeZones.wall_unique e.zone d.wall e.wall (hz ▸ hd) he h

theorem Same.trans (h : d.Same e) (h' : e.Same f) : d.Same f := by
  unfold Same at h h' ⊢
  by_cases hz : d.zone = e.zone
  · rw [if_pos hz] at h
    by_cases hz' : e.zone = f.zone
    · rw [if_pos hz'] at h'
      rw [if_pos (hz.trans hz'), h, h']
    · rw [if_neg hz'] at h'
      rw [if_neg (hz ▸ hz')]
      exact ⟨plain_of_wall hz h h'.1, h'.2.1, (instant_eq_of_wall hz h h'.1).trans h'.2.2⟩
  · rw [if_neg hz] at h
    by_cases hz' : e.zone = f.zone
    · rw [if_pos hz'] at h'
      rw [if_neg (hz' ▸ hz)]
      exact ⟨h.1, plain_of_wall hz'.symm h'.symm h.2.1,
        h.2.2.trans (instant_eq_of_wall hz'.symm h'.symm h.2.1).symm⟩
    · rw [if_neg hz'] at h'
      have hinst := h.2.2.trans h'.2.2
      by_cases hdf : d.zone = f.zone
      · rw [if_pos hdf]
        exact wall_eq_of_instant hdf h.1 h'.2.1 hinst
      · rw [if_neg hdf]
        exact ⟨h.1, h'.2.1, hinst⟩

theorem plain_of_utc (h : d.zone = 0) : d.Plain := by
  unfold Plain
  rw [h, TimeZones.offset_utc, TimeZones.offset_utc]

theorem instant_of_utc (h : d.zone = 0) : d.instant = d.wall := by
  unfold instant offset
  rw [h, TimeZones.offset_utc, Int.sub_zero]

def ofUtc (wall : ℤ) (h : 0 ≤ wall ∧ wall < maxWall) : AwareDatetime := ⟨0, wall, false, h⟩

/-- **`d.astimezone(timezone.utc)`**; `none` where it overflows. -/
def toUtc (d : AwareDatetime) : Option AwareDatetime :=
  if d.zone = 0 then some d
  else if h : 0 ≤ d.instant ∧ d.instant < maxWall then some (ofUtc d.instant h)
  else none

theorem toUtc_some {u : AwareDatetime} (h : d.toUtc = some u) : u.zone = 0 ∧ u.wall = d.instant := by
  unfold toUtc at h
  split at h
  · rename_i hz
    cases h
    exact ⟨hz, (instant_of_utc hz).symm⟩
  · split at h
    · cases h
      exact ⟨rfl, rfl⟩
    · cases h

/-- Its UTC time is one of a datetime. -/
def InRange (d : AwareDatetime) : Prop := 0 ≤ d.instant ∧ d.instant < maxWall

instance (d : AwareDatetime) : Decidable d.InRange := inferInstanceAs (Decidable (_ ∧ _))

theorem inRange_of_toUtc {u : AwareDatetime} (h : d.toUtc = some u) : d.InRange := by
  obtain ⟨-, hw⟩ := toUtc_some h
  unfold InRange
  rw [← hw]
  exact u.inRange

theorem exists_toUtc (h : d.InRange) : ∃ u, d.toUtc = some u := by
  unfold toUtc
  by_cases hz : d.zone = 0
  · rw [if_pos hz]
    exact ⟨d, rfl⟩
  · have hrange : 0 ≤ d.instant ∧ d.instant < maxWall := h
    rw [if_neg hz, dif_pos hrange]
    exact ⟨_, rfl⟩

theorem toUtc_ofUtc {wall : ℤ} (h : 0 ≤ wall ∧ wall < maxWall) : (ofUtc wall h).toUtc = some (ofUtc wall h) :=
  if_pos rfl

theorem before_ofUtc {wall wall' : ℤ} (h : 0 ≤ wall ∧ wall < maxWall) (h' : 0 ≤ wall' ∧ wall' < maxWall) :
    (ofUtc wall h).Before (ofUtc wall' h') ↔ wall < wall' := by
  have hsame : (ofUtc wall h).zone = (ofUtc wall' h').zone := rfl
  unfold Before
  rw [if_pos hsame]
  exact Iff.rfl

/-- **A datetime equals its UTC time exactly where it is in UTC already or its offset does not depend on the fold.** -/
theorem same_utc_iff {u : AwareDatetime} (hz : u.zone = 0) (hw : u.wall = d.instant) :
    u.Same d ↔ d.zone = 0 ∨ d.Plain := by
  unfold Same
  rw [hz]
  by_cases hd : d.zone = 0
  · rw [if_pos hd.symm, hw, instant_of_utc hd]
    simp [hd]
  · rw [if_neg (Ne.symm hd), instant_of_utc hz, hw]
    simp [hd, plain_of_utc hz]

end AwareDatetime

end AwareTime
