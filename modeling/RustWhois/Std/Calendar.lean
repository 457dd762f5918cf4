import Mathlib.Data.Int.Order.Basic
import Mathlib.Tactic.IntervalCases

/-!
# Calendar dates

Dates of the proleptic Gregorian calendar, counted in days from 1 January 1970, and the instants of
a date in UTC, in nanoseconds from the epoch.

* `NaiveDate`: a year, a month and a day that exist;
* `NaiveDate.On`: the instant falls on the date;
* `daysBeforeMonth_add_le`: months are 28 days long at least;
* **`NaiveDate.On.unique`**: an instant falls on one date only.
-/

namespace Rust

/-! ## Years and months -/

def isLeap (year : Int) : Bool := year % 4 == 0 && (year % 100 != 0 || year % 400 == 0)

def daysInMonth (year : Int) (month : Nat) : Nat :=
  if month = 2 then if isLeap year then 29 else 28
  else if month = 4 ∨ month = 6 ∨ month = 9 ∨ month = 11 then 30
  else 31

/-- The days of a year before the first of a month. -/
def daysBeforeMonth (year : Int) : Nat → Nat
  | 0 | 1 => 0
  | month + 2 => daysBeforeMonth year (month + 1) + daysInMonth year (month + 1)

/-- The days before a year, from the first of January of the year 1. -/
def daysBeforeYear (year : Int) : Int :=
  365 * (year - 1) + (year - 1) / 4 - (year - 1) / 100 + (year - 1) / 400

theorem le_daysInMonth (year : Int) (month : Nat) : 28 ≤ daysInMonth year month := by
  unfold daysInMonth
  split_ifs <;> omega

theorem daysBeforeMonth_succ (year : Int) {month : Nat} (h : 1 ≤ month) :
    daysBeforeMonth year (month + 1) = daysBeforeMonth year month + daysInMonth year month := by
  obtain ⟨m, rfl⟩ := Nat.exists_eq_add_of_le' h
  rfl

/-- Months are 28 days long at least. -/
theorem daysBeforeMonth_add_le (year : Int) {month : Nat} (h : 1 ≤ month) (k : Nat) :
    daysBeforeMonth year month + 28 * k ≤ daysBeforeMonth year (month + k) := by
  induction k with
  | zero => exact Nat.le_refl _
  | succ k ih =>
    have hstep := daysBeforeMonth_succ year (Nat.le_add_right_of_le h (k := k))
    have hlong := le_daysInMonth year (month + k)
    rw [← Nat.add_assoc, hstep]
    omega

theorem daysBeforeMonth_add_days_le (year : Int) {month later : Nat} (h : 1 ≤ month)
    (hlt : month < later) :
    daysBeforeMonth year month + daysInMonth year month ≤ daysBeforeMonth year later := by
  obtain ⟨k, rfl⟩ := Nat.exists_eq_add_of_le hlt
  rw [← daysBeforeMonth_succ year h]
  exact (Nat.le_add_right _ _).trans (daysBeforeMonth_add_le year (Nat.le_add_left 1 month) k)

theorem daysBeforeMonth_thirteen (year : Int) :
    daysBeforeMonth year 13 = if isLeap year then 366 else 365 := by
  simp only [daysBeforeMonth, daysInMonth]
  cases isLeap year <;> rfl

theorem daysBeforeYear_succ (year : Int) :
    daysBeforeYear (year + 1) = daysBeforeYear year + if isLeap year then 366 else 365 := by
  have hleap : isLeap year = true ↔ year % 4 = 0 ∧ (year % 100 ≠ 0 ∨ year % 400 = 0) := by
    simp [isLeap]
  unfold daysBeforeYear
  split_ifs with h <;> rw [hleap] at h <;> omega

theorem daysBeforeYear_mono {year later : Int} (h : year ≤ later) :
    daysBeforeYear year ≤ daysBeforeYear later := by
  unfold daysBeforeYear
  omega

/-! ## Dates -/

/-- A date that exists. -/
@[ext]
structure NaiveDate where
  year : Int
  month : Nat
  day : Nat
  month_mem : 1 ≤ month ∧ month ≤ 12
  day_mem : 1 ≤ day ∧ day ≤ daysInMonth year month
  deriving DecidableEq

/-- The nanoseconds of a day. -/
def dayNanos : Int := 24 * 60 * 60 * 1000000000

namespace NaiveDate

/-- `NaiveDate::from_ymd_opt`. -/
def fromYmdOpt (year : Int) (month day : Nat) : Option NaiveDate :=
  if hm : 1 ≤ month ∧ month ≤ 12 then
    if hd : 1 ≤ day ∧ day ≤ daysInMonth year month then some ⟨year, month, day, hm, hd⟩ else none
  else none

/-- The days from 1 January 1970. -/
def dayNumber (date : NaiveDate) : Int :=
  daysBeforeYear date.year + (daysBeforeMonth date.year date.month + date.day - 1 : Nat) - 719162

/-- The first instant of the date in UTC. -/
def midnight (date : NaiveDate) : Int := date.dayNumber * dayNanos

/-- The instant falls on the date in UTC. -/
def On (date : NaiveDate) (t : Int) : Prop :=
  date.midnight ≤ t ∧ t < date.midnight + dayNanos

instance (date : NaiveDate) (t : Int) : Decidable (date.On t) := by unfold On; infer_instance

example : ((fromYmdOpt 2024 2 29).map dayNumber, (fromYmdOpt 2023 2 29).map dayNumber) =
    (some 19782, none) := by decide

variable {date date' : NaiveDate}

theorem fromYmdOpt_eq (date : NaiveDate) :
    fromYmdOpt date.year date.month date.day = some date := by
  rw [fromYmdOpt, dif_pos date.month_mem, dif_pos date.day_mem]

theorem month_lt (date : NaiveDate) : date.month < 100 := by
  have hmonth := date.month_mem
  omega

theorem day_lt (date : NaiveDate) : date.day < 100 := by
  have hday := date.day_mem
  unfold daysInMonth at hday
  split_ifs at hday <;> omega

theorem dayNumber_lt_of_year_lt (h : date.year < date'.year) : date.dayNumber < date'.dayNumber := by
  have hyear := daysBeforeYear_mono (Int.add_one_le_of_lt h)
  rw [daysBeforeYear_succ] at hyear
  have hmonth := daysBeforeMonth_add_days_le date.year date.month_mem.1
    (Nat.lt_succ_of_le date.month_mem.2)
  rw [daysBeforeMonth_thirteen] at hmonth
  have hday := date.day_mem
  unfold dayNumber
  split_ifs at hyear hmonth <;> omega

theorem dayNumber_lt_of_month_lt (hy : date.year = date'.year) (h : date.month < date'.month) :
    date.dayNumber < date'.dayNumber := by
  have hmonth := daysBeforeMonth_add_days_le date.year date.month_mem.1 h
  have hday := date.day_mem
  have hday' := date'.day_mem
  unfold dayNumber
  rw [← hy]
  omega

theorem dayNumber_injective : Function.Injective dayNumber := by
  intro date date' h
  have hyear : date.year = date'.year := by
    by_contra hne
    rcases Int.lt_or_gt_of_ne hne with hlt | hlt
    · exact absurd h (dayNumber_lt_of_year_lt hlt).ne
    · exact absurd h (dayNumber_lt_of_year_lt hlt).ne'
  have hmonth : date.month = date'.month := by
    by_contra hne
    rcases Nat.lt_or_gt_of_ne hne with hlt | hlt
    · exact absurd h (dayNumber_lt_of_month_lt hyear hlt).ne
    · exact absurd h (dayNumber_lt_of_month_lt hyear.symm hlt).ne'
  have hday : date.day = date'.day := by
    have hpos := date.day_mem
    have hpos' := date'.day_mem
    unfold dayNumber at h
    rw [← hyear, ← hmonth] at h
    omega
  exact NaiveDate.ext hyear hmonth hday

theorem on_iff {t : Int} : date.On t ↔ t / dayNanos = date.dayNumber := by
  unfold On midnight dayNanos
  omega

theorem on_midnight_add_iff {k : Int} : date.On (date.midnight + k) ↔ 0 ≤ k ∧ k < dayNanos := by
  unfold On
  omega

/-- **An instant falls on one date only.** -/
theorem On.unique {t : Int} (h : date.On t) (h' : date'.On t) : date = date' :=
  dayNumber_injective ((on_iff.mp h).symm.trans (on_iff.mp h'))

/-- Dates with day and month exchanged lie weeks apart. -/
theorem dayNumber_exchanged (hy : date.year = date'.year) (hm : date.month = date'.day)
    (hd : date.day = date'.month) (hlt : date.month < date.day) :
    date.dayNumber + 27 ≤ date'.dayNumber := by
  obtain ⟨k, hk⟩ := Nat.exists_eq_add_of_lt hlt
  have hmonth := daysBeforeMonth_add_le date.year date.month_mem.1 (k + 1)
  have hday := date.day_mem
  have hday' := date'.day_mem
  unfold dayNumber
  rw [← hy, ← hd, ← hm, hk]
  rw [Nat.add_assoc] at hk ⊢
  omega

end NaiveDate

end Rust
