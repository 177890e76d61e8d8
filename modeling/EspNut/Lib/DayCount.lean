import EspNut.Lib.Calendar
import Mathlib.Logic.Function.Iterate
import Mathlib.Tactic.SplitIfs

/-!
# Counting days

The dates of the Gregorian calendar one after the other, and the closed formula that numbers them: a date's number is how many days lie between it and the first of January 1970, counted one by one.
-/

namespace EspNut.Lib.Calendar

def isLeap (year : Int) : Prop := year % 4 = 0 ∧ year % 100 ≠ 0 ∨ year % 400 = 0

instance (year : Int) : Decidable (isLeap year) := instDecidableOr

def monthLength (year month : Int) : Int :=
  if month = 2 then if isLeap year then 29 else 28
  else if month = 4 ∨ month = 6 ∨ month = 9 ∨ month = 11 then 30
  else 31

/-- A date of the calendar, of any year before or after. -/
@[ext] structure Date where
  year : Int
  month : Int
  day : Int
  months : 1 ≤ month ∧ month ≤ 12
  days : 1 ≤ day ∧ day ≤ monthLength year month

theorem monthLength_range (year month : Int) : 28 ≤ monthLength year month ∧ monthLength year month ≤ 31 := by
  unfold monthLength
  split
  · split <;> omega
  · split <;> omega

namespace Date

def epoch : Date where
  year := 1970
  month := 1
  day := 1
  months := by decide
  days := by decide

/-- The day after. -/
def next (d : Date) : Date :=
  if h : d.day < monthLength d.year d.month then
    { d with day := d.day + 1, days := ⟨by have := d.days; omega, by omega⟩ }
  else if h : d.month < 12 then
    { year := d.year, month := d.month + 1, day := 1
      months := ⟨by have := d.months; omega, by omega⟩
      days := ⟨by decide, by have := monthLength_range d.year (d.month + 1); omega⟩ }
  else
    { year := d.year + 1, month := 1, day := 1
      months := by decide
      days := ⟨by decide, by have := monthLength_range (d.year + 1) 1; omega⟩ }

/-- The second date is so many days after the first; a negative number says that it comes before. -/
def DaysUntil (first second : Date) (n : Int) : Prop :=
  0 ≤ n ∧ next^[n.toNat] first = second ∨ n < 0 ∧ next^[(-n).toNat] second = first

/-- One date comes before the other. -/
def Before (first second : Date) : Prop :=
  first.year < second.year
    ∨ first.year = second.year ∧ (first.month < second.month ∨ first.month = second.month ∧ first.day < second.day)

end Date

/-- The year that began in March last. -/
def marchYearOf (year month : Int) : Int := year - if month ≤ 2 then 1 else 0

/-- The days from March 1 to a day. -/
def dayOfMarchYear (month day : Int) : Int := monthStart (month + if 2 < month then -3 else 9) + day - 1

/-- The number of a date, the first of January 1970 being 0. -/
def dayNumber (year month day : Int) : Int :=
  marchYearOf year month * 365 + marchYearOf year month / 4 - marchYearOf year month / 100 + marchYearOf year month / 400
    + dayOfMarchYear month day - 719468

def Date.number (d : Date) : Int := dayNumber d.year d.month d.day

/-- The March years are one after the other, each longer by a day when a leap year begins in it. -/
theorem february_end (year : Int) :
    dayNumber year 2 (monthLength year 2) + 1 = dayNumber year 3 1 := by
  have hlength : monthLength year 2 = if isLeap year then 29 else 28 := rfl
  rw [hlength]
  unfold dayNumber marchYearOf dayOfMarchYear monthStart isLeap
  split_ifs <;> omega

/-- Where another month ends the next begins, at the end of the year that of the next one. -/
theorem month_end {month : Int} (h : 1 ≤ month ∧ month ≤ 12) (hne : month ≠ 2) (year : Int) :
    dayNumber year month (monthLength year month) + 1
      = if month < 12 then dayNumber year (month + 1) 1 else dayNumber (year + 1) 1 1 := by
  have hlength : monthLength year month = if month = 4 ∨ month = 6 ∨ month = 9 ∨ month = 11 then 30 else 31 := if_neg hne
  have hmonth : month = 1 ∨ month = 3 ∨ month = 4 ∨ month = 5 ∨ month = 6 ∨ month = 7 ∨ month = 8 ∨ month = 9 ∨ month = 10
      ∨ month = 11 ∨ month = 12 := by omega
  rw [hlength]
  unfold dayNumber marchYearOf dayOfMarchYear monthStart
  rcases hmonth with rfl | rfl | rfl | rfl | rfl | rfl | rfl | rfl | rfl | rfl | rfl <;> simp <;> omega

theorem Date.number_next (d : Date) : d.next.number = d.number + 1 := by
  have hmonths := d.months
  have hdays := d.days
  unfold next
  split
  · unfold number dayNumber dayOfMarchYear
    dsimp only
    omega
  · rename_i hend
    have hlast : d.day = monthLength d.year d.month := by omega
    unfold number
    rw [hlast]
    by_cases hfebruary : d.month = 2
    · rw [dif_pos (by omega)]
      dsimp only
      rw [hfebruary]
      exact (february_end d.year).symm
    · rw [month_end hmonths hfebruary]
      split <;> rfl

theorem Date.number_iterate (d : Date) (n : Nat) : (next^[n] d).number = d.number + n := by
  induction n with
  | zero => simp
  | succ n ih =>
      rw [Function.iterate_succ_apply', number_next, ih]
      omega

/-! ### The order of the dates -/

theorem dayNumber_day (year month day : Int) : dayNumber year month day = dayNumber year month 1 + (day - 1) := by
  unfold dayNumber dayOfMarchYear
  omega

theorem month_start {month : Int} (h : 1 ≤ month ∧ month < 12) (year : Int) :
    dayNumber year (month + 1) 1 = dayNumber year month (monthLength year month) + 1 := by
  by_cases hfebruary : month = 2
  · subst hfebruary
    exact (february_end year).symm
  · rw [month_end ⟨h.1, by omega⟩ hfebruary, if_pos h.2]

theorem month_start_le {first second : Int} (hfirst : 1 ≤ first) (h : first ≤ second) (hlast : second ≤ 12) (year : Int) :
    dayNumber year first 1 ≤ dayNumber year second 1 := by
  induction second, h using Int.leInduction with
  | base => exact le_rfl
  | succ month hmonth ih =>
      have hbefore := ih (by omega)
      have hlength := monthLength_range year month
      have hday := dayNumber_day year month (monthLength year month)
      have hnext := month_start ⟨show 1 ≤ month by omega, by omega⟩ year
      omega

theorem year_start_lt {first second : Int} (h : first < second) : dayNumber first 1 1 < dayNumber second 1 1 := by
  unfold dayNumber marchYearOf dayOfMarchYear monthStart
  simp only [show (1 : Int) ≤ 2 by decide, if_true]
  omega

theorem Date.number_in_month (d : Date) :
    dayNumber d.year d.month 1 ≤ d.number ∧ d.number ≤ dayNumber d.year d.month (monthLength d.year d.month) := by
  have hday := d.days
  have hnumber := dayNumber_day d.year d.month d.day
  have hlast := dayNumber_day d.year d.month (monthLength d.year d.month)
  unfold number
  omega

theorem Date.number_in_year (d : Date) :
    dayNumber d.year 1 1 ≤ d.number ∧ d.number < dayNumber (d.year + 1) 1 1 := by
  obtain ⟨hfirst, hlast⟩ := d.months
  obtain ⟨hfrom, hto⟩ := d.number_in_month
  have hbefore := month_start_le le_rfl hfirst hlast d.year
  have hafter := month_start_le hfirst hlast le_rfl d.year
  have hdecember := month_end (show 1 ≤ (12 : Int) ∧ (12 : Int) ≤ 12 by decide) (by decide) d.year
  rw [if_neg (by decide), dayNumber_day d.year 12, show monthLength d.year 12 = 31 from rfl] at hdecember
  refine ⟨by omega, ?_⟩
  by_cases hend : d.month = 12
  · rw [hend, show monthLength d.year 12 = 31 from rfl, dayNumber_day d.year 12] at hto
    omega
  · have hnext := month_start ⟨hfirst, by omega⟩ d.year
    have hrest := month_start_le (show 1 ≤ d.month + 1 by omega) (by omega) le_rfl d.year
    omega

theorem Date.number_lt {first second : Date} (h : first.Before second) : first.number < second.number := by
  rcases h with hyear | ⟨hyear, hmonth | ⟨hmonth, hday⟩⟩
  · have hfirst := first.number_in_year.2
    have hsecond := second.number_in_year.1
    have hyears : dayNumber (first.year + 1) 1 1 ≤ dayNumber second.year 1 1 := by
      rcases (show first.year + 1 = second.year ∨ first.year + 1 < second.year by omega) with heq | hlt
      · rw [heq]
      · exact (year_start_lt hlt).le
    omega
  · have hfirst := first.number_in_month.2
    have hsecond := second.number_in_month.1
    have hlast := second.months.2
    have hnext := month_start ⟨first.months.1, by omega⟩ first.year
    have hmonths := month_start_le (show 1 ≤ first.month + 1 by have := first.months.1; omega) hmonth hlast first.year
    rw [hyear] at hfirst hnext hmonths
    omega
  · unfold number
    rw [hyear, hmonth, dayNumber_day _ _ first.day, dayNumber_day _ _ second.day]
    omega

theorem Date.before_or_eq_or_after (first second : Date) : first.Before second ∨ first = second ∨ second.Before first := by
  unfold Before
  by_cases hsame : first.year = second.year ∧ first.month = second.month ∧ first.day = second.day
  · exact Or.inr (Or.inl (Date.ext hsame.1 hsame.2.1 hsame.2.2))
  · omega

theorem Date.eq_of_number {first second : Date} (h : first.number = second.number) : first = second := by
  rcases first.before_or_eq_or_after second with hbefore | heq | hafter
  · exact absurd (number_lt hbefore) (by omega)
  · exact heq
  · exact absurd (number_lt hafter) (by omega)

/-- The closed formula counts the days one by one. -/
theorem Date.daysUntil_iff (d : Date) (n : Int) : epoch.DaysUntil d n ↔ n = d.number := by
  have hepoch : epoch.number = 0 := rfl
  unfold DaysUntil
  constructor
  · rintro (⟨hn, rfl⟩ | ⟨hn, hd⟩)
    · rw [number_iterate, hepoch]
      omega
    · have hcount := number_iterate d (-n).toNat
      rw [hd, hepoch] at hcount
      omega
  · rintro rfl
    by_cases h : 0 ≤ d.number
    · refine Or.inl ⟨h, eq_of_number ?_⟩
      rw [number_iterate, hepoch]
      omega
    · refine Or.inr ⟨by omega, eq_of_number ?_⟩
      rw [number_iterate, hepoch]
      omega

/-! ### Times of day -/

structure DateTime extends Date where
  hour : Int
  minute : Int
  second : Int
  hours : 0 ≤ hour ∧ hour ≤ 23
  minutes : 0 ≤ minute ∧ minute ≤ 59
  seconds : 0 ≤ second ∧ second ≤ 59

namespace DateTime

def secondOfDay (t : DateTime) : Int := t.hour * 3600 + t.minute * 60 + t.second

/-- The seconds since the first moment of 1970. -/
def instant (t : DateTime) : Int := t.toDate.number * 86400 + t.secondOfDay

def Before (first second : DateTime) : Prop :=
  first.toDate.Before second.toDate ∨ first.toDate = second.toDate
    ∧ (first.hour < second.hour ∨ first.hour = second.hour
      ∧ (first.minute < second.minute ∨ first.minute = second.minute ∧ first.second < second.second))

theorem secondOfDay_range (t : DateTime) : 0 ≤ t.secondOfDay ∧ t.secondOfDay < 86400 := by
  have hhours := t.hours
  have hminutes := t.minutes
  have hseconds := t.seconds
  unfold secondOfDay
  omega

theorem instant_lt {first second : DateTime} (h : first.Before second) : first.instant < second.instant := by
  have hfirst := first.secondOfDay_range
  have hsecond := second.secondOfDay_range
  unfold instant
  rcases h with hdate | ⟨hdate, htime⟩
  · have hnumber := Date.number_lt hdate
    omega
  · rw [hdate]
    unfold secondOfDay at *
    have hfirstMinutes := first.minutes
    have hsecondMinutes := second.minutes
    have hfirstSeconds := first.seconds
    have hsecondSeconds := second.seconds
    omega

end DateTime

end EspNut.Lib.Calendar
