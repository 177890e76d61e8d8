import Mathlib.Tactic.Linarith

/-!
# The Gregorian calendar in eras of 400 years

Years begin in March, so the leap day is the last one. A day of an era is given by its century, the cycle of four years in the century, the year in the cycle and the day of the year; the closed formulas for the year and the month of a day agree with them.
-/

namespace EspNut.Lib.Calendar

/-- The era of a year in truncating arithmetic, also of one before 0. -/
theorem era_eq (y : Int) : (if 0 ≤ y then y else y - 399).tdiv 400 = y / 400 := by
  split
  · rename_i hpos
    exact Int.tdiv_eq_ediv_of_nonneg hpos
  · rename_i hneg
    have hflip : (y - 399).tdiv 400 = -((399 - y).tdiv 400) := by
      rw [← Int.neg_tdiv, Int.neg_sub]
    rw [hflip, Int.tdiv_eq_ediv_of_nonneg (by omega)]
    omega

/-- The place of a day in its era. Only the last year of a cycle has the day 365, and only the last century of an era has it in its last cycle. -/
structure InEra (century cycle year day : Int) : Prop where
  centuries : 0 ≤ century ∧ century ≤ 3
  cycles : 0 ≤ cycle ∧ cycle ≤ 24
  years : 0 ≤ year ∧ year ≤ 3
  days : 0 ≤ day ∧ (day ≤ 364 ∨ day = 365 ∧ year = 3 ∧ (cycle ≠ 24 ∨ century = 3))

def yearOfEra (century cycle year : Int) : Int := 100 * century + 4 * cycle + year

def dayOfEra (century cycle year day : Int) : Int := 36524 * century + 1461 * cycle + 365 * year + day

variable {century cycle year day : Int}

/-- The days before a year of an era, one more for each leap year. -/
theorem dayOfEra_eq (h : InEra century cycle year day) :
    dayOfEra century cycle year day = yearOfEra century cycle year * 365 + yearOfEra century cycle year / 4
      - yearOfEra century cycle year / 100 + day := by
  have hcycle := h.cycles
  have hyear := h.years
  unfold dayOfEra yearOfEra
  omega

theorem yearOfEra_range (h : InEra century cycle year day) :
    0 ≤ yearOfEra century cycle year ∧ yearOfEra century cycle year ≤ 399 := by
  have hcentury := h.centuries
  have hcycle := h.cycles
  have hyear := h.years
  unfold yearOfEra
  omega

theorem dayOfEra_range (h : InEra century cycle year day) :
    0 ≤ dayOfEra century cycle year day ∧ dayOfEra century cycle year day ≤ 146096 := by
  obtain ⟨hcentury, hcycle, hyear, hday⟩ := h
  unfold dayOfEra
  omega

/-- Every day of an era has a place. -/
theorem exists_inEra {doe : Int} (h : 0 ≤ doe ∧ doe ≤ 146096) :
    ∃ century cycle year day, InEra century cycle year day ∧ dayOfEra century cycle year day = doe := by
  obtain ⟨century, rest, hcentury, hrest, hdoe⟩ : ∃ century rest : Int, (0 ≤ century ∧ century ≤ 3)
      ∧ (0 ≤ rest ∧ (rest ≤ 36523 ∨ rest = 36524 ∧ century = 3)) ∧ doe = 36524 * century + rest := by
    by_cases hlast : doe = 146096
    · exact ⟨3, 36524, by omega, by omega, by omega⟩
    · exact ⟨doe / 36524, doe % 36524, by omega, by omega, by omega⟩
  obtain ⟨cycle, days, hcycle, hdays, hrest'⟩ : ∃ cycle days : Int, (0 ≤ cycle ∧ cycle ≤ 24)
      ∧ (0 ≤ days ∧ (days ≤ 1459 ∨ days = 1460 ∧ (cycle ≠ 24 ∨ century = 3))) ∧ rest = 1461 * cycle + days :=
    ⟨rest / 1461, rest % 1461, by omega, by omega, by omega⟩
  obtain ⟨year, day, hyear, hday, hdays'⟩ : ∃ year day : Int, (0 ≤ year ∧ year ≤ 3)
      ∧ (0 ≤ day ∧ (day ≤ 364 ∨ day = 365 ∧ year = 3 ∧ days = 1460)) ∧ days = 365 * year + day := by
    by_cases hlast : days = 1460
    · exact ⟨3, 365, by omega, by omega, by omega⟩
    · exact ⟨days / 365, days % 365, by omega, by omega, by omega⟩
  refine ⟨century, cycle, year, day, ⟨hcentury, hcycle, hyear, by omega⟩, ?_⟩
  unfold dayOfEra
  omega

theorem year_of_dayOfEra (h : InEra century cycle year day) :
    (dayOfEra century cycle year day - dayOfEra century cycle year day / 1460 + dayOfEra century cycle year day / 36524
      - dayOfEra century cycle year day / 146096) / 365 = yearOfEra century cycle year := by
  obtain ⟨hcentury, hcycle, hyear, hday⟩ := h
  have hcenturies : dayOfEra century cycle year day / 36524 - dayOfEra century cycle year day / 146096 = century := by
    have hwithin : 0 ≤ 1461 * cycle + 365 * year + day
        ∧ (1461 * cycle + 365 * year + day ≤ 36523 ∨ 1461 * cycle + 365 * year + day = 36524 ∧ century = 3) := by omega
    have hsum : dayOfEra century cycle year day = 36524 * century + (1461 * cycle + 365 * year + day) := by
      unfold dayOfEra
      omega
    rw [hsum]
    generalize 1461 * cycle + 365 * year + day = rest at hwithin
    omega
  -- a cycle has one day more than 1460, and a century 24 days more than 25 times 1460
  have hcycles : dayOfEra century cycle year day / 1460
      = 25 * century + cycle + (24 * century + cycle + 365 * year + day) / 1460 := by
    unfold dayOfEra
    omega
  have hleap : 0 ≤ day - (24 * century + cycle + 365 * year + day) / 1460
      ∧ day - (24 * century + cycle + 365 * year + day) / 1460 ≤ 364 := by omega
  have hyears : dayOfEra century cycle year day - dayOfEra century cycle year day / 1460
      + dayOfEra century cycle year day / 36524 - dayOfEra century cycle year day / 146096
      = 365 * yearOfEra century cycle year + (day - (24 * century + cycle + 365 * year + day) / 1460) := by
    rw [hcycles]
    unfold dayOfEra yearOfEra at *
    omega
  rw [hyears]
  omega

/-! ### Months -/

/-- The days of a year before its month `month`, March being 0. -/
def monthStart (month : Int) : Int := (153 * month + 2) / 5

theorem month_of_day {doy : Int} (h : 0 ≤ doy ∧ doy ≤ 365) :
    0 ≤ (5 * doy + 2) / 153 ∧ (5 * doy + 2) / 153 ≤ 11 ∧ monthStart ((5 * doy + 2) / 153) ≤ doy
      ∧ doy < monthStart ((5 * doy + 2) / 153 + 1) := by
  unfold monthStart
  omega

theorem month_of_monthStart {month day : Int} (hday : 0 ≤ day ∧ day < monthStart (month + 1) - monthStart month) :
    (5 * (monthStart month + day) + 2) / 153 = month := by
  unfold monthStart at *
  omega

end EspNut.Lib.Calendar
