import EspNut.Lib.Calendar
import EspNut.Lib.Digits
import EspNut.Table.Encode

/-!
# Dates and times of the tables

A real day of the calendar is the one its day number gives back, so a clock that is set in seconds shows the date and the time that were written; a packed date unpacks to itself.
-/

namespace EspNut.NutTable

open Lib Rounding Calendar

/-! ### The calendar -/

/-- A day of the Gregorian calendar. -/
structure RealDate (year month day : Nat) : Prop where
  months : 1 ≤ month ∧ month ≤ 12
  days : 1 ≤ day ∧ day ≤ daysInMonth year month

/-- The days of a date since the epoch, as `timegmUtc` counts them. -/
def civilDays (year month day : Int) : Int :=
  let y := year - if month ≤ 2 then 1 else 0
  let era := y / 400
  let yoe := y - era * 400
  let doy := (153 * (month + if 2 < month then -3 else 9) + 2) / 5 + day - 1
  era * 146097 + (yoe * 365 + yoe / 4 - yoe / 100 + doy) - 719468

theorem timegmUtc_eq (year month day hour minute second : Int) :
    timegmUtc year month day hour minute second = civilDays year month day * 86400 + hour * 3600 + minute * 60 + second := by
  unfold timegmUtc civilDays
  dsimp only
  rw [era_eq]

def calendarMonth (mp : Int) : Int := if mp < 10 then mp + 3 else mp - 9

/-- The date of a day by its place in an era. -/
theorem civilFromDays_of_inEra {century cycle year day : Int} (h : InEra century cycle year day) (era : Int) :
    civilFromDays (era * 146097 + dayOfEra century cycle year day - 719468)
      = (yearOfEra century cycle year + era * 400 + (if calendarMonth ((5 * day + 2) / 153) ≤ 2 then 1 else 0),
        (calendarMonth ((5 * day + 2) / 153)).toNat, (day - monthStart ((5 * day + 2) / 153) + 1).toNat) := by
  have hrange := dayOfEra_range h
  have hera : (era * 146097 + dayOfEra century cycle year day - 719468 + 719468) / 146097 = era := by omega
  have hdoe : (era * 146097 + dayOfEra century cycle year day - 719468 + 719468) % 146097
      = dayOfEra century cycle year day := by omega
  have hdoy : dayOfEra century cycle year day - (365 * yearOfEra century cycle year + yearOfEra century cycle year / 4
      - yearOfEra century cycle year / 100) = day := by
    rw [dayOfEra_eq h]
    omega
  unfold civilFromDays
  dsimp only
  rw [hera, hdoe, year_of_dayOfEra h, hdoy]
  rfl

def marchMonth (month : Int) : Int := month + if 2 < month then -3 else 9

theorem calendarMonth_marchMonth {month : Nat} (h : 1 ≤ month ∧ month ≤ 12) :
    calendarMonth (marchMonth month) = month ∧ 0 ≤ marchMonth month ∧ marchMonth month ≤ 11 := by
  unfold calendarMonth marchMonth
  split <;> split <;> omega

theorem daysInMonth_february (year : Nat) :
    daysInMonth year 2 = if (year % 4 = 0 ∧ year % 100 ≠ 0) ∨ year % 400 = 0 then 29 else 28 := by
  unfold daysInMonth
  simp

theorem daysInMonth_of_ne {month : Nat} (h : 1 ≤ month ∧ month ≤ 12) (hne : month ≠ 2) (year : Nat) :
    (daysInMonth year month : Int) = monthStart (marchMonth month + 1) - monthStart (marchMonth month) := by
  have htable : daysInMonth year month = [31, 28, 31, 30, 31, 30, 31, 31, 30, 31, 30, 31].getD (month - 1) 0 :=
    if_neg fun hfebruary => hne hfebruary.1
  have hcases : ∀ m : Fin 13, 1 ≤ m.val → m.val ≠ 2 →
      (([31, 28, 31, 30, 31, 30, 31, 31, 30, 31, 30, 31].getD (m.val - 1) 0 : Nat) : Int)
        = monthStart (marchMonth m.val + 1) - monthStart (marchMonth m.val) := by decide
  rw [htable]
  exact hcases ⟨month, by omega⟩ h.1 hne

theorem daysInMonth_le {month : Nat} (h : 1 ≤ month ∧ month ≤ 12) (year : Nat) : daysInMonth year month ≤ 31 := by
  by_cases hfebruary : month = 2
  · rw [hfebruary, daysInMonth_february]
    split <;> decide
  · have hlength := daysInMonth_of_ne h hfebruary year
    unfold monthStart at hlength
    omega

def marchYear (year month : Int) : Int := year - if month ≤ 2 then 1 else 0

/-- A real day has a place in its era: the leap day is there in leap years only. -/
theorem inEra_of_realDate {year month day : Nat} (h : RealDate year month day) :
    InEra (marchYear year month % 400 / 100) (marchYear year month % 100 / 4) (marchYear year month % 4)
        (monthStart (marchMonth month) + ((day : Int) - 1))
      ∧ (day : Int) - 1 < monthStart (marchMonth month + 1) - monthStart (marchMonth month) := by
  obtain ⟨hmonth, hday, hlast⟩ := h
  by_cases hfebruary : month = 2
  · subst hfebruary
    have hstart : monthStart (marchMonth (2 : Nat)) = 337 := rfl
    have hend : monthStart (marchMonth (2 : Nat) + 1) = 367 := rfl
    have hyear : marchYear year (2 : Nat) = year - 1 := rfl
    rw [daysInMonth_february] at hlast
    rw [hstart, hend, hyear]
    split at hlast
    · rename_i hleap
      exact ⟨⟨by omega, by omega, by omega, by omega⟩, by omega⟩
    · exact ⟨⟨by omega, by omega, by omega, by omega⟩, by omega⟩
  · have hlength := daysInMonth_of_ne hmonth hfebruary year
    have hearly : 0 ≤ marchMonth month ∧ marchMonth month ≤ 10 := by
      unfold marchMonth
      split <;> omega
    have hbefore : 0 ≤ monthStart (marchMonth month) ∧ monthStart (marchMonth month + 1) ≤ 337 := by
      unfold monthStart
      omega
    exact ⟨⟨by omega, by omega, by omega, by omega⟩, by omega⟩

theorem civilFromDays_civilDays {year month day : Nat} (h : RealDate year month day) :
    civilFromDays (civilDays year month day) = ((year : Int), month, day) := by
  obtain ⟨hinEra, hday⟩ := inEra_of_realDate h
  obtain ⟨hmonth, hfirst, -⟩ := h
  obtain ⟨hback, hmarch⟩ := calendarMonth_marchMonth hmonth
  have hyear : yearOfEra (marchYear year month % 400 / 100) (marchYear year month % 100 / 4) (marchYear year month % 4)
      = marchYear year month - marchYear year month / 400 * 400 := by
    unfold yearOfEra
    omega
  have hdays : civilDays year month day = marchYear year month / 400 * 146097
      + dayOfEra (marchYear year month % 400 / 100) (marchYear year month % 100 / 4) (marchYear year month % 4)
        (monthStart (marchMonth month) + ((day : Int) - 1)) - 719468 := by
    rw [dayOfEra_eq hinEra, hyear]
    have hdoy : (153 * marchMonth month + 2) / 5 + (day : Int) - 1 = monthStart (marchMonth month) + ((day : Int) - 1) := by
      unfold monthStart
      omega
    rw [← hdoy]
    rfl
  have hdoy : (5 * (monthStart (marchMonth month) + ((day : Int) - 1)) + 2) / 153 = marchMonth month :=
    month_of_monthStart ⟨by omega, hday⟩
  rw [hdays, civilFromDays_of_inEra hinEra, hdoy, hback, hyear]
  refine Prod.ext ?_ (Prod.ext ?_ ?_)
  · unfold marchYear
    dsimp only
    omega
  · exact Int.toNat_natCast month
  · dsimp only
    omega

theorem marchMonth_calendarMonth {mp : Int} (h : 0 ≤ mp ∧ mp ≤ 11) :
    marchMonth (calendarMonth mp) = mp ∧ 1 ≤ calendarMonth mp ∧ calendarMonth mp ≤ 12 ∧ (calendarMonth mp = 2 ↔ mp = 11) := by
  unfold calendarMonth marchMonth
  split <;> split <;> omega

theorem realDate_civilFromDays {days : Int} {year : Int} {month day : Nat} (h : civilFromDays days = (year, month, day)) :
    RealDate year.toNat month day := by
  have hdoeRange : 0 ≤ (days + 719468) % 146097 ∧ (days + 719468) % 146097 ≤ 146096 := by omega
  obtain ⟨century, cycle, y, d, hinEra, hdoe⟩ := exists_inEra hdoeRange
  have hdays : days = (days + 719468) / 146097 * 146097 + dayOfEra century cycle y d - 719468 := by omega
  generalize (days + 719468) / 146097 = era at hdays
  rw [hdays, civilFromDays_of_inEra hinEra] at h
  obtain ⟨hyears, hrest⟩ := Prod.mk.inj h
  obtain ⟨hmonths, hdayNumber⟩ := Prod.mk.inj hrest
  obtain ⟨hcentury, hcycle, hyearOfCycle, hleap⟩ := hinEra
  have hdoyRange : 0 ≤ d ∧ d ≤ 365 := by omega
  obtain ⟨hfirst, hlast, hfrom, hto⟩ := month_of_day hdoyRange
  generalize (5 * d + 2) / 153 = mp at hyears hmonths hdayNumber hfirst hlast hfrom hto
  obtain ⟨hback, hmonthFirst, hmonthLast, hfebruary⟩ := marchMonth_calendarMonth ⟨hfirst, hlast⟩
  have hmonth : calendarMonth mp = month := by omega
  have hday : (day : Int) = d - monthStart mp + 1 := by omega
  rw [hmonth] at hback hmonthFirst hmonthLast hfebruary
  refine ⟨by omega, by omega, ?_⟩
  by_cases htwo : month = 2
  · have hmp : mp = 11 := hfebruary.mp (by omega)
    have hstart : monthStart mp = 337 := by
      rw [hmp]
      rfl
    rw [htwo, daysInMonth_february]
    unfold yearOfEra at hyears
    rw [hmonth, htwo] at hyears
    split <;> omega
  · have hmonthRange : 1 ≤ month ∧ month ≤ 12 := by omega
    have hlength := daysInMonth_of_ne hmonthRange htwo year.toNat
    rw [hback] at hlength
    omega

/-- The epoch begins with the year 1970. -/
theorem civilFromDays_year (days : Int) :
    (0 ≤ days → 1970 ≤ (civilFromDays days).1) ∧ (days < 0 → (civilFromDays days).1 < 1970) := by
  have hdoeRange : 0 ≤ (days + 719468) % 146097 ∧ (days + 719468) % 146097 ≤ 146096 := by omega
  obtain ⟨century, cycle, y, d, hinEra, hdoe⟩ := exists_inEra hdoeRange
  have hdays : days = (days + 719468) / 146097 * 146097 + dayOfEra century cycle y d - 719468 := by omega
  have hsum := dayOfEra_eq hinEra
  have hyears := yearOfEra_range hinEra
  have hrange := dayOfEra_range hinEra
  have hday := hinEra.days
  generalize (days + 719468) / 146097 = era at hdays
  rw [hdays, civilFromDays_of_inEra hinEra]
  dsimp only
  generalize yearOfEra century cycle y = yoe at hsum hyears
  generalize dayOfEra century cycle y d = doe at hsum hrange
  have hmp : 10 ≤ (5 * d + 2) / 153 ↔ 306 ≤ d := by omega
  have hleaps : 369 ≤ yoe → 3 = yoe / 100 ∧ 92 ≤ yoe / 4 := by omega
  unfold calendarMonth
  -- 1970 is year 370 of era 4, and its January belongs to the March year before
  rcases lt_trichotomy era 4 with hera | rfl | hera
  · constructor <;> intro h <;> split <;> split at * <;> omega
  · constructor <;> intro h <;> split <;> split at * <;> omega
  · constructor <;> intro h <;> split <;> split at * <;> omega

/-! ### Texts -/

theorem parseDigits_append {least most n : Nat} {digits rest : List Char} (h : Digits least most n digits)
    (hrest : ∀ c ∈ rest.head?, c.isDigit = false) : parseDigits least most (digits ++ rest) = some (n, rest) := by
  unfold parseDigits
  dsimp only
  rw [h.takeWhile_append hrest, if_neg (Nat.not_lt.mpr h.long), h.value, List.drop_left]

theorem parseDigits_cons {least most n : Nat} {digits : List Char} (h : Digits least most n digits) {c : Char}
    (hc : c.isDigit = false) (rest : List Char) : parseDigits least most (digits ++ c :: rest) = some (n, c :: rest) := by
  apply parseDigits_append h
  intro x hx
  obtain rfl := Option.some.inj hx
  exact hc

theorem parseDigits_end {least most n : Nat} {digits : List Char} (h : Digits least most n digits) :
    parseDigits least most digits = some (n, []) := by
  have hend : ∀ c ∈ ([] : List Char).head?, c.isDigit = false := nofun
  have hparse := parseDigits_append h hend
  rwa [List.append_nil] at hparse

theorem expectChar_cons (c : Char) (rest : List Char) : expectChar c (c :: rest) = some rest := by
  unfold expectChar
  exact if_pos rfl

/-- A date with four digits for the year and one or two for the month and the day. -/
def DateText (text : List Char) (year month day : Nat) : Prop :=
  ∃ y m d, text = y ++ '/' :: (m ++ '/' :: d) ∧ Digits 4 4 year y ∧ Digits 1 2 month m ∧ Digits 1 2 day d

/-- A time with one or two digits for each of its parts. -/
def TimeText (text : List Char) (hour minute second : Nat) : Prop :=
  ∃ h m s, text = h ++ ':' :: (m ++ ':' :: s) ∧ Digits 1 2 hour h ∧ Digits 1 2 minute m ∧ Digits 1 2 second s

structure RealTime (hour minute second : Nat) : Prop where
  hours : hour ≤ 23
  minutes : minute ≤ 59
  seconds : second ≤ 59

/-- A real date and a time with a blank between them are read as their seconds, from 1970 on. -/
theorem parseMgeDateTime_join {date time : List Char} {year month day hour minute second : Nat}
    (hdate : DateText date year month day) (hreal : RealDate year month day) (htime : TimeText time hour minute second)
    (hclock : RealTime hour minute second) :
    parseMgeDateTime (date ++ ' ' :: time)
      = if year < 1970 then none else some (timegmUtc year month day hour minute second) := by
  obtain ⟨y, m, d, rfl, hy, hm, hd⟩ := hdate
  obtain ⟨h, mi, s, rfl, hh, hmi, hs⟩ := htime
  have hblank : (' ' :: (h ++ ':' :: (mi ++ ':' :: s))).dropWhile Decimal.isSpace = h ++ ':' :: (mi ++ ':' :: s) := by
    obtain ⟨c, rest, rfl⟩ := List.exists_cons_of_ne_nil (List.ne_nil_of_length_pos hh.long)
    have hc := Decimal.isSpace_of_isDigit (hh.digits c List.mem_cons_self)
    rw [List.dropWhile_cons_of_pos rfl, List.cons_append, List.dropWhile_cons_of_neg (by simp [hc])]
  have hslash : '/'.isDigit = false := rfl
  have hcolon : ':'.isDigit = false := rfl
  have hspace : ' '.isDigit = false := rfl
  have hskipped : Decimal.isSpace ' ' = true := rfl
  have hlastDay := hreal.days.2
  obtain ⟨hmonth, hlastMonth⟩ := hreal.months
  have hfirstDay := hreal.days.1
  obtain ⟨hhours, hminutes, hseconds⟩ := hclock
  unfold parseMgeDateTime
  simp only [List.append_assoc, List.cons_append, Option.bind_eq_bind, Option.bind_some, parseDigits_cons hy hslash,
    expectChar_cons, parseDigits_cons hm hslash, parseDigits_cons hd hspace, List.head?_cons, hskipped, hblank,
    parseDigits_cons hh hcolon, parseDigits_cons hmi hcolon, parseDigits_end hs]
  rw [if_neg (by decide), if_neg (not_not.mpr rfl)]
  by_cases hyear : year < 1970
  · rw [if_pos hyear, if_pos (Or.inl hyear)]
    rfl
  · rw [if_neg hyear, if_neg (by omega), if_neg (by omega)]

/-- `%Y/%m/%d`. -/
def dateText (year month day : Nat) : String :=
  formatPadded 4 year ++ "/" ++ formatPadded 2 month ++ "/" ++ formatPadded 2 day

/-- `%H:%M:%S`. -/
def timeText (hour minute second : Nat) : String :=
  formatPadded 2 hour ++ ":" ++ formatPadded 2 minute ++ ":" ++ formatPadded 2 second

theorem toList_formatPadded (width n : Nat) : (formatPadded width (n : Int)).toList = padded width n := by
  unfold formatPadded
  rw [if_neg (by omega), String.toList_ofList, Int.natAbs_natCast]

theorem toList_dateText (year month day : Nat) :
    (dateText year month day).toList = padded 4 year ++ '/' :: (padded 2 month ++ '/' :: padded 2 day) := by
  unfold dateText
  simp only [String.toList_append, toList_formatPadded]
  simp

theorem toList_timeText (hour minute second : Nat) :
    (timeText hour minute second).toList = padded 2 hour ++ ':' :: (padded 2 minute ++ ':' :: padded 2 second) := by
  unfold timeText
  simp only [String.toList_append, toList_formatPadded]
  simp

theorem digits_padded_two {n : Nat} (h : n ≤ 99) : Digits 2 2 n (padded 2 n) := Digits.padded (by decide) (by omega)

theorem digits_padded_four {n : Nat} (h : n ≤ 9999) : Digits 4 4 n (padded 4 n) := Digits.padded (by decide) (by omega)

theorem RealDate.small {year month day : Nat} (h : RealDate year month day) : month ≤ 99 ∧ day ≤ 99 := by
  have hday := h.days.2.trans (daysInMonth_le h.months year)
  have hmonth := h.months.2
  omega

theorem RealDate.dateText {year month day : Nat} (h : RealDate year month day) (hyear : year ≤ 9999) :
    DateText (dateText year month day).toList year month day :=
  ⟨_, _, _, toList_dateText year month day, digits_padded_four hyear,
    (digits_padded_two h.small.1).weaken (by decide) (le_refl _), (digits_padded_two h.small.2).weaken (by decide) (le_refl _)⟩

theorem RealTime.timeText {hour minute second : Nat} (h : RealTime hour minute second) :
    TimeText (timeText hour minute second).toList hour minute second := by
  have hhours := h.hours
  have hminutes := h.minutes
  have hseconds := h.seconds
  exact ⟨_, _, _, toList_timeText hour minute second, (digits_padded_two (by omega)).weaken (by decide) (le_refl _),
    (digits_padded_two (by omega)).weaken (by decide) (le_refl _), (digits_padded_two (by omega)).weaken (by decide) (le_refl _)⟩

theorem length_dateText {year month day : Nat} (hyear : year ≤ 9999) (hsmall : month ≤ 99 ∧ day ≤ 99) :
    (dateText year month day).toList.length = 10 := by
  have hy := digits_padded_four hyear
  have hm := digits_padded_two hsmall.1
  have hd := digits_padded_two hsmall.2
  have hylength := le_antisymm hy.short hy.long
  have hmlength := le_antisymm hm.short hm.long
  have hdlength := le_antisymm hd.short hd.long
  rw [toList_dateText, List.length_append, List.length_cons, List.length_append, List.length_cons, hylength, hmlength, hdlength]

/-! ### Packed dates -/

/-- A date that can be packed; any month may have 31 days. -/
structure PackedDate (year month day : Nat) : Prop where
  years : 1980 ≤ year ∧ year ≤ 2107
  months : 1 ≤ month ∧ month ≤ 12
  days : 1 ≤ day ∧ day ≤ 31

def packed (year month day : Nat) : Int := ((year : Int) - 1980) * 512 + month * 32 + day

theorem RealDate.packedDate {year month day : Nat} (h : RealDate year month day) (hyear : 1980 ≤ year ∧ year ≤ 2107) :
    PackedDate year month day :=
  ⟨hyear, h.months, h.days.1, h.days.2.trans (daysInMonth_le h.months year)⟩

theorem PackedDate.range {year month day : Nat} (h : PackedDate year month day) :
    0 < packed year month day ∧ packed year month day < 2 ^ 16 := by
  obtain ⟨hyear, hmonth, hday⟩ := h
  unfold packed
  omega

theorem parseDigits_eq_some {least most n : Nat} {text rest : List Char} (h : parseDigits least most text = some (n, rest)) :
    ∃ digits, text = digits ++ rest ∧ Digits least most n digits := by
  unfold parseDigits at h
  dsimp only at h
  split at h
  · cases h
  rename_i hlong
  obtain ⟨rfl, rfl⟩ := Prod.mk.inj (Option.some.inj h)
  have hprefix : (text.take most).takeWhile Char.isDigit <+: text :=
    (List.takeWhile_prefix _).trans (List.take_prefix most text)
  refine ⟨(text.take most).takeWhile Char.isDigit, ?_, fun c hc => ?_, not_lt.mp hlong, ?_, rfl⟩
  · exact (List.prefix_iff_eq_append.mp hprefix).symm
  · exact List.all_eq_true.mp List.all_takeWhile c hc
  · exact (List.takeWhile_prefix _).length_le.trans (List.length_take_le most text)

theorem expectChar_eq_some {c : Char} {text rest : List Char} (h : expectChar c text = some rest) : text = c :: rest := by
  cases text with
  | nil => cases h
  | cons first more =>
      replace h : (if first = c then some more else none) = some rest := h
      split at h
      · rename_i hfirst
        rw [hfirst, Option.some.inj h]
      · cases h

/-- What is packed is exactly the text of a date, YYYY/MM/DD. -/
theorem encodeBatteryDate_eq_some_iff {text : String} {v : Int} :
    encodeBatteryDate text.toList = some v
      ↔ ∃ year month day, PackedDate year month day ∧ text = dateText year month day ∧ v = packed year month day := by
  have hslash : '/'.isDigit = false := rfl
  constructor
  · intro h
    unfold encodeBatteryDate at h
    obtain ⟨⟨year, p⟩, hyear, h⟩ := Option.bind_eq_some_iff.mp h
    obtain ⟨p₁, hfirst, h⟩ := Option.bind_eq_some_iff.mp h
    obtain ⟨⟨month, p₂⟩, hmonth, h⟩ := Option.bind_eq_some_iff.mp h
    obtain ⟨p₃, hsecond, h⟩ := Option.bind_eq_some_iff.mp h
    obtain ⟨⟨day, p₄⟩, hday, h⟩ := Option.bind_eq_some_iff.mp h
    dsimp only at h
    split at h
    · cases h
    rename_i hend
    split at h
    · cases h
    rename_i hrange
    obtain ⟨y, hy, hydigits⟩ := parseDigits_eq_some hyear
    obtain ⟨m, hm, hmdigits⟩ := parseDigits_eq_some hmonth
    obtain ⟨d, hd, hddigits⟩ := parseDigits_eq_some hday
    refine ⟨year, month, day, ⟨by omega, by omega, by omega⟩, ?_, ?_⟩
    · apply String.toList_injective
      rw [toList_dateText, hy, expectChar_eq_some hfirst, hm, expectChar_eq_some hsecond, hd, not_not.mp hend, List.append_nil,
        hydigits.eq_padded (by decide), hmdigits.eq_padded (by decide), hddigits.eq_padded (by decide)]
    · rw [← Option.some.inj h]
      rfl
  · rintro ⟨year, month, day, ⟨hyear, hmonth, hday⟩, rfl, rfl⟩
    have hm := digits_padded_two (show month ≤ 99 by omega)
    have hd := digits_padded_two (show day ≤ 99 by omega)
    rw [toList_dateText]
    unfold encodeBatteryDate
    simp only [Option.bind_eq_bind, Option.bind_some, parseDigits_cons (digits_padded_four (show year ≤ 9999 by omega)) hslash,
      expectChar_cons, parseDigits_cons hm hslash, parseDigits_end hd]
    rw [if_neg (not_not.mpr rfl), if_neg (by omega)]
    rfl

theorem batteryDateText_packed {year month day : Nat} (h : PackedDate year month day) :
    batteryDateText (packed year month day) = dateText year month day := by
  have hrange := h.range
  obtain ⟨hyear, hmonth, hday⟩ := h
  have hyears : 1980 + packed year month day / 512 = year := by
    unfold packed
    omega
  have hmonths : packed year month day / 32 % 16 = month := by
    unfold packed
    omega
  have hdays : packed year month day % 32 = day := by
    unfold packed
    omega
  have hlength : (dateText year month day).toList.length ≤ 31 := by
    rw [length_dateText (by omega) (by omega)]
    decide
  unfold batteryDateText
  rw [if_neg hrange.1.ne', hyears, hmonths, hdays]
  unfold buf32
  exact (congrArg String.ofList (List.take_of_length_le hlength)).trans String.ofList_toList

/-! ### The clock -/

/-- The second of a timestamp, as `time_t` holds it. -/
def timestamp (v : ℚ) : Int := Decimal.saturate (-2 ^ 63) (2 ^ 63 - 1) (trunc v)

theorem civilDays_range {year month day : Nat} (h : RealDate year month day) (hyear : 1970 ≤ year ∧ year ≤ 9999) :
    0 ≤ civilDays year month day ∧ civilDays year month day ≤ 10000 * 366 := by
  have hday := h.days.2.trans (daysInMonth_le h.months year)
  have hfirst := h.days.1
  obtain ⟨hmonth, hlast⟩ := h.months
  unfold civilDays
  dsimp only
  split <;> split <;> omega

/-- The seconds of a date and a time, taken apart again. -/
theorem timegmUtc_parts {year month day hour minute second : Nat} (hdate : RealDate year month day)
    (hyear : 1970 ≤ year ∧ year ≤ 9999) (htime : RealTime hour minute second) :
    timestamp (timegmUtc year month day hour minute second : Int) = timegmUtc year month day hour minute second
      ∧ timegmUtc year month day hour minute second / 86400 = civilDays year month day
      ∧ timegmUtc year month day hour minute second % 86400 = (hour : Int) * 3600 + minute * 60 + second := by
  obtain ⟨hhours, hminutes, hseconds⟩ := htime
  have hdays := civilDays_range hdate hyear
  rw [timegmUtc_eq]
  refine ⟨?_, by omega, by omega⟩
  unfold timestamp
  rw [trunc_intCast, Decimal.saturate_eq_of_mem (by omega) (by omega)]

theorem toString_year {year : Nat} (h : 1000 ≤ year) : toString (year : Int) = formatPadded 4 year := by
  have hlong : 4 ≤ (Nat.toDigits 10 year).length := by
    by_contra hshort
    have hless := (Nat.length_toDigits_le_iff (n := year) (k := 3) (by decide : 1 < 10) (by decide)).mp (by omega)
    omega
  apply String.toList_inj.mp
  rw [Decimal.toList_toString, toList_formatPadded, padded_eq_toDigits hlong]

theorem mgeClockText_timegmUtc {year month day hour minute second : Nat} (hdate : RealDate year month day)
    (hyear : 1970 ≤ year ∧ year ≤ 9999) (htime : RealTime hour minute second) :
    mgeClockText true (timegmUtc year month day hour minute second : Int) = some (dateText year month day)
      ∧ mgeClockText false (timegmUtc year month day hour minute second : Int) = some (timeText hour minute second) := by
  obtain ⟨hstamp, hdays, hseconds⟩ := timegmUtc_parts hdate hyear htime
  obtain ⟨hhours, hminutes, hsecond⟩ := htime
  have hhour : ((hour : Int) * 3600 + minute * 60 + second) / 3600 = hour := by omega
  have hminute : ((hour : Int) * 3600 + minute * 60 + second) / 60 % 60 = minute := by omega
  have hrest : ((hour : Int) * 3600 + minute * 60 + second) % 60 = second := by omega
  have htext : toString (year : Int) ++ "/" ++ formatPadded 2 month ++ "/" ++ formatPadded 2 day = dateText year month day := by
    rw [toString_year (by omega)]
    rfl
  unfold timestamp at hstamp
  unfold mgeClockText
  dsimp only
  rw [hstamp, hdays, hseconds, civilFromDays_civilDays hdate]
  dsimp only
  rw [hhour, hminute, hrest, htext]
  constructor
  · rw [if_neg (by omega), if_pos rfl, if_pos (length_dateText hyear.2 hdate.small)]
  · rw [if_neg (by omega), if_neg (by decide)]
    rfl

theorem exists_timeText {v : ℚ} {time : String} (h : mgeClockText false v = some time) :
    ∃ hour minute second, RealTime hour minute second ∧ time = timeText hour minute second := by
  unfold mgeClockText at h
  dsimp only at h
  split at h
  · cases h
  rw [if_neg (by decide)] at h
  have htime := Option.some.inj h
  generalize Decimal.saturate (-2 ^ 63) (2 ^ 63 - 1) (trunc v) = sec at htime
  have hhour : sec % 86400 / 3600 = ((sec % 86400 / 3600).toNat : Int) := by omega
  have hminute : sec % 86400 / 60 % 60 = ((sec % 86400 / 60 % 60).toNat : Int) := by omega
  have hsecond : sec % 86400 % 60 = ((sec % 86400 % 60).toNat : Int) := by omega
  rw [hhour, hminute, hsecond] at htime
  exact ⟨_, _, _, ⟨by omega, by omega, by omega⟩, htime.symm⟩

/-- A text of ten characters with a year of the calendar has all four digits of the year. -/
theorem dateText_of_length {year month day : Nat} (hreal : RealDate year month day)
    (hlength : (toString (year : Int) ++ "/" ++ formatPadded 2 month ++ "/" ++ formatPadded 2 day).toList.length = 10) :
    year ≤ 9999 ∧ toString (year : Int) ++ "/" ++ formatPadded 2 month ++ "/" ++ formatPadded 2 day
      = dateText year month day := by
  have hm := digits_padded_two hreal.small.1
  have hd := digits_padded_two hreal.small.2
  have hmlength := le_antisymm hm.short hm.long
  have hdlength := le_antisymm hd.short hd.long
  simp only [String.toList_append, List.length_append, toList_formatPadded, Decimal.toList_toString, hmlength, hdlength] at hlength
  have hslash : "/".toList.length = 1 := rfl
  have hyear : (Nat.toDigits 10 year).length = 4 := by omega
  have hless := (Nat.length_toDigits_le_iff (n := year) (k := 4) (by decide : 1 < 10) (by decide)).mp hyear.le
  have htext : toString (year : Int) = formatPadded 4 year := by
    apply String.toList_inj.mp
    rw [Decimal.toList_toString, toList_formatPadded, padded_eq_toDigits hyear.ge]
  refine ⟨by omega, ?_⟩
  rw [htext]
  rfl

/-- The date shown is the one of the day of the timestamp, in ten characters. -/
theorem mgeClockText_date_eq {v : ℚ} {date : String} (h : mgeClockText true v = some date) :
    ∃ year month day, civilFromDays (timestamp v / 86400) = (year, month, day)
      ∧ date = toString year ++ "/" ++ formatPadded 2 month ++ "/" ++ formatPadded 2 day ∧ date.toList.length = 10 := by
  unfold mgeClockText at h
  dsimp only at h
  split at h
  · cases h
  rw [if_pos rfl] at h
  split at h
  · rename_i hlength
    obtain rfl := Option.some.inj h
    exact ⟨_, _, _, rfl, rfl, hlength⟩
  · cases h

/-- From the epoch on the date shown is a date of the calendar; before it, it is one that is not read back. -/
theorem mgeClockText_date {v : ℚ} {date : String} (h : mgeClockText true v = some date) :
    (0 ≤ timestamp v → ∃ year month day, RealDate year month day ∧ 1970 ≤ year ∧ year ≤ 9999 ∧ date = dateText year month day)
      ∧ (timestamp v < 0 → ∀ (time : List Char) (hour minute second : Nat), TimeText time hour minute second →
        RealTime hour minute second → parseMgeDateTime (date.toList ++ ' ' :: time) = none) := by
  obtain ⟨year, month, day, hcivil, hdate, hlength⟩ := mgeClockText_date_eq h
  rw [hdate] at hlength
  have hyears := civilFromDays_year (timestamp v / 86400)
  rw [hcivil] at hyears
  cases year with
  | ofNat year =>
      have hreal : RealDate year month day := realDate_civilFromDays hcivil
      obtain ⟨hsmall, htext⟩ := dateText_of_length hreal hlength
      rw [Int.ofNat_eq_natCast] at hyears hdate
      refine ⟨fun hfrom => ⟨year, month, day, hreal, ?_, hsmall, hdate.trans htext⟩, ?_⟩
      · have := hyears.1 (by omega)
        omega
      · intro hbefore time hour minute second htime hclock
        have hearly := hyears.2 (by omega)
        rw [hdate, htext, parseMgeDateTime_join (hreal.dateText hsmall) hreal htime hclock, if_pos (by omega)]
  | negSucc n =>
      constructor
      · intro hfrom
        have := hyears.1 (by omega)
        omega
      · intro hbefore time hour minute second htime hclock
        have hminus : ∃ rest, date.toList = '-' :: rest := by
          rw [hdate]
          simp only [String.toList_append, Decimal.toList_toString_negSucc, List.cons_append]
          exact ⟨_, rfl⟩
        obtain ⟨rest, hrest⟩ := hminus
        rw [hrest]
        rfl

end EspNut.NutTable
