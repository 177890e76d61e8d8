import EspNut.Lib.DayCount
import EspNut.Log.SyslogFormat
import EspNut.Table.Dates

/-!
# Calendar arithmetic and the board time of a log line

Two implementations count the seconds of a date since 1970: the tables' in signed numbers, the board time's with unsigned ones in between. Both are the count of the days, one by one. The board time is printed with its distance from UTC, so that it denotes the instant.
-/

namespace EspNut.BoardTime

open Lib Rounding Calendar NutTable

/-- Days since the epoch; the years of a `struct tm` reach as far as they like. -/
def daysFromCivil (y : Int) (m d : UInt32) : Int :=
  let y := if m ≤ 2 then y - 1 else y
  let era := (if 0 ≤ y then y else y - 399).tdiv 400
  let yoe := UInt32.ofInt (y - era * 400)
  let doy := (153 * (if 2 < m then m - 3 else m + 9) + 2) / 5 + d - 1
  let doe := yoe * 365 + yoe / 4 - yoe / 100 + doy
  era * 146097 + doe.toNat - 719468

def secondsOf (t : Tm) : Int :=
  let days := daysFromCivil (t.year.toInt + 1900) (UInt32.ofInt (t.mon.toInt + 1)) (UInt32.ofInt t.mday.toInt)
  days * 86400 + t.hour.toInt * 3600 + t.min.toInt * 60 + t.sec.toInt

def utcOffsetSeconds (localTime utc : Tm) : Int := (Int32.ofInt (secondsOf localTime - secondsOf utc)).toInt

def boardTimeLen : Nat := 29

/-- A number as `%0` prints it. -/
def printed (width : Nat) (n : Int) : List Char := (formatPadded width n).toList

/-- The text of a time, empty when it comes out longer or shorter than it should; a buffer that is too small is left alone. -/
def formatBoardTime (localTime utc : Tm) (ms len : Nat) : Option (List Char) :=
  if len < boardTimeLen + 1 then none
  else
    let offset := utcOffsetSeconds localTime utc
    let sign := if offset < 0 then '-' else '+'
    let offset := if offset < 0 then -offset else offset
    let offMin := offset / 60
    let text := printed 4 (localTime.year.toInt + 1900) ++ '-' :: (printed 2 (localTime.mon.toInt + 1) ++ '-'
      :: (printed 2 localTime.mday.toInt ++ 'T' :: (printed 2 localTime.hour.toInt ++ ':' :: (printed 2 localTime.min.toInt ++ ':'
      :: (printed 2 localTime.sec.toInt ++ '.' :: (printed 3 (ms % 1000 : Nat) ++ sign :: (printed 2 (offMin / 60) ++ ':'
      :: printed 2 (offMin % 60))))))))
    if text.length ≠ boardTimeLen then some [] else some text

/-! ### The count of the days -/

theorem toNat_ofInt {x : Int} (h : 0 ≤ x ∧ x < 2 ^ 32) : (UInt32.ofInt x).toNat = x := by
  unfold UInt32.ofInt
  rw [UInt32.toNat_ofNat']
  omega

variable {month day : Int} {m d : UInt32}

theorem marchMonth_unsigned (hm : (m.toNat : Int) = month) (h : 1 ≤ month ∧ month ≤ 12) :
    ((if 2 < m then m - 3 else m + 9).toNat : Int) = month + if 2 < month then -3 else 9 := by
  have hcompare : 2 < m ↔ 2 < month := by
    rw [UInt32.lt_iff_toNat_lt]
    show 2 < m.toNat ↔ _
    omega
  by_cases hlate : 2 < m
  · have hthree : (3 : UInt32) ≤ m := by
      rw [UInt32.le_iff_toNat_le]
      show 3 ≤ m.toNat
      have := hcompare.mp hlate
      omega
    rw [if_pos hlate, if_pos (hcompare.mp hlate), UInt32.toNat_sub_of_le _ _ hthree]
    show ((m.toNat - 3 : Nat) : Int) = _
    have := hcompare.mp hlate
    omega
  · rw [if_neg hlate, if_neg fun h => hlate (hcompare.mpr h), UInt32.toNat_add]
    show (((m.toNat + 9) % 2 ^ 32 : Nat) : Int) = _
    omega

theorem dayOfYear_unsigned {mp : UInt32} {march : Int} (hmp : (mp.toNat : Int) = march) (hmarch : march ≤ 11)
    (hd : (d.toNat : Int) = day) (hday : 1 ≤ day ∧ day ≤ 31) :
    (((153 * mp + 2) / 5 + d - 1).toNat : Int) = monthStart march + day - 1 := by
  have hproduct : (153 * mp + 2).toNat = 153 * mp.toNat + 2 := by
    rw [UInt32.toNat_add, UInt32.toNat_mul]
    show (153 * mp.toNat % 2 ^ 32 + 2) % 2 ^ 32 = _
    omega
  have hsum : ((153 * mp + 2) / 5 + d).toNat = (153 * mp.toNat + 2) / 5 + d.toNat := by
    rw [UInt32.toNat_add, UInt32.toNat_div, hproduct]
    show ((153 * mp.toNat + 2) / 5 + d.toNat) % 2 ^ 32 = _
    omega
  have hone : (1 : UInt32) ≤ (153 * mp + 2) / 5 + d := by
    rw [UInt32.le_iff_toNat_le, hsum]
    show 1 ≤ _
    omega
  rw [UInt32.toNat_sub_of_le _ _ hone, hsum]
  unfold monthStart
  show (((153 * mp.toNat + 2) / 5 + d.toNat - 1 : Nat) : Int) = _
  omega

theorem dayOfEra_unsigned {yoe doy : UInt32} {year dayOfYear : Int} (hyear : (yoe.toNat : Int) = year) (hyears : year ≤ 399)
    (hdoy : (doy.toNat : Int) = dayOfYear) (hdays : dayOfYear ≤ 400) :
    ((yoe * 365 + yoe / 4 - yoe / 100 + doy).toNat : Int) = year * 365 + year / 4 - year / 100 + dayOfYear := by
  subst hyear hdoy
  have hproduct : (yoe * 365 + yoe / 4).toNat = yoe.toNat * 365 + yoe.toNat / 4 := by
    rw [UInt32.toNat_add, UInt32.toNat_mul, UInt32.toNat_div]
    show (yoe.toNat * 365 % 2 ^ 32 + yoe.toNat / 4) % 2 ^ 32 = _
    omega
  have hcenturies : (yoe / 100).toNat = yoe.toNat / 100 := UInt32.toNat_div _ _
  have hless : yoe / 100 ≤ yoe * 365 + yoe / 4 := by
    rw [UInt32.le_iff_toNat_le, hproduct, hcenturies]
    omega
  rw [UInt32.toNat_add, UInt32.toNat_sub_of_le _ _ hless, hproduct, hcenturies]
  omega

/-- Neither the unsigned numbers nor the division of a negative year spoil the count. -/
theorem daysFromCivil_eq (date : Date) :
    daysFromCivil date.year (UInt32.ofInt date.month) (UInt32.ofInt date.day) = date.number := by
  obtain ⟨hday, hend⟩ := date.days
  have hlength := monthLength_range date.year date.month
  have hmonths := date.months
  have hm := toNat_ofInt (show 0 ≤ date.month ∧ date.month < 2 ^ 32 by omega)
  have hd := toNat_ofInt (show 0 ≤ date.day ∧ date.day < 2 ^ 32 by omega)
  have hmarch := marchMonth_unsigned hm hmonths
  have hmarchRange : 0 ≤ (date.month + if 2 < date.month then -3 else 9)
      ∧ (date.month + if 2 < date.month then -3 else 9) ≤ 11 := by
    split <;> omega
  have hdoy := dayOfYear_unsigned hmarch hmarchRange.2 hd ⟨hday, by omega⟩
  have hdoyRange : monthStart (date.month + if 2 < date.month then -3 else 9) + date.day - 1 ≤ 400 := by
    unfold monthStart
    omega
  have hearly : UInt32.ofInt date.month ≤ 2 ↔ date.month ≤ 2 := by
    rw [UInt32.le_iff_toNat_le]
    show (UInt32.ofInt date.month).toNat ≤ 2 ↔ _
    omega
  have hyear : (if UInt32.ofInt date.month ≤ 2 then date.year - 1 else date.year) = marchYearOf date.year date.month := by
    unfold marchYearOf
    by_cases hfirst : date.month ≤ 2
    · rw [if_pos (hearly.mpr hfirst), if_pos hfirst]
    · rw [if_neg fun h => hfirst (hearly.mp h), if_neg hfirst, Int.sub_zero]
  have hyoe := toNat_ofInt (show 0 ≤ marchYearOf date.year date.month - marchYearOf date.year date.month / 400 * 400
    ∧ marchYearOf date.year date.month - marchYearOf date.year date.month / 400 * 400 < 2 ^ 32 by omega)
  unfold daysFromCivil
  dsimp only
  rw [hyear, era_eq, dayOfEra_unsigned hyoe (by omega) hdoy hdoyRange]
  unfold Date.number dayNumber dayOfMarchYear
  omega

/-- A broken-down time shows a date and a time of day. -/
structure Shows (t : Tm) (time : DateTime) : Prop where
  year : t.year.toInt + 1900 = time.year
  month : t.mon.toInt + 1 = time.month
  day : t.mday.toInt = time.day
  hour : t.hour.toInt = time.hour
  minute : t.min.toInt = time.minute
  second : t.sec.toInt = time.second

theorem secondsOf_eq {t : Tm} {time : DateTime} (h : Shows t time) : secondsOf t = time.instant := by
  unfold secondsOf DateTime.instant DateTime.secondOfDay
  dsimp only
  rw [h.year, h.month, h.day, h.hour, h.minute, h.second, daysFromCivil_eq]
  omega

theorem timegmUtc_eq_instant (time : DateTime) :
    timegmUtc time.year time.month time.day time.hour time.minute time.second = time.instant := by
  rw [timegmUtc_eq]
  unfold civilDays DateTime.instant DateTime.secondOfDay Date.number dayNumber marchYearOf dayOfMarchYear monthStart
  dsimp only
  generalize time.year - (if time.month ≤ 2 then 1 else 0) = year
  generalize (153 * (time.month + if 2 < time.month then -3 else 9) + 2) / 5 = start
  omega

theorem utcOffsetSeconds_eq {localTm utcTm : Tm} {localTime utc : DateTime} (hlocal : Shows localTm localTime)
    (hutc : Shows utcTm utc) {offset : Int} (hoffset : localTime.instant = utc.instant + offset * 60)
    (hrange : -6000 < offset ∧ offset < 6000) : utcOffsetSeconds localTm utcTm = offset * 60 := by
  unfold utcOffsetSeconds
  rw [secondsOf_eq hlocal, secondsOf_eq hutc, hoffset, Int32.toInt_ofInt_of_le (by omega) (by omega)]
  omega

/-! ### The text of a time -/

/-- The number of a date, and what follows it. -/
def readDate (text : List Char) : Option (Int × List Char) := do
  let (year, p) ← parseDigits 4 4 text
  let p ← expectChar '-' p
  let (month, p) ← parseDigits 2 2 p
  let p ← expectChar '-' p
  let (day, p) ← parseDigits 2 2 p
  some (dayNumber year month day, p)

/-- The milliseconds of a time of day, and what follows it. -/
def readClock (text : List Char) : Option (Int × List Char) := do
  let (hour, p) ← parseDigits 2 2 text
  let p ← expectChar ':' p
  let (minute, p) ← parseDigits 2 2 p
  let p ← expectChar ':' p
  let (second, p) ← parseDigits 2 2 p
  let p ← expectChar '.' p
  let (ms, p) ← parseDigits 3 3 p
  some ((hour * 3600 + minute * 60 + second) * 1000 + ms, p)

def readSign : List Char → Option (Int × List Char)
  | '+' :: rest => some (1, rest)
  | '-' :: rest => some (-1, rest)
  | _ => none

/-- The minutes by which a time is ahead of UTC, at the end of its text. -/
def readZone (text : List Char) : Option Int := do
  let (east, p) ← readSign text
  let (hours, p) ← parseDigits 2 2 p
  let p ← expectChar ':' p
  let (minutes, p) ← parseDigits 2 2 p
  if p = [] then some (east * (hours * 60 + minutes)) else none

/-- The instant in milliseconds that a time text denotes: its date and time of day, less its distance from UTC. -/
def instantOf (text : List Char) : Option Int := do
  let (days, p) ← readDate text
  let p ← expectChar 'T' p
  let (ms, p) ← readClock p
  let zone ← readZone p
  some (days * 86400000 + ms - zone * 60000)

theorem digits_printed {width : Nat} {n : Int} (hwidth : 0 < width) (hn : 0 ≤ n ∧ n < 10 ^ width) :
    Digits width width n.toNat (printed width n) := by
  obtain ⟨m, rfl⟩ := Int.eq_ofNat_of_zero_le hn.1
  unfold printed
  rw [toList_formatPadded]
  exact Digits.padded hwidth (by exact_mod_cast hn.2)

theorem length_digits {width n : Nat} {text : List Char} (h : Digits width width n text) : text.length = width :=
  le_antisymm h.short h.long

theorem readDate_text {year month day : Nat} {y mo d rest : List Char} (hy : Digits 4 4 year y) (hmo : Digits 2 2 month mo)
    (hd : Digits 2 2 day d) :
    readDate (y ++ '-' :: (mo ++ '-' :: (d ++ 'T' :: rest))) = some (dayNumber year month day, 'T' :: rest) := by
  have hdash : '-'.isDigit = false := rfl
  have hletter : 'T'.isDigit = false := rfl
  unfold readDate
  simp only [Option.bind_eq_bind, Option.bind_some, parseDigits_cons hy hdash, expectChar_cons, parseDigits_cons hmo hdash,
    parseDigits_cons hd hletter]

theorem readClock_text {hour minute second ms : Nat} {h mi s f rest : List Char} {sign : Char} (hh : Digits 2 2 hour h)
    (hmi : Digits 2 2 minute mi) (hs : Digits 2 2 second s) (hf : Digits 3 3 ms f) (hsign : sign.isDigit = false) :
    readClock (h ++ ':' :: (mi ++ ':' :: (s ++ '.' :: (f ++ sign :: rest))))
      = some (((hour : Int) * 3600 + minute * 60 + second) * 1000 + ms, sign :: rest) := by
  have hcolon : ':'.isDigit = false := rfl
  have hdot : '.'.isDigit = false := rfl
  unfold readClock
  simp only [Option.bind_eq_bind, Option.bind_some, parseDigits_cons hh hcolon, expectChar_cons, parseDigits_cons hmi hcolon,
    parseDigits_cons hs hdot, parseDigits_cons hf hsign]

theorem readZone_text {hours minutes : Nat} {oh om : List Char} {sign : Char} {east : Int}
    (heast : ∀ rest, readSign (sign :: rest) = some (east, rest)) (hoh : Digits 2 2 hours oh) (hom : Digits 2 2 minutes om) :
    readZone (sign :: (oh ++ ':' :: om)) = some (east * (hours * 60 + minutes)) := by
  have hcolon : ':'.isDigit = false := rfl
  unfold readZone
  simp only [Option.bind_eq_bind, Option.bind_some, heast, parseDigits_cons hoh hcolon, expectChar_cons, parseDigits_end hom]
  rfl

/-- Within the years of four digits the text denotes the instant. -/
theorem formatBoardTime_denotes {localTm utcTm : Tm} {localTime utc : DateTime} (hlocal : Shows localTm localTime)
    (hutc : Shows utcTm utc) {offset : Int} (hoffset : localTime.instant = utc.instant + offset * 60)
    (hrange : -6000 < offset ∧ offset < 6000) (hyear : 0 ≤ localTime.year ∧ localTime.year ≤ 9999) (ms : Nat) {len : Nat}
    (hlen : 30 ≤ len) :
    ∃ text, formatBoardTime localTm utcTm ms len = some text ∧ instantOf text = some (utc.instant * 1000 + (ms % 1000 : Nat)) := by
  obtain ⟨hmonthFirst, hmonthLast⟩ := localTime.months
  have hday := localTime.days
  have hlength := monthLength_range localTime.year localTime.month
  have hhours := localTime.hours
  have hminutes := localTime.minutes
  have hseconds := localTime.seconds
  have hy := digits_printed (show 0 < 4 by decide) (show 0 ≤ localTime.year ∧ localTime.year < 10 ^ 4 by omega)
  have hmo := digits_printed (show 0 < 2 by decide) (show 0 ≤ localTime.month ∧ localTime.month < 10 ^ 2 by omega)
  have hd := digits_printed (show 0 < 2 by decide) (show 0 ≤ localTime.day ∧ localTime.day < 10 ^ 2 by omega)
  have hh := digits_printed (show 0 < 2 by decide) (show 0 ≤ localTime.hour ∧ localTime.hour < 10 ^ 2 by omega)
  have hmi := digits_printed (show 0 < 2 by decide) (show 0 ≤ localTime.minute ∧ localTime.minute < 10 ^ 2 by omega)
  have hs := digits_printed (show 0 < 2 by decide) (show 0 ≤ localTime.second ∧ localTime.second < 10 ^ 2 by omega)
  have hf := digits_printed (show 0 < 3 by decide) (show 0 ≤ ((ms % 1000 : Nat) : Int) ∧ ((ms % 1000 : Nat) : Int) < 10 ^ 3 by omega)
  obtain ⟨sign, east, distance, hsigned, hdistance, hsign, heast, hsum⟩ : ∃ (sign : Char) (east distance : Int),
      (if offset * 60 < 0 then '-' else '+') = sign ∧ (if offset * 60 < 0 then -(offset * 60) else offset * 60) = distance * 60
        ∧ sign.isDigit = false ∧ (∀ rest, readSign (sign :: rest) = some (east, rest))
        ∧ (0 ≤ distance ∧ distance < 6000 ∧ east * distance = offset) := by
    by_cases hwest : offset * 60 < 0
    · exact ⟨'-', -1, -offset, if_pos hwest, by rw [if_pos hwest]; omega, rfl, fun _ => rfl, by omega⟩
    · exact ⟨'+', 1, offset, if_neg hwest, if_neg hwest, rfl, fun _ => rfl, by omega⟩
  have hoh := digits_printed (show 0 < 2 by decide) (show 0 ≤ distance / 60 ∧ distance / 60 < 10 ^ 2 by omega)
  have hom := digits_printed (show 0 < 2 by decide) (show 0 ≤ distance % 60 ∧ distance % 60 < 10 ^ 2 by omega)
  unfold formatBoardTime
  dsimp only
  rw [if_neg (by unfold boardTimeLen; omega), utcOffsetSeconds_eq hlocal hutc hoffset hrange, hsigned, hdistance, hlocal.year,
    hlocal.month, hlocal.day, hlocal.hour, hlocal.minute, hlocal.second, Int.mul_ediv_cancel _ (by decide), if_neg]
  · refine ⟨_, rfl, ?_⟩
    unfold instantOf
    rw [readDate_text hy hmo hd]
    dsimp only [Option.bind_eq_bind, Option.bind_some]
    rw [expectChar_cons]
    dsimp only [Option.bind_eq_bind, Option.bind_some]
    rw [readClock_text hh hmi hs hf hsign]
    dsimp only [Option.bind_eq_bind, Option.bind_some]
    rw [readZone_text heast hoh hom]
    dsimp only [Option.bind_eq_bind, Option.bind_some]
    rw [Int.toNat_of_nonneg hyear.1, Int.toNat_of_nonneg (by omega : 0 ≤ localTime.month),
      Int.toNat_of_nonneg (by omega : 0 ≤ localTime.day)]
    have hlocalInstant : localTime.instant
        = dayNumber localTime.year localTime.month localTime.day * 86400 + (localTime.hour * 3600 + localTime.minute * 60
          + localTime.second) := rfl
    rw [hlocalInstant] at hoffset
    have hzone : east * (((distance / 60).toNat : Int) * 60 + (distance % 60).toNat) = offset := by
      rw [Int.toNat_of_nonneg (by omega), Int.toNat_of_nonneg (by omega), ← hsum.2.2]
      congr 1
      omega
    rw [hzone]
    congr 1
    omega
  · simp only [List.length_append, List.length_cons, length_digits hy, length_digits hmo, length_digits hd, length_digits hh,
      length_digits hmi, length_digits hs, length_digits hf, length_digits hoh, length_digits hom]
    decide

/-- Both implementations count the days one by one and grow with the time; a board time with a local year of four digits denotes its instant. -/
theorem calendar_counted :
    (∀ time : DateTime, ∃ n, (∀ k, Date.epoch.DaysUntil time.toDate k ↔ k = n)
        ∧ timegmUtc time.year time.month time.day time.hour time.minute time.second = n * 86400 + time.secondOfDay
        ∧ ∀ t, Shows t time →
          daysFromCivil (t.year.toInt + 1900) (UInt32.ofInt (t.mon.toInt + 1)) (UInt32.ofInt t.mday.toInt) = n
            ∧ secondsOf t = n * 86400 + time.secondOfDay)
    ∧ (∀ first second : DateTime, first.Before second →
        timegmUtc first.year first.month first.day first.hour first.minute first.second
            < timegmUtc second.year second.month second.day second.hour second.minute second.second
          ∧ ∀ t t', Shows t first → Shows t' second → secondsOf t < secondsOf t')
    ∧ ∀ (localTm utcTm : Tm) (localTime utc : DateTime) (offset : Int) (ms len : Nat), Shows localTm localTime → Shows utcTm utc →
        localTime.instant = utc.instant + offset * 60 → -6000 < offset ∧ offset < 6000 →
        0 ≤ utc.year ∧ utc.year ≤ 9999 → 0 ≤ localTime.year ∧ localTime.year ≤ 9999 → 30 ≤ len →
        ∃ text, formatBoardTime localTm utcTm ms len = some text
          ∧ instantOf text = some (utc.instant * 1000 + (ms % 1000 : Nat)) := by
  refine ⟨fun time => ⟨time.toDate.number, time.toDate.daysUntil_iff, timegmUtc_eq_instant time, fun t h => ⟨?_, secondsOf_eq h⟩⟩,
    fun first second h => ⟨?_, fun t t' hfirst hsecond => ?_⟩, ?_⟩
  · rw [h.year, h.month, h.day]
    exact daysFromCivil_eq time.toDate
  · rw [timegmUtc_eq_instant, timegmUtc_eq_instant]
    exact DateTime.instant_lt h
  · rw [secondsOf_eq hfirst, secondsOf_eq hsecond]
    exact DateTime.instant_lt h
  · intro localTm utcTm localTime utc offset ms len hlocal hutc hoffset hrange _ hyear hlen
    exact formatBoardTime_denotes hlocal hutc hoffset hrange hyear ms hlen

/-- Half past eleven in the evening of the last day of 9999. -/
def lastEvening : DateTime where
  year := 9999
  month := 12
  day := 31
  hour := 23
  minute := 30
  second := 0
  months := by decide
  days := by decide
  hours := by decide
  minutes := by decide
  seconds := by decide

def lastEveningTm : Tm := ⟨8099, 11, 31, 23, 30, 0⟩

/-- An hour later the year has five digits. -/
def nextHour : DateTime where
  year := 10000
  month := 1
  day := 1
  hour := 0
  minute := 30
  second := 0
  months := Date.epoch.months
  days := by decide
  hours := by decide
  minutes := by decide
  seconds := by decide

def nextHourTm : Tm := ⟨8100, 0, 1, 0, 30, 0⟩

theorem lastEvening_shown : Shows lastEveningTm lastEvening := by constructor <;> decide

theorem nextHour_shown : Shows nextHourTm nextHour := by constructor <;> decide

theorem calendar_counted_last_evening :
    secondsOf lastEveningTm < secondsOf nextHourTm
      ∧ ∃ text, formatBoardTime lastEveningTm lastEveningTm 7 30 = some text
        ∧ instantOf text = some (lastEvening.instant * 1000 + (7 % 1000 : Nat)) :=
  ⟨(calendar_counted.2.1 lastEvening nextHour (Or.inl (Or.inl (by decide)))).2 lastEveningTm nextHourTm lastEvening_shown
      nextHour_shown,
    calendar_counted.2.2 lastEveningTm lastEveningTm lastEvening lastEvening 0 7 30 lastEvening_shown lastEvening_shown
      (by decide) (by decide) (by decide) (by decide) (by decide)⟩

/-- An hour east of Greenwich that evening has no text. -/
theorem no_text_in_five_digits :
    ¬ ∀ (localTm utcTm : Tm) (localTime utc : DateTime) (offset : Int) (ms len : Nat), Shows localTm localTime →
        Shows utcTm utc → localTime.instant = utc.instant + offset * 60 → -6000 < offset ∧ offset < 6000 →
        0 ≤ utc.year ∧ utc.year ≤ 9999 → 30 ≤ len →
        ∃ text, formatBoardTime localTm utcTm ms len = some text
          ∧ instantOf text = some (utc.instant * 1000 + (ms % 1000 : Nat)) := by
  intro h
  obtain ⟨text, htext, hinstant⟩ := h nextHourTm lastEveningTm nextHour lastEvening 60 0 30 nextHour_shown
    lastEvening_shown (by decide) (by decide) (by decide) (by decide)
  have hnone : formatBoardTime nextHourTm lastEveningTm 0 30 = some [] := by decide +kernel
  rw [hnone, Option.some.injEq] at htext
  subst htext
  exact absurd hinstant (by decide)

end EspNut.BoardTime
