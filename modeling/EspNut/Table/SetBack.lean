import EspNut.Table.Dates

/-!
# What is read back after a SET VAR

The value that a text is encoded as is decoded to the same text: for the lookups of the writable rows, for packed dates and for the clock, whose date and time are one number.
-/

namespace EspNut.NutTable

open Lib Rounding

/-! ### Lookups -/

def kYesNo : List Lookup := [⟨0, "no"⟩, ⟨1, "yes"⟩]
def kEnableDisable : List Lookup := [⟨0, "disabled"⟩, ⟨1, "enabled"⟩]
def kApcSensitivity : List Lookup := [⟨0, "low"⟩, ⟨1, "medium"⟩, ⟨2, "high"⟩]
def kCpsSensitivity : List Lookup := [⟨0, "low"⟩, ⟨1, "normal"⟩, ⟨2, "high"⟩]
def kMgeSensitivity : List Lookup := [⟨0, "normal"⟩, ⟨1, "high"⟩, ⟨2, "low"⟩]

def lookupRow (infoType : String) (infoLen : Nat) (hidpath dfl : String) (hidflags : Nat) (lkp : List Lookup) : HidInfo :=
  { infoType, infoFlags := stFlagRW ||| stFlagString, infoLen, hidpath := some hidpath, dfl := some dfl, hidflags,
    conv := .lookup, lkp }

/-- The writable rows with a lookup of all tables: Eaton, APC, CyberPower. -/
def writableLookupRows : List HidInfo :=
  [ lookupRow "battery.protection" 5 "UPS.BatterySystem.Battery.0xFFFF0049" "%s" huFlagSemiStatic kYesNo,
    lookupRow "battery.energysave" 5 "UPS.PowerConverter.Input.[3].0xFFFF0046" "%s" huFlagSemiStatic kYesNo,
    lookupRow "ups.start.auto" 5 "UPS.PowerConverter.Input.[1].0xFFFF0043" "%s" huFlagSemiStatic kYesNo,
    lookupRow "ups.start.battery" 5 "UPS.PowerConverter.Input.[3].0xFFFF0047" "%s" huFlagSemiStatic kYesNo,
    lookupRow "ups.start.reboot" 5 "UPS.PowerConverter.Output.0xFFFF0044" "%s" huFlagSemiStatic kYesNo,
    lookupRow "ups.shutdown" 10 "UPS.PowerSummary.PresentStatus.Switchable" "%s" (huFlagSemiStatic ||| huFlagEnum)
      kEnableDisable,
    lookupRow "input.transfer.bypass.forced" 8 "UPS.PowerConverter.Input.[2].0xFFFF0056" "%.0f" huFlagSemiStatic
      kEnableDisable,
    lookupRow "input.transfer.bypass.overload" 8 "UPS.PowerConverter.Input.[2].0xFFFF0054" "%.0f" huFlagSemiStatic
      kEnableDisable,
    lookupRow "input.transfer.bypass.outlimits" 8 "UPS.PowerConverter.Input.[2].0xFFFF0055" "%.0f" huFlagSemiStatic
      kEnableDisable,
    lookupRow "input.sensitivity" 10 "UPS.PowerConverter.Output.0xFFFF004C" "%s" huFlagSemiStatic kMgeSensitivity,
    lookupRow "input.voltage.extended" 5 "UPS.PowerConverter.Output.0xFFFF004B" "%s" huFlagSemiStatic kYesNo,
    lookupRow "input.frequency.extended" 5 "UPS.PowerConverter.Output.0xFFFF004E" "%s" huFlagSemiStatic kYesNo,
    lookupRow "input.bypass.switchable" 8 "UPS.PowerConverter.Input.[2].Switchable" "%.0f" huFlagSemiStatic kEnableDisable,
    lookupRow "input.sensitivity" 10 "UPS.Input.0xFF860061" "%s" huFlagSemiStatic kApcSensitivity,
    lookupRow "input.sensitivity" 0 "UPS.Output.0xFF010043" "%s" (huFlagSemiStatic ||| huFlagEnum) kCpsSensitivity ]

variable {info : HidInfo}

/-- No value of a lookup has two texts, and each fits a `long`. -/
structure Unambiguous (lkp : List Lookup) : Prop where
  texts : ∀ entry ∈ lkp, ∀ other ∈ lkp, entry.hid = other.hid → entry.nut = other.nut
  range : ∀ entry ∈ lkp, -2 ^ 31 ≤ entry.hid ∧ entry.hid ≤ 2 ^ 31 - 1

instance (lkp : List Lookup) : Decidable (Unambiguous lkp) :=
  decidable_of_iff ((∀ entry ∈ lkp, ∀ other ∈ lkp, entry.hid = other.hid → entry.nut = other.nut)
      ∧ ∀ entry ∈ lkp, -2 ^ 31 ≤ entry.hid ∧ entry.hid ≤ 2 ^ 31 - 1)
    ⟨fun h => ⟨h.1, h.2⟩, fun h => ⟨h.texts, h.range⟩⟩

theorem unambiguous_writableLookupRows : ∀ row ∈ writableLookupRows, row.conv = .lookup ∧ Unambiguous row.lkp := by decide

theorem toLong_intCast {n : Int} (h : -2 ^ 31 ≤ n ∧ n ≤ 2 ^ 31 - 1) : toLong (n : ℚ) = n := by
  unfold toLong
  rw [trunc_intCast, Decimal.saturate_eq_of_mem h.1 h.2]

/-- Every text of an unambiguous lookup is read back. -/
theorem decode_encode_lookup (hconv : info.conv = .lookup) (hlkp : Unambiguous info.lkp) {entry : Lookup}
    (hentry : entry ∈ info.lkp) (ctx : Context) (data : UPSData) :
    ∃ v, encode info entry.nut ctx data = some v
      ∧ ∀ ctx' published, decode info v ctx' published = (.ok entry.nut, ctx') := by
  have hsome : (info.lkp.find? fun other => other.nut = entry.nut).isSome := by
    rw [List.find?_isSome]
    exact ⟨entry, hentry, decide_eq_true rfl⟩
  obtain ⟨written, hwritten⟩ := Option.isSome_iff_exists.mp hsome
  have hin := List.mem_of_find?_eq_some hwritten
  have hnut : written.nut = entry.nut := by simpa using List.find?_some hwritten
  have hlong := toLong_intCast (hlkp.range written hin)
  have hread : lookupText info.lkp written.hid = some entry.nut := by
    have hfound : (info.lkp.find? fun other => other.hid = toLong (written.hid : ℚ)).isSome := by
      rw [List.find?_isSome]
      exact ⟨written, hin, decide_eq_true hlong.symm⟩
    obtain ⟨read, hread⟩ := Option.isSome_iff_exists.mp hfound
    have hhid : read.hid = written.hid := by
      rw [hlong] at hread
      simpa using List.find?_some hread
    unfold lookupText
    rw [hread, Option.map_some, hlkp.texts read (List.mem_of_find?_eq_some hread) written hin hhid, hnut]
  refine ⟨(written.hid : ℚ), ?_, fun ctx' published => ?_⟩
  · unfold encode
    simp only [hconv, hwritten, Option.map_some]
  · unfold decode staticText
    simp only [hconv, hread]
    rfl

/-! ### Packed dates -/

theorem decode_encode_batteryDate (hconv : info.conv = .batteryDate) {year month day : Nat} (hreal : RealDate year month day)
    (hyear : 1980 ≤ year ∧ year ≤ 2107) (ctx : Context) (data : UPSData) :
    ∃ v, encode info (dateText year month day) ctx data = some v
      ∧ ∀ ctx' published, decode info v ctx' published = (.ok (dateText year month day), ctx') := by
  have hpacked := hreal.packedDate hyear
  have hencode := encodeBatteryDate_eq_some_iff.mpr ⟨year, month, day, hpacked, rfl, rfl⟩
  refine ⟨(packed year month day : Int), ?_, fun ctx' published => ?_⟩
  · unfold encode
    simp only [hconv, hencode]
    rfl
  · have hlong : toLong (packed year month day : Int) = packed year month day := by
      have hrange := hpacked.range
      exact toLong_intCast (by omega)
    unfold decode
    simp only [hconv, hlong, batteryDateText_packed hpacked]

/-! ### The clock -/

/-- The rows of the clock, both of one timestamp. -/
def upsDateRow : HidInfo :=
  { infoType := "ups.date", infoFlags := stFlagRW ||| stFlagString, infoLen := 10, hidpath := some "UPS.PowerSummary.0xFFFF0097",
    dfl := some "%s", hidflags := 0, conv := .mgeDate, lkp := [] }

def upsTimeRow : HidInfo :=
  { infoType := "ups.time", infoFlags := stFlagRW ||| stFlagString, infoLen := 10, hidpath := some "UPS.PowerSummary.0xFFFF0097",
    dfl := some "%s", hidflags := 0, conv := .mgeTime, lkp := [] }

/-- The rows of the clock show a date and a time for a timestamp. -/
structure ClockShows (v : ℚ) (date time : String) : Prop where
  dateShown : ∀ ctx published, decode upsDateRow v ctx published = (.ok date, ctx)
  timeShown : ∀ ctx published, decode upsTimeRow v ctx published = (.ok time, ctx)

/-- The date and the time of a timestamp are published. -/
structure ClockPublished (v : ℚ) (data : UPSData) (date time : String) : Prop extends ClockShows v date time where
  dateHeld : data.find "ups.date" = some date
  timeHeld : data.find "ups.time" = some time

theorem okOrFail_eq_ok_iff {text : Option String} {t : String} : okOrFail text = .ok t ↔ text = some t := by
  cases text <;> simp [okOrFail]

theorem ClockPublished.texts {v : ℚ} {data : UPSData} {date time : String} (h : ClockPublished v data date time) :
    mgeClockText true v = some date ∧ mgeClockText false v = some time :=
  ⟨okOrFail_eq_ok_iff.mp (Prod.mk.inj (h.dateShown Context.initial none)).1,
    okOrFail_eq_ok_iff.mp (Prod.mk.inj (h.timeShown Context.initial none)).1⟩

theorem length_dateText_le {text : List Char} {year month day : Nat} (h : DateText text year month day) : text.length ≤ 10 := by
  obtain ⟨y, m, d, rfl, hy, hm, hd⟩ := h
  have hyear := hy.short
  have hmonth := hm.short
  have hday := hd.short
  simp only [List.length_append, List.length_cons]
  omega

theorem length_timeText_le {text : List Char} {hour minute second : Nat} (h : TimeText text hour minute second) :
    text.length ≤ 8 := by
  obtain ⟨hh, m, s, rfl, hhour, hminute, hsecond⟩ := h
  have hhours := hhour.short
  have hminutes := hminute.short
  have hseconds := hsecond.short
  simp only [List.length_append, List.length_cons]
  omega

theorem year_le {text : List Char} {year month day : Nat} (h : DateText text year month day) : year ≤ 9999 := by
  obtain ⟨y, m, d, -, hy, -, -⟩ := h
  have hless := hy.lt
  omega

/-- A new half is joined with the other one, when there is one and both are short. -/
theorem encodeMgeClock_eq {data : UPSData} (date : Bool) {val other : String}
    (hother : data.find (if date then "ups.time" else "ups.date") = some other) (hne : other ≠ "")
    (hshort : val.toList.length + other.toList.length < 63) :
    encodeMgeClock date val data = parseMgeDateTime
      (if date then val.toList ++ ' ' :: other.toList else other.toList ++ ' ' :: val.toList) := by
  have hget : data.get (if date then "ups.time" else "ups.date") "" = other := by
    unfold UPSData.get
    rw [hother, Option.getD_some]
  unfold encodeMgeClock
  dsimp only
  rw [hget, if_neg hne]
  cases date with
  | true =>
      have hjoined : (val ++ " " ++ other).toList = val.toList ++ ' ' :: other.toList := by
        rw [String.toList_append, String.toList_append, List.append_assoc]
        rfl
      simp only [if_true, hjoined]
      rw [if_neg]
      rw [List.length_append, List.length_cons]
      omega
  | false =>
      have hjoined : (other ++ " " ++ val).toList = other.toList ++ ' ' :: val.toList := by
        rw [String.toList_append, String.toList_append, List.append_assoc]
        rfl
      simp only [Bool.false_eq_true, if_false, hjoined]
      rw [if_neg]
      rw [List.length_append, List.length_cons]
      omega

theorem ne_empty_of_toList {text : String} (h : 0 < text.toList.length) : text ≠ "" := by
  rintro rfl
  exact absurd h (by decide)

variable {v : ℚ} {data : UPSData} {date time : String}

theorem clockShows_timegmUtc {year month day hour minute second : Nat} (hdate : RealDate year month day)
    (hyear : 1970 ≤ year ∧ year ≤ 9999) (htime : RealTime hour minute second) :
    ClockShows (timegmUtc year month day hour minute second : Int) (dateText year month day) (timeText hour minute second) := by
  obtain ⟨hdateText, htimeText⟩ := mgeClockText_timegmUtc hdate hyear htime
  constructor
  · intro ctx published
    exact congrArg (fun text => (okOrFail text, ctx)) hdateText
  · intro ctx published
    exact congrArg (fun text => (okOrFail text, ctx)) htimeText

/-- Setting the date changes the date shown and keeps the time. -/
theorem set_date (h : ClockPublished v data date time) {text : String} {year month day : Nat}
    (htext : DateText text.toList year month day) (hreal : RealDate year month day) (hyear : 1970 ≤ year) (ctx : Context) :
    ∃ w, encode upsDateRow text ctx data = some w ∧ ClockShows w (dateText year month day) time := by
  obtain ⟨hour, minute, second, hclock, rfl⟩ := exists_timeText h.texts.2
  have hlength := length_dateText_le htext
  have hlength' := length_timeText_le hclock.timeText
  have hne : timeText hour minute second ≠ "" := by
    apply ne_empty_of_toList
    rw [toList_timeText, List.length_append, List.length_cons]
    omega
  have hencode : encodeMgeClock true text data = some (timegmUtc year month day hour minute second) := by
    rw [encodeMgeClock_eq true h.timeHeld hne (by omega), if_pos rfl,
      parseMgeDateTime_join htext hreal hclock.timeText hclock, if_neg (by omega)]
  refine ⟨(timegmUtc year month day hour minute second : Int), ?_, clockShows_timegmUtc hreal ⟨hyear, year_le htext⟩ hclock⟩
  unfold encode upsDateRow
  simp only [hencode]
  rfl

/-- Setting the time changes the time shown and keeps the date, unless the date is one before the epoch, which refuses it. -/
theorem set_time (h : ClockPublished v data date time) {text : String} {hour minute second : Nat}
    (htext : TimeText text.toList hour minute second) (hclock : RealTime hour minute second) (ctx : Context) :
    (0 ≤ timestamp v → ∃ w, encode upsTimeRow text ctx data = some w ∧ ClockShows w date (timeText hour minute second))
      ∧ (timestamp v < 0 → encode upsTimeRow text ctx data = none) := by
  obtain ⟨hafter, hbefore⟩ := mgeClockText_date h.texts.1
  have hlength := length_timeText_le htext
  obtain ⟨-, -, -, -, -, hten⟩ := mgeClockText_date_eq h.texts.1
  have hne : date ≠ "" := ne_empty_of_toList (by omega)
  have hjoined : encodeMgeClock false text data = parseMgeDateTime (date.toList ++ ' ' :: text.toList) :=
    encodeMgeClock_eq false h.dateHeld hne (by omega)
  constructor
  · intro hfrom
    obtain ⟨year, month, day, hreal, hyear, hlast, rfl⟩ := hafter hfrom
    rw [parseMgeDateTime_join (hreal.dateText hlast) hreal htext hclock, if_neg (by omega)] at hjoined
    refine ⟨(timegmUtc year month day hour minute second : Int), ?_, clockShows_timegmUtc hreal ⟨hyear, hlast⟩ hclock⟩
    unfold encode upsTimeRow
    simp only [hjoined]
    rfl
  · intro hearly
    rw [hbefore hearly _ _ _ _ htext hclock] at hjoined
    unfold encode upsTimeRow
    simp only [hjoined]
    rfl

/-- A device whose clock is a second before the epoch. -/
def earlyClock : UPSData := (UPSData.empty.set "ups.date" "1969/12/31").set "ups.time" "23:59:59"

/-- The clock shows the last second of 1969, and no time of the day can be set. -/
theorem set_time_before_epoch :
    ClockPublished (-1) earlyClock "1969/12/31" "23:59:59" ∧ TimeText "00:00:00".toList 0 0 0 ∧ RealTime 0 0 0
      ∧ encode upsTimeRow "00:00:00" Context.initial earlyClock = none := by
  have htrunc : trunc (-1) = -1 := by exact_mod_cast trunc_intCast (-1)
  have hdate : mgeClockText true (-1) = some "1969/12/31" := by
    unfold mgeClockText
    rw [htrunc]
    decide
  have htime : mgeClockText false (-1) = some "23:59:59" := by
    unfold mgeClockText
    rw [htrunc]
    decide
  have hclock : RealTime 0 0 0 := ⟨by decide, by decide, by decide⟩
  have htext : TimeText "00:00:00".toList 0 0 0 := hclock.timeText
  refine ⟨⟨⟨fun ctx published => ?_, fun ctx published => ?_⟩, by decide, by decide⟩, htext, hclock, by decide⟩
  · exact congrArg (fun text => (okOrFail text, ctx)) hdate
  · exact congrArg (fun text => (okOrFail text, ctx)) htime

/-- A text that is set is read back: the lookups, the packed dates, the date of the clock, and its time unless the clock is before the epoch. -/
theorem set_reads_back :
    (∀ row ∈ writableLookupRows, ∀ entry ∈ row.lkp, ∀ ctx data, ∃ v, encode row entry.nut ctx data = some v
        ∧ ∀ ctx' published, decode row v ctx' published = (.ok entry.nut, ctx'))
      ∧ (∀ info : HidInfo, info.conv = .batteryDate → ∀ year month day, RealDate year month day → 1980 ≤ year ∧ year ≤ 2107 →
        ∀ ctx data, ∃ v, encode info (dateText year month day) ctx data = some v
          ∧ ∀ ctx' published, decode info v ctx' published = (.ok (dateText year month day), ctx'))
      ∧ ∀ v data date time, ClockPublished v data date time →
        (∀ (text : String) year month day, DateText text.toList year month day → RealDate year month day → 1970 ≤ year →
            ∀ ctx, ∃ w, encode upsDateRow text ctx data = some w ∧ ClockShows w (dateText year month day) time)
          ∧ ∀ (text : String) hour minute second, TimeText text.toList hour minute second → RealTime hour minute second → ∀ ctx,
            (0 ≤ timestamp v →
                ∃ w, encode upsTimeRow text ctx data = some w ∧ ClockShows w date (timeText hour minute second))
              ∧ (timestamp v < 0 → encode upsTimeRow text ctx data = none) := by
  refine ⟨fun row hrow entry hentry ctx data => ?_, fun info hconv year month day hreal hyear ctx data => ?_,
    fun v data date time h => ⟨fun text year month day htext hreal hyear ctx => ?_,
      fun text hour minute second htext hclock ctx => ?_⟩⟩
  · obtain ⟨hconv, hlkp⟩ := unambiguous_writableLookupRows row hrow
    exact decode_encode_lookup hconv hlkp hentry ctx data
  · exact decode_encode_batteryDate hconv hreal hyear ctx data
  · exact set_date h htext hreal hyear ctx
  · exact set_time h htext hclock ctx

end EspNut.NutTable
