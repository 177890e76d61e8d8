import EspNut.Hid.Nearest
import EspNut.Table.NumberTexts
import EspNut.Table.Resolution
import EspNut.Table.SetBack

/-!
# What a writable row shows

A row that is set sends the number of its text to a field, and shows the text of what the field took. A number row shows the nearest number the field counts to. A lookup or a date shows its own text when the field counts to its number.
-/

namespace EspNut.NutTable

open Lib Rounding HIDParser

/-! ### The rows -/

def numberRow (infoType : String) (infoLen : Nat) (hidpath : String) (hidflags : Nat) : HidInfo :=
  { infoType, infoFlags := stFlagRW ||| stFlagString, infoLen, hidpath := some hidpath, dfl := some "%.0f", hidflags,
    conv := .number, lkp := [] }

/-- The writable rows with a number of all tables: Eaton, APC, CyberPower, EcoFlow. -/
def writableNumberRows : List HidInfo :=
  [ numberRow "battery.charge.low" 5 "UPS.PowerSummary.0xFFFF004D" huFlagSemiStatic,
    numberRow "battery.charge.restart" 3 "UPS.PowerSummary.0xFFFF005F" huFlagSemiStatic,
    numberRow "battery.runtime.low" 10 "UPS.PowerSummary.RemainingTimeLimit" 0,
    numberRow "battery.energysave.load" 5 "UPS.PowerConverter.Input.[3].ConfigPercentLoad" huFlagSemiStatic,
    numberRow "battery.energysave.delay" 5 "UPS.PowerConverter.Input.[3].0xFFFF0046.0xFFFF005D" huFlagSemiStatic,
    numberRow "battery.energysave.delay" 5 "UPS.PowerConverter.Input.[3].0xFFFF005D" huFlagSemiStatic,
    numberRow "battery.energysave.realpower" 5 "UPS.PowerConverter.Input.[3].ConfigActivePower" huFlagSemiStatic,
    numberRow "ups.load.high" 5 "UPS.Flow.[4].ConfigPercentLoad" huFlagSemiStatic,
    numberRow "ups.test.interval" 8 "UPS.BatterySystem.Battery.0xFFFF0045" huFlagSemiStatic,
    numberRow "input.transfer.low" 5 "UPS.PowerConverter.Output.LowVoltageTransfer" huFlagSemiStatic,
    numberRow "input.transfer.eco.low" 5 "UPS.PowerConverter.Output.0xFFFF005A" huFlagSemiStatic,
    numberRow "input.transfer.bypass.low" 5 "UPS.PowerConverter.Output.0xFFFF0057" huFlagSemiStatic,
    numberRow "input.transfer.boost.low" 5 "UPS.PowerConverter.Output.0xFFFF0050" huFlagSemiStatic,
    numberRow "input.transfer.boost.high" 5 "UPS.PowerConverter.Output.0xFFFF0051" huFlagSemiStatic,
    numberRow "input.transfer.trim.low" 5 "UPS.PowerConverter.Output.0xFFFF0052" huFlagSemiStatic,
    numberRow "input.transfer.high" 5 "UPS.PowerConverter.Output.HighVoltageTransfer" huFlagSemiStatic,
    numberRow "input.transfer.eco.high" 5 "UPS.PowerConverter.Output.0xFFFF005B" huFlagSemiStatic,
    numberRow "input.transfer.bypass.high" 5 "UPS.PowerConverter.Output.0xFFFF0058" huFlagSemiStatic,
    numberRow "input.transfer.frequency.bypass.range" 5 "UPS.PowerConverter.Output.0xFFFF0059" huFlagSemiStatic,
    numberRow "input.transfer.frequency.eco.range" 5 "UPS.PowerConverter.Output.0xFFFF005C" huFlagSemiStatic,
    numberRow "input.transfer.hysteresis" 5 "UPS.PowerConverter.Output.0xFFFF009C" huFlagSemiStatic,
    numberRow "input.transfer.trim.high" 5 "UPS.PowerConverter.Output.0xFFFF0053" huFlagSemiStatic,
    numberRow "outlet.1.autoswitch.charge.low" 3 "UPS.OutletSystem.Outlet.[2].RemainingCapacityLimit" huFlagSemiStatic,
    numberRow "outlet.1.delay.shutdown" 5 "UPS.OutletSystem.Outlet.[2].0xFFFF005D" huFlagSemiStatic,
    numberRow "outlet.1.delay.start" 5 "UPS.OutletSystem.Outlet.[2].0xFFFF005E" huFlagSemiStatic,
    numberRow "outlet.2.autoswitch.charge.low" 3 "UPS.OutletSystem.Outlet.[3].RemainingCapacityLimit" huFlagSemiStatic,
    numberRow "outlet.2.delay.shutdown" 5 "UPS.OutletSystem.Outlet.[3].0xFFFF005D" huFlagSemiStatic,
    numberRow "outlet.2.delay.start" 5 "UPS.OutletSystem.Outlet.[3].0xFFFF005E" huFlagSemiStatic,
    numberRow "outlet.3.autoswitch.charge.low" 3 "UPS.OutletSystem.Outlet.[4].RemainingCapacityLimit" huFlagSemiStatic,
    numberRow "outlet.3.delay.shutdown" 5 "UPS.OutletSystem.Outlet.[4].0xFFFF005D" huFlagSemiStatic,
    numberRow "outlet.3.delay.start" 5 "UPS.OutletSystem.Outlet.[4].0xFFFF005E" huFlagSemiStatic,
    numberRow "battery.charge.low" 10 "UPS.PowerSummary.RemainingCapacityLimit" huFlagSemiStatic,
    numberRow "battery.runtime.low" 10 "UPS.Battery.RemainingTimeLimit" huFlagSemiStatic,
    numberRow "battery.runtime.low" 10 "UPS.PowerSummary.RemainingTimeLimit" huFlagSemiStatic,
    numberRow "input.transfer.low" 10 "UPS.Output.LowVoltageTransfer" huFlagSemiStatic,
    numberRow "input.transfer.high" 10 "UPS.Output.HighVoltageTransfer" huFlagSemiStatic,
    numberRow "input.transfer.low" 10 "UPS.Input.LowVoltageTransfer" huFlagSemiStatic,
    numberRow "input.transfer.high" 10 "UPS.Input.HighVoltageTransfer" huFlagSemiStatic,
    numberRow "battery.charge.low" 5 "UPS.PowerSummary.RemainingCapacityLimit" huFlagSemiStatic ]

/-- The writable row with a packed date, the same for APC and CyberPower. -/
def mfrDateRow : HidInfo :=
  { infoType := "battery.mfr.date", infoFlags := stFlagRW ||| stFlagString, infoLen := 10,
    hidpath := some "UPS.Battery.ManufacturerDate", dfl := some "%s", hidflags := huFlagSemiStatic, conv := .batteryDate,
    lkp := [] }

def writableRows : List HidInfo := writableNumberRows ++ writableLookupRows ++ [mfrDateRow]

/-- The row has a number, a lookup or a packed date that a SET VAR sends to the device. -/
def isSetOnDevice (info : HidInfo) : Bool :=
  hasFlag info.infoFlags stFlagRW && !hasFlag info.hidflags huFlagAbsent
    && (decide (info.conv = .number) || decide (info.conv = .lookup) || decide (info.conv = .batteryDate))

/-- The tables send to the device what the writable rows take. -/
def SetsWritableRows (rows : List HidInfo) : Prop := ∀ info ∈ rows, isSetOnDevice info = true → info ∈ writableRows

instance (rows : List HidInfo) : Decidable (SetsWritableRows rows) :=
  inferInstanceAs (Decidable (∀ info ∈ _, _ → _))

/-- A published row whose text is read back the way it was written. -/
structure Writable (info : HidInfo) : Prop where
  published : isPublishedRow info = true
  kept : hasFlag info.hidflags huFlagAbsent = false
  conv : info.conv = .number ∨ info.conv = .lookup ∨ info.conv = .batteryDate
  number : info.conv = .number → info.dfl = some "%.0f"
  lookup : info.conv = .lookup → Unambiguous info.lkp ∧ ∀ entry ∈ info.lkp, 0 ≤ entry.hid

instance (info : HidInfo) : Decidable (Writable info) :=
  decidable_of_iff
    (isPublishedRow info = true ∧ hasFlag info.hidflags huFlagAbsent = false
      ∧ (info.conv = .number ∨ info.conv = .lookup ∨ info.conv = .batteryDate)
      ∧ (info.conv = .number → info.dfl = some "%.0f")
      ∧ (info.conv = .lookup → Unambiguous info.lkp ∧ ∀ entry ∈ info.lkp, 0 ≤ entry.hid))
    ⟨fun h => ⟨h.1, h.2.1, h.2.2.1, h.2.2.2.1, h.2.2.2.2⟩, fun h => ⟨h.published, h.kept, h.conv, h.number, h.lookup⟩⟩

theorem writable_of_mem : ∀ row ∈ writableRows, Writable row := by decide

variable {info : HidInfo} {u : HIDUsageDef} {value : String} {x : ℚ} {raw : Int}

/-! ### What is shown -/

/-- What is published of a text that was set: the nearest number the field counts to, within 32 bits, or the text itself when the field counts to its number. -/
structure TakesEffect (info : HidInfo) (u : HIDUsageDef) (value : String) (published : Option String) : Prop where
  number : info.conv = .number → ∃ n w : Int, parseTruncatedNumber value = some n ∧ IsNearest (10 ^ unitExpo u) n w
    ∧ published = some (toString (Decimal.saturate (-2 ^ 31) (2 ^ 31 - 1) w))
  text : info.conv = .lookup ∨ info.conv = .batteryDate → ∀ ctx data x, encode info value ctx data = some x →
    IsMultiple (10 ^ unitExpo u) x → published = some value

theorem convert_number (hconv : info.conv = .number) (hformat : info.dfl = some "%.0f") (v : ℚ) (ctx : Context)
    (published : Option UPSData) : convert info v ctx published = (.ok (toString (lrint v)), ctx) := by
  unfold convert decode
  simp [hconv, formatNumber, hformat, formatRounded, okOrFail]

theorem convert_lookup (hconv : info.conv = .lookup) (v : ℚ) (ctx : Context) (published : Option UPSData) :
    convert info v ctx published = decode info v ctx published := by
  have hdecode : decode info v ctx published = (okOrFail (staticText info v ctx), ctx) := by
    unfold decode
    rw [hconv]
  unfold convert
  rw [if_pos (Or.inl hconv), hdecode]
  cases staticText info v ctx with
  | none => rfl
  | some text => rfl

/-- A lookup and a packed date look at the value as a `long`. -/
theorem decode_of_toLong (hconv : info.conv = .lookup ∨ info.conv = .batteryDate) {v v' : ℚ} (hlong : toLong v = toLong v')
    (ctx : Context) (published : Option UPSData) : decode info v ctx published = decode info v' ctx published := by
  unfold decode staticText lookupText
  rcases hconv with hconv | hconv
  · simp only [hconv, hlong]
  · simp only [hconv, hlong]

theorem encode_of_text (hconv : info.conv = .lookup ∨ info.conv = .batteryDate) (ctx ctx' : Context) (data data' : UPSData) :
    encode info value ctx data = encode info value ctx' data' := by
  unfold encode
  rcases hconv with hconv | hconv
  · simp only [hconv]
  · simp only [hconv]

theorem decode_encode_text (hrow : Writable info) (hconv : info.conv = .lookup ∨ info.conv = .batteryDate) {ctx : Context}
    {data : UPSData} (hencode : encode info value ctx data = some x) :
    ∃ n : Int, x = n ∧ 0 ≤ n ∧ n ≤ 2 ^ 31 - 1 ∧ ∀ ctx' published, decode info n ctx' published = (.ok value, ctx') := by
  rcases hconv with hconv | hconv
  · have hfound : (info.lkp.find? fun entry => entry.nut = value).map (fun entry => (entry.hid : ℚ)) = some x := by
      unfold encode at hencode
      simpa only [hconv] using hencode
    obtain ⟨entry, hentry, rfl⟩ := Option.map_eq_some_iff.mp hfound
    have hmem := List.mem_of_find?_eq_some hentry
    have hnut : entry.nut = value := by simpa using List.find?_some hentry
    obtain ⟨hlkp, hfrom⟩ := hrow.lookup hconv
    obtain ⟨v, hv, hread⟩ := decode_encode_lookup hconv hlkp hmem ctx data
    rw [hnut] at hv hread
    obtain rfl := Option.some.inj (hencode.symm.trans hv)
    exact ⟨entry.hid, rfl, hfrom entry hmem, (hlkp.range entry hmem).2, hread⟩
  · have hpacks : (encodeBatteryDate value.toList).map (fun v : Int => (v : ℚ)) = some x := by
      rw [← hencode]
      unfold encode
      simp only [hconv]
      cases encodeBatteryDate value.toList <;> rfl
    obtain ⟨v, hv, rfl⟩ := Option.map_eq_some_iff.mp hpacks
    obtain ⟨year, month, day, hdate, rfl, rfl⟩ := encodeBatteryDate_eq_some_iff.mp hv
    obtain ⟨hpos, hless⟩ := hdate.range
    refine ⟨packed year month day, rfl, hpos.le, by omega, fun ctx' published => ?_⟩
    have hlong : toLong (packed year month day : Int) = packed year month day := toLong_intCast (by omega)
    unfold decode
    simp only [hconv, hlong, batteryDateText_packed hdate]

section Written

variable (hrow : Writable info) (hsize : 1 ≤ u.bitSize ∧ u.bitSize ≤ 32) {ctx : Context} {data : UPSData}
  (hencode : encode info value ctx data = some x) (hraw : toLogical u x = some raw)
include hrow hsize hencode hraw

theorem shows_number (hconv : info.conv = .number) :
    ∃ text, TakesEffect info u value (some text)
      ∧ ∀ ctx' published, convert info (scale raw (unitExpo u)) ctx' published = (.ok text, ctx') := by
  have hparsed : (parseTruncatedNumber value).map (fun n : Int => (n : ℚ)) = some x := by
    rw [← hencode]
    unfold encode
    simp only [hconv]
    cases parseTruncatedNumber value <;> rfl
  obtain ⟨n, hn, rfl⟩ := Option.map_eq_some_iff.mp hparsed
  obtain ⟨-, -, -, hlow, hhigh⟩ := (parseTruncatedNumber_eq_some_iff value n).mp hn
  obtain ⟨w, hnearest, hread, -⟩ := read_of_toLogical hsize ⟨hlow, by omega⟩ hraw
  refine ⟨toString (Decimal.saturate (-2 ^ 31) (2 ^ 31 - 1) w), ⟨fun _ => ⟨n, w, hn, hnearest, rfl⟩, fun htext => ?_⟩,
    fun ctx' published => ?_⟩
  · rw [hconv] at htext
    rcases htext with hlookup | hdate
    · cases hlookup
    · cases hdate
  · rw [convert_number hconv (hrow.number hconv), lrint, hread]

/-- A lookup and a date show their text again, when the field counts to the number of it. -/
theorem shows_text (hconv : info.conv = .lookup ∨ info.conv = .batteryDate) (hcounts : IsMultiple (10 ^ unitExpo u) x)
    (ctx' : Context) (published : Option UPSData) :
    convert info (scale raw (unitExpo u)) ctx' published = (.ok value, ctx') := by
  obtain ⟨n, rfl, hfrom, hto, hread⟩ := decode_encode_text hrow hconv hencode
  obtain ⟨w, hnearest, -, htrunc⟩ := read_of_toLogical hsize (by omega) hraw
  have hkept : w = n := by exact_mod_cast hnearest.eq (zpow_pos (by norm_num) _) hcounts
  have hlong : toLong (scale raw (unitExpo u)) = toLong (n : ℚ) := by
    unfold toLong
    rw [htrunc hfrom, hkept, trunc_intCast]
  have hdecode : convert info (scale raw (unitExpo u)) ctx' published
      = decode info (scale raw (unitExpo u)) ctx' published := by
    rcases hconv with hconv | hconv
    · exact convert_lookup hconv _ ctx' published
    · unfold convert
      rw [if_neg (by simp [hconv])]
  rw [hdecode, decode_of_toLong hconv hlong, hread]

/-- What a row shows after it took what the field holds, if it takes a text at all. -/
theorem takesEffect_of_shown {published : Option String}
    (hshown : ∀ text, (∀ ctx' data', convert info (scale raw (unitExpo u)) ctx' data' = (.ok text, ctx')) →
      published = some text) : TakesEffect info u value published := by
  constructor
  · intro hconv
    obtain ⟨text, heffect, hconvert⟩ := shows_number hrow hsize hencode hraw hconv
    rw [hshown text hconvert]
    exact heffect.number hconv
  · intro hconv ctx₀ data₀ x₀ hencode₀ hcounts
    rw [encode_of_text hconv ctx₀ ctx data₀ data, hencode] at hencode₀
    obtain rfl := Option.some.inj hencode₀
    exact hshown value (shows_text hrow hsize hencode hraw hconv hcounts)

end Written

end EspNut.NutTable
