import EspNut.Table.Context

/-!
# From HID values to NUT texts

`decode` is the conversion of a published row. A deferred value waits for its inputs, a cleared one removes the variable; a failed first value drops the row.
-/

namespace EspNut.NutTable

open Lib Rounding

inductive Decoded where
  | ok (text : String)
  | fail
  | defer
  | clear
  deriving DecidableEq

/-! ### Texts -/

/-- What fits the 32 bytes of the conversion buffer. -/
def buf32 (text : String) : String := String.ofList (text.toList.take 31)

/-- `%0<width>ld`: a minus counts for the width. -/
def formatPadded (width : Nat) (n : Int) : String :=
  String.ofList
    (if n < 0 then '-' :: padded (width - 1) n.natAbs else padded width n.natAbs)

def formatRounded (v : ℚ) : String := toString (lrint v)

/-- The format of a number row; other formats fail. -/
def formatNumber (fmt : Option String) (v : ℚ) : Option String :=
  if fmt = none ∨ fmt = some "%.0f" then some (formatRounded v)
  else if fmt = some "%.1f" then some (buf32 (formatFixed 1 v))
  else if fmt = some "%.2f" then some (buf32 (formatFixed 2 v))
  else if fmt = some "%.3f" then some (buf32 (formatFixed 3 v))
  else none

/-- A published value as a number, 0 when it is missing. -/
def publishedNumber (data : Option UPSData) (key : String) : ℚ :=
  match data.bind (·.find key) with
  | none => 0
  | some text => strtod text.toList

def abmStatusText (value : Int) (ctx : Context) : Option String :=
  if ctx.abm ≠ abmEnabled ∨ value < 1 ∨ 6 < value then none
  else if ctx.abmPath = abmPathStatus then
    [none, some "charging", some "floating", some "resting", some "discharging", none,
      some "off"].getD value.toNat none
  else
    [none, some "charging", some "discharging", some "floating", some "resting", none,
      some "off"].getD value.toNat none

/-- The conversions that pick their text from a static table. -/
def staticText (info : HidInfo) (v : ℚ) (ctx : Context) : Option String :=
  match info.conv with
  | .lookup => lookupText info.lkp v
  | .abmStatus => abmStatusText (toLong v) ctx
  | _ => none

/-! ### CyberPower -/

def kCpsBatteryVoltageSanityCheck : ℚ := toDouble (14 / 10)

/-- The factor that brings a reported frequency inside its range, none when neither 1 nor 0.1 does; 0 stands for unknown numbers. -/
def cpsFrequencyScale (report nominal low high : ℚ) : Option ℚ :=
  let nominal : ℚ :=
    if nominal ≠ 0 then nominal
    else if 45 < low ∧ low ≤ 50 then 50
    else if 50 ≤ high ∧ high ≤ 55 then 50
    else if 45 < report ∧ report ≤ 55 then 50
    else if 450 < report ∧ report ≤ 550 then 50
    else if 55 < low ∧ low ≤ 60 then 60
    else if 60 ≤ high ∧ high ≤ 65 then 60
    else if 55 < report ∧ report ≤ 65 then 60
    else if 550 < report ∧ report ≤ 650 then 60
    else 0
  let low : ℚ :=
    if low ≠ 0 then low else if nominal = 0 then 45 else toDouble (nominal * toDouble (95 / 100))
  let high : ℚ :=
    if high ≠ 0 then high else if nominal = 0 then 65 else toDouble (nominal * toDouble (105 / 100))
  let tenth := toDouble (report / 10)
  if low ≤ report ∧ report ≤ high then some 1
  else if low ≤ tenth ∧ tenth ≤ high then some (toDouble (1 / 10))
  else none

def decodeCpsBattVolt (v : ℚ) (ctx : Context) (data : Option UPSData) : Decoded × Context :=
  let nominal := publishedNumber data "battery.voltage.nominal"
  let ctx :=
    if ctx.cps.mightNeedScale ∧ ctx.cps.batteryChecked = false ∧ nominal ≠ 0 then
      { ctx with cps :=
          { ctx.cps with
            battery :=
              if kCpsBatteryVoltageSanityCheck < toDouble (v / nominal) then toDouble (2 / 3)
              else ctx.cps.battery
            batteryChecked := true } }
    else ctx
  (.ok (buf32 (formatFixed 1 (toDouble (ctx.cps.battery * v)))), ctx)

def decodeCpsInputFreq (v : ℚ) (ctx : Context) (data : Option UPSData) : Decoded × Context :=
  let scale :=
    if ctx.cps.mightNeedScale ∧ ctx.cps.inputChecked = false then
      cpsFrequencyScale v (publishedNumber data "input.frequency.nominal")
        (publishedNumber data "input.frequency.low") (publishedNumber data "input.frequency.high")
    else none
  let ctx := match scale with
    | some s => { ctx with cps := { ctx.cps with inputFreq := s, inputChecked := true } }
    | none => ctx
  (.ok (buf32 (formatFixed 1 (toDouble (ctx.cps.inputFreq * v)))), ctx)

def decodeCpsOutputFreq (v : ℚ) (ctx : Context) (data : Option UPSData) : Decoded × Context :=
  let scale :=
    if ctx.cps.mightNeedScale ∧ ctx.cps.outputChecked = false then
      cpsFrequencyScale v (publishedNumber data "output.frequency.nominal")
        (publishedNumber data "output.frequency.low") (publishedNumber data "output.frequency.high")
    else none
  let ctx := match scale with
    | some s => { ctx with cps := { ctx.cps with outputFreq := s, outputChecked := true } }
    | none => ctx
  (.ok (buf32 (formatFixed 1 (toDouble (ctx.cps.outputFreq * v)))), ctx)

/-! ### openUPS -/

/-- The thermistor readings at -40, -35 … 125 °C. -/
def kOpenupsThermTbl : List Nat :=
  [ 0x31, 0x40, 0x53, 0x68, 0x82, 0xA0, 0xC3, 0xE9, 0x113, 0x13F, 0x16E, 0x19F,
    0x1CF, 0x200, 0x22F, 0x25C, 0x286, 0x2AE, 0x2D3, 0x2F4, 0x312, 0x32D, 0x345,
    0x35A, 0x36D, 0x37E, 0x38C, 0x399, 0x3A5, 0x3AF, 0x3B7, 0x3BF, 0x3C6, 0x3CC ]

/-- The last point of the table that a reading reaches. -/
def thermistorPosition (thermistor : Nat) : Nat :=
  ((List.range kOpenupsThermTbl.length).reverse.find? fun i =>
    kOpenupsThermTbl.getD i 0 ≤ thermistor).getD 0

def openupsTemperature (value : ℚ) : String :=
  let thermistor := toUnsigned (toDouble (value * 100))
  if thermistor ≤ 0x31 then "-40"
  else if 0x3CC ≤ thermistor then "125"
  else
    let pos := thermistorPosition thermistor
    let t1 : Int := (pos : Int) * 5 - 40
    let t2 : Int := ((pos : Int) + 1) * 5 - 40
    let d1 := kOpenupsThermTbl.getD pos 0
    let d2 := kOpenupsThermTbl.getD (pos + 1) 0
    if thermistor = d1 then toString t1
    else
      let step := toDouble (toDouble ((thermistor - d1 : Nat) * (t2 - t1 : Int)) / (d2 - d1 : Nat))
      buf32 (formatFixed 2 (toDouble (step + t1)))

/-! ### Dates -/

/-- The text of a date packed by the battery system: years from 1980, month and day. -/
def batteryDateText (value : Int) : String :=
  if value = 0 then "not set"
  else buf32 (formatPadded 4 (1980 + value / 512) ++ "/" ++ formatPadded 2 (value / 32 % 16)
    ++ "/" ++ formatPadded 2 (value % 32))

def nibble (v : ℚ) (k : Nat) : Nat := (longBits v).toNat / 16 ^ k % 16

/-- BCD 0xMMDDYY. -/
def apcDateText (v : ℚ) : String :=
  if toLong v = 0 then "not set"
  else
    let year := nibble v 0 + 10 * nibble v 1
    let month := nibble v 4 + 10 * nibble v 5
    let day := nibble v 2 + 10 * nibble v 3
    let year := year + if 70 ≤ year then 1900 else 2000
    buf32 (formatPadded 4 year ++ "/" ++ formatPadded 2 month ++ "/" ++ formatPadded 2 day)

/-- `gmtime` of days since the epoch: year, month and day of the Gregorian calendar. -/
def civilFromDays (days : Int) : Int × Nat × Nat :=
  let z := days + 719468
  let era := z / 146097
  let doe := z % 146097
  let yoe := (doe - doe / 1460 + doe / 36524 - doe / 146096) / 365
  let doy := doe - (365 * yoe + yoe / 4 - yoe / 100)
  let mp := (5 * doy + 2) / 153
  let day := doy - (153 * mp + 2) / 5 + 1
  let month := if mp < 10 then mp + 3 else mp - 9
  (yoe + era * 400 + (if month ≤ 2 then 1 else 0), month.toNat, day.toNat)

/-- `gmtime` and `strftime`: a year outside `int` is refused, and so is a text of another length. -/
def mgeClockText (date : Bool) (v : ℚ) : Option String :=
  let sec := Decimal.saturate (-2 ^ 63) (2 ^ 63 - 1) (trunc v)
  let (year, month, day) := civilFromDays (sec / 86400)
  let second := sec % 86400
  if year < -2 ^ 31 + 1900 ∨ 2 ^ 31 - 1 + 1900 < year then none
  else if date then
    let text := toString year ++ "/" ++ formatPadded 2 month ++ "/" ++ formatPadded 2 day
    if text.toList.length = 10 then some text else none
  else
    some (formatPadded 2 (second / 3600) ++ ":" ++ formatPadded 2 (second / 60 % 60) ++ ":"
      ++ formatPadded 2 (second % 60))

/-! ### The conversion -/

def okFixed (digits : Nat) (v : ℚ) : Decoded := .ok (buf32 (formatFixed digits v))

/-- The power estimated from the load and the nominal apparent power, once both are published. -/
def computeRealpower (data : Option UPSData) : Decoded :=
  match data with
  | none => .defer
  | some d =>
      match d.find "ups.load", d.find "ups.power.nominal" with
      | some load, some nominal =>
          let pf := match d.find "output.powerfactor" with
            | some text => toFloat (strtod text.toList)
            | none => toFloat (8 / 10)
          let scaledLoad := toDouble (Decimal.atol load.toList * toDouble (1 / 100))
          let apparent := toDouble (scaledLoad * Decimal.atol nominal.toList)
          .ok (toString (lround (toDouble (apparent * pf))))
      | _, _ => .defer

/-- The battery voltage, reported in the power summary by some series only. -/
def mgeBatteryVoltage (nominal : Bool) (v : ℚ) (ctx : Context) : Decoded :=
  if ctx.ready = false then .defer
  else
    let family := ctx.mgeType &&& 0xFF00
    if family = mgeEvolution then
      let v := if nominal = true ∧ ctx.mgeType = mgeEvolution650 then 12 else v
      okFixed (if nominal then 0 else 1) v
    else if family = mgePulsarM ∨ family = eaton5P ∨ family = eaton9E then
      okFixed (if nominal then 0 else 1) v
    else .fail

def decodeNominalVoltage (v : ℚ) (ctx : Context) : Decoded × Context :=
  if ctx.ready = false then (.defer, ctx)
  else
    let (valid, ctx) := nominalVoltageValid (toLong v) ctx
    (if valid then .ok (formatRounded v) else .fail, ctx)

def decodePegasus (text : String) (ctx : Context) : Decoded :=
  if ctx.ready = false then .defer else if pegasusValid ctx then .ok text else .fail

def okOrFail : Option String → Decoded
  | some text => .ok text
  | none => .fail

def decode (info : HidInfo) (v : ℚ) (ctx : Context) (data : Option UPSData) : Decoded × Context :=
  match info.conv with
  | .number => (okOrFail (formatNumber info.dfl v), ctx)
  | .stringId => (if 1 ≤ v ∧ v ≤ 255 then .defer else .fail, ctx)
  | .kelvinCelsius =>
      (okFixed 1 (if 273 ≤ v ∧ v ≤ 373 then toDouble (v - toDouble (27315 / 100)) else v), ctx)
  | .mgePowerFactor => (okFixed 2 (toDouble (v / 100)), ctx)
  | .eatonComputeRealpower => (computeRealpower data, ctx)
  | .cpsBattCharge => (okFixed 0 (if v < 100 then v else 100), ctx)
  | .cpsBattStatus => (.ok (buf32 (formatFixed 0 v ++ "%")), ctx)
  | .cpsBattVolt => decodeCpsBattVolt v ctx data
  | .cpsInputFreq => decodeCpsInputFreq v ctx data
  | .cpsOutputFreq => decodeCpsOutputFreq v ctx data
  | .apcDate => (.ok (apcDateText v), ctx)
  | .powercomHackVoltage =>
      (.ok (if ctx.powercomBatteryVoltage = "" then "0.0" else ctx.powercomBatteryVoltage), ctx)
  | .powercomVoltage => (okFixed 0 (toDouble (v * 4)), ctx)
  | .powercomStartup =>
      let i := (longBits v).toNat % 65536
      (.ok (toString (60 * ((i % 256) * 256 + i / 256))), ctx)
  | .powercomShutdown =>
      let i := (longBits v).toNat % 65536
      (.ok (toString (60 * (i / 256) + i % 256)), ctx)
  | .ecoflowRuntime => (if v < 0 then .fail else okFixed 0 (toDouble (v * 60)), ctx)
  | .openupsVin => (okFixed 2 (toDouble (v * ctx.openups.vin)), ctx)
  | .openupsVout => (okFixed 2 (toDouble (v * ctx.openups.vout)), ctx)
  | .openupsCcharge => (okFixed 3 (toDouble (v * ctx.openups.ccharge)), ctx)
  | .openupsCdischarge => (okFixed 3 (toDouble (v * ctx.openups.cdischarge)), ctx)
  | .openupsTemperature => (.ok (openupsTemperature v), ctx)
  | .mgeBatteryCapacity => (okFixed 2 (toDouble (v / 3600)), ctx)
  | .mgeBatteryVoltage => (mgeBatteryVoltage false v ctx, ctx)
  | .mgeBatteryVoltageNominal => (mgeBatteryVoltage true v ctx, ctx)
  | .abmStatus =>
      -- the user switched the battery monitoring off
      if ctx.abm ≠ abmEnabled then (.clear, ctx)
      else match staticText info v ctx with
        | some text => (.ok text, ctx)
        | none => (.defer, ctx)
  | .lookup => (okOrFail (staticText info v ctx), ctx)
  | .batteryDate => (.ok (batteryDateText (toLong v)), ctx)
  | .mgeDate => (okOrFail (mgeClockText true v), ctx)
  | .mgeTime => (okOrFail (mgeClockText false v), ctx)
  | .nominalVoltage => decodeNominalVoltage v ctx
  | .pegasusThreshold => (decodePegasus (formatRounded v) ctx, ctx)
  | .pegasusYesNo => (decodePegasus (if v = 0 then "no" else "yes") ctx, ctx)
  | .mgeCountry | .abmEnabled | .abmPathMode | .abmPathStatus | .abmChrgDischrg
  | .eatonDischarging | .eatonCharging | .eatonConverterOnline | .powercomUpsfail
  | .powercomReplacebatt | .powercomTest | .powercomShutdownimm | .powercomOnline
  | .powercomLowbatt | .powercomTrim | .powercomBoost | .powercomOverload | .openupsCharging
  | .openupsDischarging | .openupsOnline | .openupsOff =>
      -- internal rows and status functions: `applyInternal` and `statusToken`
      (.defer, ctx)

/-- The estimate of the power waits or succeeds; it never fails nor removes its variable. -/
theorem decode_eatonComputeRealpower {info : HidInfo} (h : info.conv = .eatonComputeRealpower) (v : ℚ)
    (ctx : Context) (data : Option UPSData) :
    decode info v ctx data = (.defer, ctx) ∨ ∃ text, decode info v ctx data = (.ok text, ctx) := by
  have hdecode : decode info v ctx data = (computeRealpower data, ctx) := by simp [decode, h]
  rw [hdecode]
  unfold computeRealpower
  split
  · exact Or.inl rfl
  · split
    · exact Or.inr ⟨_, rfl⟩
    · exact Or.inl rfl

end EspNut.NutTable
