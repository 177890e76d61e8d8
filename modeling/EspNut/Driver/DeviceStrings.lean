import EspNut.Driver.Generic
import EspNut.Host.DriverSide
import EspNut.Lib.Plain

/-!
# The texts of a device

The strings of a device reach its data by two ways: the ones the USB library read, through `toAscii`, and the ones the poll asks for, through `decodeStringDescriptor`. The brands then put them in shape. What else the host and the brands write beside the rows is here too.
-/

namespace EspNut

open Lib Rounding NutTable

/-- The drivers of the registry. -/
inductive Brand where
  | generic | eaton | apc | cyberPower | powercom | ecoFlow | openUPS | legrand | liebert
  deriving DecidableEq

/-! ### Strings of the USB library -/

/-- A code unit of a string, as wide as `wchar_t`. -/
abbrev CodeUnit := BitVec 32

namespace DeviceStrings

/-- The byte of a unit; what is outside ASCII keeps its place. -/
def asciiByte (invert : Bool) (unit : BitVec 16) : Byte :=
  if invert && unit >>> 8 = 0xFF#16 then ~~~(unit.setWidth 8)
  else if unit < 0x80#16 then unit.setWidth 8
  else 0x3F#8

/-- The characters up to the first zero, while there is room; control characters are left out. -/
def asciiChars (invert : Bool) : Nat → List CodeUnit → List Char
  | _, [] => []
  | room, unit :: rest =>
      if unit = 0 ∨ room = 0 then []
      else
        let c := asciiByte invert (unit.setWidth 16)
        if c < 0x20#8 ∨ 0x7F#8 ≤ c then asciiChars invert room rest
        else Char.ofNat c.toNat :: asciiChars invert (room - 1) rest

/-- The first unit tells inverted strings, else the quirk of the device does. -/
def isInverted (invert : Bool) (src : List CodeUnit) : Bool :=
  match src with
  | [] => invert
  | first :: _ =>
      let first := first.setWidth 16
      if first >>> 8 = 0xFF#16 then true
      else if first ≠ 0#16 ∧ first >>> 8 = 0#16 then false
      else invert

/-- The text without the blanks that pad it. -/
def toAscii (src : List CodeUnit) (maxUnits : Nat) (invert : Bool) (dstSize : Nat) : String :=
  if dstSize = 0 ∨ maxUnits = 0 then ""
  else
    let chars := asciiChars (isInverted invert src) (dstSize - 1) (src.take maxUnits)
    String.ofList (chars.reverse.dropWhile (· = ' ')).reverse

end DeviceStrings

/-- The strings of a device as the USB library read them. -/
structure DeviceInfo where
  iManufacturer : List CodeUnit
  iProduct : List CodeUnit
  iSerialNumber : List CodeUnit

def hidStrDescMaxLength : Nat := 64

def populateStringsFromDeviceInfo (info : DeviceInfo) (invert : Bool) (data : UPSData) : UPSData :=
  let text (units : List CodeUnit) : String :=
    DeviceStrings.toAscii units hidStrDescMaxLength invert (hidStrDescMaxLength + 1)
  let data := if text info.iManufacturer = "" then data else data.set "ups.mfr" (text info.iManufacturer)
  let data := if text info.iProduct = "" then data else data.set "ups.model" (text info.iProduct)
  if text info.iSerialNumber = "" ∨ text info.iSerialNumber = "Blank" then data
  else data.set "ups.serial" (text info.iSerialNumber)

namespace GenericDriver

/-! ### Strings of the poll -/

/-- Every other element, from the first. -/
def everyOther {α : Type} : List α → List α
  | a :: _ :: rest => a :: everyOther rest
  | rest => rest

def isDescriptorInverted (invert : Bool) (bytes : List Byte) : Bool :=
  if 4 ≤ (bytes.headD 0).toNat ∧ 4 ≤ bytes.length then
    if bytes.getD 3 0 = 0xFF#8 then true else if bytes.getD 3 0 = 0#8 then false else invert
  else invert

/-- The characters of a descriptor, one for each unit whose low byte is not zero. -/
def descriptorChars (invert : Bool) (bytes : List Byte) : List Char :=
  let low := (everyOther ((bytes.take (bytes.headD 0).toNat).drop 2)).filter (· ≠ 0#8)
  low.map fun byte => Char.ofNat (if isDescriptorInverted invert bytes then ~~~byte else byte).toNat

def isLineEnd (c : Char) : Bool := c = '\n' || c = '\r'

/-- The text of a descriptor, without the line ends at its end. -/
def decodeStringDescriptor (invert : Bool) (bytes : List Byte) : String :=
  String.ofList ((descriptorChars invert bytes).reverse.dropWhile isLineEnd).reverse

def isStringDescriptor (bytes : List Byte) : Bool := decide (2 ≤ bytes.length) && bytes.getD 1 0 = 0x03#8

/-! ### Other values of the host and the brands -/

def driverName : Brand → String
  | .generic => "GenericDriver"
  | .eaton => "EatonDriver"
  | .apc => "APCDriver"
  | .cyberPower => "CyberPowerDriver"
  | .powercom => "PowercomDriver"
  | .ecoFlow => "EcoFlowDriver"
  | .openUPS => "OpenUPSDriver"
  | .legrand => "LegrandDriver"
  | .liebert => "LiebertDriver"

/-- The text before the first place of the mark, and the text after the mark. -/
def cutAt (mark : List Char) : List Char → Option (List Char × List Char)
  | [] => if mark = [] then some ([], []) else none
  | c :: rest =>
      if mark.isPrefixOf (c :: rest) then some ([], (c :: rest).drop mark.length)
      else (cutAt mark rest).map fun cut => (c :: cut.1, cut.2)

/-- Model, firmware and the firmware of the USB part; the character before each mark is dropped. -/
def splitProduct (product : String) : Option (String × String × String) :=
  match cutAt "FW:".toList product.toList with
  | none => none
  | some (model, rest) =>
      let trimmed (text : List Char) : String := Text.trim (String.ofList text)
      match cutAt "USB FW:".toList rest with
      | none => some (trimmed model.dropLast, trimmed rest, "")
      | some (firmware, aux) => some (trimmed model.dropLast, trimmed firmware.dropLast, trimmed aux)

def setUnlessEmpty (key text : String) (data : UPSData) : UPSData := if text = "" then data else data.set key text

/-- The manufacturer of a device without one, or with an empty one. -/
def setMissingMfr (mfr : String) (data : UPSData) : UPSData :=
  if data.get "ups.mfr" "" = "" then data.set "ups.mfr" mfr else data

def formatDeviceStrings (brand : Brand) (data : UPSData) : UPSData :=
  match brand with
  | .apc =>
      match splitProduct (data.get "ups.model" "") with
      | none => data
      | some (model, firmware, aux) =>
          setUnlessEmpty "ups.firmware.aux" aux (setUnlessEmpty "ups.firmware" firmware
            (setUnlessEmpty "ups.model" model data))
  | .ecoFlow => setMissingMfr "EcoFlow" data
  | .legrand => setMissingMfr "Legrand" data
  | .liebert => setMissingMfr "Liebert" data
  | .openUPS => setMissingMfr "openUPS" data
  | .powercom => if data.hasKey "ups.mfr" then data else data.set "ups.mfr" "PowerCOM"
  | .generic | .eaton | .cyberPower => data

def beeperText (brand : Brand) (v : ℚ) (bitSize : Nat) : Option String :=
  if bitSize = 1 then some (if v ≠ 0 then "enabled" else "disabled")
  else if brand = .legrand then
    if v = 2 then some "enabled" else if v = 1 ∨ v = 3 then some "disabled" else none
  else if v = 1 then some "disabled" else if v = 2 then some "enabled" else if v = 3 then some "muted" else none

def decodeBeeperStatus (brand : Brand) (v : ℚ) (bitSize : Nat) (data : UPSData) : UPSData :=
  match beeperText brand v bitSize with
  | none => data
  | some status => if data.valueEquals "ups.beeper.status" status then data else data.set "ups.beeper.status" status

/-- The nominal power in the name of an openUPS model, behind its first W, or 150 W. -/
def openupsNominal (data : UPSData) : Int :=
  let named := match cutAt ['W'] (data.get "ups.model" "").toList with
    | none => 0
    | some (_, rest) => Decimal.atol rest
  if named ≤ 0 then 150 else named

/-- The load of an openUPS out of its output, in percent of the nominal power. -/
def openupsLoad (data : UPSData) : Int :=
  let power := toFloat (data.getFloat "output.voltage" 0 * data.getFloat "output.current" 0)
  let loadPct := toDouble (toDouble (power / openupsNominal data) * 100)
  lround (if 100 < loadPct then 100 else if loadPct < 0 then 0 else loadPct)

def setChanged (key value : String) (data : UPSData) : UPSData :=
  if data.valueEquals key value then data else data.set key value

def publishOpenupsLoad (data : UPSData) : UPSData :=
  if data.hasKey "output.voltage" = false ∨ data.hasKey "output.current" = false then data
  else
    let nominal := toString (openupsNominal data)
    let load := toString (openupsLoad data)
    let changed := !data.valueEquals "ups.realpower.nominal" nominal || !data.valueEquals "ups.load" load
    let data := setChanged "ups.load" load (setChanged "ups.realpower.nominal" nominal data)
    if changed then data.updateRealPower else data

/-- A text a client sent: the line reader of the server and the web interface let only printed ASCII through. -/
structure RequestText where
  text : String
  printed : ∀ c ∈ text.toList, 0x20 ≤ c.toNat ∧ c.toNat ≤ 0x7E

/-- The name and the value a SET VAR keeps in the firmware; such a plan looks at no field of the device. -/
def planDriverSide (s : State) (name value : String) : Option (String × String) :=
  match planSet [] s.data name value s with
  | .ok (.driverSide name text) => some (name, text)
  | _ => none

def isNumeralChar (c : Char) : Bool := c.isDigit || c = '.'

/-- The number in the text of report 0xA4, none without a point. -/
def powercomVoltage (bytes : List Byte) : Option String :=
  let start := if bytes.headD 0 = 0xA4#8 then 1 else 0
  let msg := (((bytes.take 8).drop start).map fun byte => Char.ofNat byte.toNat).takeWhile (· ≠ '\x00')
  let number := (msg.dropWhile fun c => !isNumeralChar c).takeWhile isNumeralChar
  if '.' ∈ number then some (String.ofList number) else none

/-! ### Runs -/

/-- All that changes the data between two connections of a device. -/
inductive SourceEvent where
  | report (t : Transport) (reportId reportType : Nat) (bytes : List Byte)
  | descriptor (t : Transport) (index : Nat) (invert : Bool) (bytes : List Byte)
  /-- The field of the beeper in a report, for the drivers without a row of it. -/
  | beeperField (v : ℚ) (bitSize : Nat)
  | setBeeper (enable : Bool)
  | driverLoop
  | defaultDelays (usages : List HIDUsageDef) (offDelay onDelay : Int) (delayVars : Bool) (paths : Option DelayPaths)
      (saved : Store String String)
  | openupsLoad
  | powercomText (bytes : List Byte)
  | restoreValue (name : String) (value : RequestText)
  | setVariable (name : String) (value : RequestText)
  | resetVariable (name : String)
  /-- A brand's hook changes the inputs of its conversions. -/
  | inputs (ctx : Context)
  | completeInitialPoll
  | firstFullDone

def claimed (brand : Brand) (info : DeviceInfo) (invert : Bool) : State :=
  State.initial (formatDeviceStrings brand (populateStringsFromDeviceInfo info invert UPSData.empty))

/-- A string descriptor is decoded and published, then the brand puts the strings in shape. -/
def readDescriptor (brand : Brand) (sub : Subdriver) (t : Transport) (depth index : Nat) (invert : Bool) (bytes : List Byte)
    (s : State) : Option State :=
  let parsed :=
    if isStringDescriptor bytes then parseStringDescriptor sub t depth index (decodeStringDescriptor invert bytes) s
    else some s
  parsed.map fun s => { s with data := formatDeviceStrings brand s.data }

def setVariable (name value : String) (s : State) : State :=
  match planDriverSide s name value with
  | none => s
  | some (name, value) =>
      let s := if USBHostUPS.isDelay name then s else setDriverSideValue name value s
      { s with data := s.data.set name value }

def resetVariable (name : String) (s : State) : State :=
  match resetDriverSideValue name s with
  | (none, s) => s
  | (some value, s) => { s with data := s.data.set name value }

def setBeeper (enable : Bool) (s : State) : State :=
  let status := if enable then "enabled" else "disabled"
  noteHostValue "ups.beeper.status" status { s with data := s.data.set "ups.beeper.status" status }

def sourceStep (brand : Brand) (sub : Subdriver) (depth : Nat) (s : State) : SourceEvent → Option State
  | .report t reportId reportType bytes => postDecode sub t depth reportId reportType bytes s
  | .descriptor t index invert bytes => readDescriptor brand sub t depth index invert bytes s
  | .beeperField v bitSize => some { s with data := decodeBeeperStatus brand v bitSize s.data }
  | .setBeeper enable => some (setBeeper enable s)
  | .driverLoop => some { s with data := setChanged "driver.name" (driverName brand) s.data }
  | .defaultDelays usages offDelay onDelay delayVars paths saved =>
      some { s with data := applyDefaultDelays s.data usages offDelay onDelay delayVars paths saved }
  | .openupsLoad => some { s with data := publishOpenupsLoad s.data }
  | .powercomText bytes =>
      some { s with ctx := { s.ctx with
        powercomBatteryVoltage := (powercomVoltage bytes).getD s.ctx.powercomBatteryVoltage } }
  | .restoreValue name value => some (setDriverSideValue name value.text s)
  | .setVariable name value => some (setVariable name value.text s)
  | .resetVariable name => some (resetVariable name s)
  | .inputs ctx =>
      some { s with ctx := { ctx with
        status := s.ctx.status, powercomBatteryVoltage := s.ctx.powercomBatteryVoltage } }
  | .completeInitialPoll => some (completeInitialPoll s)
  | .firstFullDone => some { s with firstFullDone := true }

end GenericDriver

end EspNut
