import EspNut.Table.Status
import EspNut.Ups.Data
import EspNut.Lib.Rounding

/-!
# The state of the conversions

The conversions of a table share a context: the model and the country of the UPS, the path of its battery monitoring, the scales found so far and the status bits. The internal rows only change this context.
-/

namespace EspNut.NutTable

open Lib Rounding

def mgePegasus : Nat := 0x100
def mge3S : Nat := 0x110
def mgeDefault : Nat := 0x200
def mgeEvolution : Nat := 0x300
def mgeEvolution650 : Nat := 0x301
def mgePulsarM : Nat := 0x400
def eaton5P : Nat := 0x500
def eaton9E : Nat := 0x900

def countryUnknown : Int := -1
def countryEurope : Int := 0

def abmUnknown : Int := -1
def abmDisabled : Int := 0
def abmEnabled : Int := 1
def abmPathUnknown : Int := -1
def abmPathStatus : Int := 0
def abmPathMode : Int := 1

/-- The scales of the CyberPower values, each decided once. -/
structure CpsScale where
  mightNeedScale : Bool
  battery : ℚ
  batteryChecked : Bool
  inputFreq : ℚ
  outputFreq : ℚ
  inputChecked : Bool
  outputChecked : Bool
  deriving DecidableEq

structure OpenupsScale where
  vin : ℚ
  vout : ℚ
  ccharge : ℚ
  cdischarge : ℚ
  deriving DecidableEq

structure Context where
  nominal : Int
  mgeType : Nat
  country : Int
  countrySeen : Bool
  /-- The inputs of the conversions that depend on the model are known. -/
  ready : Bool
  abm : Int
  abmPath : Int
  status : StatusBits
  cps : CpsScale
  powercomBatteryVoltage : String
  openups : OpenupsScale
  deriving DecidableEq

def Context.initial : Context :=
  { nominal := -1
    mgeType := mgeDefault
    country := countryUnknown
    countrySeen := false
    ready := true
    abm := abmUnknown
    abmPath := abmPathUnknown
    status := StatusBits.empty
    cps := ⟨false, 1, false, 1, 1, false, false⟩
    powercomBatteryVoltage := ""
    openups := ⟨1, 1, 1, 1⟩ }

/-- The state kept by an internal row that gives no status token. -/
def applyInternal (info : HidInfo) (v : ℚ) (ctx : Context) : Context :=
  match info.conv with
  | .mgeCountry => { ctx with country := toLong v, countrySeen := true }
  | .abmEnabled =>
      let value := toLong v
      { ctx with abm := if value = abmDisabled ∨ value = abmEnabled then value else abmUnknown }
  | .abmPathMode | .abmPathStatus =>
      -- a disabled or unknown monitoring forgets the path, so that another can be taken later
      if ctx.abm ≠ abmEnabled then { ctx with abmPath := abmPathUnknown }
      else if ctx.abmPath = abmPathUnknown then
        { ctx with abmPath := if info.conv = .abmPathMode then abmPathMode else abmPathStatus }
      else ctx
  | _ => ctx

/-- The text of the first entry for a value. -/
def lookupText (lkp : List Lookup) (v : ℚ) : Option String :=
  (lkp.find? fun entry => entry.hid = toLong v).map Lookup.nut

/-- The bits of the value as a `long`. -/
def longBits (v : ℚ) : BitVec 32 := BitVec.ofInt 32 (toLong v)

/-- The battery is reported full, so a charging flag only means floating. -/
def chargeIsFull (data : Option UPSData) : Bool :=
  match data.bind (·.find "battery.charge") with
  | none => false
  | some charge => 100 ≤ strtod charge.toList

def tokenIf (condition : Bool) (yes no : String) : Option String :=
  some (if condition then yes else no)

def abmChrgDischrgToken (value : Int) (ctx : Context) : Option String :=
  if ctx.abm ≠ abmEnabled then none
  else if ctx.abmPath = abmPathStatus then
    if value = 1 ∨ value = 2 then some "chrg" else if value = 4 then some "dischrg" else none
  else if value = 1 ∨ value = 3 then some "chrg" else if value = 2 then some "dischrg" else none

/-- The token of a status row for a value, none when its function returns nothing. -/
def statusToken (info : HidInfo) (v : ℚ) (ctx : Context) (data : Option UPSData) : Option String :=
  match info.conv with
  | .lookup => lookupText info.lkp v
  | .eatonDischarging =>
      if ctx.abm = abmEnabled then some "!dischrg" else tokenIf (v = 1) "dischrg" "!dischrg"
  | .eatonCharging =>
      if ctx.abm = abmEnabled then some "!chrg"
      else if v ≠ 1 then some "!chrg"
      else tokenIf (chargeIsFull data) "!chrg" "chrg"
  | .abmChrgDischrg => abmChrgDischrgToken (toLong v) ctx
  | .eatonConverterOnline =>
      if ctx.status.isSet stOff then none else tokenIf (v = 0) "!online" "online"
  | .powercomUpsfail => tokenIf (longBits v &&& 0x0001 ≠ 0) "fanfail" "!fanfail"
  | .powercomReplacebatt => tokenIf (longBits v &&& 0x0002 ≠ 0) "replacebatt" "!replacebatt"
  | .powercomTest => tokenIf (longBits v &&& 0x0004 ≠ 0) "cal" "!cal"
  | .powercomShutdownimm => tokenIf (longBits v &&& 0x0010 ≠ 0) "shutdownimm" "!shutdownimm"
  | .powercomOnline => tokenIf (longBits v &&& 0x0001 ≠ 0) "!online" "online"
  | .powercomLowbatt => tokenIf (longBits v &&& 0x0002 ≠ 0) "lowbatt" "!lowbatt"
  | .powercomTrim => tokenIf (longBits v &&& 0x0018 = 0x0008) "trim" "!trim"
  | .powercomBoost => tokenIf (longBits v &&& 0x0018 = 0x0018) "boost" "!boost"
  | .powercomOverload => tokenIf (longBits v &&& 0x0020 ≠ 0) "overload" "!overload"
  | .openupsCharging => tokenIf (v ≠ 0) "chrg" "!chrg"
  | .openupsDischarging => tokenIf (v ≠ 0) "dischrg" "!dischrg"
  | .openupsOnline => tokenIf (v ≠ 0) "online" "!online"
  | .openupsOff => tokenIf (v ≠ 0) "!off" "off"
  | _ => none

/-! ### Models -/

/-- The 3S models share the masked type of the Pegasus ones, so their country is never looked at. -/
def pegasusValid (ctx : Context) : Bool :=
  let family := ctx.mgeType &&& 0xFF00
  if family = mgePegasus then true
  else if family = mge3S then ctx.country ≠ countryEurope
  else false

/-- The first value fixes the voltage class, the others are checked against it. -/
def nominalVoltageValid (value : Int) (ctx : Context) : Bool × Context :=
  let ctx := if ctx.nominal < 0 then { ctx with nominal := value } else ctx
  let online : Bool := mgeDefault ≤ ctx.mgeType &&& 0xFF00
  let valid :=
    if ctx.nominal ∈ [100, 110, 120, 127] then decide (value ∈ [100, 110, 120, 127])
    else if ctx.nominal ∈ [200, 208] then
      if value ∈ [200, 208] then true else if value ∈ [220, 230, 240] then online else false
    else if ctx.nominal ∈ [220, 230, 240] then
      if value ∈ [200, 208] then online else decide (value ∈ [220, 230, 240])
    else true
  (valid, ctx)

end EspNut.NutTable
