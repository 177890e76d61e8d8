import EspNut.Hid.BeeperLogic
import EspNut.Table.Rows
import EspNut.Ups.Commands
import EspNut.Ups.Data

/-!
# Commands of the HID drivers

The instant commands a device offers are the command rows of its table that the descriptor has a field for, and the ones derived from them. Running one writes a single field, the beeper, or the steps of a shutdown sequence. Everything outside is reached through a port: its data, the usages and table of the device, and the writes.
-/

namespace EspNut

open Lib NutTable

/-- What a SET VAR writes, decided without any transfer. -/
inductive SetPlan where
  | hid (name : String) (field : HIDUsageDef) (raw : Int) (value : String)
  | driverSide (name value : String)
  deriving DecidableEq

/-- The host as the commands see it, over a state `σ`; a missing table is the empty one. -/
structure Port (σ : Type) where
  isConnected : σ → Bool
  hasHidPort : σ → Bool
  upsData : σ → UPSData
  supportsBeeperToggle : σ → Bool
  beeperFieldRead : σ → Bool
  shutdownCommandsSupported : σ → Bool
  beeperMuteSupported : σ → Bool
  commandTable : σ → List HidInfo
  getUsages : σ → List HIDUsageDef
  setBeeperField : HIDUsageDef → Bool → σ → Bool × σ
  writeUsage : HIDUsageDef → BitVec 32 → σ → Bool × σ
  planSet : String → String → σ → Except SetStatus SetPlan
  saveDriverSideValue : SetPlan → σ → SetStatus × σ
  writePlannedValue : SetPlan → σ → SetStatus × σ
  executeCommand : String → σ → CommandResult × σ
  noteDefaultShutdown : String → σ → σ

namespace HidControl

/-! ### Fields of the command rows -/

def outputOk (name : String) : Bool :=
  name = "beeper.enable" || name = "beeper.disable" || name = "beeper.toggle"

/-- The field of the first command row with the name that the descriptor has, and the row's default. -/
def cmdField (table : List HidInfo) (usages : List HIDUsageDef) (name : String) :
    Option (HIDUsageDef × Option String) :=
  table.findSome? fun row =>
    if isCommandRow row && row.infoType = name then
      (usages.find? fun u =>
        (u.reportType = 3 || (outputOk name && u.reportType = 2)) && rowMatches u row).map fun u => (u, row.dfl)
    else none

def has (table : List HidInfo) (usages : List HIDUsageDef) (name : String) : Bool :=
  (cmdField table usages name).isSome

/-- The number a command row writes without a parameter. -/
def cmdDefault (dfl : Option String) : Int :=
  match dfl with
  | some text => Decimal.atol text.toList
  | none => 0

/-- The value can be written without being cut to another one; -1 is all ones. -/
def fitsField (field : HIDUsageDef) (value : Int) : Bool :=
  if value = -1 then true
  else if value < 0 then false
  else if field.bitSize = 0 ∨ 32 ≤ field.bitSize then true
  else
    let max : Int := if field.logicalMin < 0 then 2 ^ (field.bitSize - 1) - 1 else 2 ^ field.bitSize - 1
    value ≤ max

def rangeDeclared (field : HIDUsageDef) : Bool := field.logicalMin < field.logicalMax

def cmdValueFits (field : HIDUsageDef) (value : Int) : Bool :=
  if fitsField field value = false then false
  else !rangeDeclared field || value = -1 || (field.logicalMin ≤ value && value ≤ field.logicalMax)

/-! ### The commands of a device -/

/-- Whether one command of the catalog is offered. -/
def available (usages : List HIDUsageDef) (beeperAvailable shutdownCmds muteAllowed : Bool)
    (table : List HidInfo) (beeperStateKnown : Bool) (n : String) : Bool :=
  let shutdown := shutdownCmds && has table usages "load.off.delay"
  let startup := shutdownCmds && has table usages "load.on.delay"
  let stop := shutdownCmds && has table usages "shutdown.stop"
  let reboot := shutdownCmds && has table usages "shutdown.reboot"
  let returnRow := shutdownCmds && has table usages "shutdown.return"
  if n = "beeper.mute" then
    muteAllowed && beeperAvailable &&
      (cmdField table usages n).any fun (field, dfl) => cmdValueFits field (cmdDefault dfl)
  else if n = "beeper.toggle" then
    beeperAvailable && beeperStateKnown &&
      (has table usages "beeper.toggle" || (has table usages "beeper.enable" && has table usages "beeper.disable"))
  else if Text.startsWith n "beeper." then beeperAvailable && has table usages n
  else if Text.startsWith n "test." then has table usages n
  else if n = "load.off" ∨ n = "load.off.delay" then shutdown
  else if n = "load.on" ∨ n = "load.on.delay" then startup
  else if n = "shutdown.stop" then stop
  else if n = "shutdown.return" then (shutdown && startup) || returnRow
  else if n = "shutdown.stayoff" then shutdown && startup
  else if n = "shutdown.reboot" then reboot
  else if n = "shutdown.default" then reboot || shutdown || returnRow
  else false

def buildCommands (usages : List HIDUsageDef) (beeperAvailable shutdownCmds muteAllowed : Bool)
    (table : List HidInfo) (beeperStateKnown : Bool) : List UPSCommandInfo :=
  UpsCommands.table.filter fun c =>
    available usages beeperAvailable shutdownCmds muteAllowed table beeperStateKnown c.name

def supportedCommands {σ : Type} (port : Port σ) (s : σ) : List UPSCommandInfo :=
  if port.isConnected s = false then []
  else if port.hasHidPort s = false then []
  else
    let known := (port.upsData s).hasKey "ups.beeper.status"
    let beeper := port.supportsBeeperToggle s && (known || port.beeperFieldRead s)
    buildCommands (port.getUsages s) beeper (port.shutdownCommandsSupported s) (port.beeperMuteSupported s)
      (port.commandTable s) known

/-! ### What a command writes -/

/-- Field and value of a test or mute command. -/
def resolveWrite (name : String) (usages : List HIDUsageDef) (table : List HidInfo) :
    Option (HIDUsageDef × BitVec 32) :=
  if name ≠ "beeper.mute" ∧ Text.startsWith name "test." = false then none
  else match cmdField table usages name with
    | none => none
    | some (field, dfl) =>
        if cmdValueFits field (cmdDefault dfl) then some (field, BitVec.ofInt 32 (cmdDefault dfl)) else none

/-- One write of a sequence; -1 reaches the field as all ones. -/
structure WriteStep where
  field : HIDUsageDef
  value : Int
  deriving DecidableEq

inductive StepsResult where
  | ok | notSupported | invalidArgument
  deriving DecidableEq

/-- A delay that is not configured. -/
def kNoDelay : Int := -2 ^ 31

/-- One write on a field, with the parameter when the command takes one. -/
def single (param : Option String) (field : Option HIDUsageDef) (dfl : Int) (takesParam : Bool) :
    StepsResult × List WriteStep :=
  match field with
  | none => (.notSupported, [])
  | some field =>
      let given := if takesParam then param.getD "" else ""
      if given ≠ "" then
        match parseDelayParam given with
        | none => (.invalidArgument, [])
        | some value =>
            if rangeDeclared field ∧ (value < field.logicalMin ∨ field.logicalMax < value) then
              (.invalidArgument, [])
            else if value = kNoDelay then (.notSupported, [])
            else if fitsField field value then (.ok, [⟨field, value⟩])
            else (.invalidArgument, [])
      else if dfl = kNoDelay then (.notSupported, [])
      else if fitsField field dfl then (.ok, [⟨field, dfl⟩])
      else (.notSupported, [])

def resolveShutdownSteps (name : Option String) (param : Option String) (usages : List HIDUsageDef)
    (offDelay onDelay : Int) (table : List HidInfo) : StepsResult × List WriteStep :=
  match name with
  | none => (.notSupported, [])
  | some name =>
      let sd := (cmdField table usages "load.off.delay").map Prod.fst
      let st := (cmdField table usages "load.on.delay").map Prod.fst
      if name = "load.off" then single param sd 0 false
      else if name = "load.on" then single param st 0 false
      else if name = "load.off.delay" then single param sd offDelay true
      else if name = "load.on.delay" then single param st onDelay true
      else if name = "shutdown.stop" ∨ name = "shutdown.reboot" then
        let row := cmdField table usages name
        single param (row.map Prod.fst) (cmdDefault (row.bind Prod.snd)) (name = "shutdown.reboot")
      else if name = "shutdown.return" then
        match cmdField table usages "shutdown.return" with
        | some (row, dfl) => single param (some row) (cmdDefault dfl) true
        | none =>
            match sd, st with
            | some sd, some st =>
                if onDelay = kNoDelay ∨ offDelay = kNoDelay then (.notSupported, [])
                else if fitsField st onDelay = false ∨ fitsField sd offDelay = false then (.notSupported, [])
                else (.ok, [⟨st, onDelay⟩, ⟨sd, offDelay⟩])
            | _, _ => (.notSupported, [])
      else if name = "shutdown.stayoff" then
        match sd, st with
        | some sd, some st =>
            if offDelay = kNoDelay then (.notSupported, [])
            else if fitsField sd offDelay = false then (.notSupported, [])
            else (.ok, [⟨st, -1⟩, ⟨sd, offDelay⟩])
        | _, _ => (.notSupported, [])
      else (.notSupported, [])

/-- The delay configured under a key, `kNoDelay` when missing or not an integer from 0 on. -/
def configuredDelay (data : UPSData) (key : String) : Int :=
  match data.find key with
  | none => kNoDelay
  | some text =>
      match parseDelayParam text with
      | some v => if v < 0 then kNoDelay else v
      | none => kNoDelay

/-! ### Running a command -/

variable {σ : Type} (port : Port σ)

def setVariable (name value : Option String) (s : σ) : SetStatus × σ :=
  if port.isConnected s = false then (.notConnected, s)
  else match name, value with
    | none, _ => (.unknown, s)
    | some _, none => (.conversionFailed, s)
    | some name, some value =>
        if port.hasHidPort s = false then (.unknown, s)
        else match port.planSet name value s with
          | .error status => (status, s)
          | .ok (.driverSide n v) => port.saveDriverSideValue (.driverSide n v) s
          | .ok plan => port.writePlannedValue plan s

/-- The steps in order, up to the first write that fails. -/
def writeSteps : List WriteStep → σ → Bool × σ
  | [], s => (true, s)
  | step :: rest, s =>
      match port.writeUsage step.field (BitVec.ofInt 32 step.value) s with
      | (true, s') => writeSteps rest s'
      | (false, s') => (false, s')

/-- The attempts of `shutdown.default`, in order, up to the first that succeeds. -/
def tryShutdowns (offered : List UPSCommandInfo) : List String → σ → CommandResult × σ
  | [], s => (.failed, s)
  | sub :: rest, s =>
      if offered.any (fun c => c.name = sub) then
        match port.executeCommand sub s with
        | (.ok, s') => (.ok, port.noteDefaultShutdown sub s')
        | (_, s') => tryShutdowns offered rest s'
      else tryShutdowns offered rest s

def kFallback : List String := ["shutdown.return", "shutdown.reboot", "load.off.delay", "shutdown.stayoff"]

/-- The field of the row that switches the beeper; liebert-hid.c has a beeper.toggle row of its own. -/
def beeperField (table : List HidInfo) (usages : List HIDUsageDef) (name : String) (enable : Bool) :
    Option HIDUsageDef :=
  match cmdField table usages (if enable then "beeper.enable" else "beeper.disable") with
  | some (field, _) => some field
  | none =>
      if name = "beeper.toggle" then (cmdField table usages "beeper.toggle").map Prod.fst else none

def executeBeeper (name : String) (s : σ) : CommandResult × σ :=
  let enable :=
    if name = "beeper.toggle" then decide ((port.upsData s).get "ups.beeper.status" "" = "disabled")
    else decide (name = "beeper.enable")
  match beeperField (port.commandTable s) (port.getUsages s) name enable with
  | none => (.notSupported, s)
  | some field =>
      match port.setBeeperField field enable s with
      | (true, s') => (.ok, s')
      | (false, s') => (.failed, s')

def executeShutdown (name : String) (param : Option String) (s : σ) : CommandResult × σ :=
  let data := port.upsData s
  let ret := decide (name = "shutdown.return")
  let startAuto := (ret || name = "shutdown.stayoff") && data.hasKey "ups.start.auto"
  let offDelay := configuredDelay data "ups.delay.shutdown"
  let onDelay := configuredDelay data "ups.delay.start"
  match resolveShutdownSteps (some name) param (port.getUsages s) offDelay onDelay (port.commandTable s) with
  | (.invalidArgument, _) => (.invalidArgument, s)
  | (.notSupported, _) => (.notSupported, s)
  | (.ok, steps) =>
      -- the composite commands only: a shutdown.return row of the table is one step
      let s' :=
        if startAuto ∧ steps.length = 2 then
          (setVariable port (some "ups.start.auto") (some (if ret then "yes" else "no")) s).2
        else s
      match writeSteps port steps s' with
      | (true, s'') => (.ok, s'')
      | (false, s'') => (.failed, s'')

def executeWrite (name : String) (s : σ) : CommandResult × σ :=
  match resolveWrite name (port.getUsages s) (port.commandTable s) with
  | none => (.notSupported, s)
  | some (field, value) =>
      match port.writeUsage field value s with
      | (true, s') => (.ok, s')
      | (false, s') => (.failed, s')

/-- Runs an instant command. -/
def executeCommand (name : Option String) (param : Option String) (s : σ) : CommandResult × σ :=
  match name with
  | none => (.notSupported, s)
  | some name =>
      let offered := supportedCommands port s
      if port.isConnected s = false then (.notConnected, s)
      else if port.hasHidPort s = false then (.notSupported, s)
      else if offered.any (fun c => c.name = name) = false then (.notSupported, s)
      else if outputOk name then executeBeeper port name s
      else if name = "shutdown.default" then
        tryShutdowns port offered kFallback (port.noteDefaultShutdown "" s)
      else if Text.startsWith name "load." || Text.startsWith name "shutdown." then
        executeShutdown port name param s
      else executeWrite port name s

end HidControl

end EspNut
