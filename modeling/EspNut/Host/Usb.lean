import EspNut.Hid.BeeperLogic
import EspNut.Ups.Data

/-!
# Writes to the device

The USB host reads a report back before it writes one, so that the fields next to the target keep their values. The bus is a parameter: any device, any answer and any failure. Each transfer is recorded, so what was sent is compared with what was read.
-/

namespace EspNut

open Lib

/-- How a control transfer fails: a STALL, an answer of a wrong size, or no answer. -/
inductive TransferError where
  | invalidResponse | invalidSize | failed
  deriving DecidableEq

/-- The device and the clock behind the USB stack, over the outside's own state. -/
structure Bus (ω : Type) where
  getReport : Nat → Nat → Nat → ω → Except TransferError (List Byte) × ω
  setReport : Nat → Nat → List Byte → ω → Option TransferError × ω
  backoffOver : ω → Bool

inductive Transfer where
  | getReport (reportType reportId wLength : Nat) (answer : Except TransferError (List Byte))
  | setReport (reportType reportId : Nat) (data : List Byte)

/-- The hooks of the attached driver the writes use, over its own state. -/
structure Driver (δ : Type) where
  beeperControllable : Bool
  encodeBeeperValue : Bool → Nat → Byte
  requestLength : δ → Nat → Nat → Nat → Nat
  noteHostValue : String → String → δ → δ

structure Host (ω δ : Type) where
  bus : Bus ω
  driver : Option (Driver δ)
  parser : HIDParser

structure HostState (ω δ : Type) where
  world : ω
  driverState : δ
  readyToPoll : Bool
  backoffActive : Bool
  data : UPSData
  transfers : List Transfer

namespace USBHostUPS

open BeeperLogic

def reportTypeInput : Nat := 1
def reportTypeOutput : Nat := 2
def reportTypeFeature : Nat := 3

/-- Size of `_request_buffer`. -/
def bufferSize : Nat := 256

variable {ω δ : Type} (host : Host ω δ)

/-! ### Transfers -/

def canPoll (s : HostState ω δ) : Bool := !s.backoffActive || host.bus.backoffOver s.world

/-- A device that answers, were it with a STALL or too much, ends the backoff of the link. -/
def backoffAfter : Option TransferError → Bool
  | none | some .invalidResponse | some .invalidSize => false
  | some .failed => true

/-- GET_REPORT; an answer longer than asked for is cut to the length asked for. -/
def hidClassRequestGetReport (reportType reportId wLength : Nat) (s : HostState ω δ) :
    Except TransferError (List Byte) × HostState ω δ :=
  let (answer, world) := host.bus.getReport reportType reportId wLength s.world
  let result := answer.map (List.take wLength)
  let error := match result with
    | .ok _ => none
    | .error e => some e
  (result, { s with world, backoffActive := backoffAfter error,
                    transfers := s.transfers ++ [.getReport reportType reportId wLength result] })

def hidClassRequestSetReport (reportType reportId : Nat) (data : List Byte) (s : HostState ω δ) :
    Option TransferError × HostState ω δ :=
  let (error, world) := host.bus.setReport reportType reportId data s.world
  (error, { s with world, backoffActive := backoffAfter error,
                   transfers := s.transfers ++ [.setReport reportType reportId data] })

/-! ### Read, modify, write -/

def zeros : List Byte := List.replicate bufferSize 0

/-- The request buffer with an answer at its start. -/
def bufferOf (answer : List Byte) : List Byte := (answer ++ zeros).take bufferSize

/-- The empty report, with its id. -/
def blankBuffer (reportId : Nat) : List Byte :=
  if reportId ≠ 0 then zeros.set 0 (BitVec.ofNat 8 reportId) else zeros

/-- The bytes of an answer; a failed read gives none. -/
def answerBytes : Except TransferError (List Byte) → List Byte
  | .ok bytes => bytes
  | .error _ => []

/-- The buffer and length a write starts from; none when the write must not happen. -/
def writeBase (field : HIDUsageDef) (expectedLength : Nat) (answer : Except TransferError (List Byte))
    (s : HostState ω δ) : Option (List Byte × Nat) :=
  let shared := reportHasOtherFields host.parser.usages field
  let bytes := answerBytes answer
  let fetched := decide (bytes ≠ [])
  if canWriteBack shared field fetched bytes.length = false then none
  else if fetched then some (bufferOf bytes, bytes.length)
  else if canPoll host s = false then none
  -- the report holds nothing else: it is written from scratch
  else some (blankBuffer field.reportId, expectedLength)

/-- Reads the report back, writes `raw` into the field and sends the report. -/
def writeBack (reportType : Nat) (field : HIDUsageDef) (requestLength expectedLength : Nat)
    (raw : BitVec 32) (s : HostState ω δ) : Bool × HostState ω δ :=
  let (answer, s) := hidClassRequestGetReport host reportType field.reportId requestLength s
  match writeBase host field expectedLength answer s with
  | none => (false, s)
  | some (buffer, fetchedLen) =>
      let (buffer, length) := writeField field raw buffer fetchedLen
      if length = 0 then (false, s)
      else
        let (error, s) := hidClassRequestSetReport host reportType field.reportId (buffer.take length) s
        (error = none, s)

/-! ### The beeper -/

def activeBeeper (usages : List HIDUsageDef) : Option HIDUsageDef :=
  match usages.find? fun u =>
    u.path = "UPS.PowerSummary.AudibleAlarmControl" ||
      u.path = "UPS.BatterySystem.Battery.AudibleAlarmControl" || u.path = "UPS.AudibleAlarmControl" with
  | none => none
  | some first =>
      match usages.find? fun u => u.path = first.path && (u.reportType = 3 || u.reportType = 2) with
      | some u => some u
      | none => some first

/-- The item of the command row's path: the one of its own report first, then any that can be written. -/
def beeperItem (usages : List HIDUsageDef) (field : HIDUsageDef) : Option HIDUsageDef :=
  let writable (u : HIDUsageDef) : Bool :=
    u.path = field.path && u.collIndex = field.collIndex && (u.reportType = 3 || u.reportType = 2)
  match usages.find? fun u => writable u && u.reportType = field.reportType && u.reportId = field.reportId with
  | some u => some u
  | none => usages.find? writable

def beeperTarget (usages : List HIDUsageDef) (field : Option HIDUsageDef) : Option HIDUsageDef :=
  match field with
  | some field => beeperItem usages field
  | none => activeBeeper usages

def beeperReportType (field : HIDUsageDef) : Nat :=
  if field.reportType = 2 then reportTypeOutput else reportTypeFeature

def beeperValue (enable : Bool) (field : HIDUsageDef) : BitVec 32 :=
  match host.driver with
  | some driver => (driver.encodeBeeperValue enable field.bitSize).setWidth 32
  | none => if field.bitSize = 1 then (if enable then 1 else 0) else (if enable then 2 else 1)

def noteHostValue (key value : String) (s : HostState ω δ) : HostState ω δ :=
  match host.driver with
  | some driver => { s with driverState := driver.noteHostValue key value s.driverState }
  | none => s

/-- After a write the device took, the new state is published before the next report. -/
def noteBeeper (enable : Bool) : Bool × HostState ω δ → Bool × HostState ω δ
  | (false, s) => (false, s)
  | (true, s) =>
      let status := if enable then "enabled" else "disabled"
      (true, noteHostValue host "ups.beeper.status" status
        { s with data := s.data.set "ups.beeper.status" status })

def setBeeperLocked (enable : Bool) (field : Option HIDUsageDef) (s : HostState ω δ) :
    Bool × HostState ω δ :=
  if s.readyToPoll = false then (false, s)
  else if host.driver.any (fun driver => !driver.beeperControllable) then (false, s)
  else if canPoll host s = false then (false, s)
  else match beeperTarget host.parser.usages field with
    | none => (false, s)
    | some target =>
        let reportType := beeperReportType target
        let expectedLength := min (host.parser.getExpectedLength target.reportId reportType) bufferSize
        noteBeeper host enable
          (writeBack host reportType target expectedLength expectedLength (beeperValue host enable target) s)

/-! ### Any other field -/

/-- The length asked for in a GET_REPORT: the driver's, or the declared one. -/
def requestLengthOf (reportType reportId expected : Nat) (s : HostState ω δ) : Nat :=
  match host.driver with
  | some driver => driver.requestLength s.driverState reportType reportId expected
  | none => expected

def writeUsageLocked (field : HIDUsageDef) (value : BitVec 32) (s : HostState ω δ) : Bool × HostState ω δ :=
  if s.readyToPoll = false then (false, s)
  else if canPoll host s = false then (false, s)
  else
    let expected := host.parser.getExpectedLength field.reportId reportTypeFeature
    let requestLength := min (requestLengthOf host reportTypeFeature field.reportId expected s) bufferSize
    writeBack host reportTypeFeature field requestLength (min expected bufferSize) value s

end USBHostUPS

end EspNut
