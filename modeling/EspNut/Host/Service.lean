import EspNut.Driver.DeviceStrings
import EspNut.Host.Usb
import EspNut.Recovery.Enumeration
import EspNut.Recovery.Freshness
import EspNut.Recovery.PortCycle

/-!
# The service of the USB host

The HID task lists the interfaces of the attached devices and queues what happens to them; it never waits. The poll task takes the events, claims the interface of a UPS, polls it, and recovers it when it stops answering. What the USB stack and the device answer is given with each step.
-/

namespace EspNut

open Lib

abbrev DeviceHandle := Nat

/-- The state of an interface in the list of the HID driver. A closed one waits for a second close, with or without its device. -/
inductive IfaceState where
  | idle | ready | active
  | waitUserDeletion (parent : Bool)
  deriving DecidableEq

inductive HidEvent where
  | connected (handle : DeviceHandle)
  | openFailed (handle : DeviceHandle)
  | inputReport (handle : DeviceHandle) (ts : UInt32)
  | disconnected (handle : DeviceHandle)
  | transferError (handle : DeviceHandle)
  deriving DecidableEq

def HidEvent.handle : HidEvent → DeviceHandle
  | .connected h | .openFailed h | .inputReport h _ | .disconnected h | .transferError h => h

/-- The functions of the HID driver that talk to an interface. -/
inductive HidFunction where
  | getReportDescriptor | ctrlStuck | start | stop | clearEpInHalt | control
  deriving DecidableEq

/-- A call of the HID driver for a handle, and whether the handle was that of a listed interface. -/
structure HidCall where
  function : HidFunction
  handle : Option DeviceHandle
  listed : Bool
  deriving DecidableEq

structure HostService where
  ifaces : DeviceHandle → Option IfaceState
  eventQueue : List HidEvent
  droppedEvents : UInt32
  hidDevHandle : Option DeviceHandle
  descRetryHandle : Option DeviceHandle
  descRetry : DescriptorRetry
  driver : Option Brand
  quirks : Nat
  isReadyToPoll : Bool
  firstDataReady : Bool
  claimedAt : UInt32
  getOkSinceClaim : UInt32
  link : LinkMonitor
  inWd : InputWatchdog
  portCycles : PortCyclePolicy
  enumWd : EnumWatchdog
  enumSeen : Bool
  inRestartPending : Bool
  inStartAttempts : UInt8
  inRestartAt : UInt32
  inRecoveries : UInt8
  restartRequested : Bool
  restartReason : String
  calls : List HidCall

/-! ### The registry of drivers -/

namespace DriverRegistry

def phoenixtecVendorId : Nat := 0x06DA

/-- Three subdrivers share the product, told apart by its strings. -/
def createPhoenixtec (mfr product : String) : Brand :=
  if Text.contains mfr "AEG" || Text.contains product "AEG" then .eaton
  else if Text.contains mfr "BMS" || Text.contains product "Smart-Battery" then .generic
  else .liebert

/-- The vendors with a driver of their own, and the product where it is for one only. -/
def drivers : List (Nat × Option Nat × Brand) :=
  [(0x051D, none, .apc), (0x0764, none, .cyberPower), (0x0463, none, .eaton), (0x3746, none, .ecoFlow),
   (0x0D9F, none, .powercom), (0x1CB0, some 0x0038, .legrand), (0x1CB0, some 0x0032, .legrand),
   (0x04D8, some 0xD004, .openUPS), (0x04D8, some 0xD005, .openUPS)]

def create (vid pid : Nat) (mfr product : String) : Brand :=
  if vid = phoenixtecVendorId ∧ pid = 0xFFFF then createPhoenixtec mfr product
  else ((drivers.find? fun d => decide (d.1 = vid) && (d.2.1.getD pid == pid)).map fun d => d.2.2).getD .generic

end DriverRegistry

def quirkInvertStrings : Nat := 1
def quirkNoInterruptPipe : Nat := 16

def upsQuirks : List (Nat × Nat × Nat) :=
  [(0x0764, 0x0501, quirkInvertStrings), (0x0D9F, 0x0004, 0), (0x051D, 0x0002, 0), (0x051D, 0x0003, quirkNoInterruptPipe),
   (0x051D, 0x0004, quirkNoInterruptPipe)]

def quirksOf (vid pid : Nat) : Nat :=
  upsQuirks.foldl (fun quirks q => if q.1 = vid ∧ (q.2.1 = 0xFFFF ∨ q.2.1 = pid) then quirks ||| q.2.2 else quirks) 0

namespace HostService

variable (s : HostService)

/-! ### The HID driver -/

def eventQueueLen : Nat := 48
def eventQueueReserved : Nat := 2

/-- An INPUT report is dropped first: it leaves the reserved slots free. -/
def postEvent (event : HidEvent) (reservedSlot : Bool) : HostService :=
  if reservedSlot = false ∧ eventQueueLen - s.eventQueue.length ≤ eventQueueReserved then
    { s with droppedEvents := s.droppedEvents + 1 }
  else if s.eventQueue.length < eventQueueLen then { s with eventQueue := s.eventQueue ++ [event] }
  else { s with droppedEvents := s.droppedEvents + 1 }

def setIface (h : DeviceHandle) (state : Option IfaceState) : HostService :=
  { s with ifaces := Function.update s.ifaces h state }

/-- How far the USB stack lets go of an interface that is closed. -/
structure CloseAnswer where
  disables : Bool
  releases : Bool
  deriving DecidableEq

/-- The first close of an open interface tells its owner, unless the owner is the one that closes it. -/
def awaitDeletion (self : Option DeviceHandle) (parent : Bool) (h : DeviceHandle) : HostService :=
  let waiting := s.setIface h (some (.waitUserDeletion parent))
  if self = some h then waiting else waiting.postEvent (.disconnected h) true

def hidHostDeviceClose (answer : CloseAnswer) (self : Option DeviceHandle) (h : DeviceHandle) : HostService :=
  match s.ifaces h with
  | none => s
  | some .active =>
      if answer.disables = false then s
      else if answer.releases = false then s.setIface h (some .ready)
      else s.awaitDeletion self true h
  | some .ready => if answer.releases = false then s else s.awaitDeletion self true h
  | some .idle | some (.waitUserDeletion _) => s.setIface h none

/-- A device is attached: its interface is listed and opened. -/
def attach (h : DeviceHandle) (opens : Bool) : HostService :=
  if opens = true then (s.setIface h (some .ready)).postEvent (.connected h) true
  else (s.setIface h (some .idle)).postEvent (.openFailed h) true

/-- A device is gone: its interface is closed whatever the stack answers. -/
def detach (h : DeviceHandle) : HostService :=
  match s.ifaces h with
  | none | some (.waitUserDeletion false) => s
  | some .active | some .ready => s.awaitDeletion none false h
  | some .idle | some (.waitUserDeletion true) => s.setIface h none

def isListed (h : Option DeviceHandle) : Bool := (h.bind s.ifaces).isSome

/-- The interface has a device that can be asked. -/
def isReachable (h : Option DeviceHandle) : Bool :=
  match h.bind s.ifaces with
  | none | some (.waitUserDeletion false) => false
  | some _ => true

def call (function : HidFunction) (h : Option DeviceHandle) : HostService :=
  { s with calls := s.calls ++ [⟨function, h, s.isListed h⟩] }

/-- An interface that is ready is started when its transfer is taken. -/
def hidHostDeviceStart (submits : Bool) (h : Option DeviceHandle) : Bool × HostService :=
  let s := s.call .start h
  match h with
  | some handle =>
      if s.ifaces handle = some .ready ∧ submits = true then (true, s.setIface handle (some .active)) else (false, s)
  | none => (false, s)

def hidHostDeviceStop (halts : Bool) (h : Option DeviceHandle) : HostService :=
  let s := s.call .stop h
  match h with
  | some handle => if s.ifaces handle = some .active ∧ halts = true then s.setIface handle (some .ready) else s
  | none => s

/-! ### Requests -/

/-- An answer, were it a STALL or too long, shows that the device is there. -/
def noteControlResult (error : Option TransferError) (now : UInt32) : HostService :=
  { s with link := if USBHostUPS.backoffAfter error = true then s.link.onLinkFailure now else s.link.onAlive now }

/-- A control transfer to the interface; one that cannot be reached fails. -/
def control (function : HidFunction) (error : Option TransferError) (now : UInt32) : HostService :=
  let reachable := s.isReachable s.hidDevHandle
  (s.call function s.hidDevHandle).noteControlResult (if reachable = true then error else some .failed) now

/-- What a request is for: the answers of the poll and of the export read are counted. -/
inductive Purpose where
  | poll | exportRead | string | command
  deriving DecidableEq

structure ControlRequest where
  purpose : Purpose
  error : Option TransferError
  empty : Bool
  now : UInt32
  deriving DecidableEq

def counts (r : ControlRequest) : Bool :=
  decide (r.purpose = .poll ∨ r.purpose = .exportRead) && decide (r.error = none) && !r.empty

/-- A request of the driver, of the export read or of a command. -/
def request (r : ControlRequest) : HostService :=
  if s.isReadyToPoll = false ∨ s.hidDevHandle = none then s
  else if s.link.canPoll r.now = false then s
  else
    let answered := s.control .control r.error r.now
    if counts r && s.isReachable s.hidDevHandle then { answered with getOkSinceClaim := answered.getOkSinceClaim + 1 }
    else answered

/-! ### Recovery -/

def requestRestart (why : String) : HostService :=
  if s.restartRequested = true then s else { s with restartReason := why, restartRequested := true }

structure RecoverAnswers where
  halts : Bool
  cleared : Option TransferError
  clearedAt : UInt32
  deriving DecidableEq

def recoverInterface (clearInHalt : Bool) (a : RecoverAnswers) (now : UInt32) : HostService :=
  let s := s.hidHostDeviceStop a.halts s.hidDevHandle
  let s := if clearInHalt = true then s.control .clearEpInHalt a.cleared a.clearedAt else s
  { s with inRestartPending := true, inStartAttempts := 0, inRestartAt := now + 50 }

def maxInStartAttempts : UInt8 := 40

def retryInterfaceStart (submits : Bool) (now : UInt32) : HostService :=
  if Clock.reached now s.inRestartAt = false then s
  else
    let (ok, s) := s.hidHostDeviceStart submits s.hidDevHandle
    if ok = true then { s with inRestartPending := false }
    else if maxInStartAttempts ≤ s.inStartAttempts + 1 then
      { s with inStartAttempts := s.inStartAttempts + 1, inRestartPending := false }.requestRestart
        "HID interface restart failed"
    else { s with inStartAttempts := s.inStartAttempts + 1, inRestartAt := now + 50 }

def isControlPipeProven : Bool :=
  s.isReadyToPoll && s.firstDataReady && decide (0 < s.getOkSinceClaim) && decide (s.link.failures = 0)

def recoverStuckTransfer (now : UInt32) : HostService :=
  match s.portCycles.onStuck now with
  | (policy, .restart) => { s with portCycles := policy }.requestRestart (policy.lastRestartReason.getD "")
  | (policy, .cyclePort) => { s with portCycles := policy, isReadyToPoll := false, link := s.link.reset now }

def notBackReason : String := "UPS not back after the USB port power cycle"

def servicePortCycleWait (now : UInt32) : HostService × Bool :=
  if s.portCycles.waiting = false then (s, false)
  else if s.isControlPipeProven = true then ({ s with portCycles := s.portCycles.onProven }, false)
  else
    match s.portCycles.backTimedOut now with
    | (policy, true) => ({ s with portCycles := policy }.requestRestart notBackReason, true)
    | (policy, false) => ({ s with portCycles := policy }, false)

def notEnumeratedReason : String := "UPS not enumerated after the automatic restart"

def serviceEnumWatchdog (devices : Bool) (now : UInt32) : HostService :=
  if s.enumWd.armed = false then s
  else
    match s.enumWd.tick (s.enumSeen || devices) now with
    | (enumWd, .requestRestart) => { s with enumWd }.requestRestart notEnumeratedReason
    | (enumWd, _) => { s with enumWd }

/-! ### Interfaces -/

def closeInterface (first second : CloseAnswer) (h : DeviceHandle) : HostService :=
  (s.hidHostDeviceClose first (some h) h).hidHostDeviceClose second none h

def deferClaim (h : DeviceHandle) (now : UInt32) : HostService × Bool :=
  if s.descRetryHandle.any (· != h) = true then (s, false)
  else
    match s.descRetry.onFailure now with
    | (descRetry, true) => ({ s with descRetryHandle := some h, descRetry }, true)
    | (descRetry, false) => ({ s with descRetryHandle := none, descRetry }, false)

def clearDeferredClaim (h : DeviceHandle) : HostService :=
  if s.descRetryHandle = some h then { s with descRetryHandle := none, descRetry := .cleared } else s

def hidPageUps : Nat := 0x00840000
def hidPageBattery : Nat := 0x00850000

def isUps (parser : HIDParser) : Bool :=
  parser.usages.any fun u => decide (u.usage &&& 0xFFFF0000 = hidPageUps ∨ u.usage &&& 0xFFFF0000 = hidPageBattery)

/-- What the device says of itself: vendor, product and their strings. -/
structure DeviceIds where
  vid : Nat
  pid : Nat
  mfr : String
  product : String
  deriving DecidableEq

/-- The answers to a claim: the descriptor as it is parsed, the state of the control pipe, the ids, the closes and the start. -/
structure ClaimAnswers where
  now : UInt32
  descriptor : Option HIDParser
  ctrlStuck : Bool
  ids : Option DeviceIds
  firstClose : CloseAnswer
  secondClose : CloseAnswer
  submits : Bool

/-- Without the ids of the device the driver that is there stays. -/
def takeIds (ids : Option DeviceIds) : HostService :=
  match ids with
  | some ids =>
      { s with quirks := quirksOf ids.vid ids.pid, driver := some (DriverRegistry.create ids.vid ids.pid ids.mfr ids.product) }
  | none => s

/-- Everything starts over for the interface that is bound, and a restart that was requested is cancelled. -/
def startOver (now : UInt32) : HostService :=
  { s with
    link := s.link.reset now
    inWd := s.inWd.reset now
    inRestartPending := false
    inRecoveries := 0
    firstDataReady := false
    claimedAt := now
    getOkSinceClaim := 0
    restartReason := if s.restartRequested = true then "" else s.restartReason
    restartRequested := false }

/-- An interface that does not start is started again later. -/
def startBound (submits : Bool) (now : UInt32) (h : DeviceHandle) : HostService :=
  match s.hidHostDeviceStart submits (some h) with
  | (true, s) => { s with isReadyToPoll := true }
  | (false, s) => { s with inRestartPending := true, inStartAttempts := 0, inRestartAt := now + 50, isReadyToPoll := true }

def bindInterface (a : ClaimAnswers) (h : DeviceHandle) : HostService :=
  let s := { s with hidDevHandle := some h }
  ((s.takeIds (if s.isReachable (some h) then a.ids else none)).startOver a.now).startBound a.submits a.now h

def claimInterface (a : ClaimAnswers) (h : DeviceHandle) : HostService :=
  let reachable := s.isReachable (some h)
  let s := s.call .getReportDescriptor (some h)
  match if reachable = true then a.descriptor else none with
  | none =>
      match s.deferClaim h a.now with
      | (s, true) => s
      | (s, false) =>
          let s := (s.call .ctrlStuck (some h)).closeInterface a.firstClose a.secondClose h
          if reachable = true ∧ a.ctrlStuck = true ∧ s.hidDevHandle = none then
            s.requestRestart "report descriptor not available"
          else s
  | some parser =>
      let s := s.clearDeferredClaim h
      if isUps parser = false then s.closeInterface a.firstClose a.secondClose h
      else
        match s.hidDevHandle with
        | some old => (if old ≠ h then s.closeInterface a.firstClose a.secondClose old else s).bindInterface a h
        | none => s.bindInterface a h

def handleDisconnected (answer : CloseAnswer) (h : DeviceHandle) : HostService :=
  let s := (s.hidHostDeviceClose answer none h).clearDeferredClaim h
  if s.hidDevHandle ≠ some h then s
  else { s with hidDevHandle := none, isReadyToPoll := false, inRestartPending := false, driver := none }

/-! ### Events -/

def maxInRecoveries : UInt8 := 3

/-- The packets of a disabled pipe are not seen. -/
def processInputReport (h : DeviceHandle) (ts : UInt32) : HostService :=
  if s.hidDevHandle ≠ some h ∨ s.driver = none then s
  else if s.quirks &&& quirkNoInterruptPipe ≠ 0 then s
  else { s with inRecoveries := 0, inWd := s.inWd.onInput ts }

def handleTransferError (a : RecoverAnswers) (now : UInt32) (h : DeviceHandle) : HostService :=
  if s.hidDevHandle = some h ∧ s.quirks &&& quirkNoInterruptPipe ≠ 0 then s
  else if s.hidDevHandle = some h ∧ s.isReadyToPoll = true ∧ s.inRestartPending = false ∧ s.restartRequested = false then
    if maxInRecoveries < s.inRecoveries + 1 then
      { s with inRecoveries := s.inRecoveries + 1 }.requestRestart "INPUT transfer keeps failing"
    else { s with inRecoveries := s.inRecoveries + 1 }.recoverInterface true a now
  else s

structure EventAnswers where
  claim : ClaimAnswers
  recover : RecoverAnswers
  now : UInt32

def processEvent (a : EventAnswers) : HostService :=
  match s.eventQueue with
  | [] => s
  | event :: rest =>
      let s := { s with eventQueue := rest }
      match event with
      | .connected h => { s with enumSeen := true }.claimInterface a.claim h
      | .openFailed _ => { s with enumSeen := true }
      | .inputReport h ts => s.processInputReport h ts
      | .disconnected h => s.handleDisconnected a.claim.firstClose h
      | .transferError h => s.handleTransferError a.recover a.now h

def retryClaim (a : ClaimAnswers) : HostService :=
  if s.descRetry.due a.now = false then s
  else
    match s.descRetryHandle with
    | some h => s.claimInterface a h
    | none => s.call .getReportDescriptor none

/-! ### The poll -/

def firstDataMaxMs : UInt32 := 30000

structure PollAnswers where
  now : UInt32
  submits : Bool
  ctrlStuck : Bool
  recover : RecoverAnswers
  inputValuesPolled : Bool
  requests : List ControlRequest
  initialPollDone : Bool
  statusKnown : Bool

/-- The first data are served when the first full poll is done, or when it takes too long. -/
def noteFirstData (a : PollAnswers) : HostService :=
  if s.firstDataReady = false ∧ (a.initialPollDone = true ∧ a.statusKnown = true ∨ firstDataMaxMs ≤ a.now - s.claimedAt) then
    { s with firstDataReady := true }
  else s

def watchInput (a : PollAnswers) : HostService :=
  match (s.inWd.setValuesPolled a.inputValuesPolled).tick a.now with
  | (inWd, .recover) => { s with inWd }.recoverInterface true a.recover a.now
  | (inWd, .restart) => { s with inWd }.requestRestart "INPUT reports stopped after recovery"
  | (inWd, .none) => (a.requests.foldl request { s with inWd := (inWd.takeSilenceNotice a.now).1 }).noteFirstData a

/-- The pipe is looked at only after a failure. -/
def lookAtPipe (answer : Bool) : Bool × HostService :=
  if 0 < s.link.failures then (answer && s.isReachable s.hidDevHandle, s.call .ctrlStuck s.hidDevHandle) else (false, s)

def watchLink (a : PollAnswers) : HostService :=
  let (stuck, s) := s.lookAtPipe a.ctrlStuck
  match s.link.tick a.now stuck with
  | (link, .recover) => { s with link }.recoverInterface false a.recover a.now
  | (link, .restart) =>
      if stuck = true then { s with link }.recoverStuckTransfer a.now
      else { s with link }.requestRestart "control pipe not answering after recovery"
  | (link, .none) => { s with link }.watchInput a

/-- The part of an iteration after the events. -/
def poll (a : PollAnswers) : HostService :=
  if s.restartRequested = true then s
  else if s.inRestartPending = true then s.retryInterfaceStart a.submits a.now
  else
    match s.servicePortCycleWait a.now with
    | (s, true) => s
    | (s, false) => if s.isReadyToPoll = false ∨ s.driver = none then s else s.watchLink a

/-! ### Runs -/

def initial (memory : Vector UInt32 8) (stamps : Vector UInt32 12) (automaticRestarts : Nat) (now : UInt32) : HostService where
  ifaces := fun _ => none
  eventQueue := []
  droppedEvents := 0
  hidDevHandle := none
  descRetryHandle := none
  descRetry := .cleared
  driver := none
  quirks := 0
  isReadyToPoll := false
  firstDataReady := false
  claimedAt := 0
  getOkSinceClaim := 0
  link := .initial LinkMonitor.defaultConfig
  inWd := .initial InputWatchdog.defaultConfig memory
  portCycles := .initial stamps
  enumWd := if 0 < automaticRestarts then EnumWatchdog.arm now else EnumWatchdog.initial
  enumSeen := false
  inRestartPending := false
  inStartAttempts := 0
  inRestartAt := 0
  inRecoveries := 0
  restartRequested := false
  restartReason := ""
  calls := []

/-- What the HID task does, the pieces of an iteration of the poll task, and a command of another task. -/
inductive Step where
  | attach (h : DeviceHandle) (opens : Bool)
  | detach (h : DeviceHandle)
  | input (h : DeviceHandle) (ts : UInt32)
  | transferError (h : DeviceHandle)
  | processEvent (a : EventAnswers)
  | retryClaim (a : ClaimAnswers)
  | enumWatchdog (devices : Bool) (now : UInt32)
  | poll (a : PollAnswers)
  | command (requests : List ControlRequest)

def step : Step → HostService
  | .attach h opens => s.attach h opens
  | .detach h => s.detach h
  | .input h ts => s.postEvent (.inputReport h ts) false
  | .transferError h => s.postEvent (.transferError h) true
  | .processEvent a => s.processEvent a
  | .retryClaim a => s.retryClaim a
  | .enumWatchdog devices now => s.serviceEnumWatchdog devices now
  | .poll a => s.poll a
  | .command requests => requests.foldl request s

end HostService

end EspNut
