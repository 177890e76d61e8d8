import EspNut.Host.Usb
import EspNut.Host.Sweep
import EspNut.Driver.Poll
import EspNut.Control.HidControl
import EspNut.Lib.Run

/-!
# The host between two setups

The poll of the driver, the read behind the export and the writes share one link, and each takes its turn with it. A step of the host is one such turn, or a change from outside. An instant command or SET VAR is a few turns, with anything in between when another task asks for the link.
-/

namespace EspNut

open Lib GenericDriver

/-- A device with the driver attached to it, between two `setup`s. -/
structure Attached (ω : Type) where
  sub : Subdriver
  bus : Bus ω
  parser : HIDParser
  beeperControllable : Bool
  encodeBeeperValue : Bool → Nat → Byte
  requestLength : Nat → Nat → Nat → Nat

/-- The link with the poll of the driver, the export read, and the keys of the reports that answered. -/
structure Session (ω : Type) where
  link : HostState ω Poll
  diag : DiagSweep
  diagRequested : Bool
  cachedReports : List (Nat × Nat)

variable {ω : Type}

def Attached.driver (d : Attached ω) : Driver Poll where
  beeperControllable := d.beeperControllable
  encodeBeeperValue := d.encodeBeeperValue
  requestLength _ := d.requestLength
  noteHostValue key value p := { p with engine := GenericDriver.noteHostValue key value p.engine }

def Attached.host (d : Attached ω) : EspNut.Host ω Poll := ⟨d.bus, some d.driver, d.parser⟩

def Session.initial (world : ω) (data : UPSData) : Session ω :=
  { link :=
      { world
        driverState := Poll.initial data
        readyToPoll := false
        backoffActive := false
        data
        transfers := [] }
    diag := DiagSweep.clear
    diagRequested := false
    cachedReports := [] }

namespace USBHostUPS

variable (d : Attached ω)

/-! ### The paths -/

/-- Whether a request may go out. -/
def mayAsk (link : HostState ω Poll) : Bool := link.readyToPoll && canPoll d.host link

/-- The length of a request, all of the report when it is unknown. -/
def wLength (expected : Nat) : Nat := min (if 0 < expected then expected else 255) bufferSize

/-- The request of a report by the poll, or after SET VAR; its answer is decoded in a step of its own. -/
def requestReport (reportId reportType expected : Nat) (s : Session ω) : Bool × Session ω :=
  if mayAsk d s.link = false then (false, s)
  else
    let (answer, link) := hidClassRequestGetReport d.host reportType reportId (wLength expected) s.link
    if answerBytes answer = [] then (false, { s with link })
    else (true, { s with link, cachedReports := (reportType, reportId) :: s.cachedReports })

/-- The request of one call of the driver's `loop`; a string is not a report. -/
def runRequest : Option Request → Session ω → Session ω
  | some (.requestReport id reportType length), s => (requestReport d id reportType length s).2
  | some (.requestStringDescriptor _), s => s
  | none, s => s

/-- The driver and the host work on the same data. -/
def publish (p : Poll) (s : Session ω) : Session ω :=
  { s with link := { s.link with driverState := p, data := p.engine.data } }

def pollEvent (event : PollEvent) (s : Session ω) : Session ω :=
  let stepped := pollStep d.sub s.link.driverState event
  runRequest d stepped.2 (publish stepped.1 s)

def readResult : Except TransferError (List Byte) → DiagResult
  | .ok [] => .empty
  | .ok _ => .read
  | .error _ => .failed

def startDiagRead (s : Session ω) : Session ω :=
  if s.diagRequested = false then s
  else
    { s with
      diagRequested := false
      diag := DiagSweep.start d.parser.usages s.cachedReports d.sub.acceptPollReport }

/-- The next report of the export read, once the last request is long enough ago. -/
def diagRead (spacingOver : Bool) (s : Session ω) : Session ω :=
  if s.diag.state ≠ .reading then s
  else if canPoll d.host s.link = false then { s with diag := s.diag.interrupt }
  else if spacingOver = false then s
  else match s.diag.next with
    | none => s
    | some (reportType, reportId) =>
        let expected := d.parser.getExpectedLength reportId reportType
        let length := wLength (d.requestLength reportType reportId expected)
        let (answer, link) := hidClassRequestGetReport d.host reportType reportId length s.link
        { s with link, diag := s.diag.record reportId (readResult answer) (answerBytes answer) }

def serviceDiagRead (spacingOver : Bool) (s : Session ω) : Session ω := diagRead d spacingOver (startDiagRead d s)

def writeUsage (field : HIDUsageDef) (value : BitVec 32) (s : Session ω) : Bool × Session ω :=
  let (ok, link) := writeUsageLocked d.host field value s.link
  (ok, { s with link })

def setBeeper (enable : Bool) (field : Option HIDUsageDef) (s : Session ω) : Bool × Session ω :=
  let (ok, link) := setBeeperLocked d.host enable field s.link
  let engine := { link.driverState.engine with data := link.data }
  (ok, { s with link := { link with driverState := { link.driverState with engine } } })

/-- The next poll of the driver reads every report again. -/
def noteWritten (s : Session ω) : Session ω :=
  { s with link := { s.link with driverState := noteDataChanged s.link.driverState } }

def forgetReport (field : HIDUsageDef) (s : Session ω) : Session ω :=
  { s with link := { s.link with
      driverState := invalidateReport reportTypeFeature field.reportId s.link.driverState } }

/-- After a write the report is read back, and read again by the next full poll when that fails. -/
def readBack (field : HIDUsageDef) (s : Session ω) : Session ω :=
  let expected := d.parser.getExpectedLength field.reportId reportTypeFeature
  let length := d.requestLength reportTypeFeature field.reportId expected
  match requestReport d field.reportId reportTypeFeature length (noteWritten s) with
  | (true, s) => s
  | (false, s) => forgetReport field s

def writePlannedValue (field : HIDUsageDef) (raw : Int) (s : Session ω) : SetStatus × Session ω :=
  match writeUsage d field (BitVec.ofInt 32 raw) s with
  | (false, s) => (.failed, s)
  | (true, s) => (.ok, readBack d field s)

/-! ### Runs -/

/-- What happens on the host between two `setup`s; each step holds the lock of the transfers. -/
inductive HostEvent (ω : Type) where
  | poll (event : PollEvent)
  | requestDiagRead
  | serviceDiagRead (spacingOver : Bool)
  | interruptDiagRead
  | writeUsage (field : HIDUsageDef) (value : BitVec 32)
  | setBeeper (enable : Bool) (field : Option HIDUsageDef)
  | writePlannedValue (field : HIDUsageDef) (raw : Int)
  /-- Whatever changes the link and the device outside the requests of reports. -/
  | outside (world : ω) (readyToPoll backoffActive : Bool)

def hostStep (s : Session ω) : HostEvent ω → Session ω
  | .poll event => pollEvent d event s
  | .requestDiagRead =>
      if s.link.readyToPoll = false ∨ s.diag.state = .reading then s else { s with diagRequested := true }
  | .serviceDiagRead spacingOver => serviceDiagRead d spacingOver s
  | .interruptDiagRead => { s with diag := s.diag.interrupt }
  | .writeUsage field value => (writeUsage d field value s).2
  | .setBeeper enable field => (setBeeper d enable field s).2
  | .writePlannedValue field raw => (writePlannedValue d field raw s).2
  | .outside world readyToPoll backoffActive =>
      { s with link := { s.link with world, readyToPoll, backoffActive } }

/-! ### Commands as runs -/

open HidControl

/-- The port of the commands on this host; `base` answers what has nothing to do with the link. -/
def port (base : Port (Session ω)) : Port (Session ω) :=
  { base with
    isConnected := fun s => s.link.readyToPoll
    hasHidPort := fun _ => true
    upsData := fun s => s.link.data
    getUsages := fun _ => d.parser.usages
    setBeeperField := fun field enable s => setBeeper d enable (some field) s
    writeUsage := writeUsage d
    writePlannedValue := fun plan s =>
      match plan with
      | .hid _ field raw _ => writePlannedValue d field raw s
      | .driverSide .. => (.failed, s) }

/-- A write, or new values of the driver. -/
def HostEvent.IsCommand : HostEvent ω → Prop
  | .writeUsage .. | .setBeeper .. | .writePlannedValue .. | .poll (.engine _) => True
  | _ => False

/-- Turns of commands lead from one state to the other. -/
def Reaches (s s' : Session ω) : Prop :=
  ∃ events : List (HostEvent ω), (∀ event ∈ events, event.IsCommand) ∧ s' = run (hostStep d) s events

/-- The calls `base` answers are such turns too. -/
structure BaseReaches (base : Port (Session ω)) : Prop where
  saveDriverSideValue : ∀ plan s, Reaches d s (base.saveDriverSideValue plan s).2
  executeCommand : ∀ sub s, Reaches d s (base.executeCommand sub s).2
  noteDefaultShutdown : ∀ sub s, Reaches d s (base.noteDefaultShutdown sub s)

variable {d : Attached ω}

theorem Reaches.refl (s : Session ω) : Reaches d s s := ⟨[], by simp, rfl⟩

theorem Reaches.trans {s s' s'' : Session ω} (h : Reaches d s s') (h' : Reaches d s' s'') : Reaches d s s'' := by
  obtain ⟨first, hfirst, rfl⟩ := h
  obtain ⟨second, hsecond, rfl⟩ := h'
  refine ⟨first ++ second, ?_, (run_append first second).symm⟩
  intro event hevent
  rcases List.mem_append.mp hevent with hbefore | hafter
  · exact hfirst event hbefore
  · exact hsecond event hafter

theorem reaches_step (event : HostEvent ω) (hcommand : event.IsCommand) (s : Session ω) :
    Reaches d s (hostStep d s event) := by
  refine ⟨[event], ?_, rfl⟩
  intro e he
  rw [List.mem_singleton.mp he]
  exact hcommand

section Commands

variable {base : Port (Session ω)} (hbase : BaseReaches d base)
include hbase

theorem reaches_setVariable (name value : Option String) (s : Session ω) :
    Reaches d s (setVariable (port d base) name value s).2 := by
  unfold setVariable
  split
  · exact Reaches.refl s
  split
  · exact Reaches.refl s
  · exact Reaches.refl s
  · split
    · exact Reaches.refl s
    · split
      · exact Reaches.refl s
      · exact hbase.saveDriverSideValue _ s
      · rename_i plan hdriver hplan
        cases plan with
        | hid name field raw value => exact reaches_step (.writePlannedValue field raw) trivial s
        | driverSide name value => exact Reaches.refl s

omit hbase in
variable (base) in
theorem reaches_writeSteps (steps : List WriteStep) (s : Session ω) :
    Reaches d s (writeSteps (port d base) steps s).2 := by
  induction steps generalizing s with
  | nil => exact Reaches.refl s
  | cons step rest ih =>
      have hwrite : Reaches d s ((port d base).writeUsage step.field (BitVec.ofInt 32 step.value) s).2 :=
        reaches_step (.writeUsage step.field (BitVec.ofInt 32 step.value)) trivial s
      unfold writeSteps
      cases hresult : (port d base).writeUsage step.field (BitVec.ofInt 32 step.value) s with
      | mk ok s' =>
          rw [hresult] at hwrite
          cases ok with
          | true => exact hwrite.trans (ih s')
          | false => exact hwrite

theorem reaches_tryShutdowns (offered : List UPSCommandInfo) (subs : List String) (s : Session ω) :
    Reaches d s (tryShutdowns (port d base) offered subs s).2 := by
  induction subs generalizing s with
  | nil => exact Reaches.refl s
  | cons sub rest ih =>
      have hattempt : Reaches d s ((port d base).executeCommand sub s).2 := hbase.executeCommand sub s
      unfold tryShutdowns
      split
      · split
        · rename_i after hresult
          rw [hresult] at hattempt
          exact hattempt.trans (hbase.noteDefaultShutdown sub after)
        · rename_i result after hfailed hresult
          rw [hresult] at hattempt
          exact hattempt.trans (ih after)
      · exact ih s

omit hbase in
theorem reaches_executeBeeper (name : String) (s : Session ω) :
    Reaches d s (executeBeeper (port d base) name s).2 := by
  unfold executeBeeper
  extract_lets enable
  split
  · exact Reaches.refl s
  · rename_i field hfield
    have hwrite : Reaches d s ((port d base).setBeeperField field enable s).2 :=
      reaches_step (.setBeeper enable (some field)) trivial s
    cases hresult : (port d base).setBeeperField field enable s with
    | mk ok s' =>
        rw [hresult] at hwrite
        cases ok with
        | true => exact hwrite
        | false => exact hwrite

theorem reaches_executeShutdown (name : String) (param : Option String) (s : Session ω) :
    Reaches d s (executeShutdown (port d base) name param s).2 := by
  unfold executeShutdown
  extract_lets data ret startAuto offDelay onDelay
  split
  · exact Reaches.refl s
  · exact Reaches.refl s
  · rename_i steps hsteps
    extract_lets after
    have hafter : Reaches d s after := by
      unfold after
      split
      · exact reaches_setVariable hbase _ _ s
      · exact Reaches.refl s
    have hwritten := hafter.trans (reaches_writeSteps base steps after)
    cases hresult : writeSteps (port d base) steps after with
    | mk ok s' =>
        rw [hresult] at hwritten
        cases ok with
        | true => exact hwritten
        | false => exact hwritten

omit hbase in
theorem reaches_executeWrite (name : String) (s : Session ω) : Reaches d s (executeWrite (port d base) name s).2 := by
  unfold executeWrite
  split
  · exact Reaches.refl s
  · rename_i field value hwrite
    have hwritten : Reaches d s ((port d base).writeUsage field value s).2 :=
      reaches_step (.writeUsage field value) trivial s
    cases hresult : (port d base).writeUsage field value s with
    | mk ok s' =>
        rw [hresult] at hwritten
        cases ok with
        | true => exact hwritten
        | false => exact hwritten

/-- An instant command is a run of the host. -/
theorem reaches_executeCommand (name param : Option String) (s : Session ω) :
    Reaches d s (executeCommand (port d base) name param s).2 := by
  unfold executeCommand
  split
  · exact Reaches.refl s
  · extract_lets offered
    split
    · exact Reaches.refl s
    split
    · exact Reaches.refl s
    split
    · exact Reaches.refl s
    split
    · exact reaches_executeBeeper _ s
    split
    · exact (hbase.noteDefaultShutdown "" s).trans (reaches_tryShutdowns hbase _ _ _)
    split
    · exact reaches_executeShutdown hbase _ param s
    · exact reaches_executeWrite _ s

end Commands

end USBHostUPS

end EspNut
