import EspNut.Control.AutoShutdown
import EspNut.Control.HidControl

/-!
# Commands on a connection that drops

The host is read and written one access after another, and other tasks run in between: the device can be gone before any access, and the host notices before a later one. Without a drop the commands run as they do on a port that stays.
-/

namespace EspNut

open Lib NutTable HidControl

/-- The port of the host, with the status it shows and the two halves of a write: the read of the report, which may give the write up, and the report that is sent. -/
structure RequestPort (σ : Type) extends Port σ where
  statusString : σ → String
  isDataStale : σ → Bool
  readReport : HIDUsageDef → σ → Option (List Byte) × σ
  sendReport : HIDUsageDef → BitVec 32 → List Byte → σ → Bool × σ
  readBack : SetPlan → σ → σ

variable {σ : Type}

/-- The device is gone before one access, and the host forgets it before the same or a later one. -/
structure Drop (port : RequestPort σ) where
  goneAt : Nat
  noticedAt : Nat
  unplug : σ → σ
  forget : σ → σ
  order : goneAt ≤ noticedAt
  unnoticed : ∀ s, port.isConnected (unplug s) = port.isConnected s
  noticed : ∀ s, port.isConnected (forget s) = false

/-- The host after a number of accesses, and the reports sent to a device that was there. -/
structure Moment (σ : Type) where
  state : σ
  accesses : Nat
  sent : Nat
  deriving DecidableEq

namespace Interrupted

variable (port : RequestPort σ) (drop : Option (Drop port))

/-- The device was gone before the last access. -/
def gone (m : Moment σ) : Bool := drop.any fun d => decide (d.goneAt < m.accesses)

/-- What other tasks do before the access. -/
def dropAt (drop : Option (Drop port)) (access : Nat) (s : σ) : σ :=
  match drop with
  | none => s
  | some d =>
      let s := if access = d.goneAt then d.unplug s else s
      if access = d.noticedAt then d.forget s else s

def touch (m : Moment σ) : Moment σ :=
  { m with state := dropAt port drop m.accesses m.state, accesses := m.accesses + 1 }

/-! ### Commands -/

/-- The commands of a connected device. -/
def catalog (s : σ) : List UPSCommandInfo :=
  let known := (port.upsData s).hasKey "ups.beeper.status"
  let beeper := port.supportsBeeperToggle s && (known || port.beeperFieldRead s)
  buildCommands (port.getUsages s) beeper (port.shutdownCommandsSupported s) (port.beeperMuteSupported s)
    (port.commandTable s) known

def supportedCommands (m : Moment σ) : List UPSCommandInfo × Moment σ :=
  let m := touch port drop m
  if port.isConnected m.state = false then ([], m)
  else if port.hasHidPort m.state = false then ([], m)
  else
    let m := touch port drop m  -- the data lock
    (catalog port m.state, m)

/-- The report is read in one access and sent in the next. -/
def writeUsage (field : HIDUsageDef) (value : BitVec 32) (m : Moment σ) : Bool × Moment σ :=
  let m := touch port drop m
  match port.readReport field m.state with
  | (none, s) => (false, { m with state := s })
  | (some report, s) =>
      let m := touch port drop { m with state := s }
      let result := port.sendReport field value report m.state
      (result.1, { m with state := result.2, sent := if gone port drop m then m.sent else m.sent + 1 })

def writePlannedValue (plan : SetPlan) (m : Moment σ) : SetStatus × Moment σ :=
  match plan with
  | .driverSide .. => (.failed, m)
  | .hid _ field raw _ =>
      match writeUsage port drop field (BitVec.ofInt 32 raw) m with
      | (false, m) => (.failed, m)
      | (true, m) =>
          let m := touch port drop m
          (.ok, { m with state := port.readBack plan m.state })

def setVariable (name value : String) (m : Moment σ) : SetStatus × Moment σ :=
  let m := touch port drop m
  if port.isConnected m.state = false then (.notConnected, m)
  else if port.hasHidPort m.state = false then (.unknown, m)
  else
    let m := touch port drop m  -- the plan of the driver
    match port.planSet name value m.state with
    | .error status => (status, m)
    | .ok (.driverSide n v) =>
        let m := touch port drop m
        let saved := port.saveDriverSideValue (.driverSide n v) m.state
        (saved.1, { m with state := saved.2 })
    | .ok plan => writePlannedValue port drop plan m

def writeSteps : List WriteStep → Moment σ → Bool × Moment σ
  | [], m => (true, m)
  | step :: rest, m =>
      match writeUsage port drop step.field (BitVec.ofInt 32 step.value) m with
      | (true, m') => writeSteps rest m'
      | (false, m') => (false, m')

/-- A command of the load or shutdown family, with the table read before. -/
def executeShutdown (name : String) (table : List HidInfo) (m : Moment σ) : CommandResult × Moment σ :=
  let m := touch port drop m  -- the data lock
  let data := port.upsData m.state
  let ret := decide (name = "shutdown.return")
  let startAuto := (ret || name = "shutdown.stayoff") && data.hasKey "ups.start.auto"
  let offDelay := configuredDelay data "ups.delay.shutdown"
  let onDelay := configuredDelay data "ups.delay.start"
  match resolveShutdownSteps (some name) none (port.getUsages m.state) offDelay onDelay table with
  | (.invalidArgument, _) => (.invalidArgument, m)
  | (.notSupported, _) => (.notSupported, m)
  | (.ok, steps) =>
      let m' :=
        if startAuto ∧ steps.length = 2 then
          (setVariable port drop "ups.start.auto" (if ret then "yes" else "no") m).2
        else m
      match writeSteps port drop steps m' with
      | (true, m'') => (.ok, m'')
      | (false, m'') => (.failed, m'')

/-- What every command begins with: the control of the driver, the connection, the commands offered, and the lock of the table. -/
def begin (name : String) (m : Moment σ) : Except CommandResult (List UPSCommandInfo) × Moment σ :=
  let m := touch port drop (touch port drop m)
  if port.isConnected m.state = false then (.error .notConnected, m)
  else if port.hasHidPort m.state = false then (.error .notSupported, m)
  else
    let offered := supportedCommands port drop m
    if offered.1.any (fun c => c.name = name) = false then (.error .notSupported, offered.2)
    else (.ok offered.1, touch port drop offered.2)

/-- An attempt of shutdown.default, as a command of its own. -/
def executeSub (sub : String) (m : Moment σ) : CommandResult × Moment σ :=
  match begin port drop sub m with
  | (.error result, m) => (result, m)
  | (.ok _, m) => executeShutdown port drop sub (port.commandTable m.state) m

def tryShutdowns (offered : List UPSCommandInfo) : List String → Moment σ → CommandResult × Moment σ
  | [], m => (.failed, m)
  | sub :: rest, m =>
      if offered.any (fun c => c.name = sub) then
        match executeSub port drop sub m with
        | (.ok, m') => (.ok, { m' with state := port.noteDefaultShutdown sub m'.state })
        | (_, m') => tryShutdowns offered rest m'
      else tryShutdowns offered rest m

def executeDefault (m : Moment σ) : CommandResult × Moment σ :=
  match begin port drop "shutdown.default" m with
  | (.error result, m) => (result, m)
  | (.ok offered, m) =>
      tryShutdowns port drop offered kFallback { m with state := port.noteDefaultShutdown "" m.state }

/-! ### The check of the automatic shutdown -/

/-- What the check sees before it decides: connection, staleness, status and commands, and the host after these accesses. -/
def observe (m : Moment σ) : (Bool × Bool × String × List UPSCommandInfo) × Moment σ :=
  let m := touch port drop m
  let status := port.statusString m.state
  -- the commands are read only when they can matter
  let offered :=
    if AutoShutdown.onBatteryLow (some status) then supportedCommands port drop (touch port drop m) else ([], m)
  let m := touch port drop offered.2
  let connected := port.isConnected m.state
  let m := touch port drop m
  ((connected, port.isDataStale m.state, status, offered.1), m)

/-- The observation of the check, with the result the command has if it is sent. -/
def observation (m : Moment σ) : AutoShutdown.Observation :=
  let observed := observe port drop m
  { connected := observed.1.1
    stale := observed.1.2.1
    status := observed.1.2.2.1
    commands := observed.1.2.2.2
    result := (executeDefault port drop observed.2).1 }

/-- The result of the command, none when it is not sent, the automatic shutdown and the host after the check. -/
def checkAutoShutdown (shutdown : AutoShutdown) (m : Moment σ) : Option CommandResult × AutoShutdown × Moment σ :=
  let observed := observe port drop m
  let status := some observed.1.2.2.1
  let available := AutoShutdown.onBatteryLow status && AutoShutdown.offersShutdownDefault observed.1.2.2.2
  let updated := AutoShutdown.update observed.1.1 observed.1.2.1 status available shutdown
  if updated.1 = false then (none, updated.2, observed.2)
  else
    let executed := executeDefault port drop observed.2
    if executed.1 = .notConnected then (some executed.1, updated.2.restoreArm, executed.2)
    else (some executed.1, updated.2, executed.2)

/-- The check decides as the one over its observation, and goes on to the command when that sends it. -/
theorem checkAutoShutdown_eq (shutdown : AutoShutdown) (m : Moment σ) :
    checkAutoShutdown port drop shutdown m
      = ((AutoShutdown.checkAutoShutdown (observation port drop m) shutdown).1,
        (AutoShutdown.checkAutoShutdown (observation port drop m) shutdown).2,
        if (AutoShutdown.checkAutoShutdown (observation port drop m) shutdown).1 = none then (observe port drop m).2
        else (executeDefault port drop (observe port drop m).2).2) := by
  unfold checkAutoShutdown AutoShutdown.checkAutoShutdown observation
  dsimp only
  split
  · rfl
  · split
    · rfl
    · rfl

/-! ### Without a drop -/

/-- The same port for commands that nothing interrupts, but for the attempts of shutdown.default. -/
def direct : Port σ :=
  { port.toPort with
    writeUsage := fun field value s =>
      match port.readReport field s with
      | (none, s) => (false, s)
      | (some report, s) => port.sendReport field value report s
    writePlannedValue := fun plan s =>
      match plan with
      | .driverSide .. => (.failed, s)
      | .hid _ field raw _ =>
          match port.readReport field s with
          | (none, s) => (.failed, s)
          | (some report, s) =>
              match port.sendReport field (BitVec.ofInt 32 raw) report s with
              | (false, s) => (.failed, s)
              | (true, s) => (.ok, port.readBack plan s) }

/-- The whole port: an attempt is a command of the same port. -/
def whole : Port σ :=
  { direct port with executeCommand := fun sub s => HidControl.executeCommand (direct port) (some sub) none s }

/-- A run without a drop has the result of the plain run, and its state. -/
def Runs {α : Type} (timed : α × Moment σ) (plain : α × σ) : Prop := timed.1 = plain.1 ∧ timed.2.state = plain.2

theorem Runs.mk_pair {α : Type} {timed : α × Moment σ} {plain : α × σ} (h : Runs timed plain) :
    ∃ accesses sent, timed = (plain.1, ⟨plain.2, accesses, sent⟩) :=
  ⟨timed.2.accesses, timed.2.sent, Prod.ext h.1 (by cases timed with | mk a m => cases m; exact congrArg (Moment.mk · _ _) h.2)⟩

theorem Runs.ite {α : Type} {c : Prop} [Decidable c] {timed timed' : α × Moment σ} {plain plain' : α × σ}
    (h : Runs timed plain) (h' : Runs timed' plain') : Runs (if c then timed else timed') (if c then plain else plain') := by
  split
  · exact h
  · exact h'

theorem runs_writeUsage (field : HIDUsageDef) (value : BitVec 32) (m : Moment σ) :
    Runs (writeUsage port none field value m) ((direct port).writeUsage field value m.state) := by
  show Runs (writeUsage port none field value m)
    (match port.readReport field m.state with
      | (none, s) => (false, s)
      | (some report, s) => port.sendReport field value report s)
  unfold writeUsage
  dsimp only [touch, dropAt]
  rcases port.readReport field m.state with ⟨report, s⟩
  cases report with
  | none => exact ⟨rfl, rfl⟩
  | some report => exact ⟨rfl, rfl⟩

theorem runs_writeSteps (steps : List WriteStep) (m : Moment σ) :
    Runs (writeSteps port none steps m) (HidControl.writeSteps (direct port) steps m.state) := by
  induction steps generalizing m with
  | nil => exact ⟨rfl, rfl⟩
  | cons step rest ih =>
      unfold writeSteps HidControl.writeSteps
      obtain ⟨accesses, sent, htimed⟩ := (runs_writeUsage port step.field (BitVec.ofInt 32 step.value) m).mk_pair
      rw [htimed]
      rcases (direct port).writeUsage step.field (BitVec.ofInt 32 step.value) m.state with ⟨done, s⟩
      cases done with
      | false => exact ⟨rfl, rfl⟩
      | true => exact ih ⟨s, accesses, sent⟩

theorem runs_writePlannedValue (plan : SetPlan) (m : Moment σ) :
    Runs (writePlannedValue port none plan m) ((direct port).writePlannedValue plan m.state) := by
  cases plan with
  | driverSide name value => exact ⟨rfl, rfl⟩
  | hid name field raw value =>
      show Runs _ (match port.readReport field m.state with
        | (none, s) => (SetStatus.failed, s)
        | (some report, s) =>
            match port.sendReport field (BitVec.ofInt 32 raw) report s with
            | (false, s) => (.failed, s)
            | (true, s) => (.ok, port.readBack (.hid name field raw value) s))
      unfold writePlannedValue writeUsage
      dsimp only [touch, dropAt]
      rcases port.readReport field m.state with ⟨report, s⟩
      cases report with
      | none => exact ⟨rfl, rfl⟩
      | some report =>
          dsimp only
          rcases port.sendReport field (BitVec.ofInt 32 raw) report s with ⟨done, s'⟩
          cases done with
          | false => exact ⟨rfl, rfl⟩
          | true => exact ⟨rfl, rfl⟩

theorem runs_setVariable (name value : String) (m : Moment σ) :
    Runs (setVariable port none name value m) (HidControl.setVariable (direct port) (some name) (some value) m.state) := by
  unfold setVariable HidControl.setVariable
  dsimp only [touch, dropAt]
  apply Runs.ite ⟨rfl, rfl⟩
  apply Runs.ite ⟨rfl, rfl⟩
  have hplan : (direct port).planSet name value m.state = port.planSet name value m.state := rfl
  rw [hplan]
  cases port.planSet name value m.state with
  | error status => exact ⟨rfl, rfl⟩
  | ok plan =>
      cases plan with
      | driverSide n v => exact ⟨rfl, rfl⟩
      | hid n field raw v => exact runs_writePlannedValue port (.hid n field raw v) _

theorem runs_executeShutdown (name : String) (m : Moment σ) :
    Runs (executeShutdown port none name (port.commandTable m.state) m)
      (HidControl.executeShutdown (direct port) name none m.state) := by
  unfold executeShutdown HidControl.executeShutdown
  dsimp only [touch, dropAt]
  have hdata : (direct port).upsData m.state = port.upsData m.state := rfl
  have husages : (direct port).getUsages m.state = port.getUsages m.state := rfl
  have htable : (direct port).commandTable m.state = port.commandTable m.state := rfl
  rw [hdata, husages, htable]
  rcases resolveShutdownSteps (some name) none (port.getUsages m.state)
    (configuredDelay (port.upsData m.state) "ups.delay.shutdown")
    (configuredDelay (port.upsData m.state) "ups.delay.start") (port.commandTable m.state) with ⟨result, steps⟩
  cases result with
  | invalidArgument => exact ⟨rfl, rfl⟩
  | notSupported => exact ⟨rfl, rfl⟩
  | ok =>
      dsimp only
      -- the written variable leaves the state of the plain run
      have hfirst : (if ((decide (name = "shutdown.return") || decide (name = "shutdown.stayoff"))
            && (port.upsData m.state).hasKey "ups.start.auto") = true ∧ steps.length = 2 then
          (HidControl.setVariable (direct port) (some "ups.start.auto")
            (some (if decide (name = "shutdown.return") then "yes" else "no")) m.state).2
        else m.state)
          = (if ((decide (name = "shutdown.return") || decide (name = "shutdown.stayoff"))
              && (port.upsData m.state).hasKey "ups.start.auto") = true ∧ steps.length = 2 then
            (setVariable port none "ups.start.auto" (if decide (name = "shutdown.return") then "yes" else "no")
              { m with accesses := m.accesses + 1 }).2
          else { m with accesses := m.accesses + 1 }).state := by
        rw [apply_ite Moment.state, (runs_setVariable port "ups.start.auto" _ _).2]
      rw [hfirst]
      obtain ⟨accesses, sent, htimed⟩ := (runs_writeSteps port steps _).mk_pair
      rw [htimed]
      rcases HidControl.writeSteps (direct port) steps _ with ⟨done, s⟩
      cases done with
      | false => exact ⟨rfl, rfl⟩
      | true => exact ⟨rfl, rfl⟩

theorem supportedCommands_direct (s : σ) :
    HidControl.supportedCommands (direct port) s
      = if port.isConnected s = false then [] else if port.hasHidPort s = false then [] else catalog port s := rfl

/-- The names shutdown.default tries are no beeper commands, and not shutdown.default again. -/
theorem fallback_names : ∀ sub ∈ kFallback, outputOk sub = false ∧ sub ≠ "shutdown.default"
    ∧ (Text.startsWith sub "load." || Text.startsWith sub "shutdown.") = true := by
  decide

theorem runs_executeSub {sub : String} (hsub : sub ∈ kFallback) (m : Moment σ) :
    Runs (executeSub port none sub m) ((whole port).executeCommand sub m.state) := by
  obtain ⟨hbeeper, hdefault, hfamily⟩ := fallback_names sub hsub
  show Runs _ (HidControl.executeCommand (direct port) (some sub) none m.state)
  unfold executeSub begin supportedCommands HidControl.executeCommand
  dsimp only [touch, dropAt]
  rw [supportedCommands_direct]
  by_cases hconnected : port.isConnected m.state = false
  · have hplain : (direct port).isConnected m.state = false := hconnected
    rw [if_pos hconnected, if_pos hplain]
    exact ⟨rfl, rfl⟩
  have hplain : ¬ (direct port).isConnected m.state = false := hconnected
  rw [if_neg hconnected, if_neg hplain]
  by_cases hport : port.hasHidPort m.state = false
  · have hplain : (direct port).hasHidPort m.state = false := hport
    rw [if_pos hport, if_pos hplain]
    exact ⟨rfl, rfl⟩
  have hplain : ¬ (direct port).hasHidPort m.state = false := hport
  rw [if_neg hport, if_neg hplain, if_neg hconnected, if_neg hconnected, if_neg hport, if_neg hport]
  dsimp only
  by_cases hoffered : (catalog port m.state).any (fun c => c.name = sub) = false
  · rw [if_pos hoffered, if_pos hoffered]
    exact ⟨rfl, rfl⟩
  · rw [if_neg hoffered, if_neg hoffered, if_neg (by simp [hbeeper]), if_neg hdefault, if_pos hfamily]
    exact runs_executeShutdown port sub _

theorem runs_tryShutdowns (offered : List UPSCommandInfo) (subs : List String) (hsubs : ∀ sub ∈ subs, sub ∈ kFallback)
    (m : Moment σ) :
    Runs (tryShutdowns port none offered subs m) (HidControl.tryShutdowns (whole port) offered subs m.state) := by
  induction subs generalizing m with
  | nil => exact ⟨rfl, rfl⟩
  | cons sub rest ih =>
      have hrest : ∀ sub ∈ rest, sub ∈ kFallback := fun s hs => hsubs s (List.mem_cons_of_mem sub hs)
      unfold tryShutdowns HidControl.tryShutdowns
      split
      · obtain ⟨accesses, sent, htimed⟩ := (runs_executeSub port (hsubs sub List.mem_cons_self) m).mk_pair
        rw [htimed]
        rcases (whole port).executeCommand sub m.state with ⟨result, s⟩
        cases result with
        | ok => exact ⟨rfl, rfl⟩
        | notSupported => exact ih hrest ⟨s, accesses, sent⟩
        | notConnected => exact ih hrest ⟨s, accesses, sent⟩
        | failed => exact ih hrest ⟨s, accesses, sent⟩
        | invalidArgument => exact ih hrest ⟨s, accesses, sent⟩
      · exact ih hrest m

/-- Without a drop shutdown.default runs as on a port that stays. -/
theorem runs_executeDefault (m : Moment σ) :
    Runs (executeDefault port none m) (HidControl.executeCommand (whole port) (some "shutdown.default") none m.state) := by
  have hsupported : HidControl.supportedCommands (whole port) m.state
      = if port.isConnected m.state = false then []
        else if port.hasHidPort m.state = false then [] else catalog port m.state := rfl
  unfold executeDefault begin supportedCommands HidControl.executeCommand
  dsimp only [touch, dropAt]
  rw [hsupported]
  by_cases hconnected : port.isConnected m.state = false
  · have hplain : (whole port).isConnected m.state = false := hconnected
    rw [if_pos hconnected, if_pos hplain]
    exact ⟨rfl, rfl⟩
  have hplain : ¬ (whole port).isConnected m.state = false := hconnected
  rw [if_neg hconnected, if_neg hplain]
  by_cases hport : port.hasHidPort m.state = false
  · have hplain : (whole port).hasHidPort m.state = false := hport
    rw [if_pos hport, if_pos hplain]
    exact ⟨rfl, rfl⟩
  have hplain : ¬ (whole port).hasHidPort m.state = false := hport
  rw [if_neg hport, if_neg hplain, if_neg hconnected, if_neg hconnected, if_neg hport, if_neg hport]
  dsimp only
  by_cases hoffered : (catalog port m.state).any (fun c => c.name = "shutdown.default") = false
  · rw [if_pos hoffered, if_pos hoffered]
    exact ⟨rfl, rfl⟩
  · rw [if_neg hoffered, if_neg hoffered, if_neg (by decide), if_pos rfl]
    exact runs_tryShutdowns port _ kFallback (fun _ h => h) _

end Interrupted

end EspNut
