import EspNut.Control.Supported

/-!
# What a command leaves behind

Every call of the port that can change the device or a setting is written down beside the state. A refused command has made none of these calls; the steps of a sequence are written in order, up to the first write that fails.
-/

namespace EspNut

open Lib NutTable

/-- A call of the port that reaches the device or the settings, with its outcome. -/
inductive Effect where
  | setBeeperField (field : HIDUsageDef) (enable done : Bool)
  | writeUsage (field : HIDUsageDef) (value : BitVec 32) (done : Bool)
  | saveDriverSideValue (plan : SetPlan) (status : SetStatus)
  | writePlannedValue (plan : SetPlan) (status : SetStatus)
  | executeCommand (sub : String) (result : CommandResult)
  deriving DecidableEq

variable {σ : Type}

/-- The port with its calls written down beside its state. -/
def Port.logged (port : Port σ) : Port (σ × List Effect) where
  isConnected s := port.isConnected s.1
  hasHidPort s := port.hasHidPort s.1
  upsData s := port.upsData s.1
  supportsBeeperToggle s := port.supportsBeeperToggle s.1
  beeperFieldRead s := port.beeperFieldRead s.1
  shutdownCommandsSupported s := port.shutdownCommandsSupported s.1
  beeperMuteSupported s := port.beeperMuteSupported s.1
  commandTable s := port.commandTable s.1
  getUsages s := port.getUsages s.1
  setBeeperField field enable s :=
    let r := port.setBeeperField field enable s.1
    (r.1, r.2, s.2 ++ [.setBeeperField field enable r.1])
  writeUsage field value s :=
    let r := port.writeUsage field value s.1
    (r.1, r.2, s.2 ++ [.writeUsage field value r.1])
  planSet name value s := port.planSet name value s.1
  saveDriverSideValue plan s :=
    let r := port.saveDriverSideValue plan s.1
    (r.1, r.2, s.2 ++ [.saveDriverSideValue plan r.1])
  writePlannedValue plan s :=
    let r := port.writePlannedValue plan s.1
    (r.1, r.2, s.2 ++ [.writePlannedValue plan r.1])
  executeCommand sub s :=
    let r := port.executeCommand sub s.1
    (r.1, r.2, s.2 ++ [.executeCommand sub r.1])
  noteDefaultShutdown sub s := (port.noteDefaultShutdown sub s.1, s.2)

namespace HidControl

variable (port : Port σ)

/-! ### The log stands beside the run -/

/-- A run of the logged port is the run itself, with some effects written down. -/
def Logs {α : Type} (logged : α × σ × List Effect) (plain : α × σ) (log effects : List Effect) : Prop :=
  logged = (plain.1, plain.2, log ++ effects)

theorem logs_nil {α : Type} (result : α) (s : σ) (log : List Effect) : Logs (result, s, log) (result, s) log [] := by
  unfold Logs
  rw [List.append_nil]

theorem Logs.after {α : Type} {logged : α × σ × List Effect} {plain : α × σ} {log first rest : List Effect}
    (h : Logs logged plain (log ++ first) rest) : Logs logged plain log (first ++ rest) := by
  unfold Logs at h ⊢
  rw [h, List.append_assoc]

theorem logged_writeUsage (field : HIDUsageDef) (value : BitVec 32) (s : σ) (log : List Effect) :
    port.logged.writeUsage field value (s, log)
      = ((port.writeUsage field value s).1, (port.writeUsage field value s).2,
        log ++ [.writeUsage field value (port.writeUsage field value s).1]) := rfl

theorem logged_setBeeperField (field : HIDUsageDef) (enable : Bool) (s : σ) (log : List Effect) :
    port.logged.setBeeperField field enable (s, log)
      = ((port.setBeeperField field enable s).1, (port.setBeeperField field enable s).2,
        log ++ [.setBeeperField field enable (port.setBeeperField field enable s).1]) := rfl

/-- What SET VAR of a name does outside: nothing, or the one thing its plan says. -/
def Sets (name value : Option String) (s : σ) (effects : List Effect) : Prop :=
  effects = [] ∨ ∃ n v plan status, name = some n ∧ value = some v ∧ port.planSet n v s = .ok plan
    ∧ (effects = [.saveDriverSideValue plan status] ∨ effects = [.writePlannedValue plan status])

theorem logs_setVariable (name value : Option String) (s : σ) (log : List Effect) :
    ∃ effects, Logs (setVariable port.logged name value (s, log)) (setVariable port name value s) log effects
      ∧ Sets port name value s effects := by
  unfold setVariable
  by_cases hconnected : port.isConnected s = false
  · have hlogged : port.logged.isConnected (s, log) = false := hconnected
    rw [if_pos hconnected, if_pos hlogged]
    exact ⟨[], logs_nil _ _ _, Or.inl rfl⟩
  have hlogged : ¬ port.logged.isConnected (s, log) = false := hconnected
  rw [if_neg hconnected, if_neg hlogged]
  cases name with
  | none => exact ⟨[], logs_nil _ _ _, Or.inl rfl⟩
  | some name =>
      cases value with
      | none => exact ⟨[], logs_nil _ _ _, Or.inl rfl⟩
      | some value =>
          dsimp only
          by_cases hport : port.hasHidPort s = false
          · have hlogged : port.logged.hasHidPort (s, log) = false := hport
            rw [if_pos hport, if_pos hlogged]
            exact ⟨[], logs_nil _ _ _, Or.inl rfl⟩
          have hlogged : ¬ port.logged.hasHidPort (s, log) = false := hport
          rw [if_neg hport, if_neg hlogged]
          cases hplan : port.planSet name value s with
          | error status =>
              have hlogged : port.logged.planSet name value (s, log) = .error status := hplan
              rw [hlogged]
              exact ⟨[], logs_nil _ _ _, Or.inl rfl⟩
          | ok plan =>
              have hlogged : port.logged.planSet name value (s, log) = .ok plan := hplan
              rw [hlogged]
              cases plan with
              | driverSide n v => exact ⟨_, rfl, Or.inr ⟨_, _, _, _, rfl, rfl, hplan, Or.inl rfl⟩⟩
              | hid n field raw v => exact ⟨_, rfl, Or.inr ⟨_, _, _, _, rfl, rfl, hplan, Or.inr rfl⟩⟩

def WriteStep.effect (done : Bool) (step : WriteStep) : Effect :=
  .writeUsage step.field (BitVec.ofInt 32 step.value) done

/-- All steps are written, or those before the first that fails and that one. -/
def WrittenInOrder (steps : List WriteStep) (ok : Bool) (writes : List Effect) : Prop :=
  ok = true ∧ writes = steps.map (WriteStep.effect true)
    ∨ ok = false ∧ ∃ before step after, steps = before ++ step :: after
      ∧ writes = before.map (WriteStep.effect true) ++ [step.effect false]

theorem logs_writeSteps (steps : List WriteStep) (s : σ) (log : List Effect) :
    ∃ writes, Logs (writeSteps port.logged steps (s, log)) (writeSteps port steps s) log writes
      ∧ WrittenInOrder steps (writeSteps port steps s).1 writes := by
  induction steps generalizing s log with
  | nil => exact ⟨[], logs_nil _ _ _, Or.inl ⟨rfl, rfl⟩⟩
  | cons step rest ih =>
      unfold writeSteps
      rw [logged_writeUsage]
      rcases port.writeUsage step.field (BitVec.ofInt 32 step.value) s with ⟨done, s'⟩
      cases done with
      | false => exact ⟨_, rfl, Or.inr ⟨rfl, [], step, rest, rfl, rfl⟩⟩
      | true =>
          obtain ⟨writes, hlog, hwritten⟩ := ih s' (log ++ [step.effect true])
          refine ⟨_, hlog.after, ?_⟩
          rcases hwritten with ⟨hok, hall⟩ | ⟨hok, before, failed, after, hsteps, hsome⟩
          · exact Or.inl ⟨hok, congrArg _ hall⟩
          · exact Or.inr ⟨hok, step :: before, failed, after, congrArg _ hsteps, congrArg _ hsome⟩

/-- The command was not run. -/
def Refused (result : CommandResult) : Prop :=
  result = .notSupported ∨ result = .invalidArgument ∨ result = .notConnected

instance (result : CommandResult) : Decidable (Refused result) := inferInstanceAs (Decidable (_ ∨ _))

theorem not_refused_ok : ¬ Refused .ok := by decide

theorem not_refused_failed : ¬ Refused .failed := by decide

theorem logs_executeBeeper (name : String) (s : σ) (log : List Effect) :
    ∃ effects, Logs (executeBeeper port.logged name (s, log)) (executeBeeper port name s) log effects
      ∧ (Refused (executeBeeper port name s).1 → effects = []) := by
  unfold executeBeeper
  extract_lets enableLogged enable
  have hfield : beeperField (port.logged.commandTable (s, log)) (port.logged.getUsages (s, log)) name enableLogged
      = beeperField (port.commandTable s) (port.getUsages s) name enable := rfl
  rw [hfield]
  cases beeperField (port.commandTable s) (port.getUsages s) name enable with
  | none => exact ⟨[], logs_nil _ _ _, fun _ => rfl⟩
  | some field =>
      dsimp only
      rw [logged_setBeeperField]
      have henable : enableLogged = enable := rfl
      rw [henable]
      rcases port.setBeeperField field enable s with ⟨done, s'⟩
      cases done with
      | true => exact ⟨_, rfl, fun h => absurd h not_refused_ok⟩
      | false => exact ⟨_, rfl, fun h => absurd h not_refused_failed⟩

theorem logs_executeWrite (name : String) (s : σ) (log : List Effect) :
    ∃ effects, Logs (executeWrite port.logged name (s, log)) (executeWrite port name s) log effects
      ∧ (Refused (executeWrite port name s).1 → effects = []) := by
  unfold executeWrite
  have hlogged : resolveWrite name (port.logged.getUsages (s, log)) (port.logged.commandTable (s, log))
      = resolveWrite name (port.getUsages s) (port.commandTable s) := rfl
  rw [hlogged]
  cases resolveWrite name (port.getUsages s) (port.commandTable s) with
  | none => exact ⟨[], logs_nil _ _ _, fun _ => rfl⟩
  | some write =>
      dsimp only
      rw [logged_writeUsage]
      rcases port.writeUsage write.1 write.2 s with ⟨done, s'⟩
      cases done with
      | true => exact ⟨_, rfl, fun h => absurd h not_refused_ok⟩
      | false => exact ⟨_, rfl, fun h => absurd h not_refused_failed⟩

/-! ### Sequences -/

/-- The steps of a load or shutdown command with the delays configured now. -/
def resolvedSteps (name : String) (param : Option String) (s : σ) : StepsResult × List WriteStep :=
  resolveShutdownSteps (some name) param (port.getUsages s) (configuredDelay (port.upsData s) "ups.delay.shutdown")
    (configuredDelay (port.upsData s) "ups.delay.start") (port.commandTable s)

/-- The composite commands set `ups.start.auto` first, when the device has it. -/
def SetsStartAuto (name : String) (steps : List WriteStep) (s : σ) (setting : List Effect) : Prop :=
  setting = []
    ∨ (name = "shutdown.return" ∨ name = "shutdown.stayoff") ∧ steps.length = 2
      ∧ (port.upsData s).hasKey "ups.start.auto" = true
      ∧ Sets port (some "ups.start.auto") (some (if name = "shutdown.return" then "yes" else "no")) s setting

/-- A sequence that runs: the setting, then the steps in order. -/
structure Sequence (name : String) (param : Option String) (s : σ) (result : CommandResult) (effects : List Effect) :
    Prop where
  resolved : (resolvedSteps port name param s).1 = .ok
  ran : result = .ok ∨ result = .failed
  inOrder : ∃ setting writes, effects = setting ++ writes
    ∧ SetsStartAuto port name (resolvedSteps port name param s).2 s setting
    ∧ WrittenInOrder (resolvedSteps port name param s).2 (decide (result = .ok)) writes

/-- What the writes of a sequence answer. -/
def writtenResult (r : Bool × σ) : CommandResult × σ := (if r.1 then .ok else .failed, r.2)

/-- `ups.start.auto` first for a composite command, then the steps. -/
def runSteps (name : String) (steps : List WriteStep) (s : σ) : CommandResult × σ :=
  let composite := decide (name = "shutdown.return") || name = "shutdown.stayoff"
  if (composite && (port.upsData s).hasKey "ups.start.auto") = true ∧ steps.length = 2 then
    writtenResult (writeSteps port steps
      (setVariable port (some "ups.start.auto") (some (if name = "shutdown.return" then "yes" else "no")) s).2)
  else writtenResult (writeSteps port steps s)

theorem executeShutdown_eq (name : String) (param : Option String) (s : σ) :
    executeShutdown port name param s = match resolvedSteps port name param s with
      | (.invalidArgument, _) => (.invalidArgument, s)
      | (.notSupported, _) => (.notSupported, s)
      | (.ok, steps) => runSteps port name steps s := by
  unfold executeShutdown
  extract_lets data ret startAuto offDelay onDelay
  have hsteps : resolveShutdownSteps (some name) param (port.getUsages s) offDelay onDelay (port.commandTable s)
      = resolvedSteps port name param s := rfl
  rw [hsteps]
  rcases resolvedSteps port name param s with ⟨result, steps⟩
  cases result with
  | invalidArgument => rfl
  | notSupported => rfl
  | ok =>
      unfold runSteps
      dsimp only
      simp only [startAuto, ret, decide_eq_true_eq]
      rw [← apply_ite (fun start => writtenResult (writeSteps port steps start))]
      generalize writeSteps port steps _ = written
      rcases written with ⟨done, s'⟩
      cases done <;> rfl

theorem logs_writes (steps : List WriteStep) (s : σ) (log : List Effect) :
    ∃ writes, Logs (writtenResult (writeSteps port.logged steps (s, log))) (writtenResult (writeSteps port steps s)) log
        writes
      ∧ WrittenInOrder steps (decide ((writtenResult (writeSteps port steps s)).1 = .ok)) writes
      ∧ ((writtenResult (writeSteps port steps s)).1 = .ok ∨ (writtenResult (writeSteps port steps s)).1 = .failed) := by
  obtain ⟨writes, hlog, hwritten⟩ := logs_writeSteps port steps s log
  refine ⟨writes, ?_, ?_⟩
  · rw [hlog]
    rfl
  · generalize writeSteps port steps s = r at hwritten
    rcases r with ⟨done, s'⟩
    cases done with
    | true => exact ⟨hwritten, Or.inl rfl⟩
    | false => exact ⟨hwritten, Or.inr rfl⟩

theorem logs_runSteps (name : String) (steps : List WriteStep) (s : σ) (log : List Effect) :
    ∃ setting writes, Logs (runSteps port.logged name steps (s, log)) (runSteps port name steps s) log (setting ++ writes)
      ∧ SetsStartAuto port name steps s setting
      ∧ WrittenInOrder steps (decide ((runSteps port name steps s).1 = .ok)) writes
      ∧ ((runSteps port name steps s).1 = .ok ∨ (runSteps port name steps s).1 = .failed) := by
  unfold runSteps
  extract_lets composite
  by_cases hauto : (composite && (port.upsData s).hasKey "ups.start.auto") = true ∧ steps.length = 2
  · have hlogged : (composite && (port.logged.upsData (s, log)).hasKey "ups.start.auto") = true ∧ steps.length = 2 := hauto
    rw [if_pos hauto, if_pos hlogged]
    generalize hvalue : (if name = "shutdown.return" then "yes" else "no") = value
    obtain ⟨setting, hset, hsets⟩ := logs_setVariable port (some "ups.start.auto") (some value) s log
    obtain ⟨writes, hlog, hwrites⟩ :=
      logs_writes port steps (setVariable port (some "ups.start.auto") (some value) s).2 (log ++ setting)
    rw [hset]
    refine ⟨setting, writes, hlog.after, Or.inr ⟨?_, hauto.2, ?_, hvalue ▸ hsets⟩, hwrites⟩
    · have hcomposite := (Bool.and_eq_true_iff.mp hauto.1).1
      simpa [composite] using hcomposite
    · exact (Bool.and_eq_true_iff.mp hauto.1).2
  · have hlogged : ¬ ((composite && (port.logged.upsData (s, log)).hasKey "ups.start.auto") = true ∧ steps.length = 2) := hauto
    rw [if_neg hauto, if_neg hlogged]
    obtain ⟨writes, hlog, hwrites⟩ := logs_writes port steps s log
    exact ⟨[], writes, hlog, Or.inl rfl, hwrites⟩

theorem logs_executeShutdown (name : String) (param : Option String) (s : σ) (log : List Effect) :
    ∃ effects, Logs (executeShutdown port.logged name param (s, log)) (executeShutdown port name param s) log effects
      ∧ (Refused (executeShutdown port name param s).1 ∧ effects = []
        ∨ Sequence port name param s (executeShutdown port name param s).1 effects) := by
  have hlogged : resolvedSteps port.logged name param (s, log) = resolvedSteps port name param s := rfl
  rw [executeShutdown_eq, executeShutdown_eq, hlogged]
  rcases hsteps : resolvedSteps port name param s with ⟨result, steps⟩
  cases result with
  | invalidArgument => exact ⟨[], logs_nil _ _ _, Or.inl ⟨Or.inr (Or.inl rfl), rfl⟩⟩
  | notSupported => exact ⟨[], logs_nil _ _ _, Or.inl ⟨Or.inl rfl, rfl⟩⟩
  | ok =>
      obtain ⟨setting, writes, hlog, hsetting, hwrites, hran⟩ := logs_runSteps port name steps s log
      refine ⟨setting ++ writes, hlog, Or.inr ⟨?_, hran, setting, writes, rfl, ?_, ?_⟩⟩
      · rw [hsteps]
      · rw [hsteps]
        exact hsetting
      · rw [hsteps]
        exact hwrites

/-! ### The composite shutdown.return -/

theorem length_single (param : Option String) (field : Option HIDUsageDef) (dfl : Int) (takesParam : Bool) :
    (single param field dfl takesParam).2.length ≤ 1 := by
  cases field with
  | none => exact Nat.zero_le 1
  | some field =>
      unfold single
      dsimp only
      generalize (if takesParam = true then param.getD "" else "") = given
      split
      · split
        · exact Nat.zero_le 1
        · split
          · exact Nat.zero_le 1
          · split
            · exact Nat.zero_le 1
            · split
              · exact Nat.le_refl 1
              · exact Nat.zero_le 1
      · split
        · exact Nat.zero_le 1
        · split
          · exact Nat.le_refl 1
          · exact Nat.zero_le 1

/-- The two steps of the composite command: the start-up delay, then the power-off delay. -/
structure ReturnSteps (s : σ) (steps : List WriteStep) (start off : WriteStep) : Prop where
  startUp : (cmdField (port.commandTable s) (port.getUsages s) "load.on.delay").map Prod.fst = some start.field
    ∧ start.value = configuredDelay (port.upsData s) "ups.delay.start"
  powerOff : (cmdField (port.commandTable s) (port.getUsages s) "load.off.delay").map Prod.fst = some off.field
    ∧ off.value = configuredDelay (port.upsData s) "ups.delay.shutdown"
  inOrder : steps = [start, off]

theorem returnSteps_of_length {param : Option String} {s : σ}
    (h : (resolvedSteps port "shutdown.return" param s).2.length = 2) :
    ∃ start off, ReturnSteps port s (resolvedSteps port "shutdown.return" param s).2 start off := by
  revert h
  unfold resolvedSteps
  simp only [resolveShutdownSteps]
  rw [if_neg (by decide), if_neg (by decide), if_neg (by decide), if_neg (by decide), if_neg (by decide),
    if_pos trivial]
  cases cmdField (port.commandTable s) (port.getUsages s) "shutdown.return" with
  | some row =>
      intro h
      have hone := length_single param (some row.1) (cmdDefault row.2) true
      exact absurd (h.symm.trans_le hone) (by omega)
  | none =>
      cases hsd : (cmdField (port.commandTable s) (port.getUsages s) "load.off.delay").map Prod.fst with
      | none => exact fun h => absurd h (by simp)
      | some sd =>
          cases hst : (cmdField (port.commandTable s) (port.getUsages s) "load.on.delay").map Prod.fst with
          | none => exact fun h => absurd h (by simp)
          | some st =>
              dsimp only
              split
              · exact fun h => absurd h (by simp)
              · split
                · exact fun h => absurd h (by simp)
                · exact fun _ => ⟨_, _, ⟨hst, rfl⟩, ⟨hsd, rfl⟩, rfl⟩

/-- The power-off delay is written only after the start-up delay. -/
def StartsFirst (start off : WriteStep) (writes : List Effect) : Prop :=
  writes = [start.effect false] ∨ ∃ done, writes = [start.effect true, off.effect done]

theorem startsFirst_of_written {start off : WriteStep} {ok : Bool} {writes : List Effect}
    (h : WrittenInOrder [start, off] ok writes) : StartsFirst start off writes := by
  rcases h with ⟨-, hall⟩ | ⟨-, before, step, after, hsteps, hwrites⟩
  · exact Or.inr ⟨true, hall⟩
  · cases before with
    | nil =>
        obtain ⟨rfl, -⟩ := List.cons.inj hsteps
        exact Or.inl hwrites
    | cons first rest =>
        obtain ⟨rfl, hrest⟩ := List.cons.inj hsteps
        cases rest with
        | nil =>
            obtain ⟨rfl, -⟩ := List.cons.inj hrest
            exact Or.inr ⟨false, hwrites⟩
        | cons second rest =>
            have hlength := congrArg List.length hrest
            simp at hlength

/-! ### Running a command -/

def effectsOf (name param : Option String) (s : σ) : List Effect := (executeCommand port.logged name param (s, [])).2.2

def isSequence (name : String) : Bool := Text.startsWith name "load." || Text.startsWith name "shutdown."

theorem not_isSequence_of_outputOk {name : String} (h : outputOk name = true) : isSequence name = false := by
  unfold outputOk at h
  simp only [Bool.or_eq_true, decide_eq_true_eq] at h
  rcases h with (rfl | rfl) | rfl <;> decide

/-- A command is refused without any effect, or it runs. -/
theorem logs_executeCommand (name : String) (param : Option String) (s : σ) (log : List Effect)
    (hname : name ≠ "shutdown.default") :
    ∃ effects, Logs (executeCommand port.logged (some name) param (s, log)) (executeCommand port (some name) param s) log
        effects
      ∧ (Refused (executeCommand port (some name) param s).1 → effects = [])
      ∧ (isSequence name = true → ¬ Refused (executeCommand port (some name) param s).1 →
        Sequence port name param s (executeCommand port (some name) param s).1 effects) := by
  have hoffered : supportedCommands port.logged (s, log) = supportedCommands port s := rfl
  unfold executeCommand
  dsimp only
  rw [hoffered]
  by_cases hconnected : port.isConnected s = false
  · have hlogged : port.logged.isConnected (s, log) = false := hconnected
    rw [if_pos hconnected, if_pos hlogged]
    exact ⟨[], logs_nil _ _ _, fun _ => rfl, fun _ h => absurd (Or.inr (Or.inr rfl)) h⟩
  have hlogged : ¬ port.logged.isConnected (s, log) = false := hconnected
  rw [if_neg hconnected, if_neg hlogged]
  by_cases hport : port.hasHidPort s = false
  · have hlogged : port.logged.hasHidPort (s, log) = false := hport
    rw [if_pos hport, if_pos hlogged]
    exact ⟨[], logs_nil _ _ _, fun _ => rfl, fun _ h => absurd (Or.inl rfl) h⟩
  have hlogged : ¬ port.logged.hasHidPort (s, log) = false := hport
  rw [if_neg hport, if_neg hlogged]
  split
  · exact ⟨[], logs_nil _ _ _, fun _ => rfl, fun _ h => absurd (Or.inl rfl) h⟩
  by_cases hbeeper : outputOk name = true
  · rw [if_pos hbeeper, if_pos hbeeper]
    obtain ⟨effects, hlog, hrefused⟩ := logs_executeBeeper port name s log
    refine ⟨effects, hlog, hrefused, fun hsequence => ?_⟩
    rw [not_isSequence_of_outputOk hbeeper] at hsequence
    exact absurd hsequence (by decide)
  rw [if_neg hbeeper, if_neg hbeeper]
  by_cases hsequence : isSequence name = true
  · have hdispatch : (Text.startsWith name "load." || Text.startsWith name "shutdown.") = true := hsequence
    rw [if_pos hdispatch, if_pos hdispatch]
    obtain ⟨effects, hlog, ⟨hrefused, hnone⟩ | hran⟩ := logs_executeShutdown port name param s log
    · exact ⟨effects, hlog, fun _ => hnone, fun _ h => absurd hrefused h⟩
    · refine ⟨effects, hlog, fun h => ?_, fun _ _ => hran⟩
      rcases hran.ran with hok | hfailed
      · exact absurd (hok ▸ h) not_refused_ok
      · exact absurd (hfailed ▸ h) not_refused_failed
  · have hdispatch : ¬ (Text.startsWith name "load." || Text.startsWith name "shutdown.") = true := hsequence
    rw [if_neg hdispatch, if_neg hdispatch]
    obtain ⟨effects, hlog, hrefused⟩ := logs_executeWrite port name s log
    exact ⟨effects, hlog, hrefused, fun h => absurd h hsequence⟩

/-- A refused command leaves nothing behind. A load or shutdown command that runs writes its steps in order up to the first that fails, and the composite shutdown.return never cuts the power before the start-up delay is written. -/
theorem commands_write_in_order (port : Port σ) (s : σ) (name param : Option String)
    (hname : name ≠ some "shutdown.default") :
    Logs (executeCommand port.logged name param (s, [])) (executeCommand port name param s) []
        (effectsOf port name param s)
      ∧ (Refused (executeCommand port name param s).1 → effectsOf port name param s = [])
      ∧ ∀ n, name = some n → isSequence n = true → ¬ Refused (executeCommand port name param s).1 →
        Sequence port n param s (executeCommand port name param s).1 (effectsOf port name param s)
          ∧ (n = "shutdown.return" → (resolvedSteps port n param s).2.length = 2 →
            ∃ start off setting writes, ReturnSteps port s (resolvedSteps port n param s).2 start off
              ∧ effectsOf port name param s = setting ++ writes
              ∧ SetsStartAuto port n (resolvedSteps port n param s).2 s setting
              ∧ StartsFirst start off writes) := by
  cases name with
  | none => exact ⟨logs_nil _ _ _, fun _ => rfl, fun n hn => absurd hn (by simp)⟩
  | some name =>
      obtain ⟨effects, hlog, hrefused, hsequence⟩ := logs_executeCommand port name param s [] (by simpa using hname)
      have heffects : effectsOf port (some name) param s = effects := by
        unfold effectsOf
        rw [hlog]
        rfl
      rw [heffects]
      refine ⟨hlog, hrefused, ?_⟩
      intro n hn hkind hran
      obtain rfl := Option.some.inj hn
      have hrun := hsequence hkind hran
      refine ⟨hrun, ?_⟩
      rintro rfl htwo
      obtain ⟨start, off, hsteps⟩ := returnSteps_of_length port htwo
      obtain ⟨setting, writes, hsplit, hsetting, hwrites⟩ := hrun.inOrder
      refine ⟨start, off, setting, writes, hsteps, hsplit, hsetting, ?_⟩
      rw [hsteps.inOrder] at hwrites
      exact startsFirst_of_written hwrites

/-! A device with both timers that takes a limited number of writes, counted down in its state. -/

def startupField : HIDUsageDef :=
  { timerField with usage := 0x00840056, bitOffset := 16, path := "UPS.Output.DelayBeforeStartup" }

def returnTable : List HidInfo :=
  timerTable ++
    [{ infoType := "load.on.delay", infoFlags := 0, infoLen := 0, hidpath := some "UPS.Output.DelayBeforeStartup",
       dfl := some "30", hidflags := huTypeCmd, conv := .number, lkp := [] }]

def tiringPort : Port Nat where
  isConnected _ := true
  hasHidPort _ := true
  upsData _ := timerData.set "ups.delay.start" "30"
  supportsBeeperToggle _ := true
  beeperFieldRead _ := true
  shutdownCommandsSupported _ := true
  beeperMuteSupported _ := true
  commandTable _ := returnTable
  getUsages _ := [timerField, startupField]
  setBeeperField _ _ left := (decide (0 < left), left - 1)
  writeUsage _ _ left := (decide (0 < left), left - 1)
  planSet _ _ _ := .error .unknown
  saveDriverSideValue _ left := (.ok, left)
  writePlannedValue _ left := (.ok, left)
  executeCommand _ left := (.ok, left)
  noteDefaultShutdown _ left := left

/-- With one write left the start-up delay is written and the power-off delay fails. -/
theorem commands_write_in_order_tiring :
    (executeCommand tiringPort (some "shutdown.return") none 1).1 = .failed
      ∧ ∃ start off setting writes,
        ReturnSteps tiringPort 1 (resolvedSteps tiringPort "shutdown.return" none 1).2 start off
          ∧ effectsOf tiringPort (some "shutdown.return") none 1 = setting ++ writes
          ∧ SetsStartAuto tiringPort "shutdown.return" (resolvedSteps tiringPort "shutdown.return" none 1).2 1 setting
          ∧ StartsFirst start off writes := by
  have hruns : ¬ Refused (executeCommand tiringPort (some "shutdown.return") none 1).1 := by decide +kernel
  obtain ⟨-, -, hsequence⟩ := commands_write_in_order tiringPort 1 (some "shutdown.return") none (by decide)
  obtain ⟨-, hreturn⟩ := hsequence "shutdown.return" rfl (by decide) hruns
  exact ⟨by decide +kernel, hreturn rfl (by decide +kernel)⟩

end HidControl

end EspNut
