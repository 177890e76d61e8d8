import EspNut.Control.Steps

/-!
# Offered commands and refused ones

The list of commands and their execution walk the same rows. An offered command run without a parameter is refused only for the value it would write: a delay that is not configured, or a number the field cannot hold. A command that is not offered is refused and nothing happens.
-/

namespace EspNut.HidControl

open Lib NutTable

/-- The configured delay exists and the field of the row can hold it. -/
def delayFits (table : List HidInfo) (usages : List HIDUsageDef) (data : UPSData) (row key : String) : Bool :=
  decide (configuredDelay data key ≠ kNoDelay) &&
    (cmdField table usages row).any fun (field, _) => fitsField field (configuredDelay data key)

/-- The row's own number can be written into its field. -/
def defaultFits (table : List HidInfo) (usages : List HIDUsageDef) (row : String) : Bool :=
  (cmdField table usages row).any fun (field, dfl) =>
    decide (cmdDefault dfl ≠ kNoDelay) && fitsField field (cmdDefault dfl)

/-- The values the command writes without a parameter are there and fit. -/
def valuesFit (table : List HidInfo) (usages : List HIDUsageDef) (data : UPSData) (name : String) : Bool :=
  let offFits := delayFits table usages data "load.off.delay" "ups.delay.shutdown"
  let onFits := delayFits table usages data "load.on.delay" "ups.delay.start"
  if name = "load.off.delay" then offFits
  else if name = "load.on.delay" then onFits
  else if name = "shutdown.stop" ∨ name = "shutdown.reboot" then defaultFits table usages name
  else if name = "shutdown.return" then
    if has table usages name then defaultFits table usages name else onFits && offFits
  else if name = "shutdown.stayoff" then offFits
  else if Text.startsWith name "test." then
    (cmdField table usages name).any fun (field, dfl) => cmdValueFits field (cmdDefault dfl)
  else true

/-- The command was run, whatever came of its writes. -/
def Ran (result : CommandResult) : Prop := result ≠ .notSupported ∧ result ≠ .invalidArgument

theorem ran_of_written {σ : Type} (written : Bool × σ) :
    Ran (match written with
      | (true, s') => (CommandResult.ok, s')
      | (false, s') => (CommandResult.failed, s')).1 := by
  obtain ⟨ok, s'⟩ := written
  cases ok <;> simp [Ran]

/-! ### Resolving without a parameter -/

theorem fitsField_zero (field : HIDUsageDef) : fitsField field 0 = true := by
  unfold fitsField
  rw [if_neg (by decide), if_neg (by decide)]
  split
  · rfl
  · have hsigned : (0 : Int) < 2 ^ (field.bitSize - 1) := by positivity
    have hplain : (0 : Int) < 2 ^ field.bitSize := by positivity
    dsimp only
    split <;> (rw [decide_eq_true_eq]; omega)

theorem single_default {field : HIDUsageDef} {dfl : Int} (takesParam : Bool) (hset : dfl ≠ kNoDelay)
    (hfits : fitsField field dfl = true) :
    single none (some field) dfl takesParam = (.ok, [⟨field, dfl⟩]) := by
  have hgiven : (if takesParam then (none : Option String).getD "" else "") = "" := by
    cases takesParam <;> rfl
  simp only [single]
  rw [hgiven, if_neg (by simp), if_neg hset, if_pos hfits]

theorem single_none_ne_invalidArgument (field : Option HIDUsageDef) (dfl : Int) (takesParam : Bool) :
    (single none field dfl takesParam).1 ≠ .invalidArgument := by
  have hgiven : (if takesParam then (none : Option String).getD "" else "") = "" := by
    cases takesParam <;> rfl
  cases field with
  | none => simp [single]
  | some f =>
      simp only [single]
      rw [hgiven, if_neg (by simp)]
      split
      · simp
      · split <;> simp

theorem resolveShutdownSteps_none_ne_invalidArgument (name : Option String) (usages : List HIDUsageDef)
    (offDelay onDelay : Int) (table : List HidInfo) :
    (resolveShutdownSteps name none usages offDelay onDelay table).1 ≠ .invalidArgument := by
  cases name with
  | none => simp [resolveShutdownSteps]
  | some n =>
      simp only [resolveShutdownSteps]
      repeat' split
      all_goals first
        | exact single_none_ne_invalidArgument _ _ _
        | simp

theorem delayFits_iff {table : List HidInfo} {usages : List HIDUsageDef} {data : UPSData}
    {row key : String} :
    delayFits table usages data row key = true ↔
      configuredDelay data key ≠ kNoDelay ∧
        ∃ field, (cmdField table usages row).map Prod.fst = some field ∧
          fitsField field (configuredDelay data key) = true := by
  rw [delayFits, Bool.and_eq_true, decide_eq_true_eq]
  cases cmdField table usages row with
  | none => simp
  | some pair => simp

theorem defaultFits_iff {table : List HidInfo} {usages : List HIDUsageDef} {row : String} :
    defaultFits table usages row = true ↔
      ∃ field dfl, cmdField table usages row = some (field, dfl) ∧ cmdDefault dfl ≠ kNoDelay ∧
        fitsField field (cmdDefault dfl) = true := by
  rw [defaultFits]
  cases cmdField table usages row with
  | none => simp
  | some pair =>
      obtain ⟨field, dfl⟩ := pair
      simp

/-! ### Running an offered command -/

variable {σ : Type} (port : Port σ)

theorem executeShutdown_ran {name : String} {param : Option String} {s : σ} {steps : List WriteStep}
    (h : resolveShutdownSteps (some name) param (port.getUsages s)
      (configuredDelay (port.upsData s) "ups.delay.shutdown")
      (configuredDelay (port.upsData s) "ups.delay.start") (port.commandTable s) = (.ok, steps)) :
    Ran (executeShutdown port name param s).1 := by
  simp only [executeShutdown, h]
  exact ran_of_written _

/-- The load and shutdown commands, `shutdown.default` apart. -/
def loadOrShutdown : List String :=
  ["load.off", "load.on", "load.off.delay", "load.on.delay", "shutdown.return", "shutdown.stayoff",
    "shutdown.stop", "shutdown.reboot"]

/-- Every command of the catalog is run in one of five ways. -/
theorem catalog_cases (c : UPSCommandInfo) (hc : c ∈ UpsCommands.table) :
    outputOk c.name = true ∨ c.name = "beeper.mute" ∨ Text.startsWith c.name "test." = true ∨
      c.name ∈ loadOrShutdown ∨ c.name = "shutdown.default" := by
  revert c
  decide

section Offered

variable {usages : List HIDUsageDef} {beeper cmds mute known : Bool} {table : List HidInfo}

/-- The steps of the command, with the configured delays and no parameter, are found. -/
def Resolves (usages : List HIDUsageDef) (data : UPSData) (table : List HidInfo) (name : String) : Prop :=
  ∃ steps, resolveShutdownSteps (some name) none usages (configuredDelay data "ups.delay.shutdown")
    (configuredDelay data "ups.delay.start") table = (.ok, steps)

variable {data : UPSData}

theorem exists_cmdField_of_has {n : String} (h : has table usages n = true) :
    ∃ field dfl, cmdField table usages n = some (field, dfl) := by
  obtain ⟨⟨field, dfl⟩, hcmd⟩ := Option.isSome_iff_exists.mp h
  exact ⟨field, dfl, hcmd⟩

theorem single_row_ok {n : String} (takesParam : Bool) (h : defaultFits table usages n = true) :
    ∃ steps, single none ((cmdField table usages n).map Prod.fst)
      (cmdDefault ((cmdField table usages n).bind Prod.snd)) takesParam = (.ok, steps) := by
  obtain ⟨field, dfl, hcmd, hset, hfits⟩ := defaultFits_iff.mp h
  rw [hcmd]
  exact ⟨_, single_default takesParam hset hfits⟩

theorem single_delay_ok {row key : String} (takesParam : Bool)
    (h : delayFits table usages data row key = true) :
    ∃ steps, single none ((cmdField table usages row).map Prod.fst) (configuredDelay data key) takesParam
      = (.ok, steps) := by
  obtain ⟨hset, field, hcmd, hfits⟩ := delayFits_iff.mp h
  rw [hcmd]
  exact ⟨_, single_default takesParam hset hfits⟩

theorem single_switch_ok {row : String} (h : has table usages row = true) :
    ∃ steps, single none ((cmdField table usages row).map Prod.fst) 0 false = (.ok, steps) := by
  obtain ⟨field, dfl, hcmd⟩ := exists_cmdField_of_has h
  rw [hcmd]
  exact ⟨_, single_default false (by decide) (fitsField_zero field)⟩

theorem resolves_shutdown_return
    (hfit : valuesFit table usages data "shutdown.return" = true) :
    Resolves usages data table "shutdown.return" := by
  have hfit' : (if has table usages "shutdown.return" then defaultFits table usages "shutdown.return"
      else delayFits table usages data "load.on.delay" "ups.delay.start" &&
        delayFits table usages data "load.off.delay" "ups.delay.shutdown") = true := hfit
  by_cases hhas : has table usages "shutdown.return" = true
  · rw [if_pos hhas] at hfit'
    obtain ⟨field, dfl, hcmd, hset, hfits⟩ := defaultFits_iff.mp hfit'
    refine ⟨[⟨field, cmdDefault dfl⟩], ?_⟩
    simp only [resolveShutdownSteps]
    rw [if_neg (by decide), if_neg (by decide), if_neg (by decide), if_neg (by decide),
      if_neg (by decide), if_pos trivial, hcmd]
    exact single_default true hset hfits
  · rw [if_neg hhas, Bool.and_eq_true] at hfit'
    obtain ⟨hon, st, hst, hstFits⟩ := delayFits_iff.mp hfit'.1
    obtain ⟨hoff, sd, hsd, hsdFits⟩ := delayFits_iff.mp hfit'.2
    have hnone : cmdField table usages "shutdown.return" = none := by
      simpa [has] using hhas
    refine ⟨[⟨st, configuredDelay data "ups.delay.start"⟩, ⟨sd, configuredDelay data "ups.delay.shutdown"⟩], ?_⟩
    simp only [resolveShutdownSteps, hsd, hst]
    rw [if_neg (by decide), if_neg (by decide), if_neg (by decide), if_neg (by decide),
      if_neg (by decide), if_pos trivial, hnone]
    simp only
    rw [if_neg (by simp [hon, hoff]), if_neg (by simp [hstFits, hsdFits])]

theorem resolves_shutdown_stayoff (hst : has table usages "load.on.delay" = true)
    (hfit : valuesFit table usages data "shutdown.stayoff" = true) :
    Resolves usages data table "shutdown.stayoff" := by
  obtain ⟨st, dfl, hcmd⟩ := exists_cmdField_of_has hst
  have hst' : (cmdField table usages "load.on.delay").map Prod.fst = some st := by rw [hcmd]; rfl
  have hfit' : delayFits table usages data "load.off.delay" "ups.delay.shutdown" = true := hfit
  obtain ⟨hoff, sd, hsd, hsdFits⟩ := delayFits_iff.mp hfit'
  refine ⟨[⟨st, -1⟩, ⟨sd, configuredDelay data "ups.delay.shutdown"⟩], ?_⟩
  simp only [resolveShutdownSteps, hsd, hst']
  rw [if_neg (by decide), if_neg (by decide), if_neg (by decide), if_neg (by decide),
    if_neg (by decide), if_neg (by decide), if_pos trivial, if_neg hoff, if_neg (by simp [hsdFits])]

/-- An offered load or shutdown command whose values fit has its steps. -/
theorem resolves_of_valuesFit {name : String} (hname : name ∈ loadOrShutdown)
    (hoffered : available usages beeper cmds mute table known name = true)
    (hfit : valuesFit table usages data name = true) : Resolves usages data table name := by
  simp only [loadOrShutdown, List.mem_cons, List.not_mem_nil, or_false] at hname
  rcases hname with rfl | rfl | rfl | rfl | rfl | rfl | rfl | rfl
  · have hhas : (cmds && has table usages "load.off.delay") = true := hoffered
    exact single_switch_ok ((Bool.and_eq_true _ _).mp hhas).2
  · have hhas : (cmds && has table usages "load.on.delay") = true := hoffered
    exact single_switch_ok ((Bool.and_eq_true _ _).mp hhas).2
  · exact single_delay_ok true hfit
  · exact single_delay_ok true hfit
  · exact resolves_shutdown_return hfit
  · have hhas : ((cmds && has table usages "load.off.delay") &&
        (cmds && has table usages "load.on.delay")) = true := hoffered
    simp only [Bool.and_eq_true] at hhas
    exact resolves_shutdown_stayoff hhas.2.2 hfit
  · exact single_row_ok false hfit
  · exact single_row_ok true hfit

theorem isSome_beeperField {name : String} {enable : Bool} (hname : outputOk name = true)
    (henable : name ≠ "beeper.toggle" → enable = decide (name = "beeper.enable"))
    (hoffered : available usages beeper cmds mute table known name = true) :
    (beeperField table usages name enable).isSome = true := by
  simp only [outputOk, Bool.or_eq_true, decide_eq_true_eq] at hname
  have hown : ∀ row, has table usages row = true →
      (if enable then "beeper.enable" else "beeper.disable") = row →
      (beeperField table usages name enable).isSome = true := by
    intro row hhas hrow
    obtain ⟨field, dfl, hcmd⟩ := exists_cmdField_of_has hhas
    simp only [beeperField, hrow, hcmd, Option.isSome_some]
  rcases hname with (rfl | rfl) | rfl
  · have hhas : (beeper && has table usages "beeper.enable") = true := hoffered
    exact hown _ ((Bool.and_eq_true _ _).mp hhas).2 (by rw [henable (by decide)]; rfl)
  · have hhas : (beeper && has table usages "beeper.disable") = true := hoffered
    exact hown _ ((Bool.and_eq_true _ _).mp hhas).2 (by rw [henable (by decide)]; rfl)
  · have hhas : (beeper && known && (has table usages "beeper.toggle" ||
        (has table usages "beeper.enable" && has table usages "beeper.disable"))) = true := hoffered
    simp only [Bool.and_eq_true, Bool.or_eq_true] at hhas
    rcases hhas.2 with htoggle | ⟨hon, hoff⟩
    · obtain ⟨field, dfl, hcmd⟩ := exists_cmdField_of_has htoggle
      simp only [beeperField]
      split
      · rfl
      · rw [if_pos trivial, hcmd]
        rfl
    · cases enable with
      | true => exact hown _ hon rfl
      | false => exact hown _ hoff rfl

end Offered

/-! ### Each way of running -/

variable {s : σ}

theorem mem_supportedCommands {c : UPSCommandInfo} (hc : c ∈ supportedCommands port s) :
    port.isConnected s = true ∧ port.hasHidPort s = true ∧ c ∈ UpsCommands.table ∧
      ∃ beeper known, available (port.getUsages s) beeper (port.shutdownCommandsSupported s)
        (port.beeperMuteSupported s) (port.commandTable s) known c.name = true := by
  unfold supportedCommands at hc
  split at hc
  · exact absurd hc (by simp)
  · rename_i hconnected
    split at hc
    · exact absurd hc (by simp)
    · rename_i hport
      obtain ⟨hmem, hoffered⟩ := List.mem_filter.mp hc
      exact ⟨by simpa using hconnected, by simpa using hport, hmem, _, _, hoffered⟩

theorem executeBeeper_ran {name : String} {beeper cmds mute known : Bool}
    (hname : outputOk name = true)
    (hoffered : available (port.getUsages s) beeper cmds mute (port.commandTable s) known name = true) :
    Ran (executeBeeper port name s).1 := by
  have hsome : (beeperField (port.commandTable s) (port.getUsages s) name
      (if name = "beeper.toggle" then
        decide ((port.upsData s).get "ups.beeper.status" "" = "disabled")
      else decide (name = "beeper.enable"))).isSome = true :=
    isSome_beeperField hname (fun h => by rw [if_neg h]) hoffered
  obtain ⟨field, hfield⟩ := Option.isSome_iff_exists.mp hsome
  simp only [executeBeeper, hfield]
  exact ran_of_written _

theorem tryShutdowns_ran (offered : List UPSCommandInfo) (subs : List String) :
    Ran (tryShutdowns port offered subs s).1 := by
  induction subs generalizing s with
  | nil => simp [tryShutdowns, Ran]
  | cons sub rest ih =>
      simp only [tryShutdowns]
      split
      · split
        · simp [Ran]
        · exact ih
      · exact ih

theorem executeShutdown_ne_invalidArgument (name : String) :
    (executeShutdown port name none s).1 ≠ .invalidArgument := by
  have hargument := resolveShutdownSteps_none_ne_invalidArgument (some name) (port.getUsages s)
    (configuredDelay (port.upsData s) "ups.delay.shutdown")
    (configuredDelay (port.upsData s) "ups.delay.start") (port.commandTable s)
  simp only [executeShutdown]
  split
  · rename_i heq
    rw [heq] at hargument
    exact absurd rfl hargument
  · simp
  · exact (ran_of_written _).2

theorem executeWrite_ne_invalidArgument (name : String) : (executeWrite port name s).1 ≠ .invalidArgument := by
  simp only [executeWrite]
  split
  · simp
  · exact (ran_of_written _).2

theorem executeWrite_ran {name : String} {field : HIDUsageDef} {dfl : Option String}
    (hname : name = "beeper.mute" ∨ Text.startsWith name "test." = true)
    (hcmd : cmdField (port.commandTable s) (port.getUsages s) name = some (field, dfl))
    (hfits : cmdValueFits field (cmdDefault dfl) = true) : Ran (executeWrite port name s).1 := by
  have hkind : ¬(name ≠ "beeper.mute" ∧ Text.startsWith name "test." = false) := by
    rintro ⟨hmute, htest⟩
    rcases hname with h | h
    · exact hmute h
    · rw [htest] at h
      exact absurd h (by simp)
  simp only [executeWrite, resolveWrite]
  rw [if_neg hkind, hcmd]
  simp only [hfits, if_true]
  exact ran_of_written _

/-- An offered command is dispatched to the way of running its name belongs to. -/
theorem executeCommand_offered {c : UPSCommandInfo} (hc : c ∈ supportedCommands port s)
    (param : Option String) :
    executeCommand port (some c.name) param s =
      if outputOk c.name then executeBeeper port c.name s
      else if c.name = "shutdown.default" then
        tryShutdowns port (supportedCommands port s) kFallback (port.noteDefaultShutdown "" s)
      else if Text.startsWith c.name "load." || Text.startsWith c.name "shutdown." then
        executeShutdown port c.name param s
      else executeWrite port c.name s := by
  obtain ⟨hconnected, hport, -, -⟩ := mem_supportedCommands port hc
  have hany : (supportedCommands port s).any (fun o => o.name = c.name) = true :=
    List.any_eq_true.mpr ⟨c, hc, by simp⟩
  simp only [executeCommand]
  rw [if_neg (by simp [hconnected]), if_neg (by simp [hport]), if_neg (by simp [hany])]

theorem executeCommand_ne_invalidArgument {c : UPSCommandInfo} (hc : c ∈ supportedCommands port s) :
    (executeCommand port (some c.name) none s).1 ≠ .invalidArgument := by
  obtain ⟨-, -, -, beeper, known, hoffered⟩ := mem_supportedCommands port hc
  rw [executeCommand_offered port hc]
  split
  · rename_i hname
    exact (executeBeeper_ran port hname hoffered).2
  · split
    · exact (tryShutdowns_ran port _ _).2
    · split
      · exact executeShutdown_ne_invalidArgument port _
      · exact executeWrite_ne_invalidArgument port _

theorem loadOrShutdown_dispatch {name : String} (h : name ∈ loadOrShutdown) :
    outputOk name = false ∧ name ≠ "shutdown.default" ∧
      (Text.startsWith name "load." || Text.startsWith name "shutdown.") = true := by
  revert name
  decide

/-- The mute and test commands are neither beeper switches nor shutdowns. -/
theorem write_dispatch {c : UPSCommandInfo} (hc : c ∈ UpsCommands.table)
    (h : c.name = "beeper.mute" ∨ Text.startsWith c.name "test." = true) :
    outputOk c.name = false ∧ c.name ≠ "shutdown.default" ∧
      (Text.startsWith c.name "load." || Text.startsWith c.name "shutdown.") = false := by
  revert c
  decide

theorem valuesFit_test {table : List HidInfo} {usages : List HIDUsageDef} {data : UPSData} {name : String}
    (h : Text.startsWith name "test." = true) :
    valuesFit table usages data name =
      (cmdField table usages name).any fun (field, dfl) => cmdValueFits field (cmdDefault dfl) := by
  have hne : ∀ other, Text.startsWith other "test." = false → name ≠ other := by
    rintro other hother rfl
    rw [hother] at h
    exact absurd h (by simp)
  simp only [valuesFit]
  rw [if_neg (hne _ (by decide)), if_neg (hne _ (by decide)),
    if_neg (not_or.mpr ⟨hne _ (by decide), hne _ (by decide)⟩), if_neg (hne _ (by decide)),
    if_neg (hne _ (by decide)), if_pos h]

theorem executeCommand_ran {c : UPSCommandInfo} (hc : c ∈ supportedCommands port s)
    (hfit : valuesFit (port.commandTable s) (port.getUsages s) (port.upsData s) c.name = true) :
    Ran (executeCommand port (some c.name) none s).1 := by
  obtain ⟨-, -, hmem, beeper, known, hoffered⟩ := mem_supportedCommands port hc
  rw [executeCommand_offered port hc]
  have hwrite : (c.name = "beeper.mute" ∨ Text.startsWith c.name "test." = true) →
      ((cmdField (port.commandTable s) (port.getUsages s) c.name).any
        fun (field, dfl) => cmdValueFits field (cmdDefault dfl)) = true →
      Ran (if outputOk c.name then executeBeeper port c.name s
        else if c.name = "shutdown.default" then
          tryShutdowns port (supportedCommands port s) kFallback (port.noteDefaultShutdown "" s)
        else if Text.startsWith c.name "load." || Text.startsWith c.name "shutdown." then
          executeShutdown port c.name none s
        else executeWrite port c.name s).1 := by
    intro hname hany
    obtain ⟨⟨field, dfl⟩, hcmd, hfits⟩ := (Option.any_eq_true _ _).mp hany
    obtain ⟨hbeeper, hdefault, hshutdown⟩ := write_dispatch hmem hname
    rw [if_neg (by simp [hbeeper]), if_neg hdefault, if_neg (by simp [hshutdown])]
    exact executeWrite_ran port hname hcmd hfits
  rcases catalog_cases c hmem with hname | hname | hname | hname | hname
  · rw [if_pos hname]
    exact executeBeeper_ran port hname hoffered
  · refine hwrite (Or.inl hname) ?_
    rw [hname] at hoffered ⊢
    exact ((Bool.and_eq_true _ _).mp hoffered).2
  · rw [valuesFit_test hname] at hfit
    exact hwrite (Or.inr hname) hfit
  · obtain ⟨hbeeper, hdefault, hshutdown⟩ := loadOrShutdown_dispatch hname
    rw [if_neg (by simp [hbeeper]), if_neg hdefault, if_pos hshutdown]
    obtain ⟨steps, hsteps⟩ := resolves_of_valuesFit hname hoffered hfit
    exact executeShutdown_ran port hsteps
  · rw [hname, if_neg (by decide), if_pos rfl]
    exact tryShutdowns_ran port _ _

/-- The commands offered are those that run: without a parameter none of them is refused for its argument, and none at all when the values it writes are configured and fit their fields. Any other name is refused and changes nothing. -/
theorem supportedCommands_agree (port : Port σ) (s : σ) :
    (∀ c ∈ supportedCommands port s,
      (executeCommand port (some c.name) none s).1 ≠ .invalidArgument ∧
        (valuesFit (port.commandTable s) (port.getUsages s) (port.upsData s) c.name = true →
          (executeCommand port (some c.name) none s).1 ≠ .notSupported)) ∧
      ∀ name param, port.isConnected s = true → (∀ c ∈ supportedCommands port s, c.name ≠ name) →
        executeCommand port (some name) param s = (.notSupported, s) := by
  refine ⟨fun c hc => ⟨executeCommand_ne_invalidArgument port hc,
    fun hfit => (executeCommand_ran port hc hfit).1⟩, fun name param hconnected hname => ?_⟩
  have hany : (supportedCommands port s).any (fun o => o.name = name) = false := by
    rw [List.any_eq_false]
    intro c hc
    simpa using hname c hc
  simp only [executeCommand]
  rw [if_neg (by simp [hconnected])]
  split
  · rfl
  · rfl

/-! A device whose reads and writes all succeed; its state is the list of writes it got. -/

def workingPort (table : List HidInfo) (usages : List HIDUsageDef) (data : UPSData) :
    Port (List (HIDUsageDef × BitVec 32)) where
  isConnected _ := true
  hasHidPort _ := true
  upsData _ := data
  supportsBeeperToggle _ := true
  beeperFieldRead _ := true
  shutdownCommandsSupported _ := true
  beeperMuteSupported _ := true
  commandTable _ := table
  getUsages _ := usages
  setBeeperField field enable writes := (true, writes ++ [(field, if enable then 2 else 1)])
  writeUsage field value writes := (true, writes ++ [(field, value)])
  planSet _ _ _ := .error .unknown
  saveDriverSideValue _ writes := (.ok, writes)
  writePlannedValue _ writes := (.ok, writes)
  executeCommand _ writes := (.ok, writes)
  noteDefaultShutdown _ writes := writes

/-- Without a configured delay `load.off.delay` is offered and refused. -/
theorem offered_command_refused :
    (supportedCommands (workingPort timerTable [timerField] UPSData.empty) []).any
        (fun c => c.name = "load.off.delay") = true ∧
      executeCommand (workingPort timerTable [timerField] UPSData.empty) (some "load.off.delay") none [] =
        (.notSupported, []) := by
  decide

theorem supportedCommands_agree_timer :
    valuesFit timerTable [timerField] timerData "load.off.delay" = true ∧
      (executeCommand (workingPort timerTable [timerField] timerData) (some "load.off.delay") none []).1 ≠
        .notSupported := by
  have hfit : valuesFit timerTable [timerField] timerData "load.off.delay" = true := by decide
  exact ⟨hfit, ((supportedCommands_agree (workingPort timerTable [timerField] timerData) []).1
    ⟨"load.off.delay", "Turn off the load with a delay (seconds)", true⟩ (by decide)).2 hfit⟩

end EspNut.HidControl
