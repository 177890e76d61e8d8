import EspNut.Hid.Usages

/-!
# The instant commands the bridge knows

The catalog names, describes and marks the commands that cut power to the load; it does not depend on the attached device.
-/

namespace EspNut

structure UPSCommandInfo where
  name : String
  description : String
  destructive : Bool
  deriving DecidableEq

inductive CommandResult where
  | ok | notSupported | notConnected | failed | invalidArgument
  deriving DecidableEq

/-- Outcome of a SET VAR. -/
inductive SetStatus where
  | ok | unknown | conversionFailed | failed | notConnected
  deriving DecidableEq

namespace UpsCommands

def table : List UPSCommandInfo :=
  [⟨"beeper.enable", "Enable the UPS beeper", false⟩,
    ⟨"beeper.disable", "Disable the UPS beeper", false⟩,
    ⟨"beeper.toggle", "Toggle the UPS beeper", false⟩,
    ⟨"beeper.mute", "Temporarily mute the UPS beeper", false⟩,
    ⟨"test.battery.start", "Start a battery test", false⟩,
    ⟨"test.battery.start.quick", "Start a quick battery test", false⟩,
    ⟨"test.battery.start.deep", "Start a deep battery test", false⟩,
    ⟨"test.battery.stop", "Stop the battery test", false⟩,
    ⟨"test.panel.start", "Start testing the UPS panel", false⟩,
    ⟨"test.panel.stop", "Stop a UPS panel test", false⟩,
    ⟨"load.off", "Turn off the load immediately", true⟩,
    ⟨"load.on", "Turn on the load immediately", true⟩,
    ⟨"load.off.delay", "Turn off the load with a delay (seconds)", true⟩,
    ⟨"load.on.delay", "Turn on the load with a delay (seconds)", true⟩,
    ⟨"shutdown.return", "Turn off the load and return when power is back", true⟩,
    ⟨"shutdown.stayoff", "Turn off the load and remain off", true⟩,
    ⟨"shutdown.stop", "Stop a shutdown in progress", true⟩,
    ⟨"shutdown.reboot", "Shut down the load briefly while rebooting the UPS", true⟩,
    ⟨"shutdown.default", "Run the driver-defined UPS shutdown sequence (as opposed to user-configured 'sdcommands')", true⟩]

def find (name : String) : Option UPSCommandInfo := table.find? fun c => c.name = name

end UpsCommands

end EspNut
