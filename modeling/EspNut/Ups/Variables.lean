import EspNut.Table.Rows
import EspNut.Ups.Commands

/-!
# Writable variables

The variables a client may set with the checks of their values, and the texts that describe them.
-/

namespace EspNut.NutTable

/-- A writable variable; `driverSide` values are kept by the firmware. -/
structure RWVariable where
  name : String
  aux : Nat
  enums : List String
  driverSide : Bool
  deriving DecidableEq

/-- Outcome of the checks of a value, before anything reaches the UPS. -/
inductive SetCheck where
  | ok | notWritable | invalidAux | tooLong | invalidValue
  deriving DecidableEq

def checkSetValue (rw : List RWVariable) (name value : String) : SetCheck × Option RWVariable :=
  match rw.find? fun v => equalsIgnoreCase v.name name with
  | none => (.notWritable, none)
  | some var =>
      if var.aux < 1 then (.invalidAux, some var)
      else if var.aux < value.toList.length then (.tooLong, some var)
      else if var.enums = [] ∨ value ∈ var.enums then (.ok, some var)
      else (.invalidValue, some var)

def descs : List (String × Option String) :=
  [ ("battery.charge.low", some "Remaining battery level when UPS switches to LB (percent)"),
    ("battery.charge.restart", some "Minimum battery level for restart after power off (percent)"),
    ("battery.energysave", some "Switch off when running on battery and no/low load"),
    ("battery.energysave.delay", some "Delay before switch off UPS if on battery and load level low (min)"),
    ("battery.energysave.load", some "Switch off UPS if on battery and load level lower (percent)"),
    ("battery.energysave.realpower", some "Switch off UPS if on battery and load level lower (Watts)"),
    ("battery.mfr.date", some "Battery manufacturing date"),
    ("battery.protection", some "Prevent deep discharge of battery"),
    ("battery.runtime.low", some "Remaining battery runtime when UPS switches to LB (seconds)"),
    ("input.bypass.switchable", some "Input auto transfer on Bypass when overload or out of tolerance (enabled or disabled)"),
    ("input.frequency.extended", some "Extended input frequency range"),
    ("input.sensitivity", some "Input power sensitivity"),
    ("input.transfer.boost.high", some "High voltage boosting transfer point (V)"),
    ("input.transfer.boost.low", some "Low voltage boosting transfer point (V)"),
    ("input.transfer.bypass.forced", some "Rule for allow auto Bypass switch (on/off) transfer modes (enabled or disabled)"),
    ("input.transfer.bypass.high", some "High voltage Bypass transfer point (V)"),
    ("input.transfer.bypass.low", some "Low voltage Bypass transfer point (V)"),
    ("input.transfer.bypass.outlimits", some "Rule for auto transfer on Bypass when out of tolerance (enabled or disabled)"),
    ("input.transfer.bypass.overload", some "Rule for auto transfer on Bypass when overload (enabled or disabled)"),
    ("input.transfer.eco.high", some "High voltage ECO transfer point (V)"),
    ("input.transfer.eco.low", some "Low voltage ECO transfer point (V)"),
    ("input.transfer.frequency.bypass.range", some "Frequency range Bypass transfer point (percent of nominal Hz)"),
    ("input.transfer.frequency.eco.range", some "Frequency range ECO transfer point (percent of nominal Hz)"),
    ("input.transfer.high", some "High voltage transfer point (V)"),
    ("input.transfer.hysteresis", some "Threshold of switching protection modes, voltage transfer point (V)"),
    ("input.transfer.low", some "Low voltage transfer point (V)"),
    ("input.transfer.trim.high", some "High voltage trimming transfer point (V)"),
    ("input.transfer.trim.low", some "Low voltage trimming transfer point (V)"),
    ("input.voltage.extended", some "Extended input voltage range"),
    ("outlet.1.autoswitch.charge.low", some "Remaining battery level to power off this outlet (percent)"),
    ("outlet.1.delay.shutdown", some "Interval to wait before shutting down this outlet (seconds)"),
    ("outlet.1.delay.start", some "Interval to wait before restarting this outlet (seconds)"),
    ("outlet.1.desc", some "Outlet description"),
    ("outlet.2.autoswitch.charge.low", some "Remaining battery level to power off this outlet (percent)"),
    ("outlet.2.delay.shutdown", some "Interval to wait before shutting down this outlet (seconds)"),
    ("outlet.2.delay.start", some "Interval to wait before restarting this outlet (seconds)"),
    ("outlet.2.desc", some "Outlet description"),
    ("outlet.2.switchable", some "Outlet switch ability"),
    ("outlet.3.autoswitch.charge.low", none),
    ("outlet.3.delay.shutdown", none),
    ("outlet.3.delay.start", none),
    ("outlet.3.desc", none),
    ("outlet.3.switchable", none),
    ("outlet.desc", some "Outlet description"),
    ("outlet.power", none),
    ("output.voltage.nominal", some "Nominal output voltage (V)"),
    ("ups.date", some "Internal UPS clock date"),
    ("ups.delay.shutdown", some "Interval to wait after shutdown with delay command (seconds)"),
    ("ups.delay.start", some "Interval to wait before (re)starting the load (seconds)"),
    ("ups.load.high", some "Load when UPS switches to overload condition (percent)"),
    ("ups.shutdown", some "Enable or disable UPS shutdown ability (poweroff)"),
    ("ups.start.auto", some "UPS starts when mains is (re)applied"),
    ("ups.start.battery", some "Allow to start UPS from battery"),
    ("ups.start.reboot", some "UPS reboots when power returns during shutdown delay"),
    ("ups.test.interval", some "Interval between self tests (seconds)"),
    ("ups.time", some "Internal UPS clock time") ]

def describe (name : String) : Option String :=
  (descs.find? fun d => equalsIgnoreCase d.1 name).bind Prod.snd

end EspNut.NutTable
