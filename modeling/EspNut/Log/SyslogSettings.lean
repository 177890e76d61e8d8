import EspNut.Log.Dispatcher
import EspNut.Log.SyslogFormat

/-!
# The settings of the syslog output

What the user sets, which values are kept, and what is written about a change: to the server that gets nothing more after it, to the one that gets the lines from now on, and to the log of the board alone.
-/

namespace EspNut

open Lib

/-! ### Names -/

structure SyslogFacility where
  name : String
  code : UInt8

def syslogFacilities : List SyslogFacility :=
  [⟨"user", 1⟩, ⟨"daemon", 3⟩, ⟨"local0", 16⟩, ⟨"local1", 17⟩, ⟨"local2", 18⟩, ⟨"local3", 19⟩, ⟨"local4", 20⟩,
    ⟨"local5", 21⟩, ⟨"local6", 22⟩, ⟨"local7", 23⟩]

def syslogFacilityName (code : UInt8) : Option String :=
  (syslogFacilities.find? fun facility => facility.code = code).map SyslogFacility.name

def parseSyslogFacility (name : String) : Option UInt8 :=
  (syslogFacilities.find? fun facility => sameName name facility.name).map SyslogFacility.code

def syslogProtocolName : SyslogProtocol → String
  | .rfc3164 => "rfc3164"
  | .rfc5424 => "rfc5424"

def parseSyslogProtocol (name : String) : Option SyslogProtocol :=
  if sameName name "rfc3164" then some .rfc3164 else if sameName name "rfc5424" then some .rfc5424 else none

/-- The names that are offered are read back, each as its own code. -/
theorem parseSyslogFacility_of_name {code : UInt8} {name : String} (h : syslogFacilityName code = some name) :
    parseSyslogFacility name = some code := by
  have hread : ∀ facility ∈ syslogFacilities, parseSyslogFacility facility.name = some facility.code := by decide
  obtain ⟨facility, hfound, rfl⟩ := Option.map_eq_some_iff.mp h
  have hcode : facility.code = code := by simpa using List.find?_some hfound
  rw [hread facility (List.mem_of_find?_eq_some hfound), hcode]

theorem parseSyslogProtocol_of_name (protocol : SyslogProtocol) :
    parseSyslogProtocol (syslogProtocolName protocol) = some protocol := by
  cases protocol <;> decide

/-! ### Settings -/

structure SyslogSettings where
  enabled : Bool
  /-- an address or the name of a host -/
  host : String
  port : UInt16
  protocol : SyslogProtocol
  facility : UInt8
  minLevel : LogLevel
  rate : UInt16
  deriving DecidableEq

def syslogDefaultPort : UInt16 := 514
def syslogDefaultFacility : UInt8 := 16
def syslogHostMax : Nat := 63

def syslogDefaults : SyslogSettings :=
  ⟨false, "", syslogDefaultPort, .rfc3164, syslogDefaultFacility, .info, LogOutputFilter.defaultRate.toUInt16⟩

def isHostChar (c : Char) : Bool :=
  'a' ≤ c && c ≤ 'z' || 'A' ≤ c && c ≤ 'Z' || '0' ≤ c && c ≤ '9' || c = '-' || c = '.'

/-- The rules of a host's name, which an address follows too. -/
def validHost (max : Nat) (host : String) : Bool :=
  decide (host.length ≠ 0 ∧ host.length ≤ max) && host.toList.all isHostChar
    && decide (host.toList.head? ≠ some '.' ∧ host.toList.head? ≠ some '-' ∧ host.toList.getLast? ≠ some '.')

def validSyslogHost (host : String) : Bool := validHost syslogHostMax host

theorem host_kept (max : Nat) (host : String) :
    (if 0 < host.length ∧ validHost max host = false then "" else host) = ""
      ∨ validHost max (if 0 < host.length ∧ validHost max host = false then "" else host) = true := by
  split
  · exact Or.inl rfl
  · rename_i hkept
    by_cases hempty : host = ""
    · exact Or.inl hempty
    · have hlength : 0 < host.length := Nat.pos_of_ne_zero (by simpa using hempty)
      exact Or.inr (by simpa [hlength] using hkept)

theorem host_of_valid {max : Nat} {host : String} (h : host = "" ∨ validHost max host = true) :
    (if 0 < host.length ∧ validHost max host = false then "" else host) = host := by
  refine if_neg ?_
  rintro ⟨hlength, hinvalid⟩
  obtain rfl | hvalid := h
  · exact absurd hlength (by decide)
  · exact absurd (hvalid.symm.trans hinvalid) (by decide)

/-- Without a name the switch is off. -/
theorem on_of_named {host : String} {on : Bool} (h : on = true → host ≠ "") : (if host.length = 0 then false else on) = on := by
  split
  · rename_i hlength
    cases on with
    | false => rfl
    | true => exact absurd (by simpa using hlength) (h rfl)
  · rfl

namespace SyslogSettings

/-- A value that cannot be is replaced by the default; without a server nothing could be sent, so the output is off. -/
def sanitize (s : SyslogSettings) : SyslogSettings :=
  let d := syslogDefaults
  let host := if 0 < s.host.length ∧ validSyslogHost s.host = false then "" else s.host
  { s with
    port := if s.port = 0 then d.port else s.port
    facility := if (syslogFacilityName s.facility).isNone then d.facility else s.facility
    rate := if s.rate.toNat < LogOutputFilter.minRate ∨ LogOutputFilter.maxRate < s.rate.toNat then d.rate else s.rate
    host
    enabled := if host.length = 0 then false else s.enabled }

/-- Settings the output can work with. -/
structure Valid (s : SyslogSettings) : Prop where
  port : s.port ≠ 0
  facility : (syslogFacilityName s.facility).isSome
  rate : LogOutputFilter.minRate ≤ s.rate.toNat ∧ s.rate.toNat ≤ LogOutputFilter.maxRate
  host : s.host = "" ∨ validSyslogHost s.host = true
  enabled : s.enabled = true → s.host ≠ ""

theorem valid_defaults : syslogDefaults.Valid :=
  ⟨by decide, by decide, by decide, Or.inl rfl, fun h => absurd h Bool.false_ne_true⟩

/-- Whatever was kept, the output gets settings it can work with. -/
theorem valid_sanitize (s : SyslogSettings) : s.sanitize.Valid := by
  have hdefaults := valid_defaults
  constructor
  case port =>
    simp only [sanitize]
    split
    · exact hdefaults.port
    · assumption
  case facility =>
    simp only [sanitize]
    split
    · exact hdefaults.facility
    · rename_i hnamed
      rwa [Bool.not_eq_true, Option.isNone_eq_false_iff] at hnamed
  case rate =>
    simp only [sanitize]
    split
    · exact hdefaults.rate
    · omega
  case host => exact host_kept syslogHostMax s.host
  case enabled =>
    intro henabled hempty
    simp only [sanitize] at henabled hempty
    rw [hempty] at henabled
    simp at henabled

theorem sanitize_of_valid {s : SyslogSettings} (h : s.Valid) : s.sanitize = s := by
  obtain ⟨enabled, host, port, protocol, facility, minLevel, rate⟩ := s
  obtain ⟨hport, hfacility, hrate, hhost, henabled⟩ := h
  have hkept : (if 0 < host.length ∧ validSyslogHost host = false then "" else host) = host := host_of_valid hhost
  have hfacility' : ¬ (syslogFacilityName facility).isNone = true := by
    rwa [Bool.not_eq_true, Option.isNone_eq_false_iff]
  have hrate' : ¬ (rate.toNat < LogOutputFilter.minRate ∨ LogOutputFilter.maxRate < rate.toNat) := by
    rintro (hlow | hhigh)
    · exact absurd hrate.1 (Nat.not_le.mpr hlow)
    · exact absurd hrate.2 (Nat.not_le.mpr hhigh)
  simp only [sanitize, hkept, if_neg hport, if_neg hfacility', if_neg hrate', on_of_named henabled]

end SyslogSettings

/-! ### Changes -/

/-- What is written about a change, each text empty when nothing is. -/
structure SyslogChangeLog where
  /-- for the server that gets nothing after the change -/
  toOld : String
  /-- a notice for the new server -/
  toNew : String
  /-- an ordinary line -/
  onBoard : String

def syslogSummary (s : SyslogSettings) : String :=
  s.host ++ ":" ++ toString s.port.toNat ++ ", " ++ (if s.protocol = .rfc5424 then "RFC 5424" else "RFC 3164") ++ ", facility "
    ++ (syslogFacilityName s.facility).getD "" ++ ", " ++ logLevelName s.minLevel ++ " and above, max "
    ++ toString s.rate.toNat ++ " lines/s"

/-- The settings that differ, one after the other. -/
def syslogChanges (old new : SyslogSettings) : List String :=
  (if old.minLevel ≠ new.minLevel then
      ["minimum level " ++ logLevelName old.minLevel ++ " -> " ++ logLevelName new.minLevel] else [])
    ++ (if old.protocol ≠ new.protocol then
      ["format " ++ syslogProtocolName old.protocol ++ " -> " ++ syslogProtocolName new.protocol] else [])
    ++ (if old.facility ≠ new.facility then
      ["facility " ++ (syslogFacilityName old.facility).getD "" ++ " -> " ++ (syslogFacilityName new.facility).getD ""] else [])
    ++ (if old.rate ≠ new.rate then
      ["max lines/s " ++ toString old.rate.toNat ++ " -> " ++ toString new.rate.toNat] else [])

/-- Nobody has made the change of the settings that are loaded at the start. -/
def planSyslogChange (old new : SyslogSettings) (who : String) : SyslogChangeLog :=
  let author := " by '" ++ who ++ "'"
  if who = "" then
    { toOld := "", toNew := "", onBoard := if new.enabled then "[SYSLOG] Remote logging on: " ++ syslogSummary new else "" }
  else if old.enabled = false ∧ new.enabled = false then
    { toOld := "", toNew := "", onBoard := "[SYSLOG] Settings saved" ++ author ++ " (remote logging off)" }
  else if new.enabled = false then
    { toOld := "[SYSLOG] Remote logging disabled" ++ author, toNew := "", onBoard := "[SYSLOG] Remote logging disabled" ++ author }
  else if old.enabled = false then
    { toOld := "", toNew := "[SYSLOG] Remote logging enabled" ++ author ++ ": " ++ syslogSummary new, onBoard := "" }
  else if old.host ≠ new.host ∨ old.port ≠ new.port then
    { toOld := "[SYSLOG] Remote logging moved to " ++ new.host ++ ":" ++ toString new.port.toNat ++ author
      toNew := "[SYSLOG] Remote logging moved here from " ++ old.host ++ ":" ++ toString old.port.toNat ++ author ++ ": "
        ++ syslogSummary new
      onBoard := "" }
  else if syslogChanges old new = [] then { toOld := "", toNew := "", onBoard := "" }
  else
    { toOld := "", toNew := "[SYSLOG] Settings changed" ++ author ++ ": " ++ ", ".intercalate (syslogChanges old new), onBoard := "" }

end EspNut
