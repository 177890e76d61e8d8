import EspNut.Ups.Data
import EspNut.Lib.Text
import EspNut.Lib.Rounding

/-!
# The status of the UPS

The status string, the alarms and the reason of the last transfer are computed from the internal keys the driver publishes, and the real power is estimated for the devices that do not measure it.
-/

namespace EspNut.UPSData

open Lib Rounding

/-- A value as a `float`, the default when it is missing. -/
def getFloat (d : UPSData) (key : String) (defaultValue : ℚ) : ℚ :=
  match d.find key with
  | none => defaultValue
  | some text => toFloat (strtod text.toList)

def flagSet (d : UPSData) (key : String) : Bool := d.getBool key

/-! ### The status string -/

/-- The text the condition adds to the status. -/
def token (condition : Bool) (text : String) : List String := if condition then [text] else []

/-- The power is on mains: by its key, or while the UPS works and does not discharge. -/
def onMains (d : UPSData) (dischrg : Bool) : Bool :=
  if d.hasKey "ups.status.ac_present" then d.getBool "ups.status.ac_present"
  else d.hasKey "ups.status.good" && d.getBool "ups.status.good" && !dischrg

/-- A charging battery is shown unless it is full: by its key, or by the charge. -/
def showsCharging (d : UPSData) : Bool :=
  let batteryCharge := d.getFloat "battery.charge" (-1)
  (d.hasKey "ups.status.charging" && d.getBool "ups.status.charging")
    && if d.hasKey "ups.status.fully_charged" then !d.getBool "ups.status.fully_charged"
      else decide (0 < batteryCharge ∧ batteryCharge < 100)

/-- The tokens of the status, in their order. -/
def statusTokens (d : UPSData) : List String :=
  let dischrg := d.hasKey "ups.status.discharging" && d.getBool "ups.status.discharging"
  let hasAc := d.hasKey "ups.status.ac_present"
  token (d.flagSet "ups.status.cal") "CAL"
    ++ token (d.onMains dischrg) "OL"
    ++ token (if hasAc then !d.getBool "ups.status.ac_present" else dischrg) "OB"
    ++ token (dischrg && !d.getBool "ups.status.depleted") "DISCHRG"
    ++ token d.showsCharging "CHRG"
    ++ token (d.getBool "ups.status.battery_low" || d.getBool "ups.status.remaining_time_limit_expired"
        || d.getBool "ups.status.shutdown_imminent") "LB"
    ++ token (d.getBool "ups.status.overload") "OVER"
    ++ token (d.getBool "ups.status.replace_battery" || d.getBool "ups.status.no_battery") "RB"
    ++ token (d.flagSet "ups.status.trim") "TRIM"
    ++ token (d.flagSet "ups.status.boost") "BOOST"
    ++ token (d.flagSet "ups.status.bypassauto" || d.flagSet "ups.status.bypassman") "BYPASS"
    ++ token (d.flagSet "ups.status.off") "OFF"

/-- Every token is appended with a blank and the text is trimmed; an alarm comes in front. -/
def computeUPSStatusString (d : UPSData) : String :=
  let status := Text.trim (String.join (d.statusTokens.map (· ++ " ")))
  if (d.find "ups.alarm").isSome then if status = "" then "ALARM" else "ALARM " ++ status
  else if status = "" then "Unknown"
  else status

/-! ### Alarms -/

def alarmBits : List (String × String) :=
  [ ("ups.status.replace_battery", "Replace battery!"),
    ("ups.status.shutdown_imminent", "Shutdown imminent!"),
    ("ups.status.fanfail", "Fan failure!"),
    ("ups.status.no_battery", "No battery installed!"),
    ("ups.status.battvoltlo", "Battery voltage too low!"),
    ("ups.status.battvolthi", "Battery voltage too high!"),
    ("ups.status.chargerfail", "Battery charger fail!"),
    ("ups.status.overheat", "Temperature too high!"),
    ("ups.status.commfault", "Internal UPS fault!"),
    ("ups.status.awaitingpower", "Awaiting power!"),
    ("ups.status.bypassauto", "Automatic bypass mode!"),
    ("ups.status.bypassman", "Manual bypass mode!") ]

/-- The alarms of the vendor rows, then those of the status bits. -/
def alarmText (d : UPSData) (vendor : String) : String :=
  ((alarmBits.filter fun bit => d.flagSet bit.1).map Prod.snd).foldl Text.appendWord vendor

def transferReason (d : UPSData) : Option String :=
  if d.flagSet "ups.status.vrange" then some "input voltage out of range"
  else if d.flagSet "ups.status.frange" then some "input frequency out of range"
  else none

/-- A key with a value, or without one removed. -/
def put (d : UPSData) (key : String) : Option String → UPSData
  | some value => if d.valueEquals key value then d else d.set key value
  | none => if d.hasKey key then d.remove key else d

def applyAlarmVariables (d : UPSData) (vendor : String) : UPSData :=
  let text := d.alarmText vendor
  let alarmed := d.put "ups.alarm" (if text = "" then none else some text)
  alarmed.put "input.transfer.reason" alarmed.transferReason

/-! ### The estimated power -/

/-- The casts to the unsigned types of the estimate, by their number of values. -/
def toUnsignedMod (size : Nat) (x : ℚ) : Nat := toUnsigned x % size

/-- The estimate from the load and a nominal power, for a device that does not measure it. -/
def updateRealPower (d : UPSData) : UPSData :=
  if d.realPowerMeasured then d
  else if d.hasKey "ups.load" = false then d
  else
    let loadPct := toUnsignedMod 256 (d.getFloat "ups.load" 0)
    if d.hasKey "ups.realpower.nominal" ∧ 0 < d.getFloat "ups.realpower.nominal" 0 then
      let nominal := toUnsignedMod 65536 (d.getFloat "ups.realpower.nominal" 0)
      d.set "ups.realpower" (toString (nominal * loadPct / 100 % 65536))
    else if d.hasKey "ups.power.nominal" ∧ 0 < d.getFloat "ups.power.nominal" 0 then
      let apparent := toUnsignedMod 65536 (d.getFloat "ups.power.nominal" 0)
      d.set "ups.realpower" (toString (apparent * 60 * loadPct / 10000 % 65536))
    else d

/-! ### What the computed variables touch -/

theorem find_put (d : UPSData) (key : String) (value : Option String) (other : String) :
    (d.put key value).find other = if other = key then value else d.find other := by
  unfold put valueEquals hasKey
  cases value with
  | some value =>
      dsimp only
      split
      · rename_i hsame
        split
        · rename_i hother
          rw [hother]
          simpa using hsame
        · rfl
      · exact find_set d key value other
  | none =>
      dsimp only
      split
      · exact find_remove d key other
      · rename_i hmissing
        split
        · rename_i hother
          rw [hother]
          simpa using hmissing
        · rfl

theorem find_foldl_put (keys : List (String × Option String)) (d : UPSData) {name : String}
    (h : ∀ key ∈ keys, key.1 ≠ name) :
    (keys.foldl (fun d key => d.put key.1 key.2) d).find name = d.find name := by
  induction keys generalizing d with
  | nil => rfl
  | cons key keys ih =>
      rw [List.foldl_cons, ih (d.put key.1 key.2) fun k hk => h k (List.mem_cons_of_mem key hk),
        find_put, if_neg fun heq => h key (by simp) heq.symm]

/-- A key of a list of changes takes the value they all give it. -/
theorem find_foldl_put_of_mem {keys : List (String × Option String)} (d : UPSData) {key : String} {value : Option String}
    (hmem : (key, value) ∈ keys) (hsame : ∀ change ∈ keys, change.1 = key → change.2 = value) :
    (keys.foldl (fun d key => d.put key.1 key.2) d).find key = value := by
  have hall : ∀ (keys : List (String × Option String)) (d : UPSData),
      (∀ change ∈ keys, change.1 = key → change.2 = value) →
      (d.find key = value ∨ ∃ change ∈ keys, change.1 = key) →
      (keys.foldl (fun d key => d.put key.1 key.2) d).find key = value := by
    intro keys
    induction keys with
    | nil =>
        intro d _ hfound
        exact hfound.resolve_right (by simp)
    | cons change keys ih =>
        intro d hsame hfound
        rw [List.foldl_cons]
        apply ih _ fun c hc => hsame c (List.mem_cons_of_mem change hc)
        rw [find_put]
        by_cases hkey : key = change.1
        · rw [if_pos hkey]
          exact Or.inl (hsame change (by simp) hkey.symm)
        · rw [if_neg hkey]
          rcases hfound with hfound | ⟨c, hc, hckey⟩
          · exact Or.inl hfound
          · rcases List.mem_cons.mp hc with rfl | htail
            · exact absurd hckey.symm hkey
            · exact Or.inr ⟨c, htail, hckey⟩
  exact hall keys d hsame (Or.inr ⟨_, hmem, rfl⟩)

theorem find_applyAlarmVariables (d : UPSData) (vendor : String) {key : String} (halarm : key ≠ "ups.alarm")
    (hreason : key ≠ "input.transfer.reason") : (d.applyAlarmVariables vendor).find key = d.find key := by
  unfold applyAlarmVariables
  rw [find_put, if_neg hreason, find_put, if_neg halarm]

theorem find_updateRealPower (d : UPSData) {key : String} (h : key ≠ "ups.realpower") :
    d.updateRealPower.find key = d.find key := by
  unfold updateRealPower
  dsimp only
  split
  · rfl
  split
  · rfl
  split
  · rw [find_set, if_neg h]
  split
  · rw [find_set, if_neg h]
  · rfl

end EspNut.UPSData
