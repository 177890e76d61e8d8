import EspNut.Host.DriverVarStore
import EspNut.Lib.JsonWriter
import EspNut.Lib.Run
import EspNut.Ups.Data
import EspNut.Ups.Variables

/-!
# Driver-side values

A value the UPS never sees is stored first and then shown, and forgotten in flash before its default is shown again. The store may fail at each of its operations, and between the store and the host's lock the device may disappear or another one appear.
-/

namespace EspNut

open Lib NutTable

structure DelayPaths where
  shutdown : List String
  startup : List String
  anyIndex : Bool
  deriving DecidableEq

namespace NutTable

def hasAnyPath (usages : List HIDUsageDef) (paths : List String) (anyIndex : Bool) : Bool :=
  paths.any fun path => usages.any fun u => if anyIndex then equalsIgnoreCase u.path path else pathMatches u path

/-- The delays after one saved value: an integer of at least 0 replaces the default of a delay the device has. -/
def savedDelay (sd st : Bool) (delays : Int × Int) (kv : String × String) : Int × Int :=
  match parseDelayParam kv.2 with
  | none => delays
  | some v =>
      if v < 0 then delays
      else
        let delays := if sd ∧ kv.1 = "ups.delay.shutdown" then (v, delays.2) else delays
        if st ∧ kv.1 = "ups.delay.start" then (delays.1, v) else delays

def applyDefaultDelays (data : UPSData) (usages : List HIDUsageDef) (offDelay onDelay : Int) (delayVars : Bool)
    (paths : Option DelayPaths) (saved : Store String String) : UPSData :=
  match paths with
  | none => data
  | some paths =>
      if delayVars = false then data
      else
        let sd := hasAnyPath usages paths.shutdown paths.anyIndex
        let st := hasAnyPath usages paths.startup paths.anyIndex
        let delays := saved.entries.foldl (savedDelay sd st) (offDelay, onDelay)
        let data := if sd then data.set "ups.delay.shutdown" (toString delays.1) else data
        if st then data.set "ups.delay.start" (toString delays.2) else data

end NutTable

/-- What the host uses of the attached driver, over the driver's own state. -/
structure SettingsDriver (δ : Type) where
  writableVariables : UPSData → δ → List RWVariable
  setDriverSideValue : String → String → δ → δ
  resetDriverSideValue : String → δ → Option String × δ
  defaultOffDelay : δ → Int
  defaultOnDelay : δ → Int
  delayVariablesSupported : δ → Bool
  delayPaths : δ → Option DelayPaths

/-- The attached device as the host has it: no driver when there is none. -/
structure AttachedDevice (δ : Type) where
  driver : Option δ
  readyToPoll : Bool
  usages : List HIDUsageDef
  data : UPSData

/-- What the USB task does with the device. -/
inductive DeviceEvent (δ : Type) where
  /-- An interface is claimed; with the device information, the driver after its setup and the data they give. -/
  | claimed (usages : List HIDUsageDef) (info : Option (δ × UPSData))
  /-- A report is decoded, or the host writes a value. -/
  | updated (driver : δ) (data : UPSData)
  | stringRead (driver : δ) (data : UPSData)
  | suspended
  | disconnected

/-- The host's part in the saved values: the store it was given, the values in memory and the device. -/
structure Settings (δ : Type) where
  varStore : Option Nvs
  savedVars : Store String String
  device : AttachedDevice δ

namespace USBHostUPS

variable {δ : Type} (json : ObjectJson) (hooks : SettingsDriver δ)

def isDelay (name : String) : Bool := Text.startsWith name "ups.delay."

/-! ### The device -/

def noDevice : AttachedDevice δ := ⟨none, false, [], UPSData.empty⟩

def withDefaultDelays (saved : Store String String) (device : AttachedDevice δ) : AttachedDevice δ :=
  match device.driver with
  | none => device
  | some driver =>
      { device with
        data := NutTable.applyDefaultDelays device.data device.usages (hooks.defaultOffDelay driver)
          (hooks.defaultOnDelay driver) (hooks.delayVariablesSupported driver) (hooks.delayPaths driver) saved }

def withSavedDriverValues (saved : Store String String) (driver : δ) : δ :=
  saved.entries.foldl (fun driver kv => if isDelay kv.1 then driver else hooks.setDriverSideValue kv.1 kv.2 driver) driver

def deviceStep (saved : Store String String) (device : AttachedDevice δ) : DeviceEvent δ → AttachedDevice δ
  | .claimed usages none => { device with readyToPoll := true, usages }
  | .claimed usages (some (driver, data)) =>
      withDefaultDelays hooks saved
        { driver := some (withSavedDriverValues hooks saved driver), readyToPoll := true, usages, data }
  | .updated driver data => if device.driver.isSome then { device with driver := some driver, data } else device
  | .stringRead driver data =>
      if device.driver.isSome then withDefaultDelays hooks saved { device with driver := some driver, data } else device
  | .suspended => { device with readyToPoll := false }
  | .disconnected => noDevice

/-- The USB task between the store and the lock. -/
def meanwhile (saved : Store String String) (gap : List (DeviceEvent δ)) (device : AttachedDevice δ) : AttachedDevice δ :=
  gap.foldl (deviceStep hooks saved) device

/-! ### The store -/

def loadVars : Option Nvs → Bool × Store String String
  | none => (true, Store.empty)
  | some nvs => NvsDriverVarStore.load json nvs

def saveVar (fault : Fault) (name value : String) : Option Nvs → Bool × Option Nvs
  | none => (false, none)
  | some nvs => ((NvsDriverVarStore.save json fault name value nvs).1, some (NvsDriverVarStore.save json fault name value nvs).2)

def eraseVar (fault : Fault) (name : String) : Option Nvs → Bool × Option Nvs
  | none => (false, none)
  | some nvs => ((NvsDriverVarStore.erase json fault name nvs).1, some (NvsDriverVarStore.erase json fault name nvs).2)

def setDriverVarStore (store : Option Nvs) (s : Settings δ) : Settings δ :=
  { s with varStore := store, savedVars := (loadVars json store).2 }

/-! ### Saving and resetting -/

/-- The device with the new value, where there is still one. -/
def showValue (name value : String) (device : AttachedDevice δ) : AttachedDevice δ :=
  match device.driver with
  | none => device
  | some driver =>
      if device.readyToPoll = false then device
      else
        { device with
          driver := some (if isDelay name then driver else hooks.setDriverSideValue name value driver)
          data := device.data.set name value }

def saveDriverSideValue (name value : String) (fault : Fault) (gap : List (DeviceEvent δ)) (s : Settings δ) :
    SetStatus × Settings δ :=
  match saveVar json fault name value s.varStore with
  | (false, store) => (.failed, { s with varStore := store })
  | (true, store) =>
      (.ok, { varStore := store
              savedVars := s.savedVars.set name value
              device := showValue hooks name value (meanwhile hooks s.savedVars gap s.device) })

def getWritableVariables (device : AttachedDevice δ) : List RWVariable :=
  match device.driver with
  | none => []
  | some driver => if device.readyToPoll then hooks.writableVariables device.data driver else []

/-- The name of the catalog; empty when the variable is not one of the driver. -/
def canonicalName (name : String) (device : AttachedDevice δ) : String :=
  match (getWritableVariables hooks device).find? fun v => v.driverSide && equalsIgnoreCase v.name name with
  | none => ""
  | some v => v.name

/-- The default now in force, empty when there is none, and the device that shows it. -/
def showDefault (canonical : String) (saved : Store String String) (device : AttachedDevice δ) : String × AttachedDevice δ :=
  match device.driver with
  | none => ("", device)
  | some driver =>
      if device.readyToPoll = false then ("", device)
      else if isDelay canonical then
        let device := withDefaultDelays hooks saved device
        (device.data.get canonical "", device)
      else match hooks.resetDriverSideValue canonical driver with
        | (none, driver) => ("", { device with driver := some driver })
        | (some value, driver) => (value, { device with driver := some driver, data := device.data.set canonical value })

def resetDriverSideValue (name : String) (fault : Fault) (gap : List (DeviceEvent δ)) (s : Settings δ) :
    SetStatus × String × Settings δ :=
  if s.device.driver.isNone then (.notConnected, "", s)
  else
    let canonical := canonicalName hooks name s.device
    if canonical = "" then (.unknown, "", s)
    else match eraseVar json fault canonical s.varStore with
      | (false, store) => (.failed, "", { s with varStore := store })
      | (true, store) =>
          let saved := s.savedVars.remove canonical
          let shown := showDefault hooks canonical saved (meanwhile hooks s.savedVars gap s.device)
          (.ok, shown.1, { varStore := store, savedVars := saved, device := shown.2 })

/-! ### Runs -/

inductive SettingsEvent (δ : Type) where
  | device (event : DeviceEvent δ)
  | save (name value : String) (fault : Fault) (gap : List (DeviceEvent δ))
  | reset (name : String) (fault : Fault) (gap : List (DeviceEvent δ))
  /-- The board starts again and loads the store it had. -/
  | restart

/-- The state after a start, with the values of the store. -/
def started (store : Option Nvs) : Settings δ := setDriverVarStore json store ⟨none, Store.empty, noDevice⟩

def settingsStep (s : Settings δ) : SettingsEvent δ → Settings δ
  | .device event => { s with device := deviceStep hooks s.savedVars s.device event }
  | .save name value fault gap => (saveDriverSideValue json hooks name value fault gap s).2
  | .reset name fault gap => (resetDriverSideValue json hooks name fault gap s).2.2
  | .restart => started json s.varStore

/-- The outcome the caller gets. -/
def outcome (s : Settings δ) : SettingsEvent δ → Option SetStatus
  | .save name value fault gap => some (saveDriverSideValue json hooks name value fault gap s).1
  | .reset name fault gap => some (resetDriverSideValue json hooks name fault gap s).1
  | .device _ | .restart => none

/-- The operation of the store an event calls for: whether it went well, and the store it leaves. -/
def storeOperation (s : Settings δ) : SettingsEvent δ → Option (Bool × Option Nvs)
  | .save name value fault _ => some (saveVar json fault name value s.varStore)
  | .reset name fault _ =>
      if s.device.driver.isNone ∨ canonicalName hooks name s.device = "" then none
      else some (eraseVar json fault (canonicalName hooks name s.device) s.varStore)
  | .device _ | .restart => none

/-- The text of the values in flash. -/
def storedText (store : Option Nvs) : Option String := store.bind Nvs.saved

/-- The values in memory are the ones a load of the store gives. -/
def Agrees (s : Settings δ) : Prop := s.savedVars = (loadVars json s.varStore).2

/-- What is there after an event that went well: a load gives what was written, and a new value is shown on a device that is still there. -/
def Written (s : Settings δ) (event : SettingsEvent δ) : Prop :=
  let after := settingsStep json hooks s event
  match event with
  | .save name value _ _ =>
      loadVars json after.varStore = (true, s.savedVars.set name value)
        ∧ (after.device.driver.isSome = true → after.device.readyToPoll = true → after.device.data.find name = some value)
  | .reset name _ _ => (loadVars json after.varStore).2 = s.savedVars.remove (canonicalName hooks name s.device)
  | .restart => after.savedVars = s.savedVars
  | .device _ => after.savedVars = s.savedVars ∧ after.varStore = s.varStore

/-- What a step promises of memory, store and device. -/
structure Promised (s : Settings δ) (event : SettingsEvent δ) : Prop where
  agrees : Agrees json (settingsStep json hooks s event)
  failed : ∀ store, storeOperation json hooks s event = some (false, store) →
    outcome json hooks s event = some .failed ∧ settingsStep json hooks s event = { s with varStore := store }
      ∧ storedText store = storedText s.varStore
  refused : ∀ status, outcome json hooks s event = some status → status ≠ .ok →
    (settingsStep json hooks s event).savedVars = s.savedVars ∧ (settingsStep json hooks s event).device = s.device
      ∧ storedText (settingsStep json hooks s event).varStore = storedText s.varStore
  written : (∀ status, outcome json hooks s event = some status → status = .ok) → Written json hooks s event

variable {json} {hooks} {fault : Fault} {name value : String} {store : Option Nvs}

theorem loadVars_saveVar (h : json.Faithful) (hok : (saveVar json fault name value store).1 = true) :
    loadVars json (saveVar json fault name value store).2 = (true, (loadVars json store).2.set name value) := by
  cases store with
  | none => exact absurd hok Bool.false_ne_true
  | some nvs => exact NvsDriverVarStore.load_save h hok

theorem loadVars_eraseVar (h : json.Faithful) (hok : (eraseVar json fault name store).1 = true) :
    (loadVars json (eraseVar json fault name store).2).2 = (loadVars json store).2.remove name := by
  cases store with
  | none => exact absurd hok Bool.false_ne_true
  | some nvs => exact NvsDriverVarStore.load_erase h hok

theorem storedText_saveVar (h : json.Faithful) (hfails : (saveVar json fault name value store).1 = false) :
    storedText (saveVar json fault name value store).2 = storedText store := by
  cases store with
  | none => rfl
  | some nvs => exact NvsDriverVarStore.saved_save_of_fails h hfails

theorem storedText_eraseVar (h : json.Faithful) (hfails : (eraseVar json fault name store).1 = false) :
    storedText (eraseVar json fault name store).2 = storedText store := by
  cases store with
  | none => rfl
  | some nvs => exact NvsDriverVarStore.saved_erase_of_fails h hfails

theorem loadVars_congr (h : json.Faithful) {store store' : Option Nvs} (htext : storedText store = storedText store') :
    (loadVars json store).2 = (loadVars json store').2 := by
  have hvalues : ∀ store : Option Nvs, (loadVars json store).2
      = (DriverVarStore.fromJson json ((storedText store).getD "")).getD Store.empty := by
    intro store
    cases store with
    | none =>
        show Store.empty = (DriverVarStore.fromJson json "").getD Store.empty
        rw [DriverVarStore.fromJson_empty h]
        rfl
    | some nvs => exact NvsDriverVarStore.load_values h nvs
  rw [hvalues, hvalues, htext]

/-- A save fails in the store and changes nothing else, or stores the value and shows it. -/
theorem saveDriverSideValue_cases (gap : List (DeviceEvent δ)) (s : Settings δ) :
    ((saveVar json fault name value s.varStore).1 = false
        ∧ saveDriverSideValue json hooks name value fault gap s
          = (.failed, { s with varStore := (saveVar json fault name value s.varStore).2 }))
      ∨ ((saveVar json fault name value s.varStore).1 = true
        ∧ saveDriverSideValue json hooks name value fault gap s
          = (.ok, { varStore := (saveVar json fault name value s.varStore).2
                    savedVars := s.savedVars.set name value
                    device := showValue hooks name value (meanwhile hooks s.savedVars gap s.device) })) := by
  unfold saveDriverSideValue
  rcases saveVar json fault name value s.varStore with ⟨done, store⟩
  cases done with
  | false => exact Or.inl ⟨rfl, rfl⟩
  | true => exact Or.inr ⟨rfl, rfl⟩

/-- A reset is refused before the store is asked, fails in the store, or forgets the value. -/
theorem resetDriverSideValue_cases (gap : List (DeviceEvent δ)) (s : Settings δ) :
    (storeOperation json hooks s (.reset name fault gap) = none
        ∧ ∃ status, status ≠ .ok ∧ resetDriverSideValue json hooks name fault gap s = (status, "", s))
      ∨ (storeOperation json hooks s (.reset name fault gap)
            = some (false, (eraseVar json fault (canonicalName hooks name s.device) s.varStore).2)
        ∧ (eraseVar json fault (canonicalName hooks name s.device) s.varStore).1 = false
        ∧ resetDriverSideValue json hooks name fault gap s
          = (.failed, "", { s with varStore := (eraseVar json fault (canonicalName hooks name s.device) s.varStore).2 }))
      ∨ (storeOperation json hooks s (.reset name fault gap)
            = some (true, (eraseVar json fault (canonicalName hooks name s.device) s.varStore).2)
        ∧ (eraseVar json fault (canonicalName hooks name s.device) s.varStore).1 = true
        ∧ ∃ value device, resetDriverSideValue json hooks name fault gap s
          = (.ok, value, { varStore := (eraseVar json fault (canonicalName hooks name s.device) s.varStore).2
                           savedVars := s.savedVars.remove (canonicalName hooks name s.device)
                           device })) := by
  unfold resetDriverSideValue storeOperation
  dsimp only
  by_cases hgone : s.device.driver.isNone = true
  · rw [if_pos hgone, if_pos (Or.inl hgone)]
    exact Or.inl ⟨rfl, .notConnected, nofun, rfl⟩
  rw [if_neg hgone]
  by_cases hunknown : canonicalName hooks name s.device = ""
  · rw [if_pos hunknown, if_pos (Or.inr hunknown)]
    exact Or.inl ⟨rfl, .unknown, nofun, rfl⟩
  rw [if_neg hunknown, if_neg (not_or.mpr ⟨hgone, hunknown⟩)]
  rcases eraseVar json fault (canonicalName hooks name s.device) s.varStore with ⟨done, store⟩
  cases done with
  | false => exact Or.inr (Or.inl ⟨rfl, rfl, rfl⟩)
  | true => exact Or.inr (Or.inr ⟨rfl, rfl, _, _, rfl⟩)

/-- What was shown on a device that is there is its data. -/
theorem find_showValue (device : AttachedDevice δ) (hdriver : (showValue hooks name value device).driver.isSome = true)
    (hready : (showValue hooks name value device).readyToPoll = true) :
    (showValue hooks name value device).data.find name = some value := by
  unfold showValue at hdriver hready ⊢
  split
  · rename_i hnone
    rw [hnone] at hdriver
    exact absurd hdriver (by rw [hnone]; exact Bool.false_ne_true)
  · rename_i driver hsome
    rw [hsome] at hready
    dsimp only at hready ⊢
    split
    · rename_i hnot
      rw [if_pos hnot, hnot] at hready
      exact absurd hready Bool.false_ne_true
    · rw [UPSData.find_set, if_pos rfl]

theorem promised_save (h : json.Faithful) (gap : List (DeviceEvent δ)) {s : Settings δ} (hagrees : Agrees json s) :
    Promised json hooks s (.save name value fault gap) := by
  have hstep : settingsStep json hooks s (.save name value fault gap)
      = (saveDriverSideValue json hooks name value fault gap s).2 := rfl
  have houtcome : outcome json hooks s (.save name value fault gap)
      = some (saveDriverSideValue json hooks name value fault gap s).1 := rfl
  have hoperation : storeOperation json hooks s (.save name value fault gap)
      = some (saveVar json fault name value s.varStore) := rfl
  rcases saveDriverSideValue_cases gap s with ⟨hfails, hsave⟩ | ⟨hok, hsave⟩
  · have htext := storedText_saveVar h hfails
    rw [hsave] at hstep houtcome
    constructor
    case agrees =>
      rw [hstep, Agrees, loadVars_congr h htext]
      exact hagrees
    case failed =>
      intro store hstore
      rw [hoperation] at hstore
      have hleft : (saveVar json fault name value s.varStore).2 = store := congrArg Prod.snd (Option.some.inj hstore)
      rw [hstep, houtcome, ← hleft]
      exact ⟨rfl, rfl, htext⟩
    case refused =>
      intro _ _ _
      rw [hstep]
      exact ⟨rfl, rfl, htext⟩
    case written => exact fun hall => nomatch hall _ houtcome
  · have hload := loadVars_saveVar h hok
    rw [← hagrees] at hload
    rw [hsave] at hstep houtcome
    constructor
    case agrees =>
      rw [hstep, Agrees]
      exact (congrArg Prod.snd hload).symm
    case failed =>
      intro store hstore
      rw [hoperation] at hstore
      have hdone : (saveVar json fault name value s.varStore).1 = false := congrArg Prod.fst (Option.some.inj hstore)
      rw [hok] at hdone
      cases hdone
    case refused =>
      intro status hstatus hnot
      rw [houtcome] at hstatus
      exact absurd (Option.some.inj hstatus).symm hnot
    case written =>
      intro _
      unfold Written
      dsimp only
      rw [hstep]
      exact ⟨hload, find_showValue _⟩

theorem promised_reset (h : json.Faithful) (gap : List (DeviceEvent δ)) {s : Settings δ} (hagrees : Agrees json s) :
    Promised json hooks s (.reset name fault gap) := by
  have hstep : settingsStep json hooks s (.reset name fault gap)
      = (resetDriverSideValue json hooks name fault gap s).2.2 := rfl
  have houtcome : outcome json hooks s (.reset name fault gap)
      = some (resetDriverSideValue json hooks name fault gap s).1 := rfl
  rcases resetDriverSideValue_cases gap s with
    ⟨hoperation, status, hnotOk, hreset⟩ | ⟨hoperation, hfails, hreset⟩ | ⟨hoperation, hok, shown, device, hreset⟩
  · rw [hreset] at hstep houtcome
    constructor
    case agrees =>
      rw [hstep]
      exact hagrees
    case failed =>
      intro store hstore
      rw [hoperation] at hstore
      cases hstore
    case refused =>
      intro _ _ _
      rw [hstep]
      exact ⟨rfl, rfl, rfl⟩
    case written => exact fun hall => absurd (hall _ houtcome) hnotOk
  · have htext := storedText_eraseVar h hfails
    rw [hreset] at hstep houtcome
    constructor
    case agrees =>
      rw [hstep, Agrees, loadVars_congr h htext]
      exact hagrees
    case failed =>
      intro store hstore
      rw [hoperation] at hstore
      have hleft : (eraseVar json fault (canonicalName hooks name s.device) s.varStore).2 = store :=
        congrArg Prod.snd (Option.some.inj hstore)
      rw [hstep, houtcome, ← hleft]
      exact ⟨rfl, rfl, htext⟩
    case refused =>
      intro _ _ _
      rw [hstep]
      exact ⟨rfl, rfl, htext⟩
    case written => exact fun hall => nomatch hall _ houtcome
  · have hload := loadVars_eraseVar h hok
    rw [← hagrees] at hload
    rw [hreset] at hstep houtcome
    constructor
    case agrees =>
      rw [hstep, Agrees]
      exact hload.symm
    case failed =>
      intro store hstore
      rw [hoperation] at hstore
      cases congrArg Prod.fst (Option.some.inj hstore)
    case refused =>
      intro status hstatus hnot
      rw [houtcome] at hstatus
      exact absurd (Option.some.inj hstatus).symm hnot
    case written =>
      intro _
      unfold Written
      dsimp only
      rw [hstep]
      exact hload

theorem promised (h : json.Faithful) {s : Settings δ} (hagrees : Agrees json s) (event : SettingsEvent δ) :
    Promised json hooks s event := by
  cases event with
  | save name value fault gap => exact promised_save h gap hagrees
  | reset name fault gap => exact promised_reset h gap hagrees
  | device event =>
      refine ⟨hagrees, ?_, ?_, fun _ => ⟨rfl, rfl⟩⟩
      · exact fun _ hstore => nomatch hstore
      · exact fun _ hstatus => nomatch hstatus
  | restart =>
      refine ⟨rfl, ?_, ?_, fun _ => hagrees.symm⟩
      · exact fun _ hstore => nomatch hstore
      · exact fun _ hstatus => nomatch hstatus

/-- In every run from a load, memory and store agree after each step, a failed operation of the store changes nothing, and what was written is what is read back. -/
theorem saved_values_agree (json : ObjectJson) (hooks : SettingsDriver δ) (h : json.Faithful) (store : Option Nvs)
    (device : AttachedDevice δ) (memory : Store String String) (events : List (SettingsEvent δ)) :
    Along (Promised json hooks) (settingsStep json hooks) (setDriverVarStore json store ⟨none, memory, device⟩) events := by
  have hloaded : Agrees json (setDriverVarStore json store ⟨none, memory, device⟩) := rfl
  have hany : Along (fun _ _ => True) (settingsStep json hooks) (setDriverVarStore json store ⟨none, memory, device⟩)
      events := along_of_forall events fun _ _ => trivial
  refine along_imp (Agrees json) hloaded ?_ events hany
  intro s event hagrees _
  have hpromised : Promised json hooks s event := promised h hagrees event
  exact ⟨hpromised, hpromised.agrees⟩

/-! The description of an outlet is saved while the device goes, and reset after a restart. -/

def stringObjects : ObjectJson where
  serialize entries := String.ofList (JsonText.write Json.escape (JsonText.textObject entries))
  deserialize text := (JsonText.parse true text.toList).bind JsonText.membersOf

theorem stringObjects_faithful : stringObjects.Faithful where
  nonempty entries h := by
    have hchars := congrArg String.toList h
    rw [stringObjects, String.toList_ofList] at hchars
    cases entries with
    | nil => cases hchars
    | cons entry rest => cases hchars
  roundTrip entries _ := by
    show (JsonText.parse true (String.ofList _).toList).bind JsonText.membersOf = _
    rw [String.toList_ofList, JsonText.parse_textObject, Option.bind_some, JsonText.membersOf_textObject]
  emptyInput := rfl

def outletDriver : SettingsDriver String where
  writableVariables _ _ := [{ name := "outlet.desc", aux := 20, enums := [], driverSide := true }]
  setDriverSideValue _ value _ := value
  resetDriverSideValue _ _ := (some "Main Outlet", "Main Outlet")
  defaultOffDelay _ := 20
  defaultOnDelay _ := 30
  delayVariablesSupported _ := false
  delayPaths _ := none

def outletEvents : List (SettingsEvent String) :=
  let working : Fault := ⟨false, false, false⟩
  let arrives : DeviceEvent String := .claimed [] (some ("Main Outlet", UPSData.empty))
  [ .device arrives, .save "outlet.desc" "Desk" ⟨false, true, false⟩ [],
    .save "outlet.desc" "Desk" working [.disconnected], .restart, .device arrives,
    .reset "OUTLET.DESC" ⟨false, false, true⟩ [], .reset "OUTLET.DESC" working [] ]

theorem outlet_description_agrees :
    Along (Promised stringObjects outletDriver) (settingsStep stringObjects outletDriver)
        (setDriverVarStore stringObjects (some ⟨none⟩) ⟨none, Store.empty, noDevice⟩) outletEvents
      ∧ (run (settingsStep stringObjects outletDriver)
          (setDriverVarStore stringObjects (some ⟨none⟩) ⟨none, Store.empty, noDevice⟩)
          (outletEvents.take 5)).device.driver = some "Desk" :=
  ⟨saved_values_agree stringObjects outletDriver stringObjects_faithful (some ⟨none⟩) noDevice Store.empty outletEvents,
    by decide +kernel⟩

end USBHostUPS

end EspNut
