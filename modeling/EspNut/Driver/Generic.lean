import EspNut.Control.HidControl
import EspNut.Hid.Extract
import EspNut.Table.Bind
import EspNut.Table.Encode
import EspNut.Ups.Status

/-!
# The driver engine

A driver binds the rows of its table and of the generic one to the usages of the device. Each report gives the rows of its fields their values; the active rows, the status bits and the alarms are then written into the data of the UPS.
-/

namespace EspNut.GenericDriver

open Lib Rounding NutTable

/-- What a driver is made of: its tables and the hooks it overrides. -/
structure Subdriver where
  hid2nut : List HidInfo
  /-- The generic table, unless it is the driver's own. -/
  genericHid2Nut : Option (List HidInfo)
  supersededGenericPaths : List String
  filterStatus : StatusBits → StatusBits
  acceptPollReport : Nat → Nat → Bool

def Subdriver.tables (sub : Subdriver) : List HidInfo := sub.hid2nut ++ sub.genericHid2Nut.getD []

/-- What the host tells about the device. -/
structure Transport where
  usages : List HIDUsageDef
  noInterruptPipe : Bool
  iManufacturer : Nat
  iProduct : Nat
  iSerialNumber : Nat

/-- The rows and their context, and the data of the host they are published into. -/
structure State where
  rows : List Bound
  ctx : Context
  data : UPSData
  nutBound : Bool
  nutInitDone : Bool
  nutHasRealpower : Bool
  nutUsageCount : Nat
  absentOverrides : List (String × String)
  firstFullDone : Bool
  /-- The names whose row asked for their removal, in the current report. -/
  clears : List String

/-- After `setup`, with the data as the host has it. -/
def State.initial (data : UPSData) : State :=
  { rows := []
    ctx := Context.initial
    data := data
    nutBound := false
    nutInitDone := false
    nutHasRealpower := false
    nutUsageCount := 0
    absentOverrides := []
    firstFullDone := false
    clears := [] }

/-! ### Binding -/

def isReportRead (sub : Subdriver) (t : Transport) (u : HIDUsageDef) : Bool :=
  if u.reportType = 1 then !t.noInterruptPipe
  else u.reportType = 3 && sub.acceptPollReport u.reportType u.reportId

def applyAbsentOverride (rows : List Bound) (override : String × String) : List Bound :=
  rows.map fun b =>
    if hasFlag b.info.hidflags huFlagAbsent && decide (b.info.infoType = override.1) then
      { b with value := override.2, has := true }
    else b

def Bound.usages (b : Bound) (usages : List HIDUsageDef) : List HIDUsageDef :=
  usages[b.idx]?.toList ++ (b.twinIdx.bind fun twin => usages[twin]?).toList

/-- A row owns the real power when it computes it or when its report is read. -/
def ownsRealpower (sub : Subdriver) (t : Transport) (b : Bound) : Bool :=
  decide (b.info.infoType = "ups.realpower")
    && (decide (b.info.conv = .eatonComputeRealpower)
      || (Bound.usages b t.usages).any (isReportRead sub t))

def boundRows (sub : Subdriver) (t : Transport) : List Bound :=
  bindRows sub.hid2nut t.usages []
    ++ bindRows (sub.genericHid2Nut.getD []) t.usages sub.supersededGenericPaths

def bindNutTable (sub : Subdriver) (t : Transport) (s : State) : State :=
  if s.nutBound = true ∧ s.nutUsageCount = t.usages.length then s
  else
    let rows := resolve (boundRows sub t)
    { s with
      rows := s.absentOverrides.foldl applyAbsentOverride rows
      nutBound := true
      nutInitDone := false
      nutHasRealpower := rows.any (ownsRealpower sub t)
      nutUsageCount := t.usages.length }

/-! ### Publication -/

/-- The names the estimate of the real power is computed from. -/
def realpowerInputs : List String := ["ups.load", "ups.power.nominal", "ups.realpower.nominal"]

/-- The row computes the real power again when the load changes. -/
def recomputes (b : Bound) : Bool :=
  decide (b.info.conv = .eatonComputeRealpower) && decide (b.role ≠ .dead)

/-- A row that computes the real power again, and is published in turn. -/
def recomputeRow (publish : State → Nat → Option State) (s : State) (j : Nat) : Option State :=
  if (s.rows[j]?.any recomputes) = false then some s
  else
    let (rows, ctx) := onValue s.rows j 0 s.ctx (some s.data)
    publish { s with rows, ctx } j

/-- One row: the removal it asked for, or its value when it is not published yet. A new load computes the estimated power again, and that row is published in turn; the depth bounds the stack. -/
def publishRow : Nat → State → Nat → Option State
  | 0, _, _ => none
  | depth + 1, s, i =>
      match s.rows[i]? with
      | none => some s
      | some b =>
          if isInternalRow b.info || isCommandRow b.info then some s
          else if b.cleared then
            some { s with
              rows := s.rows.set i { b with cleared := false }
              data := s.data.put b.info.infoType none }
          else if b.role ≠ .active ∨ b.has = false then some s
          else if s.data.valueEquals b.info.infoType b.value then some s
          else
            let s := { s with data := s.data.set b.info.infoType b.value }
            if s.nutHasRealpower = false then
              if b.info.infoType ∈ realpowerInputs then some { s with data := s.data.updateRealPower }
              else some s
            else if b.info.infoType ≠ "ups.load" then some s
            else (List.range s.rows.length).foldlM (recomputeRow (publishRow depth)) s

/-- Every row, then the internal keys of the status bits. -/
def publishNutRows (sub : Subdriver) (depth : Nat) (s : State) : Option State := do
  let s ← (List.range s.rows.length).foldlM (publishRow depth) s
  some { s with
    data := (statusKeys (sub.filterStatus s.ctx.status)).foldl (fun d key => d.put key.1 key.2) s.data }

def publishAlarms (s : State) : State :=
  { s with data := s.data.applyAlarmVariables (vendorAlarms s.rows) }

/-! ### Reports -/

def pickUsage (t : Transport) (reportId reportType : Nat) (b : Bound) : Option HIDUsageDef :=
  (Bound.usages b t.usages).find? fun u => decide (u.reportId = reportId ∧ u.reportType = reportType)

/-- The value of one row out of a report, published right away. -/
def readRow (t : Transport) (depth reportId reportType : Nat) (bytes : List Byte) (s : State) (i : Nat) :
    Option State :=
  match s.rows[i]? with
  | none => some s
  | some b =>
      if isCommandRow b.info then some s
      else match pickUsage t reportId reportType b with
        | none => some s
        | some u =>
            let (rows, ctx) :=
              onValue s.rows i (HIDParser.extractUsage u bytes) s.ctx (some s.data)
            let clears :=
              if rows[i]?.any Bound.cleared then s.clears ++ [b.info.infoType] else s.clears
            publishRow depth { s with rows, ctx, clears } i

def readRows (t : Transport) (depth reportId reportType : Nat) (bytes : List Byte) (s : State) :
    Option State :=
  if bytes = [] then some s
  else (List.range s.rows.length).foldlM (readRow t depth reportId reportType bytes) s

def endInit (s : State) : State :=
  if s.nutInitDone = false ∧ s.firstFullDone = true then
    { s with rows := finishInit s.rows, nutInitDone := true }
  else s

def walkStatus (s : State) : State :=
  { s with ctx := walkInternalRows s.rows s.ctx (some s.data) }

def postDecode (sub : Subdriver) (t : Transport) (depth reportId reportType : Nat) (bytes : List Byte)
    (s : State) : Option State :=
  let s := bindNutTable sub t { s with clears := [] }
  if s.rows = [] then some (publishAlarms s)
  else do
    let s ← readRows t depth reportId reportType bytes s
    let s ← publishNutRows sub depth (walkStatus (endInit s))
    some (publishAlarms s)

/-! ### The other entries -/

/-- A row that waits for a string takes it, cut to what upstream reads. -/
def takeStringAt (index : Nat) (text : String) (rows : List Bound) (i : Nat) : List Bound :=
  if rows[i]?.any fun b => decide (b.info.conv = .stringId ∧ b.stringIndex = index) then
    onString rows i (String.ofList (text.toList.take 19))
  else rows

def takeString (index : Nat) (text : String) (rows : List Bound) : List Bound :=
  (List.range rows.length).foldl (takeStringAt index text) rows

def parseStringDescriptor (sub : Subdriver) (t : Transport) (depth index : Nat) (text : String) (s : State) :
    Option State :=
  let data :=
    if index = t.iManufacturer then s.data.set "ups.mfr" text
    else if index = t.iProduct then s.data.set "ups.model" text
    else if 0 < t.iSerialNumber ∧ index = t.iSerialNumber then s.data.set "ups.serial" text
    else s.data
  if s.rows.any fun b => decide (b.info.conv = .stringId ∧ b.stringIndex = index) then
    publishNutRows sub depth { s with data, rows := takeString index text s.rows }
  else some { s with data }

/-- The active row of the variable takes the host's value. -/
def noteHostValue (name value : String) (s : State) : State :=
  { s with rows := s.rows.map fun b =>
      if b.role ≠ .active ∨ isInternalRow b.info = true then b
      else if b.info.infoType ≠ name then b
      else { b with value := value, has := true } }

def setOverride : List (String × String) → String → String → List (String × String)
  | [], name, value => [(name, value)]
  | (n, v) :: rest, name, value =>
      if n = name then (n, value) :: rest else (n, v) :: setOverride rest name value

def setDriverSideValue (name value : String) (s : State) : State :=
  { s with
    absentOverrides := setOverride s.absentOverrides name value
    rows := applyAbsentOverride s.rows (name, value) }

/-- The rows of the firmware take their default again, which is returned when there is one. -/
def resetDriverSideValue (name : String) (s : State) : Option String × State :=
  let isOwn (b : Bound) : Bool :=
    hasFlag b.info.hidflags huFlagAbsent && decide (b.info.infoType = name)
  ((s.rows.find? isOwn).map fun b => b.info.dfl.getD "",
    { s with
      absentOverrides := s.absentOverrides.eraseP fun o => o.1 = name
      rows := s.rows.map fun b =>
        if isOwn b then { b with value := b.info.dfl.getD "", has := true } else b })

def completeInitialPoll (s : State) : State :=
  let s := { s with firstFullDone := true }
  if s.nutInitDone = false then { s with rows := finishInit s.rows, nutInitDone := true } else s

/-! ### The plan of a SET VAR -/

def ownerRow (rows : List Bound) (name : String) : Option Bound :=
  rows.find? fun b => decide (b.role = .active) && equalsIgnoreCase b.info.infoType name

def featureField (usages : List HIDUsageDef) (b : Bound) : Option HIDUsageDef :=
  (Bound.usages b usages).find? fun u => u.reportType = 3

/-- `setvar` without the write. -/
def planSet (usages : List HIDUsageDef) (data : UPSData) (name value : String) (s : State) : Except SetStatus SetPlan :=
  if name = "" then .error .unknown
  else match ownerRow s.rows name with
    | none =>
        match ["ups.delay.shutdown", "ups.delay.start"].find? fun d => equalsIgnoreCase d name && data.hasKey d with
        | none => .error .unknown
        | some d =>
            match parseDelayParam value with
            | none => .error .conversionFailed
            | some v => if v < 0 then .error .conversionFailed else .ok (.driverSide d (toString v))
    | some b =>
        if hasFlag b.info.infoFlags stFlagRW = false then .error .unknown
        else if hasFlag b.info.hidflags huFlagAbsent then .ok (.driverSide b.info.infoType value)
        else match encode b.info value s.ctx data with
          | none => .error .conversionFailed
          | some physical =>
              -- a row with an INPUT usage only cannot be written
              match featureField usages b with
              | none => .error .failed
              | some u =>
                  match HIDParser.toLogical u physical with
                  | none => .error .conversionFailed
                  | some raw => .ok (.hid b.info.infoType u raw value)

/-! ### Runs -/

/-- What reaches a driver and its data between two `setup`s. -/
inductive Event where
  | report (t : Transport) (reportId reportType : Nat) (bytes : List Byte)
  | string (t : Transport) (index : Nat) (text : String)
  | hostWrite (key value : String)
  | hostRemove (key : String)
  | noteHostValue (name value : String)
  | setDriverSideValue (name value : String)
  | resetDriverSideValue (name : String)
  | completeInitialPoll
  | firstFullDone
  /-- A brand's hook changes the inputs of its conversions, never the status bits. -/
  | inputs (ctx : Context)

/-- One step; none when the stack is not deep enough for the publication. -/
def step (sub : Subdriver) (depth : Nat) (s : State) : Event → Option State
  | .report t reportId reportType bytes => postDecode sub t depth reportId reportType bytes s
  | .string t index text => parseStringDescriptor sub t depth index text s
  | .hostWrite key value => some { s with data := s.data.set key value }
  | .hostRemove key => some { s with data := s.data.remove key }
  | .noteHostValue name value => some (noteHostValue name value s)
  | .setDriverSideValue name value => some (setDriverSideValue name value s)
  | .resetDriverSideValue name => some (resetDriverSideValue name s).2
  | .completeInitialPoll => some (completeInitialPoll s)
  | .firstFullDone => some { s with firstFullDone := true }
  | .inputs ctx => some { s with ctx := { ctx with status := s.ctx.status } }

end EspNut.GenericDriver
