import EspNut.Driver.Generic

/-!
# The poll of a driver

A driver asks the device for its reports in cycles: a quick one for the status and a full one for everything, first the missing strings. One call of `loop` issues at most one request, and none while the host pauses the poll. A report just received on the interrupt pipe is skipped, and so is a static one already read.
-/

namespace EspNut.GenericDriver

open Lib NutTable

/-- One control request of a poll cycle; with length 0 the report descriptor tells the length. -/
structure PollItem where
  reportType : Nat
  id : Nat
  length : Nat
  deriving DecidableEq

def stringItem : Nat := 0

/-- What the virtual methods of a driver answer at one moment. -/
structure Hooks where
  driverName : String
  /-- No quick poll when 0. -/
  quickPollMs : UInt32
  fullPollMs : UInt32
  stepSpacingMs : UInt32
  maxReportAgeMs : UInt32
  pollStaticReportsOnce : Bool
  isStaticUsage : HIDUsageDef → Bool
  pollInputReports : Bool
  readsFieldOutsideRows : HIDUsageDef → Bool
  requestTableStrings : Bool
  requestLength : Nat → Nat → Nat → Nat
  onLoop : State → State
  /-- A driver's own quick and full lists. -/
  ownPollLists : Option (List PollItem × List PollItem)
  /-- A driver's own string requests. -/
  ownStringRequests : Option (List Nat)

/-- What a call of `loop` learns from the host. -/
structure Host extends Transport where
  activeBeeperPath : String
  pollingPaused : Bool
  /-- The age of the last INPUT report with an id. -/
  inputReportAgeMs : Nat → UInt32
  expectedLength : Nat → Nat → Nat

inductive Request where
  | requestStringDescriptor (index : Nat)
  | requestReport (id reportType length : Nat)
  deriving DecidableEq

/-- The state of the poll around the engine. Sets of reports are lists of a type and an id. -/
structure Poll where
  engine : State
  /-- The rows of the driver's own table; the generic ones follow. -/
  ownRows : Nat
  activeBeeper : String
  listsBuilt : Bool
  listsPruned : Bool
  inputValuesPolled : Bool
  activePowerChecked : Bool
  quick : List PollItem
  full : List PollItem
  queue : List PollItem
  queuePos : Nat
  stepNow : Bool
  cycleFull : Bool
  stringsRechecked : Bool
  cycleStrings : List Nat
  inputTwin : List Nat
  staticReport : List (Nat × Nat)
  decodedReport : List (Nat × Nat)
  semiStatic : List (Nat × Nat)
  semiClassified : Bool
  semiUndecided : Bool
  dataChanged : Bool
  cycleRereads : Bool
  lastQuick : UInt32
  lastFull : UInt32
  lastStep : UInt32

/-- After `setup`, with the data as the host has it. -/
def Poll.initial (data : UPSData) : Poll :=
  { engine := State.initial data
    ownRows := 0
    activeBeeper := ""
    listsBuilt := false
    listsPruned := false
    inputValuesPolled := false
    activePowerChecked := false
    quick := []
    full := []
    queue := []
    queuePos := 0
    stepNow := false
    cycleFull := false
    stringsRechecked := false
    cycleStrings := []
    inputTwin := []
    staticReport := []
    decodedReport := []
    semiStatic := []
    semiClassified := false
    semiUndecided := false
    dataChanged := false
    cycleRereads := false
    lastQuick := 0
    lastFull := 0
    lastStep := 0 }

/-! ### Kinds of usages -/

/-- PercentLoad, Overload, ShutdownImminent, CommunicationLost, BelowRemainingCapacityLimit, Charging, Discharging, NeedReplacement, RemainingCapacity, RunTimeToEmpty, ACPresent. -/
def statusUsages : List Nat :=
  [0x00840035, 0x00840065, 0x00840069, 0x00840073, 0x00850042, 0x00850044, 0x00850045, 0x0085004b,
    0x00850066, 0x00850068, 0x008500d0]

def isStatusUsage (u : HIDUsageDef) : Bool :=
  decide (u.usage ∈ statusUsages) || Text.contains u.path ".PresentStatus."

def isDynamicUsage (u : HIDUsageDef) : Bool :=
  let page := u.usage / 65536
  let id := u.usage % 65536
  if isStatusUsage u then true
  else if page = 0x0084 ∧ (0x30 ≤ id ∧ id ≤ 0x37 ∨ 0x55 ≤ id ∧ id ≤ 0x58 ∨ id = 0x5a ∨ 0x60 ≤ id ∧ id ≤ 0x7f) then true
  else if page = 0x0085 ∧ (0x40 ≤ id ∧ id ≤ 0x4f ∨ 0x66 ≤ id ∧ id ≤ 0x6b ∨ 0xd0 ≤ id ∧ id ≤ 0xdf) then true
  else Text.contains u.path "Delay" || Text.contains u.path "Status" || Text.contains u.path "LineFailCause"

def Hooks.generic : Hooks :=
  { driverName := "GenericDriver"
    quickPollMs := 2000
    fullPollMs := 30000
    stepSpacingMs := 50
    maxReportAgeMs := 2000
    pollStaticReportsOnce := false
    isStaticUsage := fun u => !isDynamicUsage u
    pollInputReports := true
    readsFieldOutsideRows := fun _ => false
    requestTableStrings := true
    requestLength := fun _ _ expected => expected
    onLoop := id
    ownPollLists := none
    ownStringRequests := none }

def isQuickPollStatusUsage (sub : Subdriver) (u : HIDUsageDef) : Bool :=
  sub.hid2nut.any fun row =>
    hasFlag row.hidflags huFlagQuickPoll && (isInternalRow row || decide (row.conv = .abmStatus)) && rowMatches u row

def isPollType (reportType : Nat) : Bool := reportType = 1 || reportType = 3

/-! ### What is read -/

def beeperRow (p : Poll) : Bool := (p.engine.rows.take p.ownRows).any fun b => b.info.infoType = "ups.beeper.status"

def isBeeperField (host : Host) (p : Poll) (u : HIDUsageDef) : Bool :=
  !beeperRow p && decide (host.activeBeeperPath ≠ "") && decide (u.path = host.activeBeeperPath)

/-- The first full poll counts every row with a field, the later ones neither command rows nor dead ones. -/
def readsRow (s : State) (b : Bound) : Bool :=
  !hasFlag b.info.hidflags huFlagAbsent && !(s.nutInitDone && (isCommandRow b.info || decide (b.role = .dead)))

def featureReportRead (hooks : Hooks) (host : Host) (p : Poll) (id : Nat) : Bool :=
  if p.engine.nutBound = false then true
  else
    let inReport (u : HIDUsageDef) : Bool := u.reportType = 3 && u.reportId = id
    (p.engine.rows.any fun b => readsRow p.engine b && (Bound.usages b host.usages).any inReport)
      || host.usages.any fun u => inReport u && (isBeeperField host p u || hooks.readsFieldOutsideRows u)

/-- A group of fields read together has an INPUT field and none in a polled report. -/
def dependsOnInput (polled : List PollItem) (group : List HIDUsageDef) : Bool :=
  let read := group.filter fun u => isPollType u.reportType
  !(read.any fun u => polled.any fun item => item.reportType = u.reportType && item.id = u.reportId)
    && read.any fun u => u.reportType = 1

def computeInputCoverage (hooks : Hooks) (host : Host) (p : Poll) : Bool :=
  if p.engine.nutBound = false then false
  else
    let polled := p.quick ++ p.full
    (p.engine.rows.all fun b => !readsRow p.engine b || !dependsOnInput polled (Bound.usages b host.usages))
      && (host.usages.all fun u => !hooks.readsFieldOutsideRows u || !dependsOnInput polled [u])
      && !dependsOnInput polled (host.usages.filter (isBeeperField host p))

/-! ### The lists -/

/-- A report of the descriptor; `status` when a field of it is a status usage. -/
structure Report where
  reportType : Nat
  id : Nat
  status : Bool
  deriving DecidableEq

def Report.item (r : Report) : PollItem := ⟨r.reportType, r.id, 0⟩

def noteReport : List Report → Report → List Report
  | [], report => [report]
  | r :: rest, report =>
      if r.reportType = report.reportType ∧ r.id = report.id then
        { r with status := r.status || report.status } :: rest
      else r :: noteReport rest report

def acceptedReports (sub : Subdriver) (usages : List HIDUsageDef) : List Report :=
  (usages.filter fun u => isPollType u.reportType && sub.acceptPollReport u.reportType u.reportId).foldl
    (fun reports u => noteReport reports ⟨u.reportType, u.reportId, isStatusUsage u || isQuickPollStatusUsage sub u⟩) []

/-- The quick and the full list. An INPUT report with a FEATURE twin is left to it, and a FEATURE report nothing reads stays out of the full list. -/
def buildPollLists (sub : Subdriver) (hooks : Hooks) (host : Host) (p : Poll) : List PollItem × List PollItem :=
  let reports := acceptedReports sub host.usages
  let polled := reports.filter fun r =>
    if r.reportType = 1 then
      hooks.pollInputReports && !host.noInterruptPipe && !reports.any fun f => f.reportType = 3 && f.id = r.id
    else true
  ((polled.filter fun r => r.status).map Report.item,
    (polled.filter fun r => !(decide (r.reportType = 3) && !featureReportRead hooks host p r.id)).map Report.item)

def pollLists (sub : Subdriver) (hooks : Hooks) (host : Host) (p : Poll) : List PollItem × List PollItem :=
  hooks.ownPollLists.getD (buildPollLists sub hooks host p)

def withLists (sub : Subdriver) (hooks : Hooks) (host : Host) (p : Poll) : Poll :=
  let lists := pollLists sub hooks host p
  let p := { p with quick := lists.1, full := lists.2 }
  { p with inputValuesPolled := computeInputCoverage hooks host p }

def inInput (usages : List HIDUsageDef) (f : HIDUsageDef) : Bool :=
  usages.any fun i => i.reportType = 1 && i.reportId = f.reportId && i.path = f.path

/-- The FEATURE reports whose every usage is in the INPUT report with the same id. -/
def findInputTwins (usages : List HIDUsageDef) : List Nat :=
  let features := usages.filter fun f => f.reportType = 3
  ((features.filter (inInput usages)).map HIDUsageDef.reportId).filter fun id =>
    !features.any fun f => !inInput usages f && f.reportId = id

def findStaticReports (hooks : Hooks) (usages : List HIDUsageDef) : List (Nat × Nat) :=
  let polled := usages.filter fun u => isPollType u.reportType
  ((polled.filter hooks.isStaticUsage).map fun u => (u.reportType, u.reportId)).filter fun r =>
    !polled.any fun u => !hooks.isStaticUsage u && decide ((u.reportType, u.reportId) = r)

def isStaticAndKnown (hooks : Hooks) (p : Poll) (item : PollItem) : Bool :=
  hooks.pollStaticReportsOnce && isPollType item.reportType
    && decide ((item.reportType, item.id) ∈ p.staticReport) && decide ((item.reportType, item.id) ∈ p.decodedReport)

/-! ### Semi-static reports -/

def isClassified (b : Bound) : Bool :=
  !isCommandRow b.info && !hasFlag b.info.hidflags huFlagAbsent && decide (b.role ≠ .dead)

def isUndecided (b : Bound) : Bool := b.deferred && !b.has || decide (b.role = .pending)

def isStaticRow (b : Bound) : Bool := hasFlag b.info.hidflags (huFlagStatic + huFlagSemiStatic)

/-- The reports of the fields rows read, each with whether its row is static; the beeper outside the rows is not. -/
def semiMarks (host : Host) (p : Poll) : List ((Nat × Nat) × Bool) :=
  let marks (isStatic : Bool) (fields : List HIDUsageDef) : List ((Nat × Nat) × Bool) :=
    (fields.filter fun u => isPollType u.reportType).map fun u => ((u.reportType, u.reportId), isStatic)
  ((p.engine.rows.filter isClassified).flatMap fun b =>
      marks (!isUndecided b && isStaticRow b) (Bound.usages b host.usages))
    ++ if beeperRow p = false ∧ p.activeBeeper ≠ "" ∧ p.activeBeeper ≠ "none" then
        marks false (host.usages.filter fun u => u.path = p.activeBeeper)
      else []

def classifySemiStatic (host : Host) (p : Poll) : Poll :=
  let marks := semiMarks host p
  { p with
    semiStatic := ((marks.filter fun m => m.2).map Prod.fst).filter fun r => !decide ((r, false) ∈ marks)
    semiUndecided := (p.engine.rows.filter isClassified).any fun b => isUndecided b && isStaticRow b
    semiClassified := true }

def isSemiStaticAndKnown (p : Poll) (item : PollItem) : Bool :=
  p.semiClassified && isPollType item.reportType
    && decide ((item.reportType, item.id) ∈ p.semiStatic) && decide ((item.reportType, item.id) ∈ p.decodedReport)

def invalidateReport (reportType reportId : Nat) (p : Poll) : Poll :=
  if isPollType reportType then
    { p with decodedReport := p.decodedReport.filter fun r => r ≠ (reportType, reportId) }
  else p

def isFreshFromInput (hooks : Hooks) (host : Host) (p : Poll) (item : PollItem) : Bool :=
  if item.reportType = 3 then
    if item.id ∈ p.inputTwin then decide (host.inputReportAgeMs item.id < hooks.maxReportAgeMs) else false
  else if item.reportType ≠ 1 then false
  else host.inputReportAgeMs item.id < hooks.maxReportAgeMs

/-! ### Strings -/

def collectTableStringRequests (p : Poll) (ownRows : Bool) : List Nat :=
  (p.engine.rows.drop (if ownRows then 0 else p.ownRows)).filterMap fun b =>
    if b.info.conv = .stringId ∧ 0 < b.stringIndex ∧ b.has = false ∧ b.role ≠ .dead then some b.stringIndex else none

def collectStringRequests (hooks : Hooks) (host : Host) (p : Poll) : List Nat :=
  let missing (key : String) (index : Nat) : List Nat :=
    if p.engine.data.hasKey key = false ∧ 0 < index then [index] else []
  missing "ups.mfr" host.iManufacturer ++ missing "ups.model" host.iProduct ++ missing "ups.serial" host.iSerialNumber
    ++ collectTableStringRequests p hooks.requestTableStrings

/-- A missing string not requested yet in this cycle goes to the end of the queue. -/
def appendString (p : Poll) (index : Nat) : Poll :=
  if index ∈ p.cycleStrings then p
  else { p with cycleStrings := p.cycleStrings ++ [index], queue := p.queue ++ [⟨stringItem, index, 0⟩] }

def appendNewStrings (hooks : Hooks) (host : Host) (p : Poll) : Poll :=
  (hooks.ownStringRequests.getD (collectStringRequests hooks host p)).foldl appendString p

/-! ### Cycles -/

def Poll.exhausted (p : Poll) : Bool := p.queue.length ≤ p.queuePos

/-- The item is next, unless it is pending already. -/
def pollSoon (item : PollItem) (p : Poll) : Poll :=
  if (p.queue.drop p.queuePos).any fun i => i.reportType = item.reportType && i.id = item.id then p
  else { p with queue := p.queue.take p.queuePos ++ item :: p.queue.drop p.queuePos }

def noteDataChanged (p : Poll) : Poll := { p with dataChanged := true }

/-- A full cycle takes the note of a change, and classifies again while a static row is undecided. -/
def takeChange (host : Host) (p : Poll) : Poll :=
  let p := { p with cycleRereads := p.dataChanged, dataChanged := false }
  if p.semiClassified && p.semiUndecided then classifySemiStatic host p else p

/-- The reports of the cycle's list, without the semi-static ones when nothing has changed. -/
def cycleReports (host : Host) (full : Bool) (p : Poll) : List PollItem :=
  let skipSemiStatic := full && !p.cycleRereads && !host.noInterruptPipe
  (if full then p.full else p.quick).filter fun r => !(skipSemiStatic && isSemiStaticAndKnown p r)

def clearCycle (full : Bool) (p : Poll) : Poll :=
  { p with queue := [], queuePos := 0, cycleFull := full, stringsRechecked := false, cycleStrings := [] }

def startCycle (hooks : Hooks) (host : Host) (full : Bool) (now : UInt32) (p : Poll) : Poll :=
  let p := clearCycle full p
  let p := if full then takeChange host (appendNewStrings hooks host p) else p
  let stamp := if now ≠ 0 then now else 1
  { p with
    queue := p.queue ++ cycleReports host full p
    lastQuick := stamp
    lastFull := if full then stamp else p.lastFull
    stepNow := true }

def pruneFullPoll (sub : Subdriver) (hooks : Hooks) (host : Host) (p : Poll) : Poll :=
  withLists sub hooks host { p with listsPruned := true }

/-! ### One call of `loop` -/

/-- The binding, and what is forgotten when the rows are bound anew. -/
def bindRowsOnce (sub : Subdriver) (t : Transport) (p : Poll) : Poll :=
  if p.engine.nutBound = true ∧ p.engine.nutUsageCount = t.usages.length then p
  else
    { p with
      engine := bindNutTable sub t p.engine
      ownRows := (bindRows sub.hid2nut t.usages []).length
      semiClassified := false
      listsPruned := false }

def readsActivePower (sub : Subdriver) (t : Transport) : Bool :=
  t.usages.any fun u =>
    (u.path = "UPS.Output.ActivePower" || u.path = "UPS.PowerConverter.Output.ActivePower") && isReportRead sub t u

def refreshData (sub : Subdriver) (hooks : Hooks) (host : Host) (p : Poll) : Poll :=
  let data := p.engine.data
  let data := if data.get "driver.name" "" ≠ hooks.driverName then data.set "driver.name" hooks.driverName else data
  let measured := p.activePowerChecked = false ∧ readsActivePower sub host.toTransport = true
  let data := if measured then { data with realPowerMeasured := true } else data
  { p with engine := hooks.onLoop { p.engine with data }, activePowerChecked := true }

def buildOnce (sub : Subdriver) (hooks : Hooks) (host : Host) (p : Poll) : Poll :=
  if p.listsBuilt then p
  else
    { withLists sub hooks host (bindRowsOnce sub host.toTransport p) with
      inputTwin := findInputTwins host.usages
      staticReport := findStaticReports hooks host.usages
      listsBuilt := true }

/-- Strings known only now are asked for at the end of the same full cycle. -/
def recheckStrings (hooks : Hooks) (host : Host) (p : Poll) : Poll :=
  if p.exhausted && p.cycleFull && !p.stringsRechecked then
    appendNewStrings hooks host { p with stringsRechecked := true }
  else p

/-- The end of a full cycle, and of the first walk over all rows. -/
def finishCycle (sub : Subdriver) (hooks : Hooks) (host : Host) (p : Poll) : Poll :=
  let p :=
    if p.exhausted && p.cycleFull && p.stringsRechecked then
      { p with engine := { p.engine with firstFullDone := true } }
    else p
  let p :=
    if p.listsBuilt && p.engine.nutBound && p.engine.nutInitDone && !p.listsPruned then pruneFullPoll sub hooks host p
    else p
  if p.engine.firstFullDone && p.engine.nutBound && p.engine.nutInitDone && !p.semiClassified then
    classifySemiStatic host p
  else p

def prepare (sub : Subdriver) (hooks : Hooks) (host : Host) (p : Poll) : Poll :=
  finishCycle sub hooks host (recheckStrings hooks host (buildOnce sub hooks host (refreshData sub hooks host p)))

def dueCycle (hooks : Hooks) (now : UInt32) (p : Poll) : Option Bool :=
  let fullDue := p.lastFull = 0 ∨ hooks.fullPollMs ≤ now - p.lastFull ∨ p.dataChanged = true
  let quickDue := 0 < hooks.quickPollMs ∧ hooks.quickPollMs ≤ now - p.lastQuick
  if p.exhausted = false then none
  else if fullDue then some true
  else if quickDue then some false
  else none

def isSkipped (hooks : Hooks) (host : Host) (p : Poll) (item : PollItem) : Bool :=
  isFreshFromInput hooks host p item || isStaticAndKnown hooks p item

def requestOf (hooks : Hooks) (host : Host) (item : PollItem) : Request :=
  if item.reportType = stringItem then .requestStringDescriptor item.id
  else
    let length := if item.length ≠ 0 then item.length else host.expectedLength item.id item.reportType
    .requestReport item.id item.reportType (hooks.requestLength item.reportType item.id length)

def skipped (hooks : Hooks) (host : Host) (p : Poll) : List PollItem :=
  (p.queue.drop p.queuePos).takeWhile (isSkipped hooks host p)

/-- A request goes out unless the poll is paused or the last one is too recent. -/
def mayStep (hooks : Hooks) (host : Host) (now : UInt32) (p : Poll) : Bool :=
  !p.exhausted && !host.pollingPaused && (p.stepNow || decide (hooks.stepSpacingMs ≤ now - p.lastStep))

def issue (hooks : Hooks) (host : Host) (now : UInt32) (p : Poll) : Poll × Option PollItem :=
  if mayStep hooks host now p = false then (p, none)
  else
    let p := { p with queuePos := p.queuePos + (skipped hooks host p).length }
    match p.queue[p.queuePos]? with
    | none => (p, none)
    | some item => ({ p with queuePos := p.queuePos + 1, lastStep := now, stepNow := false }, some item)

/-- Another task may note a change in between. -/
def noteRace (raced : Bool) (p : Poll) : Poll := { p with dataChanged := p.dataChanged || raced }

/-- The cycle chosen and started, when the last one is over; `raced` when another task notes a change between the two. -/
def beginCycle (sub : Subdriver) (hooks : Hooks) (host : Host) (now : UInt32) (raced : Bool) (p : Poll) :
    Poll × Option Bool :=
  let p := prepare sub hooks host p
  match dueCycle hooks now p with
  | none => (noteRace raced p, none)
  | some full => (startCycle hooks host full now (noteRace raced p), some full)

def loop (sub : Subdriver) (hooks : Hooks) (host : Host) (now : UInt32) (raced : Bool) (p : Poll) :
    Poll × Option Request :=
  let issued := issue hooks host now (beginCycle sub hooks host now raced p).1
  (issued.1, issued.2.map (requestOf hooks host))

/-! ### Reports and runs -/

/-- What is noted of a report before its rows are read. -/
def decodeReport (sub : Subdriver) (host : Host) (reportId reportType : Nat) (bytes : List Byte) (p : Poll) : Poll :=
  if bytes = [] then p
  else
    bindRowsOnce sub host.toTransport
      { p with
        decodedReport :=
          if isPollType reportType then (reportType, reportId) :: p.decodedReport else p.decodedReport
        activeBeeper :=
          if p.activeBeeper ≠ "" then p.activeBeeper
          else if host.activeBeeperPath = "" then "none"
          else host.activeBeeperPath }

/-- What happens to a driver between two `setup`s, at real times. -/
inductive PollEvent where
  | loop (hooks : Hooks) (host : Host) (now : Nat) (raced : Bool)
  | noteDataChanged
  | pollSoon (item : PollItem)
  | invalidateReport (reportType reportId : Nat)
  /-- A report, with the rows and the data it leaves. -/
  | report (host : Host) (reportId reportType : Nat) (bytes : List Byte) (engine : State)
  /-- Any other change of the rows and the data. -/
  | engine (engine : State)

def millis (time : Nat) : UInt32 := UInt32.ofNat time

def pollStep (sub : Subdriver) (p : Poll) : PollEvent → Poll × Option Request
  | .loop hooks host now raced => loop sub hooks host (millis now) raced p
  | .noteDataChanged => (noteDataChanged p, none)
  | .pollSoon item => (pollSoon item p, none)
  | .invalidateReport reportType reportId => (invalidateReport reportType reportId p, none)
  | .report host reportId reportType bytes engine =>
      ({ decodeReport sub host reportId reportType bytes p with engine }, none)
  | .engine engine => ({ p with engine }, none)

/-! ### A bare device -/

def bareSubdriver : Subdriver :=
  { hid2nut := []
    genericHid2Nut := none
    supersededGenericPaths := []
    filterStatus := id
    acceptPollReport := fun _ _ => true }

def bareHost (usages : List HIDUsageDef) : Host :=
  { usages
    noInterruptPipe := false
    iManufacturer := 0
    iProduct := 0
    iSerialNumber := 0
    activeBeeperPath := ""
    pollingPaused := false
    inputReportAgeMs := fun _ => 0xFFFFFFFF
    expectedLength := fun _ _ => 8 }

end EspNut.GenericDriver
