import EspNut.Driver.SetVar
import EspNut.Hid.WriteRead
import EspNut.Host.InputReports
import EspNut.Host.Session
import EspNut.Host.WriteBack

/-!
# SET VAR takes effect

The number that was planned is written into the report the device has, and the report is read back right away. A device that keeps what it takes gives the field the written bits again, so the row that was set publishes what its field took.
-/

namespace EspNut

open Lib GenericDriver NutTable

/-- A device gives back the report it took, and begins the numbered ones with their id. -/
structure KeepsReports {ω : Type} (bus : Bus ω) : Prop where
  stored : ∀ reportType reportId data wLength before after bytes, bus.setReport reportType reportId data before = (none, after) →
    (bus.getReport reportType reportId wLength after).1 = .ok bytes → bytes.take wLength = data.take wLength
  numbered : ∀ reportType reportId wLength world bytes, reportId ≠ 0 →
    (bus.getReport reportType reportId wLength world).1 = .ok bytes → bytes ≠ [] →
      bytes.head?.map BitVec.toNat = some reportId

namespace USBHostUPS

open BeeperLogic

variable {ω δ : Type}

/-! ### The report that is sent -/

/-- The device took a report that the value was written into. -/
structure Wrote (bus : Bus ω) (reportType : Nat) (field : HIDUsageDef) (raw : BitVec 32) (buffer : List Byte)
    (fetchedLen : Nat) (world : ω) : Prop where
  whole : buffer.length = 256
  fetched : fetchedLen ≤ 256
  reached : requiredLength field ≤ 256
  id : field.reportId ≠ 0 → buffer.head?.map BitVec.toNat = some field.reportId
  taken : ∃ before, bus.setReport reportType field.reportId
    ((writeField field raw buffer fetchedLen).1.take (writeField field raw buffer fetchedLen).2) before = (none, world)

variable {host : Host ω δ} {reportType : Nat} {field : HIDUsageDef} {raw : BitVec 32} {s s' : HostState ω δ}

theorem head?_bufferOf {bytes : List Byte} (h : bytes ≠ []) : (bufferOf bytes).head? = bytes.head? := by
  cases bytes with
  | nil => exact absurd rfl h
  | cons first rest => rfl

theorem head?_blankBuffer {reportId : Nat} (hid : reportId ≠ 0) (hbyte : reportId < 256) :
    (blankBuffer reportId).head?.map BitVec.toNat = some reportId := by
  unfold blankBuffer zeros
  rw [if_pos hid]
  show some (BitVec.ofNat 8 reportId).toNat = some reportId
  rw [BitVec.toNat_ofNat, Nat.mod_eq_of_lt hbyte]

theorem length_blankBuffer (reportId : Nat) : (blankBuffer reportId).length = 256 := by
  unfold blankBuffer zeros
  split
  · rw [List.length_set, List.length_replicate]
    rfl
  · rw [List.length_replicate]
    rfl

/-- What a write starts from is a whole buffer that begins with the id of the report. -/
theorem writeBase_buffer (hbus : KeepsReports host.bus) (hbyte : field.reportId < 256) {requestLength expectedLength : Nat}
    {buffer : List Byte} {fetchedLen : Nat}
    (h : writeBase host field expectedLength (hidClassRequestGetReport host reportType field.reportId requestLength s).1 s'
      = some (buffer, fetchedLen)) :
    buffer.length = 256 ∧ (field.reportId ≠ 0 → buffer.head?.map BitVec.toNat = some field.reportId) := by
  unfold writeBase at h
  dsimp only at h
  split at h
  · cases h
  split at h
  · rename_i hfetched
    have hbytes := of_decide_eq_true hfetched
    obtain ⟨rfl, -⟩ := Prod.mk.inj (Option.some.inj h)
    refine ⟨length_bufferOf _, fun hid => ?_⟩
    rw [head?_bufferOf hbytes]
    have hnumbered := hbus.numbered reportType field.reportId requestLength s.world
    unfold hidClassRequestGetReport at hbytes ⊢
    dsimp only at hbytes ⊢
    cases hanswer : (host.bus.getReport reportType field.reportId requestLength s.world).1 with
    | error e =>
        rw [hanswer] at hbytes
        exact absurd rfl hbytes
    | ok bytes =>
        rw [hanswer] at hbytes
        change bytes.take requestLength ≠ [] at hbytes
        change (bytes.take requestLength).head?.map BitVec.toNat = some field.reportId
        have hasked : requestLength ≠ 0 := by
          rintro rfl
          exact hbytes (List.take_zero)
        have hsome : bytes ≠ [] := by
          rintro rfl
          exact hbytes List.take_nil
        rw [List.head?_take, if_neg hasked]
        exact hnumbered bytes hid hanswer hsome
  split at h
  · cases h
  · obtain ⟨rfl, -⟩ := Prod.mk.inj (Option.some.inj h)
    exact ⟨length_blankBuffer field.reportId, fun hid => head?_blankBuffer hid hbyte⟩

/-- A write that succeeds is taken by the device, and nothing else changes but the link. -/
theorem wrote_of_writeBack (hbus : KeepsReports host.bus) (hbyte : field.reportId < 256) {requestLength expectedLength : Nat}
    (hrequest : requestLength ≤ bufferSize) (hexpected : expectedLength ≤ bufferSize)
    (h : writeBack host reportType field requestLength expectedLength raw s = (true, s')) :
    ∃ buffer fetchedLen, Wrote host.bus reportType field raw buffer fetchedLen s'.world
      ∧ s'.driverState = s.driverState ∧ ∃ data, s'.transfers.getLast? = some (.setReport reportType field.reportId data) := by
  unfold writeBack at h
  dsimp only at h
  split at h
  · cases h
  rename_i buffer fetchedLen hbase
  split at h
  · cases h
  rename_i hlength
  obtain ⟨herror, rfl⟩ := Prod.mk.inj h
  have hsent := of_decide_eq_true herror
  obtain ⟨hwhole, hid⟩ := writeBase_buffer hbus hbyte hbase
  have hfetched := writeBase_length host (length_answer_le host hrequest) hexpected hbase
  refine ⟨buffer, fetchedLen, ⟨hwhole, hfetched, ?_, hid, ?_⟩, rfl, ?_⟩
  · by_contra hfar
    apply hlength
    unfold bufferSize at hfetched
    unfold writeField
    dsimp only
    rw [if_pos ⟨by omega, by omega⟩]
  · unfold hidClassRequestSetReport at hsent ⊢
    dsimp only at hsent ⊢
    exact ⟨_, Prod.ext hsent rfl⟩
  · refine ⟨(writeField field raw buffer fetchedLen).1.take (writeField field raw buffer fetchedLen).2, ?_⟩
    unfold hidClassRequestSetReport
    dsimp only
    rw [List.getLast?_concat]

theorem wrote_of_writeUsageLocked (hbus : KeepsReports host.bus) (hbyte : field.reportId < 256)
    (h : writeUsageLocked host field raw s = (true, s')) :
    ∃ buffer fetchedLen, Wrote host.bus reportTypeFeature field raw buffer fetchedLen s'.world
      ∧ s'.driverState = s.driverState
      ∧ ∃ data, s'.transfers.getLast? = some (.setReport reportTypeFeature field.reportId data) := by
  unfold writeUsageLocked at h
  split at h
  · cases h
  split at h
  · cases h
  exact wrote_of_writeBack hbus hbyte (Nat.min_le_right _ _) (Nat.min_le_right _ _) h

/-! ### The report that is read back -/

variable {d : Attached ω} {session session' : Session ω} {bytes : List Byte}

structure Answered (session : Session ω) (reportId : Nat) (bytes : List Byte) : Prop where
  read : ∃ wLength, session.link.transfers.getLast? = some (.getReport reportTypeFeature reportId wLength (.ok bytes))
  some : bytes ≠ []

def readBackLength (d : Attached ω) (field : HIDUsageDef) : Nat :=
  wLength (d.requestLength reportTypeFeature field.reportId (d.parser.getExpectedLength field.reportId reportTypeFeature))

/-- A request asks for the report at most once, and leaves the driver. -/
theorem requestReport_cases (d : Attached ω) (reportId reportType expected : Nat) (session : Session ω) :
    (requestReport d reportId reportType expected session).2.link.driverState = session.link.driverState
      ∧ ((requestReport d reportId reportType expected session).2.link.transfers = session.link.transfers
        ∨ (requestReport d reportId reportType expected session).2.link.transfers = session.link.transfers ++
          [.getReport reportType reportId (wLength expected)
            ((d.bus.getReport reportType reportId (wLength expected) session.link.world).1.map (List.take (wLength expected)))])
    := by
  unfold requestReport
  dsimp only
  split
  · exact ⟨rfl, Or.inl rfl⟩
  · split
    · exact ⟨rfl, Or.inr rfl⟩
    · exact ⟨rfl, Or.inr rfl⟩

theorem engine_forgetReport (field : HIDUsageDef) (session : Session ω) :
    (forgetReport field session).link.driverState.engine = session.link.driverState.engine := by
  unfold forgetReport invalidateReport
  dsimp only
  split <;> rfl

/-- Reading back is such a request, and leaves the rows of the driver. -/
theorem readBack_cases (d : Attached ω) (field : HIDUsageDef) (session : Session ω) :
    (readBack d field session).link.driverState.engine = session.link.driverState.engine
      ∧ ((readBack d field session).link.transfers = session.link.transfers
        ∨ (readBack d field session).link.transfers = session.link.transfers ++
          [.getReport reportTypeFeature field.reportId (readBackLength d field)
            ((d.bus.getReport reportTypeFeature field.reportId (readBackLength d field) session.link.world).1.map
              (List.take (readBackLength d field)))]) := by
  obtain ⟨hdriver, htransfers⟩ := requestReport_cases d field.reportId reportTypeFeature
    (d.requestLength reportTypeFeature field.reportId (d.parser.getExpectedLength field.reportId reportTypeFeature))
    (noteWritten session)
  have hengine := congrArg Poll.engine hdriver
  unfold readBack
  dsimp only
  split
  · rename_i after hresult
    rw [hresult] at hengine htransfers
    exact ⟨hengine, htransfers⟩
  · rename_i after hresult
    rw [hresult] at hengine htransfers
    exact ⟨(engine_forgetReport field after).trans hengine, htransfers⟩

/-- What is read back is what the device took, as far as it was asked for. -/
theorem bytes_of_answered (session : Session ω) (hbus : KeepsReports d.bus) {buffer : List Byte} {fetchedLen : Nat}
    (hwrote : Wrote d.bus reportTypeFeature field raw buffer fetchedLen session.link.world)
    (hsent : ∃ data, session.link.transfers.getLast? = some (.setReport reportTypeFeature field.reportId data))
    (hread : Answered (readBack d field session) field.reportId bytes) :
    bytes = ((writeField field raw buffer fetchedLen).1.take (writeField field raw buffer fetchedLen).2).take
      (readBackLength d field) := by
  obtain ⟨length, hlast⟩ := hread.read
  obtain ⟨data, hbefore⟩ := hsent
  rcases (readBack_cases d field session).2 with hsame | hasked
  · rw [hsame, hbefore] at hlast
    cases hlast
  rw [hasked, List.getLast?_concat, Option.some.injEq, Transfer.getReport.injEq] at hlast
  obtain ⟨-, -, -, hanswer⟩ := hlast
  obtain ⟨before, htaken⟩ := hwrote.taken
  cases hgiven : (d.bus.getReport reportTypeFeature field.reportId (readBackLength d field) session.link.world).1 with
  | error e =>
      rw [hgiven] at hanswer
      cases hanswer
  | ok given =>
      rw [hgiven] at hanswer
      have hbytes : given.take (readBackLength d field) = bytes := Except.ok.inj hanswer
      rw [← hbytes]
      exact hbus.stored _ _ _ _ _ _ _ htaken hgiven

/-! ### The call -/

def planningPort (d : Attached ω) (base : Port (Session ω)) : Port (Session ω) :=
  port d { base with
    planSet := fun name value s => planSet d.parser.usages s.link.data name value s.link.driverState.engine }

/-- A SET VAR on a row of the device that succeeds writes the planned number and reads the report back. -/
theorem written_of_setVariable {base : Port (Session ω)} {name value : String} {b : Bound}
    (howner : ownerRow session.link.driverState.engine.rows name = some b) (hrow : isSetOnDevice b.info = true)
    (h : HidControl.setVariable (planningPort d base) (some name) (some value) session = (.ok, session')) :
    ∃ u planned link, Planned d.parser.usages session.link.data value session.link.driverState.engine b u planned
      ∧ writeUsageLocked d.host u (BitVec.ofInt 32 planned) session.link = (true, link)
      ∧ session' = readBack d u { session with link } := by
  have hkept : hasFlag b.info.hidflags huFlagAbsent = false := by
    unfold isSetOnDevice at hrow
    simp only [Bool.and_eq_true, Bool.not_eq_true'] at hrow
    exact hrow.1.2
  unfold HidControl.setVariable planningPort port at h
  dsimp only at h
  split at h
  · cases h
  rw [if_neg (by simp)] at h
  rcases planSet_cases d.parser.usages session.link.data value howner hkept with
    ⟨status, hfails, hplan⟩ | ⟨u, planned, hplan, hspec⟩
  · rw [hplan] at h
    exact absurd (Prod.mk.inj h).1 hfails
  · rw [hplan] at h
    have hcall : writePlannedValue d u planned session = (.ok, session') := h
    unfold writePlannedValue writeUsage at hcall
    cases hwritten : writeUsageLocked d.host u (BitVec.ofInt 32 planned) session.link with
    | mk ok link =>
        rw [hwritten] at hcall
        dsimp only at hcall
        cases ok with
        | false => cases hcall
        | true => exact ⟨u, planned, link, hspec, hwritten, (Prod.mk.inj hcall).2.symm⟩

/-! ### The rows of the device -/

variable {sub : Subdriver} {t : Transport} {depth : Nat} {engine engine' : State}

theorem rows_of_unbound {early : Bool} {start : UPSData} {history : List GenericDriver.Event}
    (hrun : history.foldlM (step sub depth) (starting sub t early start) = some engine) (hunbound : engine.nutBound = false) :
    engine.rows = [] := by
  refine walk_invariant (P := fun engine : State => engine.nutBound = false → engine.rows = []) ?_ ?_ hrun hunbound
  · unfold starting
    split
    · intro hnot
      rw [(boundTo_bindNutTable sub t (State.initial start)).1] at hnot
      cases hnot
    · exact fun _ => rfl
  intro event _ before after hbefore hstep hnot
  by_cases hreport : ∃ t' reportId reportType bytes, event = .report t' reportId reportType bytes
  · obtain ⟨t', reportId, reportType, bytes, rfl⟩ := hreport
    have hdecode : postDecode sub t' depth reportId reportType bytes before = some after := hstep
    rw [postDecode_bindNutTable] at hdecode
    have hbound := boundTo_bindNutTable sub t' { before with clears := [] }
    rw [(onward_postDecode hbound hdecode).nutBound, hbound.1] at hnot
    cases hnot
  · have honward : Onward before after :=
      onward_step (fun t' reportId reportType bytes heq => hreport ⟨t', reportId, reportType, bytes, heq⟩) hstep
    have hnone := hbefore (honward.nutBound.symm.trans hnot)
    have hplaces := honward.rows.places
    rw [hnone] at hplaces
    exact List.map_eq_nil_iff.mp hplaces

theorem sound_starting (hnames : PublishesOwnNames sub) {early : Bool} {start : UPSData} {history : List GenericDriver.Event}
    (hrun : history.foldlM (step sub depth) (starting sub t early start) = some engine) : Sound sub engine := by
  refine walk_invariant ?_ (fun _ _ _ _ hs hstep => step_sound hnames hs hstep) hrun
  unfold starting
  split
  · exact bindNutTable_sound t (sound_initial start)
  · exact sound_initial start

/-- The row of a name is bound to the device, and settled. -/
theorem owner_settled (hnames : PublishesOwnNames sub) {early : Bool} {start : UPSData} {history : List GenericDriver.Event}
    (hdevice : ∀ event ∈ history, event.OnDevice t)
    (hrun : history.foldlM (step sub depth) (starting sub t early start) = some engine) {name : String} {b : Bound}
    (howner : ownerRow engine.rows name = some b) (hrow : Writable b.info) :
    Sound sub engine ∧ BoundTo t engine ∧ Settled b ∧ ∃ i, HasRow i b engine := by
  have hsound := sound_starting hnames hrun
  have hmem := List.mem_of_find?_eq_some howner
  obtain ⟨i, hi⟩ := List.getElem?_of_mem hmem
  have hactive : b.role = .active := by
    have hfound := List.find?_some howner
    simp only [Bool.and_eq_true, decide_eq_true_eq] at hfound
    exact hfound.1
  refine ⟨hsound, ?_, ⟨hrow.published, hactive, hsound.calm b hmem, ?_⟩, i, hsound.resolved, hi⟩
  · rcases ofDevice_run hdevice hrun with hunbound | ⟨hbound, -⟩
    · rw [rows_of_unbound hrun hunbound] at hi
      cases hi
    · exact hbound
  · unfold recomputes
    rcases hrow.conv with hconv | hconv | hconv
    · simp [hconv]
    · simp [hconv]
    · simp [hconv]

/-! ### What is published -/

/-- A field of the request that a write makes, within four bytes of its report. -/
structure Fits (parser : HIDParser) (u : HIDUsageDef) : Prop where
  size : 1 ≤ u.bitSize ∧ u.bitSize ≤ 32
  word : u.bitOffset % 8 + u.bitSize ≤ 32
  inside : requiredLength u ≤ parser.getExpectedLength u.reportId reportTypeFeature

/-- The field of the report that is read back has the planned number. -/
theorem extractUsage_readBack {u : HIDUsageDef} {planned : Int} {x : ℚ} {buffer : List Byte} {fetchedLen : Nat} {world : ω}
    (hfits : Fits d.parser u) (hlength : ∀ reportType reportId expected, expected ≤ d.requestLength reportType reportId expected)
    (hfound : u.found = true) (hraw : HIDParser.toLogical u x = some planned)
    (hwrote : Wrote d.bus reportTypeFeature u (BitVec.ofInt 32 planned) buffer fetchedLen world)
    (hbytes : bytes = ((writeField u (BitVec.ofInt 32 planned) buffer fetchedLen).1.take
      (writeField u (BitVec.ofInt 32 planned) buffer fetchedLen).2).take (readBackLength d u)) :
    HIDParser.extractUsage u bytes = HIDParser.scale planned (HIDParser.unitExpo u) := by
  have hreached := hwrote.reached
  have hsize := hfits.size
  have hasked : requiredLength u ≤ readBackLength d u := by
    have hinside := hfits.inside
    have hmore := hlength reportTypeFeature u.reportId (d.parser.getExpectedLength u.reportId reportTypeFeature)
    have hneeded : 0 < requiredLength u := by
      unfold requiredLength
      omega
    unfold readBackLength wLength bufferSize
    rw [if_pos (by omega)]
    omega
  have hinside : bitStart u + u.bitSize ≤ 2048 := by
    unfold requiredLength at hreached
    unfold bitStart
    omega
  unfold HIDParser.toLogical at hraw
  rw [HIDParser.toLogicalBy_eq_some_iff hsize] at hraw
  have hcarries : HIDParser.Carries u (((writeField u (BitVec.ofInt 32 planned) buffer fetchedLen).1.take
      (writeField u (BitVec.ofInt 32 planned) buffer fetchedLen).2).take (readBackLength d u)) :=
    carries_stored hinside hwrote.whole hwrote.fetched hwrote.id hasked
  have hnumber := fieldNumber_stored hsize hfits.word hinside hwrote.whole hwrote.fetched hraw.2.2 hasked
  rw [← hbytes] at hcarries hnumber
  unfold HIDParser.extractUsage
  rw [HIDParser.extractUsageBy_eq hfound hsize hcarries, hnumber]

/-- A device with one report, which it keeps. -/
def shelfBus : Bus (List Byte) where
  getReport _ reportId wLength report :=
    if reportId ≠ 0 ∧ report.head?.map BitVec.toNat ≠ some reportId then (.error .invalidResponse, report)
    else (.ok (report.take wLength), report)
  setReport _ _ data _ := (none, data)
  backoffOver _ := true

theorem keepsReports_shelfBus : KeepsReports shelfBus := by
  constructor
  · intro reportType reportId data wLength before after bytes hset hget
    obtain rfl : data = after := (Prod.mk.inj hset).2
    unfold shelfBus at hget
    dsimp only at hget
    split at hget
    · cases hget
    · rw [← Except.ok.inj hget, List.take_take, Nat.min_self]
  · intro reportType reportId wLength world bytes hid hget hsome
    unfold shelfBus at hget
    dsimp only at hget
    split at hget
    · cases hget
    · rename_i hown
      have hhead := not_not.mp fun hother => hown ⟨hid, hother⟩
      rw [← Except.ok.inj hget] at hsome ⊢
      rw [List.head?_take, if_neg]
      · exact hhead
      · rintro rfl
        exact hsome List.take_zero

def limitsDescriptor : List Byte :=
  [0x05, 0x84, 0x09, 0x04, 0xA1, 0x01, 0x09, 0x10, 0xA1, 0x00, 0x09, 0x12, 0xA1, 0x00, 0x85, 0x07, 0x15, 0x00, 0x25, 0x64,
    0x75, 0x08, 0x95, 0x01, 0x55, 0x01, 0x0B, 0x49, 0x00, 0xFF, 0xFF, 0xB1, 0x02, 0xC0, 0xC0, 0x09, 0x24, 0xA1, 0x00, 0x0B,
    0x29, 0x00, 0x85, 0x00, 0xB1, 0x02, 0xC0, 0xC0]

def limitsParser : HIDParser := (HIDParser.parseReportDescriptor limitsDescriptor).get (by decide)

def limitRow : HidInfo := numberRow "battery.charge.low" 10 "UPS.PowerSummary.RemainingCapacityLimit" huFlagSemiStatic

def protectionRow : HidInfo :=
  lookupRow "battery.protection" 5 "UPS.BatterySystem.Battery.0xFFFF0049" "%s" huFlagSemiStatic kYesNo

def limits : Attached (List Byte) where
  sub := { bareSubdriver with hid2nut := [limitRow, protectionRow] }
  bus := shelfBus
  parser := limitsParser
  beeperControllable := false
  encodeBeeperValue _ _ := 0
  requestLength _ _ expected := expected

def limitsTransport : Transport :=
  { usages := limitsParser.usages, noInterruptPipe := false, iManufacturer := 0, iProduct := 0, iSerialNumber := 0 }

def limitsEngine : Option State :=
  [GenericDriver.Event.report limitsTransport 7 3 [7, 0, 2]].foldlM (step limits.sub 2)
    (starting limits.sub limitsTransport false UPSData.empty)

/-- The device connected, its report read once. -/
def limitsSession (engine : State) : Session (List Byte) :=
  { Session.initial [7, 0, 2] engine.data with
    link :=
      { (Session.initial [7, 0, 2] engine.data).link with
        readyToPoll := true
        driverState := { Poll.initial engine.data with engine } } }

/-- Nothing but the link. -/
def barePort : Port (Session (List Byte)) where
  isConnected _ := true
  hasHidPort _ := true
  upsData s := s.link.data
  supportsBeeperToggle _ := false
  beeperFieldRead _ := false
  shutdownCommandsSupported _ := false
  beeperMuteSupported _ := false
  commandTable _ := []
  getUsages _ := limitsParser.usages
  setBeeperField _ _ s := (false, s)
  writeUsage _ _ s := (false, s)
  planSet _ _ _ := .error .unknown
  saveDriverSideValue _ s := (.failed, s)
  writePlannedValue _ s := (.failed, s)
  executeCommand _ s := (.failed, s)
  noteDefaultShutdown _ s := s

def setLimits (name value : String) (engine : State) : SetStatus × Session (List Byte) :=
  HidControl.setVariable (planningPort limits barePort) (some name) (some value) (limitsSession engine)

/-- A SET VAR that succeeds on a row of the device, whose report is read back, decoded and shown. -/
structure LimitsSet (info : HidInfo) (value shown : String) (engine : State) (b : Bound) (u : HIDUsageDef)
    (session' : Session (List Byte)) (bytes : List Byte) (decoded : State) : Prop where
  run : limitsEngine = some engine
  owner : ownerRow engine.rows info.infoType = some b
  row : b.info = info
  field : featureField limitsParser.usages b = some u
  fits : Fits limitsParser u
  set : setLimits info.infoType value engine = (.ok, session')
  read : Answered session' u.reportId bytes
  decode : postDecode limits.sub limitsTransport 2 u.reportId reportTypeFeature bytes session'.link.driverState.engine
    = some decoded
  shown : decoded.data.find info.infoType = some shown

def answeredBytes (session : Session (List Byte)) (reportId : Nat) : Option (List Byte) :=
  match session.link.transfers.getLast? with
  | some (.getReport reportType id _ (.ok bytes)) =>
      if reportType = reportTypeFeature ∧ id = reportId ∧ bytes ≠ [] then some bytes else none
  | _ => none

theorem answered_of_bytes {session : Session (List Byte)} {reportId : Nat} {bytes : List Byte}
    (h : answeredBytes session reportId = some bytes) : Answered session reportId bytes := by
  unfold answeredBytes at h
  split at h
  · rename_i reportType id wLength given hlast
    split at h
    · rename_i hown
      obtain ⟨rfl, rfl, hsome⟩ := hown
      obtain rfl := Option.some.inj h
      exact ⟨⟨wLength, hlast⟩, hsome⟩
    · cases h
  · cases h

instance (parser : HIDParser) (u : HIDUsageDef) : Decidable (Fits parser u) :=
  decidable_of_iff
    ((1 ≤ u.bitSize ∧ u.bitSize ≤ 32) ∧ u.bitOffset % 8 + u.bitSize ≤ 32
      ∧ requiredLength u ≤ parser.getExpectedLength u.reportId reportTypeFeature)
    ⟨fun h => ⟨h.1, h.2.1, h.2.2⟩, fun h => ⟨h.size, h.word, h.inside⟩⟩

/-- What the row shows after a SET VAR that succeeds. -/
def limitsShown (info : HidInfo) (value : String) : Option String := do
  let engine ← limitsEngine
  let b ← ownerRow engine.rows info.infoType
  let u ← featureField limitsParser.usages b
  let bytes ← answeredBytes (setLimits info.infoType value engine).2 u.reportId
  let decoded ← postDecode limits.sub limitsTransport 2 u.reportId reportTypeFeature bytes
    (setLimits info.infoType value engine).2.link.driverState.engine
  if b.info = info ∧ Fits limitsParser u ∧ (setLimits info.infoType value engine).1 = .ok then
    decoded.data.find info.infoType
  else none

theorem exists_limitsSet {info : HidInfo} {value shown : String} (h : limitsShown info value = some shown) :
    ∃ engine b u session' bytes decoded, LimitsSet info value shown engine b u session' bytes decoded := by
  unfold limitsShown at h
  obtain ⟨engine, hrun, h⟩ := Option.bind_eq_some_iff.mp h
  obtain ⟨b, howner, h⟩ := Option.bind_eq_some_iff.mp h
  obtain ⟨u, hfield, h⟩ := Option.bind_eq_some_iff.mp h
  obtain ⟨bytes, hbytes, h⟩ := Option.bind_eq_some_iff.mp h
  obtain ⟨decoded, hdecode, h⟩ := Option.bind_eq_some_iff.mp h
  split at h
  · rename_i hspec
    obtain ⟨hrow, hfits, hok⟩ := hspec
    exact ⟨engine, b, u, _, bytes, decoded, hrun, howner, hrow, hfield, hfits, Prod.ext hok rfl, answered_of_bytes hbytes,
      hdecode, h⟩
  · cases h

theorem limits_parsed : HIDParser.parseReportDescriptor limitsDescriptor = some limits.parser := by
  simp only [limits, limitsParser, Option.some_get]

theorem limitsShown_limit : limitsShown limitRow "37.9" = some "40" := by
  decide +kernel

theorem limitsShown_protection : limitsShown protectionRow "yes" = some "no" := by
  decide +kernel

end USBHostUPS

end EspNut
