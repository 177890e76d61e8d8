import EspNut.Host.Session
import EspNut.Driver.Refused

/-!
# Refused reports are not requested

Six paths ask a device for a report: the quick and the full poll, the read behind the export, the reads before and after SET VAR, the read before an instant command and the one before a beeper command. The poll and the export leave out what the driver refuses. The others ask for the report of the field they write whatever the driver says of it, so a run requests no refused report exactly when no write of it reaches a field in one.
-/

namespace EspNut.USBHostUPS

open Lib GenericDriver NutTable

variable {ω : Type} (d : Attached ω)

/-! ### What is requested -/

/-- The type and the id of every report that was asked for. -/
def requested (transfers : List Transfer) : List (Nat × Nat) :=
  transfers.filterMap fun
    | .getReport reportType reportId _ _ => some (reportType, reportId)
    | .setReport .. => none

/-- No report the driver refuses was asked for. -/
def NoneRefused (accept : Nat → Nat → Bool) (transfers : List Transfer) : Prop :=
  ∀ report ∈ requested transfers, accept report.1 report.2 = true

/-- The poll of the driver is asked for no refused report by the driver itself. -/
def OwnAccepted (accept : Nat → Nat → Bool) : HostEvent ω → Prop
  | .poll event => OwnItemsAccepted accept event
  | _ => True

/-- A write that reaches the device is of a field in a report the driver accepts. -/
def WriteAccepted (s : Session ω) : HostEvent ω → Prop
  | .writeUsage field _ | .writePlannedValue field _ =>
      mayAsk d s.link = true → d.sub.acceptPollReport reportTypeFeature field.reportId = true
  | .setBeeper _ field =>
      mayAsk d s.link = true → d.beeperControllable = true → ∀ target ∈ beeperTarget d.parser.usages field,
        d.sub.acceptPollReport (beeperReportType target) target.reportId = true
  | _ => True

instance (accept : Nat → Nat → Bool) (transfers : List Transfer) : Decidable (NoneRefused accept transfers) :=
  inferInstanceAs (Decidable (∀ report ∈ requested transfers, _))

instance (accept : Nat → Nat → Bool) : (event : HostEvent ω) → Decidable (OwnAccepted accept event)
  | .poll event => inferInstanceAs (Decidable (OwnItemsAccepted accept event))
  | .requestDiagRead | .serviceDiagRead _ | .interruptDiagRead | .writeUsage .. | .setBeeper ..
  | .writePlannedValue .. | .outside .. => isTrue trivial

instance (s : Session ω) : (event : HostEvent ω) → Decidable (WriteAccepted d s event)
  | .writeUsage field _ | .writePlannedValue field _ =>
      inferInstanceAs (Decidable (mayAsk d s.link = true → d.sub.acceptPollReport reportTypeFeature field.reportId = true))
  | .setBeeper _ field =>
      inferInstanceAs (Decidable (mayAsk d s.link = true → d.beeperControllable = true →
        ∀ target ∈ beeperTarget d.parser.usages field,
          d.sub.acceptPollReport (beeperReportType target) target.reportId = true))
  | .poll _ | .requestDiagRead | .serviceDiagRead _ | .interruptDiagRead | .outside .. => isTrue trivial

variable {d : Attached ω}

/-! ### One operation of the link -/

theorem requested_append (first second : List Transfer) :
    requested (first ++ second) = requested first ++ requested second := List.filterMap_append

/-- An operation asks for one report, some times when it may and never otherwise, and adds nothing to the poll. -/
structure Asks (report : Nat × Nat) (live : Bool) (s s' : HostState ω Poll) : Prop where
  requests : ∃ count, requested s'.transfers = requested s.transfers ++ List.replicate count report
    ∧ (0 < count ↔ live = true)
  poll : ∀ accept, Filtered accept s.driverState → Filtered accept s'.driverState

theorem asks_nothing (report : Nat × Nat) (s : HostState ω Poll) : Asks report false s s :=
  ⟨⟨0, (List.append_nil _).symm, by simp⟩, fun _ h => h⟩

theorem Asks.trans {report : Nat × Nat} {live : Bool} {s s' s'' : HostState ω Poll} {again : Bool}
    (h : Asks report live s s') (h' : Asks report again s' s'') (hagain : again = true → live = true) :
    Asks report live s s'' := by
  obtain ⟨first, hfirst, hlive⟩ := h.requests
  obtain ⟨second, hsecond, hmore⟩ := h'.requests
  refine ⟨⟨first + second, ?_, ?_⟩, fun accept hs => h'.poll accept (h.poll accept hs)⟩
  · rw [hsecond, hfirst, List.append_assoc, List.replicate_append_replicate]
  · constructor
    · intro hpos
      rcases Nat.eq_zero_or_pos first with hnone | hsome
      · exact hagain (hmore.mp (by omega))
      · exact hlive.mp hsome
    · intro hasked
      have hsome := hlive.mpr hasked
      omega

theorem Asks.of_same {report : Nat × Nat} {live : Bool} {s s' s'' : HostState ω Poll} (h : Asks report live s s')
    (htransfers : requested s''.transfers = requested s'.transfers)
    (hpoll : ∀ accept, Filtered accept s'.driverState → Filtered accept s''.driverState) : Asks report live s s'' := by
  refine ⟨?_, fun accept hs => hpoll accept (h.poll accept hs)⟩
  rw [htransfers]
  exact h.requests

theorem asks_getReport (reportType reportId length : Nat) (s : HostState ω Poll) :
    Asks (reportType, reportId) true s (hidClassRequestGetReport d.host reportType reportId length s).2 := by
  refine ⟨⟨1, ?_, by simp⟩, fun _ h => h⟩
  unfold hidClassRequestGetReport
  dsimp only
  rw [requested_append]
  rfl

theorem asks_writeBack (reportType : Nat) (field : HIDUsageDef) (requestLength expectedLength : Nat)
    (raw : BitVec 32) (s : HostState ω Poll) :
    Asks (reportType, field.reportId) true s
      (writeBack d.host reportType field requestLength expectedLength raw s).2 := by
  have hread := asks_getReport (d := d) reportType field.reportId requestLength s
  unfold writeBack
  dsimp only
  split
  · exact hread
  · split
    · exact hread
    · refine hread.of_same ?_ fun _ h => h
      unfold hidClassRequestSetReport
      dsimp only
      rw [requested_append]
      exact List.append_nil _

theorem asks_writeUsageLocked (field : HIDUsageDef) (value : BitVec 32) (s : HostState ω Poll) :
    Asks (reportTypeFeature, field.reportId) (mayAsk d s) s (writeUsageLocked d.host field value s).2 := by
  unfold writeUsageLocked mayAsk
  cases s.readyToPoll with
  | false => exact asks_nothing _ s
  | true =>
      cases canPoll d.host s with
      | false => exact asks_nothing _ s
      | true => exact asks_writeBack _ field _ _ value s

theorem Asks.noteBeeper {report : Nat × Nat} {live : Bool} {s : HostState ω Poll} {result : Bool × HostState ω Poll}
    (h : Asks report live s result.2) (enable : Bool) :
    Asks report live s (USBHostUPS.noteBeeper d.host enable result).2 := by
  obtain ⟨ok, s'⟩ := result
  cases ok with
  | false => exact h
  | true => exact h.of_same rfl fun _ hp => hp.of_same rfl rfl rfl

theorem asks_setBeeperLocked (enable : Bool) (field : Option HIDUsageDef) (s : HostState ω Poll) {target : HIDUsageDef}
    (htarget : beeperTarget d.parser.usages field = some target) :
    Asks (beeperReportType target, target.reportId) (mayAsk d s && d.beeperControllable) s
      (setBeeperLocked d.host enable field s).2 := by
  have hfound : beeperTarget d.host.parser.usages field = some target := htarget
  have hcontrollable : d.host.driver.any (fun driver => !driver.beeperControllable) = !d.beeperControllable := rfl
  unfold setBeeperLocked mayAsk
  rw [hcontrollable, hfound]
  cases s.readyToPoll with
  | false => exact asks_nothing _ s
  | true =>
      cases d.beeperControllable with
      | false =>
          rw [Bool.and_false]
          exact asks_nothing _ s
      | true =>
          cases canPoll d.host s with
          | false => exact asks_nothing _ s
          | true => exact (asks_writeBack _ target _ _ _ s).noteBeeper enable

theorem setBeeperLocked_none (enable : Bool) (field : Option HIDUsageDef) (s : HostState ω Poll)
    (htarget : beeperTarget d.parser.usages field = none) : setBeeperLocked d.host enable field s = (false, s) := by
  have hfound : beeperTarget d.host.parser.usages field = none := htarget
  unfold setBeeperLocked
  rw [hfound]
  split
  · rfl
  · split
    · rfl
    · split
      · rfl
      · rfl

theorem asks_requestReport (reportId reportType expected : Nat) (s : Session ω) :
    Asks (reportType, reportId) (mayAsk d s.link) s.link (requestReport d reportId reportType expected s).2.link := by
  unfold requestReport
  cases mayAsk d s.link with
  | false => exact asks_nothing _ s.link
  | true =>
      have hread := asks_getReport (d := d) reportType reportId (wLength expected) s.link
      rw [if_neg (by simp)]
      dsimp only
      split
      · exact hread
      · exact hread

theorem diag_requestReport (reportId reportType expected : Nat) (s : Session ω) :
    (requestReport d reportId reportType expected s).2.diag = s.diag := by
  unfold requestReport
  split
  · rfl
  · dsimp only
    split
    · rfl
    · rfl

theorem mayAsk_of_written {field : HIDUsageDef} {value : BitVec 32} {s : HostState ω Poll}
    (h : (writeUsageLocked d.host field value s).1 = true) : mayAsk d s = true := by
  by_contra hidle
  have hsame : writeUsageLocked d.host field value s = (false, s) := by
    unfold writeUsageLocked
    unfold mayAsk at hidle
    split
    · rfl
    · split
      · rfl
      · rename_i hready hpoll
        simp [hready, hpoll] at hidle
  rw [hsame] at h
  exact Bool.false_ne_true h

theorem Asks.after_poll {report : Nat × Nat} {live : Bool} {s noted s' : HostState ω Poll} (h : Asks report live noted s')
    (htransfers : noted.transfers = s.transfers)
    (hpoll : ∀ accept, Filtered accept s.driverState → Filtered accept noted.driverState) : Asks report live s s' := by
  refine ⟨?_, fun accept hs => h.poll accept (hpoll accept hs)⟩
  rw [← htransfers]
  exact h.requests

theorem asks_readBack (field : HIDUsageDef) (s : Session ω) :
    Asks (reportTypeFeature, field.reportId) (mayAsk d s.link) s.link (readBack d field s).link
      ∧ (readBack d field s).diag = s.diag := by
  unfold readBack
  extract_lets expected length
  have hread := asks_requestReport (d := d) field.reportId reportTypeFeature length (noteWritten s)
  have hdiag := diag_requestReport (d := d) field.reportId reportTypeFeature length (noteWritten s)
  have hnoted : Asks (reportTypeFeature, field.reportId) (mayAsk d s.link) s.link
      (requestReport d field.reportId reportTypeFeature length (noteWritten s)).2.link :=
    hread.after_poll rfl fun _ hp => hp.of_same rfl rfl rfl
  cases hresult : requestReport d field.reportId reportTypeFeature length (noteWritten s) with
  | mk ok after =>
      rw [hresult] at hnoted hdiag
      cases ok with
      | true => exact ⟨hnoted, hdiag⟩
      | false =>
          refine ⟨hnoted.of_same rfl fun accept hp => ?_, hdiag⟩
          exact filtered_invalidateReport reportTypeFeature field.reportId hp

theorem asks_writePlannedValue (field : HIDUsageDef) (raw : Int) (s : Session ω) :
    Asks (reportTypeFeature, field.reportId) (mayAsk d s.link) s.link (writePlannedValue d field raw s).2.link
      ∧ (writePlannedValue d field raw s).2.diag = s.diag := by
  have hwritten := asks_writeUsageLocked (d := d) field (BitVec.ofInt 32 raw) s.link
  unfold writePlannedValue writeUsage
  cases hresult : writeUsageLocked d.host field (BitVec.ofInt 32 raw) s.link with
  | mk ok link =>
      rw [hresult] at hwritten
      cases ok with
      | false => exact ⟨hwritten, rfl⟩
      | true =>
          have hlive : mayAsk d s.link = true := mayAsk_of_written (congrArg Prod.fst hresult)
          obtain ⟨hback, hdiag⟩ := asks_readBack (d := d) field { s with link }
          exact ⟨hwritten.trans hback fun _ => hlive, hdiag⟩

/-! ### One step -/

theorem NoneRefused.iff_of_asks {accept : Nat → Nat → Bool} {report : Nat × Nat} {live : Bool} {s s' : HostState ω Poll}
    (h : Asks report live s s') :
    NoneRefused accept s'.transfers
      ↔ NoneRefused accept s.transfers ∧ (live = true → accept report.1 report.2 = true) := by
  obtain ⟨count, hrequests, hlive⟩ := h.requests
  unfold NoneRefused
  rw [hrequests]
  constructor
  · intro hall
    refine ⟨fun r hr => hall r (List.mem_append_left _ hr), fun hasked => ?_⟩
    have hpos : count ≠ 0 := Nat.ne_of_gt (hlive.mpr hasked)
    exact hall report (List.mem_append_right _ (List.mem_replicate.mpr ⟨hpos, rfl⟩))
  · rintro ⟨hbefore, haccepted⟩ r hr
    rcases List.mem_append.mp hr with hold | hnew
    · exact hbefore r hold
    · obtain ⟨hcount, rfl⟩ := List.mem_replicate.mp hnew
      exact haccepted (hlive.mp (Nat.pos_of_ne_zero hcount))

/-- Neither the poll nor the export read holds a refused report. -/
structure Clean (d : Attached ω) (s : Session ω) : Prop where
  poll : Filtered d.sub.acceptPollReport s.link.driverState
  diag : s.diag.Filtered d.sub.acceptPollReport

theorem clean_initial (d : Attached ω) (world : ω) (data : UPSData) : Clean d (Session.initial world data) :=
  ⟨filtered_initial _ data, DiagSweep.filtered_clear _⟩

theorem clean_pollEvent {event : PollEvent} (hown : OwnItemsAccepted d.sub.acceptPollReport event) {s : Session ω}
    (h : Clean d s) :
    Clean d (pollEvent d event s)
      ∧ (NoneRefused d.sub.acceptPollReport (pollEvent d event s).link.transfers
        ↔ NoneRefused d.sub.acceptPollReport s.link.transfers) := by
  obtain ⟨hkept, haccepted⟩ := filtered_pollStep hown h.poll
  unfold pollEvent
  dsimp only
  cases hrequest : (pollStep d.sub s.link.driverState event).2 with
  | none => exact ⟨⟨hkept, h.diag⟩, Iff.rfl⟩
  | some request =>
      cases request with
      | requestStringDescriptor index => exact ⟨⟨hkept, h.diag⟩, Iff.rfl⟩
      | requestReport id reportType length =>
          have hasks := asks_requestReport (d := d) id reportType length
            (publish (pollStep d.sub s.link.driverState event).1 s)
          have hreport := haccepted id reportType length hrequest
          refine ⟨⟨hasks.poll _ hkept, ?_⟩, ?_⟩
          · show DiagSweep.Filtered _ (requestReport d id reportType length _).2.diag
            rw [diag_requestReport]
            exact h.diag
          · exact (NoneRefused.iff_of_asks hasks).trans (and_iff_left fun _ => hreport)

theorem clean_startDiagRead {s : Session ω} (h : Clean d s) : Clean d (startDiagRead d s) := by
  unfold startDiagRead
  split
  · exact h
  · exact ⟨h.poll, DiagSweep.filtered_start _ _ _⟩

theorem link_startDiagRead (s : Session ω) : (startDiagRead d s).link = s.link := by
  unfold startDiagRead
  split
  · rfl
  · rfl

theorem clean_diagRead (spacingOver : Bool) {s : Session ω} (h : Clean d s) :
    Clean d (diagRead d spacingOver s)
      ∧ (NoneRefused d.sub.acceptPollReport (diagRead d spacingOver s).link.transfers
        ↔ NoneRefused d.sub.acceptPollReport s.link.transfers) := by
  unfold diagRead
  split
  · exact ⟨h, Iff.rfl⟩
  split
  · exact ⟨⟨h.poll, h.diag.interrupt⟩, Iff.rfl⟩
  split
  · exact ⟨h, Iff.rfl⟩
  split
  · exact ⟨h, Iff.rfl⟩
  · rename_i reportType reportId hnext
    obtain ⟨-, haccepted⟩ := h.diag.next hnext
    have hasks := asks_getReport (d := d) reportType reportId
      (wLength (d.requestLength reportType reportId (d.parser.getExpectedLength reportId reportType))) s.link
    refine ⟨⟨hasks.poll _ h.poll, h.diag.record _ _ _⟩, ?_⟩
    exact (NoneRefused.iff_of_asks hasks).trans (and_iff_left fun _ => haccepted)

/-- A step keeps the poll and the export read free of refused reports, and asks for one exactly when it writes one. -/
theorem clean_hostStep {event : HostEvent ω} (hown : OwnAccepted d.sub.acceptPollReport event) {s : Session ω}
    (h : Clean d s) :
    Clean d (hostStep d s event)
      ∧ (NoneRefused d.sub.acceptPollReport (hostStep d s event).link.transfers
        ↔ NoneRefused d.sub.acceptPollReport s.link.transfers ∧ WriteAccepted d s event) := by
  cases event with
  | poll event =>
      obtain ⟨hkept, hsame⟩ := clean_pollEvent hown h
      exact ⟨hkept, hsame.trans (and_iff_left trivial).symm⟩
  | requestDiagRead =>
      unfold hostStep
      dsimp only
      split
      · exact ⟨h, (and_iff_left trivial).symm⟩
      · exact ⟨⟨h.poll, h.diag⟩, (and_iff_left trivial).symm⟩
  | serviceDiagRead spacingOver =>
      obtain ⟨hkept, hsame⟩ := clean_diagRead spacingOver (clean_startDiagRead h)
      rw [link_startDiagRead] at hsame
      exact ⟨hkept, hsame.trans (and_iff_left trivial).symm⟩
  | interruptDiagRead => exact ⟨⟨h.poll, h.diag.interrupt⟩, (and_iff_left trivial).symm⟩
  | writeUsage field value =>
      have hasks := asks_writeUsageLocked (d := d) field value s.link
      exact ⟨⟨hasks.poll _ h.poll, h.diag⟩, NoneRefused.iff_of_asks hasks⟩
  | setBeeper enable field =>
      cases htarget : beeperTarget d.parser.usages field with
      | none =>
          have hsame := setBeeperLocked_none (d := d) enable field s.link htarget
          have hidle : hostStep d s (.setBeeper enable field) = (setBeeper d enable field s).2 := rfl
          have hnone : WriteAccepted d s (.setBeeper enable field) := by
            intro _ _ target hmem
            rw [htarget] at hmem
            exact absurd hmem (by simp)
          unfold setBeeper at hidle
          rw [hsame] at hidle
          rw [hidle]
          exact ⟨⟨h.poll.of_same rfl rfl rfl, h.diag⟩, (and_iff_left hnone).symm⟩
      | some target =>
          have hasks := asks_setBeeperLocked enable field s.link htarget
          refine ⟨⟨(hasks.poll _ h.poll).of_same rfl rfl rfl, h.diag⟩, (NoneRefused.iff_of_asks hasks).trans ?_⟩
          apply and_congr_right
          intro _
          show (_ → _) ↔ (_ → _ → ∀ found ∈ beeperTarget d.parser.usages field, _)
          rw [htarget, Bool.and_eq_true]
          constructor
          · intro haccepted hask hcontrol found hfound
            obtain rfl := Option.some.inj hfound
            exact haccepted ⟨hask, hcontrol⟩
          · rintro haccepted ⟨hask, hcontrol⟩
            exact haccepted hask hcontrol target rfl
  | writePlannedValue field raw =>
      obtain ⟨hasks, hdiag⟩ := asks_writePlannedValue (d := d) field raw s
      refine ⟨⟨hasks.poll _ h.poll, ?_⟩, NoneRefused.iff_of_asks hasks⟩
      show DiagSweep.Filtered _ (writePlannedValue d field raw s).2.diag
      rw [hdiag]
      exact h.diag
  | outside world readyToPoll backoffActive => exact ⟨⟨h.poll, h.diag⟩, (and_iff_left trivial).symm⟩

/-! ### Runs -/

theorem noneRefused_run_iff {s : Session ω} (h : Clean d s) {events : List (HostEvent ω)}
    (hown : ∀ event ∈ events, OwnAccepted d.sub.acceptPollReport event) :
    NoneRefused d.sub.acceptPollReport (run (hostStep d) s events).link.transfers
      ↔ NoneRefused d.sub.acceptPollReport s.link.transfers ∧ Along (WriteAccepted d) (hostStep d) s events := by
  induction events generalizing s with
  | nil => exact (and_iff_left trivial).symm
  | cons event rest ih =>
      obtain ⟨hkept, hstep⟩ := clean_hostStep (hown event List.mem_cons_self) h
      rw [run_cons, ih hkept fun e he => hown e (List.mem_cons_of_mem _ he), hstep]
      exact and_assoc

/-- A run asks for no refused report if and only if no write of it reaches a field in one. -/
theorem refused_never_requested_iff (d : Attached ω) (world : ω) (data : UPSData) (events : List (HostEvent ω))
    (hown : ∀ event ∈ events, OwnAccepted d.sub.acceptPollReport event) :
    NoneRefused d.sub.acceptPollReport (run (hostStep d) (Session.initial world data) events).link.transfers
      ↔ Along (WriteAccepted d) (hostStep d) (Session.initial world data) events := by
  have hempty : NoneRefused d.sub.acceptPollReport (Session.initial world data).link.transfers := by
    intro report hreport
    exact absurd hreport (by simp [Session.initial, requested])
  rw [noneRefused_run_iff (clean_initial d world data) hown]
  exact and_iff_right hempty

/-! A CyberPower device with its power-off delay in report 6, which the driver never polls, and its start-up delay in report 5. -/

def delaysDescriptor : List Byte :=
  [0x05, 0x84, 0x09, 0x04, 0xA1, 0x01, 0x09, 0x1C, 0xA1, 0x00, 0x75, 0x10, 0x95, 0x01, 0x85, 0x06, 0x09, 0x57, 0xB1,
    0x02, 0x85, 0x05, 0x09, 0x56, 0xB1, 0x02, 0xC0, 0xC0]

def delaysParser : HIDParser := (HIDParser.parseReportDescriptor delaysDescriptor).get (by decide)

/-- A device that answers every request and takes every write. -/
def willingBus : Bus Unit where
  getReport _ reportId _ world := (.ok [BitVec.ofNat 8 reportId, 0x00, 0x00], world)
  setReport _ _ _ world := (none, world)
  backoffOver _ := true

def delayRows : List HidInfo :=
  let row (name path dfl : String) : HidInfo :=
    { infoType := name, infoFlags := 0, infoLen := 0, hidpath := some path, dfl := some dfl, hidflags := huTypeCmd,
      conv := .number, lkp := [] }
  [row "load.off.delay" "UPS.Output.DelayBeforeShutdown" "60", row "load.on.delay" "UPS.Output.DelayBeforeStartup" "120"]

def cyberPower : Attached Unit where
  sub := { bareSubdriver with
    hid2nut := delayRows
    acceptPollReport := CyberPowerDriver.acceptPollReport (CyberPowerDriver.hasVendorReports delaysParser.usages) }
  bus := willingBus
  parser := delaysParser
  beeperControllable := true
  encodeBeeperValue enable _ := if enable then 2 else 1
  requestLength _ _ expected := expected

def delaysPort : Port (Session Unit) where
  isConnected _ := true
  hasHidPort _ := true
  upsData s := s.link.data
  supportsBeeperToggle _ := false
  beeperFieldRead _ := false
  shutdownCommandsSupported _ := true
  beeperMuteSupported _ := true
  commandTable _ := delayRows
  getUsages _ := delaysParser.usages
  setBeeperField _ _ s := (false, s)
  writeUsage _ _ s := (false, s)
  planSet _ _ _ := .error .unknown
  saveDriverSideValue _ s := (.failed, s)
  writePlannedValue _ s := (.failed, s)
  executeCommand _ s := (.failed, s)
  noteDefaultShutdown _ s := s

def linkUp : HostEvent Unit := .outside () true false

def connected : Session Unit := run (hostStep cyberPower) (Session.initial () UPSData.empty) [linkUp]

/-- An export, a poll and the start-up delay, on a device without INPUT reports. -/
def startupEvents : List (HostEvent Unit) :=
  [linkUp, .requestDiagRead, .serviceDiagRead true,
    .poll (.loop Hooks.generic { bareHost delaysParser.usages with noInterruptPipe := true } 0 false)] ++
    (HidControl.cmdField delayRows delaysParser.usages "load.on.delay").toList.map fun row => .writeUsage row.1 30

/-- Report 5 is asked for by each of them, and report 6 never. -/
theorem refused_never_requested_startup :
    requested (run (hostStep cyberPower) (Session.initial () UPSData.empty) startupEvents).link.transfers
        = [(3, 5), (3, 5), (3, 5)]
      ∧ NoneRefused cyberPower.sub.acceptPollReport
        (run (hostStep cyberPower) (Session.initial () UPSData.empty) startupEvents).link.transfers := by
  have hwrites : Along (WriteAccepted cyberPower) (hostStep cyberPower) (Session.initial () UPSData.empty) startupEvents := by
    decide +kernel
  have hown : ∀ event ∈ startupEvents, OwnAccepted cyberPower.sub.acceptPollReport event := by
    decide +kernel
  exact ⟨by decide +kernel, (refused_never_requested_iff cyberPower () UPSData.empty startupEvents hown).mpr hwrites⟩

/-- The power-off delay asks for report 6 before it is written. -/
theorem power_off_requests_refused_report :
    cyberPower.sub.acceptPollReport reportTypeFeature 6 = false
      ∧ (HidControl.executeCommand (port cyberPower delaysPort) (some "load.off.delay") (some "20") connected).1 = .ok
      ∧ ¬ NoneRefused cyberPower.sub.acceptPollReport
          (HidControl.executeCommand (port cyberPower delaysPort) (some "load.off.delay") (some "20")
            connected).2.link.transfers := by
  decide +kernel

end EspNut.USBHostUPS
