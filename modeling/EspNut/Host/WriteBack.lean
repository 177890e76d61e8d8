import EspNut.Host.Usb

/-!
# Neighbours of a written field

A report that carries other fields is written only after it was read back as far as the target, and every other bit is sent as it was read. The check of the other fields compares usage, offset and path, so it does not see a field that shares all three with the target, as a field without width does; without it a failed read is followed by a report of zeros. The property holds exactly where the check sees the other fields, or where the target lies beyond the buffer and nothing is ever written.
-/

namespace EspNut.USBHostUPS

open Lib BeeperLogic

/-- The parsed fields of a report but the target itself. -/
def otherFields (usages : List HIDUsageDef) (reportType : Nat) (field : HIDUsageDef) : List HIDUsageDef :=
  (usages.erase field).filter fun u => u.reportType = reportType && u.reportId = field.reportId

/-- Among the transfers is a read of the report up to the end of the target. -/
def ReadBack (field : HIDUsageDef) (calls : List Transfer) : Prop :=
  ∃ reportType wLength fetched,
    .getReport reportType field.reportId wLength (.ok fetched) ∈ calls ∧ requiredLength field ≤ fetched.length

/-- The transfers of a write that leaves the neighbours of the target alone, and its result. -/
structure Preserves (reportType : Nat) (field : HIDUsageDef) (calls : List Transfer) (written : Bool) :
    Prop where
  after_read : ∀ rt id data, .setReport rt id data ∈ calls →
    ∃ wLength fetched, rt = reportType ∧ id = field.reportId ∧
      calls = [.getReport rt id wLength (.ok fetched), .setReport rt id data] ∧
      requiredLength field ≤ fetched.length ∧ data.length = fetched.length ∧
      ∀ k, ¬InField field k → bitAt data k = bitAt fetched k
  refused : ¬ReadBack field calls → (∀ rt id data, .setReport rt id data ∉ calls) ∧ written = false

variable {ω δ : Type}

/-- The transfers a call added preserve the neighbours of the target. -/
def NeighboursKept (reportType : Nat) (field : HIDUsageDef) (before : HostState ω δ)
    (result : Bool × HostState ω δ) : Prop :=
  ∃ calls, result.2.transfers = before.transfers ++ calls ∧ Preserves reportType field calls result.1

/-! ### One read and one write -/

theorem length_bufferOf (answer : List Byte) : (bufferOf answer).length = bufferSize := by
  simp only [bufferOf, zeros, bufferSize, List.length_take, List.length_append, List.length_replicate]
  omega

theorem bitAt_bufferOf {answer : List Byte} (hlen : answer.length ≤ bufferSize) {k : Nat}
    (hk : k / 8 < answer.length) : bitAt (bufferOf answer) k = bitAt answer k := by
  rw [bufferOf, bitAt_take, if_pos (by omega), bitAt_append_left _ _ _ hk]

/-- A report read back and written keeps its length and every bit outside the target. -/
theorem written_report {field : HIDUsageDef} (raw : BitVec 32) {fetched : List Byte}
    (hlen : fetched.length ≤ bufferSize) (hreach : requiredLength field ≤ fetched.length) :
    let data := (writeField field raw (bufferOf fetched) fetched.length).1.take fetched.length
    data.length = fetched.length ∧ ∀ k, ¬InField field k → bitAt data k = bitAt fetched k := by
  have hbuffer : fetched.length ≤ (bufferOf fetched).length := by rw [length_bufferOf]; exact hlen
  refine ⟨by simp [List.length_take, hbuffer], fun k hk => ?_⟩
  rw [bitAt_take]
  by_cases hin : k / 8 < fetched.length
  · rw [if_pos hin, bitAt_writeField raw hreach hbuffer, if_neg (fun h => hk h.1), bitAt_bufferOf hlen hin]
  · rw [if_neg hin, bitAt_eq_false_of_length_le _ _ (by omega)]

section WriteBack

variable (host : Host ω δ) {reportType : Nat} {field : HIDUsageDef} {requestLength expectedLength : Nat}
  {raw : BitVec 32} {s : HostState ω δ}

theorem transfers_getReport :
    (hidClassRequestGetReport host reportType field.reportId requestLength s).2.transfers =
      s.transfers ++ [.getReport reportType field.reportId requestLength
        (hidClassRequestGetReport host reportType field.reportId requestLength s).1] := rfl

theorem length_answer_le (hrequest : requestLength ≤ bufferSize) :
    (answerBytes (hidClassRequestGetReport host reportType field.reportId requestLength s).1).length
      ≤ bufferSize := by
  simp only [hidClassRequestGetReport]
  cases (host.bus.getReport reportType field.reportId requestLength s.world).1 with
  | error e => simp [Except.map, answerBytes]
  | ok bytes =>
      simp only [Except.map, answerBytes, List.length_take]
      omega

/-- Without a report to start from, or with a target beyond the buffer, the call ends after the read. -/
theorem writeBack_refused
    (h : ∀ buffer length, writeBase host field expectedLength
        (hidClassRequestGetReport host reportType field.reportId requestLength s).1
        (hidClassRequestGetReport host reportType field.reportId requestLength s).2 = some (buffer, length) →
      (writeField field raw buffer length).2 = 0) :
    writeBack host reportType field requestLength expectedLength raw s =
      (false, (hidClassRequestGetReport host reportType field.reportId requestLength s).2) := by
  simp only [writeBack]
  split
  · rfl
  · rename_i buffer length hbase
    rw [if_pos (h buffer length hbase)]

theorem transfers_writeBack_sent {buffer : List Byte} {length : Nat}
    (hbase : writeBase host field expectedLength
      (hidClassRequestGetReport host reportType field.reportId requestLength s).1
      (hidClassRequestGetReport host reportType field.reportId requestLength s).2 = some (buffer, length))
    (hsent : (writeField field raw buffer length).2 ≠ 0) :
    (writeBack host reportType field requestLength expectedLength raw s).2.transfers =
      s.transfers ++ [.getReport reportType field.reportId requestLength
          (hidClassRequestGetReport host reportType field.reportId requestLength s).1,
        .setReport reportType field.reportId
          ((writeField field raw buffer length).1.take (writeField field raw buffer length).2)] := by
  simp only [writeBack]
  rw [hbase]
  simp only [hsent, if_false, hidClassRequestSetReport]
  rw [transfers_getReport, List.append_assoc]
  rfl

/-- A shared report is written only from a read that reaches the target. -/
theorem writeBase_shared {answer : Except TransferError (List Byte)} {read : HostState ω δ}
    {buffer : List Byte} {length : Nat}
    (hshared : reportHasOtherFields host.parser.usages field = true)
    (h : writeBase host field expectedLength answer read = some (buffer, length)) :
    ∃ fetched, answer = .ok fetched ∧ requiredLength field ≤ fetched.length ∧
      buffer = bufferOf fetched ∧ length = fetched.length := by
  simp only [writeBase, canWriteBack, hshared, Bool.not_true, Bool.false_or] at h
  by_cases hempty : answerBytes answer = []
  · rw [if_pos (by simp [hempty])] at h
    exact absurd h (by simp)
  · by_cases hreach : requiredLength field ≤ (answerBytes answer).length
    · rw [if_neg (by simp [hempty, hreach]), if_pos (by simpa using hempty)] at h
      obtain ⟨hbuffer, hlength⟩ := Prod.mk.inj (Option.some.inj h)
      cases answer with
      | error e => exact absurd rfl hempty
      | ok fetched => exact ⟨fetched, rfl, hreach, hbuffer.symm, hlength.symm⟩
    · rw [if_pos (by simp [hreach])] at h
      exact absurd h (by simp)

theorem writeBase_length {answer : Except TransferError (List Byte)} {read : HostState ω δ}
    {buffer : List Byte} {length : Nat} (hanswer : (answerBytes answer).length ≤ bufferSize)
    (hexpected : expectedLength ≤ bufferSize)
    (h : writeBase host field expectedLength answer read = some (buffer, length)) :
    length ≤ bufferSize := by
  simp only [writeBase] at h
  split at h
  · exact absurd h (by simp)
  · split at h
    · exact (Prod.mk.inj (Option.some.inj h)).2 ▸ hanswer
    · split at h
      · exact absurd h (by simp)
      · exact (Prod.mk.inj (Option.some.inj h)).2 ▸ hexpected

theorem neighboursKept_of_refused
    (h : writeBack host reportType field requestLength expectedLength raw s =
      (false, (hidClassRequestGetReport host reportType field.reportId requestLength s).2)) :
    NeighboursKept reportType field s
      (writeBack host reportType field requestLength expectedLength raw s) := by
  rw [h]
  refine ⟨_, transfers_getReport host, ⟨fun rt id data hmem => ?_, fun _ => ⟨fun rt id data hmem => ?_, rfl⟩⟩⟩ <;>
    simp at hmem

/-- A write whose check sees the other fields, or whose target lies beyond the buffer, keeps the neighbours. -/
theorem neighboursKept_writeBack
    (h : reportHasOtherFields host.parser.usages field = true ∨ bufferSize < requiredLength field)
    (hrequest : requestLength ≤ bufferSize) (hexpected : expectedLength ≤ bufferSize) :
    NeighboursKept reportType field s
      (writeBack host reportType field requestLength expectedLength raw s) := by
  have hanswer : (answerBytes (hidClassRequestGetReport host reportType field.reportId requestLength s).1).length
      ≤ bufferSize := length_answer_le host hrequest
  rcases h with hshared | hbeyond
  · cases hbase : writeBase host field expectedLength
        (hidClassRequestGetReport host reportType field.reportId requestLength s).1
        (hidClassRequestGetReport host reportType field.reportId requestLength s).2 with
    | none =>
        exact neighboursKept_of_refused host (writeBack_refused host fun _ _ h => by
          rw [hbase] at h
          exact absurd h (by simp))
    | some base =>
        obtain ⟨buffer, length⟩ := base
        obtain ⟨fetched, hok, hreach, rfl, rfl⟩ := writeBase_shared host hshared hbase
        have hlen : fetched.length ≤ bufferSize := by rw [hok] at hanswer; exact hanswer
        obtain ⟨hdata, hframe⟩ := written_report raw hlen hreach
        have hlength := writeField_length_of_le raw (bufferOf fetched) hreach
        by_cases hzero : fetched.length = 0
        · exact neighboursKept_of_refused host (writeBack_refused host fun buffer length h => by
            rw [hbase] at h
            obtain ⟨rfl, rfl⟩ := Prod.mk.inj (Option.some.inj h)
            rw [hlength, hzero])
        · have hsent : (writeField field raw (bufferOf fetched) fetched.length).2 ≠ 0 := by
            rw [hlength]
            exact hzero
          have htransfers := transfers_writeBack_sent host hbase hsent
          rw [hlength, hok] at htransfers
          refine ⟨_, htransfers, ⟨fun rt id data hmem => ?_, fun hnone => ?_⟩⟩
          · simp only [List.mem_cons, Transfer.setReport.injEq, List.not_mem_nil, or_false, reduceCtorEq,
              false_or] at hmem
            obtain ⟨rfl, rfl, rfl⟩ := hmem
            exact ⟨requestLength, fetched, rfl, rfl, rfl, hreach, hdata, hframe⟩
          · exact absurd ⟨reportType, requestLength, fetched, by simp, hreach⟩ hnone
  · refine neighboursKept_of_refused host (writeBack_refused host fun buffer length hbase => ?_)
    have hlen := writeBase_length host hanswer hexpected hbase
    unfold writeField
    unfold bufferSize at hbeyond hlen
    simp only
    rw [if_pos ⟨by omega, hbeyond⟩]

end WriteBack

/-! ### A device that refuses to be read -/

/-- A device that answers every GET_REPORT with a STALL and takes every SET_REPORT. -/
def stallBus : Bus Unit where
  getReport _ _ _ world := (.error .invalidResponse, world)
  setReport _ _ _ world := (none, world)
  backoffOver _ := true

theorem writeField_length_pos {field : HIDUsageDef} {raw : BitVec 32} {buffer : List Byte} {length : Nat}
    (hpos : 0 < length) (hreach : requiredLength field ≤ bufferSize) :
    (writeField field raw buffer length).2 ≠ 0 := by
  unfold bufferSize at hreach
  unfold writeField
  simp only
  rw [if_neg (by omega)]
  simp only
  split <;> omega

/-- Where the check sees no other field, a report that cannot be read is sent all the same. -/
theorem not_neighboursKept_stalled {driver : Option (Driver δ)} {parser : HIDParser} {reportType : Nat}
    {field : HIDUsageDef} {requestLength expectedLength : Nat} {raw : BitVec 32} {s : HostState Unit δ}
    (hshared : reportHasOtherFields parser.usages field = false)
    (hreach : requiredLength field ≤ bufferSize) (hexpected : 0 < expectedLength) :
    ¬NeighboursKept reportType field s
      (writeBack ⟨stallBus, driver, parser⟩ reportType field requestLength expectedLength raw s) := by
  rintro ⟨calls, hcalls, hkept⟩
  have hbase : writeBase ⟨stallBus, driver, parser⟩ field expectedLength
      (hidClassRequestGetReport ⟨stallBus, driver, parser⟩ reportType field.reportId requestLength s).1
      (hidClassRequestGetReport ⟨stallBus, driver, parser⟩ reportType field.reportId requestLength s).2
      = some (blankBuffer field.reportId, expectedLength) := by
    simp [writeBase, canWriteBack, hshared, hidClassRequestGetReport, stallBus, Except.map, answerBytes,
      canPoll, backoffAfter]
  rw [transfers_writeBack_sent _ hbase (writeField_length_pos hexpected hreach)] at hcalls
  have heq := List.append_cancel_left hcalls
  obtain ⟨wLength, fetched, -, -, hread, -⟩ := hkept.after_read reportType field.reportId
    ((writeField field raw (blankBuffer field.reportId) expectedLength).1.take
      (writeField field raw (blankBuffer field.reportId) expectedLength).2) (by rw [← heq]; simp)
  rw [← heq] at hread
  simp [hidClassRequestGetReport, stallBus, Except.map] at hread

theorem getExpectedLength_pos (parser : HIDParser) (reportId reportType : Nat) :
    0 < parser.getExpectedLength reportId reportType := by
  unfold HIDParser.getExpectedLength
  extract_lets bits
  split
  · omega
  · have hbits : bits ≠ 0 := by assumption
    omega

/-! ### The two writes -/

/-- Where a target is protected: its report has no other field, or one that differs from it in usage, offset or path, or the target lies beyond the buffer. -/
def Guarded (usages : List HIDUsageDef) (reportType : Nat) (field : HIDUsageDef) : Prop :=
  otherFields usages reportType field = [] ∨
    (∃ u ∈ usages, u.reportId = field.reportId ∧ u.reportType = field.reportType ∧
      ¬(u.usage = field.usage ∧ u.bitOffset = field.bitOffset ∧ u.path = field.path)) ∨
    bufferSize < requiredLength field

theorem reportHasOtherFields_iff (usages : List HIDUsageDef) (field : HIDUsageDef) :
    reportHasOtherFields usages field = true ↔
      ∃ u ∈ usages, u.reportId = field.reportId ∧ u.reportType = field.reportType ∧
        ¬(u.usage = field.usage ∧ u.bitOffset = field.bitOffset ∧ u.path = field.path) := by
  unfold reportHasOtherFields
  rw [List.any_eq_true]
  refine exists_congr fun u => and_congr_right fun _ => ?_
  by_cases hreport : u.reportId ≠ field.reportId ∨ u.reportType ≠ field.reportType
  · rw [if_pos hreport]
    constructor
    · intro h
      exact absurd h (by simp)
    · rintro ⟨hid, htype, -⟩
      rcases hreport with h | h
      · exact absurd hid h
      · exact absurd htype h
  · rw [if_neg hreport]
    simp only [ne_eq, not_or, Decidable.not_not] at hreport
    by_cases hsame : u.usage = field.usage ∧ u.bitOffset = field.bitOffset ∧ u.path = field.path
    · simp [hreport.1, hreport.2, hsame]
    · rw [if_neg hsame]
      simp only [hreport, hsame, not_false_eq_true, and_self]

/-- A target that is not guarded has other fields in its report, none of which the check sees. -/
theorem not_guarded {usages : List HIDUsageDef} {reportType : Nat} {field : HIDUsageDef}
    (hothers : otherFields usages reportType field ≠ []) :
    ¬Guarded usages reportType field ↔
      reportHasOtherFields usages field = false ∧ requiredLength field ≤ bufferSize := by
  rw [Guarded, ← reportHasOtherFields_iff, not_or, not_or, not_lt, Bool.not_eq_true]
  exact ⟨fun h => h.2, fun h => ⟨hothers, h⟩⟩

theorem seen_of_guarded {usages : List HIDUsageDef} {reportType : Nat} {field : HIDUsageDef}
    (hothers : otherFields usages reportType field ≠ []) (h : Guarded usages reportType field) :
    reportHasOtherFields usages field = true ∨ bufferSize < requiredLength field := by
  rw [Guarded, ← reportHasOtherFields_iff] at h
  exact h.resolve_left hothers

theorem neighboursKept_idle (reportType : Nat) (field : HIDUsageDef) (s : HostState ω δ) :
    NeighboursKept reportType field s (false, s) := by
  refine ⟨[], (List.append_nil _).symm, ⟨fun rt id data hmem => ?_, fun _ => ⟨fun rt id data hmem => ?_, rfl⟩⟩⟩ <;>
    simp at hmem

/-- A host ready to write to a device that refuses to be read. -/
def stalledState (start : δ) : HostState Unit δ :=
  { world := (), driverState := start, readyToPoll := true, backoffActive := false, data := UPSData.empty,
    transfers := [] }

theorem writeUsageLocked_kept_iff (parser : HIDParser) (driver : Option (Driver δ)) (start : δ)
    (field : HIDUsageDef) (value : BitVec 32) :
    (∀ (ω : Type) (bus : Bus ω) (s : HostState ω δ), otherFields parser.usages reportTypeFeature field ≠ [] →
      NeighboursKept reportTypeFeature field s (writeUsageLocked ⟨bus, driver, parser⟩ field value s)) ↔
      Guarded parser.usages reportTypeFeature field := by
  constructor
  · intro hkept
    by_cases hothers : otherFields parser.usages reportTypeFeature field = []
    · exact Or.inl hothers
    by_contra hopen
    rw [not_guarded hothers] at hopen
    have hstalled := hkept Unit stallBus (stalledState start) hothers
    refine not_neighboursKept_stalled hopen.1 hopen.2 ?_ hstalled
    exact Nat.lt_min.mpr ⟨getExpectedLength_pos parser field.reportId reportTypeFeature, by decide⟩
  · intro hguarded ω bus s hothers
    have hseen := seen_of_guarded hothers hguarded
    unfold writeUsageLocked
    split
    · exact neighboursKept_idle _ _ s
    · split
      · exact neighboursKept_idle _ _ s
      · exact neighboursKept_writeBack _ hseen (by omega) (by omega)

theorem neighboursKept_noteBeeper (host : Host ω δ) (reportType : Nat) (field : HIDUsageDef)
    (s : HostState ω δ) (enable : Bool) (result : Bool × HostState ω δ) :
    NeighboursKept reportType field s (noteBeeper host enable result) ↔
      NeighboursKept reportType field s result := by
  obtain ⟨ok, s'⟩ := result
  cases ok with
  | false => exact Iff.rfl
  | true =>
      unfold NeighboursKept noteBeeper noteHostValue
      cases host.driver <;> exact Iff.rfl

theorem setBeeperLocked_kept_iff (parser : HIDParser) (driver : Option (Driver δ)) (start : δ)
    (field : Option HIDUsageDef) (enable : Bool) {target : HIDUsageDef}
    (htarget : beeperTarget parser.usages field = some target) :
    (∀ (ω : Type) (bus : Bus ω) (s : HostState ω δ),
      otherFields parser.usages (beeperReportType target) target ≠ [] →
      NeighboursKept (beeperReportType target) target s
        (setBeeperLocked ⟨bus, driver, parser⟩ enable field s)) ↔
      Guarded parser.usages (beeperReportType target) target ∨
        driver.any (fun driver => !driver.beeperControllable) = true := by
  constructor
  · intro hkept
    by_cases hcontrol : driver.any (fun driver => !driver.beeperControllable) = true
    · exact Or.inr hcontrol
    left
    by_cases hothers : otherFields parser.usages (beeperReportType target) target = []
    · exact Or.inl hothers
    by_contra hopen
    rw [not_guarded hothers] at hopen
    have hstalled := hkept Unit stallBus (stalledState start) hothers
    simp only [setBeeperLocked, htarget] at hstalled
    rw [if_neg (by simp [stalledState]), if_neg hcontrol,
      if_neg (by simp [canPoll, stalledState]), neighboursKept_noteBeeper] at hstalled
    refine not_neighboursKept_stalled hopen.1 hopen.2 ?_ hstalled
    exact Nat.lt_min.mpr ⟨getExpectedLength_pos parser target.reportId (beeperReportType target), by decide⟩
  · intro hguarded ω bus s hothers
    simp only [setBeeperLocked, htarget]
    split
    · exact neighboursKept_idle _ _ s
    · split
      · exact neighboursKept_idle _ _ s
      · rename_i hcontrol
        split
        · exact neighboursKept_idle _ _ s
        · rw [neighboursKept_noteBeeper]
          have hseen := seen_of_guarded hothers (hguarded.resolve_right hcontrol)
          exact neighboursKept_writeBack _ hseen (by omega) (by omega)

/-- On every device and for every answer, a write leaves the fields next to its target alone exactly when the target is guarded; a beeper that must not be controlled is never written. -/
theorem writes_keep_neighbours_iff (parser : HIDParser) (driver : Option (Driver δ)) (start : δ) :
    (∀ (field : HIDUsageDef) (value : BitVec 32),
      (∀ (ω : Type) (bus : Bus ω) (s : HostState ω δ),
        otherFields parser.usages reportTypeFeature field ≠ [] →
        NeighboursKept reportTypeFeature field s (writeUsageLocked ⟨bus, driver, parser⟩ field value s)) ↔
        Guarded parser.usages reportTypeFeature field) ∧
    ∀ (field : Option HIDUsageDef) (enable : Bool) (target : HIDUsageDef),
      beeperTarget parser.usages field = some target →
      ((∀ (ω : Type) (bus : Bus ω) (s : HostState ω δ),
        otherFields parser.usages (beeperReportType target) target ≠ [] →
        NeighboursKept (beeperReportType target) target s
          (setBeeperLocked ⟨bus, driver, parser⟩ enable field s)) ↔
        Guarded parser.usages (beeperReportType target) target ∨
          driver.any (fun driver => !driver.beeperControllable) = true) :=
  ⟨fun field value => writeUsageLocked_kept_iff parser driver start field value,
    fun field enable _ htarget => setBeeperLocked_kept_iff parser driver start field enable htarget⟩

/-! A feature report with the beeper declared twice at one offset, first without width. -/

def zeroWidthDescriptor : List Byte :=
  [0x05, 0x84, 0x09, 0x04, 0xA1, 0x01, 0x85, 0x05, 0x75, 0x00, 0x95, 0x01, 0x09, 0x5A, 0xB1, 0x02,
    0x75, 0x08, 0x09, 0x5A, 0xB1, 0x02, 0xC0]

def zeroWidthParser : HIDParser := (HIDParser.parseReportDescriptor zeroWidthDescriptor).get (by decide)

def zeroWidthField : HIDUsageDef :=
  { usage := 0x0084005A, reportId := 5, reportType := 3, bitOffset := 0, bitSize := 0, found := true,
    logicalMin := 0, logicalMax := 0, exponent := 0, unit := 0, path := "UPS.AudibleAlarmControl",
    collIndex := collIndexOf [0] }

/-- The device refuses to be read, and the eight bits of the other beeper field are sent as zero. -/
theorem beeper_write_zeroes_neighbour :
    beeperTarget zeroWidthParser.usages none = some zeroWidthField ∧
      otherFields zeroWidthParser.usages (beeperReportType zeroWidthField) zeroWidthField ≠ [] ∧
      (setBeeperLocked ⟨stallBus, (none : Option (Driver Unit)), zeroWidthParser⟩ true none
        (stalledState ())).2.transfers =
          [.getReport 3 5 2 (.error .invalidResponse), .setReport 3 5 [0x05, 0x00]] ∧
      ¬NeighboursKept (beeperReportType zeroWidthField) zeroWidthField (stalledState ())
        (setBeeperLocked ⟨stallBus, (none : Option (Driver Unit)), zeroWidthParser⟩ true none
          (stalledState ())) := by
  have htarget : beeperTarget zeroWidthParser.usages none = some zeroWidthField := by decide
  have htransfers : (setBeeperLocked ⟨stallBus, (none : Option (Driver Unit)), zeroWidthParser⟩ true none
      (stalledState ())).2.transfers =
        [.getReport 3 5 2 (.error .invalidResponse), .setReport 3 5 [0x05, 0x00]] := by
    rfl
  refine ⟨htarget, by decide, htransfers, ?_⟩
  rintro ⟨calls, hcalls, hkept⟩
  rw [htransfers] at hcalls
  have heq : calls = [.getReport 3 5 2 (.error .invalidResponse), .setReport 3 5 [0x05, 0x00]] := hcalls.symm
  obtain ⟨wLength, fetched, -, -, hread, -⟩ := hkept.after_read 3 5 [0x05, 0x00] (by rw [heq]; simp)
  rw [heq] at hread
  simp at hread

/-! Two beeper fields side by side: each is a neighbour the check sees. -/

def pairedDescriptor : List Byte :=
  [0x05, 0x84, 0x09, 0x04, 0xA1, 0x01, 0x85, 0x05, 0x75, 0x08, 0x95, 0x01, 0x09, 0x5A, 0xB1, 0x02,
    0x09, 0x57, 0xB1, 0x02, 0xC0]

def pairedParser : HIDParser := (HIDParser.parseReportDescriptor pairedDescriptor).get (by decide)

theorem writes_keep_neighbours_paired :
    ∀ target, beeperTarget pairedParser.usages none = some target →
      ∀ (ω : Type) (bus : Bus ω) (s : HostState ω Unit),
        otherFields pairedParser.usages (beeperReportType target) target ≠ [] →
        NeighboursKept (beeperReportType target) target s
          (setBeeperLocked ⟨bus, none, pairedParser⟩ true none s) := by
  intro target htarget
  refine ((writes_keep_neighbours_iff pairedParser none ()).2 none true target htarget).mpr (Or.inl ?_)
  have hguarded : ∀ u, beeperTarget pairedParser.usages none = some u →
      reportHasOtherFields pairedParser.usages u = true := by
    have hsome : (beeperTarget pairedParser.usages none).all
        (fun u => reportHasOtherFields pairedParser.usages u) = true := by decide
    intro u hu
    rw [hu] at hsome
    exact hsome
  exact Or.inr (Or.inl ((reportHasOtherFields_iff _ _).mp (hguarded target htarget)))

end EspNut.USBHostUPS
