import EspNut.Driver.Twins
import EspNut.Host.InputReassembler

/-!
# INPUT reports handed to the driver

A complete INPUT report is decoded under the id in its first byte. Without Report ID items the first byte is data, and the fields of the one report of the device all have id 0.
-/

namespace EspNut.GenericDriver

open Lib NutTable

/-- The id under which `processInputReport` hands a complete report to the driver. -/
def inputReportId : List Byte → Nat
  | [] => 0
  | first :: _ => first.toNat

/-- The id of a report: its first byte when the descriptor has ids. -/
def declaredId (parser : HIDParser) (data : List Byte) : Nat :=
  if parser.usesReportIds = true then inputReportId data else 0

/-- What a complete INPUT report gives to the rows of the driver. -/
def processInputReport (sub : Subdriver) (t : Transport) (depth : Nat) (data : List Byte) (s : State) : Option State :=
  postDecode sub t depth (inputReportId data) 1 data s

def Event.OnDevice (t : Transport) : Event → Prop
  | .report t' _ _ _ | .string t' _ _ => t' = t
  | _ => True

/-- The rows are not bound yet, or bound to the device. -/
def OfDevice (sub : Subdriver) (t : Transport) (s : State) : Prop :=
  s.nutBound = false ∨ BoundTo t s ∧ places s.rows = places (boundRows sub t)

variable {sub : Subdriver} {t : Transport} {depth : Nat} {s s' : State} {data : List Byte} {parser : HIDParser}

theorem OfDevice.bound (h : OfDevice sub t s) :
    BoundTo t (bindNutTable sub t s) ∧ places (bindNutTable sub t s).rows = places (boundRows sub t) := by
  refine ⟨boundTo_bindNutTable sub t s, ?_⟩
  rcases h with hunbound | ⟨hbound, hplaces⟩
  · exact places_bindNutTable hunbound
  · rw [bindNutTable_of_boundTo hbound]
    exact hplaces

theorem OfDevice.onward (h : OfDevice sub t s) (honward : Onward s s') : OfDevice sub t s' := by
  rcases h with hunbound | ⟨hbound, hplaces⟩
  · exact Or.inl (honward.nutBound.trans hunbound)
  · exact Or.inr ⟨⟨honward.nutBound.trans hbound.1, honward.nutUsageCount.trans hbound.2⟩,
      honward.rows.places.trans hplaces⟩

theorem clears_bindNutTable (sub : Subdriver) (t : Transport) (hclears : s.clears = []) :
    { bindNutTable sub t s with clears := [] } = bindNutTable sub t s := by
  unfold bindNutTable
  split
  · rw [← hclears]
  · rw [← hclears]

/-- The rows are bound before a report is decoded, or by it. -/
theorem postDecode_bindNutTable (reportId reportType : Nat) (bytes : List Byte) (s : State) :
    postDecode sub t depth reportId reportType bytes s
      = postDecode sub t depth reportId reportType bytes (bindNutTable sub t { s with clears := [] }) := by
  have hbound := boundTo_bindNutTable sub t { s with clears := [] }
  have hsame := clears_bindNutTable sub t (s := { s with clears := [] }) rfl
  unfold postDecode
  dsimp only at hsame ⊢
  rw [hsame, bindNutTable_of_boundTo hbound]

theorem ofDevice_step {event : Event} (hdevice : event.OnDevice t) (h : OfDevice sub t s)
    (hstep : step sub depth s event = some s') : OfDevice sub t s' := by
  by_cases hreport : ∃ t' reportId reportType bytes, event = .report t' reportId reportType bytes
  · obtain ⟨t', reportId, reportType, bytes, rfl⟩ := hreport
    obtain rfl : t' = t := hdevice
    have hcleared : OfDevice sub t' { s with clears := [] } := h
    have hdecode : postDecode sub t' depth reportId reportType bytes s = some s' := hstep
    rw [postDecode_bindNutTable] at hdecode
    exact OfDevice.onward (Or.inr hcleared.bound) (onward_postDecode hcleared.bound.1 hdecode)
  · refine h.onward (onward_step ?_ hstep)
    intro t' reportId reportType bytes heq
    exact hreport ⟨t', reportId, reportType, bytes, heq⟩

/-- The rows before the first event of a run, bound by the first call of the poll or not yet. -/
def starting (sub : Subdriver) (t : Transport) (early : Bool) (data : UPSData) : State :=
  if early = true then bindNutTable sub t (State.initial data) else State.initial data

theorem ofDevice_run {early : Bool} {start : UPSData} {events : List Event} (hdevice : ∀ event ∈ events, event.OnDevice t)
    (h : events.foldlM (step sub depth) (starting sub t early start) = some s) : OfDevice sub t s := by
  refine walk_invariant (P := OfDevice sub t) ?_ (fun event hmem _ _ hs hstep => ofDevice_step (hdevice event hmem) hs hstep) h
  have hinitial : OfDevice sub t (State.initial start) := Or.inl rfl
  unfold starting
  split
  · exact Or.inr hinitial.bound
  · exact hinitial

/-! ### The value of a row -/

/-- At its turn in the walk of the report the row is given the value, which it then converts. -/
def Receives (t : Transport) (depth reportId : Nat) (data : List Byte) (bound : State) (k : Nat) (v : ℚ) : Prop :=
  ∃ turn b, (List.range k).foldlM (readRow t depth reportId 1 data) bound = some turn
    ∧ turn.rows[k]? = some b ∧ givenValue t reportId 1 data b = some v

/-- The report is decoded under its own id, and each row with an INPUT field of it is given the value of that field. -/
structure Decoded (sub : Subdriver) (t : Transport) (depth : Nat) (parser : HIDParser) (s : State) (data : List Byte) : Prop where
  id : inputReportId data = declaredId parser data
  fields : ∀ s', processInputReport sub t depth data s = some s' →
    ∀ k b, (bindNutTable sub t { s with clears := [] }).rows[k]? = some b → isCommandRow b.info = false →
      ∀ u ∈ Bound.usages b t.usages, u.reportType = 1 → u.reportId = declaredId parser data →
        HIDParser.fieldStart u < 8 * data.length →
        Receives t depth (inputReportId data) data (bindNutTable sub t { s with clears := [] }) k (HIDParser.fieldValue u data)

/-- Of the fields of a row at most one is in an INPUT report. -/
theorem pickUsage_input {b b₀ : Bound} (hbind : bindRow t.usages b.info = some b₀)
    (hsame : Bound.usages b t.usages = Bound.usages b₀ t.usages) {u : HIDUsageDef} (hu : u ∈ Bound.usages b t.usages)
    (htype : u.reportType = 1) : pickUsage t u.reportId 1 b = some u := by
  obtain ⟨own, -, hfields⟩ := bindRow_usages hbind
  have hself : decide (u.reportId = u.reportId ∧ u.reportType = 1) = true := decide_eq_true ⟨rfl, htype⟩
  unfold pickUsage
  rw [hsame, hfields] at hu ⊢
  rcases List.mem_cons.mp hu with rfl | htwin
  · exact List.find?_cons_of_pos hself
  · have htwin := Option.mem_toList.mp htwin
    obtain ⟨-, -, hother, -⟩ := isTwin_iff.mp (List.find?_some (p := fun u => isTwin u own) htwin)
    have hown : ¬ decide (own.reportId = u.reportId ∧ own.reportType = 1) = true := by
      rw [decide_eq_true_iff]
      rintro ⟨-, howntype⟩
      exact hother (htype.trans howntype.symm)
    refine (List.find?_cons_of_neg (p := fun u' : HIDUsageDef => decide (u'.reportId = u.reportId ∧ u'.reportType = 1)) hown).trans ?_
    rw [htwin]
    exact List.find?_cons_of_pos hself

theorem extractUsage_of_declared {u : HIDUsageDef} (hdefined : HIDParser.Defined parser.usages) (hu : u ∈ parser.usages)
    (hid : u.reportId = declaredId parser data) (hlength : data.length ≤ 256) (hstart : HIDParser.fieldStart u < 8 * data.length) :
    HIDParser.extractUsage u data = HIDParser.fieldValue u data := by
  obtain ⟨main, tag, usage, bitOffset, hdef⟩ := hdefined u hu
  refine HIDParser.extractUsage_eq (by rw [hdef]; rfl) (by omega) ?_
  intro hnonzero
  unfold declaredId at hid
  split at hid
  · cases data with
    | nil => exact absurd hid hnonzero
    | cons first rest => exact congrArg some hid.symm
  · exact absurd hid hnonzero

/-- A report of at most 256 bytes is decoded as it should be exactly when the descriptor has report ids or the first byte is zero. -/
theorem decoded_iff_of_length (sub : Subdriver) (depth : Nat) {desc : List Byte} {parser : HIDParser}
    (hparse : HIDParser.parseReportDescriptor desc = some parser) {t : Transport} (husages : t.usages = parser.usages)
    {early : Bool} {start : UPSData} {events : List Event} (hdevice : ∀ event ∈ events, event.OnDevice t) {s : State}
    (hrun : events.foldlM (step sub depth) (starting sub t early start) = some s) {data : List Byte}
    (hlength : data.length ≤ 256) :
    Decoded sub t depth parser s data ↔ parser.usesReportIds = true ∨ inputReportId data = 0 := by
  constructor
  · rintro ⟨hid, -⟩
    unfold declaredId at hid
    split at hid
    · rename_i hids
      exact Or.inl hids
    · exact Or.inr hid
  · intro hcondition
    have hid : inputReportId data = declaredId parser data := by
      unfold declaredId
      split
      · rfl
      · rename_i hnone
        exact hcondition.resolve_left hnone
    refine ⟨hid, ?_⟩
    intro s' hdecode k b hb hcommand u hu htype hown hstart
    have hs : OfDevice sub t s := ofDevice_run hdevice hrun
    have hcleared : OfDevice sub t { s with clears := [] } := hs
    obtain ⟨hbound, hplaces⟩ := hcleared.bound
    have hsame := clears_bindNutTable sub t (s := { s with clears := [] }) rfl
    unfold processInputReport at hdecode
    rw [postDecode_bindNutTable] at hdecode
    obtain ⟨read, hread, -, -⟩ := postDecode_cases hbound hdecode
    dsimp only at hsame
    rw [hsame] at hread
    generalize bindNutTable sub t { s with clears := [] } = bound at *
    have hbytes : data ≠ [] := by
      rintro rfl
      exact absurd hstart (Nat.not_lt_zero _)
    obtain ⟨hk, -⟩ := List.getElem?_eq_some_iff.mp hb
    obtain ⟨turn, hturn, hbefore, -⟩ := readRows_turn hbytes hk hread
    have hlength : turn.rows.length = bound.rows.length := length_of_places hbefore.rows.places
    have hb' := List.getElem?_eq_getElem (by rw [hlength]; exact hk : k < turn.rows.length)
    refine ⟨turn, _, hturn, hb', ?_⟩
    rw [givenValue_of_place (place_of_places hbefore.rows.places hb hb')]
    obtain ⟨-, b₀, hbind, hsame⟩ := exists_boundRow hplaces (List.mem_of_getElem? hb)
    have hmem : u ∈ parser.usages := husages ▸ mem_of_mem_boundUsages hu
    have hpick := pickUsage_input hbind hsame hu htype
    have hvalue := extractUsage_of_declared (HIDParser.defined_of_parsed hparse) hmem hown (by omega) hstart
    unfold givenValue
    rw [if_neg (by simp [hcommand]), hid, ← hown, hpick, Option.map_some, hvalue]

/-- A complete INPUT report, from whatever packets, is decoded as it should be exactly when the descriptor has report ids or the first byte is zero. -/
theorem input_decoded_iff (sub : Subdriver) (depth : Nat) {desc : List Byte} {parser : HIDParser}
    (hparse : HIDParser.parseReportDescriptor desc = some parser) {t : Transport} (husages : t.usages = parser.usages)
    {early : Bool} {start : UPSData} {events : List Event} (hdevice : ∀ event ∈ events, event.OnDevice t) {s : State}
    (hrun : events.foldlM (step sub depth) (starting sub t early start) = some s) {mps : Nat}
    {packets : List (Nat × List Byte)} (hpackets : ∀ packet ∈ packets, packet.2.length ≤ 64) {data : List Byte}
    (hcomplete : data ∈ (run (InputReassembler.receive parser mps) ⟨InputReassembler.initial, []⟩ packets).reports) :
    Decoded sub t depth parser s data ↔ parser.usesReportIds = true ∨ inputReportId data = 0 :=
  decoded_iff_of_length sub depth hparse husages hdevice hrun (InputReassembler.length_of_received parser mps hpackets hcomplete)

/-! ### The charge of a battery -/

def chargeDriver : Subdriver := { bareSubdriver with hid2nut := [chargeRow.info] }

/-- The charge in a byte of the INPUT report, with a Report ID item or without. -/
def chargeDescriptor (reportIdItem : List Byte) : List Byte :=
  [0x05, 0x84, 0x09, 0x04, 0xA1, 0x01, 0x09, 0x24, 0xA1, 0x00] ++ reportIdItem
    ++ [0x05, 0x85, 0x09, 0x66, 0x15, 0x00, 0x26, 0xFF, 0x00, 0x75, 0x08, 0x95, 0x01, 0x81, 0x02, 0xC0, 0xC0]

def chargeTransport (reportIdItem : List Byte) : Transport :=
  (bareHost (((HIDParser.parseReportDescriptor (chargeDescriptor reportIdItem)).map HIDParser.usages).getD [])).toTransport

/-- With the id 12 the row of the charge is given the 50 behind the id. -/
theorem input_decoded_iff_charge :
    ∃ parser, HIDParser.parseReportDescriptor (chargeDescriptor [0x85, 0x0C]) = some parser
      ∧ Decoded chargeDriver (chargeTransport [0x85, 0x0C]) 8 parser (State.initial UPSData.empty) [12, 50] := by
  obtain ⟨parser, hparse⟩ : ∃ parser, HIDParser.parseReportDescriptor (chargeDescriptor [0x85, 0x0C]) = some parser :=
    Option.isSome_iff_exists.mp (by decide +kernel)
  have husages : (chargeTransport [0x85, 0x0C]).usages = parser.usages := by
    unfold chargeTransport
    rw [hparse]
    rfl
  have hids : (HIDParser.parseReportDescriptor (chargeDescriptor [0x85, 0x0C])).map HIDParser.usesReportIds = some true := by
    decide +kernel
  rw [hparse] at hids
  have hdevice : ∀ event ∈ ([] : List Event), event.OnDevice (chargeTransport [0x85, 0x0C]) :=
    fun event hmem => absurd hmem List.not_mem_nil
  have hrun : ([] : List Event).foldlM (step chargeDriver 8)
      (starting chargeDriver (chargeTransport [0x85, 0x0C]) false UPSData.empty) = some (State.initial UPSData.empty) := rfl
  have hpackets : ∀ packet ∈ [((1000, [12, 50]) : Nat × List Byte)], packet.2.length ≤ 64 := by decide
  -- a packet that is not full is a report of its own
  have hcomplete : ([12, 50] : List Byte) ∈ (run (InputReassembler.receive parser 8) ⟨InputReassembler.initial, []⟩
      [(1000, [12, 50])]).reports := List.mem_singleton_self _
  exact ⟨parser, hparse, (input_decoded_iff chargeDriver 8 hparse husages hdevice hrun hpackets hcomplete).mpr
    (Or.inl (Option.some.inj hids))⟩

/-- Without ids the 50 is the whole report and is taken for its id, and no row is given a value. -/
theorem charge_taken_for_id :
    ∃ parser, HIDParser.parseReportDescriptor (chargeDescriptor []) = some parser
      ∧ ¬ Decoded chargeDriver (chargeTransport []) 8 parser (State.initial UPSData.empty) [50]
      ∧ inputReportId [50] = 50
      ∧ ∀ b ∈ (bindNutTable chargeDriver (chargeTransport []) (State.initial UPSData.empty)).rows,
          givenValue (chargeTransport []) 50 1 [50] b = none
            ∧ ∀ u ∈ Bound.usages b (chargeTransport []).usages, HIDParser.fieldValue u [50] = 50 := by
  obtain ⟨parser, hparse⟩ : ∃ parser, HIDParser.parseReportDescriptor (chargeDescriptor []) = some parser :=
    Option.isSome_iff_exists.mp (by decide +kernel)
  have hids : (HIDParser.parseReportDescriptor (chargeDescriptor [])).map HIDParser.usesReportIds = some false := by
    decide +kernel
  rw [hparse] at hids
  refine ⟨parser, hparse, ?_, rfl, by decide +kernel⟩
  rintro ⟨hid, -⟩
  unfold declaredId at hid
  rw [if_neg (by rw [Option.some.inj hids]; simp)] at hid
  exact absurd hid (by decide)

end EspNut.GenericDriver
