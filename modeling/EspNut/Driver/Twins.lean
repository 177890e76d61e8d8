import EspNut.Driver.Complete
import EspNut.Driver.Rows
import EspNut.Hid.Parser

/-!
# INPUT twins

The poll passes over a FEATURE report while INPUT reports deliver its values. The two are compared by the paths of their fields, while a row is bound to a field and to its twin by the path together with the indices of the collections. Where a device repeats a collection the two tests part.
-/

namespace EspNut.GenericDriver

open Lib NutTable

variable {sub : Subdriver}

/-! ### The fields of a bound row -/

/-- The rows that are bound when the device has their path. -/
def Subdriver.rows (sub : Subdriver) : List HidInfo :=
  sub.hid2nut ++ (sub.genericHid2Nut.getD []).filter fun row => !pathListed row.hidpath sub.supersededGenericPaths

/-- The field a row is bound to. -/
def rowUsage (usages : List HIDUsageDef) (row : HidInfo) : Option HIDUsageDef :=
  usages.find? fun u => isReadUsage u && rowMatches u row

theorem mem_boundRows {t : Transport} {b : Bound} :
    b ∈ boundRows sub t ↔ ∃ row ∈ sub.rows, bindRow t.usages row = some b := by
  have hall : sub.hid2nut.filter (fun row => !pathListed row.hidpath []) = sub.hid2nut := by
    apply List.filter_eq_self.mpr
    intro row _
    rfl
  unfold boundRows bindRows Subdriver.rows
  rw [hall, ← List.filterMap_append]
  exact List.mem_filterMap

/-- A row is bound to the first field it matches, and to the first twin of that field. -/
theorem bindRow_usages {usages : List HIDUsageDef} {row : HidInfo} {b : Bound} (h : bindRow usages row = some b) :
    ∃ own, rowUsage usages row = some own
      ∧ Bound.usages b usages = own :: (usages.find? fun u => isTwin u own).toList := by
  unfold bindRow at h
  split at h
  · exact absurd h (by simp)
  · rename_i idx hidx
    obtain ⟨hlt, -, -⟩ := List.findIdx?_eq_some_iff_getElem.mp hidx
    have hown : rowUsage usages row = some usages[idx] := by
      unfold rowUsage
      rw [List.find?_eq_bind_findIdx?_getElem?, hidx]
      exact List.getElem?_eq_getElem hlt
    have hb := Option.some.inj h
    refine ⟨usages[idx], hown, ?_⟩
    unfold Bound.usages
    rw [← hb, List.find?_eq_bind_findIdx?_getElem?]
    dsimp only
    rw [List.getElem?_eq_getElem hlt]
    rfl

theorem exists_bindRow {usages : List HIDUsageDef} {row : HidInfo} {own : HIDUsageDef}
    (h : rowUsage usages row = some own) : ∃ b, bindRow usages row = some b := by
  unfold rowUsage at h
  rw [List.find?_eq_bind_findIdx?_getElem?] at h
  obtain ⟨idx, hidx, -⟩ := Option.bind_eq_some_iff.mp h
  unfold bindRow
  rw [hidx]
  exact ⟨_, rfl⟩

/-! ### Reports left to the interrupt pipe -/

theorem mem_findInputTwins {usages : List HIDUsageDef} {r : Nat} :
    r ∈ findInputTwins usages
      ↔ (∃ f ∈ usages, f.reportType = 3 ∧ f.reportId = r)
        ∧ ∀ f ∈ usages, f.reportType = 3 → f.reportId = r → inInput usages f = true := by
  unfold findInputTwins
  simp only [List.mem_filter, List.mem_map, decide_eq_true_eq, Bool.not_eq_true', List.any_eq_false, Bool.and_eq_true,
    not_and]
  constructor
  · rintro ⟨⟨f, ⟨⟨hf, htype⟩, -⟩, hid⟩, hall⟩
    refine ⟨⟨f, hf, htype, hid⟩, fun g hg hgtype hgid => ?_⟩
    by_contra hmissing
    exact hall g ⟨hg, hgtype⟩ (by simpa using hmissing) hgid
  · rintro ⟨⟨f, hf, htype, hid⟩, hall⟩
    refine ⟨⟨f, ⟨⟨hf, htype⟩, hall f hf htype hid⟩, hid⟩, fun g hg hmissing hgid => ?_⟩
    rw [hall g hg.1 hg.2 hgid] at hmissing
    exact absurd hmissing (by simp)

/-- Rows that take values from reports: neither written by commands nor kept by the firmware. -/
def isFedRow (info : HidInfo) : Bool := !isCommandRow info && !hasFlag info.hidflags huFlagAbsent

/-- Every field of a report left to the interrupt pipe that a row reads has an INPUT field of the same row, path and collections. -/
def TwinsFeedRows (usages : List HIDUsageDef) (rows : List Bound) : Prop :=
  ∀ r ∈ findInputTwins usages, ∀ b ∈ rows, isFedRow b.info = true →
    ∀ f ∈ Bound.usages b usages, f.reportType = 3 → f.reportId = r →
      ∃ i ∈ Bound.usages b usages, i.reportType = 1 ∧ i.reportId = r ∧ i.path = f.path ∧ i.collIndex = f.collIndex

/-- Where all FEATURE paths of a report are in the INPUT report too, a row bound to one of its FEATURE fields finds the path there in the same collections, not only in others. -/
def CollectionsAgree (sub : Subdriver) (usages : List HIDUsageDef) : Prop :=
  ∀ row ∈ sub.rows, isFedRow row = true → ∀ f ∈ rowUsage usages row, f.reportType = 3 →
    (∀ g ∈ usages, g.reportType = 3 → g.reportId = f.reportId → inInput usages g = true) →
      ∃ i ∈ usages, i.reportType = 1 ∧ i.reportId = f.reportId ∧ i.path = f.path ∧ i.collIndex = f.collIndex

instance (usages : List HIDUsageDef) (rows : List Bound) : Decidable (TwinsFeedRows usages rows) :=
  inferInstanceAs (Decidable (∀ r ∈ findInputTwins usages, _))

instance (sub : Subdriver) (usages : List HIDUsageDef) : Decidable (CollectionsAgree sub usages) :=
  inferInstanceAs (Decidable (∀ row ∈ sub.rows, _))

theorem isTwin_iff {u a : HIDUsageDef} :
    isTwin u a = true ↔ u.reportType ≠ 2 ∧ u.reportId = a.reportId ∧ u.reportType ≠ a.reportType ∧ u.path = a.path
      ∧ u.collIndex = a.collIndex := by
  unfold isTwin isReadUsage
  simp only [Bool.and_eq_true, decide_eq_true_eq, and_assoc]

/-- The rows of a driver are those of its tables, with the fields the binding gave them. -/
theorem exists_boundRow {t : Transport} {rows : List Bound} (hplaces : places rows = places (boundRows sub t)) {b : Bound}
    (hb : b ∈ rows) :
    b.info ∈ sub.rows
      ∧ ∃ b₀, bindRow t.usages b.info = some b₀ ∧ Bound.usages b t.usages = Bound.usages b₀ t.usages := by
  have hplace : b.place ∈ places (boundRows sub t) := by
    rw [← hplaces]
    exact List.mem_map_of_mem hb
  obtain ⟨b₀, hb₀, hsame⟩ := List.mem_map.mp hplace
  obtain ⟨row, hrow, hbind⟩ := mem_boundRows.mp hb₀
  have hinfo : row = b.info := (bindRow_info hbind).symm.trans (congrArg Prod.fst hsame)
  subst hinfo
  exact ⟨hrow, b₀, hbind, usages_of_place hsame.symm t.usages⟩

theorem exists_row {t : Transport} {s : State} (hunbound : s.nutBound = false) {row : HidInfo} (hrow : row ∈ sub.rows)
    {b₀ : Bound} (hbind : bindRow t.usages row = some b₀) :
    ∃ b ∈ (bindNutTable sub t s).rows, b.info = row ∧ Bound.usages b t.usages = Bound.usages b₀ t.usages := by
  have hplace : b₀.place ∈ places (bindNutTable sub t s).rows := by
    rw [places_bindNutTable hunbound]
    exact List.mem_map_of_mem (mem_boundRows.mpr ⟨row, hrow, hbind⟩)
  obtain ⟨b, hb, hsame⟩ := List.mem_map.mp hplace
  exact ⟨b, hb, (congrArg Prod.fst hsame).trans (bindRow_info hbind), usages_of_place hsame t.usages⟩

/-- A report left to the interrupt pipe starves no row exactly when its paths stand in the same collections on both sides. -/
theorem twins_feed_rows_iff (sub : Subdriver) {desc : List Byte} {parser : HIDParser}
    (hparse : HIDParser.parseReportDescriptor desc = some parser) (t : Transport) (husages : t.usages = parser.usages)
    (s : State) (hunbound : s.nutBound = false) :
    TwinsFeedRows t.usages (bindNutTable sub t s).rows ↔ CollectionsAgree sub t.usages := by
  have htyped : HIDParser.Typed t.usages := husages ▸ HIDParser.typed_of_parsed hparse
  constructor
  · intro hfeeds row hrow hfed f hf htype hall
    obtain ⟨b₀, hbind⟩ := exists_bindRow (Option.mem_def.mp hf)
    obtain ⟨own, hown, hfields⟩ := bindRow_usages hbind
    obtain rfl : f = own := Option.some.inj ((Option.mem_def.mp hf).symm.trans hown)
    obtain ⟨b, hb, hinfo, hsame⟩ := exists_row hunbound hrow hbind
    have hread : f ∈ Bound.usages b t.usages := by
      rw [hsame, hfields]
      exact List.mem_cons_self
    have hmem : f ∈ t.usages := mem_of_mem_boundUsages hread
    have htwin : f.reportId ∈ findInputTwins t.usages := mem_findInputTwins.mpr ⟨⟨f, hmem, htype, rfl⟩, hall⟩
    obtain ⟨i, hi, hrest⟩ := hfeeds f.reportId htwin b hb (hinfo ▸ hfed) f hread htype rfl
    exact ⟨i, mem_of_mem_boundUsages hi, hrest⟩
  · intro hagree r hr b hb hfed f hf htype hid
    obtain ⟨-, hall⟩ := mem_findInputTwins.mp hr
    obtain ⟨hrow, b₀, hbind, hsame⟩ := exists_boundRow (places_bindNutTable hunbound) hb
    obtain ⟨own, hown, hfields⟩ := bindRow_usages hbind
    rw [hsame, hfields] at hf ⊢
    subst hid
    rcases List.mem_cons.mp hf with rfl | htwin
    · -- bound to the FEATURE field: the INPUT field in its collections is a twin
      obtain ⟨i, hi, hitype, hiid, hipath, hicoll⟩ := hagree b.info hrow hfed f (Option.mem_def.mpr hown) htype hall
      have hitwin : isTwin i f = true := isTwin_iff.mpr ⟨by omega, hiid, by omega, hipath, hicoll⟩
      obtain ⟨u, hu⟩ := Option.isSome_iff_exists.mp
        (List.find?_isSome (p := fun u => isTwin u f) |>.mpr ⟨i, hi, hitwin⟩)
      obtain ⟨huread, huid, hutype, hupath, hucoll⟩ := isTwin_iff.mp (List.find?_some (p := fun u => isTwin u f) hu)
      have hutyped := htyped u (List.mem_of_find?_eq_some hu)
      exact ⟨u, List.mem_cons_of_mem _ (Option.mem_toList.mpr hu), by omega, huid, hupath, hucoll⟩
    · -- bound to the other field: that one is the INPUT field
      obtain ⟨-, hfid, hftype, hfpath, hfcoll⟩ := isTwin_iff.mp
        (List.find?_some (p := fun u => isTwin u own) (Option.mem_toList.mp htwin))
      have hownread := List.find?_some hown
      have howntyped := htyped own (List.mem_of_find?_eq_some hown)
      have hnot2 : own.reportType ≠ 2 := by
        unfold isReadUsage at hownread
        simp only [Bool.and_eq_true, decide_eq_true_eq] at hownread
        exact hownread.1
      exact ⟨own, List.mem_cons_self, by omega, hfid.symm, hfpath.symm, hfcoll.symm⟩

/-! ### Two outlets -/

def outletDriver : Subdriver :=
  { bareSubdriver with
    hid2nut :=
      [ { infoType := "outlet.1.current", infoFlags := 0, infoLen := 0,
          hidpath := some "UPS.OutletSystem.Outlet.[2].Current", dfl := some "%.2f", hidflags := 0, conv := .number,
          lkp := [] } ] }

/-- Two outlets with their currents in FEATURE report 6; the INPUT report 6 has that of the first, and the one of the second only where `second` puts it. -/
def outletDescriptor (second : List Byte) : List Byte :=
  [0x05, 0x84, 0x09, 0x04, 0xA1, 0x01, 0x09, 0x18, 0xA1, 0x00, 0x85, 0x06, 0x75, 0x08, 0x95, 0x01,
    0x09, 0x20, 0xA1, 0x81, 0x09, 0x31, 0x81, 0x02, 0x09, 0x31, 0xB1, 0x02, 0xC0,
    0x09, 0x20, 0xA1, 0x82] ++ second ++ [0x09, 0x31, 0xB1, 0x02, 0xC0, 0xC0, 0xC0]

def outletTransport (desc : List Byte) : Transport :=
  (bareHost (((HIDParser.parseReportDescriptor desc).map HIDParser.usages).getD [])).toTransport

/-- With both currents in the INPUT report the row of the second outlet is fed. -/
theorem twins_feed_rows_outlets :
    TwinsFeedRows (outletTransport (outletDescriptor [0x09, 0x31, 0x81, 0x02])).usages
      (bindNutTable outletDriver (outletTransport (outletDescriptor [0x09, 0x31, 0x81, 0x02]))
        (State.initial UPSData.empty)).rows := by
  obtain ⟨parser, hparse⟩ : ∃ parser, HIDParser.parseReportDescriptor (outletDescriptor [0x09, 0x31, 0x81, 0x02]) = some parser :=
    Option.isSome_iff_exists.mp (by decide +kernel)
  have husages : (outletTransport (outletDescriptor [0x09, 0x31, 0x81, 0x02])).usages = parser.usages := by
    unfold outletTransport
    rw [hparse]
    rfl
  exact (twins_feed_rows_iff outletDriver hparse _ husages _ rfl).mpr (by decide +kernel)

/-- Without it the FEATURE report is left to an INPUT report that does not have the second current. -/
theorem outlet_starves :
    ¬ TwinsFeedRows (outletTransport (outletDescriptor [])).usages
      (bindNutTable outletDriver (outletTransport (outletDescriptor [])) (State.initial UPSData.empty)).rows := by
  decide +kernel

end EspNut.GenericDriver
