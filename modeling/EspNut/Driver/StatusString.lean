import EspNut.Driver.Publication
import EspNut.Driver.Rows
import EspNut.Ups.Rendering
import EspNut.Lib.Run

/-!
# The status string over a run of the driver

Between two publications the rows of a report only move the status bits and write names that are no keys of the status. Each publication then makes the data show the bits again, so after every report the status string is the one of the bits.
-/

namespace EspNut.GenericDriver

open Lib Rounding NutTable

/-- The internal keys of the status. -/
def isStatusKey (name : String) : Bool := Text.startsWith name "ups.status."

/-- No row of the tables publishes an internal key. -/
def LeavesStatusKeys (sub : Subdriver) : Prop :=
  ∀ info ∈ sub.tables, isPublishedRow info = true → isStatusKey info.infoType = false

instance (sub : Subdriver) : Decidable (LeavesStatusKeys sub) := inferInstanceAs (Decidable (∀ info ∈ _, _))

/-- The host writes and removes other keys only. -/
def Event.leavesStatusKeys : Event → Bool
  | .hostWrite key _ | .hostRemove key => !isStatusKey key
  | _ => true

variable {sub : Subdriver}

/-- The rows come from the tables. -/
def Drawn (sub : Subdriver) (rows : List Bound) : Prop := ∀ info ∈ infos rows, info ∈ sub.tables

/-- What happens between two publications of the bits. -/
structure Between (sub : Subdriver) (s s' : State) : Prop where
  drawn : Drawn sub s'.rows
  status : Grows sub.tables s.ctx.status s'.ctx.status
  keys : ∀ name, isStatusKey name = true → s'.data.find name = s.data.find name

theorem Between.refl {s : State} (h : Drawn sub s.rows) : Between sub s s :=
  ⟨h, Grows.refl _, fun _ _ => rfl⟩

theorem Between.trans {s s' s'' : State} (h : Between sub s s') (h' : Between sub s' s'') : Between sub s s'' where
  drawn := h'.drawn
  status := h.status.trans h'.status
  keys := fun name hname => (h'.keys name hname).trans (h.keys name hname)

theorem Drawn.congr {rows rows' : List Bound} (h : Drawn sub rows) (hinfos : infos rows' = infos rows) :
    Drawn sub rows' := by
  intro info hinfo
  rw [hinfos] at hinfo
  exact h info hinfo

theorem Between.of_data {s : State} {data : UPSData} (h : Drawn sub s.rows)
    (hkeys : ∀ name, isStatusKey name = true → data.find name = s.data.find name) :
    Between sub s { s with data } :=
  ⟨h, Grows.refl _, hkeys⟩

/-- A key written by a row, which is none of the status. -/
theorem ne_of_isStatusKey {name key : String} (hname : isStatusKey name = true) (hkey : isStatusKey key = false) :
    name ≠ key := by
  rintro rfl
  rw [hname] at hkey
  exact absurd hkey (by decide)

theorem Drawn.leaves (hleaves : LeavesStatusKeys sub) {rows : List Bound} (h : Drawn sub rows) {i : Nat} {b : Bound}
    (hb : rows[i]? = some b) (hpub : isPublishedRow b.info = true) : isStatusKey b.info.infoType = false :=
  hleaves b.info (h b.info (List.mem_map.mpr ⟨b, List.mem_of_getElem? hb, rfl⟩)) hpub

theorem Between.of_onValue {s : State} (h : Drawn sub s.rows) (i : Nat) (v : ℚ) (clears : List String) :
    Between sub s { s with
      rows := (onValue s.rows i v s.ctx (some s.data)).1
      ctx := (onValue s.rows i v s.ctx (some s.data)).2
      clears } where
  drawn := h.congr (infos_onValue s.rows i v s.ctx (some s.data))
  status := grows_onValue h i v s.ctx (some s.data)
  keys := fun _ _ => rfl

theorem find_updateRealPower {d : UPSData} {name : String} (h : isStatusKey name = true) :
    d.updateRealPower.find name = d.find name :=
  UPSData.find_updateRealPower d (ne_of_isStatusKey h (by decide))

theorem publishRow_between (hleaves : LeavesStatusKeys sub) {depth : Nat} {s s' : State} {i : Nat}
    (h : Drawn sub s.rows) (hpublish : publishRow depth s i = some s') : Between sub s s' := by
  refine publishRow_invariant ?_ ?_ ?_ ?_ (Between.refl h) hpublish
  · -- the row asked for its removal
    intro t k b hb hpub ht
    have hown := ht.drawn.leaves hleaves hb hpub
    apply ht.trans
    refine ⟨ht.drawn.congr (infos_of_places (places_of_standings (standings_set hb rfl))), Grows.refl _, ?_⟩
    intro name hname
    exact (UPSData.find_put t.data _ none name).trans (if_neg (ne_of_isStatusKey hname hown))
  · intro t k b hb hpub ht
    have hown := ht.drawn.leaves hleaves hb hpub
    apply ht.trans
    apply Between.of_data ht.drawn
    intro name hname
    rw [UPSData.find_set, if_neg (ne_of_isStatusKey hname hown)]
  · exact fun t ht => ht.trans (Between.of_data ht.drawn fun name hname => find_updateRealPower hname)
  · exact fun t j _ _ _ ht => ht.trans (Between.of_onValue ht.drawn j 0 t.clears)

theorem readRow_between (hleaves : LeavesStatusKeys sub) {t : Transport} {depth reportId reportType : Nat}
    {bytes : List Byte} {s s' : State} {i : Nat} (h : Drawn sub s.rows)
    (hread : readRow t depth reportId reportType bytes s i = some s') : Between sub s s' := by
  rcases readRow_cases hread with rfl | ⟨v, clears, hpublish⟩
  · exact Between.refl h
  · have hvalue := Between.of_onValue h i v clears
    exact hvalue.trans (publishRow_between hleaves hvalue.drawn hpublish)

theorem readRows_between (hleaves : LeavesStatusKeys sub) {t : Transport} {depth reportId reportType : Nat}
    {bytes : List Byte} {s s' : State} (h : Drawn sub s.rows)
    (hread : readRows t depth reportId reportType bytes s = some s') : Between sub s s' := by
  refine readRows_invariant ?_ (Between.refl h) hread
  intro i a a' ha hstep
  exact ha.trans (readRow_between hleaves ha.drawn hstep)

theorem endInit_between {s : State} (h : Drawn sub s.rows) : Between sub s (endInit s) := by
  unfold endInit
  split
  · exact ⟨h.congr (infos_finishInit s.rows), Grows.refl _, fun _ _ => rfl⟩
  · exact Between.refl h

theorem walkStatus_between {s : State} (h : Drawn sub s.rows) : Between sub s (walkStatus s) :=
  ⟨h, grows_walkInternalRows h s.ctx (some s.data), fun _ _ => rfl⟩

/-! ### Publications -/

/-- The data shows the bits. -/
structure Honest (sub : Subdriver) (s : State) : Prop where
  drawn : Drawn sub s.rows
  published : Published s.data s.ctx.status
  setKnown : SetKnown s.ctx.status
  exclusive : ExactTokens sub.tables → Exclusive s.ctx.status

theorem Honest.of_between {s s' : State} (h : Honest sub s) (hbetween : Between sub s s')
    (hstatus : s'.ctx.status = s.ctx.status) : Honest sub s' where
  drawn := hbetween.drawn
  published := by
    rw [hstatus]
    obtain ⟨hac, hfull, hbit, hgood⟩ := h.published
    refine ⟨(hbetween.keys _ (by decide)).trans hac, (hbetween.keys _ (by decide)).trans hfull, ?_,
      (hbetween.keys _ (by decide)).trans hgood⟩
    intro b key hkey
    have hall : ∀ name ∈ statusKeyNames.reduceOption, isStatusKey name = true := by decide +kernel
    rw [hbetween.keys key (hall key (List.reduceOption_mem_iff.mpr (List.mem_of_getElem? hkey))), hbit b key hkey]
  setKnown := by
    rw [hstatus]
    exact h.setKnown
  exclusive := by
    rw [hstatus]
    exact h.exclusive

/-- A publication makes the data show the bits reached by then. -/
theorem publishNutRows_honest (hfilter : sub.filterStatus = id) (hleaves : LeavesStatusKeys sub) {depth : Nat}
    {s t s' : State} (h : Honest sub s) (hbetween : Between sub s t) (hpublish : publishNutRows sub depth t = some s') :
    Honest sub s' := by
  unfold publishNutRows at hpublish
  obtain ⟨walked, hwalk, hkeys⟩ := Option.bind_eq_some_iff.mp hpublish
  obtain rfl := Option.some.inj hkeys
  have hrows : Between sub t walked := by
    refine walk_invariant (Between.refl hbetween.drawn) ?_ hwalk
    intro i _ a a' ha hstep
    exact ha.trans (publishRow_between hleaves ha.drawn hstep)
  have hall := hbetween.trans hrows
  -- the keys still show the bits of the last publication
  have hsame : Between sub s { walked with ctx := s.ctx } := ⟨hall.drawn, Grows.refl _, hall.keys⟩
  have hbefore : Published walked.data s.ctx.status := (h.of_between hsame rfl).published
  refine ⟨hall.drawn, ?_, hall.status.setKnown h.setKnown, fun hexact => hall.status.exclusive hexact (h.exclusive hexact)⟩
  rw [hfilter]
  exact published_put hbefore h.setKnown (hall.status.setKnown h.setKnown) hall.status.known

theorem publishAlarms_between {s : State} (h : Drawn sub s.rows) : Between sub s (publishAlarms s) :=
  Between.of_data h fun _ hname => UPSData.find_applyAlarmVariables s.data _
    (ne_of_isStatusKey hname (by decide)) (ne_of_isStatusKey hname (by decide))

theorem drawn_boundRows (sub : Subdriver) (t : Transport) : Drawn sub (boundRows sub t) := by
  intro info hinfo
  unfold boundRows infos at hinfo
  rw [List.map_append] at hinfo
  rcases List.mem_append.mp hinfo with hown | htail
  · exact List.mem_append_left _ (mem_infos_bindRows hown)
  · exact List.mem_append_right _ (mem_infos_bindRows htail)

theorem bindNutTable_between {t : Transport} {s : State} (h : Drawn sub s.rows) :
    Between sub s (bindNutTable sub t s) ∧ (bindNutTable sub t s).ctx.status = s.ctx.status := by
  unfold bindNutTable
  split
  · exact ⟨Between.refl h, rfl⟩
  · refine ⟨⟨?_, Grows.refl _, fun _ _ => rfl⟩, rfl⟩
    have hresolved : Drawn sub (resolve (boundRows sub t)) := (drawn_boundRows sub t).congr (infos_resolve _)
    exact hresolved.congr (infos_of_places (places_overrides s.absentOverrides _))

theorem postDecode_honest (hfilter : sub.filterStatus = id) (hleaves : LeavesStatusKeys sub) {t : Transport}
    {depth reportId reportType : Nat} {bytes : List Byte} {s s' : State} (h : Honest sub s)
    (hreport : postDecode sub t depth reportId reportType bytes s = some s') : Honest sub s' := by
  unfold postDecode at hreport
  have hbind : Between sub s (bindNutTable sub t { s with clears := [] })
      ∧ (bindNutTable sub t { s with clears := [] }).ctx.status = s.ctx.status := by
    have hclears : Drawn sub ({ s with clears := [] } : State).rows := h.drawn
    obtain ⟨⟨hdrawn, hgrows, hkeys⟩, hstatus⟩ := bindNutTable_between (t := t) hclears
    exact ⟨⟨hdrawn, hgrows, hkeys⟩, hstatus⟩
  have hbound := h.of_between hbind.1 hbind.2
  generalize bindNutTable sub t { s with clears := [] } = bound at *
  dsimp only at hreport
  split at hreport
  · obtain rfl := Option.some.inj hreport
    exact hbound.of_between (publishAlarms_between hbound.drawn) rfl
  · obtain ⟨read, hread, hreport⟩ := Option.bind_eq_some_iff.mp hreport
    obtain ⟨published, hpublish, hlast⟩ := Option.bind_eq_some_iff.mp hreport
    obtain rfl := Option.some.inj hlast
    have hrows := readRows_between hleaves hbound.drawn hread
    have hinit := endInit_between hrows.drawn
    have hwalk := walkStatus_between hinit.drawn
    have hpublished := publishNutRows_honest hfilter hleaves hbound (hrows.trans (hinit.trans hwalk)) hpublish
    exact hpublished.of_between (publishAlarms_between hpublished.drawn) rfl

/-! ### Runs -/

theorem infos_takeString (index : Nat) (text : String) (rows : List Bound) :
    infos (takeString index text rows) = infos rows :=
  infos_of_places (places_takeString index text rows)

theorem step_honest (hfilter : sub.filterStatus = id) (hleaves : LeavesStatusKeys sub) {depth : Nat} {event : Event}
    (hevent : event.leavesStatusKeys = true) {s s' : State} (h : Honest sub s)
    (hstep : step sub depth s event = some s') : Honest sub s' := by
  have hrows : ∀ rows, infos rows = infos s.rows → Between sub s { s with rows } :=
    fun rows hinfos => ⟨h.drawn.congr hinfos, Grows.refl _, fun _ _ => rfl⟩
  cases event with
  | report t reportId reportType bytes => exact postDecode_honest hfilter hleaves h hstep
  | string t index text =>
      simp only [step, parseStringDescriptor] at hstep
      have hdata : ∀ name, isStatusKey name = true →
          (if index = t.iManufacturer then s.data.set "ups.mfr" text
            else if index = t.iProduct then s.data.set "ups.model" text
            else if 0 < t.iSerialNumber ∧ index = t.iSerialNumber then s.data.set "ups.serial" text
            else s.data).find name = s.data.find name := by
        intro name hname
        have hother : ∀ key, isStatusKey key = false → (s.data.set key text).find name = s.data.find name := by
          intro key hkey
          rw [UPSData.find_set, if_neg (ne_of_isStatusKey hname hkey)]
        split
        · exact hother _ (by decide)
        split
        · exact hother _ (by decide)
        split
        · exact hother _ (by decide)
        · rfl
      have hbetween := Between.of_data h.drawn hdata
      split at hstep
      · refine publishNutRows_honest hfilter hleaves h ?_ hstep
        exact ⟨h.drawn.congr (infos_takeString index text s.rows), Grows.refl _, hbetween.keys⟩
      · obtain rfl := Option.some.inj hstep
        exact h.of_between hbetween rfl
  | hostWrite key value =>
      obtain rfl := Option.some.inj hstep
      refine h.of_between (Between.of_data h.drawn fun name hname => ?_) rfl
      rw [UPSData.find_set, if_neg (ne_of_isStatusKey hname (by simpa [Event.leavesStatusKeys] using hevent))]
  | hostRemove key =>
      obtain rfl := Option.some.inj hstep
      refine h.of_between (Between.of_data h.drawn fun name hname => ?_) rfl
      rw [UPSData.find_remove, if_neg (ne_of_isStatusKey hname (by simpa [Event.leavesStatusKeys] using hevent))]
  | noteHostValue name value =>
      obtain rfl := Option.some.inj hstep
      refine h.of_between (hrows _ (infos_of_places (places_of_standings (standings_map fun b => ?_)))) rfl
      split
      · rfl
      · split <;> rfl
  | setDriverSideValue name value =>
      obtain rfl := Option.some.inj hstep
      have hinfos := infos_of_places (places_applyAbsentOverride s.rows (name, value))
      exact h.of_between ⟨h.drawn.congr hinfos, Grows.refl _, fun _ _ => rfl⟩ rfl
  | resetDriverSideValue name =>
      obtain rfl := Option.some.inj hstep
      refine h.of_between ⟨h.drawn.congr (infos_of_places (places_of_standings (standings_map fun b => ?_))), Grows.refl _, fun _ _ => rfl⟩ rfl
      split <;> rfl
  | completeInitialPoll =>
      obtain rfl := Option.some.inj hstep
      unfold completeInitialPoll
      dsimp only
      split
      · exact h.of_between ⟨h.drawn.congr (infos_finishInit s.rows), Grows.refl _, fun _ _ => rfl⟩ rfl
      · exact h.of_between ⟨h.drawn, Grows.refl _, fun _ _ => rfl⟩ rfl
  | firstFullDone =>
      obtain rfl := Option.some.inj hstep
      exact h.of_between ⟨h.drawn, Grows.refl _, fun _ _ => rfl⟩ rfl
  | inputs ctx =>
      obtain rfl := Option.some.inj hstep
      exact h.of_between ⟨h.drawn, Grows.refl _, fun _ _ => rfl⟩ rfl

theorem honest_initial : Honest sub (State.initial UPSData.empty) where
  drawn := fun _ hinfo => absurd hinfo (by simp [State.initial, infos])
  published := by
    refine ⟨rfl, rfl, ?_, rfl⟩
    intro b key hkey
    have hunknown : StatusBits.empty.isKnown b = false := by
      rw [isKnown_eq _ (lt_of_key hkey)]
      exact BitVec.getLsbD_zero
    show none = bitValue StatusBits.empty b
    unfold bitValue
    rw [hunknown]
    rfl
  setKnown := by
    intro b hb hset
    rw [isSet_eq _ hb] at hset
    exact absurd (hset.symm.trans BitVec.getLsbD_zero) (by decide)
  exclusive := fun _ => by decide

theorem honest_run (hfilter : sub.filterStatus = id) (hleaves : LeavesStatusKeys sub) {depth : Nat}
    {history : List Event} (hhistory : ∀ event ∈ history, event.leavesStatusKeys = true) {s : State}
    (hrun : history.foldlM (step sub depth) (State.initial UPSData.empty) = some s) : Honest sub s :=
  walk_invariant honest_initial
    (fun event hevent _ _ ha hstep => step_honest hfilter hleaves (hhistory event hevent) ha hstep) hrun

/-- After every report of every run the status string is the one of the bits, which are exclusive when the table spells its tokens exactly. -/
theorem status_string_refines (hfilter : sub.filterStatus = id) (hleaves : LeavesStatusKeys sub) (depth : Nat)
    (history : List Event) (hhistory : ∀ event ∈ history, event.leavesStatusKeys = true) {s s' : State}
    (hrun : history.foldlM (step sub depth) (State.initial UPSData.empty) = some s) (t : Transport)
    (reportId reportType : Nat) (bytes : List Byte)
    (hreport : postDecode sub t depth reportId reportType bytes s = some s') :
    s'.data.computeUPSStatusString
        = " ".intercalate (s'.ctx.status.statusWords (s'.data.getFloat "battery.charge" (-1))
            (s'.data.hasKey "ups.alarm"))
      ∧ Refines (Text.words s'.data.computeUPSStatusString) s'.ctx.status
      ∧ (ExactTokens sub.tables → Exclusive s'.ctx.status) := by
  have hhonest := postDecode_honest hfilter hleaves (honest_run hfilter hleaves hhistory hrun) hreport
  have hstring := computeUPSStatusString_eq hhonest.published hhonest.setKnown
  refine ⟨hstring, ?_, hhonest.exclusive⟩
  rw [hstring, words_statusWords]
  exact refines_statusWords s'.ctx.status _ _

/-! ### A device with two flags -/

def flagRow (path token : String) : HidInfo :=
  { infoType := "BOOL", infoFlags := 0, infoLen := 0, hidpath := some path, dfl := none, hidflags := 0,
    conv := .lookup, lkp := [⟨1, token⟩] }

/-- A driver that gives one token for each of two flags. -/
def flagsDriver (first second : String) : Subdriver :=
  { hid2nut :=
      [ flagRow "UPS.PowerSummary.PresentStatus.ACPresent" first,
        flagRow "UPS.PowerSummary.PresentStatus.Discharging" second ]
    genericHid2Nut := none
    supersededGenericPaths := []
    filterStatus := id
    acceptPollReport := fun _ _ => true }

def flagUsage (bitOffset : Nat) (path : String) : HIDUsageDef :=
  { usage := 0, reportId := 2, reportType := 1, bitOffset := bitOffset, bitSize := 1, found := true,
    logicalMin := 0, logicalMax := 1, exponent := 0, unit := 0, path := path,
    collIndex := [0, 0, 0, 0, 0, 0, 0, 0] }

def flagsDevice : Transport :=
  { usages :=
      [ flagUsage 0 "UPS.PowerSummary.PresentStatus.ACPresent",
        flagUsage 1 "UPS.PowerSummary.PresentStatus.Discharging" ]
    noInterruptPipe := false
    iManufacturer := 1
    iProduct := 2
    iSerialNumber := 3 }

/-- Both flags are reported set after a first report without them. -/
theorem status_string_refines_flags :
    ∃ s s', [Event.report flagsDevice 2 1 [2, 0]].foldlM (step (flagsDriver "online" "lowbatt") 2)
        (State.initial UPSData.empty) = some s
      ∧ postDecode (flagsDriver "online" "lowbatt") flagsDevice 2 2 1 [2, 3] s = some s'
      ∧ s'.data.computeUPSStatusString = "OL LB"
      ∧ Refines (Text.words s'.data.computeUPSStatusString) s'.ctx.status ∧ Exclusive s'.ctx.status := by
  have hread : (([Event.report flagsDevice 2 1 [2, 0]].foldlM (step (flagsDriver "online" "lowbatt") 2)
      (State.initial UPSData.empty)).bind
      (postDecode (flagsDriver "online" "lowbatt") flagsDevice 2 2 1 [2, 3])).map
        (·.data.computeUPSStatusString) = some "OL LB" := by decide +kernel
  obtain ⟨s', hs', hstring⟩ := Option.map_eq_some_iff.mp hread
  obtain ⟨s, hrun, hreport⟩ := Option.bind_eq_some_iff.mp hs'
  obtain ⟨-, hrefines, hexclusive⟩ := status_string_refines rfl (by decide +kernel) 2
    [Event.report flagsDevice 2 1 [2, 0]] (by decide) hrun flagsDevice 2 1 [2, 3] hreport
  exact ⟨s, s', hrun, hreport, hstring, hrefines, hexclusive (by decide +kernel)⟩

/-- Tokens in other letters set their bits and neuter nothing: the power is reported both ways. -/
theorem misspelled_tokens_not_exclusive :
    (flagsDriver "offline" "Online").filterStatus = id ∧ LeavesStatusKeys (flagsDriver "offline" "Online")
      ∧ ∃ s', postDecode (flagsDriver "offline" "Online") flagsDevice 2 2 1 [2, 3]
          (State.initial UPSData.empty) = some s'
        ∧ s'.ctx.status.shows "online" = true ∧ s'.ctx.status.shows "offline" = true := by
  refine ⟨rfl, by decide +kernel, ?_⟩
  have hread : (postDecode (flagsDriver "offline" "Online") flagsDevice 2 2 1 [2, 3]
      (State.initial UPSData.empty)).map
        (fun s => (s.ctx.status.shows "online", s.ctx.status.shows "offline")) = some (true, true) := by
    decide +kernel
  obtain ⟨s', hs', hbits⟩ := Option.map_eq_some_iff.mp hread
  obtain ⟨honline, hoffline⟩ := Prod.mk.inj hbits
  exact ⟨s', hs', honline, hoffline⟩

end EspNut.GenericDriver
