import EspNut.Driver.Complete
import EspNut.Driver.Refused
import EspNut.Driver.Rows

/-!
# Silence of the INPUT reports

A device that stops sending INPUT reports is left alone while the poll reads their values too. The poll then has to bring every living row its value: no report of a list may be passed over for an INPUT report that is too old, and each answer has to reach the rows of its fields.
-/

namespace EspNut

/-- Age of an INPUT report last seen at a time; the two clocks differ by a signed number. -/
def USBHostUPS.inputReportAgeMs (last : Option Nat) (now : Nat) : UInt32 :=
  match last with
  | none => 0xFFFFFFFF
  | some time =>
      let age := GenericDriver.millis now - GenericDriver.millis time
      if 0 < age ∧ age < 0x80000000 then age else 0

namespace GenericDriver

open Lib NutTable

/-! ### A device on the line -/

/-- A device with a driver that polls the default lists; the depth bounds the stack of a publication. -/
structure Device where
  sub : Subdriver
  transport : Transport
  depth : Nat

/-- The hooks of such a driver; the rows are out of their reach. -/
def Device.hooks (_d : Device) (hooks : Hooks) : Hooks :=
  { hooks with
    ownPollLists := none
    onLoop := fun s => { s with ctx := (hooks.onLoop s).ctx, data := (hooks.onLoop s).data } }

theorem Device.ownPollLists_hooks (d : Device) (hooks : Hooks) : (d.hooks hooks).ownPollLists = none := rfl

/-- When each INPUT report was last seen on the interrupt pipe. -/
abbrev LastInput := List (Nat × Nat)

def lastInputOf (last : LastInput) (reportId : Nat) : Option Nat :=
  (last.find? fun seen => seen.1 = reportId).map Prod.snd

def Device.host (d : Device) (host : Host) (last : LastInput) (now : Nat) : Host :=
  { host with
    toTransport := d.transport
    inputReportAgeMs := fun reportId => USBHostUPS.inputReportAgeMs (lastInputOf last reportId) now }

/-- A report that answered a request, with the rows before it. -/
structure Answer where
  reportType : Nat
  id : Nat
  bytes : List Byte
  before : State

/-- What is noted of a cycle: the list and the semi-static reports it started with, the answers, and whether the device was silent and answered all along. -/
structure Notes where
  listed : List PollItem
  semiStatic : List (Nat × Nat)
  answers : List Answer
  quiet : Bool

structure Survey where
  worked : Worked
  notes : Notes
  past : List Notes
  lastInput : LastInput

def Survey.initial (data : UPSData) : Survey := ⟨Worked.initial data, ⟨[], [], [], true⟩, [], []⟩

inductive LineEvent where
  /-- A call of `loop`; the device answers the request with `answer`, or not at all. -/
  | loop (hooks : Hooks) (host : Host) (now : Nat) (raced : Bool) (answer : List Byte)
  | inputReport (host : Host) (reportId : Nat) (bytes : List Byte) (now : Nat)
  /-- A report read outside the poll. -/
  | readBack (host : Host) (reportId reportType : Nat) (bytes : List Byte) (now : Nat)
  | noteDataChanged
  | pollSoon (item : PollItem)
  | invalidateReport (reportType reportId : Nat)
  | engine (event : Event)

/-- Every INPUT report seen so far is too old to stand for a request, and its age is still a positive number. -/
def isSilent (hooks : Hooks) (last : LastInput) (now : Nat) : Bool :=
  last.all fun seen => decide (seen.2 + hooks.maxReportAgeMs.toNat ≤ now ∧ now < seen.2 + 2 ^ 31)

/-- A report is decoded and its rows are read. -/
def Device.hear (d : Device) (host : Host) (reportId reportType : Nat) (bytes : List Byte) (w : Worked) : Option Worked :=
  if bytes = [] then none
  else do
    let noted := decodeReport d.sub host reportId reportType bytes w.poll
    let engine ← postDecode d.sub d.transport d.depth reportId reportType bytes noted.engine
    some (work d.sub w (.report host reportId reportType bytes engine))

/-- A call of `loop` up to its request. -/
def Device.call (d : Device) (hooks : Hooks) (host : Host) (now : Nat) (raced : Bool) (s : Survey) : Survey :=
  let begun := beginCycle d.sub hooks host (millis now) raced s.worked.poll
  let silent := isSilent hooks s.lastInput now
  let worked := work d.sub s.worked (.loop hooks host now raced)
  match begun.2 with
  | none => { s with worked, notes := { s.notes with quiet := s.notes.quiet && silent } }
  | some full =>
      { s with
        worked
        notes := ⟨if full then begun.1.full else begun.1.quick, begun.1.semiStatic, [], silent⟩
        past := s.past ++ [s.notes] }

def Device.answer (d : Device) (host : Host) (bytes : List Byte) : Option Request → Survey → Option Survey
  | some (.requestReport id reportType _), s =>
      if bytes = [] then some { s with notes := { s.notes with quiet := false } }
      else do
        let worked ← d.hear host id reportType bytes s.worked
        let before := (decodeReport d.sub host id reportType bytes s.worked.poll).engine
        some { s with worked, notes := { s.notes with answers := s.notes.answers ++ [⟨reportType, id, bytes, before⟩] } }
  | some (.requestStringDescriptor _), s => some s
  | none, s => some s

/-- One step; none when the event does not happen or the stack is not deep enough. -/
def survey (d : Device) (s : Survey) : LineEvent → Option Survey
  | .loop hooks host now raced bytes =>
      let host := d.host host s.lastInput now
      d.answer host bytes (pollStep d.sub s.worked.poll (.loop (d.hooks hooks) host now raced)).2
        (d.call (d.hooks hooks) host now raced s)
  | .inputReport host reportId bytes now => do
      let worked ← d.hear (d.host host s.lastInput now) reportId 1 bytes s.worked
      some { s with worked, lastInput := (reportId, now) :: s.lastInput.filter fun seen => seen.1 ≠ reportId }
  | .readBack host reportId reportType bytes now => do
      let worked ← d.hear (d.host host s.lastInput now) reportId reportType bytes s.worked
      some { s with worked }
  | .noteDataChanged => some { s with worked := work d.sub s.worked .noteDataChanged }
  | .pollSoon item => some { s with worked := work d.sub s.worked (.pollSoon item) }
  | .invalidateReport reportType reportId =>
      some { s with worked := work d.sub s.worked (.invalidateReport reportType reportId) }
  | .engine (.report ..) => none
  | .engine event => do
      let engine ← step d.sub d.depth s.worked.poll.engine event
      some { s with worked := work d.sub s.worked (.engine engine) }

/-! ### Living rows stay where they are -/

theorem Evolves.living {rows rows' : List Bound} (h : Evolves rows rows') (hres : Resolved rows) {k : Nat} {b b' : Bound}
    (hb : rows[k]? = some b) (hb' : rows'[k]? = some b') (hliving : isLivingRow b' = true) : isLivingRow b = true := by
  obtain ⟨hres', hadv⟩ := h.roles hres
  have hplace := place_of_places h.places hb hb'
  have hinfo : b'.info = b.info := congrArg Prod.fst hplace
  unfold isLivingRow at hliving ⊢
  simp only [Bool.and_eq_true, Bool.not_eq_true', decide_eq_true_eq] at hliving ⊢
  obtain ⟨⟨habsent, hrole⟩, hcommand⟩ := hliving
  rw [hinfo] at habsent hcommand
  refine ⟨⟨habsent, fun hdead => hrole ?_⟩, hcommand⟩
  by_cases hpub : isPublishedRow b.info = true
  · rw [role_stable hres hres' hadv hb hb' hpub (by rw [hdead]; decide), hdead]
  · have hstanding := congrArg Prod.snd (standing_of_standings h.standings hb hb')
    unfold Bound.standing at hstanding
    rw [hinfo] at hstanding
    simp only [hpub, Bool.false_eq_true, if_false, Option.some.injEq] at hstanding
    rw [hstanding, hdead]

theorem Evolves.row {rows rows' : List Bound} (h : Evolves rows rows') {k : Nat} {b' : Bound} (hb' : rows'[k]? = some b') :
    ∃ b, rows[k]? = some b ∧ b'.place = b.place := by
  obtain ⟨hk, -⟩ := List.getElem?_eq_some_iff.mp hb'
  have hk' : k < rows.length := by
    rw [← length_of_places h.places]
    exact hk
  have hb : rows[k]? = some rows[k] := List.getElem?_eq_getElem hk'
  exact ⟨rows[k], hb, place_of_places h.places hb hb'⟩

/-! ### The lists and what they cover -/

def hasFieldIn (usages : List HIDUsageDef) (reportType id : Nat) (b : Bound) : Prop :=
  ∃ u ∈ Bound.usages b usages, u.reportType = reportType ∧ u.reportId = id

/-- Every living row with an INPUT field has a field in a listed report. -/
def InputCovered (d : Device) (p : Poll) : Prop :=
  ∀ b ∈ p.engine.rows, isLivingRow b = true → (∃ u ∈ Bound.usages b d.transport.usages, u.reportType = 1) →
    ∃ item ∈ p.quick ++ p.full, hasFieldIn d.transport.usages item.reportType item.id b

/-- Rows bound once, and lists of reports that cover what `inputValuesPolled` says. -/
structure Sane (d : Device) (p : Poll) : Prop where
  bound : p.engine.nutBound = true → BoundTo d.transport p.engine
  built : p.listsBuilt = true → p.engine.nutBound = true
  resolved : Resolved p.engine.rows
  reports : ∀ item ∈ p.quick ++ p.full, isPollType item.reportType = true
  covered : p.inputValuesPolled = true → p.engine.nutBound = true ∧ InputCovered d p

variable {d : Device} {p p' : Poll}

theorem sane_initial (d : Device) (data : UPSData) : Sane d (Poll.initial data) where
  bound := fun h => absurd h (by simp [Poll.initial, State.initial])
  built := fun h => absurd h (by simp [Poll.initial])
  resolved := by
    intro k b hb
    exact absurd hb (by simp [Poll.initial, State.initial])
  reports := by simp [Poll.initial]
  covered := fun h => absurd h (by simp [Poll.initial])

/-- The rows and the static reports stay what they are. -/
structure RowsKept (p p' : Poll) : Prop where
  engine : Onward p.engine p'.engine
  staticReport : p'.staticReport = p.staticReport
  listsBuilt : p'.listsBuilt = p.listsBuilt

/-- The lists and what they cover stay too. -/
structure Steady (p p' : Poll) : Prop extends RowsKept p p' where
  quick : p'.quick = p.quick
  full : p'.full = p.full
  inputValuesPolled : p'.inputValuesPolled = p.inputValuesPolled

theorem RowsKept.refl (p : Poll) : RowsKept p p := ⟨Onward.refl _, rfl, rfl⟩

theorem RowsKept.trans {p'' : Poll} (h : RowsKept p p') (h' : RowsKept p' p'') : RowsKept p p'' :=
  ⟨h.engine.trans h'.engine, h'.staticReport.trans h.staticReport, h'.listsBuilt.trans h.listsBuilt⟩

theorem Steady.refl (p : Poll) : Steady p p := ⟨RowsKept.refl p, rfl, rfl, rfl⟩

theorem Steady.trans {p'' : Poll} (h : Steady p p') (h' : Steady p' p'') : Steady p p'' :=
  ⟨h.toRowsKept.trans h'.toRowsKept, h'.quick.trans h.quick, h'.full.trans h.full,
    h'.inputValuesPolled.trans h.inputValuesPolled⟩

theorem Steady.of_same (hengine : p'.engine = p.engine) (hquick : p'.quick = p.quick) (hfull : p'.full = p.full)
    (hpolled : p'.inputValuesPolled = p.inputValuesPolled) (hstatic : p'.staticReport = p.staticReport)
    (hbuilt : p'.listsBuilt = p.listsBuilt) : Steady p p' := by
  refine ⟨⟨?_, hstatic, hbuilt⟩, hquick, hfull, hpolled⟩
  rw [hengine]
  exact Onward.refl _

theorem hasFieldIn_of_place {usages : List HIDUsageDef} {reportType id : Nat} {b b' : Bound} (hplace : b'.place = b.place) :
    hasFieldIn usages reportType id b' ↔ hasFieldIn usages reportType id b := by
  unfold hasFieldIn
  rw [usages_of_place hplace usages]

theorem Sane.steady (h : Sane d p) (hsteady : Steady p p') : Sane d p' where
  bound := by
    intro hbound
    rw [hsteady.engine.nutBound] at hbound
    obtain ⟨hnut, hcount⟩ := h.bound hbound
    exact ⟨hsteady.engine.nutBound.trans hnut, hsteady.engine.nutUsageCount.trans hcount⟩
  built := fun hbuilt => hsteady.engine.nutBound.trans (h.built (hsteady.listsBuilt.symm.trans hbuilt))
  resolved := (hsteady.engine.rows.roles h.resolved).1
  reports := by
    rw [hsteady.quick, hsteady.full]
    exact h.reports
  covered := by
    intro hpolled
    rw [hsteady.inputValuesPolled] at hpolled
    obtain ⟨hbound, hcovered⟩ := h.covered hpolled
    refine ⟨hsteady.engine.nutBound.trans hbound, ?_⟩
    intro b' hb' hliving hinput
    obtain ⟨k, hk⟩ := List.getElem?_of_mem hb'
    obtain ⟨b, hb, hplace⟩ := hsteady.engine.rows.row hk
    rw [usages_of_place hplace] at hinput
    obtain ⟨item, hitem, hfield⟩ := hcovered b (List.mem_of_getElem? hb)
      (hsteady.engine.rows.living h.resolved hb hk hliving) hinput
    rw [hsteady.quick, hsteady.full]
    exact ⟨item, hitem, (hasFieldIn_of_place hplace).mpr hfield⟩

theorem polled_of_not_dependsOnInput {polled : List PollItem} {group : List HIDUsageDef}
    (h : dependsOnInput polled group = false) (hinput : ∃ u ∈ group, u.reportType = 1) :
    ∃ u ∈ group, ∃ item ∈ polled, item.reportType = u.reportType ∧ item.id = u.reportId := by
  obtain ⟨input, hmem, htype⟩ := hinput
  unfold dependsOnInput at h
  dsimp only at h
  rw [Bool.and_eq_false_iff] at h
  have hpolled := h.resolve_right (by
    rw [Bool.not_eq_false]
    exact List.any_eq_true.mpr ⟨input, List.mem_filter.mpr ⟨hmem, by simp [isPollType, htype]⟩, by simp [htype]⟩)
  rw [Bool.not_eq_false'] at hpolled
  obtain ⟨u, hu, hlisted⟩ := List.any_eq_true.mp hpolled
  obtain ⟨item, hitem, hkey⟩ := List.any_eq_true.mp hlisted
  simp only [Bool.and_eq_true, decide_eq_true_eq] at hkey
  exact ⟨u, (List.mem_filter.mp hu).1, item, hitem, hkey⟩

theorem sane_withLists {hooks : Hooks} {host : Host} (h : Sane d p) (hown : hooks.ownPollLists = none)
    (husages : host.usages = d.transport.usages) : Sane d (withLists d.sub hooks host p) where
  bound := h.bound
  built := h.built
  resolved := h.resolved
  reports := by
    intro item hitem
    have hlists : item ∈ (buildPollLists d.sub hooks host p).1 ++ (buildPollLists d.sub hooks host p).2 := by
      have hbuilt : pollLists d.sub hooks host p = buildPollLists d.sub hooks host p := by
        unfold pollLists
        rw [hown]
        rfl
      rw [← hbuilt]
      exact hitem
    obtain ⟨r, hr, rfl⟩ := report_of_buildPollLists hlists
    obtain ⟨u, -, hpolled, -, htype, -⟩ := usage_of_mem_acceptedReports hr
    rw [htype] at hpolled
    exact hpolled
  covered := by
    intro hpolled
    have hcomputed : computeInputCoverage hooks host
        { p with quick := (pollLists d.sub hooks host p).1, full := (pollLists d.sub hooks host p).2 } = true := hpolled
    unfold computeInputCoverage at hcomputed
    split at hcomputed
    · exact absurd hcomputed (by simp)
    · rename_i hbound
      have hnut : p.engine.nutBound = true := by simpa using hbound
      refine ⟨hnut, ?_⟩
      intro b hb hliving hinput
      simp only [Bool.and_eq_true] at hcomputed
      have hrow := List.all_eq_true.mp hcomputed.1.1 b hb
      rw [readsRow_of_isLivingRow _ hliving, Bool.not_true, Bool.false_or, Bool.not_eq_true', husages] at hrow
      obtain ⟨u, hu, item, hitem, htype, hid⟩ := polled_of_not_dependsOnInput hrow hinput
      exact ⟨item, hitem, u, hu, htype.symm, hid.symm⟩

/-! ### One call of `loop` -/

theorem sane_bindRowsOnce (h : Sane d p) :
    Sane d (bindRowsOnce d.sub d.transport p) ∧ (bindRowsOnce d.sub d.transport p).engine.nutBound = true
      ∧ (bindRowsOnce d.sub d.transport p).listsBuilt = p.listsBuilt
      ∧ (p.engine.nutBound = true → bindRowsOnce d.sub d.transport p = p) := by
  unfold bindRowsOnce
  split
  · rename_i hbound
    exact ⟨h, hbound.1, rfl, fun _ => rfl⟩
  · rename_i hunbound
    have hbound := boundTo_bindNutTable d.sub d.transport p.engine
    have hnone : p.engine.nutBound ≠ true := fun hnut => hunbound (h.bound hnut)
    refine ⟨⟨fun _ => hbound, fun _ => hbound.1, resolved_bindNutTable h.resolved, h.reports, ?_⟩, hbound.1, rfl,
      fun hnut => absurd hnut hnone⟩
    intro hpolled
    exact absurd (h.covered hpolled).1 hnone

theorem steady_appendString (p : Poll) (index : Nat) : Steady p (appendString p index) := by
  unfold appendString
  split
  · exact Steady.refl p
  · exact Steady.of_same rfl rfl rfl rfl rfl rfl

theorem steady_appendNewStrings (hooks : Hooks) (host : Host) (p : Poll) : Steady p (appendNewStrings hooks host p) := by
  unfold appendNewStrings
  generalize hooks.ownStringRequests.getD (collectStringRequests hooks host p) = strings
  induction strings generalizing p with
  | nil => exact Steady.refl p
  | cons index rest ih =>
      rw [List.foldl_cons]
      exact (steady_appendString p index).trans (ih _)

theorem steady_recheckStrings (hooks : Hooks) (host : Host) (p : Poll) : Steady p (recheckStrings hooks host p) := by
  unfold recheckStrings
  split
  · have hrechecked : Steady p { p with stringsRechecked := true } := Steady.of_same rfl rfl rfl rfl rfl rfl
    exact hrechecked.trans (steady_appendNewStrings hooks host _)
  · exact Steady.refl p

theorem steady_refreshData (hooks : Hooks) (host : Host) (p : Poll) :
    Steady p (refreshData d.sub (d.hooks hooks) host p) :=
  ⟨⟨⟨Evolves.refl _, rfl, rfl⟩, rfl, rfl⟩, rfl, rfl, rfl⟩

section Call

variable (hooks : Hooks) {host : Host} (husages : host.usages = d.transport.usages)
include husages

theorem sane_buildOnce (htransport : host.toTransport = d.transport) (h : Sane d p) :
    Sane d (buildOnce d.sub (d.hooks hooks) host p) ∧ (buildOnce d.sub (d.hooks hooks) host p).listsBuilt = true
      ∧ (p.listsBuilt = true → buildOnce d.sub (d.hooks hooks) host p = p) := by
  unfold buildOnce
  split
  · rename_i hbuilt
    exact ⟨h, hbuilt, fun _ => rfl⟩
  · rename_i hunbuilt
    obtain ⟨hbound, hnut, -, -⟩ := sane_bindRowsOnce h
    rw [← htransport] at hbound hnut
    have hlists := sane_withLists hbound (d.ownPollLists_hooks hooks) husages
    exact ⟨⟨hlists.bound, fun _ => hnut, hlists.resolved, hlists.reports, hlists.covered⟩, rfl,
      fun hbuilt => absurd hbuilt hunbuilt⟩

theorem sane_finishCycle (h : Sane d p) :
    Sane d (finishCycle d.sub (d.hooks hooks) host p) ∧ RowsKept p (finishCycle d.sub (d.hooks hooks) host p) := by
  have hended : Steady p (if p.exhausted && p.cycleFull && p.stringsRechecked then
      { p with engine := { p.engine with firstFullDone := true } } else p) := by
    split
    · exact ⟨⟨⟨Evolves.refl _, rfl, rfl⟩, rfl, rfl⟩, rfl, rfl, rfl⟩
    · exact Steady.refl p
  have hpruned : ∀ p : Poll, Sane d p →
      Sane d (if p.listsBuilt && p.engine.nutBound && p.engine.nutInitDone && !p.listsPruned then
        pruneFullPoll d.sub (d.hooks hooks) host p else p)
      ∧ RowsKept p (if p.listsBuilt && p.engine.nutBound && p.engine.nutInitDone && !p.listsPruned then
        pruneFullPoll d.sub (d.hooks hooks) host p else p) := by
    intro p h
    split
    · have hmarked : Steady p { p with listsPruned := true } := Steady.of_same rfl rfl rfl rfl rfl rfl
      exact ⟨sane_withLists (h.steady hmarked) (d.ownPollLists_hooks hooks) husages, ⟨Onward.refl _, rfl, rfl⟩⟩
    · exact ⟨h, RowsKept.refl p⟩
  have hclassified : ∀ p : Poll, Steady p (if p.engine.firstFullDone && p.engine.nutBound && p.engine.nutInitDone
      && !p.semiClassified then classifySemiStatic host p else p) := by
    intro p
    split
    · exact Steady.of_same rfl rfl rfl rfl rfl rfl
    · exact Steady.refl p
  obtain ⟨hsane, hkept⟩ := hpruned _ (h.steady hended)
  exact ⟨hsane.steady (hclassified _), hended.toRowsKept.trans (hkept.trans (hclassified _).toRowsKept)⟩

variable (host) in
/-- What a call does before its request keeps the lists sound, and once they are built it keeps the rows. -/
theorem sane_prepare (htransport : host.toTransport = d.transport) (h : Sane d p) :
    Sane d (prepare d.sub (d.hooks hooks) host p) ∧ (prepare d.sub (d.hooks hooks) host p).listsBuilt = true
      ∧ (p.listsBuilt = true → RowsKept p (prepare d.sub (d.hooks hooks) host p)) := by
  have hrefreshed := steady_refreshData (d := d) hooks host p
  obtain ⟨hsane, hbuilt, hsame⟩ := sane_buildOnce hooks husages htransport (h.steady hrefreshed)
  have hrechecked := steady_recheckStrings (d.hooks hooks) host (buildOnce d.sub (d.hooks hooks) host
    (refreshData d.sub (d.hooks hooks) host p))
  obtain ⟨hfinished, hkept⟩ := sane_finishCycle hooks husages (hsane.steady hrechecked)
  refine ⟨hfinished, ?_, ?_⟩
  · exact (hkept.listsBuilt.trans hrechecked.listsBuilt).trans hbuilt
  · intro hlists
    rw [hsame (hrefreshed.listsBuilt.trans hlists)] at hkept hrechecked
    have hall := hrefreshed.toRowsKept.trans (hrechecked.toRowsKept.trans hkept)
    unfold prepare
    rw [hsame (hrefreshed.listsBuilt.trans hlists)]
    exact hall

end Call

theorem steady_startCycle (hooks : Hooks) (host : Host) (full : Bool) (now : UInt32) (p : Poll) :
    Steady p (startCycle hooks host full now p) := by
  have hcleared : Steady p (clearCycle full p) := Steady.of_same rfl rfl rfl rfl rfl rfl
  have htaken : ∀ p : Poll, Steady p (takeChange host p) := by
    intro p
    unfold takeChange
    dsimp only
    split
    · exact Steady.of_same rfl rfl rfl rfl rfl rfl
    · exact Steady.of_same rfl rfl rfl rfl rfl rfl
  unfold startCycle
  extract_lets cleared strings stamp
  have hstrings : Steady p strings := by
    unfold strings
    split
    · exact hcleared.trans ((steady_appendNewStrings hooks host _).trans (htaken _))
    · exact hcleared
  exact hstrings.trans (Steady.of_same rfl rfl rfl rfl rfl rfl)

theorem steady_issue (hooks : Hooks) (host : Host) (now : UInt32) (p : Poll) : Steady p (issue hooks host now p).1 := by
  rcases issue_cases hooks host now p with ⟨-, hissue⟩ | ⟨-, -, hissue⟩ | ⟨-, item, -, hissue⟩
  · rw [hissue]
    exact Steady.refl p
  · rw [hissue]
    exact Steady.of_same rfl rfl rfl rfl rfl rfl
  · rw [hissue]
    exact Steady.of_same rfl rfl rfl rfl rfl rfl

theorem steady_noteRace (raced : Bool) (p : Poll) : Steady p (noteRace raced p) := Steady.of_same rfl rfl rfl rfl rfl rfl

theorem steady_beginCycle (sub : Subdriver) (hooks : Hooks) (host : Host) (now : UInt32) (raced : Bool) (p : Poll) :
    Steady (prepare sub hooks host p) (beginCycle sub hooks host now raced p).1 := by
  have hraced := steady_noteRace raced (prepare sub hooks host p)
  unfold beginCycle
  dsimp only
  cases dueCycle hooks now (prepare sub hooks host p) with
  | none => exact hraced
  | some full => exact hraced.trans (steady_startCycle hooks host full now _)

/-! ### Reports -/

/-- The turn of the row comes while it is alive, and it is given the value. -/
def Answer.Gives (d : Device) (a : Answer) (k : Nat) (v : ℚ) : Prop :=
  ∃ s b, (List.range k).foldlM (readRow d.transport d.depth a.id a.reportType a.bytes) { a.before with clears := [] } = some s
    ∧ s.rows[k]? = some b ∧ isLivingRow b = true ∧ givenValue d.transport a.id a.reportType a.bytes b = some v

/-- Each of the rows that is alive and has a field in the report is given a value by it. -/
def Answer.Reaches (d : Device) (rows : List Bound) (a : Answer) : Prop :=
  ∀ k b, rows[k]? = some b → isLivingRow b = true → hasFieldIn d.transport.usages a.reportType a.id b → ∃ v, a.Gives d k v

theorem Answer.Reaches.evolves {rows rows' : List Bound} {a : Answer} (h : a.Reaches d rows) (hrows : Evolves rows rows')
    (hres : Resolved rows) : a.Reaches d rows' := by
  intro k b' hb' hliving hfield
  obtain ⟨b, hb, hplace⟩ := hrows.row hb'
  exact h k b hb (hrows.living hres hb hb' hliving) ((hasFieldIn_of_place hplace).mp hfield)

theorem givenValue_of_hasFieldIn {t : Transport} {reportId reportType : Nat} (bytes : List Byte) {b : Bound}
    (hliving : isLivingRow b = true) (hfield : hasFieldIn t.usages reportType reportId b) :
    ∃ v, givenValue t reportId reportType bytes b = some v := by
  obtain ⟨u, hu, htype, hid⟩ := hfield
  have hsome : (pickUsage t reportId reportType b).isSome = true := by
    unfold pickUsage
    rw [List.find?_isSome]
    exact ⟨u, hu, by simp [htype, hid]⟩
  obtain ⟨picked, hpicked⟩ := Option.isSome_iff_exists.mp hsome
  have hcommand : isCommandRow b.info = false := by
    unfold isLivingRow at hliving
    simp only [Bool.and_eq_true, Bool.not_eq_true'] at hliving
    exact hliving.2
  unfold givenValue
  rw [if_neg (by simp [hcommand]), hpicked]
  exact ⟨_, rfl⟩

/-- The rows that are alive after a report were given their values in turn. -/
theorem reaches_of_postDecode {a : Answer} {after : State} (hbound : BoundTo d.transport a.before)
    (hres : Resolved a.before.rows) (hbytes : a.bytes ≠ [])
    (h : postDecode d.sub d.transport d.depth a.id a.reportType a.bytes a.before = some after) :
    a.Reaches d after.rows := by
  obtain ⟨read, hread, hreads, hrest⟩ := postDecode_cases hbound h
  intro k b' hb' hliving hfield
  have hall : Onward a.before after := hreads.trans hrest
  obtain ⟨hk, -⟩ := List.getElem?_eq_some_iff.mp hb'
  have hlength : after.rows.length = a.before.rows.length := length_of_places hall.rows.places
  obtain ⟨turn, hturn, hbefore, hlater⟩ := readRows_turn hbytes (by rw [← hlength]; exact hk) hread
  have hafter : Onward turn after := hlater.trans hrest
  obtain ⟨b, hb, hplace⟩ := hafter.rows.row hb'
  have halive := hafter.rows.living (hbefore.rows.roles hres).1 hb hb' hliving
  obtain ⟨v, hv⟩ := givenValue_of_hasFieldIn a.bytes halive ((hasFieldIn_of_place hplace).mp hfield)
  exact ⟨v, turn, b, hturn, hb, halive, hv⟩

/-- What hearing a report does beside the rows it gives values to. -/
theorem hear_spec {host : Host} {reportId reportType : Nat} {bytes : List Byte} {w w' : Worked}
    (htransport : host.toTransport = d.transport) (h : Sane d w.poll)
    (hhear : d.hear host reportId reportType bytes w = some w') :
    Sane d w'.poll ∧ w'.cycle = w.cycle ∧ w'.past = w.past ∧ (Covers w → Covers w')
      ∧ w'.poll.listsBuilt = w.poll.listsBuilt ∧ (w.poll.listsBuilt = true → RowsKept w.poll w'.poll)
      ∧ Answer.Reaches d w'.poll.engine.rows
          ⟨reportType, reportId, bytes, (decodeReport d.sub host reportId reportType bytes w.poll).engine⟩ := by
  unfold Device.hear at hhear
  split at hhear
  · exact absurd hhear (by simp)
  rename_i hbytes
  obtain ⟨engine, hdecode, hlast⟩ := Option.bind_eq_some_iff.mp hhear
  obtain rfl := Option.some.inj hlast
  have hnoted : ∀ decodedReport activeBeeper, Steady w.poll { w.poll with decodedReport, activeBeeper } :=
    fun _ _ => Steady.of_same rfl rfl rfl rfl rfl rfl
  -- the report binds the rows unless they are bound
  have hdecoded : ∃ noted, Steady w.poll noted
      ∧ decodeReport d.sub host reportId reportType bytes w.poll = bindRowsOnce d.sub d.transport noted := by
    unfold decodeReport
    rw [if_neg hbytes, htransport]
    exact ⟨_, hnoted _ _, rfl⟩
  obtain ⟨noted, hsteady, heq⟩ := hdecoded
  obtain ⟨hsane, hnut, hbuilt, hsame⟩ := sane_bindRowsOnce (h.steady hsteady)
  rw [heq] at hdecode ⊢
  have hbound := hsane.bound hnut
  have honward := onward_postDecode hbound hdecode
  have hengine : Steady (bindRowsOnce d.sub d.transport noted)
      { bindRowsOnce d.sub d.transport noted with engine } := ⟨⟨honward, rfl, rfl⟩, rfl, rfl, rfl⟩
  have hpoll : (work d.sub w (.report host reportId reportType bytes engine)).poll
      = { bindRowsOnce d.sub d.transport noted with engine } := by
    rw [← heq]
    rfl
  rw [hpoll]
  refine ⟨hsane.steady hengine, rfl, rfl, fun hcovers => covers_work d.sub hcovers _, hbuilt.trans hsteady.listsBuilt, ?_, ?_⟩
  · intro hlists
    rw [hsame (hsteady.engine.nutBound.trans (h.built hlists))] at hengine ⊢
    exact hsteady.toRowsKept.trans hengine.toRowsKept
  · exact reaches_of_postDecode hbound hsane.resolved hbytes hdecode

/-! ### Old INPUT reports -/

/-- The clocks of two times less than a turn apart show what lies between them. -/
theorem toNat_millis_sub {time now : Nat} (hpast : time ≤ now) (hturn : now < time + 2 ^ 32) :
    (millis now - millis time).toNat = now - time := by
  unfold millis
  rw [UInt32.toNat_sub, UInt32.toNat_ofNat', UInt32.toNat_ofNat']
  omega

/-- The age of a report last seen less than half a turn ago. -/
theorem inputReportAgeMs_of_past {time now : Nat} (hpast : time ≤ now) (hsigned : now < time + 2 ^ 31) :
    (USBHostUPS.inputReportAgeMs (some time) now).toNat = now - time := by
  have hage := toNat_millis_sub hpast (by omega : now < time + 2 ^ 32)
  unfold USBHostUPS.inputReportAgeMs
  dsimp only
  split
  · exact hage
  · rename_i hnone
    rw [UInt32.lt_iff_toNat_lt, UInt32.lt_iff_toNat_lt, hage] at hnone
    have hzero : now - time = 0 := by
      have hhalf : (0x80000000 : UInt32).toNat = 2 ^ 31 := rfl
      have hnothing : (0 : UInt32).toNat = 0 := rfl
      omega
    rw [hzero]
    rfl

theorem isFreshFromInput_of_silent {hooks : Hooks} {host : Host} {last : LastInput} {now : Nat}
    (h : isSilent hooks last now = true) (p : Poll) (item : PollItem) :
    isFreshFromInput hooks (d.host host last now) p item = false := by
  have hold : ¬ USBHostUPS.inputReportAgeMs (lastInputOf last item.id) now < hooks.maxReportAgeMs := by
    rw [UInt32.lt_iff_toNat_lt]
    cases htime : lastInputOf last item.id with
    | none =>
        have hmax := hooks.maxReportAgeMs.toNat_lt
        have hnever : (USBHostUPS.inputReportAgeMs none now).toNat = 2 ^ 32 - 1 := rfl
        omega
    | some time =>
        obtain ⟨seen, hseen, rfl⟩ := Option.map_eq_some_iff.mp htime
        have hsilent := of_decide_eq_true (List.all_eq_true.mp h seen (List.mem_of_find?_eq_some hseen))
        rw [inputReportAgeMs_of_past (by omega) hsilent.2]
        omega
  unfold isFreshFromInput
  split
  · split
    · exact decide_eq_false hold
    · rfl
  · split
    · rfl
    · exact decide_eq_false hold

/-! ### Cycles -/

/-- A cycle and its notes: the listed reports are in its queue or semi-static, and what was handled was requested and answered. -/
structure Follows (d : Device) (p : Poll) (pending : Option PollItem) (c : Cycle) (n : Notes) : Prop where
  listed : ∀ item ∈ n.listed, isPollType item.reportType = true
    ∧ (item ∈ c.start ∨ (item.reportType, item.id) ∈ n.semiStatic)
  silent : n.quiet = true → ∀ h ∈ c.handled, h.2 ≠ .freshFromInput
  static : ∀ h ∈ c.handled, h.2 = .staticAndKnown → (h.1.reportType, h.1.id) ∈ p.staticReport
  answered : n.quiet = true → ∀ h ∈ c.handled, h.2 = .requested → isPollType h.1.reportType = true →
    pending = some h.1 ∨ ∃ a ∈ n.answers, a.reportType = h.1.reportType ∧ a.id = h.1.id
  reached : ∀ a ∈ n.answers, a.Reaches d p.engine.rows

/-- Nothing of the cycle has been handled yet. -/
def Untouched (c : Cycle) (n : Notes) : Prop := c.handled = [] ∧ n.answers = []

theorem Follows.of_untouched {pending : Option PollItem} {c : Cycle} {n : Notes} (h : Follows d p pending c n)
    (huntouched : Untouched c n) (p' : Poll) (pending' : Option PollItem) : Follows d p' pending' c n := by
  obtain ⟨hhandled, hanswers⟩ := huntouched
  refine ⟨h.listed, h.silent, ?_, ?_, ?_⟩
  · rw [hhandled]
    simp
  · rw [hhandled]
    simp
  · rw [hanswers]
    simp

theorem Follows.kept {pending : Option PollItem} {c : Cycle} {n : Notes} (h : Follows d p pending c n)
    (hres : Resolved p.engine.rows) (hkept : RowsKept p p') : Follows d p' pending c n := by
  refine ⟨h.listed, h.silent, ?_, h.answered, fun a ha => (h.reached a ha).evolves hkept.engine.rows hres⟩
  rw [hkept.staticReport]
  exact h.static

/-- The lists, the rows, and each cycle with its notes. -/
structure Kept (d : Device) (s : Survey) (pending : Option PollItem) : Prop where
  covers : Covers s.worked
  sane : Sane d s.worked.poll
  current : Follows d s.worked.poll pending s.worked.cycle s.notes
  past : List.Forall₂ (Follows d s.worked.poll none) s.worked.past s.past
  unbuilt : s.worked.poll.listsBuilt = false →
    Untouched s.worked.cycle s.notes ∧ List.Forall₂ Untouched s.worked.past s.past

theorem kept_initial (d : Device) (data : UPSData) : Kept d (Survey.initial data) none where
  covers := covers_run d.sub data []
  sane := sane_initial d data
  current := ⟨by simp [Survey.initial], by simp [Survey.initial, Worked.initial], by simp [Survey.initial, Worked.initial],
    by simp [Survey.initial, Worked.initial], by simp [Survey.initial]⟩
  past := List.Forall₂.nil
  unbuilt := fun _ => ⟨⟨rfl, rfl⟩, List.Forall₂.nil⟩

/-- The cycles and their notes before a change of the poll, after it. -/
theorem follows_past {cs : List Cycle} {ns : List Notes} (h : List.Forall₂ (Follows d p none) cs ns)
    (hres : Resolved p.engine.rows) (hunbuilt : p.listsBuilt = false → List.Forall₂ Untouched cs ns)
    (hkept : p.listsBuilt = true → RowsKept p p') : List.Forall₂ (Follows d p' none) cs ns := by
  cases hbuilt : p.listsBuilt with
  | true => exact h.imp fun _ _ hfollows => hfollows.kept hres (hkept hbuilt)
  | false =>
      have huntouched := hunbuilt hbuilt
      clear hunbuilt hkept hbuilt
      induction h with
      | nil => exact List.Forall₂.nil
      | cons hfollows _ ih =>
          obtain ⟨hfirst, hrest⟩ := List.forall₂_cons.mp huntouched
          exact List.Forall₂.cons (hfollows.of_untouched hfirst p' none) (ih hrest)

theorem Follows.changed {pending : Option PollItem} {c : Cycle} {n : Notes} (h : Follows d p pending c n)
    (hres : Resolved p.engine.rows) (hunbuilt : p.listsBuilt = false → Untouched c n)
    (hkept : p.listsBuilt = true → RowsKept p p') : Follows d p' pending c n := by
  cases hbuilt : p.listsBuilt with
  | true => exact h.kept hres (hkept hbuilt)
  | false => exact h.of_untouched (hunbuilt hbuilt) p' pending

theorem Kept.of_poll {s : Survey} {pending : Option PollItem} (h : Kept d s pending) {w : Worked}
    (hcovers : Covers w) (hsane : Sane d w.poll) (hstart : w.cycle.start = s.worked.cycle.start)
    (hhandled : w.cycle.handled = s.worked.cycle.handled) (hpast : w.past = s.worked.past)
    (hbuilt : w.poll.listsBuilt = s.worked.poll.listsBuilt)
    (hkept : s.worked.poll.listsBuilt = true → RowsKept s.worked.poll w.poll) :
    Kept d { s with worked := w } pending := by
  have hcurrent := h.current.changed h.sane.resolved (fun hunbuilt => (h.unbuilt hunbuilt).1) hkept
  refine ⟨hcovers, hsane, ⟨?_, ?_, ?_, ?_, hcurrent.reached⟩, ?_, ?_⟩
  · rw [hstart]
    exact hcurrent.listed
  · rw [hhandled]
    exact hcurrent.silent
  · rw [hhandled]
    exact hcurrent.static
  · rw [hhandled]
    exact hcurrent.answered
  · rw [hpast]
    exact follows_past h.past h.sane.resolved (fun hunbuilt => (h.unbuilt hunbuilt).2) hkept
  · intro hunbuilt
    obtain ⟨⟨hnone, hanswers⟩, hearlier⟩ := h.unbuilt (hbuilt.symm.trans hunbuilt)
    rw [hpast]
    exact ⟨⟨hhandled.trans hnone, hanswers⟩, hearlier⟩

/-- A listed report is in the queue its cycle starts with, unless it is semi-static. -/
theorem listed_startCycle {hooks : Hooks} {host : Host} {full : Bool} {now : UInt32} {item : PollItem}
    (h : item ∈ if full then (startCycle hooks host full now p).full else (startCycle hooks host full now p).quick) :
    item ∈ (startCycle hooks host full now p).queue
      ∨ (item.reportType, item.id) ∈ (startCycle hooks host full now p).semiStatic := by
  have hreports : ∀ p : Poll, (item ∈ if full then p.full else p.quick) →
      item ∈ cycleReports host full p ∨ (item.reportType, item.id) ∈ p.semiStatic := by
    intro p hitem
    by_cases hsemi : isSemiStaticAndKnown p item = true
    · unfold isSemiStaticAndKnown at hsemi
      simp only [Bool.and_eq_true, decide_eq_true_eq] at hsemi
      exact Or.inr hsemi.1.2
    · refine Or.inl (List.mem_filter.mpr ⟨hitem, ?_⟩)
      simp [hsemi]
  exact (hreports _ h).imp_left (List.mem_append_right _)

/-- What a call makes of an item: an item is requested only as the request of the call. -/
theorem handled_spec {hooks : Hooks} {host : Host} {now : UInt32} (item : PollItem)
    (h : item ∈ workedOff hooks host now p) :
    (handling hooks host p item = .freshFromInput → isFreshFromInput hooks host p item = true)
      ∧ (handling hooks host p item = .staticAndKnown → (item.reportType, item.id) ∈ p.staticReport)
      ∧ (handling hooks host p item = .requested → (issue hooks host now p).2 = some item) := by
  refine ⟨?_, ?_, ?_⟩
  · intro hfresh
    unfold handling at hfresh
    split at hfresh
    · assumption
    · split at hfresh
      · exact absurd hfresh (by decide)
      · exact absurd hfresh (by decide)
  · intro hstatic
    unfold handling at hstatic
    split at hstatic
    · exact absurd hstatic (by decide)
    · split at hstatic
      · rename_i hknown
        unfold isStaticAndKnown at hknown
        simp only [Bool.and_eq_true, decide_eq_true_eq] at hknown
        exact hknown.1.2
      · exact absurd hstatic (by decide)
  · intro hrequested
    unfold workedOff at h
    split at h
    · exact absurd h (by simp)
    · rcases List.mem_append.mp h with hskipped | hissued
      · have hpassed := List.mem_takeWhile_imp hskipped
        rw [handling_of_isSkipped.mp hrequested] at hpassed
        exact absurd hpassed (by decide)
      · exact Option.mem_toList.mp hissued

/-- The items a call works off join the cycle, the requested one of them still without an answer. -/
theorem Follows.handle {host : Host} {last : LastInput} {now : Nat} {hooks : Hooks} {c : Cycle} {n : Notes}
    (h : Follows d p none c n) (hres : Resolved p.engine.rows) :
    Follows d (issue hooks (d.host host last now) (millis now) p).1 (issue hooks (d.host host last now) (millis now) p).2
      (c.handle hooks (d.host host last now) (millis now) p) { n with quiet := n.quiet && isSilent hooks last now } := by
  have hissued := steady_issue hooks (d.host host last now) (millis now) p
  have hspec := @handled_spec p hooks (d.host host last now) (millis now)
  have hnew : ∀ handled ∈ (workedOff hooks (d.host host last now) (millis now) p).map
        (fun item => (item, handling hooks (d.host host last now) p item)),
      handled.1 ∈ workedOff hooks (d.host host last now) (millis now) p
        ∧ handled.2 = handling hooks (d.host host last now) p handled.1 := by
    intro handled hhandled
    obtain ⟨item, hitem, rfl⟩ := List.mem_map.mp hhandled
    exact ⟨hitem, rfl⟩
  refine ⟨h.listed, ?_, ?_, ?_, fun a ha => (h.reached a ha).evolves hissued.engine.rows hres⟩
  · intro hquiet handled hhandled hfresh
    rw [Bool.and_eq_true] at hquiet
    rcases List.mem_append.mp hhandled with hbefore | hnow
    · exact h.silent hquiet.1 handled hbefore hfresh
    · obtain ⟨hitem, hkind⟩ := hnew handled hnow
      have hisfresh := (hspec handled.1 hitem).1 (hkind.symm.trans hfresh)
      rw [isFreshFromInput_of_silent hquiet.2] at hisfresh
      exact Bool.false_ne_true hisfresh
  · intro handled hhandled hstatic
    rw [hissued.staticReport]
    rcases List.mem_append.mp hhandled with hbefore | hnow
    · exact h.static handled hbefore hstatic
    · obtain ⟨hitem, hkind⟩ := hnew handled hnow
      exact (hspec handled.1 hitem).2.1 (hkind.symm.trans hstatic)
  · intro hquiet handled hhandled hrequested htype
    rw [Bool.and_eq_true] at hquiet
    rcases List.mem_append.mp hhandled with hbefore | hnow
    · rcases h.answered hquiet.1 handled hbefore hrequested htype with hnone | hanswer
      · exact absurd hnone (by simp)
      · exact Or.inr hanswer
    · obtain ⟨hitem, hkind⟩ := hnew handled hnow
      exact Or.inl ((hspec handled.1 hitem).2.2 (hkind.symm.trans hrequested))

section Call

variable (hooks : Hooks) (host : Host) (now : Nat) (raced : Bool) (s : Survey)

/-- The poll when a call has chosen its cycle. -/
def Device.begun (d : Device) : Poll :=
  (beginCycle d.sub (d.hooks hooks) (d.host host s.lastInput now) (millis now) raced s.worked.poll).1

def Device.chosen (d : Device) : Option Bool :=
  (beginCycle d.sub (d.hooks hooks) (d.host host s.lastInput now) (millis now) raced s.worked.poll).2

/-- The poll and the item of the request, if there is one. -/
def Device.issued (d : Device) : Poll × Option PollItem :=
  issue (d.hooks hooks) (d.host host s.lastInput now) (millis now) (d.begun hooks host now raced s)

theorem call_goesOn (hnone : d.chosen hooks host now raced s = none) :
    d.call (d.hooks hooks) (d.host host s.lastInput now) now raced s
      = { s with
          worked :=
            { s.worked with
              poll := (d.issued hooks host now raced s).1
              cycle := Cycle.handle
                { s.worked.cycle with
                  added := s.worked.cycle.added
                    ++ (d.begun hooks host now raced s).queue.drop s.worked.poll.queue.length }
                (d.hooks hooks) (d.host host s.lastInput now) (millis now) (d.begun hooks host now raced s) }
          notes := { s.notes with quiet := s.notes.quiet && isSilent hooks s.lastInput now } } := by
  unfold Device.chosen at hnone
  unfold Device.call work
  dsimp only
  rw [pollStep_loop, hnone]
  rfl

theorem call_starts {full : Bool} (hsome : d.chosen hooks host now raced s = some full) :
    d.call (d.hooks hooks) (d.host host s.lastInput now) now raced s
      = { s with
          worked :=
            { poll := (d.issued hooks host now raced s).1
              cycle := Cycle.handle ⟨(d.begun hooks host now raced s).queue, [], [], []⟩
                (d.hooks hooks) (d.host host s.lastInput now) (millis now) (d.begun hooks host now raced s)
              past := s.worked.past ++ [s.worked.cycle] }
          notes :=
            ⟨if full then (d.begun hooks host now raced s).full else (d.begun hooks host now raced s).quick,
              (d.begun hooks host now raced s).semiStatic, [], isSilent hooks s.lastInput now⟩
          past := s.past ++ [s.notes] } := by
  unfold Device.chosen at hsome
  unfold Device.call work
  dsimp only
  rw [pollStep_loop, hsome]
  rfl

/-- The choice of a cycle leaves sound lists, and the rows as they are once the lists are built. -/
theorem begun_spec (h : Sane d s.worked.poll) :
    Sane d (d.begun hooks host now raced s) ∧ (d.begun hooks host now raced s).listsBuilt = true
      ∧ (s.worked.poll.listsBuilt = true → RowsKept s.worked.poll (d.begun hooks host now raced s))
      ∧ ∀ full, d.chosen hooks host now raced s = some full →
        ∀ item ∈ if full then (d.begun hooks host now raced s).full else (d.begun hooks host now raced s).quick,
          item ∈ (d.begun hooks host now raced s).queue
            ∨ (item.reportType, item.id) ∈ (d.begun hooks host now raced s).semiStatic := by
  obtain ⟨hprepared, hbuilt, hkept⟩ := sane_prepare hooks (d.host host s.lastInput now) rfl rfl h
  have hbegun := steady_beginCycle d.sub (d.hooks hooks) (d.host host s.lastInput now) (millis now) raced s.worked.poll
  refine ⟨hprepared.steady hbegun, hbegun.listsBuilt.trans hbuilt, fun hlists => (hkept hlists).trans hbegun.toRowsKept, ?_⟩
  intro full hfull
  unfold Device.chosen at hfull
  unfold Device.begun
  rcases beginCycle_cases d.sub (d.hooks hooks) (d.host host s.lastInput now) (millis now) raced s.worked.poll
    with ⟨-, hnone, -⟩ | ⟨other, -, hstart⟩
  · rw [hnone] at hfull
    exact absurd hfull (by simp)
  · rw [hstart] at hfull ⊢
    obtain rfl := Option.some.inj hfull
    exact fun item hitem => listed_startCycle hitem

theorem Follows.issued {c : Cycle} {n : Notes} (h : Follows d (d.begun hooks host now raced s) none c n)
    (hsane : Sane d (d.begun hooks host now raced s)) :
    Follows d (d.issued hooks host now raced s).1 (d.issued hooks host now raced s).2
      (c.handle (d.hooks hooks) (d.host host s.lastInput now) (millis now) (d.begun hooks host now raced s))
      { n with quiet := n.quiet && isSilent hooks s.lastInput now } :=
  h.handle hsane.resolved

theorem kept_call (h : Kept d s none) :
    Kept d (d.call (d.hooks hooks) (d.host host s.lastInput now) now raced s) (d.issued hooks host now raced s).2
      ∧ (d.call (d.hooks hooks) (d.host host s.lastInput now) now raced s).worked.poll.listsBuilt = true := by
  have hcovers := covers_work d.sub h.covers (.loop (d.hooks hooks) (d.host host s.lastInput now) now raced)
  obtain ⟨hsane, hbuilt, hrows, hlisted⟩ := begun_spec hooks host now raced s h.sane
  have hissued : Steady (d.begun hooks host now raced s) (d.issued hooks host now raced s).1 := steady_issue _ _ _ _
  have hlists : (d.issued hooks host now raced s).1.listsBuilt = true := hissued.listsBuilt.trans hbuilt
  have hnever : ∀ {goal : Prop}, (d.issued hooks host now raced s).1.listsBuilt = false → goal :=
    fun hunbuilt => absurd (hlists.symm.trans hunbuilt) (by decide)
  have hpast := follows_past h.past h.sane.resolved (fun hunbuilt => (h.unbuilt hunbuilt).2)
    fun hlists => (hrows hlists).trans hissued.toRowsKept
  have hcall : (d.call (d.hooks hooks) (d.host host s.lastInput now) now raced s).worked
      = work d.sub s.worked (.loop (d.hooks hooks) (d.host host s.lastInput now) now raced) := by
    unfold Device.call
    dsimp only
    split <;> rfl
  rw [← hcall] at hcovers
  cases hchosen : d.chosen hooks host now raced s with
  | none =>
      rw [call_goesOn hooks host now raced s hchosen] at hcovers ⊢
      have hcurrent := h.current.changed h.sane.resolved (fun hunbuilt => (h.unbuilt hunbuilt).1) hrows
      have hgoing : Follows d (d.begun hooks host now raced s) none { s.worked.cycle with
          added := s.worked.cycle.added ++ (d.begun hooks host now raced s).queue.drop s.worked.poll.queue.length }
          s.notes :=
        ⟨hcurrent.listed, hcurrent.silent, hcurrent.static, hcurrent.answered, hcurrent.reached⟩
      have hhandled := hgoing.issued hooks host now raced s hsane
      have hlater := hsane.steady hissued
      generalize d.issued hooks host now raced s = issued at *
      exact ⟨⟨hcovers, hlater, hhandled, hpast, hnever⟩, hlists⟩
  | some full =>
      rw [call_starts hooks host now raced s hchosen] at hcovers ⊢
      have hcurrent := h.current.changed h.sane.resolved (fun hunbuilt => (h.unbuilt hunbuilt).1)
        fun hlists => (hrows hlists).trans hissued.toRowsKept
      have hstarting : Follows d (d.begun hooks host now raced s) none
          ⟨(d.begun hooks host now raced s).queue, [], [], []⟩
          ⟨if full then (d.begun hooks host now raced s).full else (d.begun hooks host now raced s).quick,
            (d.begun hooks host now raced s).semiStatic, [], true⟩ := by
        refine ⟨?_, by simp, by simp, by simp, by simp⟩
        intro item hitem
        refine ⟨hsane.reports item ?_, hlisted full hchosen item hitem⟩
        cases full with
        | true => exact List.mem_append_right _ hitem
        | false => exact List.mem_append_left _ hitem
      have hended : List.Forall₂ (Follows d (d.issued hooks host now raced s).1 none)
          (s.worked.past ++ [s.worked.cycle]) (s.past ++ [s.notes]) :=
        List.rel_append hpast (List.Forall₂.cons hcurrent List.Forall₂.nil)
      have hhandled := hstarting.issued hooks host now raced s hsane
      have hlater := hsane.steady hissued
      generalize d.issued hooks host now raced s = issued at *
      exact ⟨⟨hcovers, hlater, hhandled, hended, hnever⟩, hlists⟩

end Call

/-! ### Runs -/

theorem kept_answer (hooks : Hooks) (host : Host) {bytes : List Byte} {s s' : Survey} {pending : Option PollItem}
    (htransport : host.toTransport = d.transport) (h : Kept d s pending) (hlists : s.worked.poll.listsBuilt = true)
    (hanswer : d.answer host bytes (pending.map (requestOf hooks host)) s = some s') : Kept d s' none := by
  cases pending with
  | none =>
      obtain rfl := Option.some.inj hanswer
      exact h
  | some item =>
      replace hanswer : d.answer host bytes (some (requestOf hooks host item)) s = some s' := hanswer
      unfold requestOf at hanswer
      split at hanswer
      · -- a string is no report
        rename_i hstring
        obtain rfl := Option.some.inj hanswer
        refine ⟨h.covers, h.sane, ⟨h.current.listed, h.current.silent, h.current.static, ?_, h.current.reached⟩,
          h.past, h.unbuilt⟩
        intro hquiet handled hhandled hrequested htype
        rcases h.current.answered hquiet handled hhandled hrequested htype with hpending | hanswered
        · obtain rfl := Option.some.inj hpending
          rw [hstring] at htype
          exact absurd htype (by decide)
        · exact Or.inr hanswered
      · unfold Device.answer at hanswer
        dsimp only at hanswer
        split at hanswer
        · obtain rfl := Option.some.inj hanswer
          exact ⟨h.covers, h.sane, ⟨h.current.listed, fun hquiet => absurd hquiet (by simp), h.current.static,
            fun hquiet => absurd hquiet (by simp), h.current.reached⟩, h.past, h.unbuilt⟩
        · obtain ⟨worked, hhear, hlast⟩ := Option.bind_eq_some_iff.mp hanswer
          obtain rfl := Option.some.inj hlast
          obtain ⟨hsane, hcycle, hpast, hcovers, hbuilt, hkept, hreaches⟩ := hear_spec htransport h.sane hhear
          have hheard := h.of_poll (hcovers h.covers) hsane (by rw [hcycle]) (by rw [hcycle]) hpast hbuilt hkept
          have hcurrent := hheard.current
          refine ⟨hheard.covers, hheard.sane, ⟨hcurrent.listed, hcurrent.silent, hcurrent.static, ?_, ?_⟩,
            hheard.past, ?_⟩
          · intro hquiet handled hhandled hrequested htype
            rcases hcurrent.answered hquiet handled hhandled hrequested htype with hpending | ⟨a, ha, hkey⟩
            · obtain rfl := Option.some.inj hpending
              exact Or.inr ⟨_, List.mem_append_right _ (List.mem_singleton_self _), rfl, rfl⟩
            · exact Or.inr ⟨a, List.mem_append_left _ ha, hkey⟩
          · intro a ha
            rcases List.mem_append.mp ha with hbefore | hnew
            · exact hcurrent.reached a hbefore
            · rw [List.mem_singleton.mp hnew]
              exact hreaches
          · intro hunbuilt
            rw [hbuilt, hlists] at hunbuilt
            exact absurd hunbuilt (by decide)

/-- An event of the poll that asks for nothing. -/
theorem Kept.steady {s : Survey} (h : Kept d s none) {w : Worked} (hcovers : Covers w)
    (hsteady : Steady s.worked.poll w.poll) (hstart : w.cycle.start = s.worked.cycle.start)
    (hhandled : w.cycle.handled = s.worked.cycle.handled) (hpast : w.past = s.worked.past) :
    Kept d { s with worked := w } none :=
  h.of_poll hcovers (h.sane.steady hsteady) hstart hhandled hpast hsteady.listsBuilt fun _ => hsteady.toRowsKept

theorem Kept.hear {s : Survey} (h : Kept d s none) {host : Host} {reportId reportType : Nat} {bytes : List Byte}
    {worked : Worked} (htransport : host.toTransport = d.transport)
    (hhear : d.hear host reportId reportType bytes s.worked = some worked) : Kept d { s with worked } none := by
  obtain ⟨hsane, hcycle, hpast, hcovers, hbuilt, hkept, -⟩ := hear_spec htransport h.sane hhear
  exact h.of_poll (hcovers h.covers) hsane (by rw [hcycle]) (by rw [hcycle]) hpast hbuilt hkept

theorem survey_loop (hooks : Hooks) (host : Host) (now : Nat) (raced : Bool) (bytes : List Byte) (s : Survey) :
    survey d s (.loop hooks host now raced bytes)
      = d.answer (d.host host s.lastInput now) bytes
        ((d.issued hooks host now raced s).2.map (requestOf (d.hooks hooks) (d.host host s.lastInput now)))
        (d.call (d.hooks hooks) (d.host host s.lastInput now) now raced s) := by
  unfold survey pollStep loop
  rfl

theorem kept_survey {s s' : Survey} {event : LineEvent} (h : Kept d s none) (hstep : survey d s event = some s') :
    Kept d s' none := by
  cases event with
  | loop hooks host now raced bytes =>
      obtain ⟨hcall, hlists⟩ := kept_call hooks host now raced s h
      rw [survey_loop] at hstep
      exact kept_answer (d.hooks hooks) (d.host host s.lastInput now) rfl hcall hlists hstep
  | inputReport host reportId bytes now =>
      obtain ⟨worked, hhear, hlast⟩ := Option.bind_eq_some_iff.mp hstep
      obtain rfl := Option.some.inj hlast
      have hheard := h.hear rfl hhear
      exact ⟨hheard.covers, hheard.sane, hheard.current, hheard.past, hheard.unbuilt⟩
  | readBack host reportId reportType bytes now =>
      obtain ⟨worked, hhear, hlast⟩ := Option.bind_eq_some_iff.mp hstep
      obtain rfl := Option.some.inj hlast
      exact h.hear rfl hhear
  | noteDataChanged =>
      obtain rfl := Option.some.inj hstep
      exact h.steady (covers_work d.sub h.covers _) (Steady.of_same rfl rfl rfl rfl rfl rfl) rfl rfl rfl
  | pollSoon item =>
      obtain rfl := Option.some.inj hstep
      have hsteady : Steady s.worked.poll (pollSoon item s.worked.poll) := by
        unfold pollSoon
        split
        · exact Steady.refl _
        · exact Steady.of_same rfl rfl rfl rfl rfl rfl
      have hcovers := covers_work d.sub h.covers (.pollSoon item)
      unfold work at hcovers ⊢
      dsimp only at hcovers ⊢
      split at hcovers
      · rename_i hpending
        rw [if_pos hpending]
        exact h.steady hcovers hsteady rfl rfl rfl
      · rename_i hpending
        rw [if_neg hpending]
        exact h.steady hcovers hsteady rfl rfl rfl
  | invalidateReport reportType reportId =>
      obtain rfl := Option.some.inj hstep
      have hsteady : Steady s.worked.poll (invalidateReport reportType reportId s.worked.poll) := by
        unfold invalidateReport
        split
        · exact Steady.of_same rfl rfl rfl rfl rfl rfl
        · exact Steady.refl _
      exact h.steady (covers_work d.sub h.covers _) hsteady rfl rfl rfl
  | engine event =>
      have hreport : ∀ t reportId reportType bytes, event ≠ .report t reportId reportType bytes := by
        rintro t reportId reportType bytes rfl
        exact absurd hstep (by simp [survey])
      have hbind : (step d.sub d.depth s.worked.poll.engine event).bind
          (fun engine => some { s with worked := work d.sub s.worked (.engine engine) }) = some s' := by
        cases event with
        | report t reportId reportType bytes => exact absurd rfl (hreport t reportId reportType bytes)
        | _ => exact hstep
      obtain ⟨engine, hengine, hlast⟩ := Option.bind_eq_some_iff.mp hbind
      obtain rfl := Option.some.inj hlast
      have honward := onward_step hreport hengine
      exact h.steady (covers_work d.sub h.covers _) ⟨⟨honward, rfl, rfl⟩, rfl, rfl, rfl⟩ rfl rfl rfl

/-- The cycles that are over, each with its notes. -/
def Survey.finished (s : Survey) : List (Cycle × Notes) :=
  s.worked.past.zip s.past ++ if s.worked.poll.exhausted then [(s.worked.cycle, s.notes)] else []

theorem follows_of_finished {s : Survey} (h : Kept d s none) {cycle : Cycle × Notes} (hmem : cycle ∈ s.finished) :
    cycle.1.Complete ∧ Follows d s.worked.poll none cycle.1 cycle.2 := by
  unfold Survey.finished at hmem
  rcases List.mem_append.mp hmem with hpast | hcurrent
  · refine ⟨h.covers.past cycle.1 (List.of_mem_zip hpast).1, ?_⟩
    exact (List.forall₂_iff_zip.mp h.past).2 hpast
  · split at hcurrent
    · rename_i hexhausted
      rw [List.mem_singleton.mp hcurrent]
      exact ⟨h.covers.complete (by simpa [Poll.exhausted] using hexhausted), h.current⟩
    · exact absurd hcurrent (by simp)

/-- While the poll says that it reads the INPUT values too, each living row with an INPUT field has a field in a listed report, and a cycle of a list, worked off while the device was silent and answered, gives each such row a value from each listed report with a field of it that is neither static nor semi-static. -/
theorem input_silence_is_sound (d : Device) (data : UPSData) (events : List LineEvent) (s : Survey)
    (hrun : events.foldlM (survey d) (Survey.initial data) = some s)
    (hpolled : s.worked.poll.inputValuesPolled = true) (k : Nat) (b : Bound)
    (hrow : s.worked.poll.engine.rows[k]? = some b) (hliving : isLivingRow b = true)
    (hinput : ∃ u ∈ Bound.usages b d.transport.usages, u.reportType = 1) :
    (∃ item ∈ s.worked.poll.quick ++ s.worked.poll.full, hasFieldIn d.transport.usages item.reportType item.id b)
      ∧ ∀ cycle ∈ s.finished, cycle.2.quiet = true → ∀ item ∈ cycle.2.listed,
        hasFieldIn d.transport.usages item.reportType item.id b →
        (item.reportType, item.id) ∉ s.worked.poll.staticReport → (item.reportType, item.id) ∉ cycle.2.semiStatic →
        ∃ a ∈ cycle.2.answers, a.reportType = item.reportType ∧ a.id = item.id ∧ ∃ v, a.Gives d k v := by
  have hkept : Kept d s none :=
    walk_invariant (P := fun s => Kept d s none) (kept_initial d data)
      (fun _ _ _ _ hs hstep => kept_survey hs hstep) hrun
  refine ⟨(hkept.sane.covered hpolled).2 b (List.mem_of_getElem? hrow) hliving hinput, ?_⟩
  intro cycle hcycle hquiet item hitem hfield hstatic hsemi
  obtain ⟨hcomplete, hfollows⟩ := follows_of_finished hkept hcycle
  obtain ⟨htype, hlisted⟩ := hfollows.listed item hitem
  have hstart := hlisted.resolve_right hsemi
  obtain ⟨handled, hhandled, rfl⟩ := List.mem_map.mp (hcomplete.inOrder.subset hstart)
  have hrequested : handled.2 = .requested := by
    cases hkind : handled.2 with
    | requested => rfl
    | freshFromInput => exact absurd hkind (hfollows.silent hquiet handled hhandled)
    | staticAndKnown => exact absurd (hfollows.static handled hhandled hkind) hstatic
  rcases hfollows.answered hquiet handled hhandled hrequested htype with hpending | ⟨a, ha, hkind, hid⟩
  · exact absurd hpending (by simp)
  · refine ⟨a, ha, hkind, hid, hfollows.reached a ha k b hrow hliving ?_⟩
    rw [hkind, hid]
    exact hfield

/-- The charge of the battery and a delay to be written, both in INPUT reports only. -/
def pipeDevice : Device where
  sub := { bareSubdriver with
    hid2nut :=
      [chargeRow.info, { chargeRow.info with
        infoType := "load.off.delay", hidpath := some "UPS.Output.DelayBeforeShutdown", hidflags := huTypeCmd }] }
  transport := (bareHost
    [{ chargeUsage with reportType := 1 },
      { chargeUsage with
        reportType := 1, reportId := 13, usage := 0x00840057, path := "UPS.Output.DelayBeforeShutdown" }]).toTransport
  depth := 1

/-- The charge comes once by itself; four seconds later a full cycle asks for both reports. -/
def silentEvents : List LineEvent :=
  [ .inputReport (bareHost []) 12 [50] 1000, .loop Hooks.generic (bareHost []) 5000 false [40],
    .loop Hooks.generic (bareHost []) 5050 false [20] ]

def silentSurvey : Survey :=
  (silentEvents.foldlM (survey pipeDevice) (Survey.initial UPSData.empty)).get (by decide +kernel)

def silentCycle : Cycle × Notes := silentSurvey.finished[1]?.get (by decide +kernel)

theorem mem_silentCycle : silentCycle ∈ silentSurvey.finished := List.mem_of_getElem? (Option.some_get _).symm

theorem input_silence_is_sound_charge :
    silentSurvey.worked.poll.inputValuesPolled = true ∧ silentCycle ∈ silentSurvey.finished
      ∧ ⟨1, 12, 0⟩ ∈ silentCycle.2.listed
      ∧ ∃ a ∈ silentCycle.2.answers, a.reportType = 1 ∧ a.id = 12 ∧ ∃ v, a.Gives pipeDevice 0 v := by
  have hrow : silentSurvey.worked.poll.engine.rows[0]?
      = some (silentSurvey.worked.poll.engine.rows[0]?.get (by decide +kernel)) := (Option.some_get _).symm
  obtain ⟨hpolled, hquiet, hlisted, hstatic, hsemi⟩ : silentSurvey.worked.poll.inputValuesPolled = true
      ∧ silentCycle.2.quiet = true ∧ ⟨1, 12, 0⟩ ∈ silentCycle.2.listed
      ∧ (1, 12) ∉ silentSurvey.worked.poll.staticReport ∧ (1, 12) ∉ silentCycle.2.semiStatic := by
    decide +kernel
  obtain ⟨-, hgives⟩ := input_silence_is_sound pipeDevice UPSData.empty silentEvents silentSurvey
    (Option.some_get _).symm hpolled 0 _ hrow (by decide +kernel) (by decide +kernel)
  exact ⟨hpolled, mem_silentCycle, hlisted, hgives silentCycle mem_silentCycle hquiet ⟨1, 12, 0⟩ hlisted
    ⟨{ chargeUsage with reportType := 1 }, by decide +kernel, rfl, rfl⟩ hstatic hsemi⟩

/-- The row of a command counts as read before the end of the first walk, and still no answer of a cycle gives it a value. -/
theorem command_row_takes_no_value :
    silentSurvey.worked.poll.inputValuesPolled = true ∧ silentSurvey.worked.poll.engine.nutInitDone = false
      ∧ (1, 13) ∉ silentSurvey.worked.poll.staticReport
      ∧ silentCycle ∈ silentSurvey.finished ∧ silentCycle.2.quiet = true ∧ ⟨1, 13, 0⟩ ∈ silentCycle.2.listed
      ∧ (1, 13) ∉ silentCycle.2.semiStatic
      ∧ ∃ b ∈ silentSurvey.worked.poll.engine.rows,
        readsRow silentSurvey.worked.poll.engine b = true ∧ b.role ≠ .dead
          ∧ (∃ u ∈ Bound.usages b pipeDevice.transport.usages, u.reportType = 1 ∧ u.reportId = 13) ∧ b.has = false
          ∧ ∀ a ∈ silentCycle.2.answers, givenValue pipeDevice.transport a.id a.reportType a.bytes b = none := by
  have hrun : silentSurvey.worked.poll.inputValuesPolled = true ∧ silentSurvey.worked.poll.engine.nutInitDone = false
      ∧ (1, 13) ∉ silentSurvey.worked.poll.staticReport ∧ silentCycle.2.quiet = true
      ∧ ⟨1, 13, 0⟩ ∈ silentCycle.2.listed ∧ (1, 13) ∉ silentCycle.2.semiStatic := by
    decide +kernel
  obtain ⟨hpolled, hinit, hstatic, hquiet, hlisted, hsemi⟩ := hrun
  exact ⟨hpolled, hinit, hstatic, mem_silentCycle, hquiet, hlisted, hsemi, by decide +kernel⟩

end GenericDriver

end EspNut
