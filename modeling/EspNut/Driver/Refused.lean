import EspNut.Driver.Cycles

/-!
# Refused reports stay out of the poll

The lists a driver builds hold only reports it accepts. A queue is made of these lists, of strings and of the reports the driver asks for soon, so the poll requests no refused report unless the driver names one itself.
-/

namespace EspNut.GenericDriver

open Lib NutTable

def PollItem.Accepted (accept : Nat → Nat → Bool) (item : PollItem) : Prop :=
  item.reportType = stringItem ∨ accept item.reportType item.id = true

/-- Nothing of the poll is of a refused report. -/
structure Filtered (accept : Nat → Nat → Bool) (p : Poll) : Prop where
  quick : ∀ item ∈ p.quick, item.Accepted accept
  full : ∀ item ∈ p.full, item.Accepted accept
  queue : ∀ item ∈ p.queue, item.Accepted accept

/-- What the driver itself puts into the poll, its own lists and reports asked for soon, is accepted. -/
def OwnItemsAccepted (accept : Nat → Nat → Bool) : PollEvent → Prop
  | .loop hooks _ _ _ =>
      ∀ lists ∈ hooks.ownPollLists, ∀ item ∈ lists.1 ++ lists.2, item.Accepted accept
  | .pollSoon item => item.Accepted accept
  | _ => True

instance (accept : Nat → Nat → Bool) (item : PollItem) : Decidable (item.Accepted accept) :=
  inferInstanceAs (Decidable (_ ∨ _))

instance (accept : Nat → Nat → Bool) : (event : PollEvent) → Decidable (OwnItemsAccepted accept event)
  | .loop hooks _ _ _ =>
      inferInstanceAs (Decidable (∀ lists ∈ hooks.ownPollLists, ∀ item ∈ lists.1 ++ lists.2, item.Accepted accept))
  | .pollSoon item => inferInstanceAs (Decidable (item.Accepted accept))
  | .noteDataChanged | .invalidateReport .. | .report .. | .engine _ => isTrue trivial

theorem filtered_initial (accept : Nat → Nat → Bool) (data : UPSData) : Filtered accept (Poll.initial data) :=
  ⟨by simp [Poll.initial], by simp [Poll.initial], by simp [Poll.initial]⟩

variable {sub : Subdriver} {accept : Nat → Nat → Bool} {p : Poll}

theorem Filtered.of_queue (h : Filtered accept p) {p' : Poll} (hquick : p'.quick = p.quick) (hfull : p'.full = p.full)
    (hqueue : ∀ item ∈ p'.queue, item.Accepted accept) : Filtered accept p' :=
  ⟨by rw [hquick]; exact h.quick, by rw [hfull]; exact h.full, hqueue⟩

theorem Filtered.of_same (h : Filtered accept p) {p' : Poll} (hquick : p'.quick = p.quick) (hfull : p'.full = p.full)
    (hqueue : p'.queue = p.queue) : Filtered accept p' :=
  h.of_queue hquick hfull (by rw [hqueue]; exact h.queue)

/-! ### The lists -/

/-- A report of the list after a note is one of those before it or the noted one. -/
theorem key_noteReport {reports : List Report} {report r : Report} (h : r ∈ noteReport reports report) :
    (∃ before ∈ reports, before.reportType = r.reportType ∧ before.id = r.id)
      ∨ (report.reportType = r.reportType ∧ report.id = r.id) := by
  induction reports with
  | nil =>
      obtain rfl := List.mem_singleton.mp h
      exact Or.inr ⟨rfl, rfl⟩
  | cons first rest ih =>
      unfold noteReport at h
      split at h
      · rcases List.mem_cons.mp h with rfl | hrest
        · exact Or.inl ⟨first, List.mem_cons_self, rfl, rfl⟩
        · exact Or.inl ⟨r, List.mem_cons_of_mem _ hrest, rfl, rfl⟩
      · rcases List.mem_cons.mp h with rfl | hrest
        · exact Or.inl ⟨r, List.mem_cons_self, rfl, rfl⟩
        · rcases ih hrest with ⟨before, hbefore, hkey⟩ | hkey
          · exact Or.inl ⟨before, List.mem_cons_of_mem _ hbefore, hkey⟩
          · exact Or.inr hkey

theorem usage_of_mem_acceptedReports {usages : List HIDUsageDef} {r : Report} (h : r ∈ acceptedReports sub usages) :
    ∃ u ∈ usages, isPollType u.reportType = true ∧ sub.acceptPollReport u.reportType u.reportId = true
      ∧ u.reportType = r.reportType ∧ u.reportId = r.id := by
  have hnoted : ∀ (kept : List HIDUsageDef) (noted : List Report) (r : Report),
      r ∈ kept.foldl (fun reports u => noteReport reports
        ⟨u.reportType, u.reportId, isStatusUsage u || isQuickPollStatusUsage sub u⟩) noted →
      (∃ before ∈ noted, before.reportType = r.reportType ∧ before.id = r.id)
        ∨ ∃ u ∈ kept, u.reportType = r.reportType ∧ u.reportId = r.id := by
    intro kept
    induction kept with
    | nil => exact fun noted r hr => Or.inl ⟨r, hr, rfl, rfl⟩
    | cons u rest ih =>
        intro noted r hr
        rcases ih _ r hr with ⟨before, hbefore, htype, hid⟩ | ⟨v, hv, hkey⟩
        · rcases key_noteReport hbefore with ⟨first, hfirst, htype', hid'⟩ | ⟨htype', hid'⟩
          · exact Or.inl ⟨first, hfirst, htype'.trans htype, hid'.trans hid⟩
          · exact Or.inr ⟨u, List.mem_cons_self, htype'.trans htype, hid'.trans hid⟩
        · exact Or.inr ⟨v, List.mem_cons_of_mem _ hv, hkey⟩
  rcases hnoted _ [] r h with ⟨before, hbefore, -⟩ | ⟨u, hu, htype, hid⟩
  · exact absurd hbefore (by simp)
  · obtain ⟨hmem, hkept⟩ := List.mem_filter.mp hu
    rw [Bool.and_eq_true] at hkept
    exact ⟨u, hmem, hkept.1, hkept.2, htype, hid⟩

theorem report_of_buildPollLists {hooks : Hooks} {host : Host} {item : PollItem}
    (h : item ∈ (buildPollLists sub hooks host p).1 ++ (buildPollLists sub hooks host p).2) :
    ∃ r ∈ acceptedReports sub host.usages, r.item = item := by
  unfold buildPollLists at h
  rcases List.mem_append.mp h with hquick | hfull
  · obtain ⟨r, hr, hitem⟩ := List.mem_map.mp hquick
    exact ⟨r, (List.mem_filter.mp (List.mem_filter.mp hr).1).1, hitem⟩
  · obtain ⟨r, hr, hitem⟩ := List.mem_map.mp hfull
    exact ⟨r, (List.mem_filter.mp (List.mem_filter.mp hr).1).1, hitem⟩

theorem accepted_buildPollLists {hooks : Hooks} {host : Host} {item : PollItem}
    (h : item ∈ (buildPollLists sub hooks host p).1 ++ (buildPollLists sub hooks host p).2) :
    item.Accepted sub.acceptPollReport := by
  obtain ⟨r, hr, rfl⟩ := report_of_buildPollLists h
  obtain ⟨u, -, -, haccept, htype, hid⟩ := usage_of_mem_acceptedReports hr
  rw [htype, hid] at haccept
  exact Or.inr haccept

section Hooks

variable {hooks : Hooks} {host : Host}
  (hown : ∀ lists ∈ hooks.ownPollLists, ∀ item ∈ lists.1 ++ lists.2, item.Accepted sub.acceptPollReport)
include hown

theorem accepted_pollLists {item : PollItem}
    (h : item ∈ (pollLists sub hooks host p).1 ++ (pollLists sub hooks host p).2) :
    item.Accepted sub.acceptPollReport := by
  unfold pollLists at h
  cases hlists : hooks.ownPollLists with
  | none =>
      rw [hlists] at h
      exact accepted_buildPollLists h
  | some lists =>
      rw [hlists] at h
      exact hown lists hlists item h

theorem filtered_withLists (h : Filtered sub.acceptPollReport p) :
    Filtered sub.acceptPollReport (withLists sub hooks host p) :=
  ⟨fun _ hitem => accepted_pollLists hown (List.mem_append_left _ hitem),
    fun _ hitem => accepted_pollLists hown (List.mem_append_right _ hitem), h.queue⟩

end Hooks

/-! ### Strings -/

theorem filtered_appendString (h : Filtered accept p) (index : Nat) : Filtered accept (appendString p index) := by
  unfold appendString
  split
  · exact h
  · refine ⟨h.quick, h.full, ?_⟩
    intro item hitem
    rcases List.mem_append.mp hitem with hbefore | hstring
    · exact h.queue item hbefore
    · rw [List.mem_singleton.mp hstring]
      exact Or.inl rfl

theorem filtered_appendNewStrings (hooks : Hooks) (host : Host) (h : Filtered accept p) :
    Filtered accept (appendNewStrings hooks host p) := by
  unfold appendNewStrings
  generalize hooks.ownStringRequests.getD (collectStringRequests hooks host p) = strings
  induction strings generalizing p with
  | nil => exact h
  | cons index rest ih => exact ih (filtered_appendString h index)

/-! ### One call -/

theorem filtered_bindRowsOnce (t : Transport) (h : Filtered accept p) : Filtered accept (bindRowsOnce sub t p) := by
  unfold bindRowsOnce
  split
  · exact h
  · exact h.of_same rfl rfl rfl

theorem filtered_recheckStrings (hooks : Hooks) (host : Host) (h : Filtered accept p) :
    Filtered accept (recheckStrings hooks host p) := by
  unfold recheckStrings
  split
  · have hrechecked : Filtered accept { p with stringsRechecked := true } := h.of_same rfl rfl rfl
    exact filtered_appendNewStrings hooks host hrechecked
  · exact h

section Prepare

variable {hooks : Hooks} {host : Host}
  (hown : ∀ lists ∈ hooks.ownPollLists, ∀ item ∈ lists.1 ++ lists.2, item.Accepted sub.acceptPollReport)
include hown

theorem filtered_buildOnce (h : Filtered sub.acceptPollReport p) :
    Filtered sub.acceptPollReport (buildOnce sub hooks host p) := by
  unfold buildOnce
  split
  · exact h
  · have hlists : Filtered sub.acceptPollReport (withLists sub hooks host (bindRowsOnce sub host.toTransport p)) :=
      filtered_withLists hown (filtered_bindRowsOnce host.toTransport h)
    exact hlists.of_same rfl rfl rfl

theorem filtered_finishCycle (h : Filtered sub.acceptPollReport p) :
    Filtered sub.acceptPollReport (finishCycle sub hooks host p) := by
  have hended : Filtered sub.acceptPollReport (if p.exhausted && p.cycleFull && p.stringsRechecked then
      { p with engine := { p.engine with firstFullDone := true } } else p) := by
    split
    · exact h.of_same rfl rfl rfl
    · exact h
  have hpruned : ∀ p : Poll, Filtered sub.acceptPollReport p → Filtered sub.acceptPollReport
      (if p.listsBuilt && p.engine.nutBound && p.engine.nutInitDone && !p.listsPruned then
        pruneFullPoll sub hooks host p else p) := by
    intro p h
    split
    · have hmarked : Filtered sub.acceptPollReport { p with listsPruned := true } := h.of_same rfl rfl rfl
      exact filtered_withLists hown hmarked
    · exact h
  have hclassified : ∀ p : Poll, Filtered sub.acceptPollReport p → Filtered sub.acceptPollReport
      (if p.engine.firstFullDone && p.engine.nutBound && p.engine.nutInitDone && !p.semiClassified then
        classifySemiStatic host p else p) := by
    intro p h
    split
    · exact h.of_same rfl rfl rfl
    · exact h
  exact hclassified _ (hpruned _ hended)

variable (host) in
theorem filtered_prepare (h : Filtered sub.acceptPollReport p) :
    Filtered sub.acceptPollReport (prepare sub hooks host p) := by
  have hrefreshed : Filtered sub.acceptPollReport (refreshData sub hooks host p) := h.of_same rfl rfl rfl
  exact filtered_finishCycle hown (filtered_recheckStrings hooks host (filtered_buildOnce hown hrefreshed))

end Prepare

theorem filtered_takeChange (host : Host) (h : Filtered accept p) : Filtered accept (takeChange host p) := by
  unfold takeChange
  dsimp only
  split
  · exact h.of_same rfl rfl rfl
  · exact h.of_same rfl rfl rfl

/-- A new cycle starts from a list, behind the missing strings when it is a full one. -/
theorem filtered_startCycle (hooks : Hooks) (host : Host) (full : Bool) (now : UInt32) (h : Filtered accept p) :
    Filtered accept (startCycle hooks host full now p) := by
  have hcleared : Filtered accept (clearCycle full p) := ⟨h.quick, h.full, by simp [clearCycle]⟩
  unfold startCycle
  extract_lets cleared strings stamp
  have hstrings : Filtered accept strings := by
    unfold strings
    split
    · exact filtered_takeChange host (filtered_appendNewStrings hooks host hcleared)
    · exact hcleared
  refine ⟨hstrings.quick, hstrings.full, ?_⟩
  intro item hitem
  rcases List.mem_append.mp hitem with hqueued | hlisted
  · exact hstrings.queue item hqueued
  · unfold cycleReports at hlisted
    have hlist := (List.mem_filter.mp hlisted).1
    split at hlist
    · exact hstrings.full item hlist
    · exact hstrings.quick item hlist

theorem filtered_pollSoon {item : PollItem} (haccepted : item.Accepted accept) (h : Filtered accept p) :
    Filtered accept (pollSoon item p) := by
  unfold pollSoon
  split
  · exact h
  · refine ⟨h.quick, h.full, ?_⟩
    intro queued hqueued
    rcases List.mem_append.mp hqueued with hbefore | hafter
    · exact h.queue queued (List.mem_of_mem_take hbefore)
    · rcases List.mem_cons.mp hafter with rfl | hrest
      · exact haccepted
      · exact h.queue queued (List.mem_of_mem_drop hrest)

theorem filtered_noteRace (raced : Bool) (h : Filtered accept p) : Filtered accept (noteRace raced p) :=
  h.of_same rfl rfl rfl

theorem filtered_beginCycle {hooks : Hooks} (host : Host)
    (hown : ∀ lists ∈ hooks.ownPollLists, ∀ item ∈ lists.1 ++ lists.2, item.Accepted sub.acceptPollReport)
    (now : UInt32) (raced : Bool) (h : Filtered sub.acceptPollReport p) :
    Filtered sub.acceptPollReport (beginCycle sub hooks host now raced p).1 := by
  have hraced := filtered_noteRace raced (filtered_prepare host hown h)
  unfold beginCycle
  dsimp only
  cases dueCycle hooks now (prepare sub hooks host p) with
  | none => exact hraced
  | some full => exact filtered_startCycle hooks host full now hraced

/-- The item a call requests is in its queue. -/
theorem filtered_issue (hooks : Hooks) (host : Host) (now : UInt32) (h : Filtered accept p) :
    Filtered accept (issue hooks host now p).1
      ∧ ∀ item, (issue hooks host now p).2 = some item → item.Accepted accept := by
  rcases issue_cases hooks host now p with ⟨-, hissue⟩ | ⟨-, -, hissue⟩ | ⟨-, item, hnext, hissue⟩
  · rw [hissue]
    exact ⟨h, by simp⟩
  · rw [hissue]
    exact ⟨h.of_same rfl rfl rfl, by simp⟩
  · rw [hissue]
    refine ⟨h.of_same rfl rfl rfl, ?_⟩
    intro issued hissued
    obtain rfl := Option.some.inj hissued
    exact h.queue _ (List.mem_of_getElem? hnext)

theorem requestOf_accepted {hooks : Hooks} {host : Host} {item : PollItem} (haccepted : item.Accepted accept)
    {id reportType length : Nat} (h : requestOf hooks host item = .requestReport id reportType length) :
    accept reportType id = true := by
  unfold requestOf at h
  split at h
  · exact absurd h (by simp)
  · rename_i hreport
    obtain ⟨rfl, rfl, -⟩ := Request.requestReport.inj h
    exact haccepted.resolve_left hreport

theorem filtered_invalidateReport (reportType reportId : Nat) (h : Filtered accept p) :
    Filtered accept (invalidateReport reportType reportId p) := by
  unfold invalidateReport
  split
  · exact h.of_same rfl rfl rfl
  · exact h

/-- A step keeps the poll free of refused reports and requests none. -/
theorem filtered_pollStep {event : PollEvent} (hown : OwnItemsAccepted sub.acceptPollReport event)
    (h : Filtered sub.acceptPollReport p) :
    Filtered sub.acceptPollReport (pollStep sub p event).1
      ∧ ∀ id reportType length, (pollStep sub p event).2 = some (.requestReport id reportType length) →
        sub.acceptPollReport reportType id = true := by
  cases event with
  | loop hooks host now raced =>
      obtain ⟨hkept, hitem⟩ := filtered_issue hooks host (millis now)
        (filtered_beginCycle host hown (millis now) raced h)
      rw [pollStep, loop]
      refine ⟨hkept, ?_⟩
      intro id reportType length hrequest
      obtain ⟨item, hissued, hrequested⟩ := Option.map_eq_some_iff.mp hrequest
      exact requestOf_accepted (hitem item hissued) hrequested
  | noteDataChanged => exact ⟨h.of_same rfl rfl rfl, by simp [pollStep]⟩
  | pollSoon item => exact ⟨filtered_pollSoon hown h, by simp [pollStep]⟩
  | invalidateReport reportType reportId =>
      exact ⟨filtered_invalidateReport reportType reportId h, by simp [pollStep]⟩
  | report host reportId reportType bytes engine =>
      refine ⟨?_, by simp [pollStep]⟩
      have hdecoded : Filtered sub.acceptPollReport (decodeReport sub host reportId reportType bytes p) := by
        unfold decodeReport
        split
        · exact h
        · exact filtered_bindRowsOnce host.toTransport (h.of_same rfl rfl rfl)
      exact hdecoded.of_same rfl rfl rfl
  | engine engine => exact ⟨h.of_same rfl rfl rfl, by simp [pollStep]⟩

end EspNut.GenericDriver

/-! ### The drivers that refuse reports -/

namespace EspNut.CyberPowerDriver

def firstVendorReport : Nat := 130

def hasVendorReports (usages : List HIDUsageDef) : Bool := usages.any fun u => firstVendorReport ≤ u.reportId

/-- Vendor reports and report 6 hang some firmwares; report 4 hung one with vendor reports. -/
def acceptPollReport (vendorLayout : Bool) (_reportType reportId : Nat) : Bool :=
  !(decide (firstVendorReport ≤ reportId) || reportId = 6 || (reportId = 4 && vendorLayout))

end EspNut.CyberPowerDriver

namespace EspNut.EatonDriver

/-- Reports 254 and 255 freeze or stall the device. -/
def acceptPollReport (_reportType reportId : Nat) : Bool := reportId != 254 && reportId != 255

end EspNut.EatonDriver
