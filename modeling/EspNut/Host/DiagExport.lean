import EspNut.Host.Sweep
import EspNut.Lib.SortedInsert
import Mathlib.Data.List.Induction
import Mathlib.Data.List.Nodup
import Mathlib.Data.List.Perm.Subperm

/-!
# The reports of the diagnostics export

Over any run the read behind the export takes the reports of its list one after another, each once, and it is done when it has all of them. Its results join the reports of the poll in the order of their keys, and a report that the poll has stays the poll's.
-/

namespace EspNut

open Lib SortedInsert

/-! ### The list -/

namespace DiagSweep

/-- A FEATURE report that is neither cached nor refused. -/
def wanted (cachedKeys : List (Nat × Nat)) (accept : Nat → Nat → Bool) (u : HIDUsageDef) : Bool :=
  u.reportType = feature && !cachedKeys.contains (u.reportType, u.reportId) && accept u.reportType u.reportId

/-- The reports to read, each once, in the order in which they first appear in the descriptor. -/
def wantedReports (usages : List HIDUsageDef) (cachedKeys : List (Nat × Nat)) (accept : Nat → Nat → Bool) : List (Nat × Nat) :=
  ((usages.filter (wanted cachedKeys accept)).map fun u => (u.reportType, u.reportId)).eraseDups

variable {usages : List HIDUsageDef} {cachedKeys : List (Nat × Nat)} {accept : Nat → Nat → Bool}

theorem mem_wantedReports_iff {item : Nat × Nat} :
    item ∈ wantedReports usages cachedKeys accept
      ↔ ∃ u ∈ usages, wanted cachedKeys accept u = true ∧ (u.reportType, u.reportId) = item := by
  unfold wantedReports
  rw [List.mem_eraseDups, List.mem_map]
  simp only [List.mem_filter, and_assoc]

theorem feature_of_wanted {u : HIDUsageDef} (h : wanted cachedKeys accept u = true) : u.reportType = feature := by
  unfold wanted at h
  rw [Bool.and_eq_true, Bool.and_eq_true] at h
  exact of_decide_eq_true h.1.1

theorem feature_of_mem_wantedReports {item : Nat × Nat} (h : item ∈ wantedReports usages cachedKeys accept) :
    item.1 = feature := by
  obtain ⟨u, -, hwanted, rfl⟩ := mem_wantedReports_iff.mp h
  exact feature_of_wanted hwanted

theorem eraseDups_concat {α : Type} [BEq α] [LawfulBEq α] (l : List α) (a : α) :
    (l ++ [a]).eraseDups = if a ∈ l then l.eraseDups else l.eraseDups ++ [a] := by
  rw [List.eraseDups_append]
  by_cases ha : a ∈ l
  · have hnone : [a].removeAll l = [] := by simp [List.removeAll, ha]
    rw [if_pos ha, hnone, List.eraseDups_nil, List.append_nil]
  · have hone : [a].removeAll l = [a] := by simp [List.removeAll, ha]
    rw [if_neg ha, hone, List.eraseDups_cons, List.filter_nil, List.eraseDups_nil]

theorem nodup_eraseDups {α : Type} [BEq α] [LawfulBEq α] (l : List α) : l.eraseDups.Nodup := by
  induction l using List.reverseRecOn with
  | nil => exact List.nodup_nil
  | append_singleton l a ih =>
      rw [eraseDups_concat]
      split
      · exact ih
      · rename_i ha
        have hnew : a ∉ l.eraseDups := fun h => ha (List.mem_eraseDups.mp h)
        exact List.nodup_append.mpr ⟨ih, List.nodup_singleton a, fun b hb c hc heq =>
          hnew (List.mem_singleton.mp hc ▸ heq ▸ hb)⟩

theorem nodup_wantedReports : (wantedReports usages cachedKeys accept).Nodup := nodup_eraseDups _

theorem any_id_iff (u : HIDUsageDef) (hu : u.reportType = feature) :
    ((wantedReports usages cachedKeys accept).any fun item => item.2 = u.reportId) = true
      ↔ (u.reportType, u.reportId) ∈ wantedReports usages cachedKeys accept := by
  rw [List.any_eq_true]
  constructor
  · rintro ⟨item, hitem, hid⟩
    have hsame : item = (u.reportType, u.reportId) :=
      Prod.ext ((feature_of_mem_wantedReports hitem).trans hu.symm) (of_decide_eq_true hid)
    rw [← hsame]
    exact hitem
  · intro h
    exact ⟨_, h, decide_eq_true rfl⟩

/-- A field more of the descriptor adds its report, when it is wanted and new. -/
theorem wantedReports_append (usages : List HIDUsageDef) (u : HIDUsageDef) :
    wantedReports (usages ++ [u]) cachedKeys accept
      = push cachedKeys accept (wantedReports usages cachedKeys accept) u := by
  have hcached : (cachedKeys.any fun key => key = (u.reportType, u.reportId))
      = cachedKeys.contains (u.reportType, u.reportId) := by
    rw [Bool.eq_iff_iff, List.any_eq_true, List.contains_iff_mem]
    simp
  by_cases hwanted : wanted cachedKeys accept u = true
  · have hfeature := feature_of_wanted hwanted
    have hlist : wantedReports (usages ++ [u]) cachedKeys accept
        = if (u.reportType, u.reportId) ∈ wantedReports usages cachedKeys accept then wantedReports usages cachedKeys accept
          else wantedReports usages cachedKeys accept ++ [(u.reportType, u.reportId)] := by
      unfold wantedReports
      rw [List.filter_append, List.filter_cons_of_pos hwanted, List.filter_nil, List.map_append, List.map_singleton,
        eraseDups_concat]
      simp only [List.mem_eraseDups]
    unfold wanted at hwanted
    rw [Bool.and_eq_true, Bool.and_eq_true, Bool.not_eq_true'] at hwanted
    obtain ⟨⟨-, hnew⟩, haccepted⟩ := hwanted
    unfold push
    rw [hlist, if_neg (not_not.mpr hfeature), hcached, if_neg (ne_true_of_eq_false hnew)]
    simp only [any_id_iff u hfeature, if_neg (ne_false_of_eq_true haccepted)]
  · have hlist : wantedReports (usages ++ [u]) cachedKeys accept = wantedReports usages cachedKeys accept := by
      unfold wantedReports
      rw [List.filter_append, List.filter_cons_of_neg hwanted, List.filter_nil, List.append_nil]
    unfold push
    rw [hlist, hcached]
    split_ifs with hother hknown hpresent haccepted
    · rfl
    · rfl
    · rfl
    · rfl
    · apply absurd _ hwanted
      unfold wanted
      rw [decide_eq_true (not_not.mp hother), Bool.eq_false_iff.mpr hknown, Bool.eq_true_of_not_eq_false haccepted]
      rfl

theorem items_start (usages : List HIDUsageDef) (cachedKeys : List (Nat × Nat)) (accept : Nat → Nat → Bool) :
    (start usages cachedKeys accept).items = wantedReports usages cachedKeys accept := by
  change usages.foldl (push cachedKeys accept) [] = _
  induction usages using List.reverseRecOn with
  | nil => rfl
  | append_singleton usages u ih => rw [List.foldl_append, ih, List.foldl_cons, List.foldl_nil, wantedReports_append]

/-- Ids are bytes, so the counters of 16 bits hold the length of the list. -/
theorem length_wantedReports_le (hids : ∀ u ∈ usages, u.reportId < 256) :
    (wantedReports usages cachedKeys accept).length ≤ 256 := by
  have hsub : wantedReports usages cachedKeys accept ⊆ (List.range 256).map fun id => (feature, id) := by
    intro item hitem
    obtain ⟨u, hu, hwanted, rfl⟩ := mem_wantedReports_iff.mp hitem
    rw [feature_of_wanted hwanted]
    exact List.mem_map.mpr ⟨u.reportId, List.mem_range.mpr (hids u hu), rfl⟩
  have hlength := (nodup_wantedReports.subperm hsub).length_le
  rwa [List.length_map, List.length_range] at hlength

/-! ### Runs -/

def total (d : DiagSweep) : Nat := d.items.length % 65536

def done (d : DiagSweep) : Nat := d.pos % 65536

def entryKey (e : DiagEntry) : Nat × Nat := (e.reportType, e.id)

inductive SweepEvent where
  | next
  | record (id : Nat) (result : DiagResult) (data : List Byte)
  | interrupt

/-- A read, with the reports whose results were taken and whether it was interrupted while it ran. -/
structure Trace where
  sweep : DiagSweep
  recorded : List (Nat × Nat)
  interrupted : Bool

/-- `next` only asks; a result is taken when it is the one of the report `next` gives. -/
def step (t : Trace) : SweepEvent → Trace
  | .next => t
  | .record id result data =>
      { t with
        sweep := t.sweep.record id result data
        recorded := t.recorded ++ (t.sweep.next.filter fun item => item.2 = id).toList }
  | .interrupt =>
      { t with
        sweep := t.sweep.interrupt
        interrupted := t.interrupted || decide (t.sweep.state = .reading) }

def begun (usages : List HIDUsageDef) (cachedKeys : List (Nat × Nat)) (accept : Nat → Nat → Bool) : Trace :=
  { sweep := start usages cachedKeys accept, recorded := [], interrupted := false }

/-- What a taken result changes. -/
structure Took (d after : DiagSweep) (item : Nat × Nat) : Prop where
  items : after.items = d.items
  pos : after.pos = d.pos + 1
  counts : after.read + after.empty + after.failed = d.read + d.empty + d.failed + 1
  state : after.state = if d.items.length ≤ d.pos + 1 then .done else d.state
  results : (after.results.map entryKey).Sublist (d.results.map entryKey ++ [item])

theorem record_took {d : DiagSweep} {item : Nat × Nat} (hnext : d.next = some item) (result : DiagResult) (data : List Byte) :
    Took d (d.record item.2 result data) item := by
  unfold record
  rw [hnext]
  dsimp only
  rw [if_neg (not_not.mpr rfl)]
  generalize (if result = .read ∧ data = [] then DiagResult.empty else result) = outcome
  cases outcome with
  | read => exact ⟨rfl, rfl, by dsimp only; omega, rfl, by rw [List.map_append]; exact List.Sublist.refl _⟩
  | empty => exact ⟨rfl, rfl, by dsimp only; omega, rfl, by rw [List.map_append]; exact List.Sublist.refl _⟩
  | failed => exact ⟨rfl, rfl, by dsimp only; omega, rfl, List.sublist_append_left _ _⟩

theorem record_of_other {d : DiagSweep} {id : Nat} (h : (d.next.filter fun item => item.2 = id) = none) (result : DiagResult)
    (data : List Byte) : d.record id result data = d := by
  unfold record
  cases hnext : d.next with
  | none => rfl
  | some item =>
      rw [hnext, Option.filter_eq_none_iff] at h
      exact if_pos fun hid => h item rfl (decide_eq_true hid)

/-- What holds of a read over its runs, for the reports `list` to read. -/
structure Swept (list : List (Nat × Nat)) (t : Trace) : Prop where
  items : t.sweep.items = list
  recorded : t.recorded = list.take t.sweep.pos
  within : t.sweep.pos ≤ list.length
  counted : t.sweep.read + t.sweep.empty + t.sweep.failed = t.sweep.pos
  entries : (t.sweep.results.map entryKey).Sublist t.recorded
  reading : t.sweep.state = .reading ↔ t.sweep.pos < list.length ∧ t.interrupted = false
  done : t.sweep.state = .done ↔ t.sweep.pos = list.length
  interrupted : t.sweep.state = .interrupted ↔ t.interrupted = true

theorem swept_begun : Swept (wantedReports usages cachedKeys accept) (begun usages cachedKeys accept) := by
  have hitems : (begun usages cachedKeys accept).sweep.items = wantedReports usages cachedKeys accept := items_start ..
  have hpos : (begun usages cachedKeys accept).sweep.pos = 0 := rfl
  have hfree : (begun usages cachedKeys accept).interrupted = false := rfl
  have hstate : (begun usages cachedKeys accept).sweep.state
      = if wantedReports usages cachedKeys accept = [] then .done else .reading := by
    rw [← hitems]
    rfl
  refine ⟨hitems, rfl, Nat.zero_le _, rfl, List.Sublist.refl _, ?_, ?_, ?_⟩ <;> rw [hstate]
  · rw [hpos, hfree, List.length_pos_iff]
    split <;> simp_all
  · rw [hpos, eq_comm (a := 0), List.length_eq_zero_iff]
    split <;> simp_all
  · rw [hfree]
    split <;> simp

/-- While the read runs, the next report is the first one that is not recorded. -/
theorem Swept.next_eq {list : List (Nat × Nat)} {t : Trace} (h : Swept list t) :
    t.sweep.next = if t.sweep.state = .reading then list[t.recorded.length]? else none := by
  have hlength : t.recorded.length = t.sweep.pos := by rw [h.recorded, List.length_take, Nat.min_eq_left h.within]
  unfold DiagSweep.next
  rw [h.items, hlength]
  exact ite_not ..

theorem Swept.step {list : List (Nat × Nat)} {t : Trace} (h : Swept list t) (event : SweepEvent) :
    Swept list (step t event) := by
  cases event with
  | next => exact h
  | record id result data =>
      cases hnext : t.sweep.next.filter fun item => item.2 = id with
      | none =>
          have hsame : DiagSweep.step t (.record id result data) = t := by
            unfold DiagSweep.step
            dsimp only
            rw [record_of_other hnext, hnext, Option.toList_none, List.append_nil]
          rw [hsame]
          exact h
      | some item =>
          obtain ⟨hsome, hid⟩ := Option.filter_eq_some_iff.mp hnext
          have hid : item.2 = id := of_decide_eq_true hid
          have htook := record_took hsome result data
          rw [hid] at htook
          have hreading : t.sweep.state = .reading := by
            by_contra hstopped
            unfold DiagSweep.next at hsome
            rw [if_pos hstopped] at hsome
            cases hsome
          obtain ⟨hless, hfree⟩ := h.reading.mp hreading
          have hitem : list[t.sweep.pos]? = some item := by
            rw [h.next_eq, if_pos hreading, h.recorded, List.length_take, Nat.min_eq_left h.within] at hsome
            exact hsome
          unfold DiagSweep.step
          dsimp only
          rw [hnext, Option.toList_some]
          have hstate := htook.state
          rw [h.items, hreading] at hstate
          refine ⟨htook.items.trans h.items, ?_, ?_, ?_, ?_, ?_, ?_, ?_⟩
          · rw [htook.pos, List.take_add_one, hitem, h.recorded, Option.toList_some]
          · rw [htook.pos]
            exact hless
          · rw [htook.counts, htook.pos, h.counted]
          · exact htook.results.trans (h.entries.append_right _)
          · rw [hstate, htook.pos, hfree]
            split <;> simp <;> omega
          · rw [hstate, htook.pos]
            split <;> simp <;> omega
          · rw [hstate, hfree]
            split <;> simp
  | interrupt =>
      unfold DiagSweep.step DiagSweep.interrupt
      dsimp only
      by_cases hreading : t.sweep.state = .reading
      · have hless := h.reading.mp hreading
        rw [if_pos hreading, decide_eq_true hreading, Bool.or_true]
        exact ⟨h.items, h.recorded, h.within, h.counted, h.entries, by simp, by simp; omega, by simp⟩
      · rw [if_neg hreading, decide_eq_false hreading, Bool.or_false]
        exact h

theorem Swept.run {list : List (Nat × Nat)} {t : Trace} (h : Swept list t) (events : List SweepEvent) :
    Swept list (events.foldl DiagSweep.step t) := by
  induction events generalizing t with
  | nil => exact h
  | cons event rest ih => exact ih (h.step event)

theorem sweep_step_of_stopped {t : Trace} (h : t.sweep.state ≠ .reading) (event : SweepEvent) :
    (step t event).sweep = t.sweep := by
  cases event with
  | next => rfl
  | record id result data =>
      have hnone : t.sweep.next = none := if_pos h
      exact record_of_other (by rw [hnone]; rfl) result data
  | interrupt => exact if_neg h

theorem sweep_run_of_stopped {t : Trace} (h : t.sweep.state ≠ .reading) (events : List SweepEvent) :
    (events.foldl step t).sweep = t.sweep := by
  induction events generalizing t with
  | nil => rfl
  | cons event rest ih =>
      have hsame := sweep_step_of_stopped h event
      rw [List.foldl_cons, ih (by rwa [hsame]), hsame]

theorem interrupt_keeps (d : DiagSweep) :
    d.interrupt.results = d.results ∧ d.interrupt.pos = d.pos ∧ d.interrupt.read = d.read ∧ d.interrupt.empty = d.empty
      ∧ d.interrupt.failed = d.failed := by
  unfold interrupt
  split
  · exact ⟨rfl, rfl, rfl, rfl, rfl⟩
  · exact ⟨rfl, rfl, rfl, rfl, rfl⟩

/-- The result of a report, as the device gives it. -/
def answered (answer : Nat × Nat → DiagResult × List Byte) (item : Nat × Nat) : SweepEvent :=
  .record item.2 (answer item).1 (answer item).2

/-- Without an interruption the results of the reports that are left end the read. -/
theorem Swept.finish {list : List (Nat × Nat)} {t : Trace} (h : Swept list t) (hfree : t.interrupted = false)
    (answer : Nat × Nat → DiagResult × List Byte) :
    (((list.drop t.sweep.pos).map (answered answer)).foldl DiagSweep.step t).recorded = list := by
  generalize hleft : list.drop t.sweep.pos = left
  induction left generalizing t with
  | nil =>
      have hend : list.length ≤ t.sweep.pos := List.drop_eq_nil_iff.mp hleft
      exact h.recorded.trans (List.take_of_length_le hend)
  | cons item rest ih =>
      have hless : t.sweep.pos < list.length := by
        by_contra hend
        rw [List.drop_eq_nil_iff.mpr (not_lt.mp hend)] at hleft
        cases hleft
      rw [List.drop_eq_getElem_cons hless] at hleft
      obtain ⟨hitem, hrest⟩ := List.cons.inj hleft
      have hnext : t.sweep.next = some item := by
        rw [h.next_eq, if_pos (h.reading.mpr ⟨hless, hfree⟩), h.recorded, List.length_take, Nat.min_eq_left h.within,
          List.getElem?_eq_getElem hless, hitem]
      have htook := record_took hnext (answer item).1 (answer item).2
      have hfree' : (DiagSweep.step t (answered answer item)).interrupted = false := hfree
      rw [List.map_cons, List.foldl_cons]
      apply ih (h.step _) hfree'
      exact (congrArg (list.drop ·) htook.pos).trans hrest

end DiagSweep

/-! ### The reports of the export -/

/-- A report of the export, with whether it was read on demand and answered with no bytes. -/
structure UsbDiagReport where
  id : Nat
  type : Nat
  data : List Byte
  onDemand : Bool
  empty : Bool
  deriving DecidableEq

namespace UsbDiagReport

/-- The type above the id, in 16 bits. -/
def key (type id : Nat) : Nat := ((type <<< 8) ||| id) % 65536

def keyOf (r : UsbDiagReport) : Nat := key r.type r.id

/-- A report of the read on demand. -/
def ofEntry (e : DiagEntry) : UsbDiagReport :=
  { id := e.id, type := e.reportType, data := e.data, onDemand := true, empty := e.empty }

/-- The reports of the poll stay, the others of the results join them. -/
def addOnDemandReports (reports : List UsbDiagReport) (results : List DiagEntry) : List UsbDiagReport :=
  results.foldl (fun reports e => insertNew keyOf (ofEntry e) reports) reports

theorem key_eq {type id : Nat} (htype : type < 256) (hid : id < 256) : key type id = 256 * type + id := by
  have hsum : type <<< 8 ||| id = 2 ^ 8 * type + id := by
    rw [← Nat.shiftLeft_add_eq_or_of_lt hid, Nat.shiftLeft_eq, Nat.mul_comm]
  unfold key
  rw [hsum]
  omega

theorem key_inj {type id type' id' : Nat} (htype : type < 256) (hid : id < 256) (htype' : type' < 256) (hid' : id' < 256)
    (h : key type id = key type' id') : type = type' ∧ id = id' := by
  rw [key_eq htype hid, key_eq htype' hid'] at h
  omega

theorem addOnDemandReports_eq (reports : List UsbDiagReport) (results : List DiagEntry) :
    addOnDemandReports reports results = insertAll keyOf (results.map ofEntry) reports := by
  unfold addOnDemandReports insertAll
  rw [List.foldl_map]

/-- Each report once, in order, and the poll's where it has one. -/
structure Merged (reports : List UsbDiagReport) (results : List DiagEntry) (merged : List UsbDiagReport) : Prop where
  sorted : Increasing keyOf merged
  once : ∀ r ∈ merged, ∀ r' ∈ merged, r.type = r'.type → r.id = r'.id → r = r'
  polled : ∀ r ∈ reports, r ∈ merged
  read : ∀ e ∈ results, ∃ r ∈ merged, r.type = e.reportType ∧ r.id = e.id
  origin : ∀ r ∈ merged, r ∈ reports
    ∨ ∃ e ∈ results, r = ofEntry e ∧ ∀ polled ∈ reports, ¬ (polled.type = e.reportType ∧ polled.id = e.id)

theorem merged_addOnDemandReports {reports : List UsbDiagReport} {results : List DiagEntry} (hsorted : Increasing keyOf reports)
    (hreports : ∀ r ∈ reports, r.type < 256 ∧ r.id < 256) (hresults : ∀ e ∈ results, e.reportType < 256 ∧ e.id < 256) :
    Merged reports results (addOnDemandReports reports results) := by
  have hmem : ∀ r, r ∈ addOnDemandReports reports results ↔ r ∈ reports ∨ (∀ polled ∈ reports, keyOf polled ≠ keyOf r)
      ∧ (results.map ofEntry).find? (fun e => keyOf e = keyOf r) = some r := by
    intro r
    rw [addOnDemandReports_eq]
    exact mem_insertAll_iff hsorted
  have hincreasing : Increasing keyOf (addOnDemandReports reports results) := by
    rw [addOnDemandReports_eq]
    exact hsorted.insertAll _
  refine ⟨hincreasing, fun r hr r' hr' htype hid => ?_, fun r hr => (hmem r).mpr (Or.inl hr), ?_, ?_⟩
  · apply hincreasing.eq_of_key hr hr'
    unfold keyOf
    rw [htype, hid]
  · intro e he
    by_cases hpolled : ∃ polled ∈ reports, keyOf polled = keyOf (ofEntry e)
    · obtain ⟨polled, hin, hkey⟩ := hpolled
      obtain ⟨htype, hid⟩ := hreports polled hin
      obtain ⟨htype', hid'⟩ := hresults e he
      exact ⟨polled, (hmem polled).mpr (Or.inl hin), key_inj htype hid htype' hid' hkey⟩
    · have hsome : ((results.map ofEntry).find? fun other => keyOf other = keyOf (ofEntry e)).isSome := by
        rw [List.find?_isSome]
        exact ⟨_, List.mem_map_of_mem he, decide_eq_true rfl⟩
      obtain ⟨first, hfirst⟩ := Option.isSome_iff_exists.mp hsome
      have hkey : keyOf first = keyOf (ofEntry e) := by simpa using List.find?_some hfirst
      obtain ⟨other, hother, rfl⟩ := List.mem_map.mp (List.mem_of_find?_eq_some hfirst)
      obtain ⟨htype, hid⟩ := hresults other hother
      obtain ⟨htype', hid'⟩ := hresults e he
      refine ⟨_, (hmem _).mpr (Or.inr ⟨?_, ?_⟩), key_inj htype hid htype' hid' hkey⟩
      · intro polled hin hsame
        exact hpolled ⟨polled, hin, hsame.trans hkey⟩
      · rw [hkey]
        exact hfirst
  · intro r hr
    rcases (hmem r).mp hr with hin | ⟨hnone, hfound⟩
    · exact Or.inl hin
    · obtain ⟨e, he, rfl⟩ := List.mem_map.mp (List.mem_of_find?_eq_some hfound)
      refine Or.inr ⟨e, he, rfl, fun polled hin hsame => hnone polled hin ?_⟩
      unfold keyOf ofEntry
      rw [hsame.1, hsame.2]

end UsbDiagReport

/-! ### The whole export -/

namespace DiagSweep

/-- A read of the reports `list`, at some moment. -/
structure Complete (list : List (Nat × Nat)) (t : Trace) : Prop where
  total : t.sweep.total = list.length
  recorded : t.recorded = list.take t.sweep.done
  once : t.recorded.Nodup
  next : t.sweep.next = if t.sweep.state = .reading then list[t.recorded.length]? else none
  entries : (t.sweep.results.map entryKey).Sublist t.recorded
  counted : t.sweep.read + t.sweep.empty + t.sweep.failed = t.sweep.done
  within : t.sweep.done ≤ t.sweep.total
  done : t.sweep.state = .done ↔ t.recorded = list ∧ t.interrupted = false
  interrupted : t.sweep.state = .interrupted ↔ t.interrupted = true
  stopped : t.sweep.state ≠ .reading → ∀ events : List SweepEvent, (events.foldl step t).sweep = t.sweep
  finish : t.interrupted = false → ∀ answer, (((list.drop t.sweep.done).map (answered answer)).foldl step t).recorded = list

theorem Swept.complete {list : List (Nat × Nat)} {t : Trace} (h : Swept list t) (hnodup : list.Nodup)
    (hbytes : list.length ≤ 256) : Complete list t := by
  have hwithin := h.within
  have hdone : t.sweep.done = t.sweep.pos := Nat.mod_eq_of_lt (by omega)
  have htotal : t.sweep.total = list.length := by
    unfold total
    rw [h.items]
    exact Nat.mod_eq_of_lt (by omega)
  refine ⟨htotal, ?_, ?_, h.next_eq, h.entries, ?_, ?_, ?_, h.interrupted, sweep_run_of_stopped, ?_⟩
  · rw [hdone]
    exact h.recorded
  · rw [h.recorded]
    exact hnodup.sublist (List.take_sublist _ _)
  · rw [hdone]
    exact h.counted
  · rw [hdone, htotal]
    exact h.within
  · rw [h.done]
    constructor
    · intro hend
      refine ⟨by rw [h.recorded, hend, List.take_length], ?_⟩
      rw [Bool.eq_false_iff, ne_eq, ← h.interrupted, h.done.mpr hend]
      exact fun hne => (nomatch hne)
    · rintro ⟨hall, -⟩
      have hlength := congrArg List.length hall
      rw [h.recorded, List.length_take] at hlength
      omega
  · rw [hdone]
    exact h.finish

/-- In every run the read records the FEATURE reports that are neither cached nor refused, each at most once and in the order of the descriptor; it is done when it has all of them, and not interrupted before. An interruption keeps what was read, and the results join the reports of the poll. -/
theorem export_complete {usages : List HIDUsageDef} (hids : ∀ u ∈ usages, u.reportId < 256) (cachedKeys : List (Nat × Nat))
    (accept : Nat → Nat → Bool) :
    (∀ events : List SweepEvent, Complete (wantedReports usages cachedKeys accept) (events.foldl step (begun usages cachedKeys accept)))
      ∧ (∀ d : DiagSweep, d.interrupt.results = d.results ∧ d.interrupt.pos = d.pos ∧ d.interrupt.read = d.read
        ∧ d.interrupt.empty = d.empty ∧ d.interrupt.failed = d.failed)
      ∧ ∀ reports results, Increasing UsbDiagReport.keyOf reports → (∀ r ∈ reports, r.type < 256 ∧ r.id < 256) →
        (∀ e ∈ results, e.reportType < 256 ∧ e.id < 256) →
        UsbDiagReport.Merged reports results (UsbDiagReport.addOnDemandReports reports results) := by
  refine ⟨fun events => ?_, interrupt_keeps, fun reports results => UsbDiagReport.merged_addOnDemandReports⟩
  exact (swept_begun.run events).complete nodup_wantedReports (length_wantedReports_le hids)

/-- FEATURE reports 1, 2 and 1 again, and an INPUT report. -/
def sampleUsages : List HIDUsageDef :=
  [(3, 1), (3, 2), (1, 7), (3, 1)].map fun report =>
    { usage := 0x00840030, reportId := report.2, reportType := report.1, bitOffset := 0, bitSize := 8, found := true,
      logicalMin := 0, logicalMax := 255, exponent := 0, unit := 0, path := "UPS.Input.Voltage", collIndex := [] }

theorem export_complete_sample :
    Complete [(3, 1), (3, 2)]
      ([SweepEvent.record 2 .read [9#8], .record 1 .read [1#8, 5#8], .interrupt].foldl step
        (begun sampleUsages [] fun _ _ => true)) := by
  have hlist : wantedReports sampleUsages [] (fun _ _ => true) = [(3, 1), (3, 2)] := by decide
  have hids : ∀ u ∈ sampleUsages, u.reportId < 256 := by decide
  rw [← hlist]
  exact (export_complete hids [] fun _ _ => true).1 _

end DiagSweep

end EspNut
