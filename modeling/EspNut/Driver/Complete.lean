import EspNut.Driver.Cycles
import Mathlib.Data.List.Perm.Basic

/-!
# Cycles are complete

Whatever a cycle's queue starts with is requested or passed over before the next cycle starts, in order; strings and reports asked for soon only come in between or at the end. The pruned lists keep every report that a living row reads.
-/

namespace EspNut.GenericDriver

open Lib NutTable

/-- What became of an item at the head of the queue. -/
inductive Handling where
  | requested | freshFromInput | staticAndKnown
  deriving DecidableEq

def handling (hooks : Hooks) (host : Host) (p : Poll) (item : PollItem) : Handling :=
  if isFreshFromInput hooks host p item then .freshFromInput
  else if isStaticAndKnown hooks p item then .staticAndKnown
  else .requested

/-- The items a call works off, the last one of them requested unless all are passed over. -/
def workedOff (hooks : Hooks) (host : Host) (now : UInt32) (p : Poll) : List PollItem :=
  if mayStep hooks host now p = false then []
  else skipped hooks host p ++ (issue hooks host now p).2.toList

/-- A cycle: its queue at the start, what came in later, what became of each item, and the requests that went out. -/
structure Cycle where
  start : List PollItem
  added : List PollItem
  handled : List (PollItem × Handling)
  requests : List PollItem

/-- The poll with the running cycle and those before it. -/
structure Worked where
  poll : Poll
  cycle : Cycle
  past : List Cycle

def Worked.initial (data : UPSData) : Worked := ⟨Poll.initial data, ⟨[], [], [], []⟩, []⟩

/-- The items that a call works off join the cycle. -/
def Cycle.handle (c : Cycle) (hooks : Hooks) (host : Host) (now : UInt32) (p : Poll) : Cycle :=
  { c with
    handled := c.handled ++ (workedOff hooks host now p).map fun item => (item, handling hooks host p item)
    requests := c.requests ++ (issue hooks host now p).2.toList }

def work (sub : Subdriver) (w : Worked) (event : PollEvent) : Worked :=
  let poll := (pollStep sub w.poll event).1
  match event with
  | .loop hooks host now raced =>
      let begun := (beginCycle sub hooks host (millis now) raced w.poll).1
      if (beginCycle sub hooks host (millis now) raced w.poll).2.isSome then
        { poll
          cycle := Cycle.handle ⟨begun.queue, [], [], []⟩ hooks host (millis now) begun
          past := w.past ++ [w.cycle] }
      else
        { w with
          poll
          cycle := Cycle.handle { w.cycle with added := w.cycle.added ++ begun.queue.drop w.poll.queue.length }
            hooks host (millis now) begun }
  | .pollSoon item =>
      if (w.poll.queue.drop w.poll.queuePos).any fun i => i.reportType = item.reportType && i.id = item.id then
        { w with poll }
      else { w with poll, cycle := { w.cycle with added := w.cycle.added ++ [item] } }
  | _ => { w with poll }

/-- Every item of the start is handled once, in order, beside those that came in later; the requests are those said to be. -/
structure Cycle.Complete (c : Cycle) : Prop where
  inOrder : c.start.Sublist (c.handled.map Prod.fst)
  once : (c.handled.map Prod.fst).Perm (c.start ++ c.added)
  requests : c.requests = (c.handled.filter fun h => decide (h.2 = .requested)).map Prod.fst

/-- The running cycle is worked off up to the position in the queue. -/
structure Covers (w : Worked) : Prop where
  position : w.poll.queuePos ≤ w.poll.queue.length
  handled : w.cycle.handled.map Prod.fst = w.poll.queue.take w.poll.queuePos
  inOrder : w.cycle.start.Sublist w.poll.queue
  once : w.poll.queue.Perm (w.cycle.start ++ w.cycle.added)
  requests : w.cycle.requests = (w.cycle.handled.filter fun h => decide (h.2 = .requested)).map Prod.fst
  past : ∀ c ∈ w.past, c.Complete

variable {sub : Subdriver} {w : Worked}

/-! ### One call -/

theorem take_skipped (hooks : Hooks) (host : Host) (p : Poll) :
    p.queue.take (p.queuePos + (skipped hooks host p).length) = p.queue.take p.queuePos ++ skipped hooks host p := by
  rw [List.take_add]
  exact congrArg _ (List.prefix_iff_eq_take.mp (List.takeWhile_prefix _)).symm

theorem not_isSkipped_of_next {hooks : Hooks} {host : Host} {p : Poll} {item : PollItem}
    (h : p.queue[p.queuePos + (skipped hooks host p).length]? = some item) : isSkipped hooks host p item = false := by
  have hrest : (p.queue.drop p.queuePos)[(skipped hooks host p).length]? = some item := by
    rw [List.getElem?_drop]
    exact h
  have hsplit : skipped hooks host p ++ (p.queue.drop p.queuePos).dropWhile (isSkipped hooks host p)
      = p.queue.drop p.queuePos := List.takeWhile_append_dropWhile
  rw [← hsplit, List.getElem?_append_right (Nat.le_refl _), Nat.sub_self, ← List.head?_eq_getElem?] at hrest
  have hnot := List.head?_dropWhile_not (isSkipped hooks host p) (p.queue.drop p.queuePos)
  rw [hrest] at hnot
  simpa using hnot

theorem handling_of_isSkipped {hooks : Hooks} {host : Host} {p : Poll} {item : PollItem} :
    handling hooks host p item = .requested ↔ isSkipped hooks host p item = false := by
  unfold handling isSkipped
  cases isFreshFromInput hooks host p item <;> cases isStaticAndKnown hooks p item <;> simp

/-- What a call works off is the next part of the queue, and its request is the only item not passed over. -/
theorem workedOff_spec (hooks : Hooks) (host : Host) (now : UInt32) (p : Poll) (hpos : p.queuePos ≤ p.queue.length) :
    (issue hooks host now p).1.queue = p.queue
      ∧ (issue hooks host now p).1.queuePos ≤ p.queue.length
      ∧ p.queue.take (issue hooks host now p).1.queuePos = p.queue.take p.queuePos ++ workedOff hooks host now p
      ∧ (workedOff hooks host now p).filter (fun item => decide (handling hooks host p item = .requested))
        = (issue hooks host now p).2.toList := by
  have hlength : p.queuePos + (skipped hooks host p).length ≤ p.queue.length := by
    have hle := (List.takeWhile_prefix (isSkipped hooks host p) (l := p.queue.drop p.queuePos)).length_le
    rw [List.length_drop] at hle
    unfold skipped
    omega
  have hpassed : (skipped hooks host p).filter (fun item => decide (handling hooks host p item = .requested)) = [] := by
    apply List.filter_eq_nil_iff.mpr
    intro item hitem hrequested
    have hskipped := List.mem_takeWhile_imp hitem
    rw [handling_of_isSkipped.mp (of_decide_eq_true hrequested)] at hskipped
    exact Bool.false_ne_true hskipped
  unfold workedOff
  rcases issue_cases hooks host now p with ⟨hmay, hissue⟩ | ⟨hmay, -, hissue⟩ | ⟨hmay, item, hnext, hissue⟩
  · rw [hissue, if_pos hmay]
    exact ⟨rfl, hpos, (List.append_nil _).symm, rfl⟩
  · rw [hissue, if_neg (by simp [hmay])]
    refine ⟨rfl, hlength, ?_, ?_⟩
    · rw [take_skipped]
      simp
    · simpa using hpassed
  · rw [hissue, if_neg (by simp [hmay])]
    obtain ⟨hlt, -⟩ := List.getElem?_eq_some_iff.mp hnext
    refine ⟨rfl, hlt, ?_, ?_⟩
    · show p.queue.take (p.queuePos + (skipped hooks host p).length + 1) = _
      rw [List.take_add_one, take_skipped, hnext, List.append_assoc]
    · have hown := handling_of_isSkipped.mpr (not_isSkipped_of_next hnext)
      rw [List.filter_append, hpassed]
      simp [hown]

/-- The items worked off join a cycle that covers its queue. -/
theorem Covers.handle {p : Poll} {c : Cycle} {past : List Cycle} (h : Covers ⟨p, c, past⟩) (hooks : Hooks) (host : Host)
    (now : UInt32) : Covers ⟨(issue hooks host now p).1, c.handle hooks host now p, past⟩ := by
  obtain ⟨hqueue, hpos, htake, hrequests⟩ := workedOff_spec hooks host now p h.position
  refine ⟨?_, ?_, ?_, ?_, ?_, h.past⟩
  · show (issue hooks host now p).1.queuePos ≤ (issue hooks host now p).1.queue.length
    rw [hqueue]
    exact hpos
  · show (c.handled ++ _).map Prod.fst = (issue hooks host now p).1.queue.take (issue hooks host now p).1.queuePos
    have hbefore : c.handled.map Prod.fst = p.queue.take p.queuePos := h.handled
    rw [hqueue, htake, List.map_append, hbefore, List.map_map]
    exact congrArg _ (List.map_id _)
  · show c.start.Sublist (issue hooks host now p).1.queue
    rw [hqueue]
    exact h.inOrder
  · show (issue hooks host now p).1.queue.Perm (c.start ++ c.added)
    rw [hqueue]
    exact h.once
  · have hbefore : c.requests = (c.handled.filter fun h => decide (h.2 = .requested)).map Prod.fst := h.requests
    show c.requests ++ _ = ((c.handled ++ _).filter _).map Prod.fst
    rw [List.filter_append, List.map_append, ← hbefore, List.filter_map, List.map_map, ← hrequests]
    exact congrArg _ (List.map_id _).symm

/-- Strings at the end of the queue come in later. -/
theorem Covers.goesOn (h : Covers w) {p : Poll} (hgoes : GoesOn w.poll p) :
    Covers ⟨p, { w.cycle with added := w.cycle.added ++ p.queue.drop w.poll.queue.length }, w.past⟩ := by
  obtain ⟨strings, hqueue⟩ := hgoes.queue
  have hstrings : p.queue.drop w.poll.queue.length = strings := by
    rw [hqueue, List.drop_left]
  rw [hstrings]
  refine ⟨?_, ?_, ?_, ?_, h.requests, h.past⟩
  · show p.queuePos ≤ p.queue.length
    have hpos := h.position
    rw [hgoes.queuePos, hqueue, List.length_append]
    omega
  · show w.cycle.handled.map Prod.fst = p.queue.take p.queuePos
    rw [hgoes.queuePos, hqueue, List.take_append_of_le_length h.position]
    exact h.handled
  · show w.cycle.start.Sublist p.queue
    rw [hqueue]
    exact h.inOrder.trans (List.sublist_append_left _ _)
  · show p.queue.Perm (w.cycle.start ++ (w.cycle.added ++ strings))
    rw [hqueue, ← List.append_assoc]
    exact h.once.append_right strings

/-- A queue that is worked off makes a complete cycle. -/
theorem Covers.complete (h : Covers w) (hend : w.poll.queue.length ≤ w.poll.queuePos) : w.cycle.Complete := by
  have hall : w.cycle.handled.map Prod.fst = w.poll.queue := by
    rw [h.handled, List.take_of_length_le hend]
  refine ⟨?_, ?_, h.requests⟩
  · rw [hall]
    exact h.inOrder
  · rw [hall]
    exact h.once

theorem exhausted_of_due {hooks : Hooks} {now : UInt32} {p : Poll} {full : Bool} (h : dueCycle hooks now p = some full) :
    p.queue.length ≤ p.queuePos := by
  unfold dueCycle Poll.exhausted at h
  dsimp only at h
  split at h
  · exact absurd h (by simp)
  · rename_i hexhausted
    simpa using hexhausted

theorem covers_loop (h : Covers w) (hooks : Hooks) (host : Host) (now : Nat) (raced : Bool) :
    Covers (work sub w (.loop hooks host now raced)) := by
  unfold work
  dsimp only
  rw [pollStep_loop]
  rcases beginCycle_cases sub hooks host (millis now) raced w.poll with ⟨-, hnone, hgoes⟩ | ⟨full, hdue, hbegin⟩
  · rw [hnone, if_neg (by simp)]
    have hraced : GoesOn { w.poll with dataChanged := w.poll.dataChanged || raced }
        (beginCycle sub hooks host (millis now) raced w.poll).1 := hgoes
    have hbefore : Covers ⟨{ w.poll with dataChanged := w.poll.dataChanged || raced }, w.cycle, w.past⟩ :=
      ⟨h.position, h.handled, h.inOrder, h.once, h.requests, h.past⟩
    exact (hbefore.goesOn hraced).handle hooks host (millis now)
  · have hprepare := goesOn_prepare sub hooks host w.poll
    have hend : w.poll.queue.length ≤ w.poll.queuePos := by
      obtain ⟨strings, hqueue⟩ := hprepare.queue
      have hexhausted := exhausted_of_due hdue
      rw [hqueue, hprepare.queuePos, List.length_append] at hexhausted
      omega
    have hstart := starts_startCycle hooks host full (millis now) (noteRace raced (prepare sub hooks host w.poll))
    rw [hbegin, if_pos (by simp)]
    dsimp only
    generalize startCycle hooks host full (millis now) (noteRace raced (prepare sub hooks host w.poll)) = begun at hstart
    have hbegun : Covers ⟨begun, ⟨begun.queue, [], [], []⟩, w.past ++ [w.cycle]⟩ := by
      refine ⟨?_, ?_, List.Sublist.refl _, ?_, rfl, ?_⟩
      · show begun.queuePos ≤ begun.queue.length
        rw [hstart.queuePos]
        exact Nat.zero_le _
      · show [] = begun.queue.take begun.queuePos
        rw [hstart.queuePos]
        rfl
      · show begun.queue.Perm (begun.queue ++ [])
        rw [List.append_nil]
      · intro c hc
        rcases List.mem_append.mp hc with hearlier | hlast
        · exact h.past c hearlier
        · rw [List.mem_singleton.mp hlast]
          exact h.complete hend
    exact hbegun.handle hooks host (millis now)

/-- A report asked for soon comes next, unless it is pending. -/
theorem covers_pollSoon (h : Covers w) (item : PollItem) : Covers (work sub w (.pollSoon item)) := by
  unfold work
  dsimp only
  unfold pollStep
  dsimp only
  unfold pollSoon
  split
  · exact h
  · have hsplit := List.take_append_drop w.poll.queuePos w.poll.queue
    have htake : (w.poll.queue.take w.poll.queuePos).length = w.poll.queuePos := by
      rw [List.length_take]
      exact Nat.min_eq_left h.position
    refine ⟨?_, ?_, ?_, ?_, h.requests, h.past⟩
    · show w.poll.queuePos ≤ (w.poll.queue.take w.poll.queuePos ++ item :: w.poll.queue.drop w.poll.queuePos).length
      rw [List.length_append, htake]
      omega
    · show w.cycle.handled.map Prod.fst
        = (w.poll.queue.take w.poll.queuePos ++ item :: w.poll.queue.drop w.poll.queuePos).take w.poll.queuePos
      rw [List.take_append_of_le_length (by omega), List.take_of_length_le (by omega)]
      exact h.handled
    · show w.cycle.start.Sublist (w.poll.queue.take w.poll.queuePos ++ item :: w.poll.queue.drop w.poll.queuePos)
      have hinsert : w.poll.queue.Sublist
          (w.poll.queue.take w.poll.queuePos ++ item :: w.poll.queue.drop w.poll.queuePos) := by
        conv => lhs; rw [← hsplit]
        exact (List.Sublist.refl _).append (List.sublist_cons_self _ _)
      exact h.inOrder.trans hinsert
    · show (w.poll.queue.take w.poll.queuePos ++ item :: w.poll.queue.drop w.poll.queuePos).Perm
        (w.cycle.start ++ (w.cycle.added ++ [item]))
      have hhead : (w.poll.queue.take w.poll.queuePos ++ item :: w.poll.queue.drop w.poll.queuePos).Perm
          (item :: w.poll.queue) := by
        conv => rhs; rw [← hsplit]
        exact List.perm_middle
      rw [← List.append_assoc]
      exact hhead.trans ((h.once.cons item).trans (List.perm_append_singleton item _).symm)

theorem Covers.of_same (h : Covers w) {p : Poll} (hqueue : p.queue = w.poll.queue)
    (hpos : p.queuePos = w.poll.queuePos) : Covers ⟨p, w.cycle, w.past⟩ := by
  refine ⟨?_, ?_, ?_, ?_, h.requests, h.past⟩
  · show p.queuePos ≤ p.queue.length
    rw [hqueue, hpos]
    exact h.position
  · show w.cycle.handled.map Prod.fst = p.queue.take p.queuePos
    rw [hqueue, hpos]
    exact h.handled
  · show w.cycle.start.Sublist p.queue
    rw [hqueue]
    exact h.inOrder
  · show p.queue.Perm (w.cycle.start ++ w.cycle.added)
    rw [hqueue]
    exact h.once

theorem queue_bindRowsOnce (sub : Subdriver) (t : Transport) (p : Poll) :
    (bindRowsOnce sub t p).queue = p.queue := by
  unfold bindRowsOnce
  split <;> rfl

theorem queue_report (sub : Subdriver) (host : Host) (reportId reportType : Nat) (bytes : List Byte) (p : Poll) :
    (decodeReport sub host reportId reportType bytes p).queue = p.queue := by
  unfold decodeReport
  split
  · rfl
  · exact queue_bindRowsOnce sub host.toTransport _

theorem queue_invalidateReport (reportType reportId : Nat) (p : Poll) :
    (invalidateReport reportType reportId p).queue = p.queue := by
  unfold invalidateReport
  split <;> rfl

variable (sub) in
theorem covers_work (h : Covers w) (event : PollEvent) : Covers (work sub w event) := by
  cases event with
  | loop hooks host now raced => exact covers_loop h hooks host now raced
  | noteDataChanged => exact h.of_same rfl rfl
  | pollSoon item => exact covers_pollSoon h item
  | invalidateReport reportType reportId =>
      exact h.of_same (queue_invalidateReport reportType reportId w.poll)
        (goesOn_invalidateReport reportType reportId w.poll).queuePos
  | report host reportId reportType bytes engine =>
      exact h.of_same (queue_report sub host reportId reportType bytes w.poll)
        (goesOn_report sub host reportId reportType bytes engine w.poll).queuePos
  | engine engine => exact h.of_same rfl rfl

theorem covers_run (sub : Subdriver) (data : UPSData) (events : List PollEvent) :
    Covers (run (work sub) (Worked.initial data) events) := by
  apply run_history (P := fun _ w => Covers w) ?_ ?_ events
  · exact ⟨Nat.le_refl 0, rfl, List.Sublist.refl _, List.Perm.refl _, rfl, fun _ h => absurd h List.not_mem_nil⟩
  · intro _ w event hbefore
    exact covers_work sub hbefore event

/-! ### The pruned lists -/

theorem mem_noteReport {reports : List Report} {report r : Report} (h : r ∈ reports) :
    ∃ r' ∈ noteReport reports report, r'.reportType = r.reportType ∧ r'.id = r.id := by
  induction reports with
  | nil => exact absurd h List.not_mem_nil
  | cons first rest ih =>
      unfold noteReport
      split
      · rcases List.mem_cons.mp h with rfl | hrest
        · exact ⟨_, List.mem_cons_self, rfl, rfl⟩
        · exact ⟨r, List.mem_cons_of_mem _ hrest, rfl, rfl⟩
      · rcases List.mem_cons.mp h with rfl | hrest
        · exact ⟨r, List.mem_cons_self, rfl, rfl⟩
        · obtain ⟨r', hr', hsame⟩ := ih hrest
          exact ⟨r', List.mem_cons_of_mem _ hr', hsame⟩

theorem noted_noteReport (reports : List Report) (report : Report) :
    ∃ r ∈ noteReport reports report, r.reportType = report.reportType ∧ r.id = report.id := by
  induction reports with
  | nil => exact ⟨report, List.mem_singleton_self _, rfl, rfl⟩
  | cons first rest ih =>
      unfold noteReport
      split
      · rename_i hsame
        exact ⟨_, List.mem_cons_self, hsame⟩
      · obtain ⟨r, hr, hsame⟩ := ih
        exact ⟨r, List.mem_cons_of_mem _ hr, hsame⟩

variable (sub) in
theorem mem_acceptedReports {usages : List HIDUsageDef} {u : HIDUsageDef} (hu : u ∈ usages)
    (htype : isPollType u.reportType = true) (haccept : sub.acceptPollReport u.reportType u.reportId = true) :
    ∃ r ∈ acceptedReports sub usages, r.reportType = u.reportType ∧ r.id = u.reportId := by
  have hmem : u ∈ usages.filter fun u => isPollType u.reportType && sub.acceptPollReport u.reportType u.reportId := by
    apply List.mem_filter.mpr
    rw [htype, haccept]
    exact ⟨hu, rfl⟩
  unfold acceptedReports
  generalize usages.filter (fun u => isPollType u.reportType && sub.acceptPollReport u.reportType u.reportId) = accepted
    at hmem ⊢
  induction accepted using List.reverseRecOn with
  | nil => exact absurd hmem List.not_mem_nil
  | append_singleton before last ih =>
      rw [List.foldl_append, List.foldl_cons, List.foldl_nil]
      rcases List.mem_append.mp hmem with hbefore | hlast
      · obtain ⟨r, hr, htypeR, hidR⟩ := ih hbefore
        obtain ⟨r', hr', htype', hid'⟩ := mem_noteReport hr
        exact ⟨r', hr', htype'.trans htypeR, hid'.trans hidR⟩
      · rw [List.mem_singleton.mp hlast]
        exact noted_noteReport _ _

theorem mem_of_mem_boundUsages {b : Bound} {usages : List HIDUsageDef} {u : HIDUsageDef} (h : u ∈ Bound.usages b usages) :
    u ∈ usages := by
  unfold Bound.usages at h
  rcases List.mem_append.mp h with hown | htwin
  · exact List.mem_of_getElem? (Option.mem_toList.mp hown)
  · obtain ⟨twin, -, htwin⟩ := Option.bind_eq_some_iff.mp (Option.mem_toList.mp htwin)
    exact List.mem_of_getElem? htwin

/-- A row that is neither kept by the firmware, nor dropped, nor a command. -/
def isLivingRow (b : Bound) : Bool :=
  !hasFlag b.info.hidflags huFlagAbsent && decide (b.role ≠ .dead) && !isCommandRow b.info

theorem readsRow_of_isLivingRow (s : State) {b : Bound} (h : isLivingRow b = true) : readsRow s b = true := by
  unfold isLivingRow at h
  simp only [Bool.and_eq_true, Bool.not_eq_true', decide_eq_true_eq] at h
  obtain ⟨⟨habsent, hrole⟩, hcommand⟩ := h
  unfold readsRow
  simp [habsent, hrole, hcommand]

theorem pruned_keeps_living (sub : Subdriver) (hooks : Hooks) (host : Host) (p : Poll) (hown : hooks.ownPollLists = none)
    {b : Bound} (hb : b ∈ p.engine.rows) (hliving : isLivingRow b = true) {u : HIDUsageDef}
    (hu : u ∈ Bound.usages b host.usages) (htype : u.reportType = 3)
    (haccept : sub.acceptPollReport 3 u.reportId = true) :
    ⟨3, u.reportId, 0⟩ ∈ (pruneFullPoll sub hooks host p).full := by
  have hread : featureReportRead hooks host { p with listsPruned := true } u.reportId = true := by
    unfold featureReportRead
    split
    · rfl
    · apply Bool.or_eq_true_iff.mpr
      refine Or.inl (List.any_eq_true.mpr ⟨b, hb, ?_⟩)
      rw [readsRow_of_isLivingRow _ hliving, Bool.true_and]
      exact List.any_eq_true.mpr ⟨u, hu, by simp [htype]⟩
  obtain ⟨r, hr, hrtype, hrid⟩ := mem_acceptedReports sub (mem_of_mem_boundUsages hu) (by simp [isPollType, htype])
    (by rw [htype]; exact haccept)
  have hfull : (pruneFullPoll sub hooks host p).full
      = (buildPollLists sub hooks host { p with listsPruned := true }).2 := by
    show (pollLists sub hooks host { p with listsPruned := true }).2 = _
    unfold pollLists
    rw [hown]
    rfl
  rw [hfull]
  refine List.mem_map.mpr ⟨r, List.mem_filter.mpr ⟨List.mem_filter.mpr ⟨hr, ?_⟩, ?_⟩, ?_⟩
  · simp [hrtype, htype]
  · rw [hrid, hread]
    simp
  · unfold Report.item
    rw [hrtype, hrid, htype]

/-- Cycles are worked off completely, and pruning loses no report that a living row reads. -/
theorem cycles_are_complete (sub : Subdriver) (data : UPSData) (events : List PollEvent) :
    (∀ c ∈ (run (work sub) (Worked.initial data) events).past, c.Complete)
      ∧ (run (work sub) (Worked.initial data) events).poll.queuePos
          ≤ (run (work sub) (Worked.initial data) events).poll.queue.length
      ∧ ∀ (hooks : Hooks) (host : Host), hooks.ownPollLists = none →
        ∀ b ∈ (run (work sub) (Worked.initial data) events).poll.engine.rows, isLivingRow b = true →
          ∀ u ∈ Bound.usages b host.usages, u.reportType = 3 → sub.acceptPollReport 3 u.reportId = true →
            ⟨3, u.reportId, 0⟩
              ∈ (pruneFullPoll sub hooks host (run (work sub) (Worked.initial data) events).poll).full := by
  have hcovers := covers_run sub data events
  refine ⟨hcovers.past, hcovers.position, ?_⟩
  intro hooks host hown b hb hliving u hu htype haccept
  exact pruned_keeps_living sub hooks host _ hown hb hliving hu htype haccept

/-- The charge of the battery, in a FEATURE report. -/
def chargeUsage : HIDUsageDef :=
  { usage := 0x00850066, reportId := 12, reportType := 3, bitOffset := 0, bitSize := 8, found := true, logicalMin := 0,
    logicalMax := 100, exponent := 0, unit := 0, path := "UPS.PowerSummary.RemainingCapacity",
    collIndex := List.replicate 8 0 }

def chargeRow : Bound :=
  { info :=
      { infoType := "battery.charge", infoFlags := 0, infoLen := 0,
        hidpath := some "UPS.PowerSummary.RemainingCapacity", dfl := some "%.0f", hidflags := 0, conv := .number, lkp := [] }
    idx := 0, twinIdx := none, value := "", has := false, deferred := false, cleared := false, stringIndex := 0,
    last := 0, seen := false, first := .unread, role := .pending }

/-- Two calls, and then the first walk is over. -/
def chargeCalls : List PollEvent :=
  [ .loop Hooks.generic (bareHost [chargeUsage]) 1000 false, .loop Hooks.generic (bareHost [chargeUsage]) 1050 false,
    .engine { State.initial UPSData.empty with rows := [chargeRow], nutBound := true, nutInitDone := true } ]

theorem cycles_are_complete_charge :
    (∀ c ∈ (run (work bareSubdriver) (Worked.initial UPSData.empty) chargeCalls).past, c.Complete)
      ∧ (run (work bareSubdriver) (Worked.initial UPSData.empty) chargeCalls).poll.queuePos
          ≤ (run (work bareSubdriver) (Worked.initial UPSData.empty) chargeCalls).poll.queue.length
      ∧ ⟨3, 12, 0⟩ ∈ (pruneFullPoll bareSubdriver Hooks.generic (bareHost [chargeUsage])
          (run (work bareSubdriver) (Worked.initial UPSData.empty) chargeCalls).poll).full := by
  obtain ⟨hpast, hpos, hpruned⟩ := cycles_are_complete bareSubdriver UPSData.empty chargeCalls
  refine ⟨hpast, hpos, ?_⟩
  exact hpruned Hooks.generic (bareHost [chargeUsage]) rfl chargeRow (List.mem_singleton_self _) (by decide) chargeUsage
    (List.mem_singleton_self _) rfl rfl

end EspNut.GenericDriver
