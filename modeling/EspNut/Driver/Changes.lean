import EspNut.Driver.Cycles

/-!
# Noted changes

Other tasks note at any moment that a setting of the device may have changed. The note stands until a full cycle takes it, the next cycle chosen is a full one, and its queue leaves no report of the full list out.
-/

namespace EspNut.GenericDriver

open Lib NutTable

/-- A cycle at its start: whether a change was noted before it was chosen, and before its queue was built. -/
structure Start where
  full : Bool
  notedAtChoice : Bool
  notedAtQueue : Bool
  queue : List PollItem
  fullList : List PollItem
  deriving DecidableEq

/-- A poll with whether a change was noted since the last full cycle started, and all cycles so far. -/
structure Noted where
  poll : Poll
  noted : Bool
  starts : List Start

def Noted.initial (data : UPSData) : Noted := ⟨Poll.initial data, false, []⟩

def noteStep (sub : Subdriver) (n : Noted) (event : PollEvent) : Noted :=
  let poll := (pollStep sub n.poll event).1
  match event with
  | .loop hooks host now raced =>
      match beginCycle sub hooks host (millis now) raced n.poll with
      | (_, none) => { n with poll, noted := n.noted || raced }
      | (begun, some full) =>
          { poll
            noted := if full then false else n.noted || raced
            starts := n.starts ++ [⟨full, n.noted, n.noted || raced, begun.queue, begun.full⟩] }
  | .noteDataChanged => { n with poll, noted := true }
  | _ => { n with poll }

/-- The cycle is a full one when it should be, and leaves no report out when it may not. -/
def Start.Heeds (start : Start) : Prop :=
  (start.notedAtChoice = true → start.full = true)
    ∧ (start.notedAtQueue = true → start.full = true → ∀ item ∈ start.fullList, item ∈ start.queue)

/-- The flag is the note, and every cycle so far has heeded it. -/
structure Heeded (n : Noted) : Prop where
  flag : n.poll.dataChanged = n.noted
  starts : ∀ start ∈ n.starts, start.Heeds

variable {sub : Subdriver} {n : Noted}

/-- A full cycle that reads everything again leaves nothing of its list out. -/
theorem cycleReports_of_rereads (host : Host) {p : Poll} (h : p.cycleRereads = true) :
    cycleReports host true p = p.full := by
  unfold cycleReports
  apply List.filter_eq_self.mpr
  intro item _
  simp [h]

/-- A full cycle that takes a note has every report of the full list in its queue. -/
theorem mem_startCycle_of_changed (hooks : Hooks) (host : Host) (now : UInt32) {p : Poll} (h : p.dataChanged = true) :
    ∀ item ∈ (startCycle hooks host true now p).full, item ∈ (startCycle hooks host true now p).queue := by
  intro item hitem
  have hstrings := goesOn_appendNewStrings hooks host (clearCycle true p)
  have htaken := (takeChange_cases host (appendNewStrings hooks host (clearCycle true p))).2
  have hrereads := htaken.trans (hstrings.dataChanged.trans h)
  apply List.mem_append_right
  show item ∈ cycleReports host true (takeChange host (appendNewStrings hooks host (clearCycle true p)))
  rw [cycleReports_of_rereads host hrereads]
  exact hitem

theorem dueCycle_of_changed {hooks : Hooks} {now : UInt32} {p : Poll} (h : p.dataChanged = true) {full : Bool}
    (hdue : dueCycle hooks now p = some full) : full = true := by
  unfold dueCycle at hdue
  dsimp only at hdue
  split at hdue
  · exact absurd hdue (by simp)
  · rw [if_pos (Or.inr (Or.inr h))] at hdue
    exact (Option.some.inj hdue).symm

theorem dataChanged_issue (hooks : Hooks) (host : Host) (now : UInt32) (p : Poll) :
    (issue hooks host now p).1.dataChanged = p.dataChanged := by
  rcases issue_cases hooks host now p with ⟨-, hissue⟩ | ⟨-, -, hissue⟩ | ⟨-, item, -, hissue⟩
  · rw [hissue]
  · rw [hissue]
  · rw [hissue]

theorem noteStep_goesOn {hooks : Hooks} {host : Host} {now : Nat} {raced : Bool} {begun : Poll}
    (h : beginCycle sub hooks host (millis now) raced n.poll = (begun, none)) :
    noteStep sub n (.loop hooks host now raced)
      = ⟨(issue hooks host (millis now) begun).1, n.noted || raced, n.starts⟩ := by
  unfold noteStep
  dsimp only
  rw [pollStep_loop, h]

theorem noteStep_starts {hooks : Hooks} {host : Host} {now : Nat} {raced full : Bool} {begun : Poll}
    (h : beginCycle sub hooks host (millis now) raced n.poll = (begun, some full)) :
    noteStep sub n (.loop hooks host now raced)
      = ⟨(issue hooks host (millis now) begun).1, if full then false else n.noted || raced,
        n.starts ++ [⟨full, n.noted, n.noted || raced, begun.queue, begun.full⟩]⟩ := by
  unfold noteStep
  dsimp only
  rw [pollStep_loop, h]

theorem heeded_loop (h : Heeded n) (hooks : Hooks) (host : Host) (now : Nat) (raced : Bool) :
    Heeded (noteStep sub n (.loop hooks host now raced)) := by
  rcases beginCycle_cases sub hooks host (millis now) raced n.poll with ⟨-, hnone, hgoes⟩ | ⟨full, hdue, hbegin⟩
  · rw [noteStep_goesOn (Prod.ext rfl hnone)]
    refine ⟨?_, h.starts⟩
    rw [dataChanged_issue, hgoes.dataChanged, dataChanged_noteRace, h.flag]
  · have hflag : (noteRace raced (prepare sub hooks host n.poll)).dataChanged = (n.noted || raced) := by
      rw [dataChanged_noteRace, (goesOn_prepare sub hooks host n.poll).dataChanged, h.flag]
    rw [noteStep_starts hbegin]
    refine ⟨?_, ?_⟩
    · rw [dataChanged_issue, (starts_startCycle hooks host full (millis now) _).dataChanged, hflag]
    · intro start hstart
      rcases List.mem_append.mp hstart with hearlier | hlast
      · exact h.starts start hearlier
      · rw [List.mem_singleton.mp hlast]
        refine ⟨?_, ?_⟩
        · intro hnoted
          have hbefore := (goesOn_prepare sub hooks host n.poll).dataChanged.trans h.flag
          exact dueCycle_of_changed (hbefore.trans hnoted) hdue
        · intro hnoted hfull
          obtain rfl : full = true := hfull
          exact mem_startCycle_of_changed hooks host (millis now) (hflag.trans hnoted)

theorem heeded_noteStep (h : Heeded n) (event : PollEvent) : Heeded (noteStep sub n event) := by
  cases event with
  | loop hooks host now raced => exact heeded_loop h hooks host now raced
  | noteDataChanged => exact ⟨rfl, h.starts⟩
  | pollSoon item =>
      refine ⟨?_, h.starts⟩
      show (pollSoon item n.poll).dataChanged = n.noted
      unfold pollSoon
      split <;> exact h.flag
  | invalidateReport reportType reportId =>
      exact ⟨(goesOn_invalidateReport reportType reportId n.poll).dataChanged.trans h.flag, h.starts⟩
  | report host reportId reportType bytes engine =>
      exact ⟨(goesOn_report sub host reportId reportType bytes engine n.poll).dataChanged.trans h.flag, h.starts⟩
  | engine engine => exact ⟨h.flag, h.starts⟩

/-- No noted change is lost, whatever calls, reports and notes come in which order. -/
theorem no_change_is_lost (sub : Subdriver) (data : UPSData) (events : List PollEvent) :
    (run (noteStep sub) (Noted.initial data) events).poll.dataChanged
        = (run (noteStep sub) (Noted.initial data) events).noted
      ∧ ∀ start ∈ (run (noteStep sub) (Noted.initial data) events).starts,
        (start.notedAtChoice = true → start.full = true)
          ∧ (start.notedAtQueue = true → start.full = true → ∀ item ∈ start.fullList, item ∈ start.queue) := by
  have hheeded : Heeded (run (noteStep sub) (Noted.initial data) events) := by
    apply run_history (P := fun _ n => Heeded n) ?_ ?_ events
    · exact ⟨rfl, fun _ h => absurd h List.not_mem_nil⟩
    · intro _ n event hbefore
      exact heeded_noteStep hbefore event
  exact ⟨hheeded.flag, hheeded.starts⟩

/-- A driver with two reports in its lists. -/
def shortHooks : Hooks := { Hooks.generic with ownPollLists := some ([⟨3, 1, 8⟩], [⟨3, 1, 8⟩, ⟨3, 2, 8⟩]) }

def changedInCycle : List PollEvent :=
  [ .loop shortHooks (bareHost []) 1000 false, .noteDataChanged, .loop shortHooks (bareHost []) 1050 false,
    .loop shortHooks (bareHost []) 1100 false ]

def cycleAfterChange : Start :=
  ⟨true, true, true, [⟨3, 1, 8⟩, ⟨3, 2, 8⟩], [⟨3, 1, 8⟩, ⟨3, 2, 8⟩]⟩

theorem no_change_is_lost_in_cycle :
    (run (noteStep bareSubdriver) (Noted.initial UPSData.empty) changedInCycle).poll.dataChanged
        = (run (noteStep bareSubdriver) (Noted.initial UPSData.empty) changedInCycle).noted
      ∧ cycleAfterChange ∈ (run (noteStep bareSubdriver) (Noted.initial UPSData.empty) changedInCycle).starts
      ∧ cycleAfterChange.full = true ∧ ∀ item ∈ cycleAfterChange.fullList, item ∈ cycleAfterChange.queue := by
  obtain ⟨hflag, hstarts⟩ := no_change_is_lost bareSubdriver UPSData.empty changedInCycle
  have hstarted : cycleAfterChange ∈ (run (noteStep bareSubdriver) (Noted.initial UPSData.empty) changedInCycle).starts := by
    decide +kernel
  obtain ⟨hchoice, hqueue⟩ := hstarts cycleAfterChange hstarted
  exact ⟨hflag, hstarted, hchoice rfl, hqueue rfl (hchoice rfl)⟩

end EspNut.GenericDriver
