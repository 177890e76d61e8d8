import EspNut.Lib.Run
import EspNut.Log.Dispatcher

/-!
# What becomes of a log line

In every run, however the tasks take turns, the outputs are given the lines that found room in the queue, each once and in the order they were written; what found no room is counted, and told but for what the next report will tell. The web interface lists the last fifty lines, with numbers that go on by one.
-/

namespace EspNut

open Lib

namespace LogFanout

/-! ### One output -/

def handedLines (outcomes : List Outcome) : List LogRecord :=
  outcomes.filterMap fun
    | .handed 0 record _ => some record
    | _ => none

@[simp] theorem handedLines_append (first second : List Outcome) :
    handedLines (first ++ second) = handedLines first ++ handedLines second := List.filterMap_append ..

/-- A line is for an output that is enabled and ready when it is a notice, or when it is not the output's own and its filter lets it pass. -/
def isDue (record : LogRecord) (now : UInt32) (out : LogOutput) : Bool :=
  out.enabled && out.ready
    && (record.notice || !isOwnLine out record && decide ((LogOutputFilter.check record.level now out.filter).1 = .send))

/-- A line that is for the output is handed over once, any other not at all. -/
theorem handedLines_deliverTo (record : LogRecord) (now : UInt32) (transport : Transport) (out : LogOutput) :
    handedLines (deliverTo record now transport out).2 = if isDue record now out = true then [record] else [] := by
  simp only [deliverTo, deliverWith]
  split
  · rename_i hoff
    simp [handedLines, isDue, hoff]
  rename_i hon
  split
  · rename_i hown
    simp [handedLines, isDue, hown]
  rename_i hother
  split
  · rename_i hdown
    simp [handedLines, isDue, hdown]
  rename_i hready
  rw [Bool.not_eq_false] at hon hready
  split
  · rename_i hnotice
    simp [handedLines, isDue, hon, hready, hnotice]
  rename_i hplain
  rw [Bool.not_eq_true] at hplain
  have hforeign : isOwnLine out record = false := by
    rw [← Bool.not_eq_true]
    exact fun hown => hother ⟨hplain, hown⟩
  have hdue : isDue record now out = decide ((LogOutputFilter.check record.level now out.filter).1 = .send) := by
    simp [isDue, hon, hready, hplain, hforeign]
  rw [hdue]
  cases LogOutputFilter.check record.level now out.filter with
  | mk decision filter =>
      cases decision with
      | belowLevel => rfl
      | rateLimited => rfl
      | send =>
          simp only [LogOutputFilter.takeSuppressed]
          by_cases hmissed : 0 < filter.suppressed
          · obtain ⟨missed, hmissed⟩ := Nat.exists_eq_succ_of_ne_zero (Nat.ne_of_gt hmissed)
            simp [handedLines, hmissed]
          · simp [handedLines, hmissed]

def dueOf (out : LogOutput) : Event → List LogRecord
  | .changed _ _ => []
  | .line record now _ => if isDue record now out = true then [record] else []

/-- The lines that were for an output when they came. -/
def dueLines (i : Nat) : Served → List Event → List LogRecord
  | _, [] => []
  | served, event :: rest => dueOf served.out event ++ dueLines i (serve i served event) rest

theorem handedLines_serve (i : Nat) (served : Served) (event : Event) :
    handedLines (serve i served event).outcomes = handedLines served.outcomes ++ dueOf served.out event := by
  cases event with
  | changed output change =>
      simp only [serve, dueOf, List.append_nil]
      split <;> rfl
  | line record now transports => simp only [serve, dueOf, handedLines_append, handedLines_deliverTo]

/-- An output is handed the lines that are for it. -/
theorem handedLines_run (i : Nat) (served : Served) (events : List Event) :
    handedLines (run (serve i) served events).outcomes = handedLines served.outcomes ++ dueLines i served events := by
  induction events generalizing served with
  | nil => exact (List.append_nil _).symm
  | cons event rest ih => rw [run_cons, ih, handedLines_serve, List.append_assoc, dueLines]

end LogFanout

namespace Logging

/-! ### The lines of a run -/

def Given.lines (given : List Given) : List LogRecord :=
  given.filterMap fun
    | .line record _ _ => some record
    | _ => none

/-- How many lines the reports said were lost. -/
def Given.told (given : List Given) : Nat :=
  (given.map fun
    | .lost count _ _ => count.toNat
    | _ => 0).sum

theorem Given.lines_append (first second : List Given) : lines (first ++ second) = lines first ++ lines second :=
  List.filterMap_append ..

theorem Given.told_append (first second : List Given) : told (first ++ second) = told first + told second := by
  unfold told
  rw [List.map_append, List.sum_append]

/-- The system, the lines that were written, those of them that found room in the queue, how many did not, and what the outputs were given. -/
structure Account where
  system : Logging
  written : List (LogMessage × Bool)
  accepted : List LogRecord
  refused : Nat
  given : List Given

def Account.initial (memory : Vector LogMessage AppLogger.maxLogs) (tags : List (List Char)) : Account :=
  ⟨Logging.initial memory tags, [], [], 0, []⟩

def accountStep (a : Account) (e : LogEvent) : Account :=
  let next : Account := { a with system := (a.system.step e).1, given := a.given ++ (a.system.step e).2 }
  match e with
  | .write level msg notice now =>
      let next : Account := { next with written := a.written ++ [(⟨UInt32.ofNat (a.written.length + 1), now, level, msg⟩, notice)] }
      if a.system.dispatcher.queue.length < LogDispatcher.queueLength then
        { next with accepted := a.accepted ++ [LogDispatcher.recordOf level msg notice now] }
      else { next with refused := a.refused + 1 }
  | _ => next

/-- The record of a line that was written. -/
def recordOf (m : LogMessage × Bool) : LogRecord := LogDispatcher.recordOf m.1.level m.1.msg m.2 m.1.time

/-! ### Steps -/

theorem getLogs_eq (l : AppLogger) : l.getLogs = l.logBuffer.recent.reverse :=
  (Ring.reverse_recent (by decide) l.logBuffer).symm

/-- A ring with the last lines, and the number of the next. -/
structure Numbered (logger : AppLogger) (written : List LogMessage) : Prop where
  recent : logger.logBuffer.recent = written.reverse.take AppLogger.maxLogs
  next : logger.nextId = UInt32.ofNat (written.length + 1)

theorem numbered_write {logger : AppLogger} {written : List LogMessage} (level msg : String) (now : UInt32)
    (h : Numbered logger written) :
    Numbered (logger.write level msg now) (written ++ [⟨UInt32.ofNat (written.length + 1), now, level, msg⟩]) := by
  constructor
  · rw [List.reverse_append, ← h.next]
    exact Ring.recent_push_take h.recent
  · simp only [AppLogger.write, h.next, List.length_append, List.length_singleton, UInt32.ofNat_add]
    rfl

theorem listed_of_numbered {logger : AppLogger} {written : List LogMessage} (h : Numbered logger written) :
    logger.getLogs = written.drop (written.length - AppLogger.maxLogs) := by
  rw [getLogs_eq, h.recent, List.take_reverse, List.reverse_reverse]

/-- A step of the log task, or a change of an output: what leaves the queue is given to the outputs, and what was lost is told. -/
structure Handed (s : Logging) (after : Logging × List Given) : Prop where
  logger : after.1.logger = s.logger
  fifo : s.dispatcher.queue = Given.lines after.2 ++ after.1.dispatcher.queue
  drops : after.1.dispatcher.queueDrops = s.dispatcher.queueDrops
  told : after.1.dispatcher.reportedDrops = s.dispatcher.reportedDrops ∧ Given.told after.2 = 0
    ∨ after.1.dispatcher.reportedDrops = s.dispatcher.queueDrops
      ∧ Given.told after.2 = (s.dispatcher.queueDrops - s.dispatcher.reportedDrops).toNat
  outputs : after.1.outputs = run LogFanout.step s.outputs (after.2.map Given.event)

theorem handed_stage (s : Logging) (stage : LogDispatcher.Stage) :
    Handed s ({ s with dispatcher := { s.dispatcher with stage } }, []) :=
  ⟨rfl, rfl, rfl, Or.inl ⟨rfl, rfl⟩, rfl⟩

theorem handed_same (s : Logging) : Handed s (s, []) := ⟨rfl, rfl, rfl, Or.inl ⟨rfl, rfl⟩, rfl⟩

/-- The report tells exactly of those lost since the report before, modulo the size of the counter. -/
theorem handed_report (s : Logging) (transports : Nat → LogFanout.Transport) : Handed s (s.step (.report transports)) := by
  simp only [step]
  split
  · rename_i now hstage
    split
    · exact ⟨rfl, rfl, rfl, Or.inr ⟨rfl, Nat.add_zero _⟩, rfl⟩
    · exact handed_stage s _
  · exact handed_same s

/-- The line that is taken is the one that waited longest. -/
theorem handed_take (s : Logging) (now : UInt32) (transports : Nat → LogFanout.Transport) :
    Handed s (s.step (.take now transports)) := by
  simp only [step]
  split
  · split
    · exact handed_stage s _
    · rename_i record queue hqueue
      exact ⟨rfl, hqueue, rfl, Or.inl ⟨rfl, rfl⟩, rfl⟩
  · exact handed_same s

/-- Where every line is. -/
structure Balanced (tags : List (List Char)) (a : Account) : Prop where
  fifo : a.accepted = Given.lines a.given ++ a.system.dispatcher.queue
  room : a.system.dispatcher.queue.length ≤ LogDispatcher.queueLength
  accepted : a.accepted.Sublist (a.written.map recordOf)
  counted : a.accepted.length + a.refused = a.written.length
  drops : a.system.dispatcher.queueDrops = UInt32.ofNat a.refused
  reported : a.system.dispatcher.reportedDrops = UInt32.ofNat (Given.told a.given) ∧ Given.told a.given ≤ a.refused
  outputs : a.system.outputs = run LogFanout.step (tags.map LogFanout.newOutput) (a.given.map Given.event)
  numbered : Numbered a.system.logger (a.written.map Prod.fst)

variable {tags : List (List Char)} {a : Account}

theorem balanced_initial (memory : Vector LogMessage AppLogger.maxLogs) (tags : List (List Char)) :
    Balanced tags (Account.initial memory tags) :=
  ⟨rfl, Nat.zero_le _, List.Sublist.refl _, rfl, rfl, ⟨rfl, le_rfl⟩, rfl, ⟨Ring.recent_empty .., rfl⟩⟩

/-- A line that is written finds room, or is counted. -/
theorem balanced_write (h : Balanced tags a) (level msg : String) (notice : Bool) (now : UInt32) :
    Balanced tags (accountStep a (.write level msg notice now)) := by
  have hnumbered := numbered_write level msg now h.numbered
  have hmap (m : LogMessage) : a.written.map Prod.fst ++ [m] = (a.written ++ [(m, notice)]).map Prod.fst := by simp
  rw [List.length_map, hmap] at hnumbered
  have hrecord : recordOf (⟨UInt32.ofNat (a.written.length + 1), now, level, msg⟩, notice)
      = LogDispatcher.recordOf level msg notice now := rfl
  have hcounted := h.counted
  simp only [accountStep, step, List.append_nil]
  by_cases hroom : a.system.dispatcher.queue.length < LogDispatcher.queueLength
  · have hsubmit : a.system.dispatcher.submit (LogDispatcher.recordOf level msg notice now)
        = { a.system.dispatcher with
            queue := a.system.dispatcher.queue ++ [LogDispatcher.recordOf level msg notice now] } := if_pos hroom
    rw [if_pos hroom, hsubmit]
    refine ⟨?_, ?_, ?_, ?_, h.drops, h.reported, h.outputs, hnumbered⟩
    · simp only [h.fifo, List.append_assoc]
    · simp only [List.length_append, List.length_singleton]
      omega
    · rw [List.map_append, List.map_singleton, hrecord]
      exact h.accepted.append (List.Sublist.refl _)
    · simp only [List.length_append, List.length_singleton]
      omega
  · have hsubmit : a.system.dispatcher.submit (LogDispatcher.recordOf level msg notice now)
        = { a.system.dispatcher with queueDrops := a.system.dispatcher.queueDrops + 1 } := if_neg hroom
    rw [if_neg hroom, hsubmit]
    refine ⟨h.fifo, h.room, ?_, ?_, ?_, ⟨h.reported.1, Nat.le_succ_of_le h.reported.2⟩, h.outputs, hnumbered⟩
    · rw [List.map_append]
      exact h.accepted.trans (List.sublist_append_left _ _)
    · simp only [List.length_append, List.length_singleton]
      omega
    · simp only [h.drops, UInt32.ofNat_add]
      rfl

theorem balanced_handed (h : Balanced tags a) {after : Logging × List Given} (hafter : Handed a.system after) :
    Balanced tags { a with system := after.1, given := a.given ++ after.2 } := by
  obtain ⟨hreported, htold⟩ := h.reported
  refine ⟨?_, ?_, h.accepted, h.counted, ?_, ?_, ?_, ?_⟩
  · rw [Given.lines_append, List.append_assoc, ← hafter.fifo]
    exact h.fifo
  · have hlength := congrArg List.length hafter.fifo
    rw [List.length_append] at hlength
    have hroom := h.room
    dsimp only
    omega
  · exact hafter.drops.trans h.drops
  · dsimp only
    rw [Given.told_append]
    obtain ⟨hsame, hnone⟩ | ⟨hall, hcount⟩ := hafter.told
    · rw [hsame, hnone]
      exact h.reported
    · have hle : (a.system.dispatcher.queueDrops - a.system.dispatcher.reportedDrops).toNat ≤ a.refused - Given.told a.given := by
        rw [h.drops, hreported]
        exact Clock.toNat_sub htold ▸ Nat.mod_le ..
      rw [hall, hcount]
      refine ⟨?_, by omega⟩
      rw [UInt32.ofNat_add, ← hreported, UInt32.ofNat_toNat, UInt32.add_comm, UInt32.sub_add_cancel]
  · dsimp only
    rw [hafter.outputs, h.outputs, List.map_append, run_append]
  · dsimp only
    rw [hafter.logger]
    exact h.numbered

theorem balanced_step (a : Account) (e : LogEvent) (h : Balanced tags a) : Balanced tags (accountStep a e) := by
  cases e with
  | write level msg notice now => exact balanced_write h level msg notice now
  | changed output change => exact balanced_handed h ⟨rfl, rfl, rfl, Or.inl ⟨rfl, rfl⟩, rfl⟩
  | poll now =>
      have hafter : Handed a.system (a.system.step (.poll now)) := by
        simp only [step]
        split
        · exact handed_stage a.system _
        · exact handed_same a.system
      exact balanced_handed h hafter
  | report transports => exact balanced_handed h (handed_report a.system transports)
  | hold =>
      have hafter : Handed a.system (a.system.step .hold) := by
        simp only [step]
        split
        · exact handed_stage a.system _
        · exact handed_same a.system
      exact balanced_handed h hafter
  | take now transports => exact balanced_handed h (handed_take a.system now transports)

/-! ### Runs -/

/-- What is known of the lines of a run, of all outputs and of the web interface. -/
structure Kept (tags : List (List Char)) (a : Account) : Prop where
  /-- the lines that found room are those the outputs were given, and those in the queue, in order -/
  fifo : a.accepted = Given.lines a.given ++ a.system.dispatcher.queue
  room : a.system.dispatcher.queue.length ≤ LogDispatcher.queueLength
  accepted : a.accepted.Sublist (a.written.map recordOf)
  counted : a.accepted.length + a.refused = a.written.length
  /-- what was told and what the next report will tell -/
  told : a.refused < 2 ^ 32 →
    Given.told a.given + (a.system.dispatcher.queueDrops - a.system.dispatcher.reportedDrops).toNat = a.refused
  /-- the outputs are where all they were given, and nothing else, has brought them -/
  outputs : a.system.outputs = run LogFanout.step (tags.map LogFanout.newOutput) (a.given.map Given.event)
  /-- each was handed the lines that were for it -/
  handed : ∀ i tag, tags[i]? = some tag → ∃ served, a.system.outputs[i]? = some served
    ∧ LogFanout.handedLines served.outcomes = LogFanout.dueLines i (LogFanout.newOutput tag) (a.given.map Given.event)
  listed : a.system.logger.getLogs = (a.written.map Prod.fst).drop (a.written.length - AppLogger.maxLogs)

theorem Balanced.kept (h : Balanced tags a) : Kept tags a := by
  refine ⟨h.fifo, h.room, h.accepted, h.counted, fun hfew => ?_, h.outputs, fun i tag htag => ?_, ?_⟩
  · obtain ⟨hreported, htold⟩ := h.reported
    have hwaiting : (UInt32.ofNat a.refused - UInt32.ofNat (Given.told a.given)).toNat = a.refused - Given.told a.given := by
      have hsub : (UInt32.ofNat a.refused - UInt32.ofNat (Given.told a.given)).toNat
          = (a.refused - Given.told a.given) % 2 ^ 32 := Clock.toNat_sub htold
      rw [hsub, Nat.mod_eq_of_lt (by omega)]
    rw [h.drops, hreported, hwaiting]
    omega
  · refine ⟨run (LogFanout.serve i) (LogFanout.newOutput tag) (a.given.map Given.event), ?_, LogFanout.handedLines_run ..⟩
    rw [h.outputs, LogFanout.getElem?_run, List.getElem?_map, htag]
    rfl
  · have hlisted := listed_of_numbered h.numbered
    rwa [List.length_map] at hlisted

theorem system_accountStep (a : Account) (e : LogEvent) : (accountStep a e).system = (a.system.step e).1 := by
  cases e with
  | write level msg notice now =>
      simp only [accountStep]
      split <;> rfl
  | changed output change => rfl
  | poll now => rfl
  | report transports => rfl
  | hold => rfl
  | take now transports => rfl

theorem system_run (a : Account) (events : List LogEvent) :
    (run accountStep a events).system = run (fun s e => (s.step e).1) a.system events := by
  induction events generalizing a with
  | nil => rfl
  | cons e rest ih => rw [run_cons, run_cons, ih, system_accountStep]

theorem kept_run (memory : Vector LogMessage AppLogger.maxLogs) (tags : List (List Char)) (events : List LogEvent) :
    Kept tags (run accountStep (Account.initial memory tags) events) :=
  (run_invariant (balanced_initial memory tags) (fun a e _ h => balanced_step a e h) events fun _ _ => trivial).kept

/-- However the tasks take turns, no line that found room is lost, doubled or overtaken, and those that found none are counted. -/
theorem log_run (memory : Vector LogMessage AppLogger.maxLogs) (tags : List (List Char)) (events : List LogEvent) :
    (run accountStep (Account.initial memory tags) events).system
        = run (fun s e => (s.step e).1) (Logging.initial memory tags) events
      ∧ Kept tags (run accountStep (Account.initial memory tags) events) :=
  ⟨system_run _ events, kept_run memory tags events⟩

end Logging

end EspNut
