import EspNut.Lib.Ring
import EspNut.Log.LogFanout

/-!
# From the logger to the outputs

A line is written by any task: the logger keeps the last fifty for the web interface, and hands a copy to a queue of forty without waiting. A task of its own takes the lines from the queue to the outputs, and tells them of the lines that the queue had no room for. The steps of that task and the lines of the others come in any order.
-/

namespace EspNut

open Lib

/-! ### Levels -/

def logLevelName : LogLevel → String
  | .info => "INFO"
  | .warn => "WARN"
  | .error => "ERROR"

def sameName (name other : String) : Bool := name.toList.map Char.toLower == other.toList.map Char.toLower

def parseLogLevel (name : String) : Option LogLevel :=
  [LogLevel.info, .warn, .error].find? fun level => sameName name (logLevelName level)

/-- What is no level counts as information, but for one more name of a warning. -/
def logLevelOf (name : String) : LogLevel :=
  match parseLogLevel name with
  | some level => level
  | none => if sameName name "WARNING" then .warn else .info

/-! ### The lines that are kept -/

structure LogMessage where
  id : UInt32
  time : UInt32
  level : String
  msg : String
  deriving DecidableEq

def AppLogger.maxLogs : Nat := 50

structure AppLogger where
  logBuffer : Ring LogMessage AppLogger.maxLogs
  nextId : UInt32

namespace AppLogger

def write (level msg : String) (now : UInt32) (l : AppLogger) : AppLogger where
  logBuffer := l.logBuffer.push ⟨l.nextId, now, level, msg⟩
  nextId := l.nextId + 1

/-- The lines in the order of the list, from the slot of the oldest one on. -/
def getLogs (l : AppLogger) : List LogMessage :=
  let startIdx := if l.logBuffer.count < maxLogs then 0 else l.logBuffer.next
  (List.range l.logBuffer.count).map fun i =>
    l.logBuffer.slots.get ⟨(startIdx + i) % maxLogs, Nat.mod_lt _ (by decide)⟩

end AppLogger

/-! ### The queue and its task -/

/-- Where the task is between two of its steps, with the time of this round. -/
inductive LogDispatcher.Stage where
  | waiting
  | polled (now : UInt32)
  | reported (now : UInt32)
  /-- no output is waited for: the next line may go -/
  | released
  deriving DecidableEq

structure LogDispatcher where
  queue : List LogRecord
  queueDrops : UInt32
  reportedDrops : UInt32
  stage : LogDispatcher.Stage

namespace LogDispatcher

def queueLength : Nat := 40

/-- The size of a record's text, with the end mark. -/
def recordMsg : Nat := 240

def initial : LogDispatcher := ⟨[], 0, 0, .waiting⟩

def recordOf (level msg : String) (notice : Bool) (uptimeMs : UInt32) : LogRecord :=
  { uptimeMs, level := logLevelOf level, notice, msg := (msg.toList.takeWhile (· ≠ '\x00')).take (recordMsg - 1) }

/-- A full queue does not take the line. -/
def submit (record : LogRecord) (d : LogDispatcher) : LogDispatcher :=
  if d.queue.length < queueLength then { d with queue := d.queue ++ [record] } else { d with queueDrops := d.queueDrops + 1 }

def lost (drops : UInt32) (now : UInt32) : LogRecord where
  uptimeMs := now
  level := .warn
  notice := false
  msg := "[LOG] ".toList ++ Nat.toDigits 10 drops.toNat ++ " lines lost: log queue full".toList

end LogDispatcher

/-! ### All of it -/

structure Logging where
  logger : AppLogger
  dispatcher : LogDispatcher
  outputs : List LogFanout.Served

inductive LogEvent where
  /-- a line of any task, the task of the log included -/
  | write (level msg : String) (notice : Bool) (now : UInt32)
  /-- an output is configured, or finds or loses its network -/
  | changed (output : Nat) (change : LogFanout.Change)
  | poll (now : UInt32)
  | report (transports : Nat → LogFanout.Transport)
  | hold
  | take (now : UInt32) (transports : Nat → LogFanout.Transport)

/-- What the outputs are given: a line of the queue, the number of those that were lost, or a change of one output. -/
inductive Given where
  | line (record : LogRecord) (now : UInt32) (transports : Nat → LogFanout.Transport)
  | lost (count : UInt32) (now : UInt32) (transports : Nat → LogFanout.Transport)
  | changed (output : Nat) (change : LogFanout.Change)

/-- What the outputs see of it. -/
def Given.event : Given → LogFanout.Event
  | .line record now transports => .line record now transports
  | .lost count now transports => .line (LogDispatcher.lost count now) now transports
  | .changed output change => .changed output change

namespace Logging

def initial (memory : Vector LogMessage AppLogger.maxLogs) (tags : List (List Char)) : Logging where
  logger := ⟨Ring.empty (by decide) memory, 1⟩
  dispatcher := LogDispatcher.initial
  outputs := tags.map LogFanout.newOutput

/-- Hands something on to all outputs. -/
def give (given : Given) (s : Logging) : Logging × List Given :=
  ({ s with outputs := LogFanout.step s.outputs given.event }, [given])

/-- The log task polls, tells of lost lines, and unless lines are held takes the next one, for which it may wait a second; it does nothing else. A step comes with what it hands on. -/
def step (s : Logging) : LogEvent → Logging × List Given
  | .write level msg notice now =>
      ({ s with
        logger := s.logger.write level msg now
        dispatcher := s.dispatcher.submit (LogDispatcher.recordOf level msg notice now) }, [])
  | .changed output change => s.give (.changed output change)
  | .poll now =>
      if s.dispatcher.stage = .waiting then ({ s with dispatcher := { s.dispatcher with stage := .polled now } }, []) else (s, [])
  | .report transports =>
      match s.dispatcher.stage with
      | .polled now =>
          let drops := s.dispatcher.queueDrops
          let lost := drops - s.dispatcher.reportedDrops
          let next := { s with dispatcher := { s.dispatcher with stage := .reported now } }
          if drops ≠ s.dispatcher.reportedDrops then
            { next with dispatcher := { next.dispatcher with reportedDrops := drops } }.give (.lost lost now transports)
          else (next, [])
      | _ => (s, [])
  | .hold =>
      match s.dispatcher.stage with
      | .reported now =>
          let held := LogFanout.shouldHold (s.outputs.map LogFanout.Served.out) now
          ({ s with dispatcher := { s.dispatcher with stage := if held then .waiting else .released } }, [])
      | _ => (s, [])
  | .take now transports =>
      match s.dispatcher.stage with
      | .released =>
          let s := { s with dispatcher := { s.dispatcher with stage := .waiting } }
          match s.dispatcher.queue with
          | [] => (s, [])
          | record :: queue => { s with dispatcher := { s.dispatcher with queue } }.give (.line record now transports)
      | _ => (s, [])

end Logging

end EspNut
