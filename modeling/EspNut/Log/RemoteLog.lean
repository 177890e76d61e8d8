import EspNut.Log.SyslogOutput

/-!
# The log on its way to the server

The logger, the queue with its task, and the syslog output together. Lines are written by any task, settings come from the web interface, and the log task goes its rounds; the lines that the output writes about itself are lines of the log too.
-/

namespace EspNut

/-- What is printed of a line, in a buffer on the stack. -/
def AppLogger.printed (msg : String) : String := String.ofList (msg.toList.take 255)

namespace SyslogOutput

/-- What the log task sees of the output. -/
def output (networkUp : Bool) (s : SyslogOutput) : LogOutput where
  tag := tag
  enabled := s.active.enabled
  ready := s.ready networkUp
  enabledAt := s.enabledAt
  filter := s.filter
  stats := s.stats

/-- What the log task has changed of it. -/
def withOutput (out : LogOutput) (s : SyslogOutput) : SyslogOutput := { s with filter := out.filter, stats := out.stats }

end SyslogOutput

structure RemoteLog where
  logger : AppLogger
  dispatcher : LogDispatcher
  syslog : SyslogOutput

/-- What a delivery meets: the link, and the answers to a summary and to the line itself. -/
structure LineAnswers where
  networkUp : Bool
  toSummary : SyslogOutput.DeliverAnswers
  toLine : SyslogOutput.DeliverAnswers

inductive RemoteEvent where
  /-- a line of any task -/
  | write (level msg : String) (notice : Bool) (now : UInt32)
  /-- new settings from the web interface, or those that are loaded at the start -/
  | configure (settings : SyslogSettings) (who : String)
  | poll (now : UInt32) (answers : SyslogOutput.PollAnswers)
  | report (answers : LineAnswers)
  | hold (networkUp : Bool)
  | take (now : UInt32) (answers : LineAnswers)

namespace RemoteLog

def initial (memory : Vector LogMessage AppLogger.maxLogs) (ip : IPAddress) : RemoteLog where
  logger := ⟨Lib.Ring.empty (Nat.succ_pos 49) memory, 1⟩
  dispatcher := LogDispatcher.initial
  syslog := SyslogOutput.initial ip

def write (level msg : String) (notice : Bool) (now : UInt32) (r : RemoteLog) : RemoteLog :=
  { r with
    logger := r.logger.write level msg now
    dispatcher := r.dispatcher.submit (LogDispatcher.recordOf level msg notice now) }

/-- The lines the output has written. -/
def log (r : RemoteLog) : SyslogEffect → RemoteLog
  | .log level msg notice now => r.write level (AppLogger.printed msg) notice now
  | _ => r

def deliver (answers : LineAnswers) (record : LogRecord) (now : UInt32) (r : RemoteLog) : RemoteLog × List SyslogEffect :=
  let ((out, _), syslog, effects) := LogFanout.deliverWith SyslogOutput.deliver answers.toSummary answers.toLine record now
    (r.syslog.output answers.networkUp) r.syslog
  (effects.foldl log { r with syslog := syslog.withOutput out }, .looked answers.networkUp :: effects)

def withStage (stage : LogDispatcher.Stage) (r : RemoteLog) : RemoteLog := { r with dispatcher := { r.dispatcher with stage } }

/-- The log task polls the output, tells of lost lines, and takes the next line unless it waits for the output. -/
def step (fromString : AddressReader) (r : RemoteLog) : RemoteEvent → RemoteLog × List SyslogEffect
  | .write level msg notice now => (r.write level msg notice now, [])
  | .configure settings who => ({ r with syslog := r.syslog.configure settings who }, [.configured settings who])
  | .poll now answers =>
      match r.dispatcher.stage with
      | .waiting =>
          let (syslog, effects) := r.syslog.poll fromString answers now
          (effects.foldl log { r.withStage (.polled now) with syslog }, effects)
      | _ => (r, [])
  | .report answers =>
      match r.dispatcher.stage with
      | .polled now =>
          let drops := r.dispatcher.queueDrops
          let lost := drops - r.dispatcher.reportedDrops
          let r := r.withStage (.reported now)
          if drops ≠ r.dispatcher.reportedDrops then
            { r with dispatcher := { r.dispatcher with reportedDrops := drops } }.deliver answers (LogDispatcher.lost lost now) now
          else (r, [])
      | _ => (r, [])
  | .hold networkUp =>
      match r.dispatcher.stage with
      | .reported now =>
          (r.withStage (if LogFanout.shouldHold [r.syslog.output networkUp] now then .waiting else .released), [])
      | _ => (r, [])
  | .take now answers =>
      match r.dispatcher.stage with
      | .released =>
          let r := r.withStage .waiting
          match r.dispatcher.queue with
          | [] => (r, [])
          | record :: queue => { r with dispatcher := { r.dispatcher with queue } }.deliver answers record now
      | _ => (r, [])

end RemoteLog

end EspNut
