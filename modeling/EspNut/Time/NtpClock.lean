import EspNut.Time.TimeSettings

/-!
# The clock of the network time

The time of any uptime follows from one pair, the time that the server gave last and the uptime then. New settings wait until the loop takes them up; the answers of the server come in a task of the network, which leaves only the pair and a flag for the loop.
-/

namespace EspNut

/-- A time that was given, and the uptime at that moment. -/
structure WallClock where
  valid : Bool
  epochMs : Int
  uptimeMs : UInt32

namespace WallClock

def setSynced (epochMs : Int) (uptimeMs : UInt32) : WallClock := ⟨true, epochMs, uptimeMs⟩

def clear (c : WallClock) : WallClock := { c with valid := false }

/-- The difference is signed: the uptime may be before that of the pair. -/
def epochMsAt (uptimeMs : UInt32) (c : WallClock) : Option Int :=
  if c.valid then some (c.epochMs + (uptimeMs - c.uptimeMs).toInt32.toInt) else none

end WallClock

inductive TimeState where
  | disabled | waiting | synchronized | noAnswer
  deriving DecidableEq

/-! ### The lines of the log -/

/-- What decides when the log gets a line about the time. -/
structure TimeLogPolicy where
  waiting : Bool
  noAnswer : Bool
  syncedOnce : Bool
  started : UInt32

namespace TimeLogPolicy

inductive Line where
  | none | synchronized | noAnswer
  deriving DecidableEq

def noAnswerMs : UInt32 := 60000

def initial : TimeLogPolicy := ⟨false, false, false, 0⟩

def restart (now : UInt32) : TimeLogPolicy := ⟨true, false, false, now⟩

def stop (p : TimeLogPolicy) : TimeLogPolicy := { p with waiting := false, noAnswer := false }

/-- Without network the wait starts again. -/
def tick (now : UInt32) (networkUp : Bool) (p : TimeLogPolicy) : TimeLogPolicy × Line :=
  if p.waiting = false then (p, .none)
  else if networkUp = false then ({ p with started := now }, .none)
  else if p.noAnswer = true ∨ now - p.started < noAnswerMs then (p, .none)
  else ({ p with noAnswer := true }, .noAnswer)

def onSynced (p : TimeLogPolicy) : TimeLogPolicy × Line :=
  ({ p with waiting := false, syncedOnce := true, noAnswer := false },
    if p.syncedOnce = false ∨ p.noAnswer = true then .synchronized else .none)

end TimeLogPolicy

/-! ### The clock -/

inductive TimeLine where
  /-- settings that somebody has made -/
  | changed (settings : TimeSettings) (who : String)
  | synchronized (server : String) (epochMs : Int)
  | noAnswer (server : String)
  deriving DecidableEq

/-- The level and the text of a line; `strftime` is a time as the C library writes it. -/
def TimeLine.text (strftime : Int → String) : TimeLine → String × String
  | .changed s who =>
      ("INFO", "[TIME] Settings changed by '" ++ who ++ "': NTP " ++ (if s.ntp then "on, " ++ s.server else "off") ++ ", " ++ s.zone)
  | .synchronized server epochMs => ("INFO", "[TIME] Synchronized with " ++ server ++ ": " ++ strftime epochMs)
  | .noAnswer server =>
      ("WARN", "[TIME] No answer from " ++ server ++ " for " ++ toString (TimeLogPolicy.noAnswerMs.toNat / 1000) ++ " s, retrying")

inductive ClockEffect where
  | sntpStop
  | sntpInit
  | timeZone (posix : String)
  | serverName (server : String)
  | log (line : TimeLine)
  deriving DecidableEq

structure NtpClock where
  /-- settings that wait, and who has made them -/
  pending : Option (TimeSettings × String)
  clock : WallClock
  shown : TimeState × TimeSettings
  synced : Bool
  active : TimeSettings
  policy : TimeLogPolicy
  sntpRunning : Bool

namespace NtpClock

def initial : NtpClock where
  pending := none
  clock := ⟨false, 0, 0⟩
  shown := (.disabled, timeDefaults)
  synced := false
  active := timeDefaults
  policy := .initial
  sntpRunning := false

def configure (settings : TimeSettings) (who : String) (c : NtpClock) : NtpClock :=
  { c with pending := some (settings.sanitize, who) }

/-- An answer of the server. -/
def onSync (epochMs : Int) (now : UInt32) (c : NtpClock) : NtpClock :=
  { c with clock := WallClock.setSynced epochMs now, synced := true }

def epochMsAt (uptimeMs : UInt32) (c : NtpClock) : Option Int := c.clock.epochMsAt uptimeMs

/-- A new server or time zone keeps the time that is known. -/
def apply (s : TimeSettings) (who : String) (now : UInt32) (c : NtpClock) : NtpClock × List ClockEffect :=
  ({ c with
      sntpRunning := false
      policy := if s.ntp then .restart now else c.policy.stop
      clock := if s.ntp then c.clock else c.clock.clear
      synced := false
      active := s },
    (if c.sntpRunning then [.sntpStop] else [])
      ++ .timeZone (match findTimeZone s.zone with | some zone => zone.posix | none => "UTC0")
      :: ((if s.ntp then [.serverName s.server] else [])
        ++ (if who ≠ "" then [.log (.changed s who)] else [])))

/-- The time is asked for once the network is up. -/
def start (networkUp : Bool) (c : NtpClock) : NtpClock × List ClockEffect :=
  if c.active.ntp = true ∧ networkUp = true ∧ c.sntpRunning = false then ({ c with sntpRunning := true }, [.sntpInit]) else (c, [])

/-- An answer that has come since the last round; the time is read again for the line. -/
def takeSync (readAt : UInt32) (c : NtpClock) : NtpClock × List ClockEffect :=
  if c.synced = false then (c, [])
  else
    let (policy, line) := c.policy.onSynced
    let told := if line = .synchronized then (c.epochMsAt readAt).toList else []
    ({ c with synced := false, policy }, told.map fun ms => .log (.synchronized c.active.server ms))

def warn (networkUp : Bool) (now : UInt32) (c : NtpClock) : NtpClock × List ClockEffect :=
  if c.active.ntp = false then (c, [])
  else
    let (policy, line) := c.policy.tick now networkUp
    ({ c with policy }, if line = .noAnswer then [.log (.noAnswer c.active.server)] else [])

def publishState (c : NtpClock) : NtpClock :=
  { c with
    shown :=
      (if c.active.ntp = false then .disabled
        else if c.clock.valid then .synchronized
        else if c.policy.noAnswer then .noAnswer
        else .waiting,
      c.active) }

/-- The settings that wait. -/
def takeUp (now : UInt32) (c : NtpClock) : NtpClock × List ClockEffect :=
  match c.pending with
  | some (next, who) => { c with pending := none }.apply next who now
  | none => (c, [])

def poll (networkUp : Bool) (now readAt : UInt32) (c : NtpClock) : NtpClock × List ClockEffect :=
  let (c, applied) := c.takeUp now
  let (c, started) := c.start networkUp
  let (c, told) := c.takeSync readAt
  let (c, warned) := c.warn networkUp now
  (c.publishState, applied ++ (started ++ (told ++ warned)))

end NtpClock

end EspNut
