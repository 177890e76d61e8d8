import EspNut.Log.SyslogSettings

/-!
# The syslog output

Each line is one datagram. New settings wait until the log task takes them up; the name of the server is then resolved, and asked again every ten minutes, or half a minute after a failure. What the network answers comes with each call: whether a link is up, the addresses of names, and which datagrams are taken.
-/

namespace EspNut

open Lib

/-- An address of four bytes. -/
structure IPAddress where
  octets : Vector UInt8 4
  deriving DecidableEq

namespace IPAddress

def zero : IPAddress := ⟨#v[0, 0, 0, 0]⟩

def text (ip : IPAddress) : String := ".".intercalate (ip.octets.toList.map fun octet => toString octet.toNat)

end IPAddress

/-- What the network's library makes of a text, given the address there was: whether it is one, and the address after. -/
abbrev AddressReader := String → IPAddress → Bool × IPAddress

inductive SyslogState where
  | disabled | waiting | ready | active | error
  deriving DecidableEq

structure SyslogStatus where
  state : SyslogState
  target : String
  error : String
  stats : LogOutputStats

/-- What a datagram was sent for. -/
inductive Cargo where
  | line (record : LogRecord)
  /-- a change, told to the server that gets nothing after it -/
  | notice (msg : String)

/-- A call of `sendDatagram`: the settings it was made with, and which of its attempts were taken. -/
structure Datagram where
  settings : SyslogSettings
  ip : IPAddress
  text : List Char
  attempts : List Bool
  cargo : Cargo

def Datagram.taken (d : Datagram) : Bool := d.attempts.any id

def Datagram.isLine (d : Datagram) : Bool :=
  match d.cargo with
  | .line _ => true
  | .notice _ => false

/-- What the output does, and what it is told. -/
inductive SyslogEffect where
  /-- settings came, which wait, and who has made them -/
  | configured (settings : SyslogSettings) (who : String)
  /-- the log task has taken settings up, and the address that the host is, if it is one -/
  | applied (settings : SyslogSettings) (literal : Option IPAddress)
  /-- whether a link was up -/
  | looked (networkUp : Bool)
  /-- a round of the log task, which shows the counts as they are -/
  | counted
  /-- whether a round of an output in use has found a link -/
  | round (networkUp : Bool)
  /-- the name of the board was read -/
  | named (networkName : String)
  /-- the name was looked up -/
  | asked (host : String) (now : UInt32) (answer : Option IPAddress)
  /-- the clock was asked for the time of a moment -/
  | timed (uptimeMs : UInt32) (time : Option SyslogTime)
  | sent (datagram : Datagram)
  | log (level msg : String) (notice : Bool) (now : UInt32)

structure SyslogOutput where
  hostname : String
  /-- settings that wait, and who has made them -/
  pending : Option (SyslogSettings × String)
  status : SyslogStatus
  active : SyslogSettings
  ip : IPAddress
  resolved : Bool
  isLiteral : Bool
  resolveFailing : Bool
  nextResolve : UInt32
  sendFailing : Bool
  shownState : SyslogState
  shownError : String
  filter : LogOutputFilter
  stats : LogOutputStats
  enabledAt : UInt32

namespace SyslogOutput

def kAppName : String := "esp32-nut"
def resolveRefreshMs : UInt32 := 600000
def resolveRetryMs : UInt32 := 30000
def tag : List Char := "[SYSLOG]".toList
def syslogMaxMessage : Nat := 480
def severityNotice : Nat := 5

def syslogSeverity : LogLevel → Nat
  | .info => 6
  | .warn => 4
  | .error => 3

/-- A new output; the address is not set before it is read. -/
def initial (ip : IPAddress) : SyslogOutput where
  hostname := ""
  pending := none
  status := ⟨.disabled, "", "", ⟨0, 0, 0, 0⟩⟩
  active := syslogDefaults
  ip
  resolved := false
  isLiteral := false
  resolveFailing := false
  nextResolve := 0
  sendFailing := false
  shownState := .disabled
  shownError := ""
  filter := .initial
  stats := ⟨0, 0, 0, 0⟩
  enabledAt := 0

def configure (settings : SyslogSettings) (who : String) (s : SyslogOutput) : SyslogOutput :=
  { s with pending := some (settings.sanitize, who) }

/-- The link is that of a station or a cable. -/
def ready (networkUp : Bool) (s : SyslogOutput) : Bool := s.resolved && networkUp

def setState (state : SyslogState) (error : String) (s : SyslogOutput) : SyslogOutput :=
  if state = s.shownState ∧ error = s.shownError then s
  else { s with shownState := state, shownError := error, status := { s.status with state, error } }

/-! ### Sending -/

/-- The answers to the attempts that are made: none after one that is taken. -/
def attempts (socket : Nat → Bool) : List Nat → List Bool
  | [] => []
  | i :: rest => if socket i then [true] else false :: attempts socket rest

/-- A refused datagram is tried again, but not while sending fails anyway. -/
def sendDatagram (socket : Nat → Bool) (text : List Char) (s : SyslogOutput) : List Bool :=
  if text = [] then []
  else if s.sendFailing then attempts socket [0]
  else attempts socket [0, 1, 2, 3]

/-- The text of a message, from a buffer on the stack. -/
@[irreducible] def message (settings : SyslogSettings) (hostname : String) (severity : Nat) (msg : List Char) (time : Option SyslogTime) :
    List Char :=
  match SyslogFormat.formatSyslogSeverity (List.replicate syslogMaxMessage '\x00') settings.protocol settings.facility.toNat
      severity (some hostname.toList) (some kAppName.toList) (some msg) time with
  | some (written, n) => written.take n
  | none => []

/-- The answers of the sockets, the time of a line with the clock of the network, and the reading of the clock for a line that is written. -/
structure DeliverAnswers where
  socket : Nat → Bool
  timeOf : UInt32 → Option SyslogTime
  failedAt : UInt32

/-- What is written about a server that cannot be reached, and about a name without an address. -/
def sendFailed (settings : SyslogSettings) (ip : IPAddress) : String :=
  "[SYSLOG] Send to " ++ ip.text ++ ":" ++ toString settings.port.toNat ++ " failed"

def cannotResolve (host : String) : String := "[SYSLOG] Cannot resolve " ++ host ++ ", retrying every 30 s"

def severityOf (record : LogRecord) : Nat := if record.notice then severityNotice else syslogSeverity record.level

def deliver (answers : DeliverAnswers) (record : LogRecord) (s : SyslogOutput) : SyslogOutput × Bool × List SyslogEffect :=
  let time := answers.timeOf record.uptimeMs
  let text := message s.active s.hostname (severityOf record) record.msg time
  let datagram : Datagram := ⟨s.active, s.ip, text, s.sendDatagram answers.socket text, .line record⟩
  let sent : List SyslogEffect := [.timed record.uptimeMs time, .sent datagram]
  if datagram.taken then (setState .active "" { s with sendFailing := false }, true, sent)
  else if s.sendFailing = false then
    (setState .error ("Send to " ++ s.ip.text ++ " failed") { s with sendFailing := true }, false,
      sent ++ [.log "WARN" (sendFailed s.active s.ip) false answers.failedAt])
  else (s, false, sent)

/-- A notice straight to the server in use. -/
def sendNow (socket : Nat → Bool) (now : UInt32) (time : Option SyslogTime) (msg : String) (s : SyslogOutput) :
    SyslogOutput × List SyslogEffect :=
  let text := message s.active s.hostname severityNotice msg.toList time
  let datagram : Datagram := ⟨s.active, s.ip, text, s.sendDatagram socket text, .notice msg⟩
  let stats :=
    if datagram.taken then { s.stats with sent := s.stats.sent + 1 } else { s.stats with failed := s.stats.failed + 1 }
  ({ s with stats }, [.timed now time, .sent datagram])

/-! ### Settings and names -/

/-- What a round of the log task meets: the links, the answers of the sockets and of the name server, and the clock. -/
structure PollAnswers where
  /-- while the old settings are left -/
  linkBefore : Bool
  noticeSocket : Nat → Bool
  noticeAt : UInt32
  noticeTime : Option SyslogTime
  enabledAt : UInt32
  resolveFrom : UInt32
  toNewAt : UInt32
  onBoardAt : UInt32
  /-- with the settings of the round -/
  link : Bool
  networkName : String
  resolvedTo : Option IPAddress
  unresolvedAt : UInt32

/-- The previous server gets nothing after the change: it is told now, if it can be reached. -/
def leave (answers : PollAnswers) (toOld : String) (s : SyslogOutput) : SyslogOutput × List SyslogEffect :=
  if toOld ≠ "" ∧ s.active.enabled = true ∧ s.ready answers.linkBefore = true then
    s.sendNow answers.noticeSocket answers.noticeAt answers.noticeTime toOld
  else (s, [])

variable (fromString : AddressReader)

/-- The address that a host is, if it is one, given the address there was. -/
def literalOf (host : String) (old : IPAddress) : Option IPAddress :=
  if (fromString host old).1 then some (fromString host old).2 else none

def takeUp (answers : PollAnswers) (settings : SyslogSettings) (s : SyslogOutput) : SyslogOutput :=
  let (isLiteral, ip) := fromString settings.host s.ip
  setState (if settings.enabled then .waiting else .disabled) ""
    { s with
      active := settings
      enabledAt := answers.enabledAt
      filter := s.filter.configure settings.minLevel settings.rate.toNat
      resolved := false
      resolveFailing := false
      sendFailing := false
      nextResolve := answers.resolveFrom
      isLiteral
      ip
      status := { s.status with target := if settings.enabled then settings.host ++ ":" ++ toString settings.port.toNat else "" } }

def apply (answers : PollAnswers) (settings : SyslogSettings) (who : String) (s : SyslogOutput) :
    SyslogOutput × List SyslogEffect :=
  let change := planSyslogChange s.active settings who
  let (s, told) := s.leave answers change.toOld
  (s.takeUp fromString answers settings,
    .looked answers.linkBefore :: (told ++ .applied settings (literalOf fromString settings.host s.ip)
      :: ((if change.toNew ≠ "" then [.log "INFO" change.toNew true answers.toNewAt] else [])
        ++ (if change.onBoard ≠ "" then [.log "INFO" change.onBoard false answers.onBoardAt] else []))))

/-- A failed refresh keeps the last address. -/
def resolve (answers : PollAnswers) (now : UInt32) (s : SyslogOutput) : SyslogOutput × List SyslogEffect :=
  if s.isLiteral then ({ s with resolved := true }, [])
  else if (now - s.nextResolve).toInt32 < 0 then (s, [])
  else
    let asked : SyslogEffect := .asked s.active.host now answers.resolvedTo
    match answers.resolvedTo with
    | some ip =>
        if ip = IPAddress.zero then failed answers now s asked
        else
          let target := s.active.host ++ " (" ++ ip.text ++ "):" ++ toString s.active.port.toNat
          let s := if s.resolved = false ∨ ip ≠ s.ip then { s with status := { s.status with target } } else s
          ({ s with ip, resolved := true, resolveFailing := false, nextResolve := now + resolveRefreshMs }, [asked])
    | none => failed answers now s asked
where
  failed (answers : PollAnswers) (now : UInt32) (s : SyslogOutput) (asked : SyslogEffect) : SyslogOutput × List SyslogEffect :=
    let s := { s with nextResolve := now + resolveRetryMs }
    if s.resolved = true ∨ s.resolveFailing = true then (s, [asked])
    else
      (setState .waiting ("Cannot resolve " ++ s.active.host) { s with resolveFailing := true },
        [asked, .log "WARN" (cannotResolve s.active.host) false answers.unresolvedAt])

/-- The name of the messages is read once. -/
def withName (networkName : String) (s : SyslogOutput) : SyslogOutput × List SyslogEffect :=
  if s.hostname = "" then ({ s with hostname := if networkName = "" then kAppName else networkName }, [.named networkName])
  else (s, [])

/-- A round with the link up. -/
def connect (answers : PollAnswers) (now : UInt32) (s : SyslogOutput) : SyslogOutput × List SyslogEffect :=
  let (s, named) := s.withName answers.networkName
  let (s, asked) := s.resolve answers now
  (if s.resolved = true ∧ s.shownState = .waiting then s.setState .ready "" else s, .round true :: (named ++ asked))

/-- A round with settings that are in force. -/
def refresh (answers : PollAnswers) (now : UInt32) (s : SyslogOutput) : SyslogOutput × List SyslogEffect :=
  let s := { s with status := { s.status with stats := s.stats } }
  if s.active.enabled = false then (s, [.counted])
  else if answers.link = false then
    (if s.shownState ≠ .error then s.setState .waiting "No network connection" else s, [.counted, .round false])
  else
    let (s, connected) := s.connect answers now
    (s, .counted :: connected)

def poll (answers : PollAnswers) (now : UInt32) (s : SyslogOutput) : SyslogOutput × List SyslogEffect :=
  match s.pending with
  | some (next, who) =>
      let (s, changed) := { s with pending := none }.apply fromString answers next who
      let (s, refreshed) := s.refresh answers now
      (s, changed ++ refreshed)
  | none => s.refresh answers now

end SyslogOutput

end EspNut
