import EspNut.Server.Tokens
import EspNut.Server.Overrides
import EspNut.Server.Tracking
import EspNut.Ups.Variables
import EspNut.Ups.Data
import Mathlib.Algebra.GroupWithZero.Nat

/-!
# The NUT server

Eight slots hold the sessions of the clients. Each command line is answered from what the UPS source says at that moment, and some lines call the source: `INSTCMD` executes a command and `SET VAR` sets a variable. What a line prints, logs and calls is its output.
-/

namespace EspNut.NUTServer

open Lib NutTable

abbrev maxClients : Nat := 8

instance : NeZero maxClients := Nat.instNeZeroSucc
def logIntervalMs : UInt32 := 60000

abbrev Slot := Fin maxClients

structure NUTServerConfig where
  username : String
  password : String
  upsName : String
  deriving DecidableEq

structure Session where
  active : Bool
  authenticated : Bool
  lastActivity : UInt32
  buffer : String
  username : String
  usernameSet : Bool
  passwordSet : Bool
  tracking : Bool
  peer : String
  deriving DecidableEq

def Session.closed : Session := ⟨false, false, 0, "", "", false, false, false, ""⟩

structure Server where
  sessions : Slot → Session
  rejectLogged : Bool
  lastRejectLogMs : UInt32
  rejectsSinceLog : Nat
  tracking : List NutTracking.Entry

def Server.initial : Server :=
  { sessions := fun _ => Session.closed
    rejectLogged := false
    lastRejectLogMs := 0
    rejectsSinceLog := 0
    tracking := NutTracking.clear }

/-- What the UPS source answers to each of its methods while one line is processed. -/
structure UpsSource where
  isConnected : Bool
  isDataStale : Bool
  upsData : UPSData
  upsStatusString : String
  writableVariables : List RWVariable
  supportedCommands : List UPSCommandInfo
  executeCommand : String → Option String → CommandResult
  setVariable : String → String → SetStatus

/-- What a line is processed with: the source when there is one, the custom variables, the clock, four random words and the version of the firmware. -/
structure Env where
  ups : Option UpsSource
  overrides : Option (List NutOverride)
  now : UInt32
  random : List UInt32
  firmwareVersion : String

/-- A method of the source that acts on the UPS. -/
inductive Call where
  | executeCommand (name : String) (param : Option String)
  | setVariable (name value : String)
  deriving DecidableEq

/-- What goes to the client, to the system log and to the source. -/
structure Output where
  replies : List String
  logs : List (String × String)
  calls : List Call
  deriving DecidableEq

def Output.print (replies : List String) : Output := ⟨replies, [], []⟩

/-- A line of the system log, cut to its buffer. -/
def logLine (level text : String) : String × String := (level, String.ofList (text.toList.take 319))

/-! ### Sessions -/

def Server.setSession (s : Server) (slot : Slot) (session : Session) : Server :=
  { s with sessions := Function.update s.sessions slot session }

@[simp] theorem sessions_setSession (s : Server) (slot other : Slot) (session : Session) :
    (s.setSession slot session).sessions other = if other = slot then session else s.sessions other := by
  simp [Server.setSession, Function.update_apply]

def slotSummary (s : Server) : String :=
  ", ".intercalate (((List.finRange maxClients).filter fun slot => (s.sessions slot).active).map fun slot =>
    (s.sessions slot).peer)

/-- The first free slot takes a new client; without one the refusal is logged once in a while. -/
def openSession (connected : Slot → Bool) (peerIp : String) (now : UInt32) (s : Server) :
    Option Slot × Server × Output :=
  match (List.finRange maxClients).find? fun slot => !(s.sessions slot).active || !connected slot with
  | some slot =>
      (some slot, s.setSession slot ⟨true, false, now, "", "", false, false, false, peerIp⟩, Output.print [])
  | none =>
      if s.rejectLogged = false ∨ logIntervalMs ≤ now - s.lastRejectLogMs then
        let others :=
          if 0 < s.rejectsSinceLog then
            " (" ++ toString s.rejectsSinceLog ++ " more rejected since the last report)"
          else ""
        (none, { s with rejectLogged := true, lastRejectLogMs := now, rejectsSinceLog := 0 },
          ⟨[], [logLine "WARN" ("[NUT] Connection from " ++ peerIp ++ " rejected: all " ++ toString maxClients
            ++ " slots in use (" ++ slotSummary s ++ ")" ++ others)], []⟩)
      else (none, { s with rejectsSinceLog := s.rejectsSinceLog + 1 }, Output.print [])

/-- A slot that takes a client starts anew, and a refused client leaves the sessions as they are. -/
theorem openSession_cases (connected : Slot → Bool) (peerIp : String) (now : UInt32) (s : Server) :
    (∃ slot output, openSession connected peerIp now s = (some slot,
        s.setSession slot ⟨true, false, now, "", "", false, false, false, peerIp⟩, output))
      ∨ ∃ s' output, openSession connected peerIp now s = (none, s', output) ∧ s'.sessions = s.sessions
        ∧ s'.tracking = s.tracking := by
  unfold openSession
  split
  · exact Or.inl ⟨_, _, rfl⟩
  · split
    · exact Or.inr ⟨_, _, rfl, rfl, rfl⟩
    · exact Or.inr ⟨_, _, rfl, rfl, rfl⟩

inductive CloseReason where
  | peerClosed | logout | inactivity
  deriving DecidableEq

def closeSession (slot : Slot) (reason : CloseReason) (s : Server) : Server × Output :=
  (s.setSession slot Session.closed,
    if reason = .inactivity then
      ⟨[], [logLine "INFO" ("[NUT] Client " ++ (s.sessions slot).peer ++ " on slot " ++ toString slot.val
        ++ " disconnected after 300 s of inactivity")], []⟩
    else Output.print [])

/-! ### Variables -/

def deviceAliases : List (String × String) :=
  [("device.mfr", "ups.mfr"), ("device.model", "ups.model"), ("device.serial", "ups.serial")]

def deviceAliasSource (var : String) : Option String := (deviceAliases.find? fun a => var = a.1).map Prod.snd

/-- Internal keys the status is built from. -/
def isInternalStatusKey (key : String) : Bool := Text.startsWith key "ups.status."

def overrideParamPrefix : String := "driver.parameter.override."

/-- The value of a variable in lower case, custom variables included. -/
def resolveVar (ups : UpsSource) (overrides : Option (List NutOverride)) (var : String) : Option String :=
  if isInternalStatusKey var then none
  else if var = "ups.status" then some ups.upsStatusString
  else if var = "device.type" then some "ups"
  else if Text.startsWith var overrideParamPrefix then
    (NutOverrides.find overrides (String.ofList (var.toList.drop overrideParamPrefix.toList.length))).map
      NutOverride.value
  else
    match NutOverrides.find overrides var with
    | some o => some o.value
    | none =>
        match deviceAliasSource var with
        | some source =>
            match NutOverrides.find overrides source with
            | some o => some o.value
            | none => ups.upsData.find source
        | none => ups.upsData.find var

def varLine (upsName : String) (var : String × String) : String :=
  "VAR " ++ upsName ++ " " ++ var.1 ++ " \"" ++ encodeValue var.2 ++ "\"\n"

/-- The variables of a listing: the status, the device, the data of the UPS with the custom values in place, the other custom variables and the parameters they stand for. -/
def listedVars (ups : UpsSource) (overrides : Option (List NutOverride)) : List (String × String) :=
  [("ups.status", ups.upsStatusString), ("device.type", "ups")]
    ++ deviceAliases.filterMap (fun a => (resolveVar ups overrides a.1).map fun value => (a.1, value))
    ++ (ups.upsData.getAll.filter fun param => !isInternalStatusKey param.1).map (fun param =>
        match NutOverrides.find overrides param.1 with
        | some o => (o.key, o.value)
        | none => param)
    ++ ((overrides.getD []).filter fun o =>
        !(ups.upsData.hasKey (Text.lower o.key) || (deviceAliasSource (Text.lower o.key)).isSome)).map
        (fun o => (o.key, o.value))
    ++ (overrides.getD []).map fun o => (overrideParamPrefix ++ o.key, o.value)

def findWritable (rw : List RWVariable) (var : String) : Option RWVariable :=
  rw.find? fun v => NutTable.equalsIgnoreCase v.name var

/-! ### Listings -/

def upsDescription : String := "ESP32-S3 UPS Bridge"

def isOwnUps (config : NUTServerConfig) (upsName : String) : Bool := Text.lower upsName = Text.lower config.upsName

def isStale (env : Env) : Bool := env.ups.any UpsSource.isDataStale

def listUps (config : NUTServerConfig) : List String :=
  ["BEGIN LIST UPS\n", "UPS " ++ config.upsName ++ " \"" ++ upsDescription ++ "\"\n", "END LIST UPS\n"]

def listVar (config : NUTServerConfig) (env : Env) (tokens : List String) : List String :=
  if tokens.length < 3 then ["ERR INVALID-ARGUMENT\n"]
  else
    let upsName := tokens.getD 2 ""
    if isOwnUps config upsName = false then ["ERR UNKNOWN-UPS\n"]
    else if isStale env then ["ERR DATA-STALE\n"]
    else
      ["BEGIN LIST VAR " ++ upsName ++ "\n"]
        ++ (match env.ups with
          | none => []
          | some ups => (listedVars ups env.overrides).map (varLine upsName))
        ++ ["END LIST VAR " ++ upsName ++ "\n"]

/-- The writable variables that the data has and that have no custom value. -/
def listedRw (ups : UpsSource) (overrides : Option (List NutOverride)) : List RWVariable :=
  ups.writableVariables.filter fun v => ups.upsData.hasKey v.name && (NutOverrides.find overrides v.name).isNone

def rwLine (ups : UpsSource) (upsName : String) (v : RWVariable) : String :=
  "RW " ++ upsName ++ " " ++ v.name ++ " \"" ++ encodeValue (ups.upsData.get v.name "") ++ "\"\n"

def listRw (config : NUTServerConfig) (env : Env) (tokens : List String) : List String :=
  if tokens.length < 3 then ["ERR INVALID-ARGUMENT\n"]
  else
    let upsName := tokens.getD 2 ""
    if isOwnUps config upsName = false then ["ERR UNKNOWN-UPS\n"]
    else if isStale env then ["ERR DATA-STALE\n"]
    else
      ["BEGIN LIST RW " ++ upsName ++ "\n"]
        ++ (match env.ups with
          | none => []
          | some ups => (listedRw ups env.overrides).map (rwLine ups upsName))
        ++ ["END LIST RW " ++ upsName ++ "\n"]

def listCmdOrClient (config : NUTServerConfig) (env : Env) (subcmd : String) (tokens : List String) : List String :=
  if tokens.length < 3 then ["ERR INVALID-ARGUMENT\n"]
  else
    let upsName := tokens.getD 2 ""
    if isOwnUps config upsName = false then ["ERR UNKNOWN-UPS\n"]
    else if subcmd = "CMD" && isStale env then ["ERR DATA-STALE\n"]
    else
      ["BEGIN LIST " ++ subcmd ++ " " ++ upsName ++ "\n"]
        ++ (if subcmd = "CMD" then
            (match env.ups with
            | none => []
            | some ups => ups.supportedCommands.map fun c => "CMD " ++ upsName ++ " " ++ c.name ++ "\n")
          else [])
        ++ ["END LIST " ++ subcmd ++ " " ++ upsName ++ "\n"]

def listEnumOrRange (config : NUTServerConfig) (env : Env) (subcmd : String) (tokens : List String) : List String :=
  if tokens.length < 4 then ["ERR INVALID-ARGUMENT\n"]
  else
    let upsName := tokens.getD 2 ""
    let varName := tokens.getD 3 ""
    if isOwnUps config upsName = false then ["ERR UNKNOWN-UPS\n"]
    else if isStale env then ["ERR DATA-STALE\n"]
    else
      match env.ups with
      | none => ["ERR VAR-NOT-SUPPORTED\n"]
      | some ups =>
          if (resolveVar ups env.overrides (Text.lower varName)).isNone then ["ERR VAR-NOT-SUPPORTED\n"]
          else
            ["BEGIN LIST " ++ subcmd ++ " " ++ upsName ++ " " ++ varName ++ "\n"]
              ++ (if subcmd = "ENUM" then
                  (match findWritable ups.writableVariables varName with
                  | none => []
                  | some v => v.enums.map fun e =>
                      "ENUM " ++ upsName ++ " " ++ varName ++ " \"" ++ encodeValue e ++ "\"\n")
                else [])
              ++ ["END LIST " ++ subcmd ++ " " ++ upsName ++ " " ++ varName ++ "\n"]

def listCommand (config : NUTServerConfig) (env : Env) (tokens : List String) : List String :=
  if tokens.length < 2 then ["ERR INVALID-ARGUMENT\n"]
  else
    let subcmd := Text.upper (tokens.getD 1 "")
    if subcmd = "UPS" then listUps config
    else if subcmd = "VAR" then listVar config env tokens
    else if subcmd = "RW" then listRw config env tokens
    else if subcmd = "CMD" ∨ subcmd = "CLIENT" then listCmdOrClient config env subcmd tokens
    else if subcmd = "ENUM" ∨ subcmd = "RANGE" then listEnumOrRange config env subcmd tokens
    else ["ERR INVALID-ARGUMENT\n"]

/-! ### Queries -/

def getVar (config : NUTServerConfig) (env : Env) (tokens : List String) : List String :=
  if tokens.length < 4 then ["ERR INVALID-ARGUMENT\n"]
  else
    let upsName := tokens.getD 2 ""
    let varName := tokens.getD 3 ""
    if isOwnUps config upsName = false then ["ERR UNKNOWN-UPS\n"]
    else
      match env.ups with
      | none => ["ERR VAR-NOT-SUPPORTED\n"]
      | some ups =>
          if ups.isDataStale then ["ERR DATA-STALE\n"]
          else
            match resolveVar ups env.overrides (Text.lower varName) with
            | none => ["ERR VAR-NOT-SUPPORTED\n"]
            | some value => [varLine upsName (varName, value)]

/-- The type of a variable: writable unless it has a custom value. -/
def getType (env : Env) (upsName varName : String) : List String :=
  let rw := (env.ups.map UpsSource.writableVariables).getD []
  match findWritable rw varName with
  | some v =>
      if (NutOverrides.find env.overrides varName).isNone then
        ["TYPE " ++ upsName ++ " " ++ varName ++ " RW" ++ (if v.enums = [] then "" else " ENUM") ++ " STRING:"
          ++ toString v.aux ++ "\n"]
      else ["TYPE " ++ upsName ++ " " ++ varName ++ " STRING:64\n"]
  | none => ["TYPE " ++ upsName ++ " " ++ varName ++ " STRING:64\n"]

/-- The description of a command or a variable, the custom one where upstream has none. -/
def getDescription (env : Env) (subcmd varName : String) : Option String :=
  if subcmd = "CMDDESC" then (UpsCommands.find varName).map UPSCommandInfo.description
  else
    match describe varName with
    | some desc => some desc
    | none =>
        match NutOverrides.find env.overrides varName with
        | some o => if o.description ≠ "" then some o.description else none
        | none => none

def getDescOrType (config : NUTServerConfig) (env : Env) (subcmd : String) (tokens : List String) : List String :=
  if tokens.length < 4 then ["ERR INVALID-ARGUMENT\n"]
  else
    let upsName := tokens.getD 2 ""
    let varName := tokens.getD 3 ""
    if isOwnUps config upsName = false then ["ERR UNKNOWN-UPS\n"]
    else if subcmd = "TYPE" then getType env upsName varName
    else
      [subcmd ++ " " ++ upsName ++ " " ++ varName ++ " \""
        ++ (getDescription env subcmd varName).getD "Description unavailable" ++ "\"\n"]

def getUpsdescOrNumlogins (config : NUTServerConfig) (subcmd : String) (tokens : List String) : List String :=
  if tokens.length < 3 then ["ERR INVALID-ARGUMENT\n"]
  else
    let upsName := tokens.getD 2 ""
    if isOwnUps config upsName = false then ["ERR UNKNOWN-UPS\n"]
    else if subcmd = "UPSDESC" then ["UPSDESC " ++ upsName ++ " \"" ++ upsDescription ++ "\"\n"]
    else ["NUMLOGINS " ++ upsName ++ " 0\n"]

def getTracking (env : Env) (session : Session) (entries : List NutTracking.Entry) (tokens : List String) :
    List String :=
  if tokens.length = 2 then [if session.tracking then "ON\n" else "OFF\n"]
  else if session.tracking then [NutTracking.get entries (tokens.getD 2 "") env.now ++ "\n"]
  else ["ERR FEATURE-NOT-CONFIGURED\n"]

def getCommand (config : NUTServerConfig) (env : Env) (session : Session) (entries : List NutTracking.Entry)
    (tokens : List String) : List String :=
  if tokens.length < 2 then ["ERR INVALID-ARGUMENT\n"]
  else
    let subcmd := Text.upper (tokens.getD 1 "")
    if subcmd = "TRACKING" then getTracking env session entries tokens
    else if subcmd = "VAR" then getVar config env tokens
    else if subcmd = "DESC" ∨ subcmd = "CMDDESC" ∨ subcmd = "TYPE" then getDescOrType config env subcmd tokens
    else if subcmd = "UPSDESC" ∨ subcmd = "NUMLOGINS" then getUpsdescOrNumlogins config subcmd tokens
    else ["ERR INVALID-ARGUMENT\n"]

/-! ### Commands -/

def authRequired (config : NUTServerConfig) : Bool :=
  0 < config.username.toList.length && 0 < config.password.toList.length

/-- What a client that needs credentials has not sent yet. -/
def missingCredentials (config : NUTServerConfig) (session : Session) : Option String :=
  if authRequired config = false then none
  else if session.usernameSet = false then some "USERNAME-REQUIRED"
  else if session.passwordSet = false then some "PASSWORD-REQUIRED"
  else none

/-- A refused SET VAR goes to the client and to the system log. -/
def rejectSet (session : Session) (varName value err : String) : Output :=
  let user := if 0 < session.username.toList.length then session.username else "-"
  ⟨["ERR " ++ err ++ "\n"],
    [logLine "WARN" ("SET " ++ varName ++ " \"" ++ value ++ "\" from " ++ user ++ ": ERR " ++ err)], []⟩

/-- The outcome is kept under a new id, which is the reply. -/
def replyTracking (env : Env) (st : SetStatus) (s : Server) : Server × List String :=
  let id := NutTracking.newId env.random
  ({ s with tracking := NutTracking.add s.tracking id st env.now }, ["OK TRACKING " ++ id ++ "\n"])

/-- The outcome of a command that is kept for its client; the others are answered at once. -/
def instcmdTrackingStatus : CommandResult → Option SetStatus
  | .ok => some .ok
  | .failed => some .failed
  | .invalidArgument => some .conversionFailed
  | .notSupported => none
  | .notConnected => none

def commandReply : CommandResult → String
  | .ok => "OK\n"
  | .notSupported => "ERR CMD-NOT-SUPPORTED\n"
  | .notConnected => "ERR DRIVER-NOT-CONNECTED\n"
  | .failed => "ERR INSTCMD-FAILED\n"
  | .invalidArgument => "ERR INVALID-ARGUMENT\n"

def instCmd (config : NUTServerConfig) (env : Env) (slot : Slot) (tokens : List String) (s : Server) :
    Server × Output :=
  if authRequired config = true ∧ (s.sessions slot).authenticated = false then
    (s, Output.print ["ERR ACCESS-DENIED\n"])
  else if tokens.length < 3 then (s, Output.print ["ERR INVALID-ARGUMENT\n"])
  else if isOwnUps config (tokens.getD 1 "") = false then (s, Output.print ["ERR UNKNOWN-UPS\n"])
  else
    match env.ups with
    | none => (s, Output.print ["ERR DRIVER-NOT-CONNECTED\n"])
    | some ups =>
        let cmdName := tokens.getD 2 ""
        let r := ups.executeCommand cmdName tokens[3]?
        match if (s.sessions slot).tracking then instcmdTrackingStatus r else none with
        | some st =>
            ((replyTracking env st s).1, ⟨(replyTracking env st s).2, [], [.executeCommand cmdName tokens[3]?]⟩)
        | none => (s, ⟨[commandReply r], [], [.executeCommand cmdName tokens[3]?]⟩)

/-- A SET VAR once the UPS and the client are found right: the checks of the variable and of its value, then the call. -/
def answerSet (env : Env) (ups : UpsSource) (slot : Slot) (varName value : String) (s : Server) : Server × Output :=
  let reject (err : String) : Server × Output := (s, rejectSet (s.sessions slot) varName value err)
  if (resolveVar ups env.overrides (Text.lower varName)).isNone then reject "VAR-NOT-SUPPORTED"
  else if (NutOverrides.find env.overrides varName).isSome then reject "READONLY"
  else
    match checkSetValue ups.writableVariables varName value with
    | (.notWritable, _) => reject "READONLY"
    | (.tooLong, _) => reject "TOO-LONG"
    | (.invalidValue, _) => reject "INVALID-VALUE"
    | (.invalidAux, v) =>
        let rejected := rejectSet (s.sessions slot) varName value "SET-FAILED"
        (s, { rejected with
          logs := logLine "WARN" ("auxdata for " ++ ((v.map RWVariable.name).getD "") ++ " is invalid") :: rejected.logs })
    | (.ok, v) =>
        let name := (v.map RWVariable.name).getD ""
        let st := ups.setVariable name value
        if (s.sessions slot).tracking then
          ((replyTracking env st s).1, ⟨(replyTracking env st s).2, [], [.setVariable name value]⟩)
        else if st = .ok then (s, ⟨["OK\n"], [], [.setVariable name value]⟩)
        else (s, ⟨["ERR SET-FAILED\n"], [], [.setVariable name value]⟩)

/-- The checks of a SET VAR in their order; nothing reaches the UPS unless every one passes. -/
def setVar (config : NUTServerConfig) (env : Env) (slot : Slot) (upsName varName value : String) (s : Server) :
    Server × Output :=
  let reject (err : String) : Server × Output := (s, rejectSet (s.sessions slot) varName value err)
  if isOwnUps config upsName = false then reject "UNKNOWN-UPS"
  else
    match env.ups with
    | none => reject "DRIVER-NOT-CONNECTED"
    | some ups =>
        if ups.isConnected = false then reject "DRIVER-NOT-CONNECTED"
        else if ups.isDataStale then reject "DATA-STALE"
        else if authRequired config = true ∧ (s.sessions slot).authenticated = false then reject "ACCESS-DENIED"
        else answerSet env ups slot varName value s

def setTracking (slot : Slot) (mode : String) (s : Server) : Server × Output :=
  if mode = "ON" then
    (s.setSession slot { s.sessions slot with tracking := true }, Output.print ["OK\n"])
  else if mode = "OFF" then
    (s.setSession slot { s.sessions slot with tracking := false }, Output.print ["OK\n"])
  else (s, Output.print ["ERR INVALID-ARGUMENT\n"])

def setCommand (config : NUTServerConfig) (env : Env) (slot : Slot) (tokens : List String) (s : Server) :
    Server × Output :=
  if tokens.length < 3 then (s, Output.print ["ERR INVALID-ARGUMENT\n"])
  else
    let subcmd := Text.upper (tokens.getD 1 "")
    if subcmd = "VAR" then
      if tokens.length < 5 then (s, Output.print ["ERR INVALID-ARGUMENT\n"])
      else setVar config env slot (tokens.getD 2 "") (tokens.getD 3 "") (tokens.getD 4 "") s
    else if subcmd = "TRACKING" then setTracking slot (Text.upper (tokens.getD 2 "")) s
    else (s, Output.print ["ERR INVALID-ARGUMENT\n"])

def username (slot : Slot) (tokens : List String) (s : Server) : Server × Output :=
  if tokens.length < 2 then (s, Output.print ["ERR INVALID-ARGUMENT\n"])
  else
    (s.setSession slot { s.sessions slot with username := tokens.getD 1 "", usernameSet := true },
      Output.print ["OK\n"])

/-- A wrong password counts as sent. -/
def password (config : NUTServerConfig) (slot : Slot) (tokens : List String) (s : Server) : Server × Output :=
  if tokens.length < 2 then (s, Output.print ["ERR INVALID-ARGUMENT\n"])
  else if (s.sessions slot).username = config.username ∧ tokens.getD 1 "" = config.password then
    (s.setSession slot { s.sessions slot with passwordSet := true, authenticated := true }, Output.print ["OK\n"])
  else
    (s.setSession slot { s.sessions slot with passwordSet := true }, Output.print ["ERR ACCESS-DENIED\n"])

def login (config : NUTServerConfig) (session : Session) (tokens : List String) : List String :=
  if tokens.length < 2 then ["ERR INVALID-ARGUMENT\n"]
  else if isOwnUps config (tokens.getD 1 "") = false then ["ERR UNKNOWN-UPS\n"]
  else if authRequired config = true ∧ session.authenticated = false then ["ERR ACCESS-DENIED\n"]
  else ["OK\n"]

def logout (slot : Slot) (s : Server) : Server × Output :=
  let (s, closed) := closeSession slot .logout s
  (s, { closed with replies := ["OK Goodbye\n"] })

/-- A command that needs credentials before they were sent. -/
def refuseMissing (session : Session) (cmd missing : String) (tokens : List String) : Output :=
  if cmd = "SET" ∧ Text.upper (tokens.getD 1 "") = "VAR" ∧ 5 ≤ tokens.length then
    rejectSet session (tokens.getD 3 "") (tokens.getD 4 "") missing
  else Output.print ["ERR " ++ missing ++ "\n"]

def processCommand (config : NUTServerConfig) (env : Env) (slot : Slot) (cmdLine : String) (s : Server) :
    Server × Output :=
  match splitTokens cmdLine with
  | [] => (s, Output.print [])
  | cmdToken :: args =>
      let tokens := cmdToken :: args
      let cmd := Text.upper cmdToken
      let session := s.sessions slot
      match if cmd = "LOGIN" ∨ cmd = "SET" ∨ cmd = "INSTCMD" then missingCredentials config session else none with
      | some missing => (s, refuseMissing session cmd missing tokens)
      | none =>
          if cmd = "VER" then (s, Output.print ["Network UPS Tools esp32-nut " ++ env.firmwareVersion ++ "\n"])
          else if cmd = "NETVER" then (s, Output.print ["1.3\n"])
          else if cmd = "USERNAME" then username slot tokens s
          else if cmd = "PASSWORD" then password config slot tokens s
          else if cmd = "LOGIN" then (s, Output.print (login config session tokens))
          else if cmd = "LOGOUT" then logout slot s
          else if cmd = "LIST" then (s, Output.print (listCommand config env tokens))
          else if cmd = "INSTCMD" then instCmd config env slot tokens s
          else if cmd = "SET" then setCommand config env slot tokens s
          else if cmd = "GET" then (s, Output.print (getCommand config env session s.tracking tokens))
          else (s, Output.print ["ERR UNKNOWN-COMMAND\n"])

end EspNut.NUTServer
