import EspNut.Web.Guard

/-!
# How the board starts

A flag in the flash tells a double reset: a boot sets it, and takes it back once it has run for three seconds. The next boot that finds it was preceded by one that was cut short. With the configuration the flag decides which link is started, whether the access point goes away by itself, and whether the recovery window of the credentials opens.
-/

namespace EspNut

open Lib

/-! ### The plan of the network -/

structure BoardCaps where
  hasWifi : Bool
  hasEthernet : Bool
  deriving DecidableEq

inductive BootLink where
  | wifiStation | wifiAccessPoint | ethernet | none
  deriving DecidableEq

structure NetBootPlan where
  link : BootLink
  captivePortal : Bool
  apIdleTimeout : Bool
  recoveryWindow : Bool
  defaultConfig : Bool
  deriving DecidableEq

def planNetwork (caps : BoardCaps) (configValid manualTrigger : Bool) : NetBootPlan :=
  if caps.hasWifi = true then
    if configValid = false ∨ manualTrigger = true then ⟨.wifiAccessPoint, true, manualTrigger && configValid, false, false⟩
    else ⟨.wifiStation, false, false, false, false⟩
  else ⟨if caps.hasEthernet = true then .ethernet else .none, false, false, manualTrigger, !configValid⟩

/-! ### The access point that goes away -/

structure ApIdleTimeout where
  enabled : Bool
  idleSince : UInt32
  fired : Bool
  deriving DecidableEq

namespace ApIdleTimeout

def defaultTimeoutMs : UInt32 := 600000

def disabled : ApIdleTimeout := ⟨false, 0, false⟩

def begin (now : UInt32) (t : ApIdleTimeout) : ApIdleTimeout := { t with idleSince := now, fired := false }

/-- While a station is connected the time starts again; the end is told once. -/
def update (stations : Nat) (now : UInt32) (t : ApIdleTimeout) : ApIdleTimeout × Bool :=
  if t.enabled = false ∨ t.fired = true then (t, false)
  else if 0 < stations then ({ t with idleSince := now }, false)
  else if defaultTimeoutMs ≤ now - t.idleSince then ({ t with fired := true }, true)
  else (t, false)

end ApIdleTimeout

/-! ### The boot and the passes of the main loop -/

/-- What a boot reads, and when: the configuration, the credentials and the sessions from the flash, the clock for the flag and, later, for the access point and the recovery window. -/
structure BootAnswers where
  configOk : Bool
  flagSaved : Bool
  flagAt : Nat
  credentials : Option CredentialRecord
  sessions : Option (List PersistentSession)
  sessionsSaved : Bool
  startedAt : Nat

/-- A pass of the main loop: when it starts, the web server's part of it, and the stations of the access point if they are counted. -/
structure Pass where
  now : Nat
  flagSaved : Bool
  web : WebConfigServer.Iteration
  stationCount : Nat

/-- The web server as it is built, with what it reads from the flash. -/
def AuthService.boot (a : BootAnswers) (before : AuthService) : AuthService where
  credentials := CredentialStore.begin a.credentials
    { record := ⟨"", fun _ => 0, fun _ => 0, 0⟩, configured := false, stored := before.credentials.stored }
  sessions := SessionTable.begin a.sessions a.sessionsSaved { table := SessionTable.initial, stored := before.sessions.stored }
  throttle := LoginThrottle.initial

structure Firmware where
  caps : BoardCaps
  manualAp : Bool
  clearApFlagPending : Bool
  bootTimeMs : UInt32
  plan : NetBootPlan
  apTimeout : ApIdleTimeout
  stations : Nat
  lastStationCheck : UInt32
  server : WebConfigServer

namespace Firmware

/-- Of what was before a boot only the flash remains. -/
def setup (a : BootAnswers) (b : Firmware) : Firmware :=
  let plan := planNetwork b.caps a.configOk b.manualAp
  let isApMode := plan.link = .wifiAccessPoint
  { caps := b.caps
    manualAp := if a.flagSaved = true then !b.manualAp else b.manualAp
    clearApFlagPending := !b.manualAp
    bootTimeMs := if b.manualAp = true then 0 else Clock.millis a.flagAt
    plan
    apTimeout :=
      if isApMode then ApIdleTimeout.begin (Clock.millis a.startedAt) { ApIdleTimeout.disabled with enabled := plan.apIdleTimeout }
      else ApIdleTimeout.disabled
    stations := 0
    lastStationCheck := 0
    server :=
      { isApMode
        auth := AuthService.boot a b.server.auth
        recovery := if plan.recoveryWindow = true then RecoveryWindow.openAt (Clock.millis a.startedAt) else RecoveryWindow.closed
        otaRejected := false
        otaUploadStarted := false
        effects := [] } }

/-- The boot was long enough: the flag is taken back, once. -/
def clearFlag (p : Pass) (b : Firmware) : Firmware :=
  if b.clearApFlagPending = true ∧ 3000 < Clock.millis p.now - b.bootTimeMs then
    { b with manualAp := if p.flagSaved = true then false else b.manualAp, clearApFlagPending := false }
  else b

/-- The stations are counted once per second. -/
def countStations (p : Pass) (b : Firmware) : Firmware :=
  if 1000 ≤ Clock.millis p.now - b.lastStationCheck then
    { b with lastStationCheck := Clock.millis p.now, stations := if b.server.isApMode = true then p.stationCount else 0 }
  else b

/-- Whether the board restarts to leave the access point. -/
def watchStations (p : Pass) (b : Firmware) : Firmware × Bool :=
  if b.apTimeout.enabled = true then
    let b := countStations p b
    let answer := b.apTimeout.update b.stations (Clock.millis p.now)
    ({ b with apTimeout := answer.1 }, answer.2)
  else (b, false)

variable (deserialize : List String → String → Option JsonBody) (sha256 : String → Digest)

def loop (p : Pass) (b : Firmware) : Firmware × Bool :=
  let b := clearFlag p b
  watchStations p { b with server := b.server.loop deserialize sha256 p.web }

end Firmware

end EspNut
