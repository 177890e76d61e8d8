import EspNut.WebAuth.AuthPolicy
import EspNut.WebAuth.AuthService

/-!
# The guard of the web server

Every route is behind the guard: in station mode only the routes of the login answer without a session. The login, the credentials and the recovery window are handled here; of the other routes only that their handler ran is kept. The firmware upload checks the session itself, before anything is written.
-/

namespace EspNut

open Lib

/-! ### The policy -/

inductive AuthDecision where
  | allow | redirectLogin | unauthorized | setupRequired
  deriving DecidableEq

def AuthPolicy.isPublicRoute (path : String) (isGet : Bool) : Bool :=
  if isGet then path == "/login" || path == "/api/auth/status"
  else path == "/api/auth/login" || path == "/api/auth/credentials" || path == "/api/auth/logout"

/-- The access point is open; only pages are redirected to the login. -/
def AuthPolicy.decide (path : String) (isGet apMode configured authenticated : Bool) : AuthDecision :=
  if apMode then .allow
  else if isPublicRoute path isGet then .allow
  else if authenticated then .allow
  else if isGet && !"/api/".toList.isPrefixOf path.toList then .redirectLogin
  else if configured then .unauthorized
  else .setupRequired

/-! ### The recovery window -/

structure RecoveryWindow where
  openedAt : UInt32
  opened : Bool
  deriving DecidableEq

namespace RecoveryWindow

def defaultDurationMs : UInt32 := 600000

def closed : RecoveryWindow := ⟨0, false⟩

def openAt (now : UInt32) : RecoveryWindow := ⟨now, true⟩

def isOpen (now : UInt32) (w : RecoveryWindow) : Bool := w.opened && decide (now - w.openedAt < defaultDurationMs)

def remainingMs (now : UInt32) (w : RecoveryWindow) : UInt32 :=
  if w.isOpen now then defaultDurationMs - (now - w.openedAt) else 0

def markUsed (w : RecoveryWindow) : RecoveryWindow := { w with opened := false }

def update (now : UInt32) (w : RecoveryWindow) : RecoveryWindow :=
  if w.opened = true ∧ defaultDurationMs ≤ now - w.openedAt then { w with opened := false } else w

end RecoveryWindow

/-! ### Requests -/

inductive HttpMethod where
  | get | post | other
  deriving DecidableEq

/-- What the web server tells of the file of an upload. -/
inductive UploadStatus where
  | fileStart
  | fileWrite (totalSize currentSize : Nat) (first : Byte)
  | fileEnd
  | fileAborted
  deriving DecidableEq

/-- A request: when the guard and the handler look at the clock, the headers that are collected, the body, the upload as it comes in, and what the platform does. -/
structure WebRequest where
  guardAt : Nat
  handledAt : Nat
  method : HttpMethod
  uri : String
  contentType : String
  cookie : String
  body : String
  uploads : List (Nat × UploadStatus)
  updateHasError : Bool
  platform : AuthPlatform

inductive FlashCall where
  | start | write (size : Nat) | finish | abort
  deriving DecidableEq

/-- What a request did beyond the login: a handler behind the guard, a call of the flash, a restart. -/
inductive WebEffect where
  | handler (uri : String)
  | flash (call : FlashCall)
  | restart
  deriving DecidableEq

inductive WebReply where
  | json (status : Nat) (headers : List (String × String)) (body : List (String × JsonValue))
  | text (status : Nat) (headers : List (String × String)) (body : String)
  /-- what the handler of the route answers itself -/
  | own
  deriving DecidableEq

structure WebConfigServer where
  isApMode : Bool
  auth : AuthService
  recovery : RecoveryWindow
  otaRejected : Bool
  otaUploadStarted : Bool
  effects : List WebEffect

/-- A request that is done, with the call of the authentication it made. -/
structure WebOutcome where
  server : WebConfigServer
  reply : Option WebReply
  auth : Option (AuthEvent × AuthOutcome)

namespace WebConfigServer

variable (deserialize : List String → String → Option JsonBody) (sha256 : String → Digest)

def sessionToken (r : WebRequest) : String := AuthPolicy.extractCookie r.cookie (some kSessionCookie)

/-- In the access point the token is not even looked at. -/
def evaluateRequest (r : WebRequest) (time : Nat) (s : WebConfigServer) : AuthDecision × WebConfigServer :=
  let authenticated :=
    if s.isApMode then (false, s.auth) else s.auth.isAuthenticated sha256 (sessionToken r) (Clock.millis time)
  (AuthPolicy.decide r.uri (r.method == .get) s.isApMode authenticated.2.credentials.hasCredentials authenticated.1,
    { s with auth := authenticated.2 })

def denied : AuthDecision → WebReply
  | .redirectLogin => .text 302 [("Location", "/login"), ("Cache-Control", "no-store")] ""
  | .setupRequired => .json 401 [] [("error", .text "setup_required")]
  | _ => .json 401 [] [("error", .text "unauthorized")]

/-- Only a JSON body: a page of another origin cannot send it unasked. -/
def requireJson (r : WebRequest) : Bool :=
  "application/json".toList.isPrefixOf (r.contentType.toList.map Char.toLower)

def unsupported : WebReply := .json 415 [] [("error", .text "Unsupported content type")]

def sendAuth (res : AuthResponse) : WebReply :=
  .json res.status
    ((if res.setCookie.header ≠ "" then [("Set-Cookie", res.setCookie.header)] else [])
      ++ (if 0 < res.retryAfterS then [("Retry-After", toString res.retryAfterS.toNat)] else [])
      ++ [("Cache-Control", "no-store")])
    res.body

variable (r : WebRequest) (s : WebConfigServer)

/-- A call of the authentication and its response. -/
def answer (call : AuthCall) : WebOutcome :=
  let event : AuthEvent := ⟨r.handledAt, r.platform, call⟩
  let outcome := s.auth.handle deserialize sha256 event
  ⟨{ s with auth := outcome.service }, outcome.response.map sendAuth, some (event, outcome)⟩

/-! ### Handlers -/

def handleAuthLogin : WebOutcome :=
  if requireJson r = false then ⟨s, some unsupported, none⟩ else answer deserialize sha256 r s (.login r.body)

def handleAuthStatus : WebOutcome :=
  let now := Clock.millis r.handledAt
  answer deserialize sha256 r s
    (.status (sessionToken r) s.isApMode (s.recovery.isOpen now)
      (if s.recovery.isOpen now then (s.recovery.remainingMs now + 999) / 1000 else 0))

/-- New credentials that are saved use the recovery window up. -/
def handleAuthCredentials : WebOutcome :=
  if requireJson r = false then ⟨s, some unsupported, none⟩
  else
    let inRecovery := s.recovery.isOpen (Clock.millis r.handledAt)
    let done := answer deserialize sha256 r s (.updateCredentials r.body (sessionToken r) s.isApMode inRecovery)
    if (done.auth.bind fun a => a.2.response.map AuthResponse.status) = some 200 ∧ inRecovery = true then
      { done with server := { done.server with recovery := done.server.recovery.markUsed } }
    else done

def handleAuthLogout : WebOutcome :=
  if requireJson r = false then ⟨s, some unsupported, none⟩ else answer deserialize sha256 r s (.logout (sessionToken r))

def handleAuthLogoutAll : WebOutcome :=
  if requireJson r = false then ⟨s, some unsupported, none⟩
  else if s.isApMode then ⟨s, some (.json 403 [] [("error", .text "Not available in Access Point mode")]), none⟩
  else answer deserialize sha256 r s .logoutAll

/-- What follows an upload: without a file there is nothing to restart for. -/
def handleOTAFinal : WebOutcome :=
  if s.otaUploadStarted = false then
    ⟨s, some (.json 400 [("Connection", "close")] [("error", .text "multipart upload required")]), none⟩
  else
    let s := { s with otaUploadStarted := false }
    if r.updateHasError then ⟨s, some (.text 200 [("Connection", "close")] "FAIL"), none⟩
    else ⟨{ s with effects := s.effects ++ [.restart] }, some (.text 200 [("Connection", "close")] "OK"), none⟩

/-- The handlers of the login page and of all other routes, and of what is not found. -/
def handleOwn : WebOutcome :=
  if AuthPolicy.isPublicRoute r.uri (r.method == .get) then ⟨s, some .own, none⟩
  else ⟨{ s with effects := s.effects ++ [.handler r.uri] }, some .own, none⟩

def dispatch : WebOutcome :=
  if r.method = .post ∧ r.uri = "/api/auth/login" then handleAuthLogin deserialize sha256 r s
  else if r.method = .get ∧ r.uri = "/api/auth/status" then handleAuthStatus deserialize sha256 r s
  else if r.method = .post ∧ r.uri = "/api/auth/credentials" then handleAuthCredentials deserialize sha256 r s
  else if r.method = .post ∧ r.uri = "/api/auth/logout" then handleAuthLogout deserialize sha256 r s
  else if r.method = .post ∧ r.uri = "/api/auth/logout-all" then handleAuthLogoutAll deserialize sha256 r s
  else if r.method = .post ∧ r.uri = "/update" then handleOTAFinal r s
  else handleOwn r s

def guarded : WebOutcome :=
  match evaluateRequest sha256 r r.guardAt s with
  | (.allow, s) => dispatch deserialize sha256 r s
  | (decision, s) => ⟨s, some (denied decision), none⟩

/-! ### The firmware upload -/

def isMultipart : Bool := "multipart/".toList.isPrefixOf r.contentType.toList

def flash (call : FlashCall) : WebConfigServer := { s with effects := s.effects ++ [.flash call] }

/-- Without a session the flash is not touched until the file is over. -/
def handleOTAUpload (time : Nat) (upload : UploadStatus) : WebConfigServer :=
  match upload with
  | .fileStart =>
      let (decision, s) := evaluateRequest sha256 r time s
      let s := { s with otaRejected := decision ≠ .allow, otaUploadStarted := decision = .allow }
      if decision = .allow then s.flash .start else s
  | .fileWrite totalSize currentSize first =>
      if s.otaRejected = true then s
      else if totalSize = 0 ∧ 0 < currentSize ∧ first ≠ 0xE9#8 then s.flash .abort
      else s.flash (.write currentSize)
  | .fileEnd => if s.otaRejected = true then { s with otaRejected := false } else s.flash .finish
  | .fileAborted =>
      if s.otaRejected = true then { s with otaRejected := false }
      else { s.flash .abort with otaUploadStarted := false }

def receive : WebConfigServer :=
  r.uploads.foldl (fun s upload => handleOTAUpload sha256 r s upload.1 upload.2) s

/-- The upload is read first; one that is aborted gets no answer. -/
def handleRequest : WebOutcome :=
  if r.method = .post ∧ r.uri = "/update" ∧ isMultipart r then
    let s := receive sha256 r s
    if r.uploads.any fun upload => upload.2 == .fileAborted then ⟨s, none, none⟩
    else guarded deserialize sha256 r s
  else guarded deserialize sha256 r s

/-- One iteration: a request, if there is one, and a look at the recovery window. -/
structure Iteration where
  request : Option WebRequest
  updatedAt : Nat

def loop (i : Iteration) : WebConfigServer :=
  let s := (i.request.elim s fun r => (handleRequest deserialize sha256 r s).server)
  { s with recovery := s.recovery.update (Clock.millis i.updatedAt) }

end WebConfigServer

end EspNut
