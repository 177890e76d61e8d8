import EspNut.WebAuth.LoginThrottle
import EspNut.WebAuth.SessionTable

/-!
# The authentication requests

Login, the first credentials, their change, logout and the checks of a token. Each request is one call, with the checks in the order of the source; the platform may fail in any of them.
-/

namespace EspNut

open Lib

/-- A member of a request body, as far as a request looks at it. -/
inductive JsonMember where
  | unbound
  | text (value : String)
  | flag (value : Bool)
  | other
  deriving DecidableEq

/-- A request body that is JSON, with the members the filter lets through. -/
structure JsonBody where
  isObject : Bool
  member : String → JsonMember

inductive JsonValue where
  | text (value : String)
  | flag (value : Bool)
  | number (value : Nat)
  deriving DecidableEq

inductive Cookie where
  | none
  | session (token : String) (remember : Bool)
  | cleared
  deriving DecidableEq

/-- The members of the body, the cookie, and the seconds of a Retry-After header, 0 for none. -/
structure AuthResponse where
  status : Nat
  body : List (String × JsonValue)
  setCookie : Cookie
  retryAfterS : UInt32
  deriving DecidableEq

structure AuthService where
  credentials : CredentialStore
  sessions : Sessions
  throttle : LoginThrottle
  deriving DecidableEq

/-- The response to a call, none for a mere check of a token, the service after it, and how the call's check of a password went, if it made one. -/
structure AuthOutcome where
  response : Option AuthResponse
  service : AuthService
  verified : Option Bool
  deriving DecidableEq

def kSessionCookie : String := "sid"

def kCookieAttributes : String := "Path=/; HttpOnly; SameSite=Strict"

def kRememberMaxAgeS : Nat := 2592000

/-- The value of the Set-Cookie header, empty for none. -/
def Cookie.header : Cookie → String
  | .none => ""
  | .session token remember =>
      kSessionCookie ++ "=" ++ token ++ "; " ++ kCookieAttributes
        ++ if remember then "; Max-Age=" ++ toString kRememberMaxAgeS else ""
  | .cleared => kSessionCookie ++ "=; Path=/; Max-Age=0; HttpOnly; SameSite=Strict"

namespace AuthService

def kMaxBodyLength : Nat := 256

/-! ### Request bodies -/

structure LoginRequest where
  username : String
  password : String
  remember : Bool
  deriving DecidableEq

structure UpdateRequest where
  currentPassword : Option String
  username : String
  password : String
  deriving DecidableEq

variable (deserialize : List String → String → Option JsonBody)

/-- The user name and the password, and whether the session is to be remembered: only a true boolean says so. -/
def parseCredentials (body : String) : Option LoginRequest :=
  if kMaxBodyLength < body.toList.length then none
  else match deserialize ["username", "password", "remember"] body with
    | none => none
    | some req =>
        match req.member "username", req.member "password" with
        | .text username, .text password =>
            some { username, password, remember := req.member "remember" = .flag true }
        | _, _ => none

/-- An object with the new user name and password; a current password that is there must be a string. -/
def parseUpdate (body : String) : Option UpdateRequest :=
  if kMaxBodyLength < body.toList.length then none
  else match deserialize ["current_password", "username", "password"] body with
    | none => none
    | some req =>
        if req.isObject = false then none
        else match req.member "username", req.member "password" with
          | .text username, .text password =>
              match req.member "current_password" with
              | .unbound => some { currentPassword := none, username, password }
              | .text current => some { currentPassword := some current, username, password }
              | _ => none
          | _, _ => none

/-! ### Responses -/

def error (status : Nat) (code : String) : AuthResponse :=
  { status, body := [("error", .text code)], setCookie := .none, retryAfterS := 0 }

def successBody (username : String) : List (String × JsonValue) := [("success", .flag true), ("username", .text username)]

def updatedBody (username : String) (sessionsClosed : Bool) : List (String × JsonValue) :=
  [("success", .flag true), ("username", .text username), ("sessions_closed", .flag sessionsClosed)]

/-- The wait is rounded up to seconds. -/
def tooManyAttempts (waitMs : UInt32) : AuthResponse :=
  let waitS := waitMs / 1000 + if waitMs % 1000 ≠ 0 then 1 else 0
  { status := 429
    body := [("error", .text "too_many_attempts"), ("retry_after", .number waitS.toNat)]
    setCookie := .none
    retryAfterS := waitS }

def createError : CredentialStore.CreateResult → AuthResponse
  | .alreadyConfigured => error 409 "already_configured"
  | .invalidUsername => error 400 "invalid_username"
  | .invalidPassword => error 400 "invalid_password"
  | _ => error 500 "storage_error"

def replaceError : CredentialStore.ReplaceResult → AuthResponse
  | .invalidUsername => error 400 "invalid_username"
  | .invalidPassword => error 400 "invalid_password"
  | _ => error 500 "storage_error"

/-! ### Requests -/

/-- A token is only looked for once there are credentials; a volatile session that is found stays alive. -/
def isAuthenticated (sha256 : String → Digest) (token : String) (now : UInt32) (service : AuthService) :
    Bool × AuthService :=
  if service.credentials.hasCredentials = false ∨ token = "" then (false, service)
  else
    let validated := SessionTable.validate sha256 token now service.sessions.table
    (validated.1, { service with sessions := { service.sessions with table := validated.2 } })

variable (sha256 : String → Digest) (platform : AuthPlatform)

def login (body : String) (now : UInt32) (service : AuthService) : AuthOutcome :=
  match parseCredentials deserialize body with
  | none => ⟨some (error 400 "invalid_request"), service, none⟩
  | some req =>
      if service.credentials.hasCredentials = false then ⟨some (error 409 "setup_required"), service, none⟩
      else
        let waitMs := service.throttle.retryAfterMs now
        if 0 < waitMs then ⟨some (tooManyAttempts waitMs), service, none⟩
        else if service.credentials.verify platform req.username req.password = false then
          ⟨some (error 401 "invalid_credentials"), { service with throttle := service.throttle.recordFailure now }, some false⟩
        else
          let created := SessionTable.create sha256 now req.remember platform.randomToken platform.sessionsSaved
            service.sessions
          ⟨some
              { status := 200
                body := successBody service.credentials.username
                setCookie := .session created.1 req.remember
                retryAfterS := 0 },
            { service with sessions := created.2, throttle := service.throttle.recordSuccess },
            some true⟩

/-- Who creates the first credentials is logged in. -/
def createInitialCredentials (body : String) (now : UInt32) (service : AuthService) : AuthOutcome :=
  match parseCredentials deserialize body with
  | none => ⟨some (error 400 "invalid_request"), service, none⟩
  | some req =>
      let result := service.credentials.create platform req.username req.password
      if result.1 ≠ .ok then ⟨some (createError result.1), { service with credentials := result.2 }, none⟩
      else
        let created := SessionTable.create sha256 now false platform.randomToken platform.sessionsSaved service.sessions
        ⟨some
            { status := 200
              body := successBody result.2.username
              setCookie := .session created.1 false
              retryAfterS := 0 },
          { service with credentials := result.2, sessions := created.2 },
          none⟩

/-- The change from the access point or the recovery window: all sessions are closed; outside the access point the caller gets a new one. -/
def resetCredentials (req : UpdateRequest) (apMode : Bool) (now : UInt32) (service : AuthService) : AuthOutcome :=
  let result := service.credentials.replace platform req.username req.password
  if result.1 ≠ .ok then ⟨some (replaceError result.1), { service with credentials := result.2 }, none⟩
  else
    let cleared := SessionTable.clear platform.sessionsSaved service.sessions
    let created := SessionTable.create sha256 now false platform.randomToken platform.sessionsSaved cleared.2
    ⟨some
        { status := 200
          body := updatedBody result.2.username cleared.1
          setCookie := if apMode then .none else .session created.1 false
          retryAfterS := 0 },
      { service with credentials := result.2, sessions := if apMode then cleared.2 else created.2 },
      none⟩

/-- The change by a session whose password was verified: its token is replaced and all other sessions are closed. -/
def changeCredentials (req : UpdateRequest) (token : String) (now : UInt32) (service : AuthService) : AuthOutcome :=
  let result := service.credentials.replace platform req.username req.password
  if result.1 ≠ .ok then ⟨some (replaceError result.1), { service with credentials := result.2 }, some true⟩
  else
    let rotated := SessionTable.rotateExclusive sha256 token now platform.randomToken platform.sessionsSaved
      service.sessions
    ⟨some
        { status := 200
          body := updatedBody result.2.username rotated.1.ok
          setCookie :=
            if rotated.1.ok ∧ rotated.1.fresh ≠ "" then .session rotated.1.fresh rotated.1.persistent else .none
          retryAfterS := 0 },
      { service with credentials := result.2, sessions := rotated.2 },
      some true⟩

def updateCredentials (body token : String) (apMode : Bool) (now : UInt32) (recovery : Bool) (service : AuthService) :
    AuthOutcome :=
  match parseUpdate deserialize body with
  | none => ⟨some (error 400 "invalid_request"), service, none⟩
  | some req =>
      if service.credentials.hasCredentials = false then
        createInitialCredentials deserialize sha256 platform body now service
      else if apMode || recovery then resetCredentials sha256 platform req apMode now service
      else
        let authenticated := isAuthenticated sha256 token now service
        let service := authenticated.2
        if authenticated.1 = false then ⟨some (error 401 "unauthorized"), service, none⟩
        else
          let waitMs := service.throttle.retryAfterMs now
          if 0 < waitMs then ⟨some (tooManyAttempts waitMs), service, none⟩
          else
            -- without a current password there is nothing to verify
            let verified := req.currentPassword.map (service.credentials.verify platform service.credentials.username)
            if verified ≠ some true then
              ⟨some (error 401 "invalid_current_password"), { service with throttle := service.throttle.recordFailure now },
                verified⟩
            else
              changeCredentials sha256 platform req token now { service with throttle := service.throttle.recordSuccess }

def status (token : String) (apMode : Bool) (now : UInt32) (recovery : Bool) (recoveryRemainingS : UInt32)
    (service : AuthService) : AuthOutcome :=
  let authenticated := isAuthenticated sha256 token now service
  ⟨some
      { status := 200
        body :=
          [("configured", .flag service.credentials.hasCredentials), ("authenticated", .flag authenticated.1),
              ("ap_mode", .flag apMode)]
            ++ (if authenticated.1 then [("username", .text service.credentials.username)] else [])
            ++ (if recovery then [("recovery", .flag true), ("recovery_remaining_s", .number recoveryRemainingS.toNat)]
              else [])
        setCookie := .none
        retryAfterS := 0 },
    authenticated.2, none⟩

/-- The answer is the same when the removal is not saved. -/
def logout (token : String) (service : AuthService) : AuthOutcome :=
  ⟨some { status := 200, body := [("success", .flag true)], setCookie := .cleared, retryAfterS := 0 },
    { service with
      sessions :=
        if token ≠ "" then (SessionTable.remove sha256 token platform.sessionsSaved service.sessions).2
        else service.sessions },
    none⟩

def logoutAll (service : AuthService) : AuthOutcome :=
  let cleared := SessionTable.clear platform.sessionsSaved service.sessions
  if cleared.1 = false then ⟨some (error 500 "storage_error"), { service with sessions := cleared.2 }, none⟩
  else
    ⟨some { status := 200, body := [("success", .flag true)], setCookie := .cleared, retryAfterS := 0 },
      { service with sessions := cleared.2 }, none⟩

end AuthService

/-! ### Runs -/

inductive AuthCall where
  | isAuthenticated (token : String)
  | login (body : String)
  | createInitialCredentials (body : String)
  | updateCredentials (body token : String) (apMode recovery : Bool)
  | status (token : String) (apMode recovery : Bool) (recoveryRemainingS : UInt32)
  | logout (token : String)
  | logoutAll

/-- A call at a real time, with what the platform does during it. -/
structure AuthEvent where
  time : Nat
  platform : AuthPlatform
  call : AuthCall

/-- Neither the access point nor the recovery window is open. -/
def AuthEvent.Plain (event : AuthEvent) : Prop :=
  match event.call with
  | .updateCredentials _ _ apMode recovery => apMode = false ∧ recovery = false
  | .status _ apMode recovery _ => apMode = false ∧ recovery = false
  | _ => True

namespace AuthService

variable (deserialize : List String → String → Option JsonBody) (sha256 : String → Digest)

def handle (service : AuthService) (event : AuthEvent) : AuthOutcome :=
  let now := Clock.millis event.time
  match event.call with
  | .isAuthenticated token => ⟨none, (isAuthenticated sha256 token now service).2, none⟩
  | .login body => login deserialize sha256 event.platform body now service
  | .createInitialCredentials body => createInitialCredentials deserialize sha256 event.platform body now service
  | .updateCredentials body token apMode recovery =>
      updateCredentials deserialize sha256 event.platform body token apMode now recovery service
  | .status token apMode recovery remaining => status sha256 token apMode now recovery remaining service
  | .logout token => logout sha256 event.platform token service
  | .logoutAll => logoutAll event.platform service

def step (service : AuthService) (event : AuthEvent) : AuthService := (handle deserialize sha256 service event).service

/-! ### What a call does -/

def cookie (outcome : AuthOutcome) : Cookie := (outcome.response.map AuthResponse.setCookie).getD .none

/-- The tokens a call gives out. -/
def issued (outcome : AuthOutcome) : List String :=
  match cookie outcome with
  | .session token _ => [token]
  | _ => []

/-- The response of an update that says the sessions are closed. -/
def ReportsClosed (outcome : AuthOutcome) : Prop :=
  ∃ response, outcome.response = some response ∧ ("sessions_closed", JsonValue.flag true) ∈ response.body

/-- The response to a password that is wrong or missing. -/
def ReportsFailure (outcome : AuthOutcome) : Prop :=
  outcome.response = some (error 401 "invalid_credentials") ∨ outcome.response = some (error 401 "invalid_current_password")

/-- A response to a call that checks no password. -/
structure Silent (response : AuthResponse) : Prop where
  cookie : response.setCookie = .none ∨ response.setCookie = .cleared
  closed : ("sessions_closed", JsonValue.flag true) ∉ response.body
  failure : response ≠ error 401 "invalid_credentials" ∧ response ≠ error 401 "invalid_current_password"

/-- What a call does once there are credentials, outside of the access point and the recovery window. -/
inductive Turn (before : AuthService) (event : AuthEvent) : AuthOutcome → Prop where
  | silent (response : Option AuthResponse) (sessions : Sessions) (hsilent : ∀ r, response = some r → Silent r)
      (hheld : ∀ hash, SessionTable.Held sessions.table hash → SessionTable.Held before.sessions.table hash) :
      Turn before event ⟨response, { before with sessions }, none⟩
  | failed (code : String) (sessions : Sessions) (verified : Option Bool)
      (hcode : code = "invalid_credentials" ∨ code = "invalid_current_password") (hverified : verified ≠ some true)
      (hopen : ¬ 0 < before.throttle.retryAfterMs (Clock.millis event.time))
      (hheld : ∀ hash, SessionTable.Held sessions.table hash → SessionTable.Held before.sessions.table hash) :
      Turn before event
        ⟨some (error 401 code),
          { before with sessions, throttle := before.throttle.recordFailure (Clock.millis event.time) }, verified⟩
  | loggedIn (body : String) (req : LoginRequest) (hcall : event.call = .login body)
      (hparse : parseCredentials deserialize body = some req)
      (hopen : ¬ 0 < before.throttle.retryAfterMs (Clock.millis event.time))
      (hverify : before.credentials.verify event.platform req.username req.password = true) :
      Turn before event
        ⟨some
          { status := 200
            body := successBody before.credentials.username
            setCookie := .session (SessionTable.hexToken event.platform.randomToken) req.remember
            retryAfterS := 0 },
          { before with
            sessions := SessionTable.step sha256 before.sessions
              (.create event.time req.remember event.platform.randomToken event.platform.sessionsSaved)
            throttle := before.throttle.recordSuccess },
          some true⟩
  | changed (body token : String) (apMode recovery : Bool) (req : UpdateRequest) (current : String) (sessions : Sessions)
      (hcall : event.call = .updateCredentials body token apMode recovery)
      (hparse : parseUpdate deserialize body = some req) (hcurrent : req.currentPassword = some current)
      (hvalid : (SessionTable.validate sha256 token (Clock.millis event.time) before.sessions.table).1 = true)
      (hopen : ¬ 0 < before.throttle.retryAfterMs (Clock.millis event.time))
      (hverify : before.credentials.verify event.platform before.credentials.username current = true)
      (hheld : ∀ hash, SessionTable.Held sessions.table hash → SessionTable.Held before.sessions.table hash) :
      Turn before event
        (changeCredentials sha256 event.platform req token (Clock.millis event.time)
          { before with sessions, throttle := before.throttle.recordSuccess })

theorem silent_error {status : Nat} {code : String} (h : code ≠ "invalid_credentials" ∧ code ≠ "invalid_current_password") :
    Silent (error status code) := by
  refine ⟨Or.inl rfl, by simp [error], ?_⟩
  simp [error, h.1, h.2]

theorem silent_tooManyAttempts (waitMs : UInt32) : Silent (tooManyAttempts waitMs) :=
  ⟨Or.inl rfl, by simp [tooManyAttempts], by simp [error, tooManyAttempts]⟩

theorem silent_success {cookie : Cookie} (hcookie : cookie = .none ∨ cookie = .cleared) {body : List (String × JsonValue)}
    (hbody : ("sessions_closed", JsonValue.flag true) ∉ body) : Silent ⟨200, body, cookie, 0⟩ :=
  ⟨hcookie, hbody, by simp [error]⟩

section Calls

variable {deserialize sha256} {before : AuthService} {event : AuthEvent}

theorem Turn.same {response : AuthResponse} (h : Silent response) :
    Turn deserialize sha256 before event ⟨some response, before, none⟩ := by
  refine .silent (some response) before.sessions ?_ fun _ hheld => hheld
  rintro r hr
  obtain rfl : response = r := Option.some.inj hr
  exact h

variable (sha256) in
/-- A check of a token keeps everything but the sessions, and makes none. -/
theorem isAuthenticated_cases (token : String) (time : Nat) (service : AuthService) :
    ∃ sessions, (isAuthenticated sha256 token (Clock.millis time) service).2 = { service with sessions }
      ∧ (∀ hash, SessionTable.Held sessions.table hash → SessionTable.Held service.sessions.table hash)
      ∧ ((isAuthenticated sha256 token (Clock.millis time) service).1 = true →
        (SessionTable.validate sha256 token (Clock.millis time) service.sessions.table).1 = true) := by
  unfold isAuthenticated
  split
  · exact ⟨service.sessions, rfl, fun _ h => h, nofun⟩
  · refine ⟨_, rfl, fun hash h => ?_, fun h => h⟩
    exact SessionTable.held_of_step sha256 (.validate token time) rfl h

theorem login_turn {body : String} (hcall : event.call = .login body) :
    Turn deserialize sha256 before event
      (login deserialize sha256 event.platform body (Clock.millis event.time) before) := by
  unfold login
  split
  · exact .same (silent_error (by decide))
  · rename_i req hparse
    split
    · exact .same (silent_error (by decide))
    · dsimp only
      split
      · exact .same (silent_tooManyAttempts _)
      · rename_i hopen
        split
        · exact .failed _ before.sessions _ (Or.inl rfl) (by simp) hopen fun _ h => h
        · rename_i hverify
          rw [SessionTable.create_fst]
          exact .loggedIn body req hcall hparse hopen (by simpa using hverify)

/-- Once there are credentials no first ones are created. -/
theorem createInitialCredentials_turn (body : String) (hconfigured : before.credentials.configured = true) :
    Turn deserialize sha256 before event
      (createInitialCredentials deserialize sha256 event.platform body (Clock.millis event.time) before) := by
  unfold createInitialCredentials
  split
  · exact .same (silent_error (by decide))
  · rw [CredentialStore.create_of_configured event.platform hconfigured]
    exact .same (silent_error (by decide))

theorem updateCredentials_turn {body token : String}
    (hcall : event.call = .updateCredentials body token false false) (hconfigured : before.credentials.configured = true) :
    Turn deserialize sha256 before event
      (updateCredentials deserialize sha256 event.platform body token false (Clock.millis event.time) false before) := by
  obtain ⟨sessions, hafter, hheld, hvalid⟩ := isAuthenticated_cases sha256 token event.time before
  have hsilent : ∀ response, Silent response → Turn deserialize sha256 before event
      ⟨some response, { before with sessions }, none⟩ := by
    intro response hresponse
    refine .silent (some response) sessions ?_ hheld
    rintro r hr
    obtain rfl : response = r := Option.some.inj hr
    exact hresponse
  unfold updateCredentials
  split
  · exact .same (silent_error (by decide))
  · rename_i req hparse
    rw [if_neg (by simp [CredentialStore.hasCredentials, hconfigured]), if_neg (by simp)]
    dsimp only
    rw [hafter]
    split
    · exact hsilent _ (silent_error (by decide))
    · rename_i hauthenticated
      split
      · exact hsilent _ (silent_tooManyAttempts _)
      · rename_i hopen
        split
        · rename_i hverified
          exact .failed _ sessions _ (Or.inr rfl) hverified hopen hheld
        · rename_i hverified
          obtain ⟨current, hcurrent, hverify⟩ := Option.map_eq_some_iff.mp (not_not.mp hverified)
          exact .changed body token false false req current sessions hcall hparse hcurrent
            (hvalid (by simpa using hauthenticated)) hopen hverify hheld

theorem status_turn (token : String) (apMode recovery : Bool) (remaining : UInt32) :
    Turn deserialize sha256 before event
      (status sha256 token apMode (Clock.millis event.time) recovery remaining before) := by
  obtain ⟨sessions, hafter, hheld, -⟩ := isAuthenticated_cases sha256 token event.time before
  unfold status
  dsimp only
  rw [hafter]
  refine .silent _ sessions ?_ hheld
  rintro r hr
  rw [← Option.some.inj hr]
  refine silent_success (Or.inl rfl) ?_
  cases (isAuthenticated sha256 token (Clock.millis event.time) before).1 <;> cases recovery <;> simp

theorem logout_turn (token : String) :
    Turn deserialize sha256 before event (logout sha256 event.platform token before) := by
  unfold logout
  refine .silent _ _ ?_ ?_
  · rintro r hr
    rw [← Option.some.inj hr]
    exact silent_success (Or.inr rfl) (by simp)
  · intro hash hheld
    split at hheld
    · exact SessionTable.held_of_step sha256 (.remove token event.platform.sessionsSaved) rfl hheld
    · exact hheld

theorem logoutAll_turn : Turn deserialize sha256 before event (logoutAll event.platform before) := by
  have hheld : ∀ hash, SessionTable.Held (SessionTable.clear event.platform.sessionsSaved before.sessions).2.table hash →
      SessionTable.Held before.sessions.table hash :=
    fun hash h => SessionTable.held_of_step sha256 (.clear event.platform.sessionsSaved) rfl h
  unfold logoutAll
  dsimp only
  split
  · refine .silent _ _ ?_ hheld
    rintro r hr
    rw [← Option.some.inj hr]
    exact silent_error (by decide)
  · refine .silent _ _ ?_ hheld
    rintro r hr
    rw [← Option.some.inj hr]
    exact silent_success (Or.inr rfl) (by simp)

variable (deserialize sha256) in
/-- What each call does once there are credentials. -/
theorem turn (hconfigured : before.credentials.configured = true) (hplain : event.Plain) :
    Turn deserialize sha256 before event (handle deserialize sha256 before event) := by
  obtain ⟨time, platform, call⟩ := event
  cases call with
  | isAuthenticated token =>
      obtain ⟨sessions, hafter, hheld, -⟩ := isAuthenticated_cases sha256 token time before
      show Turn deserialize sha256 before _ ⟨none, (isAuthenticated sha256 token (Clock.millis time) before).2, none⟩
      rw [hafter]
      exact .silent none sessions nofun hheld
  | login body => exact login_turn rfl
  | createInitialCredentials body => exact createInitialCredentials_turn body hconfigured
  | updateCredentials body token apMode recovery =>
      obtain ⟨rfl, rfl⟩ : apMode = false ∧ recovery = false := hplain
      exact updateCredentials_turn rfl hconfigured
  | status token apMode recovery remaining => exact status_turn token apMode recovery remaining
  | logout token => exact logout_turn token
  | logoutAll => exact logoutAll_turn

end Calls

end AuthService

end EspNut
