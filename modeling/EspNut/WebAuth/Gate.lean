import EspNut.Lib.Run
import EspNut.WebAuth.AuthService
import EspNut.WebAuth.Rotation

/-!
# Who gets in

Once there are credentials, and outside of the access point and the recovery window, a session is given and the credentials are changed only by a call that verified the password. When a change says that the sessions are closed, the tokens from before it are dead for good.
-/

namespace EspNut.AuthService

open Lib

variable (deserialize : List String → String → Option JsonBody) (sha256 : String → Digest)

/-- The call has a password that verifies against the record in use; a change of it also has a token that is valid. -/
def Vouched (before : AuthService) (event : AuthEvent) : Prop :=
  match event.call with
  | .login body =>
      ∃ req, parseCredentials deserialize body = some req
        ∧ before.credentials.verify event.platform req.username req.password = true
  | .updateCredentials body token _ _ =>
      (SessionTable.validate sha256 token (Clock.millis event.time) before.sessions.table).1 = true
        ∧ ∃ req current, parseUpdate deserialize body = some req ∧ req.currentPassword = some current
          ∧ before.credentials.verify event.platform before.credentials.username current = true
  | _ => False

/-- The call made this check, and it went well. -/
def Verified (before : AuthService) (event : AuthEvent) : Prop :=
  (handle deserialize sha256 before event).verified = some true ∧ Vouched deserialize sha256 before event

/-- What a call may do to those outside. -/
structure Gated (before : AuthService) (event : AuthEvent) : Prop where
  cookie : ∀ token remember, cookie (handle deserialize sha256 before event) = .session token remember →
    Verified deserialize sha256 before event
  record : (step deserialize sha256 before event).credentials ≠ before.credentials →
    Verified deserialize sha256 before event
  initial : ∀ body, event.call = .createInitialCredentials body →
    (step deserialize sha256 before event).credentials = before.credentials

/-- The tokens the calls of a run give out. -/
def issuedAlong : AuthService → List AuthEvent → List String
  | _, [] => []
  | service, event :: rest =>
      issued (handle deserialize sha256 service event) ++ issuedAlong (step deserialize sha256 service event) rest

variable {deserialize sha256} {before : AuthService} {event : AuthEvent} {outcome : AuthOutcome}

theorem cookie_of_silent {response : Option AuthResponse} (h : ∀ r, response = some r → Silent r) (service : AuthService)
    (verified : Option Bool) (token : String) (remember : Bool) :
    cookie ⟨response, service, verified⟩ ≠ .session token remember := by
  cases response with
  | none => exact nofun
  | some r =>
      show r.setCookie ≠ .session token remember
      rcases (h r rfl).cookie with hcookie | hcookie
      · rw [hcookie]
        exact nofun
      · rw [hcookie]
        exact nofun

theorem silent_replaceError (result : CredentialStore.ReplaceResult) : Silent (replaceError result) := by
  cases result with
  | ok => exact silent_error (by decide)
  | invalidUsername => exact silent_error (by decide)
  | invalidPassword => exact silent_error (by decide)
  | storageError => exact silent_error (by decide)

/-- A change is refused with the service as it was, or it is saved and the token is replaced. -/
theorem changeCredentials_cases (platform : AuthPlatform) (req : UpdateRequest) (token : String) (now : UInt32)
    (service : AuthService) :
    (∃ response, Silent response
      ∧ changeCredentials sha256 platform req token now service = ⟨some response, service, some true⟩)
      ∨ ∃ record rotated, rotated
          = SessionTable.rotateExclusive sha256 token now platform.randomToken platform.sessionsSaved service.sessions
        ∧ changeCredentials sha256 platform req token now service
          = ⟨some
              { status := 200
                body := updatedBody record.username rotated.1.ok
                setCookie :=
                  if rotated.1.ok ∧ rotated.1.fresh ≠ "" then .session rotated.1.fresh rotated.1.persistent else .none
                retryAfterS := 0 },
            { service with credentials := ⟨record, true, some record⟩, sessions := rotated.2 }, some true⟩ := by
  unfold changeCredentials
  rcases CredentialStore.replace_cases platform req.username req.password service.credentials with
    ⟨hrefused, hsame⟩ | ⟨record, hreplaced, -⟩
  · left
    refine ⟨_, silent_replaceError (service.credentials.replace platform req.username req.password).1, ?_⟩
    dsimp only
    rw [if_pos hrefused, hsame]
  · right
    refine ⟨record, _, rfl, ?_⟩
    rw [hreplaced]
    rfl

theorem configured_of_turn (hconfigured : before.credentials.configured = true)
    (h : Turn deserialize sha256 before event outcome) : outcome.service.credentials.configured = true := by
  cases h with
  | silent response sessions hsilent hheld => exact hconfigured
  | failed code sessions verified hcode hverified hopen hheld => exact hconfigured
  | loggedIn body req hcall hparse hopen hverify => exact hconfigured
  | changed body token apMode recovery req current sessions hcall hparse hcurrent hvalid hopen hverify hheld =>
      rcases changeCredentials_cases event.platform req token (Clock.millis event.time)
        { before with sessions, throttle := before.throttle.recordSuccess } with
        ⟨response, -, hrefused⟩ | ⟨record, rotated, -, hchanged⟩
      · rw [hrefused]
        exact hconfigured
      · rw [hchanged]

theorem verified_of_changeCredentials (platform : AuthPlatform) (req : UpdateRequest) (token : String) (now : UInt32)
    (service : AuthService) : (changeCredentials sha256 platform req token now service).verified = some true := by
  rcases changeCredentials_cases platform req token now service with ⟨response, -, h⟩ | ⟨record, rotated, -, h⟩
  · rw [h]
  · rw [h]

/-- A call verifies a password, or gives no session and leaves the credentials. -/
theorem vouched_of_turn (h : Turn deserialize sha256 before event outcome) :
    (outcome.verified = some true ∧ Vouched deserialize sha256 before event)
      ∨ (∀ token remember, cookie outcome ≠ .session token remember)
        ∧ outcome.service.credentials = before.credentials := by
  cases h with
  | silent response sessions hsilent hheld => exact Or.inr ⟨cookie_of_silent hsilent _ _, rfl⟩
  | failed code sessions verified hcode hverified hopen hheld => exact Or.inr ⟨fun _ _ => nofun, rfl⟩
  | loggedIn body req hcall hparse hopen hverify =>
      refine Or.inl ⟨rfl, ?_⟩
      unfold Vouched
      rw [hcall]
      exact ⟨req, hparse, hverify⟩
  | changed body token apMode recovery req current sessions hcall hparse hcurrent hvalid hopen hverify hheld =>
      refine Or.inl ⟨verified_of_changeCredentials _ _ _ _ _, ?_⟩
      unfold Vouched
      rw [hcall]
      exact ⟨hvalid, req, current, hparse, hcurrent, hverify⟩

theorem gated (hconfigured : before.credentials.configured = true) (hplain : event.Plain) :
    Gated deserialize sha256 before event := by
  constructor
  · intro token remember hcookie
    rcases vouched_of_turn (turn deserialize sha256 hconfigured hplain) with hverified | ⟨hnone, -⟩
    · exact hverified
    · exact absurd hcookie (hnone token remember)
  · intro hchanged
    rcases vouched_of_turn (turn deserialize sha256 hconfigured hplain) with hverified | ⟨-, hsame⟩
    · exact hverified
    · exact absurd hsame hchanged
  · intro body hcall
    rcases vouched_of_turn (turn deserialize sha256 hconfigured hplain) with ⟨-, hvouched⟩ | ⟨-, hsame⟩
    · unfold Vouched at hvouched
      rw [hcall] at hvouched
      exact hvouched.elim
    · exact hsame

/-! ### Dead tokens -/

/-- The digest of a session after a call was there before, or is the one of a token the call gives out. -/
theorem held_of_turn {hash : Digest} (h : Turn deserialize sha256 before event outcome)
    (hafter : SessionTable.Held outcome.service.sessions.table hash) :
    SessionTable.Held before.sessions.table hash ∨ ∃ token ∈ issued outcome, sha256 token = hash := by
  cases h with
  | silent response sessions hsilent hheld => exact Or.inl (hheld hash hafter)
  | failed code sessions verified hcode hverified hopen hheld => exact Or.inl (hheld hash hafter)
  | loggedIn body req hcall hparse hopen hverify =>
      rcases SessionTable.held_step sha256 _ hafter with hbefore | ⟨token, persistent, hmem, hhash⟩
      · exact Or.inl hbefore
      · obtain ⟨rfl, -⟩ := Prod.mk.inj (List.mem_singleton.mp hmem)
        exact Or.inr ⟨_, List.mem_singleton.mpr rfl, hhash⟩
  | changed body token apMode recovery req current sessions hcall hparse hcurrent hvalid hopen hverify hheld =>
      rcases changeCredentials_cases event.platform req token (Clock.millis event.time)
        { before with sessions, throttle := before.throttle.recordSuccess } with
        ⟨response, -, hrefused⟩ | ⟨record, rotated, hrotated, hchanged⟩
      · rw [hrefused] at hafter
        exact Or.inl (hheld hash hafter)
      · rw [hchanged] at hafter ⊢
        subst hrotated
        rcases SessionTable.held_step sha256 (.rotateExclusive token event.time event.platform.randomToken
          event.platform.sessionsSaved) hafter with hbefore | ⟨fresh, persistent, hmem, hhash⟩
        · exact Or.inl (hheld hash hbefore)
        · change (fresh, persistent) ∈ SessionTable.Rotation.issued _ at hmem
          unfold SessionTable.Rotation.issued at hmem
          split at hmem
          · exact absurd hmem List.not_mem_nil
          · rename_i hfresh
            obtain ⟨rfl, -⟩ := Prod.mk.inj (List.mem_singleton.mp hmem)
            refine Or.inr ⟨_, ?_, hhash⟩
            unfold issued cookie
            dsimp only [Option.map_some, Option.getD_some]
            rw [if_pos ⟨SessionTable.ok_of_fresh hfresh, hfresh⟩]
            exact List.mem_singleton.mpr rfl

/-- When a call says that the sessions are closed only a token it gives out has one. -/
theorem held_of_closed {hash : Digest} (h : Turn deserialize sha256 before event outcome) (hclosed : ReportsClosed outcome)
    (hafter : SessionTable.Held outcome.service.sessions.table hash) :
    ∃ token ∈ issued outcome, sha256 token = hash := by
  obtain ⟨response, hresponse, hbody⟩ := hclosed
  cases h with
  | silent silent sessions hsilent hheld => exact absurd hbody (hsilent response hresponse).closed
  | failed code sessions verified hcode hverified hopen hheld =>
      rw [← Option.some.inj hresponse] at hbody
      simp [error] at hbody
  | loggedIn body req hcall hparse hopen hverify =>
      rw [← Option.some.inj hresponse] at hbody
      simp [successBody] at hbody
  | changed body token apMode recovery req current sessions hcall hparse hcurrent hvalid hopen hverify hheld =>
      rcases changeCredentials_cases event.platform req token (Clock.millis event.time)
        { before with sessions, throttle := before.throttle.recordSuccess } with
        ⟨refused, hsilent, hrefused⟩ | ⟨record, rotated, hrotated, hchanged⟩
      · rw [hrefused] at hresponse
        obtain rfl : refused = response := Option.some.inj hresponse
        exact absurd hbody hsilent.closed
      · rw [hchanged] at hresponse hafter ⊢
        rw [← Option.some.inj hresponse] at hbody
        subst hrotated
        have hok : true = (SessionTable.rotateExclusive sha256 token (Clock.millis event.time) event.platform.randomToken
            event.platform.sessionsSaved sessions).1.ok := by
          simpa [updatedBody] using hbody
        obtain ⟨hfresh, hhash⟩ := SessionTable.held_rotateExclusive hok.symm hafter
        refine ⟨_, ?_, hhash⟩
        unfold issued cookie
        dsimp only [Option.map_some, Option.getD_some]
        rw [if_pos ⟨hok.symm, hfresh⟩]
        exact List.mem_singleton.mpr rfl

/-- A digest without a session gets none as long as no token with it is given out. -/
theorem not_held_along {hash : Digest} {service : AuthService} (events : List AuthEvent)
    (hplain : ∀ event ∈ events, event.Plain) (hconfigured : service.credentials.configured = true)
    (hfresh : ∀ token ∈ issuedAlong deserialize sha256 service events, sha256 token ≠ hash)
    (h : ¬ SessionTable.Held service.sessions.table hash) :
    ¬ SessionTable.Held (run (step deserialize sha256) service events).sessions.table hash := by
  induction events generalizing service with
  | nil => exact h
  | cons event rest ih =>
      have hturn := turn deserialize sha256 hconfigured (hplain event List.mem_cons_self)
      rw [run_cons]
      refine ih (fun e he => hplain e (List.mem_cons_of_mem event he)) (configured_of_turn hconfigured hturn)
        (fun token hmem => hfresh token (List.mem_append_right _ hmem)) ?_
      intro hheld
      rcases held_of_turn hturn hheld with hbefore | ⟨token, hmem, hhash⟩
      · exact h hbefore
      · exact hfresh token (List.mem_append_left _ hmem) hhash

/-- The tokens that are not given out from a call on do not validate after the run. -/
def Dead (deserialize : List String → String → Option JsonBody) (sha256 : String → Digest) (service : AuthService)
    (events : List AuthEvent) : Prop :=
  ∀ tokens : Set String,
    Set.InjOn sha256 (tokens ∪ { token | token ∈ issuedAlong deserialize sha256 service events }) →
    (∀ token ∈ tokens, token ∉ issuedAlong deserialize sha256 service events) →
    ∀ token ∈ tokens, ∀ now,
      (SessionTable.validate sha256 token now (run (step deserialize sha256) service events).sessions.table).1 = false

theorem dead_of_closed {service : AuthService} {update : AuthEvent} {rest : List AuthEvent}
    (hconfigured : service.credentials.configured = true) (hplain : ∀ event ∈ update :: rest, event.Plain)
    (hclosed : ReportsClosed (handle deserialize sha256 service update)) :
    Dead deserialize sha256 service (update :: rest) := by
  intro tokens hinj hnew token htoken now
  have hfresh : ∀ other ∈ issuedAlong deserialize sha256 service (update :: rest), sha256 other ≠ sha256 token := by
    intro other hother hsame
    rw [hinj (Or.inr hother) (Or.inl htoken) hsame] at hother
    exact hnew token htoken hother
  have hturn := turn deserialize sha256 hconfigured (hplain update List.mem_cons_self)
  have hgone : ¬ SessionTable.Held (step deserialize sha256 service update).sessions.table (sha256 token) := by
    intro hheld
    obtain ⟨other, hmem, hsame⟩ := held_of_closed hturn hclosed hheld
    exact hfresh other (List.mem_append_left _ hmem) hsame
  have hdead := not_held_along rest (fun e he => hplain e (List.mem_cons_of_mem update he))
    (configured_of_turn hconfigured hturn) (fun other hother => hfresh other (List.mem_append_right _ hother)) hgone
  by_contra hvalid
  exact hdead (SessionTable.held_of_validate (Bool.eq_true_of_not_eq_false hvalid)).2

/-! ### Every run -/

/-- Only calls that verified a password get a session or change the credentials, and a change that closes the sessions does so for good. -/
theorem only_verified_calls_get_in (deserialize : List String → String → Option JsonBody) (sha256 : String → Digest)
    (start : AuthService) (hconfigured : start.credentials.configured = true) (events : List AuthEvent)
    (hplain : ∀ event ∈ events, event.Plain) :
    Along (Gated deserialize sha256) (step deserialize sha256) start events
      ∧ ∀ before update rest, events = before ++ update :: rest →
        ReportsClosed (handle deserialize sha256 (run (step deserialize sha256) start before) update) →
        Dead deserialize sha256 (run (step deserialize sha256) start before) (update :: rest) := by
  have hkeep : ∀ (service : AuthService) (event : AuthEvent), event.Plain → service.credentials.configured = true →
      (step deserialize sha256 service event).credentials.configured = true :=
    fun service event hevent h => configured_of_turn h (turn deserialize sha256 h hevent)
  constructor
  · refine along_imp (fun service : AuthService => service.credentials.configured = true) hconfigured ?_ events
      (along_of_forall events hplain)
    intro service event h hevent
    exact ⟨gated h hevent, hkeep service event hevent h⟩
  · rintro before update rest rfl hclosed
    refine dead_of_closed ?_ (fun e he => hplain e (List.mem_append_right before he)) hclosed
    exact run_invariant (P := fun service : AuthService => service.credentials.configured = true) hconfigured hkeep before
      fun e he => hplain e (List.mem_append_left _ he)

def loginBody : String := "\x7b\"username\":\"admin\",\"password\":\"password\"\x7d"

def updateBody : String := "\x7b\"current_password\":\"password\",\"username\":\"admin\",\"password\":\"passw0rd\"\x7d"

/-- The two bodies, as JSON reads them. -/
def requestJson (_filter : List String) (body : String) : Option JsonBody :=
  if body = loginBody then
    some ⟨true, fun name =>
      if name = "username" then .text "admin" else if name = "password" then .text "password" else .unbound⟩
  else if body = updateBody then
    some ⟨true, fun name =>
      if name = "username" then .text "admin" else if name = "password" then .text "passw0rd"
      else if name = "current_password" then .text "password" else .unbound⟩
  else none

/-- A platform on which everything succeeds, with the password itself as its key. -/
def givingToken (n : Nat) : AuthPlatform :=
  { deriveKey := fun password _ _ => some (SessionTable.textDigest password)
    randomSalt := fun _ => 0
    randomToken := SessionTable.rawToken n
    credentialsSaved := true
    sessionsSaved := true }

def adminRecord : CredentialRecord := ⟨"admin", fun _ => 0, SessionTable.textDigest "password", 10000⟩

def configuredService : AuthService :=
  { credentials := ⟨adminRecord, true, some adminRecord⟩
    sessions := { table := SessionTable.initial, stored := [] }
    throttle := LoginThrottle.initial }

def loginEvent : AuthEvent := ⟨0, givingToken 1, .login loginBody⟩

def updateEvent : AuthEvent :=
  ⟨1, givingToken 2, .updateCredentials updateBody (SessionTable.hexToken (SessionTable.rawToken 1)) false false⟩

/-- After the change of the password the token of the login does not validate. -/
theorem login_token_dies :
    (SessionTable.validate SessionTable.textDigest (SessionTable.hexToken (SessionTable.rawToken 1)) 2
      (run (step requestJson SessionTable.textDigest) configuredService [loginEvent, updateEvent]).sessions.table).1
      = false := by
  have hplain : ∀ event ∈ [loginEvent, updateEvent], event.Plain := by
    intro event hevent
    rcases List.mem_pair.mp hevent with rfl | rfl
    · exact trivial
    · exact ⟨rfl, rfl⟩
  obtain ⟨-, hdead⟩ := only_verified_calls_get_in requestJson SessionTable.textDigest configuredService rfl
    [loginEvent, updateEvent] hplain
  have hclosed : ReportsClosed (handle requestJson SessionTable.textDigest
      (run (step requestJson SessionTable.textDigest) configuredService [loginEvent]) updateEvent) :=
    ⟨⟨200, updatedBody "admin" true, .session (SessionTable.hexToken (SessionTable.rawToken 2)) false, 0⟩,
      by decide +kernel, by decide⟩
  have hissued : issuedAlong requestJson SessionTable.textDigest
      (run (step requestJson SessionTable.textDigest) configuredService [loginEvent]) [updateEvent]
        = [SessionTable.hexToken (SessionTable.rawToken 2)] := by
    decide +kernel
  refine hdead [loginEvent] updateEvent [] rfl hclosed {SessionTable.hexToken (SessionTable.rawToken 1)} ?_ ?_ _
    (Set.mem_singleton _) 2
  · rw [hissued]
    have hother : SessionTable.textDigest (SessionTable.hexToken (SessionTable.rawToken 1))
        ≠ SessionTable.textDigest (SessionTable.hexToken (SessionTable.rawToken 2)) := by
      decide +kernel
    rintro a (rfl | ha) b (rfl | hb) hsame
    · rfl
    · obtain rfl := List.mem_singleton.mp hb
      exact absurd hsame hother
    · obtain rfl := List.mem_singleton.mp ha
      exact absurd hsame.symm hother
    · rw [List.mem_singleton.mp ha, List.mem_singleton.mp hb]
  · rintro token rfl
    rw [hissued]
    decide +kernel

end EspNut.AuthService
