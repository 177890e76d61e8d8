import EspNut.Web.Guard
import EspNut.WebAuth.OpenSessions

/-!
# Who gets behind the guard

In station mode a handler behind the guard runs, and the flash is written, only for a request with the token of a session that was given out, and not closed since. A session is given out, and the credentials are changed, only to someone with the password, for the first setup, or in the recovery window.
-/

namespace EspNut

open Lib

namespace AuthService

/-- The call changes the credentials from the recovery window. -/
def InRecovery (event : AuthEvent) : Prop := ∃ body token, event.call = .updateCredentials body token false true

variable {deserialize : List String → String → Option JsonBody} {sha256 : String → Digest} {before : AuthService}
  {event : AuthEvent} {outcome : AuthOutcome}

/-- A call that gave a session out, or changed the credentials, has verified a password. -/
theorem vouched_of_given (h : Turn deserialize sha256 before event outcome)
    (hgiven : issued outcome ≠ [] ∨ outcome.service.credentials ≠ before.credentials) :
    Vouched deserialize sha256 before event := by
  rcases vouched_of_turn h with ⟨-, hvouched⟩ | ⟨hnone, hsame⟩
  · exact hvouched
  · refine absurd hgiven (not_or.mpr ⟨fun hissued => hissued ?_, fun hchanged => hchanged hsame⟩)
    unfold issued
    split
    · rename_i token remember hcookie
      exact absurd hcookie (hnone token remember)
    · rfl

/-- A call of the station, once there are credentials, is a turn unless it comes from the recovery window. -/
theorem turn_of_station (hstation : Station event) (hconfigured : before.credentials.configured = true)
    (hrecovery : ¬ InRecovery event) : Turn deserialize sha256 before event (handle deserialize sha256 before event) := by
  obtain ⟨time, platform, call⟩ := event
  cases call with
  | status token apMode recovery remaining => exact status_turn token apMode recovery remaining
  | updateCredentials body token apMode recovery =>
      obtain rfl : apMode = false := hstation
      cases recovery with
      | false => exact updateCredentials_turn rfl hconfigured
      | true => exact absurd ⟨body, token, rfl⟩ hrecovery
  | isAuthenticated token => exact turn deserialize sha256 hconfigured trivial
  | login body => exact turn deserialize sha256 hconfigured trivial
  | createInitialCredentials body => exact turn deserialize sha256 hconfigured trivial
  | logout token => exact turn deserialize sha256 hconfigured trivial
  | logoutAll => exact turn deserialize sha256 hconfigured trivial

/-- The reason of a call of the station that gives a session out, or changes the credentials. -/
theorem reason_of_given (hstation : Station event)
    (hgiven : issued (handle deserialize sha256 before event) ≠ []
      ∨ (handle deserialize sha256 before event).service.credentials ≠ before.credentials) :
    Vouched deserialize sha256 before event ∨ before.credentials.configured = false ∨ InRecovery event := by
  cases hconfigured : before.credentials.configured with
  | false => exact Or.inr (Or.inl rfl)
  | true =>
      by_cases hrecovery : InRecovery event
      · exact Or.inr (Or.inr hrecovery)
      · exact Or.inl (vouched_of_given (turn_of_station hstation hconfigured hrecovery) hgiven)

/-- Credentials stay configured, also when they are changed from the recovery window. -/
theorem configured_handle (hstation : Station event) (hconfigured : before.credentials.configured = true) :
    (handle deserialize sha256 before event).service.credentials.configured = true := by
  by_cases hrecovery : InRecovery event
  · obtain ⟨time, platform, call⟩ := event
    obtain ⟨body, token, rfl⟩ := hrecovery
    show (updateCredentials deserialize sha256 platform body token false _ true before).service.credentials.configured = true
    unfold updateCredentials
    split
    · exact hconfigured
    · rename_i req hparse
      have hcredentials : ¬ before.credentials.hasCredentials = false := by
        rw [show before.credentials.hasCredentials = true from hconfigured]
        exact nofun
      rw [if_neg hcredentials, if_pos (show (false || true) = true from rfl)]
      unfold resetCredentials
      rcases CredentialStore.replace_cases platform req.username req.password before.credentials with
        ⟨hrefused, hsame⟩ | ⟨record, hreplaced, -⟩
      · dsimp only
        rw [if_pos hrefused, hsame]
        exact hconfigured
      · rw [hreplaced]
        rfl
  · exact configured_of_turn hconfigured (turn_of_station hstation hconfigured hrecovery)

end AuthService

namespace WebConfigServer

variable (deserialize : List String → String → Option JsonBody) (sha256 : String → Digest)

/-! ### The ledger of sessions -/

/-- The tokens a request was given. -/
def given (o : WebOutcome) : List String := o.auth.elim [] fun a => AuthService.issued a.2

/-- Of the sessions that were open those that the request does not close. -/
def stillOpen (o : WebOutcome) (sessions : List Digest) : List Digest :=
  o.auth.elim sessions fun a => AuthService.remaining sha256 a.1 a.2 sessions

/-- The server, and the digests of the tokens that were given out and not closed since. -/
structure Ledger where
  server : WebConfigServer
  live : List Digest

def ledgerStep (l : Ledger) (i : Iteration) : Ledger where
  server := l.server.loop deserialize sha256 i
  live := i.request.elim l.live fun r =>
    let o := handleRequest deserialize sha256 r l.server
    stillOpen sha256 o l.live ++ (given o).map sha256

/-- The files of an upload come one after the other, each from its start on. -/
def InParts : Bool → List (Nat × UploadStatus) → Prop
  | _, [] => True
  | false, (_, .fileStart) :: rest => InParts true rest
  | true, (_, .fileWrite _ _ _) :: rest => InParts true rest
  | true, (_, .fileEnd) :: rest => InParts false rest
  | true, (_, .fileAborted) :: rest => InParts false rest
  | _, _ :: _ => False

/-- The request has the password in use: for a login, or with a live session for a change of the credentials. -/
def HasPassword (l : Ledger) (r : WebRequest) : Prop :=
  (∃ req, AuthService.parseCredentials deserialize r.body = some req
      ∧ l.server.auth.credentials.verify r.platform req.username req.password = true)
    ∨ sha256 (sessionToken r) ∈ l.live
      ∧ ∃ req current, AuthService.parseUpdate deserialize r.body = some req ∧ req.currentPassword = some current
        ∧ l.server.auth.credentials.verify r.platform l.server.auth.credentials.username current = true

/-- What an iteration may do for those outside. -/
structure Guarded (l : Ledger) (i : Iteration) : Prop where
  effects : ∀ r, i.request = some r → (handleRequest deserialize sha256 r l.server).server.effects ≠ l.server.effects →
    sha256 (sessionToken r) ∈ l.live
  grants : ∀ r, i.request = some r →
    given (handleRequest deserialize sha256 r l.server) ≠ []
      ∨ (handleRequest deserialize sha256 r l.server).server.auth.credentials ≠ l.server.auth.credentials →
    HasPassword deserialize sha256 l r ∨ l.server.auth.credentials.configured = false
      ∨ l.server.recovery.isOpen (Clock.millis r.handledAt) = true
  idle : i.request = none → (l.server.loop deserialize sha256 i).auth = l.server.auth
    ∧ (l.server.loop deserialize sha256 i).effects = l.server.effects

variable {deserialize sha256} {r : WebRequest} {s s' : WebConfigServer} {times later : List Nat}

/-- A step that at most checks the session of a request, at some of the times. -/
structure Passive (sha256 : String → Digest) (r : WebRequest) (times : List Nat) (s s' : WebConfigServer) : Prop where
  apMode : s'.isApMode = s.isApMode
  recovery : s'.recovery = s.recovery
  credentials : s'.auth.credentials = s.auth.credentials
  checks : ∃ checks : List Nat, checks.Sublist times ∧ s'.auth.sessions
    = run (SessionTable.step sha256) s.auth.sessions (checks.map (.validate (sessionToken r)))

theorem Passive.of_same (times : List Nat) (hmode : s'.isApMode = s.isApMode) (hrecovery : s'.recovery = s.recovery)
    (hauth : s'.auth = s.auth) : Passive sha256 r times s s' :=
  ⟨hmode, hrecovery, congrArg AuthService.credentials hauth, [], List.nil_sublist times, congrArg AuthService.sessions hauth⟩

theorem Passive.refl (times : List Nat) (s : WebConfigServer) : Passive sha256 r times s s := .of_same times rfl rfl rfl

theorem Passive.trans {s'' : WebConfigServer} (first : Passive sha256 r times s s') (second : Passive sha256 r later s' s'') :
    Passive sha256 r (times ++ later) s s'' := by
  obtain ⟨checks, hchecks, hsessions⟩ := first.checks
  obtain ⟨more, hmore, hlater⟩ := second.checks
  refine ⟨second.apMode.trans first.apMode, second.recovery.trans first.recovery,
    second.credentials.trans first.credentials, checks ++ more, hchecks.append hmore, ?_⟩
  rw [hlater, hsessions, List.map_append, run_append]

theorem Passive.covers {sessions : List Digest} (hpassive : Passive sha256 r times s s')
    (h : s.auth.sessions.table.Covers sessions) : s'.auth.sessions.table.Covers sessions := by
  obtain ⟨checks, -, hsessions⟩ := hpassive.checks
  have hstep (before : Sessions) (event : SessionTable.SessionEvent) (hcheck : ∃ time, .validate (sessionToken r) time = event)
      (hbefore : before.table.Covers sessions) : (SessionTable.step sha256 before event).table.Covers sessions := by
    obtain ⟨time, rfl⟩ := hcheck
    exact fun hash => (SessionTable.holders_validate sha256 _ _ _ _).trans (hbefore hash)
  rw [hsessions]
  refine run_invariant (P := fun before : Sessions => before.table.Covers sessions) h hstep _ fun event hevent => ?_
  obtain ⟨time, -, hcheck⟩ := List.mem_map.mp hevent
  exact ⟨time, hcheck⟩

theorem Passive.held {hash : Digest} (hpassive : Passive sha256 r times s s')
    (h : SessionTable.Held s'.auth.sessions.table hash) : SessionTable.Held s.auth.sessions.table hash := by
  have hcovers : s'.auth.sessions.table.Covers s.auth.sessions.table.digests :=
    hpassive.covers fun hash => (SessionTable.count_digests _ hash).ge
  rw [SessionTable.held_iff] at h ⊢
  exact h.trans_le ((hcovers hash).trans_eq (SessionTable.count_digests _ hash))

theorem decide_eq_allow_iff (path : String) (isGet configured authenticated : Bool) :
    AuthPolicy.decide path isGet false configured authenticated = .allow
      ↔ AuthPolicy.isPublicRoute path isGet = true ∨ authenticated = true := by
  unfold AuthPolicy.decide
  rw [if_neg Bool.false_ne_true]
  split
  · rename_i hpublic
    exact iff_of_true rfl (Or.inl hpublic)
  · rename_i hpublic
    split
    · rename_i hauthenticated
      exact iff_of_true rfl (Or.inr hauthenticated)
    · rename_i hauthenticated
      refine iff_of_false ?_ (not_or.mpr ⟨hpublic, hauthenticated⟩)
      split
      · exact nofun
      · split
        · exact nofun
        · exact nofun

variable (sha256) in
/-- The guard looks at the session, and lets only a valid one through to what is not public. -/
theorem evaluateRequest_spec (r : WebRequest) (time : Nat) (s : WebConfigServer) (hstation : s.isApMode = false) :
    Passive sha256 r [time] s (evaluateRequest sha256 r time s).2 ∧ (evaluateRequest sha256 r time s).2.effects = s.effects
      ∧ ((evaluateRequest sha256 r time s).1 = .allow → AuthPolicy.isPublicRoute r.uri (r.method == .get) = false →
        SessionTable.Held s.auth.sessions.table (sha256 (sessionToken r))) := by
  obtain ⟨sessions, hafter, -, hvalid⟩ := AuthService.isAuthenticated_cases sha256 (sessionToken r) time s.auth
  have hchecks := AuthService.sessions_isAuthenticated sha256 (sessionToken r) time s.auth
  unfold evaluateRequest
  rw [hstation, if_neg Bool.false_ne_true]
  dsimp only
  rw [hafter] at hchecks ⊢
  refine ⟨⟨hstation.symm ▸ rfl, rfl, rfl, ?_⟩, rfl, fun hallow hpublic => ?_⟩
  · rcases hchecks with ⟨hsame, -⟩ | hchecked
    · exact ⟨[], List.nil_sublist _, hsame⟩
    · exact ⟨[time], List.Sublist.refl _, hchecked⟩
  · rcases (decide_eq_allow_iff _ _ _ _).mp hallow with hroute | hauthenticated
    · exact nomatch hpublic.symm.trans hroute
    · exact (SessionTable.held_of_validate (hvalid hauthenticated)).2

variable (sha256) (r) in
/-- A part of the upload; without a session it is rejected from its start on. -/
theorem handleOTAUpload_spec (time : Nat) (upload : UploadStatus) (hstation : s.isApMode = false) :
    Passive sha256 r [time] s (handleOTAUpload sha256 r s time upload) := by
  have hsame {s' : WebConfigServer} (hmode : s'.isApMode = s.isApMode) (hrecovery : s'.recovery = s.recovery)
      (hauth : s'.auth = s.auth) : Passive sha256 r [time] s s' := .of_same [time] hmode hrecovery hauth
  unfold handleOTAUpload
  split
  · have hspec := (evaluateRequest_spec sha256 r time s hstation).1
    dsimp only
    split
    · exact hspec.trans (.of_same [] rfl rfl rfl)
    · exact hspec.trans (.of_same [] rfl rfl rfl)
  · split
    · exact Passive.refl [time] s
    · split
      · exact hsame rfl rfl rfl
      · exact hsame rfl rfl rfl
  · split
    · exact hsame rfl rfl rfl
    · exact hsame rfl rfl rfl
  · split
    · exact hsame rfl rfl rfl
    · exact hsame rfl rfl rfl

theorem receive_spec (uploads : List (Nat × UploadStatus)) (hstation : s.isApMode = false) :
    Passive sha256 r (uploads.map Prod.fst) s
      (uploads.foldl (fun s upload => handleOTAUpload sha256 r s upload.1 upload.2) s) := by
  induction uploads generalizing s with
  | nil => exact Passive.refl [] s
  | cons upload rest ih =>
      have hfirst := handleOTAUpload_spec sha256 r upload.1 upload.2 hstation
      exact hfirst.trans (ih (hfirst.apMode.trans hstation))

/-- Without a session an upload leaves the flash alone: each of its files is rejected. -/
theorem receive_effects (hprotected : AuthPolicy.isPublicRoute r.uri (r.method == .get) = false)
    (uploads : List (Nat × UploadStatus)) (inPart : Bool) (hparts : InParts inPart uploads) (hstation : s.isApMode = false)
    (hrejected : inPart = true → s.otaRejected = true)
    (hnone : ¬ SessionTable.Held s.auth.sessions.table (sha256 (sessionToken r))) :
    (uploads.foldl (fun s upload => handleOTAUpload sha256 r s upload.1 upload.2) s).effects = s.effects := by
  induction uploads generalizing s inPart with
  | nil => rfl
  | cons upload rest ih =>
      obtain ⟨time, status⟩ := upload
      have hpassive := handleOTAUpload_spec sha256 r time status hstation
      have hnext {inPart : Bool} (hparts : InParts inPart rest)
          (hrejected : inPart = true → (handleOTAUpload sha256 r s time status).otaRejected = true) :=
        ih inPart hparts (hpassive.apMode.trans hstation) hrejected fun hheld => hnone (hpassive.held hheld)
      rw [List.foldl_cons]
      cases inPart with
      | false =>
          cases status with
          | fileStart =>
              obtain ⟨-, heffects, hallowed⟩ := evaluateRequest_spec sha256 r time s hstation
              have hdenied : (evaluateRequest sha256 r time s).1 ≠ .allow := fun hallow => hnone (hallowed hallow hprotected)
              refine (hnext hparts fun _ => ?_).trans ?_
              · unfold handleOTAUpload
                dsimp only
                rw [if_neg hdenied]
                exact decide_eq_true hdenied
              · unfold handleOTAUpload
                dsimp only
                rw [if_neg hdenied]
                exact heffects
          | fileWrite totalSize currentSize first => exact hparts.elim
          | fileEnd => exact hparts.elim
          | fileAborted => exact hparts.elim
      | true =>
          have hrejected := hrejected rfl
          cases status with
          | fileStart => exact hparts.elim
          | fileWrite totalSize currentSize first =>
              have hignored : handleOTAUpload sha256 r s time (.fileWrite totalSize currentSize first) = s := if_pos hrejected
              rw [hignored] at hnext ⊢
              exact hnext hparts fun _ => hrejected
          | fileEnd =>
              have hignored : handleOTAUpload sha256 r s time .fileEnd = { s with otaRejected := false } := if_pos hrejected
              refine (hnext hparts nofun).trans ?_
              rw [hignored]
          | fileAborted =>
              have hignored : handleOTAUpload sha256 r s time .fileAborted = { s with otaRejected := false } := if_pos hrejected
              refine (hnext hparts nofun).trans ?_
              rw [hignored]

/-! ### One request -/

/-- The calls of the authentication that a request may make. -/
inductive MayCall (s : WebConfigServer) (r : WebRequest) : AuthCall → Prop where
  | login : MayCall s r (.login r.body)
  | status (recovery : Bool) (remaining : UInt32) : MayCall s r (.status (sessionToken r) s.isApMode recovery remaining)
  | credentials :
      MayCall s r (.updateCredentials r.body (sessionToken r) s.isApMode (s.recovery.isOpen (Clock.millis r.handledAt)))
  | logout : MayCall s r (.logout (sessionToken r))
  | logoutAll : MayCall s r .logoutAll

/-- What a handler does: nothing behind the guard unless its route is there, and to the sessions only what its call does. -/
structure Dispatched (deserialize : List String → String → Option JsonBody) (sha256 : String → Digest) (s : WebConfigServer)
    (r : WebRequest) (o : WebOutcome) : Prop where
  apMode : o.server.isApMode = s.isApMode
  effects : o.server.effects ≠ s.effects → AuthPolicy.isPublicRoute r.uri (r.method == .get) = false
  called : (∃ call, MayCall s r call
      ∧ o.auth = some (⟨r.handledAt, r.platform, call⟩, AuthService.handle deserialize sha256 s.auth ⟨r.handledAt, r.platform, call⟩)
      ∧ o.server.auth = (AuthService.handle deserialize sha256 s.auth ⟨r.handledAt, r.platform, call⟩).service)
    ∨ o.auth = none ∧ o.server.auth = s.auth

theorem dispatched_reply (reply : WebReply) : Dispatched deserialize sha256 s r ⟨s, some reply, none⟩ :=
  ⟨rfl, fun h => absurd rfl h, Or.inr ⟨rfl, rfl⟩⟩

theorem dispatched_answer {call : AuthCall} (hcall : MayCall s r call) :
    Dispatched deserialize sha256 s r (answer deserialize sha256 r s call) :=
  ⟨rfl, fun h => absurd rfl h, Or.inl ⟨call, hcall, rfl, rfl⟩⟩

theorem dispatched_handleAuthCredentials : Dispatched deserialize sha256 s r (handleAuthCredentials deserialize sha256 r s) := by
  have hanswer : Dispatched deserialize sha256 s r (answer deserialize sha256 r s _) := dispatched_answer .credentials
  unfold handleAuthCredentials
  split
  · exact dispatched_reply unsupported
  · dsimp only
    split
    · exact ⟨hanswer.apMode, hanswer.effects, hanswer.called⟩
    · exact hanswer

theorem dispatched_handleOTAFinal (huri : r.method = .post ∧ r.uri = "/update") :
    Dispatched deserialize sha256 s r (handleOTAFinal r s) := by
  have hprotected : AuthPolicy.isPublicRoute r.uri (r.method == .get) = false := by
    rw [huri.1, huri.2]
    decide
  unfold handleOTAFinal
  split
  · exact dispatched_reply _
  · dsimp only
    split
    · exact ⟨rfl, fun _ => hprotected, Or.inr ⟨rfl, rfl⟩⟩
    · exact ⟨rfl, fun _ => hprotected, Or.inr ⟨rfl, rfl⟩⟩

theorem dispatched_handleOwn : Dispatched deserialize sha256 s r (handleOwn r s) := by
  unfold handleOwn
  split
  · exact dispatched_reply _
  · rename_i hprotected
    exact ⟨rfl, fun _ => eq_false_of_ne_true hprotected, Or.inr ⟨rfl, rfl⟩⟩

theorem dispatched : Dispatched deserialize sha256 s r (dispatch deserialize sha256 r s) := by
  unfold dispatch
  split
  · unfold handleAuthLogin
    split
    · exact dispatched_reply unsupported
    · exact dispatched_answer .login
  split
  · exact dispatched_answer (.status _ _)
  split
  · exact dispatched_handleAuthCredentials
  split
  · unfold handleAuthLogout
    split
    · exact dispatched_reply unsupported
    · exact dispatched_answer .logout
  split
  · unfold handleAuthLogoutAll
    split
    · exact dispatched_reply unsupported
    · split
      · exact dispatched_reply _
      · exact dispatched_answer .logoutAll
  split
  · rename_i huri
    exact dispatched_handleOTAFinal huri
  · exact dispatched_handleOwn

/-- The password was given, for a login or by a session that is held. -/
def Password (deserialize : List String → String → Option JsonBody) (sha256 : String → Digest) (s : WebConfigServer)
    (r : WebRequest) : Prop :=
  (∃ req, AuthService.parseCredentials deserialize r.body = some req
      ∧ s.auth.credentials.verify r.platform req.username req.password = true)
    ∨ SessionTable.Held s.auth.sessions.table (sha256 (sessionToken r))
      ∧ ∃ req current, AuthService.parseUpdate deserialize r.body = some req ∧ req.currentPassword = some current
        ∧ s.auth.credentials.verify r.platform s.auth.credentials.username current = true

/-- What a request of the station does. -/
structure Served (deserialize : List String → String → Option JsonBody) (sha256 : String → Digest) (s : WebConfigServer)
    (r : WebRequest) (o : WebOutcome) : Prop where
  apMode : o.server.isApMode = false
  effects : o.server.effects ≠ s.effects → SessionTable.Held s.auth.sessions.table (sha256 (sessionToken r))
  covers : ∀ sessions, s.auth.sessions.table.Covers sessions →
    o.server.auth.sessions.table.Covers (stillOpen sha256 o sessions ++ (given o).map sha256)
  reason : given o ≠ [] ∨ o.server.auth.credentials ≠ s.auth.credentials →
    Password deserialize sha256 s r ∨ s.auth.credentials.configured = false
      ∨ s.recovery.isOpen (Clock.millis r.handledAt) = true

theorem Passive.password (hpassive : Passive sha256 r times s s') (h : Password deserialize sha256 s' r) :
    Password deserialize sha256 s r := by
  unfold Password at h ⊢
  rw [hpassive.credentials] at h
  exact h.imp_right (And.imp_left hpassive.held)

/-- Looking at the session first changes nothing of that. -/
theorem Served.after_passive {o : WebOutcome} (hpassive : Passive sha256 r times s s') (heffects : s'.effects = s.effects
    ∨ SessionTable.Held s.auth.sessions.table (sha256 (sessionToken r)))
    (h : Served deserialize sha256 s' r o) : Served deserialize sha256 s r o where
  apMode := h.apMode
  effects hchanged := by
    rcases heffects with hsame | hheld
    · exact hpassive.held (h.effects (hsame ▸ hchanged))
    · exact hheld
  covers sessions hcovers := h.covers sessions (hpassive.covers hcovers)
  reason hgiven := by
    have hreason := h.reason (hpassive.credentials ▸ hgiven)
    rw [hpassive.credentials, hpassive.recovery] at hreason
    exact hreason.imp_left hpassive.password

theorem station_of_mayCall {call : AuthCall} (hcall : MayCall s r call) (hstation : s.isApMode = false) (time : Nat)
    (platform : AuthPlatform) : AuthService.Station ⟨time, platform, call⟩ := by
  cases hcall with
  | login => exact trivial
  | status recovery remaining => exact hstation
  | credentials => exact hstation
  | logout => exact trivial
  | logoutAll => exact trivial

theorem password_of_vouched {call : AuthCall} (hcall : MayCall s r call)
    (h : AuthService.Vouched deserialize sha256 s.auth ⟨r.handledAt, r.platform, call⟩) : Password deserialize sha256 s r := by
  cases hcall with
  | login => exact Or.inl h
  | status recovery remaining => exact h.elim
  | credentials => exact Or.inr ⟨(SessionTable.held_of_validate h.1).2, h.2⟩
  | logout => exact h.elim
  | logoutAll => exact h.elim

/-- A handler behind the guard, once the guard has looked at the session. -/
theorem Dispatched.served {o : WebOutcome} (h : Dispatched deserialize sha256 s' r o) (hpassive : Passive sha256 r times s s')
    (hlooked : s'.effects = s.effects) (hstation : s.isApMode = false)
    (hallowed : o.server.effects ≠ s'.effects → SessionTable.Held s.auth.sessions.table (sha256 (sessionToken r))) :
    Served deserialize sha256 s r o := by
  have hstation' := hpassive.apMode.trans hstation
  have heffects (hchanged : o.server.effects ≠ s.effects) := hallowed (hlooked ▸ hchanged)
  rcases h.called with ⟨call, hcall, hauth, hafter⟩ | ⟨hauth, hafter⟩
  · have hcalled := station_of_mayCall hcall hstation' r.handledAt r.platform
    have hgiven : given o = AuthService.issued (AuthService.handle deserialize sha256 s'.auth ⟨r.handledAt, r.platform, call⟩) := by
      unfold given
      rw [hauth]
      rfl
    refine ⟨h.apMode.trans hstation', heffects, fun sessions hcovers => ?_, fun hgrant => ?_⟩
    · unfold stillOpen
      rw [hafter, hgiven, hauth]
      exact AuthService.covers_handle hcalled (hpassive.covers hcovers)
    · rw [hgiven, hafter, ← hpassive.credentials] at hgrant
      rcases AuthService.reason_of_given hcalled hgrant with hvouched | hfirst | hrecovery
      · exact Or.inl (hpassive.password (password_of_vouched hcall hvouched))
      · exact Or.inr (Or.inl (hpassive.credentials ▸ hfirst))
      · refine Or.inr (Or.inr ?_)
        rw [← hpassive.recovery]
        obtain ⟨body, token, hupdate⟩ := hrecovery
        cases hcall with
        | credentials => exact (AuthCall.updateCredentials.inj hupdate).2.2.2
        | login => exact nomatch hupdate
        | status recovery remaining => exact nomatch hupdate
        | logout => exact nomatch hupdate
        | logoutAll => exact nomatch hupdate
  · have hgiven : given o = [] := by
      unfold given
      rw [hauth]
      rfl
    refine ⟨h.apMode.trans hstation', heffects, fun sessions hcovers => ?_, fun hgrant => ?_⟩
    · unfold stillOpen
      rw [hafter, hgiven, hauth, List.map_nil, List.append_nil]
      exact hpassive.covers hcovers
    · rw [hgiven, hafter, hpassive.credentials] at hgrant
      exact (hgrant.elim (· rfl) (· rfl)).elim

theorem served_guarded (hstation : s.isApMode = false) : Served deserialize sha256 s r (guarded deserialize sha256 r s) := by
  obtain ⟨hpassive, heffects, hallowed⟩ := evaluateRequest_spec sha256 r r.guardAt s hstation
  unfold guarded
  split
  · rename_i looked heq
    rw [heq] at hpassive heffects hallowed
    have hdispatched : Dispatched deserialize sha256 looked r _ := dispatched
    exact hdispatched.served hpassive heffects hstation fun hchanged => hallowed rfl (hdispatched.effects hchanged)
  · rename_i decision looked _ heq
    rw [heq] at hpassive heffects
    exact (dispatched_reply (denied decision)).served hpassive heffects hstation fun hchanged => absurd rfl hchanged

theorem served (hstation : s.isApMode = false) (hparts : InParts false r.uploads) :
    Served deserialize sha256 s r (handleRequest deserialize sha256 r s) := by
  unfold handleRequest
  split
  · rename_i hupload
    have hprotected : AuthPolicy.isPublicRoute r.uri (r.method == .get) = false := by
      rw [hupload.1, hupload.2.1]
      decide
    have hpassive : Passive sha256 r (r.uploads.map Prod.fst) s (receive sha256 r s) := receive_spec r.uploads hstation
    have heffects : (receive sha256 r s).effects = s.effects ∨ SessionTable.Held s.auth.sessions.table (sha256 (sessionToken r)) := by
      by_cases hheld : SessionTable.Held s.auth.sessions.table (sha256 (sessionToken r))
      · exact Or.inr hheld
      · exact Or.inl (receive_effects hprotected r.uploads false hparts hstation nofun hheld)
    dsimp only
    split
    · refine Served.after_passive hpassive heffects ⟨hpassive.apMode.trans hstation, fun h => absurd rfl h, ?_, ?_⟩
      · exact fun sessions hcovers => (List.append_nil sessions).symm ▸ hcovers
      · exact fun hgrant => (hgrant.elim (· rfl) (· rfl)).elim
    · exact (served_guarded (hpassive.apMode.trans hstation)).after_passive hpassive heffects
  · exact served_guarded hstation

/-! ### Runs -/

/-- The ledger has every session of the table. -/
structure Booked (l : Ledger) : Prop where
  station : l.server.isApMode = false
  covers : l.server.auth.sessions.table.Covers l.live

theorem Booked.live {l : Ledger} (h : Booked l) {hash : Digest} (hheld : SessionTable.Held l.server.auth.sessions.table hash) :
    hash ∈ l.live :=
  List.count_pos_iff.mp ((SessionTable.held_iff.mp hheld).trans_le (h.covers hash))

theorem booked_step (l : Ledger) (i : Iteration) (hparts : ∀ r, i.request = some r → InParts false r.uploads) (h : Booked l) :
    Guarded deserialize sha256 l i ∧ Booked (ledgerStep deserialize sha256 l i) := by
  obtain ⟨request, updatedAt⟩ := i
  cases request with
  | none => exact ⟨⟨fun _ hr => (nomatch hr), fun _ hr => (nomatch hr), fun _ => ⟨rfl, rfl⟩⟩, h.station, h.covers⟩
  | some r =>
      have hserved : Served deserialize sha256 l.server r _ := served h.station (hparts r rfl)
      constructor
      · refine ⟨fun other hr hchanged => ?_, fun other hr hgrant => ?_, nofun⟩
        · obtain rfl := Option.some.inj hr
          exact h.live (hserved.effects hchanged)
        · obtain rfl := Option.some.inj hr
          exact (hserved.reason hgrant).imp_left (Or.imp_right (And.imp_left h.live))
      · exact ⟨hserved.apMode, hserved.covers l.live h.covers⟩

/-- In every run of the station only the tokens that were given out and not closed since get behind the guard, and those come with the password, the first setup or the recovery window. -/
theorem guarded_run (deserialize : List String → String → Option JsonBody) (sha256 : String → Digest) (start : WebConfigServer)
    (hstation : start.isApMode = false) (iterations : List Iteration)
    (hparts : ∀ i ∈ iterations, ∀ r, i.request = some r → InParts false r.uploads) :
    Along (Guarded deserialize sha256) (ledgerStep deserialize sha256) ⟨start, start.auth.sessions.table.digests⟩ iterations :=
  along_imp Booked ⟨hstation, fun hash => (SessionTable.count_digests _ hash).ge⟩
    (fun l i hbooked hparts => booked_step l i hparts hbooked) iterations (along_of_forall iterations hparts)

/-- A station with credentials and no session. -/
def station : WebConfigServer := ⟨false, AuthService.configuredService, .closed, false, false, []⟩

/-- A login, the configuration with its cookie, an upload without one, a logout, and the configuration with the old cookie. -/
def loginThenLogout : List Iteration :=
  let platform := AuthService.givingToken 1
  let cookie := "sid=01010101010101010101010101010101"
  let login : WebRequest := ⟨0, 0, .post, "/api/auth/login", "application/json", "", AuthService.loginBody, [], false, platform⟩
  let config (time : Nat) : WebRequest := ⟨time, time, .get, "/api/config", "", cookie, "", [], false, platform⟩
  let upload : WebRequest := ⟨9, 9, .post, "/update", "multipart/form-data", "", "",
    [(9, .fileStart), (9, .fileWrite 0 4 0xE9#8), (9, .fileEnd)], false, platform⟩
  let logout : WebRequest := ⟨20, 20, .post, "/api/auth/logout", "application/json", cookie, "", [], false, platform⟩
  [⟨some login, 1⟩, ⟨some (config 5), 6⟩, ⟨none, 7⟩, ⟨some upload, 10⟩, ⟨some logout, 21⟩, ⟨some (config 30), 31⟩]

theorem guarded_run_loginThenLogout :
    Along (Guarded AuthService.requestJson SessionTable.textDigest) (ledgerStep AuthService.requestJson SessionTable.textDigest)
      ⟨station, station.auth.sessions.table.digests⟩ loginThenLogout := by
  refine guarded_run AuthService.requestJson SessionTable.textDigest station rfl loginThenLogout ?_
  intro i hi r hr
  simp only [loginThenLogout, List.mem_cons, List.not_mem_nil, or_false] at hi
  rcases hi with rfl | rfl | rfl | rfl | rfl | rfl
  · obtain rfl := Option.some.inj hr
    trivial
  · obtain rfl := Option.some.inj hr
    trivial
  · exact nomatch hr
  · obtain rfl := Option.some.inj hr
    trivial
  · obtain rfl := Option.some.inj hr
    trivial
  · obtain rfl := Option.some.inj hr
    trivial

/-- Only the first of the two looks at the configuration reaches its handler. -/
example :
    (run (ledgerStep AuthService.requestJson SessionTable.textDigest) ⟨station, station.auth.sessions.table.digests⟩
      loginThenLogout).server.effects = [.handler "/api/config"] := by
  decide +kernel

end WebConfigServer

end EspNut
