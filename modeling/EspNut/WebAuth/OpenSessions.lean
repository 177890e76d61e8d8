import EspNut.WebAuth.Gate

/-!
# Open sessions

Each call of the login makes at most two calls of the session table. From these follows which of the sessions that were given out a call leaves open: none when it closes all, and one less of a token that is logged out.
-/

namespace EspNut

open Lib

/-- The list has the digest of every session, as often as there is one. -/
def SessionTable.Covers (table : SessionTable) (sessions : List Digest) : Prop :=
  ∀ hash, table.holders hash ≤ sessions.count hash

namespace AuthService

variable (deserialize : List String → String → Option JsonBody) (sha256 : String → Digest)

/-- The call says that all sessions from before it are closed. -/
def closesAll (event : AuthEvent) (outcome : AuthOutcome) : Bool :=
  match event.call with
  | .logoutAll => outcome.response.any fun res => res.status == 200
  | _ => outcome.response.any fun res => res.body.contains ("sessions_closed", .flag true)

/-- Of the sessions that were open those that the call does not close. -/
def remaining (event : AuthEvent) (outcome : AuthOutcome) (sessions : List Digest) : List Digest :=
  match event.call with
  | .logout token =>
      if token.toList.length = SessionTable.kTokenLength then sessions.erase (sha256 token) else sessions
  | _ => if closesAll event outcome then [] else sessions

/-- The call comes from the station, not from the access point. -/
def Station (event : AuthEvent) : Prop :=
  match event.call with
  | .updateCredentials _ _ apMode _ | .status _ apMode _ _ => apMode = false
  | _ => True

/-- What a call makes of the session table: which calls of it, which tokens it gives out, and whether it closes all sessions. -/
inductive TableCalls (before : Sessions) (event : AuthEvent) (outcome : AuthOutcome) : Prop where
  | none (hsessions : outcome.service.sessions = before) (hissued : issued outcome = [])
      (hcloses : closesAll event outcome = false)
  | checked (token : String)
      (hsessions : outcome.service.sessions = SessionTable.step sha256 before (.validate token event.time))
      (hissued : issued outcome = []) (hcloses : closesAll event outcome = false)
  | created (persistent : Bool)
      (hsessions : outcome.service.sessions = SessionTable.step sha256 before
        (.create event.time persistent event.platform.randomToken event.platform.sessionsSaved))
      (hcookie : cookie outcome = .session (SessionTable.hexToken event.platform.randomToken) persistent)
      (hcloses : closesAll event outcome = false)
  | reset
      (hsessions : outcome.service.sessions = SessionTable.step sha256
        (SessionTable.clear event.platform.sessionsSaved before).2
        (.create event.time false event.platform.randomToken event.platform.sessionsSaved))
      (hcookie : cookie outcome = .session (SessionTable.hexToken event.platform.randomToken) false)
      (hcloses : closesAll event outcome = (SessionTable.clear event.platform.sessionsSaved before).1)
  | changed (token : String) (rotated : SessionTable.Rotation × Sessions)
      (hrotated : rotated = SessionTable.rotateExclusive sha256 token (Clock.millis event.time) event.platform.randomToken
        event.platform.sessionsSaved (SessionTable.step sha256 before (.validate token event.time)))
      (hsessions : outcome.service.sessions = rotated.2) (hissued : issued outcome = rotated.1.issued.map Prod.fst)
      (hcloses : closesAll event outcome = rotated.1.ok)
  | cleared (hsessions : outcome.service.sessions = (SessionTable.clear event.platform.sessionsSaved before).2)
      (hissued : issued outcome = [])
      (hcloses : closesAll event outcome = (SessionTable.clear event.platform.sessionsSaved before).1)

variable {deserialize sha256} {before : AuthService} {event : AuthEvent} {outcome : AuthOutcome}

/-! ### Which calls are made -/

theorem issued_of_cookie {token : String} {remember : Bool} (h : cookie outcome = .session token remember) :
    issued outcome = [token] := by
  unfold issued
  rw [h]

theorem closesAll_eq (hcall : event.call ≠ .logoutAll) :
    closesAll event outcome = outcome.response.any fun res => res.body.contains ("sessions_closed", .flag true) := by
  unfold closesAll
  split
  · rename_i heq
    exact absurd heq hcall
  · rfl

theorem closesAll_of_not_mem {response : AuthResponse} {service : AuthService} {verified : Option Bool}
    (hcall : event.call ≠ .logoutAll) (h : ("sessions_closed", JsonValue.flag true) ∉ response.body) :
    closesAll event ⟨some response, service, verified⟩ = false := by
  rw [closesAll_eq hcall]
  exact eq_false_of_ne_true fun hcontains => h (List.contains_iff_mem.mp hcontains)

/-- A response that sets no cookie and says nothing of closed sessions. -/
structure Quiet (response : AuthResponse) : Prop where
  cookie : response.setCookie = .none
  closed : ("sessions_closed", JsonValue.flag true) ∉ response.body

theorem quiet_error (status : Nat) (code : String) : Quiet (error status code) := ⟨rfl, by simp [error]⟩

theorem quiet_tooManyAttempts (waitMs : UInt32) : Quiet (tooManyAttempts waitMs) := ⟨rfl, by simp [tooManyAttempts]⟩

theorem quiet_createError (result : CredentialStore.CreateResult) : Quiet (createError result) := by
  cases result <;> exact quiet_error _ _

theorem quiet_replaceError (result : CredentialStore.ReplaceResult) : Quiet (replaceError result) := by
  cases result <;> exact quiet_error _ _

theorem tableCalls_quiet {response : AuthResponse} {service : AuthService} {verified : Option Bool}
    (hcall : event.call ≠ .logoutAll) (hquiet : Quiet response) (hsessions : service.sessions = before.sessions
      ∨ ∃ token, service.sessions = SessionTable.step sha256 before.sessions (.validate token event.time)) :
    TableCalls sha256 before.sessions event ⟨some response, service, verified⟩ := by
  have hissued : issued ⟨some response, service, verified⟩ = [] := by
    unfold issued AuthService.cookie
    rw [Option.map_some, Option.getD_some, hquiet.cookie]
  rcases hsessions with hsame | ⟨token, hchecked⟩
  · exact .none hsame hissued (closesAll_of_not_mem hcall hquiet.closed)
  · exact .checked token hchecked hissued (closesAll_of_not_mem hcall hquiet.closed)

variable (sha256) in
theorem sessions_isAuthenticated (token : String) (time : Nat) (service : AuthService) :
    (isAuthenticated sha256 token (Clock.millis time) service).2.sessions = service.sessions
        ∧ (isAuthenticated sha256 token (Clock.millis time) service).1 = false
      ∨ (isAuthenticated sha256 token (Clock.millis time) service).2.sessions
        = SessionTable.step sha256 service.sessions (.validate token time) := by
  unfold isAuthenticated
  split
  · exact Or.inl ⟨rfl, rfl⟩
  · exact Or.inr rfl

theorem tableCalls_login (hcall : event.call ≠ .logoutAll) (body : String) :
    TableCalls sha256 before.sessions event
      (login deserialize sha256 event.platform body (Clock.millis event.time) before) := by
  unfold login
  split
  · exact tableCalls_quiet hcall (quiet_error _ _) (Or.inl rfl)
  · split
    · exact tableCalls_quiet hcall (quiet_error _ _) (Or.inl rfl)
    · dsimp only
      split
      · exact tableCalls_quiet hcall (quiet_tooManyAttempts _) (Or.inl rfl)
      · split
        · exact tableCalls_quiet hcall (quiet_error _ _) (Or.inl rfl)
        · rename_i req hparse hcredentials hopen hverify
          rw [SessionTable.create_fst]
          exact .created req.remember rfl rfl (closesAll_of_not_mem hcall (by simp [successBody]))

theorem tableCalls_createInitialCredentials (hcall : event.call ≠ .logoutAll) (body : String) :
    TableCalls sha256 before.sessions event
      (createInitialCredentials deserialize sha256 event.platform body (Clock.millis event.time) before) := by
  unfold createInitialCredentials
  split
  · exact tableCalls_quiet hcall (quiet_error _ _) (Or.inl rfl)
  · dsimp only
    split
    · exact tableCalls_quiet hcall (quiet_createError _) (Or.inl rfl)
    · rw [SessionTable.create_fst]
      exact .created false rfl rfl (closesAll_of_not_mem hcall (by simp [successBody]))

/-- A body that tells of closed sessions does so exactly when they are closed. -/
theorem contains_updatedBody (username : String) (closed : Bool) :
    (updatedBody username closed).contains ("sessions_closed", .flag true) = closed := by
  unfold updatedBody
  cases closed <;> simp

theorem tableCalls_resetCredentials (hcall : event.call ≠ .logoutAll) (req : UpdateRequest) :
    TableCalls sha256 before.sessions event
      (resetCredentials sha256 event.platform req false (Clock.millis event.time) before) := by
  unfold resetCredentials
  dsimp only
  split
  · exact tableCalls_quiet hcall (quiet_replaceError _) (Or.inl rfl)
  · rw [SessionTable.create_fst]
    refine .reset rfl rfl ?_
    simp only [closesAll_eq hcall, Option.any_some, contains_updatedBody]

theorem tableCalls_changeCredentials (hcall : event.call ≠ .logoutAll) (req : UpdateRequest) (token : String)
    (service : AuthService)
    (hsessions : service.sessions = SessionTable.step sha256 before.sessions (.validate token event.time)) :
    TableCalls sha256 before.sessions event
      (changeCredentials sha256 event.platform req token (Clock.millis event.time) service) := by
  unfold changeCredentials
  dsimp only
  split
  · exact tableCalls_quiet hcall (quiet_replaceError _) (Or.inr ⟨token, hsessions⟩)
  · rw [hsessions]
    generalize hrotated : SessionTable.rotateExclusive sha256 token (Clock.millis event.time) event.platform.randomToken
      event.platform.sessionsSaved (SessionTable.step sha256 before.sessions (.validate token event.time)) = rotated
    refine .changed token rotated hrotated.symm rfl ?_ ?_
    · have hok (hfresh : rotated.1.fresh ≠ "") : rotated.1.ok = true := by
        rw [← hrotated] at hfresh ⊢
        exact SessionTable.ok_of_fresh hfresh
      unfold issued cookie SessionTable.Rotation.issued
      rw [Option.map_some, Option.getD_some]
      dsimp only
      by_cases hfresh : rotated.1.fresh = ""
      · rw [if_neg fun h => h.2 hfresh, if_pos hfresh]
        rfl
      · rw [if_pos ⟨hok hfresh, hfresh⟩, if_neg hfresh]
        rfl
    · simp only [closesAll_eq hcall, Option.any_some, contains_updatedBody]

theorem tableCalls_updateCredentials (hcall : event.call ≠ .logoutAll) (body token : String) (recovery : Bool) :
    TableCalls sha256 before.sessions event
      (updateCredentials deserialize sha256 event.platform body token false (Clock.millis event.time) recovery before) := by
  unfold updateCredentials
  split
  · exact tableCalls_quiet hcall (quiet_error _ _) (Or.inl rfl)
  · rename_i req hparse
    split
    · exact tableCalls_createInitialCredentials hcall body
    · split
      · exact tableCalls_resetCredentials hcall req
      · dsimp only
        rcases sessions_isAuthenticated sha256 token event.time before with ⟨hsame, hnone⟩ | hchecked
        · rw [if_pos hnone]
          exact tableCalls_quiet hcall (quiet_error _ _) (Or.inl hsame)
        · split
          · exact tableCalls_quiet hcall (quiet_error _ _) (Or.inr ⟨token, hchecked⟩)
          · split
            · exact tableCalls_quiet hcall (quiet_tooManyAttempts _) (Or.inr ⟨token, hchecked⟩)
            · split
              · exact tableCalls_quiet hcall (quiet_error _ _) (Or.inr ⟨token, hchecked⟩)
              · exact tableCalls_changeCredentials hcall req token _ hchecked

theorem tableCalls_status (hcall : event.call ≠ .logoutAll) (token : String) (apMode recovery : Bool) (remaining : UInt32) :
    TableCalls sha256 before.sessions event
      (status sha256 token apMode (Clock.millis event.time) recovery remaining before) := by
  unfold status
  dsimp only
  refine tableCalls_quiet hcall ⟨rfl, ?_⟩ ?_
  · cases (isAuthenticated sha256 token (Clock.millis event.time) before).1 <;> cases recovery <;> simp
  · exact (sessions_isAuthenticated sha256 token event.time before).imp And.left fun hchecked => ⟨token, hchecked⟩

theorem tableCalls_logoutAll (hcall : event.call = .logoutAll) :
    TableCalls sha256 before.sessions event (logoutAll event.platform before) := by
  unfold logoutAll
  dsimp only
  split
  · rename_i hfails
    refine .cleared rfl rfl ?_
    unfold closesAll
    rw [hcall, hfails]
    rfl
  · rename_i hcleared
    refine .cleared rfl rfl ?_
    unfold closesAll
    rw [hcall, eq_true_of_ne_false hcleared]
    rfl

variable (deserialize sha256 before) in
/-- The calls of the session table that a call of the station makes; a logout removes its token. -/
theorem tableCalls (hstation : Station event) :
    (∃ token, event.call = .logout token
        ∧ (handle deserialize sha256 before event).service.sessions
          = SessionTable.step sha256 before.sessions (.remove token event.platform.sessionsSaved)
        ∧ issued (handle deserialize sha256 before event) = [])
      ∨ (∀ token, event.call ≠ .logout token)
        ∧ TableCalls sha256 before.sessions event (handle deserialize sha256 before event) := by
  obtain ⟨time, platform, call⟩ := event
  cases call with
  | isAuthenticated token =>
      refine Or.inr ⟨fun _ => nofun, ?_⟩
      rcases sessions_isAuthenticated sha256 token time before with ⟨hsame, -⟩ | hchecked
      · exact .none hsame rfl rfl
      · exact .checked token hchecked rfl rfl
  | login body =>
      refine Or.inr ⟨fun _ => nofun, tableCalls_login ?_ body⟩
      exact nofun
  | createInitialCredentials body =>
      refine Or.inr ⟨fun _ => nofun, tableCalls_createInitialCredentials ?_ body⟩
      exact nofun
  | updateCredentials body token apMode recovery =>
      obtain rfl : apMode = false := hstation
      refine Or.inr ⟨fun _ => nofun, tableCalls_updateCredentials ?_ body token recovery⟩
      exact nofun
  | status token apMode recovery remaining =>
      refine Or.inr ⟨fun _ => nofun, tableCalls_status ?_ token apMode recovery remaining⟩
      exact nofun
  | logout token =>
      refine Or.inl ⟨token, rfl, ?_, rfl⟩
      show (if token ≠ "" then (SessionTable.remove sha256 token platform.sessionsSaved before.sessions).2 else before.sessions) = _
      split
      · rfl
      · rename_i hempty
        rw [not_not.mp hempty]
        exact (SessionTable.remove_of_length (by decide) platform.sessionsSaved before.sessions).symm
  | logoutAll => exact Or.inr ⟨fun _ => nofun, tableCalls_logoutAll rfl⟩

/-! ### What stays open -/

theorem remaining_eq (hcall : ∀ token, event.call ≠ .logout token) (sessions : List Digest) :
    remaining sha256 event outcome sessions = if closesAll event outcome then [] else sessions := by
  unfold remaining
  split
  · rename_i token heq
    exact absurd heq (hcall token)
  · rfl

/-- What a list of the sessions has after a call: those that it leaves open, and those it gives out. -/
theorem covers_handle (hstation : Station event) {sessions : List Digest} (h : before.sessions.table.Covers sessions) :
    (handle deserialize sha256 before event).service.sessions.table.Covers
      (remaining sha256 event (handle deserialize sha256 before event) sessions
        ++ (issued (handle deserialize sha256 before event)).map sha256) := by
  intro hash
  have hbefore := h hash
  rcases tableCalls deserialize sha256 before hstation with ⟨token, hcall, hsessions, hissued⟩ | ⟨hcall, hcalls⟩
  · rw [hsessions, hissued, List.map_nil, List.append_nil]
    unfold remaining
    rw [hcall]
    dsimp only
    show (SessionTable.remove sha256 token event.platform.sessionsSaved before.sessions).2.table.holders hash ≤ _
    by_cases hlength : token.toList.length = SessionTable.kTokenLength
    · rw [if_pos hlength, SessionTable.holders_remove hlength, List.count_erase, List.count_singleton]
      omega
    · rw [if_neg hlength, SessionTable.remove_of_length hlength]
      exact hbefore
  · generalize handle deserialize sha256 before event = outcome at hcalls ⊢
    rw [remaining_eq hcall, List.count_append]
    cases hcalls with
    | none hsessions hissued hcloses =>
        rw [hsessions, hcloses, if_neg Bool.false_ne_true]
        omega
    | checked token hsessions hissued hcloses =>
        have hcount := SessionTable.holders_validate sha256 token hash (Clock.millis event.time) before.sessions.table
        rw [hsessions, hcloses, if_neg Bool.false_ne_true]
        exact (hcount.trans hbefore).trans (Nat.le_add_right _ _)
    | created persistent hsessions hcookie hcloses =>
        have hcount := SessionTable.holders_create sha256 hash (Clock.millis event.time) persistent
          event.platform.randomToken event.platform.sessionsSaved before.sessions
        rw [hsessions, issued_of_cookie hcookie, hcloses, if_neg Bool.false_ne_true]
        exact hcount.trans (Nat.add_le_add_right hbefore _)
    | reset hsessions hcookie hcloses =>
        have hcount := SessionTable.holders_create sha256 hash (Clock.millis event.time) false
          event.platform.randomToken event.platform.sessionsSaved (SessionTable.clear event.platform.sessionsSaved before.sessions).2
        have hcleared := SessionTable.holders_clear hash event.platform.sessionsSaved before.sessions
        rw [hsessions, issued_of_cookie hcookie, hcloses]
        refine hcount.trans (Nat.add_le_add_right (hcleared.trans_le ?_) _)
        split
        · exact Nat.zero_le _
        · exact hbefore
    | changed token rotated hrotated hsessions hissued hcloses =>
        have hcount := SessionTable.holders_rotateExclusive sha256 token hash (Clock.millis event.time)
          event.platform.randomToken event.platform.sessionsSaved
          (SessionTable.step sha256 before.sessions (.validate token event.time))
        have hchecked := SessionTable.holders_validate sha256 token hash (Clock.millis event.time) before.sessions.table
        rw [hsessions, hissued, hcloses, List.map_map]
        subst hrotated
        refine hcount.trans_le (Nat.add_le_add_right ?_ _)
        split
        · exact Nat.zero_le _
        · exact hchecked.trans hbefore
    | cleared hsessions hissued hcloses =>
        have hcleared := SessionTable.holders_clear hash event.platform.sessionsSaved before.sessions
        rw [hsessions, hcloses]
        refine (hcleared.trans_le ?_).trans (Nat.le_add_right _ _)
        split
        · exact Nat.zero_le _
        · exact hbefore

end AuthService

end EspNut
