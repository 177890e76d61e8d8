import EspNut.Web.Access

/-!
# The use of the recovery window

New credentials from the recovery window close it. Nothing else touches it but the clock.
-/

namespace EspNut

open Lib

namespace CredentialStore

theorem create_of_ne_ok {platform : AuthPlatform} {username password : String} {store : CredentialStore}
    (h : (create platform username password store).1 ≠ .ok) : (create platform username password store).2 = store := by
  revert h
  simp only [create]
  split_ifs with hconfigured husername hpassword
  · simp
  · simp
  · simp
  · cases newRecord platform username password with
    | none => simp
    | some record => cases hsaved : saveRecord platform record <;> simp [hsaved]

theorem replace_of_ne_ok {platform : AuthPlatform} {username password : String} {store : CredentialStore}
    (h : (replace platform username password store).1 ≠ .ok) : (replace platform username password store).2 = store := by
  revert h
  simp only [replace]
  split_ifs with husername hpassword
  · simp
  · simp
  · cases newRecord platform username password with
    | none => simp
    | some record => cases hsaved : saveRecord platform record <;> simp [hsaved]

end CredentialStore

namespace AuthService

variable {deserialize : List String → String → Option JsonBody} {sha256 : String → Digest} {before : AuthService} {event : AuthEvent}

/-- A call that changes the credentials answers 200. -/
def TellsChange (before : AuthService) (outcome : AuthOutcome) : Prop :=
  outcome.service.credentials ≠ before.credentials → outcome.response.map AuthResponse.status = some 200

theorem tellsChange_of_same {outcome : AuthOutcome} (h : outcome.service.credentials = before.credentials) :
    TellsChange before outcome := fun hchanged => absurd h hchanged

variable (sha256) in
theorem credentials_isAuthenticated (token : String) (now : UInt32) (service : AuthService) :
    (isAuthenticated sha256 token now service).2.credentials = service.credentials := by
  simp only [isAuthenticated]
  split <;> rfl

theorem credentials_login (platform : AuthPlatform) (body : String) (now : UInt32) (service : AuthService) :
    (login deserialize sha256 platform body now service).service.credentials = service.credentials := by
  simp only [login]
  split
  · rfl
  · split_ifs <;> rfl

theorem credentials_logoutAll (platform : AuthPlatform) (service : AuthService) :
    (logoutAll platform service).service.credentials = service.credentials := by
  simp only [logoutAll]
  split_ifs <;> rfl

theorem tellsChange_createInitialCredentials (platform : AuthPlatform) (body : String) (now : UInt32) (service : AuthService) :
    TellsChange service (createInitialCredentials deserialize sha256 platform body now service) := by
  simp only [createInitialCredentials]
  split
  · exact tellsChange_of_same rfl
  · split_ifs with hfailed
    · exact tellsChange_of_same (CredentialStore.create_of_ne_ok hfailed)
    · exact fun _ => rfl

theorem tellsChange_resetCredentials (platform : AuthPlatform) (req : UpdateRequest) (apMode : Bool) (now : UInt32)
    (service : AuthService) : TellsChange service (resetCredentials sha256 platform req apMode now service) := by
  simp only [resetCredentials]
  split
  · rename_i hfailed
    exact tellsChange_of_same (CredentialStore.replace_of_ne_ok hfailed)
  · exact fun _ => rfl

variable (sha256) in
theorem tellsChange_changeCredentials (platform : AuthPlatform) (req : UpdateRequest) (token : String) (now : UInt32)
    (service : AuthService) : TellsChange service (changeCredentials sha256 platform req token now service) := by
  simp only [changeCredentials]
  split
  · rename_i hfailed
    exact tellsChange_of_same (CredentialStore.replace_of_ne_ok hfailed)
  · exact fun _ => rfl

variable (deserialize) (sha256) in
theorem tellsChange_updateCredentials (platform : AuthPlatform) (body token : String) (apMode recovery : Bool) (now : UInt32)
    (service : AuthService) :
    TellsChange service (updateCredentials deserialize sha256 platform body token apMode now recovery service) := by
  have hsame := credentials_isAuthenticated sha256 token now service
  simp only [updateCredentials]
  split
  · exact tellsChange_of_same rfl
  · rename_i req _
    split_ifs with hfirst hreset hauthenticated hwait hverified
    · exact tellsChange_createInitialCredentials platform body now service
    · exact tellsChange_resetCredentials platform req apMode now service
    · exact tellsChange_of_same hsame
    · exact tellsChange_of_same hsame
    · exact tellsChange_of_same hsame
    · have hchange := tellsChange_changeCredentials sha256 platform req token now
        { (isAuthenticated sha256 token now service).2 with
          throttle := (isAuthenticated sha256 token now service).2.throttle.recordSuccess }
      exact fun hchanged => hchange (hsame ▸ hchanged)

end AuthService

namespace WebConfigServer

variable {deserialize : List String → String → Option JsonBody} {sha256 : String → Digest} {r : WebRequest} {s s' : WebConfigServer}

/-- What a request does to the recovery window. -/
structure Recovered (s : WebConfigServer) (r : WebRequest) (o : WebOutcome) : Prop where
  kept : o.server.recovery = s.recovery ∨ o.server.recovery = s.recovery.markUsed
  used : o.server.auth.credentials ≠ s.auth.credentials → s.recovery.isOpen (Clock.millis r.handledAt) = true →
    o.server.recovery = s.recovery.markUsed

theorem recovered_of_same {o : WebOutcome} (hrecovery : o.server.recovery = s.recovery)
    (hcredentials : o.server.auth.credentials = s.auth.credentials) : Recovered s r o :=
  ⟨Or.inl hrecovery, fun hchanged => absurd hcredentials hchanged⟩

theorem recovered_reply (reply : WebReply) : Recovered s r ⟨s, some reply, none⟩ := recovered_of_same rfl rfl

/-- A change of the credentials from the window uses it up. -/
theorem recovered_handleAuthCredentials : Recovered s r (handleAuthCredentials deserialize sha256 r s) := by
  have htells := AuthService.tellsChange_updateCredentials deserialize sha256 r.platform r.body
    (sessionToken r) s.isApMode (s.recovery.isOpen (Clock.millis r.handledAt)) (Clock.millis r.handledAt) s.auth
  simp only [handleAuthCredentials]
  split_ifs with hjson hused
  · exact recovered_reply unsupported
  · exact ⟨Or.inr rfl, fun _ _ => rfl⟩
  · exact ⟨Or.inl rfl, fun hchanged hopen => absurd ⟨htells hchanged, hopen⟩ hused⟩

theorem recovered_dispatch : Recovered s r (dispatch deserialize sha256 r s) := by
  simp only [dispatch]
  split_ifs with hlogin hstatus hcredentials hlogout hlogoutAll hupdate
  · simp only [handleAuthLogin]
    split_ifs
    · exact recovered_reply unsupported
    · exact recovered_of_same rfl (AuthService.credentials_login ..)
  · exact recovered_of_same rfl (AuthService.credentials_isAuthenticated ..)
  · exact recovered_handleAuthCredentials
  · simp only [handleAuthLogout]
    split_ifs
    · exact recovered_reply unsupported
    · exact recovered_of_same rfl rfl
  · simp only [handleAuthLogoutAll]
    split_ifs
    · exact recovered_reply unsupported
    · exact recovered_reply _
    · exact recovered_of_same rfl (AuthService.credentials_logoutAll ..)
  · simp only [handleOTAFinal]
    split_ifs
    · exact recovered_reply _
    · exact recovered_of_same rfl rfl
    · exact recovered_of_same rfl rfl
  · simp only [handleOwn]
    split_ifs
    · exact recovered_reply _
    · exact recovered_of_same rfl rfl

theorem Recovered.after_passive {o : WebOutcome} {times : List Nat} (hpassive : Passive sha256 r times s s')
    (h : Recovered s' r o) : Recovered s r o := by
  obtain ⟨hkept, hused⟩ := h
  rw [hpassive.recovery] at hkept hused
  rw [hpassive.credentials] at hused
  exact ⟨hkept, hused⟩

theorem recovered_guarded (hstation : s.isApMode = false) : Recovered s r (guarded deserialize sha256 r s) := by
  have hpassive := (evaluateRequest_spec sha256 r r.guardAt s hstation).1
  simp only [guarded]
  split
  · rename_i looked heq
    rw [heq] at hpassive
    exact recovered_dispatch.after_passive hpassive
  · rename_i decision looked _ heq
    rw [heq] at hpassive
    exact (recovered_reply (denied decision)).after_passive hpassive

theorem receive_keeps (uploads : List (Nat × UploadStatus)) (s : WebConfigServer) :
    (uploads.foldl (fun s upload => handleOTAUpload sha256 r s upload.1 upload.2) s).isApMode = s.isApMode
      ∧ (uploads.foldl (fun s upload => handleOTAUpload sha256 r s upload.1 upload.2) s).recovery = s.recovery := by
  induction uploads generalizing s with
  | nil => exact ⟨rfl, rfl⟩
  | cons upload rest ih =>
      have hfirst : (handleOTAUpload sha256 r s upload.1 upload.2).isApMode = s.isApMode
          ∧ (handleOTAUpload sha256 r s upload.1 upload.2).recovery = s.recovery := by
        simp only [handleOTAUpload, flash]
        split
        · split <;> exact ⟨rfl, rfl⟩
        · split_ifs <;> exact ⟨rfl, rfl⟩
        · split <;> exact ⟨rfl, rfl⟩
        · split <;> exact ⟨rfl, rfl⟩
      exact ⟨(ih _).1.trans hfirst.1, (ih _).2.trans hfirst.2⟩

variable (deserialize) (sha256) (r) in
theorem handleRequest_keeps (s : WebConfigServer) :
    (handleRequest deserialize sha256 r s).server.isApMode = s.isApMode
      ∧ ((handleRequest deserialize sha256 r s).server.recovery = s.recovery
        ∨ (handleRequest deserialize sha256 r s).server.recovery = s.recovery.markUsed) := by
  have hguarded (s : WebConfigServer) : (guarded deserialize sha256 r s).server.isApMode = s.isApMode
      ∧ ((guarded deserialize sha256 r s).server.recovery = s.recovery
        ∨ (guarded deserialize sha256 r s).server.recovery = s.recovery.markUsed) := by
    have hlooked {looked : WebConfigServer} (heq : (evaluateRequest sha256 r r.guardAt s).2 = looked) :
        looked.isApMode = s.isApMode ∧ looked.recovery = s.recovery := heq ▸ ⟨rfl, rfl⟩
    simp only [guarded]
    split
    · rename_i looked heq
      obtain ⟨hmode, hrecovery⟩ := hlooked (congrArg Prod.snd heq)
      have hdispatched : Dispatched deserialize sha256 looked r _ := dispatched
      have hrecovered : Recovered looked r (dispatch deserialize sha256 r looked) := recovered_dispatch
      rw [← hmode, ← hrecovery]
      exact ⟨hdispatched.apMode, hrecovered.kept⟩
    · rename_i decision looked _ heq
      obtain ⟨hmode, hrecovery⟩ := hlooked (congrArg Prod.snd heq)
      exact ⟨hmode, Or.inl hrecovery⟩
  have hreceive : (receive sha256 r s).isApMode = s.isApMode ∧ (receive sha256 r s).recovery = s.recovery :=
    receive_keeps r.uploads s
  simp only [handleRequest]
  split_ifs
  · exact ⟨hreceive.1, Or.inl hreceive.2⟩
  · rw [← hreceive.1, ← hreceive.2]
    exact hguarded _
  · exact hguarded s

/-- A request of the station leaves the recovery window as it is, or uses it up for new credentials. -/
theorem recovered (hstation : s.isApMode = false) : Recovered s r (handleRequest deserialize sha256 r s) := by
  have hpassive : Passive sha256 r (r.uploads.map Prod.fst) s (receive sha256 r s) := receive_spec r.uploads hstation
  simp only [handleRequest]
  split_ifs with hupload haborted
  · exact recovered_of_same hpassive.recovery hpassive.credentials
  · exact (recovered_guarded (hpassive.apMode.trans hstation)).after_passive hpassive
  · exact recovered_guarded hstation

end WebConfigServer

end EspNut
