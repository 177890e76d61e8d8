import EspNut.Lib.Run
import EspNut.WebAuth.Gate

/-!
# Attempts that wait

Login and the change of the credentials share one throttle. The failures since the last success are counted without a bound here, at real times; the throttle shows their count and the time of the last one in 32 bits.
-/

namespace EspNut.AuthService

open Lib

instance (outcome : AuthOutcome) : Decidable (ReportsFailure outcome) := inferInstanceAs (Decidable (_ ∨ _))

/-- The service, the failures since the last success and the time of the last of them. -/
structure Watched where
  service : AuthService
  failures : Nat
  lastFailure : Nat

variable (deserialize : List String → String → Option JsonBody) (sha256 : String → Digest)

/-- A verified password ends the count, the report of a failure adds to it. -/
def watchStep (watched : Watched) (event : AuthEvent) : Watched :=
  let outcome := handle deserialize sha256 watched.service event
  if outcome.verified = some true then ⟨outcome.service, 0, 0⟩
  else if ReportsFailure outcome then ⟨outcome.service, watched.failures + 1, event.time⟩
  else { watched with service := outcome.service }

/-- A call before the wait since the last failure is over checks no password and leaves the throttle. -/
def PutOff (watched : Watched) (event : AuthEvent) : Prop :=
  5 ≤ watched.failures → watched.lastFailure ≤ event.time →
    event.time < watched.lastFailure + min (1000 * 2 ^ (watched.failures - 5)) 60000 →
    (handle deserialize sha256 watched.service event).verified = none
      ∧ (handle deserialize sha256 watched.service event).service.throttle = watched.service.throttle

/-- The throttle shows the failures. -/
structure Shown (watched : Watched) : Prop where
  configured : watched.service.credentials.configured = true
  failures : watched.service.throttle.failures = LoginThrottle.counted watched.failures
  lastFailure : watched.service.throttle.lastFailureMs = Clock.millis watched.lastFailure

variable {deserialize sha256} {before : AuthService} {event : AuthEvent} {outcome : AuthOutcome}

theorem not_reportsFailure_of_silent {response : Option AuthResponse} (h : ∀ r, response = some r → Silent r)
    (service : AuthService) (verified : Option Bool) : ¬ ReportsFailure ⟨response, service, verified⟩ := by
  rintro (hfailure | hfailure)
  · exact (h _ hfailure).failure.1 rfl
  · exact (h _ hfailure).failure.2 rfl

theorem silent_of_throttled (h : Turn deserialize sha256 before event outcome)
    (hclosed : 0 < before.throttle.retryAfterMs (Clock.millis event.time)) :
    outcome.verified = none ∧ outcome.service.throttle = before.throttle := by
  cases h with
  | silent response sessions hsilent hheld => exact ⟨rfl, rfl⟩
  | failed code sessions verified hcode hverified hopen hheld => exact absurd hclosed hopen
  | loggedIn body req hcall hparse hopen hverify => exact absurd hclosed hopen
  | changed body token apMode recovery req current sessions hcall hparse hcurrent hvalid hopen hverify hheld =>
      exact absurd hclosed hopen

theorem throttle_of_turn (h : Turn deserialize sha256 before event outcome) :
    (outcome.verified = some true ∧ outcome.service.throttle = ⟨0, 0⟩)
      ∨ (outcome.verified ≠ some true ∧ ReportsFailure outcome
        ∧ outcome.service.throttle = before.throttle.recordFailure (Clock.millis event.time))
      ∨ (outcome.verified ≠ some true ∧ ¬ ReportsFailure outcome ∧ outcome.service.throttle = before.throttle) := by
  cases h with
  | silent response sessions hsilent hheld =>
      exact Or.inr (Or.inr ⟨nofun, not_reportsFailure_of_silent hsilent _ _, rfl⟩)
  | failed code sessions verified hcode hverified hopen hheld =>
      refine Or.inr (Or.inl ⟨hverified, ?_, rfl⟩)
      rcases hcode with rfl | rfl
      · exact Or.inl rfl
      · exact Or.inr rfl
  | loggedIn body req hcall hparse hopen hverify => exact Or.inl ⟨rfl, rfl⟩
  | changed body token apMode recovery req current sessions hcall hparse hcurrent hvalid hopen hverify hheld =>
      refine Or.inl ⟨verified_of_changeCredentials _ _ _ _ _, ?_⟩
      rcases changeCredentials_cases event.platform req token (Clock.millis event.time)
        { before with sessions, throttle := before.throttle.recordSuccess } with
        ⟨response, -, hrefused⟩ | ⟨record, rotated, -, hchanged⟩
      · rw [hrefused]
        rfl
      · rw [hchanged]
        rfl

theorem shown_step {watched : Watched} (h : Shown watched) (hplain : event.Plain) :
    Shown (watchStep deserialize sha256 watched event) := by
  have hturn := turn deserialize sha256 h.configured hplain
  have hconfigured := configured_of_turn h.configured hturn
  unfold watchStep
  dsimp only
  rcases throttle_of_turn hturn with ⟨hverified, hthrottle⟩ | ⟨hverified, hfailure, hthrottle⟩ | ⟨hverified, hfailure, hthrottle⟩
  · rw [if_pos hverified]
    constructor
    · exact hconfigured
    · rw [hthrottle]
      rfl
    · rw [hthrottle]
      rfl
  · rw [if_neg hverified, if_pos hfailure]
    constructor
    · exact hconfigured
    · rw [hthrottle]
      exact LoginThrottle.failures_recordFailure h.failures _
    · rw [hthrottle]
      rfl
  · rw [if_neg hverified, if_neg hfailure]
    constructor
    · exact hconfigured
    · rw [hthrottle]
      exact h.failures
    · rw [hthrottle]
      exact h.lastFailure

theorem putOff_of_shown {watched : Watched} (h : Shown watched) (hplain : event.Plain) :
    PutOff deserialize sha256 watched event := by
  intro hfailures hlast hwait
  refine silent_of_throttled (turn deserialize sha256 h.configured hplain) ?_
  have hthrottle : watched.service.throttle
      = ⟨LoginThrottle.counted watched.failures, Clock.millis watched.lastFailure⟩ :=
    LoginThrottle.ext h.failures h.lastFailure
  rw [hthrottle]
  exact LoginThrottle.retryAfterMs_pos hfailures hlast hwait

/-- In every run each call before the wait is over is put off, however many failures there were. -/
theorem attempts_wait (deserialize : List String → String → Option JsonBody) (sha256 : String → Digest)
    (start : AuthService) (hconfigured : start.credentials.configured = true) (hthrottle : start.throttle = LoginThrottle.initial)
    (events : List AuthEvent) (hplain : ∀ event ∈ events, event.Plain) :
    Along (PutOff deserialize sha256) (watchStep deserialize sha256) ⟨start, 0, 0⟩ events := by
  refine along_imp Shown ⟨hconfigured, ?_, ?_⟩ ?_ events (along_of_forall events hplain)
  · show start.throttle.failures = LoginThrottle.counted 0
    rw [hthrottle]
    rfl
  · show start.throttle.lastFailureMs = Clock.millis 0
    rw [hthrottle]
    rfl
  · intro watched event hshown hevent
    exact ⟨putOff_of_shown hshown hevent, shown_step hshown hevent⟩

def guessedRecord : CredentialRecord := ⟨"admin", fun _ => 0, SessionTable.textDigest "passw0rd", 10000⟩

/-- The password of the login is not the one of the record. -/
def guessedService : AuthService := { configuredService with credentials := ⟨guessedRecord, true, some guessedRecord⟩ }

def guessAt (time : Nat) : AuthEvent := ⟨time, givingToken 1, .login loginBody⟩

/-- Five failures just before the clock wraps, and an attempt 999 ms later. -/
theorem sixth_guess_waits :
    (handle requestJson SessionTable.textDigest
      (run (watchStep requestJson SessionTable.textDigest) ⟨guessedService, 0, 0⟩
        (List.replicate 5 (guessAt (2 ^ 32 - 1)))).service (guessAt (2 ^ 32 + 998))).verified = none := by
  have hplain : ∀ event ∈ List.replicate 5 (guessAt (2 ^ 32 - 1)) ++ [guessAt (2 ^ 32 + 998)], event.Plain := by
    intro event hevent
    rcases List.mem_append.mp hevent with hbefore | hlast
    · rw [List.eq_of_mem_replicate hbefore]
      exact trivial
    · rw [List.mem_singleton.mp hlast]
      exact trivial
  have hrun := attempts_wait requestJson SessionTable.textDigest guessedService rfl rfl _ hplain
  have hfailures : (run (watchStep requestJson SessionTable.textDigest) ⟨guessedService, 0, 0⟩
      (List.replicate 5 (guessAt (2 ^ 32 - 1)))).failures = 5 := by
    decide +kernel
  have hlast : (run (watchStep requestJson SessionTable.textDigest) ⟨guessedService, 0, 0⟩
      (List.replicate 5 (guessAt (2 ^ 32 - 1)))).lastFailure = 2 ^ 32 - 1 := by
    decide +kernel
  have hput := ((along_append _ _).mp hrun).2.1
  unfold PutOff at hput
  rw [hfailures, hlast] at hput
  exact (hput le_rfl (by decide) (by decide)).1

end EspNut.AuthService
