import EspNut.Server.Protocol
import EspNut.Lib.Run

/-!
# Only authenticated clients act on the UPS

A slot is authenticated only by its own lines. The lines a slot has sent since its last `openSession` are recorded beside the run; `Honest` relates them to the flags of the session, and every call of the UPS source comes from a slot whose flag they justify.
-/

namespace EspNut.NUTServer

open Lib NutTable

/-! ### Lines -/

/-- A line names a command, ignoring case, and has a first word behind it. -/
def Says (line cmd word : String) : Prop :=
  ∃ first rest, splitTokens line = first :: word :: rest ∧ Text.upper first = cmd

def lastUsername (lines : List String) : Option String :=
  (lines.filterMap fun line =>
    match splitTokens line with
    | first :: word :: _ => if Text.upper first = "USERNAME" then some word else none
    | _ => none).getLast?

/-- The lines hold a PASSWORD line with the configured password, sent when the last user name was the configured one. -/
def Granted (config : NUTServerConfig) (lines : List String) : Prop :=
  ∃ before line after, lines = before ++ line :: after ∧ Says line "PASSWORD" config.password
    ∧ lastUsername before = some config.username

/-! ### Runs -/

/-- What reaches the server. -/
inductive Event where
  | openSession (connected : Slot → Bool) (peerIp : String) (now : UInt32)
  | closeSession (slot : Slot) (reason : CloseReason)
  | processCommand (env : Env) (slot : Slot) (cmdLine : String)

/-- The server, with the lines of each slot since its last `openSession`. -/
structure Recorded where
  server : Server
  sent : Slot → List String

def Recorded.initial : Recorded := ⟨Server.initial, fun _ => []⟩

def step (config : NUTServerConfig) (r : Recorded) : Event → Recorded
  | .openSession connected peerIp now =>
      let (opened, server, _) := openSession connected peerIp now r.server
      match opened with
      | some slot => ⟨server, Function.update r.sent slot []⟩
      | none => ⟨server, r.sent⟩
  | .closeSession slot reason => ⟨(closeSession slot reason r.server).1, r.sent⟩
  | .processCommand env slot cmdLine =>
      ⟨(processCommand config env slot cmdLine r.server).1,
        Function.update r.sent slot (r.sent slot ++ [cmdLine])⟩

/-! ### What one line can do -/

/-- The user name and the flag of a session after a line of its slot. -/
structure Heard (config : NUTServerConfig) (line : String) (session session' : Session) : Prop where
  username : session'.username = session.username ∨ session'.username = ""
    ∨ Says line "USERNAME" session'.username
  named : ∀ word, Says line "USERNAME" word → session'.username = word
  authenticated : session'.authenticated = true → session.authenticated = true
    ∨ Says line "PASSWORD" config.password ∧ session.username = config.username

/-- What processing a line does to the sessions, and when it may call the source. -/
structure Handled (config : NUTServerConfig) (line : String) (slot : Slot) (s : Server) (result : Server × Output) :
    Prop where
  others : ∀ other, other ≠ slot → result.1.sessions other = s.sessions other
  heard : Heard config line (s.sessions slot) (result.1.sessions slot)
  permitted : result.2.calls ≠ [] → authRequired config = true → (s.sessions slot).authenticated = true

variable {config : NUTServerConfig} {env : Env} {slot : Slot} {line : String} {s : Server}

/-- The line is not about the user name. -/
def Unnamed (line : String) : Prop := ∀ word, ¬Says line "USERNAME" word

theorem Handled.of_sessions {result : Server × Output} (hline : Unnamed line)
    (hsessions : result.1.sessions = s.sessions)
    (hpermitted : result.2.calls ≠ [] → authRequired config = true → (s.sessions slot).authenticated = true) :
    Handled config line slot s result where
  others := fun other _ => by rw [hsessions]
  heard := by
    rw [hsessions]
    exact ⟨Or.inl rfl, fun word hword => absurd hword (hline word), Or.inl⟩
  permitted := hpermitted

theorem Handled.of_print (hline : Unnamed line) {output : Output} (hcalls : output.calls = []) :
    Handled config line slot s (s, output) :=
  Handled.of_sessions hline rfl fun hne => absurd hcalls hne

theorem authenticated_of_allowed (h : ¬ (authRequired config = true ∧ (s.sessions slot).authenticated = false)) :
    authRequired config = true → (s.sessions slot).authenticated = true := by
  intro hrequired
  rw [← Bool.not_eq_false]
  exact fun hnot => h ⟨hrequired, hnot⟩

theorem handled_instCmd (hline : Unnamed line) (tokens : List String) :
    Handled config line slot s (instCmd config env slot tokens s) := by
  unfold instCmd
  split
  · exact Handled.of_print hline rfl
  rename_i hallowed
  have hauth := authenticated_of_allowed hallowed
  split
  · exact Handled.of_print hline rfl
  split
  · exact Handled.of_print hline rfl
  split
  · exact Handled.of_print hline rfl
  · dsimp only
    split
    · exact Handled.of_sessions hline rfl fun _ => hauth
    · exact Handled.of_sessions hline rfl fun _ => hauth

theorem handled_answerSet (hline : Unnamed line) {ups : UpsSource}
    (hauth : authRequired config = true → (s.sessions slot).authenticated = true) (varName value : String) :
    Handled config line slot s (answerSet env ups slot varName value s) := by
  unfold answerSet
  dsimp only
  split
  · exact Handled.of_print hline rfl
  split
  · exact Handled.of_print hline rfl
  split
  · exact Handled.of_print hline rfl
  · exact Handled.of_print hline rfl
  · exact Handled.of_print hline rfl
  · exact Handled.of_print hline rfl
  · split
    · exact Handled.of_sessions hline rfl fun _ => hauth
    · split
      · exact Handled.of_sessions hline rfl fun _ => hauth
      · exact Handled.of_sessions hline rfl fun _ => hauth

theorem handled_setVar (hline : Unnamed line) (upsName varName value : String) :
    Handled config line slot s (setVar config env slot upsName varName value s) := by
  unfold setVar
  dsimp only
  split
  · exact Handled.of_print hline rfl
  split
  · exact Handled.of_print hline rfl
  split
  · exact Handled.of_print hline rfl
  split
  · exact Handled.of_print hline rfl
  split
  · exact Handled.of_print hline rfl
  · rename_i hallowed
    exact handled_answerSet hline (authenticated_of_allowed hallowed) varName value

theorem Handled.of_setSession (hline : Unnamed line) {session : Session} {output : Output}
    (husername : session.username = (s.sessions slot).username ∨ session.username = "")
    (hauth : session.authenticated = true → (s.sessions slot).authenticated = true) (hcalls : output.calls = []) :
    Handled config line slot s (s.setSession slot session, output) where
  others := by
    intro other hother
    rw [sessions_setSession, if_neg hother]
  heard := by
    rw [sessions_setSession, if_pos rfl]
    refine ⟨husername.imp_right Or.inl, fun word hword => absurd hword (hline word), fun h => Or.inl (hauth h)⟩
  permitted := fun hne => absurd hcalls hne

theorem handled_setTracking (hline : Unnamed line) (mode : String) :
    Handled config line slot s (setTracking slot mode s) := by
  unfold setTracking
  split
  · exact Handled.of_setSession hline (Or.inl rfl) id rfl
  split
  · exact Handled.of_setSession hline (Or.inl rfl) id rfl
  · exact Handled.of_print hline rfl

theorem handled_setCommand (hline : Unnamed line) (tokens : List String) :
    Handled config line slot s (setCommand config env slot tokens s) := by
  unfold setCommand
  split
  · exact Handled.of_print hline rfl
  dsimp only
  split
  · split
    · exact Handled.of_print hline rfl
    · exact handled_setVar hline _ _ _
  split
  · exact handled_setTracking hline _
  · exact Handled.of_print hline rfl

theorem handled_logout (hline : Unnamed line) : Handled config line slot s (logout slot s) :=
  Handled.of_setSession hline (Or.inr rfl) (fun h => absurd h (by decide)) rfl

theorem handled_username {first : String} {args : List String} (htokens : splitTokens line = first :: args)
    (hcmd : Text.upper first = "USERNAME") : Handled config line slot s (username slot (first :: args) s) := by
  unfold username
  cases args with
  | nil =>
      apply Handled.of_print ?_ rfl
      rintro word ⟨first', rest, htokens', -⟩
      rw [htokens] at htokens'
      exact absurd (List.cons.inj htokens').2 (by simp)
  | cons word rest =>
      rw [if_neg (by simp)]
      refine ⟨?_, ?_, fun hne => absurd rfl hne⟩
      · intro other hother
        rw [sessions_setSession, if_neg hother]
      · rw [sessions_setSession, if_pos rfl]
        refine ⟨Or.inr (Or.inr ⟨first, rest, htokens, hcmd⟩), ?_, Or.inl⟩
        rintro word' ⟨first', rest', htokens', -⟩
        rw [htokens] at htokens'
        exact (List.cons.inj (List.cons.inj htokens').2).1

theorem handled_password {first : String} {args : List String} (htokens : splitTokens line = first :: args)
    (hcmd : Text.upper first = "PASSWORD") (hline : Unnamed line) :
    Handled config line slot s (password config slot (first :: args) s) := by
  unfold password
  cases args with
  | nil => exact Handled.of_print hline rfl
  | cons word rest =>
      rw [if_neg (by simp)]
      split
      · rename_i hright
        obtain ⟨husername, hpassword⟩ := hright
        refine ⟨?_, ?_, fun hne => absurd rfl hne⟩
        · intro other hother
          rw [sessions_setSession, if_neg hother]
        · rw [sessions_setSession, if_pos rfl]
          refine ⟨Or.inl rfl, fun word hword => absurd hword (hline word), fun _ => Or.inr ⟨?_, husername⟩⟩
          obtain rfl : word = config.password := hpassword
          exact ⟨first, rest, htokens, hcmd⟩
      · exact Handled.of_setSession hline (Or.inl rfl) id rfl

/-- Every line leaves the other slots alone and acts on the UPS only for an authenticated slot. -/
theorem handled_processCommand (config : NUTServerConfig) (env : Env) (slot : Slot) (line : String) (s : Server) :
    Handled config line slot s (processCommand config env slot line s) := by
  unfold processCommand
  split
  · rename_i htokens
    apply Handled.of_print ?_ rfl
    rintro word ⟨first, rest, htokens', -⟩
    rw [htokens] at htokens'
    exact absurd htokens' (by simp)
  · rename_i first args htokens
    dsimp only
    have hline : Text.upper first ≠ "USERNAME" → Unnamed line := by
      rintro hcmd word ⟨first', rest, htokens', hcmd'⟩
      rw [htokens] at htokens'
      rw [(List.cons.inj htokens').1] at hcmd
      exact hcmd hcmd'
    split
    · rename_i missing hmissing
      apply Handled.of_print
      · apply hline
        intro hcmd
        rw [hcmd, if_neg (by decide)] at hmissing
        exact absurd hmissing (by simp)
      · unfold refuseMissing
        split <;> rfl
    · have hother : ∀ cmd, Text.upper first = cmd → cmd ≠ "USERNAME" → Unnamed line := by
        intro cmd hcmd hne
        exact hline (by rw [hcmd]; exact hne)
      split
      · rename_i hcmd
        exact Handled.of_print (hother _ hcmd (by decide)) rfl
      split
      · rename_i hcmd
        exact Handled.of_print (hother _ hcmd (by decide)) rfl
      split
      · rename_i hcmd
        exact handled_username htokens hcmd
      rename_i hcmd
      split
      · rename_i hpassword
        exact handled_password htokens hpassword (hline hcmd)
      split
      · exact Handled.of_print (hline hcmd) rfl
      split
      · exact handled_logout (hline hcmd)
      split
      · exact Handled.of_print (hline hcmd) rfl
      split
      · exact handled_instCmd (hline hcmd) _
      split
      · exact handled_setCommand (hline hcmd) _
      split
      · exact Handled.of_print (hline hcmd) rfl
      · exact Handled.of_print (hline hcmd) rfl

/-! ### The invariant of a run -/

/-- The flags of every session are justified by the lines of its slot. -/
structure Justified (config : NUTServerConfig) (r : Recorded) : Prop where
  username : ∀ slot, (r.server.sessions slot).username = ""
    ∨ lastUsername (r.sent slot) = some (r.server.sessions slot).username
  authenticated : ∀ slot, (r.server.sessions slot).authenticated = true → Granted config (r.sent slot)

theorem lastUsername_snoc_of_named {lines : List String} {word : String} (h : Says line "USERNAME" word) :
    lastUsername (lines ++ [line]) = some word := by
  obtain ⟨first, rest, htokens, hcmd⟩ := h
  unfold lastUsername
  rw [List.filterMap_append]
  simp [htokens, hcmd]

theorem lastUsername_snoc_of_unnamed {lines : List String} (h : Unnamed line) :
    lastUsername (lines ++ [line]) = lastUsername lines := by
  unfold lastUsername
  rw [List.filterMap_append]
  have hnone : (match splitTokens line with
      | first :: word :: _ => if Text.upper first = "USERNAME" then some word else none
      | _ => none) = none := by
    split
    · rename_i first word rest htokens
      rw [if_neg]
      exact fun hcmd => h word ⟨first, rest, htokens, hcmd⟩
    · rfl
  simp [hnone]

theorem Granted.snoc {lines : List String} (h : Granted config lines) (line : String) :
    Granted config (lines ++ [line]) := by
  obtain ⟨before, granting, after, rfl, hpassword, husername⟩ := h
  exact ⟨before, granting, after ++ [line], by simp, hpassword, husername⟩

theorem justified_initial (config : NUTServerConfig) : Justified config Recorded.initial where
  username := fun _ => Or.inl rfl
  authenticated := fun _ h => absurd h (by simp [Recorded.initial, Server.initial, Session.closed])

theorem justified_openSession {r : Recorded} (h : Justified config r) (connected : Slot → Bool) (peerIp : String)
    (now : UInt32) : Justified config (step config r (.openSession connected peerIp now)) := by
  unfold step
  dsimp only
  rcases openSession_cases connected peerIp now r.server with ⟨opened, output, hopen⟩ | ⟨s', output, hopen, hsame, -⟩
  · rw [hopen]
    refine ⟨fun slot => ?_, fun slot hauth => ?_⟩
    · show ((r.server.setSession opened _).sessions slot).username = "" ∨ _
      rw [sessions_setSession]
      by_cases hslot : slot = opened
      · rw [if_pos hslot]
        exact Or.inl rfl
      · rw [if_neg hslot]
        show _ ∨ lastUsername (Function.update r.sent opened [] slot) = _
        rw [Function.update_of_ne hslot]
        exact h.username slot
    · show Granted config (Function.update r.sent opened [] slot)
      change ((r.server.setSession opened _).sessions slot).authenticated = true at hauth
      rw [sessions_setSession] at hauth
      by_cases hslot : slot = opened
      · rw [if_pos hslot] at hauth
        exact absurd hauth Bool.false_ne_true
      · rw [if_neg hslot] at hauth
        rw [Function.update_of_ne hslot]
        exact h.authenticated slot hauth
  · rw [hopen]
    refine ⟨fun slot => ?_, fun slot hauth => ?_⟩
    · show (s'.sessions slot).username = "" ∨ lastUsername (r.sent slot) = some (s'.sessions slot).username
      rw [hsame]
      exact h.username slot
    · change (s'.sessions slot).authenticated = true at hauth
      rw [hsame] at hauth
      exact h.authenticated slot hauth

theorem justified_closeSession {r : Recorded} (h : Justified config r) (closed : Slot) (reason : CloseReason) :
    Justified config (step config r (.closeSession closed reason)) := by
  simp only [step, closeSession]
  refine ⟨fun slot => ?_, fun slot hauth => ?_⟩
  · dsimp only
    rw [sessions_setSession]
    split
    · exact Or.inl rfl
    · exact h.username slot
  · dsimp only at hauth ⊢
    rw [sessions_setSession] at hauth
    split at hauth
    · exact absurd hauth (by decide)
    · exact h.authenticated slot hauth

theorem justified_processCommand (hname : config.username ≠ "") {r : Recorded} (h : Justified config r) (env : Env)
    (slot : Slot) (line : String) : Justified config (step config r (.processCommand env slot line)) := by
  have hhandled := handled_processCommand config env slot line r.server
  simp only [step]
  generalize processCommand config env slot line r.server = result at *
  refine ⟨fun other => ?_, fun other hauth => ?_⟩
  · dsimp only
    by_cases hother : other = slot
    · rw [hother, Function.update_self]
      by_cases hsaid : ∃ word, Says line "USERNAME" word
      · obtain ⟨word, hword⟩ := hsaid
        rw [hhandled.heard.named word hword]
        exact Or.inr (lastUsername_snoc_of_named hword)
      · have hunnamed : Unnamed line := fun word hword => hsaid ⟨word, hword⟩
        rw [lastUsername_snoc_of_unnamed hunnamed]
        rcases hhandled.heard.username with hsame | hempty | hword
        · rw [hsame]
          exact h.username slot
        · exact Or.inl hempty
        · exact absurd hword (hunnamed _)
    · rw [hhandled.others other hother, Function.update_of_ne hother]
      exact h.username other
  · dsimp only at hauth ⊢
    by_cases hother : other = slot
    · rw [hother] at hauth ⊢
      rw [Function.update_self]
      rcases hhandled.heard.authenticated hauth with hbefore | ⟨hpassword, husername⟩
      · exact (h.authenticated slot hbefore).snoc line
      · -- this line is the one that grants it
        refine ⟨r.sent slot, line, [], rfl, hpassword, ?_⟩
        rcases h.username slot with hempty | hlast
        · rw [hempty] at husername
          exact absurd husername.symm hname
        · rw [hlast, husername]
    · rw [hhandled.others other hother] at hauth
      rw [Function.update_of_ne hother]
      exact h.authenticated other hauth

theorem justified_run (hname : config.username ≠ "") (history : List Event) :
    Justified config (run (step config) Recorded.initial history) := by
  refine run_history (P := fun _ r => Justified config r) (justified_initial config) ?_ history
  intro _ r event h
  cases event with
  | openSession connected peerIp now => exact justified_openSession h connected peerIp now
  | closeSession slot reason => exact justified_closeSession h slot reason
  | processCommand env slot line => exact justified_processCommand hname h env slot line

/-- A line acts on the UPS only for a slot that has sent the credentials since it was opened. -/
theorem calls_need_credentials (config : NUTServerConfig) (hname : config.username ≠ "")
    (hpassword : config.password ≠ "") (history : List Event) (env : Env) (slot : Slot) (line : String)
    (hcalls : (processCommand config env slot line
      (run (step config) Recorded.initial history).server).2.calls ≠ []) :
    Granted config ((run (step config) Recorded.initial history).sent slot) := by
  apply (justified_run hname history).authenticated
  apply (handled_processCommand config env slot line _).permitted hcalls
  have hlength : ∀ text : String, text ≠ "" → 0 < text.toList.length := by
    intro text hne
    rw [List.length_pos_iff]
    exact fun hnil => hne (String.toList_eq_nil_iff.mp hnil)
  unfold authRequired
  simp [hlength config.username hname, hlength config.password hpassword]

/-! ### A client that cuts the load -/

def demoConfig : NUTServerConfig := ⟨"admin", "secret", "ups"⟩

def demoSource : UpsSource :=
  { isConnected := true
    isDataStale := false
    upsData := UPSData.empty
    upsStatusString := "OL"
    writableVariables := []
    supportedCommands := []
    executeCommand := fun _ _ => .ok
    setVariable := fun _ _ => .failed }

def demoEnv : Env := ⟨some demoSource, none, 0, [], "dev"⟩

/-- Another client authenticates on the same slot and leaves; the next one has to do it again. -/
def demoHistory : List Event :=
  [ .openSession (fun _ => true) "10.0.0.1" 0, .processCommand demoEnv 0 "USERNAME admin",
    .processCommand demoEnv 0 "PASSWORD secret", .closeSession 0 .peerClosed,
    .openSession (fun _ => true) "10.0.0.2" 5, .processCommand demoEnv 0 "USERNAME admin",
    .processCommand demoEnv 0 "PASSWORD wrong", .processCommand demoEnv 0 "PASSWORD secret" ]

theorem calls_need_credentials_load_off :
    (processCommand demoConfig demoEnv 0 "INSTCMD ups load.off"
        (run (step demoConfig) Recorded.initial demoHistory).server).2.calls
      = [.executeCommand "load.off" none]
    ∧ Granted demoConfig ((run (step demoConfig) Recorded.initial demoHistory).sent 0) := by
  have hcalls : (processCommand demoConfig demoEnv 0 "INSTCMD ups load.off"
      (run (step demoConfig) Recorded.initial demoHistory).server).2.calls
        = [.executeCommand "load.off" none] := by decide +kernel
  refine ⟨hcalls, calls_need_credentials demoConfig (by decide) (by decide) demoHistory demoEnv 0
    "INSTCMD ups load.off" ?_⟩
  rw [hcalls]
  simp

end EspNut.NUTServer
