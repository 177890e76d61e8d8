import EspNut.Server.Authentication

/-!
# Sessions do not interfere

What a slot is answered depends on its own session and on what the UPS source and the tracking table tell it. Two runs that give a slot the same lines, with the same answers and closings, since it was opened therefore leave it in the same state with the same replies.
-/

namespace EspNut.NUTServer

open Lib NutTable

/-- What a session knows about its client. -/
structure View where
  authenticated : Bool
  username : String
  usernameSet : Bool
  passwordSet : Bool
  tracking : Bool
  deriving DecidableEq

def Session.view (session : Session) : View :=
  ⟨session.authenticated, session.username, session.usernameSet, session.passwordSet, session.tracking⟩

/-! ### What a line asks for -/

/-- One answer that a line gets from the UPS source, from the custom variables, from the random source of ids or from the tracking table. -/
inductive Answer where
  | firmwareVersion (version : String)
  | present (source : Bool)
  | isConnected (connected : Bool)
  | isDataStale (stale : Bool)
  /-- the value of the variable that is asked for -/
  | value (value : Option String)
  /-- whether the variable that is named has a value at all -/
  | known (known : Bool)
  | variables (vars : List (String × String))
  | writable (entry : Option RWVariable)
  | override (custom : Option NutOverride)
  | commands (names : List String)
  | executeCommand (result : CommandResult)
  | setVariable (status : SetStatus)
  | newId (id : String)
  /-- the outcome under the id that is asked for -/
  | tracked (status : String)
  deriving DecidableEq

/-- With fresh data the line goes on to ask for more. -/
def askedFresh (env : Env) (more : List Answer) : List Answer :=
  .isDataStale (isStale env) :: if isStale env then [] else more

/-- The variables of a listing; there are none without a source. -/
def varsTold (env : Env) : List (String × String) := (env.ups.map fun ups => listedVars ups env.overrides).getD []

def rwTold (env : Env) : List (String × String) :=
  (env.ups.map fun ups => (listedRw ups env.overrides).map fun v => (v.name, ups.upsData.get v.name "")).getD []

def commandsTold (env : Env) : List String := (env.ups.map fun ups => ups.supportedCommands.map UPSCommandInfo.name).getD []

def valueTold (env : Env) (varName : String) : Option String :=
  env.ups.bind fun ups => resolveVar ups env.overrides (Text.lower varName)

def writableTold (env : Env) (varName : String) : Option RWVariable :=
  env.ups.bind fun ups => findWritable ups.writableVariables varName

/-- What ENUM and RANGE ask for with fresh data. -/
def enumTold (env : Env) (subcmd varName : String) : List Answer :=
  .known (valueTold env varName).isSome ::
    if (valueTold env varName).isSome = true ∧ subcmd = "ENUM" then [.writable (writableTold env varName)] else []

def askedList (config : NUTServerConfig) (env : Env) (tokens : List String) : List Answer :=
  let subcmd := Text.upper (tokens.getD 1 "")
  let varName := tokens.getD 3 ""
  if tokens.length < 3 ∨ isOwnUps config (tokens.getD 2 "") = false then []
  else if subcmd = "VAR" then askedFresh env [.variables (varsTold env)]
  else if subcmd = "RW" then askedFresh env [.variables (rwTold env)]
  else if subcmd = "CMD" then askedFresh env [.commands (commandsTold env)]
  else if (subcmd = "ENUM" ∨ subcmd = "RANGE") ∧ 4 ≤ tokens.length then
    askedFresh env (enumTold env subcmd varName)
  else []

def typeTold (env : Env) (varName : String) : List Answer :=
  .writable (writableTold env varName) ::
    if (writableTold env varName).isSome then [.override (NutOverrides.find env.overrides varName)] else []

def descTold (env : Env) (varName : String) : List Answer :=
  if (describe varName).isSome then [] else [.override (NutOverrides.find env.overrides varName)]

def trackingTold (env : Env) (tracking : Bool) (entries : List NutTracking.Entry) (tokens : List String) : List Answer :=
  if tokens.length ≠ 2 ∧ tracking = true then [.tracked (NutTracking.get entries (tokens.getD 2 "") env.now)] else []

def askedGet (config : NUTServerConfig) (env : Env) (tracking : Bool) (entries : List NutTracking.Entry)
    (tokens : List String) : List Answer :=
  let subcmd := Text.upper (tokens.getD 1 "")
  let varName := tokens.getD 3 ""
  if subcmd = "TRACKING" then trackingTold env tracking entries tokens
  else if tokens.length < 4 ∨ isOwnUps config (tokens.getD 2 "") = false then []
  else if subcmd = "VAR" then askedFresh env [.value (valueTold env varName)]
  else if subcmd = "TYPE" then typeTold env varName
  else if subcmd = "DESC" then descTold env varName
  else []

def askedSource (env : Env) (more : UpsSource → List Answer) : List Answer :=
  match env.ups with
  | none => [.present false]
  | some ups => .present true :: more ups

/-- The outcome of a call, and with tracking on the id it is kept under. -/
def outcomeTold (env : Env) (outcome : Answer) (kept : Bool) : List Answer :=
  outcome :: if kept = true then [.newId (NutTracking.newId env.random)] else []

def askedInstCmd (config : NUTServerConfig) (env : Env) (session : Session) (tokens : List String) : List Answer :=
  if (authRequired config = true ∧ session.authenticated = false) ∨ tokens.length < 3
      ∨ isOwnUps config (tokens.getD 1 "") = false then []
  else
    askedSource env fun ups =>
      let r := ups.executeCommand (tokens.getD 2 "") tokens[3]?
      outcomeTold env (.executeCommand r) (session.tracking && (instcmdTrackingStatus r).isSome)

/-- A SET VAR asks for the entry of the variable once it may be set, and for the outcome once the value is right. -/
def askedSet (env : Env) (ups : UpsSource) (tracking : Bool) (varName value : String) : List Answer :=
  let known := (resolveVar ups env.overrides (Text.lower varName)).isSome
  let override := NutOverrides.find env.overrides varName
  .known known ::
    if known = false then []
    else
      .override override ::
        if override.isSome then []
        else
          .writable (findWritable ups.writableVariables varName) ::
            match checkSetValue ups.writableVariables varName value with
            | (.ok, v) => outcomeTold env (.setVariable (ups.setVariable ((v.map RWVariable.name).getD "") value)) tracking
            | _ => []

def askedSetVar (config : NUTServerConfig) (env : Env) (session : Session) (upsName varName value : String) : List Answer :=
  if isOwnUps config upsName = false then []
  else
    askedSource env fun ups =>
      .isConnected ups.isConnected ::
        if ups.isConnected = false then []
        else
          .isDataStale ups.isDataStale ::
            if ups.isDataStale = true ∨ (authRequired config = true ∧ session.authenticated = false) then []
            else askedSet env ups session.tracking varName value

/-- The answers a line gets, one after the other as far as it asks: the later questions depend on the earlier answers. -/
def asked (config : NUTServerConfig) (env : Env) (session : Session) (entries : List NutTracking.Entry) (cmdLine : String) :
    List Answer :=
  match splitTokens cmdLine with
  | [] => []
  | cmdToken :: args =>
      let tokens := cmdToken :: args
      let cmd := Text.upper cmdToken
      if (cmd = "SET" ∨ cmd = "INSTCMD") ∧ (missingCredentials config session).isSome = true then []
      else if cmd = "VER" then [.firmwareVersion env.firmwareVersion]
      else if cmd = "LIST" then askedList config env tokens
      else if cmd = "INSTCMD" then askedInstCmd config env session tokens
      else if cmd = "SET" then
        if Text.upper (tokens.getD 1 "") = "VAR" ∧ 5 ≤ tokens.length then
          askedSetVar config env session (tokens.getD 2 "") (tokens.getD 3 "") (tokens.getD 4 "")
        else []
      else if cmd = "GET" then askedGet config env session.tracking entries tokens
      else []

variable {config : NUTServerConfig} {env env' : Env} {slot : Slot} {s s' : Server}

/-- The same replies, and the same view of the slot afterwards. -/
structure SameResult (slot : Slot) (result result' : Server × Output) : Prop where
  view : (result.1.sessions slot).view = (result'.1.sessions slot).view
  replies : result.2.replies = result'.2.replies

/-- Two servers that a slot cannot tell apart by its own session. -/
abbrev Alike (slot : Slot) (s s' : Server) : Prop := (s.sessions slot).view = (s'.sessions slot).view

theorem fields_of_alike (h : Alike slot s s') :
    (s.sessions slot).authenticated = (s'.sessions slot).authenticated
      ∧ (s.sessions slot).username = (s'.sessions slot).username
      ∧ (s.sessions slot).usernameSet = (s'.sessions slot).usernameSet
      ∧ (s.sessions slot).passwordSet = (s'.sessions slot).passwordSet
      ∧ (s.sessions slot).tracking = (s'.sessions slot).tracking := by
  unfold Alike Session.view at h
  simpa only [View.mk.injEq] using h

theorem SameResult.of_same (h : Alike slot s s') {output output' : Output}
    (hreplies : output.replies = output'.replies) : SameResult slot (s, output) (s', output') :=
  ⟨h, hreplies⟩

theorem SameResult.of_setSession {session session' : Session} {output output' : Output}
    (hview : session.view = session'.view) (hreplies : output.replies = output'.replies) :
    SameResult slot (s.setSession slot session, output) (s'.setSession slot session', output') where
  view := by
    rw [sessions_setSession, sessions_setSession, if_pos rfl, if_pos rfl]
    exact hview
  replies := hreplies

theorem SameResult.ite {c : Prop} [Decidable c] {yes yes' no no' : Server × Output}
    (hyes : c → SameResult slot yes yes') (hno : ¬ c → SameResult slot no no') :
    SameResult slot (if c then yes else no) (if c then yes' else no') := by
  split
  · exact hyes ‹_›
  · exact hno ‹_›

/-! ### Listings and queries -/

/-- Data that is stale is stale for both, and with fresh data the other answers are the same. -/
theorem fresh_of_asked {more more' : List Answer} (h : askedFresh env more = askedFresh env' more') :
    isStale env = isStale env' ∧ (isStale env = false → more = more') := by
  obtain ⟨hstale, hmore⟩ := List.cons.inj h
  obtain hstale := Answer.isDataStale.inj hstale
  refine ⟨hstale, fun hfresh => ?_⟩
  rwa [if_neg (by simp [hfresh]), if_neg (by simp [← hstale, hfresh])] at hmore

section Fresh

variable {tokens : List String} {n : Nat} {more more' : List Answer} {lines lines' : List String}

theorem fresh_congr (h : ¬ tokens.length < n → isOwnUps config (tokens.getD 2 "") ≠ false → askedFresh env more = askedFresh env' more')
    (hlines : more = more' → lines = lines') :
    (if tokens.length < n then ["ERR INVALID-ARGUMENT\n"]
      else if isOwnUps config (tokens.getD 2 "") = false then ["ERR UNKNOWN-UPS\n"]
      else if isStale env = true then ["ERR DATA-STALE\n"] else lines)
    = if tokens.length < n then ["ERR INVALID-ARGUMENT\n"]
      else if isOwnUps config (tokens.getD 2 "") = false then ["ERR UNKNOWN-UPS\n"]
      else if isStale env' = true then ["ERR DATA-STALE\n"] else lines' := by
  split
  · rfl
  rename_i hlong
  split
  · rfl
  rename_i hown
  obtain ⟨hstale, hmore⟩ := fresh_of_asked (h hlong hown)
  rw [← hstale]
  split
  · rfl
  · rename_i hfresh
    exact hlines (hmore (Bool.not_eq_true _ ▸ hfresh))

end Fresh

section Listings

variable {tokens : List String} {subcmd : String}

theorem listVar_congr (h : ¬ tokens.length < 3 → isOwnUps config (tokens.getD 2 "") ≠ false →
      askedFresh env [.variables (varsTold env)] = askedFresh env' [.variables (varsTold env')]) :
    listVar config env tokens = listVar config env' tokens := by
  have hbody : ∀ e : Env, (match e.ups with
      | none => []
      | some ups => (listedVars ups e.overrides).map (varLine (tokens.getD 2 "")))
        = (varsTold e).map (varLine (tokens.getD 2 "")) := by
    rintro ⟨ups, overrides, now, random, version⟩
    cases ups <;> rfl
  refine fresh_congr h fun hmore => congrArg (fun lines => ["BEGIN LIST VAR " ++ tokens.getD 2 "" ++ "\n"] ++ lines
    ++ ["END LIST VAR " ++ tokens.getD 2 "" ++ "\n"]) ?_
  have hsame := Answer.variables.inj (List.cons.inj hmore).1
  exact (hbody env).trans ((congrArg _ hsame).trans (hbody env').symm)

theorem listRw_congr (h : ¬ tokens.length < 3 → isOwnUps config (tokens.getD 2 "") ≠ false →
      askedFresh env [.variables (rwTold env)] = askedFresh env' [.variables (rwTold env')]) :
    listRw config env tokens = listRw config env' tokens := by
  have hbody : ∀ e : Env, (match e.ups with
      | none => []
      | some ups => (listedRw ups e.overrides).map (rwLine ups (tokens.getD 2 "")))
        = (rwTold e).map fun v => "RW " ++ tokens.getD 2 "" ++ " " ++ v.1 ++ " \"" ++ encodeValue v.2 ++ "\"\n" := by
    rintro ⟨ups, overrides, now, random, version⟩
    cases ups with
    | none => rfl
    | some ups =>
        show _ = ((listedRw ups overrides).map fun v => (v.name, ups.upsData.get v.name "")).map _
        rw [List.map_map]
        rfl
  refine fresh_congr h fun hmore => congrArg (fun lines => ["BEGIN LIST RW " ++ tokens.getD 2 "" ++ "\n"] ++ lines
    ++ ["END LIST RW " ++ tokens.getD 2 "" ++ "\n"]) ?_
  have hsame := Answer.variables.inj (List.cons.inj hmore).1
  exact (hbody env).trans ((congrArg _ hsame).trans (hbody env').symm)

theorem listCmdOrClient_congr (h : ¬ tokens.length < 3 → isOwnUps config (tokens.getD 2 "") ≠ false → subcmd = "CMD" →
      askedFresh env [.commands (commandsTold env)] = askedFresh env' [.commands (commandsTold env')]) :
    listCmdOrClient config env subcmd tokens = listCmdOrClient config env' subcmd tokens := by
  have hbody : ∀ e : Env, (match e.ups with
      | none => []
      | some ups => ups.supportedCommands.map fun c => "CMD " ++ tokens.getD 2 "" ++ " " ++ c.name ++ "\n")
        = (commandsTold e).map fun name => "CMD " ++ tokens.getD 2 "" ++ " " ++ name ++ "\n" := by
    rintro ⟨ups, overrides, now, random, version⟩
    cases ups with
    | none => rfl
    | some ups =>
        show _ = (ups.supportedCommands.map UPSCommandInfo.name).map _
        rw [List.map_map]
        rfl
  by_cases hcmd : subcmd = "CMD"
  · subst hcmd
    refine fresh_congr (fun hlong hown => h hlong hown rfl) fun hmore =>
      congrArg (fun lines => ["BEGIN LIST CMD " ++ tokens.getD 2 "" ++ "\n"] ++ lines
        ++ ["END LIST CMD " ++ tokens.getD 2 "" ++ "\n"]) ?_
    have hsame := Answer.commands.inj (List.cons.inj hmore).1
    exact (hbody env).trans ((congrArg _ hsame).trans (hbody env').symm)
  · unfold listCmdOrClient
    simp only [hcmd, decide_false, Bool.false_and, Bool.false_eq_true, ↓reduceIte]

/-- What ENUM and RANGE print with fresh data. -/
def enumLines (subcmd upsName varName : String) (known : Bool) (entry : Option RWVariable) : List String :=
  if known = false then ["ERR VAR-NOT-SUPPORTED\n"]
  else
    ["BEGIN LIST " ++ subcmd ++ " " ++ upsName ++ " " ++ varName ++ "\n"]
      ++ (if subcmd = "ENUM" then
          ((entry.map RWVariable.enums).getD []).map fun e =>
            "ENUM " ++ upsName ++ " " ++ varName ++ " \"" ++ encodeValue e ++ "\"\n"
        else [])
      ++ ["END LIST " ++ subcmd ++ " " ++ upsName ++ " " ++ varName ++ "\n"]

theorem listEnumOrRange_congr (h : ¬ tokens.length < 4 → isOwnUps config (tokens.getD 2 "") ≠ false →
      askedFresh env (enumTold env subcmd (tokens.getD 3 "")) = askedFresh env' (enumTold env' subcmd (tokens.getD 3 ""))) :
    listEnumOrRange config env subcmd tokens = listEnumOrRange config env' subcmd tokens := by
  have hbody : ∀ e : Env, (if tokens.length < 4 then ["ERR INVALID-ARGUMENT\n"]
      else if isOwnUps config (tokens.getD 2 "") = false then ["ERR UNKNOWN-UPS\n"]
      else if isStale e = true then ["ERR DATA-STALE\n"]
      else enumLines subcmd (tokens.getD 2 "") (tokens.getD 3 "") (valueTold e (tokens.getD 3 "")).isSome
        (writableTold e (tokens.getD 3 ""))) = listEnumOrRange config e subcmd tokens := by
    rintro ⟨ups, overrides, now, random, version⟩
    unfold listEnumOrRange
    cases ups with
    | none => rfl
    | some ups =>
        show (if _ then _ else if _ then _ else if _ then _ else enumLines _ _ _
          (resolveVar ups overrides (Text.lower (tokens.getD 3 ""))).isSome (findWritable ups.writableVariables (tokens.getD 3 ""))) = _
        dsimp only
        unfold enumLines
        cases resolveVar ups overrides (Text.lower (tokens.getD 3 "")) with
        | none => rfl
        | some value => cases findWritable ups.writableVariables (tokens.getD 3 "") <;> rfl
  rw [← hbody env, ← hbody env']
  refine fresh_congr h fun hmore => ?_
  obtain ⟨hknown, hentry⟩ := List.cons.inj hmore
  have hknown := Answer.known.inj hknown
  rw [← hknown] at hentry ⊢
  unfold enumLines
  split
  · rfl
  rename_i hsome
  split
  · rename_i henum
    rw [if_pos ⟨Bool.not_eq_false _ ▸ hsome, henum⟩, if_pos ⟨Bool.not_eq_false _ ▸ hsome, henum⟩] at hentry
    rw [Answer.writable.inj (List.cons.inj hentry).1]
  · rfl

theorem listCommand_congr (h : askedList config env tokens = askedList config env' tokens) :
    listCommand config env tokens = listCommand config env' tokens := by
  unfold listCommand
  split
  · rfl
  dsimp only
  unfold askedList at h
  dsimp only at h
  generalize Text.upper (tokens.getD 1 "") = subcmd at h ⊢
  have hopen : ¬ tokens.length < 3 → isOwnUps config (tokens.getD 2 "") ≠ false →
      ¬ (tokens.length < 3 ∨ isOwnUps config (tokens.getD 2 "") = false) := fun hlong hown => not_or.mpr ⟨hlong, hown⟩
  split
  · rfl
  split
  · rename_i hsub
    refine listVar_congr fun hlong hown => ?_
    rwa [if_neg (hopen hlong hown), if_neg (hopen hlong hown), if_pos hsub, if_pos hsub] at h
  split
  · rename_i hvar hsub
    refine listRw_congr fun hlong hown => ?_
    rwa [if_neg (hopen hlong hown), if_neg (hopen hlong hown), if_neg hvar, if_neg hvar, if_pos hsub, if_pos hsub] at h
  split
  · rename_i hvar hrw _
    refine listCmdOrClient_congr fun hlong hown hsub => ?_
    rwa [if_neg (hopen hlong hown), if_neg (hopen hlong hown), if_neg hvar, if_neg hvar, if_neg hrw, if_neg hrw, if_pos hsub,
      if_pos hsub] at h
  split
  · rename_i hvar hrw hcmd hsub
    refine listEnumOrRange_congr fun hlong hown => ?_
    have hopen := hopen (by omega) hown
    have henum := And.intro hsub (Nat.not_lt.mp hlong)
    have hcmd := fun heq => hcmd (Or.inl heq)
    rwa [if_neg hopen, if_neg hopen, if_neg hvar, if_neg hvar, if_neg hrw, if_neg hrw, if_neg hcmd, if_neg hcmd, if_pos henum,
      if_pos henum] at h
  · rfl

end Listings

section Queries

variable {tokens : List String} {entries entries' : List NutTracking.Entry} {session session' : Session}

theorem getVar_congr (h : ¬ tokens.length < 4 → isOwnUps config (tokens.getD 2 "") ≠ false →
      askedFresh env [.value (valueTold env (tokens.getD 3 ""))] = askedFresh env' [.value (valueTold env' (tokens.getD 3 ""))]) :
    getVar config env tokens = getVar config env' tokens := by
  have hbody : ∀ e : Env, (if tokens.length < 4 then ["ERR INVALID-ARGUMENT\n"]
      else if isOwnUps config (tokens.getD 2 "") = false then ["ERR UNKNOWN-UPS\n"]
      else if isStale e = true then ["ERR DATA-STALE\n"]
      else (valueTold e (tokens.getD 3 "")).elim ["ERR VAR-NOT-SUPPORTED\n"] fun value =>
        [varLine (tokens.getD 2 "") (tokens.getD 3 "", value)]) = getVar config e tokens := by
    rintro ⟨ups, overrides, now, random, version⟩
    unfold getVar
    cases ups with
    | none => rfl
    | some ups =>
        unfold valueTold
        dsimp only [Option.bind_some]
        cases resolveVar ups overrides (Text.lower (tokens.getD 3 "")) <;> rfl
  rw [← hbody env, ← hbody env']
  refine fresh_congr h fun hmore => ?_
  rw [Answer.value.inj (List.cons.inj hmore).1]

theorem getType_congr {varName : String} (h : typeTold env varName = typeTold env' varName) (upsName : String) :
    getType env upsName varName = getType env' upsName varName := by
  have htold : ∀ e : Env, findWritable ((e.ups.map UpsSource.writableVariables).getD []) varName = writableTold e varName := by
    rintro ⟨ups, overrides, now, random, version⟩
    cases ups <;> rfl
  obtain ⟨hentry, hoverride⟩ := List.cons.inj h
  have hentry := Answer.writable.inj hentry
  unfold getType
  dsimp only
  rw [htold env, htold env', ← hentry]
  rw [← hentry] at hoverride
  cases hfound : writableTold env varName with
  | none => rfl
  | some v =>
      rw [hfound, Option.isSome_some, if_pos rfl, if_pos rfl] at hoverride
      rw [Answer.override.inj (List.cons.inj hoverride).1]

theorem getDescription_congr {varName : String} (h : descTold env varName = descTold env' varName) :
    getDescription env "DESC" varName = getDescription env' "DESC" varName := by
  unfold getDescription
  rw [if_neg (by decide), if_neg (by decide)]
  unfold descTold at h
  cases hdescribed : describe varName with
  | some text => rfl
  | none =>
      rw [hdescribed] at h
      dsimp only
      rw [Answer.override.inj (List.cons.inj h).1]

theorem getDescOrType_congr {subcmd : String} (htype : subcmd = "TYPE" → ¬ tokens.length < 4 →
      isOwnUps config (tokens.getD 2 "") ≠ false → typeTold env (tokens.getD 3 "") = typeTold env' (tokens.getD 3 ""))
    (hdesc : subcmd = "DESC" → ¬ tokens.length < 4 →
      isOwnUps config (tokens.getD 2 "") ≠ false → descTold env (tokens.getD 3 "") = descTold env' (tokens.getD 3 ""))
    (hsub : subcmd = "DESC" ∨ subcmd = "CMDDESC" ∨ subcmd = "TYPE") :
    getDescOrType config env subcmd tokens = getDescOrType config env' subcmd tokens := by
  unfold getDescOrType
  split
  · rfl
  rename_i hlong
  dsimp only
  split
  · rfl
  rename_i hown
  split
  · rename_i heq
    exact getType_congr (htype heq hlong hown) _
  rename_i hother
  rcases hsub with rfl | rfl | heq
  · rw [getDescription_congr (hdesc rfl hlong hown)]
  · rfl
  · exact absurd heq hother

theorem getTracking_congr (htracking : session.tracking = session'.tracking)
    (h : trackingTold env session.tracking entries tokens = trackingTold env' session'.tracking entries' tokens) :
    getTracking env session entries tokens = getTracking env' session' entries' tokens := by
  unfold getTracking
  unfold trackingTold at h
  rw [← htracking] at h ⊢
  split
  · rfl
  rename_i hid
  split
  · rename_i hon
    rw [if_pos ⟨hid, hon⟩, if_pos ⟨hid, hon⟩] at h
    rw [Answer.tracked.inj (List.cons.inj h).1]
  · rfl

theorem getCommand_congr (htracking : session.tracking = session'.tracking)
    (h : askedGet config env session.tracking entries tokens = askedGet config env' session'.tracking entries' tokens) :
    getCommand config env session entries tokens = getCommand config env' session' entries' tokens := by
  unfold getCommand
  split
  · rfl
  dsimp only
  unfold askedGet at h
  dsimp only at h
  generalize Text.upper (tokens.getD 1 "") = subcmd at h ⊢
  split
  · rename_i hsub
    rw [if_pos hsub, if_pos hsub] at h
    exact getTracking_congr htracking h
  rename_i hother
  rw [if_neg hother, if_neg hother] at h
  have hopen : ¬ tokens.length < 4 → isOwnUps config (tokens.getD 2 "") ≠ false →
      ¬ (tokens.length < 4 ∨ isOwnUps config (tokens.getD 2 "") = false) := fun hlong hown => not_or.mpr ⟨hlong, hown⟩
  split
  · rename_i hsub
    refine getVar_congr fun hlong hown => ?_
    rwa [if_neg (hopen hlong hown), if_neg (hopen hlong hown), if_pos hsub, if_pos hsub] at h
  rename_i hvar
  split
  · rename_i hsub
    refine getDescOrType_congr (fun htype hlong hown => ?_) (fun hdesc hlong hown => ?_) hsub
    · rwa [if_neg (hopen hlong hown), if_neg (hopen hlong hown), if_neg hvar, if_neg hvar, if_pos htype, if_pos htype] at h
    · have htype : subcmd ≠ "TYPE" := by
        rw [hdesc]
        decide
      rwa [if_neg (hopen hlong hown), if_neg (hopen hlong hown), if_neg hvar, if_neg hvar, if_neg htype, if_neg htype,
        if_pos hdesc, if_pos hdesc] at h
  · rfl

end Queries

/-! ### Commands -/

/-- Both have a source that is asked on, or neither has one. -/
theorem source_of_asked {more more' : UpsSource → List Answer} (h : askedSource env more = askedSource env' more') :
    (env.ups = none ∧ env'.ups = none) ∨ ∃ ups ups', env.ups = some ups ∧ env'.ups = some ups' ∧ more ups = more' ups' := by
  unfold askedSource at h
  cases hups : env.ups with
  | none =>
      cases hups' : env'.ups with
      | none => exact Or.inl ⟨rfl, rfl⟩
      | some ups' =>
          rw [hups, hups'] at h
          exact absurd (Answer.present.inj (List.cons.inj h).1) Bool.false_ne_true
  | some ups =>
      cases hups' : env'.ups with
      | none =>
          rw [hups, hups'] at h
          exact absurd (Answer.present.inj (List.cons.inj h).1).symm Bool.false_ne_true
      | some ups' =>
          rw [hups, hups'] at h
          exact Or.inr ⟨ups, ups', rfl, rfl, (List.cons.inj h).2⟩

theorem outcome_of_told {outcome outcome' : Answer} {kept kept' : Bool}
    (h : outcomeTold env outcome kept = outcomeTold env' outcome' kept') :
    outcome = outcome' ∧ (kept = true → NutTracking.newId env.random = NutTracking.newId env'.random) := by
  obtain ⟨houtcome, hid⟩ := List.cons.inj h
  refine ⟨houtcome, ?_⟩
  rintro rfl
  rw [if_pos rfl] at hid
  split at hid
  · exact Answer.newId.inj (List.cons.inj hid).1
  · cases hid

theorem sameResult_replyTracking (h : Alike slot s s') (hid : NutTracking.newId env.random = NutTracking.newId env'.random)
    (st : SetStatus) (calls calls' : List Call) :
    SameResult slot ((replyTracking env st s).1, ⟨(replyTracking env st s).2, [], calls⟩)
      ((replyTracking env' st s').1, ⟨(replyTracking env' st s').2, [], calls'⟩) where
  view := h
  replies := by
    unfold replyTracking
    rw [hid]

theorem sameResult_instCmd (h : Alike slot s s') {tokens : List String}
    (hasked : askedInstCmd config env (s.sessions slot) tokens = askedInstCmd config env' (s'.sessions slot) tokens) :
    SameResult slot (instCmd config env slot tokens s) (instCmd config env' slot tokens s') := by
  obtain ⟨hauth, -, -, -, htracking⟩ := fields_of_alike h
  unfold instCmd
  unfold askedInstCmd at hasked
  rw [← hauth, ← htracking] at hasked ⊢
  split
  · exact SameResult.of_same h rfl
  rename_i hallowed
  split
  · exact SameResult.of_same h rfl
  rename_i hlong
  split
  · exact SameResult.of_same h rfl
  rename_i hown
  have hopen := not_or.mpr ⟨hallowed, not_or.mpr ⟨hlong, hown⟩⟩
  rw [if_neg hopen, if_neg hopen] at hasked
  obtain ⟨hnone, hnone'⟩ | ⟨ups, ups', hups, hups', htold⟩ := source_of_asked hasked
  · rw [hnone, hnone']
    exact SameResult.of_same h rfl
  · rw [hups, hups']
    obtain ⟨hresult, hid⟩ := outcome_of_told htold
    dsimp only
    rw [← Answer.executeCommand.inj hresult]
    generalize ups.executeCommand (tokens.getD 2 "") tokens[3]? = r at hid ⊢
    split
    · rename_i st hkept
      split at hkept
      · rename_i hon
        exact sameResult_replyTracking h (hid (by rw [hon, hkept]; rfl)) st _ _
      · cases hkept
    · exact SameResult.of_same h rfl

theorem checkSetValue_congr {rw rw' : List RWVariable} {name : String} (h : findWritable rw name = findWritable rw' name)
    (value : String) : checkSetValue rw name value = checkSetValue rw' name value := by
  unfold findWritable at h
  unfold checkSetValue
  rw [h]

theorem sameResult_answerSet (h : Alike slot s s') {ups ups' : UpsSource} {varName value : String}
    (hasked : askedSet env ups (s.sessions slot).tracking varName value
      = askedSet env' ups' (s'.sessions slot).tracking varName value) :
    SameResult slot (answerSet env ups slot varName value s) (answerSet env' ups' slot varName value s') := by
  obtain ⟨-, -, -, -, htracking⟩ := fields_of_alike h
  obtain ⟨hknown, hasked⟩ := List.cons.inj hasked
  have hknown := Answer.known.inj hknown
  have hnone : (resolveVar ups' env'.overrides (Text.lower varName)).isNone
      = (resolveVar ups env.overrides (Text.lower varName)).isNone := by
    rw [← Option.not_isSome, ← Option.not_isSome, hknown]
  unfold answerSet
  dsimp only
  rw [hnone]
  split
  · exact SameResult.of_same h rfl
  rename_i hsome
  have hsome : ¬ (resolveVar ups env.overrides (Text.lower varName)).isSome = false := by simpa using hsome
  rw [← hknown, if_neg hsome, if_neg hsome] at hasked
  obtain ⟨hoverride, hasked⟩ := List.cons.inj hasked
  have hoverride := Answer.override.inj hoverride
  rw [← hoverride] at hasked ⊢
  split
  · exact SameResult.of_same h rfl
  rename_i hfree
  rw [if_neg hfree, if_neg hfree] at hasked
  obtain ⟨hentry, hasked⟩ := List.cons.inj hasked
  have hcheck := checkSetValue_congr (Answer.writable.inj hentry) value
  rw [← hcheck, ← htracking] at hasked ⊢
  generalize checkSetValue ups.writableVariables varName value = checked at hasked ⊢
  obtain ⟨check, entry⟩ := checked
  cases check with
  | notWritable => exact SameResult.of_same h rfl
  | tooLong => exact SameResult.of_same h rfl
  | invalidValue => exact SameResult.of_same h rfl
  | invalidAux => exact SameResult.of_same h rfl
  | ok =>
      obtain ⟨hstatus, hid⟩ := outcome_of_told hasked
      have hstatus := Answer.setVariable.inj hstatus
      dsimp only
      rw [← hstatus]
      split
      · rename_i hon
        exact sameResult_replyTracking h (hid hon) _ _ _
      · split
        · exact SameResult.of_same h rfl
        · exact SameResult.of_same h rfl

theorem sameResult_setVar (h : Alike slot s s') {upsName varName value : String}
    (hasked : askedSetVar config env (s.sessions slot) upsName varName value
      = askedSetVar config env' (s'.sessions slot) upsName varName value) :
    SameResult slot (setVar config env slot upsName varName value s) (setVar config env' slot upsName varName value s') := by
  obtain ⟨hauth, -⟩ := fields_of_alike h
  unfold askedSetVar at hasked
  unfold setVar
  dsimp only
  split
  · exact SameResult.of_same h rfl
  rename_i hown
  rw [if_neg hown, if_neg hown] at hasked
  obtain ⟨hnone, hnone'⟩ | ⟨ups, ups', hups, hups', htold⟩ := source_of_asked hasked
  · rw [hnone, hnone']
    exact SameResult.of_same h rfl
  rw [hups, hups']
  obtain ⟨hconnected, htold⟩ := List.cons.inj htold
  have hconnected := Answer.isConnected.inj hconnected
  dsimp only
  rw [← hconnected] at htold ⊢
  split
  · exact SameResult.of_same h rfl
  rename_i hup
  rw [if_neg hup, if_neg hup] at htold
  obtain ⟨hstale, htold⟩ := List.cons.inj htold
  have hstale := Answer.isDataStale.inj hstale
  rw [← hstale, ← hauth] at htold
  rw [← hstale, ← hauth]
  split
  · exact SameResult.of_same h rfl
  rename_i hfresh
  split
  · exact SameResult.of_same h rfl
  rename_i hallowed
  rw [if_neg (not_or.mpr ⟨hfresh, hallowed⟩), if_neg (not_or.mpr ⟨hfresh, hallowed⟩)] at htold
  exact sameResult_answerSet h htold

theorem view_with_tracking (h : Alike slot s s') (tracking : Bool) :
    ({ s.sessions slot with tracking := tracking } : Session).view
      = ({ s'.sessions slot with tracking := tracking } : Session).view := by
  obtain ⟨hauth, husername, husernameSet, hpasswordSet, -⟩ := fields_of_alike h
  simp only [Session.view, hauth, husername, husernameSet, hpasswordSet]

theorem sameResult_setCommand (h : Alike slot s s') {tokens : List String}
    (hasked : Text.upper (tokens.getD 1 "") = "VAR" ∧ 5 ≤ tokens.length →
      askedSetVar config env (s.sessions slot) (tokens.getD 2 "") (tokens.getD 3 "") (tokens.getD 4 "")
        = askedSetVar config env' (s'.sessions slot) (tokens.getD 2 "") (tokens.getD 3 "") (tokens.getD 4 "")) :
    SameResult slot (setCommand config env slot tokens s) (setCommand config env' slot tokens s') := by
  unfold setCommand
  split
  · exact SameResult.of_same h rfl
  dsimp only
  split
  · rename_i hvar
    split
    · exact SameResult.of_same h rfl
    · rename_i hlong
      exact sameResult_setVar h (hasked ⟨hvar, Nat.not_lt.mp hlong⟩)
  split
  · unfold setTracking
    split
    · exact SameResult.of_setSession (view_with_tracking h true) rfl
    split
    · exact SameResult.of_setSession (view_with_tracking h false) rfl
    · exact SameResult.of_same h rfl
  · exact SameResult.of_same h rfl

theorem sameResult_username (h : Alike slot s s') (tokens : List String) :
    SameResult slot (username slot tokens s) (username slot tokens s') := by
  obtain ⟨hauth, -, -, hpasswordSet, htracking⟩ := fields_of_alike h
  unfold username
  split
  · exact SameResult.of_same h rfl
  · apply SameResult.of_setSession ?_ rfl
    simp only [Session.view, hauth, hpasswordSet, htracking]

theorem sameResult_password (h : Alike slot s s') (tokens : List String) :
    SameResult slot (password config slot tokens s) (password config slot tokens s') := by
  obtain ⟨hauth, husername, husernameSet, -, htracking⟩ := fields_of_alike h
  unfold password
  rw [husername]
  split
  · exact SameResult.of_same h rfl
  split
  · apply SameResult.of_setSession ?_ rfl
    simp only [Session.view, husername, husernameSet, htracking]
  · apply SameResult.of_setSession ?_ rfl
    simp only [Session.view, hauth, husername, husernameSet, htracking]

/-- A line is answered from the view of its slot and the answers it asks for. -/
theorem sameResult_processCommand (config : NUTServerConfig) (h : Alike slot s s') {line : String}
    (hasked : asked config env (s.sessions slot) s.tracking line = asked config env' (s'.sessions slot) s'.tracking line) :
    SameResult slot (processCommand config env slot line s) (processCommand config env' slot line s') := by
  obtain ⟨hauth, husername, husernameSet, hpasswordSet, htracking⟩ := fields_of_alike h
  have hmissing : missingCredentials config (s.sessions slot) = missingCredentials config (s'.sessions slot) := by
    simp only [missingCredentials, husernameSet, hpasswordSet]
  have hlogin : ∀ tokens, login config (s.sessions slot) tokens = login config (s'.sessions slot) tokens := by
    intro tokens
    simp only [login, hauth]
  unfold processCommand
  unfold asked at hasked
  split
  · exact SameResult.of_same h rfl
  rename_i cmdToken args htokens
  rw [htokens] at hasked
  dsimp only at hasked ⊢
  rw [hmissing] at hasked ⊢
  generalize Text.upper cmdToken = cmd at hasked ⊢
  split
  · apply SameResult.of_same h
    unfold refuseMissing
    split <;> rfl
  rename_i hsent
  have hsent : ¬ ((cmd = "SET" ∨ cmd = "INSTCMD") ∧ (missingCredentials config (s'.sessions slot)).isSome = true) := by
    rintro ⟨hcmd, hsome⟩
    rw [if_pos (Or.inr hcmd)] at hsent
    rw [hsent] at hsome
    cases hsome
  rw [if_neg hsent, if_neg hsent] at hasked
  refine SameResult.ite (fun hcmd => ?_) fun hver => ?_
  · rw [if_pos hcmd, if_pos hcmd] at hasked
    exact SameResult.of_same h (by rw [Answer.firmwareVersion.inj (List.cons.inj hasked).1])
  rw [if_neg hver, if_neg hver] at hasked
  refine SameResult.ite (fun _ => SameResult.of_same h rfl) fun _ => ?_
  refine SameResult.ite (fun _ => sameResult_username h _) fun _ => ?_
  refine SameResult.ite (fun _ => sameResult_password h _) fun _ => ?_
  refine SameResult.ite (fun _ => SameResult.of_same h (hlogin _)) fun _ => ?_
  refine SameResult.ite (fun _ => SameResult.of_setSession rfl rfl) fun _ => ?_
  refine SameResult.ite (fun hcmd => ?_) fun hlist => ?_
  · rw [if_pos hcmd, if_pos hcmd] at hasked
    exact SameResult.of_same h (listCommand_congr hasked)
  rw [if_neg hlist, if_neg hlist] at hasked
  refine SameResult.ite (fun hcmd => ?_) fun hinst => ?_
  · rw [if_pos hcmd, if_pos hcmd] at hasked
    exact sameResult_instCmd h hasked
  rw [if_neg hinst, if_neg hinst] at hasked
  refine SameResult.ite (fun hcmd => ?_) fun hset => ?_
  · rw [if_pos hcmd, if_pos hcmd] at hasked
    refine sameResult_setCommand h fun hvar => ?_
    rwa [if_pos hvar, if_pos hvar] at hasked
  rw [if_neg hset, if_neg hset] at hasked
  refine SameResult.ite (fun hcmd => ?_) fun _ => SameResult.of_same h rfl
  rw [if_pos hcmd, if_pos hcmd] at hasked
  exact SameResult.of_same h (getCommand_congr htracking hasked)

/-! ### Two runs -/

/-- What a slot is told since it was opened: its lines with the answers they asked for, and its closings. -/
inductive Told where
  | line (answers : List Answer) (cmdLine : String)
  | close
  deriving DecidableEq

/-- The server, with what each slot was told since its last `openSession` and the replies it received. -/
structure Observed where
  server : Server
  told : Slot → List Told
  replies : Slot → List (List String)

def Observed.initial : Observed := ⟨Server.initial, fun _ => [], fun _ => []⟩

def observe (config : NUTServerConfig) (o : Observed) : Event → Observed
  | .openSession connected peerIp now =>
      let (opened, server, _) := openSession connected peerIp now o.server
      match opened with
      | some slot => ⟨server, Function.update o.told slot [], Function.update o.replies slot []⟩
      | none => ⟨server, o.told, o.replies⟩
  | .closeSession slot reason =>
      ⟨(closeSession slot reason o.server).1, Function.update o.told slot (o.told slot ++ [.close]), o.replies⟩
  | .processCommand env slot cmdLine =>
      let (server, output) := processCommand config env slot cmdLine o.server
      let answers := asked config env (o.server.sessions slot) o.server.tracking cmdLine
      ⟨server, Function.update o.told slot (o.told slot ++ [.line answers cmdLine]),
        Function.update o.replies slot (o.replies slot ++ [output.replies])⟩

/-- The views and replies a slot can have after what it was told. -/
inductive Replays (config : NUTServerConfig) (slot : Slot) : List Told → View → List (List String) → Prop
  | opened : Replays config slot [] Session.closed.view []
  | line {told : List Told} {replies : List (List String)} {env : Env} {s : Server} (cmdLine : String)
      (before : Replays config slot told (s.sessions slot).view replies) :
      Replays config slot (told ++ [.line (asked config env (s.sessions slot) s.tracking cmdLine) cmdLine])
        ((processCommand config env slot cmdLine s).1.sessions slot).view
        (replies ++ [(processCommand config env slot cmdLine s).2.replies])
  | close {told : List Told} {view : View} {replies : List (List String)}
      (before : Replays config slot told view replies) :
      Replays config slot (told ++ [.close]) Session.closed.view replies

/-- What a slot was told decides its view and its replies. -/
theorem Replays.unique {told : List Told} {view : View} {replies : List (List String)}
    (h : Replays config slot told view replies) {view' : View} {replies' : List (List String)}
    (h' : Replays config slot told view' replies') : view = view' ∧ replies = replies' := by
  induction h generalizing view' replies' with
  | opened =>
      generalize hnil : ([] : List Told) = told at h'
      cases h' with
      | opened => exact ⟨rfl, rfl⟩
      | line cmdLine before => exact absurd hnil (by simp)
      | close before => exact absurd hnil (by simp)
  | @line told replies env s cmdLine before ih =>
      generalize hsnoc : told ++ [Told.line (asked config env (s.sessions slot) s.tracking cmdLine) cmdLine] = all at h'
      cases h' with
      | opened => exact absurd hsnoc (by simp)
      | @line told' replies' env' s' cmdLine' before' =>
          obtain ⟨rfl, hlast⟩ := List.append_inj' hsnoc rfl
          obtain ⟨hanswers, rfl⟩ := Told.line.inj (List.cons.inj hlast).1
          obtain ⟨hview, rfl⟩ := ih before'
          have hsame := sameResult_processCommand config hview hanswers
          exact ⟨hsame.view, by rw [hsame.replies]⟩
      | close before' =>
          obtain ⟨-, hlast⟩ := List.append_inj' hsnoc rfl
          exact absurd (List.cons.inj hlast).1 (by simp)
  | @close told view replies before ih =>
      generalize hsnoc : told ++ [Told.close] = all at h'
      cases h' with
      | opened => exact absurd hsnoc (by simp)
      | line cmdLine before' =>
          obtain ⟨-, hlast⟩ := List.append_inj' hsnoc rfl
          exact absurd (List.cons.inj hlast).1 (by simp)
      | close before' =>
          obtain ⟨rfl, -⟩ := List.append_inj' hsnoc rfl
          exact ⟨rfl, (ih before').2⟩

theorem replays_step {o : Observed} (config : NUTServerConfig)
    (h : ∀ slot, Replays config slot (o.told slot) (o.server.sessions slot).view (o.replies slot)) (event : Event)
    (slot : Slot) : Replays config slot ((observe config o event).told slot)
      ((observe config o event).server.sessions slot).view ((observe config o event).replies slot) := by
  cases event with
  | openSession connected peerIp now =>
      unfold observe
      dsimp only
      rcases openSession_cases connected peerIp now o.server with
        ⟨opened, output, hopen⟩ | ⟨s', output, hopen, hsame, -⟩
      · rw [hopen]
        dsimp only
        rw [sessions_setSession]
        by_cases hslot : slot = opened
        · rw [hslot, if_pos rfl, Function.update_self, Function.update_self]
          exact Replays.opened
        · rw [if_neg hslot, Function.update_of_ne hslot, Function.update_of_ne hslot]
          exact h slot
      · rw [hopen]
        dsimp only
        rw [hsame]
        exact h slot
  | closeSession closed reason =>
      unfold observe closeSession
      dsimp only
      rw [sessions_setSession]
      by_cases hslot : slot = closed
      · rw [hslot, if_pos rfl, Function.update_self]
        exact Replays.close (h closed)
      · rw [if_neg hslot, Function.update_of_ne hslot]
        exact h slot
  | processCommand env speaking cmdLine =>
      unfold observe
      dsimp only
      by_cases hslot : slot = speaking
      · rw [hslot, Function.update_self, Function.update_self]
        exact Replays.line cmdLine (h speaking)
      · rw [Function.update_of_ne hslot, Function.update_of_ne hslot,
          (handled_processCommand config env speaking cmdLine o.server).others slot hslot]
        exact h slot

theorem replays_run (config : NUTServerConfig) (history : List Event) (slot : Slot) :
    Replays config slot ((run (observe config) Observed.initial history).told slot)
      ((run (observe config) Observed.initial history).server.sessions slot).view
      ((run (observe config) Observed.initial history).replies slot) := by
  have hall : ∀ slot, Replays config slot ((run (observe config) Observed.initial history).told slot)
      ((run (observe config) Observed.initial history).server.sessions slot).view
      ((run (observe config) Observed.initial history).replies slot) := by
    refine run_history (P := fun _ (o : Observed) => ∀ slot, Replays config slot (o.told slot) (o.server.sessions slot).view
      (o.replies slot)) (fun _ => Replays.opened) ?_ history
    intro _ o event h slot
    exact replays_step config h event slot
  exact hall slot

/-- Two runs that tell a slot the same leave it in the same state with the same replies. -/
theorem sessions_do_not_interfere (config : NUTServerConfig) (history history' : List Event) (slot : Slot)
    (h : (run (observe config) Observed.initial history).told slot
      = (run (observe config) Observed.initial history').told slot) :
    ((run (observe config) Observed.initial history).server.sessions slot).view
        = ((run (observe config) Observed.initial history').server.sessions slot).view
      ∧ (run (observe config) Observed.initial history).replies slot
        = (run (observe config) Observed.initial history').replies slot := by
  have hreplays := replays_run config history slot
  rw [h] at hreplays
  exact hreplays.unique (replays_run config history' slot)

/-! ### A slot beside another client -/

/-- A UPS that takes every command and every value of one variable. -/
def writableSource (low : String) : UpsSource :=
  { demoSource with
    upsData := (UPSData.empty.set "battery.charge" "90").set "battery.charge.low" low
    writableVariables := [⟨"battery.charge.low", 3, [], false⟩]
    setVariable := fun _ _ => .ok }

def writableEnv (low : String) (random : List UInt32) (now : UInt32) : Env := ⟨some (writableSource low), none, now, random, "dev"⟩

/-- A client of slot 0 looks at a variable, sends a tracked command and asks for its outcome. -/
def watching (low : String) : List Event :=
  [ .processCommand (writableEnv low [] 30) 0 "GET VAR ups battery.charge",
    .processCommand (writableEnv low [] 31) 0 "SET TRACKING ON",
    .processCommand (writableEnv low [1, 2, 3, 4] 32) 0 "INSTCMD ups beeper.mute",
    .processCommand (writableEnv low [] 33) 0 "GET TRACKING 00000001-0000-4002-8000-000300000004" ]

def besideConfig : NUTServerConfig := ⟨"", "", "ups"⟩

/-- The client of slot 0 alone. -/
def alone : List Event := .openSession (fun _ => true) "10.0.0.3" 9 :: watching "20"

/-- The same client behind one that failed on its slot, beside one that sets another variable and sends a tracked command. -/
def beside : List Event :=
  [ .openSession (fun _ => true) "10.0.0.1" 0, .openSession (fun _ => true) "10.0.0.2" 3,
    .processCommand (writableEnv "20" [] 5) 0 "USERNAME other", .closeSession 0 .inactivity,
    .openSession (fun _ => true) "10.0.0.3" 9,
    .processCommand (writableEnv "20" [] 20) 1 "SET TRACKING ON",
    .processCommand (writableEnv "20" [9, 9, 9, 9] 21) 1 "SET VAR ups battery.charge.low 35",
    .processCommand (writableEnv "35" [8, 8, 8, 8] 22) 1 "INSTCMD ups load.off" ] ++ watching "35"

/-- Another client's values and outcomes make no difference to the replies. -/
theorem sessions_do_not_interfere_beside :
    (run (observe besideConfig) Observed.initial beside).replies 0 = (run (observe besideConfig) Observed.initial alone).replies 0
      ∧ (run (observe besideConfig) Observed.initial alone).replies 0
        = [["VAR ups battery.charge \"90\"\n"], ["OK\n"],
          ["OK TRACKING 00000001-0000-4002-8000-000300000004\n"], ["SUCCESS\n"]] :=
  ⟨(sessions_do_not_interfere besideConfig beside alone 0 (by decide +kernel)).2, by decide +kernel⟩

/-- A client authenticates on slot 0. -/
def authenticating : List Event :=
  [ .openSession (fun _ => true) "10.0.0.3" 9, .processCommand demoEnv 0 "USERNAME admin",
    .processCommand demoEnv 0 "PASSWORD secret" ]

def Told.isLine : Told → Bool
  | .line _ _ => true
  | .close => false

theorem told_closeSession (o : Observed) (reason : CloseReason) :
    ((observe config o (.closeSession slot reason)).told slot).filter Told.isLine
      = (o.told slot).filter Told.isLine := by
  unfold observe
  dsimp only
  rw [Function.update_self, List.filter_append]
  exact List.append_nil _

/-- The lines of a slot alone do not decide its state: one of these runs has closed the slot since. -/
theorem closing_changes_session :
    ((run (observe demoConfig) Observed.initial (authenticating ++ [.closeSession 0 .peerClosed])).told 0).filter
        Told.isLine
      = ((run (observe demoConfig) Observed.initial authenticating).told 0).filter Told.isLine
    ∧ ((run (observe demoConfig) Observed.initial
          (authenticating ++ [.closeSession 0 .peerClosed])).server.sessions 0).authenticated
      ≠ ((run (observe demoConfig) Observed.initial authenticating).server.sessions 0).authenticated := by
  refine ⟨?_, by decide +kernel⟩
  rw [run_snoc]
  exact told_closeSession _ _

end EspNut.NUTServer
