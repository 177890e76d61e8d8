import EspNut.Web.WebApiJson

/-!
# Which variables can be written

`LIST RW`, `GET TYPE`, `SET VAR` and the Web UI decide on their own whether a variable can be written. All four come down to one entry of the catalog, the first with the name ignoring case, unless the variable has a custom value.
-/

namespace EspNut.NUTServer

open Lib NutTable WebApiJson

def writableEntry (ups : UpsSource) (overrides : Option (List NutOverride)) (name : String) : Option RWVariable :=
  if (NutOverrides.find overrides name).isSome then none else findWritable ups.writableVariables name

/-- The call of the source for a value: the name of the entry, when the checks accept the value. -/
def acceptedCall (ups : UpsSource) (overrides : Option (List NutOverride)) (name value : String) : List Call :=
  match writableEntry ups overrides name with
  | none => []
  | some v =>
      if (checkSetValue ups.writableVariables name value).1 = .ok then [.setVariable v.name value] else []

/-- A catalog of writable variables: names in lower case that the data has, each with room for a value. -/
structure Catalog (ups : UpsSource) : Prop where
  lowerCase : ∀ v ∈ ups.writableVariables, Text.lower v.name = v.name
  present : ∀ v ∈ ups.writableVariables, ups.upsData.hasKey v.name = true
  room : ∀ v ∈ ups.writableVariables, 1 ≤ v.aux

/-- No name of the catalog is one the server keeps for itself: a status key, a parameter of a custom variable, or the alias of a variable the UPS does not report. -/
structure Served (ups : UpsSource) : Prop where
  noStatusKey : ∀ v ∈ ups.writableVariables, isInternalStatusKey v.name = false
  noParameter : ∀ v ∈ ups.writableVariables, Text.startsWith v.name overrideParamPrefix = false
  aliased : ∀ v ∈ ups.writableVariables, ∀ source ∈ deviceAliasSource v.name, ups.upsData.hasKey source = true

variable {ups : UpsSource} {overrides : Option (List NutOverride)} {name value : String}

/-! ### Names ignoring case -/

theorem lower_of_findWritable {v : RWVariable} (h : findWritable ups.writableVariables name = some v) :
    v ∈ ups.writableVariables ∧ Text.lower v.name = Text.lower name := by
  unfold findWritable at h
  have hname : NutTable.equalsIgnoreCase v.name name = true := by simpa using List.find?_some h
  exact ⟨List.mem_of_find?_eq_some h, (NutTable.equalsIgnoreCase_iff _ _).mp hname⟩

/-! ### LIST RW -/

/-- The name, in any case, is in `LIST RW`. -/
def InListRw (ups : UpsSource) (overrides : Option (List NutOverride)) (name : String) : Prop :=
  ∃ v ∈ listedRw ups overrides, Text.lower v.name = Text.lower name

theorem inListRw_iff (hcatalog : Catalog ups) :
    InListRw ups overrides name ↔ (writableEntry ups overrides name).isSome = true := by
  unfold writableEntry
  constructor
  · rintro ⟨v, hv, hname⟩
    obtain ⟨hmem, hlisted⟩ := List.mem_filter.mp hv
    rw [Bool.and_eq_true, NutOverrides.find_congr hname] at hlisted
    rw [if_neg (by simpa using hlisted.2)]
    exact List.find?_isSome.mpr ⟨v, hmem, (NutTable.equalsIgnoreCase_iff _ _).mpr hname⟩
  · intro h
    split at h
    · exact absurd h (by simp)
    · rename_i hfree
      obtain ⟨v, hfind⟩ := Option.isSome_iff_exists.mp h
      obtain ⟨hmem, hname⟩ := lower_of_findWritable hfind
      refine ⟨v, List.mem_filter.mpr ⟨hmem, ?_⟩, hname⟩
      rw [Bool.and_eq_true, NutOverrides.find_congr hname]
      exact ⟨hcatalog.present v hmem, by simpa using hfree⟩

/-! ### GET TYPE -/

/-- `GET TYPE` reports the variable as writable. -/
def TypeIsRw (upsName name : String) (replies : List String) : Prop :=
  ∃ rest, replies = ["TYPE " ++ upsName ++ " " ++ name ++ " RW" ++ rest]

theorem not_typeIsRw (upsName name : String) :
    ¬ TypeIsRw upsName name ["TYPE " ++ upsName ++ " " ++ name ++ " STRING:64\n"] := by
  rintro ⟨rest, hreply⟩
  have hline := congrArg String.toList (List.cons.inj hreply).1
  simp only [String.toList_append, List.append_assoc, List.append_cancel_left_eq] at hline
  exact absurd (List.cons.inj (List.cons.inj hline).2).1 (by decide)

theorem typeIsRw_iff {env : Env} (henv : env.ups = some ups) (upsName : String) :
    TypeIsRw upsName name (getType env upsName name) ↔ (writableEntry ups env.overrides name).isSome = true := by
  unfold getType writableEntry
  rw [henv]
  dsimp only [Option.map_some, Option.getD_some]
  cases hfind : findWritable ups.writableVariables name with
  | none =>
      rw [ite_self]
      exact iff_of_false (not_typeIsRw upsName name) (by simp)
  | some v =>
      cases hover : NutOverrides.find env.overrides name with
      | some o => exact iff_of_false (not_typeIsRw upsName name) (by simp)
      | none =>
          refine iff_of_true ⟨(if v.enums = [] then "" else " ENUM") ++ (" STRING:" ++ (toString v.aux ++ "\n")), ?_⟩ rfl
          simp only [Option.isNone_none, if_true, String.append_assoc]

/-! ### SET VAR -/

def SetRefused (replies : List String) : Prop := replies = ["ERR READONLY\n"] ∨ replies = ["ERR VAR-NOT-SUPPORTED\n"]

instance (replies : List String) : Decidable (SetRefused replies) := inferInstanceAs (Decidable (_ ∨ _))

/-- A slot that may act on the UPS: its credentials were sent and are right, or none are asked for. -/
def Permitted (config : NUTServerConfig) (session : Session) : Prop :=
  missingCredentials config session = none ∧ (authRequired config = true → session.authenticated = true)

theorem isSome_resolveVar (hcatalog : Catalog ups) (hserved : Served ups) {v : RWVariable}
    (h : writableEntry ups overrides name = some v) : (resolveVar ups overrides (Text.lower name)).isSome = true := by
  unfold writableEntry at h
  split at h
  · exact absurd h (by simp)
  · obtain ⟨hmem, hname⟩ := lower_of_findWritable h
    rw [← hname, hcatalog.lowerCase v hmem]
    unfold resolveVar
    rw [if_neg (by simp [hserved.noStatusKey v hmem])]
    split
    · rfl
    split
    · rfl
    rw [if_neg (by simp [hserved.noParameter v hmem])]
    split
    · rfl
    split
    · rename_i source hsource
      split
      · rfl
      · exact hserved.aliased v hmem source hsource
    · exact hcatalog.present v hmem

variable (value) in
/-- What the checks of a value answer for a variable of the catalog. -/
theorem checkSetValue_of_find {v : RWVariable} (hroom : 1 ≤ v.aux) (h : findWritable ups.writableVariables name = some v) :
    checkSetValue ups.writableVariables name value = (.ok, some v)
      ∨ checkSetValue ups.writableVariables name value = (.tooLong, some v)
      ∨ checkSetValue ups.writableVariables name value = (.invalidValue, some v) := by
  have hfind : ups.writableVariables.find? (fun v => NutTable.equalsIgnoreCase v.name name) = some v := h
  unfold checkSetValue
  rw [hfind]
  dsimp only
  rw [if_neg (by omega)]
  split
  · exact Or.inr (Or.inl rfl)
  · split
    · exact Or.inl rfl
    · exact Or.inr (Or.inr rfl)

theorem checkSetValue_of_none (h : findWritable ups.writableVariables name = none) :
    checkSetValue ups.writableVariables name value = (.notWritable, none) := by
  have hfind : ups.writableVariables.find? (fun v => NutTable.equalsIgnoreCase v.name name) = none := h
  unfold checkSetValue
  rw [hfind]

/-- The UPS and the client of a request are right. -/
structure Ready (config : NUTServerConfig) (env : Env) (ups : UpsSource) (session : Session) : Prop where
  source : env.ups = some ups
  connected : ups.isConnected = true
  fresh : ups.isDataStale = false
  permitted : Permitted config session

variable {config : NUTServerConfig} {env : Env} {slot : Slot} {s : Server} {upsName : String}

theorem setVar_eq (h : Ready config env ups (s.sessions slot)) (hown : isOwnUps config upsName = true)
    (name value : String) : setVar config env slot upsName name value s = answerSet env ups slot name value s := by
  have hauth : ¬ (authRequired config = true ∧ (s.sessions slot).authenticated = false) := by
    rintro ⟨hrequired, hnot⟩
    rw [h.permitted.2 hrequired] at hnot
    exact absurd hnot (by decide)
  unfold setVar
  dsimp only
  rw [if_neg (by simp [hown]), h.source]
  dsimp only
  rw [if_neg (by simp [h.connected]), if_neg (by simp [h.fresh]), if_neg hauth]

variable (value slot s) in
theorem answerSet_of_none (h : writableEntry ups env.overrides name = none) :
    SetRefused (answerSet env ups slot name value s).2.replies ∧ (answerSet env ups slot name value s).2.calls = [] := by
  unfold answerSet
  dsimp only
  split
  · exact ⟨Or.inr rfl, rfl⟩
  split
  · exact ⟨Or.inl rfl, rfl⟩
  rename_i hfree
  unfold writableEntry at h
  rw [if_neg hfree] at h
  rw [checkSetValue_of_none h]
  exact ⟨Or.inl rfl, rfl⟩

theorem not_setRefused_tracking (id : String) : ¬ SetRefused ["OK TRACKING " ++ id ++ "\n"] := by
  rintro (hreply | hreply)
  all_goals
    have hline := congrArg String.toList (List.cons.inj hreply).1
    rw [String.append_assoc, String.toList_append] at hline
    exact absurd (List.cons.inj hline).1 (by decide)

variable (value slot s) in
/-- A variable with an entry is set under its name when the value passes the checks, and never refused for itself. -/
theorem answerSet_of_entry (hcatalog : Catalog ups) (hserved : Served ups) {v : RWVariable}
    (h : writableEntry ups env.overrides name = some v) :
    ¬ SetRefused (answerSet env ups slot name value s).2.replies
      ∧ (answerSet env ups slot name value s).2.calls
        = if (checkSetValue ups.writableVariables name value).1 = .ok then [.setVariable v.name value] else [] := by
  have hpresent := isSome_resolveVar hcatalog hserved h
  unfold writableEntry at h
  split at h
  · exact absurd h (by simp)
  rename_i hfree
  have hroom := hcatalog.room v (lower_of_findWritable h).1
  unfold answerSet
  dsimp only
  rw [if_neg (by simpa using Option.ne_none_iff_isSome.mpr hpresent), if_neg hfree]
  rcases checkSetValue_of_find value hroom h with hcheck | hcheck | hcheck
  · rw [hcheck]
    dsimp only
    split
    · exact ⟨not_setRefused_tracking _, rfl⟩
    · split
      · exact ⟨show ¬ SetRefused ["OK\n"] by decide, rfl⟩
      · exact ⟨show ¬ SetRefused ["ERR SET-FAILED\n"] by decide, rfl⟩
  · rw [hcheck]
    exact ⟨show ¬ SetRefused ["ERR " ++ "TOO-LONG" ++ "\n"] by decide, rfl⟩
  · rw [hcheck]
    exact ⟨show ¬ SetRefused ["ERR " ++ "INVALID-VALUE" ++ "\n"] by decide, rfl⟩

/-! ### The Web UI -/

def WebRefused (response : WebApiJson.Response) : Prop :=
  response = .error 400 "Variable not writable" ∨ response = .error 400 overriddenVariableError

instance (response : WebApiJson.Response) : Decidable (WebRefused response) := inferInstanceAs (Decidable (_ ∨ _))

/-- The body asks for the variable and the value. -/
def Requests (deserialize : String → Option Fields) (body name value : String) : Prop :=
  body.toList.length ≤ maxCommandBodyLength ∧ deserialize body = some ⟨some name, some value⟩

theorem parseVariableBody_of_requests {deserialize : String → Option Fields} {body : String} (hname : name ≠ "")
    (h : Requests deserialize body name value) :
    parseVariableBody deserialize true body = some (name, some value) := by
  unfold parseVariableBody
  rw [if_neg (by have := h.1; omega), h.2]
  dsimp only
  rw [if_neg hname]
  rfl

theorem checkHost_of_ready {session : Session} (h : Ready config env ups session) : checkHost env.ups = .ok ups := by
  rw [h.source]
  unfold checkHost
  dsimp only
  rw [if_neg (by simp [h.connected]), if_neg (by simp [h.fresh])]

theorem runUpsVariable_of_none {deserialize : String → Option Fields} {body : String} {session : Session}
    (hready : Ready config env ups session) (hname : name ≠ "") (hvalue : isPrintableAscii value = true)
    (hbody : Requests deserialize body name value) (after : UpsSource)
    (h : writableEntry ups env.overrides name = none) :
    WebRefused (runUpsVariable deserialize env.ups after env.overrides body).1
      ∧ (runUpsVariable deserialize env.ups after env.overrides body).2 = [] := by
  unfold runUpsVariable
  rw [parseVariableBody_of_requests hname hbody]
  dsimp only
  rw [if_neg (by simp [hvalue]), checkHost_of_ready hready]
  dsimp only
  split
  · exact ⟨Or.inr rfl, rfl⟩
  rename_i hfree
  unfold writableEntry at h
  rw [if_neg hfree] at h
  rw [checkSetValue_of_none h]
  exact ⟨Or.inl rfl, rfl⟩

theorem not_webRefused_setResponse (after : UpsSource) (canonical : String) (st : SetStatus) :
    ¬ WebRefused (setResponse after canonical st) := by
  cases st with
  | ok => rintro (h | h) <;> exact absurd h (by simp [setResponse, sendValue])
  | unknown => exact show ¬ WebRefused (.error 400 "Variable not supported") by decide
  | conversionFailed => exact show ¬ WebRefused (.error 400 "Invalid value") by decide
  | failed => exact show ¬ WebRefused (.error 500 "Rejected by the UPS") by decide
  | notConnected => exact show ¬ WebRefused (.error 503 "UPS not connected") by decide

theorem not_webRefused_tooLong (max : String) : ¬ WebRefused (.error 400 ("Value too long (max " ++ max ++ ")")) := by
  have hother (message : String) (hthird : message.toList[2]? ≠ some 'l') :
      Response.error 400 ("Value too long (max " ++ max ++ ")") ≠ .error 400 message := by
    intro h
    apply hthird
    rw [← (Response.error.inj h).2, String.append_assoc, String.toList_append]
    rfl
  rintro (h | h)
  · exact hother _ (by decide) h
  · exact hother _ (by decide) h

theorem runUpsVariable_of_entry {deserialize : String → Option Fields} {body : String} {session : Session}
    (hready : Ready config env ups session) (hname : name ≠ "") (hvalue : isPrintableAscii value = true)
    (hbody : Requests deserialize body name value) (after : UpsSource) (hcatalog : Catalog ups) {v : RWVariable}
    (h : writableEntry ups env.overrides name = some v) :
    ¬ WebRefused (runUpsVariable deserialize env.ups after env.overrides body).1
      ∧ (runUpsVariable deserialize env.ups after env.overrides body).2
        = if (checkSetValue ups.writableVariables name value).1 = .ok then [.setVariable v.name value] else [] := by
  unfold writableEntry at h
  split at h
  · exact absurd h (by simp)
  rename_i hfree
  have hroom := hcatalog.room v (lower_of_findWritable h).1
  unfold runUpsVariable
  rw [parseVariableBody_of_requests hname hbody]
  dsimp only
  rw [if_neg (by simp [hvalue]), checkHost_of_ready hready]
  dsimp only
  rw [if_neg hfree]
  rcases checkSetValue_of_find value hroom h with hcheck | hcheck | hcheck
  · rw [hcheck]
    exact ⟨not_webRefused_setResponse after _ _, rfl⟩
  · rw [hcheck]
    exact ⟨not_webRefused_tooLong _, rfl⟩
  · rw [hcheck]
    exact ⟨show ¬ WebRefused (.error 400 "Invalid value") by decide, rfl⟩

/-! ### The four answers -/

/-- The line names a command and what it is about, in any case, with the words behind them. -/
def Line (line cmd sub : String) (args : List String) : Prop :=
  ∃ first second, splitTokens line = first :: second :: args ∧ Text.upper first = cmd ∧ Text.upper second = sub

theorem processCommand_listRw {line : String} (hline : Line line "LIST" "RW" [upsName]) (henv : env.ups = some ups)
    (hfresh : ups.isDataStale = false) (hown : isOwnUps config upsName = true) (slot : Slot) (s : Server) :
    (processCommand config env slot line s).2.replies
      = ["BEGIN LIST RW " ++ upsName ++ "\n"] ++ (listedRw ups env.overrides).map (rwLine ups upsName)
        ++ ["END LIST RW " ++ upsName ++ "\n"] := by
  obtain ⟨first, second, htokens, hcmd, hsub⟩ := hline
  have hstale : isStale env = false := by
    unfold isStale
    rw [henv]
    exact hfresh
  unfold processCommand
  rw [htokens]
  dsimp only
  rw [hcmd, if_neg (by decide)]
  dsimp only
  rw [if_neg (by decide), if_neg (by decide), if_neg (by decide), if_neg (by decide), if_neg (by decide),
    if_neg (by decide), if_pos rfl]
  show listCommand config env [first, second, upsName] = _
  have hsecond : Text.upper ([first, second, upsName].getD 1 "") = "RW" := hsub
  unfold listCommand
  rw [if_neg (by simp)]
  dsimp only
  rw [hsecond, if_neg (by decide), if_neg (by decide), if_pos rfl]
  unfold listRw
  rw [if_neg (by simp)]
  dsimp only
  rw [if_neg (by simp [hown]), if_neg (by simp [hstale]), henv]
  rfl

theorem processCommand_getType {line : String} (hline : Line line "GET" "TYPE" [upsName, name])
    (hown : isOwnUps config upsName = true) (slot : Slot) (s : Server) :
    (processCommand config env slot line s).2.replies = getType env upsName name := by
  obtain ⟨first, second, htokens, hcmd, hsub⟩ := hline
  unfold processCommand
  rw [htokens]
  dsimp only
  rw [hcmd, if_neg (by decide)]
  dsimp only
  rw [if_neg (by decide), if_neg (by decide), if_neg (by decide), if_neg (by decide), if_neg (by decide),
    if_neg (by decide), if_neg (by decide), if_neg (by decide), if_neg (by decide), if_pos rfl]
  show getCommand config env _ s.tracking [first, second, upsName, name] = _
  have hsecond : Text.upper ([first, second, upsName, name].getD 1 "") = "TYPE" := hsub
  unfold getCommand
  rw [if_neg (by simp)]
  dsimp only
  rw [hsecond, if_neg (by decide), if_neg (by decide), if_pos (by decide)]
  unfold getDescOrType
  rw [if_neg (by simp)]
  dsimp only
  rw [if_neg (by simp [hown]), if_pos rfl]
  rfl

theorem processCommand_setVar {line : String} (hline : Line line "SET" "VAR" [upsName, name, value])
    (hsent : missingCredentials config (s.sessions slot) = none) :
    processCommand config env slot line s = setVar config env slot upsName name value s := by
  obtain ⟨first, second, htokens, hcmd, hsub⟩ := hline
  unfold processCommand
  rw [htokens]
  dsimp only
  rw [hcmd, if_pos (by decide), hsent]
  dsimp only
  rw [if_neg (by decide), if_neg (by decide), if_neg (by decide), if_neg (by decide), if_neg (by decide),
    if_neg (by decide), if_neg (by decide), if_neg (by decide), if_pos rfl]
  have hsecond : Text.upper ([first, second, upsName, name, value].getD 1 "") = "VAR" := hsub
  unfold setCommand
  rw [if_neg (by simp)]
  dsimp only
  rw [hsecond, if_pos rfl, if_neg (by simp)]
  rfl

/-- The listing, the type, the server's `SET VAR` and the Web UI agree on which variables can be written, and set the same variable to the same value. -/
theorem writability_answers_agree (config : NUTServerConfig) (env : Env) (ups : UpsSource) (s : Server) (slot reader : Slot)
    (hready : Ready config env ups (s.sessions slot)) (hcatalog : Catalog ups) (hserved : Served ups)
    (upsName name value : String) (hown : isOwnUps config upsName = true) (hname : name ≠ "")
    (hvalue : isPrintableAscii value = true) (listLine typeLine setLine : String)
    (hlist : Line listLine "LIST" "RW" [upsName]) (htype : Line typeLine "GET" "TYPE" [upsName, name])
    (hset : Line setLine "SET" "VAR" [upsName, name, value]) (deserialize : String → Option Fields) (body : String)
    (hbody : Requests deserialize body name value) (after : UpsSource) :
    (processCommand config env reader listLine s).2.replies
        = ["BEGIN LIST RW " ++ upsName ++ "\n"] ++ (listedRw ups env.overrides).map (rwLine ups upsName)
          ++ ["END LIST RW " ++ upsName ++ "\n"]
      ∧ (InListRw ups env.overrides name
        ↔ TypeIsRw upsName name (processCommand config env reader typeLine s).2.replies)
      ∧ (InListRw ups env.overrides name ↔ ¬ SetRefused (processCommand config env slot setLine s).2.replies)
      ∧ (InListRw ups env.overrides name ↔ ¬ WebRefused (runUpsVariable deserialize env.ups after env.overrides body).1)
      ∧ (processCommand config env slot setLine s).2.calls = acceptedCall ups env.overrides name value
      ∧ (runUpsVariable deserialize env.ups after env.overrides body).2 = acceptedCall ups env.overrides name value := by
  refine ⟨processCommand_listRw hlist hready.source hready.fresh hown reader s, ?_, ?_⟩
  · rw [processCommand_getType htype hown, typeIsRw_iff hready.source, inListRw_iff hcatalog]
  · rw [processCommand_setVar hset hready.permitted.1, setVar_eq hready hown, inListRw_iff hcatalog]
    unfold acceptedCall
    cases hentry : writableEntry ups env.overrides name with
    | none =>
        obtain ⟨hrefused, hcalls⟩ := answerSet_of_none value slot s hentry
        obtain ⟨hwebRefused, hwebCalls⟩ := runUpsVariable_of_none hready hname hvalue hbody after hentry
        exact ⟨iff_of_false (by simp) (fun h => h hrefused), iff_of_false (by simp) (fun h => h hwebRefused), hcalls,
          hwebCalls⟩
    | some v =>
        obtain ⟨hrefused, hcalls⟩ := answerSet_of_entry value slot s hcatalog hserved hentry
        obtain ⟨hwebRefused, hwebCalls⟩ := runUpsVariable_of_entry hready hname hvalue hbody after hcatalog hentry
        exact ⟨iff_of_true rfl hrefused, iff_of_true rfl hwebRefused, hcalls, hwebCalls⟩

/-! A UPS with a settable start delay, and a bridge without credentials. -/

def delaySource (key : String) : UpsSource :=
  { isConnected := true
    isDataStale := false
    upsData := UPSData.empty.set key "30"
    upsStatusString := "OL"
    writableVariables := [{ name := key, aux := 5, enums := [], driverSide := true }]
    supportedCommands := []
    executeCommand := fun _ _ => .notSupported
    setVariable := fun _ _ => .ok }

def delayEnv (key : String) : Env :=
  { ups := some (delaySource key)
    overrides := none
    now := 0
    random := []
    firmwareVersion := "1" }

def openConfig : NUTServerConfig := ⟨"", "", "ups"⟩

def delayBody : String := "\x7b\"name\":\"UPS.delay.start\",\"value\":\"60\"\x7d"

def delayFields (body : String) : Option Fields :=
  if body = delayBody then some ⟨some "UPS.delay.start", some "60"⟩ else none

theorem catalog_delaySource {key : String} (h : Text.lower key = key) : Catalog (delaySource key) := by
  refine ⟨?_, ?_, ?_⟩
  all_goals
    intro v hv
    rw [List.mem_singleton.mp hv]
  · exact h
  · show ((UPSData.empty.set key "30").find key).isSome = true
    simp
  · exact (by decide : 1 ≤ 5)

theorem writability_answers_agree_delay :
    (processCommand openConfig (delayEnv "ups.delay.start") 0 "set var UPS UPS.delay.start 60" Server.initial).2.calls
        = [.setVariable "ups.delay.start" "60"]
      ∧ (runUpsVariable delayFields (delayEnv "ups.delay.start").ups (delaySource "ups.delay.start") none delayBody).2
        = [.setVariable "ups.delay.start" "60"] := by
  have hready : Ready openConfig (delayEnv "ups.delay.start") (delaySource "ups.delay.start") (Server.initial.sessions 0) :=
    ⟨rfl, rfl, rfl, rfl, fun h => absurd h (by decide)⟩
  have hserved : Served (delaySource "ups.delay.start") := by
    refine ⟨?_, ?_, ?_⟩
    all_goals
      intro v hv
      rw [List.mem_singleton.mp hv]
      decide
  obtain ⟨-, -, -, -, hserver, hweb⟩ := writability_answers_agree openConfig (delayEnv "ups.delay.start")
    (delaySource "ups.delay.start") Server.initial 0 1 hready (catalog_delaySource (by decide)) hserved "UPS"
    "UPS.delay.start" "60" (by decide) (by decide) (by decide) "LIST RW UPS" "GET TYPE UPS UPS.delay.start"
    "set var UPS UPS.delay.start 60" ⟨"LIST", "RW", by decide +kernel, by decide, by decide⟩
    ⟨"GET", "TYPE", by decide +kernel, by decide, by decide⟩ ⟨"set", "var", by decide +kernel, by decide, by decide⟩
    delayFields delayBody ⟨by decide, rfl⟩ (delaySource "ups.delay.start")
  have hcall : acceptedCall (delaySource "ups.delay.start") none "UPS.delay.start" "60"
      = [.setVariable "ups.delay.start" "60"] := by decide +kernel
  exact ⟨hserver.trans hcall, hweb.trans hcall⟩

/-- A status key in the catalog is listed as writable and refused as unknown. -/
theorem status_key_listed_and_refused :
    Catalog (delaySource "ups.status.delay")
      ∧ InListRw (delaySource "ups.status.delay") none "ups.status.delay"
      ∧ SetRefused (processCommand openConfig (delayEnv "ups.status.delay") 0 "SET VAR ups ups.status.delay 60"
        Server.initial).2.replies := by
  refine ⟨catalog_delaySource (by decide), ?_, by decide +kernel⟩
  exact ⟨{ name := "ups.status.delay", aux := 5, enums := [], driverSide := true }, by decide +kernel, rfl⟩

end EspNut.NUTServer
