import EspNut.Driver.PlainRuns
import EspNut.Server.LineReader
import EspNut.Server.Listing

/-!
# One line for each variable

The line reader keeps printed ASCII, the custom variables were checked and the status string is made of constants. So while the data is plain, each reply to `LIST VAR` and `GET VAR` is one line, and a client reads as many lines as there are variables between the first and the last. A control character inside a string descriptor breaks this.
-/

namespace EspNut

open Lib NutTable

/-- The status as the host tells it. -/
def USBHostUPS.getUPSStatusString (data : UPSData) : String :=
  let status := data.computeUPSStatusString
  if status = "" then "UNKNOWN" else status

namespace NUTServer

/-! ### The line reader -/

theorem plain_readByte {buffer : String} (h : Text.Plain buffer) (c : Char) :
    Text.Plain (readByte buffer c).1 ∧ ∀ line ∈ (readByte buffer c).2, Text.Plain line := by
  have hempty : Text.Plain "" := by decide
  have hnone : ∀ line ∈ (none : Option String), Text.Plain line := fun _ hline => nomatch hline
  unfold readByte
  split
  · split
    · exact ⟨h, hnone⟩
    · refine ⟨hempty, ?_⟩
      intro line hline
      rwa [← Option.some.inj hline]
  split
  · rename_i hprinted
    split
    · refine ⟨h.append (Text.plain_of_printed ?_), hnone⟩
      intro other hother
      rw [String.toList_singleton, List.mem_singleton] at hother
      rw [hother]
      exact hprinted
    · exact ⟨h, hnone⟩
  · exact ⟨h, hnone⟩

/-- A client cannot send a line with a control character. -/
theorem plain_of_mem_readLines {buffer line : String} {chars : List Char} (h : Text.Plain buffer)
    (hline : line ∈ readLines buffer chars) : Text.Plain line := by
  induction chars generalizing buffer with
  | nil => cases hline
  | cons c rest ih =>
      obtain ⟨hbuffer, hdone⟩ := plain_readByte h c
      rcases List.mem_append.mp hline with hfirst | hrest
      · exact hdone line (Option.mem_toList.mp hfirst)
      · exact ih hbuffer hrest

theorem plain_splitTokens {line : String} (h : Text.Plain line) : ∀ token ∈ splitTokens line, Text.Plain token :=
  forall_of_mem_splitFrom (List.forall_mem_nil _) h

theorem plain_getD {tokens : List String} (h : ∀ token ∈ tokens, Text.Plain token) (n : Nat) :
    Text.Plain (tokens.getD n "") := by
  rw [List.getD_eq_getElem?_getD]
  cases htoken : tokens[n]? with
  | none => decide
  | some token => exact h token (List.mem_of_getElem? htoken)

/-! ### Values -/

theorem plain_encodeValue {raw : String} (h : Text.Plain raw) : Text.Plain (encodeValue raw) := by
  apply Text.plain_ofList
  intro c hc
  obtain ⟨d, hd, hmem⟩ := List.mem_flatMap.mp hc
  split at hmem
  · rcases List.mem_cons.mp hmem with rfl | hlast
    · rfl
    · rw [List.mem_singleton.mp hlast]
      exact h d hd
  · rw [List.mem_singleton.mp hmem]
    exact h d hd

theorem plain_token {condition : Bool} {text : String} (h : Text.Plain text) :
    ∀ word ∈ UPSData.token condition text, Text.Plain word := by
  unfold UPSData.token
  split
  · exact List.forall_mem_singleton.mpr h
  · exact List.forall_mem_nil _

theorem plain_statusTokens (data : UPSData) : ∀ word ∈ data.statusTokens, Text.Plain word := by
  unfold UPSData.statusTokens
  dsimp only
  simp only [List.forall_mem_append]
  and_intros
  all_goals exact plain_token (by decide)

theorem plain_getUPSStatusString (data : UPSData) : Text.Plain (USBHostUPS.getUPSStatusString data) := by
  have hjoin : Text.Plain (String.join (data.statusTokens.map (· ++ " "))) := by
    apply Text.plain_join
    intro word hword
    obtain ⟨token, htoken, rfl⟩ := List.mem_map.mp hword
    exact (plain_statusTokens data token htoken).append (by decide)
  have hstatus : Text.Plain data.computeUPSStatusString := by
    unfold UPSData.computeUPSStatusString
    dsimp only
    split
    · split
      · decide
      · exact Text.Plain.append (by decide) hjoin.trim
    split
    · decide
    · exact hjoin.trim
  unfold USBHostUPS.getUPSStatusString
  dsimp only
  split
  · decide
  · exact hstatus

/-- The source shows the data the driver published. -/
structure Shows (ups : UpsSource) (data : UPSData) : Prop where
  params : ups.upsData = data
  status : ups.upsStatusString = USBHostUPS.getUPSStatusString data

/-- What the server prints of its source and of the custom variables is plain. -/
structure PlainSource (ups : UpsSource) (overrides : Option (List NutOverride)) : Prop where
  data : GenericDriver.PlainData ups.upsData
  status : Text.Plain ups.upsStatusString
  custom : ∀ o ∈ overrides.getD [], Text.Plain o.key ∧ Text.Plain o.value

variable {config : NUTServerConfig} {env : Env} {ups : UpsSource} {overrides : Option (List NutOverride)} {data : UPSData}

theorem plainSource_of_shows (hdata : GenericDriver.PlainData data) (hshows : Shows ups data)
    (haccepted : Accepted overrides) : PlainSource ups overrides where
  data := by
    rw [hshows.params]
    exact hdata
  status := by
    rw [hshows.status]
    exact plain_getUPSStatusString data
  custom := by
    intro o ho
    obtain ⟨hkey, hvalue, -⟩ := NutOverrides.plain_of_checkEntry ((NutOverrides.checkList_ok haccepted).1 o ho)
    exact ⟨hkey, hvalue⟩

theorem PlainSource.find (h : PlainSource ups overrides) {key : String} {o : NutOverride}
    (hfind : NutOverrides.find overrides key = some o) : Text.Plain o.key ∧ Text.Plain o.value :=
  h.custom o (NutOverrides.lower_of_find hfind).1

theorem PlainSource.resolveVar (h : PlainSource ups overrides) {var value : String}
    (hvalue : resolveVar ups overrides var = some value) : Text.Plain value := by
  have hstore : ∀ {key : String}, ups.upsData.find key = some value → Text.Plain value :=
    fun hfind => (h.data _ _ hfind).2
  unfold NUTServer.resolveVar at hvalue
  split at hvalue
  · cases hvalue
  split at hvalue
  · obtain rfl := Option.some.inj hvalue
    exact h.status
  split at hvalue
  · obtain rfl := Option.some.inj hvalue
    decide
  split at hvalue
  · obtain ⟨o, hfind, rfl⟩ := Option.map_eq_some_iff.mp hvalue
    exact (h.find hfind).2
  split at hvalue
  · rename_i hfind
    obtain rfl := Option.some.inj hvalue
    exact (h.find hfind).2
  split at hvalue
  · split at hvalue
    · rename_i hfind
      obtain rfl := Option.some.inj hvalue
      exact (h.find hfind).2
    · exact hstore hvalue
  · exact hstore hvalue

theorem PlainSource.listed (h : PlainSource ups overrides) {row : String × String}
    (hrow : row ∈ listedVars ups overrides) : Text.Plain row.1 ∧ Text.Plain row.2 := by
  have hserver : ∀ text ∈ ["ups.status", "device.type", "ups"], Text.Plain text := by decide
  rcases mem_listedVars.mp hrow with rfl | rfl | hdevice | hdata | hcustom | hparameter
  · exact ⟨hserver "ups.status" (by simp), h.status⟩
  · exact ⟨hserver "device.type" (by simp), hserver "ups" (by simp)⟩
  · obtain ⟨a, ha, hmap⟩ := List.mem_filterMap.mp hdevice
    obtain ⟨value, hvalue, rfl⟩ := Option.map_eq_some_iff.mp hmap
    have haliases : ∀ a ∈ deviceAliases, Text.Plain a.1 := by decide
    exact ⟨haliases a ha, h.resolveVar hvalue⟩
  · obtain ⟨param, hparam, -, rfl⟩ := mem_dataRows.mp hdata
    unfold dataRow
    split
    · rename_i hfind
      exact h.find hfind
    · exact h.data param.1 param.2 ((Store.mem_entries_iff _ _ _).mp hparam)
  · obtain ⟨o, ho, -, rfl⟩ := mem_customRows.mp hcustom
    exact h.custom o ho
  · obtain ⟨o, ho, rfl⟩ := List.mem_map.mp hparameter
    obtain ⟨hkey, hvalue⟩ := h.custom o ho
    exact ⟨Text.Plain.append (by decide) hkey, hvalue⟩

/-! ### Replies -/

theorem isLine_varLine {upsName : String} {var : String × String} (hups : Text.Plain upsName) (hname : Text.Plain var.1)
    (hvalue : Text.Plain var.2) : Text.IsLine (varLine upsName var) := by
  refine ⟨"VAR " ++ upsName ++ " " ++ var.1 ++ " \"" ++ encodeValue var.2 ++ "\"", ?_, ?_⟩
  · have hhead : Text.Plain ("VAR " ++ upsName ++ " " ++ var.1 ++ " \"") :=
      (((Text.Plain.append (by decide) hups).append (by decide)).append hname).append (by decide)
    exact (hhead.append (plain_encodeValue hvalue)).append (by decide)
  · have hend : "\"\n" = "\"" ++ "\n" := by decide
    unfold varLine
    rw [hend, ← String.append_assoc]

theorem isLine_listVar (config : NUTServerConfig) {tokens : List String} (htokens : ∀ token ∈ tokens, Text.Plain token)
    (hsource : ∀ ups ∈ env.ups, PlainSource ups env.overrides) : ∀ reply ∈ listVar config env tokens, Text.IsLine reply := by
  have hups := plain_getD htokens 2
  unfold listVar
  split
  · exact List.forall_mem_singleton.mpr ⟨"ERR INVALID-ARGUMENT", by decide, by decide⟩
  dsimp only
  split
  · exact List.forall_mem_singleton.mpr ⟨"ERR UNKNOWN-UPS", by decide, by decide⟩
  split
  · exact List.forall_mem_singleton.mpr ⟨"ERR DATA-STALE", by decide, by decide⟩
  · refine List.forall_mem_append.mpr ⟨List.forall_mem_append.mpr ⟨?_, ?_⟩, ?_⟩
    · exact List.forall_mem_singleton.mpr ⟨_, Text.Plain.append (by decide) hups, rfl⟩
    · split
      · exact List.forall_mem_nil _
      · rename_i ups hshown
        intro reply hreply
        obtain ⟨row, hrow, rfl⟩ := List.mem_map.mp hreply
        obtain ⟨hname, hvalue⟩ := (hsource ups hshown).listed hrow
        exact isLine_varLine hups hname hvalue
    · exact List.forall_mem_singleton.mpr ⟨_, Text.Plain.append (by decide) hups, rfl⟩

theorem isLine_getVar (config : NUTServerConfig) {tokens : List String} (htokens : ∀ token ∈ tokens, Text.Plain token)
    (hsource : ∀ ups ∈ env.ups, PlainSource ups env.overrides) : ∀ reply ∈ getVar config env tokens, Text.IsLine reply := by
  unfold getVar
  split
  · exact List.forall_mem_singleton.mpr ⟨"ERR INVALID-ARGUMENT", by decide, by decide⟩
  dsimp only
  split
  · exact List.forall_mem_singleton.mpr ⟨"ERR UNKNOWN-UPS", by decide, by decide⟩
  split
  · exact List.forall_mem_singleton.mpr ⟨"ERR VAR-NOT-SUPPORTED", by decide, by decide⟩
  · rename_i ups hshown
    split
    · exact List.forall_mem_singleton.mpr ⟨"ERR DATA-STALE", by decide, by decide⟩
    split
    · exact List.forall_mem_singleton.mpr ⟨"ERR VAR-NOT-SUPPORTED", by decide, by decide⟩
    · rename_i value hvalue
      have hplain := (hsource ups hshown).resolveVar hvalue
      exact List.forall_mem_singleton.mpr (isLine_varLine (plain_getD htokens 2) (plain_getD htokens 3) hplain)

theorem listVar_eq {tokens : List String} (henv : env.ups = some ups) (htokens : 3 ≤ tokens.length)
    (hown : isOwnUps config (tokens.getD 2 "") = true) (hfresh : ups.isDataStale = false) :
    listVar config env tokens
      = ["BEGIN LIST VAR " ++ tokens.getD 2 "" ++ "\n"]
        ++ (listedVars ups env.overrides).map (varLine (tokens.getD 2 ""))
        ++ ["END LIST VAR " ++ tokens.getD 2 "" ++ "\n"] := by
  have hstale : isStale env = false := by
    unfold isStale
    rw [henv]
    exact hfresh
  unfold listVar
  dsimp only
  rw [if_neg (not_lt.mpr htokens), hown, if_neg (by decide), hstale, if_neg (by decide), henv]

/-- What a client reads: one line for each reply, and in a listing one line for each variable between the first and the last. -/
structure OneLineEach (config : NUTServerConfig) (env : Env) (ups : UpsSource) (tokens : List String) : Prop where
  list : ∀ reply ∈ listVar config env tokens, Text.IsLine reply
  get : ∀ reply ∈ getVar config env tokens, Text.IsLine reply
  listing : 3 ≤ tokens.length → isOwnUps config (tokens.getD 2 "") = true → ups.isDataStale = false →
    Text.splitLines [] (String.join (listVar config env tokens)).toList
      = ["BEGIN LIST VAR " ++ tokens.getD 2 "" ++ "\n"]
        ++ (listedVars ups env.overrides).map (varLine (tokens.getD 2 ""))
        ++ ["END LIST VAR " ++ tokens.getD 2 "" ++ "\n"]

theorem oneLineEach {line : String} (hline : Text.Plain line) (henv : env.ups = some ups)
    (hsource : PlainSource ups env.overrides) : OneLineEach config env ups (splitTokens line) := by
  have hsources : ∀ source ∈ env.ups, PlainSource source env.overrides := by
    intro source hshown
    obtain rfl := Option.some.inj (henv.symm.trans hshown)
    exact hsource
  have hlist := isLine_listVar config (plain_splitTokens hline) hsources
  refine ⟨hlist, isLine_getVar config (plain_splitTokens hline) hsources, ?_⟩
  intro htokens hown hfresh
  rw [Text.splitLines_join hlist, listVar_eq henv htokens hown hfresh]

/-- In a run whose string descriptors are clean, the data is plain and a client that sends any bytes reads one line for each variable. -/
theorem one_line_for_each_variable {brand : Brand} {sub : GenericDriver.Subdriver} (htables : GenericDriver.PlainTables sub)
    (depth : Nat) (info : DeviceInfo) (invert : Bool) (events : List GenericDriver.SourceEvent)
    (hclean : AlongWalk GenericDriver.CleanEvent (GenericDriver.sourceStep brand sub depth)
      (GenericDriver.claimed brand info invert) events)
    {s : GenericDriver.State}
    (hrun : events.foldlM (GenericDriver.sourceStep brand sub depth) (GenericDriver.claimed brand info invert) = some s) :
    GenericDriver.PlainData s.data
      ∧ ∀ (config : NUTServerConfig) (env : Env) (ups : UpsSource) (chars : List Char), env.ups = some ups →
          Shows ups s.data → Accepted env.overrides →
          ∀ line ∈ readLines "" chars, OneLineEach config env ups (splitTokens line) := by
  have hdata := (GenericDriver.plainState_of_run htables hclean hrun).data
  refine ⟨hdata, ?_⟩
  intro config env ups chars henv hshows haccepted line hline
  have hplain : Text.Plain line := plain_of_mem_readLines (by decide) hline
  exact oneLineEach hplain henv (plainSource_of_shows hdata hshows haccepted)

/-! ### A device that names its chemistry -/

def chemistryPath : String := "UPS.PowerSummary.iDeviceChemistry"

def chemistryDriver : GenericDriver.Subdriver :=
  { hid2nut :=
      [ { infoType := "battery.type", infoFlags := 0, infoLen := 0, hidpath := some chemistryPath, dfl := none,
          hidflags := 0, conv := .stringId, lkp := [] } ]
    genericHid2Nut := none
    supersededGenericPaths := []
    filterStatus := id
    acceptPollReport := fun _ _ => true }

def chemistryDevice : GenericDriver.Transport :=
  { usages :=
      [ { usage := 0, reportId := 4, reportType := 3, bitOffset := 0, bitSize := 8, found := true, logicalMin := 0,
          logicalMax := 255, exponent := 0, unit := 0, path := chemistryPath,
          collIndex := [0, 0, 0, 0, 0, 0, 0, 0] } ]
    noInterruptPipe := false
    iManufacturer := 1
    iProduct := 2
    iSerialNumber := 3 }

/-- The report has the index of the string, which the poll then reads. -/
def chemistryEvents (bytes : List Byte) : List GenericDriver.SourceEvent :=
  [.report chemistryDevice 4 3 [4, 5], .descriptor chemistryDevice 5 false bytes]

def chemistryStart : GenericDriver.State := GenericDriver.claimed .generic ⟨[], [], []⟩ false

def chemistryStep : GenericDriver.State → GenericDriver.SourceEvent → Option GenericDriver.State :=
  GenericDriver.sourceStep .generic chemistryDriver 2

def chemistrySource (data : UPSData) : UpsSource :=
  { isConnected := true
    isDataStale := false
    upsData := data
    upsStatusString := USBHostUPS.getUPSStatusString data
    writableVariables := []
    supportedCommands := []
    executeCommand := fun _ _ => .notSupported
    setVariable := fun _ _ => .ok }

def chemistryEnv (data : UPSData) : Env := ⟨some (chemistrySource data), none, 0, [], "1"⟩

def chemistryConfig : NUTServerConfig := ⟨"", "", "ups"⟩

/-- The text `PbAc` and a line end behind it. -/
theorem one_line_for_each_variable_chemistry :
    ∃ s, (chemistryEvents [0x0E, 3, 0x50, 0, 0x62, 0, 0x41, 0, 0x63, 0, 0x0D, 0, 0x0A, 0]).foldlM chemistryStep
        chemistryStart = some s
      ∧ s.data.find "battery.type" = some "PbAc" ∧ GenericDriver.PlainData s.data
      ∧ OneLineEach chemistryConfig (chemistryEnv s.data) (chemistrySource s.data) (splitTokens "LIST VAR ups") := by
  have hread : ((chemistryEvents [0x0E, 3, 0x50, 0, 0x62, 0, 0x41, 0, 0x63, 0, 0x0D, 0, 0x0A, 0]).foldlM chemistryStep
      chemistryStart).map (·.data.find "battery.type") = some (some "PbAc") := by decide +kernel
  obtain ⟨s, hrun, hfind⟩ := Option.map_eq_some_iff.mp hread
  have htables : GenericDriver.PlainTables chemistryDriver := by decide +kernel
  have hclean : AlongWalk GenericDriver.CleanEvent chemistryStep chemistryStart
      (chemistryEvents [0x0E, 3, 0x50, 0, 0x62, 0, 0x41, 0, 0x63, 0, 0x0D, 0, 0x0A, 0]) := by decide +kernel
  obtain ⟨hdata, hlines⟩ := one_line_for_each_variable htables 2 ⟨[], [], []⟩ false _ hclean hrun
  have haccepted : Accepted none := by decide
  have hsent : "LIST VAR ups" ∈ readLines "" "LIST VAR ups\n".toList := by decide +kernel
  exact ⟨s, hrun, hfind, hdata, hlines chemistryConfig (chemistryEnv s.data) (chemistrySource s.data) _ rfl ⟨rfl, rfl⟩
    haccepted _ hsent⟩

/-- A line feed inside the text splits the line of its variable: three variables are read as four lines. -/
theorem line_feed_splits_listing :
    GenericDriver.PlainTables chemistryDriver
      ∧ ∃ s, (chemistryEvents [0x0C, 3, 0x50, 0, 0x62, 0, 0x0A, 0, 0x41, 0, 0x63, 0]).foldlM chemistryStep
          chemistryStart = some s
        ∧ s.data.find "battery.type" = some "Pb\nAc" ∧ ¬ GenericDriver.PlainData s.data
        ∧ (listedVars (chemistrySource s.data) none).length = 3
        ∧ (Text.splitLines [] (String.join (listVar chemistryConfig (chemistryEnv s.data)
            (splitTokens "LIST VAR ups"))).toList).length = 1 + 4 + 1
        ∧ ¬ OneLineEach chemistryConfig (chemistryEnv s.data) (chemistrySource s.data) (splitTokens "LIST VAR ups") := by
  have hread : ((chemistryEvents [0x0C, 3, 0x50, 0, 0x62, 0, 0x0A, 0, 0x41, 0, 0x63, 0]).foldlM chemistryStep
      chemistryStart).map (fun s => (s.data.find "battery.type", (listedVars (chemistrySource s.data) none).length,
        (Text.splitLines [] (String.join (listVar chemistryConfig (chemistryEnv s.data)
          (splitTokens "LIST VAR ups"))).toList).length)) = some (some "Pb\nAc", 3, 6) := by decide +kernel
  obtain ⟨s, hrun, hshown⟩ := Option.map_eq_some_iff.mp hread
  obtain ⟨hfind, hrest⟩ := Prod.mk.inj hshown
  obtain ⟨hvars, hlines⟩ := Prod.mk.inj hrest
  refine ⟨by decide +kernel, s, hrun, hfind, ?_, hvars, hlines, ?_⟩
  · intro hplain
    exact absurd (hplain _ _ hfind).2 (by decide)
  · intro hone
    have hlength := congrArg List.length (hone.listing (by decide +kernel) (by decide +kernel) rfl)
    rw [hlines, List.length_append, List.length_append, List.length_map] at hlength
    have hsame : (listedVars (chemistrySource s.data) (chemistryEnv s.data).overrides).length = 3 := hvars
    rw [hsame] at hlength
    exact absurd hlength (by decide)

end NUTServer

end EspNut
