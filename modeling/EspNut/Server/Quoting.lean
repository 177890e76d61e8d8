import EspNut.Server.Listing

/-!
# Quoted words of the replies

A value is escaped and put in quotes, and the rules that split a command line give it back as one word. The description of a variable is put in quotes without being escaped.
-/

namespace EspNut.NUTServer

open Lib NutTable

/-! ### Escaped values -/

theorem splitFrom_escape {inQuotes quoted : Bool} (start rest : List Char) (c : Char) :
    splitFrom start inQuotes quoted ('\\' :: c :: rest) = splitFrom (start ++ [c]) inQuotes quoted rest := by
  rw [splitFrom.eq_def]
  rfl

/-- Inside quotes an escaped text joins the word as it was. -/
theorem splitFrom_encode {quoted : Bool} (start text rest : List Char) :
    splitFrom start true quoted
        (text.flatMap (fun c => if c = '#' ∨ c = '\\' ∨ c = '"' then ['\\', c] else [c]) ++ rest)
      = splitFrom (start ++ text) true quoted rest := by
  induction text generalizing start with
  | nil => simp
  | cons c text ih =>
      have hnext := ih (start ++ [c])
      rw [List.append_assoc, List.singleton_append] at hnext
      rw [List.flatMap_cons, List.append_assoc, ← hnext]
      split
      · exact splitFrom_escape start _ c
      · rename_i hbare
        simp only [not_or] at hbare
        refine splitFrom_plain start _ quoted ?_ ?_ ?_
        · intro h
          cases h
        · exact fun h => hbare.2.1 (List.mem_singleton.mp h).symm
        · exact fun h => hbare.2.2 (List.mem_singleton.mp h).symm

theorem splitFrom_open (rest : List Char) :
    splitFrom [] false false ('"' :: rest) = splitFrom [] true false rest := by
  rw [splitFrom.eq_def]
  rfl

/-- The closing quote at the end of the line makes a word of what was read, even of nothing. -/
theorem splitFrom_close (word : List Char) : splitFrom word true false ['"'] = [String.ofList word] := by
  rw [splitFrom.eq_def]
  dsimp only
  rw [if_neg (by decide), if_pos rfl, splitFrom, if_pos (Or.inr (Bool.or_true false))]

theorem toList_quotedLine (line text : String) :
    (line ++ " \"" ++ text ++ "\"").toList = line.toList ++ ' ' :: '"' :: (text.toList ++ ['"']) := by
  have hopen : " \"".toList = [' ', '"'] := rfl
  have hclose : "\"".toList = ['"'] := rfl
  simp only [String.toList_append, List.append_assoc, hopen, hclose, List.cons_append, List.nil_append]

/-- A value that is escaped and quoted is one word of the line, whatever it holds. -/
theorem splitTokens_quoted_value (ws : List String) (v : String) (hword : ∀ w ∈ ws, Text.IsWord w)
    (hplain : ∀ w ∈ ws, '\\' ∉ w.toList ∧ '"' ∉ w.toList) :
    splitTokens (" ".intercalate ws ++ " \"" ++ encodeValue v ++ "\"") = ws ++ [v] := by
  have hws : PlainWords ws := ⟨hword, hplain⟩
  unfold splitTokens
  rw [toList_quotedLine, hws.split_blank, splitFrom_open]
  unfold encodeValue
  rw [String.toList_ofList, splitFrom_encode, List.nil_append, splitFrom_close, String.ofList_toList]

/-- The empty value behind the words of a reply. -/
theorem splitTokens_quoted_empty :
    (∀ w ∈ ["VAR", "ups", "ups.id"], Text.IsWord w)
      ∧ splitTokens (" ".intercalate ["VAR", "ups", "ups.id"] ++ " \"" ++ encodeValue "" ++ "\"")
        = ["VAR", "ups", "ups.id"] ++ [""] := by
  have hword : ∀ w ∈ ["VAR", "ups", "ups.id"], Text.IsWord w := by
    unfold Text.IsWord
    decide
  have hplain : ∀ w ∈ ["VAR", "ups", "ups.id"], '\\' ∉ w.toList ∧ '"' ∉ w.toList := by decide
  exact ⟨hword, splitTokens_quoted_value _ "" hword hplain⟩

/-! ### Descriptions -/

/-- Printable ASCII without blanks, without the characters `pconf` reads and without `@`. -/
def isValidUpsName (name : String) : Bool :=
  decide (name ≠ "") && name.toList.all fun c =>
    decide (0x21 ≤ c.toNat ∧ c.toNat ≤ 0x7E) && !(c = '"' || c = '\\' || c = '#' || c = '@')

theorem plainWords_of_isOwnUps {config : NUTServerConfig} {upsName : String} (hvalid : isValidUpsName config.upsName = true)
    (hown : isOwnUps config upsName = true) : Text.IsWord upsName ∧ '\\' ∉ upsName.toList ∧ '"' ∉ upsName.toList := by
  unfold isValidUpsName at hvalid
  simp only [Bool.and_eq_true, decide_eq_true_eq, List.all_eq_true, Bool.not_eq_true', Bool.or_eq_false_iff,
    decide_eq_false_iff_not] at hvalid
  obtain ⟨hne, hchars⟩ := hvalid
  have hlower : Text.lower upsName = Text.lower config.upsName := by
    unfold isOwnUps at hown
    exact of_decide_eq_true hown
  have habsent : ∀ c : Char, c.toLower = c → c.toNat < 0x61 → c ∉ config.upsName.toList → c ∉ upsName.toList := by
    intro c hself hletter habsent hc
    rw [← Text.mem_lower hself hletter, hlower, Text.mem_lower hself hletter] at hc
    exact habsent hc
  refine ⟨⟨?_, ?_⟩, ?_, ?_⟩
  · intro hnil
    have hlength := congrArg (fun text => text.toList.length) hlower
    rw [Text.toList_lower, Text.toList_lower, List.length_map, List.length_map, hnil] at hlength
    exact hne (String.toList_eq_nil_iff.mp (List.length_eq_zero_iff.mp hlength.symm))
  · refine habsent ' ' (by decide) (by decide) fun hc => ?_
    exact absurd (hchars _ hc).1.1 (by decide)
  · refine habsent '\\' (by decide) (by decide) fun hc => ?_
    exact (hchars _ hc).2.1.1.2 rfl
  · refine habsent '"' (by decide) (by decide) fun hc => ?_
    exact (hchars _ hc).2.1.1.1 rfl

/-- A backslash or a quote inside a word was escaped by a backslash of its own. -/
theorem count_splitFrom (word input : List Char) (inQuotes quoted : Bool) :
    ((splitFrom word inQuotes quoted input).map fun token => 2 * token.toList.count '\\' + token.toList.count '"').sum
      ≤ 2 * word.count '\\' + word.count '"' + input.count '\\' := by
  fun_induction splitFrom word inQuotes quoted input with
  | case1 word inQuotes quoted hends => simp
  | case2 => simp
  | case3 word inQuotes quoted ih =>
      refine ih.trans ?_
      simp
  | case4 word inQuotes quoted next rest ih =>
      refine ih.trans ?_
      by_cases hslash : next = '\\'
      · subst hslash
        simp
        omega
      · by_cases hquote : next = '"'
        · subst hquote
          simp
          omega
        · simp [hslash, hquote]
  | case5 word inQuotes quoted rest hslash ih =>
      refine ih.trans ?_
      simp
  | case6 word inQuotes quoted c rest hslash hquote hblank hends ih =>
      simp [hslash] at ih ⊢
      omega
  | case7 word inQuotes quoted c rest hslash hquote hblank hends ih =>
      simp [hslash] at ih ⊢
      omega
  | case8 word inQuotes quoted c rest hslash hquote hblank ih =>
      refine ih.trans ?_
      simp [hslash, hquote]

/-- A text in bare quotes is read as one word equal to it exactly when it holds no backslash and no quote. -/
theorem splitFrom_quoted_iff (text : List Char) :
    splitFrom [] true false (text ++ ['"']) = [String.ofList text] ↔ '"' ∉ text ∧ '\\' ∉ text := by
  constructor
  · intro h
    have hcount := count_splitFrom [] (text ++ ['"']) true false
    rw [h] at hcount
    simp at hcount
    rw [← List.count_eq_zero, ← List.count_eq_zero]
    omega
  · rintro ⟨hquote, hslash⟩
    have hout : true = false → ' ' ∉ text := fun h => by cases h
    rw [splitFrom_plain [] _ false hout hslash hquote, List.nil_append, splitFrom_close]

theorem bare_ofList {text : List Char} (h : '"' ∉ text ∧ '\\' ∉ text) :
    '"' ∉ (String.ofList text).toList ∧ '\\' ∉ (String.ofList text).toList := by
  rwa [String.toList_ofList]

/-- The built-in texts hold neither. -/
theorem describe_plain {name desc : String} (h : describe name = some desc) : '"' ∉ desc.toList ∧ '\\' ∉ desc.toList := by
  let Bare (text : String) : Prop := '"' ∉ text.toList ∧ '\\' ∉ text.toList
  have htexts : ∀ text ∈ descs.filterMap Prod.snd, Bare text := by
    unfold descs
    simp only [List.filterMap_cons, List.filterMap_nil, List.forall_mem_cons]
    -- a literal is matched with the list of its characters, which are looked at as they stand
    repeat refine ⟨bare_ofList (by decide), ?_⟩
    exact List.forall_mem_nil _
  obtain ⟨d, hfind, hd⟩ := Option.bind_eq_some_iff.mp h
  exact htexts desc (List.mem_filterMap.mpr ⟨d, List.mem_of_find?_eq_some hfind, hd⟩)

/-- The line of the reply has four words, and the last one is the description. -/
def DescriptionRead (reply : List String) (desc : String) : Prop :=
  ∃ line, reply = [line ++ "\n"] ∧ (splitTokens line).length = 4 ∧ (splitTokens line).getLast? = some desc

theorem descriptionRead_iff {ws : List String} (desc : String) (hws : PlainWords ws) (hlength : ws.length = 3) :
    DescriptionRead [" ".intercalate ws ++ " \"" ++ desc ++ "\"" ++ "\n"] desc
      ↔ '"' ∉ desc.toList ∧ '\\' ∉ desc.toList := by
  have htokens : splitTokens (" ".intercalate ws ++ " \"" ++ desc ++ "\"")
      = ws ++ splitFrom [] true false (desc.toList ++ ['"']) := by
    unfold splitTokens
    rw [toList_quotedLine, hws.split_blank, splitFrom_open]
  rw [← splitFrom_quoted_iff, String.ofList_toList]
  constructor
  · rintro ⟨line, hline, hfour, hlast⟩
    have hsame : " ".intercalate ws ++ " \"" ++ desc ++ "\"" = line :=
      (String.append_left_inj _).mp (List.singleton_inj.mp hline)
    rw [← hsame, htokens, List.length_append, hlength] at hfour
    obtain ⟨token, htoken⟩ := List.length_eq_one_iff.mp (Nat.add_left_cancel hfour : _ = 1)
    rw [← hsame, htokens, htoken, List.getLast?_concat] at hlast
    rw [htoken, Option.some.inj hlast]
  · intro hone
    refine ⟨_, rfl, ?_, ?_⟩
    · rw [htokens, hone, List.length_append, hlength]
      rfl
    · rw [htokens, hone, List.getLast?_concat]

theorem processCommand_getDesc {config : NUTServerConfig} {env : Env} {cmdLine cmd subcmd upsName varName : String}
    {rest : List String} (slot : Slot) (s : Server) (hline : splitTokens cmdLine = cmd :: subcmd :: upsName :: varName :: rest)
    (hget : Text.upper cmd = "GET") (hdesc : Text.upper subcmd = "DESC") (hown : isOwnUps config upsName = true) :
    (processCommand config env slot cmdLine s).2.replies
      = ["DESC" ++ " " ++ upsName ++ " " ++ varName ++ " \""
          ++ (getDescription env "DESC" varName).getD "Description unavailable" ++ "\"\n"] := by
  have hother : ¬ isOwnUps config upsName = false := by
    rw [hown]
    decide
  have hreply : getCommand config env (s.sessions slot) s.tracking (cmd :: subcmd :: upsName :: varName :: rest)
      = ["DESC" ++ " " ++ upsName ++ " " ++ varName ++ " \""
          ++ (getDescription env "DESC" varName).getD "Description unavailable" ++ "\"\n"] := by
    have hsub : (cmd :: subcmd :: upsName :: varName :: rest).getD 1 "" = subcmd := rfl
    have hups : (cmd :: subcmd :: upsName :: varName :: rest).getD 2 "" = upsName := rfl
    have hvar : (cmd :: subcmd :: upsName :: varName :: rest).getD 3 "" = varName := rfl
    unfold getCommand
    dsimp only
    rw [if_neg (by simp), hsub, hdesc, if_neg (by decide), if_neg (by decide), if_pos (Or.inl rfl)]
    unfold getDescOrType
    dsimp only
    rw [if_neg (by simp), hups, hvar, if_neg hother, if_neg (by decide)]
  unfold processCommand
  rw [hline]
  dsimp only
  rw [hget, if_neg (by decide)]
  dsimp only
  rw [if_neg (by decide), if_neg (by decide), if_neg (by decide), if_neg (by decide), if_neg (by decide),
    if_neg (by decide), if_neg (by decide), if_neg (by decide), if_neg (by decide), if_pos rfl, hreply]
  rfl

/-- The reply to GET DESC is read back exactly when no custom description with a quote or a backslash is shown. -/
theorem descriptionRead_getDesc_iff (config : NUTServerConfig) (env : Env) (slot : Slot) (s : Server)
    (cmdLine cmd subcmd upsName varName : String) (rest : List String)
    (hline : splitTokens cmdLine = cmd :: subcmd :: upsName :: varName :: rest) (hget : Text.upper cmd = "GET")
    (hdesc : Text.upper subcmd = "DESC") (hvalid : isValidUpsName config.upsName = true)
    (hown : isOwnUps config upsName = true) (hname : PlainWords [varName]) :
    DescriptionRead (processCommand config env slot cmdLine s).2.replies
        ((getDescription env "DESC" varName).getD "Description unavailable")
      ↔ (describe varName = none → ∀ o, NutOverrides.find env.overrides varName = some o →
          '"' ∉ o.description.toList ∧ '\\' ∉ o.description.toList) := by
  obtain ⟨hups, hslash, hquote⟩ := plainWords_of_isOwnUps hvalid hown
  have hws : PlainWords ["DESC", upsName, varName] := by
    have hword : Text.IsWord "DESC" := by
      unfold Text.IsWord
      decide
    have hbare : '\\' ∉ "DESC".toList ∧ '"' ∉ "DESC".toList := by decide
    exact ⟨List.forall_mem_cons.mpr ⟨hword, List.forall_mem_cons.mpr ⟨hups, hname.1⟩⟩,
      List.forall_mem_cons.mpr ⟨hbare, List.forall_mem_cons.mpr ⟨⟨hslash, hquote⟩, hname.2⟩⟩⟩
  have hreply : ∀ desc : String, "DESC" ++ " " ++ upsName ++ " " ++ varName ++ " \"" ++ desc ++ "\"\n"
      = " ".intercalate ["DESC", upsName, varName] ++ " \"" ++ desc ++ "\"" ++ "\n" := by
    intro desc
    apply String.toList_injective
    simp only [String.toList_append, Text.toList_intercalate_cons, String.intercalate_singleton, List.append_assoc,
      List.cons_append]
    rfl
  rw [processCommand_getDesc slot s hline hget hdesc hown, hreply, descriptionRead_iff _ hws rfl]
  unfold getDescription
  rw [if_neg (by decide)]
  have hunavailable : '"' ∉ "Description unavailable".toList ∧ '\\' ∉ "Description unavailable".toList := by decide
  have hempty : '"' ∉ "".toList ∧ '\\' ∉ "".toList := by decide
  cases hdescribe : describe varName with
  | some desc => exact ⟨fun _ h => (nomatch h), fun _ => describe_plain hdescribe⟩
  | none =>
      cases hfind : NutOverrides.find env.overrides varName with
      | none => exact ⟨fun _ _ o ho => (nomatch ho), fun _ => hunavailable⟩
      | some o =>
          dsimp only
          by_cases hnone : o.description = ""
          · rw [if_neg (not_not_intro hnone)]
            refine ⟨fun _ _ other hother => ?_, fun _ => hunavailable⟩
            rw [← Option.some.inj hother, hnone]
            exact hempty
          · rw [if_pos hnone]
            refine ⟨fun h _ other hother => ?_, fun h => h rfl o rfl⟩
            rwa [← Option.some.inj hother]

/-! ### A description with quotes -/

def packOverrides : List NutOverride := [⟨"battery.note", "1", "the \"left\" pack"⟩]

def packEnv : Env := ⟨none, some packOverrides, 0, [], "1.0"⟩

def packConfig : NUTServerConfig := ⟨"", "", "ups"⟩

/-- The text of a variable without a description is read back. -/
theorem unavailable_description_read :
    DescriptionRead (processCommand packConfig packEnv 0 "get desc UPS ups.id" Server.initial).2.replies
      "Description unavailable" := by
  have hname : PlainWords ["ups.id"] := by
    unfold PlainWords Text.IsWord
    decide
  have hline : splitTokens "get desc UPS ups.id" = ["get", "desc", "UPS", "ups.id"] := by
    refine splitTokens_intercalate ["get", "desc", "UPS", "ups.id"] ?_ (by decide)
    unfold Text.IsWord
    decide
  have hdescription : (getDescription packEnv "DESC" "ups.id").getD "Description unavailable"
      = "Description unavailable" := by decide +kernel
  have hread := descriptionRead_getDesc_iff packConfig packEnv 0 Server.initial _ _ _ _ _ _ hline (by decide) (by decide)
    (by decide) (by decide) hname
  rw [hdescription] at hread
  refine hread.mpr fun _ o ho => ?_
  have hnone : NutOverrides.find packEnv.overrides "ups.id" = none := by decide +kernel
  exact absurd (hnone.symm.trans ho) (by simp)

/-- The quotes of an accepted description are lost. -/
theorem quoted_description_not_read :
    Accepted packEnv.overrides ∧ isValidUpsName packConfig.upsName = true
      ∧ (getDescription packEnv "DESC" "battery.note").getD "Description unavailable" = "the \"left\" pack"
      ∧ (processCommand packConfig packEnv 0 "GET DESC ups battery.note" Server.initial).2.replies
        = ["DESC ups battery.note \"the \"left\" pack\"\n"]
      ∧ splitTokens "DESC ups battery.note \"the \"left\" pack\"" = ["DESC", "ups", "battery.note", "the left pack"]
      ∧ ¬ DescriptionRead (processCommand packConfig packEnv 0 "GET DESC ups battery.note" Server.initial).2.replies
          "the \"left\" pack" := by
  have hdescription : (getDescription packEnv "DESC" "battery.note").getD "Description unavailable" = "the \"left\" pack" := by
    decide +kernel
  have hline : splitTokens "GET DESC ups battery.note" = ["GET", "DESC", "ups", "battery.note"] := by
    refine splitTokens_intercalate ["GET", "DESC", "ups", "battery.note"] ?_ (by decide)
    unfold Text.IsWord
    decide
  have hreply : (processCommand packConfig packEnv 0 "GET DESC ups battery.note" Server.initial).2.replies
      = ["DESC ups battery.note \"the \"left\" pack\"\n"] := by
    rw [processCommand_getDesc 0 Server.initial hline (by decide) (by decide) (by decide), hdescription]
    decide
  have htokens : splitTokens "DESC ups battery.note \"the \"left\" pack\""
      = ["DESC", "ups", "battery.note", "the left pack"] := by decide +kernel
  refine ⟨by decide +kernel, by decide, hdescription, hreply, htokens, ?_⟩
  rintro ⟨line, hline, -, hlast⟩
  rw [hreply] at hline
  have hsame : "DESC ups battery.note \"the \"left\" pack\"" = line :=
    (String.append_left_inj "\n").mp (List.singleton_inj.mp hline)
  rw [← hsame, htokens] at hlast
  exact absurd hlast (by decide)

end EspNut.NUTServer
