import EspNut.Lib.JsonNumber
import EspNut.Lib.JsonWriter
import EspNut.Server.Protocol

/-!
# The variables of the Web UI

The variables of a connected UPS go out as one JSON object. A value that looks like a number goes out as one: through an integer when it has no point, and as it stands when it has one. The JSON library is a parameter.
-/

namespace EspNut.WebApiJson

open Lib NUTServer

/-! ### The JSON library -/

/-- A value of a document; `serialized` marks a text that goes out as it stands. -/
inductive Member where
  | text (s : String)
  | bool (b : Bool)
  | integer (n : Int)
  | serialized (s : String)

def Member.value : Member → Json.Value
  | .text s => .text s.toList
  | .bool b => .bool b
  | .integer n => .number (toString n).toList
  | .serialized s => .number s.toList

/-- The JSON library on documents: how it spells a character of a text, and what it writes for the members of a document. -/
structure DocumentJson where
  spell : Char → List Char
  serializeJson : List (String × Member) → String

/-- A control character that stands in a text as it is, which JSON does not allow. -/
def DocumentJson.Leaves (json : DocumentJson) (c : Char) : Prop := c < ' ' ∧ json.spell c = [c]

instance (json : DocumentJson) (c : Char) : Decidable (json.Leaves c) := inferInstanceAs (Decidable (_ ∧ _))

def documentValue (members : List (String × Member)) : Json.Value := .object (members.map fun m => (m.1.toList, m.2.value))

/-- What is relied on: a document is written without blanks, member by member, an integer in decimal and a serialized text as it stands; and a character is spelled as JSON has it unless it is a control character that stands as it is. -/
structure DocumentJson.Faithful (json : DocumentJson) : Prop where
  written : ∀ members, (json.serializeJson members).toList = JsonText.write json.spell (documentValue members)
  spelled : ∀ c, (∀ rest, JsonText.readChar false (json.spell c ++ rest) = some (c, rest)) ∨ json.Leaves c

/-! ### The document -/

/-- The loop over a value behind a leading minus: whether it has a point, when it is made of digits and at most one point. -/
def numericFrom (hasDot : Bool) : List Char → Option Bool
  | [] => some hasDot
  | c :: rest =>
      if c = '.' then if hasDot then none else numericFrom true rest
      else if c.isDigit then numericFrom hasDot rest
      else none

/-- Whether a value that looks like a number has a point; none for the other values. -/
def numericForm : List Char → Option Bool
  | [] => none
  | '-' :: rest => numericFrom false rest
  | value => numericFrom false value

/-- A value with a point goes out as it stands, one without as the integer `toInt` makes of it, the others as text. -/
def jsonMember (value : String) : Member :=
  match numericForm value.toList with
  | some true => .serialized value
  | some false => .integer (Decimal.atol value.toList)
  | none => .text value

def publishedData (ups : UpsSource) : List (String × String) :=
  ups.upsData.getAll.filter fun param => !(isInternalStatusKey param.1 && decide (param.1 ≠ "ups.status"))

def varsHead (ups : UpsSource) : Store String Member :=
  let doc := Store.empty.set "ups.status" (.text ups.upsStatusString)
  if ups.isDataStale then doc.set "_stale" (.bool true) else doc

def varsDocument (ups : UpsSource) : Store String Member :=
  (publishedData ups).foldl (fun doc param => doc.set param.1 (jsonMember param.2)) (varsHead ups)

def generateUpsVars (json : DocumentJson) : Option UpsSource → String
  | none => "\x7b\"error\": \"UPS non inizializzato\"\x7d"
  | some ups =>
      if ups.isConnected = false then
        json.serializeJson ((Store.empty.set "_disconnected" (.bool true)).set "ups.status" (.text "Disconnected")).entries
      else json.serializeJson (varsDocument ups).entries

/-! ### What the page reads -/

/-- The variables of the page: the data of the source, and the status string unless the data has a variable of that name. -/
def published (ups : UpsSource) : List (String × String) :=
  (if "ups.status" ∈ (publishedData ups).map Prod.fst then [] else [("ups.status", ups.upsStatusString)]) ++ publishedData ups

/-- The same text, or a number equal to the one the text stands for. -/
def SameValue (value : String) (read : Json.Value) : Prop :=
  read = .text value.toList
    ∨ ∃ literal x, read = .number literal ∧ Json.decimalValue literal = some x ∧ Json.decimalValue value.toList = some x

/-- The text is JSON, an object with one member for each variable, with the same value. -/
def Preserved (ups : UpsSource) (text : String) : Prop :=
  ∃ members, JsonText.IsJson false (.object members) text.toList ∧ (members.map Prod.fst).Nodup
    ∧ ∀ shown ∈ published ups, ∃ read, (shown.1.toList, read) ∈ members ∧ SameValue shown.2 read

/-- A value that survives: no number by its look, an integer of 32 bits with a digit, or a JSON number with a point. -/
def Survives (value : String) : Prop :=
  (numericForm value.toList = some false → ∃ n : Int, Decimal.Denotes value n ∧ -2 ^ 31 ≤ n ∧ n ≤ 2 ^ 31 - 1)
    ∧ (numericForm value.toList = some true → Json.isNumber value.toList = true)

/-- The library spells every character of a variable's name and value as JSON has it. -/
def Spelled (json : DocumentJson) (shown : String × String) : Prop := ∀ c ∈ shown.1.toList ++ shown.2.toList, ¬ json.Leaves c

/-! ### One value -/

theorem bare_of_numericFrom {hasDot dot : Bool} {chars : List Char} (h : numericFrom hasDot chars = some dot) :
    (chars.all fun c => c.isDigit || c = '-' || c = '.') = true := by
  induction chars generalizing hasDot with
  | nil => rfl
  | cons c rest ih =>
      unfold numericFrom at h
      split at h
      · rename_i hpoint
        split at h
        · cases h
        · rw [List.all_cons, ih h, hpoint]
          rfl
      split at h
      · rename_i hdigit
        rw [List.all_cons, ih h, hdigit]
        rfl
      · cases h

theorem digits_of_numericFrom {chars : List Char} (h : numericFrom false chars = some false) :
    ∀ c ∈ chars, c.isDigit = true := by
  have hdot : ∀ {rest : List Char}, numericFrom true rest ≠ some false := by
    intro rest
    induction rest with
    | nil => simp [numericFrom]
    | cons c rest ih =>
        unfold numericFrom
        split
        · simp
        split
        · exact ih
        · simp
  induction chars with
  | nil => exact List.forall_mem_nil _
  | cons c rest ih =>
      unfold numericFrom at h
      split at h
      · exact absurd h hdot
      split at h
      · rename_i hdigit
        exact List.forall_mem_cons.mpr ⟨hdigit, ih h⟩
      · cases h

theorem numericForm_cases {chars : List Char} {dot : Bool} (h : numericForm chars = some dot) :
    (∃ rest, chars = '-' :: rest ∧ numericFrom false rest = some dot)
      ∨ (chars ≠ [] ∧ chars.head? ≠ some '-' ∧ numericFrom false chars = some dot) := by
  unfold numericForm at h
  split at h
  · cases h
  · rename_i rest
    exact Or.inl ⟨rest, rfl, h⟩
  · rename_i hempty hminus
    refine Or.inr ⟨hempty, ?_, h⟩
    intro hhead
    obtain ⟨rest, hrest⟩ := List.head?_eq_some_iff.mp hhead
    exact hminus rest hrest

theorem isBare_of_numericForm {chars : List Char} {dot : Bool} (h : numericForm chars = some dot) :
    Json.isBare chars = true := by
  unfold Json.isBare
  rcases numericForm_cases h with ⟨rest, rfl, hrest⟩ | ⟨hne, -, hchars⟩
  · rw [List.all_cons, bare_of_numericFrom hrest]
    rfl
  · rw [bare_of_numericFrom hchars, decide_eq_true hne]
    rfl

theorem bare_jsonMember (value : String) : JsonText.Bare (jsonMember value).value := by
  unfold jsonMember
  split
  · rename_i hdot
    exact isBare_of_numericForm hdot
  · exact Json.isBare_toString _
  · exact List.all_eq_true.mpr fun _ _ => rfl

theorem atol_of_denotes {value : String} {n : Int} (h : Decimal.Denotes value n) :
    Decimal.atol value.toList = Decimal.saturate (-2 ^ 31) (2 ^ 31 - 1) n := by
  rw [Decimal.atol, Decimal.scanInt_of_denotes h]

/-- An integer by its look is one, unless it is a lone minus. -/
theorem denotes_of_integer {value : String} (h : numericForm value.toList = some false) (hne : value ≠ "-") :
    ∃ n : Int, Decimal.Denotes value n := by
  rcases numericForm_cases h with ⟨rest, hvalue, hrest⟩ | ⟨hvalue, -, hchars⟩
  · have hrestne : rest ≠ [] := by
      rintro rfl
      exact hne (String.toList_injective hvalue)
    exact ⟨_, rest, hrestne, digits_of_numericFrom hrest, Or.inr ⟨hvalue, rfl⟩⟩
  · exact ⟨_, value.toList, hvalue, digits_of_numericFrom hchars, Or.inl ⟨rfl, rfl⟩⟩

theorem decimalValue_of_denotes {value : String} {n : Int} (h : Decimal.Denotes value n) :
    Json.decimalValue value.toList = some (n : ℚ) := by
  obtain ⟨digits, hne, hdigits, ⟨hvalue, rfl⟩ | ⟨hvalue, rfl⟩⟩ := h
  · rw [hvalue, Json.decimalValue_digits hne hdigits]
  · rw [hvalue, Json.decimalValue, Json.unsignedValue_digits hne hdigits]
    simp

/-- Once the text around it is JSON, a value is read back as it was exactly when it survives. -/
theorem sameValue_iff {value : String} (h : numericForm value.toList = some true → Json.isNumber value.toList = true) :
    SameValue value (jsonMember value).value ↔ Survives value := by
  unfold SameValue Survives jsonMember
  cases hform : numericForm value.toList with
  | none => exact iff_of_true (Or.inl rfl) ⟨fun hnone => absurd hnone (by decide), fun hnone => absurd hnone (by decide)⟩
  | some dot =>
      cases dot with
      | true =>
          obtain ⟨x, hx⟩ := Json.decimalValue_of_isNumber (h hform)
          exact iff_of_true (Or.inr ⟨_, x, rfl, hx, hx⟩) ⟨fun hdot => absurd hdot (by decide), fun _ => h hform⟩
      | false =>
          constructor
          · rintro (htext | ⟨literal, x, hliteral, hx, hvalue⟩)
            · cases htext
            refine ⟨fun _ => ?_, fun hdot => absurd hdot (by decide)⟩
            rw [← Json.Value.number.inj hliteral, Json.decimalValue_toString] at hx
            have hdigit : value ≠ "-" := by
              rintro rfl
              cases hvalue
            obtain ⟨n, hn⟩ := denotes_of_integer hform hdigit
            rw [decimalValue_of_denotes hn, ← hx, Option.some.injEq, Int.cast_inj, atol_of_denotes hn] at hvalue
            exact ⟨n, hn, by unfold Decimal.saturate at hvalue; omega⟩
          · intro hsurvives
            obtain ⟨n, hn, hlow, hhigh⟩ := hsurvives.1 rfl
            refine Or.inr ⟨_, n, rfl, ?_, decimalValue_of_denotes hn⟩
            rw [atol_of_denotes hn, Decimal.saturate_eq_of_mem hlow hhigh]
            exact Json.decimalValue_toString n

/-! ### Spelling -/

theorem readChar_control {c : Char} (h : c < ' ') (rest : List Char) : JsonText.readChar false (c :: rest) = none := by
  have hslash : c ≠ '\\' := by
    rintro rfl
    exact absurd h (by decide)
  rw [JsonText.readChar]
  · exact if_pos (Or.inr (Or.inr ⟨rfl, h⟩))
  · exact fun _ heq => absurd heq hslash
  · exact fun _ heq => absurd heq hslash
  · exact fun _ _ heq => absurd heq hslash

variable {json : DocumentJson}

theorem DocumentJson.Faithful.spelling (h : json.Faithful) :
    JsonText.Spelling false json.spell fun c => decide (¬ json.Leaves c) := by
  constructor
  case readChar_eq =>
    intro c rest
    by_cases hleaves : json.Leaves c
    · rw [if_neg (by simpa using hleaves), hleaves.2]
      exact readChar_control hleaves.1 rest
    · rw [if_pos (by simpa using hleaves)]
      exact (h.spelled c).resolve_right hleaves rest
  case head_ne =>
    intro c rest hhead
    rcases h.spelled c with hread | hleaves
    · obtain ⟨more, hmore⟩ := List.head?_eq_some_iff.mp hhead
      have hnone : JsonText.readChar false ('"' :: more) = none := by simp [JsonText.readChar]
      rw [← hmore, hread rest] at hnone
      cases hnone
    · rw [hleaves.2] at hhead
      obtain rfl := Option.some.inj hhead
      exact absurd hleaves.1 (by decide)

theorem not_leaves {c : Char} (h : ' ' ≤ c) : ¬ json.Leaves c := fun hleaves => absurd hleaves.1 (not_lt.mpr h)

/-- A member that is written so that it is read back: its texts are spelled, and a serialized text is a JSON number. -/
def Good (json : DocumentJson) (m : String × Member) : Prop :=
  (∀ c ∈ m.1.toList, ¬ json.Leaves c) ∧ JsonText.valid Json.isNumber (fun c => decide (¬ json.Leaves c)) m.2.value = true

theorem good_text_iff {key text : String} : Good json (key, .text text) ↔ Spelled json (key, text) := by
  show (∀ c ∈ key.toList, _) ∧ text.toList.all (fun c => decide (¬ json.Leaves c)) = true ↔ _
  unfold Spelled
  rw [List.forall_mem_append, List.all_eq_true]
  simp only [decide_eq_true_eq]

theorem le_of_numericForm {chars : List Char} {dot : Bool} (h : numericForm chars = some dot) : ∀ c ∈ chars, ' ' ≤ c := by
  intro c hc
  have hbare := List.all_eq_true.mp (Bool.and_eq_true_iff.mp (isBare_of_numericForm h)).2 c hc
  simp only [Bool.or_eq_true, decide_eq_true_eq] at hbare
  rcases hbare with (hdigit | rfl) | rfl
  · have hrange : '0' ≤ c := by
      simp only [Char.isDigit, Bool.and_eq_true, decide_eq_true_eq] at hdigit
      exact hdigit.1
    exact le_trans (by decide) hrange
  · decide
  · decide

/-- A published value is good when it is spelled, and a number with a point is a JSON number. -/
theorem good_jsonMember_iff {shown : String × String} :
    Good json (shown.1, jsonMember shown.2) ↔
      Spelled json shown ∧ (numericForm shown.2.toList = some true → Json.isNumber shown.2.toList = true) := by
  unfold jsonMember
  cases hform : numericForm shown.2.toList with
  | none =>
      rw [good_text_iff]
      exact ⟨fun h => ⟨h, fun hnone => absurd hnone (by decide)⟩, And.left⟩
  | some dot =>
      have hspelled : Spelled json shown ↔ ∀ c ∈ shown.1.toList, ¬ json.Leaves c := by
        unfold Spelled
        rw [List.forall_mem_append]
        exact and_iff_left fun c hc => not_leaves (le_of_numericForm hform c hc)
      rw [hspelled]
      cases dot with
      | true => exact and_congr_right fun _ => ⟨fun h _ => h, fun h => h rfl⟩
      | false => exact and_congr_right fun _ => iff_of_true (Json.isNumber_toString _) fun hdot => absurd hdot (by decide)

/-! ### The document -/

theorem nodup_publishedData (ups : UpsSource) : ((publishedData ups).map Prod.fst).Nodup :=
  ups.upsData.params.nodup.sublist (List.filter_sublist.map Prod.fst)

theorem find_varsDocument (ups : UpsSource) (key : String) :
    (varsDocument ups).find key = (((publishedData ups).lookup key).map jsonMember).or ((varsHead ups).find key) :=
  Store.find_foldl_set jsonMember (nodup_publishedData ups) (varsHead ups) key

theorem varsDocument_of_published {ups : UpsSource} {shown : String × String} (h : shown ∈ publishedData ups) :
    (shown.1, jsonMember shown.2) ∈ (varsDocument ups).entries := by
  rw [Store.mem_entries_iff, find_varsDocument, Store.lookup_of_mem (nodup_publishedData ups) h]
  rfl

theorem find_varsHead_status (ups : UpsSource) : (varsHead ups).find "ups.status" = some (.text ups.upsStatusString) := by
  unfold varsHead
  dsimp only
  split
  · rw [Store.find_set, if_neg (by decide), Store.find_set, if_pos rfl]
  · rw [Store.find_set, if_pos rfl]

theorem varsDocument_status {ups : UpsSource} (h : "ups.status" ∉ (publishedData ups).map Prod.fst) :
    ("ups.status", .text ups.upsStatusString) ∈ (varsDocument ups).entries := by
  rw [Store.mem_entries_iff, find_varsDocument, Store.lookup_eq_none_of_not_mem h]
  exact find_varsHead_status ups

/-- What the document holds: published data, or the status string where the data has none, and the flag of stale data. -/
theorem varsDocument_cases {ups : UpsSource} {entry : String × Member} (h : entry ∈ (varsDocument ups).entries) :
    (∃ shown ∈ publishedData ups, entry = (shown.1, jsonMember shown.2))
      ∨ ("ups.status" ∉ (publishedData ups).map Prod.fst ∧ entry = ("ups.status", .text ups.upsStatusString))
      ∨ entry = ("_stale", .bool true) := by
  obtain ⟨key, value⟩ := entry
  rw [Store.mem_entries_iff, find_varsDocument] at h
  rcases Option.or_eq_some_iff.mp h with hdata | ⟨hnone, hhead⟩
  · obtain ⟨text, htext, rfl⟩ := Option.map_eq_some_iff.mp hdata
    exact Or.inl ⟨(key, text), Store.mem_of_lookup htext, rfl⟩
  · refine Or.inr ?_
    have hmissing : key ∉ (publishedData ups).map Prod.fst := by
      intro hmem
      obtain ⟨shown, hshown, rfl⟩ := List.mem_map.mp hmem
      rw [Store.lookup_of_mem (nodup_publishedData ups) hshown] at hnone
      cases hnone
    unfold varsHead at hhead
    dsimp only at hhead
    have hstatus : ((Store.empty.set "ups.status" (.text ups.upsStatusString) : Store String Member)).find key
        = some value → key = "ups.status" ∧ value = .text ups.upsStatusString := by
      intro hfind
      rw [Store.find_set] at hfind
      split at hfind
      · rename_i hkey
        exact ⟨hkey, (Option.some.inj hfind).symm⟩
      · cases hfind
    split at hhead
    · rw [Store.find_set] at hhead
      split at hhead
      · rename_i hkey
        rw [hkey, ← Option.some.inj hhead]
        exact Or.inr rfl
      · obtain ⟨rfl, rfl⟩ := hstatus hhead
        exact Or.inl ⟨hmissing, rfl⟩
    · obtain ⟨rfl, rfl⟩ := hstatus hhead
      exact Or.inl ⟨hmissing, rfl⟩

theorem mem_published_iff {ups : UpsSource} {shown : String × String} :
    shown ∈ published ups ↔ shown ∈ publishedData ups
      ∨ "ups.status" ∉ (publishedData ups).map Prod.fst ∧ shown = ("ups.status", ups.upsStatusString) := by
  unfold published
  rw [List.mem_append, or_comm]
  refine or_congr_right ?_
  split
  · rename_i hmem
    exact iff_of_false List.not_mem_nil fun h => h.1 hmem
  · rename_i hmissing
    rw [List.mem_singleton]
    exact (and_iff_right hmissing).symm

/-- Every member of the document is good when everything published is spelled and the numbers with a point are JSON numbers. -/
theorem good_varsDocument_iff (ups : UpsSource) :
    (∀ entry ∈ (varsDocument ups).entries, Good json entry) ↔
      (∀ shown ∈ published ups, Spelled json shown)
        ∧ ∀ shown ∈ publishedData ups, numericForm shown.2.toList = some true → Json.isNumber shown.2.toList = true := by
  constructor
  · intro h
    have hdata : ∀ shown ∈ publishedData ups, _ := fun shown hshown =>
      good_jsonMember_iff.mp (h _ (varsDocument_of_published hshown))
    refine ⟨fun shown hshown => ?_, fun shown hshown => (hdata shown hshown).2⟩
    rcases mem_published_iff.mp hshown with hmem | ⟨hmissing, rfl⟩
    · exact (hdata shown hmem).1
    · exact good_text_iff.mp (h _ (varsDocument_status hmissing))
  · rintro ⟨hspelled, hnumbers⟩ entry hentry
    rcases varsDocument_cases hentry with ⟨shown, hshown, rfl⟩ | ⟨hmissing, rfl⟩ | rfl
    · exact good_jsonMember_iff.mpr ⟨hspelled shown (mem_published_iff.mpr (Or.inl hshown)), hnumbers shown hshown⟩
    · exact good_text_iff.mpr (hspelled _ (mem_published_iff.mpr (Or.inr ⟨hmissing, rfl⟩)))
    · refine ⟨fun c hc => not_leaves ?_, rfl⟩
      have hall : ("_stale".toList.all fun c => decide (' ' ≤ c)) = true := rfl
      exact of_decide_eq_true (List.all_eq_true.mp hall c hc)

theorem bare_varsDocument (ups : UpsSource) : JsonText.Bare (documentValue (varsDocument ups).entries) := by
  refine (JsonText.validMembers_iff _ _).mpr (List.forall_mem_map.mpr fun entry hentry => ⟨List.all_eq_true.mpr fun _ _ => rfl, ?_⟩)
  rcases varsDocument_cases hentry with ⟨shown, -, rfl⟩ | ⟨-, rfl⟩ | rfl
  · exact bare_jsonMember shown.2
  · exact List.all_eq_true.mpr fun _ _ => rfl
  · rfl

theorem valid_document_iff (members : List (String × Member)) :
    JsonText.valid Json.isNumber (fun c => decide (¬ json.Leaves c)) (documentValue members) = true
      ↔ ∀ m ∈ members, Good json m := by
  refine (JsonText.validMembers_iff _ _).trans (List.forall_mem_map.trans (forall_congr' fun m => forall_congr' fun _ => ?_))
  refine and_congr_left fun _ => ?_
  show m.1.toList.all _ = true ↔ _
  rw [List.all_eq_true]
  simp only [decide_eq_true_eq]

/-- The text is JSON exactly when every member is good, and then it stands for the document. -/
theorem isJson_varsDocument_iff (h : json.Faithful) (ups : UpsSource) {v : Json.Value} :
    JsonText.IsJson false v (json.serializeJson (varsDocument ups).entries).toList
      ↔ (∀ entry ∈ (varsDocument ups).entries, Good json entry) ∧ v = documentValue (varsDocument ups).entries := by
  rw [h.written, JsonText.isJson_write_iff h.spelling (bare_varsDocument ups), valid_document_iff]

theorem mem_members_iff {doc : Store String Member} {key : String} {value : Member} (h : (key, value) ∈ doc.entries)
    {read : Json.Value} : (key.toList, read) ∈ doc.entries.map (fun m => (m.1.toList, m.2.value)) ↔ read = value.value := by
  constructor
  · intro hmem
    obtain ⟨entry, hentry, heq⟩ := List.mem_map.mp hmem
    obtain ⟨hkey, rfl⟩ := Prod.mk.inj heq
    have hfind := (Store.mem_entries_iff _ _ _).mp hentry
    rw [String.toList_injective hkey, (Store.mem_entries_iff _ _ _).mp h] at hfind
    rw [Option.some.inj hfind]
  · rintro rfl
    exact List.mem_map.mpr ⟨(key, value), h, rfl⟩

/-- Every variable of a connected UPS is read by the page with its value exactly when every published value survives and the library leaves no control character in a name or a value. -/
theorem preserved_iff (json : DocumentJson) (h : json.Faithful) (ups : UpsSource) (hconnected : ups.isConnected = true) :
    Preserved ups (generateUpsVars json (some ups))
      ↔ (∀ shown ∈ publishedData ups, Survives shown.2) ∧ ∀ shown ∈ published ups, Spelled json shown := by
  have htext : generateUpsVars json (some ups) = json.serializeJson (varsDocument ups).entries := by
    show (if ups.isConnected = false then _ else _) = _
    rw [hconnected]
    rfl
  rw [htext]
  constructor
  · rintro ⟨members, hread, -, hshown⟩
    obtain ⟨hgood, hmembers⟩ := (isJson_varsDocument_iff h ups).mp hread
    obtain rfl := Json.Value.object.inj hmembers
    obtain ⟨hspelled, hnumbers⟩ := (good_varsDocument_iff ups).mp hgood
    refine ⟨fun shown hmem => ?_, hspelled⟩
    obtain ⟨read, hin, hsame⟩ := hshown shown (mem_published_iff.mpr (Or.inl hmem))
    obtain rfl := (mem_members_iff (varsDocument_of_published hmem)).mp hin
    exact (sameValue_iff (hnumbers shown hmem)).mp hsame
  · rintro ⟨hsurvives, hspelled⟩
    have hgood := (good_varsDocument_iff ups).mpr ⟨hspelled, fun shown hmem => (hsurvives shown hmem).2⟩
    refine ⟨_, (isJson_varsDocument_iff h ups).mpr ⟨hgood, rfl⟩, ?_, ?_⟩
    · have hnodup := (varsDocument ups).nodup.map fun _ _ h => String.toList_injective h
      rw [List.map_map] at hnodup ⊢
      exact hnodup
    · intro shown hmem
      rcases mem_published_iff.mp hmem with hdata | ⟨hmissing, rfl⟩
      · have hone := hsurvives shown hdata
        exact ⟨_, (mem_members_iff (varsDocument_of_published hdata)).mpr rfl, (sameValue_iff hone.2).mpr hone⟩
      · exact ⟨_, (mem_members_iff (varsDocument_status hmissing)).mpr rfl, Or.inl rfl⟩

/-! ### Values that survive and values that do not -/

/-- A library that spells quotes, backslashes and five control characters with an escape. -/
def escapingJson : DocumentJson where
  spell := Json.escape
  serializeJson members := String.ofList (JsonText.write Json.escape (documentValue members))

theorem faithful_escapingJson : escapingJson.Faithful where
  written members := String.toList_ofList
  spelled c := by
    have hread := (JsonText.spelling_escape false).readChar_eq c
    by_cases hok : (false || decide (' ' ≤ c) || (Json.escapes.lookup c).isSome) = true
    · exact Or.inl fun rest => (hread rest).trans (if_pos hok)
    · rw [Bool.false_or, Bool.or_eq_true, not_or, decide_eq_true_eq, not_le] at hok
      refine Or.inr ⟨hok.1, ?_⟩
      show Json.escape c = [c]
      unfold Json.escape
      rw [Option.not_isSome_iff_eq_none.mp hok.2]

def tableSource (data : UPSData) : UpsSource :=
  { isConnected := true
    isDataStale := true
    upsData := data
    upsStatusString := "OL"
    writableVariables := []
    supportedCommands := []
    executeCommand := fun _ _ => .notSupported
    setVariable := fun _ _ => .unknown }

def readableData : UPSData :=
  (((UPSData.empty.set "battery.charge" "100").set "battery.voltage" "27.30").set "ups.serial" "007").set "ups.mfr" "EA \"T\"ON\n"

theorem preserved_readable :
    generateUpsVars escapingJson (some (tableSource readableData))
        = "\x7b\"ups.status\":\"OL\",\"_stale\":true,\"battery.charge\":100,\"battery.voltage\":27.30,"
          ++ "\"ups.serial\":7,\"ups.mfr\":\"EA \\\"T\\\"ON\\n\"\x7d"
      ∧ Preserved (tableSource readableData) (generateUpsVars escapingJson (some (tableSource readableData))) := by
  have hall : ∀ shown ∈ [("battery.charge", "100"), ("battery.voltage", "27.30"), ("ups.serial", "007"), ("ups.mfr", "EA \"T\"ON\n")],
      Survives shown.2 := by
    have hcharge : Decimal.Denotes "100" 100 := ⟨"100".toList, by decide, by simp, Or.inl ⟨rfl, rfl⟩⟩
    have hserial : Decimal.Denotes "007" 7 := ⟨"007".toList, by decide, by simp, Or.inl ⟨rfl, rfl⟩⟩
    refine List.forall_mem_cons.mpr ⟨?_, List.forall_mem_cons.mpr ⟨?_, List.forall_mem_cons.mpr ⟨?_,
      List.forall_mem_singleton.mpr ?_⟩⟩⟩
    · exact ⟨fun _ => ⟨100, hcharge, by decide, by decide⟩, by decide⟩
    · exact ⟨fun h => absurd h (by decide), fun _ => by decide⟩
    · exact ⟨fun _ => ⟨7, hserial, by decide, by decide⟩, by decide⟩
    · exact ⟨fun h => absurd h (by decide), by decide⟩
  have hspelled : ∀ shown ∈ published (tableSource readableData), Spelled escapingJson shown := by
    have hchars : ((published (tableSource readableData)).all fun shown =>
        (shown.1.toList ++ shown.2.toList).all fun c => decide (¬ escapingJson.Leaves c)) = true := by decide +kernel
    exact fun shown hshown c hc => of_decide_eq_true (List.all_eq_true.mp (List.all_eq_true.mp hchars shown hshown) c hc)
  exact ⟨by decide +kernel, (preserved_iff escapingJson faithful_escapingJson (tableSource readableData) rfl).mpr ⟨hall, hspelled⟩⟩

/-- A number that ends with its point is no JSON, a lone minus becomes zero and a long number the largest integer. -/
theorem spoiled_values :
    generateUpsVars escapingJson (some (tableSource (UPSData.empty.set "ups.id" "5.")))
        = "\x7b\"ups.status\":\"OL\",\"_stale\":true,\"ups.id\":5.\x7d"
      ∧ ¬ Preserved (tableSource (UPSData.empty.set "ups.id" "5."))
          (generateUpsVars escapingJson (some (tableSource (UPSData.empty.set "ups.id" "5."))))
      ∧ jsonMember "-" = .integer 0 ∧ jsonMember "99999999999" = .integer 2147483647 := by
  have htext : generateUpsVars escapingJson (some (tableSource (UPSData.empty.set "ups.id" "5.")))
      = "\x7b\"ups.status\":\"OL\",\"_stale\":true,\"ups.id\":5.\x7d" := by decide +kernel
  have hnone : (JsonText.parse false "\x7b\"ups.status\":\"OL\",\"_stale\":true,\"ups.id\":5.\x7d".toList).isSome = false := by
    decide +kernel
  refine ⟨htext, ?_, rfl, rfl⟩
  rintro ⟨members, hread, -⟩
  rw [htext] at hread
  rw [hread.parse_eq] at hnone
  cases hnone

end EspNut.WebApiJson
