import EspNut.Lib.JsonWriter
import EspNut.Server.Overrides

/-!
# The saved form of the custom variables

The list is saved as one JSON text, an array with an object for each variable. The JSON library is a parameter. What is loaded passes the checks a new list has to pass, and a list that passed them is loaded as it was saved.
-/

namespace EspNut

open Lib

/-- The JSON library on arrays: what it writes for objects of texts, and the members of the elements it reads, without a text where the value is not one. An element that is no object has no members; none is a text that is no array. -/
structure ArrayJson where
  serialize : List (List (String × String)) → String
  deserialize : String → Option (List (List (String × Option String)))

/-- What is relied on: an array of objects is read as it was written, and the text of texts without a NUL has none. -/
structure ArrayJson.Faithful (json : ArrayJson) : Prop where
  roundTrip : ∀ objects, (∀ members ∈ objects, (members.map Prod.fst).Nodup) →
    json.deserialize (json.serialize objects) = some (objects.map fun members => members.map fun m => (m.1, some m.2))
  terminated : ∀ objects, (∀ members ∈ objects, ∀ m ∈ members, '\x00' ∉ m.1.toList ∧ '\x00' ∉ m.2.toList) →
    '\x00' ∉ (json.serialize objects).toList

namespace NutOverrides

/-- A text up to its first NUL. -/
def cString (text : String) : String := String.ofList (text.toList.takeWhile fun c => decide (c ≠ '\x00'))

theorem cString_eq {text : String} (h : '\x00' ∉ text.toList) : cString text = text := by
  have hall : ∀ c ∈ text.toList, decide (c ≠ '\x00') = true := by
    intro c hc
    apply decide_eq_true
    rintro rfl
    exact h hc
  rw [cString, List.takeWhile_eq_self_iff.mpr hall, String.ofList_toList]

theorem not_mem_cString (text : String) : '\x00' ∉ (cString text).toList := by
  rw [cString, String.toList_ofList]
  intro hmem
  exact absurd (List.mem_takeWhile_imp hmem) (by decide)

theorem cString_of_plain {text : String} (h : Text.Plain text) : cString text = text :=
  cString_eq fun hmem => absurd (h _ hmem) (by decide)

variable (json : ArrayJson)

def toObject (o : NutOverride) : List (String × String) :=
  [("k", cString o.key), ("v", cString o.value), ("d", cString o.description)]

def toJson (list : List NutOverride) : String := cString (json.serialize (list.map toObject))

/-- The text under a name of an object. -/
def textOf (members : List (String × Option String)) (name : String) : Option String :=
  ((members.find? fun m => m.1 = name).bind Prod.snd).map cString

/-- One element of the array: the entry joins the list when it is valid, new and there is room; false once one was dropped. -/
def keepItem (state : Bool × List NutOverride) (members : List (String × Option String)) : Bool × List NutOverride :=
  match textOf members "k", textOf members "v" with
  | some key, some value =>
      let o : NutOverride := ⟨key, value, (textOf members "d").getD ""⟩
      if maxCount ≤ state.2.length ∨ checkEntry o ≠ .ok ∨ (find (some state.2) o.key).isSome = true then (false, state.2)
      else (state.1, state.2 ++ [o])
  | _, _ => (false, state.2)

/-- Whether everything was kept, and the list. -/
def fromJson (text : String) : Bool × List NutOverride :=
  match json.deserialize (cString text) with
  | none => (false, [])
  | some items => items.foldl keepItem (true, [])

/-! ### What is loaded is accepted -/

theorem find_eq_none_iff {list : List NutOverride} {key : String} :
    (find (some list) key).isSome = false ↔ ∀ o ∈ list, Text.lower o.key ≠ Text.lower key := by
  unfold find
  rw [Option.isSome_eq_false_iff, Option.isNone_iff_eq_none, List.find?_eq_none]
  refine forall_congr' fun o => forall_congr' fun _ => ?_
  rw [equalsIgnoreCase_iff]

/-- An entry that joins an accepted list leaves it accepted, and nothing else changes the list. -/
theorem accepted_keepItem {state : Bool × List NutOverride} (members : List (String × Option String))
    (h : (checkList state.2).1 = .ok) : (checkList (keepItem state members).2).1 = .ok := by
  unfold keepItem
  split
  · dsimp only
    split
    · exact h
    · rename_i hnew
      simp only [not_or, not_le, not_not, Bool.not_eq_true, find_eq_none_iff] at hnew
      obtain ⟨hroom, hvalid, hdistinct⟩ := hnew
      obtain ⟨-, hentries, hpairwise⟩ := (checkList_iff state.2).mp h
      refine (checkList_iff _).mpr ⟨?_, ?_, ?_⟩
      · rw [List.length_append]
        exact hroom
      · exact List.forall_mem_append.mpr ⟨hentries, List.forall_mem_singleton.mpr hvalid⟩
      · refine List.pairwise_append.mpr ⟨hpairwise, List.pairwise_singleton _ _, ?_⟩
        intro a ha b hb
        rw [List.mem_singleton.mp hb]
        exact hdistinct a ha
  · exact h

theorem accepted_fromJson (text : String) : (checkList (fromJson json text).2).1 = .ok := by
  unfold fromJson
  split
  · rfl
  · rename_i items hitems
    have hfold : ∀ (items : List (List (String × Option String))) (state : Bool × List NutOverride),
        (checkList state.2).1 = .ok → (checkList (items.foldl keepItem state).2).1 = .ok := by
      intro items
      induction items with
      | nil => exact fun _ h => h
      | cons members rest ih => exact fun state h => ih _ (accepted_keepItem members h)
    exact hfold items _ rfl

/-! ### What is accepted is loaded -/

theorem toObject_eq {o : NutOverride} (h : checkEntry o = .ok) :
    toObject o = [("k", o.key), ("v", o.value), ("d", o.description)] := by
  obtain ⟨hkey, hvalue, hdescription⟩ := plain_of_checkEntry h
  rw [toObject, cString_of_plain hkey, cString_of_plain hvalue, cString_of_plain hdescription]

theorem keepItem_toObject {state : Bool × List NutOverride} {o : NutOverride} (h : checkEntry o = .ok)
    (hroom : state.2.length < maxCount) (hnew : ∀ e ∈ state.2, Text.lower e.key ≠ Text.lower o.key) :
    keepItem state ((toObject o).map fun m => (m.1, some m.2)) = (state.1, state.2 ++ [o]) := by
  obtain ⟨hkey, hvalue, hdescription⟩ := plain_of_checkEntry h
  have hk : textOf ((toObject o).map fun m => (m.1, some m.2)) "k" = some o.key := by
    rw [toObject_eq h]
    exact congrArg some (cString_of_plain hkey)
  have hv : textOf ((toObject o).map fun m => (m.1, some m.2)) "v" = some o.value := by
    rw [toObject_eq h]
    exact congrArg some (cString_of_plain hvalue)
  have hd : textOf ((toObject o).map fun m => (m.1, some m.2)) "d" = some o.description := by
    rw [toObject_eq h]
    exact congrArg some (cString_of_plain hdescription)
  unfold keepItem
  rw [hk, hv, hd]
  dsimp only [Option.getD_some]
  rw [if_neg]
  rw [not_or, not_or, Bool.not_eq_true, find_eq_none_iff]
  exact ⟨Nat.not_le_of_lt hroom, not_not_intro h, hnew⟩

/-- The rest of an accepted list joins the part that was loaded. -/
theorem foldl_keepItem {done rest : List NutOverride} (h : (checkList (done ++ rest)).1 = .ok) :
    (rest.map fun o => (toObject o).map fun m => (m.1, some m.2)).foldl keepItem (true, done) = (true, done ++ rest) := by
  induction rest generalizing done with
  | nil => rw [List.append_nil]; rfl
  | cons o rest ih =>
      obtain ⟨hlength, hvalid, hdistinct⟩ := (checkList_iff _).mp h
      rw [List.length_append, List.length_cons] at hlength
      have hnew : ∀ e ∈ done, Text.lower e.key ≠ Text.lower o.key :=
        fun e he => (List.pairwise_append.mp hdistinct).2.2 e he o List.mem_cons_self
      have hkeep := keepItem_toObject (hvalid o (List.mem_append_right _ List.mem_cons_self))
        (show (true, done).2.length < maxCount from by show done.length < maxCount; omega) hnew
      rw [List.map_cons, List.foldl_cons, hkeep]
      have hrest : done ++ [o] ++ rest = done ++ o :: rest := by simp
      rw [← hrest] at h ⊢
      exact ih h

variable {json}

/-- An accepted list is loaded as it was saved, and whatever is loaded is accepted. -/
theorem overrides_fromJson_toJson (h : json.Faithful) :
    (∀ list : List NutOverride, (checkList list).1 = .ok → fromJson json (toJson json list) = (true, list))
      ∧ ∀ text : String, (checkList (fromJson json text).2).1 = .ok := by
  refine ⟨?_, accepted_fromJson json⟩
  intro list haccepted
  have hnames : ∀ members ∈ list.map toObject, (members.map Prod.fst).Nodup := by
    intro members hmembers
    obtain ⟨o, -, rfl⟩ := List.mem_map.mp hmembers
    show ["k", "v", "d"].Nodup
    decide
  have hfree : ∀ members ∈ list.map toObject, ∀ m ∈ members, '\x00' ∉ m.1.toList ∧ '\x00' ∉ m.2.toList := by
    intro members hmembers
    obtain ⟨o, -, rfl⟩ := List.mem_map.mp hmembers
    have hname : '\x00' ∉ "k".toList ∧ '\x00' ∉ "v".toList ∧ '\x00' ∉ "d".toList := by decide
    exact List.forall_mem_cons.mpr ⟨⟨hname.1, not_mem_cString _⟩, List.forall_mem_cons.mpr
      ⟨⟨hname.2.1, not_mem_cString _⟩, List.forall_mem_singleton.mpr ⟨hname.2.2, not_mem_cString _⟩⟩⟩
  have hsaved : toJson json list = json.serialize (list.map toObject) := cString_eq (h.terminated _ hfree)
  unfold fromJson
  rw [hsaved, cString_eq (h.terminated _ hfree), h.roundTrip _ hnames, List.map_map]
  exact foldl_keepItem haccepted

/-! ### A list with a text that needs escapes -/

def valueJson : ArrayJson where
  serialize objects := String.ofList (JsonText.write Json.escape (.array (objects.map JsonText.textObject)))
  deserialize text := ((JsonText.parse true text.toList).bind JsonText.itemsOf).map fun items =>
    items.map fun item => (JsonText.membersOf item).getD []

theorem faithful_valueJson : valueJson.Faithful where
  roundTrip objects _ := by
    show ((JsonText.parse true (String.ofList _).toList).bind JsonText.itemsOf).map _ = _
    rw [String.toList_ofList, JsonText.parse_textObjects, Option.bind_some, JsonText.itemsOf, Option.map_some, List.map_map]
    refine congrArg some (List.map_congr_left fun members _ => ?_)
    rw [Function.comp_apply, JsonText.membersOf_textObject, Option.getD_some]
  terminated objects h := by
    show '\x00' ∉ (String.ofList _).toList
    rw [String.toList_ofList]
    exact JsonText.nul_textObjects h

def noteList : List NutOverride := [⟨"battery.date", "2024/05/01", ""⟩, ⟨"ups.Note", "rack 3 \\ left", "the \"left\" rack"⟩]

theorem overrides_fromJson_toJson_notes :
    toJson valueJson noteList
        = "[\x7b\"k\":\"battery.date\",\"v\":\"2024/05/01\",\"d\":\"\"\x7d,"
          ++ "\x7b\"k\":\"ups.Note\",\"v\":\"rack 3 \\\\ left\",\"d\":\"the \\\"left\\\" rack\"\x7d]"
      ∧ fromJson valueJson (toJson valueJson noteList) = (true, noteList) := by
  have haccepted : (checkList noteList).1 = .ok := by decide +kernel
  exact ⟨by decide +kernel, (overrides_fromJson_toJson faithful_valueJson).1 noteList haccepted⟩

end NutOverrides

end EspNut
