import EspNut.Lib.Store

/-!
# The stored values of the driver

Values that never reach the UPS are kept in flash, all of them as one text under one key. The JSON library is a parameter. A write of the flash may fail, and then leaves the text it had; a read gives what was written.
-/

namespace EspNut

open Lib

/-- The JSON library on objects: what it writes for members that are texts, and the members it reads, without a text where the value is not one. None is a text that is no object. -/
structure ObjectJson where
  serialize : List (String × String) → String
  deserialize : String → Option (List (String × Option String))

/-- What is relied on: an object has its braces, is read as it was written, and an empty text is no object. -/
structure ObjectJson.Faithful (json : ObjectJson) : Prop where
  nonempty : ∀ entries, json.serialize entries ≠ ""
  roundTrip : ∀ entries, (entries.map Prod.fst).Nodup →
    json.deserialize (json.serialize entries) = some (entries.map fun e => (e.1, some e.2))
  emptyInput : json.deserialize "" = none

namespace DriverVarStore

variable (json : ObjectJson)

def toJson (vars : Store String String) : String := json.serialize vars.entries

/-- None for anything but an object of texts. -/
def fromJson (text : String) : Option (Store String String) :=
  (json.deserialize text).bind fun members =>
    members.foldlM (fun vars kv => kv.2.map fun value => vars.set kv.1 value) Store.empty

variable {json}

theorem fromJson_toJson (h : json.Faithful) (vars : Store String String) :
    fromJson json (toJson json vars) = some vars := by
  have hfold : ∀ (entries : List (String × String)) (start : Store String String),
      (entries.map fun e => (e.1, some e.2)).foldlM (fun vars kv => kv.2.map fun value => vars.set kv.1 value) start
        = some (entries.foldl (fun t e => t.set e.1 e.2) start) := by
    intro entries
    induction entries with
    | nil => exact fun _ => rfl
    | cons entry rest ih => exact fun start => ih (start.set entry.1 entry.2)
  unfold fromJson toJson
  rw [h.roundTrip _ vars.nodup, Option.bind_some, hfold, Store.foldl_set_entries]

theorem fromJson_empty (h : json.Faithful) : fromJson json "" = none := by
  rw [fromJson, h.emptyInput, Option.bind_none]

end DriverVarStore

/-- The namespace of the values in flash: missing, without the key, or with a text. -/
structure Nvs where
  space : Option (Option String)
  deriving DecidableEq

/-- The operations of the flash that fail. -/
structure Fault where
  begin : Bool
  putString : Bool
  remove : Bool
  deriving DecidableEq

namespace Nvs

/-- The text under the key. -/
def saved (nvs : Nvs) : Option String := nvs.space.getD none

/-- Opened for writing, the namespace exists. -/
def opened (nvs : Nvs) : Nvs := ⟨some nvs.saved⟩

/-- The number of bytes written. -/
def putString (fault : Fault) (text : String) (nvs : Nvs) : Nat × Nvs :=
  if fault.putString then (0, nvs) else (text.utf8ByteSize, ⟨some (some text)⟩)

def remove (fault : Fault) (nvs : Nvs) : Bool × Nvs :=
  if fault.remove then (false, nvs) else (true, ⟨some none⟩)

@[simp] theorem saved_opened (nvs : Nvs) : nvs.opened.saved = nvs.saved := rfl

end Nvs

namespace NvsDriverVarStore

open DriverVarStore

variable (json : ObjectJson)

def readJson (nvs : Nvs) : String := nvs.saved.getD ""

/-- Whether the values could be read, and the values. The namespace is missing until something is saved. -/
def load (nvs : Nvs) : Bool × Store String String :=
  match nvs.space with
  | none => (true, Store.empty)
  | some _ =>
      if readJson nvs = "" then (true, Store.empty)
      else match fromJson json (readJson nvs) with
        | none => (false, Store.empty)
        | some vars => (true, vars)

/-- The values a write starts from: data that cannot be read is dropped. -/
def current (nvs : Nvs) : Store String String := (fromJson json (readJson nvs)).getD Store.empty

def save (fault : Fault) (name value : String) (nvs : Nvs) : Bool × Nvs :=
  if fault.begin then (false, nvs)
  else
    let (written, nvs) := nvs.opened.putString fault (toJson json ((current json nvs).set name value))
    (decide (0 < written), nvs)

def erase (fault : Fault) (name : String) (nvs : Nvs) : Bool × Nvs :=
  if fault.begin then (false, nvs)
  else
    let vars := (current json nvs).remove name
    if vars.entries = [] then
      if nvs.saved.isSome then nvs.opened.remove fault else (true, nvs.opened)
    else if (current json nvs).hasKey name then
      let (written, nvs) := nvs.opened.putString fault (toJson json vars)
      (decide (0 < written), nvs)
    else (true, nvs.opened)

/-! ### What the operations keep -/

variable {json} {fault : Fault} {name value : String} {nvs : Nvs}

theorem readJson_congr {nvs nvs' : Nvs} (h : nvs.saved = nvs'.saved) : readJson nvs = readJson nvs' := by
  rw [readJson, readJson, h]

theorem current_congr {nvs nvs' : Nvs} (h : nvs.saved = nvs'.saved) : current json nvs = current json nvs' := by
  rw [current, current, readJson_congr h]

theorem load_values (h : json.Faithful) (nvs : Nvs) : (load json nvs).2 = current json nvs := by
  have hempty : readJson nvs = "" → current json nvs = Store.empty := by
    intro htext
    rw [current, htext, fromJson_empty h]
    rfl
  unfold load
  split
  · rename_i hspace
    refine (hempty ?_).symm
    rw [readJson, Nvs.saved, hspace]
    rfl
  · by_cases htext : readJson nvs = ""
    · rw [if_pos htext, hempty htext]
    · rw [if_neg htext, current]
      cases fromJson json (readJson nvs) with
      | none => rfl
      | some vars => rfl

theorem load_toJson (h : json.Faithful) (vars : Store String String) :
    load json ⟨some (some (toJson json vars))⟩ = (true, vars) := by
  have htext : readJson ⟨some (some (toJson json vars))⟩ = toJson json vars := rfl
  have hnonempty : toJson json vars ≠ "" := h.nonempty vars.entries
  unfold load
  dsimp only
  rw [htext, if_neg hnonempty, fromJson_toJson h]

theorem putString_toJson_of_ok {vars : Store String String} (h : 0 < (nvs.putString fault (toJson json vars)).1) :
    (nvs.putString fault (toJson json vars)).2 = ⟨some (some (toJson json vars))⟩ := by
  unfold Nvs.putString at h ⊢
  split
  · rename_i hfails
    rw [if_pos hfails] at h
    exact absurd h (Nat.lt_irrefl 0)
  · rfl

theorem putString_toJson_of_fails (hfaithful : json.Faithful) {vars : Store String String}
    (h : ¬ 0 < (nvs.putString fault (toJson json vars)).1) : (nvs.putString fault (toJson json vars)).2 = nvs := by
  unfold Nvs.putString at h ⊢
  split
  · rfl
  · rename_i hwritten
    rw [if_neg hwritten] at h
    have hsize := String.utf8ByteSize_eq_zero_iff.mp (Nat.eq_zero_of_not_pos h)
    exact absurd hsize (hfaithful.nonempty _)

theorem saved_save_of_fails (h : json.Faithful) (hfails : (save json fault name value nvs).1 = false) :
    (save json fault name value nvs).2.saved = nvs.saved := by
  unfold save at hfails ⊢
  split
  · rfl
  · rename_i hbegin
    rw [if_neg hbegin] at hfails
    dsimp only at hfails ⊢
    rw [putString_toJson_of_fails h (of_decide_eq_false hfails), Nvs.saved_opened]

theorem load_save (h : json.Faithful) (hok : (save json fault name value nvs).1 = true) :
    load json (save json fault name value nvs).2 = (true, (load json nvs).2.set name value) := by
  rw [load_values h]
  unfold save at hok ⊢
  split
  · rename_i hbegin
    rw [if_pos hbegin] at hok
    exact absurd hok Bool.false_ne_true
  · rename_i hbegin
    rw [if_neg hbegin] at hok
    dsimp only at hok ⊢
    rw [putString_toJson_of_ok (of_decide_eq_true hok), load_toJson h]

theorem saved_erase_of_fails (h : json.Faithful) (hfails : (erase json fault name nvs).1 = false) :
    (erase json fault name nvs).2.saved = nvs.saved := by
  unfold erase at hfails ⊢
  dsimp only at hfails ⊢
  by_cases hbegin : fault.begin = true
  · rw [if_pos hbegin]
  rw [if_neg hbegin] at hfails ⊢
  by_cases hlast : ((current json nvs).remove name).entries = []
  · rw [if_pos hlast] at hfails ⊢
    by_cases hkey : nvs.saved.isSome = true
    · rw [if_pos hkey] at hfails ⊢
      unfold Nvs.remove at hfails ⊢
      split
      · rfl
      · rename_i hremoved
        rw [if_neg hremoved] at hfails
        exact absurd hfails.symm Bool.false_ne_true
    · rw [if_neg hkey]
      rfl
  rw [if_neg hlast] at hfails ⊢
  by_cases hhas : (current json nvs).hasKey name = true
  · rw [if_pos hhas] at hfails ⊢
    rw [putString_toJson_of_fails h (of_decide_eq_false hfails), Nvs.saved_opened]
  · rw [if_neg hhas]
    rfl

/-- After an erase a load gives the values that were there without the erased one. -/
theorem load_erase (h : json.Faithful) (hok : (erase json fault name nvs).1 = true) :
    (load json (erase json fault name nvs).2).2 = (load json nvs).2.remove name := by
  rw [load_values h nvs]
  unfold erase at hok ⊢
  dsimp only at hok ⊢
  by_cases hbegin : fault.begin = true
  · rw [if_pos hbegin] at hok
    exact absurd hok Bool.false_ne_true
  rw [if_neg hbegin] at hok ⊢
  by_cases hlast : ((current json nvs).remove name).entries = []
  · have hnone : (current json nvs).remove name = Store.empty := Store.eq_of_entries hlast
    rw [if_pos hlast] at hok ⊢
    by_cases hkey : nvs.saved.isSome = true
    · rw [if_pos hkey] at hok ⊢
      unfold Nvs.remove at hok ⊢
      split
      · rename_i hfault
        rw [if_pos hfault] at hok
        exact absurd hok Bool.false_ne_true
      · rw [hnone]
        rfl
    · rw [if_neg hkey, hnone, load_values h, current, readJson, Nvs.saved_opened]
      have hmissing : nvs.saved = none := by simpa using hkey
      rw [hmissing]
      show (fromJson json "").getD Store.empty = Store.empty
      rw [fromJson_empty h]
      rfl
  rw [if_neg hlast] at hok ⊢
  by_cases hhas : (current json nvs).hasKey name = true
  · rw [if_pos hhas] at hok ⊢
    rw [putString_toJson_of_ok (of_decide_eq_true hok), load_toJson h]
  · rw [if_neg hhas, load_values h, current_congr (Nvs.saved_opened nvs)]
    exact (Store.remove_of_not_hasKey hhas).symm

end NvsDriverVarStore

end EspNut
