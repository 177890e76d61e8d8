import EspNut.Lib.Window
import EspNut.Server.Protocol
import Mathlib.Data.List.Pairwise

/-!
# LIST VAR and GET VAR

`LIST VAR` prints the keys of the data as they are, while `GET VAR` looks its name up in lower case. Both put custom values, the aliases of the identity and the parameters of the driver in between on their own. They agree exactly when the keys of the data are in lower case.
-/

namespace EspNut.NUTServer

open Lib

/-- `LIST VAR` has each variable once, ignoring case, and `GET VAR` answers its name as it is printed there with the same value; other names are refused. -/
structure Agree (config : NUTServerConfig) (env : Env) (ups : UpsSource) (upsName : String) : Prop where
  reply : listVar config env ["LIST", "VAR", upsName]
    = ["BEGIN LIST VAR " ++ upsName ++ "\n"] ++ (listedVars ups env.overrides).map (varLine upsName)
      ++ ["END LIST VAR " ++ upsName ++ "\n"]
  once : (listedVars ups env.overrides).Pairwise fun a b => Text.lower a.1 ≠ Text.lower b.1
  answered : ∀ row ∈ listedVars ups env.overrides,
    getVar config env ["GET", "VAR", upsName, row.1] = [varLine upsName row]
  refused : ∀ name, (∀ row ∈ listedVars ups env.overrides, Text.lower row.1 ≠ Text.lower name) →
    getVar config env ["GET", "VAR", upsName, name] = ["ERR VAR-NOT-SUPPORTED\n"]

/-- The keys of the data are unique ignoring case, and none is a name that the server makes itself. -/
structure StoreKeys (ups : UpsSource) : Prop where
  unique : ups.upsData.getAll.Pairwise fun a b => Text.lower a.1 ≠ Text.lower b.1
  notStatus : ∀ param ∈ ups.upsData.getAll, param.1 ≠ "ups.status"
  notType : ∀ param ∈ ups.upsData.getAll, param.1 ≠ "device.type"
  notAlias : ∀ param ∈ ups.upsData.getAll, deviceAliasSource param.1 = none
  notParameter : ∀ param ∈ ups.upsData.getAll, Text.startsWith param.1 "driver.parameter." = false

def KeysLower (ups : UpsSource) : Prop :=
  ∀ param ∈ ups.upsData.getAll, isInternalStatusKey param.1 = false → Text.lower param.1 = param.1

instance (ups : UpsSource) : Decidable (KeysLower ups) := inferInstanceAs (Decidable (∀ param ∈ ups.upsData.getAll, _))

variable {config : NUTServerConfig} {env : Env} {ups : UpsSource} {overrides : Option (List NutOverride)} {var : String}

/-! ### The rows of a listing -/

def deviceRows (ups : UpsSource) (overrides : Option (List NutOverride)) : List (String × String) :=
  deviceAliases.filterMap fun a => (resolveVar ups overrides a.1).map fun value => (a.1, value)

/-- A variable of the data, with the custom name and value in its place. -/
def dataRow (overrides : Option (List NutOverride)) (param : String × String) : String × String :=
  match NutOverrides.find overrides param.1 with
  | some o => (o.key, o.value)
  | none => param

def dataRows (ups : UpsSource) (overrides : Option (List NutOverride)) : List (String × String) :=
  (ups.upsData.getAll.filter fun param => !isInternalStatusKey param.1).map (dataRow overrides)

def customRow (o : NutOverride) : String × String := (o.key, o.value)

/-- The UPS has the variable, or an alias of the identity is listed under it. -/
def isReported (ups : UpsSource) (key : String) : Bool :=
  ups.upsData.hasKey (Text.lower key) || (deviceAliasSource (Text.lower key)).isSome

def customRows (ups : UpsSource) (overrides : Option (List NutOverride)) : List (String × String) :=
  ((overrides.getD []).filter fun o => !isReported ups o.key).map customRow

def parameterRow (o : NutOverride) : String × String := (overrideParamPrefix ++ o.key, o.value)

theorem listedVars_eq (ups : UpsSource) (overrides : Option (List NutOverride)) :
    listedVars ups overrides
      = [("ups.status", ups.upsStatusString), ("device.type", "ups")] ++ deviceRows ups overrides
        ++ dataRows ups overrides ++ customRows ups overrides ++ (overrides.getD []).map parameterRow := rfl

theorem mem_listedVars {row : String × String} :
    row ∈ listedVars ups overrides ↔ row = ("ups.status", ups.upsStatusString) ∨ row = ("device.type", "ups")
      ∨ row ∈ deviceRows ups overrides ∨ row ∈ dataRows ups overrides ∨ row ∈ customRows ups overrides
      ∨ row ∈ (overrides.getD []).map parameterRow := by
  rw [listedVars_eq]
  simp only [List.mem_append, List.mem_cons, List.not_mem_nil, or_false, or_assoc]

theorem mem_dataRows {row : String × String} :
    row ∈ dataRows ups overrides ↔ ∃ param ∈ ups.upsData.getAll, isInternalStatusKey param.1 = false
      ∧ dataRow overrides param = row := by
  unfold dataRows
  simp only [List.mem_map, List.mem_filter, Bool.not_eq_true', and_assoc]

theorem mem_customRows {row : String × String} :
    row ∈ customRows ups overrides ↔ ∃ o ∈ overrides.getD [], isReported ups o.key = false ∧ customRow o = row := by
  unfold customRows
  simp only [List.mem_map, List.mem_filter, Bool.not_eq_true', and_assoc]

theorem lower_dataRow (overrides : Option (List NutOverride)) (param : String × String) :
    Text.lower (dataRow overrides param).1 = Text.lower param.1 := by
  unfold dataRow
  cases hfind : NutOverrides.find overrides param.1 with
  | none => rfl
  | some o => exact (NutOverrides.lower_of_find hfind).2

theorem lower_parameterRow (o : NutOverride) :
    Text.lower (parameterRow o).1 = overrideParamPrefix ++ Text.lower o.key := by
  have hprefix : Text.lower overrideParamPrefix = overrideParamPrefix := by decide
  show Text.lower (overrideParamPrefix ++ o.key) = _
  rw [Text.lower_append, hprefix]

theorem mem_deviceRows {row : String × String} (h : row ∈ deviceRows ups overrides) :
    ∃ source, deviceAliasSource row.1 = some source ∧ resolveVar ups overrides row.1 = some row.2
      ∧ Text.lower row.1 = row.1 := by
  obtain ⟨a, ha, hrow⟩ := List.mem_filterMap.mp h
  obtain ⟨value, hvalue, rfl⟩ := Option.map_eq_some_iff.mp hrow
  have haliases : ∀ a ∈ deviceAliases, deviceAliasSource a.1 = some a.2 ∧ Text.lower a.1 = a.1 := by decide
  exact ⟨a.2, (haliases a ha).1, hvalue, (haliases a ha).2⟩

theorem mem_deviceRows_of_resolve {source value : String} (halias : deviceAliasSource var = some source)
    (h : resolveVar ups overrides var = some value) : (var, value) ∈ deviceRows ups overrides := by
  unfold deviceAliasSource at halias
  obtain ⟨a, hfind, -⟩ := Option.map_eq_some_iff.mp halias
  have hname : var = a.1 := by simpa using List.find?_some hfind
  refine List.mem_filterMap.mpr ⟨a, List.mem_of_find?_eq_some hfind, ?_⟩
  rw [← hname, h]
  rfl

/-! ### Names the server looks up -/

/-- A name that is neither internal nor made by the server itself. -/
structure Plain (var : String) : Prop where
  internal : isInternalStatusKey var = false
  status : var ≠ "ups.status"
  type : var ≠ "device.type"
  parameter : Text.startsWith var overrideParamPrefix = false

theorem not_startsWith_parameter (h : Text.startsWith var "driver.parameter." = false) :
    Text.startsWith var overrideParamPrefix = false := by
  by_contra hstarts
  obtain ⟨rest, hrest⟩ := (Text.startsWith_iff _ _).mp (Bool.not_eq_false _ ▸ hstarts)
  have hparameter := (Text.startsWith_iff var "driver.parameter.").mpr ⟨"override.".toList ++ rest, by rw [hrest]; rfl⟩
  rw [h] at hparameter
  cases hparameter

theorem resolveVar_plain (h : Plain var) :
    resolveVar ups overrides var
      = ((NutOverrides.find overrides var).map NutOverride.value).or
          ((deviceAliasSource var).elim (ups.upsData.find var) fun source =>
            ((NutOverrides.find overrides source).map NutOverride.value).or (ups.upsData.find source)) := by
  unfold resolveVar
  rw [if_neg (by simp [h.internal]), if_neg h.status, if_neg h.type, if_neg (by simp [h.parameter])]
  cases NutOverrides.find overrides var with
  | some o => rfl
  | none =>
      cases deviceAliasSource var with
      | none => rfl
      | some source =>
          rw [Option.elim_some]
          dsimp only
          cases NutOverrides.find overrides source <;> rfl

theorem startsWith_parameterPrefix (key : String) :
    Text.startsWith (overrideParamPrefix ++ key) overrideParamPrefix = true :=
  (Text.startsWith_iff _ _).mpr ⟨key.toList, String.toList_append⟩

theorem parameter_ne (key : String) :
    overrideParamPrefix ++ key ≠ "ups.status" ∧ overrideParamPrefix ++ key ≠ "device.type" := by
  constructor
  · intro h
    have hfirst := congrArg (fun text => text.toList[0]?) h
    simp only [String.toList_append] at hfirst
    have hletter : some 'd' = some 'u' := hfirst
    exact absurd hletter (by decide)
  · intro h
    have hsecond := congrArg (fun text => text.toList[1]?) h
    simp only [String.toList_append] at hsecond
    have hletter : some 'r' = some 'e' := hsecond
    exact absurd hletter (by decide)

theorem resolveVar_parameter (key : String) :
    resolveVar ups overrides (overrideParamPrefix ++ key) = (NutOverrides.find overrides key).map NutOverride.value := by
  obtain ⟨hstatus, htype⟩ := parameter_ne key
  have hinternal : ¬ isInternalStatusKey (overrideParamPrefix ++ key) = true := by
    intro h
    obtain ⟨rest, hrest⟩ := (Text.startsWith_iff _ _).mp h
    have hfirst := congrArg (fun letters => letters[0]?) hrest
    simp only [String.toList_append] at hfirst
    have hletter : some 'd' = some 'u' := hfirst
    exact absurd hletter (by decide)
  have hrest : String.ofList ((overrideParamPrefix ++ key).toList.drop overrideParamPrefix.toList.length) = key := by
    rw [String.toList_append, List.drop_left, String.ofList_toList]
  unfold resolveVar
  rw [if_neg hinternal, if_neg hstatus, if_neg htype, if_pos (startsWith_parameterPrefix key), hrest]

/-- Custom variables have names the server looks up. -/
theorem plain_of_accepted {key : String} (h : NutOverrides.isProtectedKey key = false) : Plain (Text.lower key) := by
  unfold NutOverrides.isProtectedKey NutOverrides.startsWithIgnoreCase at h
  have hstatus : Text.lower "ups.status" = "ups.status" := by decide
  have hinternal : Text.lower "ups.status." = "ups.status." := by decide
  have htype : Text.lower "device.type" = "device.type" := by decide
  have hparameter : Text.lower "driver.parameter." = "driver.parameter." := by decide
  rw [hinternal, hparameter] at h
  simp only [Bool.or_eq_false_iff] at h
  obtain ⟨⟨⟨hnotStatus, hnotInternal⟩, hnotType⟩, hnotParameter⟩ := h
  refine ⟨hnotInternal, ?_, ?_, not_startsWith_parameter hnotParameter⟩
  · intro heq
    have hsame := (NutOverrides.equalsIgnoreCase_iff key "ups.status").mpr (heq.trans hstatus.symm)
    rw [hnotStatus] at hsame
    cases hsame
  · intro heq
    have hsame := (NutOverrides.equalsIgnoreCase_iff key "device.type").mpr (heq.trans htype.symm)
    rw [hnotType] at hsame
    cases hsame

/-- Which part of a listing a name belongs to. -/
def origin (ups : UpsSource) (name : String) : Nat :=
  if name = "ups.status" ∨ name = "device.type" then 0
  else if Text.startsWith name overrideParamPrefix then 4
  else if (deviceAliasSource name).isSome then 1
  else if ups.upsData.hasKey name then 2
  else 3

theorem origin_plain (h : Plain var) :
    origin ups var = if (deviceAliasSource var).isSome then 1 else if ups.upsData.hasKey var then 2 else 3 := by
  unfold origin
  rw [if_neg (not_or.mpr ⟨h.status, h.type⟩), if_neg (by simp [h.parameter])]

theorem origin_server {row : String × String} (hrow : row ∈ [("ups.status", ups.upsStatusString), ("device.type", "ups")]) :
    origin ups (Text.lower row.1) = 0 := by
  have hstatus : Text.lower "ups.status" = "ups.status" := by decide
  have htype : Text.lower "device.type" = "device.type" := by decide
  rcases List.mem_cons.mp hrow with rfl | hrow
  · exact if_pos (Or.inl hstatus)
  · obtain rfl := List.mem_singleton.mp hrow
    exact if_pos (Or.inr htype)

theorem origin_deviceRows {row : String × String} (hrow : row ∈ deviceRows ups overrides) :
    origin ups (Text.lower row.1) = 1 := by
  obtain ⟨a, ha, hmap⟩ := List.mem_filterMap.mp hrow
  obtain ⟨value, -, rfl⟩ := Option.map_eq_some_iff.mp hmap
  have haliases : ∀ a ∈ deviceAliases, Text.lower a.1 = a.1 ∧ ¬ (a.1 = "ups.status" ∨ a.1 = "device.type")
      ∧ Text.startsWith a.1 overrideParamPrefix = false ∧ (deviceAliasSource a.1).isSome = true := by decide
  obtain ⟨hname, hserver, hparameter, halias⟩ := haliases a ha
  show origin ups (Text.lower a.1) = 1
  unfold origin
  rw [hname, if_neg hserver, if_neg (by simp [hparameter]), if_pos halias]

theorem origin_parameterRow (o : NutOverride) : origin ups (Text.lower (parameterRow o).1) = 4 := by
  obtain ⟨hstatus, htype⟩ := parameter_ne (Text.lower o.key)
  unfold origin
  rw [lower_parameterRow, if_neg (not_or.mpr ⟨hstatus, htype⟩), if_pos (startsWith_parameterPrefix _)]

/-- Rows of the first parts of a listing, with each name once. -/
def OnceBelow (ups : UpsSource) (k : Nat) (rows : List (String × String)) : Prop :=
  (rows.Pairwise fun a b => Text.lower a.1 ≠ Text.lower b.1) ∧ ∀ row ∈ rows, origin ups (Text.lower row.1) < k

theorem OnceBelow.append {rows part : List (String × String)} {k : Nat} (h : OnceBelow ups k rows)
    (hpart : part.Pairwise fun a b => Text.lower a.1 ≠ Text.lower b.1)
    (horigin : ∀ row ∈ part, origin ups (Text.lower row.1) = k) : OnceBelow ups (k + 1) (rows ++ part) := by
  refine ⟨List.pairwise_append.mpr ⟨h.1, hpart, ?_⟩, List.forall_mem_append.mpr ⟨?_, ?_⟩⟩
  · intro a ha b hb heq
    have hbelow := h.2 a ha
    rw [heq, horigin b hb] at hbelow
    exact Nat.lt_irrefl k hbelow
  · exact fun row hrow => Nat.lt_succ_of_lt (h.2 row hrow)
  · exact fun row hrow => Nat.lt_succ_of_le (Nat.le_of_eq (horigin row hrow))

/-! ### Accepted custom variables -/

/-- The custom variables of the server were accepted. -/
def Accepted (overrides : Option (List NutOverride)) : Prop := (NutOverrides.checkList (overrides.getD [])).1 = .ok

instance (overrides : Option (List NutOverride)) : Decidable (Accepted overrides) := inferInstanceAs (Decidable (_ = _))

theorem Accepted.plain (h : Accepted overrides) {o : NutOverride} (ho : o ∈ overrides.getD []) : Plain (Text.lower o.key) :=
  plain_of_accepted (NutOverrides.isProtectedKey_of_ok ((NutOverrides.checkList_ok h).1 o ho))

theorem Accepted.find (h : Accepted overrides) {o : NutOverride} (ho : o ∈ overrides.getD []) {name : String}
    (hname : Text.lower o.key = Text.lower name) : NutOverrides.find overrides name = some o := by
  refine Window.find?_of_unique ho ((NutOverrides.equalsIgnoreCase_iff _ _).mpr hname) ?_
  intro other hother hsame
  by_contra hne
  have hsymm : Std.Symm fun a b : NutOverride => Text.lower a.key ≠ Text.lower b.key := ⟨fun _ _ h heq => h heq.symm⟩
  exact (NutOverrides.checkList_ok h).2.forall hother ho hne
    (((NutOverrides.equalsIgnoreCase_iff _ _).mp hsame).trans hname.symm)

theorem origin_customRows (h : Accepted overrides) {row : String × String} (hrow : row ∈ customRows ups overrides) :
    origin ups (Text.lower row.1) = 3 := by
  obtain ⟨o, ho, hreported, rfl⟩ := mem_customRows.mp hrow
  unfold isReported at hreported
  obtain ⟨hkey, halias⟩ := Bool.or_eq_false_iff.mp hreported
  show origin ups (Text.lower o.key) = 3
  rw [origin_plain (h.plain ho), if_neg (by simp [halias]), if_neg (by simp [hkey])]

/-! ### Where the keys are in lower case -/

section

variable (haccepted : Accepted overrides) (hkeys : StoreKeys ups) (hlower : KeysLower ups)

/-- A listed variable of the data has a name that the server looks up. -/
theorem StoreKeys.plain (hkeys : StoreKeys ups) {param : String × String} (hparam : param ∈ ups.upsData.getAll)
    (hinternal : isInternalStatusKey param.1 = false) : Plain param.1 :=
  ⟨hinternal, hkeys.notStatus param hparam, hkeys.notType param hparam,
    not_startsWith_parameter (hkeys.notParameter param hparam)⟩

include haccepted hkeys hlower

theorem resolveVar_of_listed {row : String × String} (hrow : row ∈ listedVars ups overrides) :
    resolveVar ups overrides (Text.lower row.1) = some row.2 := by
  rcases mem_listedVars.mp hrow with rfl | rfl | hdevice | hdata | hcustom | hparameter
  · have hname : Text.lower "ups.status" = "ups.status" := by decide
    rw [hname]
    rfl
  · have hname : Text.lower "device.type" = "device.type" := by decide
    rw [hname]
    rfl
  · obtain ⟨source, -, hvalue, hname⟩ := mem_deviceRows hdevice
    rw [hname, hvalue]
  · obtain ⟨param, hparam, hinternal, rfl⟩ := mem_dataRows.mp hdata
    rw [lower_dataRow, hlower param hparam hinternal, resolveVar_plain (hkeys.plain hparam hinternal)]
    unfold dataRow
    cases NutOverrides.find overrides param.1 with
    | some o => rfl
    | none =>
        rw [hkeys.notAlias param hparam]
        exact (Store.mem_entries_iff _ _ _).mp hparam
  · obtain ⟨o, ho, -, rfl⟩ := mem_customRows.mp hcustom
    have hfind := haccepted.find ho (Text.lower_lower o.key).symm
    show resolveVar ups overrides (Text.lower o.key) = some o.value
    rw [resolveVar_plain (haccepted.plain ho), hfind]
    rfl
  · obtain ⟨o, ho, rfl⟩ := List.mem_map.mp hparameter
    rw [lower_parameterRow, resolveVar_parameter, haccepted.find ho (Text.lower_lower o.key).symm]
    rfl

omit haccepted in
theorem origin_dataRows {row : String × String} (hrow : row ∈ dataRows ups overrides) : origin ups (Text.lower row.1) = 2 := by
  obtain ⟨param, hparam, hinternal, rfl⟩ := mem_dataRows.mp hrow
  have hfind : ups.upsData.find param.1 = some param.2 := (Store.mem_entries_iff _ _ _).mp hparam
  rw [lower_dataRow, hlower param hparam hinternal, origin_plain (hkeys.plain hparam hinternal),
    hkeys.notAlias param hparam]
  unfold UPSData.hasKey
  rw [hfind]
  rfl

/-- No name is listed twice. -/
theorem listed_once : (listedVars ups overrides).Pairwise fun a b => Text.lower a.1 ≠ Text.lower b.1 := by
  have hdistinct := (NutOverrides.checkList_ok haccepted).2
  have hserver : [("ups.status", ups.upsStatusString), ("device.type", "ups")].Pairwise
      fun a b => Text.lower a.1 ≠ Text.lower b.1 := by
    refine List.pairwise_pair.mpr ?_
    show Text.lower "ups.status" ≠ Text.lower "device.type"
    decide
  have hdevice : (deviceRows ups overrides).Pairwise fun a b => Text.lower a.1 ≠ Text.lower b.1 := by
    have haliases : deviceAliases.Pairwise fun a b => Text.lower a.1 ≠ Text.lower b.1 := by decide
    refine haliases.filterMap _ fun a b hne row hrow row' hrow' => ?_
    obtain ⟨_, -, rfl⟩ := Option.map_eq_some_iff.mp hrow
    obtain ⟨_, -, rfl⟩ := Option.map_eq_some_iff.mp hrow'
    exact hne
  have hdata : (dataRows ups overrides).Pairwise fun a b => Text.lower a.1 ≠ Text.lower b.1 := by
    refine (hkeys.unique.filter _).map _ fun a b hne => ?_
    rw [lower_dataRow, lower_dataRow]
    exact hne
  have hcustom : (customRows ups overrides).Pairwise fun a b => Text.lower a.1 ≠ Text.lower b.1 :=
    (hdistinct.filter _).map _ fun _ _ hne => hne
  have hparameter : ((overrides.getD []).map parameterRow).Pairwise fun a b => Text.lower a.1 ≠ Text.lower b.1 := by
    refine hdistinct.map _ fun a b hne heq => hne ?_
    rw [lower_parameterRow, lower_parameterRow] at heq
    exact (String.append_right_inj _).mp heq
  have hfirst : OnceBelow ups 1 [("ups.status", ups.upsStatusString), ("device.type", "ups")] :=
    ⟨hserver, fun row hrow => Nat.lt_succ_of_le (Nat.le_of_eq (origin_server hrow))⟩
  have hlisted := (((hfirst.append hdevice fun _ => origin_deviceRows).append hdata fun _ =>
    origin_dataRows hkeys hlower).append hcustom fun _ => origin_customRows haccepted).append hparameter
    fun row hrow => by
      obtain ⟨o, -, rfl⟩ := List.mem_map.mp hrow
      exact origin_parameterRow o
  exact hlisted.1

end

/-! ### What is answered is listed -/

theorem internal_of_resolveVar {value : String} (h : resolveVar ups overrides var = some value) :
    isInternalStatusKey var = false := by
  unfold resolveVar at h
  split at h
  · cases h
  · rename_i hinternal
    exact Bool.not_eq_true _ ▸ hinternal

/-- A name that is answered without being a key of the data is listed beside the data. -/
theorem listed_beside_data {value : String} (hvar : Text.lower var = var) (hdata : ups.upsData.find var = none)
    (h : resolveVar ups overrides var = some value) :
    ∃ row, (row ∈ [("ups.status", ups.upsStatusString), ("device.type", "ups")] ∨ row ∈ deviceRows ups overrides
      ∨ row ∈ customRows ups overrides ∨ row ∈ (overrides.getD []).map parameterRow) ∧ Text.lower row.1 = var := by
  by_cases hstatus : var = "ups.status"
  · exact ⟨_, Or.inl List.mem_cons_self, hstatus ▸ hvar⟩
  by_cases htype : var = "device.type"
  · exact ⟨_, Or.inl (List.mem_cons_of_mem _ (List.mem_singleton_self _)), htype ▸ hvar⟩
  by_cases hparameter : Text.startsWith var overrideParamPrefix = true
  · obtain ⟨rest, hrest⟩ := (Text.startsWith_iff _ _).mp hparameter
    have hsplit : var = overrideParamPrefix ++ String.ofList rest :=
      String.toList_injective (by rw [hrest, String.toList_append, String.toList_ofList])
    rw [hsplit, resolveVar_parameter] at h
    obtain ⟨o, hfind, -⟩ := Option.map_eq_some_iff.mp h
    obtain ⟨ho, hkey⟩ := NutOverrides.lower_of_find hfind
    refine ⟨parameterRow o, Or.inr (Or.inr (Or.inr (List.mem_map_of_mem ho))), ?_⟩
    have hprefix : Text.lower overrideParamPrefix = overrideParamPrefix := by decide
    rw [lower_parameterRow, hkey, ← hvar, hsplit, Text.lower_append, hprefix]
  have hplain : Plain var := ⟨internal_of_resolveVar h, hstatus, htype, Bool.not_eq_true _ ▸ hparameter⟩
  cases halias : deviceAliasSource var with
  | some source =>
      exact ⟨_, Or.inr (Or.inl (mem_deviceRows_of_resolve halias h)), hvar⟩
  | none =>
      rw [resolveVar_plain hplain, halias, Option.elim_none, hdata, Option.or_none] at h
      obtain ⟨o, hcustom, -⟩ := Option.map_eq_some_iff.mp h
      obtain ⟨ho, hkey⟩ := NutOverrides.lower_of_find hcustom
      refine ⟨customRow o, Or.inr (Or.inr (Or.inl (mem_customRows.mpr ⟨o, ho, ?_, rfl⟩))), hkey.trans hvar⟩
      unfold isReported UPSData.hasKey
      rw [hkey, hvar, hdata, halias]
      rfl

theorem listed_of_resolveVar {value : String} (hvar : Text.lower var = var) (h : resolveVar ups overrides var = some value) :
    ∃ row ∈ listedVars ups overrides, Text.lower row.1 = var := by
  cases hdata : ups.upsData.find var with
  | some v =>
      have hrow : dataRow overrides (var, v) ∈ dataRows ups overrides :=
        mem_dataRows.mpr ⟨(var, v), (Store.mem_entries_iff _ _ _).mpr hdata, internal_of_resolveVar h, rfl⟩
      exact ⟨_, mem_listedVars.mpr (Or.inr (Or.inr (Or.inr (Or.inl hrow)))), (lower_dataRow overrides (var, v)).trans hvar⟩
  | none =>
      obtain ⟨row, hrow, hname⟩ := listed_beside_data hvar hdata h
      refine ⟨row, ?_, hname⟩
      rw [listedVars_eq]
      simp only [List.mem_append]
      rcases hrow with hserver | hdevice | hcustom | hparameter
      · exact Or.inl (Or.inl (Or.inl (Or.inl hserver)))
      · exact Or.inl (Or.inl (Or.inl (Or.inr hdevice)))
      · exact Or.inl (Or.inr hcustom)
      · exact Or.inr hparameter

/-! ### The two replies -/

theorem getVar_eq (henv : env.ups = some ups) (hfresh : ups.isDataStale = false) {upsName : String}
    (hown : isOwnUps config upsName = true) (name : String) :
    getVar config env ["GET", "VAR", upsName, name]
      = (resolveVar ups env.overrides (Text.lower name)).elim ["ERR VAR-NOT-SUPPORTED\n"] fun value =>
          [varLine upsName (name, value)] := by
  show (if isOwnUps config upsName = false then _ else _) = _
  rw [hown, if_neg (by simp), henv]
  show (if ups.isDataStale = true then _ else _) = _
  have hname : ["GET", "VAR", upsName, name].getD 3 "" = name := rfl
  rw [hfresh, if_neg (by simp), hname]
  cases resolveVar ups env.overrides (Text.lower name) <;> rfl

theorem varLine_ne (upsName : String) (row : String × String) : [varLine upsName row] ≠ ["ERR VAR-NOT-SUPPORTED\n"] := by
  intro h
  have hfirst := congrArg (fun text => text.toList[0]?) (List.cons.inj h).1
  unfold varLine at hfirst
  simp only [String.toList_append] at hfirst
  have hletter : some 'V' = some 'E' := hfirst
  exact absurd hletter (by decide)

/-- The listing of a key that is not in lower case names a variable that is refused, or one that is listed again. -/
theorem keysLower_of_agree (henv : env.ups = some ups) (hfresh : ups.isDataStale = false) {upsName : String}
    (hown : isOwnUps config upsName = true) (hkeys : StoreKeys ups) (h : Agree config env ups upsName) : KeysLower ups := by
  intro param hparam hinternal
  by_contra hcapital
  have hdata : ups.upsData.find (Text.lower param.1) = none := by
    by_contra hfound
    obtain ⟨v, hv⟩ := Option.ne_none_iff_exists'.mp hfound
    have hother : (Text.lower param.1, v) ∈ ups.upsData.getAll := (Store.mem_entries_iff _ _ _).mpr hv
    have hsymm : Std.Symm fun a b : String × String => Text.lower a.1 ≠ Text.lower b.1 := ⟨fun _ _ h heq => h heq.symm⟩
    refine hkeys.unique.forall hother hparam ?_ (Text.lower_lower param.1)
    exact fun heq => hcapital (congrArg Prod.fst heq)
  have hrow : dataRow env.overrides param ∈ dataRows ups env.overrides := mem_dataRows.mpr ⟨param, hparam, hinternal, rfl⟩
  have hname := lower_dataRow env.overrides param
  have hanswer := h.answered _ (mem_listedVars.mpr (Or.inr (Or.inr (Or.inr (Or.inl hrow)))))
  rw [getVar_eq henv hfresh hown, hname] at hanswer
  cases hresolve : resolveVar ups env.overrides (Text.lower param.1) with
  | none =>
      rw [hresolve] at hanswer
      exact varLine_ne upsName _ hanswer.symm
  | some value =>
      obtain ⟨row, hbeside, hsame⟩ := listed_beside_data (Text.lower_lower param.1) hdata hresolve
      have honce := h.once
      rw [listedVars_eq] at honce
      obtain ⟨hfour, -, hparameters⟩ := List.pairwise_append.mp honce
      obtain ⟨hthree, -, hcustoms⟩ := List.pairwise_append.mp hfour
      obtain ⟨-, -, hfirst⟩ := List.pairwise_append.mp hthree
      rcases hbeside with hserver | hdevice | hcustom | hparameter
      · exact hfirst row (List.mem_append_left _ hserver) _ hrow (hsame.trans hname.symm)
      · exact hfirst row (List.mem_append_right _ hdevice) _ hrow (hsame.trans hname.symm)
      · exact hcustoms _ (List.mem_append_right _ hrow) row hcustom (hname.trans hsame.symm)
      · exact hparameters _ (List.mem_append_left _ (List.mem_append_right _ hrow)) row hparameter (hname.trans hsame.symm)

/-- `LIST VAR` and `GET VAR` agree exactly when the listed keys of the data are in lower case. -/
theorem listing_agrees_iff (config : NUTServerConfig) (env : Env) (henv : env.ups = some ups)
    (hfresh : ups.isDataStale = false) {upsName : String} (hown : isOwnUps config upsName = true)
    (haccepted : Accepted env.overrides) (hkeys : StoreKeys ups) : Agree config env ups upsName ↔ KeysLower ups := by
  refine ⟨keysLower_of_agree henv hfresh hown hkeys, fun hlower => ⟨?_, ?_, ?_, ?_⟩⟩
  · show (if isOwnUps config upsName = false then _ else _) = _
    have hnot : isStale env = false := by
      unfold isStale
      rw [henv]
      exact hfresh
    rw [hown, if_neg (by simp), hnot, if_neg (by simp), henv]
    rfl
  · exact listed_once haccepted hkeys hlower
  · intro row hrow
    rw [getVar_eq henv hfresh hown, resolveVar_of_listed haccepted hkeys hlower hrow]
    rfl
  · intro name hother
    rw [getVar_eq henv hfresh hown]
    cases hresolve : resolveVar ups env.overrides (Text.lower name) with
    | none => rfl
    | some value =>
        obtain ⟨row, hrow, hname⟩ := listed_of_resolveVar (Text.lower_lower name) hresolve
        exact absurd hname (hother row hrow)

/-! ### A three-phase UPS -/

/-- A UPS that reports its model and the power of a phase. -/
def phaseSource (key : String) : UpsSource :=
  { isConnected := true
    isDataStale := false
    upsData := (UPSData.empty.set "ups.model" "Pulsar").set key "100"
    upsStatusString := "OL"
    writableVariables := []
    supportedCommands := []
    executeCommand := fun _ _ => .notSupported
    setVariable := fun _ _ => .ok }

/-- Custom values for a variable the UPS reports and for one it does not. -/
def phaseEnv (key : String) : Env :=
  { ups := some (phaseSource key)
    overrides := some [⟨"UPS.Model", "Pulsar 1500", ""⟩, ⟨"battery.date", "2024/01/31", ""⟩]
    now := 0
    random := []
    firmwareVersion := "1" }

def phaseConfig : NUTServerConfig := ⟨"", "", "ups"⟩

theorem storeKeys_phaseSource {key : String} (hkey : key = "ups.l1.power" ∨ key = "ups.L1.power") :
    StoreKeys (phaseSource key) := by
  rcases hkey with rfl | rfl <;> exact ⟨by decide, by decide, by decide, by decide, by decide⟩

theorem listing_agrees_iff_phase :
    Agree phaseConfig (phaseEnv "ups.l1.power") (phaseSource "ups.l1.power") "UPS" :=
  (listing_agrees_iff phaseConfig (phaseEnv "ups.l1.power") rfl rfl (by decide) (by decide +kernel)
    (storeKeys_phaseSource (Or.inl rfl))).mpr (by decide)

/-- The power of a phase is listed under a name with a capital letter, and refused under that name. -/
theorem capital_key_is_refused :
    Accepted (phaseEnv "ups.L1.power").overrides ∧ StoreKeys (phaseSource "ups.L1.power")
      ∧ ("ups.L1.power", "100") ∈ listedVars (phaseSource "ups.L1.power") (phaseEnv "ups.L1.power").overrides
      ∧ getVar phaseConfig (phaseEnv "ups.L1.power") ["GET", "VAR", "UPS", "ups.L1.power"] = ["ERR VAR-NOT-SUPPORTED\n"]
      ∧ ¬ Agree phaseConfig (phaseEnv "ups.L1.power") (phaseSource "ups.L1.power") "UPS" := by
  have hlisted : ("ups.L1.power", "100") ∈ listedVars (phaseSource "ups.L1.power") (phaseEnv "ups.L1.power").overrides := by
    decide +kernel
  have hrefused : getVar phaseConfig (phaseEnv "ups.L1.power") ["GET", "VAR", "UPS", "ups.L1.power"]
      = ["ERR VAR-NOT-SUPPORTED\n"] := by
    decide +kernel
  refine ⟨by decide +kernel, storeKeys_phaseSource (Or.inr rfl), hlisted, hrefused, ?_⟩
  intro h
  have hanswer := h.answered _ hlisted
  rw [hrefused] at hanswer
  exact varLine_ne "UPS" _ hanswer.symm

end EspNut.NUTServer
