import EspNut.Driver.PlainData
import Mathlib.Data.List.DropRight

/-!
# Runs with clean string descriptors

The values of the host, of the brands and of the clients are plain. A string descriptor is clean when its control characters are all in the line ends it ends with, as far as the poll keeps it. In a run whose string descriptors are clean where they are used, every key and value of the data is plain.
-/

namespace EspNut.GenericDriver

open Lib Rounding NutTable Text

variable {data : UPSData} {key value name : String} {sub : Subdriver} {s s' : State}

/-! ### Values of the host and the brands -/

theorem PlainData.setChanged (h : PlainData data) (hkey : Plain key) (hvalue : Plain value) :
    PlainData (setChanged key value data) := h.ite (h.set hkey hvalue)

theorem plain_driverName (brand : Brand) : Plain (driverName brand) := by
  cases brand <;> decide

theorem plain_beeperText (brand : Brand) (v : ℚ) (bitSize : Nat) : ∀ text ∈ beeperText brand v bitSize, Plain text := by
  have henabled : Plain "enabled" := by decide
  have hdisabled : Plain "disabled" := by decide
  unfold beeperText
  split
  · apply plain_some
    split
    · exact henabled
    · exact hdisabled
  split
  · split
    · exact plain_some henabled
    split
    · exact plain_some hdisabled
    · exact plain_none
  split
  · exact plain_some hdisabled
  split
  · exact plain_some henabled
  split
  · exact plain_some (by decide)
  · exact plain_none

theorem PlainData.decodeBeeperStatus (h : PlainData data) (brand : Brand) (v : ℚ) (bitSize : Nat) :
    PlainData (decodeBeeperStatus brand v bitSize data) := by
  unfold GenericDriver.decodeBeeperStatus
  split
  · exact h
  · rename_i htext
    exact h.ite (h.set (by decide) (plain_beeperText brand v bitSize _ htext))

theorem PlainData.applyDefaultDelays (h : PlainData data) (usages : List HIDUsageDef) (offDelay onDelay : Int)
    (delayVars : Bool) (paths : Option DelayPaths) (saved : Store String String) :
    PlainData (applyDefaultDelays data usages offDelay onDelay delayVars paths saved) := by
  unfold NutTable.applyDefaultDelays
  split
  · exact h
  split
  · exact h
  · have hset : ∀ {data : UPSData} {key : String} {has : Bool} {delay : Int}, PlainData data → Plain key →
        PlainData (if has then data.set key (toString delay) else data) :=
      fun hdata hkey => (hdata.set hkey (plain_toString_int _)).ite hdata
    dsimp only
    exact hset (hset h (by decide)) (by decide)

theorem PlainData.publishOpenupsLoad (h : PlainData data) : PlainData (publishOpenupsLoad data) := by
  have hload : PlainData (GenericDriver.setChanged "ups.load" (toString (openupsLoad data))
      (GenericDriver.setChanged "ups.realpower.nominal" (toString (openupsNominal data)) data)) :=
    (h.setChanged (by decide) (plain_toString_int _)).setChanged (by decide) (plain_toString_int _)
  exact h.ite (hload.updateRealPower.ite hload)

theorem isControl_of_isNumeralChar {c : Char} (h : isNumeralChar c = true) : isControl c = false := by
  unfold isNumeralChar at h
  rcases Bool.or_eq_true_iff.mp h with hdigit | hpoint
  · exact isControl_of_isDigit hdigit
  · obtain rfl := of_decide_eq_true hpoint
    rfl

/-- Of the text in the report only digits and points are kept. -/
theorem plain_powercomVoltage (bytes : List Byte) : ∀ text ∈ powercomVoltage bytes, Plain text := by
  intro text htext
  obtain ⟨-, hnumber⟩ := Option.mem_ite_none_right.mp htext
  obtain rfl := Option.some.inj hnumber
  apply plain_ofList
  intro c hc
  exact isControl_of_isNumeralChar (List.mem_takeWhile_imp hc)

theorem RequestText.plain (request : RequestText) : Plain request.text := plain_of_printed request.printed

/-! ### Values the host notes -/

theorem PlainState.noteHostValue (h : PlainState s) (name : String) (hvalue : Plain value) :
    PlainState (noteHostValue name value s) := by
  apply h.withRows
  apply h.rows.map
  intro b hb
  split
  · exact hb
  split
  · exact hb
  · exact ⟨hb.info, hvalue⟩

theorem PlainState.setBeeper (h : PlainState s) (enable : Bool) : PlainState (setBeeper enable s) := by
  have hstatus : Plain (if enable then "enabled" else "disabled") := by
    cases enable <;> decide
  exact (h.withData (h.data.set (by decide) hstatus)).noteHostValue _ hstatus

theorem mem_setOverride {overrides : List (String × String)} {override : String × String}
    (h : override ∈ setOverride overrides name value) : override ∈ overrides ∨ override.2 = value := by
  induction overrides with
  | nil =>
      obtain rfl := List.mem_singleton.mp h
      exact Or.inr rfl
  | cons first rest ih =>
      unfold setOverride at h
      split at h
      · rcases List.mem_cons.mp h with rfl | hrest
        · exact Or.inr rfl
        · exact Or.inl (List.mem_cons_of_mem first hrest)
      · rcases List.mem_cons.mp h with rfl | hrest
        · exact Or.inl List.mem_cons_self
        · exact (ih hrest).imp_left (List.mem_cons_of_mem first)

theorem PlainState.setDriverSideValue (h : PlainState s) (name : String) (hvalue : Plain value) :
    PlainState (setDriverSideValue name value s) where
  data := h.data
  rows := plainRows_applyAbsentOverride h.rows hvalue
  voltage := h.voltage
  overrides := by
    intro override hmem
    rcases mem_setOverride hmem with hold | hnew
    · exact h.overrides override hold
    · rw [hnew]
      exact hvalue

/-- The name comes from a table or is the one of a delay. -/
theorem PlainState.plain_planDriverSide (h : PlainState s) {plan : String × String} (hvalue : Plain value)
    (hplan : planDriverSide s name value = some plan) : Plain plan.1 ∧ Plain plan.2 := by
  unfold planDriverSide at hplan
  split at hplan
  case h_2 => cases hplan
  rename_i key text hset
  obtain rfl := Option.some.inj hplan
  unfold planSet at hset
  split at hset
  · cases hset
  cases howner : ownerRow s.rows name with
  | none =>
      rw [howner] at hset
      dsimp only at hset
      split at hset
      · cases hset
      · rename_i d hdelay
        split at hset
        · cases hset
        split at hset
        · cases hset
        · obtain ⟨rfl, rfl⟩ := SetPlan.driverSide.inj (Except.ok.inj hset)
          have hall : ∀ d ∈ ["ups.delay.shutdown", "ups.delay.start"], Plain d := by decide
          exact ⟨hall d (List.mem_of_find?_eq_some hdelay), plain_toString_int _⟩
  | some b =>
      rw [howner] at hset
      dsimp only at hset
      split at hset
      · cases hset
      split at hset
      · obtain ⟨rfl, rfl⟩ := SetPlan.driverSide.inj (Except.ok.inj hset)
        exact ⟨(h.rows b (List.mem_of_find?_eq_some howner)).info.infoType, hvalue⟩
      -- a value that is encoded goes to the device
      split at hset
      · cases hset
      split at hset
      · cases hset
      split at hset <;> cases hset

theorem PlainState.setVariable (h : PlainState s) (name : String) (hvalue : Plain value) :
    PlainState (setVariable name value s) := by
  unfold GenericDriver.setVariable
  split
  · exact h
  · rename_i hplan
    obtain ⟨hkey, htext⟩ := h.plain_planDriverSide hvalue hplan
    dsimp only
    split
    · exact h.withData (h.data.set hkey htext)
    · exact (h.setDriverSideValue _ htext).withData (h.data.set hkey htext)

theorem PlainState.resetDriverSideValue (h : PlainState s) (name : String) :
    PlainState (resetDriverSideValue name s).2 where
  data := h.data
  rows := by
    apply h.rows.map
    intro b hb
    split
    · exact ⟨hb.info, hb.info.default⟩
    · exact hb
  voltage := h.voltage
  overrides := fun override hmem => h.overrides override (List.eraseP_sublist.subset hmem)

/-- A default comes from the row of the name. -/
theorem PlainState.plain_resetDriverSideValue (h : PlainState s) (name : String) :
    ∀ text ∈ (GenericDriver.resetDriverSideValue name s).1, Plain name ∧ Plain text := by
  intro text htext
  obtain ⟨b, hfind, rfl⟩ := Option.map_eq_some_iff.mp htext
  have hrow := h.rows b (List.mem_of_find?_eq_some hfind)
  have hown := List.find?_some hfind
  have hname : b.info.infoType = name := of_decide_eq_true (Bool.and_eq_true_iff.mp hown).2
  exact ⟨hname ▸ hrow.info.infoType, hrow.info.default⟩

theorem PlainState.resetVariable (h : PlainState s) (name : String) : PlainState (resetVariable name s) := by
  have hreset := h.resetDriverSideValue name
  have htext := h.plain_resetDriverSideValue name
  unfold GenericDriver.resetVariable
  split
  · rename_i heq
    rw [heq] at hreset
    exact hreset
  · rename_i text s' heq
    rw [heq] at hreset htext
    obtain ⟨hkey, hvalue⟩ := htext text rfl
    exact hreset.withData (hreset.data.set hkey hvalue)

theorem PlainState.completeInitialPoll (h : PlainState s) : PlainState (completeInitialPoll s) := by
  unfold GenericDriver.completeInitialPoll
  dsimp only
  split
  · exact ⟨h.data, h.rows.finishInit, h.voltage, h.overrides⟩
  · exact ⟨h.data, h.rows, h.voltage, h.overrides⟩

/-! ### String descriptors -/

/-- Up to the limit, a control character is only among the line ends the text ends with. -/
def cleanUpTo : Nat → List Char → Bool
  | 0, _ => true
  | _, [] => true
  | limit + 1, c :: rest => (!isControl c || (c :: rest).all isLineEnd) && cleanUpTo limit rest

theorem rdropWhile_cons {α : Type} (p : α → Bool) (a : α) (rest : List α) :
    (a :: rest).rdropWhile p = if (a :: rest).all p then [] else a :: rest.rdropWhile p := by
  unfold List.rdropWhile
  rw [List.reverse_cons, List.dropWhile_append]
  split
  · rename_i hdropped
    have hrest : rest.all p = true := by
      rw [← List.all_reverse]
      simpa [List.dropWhile_eq_nil_iff] using hdropped
    rw [List.all_cons, hrest, Bool.and_true, List.isEmpty_iff.mp hdropped]
    cases hp : p a <;> simp [hp]
  · rename_i hkept
    have hrest : rest.all p = false := by
      rw [← List.all_reverse]
      simpa [List.dropWhile_eq_nil_iff] using hkept
    rw [List.all_cons, hrest, Bool.and_false, if_neg (by decide), List.reverse_append]
    rfl

/-- What the decoder keeps of a clean text has no control character. -/
theorem isControl_of_cleanUpTo {limit : Nat} {chars : List Char} (h : cleanUpTo limit chars = true) {c : Char}
    (hc : c ∈ (chars.rdropWhile isLineEnd).take limit) : isControl c = false := by
  induction chars generalizing limit with
  | nil =>
      rw [List.rdropWhile_nil, List.take_nil] at hc
      cases hc
  | cons first rest ih =>
      cases limit with
      | zero => cases hc
      | succ limit =>
          obtain ⟨hfirst, hrest⟩ := Bool.and_eq_true_iff.mp h
          rw [rdropWhile_cons] at hc
          split at hc
          · cases hc
          · rename_i hkept
            rcases List.mem_cons.mp hc with rfl | htail
            · simpa [hkept] using hfirst
            · exact ih hrest htail

/-- A row waits for the string of the index. -/
def isAwaited (rows : List Bound) (index : Nat) : Bool :=
  rows.any fun b => decide (b.info.conv = .stringId ∧ b.stringIndex = index)

/-- The string of the index is published as it is. -/
def isIdentity (t : Transport) (index : Nat) : Bool :=
  decide (index = t.iManufacturer ∨ index = t.iProduct ∨ (0 < t.iSerialNumber ∧ index = t.iSerialNumber))

/-- A string is clean as far as it is used: whole for the identity, its first characters for a row. -/
structure CleanString (t : Transport) (rows : List Bound) (index : Nat) (chars : List Char) : Prop where
  identity : isIdentity t index = true → cleanUpTo chars.length chars = true
  row : isAwaited rows index = true → cleanUpTo 19 chars = true

instance (t : Transport) (rows : List Bound) (index : Nat) (chars : List Char) :
    Decidable (CleanString t rows index chars) :=
  decidable_of_iff ((isIdentity t index = true → cleanUpTo chars.length chars = true)
      ∧ (isAwaited rows index = true → cleanUpTo 19 chars = true)) ⟨fun h => ⟨h.1, h.2⟩, fun h => ⟨h.identity, h.row⟩⟩

/-- The string descriptors of a run are clean; nothing else is asked of the device. -/
def CleanEvent (s : State) : SourceEvent → Prop
  | .descriptor t index invert bytes =>
      isStringDescriptor bytes = true → CleanString t s.rows index (descriptorChars invert bytes)
  | _ => True

instance (s : State) (event : SourceEvent) : Decidable (CleanEvent s event) :=
  match event with
  | .descriptor .. => inferInstanceAs (Decidable (_ → CleanString _ _ _ _))
  | .report .. | .beeperField .. | .setBeeper .. | .driverLoop | .defaultDelays .. | .openupsLoad | .powercomText ..
  | .restoreValue .. | .setVariable .. | .resetVariable .. | .inputs .. | .completeInitialPoll | .firstFullDone =>
      isTrue trivial

theorem plain_decodeStringDescriptor {invert : Bool} {bytes : List Byte}
    (h : cleanUpTo (descriptorChars invert bytes).length (descriptorChars invert bytes) = true) :
    Plain (decodeStringDescriptor invert bytes) := by
  apply plain_ofList
  intro c hc
  apply isControl_of_cleanUpTo h
  have hlength : ((descriptorChars invert bytes).rdropWhile isLineEnd).length ≤ (descriptorChars invert bytes).length :=
    (List.rdropWhile_prefix _ _).length_le
  rw [List.take_of_length_le hlength]
  exact hc

theorem plain_cutDescriptor {invert : Bool} {bytes : List Byte} {limit : Nat}
    (h : cleanUpTo limit (descriptorChars invert bytes) = true) :
    Plain (String.ofList ((decodeStringDescriptor invert bytes).toList.take limit)) := by
  apply plain_ofList
  intro c hc
  unfold decodeStringDescriptor at hc
  rw [String.toList_ofList] at hc
  exact isControl_of_cleanUpTo h hc

theorem plainRows_takeString {rows : List Bound} {text : String} (h : PlainRows rows) (index : Nat)
    (htext : Plain (String.ofList (text.toList.take 19))) : PlainRows (takeString index text rows) := by
  have hstep : ∀ rows i, True → PlainRows rows → PlainRows (takeStringAt index text rows i) := by
    intro rows i _ hrows
    unfold takeStringAt
    split
    · exact hrows.onString i htext
    · exact hrows
  exact run_invariant h hstep _ fun _ _ => trivial

/-- A string is published whole under the identity, and cut by the rows that wait for it. -/
theorem PlainState.parseStringDescriptor {t : Transport} {depth index : Nat} {text : String} (h : PlainState s)
    (hidentity : isIdentity t index = true → Plain text)
    (hrow : isAwaited s.rows index = true → Plain (String.ofList (text.toList.take 19)))
    (hparse : parseStringDescriptor sub t depth index text s = some s') : PlainState s' := by
  have hdata : PlainData (if index = t.iManufacturer then s.data.set "ups.mfr" text
      else if index = t.iProduct then s.data.set "ups.model" text
      else if 0 < t.iSerialNumber ∧ index = t.iSerialNumber then s.data.set "ups.serial" text
      else s.data) := by
    split
    · rename_i hmfr
      exact h.data.set (by decide) (hidentity (decide_eq_true (Or.inl hmfr)))
    split
    · rename_i hproduct
      exact h.data.set (by decide) (hidentity (decide_eq_true (Or.inr (Or.inl hproduct))))
    split
    · rename_i hserial
      exact h.data.set (by decide) (hidentity (decide_eq_true (Or.inr (Or.inr hserial))))
    · exact h.data
  unfold GenericDriver.parseStringDescriptor at hparse
  dsimp only at hparse
  split at hparse
  · rename_i hawaited
    exact ((h.withData hdata).withRows (plainRows_takeString h.rows index (hrow hawaited))).publishNutRows hparse
  · obtain rfl := Option.some.inj hparse
    exact h.withData hdata

theorem PlainState.readDescriptor {brand : Brand} {t : Transport} {depth index : Nat} {invert : Bool} {bytes : List Byte}
    (h : PlainState s) (hclean : CleanEvent s (.descriptor t index invert bytes))
    (hread : readDescriptor brand sub t depth index invert bytes s = some s') : PlainState s' := by
  obtain ⟨u, hparsed, rfl⟩ := Option.map_eq_some_iff.mp hread
  suffices hu : PlainState u from hu.withData (hu.data.formatDeviceStrings brand)
  split at hparsed
  · rename_i hstring
    obtain ⟨hidentity, hrow⟩ := hclean hstring
    exact h.parseStringDescriptor (fun hid => plain_decodeStringDescriptor (hidentity hid))
      (fun hawaited => plain_cutDescriptor (hrow hawaited)) hparsed
  · obtain rfl := Option.some.inj hparsed
    exact h

/-! ### Runs -/

theorem plainState_initial (h : PlainData data) : PlainState (State.initial data) where
  data := h
  rows := List.forall_mem_nil _
  voltage := by
    show Plain ""
    decide
  overrides := List.forall_mem_nil _

/-- The strings the USB library read are plain, whatever the device sends. -/
theorem plainState_claimed (brand : Brand) (info : DeviceInfo) (invert : Bool) :
    PlainState (claimed brand info invert) := by
  apply plainState_initial
  apply PlainData.formatDeviceStrings
  exact plainData_empty.populateStrings info invert

theorem PlainState.sourceStep {brand : Brand} {depth : Nat} {event : SourceEvent} (htables : PlainTables sub)
    (h : PlainState s) (hclean : CleanEvent s event) (hstep : sourceStep brand sub depth s event = some s') :
    PlainState s' := by
  cases event with
  | report => exact h.postDecode htables hstep
  | descriptor => exact h.readDescriptor hclean hstep
  | beeperField v bitSize =>
      obtain rfl := Option.some.inj hstep
      exact h.withData (h.data.decodeBeeperStatus brand v bitSize)
  | setBeeper enable =>
      obtain rfl := Option.some.inj hstep
      exact h.setBeeper enable
  | driverLoop =>
      obtain rfl := Option.some.inj hstep
      exact h.withData (h.data.setChanged (by decide) (plain_driverName brand))
  | defaultDelays usages offDelay onDelay delayVars paths saved =>
      obtain rfl := Option.some.inj hstep
      exact h.withData (h.data.applyDefaultDelays usages offDelay onDelay delayVars paths saved)
  | openupsLoad =>
      obtain rfl := Option.some.inj hstep
      exact h.withData h.data.publishOpenupsLoad
  | powercomText bytes =>
      obtain rfl := Option.some.inj hstep
      refine ⟨h.data, h.rows, ?_, h.overrides⟩
      cases hvoltage : powercomVoltage bytes with
      | none => exact h.voltage
      | some text => exact plain_powercomVoltage bytes text hvoltage
  | restoreValue name value =>
      obtain rfl := Option.some.inj hstep
      exact h.setDriverSideValue name value.plain
  | setVariable name value =>
      obtain rfl := Option.some.inj hstep
      exact h.setVariable name value.plain
  | resetVariable name =>
      obtain rfl := Option.some.inj hstep
      exact h.resetVariable name
  | inputs ctx =>
      obtain rfl := Option.some.inj hstep
      exact ⟨h.data, h.rows, h.voltage, h.overrides⟩
  | completeInitialPoll =>
      obtain rfl := Option.some.inj hstep
      exact h.completeInitialPoll
  | firstFullDone =>
      obtain rfl := Option.some.inj hstep
      exact ⟨h.data, h.rows, h.voltage, h.overrides⟩

theorem plainState_of_run {brand : Brand} {depth : Nat} {info : DeviceInfo} {invert : Bool} {events : List SourceEvent}
    (htables : PlainTables sub) (hclean : AlongWalk CleanEvent (sourceStep brand sub depth) (claimed brand info invert) events)
    (hrun : events.foldlM (sourceStep brand sub depth) (claimed brand info invert) = some s) : PlainState s :=
  walk_along (plainState_claimed brand info invert)
    (fun _ _ _ hevent hstate hstep => hstate.sourceStep htables hevent hstep) hclean hrun

end EspNut.GenericDriver
