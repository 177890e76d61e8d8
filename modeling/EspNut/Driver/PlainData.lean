import EspNut.Driver.DeviceStrings
import EspNut.Driver.Publication
import EspNut.Table.PlainTexts

/-!
# Published values without control characters

Every source of a published value is plain but one: the reports, the strings of the USB library, the brands, the host and the requests of clients write plain texts, whatever the device sends. A string descriptor read by the poll keeps the control characters in its middle; while these strings are plain, so are all keys and values of the data.
-/

namespace EspNut.GenericDriver

open Lib Rounding NutTable Text

/-! ### Data -/

def PlainData (data : UPSData) : Prop := ∀ key value, data.find key = some value → Plain key ∧ Plain value

variable {data : UPSData} {key value : String}

theorem plainData_empty : PlainData UPSData.empty := fun _ _ h => nomatch h

theorem PlainData.set (h : PlainData data) (hkey : Plain key) (hvalue : Plain value) : PlainData (data.set key value) := by
  intro other text hfind
  rw [UPSData.find_set] at hfind
  split at hfind
  · rename_i heq
    obtain rfl := Option.some.inj hfind
    exact ⟨heq ▸ hkey, hvalue⟩
  · exact h other text hfind

theorem PlainData.remove (h : PlainData data) : PlainData (data.remove key) := by
  intro other text hfind
  rw [UPSData.find_remove] at hfind
  split at hfind
  · cases hfind
  · exact h other text hfind

theorem PlainData.ite {first second : UPSData} {c : Prop} [Decidable c] (hfirst : PlainData first)
    (hsecond : PlainData second) : PlainData (if c then first else second) := by
  split
  · exact hfirst
  · exact hsecond

theorem PlainData.get (h : PlainData data) (key : String) : Plain (data.get key "") := by
  unfold UPSData.get
  cases hfind : data.find key with
  | none => decide
  | some value => exact (h key value hfind).2

theorem PlainData.put (h : PlainData data) {text : Option String} (hkey : Plain key) (htext : ∀ t ∈ text, Plain t) :
    PlainData (data.put key text) := by
  cases text with
  | some text => exact h.ite (h.set hkey (htext text rfl))
  | none => exact h.remove.ite h

theorem PlainData.foldl_put (h : PlainData data) {changes : List (String × Option String)}
    (hchanges : ∀ change ∈ changes, Plain change.1 ∧ ∀ t ∈ change.2, Plain t) :
    PlainData (changes.foldl (fun d key => d.put key.1 key.2) data) := by
  induction changes generalizing data with
  | nil => exact h
  | cons change changes ih =>
      obtain ⟨hkey, htext⟩ := hchanges change List.mem_cons_self
      exact ih (h.put hkey htext) fun c hc => hchanges c (List.mem_cons_of_mem change hc)

theorem PlainData.updateRealPower (h : PlainData data) : PlainData data.updateRealPower := by
  unfold UPSData.updateRealPower
  dsimp only
  split
  · exact h
  split
  · exact h
  split
  · exact h.set (by decide) (plain_toString _)
  split
  · exact h.set (by decide) (plain_toString _)
  · exact h

theorem plain_transferReason (data : UPSData) : ∀ text ∈ data.transferReason, Plain text := by
  unfold UPSData.transferReason
  split
  · exact plain_some (by decide)
  split
  · exact plain_some (by decide)
  · exact plain_none

theorem plain_alarmText (data : UPSData) {vendor : String} (hvendor : Plain vendor) : Plain (data.alarmText vendor) := by
  apply plain_foldl_appendWord _ hvendor
  intro w hw
  obtain ⟨bit, hbit, rfl⟩ := List.mem_map.mp hw
  have hall : ∀ bit ∈ UPSData.alarmBits, Plain bit.2 := by decide +kernel
  exact hall bit (List.mem_filter.mp hbit).1

theorem PlainData.applyAlarmVariables (h : PlainData data) {vendor : String} (hvendor : Plain vendor) :
    PlainData (data.applyAlarmVariables vendor) := by
  unfold UPSData.applyAlarmVariables
  apply PlainData.put
  · apply h.put (by decide)
    split
    · exact plain_none
    · exact plain_some (plain_alarmText data hvendor)
  · decide
  · exact plain_transferReason _

theorem plain_statusKeys (s : StatusBits) : ∀ change ∈ statusKeys s, Plain change.1 ∧ ∀ t ∈ change.2, Plain t := by
  intro change hchange
  constructor
  · have hall : ∀ name ∈ "ups.status.ac_present" :: "ups.status.fully_charged" :: statusKeyNames.reduceOption,
        Plain name := by decide +kernel
    exact hall change.1 (mem_statusKeys hchange)
  · have hpair : ∀ name yes no, change ∈ pairKey s name yes no → ∀ t ∈ change.2, Plain t := by
      intro name yes no hpair
      unfold pairKey at hpair
      split at hpair
      · rw [List.mem_singleton.mp hpair]
        dsimp only
        split
        · exact plain_some (by decide)
        split
        · exact plain_some (by decide)
        · exact plain_none
      · cases hpair
    unfold statusKeys at hchange
    rw [List.mem_append, List.mem_append] at hchange
    rcases hchange with (hac | hfull) | hbit
    · exact hpair _ _ _ hac
    · exact hpair _ _ _ hfull
    · obtain ⟨b, -, hb⟩ := List.mem_flatMap.mp hbit
      unfold bitKey at hb
      split at hb
      · split at hb
        · rw [List.mem_singleton.mp hb]
          apply plain_some
          split <;> decide
        · cases hb
      · cases hb

/-! ### The engine -/

def PlainTables (sub : Subdriver) : Prop := ∀ info ∈ sub.tables, PlainInfo info

instance (sub : Subdriver) : Decidable (PlainTables sub) := inferInstanceAs (Decidable (∀ info ∈ _, _))

def fixedRow (infoType path : String) (dfl : Option String) (hidflags : Nat) (conv : Conv) (lkp : List Lookup) : HidInfo :=
  { infoType, infoFlags := 0, infoLen := 0, hidpath := some path, dfl, hidflags, conv, lkp }

/-- The tokens of a status bit that is set and of one that is not. -/
def flagInfo (yes no : String) : List Lookup := [⟨1, yes⟩, ⟨0, no⟩]

/-- The table of the openUPS devices. -/
def openupsHid2Nut : List HidInfo :=
  [ fixedRow "ups.serial" "UPS.PowerSummary.iSerialNumber" (some "%s") 0 .stringId [],
    fixedRow "battery.type" "UPS.PowerSummary.iDeviceChemistry" (some "%s") huFlagStatic .stringId [],
    fixedRow "battery.mfr.date" "UPS.PowerSummary.iOEMInformation" (some "%s") huFlagStatic .stringId [],
    fixedRow "battery.voltage" "UPS.PowerSummary.Voltage" (some "%.2f") huFlagQuickPoll .number [],
    fixedRow "battery.current" "UPS.PowerSummary.Current" (some "%.3f") huFlagQuickPoll .number [],
    fixedRow "battery.capacity" "UPS.PowerSummary.DesignCapacity" (some "%.0f") huFlagStatic .number [],
    fixedRow "battery.charge" "UPS.PowerSummary.RemainingCapacity" (some "%.0f") huFlagQuickPoll .number [],
    fixedRow "battery.charge.low" "UPS.PowerSummary.RemainingCapacityLimit" (some "%.0f") huFlagQuickPoll .number [],
    fixedRow "battery.charge.warning" "UPS.PowerSummary.WarningCapacityLimit" (some "%.0f") 0 .number [],
    fixedRow "battery.runtime" "UPS.PowerSummary.RunTimeToEmpty" (some "%.0f") huFlagQuickPoll .number [],
    fixedRow "battery.temperature" "UPS.PowerSummary.Temperature" none huFlagQuickPoll .openupsTemperature [],
    fixedRow "output.voltage" "UPS.PowerSummary.Output.Voltage" none huFlagQuickPoll .openupsVout [],
    fixedRow "output.current" "UPS.PowerSummary.Output.Current" none huFlagQuickPoll .openupsCdischarge [],
    fixedRow "input.voltage" "UPS.PowerSummary.Input.Voltage" none huFlagQuickPoll .openupsVin [],
    fixedRow "input.current" "UPS.PowerSummary.Input.Current" none huFlagQuickPoll .openupsCcharge [],
    fixedRow "BOOL" "UPS.PowerSummary.PresentStatus.Good" none huFlagQuickPoll .openupsOff [],
    fixedRow "BOOL" "UPS.PowerSummary.PresentStatus.InternalFailure" none huFlagQuickPoll
      .lookup (flagInfo "commfault" "!commfault"),
    fixedRow "BOOL" "UPS.PowerSummary.PresentStatus.Overload" none huFlagQuickPoll .lookup (flagInfo "overload" "!overload"),
    fixedRow "BOOL" "UPS.PowerSummary.PresentStatus.OverTemperature" none huFlagQuickPoll
      .lookup (flagInfo "overheat" "!overheat"),
    fixedRow "BOOL" "UPS.PowerSummary.PresentStatus.ShutdownImminent" none huFlagQuickPoll
      .lookup (flagInfo "shutdownimm" "!shutdownimm"),
    fixedRow "BOOL" "UPS.PowerSummary.PresentStatus.BelowRemainingCapacityLimit" none huFlagQuickPoll
      .lookup (flagInfo "lowbatt" "!lowbatt"),
    fixedRow "BOOL" "UPS.PowerSummary.PresentStatus.RemainingTimeLimitExpired" none huFlagQuickPoll
      .lookup (flagInfo "timelimitexp" "!timelimitexp"),
    fixedRow "BOOL" "UPS.PowerSummary.PresentStatus.Charging" none huFlagQuickPoll .openupsCharging [],
    fixedRow "BOOL" "UPS.PowerSummary.PresentStatus.Discharging" none huFlagQuickPoll .openupsDischarging [],
    fixedRow "BOOL" "UPS.PowerSummary.PresentStatus.NeedReplacement" none 0 .lookup (flagInfo "replacebatt" "!replacebatt"),
    fixedRow "BOOL" "UPS.PowerSummary.PresentStatus.ACPresent" none huFlagQuickPoll .openupsOnline [],
    fixedRow "BOOL" "UPS.PowerSummary.PresentStatus.BatteryPresent" none huFlagQuickPoll
      .lookup (flagInfo "!nobattery" "nobattery") ]

example : ∀ info ∈ openupsHid2Nut, PlainInfo info := by decide +kernel

structure PlainState (s : State) : Prop where
  data : PlainData s.data
  rows : PlainRows s.rows
  voltage : Plain s.ctx.powercomBatteryVoltage
  overrides : ∀ override ∈ s.absentOverrides, Plain override.2

variable {sub : Subdriver} {s s' : State}

theorem PlainState.withData (h : PlainState s) {data : UPSData} (hdata : PlainData data) :
    PlainState { s with data } := ⟨hdata, h.rows, h.voltage, h.overrides⟩

theorem PlainState.withRows (h : PlainState s) {rows : List Bound} (hrows : PlainRows rows) :
    PlainState { s with rows } := ⟨h.data, hrows, h.voltage, h.overrides⟩

theorem PlainState.onValue (h : PlainState s) (i : Nat) (v : ℚ) (clears : List String) :
    PlainState { s with
      rows := (onValue s.rows i v s.ctx (some s.data)).1
      ctx := (onValue s.rows i v s.ctx (some s.data)).2
      clears } where
  data := h.data
  rows := h.rows.onValue i v h.voltage (some s.data)
  voltage := by
    rw [voltage_onValue]
    exact h.voltage
  overrides := h.overrides

theorem PlainState.publishRow {depth i : Nat} (h : PlainState s) (hpublish : publishRow depth s i = some s') :
    PlainState s' := by
  refine publishRow_invariant ?_ ?_ ?_ ?_ h hpublish
  · intro t k b hb _ ht
    have hrow := ht.rows b (List.mem_of_getElem? hb)
    have hcalm : PlainRow { b with cleared := false } := ⟨hrow.info, hrow.value⟩
    exact (ht.withRows (ht.rows.set k hcalm)).withData (ht.data.put hrow.info.infoType plain_none)
  · intro t k b hb _ ht
    have hrow := ht.rows b (List.mem_of_getElem? hb)
    exact ht.withData (ht.data.set hrow.info.infoType hrow.value)
  · exact fun t ht => ht.withData ht.data.updateRealPower
  · exact fun t j _ _ _ ht => ht.onValue j 0 t.clears

theorem PlainState.publishNutRows {depth : Nat} (h : PlainState s) (hpublish : publishNutRows sub depth s = some s') :
    PlainState s' := by
  unfold GenericDriver.publishNutRows at hpublish
  obtain ⟨t, hwalk, hkeys⟩ := Option.bind_eq_some_iff.mp hpublish
  have ht : PlainState t := walk_invariant h (fun _ _ _ _ hs hstep => hs.publishRow hstep) hwalk
  obtain rfl := Option.some.inj hkeys
  exact ht.withData (ht.data.foldl_put (plain_statusKeys _))

theorem PlainState.readRow {t : Transport} {depth reportId reportType i : Nat} {bytes : List Byte} (h : PlainState s)
    (hread : readRow t depth reportId reportType bytes s i = some s') : PlainState s' := by
  rcases readRow_cases hread with rfl | ⟨v, clears, hpublish⟩
  · exact h
  · exact (h.onValue i v clears).publishRow hpublish

theorem PlainState.readRows {t : Transport} {depth reportId reportType : Nat} {bytes : List Byte} (h : PlainState s)
    (hread : readRows t depth reportId reportType bytes s = some s') : PlainState s' :=
  readRows_invariant (fun _ _ _ hs hstep => hs.readRow hstep) h hread

theorem plainRows_applyAbsentOverride {rows : List Bound} (h : PlainRows rows) {override : String × String}
    (hvalue : Plain override.2) : PlainRows (applyAbsentOverride rows override) := by
  apply h.map
  intro b hb
  split
  · exact ⟨hb.info, hvalue⟩
  · exact hb

theorem plainRows_overrides {rows : List Bound} (h : PlainRows rows) {overrides : List (String × String)}
    (hvalues : ∀ override ∈ overrides, Plain override.2) : PlainRows (overrides.foldl applyAbsentOverride rows) := by
  induction overrides generalizing rows with
  | nil => exact h
  | cons override overrides ih =>
      exact ih (plainRows_applyAbsentOverride h (hvalues override List.mem_cons_self))
        fun o ho => hvalues o (List.mem_cons_of_mem override ho)

theorem PlainState.bindNutTable (htables : PlainTables sub) (t : Transport) (h : PlainState s) :
    PlainState (bindNutTable sub t s) := by
  unfold GenericDriver.bindNutTable
  split
  · exact h
  · have hbound : PlainRows (boundRows sub t) := by
      intro b hb
      rcases List.mem_append.mp hb with hown | hgeneric
      · exact plainRows_bindRows (fun info hinfo => htables info (List.mem_append_left _ hinfo)) _ _ b hown
      · exact plainRows_bindRows (fun info hinfo => htables info (List.mem_append_right _ hinfo)) _ _ b hgeneric
    exact ⟨h.data, plainRows_overrides hbound.resolve h.overrides, h.voltage, h.overrides⟩

theorem PlainState.publishAlarms (h : PlainState s) : PlainState (publishAlarms s) :=
  h.withData (h.data.applyAlarmVariables (plain_vendorAlarms h.rows))

theorem PlainState.endInit (h : PlainState s) : PlainState (endInit s) := by
  unfold GenericDriver.endInit
  split
  · exact ⟨h.data, h.rows.finishInit, h.voltage, h.overrides⟩
  · exact h

theorem PlainState.walkStatus (h : PlainState s) : PlainState (walkStatus s) where
  data := h.data
  rows := h.rows
  voltage := by
    show Plain (walkInternalRows s.rows s.ctx (some s.data)).powercomBatteryVoltage
    rw [voltage_walkInternalRows]
    exact h.voltage
  overrides := h.overrides

/-- A report publishes plain values, whatever its bytes. -/
theorem PlainState.postDecode (htables : PlainTables sub) {t : Transport} {depth reportId reportType : Nat}
    {bytes : List Byte} (h : PlainState s) (hstep : postDecode sub t depth reportId reportType bytes s = some s') :
    PlainState s' := by
  have hclean : PlainState { s with clears := [] } := ⟨h.data, h.rows, h.voltage, h.overrides⟩
  have hbound := hclean.bindNutTable htables t
  unfold GenericDriver.postDecode at hstep
  dsimp only at hstep
  split at hstep
  · obtain rfl := Option.some.inj hstep
    exact hbound.publishAlarms
  · obtain ⟨u, hread, hrest⟩ := Option.bind_eq_some_iff.mp hstep
    obtain ⟨w, hpublish, hlast⟩ := Option.bind_eq_some_iff.mp hrest
    obtain rfl := Option.some.inj hlast
    exact (((hbound.readRows hread).endInit.walkStatus).publishNutRows hpublish).publishAlarms

/-! ### Strings -/

theorem isControl_ofNat {n : Nat} (hlow : 0x20 ≤ n) (hhigh : n < 0x7F) : isControl (Char.ofNat n) = false := by
  have hall : ∀ n < 0x7F, 0x20 ≤ n → isControl (Char.ofNat n) = false := by decide
  exact hall n hhigh hlow

theorem isControl_of_mem_asciiChars {invert : Bool} {units : List CodeUnit} {room : Nat} {c : Char}
    (h : c ∈ DeviceStrings.asciiChars invert room units) : isControl c = false := by
  induction units generalizing room with
  | nil => cases h
  | cons unit units ih =>
      unfold DeviceStrings.asciiChars at h
      dsimp only at h
      split at h
      · cases h
      split at h
      · exact ih h
      · rename_i hprinted
        rcases List.mem_cons.mp h with rfl | hrest
        · rw [not_or] at hprinted
          apply isControl_ofNat
          · exact not_lt.mp hprinted.1
          · exact not_le.mp hprinted.2
        · exact ih hrest

theorem plain_toAscii (src : List CodeUnit) (maxUnits : Nat) (invert : Bool) (dstSize : Nat) :
    Plain (DeviceStrings.toAscii src maxUnits invert dstSize) := by
  unfold DeviceStrings.toAscii
  split
  · decide
  · apply plain_ofList
    intro c hc
    have hmem := List.mem_reverse.mp ((List.dropWhile_sublist _).subset (List.mem_reverse.mp hc))
    exact isControl_of_mem_asciiChars hmem

theorem PlainData.populateStrings (h : PlainData data) (info : DeviceInfo) (invert : Bool) :
    PlainData (populateStringsFromDeviceInfo info invert data) := by
  have hset : ∀ {data : UPSData} {key text : String} {skip : Prop} [Decidable skip], PlainData data → Plain key →
      Plain text → PlainData (if skip then data else data.set key text) :=
    fun hdata hkey htext => hdata.ite (hdata.set hkey htext)
  unfold populateStringsFromDeviceInfo
  dsimp only
  exact hset (hset (hset h (by decide) (plain_toAscii _ _ _ _)) (by decide) (plain_toAscii _ _ _ _)) (by decide)
    (plain_toAscii _ _ _ _)

theorem subset_cutAt {mark text before after : List Char} (h : cutAt mark text = some (before, after)) :
    before ⊆ text ∧ after ⊆ text := by
  induction text generalizing before after with
  | nil =>
      unfold cutAt at h
      split at h
      · cases h
        exact ⟨fun _ hc => hc, fun _ hc => hc⟩
      · cases h
  | cons c rest ih =>
      unfold cutAt at h
      split at h
      · cases h
        exact ⟨List.nil_subset _, List.drop_subset _ _⟩
      · obtain ⟨cut, hcut, heq⟩ := Option.map_eq_some_iff.mp h
        obtain ⟨hbefore, hafter⟩ := ih hcut
        cases heq
        exact ⟨List.cons_subset_cons c hbefore, List.subset_cons_of_subset c hafter⟩

theorem plain_splitProduct {product model firmware aux : String} (hproduct : Plain product)
    (h : splitProduct product = some (model, firmware, aux)) : Plain model ∧ Plain firmware ∧ Plain aux := by
  have htrimmed : ∀ text : List Char, text ⊆ product.toList → Plain (trim (String.ofList text)) :=
    fun text hsubset => (hproduct.of_subset hsubset).trim
  unfold splitProduct at h
  split at h
  · cases h
  · rename_i first rest hcut
    obtain ⟨hfirst, hrest⟩ := subset_cutAt hcut
    have hmodel := htrimmed first.dropLast (List.Subset.trans (List.dropLast_subset first) hfirst)
    dsimp only at h
    split at h
    · simp only [Option.some.injEq, Prod.mk.injEq] at h
      obtain ⟨rfl, rfl, rfl⟩ := h
      exact ⟨hmodel, htrimmed rest hrest, by decide⟩
    · rename_i second tail hcut'
      obtain ⟨hsecond, htail⟩ := subset_cutAt hcut'
      simp only [Option.some.injEq, Prod.mk.injEq] at h
      obtain ⟨rfl, rfl, rfl⟩ := h
      have hpart := List.Subset.trans (List.dropLast_subset second) (List.Subset.trans hsecond hrest)
      exact ⟨hmodel, htrimmed _ hpart, htrimmed tail (List.Subset.trans htail hrest)⟩

theorem PlainData.setUnlessEmpty (h : PlainData data) {text : String} (hkey : Plain key) (htext : Plain text) :
    PlainData (setUnlessEmpty key text data) := h.ite (h.set hkey htext)

theorem PlainData.setMissingMfr (h : PlainData data) {mfr : String} (hmfr : Plain mfr) :
    PlainData (setMissingMfr mfr data) := (h.set (by decide) hmfr).ite h

theorem PlainData.formatDeviceStrings (h : PlainData data) (brand : Brand) :
    PlainData (formatDeviceStrings brand data) := by
  cases brand with
  | apc =>
      unfold GenericDriver.formatDeviceStrings
      dsimp only
      split
      · exact h
      · rename_i hsplit
        obtain ⟨hmodel, hfirmware, haux⟩ := plain_splitProduct (h.get "ups.model") hsplit
        exact ((h.setUnlessEmpty (by decide) hmodel).setUnlessEmpty (by decide) hfirmware).setUnlessEmpty (by decide) haux
  | ecoFlow => exact h.setMissingMfr (by decide)
  | legrand => exact h.setMissingMfr (by decide)
  | liebert => exact h.setMissingMfr (by decide)
  | openUPS => exact h.setMissingMfr (by decide)
  | powercom => exact h.ite (h.set (by decide) (by decide))
  | generic => exact h
  | eaton => exact h
  | cyberPower => exact h

end EspNut.GenericDriver
