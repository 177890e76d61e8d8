import EspNut.Lib.Plain
import EspNut.Table.Accumulate

/-!
# Values without control characters

A conversion prints numbers and dates, and takes every other text from its table, so rows of a plain table hold plain values whatever the device reports. A string of the device is as plain as the string.
-/

namespace EspNut.NutTable

open Lib Rounding Text

/-- The texts of a row of a table. -/
structure PlainInfo (info : HidInfo) : Prop where
  infoType : Plain info.infoType
  dfl : ∀ text ∈ info.dfl, Plain text
  lkp : ∀ entry ∈ info.lkp, Plain entry.nut

instance (info : HidInfo) : Decidable (PlainInfo info) :=
  decidable_of_iff (Plain info.infoType ∧ (∀ text ∈ info.dfl, Plain text) ∧ ∀ entry ∈ info.lkp, Plain entry.nut)
    ⟨fun h => ⟨h.1, h.2.1, h.2.2⟩, fun h => ⟨h.infoType, h.dfl, h.lkp⟩⟩

theorem PlainInfo.default {info : HidInfo} (h : PlainInfo info) : Plain (info.dfl.getD "") := by
  cases hdfl : info.dfl with
  | none => decide
  | some text => exact h.dfl text hdfl

/-! ### Conversions -/

def PlainResult (result : Decoded) : Prop := ∀ text, result = .ok text → Plain text

theorem plainResult_ok {text : String} (h : Plain text) : PlainResult (.ok text) := by
  intro other heq
  cases heq
  exact h

theorem plainResult_okOrFail {text : Option String} (h : ∀ t ∈ text, Plain t) : PlainResult (okOrFail text) := by
  cases text with
  | none => exact nofun
  | some t => exact plainResult_ok (h t rfl)

theorem plain_buf32 {text : String} (h : Plain text) : Plain (buf32 text) := h.take 31

theorem plain_formatPadded (width : Nat) (n : Int) : Plain (formatPadded width n) := by
  apply plain_ofList
  intro c hc
  split at hc
  · rcases List.mem_cons.mp hc with rfl | hpadded
    · rfl
    · exact isControl_of_mem_padded hpadded
  · exact isControl_of_mem_padded hc

theorem plain_formatRounded (v : ℚ) : Plain (formatRounded v) := plain_toString_int _

theorem plain_buf32_formatFixed (digits : Nat) (v : ℚ) : Plain (buf32 (formatFixed digits v)) :=
  plain_buf32 (plain_formatFixed digits v)

theorem plainResult_okFixed (digits : Nat) (v : ℚ) : PlainResult (okFixed digits v) :=
  plainResult_ok (plain_buf32_formatFixed digits v)

theorem plain_formatNumber {fmt : Option String} {v : ℚ} : ∀ text ∈ formatNumber fmt v, Plain text := by
  unfold formatNumber
  split
  · exact plain_some (plain_formatRounded v)
  split
  · exact plain_some (plain_buf32_formatFixed 1 v)
  split
  · exact plain_some (plain_buf32_formatFixed 2 v)
  split
  · exact plain_some (plain_buf32_formatFixed 3 v)
  · exact plain_none

theorem plain_lookupText {lkp : List Lookup} (h : ∀ entry ∈ lkp, Plain entry.nut) (v : ℚ) :
    ∀ text ∈ lookupText lkp v, Plain text := by
  intro text htext
  obtain ⟨entry, hentry, rfl⟩ := Option.map_eq_some_iff.mp htext
  exact h entry (List.mem_of_find?_eq_some hentry)

theorem plain_abmStatusText (value : Int) (ctx : Context) : ∀ text ∈ abmStatusText value ctx, Plain text := by
  have hpick : ∀ (texts : List (Option String)) (n : Nat), (∀ t ∈ texts, ∀ text ∈ t, Plain text) →
      ∀ text ∈ texts.getD n none, Plain text := by
    intro texts n hall text htext
    rw [List.getD_eq_getElem?_getD] at htext
    cases hget : texts[n]? with
    | none =>
        rw [hget] at htext
        cases htext
    | some t =>
        rw [hget] at htext
        exact hall t (List.mem_of_getElem? hget) text htext
  unfold abmStatusText
  split
  · exact plain_none
  split
  · exact hpick _ _ (by decide)
  · exact hpick _ _ (by decide)

theorem plain_staticText {info : HidInfo} (hinfo : PlainInfo info) (v : ℚ) (ctx : Context) :
    ∀ text ∈ staticText info v ctx, Plain text := by
  unfold staticText
  split
  · exact plain_lookupText hinfo.lkp v
  · exact plain_abmStatusText _ ctx
  · exact plain_none

theorem plain_openupsTemperature (v : ℚ) : Plain (openupsTemperature v) := by
  unfold openupsTemperature
  dsimp only
  split
  · decide
  split
  · decide
  split
  · exact plain_toString_int _
  · exact plain_buf32_formatFixed 2 _

theorem plain_batteryDateText (value : Int) : Plain (batteryDateText value) := by
  unfold batteryDateText
  split
  · decide
  · apply plain_buf32
    have hfirst := ((plain_formatPadded 4 (1980 + value / 512)).append (b := "/") (by decide)).append
      (plain_formatPadded 2 (value / 32 % 16))
    exact (hfirst.append (by decide)).append (plain_formatPadded 2 _)

theorem plain_apcDateText (v : ℚ) : Plain (apcDateText v) := by
  unfold apcDateText
  dsimp only
  split
  · decide
  · apply plain_buf32
    exact (((plain_formatPadded 4 _).append (by decide)).append (plain_formatPadded 2 _)).append (by decide)
      |>.append (plain_formatPadded 2 _)

theorem plain_mgeClockText (date : Bool) (v : ℚ) : ∀ text ∈ mgeClockText date v, Plain text := by
  have hparts : ∀ {first : String} {mark : String} {second third : Int}, Plain first → Plain mark →
      Plain (first ++ mark ++ formatPadded 2 second ++ mark ++ formatPadded 2 third) := fun hfirst hmark =>
    (((hfirst.append hmark).append (plain_formatPadded 2 _)).append hmark).append (plain_formatPadded 2 _)
  unfold mgeClockText
  dsimp only
  split
  · exact plain_none
  split
  · split
    · exact plain_some (hparts (plain_toString_int _) (by decide))
    · exact plain_none
  · exact plain_some (hparts (plain_formatPadded 2 _) (by decide))

theorem plainResult_computeRealpower (data : Option UPSData) : PlainResult (computeRealpower data) := by
  unfold computeRealpower
  split
  · exact nofun
  · split
    · exact plainResult_ok (plain_toString_int _)
    · exact nofun

theorem plainResult_mgeBatteryVoltage (nominal : Bool) (v : ℚ) (ctx : Context) :
    PlainResult (mgeBatteryVoltage nominal v ctx) := by
  unfold mgeBatteryVoltage
  dsimp only
  split
  · exact nofun
  split
  · exact plainResult_okFixed _ _
  split
  · exact plainResult_okFixed _ _
  · exact nofun

theorem plainResult_decodePegasus {text : String} (h : Plain text) (ctx : Context) :
    PlainResult (decodePegasus text ctx) := by
  unfold decodePegasus
  split
  · exact nofun
  split
  · exact plainResult_ok h
  · exact nofun

theorem plainResult_decode {info : HidInfo} (hinfo : PlainInfo info) (v : ℚ) {ctx : Context}
    (hctx : Plain ctx.powercomBatteryVoltage) (data : Option UPSData) : PlainResult (decode info v ctx data).1 := by
  unfold decode
  cases hconv : info.conv
  case number => exact plainResult_okOrFail plain_formatNumber
  case stringId =>
    dsimp only
    split
    · exact nofun
    · exact nofun
  case eatonComputeRealpower => exact plainResult_computeRealpower data
  case cpsBattStatus =>
    exact plainResult_ok (plain_buf32 ((plain_formatFixed 0 v).append (by decide)))
  case cpsBattVolt => exact plainResult_ok (plain_buf32_formatFixed 1 _)
  case cpsInputFreq => exact plainResult_ok (plain_buf32_formatFixed 1 _)
  case cpsOutputFreq => exact plainResult_ok (plain_buf32_formatFixed 1 _)
  case apcDate => exact plainResult_ok (plain_apcDateText v)
  case powercomHackVoltage =>
    dsimp only
    split
    · exact plainResult_ok (by decide)
    · exact plainResult_ok hctx
  case powercomStartup => exact plainResult_ok (plain_toString _)
  case powercomShutdown => exact plainResult_ok (plain_toString _)
  case ecoflowRuntime =>
    dsimp only
    split
    · exact nofun
    · exact plainResult_okFixed _ _
  case openupsTemperature => exact plainResult_ok (plain_openupsTemperature v)
  case mgeBatteryVoltage => exact plainResult_mgeBatteryVoltage _ v ctx
  case mgeBatteryVoltageNominal => exact plainResult_mgeBatteryVoltage _ v ctx
  case abmStatus =>
    dsimp only
    split
    · exact nofun
    · split
      · rename_i htext
        exact plainResult_ok (plain_staticText hinfo v ctx _ htext)
      · exact nofun
  case lookup => exact plainResult_okOrFail (plain_staticText hinfo v ctx)
  case batteryDate => exact plainResult_ok (plain_batteryDateText _)
  case mgeDate => exact plainResult_okOrFail (plain_mgeClockText true v)
  case mgeTime => exact plainResult_okOrFail (plain_mgeClockText false v)
  case nominalVoltage =>
    show PlainResult (decodeNominalVoltage v ctx).1
    unfold decodeNominalVoltage
    split
    · exact nofun
    · dsimp only
      split
      · exact plainResult_ok (plain_formatRounded v)
      · exact nofun
  case pegasusThreshold => exact plainResult_decodePegasus (plain_formatRounded v) ctx
  case pegasusYesNo =>
    apply plainResult_decodePegasus
    split <;> decide
  -- the numbers with a fixed format, and the rows that convert nothing
  all_goals first
    | exact plainResult_okFixed _ _
    | exact nofun

theorem plainResult_convert {info : HidInfo} (hinfo : PlainInfo info) (v : ℚ) {ctx : Context}
    (hctx : Plain ctx.powercomBatteryVoltage) (data : Option UPSData) : PlainResult (convert info v ctx data).1 := by
  unfold convert
  split
  · split
    · rename_i htext
      exact plainResult_ok (plain_staticText hinfo v ctx _ htext)
    · exact plainResult_decode hinfo v hctx data
  · exact plainResult_decode hinfo v hctx data

/-! ### Rows -/

structure PlainRow (b : Bound) : Prop where
  info : PlainInfo b.info
  value : Plain b.value

def PlainRows (binds : List Bound) : Prop := ∀ b ∈ binds, PlainRow b

theorem PlainRows.of_getElem? {binds : List Bound} (h : ∀ (k : Nat) b, binds[k]? = some b → PlainRow b) :
    PlainRows binds := by
  intro b hb
  obtain ⟨k, hk⟩ := List.getElem?_of_mem hb
  exact h k b hk

theorem PlainRow.absorb {b : Bound} (h : PlainRow b) {result : Decoded} (hresult : PlainResult result) :
    PlainRow (b.absorb result) := by
  cases result with
  | ok text => exact ⟨h.info, hresult text rfl⟩
  | fail => exact ⟨h.info, h.value⟩
  | defer => exact ⟨h.info, h.value⟩
  | clear => exact ⟨h.info, h.value⟩

theorem PlainRow.noteIndex {b : Bound} (h : PlainRow b) (v : ℚ) : PlainRow (b.noteIndex v) := by
  unfold Bound.noteIndex
  split
  · exact ⟨h.info, h.value⟩
  · exact h

theorem PlainRows.onValue {binds : List Bound} (h : PlainRows binds) (i : Nat) (v : ℚ) {ctx : Context}
    (hctx : Plain ctx.powercomBatteryVoltage) (data : Option UPSData) : PlainRows (onValue binds i v ctx data).1 := by
  apply PlainRows.of_getElem?
  intro k b' hb'
  obtain ⟨b, c, hb, hrole, hcase⟩ := onValue_row hb'
  have hrow := h b (List.mem_of_getElem? hb)
  have hown : PlainRow c := by
    rcases hcase with ⟨-, rfl⟩ | ⟨-, -, rfl⟩ | ⟨-, -, rfl | ⟨-, rfl⟩⟩
    · exact hrow
    · exact (hrow.noteIndex v).absorb (plainResult_convert hrow.info v hctx data)
    · exact hrow
    · exact ⟨hrow.info, hrow.value⟩
  rw [hrole]
  exact ⟨hown.info, hown.value⟩

theorem voltage_applyRow (info : HidInfo) (v : ℚ) (ctx : Context) (data : Option UPSData) :
    (applyRow info v ctx data).powercomBatteryVoltage = ctx.powercomBatteryVoltage := by
  unfold applyRow
  split
  · rfl
  split
  · rfl
  · unfold applyInternal
    cases info.conv
    case abmPathMode | abmPathStatus =>
      dsimp only
      split
      · rfl
      · split <;> rfl
    all_goals rfl

theorem voltage_onValue (binds : List Bound) (i : Nat) (v : ℚ) (ctx : Context) (data : Option UPSData) :
    (onValue binds i v ctx data).2.powercomBatteryVoltage = ctx.powercomBatteryVoltage := by
  cases hb : binds[i]? with
  | none =>
      unfold onValue
      rw [hb]
  | some b =>
      cases hconverts : b.converts with
      | true =>
          obtain ⟨nominal, cps, hcontext⟩ := context_convert b.info v ctx data
          rw [onValue_of_converts hb hconverts, hcontext]
      | false =>
          rcases onValue_of_not_converts hb hconverts v ctx data with hsame | ⟨-, hwalk⟩
          · rw [hsame]
          · rw [hwalk]
            exact voltage_applyRow b.info v ctx data

theorem voltage_walkInternalRows (binds : List Bound) (ctx : Context) (data : Option UPSData) :
    (walkInternalRows binds ctx data).powercomBatteryVoltage = ctx.powercomBatteryVoltage := by
  unfold walkInternalRows
  induction binds generalizing ctx with
  | nil => rfl
  | cons b binds ih =>
      rw [List.foldl_cons, ih]
      split
      · rfl
      · exact voltage_applyRow b.info b.last ctx data

theorem PlainRows.resolve {binds : List Bound} (h : PlainRows binds) : PlainRows (resolve binds) := by
  apply PlainRows.of_getElem?
  intro k b' hb'
  obtain ⟨b, hb, hrole⟩ := getElem?_of_resolve hb'
  have hrow := h b (List.mem_of_getElem? hb)
  rw [hrole]
  exact ⟨hrow.info, hrow.value⟩

theorem PlainRows.set {binds : List Bound} (h : PlainRows binds) (i : Nat) {b : Bound} (hb : PlainRow b) :
    PlainRows (binds.set i b) := by
  intro c hc
  rcases List.mem_or_eq_of_mem_set hc with hmem | rfl
  · exact h c hmem
  · exact hb

theorem PlainRows.map {binds : List Bound} (h : PlainRows binds) {f : Bound → Bound}
    (hf : ∀ b, PlainRow b → PlainRow (f b)) : PlainRows (binds.map f) := by
  intro c hc
  obtain ⟨b, hb, rfl⟩ := List.mem_map.mp hc
  exact hf b (h b hb)

theorem PlainRows.onString {binds : List Bound} (h : PlainRows binds) (i : Nat) {text : String} (htext : Plain text) :
    PlainRows (onString binds i text) := by
  unfold NutTable.onString
  cases hb : binds[i]? with
  | none => exact h
  | some b =>
      dsimp only
      split
      · exact h
      · have htake : PlainRow (b.take text) := ⟨(h b (List.mem_of_getElem? hb)).info, htext⟩
        exact (h.set i htake).resolve

theorem PlainRows.finishInit {binds : List Bound} (h : PlainRows binds) : PlainRows (finishInit binds) := by
  have hfinish : PlainRows (binds.map finishRow) := by
    apply h.map
    intro b hb
    unfold finishRow
    split
    · exact hb
    split
    · exact ⟨hb.info, hb.value⟩
    · exact hb
  unfold NutTable.finishInit
  dsimp only
  split
  · exact hfinish.resolve
  · exact hfinish

theorem plainRows_bindRows {table : List HidInfo} (htable : ∀ info ∈ table, PlainInfo info) (usages : List HIDUsageDef)
    (skip : List String) : PlainRows (bindRows table usages skip) := by
  intro b hb
  obtain ⟨info, hinfo, hbind⟩ := List.mem_filterMap.mp hb
  have hrow := htable info (List.mem_filter.mp hinfo).1
  unfold bindRow at hbind
  split at hbind
  · cases hbind
  · obtain rfl := Option.some.inj hbind
    refine ⟨hrow, ?_⟩
    dsimp only
    split
    · exact hrow.default
    · decide

theorem plain_vendorAlarms {binds : List Bound} (h : PlainRows binds) : Plain (vendorAlarms binds) := by
  apply plain_foldl_appendWord
  · intro w hw
    obtain ⟨b, hb, htext⟩ := List.mem_filterMap.mp hw
    split at htext
    · exact plain_lookupText (h b hb).info.lkp b.last w htext
    · cases htext
  · decide

end EspNut.NutTable
