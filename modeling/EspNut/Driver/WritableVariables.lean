import EspNut.Driver.Poll
import EspNut.Driver.StatusString
import EspNut.Hid.Parser
import EspNut.Ups.Variables
import Mathlib.Data.List.Sort

/-!
# Asking what is writable

The list of the writable variables is asked for between any two steps of the driver. The values a conversion accepts are tried on the context the reports are converted with, and trying a nominal voltage fixes the voltage class when no report has. `HasVoltage` names the rows that could have fixed it.
-/

namespace EspNut.NutTable

open Lib

/-! ### The values a variable takes -/

/-- A lookup value that the conversion of the row accepts. -/
def acceptsValue (info : HidInfo) (entry : Lookup) (ctx : Context) : Bool × Context :=
  if info.conv = .nominalVoltage then nominalVoltageValid entry.hid ctx
  else if info.conv = .pegasusThreshold ∨ info.conv = .pegasusYesNo then (pegasusValid ctx, ctx)
  else (true, ctx)

def enumValue (info : HidInfo) (found : List String × Context) (entry : Lookup) : List String × Context :=
  let (ok, ctx) := acceptsValue info entry found.2
  (if ok then found.1 ++ [entry.nut] else found.1, ctx)

def enumValues (info : HidInfo) (ctx : Context) : List String × Context :=
  if hasFlag info.hidflags huFlagEnum = false ∨ hasFlag info.infoFlags stFlagRW = false then ([], ctx)
  else info.lkp.foldl (enumValue info) ([], ctx)

/-- The order of upsd's tree. -/
def compareIgnoreCase : List Char → List Char → Int
  | [], [] => 0
  | [], b :: _ => -b.toNat
  | a :: _, [] => a.toNat
  | a :: as, b :: bs =>
      if a.toLower ≠ b.toLower then (a.toLower.toNat : Int) - b.toLower.toNat else compareIgnoreCase as bs

/-! ### The voltage class -/

theorem nominalVoltageValid_of_fixed {ctx : Context} (h : 0 ≤ ctx.nominal) (value : Int) :
    (nominalVoltageValid value ctx).2 = ctx := by
  unfold nominalVoltageValid
  exact if_neg (not_lt.mpr h)

theorem acceptsValue_of_fixed {info : HidInfo} {ctx : Context} (h : info.conv = .nominalVoltage → 0 ≤ ctx.nominal)
    (entry : Lookup) : (acceptsValue info entry ctx).2 = ctx := by
  unfold acceptsValue
  split
  · rename_i hconv
    exact nominalVoltageValid_of_fixed (h hconv) entry.hid
  · split <;> rfl

/-- Trying values leaves a fixed class, and any other conversion leaves the context. -/
theorem enumValues_of_fixed {info : HidInfo} {ctx : Context} (h : info.conv = .nominalVoltage → 0 ≤ ctx.nominal) :
    (enumValues info ctx).2 = ctx := by
  unfold enumValues
  split
  · rfl
  · have hfold : ∀ (lkp : List Lookup) (out : List String), (lkp.foldl (enumValue info) (out, ctx)).2 = ctx := by
      intro lkp
      induction lkp with
      | nil => exact fun _ => rfl
      | cons entry rest ih =>
          intro out
          have hentry : enumValue info (out, ctx) entry
              = (if (acceptsValue info entry ctx).1 then out ++ [entry.nut] else out, ctx) :=
            Prod.ext rfl (acceptsValue_of_fixed h entry)
          rw [List.foldl_cons, hentry]
          exact ih _
    exact hfold info.lkp []

/-- A value fixes the class where it is the first one that is converted. -/
theorem nominal_nominalVoltage (v : ℚ) (ctx : Context) :
    (decodeNominalVoltage v ctx).2.nominal
      = if ctx.ready = true ∧ ctx.nominal < 0 then Rounding.toLong v else ctx.nominal := by
  unfold decodeNominalVoltage nominalVoltageValid
  cases hready : ctx.ready with
  | false => simp
  | true =>
      by_cases hnominal : ctx.nominal < 0
      · simp [hnominal]
      · simp [hnominal]

theorem nominal_decode {info : HidInfo} (hconv : info.conv ≠ .nominalVoltage) (v : ℚ) (ctx : Context)
    (data : Option UPSData) : (decode info v ctx data).2.nominal = ctx.nominal := by
  unfold decode
  cases h : info.conv
  case nominalVoltage => exact absurd h hconv
  case cpsBattVolt =>
    show (decodeCpsBattVolt v ctx data).2.nominal = _
    unfold decodeCpsBattVolt
    dsimp only
    split <;> rfl
  case cpsInputFreq =>
    show (decodeCpsInputFreq v ctx data).2.nominal = _
    unfold decodeCpsInputFreq
    dsimp only
    split <;> rfl
  case cpsOutputFreq =>
    show (decodeCpsOutputFreq v ctx data).2.nominal = _
    unfold decodeCpsOutputFreq
    dsimp only
    split <;> rfl
  case abmStatus =>
    dsimp only
    split
    · rfl
    · split <;> rfl
  all_goals rfl

theorem nominal_convert (info : HidInfo) (v : ℚ) (ctx : Context) (data : Option UPSData) :
    (convert info v ctx data).2.nominal
      = if info.conv = .nominalVoltage ∧ ctx.ready = true ∧ ctx.nominal < 0 then Rounding.toLong v else ctx.nominal := by
  by_cases hconv : info.conv = .nominalVoltage
  · have hdecode : convert info v ctx data = decodeNominalVoltage v ctx := by simp [convert, decode, hconv]
    rw [hdecode, nominal_nominalVoltage]
    simp [hconv]
  · rw [if_neg fun h => hconv h.1]
    unfold convert
    split
    · split
      · rfl
      · exact nominal_decode hconv v ctx data
    · exact nominal_decode hconv v ctx data

/-- A class that is fixed stays the same, and whether the model is known does not change. -/
structure Context.Later (ctx ctx' : Context) : Prop where
  nominal : 0 ≤ ctx.nominal → ctx'.nominal = ctx.nominal
  ready : ctx'.ready = ctx.ready

theorem Context.Later.refl (ctx : Context) : ctx.Later ctx := ⟨fun _ => rfl, rfl⟩

theorem Context.Later.trans {ctx ctx' ctx'' : Context} (h : ctx.Later ctx') (h' : ctx'.Later ctx'') : ctx.Later ctx'' := by
  refine ⟨fun hfixed => ?_, h'.ready.trans h.ready⟩
  have hsame := h.nominal hfixed
  rw [h'.nominal (hsame ▸ hfixed), hsame]

theorem later_convert (info : HidInfo) (v : ℚ) (ctx : Context) (data : Option UPSData) :
    ctx.Later (convert info v ctx data).2 := by
  refine ⟨fun hfixed => ?_, ?_⟩
  · rw [nominal_convert, if_neg]
    exact fun hfirst => absurd hfirst.2.2 (not_lt.mpr hfixed)
  · obtain ⟨nominal, cps, hcontext⟩ := context_convert info v ctx data
    rw [hcontext]

theorem class_applyRow (info : HidInfo) (v : ℚ) (ctx : Context) (data : Option UPSData) :
    (applyRow info v ctx data).nominal = ctx.nominal ∧ (applyRow info v ctx data).ready = ctx.ready := by
  unfold applyRow
  split
  · exact ⟨rfl, rfl⟩
  split
  · exact ⟨rfl, rfl⟩
  · unfold applyInternal
    cases info.conv
    case abmPathMode | abmPathStatus =>
      dsimp only
      split
      · exact ⟨rfl, rfl⟩
      · split <;> exact ⟨rfl, rfl⟩
    all_goals exact ⟨rfl, rfl⟩

theorem class_walkInternalRows (binds : List Bound) (ctx : Context) (data : Option UPSData) :
    (walkInternalRows binds ctx data).nominal = ctx.nominal ∧ (walkInternalRows binds ctx data).ready = ctx.ready := by
  unfold walkInternalRows
  induction binds generalizing ctx with
  | nil => exact ⟨rfl, rfl⟩
  | cons b rest ih =>
      rw [List.foldl_cons]
      split
      · exact ih ctx
      · obtain ⟨hnominal, hready⟩ := ih (applyRow b.info b.last ctx data)
        obtain ⟨hown, hknown⟩ := class_applyRow b.info b.last ctx data
        exact ⟨hnominal.trans hown, hready.trans hknown⟩

/-! ### Rows that took a nominal voltage -/

def HasVoltage (binds : List Bound) : Prop := ∃ b ∈ binds, b.info.conv = .nominalVoltage ∧ b.first = .ok

/-- A row that took a nominal voltage fixed the class. -/
def Classed (binds : List Bound) (ctx : Context) : Prop := HasVoltage binds → 0 ≤ ctx.nominal

/-- The value fixes no negative class. -/
def FixesNoNegative (b : Bound) (v : ℚ) (ctx : Context) : Prop :=
  b.converts = true → b.info.conv = .nominalVoltage → ctx.ready = true → ctx.nominal < 0 → 0 ≤ Rounding.toLong v

instance (b : Bound) (v : ℚ) (ctx : Context) : Decidable (FixesNoNegative b v ctx) :=
  inferInstanceAs (Decidable (_ → _ → _ → _ → _))

theorem HasVoltage.of_rows {binds binds' : List Bound}
    (hrows : ∀ (k : Nat) (b' : Bound), binds'[k]? = some b' → ∃ b, binds[k]? = some b ∧ b'.info = b.info
      ∧ (b.info.conv = .nominalVoltage → b'.first = .ok → b.first = .ok)) (h : HasVoltage binds') : HasVoltage binds := by
  obtain ⟨b', hb', hconv, hfirst⟩ := h
  obtain ⟨k, hk⟩ := List.getElem?_of_mem hb'
  obtain ⟨b, hb, hinfo, hkept⟩ := hrows k b' hk
  rw [hinfo] at hconv
  exact ⟨b, List.mem_of_getElem? hb, hconv, hkept hconv hfirst⟩

theorem HasVoltage.of_map {binds : List Bound} {f : Bound → Bound} (hinfo : ∀ b, (f b).info = b.info)
    (hfirst : ∀ b, (f b).first = b.first) (h : HasVoltage (binds.map f)) : HasVoltage binds := by
  obtain ⟨b', hb', hconv, hok⟩ := h
  obtain ⟨b, hb, rfl⟩ := List.mem_map.mp hb'
  rw [hinfo] at hconv
  rw [hfirst] at hok
  exact ⟨b, hb, hconv, hok⟩

theorem HasVoltage.of_votes {binds binds' : List Bound} (hvotes : votes binds' = votes binds) (h : HasVoltage binds') :
    HasVoltage binds := by
  obtain ⟨b', hb', hconv, hfirst⟩ := h
  have hvote : (b'.info, b'.first) ∈ votes binds := by
    rw [← hvotes]
    exact List.mem_map.mpr ⟨b', hb', rfl⟩
  obtain ⟨b, hb, hsame⟩ := List.mem_map.mp hvote
  obtain ⟨hinfo, hfirst'⟩ := Prod.mk.inj hsame
  exact ⟨b, hb, hinfo ▸ hconv, hfirst' ▸ hfirst⟩

theorem later_onValue (binds : List Bound) (i : Nat) (v : ℚ) (ctx : Context) (data : Option UPSData) :
    ctx.Later (onValue binds i v ctx data).2 := by
  cases hb : binds[i]? with
  | none =>
      unfold onValue
      rw [hb]
      exact Context.Later.refl ctx
  | some b =>
      cases hconverts : b.converts with
      | true =>
          rw [onValue_of_converts hb hconverts]
          exact later_convert b.info v ctx data
      | false =>
          rcases onValue_of_not_converts hb hconverts v ctx data with hsame | ⟨-, hset⟩
          · rw [hsame]
            exact Context.Later.refl ctx
          · rw [hset]
            obtain ⟨hnominal, hready⟩ := class_applyRow b.info v ctx data
            exact ⟨fun _ => hnominal, hready⟩

/-- A row that takes a nominal voltage takes it once the model is known, and its value fixes the class. -/
theorem nominal_of_taken {b : Bound} {v : ℚ} {ctx : Context} {data : Option UPSData} (hconv : b.info.conv = .nominalVoltage)
    (hbefore : b.first ≠ .ok) (hfirst : (b.absorb (convert b.info v ctx data).1).first = .ok) (hopen : ctx.nominal < 0) :
    ctx.ready = true ∧ (convert b.info v ctx data).2.nominal = Rounding.toLong v := by
  have hdecode : convert b.info v ctx data = decodeNominalVoltage v ctx := by simp [convert, decode, hconv]
  have hready : ctx.ready = true := by
    rw [← Bool.not_eq_false]
    intro hwaits
    have hdefer : decodeNominalVoltage v ctx = (.defer, ctx) := if_pos hwaits
    rw [hdecode, hdefer] at hfirst
    exact hbefore hfirst
  refine ⟨hready, ?_⟩
  rw [nominal_convert, if_pos ⟨hconv, hready, hopen⟩]

theorem classed_onValue {binds : List Bound} {i : Nat} {v : ℚ} {ctx : Context} {data : Option UPSData}
    (hvalue : ∀ b, binds[i]? = some b → FixesNoNegative b v ctx) (h : Classed binds ctx) :
    Classed (onValue binds i v ctx data).1 (onValue binds i v ctx data).2 := by
  intro htaken
  by_cases hfixed : 0 ≤ ctx.nominal
  · rw [(later_onValue binds i v ctx data).nominal hfixed]
    exact hfixed
  -- the class is open, so the row of the value takes its first one now
  have hnone : ¬ HasVoltage binds := fun hhas => hfixed (h hhas)
  obtain ⟨b', hb', hconv', hfirst'⟩ := htaken
  obtain ⟨k, hk⟩ := List.getElem?_of_mem hb'
  obtain ⟨b, c, hb, hrole, hcase⟩ := onValue_row hk
  have hfirst : c.first = .ok := by
    rw [hrole] at hfirst'
    exact hfirst'
  have hconv : c.info.conv = .nominalVoltage := by
    rw [hrole] at hconv'
    exact hconv'
  have hbefore : b.info.conv = .nominalVoltage → b.first ≠ .ok :=
    fun hown hok => hnone ⟨b, List.mem_of_getElem? hb, hown, hok⟩
  rcases hcase with ⟨-, rfl⟩ | ⟨rfl, hconverts, rfl⟩ | ⟨-, -, rfl | ⟨-, rfl⟩⟩
  · exact absurd hfirst (hbefore hconv)
  · rw [absorb_info, noteIndex_info] at hconv
    have hnoted : (b.noteIndex v).info.conv = .nominalVoltage := by
      rw [noteIndex_info]
      exact hconv
    have htakes : ((b.noteIndex v).absorb (convert (b.noteIndex v).info v ctx data).1).first = .ok := by
      rw [noteIndex_info]
      exact hfirst
    obtain ⟨hready, hnominal⟩ :=
      nominal_of_taken hnoted (by rw [noteIndex_first]; exact hbefore hconv) htakes (not_le.mp hfixed)
    rw [noteIndex_info] at hnominal
    rw [onValue_of_converts hb hconverts, hnominal]
    exact hvalue b hb hconverts hconv hready (not_le.mp hfixed)
  · exact absurd hfirst (hbefore hconv)
  · exact absurd hfirst (hbefore hconv)

theorem HasVoltage.of_finishInit {binds : List Bound} (h : HasVoltage (finishInit binds)) : HasVoltage binds := by
  apply h.of_rows
  intro k b' hb'
  obtain ⟨b, hb, hrow⟩ := finishInit_row hb'
  refine ⟨b, hb, ?_, fun _ hfirst => ?_⟩
  · rw [hrow]
    exact finishRow_info b
  · rw [hrow] at hfirst
    replace hfirst : (finishRow b).first = .ok := hfirst
    unfold finishRow at hfirst
    split at hfirst
    · exact hfirst
    · split at hfirst
      · cases hfirst
      · exact hfirst

theorem HasVoltage.of_onString {binds : List Bound} {i : Nat} {text : String}
    (hstring : ∀ b, binds[i]? = some b → b.info.conv ≠ .nominalVoltage) (h : HasVoltage (onString binds i text)) :
    HasVoltage binds := by
  unfold onString at h
  split at h
  · exact h
  rename_i b hb
  split at h
  · exact h
  apply h.of_rows
  intro k b' hb'
  obtain ⟨c, hc, hrole⟩ := getElem?_of_resolve hb'
  have hinfo : b'.info = c.info := by rw [hrole]
  have hfirst : b'.first = c.first := by rw [hrole]
  by_cases hki : k = i
  · subst hki
    obtain ⟨hk, -⟩ := List.getElem?_eq_some_iff.mp hb
    rw [List.getElem?_set_self hk] at hc
    obtain rfl := Option.some.inj hc
    exact ⟨b, hb, hinfo, fun hconv => absurd hconv (hstring b hb)⟩
  · rw [List.getElem?_set_ne (Ne.symm hki)] at hc
    exact ⟨c, hc, hinfo, fun _ hok => hfirst ▸ hok⟩

/-- An active row got its first value, so the class is fixed when it is a row of nominal voltages. -/
theorem fixed_of_active {binds : List Bound} {ctx : Context} (hres : Resolved binds) (hclass : Classed binds ctx) {b : Bound}
    (hb : b ∈ binds) (hpub : isPublishedRow b.info = true) (hactive : b.role = .active) :
    b.info.conv = .nominalVoltage → 0 ≤ ctx.nominal := by
  intro hconv
  obtain ⟨k, hk⟩ := List.getElem?_of_mem hb
  have hrole := hres k b hk hpub
  rw [hactive] at hrole
  split at hrole
  · exact hclass ⟨b, hb, hconv, (Election.roleOf_eq_active_iff.mp hrole.symm).1⟩
  · cases hrole

end EspNut.NutTable

namespace EspNut.GenericDriver

open Lib NutTable

variable {sub : Subdriver} {depth : Nat} {s s' : State}

/-! ### The list -/

def isListed (data : UPSData) (b : Bound) : Bool :=
  decide (b.role = .active) && hasFlag b.info.infoFlags stFlagRW && data.hasKey b.info.infoType

def listRow (data : UPSData) (found : List RWVariable × Context) (b : Bound) : List RWVariable × Context :=
  if isListed data b = false then found
  else
    let (enums, ctx) := enumValues b.info found.2
    let driverSide := hasFlag b.info.hidflags huFlagAbsent || Text.startsWith b.info.infoType "ups.delay."
    (found.1 ++ [{ name := b.info.infoType, aux := b.info.infoLen, enums, driverSide }], ctx)

/-- A delay kept by the firmware, unless a row lists it. -/
def listDelay (delayAux : Nat) (data : UPSData) (out : List RWVariable) (name : String) : List RWVariable :=
  if data.hasKey name = false then out
  else if out.any fun v => v.name = name then out
  else out ++ [{ name, aux := delayAux, enums := [], driverSide := true }]

/-- The writable variables of the host's data, and the driver after the question. -/
def writableVariables (delayAux : Nat) (data : UPSData) (s : State) : List RWVariable × State :=
  let (rows, ctx) := s.rows.foldl (listRow data) ([], s.ctx)
  let out := ["ups.delay.shutdown", "ups.delay.start"].foldl (listDelay delayAux data) rows
  (out.insertionSort fun a b => compareIgnoreCase a.name.toList b.name.toList ≤ 0, { s with ctx })

/-- The question leaves a driver whose listed rows accept values without fixing the class. -/
theorem writableVariables_of_fixed {data : UPSData} (delayAux : Nat)
    (h : ∀ b ∈ s.rows, b.role = .active → b.info.conv = .nominalVoltage → 0 ≤ s.ctx.nominal) :
    (writableVariables delayAux data s).2 = s := by
  have hfold : ∀ (rows : List Bound) (out : List RWVariable),
      (∀ b ∈ rows, b.role = .active → b.info.conv = .nominalVoltage → 0 ≤ s.ctx.nominal) →
      (rows.foldl (listRow data) (out, s.ctx)).2 = s.ctx := by
    intro rows
    induction rows with
    | nil => exact fun _ _ => rfl
    | cons b rest ih =>
        intro out hrows
        have hrow : (listRow data (out, s.ctx) b).2 = s.ctx := by
          unfold listRow
          split
          · rfl
          · rename_i hlisted
            rw [Bool.not_eq_false] at hlisted
            unfold isListed at hlisted
            simp only [Bool.and_eq_true, decide_eq_true_eq] at hlisted
            exact enumValues_of_fixed (hrows b List.mem_cons_self hlisted.1.1)
        rw [List.foldl_cons, ← Prod.eta (listRow data (out, s.ctx) b), hrow]
        exact ih _ fun c hc => hrows c (List.mem_cons_of_mem b hc)
  unfold writableVariables
  have hctx := hfold s.rows [] h
  exact congrArg (fun ctx => { s with ctx }) hctx

/-! ### What the steps keep -/

/-- The rows of nominal voltages publish what they read from the device. -/
def ReadsVoltages (sub : Subdriver) : Prop :=
  ∀ info ∈ sub.tables, info.conv = .nominalVoltage →
    isPublishedRow info = true ∧ hasFlag info.hidflags huFlagAbsent = false

instance (sub : Subdriver) : Decidable (ReadsVoltages sub) := inferInstanceAs (Decidable (∀ info ∈ _, _))

/-- What the steps between two bindings do to the rows and the class. -/
structure KeepsClass (s s' : State) : Prop where
  onward : Onward s s'
  later : s.ctx.Later s'.ctx
  classed : Classed s.rows s.ctx → Classed s'.rows s'.ctx

theorem KeepsClass.refl (s : State) : KeepsClass s s := ⟨Onward.refl s, Context.Later.refl s.ctx, id⟩

theorem KeepsClass.trans {s'' : State} (h : KeepsClass s s') (h' : KeepsClass s' s'') : KeepsClass s s'' :=
  ⟨h.onward.trans h'.onward, h.later.trans h'.later, fun hclass => h'.classed (h.classed hclass)⟩

theorem KeepsClass.of_rows (h : Onward s s') (hctx : s'.ctx = s.ctx) (hrows : HasVoltage s'.rows → HasVoltage s.rows) :
    KeepsClass s s' := by
  refine ⟨h, hctx ▸ Context.Later.refl s.ctx, fun hclass htaken => ?_⟩
  rw [hctx]
  exact hclass (hrows htaken)

theorem keepsClass_value {i : Nat} {v : ℚ} (hvalue : ∀ b, s.rows[i]? = some b → FixesNoNegative b v s.ctx)
    (clears : List String) :
    KeepsClass s { s with
      rows := (onValue s.rows i v s.ctx (some s.data)).1
      ctx := (onValue s.rows i v s.ctx (some s.data)).2
      clears } :=
  ⟨⟨evolves_onValue s.rows i v s.ctx (some s.data), rfl, rfl⟩, later_onValue s.rows i v s.ctx (some s.data),
    classed_onValue hvalue⟩

theorem keepsClass_publishRow {i : Nat} (h : publishRow depth s i = some s') : KeepsClass s s' := by
  refine publishRow_invariant ?_ ?_ ?_ ?_ (KeepsClass.refl s) h
  · intro t k b hb _ ht
    have hvotes : votes (t.rows.set k { b with cleared := false }) = votes t.rows := votes_set_same hb rfl rfl
    apply ht.trans
    exact KeepsClass.of_rows ⟨Evolves.of_set hb rfl rfl rfl, rfl, rfl⟩ rfl (HasVoltage.of_votes hvotes)
  · exact fun t k b _ _ ht => ht.trans (KeepsClass.of_rows ⟨Evolves.refl _, rfl, rfl⟩ rfl id)
  · exact fun t ht => ht.trans (KeepsClass.of_rows ⟨Evolves.refl _, rfl, rfl⟩ rfl id)
  · -- the estimate of the power is computed from the value 0
    intro t j b hb _ ht
    apply ht.trans
    exact keepsClass_value (fun b _ _ _ _ _ => le_of_eq (by decide +kernel)) t.clears

/-! ### Reports -/

variable {t : Transport} {reportId reportType : Nat} {bytes : List Byte}

/-- No row of nominal voltages is given a negative first voltage. -/
def GivesNoNegative (t : Transport) (reportId reportType : Nat) (bytes : List Byte) (s : State) : Prop :=
  ∀ b ∈ s.rows, ∀ v ∈ givenValue t reportId reportType bytes b, FixesNoNegative b v s.ctx

instance (t : Transport) (reportId reportType : Nat) (bytes : List Byte) (s : State) :
    Decidable (GivesNoNegative t reportId reportType bytes s) :=
  inferInstanceAs (Decidable (∀ b ∈ s.rows, _))

theorem keepsClass_readRow {i : Nat}
    (hvalue : ∀ b v, s.rows[i]? = some b → givenValue t reportId reportType bytes b = some v → FixesNoNegative b v s.ctx)
    (h : readRow t depth reportId reportType bytes s i = some s') : KeepsClass s s' := by
  cases hb : s.rows[i]? with
  | none =>
      unfold readRow at h
      rw [hb] at h
      obtain rfl := Option.some.inj h
      exact KeepsClass.refl s
  | some b =>
      cases hgiven : givenValue t reportId reportType bytes b with
      | none =>
          obtain rfl : s = s' := by
            unfold givenValue at hgiven
            unfold readRow at h
            rw [hb] at h
            dsimp only at h
            split at hgiven
            · rename_i hcommand
              rw [if_pos hcommand] at h
              exact Option.some.inj h
            · rename_i hcommand
              rw [if_neg hcommand, Option.map_eq_none_iff.mp hgiven] at h
              exact Option.some.inj h
          exact KeepsClass.refl s
      | some v =>
          obtain ⟨clears, hread⟩ := readRow_of_given depth hb hgiven
          rw [hread] at h
          refine (keepsClass_value (fun c hc => ?_) clears).trans (keepsClass_publishRow h)
          obtain rfl := Option.some.inj (hb.symm.trans hc)
          exact hvalue b v hb hgiven

/-- A row that converts its value at its turn would have converted it at the start of the report. -/
theorem fixesNoNegative_at_turn (hres : Resolved s.rows) (hkeeps : KeepsClass s s') {k : Nat} {b b' : Bound} {v : ℚ}
    (hb : s.rows[k]? = some b) (hb' : s'.rows[k]? = some b') (h : FixesNoNegative b v s.ctx) :
    FixesNoNegative b' v s'.ctx := by
  intro hconverts hconv hready hopen
  have hplace := place_of_places hkeeps.onward.rows.places hb hb'
  have hinfo : b'.info = b.info := congrArg Prod.fst hplace
  obtain ⟨hres', hadv⟩ := hkeeps.onward.rows.roles hres
  unfold Bound.converts at hconverts
  simp only [Bool.and_eq_true, decide_eq_true_eq] at hconverts
  rw [hinfo] at hconverts hconv
  have hrole : b.role ≠ .dead := by
    intro hdead
    have hsame := role_stable hres hres' hadv hb hb' hconverts.1.2 (by rw [hdead]; decide)
    exact hconverts.2 (hsame.trans hdead)
  have hstart : b.converts = true := by
    unfold Bound.converts
    simp only [Bool.and_eq_true, decide_eq_true_eq]
    exact ⟨hconverts.1, hrole⟩
  apply h hstart hconv
  · rw [← hkeeps.later.ready]
    exact hready
  · by_contra hfixed
    have hsame := hkeeps.later.nominal (not_lt.mp hfixed)
    exact hfixed (hsame ▸ hopen)

theorem keepsClass_readRows (hres : Resolved s.rows) (hvalues : GivesNoNegative t reportId reportType bytes s)
    (h : readRows t depth reportId reportType bytes s = some s') : KeepsClass s s' := by
  refine readRows_invariant ?_ (KeepsClass.refl s) h
  intro k a a' ha hstep
  apply ha.trans
  apply keepsClass_readRow ?_ hstep
  intro b' v hb' hgiven
  have hk : k < s.rows.length := by
    rw [← length_of_places ha.onward.rows.places]
    exact (List.getElem?_eq_some_iff.mp hb').1
  have hb : s.rows[k]? = some s.rows[k] := List.getElem?_eq_getElem hk
  rw [givenValue_of_place (place_of_places ha.onward.rows.places hb hb')] at hgiven
  exact fixesNoNegative_at_turn hres ha hb hb' (hvalues s.rows[k] (List.getElem_mem hk) v hgiven)

theorem keepsClass_endInit (s : State) : KeepsClass s (endInit s) := by
  refine KeepsClass.of_rows (onward_endInit s) ?_ ?_
  · unfold endInit
    split <;> rfl
  · unfold endInit
    split
    · exact HasVoltage.of_finishInit
    · exact id

theorem keepsClass_walkStatus (s : State) : KeepsClass s (walkStatus s) := by
  obtain ⟨hnominal, hready⟩ := class_walkInternalRows s.rows s.ctx (some s.data)
  refine ⟨⟨Evolves.refl _, rfl, rfl⟩, ⟨fun _ => hnominal, hready⟩, fun hclass htaken => ?_⟩
  show 0 ≤ (walkInternalRows s.rows s.ctx (some s.data)).nominal
  rw [hnominal]
  exact hclass htaken

theorem keepsClass_publishNutRows (h : publishNutRows sub depth s = some s') : KeepsClass s s' := by
  unfold publishNutRows at h
  obtain ⟨walked, hwalk, hlast⟩ := Option.bind_eq_some_iff.mp h
  obtain rfl := Option.some.inj hlast
  have hwalked : KeepsClass s walked :=
    walk_invariant (P := KeepsClass s) (KeepsClass.refl s) (fun i _ t t' ht hstep => ht.trans (keepsClass_publishRow hstep))
      hwalk
  exact hwalked.trans (KeepsClass.of_rows ⟨Evolves.refl _, rfl, rfl⟩ rfl id)

/-! ### Runs -/

/-- A driver whose class is fixed as soon as a row took a nominal voltage. -/
structure Voltages (sub : Subdriver) (s : State) : Prop where
  drawn : Drawn sub s.rows
  resolved : Resolved s.rows
  classed : Classed s.rows s.ctx

theorem Voltages.of_keepsClass (h : Voltages sub s) (hkeeps : KeepsClass s s') : Voltages sub s' where
  drawn := h.drawn.congr (infos_of_places hkeeps.onward.rows.places)
  resolved := (hkeeps.onward.rows.roles h.resolved).1
  classed := hkeeps.classed h.classed

theorem HasVoltage.of_applyAbsentOverride {rows : List Bound} {override : String × String}
    (h : HasVoltage (applyAbsentOverride rows override)) : HasVoltage rows := by
  apply h.of_map
  · intro b
    split <;> rfl
  · intro b
    split <;> rfl

theorem HasVoltage.of_overrides {overrides : List (String × String)} {rows : List Bound}
    (h : HasVoltage (overrides.foldl applyAbsentOverride rows)) : HasVoltage rows := by
  induction overrides generalizing rows with
  | nil => exact h
  | cons override rest ih => exact HasVoltage.of_applyAbsentOverride (ih h)

theorem HasVoltage.of_takeString {index : Nat} {text : String} {rows : List Bound}
    (h : HasVoltage (takeString index text rows)) : HasVoltage rows := by
  unfold takeString at h
  generalize List.range rows.length = is at h
  induction is generalizing rows with
  | nil => exact h
  | cons i is ih =>
      have hfirst := ih h
      unfold takeStringAt at hfirst
      split at hfirst
      · rename_i hwaits
        obtain ⟨b, hb, hown⟩ := Option.any_eq_true _ _ |>.mp hwaits
        refine hfirst.of_onString fun c hc => ?_
        obtain rfl := Option.some.inj (hb.symm.trans hc)
        rw [(of_decide_eq_true hown).1]
        decide
      · exact hfirst

theorem not_hasVoltage_boundRows (hreads : ReadsVoltages sub) (t : Transport) : ¬ HasVoltage (boundRows sub t) := by
  rintro ⟨b, hb, hconv, hfirst⟩
  have hinfo := drawn_boundRows sub t b.info (List.mem_map.mpr ⟨b, hb, rfl⟩)
  obtain ⟨-, habsent⟩ := hreads b.info hinfo hconv
  have hfresh : Fresh b := by
    unfold boundRows at hb
    rcases List.mem_append.mp hb with hown | hgeneric
    · exact fresh_bindRows hown
    · exact fresh_bindRows hgeneric
  rw [hfresh.spec.1, habsent] at hfirst
  cases hfirst

theorem Voltages.bindNutTable (hreads : ReadsVoltages sub) (t : Transport) (h : Voltages sub s) :
    Voltages sub (bindNutTable sub t s) where
  drawn := (bindNutTable_between h.drawn).1.drawn
  resolved := resolved_bindNutTable h.resolved
  classed := by
    unfold GenericDriver.bindNutTable
    split
    · exact h.classed
    · intro htaken
      have hbound : HasVoltage (resolve (boundRows sub t)) := HasVoltage.of_overrides htaken
      exact absurd (hbound.of_votes (votes_resolve _)) (not_hasVoltage_boundRows hreads t)

/-- No row of nominal voltages is given a negative value that would be its first. -/
def Event.givesNoNegative (sub : Subdriver) (s : State) : Event → Prop
  | .report t reportId reportType bytes => GivesNoNegative t reportId reportType bytes (bindNutTable sub t s)
  | _ => True

instance (sub : Subdriver) (s : State) (event : Event) : Decidable (event.givesNoNegative sub s) := by
  cases event
  case report t reportId reportType bytes =>
    exact inferInstanceAs (Decidable (GivesNoNegative t reportId reportType bytes (bindNutTable sub t s)))
  all_goals exact isTrue trivial

theorem voltages_postDecode (hreads : ReadsVoltages sub) (h : Voltages sub s)
    (hvalues : GivesNoNegative t reportId reportType bytes (bindNutTable sub t s))
    (hreport : postDecode sub t depth reportId reportType bytes s = some s') : Voltages sub s' := by
  have hcleared : Voltages sub { s with clears := [] } := ⟨h.drawn, h.resolved, h.classed⟩
  have hbound := hcleared.bindNutTable hreads t
  have hsame : bindNutTable sub t { s with clears := [] } = { bindNutTable sub t s with clears := [] } := by
    unfold GenericDriver.bindNutTable
    split <;> rfl
  replace hvalues : GivesNoNegative t reportId reportType bytes (bindNutTable sub t { s with clears := [] }) := by
    rw [hsame]
    exact hvalues
  unfold postDecode at hreport
  generalize bindNutTable sub t { s with clears := [] } = bound at *
  dsimp only at hreport
  split at hreport
  · obtain rfl := Option.some.inj hreport
    exact ⟨hbound.drawn, hbound.resolved, hbound.classed⟩
  · obtain ⟨read, hread, hrest⟩ := Option.bind_eq_some_iff.mp hreport
    obtain ⟨published, hpublish, hlast⟩ := Option.bind_eq_some_iff.mp hrest
    obtain rfl := Option.some.inj hlast
    have hreports := keepsClass_readRows hbound.resolved hvalues hread
    have hwalked := (keepsClass_endInit read).trans (keepsClass_walkStatus (endInit read))
    have hall := hbound.of_keepsClass ((hreports.trans hwalked).trans (keepsClass_publishNutRows hpublish))
    exact ⟨hall.drawn, hall.resolved, hall.classed⟩

/-- The hooks of a brand change other inputs of its conversions than the class. -/
def Event.keepsNominal (ctx : Context) : Event → Event
  | .inputs known => .inputs { known with nominal := ctx.nominal }
  | event => event

def driverStep (sub : Subdriver) (depth : Nat) (s : State) (event : Event) : Option State :=
  step sub depth s (event.keepsNominal s.ctx)

theorem voltages_driverStep (hreads : ReadsVoltages sub) {event : Event} (hevent : event.givesNoNegative sub s)
    (h : Voltages sub s) (hstep : driverStep sub depth s event = some s') : Voltages sub s' := by
  cases event with
  | report t reportId reportType bytes => exact voltages_postDecode hreads h hevent hstep
  | string t index text =>
      replace hstep : parseStringDescriptor sub t depth index text s = some s' := hstep
      unfold parseStringDescriptor at hstep
      dsimp only at hstep
      split at hstep
      · have htaken : KeepsClass s { s with rows := takeString index text s.rows } :=
          KeepsClass.of_rows ⟨evolves_takeString index text s.rows, rfl, rfl⟩ rfl HasVoltage.of_takeString
        have hpublished := keepsClass_publishNutRows hstep
        have hrows := h.of_keepsClass htaken
        refine Voltages.of_keepsClass ?_ hpublished
        exact ⟨hrows.drawn, hrows.resolved, hrows.classed⟩
      · obtain rfl := Option.some.inj hstep
        exact ⟨h.drawn, h.resolved, h.classed⟩
  | hostWrite key value =>
      obtain rfl := Option.some.inj hstep
      exact ⟨h.drawn, h.resolved, h.classed⟩
  | hostRemove key =>
      obtain rfl := Option.some.inj hstep
      exact ⟨h.drawn, h.resolved, h.classed⟩
  | noteHostValue name value =>
      have honward := onward_step (by simp [Event.keepsNominal]) hstep
      obtain rfl := Option.some.inj hstep
      refine h.of_keepsClass (KeepsClass.of_rows honward rfl (HasVoltage.of_map ?_ ?_))
      all_goals
        intro b
        split
        · rfl
        · split <;> rfl
  | setDriverSideValue name value =>
      have honward := onward_step (by simp [Event.keepsNominal]) hstep
      obtain rfl := Option.some.inj hstep
      exact h.of_keepsClass (KeepsClass.of_rows honward rfl HasVoltage.of_applyAbsentOverride)
  | resetDriverSideValue name =>
      have honward := onward_step (by simp [Event.keepsNominal]) hstep
      obtain rfl := Option.some.inj hstep
      refine h.of_keepsClass (KeepsClass.of_rows honward rfl (HasVoltage.of_map ?_ ?_))
      all_goals
        intro b
        split <;> rfl
  | completeInitialPoll =>
      have honward := onward_step (by simp [Event.keepsNominal]) hstep
      obtain rfl := Option.some.inj hstep
      refine h.of_keepsClass (KeepsClass.of_rows honward ?_ ?_)
      · unfold completeInitialPoll
        dsimp only
        split <;> rfl
      · unfold completeInitialPoll
        dsimp only
        split
        · exact HasVoltage.of_finishInit
        · exact id
  | firstFullDone =>
      obtain rfl := Option.some.inj hstep
      exact ⟨h.drawn, h.resolved, h.classed⟩
  | inputs ctx =>
      obtain rfl := Option.some.inj hstep
      exact ⟨h.drawn, h.resolved, h.classed⟩

/-! ### Questions between the steps -/

/-- What a driver is called for: a step, or the list of the writable variables. -/
inductive Call where
  | event (change : Event)
  | writableVariables (data : UPSData)

def Call.step? : Call → Option Event
  | .event change => some change
  | .writableVariables _ => none

/-- The answers to the questions among the calls, and the driver after them. -/
def serve (sub : Subdriver) (depth delayAux : Nat) : State → List Call → Option (List (List RWVariable) × State)
  | s, [] => some ([], s)
  | s, .event change :: rest => (driverStep sub depth s change).bind fun s' => serve sub depth delayAux s' rest
  | s, .writableVariables data :: rest =>
      let (answer, s') := writableVariables delayAux data s
      (serve sub depth delayAux s' rest).map fun (answers, final) => (answer :: answers, final)

theorem Voltages.asked (hreads : ReadsVoltages sub) (delayAux : Nat) (data : UPSData) (h : Voltages sub s) :
    (writableVariables delayAux data s).2 = s := by
  apply writableVariables_of_fixed
  intro b hb hactive hconv
  obtain ⟨hpub, -⟩ := hreads b.info (h.drawn b.info (List.mem_map.mpr ⟨b, hb, rfl⟩)) hconv
  exact fixed_of_active h.resolved h.classed hb hpub hactive hconv

/-- Calls that give no row a negative voltage leave the driver their steps alone would leave. -/
theorem serve_eq_steps {delayAux : Nat} (hreads : ReadsVoltages sub) (h : Voltages sub s) (calls : List Call)
    (hevents : AlongWalk (fun s event => event.givesNoNegative sub s) (driverStep sub depth) s (calls.filterMap Call.step?)) :
    (serve sub depth delayAux s calls).map Prod.snd = (calls.filterMap Call.step?).foldlM (driverStep sub depth) s := by
  induction calls generalizing s with
  | nil => rfl
  | cons call rest ih =>
      cases call with
      | event change =>
          have hcalls : (Call.event change :: rest).filterMap Call.step? = change :: rest.filterMap Call.step? := rfl
          rw [hcalls] at hevents ⊢
          obtain ⟨hevent, hrest⟩ := hevents
          show ((driverStep sub depth s change).bind fun s' => serve sub depth delayAux s' rest).map Prod.snd = _
          cases hstep : driverStep sub depth s change with
          | none =>
              rw [List.foldlM_cons, hstep]
              rfl
          | some s' =>
              rw [List.foldlM_cons, hstep]
              exact ih (voltages_driverStep hreads hevent h hstep) (hrest s' hstep)
      | writableVariables data =>
          have hcalls : (Call.writableVariables data :: rest).filterMap Call.step? = rest.filterMap Call.step? := rfl
          rw [hcalls] at hevents ⊢
          have hasked := h.asked hreads delayAux data
          show ((serve sub depth delayAux (writableVariables delayAux data s).2 rest).map _).map Prod.snd = _
          rw [hasked, Option.map_map]
          exact ih h hevents

theorem voltages_initial (sub : Subdriver) (data : UPSData) : Voltages sub (State.initial data) where
  drawn := fun _ h => absurd h (by simp [State.initial, infos])
  resolved := fun k b hb => absurd hb (by simp [State.initial])
  classed := fun ⟨b, hb, _⟩ => absurd hb (by simp [State.initial])

/-- The questions asked so far make no difference to the values and the roles of the rows, whatever comes later, nor to any later answer, as long as no row was given a negative first nominal voltage. -/
theorem questions_change_nothing (sub : Subdriver) (hreads : ReadsVoltages sub) (depth delayAux : Nat) (data : UPSData)
    (before later : List Call)
    (hevents : AlongWalk (fun s event => event.givesNoNegative sub s) (driverStep sub depth) (State.initial data)
      (before.filterMap Call.step?)) :
    ((serve sub depth delayAux (State.initial data) before).bind fun run => serve sub depth delayAux run.2 later)
      = ((before.filterMap Call.step?).foldlM (driverStep sub depth) (State.initial data)).bind fun s =>
          serve sub depth delayAux s later := by
  rw [← serve_eq_steps hreads (voltages_initial sub data) before hevents, Option.bind_map]
  rfl

/-! ### A negative nominal voltage -/

/-- The values of the nominal output voltage, in the order they are tried. -/
def kNominalOutputVoltage : List Lookup :=
  [⟨200, "200"⟩, ⟨208, "208"⟩, ⟨220, "220"⟩, ⟨230, "230"⟩, ⟨240, "240"⟩, ⟨100, "100"⟩, ⟨110, "110"⟩, ⟨120, "120"⟩,
    ⟨127, "127"⟩]

/-- The only row of nominal voltages in the tables. -/
def nominalDriver : Subdriver :=
  { bareSubdriver with
    hid2nut :=
      [ { infoType := "output.voltage.nominal", infoFlags := stFlagRW ||| stFlagString, infoLen := 3,
          hidpath := some "UPS.Flow.[4].ConfigVoltage", dfl := some "%.0f", hidflags := huFlagSemiStatic ||| huFlagEnum,
          conv := .nominalVoltage, lkp := kNominalOutputVoltage } ] }

/-- The voltage in the FEATURE report 6, in a byte from -128 to 127. -/
def nominalDevice : Transport :=
  (bareHost (((HIDParser.parseReportDescriptor
    [0x05, 0x84, 0x09, 0x04, 0xA1, 0x01, 0x09, 0x1E, 0xA1, 0x84, 0x85, 0x06, 0x75, 0x08, 0x95, 0x01, 0x15, 0x80, 0x25, 0x7F,
      0x09, 0x40, 0xB1, 0x02, 0xC0, 0xC0]).map HIDParser.usages).getD [])).toTransport

def nominalReport (voltage : Nat) : Event := .report nominalDevice 6 3 [6, voltage]

/-- The host asks with its data, where the nominal voltage is a text. -/
def nominalQuestion (voltage : String) : Call := .writableVariables (UPSData.empty.set "output.voltage.nominal" voltage)

/-- A question between two voltages of one class, and one after them. -/
theorem questions_change_nothing_nominal :
    ((serve nominalDriver 2 10 (State.initial UPSData.empty)
        [.event (nominalReport 110), nominalQuestion "110", .event (nominalReport 120)]).bind fun run =>
          serve nominalDriver 2 10 run.2 [nominalQuestion "120"])
      = (([.event (nominalReport 110), nominalQuestion "110", .event (nominalReport 120)].filterMap Call.step?).foldlM
          (driverStep nominalDriver 2) (State.initial UPSData.empty)).bind fun s =>
            serve nominalDriver 2 10 s [nominalQuestion "120"] :=
  questions_change_nothing nominalDriver (by decide +kernel) 2 10 UPSData.empty
    [.event (nominalReport 110), nominalQuestion "110", .event (nominalReport 120)] [nominalQuestion "120"]
    (by decide +kernel)

/-- The published voltage at the end of the calls. -/
def nominalPublished (calls : List Call) : Option String :=
  (serve nominalDriver 2 10 (State.initial UPSData.empty) calls).bind fun run => run.2.data.find "output.voltage.nominal"

/-- Behind a first voltage of -5 V the question fixes the class at 200 V, and the 120 V that come next are refused. -/
theorem question_fixes_the_class :
    nominalPublished [.event (nominalReport 0xFB), nominalQuestion "-5", .event (nominalReport 120)] = some "-5"
      ∧ nominalPublished [.event (nominalReport 0xFB), .event (nominalReport 120)] = some "120" := by
  decide +kernel

end EspNut.GenericDriver
