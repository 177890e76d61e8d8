import EspNut.Control.HidControl
import Mathlib.Tactic.Linarith
import Mathlib.Tactic.Positivity

/-!
# Values of the shutdown steps

A delay written into a field too narrow for it would be cut to another delay, in the worst case to zero, which switches the load off at once. The steps of every load and shutdown command carry values their fields hold as they stand, and a zero only where one was asked for.
-/

namespace EspNut.HidControl

open Lib NutTable

/-- The field holds the value as it stands: its mask leaves the value alone, and a signed field has it below its sign bit. The value -1 is all ones. -/
def HoldsExactly (field : HIDUsageDef) (v : Int) : Prop :=
  v = -1 ∨ (0 ≤ v ∧ ((BitVec.ofInt 32 v &&& BeeperLogic.fieldMask field.bitSize).toNat : Int) = v ∧
    (field.logicalMin < 0 → v ≤ 2 ^ (field.bitSize - 1) - 1))

/-! ### What fits a field -/

theorem toNat_ofInt_masked {v : Int} {bits : Nat} (hbits : bits < 32) (hpos : 0 ≤ v)
    (hlt : v < 2 ^ bits) :
    ((BitVec.ofInt 32 v &&& BeeperLogic.fieldMask bits).toNat : Int) = v := by
  obtain ⟨n, rfl⟩ := Int.eq_ofNat_of_zero_le hpos
  have hn : n < 2 ^ bits := by exact_mod_cast hlt
  have hpow : (2 : Nat) ^ bits < 2 ^ 32 := Nat.pow_lt_pow_right (by decide) hbits
  have hmask : (BeeperLogic.fieldMask bits).toNat = 2 ^ bits - 1 := by
    rw [BeeperLogic.fieldMask, if_neg (by omega), BitVec.toNat_ofNat, Nat.mod_eq_of_lt (by omega)]
  have hvalue : (BitVec.ofInt 32 (n : Int)).toNat = n := by
    rw [BitVec.ofInt_natCast, BitVec.toNat_ofNat, Nat.mod_eq_of_lt (by omega)]
  rw [BitVec.toNat_and, hmask, hvalue, Nat.and_two_pow_sub_one_eq_mod, Nat.mod_eq_of_lt hn]

theorem toNat_ofInt_wide {v : Int} {bits : Nat} (hbits : 32 ≤ bits) (hpos : 0 ≤ v)
    (hlt : v < 2 ^ 31) :
    ((BitVec.ofInt 32 v &&& BeeperLogic.fieldMask bits).toNat : Int) = v := by
  obtain ⟨n, rfl⟩ := Int.eq_ofNat_of_zero_le hpos
  rw [BeeperLogic.fieldMask, if_pos hbits, BitVec.and_allOnes, BitVec.ofInt_natCast,
    BitVec.toNat_ofNat, Nat.mod_eq_of_lt (by omega)]

theorem holdsExactly_of_fitsField {field : HIDUsageDef} {v : Int} (hbits : 1 ≤ field.bitSize)
    (hlt : v < 2 ^ 31) (hfits : fitsField field v = true) : HoldsExactly field v := by
  unfold fitsField at hfits
  by_cases hcancel : v = -1
  · exact Or.inl hcancel
  rw [if_neg hcancel] at hfits
  by_cases hneg : v < 0
  · rw [if_pos hneg] at hfits
    exact absurd hfits (by simp)
  rw [if_neg hneg] at hfits
  refine Or.inr ⟨by omega, ?_⟩
  by_cases hwide : 32 ≤ field.bitSize
  · refine ⟨toNat_ofInt_wide hwide (by omega) hlt, fun _ => ?_⟩
    have hpow : (2 : Int) ^ 31 ≤ 2 ^ (field.bitSize - 1) :=
      pow_le_pow_right₀ (by norm_num) (by omega)
    omega
  · rw [if_neg (by omega)] at hfits
    have hpow : (2 : Int) ^ field.bitSize = 2 * 2 ^ (field.bitSize - 1) := by
      rw [← pow_succ', Nat.sub_add_cancel hbits]
    have hpos : (0 : Int) < 2 ^ (field.bitSize - 1) := by positivity
    by_cases hsigned : field.logicalMin < 0
    · simp only [hsigned, if_true, decide_eq_true_eq] at hfits
      exact ⟨toNat_ofInt_masked (by omega) (by omega) (by omega), fun _ => hfits⟩
    · simp only [hsigned, if_false, decide_eq_true_eq] at hfits
      exact ⟨toNat_ofInt_masked (by omega) (by omega) (by omega), fun h => absurd h hsigned⟩

/-! ### The numbers a step can carry -/

theorem cmdDefault_lt (dfl : Option String) : cmdDefault dfl < 2 ^ 31 := by
  cases dfl with
  | none => simp [cmdDefault]
  | some text =>
      simp only [cmdDefault, Decimal.atol, Decimal.saturate]
      omega

/-- A configured delay is missing, or the number its text denotes. -/
theorem configuredDelay_cases (data : UPSData) (key : String) :
    configuredDelay data key = kNoDelay ∨
      ∃ text, data.find key = some text ∧ Decimal.Denotes text (configuredDelay data key) ∧
        0 ≤ configuredDelay data key ∧ configuredDelay data key < 2 ^ 31 := by
  unfold configuredDelay
  cases hfind : data.find key with
  | none => exact Or.inl rfl
  | some text =>
      cases hparse : parseDelayParam text with
      | none => exact Or.inl (by simp [hparse])
      | some v =>
          obtain ⟨hdenotes, hlow, hhigh⟩ := (parseDelayParam_eq_some_iff text v).mp hparse
          by_cases hneg : v < 0
          · exact Or.inl (by simp [hparse, hneg])
          · refine Or.inr ⟨text, rfl, ?_, ?_, ?_⟩ <;> simp only [hparse, if_neg hneg]
            · exact hdenotes
            · omega
            · omega

theorem configuredDelay_lt (data : UPSData) (key : String) : configuredDelay data key < 2 ^ 31 := by
  rcases configuredDelay_cases data key with h | ⟨_, _, _, _, h⟩
  · rw [h, kNoDelay]
    omega
  · exact h

theorem denotes_of_configuredDelay_eq_zero {data : UPSData} {key : String}
    (h : configuredDelay data key = 0) : ∃ text, data.find key = some text ∧ Decimal.Denotes text 0 := by
  rcases configuredDelay_cases data key with hnone | ⟨text, hfind, hdenotes, -, -⟩
  · rw [hnone] at h
    exact absurd h (by decide)
  · exact ⟨text, hfind, h ▸ hdenotes⟩

/-! ### The fields of the steps -/

theorem mem_of_cmdField {table : List HidInfo} {usages : List HIDUsageDef} {name : String}
    {field : HIDUsageDef} {dfl : Option String} (h : cmdField table usages name = some (field, dfl)) :
    field ∈ usages := by
  obtain ⟨row, -, hrow⟩ := List.exists_of_findSome?_eq_some h
  split at hrow
  · obtain ⟨u, hu, heq⟩ := Option.map_eq_some_iff.mp hrow
    have hfield : u = field := (Prod.mk.inj heq).1
    exact hfield ▸ List.mem_of_find?_eq_some hu
  · exact absurd hrow (by simp)

theorem mem_of_cmdField_fst {table : List HidInfo} {usages : List HIDUsageDef} {name : String}
    {field : HIDUsageDef} (h : (cmdField table usages name).map Prod.fst = some field) :
    field ∈ usages := by
  obtain ⟨⟨f, dfl⟩, hcmd, rfl⟩ := Option.map_eq_some_iff.mp h
  exact mem_of_cmdField hcmd

/-! ### The outcome of a resolution -/

/-- Steps of which each is sound, or none and a refusal. -/
def Settled (Sound : WriteStep → Prop) (result : StepsResult × List WriteStep) : Prop :=
  (∀ step ∈ result.2, Sound step) ∧
    ((result.1 = .ok ∧ result.2 ≠ []) ∨
      (result.2 = [] ∧ (result.1 = .notSupported ∨ result.1 = .invalidArgument)))

variable {Sound : WriteStep → Prop}

theorem settled_notSupported : Settled Sound (.notSupported, []) :=
  ⟨fun _ h => absurd h (by simp), Or.inr ⟨rfl, Or.inl rfl⟩⟩

theorem settled_invalidArgument : Settled Sound (.invalidArgument, []) :=
  ⟨fun _ h => absurd h (by simp), Or.inr ⟨rfl, Or.inr rfl⟩⟩

theorem settled_one {step : WriteStep} (h : Sound step) : Settled Sound (.ok, [step]) :=
  ⟨fun s hs => List.mem_singleton.mp hs ▸ h, Or.inl ⟨rfl, by simp⟩⟩

theorem settled_two {first second : WriteStep} (hfirst : Sound first) (hsecond : Sound second) :
    Settled Sound (.ok, [first, second]) := by
  refine ⟨fun s hs => ?_, Or.inl ⟨rfl, by simp⟩⟩
  rcases List.mem_pair.mp hs with rfl | rfl
  · exact hfirst
  · exact hsecond

/-- A single write is sound when its default and every parameter it takes are, wherever they fit the field. -/
theorem settled_single {param : Option String} {field : Option HIDUsageDef} {dfl : Int}
    {takesParam : Bool}
    (hdfl : ∀ f, field = some f → fitsField f dfl = true → Sound ⟨f, dfl⟩)
    (hparam : ∀ f text v, field = some f → param = some text → parseDelayParam text = some v →
      fitsField f v = true → Sound ⟨f, v⟩) :
    Settled Sound (single param field dfl takesParam) := by
  cases field with
  | none => exact settled_notSupported
  | some f =>
      simp only [single]
      by_cases hgiven : (if takesParam then param.getD "" else "") = ""
      · rw [if_neg (by simpa using hgiven)]
        split
        · exact settled_notSupported
        · split
          · rename_i hfits
            exact settled_one (hdfl f rfl hfits)
          · exact settled_notSupported
      · rw [if_pos hgiven]
        have htakes : takesParam = true := by
          by_contra h
          simp [h] at hgiven
        rw [if_pos htakes] at hgiven ⊢
        obtain ⟨text, rfl⟩ : ∃ text, param = some text := by
          cases param with
          | none => exact absurd rfl hgiven
          | some text => exact ⟨text, rfl⟩
        rw [Option.getD_some]
        cases hparse : parseDelayParam text with
        | none => exact settled_invalidArgument
        | some v =>
            dsimp only
            split
            · exact settled_invalidArgument
            · split
              · exact settled_notSupported
              · split
                · rename_i hfits
                  exact settled_one (hparam f text v rfl rfl hparse hfits)
                · exact settled_invalidArgument

/-! ### Zero -/

/-- The reasons a step may carry zero: the command switches at once, the row's own default is zero, or zero was given or configured. -/
def ZeroAllowed (name param : Option String) (usages : List HIDUsageDef) (data : UPSData)
    (table : List HidInfo) : Prop :=
  name = some "load.off" ∨ name = some "load.on" ∨
    (∃ n row dfl, name = some n ∧ (n = "shutdown.stop" ∨ n = "shutdown.reboot" ∨ n = "shutdown.return") ∧
      cmdField table usages n = some (row, dfl) ∧ cmdDefault dfl = 0) ∨
    (∃ text, param = some text ∧ Decimal.Denotes text 0) ∨
    (∃ text, (data.find "ups.delay.shutdown" = some text ∨ data.find "ups.delay.start" = some text) ∧
      Decimal.Denotes text 0)

/-- What every step of the command of the given name satisfies. -/
def StepSound (name param : Option String) (usages : List HIDUsageDef) (data : UPSData)
    (table : List HidInfo) (step : WriteStep) : Prop :=
  step.field ∈ usages ∧ HoldsExactly step.field step.value ∧
    (step.value = 0 → ZeroAllowed name param usages data table)

section Sound

variable {name param : Option String} {usages : List HIDUsageDef} {data : UPSData}
  {table : List HidInfo} (hbits : ∀ u ∈ usages, 1 ≤ u.bitSize)
include hbits

theorem stepSound_of_fits {field : HIDUsageDef} {v : Int} (hmem : field ∈ usages)
    (hfits : fitsField field v = true) (hlt : v < 2 ^ 31)
    (hzero : v = 0 → ZeroAllowed name param usages data table) :
    StepSound name param usages data table ⟨field, v⟩ :=
  ⟨hmem, holdsExactly_of_fitsField (hbits field hmem) hlt hfits, hzero⟩

theorem stepSound_param {field : HIDUsageDef} {text : String} {v : Int} (hmem : field ∈ usages)
    (hparam : param = some text) (hparse : parseDelayParam text = some v)
    (hfits : fitsField field v = true) : StepSound name param usages data table ⟨field, v⟩ := by
  obtain ⟨hdenotes, -, hhigh⟩ := (parseDelayParam_eq_some_iff text v).mp hparse
  refine stepSound_of_fits hbits hmem hfits (by omega) fun hv => ?_
  exact Or.inr (Or.inr (Or.inr (Or.inl ⟨text, hparam, hv ▸ hdenotes⟩)))

theorem stepSound_configured {field : HIDUsageDef} {key : String} (hmem : field ∈ usages)
    (hkey : key = "ups.delay.shutdown" ∨ key = "ups.delay.start")
    (hfits : fitsField field (configuredDelay data key) = true) :
    StepSound name param usages data table ⟨field, configuredDelay data key⟩ := by
  refine stepSound_of_fits hbits hmem hfits (configuredDelay_lt data key) fun hv => ?_
  obtain ⟨text, hfind, hdenotes⟩ := denotes_of_configuredDelay_eq_zero hv
  refine Or.inr (Or.inr (Or.inr (Or.inr ⟨text, ?_, hdenotes⟩)))
  rcases hkey with rfl | rfl
  · exact Or.inl hfind
  · exact Or.inr hfind

theorem settled_single_row {n : String} {takesParam : Bool}
    (hn : n = "shutdown.stop" ∨ n = "shutdown.reboot" ∨ n = "shutdown.return") :
    Settled (StepSound (some n) param usages data table)
      (single param ((cmdField table usages n).map Prod.fst)
        (cmdDefault ((cmdField table usages n).bind Prod.snd)) takesParam) := by
  refine settled_single (fun f hf hfits => ?_) fun f text v hf hparam hparse hfits => ?_
  · obtain ⟨⟨row, dfl⟩, hcmd, rfl⟩ := Option.map_eq_some_iff.mp hf
    refine stepSound_of_fits hbits (mem_of_cmdField hcmd) hfits (cmdDefault_lt _) fun hv => ?_
    refine Or.inr (Or.inr (Or.inl ⟨n, row, dfl, rfl, hn, hcmd, ?_⟩))
    rw [hcmd] at hv
    exact hv
  · exact stepSound_param hbits (mem_of_cmdField_fst hf) hparam hparse hfits

theorem settled_shutdown_return :
    Settled (StepSound (some "shutdown.return") param usages data table)
      (resolveShutdownSteps (some "shutdown.return") param usages (configuredDelay data "ups.delay.shutdown")
        (configuredDelay data "ups.delay.start") table) := by
  have hrow : Settled (StepSound (some "shutdown.return") param usages data table)
      (single param ((cmdField table usages "shutdown.return").map Prod.fst)
        (cmdDefault ((cmdField table usages "shutdown.return").bind Prod.snd)) true) :=
    settled_single_row hbits (by simp)
  simp only [resolveShutdownSteps]
  rw [if_neg (by decide), if_neg (by decide), if_neg (by decide), if_neg (by decide), if_neg (by decide),
    if_pos trivial]
  cases hcmd : cmdField table usages "shutdown.return" with
  | some row =>
      rw [hcmd] at hrow
      exact hrow
  | none =>
      cases hsd : (cmdField table usages "load.off.delay").map Prod.fst with
      | none => exact settled_notSupported
      | some sd =>
          cases hst : (cmdField table usages "load.on.delay").map Prod.fst with
          | none => exact settled_notSupported
          | some st =>
              dsimp only
              split
              · exact settled_notSupported
              · split
                · exact settled_notSupported
                · rename_i hfits
                  simp only [not_or, Bool.not_eq_false] at hfits
                  exact settled_two
                    (stepSound_configured hbits (mem_of_cmdField_fst hst) (Or.inr rfl) hfits.1)
                    (stepSound_configured hbits (mem_of_cmdField_fst hsd) (Or.inl rfl) hfits.2)

theorem settled_shutdown_stayoff :
    Settled (StepSound (some "shutdown.stayoff") param usages data table)
      (resolveShutdownSteps (some "shutdown.stayoff") param usages (configuredDelay data "ups.delay.shutdown")
        (configuredDelay data "ups.delay.start") table) := by
  simp only [resolveShutdownSteps]
  rw [if_neg (by decide), if_neg (by decide), if_neg (by decide), if_neg (by decide), if_neg (by decide),
    if_neg (by decide), if_pos trivial]
  cases hsd : (cmdField table usages "load.off.delay").map Prod.fst with
  | none => exact settled_notSupported
  | some sd =>
      cases hst : (cmdField table usages "load.on.delay").map Prod.fst with
      | none => exact settled_notSupported
      | some st =>
          dsimp only
          split
          · exact settled_notSupported
          · split
            · exact settled_notSupported
            · rename_i hfits
              have hcancel : StepSound (some "shutdown.stayoff") param usages data table ⟨st, -1⟩ :=
                ⟨mem_of_cmdField_fst hst, Or.inl rfl, fun h => absurd h (show ¬((-1 : Int) = 0) by decide)⟩
              exact settled_two hcancel
                (stepSound_configured hbits (mem_of_cmdField_fst hsd) (Or.inl rfl) (by simpa using hfits))

end Sound

/-- No load or shutdown command cuts a delay or makes one up: every step carries a value its field holds as it stands, a zero has one of its reasons, and without steps the command is refused. -/
theorem resolveShutdownSteps_never_invents (name param : Option String) (usages : List HIDUsageDef)
    (data : UPSData) (table : List HidInfo) (hbits : ∀ u ∈ usages, 1 ≤ u.bitSize) :
    Settled (StepSound name param usages data table)
      (resolveShutdownSteps name param usages (configuredDelay data "ups.delay.shutdown")
        (configuredDelay data "ups.delay.start") table) := by
  cases name with
  | none => exact settled_notSupported
  | some n =>
      by_cases hreturn : n = "shutdown.return"
      · subst hreturn
        exact settled_shutdown_return hbits
      by_cases hstayoff : n = "shutdown.stayoff"
      · subst hstayoff
        exact settled_shutdown_stayoff hbits
      simp only [resolveShutdownSteps]
      rw [if_neg hreturn, if_neg hstayoff]
      have hgiven : ∀ f text v, f ∈ usages → param = some text → parseDelayParam text = some v →
          fitsField f v = true → StepSound (some n) param usages data table ⟨f, v⟩ :=
        fun f text v hmem hparam hparse hfits => stepSound_param hbits hmem hparam hparse hfits
      have hswitch : ∀ f, f ∈ usages → fitsField f 0 = true → (n = "load.off" ∨ n = "load.on") →
          StepSound (some n) param usages data table ⟨f, 0⟩ := by
        intro f hmem hfits hn
        refine stepSound_of_fits hbits hmem hfits (by decide) fun _ => ?_
        rcases hn with rfl | rfl
        · exact Or.inl rfl
        · exact Or.inr (Or.inl rfl)
      split
      · rename_i hn
        exact settled_single (fun f hf hfits => hswitch f (mem_of_cmdField_fst hf) hfits (Or.inl hn))
          fun f text v hf => hgiven f text v (mem_of_cmdField_fst hf)
      split
      · rename_i hn
        exact settled_single (fun f hf hfits => hswitch f (mem_of_cmdField_fst hf) hfits (Or.inr hn))
          fun f text v hf => hgiven f text v (mem_of_cmdField_fst hf)
      split
      · exact settled_single
          (fun f hf hfits => stepSound_configured hbits (mem_of_cmdField_fst hf) (Or.inl rfl) hfits)
          fun f text v hf => hgiven f text v (mem_of_cmdField_fst hf)
      split
      · exact settled_single
          (fun f hf hfits => stepSound_configured hbits (mem_of_cmdField_fst hf) (Or.inr rfl) hfits)
          fun f text v hf => hgiven f text v (mem_of_cmdField_fst hf)
      split
      · rename_i hn
        exact settled_single_row hbits (hn.elim Or.inl fun h => Or.inr (Or.inl h))
      · exact settled_notSupported

/-! A device with a 16-bit shutdown timer and a configured delay of twenty seconds. -/

def timerField : HIDUsageDef :=
  { usage := 0x00840057, reportId := 5, reportType := 3, bitOffset := 0, bitSize := 16, found := true,
    logicalMin := -1, logicalMax := 32767, exponent := 0, unit := 0,
    path := "UPS.Output.DelayBeforeShutdown", collIndex := collIndexOf [] }

def timerTable : List HidInfo :=
  [{ infoType := "load.off.delay", infoFlags := 0, infoLen := 0,
     hidpath := some "UPS.Output.DelayBeforeShutdown", dfl := some "20", hidflags := huTypeCmd,
     conv := .number, lkp := [] }]

def timerData : UPSData := UPSData.empty.set "ups.delay.shutdown" "20"

theorem resolveShutdownSteps_timer :
    resolveShutdownSteps (some "load.off.delay") none [timerField]
        (configuredDelay timerData "ups.delay.shutdown") (configuredDelay timerData "ups.delay.start")
        timerTable = (.ok, [⟨timerField, 20⟩]) ∧
      Settled (StepSound (some "load.off.delay") none [timerField] timerData timerTable)
        (resolveShutdownSteps (some "load.off.delay") none [timerField]
          (configuredDelay timerData "ups.delay.shutdown") (configuredDelay timerData "ups.delay.start")
          timerTable) :=
  ⟨by decide, resolveShutdownSteps_never_invents (some "load.off.delay") none [timerField] timerData
    timerTable (by decide)⟩

end EspNut.HidControl
