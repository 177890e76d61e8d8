import EspNut.Hid.Usages
import EspNut.Lib.Decimal

/-!
# Rows of a HID to NUT table

A table maps paths of a report descriptor to NUT variables and commands, in the order of the subdriver it comes from. A row says how the value of its field becomes a text, and its flags tell rows that are read, written, kept by the firmware or never published apart.
-/

namespace EspNut.NutTable

open Lib

def stFlagRW : Nat := 0x0001
def stFlagString : Nat := 0x0002
def huFlagStatic : Nat := 2
def huFlagSemiStatic : Nat := 4
def huFlagAbsent : Nat := 8
def huFlagQuickPoll : Nat := 16
def huTypeCmd : Nat := 64
def huFlagEnum : Nat := 128
def huFlagParamRequired : Nat := 256
/-- The path matches whatever the collection indices. -/
def huFlagAnyIndex : Nat := 0x8000

def hasFlag (flags flag : Nat) : Bool := flags &&& flag ≠ 0

/-- How a HID value becomes the NUT value. -/
inductive Conv where
  | number | lookup | batteryDate | mgeDate | mgeTime | nominalVoltage | pegasusThreshold
  | pegasusYesNo | stringId | kelvinCelsius | mgeBatteryCapacity | mgeBatteryVoltage
  | mgeBatteryVoltageNominal
  | mgeCountry | abmEnabled | abmPathMode | abmPathStatus | abmStatus
  | abmChrgDischrg | eatonDischarging | eatonCharging | eatonConverterOnline
  | mgePowerFactor | eatonComputeRealpower
  | cpsBattCharge | cpsBattStatus | cpsBattVolt | cpsInputFreq | cpsOutputFreq
  | apcDate
  | powercomHackVoltage | powercomVoltage | powercomStartup | powercomShutdown | powercomUpsfail
  | powercomReplacebatt | powercomTest | powercomShutdownimm | powercomOnline | powercomLowbatt
  | powercomTrim | powercomBoost | powercomOverload
  | ecoflowRuntime
  | openupsVin | openupsVout | openupsCcharge | openupsCdischarge | openupsTemperature
  | openupsCharging | openupsDischarging | openupsOnline | openupsOff
  deriving DecidableEq

structure Lookup where
  hid : Int
  nut : String
  deriving DecidableEq

/-- One row; `dfl` is the format of a value, the default of a kept value or the number a command writes. -/
structure HidInfo where
  infoType : String
  infoFlags : Nat
  infoLen : Nat
  hidpath : Option String
  dfl : Option String
  hidflags : Nat
  conv : Conv
  lkp : List Lookup
  deriving DecidableEq

def isCommandRow (info : HidInfo) : Bool := hasFlag info.hidflags huTypeCmd

def isAlarmRow (info : HidInfo) : Bool := info.infoType = "ups.alarm"

/-- Rows that never publish their name: status rows, alarm rows and those that only keep state. -/
def isInternalRow (info : HidInfo) : Bool :=
  if info.infoType = "BOOL" then true
  else if isAlarmRow info then true
  else match info.conv with
    | .mgeCountry | .abmEnabled | .abmPathMode | .abmPathStatus => true
    | _ => false

/-! ### Paths -/

def equalsIgnoreCase (a b : String) : Bool := Text.sameIgnoringCase a.toList b.toList

theorem equalsIgnoreCase_iff (a b : String) : equalsIgnoreCase a b = true ↔ Text.lower a = Text.lower b :=
  Text.sameIgnoringCase_iff_lower a b

/-- The text before the first dot, and the text after it when there is one. -/
def splitDot (text : List Char) : List Char × Option (List Char) :=
  match text.dropWhile (· ≠ '.') with
  | [] => (text, none)
  | _ :: rest => (text.takeWhile (· ≠ '.'), some rest)

/-- The index token `[N].` in front of a rest of path: the wanted collection index and what follows it. None for a malformed token; no token wants index 0. -/
def indexToken : Option (List Char) → Option (Nat × Option (List Char))
  | some ('[' :: rest) =>
      match rest.dropWhile (· ≠ ']') with
      | ']' :: '.' :: more => some (((Decimal.atol rest + 1) % 256).toNat, some more)
      | _ => none
  | rest => some (0, rest)

/-- One segment of both paths: the answer, or what is left of the paths and of the places of `coll_index`, behind which every index is 0. -/
def matchSegment : List Char × List Char × List Nat → (List Char × List Char × List Nat) ⊕ Bool
  | (p, q, indices) =>
      let (segment, restP) := splitDot p
      let (usageSegment, restQ) := splitDot q
      if Text.sameIgnoringCase segment usageSegment = false then .inr false
      else match indexToken restP with
        | none => .inr false
        | some (want, next) =>
          match next, restQ with
          | none, none => .inr (want = 0)
          | some p', some q' => if indices.headD 0 = want then .inl (p', q', indices.tail) else .inr false
          | _, _ => .inr false

/-- Segment by segment comparison; every segment ends at a dot, so the length of the path is enough fuel. -/
def pathMatchesFrom : Nat → List Char → List Char → List Nat → Bool
  | 0, _, _, _ => false
  | fuel + 1, p, q, indices =>
      match matchSegment (p, q, indices) with
      | .inl (p', q', rest) => pathMatchesFrom fuel p' q' rest
      | .inr answer => answer

def pathMatches (u : HIDUsageDef) (path : String) : Bool :=
  pathMatchesFrom (path.toList.length + 1) path.toList u.path.toList u.collIndex

def rowMatches (u : HIDUsageDef) (row : HidInfo) : Bool :=
  match row.hidpath with
  | none => false
  | some path =>
      if hasFlag row.hidflags huFlagAnyIndex then equalsIgnoreCase u.path path else pathMatches u path

/-! ### Delays -/

/-- A delay given as a parameter: digits with an optional minus, at least -1 and within 32 bits. -/
def parseDelayParam (text : String) : Option Int :=
  match Decimal.afterMinus text.toList with
  | [] => none
  | c :: _ =>
      if c.isDigit = false then none
      else
        let (scanned, rest) := Decimal.scanInt text.toList
        let v := Decimal.saturate (-2 ^ 63) (2 ^ 63 - 1) scanned
        if rest ≠ [] ∨ v < -1 ∨ 2 ^ 31 - 1 < v then none else some v

/-- A parameter is accepted exactly when it is a decimal integer in the range of the delays. -/
theorem parseDelayParam_eq_some_iff (text : String) (v : Int) :
    parseDelayParam text = some v ↔ Decimal.Denotes text v ∧ -1 ≤ v ∧ v ≤ 2 ^ 31 - 1 := by
  constructor
  · intro h
    unfold parseDelayParam at h
    split at h
    · exact absurd h (by simp)
    · rename_i c rest hdigits
      by_cases hc : c.isDigit = true
      · rw [if_neg (by simp [hc])] at h
        dsimp only at h
        split at h
        · exact absurd h (by simp)
        · rename_i hrange
          simp only [not_or, Decidable.not_not, not_lt] at hrange
          obtain ⟨hend, hlow, hhigh⟩ := hrange
          have hv : Decimal.saturate (-2 ^ 63) (2 ^ 63 - 1) (Decimal.scanInt text.toList).1
              = (Decimal.scanInt text.toList).1 := Decimal.eq_of_saturate_mem (by omega) (by omega)
          rw [hv] at h hlow hhigh
          have heq : (Decimal.scanInt text.toList).1 = v := by simpa using h
          rw [← heq]
          exact ⟨Decimal.denotes_of_scan hdigits hc hend, hlow, hhigh⟩
      · rw [if_pos (by simpa using hc)] at h
        exact absurd h (by simp)
  · rintro ⟨hdenotes, hlow, hhigh⟩
    obtain ⟨c, rest, hdigits, hc⟩ := Decimal.afterMinus_of_denotes hdenotes
    have hsat : Decimal.saturate (-2 ^ 63) (2 ^ 63 - 1) v = v :=
      Decimal.saturate_eq_of_mem (by omega) (by omega)
    unfold parseDelayParam
    rw [hdigits]
    dsimp only
    rw [if_neg (by simp [hc]), Decimal.scanInt_of_denotes hdenotes]
    dsimp only
    rw [hsat, if_neg]
    simp only [ne_eq, not_true_eq_false, false_or]
    omega

end EspNut.NutTable
