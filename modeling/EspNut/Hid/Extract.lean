import EspNut.Hid.Usages
import EspNut.Lib.Bits
import EspNut.Lib.Rounding

/-!
# Values of the fields of a report

`extractUsage` reads a field out of the bytes of a report, with its sign and its unit exponent; `toLogical` turns a value back into what the field holds, when it can hold it.
-/

namespace EspNut.HIDParser

open Lib Rounding

def wrapInt8 (v : Int) : Int := (v + 128) % 256 - 128

/-- The exponent of the values of a field; voltages in the unit of the class count in tenths of microvolts. -/
def unitExpo (u : HIDUsageDef) : Int :=
  if u.bitSize ≤ 1 then 0
  else if u.unit = 0x00F0D121 ∨ u.unit = 0x0000D121 then wrapInt8 (wrapInt8 u.exponent - 7)
  else wrapInt8 u.exponent

/-- A product with a power of ten, none for the exponent 0. -/
def scale (v : ℚ) (exponent : Int) : ℚ := if exponent = 0 then v else toDouble (v * pow10 exponent)

def readBits (u : HIDUsageDef) : Nat := min u.bitSize 32

/-- The first bit of the field in the bytes of a report, the id included. -/
def firstBit (u : HIDUsageDef) : Nat :=
  if u.reportId ≠ 0 then (u.bitOffset + 8) % 65536 else u.bitOffset

/-- The bits of the field as a number; bytes behind the end of the report read as 0. -/
def rawField (u : HIDUsageDef) (data : List Byte) : Nat :=
  let shift := firstBit u % 8
  let bytes := (data.drop (firstBit u / 8)).take ((readBits u + shift + 7) / 8)
  littleEndian bytes / 2 ^ shift % 2 ^ readBits u

def signedField (u : HIDUsageDef) (raw : Nat) : Int :=
  if u.logicalMin < 0 ∧ raw.testBit (readBits u - 1) then (raw : Int) - 2 ^ readBits u else raw

/-- The value of a field in the bytes of a report, 0 when the report is not its own; `times` multiplies by a power of ten. -/
def extractUsageBy (times : ℚ → Int → ℚ) (u : HIDUsageDef) (data : List Byte) : ℚ :=
  if u.found = false then 0
  else if u.reportId ≠ 0 ∧ data.head?.map BitVec.toNat ≠ some u.reportId then 0
  else if u.bitSize = 0 then 0
  else times (signedField u (rawField u data) : ℚ) (unitExpo u)

def extractUsage (u : HIDUsageDef) (data : List Byte) : ℚ := extractUsageBy scale u data

def fieldStart (u : HIDUsageDef) : Nat := u.bitOffset + if u.reportId ≠ 0 then 8 else 0

/-- The value that the bits of a field hold, up to 32 of them. -/
def fieldValue (u : HIDUsageDef) (data : List Byte) : ℚ :=
  if u.bitSize = 0 then 0
  else scale (signedField u (littleEndian data / 2 ^ fieldStart u % 2 ^ readBits u) : ℚ) (unitExpo u)

theorem rawField_eq {u : HIDUsageDef} (hstart : fieldStart u < 65536) (data : List Byte) :
    rawField u data = littleEndian data / 2 ^ fieldStart u % 2 ^ readBits u := by
  have hfirst : firstBit u = fieldStart u := by
    unfold fieldStart at hstart
    unfold firstBit fieldStart
    split
    · rename_i hid
      rw [if_pos hid] at hstart
      exact Nat.mod_eq_of_lt hstart
    · rfl
  unfold rawField
  dsimp only
  rw [hfirst, littleEndian_window]

theorem extractUsage_eq {u : HIDUsageDef} {data : List Byte} (hfound : u.found = true) (hstart : fieldStart u < 65536)
    (hid : u.reportId ≠ 0 → data.head?.map BitVec.toNat = some u.reportId) : extractUsage u data = fieldValue u data := by
  have hown : ¬ (u.reportId ≠ 0 ∧ data.head?.map BitVec.toNat ≠ some u.reportId) := fun hother => hother.2 (hid hother.1)
  unfold extractUsage extractUsageBy fieldValue
  rw [if_neg (by simp [hfound]), if_neg hown, rawField_eq hstart]

theorem signedField_eq {u : HIDUsageDef} (hsize : 1 ≤ u.bitSize ∧ u.bitSize ≤ 32) {n : Nat} (hn : n < 2 ^ u.bitSize) :
    signedField u n = if u.logicalMin < 0 then (BitVec.ofNat u.bitSize n).toInt else n := by
  have hbits : readBits u = u.bitSize := Nat.min_eq_left hsize.2
  have hmsb : (BitVec.ofNat u.bitSize n).msb = n.testBit (u.bitSize - 1) := by
    rw [BitVec.msb_eq_getLsbD_last, BitVec.getLsbD_ofNat, decide_eq_true (by omega), Bool.true_and]
  unfold signedField
  rw [hbits]
  by_cases hsigned : u.logicalMin < 0
  · rw [if_pos hsigned, BitVec.toInt_eq_msb_cond, hmsb, BitVec.toNat_ofNat, Nat.mod_eq_of_lt hn]
    by_cases htop : n.testBit (u.bitSize - 1) = true
    · rw [if_pos ⟨hsigned, htop⟩, if_pos htop]
      push_cast
      rfl
    · rw [if_neg (fun h => htop h.2), if_neg htop]
  · rw [if_neg hsigned, if_neg (fun h => hsigned h.1)]

def fieldRange (u : HIDUsageDef) : Int × Int :=
  if u.logicalMin < 0 then (-2 ^ (readBits u - 1), 2 ^ (readBits u - 1) - 1) else (0, 2 ^ readBits u - 1)

/-- The number a field holds for a value, none when it is out of the declared range or of the bits. -/
def toLogicalBy (times : ℚ → Int → ℚ) (u : HIDUsageDef) (physical : ℚ) : Option Int :=
  let val := times physical (-unitExpo u)
  if 4000000000 ≤ |val| then none
  else
    let v := roundEven val
    if u.logicalMin < u.logicalMax ∧ (v < u.logicalMin ∨ u.logicalMax < v) then none
    else if u.bitSize = 0 then none
    else if v < (fieldRange u).1 ∨ (fieldRange u).2 < v then none
    else if v < -2 ^ 31 ∨ 2 ^ 31 - 1 < v then none
    else some v

def toLogical (u : HIDUsageDef) (physical : ℚ) : Option Int := toLogicalBy scale u physical

end EspNut.HIDParser
