import EspNut.Hid.Parser

/-!
# Writing a field into a report

A SET_REPORT carries a whole report, so a field is written into the bytes read back from the device. The field is reached through a 32-bit mask and value shifted to the bit offset within a byte and written byte by byte.
-/

namespace EspNut.BeeperLogic

open Lib

def idBytes (field : HIDUsageDef) : Nat := if field.reportId ≠ 0 then 1 else 0

/-- Bytes a SET_REPORT must carry to reach the field. -/
def requiredLength (field : HIDUsageDef) : Nat :=
  idBytes field + (field.bitOffset + field.bitSize + 7) / 8

/-- The report also carries other usages of the same report type. -/
def reportHasOtherFields (usages : List HIDUsageDef) (field : HIDUsageDef) : Bool :=
  usages.any fun u =>
    if u.reportId ≠ field.reportId ∨ u.reportType ≠ field.reportType then false
    else if u.usage = field.usage ∧ u.bitOffset = field.bitOffset ∧ u.path = field.path then false
    else true

def canWriteBack (sharedReport : Bool) (field : HIDUsageDef) (fetched : Bool) (fetchedLen : Nat) : Bool :=
  !sharedReport || (fetched && decide (requiredLength field ≤ fetchedLen))

def byteOf (word : BitVec 32) (i : Nat) : Byte := (word >>> (8 * i)).setWidth 8

/-- The loop over the four bytes of the shifted mask, from byte `4 - left` on. -/
def writeBytes (mask val : BitVec 32) (target fetchedLen : Nat) : Nat → List Byte → List Byte
  | 0, buffer => buffer
  | left + 1, buffer =>
      let i := 4 - (left + 1)
      if target + i < fetchedLen then
        let byteMask := byteOf mask i
        if byteMask = 0 ∧ 0 < i then buffer
        else
          let old := buffer.getD (target + i) 0
          writeBytes mask val target fetchedLen left
            (buffer.set (target + i) ((old &&& ~~~byteMask) ||| (byteOf val i &&& byteMask)))
      else buffer

def fieldMask (bitSize : Nat) : BitVec 32 :=
  if 32 ≤ bitSize then BitVec.allOnes 32 else BitVec.ofNat 32 (2 ^ bitSize - 1)

/-- Index of the byte that holds the first bit of the field. -/
def targetIndex (field : HIDUsageDef) : Nat := idBytes field + field.bitOffset / 8

/-- The buffer with `raw` in the field and the length to send; length 0 when the field lies beyond 256 bytes. -/
def writeField (field : HIDUsageDef) (raw : BitVec 32) (buffer : List Byte) (fetchedLen : Nat) :
    List Byte × Nat :=
  let needed := requiredLength field
  if fetchedLen < needed ∧ 256 < needed then (buffer, 0)
  else
    let length := if fetchedLen < needed then needed else fetchedLen
    let shift := field.bitOffset % 8
    let mask := fieldMask field.bitSize
    (writeBytes (mask <<< shift) ((raw &&& mask) <<< shift) (targetIndex field) length 4 buffer, length)

/-! ### The bits of a written report -/

theorem getLsbD_fieldMask (bitSize j : Nat) :
    (fieldMask bitSize).getLsbD j = decide (j < 32 ∧ j < bitSize) := by
  unfold fieldMask
  split
  · have hiff : (j < 32 ∧ j < bitSize) ↔ j < 32 := by omega
    rw [BitVec.getLsbD_allOnes]
    simp only [hiff]
  · rw [BitVec.getLsbD_ofNat, Nat.testBit_two_pow_sub_one]
    simp

/-- Bit `j` of the shifted mask belongs to the field. -/
theorem getLsbD_shiftedMask (bitSize shift j : Nat) :
    (fieldMask bitSize <<< shift).getLsbD j = decide (j < 32 ∧ shift ≤ j ∧ j - shift < bitSize) := by
  rw [BitVec.getLsbD_shiftLeft, getLsbD_fieldMask]
  by_cases hj : j < 32
  · by_cases hshift : shift ≤ j
    · have hlt : j - shift < 32 := by omega
      simp [hj, hshift, hlt]
    · have hlt : j < shift := by omega
      simp [hshift, hlt]
  · simp [hj]

theorem getLsbD_byteOf (word : BitVec 32) (i j : Nat) (hj : j < 8) :
    (byteOf word i).getLsbD j = word.getLsbD (8 * i + j) := by
  rw [byteOf, BitVec.getLsbD_setWidth, BitVec.getLsbD_ushiftRight]
  simp [hj]

/-- A byte of the mask above the first one that is empty has only empty bytes above it. -/
theorem shiftedMask_above (bitSize shift i k : Nat) (hshift : shift < 8) (hi : 0 < i)
    (hempty : byteOf (fieldMask bitSize <<< shift) i = 0) (hk : 8 * i ≤ k) :
    (fieldMask bitSize <<< shift).getLsbD k = false := by
  have hbit := getLsbD_byteOf (fieldMask bitSize <<< shift) i 0 (by omega)
  rw [hempty, getLsbD_shiftedMask] at hbit
  rw [getLsbD_shiftedMask, decide_eq_false_iff_not]
  have hfalse : ¬(8 * i + 0 < 32 ∧ shift ≤ 8 * i + 0 ∧ 8 * i + 0 - shift < bitSize) :=
    of_decide_eq_false (by rw [← hbit]; rfl)
  omega

@[simp] theorem length_writeBytes (mask val : BitVec 32) (target fetchedLen left : Nat)
    (buffer : List Byte) : (writeBytes mask val target fetchedLen left buffer).length = buffer.length := by
  induction left generalizing buffer with
  | zero => rfl
  | succ left ih =>
      simp only [writeBytes]
      split
      · split
        · rfl
        · rw [ih, List.length_set]
      · rfl

theorem bitAt_writeBytes {bitSize shift target fetchedLen : Nat} (val : BitVec 32) (hshift : shift < 8)
    (left : Nat) (hleft : left ≤ 4) (buffer : List Byte) (hlen : fetchedLen ≤ buffer.length) (k : Nat) :
    bitAt (writeBytes (fieldMask bitSize <<< shift) val target fetchedLen left buffer) k =
      if 8 * (target + (4 - left)) ≤ k ∧ k / 8 < fetchedLen ∧
          (fieldMask bitSize <<< shift).getLsbD (k - 8 * target) = true
      then val.getLsbD (k - 8 * target) else bitAt buffer k := by
  induction left generalizing buffer with
  | zero =>
      rw [writeBytes, if_neg]
      rintro ⟨hk, -, hmask⟩
      rw [getLsbD_shiftedMask, decide_eq_true_eq] at hmask
      omega
  | succ left ih =>
      have hi : 4 - (left + 1) + 1 = 4 - left := by omega
      simp only [writeBytes]
      split
      · rename_i hin
        split
        · rename_i hbreak
          rw [if_neg]
          rintro ⟨hk, -, hmask⟩
          rw [shiftedMask_above bitSize shift (4 - (left + 1)) _ hshift hbreak.2 hbreak.1 (by omega)] at hmask
          exact absurd hmask (by simp)
        · rw [ih (by omega) _ (by rw [List.length_set]; exact hlen),
            bitAt_set _ _ _ _ (Nat.lt_of_lt_of_le hin hlen)]
          by_cases hbyte : k / 8 = target + (4 - (left + 1))
          · have hindex : 8 * (4 - (left + 1)) + k % 8 = k - 8 * target := by omega
            have hbelow : ¬8 * (target + (4 - left)) ≤ k := by omega
            have hfrom : 8 * (target + (4 - (left + 1))) ≤ k := by omega
            have hlt : k / 8 < fetchedLen := by omega
            rw [if_neg (fun h => hbelow h.1), if_pos hbyte, BitVec.getLsbD_or, BitVec.getLsbD_and,
              BitVec.getLsbD_and, BitVec.getLsbD_not, getLsbD_byteOf _ _ _ (by omega),
              getLsbD_byteOf _ _ _ (by omega), hindex]
            have hbuffer : (buffer.getD (target + (4 - (left + 1))) 0).getLsbD (k % 8) = bitAt buffer k := by
              rw [← hbyte]
              rfl
            by_cases hmask : (fieldMask bitSize <<< shift).getLsbD (k - 8 * target) = true
            · rw [if_pos ⟨hfrom, hlt, hmask⟩, hmask]
              simp
            · rw [if_neg (fun h => hmask h.2.2)]
              have hmask' : (fieldMask bitSize <<< shift).getLsbD (k - 8 * target) = false := by
                simpa using hmask
              have hmod : k % 8 < 8 := by omega
              rw [hmask', hbuffer]
              simp [hmod]
          · have hrange : 8 * (target + (4 - left)) ≤ k ↔ 8 * (target + (4 - (left + 1))) ≤ k := by omega
            simp only [if_neg hbyte, hrange]
      · rename_i hout
        rw [if_neg]
        rintro ⟨hk, hlt, -⟩
        omega

/-- Position of the field's first bit in the report. -/
def bitStart (field : HIDUsageDef) : Nat := 8 * idBytes field + field.bitOffset

/-- Position `k` of the report is one of the field's bits. -/
def InField (field : HIDUsageDef) (k : Nat) : Prop :=
  bitStart field ≤ k ∧ k < bitStart field + field.bitSize

instance (field : HIDUsageDef) (k : Nat) : Decidable (InField field k) :=
  inferInstanceAs (Decidable (_ ∧ _))

@[simp] theorem length_writeField (field : HIDUsageDef) (raw : BitVec 32) (buffer : List Byte)
    (fetchedLen : Nat) : (writeField field raw buffer fetchedLen).1.length = buffer.length := by
  unfold writeField
  simp only
  split
  · rfl
  · exact length_writeBytes _ _ _ _ _ _

theorem writeField_length_of_le {field : HIDUsageDef} {fetchedLen : Nat} (raw : BitVec 32)
    (buffer : List Byte) (h : requiredLength field ≤ fetchedLen) :
    (writeField field raw buffer fetchedLen).2 = fetchedLen := by
  unfold writeField
  simp only
  rw [if_neg (by omega), if_neg (by omega)]

theorem bitStart_eq (field : HIDUsageDef) :
    bitStart field = 8 * targetIndex field + field.bitOffset % 8 := by
  unfold bitStart targetIndex
  omega

theorem lt_of_inField {field : HIDUsageDef} {k n : Nat} (hin : InField field k)
    (hreach : requiredLength field ≤ n) : k / 8 < n := by
  obtain ⟨hfrom, hto⟩ := hin
  unfold requiredLength at hreach
  unfold bitStart at hfrom hto
  omega

/-- The bits of a report after a write: those of the field within the 32 bits of the mask are the value's, the others stay. -/
theorem bitAt_writeField {field : HIDUsageDef} {fetchedLen : Nat} (raw : BitVec 32) {buffer : List Byte}
    (hreach : requiredLength field ≤ fetchedLen) (hlen : fetchedLen ≤ buffer.length) (k : Nat) :
    bitAt (writeField field raw buffer fetchedLen).1 k =
      if InField field k ∧ k < 8 * targetIndex field + 32 then raw.getLsbD (k - bitStart field)
      else bitAt buffer k := by
  have hstart := bitStart_eq field
  have hmod : field.bitOffset % 8 < 8 := Nat.mod_lt _ (by omega)
  unfold writeField
  simp only
  rw [if_neg (by omega), if_neg (by omega), bitAt_writeBytes _ hmod 4 (by omega) buffer hlen k,
    getLsbD_shiftedMask]
  simp only [decide_eq_true_eq]
  by_cases hin : InField field k ∧ k < 8 * targetIndex field + 32
  · have hlt := lt_of_inField hin.1 hreach
    obtain ⟨⟨hfrom, hto⟩, hword⟩ := hin
    have hshift : k - 8 * targetIndex field - field.bitOffset % 8 = k - bitStart field := by omega
    have hwidth : k - 8 * targetIndex field < 32 := by omega
    have hge : ¬k - 8 * targetIndex field < field.bitOffset % 8 := by omega
    have hmask : k - bitStart field < 32 ∧ k - bitStart field < field.bitSize := by omega
    rw [if_pos ⟨by omega, hlt, by omega⟩, if_pos ⟨⟨hfrom, hto⟩, hword⟩, BitVec.getLsbD_shiftLeft,
      BitVec.getLsbD_and, getLsbD_fieldMask, hshift, decide_eq_true hmask, decide_eq_true hwidth,
      decide_eq_false hge]
    simp
  · rw [if_neg hin, if_neg]
    rintro ⟨hfrom, -, hmask⟩
    apply hin
    refine ⟨⟨by omega, by omega⟩, by omega⟩

end EspNut.BeeperLogic
