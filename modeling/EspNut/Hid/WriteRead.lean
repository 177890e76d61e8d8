import EspNut.Hid.BeeperLogic
import EspNut.Hid.Logical

/-!
# A field read after it was written

The writer reaches the four bytes from the one that holds the first bit of the field; the reader takes as many bytes as the field has. A field that reaches into a fifth byte keeps its upper bits.
-/

namespace EspNut.BeeperLogic

open Lib HIDParser Rounding

variable {u : HIDUsageDef} {raw : BitVec 32} {buffer : List Byte} {fetchedLen : Nat}

/-- The written value masked to the field, sign-extended when the logical minimum is negative. -/
def maskedValue (u : HIDUsageDef) (raw : BitVec 32) : Int :=
  if u.logicalMin < 0 then (raw.setWidth u.bitSize).toInt else (raw.setWidth u.bitSize).toNat

/-- The report that is sent gives the written value back, and the bits outside the field are those of the buffer. -/
def ReadsBack (u : HIDUsageDef) (raw : BitVec 32) (buffer : List Byte) (fetchedLen : Nat) : Prop :=
  extractUsage u ((writeField u raw buffer fetchedLen).1.take (writeField u raw buffer fetchedLen).2) = maskedValue u raw
    ∧ ∀ k, ¬ InField u k → bitAt (writeField u raw buffer fetchedLen).1 k = bitAt buffer k

/-! ### The report that is sent -/

theorem requiredLength_le (hinside : bitStart u + u.bitSize ≤ 2048) : requiredLength u ≤ 256 := by
  unfold bitStart at hinside
  unfold requiredLength
  omega

/-- A report that is too short is enlarged to reach the field. -/
theorem writeField_eq (raw : BitVec 32) (buffer : List Byte) (fetchedLen : Nat) (h : requiredLength u ≤ 256) :
    writeField u raw buffer fetchedLen
      = (writeBytes (fieldMask u.bitSize <<< (u.bitOffset % 8)) ((raw &&& fieldMask u.bitSize) <<< (u.bitOffset % 8))
          (targetIndex u) (max fetchedLen (requiredLength u)) 4 buffer, max fetchedLen (requiredLength u)) := by
  have hnear : ¬ (fetchedLen < requiredLength u ∧ 256 < requiredLength u) := fun hfar => Nat.not_lt_of_le h hfar.2
  unfold writeField
  dsimp only
  rw [if_neg hnear]
  by_cases hshort : fetchedLen < requiredLength u
  · rw [if_pos hshort, Nat.max_eq_right hshort.le]
  · rw [if_neg hshort, Nat.max_eq_left (Nat.le_of_not_lt hshort)]

theorem writeField_max (raw : BitVec 32) (buffer : List Byte) (fetchedLen : Nat) (h : requiredLength u ≤ 256) :
    writeField u raw buffer fetchedLen = writeField u raw buffer (max fetchedLen (requiredLength u)) := by
  rw [writeField_eq raw buffer fetchedLen h, writeField_eq raw buffer _ h, Nat.max_assoc, Nat.max_self]

theorem bitAt_written (hinside : bitStart u + u.bitSize ≤ 2048) (hbuffer : buffer.length = 256) (hfetched : fetchedLen ≤ 256)
    (k : Nat) :
    bitAt (writeField u raw buffer fetchedLen).1 k =
      if InField u k ∧ k < 8 * targetIndex u + 32 then raw.getLsbD (k - bitStart u) else bitAt buffer k := by
  have hreach := requiredLength_le hinside
  rw [writeField_max raw buffer fetchedLen hreach]
  exact bitAt_writeField raw (Nat.le_max_right _ _) (by omega) k

theorem head_written (hbuffer : buffer.length = 256) (hinside : bitStart u + u.bitSize ≤ 2048) (hfetched : fetchedLen ≤ 256)
    (hid : u.reportId ≠ 0) :
    ((writeField u raw buffer fetchedLen).1.take (writeField u raw buffer fetchedLen).2).head? = buffer.head? := by
  have hreach := requiredLength_le hinside
  have hneeded : 0 < requiredLength u := by
    unfold requiredLength idBytes
    rw [if_pos hid]
    omega
  have hlength := length_writeField u raw buffer fetchedLen
  have hsent : (writeField u raw buffer fetchedLen).2 = max fetchedLen (requiredLength u) :=
    congrArg Prod.snd (writeField_eq raw buffer fetchedLen hreach)
  rw [hsent]
  have hbits : ∀ j < 8, bitAt (writeField u raw buffer fetchedLen).1 j = bitAt buffer j := by
    intro j hj
    rw [bitAt_written hinside hbuffer hfetched, if_neg]
    rintro ⟨⟨hfrom, -⟩, -⟩
    unfold bitStart idBytes at hfrom
    rw [if_pos hid] at hfrom
    omega
  rw [hbuffer] at hlength
  obtain ⟨first, rest, hfirst⟩ := List.exists_cons_of_length_pos (show 0 < (writeField u raw buffer fetchedLen).1.length by omega)
  obtain ⟨second, tail, rfl⟩ := List.exists_cons_of_length_pos (show 0 < buffer.length by omega)
  rw [hfirst] at hbits ⊢
  obtain ⟨n, hn⟩ := Nat.exists_eq_succ_of_ne_zero (show max fetchedLen (requiredLength u) ≠ 0 by omega)
  rw [hn, List.take_succ_cons, List.head?_cons, List.head?_cons, Option.some.injEq]
  apply BitVec.eq_of_getLsbD_eq
  intro j hj
  have hbit := hbits j hj
  unfold bitAt at hbit
  rwa [Nat.div_eq_of_lt hj, Nat.mod_eq_of_lt hj] at hbit

/-! ### The value that is read -/

theorem fieldStart_eq (u : HIDUsageDef) : fieldStart u = bitStart u := by
  unfold fieldStart bitStart idBytes
  split <;> omega

/-- The number of a field is the written value exactly when the bits are. -/
theorem fieldNumber_eq_masked_iff (u : HIDUsageDef) (raw : BitVec 32) (data : List Byte) :
    fieldNumber u data = maskedValue u raw ↔ ∀ i < u.bitSize, bitAt data (bitStart u + i) = raw.getLsbD i := by
  have hbit : ∀ i < u.bitSize,
      (BitVec.ofNat u.bitSize (littleEndian data / 2 ^ fieldStart u)).getLsbD i = bitAt data (bitStart u + i) := by
    intro i hi
    rw [BitVec.getLsbD_ofNat, decide_eq_true hi, Bool.true_and, Nat.testBit_div_two_pow, testBit_littleEndian, fieldStart_eq,
      Nat.add_comm]
  have hbits : BitVec.ofNat u.bitSize (littleEndian data / 2 ^ fieldStart u) = raw.setWidth u.bitSize
      ↔ ∀ i < u.bitSize, bitAt data (bitStart u + i) = raw.getLsbD i := by
    constructor
    · intro h i hi
      rw [← hbit i hi, h, BitVec.getLsbD_setWidth, decide_eq_true hi, Bool.true_and]
    · intro h
      apply BitVec.eq_of_getLsbD_eq
      intro i hi
      rw [hbit i hi, h i hi, BitVec.getLsbD_setWidth, decide_eq_true hi, Bool.true_and]
  rw [← hbits]
  unfold fieldNumber maskedValue
  split
  · exact BitVec.toInt_inj
  · rw [Nat.cast_inj, BitVec.toNat_inj]

section Sent

variable (hinside : bitStart u + u.bitSize ≤ 2048) (hbuffer : buffer.length = 256)
include hinside hbuffer

theorem bitAt_sent (hfetched : fetchedLen ≤ 256) {i : Nat} (hi : i < u.bitSize) :
    bitAt ((writeField u raw buffer fetchedLen).1.take (writeField u raw buffer fetchedLen).2) (bitStart u + i)
      = if u.bitOffset % 8 + i < 32 then raw.getLsbD i else bitAt buffer (bitStart u + i) := by
  have hstart := bitStart_eq u
  have hin : InField u (bitStart u + i) := ⟨by omega, by omega⟩
  have hsent : (bitStart u + i) / 8 < (writeField u raw buffer fetchedLen).2 := by
    rw [writeField_eq raw buffer fetchedLen (requiredLength_le hinside)]
    exact lt_of_inField hin (Nat.le_max_right fetchedLen (requiredLength u))
  rw [bitAt_take, if_pos hsent, bitAt_written hinside hbuffer hfetched]
  by_cases hword : u.bitOffset % 8 + i < 32
  · rw [if_pos hword, if_pos ⟨hin, by omega⟩, Nat.add_sub_cancel_left]
  · rw [if_neg hword, if_neg fun h => by omega]

theorem length_sent (raw : BitVec 32) (fetchedLen : Nat) :
    requiredLength u ≤ ((writeField u raw buffer fetchedLen).1.take (writeField u raw buffer fetchedLen).2).length
    ∧ ((writeField u raw buffer fetchedLen).1.take (writeField u raw buffer fetchedLen).2).length ≤ 256 := by
  have hreach := requiredLength_le hinside
  rw [List.length_take, length_writeField, hbuffer, writeField_eq raw buffer fetchedLen hreach]
  dsimp only
  omega

end Sent

theorem carries_of_reach {data : List Byte} (hreach : requiredLength u ≤ data.length) (hshort : data.length ≤ 256)
    (hid : u.reportId ≠ 0 → data.head?.map BitVec.toNat = some u.reportId) : Carries u data := by
  refine ⟨hid, ?_, by omega⟩
  rw [fieldStart_eq]
  unfold requiredLength at hreach
  unfold bitStart
  omega

/-- A field that is written and read gives the value back exactly when the bits past the fourth byte had it before; the other bits stay in any case. -/
theorem readsBack_iff (hfound : u.found = true) (hsize : 1 ≤ u.bitSize ∧ u.bitSize ≤ 32) (hexpo : unitExpo u = 0)
    (hinside : bitStart u + u.bitSize ≤ 2048) (hbuffer : buffer.length = 256) (hfetched : fetchedLen ≤ 256)
    (hid : u.reportId ≠ 0 → buffer.head?.map BitVec.toNat = some u.reportId) :
    ReadsBack u raw buffer fetchedLen
      ↔ ∀ i < u.bitSize, 32 ≤ u.bitOffset % 8 + i → bitAt buffer (bitStart u + i) = raw.getLsbD i := by
  obtain ⟨hreach, hshort⟩ := length_sent hinside hbuffer raw fetchedLen
  have hcarries := carries_of_reach hreach hshort fun hne => by
    rw [head_written hbuffer hinside hfetched hne]
    exact hid hne
  have hout : ∀ k, ¬ InField u k → bitAt (writeField u raw buffer fetchedLen).1 k = bitAt buffer k := by
    intro k hk
    rw [bitAt_written hinside hbuffer hfetched, if_neg fun h => hk h.1]
  unfold ReadsBack
  unfold extractUsage
  rw [extractUsageBy_eq hfound hsize hcarries, hexpo, scale, if_pos rfl, Int.cast_inj,
    fieldNumber_eq_masked_iff]
  constructor
  · rintro ⟨hread, -⟩ i hi hpast
    rw [← hread i hi, bitAt_sent hinside hbuffer hfetched hi, if_neg (by omega)]
  · intro hkept
    refine ⟨fun i hi => ?_, hout⟩
    rw [bitAt_sent hinside hbuffer hfetched hi]
    split
    · rfl
    · rename_i hpast
      exact hkept i hi (by omega)

/-- A signed field of a report that begins with its id. -/
def sampleField (reportId bitOffset bitSize : Nat) : HIDUsageDef :=
  { usage := 0x00840057
    reportId
    reportType := 3
    bitOffset
    bitSize
    found := true
    logicalMin := -1
    logicalMax := 32767
    exponent := 0
    unit := 0x1001
    path := "UPS.PowerSummary.DelayBeforeShutdown"
    collIndex := [0, 0, 0, 0, 0, 0, 0, 0] }

theorem readsBack_sample :
    ReadsBack (sampleField 4 11 16) 0xFFFFBEEF (4 :: List.replicate 255 0xA5) 3
      ∧ maskedValue (sampleField 4 11 16) 0xFFFFBEEF = -16657 := by
  have hlength : ((4 : Byte) :: List.replicate 255 0xA5).length = 256 := by rw [List.length_cons, List.length_replicate]
  refine ⟨(readsBack_iff rfl (by decide) (by decide) (by decide) hlength (by decide) (fun _ => rfl)).mpr ?_, by decide⟩
  intro i hi hpast
  have hoffset : (sampleField 4 11 16).bitOffset % 8 = 3 := rfl
  have hsize : (sampleField 4 11 16).bitSize = 16 := rfl
  omega

/-! ### The number a device keeps -/

theorem maskedValue_ofInt (hsize : 1 ≤ u.bitSize ∧ u.bitSize ≤ 32) {v : Int} (hv : Holds u v) :
    maskedValue u (BitVec.ofInt 32 v) = v := by
  have hcut : (BitVec.ofInt 32 v).setWidth u.bitSize = BitVec.ofInt u.bitSize v := by
    apply BitVec.eq_of_toNat_eq
    have hdvd : ((2 ^ u.bitSize : Nat) : Int) ∣ ((2 ^ 32 : Nat) : Int) := by exact_mod_cast Nat.pow_dvd_pow 2 hsize.2
    have hpos : (0 : Int) ≤ v % ((2 ^ 32 : Nat) : Int) := Int.emod_nonneg _ (by norm_num)
    rw [BitVec.toNat_setWidth, BitVec.toNat_ofInt, BitVec.toNat_ofInt, ← Int.toNat_natCast (2 ^ u.bitSize),
      ← Int.toNat_emod hpos (Int.natCast_nonneg _), Int.emod_emod_of_dvd _ hdvd, Int.toNat_natCast]
  unfold maskedValue
  rw [hcut]
  by_cases hsigned : u.logicalMin < 0
  · obtain ⟨hlow, hhigh⟩ := hv.signed hsigned
    rw [if_pos hsigned]
    exact BitVec.toInt_ofInt_eq_self (by omega) hlow hhigh
  · obtain ⟨hlow, hhigh⟩ := hv.unsigned (not_lt.mp hsigned)
    rw [if_neg hsigned, BitVec.toNat_ofInt, Int.emod_eq_of_lt hlow (by exact_mod_cast hhigh), Int.toNat_of_nonneg hlow]

/-- A device that keeps the report and gives it back as far as it is asked for: the field within four bytes holds what was written. -/
theorem fieldNumber_stored (hsize : 1 ≤ u.bitSize ∧ u.bitSize ≤ 32) (hword : u.bitOffset % 8 + u.bitSize ≤ 32)
    (hinside : bitStart u + u.bitSize ≤ 2048) (hbuffer : buffer.length = 256) (hfetched : fetchedLen ≤ 256) {v : Int}
    (hv : Holds u v) {wLength : Nat} (hasked : requiredLength u ≤ wLength) :
    fieldNumber u (((writeField u (BitVec.ofInt 32 v) buffer fetchedLen).1.take
      (writeField u (BitVec.ofInt 32 v) buffer fetchedLen).2).take wLength) = v := by
  refine ((fieldNumber_eq_masked_iff u (BitVec.ofInt 32 v) _).mpr fun i hi => ?_).trans (maskedValue_ofInt hsize hv)
  have hin : InField u (bitStart u + i) := ⟨by omega, by omega⟩
  rw [bitAt_take, if_pos (lt_of_inField hin hasked), bitAt_sent hinside hbuffer hfetched hi, if_pos (by omega)]

theorem carries_stored (hinside : bitStart u + u.bitSize ≤ 2048) (hbuffer : buffer.length = 256) (hfetched : fetchedLen ≤ 256)
    (hid : u.reportId ≠ 0 → buffer.head?.map BitVec.toNat = some u.reportId) {wLength : Nat}
    (hasked : requiredLength u ≤ wLength) :
    Carries u (((writeField u raw buffer fetchedLen).1.take (writeField u raw buffer fetchedLen).2).take wLength) := by
  obtain ⟨hreach, hshort⟩ := length_sent hinside hbuffer raw fetchedLen
  apply carries_of_reach
  · rw [List.length_take]
    omega
  · rw [List.length_take]
    omega
  · intro hne
    have hasks : wLength ≠ 0 := by
      unfold requiredLength idBytes at hasked
      rw [if_pos hne] at hasked
      omega
    rw [List.head?_take, if_neg hasks, head_written hbuffer hinside hfetched hne]
    exact hid hne

/-! ### A field in five bytes -/

/-- 32 bits that begin at the second bit of a byte lose the upper one. -/
theorem fifth_byte_not_written :
    (writeField (sampleField 0 1 32) 0xC0000000 (List.replicate 256 0) 8).1.take 5 = [0, 0, 0, 0x80, 0]
      ∧ extractUsage (sampleField 0 1 32) ((writeField (sampleField 0 1 32) 0xC0000000 (List.replicate 256 0) 8).1.take 8)
        = 1073741824
      ∧ maskedValue (sampleField 0 1 32) 0xC0000000 = -1073741824
      ∧ ¬ ReadsBack (sampleField 0 1 32) 0xC0000000 (List.replicate 256 0) 8 := by
  have hread : extractUsage (sampleField 0 1 32)
      ((writeField (sampleField 0 1 32) 0xC0000000 (List.replicate 256 0) 8).1.take 8) = 1073741824 := by decide +kernel
  have hmasked : maskedValue (sampleField 0 1 32) 0xC0000000 = -1073741824 := by decide +kernel
  have hsent : (writeField (sampleField 0 1 32) 0xC0000000 (List.replicate 256 0) 8).2 = 8 := by decide +kernel
  refine ⟨by decide +kernel, hread, hmasked, ?_⟩
  rintro ⟨hback, -⟩
  rw [hsent, hread, hmasked] at hback
  exact absurd hback (by norm_num)

end EspNut.BeeperLogic
