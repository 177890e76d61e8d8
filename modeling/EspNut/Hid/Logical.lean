import EspNut.Hid.Extract

/-!
# A value turned back into what the field holds

`extractUsage` multiplies the number of a field by a power of ten and `toLogical` by the opposite one. Beside the product of the floating point numbers stands the exact one. With either of them `toLogical` gives the number back that the field holds.
-/

namespace EspNut.HIDParser

open Lib Rounding

/-- The product with a power of ten, without rounding. -/
def exactScale (v : ℚ) (exponent : Int) : ℚ := v * 10 ^ exponent

variable {u : HIDUsageDef} {data : List Byte} {times : ℚ → Int → ℚ}

def fieldNumber (u : HIDUsageDef) (data : List Byte) : Int :=
  if u.logicalMin < 0 then (BitVec.ofNat u.bitSize (littleEndian data / 2 ^ fieldStart u)).toInt
  else (BitVec.ofNat u.bitSize (littleEndian data / 2 ^ fieldStart u)).toNat

/-- A number that the bits of the field, its declared range and an `int32_t` can hold. -/
structure Holds (u : HIDUsageDef) (v : Int) : Prop where
  signed : u.logicalMin < 0 → -2 ^ (u.bitSize - 1) ≤ v ∧ v < 2 ^ (u.bitSize - 1)
  unsigned : 0 ≤ u.logicalMin → 0 ≤ v ∧ v < 2 ^ u.bitSize
  declared : u.logicalMin < u.logicalMax → u.logicalMin ≤ v ∧ v ≤ u.logicalMax
  int32 : -2 ^ 31 ≤ v ∧ v < 2 ^ 31

/-- A report that holds the field: of the field's id, long enough, and no longer than a bit offset can count. -/
structure Carries (u : HIDUsageDef) (data : List Byte) : Prop where
  id : u.reportId ≠ 0 → data.head?.map BitVec.toNat = some u.reportId
  long : fieldStart u + u.bitSize ≤ 8 * data.length
  short : data.length < 8192

/-! ### What is accepted -/

theorem readBits_of_size (hsize : 1 ≤ u.bitSize ∧ u.bitSize ≤ 32) : readBits u = u.bitSize := Nat.min_eq_left hsize.2

/-- The numbers that are accepted, for any product. -/
theorem toLogicalBy_eq_some_iff (hsize : 1 ≤ u.bitSize ∧ u.bitSize ≤ 32) {x : ℚ} {v : Int} :
    toLogicalBy times u x = some v
      ↔ |times x (-unitExpo u)| < 4000000000 ∧ roundEven (times x (-unitExpo u)) = v ∧ Holds u v := by
  have hrange : ∀ w : Int, ¬ (w < (fieldRange u).1 ∨ (fieldRange u).2 < w)
      ↔ (u.logicalMin < 0 → -2 ^ (u.bitSize - 1) ≤ w ∧ w < 2 ^ (u.bitSize - 1)) ∧ (0 ≤ u.logicalMin → 0 ≤ w ∧ w < 2 ^ u.bitSize) := by
    intro w
    unfold fieldRange
    rw [readBits_of_size hsize]
    split <;> omega
  unfold toLogicalBy
  dsimp only
  constructor
  · intro h
    split at h
    · cases h
    rename_i hsmall
    split at h
    · cases h
    rename_i hdeclared
    split at h
    · cases h
    split at h
    · cases h
    rename_i hbits
    split at h
    · cases h
    rename_i hint
    obtain rfl := Option.some.inj h
    obtain ⟨hsigned, hunsigned⟩ := (hrange _).mp hbits
    exact ⟨lt_of_not_ge hsmall, rfl, hsigned, hunsigned, fun h => by omega, by omega⟩
  · rintro ⟨hsmall, rfl, hsigned, hunsigned, hdeclared, hint⟩
    rw [if_neg (not_le_of_gt hsmall), if_neg, if_neg (by omega), if_neg ((hrange _).mpr ⟨hsigned, hunsigned⟩), if_neg]
    · omega
    · rintro ⟨h, hout⟩
      have hin := hdeclared h
      omega

/-! ### What is read -/

theorem fieldStart_lt (hsize : 1 ≤ u.bitSize ∧ u.bitSize ≤ 32) (h : Carries u data) : fieldStart u < 65536 := by
  have hlong := h.long
  have hshort := h.short
  omega

/-- The value that is read is the number of the field times a power of ten. -/
theorem extractUsageBy_eq (hfound : u.found = true) (hsize : 1 ≤ u.bitSize ∧ u.bitSize ≤ 32) (h : Carries u data) :
    extractUsageBy times u data = times (fieldNumber u data) (unitExpo u) := by
  have hown : ¬ (u.reportId ≠ 0 ∧ data.head?.map BitVec.toNat ≠ some u.reportId) := fun hother => hother.2 (h.id hother.1)
  have hbits : BitVec.ofNat u.bitSize (littleEndian data / 2 ^ fieldStart u % 2 ^ u.bitSize)
      = BitVec.ofNat u.bitSize (littleEndian data / 2 ^ fieldStart u) := by
    apply BitVec.eq_of_toNat_eq
    rw [BitVec.toNat_ofNat, BitVec.toNat_ofNat, Nat.mod_mod]
  have hnumber : signedField u (rawField u data) = fieldNumber u data := by
    rw [rawField_eq (fieldStart_lt hsize h), readBits_of_size hsize, signedField_eq hsize (Nat.mod_lt _ (Nat.two_pow_pos _)),
      hbits]
    rfl
  unfold extractUsageBy
  rw [if_neg (by simp [hfound]), if_neg hown, if_neg (by omega), hnumber]

theorem holds_fieldNumber
    (hdeclared : u.logicalMin < u.logicalMax → u.logicalMin ≤ fieldNumber u data ∧ fieldNumber u data ≤ u.logicalMax)
    (hint : -2 ^ 31 ≤ fieldNumber u data ∧ fieldNumber u data < 2 ^ 31) : Holds u (fieldNumber u data) := by
  refine ⟨fun hsigned => ?_, fun hunsigned => ?_, hdeclared, hint⟩
  · unfold fieldNumber
    rw [if_pos hsigned]
    exact ⟨BitVec.le_toInt _, BitVec.toInt_lt⟩
  · unfold fieldNumber
    rw [if_neg (not_lt_of_ge hunsigned)]
    refine ⟨Int.natCast_nonneg _, ?_⟩
    exact_mod_cast BitVec.isLt _

/-! ### The way back -/

theorem exactScale_exactScale (v : ℚ) (e : Int) : exactScale (exactScale v e) (-e) = v := by
  unfold exactScale
  rw [mul_assoc, ← zpow_add₀ (by norm_num), add_neg_cancel, zpow_zero, mul_one]

theorem abs_le_of_int32 {v : Int} (h : -2 ^ 31 ≤ v ∧ v < 2 ^ 31) : |(v : ℚ)| ≤ 2 ^ 31 := by
  rw [abs_le]
  exact ⟨by exact_mod_cast h.1, by exact_mod_cast h.2.le⟩

/-- With the exact product, `toLogical` of the value that is read is the number of the field, when its declared range and an `int32_t` have it; and whatever it accepts can be held by the field. -/
theorem toLogical_inverts (hfound : u.found = true) (hsize : 1 ≤ u.bitSize ∧ u.bitSize ≤ 32) :
    (∀ data, Carries u data →
        (u.logicalMin < u.logicalMax → u.logicalMin ≤ fieldNumber u data ∧ fieldNumber u data ≤ u.logicalMax) →
        (-2 ^ 31 ≤ fieldNumber u data ∧ fieldNumber u data < 2 ^ 31) →
        toLogicalBy exactScale u (extractUsageBy exactScale u data) = some (fieldNumber u data))
      ∧ ∀ physical v, toLogicalBy exactScale u physical = some v → Holds u v := by
  constructor
  · intro data hcarries hdeclared hint
    rw [toLogicalBy_eq_some_iff hsize, extractUsageBy_eq hfound hsize hcarries, exactScale_exactScale]
    refine ⟨(abs_le_of_int32 hint).trans_lt (by norm_num), roundEven_intCast _, holds_fieldNumber hdeclared hint⟩
  · intro physical v h
    exact ((toLogicalBy_eq_some_iff hsize).mp h).2.2

/-- Two signed bytes behind a report id that count in tenths, from -400 to 1250. -/
def tenthsField : HIDUsageDef :=
  { usage := 0x00840030, reportId := 7, reportType := 3, bitOffset := 0, bitSize := 16, found := true, logicalMin := -400,
    logicalMax := 1250, exponent := -1, unit := 0, path := "UPS.PowerSummary.Temperature", collIndex := [] }

theorem toLogical_inverts_tenthsField :
    toLogicalBy exactScale tenthsField (extractUsageBy exactScale tenthsField [7#8, 0x85#8, 0xFF#8]) = some (-123)
      ∧ ∀ v, toLogicalBy exactScale tenthsField 12 = some v → Holds tenthsField v := by
  have hnumber : fieldNumber tenthsField [7#8, 0x85#8, 0xFF#8] = -123 := by decide
  have h := toLogical_inverts (u := tenthsField) rfl (by decide)
  refine ⟨?_, h.2 12⟩
  rw [← hnumber]
  refine h.1 _ ⟨fun _ => rfl, by decide, by decide⟩ (fun _ => ?_) ?_ <;> rw [hnumber] <;> decide

/-! ### Floating point -/

/-- A rounded number is off by a small factor. -/
theorem toDouble_eq_mul (x : ℚ) : ∃ δ : ℚ, |δ| ≤ 2 ^ (-53 : Int) ∧ toDouble x = x * (1 + δ) := by
  have herror := abs_fl_sub_le 53 x
  by_cases hx : x = 0
  · exact ⟨0, by norm_num, by rw [hx, toDouble, fl_zero, zero_mul]⟩
  · refine ⟨(toDouble x - x) / x, ?_, by field_simp; ring⟩
    rw [abs_div, div_le_iff₀ (abs_pos.mpr hx), mul_comm]
    exact herror

/-- One such factor moves a number of at most 33 bits by little. -/
theorem abs_mul_sub_le {x v a : ℚ} {k : ℕ} (hk : k ≤ 3) (hv : |v| ≤ 2 ^ 31) (hx : |x - v| ≤ k * 2 ^ (-21 : Int))
    (ha : |a| ≤ 2 ^ (-53 : Int)) : |x * (1 + a) - v| ≤ (k + 1 : ℕ) * 2 ^ (-21 : Int) := by
  have hk' : (k : ℚ) ≤ 3 := by exact_mod_cast hk
  have hsize : |x| ≤ 2 ^ 32 := by
    calc |x| = |(x - v) + v| := by rw [sub_add_cancel]
      _ ≤ |x - v| + |v| := abs_add_le _ _
      _ ≤ 3 * 2 ^ (-21 : Int) + 2 ^ 31 :=
          add_le_add (hx.trans (mul_le_mul_of_nonneg_right hk' (by norm_num))) hv
      _ ≤ 2 ^ 32 := by norm_num
  calc |x * (1 + a) - v| = |(x - v) + x * a| := by ring_nf
    _ ≤ |x - v| + |x| * |a| := by
        rw [← abs_mul]
        exact abs_add_le _ _
    _ ≤ k * 2 ^ (-21 : Int) + 2 ^ 32 * 2 ^ (-53 : Int) :=
        add_le_add hx (mul_le_mul hsize ha (abs_nonneg _) (by norm_num))
    _ = (k + 1 : ℕ) * 2 ^ (-21 : Int) := by
        push_cast
        norm_num
        ring

/-- There and back with rounded products, a number of 32 bits moves by less than one half. -/
theorem abs_scale_scale_sub_lt {v : ℚ} (hv : |v| ≤ 2 ^ 31) (e : Int) : |scale (scale v e) (-e) - v| < 1 / 2 := by
  by_cases he : e = 0
  · unfold scale
    rw [he, if_pos rfl, if_pos neg_zero, sub_self, abs_zero]
    norm_num
  obtain ⟨a, ha, hpow⟩ := toDouble_eq_mul (10 ^ e)
  obtain ⟨b, hb, hread⟩ := toDouble_eq_mul (v * pow10 e)
  obtain ⟨c, hc, hpow'⟩ := toDouble_eq_mul (10 ^ (-e))
  obtain ⟨d, hd, hback⟩ := toDouble_eq_mul (toDouble (v * pow10 e) * pow10 (-e))
  have hfactors : scale (scale v e) (-e) = v * (1 + a) * (1 + b) * (1 + c) * (1 + d) := by
    have hunit : (10 : ℚ) ^ e * 10 ^ (-e) = 1 := by rw [← zpow_add₀ (by norm_num), add_neg_cancel, zpow_zero]
    unfold scale
    rw [if_neg he, if_neg (neg_ne_zero.mpr he), hback, hread]
    unfold pow10
    rw [hpow, hpow']
    calc v * (10 ^ e * (1 + a)) * (1 + b) * (10 ^ (-e) * (1 + c)) * (1 + d)
        = v * (1 + a) * (1 + b) * (1 + c) * (1 + d) * (10 ^ e * 10 ^ (-e)) := by ring
      _ = v * (1 + a) * (1 + b) * (1 + c) * (1 + d) := by rw [hunit, mul_one]
  have hnone : |v - v| ≤ (0 : ℕ) * 2 ^ (-21 : Int) := by simp
  have hall := abs_mul_sub_le (by norm_num) hv (abs_mul_sub_le (by norm_num) hv
    (abs_mul_sub_le (by norm_num) hv (abs_mul_sub_le (by norm_num) hv hnone ha) hb) hc) hd
  rw [hfactors]
  exact hall.trans_lt (by norm_num)

/-- The rounded products of the code give the number back too. -/
theorem toLogical_extractUsage (hfound : u.found = true) (hsize : 1 ≤ u.bitSize ∧ u.bitSize ≤ 32) (hcarries : Carries u data)
    (hdeclared : u.logicalMin < u.logicalMax → u.logicalMin ≤ fieldNumber u data ∧ fieldNumber u data ≤ u.logicalMax)
    (hint : -2 ^ 31 ≤ fieldNumber u data ∧ fieldNumber u data < 2 ^ 31) :
    toLogical u (extractUsage u data) = some (fieldNumber u data) := by
  have hnear := abs_scale_scale_sub_lt (abs_le_of_int32 hint) (unitExpo u)
  unfold toLogical extractUsage
  rw [toLogicalBy_eq_some_iff hsize, extractUsageBy_eq hfound hsize hcarries]
  refine ⟨?_, roundEven_eq hnear, holds_fieldNumber hdeclared hint⟩
  have hsmall := abs_le_of_int32 hint
  rw [abs_lt] at hnear ⊢
  rw [abs_le] at hsmall
  constructor <;> linarith [hnear.1, hnear.2, hsmall.1, hsmall.2]

end EspNut.HIDParser
