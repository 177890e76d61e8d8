import EspNut.Hid.Logical

/-!
# The number a field takes for an integer

A field counts in a power of ten. Of an integer it takes the nearest multiple of that power, and what is read of it afterwards is that multiple, but for the last bit of a product with a negative power, which never falls below.
-/

namespace EspNut.HIDParser

open Lib Rounding

def IsMultiple (step v : ℚ) : Prop := ∃ m : Int, v = m * step

/-- A multiple of the step, with no other one nearer to `x`. -/
structure IsNearest (step x v : ℚ) : Prop where
  multiple : IsMultiple step v
  near : |v - x| ≤ step / 2

theorem IsNearest.eq {step x v : ℚ} (h : IsNearest step x v) (hstep : 0 < step) (hx : IsMultiple step x) : v = x := by
  obtain ⟨⟨m, rfl⟩, hnear⟩ := h
  obtain ⟨n, rfl⟩ := hx
  have hless : |((m - n : Int) : ℚ)| < 1 := by
    rw [← sub_mul, abs_mul, abs_of_pos hstep] at hnear
    push_cast
    by_contra hfar
    have hfar' : step ≤ |(m : ℚ) - n| * step := le_mul_of_one_le_left hstep.le (not_lt.mp hfar)
    linarith
  have hzero : m - n = 0 := by
    rw [← Int.abs_lt_one_iff]
    exact_mod_cast hless
  rw [sub_eq_zero.mp hzero]

theorem IsNearest.self {step x : ℚ} (hstep : 0 < step) (h : IsMultiple step x) : IsNearest step x x := by
  refine ⟨h, ?_⟩
  rw [sub_self, abs_zero]
  linarith

theorem isMultiple_intCast {e : Int} (he : e ≤ 0) (n : Int) : IsMultiple (10 ^ e) n := by
  obtain ⟨k, rfl⟩ := Int.exists_eq_neg_ofNat he
  refine ⟨n * 10 ^ k, ?_⟩
  rw [zpow_neg, zpow_natCast]
  push_cast
  rw [mul_assoc, mul_inv_cancel₀ (by positivity), mul_one]

/-! ### Exact products -/

theorem toDouble_intCast {n : Int} (h : |n| < 2 ^ 53) : toDouble n = n := by
  unfold toDouble
  exact fl_intCast h

/-- A positive power that is exact, and its product with an exact result. -/
theorem scale_exact {n : Int} {k : Nat} (hpow : (10 : Int) ^ k < 2 ^ 53) (hproduct : |n * 10 ^ k| < 2 ^ 53) :
    scale n k = ((n * 10 ^ k : Int) : ℚ) := by
  have hexact : pow10 k = ((10 ^ k : Int) : ℚ) := by
    unfold pow10
    rw [zpow_natCast]
    have hpos : (0 : Int) < 10 ^ k := by positivity
    have hless : |(10 : Int) ^ k| < 2 ^ 53 := (abs_of_pos hpos).le.trans_lt hpow
    rw [← toDouble_intCast hless]
    push_cast
    rfl
  unfold scale
  split
  · rename_i hk
    rw [Int.natCast_eq_zero.mp hk, pow_zero, mul_one]
  · rw [hexact, ← Int.cast_mul, toDouble_intCast hproduct]

variable {u : HIDUsageDef} {n raw : Int}

/-- A product with a power of ten and back, off by two roundings. -/
theorem abs_scale_mul_sub_le (hn : |(n : ℚ)| ≤ 2 ^ 31) (e : Int) :
    |scale n e * 10 ^ (-e) - n| ≤ 2 ^ (-20 : Int) := by
  unfold scale
  split
  · rename_i he
    rw [he, neg_zero, zpow_zero, mul_one, sub_self, abs_zero]
    exact zpow_nonneg (by norm_num) _
  · obtain ⟨a, ha, hpow⟩ := toDouble_eq_mul (10 ^ e)
    obtain ⟨b, hb, hproduct⟩ := toDouble_eq_mul (n * pow10 e)
    have hunit : (10 : ℚ) ^ e * 10 ^ (-e) = 1 := by rw [← zpow_add₀ (by norm_num), add_neg_cancel, zpow_zero]
    have hfactors : toDouble (n * pow10 e) * 10 ^ (-e) = n * (1 + a) * (1 + b) := by
      rw [hproduct]
      unfold pow10
      rw [hpow]
      calc (n : ℚ) * (10 ^ e * (1 + a)) * (1 + b) * 10 ^ (-e) = n * (1 + a) * (1 + b) * (10 ^ e * 10 ^ (-e)) := by ring
        _ = n * (1 + a) * (1 + b) := by rw [hunit, mul_one]
    have hnone : |(n : ℚ) - n| ≤ (0 : ℕ) * 2 ^ (-21 : Int) := by simp
    have hall := abs_mul_sub_le (by norm_num) hn (abs_mul_sub_le (by norm_num) hn hnone ha) hb
    rw [hfactors]
    exact hall.trans (by norm_num)

/-! ### What a field takes and gives back -/

/-- A field that counts in tens, hundreds and so on. -/
theorem nearest_coarse {k : Nat} (hk : 0 < k) (hn : |(n : ℚ)| ≤ 2 ^ 31) (hraw : roundEven (scale n (-(k : Int))) = raw) :
    IsNearest (10 ^ k) n (raw * 10 ^ k : Int) ∧ scale raw k = ((raw * 10 ^ k : Int) : ℚ) := by
  have hpos : (0 : ℚ) < 10 ^ k := by positivity
  have hback := abs_scale_mul_sub_le hn (-(k : Int))
  rw [neg_neg, zpow_natCast] at hback
  have hround := abs_roundEven_sub_le (scale n (-(k : Int)))
  rw [hraw] at hround
  have hnear : |(raw : ℚ) * 10 ^ k - n| ≤ 10 ^ k / 2 + 2 ^ (-20 : Int) := by
    calc |(raw : ℚ) * 10 ^ k - n|
        = |(raw - scale n (-(k : Int))) * 10 ^ k + (scale n (-(k : Int)) * 10 ^ k - n)| := by ring_nf
      _ ≤ |raw - scale n (-(k : Int))| * 10 ^ k + |scale n (-(k : Int)) * 10 ^ k - n| := by
          rw [← abs_of_pos hpos, ← abs_mul, abs_of_pos hpos]
          exact abs_add_le _ _
      _ ≤ 1 / 2 * 10 ^ k + 2 ^ (-20 : Int) := add_le_add (mul_le_mul_of_nonneg_right hround hpos.le) hback
      _ = 10 ^ k / 2 + 2 ^ (-20 : Int) := by ring
  -- twice the distance is an integer
  have hint : 2 * |raw * 10 ^ k - n| ≤ 10 ^ k := by
    have hless : ((2 * |raw * 10 ^ k - n| : Int) : ℚ) < ((10 ^ k + 1 : Int) : ℚ) := by
      push_cast
      have hsmall : (2 : ℚ) * 2 ^ (-20 : Int) < 1 := by norm_num
      linarith
    exact Int.lt_add_one_iff.mp (by exact_mod_cast hless)
  have hmultiple : IsMultiple ((10 : ℚ) ^ k) (raw * 10 ^ k : Int) := ⟨raw, by push_cast; rfl⟩
  refine ⟨⟨hmultiple, ?_⟩, ?_⟩
  · have hcast : ((2 * |raw * 10 ^ k - n| : Int) : ℚ) ≤ ((10 ^ k : Int) : ℚ) := by exact_mod_cast hint
    push_cast at hcast ⊢
    linarith
  · have hn' : |n| ≤ 2 ^ 31 := by exact_mod_cast hn
    by_cases hzero : raw = 0
    · unfold scale
      rw [hzero, if_neg (by omega), Int.cast_zero, zero_mul, zero_mul, Int.cast_zero, toDouble, fl_zero]
    · have hone : 1 ≤ |raw| := Int.one_le_abs hzero
      have hproduct : (10 : Int) ^ k ≤ |raw * 10 ^ k| := by
        rw [abs_mul, abs_of_pos (show (0 : Int) < 10 ^ k by positivity)]
        exact le_mul_of_one_le_left (by positivity) hone
      have hsum : |raw * 10 ^ k| ≤ |raw * 10 ^ k - n| + |n| := by
        have hadd := abs_add_le (raw * 10 ^ k - n) n
        rwa [sub_add_cancel] at hadd
      apply scale_exact
      · omega
      · omega

/-- The powers of ten down to minus nine are hardly less than the decimal fractions. -/
theorem near_pow10 {k : Nat} (hk : k < 10) :
    1 - 10 ^ k * pow10 (-(k : Int)) < 10 ^ k * pow10 (-(k : Int)) * 2 ^ (-53 : Int) / 2
      ∧ 10 ^ k * pow10 (-(k : Int)) ≤ 2 := by
  have hall : ∀ j ∈ List.range 10,
      1 - 10 ^ j * pow10 (-(j : Int)) < 10 ^ j * pow10 (-(j : Int)) * 2 ^ (-53 : Int) / 2
        ∧ 10 ^ j * pow10 (-(j : Int)) ≤ 2 := by decide +kernel
  exact hall k (List.mem_range.mpr hk)

/-- A field that counts in tenths, hundredths and so on holds every integer that it takes; what is read of it is less than one half off, and not below. -/
theorem nearest_fine {k : Nat} (hk : 0 < k) (hn : |(n : ℚ)| ≤ 2 ^ 31) (hsmall : |scale n k| < 4000000000)
    (hraw : roundEven (scale n k) = raw) :
    roundEven (scale raw (-(k : Int))) = n ∧ (0 ≤ n → trunc (scale raw (-(k : Int))) = n) := by
  have hpos : (1 : ℚ) ≤ 10 ^ k := one_le_pow₀ (by norm_num)
  have hn' : |n| ≤ 2 ^ 31 := by exact_mod_cast hn
  by_cases hzero : n = 0
  · have hnone : ∀ e : Int, scale 0 e = 0 := by
      intro e
      unfold scale
      split
      · rfl
      · rw [zero_mul, toDouble, fl_zero]
    rw [hzero, Int.cast_zero, hnone] at hraw
    have hraw0 : raw = 0 := by
      rw [← hraw]
      exact_mod_cast roundEven_intCast 0
    rw [hraw0, hzero, Int.cast_zero, hnone]
    exact ⟨by exact_mod_cast roundEven_intCast 0, fun _ => by exact_mod_cast trunc_intCast 0⟩
  have hone : (1 : ℚ) ≤ |(n : ℚ)| := by exact_mod_cast Int.one_le_abs hzero
  -- the product fits 33 bits, so neither it nor the power is rounded
  have hproduct : |(n : ℚ)| * 10 ^ k ≤ 2 ^ 33 := by
    have hback := abs_scale_mul_sub_le hn k
    rw [zpow_neg, zpow_natCast, ← div_eq_mul_inv] at hback
    have hquotient : |(n : ℚ)| ≤ |scale n k| / 10 ^ k + 2 ^ (-20 : Int) := by
      calc |(n : ℚ)| = |scale n k / 10 ^ k - (scale n k / 10 ^ k - n)| := by rw [sub_sub_cancel]
        _ ≤ |scale n k / 10 ^ k| + |scale n k / 10 ^ k - n| := abs_sub _ _
        _ ≤ |scale n k| / 10 ^ k + 2 ^ (-20 : Int) := by
            rw [abs_div, abs_of_pos (show (0 : ℚ) < 10 ^ k by positivity)]
            exact add_le_add_right hback _
    have hhalf : |(n : ℚ)| / 2 ≤ |scale n k| / 10 ^ k := by
      have htiny : (2 : ℚ) ^ (-20 : Int) ≤ 1 / 2 := by norm_num
      linarith
    rw [div_le_div_iff₀ (by norm_num) (by positivity)] at hhalf
    linarith
  have hk9 : k < 10 := by
    by_contra hlarge
    have hpow : (10 : ℚ) ^ 10 ≤ 10 ^ k := pow_le_pow_right₀ (by norm_num) (not_lt.mp hlarge)
    have hless : (10 : ℚ) ^ k ≤ |(n : ℚ)| * 10 ^ k := le_mul_of_one_le_left (by positivity) hone
    norm_num at hpow hproduct
    linarith
  have hfits : |n * 10 ^ k| ≤ 2 ^ 33 := by
    rw [abs_mul, abs_of_pos (show (0 : Int) < 10 ^ k by positivity)]
    exact_mod_cast hproduct
  have hpow : (10 : Int) ^ k ≤ |n * 10 ^ k| := by
    rw [abs_mul, abs_of_pos (show (0 : Int) < 10 ^ k by positivity)]
    exact le_mul_of_one_le_left (by positivity) (Int.one_le_abs hzero)
  have hexact : scale n k = ((n * 10 ^ k : Int) : ℚ) := scale_exact (by omega) (by omega)
  have hvalue : (raw : ℚ) = scale n k := by
    rw [hexact, roundEven_intCast] at hraw
    rw [hexact, hraw]
  have hnear := abs_scale_scale_sub_lt hn k
  rw [← hvalue] at hnear
  refine ⟨roundEven_eq hnear, fun hfrom => ?_⟩
  obtain ⟨m, rfl⟩ := Int.eq_ofNat_of_zero_le hfrom
  obtain ⟨hbelow, habove⟩ := near_pow10 hk9
  generalize hq : 10 ^ k * pow10 (-(k : Int)) = q at hbelow habove
  have hqpos : 0 < q := by
    have htiny : (2 : ℚ) ^ (-53 : Int) ≤ 1 := by norm_num
    by_contra hneg
    have hneg' : q * 2 ^ (-53 : Int) ≤ 0 := mul_nonpos_of_nonpos_of_nonneg (not_lt.mp hneg) (by norm_num)
    linarith
  have hmpos : (0 : ℚ) < m := by
    have hne : m ≠ 0 := fun h => hzero (by rw [h]; rfl)
    exact_mod_cast Nat.pos_of_ne_zero hne
  have hread : scale raw (-(k : Int)) = fl 53 (m * q) := by
    unfold scale
    rw [if_neg (by omega), hvalue, hexact, toDouble, ← hq]
    push_cast
    rw [mul_assoc]
  have hlow : (m : ℚ) ≤ scale raw (-(k : Int)) := by
    rw [hread]
    apply le_fl (mul_pos hmpos hqpos)
    · have hm : (m : ℚ) ≤ 2 ^ 31 := by
        rw [Int.cast_natCast, abs_of_pos hmpos] at hn
        exact hn
      calc (m : ℚ) * q ≤ 2 ^ 31 * 2 := mul_le_mul hm habove hqpos.le (by norm_num)
        _ < 2 ^ 53 := by norm_num
    · have hscaled := mul_lt_mul_of_pos_left hbelow hmpos
      linarith
  have hhigh : scale raw (-(k : Int)) < (m : ℚ) + 1 := by
    have hupper := (abs_lt.mp hnear).2
    rw [Int.cast_natCast] at hupper
    linarith
  unfold trunc
  rw [if_pos (hmpos.le.trans hlow), Int.floor_eq_iff, Int.cast_natCast]
  exact ⟨hlow, hhigh⟩

/-- What is read of a field that took an integer: the nearest multiple of its power of ten. -/
theorem read_of_toLogical (hsize : 1 ≤ u.bitSize ∧ u.bitSize ≤ 32) (hn : -2 ^ 31 ≤ n ∧ n < 2 ^ 31)
    (h : toLogical u n = some raw) :
    ∃ w : Int, IsNearest (10 ^ unitExpo u) n w ∧ roundEven (scale raw (unitExpo u)) = w
      ∧ (0 ≤ n → trunc (scale raw (unitExpo u)) = w) := by
  unfold toLogical at h
  rw [toLogicalBy_eq_some_iff hsize] at h
  obtain ⟨hsmall, hraw, -⟩ := h
  have habs := abs_le_of_int32 hn
  generalize unitExpo u = e at hsmall hraw ⊢
  rcases lt_trichotomy e 0 with hneg | rfl | hpos
  · obtain ⟨k, rfl⟩ := Int.exists_eq_neg_ofNat hneg.le
    rw [neg_neg] at hsmall hraw
    have hself := IsNearest.self (zpow_pos (by norm_num) _) (isMultiple_intCast hneg.le n)
    exact ⟨n, hself, nearest_fine (by omega) habs hsmall hraw⟩
  · have hplain : ∀ m : Int, scale m 0 = m := fun m => if_pos rfl
    rw [neg_zero, hplain, roundEven_intCast] at hraw
    rw [hplain, ← hraw]
    have hself := IsNearest.self (zpow_pos (by norm_num) 0) (isMultiple_intCast le_rfl n)
    exact ⟨n, hself, roundEven_intCast n, fun _ => trunc_intCast n⟩
  · obtain ⟨k, rfl⟩ := Int.eq_ofNat_of_zero_le hpos.le
    obtain ⟨hnearest, hread⟩ := nearest_coarse (by omega) habs hraw
    rw [zpow_natCast]
    refine ⟨raw * 10 ^ k, hnearest, ?_, fun _ => ?_⟩
    · rw [hread, roundEven_intCast]
    · rw [hread, trunc_intCast]

end EspNut.HIDParser
