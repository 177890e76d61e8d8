import EspNut.Lib.Decimal
import Mathlib.Data.Int.Log
import Mathlib.Data.Rat.Floor
import Mathlib.Tactic.Linarith
import Mathlib.Tactic.FieldSimp
import Mathlib.Tactic.Positivity
import Mathlib.Tactic.NormNum

/-!
# Floating point numbers as rationals

A number of a binary format with `p` bits is the rational it stands for, and an operation is the exact one followed by `fl p`: to the nearest, ties to even. The exponent has no bounds, so infinities, NaNs and subnormal numbers do not occur. The readers and writers of C texts for such numbers come last.
-/

namespace EspNut.Lib.Rounding

/-- The nearest integer, the even one of two equally near. -/
def roundEven (x : ℚ) : Int :=
  let below := ⌊x⌋
  if x - below < 1 / 2 then below
  else if 1 / 2 < x - below then below + 1
  else if below % 2 = 0 then below else below + 1

theorem roundEven_intCast (n : Int) : roundEven n = n := by
  unfold roundEven
  simp

theorem abs_roundEven_sub_le (x : ℚ) : |(roundEven x : ℚ) - x| ≤ 1 / 2 := by
  have hlow : (⌊x⌋ : ℚ) ≤ x := Int.floor_le x
  have hhigh : x < ⌊x⌋ + 1 := Int.lt_floor_add_one x
  rw [abs_le]
  unfold roundEven
  dsimp only
  split
  · constructor <;> linarith
  · split
    · push_cast
      constructor <;> linarith
    · split
      · constructor <;> linarith
      · push_cast
        constructor <;> linarith

/-- The result is the only integer nearer than one half, when there is one. -/
theorem roundEven_eq {x : ℚ} {n : Int} (h : |x - n| < 1 / 2) : roundEven x = n := by
  have hround := abs_roundEven_sub_le x
  rw [abs_le] at hround
  rw [abs_lt] at h
  have hlow : (n : ℚ) - 1 < roundEven x := by linarith [hround.1, h.1]
  have hhigh : (roundEven x : ℚ) < n + 1 := by linarith [hround.2, h.2]
  have hlow' : n - 1 < roundEven x := by exact_mod_cast hlow
  have hhigh' : roundEven x < n + 1 := by exact_mod_cast hhigh
  omega

theorem le_roundEven {x : ℚ} {n : Int} (h : n - 1 / 2 < x) : n ≤ roundEven x := by
  have hround := abs_roundEven_sub_le x
  rw [abs_le] at hround
  have hlow : (n : ℚ) - 1 < roundEven x := by linarith [hround.1]
  have hlow' : n - 1 < roundEven x := by exact_mod_cast hlow
  omega

/-- The distance between neighbours of the format around `x`. -/
def ulp (p : Nat) (x : ℚ) : ℚ := 2 ^ (Int.log 2 |x| + 1 - p)

theorem ulp_pos (p : Nat) (x : ℚ) : 0 < ulp p x := by
  unfold ulp
  exact zpow_pos (by norm_num) _

/-- The number of `p` significant bits nearest to `x`. -/
def fl (p : Nat) (x : ℚ) : ℚ := if x = 0 then 0 else roundEven (x / ulp p x) * ulp p x

@[simp] theorem fl_zero (p : Nat) : fl p 0 = 0 := if_pos rfl

/-- The spacing is at most the number divided by half the number of significands. -/
theorem ulp_le {x : ℚ} (h : x ≠ 0) (p : Nat) : ulp p x ≤ |x| * 2 ^ (1 - (p : Int)) := by
  have hlog : (2 : ℚ) ^ Int.log 2 |x| ≤ |x| := by
    simpa using Int.zpow_log_le_self (b := 2) (by norm_num) (abs_pos.mpr h)
  have hsplit : ulp p x = 2 ^ Int.log 2 |x| * 2 ^ (1 - (p : Int)) := by
    unfold ulp
    rw [← zpow_add₀ (by norm_num)]
    congr 1
    omega
  rw [hsplit]
  exact mul_le_mul_of_nonneg_right hlog (zpow_nonneg (by norm_num) _)

/-- The relative error of an operation. -/
theorem abs_fl_sub_le (p : Nat) (x : ℚ) : |fl p x - x| ≤ |x| * 2 ^ (-(p : Int)) := by
  by_cases h : x = 0
  · simp [h]
  · have hpos := ulp_pos p x
    have hround := abs_roundEven_sub_le (x / ulp p x)
    have hhalf : (2 : ℚ) ^ (1 - (p : Int)) = 2 * 2 ^ (-(p : Int)) := by
      rw [sub_eq_add_neg, zpow_add₀ (by norm_num), zpow_one]
    have hscaled : fl p x - x = (roundEven (x / ulp p x) - x / ulp p x) * ulp p x := by
      rw [fl, if_neg h, sub_mul, div_mul_cancel₀ _ hpos.ne']
    calc |fl p x - x| = |roundEven (x / ulp p x) - x / ulp p x| * ulp p x := by
          rw [hscaled, abs_mul, abs_of_pos hpos]
      _ ≤ 1 / 2 * (|x| * 2 ^ (1 - (p : Int))) :=
          mul_le_mul hround (ulp_le h p) hpos.le (by norm_num)
      _ = |x| * 2 ^ (-(p : Int)) := by rw [hhalf]; ring

theorem fl_intCast {p : Nat} {n : Int} (h : |n| < 2 ^ p) : fl p n = n := by
  by_cases hn : n = 0
  · simp [hn]
  · have hcast : (n : ℚ) ≠ 0 := by exact_mod_cast hn
    have habs : ((n.natAbs : Nat) : ℚ) = |(n : ℚ)| := by
      rw [← Int.cast_natCast, Int.natCast_natAbs, Int.cast_abs]
    have hlog : Int.log 2 |(n : ℚ)| = Nat.log 2 n.natAbs := by rw [← habs, Int.log_natCast]
    have hbits : Nat.log 2 n.natAbs < p := by
      apply Nat.log_lt_of_lt_pow (by omega)
      have : ((n.natAbs : Nat) : Int) < 2 ^ p := by rwa [Int.natCast_natAbs]
      exact_mod_cast this
    have hmul : (n : ℚ) / ulp p n = ((n * 2 ^ (p - 1 - Nat.log 2 n.natAbs) : Int) : ℚ) := by
      rw [div_eq_iff (ulp_pos p n).ne', ulp, hlog]
      push_cast
      rw [mul_assoc, ← zpow_natCast, ← zpow_add₀ (by norm_num)]
      have hexp : ((p - 1 - Nat.log 2 n.natAbs : Nat) : Int) + (Nat.log 2 n.natAbs + 1 - p) = 0 := by omega
      rw [hexp, zpow_zero, mul_one]
    rw [fl, if_neg hcast, hmul, roundEven_intCast, ← hmul, div_mul_cancel₀ _ (ulp_pos p n).ne']

/-- The spacing is more than the number divided by the number of significands. -/
theorem lt_ulp (p : Nat) (x : ℚ) : |x| * 2 ^ (-(p : Int)) < ulp p x := by
  have hlog : |x| < (2 : ℚ) ^ (Int.log 2 |x| + 1) := by
    simpa using Int.lt_zpow_succ_log_self (b := 2) (by norm_num) |x|
  have hsplit : ulp p x = 2 ^ (Int.log 2 |x| + 1) * 2 ^ (-(p : Int)) := by
    unfold ulp
    rw [← zpow_add₀ (by norm_num), sub_eq_add_neg]
  rw [hsplit]
  exact mul_lt_mul_of_pos_right hlog (zpow_pos (by norm_num) _)

/-- An operation does not fall below an integer of the format when its exact result is less than half a spacing below. -/
theorem le_fl {p n : Nat} {x : ℚ} (hpos : 0 < x) (hlt : x < 2 ^ p) (h : n - x < x * 2 ^ (-(p : Int)) / 2) :
    (n : ℚ) ≤ fl p x := by
  have hspacing := ulp_pos p x
  have hhalf : n - x < ulp p x / 2 := by
    have hless := lt_ulp p x
    rw [abs_of_pos hpos] at hless
    linarith
  have hlog : Int.log 2 |x| < p := by
    rw [abs_of_pos hpos, ← Int.lt_zpow_iff_log_lt (b := 2) (by norm_num) hpos]
    simpa using hlt
  -- below 2 ^ p the spacing divides every integer
  obtain ⟨j, hj⟩ : ∃ j : Nat, Int.log 2 |x| + 1 - p = -(j : Int) := Int.exists_eq_neg_ofNat (by omega)
  have hunits : ((n * 2 ^ j : Nat) : Int) * ulp p x = (n : ℚ) := by
    unfold ulp
    rw [hj, zpow_neg, zpow_natCast]
    push_cast
    rw [mul_assoc, mul_inv_cancel₀ (by positivity), mul_one]
  have hround : ((n * 2 ^ j : Nat) : Int) ≤ roundEven (x / ulp p x) := by
    apply le_roundEven
    rw [lt_div_iff₀ hspacing, sub_mul, hunits]
    linarith
  unfold fl
  rw [if_neg hpos.ne', ← hunits]
  exact mul_le_mul_of_nonneg_right (by exact_mod_cast hround) hspacing.le

/-! ### The formats of C -/

def toDouble (x : ℚ) : ℚ := fl 53 x

def toFloat (x : ℚ) : ℚ := fl 24 x

/-- `pow(10.0, k)`, correctly rounded. -/
def pow10 (k : Int) : ℚ := toDouble (10 ^ k)

def trunc (x : ℚ) : Int := if 0 ≤ x then ⌊x⌋ else ⌈x⌉

theorem trunc_intCast (n : Int) : trunc (n : ℚ) = n := by
  unfold trunc
  split
  · exact Int.floor_intCast n
  · exact Int.ceil_intCast n

/-- The cast to a 32-bit `long`; out of its range the nearest end, as the soft float routines give. -/
def toLong (x : ℚ) : Int := Decimal.saturate (-2 ^ 31) (2 ^ 31 - 1) (trunc x)

def toUnsigned (x : ℚ) : Nat := (Decimal.saturate 0 (2 ^ 32 - 1) (trunc x)).toNat

def lrint (x : ℚ) : Int := Decimal.saturate (-2 ^ 31) (2 ^ 31 - 1) (roundEven x)

/-- `lround` with a 32-bit `long`: halves go away from zero. -/
def lround (x : ℚ) : Int :=
  Decimal.saturate (-2 ^ 31) (2 ^ 31 - 1) (if 0 ≤ x then ⌊x + 1 / 2⌋ else ⌈x - 1 / 2⌉)

/-- `%0widthd` of a number that is not negative. -/
def padded (width n : Nat) : List Char :=
  let digits := Nat.toDigits 10 n
  List.replicate (width - digits.length) '0' ++ digits

/-- `%.<digits>f`. -/
def formatFixed (digits : Nat) (x : ℚ) : String :=
  let scaled := (roundEven (|x| * 10 ^ digits)).toNat
  let integral := Nat.toDigits 10 (scaled / 10 ^ digits)
  let fraction := if digits = 0 then [] else '.' :: padded digits (scaled % 10 ^ digits)
  String.ofList ((if x < 0 then ['-'] else []) ++ integral ++ fraction)

/-- The exponent of a numeral: `e`, a sign and digits. -/
def scanExponent : List Char → Int
  | c :: rest =>
      if c = 'e' ∨ c = 'E' then
        let digits := (match rest with
          | '-' :: more => more
          | '+' :: more => more
          | more => more).takeWhile Char.isDigit
        if rest.head? = some '-' then -Decimal.value digits else Decimal.value digits
      else 0
  | [] => 0

/-- `strtod` on decimal numerals, zero when there is none; the texts of infinities, NaNs and hexadecimal numbers are not read. -/
def strtod (text : List Char) : ℚ :=
  let body := text.dropWhile Decimal.isSpace
  let unsigned := match body with
    | '-' :: rest => rest
    | '+' :: rest => rest
    | rest => rest
  let integral := unsigned.takeWhile Char.isDigit
  let tail := unsigned.dropWhile Char.isDigit
  let fraction := match tail with
    | '.' :: rest => rest.takeWhile Char.isDigit
    | _ => []
  let afterFraction := match tail with
    | '.' :: rest => rest.dropWhile Char.isDigit
    | rest => rest
  if integral = [] ∧ fraction = [] then 0
  else
    let magnitude : ℚ := Decimal.value (integral ++ fraction)
      * 10 ^ (scanExponent afterFraction - fraction.length)
    toDouble (if body.head? = some '-' then -magnitude else magnitude)

end EspNut.Lib.Rounding
