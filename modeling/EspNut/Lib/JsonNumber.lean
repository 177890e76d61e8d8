import EspNut.Lib.Decimal
import EspNut.Lib.Json
import Mathlib.Data.Rat.Cast.CharZero

/-!
# The values of number literals

What a text of digits with an optional minus and an optional point stands for. The decimal text of an integer is a JSON number and stands for it.
-/

namespace EspNut.Lib.Json

/-- The unsigned number a text stands for; there is a digit somewhere. -/
def unsignedValue (chars : List Char) : Option ℚ :=
  let whole := chars.takeWhile Char.isDigit
  match chars.dropWhile Char.isDigit with
  | [] => if whole = [] then none else some (Decimal.value whole : ℚ)
  | point :: fraction =>
      if point = '.' ∧ fraction.all Char.isDigit = true ∧ (whole ≠ [] ∨ fraction ≠ []) then
        some (Decimal.value whole + Decimal.value fraction / 10 ^ fraction.length)
      else none

/-- The number a text stands for, with a minus in front of the negative ones. -/
def decimalValue : List Char → Option ℚ
  | '-' :: chars => (unsignedValue chars).map fun x => -x
  | chars => unsignedValue chars

variable {digits : List Char}

theorem isNumber_of_ne {c : Char} (h : c ≠ '-') (rest : List Char) : isNumber (c :: rest) = isUnsigned (c :: rest) := by
  rw [isNumber]
  exact fun chars heq => h (List.cons.inj heq).1

theorem decimalValue_of_ne {c : Char} (h : c ≠ '-') (rest : List Char) :
    decimalValue (c :: rest) = unsignedValue (c :: rest) := by
  rw [decimalValue]
  exact fun chars heq => h (List.cons.inj heq).1

theorem unsignedValue_digits (hne : digits ≠ []) (h : ∀ c ∈ digits, c.isDigit = true) :
    unsignedValue digits = some (Decimal.value digits : ℚ) := by
  obtain ⟨htake, hdrop⟩ := Decimal.takeWhile_digits h
  unfold unsignedValue
  dsimp only
  rw [htake, hdrop]
  exact if_neg hne

theorem decimalValue_digits (hne : digits ≠ []) (h : ∀ c ∈ digits, c.isDigit = true) :
    decimalValue digits = some (Decimal.value digits : ℚ) := by
  obtain ⟨c, rest, rfl⟩ := List.exists_cons_of_ne_nil hne
  have hminus : c ≠ '-' := ne_of_isDigit (h c List.mem_cons_self) (by decide)
  rw [decimalValue_of_ne hminus, unsignedValue_digits hne h]

/-- A JSON number stands for a number. -/
theorem unsignedValue_of_isUnsigned {chars : List Char} (h : isUnsigned chars = true) :
    ∃ x, unsignedValue chars = some x := by
  unfold isUnsigned at h
  obtain ⟨hwhole, hrest⟩ := Bool.and_eq_true_iff.mp h
  have hne : chars.takeWhile Char.isDigit ≠ [] := of_decide_eq_true (Bool.and_eq_true_iff.mp hwhole).1
  unfold unsignedValue
  dsimp only
  split
  · exact ⟨_, if_neg hne⟩
  · rename_i point fraction hdrop
    rw [hdrop] at hrest
    simp only [Bool.and_eq_true, decide_eq_true_eq] at hrest
    exact ⟨_, if_pos ⟨hrest.1.1, hrest.2, Or.inl hne⟩⟩

theorem decimalValue_of_isNumber {chars : List Char} (h : isNumber chars = true) : ∃ x, decimalValue chars = some x := by
  cases chars with
  | nil => exact absurd h (by decide)
  | cons c rest =>
      by_cases hminus : c = '-'
      · subst hminus
        obtain ⟨x, hx⟩ := unsignedValue_of_isUnsigned h
        exact ⟨-x, by rw [decimalValue, hx]; rfl⟩
      · rw [isNumber_of_ne hminus] at h
        rw [decimalValue_of_ne hminus]
        exact unsignedValue_of_isUnsigned h

/-! ### Integers -/

theorem isDigit_toDigits (n : Nat) : ∀ c ∈ Nat.toDigits 10 n, c.isDigit = true :=
  fun _ hc => Nat.isDigit_of_mem_toDigits (by decide) (by decide) hc

/-- Only zero is written with a zero in front. -/
theorem head_toDigits {n : Nat} (hn : 0 < n) : (Nat.toDigits 10 n).head? ≠ some '0' := by
  induction n using Nat.strong_induction_on with
  | _ n ih =>
      rw [Nat.toDigits_eq_if (by decide)]
      split
      · rename_i hsmall
        have hall : ∀ d < 10, 0 < d → [Nat.digitChar d].head? ≠ some '0' := by decide
        exact hall n hsmall hn
      · rw [List.head?_append_of_ne_nil _ Nat.toDigits_ne_nil]
        exact ih (n / 10) (by omega) (by omega)

theorem isUnsigned_toDigits (n : Nat) : isUnsigned (Nat.toDigits 10 n) = true := by
  obtain ⟨htake, hdrop⟩ := Decimal.takeWhile_digits (isDigit_toDigits n)
  have hwhole : isWhole (Nat.toDigits 10 n) = true := by
    rcases Nat.eq_zero_or_pos n with rfl | hn
    · rfl
    · simp [isWhole, head_toDigits hn]
  unfold isUnsigned
  rw [htake, hdrop, hwhole]
  rfl

theorem value_toDigits (n : Nat) : Decimal.value (Nat.toDigits 10 n) = n := by
  rw [Decimal.value, Nat.ofDigitChars_ten_toDigits]

theorem isNumber_toString (n : Int) : isNumber (toString n).toList = true := by
  cases n with
  | ofNat n =>
      rw [Int.ofNat_eq_natCast, Decimal.toList_toString]
      obtain ⟨c, rest, hdigits⟩ := List.exists_cons_of_ne_nil (Nat.toDigits_ne_nil (n := n) (b := 10))
      have hc : c.isDigit = true := isDigit_toDigits n c (by rw [hdigits]; exact List.mem_cons_self)
      rw [hdigits, isNumber_of_ne (ne_of_isDigit hc (by decide)), ← hdigits, isUnsigned_toDigits]
  | negSucc n =>
      rw [Decimal.toList_toString_negSucc]
      exact isUnsigned_toDigits (n + 1)

theorem decimalValue_toString (n : Int) : decimalValue (toString n).toList = some (n : ℚ) := by
  cases n with
  | ofNat n =>
      rw [Int.ofNat_eq_natCast, Decimal.toList_toString, decimalValue_digits Nat.toDigits_ne_nil (isDigit_toDigits n), value_toDigits]
  | negSucc n =>
      rw [Decimal.toList_toString_negSucc, decimalValue, unsignedValue_digits Nat.toDigits_ne_nil (isDigit_toDigits _), value_toDigits,
        Option.map_some]
      simp [Int.cast_negSucc]

theorem isBare_toString (n : Int) : isBare (toString n).toList = true := by
  have hdigits : ∀ m : Nat, ((Nat.toDigits 10 m).all fun c => c.isDigit || c = '-' || c = '.') = true := by
    intro m
    rw [List.all_eq_true]
    intro c hc
    rw [isDigit_toDigits m c hc]
    rfl
  cases n with
  | ofNat n =>
      rw [Int.ofNat_eq_natCast, Decimal.toList_toString]
      exact Bool.and_eq_true_iff.mpr ⟨decide_eq_true Nat.toDigits_ne_nil, hdigits n⟩
  | negSucc n =>
      rw [Decimal.toList_toString_negSucc]
      exact Bool.and_eq_true_iff.mpr ⟨decide_eq_true (List.cons_ne_nil _ _), hdigits (n + 1)⟩

end EspNut.Lib.Json
