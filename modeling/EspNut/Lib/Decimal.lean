import EspNut.Lib.Text
import Mathlib.Algebra.Group.Int.Defs
import Mathlib.Data.List.TakeWhile

/-!
# Decimal numbers in C texts

`scanInt` reads what `strtol` in base ten reads before its result is squeezed into a machine type: blanks, a sign and digits, with the rest of the text. `Denotes` is the grammar the readers are compared with: digits with an optional minus and nothing else.
-/

namespace EspNut.Lib.Decimal

/-- The blanks `isspace` skips in the C locale. -/
def isSpace (c : Char) : Bool :=
  c = ' ' || c = '\t' || c = '\n' || c = '\x0b' || c = '\x0c' || c = '\r'

def value (digits : List Char) : Int := (Nat.ofDigitChars 10 digits 0 : Nat)

/-- The number at the start of a text and the rest after it; zero and the whole text when there is none. -/
def scanInt (text : List Char) : Int × List Char :=
  let body := text.dropWhile isSpace
  let unsigned := match body with
    | '-' :: rest => rest
    | '+' :: rest => rest
    | rest => rest
  let digits := unsigned.takeWhile Char.isDigit
  if digits = [] then (0, text)
  else (if body.head? = some '-' then -value digits else value digits, unsigned.dropWhile Char.isDigit)

/-- A number squeezed into a machine range, as the C readers do on overflow. -/
def saturate (low high v : Int) : Int := max low (min high v)

theorem saturate_eq_of_mem {low high v : Int} (hlow : low ≤ v) (hhigh : v ≤ high) :
    saturate low high v = v := by
  rw [saturate, min_eq_right hhigh, max_eq_right hlow]

/-- `atol` with a 32-bit long. -/
def atol (text : List Char) : Int := saturate (-2 ^ 31) (2 ^ 31 - 1) (scanInt text).1

/-- A saturated number strictly inside the range was not changed. -/
theorem eq_of_saturate_mem {low high v : Int} (hlow : low < saturate low high v)
    (hhigh : saturate low high v < high) : saturate low high v = v := by
  unfold saturate at *
  omega

/-- The text is a decimal integer: digits, with a minus in front for the negative ones. -/
def Denotes (text : String) (v : Int) : Prop :=
  ∃ digits : List Char, digits ≠ [] ∧ (∀ c ∈ digits, c.isDigit = true) ∧
    ((text.toList = digits ∧ v = value digits) ∨ (text.toList = '-' :: digits ∧ v = -value digits))

theorem takeWhile_digits {digits : List Char} (h : ∀ c ∈ digits, c.isDigit = true) :
    digits.takeWhile Char.isDigit = digits ∧ digits.dropWhile Char.isDigit = [] :=
  ⟨List.takeWhile_eq_self_iff.mpr h, List.dropWhile_eq_nil_iff.mpr h⟩

theorem isSpace_of_isDigit {c : Char} (h : c.isDigit = true) : isSpace c = false := by
  simp only [Char.isDigit, Bool.and_eq_true, decide_eq_true_eq] at h
  by_contra hspace
  simp only [Bool.not_eq_false, isSpace, Bool.or_eq_true, decide_eq_true_eq] at hspace
  rcases hspace with ((((h' | h') | h') | h') | h') | h' <;> subst h' <;> revert h <;> decide

theorem scanInt_digits {digits : List Char} (hne : digits ≠ []) (h : ∀ c ∈ digits, c.isDigit = true) :
    scanInt digits = (value digits, []) := by
  obtain ⟨c, rest, rfl⟩ := List.exists_cons_of_ne_nil hne
  have hc : c.isDigit = true := h c (by simp)
  have hminus : c ≠ '-' := by rintro rfl; revert hc; decide
  have hplus : c ≠ '+' := by rintro rfl; revert hc; decide
  obtain ⟨htake, hdrop⟩ := takeWhile_digits h
  have hbody : (c :: rest).dropWhile isSpace = c :: rest := by
    rw [List.dropWhile_cons_of_neg]
    simp [isSpace_of_isDigit hc]
  unfold scanInt
  simp only [hbody]
  split
  · rename_i heq
    exact absurd (List.cons.inj heq).1 hminus
  · rename_i heq
    exact absurd (List.cons.inj heq).1 hplus
  · rw [htake, hdrop, if_neg hne, if_neg]
    simpa using hminus

theorem scanInt_minus_digits {digits : List Char} (hne : digits ≠ [])
    (h : ∀ c ∈ digits, c.isDigit = true) : scanInt ('-' :: digits) = (-value digits, []) := by
  obtain ⟨htake, hdrop⟩ := takeWhile_digits h
  have hbody : ('-' :: digits).dropWhile isSpace = '-' :: digits := rfl
  unfold scanInt
  simp only [hbody]
  rw [htake, hdrop, if_neg hne]
  rfl

/-- The number at the start of an unsigned text that it exhausts is its digits. -/
theorem denotes_of_scan_digit {text : String} {c : Char} {rest : List Char}
    (htext : text.toList = c :: rest) (hc : c.isDigit = true) (hend : (scanInt text.toList).2 = []) :
    Denotes text (scanInt text.toList).1 := by
  have hall : ∀ x ∈ text.toList, x.isDigit = true := by
    have hminus : c ≠ '-' := by rintro rfl; revert hc; decide
    have hplus : c ≠ '+' := by rintro rfl; revert hc; decide
    have hbody : (c :: rest).dropWhile isSpace = c :: rest := by
      rw [List.dropWhile_cons_of_neg]
      simp [isSpace_of_isDigit hc]
    have hdigits : (c :: rest).takeWhile Char.isDigit ≠ [] := by simp [hc]
    rw [htext] at hend ⊢
    unfold scanInt at hend
    simp only [hbody] at hend
    split at hend
    · rename_i heq
      exact absurd (List.cons.inj heq).1 hminus
    · rename_i heq
      exact absurd (List.cons.inj heq).1 hplus
    · rw [if_neg hdigits] at hend
      exact List.dropWhile_eq_nil_iff.mp hend
  have hne : text.toList ≠ [] := by simp [htext]
  exact ⟨text.toList, hne, hall, Or.inl ⟨rfl, by rw [scanInt_digits hne hall]⟩⟩

theorem denotes_of_scan_minus {text : String} {c : Char} {rest : List Char}
    (htext : text.toList = '-' :: c :: rest) (hc : c.isDigit = true)
    (hend : (scanInt text.toList).2 = []) : Denotes text (scanInt text.toList).1 := by
  have hbody : ('-' :: c :: rest).dropWhile isSpace = '-' :: c :: rest := rfl
  have hdigits : (c :: rest).takeWhile Char.isDigit ≠ [] := by simp [hc]
  have hall : ∀ x ∈ c :: rest, x.isDigit = true := by
    rw [htext] at hend
    unfold scanInt at hend
    simp only [hbody, if_neg hdigits] at hend
    exact List.dropWhile_eq_nil_iff.mp hend
  have hne : c :: rest ≠ [] := by simp
  exact ⟨c :: rest, hne, hall, Or.inr ⟨htext, by rw [htext, scanInt_minus_digits hne hall]⟩⟩

/-- The text behind a minus in front of it. -/
def afterMinus : List Char → List Char
  | '-' :: rest => rest
  | text => text

theorem afterMinus_of_ne {c : Char} (h : c ≠ '-') (rest : List Char) :
    afterMinus (c :: rest) = c :: rest := by
  unfold afterMinus
  split
  · rename_i heq
    exact absurd (List.cons.inj heq).1 h
  · rfl

/-- A text read to its end whose sign is followed by a digit is a decimal integer. -/
theorem denotes_of_scan {text : String} {c : Char} {rest : List Char}
    (htext : afterMinus text.toList = c :: rest) (hc : c.isDigit = true)
    (hend : (scanInt text.toList).2 = []) : Denotes text (scanInt text.toList).1 := by
  cases hchars : text.toList with
  | nil =>
      rw [hchars] at htext
      exact absurd htext (by simp [afterMinus])
  | cons first more =>
      rw [← hchars]
      by_cases hminus : first = '-'
      · subst hminus
        have hmore : more = c :: rest := by rw [hchars] at htext; exact htext
        exact denotes_of_scan_minus (hchars.trans (by rw [hmore])) hc hend
      · rw [hchars, afterMinus_of_ne hminus] at htext
        exact denotes_of_scan_digit (hchars.trans htext) hc hend

theorem afterMinus_of_denotes {text : String} {v : Int} (h : Denotes text v) :
    ∃ c rest, afterMinus text.toList = c :: rest ∧ c.isDigit = true := by
  obtain ⟨digits, hne, hall, hcases⟩ := h
  obtain ⟨c, rest, rfl⟩ := List.exists_cons_of_ne_nil hne
  have hc : c.isDigit = true := hall c (by simp)
  refine ⟨c, rest, ?_, hc⟩
  rcases hcases with ⟨htext, -⟩ | ⟨htext, -⟩
  · rw [htext, afterMinus_of_ne]
    rintro rfl
    exact absurd hc (by decide)
  · rw [htext]
    rfl

theorem scanInt_of_denotes {text : String} {v : Int} (h : Denotes text v) :
    scanInt text.toList = (v, []) := by
  obtain ⟨digits, hne, hall, ⟨htext, rfl⟩ | ⟨htext, rfl⟩⟩ := h
  · rw [htext, scanInt_digits hne hall]
  · rw [htext, scanInt_minus_digits hne hall]

/-! ### The texts of integers -/

theorem toList_toString (n : Nat) : (toString (n : Int)).toList = Nat.toDigits 10 n := by
  show (toString n).toList = _
  simp

theorem toList_toString_negSucc (n : Nat) : (toString (Int.negSucc n)).toList = '-' :: Nat.toDigits 10 (n + 1) := by
  show ("-" ++ toString (n + 1)).toList = _
  simp [String.toList_append]

end EspNut.Lib.Decimal
