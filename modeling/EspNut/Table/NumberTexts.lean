import EspNut.Lib.Digits
import EspNut.Table.Encode
import EspNut.Table.Rows

/-!
# The grammar of numeric parameters

The reader of numbers adds up any number of digits, and gives up before its 64 bits could overflow; the texts it takes are those of its grammar. The reader of delays leaves the digits to `strtoll`.
-/

namespace EspNut.NutTable

open Lib

/-- What the loop over the digits comes to. -/
inductive DigitsRead where
  /-- An intermediate result of 64 bits would have overflowed. -/
  | overflow
  | refused
  | read (v : Nat) (rest : List Char)

/-- The loop over the digits, which stops above 2^31. -/
def readDigits : Nat → List Char → DigitsRead
  | v, [] => .read v []
  | v, c :: rest =>
      if c.isDigit then
        let v := v * 10 + (c.toNat - '0'.toNat)
        if 2 ^ 63 ≤ v then .overflow
        else if 2 ^ 31 < v then .refused
        else readDigits v rest
      else .read v (c :: rest)

/-- The reader as it goes along; no result at all where it would overflow. -/
def parseTruncatedNumberSteps (text : List Char) : Option (Option Int) :=
  let body := text.dropWhile Decimal.isSpace
  let unsigned := afterSign body
  if (unsigned.head?.map Char.isDigit) ≠ some true then some none
  else
    match readDigits 0 unsigned with
    | .overflow => none
    | .refused => some none
    | .read v tail =>
        if (afterFraction tail).dropWhile Decimal.isSpace ≠ [] then some none
        else
          let v : Int := if body.head? = some '-' then -v else v
          if v < -2 ^ 31 ∨ 2 ^ 31 - 1 < v then some none else some (some v)

theorem le_ofDigitChars (v : Nat) (digits : List Char) : v ≤ Nat.ofDigitChars 10 digits v := by
  induction digits generalizing v with
  | nil => exact le_rfl
  | cons c rest ih =>
      rw [Nat.ofDigitChars_cons]
      exact le_trans (by omega) (ih (10 * v + (c.toNat - '0'.toNat)))

/-- However many digits there are, their value is read or found too large. -/
theorem readDigits_eq {v : Nat} (hv : v ≤ 2 ^ 31) (text : List Char) :
    readDigits v text
      = if Nat.ofDigitChars 10 (text.takeWhile Char.isDigit) v ≤ 2 ^ 31
        then .read (Nat.ofDigitChars 10 (text.takeWhile Char.isDigit) v) (text.dropWhile Char.isDigit) else .refused := by
  induction text generalizing v with
  | nil => exact (if_pos hv).symm
  | cons c rest ih =>
      unfold readDigits
      cases hdigit : c.isDigit with
      | false =>
          rw [if_neg Bool.false_ne_true, List.takeWhile_cons_of_neg (by simp [hdigit]), List.dropWhile_cons_of_neg (by simp [hdigit])]
          exact (if_pos hv).symm
      | true =>
          have hvalue := Digits.toNat_of_isDigit hdigit
          rw [if_pos rfl, List.takeWhile_cons_of_pos hdigit, List.dropWhile_cons_of_pos hdigit, Nat.ofDigitChars_cons,
            Nat.mul_comm 10 v]
          dsimp only
          rw [if_neg (by omega)]
          by_cases hlarge : 2 ^ 31 < v * 10 + (c.toNat - '0'.toNat)
          · have hmore := le_ofDigitChars (v * 10 + (c.toNat - '0'.toNat)) (rest.takeWhile Char.isDigit)
            rw [if_pos hlarge, if_neg (by omega)]
          · rw [if_neg hlarge, ih (Nat.le_of_not_lt hlarge)]

theorem takeWhile_eq_nil_iff (text : List Char) :
    text.takeWhile Char.isDigit = [] ↔ text.head?.map Char.isDigit ≠ some true := by
  cases text with
  | nil => simp
  | cons c rest => cases hdigit : c.isDigit <;> simp [hdigit]

/-- The number at the start of a body, its rest checked. -/
theorem parseTruncatedNumber_eq (text : String) :
    parseTruncatedNumber text
      = let body := text.toList.dropWhile Decimal.isSpace
        let digits := (afterSign body).takeWhile Char.isDigit
        let v := if body.head? = some '-' then -Decimal.value digits else Decimal.value digits
        if digits = [] then none
        else if (afterFraction ((afterSign body).dropWhile Char.isDigit)).dropWhile Decimal.isSpace ≠ [] then none
        else if v < -2 ^ 31 ∨ 2 ^ 31 - 1 < v then none
        else some v := rfl

/-- The reader never overflows, and reads the whole number at once. -/
theorem parseTruncatedNumberSteps_eq (text : String) :
    parseTruncatedNumberSteps text.toList = some (parseTruncatedNumber text) := by
  rw [parseTruncatedNumber_eq]
  unfold parseTruncatedNumberSteps
  dsimp only
  generalize text.toList.dropWhile Decimal.isSpace = body
  generalize afterSign body = unsigned
  by_cases hnone : unsigned.takeWhile Char.isDigit = []
  · rw [if_pos ((takeWhile_eq_nil_iff unsigned).mp hnone), if_pos hnone]
  · rw [if_neg fun h => hnone ((takeWhile_eq_nil_iff unsigned).mpr h), if_neg hnone, readDigits_eq (by decide)]
    unfold Decimal.value
    generalize unsigned.dropWhile Char.isDigit = tail
    generalize Nat.ofDigitChars 10 (unsigned.takeWhile Char.isDigit) 0 = magnitude
    by_cases hsmall : magnitude ≤ 2 ^ 31
    · rw [if_pos hsmall]
      dsimp only
      split
      · rfl
      · exact (apply_ite some _ _ _).symm
    · rw [if_neg hsmall]
      dsimp only
      split
      · rfl
      · rw [if_pos]
        split <;> omega

/-! ### The grammar -/

/-- The sign in front of a number. -/
inductive Sign where
  | none | plus | minus
  deriving DecidableEq

def Sign.chars : Sign → List Char
  | .none => []
  | .plus => ['+']
  | .minus => ['-']

/-- A number text in its pieces: blanks, a sign, digits, a dot with more of them, blanks. -/
structure NumberText where
  before : List Char
  sign : Sign
  digits : List Char
  /-- What follows a dot. -/
  fraction : Option (List Char)
  after : List Char
  blankBefore : ∀ c ∈ before, Decimal.isSpace c = true
  some_digit : digits ≠ []
  isDigit : ∀ c ∈ digits, c.isDigit = true
  fractionIsDigit : ∀ ds ∈ fraction, ∀ c ∈ ds, c.isDigit = true
  blankAfter : ∀ c ∈ after, Decimal.isSpace c = true

/-- The digits behind a dot, with the dot. -/
def fractionChars : Option (List Char) → List Char
  | some ds => '.' :: ds
  | none => []

namespace NumberText

def chars (number : NumberText) : List Char :=
  number.before ++ (number.sign.chars ++ (number.digits ++ (fractionChars number.fraction ++ number.after)))

/-- The integer part. -/
def value (number : NumberText) : Int :=
  if number.sign = .minus then -Decimal.value number.digits else Decimal.value number.digits

end NumberText

theorem isDigit_of_isSpace {c : Char} (h : Decimal.isSpace c = true) : c.isDigit = false := by
  cases hdigit : c.isDigit with
  | false => rfl
  | true =>
      rw [Decimal.isSpace_of_isDigit hdigit] at h
      cases h

theorem ne_sign_of_isDigit {c : Char} (h : c.isDigit = true) : c ≠ '+' ∧ c ≠ '-' := by
  constructor <;> rintro rfl <;> exact absurd h (by decide)

theorem exists_sign (body : List Char) :
    ∃ sign : Sign, body = sign.chars ++ afterSign body ∧ (body.head? = some '-' ↔ sign = .minus) := by
  unfold afterSign
  split
  · exact ⟨.plus, rfl, by simp⟩
  · exact ⟨.minus, rfl, by simp⟩
  · rename_i hplus hminus
    refine ⟨.none, rfl, iff_of_false (fun hhead => ?_) (by decide)⟩
    obtain ⟨rest, rfl⟩ := List.head?_eq_some_iff.mp hhead
    exact hminus rest rfl

theorem exists_fraction (tail : List Char) :
    ∃ fraction, tail = fractionChars fraction ++ afterFraction tail ∧ ∀ ds ∈ fraction, ∀ c ∈ ds, c.isDigit = true := by
  unfold afterFraction
  split
  · rename_i more
    refine ⟨some (more.takeWhile Char.isDigit), ?_, ?_⟩
    · rw [fractionChars, List.cons_append, List.takeWhile_append_dropWhile]
    · rintro ds hds c hc
      rw [Option.mem_some_iff] at hds
      subst hds
      exact List.mem_takeWhile_imp hc
  · exact ⟨none, rfl, fun ds hds => nomatch hds⟩

variable (number : NumberText)

namespace NumberText

theorem body_eq : number.chars.dropWhile Decimal.isSpace
    = number.sign.chars ++ (number.digits ++ (fractionChars number.fraction ++ number.after)) := by
  obtain ⟨c, rest, hdigits⟩ := List.exists_cons_of_ne_nil number.some_digit
  have hc : c.isDigit = true := number.isDigit c (hdigits ▸ List.mem_cons_self)
  unfold chars
  rw [List.dropWhile_append_of_pos number.blankBefore]
  cases number.sign with
  | none =>
      rw [hdigits]
      exact List.dropWhile_cons_of_neg (by simp [Decimal.isSpace_of_isDigit hc])
  | plus => rfl
  | minus => rfl

theorem afterSign_eq : afterSign (number.sign.chars ++ (number.digits ++ (fractionChars number.fraction ++ number.after)))
      = number.digits ++ (fractionChars number.fraction ++ number.after)
    ∧ ((number.sign.chars ++ (number.digits ++ (fractionChars number.fraction ++ number.after))).head? = some '-'
      ↔ number.sign = .minus) := by
  obtain ⟨c, rest, hdigits⟩ := List.exists_cons_of_ne_nil number.some_digit
  obtain ⟨hplus, hminus⟩ := ne_sign_of_isDigit (number.isDigit c (hdigits ▸ List.mem_cons_self))
  cases number.sign with
  | none =>
      rw [hdigits]
      constructor
      · unfold afterSign Sign.chars
        split
        · rename_i heq
          exact absurd (List.cons.inj heq).1 hplus
        · rename_i heq
          exact absurd (List.cons.inj heq).1 hminus
        · rfl
      · exact iff_of_false (by simpa [Sign.chars] using hminus) (by decide)
  | plus => exact ⟨rfl, by simp [Sign.chars]⟩
  | minus => exact ⟨rfl, by simp [Sign.chars]⟩

theorem digits_end : (fractionChars number.fraction ++ number.after).takeWhile Char.isDigit = []
    ∧ (fractionChars number.fraction ++ number.after).dropWhile Char.isDigit = fractionChars number.fraction ++ number.after
    ∧ afterFraction (fractionChars number.fraction ++ number.after) = number.after := by
  have hafter : ∀ c ∈ number.after.head?, c.isDigit = false := fun c hc =>
    isDigit_of_isSpace (number.blankAfter c (List.mem_of_mem_head? hc))
  have hdrop := Text.dropWhile_of_head Char.isDigit number.after hafter
  cases hfraction : number.fraction with
  | some ds =>
      refine ⟨rfl, rfl, ?_⟩
      show (ds ++ number.after).dropWhile Char.isDigit = number.after
      rw [List.dropWhile_append_of_pos (number.fractionIsDigit ds hfraction), hdrop]
  | none =>
      refine ⟨?_, hdrop, ?_⟩
      · rw [takeWhile_eq_nil_iff]
        show number.after.head?.map Char.isDigit ≠ some true
        intro hmap
        obtain ⟨c, hc, hdigit⟩ := Option.map_eq_some_iff.mp hmap
        rw [hafter c hc] at hdigit
        cases hdigit
      · unfold afterFraction
        split
        · rename_i more heq
          have hdot := number.blankAfter '.' (by rw [show number.after = '.' :: more from heq]; exact List.mem_cons_self)
          exact absurd hdot (by decide)
        · rfl

end NumberText

/-- The reader takes the number texts with an integer part of 32 bits. -/
theorem parseTruncatedNumber_eq_some_iff (text : String) (v : Int) :
    parseTruncatedNumber text = some v
      ↔ ∃ number : NumberText, number.chars = text.toList ∧ number.value = v ∧ -2 ^ 31 ≤ v ∧ v ≤ 2 ^ 31 - 1 := by
  rw [parseTruncatedNumber_eq]
  dsimp only
  constructor
  · intro h
    split at h
    · cases h
    rename_i hsome
    split at h
    · cases h
    rename_i hend
    generalize hv : (if (text.toList.dropWhile Decimal.isSpace).head? = some '-' then _ else _) = w at h
    split at h
    · cases h
    rename_i hrange
    obtain rfl : w = v := Option.some.inj h
    obtain ⟨sign, hbody, hminus⟩ := exists_sign (text.toList.dropWhile Decimal.isSpace)
    obtain ⟨fraction, htail, hfraction⟩ :=
      exists_fraction ((afterSign (text.toList.dropWhile Decimal.isSpace)).dropWhile Char.isDigit)
    refine ⟨{
      before := text.toList.takeWhile Decimal.isSpace
      sign := sign
      digits := (afterSign (text.toList.dropWhile Decimal.isSpace)).takeWhile Char.isDigit
      fraction := fraction
      after := afterFraction ((afterSign (text.toList.dropWhile Decimal.isSpace)).dropWhile Char.isDigit)
      blankBefore := fun c hc => List.mem_takeWhile_imp hc
      some_digit := hsome
      isDigit := fun c hc => List.mem_takeWhile_imp hc
      fractionIsDigit := hfraction
      blankAfter := List.dropWhile_eq_nil_iff.mp (not_not.mp hend) }, ?_, ?_, ?_⟩
    · show _ ++ (_ ++ (_ ++ (_ ++ _))) = _
      rw [← htail, List.takeWhile_append_dropWhile, ← hbody, List.takeWhile_append_dropWhile]
    · rw [← hv]
      exact if_congr hminus.symm rfl rfl
    · omega
  · rintro ⟨number, htext, hvalue, hlow, hhigh⟩
    obtain ⟨hunsigned, hminus⟩ := number.afterSign_eq
    obtain ⟨hnone, hrest, hafter⟩ := number.digits_end
    have hdigits : (number.digits ++ (fractionChars number.fraction ++ number.after)).takeWhile Char.isDigit = number.digits := by
      rw [List.takeWhile_append_of_pos number.isDigit, hnone, List.append_nil]
    rw [← htext, number.body_eq, hunsigned, hdigits, List.dropWhile_append_of_pos number.isDigit, hrest, hafter,
      List.dropWhile_eq_nil_iff.mpr number.blankAfter, if_neg number.some_digit, if_neg (not_not.mpr rfl)]
    have hv : (if (number.sign.chars ++ (number.digits ++ (fractionChars number.fraction ++ number.after))).head? = some '-'
        then -Decimal.value number.digits else Decimal.value number.digits) = v := by
      rw [← hvalue]
      unfold NumberText.value
      exact if_congr hminus rfl rfl
    rw [hv, if_neg (by omega)]

/-- For texts of any length: the reader of numbers never overflows and takes exactly its grammar, and so does the reader of delays. -/
theorem number_texts_read :
    (∀ text : String, ∃ result, parseTruncatedNumberSteps text.toList = some result ∧ ∀ v,
      result = some v ↔ ∃ number : NumberText, number.chars = text.toList ∧ number.value = v ∧ -2 ^ 31 ≤ v ∧ v ≤ 2 ^ 31 - 1)
    ∧ ∀ (text : String) (v : Int), parseDelayParam text = some v ↔ Decimal.Denotes text v ∧ -1 ≤ v ∧ v ≤ 2 ^ 31 - 1 :=
  ⟨fun text => ⟨parseTruncatedNumber text, parseTruncatedNumberSteps_eq text, parseTruncatedNumber_eq_some_iff text⟩,
    parseDelayParam_eq_some_iff⟩

/-- A dot that no digit follows is taken too. -/
theorem bare_dot_read :
    ¬ ∀ (text : String) (v : Int), parseTruncatedNumberSteps text.toList = some (some v)
      ↔ ∃ number : NumberText, number.chars = text.toList ∧ number.value = v ∧ (-2 ^ 31 ≤ v ∧ v ≤ 2 ^ 31 - 1)
        ∧ number.fraction ≠ some [] := by
  intro h
  obtain ⟨number, hchars, -, -, hfraction⟩ := (h "30." 30).mp (by decide)
  have hlast : number.chars.getLast? = some '.' := by
    rw [hchars]
    rfl
  have hdigits := number.some_digit
  unfold NumberText.chars at hlast
  rw [List.getLast?_append_of_ne_nil _ (by simp [hdigits]), List.getLast?_append_of_ne_nil _ (by simp [hdigits])] at hlast
  by_cases hafter : number.after = []
  · rw [hafter, List.append_nil] at hlast
    cases hnumber : number.fraction with
    | none =>
        rw [hnumber, fractionChars, List.append_nil] at hlast
        exact absurd (number.isDigit '.' (List.mem_of_mem_getLast? hlast)) (by decide)
    | some ds =>
        have hsome : ds ≠ [] := fun hnone => hfraction (hnone ▸ hnumber)
        rw [hnumber, fractionChars, List.getLast?_append_of_ne_nil _ (List.cons_ne_nil _ _),
          List.getLast?_cons_of_ne_nil hsome] at hlast
        exact absurd (number.fractionIsDigit ds hnumber '.' (List.mem_of_mem_getLast? hlast)) (by decide)
  · rw [List.getLast?_append_of_ne_nil _ (by simp [hafter]), List.getLast?_append_of_ne_nil _ hafter] at hlast
    exact absurd (number.blankAfter '.' (List.mem_of_mem_getLast? hlast)) (by decide)

end EspNut.NutTable
