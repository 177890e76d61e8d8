import EspNut.Lib.Rounding

/-!
# Numerals with a bounded number of digits

A text of digits and the number it stands for, as the readers of dates and times take it; a number padded with zeros is such a text of the exact width.
-/

namespace EspNut.Lib

open Rounding

/-- Between `least` and `most` digits that stand for `n`. -/
structure Digits (least most n : Nat) (text : List Char) : Prop where
  digits : ∀ c ∈ text, c.isDigit = true
  long : least ≤ text.length
  short : text.length ≤ most
  value : Nat.ofDigitChars 10 text 0 = n

namespace Digits

variable {least most n : Nat} {text : List Char}

theorem weaken (h : Digits least most n text) {fewer more : Nat} (hleast : fewer ≤ least) (hmost : most ≤ more) :
    Digits fewer more n text :=
  ⟨h.digits, hleast.trans h.long, h.short.trans hmost, h.value⟩

/-- The digits in front of a text that goes on with something else. -/
theorem takeWhile_append (h : Digits least most n text) {rest : List Char} (hrest : ∀ c ∈ rest.head?, c.isDigit = false) :
    ((text ++ rest).take most).takeWhile Char.isDigit = text := by
  have hnone : (rest.take (most - text.length)).takeWhile Char.isDigit = [] := by
    cases rest with
    | nil => simp
    | cons c rest =>
        cases hroom : most - text.length with
        | zero => rfl
        | succ room => rw [List.take_succ_cons, List.takeWhile_cons_of_neg (by simp [hrest c rfl])]
  rw [List.take_append, List.take_of_length_le h.short, List.takeWhile_append_of_pos h.digits, hnone, List.append_nil]

theorem toNat_of_isDigit {c : Char} (h : c.isDigit = true) : '0'.toNat ≤ c.toNat ∧ c.toNat ≤ '0'.toNat + 9 := by
  simp only [Char.isDigit, Bool.and_eq_true, decide_eq_true_eq, UInt32.le_iff_toNat_le] at h
  exact h

theorem ofDigitChars_lt {text : List Char} (h : ∀ c ∈ text, c.isDigit = true) :
    Nat.ofDigitChars 10 text 0 < 10 ^ text.length := by
  induction text with
  | nil => simp
  | cons c rest ih =>
      rw [List.forall_mem_cons] at h
      have hrest := ih h.2
      have hc : c.toNat - '0'.toNat ≤ 9 := by
        have hdigit := toNat_of_isDigit h.1
        omega
      rw [Nat.ofDigitChars_cons, Nat.ofDigitChars_eq_ofDigitChars_zero, List.length_cons, Nat.pow_succ]
      calc 10 ^ rest.length * (10 * 0 + (c.toNat - '0'.toNat)) + Nat.ofDigitChars 10 rest 0
          < 10 ^ rest.length * (10 * 0 + (c.toNat - '0'.toNat)) + 10 ^ rest.length := Nat.add_lt_add_left hrest _
        _ = 10 ^ rest.length * (c.toNat - '0'.toNat + 1) := by ring
        _ ≤ 10 ^ rest.length * 10 := Nat.mul_le_mul_left _ (by omega)

/-- Two texts of digits, of one length and one value, are the same. -/
theorem eq_of_ofDigitChars {text other : List Char} (h : ∀ c ∈ text, c.isDigit = true) (h' : ∀ c ∈ other, c.isDigit = true)
    (hlength : text.length = other.length) (hvalue : Nat.ofDigitChars 10 text 0 = Nat.ofDigitChars 10 other 0) : text = other := by
  induction text generalizing other with
  | nil => exact (List.length_eq_zero_iff.mp hlength.symm).symm
  | cons c rest ih =>
      obtain ⟨d, more, rfl⟩ := List.exists_cons_of_length_pos (show 0 < other.length by rw [← hlength]; exact Nat.succ_pos _)
      rw [List.forall_mem_cons] at h h'
      rw [List.length_cons, List.length_cons, Nat.succ_inj] at hlength
      rw [Nat.ofDigitChars_cons, Nat.ofDigitChars_cons, Nat.ofDigitChars_eq_ofDigitChars_zero,
        Nat.ofDigitChars_eq_ofDigitChars_zero (l := more), ← hlength, Nat.mul_zero, Nat.zero_add, Nat.zero_add] at hvalue
      have hrest := ofDigitChars_lt h.2
      have hmore := ofDigitChars_lt h'.2
      rw [← hlength] at hmore
      have hpos : 0 < 10 ^ rest.length := Nat.pow_pos (by decide)
      -- the leading digit is the quotient
      have hlead : c.toNat - '0'.toNat = d.toNat - '0'.toNat := by
        have hquotient := congrArg (· / 10 ^ rest.length) hvalue
        simpa only [Nat.mul_add_div hpos, Nat.div_eq_of_lt hrest, Nat.div_eq_of_lt hmore, Nat.add_zero] using hquotient
      rw [hlead] at hvalue
      have hc := toNat_of_isDigit h.1
      have hd := toNat_of_isDigit h'.1
      have hsame : c = d := Char.toNat_inj.mp (by omega)
      rw [hsame, ih h.2 h'.2 hlength (Nat.add_left_cancel hvalue)]

theorem lt (h : Digits least most n text) : n < 10 ^ most := by
  rw [← h.value]
  exact (ofDigitChars_lt h.digits).trans_le (Nat.pow_le_pow_right (by decide) h.short)

theorem padded (hwidth : 0 < most) (hn : n < 10 ^ most) : Digits most most n (padded most n) := by
  have hlength : (Nat.toDigits 10 n).length ≤ most := (Nat.length_toDigits_le_iff (by decide) hwidth).mpr hn
  unfold Rounding.padded
  refine ⟨fun c hc => ?_, ?_, ?_, ?_⟩
  · rcases List.mem_append.mp hc with hzero | hdigit
    · rw [List.eq_of_mem_replicate hzero]
      rfl
    · exact Nat.isDigit_of_mem_toDigits (by decide) (by decide) hdigit
  · rw [List.length_append, List.length_replicate]
    omega
  · rw [List.length_append, List.length_replicate]
    omega
  · rw [Nat.ofDigitChars_append, Nat.ofDigitChars_replicate_zero, Nat.mul_zero, Nat.ofDigitChars_ten_toDigits]

theorem eq_padded (hwidth : 0 < most) (h : Digits most most n text) : text = Rounding.padded most n := by
  have hpadded := padded hwidth h.lt
  apply eq_of_ofDigitChars h.digits hpadded.digits
  · rw [le_antisymm h.short h.long, le_antisymm hpadded.short hpadded.long]
  · rw [h.value, hpadded.value]

end Digits

theorem padded_eq_toDigits {width n : Nat} (h : width ≤ (Nat.toDigits 10 n).length) : padded width n = Nat.toDigits 10 n := by
  unfold padded
  dsimp only
  rw [Nat.sub_eq_zero_of_le h, List.replicate_zero, List.nil_append]

end EspNut.Lib
