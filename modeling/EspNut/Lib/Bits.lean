import Mathlib.Data.Nat.Bitwise
import Mathlib.Data.List.Basic

/-!
# Bits of byte buffers

A buffer is read as one long row of bits, the low bit of its first byte first. A write into a buffer is described by what it does to each bit, which is also how a number read back from it is compared with the one written.
-/

namespace EspNut.Lib

abbrev Byte := BitVec 8

/-- Bit `k` of a buffer; the bits past its end are clear. -/
def bitAt (buf : List Byte) (k : Nat) : Bool := (buf.getD (k / 8) 0).getLsbD (k % 8)

/-- The number in the bytes, the first one lowest. -/
def littleEndian : List Byte → Nat
  | [] => 0
  | b :: rest => b.toNat + 256 * littleEndian rest

theorem bitAt_set (buf : List Byte) (i : Nat) (b : Byte) (k : Nat) (hi : i < buf.length) :
    bitAt (buf.set i b) k = if k / 8 = i then b.getLsbD (k % 8) else bitAt buf k := by
  unfold bitAt
  by_cases heq : k / 8 = i
  · subst heq
    rw [if_pos rfl, List.getD_eq_getElem?_getD, List.getElem?_set_self hi, Option.getD_some]
  · have hne : i ≠ k / 8 := fun h => heq h.symm
    rw [if_neg heq, List.getD_eq_getElem?_getD, List.getElem?_set_ne hne, ← List.getD_eq_getElem?_getD]

theorem bitAt_take (buf : List Byte) (n k : Nat) :
    bitAt (buf.take n) k = if k / 8 < n then bitAt buf k else false := by
  unfold bitAt
  rw [List.getD_eq_getElem?_getD, List.getElem?_take]
  by_cases hlt : k / 8 < n
  · rw [if_pos hlt, if_pos hlt, List.getD_eq_getElem?_getD]
  · rw [if_neg hlt, if_neg hlt]
    simp

theorem bitAt_drop (buf : List Byte) (n k : Nat) : bitAt (buf.drop n) k = bitAt buf (8 * n + k) := by
  unfold bitAt
  have hdiv : (8 * n + k) / 8 = n + k / 8 := by omega
  have hmod : (8 * n + k) % 8 = k % 8 := by omega
  rw [hdiv, hmod, List.getD_eq_getElem?_getD, List.getElem?_drop, List.getD_eq_getElem?_getD]

theorem bitAt_append_left (buf rest : List Byte) (k : Nat) (hk : k / 8 < buf.length) :
    bitAt (buf ++ rest) k = bitAt buf k := by
  unfold bitAt
  rw [List.getD_eq_getElem?_getD, List.getElem?_append_left hk, List.getD_eq_getElem?_getD]

theorem bitAt_eq_false_of_length_le (buf : List Byte) (k : Nat) (hk : buf.length ≤ k / 8) :
    bitAt buf k = false := by
  unfold bitAt
  rw [List.getD_eq_getElem?_getD, List.getElem?_eq_none hk]
  simp

theorem testBit_littleEndian (buf : List Byte) (k : Nat) :
    (littleEndian buf).testBit k = bitAt buf k := by
  induction buf generalizing k with
  | nil => simp [littleEndian, bitAt]
  | cons b rest ih =>
      have hsum : b.toNat + 256 * littleEndian rest = 2 ^ 8 * littleEndian rest + b.toNat := by omega
      rw [littleEndian, hsum, Nat.testBit_two_pow_mul_add _ b.isLt]
      by_cases hk : k < 8
      · have hdiv : k / 8 = 0 := by omega
        have hmod : k % 8 = k := by omega
        rw [if_pos hk, bitAt, hdiv, hmod, List.getD_cons_zero]
        rfl
      · have hdiv : k / 8 = (k - 8) / 8 + 1 := by omega
        have hmod : k % 8 = (k - 8) % 8 := by omega
        rw [if_neg hk, ih, bitAt, bitAt, hdiv, hmod, List.getD_cons_succ]

theorem littleEndian_lt (buf : List Byte) : littleEndian buf < 256 ^ buf.length := by
  induction buf with
  | nil => simp [littleEndian]
  | cons b rest ih =>
      have hb := b.isLt
      rw [littleEndian, List.length_cons, Nat.pow_succ]
      omega

theorem littleEndian_snoc (buf : List Byte) (b : Byte) :
    littleEndian (buf ++ [b]) = littleEndian buf ||| b.toNat <<< (8 * buf.length) := by
  have hlt : littleEndian buf < 2 ^ (8 * buf.length) := by
    rw [Nat.pow_mul]
    exact littleEndian_lt buf
  rw [Nat.lor_comm, ← Nat.shiftLeft_add_eq_or_of_lt hlt, Nat.shiftLeft_eq, Nat.pow_mul]
  clear hlt
  induction buf with
  | nil => simp [littleEndian]
  | cons first rest ih =>
      rw [List.cons_append, littleEndian, ih, littleEndian, List.length_cons,
        Nat.pow_succ (2 ^ 8) rest.length, ← Nat.mul_assoc]
      omega

/-- Bits of a buffer read as a number, by the bytes that hold them. -/
theorem littleEndian_window (buf : List Byte) (start width : Nat) :
    littleEndian ((buf.drop (start / 8)).take ((width + start % 8 + 7) / 8)) / 2 ^ (start % 8) % 2 ^ width
      = littleEndian buf / 2 ^ start % 2 ^ width := by
  apply Nat.eq_of_testBit_eq
  intro i
  rw [Nat.testBit_mod_two_pow, Nat.testBit_mod_two_pow, Nat.testBit_div_two_pow, Nat.testBit_div_two_pow,
    testBit_littleEndian, testBit_littleEndian, bitAt_take, bitAt_drop]
  by_cases hi : i < width
  · have hin : (i + start % 8) / 8 < (width + start % 8 + 7) / 8 := by omega
    have hplace : 8 * (start / 8) + (i + start % 8) = i + start := by omega
    rw [if_pos hin, hplace]
  · rw [decide_eq_false hi, Bool.false_and, Bool.false_and]

end EspNut.Lib
