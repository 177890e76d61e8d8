import EspNut.Lib.Bits
import Mathlib.Data.List.OfFn
import Mathlib.Data.List.Range
import Mathlib.Data.UInt

/-!
# Fields of fixed width in byte buffers

A blob is written by putting numbers and arrays of fixed widths one after another, and read by taking each of them from its place. A sequence of records of one size is cut into its records again.
-/

namespace EspNut.Lib

/-! ### Numbers -/

/-- The bytes of a number, the lowest first. -/
def leBytes (n x : Nat) : List Byte := (List.range n).map fun i => BitVec.ofNat 8 (x >>> (8 * i))

@[simp] theorem length_leBytes (n x : Nat) : (leBytes n x).length = n := by
  unfold leBytes
  rw [List.length_map, List.length_range]

theorem leBytes_succ (n x : Nat) : leBytes (n + 1) x = BitVec.ofNat 8 x :: leBytes n (x / 256) := by
  have hshift : ∀ i, x >>> (8 * (i + 1)) = (x / 256) >>> (8 * i) := by
    intro i
    rw [Nat.mul_succ, Nat.add_comm, Nat.shiftRight_add, Nat.shiftRight_eq_div_pow x 8]
  unfold leBytes
  rw [List.range_succ_eq_map, List.map_cons, List.map_map]
  congr 1
  apply List.map_congr_left
  intro i _
  exact congrArg (BitVec.ofNat 8) (hshift i)

theorem littleEndian_leBytes (n x : Nat) : littleEndian (leBytes n x) = x % 256 ^ n := by
  induction n generalizing x with
  | zero => exact (Nat.mod_one x).symm
  | succ n ih =>
      have hpow : 256 ^ (n + 1) = 256 * 256 ^ n := Nat.pow_succ'
      rw [leBytes_succ, littleEndian, ih, BitVec.toNat_ofNat, hpow, Nat.mod_mul]

theorem leBytes_littleEndian (buf : List Byte) : leBytes buf.length (littleEndian buf) = buf := by
  induction buf with
  | nil => rfl
  | cons b rest ih =>
      have hb := b.isLt
      have hlow : BitVec.ofNat 8 (b.toNat + 256 * littleEndian rest) = b := by
        apply BitVec.eq_of_toNat_eq
        rw [BitVec.toNat_ofNat]
        omega
      have hhigh : (b.toNat + 256 * littleEndian rest) / 256 = littleEndian rest := by omega
      rw [List.length_cons, littleEndian, leBytes_succ, hlow, hhigh, ih]

/-! ### Places -/

/-- The `n` bytes from `start` on. -/
def slice (start n : Nat) (buf : List Byte) : List Byte := (buf.drop start).take n

theorem length_slice {start n : Nat} {buf : List Byte} (h : start + n ≤ buf.length) : (slice start n buf).length = n := by
  unfold slice
  rw [List.length_take, List.length_drop]
  omega

theorem slice_eq (before field after : List Byte) {start n : Nat} {buf : List Byte}
    (hbuf : buf = before ++ (field ++ after)) (hstart : before.length = start) (hn : field.length = n) :
    slice start n buf = field := by
  unfold slice
  rw [hbuf, ← hstart, ← hn, List.drop_left, List.take_left]

theorem slice_one {i : Nat} {buf : List Byte} (h : i < buf.length) : slice i 1 buf = [buf.getD i 0] := by
  unfold slice
  rw [List.drop_eq_getElem_cons h, List.take_succ_cons, List.take_zero, List.getD_eq_getElem _ _ h]

theorem take_append_slice (start n : Nat) (buf : List Byte) : buf.take start ++ slice start n buf = buf.take (start + n) :=
  (List.take_add ..).symm

def arrayAt (start : Nat) (n : Nat) (buf : List Byte) (i : Fin n) : Byte := buf.getD (start + i) 0

theorem ofFn_arrayAt {start n : Nat} {buf : List Byte} (h : start + n ≤ buf.length) :
    List.ofFn (arrayAt start n buf) = slice start n buf := by
  apply List.ext_getElem
  · rw [List.length_ofFn, length_slice h]
  · intro i hleft hright
    rw [List.length_ofFn] at hleft
    have hin : start + i < buf.length := by omega
    simp only [slice, List.getElem_ofFn, List.getElem_take, List.getElem_drop]
    exact List.getD_eq_getElem _ _ hin

theorem arrayAt_eq {start n : Nat} {buf : List Byte} {a : Fin n → Byte} (hlong : start + n ≤ buf.length)
    (h : slice start n buf = List.ofFn a) : arrayAt start n buf = a := by
  apply List.ofFn_inj.mp
  rw [ofFn_arrayAt hlong, h]

/-! ### Records -/

def records (size : Nat) (buf : List Byte) : List (List Byte) :=
  (List.range (buf.length / size)).map fun i => slice (i * size) size buf

variable {size : Nat}

theorem records_append {first : List Byte} (hfirst : first.length = size) (hsize : 0 < size) (rest : List Byte) :
    records size (first ++ rest) = first :: records size rest := by
  have hcount : (first ++ rest).length / size = rest.length / size + 1 := by
    rw [List.length_append, hfirst, Nat.add_div_left _ hsize]
  unfold records
  rw [hcount, List.range_succ_eq_map, List.map_cons, List.map_map]
  congr 1
  · unfold slice
    rw [Nat.zero_mul, List.drop_zero, ← hfirst, List.take_left]
  · apply List.map_congr_left
    intro i _
    have hskip : i.succ * size = first.length + i * size := by rw [hfirst, Nat.succ_mul, Nat.add_comm]
    unfold slice
    rw [Function.comp_apply, hskip, List.drop_length_add_append]

theorem records_flatMap {α : Type} {encode : α → List Byte} (h : ∀ a, (encode a).length = size) (hsize : 0 < size)
    (l : List α) : records size (l.flatMap encode) = l.map encode := by
  induction l with
  | nil =>
      unfold records
      simp
  | cons a rest ih => rw [List.flatMap_cons, records_append (h a) hsize, ih, List.map_cons]

theorem length_of_mem_records {buf rec : List Byte} (hrec : rec ∈ records size buf) : rec.length = size := by
  obtain ⟨i, hi, rfl⟩ := List.mem_map.mp hrec
  have hcount : i < buf.length / size := List.mem_range.mp hi
  have hnext : (i + 1) * size ≤ buf.length := (Nat.mul_le_mul_right _ hcount).trans (Nat.div_mul_le_self _ _)
  rw [Nat.succ_mul] at hnext
  exact length_slice hnext

theorem flatten_records (hsize : 0 < size) {n : Nat} {buf : List Byte} (h : buf.length = n * size) :
    (records size buf).flatten = buf := by
  induction n generalizing buf with
  | zero =>
      have hnil : buf = [] := List.length_eq_zero_iff.mp (by rw [h, Nat.zero_mul])
      rw [hnil]
      unfold records
      simp
  | succ n ih =>
      have hlong : size ≤ buf.length := by
        rw [h, Nat.succ_mul]
        exact Nat.le_add_left _ _
      have hfirst : (buf.take size).length = size := List.length_take_of_le hlong
      have hrest : (buf.drop size).length = n * size := by rw [List.length_drop, h, Nat.succ_mul, Nat.add_sub_cancel]
      calc (records size buf).flatten = (records size (buf.take size ++ buf.drop size)).flatten := by
            rw [List.take_append_drop]
        _ = buf.take size ++ buf.drop size := by
            rw [records_append hfirst hsize, List.flatten_cons, ih hrest]
        _ = buf := List.take_append_drop _ _

end EspNut.Lib
