import Mathlib.Algebra.GroupWithZero.Nat
import Mathlib.Data.Nat.Basic

/-!
# A clock of 32 bits

A clock shows real time modulo 2^32 milliseconds. The difference of two readings never exceeds the time between them, and is that time within one turn of the clock. Read as a signed number it tells which of two times comes first, when they are at most half a turn apart.
-/

namespace EspNut.Lib.Clock

/-- What the clock shows at a time. -/
def millis (time : Nat) : UInt32 := UInt32.ofNat time

/-- A deadline is reached when the signed difference to it is not negative. -/
def reached (now deadline : UInt32) : Bool := now - deadline < 0x80000000

variable {start now : Nat} {span : UInt32}

theorem millis_add (start : Nat) (span : UInt32) : millis start + span = millis (start + span.toNat) := by
  apply UInt32.toNat_inj.mp
  unfold millis
  rw [UInt32.toNat_add, UInt32.toNat_ofNat', UInt32.toNat_ofNat']
  omega

theorem toNat_sub (hpast : start ≤ now) : (millis now - millis start).toNat = (now - start) % 2 ^ 32 := by
  unfold millis
  rw [UInt32.toNat_sub, UInt32.toNat_ofNat', UInt32.toNat_ofNat']
  omega

theorem toNat_sub_of_turn (hpast : start ≤ now) (hturn : now < start + 2 ^ 32) :
    (millis now - millis start).toNat = now - start := by
  rw [toNat_sub hpast]
  omega

/-- A reading before the start shows almost a whole turn. -/
theorem toNat_sub_of_future (hfuture : now < start) (hturn : start < now + 2 ^ 32) :
    (millis now - millis start).toNat = 2 ^ 32 - (start - now) := by
  unfold millis
  rw [UInt32.toNat_sub, UInt32.toNat_ofNat', UInt32.toNat_ofNat']
  omega

/-- A span that the clock shows has passed. -/
theorem passed_of_le (hpast : start ≤ now) (h : span ≤ millis now - millis start) : start + span.toNat ≤ now := by
  rw [UInt32.le_iff_toNat_le, toNat_sub hpast] at h
  omega

/-- Within one turn the clock shows every span that has passed. -/
theorem le_iff_passed (hpast : start ≤ now) (hturn : now < start + 2 ^ 32) :
    span ≤ millis now - millis start ↔ start + span.toNat ≤ now := by
  rw [UInt32.le_iff_toNat_le, toNat_sub_of_turn hpast hturn]
  omega

theorem not_reached {deadline : Nat} (hfuture : now < deadline) (hhalf : deadline ≤ now + 2 ^ 31) :
    reached (millis now) (millis deadline) = false := by
  have hshown := toNat_sub_of_future hfuture (by omega)
  unfold reached
  rw [decide_eq_false_iff_not, UInt32.lt_iff_toNat_lt, hshown]
  show ¬ 2 ^ 32 - (deadline - now) < 2 ^ 31
  omega

/-- Read as a signed number, the upper half of a turn comes before every limit of the lower half. -/
theorem toInt32_lt_iff {limit : UInt32} (hlimit : limit.toNat < 2 ^ 31) :
    span.toInt32 < limit.toInt32 ↔ span.toNat < limit.toNat ∨ 2 ^ 31 ≤ span.toNat := by
  have hspan := span.toNat_lt
  have hspanInt : span.toInt32.toInt = if 2 * span.toNat < 2 ^ 32 then (span.toNat : Int) else span.toNat - 2 ^ 32 :=
    BitVec.toInt_eq_toNat_cond span.toBitVec
  have hlimitInt : limit.toInt32.toInt = if 2 * limit.toNat < 2 ^ 32 then (limit.toNat : Int) else limit.toNat - 2 ^ 32 :=
    BitVec.toInt_eq_toNat_cond limit.toBitVec
  rw [if_pos (by omega)] at hlimitInt
  rw [Int32.lt_iff_toInt_lt, hspanInt, hlimitInt]
  split <;> omega

/-- Read as a signed number, the difference is that of the times when they are within half a turn. -/
theorem toInt_sub (hbefore : start ≤ now + 2 ^ 31) (hafter : now < start + 2 ^ 31) :
    (millis now - millis start).toInt32.toInt = (now : Int) - start := by
  have hsigned : (millis now - millis start).toInt32.toInt = if 2 * (millis now - millis start).toNat < 2 ^ 32
      then ((millis now - millis start).toNat : Int) else (millis now - millis start).toNat - 2 ^ 32 :=
    BitVec.toInt_eq_toNat_cond _
  rw [hsigned]
  by_cases hpast : start ≤ now
  · rw [toNat_sub_of_turn hpast (by omega), if_pos (by omega)]
    omega
  · rw [toNat_sub_of_future (by omega) (by omega), if_neg (by omega)]
    omega

end EspNut.Lib.Clock
