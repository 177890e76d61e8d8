import EspNut.Lib.Clock
import Mathlib.Order.MinMax

/-!
# The limit on failed logins

After five failures in a row each further attempt waits since the last failure, twice as long with each failure and a minute at most. The count and the clock have 32 bits.
-/

namespace EspNut

open Lib

@[ext]
structure LoginThrottle where
  failures : UInt32
  lastFailureMs : UInt32
  deriving DecidableEq

namespace LoginThrottle

def kFreeAttempts : UInt32 := 5

def kBaseDelayMs : UInt32 := 1000

def kMaxDelayMs : UInt32 := 60000

def initial : LoginThrottle := ⟨0, 0⟩

/-- The wait after so many failures; from 16 doublings on the shift is not made. -/
def delayMs (failures : UInt32) : UInt32 :=
  let exponent := failures - kFreeAttempts
  if exponent < 16 then
    let shifted := kBaseDelayMs <<< exponent
    if shifted < kMaxDelayMs then shifted else kMaxDelayMs
  else kMaxDelayMs

def retryAfterMs (now : UInt32) (throttle : LoginThrottle) : UInt32 :=
  if throttle.failures < kFreeAttempts then 0
  else
    let elapsed := now - throttle.lastFailureMs
    if delayMs throttle.failures ≤ elapsed then 0 else delayMs throttle.failures - elapsed

/-- The count stops at its greatest value. -/
def recordFailure (now : UInt32) (throttle : LoginThrottle) : LoginThrottle :=
  { failures := if throttle.failures < 0xFFFFFFFF then throttle.failures + 1 else throttle.failures
    lastFailureMs := now }

def recordSuccess (_ : LoginThrottle) : LoginThrottle := ⟨0, 0⟩

/-! ### The wait -/

/-- The wait after `n` failures, whatever their number. -/
def delay (n : Nat) : Nat := min (1000 * 2 ^ (n - 5)) 60000

theorem delay_eq_max {n : Nat} (h : 11 ≤ n) : delay n = 60000 := by
  have hpow : 2 ^ 6 ≤ 2 ^ (n - 5) := Nat.pow_le_pow_right (by decide) (by omega)
  unfold delay
  omega

/-- The count of failures as the throttle has it. -/
def counted (n : Nat) : UInt32 := UInt32.ofNat (min n (2 ^ 32 - 1))

theorem toNat_counted (n : Nat) : (counted n).toNat = min n (2 ^ 32 - 1) := by
  unfold counted
  rw [UInt32.toNat_ofNat']
  omega

theorem toNat_shifted {exponent : UInt32} (h : exponent < 16) :
    (kBaseDelayMs <<< exponent).toNat = 1000 * 2 ^ exponent.toNat := by
  have hexponent : exponent.toNat < 16 := UInt32.lt_iff_toNat_lt.mp h
  have hpow : 2 ^ exponent.toNat ≤ 2 ^ 15 := Nat.pow_le_pow_right (by decide) (by omega)
  rw [UInt32.toNat_shiftLeft, Nat.shiftLeft_eq, Nat.mod_eq_of_lt (by omega : exponent.toNat < 32)]
  exact Nat.mod_eq_of_lt (by show 1000 * 2 ^ exponent.toNat < 2 ^ 32; omega)

theorem toNat_delayMs {failures : UInt32} (h : 5 ≤ failures.toNat) :
    (delayMs failures).toNat = delay failures.toNat := by
  have hexponent : (failures - kFreeAttempts).toNat = failures.toNat - 5 :=
    UInt32.toNat_sub_of_le _ _ (UInt32.le_iff_toNat_le.mpr h)
  unfold delayMs
  dsimp only
  split
  · rename_i hsmall
    have hshifted := toNat_shifted hsmall
    rw [hexponent] at hshifted
    split
    · rename_i hless
      rw [UInt32.lt_iff_toNat_lt, hshifted] at hless
      rw [hshifted]
      exact (min_eq_left hless.le).symm
    · rename_i hless
      rw [UInt32.lt_iff_toNat_lt, hshifted] at hless
      exact (min_eq_right (not_lt.mp hless)).symm
  · rename_i hlarge
    rw [UInt32.lt_iff_toNat_lt, hexponent] at hlarge
    have hlarge : ¬ failures.toNat - 5 < 16 := hlarge
    exact (delay_eq_max (by omega)).symm

theorem toNat_delayMs_counted {n : Nat} (h : 5 ≤ n) : (delayMs (counted n)).toNat = delay n := by
  have hcounted := toNat_counted n
  rw [toNat_delayMs (by omega), hcounted]
  by_cases hmax : n ≤ 2 ^ 32 - 1
  · rw [min_eq_left hmax]
  · rw [delay_eq_max (by omega), delay_eq_max (by omega)]

/-- Before the wait is over an attempt is put off. -/
theorem retryAfterMs_pos {n last time : Nat} (hn : 5 ≤ n) (hlast : last ≤ time) (hwait : time < last + delay n) :
    0 < retryAfterMs (Clock.millis time) ⟨counted n, Clock.millis last⟩ := by
  have hcounted := toNat_counted n
  have hfree : ¬ counted n < kFreeAttempts := by
    rw [UInt32.lt_iff_toNat_lt, hcounted]
    show ¬ min n (2 ^ 32 - 1) < 5
    omega
  have hdelay := toNat_delayMs_counted hn
  have hmax : delay n ≤ 60000 := min_le_right _ _
  have helapsed := Clock.toNat_sub_of_turn hlast (by omega : time < last + 2 ^ 32)
  have hshort : ¬ delayMs (counted n) ≤ Clock.millis time - Clock.millis last := by
    rw [UInt32.le_iff_toNat_le, hdelay, helapsed]
    omega
  unfold retryAfterMs
  rw [if_neg hfree]
  dsimp only
  rw [if_neg hshort, UInt32.lt_iff_toNat_lt,
    UInt32.toNat_sub_of_le _ _ (UInt32.le_of_lt (UInt32.not_le.mp hshort)), hdelay, helapsed]
  show 0 < delay n - (time - last)
  omega

theorem failures_recordFailure {n : Nat} {throttle : LoginThrottle} (h : throttle.failures = counted n) (now : UInt32) :
    (throttle.recordFailure now).failures = counted (n + 1) := by
  have hcounted := toNat_counted n
  apply UInt32.toNat_inj.mp
  unfold recordFailure
  rw [toNat_counted, h]
  dsimp only
  split
  · rename_i hless
    rw [UInt32.lt_iff_toNat_lt, hcounted] at hless
    have hless : min n (2 ^ 32 - 1) < 2 ^ 32 - 1 := hless
    rw [UInt32.toNat_add, hcounted]
    show (min n (2 ^ 32 - 1) + 1) % 2 ^ 32 = _
    omega
  · rename_i hless
    rw [UInt32.lt_iff_toNat_lt, hcounted] at hless
    have hless : ¬ min n (2 ^ 32 - 1) < 2 ^ 32 - 1 := hless
    rw [hcounted]
    omega

end LoginThrottle

end EspNut
