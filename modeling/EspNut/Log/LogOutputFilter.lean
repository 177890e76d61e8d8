import EspNut.Lib.Clock
import EspNut.Lib.Run
import EspNut.Lib.TokenBucket

/-!
# Minimum level and rate limit of a log output

Each output has its own filter: lines below the minimum level are left out, and a token bucket limits the others. It counts in thousandths of a token, so that one millisecond gains as many of them as the rate has lines per second.
-/

namespace EspNut

open Lib Clock TokenBucket

inductive LogLevel where
  | info | warn | error
  deriving DecidableEq

def LogLevel.code : LogLevel → Nat
  | .info => 0
  | .warn => 1
  | .error => 2

structure LogOutputFilter where
  minLevel : LogLevel
  rate : Nat
  tokensMilli : Nat
  lastMs : UInt32
  started : Bool
  /-- Lines refused by the rate limit since the last summary, a number of 32 bits. -/
  suppressed : Nat

namespace LogOutputFilter

inductive Decision where
  | send | belowLevel | rateLimited
  deriving DecidableEq

def minRate : Nat := 1
def maxRate : Nat := 100
def defaultRate : Nat := 10

/-- Four seconds of traffic, at least 20 lines. -/
def burst (f : LogOutputFilter) : Nat := if f.rate * 4 < 20 then 20 else f.rate * 4

def configure (minLevel : LogLevel) (rate : Nat) (f : LogOutputFilter) : LogOutputFilter :=
  let rate := if rate < minRate then minRate else rate
  let rate := if maxRate < rate then maxRate else rate
  let f := { f with minLevel, rate }
  { f with tokensMilli := burst f * 1000, lastMs := 0, started := false }

/-- A new filter. -/
def initial : LogOutputFilter :=
  configure .info defaultRate
    { minLevel := .info, rate := defaultRate, tokensMilli := 0, lastMs := 0, started := false, suppressed := 0 }

/-- The sum is one of 64 bits, and the clock wraps around. -/
def refill (now : UInt32) (f : LogOutputFilter) : LogOutputFilter :=
  if f.started = false then { f with started := true, lastMs := now }
  else
    let elapsed := now - f.lastMs
    let add := elapsed.toNat * f.rate
    let cap := burst f * 1000
    let t := f.tokensMilli + add
    { f with lastMs := now, tokensMilli := if cap < t then cap else t }

def check (level : LogLevel) (now : UInt32) (f : LogOutputFilter) : Decision × LogOutputFilter :=
  if level.code < f.minLevel.code then (.belowLevel, f)
  else
    let f := refill now f
    if f.tokensMilli < 1000 then (.rateLimited, { f with suppressed := (f.suppressed + 1) % 2 ^ 32 })
    else (.send, { f with tokensMilli := f.tokensMilli - 1000 })

/-- The count of the refused lines, which begins again. -/
def takeSuppressed (f : LogOutputFilter) : Nat × LogOutputFilter := (f.suppressed, { f with suppressed := 0 })

/-! ### Runs -/

/-- A line of a level at a real time. -/
structure Call where
  level : LogLevel
  time : Nat

def checked (f : LogOutputFilter) (call : Call) : LogOutputFilter := (check call.level (millis call.time) f).2

/-- What each of the lines is answered. -/
def answers : LogOutputFilter → List Call → List (Nat × Decision)
  | _, [] => []
  | f, call :: rest => (call.time, (check call.level (millis call.time) f).1) :: answers (checked f call) rest

/-! ### The bucket of a filter -/

variable {f : LogOutputFilter} {call : Call} {calls : List Call}

/-- No more tokens than a burst. -/
def Level (f : LogOutputFilter) : Prop := f.tokensMilli ≤ burst f * 1000

theorem level_configure (minLevel : LogLevel) (rate : Nat) (f : LogOutputFilter) : Level (configure minLevel rate f) := le_rfl

/-- What a refill adds, before the cap. -/
def gain (now : UInt32) (f : LogOutputFilter) : Nat := if f.started then (now - f.lastMs).toNat * f.rate else 0

theorem refill_eq (h : Level f) (now : UInt32) :
    refill now f = { f with
      started := true, lastMs := now, tokensMilli := refilled (burst f * 1000) f.tokensMilli (gain now f) } := by
  unfold refill gain refilled
  cases hstarted : f.started with
  | false => simp [Nat.min_eq_right h]
  | true =>
      simp only [Bool.true_eq_false, if_false, if_true]
      congr 1
      split
      · rename_i hfull
        rw [Nat.min_eq_left hfull.le]
      · rename_i hroom
        rw [Nat.min_eq_right (Nat.le_of_not_lt hroom)]

/-- A line of the level is a request of the bucket. -/
def request (f : LogOutputFilter) (call : Call) : Request := ⟨call.time, gain (millis call.time) f⟩

/-- Every outcome of a check. -/
inductive Checked (f : LogOutputFilter) (call : Call) : Decision × LogOutputFilter → Prop
  | below (h : call.level.code < f.minLevel.code) : Checked f call (.belowLevel, f)
  | refused (h : ¬ call.level.code < f.minLevel.code)
      (hrefused : isGranted (burst f * 1000) 1000 f.tokensMilli (request f call) = false) :
      Checked f call (.rateLimited, { f with
        started := true, lastMs := millis call.time, suppressed := (f.suppressed + 1) % 2 ^ 32,
        tokensMilli := levelAfter (burst f * 1000) 1000 f.tokensMilli (request f call) })
  | sent (h : ¬ call.level.code < f.minLevel.code)
      (hgranted : isGranted (burst f * 1000) 1000 f.tokensMilli (request f call) = true) :
      Checked f call (.send, { f with
        started := true, lastMs := millis call.time,
        tokensMilli := levelAfter (burst f * 1000) 1000 f.tokensMilli (request f call) })

theorem checked_cases (h : Level f) (call : Call) : Checked f call (check call.level (millis call.time) f) := by
  unfold check
  split
  · rename_i hbelow
    exact Checked.below hbelow
  · rename_i habove
    rw [refill_eq h]
    dsimp only
    have hlevel : levelAfter (burst f * 1000) 1000 f.tokensMilli (request f call)
        = if isGranted (burst f * 1000) 1000 f.tokensMilli (request f call)
          then refilled (burst f * 1000) f.tokensMilli (gain (millis call.time) f) - 1000
          else refilled (burst f * 1000) f.tokensMilli (gain (millis call.time) f) := rfl
    split
    · rename_i hempty
      have hrefused : isGranted (burst f * 1000) 1000 f.tokensMilli (request f call) = false :=
        decide_eq_false (Nat.not_le_of_lt hempty)
      rw [hrefused, if_neg Bool.false_ne_true] at hlevel
      rw [← hlevel]
      exact Checked.refused habove hrefused
    · rename_i htoken
      have hgranted : isGranted (burst f * 1000) 1000 f.tokensMilli (request f call) = true :=
        decide_eq_true (Nat.le_of_not_lt htoken)
      rw [hgranted, if_pos rfl] at hlevel
      rw [← hlevel]
      exact Checked.sent habove hgranted

theorem burst_eq {f' : LogOutputFilter} (h : f'.rate = f.rate) : burst f' = burst f := by
  unfold burst
  rw [h]

theorem rate_refill (f : LogOutputFilter) (now : UInt32) : (refill now f).rate = f.rate := by
  unfold refill
  split <;> rfl

theorem rate_checked (f : LogOutputFilter) (call : Call) : (checked f call).rate = f.rate := by
  unfold checked check
  split
  · rfl
  · dsimp only
    split <;> exact rate_refill f (millis call.time)

theorem suppressed_refill (f : LogOutputFilter) (now : UInt32) : (refill now f).suppressed = f.suppressed := by
  unfold refill
  split <;> rfl

/-- A check counts the lines it refuses and no others. -/
theorem suppressed_check (level : LogLevel) (now : UInt32) (f : LogOutputFilter) :
    (check level now f).2.suppressed
      = if (check level now f).1 = .rateLimited then (f.suppressed + 1) % 2 ^ 32 else f.suppressed := by
  have hrefill := suppressed_refill f now
  unfold check
  split
  · rfl
  · dsimp only
    split
    · rw [if_pos rfl, hrefill]
    · exact hrefill

theorem level_checked (h : Level f) (call : Call) : Level (checked f call) := by
  have hrate := burst_eq (rate_checked f call)
  have hcases := checked_cases h call
  unfold Level
  rw [hrate]
  unfold checked
  generalize check call.level (millis call.time) f = outcome at hcases ⊢
  cases hcases with
  | below => exact h
  | refused => exact levelAfter_le _ _ _ _
  | sent => exact levelAfter_le _ _ _ _

/-- The requests of the lines that are not below the minimum level. -/
def requests : LogOutputFilter → List Call → List Request
  | _, [] => []
  | f, call :: rest =>
      if call.level.code < f.minLevel.code then requests (checked f call) rest
      else request f call :: requests (checked f call) rest

/-- What is sent is what the bucket grants. -/
theorem countP_answers (h : Level f) (calls : List Call) (inside : Nat → Bool) :
    (answers f calls).countP (fun answer => answer.2 = .send && inside answer.1)
      = (granted (burst f * 1000) 1000 f.tokensMilli (requests f calls)).countP inside := by
  induction calls generalizing f with
  | nil => rfl
  | cons call rest ih =>
      have hcases := checked_cases h call
      have hrest := ih (level_checked h call)
      rw [burst_eq (rate_checked f call)] at hrest
      unfold answers requests
      rw [List.countP_cons, hrest]
      unfold checked
      generalize check call.level (millis call.time) f = outcome at hcases ⊢
      cases hcases with
      | below hbelow =>
          rw [if_pos hbelow]
          simp
      | refused habove hrefused =>
          rw [if_neg habove, granted, if_neg (Bool.eq_false_iff.mp hrefused)]
          simp
      | sent habove hgranted =>
          rw [if_neg habove, granted, if_pos hgranted, List.countP_cons]
          cases hinside : inside call.time <;> simp [request, hinside]

/-- The clock never shows more than the time that has passed. -/
theorem gain_le {last : Nat} (hlast : f.lastMs = millis last) (hpast : last ≤ call.time) :
    gain (millis call.time) f ≤ f.rate * (call.time - last) := by
  unfold gain
  split
  · rw [hlast, toNat_sub hpast, Nat.mul_comm]
    exact Nat.mul_le_mul_left f.rate (Nat.mod_le _ _)
  · exact Nat.zero_le _

theorem checked_last (h : Level f) (habove : ¬ call.level.code < f.minLevel.code) :
    (checked f call).started = true ∧ (checked f call).lastMs = millis call.time := by
  have hcases := checked_cases h call
  unfold checked
  generalize check call.level (millis call.time) f = outcome at hcases ⊢
  cases hcases with
  | below hbelow => exact absurd hbelow habove
  | refused => exact ⟨rfl, rfl⟩
  | sent => exact ⟨rfl, rfl⟩

theorem checked_below (hbelow : call.level.code < f.minLevel.code) : checked f call = f := by
  unfold checked check
  rw [if_pos hbelow]

theorem follows_requests (first : Request) (h : Level f) (hlast : f.lastMs = millis first.time)
    (hsorted : calls.Pairwise fun earlier later => earlier.time ≤ later.time) (hafter : ∀ call ∈ calls, first.time ≤ call.time) :
    (first :: requests f calls).IsChain (Follows f.rate) := by
  induction calls generalizing f first with
  | nil => exact List.isChain_singleton first
  | cons call rest ih =>
      obtain ⟨hcall, hrest⟩ := List.pairwise_cons.mp hsorted
      have hfirst : first.time ≤ call.time := hafter call List.mem_cons_self
      unfold requests
      split
      · rename_i hbelow
        rw [checked_below hbelow]
        exact ih first h hlast hrest fun later hlater => hafter later (List.mem_cons_of_mem call hlater)
      · rename_i habove
        obtain ⟨-, hshown⟩ := checked_last h habove
        have htail : (request f call :: requests (checked f call) rest).IsChain (Follows (checked f call).rate) :=
          ih (request f call) (level_checked h call) hshown hrest hcall
        rw [rate_checked] at htail
        exact htail.cons_cons ⟨hfirst, gain_le hlast hfirst⟩

theorem isChain_requests (h : Level f) (hsorted : calls.Pairwise fun earlier later => earlier.time ≤ later.time) :
    (requests f calls).IsChain (Follows f.rate) := by
  induction calls generalizing f with
  | nil => exact List.isChain_nil
  | cons call rest ih =>
      obtain ⟨hcall, hrest⟩ := List.pairwise_cons.mp hsorted
      unfold requests
      split
      · rename_i hbelow
        rw [checked_below hbelow]
        exact ih h hrest
      · rename_i habove
        obtain ⟨-, hshown⟩ := checked_last h habove
        have htail := follows_requests (request f call) (level_checked h call) hshown hrest hcall
        rwa [rate_checked] at htail

theorem level_run (h : Level f) (calls : List Call) : Level (run checked f calls) ∧ (run checked f calls).rate = f.rate :=
  (run_history (P := fun _ f' => Level f' ∧ f'.rate = f.rate) ⟨h, rfl⟩
    fun _ f' call hf' => ⟨level_checked hf'.1 call, (rate_checked f' call).trans hf'.2⟩) calls

/-- A refused line finds less than one token in the bucket it has just filled up. -/
theorem refused_empty {level : LogLevel} {now : UInt32} (hrefused : (check level now f).1 = .rateLimited) :
    (refill now f).tokensMilli < 1000 := by
  unfold check at hrefused
  split at hrefused
  · cases hrefused
  · dsimp only at hrefused
    split at hrefused
    · assumption
    · cases hrefused

/-- In no stretch of time are more lines sent than a burst and what the rate allows in it; the tokens never exceed a burst, and a line is refused only when less than one of them is in the bucket after it was filled up. -/
theorem sends_bounded (minLevel : LogLevel) (rate : Nat) (f : LogOutputFilter) (calls : List Call)
    (hsorted : calls.Pairwise fun earlier later => earlier.time ≤ later.time) :
    (∀ start span,
        (answers (configure minLevel rate f) calls).countP
            (fun answer => answer.2 = .send && (start ≤ answer.1 && answer.1 ≤ start + span))
          ≤ burst (configure minLevel rate f) + span * (configure minLevel rate f).rate / 1000)
      ∧ (run checked (configure minLevel rate f) calls).tokensMilli ≤ burst (configure minLevel rate f) * 1000
      ∧ ∀ call : Call,
        (check call.level (millis call.time) (run checked (configure minLevel rate f) calls)).1 = .rateLimited →
        (refill (millis call.time) (run checked (configure minLevel rate f) calls)).tokensMilli < 1000 := by
  have hlevel := level_configure minLevel rate f
  generalize configure minLevel rate f = g at hlevel ⊢
  obtain ⟨hrun, hrate⟩ := level_run hlevel calls
  refine ⟨fun start span => ?_, ?_, fun call hrefused => refused_empty hrefused⟩
  · have hwindow := cost_mul_granted_window (burst g * 1000) 1000 (isChain_requests hlevel hsorted)
      g.tokensMilli start span
    rw [countP_answers hlevel calls fun time => start ≤ time && time ≤ start + span]
    simp only [Bool.decide_and] at hwindow
    rw [Nat.mul_comm g.rate] at hwindow
    omega
  · unfold Level at hrun
    rwa [burst_eq hrate] at hrun

/-- A rate of 0 is one line in a second, after a burst of 20. -/
theorem sends_bounded_slowest :
    (∀ start span,
        (answers (configure .warn 0 initial) [⟨.error, 0⟩, ⟨.info, 0⟩, ⟨.warn, 4300⟩]).countP
            (fun answer => answer.2 = .send && (start ≤ answer.1 && answer.1 ≤ start + span))
          ≤ 20 + span * 1 / 1000)
      ∧ (run checked (configure .warn 0 initial) [⟨.error, 0⟩, ⟨.info, 0⟩, ⟨.warn, 4300⟩]).tokensMilli ≤ 20 * 1000
      ∧ ∀ call : Call,
        (check call.level (millis call.time)
          (run checked (configure .warn 0 initial) [⟨.error, 0⟩, ⟨.info, 0⟩, ⟨.warn, 4300⟩])).1 = .rateLimited →
        (refill (millis call.time) (run checked (configure .warn 0 initial) [⟨.error, 0⟩, ⟨.info, 0⟩, ⟨.warn, 4300⟩])).tokensMilli
          < 1000 :=
  sends_bounded .warn 0 initial [⟨.error, 0⟩, ⟨.info, 0⟩, ⟨.warn, 4300⟩] (by decide)

end LogOutputFilter

end EspNut
