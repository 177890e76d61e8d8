import Mathlib.Algebra.Order.Ring.Nat
import Mathlib.Data.List.Chain

/-!
# Token buckets

A bucket gains with time up to its capacity, and each request that is granted takes a fixed cost out of it. When a gain is at most proportional to the time since the request before, no stretch of time grants more than a full bucket and its gain, wherever in the run it begins.
-/

namespace EspNut.Lib.TokenBucket

/-- A request and what the bucket has gained since the one before. -/
structure Request where
  time : Nat
  gain : Nat

variable (capacity cost : Nat)

def refilled (level gain : Nat) : Nat := min capacity (level + gain)

def isGranted (level : Nat) (request : Request) : Bool := cost ≤ refilled capacity level request.gain

def levelAfter (level : Nat) (request : Request) : Nat :=
  if isGranted capacity cost level request then refilled capacity level request.gain - cost
  else refilled capacity level request.gain

def granted : Nat → List Request → List Nat
  | _, [] => []
  | level, request :: rest =>
      if isGranted capacity cost level request then request.time :: granted (levelAfter capacity cost level request) rest
      else granted (levelAfter capacity cost level request) rest

/-- A later request with a gain that the time in between allows. -/
structure Follows (rate : Nat) (earlier later : Request) : Prop where
  time : earlier.time ≤ later.time
  gain : later.gain ≤ rate * (later.time - earlier.time)

variable {rate : Nat}

theorem levelAfter_le (level : Nat) (request : Request) : levelAfter capacity cost level request ≤ capacity := by
  have hfull : refilled capacity level request.gain ≤ capacity := Nat.min_le_left capacity _
  unfold levelAfter
  split <;> omega

theorem refilled_le_add (level gain : Nat) : refilled capacity level gain ≤ level + gain := Nat.min_le_right capacity _

/-- What is granted, and what is left, was in the bucket. -/
theorem cost_add_levelAfter (level : Nat) (request : Request) :
    (if isGranted capacity cost level request then cost else 0) + levelAfter capacity cost level request
      = refilled capacity level request.gain := by
  unfold levelAfter
  by_cases hgranted : isGranted capacity cost level request = true
  · have hcost : cost ≤ refilled capacity level request.gain := of_decide_eq_true hgranted
    rw [if_pos hgranted, if_pos hgranted]
    omega
  · rw [if_neg hgranted, if_neg hgranted, Nat.zero_add]

variable {capacity cost}

theorem time_of_mem_granted {level time : Nat} {requests : List Request} (h : time ∈ granted capacity cost level requests) :
    ∃ request ∈ requests, request.time = time := by
  induction requests generalizing level with
  | nil => exact absurd h List.not_mem_nil
  | cons first rest ih =>
      unfold granted at h
      split at h
      · rcases List.mem_cons.mp h with rfl | hlater
        · exact ⟨first, List.mem_cons_self, rfl⟩
        · obtain ⟨request, hmem, htime⟩ := ih hlater
          exact ⟨request, List.mem_cons_of_mem first hmem, htime⟩
      · obtain ⟨request, hmem, htime⟩ := ih h
        exact ⟨request, List.mem_cons_of_mem first hmem, htime⟩

theorem time_le_of_follows {first request : Request} {rest : List Request} (h : (first :: rest).IsChain (Follows rate))
    (hmem : request ∈ rest) : first.time ≤ request.time := by
  have hsorted : (first :: rest).Pairwise fun earlier later => earlier.time ≤ later.time := by
    have : IsTrans Request fun earlier later => earlier.time ≤ later.time := ⟨fun _ _ _ h h' => h.trans h'⟩
    exact (h.imp fun _ _ hfollows => hfollows.time).pairwise
  exact (List.pairwise_cons.mp hsorted).1 request hmem

theorem cost_mul_granted_cons (counted : Nat → Bool) (level : Nat) (first : Request) (rest : List Request) :
    cost * (granted capacity cost level (first :: rest)).countP counted
      = (if isGranted capacity cost level first && counted first.time then cost else 0)
        + cost * (granted capacity cost (levelAfter capacity cost level first) rest).countP counted := by
  rw [granted]
  by_cases hgranted : isGranted capacity cost level first = true
  · rw [if_pos hgranted, List.countP_cons, Nat.mul_add, hgranted, Bool.true_and, Nat.add_comm]
    split <;> simp
  · rw [if_neg hgranted, Bool.eq_false_iff.mpr hgranted, Bool.false_and, if_neg Bool.false_ne_true, Nat.zero_add]

/-- What is granted up to a moment was in the bucket at the first request, or gained since. -/
theorem cost_mul_granted_le {first : Request} {rest : List Request} (h : (first :: rest).IsChain (Follows rate))
    (level last : Nat) (hlast : first.time ≤ last) :
    cost * (granted capacity cost level (first :: rest)).countP (fun time => time ≤ last)
      ≤ refilled capacity level first.gain + rate * (last - first.time) := by
  induction rest generalizing first level with
  | nil =>
      have hbucket := cost_add_levelAfter capacity cost level first
      rw [cost_mul_granted_cons, decide_eq_true hlast, Bool.and_true]
      show _ + cost * 0 ≤ _
      omega
  | cons second rest ih =>
      have hbucket := cost_add_levelAfter capacity cost level first
      rw [cost_mul_granted_cons, decide_eq_true hlast, Bool.and_true]
      obtain ⟨hfollows, hrest⟩ := List.isChain_cons_cons.mp h
      by_cases hsecond : second.time ≤ last
      · have hlater := ih hrest (levelAfter capacity cost level first) hsecond
        have hrefilled := refilled_le_add capacity (levelAfter capacity cost level first) second.gain
        have hspan : rate * (second.time - first.time) + rate * (last - second.time) = rate * (last - first.time) := by
          rw [← Nat.mul_add]
          congr 1
          have htime := hfollows.time
          omega
        have hgain := hfollows.gain
        omega
      · -- the requests from here on come after the moment
        have hnone : (granted capacity cost (levelAfter capacity cost level first) (second :: rest)).countP
            (fun time => time ≤ last) = 0 := by
          rw [List.countP_eq_zero]
          intro time hmem
          obtain ⟨request, hrequest, rfl⟩ := time_of_mem_granted hmem
          have hlater : second.time ≤ request.time := by
            rcases List.mem_cons.mp hrequest with rfl | hafter
            · exact le_rfl
            · exact time_le_of_follows hrest hafter
          rw [decide_eq_true_eq]
          omega
        rw [hnone]
        omega

variable (capacity cost)

/-- A stretch of time grants no more than a full bucket and its gain. -/
theorem cost_mul_granted_window {requests : List Request} (h : requests.IsChain (Follows rate)) (level start span : Nat) :
    cost * (granted capacity cost level requests).countP (fun time => start ≤ time ∧ time ≤ start + span)
      ≤ capacity + rate * span := by
  induction requests generalizing level with
  | nil => exact Nat.zero_le _
  | cons first rest ih =>
      by_cases hfirst : first.time < start
      · rw [cost_mul_granted_cons, decide_eq_false (fun h => by omega), Bool.and_false, if_neg Bool.false_ne_true, Nat.zero_add]
        exact ih h.of_cons _
      · have hwindow : (granted capacity cost level (first :: rest)).countP (fun time => start ≤ time ∧ time ≤ start + span)
            ≤ (granted capacity cost level (first :: rest)).countP (fun time => time ≤ start + span) :=
          List.countP_mono_left fun time _ hin => by
            rw [decide_eq_true_eq] at hin ⊢
            exact hin.2
        by_cases hlast : first.time ≤ start + span
        · calc cost * (granted capacity cost level (first :: rest)).countP (fun time => start ≤ time ∧ time ≤ start + span)
              ≤ cost * (granted capacity cost level (first :: rest)).countP (fun time => time ≤ start + span) :=
                Nat.mul_le_mul_left cost hwindow
            _ ≤ refilled capacity level first.gain + rate * (start + span - first.time) := cost_mul_granted_le h level _ hlast
            _ ≤ capacity + rate * span :=
                Nat.add_le_add (Nat.min_le_left capacity _) (Nat.mul_le_mul_left rate (by omega))
        · rw [cost_mul_granted_cons, decide_eq_false (fun h => by omega), Bool.and_false, if_neg Bool.false_ne_true, Nat.zero_add]
          exact ih h.of_cons _

end EspNut.Lib.TokenBucket
