import EspNut.Lib.Clock
import EspNut.Lib.Ring
import EspNut.Lib.Run
import EspNut.Lib.Window

/-!
# Power cycles of the port

A stuck transfer is answered with a power cycle of the root port. It is answered with a restart while the last cycle still waits for the device, and when too many cycles were started in the last hour.
-/

namespace EspNut

open Lib

inductive PortCyclePolicy.Decision where
  | cyclePort | restart
  deriving DecidableEq

/-- The stamps of the last cycles and the cycle that waits for the device. -/
structure PortCyclePolicy where
  stamps : Ring UInt32 12
  waiting : Bool
  timeoutReported : Bool
  cycleAt : UInt32
  cyclesSinceBoot : UInt32
  lastRestartReason : Option String
  deriving DecidableEq

namespace PortCyclePolicy

def backTimeoutMs : UInt32 := 30000
def maxCyclesPerWindow : Nat := 12
def windowMs : UInt32 := 3600000

def stuckAgainReason : String := "control transfer stuck again after the USB port power cycle"
def tooManyReason : String := "too many USB port power cycles in an hour"

/-- The stamps start as whatever the memory holds. -/
def initial (memory : Vector UInt32 12) : PortCyclePolicy where
  stamps := Ring.empty (by decide) memory
  waiting := false
  timeoutReported := false
  cycleAt := 0
  cyclesSinceBoot := 0
  lastRestartReason := none

/-- The next slot holds the oldest stamp once the ring is full. -/
def onStuck (now : UInt32) (p : PortCyclePolicy) : PortCyclePolicy × Decision :=
  if p.waiting = true then ({ p with lastRestartReason := some stuckAgainReason }, .restart)
  else if p.stamps.count = maxCyclesPerWindow ∧ now - p.stamps.oldest < windowMs then
    ({ p with lastRestartReason := some tooManyReason }, .restart)
  else
    ({ p with
        stamps := p.stamps.push now
        cyclesSinceBoot := if p.cyclesSinceBoot < 0xFFFFFFFF then p.cyclesSinceBoot + 1 else p.cyclesSinceBoot
        waiting := true
        timeoutReported := false
        cycleAt := now }, .cyclePort)

def onProven (p : PortCyclePolicy) : PortCyclePolicy := { p with waiting := false }

def backTimedOut (now : UInt32) (p : PortCyclePolicy) : PortCyclePolicy × Bool :=
  if p.waiting = false ∨ p.timeoutReported = true then (p, false)
  else if now - p.cycleAt < backTimeoutMs then (p, false)
  else ({ p with timeoutReported := true }, true)

/-! ### Runs in real time -/

inductive Event where
  | stuck (now : Nat)
  | proven
  | backTimedOut (now : Nat)
  deriving DecidableEq

/-- A policy, the last real time it was told, the real times its cycles were started at, the latest first, and how often it reported the last cycle. -/
structure Watch where
  policy : PortCyclePolicy
  now : Nat
  cycles : List Nat
  reports : Nat

def Watch.initial (memory : Vector UInt32 12) : Watch := ⟨PortCyclePolicy.initial memory, 0, [], 0⟩

def observe (w : Watch) : Event → Watch
  | .stuck now =>
      let answer := onStuck (Clock.millis now) w.policy
      if answer.2 = .cyclePort then ⟨answer.1, now, now :: w.cycles, 0⟩
      else { w with policy := answer.1, now }
  | .proven => { w with policy := onProven w.policy }
  | .backTimedOut now =>
      let answer := PortCyclePolicy.backTimedOut (Clock.millis now) w.policy
      ⟨answer.1, now, w.cycles, if answer.2 = true then w.reports + 1 else w.reports⟩

def InOrder (w : Watch) : Event → Prop
  | .stuck now | .backTimedOut now => w.now ≤ now
  | .proven => True

instance (w : Watch) : (event : Event) → Decidable (InOrder w event)
  | .stuck now | .backTimedOut now => inferInstanceAs (Decidable (w.now ≤ now))
  | .proven => isTrue trivial

/-- The cycles of the last hour. -/
def recentCycles (w : Watch) (now : Nat) : Nat := w.cycles.countP fun start => decide (now < start + windowMs.toNat)

/-- A step keeps the policy: a cycle is started only when none waits, it is refused otherwise only when the hour has its twelve, and a cycle is reported late at most once. -/
def Kept (w : Watch) : Event → Prop
  | .stuck now =>
      ((onStuck (Clock.millis now) w.policy).2 = .cyclePort → w.policy.waiting = false)
        ∧ (w.policy.waiting = false →
          ((onStuck (Clock.millis now) w.policy).2 = .restart ↔ recentCycles w now = maxCyclesPerWindow))
  | .proven => True
  | .backTimedOut now => (PortCyclePolicy.backTimedOut (Clock.millis now) w.policy).2 = true → w.reports = 0

instance (w : Watch) : (event : Event) → Decidable (Kept w event)
  | .stuck _ => inferInstanceAs (Decidable (_ ∧ (_ → (_ ↔ _))))
  | .proven => isTrue trivial
  | .backTimedOut _ => inferInstanceAs (Decidable (_ → _))

/-- The twelfth cycle back does not look recent when it is not. -/
def Unwrapped (w : Watch) : Event → Prop
  | .stuck now => w.policy.waiting = false → ∀ start, start ∈ w.cycles[11]? →
      start + windowMs.toNat ≤ now → windowMs.toNat ≤ (now - start) % 2 ^ 32
  | .proven | .backTimedOut _ => True

instance (w : Watch) : (event : Event) → Decidable (Unwrapped w event)
  | .stuck _ => inferInstanceAs (Decidable (_ → ∀ start, start ∈ _ → _))
  | .proven | .backTimedOut _ => isTrue trivial

variable {w : Watch} {now : Nat}

/-! ### The steps -/

def started (now : UInt32) (p : PortCyclePolicy) : PortCyclePolicy :=
  { p with
    stamps := p.stamps.push now
    cyclesSinceBoot := if p.cyclesSinceBoot < 0xFFFFFFFF then p.cyclesSinceBoot + 1 else p.cyclesSinceBoot
    waiting := true
    timeoutReported := false
    cycleAt := now }

theorem onStuck_cases (now : UInt32) (p : PortCyclePolicy) :
    (∃ reason, onStuck now p = ({ p with lastRestartReason := reason }, .restart))
        ∧ (p.waiting = true ∨ p.stamps.count = maxCyclesPerWindow ∧ now - p.stamps.oldest < windowMs)
      ∨ onStuck now p = (started now p, .cyclePort) ∧ p.waiting = false
        ∧ ¬ (p.stamps.count = maxCyclesPerWindow ∧ now - p.stamps.oldest < windowMs) := by
  unfold onStuck
  split
  · rename_i hwaiting
    exact Or.inl ⟨⟨_, rfl⟩, Or.inl hwaiting⟩
  rename_i hidle
  split
  · rename_i hmany
    exact Or.inl ⟨⟨_, rfl⟩, Or.inr hmany⟩
  · rename_i hfew
    exact Or.inr ⟨rfl, Bool.eq_false_iff.mpr hidle, hfew⟩

theorem backTimedOut_cases (now : UInt32) (p : PortCyclePolicy) :
    backTimedOut now p = (p, false)
      ∨ backTimedOut now p = ({ p with timeoutReported := true }, true) ∧ p.timeoutReported = false := by
  unfold backTimedOut
  split
  · exact Or.inl rfl
  rename_i hopen
  split
  · exact Or.inl rfl
  · exact Or.inr ⟨rfl, by simpa using (not_or.mp hopen).2⟩

/-! ### The invariant -/

/-- The stamps are the last cycles, in order, never more than twelve in an hour, and a cycle is reported when the policy says so. -/
structure Sound (w : Watch) : Prop where
  stamps : w.policy.stamps.recent = (w.cycles.map Clock.millis).take maxCyclesPerWindow
  past : ∀ start ∈ w.cycles, start ≤ w.now
  sorted : w.cycles.Pairwise (· ≥ ·)
  few : recentCycles w w.now ≤ maxCyclesPerWindow
  reports : w.reports = if w.policy.timeoutReported = true then 1 else 0

theorem sound_initial (memory : Vector UInt32 12) : Sound (Watch.initial memory) where
  stamps := Ring.recent_empty _ memory
  past := by simp [Watch.initial]
  sorted := List.Pairwise.nil
  few := Nat.zero_le _
  reports := rfl

theorem sorted_recent (hsorted : w.cycles.Pairwise (· ≥ ·)) (now : Nat) :
    w.cycles.Pairwise fun later earlier =>
      decide (now < earlier + windowMs.toNat) = true → decide (now < later + windowMs.toNat) = true := by
  refine hsorted.imp ?_
  intro later earlier hge hrecent
  rw [decide_eq_true_iff] at hrecent ⊢
  omega

theorem recentCycles_le {later : Nat} (hle : now ≤ later) : recentCycles w later ≤ recentCycles w now := by
  apply List.countP_mono_left
  intro start _ hrecent
  rw [decide_eq_true_iff] at hrecent ⊢
  omega

/-- Once the ring is full its oldest stamp is the twelfth cycle back. -/
theorem Sound.oldest (h : Sound w) :
    (w.policy.stamps.count = maxCyclesPerWindow ↔ 11 < w.cycles.length)
      ∧ ∀ start, w.policy.stamps.count = maxCyclesPerWindow → w.cycles[11]? = some start →
        w.policy.stamps.oldest = Clock.millis start := by
  have hlength := w.policy.stamps.length_recent
  rw [h.stamps, List.length_take, List.length_map] at hlength
  have hfull : w.policy.stamps.count = maxCyclesPerWindow ↔ 11 < w.cycles.length := by
    rw [← hlength]
    show min 12 _ = 12 ↔ _
    omega
  refine ⟨hfull, ?_⟩
  intro start hcount hstart
  have hlast := Ring.getLast?_recent hcount
  have hlong : ((w.cycles.map Clock.millis).take maxCyclesPerWindow).length = 12 := by
    rw [← h.stamps, Ring.length_recent, hcount]
    rfl
  rw [h.stamps, List.getLast?_eq_getElem?, hlong, List.getElem?_take_of_lt (by decide), List.getElem?_map, hstart] at hlast
  exact (Option.some.inj hlast).symm

/-- The hour has its twelve cycles when the twelfth one back was in it. -/
theorem Sound.recentCycles_eq (h : Sound w) (hnow : w.now ≤ now) :
    recentCycles w now = maxCyclesPerWindow ↔ ∃ start, w.cycles[11]? = some start ∧ now < start + windowMs.toNat := by
  have hfew : recentCycles w now ≤ 12 := Nat.le_trans (recentCycles_le hnow) h.few
  have hmany := Window.lt_countP_iff (n := 11) (sorted_recent h.sorted now)
  have htwelve : recentCycles w now = maxCyclesPerWindow ↔ 11 < recentCycles w now := by
    show _ = 12 ↔ _
    omega
  rw [htwelve]
  refine hmany.trans ?_
  simp only [decide_eq_true_iff]

/-- What the ring shows as a full hour may be one that has long passed, but never the other way round. -/
theorem Sound.refused_iff (h : Sound w) (hnow : w.now ≤ now) :
    (w.policy.stamps.count = maxCyclesPerWindow ∧ Clock.millis now - w.policy.stamps.oldest < windowMs)
      ↔ ∃ start, w.cycles[11]? = some start ∧ (now - start) % 2 ^ 32 < windowMs.toNat := by
  obtain ⟨hfull, holdest⟩ := h.oldest
  constructor
  · rintro ⟨hcount, hrecent⟩
    have hstart := List.getElem?_eq_getElem (hfull.mp hcount)
    refine ⟨_, hstart, ?_⟩
    rw [holdest _ hcount hstart, UInt32.lt_iff_toNat_lt,
      Clock.toNat_sub (Nat.le_trans (h.past _ (List.mem_of_getElem? hstart)) hnow)] at hrecent
    exact hrecent
  · rintro ⟨start, hstart, hrecent⟩
    have hcount := hfull.mpr (List.getElem?_eq_some_iff.mp hstart).1
    refine ⟨hcount, ?_⟩
    rw [holdest start hcount hstart, UInt32.lt_iff_toNat_lt,
      Clock.toNat_sub (Nat.le_trans (h.past start (List.mem_of_getElem? hstart)) hnow)]
    exact hrecent

/-- A cycle of the last hour shows its age. -/
theorem shown_of_recent {start : Nat} (hrecent : now < start + windowMs.toNat) : (now - start) % 2 ^ 32 < windowMs.toNat := by
  have hwindow : windowMs.toNat < 2 ^ 32 := windowMs.toNat_lt
  have hpos : 0 < windowMs.toNat := by decide
  rw [Nat.mod_eq_of_lt (by omega)]
  omega

theorem Sound.restart_iff (h : Sound w) (hnow : w.now ≤ now) (hidle : w.policy.waiting = false) :
    (onStuck (Clock.millis now) w.policy).2 = .restart
      ↔ ∃ start, w.cycles[11]? = some start ∧ (now - start) % 2 ^ 32 < windowMs.toNat := by
  rw [← h.refused_iff hnow]
  rcases onStuck_cases (Clock.millis now) w.policy with ⟨⟨reason, hrestart⟩, hwhy⟩ | ⟨hcycles, -, hfew⟩
  · rw [hrestart]
    exact ⟨fun _ => hwhy.resolve_left (by simp [hidle]), fun _ => rfl⟩
  · rw [hcycles]
    refine ⟨?_, fun hmany => absurd hmany hfew⟩
    intro hrestart
    cases hrestart

theorem Sound.kept_stuck_iff (h : Sound w) (hnow : w.now ≤ now) : Kept w (.stuck now) ↔ Unwrapped w (.stuck now) := by
  have hstarts : (onStuck (Clock.millis now) w.policy).2 = .cyclePort → w.policy.waiting = false := by
    rcases onStuck_cases (Clock.millis now) w.policy with ⟨⟨reason, hrestart⟩, -⟩ | ⟨-, hidle, -⟩
    · rw [hrestart]
      exact fun hcycles => nomatch hcycles
    · exact fun _ => hidle
  show (_ ∧ (w.policy.waiting = false → _)) ↔ (w.policy.waiting = false → _)
  rw [and_iff_right hstarts]
  refine forall_congr' fun hidle => ?_
  rw [h.restart_iff hnow hidle, h.recentCycles_eq hnow]
  cases hstart : w.cycles[11]? with
  | none => simp
  | some start =>
      simp only [Option.mem_some_iff, Option.some.injEq, exists_eq_left', forall_eq']
      have hshown : now < start + windowMs.toNat → (now - start) % 2 ^ 32 < windowMs.toNat := shown_of_recent
      omega

theorem Sound.kept_iff (h : Sound w) {event : Event} (horder : InOrder w event) : Kept w event ↔ Unwrapped w event := by
  cases event with
  | stuck now => exact h.kept_stuck_iff horder
  | proven => exact Iff.rfl
  | backTimedOut now =>
      refine iff_of_true ?_ trivial
      intro hreports
      rcases backTimedOut_cases (Clock.millis now) w.policy with hnone | ⟨-, hopen⟩
      · rw [hnone] at hreports
        cases hreports
      · rw [h.reports, hopen]
        rfl

/-- A cycle that is not refused finds room in the hour. -/
theorem Sound.room (h : Sound w) (hnow : w.now ≤ now)
    (hfew : ¬ (w.policy.stamps.count = maxCyclesPerWindow ∧ Clock.millis now - w.policy.stamps.oldest < windowMs)) :
    recentCycles w now < maxCyclesPerWindow := by
  have hmost : recentCycles w now ≤ maxCyclesPerWindow := Nat.le_trans (recentCycles_le hnow) h.few
  refine Nat.lt_of_le_of_ne hmost ?_
  intro hfull
  obtain ⟨start, hstart, hrecent⟩ := (h.recentCycles_eq hnow).mp hfull
  exact hfew ((h.refused_iff hnow).mpr ⟨start, hstart, shown_of_recent hrecent⟩)

theorem Sound.later (h : Sound w) (hnow : w.now ≤ now) : Sound { w with now } where
  stamps := h.stamps
  past start hmem := Nat.le_trans (h.past start hmem) hnow
  sorted := h.sorted
  few := Nat.le_trans (recentCycles_le hnow) h.few
  reports := h.reports

theorem sound_observe {event : Event} (horder : InOrder w event) (h : Sound w) : Sound (observe w event) := by
  cases event with
  | proven => exact ⟨h.stamps, h.past, h.sorted, h.few, h.reports⟩
  | backTimedOut now =>
      have hlater : Sound { w with now } := h.later horder
      unfold observe
      dsimp only
      rcases backTimedOut_cases (Clock.millis now) w.policy with hnone | ⟨hreports, hopen⟩
      · rw [hnone]
        exact hlater
      · rw [hreports]
        refine ⟨hlater.stamps, hlater.past, hlater.sorted, hlater.few, ?_⟩
        rw [h.reports, hopen]
        rfl
  | stuck now =>
      have hnow : w.now ≤ now := horder
      have hlater := h.later hnow
      unfold observe
      dsimp only
      rcases onStuck_cases (Clock.millis now) w.policy with ⟨⟨reason, hrestart⟩, -⟩ | ⟨hcycles, -, hfew⟩
      · rw [hrestart]
        exact ⟨hlater.stamps, hlater.past, hlater.sorted, hlater.few, hlater.reports⟩
      · rw [hcycles]
        refine ⟨Ring.recent_push_take h.stamps, ?_, ?_, ?_, rfl⟩
        · intro start hmem
          rcases List.mem_cons.mp hmem with rfl | hearlier
          · exact Nat.le_refl _
          · exact hlater.past start hearlier
        · exact List.pairwise_cons.mpr ⟨hlater.past, h.sorted⟩
        · have hroom := h.room hnow hfew
          show List.countP _ (now :: w.cycles) ≤ _
          rw [List.countP_cons]
          have hone : (if decide (now < now + windowMs.toNat) = true then 1 else 0) ≤ 1 := by split <;> omega
          exact Nat.le_trans (Nat.add_le_add_left hone (recentCycles w now)) hroom

/-- In a run whose twelfth cycle back never looks recent when it is not the policy is kept throughout, and in no other run. -/
theorem policy_kept_iff (memory : Vector UInt32 12) (events : List Event)
    (horder : Along InOrder observe (Watch.initial memory) events) :
    Along Kept observe (Watch.initial memory) events ↔ Along Unwrapped observe (Watch.initial memory) events :=
  along_congr (sound_initial memory) (fun _ _ hevent h => sound_observe hevent h) (fun _ _ hevent h => h.kept_iff hevent)
    events horder

/-- Twelve cycles, a minute apart, each of which brings the device back. -/
def twelveCycles : List Event := (List.range 12).flatMap fun i => [.stuck (60000 * i), .proven]

/-- One hour after the first cycle the next one is started. -/
theorem policy_kept_iff_hour :
    Along Kept observe (Watch.initial (Vector.replicate 12 0)) (twelveCycles ++ [.stuck 3599999, .stuck 3600000]) :=
  (policy_kept_iff (Vector.replicate 12 0) (twelveCycles ++ [.stuck 3599999, .stuck 3600000]) (by decide +kernel)).mpr
    (by decide +kernel)

/-- A whole turn of the clock later the cycles of one hour look recent again. -/
theorem old_cycles_look_recent :
    Along InOrder observe (Watch.initial (Vector.replicate 12 0)) (twelveCycles ++ [.stuck (2 ^ 32 + 660000)])
      ∧ ¬ Along Kept observe (Watch.initial (Vector.replicate 12 0)) (twelveCycles ++ [.stuck (2 ^ 32 + 660000)]) := by
  decide +kernel

end PortCyclePolicy

end EspNut
