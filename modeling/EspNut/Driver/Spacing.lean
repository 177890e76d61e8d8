import EspNut.Driver.Cycles

/-!
# The gap between two requests

Inside a cycle requests keep their distance. The first request of a cycle goes out right away, so the distance holds across cycles only when no cycle starts too soon after the last request.
-/

namespace EspNut.GenericDriver

open Lib NutTable

/-- A poll with the real times of its calls and of their requests, in order. -/
structure Watched where
  poll : Poll
  now : Nat
  requested : List Nat

def Watched.initial (data : UPSData) : Watched := ⟨Poll.initial data, 0, []⟩

def watch (sub : Subdriver) (w : Watched) (event : PollEvent) : Watched :=
  let (poll, request) := pollStep sub w.poll event
  match event with
  | .loop _ _ now _ => ⟨poll, now, if request.isSome then w.requested ++ [now] else w.requested⟩
  | _ => ⟨poll, w.now, w.requested⟩

/-- The calls come in order, with the spacing of the driver. -/
def InOrder (spacing : UInt32) (w : Watched) (event : PollEvent) : Prop :=
  match event with
  | .loop hooks _ now _ => w.now ≤ now ∧ hooks.stepSpacingMs = spacing
  | _ => True

instance (spacing : UInt32) (w : Watched) : (event : PollEvent) → Decidable (InOrder spacing w event)
  | .loop hooks _ now _ => inferInstanceAs (Decidable (w.now ≤ now ∧ hooks.stepSpacingMs = spacing))
  | .noteDataChanged | .pollSoon _ | .invalidateReport _ _ | .report _ _ _ _ _ | .engine _ => isTrue trivial

/-- A cycle that starts leaves the spacing after the last request. -/
def StartsSpaced (sub : Subdriver) (spacing : UInt32) (w : Watched) (event : PollEvent) : Prop :=
  match event with
  | .loop hooks host now _ =>
      dueCycle hooks (millis now) (prepare sub hooks host w.poll) ≠ none →
        ∀ last ∈ w.requested, last + spacing.toNat ≤ now
  | _ => True

instance (sub : Subdriver) (spacing : UInt32) (w : Watched) :
    (event : PollEvent) → Decidable (StartsSpaced sub spacing w event)
  | .loop hooks host now _ =>
      inferInstanceAs (Decidable (dueCycle hooks (millis now) (prepare sub hooks host w.poll) ≠ none →
        ∀ last ∈ w.requested, last + spacing.toNat ≤ now))
  | .noteDataChanged | .pollSoon _ | .invalidateReport _ _ | .report _ _ _ _ _ | .engine _ => isTrue trivial

/-- The requests so far keep the spacing, and so will the next one. -/
structure Spaced (spacing : UInt32) (w : Watched) : Prop where
  gaps : w.requested.Pairwise fun earlier later => earlier + spacing.toNat ≤ later
  last : ∀ last, w.requested.getLast? = some last → w.poll.lastStep = millis last
  past : ∀ time ∈ w.requested, time ≤ w.now
  ready : w.poll.stepNow = true → ∀ time ∈ w.requested, time + spacing.toNat ≤ w.now

variable {sub : Subdriver} {spacing : UInt32} {w : Watched}

/-- The clock shows at most the time that has passed. -/
theorem spaced_of_millis {last now : Nat} (hpast : last ≤ now) (h : spacing ≤ millis now - millis last) :
    last + spacing.toNat ≤ now := by
  rw [UInt32.le_iff_toNat_le] at h
  unfold millis at h
  rw [UInt32.toNat_sub, UInt32.toNat_ofNat', UInt32.toNat_ofNat'] at h
  omega

/-- Every request keeps its distance once the last one does. -/
theorem Spaced.all_of_last (h : Spaced spacing w) {now : Nat}
    (hlast : ∀ last, w.requested.getLast? = some last → last + spacing.toNat ≤ now) :
    ∀ time ∈ w.requested, time + spacing.toNat ≤ now := by
  intro time hmem
  have hsplit := List.dropLast_append_getLast (List.ne_nil_of_mem hmem)
  have hget := List.getLast?_eq_getLast_of_ne_nil (List.ne_nil_of_mem hmem)
  have hle := hlast _ hget
  rw [← hsplit] at hmem
  rcases List.mem_append.mp hmem with hearlier | hown
  · have hgaps := h.gaps
    rw [← hsplit] at hgaps
    have := (List.pairwise_append.mp hgaps).2.2 time hearlier _ (List.mem_singleton_self _)
    omega
  · rw [List.mem_singleton.mp hown]
    exact hle

theorem lastStep_noteRace (raced : Bool) (p : Poll) : (noteRace raced p).lastStep = p.lastStep := rfl

theorem Spaced.beginCycle (h : Spaced spacing w) {hooks : Hooks} {host : Host} {now : Nat} (raced : Bool)
    (hnow : w.now ≤ now) (hstarts : StartsSpaced sub spacing w (.loop hooks host now raced)) :
    Spaced spacing ⟨(GenericDriver.beginCycle sub hooks host (millis now) raced w.poll).1, now, w.requested⟩ := by
  have hpast : ∀ time ∈ w.requested, time ≤ now := fun time hmem => Nat.le_trans (h.past time hmem) hnow
  rcases beginCycle_cases sub hooks host (millis now) raced w.poll with ⟨-, -, hgoes⟩ | ⟨full, hdue, hbegin⟩
  · refine ⟨h.gaps, ?_, hpast, ?_⟩
    · intro last hlast
      show (GenericDriver.beginCycle sub hooks host (millis now) raced w.poll).1.lastStep = millis last
      rw [hgoes.lastStep]
      exact h.last last hlast
    · intro hstep time hmem
      exact Nat.le_trans (h.ready (hgoes.stepNow.symm.trans hstep) time hmem) hnow
  · rw [hbegin]
    have hstart := starts_startCycle hooks host full (millis now)
      (noteRace raced (prepare sub hooks host w.poll))
    refine ⟨h.gaps, ?_, hpast, ?_⟩
    · intro last hlast
      show (startCycle hooks host full (millis now) _).lastStep = millis last
      rw [hstart.lastStep, lastStep_noteRace, (goesOn_prepare sub hooks host w.poll).lastStep]
      exact h.last last hlast
    · intro _
      apply hstarts
      rw [hdue]
      simp

theorem Spaced.issue {p : Poll} {now : Nat} {hooks : Hooks} (host : Host) {requested : List Nat}
    (h : Spaced spacing ⟨p, now, requested⟩) (hspacing : hooks.stepSpacingMs = spacing) :
    Spaced spacing ⟨(GenericDriver.issue hooks host (millis now) p).1, now,
      if (GenericDriver.issue hooks host (millis now) p).2.isSome then requested ++ [now] else requested⟩ := by
  rcases issue_cases hooks host (millis now) p with ⟨-, hissue⟩ | ⟨-, -, hissue⟩ | ⟨hmay, item, -, hissue⟩
  · rw [hissue]
    exact h
  · rw [hissue]
    exact ⟨h.gaps, h.last, h.past, h.ready⟩
  · rw [hissue]
    have hnew : ∀ time ∈ requested, time + spacing.toNat ≤ now := by
      apply h.all_of_last
      intro last hlast
      have hmem := List.mem_of_getLast? hlast
      unfold mayStep at hmay
      simp only [Bool.and_eq_true, Bool.or_eq_true, decide_eq_true_eq] at hmay
      rcases hmay.2 with hstep | hgap
      · exact h.ready hstep last hmem
      · rw [hspacing, h.last last hlast] at hgap
        exact spaced_of_millis (h.past last hmem) hgap
    refine ⟨?_, ?_, ?_, ?_⟩
    · apply List.pairwise_append.mpr ⟨h.gaps, List.pairwise_singleton _ _, ?_⟩
      intro earlier hearlier later hlater
      rw [List.mem_singleton.mp hlater]
      exact hnew earlier hearlier
    · intro last hlast
      obtain rfl : now = last := by simpa using hlast
      rfl
    · intro time hmem
      rcases List.mem_append.mp hmem with hearlier | hown
      · exact h.past time hearlier
      · exact Nat.le_of_eq (List.mem_singleton.mp hown)
    · intro hstep
      exact absurd hstep (by simp)

theorem Spaced.of_same (h : Spaced spacing w) {p : Poll} (hstep : p.lastStep = w.poll.lastStep)
    (hnow : p.stepNow = w.poll.stepNow) : Spaced spacing ⟨p, w.now, w.requested⟩ where
  gaps := h.gaps
  last := fun last hlast => hstep.trans (h.last last hlast)
  past := h.past
  ready := fun hready => h.ready (hnow.symm.trans hready)

theorem spaced_watch {event : PollEvent} (horder : InOrder spacing w event)
    (hstarts : StartsSpaced sub spacing w event) (h : Spaced spacing w) : Spaced spacing (watch sub w event) := by
  cases event with
  | loop hooks host now raced =>
      obtain ⟨hnow, hspacing⟩ := horder
      have hissued := (h.beginCycle raced hnow hstarts).issue host hspacing
      unfold watch pollStep loop
      dsimp only
      rw [Option.isSome_map]
      exact hissued
  | noteDataChanged => exact h.of_same rfl rfl
  | pollSoon item =>
      apply h.of_same
      · show (pollSoon item w.poll).lastStep = w.poll.lastStep
        unfold pollSoon
        split <;> rfl
      · show (pollSoon item w.poll).stepNow = w.poll.stepNow
        unfold pollSoon
        split <;> rfl
  | invalidateReport reportType reportId =>
      have hgoes := goesOn_invalidateReport reportType reportId w.poll
      exact h.of_same hgoes.lastStep hgoes.stepNow
  | report host reportId reportType bytes engine =>
      have hgoes := goesOn_report sub host reportId reportType bytes engine w.poll
      exact h.of_same hgoes.lastStep hgoes.stepNow
  | engine engine => exact h.of_same rfl rfl

/-- No two requests come closer than the spacing, as long as no cycle starts too soon after a request. -/
theorem requests_keep_spacing (sub : Subdriver) (spacing : UInt32) (data : UPSData) (events : List PollEvent)
    (h : Along (fun w event => InOrder spacing w event ∧ StartsSpaced sub spacing w event) (watch sub)
      (Watched.initial data) events) :
    (run (watch sub) (Watched.initial data) events).requested.Pairwise
      fun earlier later => earlier + spacing.toNat ≤ later := by
  have hspaced : Spaced spacing (run (watch sub) (Watched.initial data) events) := by
    apply run_along ?_ ?_ events h
    · exact ⟨List.Pairwise.nil, fun _ h => absurd h (by simp [Watched.initial]), fun _ h => absurd h List.not_mem_nil,
        fun _ _ h => absurd h List.not_mem_nil⟩
    · intro w event hevent hbefore
      exact spaced_watch hevent.1 hevent.2 hbefore
  exact hspaced.gaps

/-! ### A driver that keeps 800 ms -/

/-- The reports of a full and of a quick cycle, as of a device whose controller stalls on close requests. -/
def slowHooks : Hooks :=
  { Hooks.generic with
    driverName := "PowercomDriver"
    stepSpacingMs := 800
    ownPollLists := some ([⟨3, 0x0A, 8⟩], [⟨3, 0x0A, 8⟩, ⟨3, 0x1D, 8⟩, ⟨3, 0x1F, 8⟩, ⟨3, 0xA4, 8⟩]) }

def slowCalls (times : List Nat) : List PollEvent := times.map fun now => .loop slowHooks (bareHost []) now false

/-- The quick cycle after the full one starts 900 ms after the last request. -/
theorem requests_keep_spacing_late :
    (run (watch bareSubdriver) (Watched.initial UPSData.empty)
      (slowCalls [1000, 1500, 1800, 2600, 3400, 4300, 5000])).requested.Pairwise
        fun earlier later => earlier + (800 : UInt32).toNat ≤ later :=
  requests_keep_spacing bareSubdriver 800 UPSData.empty (slowCalls [1000, 1500, 1800, 2600, 3400, 4300, 5000])
    (by decide +kernel)

/-- The quick cycle is due when the full one ends, and its first request follows 10 ms after the last one. -/
theorem cycle_starts_too_soon :
    Along (InOrder 800) (watch bareSubdriver) (Watched.initial UPSData.empty)
        (slowCalls [1000, 1800, 2600, 3400, 3410])
      ∧ ¬ (run (watch bareSubdriver) (Watched.initial UPSData.empty)
          (slowCalls [1000, 1800, 2600, 3400, 3410])).requested.Pairwise
            fun earlier later => earlier + (800 : UInt32).toNat ≤ later := by
  decide +kernel

end EspNut.GenericDriver
