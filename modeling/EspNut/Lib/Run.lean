import Mathlib.Data.List.Induction

/-!
# Runs of a step function

A run is the fold of a step function over a list of events. An invariant of every run is proved once for the start and once for a step; when the invariant also speaks of the events so far, the step extends the history at its end.
-/

namespace EspNut.Lib

variable {σ ε : Type}

/-- The state after the events, in order. -/
def run (step : σ → ε → σ) (start : σ) (events : List ε) : σ := events.foldl step start

variable {step : σ → ε → σ} {start : σ}

@[simp] theorem run_nil : run step start [] = start := rfl

theorem run_cons (event : ε) (events : List ε) :
    run step start (event :: events) = run step (step start event) events := rfl

theorem run_append (first second : List ε) :
    run step start (first ++ second) = run step (run step start first) second :=
  List.foldl_append

theorem run_snoc (events : List ε) (event : ε) :
    run step start (events ++ [event]) = step (run step start events) event := by
  rw [run_append]
  rfl

/-- What holds of the start with no history and is kept by each step holds of every run. -/
theorem run_history {P : List ε → σ → Prop} (hstart : P [] start)
    (hstep : ∀ history state event, P history state → P (history ++ [event]) (step state event))
    (events : List ε) : P events (run step start events) := by
  induction events using List.reverseRecOn with
  | nil => exact hstart
  | append_singleton history event ih =>
      rw [run_snoc]
      exact hstep history _ event ih

/-- An invariant of the steps taken from the given events holds after the run. -/
theorem run_invariant {P : σ → Prop} {allowed : ε → Prop} (hstart : P start)
    (hstep : ∀ state event, allowed event → P state → P (step state event))
    (events : List ε) (hevents : ∀ event ∈ events, allowed event) : P (run step start events) := by
  induction events using List.reverseRecOn with
  | nil => exact hstart
  | append_singleton history event ih =>
      rw [run_snoc]
      exact hstep _ event (hevents event (by simp))
        (ih fun e he => hevents e (List.mem_append_left _ he))

/-- Each event of the run is one that the state it meets allows. -/
def Along (allowed : σ → ε → Prop) (step : σ → ε → σ) : σ → List ε → Prop
  | _, [] => True
  | state, event :: rest => allowed state event ∧ Along allowed step (step state event) rest

def decideAlong (allowed : σ → ε → Prop) [∀ state event, Decidable (allowed state event)] (step : σ → ε → σ) :
    (state : σ) → (events : List ε) → Decidable (Along allowed step state events)
  | _, [] => isTrue trivial
  | state, event :: rest =>
      @instDecidableAnd _ _ _ (decideAlong allowed step (step state event) rest)

instance (allowed : σ → ε → Prop) [∀ state event, Decidable (allowed state event)] (step : σ → ε → σ) (state : σ)
    (events : List ε) : Decidable (Along allowed step state events) := decideAlong allowed step state events

/-- What the allowed steps keep holds after a run of them. -/
theorem run_along {P : σ → Prop} {allowed : σ → ε → Prop} (hstart : P start)
    (hstep : ∀ state event, allowed state event → P state → P (step state event))
    (events : List ε) (hevents : Along allowed step start events) : P (run step start events) := by
  induction events generalizing start with
  | nil => exact hstart
  | cons event rest ih =>
      obtain ⟨hevent, hrest⟩ := hevents
      rw [run_cons]
      exact ih (hstep start event hevent hstart) hrest

theorem along_append {allowed : σ → ε → Prop} (first second : List ε) :
    Along allowed step start (first ++ second)
      ↔ Along allowed step start first ∧ Along allowed step (run step start first) second := by
  induction first generalizing start with
  | nil => exact (and_iff_right trivial).symm
  | cons event rest ih =>
      refine (and_congr_right fun _ => ih).trans ?_
      rw [← and_assoc]
      rfl

/-- A condition that brings another and keeps an invariant along the way brings it for the whole run. -/
theorem along_imp (Inv : σ → Prop) {first second : σ → ε → Prop} (hstart : Inv start)
    (hstep : ∀ state event, Inv state → first state event → second state event ∧ Inv (step state event))
    (events : List ε) (hevents : Along first step start events) : Along second step start events := by
  induction events generalizing start with
  | nil => exact trivial
  | cons event rest ih =>
      obtain ⟨hevent, hrest⟩ := hevents
      obtain ⟨hsecond, hinv⟩ := hstep start event hstart hevent
      exact ⟨hsecond, ih hinv hrest⟩

/-- Steps that only look at their event are allowed along the whole run. -/
theorem along_of_forall {allowed : ε → Prop} (events : List ε) (h : ∀ event ∈ events, allowed event) :
    Along (fun _ => allowed) step start events := by
  induction events generalizing start with
  | nil => exact trivial
  | cons event rest ih =>
      exact ⟨h event List.mem_cons_self, ih fun e he => h e (List.mem_cons_of_mem event he)⟩

/-- Where an invariant makes two conditions on a step the same, they are the same along a run. -/
theorem along_congr {Inv : σ → Prop} {allowed first second : σ → ε → Prop} (hstart : Inv start)
    (hstep : ∀ state event, allowed state event → Inv state → Inv (step state event))
    (hsame : ∀ state event, allowed state event → Inv state → (first state event ↔ second state event))
    (events : List ε) (hevents : Along allowed step start events) :
    Along first step start events ↔ Along second step start events := by
  induction events generalizing start with
  | nil => exact Iff.rfl
  | cons event rest ih =>
      obtain ⟨hevent, hrest⟩ := hevents
      exact and_congr (hsame start event hevent hstart) (ih (hstep start event hevent hstart) hrest)

/-! ### Walks that may fail -/

variable {step? : σ → ε → Option σ}

theorem foldlM_cons_some {event : ε} {events : List ε} {state final : σ}
    (h : (event :: events).foldlM step? state = some final) :
    ∃ next, step? state event = some next ∧ events.foldlM step? next = some final := by
  rw [List.foldlM_cons] at h
  exact Option.bind_eq_some_iff.mp h

theorem foldlM_append_some {first second : List ε} {state final : σ}
    (h : (first ++ second).foldlM step? state = some final) :
    ∃ middle, first.foldlM step? state = some middle ∧ second.foldlM step? middle = some final := by
  rw [List.foldlM_append] at h
  exact Option.bind_eq_some_iff.mp h

theorem foldlM_eq_none_iff {events : List ε} {state : σ} :
    events.foldlM step? state = none
      ↔ ∃ before event after next, events = before ++ event :: after ∧ before.foldlM step? state = some next
        ∧ step? next event = none := by
  constructor
  · intro h
    induction events generalizing state with
    | nil => cases h
    | cons event rest ih =>
        cases hnext : step? state event with
        | none => exact ⟨[], event, rest, state, rfl, rfl, hnext⟩
        | some next =>
            rw [List.foldlM_cons, hnext] at h
            obtain ⟨before, failing, after, last, rfl, hwalk, hfails⟩ := ih h
            refine ⟨event :: before, failing, after, last, rfl, ?_, hfails⟩
            rw [List.foldlM_cons, hnext]
            exact hwalk
  · rintro ⟨before, event, after, next, rfl, hwalk, hfails⟩
    rw [List.foldlM_append, hwalk]
    show (event :: after).foldlM step? next = none
    rw [List.foldlM_cons, hfails]
    rfl

/-- An invariant of the steps that succeed holds after a walk that succeeds. -/
theorem walk_invariant {P : σ → Prop} {events : List ε} {state final : σ} (hstate : P state)
    (hstep : ∀ event ∈ events, ∀ s s', P s → step? s event = some s' → P s')
    (h : events.foldlM step? state = some final) : P final := by
  induction events generalizing state with
  | nil =>
      obtain rfl : state = final := Option.some.inj h
      exact hstate
  | cons event events ih =>
      obtain ⟨next, hnext, hrest⟩ := foldlM_cons_some h
      exact ih (hstep event (by simp) state next hstate hnext)
        (fun e he => hstep e (List.mem_cons_of_mem event he)) hrest

/-- Each event of the walk is one that the state it meets allows, as far as the walk goes. -/
def AlongWalk (allowed : σ → ε → Prop) (step? : σ → ε → Option σ) : σ → List ε → Prop
  | _, [] => True
  | state, event :: rest =>
      allowed state event ∧ ∀ next ∈ step? state event, AlongWalk allowed step? next rest

def decideAlongWalk (allowed : σ → ε → Prop) [∀ state event, Decidable (allowed state event)]
    (step? : σ → ε → Option σ) : (state : σ) → (events : List ε) → Decidable (AlongWalk allowed step? state events)
  | _, [] => isTrue trivial
  | state, event :: rest =>
      @instDecidableAnd _ _ _
        (@Option.decidableForallMem _ _ (fun next => decideAlongWalk allowed step? next rest) (step? state event))

instance (allowed : σ → ε → Prop) [∀ state event, Decidable (allowed state event)] (step? : σ → ε → Option σ)
    (state : σ) (events : List ε) : Decidable (AlongWalk allowed step? state events) :=
  decideAlongWalk allowed step? state events

/-- What the allowed steps keep holds after a walk of them that succeeds. -/
theorem walk_along {P : σ → Prop} {allowed : σ → ε → Prop} {events : List ε} {state final : σ} (hstate : P state)
    (hstep : ∀ s event s', allowed s event → P s → step? s event = some s' → P s')
    (hevents : AlongWalk allowed step? state events) (h : events.foldlM step? state = some final) : P final := by
  induction events generalizing state with
  | nil =>
      obtain rfl : state = final := Option.some.inj h
      exact hstate
  | cons event events ih =>
      obtain ⟨next, hnext, hrest⟩ := foldlM_cons_some h
      exact ih (hstep state event next hevents.1 hstate hnext) (hevents.2 next hnext) hrest

/-- When each step settles its own event and disturbs no other, a walk settles them all. -/
theorem walk_settles {P : σ → Prop} {Q : ε → σ → Prop} {events : List ε} {state final : σ}
    (hstate : P state)
    (hstep : ∀ event ∈ events, ∀ s s', P s → step? s event = some s' →
      P s' ∧ Q event s' ∧ ∀ other, Q other s → Q other s')
    (h : events.foldlM step? state = some final) :
    P final ∧ (∀ event ∈ events, Q event final) ∧ ∀ other, Q other state → Q other final := by
  induction events generalizing state with
  | nil =>
      obtain rfl : state = final := Option.some.inj h
      exact ⟨hstate, by simp, fun _ hother => hother⟩
  | cons event events ih =>
      obtain ⟨next, hnext, hrest⟩ := foldlM_cons_some h
      obtain ⟨hP, hQ, hkeep⟩ := hstep event (by simp) state next hstate hnext
      obtain ⟨hP', hQ', hkeep'⟩ := ih hP (fun e he => hstep e (List.mem_cons_of_mem event he)) hrest
      refine ⟨hP', ?_, fun other hother => hkeep' other (hkeep other hother)⟩
      intro e he
      rcases List.mem_cons.mp he with rfl | htail
      · exact hkeep' e hQ
      · exact hQ' e htail

theorem walk_returns (P : σ → Prop) {events : List ε} {state : σ} (hstate : P state)
    (hstep : ∀ event ∈ events, ∀ s, P s → ∃ s', step? s event = some s' ∧ P s') :
    ∃ final, events.foldlM step? state = some final ∧ P final := by
  induction events generalizing state with
  | nil => exact ⟨state, rfl, hstate⟩
  | cons event events ih =>
      obtain ⟨next, hnext, hP⟩ := hstep event (by simp) state hstate
      obtain ⟨final, hfinal, hP'⟩ := ih hP fun e he => hstep e (List.mem_cons_of_mem event he)
      refine ⟨final, ?_, hP'⟩
      rw [List.foldlM_cons, hnext]
      exact hfinal

end EspNut.Lib
