import EspNut.Lib.Clock
import EspNut.Lib.Run
import EspNut.Time.NtpClock

/-!
# The time that is kept

What the clock is for, in real time: the time of any moment by the last answer of the server, and a line in the log when the first answer comes, or when none has come for a minute with the network there. The clock reads uptimes of 32 bits and keeps flags, and agrees with it in every run.
-/

namespace EspNut

open Lib Clock

/-! ### Keeping the time -/

/-- How far the asking is. -/
inductive Asking where
  | off
  /-- without an answer yet: since when the network has been there, and whether that was written -/
  | unanswered (since : Nat) (warned : Bool)
  | answered

structure TimeKeeping where
  time : Nat
  lastPoll : Nat
  /-- settings that wait, and who has made them -/
  pending : Option (TimeSettings × String)
  settings : TimeSettings
  asking : Asking
  /-- the time that was given last, and when -/
  reference : Option (Int × Nat)
  /-- an answer has come since the last round -/
  news : Bool
  shown : TimeState × TimeSettings

/-- What happens, with the time that passes before. -/
inductive ClockEvent where
  | configure (settings : TimeSettings) (who : String)
  | sync (epochMs : Int)
  /-- a round of the loop, which reads the uptime again some time after its start -/
  | poll (networkUp : Bool) (readAfter : Nat)

namespace TimeKeeping

/-- The clock of a board whose settings are loaded. -/
def initial (settings : TimeSettings) : TimeKeeping where
  time := 0
  lastPoll := 0
  pending := some (settings.sanitize, "")
  settings := timeDefaults
  asking := .off
  reference := none
  news := false
  shown := (.disabled, timeDefaults)

/-- The time at a moment before or after the answer. -/
def timeAt (moment : Nat) (k : TimeKeeping) : Option Int := k.reference.map fun answer => answer.1 + (moment - answer.2)

/-- With the time turned off the last answer is forgotten. -/
def takeUp (k : TimeKeeping) : TimeKeeping × List TimeLine :=
  match k.pending with
  | some (s, who) =>
      ({ k with
          pending := none
          settings := s
          asking := if s.ntp then .unanswered k.time false else .off
          reference := if s.ntp then k.reference else none
          news := false },
        if who ≠ "" then [.changed s who] else [])
  | none => (k, [])

def takeNews (readAt : Nat) (k : TimeKeeping) : TimeKeeping × List TimeLine :=
  if k.news = false then (k, [])
  else
    ({ k with news := false, asking := .answered },
      match k.asking with
      | .unanswered _ _ => (k.timeAt readAt).toList.map fun ms => .synchronized k.settings.server ms
      | _ => [])

/-- A minute counts only while the network is there. -/
def warn (networkUp : Bool) (k : TimeKeeping) : TimeKeeping × List TimeLine :=
  match k.asking with
  | .unanswered since warned =>
      if networkUp = false then ({ k with asking := .unanswered k.time warned }, [])
      else if warned = true ∨ k.time < since + 60000 then (k, [])
      else ({ k with asking := .unanswered since true }, [.noAnswer k.settings.server])
  | _ => (k, [])

def state (k : TimeKeeping) : TimeState :=
  match k.asking with
  | .off => .disabled
  | .unanswered _ warned => if k.reference.isSome then .synchronized else if warned then .noAnswer else .waiting
  | .answered => .synchronized

def poll (networkUp : Bool) (readAfter : Nat) (k : TimeKeeping) : TimeKeeping × List TimeLine :=
  let (k, changed) := k.takeUp
  let (k, told) := k.takeNews (k.time + readAfter)
  let (k, warned) := k.warn networkUp
  ({ k with lastPoll := k.time, shown := (k.state, k.settings) }, changed ++ (told ++ warned))

def step (k : TimeKeeping) (e : Nat × ClockEvent) : TimeKeeping × List TimeLine :=
  let k := { k with time := k.time + e.1 }
  match e.2 with
  | .configure settings who => ({ k with pending := some (settings.sanitize, who) }, [])
  | .sync epochMs => ({ k with reference := some (epochMs, k.time), news := true }, [])
  | .poll networkUp readAfter => k.poll networkUp readAfter

end TimeKeeping

/-! ### The clock in a run -/

def NtpClock.step (c : NtpClock) (time : Nat) : ClockEvent → NtpClock × List ClockEffect
  | .configure settings who => (c.configure settings who, [])
  | .sync epochMs => (c.onSync epochMs (millis time), [])
  | .poll networkUp readAfter => c.poll networkUp (millis time) (millis (time + readAfter))

def timeLines (effects : List ClockEffect) : List TimeLine :=
  effects.filterMap fun
    | .log line => some line
    | _ => none

@[simp] theorem timeLines_append (first second : List ClockEffect) :
    timeLines (first ++ second) = timeLines first ++ timeLines second := List.filterMap_append ..

/-- The clock and what it is for, with the lines of each. -/
structure TimeTrace where
  clock : NtpClock
  keeping : TimeKeeping
  written : List TimeLine
  due : List TimeLine

namespace TimeTrace

def initial (settings : TimeSettings) : TimeTrace :=
  ⟨NtpClock.initial.configure settings "", TimeKeeping.initial settings, [], []⟩

def step (t : TimeTrace) (e : Nat × ClockEvent) : TimeTrace :=
  let (clock, effects) := t.clock.step (t.keeping.time + e.1) e.2
  let (keeping, due) := t.keeping.step e
  ⟨clock, keeping, t.written ++ timeLines effects, t.due ++ due⟩

/-- What the network's library and the loop promise: answers come only while the time is asked for, and the loop goes round within 24 days. -/
def Promised (t : TimeTrace) (e : Nat × ClockEvent) : Prop :=
  match e.2 with
  | .configure _ _ => True
  | .sync _ => t.clock.sntpRunning = true
  | .poll _ readAfter => t.keeping.time + e.1 + readAfter < t.keeping.lastPoll + 2 ^ 31

instance (t : TimeTrace) : (e : Nat × ClockEvent) → Decidable (Promised t e)
  | (_, .configure _ _) => isTrue trivial
  | (_, .sync _) => inferInstanceAs (Decidable (t.clock.sntpRunning = true))
  | (elapsed, .poll _ readAfter) =>
      inferInstanceAs (Decidable (t.keeping.time + elapsed + readAfter < t.keeping.lastPoll + 2 ^ 31))

end TimeTrace

/-! ### Agreement -/

namespace NtpClock

/-- The flags of the log's lines, at a stage of the asking. -/
def AgreesAsking (c : NtpClock) (k : TimeKeeping) : Prop :=
  match k.asking with
  | .off => c.policy.waiting = false ∧ c.policy.noAnswer = false ∧ k.reference = none ∧ k.news = false
      ∧ c.sntpRunning = false ∧ (c.active.ntp = true → c.pending.isSome = true)
  | .unanswered since warned => c.policy = ⟨true, warned, false, millis since⟩ ∧ c.active.ntp = true ∧ since ≤ k.time
      ∧ (warned = false → k.lastPoll < since + 60000)
  | .answered => c.policy.waiting = false ∧ c.policy.noAnswer = false ∧ c.policy.syncedOnce = true ∧ c.active.ntp = true
      ∧ k.reference.isSome = true

structure Agrees (c : NtpClock) (k : TimeKeeping) : Prop where
  pending : c.pending = k.pending
  active : c.active = k.settings
  synced : c.synced = k.news
  reference : match k.reference with
    | some (epochMs, moment) => c.clock = ⟨true, epochMs, millis moment⟩ ∧ moment ≤ k.time
    | none => c.clock.valid = false
  /-- an answer that the loop has not seen came after its last round -/
  news : k.news = true → ∃ epochMs moment, k.reference = some (epochMs, moment) ∧ k.lastPoll ≤ moment
  asking : AgreesAsking c k
  lastPoll : k.lastPoll ≤ k.time
  shown : c.shown = k.shown

variable {c : NtpClock} {k : TimeKeeping}

theorem agrees_takeUp (h : Agrees c k) :
    Agrees (c.takeUp (millis k.time)).1 k.takeUp.1 ∧ timeLines (c.takeUp (millis k.time)).2 = k.takeUp.2
      ∧ (c.takeUp (millis k.time)).1.pending = none := by
  simp only [takeUp, TimeKeeping.takeUp, h.pending]
  cases hpending : k.pending with
  | none => exact ⟨h, rfl, h.pending.trans hpending⟩
  | some next =>
      obtain ⟨s, who⟩ := next
      refine ⟨?_, ?_, rfl⟩
      · cases hntp : s.ntp with
        | true =>
            refine ⟨rfl, rfl, rfl, ?_, fun hnews => absurd hnews Bool.false_ne_true, ?_, h.lastPoll, h.shown⟩
            · simp only [apply, hntp, ↓reduceIte]
              exact h.reference
            · simp only [AgreesAsking, apply, hntp, ↓reduceIte]
              exact ⟨rfl, trivial, le_rfl, fun _ => by have := h.lastPoll; omega⟩
        | false =>
            refine ⟨rfl, rfl, rfl, ?_, fun hnews => absurd hnews Bool.false_ne_true, ?_, h.lastPoll, h.shown⟩
            · simp only [apply, hntp]
              rfl
            · simp [AgreesAsking, apply, hntp, TimeLogPolicy.stop]
      · have hwho : timeLines (if who ≠ "" then [.log (.changed s who)] else []) = if who ≠ "" then [.changed s who] else [] := by
          split <;> rfl
        simp only [apply]
        cases c.sntpRunning <;> cases s.ntp <;> exact hwho

theorem agrees_start (h : Agrees c k) (hpending : c.pending = none) (networkUp : Bool) :
    Agrees (c.start networkUp).1 k ∧ timeLines (c.start networkUp).2 = [] := by
  simp only [start]
  split
  · rename_i hstart
    refine ⟨⟨h.pending, h.active, h.synced, h.reference, h.news, ?_, h.lastPoll, h.shown⟩, rfl⟩
    have hasking := h.asking
    simp only [AgreesAsking] at hasking ⊢
    split
    · rename_i hoff
      simp only [hoff] at hasking
      have hsome := hasking.2.2.2.2.2 hstart.1
      rw [hpending] at hsome
      exact absurd hsome Bool.false_ne_true
    · rename_i since warned hopen
      simp only [hopen] at hasking
      exact hasking
    · rename_i hanswered
      simp only [hanswered] at hasking
      exact hasking
  · exact ⟨h, rfl⟩

/-- Half a turn of the clock around the answer, the time of any moment is known. -/
theorem agrees_epochMsAt (h : Agrees c k) {moment : Nat}
    (hnear : ∀ epochMs answered, k.reference = some (epochMs, answered) → answered ≤ moment + 2 ^ 31 ∧ moment < answered + 2 ^ 31) :
    c.epochMsAt (millis moment) = k.timeAt moment := by
  have hreference := h.reference
  simp only [epochMsAt, TimeKeeping.timeAt, WallClock.epochMsAt]
  cases hanswer : k.reference with
  | none =>
      simp only [hanswer] at hreference
      rw [if_neg (by simp [hreference])]
      rfl
  | some answer =>
      obtain ⟨epochMs, answered⟩ := answer
      simp only [hanswer] at hreference
      obtain ⟨hbefore, hafter⟩ := hnear epochMs answered hanswer
      rw [hreference.1, if_pos rfl, toInt_sub hbefore hafter]
      rfl

theorem agrees_takeSync (h : Agrees c k) {readAt : Nat} (hread : k.time ≤ readAt ∧ readAt < k.lastPoll + 2 ^ 31) :
    Agrees (c.takeSync (millis readAt)).1 (k.takeNews readAt).1
      ∧ timeLines (c.takeSync (millis readAt)).2 = (k.takeNews readAt).2 := by
  simp only [takeSync, TimeKeeping.takeNews, h.synced]
  cases hnews : k.news with
  | false => exact ⟨h, rfl⟩
  | true =>
      obtain ⟨epochMs, answered, hanswer, hlast⟩ := h.news hnews
      have hreference := h.reference
      rw [hanswer] at hreference
      have hknown : c.epochMsAt (millis readAt) = k.timeAt readAt := by
        refine agrees_epochMsAt h fun e a heq => ?_
        rw [hanswer] at heq
        cases heq
        have := hreference.2
        omega
      have hrunning : AgreesAsking c k := h.asking
      simp only [AgreesAsking] at hrunning
      refine ⟨⟨h.pending, h.active, rfl, h.reference, fun hnews => absurd hnews Bool.false_ne_true, ?_, h.lastPoll, h.shown⟩, ?_⟩
      · cases hasking : k.asking with
        | off => simp [hasking, hnews] at hrunning
        | unanswered since warned =>
            simp only [hasking] at hrunning
            simp [AgreesAsking, TimeLogPolicy.onSynced, hrunning.2.1, hanswer]
        | answered =>
            simp only [hasking] at hrunning
            simp [AgreesAsking, TimeLogPolicy.onSynced, hrunning.2.2.2.1, hanswer]
      · rw [hknown, h.active]
        cases hasking : k.asking with
        | off => simp [hasking, hnews] at hrunning
        | unanswered since warned =>
            simp only [hasking] at hrunning
            simp [TimeLogPolicy.onSynced, hrunning.1, timeLines]
        | answered =>
            simp only [hasking] at hrunning
            simp [TimeLogPolicy.onSynced, hrunning, timeLines]

theorem takeUp_times (k : TimeKeeping) : k.takeUp.1.time = k.time ∧ k.takeUp.1.lastPoll = k.lastPoll := by
  simp only [TimeKeeping.takeUp]
  split <;> exact ⟨rfl, rfl⟩

theorem takeNews_times (k : TimeKeeping) (readAt : Nat) :
    (k.takeNews readAt).1.time = k.time ∧ (k.takeNews readAt).1.lastPoll = k.lastPoll ∧ (k.takeNews readAt).1.news = false := by
  simp only [TimeKeeping.takeNews]
  split
  · rename_i hnone
    exact ⟨rfl, rfl, hnone⟩
  · exact ⟨rfl, rfl, rfl⟩

theorem warn_time (networkUp : Bool) (k : TimeKeeping) : (k.warn networkUp).1.time = k.time := by
  simp only [TimeKeeping.warn]
  split
  · split
    · rfl
    · split <;> rfl
  · rfl

/-- Once the settings are taken up, nothing is asked for only when it is turned off. -/
theorem ntp_off (h : Agrees c k) (hpending : c.pending = none) (hasking : k.asking = .off) : c.active.ntp = false := by
  have hflags : AgreesAsking c k := h.asking
  simp only [AgreesAsking, hasking] at hflags
  by_contra hon
  have hsome := hflags.2.2.2.2.2 (by simpa using hon)
  rw [hpending] at hsome
  exact Bool.false_ne_true hsome

theorem agrees_of_quiet (h : Agrees c k) (hnone : k.news = false) (policy : TimeLogPolicy) (asking : Asking)
    (hasking : AgreesAsking { c with policy } { k with asking, lastPoll := k.time }) :
    Agrees { c with policy } { k with asking, lastPoll := k.time } :=
  ⟨h.pending, h.active, h.synced, h.reference, fun hnews => absurd (hnone.symm.trans hnews) Bool.false_ne_true, hasking, le_rfl,
    h.shown⟩

theorem agrees_warn (h : Agrees c k) (hpending : c.pending = none) (hsoon : k.time < k.lastPoll + 2 ^ 31) (hnone : k.news = false)
    (networkUp : Bool) :
    Agrees (c.warn networkUp (millis k.time)).1 { (k.warn networkUp).1 with lastPoll := k.time }
      ∧ timeLines (c.warn networkUp (millis k.time)).2 = (k.warn networkUp).2 := by
  have hflags : AgreesAsking c k := h.asking
  simp only [AgreesAsking] at hflags
  simp only [warn, TimeKeeping.warn]
  cases hasking : k.asking with
  | off =>
      simp only [hasking] at hflags
      obtain ⟨hwaiting, hquiet, hreference, hnews, hrunning, hwaits⟩ := hflags
      have hoff := ntp_off h hpending hasking
      rw [if_pos hoff]
      refine ⟨agrees_of_quiet h hnone c.policy k.asking ?_, rfl⟩
      simp [AgreesAsking, hasking, hwaiting, hquiet, hreference, hnews, hrunning, hoff]
  | unanswered since warned =>
      simp only [hasking] at hflags
      obtain ⟨hpolicy, hon, hsince, hrecent⟩ := hflags
      rw [if_neg (by simp [hon]), hpolicy]
      have hminute : warned = false → (millis k.time - millis since < TimeLogPolicy.noAnswerMs ↔ k.time < since + 60000) := by
        intro hwarned
        have := hrecent hwarned
        rw [UInt32.lt_iff_toNat_lt, toNat_sub_of_turn hsince (by omega)]
        show k.time - since < 60000 ↔ _
        omega
      cases networkUp with
      | false =>
          refine ⟨agrees_of_quiet h hnone ⟨true, warned, false, millis k.time⟩ (.unanswered k.time warned) ?_, rfl⟩
          exact ⟨rfl, hon, le_rfl, fun _ => by show k.time < k.time + 60000; omega⟩
      | true =>
          cases warned with
          | true =>
              simp only [TimeLogPolicy.tick, true_or, ↓reduceIte, Bool.true_eq_false]
              refine ⟨agrees_of_quiet h hnone ⟨true, true, false, millis since⟩ k.asking ?_, rfl⟩
              simp only [AgreesAsking, hasking]
              exact ⟨trivial, hon, hsince, fun hfirst => absurd hfirst.symm Bool.false_ne_true⟩
          | false =>
              by_cases hearly : k.time < since + 60000
              · have hshown := (hminute rfl).mpr hearly
                simp only [TimeLogPolicy.tick, hshown, hearly, or_true, ↓reduceIte, Bool.true_eq_false]
                refine ⟨agrees_of_quiet h hnone ⟨true, false, false, millis since⟩ k.asking ?_, rfl⟩
                simp only [AgreesAsking, hasking]
                exact ⟨trivial, hon, hsince, fun _ => hearly⟩
              · have hshown := mt (hminute rfl).mp hearly
                simp only [TimeLogPolicy.tick, hshown, hearly, or_false, ↓reduceIte, Bool.true_eq_false, Bool.false_eq_true]
                refine ⟨agrees_of_quiet h hnone ⟨true, true, false, millis since⟩ (.unanswered since true) ?_, ?_⟩
                · exact ⟨rfl, hon, hsince, fun hfirst => absurd hfirst.symm Bool.false_ne_true⟩
                · rw [h.active]
                  rfl
  | answered =>
      simp only [hasking] at hflags
      obtain ⟨hwaiting, hquiet, honce, hon, hreference⟩ := hflags
      rw [if_neg (by simp [hon])]
      simp only [TimeLogPolicy.tick, hwaiting, ↓reduceIte]
      refine ⟨agrees_of_quiet h hnone c.policy k.asking ?_, rfl⟩
      simp [AgreesAsking, hasking, hwaiting, hquiet, honce, hon, hreference]

theorem agrees_publishState (h : Agrees c k) (hpending : c.pending = none) :
    Agrees c.publishState { k with shown := (k.state, k.settings) } := by
  refine ⟨h.pending, h.active, h.synced, h.reference, h.news, h.asking, h.lastPoll, ?_⟩
  have hflags : AgreesAsking c k := h.asking
  have hreference := h.reference
  simp only [AgreesAsking] at hflags
  simp only [publishState, TimeKeeping.state, h.active]
  have hvalid : c.clock.valid = k.reference.isSome := by
    cases hanswer : k.reference with
    | none =>
        simp only [hanswer] at hreference
        exact hreference
    | some answer =>
        simp only [hanswer] at hreference
        rw [hreference.1]
        rfl
  rw [← h.active, hvalid]
  cases hasking : k.asking with
  | off => rw [if_pos (ntp_off h hpending hasking)]
  | unanswered since warned =>
      simp only [hasking] at hflags
      simp [hflags]
  | answered =>
      simp only [hasking] at hflags
      simp [hflags]

theorem agrees_poll (h : Agrees c k) {readAfter : Nat} (hsoon : k.time + readAfter < k.lastPoll + 2 ^ 31) (networkUp : Bool) :
    Agrees (c.poll networkUp (millis k.time) (millis (k.time + readAfter))).1 (k.poll networkUp readAfter).1
      ∧ timeLines (c.poll networkUp (millis k.time) (millis (k.time + readAfter))).2 = (k.poll networkUp readAfter).2 := by
  obtain ⟨htaken, hchanged, hpending⟩ := agrees_takeUp h
  obtain ⟨htime, hlast⟩ := takeUp_times k
  simp only [poll, TimeKeeping.poll]
  generalize c.takeUp (millis k.time) = taken at htaken hchanged hpending
  generalize k.takeUp = taking at htaken hchanged htime hlast
  obtain ⟨hstarted, hsilent⟩ := agrees_start htaken hpending networkUp
  have hnothing : (taken.1.start networkUp).1.pending = none := by
    simp only [start]
    split <;> exact hpending
  generalize taken.1.start networkUp = started at hstarted hsilent hnothing
  rw [htime]
  obtain ⟨htold, hsynced⟩ := agrees_takeSync hstarted
    (show taking.1.time ≤ k.time + readAfter ∧ k.time + readAfter < taking.1.lastPoll + 2 ^ 31 by omega)
  obtain ⟨hsametime, hsamelast, hnone⟩ := takeNews_times taking.1 (k.time + readAfter)
  have hstill : (started.1.takeSync (millis (k.time + readAfter))).1.pending = none := by
    simp only [takeSync]
    split <;> exact hnothing
  generalize started.1.takeSync (millis (k.time + readAfter)) = told at htold hsynced hstill
  generalize taking.1.takeNews (k.time + readAfter) = telling at htold hsynced hsametime hsamelast hnone
  rw [← htime, ← hsametime]
  obtain ⟨hwarned, hdue⟩ := agrees_warn htold hstill (by omega) hnone networkUp
  have hend : (told.1.warn networkUp (millis telling.1.time)).1.pending = none := by
    simp only [warn]
    split <;> exact hstill
  have hwarntime := warn_time networkUp telling.1
  generalize told.1.warn networkUp (millis telling.1.time) = warned at hwarned hdue hend
  generalize telling.1.warn networkUp = warning at hwarned hdue hwarntime
  rw [← hwarntime] at hwarned
  refine ⟨agrees_publishState hwarned hend, ?_⟩
  rw [timeLines_append, timeLines_append, timeLines_append, hchanged, hsilent, hsynced, hdue, List.nil_append]

theorem asking_kept (h : AgreesAsking c k) (elapsed : Nat) {next : Option (TimeSettings × String)}
    (hnext : c.pending.isSome = true → next.isSome = true) :
    AgreesAsking { c with pending := next } { k with time := k.time + elapsed, pending := next } := by
  cases hasking : k.asking with
  | off =>
      simp only [AgreesAsking, hasking] at h ⊢
      exact ⟨h.1, h.2.1, h.2.2.1, h.2.2.2.1, h.2.2.2.2.1, fun hon => hnext (h.2.2.2.2.2 hon)⟩
  | unanswered since warned =>
      simp only [AgreesAsking, hasking] at h ⊢
      exact ⟨h.1, h.2.1, h.2.2.1.trans (Nat.le_add_right _ _), h.2.2.2⟩
  | answered =>
      simp only [AgreesAsking, hasking] at h ⊢
      exact h

theorem agrees_later (h : Agrees c k) (elapsed : Nat) : Agrees c { k with time := k.time + elapsed } := by
  refine ⟨h.pending, h.active, h.synced, ?_, h.news, ?_, h.lastPoll.trans (Nat.le_add_right _ _), h.shown⟩
  · have hreference := h.reference
    cases hanswer : k.reference with
    | none =>
        simp only [hanswer] at hreference
        exact hreference
    | some answer =>
        simp only [hanswer] at hreference
        exact ⟨hreference.1, hreference.2.trans (Nat.le_add_right _ _)⟩
  · exact asking_kept h.asking elapsed id

theorem agrees_configure (h : Agrees c k) (settings : TimeSettings) (who : String) :
    Agrees (c.configure settings who) { k with pending := some (settings.sanitize, who) } :=
  ⟨rfl, h.active, h.synced, h.reference, h.news, asking_kept h.asking 0 fun _ => rfl, h.lastPoll, h.shown⟩

/-- An answer while the time is asked for. -/
theorem agrees_onSync (h : Agrees c k) (hrunning : c.sntpRunning = true) (epochMs : Int) :
    Agrees (c.onSync epochMs (millis k.time)) { k with reference := some (epochMs, k.time), news := true } := by
  refine ⟨h.pending, h.active, rfl, ⟨rfl, le_rfl⟩, fun _ => ⟨epochMs, k.time, rfl, h.lastPoll⟩, ?_, h.lastPoll, h.shown⟩
  have hflags : AgreesAsking c k := h.asking
  cases hasking : k.asking with
  | off =>
      simp only [AgreesAsking, hasking] at hflags
      exact absurd (hrunning.symm.trans hflags.2.2.2.2.1) (Bool.false_ne_true ∘ Eq.symm)
  | unanswered since warned =>
      simp only [AgreesAsking, hasking] at hflags ⊢
      exact hflags
  | answered =>
      simp only [AgreesAsking, hasking] at hflags ⊢
      exact ⟨hflags.1, hflags.2.1, hflags.2.2.1, hflags.2.2.2.1, rfl⟩

theorem agrees_initial (settings : TimeSettings) : Agrees (initial.configure settings "") (TimeKeeping.initial settings) :=
  ⟨rfl, rfl, rfl, rfl, fun hnews => absurd hnews Bool.false_ne_true, ⟨rfl, rfl, rfl, rfl, rfl, fun _ => rfl⟩, le_rfl, rfl⟩

end NtpClock

/-! ### Runs -/

namespace TimeTrace

open NtpClock

/-- The clock has written what is due, shows the state, and gives the time of every moment within 24 days of the answer. -/
structure Kept (t : TimeTrace) : Prop where
  lines : t.written = t.due
  shown : t.clock.shown = t.keeping.shown
  settings : t.clock.active = t.keeping.settings
  time : ∀ moment, (∀ epochMs answered, t.keeping.reference = some (epochMs, answered) →
      answered ≤ moment + 2 ^ 31 ∧ moment < answered + 2 ^ 31) →
    t.clock.epochMsAt (millis moment) = t.keeping.timeAt moment

theorem agrees_step {t : TimeTrace} {e : Nat × ClockEvent} (hpromised : Promised t e)
    (h : Agrees t.clock t.keeping ∧ t.written = t.due) :
    Agrees (t.step e).clock (t.step e).keeping ∧ (t.step e).written = (t.step e).due := by
  obtain ⟨hagrees, hlines⟩ := h
  obtain ⟨elapsed, event⟩ := e
  have hlater := agrees_later hagrees elapsed
  cases event with
  | configure settings who =>
      refine ⟨agrees_configure hlater settings who, ?_⟩
      show t.written ++ [] = t.due ++ []
      rw [hlines]
  | sync epochMs =>
      refine ⟨agrees_onSync hlater hpromised epochMs, ?_⟩
      show t.written ++ [] = t.due ++ []
      rw [hlines]
  | poll networkUp readAfter =>
      obtain ⟨hpolled, hsame⟩ := agrees_poll hlater hpromised networkUp
      refine ⟨hpolled, ?_⟩
      simp only [step, NtpClock.step, TimeKeeping.step]
      rw [hlines, ← hsame]

/-- In every run in which answers come only while they are asked for and the loop goes round, the clock keeps the time. -/
theorem clock_run (settings : TimeSettings) (events : List (Nat × ClockEvent))
    (hevents : Along Promised step (initial settings) events) : Kept (run step (initial settings) events) := by
  obtain ⟨hagrees, hlines⟩ := run_along (P := fun t => Agrees t.clock t.keeping ∧ t.written = t.due)
    ⟨agrees_initial settings, rfl⟩ (fun _ _ hpromised h => agrees_step hpromised h) events hevents
  exact ⟨hlines, hagrees.shown, hagrees.active, fun _ hnear => agrees_epochMsAt hagrees hnear⟩

/-- A server that answers after a minute: the first line tells that it has not, the second that it has. -/
def lateAnswer : List (Nat × ClockEvent) :=
  [(1000, .poll true 0), (60000, .poll true 1), (500, .sync 1700000000000), (10, .poll true 1)]

theorem clock_run_lateAnswer :
    (run step (initial timeDefaults) lateAnswer).written
        = [.noAnswer "pool.ntp.org", .synchronized "pool.ntp.org" 1700000000011]
      ∧ Kept (run step (initial timeDefaults) lateAnswer) :=
  ⟨by decide +kernel, clock_run timeDefaults lateAnswer (by decide +kernel)⟩

end TimeTrace

end EspNut
