import EspNut.Lib.Run
import EspNut.WebAuth.Restart

/-!
# Idle sessions

A volatile session expires after thirty minutes without use. The clock of 32 bits shows how long a session has been idle only modulo its turn, and a session nobody asks for keeps its slot, so it looks fresh again for thirty minutes of each later turn.
-/

namespace EspNut.SessionTable

open Lib

variable {sha256 : String → Digest}

/-- The real time of a call that has one. -/
def SessionEvent.time : SessionEvent → Option Nat
  | .create time _ _ _ => some time
  | .validate _ time => some time
  | .rotateExclusive _ time _ _ => some time
  | _ => none

def SlotIndex.asVolatile : SlotIndex → Option (Fin kMaxSessions)
  | .volatile i => some i
  | .persistent _ => none

/-- The volatile session a call makes or finds in use. -/
def touchedBy (sha256 : String → Digest) (s : Sessions) : SessionEvent → Option (Fin kMaxSessions)
  | .create time persistent _ _ => if persistent then none else some (s.table.pickSlot (Clock.millis time))
  | .validate token time =>
      ((findSlot sha256 s.table token).bind SlotIndex.asVolatile).filter fun i =>
        !isExpired (s.table.slots i) (Clock.millis time)
  | .rotateExclusive token _ _ saved =>
      if ((findSlot sha256 s.table token).bind SlotIndex.asVolatile).isSome && rotationSaved false saved s.table then
        some 0
      else none
  | _ => none

/-- The sessions with the real times at which the volatile ones were last made or used, and the time of the last call. -/
structure Timeline where
  sessions : Sessions
  touched : Fin kMaxSessions → Nat
  now : Nat

def timelineStart (stored : List PersistentSession) (saved : Bool) : Timeline :=
  { sessions := reboot saved { table := initial, stored }, touched := fun _ => 0, now := 0 }

def timelineStep (sha256 : String → Digest) (t : Timeline) (event : SessionEvent) : Timeline :=
  { sessions := step sha256 t.sessions event
    touched := match touchedBy sha256 t.sessions event with
      | some i => Function.update t.touched i (event.time.getD t.now)
      | none => t.touched
    now := event.time.getD t.now }

/-- Real time never goes back. -/
def InTime (t : Timeline) (event : SessionEvent) : Prop := ∀ time ∈ event.time, t.now ≤ time

instance (t : Timeline) (event : SessionEvent) : Decidable (InTime t event) :=
  inferInstanceAs (Decidable (∀ time ∈ event.time, t.now ≤ time))

/-- The slots show the time of the last use on the clock. -/
def Dated (t : Timeline) : Prop :=
  ∀ i, (t.sessions.table.slots i).used = true →
    (t.sessions.table.slots i).lastSeenMs = Clock.millis (t.touched i) ∧ t.touched i ≤ t.now

/-! ### What a call does to the volatile sessions -/

/-- The slots after a call: one is new or used now, and of the others some are freed. -/
structure Touches (before : Fin kMaxSessions → Slot) (index : Option (Fin kMaxSessions)) (time : Nat)
    (after : Fin kMaxSessions → Slot) : Prop where
  shown : ∀ i, index = some i → (after i).lastSeenMs = Clock.millis time
  others : ∀ i, index ≠ some i → (after i).used = true → after i = before i

theorem touches_refl (slots : Fin kMaxSessions → Slot) (time : Nat) : Touches slots none time slots :=
  ⟨fun _ h => (by cases h), fun _ _ _ => rfl⟩

theorem touches_zero (slots : Fin kMaxSessions → Slot) (time : Nat) : Touches slots none time fun _ => Slot.zero :=
  ⟨fun _ h => (by cases h), fun _ _ h => absurd h Bool.false_ne_true⟩

theorem touches_freed (slots : Fin kMaxSessions → Slot) (i : Fin kMaxSessions) (time : Nat) :
    Touches slots none time (Function.update slots i Slot.zero) := by
  refine ⟨fun _ h => (by cases h), ?_⟩
  intro j _ hused
  by_cases hj : j = i
  · rw [hj, Function.update_self] at hused
    exact absurd hused Bool.false_ne_true
  · rw [Function.update_of_ne hj]

theorem touches_update {slots base : Fin kMaxSessions → Slot} {i : Fin kMaxSessions} {time : Nat} {slot : Slot}
    (hslot : slot.lastSeenMs = Clock.millis time) (hbase : ∀ j, (base j).used = true → base j = slots j) :
    Touches slots (some i) time (Function.update base i slot) := by
  constructor
  · rintro j hj
    obtain rfl : i = j := Option.some.inj hj
    rw [Function.update_self]
    exact hslot
  · intro j hj hused
    have hne : j ≠ i := fun heq => hj (congrArg some heq.symm)
    rw [Function.update_of_ne hne] at hused ⊢
    exact hbase j hused

variable (sha256) in
theorem step_touches (s : Sessions) (event : SessionEvent) (now : Nat) :
    Touches s.table.slots (touchedBy sha256 s event) (event.time.getD now) (step sha256 s event).table.slots := by
  cases event with
  | create time persistent raw saved =>
      cases persistent with
      | true =>
          cases saved with
          | false => exact touches_refl _ _
          | true => exact touches_refl _ _
      | false => exact touches_update rfl fun _ _ => rfl
  | validate token time =>
      show Touches s.table.slots (((findSlot sha256 s.table token).bind SlotIndex.asVolatile).filter fun i =>
        !isExpired (s.table.slots i) (Clock.millis time)) time (validate sha256 token (Clock.millis time) s.table).2.slots
      unfold validate
      cases hfound : findSlot sha256 s.table token with
      | none => exact touches_refl _ _
      | some index =>
          cases index with
          | persistent i => exact touches_refl _ _
          | volatile i =>
              rw [Option.bind_some, SlotIndex.asVolatile]
              dsimp only
              by_cases hexpired : isExpired (s.table.slots i) (Clock.millis time) = true
              · rw [if_pos hexpired, Option.filter_some_neg (by simp [hexpired])]
                exact touches_freed _ i time
              · rw [if_neg hexpired, Option.filter_some_pos (by simpa using hexpired)]
                exact touches_update rfl fun _ _ => rfl
  | remove token saved =>
      show Touches s.table.slots none now (remove sha256 token saved s).2.table.slots
      unfold remove
      cases findSlot sha256 s.table token with
      | none => exact touches_refl _ _
      | some index =>
          cases index with
          | volatile i => exact touches_freed _ i now
          | persistent i =>
              cases saved with
              | false => exact touches_refl _ _
              | true => exact touches_refl _ _
  | rotateExclusive token time raw saved =>
      show Touches s.table.slots
        (if ((findSlot sha256 s.table token).bind SlotIndex.asVolatile).isSome && rotationSaved false saved s.table then
          some 0 else none)
        time (rotateExclusive sha256 token (Clock.millis time) raw saved s).2.table.slots
      cases hfound : findSlot sha256 s.table token with
      | none =>
          rw [rotateExclusive_of_none hfound]
          cases saved with
          | false => exact touches_refl _ _
          | true => exact touches_zero _ _
      | some index =>
          cases index with
          | persistent i =>
              cases saved with
              | false =>
                  rw [rotateExclusive_of_not_saved hfound rfl]
                  exact touches_refl _ _
              | true =>
                  rw [rotateExclusive_of_saved hfound (by simp [rotationSaved, SlotIndex.isPersistent])]
                  exact touches_zero _ _
          | volatile i =>
              rw [Option.bind_some, SlotIndex.asVolatile, Option.isSome_some, Bool.true_and]
              by_cases hsaved : rotationSaved false saved s.table = false
              · rw [rotateExclusive_of_not_saved hfound hsaved, hsaved, if_neg Bool.false_ne_true]
                exact touches_refl _ _
              · rw [rotateExclusive_of_saved hfound hsaved, if_pos (by simpa using hsaved)]
                exact touches_update rfl fun _ hused => absurd hused Bool.false_ne_true
  | clear saved =>
      cases saved with
      | false => exact touches_refl _ _
      | true => exact touches_zero _ _

theorem timelineStep_dated {t : Timeline} {event : SessionEvent} (htime : InTime t event) (h : Dated t) :
    Dated (timelineStep sha256 t event) := by
  have hnow : t.now ≤ event.time.getD t.now := by
    cases hevent : event.time with
    | none => exact le_rfl
    | some time => exact htime time hevent
  have htouches := step_touches sha256 t.sessions event t.now
  intro i hused
  unfold timelineStep at hused ⊢
  dsimp only at hused ⊢
  cases htouched : touchedBy sha256 t.sessions event with
  | none =>
      have hsame := htouches.others i (by rw [htouched]; exact fun h => (by cases h)) hused
      obtain ⟨hshown, hpast⟩ := h i (hsame ▸ hused)
      dsimp only
      rw [hsame]
      exact ⟨hshown, hpast.trans hnow⟩
  | some k =>
      dsimp only
      by_cases hik : i = k
      · subst hik
        rw [Function.update_self]
        exact ⟨htouches.shown i htouched, le_rfl⟩
      · have hsame := htouches.others i (by rw [htouched]; exact fun h => hik (Option.some.inj h).symm) hused
        obtain ⟨hshown, hpast⟩ := h i (hsame ▸ hused)
        rw [Function.update_of_ne hik, hsame]
        exact ⟨hshown, hpast.trans hnow⟩

/-! ### Expired sessions -/

/-- A volatile session that was neither made nor used for thirty minutes does not validate. -/
def StaysExpired (sha256 : String → Digest) (t : Timeline) : SessionEvent → Prop
  | .validate token time => ∀ i, findSlot sha256 t.sessions.table token = some (.volatile i) →
      t.touched i + 1800000 ≤ time → (validate sha256 token (Clock.millis time) t.sessions.table).1 = false
  | _ => True

/-- The clock shows that the session was idle for thirty minutes when it was. -/
def ShownIdle (sha256 : String → Digest) (t : Timeline) : SessionEvent → Prop
  | .validate token time => ∀ i, findSlot sha256 t.sessions.table token = some (.volatile i) →
      t.touched i + 1800000 ≤ time → 1800000 ≤ (time - t.touched i) % 2 ^ 32
  | _ => True

/-- A volatile session validates exactly when the clock shows less than thirty minutes since its last use. -/
theorem validate_volatile_iff {t : Timeline} {token : String} {time : Nat} {i : Fin kMaxSessions}
    (hdated : Dated t) (htime : t.now ≤ time)
    (hfound : findSlot sha256 t.sessions.table token = some (.volatile i)) :
    (validate sha256 token (Clock.millis time) t.sessions.table).1 = false ↔ 1800000 ≤ (time - t.touched i) % 2 ^ 32 := by
  have hused := (holdsVolatile_iff.mp (findSlot_volatile hfound).1).1
  obtain ⟨hshown, hpast⟩ := hdated i hused
  have hexpired : isExpired (t.sessions.table.slots i) (Clock.millis time) = true
      ↔ 1800000 ≤ (time - t.touched i) % 2 ^ 32 := by
    unfold isExpired
    rw [decide_eq_true_iff, UInt32.le_iff_toNat_le, hshown, Clock.toNat_sub (hpast.trans htime)]
    rfl
  rw [← hexpired]
  unfold validate
  rw [hfound]
  dsimp only
  split
  · rename_i hyes
    exact iff_of_true rfl hyes
  · rename_i hno
    exact iff_of_false (fun h => absurd h.symm Bool.false_ne_true) hno

/-- From a boot on, expired sessions stay expired exactly in the runs in which the clock shows every idle time of thirty minutes as one. -/
theorem expired_stay_expired_iff (stored : List PersistentSession) (saved : Bool) (events : List SessionEvent)
    (htimes : Along InTime (timelineStep sha256) (timelineStart stored saved) events) :
    Along (StaysExpired sha256) (timelineStep sha256) (timelineStart stored saved) events
      ↔ Along (ShownIdle sha256) (timelineStep sha256) (timelineStart stored saved) events := by
  have hstart : Dated (timelineStart stored saved) := by
    intro i hused
    rw [show (timelineStart stored saved).sessions.table.slots i = _ from
      (reboot_table saved { table := initial, stored }).2 i] at hused
    exact absurd hused Bool.false_ne_true
  refine along_congr hstart (fun t event htime h => timelineStep_dated htime h) ?_ events htimes
  intro t event htime hdated
  cases event with
  | validate token time =>
      refine forall_congr' fun i => forall_congr' fun hfound => forall_congr' fun _ => ?_
      exact validate_volatile_iff hdated (htime time rfl) hfound
  | create time persistent raw saved => exact Iff.rfl
  | remove token saved => exact Iff.rfl
  | rotateExclusive token time raw saved => exact Iff.rfl
  | clear saved => exact Iff.rfl

/-- A session made at the boot and asked for again after one turn of the clock and a second. -/
def oneTurnLater : List SessionEvent :=
  [.create 0 false (rawToken 1) true, .validate (hexToken (rawToken 1)) (2 ^ 32 + 1000)]

theorem expired_session_validates :
    ¬ Along (StaysExpired textDigest) (timelineStep textDigest) (timelineStart [] true) oneTurnLater := by
  rintro ⟨-, hexpired, -⟩
  exact absurd (hexpired 0 (by decide +kernel) (by decide +kernel)) (by decide +kernel)

/-- Two uses within thirty minutes, and one after an hour of silence. -/
def withinOneTurn : List SessionEvent :=
  [.create 0 false (rawToken 1) true, .validate (hexToken (rawToken 1)) 60000,
    .validate (hexToken (rawToken 1)) 3660000]

theorem expired_stay_expired_within_turn :
    Along (StaysExpired textDigest) (timelineStep textDigest) (timelineStart [] true) withinOneTurn
      ↔ Along (ShownIdle textDigest) (timelineStep textDigest) (timelineStart [] true) withinOneTurn :=
  expired_stay_expired_iff [] true withinOneTurn (by decide +kernel)

end EspNut.SessionTable
