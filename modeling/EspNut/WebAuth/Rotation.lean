import EspNut.Lib.Run
import EspNut.WebAuth.SessionTable

/-!
# Closing every session

A rotation and a clear close all sessions but a fresh one, or change nothing. A rotation does not write the storage when no persistent session is in memory, so what a failed removal left there stays.
-/

namespace EspNut.SessionTable

open Lib

variable {sha256 : String → Digest}

/-- Of the tokens told apart by their digests only the fresh one validates, none when it is empty. -/
def OnlyFresh (sha256 : String → Digest) (table : SessionTable) (fresh : String) : Prop :=
  ∀ tokens : Set String, fresh ∈ tokens → Set.InjOn sha256 tokens → ∀ token ∈ tokens, ∀ now,
    (validate sha256 token now table).1 = true → fresh ≠ "" ∧ token = fresh

/-- A success leaves the fresh session as the only one, in memory and in the storage; a failure leaves everything. -/
structure AllOrNothing (sha256 : String → Digest) (before : Sessions) (ok : Bool) (fresh : String) (now : UInt32)
    (after : Sessions) : Prop where
  onlyFresh : ok = true → OnlyFresh sha256 after.table fresh
  valid : ok = true → fresh ≠ "" → (validate sha256 fresh now after.table).1 = true
  stored : ok = true → after.stored = after.table.persisted
  unchanged : ok = false → after = before

/-! ### Only one session -/

theorem not_used_of_zero {i : Fin kMaxPersistentSessions} {hash : Digest} {table : SessionTable}
    (h : table.persistent i = PersistentSlot.zero) : holdsPersistent table hash i = false := by
  unfold holdsPersistent
  rw [h]
  rfl

theorem not_volatile_of_zero {i : Fin kMaxSessions} {hash : Digest} {table : SessionTable}
    (h : table.slots i = Slot.zero) : holdsVolatile table hash i = false := by
  unfold holdsVolatile
  rw [h]
  rfl

theorem slots_onlySession {i : Fin kMaxSessions} (h : i ≠ 0) (persistent : Bool) (hash : Digest) (now : UInt32)
    (table : SessionTable) : (onlySession persistent hash now table).slots i = Slot.zero := by
  cases persistent with
  | true => rfl
  | false => exact Function.update_of_ne h _ (fun _ => Slot.zero)

theorem persistent_onlySession {i : Fin kMaxPersistentSessions} (h : i ≠ 0) (persistent : Bool) (hash : Digest)
    (now : UInt32) (table : SessionTable) :
    (onlySession persistent hash now table).persistent i = PersistentSlot.zero := by
  cases persistent with
  | true => exact Function.update_of_ne h _ (fun _ => PersistentSlot.zero)
  | false => rfl

/-- Every session of the new table has the digest of the fresh token. -/
theorem hash_of_onlySession {persistent : Bool} {hash other : Digest} {now : UInt32} {table : SessionTable}
    (h : (∃ i, holdsVolatile (onlySession persistent hash now table) other i = true)
      ∨ ∃ i, holdsPersistent (onlySession persistent hash now table) other i = true) : other = hash := by
  rcases h with ⟨i, hi⟩ | ⟨i, hi⟩
  · by_cases hzero : i = 0
    · subst hzero
      cases persistent with
      | false => exact (holdsVolatile_iff.mp hi).2.symm
      | true => exact absurd (holdsVolatile_iff.mp hi).1 Bool.false_ne_true
    · rw [not_volatile_of_zero (slots_onlySession hzero persistent hash now table)] at hi
      exact absurd hi Bool.false_ne_true
  · by_cases hzero : i = 0
    · subst hzero
      cases persistent with
      | false => exact absurd (holdsPersistent_iff.mp hi).1 Bool.false_ne_true
      | true => exact (holdsPersistent_iff.mp hi).2.symm
    · rw [not_used_of_zero (persistent_onlySession hzero persistent hash now table)] at hi
      exact absurd hi Bool.false_ne_true

theorem onlyFresh_onlySession (persistent : Bool) (raw : Fin kTokenBytes → Byte) (now : UInt32) (table : SessionTable) :
    OnlyFresh sha256 (onlySession persistent (sha256 (hexToken raw)) now table) (hexToken raw) := by
  intro tokens hfresh hinj token htoken later hvalid
  have hhash := hash_of_onlySession (held_of_validate hvalid).2
  exact ⟨hexToken_ne_empty raw, hinj htoken hfresh hhash⟩

theorem not_isExpired_self (hash : Digest) (now : UInt32) (used : Bool) : isExpired ⟨hash, now, used⟩ now = false := by
  unfold isExpired
  rw [UInt32.sub_self]
  rfl

theorem validate_onlySession (persistent : Bool) (raw : Fin kTokenBytes → Byte) (now : UInt32) (table : SessionTable) :
    (validate sha256 (hexToken raw) now (onlySession persistent (sha256 (hexToken raw)) now table)).1 = true := by
  have hlength := length_hexToken raw
  cases persistent with
  | true =>
      have hheld : holdsPersistent (onlySession true (sha256 (hexToken raw)) now table) (sha256 (hexToken raw)) 0 = true :=
        holdsPersistent_iff.mpr ⟨rfl, rfl⟩
      obtain ⟨i, hi⟩ := (exists_findSlot_persistent_iff hlength).mpr ⟨0, hheld⟩
      unfold validate
      rw [hi]
  | false =>
      have hheld : holdsVolatile (onlySession false (sha256 (hexToken raw)) now table) (sha256 (hexToken raw)) 0 = true :=
        holdsVolatile_iff.mpr ⟨rfl, rfl⟩
      obtain ⟨index, hindex⟩ := exists_findSlot_of_volatile hlength hheld
      cases index with
      | persistent i =>
          unfold validate
          rw [hindex]
      | volatile i =>
          have hzero : i = 0 := by
            by_contra hne
            have hfound := (findSlot_volatile hindex).1
            rw [not_volatile_of_zero (slots_onlySession hne false _ now table)] at hfound
            exact Bool.false_ne_true hfound
          subst hzero
          unfold validate
          rw [hindex]
          show (if isExpired ⟨sha256 (hexToken raw), now, true⟩ now then _ else _ : Bool × SessionTable).1 = true
          rw [not_isExpired_self]
          rfl

theorem persisted_onlySession_false (hash : Digest) (now : UInt32) (table : SessionTable) :
    (onlySession false hash now table).persisted = [] := rfl

/-- After a rotation that succeeds the fresh token has the only session, if there is a fresh token. -/
theorem held_rotateExclusive {token : String} {now : UInt32} {raw : Fin kTokenBytes → Byte} {saved : Bool} {s : Sessions}
    {hash : Digest} (hok : (rotateExclusive sha256 token now raw saved s).1.ok = true)
    (h : Held (rotateExclusive sha256 token now raw saved s).2.table hash) :
    (rotateExclusive sha256 token now raw saved s).1.fresh ≠ ""
      ∧ sha256 (rotateExclusive sha256 token now raw saved s).1.fresh = hash := by
  cases hfound : findSlot sha256 s.table token with
  | none =>
      rw [rotateExclusive_of_none hfound] at hok h
      cases saved with
      | false => exact absurd hok Bool.false_ne_true
      | true =>
          rcases h with ⟨i, hi⟩ | ⟨i, hi⟩
          · rw [not_volatile_of_zero rfl] at hi
            exact absurd hi Bool.false_ne_true
          · rw [not_used_of_zero rfl] at hi
            exact absurd hi Bool.false_ne_true
  | some index =>
      by_cases hsaved : rotationSaved index.isPersistent saved s.table = false
      · rw [rotateExclusive_of_not_saved hfound hsaved] at hok
        exact absurd hok Bool.false_ne_true
      · rw [rotateExclusive_of_saved hfound hsaved] at h ⊢
        exact ⟨hexToken_ne_empty raw, (hash_of_onlySession h).symm⟩

theorem ok_of_fresh {token : String} {now : UInt32} {raw : Fin kTokenBytes → Byte} {saved : Bool} {s : Sessions}
    (h : (rotateExclusive sha256 token now raw saved s).1.fresh ≠ "") :
    (rotateExclusive sha256 token now raw saved s).1.ok = true := by
  cases hfound : findSlot sha256 s.table token with
  | none =>
      rw [rotateExclusive_of_none hfound] at h
      exact absurd rfl h
  | some index =>
      by_cases hsaved : rotationSaved index.isPersistent saved s.table = false
      · rw [rotateExclusive_of_not_saved hfound hsaved] at h
        exact absurd rfl h
      · rw [rotateExclusive_of_saved hfound hsaved]

/-! ### The operations -/

theorem clear_all_or_nothing (saved : Bool) (now : UInt32) (s : Sessions) :
    AllOrNothing sha256 s (clear saved s).1 "" now (clear saved s).2 := by
  cases saved with
  | false => exact ⟨by simp [clear], by simp [clear], by simp [clear], fun _ => rfl⟩
  | true =>
      refine ⟨fun _ => ?_, fun _ hne => absurd rfl hne, fun _ => rfl, fun h => absurd h.symm Bool.false_ne_true⟩
      intro tokens _ _ token _ later hvalid
      rcases (held_of_validate hvalid).2 with ⟨i, hi⟩ | ⟨i, hi⟩
      · rw [not_volatile_of_zero rfl] at hi
        exact absurd hi Bool.false_ne_true
      · rw [not_used_of_zero rfl] at hi
        exact absurd hi Bool.false_ne_true

/-- The rotation of a volatile session that finds no persistent one in memory, but some in the storage. -/
def LeavesStored (sha256 : String → Digest) (token : String) (s : Sessions) : Prop :=
  (∃ i, findSlot sha256 s.table token = some (.volatile i)) ∧ s.table.persistentCount = 0 ∧ s.stored ≠ []

theorem rotateExclusive_all_or_nothing_iff (token : String) (now : UInt32) (raw : Fin kTokenBytes → Byte) (saved : Bool)
    (s : Sessions) :
    AllOrNothing sha256 s (rotateExclusive sha256 token now raw saved s).1.ok
        (rotateExclusive sha256 token now raw saved s).1.fresh now (rotateExclusive sha256 token now raw saved s).2
      ↔ ¬ LeavesStored sha256 token s := by
  cases hfound : findSlot sha256 s.table token with
  | none =>
      rw [rotateExclusive_of_none hfound]
      refine iff_of_true (clear_all_or_nothing saved now s) ?_
      rintro ⟨⟨i, hi⟩, -⟩
      rw [hfound] at hi
      cases hi
  | some index =>
      by_cases hsaved : rotationSaved index.isPersistent saved s.table = false
      · rw [rotateExclusive_of_not_saved hfound hsaved]
        refine iff_of_true ⟨by simp, by simp, by simp, fun _ => rfl⟩ ?_
        rintro ⟨⟨i, hi⟩, hcount, -⟩
        obtain rfl : index = .volatile i := Option.some.inj (hfound.symm.trans hi)
        simp [rotationSaved, SlotIndex.isPersistent, hcount] at hsaved
      · have hstored : rotationStored index.isPersistent (sha256 (hexToken raw)) s
              = (onlySession index.isPersistent (sha256 (hexToken raw)) now s.table).persisted
            ↔ ¬ LeavesStored sha256 token s := by
          unfold LeavesStored
          rw [hfound]
          cases index with
          | persistent i => exact iff_of_true rfl (by simp)
          | volatile i =>
              rw [SlotIndex.isPersistent, persisted_onlySession_false, rotationStored, if_neg Bool.false_ne_true]
              by_cases hcount : s.table.persistentCount = 0
              · simp [hcount]
              · simp [hcount]
        rw [rotateExclusive_of_saved hfound hsaved, ← hstored]
        constructor
        · intro h
          exact h.stored rfl
        · intro h
          exact ⟨fun _ => onlyFresh_onlySession _ raw now s.table, fun _ _ => validate_onlySession _ raw now s.table,
            fun _ => h, fun hfalse => absurd hfalse.symm Bool.false_ne_true⟩

/-- Clear and rotation are all or nothing, unless the rotation leaves what only the storage holds. -/
theorem closing_all_or_nothing_iff (token : String) (now : UInt32) (raw : Fin kTokenBytes → Byte) (saved : Bool)
    (s : Sessions) :
    (AllOrNothing sha256 s (clear saved s).1 "" now (clear saved s).2
        ∧ AllOrNothing sha256 s (rotateExclusive sha256 token now raw saved s).1.ok
          (rotateExclusive sha256 token now raw saved s).1.fresh now
          (rotateExclusive sha256 token now raw saved s).2)
      ↔ ¬ LeavesStored sha256 token s :=
  (and_iff_right (clear_all_or_nothing saved now s)).trans (rotateExclusive_all_or_nothing_iff token now raw saved s)

/-- A persistent and a volatile session; the persistent one is removed, and the storage does not take it. -/
def leftover : Sessions :=
  run (step textDigest) { table := initial, stored := [] }
    [.create 0 true (rawToken 1) true, .create 0 false (rawToken 2) true, .remove (hexToken (rawToken 1)) false]

theorem rotation_leaves_stored :
    ¬ (AllOrNothing textDigest leftover (clear true leftover).1 "" 0 (clear true leftover).2
      ∧ AllOrNothing textDigest leftover
        (rotateExclusive textDigest (hexToken (rawToken 2)) 0 (rawToken 3) true leftover).1.ok
        (rotateExclusive textDigest (hexToken (rawToken 2)) 0 (rawToken 3) true leftover).1.fresh 0
        (rotateExclusive textDigest (hexToken (rawToken 2)) 0 (rawToken 3) true leftover).2) := by
  intro h
  have hok : (rotateExclusive textDigest (hexToken (rawToken 2)) 0 (rawToken 3) true leftover).1.ok = true := by
    decide +kernel
  exact absurd (h.2.stored hok) (by decide +kernel)

end EspNut.SessionTable
