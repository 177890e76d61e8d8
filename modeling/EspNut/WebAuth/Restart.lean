import EspNut.Lib.Run
import EspNut.WebAuth.SessionTable

/-!
# Sessions over a restart

While every save succeeds, the storage holds the persistent sessions in memory after each call. A restart then loads exactly these, whatever their sequence numbers become, and no volatile session.
-/

namespace EspNut.SessionTable

open Lib

variable {sha256 : String → Digest}

/-- A boot: an empty table, loaded from the storage. -/
def reboot (saved : Bool) (s : Sessions) : Sessions :=
  begin (some s.stored) saved { table := initial, stored := s.stored }

/-- The storage holds the persistent sessions in memory. -/
def Synced (s : Sessions) : Prop := s.stored.take kMaxPersistentSessions = s.table.persisted

theorem take_persisted (table : SessionTable) : table.persisted.take kMaxPersistentSessions = table.persisted :=
  List.take_of_length_le (length_persisted_le table)

theorem persisted_of_zero {table : SessionTable} (h : table.persistent = fun _ => PersistentSlot.zero) :
    table.persisted = [] := by
  rw [persisted_eq_nil_iff]
  intro i
  rw [h]
  rfl

theorem persisted_of_only {table : SessionTable} {hash : Digest} {seq : UInt32}
    (h : table.persistent = Function.update (fun _ => PersistentSlot.zero) 0 ⟨hash, seq, true⟩) :
    table.persisted = [⟨hash, seq⟩] := by
  unfold persisted
  rw [h]
  rfl

theorem step_synced {s : Sessions} {event : SessionEvent} (hsaved : event.saved = true) (h : Synced s) :
    Synced (step sha256 s event) := by
  have htake := take_persisted (step sha256 s event).table
  unfold Synced at *
  cases step_persistence sha256 s event with
  | same hcreated hslots hseq hstored => rw [hstored, h, persisted_congr hslots]
  | added token htoken hcreated hslots hseq hstored => rw [hstored, if_pos hsaved, htake]
  | removed i hcreated hslots hseq hstored => rw [hstored, if_pos hsaved, htake]
  | emptied hcreated hslots hseq hstored =>
      rw [persisted_of_zero hslots]
      rcases hstored with hstored | ⟨hstored, hnone⟩
      · rw [hstored, List.take_nil]
      · rw [hstored, h, hnone]
  | only token htoken hcreated hslots hseq hstored =>
      rw [persisted_of_only hslots, hstored]
      rfl

/-! ### What a boot loads -/

theorem filterMap_getElem? {α : Type} (l : List α) (n : Nat) : (List.range n).filterMap (fun i => l[i]?) = l.take n := by
  induction n with
  | zero => rfl
  | succ n ih =>
      rw [List.range_succ, List.filterMap_append, ih, List.take_add_one]
      cases hget : l[n]? with
      | none => simp [hget]
      | some a => simp [hget]

theorem persisted_loadedSlots {table : SessionTable} {loaded : List PersistentSession}
    (h : table.persistent = loadedSlots loaded) : table.persisted = loaded.take kMaxPersistentSessions := by
  have hslot : ∀ i : Fin kMaxPersistentSessions,
      (if (loadedSlots loaded i).used then some ⟨(loadedSlots loaded i).hash, (loadedSlots loaded i).seq⟩ else none)
        = loaded[i.val]? := by
    intro i
    unfold loadedSlots
    cases loaded[i.val]? <;> rfl
  unfold persisted
  rw [h, ← filterMap_getElem?, ← List.map_coe_finRange_eq_range, List.filterMap_map]
  congr 1
  funext i
  exact hslot i

/-- Sequence numbers aside, the slots are the same. -/
def SameHashes (slots other : Fin kMaxPersistentSessions → PersistentSlot) : Prop :=
  ∀ i, (other i).hash = (slots i).hash ∧ (other i).used = (slots i).used

theorem renumberRound_sameHashes (count n : Nat)
    (state : (Fin kMaxPersistentSessions → Bool) × (Fin kMaxPersistentSessions → PersistentSlot)) :
    SameHashes state.2 (renumberRound count state n).2 := by
  intro i
  unfold renumberRound
  split
  · exact ⟨rfl, rfl⟩
  · rename_i pick hpick
    by_cases hi : i = pick
    · subst hi
      dsimp only
      rw [Function.update_self]
      exact ⟨rfl, rfl⟩
    · dsimp only
      rw [Function.update_of_ne hi]
      exact ⟨rfl, rfl⟩

theorem renumber_sameHashes (count : Nat) (slots : Fin kMaxPersistentSessions → PersistentSlot) :
    SameHashes slots (renumber count slots) := by
  have hall : ∀ (rounds : List Nat) state, SameHashes slots state.2 →
      SameHashes slots (rounds.foldl (renumberRound count) state).2 := by
    intro rounds
    induction rounds with
    | nil => exact fun _ h => h
    | cons n rest ih =>
        intro state h
        apply ih
        intro i
        obtain ⟨hhash, hused⟩ := renumberRound_sameHashes count n state i
        exact ⟨hhash.trans (h i).1, hused.trans (h i).2⟩
  exact hall _ _ fun i => ⟨rfl, rfl⟩

/-- The digests in memory after a boot are the ones of the storage, and no session is volatile. -/
theorem reboot_table (saved : Bool) (s : Sessions) :
    SameHashes (loadedSlots (s.stored.take kMaxPersistentSessions)) (reboot saved s).table.persistent
      ∧ ∀ i, (reboot saved s).table.slots i = Slot.zero := by
  unfold reboot begin
  dsimp only
  rw [Option.getD_some]
  split
  · cases saved with
    | false => exact ⟨renumber_sameHashes _ _, fun i => rfl⟩
    | true => exact ⟨renumber_sameHashes _ _, fun i => rfl⟩
  · exact ⟨fun i => ⟨rfl, rfl⟩, fun i => rfl⟩

theorem reboot_synced (s : Sessions) : Synced (reboot true s) := by
  have hloaded : ∀ table : SessionTable, table.persistent = loadedSlots (s.stored.take kMaxPersistentSessions) →
      Synced ⟨table, s.stored⟩ := by
    intro table h
    unfold Synced
    rw [persisted_loadedSlots h, List.take_take, Nat.min_self]
  unfold reboot begin
  dsimp only
  rw [Option.getD_some]
  split
  · exact take_persisted _
  · exact hloaded _ rfl

theorem holdsPersistent_loaded {table : SessionTable} {loaded : List PersistentSession} {hash : Digest}
    (h : SameHashes (loadedSlots (loaded.take kMaxPersistentSessions)) table.persistent) :
    (∃ i, holdsPersistent table hash i = true)
      ↔ ∃ session ∈ loaded.take kMaxPersistentSessions, session.hash = hash := by
  constructor
  · rintro ⟨i, hi⟩
    obtain ⟨hused, hhash⟩ := holdsPersistent_iff.mp hi
    obtain ⟨hsameHash, hsameUsed⟩ := h i
    unfold loadedSlots at hsameHash hsameUsed
    cases hget : (loaded.take kMaxPersistentSessions)[i.val]? with
    | none =>
        rw [hget, hused] at hsameUsed
        cases hsameUsed
    | some session =>
        rw [hget, hhash] at hsameHash
        exact ⟨session, List.mem_of_getElem? hget, hsameHash.symm⟩
  · rintro ⟨session, hmem, rfl⟩
    obtain ⟨i, hi, hget⟩ := List.mem_iff_getElem.mp hmem
    have hlt : i < kMaxPersistentSessions := lt_of_lt_of_le hi (List.length_take_le _ _)
    obtain ⟨hsameHash, hsameUsed⟩ := h ⟨i, hlt⟩
    unfold loadedSlots at hsameHash hsameUsed
    rw [List.getElem?_eq_getElem hi, hget] at hsameHash hsameUsed
    exact ⟨⟨i, hlt⟩, holdsPersistent_iff.mpr ⟨hsameUsed, hsameHash⟩⟩

theorem exists_mem_persisted_iff {table : SessionTable} {hash : Digest} :
    (∃ session ∈ table.persisted, session.hash = hash) ↔ ∃ i, holdsPersistent table hash i = true := by
  constructor
  · rintro ⟨session, hmem, rfl⟩
    obtain ⟨i, hused, rfl⟩ := mem_persisted.mp hmem
    exact ⟨i, holdsPersistent_iff.mpr ⟨hused, rfl⟩⟩
  · rintro ⟨i, hi⟩
    obtain ⟨hused, hhash⟩ := holdsPersistent_iff.mp hi
    exact ⟨_, mem_persisted.mpr ⟨i, hused, rfl⟩, hhash⟩

/-! ### What a boot accepts -/

def IsPersistentToken (sha256 : String → Digest) (table : SessionTable) (token : String) : Prop :=
  ∃ i, findSlot sha256 table token = some (.persistent i)

theorem validate_of_isPersistentToken {table : SessionTable} {token : String}
    (h : IsPersistentToken sha256 table token) (now : UInt32) : (validate sha256 token now table).1 = true := by
  obtain ⟨i, hi⟩ := h
  unfold validate
  rw [hi]

/-- Without volatile sessions a token validates exactly when it is the one of a persistent session. -/
theorem validate_iff_of_no_volatile {table : SessionTable} (hnone : ∀ i, table.slots i = Slot.zero) (token : String)
    (now : UInt32) : (validate sha256 token now table).1 = true ↔ IsPersistentToken sha256 table token := by
  refine ⟨fun h => ?_, fun h => validate_of_isPersistentToken h now⟩
  obtain ⟨hlength, ⟨i, hi⟩ | hpersistent⟩ := held_of_validate h
  · have hused := (holdsVolatile_iff.mp hi).1
    rw [hnone i] at hused
    exact absurd hused Bool.false_ne_true
  · exact (exists_findSlot_persistent_iff hlength).mpr hpersistent

theorem isPersistentToken_reboot {s : Sessions} (h : Synced s) (saved : Bool) (token : String) :
    IsPersistentToken sha256 (reboot saved s).table token ↔ IsPersistentToken sha256 s.table token := by
  by_cases hlength : token.toList.length = kTokenLength
  · unfold IsPersistentToken
    rw [exists_findSlot_persistent_iff hlength, exists_findSlot_persistent_iff hlength,
      holdsPersistent_loaded (reboot_table saved s).1, h, exists_mem_persisted_iff]
  · have hnone : ∀ table, ¬ IsPersistentToken sha256 table token := by
      rintro table ⟨i, hi⟩
      exact hlength (length_of_findSlot hi)
    exact iff_of_false (hnone _) (hnone _)

/-! ### Rounds -/

/-- The sessions with the tokens given out so far. -/
structure Ledger where
  sessions : Sessions
  tokens : List (String × Bool)

def ledgerStep (sha256 : String → Digest) (l : Ledger) (event : SessionEvent) : Ledger :=
  { sessions := step sha256 l.sessions event, tokens := l.tokens ++ issued sha256 l.sessions event }

/-- Calls, then a restart. -/
def roundStep (sha256 : String → Digest) (l : Ledger) (events : List SessionEvent) : Ledger :=
  let l := run (ledgerStep sha256) l events
  { l with sessions := reboot true l.sessions }

/-- The first boot, with whatever the storage holds. -/
def firstBoot (stored : List PersistentSession) : Ledger :=
  { sessions := reboot true { table := initial, stored }, tokens := [] }

/-- Every persistent session was issued as one or is one of those first stored. -/
def Origin (sha256 : String → Digest) (stored : List PersistentSession) (l : Ledger) : Prop :=
  ∀ hash, (∃ i, holdsPersistent l.sessions.table hash i = true) →
    (∃ session ∈ stored, session.hash = hash) ∨ ∃ token, (token, true) ∈ l.tokens ∧ sha256 token = hash

structure Accounted (sha256 : String → Digest) (stored : List PersistentSession) (l : Ledger) : Prop where
  synced : Synced l.sessions
  origin : Origin sha256 stored l

variable {stored : List PersistentSession}

theorem ledgerStep_origin {l : Ledger} (h : Origin sha256 stored l) (event : SessionEvent) :
    Origin sha256 stored (ledgerStep sha256 l event) := by
  intro hash hheld
  rcases persistent_step hheld with hbefore | ⟨token, hmem, htoken⟩
  · rcases h hash hbefore with hstored | ⟨token, hmem, htoken⟩
    · exact Or.inl hstored
    · exact Or.inr ⟨token, List.mem_append_left _ hmem, htoken⟩
  · exact Or.inr ⟨token, List.mem_append_right _ hmem, htoken⟩

theorem ledgerStep_accounted (l : Ledger) (event : SessionEvent) (hsaved : event.saved = true)
    (h : Accounted sha256 stored l) : Accounted sha256 stored (ledgerStep sha256 l event) :=
  ⟨step_synced hsaved h.synced, ledgerStep_origin h.origin event⟩

theorem firstBoot_accounted (stored : List PersistentSession) : Accounted sha256 stored (firstBoot stored) := by
  refine ⟨reboot_synced _, ?_⟩
  intro hash hheld
  obtain ⟨session, hmem, hhash⟩ := (holdsPersistent_loaded (reboot_table true _).1).mp hheld
  exact Or.inl ⟨session, List.mem_of_mem_take hmem, hhash⟩

theorem reboot_accounted {l : Ledger} (h : Accounted sha256 stored l) :
    Accounted sha256 stored { l with sessions := reboot true l.sessions } := by
  refine ⟨reboot_synced _, ?_⟩
  intro hash hheld
  apply h.origin
  rw [← exists_mem_persisted_iff, ← h.synced]
  exact (holdsPersistent_loaded (reboot_table true l.sessions).1).mp hheld

theorem run_accounted {l : Ledger} (h : Accounted sha256 stored l) (events : List SessionEvent)
    (hsaved : ∀ event ∈ events, event.saved = true) : Accounted sha256 stored (run (ledgerStep sha256) l events) :=
  run_invariant h (fun l event hevent hl => ledgerStep_accounted l event hevent hl) events hsaved

theorem rounds_accounted (rounds : List (List SessionEvent)) (hsaved : ∀ events ∈ rounds, ∀ event ∈ events, event.saved = true) :
    Accounted sha256 stored (run (roundStep sha256) (firstBoot stored) rounds) := by
  have hstep : ∀ l events, (∀ event ∈ events, SessionEvent.saved event = true) → Accounted sha256 stored l →
      Accounted sha256 stored (roundStep sha256 l events) :=
    fun l events hevents hl => reboot_accounted (run_accounted hl events hevents)
  exact run_invariant (firstBoot_accounted stored) hstep rounds hsaved

/-- After any rounds of calls and restarts, one more restart keeps exactly the persistent tokens, and none of the tokens issued for volatile sessions only. -/
theorem restart_keeps_persistent_tokens (stored : List PersistentSession) (rounds : List (List SessionEvent))
    (events : List SessionEvent) (hrounds : ∀ events ∈ rounds, ∀ event ∈ events, event.saved = true)
    (hevents : ∀ event ∈ events, event.saved = true) (before : Ledger)
    (hbefore : before = run (ledgerStep sha256) (run (roundStep sha256) (firstBoot stored) rounds) events)
    (hsha256 : Set.InjOn sha256 {token | ∃ persistent, (token, persistent) ∈ before.tokens}) :
    (∀ token now later, (validate sha256 token later (reboot true before.sessions).table).1 = true
      ↔ (validate sha256 token now before.sessions.table).1 = true ∧ IsPersistentToken sha256 before.sessions.table token)
    ∧ ∀ token, (token, false) ∈ before.tokens → (token, true) ∉ before.tokens →
      (∀ session ∈ stored, session.hash ≠ sha256 token) →
      ∀ later, (validate sha256 token later (reboot true before.sessions).table).1 = false := by
  have haccounted : Accounted sha256 stored before := by
    rw [hbefore]
    exact run_accounted (rounds_accounted rounds hrounds) events hevents
  have hafter : ∀ token later, (validate sha256 token later (reboot true before.sessions).table).1 = true
      ↔ IsPersistentToken sha256 before.sessions.table token := fun token later =>
    (validate_iff_of_no_volatile (reboot_table true before.sessions).2 token later).trans
      (isPersistentToken_reboot haccounted.synced true token)
  constructor
  · intro token now later
    rw [hafter]
    exact ⟨fun h => ⟨validate_of_isPersistentToken h now, h⟩, fun h => h.2⟩
  · intro token hvolatile hnot hstored later
    by_contra hvalid
    rw [Bool.not_eq_false, hafter] at hvalid
    obtain ⟨i, hi⟩ := hvalid
    rcases haccounted.origin _ ⟨i, findSlot_persistent hi⟩ with ⟨session, hmem, hhash⟩ | ⟨other, hmem, hhash⟩
    · exact hstored session hmem hhash
    · obtain rfl := hsha256 ⟨true, hmem⟩ ⟨false, hvolatile⟩ hhash
      exact hnot hmem

/-- A remembered session made before the first restart, and a volatile one made after it. -/
def remembered : Ledger :=
  run (ledgerStep textDigest)
    (run (roundStep textDigest) (firstBoot []) [[.create 0 true (rawToken 1) true]])
    [.create 5 false (rawToken 2) true]

theorem restart_keeps_remembered :
    (validate textDigest (hexToken (rawToken 1)) 7 (reboot true remembered.sessions).table).1 = true
      ∧ (validate textDigest (hexToken (rawToken 2)) 7 (reboot true remembered.sessions).table).1 = false := by
  have hsha256 : Set.InjOn textDigest {token | ∃ persistent, (token, persistent) ∈ remembered.tokens} := by
    have hall : ∀ a ∈ remembered.tokens, ∀ b ∈ remembered.tokens, textDigest a.1 = textDigest b.1 → a.1 = b.1 := by
      decide +kernel
    rintro token ⟨p, hp⟩ other ⟨q, hq⟩ heq
    exact hall (token, p) hp (other, q) hq heq
  have hkeeps := restart_keeps_persistent_tokens [] [[.create 0 true (rawToken 1) true]]
    [.create 5 false (rawToken 2) true] (by simp [SessionEvent.saved]) (by simp [SessionEvent.saved]) remembered rfl hsha256
  refine ⟨(hkeeps.1 (hexToken (rawToken 1)) 6 7).mpr ⟨by decide +kernel, ⟨0, by decide +kernel⟩⟩, ?_⟩
  exact hkeeps.2 (hexToken (rawToken 2)) (by decide +kernel) (by decide +kernel) (by simp) 7

end EspNut.SessionTable
