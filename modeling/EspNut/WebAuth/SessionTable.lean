import EspNut.Lib.Slots
import EspNut.Lib.Clock
import EspNut.WebAuth.CredentialStore

/-!
# Sessions of the Web UI

A session is known by the SHA-256 of its token. A volatile session lives in memory and expires when it is not used; a persistent one is written to the storage too. The clock is the one of 32 bits, and each save may fail.
-/

namespace EspNut

open Lib

/-- A persistent session as the storage keeps it; the board has no calendar, so the sequence number tells its age. -/
structure PersistentSession where
  hash : Digest
  seq : UInt32
  deriving DecidableEq

structure Slot where
  hash : Digest
  lastSeenMs : UInt32
  used : Bool
  deriving DecidableEq

structure PersistentSlot where
  hash : Digest
  seq : UInt32
  used : Bool
  deriving DecidableEq

def Slot.zero : Slot := ⟨fun _ => 0, 0, false⟩

def PersistentSlot.zero : PersistentSlot := ⟨fun _ => 0, 0, false⟩

abbrev kMaxSessions : Nat := 8

abbrev kMaxPersistentSessions : Nat := 8

instance : NeZero kMaxSessions := Nat.instNeZeroSucc

structure SessionTable where
  slots : Fin kMaxSessions → Slot
  persistent : Fin kMaxPersistentSessions → PersistentSlot
  nextSeq : UInt32
  deriving DecidableEq

/-- The table and what its storage holds. -/
structure Sessions where
  table : SessionTable
  stored : List PersistentSession
  deriving DecidableEq

namespace SessionTable

def kIdleTimeoutMs : UInt32 := 30 * 60 * 1000

abbrev kTokenBytes : Nat := 16

def kTokenLength : Nat := kTokenBytes * 2

/-! ### Storage -/

/-- The persistent sessions in memory, as they are saved. -/
def persisted (table : SessionTable) : List PersistentSession :=
  (List.finRange kMaxPersistentSessions).filterMap fun i =>
    if (table.persistent i).used then some ⟨(table.persistent i).hash, (table.persistent i).seq⟩ else none

/-- A save replaces the whole set, or fails and leaves it. -/
def saveSessions (saved : Bool) (out : List PersistentSession) (s : Sessions) : Sessions :=
  if saved then { s with stored := out } else s

def savePersistent (saved : Bool) (s : Sessions) : Sessions := saveSessions saved s.table.persisted s

/-! ### Loading -/

def initial : SessionTable := { slots := fun _ => Slot.zero, persistent := fun _ => PersistentSlot.zero, nextSeq := 1 }

def loadedSlots (loaded : List PersistentSession) (i : Fin kMaxPersistentSessions) : PersistentSlot :=
  match loaded[i.val]? with
  | some session => ⟨session.hash, session.seq, true⟩
  | none => PersistentSlot.zero

def maxSeq (loaded : List PersistentSession) : UInt32 :=
  loaded.foldl (fun max session => if max < session.seq then session.seq else max) 0

def hasDuplicate (loaded : List PersistentSession) : Bool :=
  (List.range loaded.length).any fun i =>
    (List.range i).any fun j => (loaded.map PersistentSession.seq)[j]? = (loaded.map PersistentSession.seq)[i]?

/-- One round: the least sequence number that is not done gets the next new one. -/
def renumberRound (count : Nat)
    (state : (Fin kMaxPersistentSessions → Bool) × (Fin kMaxPersistentSessions → PersistentSlot)) (n : Nat) :
    (Fin kMaxPersistentSessions → Bool) × (Fin kMaxPersistentSessions → PersistentSlot) :=
  match Slots.least (fun i => decide (i.val < count) && !state.1 i) (fun i => (state.2 i).seq.toNat) with
  | none => state
  | some pick =>
      (Function.update state.1 pick true,
        Function.update state.2 pick { state.2 pick with seq := UInt32.ofNat n })

/-- The sequence numbers from 1 on, in the order of the old ones. -/
def renumber (count : Nat) (slots : Fin kMaxPersistentSessions → PersistentSlot) :
    Fin kMaxPersistentSessions → PersistentSlot :=
  ((List.range' 1 count).foldl (renumberRound count) (fun _ => false, slots)).2

/-- The sessions the storage gives are loaded; sequence numbers that are used up or not distinct start again. -/
def begin (loaded : Option (List PersistentSession)) (saved : Bool) (s : Sessions) : Sessions :=
  let loaded := (loaded.getD []).take kMaxPersistentSessions
  let slots := loadedSlots loaded
  if maxSeq loaded = 0xFFFFFFFF ∨ hasDuplicate loaded = true then
    savePersistent saved
      { s with table := { s.table with
          persistent := renumber loaded.length slots, nextSeq := UInt32.ofNat loaded.length + 1 } }
  else { s with table := { s.table with persistent := slots, nextSeq := maxSeq loaded + 1 } }

/-! ### Tokens -/

def kHex : List Char := "0123456789abcdef".toList

/-- The random bytes in hexadecimal digits. -/
def hexToken (raw : Fin kTokenBytes → Byte) : String :=
  String.ofList ((List.finRange kTokenBytes).flatMap fun i =>
    [kHex.getD ((raw i).toNat / 16) '0', kHex.getD ((raw i).toNat % 16) '0'])

/-! ### The table -/

def isExpired (slot : Slot) (now : UInt32) : Bool := kIdleTimeoutMs ≤ now - slot.lastSeenMs

/-- A free slot, else the one with the least sequence number. -/
def pickPersistentSlot (table : SessionTable) : Fin kMaxPersistentSessions :=
  match Slots.first fun i => !(table.persistent i).used with
  | some i => i
  | none => (Slots.least (fun _ => true) fun i => (table.persistent i).seq.toNat).getD 0

/-- The slot used the longest ago by the clock, with its age; the last of them when several are as old. -/
def keepOldest (slots : Fin kMaxSessions → Slot) (now : UInt32) (oldest : Fin kMaxSessions × UInt32)
    (i : Fin kMaxSessions) : Fin kMaxSessions × UInt32 :=
  if oldest.2 ≤ now - (slots i).lastSeenMs then (i, now - (slots i).lastSeenMs) else oldest

/-- A free or expired slot, else the one used the longest ago. -/
def pickSlot (table : SessionTable) (now : UInt32) : Fin kMaxSessions :=
  match Slots.first fun i => !(table.slots i).used || isExpired (table.slots i) now with
  | some i => i
  | none => ((List.finRange kMaxSessions).foldl (keepOldest table.slots now) (0, 0)).1

inductive SlotIndex where
  | volatile (i : Fin kMaxSessions)
  | persistent (i : Fin kMaxPersistentSessions)
  deriving DecidableEq

def SlotIndex.isPersistent : SlotIndex → Bool
  | .persistent _ => true
  | .volatile _ => false

def persistentCount (table : SessionTable) : Nat :=
  (List.finRange kMaxPersistentSessions).countP fun i => (table.persistent i).used

variable (sha256 : String → Digest)

def holdsVolatile (table : SessionTable) (hash : Digest) (i : Fin kMaxSessions) : Bool :=
  (table.slots i).used && CredentialStore.constantTimeEquals hash (table.slots i).hash

def holdsPersistent (table : SessionTable) (hash : Digest) (i : Fin kMaxPersistentSessions) : Bool :=
  (table.persistent i).used && CredentialStore.constantTimeEquals hash (table.persistent i).hash

/-- All slots are compared; of several that match the last one counts, and the persistent ones come last. -/
def findSlot (table : SessionTable) (token : String) : Option SlotIndex :=
  if token.toList.length ≠ kTokenLength then none
  else match Slots.last (holdsPersistent table (sha256 token)) with
    | some i => some (.persistent i)
    | none => (Slots.last (holdsVolatile table (sha256 token))).map .volatile

def addPersistent (table : SessionTable) (hash : Digest) : SessionTable :=
  { table with
    persistent := Function.update table.persistent table.pickPersistentSlot ⟨hash, table.nextSeq, true⟩
    nextSeq := table.nextSeq + 1 }

def addVolatile (table : SessionTable) (hash : Digest) (now : UInt32) : SessionTable :=
  { table with slots := Function.update table.slots (table.pickSlot now) ⟨hash, now, true⟩ }

/-- A new session; a failed save leaves it in memory. -/
def create (now : UInt32) (persistent : Bool) (raw : Fin kTokenBytes → Byte) (saved : Bool) (s : Sessions) :
    String × Sessions :=
  let token := hexToken raw
  if persistent then (token, savePersistent saved { s with table := s.table.addPersistent (sha256 token) })
  else (token, { s with table := s.table.addVolatile (sha256 token) now })

/-- A volatile session that is used stays alive, an expired one is freed. -/
def validate (token : String) (now : UInt32) (table : SessionTable) : Bool × SessionTable :=
  match findSlot sha256 table token with
  | none => (false, table)
  | some (.persistent _) => (true, table)
  | some (.volatile i) =>
      if isExpired (table.slots i) now then
        (false, { table with slots := Function.update table.slots i Slot.zero })
      else
        (true, { table with slots := Function.update table.slots i { table.slots i with lastSeenMs := now } })

def remove (token : String) (saved : Bool) (s : Sessions) : Bool × Sessions :=
  match findSlot sha256 s.table token with
  | none => (true, s)
  | some (.persistent i) =>
      (saved, savePersistent saved
        { s with table := { s.table with persistent := Function.update s.table.persistent i PersistentSlot.zero } })
  | some (.volatile i) =>
      (true, { s with table := { s.table with slots := Function.update s.table.slots i Slot.zero } })

/-- The storage first: when it is not emptied nothing changes. -/
def clear (saved : Bool) (s : Sessions) : Bool × Sessions :=
  if saved = false then (false, s)
  else
    (true,
      { table := { s.table with slots := fun _ => Slot.zero, persistent := fun _ => PersistentSlot.zero }
        stored := [] })

/-- What a rotation answers: the new token, empty when there is none. -/
structure Rotation where
  fresh : String
  ok : Bool
  persistent : Bool
  deriving DecidableEq

def Rotation.issued (rotation : Rotation) : List (String × Bool) :=
  if rotation.fresh = "" then [] else [(rotation.fresh, rotation.persistent)]

/-- Whether the only save of a rotation succeeds; there is none when the set of persistent sessions stays empty. -/
def rotationSaved (persistent saved : Bool) (table : SessionTable) : Bool :=
  if persistent then saved else if table.persistentCount ≠ 0 then saved else true

def rotationStored (persistent : Bool) (hash : Digest) (s : Sessions) : List PersistentSession :=
  if persistent then [⟨hash, s.table.nextSeq⟩]
  else if s.table.persistentCount ≠ 0 then [] else s.stored

/-- The table with the new session as its only one. -/
def onlySession (persistent : Bool) (hash : Digest) (now : UInt32) (table : SessionTable) : SessionTable :=
  if persistent then
    { slots := fun _ => Slot.zero
      persistent := Function.update (fun _ => PersistentSlot.zero) 0 ⟨hash, table.nextSeq, true⟩
      nextSeq := table.nextSeq + 1 }
  else
    { slots := Function.update (fun _ => Slot.zero) 0 ⟨hash, now, true⟩
      persistent := fun _ => PersistentSlot.zero
      nextSeq := table.nextSeq }

def rotateExclusive (token : String) (now : UInt32) (raw : Fin kTokenBytes → Byte) (saved : Bool) (s : Sessions) :
    Rotation × Sessions :=
  match findSlot sha256 s.table token with
  | none =>
      let cleared := clear saved s
      (⟨"", cleared.1, false⟩, cleared.2)
  | some index =>
      let persistent := index.isPersistent
      let fresh := hexToken raw
      if rotationSaved persistent saved s.table = false then (⟨"", false, persistent⟩, s)
      else
        (⟨fresh, true, persistent⟩,
          { table := onlySession persistent (sha256 fresh) now s.table
            stored := rotationStored persistent (sha256 fresh) s })

/-! ### What is found -/

variable {sha256} {table : SessionTable} {token : String} {hash : Digest}

theorem create_fst (now : UInt32) (persistent : Bool) (raw : Fin kTokenBytes → Byte) (saved : Bool) (s : Sessions) :
    (create sha256 now persistent raw saved s).1 = hexToken raw := by
  cases persistent with
  | false => rfl
  | true => rfl

theorem length_hexToken (raw : Fin kTokenBytes → Byte) : (hexToken raw).toList.length = kTokenLength := by
  unfold hexToken
  rw [String.toList_ofList, List.length_flatMap]
  show ((List.finRange kTokenBytes).map fun _ => 2).sum = kTokenLength
  rw [List.map_const', List.length_finRange]
  rfl

theorem hexToken_ne_empty (raw : Fin kTokenBytes → Byte) : hexToken raw ≠ "" := by
  intro h
  have hlength := length_hexToken raw
  rw [h] at hlength
  exact absurd hlength (by decide)

theorem holdsPersistent_iff {i : Fin kMaxPersistentSessions} :
    holdsPersistent table hash i = true ↔ (table.persistent i).used = true ∧ (table.persistent i).hash = hash := by
  unfold holdsPersistent
  rw [Bool.and_eq_true, CredentialStore.constantTimeEquals_iff, eq_comm (a := hash)]

theorem holdsVolatile_iff {i : Fin kMaxSessions} :
    holdsVolatile table hash i = true ↔ (table.slots i).used = true ∧ (table.slots i).hash = hash := by
  unfold holdsVolatile
  rw [Bool.and_eq_true, CredentialStore.constantTimeEquals_iff, eq_comm (a := hash)]

theorem findSlot_persistent {i : Fin kMaxPersistentSessions} (h : findSlot sha256 table token = some (.persistent i)) :
    holdsPersistent table (sha256 token) i = true := by
  unfold findSlot at h
  split at h
  · cases h
  · split at h
    · rename_i j hlast
      cases h
      exact Slots.last_fits hlast
    · obtain ⟨j, -, hj⟩ := Option.map_eq_some_iff.mp h
      cases hj

/-- A volatile session is found only where no persistent one has its digest. -/
theorem findSlot_volatile {i : Fin kMaxSessions} (h : findSlot sha256 table token = some (.volatile i)) :
    holdsVolatile table (sha256 token) i = true ∧ ∀ j, holdsPersistent table (sha256 token) j = false := by
  unfold findSlot at h
  split at h
  · cases h
  · split at h
    · cases h
    · rename_i hlast
      obtain ⟨j, hj, heq⟩ := Option.map_eq_some_iff.mp h
      cases heq
      exact ⟨Slots.last_fits hj, Slots.last_eq_none_iff.mp hlast⟩

theorem length_of_findSlot {index : SlotIndex} (h : findSlot sha256 table token = some index) :
    token.toList.length = kTokenLength := by
  unfold findSlot at h
  split at h
  · cases h
  · rename_i hlength
    exact Decidable.not_not.mp hlength

/-- A token of the right length is found as persistent exactly when a persistent session has its digest. -/
theorem exists_findSlot_persistent_iff (hlength : token.toList.length = kTokenLength) :
    (∃ i, findSlot sha256 table token = some (.persistent i)) ↔ ∃ i, holdsPersistent table (sha256 token) i = true := by
  constructor
  · rintro ⟨i, hi⟩
    exact ⟨i, findSlot_persistent hi⟩
  · rintro ⟨i, hi⟩
    obtain ⟨j, hj⟩ := Slots.exists_last hi
    refine ⟨j, ?_⟩
    unfold findSlot
    rw [if_neg (not_not.mpr hlength), hj]

theorem exists_findSlot_of_volatile {i : Fin kMaxSessions} (hlength : token.toList.length = kTokenLength)
    (hi : holdsVolatile table (sha256 token) i = true) : ∃ index, findSlot sha256 table token = some index := by
  unfold findSlot
  rw [if_neg (not_not.mpr hlength)]
  split
  · exact ⟨_, rfl⟩
  · obtain ⟨j, hj⟩ := Slots.exists_last hi
    exact ⟨.volatile j, by rw [hj]; rfl⟩

/-- A token that validates has its digest in a slot in use. -/
theorem held_of_validate {now : UInt32} (h : (validate sha256 token now table).1 = true) :
    token.toList.length = kTokenLength
      ∧ ((∃ i, holdsVolatile table (sha256 token) i = true) ∨ ∃ i, holdsPersistent table (sha256 token) i = true) := by
  unfold validate at h
  cases hfound : findSlot sha256 table token with
  | none =>
      rw [hfound] at h
      exact absurd h Bool.false_ne_true
  | some index =>
      refine ⟨length_of_findSlot hfound, ?_⟩
      cases index with
      | persistent i => exact Or.inr ⟨i, findSlot_persistent hfound⟩
      | volatile i => exact Or.inl ⟨i, (findSlot_volatile hfound).1⟩

/-! ### What is saved -/

theorem mem_persisted {session : PersistentSession} :
    session ∈ table.persisted
      ↔ ∃ i, (table.persistent i).used = true ∧ session = ⟨(table.persistent i).hash, (table.persistent i).seq⟩ := by
  unfold persisted
  rw [List.mem_filterMap]
  constructor
  · rintro ⟨i, -, hi⟩
    split at hi
    · rename_i hused
      exact ⟨i, hused, (Option.some.inj hi).symm⟩
    · cases hi
  · rintro ⟨i, hused, rfl⟩
    exact ⟨i, List.mem_finRange i, if_pos hused⟩

theorem persisted_eq_nil_iff : table.persisted = [] ↔ ∀ i, (table.persistent i).used = false := by
  rw [List.eq_nil_iff_forall_not_mem]
  constructor
  · intro h i
    by_contra hused
    exact h _ (mem_persisted.mpr ⟨i, by simpa using hused, rfl⟩)
  · intro h session hmem
    obtain ⟨i, hused, -⟩ := mem_persisted.mp hmem
    rw [h i] at hused
    exact Bool.false_ne_true hused

theorem persistentCount_eq_zero_iff : table.persistentCount = 0 ↔ table.persisted = [] := by
  unfold persistentCount
  rw [List.countP_eq_zero, persisted_eq_nil_iff]
  constructor
  · intro h i
    simpa using h i (List.mem_finRange i)
  · intro h i _
    rw [h i]
    exact Bool.false_ne_true

theorem length_persisted_le (table : SessionTable) : table.persisted.length ≤ kMaxPersistentSessions :=
  (List.length_filterMap_le _ _).trans_eq List.length_finRange

theorem persisted_congr {other : SessionTable} (h : other.persistent = table.persistent) :
    other.persisted = table.persisted := by
  unfold persisted
  rw [h]

/-! ### The three ends of a rotation -/

section Rotations

variable {now : UInt32} {raw : Fin kTokenBytes → Byte} {saved : Bool} {s : Sessions} {index : SlotIndex}

theorem rotateExclusive_of_none (h : findSlot sha256 s.table token = none) :
    rotateExclusive sha256 token now raw saved s = (⟨"", (clear saved s).1, false⟩, (clear saved s).2) := by
  unfold rotateExclusive
  rw [h]

theorem rotateExclusive_of_not_saved (h : findSlot sha256 s.table token = some index)
    (hsaved : rotationSaved index.isPersistent saved s.table = false) :
    rotateExclusive sha256 token now raw saved s = (⟨"", false, index.isPersistent⟩, s) := by
  unfold rotateExclusive
  rw [h]
  exact if_pos hsaved

theorem rotateExclusive_of_saved (h : findSlot sha256 s.table token = some index)
    (hsaved : ¬ rotationSaved index.isPersistent saved s.table = false) :
    rotateExclusive sha256 token now raw saved s
      = (⟨hexToken raw, true, index.isPersistent⟩,
        { table := onlySession index.isPersistent (sha256 (hexToken raw)) now s.table
          stored := rotationStored index.isPersistent (sha256 (hexToken raw)) s }) := by
  unfold rotateExclusive
  rw [h]
  exact if_neg hsaved

end Rotations

/-! ### Runs -/

/-- The calls of the table, each with the outcome of its save; the times are real. -/
inductive SessionEvent where
  | create (time : Nat) (persistent : Bool) (raw : Fin kTokenBytes → Byte) (saved : Bool)
  | validate (token : String) (time : Nat)
  | remove (token : String) (saved : Bool)
  | rotateExclusive (token : String) (time : Nat) (raw : Fin kTokenBytes → Byte) (saved : Bool)
  | clear (saved : Bool)

def SessionEvent.saved : SessionEvent → Bool
  | .create _ _ _ saved => saved
  | .validate .. => true
  | .remove _ saved => saved
  | .rotateExclusive _ _ _ saved => saved
  | .clear saved => saved

variable (sha256)

def step (s : Sessions) : SessionEvent → Sessions
  | .create time persistent raw saved => (create sha256 (Clock.millis time) persistent raw saved s).2
  | .validate token time => { s with table := (validate sha256 token (Clock.millis time) s.table).2 }
  | .remove token saved => (remove sha256 token saved s).2
  | .rotateExclusive token time raw saved => (rotateExclusive sha256 token (Clock.millis time) raw saved s).2
  | .clear saved => (clear saved s).2

/-- The tokens a call gives out, with whether their sessions are persistent. -/
def issued (s : Sessions) : SessionEvent → List (String × Bool)
  | .create _ persistent raw _ => [(hexToken raw, persistent)]
  | .rotateExclusive token time raw saved => (rotateExclusive sha256 token (Clock.millis time) raw saved s).1.issued
  | _ => []

/-- The slot of the persistent session a call makes. -/
def createdIn (s : Sessions) : SessionEvent → Option (Fin kMaxPersistentSessions)
  | .create _ persistent _ _ => if persistent then some s.table.pickPersistentSlot else none
  | .rotateExclusive token _ _ saved =>
      if saved && (findSlot sha256 s.table token).any SlotIndex.isPersistent then some 0 else none
  | _ => none

variable {sha256}

/-- What a call does to the persistent sessions and the storage. -/
inductive Persistence (sha256 : String → Digest) (before : Sessions) (tokens : List (String × Bool)) (saved : Bool)
    (created : Option (Fin kMaxPersistentSessions)) (after : Sessions) : Prop where
  | same (hcreated : created = none) (hslots : after.table.persistent = before.table.persistent)
      (hseq : after.table.nextSeq = before.table.nextSeq)
      (hstored : after.stored = before.stored)
  | added (token : String) (htoken : (token, true) ∈ tokens) (hcreated : created = some before.table.pickPersistentSlot)
      (hslots : after.table.persistent = Function.update before.table.persistent before.table.pickPersistentSlot
        ⟨sha256 token, before.table.nextSeq, true⟩)
      (hseq : after.table.nextSeq = before.table.nextSeq + 1)
      (hstored : after.stored = if saved then after.table.persisted else before.stored)
  | removed (i : Fin kMaxPersistentSessions) (hcreated : created = none)
      (hslots : after.table.persistent = Function.update before.table.persistent i PersistentSlot.zero)
      (hseq : after.table.nextSeq = before.table.nextSeq)
      (hstored : after.stored = if saved then after.table.persisted else before.stored)
  | emptied (hcreated : created = none) (hslots : after.table.persistent = fun _ => PersistentSlot.zero)
      (hseq : after.table.nextSeq = before.table.nextSeq)
      (hstored : after.stored = [] ∨ after.stored = before.stored ∧ before.table.persisted = [])
  | only (token : String) (htoken : (token, true) ∈ tokens) (hcreated : created = some 0)
      (hslots : after.table.persistent = Function.update (fun _ => PersistentSlot.zero) 0
        ⟨sha256 token, before.table.nextSeq, true⟩)
      (hseq : after.table.nextSeq = before.table.nextSeq + 1)
      (hstored : after.stored = [⟨sha256 token, before.table.nextSeq⟩])

theorem clear_persistence (tokens : List (String × Bool)) (saved : Bool) (s : Sessions) :
    Persistence sha256 s tokens saved none (clear saved s).2 := by
  cases saved with
  | false => exact .same rfl rfl rfl rfl
  | true => exact .emptied rfl rfl rfl (Or.inl rfl)

variable (sha256) in
theorem validate_persistence (token : String) (now : UInt32) (table : SessionTable) :
    (validate sha256 token now table).2.persistent = table.persistent
      ∧ (validate sha256 token now table).2.nextSeq = table.nextSeq := by
  unfold validate
  split
  · exact ⟨rfl, rfl⟩
  · exact ⟨rfl, rfl⟩
  · split
    · exact ⟨rfl, rfl⟩
    · exact ⟨rfl, rfl⟩

theorem rotateExclusive_persistence (token : String) (time : Nat) (raw : Fin kTokenBytes → Byte) (saved : Bool)
    (s : Sessions) :
    Persistence sha256 s (issued sha256 s (.rotateExclusive token time raw saved)) saved
      (createdIn sha256 s (.rotateExclusive token time raw saved))
      (rotateExclusive sha256 token (Clock.millis time) raw saved s).2 := by
  show Persistence sha256 s (rotateExclusive sha256 token (Clock.millis time) raw saved s).1.issued saved
    (if saved && (findSlot sha256 s.table token).any SlotIndex.isPersistent then some 0 else none) _
  cases hfound : findSlot sha256 s.table token with
  | none =>
      rw [rotateExclusive_of_none hfound, Option.any_none, Bool.and_false, if_neg Bool.false_ne_true]
      exact clear_persistence _ saved s
  | some index =>
      rw [Option.any_some]
      cases index with
      | persistent i =>
          cases saved with
          | false =>
              rw [rotateExclusive_of_not_saved hfound rfl]
              exact .same rfl rfl rfl rfl
          | true =>
              rw [rotateExclusive_of_saved hfound (by simp [rotationSaved, SlotIndex.isPersistent])]
              refine .only (hexToken raw) ?_ rfl rfl rfl rfl
              unfold Rotation.issued
              rw [if_neg (hexToken_ne_empty raw)]
              exact List.mem_singleton.mpr rfl
      | volatile i =>
          rw [SlotIndex.isPersistent, Bool.and_false, if_neg Bool.false_ne_true]
          by_cases hsaved : rotationSaved (SlotIndex.volatile i).isPersistent saved s.table = false
          · rw [rotateExclusive_of_not_saved hfound hsaved]
            exact .same rfl rfl rfl rfl
          · rw [rotateExclusive_of_saved hfound hsaved]
            refine .emptied rfl rfl rfl ?_
            by_cases hcount : s.table.persistentCount = 0
            · exact Or.inr ⟨if_neg (not_not.mpr hcount), persistentCount_eq_zero_iff.mp hcount⟩
            · exact Or.inl (if_pos hcount)

variable (sha256) in
/-- What each call does to the persistent sessions. -/
theorem step_persistence (s : Sessions) (event : SessionEvent) :
    Persistence sha256 s (issued sha256 s event) event.saved (createdIn sha256 s event) (step sha256 s event) := by
  cases event with
  | create time persistent raw saved =>
      cases persistent with
      | false => exact .same rfl rfl rfl rfl
      | true =>
          have hmem : (hexToken raw, true) ∈ issued sha256 s (.create time true raw saved) := List.mem_singleton.mpr rfl
          cases saved with
          | false => exact .added (hexToken raw) hmem rfl rfl rfl rfl
          | true => exact .added (hexToken raw) hmem rfl rfl rfl rfl
  | validate token time =>
      obtain ⟨hslots, hseq⟩ := validate_persistence sha256 token (Clock.millis time) s.table
      exact .same rfl hslots hseq rfl
  | remove token saved =>
      show Persistence sha256 s _ saved none (remove sha256 token saved s).2
      unfold remove
      cases hfound : findSlot sha256 s.table token with
      | none => exact .same rfl rfl rfl rfl
      | some index =>
          cases index with
          | volatile i => exact .same rfl rfl rfl rfl
          | persistent i =>
              cases saved with
              | false => exact .removed i rfl rfl rfl rfl
              | true => exact .removed i rfl rfl rfl rfl
  | rotateExclusive token time raw saved => exact rotateExclusive_persistence token time raw saved s
  | clear saved => exact clear_persistence _ saved s

/-! ### The digests in use -/

theorem holdsPersistent_update {slots : Fin kMaxPersistentSessions → PersistentSlot} {pick : Fin kMaxPersistentSessions}
    {slot : PersistentSlot} (hslots : table.persistent = Function.update slots pick slot)
    (h : ∃ i, holdsPersistent table hash i = true) :
    (slot.used = true ∧ slot.hash = hash) ∨ ∃ i, (slots i).used = true ∧ (slots i).hash = hash := by
  obtain ⟨i, hi⟩ := h
  have hheld := holdsPersistent_iff.mp hi
  rw [hslots] at hheld
  have hsplit := (Function.exists_update_iff slots fun _ own => own.used = true ∧ own.hash = hash).mp ⟨i, hheld⟩
  exact hsplit.imp_right fun ⟨k, _, hk⟩ => ⟨k, hk⟩

/-- A persistent session after a call was there before, or is the one of a token just issued. -/
theorem persistent_step {s : Sessions} {event : SessionEvent}
    (h : ∃ i, holdsPersistent (step sha256 s event).table hash i = true) :
    (∃ i, holdsPersistent s.table hash i = true) ∨ ∃ token, (token, true) ∈ issued sha256 s event ∧ sha256 token = hash := by
  have hold : (∃ i, (s.table.persistent i).used = true ∧ (s.table.persistent i).hash = hash) →
      ∃ i, holdsPersistent s.table hash i = true := by
    rintro ⟨i, hi⟩
    exact ⟨i, holdsPersistent_iff.mpr hi⟩
  cases step_persistence sha256 s event with
  | same hcreated hslots hseq hstored =>
      obtain ⟨i, hi⟩ := h
      obtain ⟨hused, hhash⟩ := holdsPersistent_iff.mp hi
      rw [hslots] at hused hhash
      exact Or.inl (hold ⟨i, hused, hhash⟩)
  | added token htoken hcreated hslots hseq hstored =>
      rcases holdsPersistent_update hslots h with ⟨-, hnew⟩ | hbefore
      · exact Or.inr ⟨token, htoken, hnew⟩
      · exact Or.inl (hold hbefore)
  | removed k hcreated hslots hseq hstored =>
      rcases holdsPersistent_update hslots h with ⟨hused, -⟩ | hbefore
      · exact absurd hused Bool.false_ne_true
      · exact Or.inl (hold hbefore)
  | emptied hcreated hslots hseq hstored =>
      obtain ⟨i, hi⟩ := h
      have hused := (holdsPersistent_iff.mp hi).1
      rw [hslots] at hused
      exact absurd hused Bool.false_ne_true
  | only token htoken hcreated hslots hseq hstored =>
      rcases holdsPersistent_update hslots h with ⟨-, hnew⟩ | ⟨i, hused, -⟩
      · exact Or.inr ⟨token, htoken, hnew⟩
      · exact absurd hused Bool.false_ne_true

/-- A slot in use has the digest. -/
def Held (table : SessionTable) (hash : Digest) : Prop :=
  (∃ i, holdsVolatile table hash i = true) ∨ ∃ i, holdsPersistent table hash i = true

/-- How many slots in use have the digest. -/
def holders (table : SessionTable) (hash : Digest) : Nat :=
  Slots.count (holdsVolatile table hash) + Slots.count (holdsPersistent table hash)

theorem held_iff : Held table hash ↔ 0 < table.holders hash := by
  unfold Held holders
  rw [← Slots.count_pos_iff, ← Slots.count_pos_iff]
  omega

def digests (table : SessionTable) : List Digest :=
  ((List.finRange kMaxSessions).filter fun i => (table.slots i).used).map (fun i => (table.slots i).hash)
    ++ ((List.finRange kMaxPersistentSessions).filter fun i => (table.persistent i).used).map fun i => (table.persistent i).hash

theorem count_digests (table : SessionTable) (hash : Digest) : table.digests.count hash = table.holders hash := by
  unfold digests holders Slots.count
  rw [List.count_append, List.count_eq_countP, List.countP_map, List.countP_filter, List.count_eq_countP, List.countP_map,
    List.countP_filter]
  refine congrArg₂ (· + ·) (List.countP_congr fun i _ => ?_) (List.countP_congr fun i _ => ?_)
  · rw [holdsVolatile_iff, Bool.and_eq_true, and_comm]
    exact and_congr_right fun _ => beq_iff_eq
  · rw [holdsPersistent_iff, Bool.and_eq_true, and_comm]
    exact and_congr_right fun _ => beq_iff_eq

theorem toNat_constantTimeEquals (other : Digest) :
    (true && CredentialStore.constantTimeEquals hash other).toNat = [other].count hash := by
  rw [Bool.true_and, List.count_singleton]
  by_cases heq : other = hash
  · rw [if_pos (beq_iff_eq.mpr heq), (CredentialStore.constantTimeEquals_iff _ _).mpr heq.symm]
    rfl
  · rw [if_neg fun h => heq (beq_iff_eq.mp h),
      eq_false_of_ne_true fun h => heq ((CredentialStore.constantTimeEquals_iff _ _).mp h).symm]
    rfl

variable (table hash) in
theorem holders_update (i : Fin kMaxSessions) (slot : Slot) :
    holders { table with slots := Function.update table.slots i slot } hash + (holdsVolatile table hash i).toNat
      = table.holders hash + (slot.used && CredentialStore.constantTimeEquals hash slot.hash).toNat := by
  have hcount := Slots.count_update (fun slot => slot.used && CredentialStore.constantTimeEquals hash slot.hash) table.slots i slot
  unfold holders holdsPersistent
  unfold holdsVolatile
  dsimp only at hcount ⊢
  omega

variable (table hash) in
theorem holders_update_persistent (i : Fin kMaxPersistentSessions) (slot : PersistentSlot) (seq : UInt32) :
    holders { table with persistent := Function.update table.persistent i slot, nextSeq := seq } hash
        + (holdsPersistent table hash i).toNat
      = table.holders hash + (slot.used && CredentialStore.constantTimeEquals hash slot.hash).toNat := by
  have hcount := Slots.count_update (fun slot => slot.used && CredentialStore.constantTimeEquals hash slot.hash)
    table.persistent i slot
  unfold holders holdsVolatile
  unfold holdsPersistent
  dsimp only at hcount ⊢
  omega

theorem savePersistent_table (saved : Bool) (s : Sessions) : (savePersistent saved s).table = s.table := by
  cases saved with
  | false => rfl
  | true => rfl

variable (sha256 hash) in
theorem holders_create (now : UInt32) (persistent : Bool) (raw : Fin kTokenBytes → Byte) (saved : Bool) (s : Sessions) :
    (create sha256 now persistent raw saved s).2.table.holders hash
      ≤ s.table.holders hash + [sha256 (hexToken raw)].count hash := by
  unfold create
  cases persistent with
  | false =>
      have hcount := holders_update s.table hash (s.table.pickSlot now) ⟨sha256 (hexToken raw), now, true⟩
      rw [← toNat_constantTimeEquals]
      exact (Nat.le_add_right _ _).trans_eq hcount
  | true =>
      have hcount := holders_update_persistent s.table hash s.table.pickPersistentSlot
        ⟨sha256 (hexToken raw), s.table.nextSeq, true⟩ (s.table.nextSeq + 1)
      dsimp only
      rw [if_pos rfl, savePersistent_table, ← toNat_constantTimeEquals]
      exact (Nat.le_add_right _ _).trans_eq hcount

variable (sha256 token hash) in
theorem holders_validate (now : UInt32) (table : SessionTable) :
    (validate sha256 token now table).2.holders hash ≤ table.holders hash := by
  unfold validate
  split
  · exact le_rfl
  · exact le_rfl
  · rename_i i hfound
    split
    · have hcount := holders_update table hash i Slot.zero
      exact (Nat.le_add_right _ _).trans_eq hcount
    · have hcount := holders_update table hash i { table.slots i with lastSeenMs := now }
      exact (Nat.add_right_cancel hcount).le

variable (token) in
theorem toNat_holdsVolatile {i : Fin kMaxSessions} (h : holdsVolatile table (sha256 token) i = true) :
    (holdsVolatile table hash i).toNat = [sha256 token].count hash := by
  obtain ⟨hused, hhash⟩ := holdsVolatile_iff.mp h
  rw [← hhash, ← toNat_constantTimeEquals, ← hused]
  rfl

variable (token) in
theorem toNat_holdsPersistent {i : Fin kMaxPersistentSessions} (h : holdsPersistent table (sha256 token) i = true) :
    (holdsPersistent table hash i).toNat = [sha256 token].count hash := by
  obtain ⟨hused, hhash⟩ := holdsPersistent_iff.mp h
  rw [← hhash, ← toNat_constantTimeEquals, ← hused]
  rfl

/-- A token of the right length that is removed has one session less, if it had any. -/
theorem holders_remove (hlength : token.toList.length = kTokenLength) (saved : Bool) (s : Sessions) :
    (remove sha256 token saved s).2.table.holders hash = s.table.holders hash - [sha256 token].count hash := by
  unfold remove
  cases hfound : findSlot sha256 s.table token with
  | none =>
      dsimp only
      by_cases heq : sha256 token = hash
      · have hnone : ¬ Held s.table hash := by
          rw [← heq]
          rintro (⟨i, hi⟩ | ⟨i, hi⟩)
          · obtain ⟨index, hindex⟩ := exists_findSlot_of_volatile hlength hi
            exact nomatch hfound.symm.trans hindex
          · obtain ⟨j, hj⟩ := (exists_findSlot_persistent_iff hlength).mpr ⟨i, hi⟩
            exact nomatch hfound.symm.trans hj
        rw [held_iff] at hnone
        omega
      · rw [List.count_singleton, if_neg fun h => heq (beq_iff_eq.mp h), Nat.sub_zero]
  | some index =>
      cases index with
      | volatile i =>
          have hcount := holders_update s.table hash i Slot.zero
          rw [toNat_holdsVolatile token (findSlot_volatile hfound).1] at hcount
          exact Nat.eq_sub_of_add_eq hcount
      | persistent i =>
          have hcount := holders_update_persistent s.table hash i PersistentSlot.zero s.table.nextSeq
          rw [toNat_holdsPersistent token (findSlot_persistent hfound)] at hcount
          dsimp only
          rw [savePersistent_table]
          exact Nat.eq_sub_of_add_eq hcount

theorem remove_of_length (hlength : token.toList.length ≠ kTokenLength) (saved : Bool) (s : Sessions) :
    (remove sha256 token saved s).2 = s := by
  unfold remove findSlot
  rw [if_pos hlength]

theorem holders_zero {nextSeq : UInt32} : holders ⟨fun _ => Slot.zero, fun _ => PersistentSlot.zero, nextSeq⟩ hash = 0 := by
  unfold holders Slots.count
  rw [List.countP_eq_zero.mpr, List.countP_eq_zero.mpr]
  · exact fun i _ => Bool.false_ne_true
  · exact fun i _ => Bool.false_ne_true

variable (hash) in
theorem holders_clear (saved : Bool) (s : Sessions) :
    (clear saved s).2.table.holders hash = if (clear saved s).1 then 0 else s.table.holders hash := by
  cases saved with
  | false => rfl
  | true => exact holders_zero

theorem holders_onlySession (persistent : Bool) (other : Digest) (now : UInt32) (table : SessionTable) :
    (onlySession persistent other now table).holders hash = [other].count hash := by
  cases persistent with
  | false =>
      have hcount := holders_update ⟨fun _ => Slot.zero, fun _ => PersistentSlot.zero, table.nextSeq⟩ hash 0
        ⟨other, now, true⟩
      rw [holders_zero, toNat_constantTimeEquals, Nat.zero_add] at hcount
      exact hcount
  | true =>
      have hcount := holders_update_persistent ⟨fun _ => Slot.zero, fun _ => PersistentSlot.zero, table.nextSeq⟩
        hash 0 ⟨other, table.nextSeq, true⟩ (table.nextSeq + 1)
      rw [holders_zero, toNat_constantTimeEquals, Nat.zero_add] at hcount
      exact hcount

variable (sha256 token hash) in
/-- A rotation that succeeds leaves the session of the fresh token, if there is one. -/
theorem holders_rotateExclusive (now : UInt32) (raw : Fin kTokenBytes → Byte) (saved : Bool) (s : Sessions) :
    (rotateExclusive sha256 token now raw saved s).2.table.holders hash
      = (if (rotateExclusive sha256 token now raw saved s).1.ok then 0 else s.table.holders hash)
        + ((rotateExclusive sha256 token now raw saved s).1.issued.map fun fresh => sha256 fresh.1).count hash := by
  cases hfound : findSlot sha256 s.table token with
  | none =>
      rw [rotateExclusive_of_none hfound, holders_clear]
      rfl
  | some index =>
      by_cases hsaved : rotationSaved index.isPersistent saved s.table = false
      · rw [rotateExclusive_of_not_saved hfound hsaved]
        rfl
      · rw [rotateExclusive_of_saved hfound hsaved, holders_onlySession, if_pos rfl, Nat.zero_add]
        unfold Rotation.issued
        rw [if_neg (hexToken_ne_empty raw)]
        rfl

variable (sha256) in
/-- A call makes no other sessions than those of the tokens it issues. -/
theorem holders_step (s : Sessions) (event : SessionEvent) :
    (step sha256 s event).table.holders hash
      ≤ s.table.holders hash + ((issued sha256 s event).map fun token => sha256 token.1).count hash := by
  cases event with
  | create time persistent raw saved => exact holders_create sha256 hash (Clock.millis time) persistent raw saved s
  | validate token time => exact holders_validate sha256 token hash (Clock.millis time) s.table
  | remove token saved =>
      show (remove sha256 token saved s).2.table.holders hash ≤ _
      by_cases hlength : token.toList.length = kTokenLength
      · rw [holders_remove hlength]
        exact (Nat.sub_le _ _).trans (Nat.le_add_right _ _)
      · rw [remove_of_length hlength]
        exact Nat.le_add_right _ _
  | rotateExclusive token time raw saved =>
      refine (holders_rotateExclusive sha256 token hash (Clock.millis time) raw saved s).trans_le (Nat.add_le_add_right ?_ _)
      split
      · exact Nat.zero_le _
      · exact le_rfl
  | clear saved =>
      refine (holders_clear hash saved s).trans_le (le_trans ?_ (Nat.le_add_right _ _))
      split
      · exact Nat.zero_le _
      · exact le_rfl

variable (sha256) in
/-- A session after a call was there before, or is the one of a token just issued. -/
theorem held_step {s : Sessions} (event : SessionEvent) (h : Held (step sha256 s event).table hash) :
    Held s.table hash ∨ ∃ token persistent, (token, persistent) ∈ issued sha256 s event ∧ sha256 token = hash := by
  have hcount := (held_iff.mp h).trans_le (holders_step sha256 s event)
  rw [held_iff]
  refine (Nat.add_pos_iff_pos_or_pos.mp hcount).imp_right fun hissued => ?_
  obtain ⟨⟨token, persistent⟩, hmem, hhash⟩ := List.mem_map.mp (List.count_pos_iff.mp hissued)
  exact ⟨token, persistent, hmem, hhash⟩

variable (sha256) in
theorem held_of_step {s : Sessions} (event : SessionEvent) (hissued : issued sha256 s event = [])
    (h : Held (step sha256 s event).table hash) : Held s.table hash := by
  rcases held_step sha256 event h with hbefore | ⟨token, persistent, hmem, -⟩
  · exact hbefore
  · rw [hissued] at hmem
    exact absurd hmem List.not_mem_nil

/-! ### A digest for examples -/

/-- The characters of a token themselves, which no two tokens share. -/
def textDigest (text : String) : Digest := fun i => BitVec.ofNat 8 (text.toList.getD i.val '0').toNat

def rawToken (n : Nat) : Fin kTokenBytes → Byte := fun _ => BitVec.ofNat 8 n

end SessionTable

end EspNut
