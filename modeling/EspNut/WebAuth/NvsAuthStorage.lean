import EspNut.Lib.Layout
import EspNut.Lib.Store
import EspNut.WebAuth.SessionTable

/-!
# Credentials and sessions in flash memory

The storage keeps two blobs under keys of one namespace: the credentials, with a version and the length of the user name, and the persistent sessions, one record after another. What is loaded is what was saved, and a blob that no save writes is not loaded.
-/

namespace EspNut.NvsAuthStorage

open Lib

def kKeyCred : String := "cred"

def kCredVersion : Byte := 1#8

abbrev kCredHeaderSize : Nat := 1 + 4 + 16 + 32 + 1

/-- A user name has at most 32 bytes. -/
abbrev kCredMaxSize : Nat := kCredHeaderSize + 32

def kKeySessions : String := "sessions"

abbrev kSessionRecordSize : Nat := 36

/-- The blobs of the namespace, which does not exist before the first save. -/
abbrev Nvs := Option (Store String (List Byte))

/-- What succeeds in one call: opening the namespace, reading, writing and removing a key, and allocating a buffer. -/
structure NvsCall where
  opened : Bool
  read : Bool
  written : Bool
  removed : Bool
  allocated : Bool

/-- Everything succeeds. -/
structure NvsCall.Faithful (call : NvsCall) : Prop where
  opened : call.opened = true
  read : call.read = true
  written : call.written = true
  removed : call.removed = true
  allocated : call.allocated = true

/-! ### The namespace -/

/-- To read, the namespace has to exist. -/
def beginReading (call : NvsCall) (nvs : Nvs) : Option (Store String (List Byte)) := if call.opened then nvs else none

/-- To write, it is created. -/
def beginWriting (call : NvsCall) (nvs : Nvs) : Option (Store String (List Byte)) :=
  if call.opened then some (nvs.getD Store.empty) else none

def getBytesLength (prefs : Store String (List Byte)) (key : String) : Nat := ((prefs.find key).getD []).length

/-- The bytes that are copied, none when the read fails. -/
def getBytes (call : NvsCall) (prefs : Store String (List Byte)) (key : String) : List Byte :=
  if call.read then (prefs.find key).getD [] else []

/-- A key is written as a whole; else the value before stays. -/
def putBytes (call : NvsCall) (prefs : Store String (List Byte)) (key : String) (buf : List Byte) :
    Bool × Store String (List Byte) :=
  if call.written then (true, prefs.set key buf) else (false, prefs)

def remove (call : NvsCall) (prefs : Store String (List Byte)) (key : String) : Bool × Store String (List Byte) :=
  if call.removed then (prefs.hasKey key, prefs.remove key) else (false, prefs)

/-! ### Credentials -/

def byteOf (c : Char) : Byte := BitVec.ofNat 8 c.toNat

def charOf (b : Byte) : Char := Char.ofNat b.toNat

def uint32At (start : Nat) (buf : List Byte) : UInt32 := UInt32.ofNat (littleEndian (slice start 4 buf))

/-- The record in a blob, whatever else the blob says. -/
def credentialsAt (userLen : Nat) (buf : List Byte) : CredentialRecord :=
  { username := String.ofList ((slice kCredHeaderSize userLen buf).map charOf)
    salt := arrayAt 5 16 buf
    hash := arrayAt (5 + 16) 32 buf
    iterations := uint32At 1 buf }

/-- The record given is filled also when its number of iterations turns out to be 0. -/
def loadCredentials (call : NvsCall) (nvs : Nvs) (record : CredentialRecord) : Bool × CredentialRecord :=
  match beginReading call nvs with
  | none => (false, record)
  | some prefs =>
      let len := if prefs.hasKey kKeyCred then getBytesLength prefs kKeyCred else 0
      let buf := getBytes call prefs kKeyCred
      if len < kCredHeaderSize + 1 ∨ kCredMaxSize < len ∨ buf.length ≠ len then (false, record)
      else if buf.getD 0 0 ≠ kCredVersion then (false, record)
      else
        let userLen := (buf.getD (kCredHeaderSize - 1) 0).toNat
        if userLen = 0 ∨ kCredHeaderSize + userLen ≠ len then (false, record)
        else (decide (0 < (credentialsAt userLen buf).iterations), credentialsAt userLen buf)

/-- The bytes of a record: version, iterations, salt, hash, length of the user name, user name. -/
def credentialBytes (record : CredentialRecord) : List Byte :=
  [kCredVersion] ++ leBytes 4 record.iterations.toNat ++ List.ofFn record.salt ++ List.ofFn record.hash
    ++ [BitVec.ofNat 8 record.username.toList.length] ++ record.username.toList.map byteOf

def saveCredentials (call : NvsCall) (record : CredentialRecord) (nvs : Nvs) : Bool × Nvs :=
  let userLen := record.username.toList.length
  if userLen = 0 ∨ kCredMaxSize < kCredHeaderSize + userLen then (false, nvs)
  else match beginWriting call nvs with
    | none => (false, nvs)
    | some prefs =>
        let (ok, prefs) := putBytes call prefs kKeyCred (credentialBytes record)
        (ok, some prefs)

/-! ### Sessions -/

def sessionAt (rec : List Byte) : PersistentSession := { hash := arrayAt 0 32 rec, seq := uint32At 32 rec }

/-- No more than `max` sessions; a blob that cannot be a list of so many counts as none. -/
def loadSessions (call : NvsCall) (nvs : Nvs) (max : Nat) : Bool × List PersistentSession :=
  match beginReading call nvs with
  | none => (true, [])
  | some prefs =>
      if prefs.hasKey kKeySessions = false then (true, [])
      else
        let len := getBytesLength prefs kKeySessions
        if len = 0 ∨ len % kSessionRecordSize ≠ 0 ∨ max < len / kSessionRecordSize then (true, [])
        else if call.allocated = false then (false, [])
        else
          let buf := getBytes call prefs kKeySessions
          if buf.length = len then (true, (records kSessionRecordSize buf).map sessionAt) else (false, [])

def sessionBytes (session : PersistentSession) : List Byte := List.ofFn session.hash ++ leBytes 4 session.seq.toNat

/-- Without sessions there is no key. -/
def saveSessions (call : NvsCall) (sessions : List PersistentSession) (nvs : Nvs) : Bool × Nvs :=
  match beginWriting call nvs with
  | none => (false, nvs)
  | some prefs =>
      if sessions = [] then
        if prefs.hasKey kKeySessions then
          let (removed, prefs) := remove call prefs kKeySessions
          (removed, some prefs)
        else (true, some prefs)
      else if call.allocated = false then (false, some prefs)
      else
        let (ok, prefs) := putBytes call prefs kKeySessions (sessions.flatMap sessionBytes)
        (ok, some prefs)

/-! ### There and back -/

theorem charOf_byteOf {c : Char} (h : c.toNat < 256) : charOf (byteOf c) = c := by
  unfold charOf byteOf
  rw [BitVec.toNat_ofNat, Nat.mod_eq_of_lt h, Char.ofNat_toNat]

theorem toNat_charOf (b : Byte) : (charOf b).toNat = b.toNat := by
  have hvalid : b.toNat.isValidChar := Or.inl (by have := b.isLt; omega)
  unfold charOf Char.ofNat
  rw [dif_pos hvalid]
  rfl

theorem byteOf_charOf (b : Byte) : byteOf (charOf b) = b := by
  unfold byteOf
  rw [toNat_charOf, BitVec.ofNat_toNat, BitVec.setWidth_eq]

theorem uint32At_eq {start : Nat} {buf : List Byte} {x : UInt32} (h : slice start 4 buf = leBytes 4 x.toNat) :
    uint32At start buf = x := by
  have hsmall : x.toNat % 256 ^ 4 = x.toNat := Nat.mod_eq_of_lt x.toNat_lt
  unfold uint32At
  rw [h, littleEndian_leBytes, hsmall, UInt32.ofNat_toNat]

theorem leBytes_uint32At {start : Nat} {buf : List Byte} (h : start + 4 ≤ buf.length) :
    leBytes 4 (uint32At start buf).toNat = slice start 4 buf := by
  have hlength := length_slice h
  have hlt := littleEndian_lt (slice start 4 buf)
  rw [hlength] at hlt
  have hback := leBytes_littleEndian (slice start 4 buf)
  rw [hlength] at hback
  unfold uint32At
  rw [UInt32.toNat_ofNat_of_lt' hlt, hback]

/-- A record that the storage takes: a user name of 1 to 32 bytes and a number of iterations. -/
structure Storable (record : CredentialRecord) : Prop where
  name : 1 ≤ record.username.toList.length ∧ record.username.toList.length ≤ 32
  bytes : ∀ c ∈ record.username.toList, c.toNat < 256
  iterations : 0 < record.iterations

theorem length_credentialBytes (record : CredentialRecord) :
    (credentialBytes record).length = kCredHeaderSize + record.username.toList.length := by
  unfold credentialBytes
  simp only [List.length_append, List.length_ofFn, length_leBytes, List.length_map, List.length_singleton]

theorem getD_credentialBytes {record : CredentialRecord} (h : record.username.toList.length < 256) :
    ((credentialBytes record).getD (kCredHeaderSize - 1) 0).toNat = record.username.toList.length := by
  have hlong : kCredHeaderSize - 1 < (credentialBytes record).length := by
    rw [length_credentialBytes]
    exact Nat.lt_add_right _ (by decide)
  have hslice : slice (kCredHeaderSize - 1) 1 (credentialBytes record) = [BitVec.ofNat 8 record.username.toList.length] := by
    refine slice_eq ([kCredVersion] ++ leBytes 4 record.iterations.toNat ++ List.ofFn record.salt ++ List.ofFn record.hash)
      _ (record.username.toList.map byteOf) ?_ ?_ rfl
    · unfold credentialBytes
      rw [List.append_assoc]
    · simp only [List.length_append, List.length_ofFn, length_leBytes, List.length_singleton]
      rfl
  rw [slice_one hlong] at hslice
  rw [List.head_eq_of_cons_eq hslice, BitVec.toNat_ofNat, Nat.mod_eq_of_lt h]

theorem map_charOf_byteOf {name : List Char} (h : ∀ c ∈ name, c.toNat < 256) : (name.map byteOf).map charOf = name := by
  rw [List.map_map]
  conv_rhs => rw [← List.map_id name]
  exact List.map_congr_left fun c hc => charOf_byteOf (h c hc)

theorem map_byteOf_charOf (buf : List Byte) : (buf.map charOf).map byteOf = buf := by
  rw [List.map_map]
  conv_rhs => rw [← List.map_id buf]
  exact List.map_congr_left fun b _ => byteOf_charOf b

/-- Each field of a record is read from where it was put. -/
theorem credentialsAt_credentialBytes {record : CredentialRecord} (h : ∀ c ∈ record.username.toList, c.toNat < 256) :
    credentialsAt record.username.toList.length (credentialBytes record) = record := by
  have hlong : 53 ≤ (credentialBytes record).length := by
    rw [length_credentialBytes]
    exact Nat.le_add_right_of_le (by decide)
  have hiterations : slice 1 4 (credentialBytes record) = leBytes 4 record.iterations.toNat := by
    refine slice_eq [kCredVersion] _ (List.ofFn record.salt ++ (List.ofFn record.hash
      ++ ([BitVec.ofNat 8 record.username.toList.length] ++ record.username.toList.map byteOf))) ?_ rfl (length_leBytes _ _)
    unfold credentialBytes
    simp only [List.append_assoc]
  have hsalt : slice 5 16 (credentialBytes record) = List.ofFn record.salt := by
    refine slice_eq ([kCredVersion] ++ leBytes 4 record.iterations.toNat) _ (List.ofFn record.hash
      ++ ([BitVec.ofNat 8 record.username.toList.length] ++ record.username.toList.map byteOf)) ?_ ?_ List.length_ofFn
    · unfold credentialBytes
      simp only [List.append_assoc]
    · rw [List.length_append, length_leBytes, List.length_singleton]
  have hhash : slice 21 32 (credentialBytes record) = List.ofFn record.hash := by
    refine slice_eq ([kCredVersion] ++ leBytes 4 record.iterations.toNat ++ List.ofFn record.salt) _
      ([BitVec.ofNat 8 record.username.toList.length] ++ record.username.toList.map byteOf) ?_ ?_ List.length_ofFn
    · unfold credentialBytes
      simp only [List.append_assoc]
    · rw [List.length_append, List.length_append, length_leBytes, List.length_ofFn, List.length_singleton]
  have hname : slice kCredHeaderSize record.username.toList.length (credentialBytes record)
      = record.username.toList.map byteOf := by
    refine slice_eq ([kCredVersion] ++ leBytes 4 record.iterations.toNat ++ List.ofFn record.salt
      ++ List.ofFn record.hash ++ [BitVec.ofNat 8 record.username.toList.length]) _ [] ?_ ?_ (List.length_map _)
    · rw [List.append_nil]
      rfl
    · simp only [List.length_append, List.length_ofFn, length_leBytes, List.length_singleton]
  have hsaltArray : arrayAt 5 16 (credentialBytes record) = record.salt := arrayAt_eq (by omega) hsalt
  have hhashArray : arrayAt (5 + 16) 32 (credentialBytes record) = record.hash := arrayAt_eq (by omega) hhash
  unfold credentialsAt
  rw [hname, map_charOf_byteOf h, String.ofList_toList, hsaltArray, hhashArray, uint32At_eq hiterations]

/-- A blob with the version and the length of its user name is the one of its record. -/
theorem credentialBytes_credentialsAt {buf : List Byte} {userLen : Nat} (hlong : kCredHeaderSize + userLen = buf.length)
    (hversion : buf.getD 0 0 = kCredVersion) (hlength : (buf.getD (kCredHeaderSize - 1) 0).toNat = userLen) :
    credentialBytes (credentialsAt userLen buf) = buf := by
  have hheader : kCredHeaderSize = 54 := rfl
  have hnameLength : (slice kCredHeaderSize userLen buf).length = userLen := length_slice hlong.le
  have hbyte : BitVec.ofNat 8 userLen = buf.getD (kCredHeaderSize - 1) 0 := by
    rw [← hlength, BitVec.ofNat_toNat, BitVec.setWidth_eq]
  have hfirst : [kCredVersion] = buf.take 0 ++ slice 0 1 buf := by
    rw [slice_one (by omega), hversion]
    rfl
  have hlast : [BitVec.ofNat 8 userLen] = slice (kCredHeaderSize - 1) 1 buf := by
    rw [slice_one (by omega), hbyte]
  unfold credentialBytes credentialsAt
  rw [String.toList_ofList, List.length_map, hnameLength, map_byteOf_charOf, leBytes_uint32At (by omega),
    ofFn_arrayAt (by omega), ofFn_arrayAt (by omega), hfirst, hlast]
  calc buf.take 0 ++ slice 0 1 buf ++ slice 1 4 buf ++ slice 5 16 buf ++ slice (5 + 16) 32 buf
        ++ slice (kCredHeaderSize - 1) 1 buf ++ slice kCredHeaderSize userLen buf
      = buf.take (kCredHeaderSize + userLen) := by simp only [take_append_slice, Nat.zero_add, Nat.reduceAdd, Nat.add_one_sub_one]
    _ = buf := by rw [hlong, List.take_length]

/-! ### What a save stores -/

/-- The blob under a key. -/
def stored (nvs : Nvs) (key : String) : Option (List Byte) := nvs.bind fun prefs => prefs.find key

theorem stored_getD_empty (nvs : Nvs) (key : String) : (nvs.getD Store.empty).find key = stored nvs key := by
  cases nvs <;> rfl

variable {call : NvsCall} {nvs : Nvs}

/-- A save of credentials stores their blob, or leaves the keys as they are. -/
theorem saveCredentials_cases (call : NvsCall) (record : CredentialRecord) (nvs : Nvs) :
    ((saveCredentials call record nvs).1 = false ∧ ∀ key, stored (saveCredentials call record nvs).2 key = stored nvs key)
      ∨ (saveCredentials call record nvs).1 = true
        ∧ ∀ key, stored (saveCredentials call record nvs).2 key
            = if key = kKeyCred then some (credentialBytes record) else stored nvs key := by
  unfold saveCredentials beginWriting putBytes
  dsimp only
  split
  · exact Or.inl ⟨rfl, fun key => rfl⟩
  cases call.opened with
  | false => exact Or.inl ⟨rfl, fun key => rfl⟩
  | true =>
      rw [if_pos rfl]
      dsimp only
      cases call.written with
      | false => exact Or.inl ⟨rfl, stored_getD_empty nvs⟩
      | true =>
          refine Or.inr ⟨rfl, fun key => ?_⟩
          rw [← stored_getD_empty nvs]
          exact Store.find_set ..

/-- What the key of the sessions holds for them. -/
def sessionsBlob (sessions : List PersistentSession) : Option (List Byte) :=
  if sessions = [] then none else some (sessions.flatMap sessionBytes)

theorem saveSessions_cases (call : NvsCall) (sessions : List PersistentSession) (nvs : Nvs) :
    ((saveSessions call sessions nvs).1 = false ∧ ∀ key, stored (saveSessions call sessions nvs).2 key = stored nvs key)
      ∨ (saveSessions call sessions nvs).1 = true
        ∧ ∀ key, stored (saveSessions call sessions nvs).2 key
            = if key = kKeySessions then sessionsBlob sessions else stored nvs key := by
  unfold saveSessions beginWriting putBytes remove
  dsimp only
  cases call.opened with
  | false => exact Or.inl ⟨rfl, fun key => rfl⟩
  | true =>
      rw [if_pos rfl]
      dsimp only
      by_cases hnone : sessions = []
      · have hblob : sessionsBlob sessions = none := if_pos hnone
        rw [if_pos hnone, hblob]
        by_cases hkey : (nvs.getD Store.empty).hasKey kKeySessions = true
        · rw [if_pos hkey]
          cases call.removed with
          | false => exact Or.inl ⟨rfl, stored_getD_empty nvs⟩
          | true =>
              refine Or.inr ⟨hkey, fun key => ?_⟩
              rw [← stored_getD_empty nvs]
              exact Store.find_remove ..
        · rw [if_neg hkey]
          refine Or.inr ⟨rfl, fun key => ?_⟩
          have hfind := Option.not_isSome_iff_eq_none.mp hkey
          split
          · rename_i heq
            rw [heq]
            exact hfind
          · exact stored_getD_empty nvs key
      · have hblob : sessionsBlob sessions = some (sessions.flatMap sessionBytes) := if_neg hnone
        rw [if_neg hnone, hblob]
        cases call.allocated with
        | false => exact Or.inl ⟨rfl, stored_getD_empty nvs⟩
        | true =>
            rw [if_neg (by decide)]
            cases call.written with
            | false => exact Or.inl ⟨rfl, stored_getD_empty nvs⟩
            | true =>
                refine Or.inr ⟨rfl, fun key => ?_⟩
                rw [← stored_getD_empty nvs]
                exact Store.find_set ..

/-- Nothing but the platform fails a save of a record with a user name of 1 to 32 bytes. -/
theorem saveCredentials_of_faithful (hcall : call.Faithful) {record : CredentialRecord} (h : Storable record) :
    (saveCredentials call record nvs).1 = true := by
  have hsize : ¬ (record.username.toList.length = 0 ∨ kCredMaxSize < kCredHeaderSize + record.username.toList.length) := by
    have hname := h.name
    unfold kCredMaxSize
    omega
  unfold saveCredentials beginWriting putBytes
  dsimp only
  rw [if_neg hsize, if_pos hcall.opened]
  dsimp only
  rw [if_pos hcall.written]

theorem saveSessions_of_faithful (hcall : call.Faithful) (sessions : List PersistentSession) :
    (saveSessions call sessions nvs).1 = true := by
  unfold saveSessions beginWriting putBytes remove
  dsimp only
  rw [if_pos hcall.opened]
  dsimp only
  split
  · split
    · rename_i hkey
      rw [if_pos hcall.removed]
      exact hkey
    · rfl
  · rw [if_neg (by simp [hcall.allocated]), if_pos hcall.written]

/-! ### What a load accepts -/

/-- What is read from a blob, whatever it holds. -/
theorem loadCredentials_of_stored (hopened : call.opened = true) (hread : call.read = true) {buf : List Byte}
    (h : stored nvs kKeyCred = some buf) (out : CredentialRecord) :
    loadCredentials call nvs out
      = if buf.length < kCredHeaderSize + 1 ∨ kCredMaxSize < buf.length ∨ buf.getD 0 0 ≠ kCredVersion
          ∨ (buf.getD (kCredHeaderSize - 1) 0).toNat = 0
          ∨ kCredHeaderSize + (buf.getD (kCredHeaderSize - 1) 0).toNat ≠ buf.length then (false, out)
        else (decide (0 < (credentialsAt (buf.getD (kCredHeaderSize - 1) 0).toNat buf).iterations),
          credentialsAt (buf.getD (kCredHeaderSize - 1) 0).toNat buf) := by
  cases nvs with
  | none => cases h
  | some prefs =>
      have hfind : prefs.find kKeyCred = some buf := h
      have hkey : prefs.hasKey kKeyCred = true := by rw [Store.hasKey, hfind, Option.isSome_some]
      have hlength : getBytesLength prefs kKeyCred = buf.length := by rw [getBytesLength, hfind, Option.getD_some]
      have hbytes : getBytes call prefs kKeyCred = buf := by rw [getBytes, if_pos hread, hfind, Option.getD_some]
      unfold loadCredentials beginReading
      rw [if_pos hopened]
      dsimp only
      rw [if_pos hkey, hlength, hbytes]
      split_ifs <;> first | rfl | (exfalso; tauto)

theorem loadCredentials_of_unread (h : call.opened = false ∨ call.read = false ∨ stored nvs kKeyCred = none)
    (out : CredentialRecord) : loadCredentials call nvs out = (false, out) := by
  unfold loadCredentials beginReading
  cases hopened : call.opened with
  | false => rfl
  | true =>
      rw [if_pos rfl]
      cases nvs with
      | none => rfl
      | some prefs =>
          dsimp only
          apply if_pos
          rcases h with h | h | h
          · rw [hopened] at h
            cases h
          · have hbytes : getBytes call prefs kKeyCred = [] := if_neg (by simp [h])
            rw [hbytes, List.length_nil]
            omega
          · have hkey : ¬ prefs.hasKey kKeyCred = true := by
              intro hkey
              rw [Store.hasKey, show prefs.find kKeyCred = none from h] at hkey
              cases hkey
            rw [if_neg hkey]
            exact Or.inl (Nat.succ_pos _)

/-- Credentials are loaded exactly from the blob that a save of them writes. -/
theorem loadCredentials_eq_true_iff {out record : CredentialRecord} :
    loadCredentials call nvs out = (true, record)
      ↔ call.opened = true ∧ call.read = true ∧ Storable record ∧ stored nvs kKeyCred = some (credentialBytes record) := by
  constructor
  · intro h
    have hopened : call.opened = true := by
      by_contra hclosed
      rw [loadCredentials_of_unread (Or.inl (Bool.eq_false_iff.mpr hclosed))] at h
      cases h
    have hread : call.read = true := by
      by_contra hfails
      rw [loadCredentials_of_unread (Or.inr (Or.inl (Bool.eq_false_iff.mpr hfails)))] at h
      cases h
    cases hstored : stored nvs kKeyCred with
    | none =>
        rw [loadCredentials_of_unread (Or.inr (Or.inr hstored))] at h
        cases h
    | some buf =>
        rw [loadCredentials_of_stored hopened hread hstored] at h
        split at h
        · cases h
        rename_i hgood
        obtain ⟨hiterations, hrecord⟩ := Prod.mk.inj h
        simp only [not_or, not_lt, ne_eq, not_not] at hgood
        obtain ⟨hshort, hlong, hversion, hname, hsize⟩ := hgood
        have hblob := credentialBytes_credentialsAt hsize hversion rfl
        rw [hrecord] at hblob hiterations
        refine ⟨hopened, hread, ⟨?_, ?_, of_decide_eq_true hiterations⟩, congrArg some hblob.symm⟩
        · have hlength := length_credentialBytes record
          rw [hblob] at hlength
          unfold kCredMaxSize at hlong
          omega
        · intro c hc
          rw [← hrecord] at hc
          unfold credentialsAt at hc
          dsimp only at hc
          rw [String.toList_ofList] at hc
          obtain ⟨b, -, rfl⟩ := List.mem_map.mp hc
          rw [toNat_charOf]
          exact b.isLt
  · rintro ⟨hopened, hread, h, hstored⟩
    have hname := h.name
    have hlength := length_credentialBytes record
    have hversion : (credentialBytes record).getD 0 0 = kCredVersion := rfl
    have huser : ((credentialBytes record).getD (kCredHeaderSize - 1) 0).toNat = record.username.toList.length := getD_credentialBytes (by omega)
    rw [loadCredentials_of_stored hopened hread hstored, huser, credentialsAt_credentialBytes h.bytes, if_neg,
      decide_eq_true h.iterations]
    rw [hlength]
    rintro (hshort | hlong | hother | hnone | hsize)
    · omega
    · unfold kCredMaxSize at hlong
      omega
    · exact hother hversion
    · omega
    · exact hsize rfl

theorem length_sessionBytes (session : PersistentSession) : (sessionBytes session).length = kSessionRecordSize := by
  unfold sessionBytes
  rw [List.length_append, List.length_ofFn, length_leBytes]

theorem sessionAt_sessionBytes (session : PersistentSession) : sessionAt (sessionBytes session) = session := by
  have hlong : 32 ≤ (sessionBytes session).length := by
    rw [length_sessionBytes]
    decide
  have hhash : slice 0 32 (sessionBytes session) = List.ofFn session.hash :=
    slice_eq [] _ (leBytes 4 session.seq.toNat) rfl rfl List.length_ofFn
  have hseq : slice 32 4 (sessionBytes session) = leBytes 4 session.seq.toNat := by
    refine slice_eq (List.ofFn session.hash) _ [] ?_ List.length_ofFn (length_leBytes _ _)
    rw [List.append_nil]
    rfl
  unfold sessionAt
  rw [arrayAt_eq hlong hhash, uint32At_eq hseq]

theorem sessionBytes_sessionAt {rec : List Byte} (h : rec.length = kSessionRecordSize) :
    sessionBytes (sessionAt rec) = rec := by
  have hlong : rec.length = 32 + 4 := h
  unfold sessionBytes sessionAt
  dsimp only
  rw [ofFn_arrayAt (by omega), leBytes_uint32At (by omega)]
  calc slice 0 32 rec ++ slice 32 4 rec = rec.take (0 + 32) ++ slice 32 4 rec := by
        rw [← take_append_slice 0 32 rec, List.take_zero, List.nil_append]
    _ = rec := by rw [Nat.zero_add, take_append_slice, ← hlong, List.take_length]

theorem length_flatMap_sessionBytes (sessions : List PersistentSession) :
    (sessions.flatMap sessionBytes).length = sessions.length * kSessionRecordSize := by
  induction sessions with
  | nil => rw [List.flatMap_nil, List.length_nil, List.length_nil, Nat.zero_mul]
  | cons session rest ih =>
      rw [List.flatMap_cons, List.length_append, length_sessionBytes, ih, List.length_cons, Nat.succ_mul, Nat.add_comm]

theorem loadSessions_of_stored {buf : List Byte} (h : stored nvs kKeySessions = some buf) (max : Nat) :
    loadSessions call nvs max
      = if call.opened = false ∨ buf.length = 0 ∨ buf.length % kSessionRecordSize ≠ 0
          ∨ max < buf.length / kSessionRecordSize then (true, [])
        else if call.allocated = true ∧ call.read = true then (true, (records kSessionRecordSize buf).map sessionAt)
        else (false, []) := by
  cases nvs with
  | none => cases h
  | some prefs =>
      have hfind : prefs.find kKeySessions = some buf := h
      have hkey : ¬ prefs.hasKey kKeySessions = false := by rw [Store.hasKey, hfind, Option.isSome_some]; decide
      have hlength : getBytesLength prefs kKeySessions = buf.length := by rw [getBytesLength, hfind, Option.getD_some]
      unfold loadSessions beginReading getBytes
      cases hopened : call.opened with
      | false => rfl
      | true =>
          rw [if_pos rfl]
          dsimp only
          rw [if_neg hkey, hlength, hfind, Option.getD_some]
          by_cases hbad : buf.length = 0 ∨ buf.length % kSessionRecordSize ≠ 0 ∨ max < buf.length / kSessionRecordSize
          · rw [if_pos hbad, if_pos (Or.inr hbad)]
          · rw [if_neg hbad, if_neg (not_or.mpr ⟨by decide, hbad⟩)]
            cases call.allocated with
            | false => rfl
            | true =>
                cases call.read with
                | false => exact if_neg fun hempty : ([] : List Byte).length = buf.length => hbad (Or.inl hempty.symm)
                | true => exact if_pos rfl

theorem loadSessions_of_none (h : stored nvs kKeySessions = none) (max : Nat) : loadSessions call nvs max = (true, []) := by
  unfold loadSessions beginReading
  cases call.opened with
  | false => rfl
  | true =>
      cases nvs with
      | none => rfl
      | some prefs =>
          have hfind : prefs.find kKeySessions = none := h
          have hkey : prefs.hasKey kKeySessions = false := by rw [Store.hasKey, hfind, Option.isSome_none]
          rw [if_pos rfl]
          dsimp only
          rw [if_pos hkey]

/-- What a save of sessions writes is loaded, whole. -/
theorem loadSessions_of_sessionsBlob (hcall : call.Faithful) {sessions : List PersistentSession} {max : Nat}
    (hfew : sessions.length ≤ max) (h : stored nvs kKeySessions = sessionsBlob sessions) :
    loadSessions call nvs max = (true, sessions) := by
  by_cases hnone : sessions = []
  · rw [loadSessions_of_none (h.trans (if_pos hnone)), hnone]
  · have hpos := List.length_pos_iff.mpr hnone
    have hlength := length_flatMap_sessionBytes sessions
    have hsessions : ((sessions.flatMap sessionBytes) |> records kSessionRecordSize).map sessionAt = sessions := by
      rw [records_flatMap length_sessionBytes (by decide), List.map_map]
      conv_rhs => rw [← List.map_id sessions]
      exact List.map_congr_left fun session _ => sessionAt_sessionBytes session
    rw [loadSessions_of_stored (h.trans (if_neg hnone)), if_neg, if_pos ⟨hcall.allocated, hcall.read⟩, hsessions]
    rw [hlength, Nat.mul_mod_left, Nat.mul_div_cancel _ (by decide), hcall.opened]
    rintro (hclosed | hempty | hodd | hmany)
    · cases hclosed
    · exact (Nat.mul_pos hpos (by decide)).ne' hempty
    · exact hodd rfl
    · exact hfew.not_gt hmany

/-- The sessions that are loaded are none, or all that the blob has. -/
theorem loadSessions_whole (call : NvsCall) (nvs : Nvs) (max : Nat) :
    (loadSessions call nvs max).2 = []
      ∨ (loadSessions call nvs max).1 = true ∧ (loadSessions call nvs max).2.length ≤ max
        ∧ stored nvs kKeySessions = some ((loadSessions call nvs max).2.flatMap sessionBytes) := by
  cases hstored : stored nvs kKeySessions with
  | none =>
      rw [loadSessions_of_none hstored]
      exact Or.inl rfl
  | some buf =>
      rw [loadSessions_of_stored hstored]
      split
      · exact Or.inl rfl
      rename_i hgood
      split
      · simp only [not_or, not_lt, ne_eq, not_not] at hgood
        obtain ⟨-, -, hwhole, hfew⟩ := hgood
        have hcount : buf.length = buf.length / kSessionRecordSize * kSessionRecordSize :=
          (Nat.div_mul_cancel (Nat.dvd_of_mod_eq_zero hwhole)).symm
        refine Or.inr ⟨rfl, ?_, ?_⟩
        · unfold records
          rw [List.length_map, List.length_map, List.length_range]
          exact hfew
        · have hback : ((records kSessionRecordSize buf).map sessionAt).flatMap sessionBytes
              = (records kSessionRecordSize buf).flatten := by
            rw [List.flatMap_map, List.flatMap_def]
            congr 1
            conv_rhs => rw [← List.map_id (records kSessionRecordSize buf)]
            exact List.map_congr_left fun rec hrec => sessionBytes_sessionAt (length_of_mem_records hrec)
          rw [hback, flatten_records (by decide) hcount]
      · exact Or.inl rfl

/-! ### The stores in memory -/

/-- The credentials that a boot gets. -/
def loadedCredentials (call : NvsCall) (nvs : Nvs) (out : CredentialRecord) : Option CredentialRecord :=
  if (loadCredentials call nvs out).1 then some (loadCredentials call nvs out).2 else none

theorem loadedCredentials_eq_some_iff {out record : CredentialRecord} :
    loadedCredentials call nvs out = some record ↔ loadCredentials call nvs out = (true, record) := by
  unfold loadedCredentials
  constructor
  · intro h
    split at h
    · rename_i hok
      exact Prod.ext hok (Option.some.inj h)
    · cases h
  · intro h
    rw [h, if_pos rfl]

/-- A boot is configured exactly when a stored record is loaded, and then with that record; else the record in memory stays. -/
theorem begin_cases (call : NvsCall) (nvs : Nvs) (out : CredentialRecord) (store : CredentialStore) :
    (∃ record, loadCredentials call nvs out = (true, record)
        ∧ CredentialStore.begin (loadedCredentials call nvs out) store = { store with record, configured := true })
      ∨ (loadCredentials call nvs out).1 = false
        ∧ CredentialStore.begin (loadedCredentials call nvs out) store = { store with configured := false } := by
  cases hloaded : loadedCredentials call nvs out with
  | none =>
      refine Or.inr ⟨?_, rfl⟩
      by_contra hok
      unfold loadedCredentials at hloaded
      rw [if_pos (Bool.eq_true_of_not_eq_false hok)] at hloaded
      cases hloaded
  | some record =>
      have hload := loadedCredentials_eq_some_iff.mp hloaded
      exact Or.inl ⟨record, hload, if_pos (loadCredentials_eq_true_iff.mp hload).2.2.1.iterations⟩

/-- The flash holds the credentials and the sessions that the stores take for stored. -/
structure Represents (nvs : Nvs) (credentials : Option CredentialRecord) (sessions : List PersistentSession) : Prop where
  credentialBlob : stored nvs kKeyCred = credentials.map credentialBytes
  storable : ∀ record ∈ credentials, Storable record
  sessionBlob : stored nvs kKeySessions = sessionsBlob sessions
  few : sessions.length ≤ kMaxPersistentSessions

namespace Represents

variable {credentials : Option CredentialRecord} {sessions : List PersistentSession}

theorem nothing : Represents none none [] := ⟨rfl, fun _ h => (nomatch h), rfl, Nat.zero_le _⟩

theorem loadedCredentials_eq (h : Represents nvs credentials sessions) (hcall : call.Faithful) (out : CredentialRecord) :
    loadedCredentials call nvs out = credentials := by
  cases hcredentials : credentials with
  | none =>
      have hstored := h.credentialBlob
      rw [hcredentials] at hstored
      unfold loadedCredentials
      rw [loadCredentials_of_unread (Or.inr (Or.inr hstored))]
      rfl
  | some record =>
      have hstored := h.credentialBlob
      rw [hcredentials] at hstored
      rw [loadedCredentials_eq_some_iff, loadCredentials_eq_true_iff]
      exact ⟨hcall.opened, hcall.read, h.storable record hcredentials, hstored⟩

theorem loadSessions_eq (h : Represents nvs credentials sessions) (hcall : call.Faithful) :
    loadSessions call nvs kMaxPersistentSessions = (true, sessions) :=
  loadSessions_of_sessionsBlob hcall h.few h.sessionBlob

theorem saveCredentials (h : Represents nvs credentials sessions) {record : CredentialRecord} (hrecord : Storable record)
    (call : NvsCall) :
    Represents (saveCredentials call record nvs).2
      (if (NvsAuthStorage.saveCredentials call record nvs).1 then some record else credentials) sessions := by
  rcases saveCredentials_cases call record nvs with ⟨hfails, hsame⟩ | ⟨hok, hstored⟩
  · rw [hfails, if_neg Bool.false_ne_true]
    exact ⟨(hsame _).trans h.credentialBlob, h.storable, (hsame _).trans h.sessionBlob, h.few⟩
  · rw [hok, if_pos rfl]
    refine ⟨(hstored _).trans (if_pos rfl), fun other hother => ?_, ?_, h.few⟩
    · obtain rfl := Option.some.inj hother
      exact hrecord
    · exact ((hstored _).trans (if_neg (by decide))).trans h.sessionBlob

theorem saveSessions (h : Represents nvs credentials sessions) {new : List PersistentSession}
    (hnew : new.length ≤ kMaxPersistentSessions) (call : NvsCall) :
    Represents (saveSessions call new nvs).2 credentials
      (if (NvsAuthStorage.saveSessions call new nvs).1 then new else sessions) := by
  rcases saveSessions_cases call new nvs with ⟨hfails, hsame⟩ | ⟨hok, hstored⟩
  · rw [hfails, if_neg Bool.false_ne_true]
    exact ⟨(hsame _).trans h.credentialBlob, h.storable, (hsame _).trans h.sessionBlob, h.few⟩
  · rw [hok, if_pos rfl]
    refine ⟨?_, h.storable, (hstored _).trans (if_pos rfl), hnew⟩
    exact ((hstored _).trans (if_neg (by decide))).trans h.credentialBlob

end Represents

/-- What is given to the storage. -/
inductive Save where
  | credentials (record : CredentialRecord)
  | sessions (list : List PersistentSession)

/-- A record or a list that the stores in memory can have. -/
def Save.Valid : Save → Prop
  | .credentials record => Storable record
  | .sessions list => list.length ≤ kMaxPersistentSessions

/-- The flash, with the credentials and the sessions of the last saves that succeeded. -/
structure Saved where
  nvs : Nvs
  credentials : Option CredentialRecord
  sessions : List PersistentSession

def saveStep (s : Saved) (event : NvsCall × Save) : Saved :=
  match event.2 with
  | .credentials record =>
      { s with
        nvs := (saveCredentials event.1 record s.nvs).2
        credentials := if (saveCredentials event.1 record s.nvs).1 then some record else s.credentials }
  | .sessions list =>
      { s with
        nvs := (saveSessions event.1 list s.nvs).2
        sessions := if (saveSessions event.1 list s.nvs).1 then list else s.sessions }

/-- A new device. -/
def erased : Saved := ⟨none, none, []⟩

theorem saveStep_represents {s : Saved} (h : Represents s.nvs s.credentials s.sessions) {event : NvsCall × Save}
    (hvalid : event.2.Valid) :
    Represents (saveStep s event).nvs (saveStep s event).credentials (saveStep s event).sessions := by
  obtain ⟨call, save⟩ := event
  cases save with
  | credentials record =>
      have hrecord : Storable record := hvalid
      exact h.saveCredentials hrecord call
  | sessions list =>
      have hfew : list.length ≤ kMaxPersistentSessions := hvalid
      exact h.saveSessions hfew call

/-- After any run of saves, failed ones included, the flash holds what was saved last. -/
theorem run_represents {s : Saved} (h : Represents s.nvs s.credentials s.sessions) {events : List (NvsCall × Save)}
    (hvalid : ∀ event ∈ events, event.2.Valid) :
    Represents (events.foldl saveStep s).nvs (events.foldl saveStep s).credentials (events.foldl saveStep s).sessions := by
  induction events generalizing s with
  | nil => exact h
  | cons event rest ih =>
      rw [List.forall_mem_cons] at hvalid
      exact ih (saveStep_represents h hvalid.1) hvalid.2

/-- What a run of saves on a new device leaves is what a boot loads. -/
theorem load_after_run {events : List (NvsCall × Save)} (hvalid : ∀ event ∈ events, event.2.Valid) {call : NvsCall}
    (hcall : call.Faithful) (out : CredentialRecord) :
    loadedCredentials call (events.foldl saveStep erased).nvs out = (events.foldl saveStep erased).credentials
      ∧ loadSessions call (events.foldl saveStep erased).nvs kMaxPersistentSessions
        = (true, (events.foldl saveStep erased).sessions) := by
  have h := run_represents (s := erased) Represents.nothing hvalid
  exact ⟨h.loadedCredentials_eq hcall out, h.loadSessions_eq hcall⟩

/-- Whatever the flash held before, a record and a list that are saved are the ones that are loaded. Conversely whatever the flash holds, a boot is configured only with the record of a whole blob, and loads all sessions of a whole blob or none. -/
theorem loads_what_was_saved (nvs : Nvs) {call : NvsCall} (hcall : call.Faithful) :
    (∀ save record out, Storable record → (saveCredentials save record nvs).1 = true →
        loadCredentials call (saveCredentials save record nvs).2 out = (true, record))
      ∧ (∀ save sessions, sessions.length ≤ kMaxPersistentSessions → (saveSessions save sessions nvs).1 = true →
        loadSessions call (saveSessions save sessions nvs).2 kMaxPersistentSessions = (true, sessions))
      ∧ (∀ record, Storable record → (saveCredentials call record nvs).1 = true)
      ∧ (∀ sessions, (saveSessions call sessions nvs).1 = true)
      ∧ (∀ load out store,
        (∃ record, Storable record ∧ stored nvs kKeyCred = some (credentialBytes record)
            ∧ CredentialStore.begin (loadedCredentials load nvs out) store = { store with record, configured := true })
          ∨ CredentialStore.begin (loadedCredentials load nvs out) store = { store with configured := false })
      ∧ ∀ load max, (loadSessions load nvs max).2 = []
          ∨ (loadSessions load nvs max).2.length ≤ max
            ∧ stored nvs kKeySessions = some ((loadSessions load nvs max).2.flatMap sessionBytes) := by
  refine ⟨?_, ?_, fun record => saveCredentials_of_faithful hcall, fun sessions => saveSessions_of_faithful hcall sessions,
    ?_, ?_⟩
  · intro save record out hrecord hok
    rw [loadCredentials_eq_true_iff]
    refine ⟨hcall.opened, hcall.read, hrecord, ?_⟩
    rcases saveCredentials_cases save record nvs with ⟨hfails, -⟩ | ⟨-, hstored⟩
    · rw [hfails] at hok
      cases hok
    · exact (hstored _).trans (if_pos rfl)
  · intro save sessions hfew hok
    apply loadSessions_of_sessionsBlob hcall hfew
    rcases saveSessions_cases save sessions nvs with ⟨hfails, -⟩ | ⟨-, hstored⟩
    · rw [hfails] at hok
      cases hok
    · exact (hstored _).trans (if_pos rfl)
  · intro load out store
    rcases begin_cases load nvs out store with ⟨record, hload, hbegin⟩ | ⟨-, hbegin⟩
    · obtain ⟨-, -, hrecord, hstored⟩ := loadCredentials_eq_true_iff.mp hload
      exact Or.inl ⟨record, hrecord, hstored, hbegin⟩
    · exact Or.inr hbegin
  · intro load max
    rcases loadSessions_whole load nvs max with hnone | ⟨-, hfew, hstored⟩
    · exact Or.inl hnone
    · exact Or.inr ⟨hfew, hstored⟩

/-- A call in which nothing fails. -/
def goodCall : NvsCall := ⟨true, true, true, true, true⟩

theorem load_save_twice :
    loadCredentials goodCall (saveCredentials goodCall ⟨"admin", fun _ => 7#8, fun _ => 9#8, 10000⟩ none).2
        ⟨"", fun _ => 0#8, fun _ => 0#8, 0⟩ = (true, ⟨"admin", fun _ => 7#8, fun _ => 9#8, 10000⟩)
      ∧ loadSessions goodCall (saveSessions goodCall [⟨fun _ => 3#8, 1⟩, ⟨fun _ => 4#8, 4294967295⟩] none).2
        kMaxPersistentSessions = (true, [⟨fun _ => 3#8, 1⟩, ⟨fun _ => 4#8, 4294967295⟩]) := by
  have hrecord : Storable ⟨"admin", fun _ => 7#8, fun _ => 9#8, 10000⟩ := ⟨by decide, by simp, by decide⟩
  have hcall : goodCall.Faithful := ⟨rfl, rfl, rfl, rfl, rfl⟩
  obtain ⟨hcredentials, hsessions, hsaved, hsavedSessions, -, -⟩ := loads_what_was_saved none hcall
  exact ⟨hcredentials _ _ _ hrecord (hsaved _ hrecord), hsessions _ _ (by decide) (hsavedSessions _)⟩

end EspNut.NvsAuthStorage
