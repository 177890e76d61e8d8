import EspNut.Lib.Bits
import Mathlib.Data.Fintype.Pi
import Mathlib.Data.List.FinRange

/-!
# Credentials of the Web UI

One user with a salted hash of the password. The hash is computed by the platform, which may fail in each call; the record in memory changes only once the storage holds the new one.
-/

namespace EspNut

open Lib

/-- A SHA-256, or a key derived from a password. -/
abbrev Digest := Fin 32 → Byte

abbrev Salt := Fin 16 → Byte

structure CredentialRecord where
  username : String
  salt : Salt
  hash : Digest
  iterations : UInt32
  deriving DecidableEq

/-- What the platform does during one call: the derived keys, none when it fails, the random bytes it gives and whether the storage takes what is saved. -/
structure AuthPlatform where
  deriveKey : String → Salt → UInt32 → Option Digest
  randomSalt : Salt
  randomToken : Fin 16 → Byte
  credentialsSaved : Bool
  sessionsSaved : Bool

/-- The record in use and the one the storage holds. -/
structure CredentialStore where
  record : CredentialRecord
  configured : Bool
  stored : Option CredentialRecord
  deriving DecidableEq

namespace CredentialStore

def kDefaultIterations : UInt32 := 10000

/-! ### Comparisons without an early exit -/

/-- The differences of all bytes are or-ed before the test. -/
def constantTimeEquals {n : Nat} (a b : Fin n → Byte) : Bool :=
  (List.finRange n).foldl (fun diff i => diff ||| (a i ^^^ b i)) 0#8 = 0#8

/-- The user names differ; a given name that ends early is compared as if it went on with zeros. -/
def usernameDiffers (stored given : List Char) : Bool :=
  (List.range stored.length).foldl (fun diff i => diff || stored.getD i '\x00' ≠ given.getD i '\x00')
    (stored.length ≠ given.length)

theorem foldl_or_eq_zero_iff {n : Nat} (a b : Fin n → Byte) (indices : List (Fin n)) (diff : Byte) :
    indices.foldl (fun diff i => diff ||| (a i ^^^ b i)) diff = 0#8 ↔ diff = 0#8 ∧ ∀ i ∈ indices, a i = b i := by
  induction indices generalizing diff with
  | nil => simp
  | cons i rest ih =>
      rw [List.foldl_cons, ih, BitVec.or_eq_zero_iff, BitVec.xor_eq_zero_iff, List.forall_mem_cons, and_assoc]

theorem constantTimeEquals_iff {n : Nat} (a b : Fin n → Byte) : constantTimeEquals a b = true ↔ a = b := by
  unfold constantTimeEquals
  rw [decide_eq_true_iff, foldl_or_eq_zero_iff]
  constructor
  · intro h
    funext i
    exact h.2 i (List.mem_finRange i)
  · rintro rfl
    exact ⟨rfl, fun i _ => rfl⟩

theorem foldl_differs_eq_false_iff (stored given : List Char) (indices : List Nat) (diff : Bool) :
    indices.foldl (fun diff i => diff || stored.getD i '\x00' ≠ given.getD i '\x00') diff = false
      ↔ diff = false ∧ ∀ i ∈ indices, stored.getD i '\x00' = given.getD i '\x00' := by
  induction indices generalizing diff with
  | nil => simp
  | cons i rest ih =>
      rw [List.foldl_cons, ih, List.forall_mem_cons, ← and_assoc]
      simp

theorem usernameDiffers_eq_false_iff (stored given : List Char) : usernameDiffers stored given = false ↔ stored = given := by
  unfold usernameDiffers
  rw [foldl_differs_eq_false_iff]
  constructor
  · rintro ⟨hlength, hall⟩
    have hlength : stored.length = given.length := by simpa using hlength
    apply List.ext_getElem hlength
    intro i hstored hgiven
    have hsame := hall i (List.mem_range.mpr hstored)
    rwa [List.getD_eq_getElem _ _ hstored, List.getD_eq_getElem _ _ hgiven] at hsame
  · rintro rfl
    exact ⟨by simp, fun i _ => rfl⟩

/-! ### The record -/

/-- 1 to 32 printable characters. -/
def validateUsername (username : String) : Bool :=
  1 ≤ username.toList.length && username.toList.length ≤ 32
    && username.toList.all fun c => decide (0x20 ≤ c.toNat ∧ c.toNat ≤ 0x7E)

def validatePassword (password : String) : Bool :=
  8 ≤ password.toList.length && password.toList.length ≤ 64

inductive CreateResult where
  | ok | invalidUsername | invalidPassword | alreadyConfigured | storageError
  deriving DecidableEq

inductive ReplaceResult where
  | ok | invalidUsername | invalidPassword | storageError
  deriving DecidableEq

/-- The record the storage gives, when it can be used. -/
def begin (loaded : Option CredentialRecord) (store : CredentialStore) : CredentialStore :=
  match loaded with
  | some record => if 0 < record.iterations then { store with record, configured := true } else { store with configured := false }
  | none => { store with configured := false }

def hasCredentials (store : CredentialStore) : Bool := store.configured

def username (store : CredentialStore) : String := store.record.username

variable (platform : AuthPlatform)

/-- A new record with a new salt, none when the key cannot be derived. -/
def newRecord (username password : String) : Option CredentialRecord :=
  (platform.deriveKey password platform.randomSalt kDefaultIterations).map fun hash =>
    { username, salt := platform.randomSalt, hash, iterations := kDefaultIterations }

/-- The storage first: the record in memory changes only after it. -/
def saveRecord (record : CredentialRecord) : Option CredentialStore :=
  if platform.credentialsSaved then some { record, configured := true, stored := some record } else none

/-- The first credentials. -/
def create (username password : String) (store : CredentialStore) : CreateResult × CredentialStore :=
  if store.configured then (.alreadyConfigured, store)
  else if validateUsername username = false then (.invalidUsername, store)
  else if validatePassword password = false then (.invalidPassword, store)
  else match newRecord platform username password with
    | none => (.storageError, store)
    | some record =>
        match saveRecord platform record with
        | none => (.storageError, store)
        | some store => (.ok, store)

/-- New credentials, whether or not there are any. -/
def replace (username password : String) (store : CredentialStore) : ReplaceResult × CredentialStore :=
  if validateUsername username = false then (.invalidUsername, store)
  else if validatePassword password = false then (.invalidPassword, store)
  else match newRecord platform username password with
    | none => (.storageError, store)
    | some record =>
        match saveRecord platform record with
        | none => (.storageError, store)
        | some store => (.ok, store)

/-- The key is derived even when the user name is wrong. -/
def verify (username password : String) (store : CredentialStore) : Bool :=
  if store.configured = false then false
  else
    let diff := usernameDiffers store.record.username.toList username.toList
    match platform.deriveKey password store.record.salt store.record.iterations with
    | none => false
    | some computed => diff = false && constantTimeEquals computed store.record.hash

/-! ### What the operations do -/

theorem verify_iff (username password : String) (store : CredentialStore) :
    verify platform username password store = true
      ↔ store.configured = true ∧ username = store.record.username
        ∧ platform.deriveKey password store.record.salt store.record.iterations = some store.record.hash := by
  unfold verify
  cases hconfigured : store.configured with
  | false => simp
  | true =>
      rw [if_neg (by simp)]
      cases hkey : platform.deriveKey password store.record.salt store.record.iterations with
      | none => simp
      | some computed =>
          have hname : usernameDiffers store.record.username.toList username.toList = false
              ↔ username = store.record.username := by
            rw [usernameDiffers_eq_false_iff, String.toList_inj, eq_comm]
          simp [hname, constantTimeEquals_iff]

theorem create_of_configured {store : CredentialStore} (h : store.configured = true) (username password : String) :
    create platform username password store = (.alreadyConfigured, store) := by
  unfold create
  rw [if_pos h]

/-- A replacement succeeds with the new record saved, or leaves everything as it was. -/
theorem replace_cases (username password : String) (store : CredentialStore) :
    ((replace platform username password store).1 ≠ .ok ∧ (replace platform username password store).2 = store)
      ∨ ∃ record, replace platform username password store
          = (.ok, { record, configured := true, stored := some record }) ∧ record.username = username := by
  unfold replace
  split
  · exact Or.inl ⟨by simp, rfl⟩
  split
  · exact Or.inl ⟨by simp, rfl⟩
  unfold newRecord saveRecord
  cases platform.deriveKey password platform.randomSalt kDefaultIterations with
  | none => exact Or.inl ⟨by simp, rfl⟩
  | some hash =>
      cases platform.credentialsSaved with
      | false => exact Or.inl ⟨by simp, rfl⟩
      | true => exact Or.inr ⟨_, rfl, rfl⟩

end CredentialStore

end EspNut
