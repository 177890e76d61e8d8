import EspNut.Lib.Plain

/-!
# Custom variables of the NUT server

A list of variables whose values replace those of the UPS or add to them. The keys look like NUT variables, are none of those the server builds itself and are unique ignoring case.
-/

namespace EspNut

open Lib

structure NutOverride where
  key : String
  value : String
  description : String
  deriving DecidableEq

namespace NutOverrides

def maxCount : Nat := 16
def maxKeyLength : Nat := 63
def maxValueLength : Nat := 64
def maxDescriptionLength : Nat := 64

inductive Check where
  | ok | invalidKey | protectedKey | invalidValue | invalidDescription | duplicateKey | tooMany
  deriving DecidableEq

def equalsIgnoreCase (a b : String) : Bool := Text.sameIgnoringCase a.toList b.toList

def startsWithIgnoreCase (s start : String) : Bool := Text.startsWith (Text.lower s) (Text.lower start)

def isPrintableText (s : String) (maxLen : Nat) : Bool :=
  s.toList.all (fun c => decide (0x20 ≤ c.toNat ∧ c.toNat ≤ 0x7E)) && decide (s.toList.length ≤ maxLen)

/-- Variables the server builds itself. -/
def isProtectedKey (key : String) : Bool :=
  equalsIgnoreCase key "ups.status" || startsWithIgnoreCase key "ups.status."
    || equalsIgnoreCase key "device.type" || startsWithIgnoreCase key "driver.parameter."

def isKeyChar (c : Char) : Bool :=
  decide ('a' ≤ c ∧ c ≤ 'z') || decide ('A' ≤ c ∧ c ≤ 'Z') || decide ('0' ≤ c ∧ c ≤ '9') || c = '_' || c = '-'

/-- The loop over a key: the parts so far and the length of the part being read. -/
def checkParts (parts partLen : Nat) : List Char → Bool
  | [] => decide (partLen ≠ 0 ∧ 2 ≤ parts)
  | c :: rest =>
      if c = '.' then if partLen = 0 then false else checkParts (parts + 1) 0 rest
      else if isKeyChar c then checkParts parts (partLen + 1) rest
      else false

/-- At least two parts of letters, digits, `_` and `-` between the dots. -/
def checkKey (key : String) : Check :=
  if key.toList.length = 0 ∨ maxKeyLength < key.toList.length then .invalidKey
  else if checkParts 1 0 key.toList = false then .invalidKey
  else if isProtectedKey key then .protectedKey
  else .ok

def checkEntry (o : NutOverride) : Check :=
  if checkKey o.key ≠ .ok then checkKey o.key
  else if isPrintableText o.value maxValueLength = false then .invalidValue
  else if isPrintableText o.description maxDescriptionLength = false then .invalidDescription
  else .ok

/-- The first key that repeats an earlier one. -/
def duplicateAt (earlier : List NutOverride) : Nat → List NutOverride → Option Nat
  | _, [] => none
  | i, o :: rest =>
      if earlier.any fun e => equalsIgnoreCase o.key e.key then some i
      else duplicateAt (earlier ++ [o]) (i + 1) rest

/-- The whole list: its length, then entry by entry, then duplicate keys; with the index of the bad entry. -/
def checkList (list : List NutOverride) : Check × Nat :=
  if maxCount < list.length then (.tooMany, maxCount)
  else
    match list.findIdx? fun o => decide (checkEntry o ≠ .ok) with
    | some i => ((list[i]?.map checkEntry).getD .ok, i)
    | none =>
        match duplicateAt [] 0 list with
        | some i => (.duplicateKey, i)
        | none => (.ok, 0)

/-- The override of a key, ignoring case. -/
def find (list : Option (List NutOverride)) (key : String) : Option NutOverride :=
  (list.getD []).find? fun o => equalsIgnoreCase o.key key

/-! ### What an accepted list promises -/

theorem equalsIgnoreCase_iff (a b : String) : equalsIgnoreCase a b = true ↔ Text.lower a = Text.lower b :=
  Text.sameIgnoringCase_iff_lower a b

theorem find_congr {list : Option (List NutOverride)} {a b : String} (h : Text.lower a = Text.lower b) :
    find list a = find list b := by
  unfold find
  congr 1
  funext o
  rw [Bool.eq_iff_iff, equalsIgnoreCase_iff, equalsIgnoreCase_iff, h]

theorem lower_of_find {list : Option (List NutOverride)} {key : String} {o : NutOverride} (h : find list key = some o) :
    o ∈ list.getD [] ∧ Text.lower o.key = Text.lower key :=
  ⟨List.mem_of_find?_eq_some h, (equalsIgnoreCase_iff o.key key).mp (by simpa using List.find?_some h)⟩

/-- No key repeats an earlier one. -/
theorem pairwise_of_duplicateAt {list : List NutOverride} {earlier : List NutOverride} {i : Nat}
    (h : duplicateAt earlier i list = none) :
    (∀ o ∈ list, ∀ e ∈ earlier, Text.lower o.key ≠ Text.lower e.key)
      ∧ list.Pairwise (fun a b => Text.lower a.key ≠ Text.lower b.key) := by
  induction list generalizing earlier i with
  | nil => exact ⟨by simp, List.Pairwise.nil⟩
  | cons o rest ih =>
      unfold duplicateAt at h
      split at h
      · exact absurd h (by simp)
      rename_i hnew
      obtain ⟨hrest, hpairwise⟩ := ih h
      rw [List.any_eq_true] at hnew
      refine ⟨?_, List.pairwise_cons.mpr ⟨?_, hpairwise⟩⟩
      · intro a ha e he
        rcases List.mem_cons.mp ha with rfl | htail
        · intro heq
          exact hnew ⟨e, he, (equalsIgnoreCase_iff a.key e.key).mpr heq⟩
        · exact hrest a htail e (List.mem_append_left _ he)
      · intro a ha heq
        exact hrest a ha o (List.mem_append_right _ (by simp)) heq.symm

/-- An accepted list has valid entries under keys that are unique ignoring case. -/
theorem checkList_ok {list : List NutOverride} (h : (checkList list).1 = .ok) :
    (∀ o ∈ list, checkEntry o = .ok) ∧ list.Pairwise (fun a b => Text.lower a.key ≠ Text.lower b.key) := by
  unfold checkList at h
  split at h
  · exact absurd h (by simp)
  split at h
  · rename_i i hbad
    obtain ⟨hlt, hcheck, -⟩ := List.findIdx?_eq_some_iff_getElem.mp hbad
    rw [List.getElem?_eq_getElem hlt] at h
    exact absurd h (by simpa using hcheck)
  · rename_i hgood
    split at h
    · exact absurd h (by simp)
    · rename_i hdistinct
      refine ⟨?_, (pairwise_of_duplicateAt hdistinct).2⟩
      intro o ho
      have := List.findIdx?_eq_none_iff.mp hgood o ho
      simpa using this

theorem isProtectedKey_of_ok {o : NutOverride} (h : checkEntry o = .ok) : isProtectedKey o.key = false := by
  have hkey : checkKey o.key = .ok := by
    unfold checkEntry at h
    split at h
    · exact h
    · rename_i hkey
      simpa using hkey
  unfold checkKey at hkey
  split at hkey
  · exact absurd hkey (by simp)
  split at hkey
  · exact absurd hkey (by simp)
  split at hkey
  · exact absurd hkey (by simp)
  · rename_i hfree
    simpa using hfree

theorem isControl_of_isKeyChar {c : Char} (h : isKeyChar c = true) : Text.isControl c = false := by
  have hrange : ∀ low high : Char, 0x20 ≤ low.toNat → high.toNat < 0x7F → low ≤ c ∧ c ≤ high → Text.isControl c = false := by
    intro low high hlow hhigh hc
    have hfirst : low.toNat ≤ c.toNat := hc.1
    have hlast : c.toNat ≤ high.toNat := hc.2
    simp only [Text.isControl, Bool.or_eq_false_iff, decide_eq_false_iff_not]
    omega
  simp only [isKeyChar, Bool.or_eq_true, decide_eq_true_eq] at h
  rcases h with (((hsmall | hcapital) | hdigit) | rfl) | rfl
  · exact hrange 'a' 'z' (by decide) (by decide) hsmall
  · exact hrange 'A' 'Z' (by decide) (by decide) hcapital
  · exact hrange '0' '9' (by decide) (by decide) hdigit
  · rfl
  · rfl

theorem isControl_of_checkParts {parts partLen : Nat} {chars : List Char}
    (h : checkParts parts partLen chars = true) : ∀ c ∈ chars, Text.isControl c = false := by
  induction chars generalizing parts partLen with
  | nil => exact List.forall_mem_nil _
  | cons c rest ih =>
      unfold checkParts at h
      split at h
      · rename_i hdot
        split at h
        · cases h
        · refine List.forall_mem_cons.mpr ⟨?_, ih h⟩
          rw [hdot]
          rfl
      split at h
      · rename_i hkey
        exact List.forall_mem_cons.mpr ⟨isControl_of_isKeyChar hkey, ih h⟩
      · cases h

theorem plain_of_isPrintableText {text : String} {maxLen : Nat} (h : isPrintableText text maxLen = true) :
    Text.Plain text := by
  apply Text.plain_of_printed
  intro c hc
  have hall := List.all_eq_true.mp (Bool.and_eq_true_iff.mp h).1 c hc
  exact of_decide_eq_true hall

theorem plain_of_checkEntry {o : NutOverride} (h : checkEntry o = .ok) :
    Text.Plain o.key ∧ Text.Plain o.value ∧ Text.Plain o.description := by
  unfold checkEntry at h
  split at h
  · rename_i hkey
    exact absurd h hkey
  · rename_i hkey
    have hchecked : checkKey o.key = .ok := not_not.mp hkey
    unfold checkKey at hchecked
    split at hchecked
    · cases hchecked
    split at hchecked
    · cases hchecked
    · rename_i hparts
      have hkey : Text.Plain o.key := isControl_of_checkParts (Bool.not_eq_false _ ▸ hparts)
      split at h
      · cases h
      · rename_i hvalue
        split at h
        · cases h
        · rename_i hdescription
          exact ⟨hkey, plain_of_isPrintableText (Bool.not_eq_false _ ▸ hvalue),
            plain_of_isPrintableText (Bool.not_eq_false _ ▸ hdescription)⟩

/-! ### Which lists are accepted -/

theorem duplicateAt_of_pairwise {list : List NutOverride} {earlier : List NutOverride} {i : Nat}
    (hnew : ∀ o ∈ list, ∀ e ∈ earlier, Text.lower o.key ≠ Text.lower e.key)
    (h : list.Pairwise fun a b => Text.lower a.key ≠ Text.lower b.key) : duplicateAt earlier i list = none := by
  induction list generalizing earlier i with
  | nil => rfl
  | cons o rest ih =>
      obtain ⟨hfirst, hrest⟩ := List.pairwise_cons.mp h
      have hfree : ¬ (earlier.any fun e => equalsIgnoreCase o.key e.key) = true := by
        rw [List.any_eq_true]
        rintro ⟨e, he, hsame⟩
        exact hnew o List.mem_cons_self e he ((equalsIgnoreCase_iff _ _).mp hsame)
      rw [duplicateAt, if_neg hfree]
      refine ih ?_ hrest
      intro a ha e he
      rcases List.mem_append.mp he with hold | hlast
      · exact hnew a (List.mem_cons_of_mem _ ha) e hold
      · rw [List.mem_singleton.mp hlast]
        exact (hfirst a ha).symm

/-- A list is accepted when it is short enough, its entries are valid and no key repeats. -/
theorem checkList_iff (list : List NutOverride) :
    (checkList list).1 = .ok ↔ list.length ≤ maxCount ∧ (∀ o ∈ list, checkEntry o = .ok)
      ∧ list.Pairwise fun a b => Text.lower a.key ≠ Text.lower b.key := by
  constructor
  · intro h
    refine ⟨?_, checkList_ok h⟩
    by_contra hlong
    unfold checkList at h
    rw [if_pos (Nat.lt_of_not_le hlong)] at h
    cases h
  · rintro ⟨hlength, hvalid, hdistinct⟩
    have hgood : list.findIdx? (fun o => decide (checkEntry o ≠ .ok)) = none := by
      rw [List.findIdx?_eq_none_iff]
      intro o ho
      rw [hvalid o ho]
      rfl
    unfold checkList
    rw [if_neg (Nat.not_lt_of_le hlength), hgood]
    dsimp only
    rw [duplicateAt_of_pairwise (fun o _ e he => by cases he) hdistinct]

end NutOverrides

end EspNut
