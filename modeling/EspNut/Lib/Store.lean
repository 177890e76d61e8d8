import Mathlib.Data.List.Nodup
import Mathlib.Data.List.Basic

/-!
# Ordered key-value stores

A list of entries whose keys are pairwise distinct. Setting a present key replaces its value in place, setting a new one appends it, and removing a key takes its only entry out, so the order of the entries is the order in which their keys first arrived. The distinctness of the keys is a field: no operation can lose it.
-/

namespace EspNut.Lib

structure Store (κ : Type) (α : Type) where
  entries : List (κ × α)
  nodup : (entries.map Prod.fst).Nodup
  deriving DecidableEq

namespace Store

variable {κ α : Type} [DecidableEq κ]

def empty : Store κ α := ⟨[], List.nodup_nil⟩

def keys (s : Store κ α) : List κ := s.entries.map Prod.fst

def find (s : Store κ α) (k : κ) : Option α := s.entries.lookup k

def hasKey (s : Store κ α) (k : κ) : Bool := (s.find k).isSome

/-- The entries with the value of `k` replaced in place, or appended when `k` is new. -/
def setEntries : List (κ × α) → κ → α → List (κ × α)
  | [], k, v => [(k, v)]
  | entry :: rest, k, v => if entry.1 = k then (k, v) :: rest else entry :: setEntries rest k v

/-- The entries without the first one of `k`. -/
def eraseEntries : List (κ × α) → κ → List (κ × α)
  | [], _ => []
  | entry :: rest, k => if entry.1 = k then rest else entry :: eraseEntries rest k

theorem keys_setEntries (entries : List (κ × α)) (k : κ) (v : α) :
    (setEntries entries k v).map Prod.fst =
      if k ∈ entries.map Prod.fst then entries.map Prod.fst else entries.map Prod.fst ++ [k] := by
  induction entries with
  | nil => simp [setEntries]
  | cons entry rest ih =>
      by_cases heq : entry.1 = k
      · simp [setEntries, heq]
      · have hne : k ≠ entry.1 := fun h => heq h.symm
        by_cases hmem : k ∈ rest.map Prod.fst
        · simp only [setEntries, heq, if_false, List.map_cons, ih, hmem, if_true,
            List.mem_cons, or_true]
        · simp only [setEntries, heq, if_false, List.map_cons, ih, hmem, List.mem_cons, hne,
            or_self, List.cons_append]

theorem setEntries_of_not_mem {entries : List (κ × α)} {k : κ} (h : k ∉ entries.map Prod.fst) (v : α) :
    setEntries entries k v = entries ++ [(k, v)] := by
  induction entries with
  | nil => rfl
  | cons entry rest ih =>
      simp only [List.map_cons, List.mem_cons, not_or] at h
      rw [setEntries, if_neg (Ne.symm h.1), ih h.2, List.cons_append]

theorem nodup_keys_setEntries {entries : List (κ × α)} (h : (entries.map Prod.fst).Nodup)
    (k : κ) (v : α) : ((setEntries entries k v).map Prod.fst).Nodup := by
  rw [keys_setEntries]
  split
  · exact h
  · rename_i hnew
    exact List.nodup_append.mpr ⟨h, List.nodup_singleton k, by
      intro key hkey key' hkey' heq
      rw [List.mem_singleton.mp hkey'] at heq
      exact hnew (heq ▸ hkey)⟩

theorem eraseEntries_sublist (entries : List (κ × α)) (k : κ) :
    (eraseEntries entries k).Sublist entries := by
  induction entries with
  | nil => exact List.Sublist.refl _
  | cons entry rest ih =>
      simp only [eraseEntries]
      split
      · exact List.sublist_cons_self _ _
      · exact ih.cons_cons _

def set (s : Store κ α) (k : κ) (v : α) : Store κ α :=
  ⟨setEntries s.entries k v, nodup_keys_setEntries s.nodup k v⟩

def remove (s : Store κ α) (k : κ) : Store κ α :=
  ⟨eraseEntries s.entries k, s.nodup.sublist ((eraseEntries_sublist s.entries k).map Prod.fst)⟩

omit [DecidableEq κ] in
theorem eq_of_entries {s t : Store κ α} (h : s.entries = t.entries) : s = t := by
  cases s
  cases t
  congr

theorem entries_foldl_set (s : Store κ α) (entries : List (κ × α)) (h : ((s.entries ++ entries).map Prod.fst).Nodup) :
    (entries.foldl (fun t e => t.set e.1 e.2) s).entries = s.entries ++ entries := by
  induction entries generalizing s with
  | nil => exact (List.append_nil _).symm
  | cons entry rest ih =>
      have hnew : entry.1 ∉ s.entries.map Prod.fst := by
        rw [List.map_append, List.map_cons] at h
        exact fun hmem => (List.nodup_append.mp h).2.2 _ hmem _ List.mem_cons_self rfl
      have hset : (s.set entry.1 entry.2).entries = s.entries ++ [entry] := setEntries_of_not_mem hnew entry.2
      rw [List.foldl_cons, ih, hset, List.append_assoc, List.singleton_append]
      rwa [hset, List.append_assoc, List.singleton_append]

theorem foldl_set_entries (s : Store κ α) : s.entries.foldl (fun t e => t.set e.1 e.2) empty = s :=
  eq_of_entries (entries_foldl_set empty s.entries s.nodup)

theorem lookup_cons_eq (entry : κ × α) (rest : List (κ × α)) (key : κ) :
    (entry :: rest).lookup key = if key = entry.1 then some entry.2 else rest.lookup key := by
  rw [List.lookup_cons]
  by_cases heq : key = entry.1
  · simp [heq]
  · have hbeq : (key == entry.1) = false := by simpa using heq
    rw [hbeq, if_neg heq]

@[simp] theorem find_empty (k : κ) : (empty : Store κ α).find k = none := rfl

theorem lookup_setEntries (entries : List (κ × α)) (k : κ) (v : α) (key : κ) :
    (setEntries entries k v).lookup key = if key = k then some v else entries.lookup key := by
  induction entries with
  | nil => rw [setEntries, lookup_cons_eq]
  | cons entry rest ih =>
      simp only [setEntries]
      by_cases hentry : entry.1 = k
      · rw [if_pos hentry, lookup_cons_eq, lookup_cons_eq, hentry]
        by_cases hkey : key = k <;> simp [hkey]
      · rw [if_neg hentry, lookup_cons_eq, lookup_cons_eq, ih]
        by_cases hkey : key = entry.1
        · rw [if_pos hkey, if_pos hkey, if_neg (hkey ▸ hentry)]
        · rw [if_neg hkey, if_neg hkey]

theorem lookup_eq_none_of_not_mem {entries : List (κ × α)} {k : κ}
    (h : k ∉ entries.map Prod.fst) : entries.lookup k = none := by
  induction entries with
  | nil => rfl
  | cons entry rest ih =>
      simp only [List.map_cons, List.mem_cons, not_or] at h
      rw [lookup_cons_eq, if_neg h.1, ih h.2]

theorem lookup_eraseEntries {entries : List (κ × α)} (h : (entries.map Prod.fst).Nodup)
    (k key : κ) :
    (eraseEntries entries k).lookup key = if key = k then none else entries.lookup key := by
  induction entries with
  | nil => simp [eraseEntries]
  | cons entry rest ih =>
      simp only [List.map_cons, List.nodup_cons] at h
      simp only [eraseEntries]
      by_cases hentry : entry.1 = k
      · rw [if_pos hentry, lookup_cons_eq, hentry]
        by_cases hkey : key = k
        · rw [if_pos hkey, hkey, lookup_eq_none_of_not_mem (hentry ▸ h.1)]
        · rw [if_neg hkey, if_neg hkey]
      · rw [if_neg hentry, lookup_cons_eq, lookup_cons_eq, ih h.2]
        by_cases hkey : key = entry.1
        · rw [if_pos hkey, if_pos hkey, if_neg (hkey ▸ hentry)]
        · rw [if_neg hkey, if_neg hkey]

@[simp] theorem find_set (s : Store κ α) (k : κ) (v : α) (key : κ) :
    (s.set k v).find key = if key = k then some v else s.find key :=
  lookup_setEntries s.entries k v key

@[simp] theorem find_remove (s : Store κ α) (k key : κ) :
    (s.remove k).find key = if key = k then none else s.find key :=
  lookup_eraseEntries s.nodup k key

theorem eraseEntries_of_lookup {entries : List (κ × α)} {k : κ} (h : entries.lookup k = none) :
    eraseEntries entries k = entries := by
  induction entries with
  | nil => rfl
  | cons entry rest ih =>
      rw [lookup_cons_eq] at h
      by_cases hkey : k = entry.1
      · rw [if_pos hkey] at h
        cases h
      · rw [if_neg hkey] at h
        rw [eraseEntries, if_neg (Ne.symm hkey), ih h]

theorem remove_of_not_hasKey {s : Store κ α} {k : κ} (h : ¬ s.hasKey k = true) : s.remove k = s :=
  eq_of_entries (eraseEntries_of_lookup (Option.not_isSome_iff_eq_none.mp h))

theorem mem_entries_iff (s : Store κ α) (k : κ) (v : α) :
    (k, v) ∈ s.entries ↔ s.find k = some v := by
  obtain ⟨entries, hnodup⟩ := s
  change (k, v) ∈ entries ↔ entries.lookup k = some v
  induction entries with
  | nil => simp
  | cons entry rest ih =>
      obtain ⟨entryKey, value⟩ := entry
      simp only [List.map_cons, List.nodup_cons] at hnodup
      rw [List.mem_cons, lookup_cons_eq]
      by_cases hkey : k = entryKey
      · subst hkey
        have hfresh : (k, v) ∉ rest := fun hmem =>
          hnodup.1 (List.mem_map.mpr ⟨(k, v), hmem, rfl⟩)
        simp [hfresh, eq_comm]
      · simp [hkey, ih hnodup.2]

theorem lookup_of_mem {entries : List (κ × α)} (hnodup : (entries.map Prod.fst).Nodup) {entry : κ × α}
    (h : entry ∈ entries) : entries.lookup entry.1 = some entry.2 :=
  (mem_entries_iff ⟨entries, hnodup⟩ entry.1 entry.2).mp h

theorem mem_of_lookup {entries : List (κ × α)} {k : κ} {v : α} (h : entries.lookup k = some v) : (k, v) ∈ entries := by
  obtain ⟨before, after, rfl, -⟩ := List.lookup_eq_some_iff.mp h
  simp

/-- After setting entries of distinct keys, each of them is found, and every other key as before. -/
theorem find_foldl_set {β : Type} (f : α → β) {entries : List (κ × α)} (hnodup : (entries.map Prod.fst).Nodup)
    (s : Store κ β) (key : κ) :
    (entries.foldl (fun t e => t.set e.1 (f e.2)) s).find key = ((entries.lookup key).map f).or (s.find key) := by
  induction entries generalizing s with
  | nil => rfl
  | cons entry rest ih =>
      obtain ⟨hnew, hrest⟩ := List.nodup_cons.mp hnodup
      rw [List.foldl_cons, ih hrest, find_set, lookup_cons_eq]
      by_cases hkey : key = entry.1
      · rw [if_pos hkey, if_pos hkey, hkey, lookup_eq_none_of_not_mem hnew]
        rfl
      · rw [if_neg hkey, if_neg hkey]

end Store

end EspNut.Lib
