import Mathlib.Data.List.Basic
import Mathlib.Data.List.Perm.Basic

/-!
# A ring of slots

A ring of a fixed size keeps the last values that were pushed: it fills its slots in order, then each value takes the slot of the oldest one. Read back from the newest, the ring is the first part of the history of pushes.
-/

namespace EspNut.Lib

/-- Slots that are filled in order, the slot to fill next and how many are filled. What an unfilled slot holds is never read. -/
structure Ring (α : Type) (size : Nat) where
  slots : Vector α size
  next : Nat
  count : Nat
  next_lt : next < size
  count_le : count ≤ size
  filling : count < size → next = count
  deriving DecidableEq

namespace Ring

variable {α : Type} {size : Nat} {r : Ring α size} {a : α} {history : List α}

/-- A ring with nothing pushed, over any memory. -/
def empty (hsize : 0 < size) (slots : Vector α size) : Ring α size where
  slots
  next := 0
  count := 0
  next_lt := hsize
  count_le := Nat.zero_le size
  filling _ := rfl

/-- The value takes the next slot. -/
def push (a : α) (r : Ring α size) : Ring α size where
  slots := r.slots.set r.next a r.next_lt
  next := (r.next + 1) % size
  count := if r.count < size then r.count + 1 else r.count
  next_lt := Nat.mod_lt _ (Nat.zero_lt_of_lt r.next_lt)
  count_le := by
    have hcount := r.count_le
    split <;> omega
  filling h := by
    have hcount := r.count_le
    split at h
    · rename_i hfilling
      have hnext := r.filling hfilling
      rw [if_pos hfilling, hnext, Nat.mod_eq_of_lt h]
    · omega

def recent (r : Ring α size) : List α :=
  (r.slots.toList.take r.next).reverse ++ if r.count < size then [] else (r.slots.toList.drop r.next).reverse

theorem length_recent (r : Ring α size) : r.recent.length = r.count := by
  have hnext := r.next_lt
  have hcount := r.count_le
  unfold recent
  rw [List.length_append, List.length_reverse, List.length_take, Vector.length_toList]
  split
  · rename_i hfilling
    have hfilled := r.filling hfilling
    simp only [List.length_nil]
    omega
  · rw [List.length_reverse, List.length_drop, Vector.length_toList]
    omega

theorem recent_empty (hsize : 0 < size) (slots : Vector α size) : (empty hsize slots).recent = [] :=
  List.length_eq_zero_iff.mp (length_recent _)

def oldest (r : Ring α size) : α := r.slots.get ⟨r.next, r.next_lt⟩

/-- The slots around the next one, before and after a push. -/
theorem slots_around (a : α) (r : Ring α size) : ∃ front back, front.length = r.next
    ∧ r.slots.toList = front ++ r.oldest :: back ∧ (push a r).slots.toList = front ++ a :: back := by
  have hlt : r.next < r.slots.toList.length := by
    rw [Vector.length_toList]
    exact r.next_lt
  refine ⟨r.slots.toList.take r.next, r.slots.toList.drop (r.next + 1), ?_, ?_, ?_⟩
  · rw [List.length_take]
    omega
  · have hget : r.oldest = r.slots.toList.get ⟨r.next, hlt⟩ := (Vector.getElem_toList hlt).symm
    rw [hget, List.get_eq_getElem, ← List.drop_eq_getElem_cons hlt, List.take_append_drop]
  · show (r.slots.set r.next a r.next_lt).toList = _
    rw [Vector.toList_set, List.set_eq_take_append_cons_drop, if_pos hlt]

theorem recent_push (a : α) (r : Ring α size) : (push a r).recent = (a :: r.recent).take size := by
  have hnext := r.next_lt
  have hcount := r.count_le
  have hlength := length_recent r
  obtain ⟨front, back, hfront, hbefore, hafter⟩ := slots_around a r
  have hold : r.recent = front.reverse ++ if r.count < size then [] else back.reverse ++ [r.oldest] := by
    unfold recent
    rw [hbefore, List.take_left' hfront, List.drop_left' hfront, List.reverse_cons]
  have hnew : (push a r).recent = a :: front.reverse ++ if r.count < size then [] else back.reverse := by
    have hall : (front ++ a :: back).length = size := by rw [← hafter, Vector.length_toList]
    rw [List.length_append, List.length_cons] at hall
    unfold recent
    rw [hafter]
    show (List.take ((r.next + 1) % size) _).reverse
      ++ (if (if r.count < size then r.count + 1 else r.count) < size then [] else (List.drop ((r.next + 1) % size) _).reverse) = _
    rcases Nat.lt_or_ge (r.next + 1) size with hlt | hge
    · have hcons : front ++ a :: back = (front ++ [a]) ++ back := by simp
      have hlong : (front ++ [a]).length = r.next + 1 := by rw [List.length_append, hfront]; rfl
      rw [Nat.mod_eq_of_lt hlt, hcons, List.take_left' hlong, List.drop_left' hlong, List.reverse_append]
      rcases Nat.lt_or_ge r.count size with hroom | hfull
      · have hfilled := r.filling hroom
        rw [if_pos hroom, if_pos hroom, if_pos (by omega)]
        rfl
      · have hfull := Nat.not_lt.mpr hfull
        rw [if_neg hfull, if_neg hfull]
        rfl
    · have hlast : r.next + 1 = size := by omega
      have hnone : back = [] := List.length_eq_zero_iff.mp (by omega)
      have hfilling := r.filling
      rw [hlast, Nat.mod_self, hnone, if_neg (by split <;> omega)]
      simp
  rw [hnew, hold]
  split
  · rename_i hfilling
    rw [hold, if_pos hfilling] at hlength
    rw [← List.cons_append, List.take_of_length_le]
    rw [List.cons_append, List.length_cons, hlength]
    exact hfilling
  · rename_i hfull
    rw [hold, if_neg hfull, ← List.append_assoc, List.length_append, List.length_singleton] at hlength
    rw [← List.append_assoc, ← List.cons_append, ← List.cons_append, List.take_left']
    rw [List.cons_append, List.length_cons]
    omega

theorem push_ne (hsize : 1 < size) : push a r ≠ r := by
  intro hsame
  have hmoved : (r.next + 1) % size = r.next := congrArg Ring.next hsame
  have hnext := r.next_lt
  rcases Nat.lt_or_ge (r.next + 1) size with hlt | hge
  · rw [Nat.mod_eq_of_lt hlt] at hmoved
    omega
  · have hlast : r.next + 1 = size := by omega
    rw [hlast, Nat.mod_self] at hmoved
    omega

/-- What is pushed in any run stays until `size` more values follow. -/
theorem recent_push_take (h : r.recent = history.take size) : (push a r).recent = (a :: history).take size := by
  rw [recent_push, h]
  cases size with
  | zero => rfl
  | succ n => rw [List.take_succ_cons, List.take_succ_cons, List.take_take, Nat.min_eq_left (Nat.le_succ n)]

theorem recent_perm (hfull : r.count = size) : r.recent.Perm r.slots.toList := by
  unfold recent
  rw [if_neg (by omega)]
  have hboth := (List.reverse_perm (r.slots.toList.take r.next)).append (List.reverse_perm (r.slots.toList.drop r.next))
  rwa [List.take_append_drop] at hboth

theorem getLast?_recent (hfull : r.count = size) : r.recent.getLast? = some r.oldest := by
  obtain ⟨front, back, hfront, hslots, -⟩ := slots_around r.oldest r
  unfold recent
  rw [if_neg (by omega), hslots, List.drop_left' hfront, List.reverse_cons, ← List.append_assoc]
  exact List.getLast?_concat

theorem reverse_recent (hsize : 0 < size) (r : Ring α size) :
    r.recent.reverse = (List.range r.count).map fun i =>
      r.slots.get ⟨((if r.count < size then 0 else r.next) + i) % size, Nat.mod_lt _ hsize⟩ := by
  have hnext := r.next_lt
  have hcount := r.count_le
  apply List.ext_getElem
  · rw [List.length_reverse, length_recent, List.length_map, List.length_range]
  · intro i hleft hright
    rw [List.length_map, List.length_range] at hright
    rw [List.getElem_map, List.getElem_range]
    by_cases hfilling : r.count < size
    · have hfilled := r.filling hfilling
      simp only [recent, if_pos hfilling, List.append_nil, List.reverse_reverse, List.getElem_take, Vector.getElem_toList, Nat.zero_add]
      simp only [Nat.mod_eq_of_lt (Nat.lt_trans hright hfilling)]
      rfl
    · have hfull : r.count = size := by omega
      simp only [recent, if_neg hfilling, List.reverse_append, List.reverse_reverse]
      rw [List.getElem_append]
      split
      · rename_i hold
        rw [List.length_drop, Vector.length_toList] at hold
        simp only [List.getElem_drop, Vector.getElem_toList, Nat.mod_eq_of_lt (by omega : r.next + i < size)]
        rfl
      · rename_i hnew
        rw [List.length_drop, Vector.length_toList] at hnew
        have hwrapped : (r.next + i) % size = i - (size - r.next) := by
          rw [Nat.mod_eq_sub_mod (by omega), Nat.mod_eq_of_lt (by omega)]
          omega
        simp only [List.getElem_take, Vector.getElem_toList, List.length_drop, Vector.length_toList, hwrapped]
        rfl

end Ring

end EspNut.Lib
