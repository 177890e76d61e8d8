import Mathlib.Data.List.Basic
import Mathlib.Data.List.Perm.Basic

/-!
# A window over a history, kept in slots

A history lists what was added, the latest first, and a window is its first part. Slots hold the members of the window in any order: an addition goes to a free slot or replaces the member that leaves the window.
-/

namespace EspNut.Lib.Window

variable {α : Type} {slots window : List α} {i : Nat} {new leaving : α}

/-- The slots with the member at `i` replaced hold the new member and all others. -/
theorem set_perm (new : α) (hi : slots[i]? = some leaving) : ∃ others, slots.Perm (leaving :: others)
    ∧ (slots.set i new).Perm (new :: others) := by
  obtain ⟨hlt, hget⟩ := List.getElem?_eq_some_iff.mp hi
  refine ⟨slots.eraseIdx i, ?_, List.set_perm_cons_eraseIdx hlt new⟩
  rw [← hget]
  exact (List.getElem_cons_eraseIdx_perm hlt).symm

theorem filter_set_free {used : α → Bool} (hi : slots[i]? = some leaving) (hfree : used leaving = false)
    (hnew : used new = true) : ((slots.set i new).filter used).Perm (new :: slots.filter used) := by
  obtain ⟨others, hbefore, hafter⟩ := set_perm new hi
  have hothers := hbefore.filter used
  have hall := hafter.filter used
  rw [List.filter_cons_of_neg (by simp [hfree])] at hothers
  rw [List.filter_cons_of_pos hnew] at hall
  exact hall.trans (hothers.symm.cons new)

theorem set_leaving (hslots : slots.Perm (window ++ [leaving])) (hi : slots[i]? = some leaving) :
    (slots.set i new).Perm (new :: window) := by
  obtain ⟨others, hbefore, hafter⟩ := set_perm new hi
  have hboth : (leaving :: others).Perm (leaving :: window) :=
    hbefore.symm.trans (hslots.trans (List.perm_append_singleton leaving window))
  exact hafter.trans ((List.perm_cons leaving).mp hboth |>.cons new)

theorem find?_of_unique {fits : α → Bool} {member : α} (hmem : member ∈ slots) (hfits : fits member = true)
    (hunique : ∀ other ∈ slots, fits other = true → other = member) : slots.find? fits = some member := by
  cases hfind : slots.find? fits with
  | none => exact absurd hfits (List.find?_eq_none.mp hfind member hmem)
  | some other => rw [hunique other (List.mem_of_find?_eq_some hfind) (List.find?_some hfind)]

variable {alive : α → Bool} {history : List α} {n : Nat}

/-- When the window has room, the member before it is no longer alive, nor any earlier one. -/
theorem filter_take_of_room (hsorted : history.Pairwise fun later earlier => alive earlier = true → alive later = true)
    (hroom : ((history.take (n + 1)).filter alive).length ≤ n) :
    (history.take (n + 1)).filter alive = (history.take n).filter alive := by
  rw [List.take_add_one, List.filter_append]
  cases hlast : history[n]? with
  | none => simp
  | some last =>
      have hdead : alive last = false := by
        by_contra halive
        have halive : alive last = true := by simpa using halive
        obtain ⟨hn, hget⟩ := List.getElem?_eq_some_iff.mp hlast
        have hall : (history.take (n + 1)).filter alive = history.take (n + 1) := by
          apply List.filter_eq_self.mpr
          intro a ha
          obtain ⟨j, hj, rfl⟩ := List.mem_take_iff_getElem.mp ha
          rcases Nat.lt_or_ge j n with hlt | hge
          · exact List.pairwise_iff_getElem.mp hsorted j n (by omega) hn hlt (by rw [hget]; exact halive)
          · obtain rfl : j = n := by omega
            rw [hget]
            exact halive
        rw [hall, List.length_take] at hroom
        omega
      simp [hdead]

theorem lt_countP_iff (hsorted : history.Pairwise fun later earlier => alive earlier = true → alive later = true) :
    n < history.countP alive ↔ ∃ a, history[n]? = some a ∧ alive a = true := by
  induction history generalizing n with
  | nil => simp
  | cons latest history ih =>
      obtain ⟨hlatest, hrest⟩ := List.pairwise_cons.mp hsorted
      cases hliving : alive latest with
      | true =>
          rw [List.countP_cons_of_pos hliving]
          cases n with
          | zero => exact ⟨fun _ => ⟨latest, rfl, hliving⟩, fun _ => Nat.succ_pos _⟩
          | succ n =>
              rw [Nat.add_lt_add_iff_right, ih hrest]
              rfl
      | false =>
          have hdead : ∀ earlier ∈ history, ¬ alive earlier = true := by
            intro earlier hmem halive
            rw [hlatest earlier hmem halive] at hliving
            cases hliving
          rw [List.countP_cons_of_neg (by rw [hliving]; exact Bool.false_ne_true), List.countP_eq_zero.mpr hdead]
          constructor
          · intro hnone
            exact absurd hnone (Nat.not_lt_zero n)
          · rintro ⟨a, ha, halive⟩
            rcases List.mem_cons.mp (List.mem_of_getElem? ha) with rfl | hmem
            · rw [halive] at hliving
              cases hliving
            · exact absurd halive (hdead a hmem)

theorem filter_take_of_full (hfull : ((history.take n).filter alive).length = n) :
    (history.take n).filter alive = history.take n ∧ (history.take n).length = n := by
  have hle := List.length_filter_le alive (history.take n)
  have hlen : (history.take n).length = n := by
    have htake := List.length_take_le n history
    omega
  exact ⟨List.filter_eq_self.mpr (List.length_filter_eq_length_iff.mp (by omega)), hlen⟩

end EspNut.Lib.Window
