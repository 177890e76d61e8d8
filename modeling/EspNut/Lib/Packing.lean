import Mathlib.Algebra.GroupWithZero.Nat
import Mathlib.Data.List.Basic
import Mathlib.Algebra.BigOperators.Group.List.Basic

/-!
# Pieces in a row

Each piece has a width and a key, and begins where the earlier pieces with its key end. Pieces with one key do not overlap, and none ends behind the total of their widths.
-/

namespace EspNut.Lib

structure Piece (κ α : Type) where
  key : κ
  width : Nat
  content : α

variable {κ α : Type} [DecidableEq κ]

/-- The widths of the pieces with a key. -/
def total (key : κ) (pieces : List (Piece κ α)) : Nat :=
  ((pieces.filter fun p => p.key = key).map Piece.width).sum

/-- The pieces and where they begin, behind those that came earlier. -/
def placedAfter (earlier : List (Piece κ α)) : List (Piece κ α) → List (Piece κ α × Nat)
  | [] => []
  | p :: rest => (p, total p.key earlier) :: placedAfter (earlier ++ [p]) rest

@[simp] theorem total_nil (key : κ) : total key ([] : List (Piece κ α)) = 0 := rfl

@[simp] theorem total_append (key : κ) (first second : List (Piece κ α)) :
    total key (first ++ second) = total key first + total key second := by
  unfold total
  rw [List.filter_append, List.map_append, List.sum_append]

theorem total_singleton (key : κ) (p : Piece κ α) : total key [p] = if p.key = key then p.width else 0 := by
  unfold total
  split
  · rename_i hkey
    simp [hkey]
  · rename_i hkey
    simp [hkey]

theorem total_le (key : κ) (pieces : List (Piece κ α)) : total key pieces ≤ (pieces.map Piece.width).sum := by
  induction pieces with
  | nil => exact Nat.le_refl 0
  | cons p rest ih =>
      rw [← List.singleton_append, total_append, total_singleton, List.map_append, List.sum_append, List.map_singleton,
        List.sum_singleton]
      split <;> omega

theorem placedAfter_append (earlier first second : List (Piece κ α)) :
    placedAfter earlier (first ++ second) = placedAfter earlier first ++ placedAfter (earlier ++ first) second := by
  induction first generalizing earlier with
  | nil => simp [placedAfter]
  | cons p rest ih => simp [placedAfter, ih, List.append_assoc]

/-- A placed piece begins behind everything earlier and ends within the total. -/
theorem placed_within {earlier pieces : List (Piece κ α)} {a : Piece κ α × Nat} (ha : a ∈ placedAfter earlier pieces) :
    total a.1.key earlier ≤ a.2 ∧ a.2 + a.1.width ≤ total a.1.key (earlier ++ pieces) := by
  induction pieces generalizing earlier with
  | nil => exact absurd ha List.not_mem_nil
  | cons p rest ih =>
      rw [List.append_cons]
      rcases List.mem_cons.mp ha with rfl | hrest
      · simp only [total_append, total_singleton, if_true]
        omega
      · obtain ⟨hstart, hend⟩ := ih hrest
        rw [total_append] at hstart
        exact ⟨by omega, hend⟩

/-- Pieces with one key follow each other without overlap. -/
theorem placed_apart (earlier pieces : List (Piece κ α)) :
    (placedAfter earlier pieces).Pairwise fun a b => a.1.key = b.1.key → a.2 + a.1.width ≤ b.2 := by
  induction pieces generalizing earlier with
  | nil => exact List.Pairwise.nil
  | cons p rest ih =>
      refine List.Pairwise.cons ?_ (ih (earlier ++ [p]))
      intro b hb hkey
      have hstart := (placed_within hb).1
      rw [total_append, total_singleton, if_pos hkey, ← hkey] at hstart
      exact hstart

/-- Equal pieces are a multiple of their width apart. -/
theorem placedAfter_uniform (piece : Nat → Piece κ α) {key : κ} {width : Nat} (hkey : ∀ c, (piece c).key = key)
    (hwidth : ∀ c, (piece c).width = width) (earlier : List (Piece κ α)) (n : Nat) :
    total key ((List.range n).map piece) = width * n
      ∧ placedAfter earlier ((List.range n).map piece)
        = (List.range n).map fun c => (piece c, total key earlier + c * width) := by
  induction n with
  | zero => exact ⟨rfl, rfl⟩
  | succ n ih =>
      rw [List.range_succ, List.map_append, List.map_append, placedAfter_append, ih.2, List.map_singleton,
        List.map_singleton, total_append, total_singleton, hkey n, if_pos rfl, ih.1, hwidth n]
      refine ⟨(Nat.mul_succ width n).symm, ?_⟩
      unfold placedAfter placedAfter
      rw [hkey n, total_append, ih.1, Nat.mul_comm width n]

theorem total_uniform (piece : Nat → Piece κ α) {key other : κ} (hkey : ∀ c, (piece c).key = key) (hother : key ≠ other)
    (n : Nat) : total other ((List.range n).map piece) = 0 := by
  unfold total
  rw [List.filter_eq_nil_iff.mpr]
  · rfl
  · intro p hp
    obtain ⟨c, -, rfl⟩ := List.mem_map.mp hp
    rw [hkey c]
    simpa using hother

end EspNut.Lib
