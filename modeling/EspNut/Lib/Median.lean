import Mathlib.Data.List.Sort

/-!
# The median of a few values

An insertion sort in place takes each value past the greater ones before it. The sorted part is kept here with the greatest value first. The median is the value in the middle, the upper one of two.
-/

namespace EspNut.Lib.Median

/-- A loop that keeps the better of two values ends with one that none is better than. -/
theorem foldl_keep {α : Type} (le better : α → α → Prop) [DecidableRel better] (hrefl : ∀ a, le a a)
    (htrans : ∀ a b c, le a b → le b c → le a c) (hbetter : ∀ a b, better a b → le a b)
    (hkept : ∀ a b, ¬ better a b → le b a) (values : List α) (first : α) :
    le (values.foldl (fun best value => if better value best then value else best) first) first
      ∧ ∀ value ∈ values, le (values.foldl (fun best value => if better value best then value else best) first) value := by
  induction values generalizing first with
  | nil => exact ⟨hrefl first, List.forall_mem_nil _⟩
  | cons value values ih =>
      obtain ⟨hbest, hall⟩ := ih (if better value first then value else first)
      have hstep : le (if better value first then value else first) first
          ∧ le (if better value first then value else first) value := by
        split
        · rename_i hgood
          exact ⟨hbetter value first hgood, hrefl value⟩
        · rename_i hold
          exact ⟨hrefl first, hkept value first hold⟩
      rw [List.foldl_cons]
      exact ⟨htrans _ _ _ hbest hstep.1, List.forall_mem_cons.mpr ⟨htrans _ _ _ hbest hstep.2, hall⟩⟩

variable {α : Type} [LE α]

/-- The value in the middle of the values in order. -/
def IsMedian (middle : α) (values : List α) : Prop :=
  ∃ ascending : List α, ascending.Perm values ∧ ascending.Pairwise (· ≤ ·) ∧ ascending[values.length / 2]? = some middle

variable {values others : List α} {middle : α}

theorem IsMedian.perm (h : IsMedian middle values) (hperm : values.Perm others) : IsMedian middle others := by
  obtain ⟨ascending, hsame, hsorted, hmiddle⟩ := h
  exact ⟨ascending, hsame.trans hperm, hsorted, by rw [← hperm.length_eq]; exact hmiddle⟩

theorem IsMedian.mem (h : IsMedian middle values) : middle ∈ values := by
  obtain ⟨ascending, hsame, -, hmiddle⟩ := h
  exact hsame.mem_iff.mp (List.mem_of_getElem? hmiddle)

variable [DecidableLE α]

/-- The values with the greatest first, each inserted after those before it. -/
def descending (values : List α) : List α := values.foldl (fun sorted value => sorted.orderedInsert (· ≥ ·) value) []

theorem descending_perm (values : List α) : (descending values).Perm values := by
  have hfold : ∀ (values sorted : List α),
      (values.foldl (fun sorted value => sorted.orderedInsert (· ≥ ·) value) sorted).Perm (values ++ sorted) := by
    intro values
    induction values with
    | nil => exact fun sorted => List.Perm.refl sorted
    | cons value values ih =>
        intro sorted
        have hinsert := (List.perm_orderedInsert (· ≥ ·) value sorted).append_left values
        exact (ih _).trans (hinsert.trans List.perm_middle)
  have hall := hfold values []
  rwa [List.append_nil] at hall

theorem descending_pairwise [Std.Total (α := α) (· ≥ ·)] [IsTrans α (· ≥ ·)] (values : List α) :
    (descending values).Pairwise (· ≥ ·) := by
  have hfold : ∀ (values sorted : List α), sorted.Pairwise (· ≥ ·) →
      (values.foldl (fun sorted value => sorted.orderedInsert (· ≥ ·) value) sorted).Pairwise (· ≥ ·) := by
    intro values
    induction values with
    | nil => exact fun sorted hsorted => hsorted
    | cons value values ih => exact fun sorted hsorted => ih _ (hsorted.orderedInsert value sorted)
  exact hfold values [] List.Pairwise.nil

/-- The middle of the sorted values is the median. -/
theorem isMedian_descending [Std.Total (α := α) (· ≥ ·)] [IsTrans α (· ≥ ·)]
    (h : (descending values).reverse[values.length / 2]? = some middle) : IsMedian middle values :=
  ⟨(descending values).reverse, (List.reverse_perm _).trans (descending_perm values),
    List.pairwise_reverse.mpr (descending_pairwise values), h⟩

end EspNut.Lib.Median
