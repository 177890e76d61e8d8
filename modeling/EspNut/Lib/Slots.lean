import Mathlib.Data.List.FinRange
import Mathlib.Data.List.Nodup
import Mathlib.Data.Fintype.Card
import Mathlib.Order.Fin.Basic

/-!
# Arrays of slots

An array of a fixed length is a function on its indices, searched by loops over all of them. The first, the last and the least slot that fits each have their loop; the rank of a slot counts the members before it, by their keys and among equal keys by their indices. The slots that fit are counted across a write.
-/

namespace EspNut.Lib.Slots

variable {n : Nat}

/-! ### Searches -/

def first (fits : Fin n → Bool) : Option (Fin n) := (List.finRange n).find? fits

/-- The last slot that fits; the loop has no early exit. -/
def last (fits : Fin n → Bool) : Option (Fin n) :=
  (List.finRange n).foldl (fun found i => if fits i then some i else found) none

theorem first_eq_none_iff {fits : Fin n → Bool} : first fits = none ↔ ∀ i, fits i = false := by
  unfold first
  rw [List.find?_eq_none]
  constructor
  · intro h i
    simpa using h i (List.mem_finRange i)
  · intro h i _
    rw [h i]
    exact Bool.false_ne_true

theorem foldl_last (fits : Fin n → Bool) (indices : List (Fin n)) (found : Option (Fin n)) :
    indices.foldl (fun found i => if fits i then some i else found) found
      = (indices.reverse.find? fits).or found := by
  induction indices generalizing found with
  | nil => rfl
  | cons i rest ih =>
      rw [List.foldl_cons, ih, List.reverse_cons, List.find?_append, Option.or_assoc]
      congr 1
      by_cases hi : fits i = true
      · simp [hi]
      · simp [hi]

theorem last_eq (fits : Fin n → Bool) : last fits = (List.finRange n).reverse.find? fits := by
  unfold last
  rw [foldl_last, Option.or_none]

theorem last_fits {fits : Fin n → Bool} {i : Fin n} (h : last fits = some i) : fits i = true := by
  rw [last_eq] at h
  exact List.find?_some h

theorem last_eq_none_iff {fits : Fin n → Bool} : last fits = none ↔ ∀ i, fits i = false := by
  rw [last_eq, List.find?_eq_none]
  constructor
  · intro h i
    simpa using h i (List.mem_reverse.mpr (List.mem_finRange i))
  · intro h i _
    rw [h i]
    exact Bool.false_ne_true

theorem exists_last {fits : Fin n → Bool} {i : Fin n} (h : fits i = true) : ∃ j, last fits = some j := by
  cases hlast : last fits with
  | none =>
      rw [last_eq_none_iff.mp hlast i] at h
      exact absurd h Bool.false_ne_true
  | some j => exact ⟨j, rfl⟩

/-! ### The least slot -/

section Least

variable {κ : Type} [LinearOrder κ] {member : Fin n → Bool} {key : Fin n → κ}

/-- One slot of the search: it replaces the one found when its key is less. -/
def keepLeast (member : Fin n → Bool) (key : Fin n → κ) (found : Option (Fin n)) (i : Fin n) : Option (Fin n) :=
  if member i = false then found
  else match found with
    | none => some i
    | some j => if key i < key j then some i else some j

/-- The member with the least key, the first of them when several have it. -/
def least (member : Fin n → Bool) (key : Fin n → κ) : Option (Fin n) :=
  (List.finRange n).foldl (keepLeast member key) none

/-- What the search has found after some of the slots. -/
def IsLeastOf (member : Fin n → Bool) (key : Fin n → κ) (seen : List (Fin n)) : Option (Fin n) → Prop
  | none => ∀ j ∈ seen, member j = false
  | some i => i ∈ seen ∧ member i = true ∧ ∀ j ∈ seen, member j = true → key i ≤ key j ∧ (j < i → key i < key j)

theorem keepLeast_isLeastOf {seen : List (Fin n)} {found : Option (Fin n)} {i : Fin n}
    (hseen : ∀ j ∈ seen, j < i) (h : IsLeastOf member key seen found) :
    IsLeastOf member key (seen ++ [i]) (keepLeast member key found i) := by
  unfold keepLeast
  by_cases hmember : member i = false
  · rw [if_pos hmember]
    cases found with
    | none =>
        intro j hj
        rcases List.mem_append.mp hj with hj | hj
        · exact h j hj
        · rw [List.mem_singleton.mp hj]
          exact hmember
    | some k =>
        obtain ⟨hk, hmemberk, hleast⟩ := h
        refine ⟨List.mem_append_left _ hk, hmemberk, ?_⟩
        intro j hj hmemberj
        rcases List.mem_append.mp hj with hj | hj
        · exact hleast j hj hmemberj
        · rw [List.mem_singleton.mp hj, hmember] at hmemberj
          exact absurd hmemberj Bool.false_ne_true
  · rw [if_neg hmember]
    rw [Bool.not_eq_false] at hmember
    cases found with
    | none =>
        refine ⟨by simp, hmember, ?_⟩
        intro j hj hmemberj
        rcases List.mem_append.mp hj with hj | hj
        · rw [h j hj] at hmemberj
          exact absurd hmemberj Bool.false_ne_true
        · rw [List.mem_singleton.mp hj]
          exact ⟨le_rfl, fun hlt => absurd hlt (lt_irrefl i)⟩
    | some k =>
        obtain ⟨hk, hmemberk, hleast⟩ := h
        dsimp only
        by_cases hless : key i < key k
        · rw [if_pos hless]
          refine ⟨by simp, hmember, ?_⟩
          intro j hj hmemberj
          rcases List.mem_append.mp hj with hj | hj
          · have hij := lt_of_lt_of_le hless (hleast j hj hmemberj).1
            exact ⟨hij.le, fun _ => hij⟩
          · rw [List.mem_singleton.mp hj]
            exact ⟨le_rfl, fun hlt => absurd hlt (lt_irrefl i)⟩
        · rw [if_neg hless]
          refine ⟨List.mem_append_left _ hk, hmemberk, ?_⟩
          intro j hj hmemberj
          rcases List.mem_append.mp hj with hj | hj
          · exact hleast j hj hmemberj
          · rw [List.mem_singleton.mp hj]
            exact ⟨not_lt.mp hless, fun hlt => absurd (hlt.trans (hseen k hk)) (lt_irrefl i)⟩

theorem least_isLeastOf (member : Fin n → Bool) (key : Fin n → κ) :
    IsLeastOf member key (List.finRange n) (least member key) := by
  have hall : ∀ seen rest : List (Fin n), (seen ++ rest).Pairwise (· < ·) → ∀ found,
      IsLeastOf member key seen found → IsLeastOf member key (seen ++ rest) (rest.foldl (keepLeast member key) found) := by
    intro seen rest
    induction rest generalizing seen with
    | nil =>
        intro _ found h
        rw [List.append_nil]
        exact h
    | cons i rest ih =>
        intro hsorted found h
        have hbefore : ∀ j ∈ seen, j < i := fun j hj =>
          (List.pairwise_append.mp hsorted).2.2 j hj i List.mem_cons_self
        rw [List.append_cons] at hsorted ⊢
        exact ih (seen ++ [i]) hsorted _ (keepLeast_isLeastOf hbefore h)
  exact hall [] (List.finRange n) (List.pairwise_lt_finRange n) none (by intro j hj; cases hj)

theorem least_eq_none_iff : least member key = none ↔ ∀ i, member i = false := by
  have h := least_isLeastOf member key
  constructor
  · intro hnone i
    rw [hnone] at h
    exact h i (List.mem_finRange i)
  · intro hnone
    cases hleast : least member key with
    | none => rfl
    | some i =>
        rw [hleast] at h
        obtain ⟨-, hmember, -⟩ := h
        rw [hnone i] at hmember
        exact absurd hmember Bool.false_ne_true

theorem member_of_least {i : Fin n} (h : least member key = some i) : member i = true := by
  have hleast := least_isLeastOf member key
  rw [h] at hleast
  exact hleast.2.1

theorem least_le {i j : Fin n} (h : least member key = some i) (hj : member j = true) : key i ≤ key j := by
  have hleast := least_isLeastOf member key
  rw [h] at hleast
  exact (hleast.2.2 j (List.mem_finRange j) hj).1

/-! ### Ranks -/

/-- A slot comes before another by its key, or by its index when the keys are the same. -/
def Before (key : Fin n → κ) (j i : Fin n) : Prop := key j < key i ∨ key j = key i ∧ j < i

instance (key : Fin n → κ) (j i : Fin n) : Decidable (Before key j i) := inferInstanceAs (Decidable (_ ∨ _))

theorem before_irrefl (key : Fin n → κ) (i : Fin n) : ¬ Before key i i := by
  rintro (h | h)
  · exact lt_irrefl _ h
  · exact lt_irrefl _ h.2

theorem Before.trans {i j k : Fin n} (hij : Before key i j) (hjk : Before key j k) : Before key i k := by
  rcases hij with hij | ⟨hij, hlt⟩
  · rcases hjk with hjk | ⟨hjk, -⟩
    · exact Or.inl (hij.trans hjk)
    · exact Or.inl (hjk ▸ hij)
  · rcases hjk with hjk | ⟨hjk, hlt'⟩
    · exact Or.inl (hij ▸ hjk)
    · exact Or.inr ⟨hij.trans hjk, hlt.trans hlt'⟩

theorem before_total {i j : Fin n} (h : i ≠ j) : Before key i j ∨ Before key j i := by
  rcases lt_trichotomy (key i) (key j) with hlt | heq | hgt
  · exact Or.inl (Or.inl hlt)
  · rcases lt_or_gt_of_ne h with hlt | hgt
    · exact Or.inl (Or.inr ⟨heq, hlt⟩)
    · exact Or.inr (Or.inr ⟨heq.symm, hgt⟩)
  · exact Or.inr (Or.inl hgt)

theorem not_before_least {i j : Fin n} (h : least member key = some i) (hj : member j = true) : ¬ Before key j i := by
  have hleast := least_isLeastOf member key
  rw [h] at hleast
  obtain ⟨hle, hlt⟩ := hleast.2.2 j (List.mem_finRange j) hj
  rintro (hbefore | ⟨heq, hindex⟩)
  · exact absurd hbefore (not_lt.mpr hle)
  · exact absurd (heq ▸ hlt hindex) (lt_irrefl _)

/-- The members before a slot. -/
def earlier (member : Fin n → Bool) (key : Fin n → κ) (i : Fin n) : Finset (Fin n) :=
  Finset.univ.filter fun j => member j = true ∧ Before key j i

def rank (member : Fin n → Bool) (key : Fin n → κ) (i : Fin n) : Nat := (earlier member key i).card

theorem mem_earlier {i j : Fin n} : j ∈ earlier member key i ↔ member j = true ∧ Before key j i := by
  unfold earlier
  rw [Finset.mem_filter, and_iff_right (Finset.mem_univ j)]

theorem rank_lt_rank {i j : Fin n} (hi : member i = true) (h : Before key i j) :
    rank member key i < rank member key j := by
  apply Finset.card_lt_card
  rw [Finset.ssubset_iff_of_subset]
  · exact ⟨i, mem_earlier.mpr ⟨hi, h⟩, fun hmem => before_irrefl key i (mem_earlier.mp hmem).2⟩
  · intro k hk
    obtain ⟨hk, hbefore⟩ := mem_earlier.mp hk
    exact mem_earlier.mpr ⟨hk, hbefore.trans h⟩

theorem rank_lt_rank_iff {i j : Fin n} (hi : member i = true) (hj : member j = true) :
    rank member key i < rank member key j ↔ Before key i j := by
  refine ⟨fun h => ?_, rank_lt_rank hi⟩
  by_contra hnot
  by_cases heq : i = j
  · rw [heq] at h
    exact lt_irrefl _ h
  · have hafter := (before_total heq).resolve_left hnot
    exact lt_asymm h (rank_lt_rank hj hafter)

theorem rank_lt_card {i : Fin n} (hi : member i = true) :
    rank member key i < (Finset.univ.filter fun j => member j = true).card := by
  apply Finset.card_lt_card
  rw [Finset.ssubset_iff_of_subset]
  · refine ⟨i, by simpa using hi, fun hmem => before_irrefl key i (mem_earlier.mp hmem).2⟩
  · intro k hk
    simpa using (mem_earlier.mp hk).1

end Least

/-! ### Counts -/

section Counts

variable {α : Type} {fits : Fin n → Bool}

/-- How many slots fit. -/
def count (fits : Fin n → Bool) : Nat := (List.finRange n).countP fits

theorem count_pos_iff : 0 < count fits ↔ ∃ i, fits i = true := by
  unfold count
  rw [List.countP_pos_iff]
  exact ⟨fun ⟨i, _, hi⟩ => ⟨i, hi⟩, fun ⟨i, hi⟩ => ⟨i, List.mem_finRange i, hi⟩⟩

theorem countP_update (test : α → Bool) (slots : Fin n → α) (i : Fin n) (slot : α) {indices : List (Fin n)}
    (hnodup : indices.Nodup) (hi : i ∈ indices) :
    indices.countP (fun j => test (Function.update slots i slot j)) + (test (slots i)).toNat
      = indices.countP (fun j => test (slots j)) + (test slot).toNat := by
  induction indices with
  | nil => exact nomatch hi
  | cons j rest ih =>
      obtain ⟨hj, hrest⟩ := List.nodup_cons.mp hnodup
      have htoNat (b : Bool) : (if b = true then 1 else 0) = b.toNat := by cases b <;> rfl
      rw [List.countP_cons, List.countP_cons, htoNat, htoNat]
      rcases List.mem_cons.mp hi with rfl | hi
      · have hsame : rest.countP (fun j => test (Function.update slots i slot j)) = rest.countP fun j => test (slots j) := by
          refine List.countP_congr fun j hmem => ?_
          rw [Function.update_of_ne (ne_of_mem_of_not_mem hmem hj)]
        rw [hsame, Function.update_self]
        omega
      · rw [Function.update_of_ne (ne_of_mem_of_not_mem hi hj).symm]
        have hcount := ih hrest hi
        omega

/-- A slot that is written counts for what it holds then, and no more for what it held. -/
theorem count_update (test : α → Bool) (slots : Fin n → α) (i : Fin n) (slot : α) :
    count (fun j => test (Function.update slots i slot j)) + (test (slots i)).toNat
      = count (fun j => test (slots j)) + (test slot).toNat :=
  countP_update test slots i slot (List.nodup_finRange n) (List.mem_finRange i)

end Counts

end EspNut.Lib.Slots
