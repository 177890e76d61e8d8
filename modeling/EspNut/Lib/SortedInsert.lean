import Mathlib.Order.Lattice
import Mathlib.Data.List.Basic

/-!
# Lists in the order of a key

A list with strictly increasing keys has every key once. An element joins it in its place, unless its key is there already; of several new elements with one key the first one joins.
-/

namespace EspNut.Lib.SortedInsert

variable {α κ : Type} [LinearOrder κ] (key : α → κ)

/-- Strictly increasing keys. -/
def Increasing (l : List α) : Prop := l.Pairwise fun a b => key a < key b

/-- The new element goes in front of the first one with a key that is not less, unless that key is its own. -/
def insertNew (a : α) : List α → List α
  | [] => [a]
  | b :: rest => if key b < key a then b :: insertNew a rest else if key b = key a then b :: rest else a :: b :: rest

def insertAll (new l : List α) : List α := new.foldl (fun l a => insertNew key a l) l

variable {key}

theorem Increasing.eq_of_key {l : List α} (h : Increasing key l) {a b : α} (ha : a ∈ l) (hb : b ∈ l) (hkey : key a = key b) :
    a = b := by
  induction l with
  | nil => cases ha
  | cons first rest ih =>
      obtain ⟨hfirst, hrest⟩ := List.pairwise_cons.mp h
      rw [List.mem_cons] at ha hb
      rcases ha with rfl | ha
      · rcases hb with rfl | hb
        · rfl
        · exact absurd hkey (hfirst b hb).ne
      · rcases hb with rfl | hb
        · exact absurd hkey.symm (hfirst a ha).ne
        · exact ih hrest ha hb

theorem mem_insertNew_iff {l : List α} (h : Increasing key l) {a c : α} :
    c ∈ insertNew key a l ↔ c ∈ l ∨ c = a ∧ ∀ b ∈ l, key b ≠ key a := by
  induction l with
  | nil => simp [insertNew]
  | cons b rest ih =>
      obtain ⟨hfirst, hrest⟩ := List.pairwise_cons.mp h
      unfold insertNew
      split
      · rename_i hless
        rw [List.mem_cons, ih hrest, List.mem_cons, List.forall_mem_cons]
        simp only [hless.ne, ne_eq, not_false_eq_true, true_and, or_assoc]
      · rename_i hnotless
        split
        · rename_i hkey
          rw [List.forall_mem_cons]
          simp only [hkey, ne_eq, not_true_eq_false, false_and, and_false, or_false]
        · rename_i hother
          have hgreater : key a < key b := lt_of_le_of_ne (not_lt.mp hnotless) (Ne.symm hother)
          have hnone : ∀ d ∈ b :: rest, key d ≠ key a := by
            intro d hd
            rcases List.mem_cons.mp hd with rfl | hd
            · exact hother
            · exact (hgreater.trans (hfirst d hd)).ne'
          rw [List.mem_cons, or_comm]
          exact or_congr_right (and_iff_left hnone).symm

theorem Increasing.insertNew {l : List α} (h : Increasing key l) (a : α) : Increasing key (insertNew key a l) := by
  induction l with
  | nil => exact List.pairwise_singleton _ _
  | cons b rest ih =>
      obtain ⟨hfirst, hrest⟩ := List.pairwise_cons.mp h
      unfold SortedInsert.insertNew
      split
      · rename_i hless
        refine List.pairwise_cons.mpr ⟨fun c hc => ?_, ih hrest⟩
        rcases (mem_insertNew_iff hrest).mp hc with hold | ⟨rfl, -⟩
        · exact hfirst c hold
        · exact hless
      · rename_i hnotless
        split
        · exact h
        · rename_i hother
          have hgreater : key a < key b := lt_of_le_of_ne (not_lt.mp hnotless) (Ne.symm hother)
          refine List.pairwise_cons.mpr ⟨fun c hc => ?_, h⟩
          rcases List.mem_cons.mp hc with rfl | hc
          · exact hgreater
          · exact hgreater.trans (hfirst c hc)

theorem Increasing.insertAll {l : List α} (h : Increasing key l) (new : List α) : Increasing key (insertAll key new l) := by
  induction new generalizing l with
  | nil => exact h
  | cons a rest ih => exact ih (h.insertNew a)

/-- The elements of before, and of the new ones the first of each key that was not there. -/
theorem mem_insertAll_iff {l : List α} (h : Increasing key l) {new : List α} {c : α} :
    c ∈ insertAll key new l ↔ c ∈ l ∨ (∀ b ∈ l, key b ≠ key c) ∧ new.find? (fun a => key a = key c) = some c := by
  induction new generalizing l with
  | nil => simp [insertAll]
  | cons a rest ih =>
      have hstep : insertAll key (a :: rest) l = insertAll key rest (SortedInsert.insertNew key a l) := rfl
      have hold : (∀ b ∈ SortedInsert.insertNew key a l, key b ≠ key c) ↔ (∀ b ∈ l, key b ≠ key c) ∧ key a ≠ key c := by
        constructor
        · intro hall
          have hbefore : ∀ b ∈ l, key b ≠ key c := fun b hb => hall b ((mem_insertNew_iff h).mpr (Or.inl hb))
          refine ⟨hbefore, fun hkey => ?_⟩
          exact hall a ((mem_insertNew_iff h).mpr (Or.inr ⟨rfl, fun b hb => hkey ▸ hbefore b hb⟩)) hkey
        · rintro ⟨hall, hkey⟩ b hb
          rcases (mem_insertNew_iff h).mp hb with hb | ⟨rfl, -⟩
          · exact hall b hb
          · exact hkey
      rw [hstep, ih (h.insertNew a), mem_insertNew_iff h, hold]
      by_cases hkey : key a = key c
      · rw [List.find?_cons_of_pos (by simpa using hkey)]
        constructor
        · rintro ((hc | ⟨rfl, hnone⟩) | ⟨⟨-, hne⟩, -⟩)
          · exact Or.inl hc
          · exact Or.inr ⟨hnone, rfl⟩
          · exact absurd hkey hne
        · rintro (hc | ⟨hnone, hfound⟩)
          · exact Or.inl (Or.inl hc)
          · obtain rfl := Option.some.inj hfound
            exact Or.inl (Or.inr ⟨rfl, hnone⟩)
      · rw [List.find?_cons_of_neg (by simpa using hkey)]
        have hne : c ≠ a := fun heq => hkey (congrArg key heq.symm)
        simp only [hne, false_and, or_false, ne_eq, hkey, not_false_eq_true, and_true]

end EspNut.Lib.SortedInsert
