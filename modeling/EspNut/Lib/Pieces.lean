import Mathlib.Data.List.DropRight
import Mathlib.Data.List.TakeWhile

/-!
# Pieces of a text

A text is cut into the pieces between the places of a separator. A reader keeps places in a text and moves them forward or backward over characters of one kind; what is between two places is a piece of the text, and a move takes a piece off its front or off its end.
-/

namespace EspNut.Lib

variable {α : Type}

/-! ### Between separators -/

section Separator

variable [DecidableEq α] {c : α} {text rest : List α}

/-- The rest at the first place of the separator. -/
theorem stop_of_dropWhile {x : α} (h : text.dropWhile (· ≠ c) = x :: rest) : x = c := by
  have hnot := List.head?_dropWhile_not (fun x => decide (x ≠ c)) text
  rw [h] at hnot
  simpa using hnot

theorem eq_append_of_dropWhile {x : α} (h : text.dropWhile (· ≠ c) = x :: rest) :
    text = text.takeWhile (· ≠ c) ++ c :: rest := by
  have htext := List.takeWhile_append_dropWhile (p := fun x => decide (x ≠ c)) (l := text)
  rw [h, stop_of_dropWhile h] at htext
  exact htext.symm

theorem not_mem_takeWhile (c : α) (text : List α) : c ∉ text.takeWhile (· ≠ c) := by
  intro hmem
  simpa using List.mem_takeWhile_imp hmem

/-- The first piece of a text, and the pieces of what is behind the separator. -/
theorem splitOn_of_stop {x : α} (h : text.dropWhile (· ≠ c) = x :: rest) :
    text.splitOn c = text.takeWhile (· ≠ c) :: rest.splitOn c := by
  have hcut : (text.takeWhile (· ≠ c) ++ c :: rest).splitOn c = text.takeWhile (· ≠ c) :: rest.splitOn c :=
    List.splitOn_append_cons_self_of_not_mem (not_mem_takeWhile c text) rest
  rwa [← eq_append_of_dropWhile h] at hcut

theorem splitOn_of_none (h : text.dropWhile (· ≠ c) = []) : text.splitOn c = [text] := by
  apply List.splitOn_eq_singleton
  intro hmem
  simpa using List.dropWhile_eq_nil_iff.mp h c hmem

theorem splitOn_eq_cons (c : α) (text : List α) : ∃ more, text.splitOn c = text.takeWhile (· ≠ c) :: more := by
  cases h : text.dropWhile (· ≠ c) with
  | nil =>
      refine ⟨[], ?_⟩
      rw [splitOn_of_none h, List.takeWhile_eq_self_iff.mpr (List.dropWhile_eq_nil_iff.mp h)]
  | cons x rest => exact ⟨rest.splitOn c, splitOn_of_stop h⟩

end Separator

/-! ### Between places -/

/-- `while (place < limit && stays(text[place])) place++;` -/
def moveForward (stays : α → Bool) (text : List α) (limit place : Nat) : Nat :=
  if place < limit then
    match text[place]? with
    | some c => if stays c then moveForward stays text limit (place + 1) else place
    | none => place
  else place
termination_by limit - place

/-- `while (place > limit && stays(text[place - 1])) place--;` -/
def moveBackward (stays : α → Bool) (text : List α) (limit : Nat) : Nat → Nat
  | 0 => 0
  | place + 1 =>
      if limit < place + 1 then
        match text[place]? with
        | some c => if stays c then moveBackward stays text limit place else place + 1
        | none => place + 1
      else place + 1

variable (stays : α → Bool) {text : List α} {limit place : Nat}

theorem length_extract (hlimit : limit ≤ text.length) : (text.extract place limit).length = limit - place := by
  rw [List.length_take, List.length_drop]
  omega

theorem extract_self (text : List α) (place : Nat) : text.extract place place = [] := by
  simp

theorem extract_eq_cons (hplace : place < limit) (hlimit : limit ≤ text.length) :
    text.extract place limit = text[place] :: text.extract (place + 1) limit := by
  unfold List.extract
  rw [List.drop_eq_getElem_cons (by omega), show limit - place = limit - (place + 1) + 1 by omega, List.take_succ_cons]

theorem extract_succ (hplace : limit ≤ place) (hlength : place < text.length) :
    text.extract limit (place + 1) = text.extract limit place ++ [text[place]] := by
  unfold List.extract
  rw [show place + 1 - limit = place - limit + 1 by omega, List.take_add_one, List.getElem?_drop,
    show limit + (place - limit) = place by omega, List.getElem?_eq_getElem hlength, Option.toList_some]

/-- A piece is cut at a place. -/
theorem extract_split {a b : Nat} (hfirst : a ≤ place) (hsecond : place ≤ b) :
    text.extract a b = text.extract a place ++ text.extract place b := by
  unfold List.extract
  rw [show b - a = (place - a) + (b - place) by omega, List.take_add, List.drop_drop, show a + (place - a) = place by omega]

/-! ### Moves forward -/

theorem moveForward_eq (hplace : place ≤ limit) (hlimit : limit ≤ text.length) :
    moveForward stays text limit place = place + ((text.extract place limit).takeWhile stays).length := by
  fun_induction moveForward stays text limit place with
  | case1 place hbefore c hc hstays ih =>
      obtain ⟨hlength, rfl⟩ := List.getElem?_eq_some_iff.mp hc
      rw [ih hbefore, extract_eq_cons hbefore hlimit, List.takeWhile_cons_of_pos hstays, List.length_cons]
      omega
  | case2 place hbefore c hc hstops =>
      obtain ⟨hlength, rfl⟩ := List.getElem?_eq_some_iff.mp hc
      rw [extract_eq_cons hbefore hlimit, List.takeWhile_cons_of_neg hstops]
      rfl
  | case3 place hbefore hnone =>
      rw [List.getElem?_eq_none_iff] at hnone
      omega
  | case4 place hend =>
      obtain rfl : place = limit := by omega
      rw [extract_self]
      rfl

theorem le_moveForward (hplace : place ≤ limit) (hlimit : limit ≤ text.length) : place ≤ moveForward stays text limit place := by
  rw [moveForward_eq stays hplace hlimit]
  exact Nat.le_add_right _ _

theorem moveForward_le (hplace : place ≤ limit) (hlimit : limit ≤ text.length) : moveForward stays text limit place ≤ limit := by
  have hlength := (List.takeWhile_prefix stays (l := text.extract place limit)).length_le
  rw [length_extract hlimit] at hlength
  rw [moveForward_eq stays hplace hlimit]
  omega

/-- A move forward passes the characters of its kind, and leaves the rest of the piece. -/
theorem extract_moveForward (hplace : place ≤ limit) (hlimit : limit ≤ text.length) :
    text.extract place (moveForward stays text limit place) = (text.extract place limit).takeWhile stays
      ∧ text.extract (moveForward stays text limit place) limit = (text.extract place limit).dropWhile stays := by
  have hle := moveForward_le stays hplace hlimit
  have hsplit : text.extract place limit = _ := extract_split (le_moveForward stays hplace hlimit) hle
  rw [← List.takeWhile_append_dropWhile (p := stays) (l := text.extract place limit)] at hsplit
  apply List.append_inj hsplit.symm
  rw [length_extract (hle.trans hlimit), moveForward_eq stays hplace hlimit]
  omega

/-! ### Moves backward -/

theorem moveBackward_le (text : List α) (limit place : Nat) : moveBackward stays text limit place ≤ place := by
  induction place with
  | zero => exact le_rfl
  | succ place ih =>
      rw [moveBackward]
      split
      · split
        · split
          · exact ih.trans (Nat.le_succ place)
          · exact le_rfl
        · exact le_rfl
      · exact le_rfl

/-- A move backward takes the characters of its kind off the end of the piece. -/
theorem extract_moveBackward (hplace : limit ≤ place) (hlength : place ≤ text.length) :
    text.extract limit (moveBackward stays text limit place) = (text.extract limit place).rdropWhile stays := by
  induction place with
  | zero =>
      obtain rfl : limit = 0 := by omega
      rw [moveBackward, extract_self, List.rdropWhile_nil]
  | succ place ih =>
      rw [moveBackward]
      by_cases hbefore : limit < place + 1
      · rw [if_pos hbefore, List.getElem?_eq_getElem hlength, extract_succ (by omega) hlength, List.rdropWhile_concat]
        dsimp only
        split
        · exact ih (by omega) (by omega)
        · exact extract_succ (by omega) hlength
      · obtain rfl : limit = place + 1 := by omega
        rw [if_neg hbefore, extract_self, List.rdropWhile_nil]

end EspNut.Lib
