import Mathlib.Data.List.Basic
import Mathlib.Data.List.Infix
import Mathlib.Data.List.TakeWhile

/-!
# Fixed-size buffers

A buffer is a list that no write makes longer, and a write behind its end fails. A text grows in it from the front; once a terminator stands behind it, the buffer holds the text.
-/

namespace EspNut.Lib.Buffer

variable {α : Type}

def write (buffer : List α) (i : Nat) (c : α) : Option (List α) := if i < buffer.length then some (buffer.set i c) else none

variable {buffer front : List α}

/-- What has been written in front stays in front, and the next place takes the next element. -/
theorem write_next (h : front <+: buffer) (hroom : front.length < buffer.length) (c : α) :
    ∃ written, write buffer front.length c = some written ∧ front ++ [c] <+: written ∧ written.length = buffer.length := by
  obtain ⟨rest, rfl⟩ := h
  rw [List.length_append] at hroom
  obtain ⟨old, rest, rfl⟩ := List.exists_cons_of_length_pos (show 0 < rest.length by omega)
  refine ⟨front ++ c :: rest, ?_, ⟨rest, by simp⟩, by simp⟩
  unfold write
  rw [if_pos (by simp), List.set_append_right _ _ le_rfl, Nat.sub_self, List.set_cons_zero]

/-- Elements are copied behind the first `n` as long as there are less than `limit`. -/
def copyUpTo (limit : Nat) : List α → List α → Nat → Option (List α × Nat)
  | [], buffer, n => some (buffer, n)
  | c :: rest, buffer, n => if n < limit then do copyUpTo limit rest (← write buffer n c) (n + 1) else some (buffer, n)

theorem copyUpTo_full {limit n : Nat} (hfull : limit ≤ n) (text buffer : List α) :
    copyUpTo limit text buffer n = some (buffer, n) := by
  unfold copyUpTo
  split
  · rfl
  · rw [if_neg (Nat.not_lt.mpr hfull)]

theorem copyUpTo_of_prefix {limit : Nat} (text : List α) (h : front <+: buffer) (hlimit : limit ≤ buffer.length) :
    ∃ copied, copyUpTo limit text buffer front.length
        = some (copied, (front ++ text.take (limit - front.length)).length)
      ∧ front ++ text.take (limit - front.length) <+: copied ∧ copied.length = buffer.length := by
  induction text generalizing buffer front with
  | nil => exact ⟨buffer, by simp [copyUpTo], by simpa using h, rfl⟩
  | cons c rest ih =>
      unfold copyUpTo
      by_cases hroom : front.length < limit
      · obtain ⟨written, hwrite, hfront, hlength⟩ := write_next h (by omega) c
        obtain ⟨copied, hcopy, hall, hsame⟩ := ih hfront (hlimit.trans hlength.ge)
        rw [List.length_append, List.length_singleton] at hcopy hall
        have htake : front ++ [c] ++ rest.take (limit - (front.length + 1)) = front ++ (c :: rest).take (limit - front.length) := by
          rw [show limit - front.length = limit - (front.length + 1) + 1 by omega, List.take_succ_cons, List.append_assoc]
          rfl
        rw [htake] at hcopy hall
        refine ⟨copied, ?_, hall, hsame.trans hlength⟩
        rw [if_pos hroom, hwrite]
        exact hcopy
      · rw [if_neg hroom, Nat.sub_eq_zero_of_le (Nat.le_of_not_lt hroom), List.take_zero, List.append_nil]
        exact ⟨buffer, rfl, h, rfl⟩

/-! ### Terminated texts -/

variable {stop : Char} {text memory : List Char}

/-- The buffer begins with the text and its terminator. -/
def Holds (memory text : List Char) : Prop := text ++ ['\x00'] <+: memory ∧ '\x00' ∉ text

/-- A text as C passes it. -/
structure CString where
  chars : List Char
  noStop : '\x00' ∉ chars

/-- The text that begins a buffer. -/
def contents (memory : List Char) : List Char := memory.takeWhile (· ≠ '\x00')

/-- The text is found in any front of the buffer that is long enough. -/
theorem contents_take_of_holds {n : Nat} (h : Holds memory text) (hlong : text.length ≤ n) : contents (memory.take n) = text := by
  obtain ⟨⟨rest, rfl⟩, hnone⟩ := h
  have hstop : (('\x00' :: rest).take (n - text.length)).takeWhile (· ≠ '\x00') = [] := by
    cases n - text.length with
    | zero => rfl
    | succ room => rw [List.take_succ_cons, List.takeWhile_cons_of_neg (by simp)]
  have htext : ∀ c ∈ text, decide (c ≠ '\x00') = true := by
    intro c hc
    rw [decide_eq_true_eq]
    rintro rfl
    exact hnone hc
  unfold contents
  rw [List.append_assoc, List.take_append, List.take_of_length_le hlong, List.takeWhile_append_of_pos htext, List.singleton_append,
    hstop, List.append_nil]

theorem contents_of_holds (h : Holds memory text) : contents memory = text := by
  have hwhole := contents_take_of_holds h (h.1.length_le.trans' (by simp))
  rwa [List.take_length] at hwhole

theorem no_stop_of_mem_contents (memory : List Char) : '\x00' ∉ contents memory := by
  intro hmem
  have hnot := List.mem_takeWhile_imp hmem
  simp at hnot

theorem Holds.length_lt (h : Holds memory text) : text.length < memory.length := by
  have hlength := h.1.length_le
  rwa [List.length_append, List.length_singleton] at hlength

theorem write_stop (h : text <+: memory) (hroom : text.length < memory.length) (hnone : '\x00' ∉ text) :
    ∃ written, write memory text.length '\x00' = some written ∧ Holds written text ∧ written.length = memory.length := by
  obtain ⟨written, hwrite, hfront, hlength⟩ := write_next h hroom '\x00'
  exact ⟨written, hwrite, ⟨hfront, hnone⟩, hlength⟩

/-- What `snprintf` leaves of a buffer. -/
def print (memory text : List Char) : List Char :=
  if memory = [] then []
  else text.take (memory.length - 1) ++ '\x00' :: memory.drop ((text.take (memory.length - 1)).length + 1)

theorem length_print (memory text : List Char) : (print memory text).length = memory.length := by
  unfold print
  split
  · rename_i hempty
    rw [hempty]
  · rename_i hsome
    have hpos := List.length_pos_iff.mpr hsome
    rw [List.length_append, List.length_cons, List.length_drop]
    have htake := List.length_take_le (memory.length - 1) text
    omega

theorem print_holds (hroom : text.length < memory.length) (hnone : '\x00' ∉ text) : Holds (print memory text) text := by
  unfold print
  rw [if_neg (List.ne_nil_of_length_pos (Nat.zero_lt_of_lt hroom)), List.take_of_length_le (by omega)]
  exact ⟨⟨memory.drop (text.length + 1), by simp⟩, hnone⟩

end EspNut.Lib.Buffer
