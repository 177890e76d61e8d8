import Mathlib.Data.List.Basic
import Mathlib.Data.List.TakeWhile

/-!
# JSON

Values of any nesting, the escapes of their texts and the literals of their numbers. A number is kept as its literal.
-/

namespace EspNut.Lib.Json

inductive Value where
  | null
  | bool (b : Bool)
  | number (literal : List Char)
  | text (chars : List Char)
  | array (items : List Value)
  | object (members : List (List Char × Value))

/-! ### Escapes -/

def escapes : List (Char × Char) :=
  [('"', '"'), ('\\', '\\'), ('\x08', 'b'), ('\x0c', 'f'), ('\n', 'n'), ('\r', 'r'), ('\t', 't')]

def escape (c : Char) : List Char :=
  match escapes.lookup c with
  | some letter => ['\\', letter]
  | none => [c]

def unescape (letter : Char) : Option Char := (escapes.find? fun e => e.2 = letter).map Prod.fst

theorem unescape_of_mem {c letter : Char} (h : (c, letter) ∈ escapes) : unescape letter = some c := by
  have hall : ∀ entry ∈ escapes, unescape entry.2 = some entry.1 := by decide
  exact hall (c, letter) h

theorem mem_escapes_of_lookup {entries : List (Char × Char)} {c letter : Char} (h : entries.lookup c = some letter) :
    (c, letter) ∈ entries := by
  obtain ⟨before, after, rfl, -⟩ := List.lookup_eq_some_iff.mp h
  simp

/-! ### Literals -/

/-- The digits in front of the point: one at least, and no leading zero. -/
def isWhole (digits : List Char) : Bool := decide (digits ≠ []) && (decide (digits.length = 1) || decide (digits.head? ≠ some '0'))

/-- The unsigned part of a JSON number without an exponent. -/
def isUnsigned (chars : List Char) : Bool :=
  isWhole (chars.takeWhile Char.isDigit) &&
    match chars.dropWhile Char.isDigit with
    | [] => true
    | point :: fraction => decide (point = '.') && decide (fraction ≠ []) && fraction.all Char.isDigit

/-- A JSON number without an exponent. -/
def isNumber : List Char → Bool
  | '-' :: chars => isUnsigned chars
  | chars => isUnsigned chars

/-- What may follow a literal. -/
def isDelimiter (c : Char) : Bool := c = ',' || c = ']' || c = '\x7d'

/-- Text that may be meant as a number: digits, points and minus signs. -/
def isBare (literal : List Char) : Bool :=
  decide (literal ≠ []) && literal.all fun c => c.isDigit || c = '-' || c = '.'

theorem ne_of_isDigit {c d : Char} (hc : c.isDigit = true) (hd : d.isDigit = false) : c ≠ d := by
  rintro rfl
  exact absurd hc (by rw [hd]; decide)

theorem succ_of_length {n : Nat} {c : Char} {chars : List Char} (h : (c :: chars).length ≤ n) :
    ∃ m, n = m + 1 ∧ chars.length ≤ m := by
  rw [List.length_cons] at h
  exact ⟨n - 1, by omega, by omega⟩

end EspNut.Lib.Json
