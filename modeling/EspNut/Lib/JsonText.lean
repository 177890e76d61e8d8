import EspNut.Lib.JsonNumber

/-!
# JSON texts

The grammar of JSON with blanks between the tokens, as a relation between a value and the texts it can be written as, and a reader. `raw` lets control characters stand in a string as they are, which JSON does not. The reader finds what the grammar derives, so a text denotes one value at most.
-/

namespace EspNut.Lib.JsonText

open Json

def isBlank (c : Char) : Bool := c = ' ' || c = '\t' || c = '\n' || c = '\r'

def skip (chars : List Char) : List Char := chars.dropWhile isBlank

/-- What follows a number or a word. -/
def ends (c : Char) : Bool := isDelimiter c || isBlank c

/-! ### Strings -/

def hexValue (c : Char) : Option Nat :=
  if '0' ≤ c ∧ c ≤ '9' then some (c.toNat - '0'.toNat)
  else if 'a' ≤ c ∧ c ≤ 'f' then some (c.toNat - 'a'.toNat + 10)
  else if 'A' ≤ c ∧ c ≤ 'F' then some (c.toNat - 'A'.toNat + 10)
  else none

def readHex : Nat → Nat → List Char → Option (Nat × List Char)
  | 0, value, chars => some (value, chars)
  | _ + 1, _, [] => none
  | digits + 1, value, c :: rest => (hexValue c).bind fun digit => readHex digits (16 * value + digit) rest

/-- The character behind `\u`, where a pair of surrogates stands for one. -/
def readCode (chars : List Char) : Option (Char × List Char) :=
  match readHex 4 0 chars with
  | none => none
  | some (high, rest) =>
      if 0xD800 ≤ high ∧ high ≤ 0xDBFF then
        match rest with
        | '\\' :: 'u' :: rest =>
            match readHex 4 0 rest with
            | none => none
            | some (low, rest) =>
                if 0xDC00 ≤ low ∧ low ≤ 0xDFFF then
                  some (Char.ofNat (0x10000 + (high - 0xD800) * 0x400 + (low - 0xDC00)), rest)
                else none
        | _ => none
      else if 0xDC00 ≤ high ∧ high ≤ 0xDFFF then none
      else some (Char.ofNat high, rest)

/-- One character of a string, and what follows it; none at the closing quote. -/
def readChar (raw : Bool) : List Char → Option (Char × List Char)
  | '\\' :: 'u' :: rest => readCode rest
  | '\\' :: '/' :: rest => some ('/', rest)
  | '\\' :: letter :: rest => (unescape letter).map fun c => (c, rest)
  | c :: rest => if c = '"' ∨ c = '\\' ∨ (raw = false ∧ c < ' ') then none else some (c, rest)
  | [] => none

/-- A string up to its closing quote, and what follows it. -/
inductive Text (raw : Bool) : List Char → List Char → List Char → Prop
  | close (rest : List Char) : Text raw [] ('"' :: rest) rest
  | char {c : Char} {chars text next rest : List Char} (hchar : readChar raw text = some (c, next))
      (h : Text raw chars next rest) : Text raw (c :: chars) text rest

def readString (raw : Bool) : Nat → List Char → Option (List Char × List Char)
  | 0, _ => none
  | rounds + 1, text =>
      if text.head? = some '"' then some ([], text.tail)
      else match readChar raw text with
        | none => none
        | some (c, next) => (readString raw rounds next).map fun read => (c :: read.1, read.2)

theorem length_readHex {digits value : Nat} {chars : List Char} {result : Nat × List Char}
    (h : readHex digits value chars = some result) : result.2.length ≤ chars.length := by
  induction digits generalizing value chars with
  | zero =>
      obtain rfl := Option.some.inj h
      exact Nat.le_refl _
  | succ digits ih =>
      cases chars with
      | nil => cases h
      | cons c rest =>
          obtain ⟨digit, -, hrest⟩ := Option.bind_eq_some_iff.mp h
          exact Nat.le_succ_of_le (ih hrest)

theorem length_readCode {chars : List Char} {result : Char × List Char} (h : readCode chars = some result) :
    result.2.length ≤ chars.length := by
  unfold readCode at h
  split at h
  · cases h
  rename_i high rest hhigh
  have hrest := length_readHex hhigh
  split at h
  · split at h
    · rename_i more _
      split at h
      · cases h
      · rename_i low after hlow
        have hafter := length_readHex hlow
        split at h
        · obtain rfl := Option.some.inj h
          dsimp only [List.length_cons] at hrest hafter ⊢
          omega
        · cases h
    · cases h
  · split at h
    · cases h
    · obtain rfl := Option.some.inj h
      exact hrest

theorem length_readChar {raw : Bool} {chars : List Char} {result : Char × List Char} (h : readChar raw chars = some result) :
    result.2.length < chars.length := by
  unfold readChar at h
  split at h
  · have hcode := length_readCode h
    dsimp only [List.length_cons]
    omega
  · obtain rfl := Option.some.inj h
    dsimp only [List.length_cons]
    omega
  · obtain ⟨c, -, rfl⟩ := Option.map_eq_some_iff.mp h
    dsimp only [List.length_cons]
    omega
  · split at h
    · cases h
    · obtain rfl := Option.some.inj h
      exact Nat.lt_succ_self _
  · cases h

theorem Text.length_lt {raw : Bool} {chars text rest : List Char} (h : Text raw chars text rest) : rest.length < text.length := by
  induction h with
  | close rest => exact Nat.lt_succ_self _
  | char hchar _ ih => exact lt_trans ih (length_readChar hchar)

theorem readString_of_text {raw : Bool} {chars text rest : List Char} (h : Text raw chars text rest) {rounds : Nat}
    (hrounds : text.length ≤ rounds) : readString raw rounds text = some (chars, rest) := by
  induction h generalizing rounds with
  | close rest =>
      obtain ⟨n, rfl, -⟩ := succ_of_length hrounds
      rfl
  | @char c chars text next rest hchar _ ih =>
      have hnext := length_readChar hchar
      obtain ⟨n, rfl⟩ : ∃ n, rounds = n + 1 := ⟨rounds - 1, by omega⟩
      have hquote : text.head? ≠ some '"' := by
        intro hhead
        obtain ⟨more, rfl⟩ := List.head?_eq_some_iff.mp hhead
        have hnone : readChar raw ('"' :: more) = none := by simp [readChar]
        rw [hnone] at hchar
        cases hchar
      unfold readString
      rw [if_neg hquote, hchar]
      show (readString raw n next).map _ = _
      rw [ih (by dsimp only at hnext; omega)]
      rfl

/-! ### Values -/

/-- A number, with an exponent or without. -/
def isNumeral (word : List Char) : Bool :=
  let exponent := word.dropWhile fun c => !(c = 'e' || c = 'E')
  isNumber (word.takeWhile fun c => !(c = 'e' || c = 'E')) &&
    match exponent with
    | [] => true
    | _ :: '+' :: digits | _ :: '-' :: digits | _ :: digits => decide (digits ≠ []) && digits.all Char.isDigit

def literalValue (word : List Char) : Option Value :=
  if word = "null".toList then some .null
  else if word = "true".toList then some (.bool true)
  else if word = "false".toList then some (.bool false)
  else if isNumeral word then some (.number word)
  else none

/-- A number or a word up to what ends it. -/
def readLiteral (text : List Char) : Option (Value × List Char) :=
  (literalValue (text.takeWhile fun c => !ends c)).map fun v => (v, text.dropWhile fun c => !ends c)

/-- A value, or the items or members up to the closing bracket. -/
inductive Part where
  | value (v : Value)
  | items (vs : List Value)
  | members (ms : List (List Char × Value))

/-- The text stands for the part, and the rest follows it. -/
inductive Denotes (raw : Bool) : Part → List Char → List Char → Prop
  | literal {v : Value} {text rest : List Char} (h : readLiteral text = some (v, rest)) : Denotes raw (.value v) text rest
  | text {chars text rest : List Char} (h : Text raw chars text rest) : Denotes raw (.value (.text chars)) ('"' :: text) rest
  | noItems {text rest : List Char} (h : skip text = ']' :: rest) : Denotes raw (.value (.array [])) ('[' :: text) rest
  | array {vs : List Value} {text rest : List Char} (h : Denotes raw (.items vs) (skip text) rest) :
      Denotes raw (.value (.array vs)) ('[' :: text) rest
  | lastItem {v : Value} {text after rest : List Char} (hv : Denotes raw (.value v) text after) (h : skip after = ']' :: rest) :
      Denotes raw (.items [v]) text rest
  | moreItems {v : Value} {vs : List Value} {text after next rest : List Char} (hv : Denotes raw (.value v) text after)
      (h : skip after = ',' :: next) (hvs : Denotes raw (.items vs) (skip next) rest) : Denotes raw (.items (v :: vs)) text rest
  | noMembers {text rest : List Char} (h : skip text = '\x7d' :: rest) : Denotes raw (.value (.object [])) ('\x7b' :: text) rest
  | object {ms : List (List Char × Value)} {text rest : List Char} (h : Denotes raw (.members ms) (skip text) rest) :
      Denotes raw (.value (.object ms)) ('\x7b' :: text) rest
  | lastMember {name : List Char} {v : Value} {text after colon next rest : List Char} (hname : Text raw name text after)
      (hcolon : skip after = ':' :: colon) (hv : Denotes raw (.value v) (skip colon) next) (h : skip next = '\x7d' :: rest) :
      Denotes raw (.members [(name, v)]) ('"' :: text) rest
  | moreMembers {name : List Char} {v : Value} {ms : List (List Char × Value)} {text after colon next more rest : List Char}
      (hname : Text raw name text after) (hcolon : skip after = ':' :: colon) (hv : Denotes raw (.value v) (skip colon) next)
      (h : skip next = ',' :: more) (hms : Denotes raw (.members ms) (skip more) rest) :
      Denotes raw (.members ((name, v) :: ms)) ('"' :: text) rest

/-- A whole text that stands for one value. -/
def IsJson (raw : Bool) (v : Value) (text : List Char) : Prop :=
  ∃ rest, Denotes raw (.value v) (skip text) rest ∧ skip rest = []

/-! ### The reader -/

mutual

/-- A value in front of the rest of the text; every step takes a round. -/
def readValue (raw : Bool) : Nat → List Char → Option (Value × List Char)
  | 0, _ => none
  | rounds + 1, text =>
      match text with
      | '"' :: text => (readString raw text.length text).map fun read => (.text read.1, read.2)
      | '[' :: text =>
          if (skip text).head? = some ']' then some (.array [], (skip text).tail)
          else (readItems raw rounds (skip text)).map fun read => (.array read.1, read.2)
      | '\x7b' :: text =>
          if (skip text).head? = some '\x7d' then some (.object [], (skip text).tail)
          else (readMembers raw rounds (skip text)).map fun read => (.object read.1, read.2)
      | text => readLiteral text

def readItems (raw : Bool) : Nat → List Char → Option (List Value × List Char)
  | 0, _ => none
  | rounds + 1, text =>
      match readValue raw rounds text with
      | none => none
      | some (v, after) =>
          match skip after with
          | ']' :: rest => some ([v], rest)
          | ',' :: next => (readItems raw rounds (skip next)).map fun read => (v :: read.1, read.2)
          | _ => none

def readMembers (raw : Bool) : Nat → List Char → Option (List (List Char × Value) × List Char)
  | 0, _ => none
  | rounds + 1, text =>
      match text with
      | '"' :: text =>
          match readString raw text.length text with
          | none => none
          | some (name, after) =>
              match skip after with
              | ':' :: colon =>
                  match readValue raw rounds (skip colon) with
                  | none => none
                  | some (v, next) =>
                      match skip next with
                      | '\x7d' :: rest => some ([(name, v)], rest)
                      | ',' :: more => (readMembers raw rounds (skip more)).map fun read => ((name, v) :: read.1, read.2)
                      | _ => none
              | _ => none
      | _ => none

end

/-- The value of a whole text. -/
def parse (raw : Bool) (text : List Char) : Option Value :=
  match readValue raw (2 * text.length + 1) (skip text) with
  | some (v, rest) => if skip rest = [] then some v else none
  | none => none

/-- Rounds that are enough for a part. -/
def cost : Part → List Char → Nat
  | .value _, text => 2 * text.length + 1
  | _, text => 2 * text.length + 2

def Reads (raw : Bool) (rounds : Nat) : Part → List Char → List Char → Prop
  | .value v, text, rest => readValue raw rounds text = some (v, rest)
  | .items vs, text, rest => readItems raw rounds text = some (vs, rest)
  | .members ms, text, rest => readMembers raw rounds text = some (ms, rest)

theorem length_skip_le (chars : List Char) : (skip chars).length ≤ chars.length := List.length_dropWhile_le _ _

theorem length_of_skip {chars rest : List Char} {c : Char} (h : skip chars = c :: rest) : rest.length < chars.length := by
  have hlength := length_skip_le chars
  rw [h] at hlength
  exact hlength

theorem readLiteral_of_ends {c : Char} (hc : ends c = true) (text : List Char) : readLiteral (c :: text) = none := by
  unfold readLiteral
  rw [List.takeWhile_cons_of_neg (by simp [hc])]
  rfl

theorem readLiteral_opener {c : Char} (hc : c = '"' ∨ c = '[' ∨ c = '\x7b') (text : List Char) : readLiteral (c :: text) = none := by
  rcases hc with rfl | rfl | rfl <;> rfl

theorem length_readLiteral_le {text : List Char} {read : Value × List Char} (h : readLiteral text = some read) :
    read.2.length ≤ text.length := by
  obtain ⟨v, -, rfl⟩ := Option.map_eq_some_iff.mp h
  exact List.length_dropWhile_le _ _

theorem readValue_of_literal {raw : Bool} {rounds : Nat} {text rest : List Char} {v : Value}
    (h : readLiteral text = some (v, rest)) : readValue raw (rounds + 1) text = some (v, rest) := by
  unfold readValue
  split
  · rw [readLiteral_opener (.inl rfl)] at h
    cases h
  · rw [readLiteral_opener (.inr (.inl rfl))] at h
    cases h
  · rw [readLiteral_opener (.inr (.inr rfl))] at h
    cases h
  · exact h

/-- No part begins with a closing bracket. -/
theorem Denotes.head_ne {raw : Bool} {p : Part} {text rest : List Char} (h : Denotes raw p text rest) :
    text.head? ≠ some ']' ∧ text.head? ≠ some '\x7d' := by
  induction h with
  | literal hread =>
      constructor
      · intro hhead
        obtain ⟨more, rfl⟩ := List.head?_eq_some_iff.mp hhead
        rw [readLiteral_of_ends (by decide)] at hread
        cases hread
      · intro hhead
        obtain ⟨more, rfl⟩ := List.head?_eq_some_iff.mp hhead
        rw [readLiteral_of_ends (by decide)] at hread
        cases hread
  | lastItem hv h ihv => exact ihv
  | moreItems hv h hvs ihv ihvs => exact ihv
  | text | noItems | array | noMembers | object | lastMember | moreMembers => exact ⟨by simp, by simp⟩

theorem Denotes.length_le {raw : Bool} {p : Part} {text rest : List Char} (h : Denotes raw p text rest) :
    rest.length ≤ text.length := by
  induction h with
  | literal h => exact length_readLiteral_le h
  | text h => exact (h.length_lt.trans (Nat.lt_succ_self _)).le
  | noItems h | noMembers h => exact ((length_of_skip h).trans (Nat.lt_succ_self _)).le
  | @array vs text rest h ih | @object ms text rest h ih => exact Nat.le_succ_of_le (ih.trans (length_skip_le text))
  | lastItem hv h ihv => exact ((length_of_skip h).trans_le ihv).le
  | @moreItems v vs text after next rest hv h hvs ihv ihvs =>
      exact (ihvs.trans (length_skip_le next)).trans ((length_of_skip h).trans_le ihv).le
  | @lastMember name v text after colon next rest hname hcolon hv h ihv =>
      have hfirst := hname.length_lt
      have hsecond := length_of_skip hcolon
      have hthird := length_skip_le colon
      have hfourth := length_of_skip h
      rw [List.length_cons]
      omega
  | @moreMembers name v ms text after colon next more rest hname hcolon hv h hms ihv ihms =>
      have hfirst := hname.length_lt
      have hsecond := length_of_skip hcolon
      have hthird := length_skip_le colon
      have hfourth := length_of_skip h
      have hfifth := length_skip_le more
      rw [List.length_cons]
      omega

theorem readItems_of_last {raw : Bool} {rounds : Nat} {text after rest : List Char} {v : Value}
    (hv : readValue raw rounds text = some (v, after)) (h : skip after = ']' :: rest) :
    readItems raw (rounds + 1) text = some ([v], rest) := by
  unfold readItems
  simp only [hv, h]

theorem readItems_of_more {raw : Bool} {rounds : Nat} {text after next rest : List Char} {v : Value} {vs : List Value}
    (hv : readValue raw rounds text = some (v, after)) (h : skip after = ',' :: next)
    (hvs : readItems raw rounds (skip next) = some (vs, rest)) : readItems raw (rounds + 1) text = some (v :: vs, rest) := by
  rw [readItems]
  simp only [hv, h, hvs, Option.map_some]

section Members

variable {raw : Bool} {rounds : Nat} {text after colon next more rest name : List Char} {v : Value} {ms : List (List Char × Value)}
  (hname : Text raw name text after) (hcolon : skip after = ':' :: colon) (hv : readValue raw rounds (skip colon) = some (v, next))

include hname hcolon hv

theorem readMembers_of_last (h : skip next = '\x7d' :: rest) :
    readMembers raw (rounds + 1) ('"' :: text) = some ([(name, v)], rest) := by
  unfold readMembers
  simp only [readString_of_text hname (Nat.le_refl _), hcolon, hv, h]

theorem readMembers_of_more (h : skip next = ',' :: more) (hms : readMembers raw rounds (skip more) = some (ms, rest)) :
    readMembers raw (rounds + 1) ('"' :: text) = some ((name, v) :: ms, rest) := by
  rw [readMembers]
  simp only [readString_of_text hname (Nat.le_refl _), hcolon, hv, h, hms, Option.map_some]

end Members

theorem succ_of_cost {p : Part} {text : List Char} {rounds : Nat} (h : cost p text ≤ rounds) :
    ∃ n, rounds = n + 1 ∧ 2 * text.length ≤ n := by
  have hcost : 2 * text.length + 1 ≤ cost p text := by
    cases p <;> simp only [cost] <;> omega
  exact ⟨rounds - 1, by omega, by omega⟩

/-- The reader finds what the text stands for. -/
theorem Denotes.reads {raw : Bool} {p : Part} {text rest : List Char} (h : Denotes raw p text rest) {rounds : Nat}
    (hrounds : cost p text ≤ rounds) : Reads raw rounds p text rest := by
  induction h generalizing rounds with
  | literal h =>
      obtain ⟨n, rfl, -⟩ := succ_of_cost hrounds
      exact readValue_of_literal h
  | @text chars text rest h =>
      obtain ⟨n, rfl, -⟩ := succ_of_cost hrounds
      show (readString raw text.length text).map _ = _
      rw [readString_of_text h (Nat.le_refl _)]
      rfl
  | @noItems text rest h =>
      obtain ⟨n, rfl, -⟩ := succ_of_cost hrounds
      show (if (skip text).head? = some ']' then _ else _) = _
      rw [h]
      rfl
  | @array vs text rest h ih =>
      obtain ⟨n, rfl, hn⟩ := succ_of_cost hrounds
      have hlength := length_skip_le text
      rw [List.length_cons] at hn
      have hread : readItems raw n (skip text) = some (vs, rest) := ih (by simp only [cost]; omega)
      show (if (skip text).head? = some ']' then _ else _) = _
      rw [if_neg h.head_ne.1, hread]
      rfl
  | @lastItem v text after rest hv h ihv =>
      obtain ⟨n, rfl, -⟩ := succ_of_cost hrounds
      exact readItems_of_last (ihv (Nat.le_of_succ_le_succ hrounds)) h
  | @moreItems v vs text after next rest hv h hvs ihv ihvs =>
      obtain ⟨n, rfl, hn⟩ := succ_of_cost hrounds
      have hnext := (length_of_skip h).trans_le hv.length_le
      have hlength := length_skip_le next
      exact readItems_of_more (ihv (Nat.le_of_succ_le_succ hrounds)) h (ihvs (by simp only [cost]; omega))
  | @noMembers text rest h =>
      obtain ⟨n, rfl, -⟩ := succ_of_cost hrounds
      show (if (skip text).head? = some '\x7d' then _ else _) = _
      rw [h]
      rfl
  | @object ms text rest h ih =>
      obtain ⟨n, rfl, hn⟩ := succ_of_cost hrounds
      have hlength := length_skip_le text
      rw [List.length_cons] at hn
      have hread : readMembers raw n (skip text) = some (ms, rest) := ih (by simp only [cost]; omega)
      show (if (skip text).head? = some '\x7d' then _ else _) = _
      rw [if_neg h.head_ne.2, hread]
      rfl
  | @lastMember name v text after colon next rest hname hcolon hv h ihv =>
      obtain ⟨n, rfl, hn⟩ := succ_of_cost hrounds
      have hfirst := hname.length_lt
      have hsecond := length_of_skip hcolon
      have hthird := length_skip_le colon
      rw [List.length_cons] at hn
      exact readMembers_of_last hname hcolon (ihv (by simp only [cost]; omega)) h
  | @moreMembers name v ms text after colon next more rest hname hcolon hv h hms ihv ihms =>
      obtain ⟨n, rfl, hn⟩ := succ_of_cost hrounds
      have hfirst := hname.length_lt
      have hsecond := length_of_skip hcolon
      have hthird := length_skip_le colon
      have hfourth := hv.length_le
      have hfifth := length_of_skip h
      have hsixth := length_skip_le more
      rw [List.length_cons] at hn
      exact readMembers_of_more hname hcolon (ihv (by simp only [cost]; omega)) h (ihms (by simp only [cost]; omega))

theorem IsJson.parse_eq {raw : Bool} {v : Value} {text : List Char} (h : IsJson raw v text) : parse raw text = some v := by
  obtain ⟨rest, hv, hrest⟩ := h
  have hlength := length_skip_le text
  have hread : readValue raw (2 * text.length + 1) (skip text) = some (v, rest) := hv.reads (by simp only [cost]; omega)
  unfold parse
  rw [hread]
  exact if_pos hrest

theorem IsJson.unique {raw : Bool} {v w : Value} {text : List Char} (hv : IsJson raw v text) (hw : IsJson raw w text) : v = w :=
  Option.some.inj (hv.parse_eq.symm.trans hw.parse_eq)

/-! ### What the reader finds -/

theorem text_of_readString {raw : Bool} {rounds : Nat} {text : List Char} {read : List Char × List Char}
    (h : readString raw rounds text = some read) : Text raw read.1 text read.2 := by
  induction rounds generalizing text read with
  | zero => cases h
  | succ n ih =>
      unfold readString at h
      split at h
      · rename_i hquote
        obtain ⟨rest, rfl⟩ := List.head?_eq_some_iff.mp hquote
        obtain rfl := Option.some.inj h
        exact .close rest
      split at h
      · cases h
      · rename_i c next hchar
        obtain ⟨more, hmore, rfl⟩ := Option.map_eq_some_iff.mp h
        exact .char hchar (ih hmore)

/-- Whatever the reader finds within some rounds, the grammar derives. -/
def Sound (raw : Bool) (rounds : Nat) : Prop :=
  (∀ text v rest, readValue raw rounds text = some (v, rest) → Denotes raw (.value v) text rest)
    ∧ (∀ text vs rest, readItems raw rounds text = some (vs, rest) → Denotes raw (.items vs) text rest)
    ∧ ∀ text ms rest, readMembers raw rounds text = some (ms, rest) → Denotes raw (.members ms) text rest

theorem sound_value {raw : Bool} {rounds : Nat} (h : Sound raw rounds) {text rest : List Char} {v : Value}
    (hread : readValue raw (rounds + 1) text = some (v, rest)) : Denotes raw (.value v) text rest := by
  obtain ⟨-, hitems, hmembers⟩ := h
  unfold readValue at hread
  split at hread
  · obtain ⟨read, hstring, heq⟩ := Option.map_eq_some_iff.mp hread
    obtain ⟨rfl, rfl⟩ := Prod.mk.inj heq
    exact .text (text_of_readString hstring)
  · split at hread
    · rename_i hclose
      obtain ⟨more, hskip⟩ := List.head?_eq_some_iff.mp hclose
      obtain ⟨rfl, rfl⟩ := Prod.mk.inj (Option.some.inj hread)
      rw [hskip]
      exact .noItems hskip
    · obtain ⟨read, hmore, heq⟩ := Option.map_eq_some_iff.mp hread
      obtain ⟨rfl, rfl⟩ := Prod.mk.inj heq
      exact .array (hitems _ _ _ hmore)
  · split at hread
    · rename_i hclose
      obtain ⟨more, hskip⟩ := List.head?_eq_some_iff.mp hclose
      obtain ⟨rfl, rfl⟩ := Prod.mk.inj (Option.some.inj hread)
      rw [hskip]
      exact .noMembers hskip
    · obtain ⟨read, hmore, heq⟩ := Option.map_eq_some_iff.mp hread
      obtain ⟨rfl, rfl⟩ := Prod.mk.inj heq
      exact .object (hmembers _ _ _ hmore)
  · exact .literal hread

theorem sound_items {raw : Bool} {rounds : Nat} (h : Sound raw rounds) {text rest : List Char} {vs : List Value}
    (hread : readItems raw (rounds + 1) text = some (vs, rest)) : Denotes raw (.items vs) text rest := by
  obtain ⟨hvalue, hitems, -⟩ := h
  unfold readItems at hread
  split at hread
  · cases hread
  rename_i v after hv
  have hv := hvalue _ _ _ hv
  split at hread
  · rename_i hclose
    obtain ⟨rfl, rfl⟩ := Prod.mk.inj (Option.some.inj hread)
    exact .lastItem hv hclose
  · rename_i hcomma
    obtain ⟨read, hmore, heq⟩ := Option.map_eq_some_iff.mp hread
    obtain ⟨rfl, rfl⟩ := Prod.mk.inj heq
    exact .moreItems hv hcomma (hitems _ _ _ hmore)
  · cases hread

theorem sound_members {raw : Bool} {rounds : Nat} (h : Sound raw rounds) {text rest : List Char} {ms : List (List Char × Value)}
    (hread : readMembers raw (rounds + 1) text = some (ms, rest)) : Denotes raw (.members ms) text rest := by
  obtain ⟨hvalue, -, hmembers⟩ := h
  unfold readMembers at hread
  split at hread
  case h_2 => cases hread
  split at hread
  · cases hread
  rename_i name after hname
  have hname := text_of_readString hname
  split at hread
  case h_2 => cases hread
  rename_i hcolon
  split at hread
  · cases hread
  rename_i v next hv
  have hv := hvalue _ _ _ hv
  split at hread
  · rename_i hclose
    obtain ⟨rfl, rfl⟩ := Prod.mk.inj (Option.some.inj hread)
    exact .lastMember hname hcolon hv hclose
  · rename_i hcomma
    obtain ⟨read, hmore, heq⟩ := Option.map_eq_some_iff.mp hread
    obtain ⟨rfl, rfl⟩ := Prod.mk.inj heq
    exact .moreMembers hname hcolon hv hcomma (hmembers _ _ _ hmore)
  · cases hread

theorem sound (raw : Bool) (rounds : Nat) : Sound raw rounds := by
  induction rounds with
  | zero =>
      refine ⟨fun text v rest hread => ?_, fun text vs rest hread => ?_, fun text ms rest hread => ?_⟩
      · rw [readValue] at hread
        cases hread
      · rw [readItems] at hread
        cases hread
      · rw [readMembers] at hread
        cases hread
  | succ n ih => exact ⟨fun _ _ _ => sound_value ih, fun _ _ _ => sound_items ih, fun _ _ _ => sound_members ih⟩

/-- The reader finds the value that a text stands for, and nothing else. -/
theorem parse_eq_some_iff {raw : Bool} {v : Value} {text : List Char} : parse raw text = some v ↔ IsJson raw v text := by
  refine ⟨fun h => ?_, IsJson.parse_eq⟩
  unfold parse at h
  split at h
  · rename_i w rest hread
    split at h
    · rename_i hrest
      obtain rfl := Option.some.inj h
      exact ⟨rest, (sound raw _).1 _ _ _ hread, hrest⟩
    · cases h
  · cases h

/-! ### Writing -/

/-- Nothing but blanks. -/
abbrev Blank (blanks : List Char) : Prop := blanks.all isBlank = true

/-- Nothing that goes on with a number or a word. -/
def Ended (rest : List Char) : Prop := ∀ c ∈ rest.head?, ends c = true

/-- The text stands for the value in front of any rest that ends it. -/
structure Writes (raw : Bool) (v : Value) (text : List Char) : Prop where
  head : ∃ c more, text = c :: more ∧ isBlank c = false
  denotes : ∀ rest, Ended rest → Denotes raw (.value v) (text ++ rest) rest

/-- The items behind one, up to the closing bracket. -/
inductive Items (raw : Bool) : List Value → List Char → Prop
  | close {blanks : List Char} (hblanks : Blank blanks) : Items raw [] (blanks ++ [']'])
  | more {v : Value} {vs : List Value} {blanks text items : List Char} (hblanks : Blank blanks)
      (hv : Writes raw v text) (h : Items raw vs items) : Items raw (v :: vs) (',' :: (blanks ++ (text ++ items)))

/-- The members behind one, up to the closing brace. -/
inductive Members (raw : Bool) : List (List Char × Value) → List Char → Prop
  | close {blanks : List Char} (hblanks : Blank blanks) : Members raw [] (blanks ++ ['\x7d'])
  | more {name : List Char} {v : Value} {ms : List (List Char × Value)} {blanks key text members : List Char}
      (hblanks : Blank blanks) (hkey : ∀ rest, Text raw name (key ++ rest) rest)
      (hv : Writes raw v text) (h : Members raw ms members) :
      Members raw ((name, v) :: ms) (',' :: (blanks ++ ('"' :: (key ++ (':' :: ' ' :: (text ++ members))))))

theorem skip_blanks {blanks : List Char} (h : Blank blanks) (text : List Char) : skip (blanks ++ text) = skip text :=
  List.dropWhile_append_of_pos (List.all_eq_true.mp h)

theorem skip_cons {c : Char} (h : isBlank c = false) (text : List Char) : skip (c :: text) = c :: text :=
  List.dropWhile_cons_of_neg (ne_true_of_eq_false h)

theorem Writes.skip_eq {raw : Bool} {v : Value} {text : List Char} (h : Writes raw v text) (rest : List Char) :
    skip (text ++ rest) = text ++ rest := by
  obtain ⟨c, more, rfl, hc⟩ := h.head
  exact skip_cons hc _

theorem ended_cons {c : Char} (h : ends c = true) (rest : List Char) : Ended (c :: rest) := by
  intro d hd
  rwa [← Option.some.inj hd]

theorem ended_blanks {blanks : List Char} (hblanks : Blank blanks) {c : Char} (hc : ends c = true)
    (rest : List Char) : Ended (blanks ++ c :: rest) := by
  cases blanks with
  | nil => exact ended_cons hc rest
  | cons b blanks =>
      refine ended_cons ?_ _
      unfold ends
      rw [List.all_eq_true.mp hblanks b List.mem_cons_self, Bool.or_true]

theorem Items.ended {raw : Bool} {vs : List Value} {items : List Char} (h : Items raw vs items) (rest : List Char) :
    Ended (items ++ rest) := by
  cases h with
  | close hblanks =>
      rw [List.append_assoc]
      exact ended_blanks hblanks (by decide) rest
  | more hblanks hv h => exact ended_cons (by decide) _

theorem Members.ended {raw : Bool} {ms : List (List Char × Value)} {members : List Char} (h : Members raw ms members)
    (rest : List Char) : Ended (members ++ rest) := by
  cases h with
  | close hblanks =>
      rw [List.append_assoc]
      exact ended_blanks hblanks (by decide) rest
  | more hblanks hkey hv h => exact ended_cons (by decide) _

theorem Writes.after_blank {raw : Bool} {v : Value} {text rest : List Char} (h : Writes raw v text) (hrest : Ended rest) :
    Denotes raw (.value v) (skip (' ' :: (text ++ rest))) rest := by
  have hskip : skip (' ' :: (text ++ rest)) = skip (text ++ rest) := rfl
  rw [hskip, h.skip_eq]
  exact h.denotes rest hrest

theorem Items.denotes {raw : Bool} {vs : List Value} {items : List Char} (h : Items raw vs items) {v : Value} {text : List Char}
    (hv : Writes raw v text) (rest : List Char) : Denotes raw (.items (v :: vs)) (text ++ (items ++ rest)) rest := by
  induction h generalizing v text with
  | close hblanks =>
      refine .lastItem (hv.denotes _ ((Items.close hblanks : Items raw _ _).ended rest)) ?_
      rw [List.append_assoc, skip_blanks hblanks]
      rfl
  | @more w vs blanks next items hblanks hw h ih =>
      refine .moreItems (hv.denotes _ ((Items.more hblanks hw h).ended rest)) (skip_cons (by decide) _) ?_
      show Denotes raw _ (skip ((blanks ++ (next ++ items)) ++ rest)) rest
      rw [List.append_assoc, List.append_assoc, skip_blanks hblanks, hw.skip_eq]
      exact ih hw

theorem Members.denotes {raw : Bool} {ms : List (List Char × Value)} {members : List Char} (h : Members raw ms members)
    {name key text : List Char} {v : Value} (hkey : ∀ rest, Text raw name (key ++ rest) rest) (hv : Writes raw v text)
    (rest : List Char) :
    Denotes raw (.members ((name, v) :: ms)) ('"' :: (key ++ (':' :: ' ' :: (text ++ (members ++ rest))))) rest := by
  induction h generalizing name key v text with
  | @close blanks hblanks =>
      refine .lastMember (hkey _) (skip_cons (by decide) _)
        (hv.after_blank ((Members.close hblanks : Members raw _ _).ended rest)) ?_
      rw [List.append_assoc, skip_blanks hblanks]
      rfl
  | @more name' w ms blanks key' next members hblanks hkey' hw h ih =>
      refine .moreMembers (hkey _) (skip_cons (by decide) _) (hv.after_blank ((Members.more hblanks hkey' hw h).ended rest))
        (skip_cons (by decide) _) ?_
      show Denotes raw _ (skip ((blanks ++ ('"' :: (key' ++ (':' :: ' ' :: (next ++ members))))) ++ rest)) rest
      rw [List.append_assoc, skip_blanks hblanks]
      show Denotes raw _ ('"' :: ((key' ++ (':' :: ' ' :: (next ++ members))) ++ rest)) rest
      rw [List.append_assoc, List.cons_append, List.cons_append, List.append_assoc]
      exact ih hkey' hw

theorem Writes.isJson {raw : Bool} {v : Value} {text : List Char} (h : Writes raw v text) : IsJson raw v text := by
  have hv := h.denotes [] (fun c hc => by cases hc)
  rw [List.append_nil] at hv
  refine ⟨[], ?_, rfl⟩
  rwa [← List.append_nil text, h.skip_eq, List.append_nil]

section Containers

variable {raw : Bool} {v : Value} {vs : List Value} {ms : List (List Char × Value)} {blanks text items members name key : List Char}

theorem writes_noItems (hblanks : Blank blanks) : Writes raw (.array []) ('[' :: (blanks ++ [']'])) := by
  refine ⟨⟨'[', _, rfl, by decide⟩, fun rest _ => .noItems ?_⟩
  show skip ((blanks ++ [']']) ++ rest) = _
  rw [List.append_assoc, skip_blanks hblanks]
  rfl

theorem writes_noMembers (hblanks : Blank blanks) :
    Writes raw (.object []) ('\x7b' :: (blanks ++ ['\x7d'])) := by
  refine ⟨⟨'\x7b', _, rfl, by decide⟩, fun rest _ => .noMembers ?_⟩
  show skip ((blanks ++ ['\x7d']) ++ rest) = _
  rw [List.append_assoc, skip_blanks hblanks]
  rfl

theorem writes_array (hblanks : Blank blanks) (hv : Writes raw v text) (h : Items raw vs items) :
    Writes raw (.array (v :: vs)) ('[' :: (blanks ++ (text ++ items))) := by
  refine ⟨⟨'[', _, rfl, by decide⟩, fun rest _ => .array ?_⟩
  show Denotes raw _ (skip ((blanks ++ (text ++ items)) ++ rest)) rest
  rw [List.append_assoc, List.append_assoc, skip_blanks hblanks, hv.skip_eq]
  exact h.denotes hv rest

theorem writes_object (hblanks : Blank blanks) (hkey : ∀ rest, Text raw name (key ++ rest) rest)
    (hv : Writes raw v text) (h : Members raw ms members) :
    Writes raw (.object ((name, v) :: ms)) ('\x7b' :: (blanks ++ ('"' :: (key ++ (':' :: ' ' :: (text ++ members)))))) := by
  refine ⟨⟨'\x7b', _, rfl, by decide⟩, fun rest _ => .object ?_⟩
  show Denotes raw _ (skip ((blanks ++ ('"' :: (key ++ (':' :: ' ' :: (text ++ members))))) ++ rest)) rest
  rw [List.append_assoc, skip_blanks hblanks]
  show Denotes raw _ ('"' :: ((key ++ (':' :: ' ' :: (text ++ members))) ++ rest)) rest
  rw [List.append_assoc, List.cons_append, List.cons_append, List.append_assoc]
  exact h.denotes hkey hv rest

end Containers

/-! ### Numbers, words and strings -/

theorem literal_front {word rest : List Char} (h : (word.all fun c => !ends c) = true) (hrest : Ended rest) :
    readLiteral (word ++ rest) = (literalValue word).map fun v => (v, rest) := by
  have hall : ∀ c ∈ word, (!ends c) = true := List.all_eq_true.mp h
  unfold readLiteral
  rw [List.takeWhile_append_of_pos hall, List.dropWhile_append_of_pos hall]
  cases rest with
  | nil => rw [List.takeWhile_nil, List.dropWhile_nil, List.append_nil]
  | cons c rest =>
      rw [List.takeWhile_cons, List.dropWhile_cons, hrest c rfl]
      show (literalValue (word ++ [])).map _ = _
      rw [List.append_nil]
      rfl

theorem writes_literal {raw : Bool} {word : List Char} {v : Value} (hne : word ≠ []) (hall : (word.all fun c => !ends c) = true)
    (hv : literalValue word = some v) : Writes raw v word := by
  obtain ⟨c, more, rfl⟩ := List.exists_cons_of_ne_nil hne
  have hends : ends c = false := Bool.not_eq_true' _ ▸ List.all_eq_true.mp hall c List.mem_cons_self
  unfold ends at hends
  refine ⟨⟨c, more, rfl, (Bool.or_eq_false_iff.mp hends).2⟩, fun rest hrest => .literal ?_⟩
  rw [literal_front hall hrest, hv]
  rfl

theorem ends_of_isDigit {c : Char} (h : c.isDigit = true) : ends c = false := by
  have hne : ∀ d : Char, d.isDigit = false → c ≠ d := fun d hd => ne_of_isDigit h hd
  simp only [ends, isDelimiter, isBlank, Bool.or_eq_false_iff, decide_eq_false_iff_not]
  exact ⟨⟨⟨hne _ (by decide), hne _ (by decide)⟩, hne _ (by decide)⟩,
    ⟨⟨hne _ (by decide), hne _ (by decide)⟩, hne _ (by decide)⟩, hne _ (by decide)⟩

theorem isNumeral_digits {digits : List Char} (h : ∀ c ∈ digits, c.isDigit = true) : isNumeral digits = isNumber digits := by
  have hplain : ∀ c ∈ digits, (!(c = 'e' || c = 'E' : Bool)) = true := by
    intro c hc
    have hlower : c ≠ 'e' := ne_of_isDigit (h c hc) (by decide)
    have hupper : c ≠ 'E' := ne_of_isDigit (h c hc) (by decide)
    simp [hlower, hupper]
  unfold isNumeral
  rw [List.takeWhile_eq_self_iff.mpr hplain, List.dropWhile_eq_nil_iff.mpr hplain]
  exact Bool.and_true _

theorem writes_number (raw : Bool) (n : Nat) : Writes raw (.number (Nat.toDigits 10 n)) (Nat.toDigits 10 n) := by
  have hdigits := isDigit_toDigits n
  have hword : ∀ word : List Char, word.all Char.isDigit = false → Nat.toDigits 10 n ≠ word := by
    rintro word hword rfl
    rw [List.all_eq_true.mpr hdigits] at hword
    cases hword
  have hnumber : isNumeral (Nat.toDigits 10 n) = true := by
    rw [isNumeral_digits hdigits]
    obtain ⟨c, rest, hcons⟩ := List.exists_cons_of_ne_nil (Nat.toDigits_ne_nil (n := n) (b := 10))
    have hc : c.isDigit = true := hdigits c (by rw [hcons]; exact List.mem_cons_self)
    rw [hcons, isNumber_of_ne (ne_of_isDigit hc (by decide)), ← hcons]
    exact isUnsigned_toDigits n
  refine writes_literal Nat.toDigits_ne_nil (List.all_eq_true.mpr fun c hc => ?_) ?_
  · rw [ends_of_isDigit (hdigits c hc)]
    rfl
  · unfold literalValue
    rw [if_neg (hword _ (by decide)), if_neg (hword _ (by decide)), if_neg (hword _ (by decide)), if_pos hnumber]

theorem writes_bool (raw b : Bool) : Writes raw (.bool b) (if b then "true".toList else "false".toList) := by
  cases b with
  | false => exact writes_literal (by decide) (by decide) rfl
  | true => exact writes_literal (by decide) (by decide) rfl

/-- A character that stands for itself in JSON. -/
def isPlain (c : Char) : Bool := decide (c ≠ '"') && decide (c ≠ '\\') && decide (' ' ≤ c)

abbrev Plain (chars : List Char) : Prop := chars.all isPlain = true

theorem readChar_plain {raw : Bool} {c : Char} (hquote : c ≠ '"') (hslash : c ≠ '\\') (h : raw = true ∨ ' ' ≤ c)
    (rest : List Char) : readChar raw (c :: rest) = some (c, rest) := by
  have hallowed : ¬(c = '"' ∨ c = '\\' ∨ (raw = false ∧ c < ' ')) := by
    rintro (heq | heq | ⟨hraw, hlt⟩)
    · exact hquote heq
    · exact hslash heq
    · rcases h with htrue | hle
      · rw [hraw] at htrue
        cases htrue
      · exact absurd hlt (not_lt.mpr hle)
  unfold readChar
  split
  · rename_i heq
    exact absurd (List.cons.inj heq).1 hslash
  · rename_i heq
    exact absurd (List.cons.inj heq).1 hslash
  · rename_i heq
    exact absurd (List.cons.inj heq).1 hslash
  · rename_i heq
    obtain ⟨rfl, rfl⟩ := List.cons.inj heq
    exact if_neg hallowed
  · rename_i heq
    cases heq

/-- Characters that are each read back make a text that is read back. -/
theorem text_of_chars {raw : Bool} {spell : Char → List Char} {chars : List Char}
    (h : ∀ c ∈ chars, ∀ rest, readChar raw (spell c ++ rest) = some (c, rest)) (rest : List Char) :
    Text raw chars ((chars.flatMap spell ++ ['"']) ++ rest) rest := by
  induction chars with
  | nil => exact .close rest
  | cons c chars ih =>
      obtain ⟨hc, hchars⟩ := List.forall_mem_cons.mp h
      rw [List.flatMap_cons, List.append_assoc, List.append_assoc]
      refine .char (hc _) ?_
      rw [← List.append_assoc]
      exact ih hchars

theorem text_plain {raw : Bool} {chars : List Char} (h : Plain chars) (rest : List Char) :
    Text raw chars ((chars ++ ['"']) ++ rest) rest := by
  have hplain : ∀ c ∈ chars, (c ≠ '"' ∧ c ≠ '\\') ∧ ' ' ≤ c := by
    intro c hc
    have hall := List.all_eq_true.mp h c hc
    rwa [isPlain, Bool.and_eq_true, Bool.and_eq_true, decide_eq_true_eq, decide_eq_true_eq, decide_eq_true_eq] at hall
  have hchars : Text raw chars ((chars.flatMap (fun c => [c]) ++ ['"']) ++ rest) rest :=
    text_of_chars (fun c hc => readChar_plain (hplain c hc).1.1 (hplain c hc).1.2 (.inr (hplain c hc).2)) rest
  rwa [List.flatMap_singleton'] at hchars

theorem writes_text {raw : Bool} {chars text : List Char} (h : ∀ rest, Text raw chars (text ++ rest) rest) :
    Writes raw (.text chars) ('"' :: text) :=
  ⟨⟨'"', text, rfl, by decide⟩, fun rest _ => .text (h rest)⟩

end EspNut.Lib.JsonText
