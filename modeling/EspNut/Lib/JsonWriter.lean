import EspNut.Lib.JsonText

/-!
# Writing JSON

The text of a value without blanks. How a character of a text is spelled is left open. What is written is read back when every number is a JSON number and every character is spelled as JSON spells it, and is no JSON otherwise.
-/

namespace EspNut.Lib.JsonText

open Json

/-- The spelling of a character is read back, or nothing is read in its place; no character is spelled like a closing quote. -/
structure Spelling (raw : Bool) (spell : Char → List Char) (ok : Char → Bool) : Prop where
  readChar_eq : ∀ c rest, readChar raw (spell c ++ rest) = if ok c = true then some (c, rest) else none
  head_ne : ∀ c rest, (spell c ++ rest).head? ≠ some '"'

/-- The escapes of JSON; the other characters stand as they are. -/
theorem spelling_escape (raw : Bool) :
    Spelling raw escape fun c => raw || decide (' ' ≤ c) || (escapes.lookup c).isSome := by
  constructor
  case readChar_eq =>
    intro c rest
    unfold escape
    cases hlookup : escapes.lookup c with
    | some letter =>
        have hmem := mem_escapes_of_lookup hlookup
        have hall : ∀ entry ∈ escapes, entry.2 ≠ 'u' ∧ entry.2 ≠ '/' := by decide
        obtain ⟨hu, hslash⟩ := hall _ hmem
        show readChar raw ('\\' :: letter :: rest) = _
        rw [readChar]
        · rw [unescape_of_mem hmem]
          simp
        · exact fun h => hu h
        · exact fun h => hslash h
    | none =>
        have hquote : c ≠ '"' := by
          rintro rfl
          exact absurd hlookup (by decide)
        have hslash : c ≠ '\\' := by
          rintro rfl
          exact absurd hlookup (by decide)
        show readChar raw (c :: rest) = _
        by_cases hplain : raw = true ∨ ' ' ≤ c
        · rw [readChar_plain hquote hslash hplain rest, if_pos (by simpa using hplain)]
        · rw [if_neg (by simpa using hplain)]
          obtain ⟨hraw, hlow⟩ := not_or.mp hplain
          rw [readChar]
          · exact if_pos (Or.inr (Or.inr ⟨Bool.not_eq_true _ ▸ hraw, not_le.mp hlow⟩))
          · exact fun _ h => absurd h hslash
          · exact fun _ h => absurd h hslash
          · exact fun _ _ h => absurd h hslash
  case head_ne =>
    intro c rest hhead
    unfold escape at hhead
    split at hhead
    · exact absurd (Option.some.inj hhead) (by decide)
    · rename_i hlookup
      obtain rfl := Option.some.inj hhead
      exact absurd hlookup (by decide)

variable (spell : Char → List Char)

def quoted (text : List Char) : List Char := '"' :: (text.flatMap spell ++ ['"'])

mutual

def write : Value → List Char
  | .null => "null".toList
  | .bool b => if b then "true".toList else "false".toList
  | .number literal => literal
  | .text chars => quoted spell chars
  | .array [] => ['[', ']']
  | .array (item :: items) => '[' :: (write item ++ writeItems items)
  | .object [] => ['\x7b', '\x7d']
  | .object ((name, value) :: members) => '\x7b' :: (quoted spell name ++ ':' :: (write value ++ writeMembers members))

/-- The items behind the first one, up to the closing bracket. -/
def writeItems : List Value → List Char
  | [] => [']']
  | item :: items => ',' :: (write item ++ writeItems items)

/-- The members behind the first one, up to the closing brace. -/
def writeMembers : List (List Char × Value) → List Char
  | [] => ['\x7d']
  | (name, value) :: members => ',' :: (quoted spell name ++ ':' :: (write value ++ writeMembers members))

end

section Valid

variable (number : List Char → Bool) (ok : Char → Bool)

mutual

/-- Every number literal and every character of a text passes. -/
def valid : Value → Bool
  | .number literal => number literal
  | .text chars => chars.all ok
  | .array items => validItems items
  | .object members => validMembers members
  | _ => true

def validItems : List Value → Bool
  | [] => true
  | item :: items => valid item && validItems items

def validMembers : List (List Char × Value) → Bool
  | [] => true
  | (name, value) :: members => name.all ok && valid value && validMembers members

end

theorem validMembers_iff {members : List (List Char × Value)} :
    validMembers number ok members = true ↔ ∀ m ∈ members, m.1.all ok = true ∧ valid number ok m.2 = true := by
  induction members with
  | nil => exact ⟨fun _ => List.forall_mem_nil _, fun _ => rfl⟩
  | cons m members ih =>
      rw [List.forall_mem_cons, ← ih, ← Bool.and_eq_true_iff]
      exact Bool.and_eq_true_iff

end Valid

/-- A value whose number literals may at least be meant as numbers. -/
abbrev Bare (v : Value) : Prop := valid isBare (fun _ => true) v = true

/-! ### Literals -/

theorem ends_of_bare {literal : List Char} (h : isBare literal = true) {c : Char} (hc : c ∈ literal) : ends c = false := by
  have hchar := List.all_eq_true.mp (Bool.and_eq_true_iff.mp h).2 c hc
  simp only [Bool.or_eq_true, decide_eq_true_eq] at hchar
  rcases hchar with (hdigit | rfl) | rfl
  · exact ends_of_isDigit hdigit
  · decide
  · decide

theorem isNumeral_bare {literal : List Char} (h : isBare literal = true) : isNumeral literal = isNumber literal := by
  have hplain : ∀ c ∈ literal, (!(c = 'e' || c = 'E' : Bool)) = true := by
    intro c hc
    have hchar := List.all_eq_true.mp (Bool.and_eq_true_iff.mp h).2 c hc
    simp only [Bool.or_eq_true, decide_eq_true_eq] at hchar
    rcases hchar with (hdigit | rfl) | rfl
    · have hlower : c ≠ 'e' := ne_of_isDigit hdigit (by decide)
      have hupper : c ≠ 'E' := ne_of_isDigit hdigit (by decide)
      simp [hlower, hupper]
    · decide
    · decide
  unfold isNumeral
  rw [List.takeWhile_eq_self_iff.mpr hplain, List.dropWhile_eq_nil_iff.mpr hplain]
  exact Bool.and_true _

theorem readLiteral_bare {literal rest : List Char} (h : isBare literal = true) (hrest : Ended rest) :
    readLiteral (literal ++ rest) = if isNumber literal = true then some (.number literal, rest) else none := by
  have hne : ∀ word : String, isBare word.toList = false → literal ≠ word.toList := by
    rintro word hword rfl
    exact absurd h (by rw [hword]; decide)
  have hall : (literal.all fun c => !ends c) = true :=
    List.all_eq_true.mpr fun c hc => (Bool.not_eq_true' _).mpr (ends_of_bare h hc)
  rw [literal_front hall hrest]
  unfold literalValue
  rw [if_neg (hne "null" (by decide)), if_neg (hne "true" (by decide)), if_neg (hne "false" (by decide)), isNumeral_bare h]
  split <;> rfl

theorem readValue_of_head (raw : Bool) {c : Char} (rounds : Nat) (rest : List Char) (hquote : c ≠ '"') (hbracket : c ≠ '[')
    (hbrace : c ≠ '\x7b') : readValue raw (rounds + 1) (c :: rest) = readLiteral (c :: rest) := by
  unfold readValue
  split
  · rename_i heq
    exact absurd (List.cons.inj heq).1 hquote
  · rename_i heq
    exact absurd (List.cons.inj heq).1 hbracket
  · rename_i heq
    exact absurd (List.cons.inj heq).1 hbrace
  · rfl

/-! ### Reading back -/

variable {raw : Bool} {spell} {ok : Char → Bool}

/-- A text is read up to its own quote, unless one of its characters cannot be read. -/
theorem Spelling.readString_eq (h : Spelling raw spell ok) (chars rest : List Char) {rounds : Nat}
    (hrounds : (chars.flatMap spell ++ '"' :: rest).length ≤ rounds) :
    readString raw rounds (chars.flatMap spell ++ '"' :: rest) = if chars.all ok = true then some (chars, rest) else none := by
  induction chars generalizing rounds with
  | nil =>
      obtain ⟨n, rfl, -⟩ := succ_of_length hrounds
      rfl
  | cons c chars ih =>
      rw [List.flatMap_cons, List.append_assoc] at hrounds ⊢
      have hspelled : 0 < (spell c).length := by
        refine List.length_pos_iff.mpr fun hnil => ?_
        have hhead := h.head_ne c ['"']
        rw [hnil] at hhead
        exact hhead rfl
      rw [List.length_append] at hrounds
      obtain ⟨n, rfl⟩ : ∃ n, rounds = n + 1 := ⟨rounds - 1, by omega⟩
      unfold readString
      rw [if_neg (h.head_ne c _), h.readChar_eq, List.all_cons]
      cases hc : ok c with
      | false => rfl
      | true =>
          rw [if_pos rfl]
          show (readString raw n (chars.flatMap spell ++ '"' :: rest)).map _ = _
          rw [ih (by omega), Bool.true_and]
          split <;> rfl

theorem quoted_append (chars rest : List Char) : quoted spell chars ++ rest = '"' :: (chars.flatMap spell ++ '"' :: rest) := by
  show '"' :: ((chars.flatMap spell ++ ['"']) ++ rest) = _
  rw [List.append_assoc]
  rfl

theorem head_write (spell : Char → List Char) {v : Value} (h : Bare v) : ∃ c rest, write spell v = c :: rest ∧ ends c = false := by
  cases v with
  | null => exact ⟨'n', _, rfl, by decide⟩
  | bool b =>
      cases b with
      | false => exact ⟨'f', _, rfl, by decide⟩
      | true => exact ⟨'t', _, rfl, by decide⟩
  | number literal =>
      cases literal with
      | nil => exact absurd h (by decide)
      | cons c rest => exact ⟨c, rest, rfl, ends_of_bare h List.mem_cons_self⟩
  | text chars => exact ⟨'"', _, rfl, by decide⟩
  | array items =>
      cases items with
      | nil => exact ⟨'[', _, rfl, by decide⟩
      | cons item items => exact ⟨'[', _, rfl, by decide⟩
  | object members =>
      cases members with
      | nil => exact ⟨'\x7b', _, rfl, by decide⟩
      | cons member members => exact ⟨'\x7b', _, rfl, by decide⟩

theorem not_blank {c : Char} (h : ends c = false) : isBlank c = false := (Bool.or_eq_false_iff.mp h).2

theorem skip_write (spell : Char → List Char) {v : Value} (h : Bare v) (rest : List Char) :
    skip (write spell v ++ rest) = write spell v ++ rest := by
  obtain ⟨c, more, hhead, hc⟩ := head_write spell h
  rw [hhead]
  exact skip_cons (not_blank hc) _

theorem skip_quoted (chars rest : List Char) : skip (quoted spell chars ++ rest) = quoted spell chars ++ rest :=
  skip_cons (by decide) _

section Steps

variable {n : Nat} {text rest : List Char} {name : List Char} {v : Value}

theorem readValue_bracket (hskip : skip text = text) (hopen : text.head? ≠ some ']') :
    readValue raw (n + 1) ('[' :: text) = (readItems raw n text).map fun read => (.array read.1, read.2) := by
  show (if (skip text).head? = some ']' then _ else _) = _
  rw [hskip, if_neg hopen]

theorem readValue_brace (hskip : skip text = text) (hopen : text.head? ≠ some '\x7d') :
    readValue raw (n + 1) ('\x7b' :: text) = (readMembers raw n text).map fun read => (.object read.1, read.2) := by
  show (if (skip text).head? = some '\x7d' then _ else _) = _
  rw [hskip, if_neg hopen]

theorem readItems_none (h : readValue raw n text = none) : readItems raw (n + 1) text = none := by
  rw [readItems, h]

theorem readItems_last (h : readValue raw n text = some (v, ']' :: rest)) :
    readItems raw (n + 1) text = some ([v], rest) := by
  have hclose : skip (']' :: rest) = ']' :: rest := skip_cons (by decide) rest
  rw [readItems, h]
  simp only [hclose]

theorem readItems_more (h : readValue raw n text = some (v, ',' :: rest)) (hskip : skip rest = rest) :
    readItems raw (n + 1) text = (readItems raw n rest).map fun read => (v :: read.1, read.2) := by
  have hcomma : skip (',' :: rest) = ',' :: rest := skip_cons (by decide) rest
  rw [readItems, h]
  simp only [hcomma, hskip]

section Member

variable (h : Spelling raw spell ok)

include h

theorem readMembers_name (hname : name.all ok = false) :
    readMembers raw (n + 1) (quoted spell name ++ ':' :: text) = none := by
  rw [quoted_append, readMembers, h.readString_eq name (':' :: text) (Nat.le_refl _), if_neg (by simp [hname])]

theorem readMembers_none (hskip : skip text = text) (hv : readValue raw n text = none) :
    readMembers raw (n + 1) (quoted spell name ++ ':' :: text) = none := by
  have hcolon : skip (':' :: text) = ':' :: text := skip_cons (by decide) text
  rw [quoted_append, readMembers, h.readString_eq name (':' :: text) (Nat.le_refl _)]
  split
  · rfl
  · rename_i hsome
    split at hsome
    · obtain ⟨-, rfl⟩ := Prod.mk.inj (Option.some.inj hsome)
      simp only [hcolon, hskip, hv]
    · cases hsome

theorem readMembers_last (hskip : skip text = text) (hname : name.all ok = true)
    (hv : readValue raw n text = some (v, '\x7d' :: rest)) :
    readMembers raw (n + 1) (quoted spell name ++ ':' :: text) = some ([(name, v)], rest) := by
  have hcolon : skip (':' :: text) = ':' :: text := skip_cons (by decide) text
  have hclose : skip ('\x7d' :: rest) = '\x7d' :: rest := skip_cons (by decide) rest
  rw [quoted_append, readMembers, h.readString_eq name (':' :: text) (Nat.le_refl _), if_pos hname]
  simp only [hcolon, hskip, hv, hclose]

theorem readMembers_more (hskip : skip text = text) (hname : name.all ok = true) (hrest : skip rest = rest)
    (hv : readValue raw n text = some (v, ',' :: rest)) :
    readMembers raw (n + 1) (quoted spell name ++ ':' :: text)
      = (readMembers raw n rest).map fun read => ((name, v) :: read.1, read.2) := by
  have hcolon : skip (':' :: text) = ':' :: text := skip_cons (by decide) text
  have hcomma : skip (',' :: rest) = ',' :: rest := skip_cons (by decide) rest
  rw [quoted_append, readMembers, h.readString_eq name (':' :: text) (Nat.le_refl _), if_pos hname]
  simp only [hcolon, hskip, hv, hcomma, hrest]

end Member

end Steps

theorem succ_of_tail {n : Nat} {c : Char} {front chars : List Char} (h : (front ++ c :: chars).length ≤ n) :
    ∃ m, n = m + 1 ∧ front.length + chars.length ≤ m := by
  rw [List.length_append, List.length_cons] at h
  exact ⟨n - 1, by omega, by omega⟩

/-- What a value and the rest behind it are read as. -/
abbrev written (ok : Char → Bool) (v : Value) (rest : List Char) : Option (Value × List Char) :=
  if valid isNumber ok v = true then some (v, rest) else none

mutual

/-- A written value in front of an end is read back when it is valid, and not at all otherwise. -/
theorem readValue_write (h : Spelling raw spell ok) : ∀ (v : Value) (rounds : Nat) (rest : List Char), Bare v → Ended rest →
    (write spell v).length ≤ rounds → readValue raw rounds (write spell v ++ rest) = written ok v rest
  | .null, rounds, rest, hbare, hrest, hrounds => by
      obtain ⟨n, rfl, -⟩ := succ_of_length hrounds
      show readValue raw (n + 1) ('n' :: ("ull".toList ++ rest)) = _
      rw [readValue_of_head raw n _ (by decide) (by decide) (by decide)]
      exact literal_front (show ("null".toList.all fun c => !ends c) = true from rfl) hrest
  | .bool b, rounds, rest, hbare, hrest, hrounds => by
      cases b with
      | false =>
          obtain ⟨n, rfl, -⟩ := succ_of_length hrounds
          show readValue raw (n + 1) ('f' :: ("alse".toList ++ rest)) = _
          rw [readValue_of_head raw n _ (by decide) (by decide) (by decide)]
          exact literal_front (show ("false".toList.all fun c => !ends c) = true from rfl) hrest
      | true =>
          obtain ⟨n, rfl, -⟩ := succ_of_length hrounds
          show readValue raw (n + 1) ('t' :: ("rue".toList ++ rest)) = _
          rw [readValue_of_head raw n _ (by decide) (by decide) (by decide)]
          exact literal_front (show ("true".toList.all fun c => !ends c) = true from rfl) hrest
  | .number literal, rounds, rest, hbare, hrest, hrounds => by
      cases literal with
      | nil => exact absurd hbare (by decide)
      | cons c literal =>
          obtain ⟨n, rfl, -⟩ := succ_of_length hrounds
          have hbare : isBare (c :: literal) = true := hbare
          have hhead : ∀ opener : Char, (decide (opener.isDigit || opener = '-' || opener = '.')) = false → c ≠ opener := by
            rintro opener hopener rfl
            have hchar := List.all_eq_true.mp (Bool.and_eq_true_iff.mp hbare).2 c List.mem_cons_self
            rw [decide_eq_false_iff_not] at hopener
            exact hopener hchar
          show readValue raw (n + 1) (c :: (literal ++ rest)) = _
          rw [readValue_of_head raw n _ (hhead _ (by decide)) (hhead _ (by decide)) (hhead _ (by decide))]
          exact readLiteral_bare hbare hrest
  | .text chars, rounds, rest, hbare, hrest, hrounds => by
      obtain ⟨n, rfl, -⟩ := succ_of_length hrounds
      show readValue raw (n + 1) (quoted spell chars ++ rest) = _
      rw [quoted_append]
      show (readString raw _ (chars.flatMap spell ++ '"' :: rest)).map _ = _
      rw [h.readString_eq chars rest (Nat.le_refl _)]
      show _ = if chars.all ok = true then _ else _
      split <;> rfl
  | .array [], rounds, rest, hbare, hrest, hrounds => by
      obtain ⟨n, rfl, -⟩ := succ_of_length hrounds
      rfl
  | .array (item :: items), rounds, rest, hbare, hrest, hrounds => by
      rw [write] at hrounds ⊢
      obtain ⟨n, rfl, hlength⟩ := succ_of_length hrounds
      obtain ⟨hitem, hitems⟩ := Bool.and_eq_true_iff.mp hbare
      obtain ⟨c, chars, hhead, hc⟩ := head_write spell hitem
      have hread := readItems_write h item items n rest hitem hitems hlength
      have hopen : (write spell item ++ (writeItems spell items ++ rest)).head? ≠ some ']' := by
        rw [hhead]
        rintro heq
        obtain rfl := Option.some.inj heq
        exact absurd hc (by decide)
      show readValue raw (n + 1) ('[' :: ((write spell item ++ writeItems spell items) ++ rest)) = _
      rw [List.append_assoc, readValue_bracket (skip_write spell hitem _) hopen, hread]
      show _ = if (valid isNumber ok item && validItems isNumber ok items) = true then _ else _
      split <;> rfl
  | .object [], rounds, rest, hbare, hrest, hrounds => by
      obtain ⟨n, rfl, -⟩ := succ_of_length hrounds
      rfl
  | .object ((name, value) :: members), rounds, rest, hbare, hrest, hrounds => by
      rw [write] at hrounds ⊢
      obtain ⟨n, rfl, hlength⟩ := succ_of_length hrounds
      obtain ⟨hvalue, hmembers⟩ := Bool.and_eq_true_iff.mp hbare
      have hread := readMembers_write h name value members n rest (Bool.and_eq_true_iff.mp hvalue).2 hmembers hlength
      have htext : '\x7b' :: (quoted spell name ++ ':' :: (write spell value ++ writeMembers spell members)) ++ rest
          = '\x7b' :: (quoted spell name ++ ':' :: (write spell value ++ (writeMembers spell members ++ rest))) := by
        rw [List.cons_append, List.append_assoc, List.cons_append, List.append_assoc]
      rw [htext]
      have hopen : (quoted spell name ++ ':' :: (write spell value ++ (writeMembers spell members ++ rest))).head? ≠ some '\x7d' := by
        rw [quoted_append]
        exact fun heq => absurd (Option.some.inj heq) (by decide)
      rw [readValue_brace (skip_quoted _ _) hopen, hread]
      show _ = if (name.all ok && valid isNumber ok value && validMembers isNumber ok members) = true then _ else _
      split <;> rfl
termination_by _ rounds => rounds

theorem readItems_write (h : Spelling raw spell ok) : ∀ (item : Value) (items : List Value) (rounds : Nat) (rest : List Char),
    Bare item → validItems isBare (fun _ => true) items = true → (write spell item ++ writeItems spell items).length ≤ rounds →
    readItems raw rounds (write spell item ++ (writeItems spell items ++ rest))
      = if (valid isNumber ok item && validItems isNumber ok items) = true then some (item :: items, rest) else none
  | item, [], rounds, rest, hbare, hbares, hrounds => by
      obtain ⟨n, rfl, hlength⟩ := succ_of_tail hrounds
      have hread := readValue_write h item n (']' :: rest) hbare (ended_cons (by decide) rest) (by omega)
      show readItems raw (n + 1) (write spell item ++ ']' :: rest) = _
      rw [validItems, Bool.and_true]
      split
      · rename_i hvalid
        exact readItems_last (hread.trans (if_pos hvalid))
      · rename_i hvalid
        exact readItems_none (hread.trans (if_neg hvalid))
  | item, next :: items, rounds, rest, hbare, hbares, hrounds => by
      obtain ⟨n, rfl, hlength⟩ := succ_of_tail hrounds
      obtain ⟨hnext, hitems⟩ := Bool.and_eq_true_iff.mp hbares
      have hread := readValue_write h item n (',' :: (write spell next ++ (writeItems spell items ++ rest))) hbare
        (ended_cons (by decide) _) (by omega)
      have hmore := readItems_write h next items n rest hnext hitems (by omega)
      have htext : write spell item ++ (writeItems spell (next :: items) ++ rest)
          = write spell item ++ ',' :: (write spell next ++ (writeItems spell items ++ rest)) := by
        rw [writeItems, List.cons_append, List.append_assoc]
      rw [htext, validItems]
      cases hvalid : valid isNumber ok item with
      | true =>
          rw [readItems_more (hread.trans (if_pos hvalid)) (skip_write spell hnext _), hmore, Bool.true_and]
          split <;> rfl
      | false =>
          rw [readItems_none (hread.trans (if_neg (ne_true_of_eq_false hvalid))), Bool.false_and, if_neg Bool.false_ne_true]
termination_by _ _ rounds => rounds

theorem readMembers_write (h : Spelling raw spell ok) : ∀ (name : List Char) (value : Value) (members : List (List Char × Value))
    (rounds : Nat) (rest : List Char), Bare value → validMembers isBare (fun _ => true) members = true →
    (quoted spell name ++ ':' :: (write spell value ++ writeMembers spell members)).length ≤ rounds →
    readMembers raw rounds (quoted spell name ++ ':' :: (write spell value ++ (writeMembers spell members ++ rest)))
      = if (name.all ok && valid isNumber ok value && validMembers isNumber ok members) = true then
          some ((name, value) :: members, rest)
        else none
  | name, value, [], rounds, rest, hbare, hbares, hrounds => by
      obtain ⟨n, rfl, hlength⟩ := succ_of_tail hrounds
      rw [List.length_append] at hlength
      have hread := readValue_write h value n ('\x7d' :: rest) hbare (ended_cons (by decide) rest) (by omega)
      have hskip := skip_write spell hbare ('\x7d' :: rest)
      show readMembers raw (n + 1) (quoted spell name ++ ':' :: (write spell value ++ '\x7d' :: rest)) = _
      rw [validMembers, Bool.and_true]
      cases hname : name.all ok with
      | false => exact readMembers_name h hname
      | true =>
          rw [Bool.true_and]
          split
          · rename_i hvalid
            exact readMembers_last h hskip hname (hread.trans (if_pos hvalid))
          · rename_i hvalid
            exact readMembers_none h hskip (hread.trans (if_neg hvalid))
  | name, value, (next, other) :: members, rounds, rest, hbare, hbares, hrounds => by
      obtain ⟨n, rfl, hlength⟩ := succ_of_tail hrounds
      obtain ⟨hother, hmembers⟩ := Bool.and_eq_true_iff.mp hbares
      rw [writeMembers, List.length_append, List.length_cons] at hlength
      have htext : writeMembers spell ((next, other) :: members) ++ rest
          = ',' :: (quoted spell next ++ ':' :: (write spell other ++ (writeMembers spell members ++ rest))) := by
        rw [writeMembers, List.cons_append, List.append_assoc, List.cons_append, List.append_assoc]
      have hread := readValue_write h value n
        (',' :: (quoted spell next ++ ':' :: (write spell other ++ (writeMembers spell members ++ rest)))) hbare
        (ended_cons (by decide) _) (by omega)
      have hskip := skip_write spell hbare
        (',' :: (quoted spell next ++ ':' :: (write spell other ++ (writeMembers spell members ++ rest))))
      have hmore := readMembers_write h next other members n rest (Bool.and_eq_true_iff.mp hother).2 hmembers (by omega)
      rw [htext, validMembers]
      cases hname : name.all ok with
      | false => exact readMembers_name h hname
      | true =>
          cases hvalid : valid isNumber ok value with
          | true =>
              rw [readMembers_more h hskip hname (skip_quoted _ _) (hread.trans (if_pos hvalid)), hmore, Bool.true_and, Bool.true_and]
              split <;> rfl
          | false =>
              rw [readMembers_none h hskip (hread.trans (if_neg (ne_true_of_eq_false hvalid))), Bool.and_false, Bool.false_and,
                if_neg Bool.false_ne_true]
termination_by _ _ _ rounds => rounds

end

/-- A whole text that was written is read back when the value is valid, and is no JSON otherwise. -/
theorem parse_write (h : Spelling raw spell ok) {v : Value} (hbare : Bare v) :
    parse raw (write spell v) = if valid isNumber ok v = true then some v else none := by
  have hread := readValue_write h v (2 * (write spell v).length + 1) [] hbare (fun c hc => by cases hc) (by omega)
  have hskip := skip_write spell hbare []
  rw [List.append_nil] at hread hskip
  unfold parse
  rw [hskip, hread]
  unfold written
  cases valid isNumber ok v <;> rfl

theorem isJson_write_iff (h : Spelling raw spell ok) {v w : Value} (hbare : Bare v) :
    IsJson raw w (write spell v) ↔ valid isNumber ok v = true ∧ w = v := by
  rw [← parse_eq_some_iff, parse_write h hbare]
  split
  · rename_i hvalid
    rw [Option.some.injEq]
    exact ⟨fun heq => ⟨hvalid, heq.symm⟩, fun heq => heq.2.symm⟩
  · rename_i hspoiled
    exact ⟨fun heq => absurd heq.symm (Option.some_ne_none w), fun heq => absurd heq.1 hspoiled⟩

/-! ### Objects of texts -/

def textObject (members : List (String × String)) : Value := .object (members.map fun m => (m.1.toList, .text m.2.toList))

def textOf : Value → Option String
  | .text chars => some (String.ofList chars)
  | _ => none

/-- The members of an object, without a text where they hold none. -/
def membersOf : Value → Option (List (String × Option String))
  | .object members => some (members.map fun m => (String.ofList m.1, textOf m.2))
  | _ => none

def itemsOf : Value → Option (List Value)
  | .array items => some items
  | _ => none

theorem membersOf_textObject (members : List (String × String)) :
    membersOf (textObject members) = some (members.map fun m => (m.1, some m.2)) := by
  show some ((members.map fun m => (m.1.toList, Value.text m.2.toList)).map _) = _
  rw [List.map_map]
  refine congrArg some (List.map_congr_left fun m _ => ?_)
  exact Prod.ext String.ofList_toList (congrArg some String.ofList_toList)

theorem valid_textObject {number : List Char → Bool} (hok : ∀ c, ok c = true) (members : List (String × String)) :
    valid number ok (textObject members) = true := by
  refine (validMembers_iff number ok).mpr fun m hm => ?_
  obtain ⟨entry, -, rfl⟩ := List.mem_map.mp hm
  exact ⟨List.all_eq_true.mpr fun c _ => hok c, List.all_eq_true.mpr fun c _ => hok c⟩

theorem valid_textObjects {number : List Char → Bool} (hok : ∀ c, ok c = true) (objects : List (List (String × String))) :
    valid number ok (.array (objects.map textObject)) = true := by
  induction objects with
  | nil => rfl
  | cons members objects ih => exact Bool.and_eq_true_iff.mpr ⟨valid_textObject hok members, ih⟩

/-- An object of texts is read as it was written, raw control characters included. -/
theorem parse_textObject (members : List (String × String)) :
    parse true (write escape (textObject members)) = some (textObject members) := by
  rw [parse_write (spelling_escape true) (valid_textObject (fun _ => rfl) members)]
  exact if_pos (valid_textObject (fun _ => rfl) members)

theorem parse_textObjects (objects : List (List (String × String))) :
    parse true (write escape (.array (objects.map textObject))) = some (.array (objects.map textObject)) := by
  rw [parse_write (spelling_escape true) (valid_textObjects (fun _ => rfl) objects)]
  exact if_pos (valid_textObjects (fun _ => rfl) objects)

theorem nul_quoted {text : List Char} (h : '\x00' ∉ text) : '\x00' ∉ quoted escape text := by
  have hescape : ∀ c ∈ text, '\x00' ∉ escape c := by
    intro c hc hmem
    have hletters : ∀ entry ∈ escapes, entry.2 ≠ '\x00' := by decide
    unfold escape at hmem
    split at hmem
    · rename_i letter hlookup
      rcases List.mem_cons.mp hmem with hslash | hletter
      · exact absurd hslash (by decide)
      · exact hletters _ (mem_escapes_of_lookup hlookup) (List.mem_singleton.mp hletter).symm
    · exact h (List.mem_singleton.mp hmem ▸ hc)
  unfold quoted
  simp only [List.mem_cons, List.mem_append, List.mem_flatMap, List.not_mem_nil, or_false, not_or, not_exists, not_and]
  exact ⟨by decide, hescape, by decide⟩

/-- No NUL in the names and texts of an object. -/
abbrev NulFree (members : List (String × String)) : Prop := ∀ m ∈ members, '\x00' ∉ m.1.toList ∧ '\x00' ∉ m.2.toList

theorem nul_member {name text : String} {rest : List Char} (h : '\x00' ∉ name.toList ∧ '\x00' ∉ text.toList)
    (hrest : '\x00' ∉ rest) : '\x00' ∉ quoted escape name.toList ++ ':' :: (write escape (.text text.toList) ++ rest) := by
  simp only [List.mem_append, List.mem_cons, not_or]
  exact ⟨nul_quoted h.1, by decide, nul_quoted h.2, hrest⟩

theorem nul_writeMembers {members : List (String × String)} (h : NulFree members) :
    '\x00' ∉ writeMembers escape (members.map fun m => (m.1.toList, .text m.2.toList)) := by
  induction members with
  | nil => decide
  | cons m members ih =>
      obtain ⟨hm, hrest⟩ := List.forall_mem_cons.mp h
      exact List.not_mem_cons_of_ne_of_not_mem (by decide) (nul_member hm (ih hrest))

theorem nul_textObject {members : List (String × String)} (h : NulFree members) :
    '\x00' ∉ write escape (textObject members) := by
  cases members with
  | nil => decide
  | cons m members =>
      obtain ⟨hm, hrest⟩ := List.forall_mem_cons.mp h
      exact List.not_mem_cons_of_ne_of_not_mem (by decide) (nul_member hm (nul_writeMembers hrest))

theorem nul_writeItems {objects : List (List (String × String))} (h : ∀ members ∈ objects, NulFree members) :
    '\x00' ∉ writeItems escape (objects.map textObject) := by
  induction objects with
  | nil => decide
  | cons members objects ih =>
      obtain ⟨hmembers, hrest⟩ := List.forall_mem_cons.mp h
      refine List.not_mem_cons_of_ne_of_not_mem (by decide) fun hmem => ?_
      rcases List.mem_append.mp hmem with hfirst | hlast
      · exact nul_textObject hmembers hfirst
      · exact ih hrest hlast

theorem nul_textObjects {objects : List (List (String × String))} (h : ∀ members ∈ objects, NulFree members) :
    '\x00' ∉ write escape (.array (objects.map textObject)) := by
  cases objects with
  | nil => decide
  | cons members objects =>
      obtain ⟨hmembers, hrest⟩ := List.forall_mem_cons.mp h
      refine List.not_mem_cons_of_ne_of_not_mem (by decide) fun hmem => ?_
      rcases List.mem_append.mp hmem with hfirst | hlast
      · exact nul_textObject hmembers hfirst
      · exact nul_writeItems hrest hlast

end EspNut.Lib.JsonText
