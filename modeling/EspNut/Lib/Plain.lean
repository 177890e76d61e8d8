import EspNut.Lib.Rounding
import EspNut.Lib.Text

/-!
# Texts without control characters

A text is plain when it has no ASCII control character. Pieces of plain texts are plain and so are plain texts one behind the other, and a number is printed with digits, a sign and a point only.
-/

namespace EspNut.Lib.Text

/-- The control characters of ASCII, DEL included. -/
def isControl (c : Char) : Bool := decide (c.toNat < 0x20) || decide (c.toNat = 0x7F)

def Plain (text : String) : Prop := ∀ c ∈ text.toList, isControl c = false

instance (text : String) : Decidable (Plain text) := List.decidableBAll (fun c => isControl c = false) text.toList

variable {a b : String} {cs : List Char}

theorem plain_ofList (h : ∀ c ∈ cs, isControl c = false) : Plain (String.ofList cs) := by
  intro c hc
  rw [String.toList_ofList] at hc
  exact h c hc

theorem plain_some (ha : Plain a) : ∀ text ∈ some a, Plain text := by
  intro text htext
  rwa [← Option.some.inj htext]

theorem plain_none : ∀ text ∈ (none : Option String), Plain text := fun _ htext => nomatch htext

theorem Plain.append (ha : Plain a) (hb : Plain b) : Plain (a ++ b) := by
  intro c hc
  rw [String.toList_append, List.mem_append] at hc
  exact hc.elim (ha c) (hb c)

theorem Plain.of_subset (ha : Plain a) (h : cs ⊆ a.toList) : Plain (String.ofList cs) :=
  plain_ofList fun c hc => ha c (h hc)

theorem Plain.take (ha : Plain a) (n : Nat) : Plain (String.ofList (a.toList.take n)) :=
  ha.of_subset (List.take_subset n a.toList)

theorem Plain.trim (ha : Plain a) : Plain (trim a) := by
  apply ha.of_subset
  intro c hc
  have hback := (List.dropWhile_sublist _).subset (List.mem_reverse.mp hc)
  exact (List.dropWhile_sublist _).subset (List.mem_reverse.mp hback)

theorem Plain.appendWord (ha : Plain a) (hb : Plain b) : Plain (appendWord a b) := by
  unfold Text.appendWord
  split
  · exact hb
  · exact (ha.append (by decide)).append hb

theorem plain_foldl_appendWord {words : List String} (h : ∀ w ∈ words, Plain w) (ha : Plain a) :
    Plain (words.foldl Text.appendWord a) := by
  induction words generalizing a with
  | nil => exact ha
  | cons w words ih =>
      exact ih (fun v hv => h v (List.mem_cons_of_mem w hv)) (ha.appendWord (h w List.mem_cons_self))

theorem plain_join {words : List String} (h : ∀ w ∈ words, Plain w) : Plain (String.join words) := by
  intro c hc
  rw [String.toList_join, List.mem_flatMap] at hc
  obtain ⟨w, hw, hmem⟩ := hc
  exact h w hw c hmem

theorem plain_of_printed (h : ∀ c ∈ a.toList, 0x20 ≤ c.toNat ∧ c.toNat ≤ 0x7E) : Plain a := by
  intro c hc
  obtain ⟨hlow, hhigh⟩ := h c hc
  simp only [isControl, Bool.or_eq_false_iff, decide_eq_false_iff_not]
  omega

/-! ### Lines -/

/-- A plain text and the line feed that ends it. -/
def IsLine (line : String) : Prop := ∃ text, Plain text ∧ line = text ++ "\n"

/-- What a reader takes for lines, each with the line feed that ends it. -/
def splitLines (line : List Char) : List Char → List String
  | [] => if line = [] then [] else [String.ofList line]
  | c :: rest => if c = '\n' then String.ofList (line ++ ['\n']) :: splitLines [] rest else splitLines (line ++ [c]) rest

theorem splitLines_line {line text : List Char} (h : '\n' ∉ text) (rest : List Char) :
    splitLines line (text ++ '\n' :: rest) = String.ofList (line ++ text ++ ['\n']) :: splitLines [] rest := by
  induction text generalizing line with
  | nil =>
      rw [List.nil_append, splitLines, if_pos rfl, List.append_nil]
  | cons c text ih =>
      rw [List.mem_cons, not_or] at h
      rw [List.cons_append, splitLines, if_neg (Ne.symm h.1), ih h.2, List.append_assoc line, List.singleton_append]

/-- Lines printed one behind the other are read as they were printed. -/
theorem splitLines_join {lines : List String} (h : ∀ line ∈ lines, IsLine line) :
    splitLines [] (String.join lines).toList = lines := by
  induction lines with
  | nil => rfl
  | cons line lines ih =>
      obtain ⟨text, hplain, rfl⟩ := h line List.mem_cons_self
      have hbreak : '\n' ∉ text.toList := by
        intro hmem
        exact absurd (hplain '\n' hmem) (by decide)
      have hjoin : (String.join ((text ++ "\n") :: lines)).toList
          = text.toList ++ '\n' :: (String.join lines).toList := by
        rw [String.toList_join, List.flatMap_cons, ← String.toList_join, String.toList_append, List.append_assoc]
        rfl
      rw [hjoin, splitLines_line hbreak, ih fun l hl => h l (List.mem_cons_of_mem _ hl), List.nil_append,
        String.ofList_append, String.ofList_toList]

/-! ### Numbers -/

theorem isControl_of_isDigit {c : Char} (h : c.isDigit = true) : isControl c = false := by
  have hlow : 0x30 ≤ c.toNat := by
    simp only [Char.isDigit, Bool.and_eq_true, decide_eq_true_eq] at h
    exact h.1
  have hhigh : c.toNat ≤ 0x39 := by
    simp only [Char.isDigit, Bool.and_eq_true, decide_eq_true_eq] at h
    exact h.2
  simp only [isControl, Bool.or_eq_false_iff, decide_eq_false_iff_not]
  omega

theorem isControl_of_mem_toDigits {n : Nat} {c : Char} (h : c ∈ Nat.toDigits 10 n) : isControl c = false :=
  isControl_of_isDigit (Nat.isDigit_of_mem_toDigits (by decide) (by decide) h)

theorem plain_toString (n : Nat) : Plain (toString n) := by
  intro c hc
  have hdigits : (toString n).toList = Nat.toDigits 10 n := by simp
  rw [hdigits] at hc
  exact isControl_of_mem_toDigits hc

theorem plain_toString_int (n : Int) : Plain (toString n) := by
  cases n with
  | ofNat n => exact plain_toString n
  | negSucc n => exact Plain.append (by decide) (plain_toString (n + 1))

theorem isControl_of_mem_padded {width n : Nat} {c : Char} (h : c ∈ Rounding.padded width n) : isControl c = false := by
  rcases List.mem_append.mp h with hzero | hdigit
  · rw [List.eq_of_mem_replicate hzero]
    rfl
  · exact isControl_of_mem_toDigits hdigit

theorem plain_formatFixed (digits : Nat) (x : ℚ) : Plain (Rounding.formatFixed digits x) := by
  apply plain_ofList
  intro c hc
  rw [List.mem_append, List.mem_append] at hc
  rcases hc with (hsign | hintegral) | hfraction
  · split at hsign
    · rw [List.mem_singleton.mp hsign]
      rfl
    · cases hsign
  · exact isControl_of_mem_toDigits hintegral
  · split at hfraction
    · cases hfraction
    · rcases List.mem_cons.mp hfraction with rfl | hpadded
      · rfl
      · exact isControl_of_mem_padded hpadded

end EspNut.Lib.Text
