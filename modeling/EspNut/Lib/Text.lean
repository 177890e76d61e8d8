import Mathlib.Data.List.Basic
import Mathlib.Data.List.TakeWhile
import Mathlib.Data.String.Basic

/-!
# ASCII text

Letter case, prefixes and blank-separated words of texts, over lists of characters. Two texts are equal ignoring case exactly when their lower cases are equal, which is how every lookup that ignores case is read by the proofs.
-/

namespace EspNut.Lib.Text

/-- The text with the letters A to Z in lower case. -/
def lower (text : String) : String := String.ofList (text.toList.map Char.toLower)

/-- The text with the letters a to z in upper case. -/
def upper (text : String) : String := String.ofList (text.toList.map Char.toUpper)

def startsWith (text start : String) : Bool := start.toList.isPrefixOf text.toList

/-- A text with another behind it, and a blank in between unless it was empty. -/
def appendWord (text word : String) : String := if text = "" then word else text ++ " " ++ word

/-- The text has the other somewhere in it. -/
def contains (text part : String) : Bool := text.toList.tails.any fun rest => part.toList.isPrefixOf rest

/-- The blanks `isspace` knows, away from both ends of a text. -/
def trim (text : String) : String :=
  let isBlank (c : Char) : Bool := c = ' ' || c = '\t' || c = '\n' || c = '\x0b' || c = '\x0c' || c = '\r'
  String.ofList ((text.toList.dropWhile isBlank).reverse.dropWhile isBlank).reverse

/-- Equality ignoring case, character by character, as a C loop over two terminated texts decides it. -/
def sameIgnoringCase : List Char → List Char → Bool
  | a :: as, b :: bs => if a.toLower = b.toLower then sameIgnoringCase as bs else false
  | [], [] => true
  | _, _ => false

@[simp] theorem toList_lower (text : String) : (lower text).toList = text.toList.map Char.toLower := by
  simp [lower]

theorem toLower_toLower (c : Char) : c.toLower.toLower = c.toLower := by
  unfold Char.toLower
  split
  · rename_i hupper
    rw [dif_neg]
    simp only [ge_iff_le, not_and]
    intro _
    simp only [ge_iff_le, UInt32.le_iff_toNat_le, UInt32.toNat_add] at *
    simp at *
    omega
  · rfl

theorem lower_lower (text : String) : lower (lower text) = lower text := by
  simp only [lower, String.toList_ofList, List.map_map]
  congr 1
  apply List.map_congr_left
  intro c _
  exact toLower_toLower c

theorem lower_append (a b : String) : lower (a ++ b) = lower a ++ lower b := by
  apply String.toList_injective
  simp only [toList_lower, String.toList_append, List.map_append]

theorem sameIgnoringCase_iff (a b : List Char) :
    sameIgnoringCase a b = true ↔ a.map Char.toLower = b.map Char.toLower := by
  induction a generalizing b with
  | nil => cases b <;> simp [sameIgnoringCase]
  | cons x xs ih =>
      cases b with
      | nil => simp [sameIgnoringCase]
      | cons y ys =>
          by_cases heq : x.toLower = y.toLower
          · simp [sameIgnoringCase, heq, ih]
          · simp [sameIgnoringCase, heq]

theorem lower_eq_iff (a b : String) :
    lower a = lower b ↔ a.toList.map Char.toLower = b.toList.map Char.toLower := by
  rw [lower, lower, String.ofList_inj]

theorem sameIgnoringCase_iff_lower (a b : String) : sameIgnoringCase a.toList b.toList = true ↔ lower a = lower b := by
  rw [sameIgnoringCase_iff, lower_eq_iff]

/-- A character that is no letter stands in the lower case of a text exactly when it stands in the text. -/
theorem mem_lower {c : Char} (hself : c.toLower = c) (hletter : c.toNat < 0x61) (text : String) :
    c ∈ (lower text).toList ↔ c ∈ text.toList := by
  rw [toList_lower, List.mem_map]
  constructor
  · rintro ⟨d, hd, heq⟩
    unfold Char.toLower at heq
    split at heq
    · rename_i hupper
      have hnat : (d.val + 32).toNat < 0x61 := by
        rw [← heq] at hletter
        exact hletter
      simp only [ge_iff_le, UInt32.le_iff_toNat_le, UInt32.toNat_add] at hupper hnat
      simp at hupper hnat
      omega
    · rwa [← heq]
  · intro hc
    exact ⟨c, hc, hself⟩

theorem startsWith_iff (text start : String) :
    startsWith text start = true ↔ ∃ rest, text.toList = start.toList ++ rest := by
  rw [startsWith, List.isPrefixOf_iff_prefix]
  exact ⟨fun ⟨rest, h⟩ => ⟨rest, h.symm⟩, fun ⟨rest, h⟩ => ⟨rest, h.symm⟩⟩

/-! ### Words

A word is a maximal run of characters other than the blank. -/

/-- The words of a text, with the word being read in front. -/
def wordsFrom : List Char → List Char → List (List Char)
  | word, [] => if word = [] then [] else [word]
  | word, c :: rest =>
      if c = ' ' then (if word = [] then wordsFrom [] rest else word :: wordsFrom [] rest)
      else wordsFrom (word ++ [c]) rest

def words (text : String) : List String := (wordsFrom [] text.toList).map String.ofList

/-- A text that is one word: not empty and without blanks. -/
def IsWord (word : String) : Prop := word.toList ≠ [] ∧ ' ' ∉ word.toList

theorem wordsFrom_append_word (start word rest : List Char) (hword : ' ' ∉ word) :
    wordsFrom start (word ++ rest) = wordsFrom (start ++ word) rest := by
  induction word generalizing start with
  | nil => simp
  | cons c cs ih =>
      simp only [List.mem_cons, not_or] at hword
      have hne : c ≠ ' ' := fun h => hword.1 h.symm
      rw [List.cons_append, wordsFrom, if_neg hne, ih _ hword.2]
      simp

theorem wordsFrom_word_blank (word rest : List Char) (hne : word ≠ []) (hword : ' ' ∉ word) :
    wordsFrom [] (word ++ ' ' :: rest) = word :: wordsFrom [] rest := by
  rw [wordsFrom_append_word [] word _ hword, List.nil_append, wordsFrom, if_pos rfl, if_neg hne]

/-- Joining words with blanks and splitting the text again gives the words back. -/
theorem words_intercalate (ws : List String) (h : ∀ w ∈ ws, IsWord w) :
    words (" ".intercalate ws) = ws := by
  have hchars : ∀ vs : List String, (∀ w ∈ vs, IsWord w) →
      wordsFrom [] (" ".intercalate vs).toList = vs.map String.toList := by
    intro vs
    induction vs with
    | nil => intro _; rfl
    | cons v rest ih =>
        intro hvs
        obtain ⟨hv, hblank⟩ := hvs v (by simp)
        cases rest with
        | nil =>
            have hone := wordsFrom_append_word [] v.toList [] hblank
            simp only [List.append_nil, List.nil_append] at hone
            rw [String.intercalate_singleton, hone, wordsFrom, if_neg hv]
            rfl
        | cons u us =>
            have htail := ih fun w hw => hvs w (List.mem_cons_of_mem v hw)
            rw [String.intercalate_cons_cons]
            simp only [String.toList_append]
            rw [List.append_assoc, show (" " : String).toList = [' '] from rfl, List.singleton_append,
              wordsFrom_word_blank _ _ hv hblank, htail]
            rfl
  rw [words, hchars ws h, List.map_map]
  simp [Function.comp_def]

theorem wordsFrom_dropWhile (text : List Char) : wordsFrom [] (text.dropWhile (· = ' ')) = wordsFrom [] text := by
  induction text with
  | nil => rfl
  | cons c rest ih =>
      by_cases hblank : c = ' '
      · rw [List.dropWhile_cons_of_pos (by simpa using hblank), ih, wordsFrom, if_pos hblank, if_pos rfl]
      · rw [List.dropWhile_cons_of_neg (by simpa using hblank)]

/-- A word that ends at a blank or at the end of the text is the first one. -/
theorem wordsFrom_of_word {word rest : List Char} (hne : word ≠ []) (hword : ' ' ∉ word)
    (hrest : ∀ c ∈ rest.head?, c = ' ') : wordsFrom [] (word ++ rest) = word :: wordsFrom [] rest := by
  cases rest with
  | nil =>
      rw [wordsFrom_append_word [] word [] hword, List.nil_append, wordsFrom, if_neg hne]
      rfl
  | cons c rest =>
      obtain rfl : c = ' ' := hrest c rfl
      rw [wordsFrom_word_blank word rest hne hword, wordsFrom, if_pos rfl, if_pos rfl]

theorem head_of_dropWhile {text rest : List Char} {c : Char} (h : text.dropWhile (· = ' ') = c :: rest) : c ≠ ' ' := by
  have hnot := List.head?_dropWhile_not (fun c : Char => decide (c = ' ')) text
  rw [h] at hnot
  simpa using hnot

theorem length_after_word {text : List Char} (h : text.dropWhile (· = ' ') ≠ []) :
    ((text.dropWhile (· = ' ')).dropWhile (· ≠ ' ')).length < text.length := by
  obtain ⟨c, rest, hstart⟩ := List.exists_cons_of_ne_nil h
  have hblanks := List.length_dropWhile_le (fun c : Char => decide (c = ' ')) text
  have hword := List.length_dropWhile_le (fun c : Char => decide (c ≠ ' ')) rest
  rw [hstart] at hblanks ⊢
  rw [List.dropWhile_cons_of_pos (by simpa using head_of_dropWhile hstart)]
  rw [List.length_cons] at hblanks
  omega

/-- The words of a text are the characters up to a blank, after the blanks in front, and the words of the rest. -/
theorem wordsFrom_round (text : List Char) :
    wordsFrom [] text
      = if text.dropWhile (· = ' ') = [] then []
        else (text.dropWhile (· = ' ')).takeWhile (· ≠ ' ')
          :: wordsFrom [] ((text.dropWhile (· = ' ')).dropWhile (· ≠ ' ')) := by
  rw [← wordsFrom_dropWhile text]
  generalize hstart : text.dropWhile (· = ' ') = start
  cases start with
  | nil => rfl
  | cons c rest =>
      have hhead := head_of_dropWhile hstart
      rw [if_neg (List.cons_ne_nil c rest)]
      conv_lhs => rw [← List.takeWhile_append_dropWhile (p := (· ≠ ' ')) (l := c :: rest)]
      apply wordsFrom_of_word
      · rw [List.takeWhile_cons_of_pos (by simpa using hhead)]
        exact List.cons_ne_nil c _
      · intro hmem
        simpa using List.mem_takeWhile_imp hmem
      · intro d hd
        have hnot := List.head?_dropWhile_not (fun c : Char => decide (c ≠ ' ')) (c :: rest)
        rw [hd] at hnot
        simpa using hnot

/-- A text of printed characters: not empty and without blanks of any kind. -/
def IsPrinted (word : String) : Prop := word.toList ≠ [] ∧ ∀ c ∈ word.toList, ' ' < c

instance (word : String) : Decidable (IsPrinted word) := @instDecidableAnd _ _ _ (List.decidableBAll _ _)

theorem IsPrinted.isWord {word : String} (h : IsPrinted word) : IsWord word :=
  ⟨h.1, fun hmem => absurd (h.2 ' ' hmem) (by decide)⟩

theorem toList_intercalate_cons (v u : String) (us : List String) :
    (" ".intercalate (v :: u :: us)).toList = v.toList ++ ' ' :: (" ".intercalate (u :: us)).toList := by
  rw [String.intercalate_cons_cons]
  simp only [String.toList_append, List.append_assoc]
  rfl

/-- Words each followed by a blank are the joined words and one blank, with printed characters at both ends. -/
theorem toList_join_blank (v : String) (ws : List String) (h : ∀ w ∈ v :: ws, IsPrinted w) :
    (String.join ((v :: ws).map (· ++ " "))).toList = (" ".intercalate (v :: ws)).toList ++ [' ']
      ∧ (" ".intercalate (v :: ws)).toList ≠ []
      ∧ (∀ c ∈ (" ".intercalate (v :: ws)).toList.head?, ' ' < c)
      ∧ ∀ c ∈ (" ".intercalate (v :: ws)).toList.getLast?, ' ' < c := by
  induction ws generalizing v with
  | nil =>
      obtain ⟨hv, hprinted⟩ := h v (by simp)
      rw [String.intercalate_singleton]
      refine ⟨by simp, hv, ?_, ?_⟩
      · intro c hc
        exact hprinted c (List.mem_of_mem_head? hc)
      · intro c hc
        exact hprinted c (List.mem_of_mem_getLast? hc)
  | cons u us ih =>
      obtain ⟨hv, hprinted⟩ := h v (by simp)
      obtain ⟨hjoin, hne, -, hlast⟩ := ih u fun w hw => h w (List.mem_cons_of_mem v hw)
      rw [toList_intercalate_cons]
      refine ⟨?_, by simp, ?_, ?_⟩
      · rw [List.map_cons, String.join_cons, String.toList_append, hjoin]
        simp only [String.toList_append, List.append_assoc, List.cons_append]
        rfl
      · intro c hc
        rw [List.head?_append_of_ne_nil _ hv] at hc
        exact hprinted c (List.mem_of_mem_head? hc)
      · intro c hc
        rw [List.getLast?_append_of_ne_nil _ (by simp), List.getLast?_cons_of_ne_nil hne] at hc
        exact hlast c hc

theorem dropWhile_of_head (p : Char → Bool) (text : List Char) (h : ∀ c ∈ text.head?, p c = false) :
    text.dropWhile p = text := by
  cases text with
  | nil => rfl
  | cons c rest => rw [List.dropWhile_cons_of_neg (by simpa using h c rfl)]

/-- Trimming the blank behind the last word gives the words joined with blanks. -/
theorem trim_join_blank (ws : List String) (h : ∀ w ∈ ws, IsPrinted w) :
    trim (String.join (ws.map (· ++ " "))) = " ".intercalate ws := by
  cases ws with
  | nil => rfl
  | cons v rest =>
      obtain ⟨hjoin, hne, hhead, hlast⟩ := toList_join_blank v rest h
      unfold trim
      dsimp only
      generalize hblank : (fun c : Char => decide (c = ' ') || decide (c = '\t') || decide (c = '\n')
        || decide (c = '\x0b') || decide (c = '\x0c') || decide (c = '\r')) = isBlank
      have hprinted : ∀ c : Char, ' ' < c → isBlank c = false := by
        intro c hc
        rw [← hblank]
        have hne : ∀ d : Char, d ≤ ' ' → c ≠ d := fun d hd heq => absurd (heq ▸ hc) (not_lt.mpr hd)
        simp only [Bool.or_eq_false_iff, decide_eq_false_iff_not]
        exact ⟨⟨⟨⟨⟨hne _ (by decide), hne _ (by decide)⟩, hne _ (by decide)⟩, hne _ (by decide)⟩,
          hne _ (by decide)⟩, hne _ (by decide)⟩
      have hfront := dropWhile_of_head isBlank ((" ".intercalate (v :: rest)).toList ++ [' ']) (by
        intro c hc
        rw [List.head?_append_of_ne_nil _ hne] at hc
        exact hprinted c (hhead c hc))
      have hback := dropWhile_of_head isBlank (" ".intercalate (v :: rest)).toList.reverse (by
        intro c hc
        rw [List.head?_reverse] at hc
        exact hprinted c (hlast c hc))
      have hspace : isBlank ' ' = true := by
        rw [← hblank]
        rfl
      rw [hjoin, hfront, List.reverse_append, List.reverse_singleton, List.singleton_append,
        List.dropWhile_cons_of_pos hspace, hback, List.reverse_reverse, String.ofList_toList]

end EspNut.Lib.Text
