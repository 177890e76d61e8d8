import EspNut.Lib.Text

/-!
# Words of a command line

A line is split at its blanks. A backslash takes the next character as it is, and a pair of quotes keeps its blanks and makes a word even when it is empty. The values of the replies are escaped the other way.
-/

namespace EspNut.NUTServer

/-- The loop over the characters: the word being read, whether quotes are open and whether the word had a pair of them. -/
def splitFrom (word : List Char) (inQuotes quoted : Bool) : List Char → List String
  | [] => if word ≠ [] ∨ quoted = true then [String.ofList word] else []
  | c :: rest =>
      if c = '\\' then
        match rest with
        | [] => splitFrom word inQuotes quoted []
        | next :: rest => splitFrom (word ++ [next]) inQuotes quoted rest
      else if c = '"' then splitFrom word (!inQuotes) (quoted || inQuotes) rest
      else if c = ' ' ∧ inQuotes = false then
        if word ≠ [] ∨ quoted = true then String.ofList word :: splitFrom [] inQuotes false rest
        else splitFrom word inQuotes false rest
      else splitFrom (word ++ [c]) inQuotes quoted rest

def splitTokens (input : String) : List String := splitFrom [] false false input.toList

/-- A backslash in front of each character that ends a quoted word. -/
def encodeValue (raw : String) : String :=
  String.ofList (raw.toList.flatMap fun c => if c = '#' ∨ c = '\\' ∨ c = '"' then ['\\', c] else [c])

theorem forall_of_mem_splitFrom {P : Char → Prop} {word input : List Char} {inQuotes quoted : Bool}
    (hword : ∀ c ∈ word, P c) (hinput : ∀ c ∈ input, P c) :
    ∀ token ∈ splitFrom word inQuotes quoted input, ∀ c ∈ token.toList, P c := by
  have hdone : ∀ {word : List Char}, (∀ c ∈ word, P c) → ∀ c ∈ (String.ofList word).toList, P c := by
    intro word hword c hc
    rw [String.toList_ofList] at hc
    exact hword c hc
  have hlonger : ∀ {word : List Char} {next : Char}, (∀ c ∈ word, P c) → P next → ∀ c ∈ word ++ [next], P c :=
    fun hword hnext => List.forall_mem_append.mpr ⟨hword, List.forall_mem_singleton.mpr hnext⟩
  fun_induction splitFrom word inQuotes quoted input with
  | case1 word inQuotes quoted hends => exact List.forall_mem_singleton.mpr (hdone hword)
  | case2 => exact List.forall_mem_nil _
  | case3 word inQuotes quoted ih => exact ih hword (List.forall_mem_nil _)
  | case4 word inQuotes quoted next rest ih =>
      obtain ⟨hnext, hrest⟩ := List.forall_mem_cons.mp (List.forall_mem_cons.mp hinput).2
      exact ih (hlonger hword hnext) hrest
  | case5 word inQuotes quoted rest hslash ih => exact ih hword (List.forall_mem_cons.mp hinput).2
  | case6 word inQuotes quoted c rest hslash hquote hblank hends ih =>
      exact List.forall_mem_cons.mpr ⟨hdone hword, ih (List.forall_mem_nil _) (List.forall_mem_cons.mp hinput).2⟩
  | case7 word inQuotes quoted c rest hslash hquote hblank hends ih => exact ih hword (List.forall_mem_cons.mp hinput).2
  | case8 word inQuotes quoted c rest hslash hquote hblank ih =>
      obtain ⟨hc, hrest⟩ := List.forall_mem_cons.mp hinput
      exact ih (hlonger hword hc) hrest

/-- Characters that neither escape, quote nor end the word join it. -/
theorem splitFrom_plain {plain : List Char} {inQuotes : Bool} (start rest : List Char) (quoted : Bool)
    (hblank : inQuotes = false → ' ' ∉ plain) (hslash : '\\' ∉ plain) (hquote : '"' ∉ plain) :
    splitFrom start inQuotes quoted (plain ++ rest) = splitFrom (start ++ plain) inQuotes quoted rest := by
  induction plain generalizing start with
  | nil => simp
  | cons c cs ih =>
      have hopen : ¬ (c = ' ' ∧ inQuotes = false) := fun hc => hblank hc.2 (hc.1 ▸ List.mem_cons_self)
      have htail : inQuotes = false → ' ' ∉ cs := fun hout hc => hblank hout (List.mem_cons_of_mem _ hc)
      rw [List.mem_cons, not_or] at hslash hquote
      rw [List.cons_append, splitFrom.eq_def]
      dsimp only
      rw [if_neg (Ne.symm hslash.1), if_neg (Ne.symm hquote.1), if_neg hopen, ih _ htail hslash.2 hquote.2,
        List.append_assoc]
      rfl

def PlainWords (ws : List String) : Prop :=
  (∀ w ∈ ws, Lib.Text.IsWord w) ∧ ∀ w ∈ ws, '\\' ∉ w.toList ∧ '"' ∉ w.toList

variable {w : String} {ws : List String}

theorem PlainWords.tail (h : PlainWords (w :: ws)) : PlainWords ws :=
  ⟨fun v hv => h.1 v (List.mem_cons_of_mem _ hv), fun v hv => h.2 v (List.mem_cons_of_mem _ hv)⟩

theorem PlainWords.head (h : PlainWords (w :: ws)) (rest : List Char) :
    splitFrom [] false false (w.toList ++ rest) = splitFrom w.toList false false rest := by
  obtain ⟨hslash, hquote⟩ := h.2 w List.mem_cons_self
  exact splitFrom_plain [] rest false (fun _ => (h.1 w List.mem_cons_self).2) hslash hquote

theorem PlainWords.head_blank (h : PlainWords (w :: ws)) (rest : List Char) :
    splitFrom [] false false (w.toList ++ ' ' :: rest) = w :: splitFrom [] false false rest := by
  rw [h.head, splitFrom.eq_def]
  dsimp only
  rw [if_neg (by decide), if_neg (by decide), if_pos ⟨rfl, rfl⟩, if_pos (Or.inl (h.1 w List.mem_cons_self).1),
    String.ofList_toList]

/-- A line of plain words joined with one blank each is split into these words. -/
theorem splitTokens_intercalate (ws : List String) (h : ∀ w ∈ ws, Lib.Text.IsWord w)
    (hplain : ∀ w ∈ ws, '\\' ∉ w.toList ∧ '"' ∉ w.toList) : splitTokens (" ".intercalate ws) = ws := by
  have hws : PlainWords ws := ⟨h, hplain⟩
  clear h hplain
  unfold splitTokens
  induction ws with
  | nil => rfl
  | cons w rest ih =>
      cases rest with
      | nil =>
          have hlast := hws.head []
          rw [List.append_nil] at hlast
          rw [String.intercalate_singleton, hlast, splitFrom, if_pos (Or.inl (hws.1 w List.mem_cons_self).1),
            String.ofList_toList]
      | cons u us => rw [Lib.Text.toList_intercalate_cons, hws.head_blank, ih hws.tail]

/-- Plain words with a blank behind the last one are the first tokens, whatever follows. -/
theorem PlainWords.split_blank (h : PlainWords ws) (rest : List Char) :
    splitFrom [] false false ((" ".intercalate ws).toList ++ ' ' :: rest) = ws ++ splitFrom [] false false rest := by
  induction ws with
  | nil =>
      show splitFrom [] false false (' ' :: rest) = _
      rw [splitFrom.eq_def]
      rfl
  | cons w tail ih =>
      cases tail with
      | nil => rw [String.intercalate_singleton, h.head_blank, List.singleton_append]
      | cons u us =>
          rw [Lib.Text.toList_intercalate_cons, List.append_assoc, List.cons_append, h.head_blank, ih h.tail]
          rfl

end EspNut.NUTServer
