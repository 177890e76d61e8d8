import EspNut.Lib.Buffer
import EspNut.Lib.Run
import Mathlib.Data.List.TakeWhile

/-!
# The tasks that blocked the task watchdog

The messages that name them are collected during the watchdog's interrupt, in a record that outlives the reset, and the next boot tells them once. The record has room for 95 characters; after a power cycle it may hold anything.
-/

namespace EspNut

open Lib Buffer

def twdtTasksMaxLen : Nat := 96
def twdtListMagic : UInt32 := 0x4E555457

structure TwdtTaskList where
  text : List Char
  len : Nat
  count : Nat
  inEntry : Bool
  truncated : Bool
  size : text.length = twdtTasksMaxLen

namespace TwdtTaskList

def store (i : Nat) (c : Char) (l : TwdtTaskList) : Option TwdtTaskList :=
  if i < l.text.length then some { l with text := l.text.set i c, size := by rw [List.length_set, l.size] } else none

def reset (l : TwdtTaskList) : Option TwdtTaskList := do
  let l ← store 0 '\x00' l
  some { l with len := 0, count := 0, inEntry := false, truncated := false }

/-- The loop of `append`. -/
def appendFrom : List Char → TwdtTaskList → Option TwdtTaskList
  | [], l => some l
  | c :: rest, l =>
      if twdtTasksMaxLen - 1 ≤ l.len then some { l with truncated := true }
      else do
        let l ← store l.len c l
        appendFrom rest { l with len := l.len + 1 }

def append (s : List Char) (l : TwdtTaskList) : Option TwdtTaskList := do
  let l ← appendFrom s (if twdtTasksMaxLen ≤ l.len then { l with len := twdtTasksMaxLen - 1 } else l)
  store l.len '\x00' l

/-- The message that opens an entry. -/
def marker : List Char := ['\n', ' ', '-', ' ']

/-- The separator in front of every entry but the first. -/
def separate (l : TwdtTaskList) : Option TwdtTaskList := if 0 < l.count then append [',', ' '] l else some l

def feed (l : TwdtTaskList) (msg : CString) : Option TwdtTaskList :=
  if msg.chars = marker then do
    let l ← separate l
    some { l with count := if l.count < 255 then l.count + 1 else l.count, inEntry := true }
  else if l.inEntry then append msg.chars l else some l

/-- The watchdog's interrupt: the messages that name the tasks, and the magic word when there was an entry. -/
def userHandler (messages : List CString) (l : TwdtTaskList) : Option (UInt32 × TwdtTaskList) := do
  let l ← reset l
  let l ← messages.foldlM feed l
  some (if 0 < l.count then twdtListMagic else 0, l)

/-- The loop of `consume`, over what is left of the record's text. -/
def copyNames (limit : Nat) : List Char → List Char → Nat → Option (List Char × Nat)
  | [], out, n => if n < twdtTasksMaxLen - 1 ∧ n < limit then none else some (out, n)
  | c :: rest, out, n =>
      if n < twdtTasksMaxLen - 1 ∧ n < limit then
        if c = '\x00' then some (out, n) else do copyNames limit rest (← write out n c) (n + 1)
      else some (out, n)

def addDots (l : TwdtTaskList) (out : List Char) (n : Nat) : Option (List Char × Nat) :=
  if l.truncated then copyUpTo (out.length - 1) ['.', '.', '.'] out n else some (out, n)

def copyRecord (l : TwdtTaskList) (out : List Char) : Option (List Char × Bool) := do
  let (out, n) ← copyNames (out.length - 1) l.text out 0
  let (out, n) ← addDots l out n
  some (← write out n '\x00', 0 < n)

/-- The magic word is always cleared. -/
def consume (magic : UInt32) (l : TwdtTaskList) (resetIsTaskWdt : Bool) (out : List Char) :
    Option (UInt32 × List Char × Bool) :=
  if out.length = 0 then some (0, out, false)
  else do
    let out ← write out 0 '\x00'
    if magic = twdtListMagic ∧ resetIsTaskWdt = true ∧ 0 < l.count then (copyRecord l out).map fun result => (0, result)
    else some (0, out, false)

/-! ### What the record keeps of a text -/

/-- The record has the front of a text that grows. -/
structure Front (joined : List Char) (l : TwdtTaskList) : Prop where
  text : joined.take 95 <+: l.text
  len : l.len = min 95 joined.length
  truncated : l.truncated = decide (95 < joined.length)

/-- The front stands terminated in the record. -/
structure Keeps (joined : List Char) (l : TwdtTaskList) : Prop extends Front joined l where
  noStop : '\x00' ∉ joined
  stop : joined.take 95 ++ ['\x00'] <+: l.text

variable {joined front : List Char} {l : TwdtTaskList}

theorem store_of_prefix (h : front <+: l.text) (hroom : front.length < 96) (c : Char) :
    ∃ text size, store front.length c l = some { l with text, size } ∧ front ++ [c] <+: text := by
  have hinside : front.length < l.text.length := by
    rw [l.size]
    exact hroom
  obtain ⟨written, hwrite, hfront, -⟩ := write_next h hinside c
  unfold write at hwrite
  rw [if_pos hinside, Option.some.injEq] at hwrite
  subst hwrite
  exact ⟨_, _, if_pos hinside, hfront⟩

theorem appendFrom_front (s : List Char) (h : Front joined l) :
    ∃ l', appendFrom s l = some l' ∧ Front (joined ++ s) l' ∧ l'.count = l.count ∧ l'.inEntry = l.inEntry := by
  induction s generalizing joined l with
  | nil => exact ⟨l, rfl, by rwa [List.append_nil], rfl, rfl⟩
  | cons c rest ih =>
      unfold appendFrom
      have hlen := h.len
      by_cases hfull : twdtTasksMaxLen - 1 ≤ l.len
      · rw [if_pos hfull]
        have hlong : 95 ≤ joined.length := by
          unfold twdtTasksMaxLen at hfull
          omega
        have hlonger : 95 < (joined ++ c :: rest).length := by
          rw [List.length_append, List.length_cons]
          omega
        refine ⟨_, rfl, ⟨?_, ?_, (decide_eq_true hlonger).symm⟩, rfl, rfl⟩
        · rw [List.take_append_of_le_length hlong]
          exact h.text
        · show l.len = _
          omega
      · rw [if_neg hfull]
        have hshort : joined.length < 95 := by
          unfold twdtTasksMaxLen at hfull
          omega
        have htext := h.text
        rw [List.take_of_length_le hshort.le] at htext
        obtain ⟨text, size, hstore, hfront⟩ := store_of_prefix htext (by omega) c
        have hnext : Front (joined ++ [c]) { l with text, size, len := l.len + 1 } := by
          refine ⟨?_, ?_, ?_⟩
          · rw [List.take_of_length_le (by rw [List.length_append]; exact hshort)]
            exact hfront
          · rw [List.length_append, List.length_singleton]
            show l.len + 1 = _
            omega
          · rw [List.length_append, List.length_singleton]
            show l.truncated = _
            rw [h.truncated, decide_eq_false (by omega), decide_eq_false (by omega)]
        obtain ⟨l', happend, hall, hcount, hentry⟩ := ih hnext
        refine ⟨l', ?_, by rwa [List.append_assoc] at hall, hcount, hentry⟩
        rw [show joined.length = l.len by omega] at hstore
        rw [hstore]
        exact happend

theorem append_keeps (s : List Char) (hs : '\x00' ∉ s) (h : Keeps joined l) :
    ∃ l', append s l = some l' ∧ Keeps (joined ++ s) l' ∧ l'.count = l.count ∧ l'.inEntry = l.inEntry := by
  have hlen := h.len
  obtain ⟨filled, happend, hfront, hcount, hentry⟩ := appendFrom_front s h.toFront
  have htext : ((joined ++ s).take 95).length = filled.len := by
    rw [List.length_take, hfront.len]
  obtain ⟨text, size, hstore, hstop⟩ := store_of_prefix hfront.text (by rw [htext, hfront.len]; omega) '\x00'
  refine ⟨{ filled with text, size }, ?_, ⟨⟨?_, hfront.len, hfront.truncated⟩, ?_, hstop⟩, hcount, hentry⟩
  · unfold append
    rw [if_neg (by rw [hlen]; unfold twdtTasksMaxLen; omega), happend]
    rw [htext] at hstore
    exact hstore
  · exact (List.prefix_append _ _).trans hstop
  · rw [List.mem_append]
    exact not_or.mpr ⟨h.noStop, hs⟩

/-! ### Entries -/

/-- The messages of each entry, one behind the other; what comes before the first one is the caption. -/
def entries : List (List Char) → List (List Char)
  | [] => []
  | msg :: rest => if msg = marker then (rest.takeWhile (· ≠ marker)).flatten :: entries rest else entries rest

def joinedEntries (messages : List (List Char)) : List Char := [',', ' '].intercalate (entries messages)

def told (text : List Char) : List Char := text.take 95 ++ if 95 < text.length then ['.', '.', '.'] else []

theorem entries_eq_nil_iff (messages : List (List Char)) : entries messages = [] ↔ ∀ msg ∈ messages, msg ≠ marker := by
  induction messages with
  | nil => exact iff_of_true rfl fun msg hmem => absurd hmem List.not_mem_nil
  | cons msg rest ih =>
      unfold entries
      rw [List.forall_mem_cons, ← ih]
      split
      · rename_i hmarker
        exact iff_of_false (List.cons_ne_nil _ _) fun h => h.1 hmarker
      · rename_i hother
        exact (and_iff_right hother).symm

theorem takeWhile_of_no_marker {messages : List (List Char)} (h : ∀ msg ∈ messages, msg ≠ marker) :
    messages.takeWhile (· ≠ marker) = messages :=
  List.takeWhile_eq_self_iff.mpr fun msg hmem => decide_eq_true (h msg hmem)

theorem entries_snoc_marker (messages : List (List Char)) : entries (messages ++ [marker]) = entries messages ++ [[]] := by
  induction messages with
  | nil => rfl
  | cons msg rest ih =>
      rw [List.cons_append]
      unfold entries
      rw [ih]
      split
      · have hstop : (rest ++ [marker]).takeWhile (· ≠ marker) = rest.takeWhile (· ≠ marker) := by
          rw [List.takeWhile_append]
          split
          · rename_i hlength
            rw [List.takeWhile_cons_of_neg (by simp), List.append_nil, (List.takeWhile_prefix _).eq_of_length hlength]
          · rfl
        rw [hstop]
        rfl
      · rfl

/-- Any other message belongs to the last entry. -/
theorem entries_snoc_other (messages : List (List Char)) {msg : List Char} (h : msg ≠ marker) :
    (entries messages = [] ∧ entries (messages ++ [msg]) = [])
      ∨ ∃ before last, entries messages = before ++ [last] ∧ entries (messages ++ [msg]) = before ++ [last ++ msg] := by
  induction messages with
  | nil => exact Or.inl ⟨rfl, if_neg h⟩
  | cons first rest ih =>
      rw [List.cons_append]
      by_cases hfirst : first = marker
      · unfold entries
        rw [if_pos hfirst, if_pos hfirst]
        right
        rcases ih with ⟨hnone, hnone'⟩ | ⟨before, last, hbefore, hafter⟩
        · have hrest := (entries_eq_nil_iff rest).mp hnone
          have hall : ∀ m ∈ rest ++ [msg], m ≠ marker := by
            rw [List.forall_mem_append, List.forall_mem_singleton]
            exact ⟨hrest, h⟩
          refine ⟨[], rest.flatten, ?_, ?_⟩
          · rw [hnone, takeWhile_of_no_marker hrest, List.nil_append]
          · rw [hnone', takeWhile_of_no_marker hall, List.flatten_append, List.flatten_singleton, List.nil_append]
        · refine ⟨(rest.takeWhile (· ≠ marker)).flatten :: before, last, by rw [hbefore]; rfl, ?_⟩
          rw [hafter, List.takeWhile_append, if_neg]
          · rfl
          · intro hlength
            have hwhole := (List.takeWhile_prefix _).eq_of_length hlength
            have hnone := (entries_eq_nil_iff rest).mpr fun m hm =>
              of_decide_eq_true (List.takeWhile_eq_self_iff.mp hwhole m hm)
            rw [hnone] at hbefore
            exact List.append_ne_nil_of_right_ne_nil before (List.cons_ne_nil last []) hbefore.symm
      · unfold entries
        rw [if_neg hfirst, if_neg hfirst]
        exact ih

theorem intercalate_snoc {separator : List Char} {before : List (List Char)} (h : before ≠ []) (last : List Char) :
    separator.intercalate (before ++ [last]) = separator.intercalate before ++ separator ++ last := by
  induction before with
  | nil => exact absurd rfl h
  | cons first rest ih =>
      cases hrest : rest with
      | nil => simp [List.intercalate_cons_cons]
      | cons second more =>
          rw [List.cons_append, ← hrest, List.intercalate_cons_of_ne_nil (by simp), ih (by simp [hrest]),
            List.intercalate_cons_of_ne_nil (by simp [hrest])]
          simp only [List.append_assoc]

/-- What a marker adds to the joined entries. -/
theorem joinedEntries_marker (messages : List (List Char)) :
    joinedEntries (messages ++ [marker]) = joinedEntries messages ++ if entries messages = [] then [] else [',', ' '] := by
  unfold joinedEntries
  rw [entries_snoc_marker]
  split
  · rename_i hnone
    rw [hnone]
    rfl
  · rename_i hsome
    rw [intercalate_snoc hsome, List.append_nil]

theorem joinedEntries_other (messages : List (List Char)) {msg : List Char} (h : msg ≠ marker) :
    joinedEntries (messages ++ [msg]) = joinedEntries messages ++ if entries messages = [] then [] else msg := by
  unfold joinedEntries
  rcases entries_snoc_other messages h with ⟨hnone, hnone'⟩ | ⟨before, last, hbefore, hafter⟩
  · rw [hnone, hnone', if_pos rfl, List.append_nil]
  · rw [hbefore, hafter, if_neg (List.append_ne_nil_of_right_ne_nil before (List.cons_ne_nil last []))]
    cases before with
    | nil => rw [List.nil_append, List.nil_append, List.intercalate_singleton, List.intercalate_singleton]
    | cons first rest =>
        rw [intercalate_snoc (List.cons_ne_nil first rest), intercalate_snoc (List.cons_ne_nil first rest), List.append_assoc _ last]

theorem entries_snoc_ne_nil (messages : List (List Char)) (msg : List Char) :
    entries (messages ++ [msg]) ≠ [] ↔ entries messages ≠ [] ∨ msg = marker := by
  rw [Ne, entries_eq_nil_iff, Ne, entries_eq_nil_iff, List.forall_mem_append, List.forall_mem_singleton, not_and_or, not_not]

/-- The record after the messages. -/
structure Collected (messages : List (List Char)) (l : TwdtTaskList) : Prop where
  keeps : Keeps (joinedEntries messages) l
  count : 0 < l.count ↔ entries messages ≠ []
  inEntry : l.inEntry = true ↔ entries messages ≠ []

theorem reset_collected (l : TwdtTaskList) : ∃ l', reset l = some l' ∧ Collected [] l' := by
  obtain ⟨text, size, hstore, hstop⟩ := store_of_prefix (List.nil_prefix (l := l.text)) (by decide) '\x00'
  rw [List.length_nil] at hstore
  refine ⟨{ l with text, size, len := 0, count := 0, inEntry := false, truncated := false }, ?_,
    ⟨⟨⟨List.nil_prefix, rfl, rfl⟩, List.not_mem_nil, hstop⟩, iff_of_false (Nat.lt_irrefl 0) fun h => h rfl,
      iff_of_false Bool.false_ne_true fun h => h rfl⟩⟩
  unfold reset
  rw [hstore]
  rfl

theorem feed_collected (messages : List (List Char)) (msg : CString) (h : Collected messages l) :
    ∃ l', feed l msg = some l' ∧ Collected (messages ++ [msg.chars]) l' := by
  have hcount := h.count
  have hentries := entries_snoc_ne_nil messages msg.chars
  unfold feed
  by_cases hmarker : msg.chars = marker
  · obtain ⟨separated, hseparate, hkeeps⟩ : ∃ l', separate l = some l' ∧ Keeps (joinedEntries (messages ++ [msg.chars])) l' := by
      unfold separate
      rw [hmarker, joinedEntries_marker]
      by_cases hnone : entries messages = []
      · rw [if_neg fun hpos => hcount.mp hpos hnone, if_pos hnone, List.append_nil]
        exact ⟨l, rfl, h.keeps⟩
      · obtain ⟨l', happend, hkeeps, -⟩ := append_keeps [',', ' '] (by decide) h.keeps
        rw [if_pos (hcount.mpr hnone), if_neg hnone]
        exact ⟨l', happend, hkeeps⟩
    have hsome := hentries.mpr (Or.inr hmarker)
    rw [if_pos hmarker, hseparate]
    refine ⟨_, rfl, ⟨⟨hkeeps.toFront.text, hkeeps.len, hkeeps.truncated⟩, hkeeps.noStop, hkeeps.stop⟩, iff_of_true ?_ hsome,
      iff_of_true rfl hsome⟩
    dsimp only
    split <;> omega
  · rw [if_neg hmarker]
    rw [or_iff_left hmarker] at hentries
    by_cases hnone : entries messages = []
    · rw [if_neg fun hin => h.inEntry.mp hin hnone]
      refine ⟨l, rfl, ⟨?_, hcount.trans hentries.symm, h.inEntry.trans hentries.symm⟩⟩
      rw [joinedEntries_other messages hmarker, if_pos hnone, List.append_nil]
      exact h.keeps
    · obtain ⟨l', happend, hkeeps, hsame, hsame'⟩ := append_keeps msg.chars msg.noStop h.keeps
      rw [if_pos (h.inEntry.mpr hnone)]
      refine ⟨l', happend, ⟨?_, ?_, ?_⟩⟩
      · rw [joinedEntries_other messages hmarker, if_neg hnone]
        exact hkeeps
      · rw [hsame]
        exact hcount.trans hentries.symm
      · rw [hsame']
        exact h.inEntry.trans hentries.symm

theorem feeds_collected (messages : List CString) (start : List (List Char)) (h : Collected start l) :
    ∃ l', messages.foldlM feed l = some l' ∧ Collected (start ++ messages.map CString.chars) l' := by
  induction messages generalizing start l with
  | nil => exact ⟨l, rfl, by rwa [List.map_nil, List.append_nil]⟩
  | cons msg rest ih =>
      obtain ⟨next, hfeed, hnext⟩ := feed_collected start msg h
      obtain ⟨l', hrest, hall⟩ := ih (start ++ [msg.chars]) hnext
      refine ⟨l', ?_, by rwa [List.append_assoc] at hall⟩
      rw [List.foldlM_cons, hfeed]
      exact hrest

/-- What the interrupt leaves, whatever the record held before. -/
theorem userHandler_collected (messages : List CString) (l : TwdtTaskList) :
    ∃ l', userHandler messages l = some (if 0 < l'.count then twdtListMagic else 0, l')
      ∧ Collected (messages.map CString.chars) l' := by
  obtain ⟨started, hreset, hstarted⟩ := reset_collected l
  obtain ⟨l', hfeeds, hall⟩ := feeds_collected messages [] hstarted
  refine ⟨l', ?_, hall⟩
  unfold userHandler
  rw [hreset]
  dsimp only [Option.bind_eq_bind, Option.bind_some]
  rw [hfeeds]
  rfl

/-! ### What the next boot tells -/

/-- The names that are copied: what stands in front of the terminator, as far as both buffers go. -/
theorem copyNames_eq {limit : Nat} {memory out : List Char} (h : front <+: out) (hlimit : limit ≤ out.length)
    (hmemory : 95 ≤ front.length + memory.length) :
    ∃ copied, copyNames limit memory out front.length
        = some (copied, (front ++ (contents (memory.take (95 - front.length))).take (limit - front.length)).length)
      ∧ front ++ (contents (memory.take (95 - front.length))).take (limit - front.length) <+: copied
      ∧ copied.length = out.length := by
  induction memory generalizing front out with
  | nil =>
      rw [List.length_nil] at hmemory
      unfold copyNames
      rw [if_neg fun hroom => by unfold twdtTasksMaxLen at hroom; omega, List.take_nil]
      exact ⟨out, by simp [contents], by simpa [contents] using h, rfl⟩
  | cons c rest ih =>
      rw [List.length_cons] at hmemory
      unfold copyNames
      by_cases hroom : front.length < twdtTasksMaxLen - 1 ∧ front.length < limit
      · obtain ⟨hrecord, hout⟩ := hroom
        have hrecord' : front.length < 95 := hrecord
        rw [if_pos ⟨hrecord, hout⟩, show 95 - front.length = 95 - (front.length + 1) + 1 by omega, List.take_succ_cons]
        by_cases hstop : c = '\x00'
        · rw [if_pos hstop]
          unfold contents
          rw [List.takeWhile_cons_of_neg (by simp [hstop]), List.take_nil, List.append_nil]
          exact ⟨out, rfl, h, rfl⟩
        · obtain ⟨written, hwrite, hfront, hlength⟩ := write_next h (by omega) c
          obtain ⟨copied, hcopy, hall, hsame⟩ := ih hfront (hlimit.trans hlength.ge) (by rw [List.length_append]; simp; omega)
          rw [List.length_append, List.length_singleton] at hcopy hall
          have htext : front ++ (contents (c :: rest.take (95 - (front.length + 1)))).take (limit - front.length)
              = front ++ [c] ++ (contents (rest.take (95 - (front.length + 1)))).take (limit - (front.length + 1)) := by
            unfold contents
            rw [List.takeWhile_cons_of_pos (by simpa using hstop), show limit - front.length = limit - (front.length + 1) + 1 by omega,
              List.take_succ_cons, List.append_assoc]
            rfl
          rw [if_neg hstop, hwrite, htext]
          exact ⟨copied, hcopy, hall, hsame.trans hlength⟩
      · have hnone : (contents ((c :: rest).take (95 - front.length))).take (limit - front.length) = [] := by
          unfold twdtTasksMaxLen at hroom
          by_cases hrecord : 95 ≤ front.length
          · rw [Nat.sub_eq_zero_of_le hrecord, List.take_zero]
            exact List.take_nil
          · rw [Nat.sub_eq_zero_of_le (show limit ≤ front.length by omega), List.take_zero]
        rw [if_neg hroom, hnone, List.append_nil]
        exact ⟨out, rfl, h, rfl⟩

/-- What is copied of a record, in a room for the text. -/
def shown (l : TwdtTaskList) (room : Nat) : List Char :=
  let names := (contents (l.text.take 95)).take room
  names ++ if l.truncated then ['.', '.', '.'].take (room - names.length) else []

theorem addDots_eq {names out : List Char} (h : names <+: out) :
    ∃ copied, addDots l out names.length
        = some (copied, (names ++ if l.truncated then ['.', '.', '.'].take (out.length - 1 - names.length) else []).length)
      ∧ (names ++ if l.truncated then ['.', '.', '.'].take (out.length - 1 - names.length) else []) <+: copied
      ∧ copied.length = out.length := by
  unfold addDots
  cases l.truncated with
  | false =>
      rw [if_neg Bool.false_ne_true, if_neg Bool.false_ne_true, List.append_nil]
      exact ⟨out, rfl, h, rfl⟩
  | true =>
      rw [if_pos rfl, if_pos rfl]
      exact copyUpTo_of_prefix ['.', '.', '.'] h (Nat.sub_le out.length 1)

theorem copyRecord_holds (l : TwdtTaskList) {out : List Char} (hpos : 0 < out.length) :
    ∃ written, copyRecord l out = some (written, decide (0 < (shown l (out.length - 1)).length))
      ∧ Holds written (shown l (out.length - 1)) ∧ written.length = out.length := by
  obtain ⟨copied, hcopy, hfront, hlength⟩ := copyNames_eq (List.nil_prefix (l := out)) (Nat.sub_le out.length 1)
    (show 95 ≤ [].length + l.text.length by rw [l.size]; decide)
  rw [List.length_nil, List.nil_append, Nat.sub_zero, Nat.sub_zero] at hcopy hfront
  obtain ⟨dotted, hdots, hall, hsame⟩ := addDots_eq (l := l) hfront
  rw [hlength] at hdots hall hsame
  have hshort : (shown l (out.length - 1)).length < dotted.length := by
    have hnames := List.length_take_le (out.length - 1) (contents (l.text.take 95))
    have hdotsLength := List.length_take_le (out.length - 1 - ((contents (l.text.take 95)).take (out.length - 1)).length) ['.', '.', '.']
    rw [hsame]
    unfold shown
    dsimp only
    rw [List.length_append]
    split
    · omega
    · rw [List.length_nil]
      omega
  have hnone : '\x00' ∉ shown l (out.length - 1) := by
    unfold shown
    rw [List.mem_append]
    rintro (hname | hdot)
    · exact no_stop_of_mem_contents _ (List.mem_of_mem_take hname)
    · split at hdot
      · have hmem := List.mem_of_mem_take hdot
        simp at hmem
      · cases hdot
  obtain ⟨written, hwrite, hholds, hsize⟩ := write_stop hall hshort hnone
  refine ⟨written, ?_, hholds, hsize.trans hsame⟩
  unfold copyRecord
  rw [hcopy]
  dsimp only [Option.bind_eq_bind, Option.bind_some]
  rw [hdots]
  dsimp only [Option.bind_eq_bind, Option.bind_some]
  unfold shown
  rw [hwrite]
  rfl

/-- With any record and magic word the buffers are kept to, and a text is left. -/
theorem consume_holds (magic : UInt32) (l : TwdtTaskList) (resetIsTaskWdt : Bool) {out : List Char} (hpos : 0 < out.length) :
    ∃ written text, consume magic l resetIsTaskWdt out = some (0, written, decide (0 < text.length)) ∧ Holds written text
      ∧ written.length = out.length
      ∧ text = if magic = twdtListMagic ∧ resetIsTaskWdt = true ∧ 0 < l.count then shown l (out.length - 1) else [] := by
  obtain ⟨started, hstart, hholds, hlength⟩ := write_stop (List.nil_prefix (l := out)) hpos List.not_mem_nil
  rw [List.length_nil] at hstart
  obtain ⟨written, hcopy, hshown, hsame⟩ := copyRecord_holds l (hlength ▸ hpos)
  rw [hlength] at hcopy hshown hsame
  unfold consume
  rw [if_neg hpos.ne', hstart]
  dsimp only [Option.bind_eq_bind, Option.bind_some]
  by_cases hvalid : magic = twdtListMagic ∧ resetIsTaskWdt = true ∧ 0 < l.count
  · rw [if_pos hvalid, if_pos hvalid, hcopy]
    exact ⟨written, _, rfl, hshown, hsame, rfl⟩
  · rw [if_neg hvalid, if_neg hvalid]
    exact ⟨started, [], rfl, hholds, hlength, rfl⟩

/-- A room for 98 characters shows the whole of what the record tells. -/
theorem shown_of_keeps (h : Keeps joined l) {room : Nat} (hroom : 98 ≤ room) : shown l room = told joined := by
  have hfront := List.length_take_le 95 joined
  have hholds : Holds l.text (joined.take 95) := ⟨h.stop, fun hmem => h.noStop (List.mem_of_mem_take hmem)⟩
  have hdots : ['.', '.', '.'].take (room - (joined.take 95).length) = ['.', '.', '.'] :=
    List.take_of_length_le (show 3 ≤ _ by omega)
  unfold shown told
  dsimp only
  rw [contents_take_of_holds hholds hfront, List.take_of_length_le (by omega), h.truncated]
  by_cases hlong : 95 < joined.length
  · rw [decide_eq_true hlong, if_pos rfl, if_pos hlong, hdots]
  · rw [decide_eq_false hlong, if_neg Bool.false_ne_true, if_neg hlong]

theorem told_of_no_entry {messages : List (List Char)} (h : entries messages = []) : told (joinedEntries messages) = [] := by
  unfold joinedEntries
  rw [h]
  rfl

/-- The boot after the watchdog's reset tells the entries' messages once, cut behind 95 characters, and no record whatever takes it out of a buffer. -/
theorem tasks_told (l : TwdtTaskList) (messages : List CString) :
    (∃ magic record, userHandler messages l = some (magic, record) ∧
      ∀ out, 99 ≤ out.length →
        (∃ written said, consume magic record true out = some (0, written, said) ∧ written.length = out.length
          ∧ Holds written (told (joinedEntries (messages.map CString.chars))))
        ∧ ∀ resetIsTaskWdt, ∃ written, consume 0 record resetIsTaskWdt out = some (0, written, false) ∧ Holds written [])
    ∧ ∀ magic record resetIsTaskWdt out, 0 < out.length →
      ∃ written said text, consume magic record resetIsTaskWdt out = some (0, written, said) ∧ written.length = out.length
        ∧ Holds written text := by
  constructor
  · obtain ⟨record, hhandler, hcollected⟩ := userHandler_collected messages l
    refine ⟨_, record, hhandler, fun out hout => ⟨?_, fun resetIsTaskWdt => ?_⟩⟩
    · obtain ⟨written, text, hconsume, hholds, hlength, htext⟩ :=
        consume_holds (if 0 < record.count then twdtListMagic else 0) record true (show 0 < out.length by omega)
      refine ⟨written, _, hconsume, hlength, ?_⟩
      have htold : text = told (joinedEntries (messages.map CString.chars)) := by
        rw [htext]
        by_cases hcount : 0 < record.count
        · rw [if_pos hcount, if_pos ⟨rfl, rfl, hcount⟩]
          exact shown_of_keeps hcollected.keeps (by omega)
        · rw [if_neg fun hvalid => hcount hvalid.2.2]
          exact (told_of_no_entry (not_not.mp fun hsome => hcount (hcollected.count.mpr hsome))).symm
      rwa [← htold]
    · obtain ⟨written, text, hconsume, hholds, -, htext⟩ := consume_holds 0 record resetIsTaskWdt (show 0 < out.length by omega)
      rw [if_neg fun hvalid => absurd hvalid.1 (by decide)] at htext
      subst htext
      exact ⟨written, hconsume, hholds⟩
  · intro magic record resetIsTaskWdt out hpos
    obtain ⟨written, text, hconsume, hholds, hlength, -⟩ := consume_holds magic record resetIsTaskWdt hpos
    exact ⟨written, _, text, hconsume, hlength, hholds⟩

/-- Garbage of the record, read after a reset by the watchdog. -/
def garbage : TwdtTaskList where
  text := List.replicate 96 'Z'
  len := 90
  count := 90
  inEntry := true
  truncated := true
  size := List.length_replicate

theorem tasks_told_two :
    (∃ magic record, userHandler [⟨"caption".toList, by decide⟩, ⟨marker, by decide⟩, ⟨"IDLE0".toList, by decide⟩,
          ⟨" (CPU 0)".toList, by decide⟩, ⟨marker, by decide⟩, ⟨"loopTask".toList, by decide⟩] garbage = some (magic, record) ∧
        (∃ written said, consume magic record true (List.replicate 99 'x') = some (0, written, said) ∧ written.length = 99
          ∧ Holds written "IDLE0 (CPU 0), loopTask".toList)
        ∧ ∀ resetIsTaskWdt, ∃ written,
          consume 0 record resetIsTaskWdt (List.replicate 99 'x') = some (0, written, false) ∧ Holds written [])
      ∧ ∃ written said text, consume twdtListMagic garbage true ['x'] = some (0, written, said) ∧ written.length = 1
        ∧ Holds written text := by
  obtain ⟨⟨magic, record, hhandler, htold⟩, hgarbage⟩ := tasks_told garbage
    [⟨"caption".toList, by decide⟩, ⟨marker, by decide⟩, ⟨"IDLE0".toList, by decide⟩, ⟨" (CPU 0)".toList, by decide⟩,
      ⟨marker, by decide⟩, ⟨"loopTask".toList, by decide⟩]
  exact ⟨⟨magic, record, hhandler, htold (List.replicate 99 'x') (by decide)⟩,
    hgarbage twdtListMagic garbage true ['x'] (by decide)⟩

end TwdtTaskList

end EspNut
