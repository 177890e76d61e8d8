import EspNut.Lib.Run
import EspNut.Server.Tokens

/-!
# The line reader

A client sends bytes, and each loop of the server reads what is available of them, 128 at most. A line end hands over the line that was read, cut to the room of the buffer. How the stream is divided among the loops makes no difference to the lines, but a line that does not fit is handed over without its end.
-/

namespace EspNut.NUTServer

open Lib

/-! ### One byte -/

/-- A byte of a client: a line end hands over what was read, printed ASCII joins it while there is room. -/
def readByte (buffer : String) (c : Char) : String × Option String :=
  if c = '\n' ∨ c = '\r' then if buffer = "" then (buffer, none) else ("", some buffer)
  else if 32 ≤ c.toNat ∧ c.toNat ≤ 126 then
    if buffer.toList.length < 256 then (buffer ++ String.singleton c, none) else (buffer, none)
  else (buffer, none)

/-- The lines that reach `processCommand`. -/
def readLines : String → List Char → List String
  | _, [] => []
  | buffer, c :: rest => (readByte buffer c).2.toList ++ readLines (readByte buffer c).1 rest

/-! ### One client -/

/-- A client's connection: what arrived and was not read, what was read, the buffer of its slot and the lines executed so far. -/
structure Reader where
  waiting : List Char
  taken : List Char
  buffer : String
  connected : Bool
  executed : List String

def Reader.start : Reader := ⟨[], [], "", true, []⟩

/-- A byte is taken from what waits; the line it ends, if any, is executed. -/
def Reader.take (c : Char) (rest : List Char) (r : Reader) : Reader × Option String :=
  let read := readByte r.buffer c
  ({ r with taken := r.taken ++ [c], waiting := rest, buffer := read.1, executed := r.executed ++ read.2.toList }, read.2)

variable (ends : String → Bool)

/-- One byte of the loop. A line that ends the session stops the connection, and nothing is available afterwards. -/
def Reader.readOne (c : Char) (rest : List Char) (r : Reader) : Reader :=
  let (r, line) := r.take c rest
  if line.any ends then { r with waiting := [], buffer := "", connected := false } else r

/-- The loop over the bytes that are available. -/
def Reader.readBytes : Nat → Reader → Reader
  | 0, r => r
  | budget + 1, r =>
      match r.waiting with
      | [] => r
      | c :: rest => Reader.readBytes budget (r.readOne ends c rest)

/-- One loop of the server after `arrived` came in. -/
def Reader.loop (r : Reader) (arrived : List Char) : Reader :=
  if r.connected = false then r else Reader.readBytes ends 128 { r with waiting := r.waiting ++ arrived }

/-- The loops of the server, each with what came in before it. -/
def Reader.run (arrivals : List (List Char)) (r : Reader) : Reader := Lib.run (Reader.loop ends) r arrivals

/-! ### The lines of a stream -/

def isLineEnd (c : Char) : Bool := c = '\n' || c = '\r'

def isPrinted (c : Char) : Bool := decide (32 ≤ c.toNat ∧ c.toNat ≤ 126)

/-- The lines of a stream that were ended and are not empty, with the part of the first one that is already known. -/
def wholeLines : List Char → List Char → List String
  | _, [] => []
  | line, c :: rest =>
      if isLineEnd c then if line = [] then wholeLines [] rest else String.ofList line :: wholeLines [] rest
      else wholeLines (line ++ [c]) rest

/-- A line cut to the room of the buffer. -/
def cut (line : String) : String := String.ofList (line.toList.take 256)

def Fits (line : String) : Prop := line.toList.length ≤ 256

instance (line : String) : Decidable (Fits line) := inferInstanceAs (Decidable (_ ≤ _))

/-- The lines executed are the lines of the stream that fit, in their order. -/
def Reader.Framed (r : Reader) : Prop := r.executed = (wholeLines [] r.taken).filter fun line => decide (Fits line)

/-! ### Lines that are cut -/

theorem readByte_end {c : Char} (h : isLineEnd c = true) (line : List Char) :
    readByte (cut (String.ofList line)) c
      = ("", if line = [] then none else some (cut (String.ofList line))) := by
  have hend : c = '\n' ∨ c = '\r' := by
    unfold isLineEnd at h
    simpa using h
  unfold readByte
  rw [if_pos hend]
  cases line with
  | nil => rfl
  | cons first rest =>
      have hne : cut (String.ofList (first :: rest)) ≠ "" := by
        intro hempty
        have hchars := congrArg String.toList hempty
        rw [cut, String.toList_ofList, String.toList_ofList] at hchars
        cases hchars
      rw [if_neg hne, if_neg (List.cons_ne_nil _ _)]

theorem readByte_printed {c : Char} (hend : isLineEnd c = false) (hprinted : isPrinted c = true) (line : List Char) :
    readByte (cut (String.ofList line)) c = (cut (String.ofList (line ++ [c])), none) := by
  have hother : ¬ (c = '\n' ∨ c = '\r') := by
    unfold isLineEnd at hend
    simpa using hend
  unfold isPrinted at hprinted
  unfold readByte
  rw [if_neg hother, if_pos (of_decide_eq_true hprinted)]
  simp only [cut, String.toList_ofList]
  split
  · rename_i hroom
    rw [List.length_take] at hroom
    rw [List.take_of_length_le (by omega), List.take_of_length_le (by rw [List.length_append, List.length_singleton]; omega),
      String.ofList_append, String.singleton_eq_ofList]
  · rename_i hfull
    rw [List.length_take] at hfull
    rw [List.take_append_of_le_length (by omega)]

/-- What the reader hands over are the lines of the stream, each cut to the buffer. -/
theorem readLines_eq {stream : List Char} (h : ∀ c ∈ stream, isLineEnd c = true ∨ isPrinted c = true) (line : List Char) :
    readLines (cut (String.ofList line)) stream = (wholeLines line stream).map cut := by
  induction stream generalizing line with
  | nil => rfl
  | cons c rest ih =>
      obtain ⟨hc, hrest⟩ := List.forall_mem_cons.mp h
      rw [readLines, wholeLines]
      split
      · rename_i hend
        have hnext := ih hrest []
        rw [readByte_end hend]
        dsimp only
        split
        · exact hnext
        · rw [List.map_cons, ← hnext]
          rfl
      · rename_i hend
        have hprinted : isPrinted c = true := hc.resolve_left hend
        rw [readByte_printed (Bool.not_eq_true _ ▸ hend) hprinted, ih hrest]
        rfl

theorem cut_of_fits {line : String} (h : Fits line) : cut line = line := by
  rw [cut, List.take_of_length_le h, String.ofList_toList]

/-- Cutting the lines keeps those that fit, and adds the beginning of each one that does not. -/
theorem map_cut_iff (lines : List String) :
    lines.map cut = lines.filter (fun line => decide (Fits line)) ↔ ∀ line ∈ lines, Fits line := by
  constructor
  · intro h
    have hlength := congrArg List.length h
    rw [List.length_map] at hlength
    have hall := List.filter_eq_self.mp (List.filter_sublist.eq_of_length hlength.symm)
    exact fun line hline => of_decide_eq_true (hall line hline)
  · intro h
    rw [List.filter_eq_self.mpr fun line hline => decide_eq_true (h line hline)]
    exact (List.map_congr_left fun line hline => cut_of_fits (h line hline)).trans (List.map_id lines)

/-! ### The loops -/

variable {ends} {arrived : List Char} {r : Reader}

/-- The lines executed and the buffer say what was read, whatever the stream goes on with. Only a line that ends the session stops the connection. -/
structure Reader.ReadSoFar (ends : String → Bool) (arrived : List Char) (r : Reader) : Prop where
  lines : ∀ future, readLines "" (r.taken ++ future) = r.executed ++ readLines r.buffer future
  sent : r.taken <+: arrived
  all : r.connected = true → r.taken ++ r.waiting = arrived
  stopped : r.connected = false → r.waiting = []
  ended : r.connected = false → ∃ line ∈ r.executed, ends line = true

theorem buffer_of_line {buffer line : String} {c : Char} (h : (readByte buffer c).2 = some line) :
    (readByte buffer c).1 = "" := by
  unfold readByte at h ⊢
  split
  · rename_i hend
    rw [if_pos hend] at h
    split
    · assumption
    · rfl
  · rename_i hend
    rw [if_neg hend] at h
    split at h
    · split at h <;> cases h
    · cases h

theorem Reader.ReadSoFar.readOne (h : r.ReadSoFar ends arrived) {c : Char} {rest : List Char} (hwaiting : r.waiting = c :: rest) :
    (r.readOne ends c rest).ReadSoFar ends arrived := by
  have hconnected : r.connected = true := by
    by_contra hclosed
    rw [h.stopped (Bool.not_eq_true _ ▸ hclosed)] at hwaiting
    cases hwaiting
  have harrived : r.taken ++ [c] ++ rest = arrived := by
    rw [List.append_assoc, List.singleton_append, ← hwaiting]
    exact h.all hconnected
  have hlines : ∀ future, readLines "" (r.taken ++ [c] ++ future)
      = r.executed ++ (readByte r.buffer c).2.toList ++ readLines (readByte r.buffer c).1 future := by
    intro future
    rw [List.append_assoc, h.lines, List.append_assoc]
    rfl
  unfold Reader.readOne Reader.take
  dsimp only
  split
  · rename_i hends
    cases hline : (readByte r.buffer c).2 with
    | none =>
        rw [hline] at hends
        cases hends
    | some line =>
        refine ⟨fun future => ?_, ⟨rest, harrived⟩, fun hfalse => (by cases hfalse), fun _ => rfl, fun _ => ?_⟩
        · have hfuture := hlines future
          rwa [buffer_of_line hline, hline] at hfuture
        · rw [hline] at hends
          exact ⟨line, List.mem_append_right _ List.mem_cons_self, hends⟩
  · have hopen : ¬ r.connected = false := by
      rw [hconnected]
      decide
    exact ⟨hlines, ⟨rest, harrived⟩, fun _ => harrived, fun hfalse => absurd hfalse hopen, fun hfalse => absurd hfalse hopen⟩

theorem Reader.ReadSoFar.readBytes (h : r.ReadSoFar ends arrived) (budget : Nat) :
    (Reader.readBytes ends budget r).ReadSoFar ends arrived := by
  induction budget generalizing r with
  | zero => exact h
  | succ budget ih =>
      unfold Reader.readBytes
      split
      · exact h
      · rename_i c rest hwaiting
        exact ih (h.readOne hwaiting)

theorem Reader.ReadSoFar.loop (h : r.ReadSoFar ends arrived) (more : List Char) :
    (r.loop ends more).ReadSoFar ends (arrived ++ more) := by
  unfold Reader.loop
  split
  · rename_i hclosed
    exact ⟨h.lines, h.sent.trans (List.prefix_append _ _), fun hopen => absurd (hclosed.symm.trans hopen) (by decide),
      h.stopped, h.ended⟩
  · rename_i hopen
    have hconnected : r.connected = true := Bool.not_eq_false _ ▸ hopen
    apply Reader.ReadSoFar.readBytes
    refine ⟨h.lines, h.sent.trans (List.prefix_append _ _), fun _ => ?_, fun hclosed => absurd hclosed hopen,
      fun hclosed => absurd hclosed hopen⟩
    show r.taken ++ (r.waiting ++ more) = arrived ++ more
    rw [← List.append_assoc, h.all hconnected]

variable (ends)

theorem readSoFar_run (arrivals : List (List Char)) : (Reader.run ends arrivals Reader.start).ReadSoFar ends arrivals.flatten := by
  refine Lib.run_history (P := fun (history : List (List Char)) (r : Reader) => r.ReadSoFar ends history.flatten) ?_ ?_ arrivals
  · exact ⟨fun _ => rfl, List.prefix_rfl, fun _ => rfl, fun _ => rfl, fun hclosed => by cases hclosed⟩
  · intro history r more h
    rw [List.flatten_append, List.flatten_singleton]
    exact h.loop more

/-- After any loops the lines executed are the lines read so far, cut to the buffer. -/
theorem executed_run {arrivals : List (List Char)}
    (h : ∀ chars ∈ arrivals, ∀ c ∈ chars, isLineEnd c = true ∨ isPrinted c = true) :
    (Reader.run ends arrivals Reader.start).executed
      = (wholeLines [] (Reader.run ends arrivals Reader.start).taken).map cut := by
  have hread := readSoFar_run ends arrivals
  have hlines := hread.lines []
  rw [List.append_nil, readLines, List.append_nil] at hlines
  rw [← hlines]
  refine readLines_eq (fun c hc => ?_) []
  obtain ⟨chars, hchars, hmem⟩ := List.mem_flatten.mp (hread.sent.subset hc)
  exact h chars hchars c hmem

/-! ### Nothing stays unread -/

theorem length_readOne_le (c : Char) (rest : List Char) (r : Reader) :
    (r.readOne ends c rest).waiting.length ≤ rest.length := by
  unfold Reader.readOne Reader.take
  dsimp only
  split
  · exact Nat.zero_le _
  · exact Nat.le_refl _

theorem length_readBytes_le (budget : Nat) (r : Reader) :
    (Reader.readBytes ends budget r).waiting.length ≤ r.waiting.length := by
  induction budget generalizing r with
  | zero => exact Nat.le_refl _
  | succ budget ih =>
      unfold Reader.readBytes
      split
      · exact Nat.le_refl _
      · rename_i c rest hwaiting
        have hone := length_readOne_le ends c rest r
        rw [hwaiting, List.length_cons]
        exact (ih _).trans (by omega)

theorem length_loop_le (hclosed : r.connected = false → r.waiting = []) :
    (r.loop ends []).waiting.length ≤ r.waiting.length - 1 := by
  unfold Reader.loop
  split
  · rename_i hstopped
    rw [hclosed hstopped]
    exact Nat.le_refl _
  · have hself : ({ r with waiting := r.waiting ++ [] } : Reader) = r := by rw [List.append_nil]
    rw [hself]
    unfold Reader.readBytes
    split
    · rename_i hnone
      rw [hnone]
      exact Nat.le_refl _
    · rename_i c rest hwaiting
      have hone := length_readOne_le ends c rest r
      have hrest := length_readBytes_le ends 127 (r.readOne ends c rest)
      rw [hwaiting, List.length_cons]
      exact hrest.trans hone

/-- Loops without new bytes read the rest of the stream. -/
theorem drained (h : r.ReadSoFar ends arrived) {n : Nat} (hn : r.waiting.length ≤ n) :
    (r.run ends (List.replicate n [])).waiting = [] := by
  induction n generalizing arrived r with
  | zero => exact List.length_eq_zero_iff.mp (Nat.le_zero.mp hn)
  | succ n ih =>
      have hless := length_loop_le ends h.stopped
      exact ih (h.loop []) (by omega)

/-! ### The lines executed -/

/-- In every state the lines executed are the lines read that fit, in their order, exactly when none of those read was longer. Each byte is read in its turn, and none stays unread. -/
theorem framed_iff (arrivals : List (List Char))
    (h : ∀ chars ∈ arrivals, ∀ c ∈ chars, isLineEnd c = true ∨ isPrinted c = true) :
    ((Reader.run ends arrivals Reader.start).Framed
        ↔ ∀ line ∈ wholeLines [] (Reader.run ends arrivals Reader.start).taken, Fits line)
      ∧ (Reader.run ends arrivals Reader.start).taken <+: arrivals.flatten
      ∧ ((Reader.run ends arrivals Reader.start).connected = true →
          (Reader.run ends arrivals Reader.start).taken ++ (Reader.run ends arrivals Reader.start).waiting = arrivals.flatten)
      ∧ ((Reader.run ends arrivals Reader.start).run ends
          (List.replicate (Reader.run ends arrivals Reader.start).waiting.length [])).waiting = [] := by
  have hread := readSoFar_run ends arrivals
  refine ⟨?_, hread.sent, hread.all, drained ends hread (Nat.le_refl _)⟩
  rw [← map_cut_iff, ← executed_run ends h]
  exact Iff.rfl

/-- The lines after which the server closes the session. -/
def endsSession (line : String) : Bool := (splitTokens line).head?.any fun cmd => decide (Text.upper cmd = "LOGOUT")

/-- Two lines in three pieces, with the CR and the LF of the first one apart. -/
theorem framed_two_lines :
    (Reader.run endsSession ["VER\r".toList, "\nLIST U".toList, "PS\n".toList] Reader.start).Framed
      ∧ (Reader.run endsSession ["VER\r".toList, "\nLIST U".toList, "PS\n".toList] Reader.start).executed
        = ["VER", "LIST UPS"] := by
  have hchars : ∀ chars ∈ ["VER\r".toList, "\nLIST U".toList, "PS\n".toList],
      ∀ c ∈ chars, isLineEnd c = true ∨ isPrinted c = true := by simp [isLineEnd, isPrinted]
  have hfits : ∀ line ∈ wholeLines []
      (Reader.run endsSession ["VER\r".toList, "\nLIST U".toList, "PS\n".toList] Reader.start).taken, Fits line := by
    decide +kernel
  exact ⟨(framed_iff endsSession _ hchars).1.mpr hfits, by decide +kernel⟩

/-! ### A line that does not fit -/

theorem wholeLines_append {more : List Char} (h : ∀ c ∈ more, isLineEnd c = false) (line rest : List Char) :
    wholeLines line (more ++ rest) = wholeLines (line ++ more) rest := by
  induction more generalizing line with
  | nil => rw [List.append_nil]; rfl
  | cons c more ih =>
      obtain ⟨hc, hmore⟩ := List.forall_mem_cons.mp h
      rw [List.cons_append, wholeLines, if_neg (Bool.not_eq_true _ ▸ hc), ih hmore, List.append_assoc]
      rfl

/-- A line that arrives at once and ends no session is executed as far as it fits. -/
theorem executed_line {line : List Char} (hne : line ≠ [])
    (h : ∀ c ∈ line, isLineEnd c = false ∧ isPrinted c = true) :
    (Reader.run (fun _ => false) ((line ++ ['\n']) :: List.replicate (line.length + 1) []) Reader.start).taken = line ++ ['\n']
      ∧ (Reader.run (fun _ => false) ((line ++ ['\n']) :: List.replicate (line.length + 1) []) Reader.start).executed
        = [cut (String.ofList line)] := by
  have hopen : ∀ {arrived : List Char} {r : Reader}, r.ReadSoFar (fun _ => false) arrived → r.connected = true := by
    intro arrived r hr
    by_contra hclosed
    obtain ⟨_, -, hends⟩ := hr.ended (Bool.not_eq_true _ ▸ hclosed)
    cases hends
  have hflat : ((line ++ ['\n']) :: List.replicate (line.length + 1) []).flatten = line ++ ['\n'] := by simp
  have hread := readSoFar_run (fun _ => false) ((line ++ ['\n']) :: List.replicate (line.length + 1) [])
  have hfirst := readSoFar_run (fun _ => false) [line ++ ['\n']]
  have hshort : (Reader.run (fun _ => false) [line ++ ['\n']] Reader.start).waiting.length ≤ line.length + 1 := by
    have hlength := congrArg List.length (hfirst.all (hopen hfirst))
    rw [List.length_append, List.flatten_singleton, List.length_append, List.length_singleton] at hlength
    omega
  have hwaiting : (Reader.run (fun _ => false) ((line ++ ['\n']) :: List.replicate (line.length + 1) [])
      Reader.start).waiting = [] := drained _ hfirst hshort
  have htaken := hread.all (hopen hread)
  rw [hwaiting, List.append_nil, hflat] at htaken
  refine ⟨htaken, ?_⟩
  rw [executed_run _ ?_, htaken, wholeLines_append (fun c hc => (h c hc).1), List.nil_append]
  · rw [wholeLines, if_pos (by decide), if_neg hne]
    rfl
  · intro chars hchars c hc
    have hmem : c ∈ line ++ ['\n'] := by
      rw [← hflat]
      exact List.mem_flatten.mpr ⟨chars, hchars, hc⟩
    rcases List.mem_append.mp hmem with hline | hend
    · exact Or.inr (h c hline).2
    · rw [List.mem_singleton.mp hend]
      exact Or.inl rfl

/-- 258 characters that are no command. -/
def longLine : List Char := "LIST".toList ++ (List.replicate 249 ' ' ++ "UPSES".toList)

theorem splitFrom_blanks (n : Nat) (rest : List Char) :
    splitFrom [] false false (List.replicate n ' ' ++ rest) = splitFrom [] false false rest := by
  induction n with
  | zero => rfl
  | succ n ih =>
      rw [List.replicate_succ, List.cons_append, splitFrom.eq_def]
      exact ih

/-- The first 256 characters of the line are another command, and they are executed. -/
theorem long_line_executed :
    wholeLines [] (longLine ++ ['\n']) = [String.ofList longLine] ∧ ¬ Fits (String.ofList longLine)
      ∧ (Reader.run (fun _ => false) ((longLine ++ ['\n']) :: List.replicate (longLine.length + 1) []) Reader.start).executed
        = [String.ofList (longLine.take 256)]
      ∧ splitTokens (String.ofList longLine) = ["LIST", "UPSES"]
      ∧ splitTokens (String.ofList (longLine.take 256)) = ["LIST", "UPS"]
      ∧ ¬ (Reader.run (fun _ => false) ((longLine ++ ['\n']) :: List.replicate (longLine.length + 1) [])
          Reader.start).Framed := by
  have hchars : ∀ c ∈ longLine, isLineEnd c = false ∧ isPrinted c = true := by
    unfold longLine
    simp only [List.forall_mem_append, List.forall_mem_replicate]
    refine ⟨?_, Or.inr (by decide), ?_⟩
    · simp [isLineEnd, isPrinted]
    · simp [isLineEnd, isPrinted]
  have hlength : longLine.length = 258 := by
    unfold longLine
    rw [List.length_append, List.length_append, List.length_replicate]
    rfl
  have hne : longLine ≠ [] := List.cons_ne_nil _ _
  obtain ⟨htaken, hexecuted⟩ := executed_line hne hchars
  have hline : wholeLines [] (longLine ++ ['\n']) = [String.ofList longLine] := by
    rw [wholeLines_append (fun c hc => (hchars c hc).1), List.nil_append, wholeLines, if_pos (by decide), if_neg hne]
    rfl
  have htake : longLine.take 256 = "LIST".toList ++ (List.replicate 249 ' ' ++ "UPS".toList) := by decide +kernel
  have hcut : cut (String.ofList longLine) = String.ofList (longLine.take 256) := by rw [cut, String.toList_ofList]
  have hlong : ¬ Fits (String.ofList longLine) := by
    rw [Fits, String.toList_ofList, hlength]
    decide
  have htokens : ∀ word : List Char, splitTokens (String.ofList ("LIST".toList ++ (List.replicate 249 ' ' ++ word)))
      = "LIST" :: splitFrom [] false false word := by
    intro word
    unfold splitTokens
    rw [String.toList_ofList, splitFrom_plain [] _ false (fun _ => by decide) (by decide) (by decide)]
    rw [show (249 : Nat) = 248 + 1 from rfl, List.replicate_succ, List.cons_append, splitFrom.eq_def]
    dsimp only
    rw [if_neg (by decide), if_neg (by decide), if_pos ⟨rfl, rfl⟩, if_pos (Or.inl (by decide)), splitFrom_blanks]
    rfl
  refine ⟨hline, hlong, hexecuted.trans (by rw [hcut]), (htokens _).trans (by decide +kernel), ?_, ?_⟩
  · rw [htake]
    exact (htokens "UPS".toList).trans (by decide +kernel)
  · intro hframed
    rw [Reader.Framed, hexecuted, htaken, hline, List.filter_cons_of_neg (by simpa using hlong)] at hframed
    cases hframed

end EspNut.NUTServer
