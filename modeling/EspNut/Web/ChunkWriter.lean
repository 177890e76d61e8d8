import EspNut.Lib.Bits
import Mathlib.Data.List.Basic
import Mathlib.Data.List.Induction

/-!
# Output in blocks

A writer collects bytes in a buffer of the caller and gives the buffer to a sink each time it is full. Nothing is lost between the blocks, and no block is empty, since an empty one would end a chunked response.
-/

namespace EspNut

open Lib

/-- `buf` is the memory behind `_buf`, and `sent` are the blocks the sink was given. -/
structure ChunkWriter where
  buf : List Byte
  cap : Nat
  len : Nat
  total : Nat
  sent : List (List Byte)
  deriving DecidableEq

namespace ChunkWriter

/-! ### The writer -/

def new (buf : List Byte) (cap : Nat) : ChunkWriter := { buf, cap, len := 0, total := 0, sent := [] }

def waiting (w : ChunkWriter) : List Byte := w.buf.take w.len

def flush (w : ChunkWriter) : ChunkWriter :=
  if w.len = 0 then w else { w with sent := w.sent ++ [w.waiting], len := 0 }

def write (w : ChunkWriter) (c : Byte) : ChunkWriter :=
  let w := { w with buf := w.buf.set w.len c, len := w.len + 1, total := w.total + 1 }
  if w.len = w.cap then w.flush else w

/-- `memcpy(buf + place, bytes, n)` for the `n` bytes given. -/
def copyTo (buf : List Byte) (place : Nat) (bytes : List Byte) : List Byte :=
  buf.take place ++ bytes ++ buf.drop (place + bytes.length)

/-- One round of the loop over a block of bytes, with the bytes that are left. -/
def writeRound (w : ChunkWriter) (left : List Byte) : ChunkWriter × List Byte :=
  let room := w.cap - w.len
  let n := if left.length < room then left.length else room
  let w := { w with buf := copyTo w.buf w.len (left.take n), len := w.len + n }
  (if w.len = w.cap then w.flush else w, left.drop n)

/-- The loop, left early after a number of rounds. -/
def writeRounds : Nat → ChunkWriter → List Byte → ChunkWriter × List Byte
  | 0, w, left => (w, left)
  | _ + 1, w, [] => (w, [])
  | k + 1, w, left => writeRounds k (writeRound w left).1 (writeRound w left).2

/-- A round takes at least one byte, so there are no more rounds than bytes; none for a loop that is not over by then. -/
def writeBlock (w : ChunkWriter) (s : List Byte) : Option ChunkWriter :=
  match writeRounds s.length w s with
  | (w, []) => some { w with total := w.total + s.length }
  | _ => none

inductive Call where
  | byte (c : Byte)
  | block (s : List Byte)
  | flush
  deriving DecidableEq

def call (w : ChunkWriter) : Call → Option ChunkWriter
  | .byte c => some (w.write c)
  | .block s => w.writeBlock s
  | .flush => some w.flush

def run (w : ChunkWriter) (calls : List Call) : Option ChunkWriter := calls.foldlM call w

def Call.bytes : Call → List Byte
  | .byte c => [c]
  | .block s => s
  | .flush => []

def written (calls : List Call) : List Byte := calls.flatMap Call.bytes

/-! ### What a write does -/

/-- Between two calls the buffer has its size, and there is room in it. -/
structure HasRoom (cap : Nat) (w : ChunkWriter) : Prop where
  capacity : w.cap = cap
  size : w.buf.length = cap
  room : w.len < cap

/-- All that was sent and all that waits. -/
def output (w : ChunkWriter) : List Byte := w.sent.flatten ++ w.waiting

/-- The bytes went behind the output, and only full blocks were sent. -/
structure Filled (cap : Nat) (w : ChunkWriter) (bytes : List Byte) (w' : ChunkWriter) : Prop where
  room : HasRoom cap w'
  output : w'.output = w.output ++ bytes
  sent : ∃ blocks, w'.sent = w.sent ++ blocks ∧ ∀ block ∈ blocks, block.length = cap

section Step

variable {cap : Nat} {w w' w'' : ChunkWriter} {bytes more left : List Byte}

theorem Filled.refl (h : HasRoom cap w) : Filled cap w [] w :=
  ⟨h, (List.append_nil _).symm, [], (List.append_nil _).symm, nofun⟩

theorem Filled.trans (h : Filled cap w bytes w') (h' : Filled cap w' more w'') : Filled cap w (bytes ++ more) w'' := by
  obtain ⟨blocks, hsent, hfull⟩ := h.sent
  obtain ⟨blocks', hsent', hfull'⟩ := h'.sent
  refine ⟨h'.room, ?_, blocks ++ blocks', ?_, ?_⟩
  · rw [h'.output, h.output, List.append_assoc]
  · rw [hsent', hsent, List.append_assoc]
  · intro block hblock
    rcases List.mem_append.mp hblock with hold | hnew
    · exact hfull block hold
    · exact hfull' block hnew

/-- Bytes are put behind those that wait, and a buffer that is full is sent. -/
theorem filled_of_copy (h : HasRoom cap w) (bytes : List Byte) (hfit : bytes.length ≤ cap - w.len) (total : Nat) {added : ChunkWriter}
    (hadded : added = { w with buf := copyTo w.buf w.len bytes, len := w.len + bytes.length, total }) :
    Filled cap w bytes (if added.len = added.cap then added.flush else added) := by
  have hroom := h.room
  have hsize := h.size
  have hwaiting : added.waiting = w.waiting ++ bytes := by
    rw [hadded]
    have hfront : (w.buf.take w.len ++ bytes).length = w.len + bytes.length := by
      rw [List.length_append, List.length_take]
      omega
    rw [waiting, copyTo, List.take_append_of_le_length hfront.ge, List.take_of_length_le hfront.le]
    rfl
  have hlength : added.buf.length = cap := by
    rw [hadded]
    simp only [copyTo, List.length_append, List.length_take, List.length_drop]
    omega
  have hcapacity : added.cap = cap := hadded ▸ h.capacity
  have hsent : added.sent = w.sent := hadded ▸ rfl
  have hlen : added.len = w.len + bytes.length := hadded ▸ rfl
  rw [hcapacity]
  by_cases hfull : added.len = cap
  · rw [if_pos hfull, flush, if_neg (by omega)]
    refine ⟨⟨hcapacity, hlength, by dsimp only; omega⟩, ?_, [w.waiting ++ bytes], ?_, ?_⟩
    · simpa [output, waiting, hsent] using hwaiting
    · rw [hsent, hwaiting]
    · intro block hblock
      rw [List.mem_singleton.mp hblock, ← hwaiting, waiting, hfull, List.length_take, hlength, Nat.min_self]
  · rw [if_neg hfull]
    refine ⟨⟨hcapacity, hlength, by omega⟩, ?_, [], ?_, nofun⟩
    · rw [output, output, hsent, hwaiting, List.append_assoc]
    · rw [hsent, List.append_nil]

theorem filled_write (h : HasRoom cap w) (c : Byte) : Filled cap w [c] (w.write c) := by
  have hroom := h.room
  have hsize := h.size
  have hset : w.buf.set w.len c = copyTo w.buf w.len [c] := by
    rw [copyTo, List.set_eq_take_append_cons_drop, if_pos (by omega), List.append_assoc]
    rfl
  rw [write, hset]
  exact filled_of_copy h [c] (by rw [List.length_singleton]; omega) (w.total + 1) rfl

/-- A round takes as much as there is room for. -/
theorem filled_writeRound (h : HasRoom cap w) (hleft : left ≠ []) :
    ∃ bytes, left = bytes ++ (writeRound w left).2 ∧ bytes ≠ [] ∧ Filled cap w bytes (writeRound w left).1 := by
  have hroom := h.room
  have hpos := List.length_pos_iff.mpr hleft
  rw [writeRound, h.capacity]
  dsimp only
  generalize hn : (if left.length < cap - w.len then left.length else cap - w.len) = n
  have hbound : n ≤ cap - w.len ∧ n ≤ left.length ∧ 0 < n := by
    split at hn <;> omega
  have hlength : (left.take n).length = n := by
    rw [List.length_take]
    omega
  refine ⟨left.take n, (List.take_append_drop n left).symm, ?_, ?_⟩
  · apply List.ne_nil_of_length_pos
    omega
  · have hcopy := filled_of_copy h (left.take n) (by omega) w.total rfl
    rw [hlength, h.capacity] at hcopy
    exact hcopy

/-- After some rounds a front of the bytes is in the output. -/
theorem filled_writeRounds (h : HasRoom cap w) (k : Nat) (left : List Byte) :
    ∃ bytes, left = bytes ++ (writeRounds k w left).2 ∧ Filled cap w bytes (writeRounds k w left).1 := by
  induction k generalizing w left with
  | zero => exact ⟨[], rfl, .refl h⟩
  | succ k ih =>
      cases left with
      | nil => exact ⟨[], rfl, .refl h⟩
      | cons c rest =>
          obtain ⟨bytes, hleft, -, hfilled⟩ := filled_writeRound h (List.cons_ne_nil c rest)
          obtain ⟨more, hrest, hmore⟩ := ih hfilled.room (writeRound w (c :: rest)).2
          refine ⟨bytes ++ more, ?_, hfilled.trans hmore⟩
          rw [List.append_assoc]
          exact hleft.trans (congrArg (bytes ++ ·) hrest)

theorem writeRounds_over (h : HasRoom cap w) {k : Nat} (hk : left.length ≤ k) : (writeRounds k w left).2 = [] := by
  induction k generalizing w left with
  | zero =>
      rw [List.length_eq_zero_iff.mp (Nat.le_zero.mp hk)]
      rfl
  | succ k ih =>
      cases left with
      | nil => rfl
      | cons c rest =>
          obtain ⟨bytes, hleft, hsome, hfilled⟩ := filled_writeRound h (List.cons_ne_nil c rest)
          have hlength := congrArg List.length hleft
          have hpos := List.length_pos_iff.mpr hsome
          rw [List.length_append] at hlength
          exact ih hfilled.room (by omega)

theorem filled_writeBlock (h : HasRoom cap w) (s : List Byte) : ∃ w', w.writeBlock s = some w' ∧ Filled cap w s w' := by
  obtain ⟨bytes, hbytes, hfilled⟩ := filled_writeRounds h s.length s
  have hover := writeRounds_over h (le_refl s.length)
  unfold writeBlock
  generalize writeRounds s.length w s = result at hbytes hfilled hover ⊢
  obtain ⟨w', left⟩ := result
  obtain rfl : left = [] := hover
  obtain rfl : s = bytes := hbytes.trans (List.append_nil bytes)
  exact ⟨_, rfl, ⟨hfilled.room.capacity, hfilled.room.size, hfilled.room.room⟩, hfilled.output, hfilled.sent⟩

/-- A flush sends what waits, if anything. -/
theorem flush_cases (h : HasRoom cap w) :
    (w.waiting = [] ∧ w.flush = w)
      ∨ (w.waiting ≠ [] ∧ w.flush = { w with sent := w.sent ++ [w.waiting], len := 0 }) := by
  by_cases hlen : w.len = 0
  · exact Or.inl ⟨by rw [waiting, hlen, List.take_zero], if_pos hlen⟩
  · have hroom := h.room
    refine Or.inr ⟨?_, if_neg hlen⟩
    apply List.ne_nil_of_length_pos
    rw [waiting, List.length_take, h.size]
    omega

end Step

/-! ### Runs -/

/-- What was written is in the output, in blocks that are not empty and not longer than the buffer. -/
structure Lossless (cap : Nat) (bytes : List Byte) (w : ChunkWriter) : Prop where
  output : w.output = bytes
  notEmpty : [] ∉ w.sent
  fits : ∀ block ∈ w.sent, block.length ≤ cap

/-- No flush has bytes written before it and bytes written behind it. -/
def NoFlushBetween (calls : List Call) : Prop :=
  ∀ before after, calls = before ++ .flush :: after → written before = [] ∨ written after = []

/-- No flush has bytes written before it. -/
def NoFlushBehind (calls : List Call) : Prop := ∀ before after, calls = before ++ .flush :: after → written before = []

section Run

variable {cap : Nat} {buf bytes more : List Byte} {w w' : ChunkWriter} {calls : List Call} {c : Call}

theorem written_append (calls more : List Call) : written (calls ++ more) = written calls ++ written more :=
  List.flatMap_append

theorem written_singleton (c : Call) : written [c] = c.bytes := by
  rw [written, List.flatMap_singleton]

theorem hasRoom_new (hcap : 0 < cap) (hbuf : buf.length = cap) : HasRoom cap (new buf cap) := ⟨rfl, hbuf, hcap⟩

theorem lossless_new (buf : List Byte) (cap : Nat) : Lossless cap [] (new buf cap) :=
  ⟨by simp [ChunkWriter.output, waiting, new], nofun, nofun⟩

theorem Lossless.fill (h : Lossless cap bytes w) (hfilled : Filled cap w more w') : Lossless cap (bytes ++ more) w' := by
  obtain ⟨blocks, hsent, hfull⟩ := hfilled.sent
  have hcap := Nat.zero_lt_of_lt hfilled.room.room
  refine ⟨by rw [hfilled.output, h.output], ?_, ?_⟩
  · rw [hsent, List.mem_append]
    rintro (hold | hnew)
    · exact h.notEmpty hold
    · have hlength := hfull [] hnew
      rw [List.length_nil] at hlength
      omega
  · intro block hblock
    rw [hsent] at hblock
    rcases List.mem_append.mp hblock with hold | hnew
    · exact h.fits block hold
    · exact (hfull block hnew).le

theorem Lossless.flush (h : Lossless cap bytes w) (hroom : HasRoom cap w) : Lossless cap bytes w.flush := by
  rcases flush_cases hroom with ⟨-, hflush⟩ | ⟨hsome, hflush⟩
  · rw [hflush]
    exact h
  · rw [hflush]
    refine ⟨?_, ?_, ?_⟩
    · rw [← h.output]
      simp [ChunkWriter.output, waiting]
    · rw [List.mem_append, List.mem_singleton]
      rintro (hold | hnew)
      · exact h.notEmpty hold
      · exact hsome hnew.symm
    · intro block hblock
      rcases List.mem_append.mp hblock with hold | hnew
      · exact h.fits block hold
      · rw [List.mem_singleton.mp hnew, waiting, List.length_take, hroom.size]
        exact Nat.min_le_right _ _

theorem HasRoom.flush (h : HasRoom cap w) : HasRoom cap w.flush := by
  unfold ChunkWriter.flush
  split
  · exact h
  · exact ⟨h.capacity, h.size, Nat.zero_lt_of_lt h.room⟩

/-- A call that is no flush puts its bytes behind the output. -/
theorem filled_of_call (h : HasRoom cap w) (hc : c ≠ .flush) : ∃ w', call w c = some w' ∧ Filled cap w c.bytes w' := by
  cases c with
  | byte c => exact ⟨w.write c, rfl, filled_write h c⟩
  | block s => exact filled_writeBlock h s
  | flush => exact absurd rfl hc

theorem run_append_singleton (w : ChunkWriter) (calls : List Call) (c : Call) :
    run w (calls ++ [c]) = (run w calls).bind (call · c) := by
  rw [run, run, List.foldlM_append]
  apply congrArg (Option.bind (calls.foldlM call w))
  funext between
  rw [List.foldlM_cons]
  cases call between c <;> rfl

/-- Every sequence of calls is carried out, and nothing is lost on the way. -/
theorem run_lossless (hcap : 0 < cap) (hbuf : buf.length = cap) (calls : List Call) :
    ∃ w, run (new buf cap) calls = some w ∧ HasRoom cap w ∧ Lossless cap (written calls) w := by
  induction calls using List.reverseRecOn with
  | nil => exact ⟨new buf cap, rfl, hasRoom_new hcap hbuf, lossless_new buf cap⟩
  | append_singleton calls c ih =>
      obtain ⟨w, hrun, hroom, hlossless⟩ := ih
      rw [run_append_singleton, hrun, written_append, written_singleton]
      by_cases hc : c = .flush
      · subst hc
        refine ⟨w.flush, rfl, hroom.flush, ?_⟩
        rw [Call.bytes, List.append_nil]
        exact hlossless.flush hroom
      · obtain ⟨w', hcall, hfilled⟩ := filled_of_call hroom hc
        exact ⟨w', hcall, hfilled.room, hlossless.fill hfilled⟩

theorem NoFlushBehind.init (h : NoFlushBehind (calls ++ [c])) : NoFlushBehind calls := by
  intro before after hcalls
  apply h before (after ++ [c])
  rw [hcalls, List.append_assoc, List.cons_append]

theorem NoFlushBetween.init (h : NoFlushBetween (calls ++ [c])) (hbytes : c.bytes = []) : NoFlushBetween calls := by
  intro before after hcalls
  have hsplit := h before (after ++ [c]) (by rw [hcalls, List.append_assoc, List.cons_append])
  rwa [written_append, written_singleton, hbytes, List.append_nil] at hsplit

theorem NoFlushBetween.behind (h : NoFlushBetween (calls ++ [c])) (hbytes : c.bytes ≠ []) : NoFlushBehind calls := by
  intro before after hcalls
  have hsplit := h before (after ++ [c]) (by rw [hcalls, List.append_assoc, List.cons_append])
  rw [written_append, written_singleton] at hsplit
  rcases hsplit with hbefore | hafter
  · exact hbefore
  · exact absurd (List.append_eq_nil_iff.mp hafter).2 hbytes

theorem Filled.full (h : Filled cap w bytes w') (hfull : ∀ block ∈ w.sent, block.length = cap) :
    ∀ block ∈ w'.sent, block.length = cap := by
  obtain ⟨blocks, hsent, hblocks⟩ := h.sent
  intro block hblock
  rw [hsent] at hblock
  rcases List.mem_append.mp hblock with hold | hnew
  · exact hfull block hold
  · exact hblocks block hnew

theorem waiting_of_output (h : w.output = []) : w.waiting = [] := (List.append_eq_nil_iff.mp h).2

/-- While no flush had anything to send all blocks are full. -/
theorem full_of_noFlushBehind (hcap : 0 < cap) (hbuf : buf.length = cap) (h : NoFlushBehind calls)
    (hrun : run (new buf cap) calls = some w) : ∀ block ∈ w.sent, block.length = cap := by
  induction calls using List.reverseRecOn generalizing w with
  | nil =>
      obtain rfl := Option.some.inj hrun
      exact nofun
  | append_singleton calls c ih =>
      obtain ⟨w₁, hrun₁, hroom, hlossless⟩ := run_lossless hcap hbuf calls
      have hfull := ih h.init hrun₁
      rw [run_append_singleton, hrun₁, Option.bind_some] at hrun
      by_cases hc : c = .flush
      · subst hc
        have hnothing := waiting_of_output (hlossless.output.trans (h calls [] rfl))
        obtain rfl := Option.some.inj hrun
        rcases flush_cases hroom with ⟨-, hflush⟩ | ⟨hsome, -⟩
        · rw [hflush]
          exact hfull
        · exact absurd hnothing hsome
      · obtain ⟨w₂, hcall, hfilled⟩ := filled_of_call hroom hc
        obtain rfl := Option.some.inj (hcall.symm.trans hrun)
        exact hfilled.full hfull

theorem call_of_noBytes (h : c.bytes = []) (hc : c ≠ .flush) (w : ChunkWriter) : call w c = some w := by
  cases c with
  | byte c => cases h
  | block s =>
      obtain rfl : s = [] := h
      rfl
  | flush => exact absurd rfl hc

/-- Without flushes in between, all blocks are full but one that a flush sent at last. -/
theorem full_of_noFlushBetween (hcap : 0 < cap) (hbuf : buf.length = cap) (h : NoFlushBetween calls)
    (hrun : run (new buf cap) calls = some w) :
    (∀ block ∈ w.sent, block.length = cap) ∨ (w.waiting = [] ∧ ∀ block ∈ w.sent.dropLast, block.length = cap) := by
  induction calls using List.reverseRecOn generalizing w with
  | nil =>
      obtain rfl := Option.some.inj hrun
      exact Or.inl nofun
  | append_singleton calls c ih =>
      obtain ⟨w₁, hrun₁, hroom, hlossless⟩ := run_lossless hcap hbuf calls
      rw [run_append_singleton, hrun₁, Option.bind_some] at hrun
      by_cases hbytes : c.bytes = []
      · have hbefore := ih (h.init hbytes) hrun₁
        by_cases hc : c = .flush
        · subst hc
          obtain rfl := Option.some.inj hrun
          rcases flush_cases hroom with ⟨-, hflush⟩ | ⟨hsome, hflush⟩
          · rw [hflush]
            exact hbefore
          · rcases hbefore with hfull | ⟨hnothing, -⟩
            · rw [hflush]
              refine Or.inr ⟨by rw [waiting, List.take_zero], ?_⟩
              rw [List.dropLast_concat]
              exact hfull
            · exact absurd hnothing hsome
        · rw [call_of_noBytes hbytes hc] at hrun
          exact Option.some.inj hrun ▸ hbefore
      · have hc : c ≠ .flush := by
          rintro rfl
          exact hbytes rfl
        obtain ⟨w₂, hcall, hfilled⟩ := filled_of_call hroom hc
        obtain rfl := Option.some.inj (hcall.symm.trans hrun)
        exact Or.inl (hfilled.full (full_of_noFlushBehind hcap hbuf (h.behind hbytes) hrun₁))

end Run

/-- At every moment, some rounds into a block write after some calls, nothing is lost. -/
theorem rounds_lossless {cap : Nat} (hcap : 1 ≤ cap) {buf : List Byte} (hbuf : buf.length = cap) (calls : List Call) (s : List Byte)
    (k : Nat) :
    ∃ w w' taken left, run (new buf cap) calls = some w ∧ writeRounds k w s = (w', left) ∧ s = taken ++ left
      ∧ Lossless cap (written calls ++ taken) w'
      ∧ (NoFlushBetween (calls ++ [.block s]) → ∀ block ∈ w'.sent.dropLast, block.length = cap) := by
  obtain ⟨w, hrun, hroom, hlossless⟩ := run_lossless hcap hbuf calls
  obtain ⟨taken, hs, hfilled⟩ := filled_writeRounds hroom k s
  refine ⟨w, (writeRounds k w s).1, taken, (writeRounds k w s).2, hrun, rfl, hs, hlossless.fill hfilled, fun h => ?_⟩
  by_cases hnone : s = []
  · subst hnone
    have hsame : (writeRounds k w []).1 = w := by
      cases k <;> rfl
    rw [hsame]
    rcases full_of_noFlushBetween hcap hbuf (h.init rfl) hrun with hfull | ⟨-, hfull⟩
    · intro block hblock
      exact hfull block (List.dropLast_subset _ hblock)
    · exact hfull
  · intro block hblock
    exact hfilled.full (full_of_noFlushBehind hcap hbuf (h.behind hnone) hrun) block (List.dropLast_subset _ hblock)

/-- A buffer of two bytes, in the middle of a block of four. -/
theorem rounds_lossless_two :
    ∃ w w' taken left, run (new [0, 0] 2) [.byte 1, .flush, .block []] = some w
      ∧ writeRounds 2 w [2, 3, 4, 5] = (w', left) ∧ [2, 3, 4, 5] = taken ++ left ∧ Lossless 2 (1 :: taken) w' := by
  obtain ⟨w, w', taken, left, hrun, hrounds, hs, hlossless, -⟩ :=
    @rounds_lossless 2 (by decide) [0, 0] rfl [.byte 1, .flush, .block []] [2, 3, 4, 5] 2
  exact ⟨w, w', taken, left, hrun, hrounds, hs, hlossless⟩

end ChunkWriter

end EspNut
