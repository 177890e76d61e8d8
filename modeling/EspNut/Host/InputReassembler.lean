import EspNut.Hid.Parser
import EspNut.Lib.Clock

/-!
# INPUT reports longer than a packet

An INPUT report arrives as packets of the size of the endpoint. A full packet that starts a longer report opens an assembly, the next packets complete it, and a gap that is too long drops it.
-/

namespace EspNut

open Lib

/-- `buf` holds the bytes received so far, none while nothing is pending. -/
structure InputReassembler where
  maxGapMs : UInt32
  buf : List Byte
  expected : Nat
  ts : UInt32
  dropped : UInt32
  deriving DecidableEq

namespace InputReassembler

def maxReport : Nat := 256

def initial : InputReassembler := ⟨500, [], 0, 0, 0⟩

def reset (r : InputReassembler) : InputReassembler := { r with buf := [], expected := 0, ts := 0 }

def pending (r : InputReassembler) : Bool := decide (r.buf ≠ [])

def append (pkt : List Byte) (ts : UInt32) (mps : Nat) (r : InputReassembler) : InputReassembler × Option (List Byte) :=
  let buf := r.buf ++ pkt.take (min pkt.length (r.expected - r.buf.length))
  if r.expected ≤ buf.length ∨ pkt.length < mps then ({ r with buf := [], ts }, some buf)
  else ({ r with buf, ts }, none)

def start (pkt : List Byte) (ts : UInt32) (mps expected : Nat) (r : InputReassembler) :
    InputReassembler × Option (List Byte) :=
  if 0 < mps ∧ pkt.length = mps ∧ pkt.length < expected ∧ expected ≤ maxReport then
    ({ r with buf := pkt, expected, ts }, none)
  else (r, some pkt)

/-- One packet, and the report it completes. -/
def feed (pkt : List Byte) (ts : UInt32) (mps expected : Nat) (r : InputReassembler) :
    InputReassembler × Option (List Byte) :=
  if r.pending = true then
    if r.maxGapMs < ts - r.ts then start pkt ts mps expected { reset r with dropped := r.dropped + 1 }
    else append pkt ts mps r
  else start pkt ts mps expected r

/-! ### Arbitrary packets -/

/-- One call of `feed`, with whatever arguments. -/
structure Call where
  pkt : List Byte
  ts : UInt32
  mps : Nat
  expected : Nat

/-- The next bytes of a pending report fit in the buffer. -/
def Fits (r : InputReassembler) : Prop :=
  r.pending = true → 0 < r.buf.length ∧ r.buf.length < r.expected ∧ r.expected ≤ maxReport

theorem fits_start {r : InputReassembler} (hidle : r.buf = []) (pkt : List Byte) (ts : UInt32) (mps expected : Nat) :
    Fits (start pkt ts mps expected r).1 := by
  unfold start
  split
  · rename_i hopens
    intro _
    show 0 < pkt.length ∧ pkt.length < expected ∧ expected ≤ maxReport
    omega
  · intro hpending
    simp [pending, hidle] at hpending

theorem fits_append {r : InputReassembler} (h : Fits r) (hpending : r.pending = true) (pkt : List Byte) (ts : UInt32) (mps : Nat) :
    Fits (append pkt ts mps r).1 := by
  obtain ⟨hpos, -, hmax⟩ := h hpending
  unfold append
  dsimp only
  split
  · intro hnone
    simp [pending] at hnone
  · rename_i hopen
    intro _
    rw [not_or, Nat.not_le] at hopen
    refine ⟨?_, hopen.1, hmax⟩
    show 0 < (r.buf ++ _).length
    rw [List.length_append]
    omega

/-- Whatever arrives, a pending report keeps room in the buffer. -/
theorem fits_feed {r : InputReassembler} (h : Fits r) (pkt : List Byte) (ts : UInt32) (mps expected : Nat) :
    Fits (feed pkt ts mps expected r).1 := by
  unfold feed
  split
  · rename_i hpending
    split
    · exact fits_start rfl pkt ts mps expected
    · exact fits_append h hpending pkt ts mps
  · rename_i hidle
    refine fits_start ?_ pkt ts mps expected
    simpa [pending] using hidle

/-- A report that is complete is no longer than the buffer, or than the packet that brought it. -/
theorem length_of_complete {r : InputReassembler} (h : Fits r) {pkt report : List Byte} {ts : UInt32} {mps expected : Nat}
    (hcomplete : (feed pkt ts mps expected r).2 = some report) : report.length ≤ max maxReport pkt.length := by
  have hstart : ∀ r : InputReassembler, (start pkt ts mps expected r).2 = some report → report.length ≤ max maxReport pkt.length := by
    intro r hstart
    unfold start at hstart
    split at hstart
    · cases hstart
    · obtain rfl := Option.some.inj hstart
      exact Nat.le_max_right _ _
  unfold feed at hcomplete
  split at hcomplete
  · rename_i hpending
    obtain ⟨-, hroom, hmax⟩ := h hpending
    split at hcomplete
    · exact hstart _ hcomplete
    · unfold append at hcomplete
      dsimp only at hcomplete
      split at hcomplete
      · obtain rfl := Option.some.inj hcomplete
        rw [List.length_append, List.length_take]
        omega
      · cases hcomplete
  · exact hstart _ hcomplete

/-! ### Reports sent as packets -/

/-- A packet at a time, and the reports that were complete before. -/
structure Received where
  reassembler : InputReassembler
  reports : List (List Byte)

/-- The length of the report that a packet starts. -/
def expectedLength (parser : HIDParser) : List Byte → Nat
  | [] => 0
  | first :: _ => parser.getInputLength (if parser.usesReportIds = true then first.toNat else 0)

def receive (parser : HIDParser) (mps : Nat) (w : Received) (packet : Nat × List Byte) : Received :=
  let answer := feed packet.2 (Clock.millis packet.1) mps (expectedLength parser packet.2) w.reassembler
  ⟨answer.1, w.reports ++ answer.2.toList⟩

/-- Packets of at most 64 bytes bring no report longer than the buffer. -/
theorem length_of_received (parser : HIDParser) (mps : Nat) {packets : List (Nat × List Byte)}
    (hpackets : ∀ packet ∈ packets, packet.2.length ≤ 64) {report : List Byte}
    (hreport : report ∈ (run (receive parser mps) ⟨initial, []⟩ packets).reports) : report.length ≤ maxReport := by
  have hall : Fits (run (receive parser mps) ⟨initial, []⟩ packets).reassembler
      ∧ ∀ report ∈ (run (receive parser mps) ⟨initial, []⟩ packets).reports, report.length ≤ maxReport := by
    refine run_invariant (P := fun w : Received => Fits w.reassembler ∧ ∀ report ∈ w.reports, report.length ≤ maxReport)
      ⟨fun hpending => absurd hpending (by decide), fun _ hmem => absurd hmem List.not_mem_nil⟩ ?_ packets hpackets
    intro w packet hsize hw
    refine ⟨fits_feed hw.1 _ _ _ _, fun report hmem => ?_⟩
    rcases List.mem_append.mp hmem with hold | hnew
    · exact hw.2 report hold
    · have hlength := length_of_complete hw.1 (Option.mem_toList.mp hnew)
      rwa [Nat.max_eq_left (hsize.trans (by decide))] at hlength
  exact hall.2 report hreport

/-- A report sent from a time on: full packets, then one of at most that size, each within half a second of the one before. -/
inductive Sent (mps : Nat) : Nat → List Byte → List (Nat × List Byte) → Prop
  | last {time : Nat} {pkt : List Byte} (hsome : pkt ≠ []) (hsize : pkt.length ≤ mps) : Sent mps time pkt [(time, pkt)]
  | more {time next : Nat} {pkt rest : List Byte} {packets : List (Nat × List Byte)} (hsize : pkt.length = mps)
      (horder : time ≤ next) (hgap : next ≤ time + 500) (hrest : Sent mps next rest packets) :
      Sent mps time (pkt ++ rest) ((time, pkt) :: packets)

variable {parser : HIDParser} {mps time : Nat} {report : List Byte} {packets : List (Nat × List Byte)}

theorem Sent.ne_nil (h : Sent mps time report packets) : report ≠ [] := by
  induction h with
  | last hsome => exact hsome
  | more _ _ _ _ ih => exact List.append_ne_nil_of_right_ne_nil _ ih

theorem Sent.mps_pos (h : Sent mps time report packets) : 0 < mps := by
  induction h with
  | last hsome hsize => exact Nat.lt_of_lt_of_le (List.length_pos_iff.mpr hsome) hsize
  | more _ _ _ _ ih => exact ih

/-- A packet within half a second goes on with the pending report. -/
theorem feed_pending {r : InputReassembler} {last : Nat} (hgap : r.maxGapMs = 500) (hpending : r.buf ≠ [])
    (hts : r.ts = Clock.millis last) (horder : last ≤ time) (hsoon : time ≤ last + 500) (pkt : List Byte) (expected : Nat) :
    feed pkt (Clock.millis time) mps expected r = append pkt (Clock.millis time) mps r := by
  have hshort : ¬ r.maxGapMs < Clock.millis time - r.ts := by
    rw [hgap, hts, UInt32.lt_iff_toNat_lt, Clock.toNat_sub_of_turn horder (by omega)]
    show ¬ 500 < _
    omega
  unfold feed
  rw [if_pos (by simpa [pending] using hpending), if_neg hshort]

theorem run_rest {w : Received} {last : Nat} (h : Sent mps time report packets) (hgap : w.reassembler.maxGapMs = 500)
    (hpending : w.reassembler.buf ≠ []) (hexpected : w.reassembler.expected = w.reassembler.buf.length + report.length)
    (hts : w.reassembler.ts = Clock.millis last) (horder : last ≤ time) (hsoon : time ≤ last + 500) :
    ∃ r, r.buf = [] ∧ r.maxGapMs = 500
      ∧ run (receive parser mps) w packets = ⟨r, w.reports ++ [w.reassembler.buf ++ report]⟩ := by
  induction h generalizing w last with
  | @last time pkt hsome hsize =>
      have hall : pkt.take (min pkt.length (w.reassembler.expected - w.reassembler.buf.length)) = pkt :=
        List.take_of_length_le (by omega)
      have happend : append pkt (Clock.millis time) mps w.reassembler
          = ({ w.reassembler with buf := [], ts := Clock.millis time }, some (w.reassembler.buf ++ pkt)) := by
        unfold append
        rw [hall]
        exact if_pos (Or.inl (by rw [hexpected, List.length_append]))
      refine ⟨{ w.reassembler with buf := [], ts := Clock.millis time }, rfl, hgap, ?_⟩
      show receive parser mps w (time, pkt) = _
      unfold receive
      rw [feed_pending hgap hpending hts horder hsoon, happend]
      rfl
  | @more time next pkt rest packets hsize hnext hclose hrest ih =>
      rw [List.length_append] at hexpected
      have hpos := List.length_pos_iff.mpr hrest.ne_nil
      have hall : pkt.take (min pkt.length (w.reassembler.expected - w.reassembler.buf.length)) = pkt :=
        List.take_of_length_le (by omega)
      have happend : append pkt (Clock.millis time) mps w.reassembler
          = ({ w.reassembler with buf := w.reassembler.buf ++ pkt, ts := Clock.millis time }, none) := by
        unfold append
        rw [hall]
        exact if_neg (by rw [List.length_append]; omega)
      have hreceive : receive parser mps w (time, pkt)
          = ⟨{ w.reassembler with buf := w.reassembler.buf ++ pkt, ts := Clock.millis time }, w.reports⟩ := by
        unfold receive
        rw [feed_pending hgap hpending hts horder hsoon, happend]
        exact congrArg (Received.mk _) (List.append_nil _)
      rw [run_cons, hreceive]
      have hlonger : w.reassembler.buf.length + (pkt.length + rest.length)
          = (w.reassembler.buf ++ pkt).length + rest.length := by
        rw [List.length_append]
        omega
      obtain ⟨r, hidle, hmax, hrun⟩ := @ih
        ⟨{ w.reassembler with buf := w.reassembler.buf ++ pkt, ts := Clock.millis time }, w.reports⟩ time hgap
        (List.append_ne_nil_of_left_ne_nil hpending pkt) (hexpected.trans hlonger) rfl hnext hclose
      refine ⟨r, hidle, hmax, ?_⟩
      rw [hrun, List.append_assoc]

def Declared (parser : HIDParser) (report : List Byte) : Prop :=
  report.length = expectedLength parser report ∧ report.length ≤ maxReport

theorem expectedLength_append (parser : HIDParser) {pkt : List Byte} (hsome : pkt ≠ []) (rest : List Byte) :
    expectedLength parser (pkt ++ rest) = expectedLength parser pkt := by
  cases pkt with
  | nil => exact absurd rfl hsome
  | cons first pkt => rfl

/-- With nothing pending a report comes out as it was sent. -/
theorem run_report {w : Received} (h : Sent mps time report packets)
    (hdeclared : Declared parser report) (hgap : w.reassembler.maxGapMs = 500) (hidle : w.reassembler.buf = []) :
    ∃ r, r.buf = [] ∧ r.maxGapMs = 500 ∧ run (receive parser mps) w packets = ⟨r, w.reports ++ [report]⟩ := by
  have hstart : ∀ (pkt : List Byte) (time expected : Nat),
      feed pkt (Clock.millis time) mps expected w.reassembler = start pkt (Clock.millis time) mps expected w.reassembler := by
    intro pkt time expected
    unfold feed
    rw [if_neg (by simp [pending, hidle])]
  obtain ⟨hlength, hmax⟩ := hdeclared
  have hmps := h.mps_pos
  cases h with
  | last hsome hsize =>
      refine ⟨w.reassembler, hidle, hgap, ?_⟩
      show receive parser mps w (time, report) = _
      unfold receive
      rw [hstart]
      unfold start
      rw [← hlength, if_neg (by omega)]
      rfl
  | @more _ next pkt rest packets hsize hnext hclose hrest =>
      have hsome : pkt ≠ [] := by
        rintro rfl
        rw [List.length_nil] at hsize
        omega
      have hpos := List.length_pos_iff.mpr hrest.ne_nil
      rw [expectedLength_append parser hsome, List.length_append] at hlength
      rw [List.length_append] at hmax
      have hlonger : pkt.length < expectedLength parser pkt := by omega
      have hroom : expectedLength parser pkt ≤ maxReport := by omega
      have hreceive : receive parser mps w (time, pkt) = ⟨{ w.reassembler with
          buf := pkt, expected := expectedLength parser pkt, ts := Clock.millis time }, w.reports⟩ := by
        unfold receive
        rw [hstart]
        unfold start
        rw [if_pos ⟨hmps, hsize, hlonger, hroom⟩]
        exact congrArg (Received.mk _) (List.append_nil _)
      rw [run_cons, hreceive]
      exact run_rest hrest hgap hsome hlength.symm rfl hnext hclose

theorem run_reports {w : Received} {sent : List (Nat × List Byte × List (Nat × List Byte))}
    (hsent : ∀ s ∈ sent, Declared parser s.2.1 ∧ Sent mps s.1 s.2.1 s.2.2) (hgap : w.reassembler.maxGapMs = 500)
    (hidle : w.reassembler.buf = []) : ∃ r, r.buf = []
      ∧ run (receive parser mps) w (sent.flatMap fun s => s.2.2) = ⟨r, w.reports ++ sent.map fun s => s.2.1⟩ := by
  induction sent generalizing w with
  | nil => exact ⟨w.reassembler, hidle, congrArg (Received.mk _) (List.append_nil _).symm⟩
  | cons first sent ih =>
      obtain ⟨hdeclared, hpackets⟩ := hsent first List.mem_cons_self
      obtain ⟨r, hidle, hgap, hfirst⟩ := run_report hpackets hdeclared hgap hidle
      rw [List.flatMap_cons, run_append, hfirst]
      obtain ⟨r', hidle', hrest⟩ := @ih ⟨r, w.reports ++ [first.2.1]⟩
        (fun s hs => hsent s (List.mem_cons_of_mem first hs)) hgap hidle
      refine ⟨r', hidle', ?_⟩
      rw [hrest, List.append_assoc]
      rfl

def call (r : InputReassembler) (c : Call) : InputReassembler := (feed c.pkt c.ts c.mps c.expected r).1

/-- Reports that are sent as packets come out as they were sent, in order and once each, and nothing is left pending; and whatever calls are made, a pending report has room in the buffer. -/
theorem reports_reassembled (parser : HIDParser) (mps : Nat) (sent : List (Nat × List Byte × List (Nat × List Byte)))
    (hsent : ∀ s ∈ sent, Declared parser s.2.1 ∧ Sent mps s.1 s.2.1 s.2.2) :
    ((run (receive parser mps) ⟨initial, []⟩ (sent.flatMap fun s => s.2.2)).reports = sent.map fun s => s.2.1)
      ∧ (run (receive parser mps) ⟨initial, []⟩ (sent.flatMap fun s => s.2.2)).reassembler.pending = false
      ∧ ∀ calls : List Call, (run call initial calls).pending = true →
          0 < (run call initial calls).buf.length ∧ (run call initial calls).buf.length < (run call initial calls).expected
            ∧ (run call initial calls).expected ≤ maxReport := by
  obtain ⟨r, hidle, hrun⟩ := run_reports (w := ⟨initial, []⟩) hsent rfl rfl
  rw [hrun]
  refine ⟨rfl, by simp [pending, hidle], ?_⟩
  intro calls
  have hfits : Fits initial := fun hpending => by simp [pending, initial] at hpending
  exact run_invariant hfits (fun r c _ h => fits_feed h c.pkt c.ts c.mps c.expected) calls (fun _ _ => trivial)

def eightBytes : HIDParser :=
  (HIDParser.parseReportDescriptor [0x85, 0x01, 0x75, 0x08, 0x95, 0x08, 0x81, 0x02]).get (by decide +kernel)

/-- With its id the report is one byte longer than a packet of eight. -/
theorem reports_reassembled_eight :
    (run (receive eightBytes 8) ⟨initial, []⟩ [(1000, [1, 2, 3, 4, 5, 6, 7, 8]), (1500, [9])]).reports
      = [[1, 2, 3, 4, 5, 6, 7, 8, 9]] :=
  (reports_reassembled eightBytes 8
    [(1000, [1, 2, 3, 4, 5, 6, 7, 8, 9], [(1000, [1, 2, 3, 4, 5, 6, 7, 8]), (1500, [9])])] (by
      intro s hs
      obtain rfl := List.mem_singleton.mp hs
      have hdeclared : expectedLength eightBytes [1, 2, 3, 4, 5, 6, 7, 8, 9] = 9 := by decide +kernel
      exact ⟨⟨hdeclared.symm, by decide⟩,
        @Sent.more 8 1000 1500 [1, 2, 3, 4, 5, 6, 7, 8] [9] _ rfl (by decide) (by decide) (Sent.last (by decide) (by decide))⟩)).1

end InputReassembler

end EspNut
