import EspNut.Log.LogOutputFilter
import EspNut.Lib.Text

/-!
# Delivery of log lines to the outputs

Each enabled output gets the lines that its filter lets pass, and before the first line after a refusal a summary of those it missed. A run is that of all outputs together; each of them answers by itself whether its transport has accepted what it was handed.
-/

namespace EspNut

open Lib Clock

structure LogRecord where
  uptimeMs : UInt32
  level : LogLevel
  /-- A change of the remote logging itself. -/
  notice : Bool
  msg : List Char

structure LogOutputStats where
  sent : UInt32
  failed : UInt32
  rateLimited : UInt32
  notReady : UInt32

structure LogOutput where
  /-- How the lines begin that the output writes about itself. -/
  tag : List Char
  enabled : Bool
  ready : Bool
  enabledAt : UInt32
  filter : LogOutputFilter
  stats : LogOutputStats

namespace LogFanout

open LogOutputFilter (check takeSuppressed Decision)

def holdMs : UInt32 := 60000

def shouldHold (outputs : List LogOutput) (now : UInt32) : Bool :=
  outputs.any fun out => out.enabled && !out.ready && (now - out.enabledAt).toInt32 < holdMs.toInt32

/-- What a call does with an output. -/
inductive Outcome where
  /-- The rate limit has refused the line. -/
  | refused
  /-- A record was handed over; it stands for the lines missed, none for an ordinary line. -/
  | handed (missed : Nat) (record : LogRecord) (accepted : Bool)

def isOwnLine (out : LogOutput) (record : LogRecord) : Bool := !out.tag.isEmpty && out.tag.isPrefixOf record.msg

/-- The statistics of an output after its transport's answer. -/
def send (accepted : Bool) (out : LogOutput) : LogOutput :=
  if accepted then { out with stats := { out.stats with sent := out.stats.sent + 1 } }
  else { out with stats := { out.stats with failed := out.stats.failed + 1 } }

def summary (missed rate : Nat) (record : LogRecord) : LogRecord where
  uptimeMs := record.uptimeMs
  level := .warn
  notice := false
  msg := "[LOG] ".toList ++ Nat.toDigits 10 missed ++ " lines not sent (rate limit ".toList ++ Nat.toDigits 10 rate
    ++ "/s)".toList

/-- The loop's body, for a transport with a state of its own that may do more than answer. -/
def deliverWith {σ α ε : Type} (deliver : α → LogRecord → σ → σ × Bool × List ε) (toSummary toLine : α) (record : LogRecord)
    (now : UInt32) (out : LogOutput) (s : σ) : (LogOutput × List Outcome) × σ × List ε :=
  if out.enabled = false then ((out, []), s, [])
  else if record.notice = false ∧ isOwnLine out record = true then ((out, []), s, [])
  else if out.ready = false then (({ out with stats := { out.stats with notReady := out.stats.notReady + 1 } }, []), s, [])
  else if record.notice then
    let (s, accepted, effects) := deliver toLine record s
    ((send accepted out, [.handed 0 record accepted]), s, effects)
  else
    match check record.level now out.filter with
    | (.belowLevel, filter) => (({ out with filter }, []), s, [])
    | (.rateLimited, filter) =>
        (({ out with filter, stats := { out.stats with rateLimited := out.stats.rateLimited + 1 } }, [.refused]), s, [])
    | (.send, filter) =>
        let (missed, filter) := takeSuppressed filter
        let out := { out with filter }
        if 0 < missed then
          let total := summary missed filter.rate record
          let (s, acceptsSummary, told) := deliver toSummary total s
          let (s, acceptsLine, effects) := deliver toLine record s
          ((send acceptsLine (send acceptsSummary out),
            [.handed missed total acceptsSummary, .handed 0 record acceptsLine]), s, told ++ effects)
        else
          let (s, accepted, effects) := deliver toLine record s
          ((send accepted out, [.handed 0 record accepted]), s, effects)

/-- What a transport answers to a summary and to the line itself. -/
structure Transport where
  acceptsSummary : Bool
  acceptsLine : Bool

@[simp] def answerOnly (accepts : Bool) (_ : LogRecord) (s : Unit) : Unit × Bool × List Empty := (s, accepts, [])

/-- The loop's body, for a transport that only answers. -/
def deliverTo (record : LogRecord) (now : UInt32) (transport : Transport) (out : LogOutput) : LogOutput × List Outcome :=
  (deliverWith answerOnly transport.acceptsSummary transport.acceptsLine record now out ()).1

/-! ### Lines held at the beginning -/

/-- An output with the real time at which it was enabled. -/
structure Enabling where
  out : LogOutput
  time : Nat
  enabledAt : out.enabledAt = millis time

/-- An output for which lines are still held. -/
def Enabling.Waits (enabling : Enabling) : Prop := enabling.out.enabled = true ∧ enabling.out.ready = false

theorem shouldHold_iff (enablings : List Enabling) (now : UInt32) :
    shouldHold (enablings.map Enabling.out) now = true
      ↔ ∃ enabling ∈ enablings, enabling.Waits
          ∧ ((now - millis enabling.time).toNat < 60000 ∨ 2 ^ 31 ≤ (now - millis enabling.time).toNat) := by
  unfold shouldHold Enabling.Waits
  rw [List.any_map, List.any_eq_true]
  refine exists_congr fun enabling => and_congr_right fun _ => ?_
  rw [Function.comp_apply, Bool.and_eq_true, Bool.and_eq_true, Bool.not_eq_true', decide_eq_true_eq, enabling.enabledAt,
    toInt32_lt_iff (by decide)]
  rfl

/-- A wait is taken for a recent one within the hold and in the upper half of each turn of the clock. -/
theorem shows_iff {time enabled : Nat} (hahead : enabled < time + 2 ^ 31) :
    ((millis time - millis enabled).toNat < 60000 ∨ 2 ^ 31 ≤ (millis time - millis enabled).toNat)
      ↔ time < enabled + 60000 ∨ enabled ≤ time ∧ ((time - enabled) % 2 ^ 32 < 60000 ∨ 2 ^ 31 ≤ (time - enabled) % 2 ^ 32) := by
  by_cases hpast : enabled ≤ time
  · rw [toNat_sub hpast]
    omega
  · rw [toNat_sub_of_future (by omega) (by omega)]
    omega

/-- It was enabled less than a minute ago, or after the reading of the clock. -/
def Enabling.Recent (time : Nat) (enabling : Enabling) : Prop := time < enabling.time + 60000

/-- Lines are held only for a recent output when there is one, or when the clock shows of none of those that wait a time within the minute or half a turn after it. -/
theorem held_recently_iff (enablings : List Enabling) (time : Nat)
    (hahead : ∀ enabling ∈ enablings, enabling.time < time + 2 ^ 31) :
    (shouldHold (enablings.map Enabling.out) (millis time) = true →
        ∃ enabling ∈ enablings, enabling.Waits ∧ enabling.Recent time)
      ↔ (∃ enabling ∈ enablings, enabling.Waits ∧ enabling.Recent time)
        ∨ ∀ enabling ∈ enablings, enabling.Waits →
          60000 ≤ (time - enabling.time) % 2 ^ 32 ∧ (time - enabling.time) % 2 ^ 32 < 2 ^ 31 := by
  rw [shouldHold_iff]
  constructor
  · intro h
    refine or_iff_not_imp_left.mpr fun hnone enabling hmem hwaits => ?_
    have hquiet : ¬ (_ ∨ _) := fun hshown => hnone (h ⟨enabling, hmem, hwaits, hshown⟩)
    rw [shows_iff (hahead enabling hmem)] at hquiet
    omega
  · rintro (hrecent | hquiet) ⟨enabling, hmem, hwaits, hshown⟩
    · exact hrecent
    · refine ⟨enabling, hmem, hwaits, ?_⟩
      have hremainder := hquiet enabling hmem hwaits
      rw [shows_iff (hahead enabling hmem)] at hshown
      unfold Enabling.Recent
      omega

/-- An output that was enabled but has not been ready since. -/
def waiting (enabledAt : Nat) : Enabling where
  out := {
    tag := "[SYSLOG]".toList, enabled := true, ready := false, enabledAt := millis enabledAt,
    filter := .initial, stats := ⟨0, 0, 0, 0⟩ }
  time := enabledAt
  enabledAt := rfl

/-- After a day it holds no line any more. -/
theorem held_recently_day :
    (shouldHold ([waiting 5000].map Enabling.out) (millis 86405000) = true →
        ∃ enabling ∈ [waiting 5000], enabling.Waits ∧ enabling.Recent 86405000)
      ↔ (∃ enabling ∈ [waiting 5000], enabling.Waits ∧ enabling.Recent 86405000)
        ∨ ∀ enabling ∈ [waiting 5000], enabling.Waits →
          60000 ≤ (86405000 - enabling.time) % 2 ^ 32 ∧ (86405000 - enabling.time) % 2 ^ 32 < 2 ^ 31 :=
  held_recently_iff [waiting 5000] 86405000 (by decide)

/-- After 25 days the lines of all outputs are held again. -/
theorem held_after_weeks :
    ¬ (shouldHold ([waiting 5000].map Enabling.out) (millis (5000 + 25 * 86400000)) = true →
        ∃ enabling ∈ [waiting 5000], enabling.Waits ∧ enabling.Recent (5000 + 25 * 86400000)) := by
  intro h
  obtain ⟨enabling, hmem, -, hrecent⟩ := h (by decide)
  rw [List.mem_singleton] at hmem
  subst hmem
  exact absurd (show 5000 + 25 * 86400000 < 5000 + 60000 from hrecent) (by decide)

/-! ### Lines accounted for -/

/-- What happens to an output between two lines. -/
inductive Change where
  | polled (enabled ready : Bool) (enabledAt : UInt32)
  | configured (minLevel : LogLevel) (rate : Nat)

inductive Event where
  | changed (output : Nat) (change : Change)
  | line (record : LogRecord) (now : UInt32) (transports : Nat → Transport)

def LogOutput.change (out : LogOutput) : Change → LogOutput
  | .polled enabled ready enabledAt => { out with enabled, ready, enabledAt }
  | .configured minLevel rate => { out with filter := LogOutputFilter.configure minLevel rate out.filter }

/-- An output and all that has become of its lines. -/
structure Served where
  out : LogOutput
  outcomes : List Outcome

def newOutput (tag : List Char) : Served where
  out := { tag, enabled := false, ready := false, enabledAt := 0, filter := .initial, stats := ⟨0, 0, 0, 0⟩ }
  outcomes := []

def serve (i : Nat) (served : Served) : Event → Served
  | .changed output change => if output = i then { served with out := LogOutput.change served.out change } else served
  | .line record now transports =>
      let (out, outcomes) := deliverTo record now (transports i) served.out
      ⟨out, served.outcomes ++ outcomes⟩

def step (outputs : List Served) (event : Event) : List Served := outputs.mapIdx fun i served => serve i served event

/-- What the summaries carried that were delivered. -/
def carried (outcomes : List Outcome) : Nat :=
  (outcomes.map fun
    | .refused => 0
    | .handed missed _ accepted => if accepted then missed else 0).sum

def refusals (outcomes : List Outcome) : Nat :=
  (outcomes.map fun
    | .refused => 1
    | .handed _ _ _ => 0).sum

/-- The refused lines of which a delivered summary tells or the next one will. -/
def Served.accounted (served : Served) : Nat := carried served.outcomes + served.out.filter.suppressed

def Served.refused (served : Served) : Nat := refusals served.outcomes

def comesToFilter (record : LogRecord) (out : LogOutput) : Bool :=
  out.enabled && out.ready && !record.notice && !isOwnLine out record

/-- A summary that is due is accepted, and a refused line finds room in the count. -/
def Keeps (i : Nat) (served : Served) : Event → Prop
  | .changed _ _ => True
  | .line record now transports => comesToFilter record served.out = true →
      match (check record.level now served.out.filter).1 with
      | .belowLevel => True
      | .rateLimited => served.out.filter.suppressed + 1 < 2 ^ 32
      | .send => served.out.filter.suppressed = 0 ∨ (transports i).acceptsSummary = true

theorem carried_append (first second : List Outcome) : carried (first ++ second) = carried first + carried second := by
  unfold carried
  rw [List.map_append, List.sum_append]

theorem refusals_append (first second : List Outcome) : refusals (first ++ second) = refusals first + refusals second := by
  unfold refusals
  rw [List.map_append, List.sum_append]

theorem filter_send (accepted : Bool) (out : LogOutput) : (send accepted out).filter = out.filter := by
  unfold send
  split <;> rfl

variable (i : Nat) (record : LogRecord) (now : UInt32) (out : LogOutput)

/-- A line that does not come to the filter leaves it alone. -/
theorem deliverTo_passing (transport : Transport) (h : comesToFilter record out = false) :
    (deliverTo record now transport out).1.filter = out.filter ∧ carried (deliverTo record now transport out).2 = 0
      ∧ refusals (deliverTo record now transport out).2 = 0 := by
  unfold comesToFilter at h
  unfold deliverTo deliverWith
  split
  · exact ⟨rfl, rfl, rfl⟩
  split
  · exact ⟨rfl, rfl, rfl⟩
  split
  · exact ⟨rfl, rfl, rfl⟩
  split
  · refine ⟨filter_send _ out, ?_, rfl⟩
    unfold carried
    simp
  · rename_i henabled hown hready hnotice
    simp_all

/-- The counts of a line that comes to the filter. -/
theorem deliverTo_filtered (transport : Transport) (h : comesToFilter record out = true) :
    match (check record.level now out.filter).1 with
    | .belowLevel => (deliverTo record now transport out).1.filter.suppressed = out.filter.suppressed
        ∧ carried (deliverTo record now transport out).2 = 0 ∧ refusals (deliverTo record now transport out).2 = 0
    | .rateLimited => (deliverTo record now transport out).1.filter.suppressed = (out.filter.suppressed + 1) % 2 ^ 32
        ∧ carried (deliverTo record now transport out).2 = 0 ∧ refusals (deliverTo record now transport out).2 = 1
    | .send => (deliverTo record now transport out).1.filter.suppressed = 0
        ∧ carried (deliverTo record now transport out).2 = (if transport.acceptsSummary then out.filter.suppressed else 0)
        ∧ refusals (deliverTo record now transport out).2 = 0 := by
  unfold comesToFilter at h
  rw [Bool.and_eq_true, Bool.and_eq_true, Bool.and_eq_true, Bool.not_eq_true', Bool.not_eq_true'] at h
  obtain ⟨⟨⟨henabled, hready⟩, hnotice⟩, hown⟩ := h
  have hcount := LogOutputFilter.suppressed_check record.level now out.filter
  unfold deliverTo deliverWith
  rw [if_neg (by simp [henabled]), if_neg (by simp [hown]), if_neg (by simp [hready]), if_neg (by simp [hnotice])]
  generalize check record.level now out.filter = checked at hcount ⊢
  obtain ⟨decision, filter⟩ := checked
  cases decision with
  | belowLevel => exact ⟨hcount, rfl, rfl⟩
  | rateLimited => exact ⟨hcount, rfl, rfl⟩
  | send =>
      have hmissed : filter.suppressed = out.filter.suppressed := hcount
      unfold takeSuppressed
      dsimp only
      rw [hmissed]
      split
      · rw [filter_send, filter_send]
        refine ⟨rfl, ?_, rfl⟩
        unfold carried
        simp
      · rename_i hnone
        rw [filter_send, Nat.eq_zero_of_not_pos hnone]
        refine ⟨rfl, ?_, rfl⟩
        unfold carried
        simp

/-- A step never accounts for more than it refuses, and for less when the count is lost. -/
theorem serve_accounted (served : Served) (event : Event) :
    (serve i served event).accounted + served.refused ≤ served.accounted + (serve i served event).refused
      ∧ ((serve i served event).accounted + served.refused = served.accounted + (serve i served event).refused
        ↔ Keeps i served event) := by
  cases event with
  | changed output change =>
      have hcount : (LogOutput.change served.out change).filter.suppressed = served.out.filter.suppressed := by
        cases change <;> rfl
      have hserved : (serve i served (.changed output change)).accounted = served.accounted
          ∧ (serve i served (.changed output change)).refused = served.refused := by
        show (if output = i then _ else served).accounted = _ ∧ (if output = i then _ else served).refused = _
        split
        · exact ⟨congrArg (carried served.outcomes + ·) hcount, rfl⟩
        · exact ⟨rfl, rfl⟩
      rw [hserved.1, hserved.2]
      exact ⟨le_rfl, iff_of_true rfl trivial⟩
  | line record now transports =>
      unfold serve Served.accounted Served.refused Keeps
      dsimp only
      rw [carried_append, refusals_append]
      cases hcomes : comesToFilter record served.out with
      | false =>
          obtain ⟨hfilter, hcarried, hrefused⟩ := deliverTo_passing record now served.out (transports i) hcomes
          rw [hfilter, hcarried, hrefused]
          exact ⟨by omega, iff_of_true (by omega) (by simp)⟩
      | true =>
          have hcounts := deliverTo_filtered record now served.out (transports i) hcomes
          generalize (check record.level now served.out.filter).1 = decision at hcounts ⊢
          rw [forall_prop_of_true rfl]
          cases decision with
          | belowLevel =>
              obtain ⟨hcount, hcarried, hrefused⟩ := hcounts
              rw [hcount, hcarried, hrefused]
              exact ⟨by omega, iff_of_true (by omega) trivial⟩
          | rateLimited =>
              obtain ⟨hcount, hcarried, hrefused⟩ := hcounts
              rw [hcount, hcarried, hrefused]
              dsimp only
              omega
          | send =>
              obtain ⟨hcount, hcarried, hrefused⟩ := hcounts
              rw [hcount, hcarried, hrefused]
              dsimp only
              cases (transports i).acceptsSummary <;> simp

/-- What a run leaves unaccounted for was lost at one of its steps. -/
theorem run_accounted (start : Served) (hstart : start.accounted ≤ start.refused) (events : List Event) :
    (run (serve i) start events).accounted ≤ (run (serve i) start events).refused
      ∧ ((run (serve i) start events).accounted = (run (serve i) start events).refused
        ↔ start.accounted = start.refused ∧ Along (Keeps i) (serve i) start events) := by
  induction events generalizing start with
  | nil => exact ⟨hstart, (and_iff_left trivial).symm⟩
  | cons event rest ih =>
      obtain ⟨hle, hkeeps⟩ := serve_accounted i start event
      obtain ⟨hrest, hiff⟩ := ih (serve i start event) (by omega)
      rw [run_cons]
      refine ⟨hrest, hiff.trans ?_⟩
      show _ ↔ _ ∧ Keeps i start event ∧ Along (Keeps i) (serve i) (serve i start event) rest
      rw [← and_assoc, ← hkeeps]
      refine and_congr_left fun _ => ?_
      omega

theorem getElem?_run (outputs : List Served) (events : List Event) :
    (run step outputs events)[i]? = outputs[i]?.map fun served => run (serve i) served events := by
  induction events generalizing outputs with
  | nil => simp
  | cons event rest ih =>
      rw [run_cons, ih]
      unfold step
      rw [List.getElem?_mapIdx, Option.map_map]
      rfl

/-- The delivered summaries and the count that waits tell of every refused line exactly when each summary that is due is accepted and the count never overflows. -/
theorem refusals_accounted_iff (tags : List (List Char)) (tag : List Char) (htag : tags[i]? = some tag) (events : List Event) :
    ∃ served, (run step (tags.map newOutput) events)[i]? = some served
      ∧ (served.accounted = served.refused ↔ Along (Keeps i) (serve i) (newOutput tag) events) := by
  obtain ⟨-, hiff⟩ := run_accounted i (newOutput tag) le_rfl events
  refine ⟨run (serve i) (newOutput tag) events, ?_, hiff.trans (and_iff_right rfl)⟩
  rw [getElem?_run, List.getElem?_map, htag]
  rfl

/-- A line that the output's transport accepts, as it does the summary before it. -/
def usbLine (now : UInt32) (acceptsSummary : Bool) : Event :=
  .line { uptimeMs := now, level := .error, notice := false, msg := "[USB] transfer failed".toList } now
    fun _ => { acceptsSummary, acceptsLine := true }

/-- 21 lines at once, of which the slowest rate refuses the last. -/
def burstOfLines : List Event :=
  [.changed 0 (.polled true true 0), .changed 0 (.configured .info 1)] ++ List.replicate 21 (usbLine 1000 true)

theorem refusals_accounted_burst :
    ∃ served, (run step (["[SYSLOG]".toList].map newOutput) (burstOfLines ++ [usbLine 3000 true]))[0]? = some served
      ∧ (served.accounted = served.refused
        ↔ Along (Keeps 0) (serve 0) (newOutput "[SYSLOG]".toList) (burstOfLines ++ [usbLine 3000 true])) :=
  refusals_accounted_iff 0 ["[SYSLOG]".toList] "[SYSLOG]".toList rfl (burstOfLines ++ [usbLine 3000 true])

/-- A summary that the transport refuses takes its count along. -/
theorem refusals_lost :
    ¬ ∃ served, (run step (["[SYSLOG]".toList].map newOutput) (burstOfLines ++ [usbLine 3000 false]))[0]? = some served
      ∧ served.accounted = served.refused := by
  rintro ⟨served, hserved, haccounted⟩
  have hcounts : ((run step (["[SYSLOG]".toList].map newOutput) (burstOfLines ++ [usbLine 3000 false]))[0]?.map
      fun served => (served.accounted, served.refused)) = some (0, 1) := by decide +kernel
  rw [hserved, Option.map_some, Option.some.injEq, Prod.mk.injEq] at hcounts
  omega

end LogFanout

end EspNut
