import EspNut.Lib.Clock
import EspNut.Lib.Median
import EspNut.Lib.Ring
import EspNut.Lib.Run
import EspNut.Recovery.LinkMonitor

/-!
# The health of the INPUT reports

The watchdog learns the intervals between bursts of INPUT reports. A device whose last eight intervals are nearly the same is periodic, and only its silence is acted on: with recoveries, some time apart, and then with a restart. While the poll reads the values of the reports too, nothing is done.
-/

namespace EspNut

open Lib

structure InputWatchdog.Config where
  burstGapMs : UInt32
  silenceFactor : UInt32
  minSilenceMs : UInt32
  retryMs : UInt32
  maxRecoveries : UInt8
  deriving DecidableEq

structure InputWatchdog where
  cfg : InputWatchdog.Config
  samples : Ring UInt32 8
  haveBurst : Bool
  lastBurstMs : UInt32
  lastInputMs : UInt32
  silent : Bool
  recoveries : UInt8
  windowStartMs : UInt32
  valuesPolled : Bool
  noticed : Bool
  deriving DecidableEq

namespace InputWatchdog

def samplesSize : Nat := 8

def defaultConfig : Config := ⟨500, 5, 30000, 60000, 2⟩

/-- A new device: the period it had learned is forgotten. -/
def reset (now : UInt32) (m : InputWatchdog) : InputWatchdog :=
  { m with
    samples := Ring.empty (by decide) m.samples.slots
    haveBurst := false
    lastBurstMs := now
    lastInputMs := now
    silent := false
    recoveries := 0
    windowStartMs := now
    valuesPolled := false
    noticed := false }

/-- The watchdog as it is constructed, over any memory. -/
def initial (cfg : Config) (memory : Vector UInt32 8) : InputWatchdog :=
  reset 0 ⟨cfg, Ring.empty (by decide) memory, false, 0, 0, false, 0, 0, false, false⟩

def setValuesPolled (polled : Bool) (m : InputWatchdog) : InputWatchdog := { m with valuesPolled := polled }

/-- The samples that are filled, sorted in place; the one in the middle. -/
def median (m : InputWatchdog) : UInt32 :=
  (Median.descending (m.samples.slots.toList.take m.samples.count)).reverse.getD (m.samples.count / 2) 0

def isPeriodic (m : InputWatchdog) : Bool :=
  if m.samples.count < samplesSize then false
  else if median m = 0 then false
  else
    let lo := (m.samples.slots.toList.drop 1).foldl (fun lo sample => if sample < lo then sample else lo) m.samples.slots[0]
    let hi := (m.samples.slots.toList.drop 1).foldl (fun hi sample => if hi < sample then sample else hi) m.samples.slots[0]
    let tol := median m / 4
    decide (median m - lo ≤ tol) && decide (hi - median m ≤ tol)

def periodMs (m : InputWatchdog) : UInt32 := if m.samples.count ≠ 0 then median m else 0

def silenceThresholdMs (m : InputWatchdog) : UInt32 :=
  let t := periodMs m * m.cfg.silenceFactor
  if m.cfg.minSilenceMs < t then t else m.cfg.minSilenceMs

/-- The interval that a report at `ts` teaches: none in a burst, for a first report, and after a silence that was noticed. -/
def learned (ts : UInt32) (m : InputWatchdog) : Option UInt32 :=
  if m.haveBurst = true ∧ ts - m.lastInputMs < m.cfg.burstGapMs then none
  else if m.haveBurst = true ∧ ¬ (isPeriodic m = true ∧ silenceThresholdMs m ≤ ts - m.lastBurstMs) then
    some (ts - m.lastBurstMs)
  else none

/-- The start of a silence is over; a report of the burst that goes on only counts as the last one. -/
def onInput (ts : UInt32) (m : InputWatchdog) : InputWatchdog :=
  let fed := { m with silent := false, recoveries := 0, noticed := false }
  if m.haveBurst = true ∧ ts - m.lastInputMs < m.cfg.burstGapMs then { fed with lastInputMs := ts }
  else
    { fed with
      samples := if m.haveBurst = true ∧ ¬ (isPeriodic m = true ∧ silenceThresholdMs m ≤ ts - m.lastBurstMs) then
          m.samples.push (ts - m.lastBurstMs)
        else m.samples
      haveBurst := true
      lastBurstMs := ts
      lastInputMs := ts }

def isSilent (now : UInt32) (m : InputWatchdog) : Bool :=
  isPeriodic m && decide (silenceThresholdMs m ≤ now - m.lastInputMs)

def isStale (now : UInt32) (m : InputWatchdog) : Bool := !m.valuesPolled && isSilent now m

def tick (now : UInt32) (m : InputWatchdog) : InputWatchdog × LinkMonitor.Action :=
  if isStale now m = false then (m, .none)
  else if m.silent = true ∧ now - m.windowStartMs < m.cfg.retryMs then (m, .none)
  else if m.cfg.maxRecoveries ≤ m.recoveries then ({ m with silent := true, windowStartMs := now }, .restart)
  else ({ m with silent := true, windowStartMs := now, recoveries := m.recoveries + 1 }, .recover)

/-- Once for each silence, while nothing is done about it. -/
def takeSilenceNotice (now : UInt32) (m : InputWatchdog) : InputWatchdog × Bool :=
  if m.valuesPolled = false ∨ m.noticed = true ∨ isSilent now m = false then (m, false)
  else ({ m with noticed := true }, true)

/-! ### The period -/

/-- Eight intervals that lie within a quarter of their median. -/
def Regular (intervals : List UInt32) : Prop :=
  intervals.length = 8 ∧ ∃ middle, Median.IsMedian middle intervals ∧ 0 < middle
    ∧ ∀ interval ∈ intervals, middle.toNat ≤ interval.toNat + middle.toNat / 4
      ∧ interval.toNat ≤ middle.toNat + middle.toNat / 4

theorem lowest_le (samples : List UInt32) (first : UInt32) :
    samples.foldl (fun lo sample => if sample < lo then sample else lo) first ≤ first
      ∧ ∀ sample ∈ samples, samples.foldl (fun lo sample => if sample < lo then sample else lo) first ≤ sample :=
  Median.foldl_keep (· ≤ ·) (· < ·) UInt32.le_refl (fun _ _ _ => UInt32.le_trans) (fun _ _ => UInt32.le_of_lt)
    (fun _ _ => UInt32.not_lt.mp) samples first

theorem le_highest (samples : List UInt32) (first : UInt32) :
    first ≤ samples.foldl (fun hi sample => if hi < sample then sample else hi) first
      ∧ ∀ sample ∈ samples, sample ≤ samples.foldl (fun hi sample => if hi < sample then sample else hi) first :=
  Median.foldl_keep (· ≥ ·) (· > ·) UInt32.le_refl (fun _ _ _ h h' => UInt32.le_trans h' h)
    (fun _ _ => UInt32.le_of_lt) (fun _ _ => UInt32.not_lt.mp) samples first

variable {m : InputWatchdog}

theorem isMedian_median (hfull : m.samples.count = 8) : Median.IsMedian (median m) m.samples.recent := by
  have hslots : m.samples.slots.toList.take m.samples.count = m.samples.slots.toList := by
    rw [hfull]
    exact List.take_of_length_le (by rw [Vector.length_toList])
  have hlength : (Median.descending m.samples.slots.toList).reverse.length = 8 := by
    rw [List.length_reverse, (Median.descending_perm _).length_eq, Vector.length_toList]
  have hmiddle : (Median.descending m.samples.slots.toList).reverse[m.samples.slots.toList.length / 2]? = some (median m) := by
    have hget := List.getElem?_eq_getElem (show 4 < (Median.descending m.samples.slots.toList).reverse.length by omega)
    unfold median
    rw [hslots, hfull, Vector.length_toList, List.getD_eq_getElem?_getD]
    show _[4]? = some (_[4]?.getD 0)
    rw [hget]
    rfl
  exact (Median.isMedian_descending hmiddle).perm (Ring.recent_perm hfull).symm

theorem slots_eq_cons (slots : Vector UInt32 8) : slots.toList = slots[0] :: slots.toList.drop 1 := by
  have hpos : 0 < slots.toList.length := by
    rw [Vector.length_toList]
    decide
  rw [← Vector.getElem_toList hpos]
  exact List.drop_eq_getElem_cons hpos

/-- A periodic device has sent bursts with eight intervals that are nearly the same. -/
theorem regular_of_isPeriodic (h : isPeriodic m = true) : Regular m.samples.recent := by
  unfold isPeriodic at h
  split at h
  · cases h
  rename_i hcount
  split at h
  · cases h
  rename_i hzero
  have hfull : m.samples.count = 8 := Nat.le_antisymm m.samples.count_le (Nat.not_lt.mp hcount)
  have hmedian := isMedian_median hfull
  have hslots := slots_eq_cons m.samples.slots
  have hperm := Ring.recent_perm hfull
  dsimp only at h
  obtain ⟨hlo, hlow⟩ := lowest_le (m.samples.slots.toList.drop 1) m.samples.slots[0]
  obtain ⟨hhi, hhigh⟩ := le_highest (m.samples.slots.toList.drop 1) m.samples.slots[0]
  rw [Bool.and_eq_true, decide_eq_true_iff, decide_eq_true_iff] at h
  generalize (m.samples.slots.toList.drop 1).foldl (fun lo sample => if sample < lo then sample else lo) m.samples.slots[0] = lo at *
  generalize (m.samples.slots.toList.drop 1).foldl (fun hi sample => if hi < sample then sample else hi) m.samples.slots[0] = hi at *
  have hall : ∀ interval ∈ m.samples.recent, lo ≤ interval ∧ interval ≤ hi := by
    intro interval hmem
    have hslot := hperm.mem_iff.mp hmem
    rw [hslots] at hslot
    rcases List.mem_cons.mp hslot with rfl | hrest
    · exact ⟨hlo, hhi⟩
    · exact ⟨hlow interval hrest, hhigh interval hrest⟩
  refine ⟨by rw [Ring.length_recent, hfull], median m, hmedian, ?_, ?_⟩
  · exact UInt32.pos_iff_ne_zero.mpr hzero
  · intro interval hmem
    have hinterval := hall interval hmem
    have hmiddle := hall _ hmedian.mem
    simp only [UInt32.le_iff_toNat_le, UInt32.toNat_sub_of_le _ _ hmiddle.1, UInt32.toNat_sub_of_le _ _ hmiddle.2,
      UInt32.toNat_div] at h hinterval hmiddle
    have hquarter : (4 : UInt32).toNat = 4 := rfl
    rw [hquarter] at h
    omega

/-! ### Runs in real time -/

inductive Event where
  | input (ts : Nat)
  | valuesPolled (polled : Bool)
  | tick (now : Nat)
  | silenceNotice (now : Nat)
  | reset (now : Nat)
  deriving DecidableEq

/-- A watchdog and what was seen of it in real time: when the last burst began and the last report came, all the intervals it has learned, the latest first, and when it acted since the last report and how often with a recovery. -/
structure Watch where
  watchdog : InputWatchdog
  now : Nat
  burstAt : Nat
  inputAt : Nat
  intervals : List UInt32
  actions : List Nat
  recovers : Nat

def Watch.initial (cfg : Config) (memory : Vector UInt32 8) : Watch :=
  ⟨InputWatchdog.initial cfg memory, 0, 0, 0, [], [], 0⟩

/-- A report that belongs to the burst that goes on. -/
def sameBurst (ts : UInt32) (m : InputWatchdog) : Bool :=
  m.haveBurst && decide (ts - m.lastInputMs < m.cfg.burstGapMs)

def observe (w : Watch) : Event → Watch
  | .input ts =>
      { watchdog := onInput (Clock.millis ts) w.watchdog
        now := ts
        burstAt := if sameBurst (Clock.millis ts) w.watchdog = true then w.burstAt else ts
        inputAt := ts
        intervals := (learned (Clock.millis ts) w.watchdog).toList ++ w.intervals
        actions := []
        recovers := 0 }
  | .valuesPolled polled => { w with watchdog := setValuesPolled polled w.watchdog }
  | .tick now =>
      let answer := InputWatchdog.tick (Clock.millis now) w.watchdog
      { w with
        watchdog := answer.1
        now
        actions := if answer.2 = .none then w.actions else now :: w.actions
        recovers := if answer.2 = .recover then w.recovers + 1 else w.recovers }
  | .silenceNotice now => { w with watchdog := (takeSilenceNotice (Clock.millis now) w.watchdog).1, now }
  | .reset now => ⟨InputWatchdog.reset (Clock.millis now) w.watchdog, now, now, now, [], [], 0⟩

def InOrder (w : Watch) : Event → Prop
  | .input now | .tick now | .silenceNotice now | .reset now => w.now ≤ now
  | .valuesPolled _ => True

instance (w : Watch) : (event : Event) → Decidable (InOrder w event)
  | .input now | .tick now | .silenceNotice now | .reset now => inferInstanceAs (Decidable (w.now ≤ now))
  | .valuesPolled _ => isTrue trivial

/-- The silence of a periodic device lasts until `time`, long enough to act on it. -/
def Overdue (w : Watch) (time : Nat) : Prop :=
  isPeriodic w.watchdog = true ∧ w.inputAt + (silenceThresholdMs w.watchdog).toNat ≤ time

instance (w : Watch) (time : Nat) : Decidable (Overdue w time) := inferInstanceAs (Decidable (_ ∧ _))

/-- An action is due: the values would freeze, the device is regular and overdue, the last action is some time ago, and the recoveries come before the restart. -/
structure Due (w : Watch) (now : Nat) (action : LinkMonitor.Action) : Prop where
  frozen : w.watchdog.valuesPolled = false
  regular : Regular (w.intervals.take 8)
  overdue : w.inputAt + (silenceThresholdMs w.watchdog).toNat ≤ now
  apart : ∀ earlier ∈ w.actions, earlier + w.watchdog.cfg.retryMs.toNat ≤ now
  recovery : action = .recover → w.recovers < w.watchdog.cfg.maxRecoveries.toNat
  restart : action = .restart → w.recovers = w.watchdog.cfg.maxRecoveries.toNat

/-- A step keeps the promises: an action is only taken when it is due, and a silence that was long enough for one teaches no interval. -/
def Kept (w : Watch) : Event → Prop
  | .input ts => Overdue w ts → (onInput (Clock.millis ts) w.watchdog).samples = w.watchdog.samples
  | .tick now => (InputWatchdog.tick (Clock.millis now) w.watchdog).2 ≠ .none →
      Due w now (InputWatchdog.tick (Clock.millis now) w.watchdog).2
  | .valuesPolled _ | .silenceNotice _ | .reset _ => True

/-- The report that ends a silence shows it: the time since the last burst does not look short, or the report looks like one of that burst. -/
def Shown (w : Watch) : Event → Prop
  | .input ts => Overdue w ts → (silenceThresholdMs w.watchdog).toNat ≤ (ts - w.burstAt) % 2 ^ 32
      ∨ (ts - w.inputAt) % 2 ^ 32 < w.watchdog.cfg.burstGapMs.toNat
  | .tick _ | .valuesPolled _ | .silenceNotice _ | .reset _ => True

instance (w : Watch) : (event : Event) → Decidable (Shown w event)
  | .input _ => inferInstanceAs (Decidable (_ → (_ ∨ _)))
  | .tick _ | .valuesPolled _ | .silenceNotice _ | .reset _ => isTrue trivial

/-! ### The steps -/

def acted (now : UInt32) (m : InputWatchdog) : InputWatchdog := { m with silent := true, windowStartMs := now }

theorem tick_cases (now : UInt32) (m : InputWatchdog) :
    tick now m = (m, .none)
      ∨ isStale now m = true ∧ (m.silent = true → m.cfg.retryMs ≤ now - m.windowStartMs)
        ∧ (tick now m = (acted now m, .restart) ∧ m.cfg.maxRecoveries ≤ m.recoveries
          ∨ tick now m = ({ acted now m with recoveries := m.recoveries + 1 }, .recover)
            ∧ m.recoveries < m.cfg.maxRecoveries) := by
  unfold tick
  split
  · exact Or.inl rfl
  rename_i hstale
  rw [Bool.not_eq_false] at hstale
  split
  · exact Or.inl rfl
  rename_i hretry
  have hretry : m.silent = true → m.cfg.retryMs ≤ now - m.windowStartMs := by
    intro hsilent
    exact UInt32.not_lt.mp fun hearly => hretry ⟨hsilent, hearly⟩
  split
  · rename_i hspent
    exact Or.inr ⟨hstale, hretry, Or.inl ⟨rfl, hspent⟩⟩
  · rename_i hleft
    exact Or.inr ⟨hstale, hretry, Or.inr ⟨rfl, UInt8.not_le.mp hleft⟩⟩

theorem samples_onInput (ts : UInt32) (m : InputWatchdog) :
    (onInput ts m).samples = (learned ts m).elim m.samples fun interval => m.samples.push interval := by
  unfold onInput learned
  split
  · rfl
  · dsimp only
    split
    · rfl
    · rfl

theorem sameBurst_iff (ts : UInt32) (m : InputWatchdog) :
    sameBurst ts m = true ↔ m.haveBurst = true ∧ ts - m.lastInputMs < m.cfg.burstGapMs := by
  unfold sameBurst
  rw [Bool.and_eq_true, decide_eq_true_iff]

theorem onInput_fields (ts : UInt32) (m : InputWatchdog) :
    (onInput ts m).cfg = m.cfg ∧ (onInput ts m).haveBurst = true ∧ (onInput ts m).lastInputMs = ts
      ∧ (onInput ts m).lastBurstMs = (if sameBurst ts m = true then m.lastBurstMs else ts)
      ∧ (onInput ts m).silent = false ∧ (onInput ts m).recoveries = 0 := by
  have hsame := sameBurst_iff ts m
  unfold onInput
  split
  · rename_i hburst
    rw [if_pos (hsame.mpr hburst)]
    exact ⟨rfl, hburst.1, rfl, rfl, rfl, rfl⟩
  · rename_i hnew
    rw [if_neg fun hburst => hnew (hsame.mp hburst)]
    exact ⟨rfl, rfl, rfl, rfl, rfl, rfl⟩

/-! ### The invariant -/

/-- The samples are the last intervals, the stamps are on the clock, and the ladder counts the actions since the last report. -/
structure Sound (w : Watch) : Prop where
  samples : w.watchdog.samples.recent = w.intervals.take 8
  burst : 0 < w.watchdog.samples.count → w.watchdog.haveBurst = true
  lastBurst : w.watchdog.lastBurstMs = Clock.millis w.burstAt
  lastInput : w.watchdog.lastInputMs = Clock.millis w.inputAt
  past : w.burstAt ≤ w.inputAt ∧ w.inputAt ≤ w.now
  recovers : w.watchdog.recoveries.toNat = w.recovers ∧ w.recovers ≤ w.watchdog.cfg.maxRecoveries.toNat
  idle : w.watchdog.silent = false → w.actions = []
  window : w.watchdog.silent = true → ∃ start, w.watchdog.windowStartMs = Clock.millis start ∧ start ≤ w.now
    ∧ ∀ earlier ∈ w.actions, earlier ≤ start

variable {w : Watch} {now : Nat}

theorem sound_initial (cfg : Config) (memory : Vector UInt32 8) : Sound (Watch.initial cfg memory) where
  samples := Ring.recent_empty _ memory
  burst h := absurd h (Nat.lt_irrefl 0)
  lastBurst := rfl
  lastInput := rfl
  past := ⟨Nat.le_refl 0, Nat.le_refl 0⟩
  recovers := ⟨rfl, Nat.zero_le _⟩
  idle _ := rfl
  window h := absurd h Bool.false_ne_true

theorem Sound.later (h : Sound w) (hnow : w.now ≤ now) : Sound { w with now } where
  samples := h.samples
  burst := h.burst
  lastBurst := h.lastBurst
  lastInput := h.lastInput
  past := ⟨h.past.1, Nat.le_trans h.past.2 hnow⟩
  recovers := h.recovers
  idle := h.idle
  window hsilent := by
    obtain ⟨start, hstart, hpast, hall⟩ := h.window hsilent
    exact ⟨start, hstart, Nat.le_trans hpast hnow, hall⟩

theorem sound_input (h : Sound w) (hnow : w.now ≤ now) : Sound (observe w (.input now)) := by
  obtain ⟨hcfg, hburst, hinput, hlast, hsilent, hrecoveries⟩ := onInput_fields (Clock.millis now) w.watchdog
  refine ⟨?_, fun _ => hburst, ?_, hinput, ?_, ⟨by rw [observe, hrecoveries]; rfl, Nat.zero_le _⟩, fun _ => rfl, ?_⟩
  · show (onInput (Clock.millis now) w.watchdog).samples.recent = _
    rw [samples_onInput]
    show _ = ((learned (Clock.millis now) w.watchdog).toList ++ w.intervals).take 8
    cases learned (Clock.millis now) w.watchdog with
    | none => exact h.samples
    | some interval => exact Ring.recent_push_take h.samples
  · refine hlast.trans ?_
    show _ = Clock.millis (if sameBurst (Clock.millis now) w.watchdog = true then w.burstAt else now)
    split
    · exact h.lastBurst
    · rfl
  · refine ⟨?_, Nat.le_refl now⟩
    show (if sameBurst (Clock.millis now) w.watchdog = true then w.burstAt else now) ≤ now
    split
    · exact Nat.le_trans h.past.1 (Nat.le_trans h.past.2 hnow)
    · exact Nat.le_refl now
  · intro hloud
    exact absurd (hsilent.symm.trans hloud) Bool.false_ne_true

/-- Each earlier action was made when the window started, or before. -/
theorem Sound.retried (h : Sound w) (hnow : w.now ≤ now)
    (hretry : w.watchdog.silent = true → w.watchdog.cfg.retryMs ≤ Clock.millis now - w.watchdog.windowStartMs) :
    ∀ earlier ∈ w.actions, earlier + w.watchdog.cfg.retryMs.toNat ≤ now := by
  intro earlier hmem
  cases hsilent : w.watchdog.silent with
  | false =>
      rw [h.idle hsilent] at hmem
      cases hmem
  | true =>
      obtain ⟨start, hstart, hpast, hall⟩ := h.window hsilent
      have hlong := hretry hsilent
      rw [hstart] at hlong
      have hpassed := Clock.passed_of_le (Nat.le_trans hpast hnow) hlong
      have hearlier := hall earlier hmem
      omega

theorem Sound.actions_past (h : Sound w) : ∀ earlier ∈ w.actions, earlier ≤ w.now := by
  intro earlier hmem
  cases hsilent : w.watchdog.silent with
  | false =>
      rw [h.idle hsilent] at hmem
      cases hmem
  | true =>
      obtain ⟨start, -, hpast, hall⟩ := h.window hsilent
      exact Nat.le_trans (hall earlier hmem) hpast

theorem Sound.acts (h : Sound w) (hnow : w.now ≤ now) {recoveries : UInt8} {recovers : Nat}
    (hrecovers : recoveries.toNat = recovers ∧ recovers ≤ w.watchdog.cfg.maxRecoveries.toNat) :
    Sound { w with
      watchdog := { acted (Clock.millis now) w.watchdog with recoveries }
      now
      actions := now :: w.actions
      recovers } where
  samples := h.samples
  burst := h.burst
  lastBurst := h.lastBurst
  lastInput := h.lastInput
  past := ⟨h.past.1, Nat.le_trans h.past.2 hnow⟩
  recovers := hrecovers
  idle hsilent := absurd hsilent.symm Bool.false_ne_true
  window _ := by
    refine ⟨now, rfl, Nat.le_refl now, ?_⟩
    intro earlier hmem
    rcases List.mem_cons.mp hmem with rfl | hearlier
    · exact Nat.le_refl _
    · exact Nat.le_trans (h.actions_past earlier hearlier) hnow

theorem sound_tick (h : Sound w) (hnow : w.now ≤ now) : Sound (observe w (.tick now)) := by
  unfold observe
  dsimp only
  rcases tick_cases (Clock.millis now) w.watchdog with hnone | ⟨-, -, ⟨hrestart, -⟩ | ⟨hrecover, hleft⟩⟩
  · rw [hnone]
    exact h.later hnow
  · rw [hrestart]
    exact h.acts hnow h.recovers
  · rw [hrecover]
    rw [UInt8.lt_iff_toNat_lt, h.recovers.1] at hleft
    refine h.acts hnow ⟨?_, hleft⟩
    have hmax : w.watchdog.cfg.maxRecoveries.toNat < 256 := w.watchdog.cfg.maxRecoveries.toNat_lt
    rw [UInt8.toNat_add, h.recovers.1]
    show (w.recovers + 1) % 2 ^ 8 = w.recovers + 1
    omega

theorem sound_observe {event : Event} (horder : InOrder w event) (h : Sound w) : Sound (observe w event) := by
  cases event with
  | input ts => exact sound_input h horder
  | tick now => exact sound_tick h horder
  | valuesPolled polled => exact ⟨h.samples, h.burst, h.lastBurst, h.lastInput, h.past, h.recovers, h.idle, h.window⟩
  | silenceNotice now =>
      have hlater : Sound { w with now } := h.later horder
      unfold observe takeSilenceNotice
      dsimp only
      split
      · exact hlater
      · exact ⟨hlater.samples, hlater.burst, hlater.lastBurst, hlater.lastInput, hlater.past, hlater.recovers,
          hlater.idle, hlater.window⟩
  | reset now =>
      exact ⟨Ring.recent_empty _ _, fun hcount => absurd hcount (Nat.lt_irrefl 0), rfl, rfl,
        ⟨Nat.le_refl now, Nat.le_refl now⟩, ⟨rfl, Nat.zero_le _⟩, fun _ => rfl, fun hsilent => absurd hsilent Bool.false_ne_true⟩

/-! ### What is kept -/

theorem Sound.due (h : Sound w) (hnow : w.now ≤ now)
    (hacts : (tick (Clock.millis now) w.watchdog).2 ≠ .none) : Due w now (tick (Clock.millis now) w.watchdog).2 := by
  rcases tick_cases (Clock.millis now) w.watchdog with hnone | ⟨hstale, hretry, haction⟩
  · rw [hnone] at hacts
    exact absurd rfl hacts
  · unfold isStale isSilent at hstale
    rw [Bool.and_eq_true, Bool.and_eq_true, Bool.not_eq_true', decide_eq_true_iff] at hstale
    obtain ⟨hfrozen, hperiodic, hlong⟩ := hstale
    have hregular := regular_of_isPeriodic hperiodic
    rw [h.samples] at hregular
    rw [h.lastInput] at hlong
    have hoverdue := Clock.passed_of_le (Nat.le_trans h.past.2 hnow) hlong
    refine ⟨hfrozen, hregular, hoverdue, h.retried hnow hretry, ?_, ?_⟩
    · intro hrecovery
      rcases haction with ⟨hrestart, -⟩ | ⟨-, hleft⟩
      · rw [hrestart] at hrecovery
        cases hrecovery
      · rwa [UInt8.lt_iff_toNat_lt, h.recovers.1] at hleft
    · intro hrestart
      rcases haction with ⟨-, hspent⟩ | ⟨hrecover, -⟩
      · rw [UInt8.le_iff_toNat_le, h.recovers.1] at hspent
        exact Nat.le_antisymm h.recovers.2 hspent
      · rw [hrecover] at hrestart
        cases hrestart

theorem haveBurst_of_periodic (h : Sound w) (hperiodic : isPeriodic w.watchdog = true) : w.watchdog.haveBurst = true := by
  apply h.burst
  have hregular := regular_of_isPeriodic hperiodic
  have hlength := w.watchdog.samples.length_recent
  rw [hregular.1] at hlength
  omega

theorem Sound.kept_input_iff (h : Sound w) (hnow : w.now ≤ now) : Kept w (.input now) ↔ Shown w (.input now) := by
  refine forall_congr' fun hoverdue => ?_
  have hburst := haveBurst_of_periodic h hoverdue.1
  have hgap := Clock.toNat_sub (Nat.le_trans h.past.2 hnow)
  have hinterval := Clock.toNat_sub (Nat.le_trans h.past.1 (Nat.le_trans h.past.2 hnow))
  rw [← h.lastInput] at hgap
  rw [← h.lastBurst] at hinterval
  rw [← hgap, ← hinterval, ← UInt32.le_iff_toNat_le, ← UInt32.lt_iff_toNat_lt]
  have hlearned : (onInput (Clock.millis now) w.watchdog).samples = w.watchdog.samples
      ↔ learned (Clock.millis now) w.watchdog = none := by
    rw [samples_onInput]
    cases learned (Clock.millis now) w.watchdog with
    | none => exact iff_of_true rfl rfl
    | some interval => exact iff_of_false (Ring.push_ne (by decide)) (by simp)
  rw [hlearned]
  unfold learned
  rw [hburst, hoverdue.1]
  simp only [true_and]
  split
  · rename_i hsame
    exact iff_of_true rfl (Or.inr hsame)
  · rename_i hnew
    split
    · rename_i hshort
      exact iff_of_false (by simp) (not_or.mpr ⟨hshort, hnew⟩)
    · rename_i hlong
      exact iff_of_true rfl (Or.inl (not_not.mp hlong))

theorem Sound.kept_iff (h : Sound w) {event : Event} (horder : InOrder w event) : Kept w event ↔ Shown w event := by
  cases event with
  | input ts => exact h.kept_input_iff horder
  | tick now => exact iff_of_true (h.due horder) trivial
  | valuesPolled polled => exact Iff.rfl
  | silenceNotice now => exact Iff.rfl
  | reset now => exact Iff.rfl

/-- In a run whose silences show their length an action is only taken when it is due and no silence is learned, and in no other run. -/
theorem silence_kept_iff (cfg : Config) (memory : Vector UInt32 8) (events : List Event)
    (horder : Along InOrder observe (Watch.initial cfg memory) events) :
    Along Kept observe (Watch.initial cfg memory) events ↔ Along Shown observe (Watch.initial cfg memory) events :=
  along_congr (sound_initial cfg memory) (fun _ _ hevent h => sound_observe hevent h)
    (fun _ _ hevent h => h.kept_iff hevent) events horder

/-- Within one turn of the clock since the last burst every silence shows its length. -/
theorem Sound.shown_of_turn (h : Sound w) (hturn : now < w.burstAt + 2 ^ 32) : Shown w (.input now) := by
  rintro ⟨-, hoverdue⟩
  left
  have hpast := h.past.1
  rw [Nat.mod_eq_of_lt (by omega)]
  omega

def nineReports : List Event := (List.range 9).map fun i => .input (10000 * i)

/-- The silence of a device that sends every ten seconds is acted on after fifty. -/
theorem silence_kept_iff_acts :
    Along Kept observe (Watch.initial defaultConfig (Vector.replicate 8 0)) (nineReports ++ [.tick 130000, .input 131000]) :=
  (silence_kept_iff defaultConfig (Vector.replicate 8 0) (nineReports ++ [.tick 130000, .input 131000])
    (by decide +kernel)).mpr (by decide +kernel)

/-- After a whole turn of the clock a silence looks like an interval of twenty seconds, which is learned. -/
theorem long_silence_is_learned :
    Along InOrder observe (Watch.initial defaultConfig (Vector.replicate 8 0))
        (nineReports ++ [.valuesPolled true, .input (2 ^ 32 + 100000)])
      ∧ ¬ Along Kept observe (Watch.initial defaultConfig (Vector.replicate 8 0))
        (nineReports ++ [.valuesPolled true, .input (2 ^ 32 + 100000)]) := by
  refine ⟨by decide +kernel, ?_⟩
  intro hkept
  have hlast := ((along_append (nineReports ++ [.valuesPolled true]) [.input (2 ^ 32 + 100000)]).mp hkept).2.1
  exact absurd (hlast (by decide +kernel)) (by decide +kernel)

end InputWatchdog

end EspNut
