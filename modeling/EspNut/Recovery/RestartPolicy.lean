import EspNut.Lib.Clock
import EspNut.Lib.Run

/-!
# The budget of controlled restarts

The number of restarts in a row is kept in memory that survives a restart but not a power cycle. At boot the policy is built from it; each further restart waits longer, after the fourth none is made, and a time of fresh data clears the number.
-/

namespace EspNut

open Lib

inductive RestartPolicy.Decision where
  | none | wait | restart | degraded
  deriving DecidableEq

structure RestartPolicy where
  consecutive : UInt8
  scheduled : Bool
  restartAt : UInt32
  healthy : Bool
  healthySince : UInt32
  cleared : Bool
  deriving DecidableEq

namespace RestartPolicy

def maxRestarts : UInt8 := 4
def healthyResetMs : UInt32 := 120000
def provenResetMs : UInt32 := 30000

def delayMs (consecutive : UInt8) : UInt32 := [0, 60000, 300000, 900000].getD consecutive.toNat 0

def initial (consecutive : UInt8) : RestartPolicy := ⟨consecutive, false, 0, false, 0, false⟩

def isDegraded (p : RestartPolicy) : Bool := decide (maxRestarts ≤ p.consecutive)

def trackHealth (healthy proven : Bool) (now : UInt32) (p : RestartPolicy) : RestartPolicy :=
  if healthy = false then { p with healthy := false }
  else
    let healthySince := if p.healthy = true then p.healthySince else now
    let needed := if proven = true then provenResetMs else healthyResetMs
    if 0 < p.consecutive ∧ needed ≤ now - healthySince then
      { p with healthy := true, healthySince, consecutive := 0, cleared := true }
    else { p with healthy := true, healthySince }

/-- The wait starts with the request, and goes on while the request stands. -/
def schedule (now : UInt32) (p : RestartPolicy) : RestartPolicy :=
  if p.scheduled = true then p else { p with scheduled := true, restartAt := now + delayMs p.consecutive }

def update (restartRequested healthy : Bool) (now : UInt32) (proven : Bool) (p : RestartPolicy) : RestartPolicy × Decision :=
  let tracked := trackHealth healthy proven now p
  if restartRequested = false then ({ tracked with scheduled := false }, .none)
  else if isDegraded tracked = true then (tracked, .degraded)
  else (schedule now tracked, if Clock.reached now (schedule now tracked).restartAt = true then .restart else .wait)

def takeCleared (p : RestartPolicy) : RestartPolicy × Bool := ({ p with cleared := false }, p.cleared)

end RestartPolicy

/-! ### The memory that survives a restart -/

namespace CrashDiag

inductive ResetReason where
  | powerOn | ext | sw | panic | intWdt | taskWdt | wdt | deepSleep | brownout | sdio | unknown
  deriving DecidableEq

/-- The part of the memory that counts controlled restarts, whatever it holds after a power cycle. -/
structure RestartRecord where
  restartCountMagic : UInt32
  restartCount : UInt8
  deriving DecidableEq

def restartCountMagic : UInt32 := 0x4E555443

/-- A reset that leaves the record as it was. -/
def Keeps (reason : ResetReason) (record : RestartRecord) : Prop :=
  record.restartCountMagic = restartCountMagic ∧ reason ≠ .powerOn ∧ reason ≠ .brownout

instance (reason : ResetReason) (record : RestartRecord) : Decidable (Keeps reason record) :=
  inferInstanceAs (Decidable (_ ∧ _ ∧ _))

def begin (reason : ResetReason) (record : RestartRecord) : RestartRecord :=
  if record.restartCountMagic ≠ restartCountMagic ∨ reason = .powerOn ∨ reason = .brownout then ⟨restartCountMagic, 0⟩
  else record

def recordControlledRestart (record : RestartRecord) : RestartRecord :=
  { record with restartCount := if record.restartCount < 255 then record.restartCount + 1 else record.restartCount }

def consecutiveRestarts (record : RestartRecord) : UInt8 := record.restartCount

def clearConsecutiveRestarts (record : RestartRecord) : RestartRecord := { record with restartCount := 0 }

theorem begin_of_keeps {reason : ResetReason} {record : RestartRecord} (h : Keeps reason record) :
    begin reason record = record := by
  unfold begin
  rw [if_neg]
  rintro (hmagic | hpower | hbrownout)
  · exact hmagic h.1
  · exact h.2.1 hpower
  · exact h.2.2 hbrownout

theorem begin_of_not_keeps {reason : ResetReason} {record : RestartRecord} (h : ¬ Keeps reason record) :
    begin reason record = ⟨restartCountMagic, 0⟩ := by
  unfold begin
  rw [if_pos]
  by_contra hnone
  rw [not_or, not_or, ne_eq, not_not] at hnone
  exact h hnone

end CrashDiag

/-! ### The board -/

namespace RestartPolicy

open CrashDiag

/-- What a reset leaves of the board, and what it does not. -/
structure Board where
  record : RestartRecord
  policy : RestartPolicy
  deriving DecidableEq

def setup (reason : ResetReason) (record : RestartRecord) : Board where
  record := CrashDiag.begin reason record
  policy := RestartPolicy.initial (consecutiveRestarts (CrashDiag.begin reason record))

/-- The part of the main loop that restarts the board: the answer `restart` is followed by the reset. -/
def loop (restartRequested healthy proven : Bool) (now : UInt32) (b : Board) : Board × Decision :=
  let answer := update restartRequested healthy now proven b.policy
  let taken := takeCleared answer.1
  let record := if taken.2 = true then clearConsecutiveRestarts b.record else b.record
  (⟨if answer.2 = .restart then recordControlledRestart record else record, taken.1⟩, answer.2)

/-! ### Runs over any number of resets, in real time -/

inductive Event where
  | loop (restartRequested healthy proven : Bool) (now : Nat)
  | reset (reason : ResetReason) (record : RestartRecord) (now : Nat)
  deriving DecidableEq

/-- A board, since when it runs, since when a restart is asked for and the device is healthy without a break, and the controlled restarts since the counter was cleared, the latest first, each with the start of the request it answered. -/
structure Watch where
  board : Board
  running : Bool
  bootedAt : Nat
  now : Nat
  requestedSince : Option Nat
  healthySince : Option Nat
  restarts : List (Nat × Nat)

/-- The first boot. -/
def Watch.initial (reason : ResetReason) (record : RestartRecord) : Watch := ⟨setup reason record, true, 0, 0, none, none, []⟩

/-- A state that holds goes on, or starts now. -/
def since (holds : Bool) (now : Nat) (before : Option Nat) : Option Nat :=
  if holds = true then some (before.getD now) else none

/-- The clock of the board starts at its boot. -/
def Watch.clock (w : Watch) (now : Nat) : UInt32 := Clock.millis (now - w.bootedAt)

/-- Whether the loop clears the counter. -/
def clears (restartRequested healthy proven : Bool) (now : UInt32) (b : Board) : Bool :=
  (takeCleared (update restartRequested healthy now proven b.policy).1).2

def observe (w : Watch) : Event → Watch
  | .loop restartRequested healthy proven now =>
      let answer := loop restartRequested healthy proven (w.clock now) w.board
      let requestedSince := since restartRequested now w.requestedSince
      let restarts := if clears restartRequested healthy proven (w.clock now) w.board = true then [] else w.restarts
      { w with
        board := answer.1
        running := decide (answer.2 ≠ .restart)
        now
        requestedSince
        healthySince := since healthy now w.healthySince
        restarts := if answer.2 = .restart then (requestedSince.getD now, now) :: restarts else restarts }
  | .reset reason record now =>
      { board := setup reason record
        running := true
        bootedAt := now
        now
        requestedSince := none
        healthySince := none
        restarts := if Keeps reason record then w.restarts else [] }

/-- The loop runs until it asks for a restart. A reset finds the record as it was left, or one that is not valid, or it comes with the power. -/
def Possible (w : Watch) : Event → Prop
  | .loop _ _ _ now => w.running = true ∧ w.now ≤ now
  | .reset reason record now => w.now ≤ now ∧ (Keeps reason record → record = w.board.record)

instance (w : Watch) : (event : Event) → Decidable (Possible w event)
  | .loop _ _ _ _ => inferInstanceAs (Decidable (_ ∧ _))
  | .reset _ _ _ => inferInstanceAs (Decidable (_ ∧ (_ → _)))

/-- How long a request must stand, in seconds, before the next restart. -/
def waits : List Nat := [0, 60, 300, 900]

/-- Each restart has waited its turn, by the number of those before it. -/
def Waited : List (Nat × Nat) → Prop
  | [] => True
  | restart :: earlier => restart.1 + 1000 * waits.getD earlier.length 0 ≤ restart.2 ∧ Waited earlier

variable {w : Watch} {p : RestartPolicy} {boot now : Nat}

/-! ### Health and requests on the clock of the board -/

/-- A policy that is healthy knows since when. -/
def HealthSince (boot : Nat) (p : RestartPolicy) (healthySince : Option Nat) (now : Nat) : Prop :=
  p.healthy = false ∧ healthySince = none
    ∨ p.healthy = true ∧ ∃ start, healthySince = some start ∧ boot ≤ start ∧ start ≤ now
      ∧ p.healthySince = Clock.millis (start - boot)

/-- A wait that runs began after the request it answers, and is long enough. -/
def WaitSince (boot : Nat) (p : RestartPolicy) (requestedSince : Option Nat) (now : Nat) : Prop :=
  p.scheduled = true → ∃ asked start delay, requestedSince = some asked ∧ asked ≤ start ∧ boot ≤ start ∧ start ≤ now
    ∧ p.restartAt = Clock.millis (start - boot) + delay ∧ delayMs p.consecutive ≤ delay ∧ delay ≤ 900000

/-- How long the device must be healthy. -/
def needed (proven : Bool) : UInt32 := if proven = true then provenResetMs else healthyResetMs

/-- Tracking the health changes the counter only to clear it, after the time it takes. -/
theorem trackHealth_spec {healthySince : Option Nat} {before : Nat} (h : HealthSince boot p healthySince before)
    (hbefore : before ≤ now) (hboot : boot ≤ now) (healthy proven : Bool) :
    HealthSince boot (trackHealth healthy proven (Clock.millis (now - boot)) p) (since healthy now healthySince) now
      ∧ ((trackHealth healthy proven (Clock.millis (now - boot)) p).consecutive = p.consecutive
          ∧ (trackHealth healthy proven (Clock.millis (now - boot)) p).cleared = p.cleared
        ∨ (trackHealth healthy proven (Clock.millis (now - boot)) p).consecutive = 0
          ∧ (trackHealth healthy proven (Clock.millis (now - boot)) p).cleared = true ∧ healthy = true
          ∧ ∃ start, since healthy now healthySince = some start ∧ start + (needed proven).toNat ≤ now)
      ∧ (trackHealth healthy proven (Clock.millis (now - boot)) p).scheduled = p.scheduled
      ∧ (trackHealth healthy proven (Clock.millis (now - boot)) p).restartAt = p.restartAt := by
  cases healthy with
  | false => exact ⟨Or.inl ⟨rfl, rfl⟩, Or.inl ⟨rfl, rfl⟩, rfl, rfl⟩
  | true =>
      obtain ⟨start, hsince, hstart, hpast, hclock⟩ : ∃ start, since true now healthySince = some start ∧ boot ≤ start
          ∧ start ≤ now ∧ (if p.healthy = true then p.healthySince else Clock.millis (now - boot))
            = Clock.millis (start - boot) := by
        rcases h with ⟨hill, hnone⟩ | ⟨hwell, start, hsome, hstart, hpast, hclock⟩
        · refine ⟨now, ?_, hboot, Nat.le_refl now, ?_⟩
          · rw [hnone]
            rfl
          · rw [hill]
            rfl
        · refine ⟨start, ?_, hstart, Nat.le_trans hpast hbefore, ?_⟩
          · rw [hsome]
            rfl
          · rw [if_pos hwell]
            exact hclock
      unfold trackHealth
      rw [if_neg (by decide)]
      dsimp only
      rw [hclock]
      rw [← needed]
      split
      · rename_i hclear
        have hpassed := Clock.passed_of_le (by omega) hclear.2
        refine ⟨Or.inr ⟨rfl, start, hsince, hstart, hpast, rfl⟩, Or.inr ⟨rfl, rfl, rfl, start, hsince, ?_⟩, rfl, rfl⟩
        omega
      · exact ⟨Or.inr ⟨rfl, start, hsince, hstart, hpast, rfl⟩, Or.inl ⟨rfl, rfl⟩, rfl, rfl⟩

theorem delayMs_le (consecutive : UInt8) : delayMs consecutive ≤ 900000 := by
  have hmem : delayMs consecutive ∈ [0, 60000, 300000, 900000, 0] := by
    unfold delayMs
    rw [List.getD_eq_getElem?_getD]
    cases hget : ([0, 60000, 300000, 900000] : List UInt32)[consecutive.toNat]? with
    | none => simp
    | some delay => exact List.mem_append_left [0] (List.mem_of_getElem? hget)
  revert hmem
  generalize delayMs consecutive = delay
  intro hmem
  simp only [List.mem_cons, List.not_mem_nil, or_false] at hmem
  rcases hmem with rfl | rfl | rfl | rfl | rfl <;> decide

/-- A counter that is cleared leaves no longer wait than the one that runs. -/
theorem delayMs_zero_le (delay : UInt32) : delayMs 0 ≤ delay := UInt32.le_iff_toNat_le.mpr (Nat.zero_le _)

theorem schedule_eq (now : UInt32) (p : RestartPolicy) :
    ∃ restartAt, schedule now p = { p with scheduled := true, restartAt } := by
  unfold schedule
  split
  · rename_i hscheduled
    exact ⟨p.restartAt, by rw [← hscheduled]⟩
  · exact ⟨_, rfl⟩

theorem schedule_spec {requestedSince : Option Nat} {before : Nat} (h : WaitSince boot p requestedSince before)
    (hbefore : before ≤ now) (hboot : boot ≤ now) (hpast : ∀ start, requestedSince = some start → start ≤ before) :
    WaitSince boot (schedule (Clock.millis (now - boot)) p) (since true now requestedSince) now := by
  unfold schedule
  split
  · rename_i hscheduled
    obtain ⟨asked, start, delay, hasked, hle, hstart, hnow, hdue⟩ := h hscheduled
    refine fun _ => ⟨asked, start, delay, ?_, hle, hstart, Nat.le_trans hnow hbefore, hdue⟩
    rw [hasked]
    rfl
  · refine fun _ => ⟨requestedSince.getD now, now, delayMs p.consecutive, rfl, ?_, hboot, Nat.le_refl now, rfl,
      UInt32.le_refl _, delayMs_le _⟩
    cases hsome : requestedSince with
    | none => exact Nat.le_refl now
    | some start => exact Nat.le_trans (hpast start hsome) hbefore

theorem WaitSince.passed {requestedSince : Option Nat} (h : WaitSince boot p requestedSince now) (hscheduled : p.scheduled = true)
    (hreached : Clock.reached (Clock.millis (now - boot)) p.restartAt = true) :
    requestedSince.getD now + (delayMs p.consecutive).toNat ≤ now := by
  obtain ⟨asked, start, delay, hasked, hle, hstart, hnow, hdue, hlong, hshort⟩ := h hscheduled
  have hshort : delay.toNat ≤ 900000 := UInt32.le_iff_toNat_le.mp hshort
  have hlong := UInt32.le_iff_toNat_le.mp hlong
  rw [hdue, Clock.millis_add] at hreached
  have hpassed : start + delay.toNat ≤ now := by
    by_contra hearly
    rw [Clock.not_reached (by omega) (by omega)] at hreached
    cases hreached
  rw [hasked]
  show asked + _ ≤ now
  omega

/-- A policy at a time of the board: since when it is healthy and asked for a restart. -/
structure Timed (boot : Nat) (p : RestartPolicy) (requestedSince healthySince : Option Nat) (now : Nat) : Prop where
  health : HealthSince boot p healthySince now
  wait : WaitSince boot p requestedSince now
  past : ∀ start, requestedSince = some start → start ≤ now

theorem Timed.later {requestedSince healthySince : Option Nat} {before : Nat}
    (h : Timed boot p requestedSince healthySince before) (hbefore : before ≤ now) :
    ∀ start, requestedSince = some start → start ≤ now :=
  fun start hstart => Nat.le_trans (h.past start hstart) hbefore

theorem since_past (holds : Bool) {earlier : Option Nat} (hpast : ∀ start, earlier = some start → start ≤ now) :
    ∀ start, since holds now earlier = some start → start ≤ now := by
  intro start hstart
  cases holds with
  | false => cases hstart
  | true =>
      obtain rfl : earlier.getD now = start := Option.some.inj hstart
      cases hearlier : earlier with
      | none => exact Nat.le_refl now
      | some first => exact hpast first hearlier

/-- What one update may do, in real time. -/
structure Updated (boot : Nat) (p : RestartPolicy) (restartRequested healthy proven : Bool)
    (requestedSince healthySince : Option Nat) (now : Nat) (answer : RestartPolicy × Decision) : Prop where
  timed : Timed boot answer.1 requestedSince healthySince now
  counted : answer.1.consecutive = p.consecutive ∧ answer.1.cleared = p.cleared
    ∨ answer.1.consecutive = 0 ∧ answer.1.cleared = true ∧ healthy = true
      ∧ ∃ start, healthySince = some start ∧ start + (needed proven).toNat ≤ now
  restarts : answer.2 = .restart →
    answer.1.consecutive < maxRestarts ∧ requestedSince.getD now + (delayMs answer.1.consecutive).toNat ≤ now
  degraded : restartRequested = true → maxRestarts ≤ answer.1.consecutive → answer.2 = .degraded

theorem update_spec {requestedSince healthySince : Option Nat} {before : Nat}
    (h : Timed boot p requestedSince healthySince before) (hbefore : before ≤ now) (hboot : boot ≤ now)
    (restartRequested healthy proven : Bool) :
    Updated boot p restartRequested healthy proven (since restartRequested now requestedSince)
      (since healthy now healthySince) now (update restartRequested healthy (Clock.millis (now - boot)) proven p) := by
  obtain ⟨hhealth, hcounted, hscheduled, hrestartAt⟩ := trackHealth_spec h.health hbefore hboot healthy proven
  have hpast := since_past restartRequested (h.later hbefore)
  unfold update
  dsimp only
  generalize trackHealth healthy proven (Clock.millis (now - boot)) p = tracked at *
  have hwait : WaitSince boot tracked requestedSince before := by
    intro hwaits
    rw [hscheduled] at hwaits
    obtain ⟨asked, start, delay, hasked, hle, hstart, hnow, hdue, hlong, hshort⟩ := h.wait hwaits
    refine ⟨asked, start, delay, hasked, hle, hstart, hnow, hrestartAt.trans hdue, ?_, hshort⟩
    rcases hcounted with hsame | hcleared
    · rw [hsame.1]
      exact hlong
    · rw [hcleared.1]
      exact delayMs_zero_le delay
  cases restartRequested with
  | false =>
      rw [if_pos rfl]
      refine ⟨⟨hhealth, ?_, hpast⟩, hcounted, ?_, ?_⟩
      · intro hnone
        cases hnone
      · intro hrestart
        cases hrestart
      · intro hrequested
        cases hrequested
  | true =>
      have hwaiting := schedule_spec hwait hbefore hboot h.past
      rw [if_neg (by decide)]
      split
      · rename_i hdegraded
        have hmany : maxRestarts ≤ tracked.consecutive := of_decide_eq_true hdegraded
        refine ⟨⟨hhealth, ?_, hpast⟩, hcounted, ?_, fun _ _ => rfl⟩
        · intro hwaits
          obtain ⟨asked, start, delay, hasked, hle, hstart, hnow, hdue⟩ := hwait hwaits
          refine ⟨asked, start, delay, ?_, hle, hstart, Nat.le_trans hnow hbefore, hdue⟩
          rw [hasked]
          rfl
        · intro hrestart
          cases hrestart
      · rename_i hroom
        have hfew : tracked.consecutive < maxRestarts := UInt8.not_le.mp fun hmany => hroom (decide_eq_true hmany)
        obtain ⟨restartAt, hschedule⟩ := schedule_eq (Clock.millis (now - boot)) tracked
        rw [hschedule] at hwaiting ⊢
        refine ⟨⟨hhealth, hwaiting, hpast⟩, hcounted, ?_, fun _ hmany => absurd hfew (UInt8.not_lt.mpr hmany)⟩
        dsimp only
        split
        · rename_i hreached
          exact fun _ => ⟨hfew, hwaiting.passed rfl hreached⟩
        · intro hrestart
          cases hrestart

theorem toNat_delayMs (consecutive : UInt8) : (delayMs consecutive).toNat = 1000 * waits.getD consecutive.toNat 0 := by
  unfold delayMs
  generalize consecutive.toNat = n
  rcases n with _ | _ | _ | _ | n
  · rfl
  · rfl
  · rfl
  · rfl
  · rfl

/-! ### The counter and the restarts -/

/-- The counter counts the restarts since it was cleared, each of which waited its turn. -/
structure Budget (w : Watch) : Prop where
  magic : w.board.record.restartCountMagic = restartCountMagic
  count : w.board.record.restartCount.toNat = w.restarts.length
  few : w.restarts.length ≤ 4
  waited : Waited w.restarts
  booted : w.bootedAt ≤ w.now
  running : w.running = true → w.board.policy.consecutive = w.board.record.restartCount
    ∧ w.board.policy.cleared = false ∧ Timed w.bootedAt w.board.policy w.requestedSince w.healthySince w.now

theorem timed_initial (consecutive : UInt8) (now : Nat) : Timed now (initial consecutive) none none now where
  health := Or.inl ⟨rfl, rfl⟩
  wait hwaits := absurd hwaits Bool.false_ne_true
  past _ hnone := nomatch hnone

/-- The restarts that count after the loop, before it makes one. -/
def counted (restartRequested healthy proven : Bool) (now : Nat) (w : Watch) : List (Nat × Nat) :=
  if clears restartRequested healthy proven (w.clock now) w.board = true then [] else w.restarts

theorem Budget.updated (h : Budget w) (hrunning : w.running = true) (hnow : w.now ≤ now)
    (restartRequested healthy proven : Bool) :
    Updated w.bootedAt w.board.policy restartRequested healthy proven (since restartRequested now w.requestedSince)
      (since healthy now w.healthySince) now (update restartRequested healthy (w.clock now) proven w.board.policy) :=
  update_spec (h.running hrunning).2.2 hnow (Nat.le_trans h.booted hnow) restartRequested healthy proven

/-- The update counts the same restarts as the list, and a cleared counter stands for none. -/
theorem Budget.counted_spec (h : Budget w) (hrunning : w.running = true) (hnow : w.now ≤ now)
    (restartRequested healthy proven : Bool) :
    (update restartRequested healthy (w.clock now) proven w.board.policy).1.consecutive.toNat
        = (counted restartRequested healthy proven now w).length
      ∧ (counted restartRequested healthy proven now w).length ≤ 4 ∧ Waited (counted restartRequested healthy proven now w) := by
  obtain ⟨hconsecutive, hcleared, -⟩ := h.running hrunning
  unfold counted clears takeCleared
  rcases (h.updated hrunning hnow restartRequested healthy proven).counted with ⟨hsame, hkept⟩ | ⟨hzero, hclears, -⟩
  · rw [hkept, hcleared, if_neg Bool.false_ne_true, hsame, hconsecutive]
    exact ⟨h.count, h.few, h.waited⟩
  · rw [hclears, if_pos rfl, hzero]
    exact ⟨rfl, Nat.zero_le 4, trivial⟩

theorem Budget.record (h : Budget w) (hrunning : w.running = true) (hnow : w.now ≤ now)
    (restartRequested healthy proven : Bool) :
    (if (takeCleared (update restartRequested healthy (w.clock now) proven w.board.policy).1).2 = true
        then clearConsecutiveRestarts w.board.record else w.board.record)
      = ⟨restartCountMagic, (update restartRequested healthy (w.clock now) proven w.board.policy).1.consecutive⟩ := by
  obtain ⟨hconsecutive, hcleared, -⟩ := h.running hrunning
  unfold takeCleared
  rcases (h.updated hrunning hnow restartRequested healthy proven).counted with ⟨hsame, hkept⟩ | ⟨hzero, hclears, -⟩
  · rw [hkept, hcleared, if_neg Bool.false_ne_true, hsame, hconsecutive, ← h.magic]
  · rw [hclears, if_pos rfl, hzero, ← h.magic]
    rfl

theorem budget_loop (h : Budget w) (hrunning : w.running = true) (hnow : w.now ≤ now)
    (restartRequested healthy proven : Bool) : Budget (observe w (.loop restartRequested healthy proven now)) := by
  have hupdate := h.updated hrunning hnow restartRequested healthy proven
  obtain ⟨hcount, hfew, hwaited⟩ := h.counted_spec hrunning hnow restartRequested healthy proven
  have hrecord := h.record hrunning hnow restartRequested healthy proven
  have hbooted := Nat.le_trans h.booted hnow
  unfold observe loop
  dsimp only
  rw [hrecord]
  rw [← counted]
  generalize counted restartRequested healthy proven now w = restarts at *
  generalize update restartRequested healthy (w.clock now) proven w.board.policy = answer at *
  by_cases hdecision : answer.2 = .restart
  · obtain ⟨hroom, hwait⟩ := hupdate.restarts hdecision
    rw [UInt8.lt_iff_toNat_lt, hcount] at hroom
    have hroom : restarts.length < 4 := hroom
    rw [toNat_delayMs, hcount] at hwait
    rw [if_pos hdecision, if_pos hdecision]
    refine ⟨rfl, ?_, hroom, ⟨hwait, hwaited⟩, hbooted, ?_⟩
    · show (if answer.1.consecutive < 255 then answer.1.consecutive + 1 else answer.1.consecutive).toNat = restarts.length + 1
      rw [if_pos (UInt8.lt_iff_toNat_lt.mpr (by rw [hcount]; show restarts.length < 255; omega)), UInt8.toNat_add, hcount]
      show (restarts.length + 1) % 2 ^ 8 = _
      omega
    · intro hruns
      exact absurd hdecision (of_decide_eq_true hruns)
  · rw [if_neg hdecision, if_neg hdecision]
    exact ⟨rfl, hcount, hfew, hwaited, hbooted, fun _ => ⟨rfl, rfl, hupdate.timed.health, hupdate.timed.wait, hupdate.timed.past⟩⟩

theorem budget_reset (h : Budget w) {reason : ResetReason} {record : RestartRecord} {now : Nat}
    (hkeeps : Keeps reason record → record = w.board.record) : Budget (observe w (.reset reason record now)) := by
  unfold observe setup
  by_cases hkept : Keeps reason record
  · dsimp only
    rw [begin_of_keeps hkept, hkeeps hkept, if_pos (hkeeps hkept ▸ hkept)]
    exact ⟨h.magic, h.count, h.few, h.waited, Nat.le_refl now, fun _ => ⟨rfl, rfl, timed_initial _ _⟩⟩
  · dsimp only
    rw [begin_of_not_keeps hkept, if_neg hkept]
    exact ⟨rfl, rfl, Nat.zero_le 4, trivial, Nat.le_refl now, fun _ => ⟨rfl, rfl, timed_initial _ _⟩⟩

theorem budget_observe {event : Event} (hpossible : Possible w event) (h : Budget w) : Budget (observe w event) := by
  cases event with
  | loop restartRequested healthy proven now => exact budget_loop h hpossible.1 hpossible.2 restartRequested healthy proven
  | reset reason record now => exact budget_reset h hpossible.2

theorem budget_initial {reason : ResetReason} {record : RestartRecord} (hfirst : ¬ Keeps reason record) :
    Budget (Watch.initial reason record) := by
  unfold Watch.initial setup
  rw [begin_of_not_keeps hfirst]
  exact ⟨rfl, rfl, Nat.zero_le 4, trivial, Nat.le_refl 0, fun _ => ⟨rfl, rfl, timed_initial _ _⟩⟩

/-- What a clear of the counter needs: a reset that loses the record, or a device that was healthy for long enough. -/
def ClearedBy (w : Watch) : Event → Prop
  | .loop restartRequested healthy proven now => healthy = true ∧
      ∃ start, (observe w (.loop restartRequested healthy proven now)).healthySince = some start
        ∧ start + (if proven = true then 30000 else 120000) ≤ now
  | .reset reason record _ => reason = .powerOn ∨ reason = .brownout ∨ record.restartCountMagic ≠ restartCountMagic

/-- The counter is cleared, also when a restart of the same loop counts on from there. -/
def Clears (w : Watch) : Event → Prop
  | .loop restartRequested healthy proven now => clears restartRequested healthy proven (w.clock now) w.board = true
  | .reset reason record _ => ¬ Keeps reason record

/-- The count after the loop is the one the update leaves, and one more for a restart. -/
theorem Budget.count_loop (h : Budget w) (hrunning : w.running = true) (hnow : w.now ≤ now)
    (restartRequested healthy proven : Bool) :
    (consecutiveRestarts (observe w (.loop restartRequested healthy proven now)).board.record).toNat
      = (update restartRequested healthy (w.clock now) proven w.board.policy).1.consecutive.toNat
        + if (update restartRequested healthy (w.clock now) proven w.board.policy).2 = .restart then 1 else 0 := by
  have hafter := (budget_loop h hrunning hnow restartRequested healthy proven).count
  obtain ⟨hcount, -⟩ := h.counted_spec hrunning hnow restartRequested healthy proven
  refine hafter.trans ?_
  rw [hcount]
  show (if _ then _ :: counted restartRequested healthy proven now w else counted restartRequested healthy proven now w).length = _
  show List.length (if (update restartRequested healthy (w.clock now) proven w.board.policy).2 = .restart then _ else _) = _
  split
  · rfl
  · rfl

theorem cleared_by {event : Event} (hpossible : Possible w event) (h : Budget w) (hclears : Clears w event) :
    ClearedBy w event := by
  cases event with
  | loop restartRequested healthy proven now =>
      obtain ⟨hrunning, hnow⟩ := hpossible
      obtain ⟨-, hcleared, -⟩ := h.running hrunning
      rcases (h.updated hrunning hnow restartRequested healthy proven).counted with ⟨-, hkept⟩ | ⟨-, -, hhealthy, start, hsince, hpassed⟩
      · -- the policy does not report a clear that it has not made
        have hcleared' : w.board.policy.cleared = true := hkept.symm.trans hclears
        exact absurd (hcleared.symm.trans hcleared') Bool.false_ne_true
      · refine ⟨hhealthy, start, hsince, ?_⟩
        cases proven with
        | false => exact hpassed
        | true => exact hpassed
  | reset reason record now =>
      by_contra hnone
      unfold ClearedBy at hnone
      simp only [not_or, ne_eq, not_not] at hnone
      exact hclears ⟨hnone.2.2, hnone.1, hnone.2.1⟩

/-- The counter gets lower only when it is cleared. -/
theorem clears_of_less {event : Event} (hpossible : Possible w event) (h : Budget w)
    (hless : consecutiveRestarts (observe w event).board.record < consecutiveRestarts w.board.record) : Clears w event := by
  rw [UInt8.lt_iff_toNat_lt] at hless
  cases event with
  | loop restartRequested healthy proven now =>
      obtain ⟨hrunning, hnow⟩ := hpossible
      rw [h.count_loop hrunning hnow] at hless
      rcases (h.updated hrunning hnow restartRequested healthy proven).counted with ⟨hsame, -⟩ | ⟨-, hclears, -⟩
      · rw [hsame, (h.running hrunning).1] at hless
        exact absurd hless (Nat.not_lt.mpr (Nat.le_add_right _ _))
      · exact hclears
  | reset reason record now =>
      intro hkept
      have hsame : (observe w (.reset reason record now)).board.record = w.board.record :=
        (begin_of_keeps hkept).trans (hpossible.2 hkept)
      rw [hsame] at hless
      exact absurd hless (Nat.lt_irrefl _)

/-- After the fourth restart a request is only noted, until the counter is cleared. -/
theorem Budget.degrades (h : Budget w) {healthy proven : Bool} (hpossible : Possible w (.loop true healthy proven now))
    (hspent : w.restarts.length = 4) (hkept : ¬ Clears w (.loop true healthy proven now)) :
    (loop true healthy proven (w.clock now) w.board).2 = .degraded := by
  obtain ⟨hrunning, hnow⟩ := hpossible
  have hupdate := h.updated hrunning hnow true healthy proven
  apply hupdate.degraded rfl
  rcases hupdate.counted with ⟨hsame, -⟩ | ⟨-, hclears, -⟩
  · rw [UInt8.le_iff_toNat_le, hsame, (h.running hrunning).1, h.count, hspent]
    exact Nat.le_refl 4
  · exact absurd hclears hkept

/-- Between two clears at most four controlled restarts are made, each after its wait, over any number of resets; then a request is only noted, and the counter is cleared only with the power, an invalid record or a time of fresh data. -/
theorem restart_budget {reason : ResetReason} {record : RestartRecord} (hfirst : ¬ Keeps reason record)
    (events : List Event) (hpossible : Along Possible observe (Watch.initial reason record) events) :
    let w := run observe (Watch.initial reason record) events
    (consecutiveRestarts w.board.record).toNat = w.restarts.length ∧ w.restarts.length ≤ 4 ∧ Waited w.restarts
      ∧ (∀ healthy proven now, Possible w (.loop true healthy proven now) → w.restarts.length = 4 →
          ¬ Clears w (.loop true healthy proven now) → (loop true healthy proven (w.clock now) w.board).2 = .degraded)
      ∧ (∀ event, Possible w event → Clears w event → ClearedBy w event)
      ∧ ∀ event, Possible w event →
          consecutiveRestarts (observe w event).board.record < consecutiveRestarts w.board.record → Clears w event := by
  intro w
  have hbudget : Budget w :=
    run_along (budget_initial hfirst) (fun _ _ hevent h => budget_observe hevent h) events hpossible
  exact ⟨hbudget.count, hbudget.few, hbudget.waited, fun _ _ _ hnext hspent hkept => hbudget.degrades hnext hspent hkept,
    fun _ hnext hclears => cleared_by hnext hbudget hclears, fun _ hnext hless => clears_of_less hnext hbudget hless⟩

/-- Two restarts, the second one a minute after it was asked for. -/
def twoRestarts : List Event :=
  [.loop true false false 200000, .reset .sw ⟨restartCountMagic, 1⟩ 201000, .loop true false false 380000,
    .loop true false false 440000, .reset .panic ⟨restartCountMagic, 2⟩ 441000]

theorem restart_budget_two :
    (run observe (Watch.initial .powerOn ⟨0, 7⟩) twoRestarts).restarts = [(380000, 440000), (200000, 200000)]
      ∧ Waited (run observe (Watch.initial .powerOn ⟨0, 7⟩) twoRestarts).restarts :=
  ⟨by decide +kernel,
    (restart_budget (by decide : ¬ Keeps .powerOn ⟨0, 7⟩) twoRestarts (by decide +kernel)).2.2.1⟩

end RestartPolicy

end EspNut
