import EspNut.Lib.Clock
import EspNut.Lib.Run

/-!
# The health of the control pipe

Failed requests make the poll back off, longer with each failure. While no answer comes the monitor asks for recoveries of the interface, a limited number of them, and then for a restart. Any answer starts the ladder over.
-/

namespace EspNut

open Lib

inductive LinkMonitor.Action where
  | none | recover | restart
  deriving DecidableEq

structure LinkMonitor.Config where
  backoffBaseMs : UInt32
  backoffMaxMs : UInt32
  staleAfterMs : UInt32
  linkTimeoutMs : UInt32
  maxRecoveries : UInt8
  stuckRestartMs : UInt32
  deriving DecidableEq

structure LinkMonitor where
  cfg : LinkMonitor.Config
  failures : UInt8
  recoveries : UInt8
  firstFailureMs : UInt32
  lastAliveMs : UInt32
  windowStartMs : UInt32
  backoffUntilMs : UInt32
  backoffActive : Bool
  deriving DecidableEq

namespace LinkMonitor

def defaultConfig : Config := ⟨2000, 30000, 20000, 60000, 2, 3000⟩

def reset (now : UInt32) (m : LinkMonitor) : LinkMonitor :=
  { cfg := m.cfg
    failures := 0
    firstFailureMs := now
    recoveries := 0
    lastAliveMs := now
    windowStartMs := now
    backoffUntilMs := now
    backoffActive := false }

/-- The monitor as it is constructed. -/
def initial (cfg : Config) : LinkMonitor := reset 0 ⟨cfg, 0, 0, 0, 0, 0, 0, false⟩

def onAlive (now : UInt32) (m : LinkMonitor) : LinkMonitor :=
  { m with failures := 0, recoveries := 0, lastAliveMs := now, windowStartMs := now, backoffActive := false }

/-- The backoff doubled at most `n` times, as long as it is below the maximum. -/
def doubled (max : UInt32) : Nat → UInt32 → UInt32
  | 0, backoff => backoff
  | n + 1, backoff => if backoff < max then doubled max n (backoff * 2) else backoff

def backoffMs (cfg : Config) (failures : UInt8) : UInt32 :=
  let backoff := doubled cfg.backoffMaxMs (failures.toNat - 1) cfg.backoffBaseMs
  if cfg.backoffMaxMs < backoff then cfg.backoffMaxMs else backoff

def onLinkFailure (now : UInt32) (m : LinkMonitor) : LinkMonitor :=
  let failures := if m.failures < 255 then m.failures + 1 else m.failures
  { m with
    firstFailureMs := if m.failures = 0 then now else m.firstFailureMs
    failures
    backoffUntilMs := now + backoffMs m.cfg failures
    backoffActive := true }

def canPoll (now : UInt32) (m : LinkMonitor) : Bool := !m.backoffActive || Clock.reached now m.backoffUntilMs

def isStale (now : UInt32) (m : LinkMonitor) : Bool :=
  decide (0 < m.failures) && decide (m.cfg.staleAfterMs ≤ now - m.lastAliveMs)

/-- A stuck transfer is not freed by a recovery, so it asks for the restart early. -/
def tick (now : UInt32) (ctrlStuck : Bool) (m : LinkMonitor) : LinkMonitor × Action :=
  if m.failures = 0 then (m, .none)
  else if ctrlStuck = true ∧ m.cfg.stuckRestartMs ≤ now - m.firstFailureMs then (m, .restart)
  else if now - m.windowStartMs < m.cfg.linkTimeoutMs then (m, .none)
  else if m.cfg.maxRecoveries ≤ m.recoveries then (m, .restart)
  else ({ m with recoveries := m.recoveries + 1, windowStartMs := now, backoffActive := false }, .recover)

/-! ### Runs in real time -/

/-- What happens to a monitor, at real times. -/
inductive Event where
  | alive (now : Nat)
  | linkFailure (now : Nat)
  | tick (now : Nat) (ctrlStuck : Bool)
  | reset (now : Nat)

def Event.now : Event → Nat
  | .alive now | .linkFailure now | .tick now _ | .reset now => now

def respond (m : LinkMonitor) : Event → LinkMonitor × Action
  | .alive now => (onAlive (Clock.millis now) m, .none)
  | .linkFailure now => (onLinkFailure (Clock.millis now) m, .none)
  | .tick now ctrlStuck => tick (Clock.millis now) ctrlStuck m
  | .reset now => (reset (Clock.millis now) m, .none)

/-- How long the poll is to stay away after the `k`-th failure in a row. -/
def Config.backoffAfter (cfg : Config) (k : Nat) : Nat :=
  min (cfg.backoffBaseMs.toNat * 2 ^ (k - 1)) cfg.backoffMaxMs.toNat

/-- A monitor and what was seen of it in real time: the last sign of life, the failures and the recoveries since then, the latest first, the last recovery at all, and when the backoffs end that nothing has cleared. -/
structure Watch where
  monitor : LinkMonitor
  now : Nat
  aliveAt : Nat
  failures : List Nat
  recovers : List Nat
  lastRecover : Option Nat
  backoffs : List Nat
  deriving DecidableEq

def Watch.initial (cfg : Config) : Watch := ⟨LinkMonitor.initial cfg, 0, 0, [], [], none, []⟩

def observe (w : Watch) (event : Event) : Watch :=
  let (monitor, action) := respond w.monitor event
  match event with
  | .alive now | .reset now =>
      { w with monitor, now, aliveAt := now, failures := [], recovers := [], backoffs := [] }
  | .linkFailure now =>
      { w with
        monitor
        now
        failures := now :: w.failures
        backoffs := (now + w.monitor.cfg.backoffAfter (w.failures.length + 1)) :: w.backoffs }
  | .tick now _ =>
      if action = .recover then
        { w with monitor, now, recovers := now :: w.recovers, lastRecover := some now, backoffs := [] }
      else { w with monitor, now }

def InOrder (w : Watch) (event : Event) : Prop := w.now ≤ event.now

instance (w : Watch) (event : Event) : Decidable (InOrder w event) := inferInstanceAs (Decidable (_ ≤ _))

def watched (cfg : Config) (events : List Event) : Watch := run observe (Watch.initial cfg) events

variable {cfg : Config} {w : Watch} {now : Nat}

/-! ### The backoff -/

/-- Deadlines up to half a turn of the clock ahead are told from past ones. -/
def Config.HalfTurn (cfg : Config) : Prop := cfg.backoffMaxMs.toNat ≤ 2 ^ 31 ∨ cfg.backoffBaseMs = 0

instance (cfg : Config) : Decidable cfg.HalfTurn := inferInstanceAs (Decidable (_ ∨ _))

theorem min_doubled {max : UInt32} (hmax : max.toNat ≤ 2 ^ 31) (n : Nat) (backoff : UInt32) :
    min (doubled max n backoff).toNat max.toNat = min (backoff.toNat * 2 ^ n) max.toNat := by
  induction n generalizing backoff with
  | zero => simp [doubled]
  | succ n ih =>
      unfold doubled
      split
      · rename_i hlt
        rw [UInt32.lt_iff_toNat_lt] at hlt
        have htwice : (backoff * 2).toNat = backoff.toNat * 2 := by
          rw [UInt32.toNat_mul]
          show backoff.toNat * 2 % 2 ^ 32 = _
          omega
        rw [ih, htwice, Nat.pow_succ, Nat.mul_assoc, Nat.mul_comm 2]
      · rename_i hge
        rw [UInt32.lt_iff_toNat_lt, Nat.not_lt] at hge
        have hgrows : backoff.toNat ≤ backoff.toNat * 2 ^ (n + 1) := Nat.le_mul_of_pos_right _ (Nat.two_pow_pos _)
        omega

theorem doubled_zero (max : UInt32) (n : Nat) : doubled max n 0 = 0 := by
  induction n with
  | zero => rfl
  | succ n ih =>
      unfold doubled
      split
      · exact ih
      · rfl

theorem toNat_backoffMs (hhalf : cfg.HalfTurn) (failures : UInt8) :
    (backoffMs cfg failures).toNat = cfg.backoffAfter failures.toNat := by
  have hmin : (backoffMs cfg failures).toNat
      = min (doubled cfg.backoffMaxMs (failures.toNat - 1) cfg.backoffBaseMs).toNat cfg.backoffMaxMs.toNat := by
    unfold backoffMs
    dsimp only
    split
    · rename_i hlt
      rw [UInt32.lt_iff_toNat_lt] at hlt
      omega
    · rename_i hge
      rw [UInt32.lt_iff_toNat_lt] at hge
      omega
  unfold Config.backoffAfter
  rw [hmin]
  rcases hhalf with hmax | hbase
  · exact min_doubled hmax _ _
  · rw [hbase, doubled_zero]
    show min 0 _ = min (0 * _) _
    rw [Nat.zero_mul]

/-- The backoff has reached its maximum before the count of failures does. -/
theorem backoffAfter_saturated (cfg : Config) (k : Nat) : cfg.backoffAfter (min 255 k) = cfg.backoffAfter k := by
  unfold Config.backoffAfter
  rcases Nat.le_total k 255 with hle | hge
  · rw [Nat.min_eq_right hle]
  · rw [Nat.min_eq_left hge]
    rcases Nat.eq_zero_or_pos cfg.backoffBaseMs.toNat with hzero | hpos
    · rw [hzero, Nat.zero_mul, Nat.zero_mul]
    · have hmax : cfg.backoffMaxMs.toNat < 2 ^ 32 := cfg.backoffMaxMs.toNat_lt
      have hturn : 2 ^ 32 ≤ 2 ^ (255 - 1) := Nat.pow_le_pow_right (by decide) (by decide)
      have hmore : 2 ^ (255 - 1) ≤ 2 ^ (k - 1) := Nat.pow_le_pow_right (by decide) (by omega)
      have hleft : 2 ^ (255 - 1) ≤ cfg.backoffBaseMs.toNat * 2 ^ (255 - 1) := Nat.le_mul_of_pos_left _ hpos
      have hright : 2 ^ (k - 1) ≤ cfg.backoffBaseMs.toNat * 2 ^ (k - 1) := Nat.le_mul_of_pos_left _ hpos
      rw [Nat.min_eq_right (by omega), Nat.min_eq_right (by omega)]

theorem backoffAfter_mono (cfg : Config) {k l : Nat} (h : k ≤ l) : cfg.backoffAfter k ≤ cfg.backoffAfter l := by
  have hpow : 2 ^ (k - 1) ≤ 2 ^ (l - 1) := Nat.pow_le_pow_right (by decide) (by omega)
  have hmul : cfg.backoffBaseMs.toNat * 2 ^ (k - 1) ≤ cfg.backoffBaseMs.toNat * 2 ^ (l - 1) := Nat.mul_le_mul_left _ hpow
  unfold Config.backoffAfter
  omega

/-! ### The ladder -/

def recovered (now : UInt32) (m : LinkMonitor) : LinkMonitor :=
  { m with recoveries := m.recoveries + 1, windowStartMs := now, backoffActive := false }

theorem tick_cases (now : UInt32) (ctrlStuck : Bool) (m : LinkMonitor) :
    tick now ctrlStuck m = (m, .none)
      ∨ tick now ctrlStuck m = (m, .restart)
        ∧ (ctrlStuck = true ∨ m.cfg.linkTimeoutMs ≤ now - m.windowStartMs ∧ m.cfg.maxRecoveries ≤ m.recoveries)
      ∨ tick now ctrlStuck m = (recovered now m, .recover) ∧ m.failures ≠ 0
        ∧ m.cfg.linkTimeoutMs ≤ now - m.windowStartMs ∧ m.recoveries < m.cfg.maxRecoveries := by
  unfold tick
  split
  · exact Or.inl rfl
  rename_i hfailed
  split
  · rename_i hstuck
    exact Or.inr (Or.inl ⟨rfl, Or.inl hstuck.1⟩)
  split
  · exact Or.inl rfl
  rename_i htime
  rw [UInt32.not_lt] at htime
  split
  · rename_i hspent
    exact Or.inr (Or.inl ⟨rfl, Or.inr ⟨htime, hspent⟩⟩)
  · rename_i hleft
    rw [UInt8.not_le] at hleft
    exact Or.inr (Or.inr ⟨rfl, hfailed, htime, hleft⟩)

/-- The counters, and a window that starts after the last sign of life and the last recovery. -/
structure Ladder (cfg : Config) (w : Watch) : Prop where
  config : w.monitor.cfg = cfg
  failures : w.monitor.failures.toNat = min 255 w.failures.length
  recoveries : w.monitor.recoveries.toNat = w.recovers.length
  limit : w.recovers.length ≤ cfg.maxRecoveries.toNat
  window : ∃ start, w.monitor.windowStartMs = Clock.millis start ∧ start ≤ w.now ∧ w.aliveAt ≤ start
    ∧ (∀ r, w.lastRecover = some r → r ≤ start) ∧ (w.recovers = [] → start = w.aliveAt)

/-- Each backoff that nothing has cleared is covered by the one that runs. -/
structure Held (cfg : Config) (w : Watch) : Prop where
  recent : ∀ deadline ∈ w.backoffs, deadline ≤ w.now + cfg.backoffAfter w.failures.length
  covered : ∀ deadline ∈ w.backoffs, w.monitor.backoffActive = true
    ∧ ∃ ends, w.monitor.backoffUntilMs = Clock.millis ends ∧ deadline ≤ ends ∧ ends ≤ w.now + 2 ^ 31

theorem ladder_initial (cfg : Config) : Ladder cfg (Watch.initial cfg) where
  config := rfl
  failures := rfl
  recoveries := rfl
  limit := Nat.zero_le _
  window := ⟨0, rfl, Nat.le_refl 0, Nat.le_refl 0, fun _ h => absurd h (by simp [Watch.initial]), fun _ => rfl⟩

theorem held_initial (cfg : Config) : Held cfg (Watch.initial cfg) := ⟨by simp [Watch.initial], by simp [Watch.initial]⟩

/-- The last recovery is not later than now. -/
theorem Ladder.recover_past (h : Ladder cfg w) {r : Nat} (hr : w.lastRecover = some r) : r ≤ w.now := by
  obtain ⟨start, -, hstart, -, hrecover, -⟩ := h.window
  exact Nat.le_trans (hrecover r hr) hstart

/-- A sign of life, or a new device, starts the ladder over. -/
theorem Ladder.restarted (h : Ladder cfg w) (hnow : w.now ≤ now) {monitor : LinkMonitor}
    (hcfg : monitor.cfg = w.monitor.cfg) (hfailures : monitor.failures = 0) (hrecoveries : monitor.recoveries = 0)
    (hwindow : monitor.windowStartMs = Clock.millis now) :
    Ladder cfg { w with monitor, now, aliveAt := now, failures := [], recovers := [], backoffs := [] } where
  config := hcfg.trans h.config
  failures := by
    rw [hfailures]
    rfl
  recoveries := by
    rw [hrecoveries]
    rfl
  limit := Nat.zero_le _
  window := ⟨now, hwindow, Nat.le_refl now, Nat.le_refl now, fun _ hr => Nat.le_trans (h.recover_past hr) hnow, fun _ => rfl⟩

theorem toNat_failures_onLinkFailure (now : UInt32) (m : LinkMonitor) {n : Nat} (h : m.failures.toNat = min 255 n) :
    (onLinkFailure now m).failures.toNat = min 255 (n + 1) := by
  show (if m.failures < 255 then m.failures + 1 else m.failures).toNat = _
  split
  · rename_i hlt
    rw [UInt8.lt_iff_toNat_lt] at hlt
    have hlt : m.failures.toNat < 255 := hlt
    rw [UInt8.toNat_add]
    show (m.failures.toNat + 1) % 2 ^ 8 = _
    omega
  · rename_i hge
    rw [UInt8.lt_iff_toNat_lt, Nat.not_lt] at hge
    have hge : 255 ≤ m.failures.toNat := hge
    omega

theorem ladder_observe {event : Event} (horder : InOrder w event) (h : Ladder cfg w) : Ladder cfg (observe w event) := by
  obtain ⟨start, hwindow, hstart, halive, hrecover, hfirst⟩ := h.window
  cases event with
  | alive now => exact h.restarted horder rfl rfl rfl rfl
  | reset now => exact h.restarted horder rfl rfl rfl rfl
  | linkFailure now =>
      exact ⟨h.config, toNat_failures_onLinkFailure _ _ h.failures, h.recoveries, h.limit,
        start, hwindow, Nat.le_trans hstart horder, halive, hrecover, hfirst⟩
  | tick now ctrlStuck =>
      have hnow : w.now ≤ now := horder
      have hsame : Ladder cfg { w with now } :=
        ⟨h.config, h.failures, h.recoveries, h.limit, start, hwindow, Nat.le_trans hstart hnow, halive, hrecover, hfirst⟩
      unfold observe respond
      dsimp only
      rcases tick_cases (Clock.millis now) ctrlStuck w.monitor with hnone | ⟨hrestart, -⟩ | ⟨hrecovers, -, -, hleft⟩
      · rw [hnone]
        exact hsame
      · rw [hrestart]
        exact hsame
      · rw [hrecovers]
        rw [UInt8.lt_iff_toNat_lt, h.config, h.recoveries] at hleft
        refine ⟨h.config, h.failures, ?_, hleft, now, rfl, Nat.le_refl now, ?_, ?_, ?_⟩
        · have hmax := cfg.maxRecoveries.toNat_lt
          show (w.monitor.recoveries + 1).toNat = w.recovers.length + 1
          rw [UInt8.toNat_add, h.recoveries]
          show (w.recovers.length + 1) % 2 ^ 8 = _
          omega
        · exact Nat.le_trans halive (Nat.le_trans hstart hnow)
        · intro r hr
          obtain rfl : now = r := Option.some.inj hr
          exact Nat.le_refl now
        · intro hnone
          cases hnone

theorem backoffAfter_le (hhalf : cfg.HalfTurn) (k : Nat) : cfg.backoffAfter k ≤ 2 ^ 31 := by
  unfold Config.backoffAfter
  rcases hhalf with hmax | hbase
  · omega
  · rw [hbase]
    show min (0 * _) _ ≤ _
    omega

theorem held_observe (hhalf : cfg.HalfTurn) {event : Event} (horder : InOrder w event) (hladder : Ladder cfg w)
    (h : Held cfg w) : Held cfg (observe w event) := by
  have hcleared : ∀ w' : Watch, w'.backoffs = [] → Held cfg w' := by
    intro w' hnone
    exact ⟨by simp [hnone], by simp [hnone]⟩
  cases event with
  | alive now => exact hcleared _ rfl
  | reset now => exact hcleared _ rfl
  | linkFailure now =>
      have hnow : w.now ≤ now := horder
      have hlonger := backoffAfter_mono cfg (by omega : w.failures.length ≤ w.failures.length + 1)
      have hrecent : ∀ deadline ∈ (now + w.monitor.cfg.backoffAfter (w.failures.length + 1)) :: w.backoffs,
          deadline ≤ now + cfg.backoffAfter (w.failures.length + 1) := by
        intro deadline hdeadline
        rcases List.mem_cons.mp hdeadline with rfl | hearlier
        · rw [hladder.config]
        · have hearlier := h.recent deadline hearlier
          omega
      have huntil : (observe w (.linkFailure now)).monitor.backoffUntilMs
          = Clock.millis (now + cfg.backoffAfter (w.failures.length + 1)) := by
        show Clock.millis now + backoffMs w.monitor.cfg (onLinkFailure (Clock.millis now) w.monitor).failures = _
        rw [Clock.millis_add, hladder.config, toNat_backoffMs hhalf,
          toNat_failures_onLinkFailure _ _ hladder.failures, backoffAfter_saturated]
      have hshort := backoffAfter_le hhalf (w.failures.length + 1)
      refine ⟨hrecent, fun deadline hdeadline => ⟨rfl, _, huntil, hrecent deadline hdeadline, ?_⟩⟩
      show now + _ ≤ now + 2 ^ 31
      omega
  | tick now ctrlStuck =>
      have hnow : w.now ≤ now := horder
      have hsame : Held cfg { w with now } := by
        refine ⟨?_, ?_⟩
        · intro deadline hdeadline
          have hrecent := h.recent deadline hdeadline
          show deadline ≤ now + cfg.backoffAfter w.failures.length
          omega
        · intro deadline hdeadline
          obtain ⟨hactive, ends, huntil, hcovered, hclose⟩ := h.covered deadline hdeadline
          exact ⟨hactive, ends, huntil, hcovered, Nat.le_trans hclose (Nat.add_le_add_right hnow _)⟩
      unfold observe respond
      dsimp only
      rcases tick_cases (Clock.millis now) ctrlStuck w.monitor with hnone | ⟨hrestart, -⟩ | ⟨hrecovers, -⟩
      · rw [hnone]
        exact hsame
      · rw [hrestart]
        exact hsame
      · rw [hrecovers]
        exact hcleared _ rfl

theorem ladder_watched {events : List Event} (horder : Along InOrder observe (Watch.initial cfg) events) :
    Ladder cfg (watched cfg events) :=
  run_along (ladder_initial cfg) (fun _ _ hevent h => ladder_observe hevent h) events horder

theorem held_watched (hhalf : cfg.HalfTurn) {events : List Event}
    (horder : Along InOrder observe (Watch.initial cfg) events) : Held cfg (watched cfg events) :=
  (run_along (P := fun w => Ladder cfg w ∧ Held cfg w) ⟨ladder_initial cfg, held_initial cfg⟩
    (fun _ _ hevent h => ⟨ladder_observe hevent h.1, held_observe hhalf hevent h.1 h.2⟩) events horder).2

/-- A recovery, or a restart of a transfer that is not stuck, waits out the window. -/
theorem Ladder.window_passed (h : Ladder cfg w) (hnow : w.now ≤ now) {ctrlStuck : Bool}
    (hacts : (tick (Clock.millis now) ctrlStuck w.monitor).2 = .recover
      ∨ ctrlStuck = false ∧ (tick (Clock.millis now) ctrlStuck w.monitor).2 = .restart) :
    w.aliveAt + cfg.linkTimeoutMs.toNat ≤ now ∧ ∀ r, w.lastRecover = some r → r + cfg.linkTimeoutMs.toNat ≤ now := by
  obtain ⟨start, hwindow, hstart, halive, hrecover, -⟩ := h.window
  have htime : w.monitor.cfg.linkTimeoutMs ≤ Clock.millis now - w.monitor.windowStartMs := by
    rcases tick_cases (Clock.millis now) ctrlStuck w.monitor with hnone | ⟨hrestart, hwhy⟩ | ⟨-, -, htime, -⟩
    · rw [hnone] at hacts
      simp at hacts
    · rw [hrestart] at hacts
      rcases hwhy with hstuck | hspent
      · simp [hstuck] at hacts
      · exact hspent.1
    · exact htime
  rw [hwindow, h.config] at htime
  have hpassed := Clock.passed_of_le (Nat.le_trans hstart hnow) htime
  refine ⟨by omega, ?_⟩
  intro r hr
  have hr := hrecover r hr
  omega

/-- A restart of a transfer that is not stuck comes when the recoveries are spent. -/
theorem Ladder.recoveries_spent (h : Ladder cfg w)
    (hrestart : (tick (Clock.millis now) false w.monitor).2 = .restart) :
    w.recovers.length = cfg.maxRecoveries.toNat := by
  rcases tick_cases (Clock.millis now) false w.monitor with hnone | ⟨-, hwhy⟩ | ⟨hrecovers, -⟩
  · rw [hnone] at hrestart
    cases hrestart
  · have hspent : w.monitor.cfg.maxRecoveries ≤ w.monitor.recoveries := (hwhy.resolve_left Bool.false_ne_true).2
    rw [UInt8.le_iff_toNat_le, h.config, h.recoveries] at hspent
    exact Nat.le_antisymm h.limit hspent
  · rw [hrecovers] at hrestart
    cases hrestart

theorem Held.cannot_poll (h : Held cfg w) (hnow : w.now ≤ now) {deadline : Nat} (hdeadline : deadline ∈ w.backoffs)
    (hearly : now < deadline) : canPoll (Clock.millis now) w.monitor = false := by
  obtain ⟨hactive, ends, huntil, hcovered, hclose⟩ := h.covered deadline hdeadline
  unfold canPoll
  rw [hactive, huntil, Clock.not_reached (by omega) (by omega)]
  rfl

theorem tick_recover {now : UInt32} {ctrlStuck : Bool} {m : LinkMonitor} (h : (tick now ctrlStuck m).2 = .recover) :
    m.failures ≠ 0 ∧ m.recoveries < m.cfg.maxRecoveries := by
  rcases tick_cases now ctrlStuck m with hnone | ⟨hrestart, -⟩ | ⟨-, hfailed, -, hleft⟩
  · rw [hnone] at h
    cases h
  · rw [hrestart] at h
    cases h
  · exact ⟨hfailed, hleft⟩

theorem Ladder.failures_ne (h : Ladder cfg w) : w.monitor.failures ≠ 0 ↔ w.failures ≠ [] := by
  rw [Ne, ← UInt8.toNat_inj, h.failures, Ne, ← List.length_eq_zero_iff]
  show ¬ min 255 _ = 0 ↔ _
  omega

/-- Before the first recovery the window starts at the last sign of life. -/
theorem Ladder.recovers_first (h : Ladder cfg w) (hfirst : w.recovers = []) (hnow : w.now ≤ now)
    (hturn : now < w.aliveAt + 2 ^ 32) (hfailed : w.failures ≠ []) (hallowed : 0 < cfg.maxRecoveries)
    (htime : w.aliveAt + cfg.linkTimeoutMs.toNat ≤ now) :
    (tick (Clock.millis now) false w.monitor).2 = .recover := by
  obtain ⟨start, hwindow, hstart, -, -, halive⟩ := h.window
  rw [halive hfirst] at hwindow hstart
  have hpassed : ¬ Clock.millis now - w.monitor.windowStartMs < w.monitor.cfg.linkTimeoutMs := by
    rw [UInt32.not_lt, hwindow, h.config]
    exact (Clock.le_iff_passed (Nat.le_trans hstart hnow) hturn).mpr htime
  have hleft : ¬ w.monitor.cfg.maxRecoveries ≤ w.monitor.recoveries := by
    rw [UInt8.not_le, UInt8.lt_iff_toNat_lt, h.config, h.recoveries, hfirst]
    exact UInt8.lt_iff_toNat_lt.mp hallowed
  unfold tick
  rw [if_neg (h.failures_ne.mpr hfailed), if_neg (fun hstuck => Bool.false_ne_true hstuck.1), if_neg hpassed, if_neg hleft]

/-! ### Monitors that answer alike -/

/-- Fields that no method reads may differ: the first failure when there is none, the end of a backoff that does not run. -/
structure Alike (m m' : LinkMonitor) : Prop where
  cfg : m.cfg = m'.cfg
  failures : m.failures = m'.failures
  recoveries : m.recoveries = m'.recoveries
  lastAliveMs : m.lastAliveMs = m'.lastAliveMs
  windowStartMs : m.windowStartMs = m'.windowStartMs
  backoffActive : m.backoffActive = m'.backoffActive
  firstFailureMs : m.failures ≠ 0 → m.firstFailureMs = m'.firstFailureMs
  backoffUntilMs : m.backoffActive = true → m.backoffUntilMs = m'.backoffUntilMs

variable {m m' : LinkMonitor}

theorem alike_reset (now : UInt32) (m : LinkMonitor) : Alike (onAlive now m) (reset now m) where
  cfg := rfl
  failures := rfl
  recoveries := rfl
  lastAliveMs := rfl
  windowStartMs := rfl
  backoffActive := rfl
  firstFailureMs h := absurd rfl h
  backoffUntilMs h := absurd h Bool.false_ne_true

theorem Alike.canPoll (h : Alike m m') (now : UInt32) : canPoll now m = canPoll now m' := by
  unfold LinkMonitor.canPoll
  rw [← h.backoffActive]
  cases hactive : m.backoffActive with
  | false => rfl
  | true => rw [h.backoffUntilMs hactive]

theorem Alike.isStale (h : Alike m m') (now : UInt32) : isStale now m = isStale now m' := by
  unfold LinkMonitor.isStale
  rw [h.failures, h.lastAliveMs, h.cfg]

theorem Alike.onLinkFailure (h : Alike m m') (now : UInt32) : Alike (onLinkFailure now m) (onLinkFailure now m') := by
  have hfirst : (if m.failures = 0 then now else m.firstFailureMs) = if m'.failures = 0 then now else m'.firstFailureMs := by
    rw [← h.failures]
    split
    · rfl
    · rename_i hfailed
      exact h.firstFailureMs hfailed
  have hfailures : (LinkMonitor.onLinkFailure now m).failures = (LinkMonitor.onLinkFailure now m').failures := by
    show (if m.failures < 255 then m.failures + 1 else m.failures) = _
    rw [h.failures]
    rfl
  have huntil : (LinkMonitor.onLinkFailure now m).backoffUntilMs = (LinkMonitor.onLinkFailure now m').backoffUntilMs := by
    show now + backoffMs m.cfg (LinkMonitor.onLinkFailure now m).failures = _
    rw [hfailures, h.cfg]
    rfl
  exact ⟨h.cfg, hfailures, h.recoveries, h.lastAliveMs, h.windowStartMs, rfl, fun _ => hfirst, fun _ => huntil⟩

theorem Alike.tick (h : Alike m m') (now : UInt32) (ctrlStuck : Bool) :
    (tick now ctrlStuck m).2 = (tick now ctrlStuck m').2 ∧ Alike (tick now ctrlStuck m).1 (tick now ctrlStuck m').1 := by
  unfold LinkMonitor.tick
  rw [← h.failures, ← h.cfg, ← h.windowStartMs, ← h.recoveries]
  split
  · exact ⟨rfl, h⟩
  rename_i hfailed
  rw [← h.firstFailureMs hfailed]
  split
  · exact ⟨rfl, h⟩
  split
  · exact ⟨rfl, h⟩
  split
  · exact ⟨rfl, h⟩
  · exact ⟨rfl, rfl, rfl, rfl, h.lastAliveMs, rfl, rfl, fun _ => rfl, fun hidle => absurd hidle Bool.false_ne_true⟩

theorem Alike.respond (h : Alike m m') (event : Event) :
    (respond m event).2 = (respond m' event).2 ∧ Alike (respond m event).1 (respond m' event).1 := by
  cases event with
  | alive now => exact ⟨rfl, h.cfg, rfl, rfl, rfl, rfl, rfl, fun hfailed => absurd rfl hfailed, fun hidle => absurd hidle Bool.false_ne_true⟩
  | reset now => exact ⟨rfl, h.cfg, rfl, rfl, rfl, rfl, rfl, fun _ => rfl, fun _ => rfl⟩
  | linkFailure now => exact ⟨rfl, h.onLinkFailure _⟩
  | tick now ctrlStuck => exact h.tick _ ctrlStuck

def after (m : LinkMonitor) (events : List Event) : LinkMonitor := run (fun m event => (LinkMonitor.respond m event).1) m events

theorem Alike.after (h : Alike m m') (events : List Event) : Alike (after m events) (after m' events) := by
  induction events generalizing m m' with
  | nil => exact h
  | cons event rest ih => exact ih (h.respond event).2

/-! ### Main results -/

/-- The recovery ladder is bounded and spaced in every run, a backoff holds until something clears it, and a sign of life leaves a monitor that answers as a new one. -/
theorem ladder_is_bounded (cfg : Config) (events : List Event)
    (horder : Along InOrder observe (Watch.initial cfg) events) :
    (watched cfg events).recovers.length ≤ cfg.maxRecoveries.toNat
      ∧ (∀ now, (watched cfg events).now ≤ now →
          ((tick (Clock.millis now) false (watched cfg events).monitor).2 = .restart →
            (watched cfg events).recovers.length = cfg.maxRecoveries.toNat)
          ∧ (∀ ctrlStuck, (tick (Clock.millis now) ctrlStuck (watched cfg events).monitor).2 = .recover
              ∨ ctrlStuck = false ∧ (tick (Clock.millis now) ctrlStuck (watched cfg events).monitor).2 = .restart →
            ∀ r, (watched cfg events).lastRecover = some r → r + cfg.linkTimeoutMs.toNat ≤ now)
          ∧ (cfg.HalfTurn → ∀ deadline ∈ (watched cfg events).backoffs, now < deadline →
            canPoll (Clock.millis now) (watched cfg events).monitor = false))
      ∧ ∀ now later, let alive := after (onAlive now (watched cfg events).monitor) later
          let fresh := after (reset now (watched cfg events).monitor) later
          alive.failures = fresh.failures ∧ alive.recoveries = fresh.recoveries
          ∧ ∀ time ctrlStuck, (tick time ctrlStuck alive).2 = (tick time ctrlStuck fresh).2
            ∧ canPoll time alive = canPoll time fresh ∧ isStale time alive = isStale time fresh := by
  have hladder := ladder_watched horder
  refine ⟨hladder.limit, ?_, ?_⟩
  · intro now hnow
    refine ⟨hladder.recoveries_spent, ?_, ?_⟩
    · intro ctrlStuck hacts
      exact (hladder.window_passed hnow hacts).2
    · intro hhalf deadline hdeadline hearly
      exact (held_watched hhalf horder).cannot_poll hnow hdeadline hearly
  · intro now later alive fresh
    have halike : Alike alive fresh := (alike_reset now _).after later
    refine ⟨halike.failures, halike.recoveries, ?_⟩
    intro time ctrlStuck
    exact ⟨(halike.tick time ctrlStuck).1, halike.canPoll time, halike.isStale time⟩

/-- Two recoveries and a restart of the default ladder, a minute apart. -/
theorem ladder_is_bounded_default :
    (watched defaultConfig [.linkFailure 1000, .tick 60000 false, .tick 120000 false]).recovers = [120000, 60000]
      ∧ (tick (Clock.millis 180000) false
          (watched defaultConfig [.linkFailure 1000, .tick 60000 false, .tick 120000 false]).monitor).2 = .restart
      ∧ 120000 + 60000 ≤ 180000 :=
  have hrun : (watched defaultConfig [.linkFailure 1000, .tick 60000 false, .tick 120000 false]).recovers = [120000, 60000]
      ∧ (tick (Clock.millis 180000) false
          (watched defaultConfig [.linkFailure 1000, .tick 60000 false, .tick 120000 false]).monitor).2 = .restart := by
    decide +kernel
  ⟨hrun.1, hrun.2, ((ladder_is_bounded defaultConfig [.linkFailure 1000, .tick 60000 false, .tick 120000 false]
    (by decide)).2.1 180000 (by decide +kernel)).2.1 false (Or.inr ⟨rfl, hrun.2⟩) 120000 (by decide +kernel)⟩

/-- A new device clears the backoff of the last one, and a backoff longer than half a turn of the clock is over at once. -/
theorem backoff_ends_early :
    (canPoll (Clock.millis 1) (watched defaultConfig [.linkFailure 0, .reset 1]).monitor = true
        ∧ 1 < defaultConfig.backoffAfter 1)
      ∧ canPoll (Clock.millis 1) (watched ⟨0xC0000000, 0xC0000000, 0, 0, 0, 0⟩ [.linkFailure 0]).monitor = true
        ∧ (watched ⟨0xC0000000, 0xC0000000, 0, 0, 0, 0⟩ [.linkFailure 0]).backoffs = [0xC0000000] := by
  decide +kernel

/-- The first recovery of an episode waits for a failure and for the timeout after the last sign of life, and comes then. -/
theorem first_recovery_after_silence (cfg : Config) (events : List Event)
    (horder : Along InOrder observe (Watch.initial cfg) events) (hfirst : (watched cfg events).recovers = [])
    {now : Nat} (hnow : (watched cfg events).now ≤ now) :
    (∀ ctrlStuck, (tick (Clock.millis now) ctrlStuck (watched cfg events).monitor).2 = .recover →
        (watched cfg events).failures ≠ [] ∧ (watched cfg events).aliveAt + cfg.linkTimeoutMs.toNat ≤ now)
      ∧ (now < (watched cfg events).aliveAt + 2 ^ 32 →
        ((tick (Clock.millis now) false (watched cfg events).monitor).2 = .recover ↔
          (watched cfg events).failures ≠ [] ∧ 0 < cfg.maxRecoveries
            ∧ (watched cfg events).aliveAt + cfg.linkTimeoutMs.toNat ≤ now)) := by
  have hladder := ladder_watched horder
  have hfailed : ∀ ctrlStuck, (tick (Clock.millis now) ctrlStuck (watched cfg events).monitor).2 = .recover →
      (watched cfg events).failures ≠ [] := by
    intro ctrlStuck hrecover
    exact hladder.failures_ne.mp (tick_recover hrecover).1
  refine ⟨fun ctrlStuck hrecover => ⟨hfailed ctrlStuck hrecover, (hladder.window_passed hnow (Or.inl hrecover)).1⟩, ?_⟩
  intro hturn
  constructor
  · intro hrecover
    refine ⟨hfailed false hrecover, ?_, (hladder.window_passed hnow (Or.inl hrecover)).1⟩
    have hleft := (tick_recover hrecover).2
    rw [UInt8.lt_iff_toNat_lt, hladder.config, hladder.recoveries, hfirst] at hleft
    exact UInt8.lt_iff_toNat_lt.mpr hleft
  · rintro ⟨hsome, hallowed, htime⟩
    exact hladder.recovers_first hfirst hnow hturn hsome hallowed htime

/-- After a quiet minute one failed request is answered with a recovery at once. -/
theorem recovery_follows_first_failure :
    ¬ ∀ (events : List Event), Along InOrder observe (Watch.initial defaultConfig) events →
      (watched defaultConfig events).recovers = [] → ∀ now, (watched defaultConfig events).now ≤ now →
      (tick (Clock.millis now) false (watched defaultConfig events).monitor).2 = .recover →
      ∀ first, (watched defaultConfig events).failures.getLast? = some first →
        first + defaultConfig.linkTimeoutMs.toNat ≤ now := by
  intro h
  have hrun : Along InOrder observe (Watch.initial defaultConfig) [.linkFailure 100000]
      ∧ (tick (Clock.millis 100000) false (watched defaultConfig [.linkFailure 100000]).monitor).2 = .recover := by
    decide +kernel
  exact absurd (h [.linkFailure 100000] hrun.1 rfl 100000 (Nat.le_refl _) hrun.2 100000 rfl) (by decide)

theorem first_recovery_after_silence_idle :
    (watched defaultConfig [.alive 1000, .linkFailure 6000]).failures ≠ []
      ∧ (watched defaultConfig [.alive 1000, .linkFailure 6000]).aliveAt + 60000 ≤ 61000 :=
  have hrun : Along InOrder observe (Watch.initial defaultConfig) [.alive 1000, .linkFailure 6000]
      ∧ (watched defaultConfig [.alive 1000, .linkFailure 6000]).recovers = []
      ∧ (watched defaultConfig [.alive 1000, .linkFailure 6000]).now ≤ 61000
      ∧ (tick (Clock.millis 61000) false (watched defaultConfig [.alive 1000, .linkFailure 6000]).monitor).2 = .recover := by
    decide +kernel
  (first_recovery_after_silence defaultConfig [.alive 1000, .linkFailure 6000] hrun.1 hrun.2.1 hrun.2.2.1).1 false
    hrun.2.2.2

end LinkMonitor

end EspNut
