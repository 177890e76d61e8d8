import EspNut.Recovery.InputWatchdog
import EspNut.Recovery.LinkMonitor

/-!
# Queries from another task

The web and NUT tasks ask whether the data are stale while the USB task records reports. A query reads its clock first, so the report it then finds may carry a later time.
-/

namespace EspNut

open Lib InputWatchdog

/-- What the question whether the data are stale reads of the host. -/
structure USBHostUPS.Health where
  isReadyToPoll : Bool
  firstDataReady : Bool
  restartRequested : Bool
  link : LinkMonitor
  inWd : InputWatchdog

def USBHostUPS.isDataStale (now : UInt32) (host : USBHostUPS.Health) : Bool :=
  if host.isReadyToPoll = false then true
  else if host.firstDataReady = false then true
  else if host.restartRequested = true then true
  else host.link.isStale now || host.inWd.isStale now

namespace Freshness

/-- A step of the USB task, or a query of another task. -/
inductive Event where
  | usb (event : InputWatchdog.Event)
  | query (now : Nat)
  deriving DecidableEq

/-- A query changes nothing. -/
def observe (w : Watch) : Event → Watch
  | .usb event => InputWatchdog.observe w event
  | .query _ => w

/-- The USB task goes forward in time; a query may be late by `lag`. -/
def Possible (lag : Nat) (w : Watch) : Event → Prop
  | .usb event => InOrder w event
  | .query now => w.inputAt ≤ now + lag

instance (lag : Nat) (w : Watch) : (event : Event) → Decidable (Possible lag w event)
  | .usb event => inferInstanceAs (Decidable (InOrder w event))
  | .query now => inferInstanceAs (Decidable (w.inputAt ≤ now + lag))

/-- The last report is young, or the query has not seen it yet. -/
def Fresh (w : Watch) (now : Nat) : Prop := now < w.inputAt + (silenceThresholdMs w.watchdog).toNat

instance (w : Watch) (now : Nat) : Decidable (Fresh w now) := inferInstanceAs (Decidable (_ < _))

/-- Fresh data are not called stale, nor is the host for their sake. -/
def NotStale (w : Watch) : Event → Prop
  | .usb _ => True
  | .query now => Fresh w now → isStale (Clock.millis now) w.watchdog = false
      ∧ ∀ host : USBHostUPS.Health, host.inWd = w.watchdog → host.isReadyToPoll = true → host.firstDataReady = true →
        host.restartRequested = false → host.link.isStale (Clock.millis now) = false →
        USBHostUPS.isDataStale (Clock.millis now) host = false

/-- No query of fresh data of a device that is watched comes before the report. -/
def NotBefore (w : Watch) : Event → Prop
  | .usb _ => True
  | .query now => Fresh w now → w.inputAt ≤ now ∨ isPeriodic w.watchdog = false ∨ w.watchdog.valuesPolled = true
      ∨ 2 ^ 32 < (silenceThresholdMs w.watchdog).toNat + (w.inputAt - now)

instance (w : Watch) : (event : Event) → Decidable (NotBefore w event)
  | .usb _ => isTrue trivial
  | .query _ => inferInstanceAs (Decidable (_ → (_ ∨ _ ∨ _ ∨ _)))

variable {w : Watch} {now lag : Nat}

/-- The watchdog is all that can make a host stale that is ready and whose link is alive. -/
theorem isDataStale_of_alive {host : USBHostUPS.Health} (hready : host.isReadyToPoll = true)
    (hdata : host.firstDataReady = true) (hrestart : host.restartRequested = false) {now : UInt32}
    (hlink : host.link.isStale now = false) : USBHostUPS.isDataStale now host = host.inWd.isStale now := by
  unfold USBHostUPS.isDataStale
  rw [hready, hdata, hrestart, hlink]
  rfl

/-- A clock that is behind the last report shows almost a whole turn since. -/
theorem isStale_fresh_iff (hsound : Sound w) (hlag : w.inputAt ≤ now + lag) (hturn : lag < 2 ^ 32) (hfresh : Fresh w now) :
    isStale (Clock.millis now) w.watchdog = false ↔ w.inputAt ≤ now ∨ isPeriodic w.watchdog = false
      ∨ w.watchdog.valuesPolled = true ∨ 2 ^ 32 < (silenceThresholdMs w.watchdog).toNat + (w.inputAt - now) := by
  have hthreshold := (silenceThresholdMs w.watchdog).toNat_lt
  have hfresh : now < w.inputAt + (silenceThresholdMs w.watchdog).toNat := hfresh
  have hshown : silenceThresholdMs w.watchdog ≤ Clock.millis now - w.watchdog.lastInputMs
      ↔ now < w.inputAt ∧ (silenceThresholdMs w.watchdog).toNat + (w.inputAt - now) ≤ 2 ^ 32 := by
    rw [hsound.lastInput, UInt32.le_iff_toNat_le]
    rcases Nat.lt_or_ge now w.inputAt with hbefore | hafter
    · rw [Clock.toNat_sub_of_future hbefore (by omega)]
      omega
    · rw [Clock.toNat_sub_of_turn hafter (by omega)]
      omega
  unfold isStale isSilent
  cases hpolled : w.watchdog.valuesPolled with
  | true => simp
  | false =>
      cases hperiodic : isPeriodic w.watchdog with
      | false => simp
      | true =>
          rw [Bool.not_false, Bool.true_and, Bool.true_and, decide_eq_false_iff_not, hshown]
          simp only [Bool.true_eq_false, Bool.false_eq_true, false_or]
          omega

theorem notStale_iff (hsound : Sound w) (hturn : lag < 2 ^ 32) {event : Event} (hpossible : Possible lag w event) :
    NotStale w event ↔ NotBefore w event := by
  cases event with
  | usb event => exact Iff.rfl
  | query now =>
      refine forall_congr' fun hfresh => ?_
      rw [← isStale_fresh_iff hsound hpossible hturn hfresh]
      refine ⟨And.left, fun hlive => ⟨hlive, ?_⟩⟩
      intro host hwatchdog hready hdata hrestart hlink
      rw [isDataStale_of_alive hready hdata hrestart hlink, hwatchdog]
      exact hlive

theorem sound_observe {event : Event} (hpossible : Possible lag w event) (hsound : Sound w) : Sound (observe w event) := by
  cases event with
  | usb event => exact InputWatchdog.sound_observe hpossible hsound
  | query now => exact hsound

/-- In a run whose queries of a watched device do not come before its last report fresh data are never called stale, and in no other run. -/
theorem fresh_not_stale_iff (cfg : Config) (memory : Vector UInt32 8) (hturn : lag < 2 ^ 32) (events : List Event)
    (hpossible : Along (Possible lag) observe (Watch.initial cfg memory) events) :
    Along NotStale observe (Watch.initial cfg memory) events ↔ Along NotBefore observe (Watch.initial cfg memory) events :=
  along_congr (sound_initial cfg memory) (fun _ _ hevent h => sound_observe hevent h)
    (fun _ _ hevent h => notStale_iff h hturn hevent) events hpossible

/-- Ten reports of a device that sends every ten seconds, with queries in between. -/
def tenReports : List Event := nineReports.map .usb ++ [.query 80000, .query 129999, .usb (.input 90000)]

theorem fresh_not_stale_iff_after :
    Along NotStale observe (Watch.initial defaultConfig (Vector.replicate 8 0)) (tenReports ++ [.query 90000]) :=
  (fresh_not_stale_iff defaultConfig (Vector.replicate 8 0) (by decide : 5 < 2 ^ 32) (tenReports ++ [.query 90000])
    (by decide +kernel)).mpr (by decide +kernel)

/-- A query one millisecond before the last report calls it stale. -/
theorem query_before_report_is_stale :
    Along (Possible 5) observe (Watch.initial defaultConfig (Vector.replicate 8 0)) (tenReports ++ [.query 89999])
      ∧ ¬ Along NotStale observe (Watch.initial defaultConfig (Vector.replicate 8 0)) (tenReports ++ [.query 89999]) := by
  refine ⟨by decide +kernel, ?_⟩
  intro hfresh
  have hlast := ((along_append tenReports [.query 89999]).mp hfresh).2.1
  exact absurd (hlast (by decide +kernel)).1 (by decide +kernel)

end Freshness

end EspNut
