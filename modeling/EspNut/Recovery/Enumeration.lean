import EspNut.Lib.Clock
import EspNut.Lib.Run
import EspNut.Lib.Window

/-!
# Devices that do not come up

After a controlled restart a device that does not enumerate gets its port power-cycled twice and then a restart requested, a minute apart each. An interface whose report descriptor cannot be read yet is tried again a few times.
-/

namespace EspNut

open Lib

/-! ### The report descriptor -/

structure DescriptorRetry where
  pending : Bool
  attempts : UInt8
  retryAt : UInt32
  deriving DecidableEq

namespace DescriptorRetry

def maxAttempts : UInt8 := 5
def retryDelayMs : UInt32 := 2000

def cleared : DescriptorRetry := ⟨false, 0, 0⟩

def onFailure (now : UInt32) (d : DescriptorRetry) : DescriptorRetry × Bool :=
  if maxAttempts ≤ d.attempts + 1 then (cleared, false) else (⟨true, d.attempts + 1, now + retryDelayMs⟩, true)

def due (now : UInt32) (d : DescriptorRetry) : Bool := d.pending && Clock.reached now d.retryAt

/-- Another attempt is pending exactly after a failure that is not the last one. -/
theorem pending_onFailure (now : UInt32) (d : DescriptorRetry) : (onFailure now d).1.pending = (onFailure now d).2 := by
  unfold onFailure
  split <;> rfl

end DescriptorRetry

/-! ### The enumeration -/

inductive EnumWatchdog.Action where
  | none | cyclePort | requestRestart
  deriving DecidableEq

structure EnumWatchdog where
  armed : Bool
  armedAt : UInt32
  cycles : UInt8
  restartRequested : Bool
  deriving DecidableEq

namespace EnumWatchdog

def firstCycleMs : UInt32 := 60000
def cycleIntervalMs : UInt32 := 60000
def maxPortCycles : UInt8 := 2

def initial : EnumWatchdog := ⟨false, 0, 0, false⟩

def arm (now : UInt32) : EnumWatchdog := ⟨true, now, 0, false⟩

def tick (enumerated : Bool) (now : UInt32) (w : EnumWatchdog) : EnumWatchdog × Action :=
  if w.armed = false then (w, .none)
  else if enumerated = true then ({ w with armed := false }, .none)
  else if w.cycles < maxPortCycles then
    if firstCycleMs + w.cycles.toUInt32 * cycleIntervalMs ≤ now - w.armedAt then ({ w with cycles := w.cycles + 1 }, .cyclePort)
    else (w, .none)
  else if w.restartRequested = false ∧ firstCycleMs + maxPortCycles.toUInt32 * cycleIntervalMs ≤ now - w.armedAt then
    ({ w with restartRequested := true }, .requestRestart)
  else (w, .none)

end EnumWatchdog

end EspNut
