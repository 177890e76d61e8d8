import EspNut.Lib.Store

/-!
# The data of the UPS

The variables the bridge publishes, in the order they first arrived, and whether the real power is measured by the device.
-/

namespace EspNut

open Lib

structure UPSData where
  params : Store String String
  realPowerMeasured : Bool
  deriving DecidableEq

namespace UPSData

def empty : UPSData := ⟨Store.empty, false⟩

def set (d : UPSData) (key value : String) : UPSData := { d with params := d.params.set key value }

def find (d : UPSData) (key : String) : Option String := d.params.find key

def get (d : UPSData) (key : String) (defaultValue : String) : String := (d.find key).getD defaultValue

def hasKey (d : UPSData) (key : String) : Bool := (d.find key).isSome

def remove (d : UPSData) (key : String) : UPSData := { d with params := d.params.remove key }

def getAll (d : UPSData) : List (String × String) := d.params.entries

def valueEquals (d : UPSData) (key value : String) : Bool := d.find key = some value

/-- The texts `getBool` takes as true. -/
def isTrueText (value : String) : Bool :=
  value = "1" || value = "true" || value = "yes" || value = "enabled"

def getBool (d : UPSData) (key : String) : Bool := (d.find key).any isTrueText

@[simp] theorem find_set (d : UPSData) (key value other : String) :
    (d.set key value).find other = if other = key then some value else d.find other :=
  Store.find_set d.params key value other

@[simp] theorem find_remove (d : UPSData) (key other : String) :
    (d.remove key).find other = if other = key then none else d.find other :=
  Store.find_remove d.params key other

@[simp] theorem find_empty (key : String) : empty.find key = none := rfl

@[simp] theorem realPowerMeasured_set (d : UPSData) (key value : String) :
    (d.set key value).realPowerMeasured = d.realPowerMeasured := rfl

@[simp] theorem realPowerMeasured_remove (d : UPSData) (key : String) :
    (d.remove key).realPowerMeasured = d.realPowerMeasured := rfl

end UPSData

end EspNut
