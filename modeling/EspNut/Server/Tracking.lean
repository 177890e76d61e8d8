import EspNut.Table.Rows
import EspNut.Ups.Commands

/-!
# Results of tracked requests

The outcomes of the requests sent with tracking on, in a table of fixed size shared by all clients. A full table drops its oldest entry, and an entry older than an hour is gone. Times wrap around at 32 bits.
-/

namespace EspNut.NutTracking

def capacity : Nat := 16
def maxAgeMs : UInt32 := 3600000

structure Entry where
  id : String
  status : SetStatus
  createdMs : UInt32
  used : Bool
  deriving DecidableEq

def clear : List Entry := List.replicate capacity ⟨"", .unknown, 0, false⟩

def hexDigit (n : Nat) : Char := if n < 10 then Char.ofNat (48 + n) else Char.ofNat (55 + n)

/-- `%02X`. -/
def hexByte (b : Nat) : List Char := [hexDigit (b / 16), hexDigit (b % 16)]

/-- The bytes of four random words with version 4 and variant 10, in the layout of a UUID. -/
def newId (rnd : List UInt32) : String :=
  let bytes := rnd.flatMap fun r => [r.toNat / 2 ^ 24, r.toNat / 2 ^ 16 % 256, r.toNat / 2 ^ 8 % 256, r.toNat % 256]
  let byte (i : Nat) : Nat :=
    if i = 6 then bytes.getD i 0 % 16 + 0x40
    else if i = 8 then bytes.getD i 0 % 64 + 0x80
    else bytes.getD i 0
  let group (first n : Nat) : List Char := (List.range n).flatMap fun k => hexByte (byte (first + k))
  String.ofList (group 0 4 ++ '-' :: group 4 2 ++ '-' :: group 6 2 ++ '-' :: group 8 2 ++ '-' :: group 10 6)

/-- The oldest entry, the last of those of one age. -/
def oldest (entries : List Entry) (now : UInt32) : Nat :=
  ((List.range entries.length).foldl (fun best i =>
    match entries[i]? with
    | none => best
    | some e => if best.1 ≤ now - e.createdMs then (now - e.createdMs, i) else best) ((0 : UInt32), 0)).2

/-- A free entry takes the outcome, else the oldest one. -/
def add (entries : List Entry) (id : String) (st : SetStatus) (now : UInt32) : List Entry :=
  let slot := (entries.findIdx? fun e => !e.used).getD (oldest entries now)
  entries.set slot ⟨String.ofList (id.toList.take 36), st, now, true⟩

/-- Entries past their age are dropped, before their age can wrap around. -/
def cleanup (entries : List Entry) (now : UInt32) : List Entry :=
  entries.map fun e => if e.used && maxAgeMs < now - e.createdMs then { e with used := false } else e

def statusText : SetStatus → String
  | .ok => "SUCCESS"
  | .conversionFailed => "ERR INVALID-ARGUMENT"
  | .failed => "ERR FAILED"
  | .notConnected => "ERR FAILED"
  | .unknown => "ERR UNKNOWN"

def get (entries : List Entry) (id : String) (now : UInt32) : String :=
  match entries.find? fun e => e.used && NutTable.equalsIgnoreCase e.id id with
  | none => "ERR UNKNOWN"
  | some e => if maxAgeMs < now - e.createdMs then "ERR UNKNOWN" else statusText e.status

end EspNut.NutTracking
