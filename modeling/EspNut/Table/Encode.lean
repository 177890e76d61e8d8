import EspNut.Table.Decode

/-!
# From NUT texts to HID values

`encode` turns the text of a SET VAR into the value of the row's field, before the unit exponent. It is stricter than the readers of C: a text they would take as 0 is refused.
-/

namespace EspNut.NutTable

open Lib Rounding

/-- Seconds since the epoch of a broken-down time, the inverse of `gmtime`. -/
def timegmUtc (year month day hour minute second : Int) : Int :=
  let y := year - if month ≤ 2 then 1 else 0
  let era := (if 0 ≤ y then y else y - 399).tdiv 400
  let yoe := y - era * 400
  let doy := (153 * (month + if 2 < month then -3 else 9) + 2) / 5 + day - 1
  let doe := yoe * 365 + yoe / 4 - yoe / 100 + doy
  let days := era * 146097 + doe - 719468
  days * 86400 + hour * 3600 + minute * 60 + second

def afterSign : List Char → List Char
  | '+' :: rest => rest
  | '-' :: rest => rest
  | rest => rest

def afterFraction : List Char → List Char
  | '.' :: fraction => fraction.dropWhile Char.isDigit
  | rest => rest

/-- A decimal number truncated towards zero: blanks, a sign, digits, a fraction, blanks, and an integral part of 32 bits. -/
def parseTruncatedNumber (text : String) : Option Int :=
  let body := text.toList.dropWhile Decimal.isSpace
  let unsigned := afterSign body
  let digits := unsigned.takeWhile Char.isDigit
  let tail := unsigned.dropWhile Char.isDigit
  let rest := afterFraction tail
  let magnitude := Decimal.value digits
  let v := if body.head? = some '-' then -magnitude else magnitude
  if digits = [] then none
  else if rest.dropWhile Decimal.isSpace ≠ [] then none
  else if v < -2 ^ 31 ∨ 2 ^ 31 - 1 < v then none
  else some v

def parseDigits (least most : Nat) (text : List Char) : Option (Nat × List Char) :=
  let digits := (text.take most).takeWhile Char.isDigit
  if digits.length < least then none
  else some (Nat.ofDigitChars 10 digits 0, text.drop digits.length)

def expectChar (c : Char) : List Char → Option (List Char)
  | first :: rest => if first = c then some rest else none
  | [] => none

def daysInMonth (year month : Nat) : Nat :=
  let leap := (year % 4 = 0 ∧ year % 100 ≠ 0) ∨ year % 400 = 0
  if month = 2 ∧ leap then 29
  else [31, 28, 31, 30, 31, 30, 31, 31, 30, 31, 30, 31].getD (month - 1) 0

/-- `%Y/%m/%d %H:%M:%S` from 1970 on, a real day and nothing after the time. -/
def parseMgeDateTime (text : List Char) : Option Int := do
  let (y, p) ← parseDigits 4 4 text
  let p ← expectChar '/' p
  let (mo, p) ← parseDigits 1 2 p
  let p ← expectChar '/' p
  let (d, p) ← parseDigits 1 2 p
  let blank ← p.head?
  if Decimal.isSpace blank = false then none
  let (h, p) ← parseDigits 1 2 (p.dropWhile Decimal.isSpace)
  let p ← expectChar ':' p
  let (mi, p) ← parseDigits 1 2 p
  let p ← expectChar ':' p
  let (sec, p) ← parseDigits 1 2 p
  if p ≠ [] then none
  if y < 1970 ∨ mo < 1 ∨ 12 < mo ∨ d < 1 ∨ daysInMonth y mo < d then none
  if 23 < h ∨ 59 < mi ∨ 59 < sec then none
  some (timegmUtc y mo d h mi sec)

/-- Exactly YYYY/MM/DD with the year in seven bits from 1980, packed. -/
def encodeBatteryDate (text : List Char) : Option Int := do
  let (y, p) ← parseDigits 4 4 text
  let p ← expectChar '/' p
  let (m, p) ← parseDigits 2 2 p
  let p ← expectChar '/' p
  let (d, p) ← parseDigits 2 2 p
  if p ≠ [] then none
  if y < 1980 ∨ 127 < y - 1980 ∨ m < 1 ∨ 12 < m ∨ d < 1 ∨ 31 < d then none
  some ((y - 1980) * 512 + m * 32 + d)

/-- The new half of the clock joined with the current other half, which must be known. -/
def encodeMgeClock (date : Bool) (val : String) (data : UPSData) : Option Int :=
  let other := data.get (if date then "ups.time" else "ups.date") ""
  if other = "" then none
  else
    let joined := if date then val ++ " " ++ other else other ++ " " ++ val
    if 64 ≤ joined.toList.length then none else parseMgeDateTime joined.toList

def encode (info : HidInfo) (val : String) (ctx : Context) (data : UPSData) : Option ℚ :=
  match info.conv with
  | .number => (parseTruncatedNumber val).map fun v => (v : ℚ)
  | .lookup | .nominalVoltage | .pegasusThreshold =>
      (info.lkp.find? fun entry => entry.nut = val).map fun entry => (entry.hid : ℚ)
  | .pegasusYesNo =>
      if pegasusValid ctx = false then some 0
      else some (if val.toList.take 3 = ['y', 'e', 's'] then 1 else 0)
  | .batteryDate => (encodeBatteryDate val.toList).map fun v => (v : ℚ)
  | .mgeDate => (encodeMgeClock true val data).map fun v => (v : ℚ)
  | .mgeTime => (encodeMgeClock false val data).map fun v => (v : ℚ)
  | _ => none

end EspNut.NutTable
