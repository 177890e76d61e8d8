import EspNut.Host.DiagExport
import EspNut.Lib.JsonText

/-!
# The text of the USB diagnostics export

The export is written piece by piece, without a document. Only quotes, backslashes and seven control characters are escaped in a string, the others stand in the text as they are. Any snapshot makes a text that a reader with room for control characters reads back, and one without other control characters makes JSON.
-/

namespace EspNut

open Lib

/-- State and counters of the read behind the export. -/
structure DiagReadStatus where
  state : DiagReadState
  total : UInt16
  read : UInt16
  empty : UInt16
  failed : UInt16

def isHex (c : Char) : Bool := "0123456789abcdefABCDEF".toList.contains c

/-- The data behind the export. A character of a string stands for a byte. -/
structure UsbDiagSnapshot where
  firmwareVersion : String
  vid : String
  pid : String
  manufacturer : String
  product : String
  serialNumber : String
  /-- The bytes of the report descriptor in hex. -/
  descriptorHex : String
  descriptorHex_digits : descriptorHex.toList.all isHex = true
  quirks : UInt32
  driver : String
  linkFailures : UInt8
  linkRecoveries : UInt8
  stale : Bool
  droppedInputReports : UInt32
  inputPeriodMs : UInt32
  inputRecoveries : UInt8
  inputWatchdog : Bool
  portCycles : UInt32
  incompleteInputReports : UInt32
  epInMps : UInt16
  exportRead : DiagReadStatus
  reports : List UsbDiagReport
  reports_fit : ∀ r ∈ reports, r.id < 256 ∧ r.type < 256
  upsData : List (String × String)

namespace UsbDiagJson

/-! ### Pieces -/

/-- A line break and two blanks for each level. -/
def newline (level : Nat) : List Char := '\r' :: '\n' :: List.replicate (2 * level) ' '

/-- The escapes of ArduinoJson; other control characters pass unchanged. -/
def escapeSequence : Char → Option String
  | '"' => some "\\\""
  | '\\' => some "\\\\"
  | '\x08' => some "\\b"
  | '\x0c' => some "\\f"
  | '\n' => some "\\n"
  | '\r' => some "\\r"
  | '\t' => some "\\t"
  | '\x00' => some "\\u0000"
  | _ => none

def escaped (c : Char) : List Char :=
  match escapeSequence c with
  | some esc => esc.toList
  | none => [c]

def str (s : String) : List Char := '"' :: (s.toList.flatMap escaped ++ ['"'])

/-- The decimal text, in a buffer of eleven bytes with its NUL. -/
def num (v : Nat) : List Char := (Nat.toDigits 10 (v % 2 ^ 32)).take 10

def bool (b : Bool) : List Char := if b then "true".toList else "false".toList

def key (level : Nat) (k : String) (first : Bool) : List Char :=
  (if first then [] else [',']) ++ newline level ++ '"' :: (k.toList ++ ['"', ':', ' '])

/-- What stands in front of byte `i` of the descriptor: ten bytes a line. -/
def lead (i : Nat) : List Char :=
  if 0 < i ∧ i % 10 = 0 then ",\n    ".toList
  else if 0 < i then ", ".toList
  else "    ".toList

/-- The bytes from number `i` on; the last digit of an odd text stands alone. -/
def hexBytes : Nat → List Char → List Char
  | _, [] => []
  | i, [c] => lead i ++ '"' :: '0' :: 'x' :: c.toUpper :: ['"']
  | i, c :: d :: rest => lead i ++ '"' :: '0' :: 'x' :: c.toUpper :: d.toUpper :: '"' :: hexBytes (i + 1) rest

def descriptor (hex : String) : List Char := '[' :: '\n' :: (hexBytes 0 hex.toList ++ "\n  ]".toList)

def dataBytes : Bool → List Byte → List Char
  | _, [] => []
  | first, b :: data => (if first then [] else ", ".toList) ++ num b.toNat ++ dataBytes false data

def reportData (data : List Byte) : List Char := '[' :: (dataBytes true data ++ [']'])

def exportReadState : DiagReadState → String
  | .reading => "reading"
  | .done => "done"
  | .interrupted => "interrupted"
  | .idle => "not_requested"

/-- Keys with the texts of their values. -/
def fields (level : Nat) : Bool → List (String × List Char) → List Char
  | _, [] => []
  | first, (k, text) :: rest => key level k first ++ text ++ fields level false rest

/-- An object with its keys on a level and its closing brace one level above. -/
def object (level : Nat) (entries : List (String × List Char)) : List Char :=
  '\x7b' :: (fields level true entries ++ newline (level - 1) ++ ['\x7d'])

/-- Pieces on lines of their own, with commas between them. -/
def lines (level : Nat) : Bool → List (List Char) → List Char
  | _, [] => []
  | first, text :: rest => (if first then [] else [',']) ++ newline level ++ text ++ lines level false rest

/-! ### The export -/

def report (r : UsbDiagReport) : List Char :=
  object 5 ([("id", num r.id), ("type", num r.type), ("data", reportData r.data)]
    ++ (if r.onDemand then [("on_demand", bool true)] else [])
    ++ (if r.empty then [("empty", bool true)] else []))

def reports (rs : List UsbDiagReport) : List Char :=
  if rs = [] then "[]".toList else '[' :: (lines 4 true (rs.map report) ++ newline 3 ++ [']'])

def expectedUpsData (params : List (String × String)) : List Char :=
  if params = [] then "\x7b\x7d".toList
  else '\x7b' :: (lines 4 true (params.map fun p => str p.1 ++ ':' :: ' ' :: str p.2) ++ newline 3 ++ ['\x7d'])

def link (s : UsbDiagSnapshot) : List Char :=
  object 2
    [("failures", num s.linkFailures.toNat), ("recoveries", num s.linkRecoveries.toNat), ("stale", bool s.stale),
      ("dropped_input_reports", num s.droppedInputReports.toNat), ("input_period_ms", num s.inputPeriodMs.toNat),
      ("input_recoveries", num s.inputRecoveries.toNat), ("input_watchdog", bool s.inputWatchdog),
      ("port_cycles", num s.portCycles.toNat), ("incomplete_input_reports", num s.incompleteInputReports.toNat),
      ("ep_in_mps", num s.epInMps.toNat)]

def exportRead (status : DiagReadStatus) : List Char :=
  object 2
    [("state", '"' :: ((exportReadState status.state).toList ++ ['"'])), ("requested", num status.total.toNat),
      ("read", num status.read.toNat), ("empty", num status.empty.toNat), ("failed", num status.failed.toNat)]

/-- One scenario, so the array is never empty. -/
def scenarios (s : UsbDiagSnapshot) : List Char :=
  '[' :: (newline 2
    ++ object 3
      [("description", "\"Live ESP32 dump\"".toList), ("reports", reports s.reports),
        ("expected_ups_data", expectedUpsData s.upsData)]
    ++ newline 1 ++ [']'])

def write (s : UsbDiagSnapshot) : List Char :=
  object 1
    [("firmware_version", str s.firmwareVersion), ("vid", str s.vid), ("pid", str s.pid),
      ("manufacturer", str s.manufacturer), ("product", str s.product), ("serial_number", str s.serialNumber),
      ("report_descriptor_hex", descriptor s.descriptorHex), ("quirks", num s.quirks.toNat), ("driver", str s.driver),
      ("link", link s), ("export_read", exportRead s.exportRead), ("scenarios", scenarios s)]

/-! ### The values of a snapshot -/

open Json JsonText

def text (s : String) : Value := .text s.toList

def number (n : Nat) : Value := .number (Nat.toDigits 10 n)

def record (members : List (String × Value)) : Value := .object (members.map fun m => (m.1.toList, m.2))

/-- The bytes of a hex text. -/
def hexPairs : List Char → List Value
  | [] => []
  | [c] => [.text ['0', 'x', c.toUpper]]
  | c :: d :: rest => .text ['0', 'x', c.toUpper, d.toUpper] :: hexPairs rest

def reportValue (r : UsbDiagReport) : Value :=
  record ([("id", number r.id), ("type", number r.type), ("data", .array (r.data.map fun b => number b.toNat))]
    ++ (if r.onDemand then [("on_demand", .bool true)] else [])
    ++ (if r.empty then [("empty", .bool true)] else []))

def linkValue (s : UsbDiagSnapshot) : Value :=
  record
    [("failures", number s.linkFailures.toNat), ("recoveries", number s.linkRecoveries.toNat), ("stale", .bool s.stale),
      ("dropped_input_reports", number s.droppedInputReports.toNat), ("input_period_ms", number s.inputPeriodMs.toNat),
      ("input_recoveries", number s.inputRecoveries.toNat), ("input_watchdog", .bool s.inputWatchdog),
      ("port_cycles", number s.portCycles.toNat), ("incomplete_input_reports", number s.incompleteInputReports.toNat),
      ("ep_in_mps", number s.epInMps.toNat)]

def exportReadValue (status : DiagReadStatus) : Value :=
  record
    [("state", text (exportReadState status.state)), ("requested", number status.total.toNat),
      ("read", number status.read.toNat), ("empty", number status.empty.toNat), ("failed", number status.failed.toNat)]

def scenarioValue (s : UsbDiagSnapshot) : Value :=
  record
    [("description", text "Live ESP32 dump"), ("reports", .array (s.reports.map reportValue)),
      ("expected_ups_data", record (s.upsData.map fun p => (p.1, text p.2)))]

/-- The fields of a snapshot under the names of the export. -/
def value (s : UsbDiagSnapshot) : Value :=
  record
    [("firmware_version", text s.firmwareVersion), ("vid", text s.vid), ("pid", text s.pid),
      ("manufacturer", text s.manufacturer), ("product", text s.product), ("serial_number", text s.serialNumber),
      ("report_descriptor_hex", .array (hexPairs s.descriptorHex.toList)), ("quirks", number s.quirks.toNat),
      ("driver", text s.driver), ("link", linkValue s), ("export_read", exportReadValue s.exportRead),
      ("scenarios", .array [scenarioValue s])]

/-- The strings that are written with escapes. -/
def texts (s : UsbDiagSnapshot) : List String :=
  [s.firmwareVersion, s.vid, s.pid, s.manufacturer, s.product, s.serialNumber, s.driver]
    ++ s.upsData.flatMap fun p => [p.1, p.2]

/-- A text whose control characters all have an escape. -/
def Printable (t : String) : Prop := (t.toList.all fun c => decide (' ' ≤ c) || (escapeSequence c).isSome) = true

instance (t : String) : Decidable (Printable t) := inferInstanceAs (Decidable (_ = true))

/-! ### What the pieces stand for -/

variable {raw : Bool}

theorem newline_blank (level : Nat) : Blank (newline level) := by
  refine List.all_eq_true.mpr fun c hc => ?_
  rcases List.mem_cons.mp hc with rfl | hc
  · decide
  rcases List.mem_cons.mp hc with rfl | hc
  · decide
  · rw [List.eq_of_mem_replicate hc]
    decide

theorem readChar_escape {c : Char} {esc : String} (h : escapeSequence c = some esc) (rest : List Char) :
    readChar raw (esc.toList ++ rest) = some (c, rest) := by
  unfold escapeSequence at h
  split at h
  case h_9 => cases h
  all_goals
    rw [← Option.some.inj h]
    rfl

/-- A character with an escape, or one that may stand as it is. -/
theorem readChar_escaped {c : Char} (h : raw = true ∨ ' ' ≤ c ∨ (escapeSequence c).isSome = true) (rest : List Char) :
    readChar raw (escaped c ++ rest) = some (c, rest) := by
  unfold escaped
  cases hesc : escapeSequence c with
  | some esc => exact readChar_escape hesc rest
  | none =>
      have hquote : c ≠ '"' := by
        rintro rfl
        cases hesc
      have hslash : c ≠ '\\' := by
        rintro rfl
        cases hesc
      have hplain : raw = true ∨ ' ' ≤ c := by
        rcases h with hraw | hle | hsome
        · exact .inl hraw
        · exact .inr hle
        · rw [hesc] at hsome
          cases hsome
      exact readChar_plain hquote hslash hplain rest

theorem text_str {s : String} (h : raw = true ∨ Printable s) (rest : List Char) :
    Text raw s.toList ((s.toList.flatMap escaped ++ ['"']) ++ rest) rest := by
  refine text_of_chars (fun c hc => readChar_escaped ?_) rest
  rcases h with hraw | hprintable
  · exact .inl hraw
  · have hc := List.all_eq_true.mp hprintable c hc
    rw [Bool.or_eq_true, decide_eq_true_eq] at hc
    exact .inr hc

theorem writes_str {s : String} (h : raw = true ∨ Printable s) : Writes raw (text s) (str s) := writes_text (text_str h)

theorem num_eq {v : Nat} (h : v < 2 ^ 32) : num v = Nat.toDigits 10 v := by
  unfold num
  rw [Nat.mod_eq_of_lt h]
  exact List.take_of_length_le ((Nat.length_toDigits_le_iff (by decide) (by decide)).mpr (h.trans (by decide)))

theorem writes_num {v : Nat} (h : v < 2 ^ 32) : Writes raw (number v) (num v) := by
  rw [num_eq h]
  exact writes_number raw v

/-! ### Lists -/

theorem isPlain_of_isHex {c : Char} (h : isHex c = true) : isPlain c.toUpper = true := by
  have hall : ("0123456789abcdefABCDEF".toList.all fun d => isPlain d.toUpper) = true := by decide
  exact List.all_eq_true.mp hall c (List.contains_iff_mem.mp h)

theorem lead_succ (i : Nat) : ∃ blanks, lead (i + 1) = ',' :: blanks ∧ Blank blanks := by
  unfold lead
  split
  · exact ⟨"\n    ".toList, rfl, by decide⟩
  · rw [if_pos (Nat.succ_pos i)]
    exact ⟨[' '], rfl, by decide⟩

theorem writes_hex {digits : List Char} (h : ∀ c ∈ digits, isHex c = true) :
    Writes raw (.text ('0' :: 'x' :: digits.map Char.toUpper)) ('"' :: '0' :: 'x' :: (digits.map Char.toUpper ++ ['"'])) := by
  have hplain : Plain ('0' :: 'x' :: digits.map Char.toUpper) := by
    have hdigits : (digits.map Char.toUpper).all isPlain = true := by
      rw [List.all_map]
      exact List.all_eq_true.mpr fun c hc => isPlain_of_isHex (h c hc)
    show (isPlain '0' && (isPlain 'x' && (digits.map Char.toUpper).all isPlain)) = true
    rw [hdigits]
    rfl
  exact writes_text (text_plain hplain)

theorem items_hex {digits : List Char} (h : ∀ c ∈ digits, isHex c = true) (i : Nat) :
    Items raw (hexPairs digits) (hexBytes (i + 1) digits ++ "\n  ]".toList) := by
  induction digits using hexPairs.induct generalizing i with
  | case1 => exact Items.close (show Blank "\n  ".toList by decide)
  | case2 c =>
      obtain ⟨blanks, hlead, hblanks⟩ := lead_succ i
      have hlast : Items raw [] "\n  ]".toList := Items.close (show Blank "\n  ".toList by decide)
      rw [hexBytes, hlead, List.cons_append, List.cons_append, List.append_assoc]
      exact .more hblanks (writes_hex h) hlast
  | case3 c d rest ih =>
      obtain ⟨blanks, hlead, hblanks⟩ := lead_succ i
      obtain ⟨hc, hd, hrest⟩ := (List.forall_mem_cons.mp h).imp_right List.forall_mem_cons.mp
      have hbyte : ∀ e ∈ [c, d], isHex e = true := by
        simp [hc, hd]
      have hmore : Items raw (_ :: hexPairs rest) _ := .more hblanks (writes_hex hbyte) (ih hrest (i + 1))
      rw [hexBytes, hlead, List.cons_append, List.cons_append, List.append_assoc]
      exact hmore

theorem writes_descriptor {hex : String} (hhex : hex.toList.all isHex = true) :
    Writes raw (.array (hexPairs hex.toList)) (descriptor hex) := by
  have h := List.all_eq_true.mp hhex
  unfold descriptor
  generalize hex.toList = digits at h
  have hblanks : Blank "\n    ".toList := by decide
  match digits with
  | [] => exact writes_noItems (show Blank "\n\n  ".toList by decide)
  | [c] =>
      exact writes_array hblanks (writes_hex h) (Items.close (show Blank "\n  ".toList by decide))
  | c :: d :: rest =>
      obtain ⟨hc, hd, hrest⟩ := (List.forall_mem_cons.mp h).imp_right List.forall_mem_cons.mp
      have hbyte : ∀ e ∈ [c, d], isHex e = true := by
        simp [hc, hd]
      exact writes_array hblanks (writes_hex hbyte) (items_hex hrest 0)

theorem writes_byte (b : Byte) : Writes raw (number b.toNat) (num b.toNat) := writes_num (b.isLt.trans (by decide))

theorem items_data (data : List Byte) : Items raw (data.map fun b => number b.toNat) (dataBytes false data ++ [']']) := by
  induction data with
  | nil => exact Items.close (show Blank [] by decide)
  | cons b data ih =>
      have hmore : Items raw (number b.toNat :: data.map fun b => number b.toNat)
          (',' :: ([' '] ++ (num b.toNat ++ (dataBytes false data ++ [']'])))) := .more (by decide) (writes_byte b) ih
      rw [dataBytes, List.append_assoc, List.append_assoc]
      exact hmore

theorem writes_reportData (data : List Byte) : Writes raw (.array (data.map fun b => number b.toNat)) (reportData data) := by
  cases data with
  | nil => exact writes_noItems (show Blank [] by decide)
  | cons b data =>
      unfold reportData
      rw [dataBytes, List.append_assoc, List.append_assoc]
      exact writes_array (show Blank [] by decide) (writes_byte b) (items_data data)

theorem items_lines {vs : List Value} {pieces : List (List Char)} (h : List.Forall₂ (Writes raw) vs pieces) (level close : Nat) :
    Items raw vs (lines level false pieces ++ (newline close ++ [']'])) := by
  induction h with
  | nil => exact .close (newline_blank close)
  | cons hv _ ih =>
      have hmore := Items.more (newline_blank level) hv ih
      simp only [lines, Bool.false_eq_true, if_false, List.append_assoc, List.cons_append, List.nil_append]
      exact hmore

theorem writes_lines {v : Value} {vs : List Value} {piece : List Char} {pieces : List (List Char)} (hv : Writes raw v piece)
    (h : List.Forall₂ (Writes raw) vs pieces) (level close : Nat) :
    Writes raw (.array (v :: vs)) ('[' :: (lines level true (piece :: pieces) ++ newline close ++ [']'])) := by
  have harray := writes_array (newline_blank level) hv (items_lines h level close)
  simp only [lines, if_true, List.append_assoc, List.nil_append]
  exact harray

/-! ### Objects -/

/-- A key of plain characters with the text of its value. -/
structure Field (raw : Bool) (member : String × Value) (entry : String × List Char) : Prop where
  name : entry.1 = member.1
  plain : Plain member.1.toList
  writes : Writes raw member.2 entry.2

theorem members_fields {ms : List (String × Value)} {entries : List (String × List Char)} (h : List.Forall₂ (Field raw) ms entries)
    (level close : Nat) :
    Members raw (ms.map fun m => (m.1.toList, m.2)) (fields level false entries ++ (newline close ++ ['\x7d'])) := by
  induction h with
  | nil => exact .close (newline_blank close)
  | @cons member entry ms entries hfield _ ih =>
      have hmore := Members.more (newline_blank level) (text_plain hfield.plain) hfield.writes ih
      rw [List.append_assoc] at hmore
      simp only [fields, key, hfield.name, Bool.false_eq_true, if_false, List.append_assoc, List.cons_append, List.nil_append]
      exact hmore

theorem writes_record {member : String × Value} {ms : List (String × Value)} {entry : String × List Char}
    {entries : List (String × List Char)} (hfirst : Field raw member entry) (h : List.Forall₂ (Field raw) ms entries)
    (level : Nat) : Writes raw (record (member :: ms)) (object level (entry :: entries)) := by
  have hobject := writes_object (newline_blank level) (text_plain hfirst.plain) hfirst.writes (members_fields h level (level - 1))
  rw [List.append_assoc] at hobject
  simp only [object, fields, key, hfirst.name, if_true, List.append_assoc, List.cons_append, List.nil_append]
  exact hobject

/-- Members whose keys have escapes too. -/
theorem members_upsData {params : List (String × String)}
    (h : ∀ p ∈ params, (raw = true ∨ Printable p.1) ∧ (raw = true ∨ Printable p.2)) :
    Members raw (params.map fun p => (p.1.toList, text p.2))
      (lines 4 false (params.map fun p => str p.1 ++ ':' :: ' ' :: str p.2) ++ (newline 3 ++ ['\x7d'])) := by
  induction params with
  | nil => exact .close (newline_blank 3)
  | cons p params ih =>
      obtain ⟨⟨hkey, hvalue⟩, hparams⟩ := List.forall_mem_cons.mp h
      have hmore := Members.more (newline_blank 4) (text_str hkey) (writes_str hvalue) (ih hparams)
      rw [List.append_assoc] at hmore
      simp only [List.map_cons, lines, str, Bool.false_eq_true, if_false, List.append_assoc, List.cons_append, List.nil_append]
      simp only [str, List.append_assoc, List.cons_append, List.nil_append] at hmore
      exact hmore

theorem writes_upsData {params : List (String × String)}
    (h : ∀ p ∈ params, (raw = true ∨ Printable p.1) ∧ (raw = true ∨ Printable p.2)) :
    Writes raw (record (params.map fun p => (p.1, text p.2))) (expectedUpsData params) := by
  unfold record expectedUpsData
  rw [List.map_map]
  cases params with
  | nil => exact writes_noMembers (show Blank [] by decide)
  | cons p params =>
      obtain ⟨⟨hkey, hvalue⟩, hparams⟩ := List.forall_mem_cons.mp h
      have hobject := writes_object (newline_blank 4) (text_str hkey) (writes_str hvalue) (members_upsData hparams)
      rw [List.append_assoc] at hobject
      simp only [str, List.append_assoc, List.cons_append, List.nil_append] at hobject
      simp only [List.map_cons, lines, str, if_true, List.append_assoc, List.cons_append, List.nil_append]
      exact hobject

/-! ### The export -/

theorem field_of_plain {k : String} {v : Value} {piece : List Char} (hplain : Plain k.toList)
    (h : Writes raw v piece) : Field raw (k, v) (k, piece) := ⟨rfl, hplain, h⟩

theorem writes_report {r : UsbDiagReport} (hid : r.id < 256) (htype : r.type < 256) : Writes raw (reportValue r) (report r) := by
  have hflag : ∀ (b : Bool) (k : String), Plain k.toList →
      List.Forall₂ (Field raw) (if b then [(k, Value.bool true)] else []) (if b then [(k, bool true)] else []) := by
    intro b k hplain
    cases b with
    | false => exact .nil
    | true => exact .cons (field_of_plain hplain (writes_bool raw true)) .nil
  refine writes_record (field_of_plain (by decide) (writes_num (hid.trans (by decide)))) ?_ 5
  refine .cons (field_of_plain (by decide) (writes_num (htype.trans (by decide)))) ?_
  refine .cons (field_of_plain (by decide) (writes_reportData r.data)) ?_
  exact List.rel_append (hflag r.onDemand "on_demand" (by decide)) (hflag r.empty "empty" (by decide))

theorem writes_reports {rs : List UsbDiagReport} (h : ∀ r ∈ rs, r.id < 256 ∧ r.type < 256) :
    Writes raw (.array (rs.map reportValue)) (reports rs) := by
  have hall : List.Forall₂ (Writes raw) (rs.map reportValue) (rs.map report) := by
    rw [List.forall₂_map_left_iff, List.forall₂_map_right_iff, List.forall₂_same]
    exact fun r hr => writes_report (h r hr).1 (h r hr).2
  cases rs with
  | nil => exact writes_noItems (show Blank [] by decide)
  | cons r rs =>
      obtain ⟨hr, hrs⟩ := List.forall₂_cons.mp hall
      exact writes_lines hr hrs 4 3

theorem field_num8 {k : String} (n : UInt8) (hplain : Plain k.toList) :
    Field raw (k, number n.toNat) (k, num n.toNat) := field_of_plain hplain (writes_num (n.toNat_lt.trans (by decide)))

theorem field_num16 {k : String} (n : UInt16) (hplain : Plain k.toList) :
    Field raw (k, number n.toNat) (k, num n.toNat) := field_of_plain hplain (writes_num (n.toNat_lt.trans (by decide)))

theorem field_num32 {k : String} (n : UInt32) (hplain : Plain k.toList) :
    Field raw (k, number n.toNat) (k, num n.toNat) := field_of_plain hplain (writes_num n.toNat_lt)

theorem field_bool {k : String} (b : Bool) (hplain : Plain k.toList) :
    Field raw (k, .bool b) (k, bool b) := field_of_plain hplain (writes_bool raw b)

theorem writes_link (s : UsbDiagSnapshot) : Writes raw (linkValue s) (link s) := by
  refine writes_record (field_num8 s.linkFailures (by decide)) ?_ 2
  refine .cons (field_num8 s.linkRecoveries (by decide)) ?_
  refine .cons (field_bool s.stale (by decide)) ?_
  refine .cons (field_num32 s.droppedInputReports (by decide)) ?_
  refine .cons (field_num32 s.inputPeriodMs (by decide)) ?_
  refine .cons (field_num8 s.inputRecoveries (by decide)) ?_
  refine .cons (field_bool s.inputWatchdog (by decide)) ?_
  refine .cons (field_num32 s.portCycles (by decide)) ?_
  refine .cons (field_num32 s.incompleteInputReports (by decide)) ?_
  exact .cons (field_num16 s.epInMps (by decide)) .nil

theorem writes_state (state : DiagReadState) :
    Writes raw (text (exportReadState state)) ('"' :: ((exportReadState state).toList ++ ['"'])) := by
  refine writes_text (text_plain ?_)
  cases state with
  | reading | done | interrupted | idle => decide

theorem writes_exportRead (status : DiagReadStatus) : Writes raw (exportReadValue status) (exportRead status) := by
  refine writes_record (field_of_plain (by decide) (writes_state status.state)) ?_ 2
  refine .cons (field_num16 status.total (by decide)) ?_
  refine .cons (field_num16 status.read (by decide)) ?_
  refine .cons (field_num16 status.empty (by decide)) ?_
  exact .cons (field_num16 status.failed (by decide)) .nil

theorem writes_scenarios {s : UsbDiagSnapshot}
    (h : ∀ p ∈ s.upsData, (raw = true ∨ Printable p.1) ∧ (raw = true ∨ Printable p.2)) :
    Writes raw (.array [scenarioValue s]) (scenarios s) := by
  have hdescription : Writes raw (text "Live ESP32 dump") ('"' :: ("Live ESP32 dump".toList ++ ['"'])) :=
    writes_text (text_plain (by decide))
  have hscenario : Writes raw (scenarioValue s)
      (object 3
        [("description", "\"Live ESP32 dump\"".toList), ("reports", reports s.reports),
          ("expected_ups_data", expectedUpsData s.upsData)]) := by
    refine writes_record (field_of_plain (by decide) hdescription) ?_ 3
    refine .cons (field_of_plain (by decide) (writes_reports s.reports_fit)) ?_
    exact .cons (field_of_plain (by decide) (writes_upsData h)) .nil
  have harray := writes_array (newline_blank 2) hscenario (Items.close (newline_blank 1))
  unfold scenarios
  rw [List.append_assoc, List.append_assoc]
  exact harray

theorem writes_write {s : UsbDiagSnapshot} (h : ∀ t ∈ texts s, raw = true ∨ Printable t) : Writes raw (value s) (write s) := by
  have hparams : ∀ p ∈ s.upsData, (raw = true ∨ Printable p.1) ∧ (raw = true ∨ Printable p.2) := by
    intro p hp
    have hmem : ∀ t ∈ [p.1, p.2], t ∈ texts s := fun t ht => List.mem_append_right _ (List.mem_flatMap.mpr ⟨p, hp, ht⟩)
    exact ⟨h _ (hmem p.1 (by simp)), h _ (hmem p.2 (by simp))⟩
  have hstr : ∀ {k t : String}, Plain k.toList →
      t ∈ [s.firmwareVersion, s.vid, s.pid, s.manufacturer, s.product, s.serialNumber, s.driver] →
      Field raw (k, text t) (k, str t) :=
    fun hplain ht => field_of_plain hplain (writes_str (h _ (List.mem_append_left _ ht)))
  refine writes_record (hstr (by decide) (by simp)) ?_ 1
  refine .cons (hstr (by decide) (by simp)) ?_
  refine .cons (hstr (by decide) (by simp)) ?_
  refine .cons (hstr (by decide) (by simp)) ?_
  refine .cons (hstr (by decide) (by simp)) ?_
  refine .cons (hstr (by decide) (by simp)) ?_
  refine .cons (field_of_plain (by decide) (writes_descriptor s.descriptorHex_digits)) ?_
  refine .cons (field_num32 s.quirks (by decide)) ?_
  refine .cons (hstr (by decide) (by simp)) ?_
  refine .cons (field_of_plain (by decide) (writes_link s)) ?_
  refine .cons (field_of_plain (by decide) (writes_exportRead s.exportRead)) ?_
  exact .cons (field_of_plain (by decide) (writes_scenarios hparams)) .nil

/-- The export stands for its snapshot and for nothing else. In JSON it does so when no text has a control character without an escape. -/
theorem export_isJson (s : UsbDiagSnapshot) :
    (∀ v, IsJson true v (write s) ↔ v = value s)
      ∧ ((∀ t ∈ texts s, Printable t) → ∀ v, IsJson false v (write s) ↔ v = value s) := by
  have honly : ∀ {raw : Bool}, (∀ t ∈ texts s, raw = true ∨ Printable t) → ∀ v, IsJson raw v (write s) ↔ v = value s := by
    intro raw h v
    have hvalue : IsJson raw (value s) (write s) := (writes_write h).isJson
    constructor
    · exact fun hv => hv.unique hvalue
    · rintro rfl
      exact hvalue
  exact ⟨honly fun t _ => .inl rfl, fun hprintable => honly fun t ht => .inr (hprintable t ht)⟩

/-- A snapshot of no reports, with the name the device gives itself. -/
def plainSnapshot (product : String) : UsbDiagSnapshot where
  firmwareVersion := "1.0"
  vid := "463"
  pid := "ffff"
  manufacturer := "EATON"
  product := product
  serialNumber := "Blank"
  descriptorHex := "05840904a101"
  descriptorHex_digits := by decide
  quirks := 0
  driver := "EatonDriver"
  linkFailures := 0
  linkRecoveries := 0
  stale := false
  droppedInputReports := 0
  inputPeriodMs := 2000
  inputRecoveries := 0
  inputWatchdog := false
  portCycles := 0
  incompleteInputReports := 0
  epInMps := 8
  exportRead := { state := .idle, total := 0, read := 0, empty := 0, failed := 0 }
  reports := [{ id := 1, type := 3, data := [1, 2, 255], onDemand := false, empty := false }]
  reports_fit := by decide
  upsData := [("ups.status", "OL")]

/-- Quotes, backslashes and the control characters with an escape are JSON. -/
theorem export_isJson_escaped : IsJson false (value (plainSnapshot "a\"b\\c\n\t\x00")) (write (plainSnapshot "a\"b\\c\n\t\x00")) :=
  ((export_isJson (plainSnapshot "a\"b\\c\n\t\x00")).2 (by decide) _).mpr rfl

/-- A control character without an escape stands in the text, which is no JSON. -/
theorem control_notJson : ¬∃ v, IsJson false v (write (plainSnapshot "ctl\x01 end")) := by
  rintro ⟨v, hv⟩
  have hnone : parse false (write (plainSnapshot "ctl\x01 end")) = none := by decide +kernel
  rw [hv.parse_eq] at hnone
  cases hnone

end UsbDiagJson

end EspNut
