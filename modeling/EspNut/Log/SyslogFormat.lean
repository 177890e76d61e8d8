import EspNut.Lib.Buffer
import EspNut.Lib.Plain
import Mathlib.Data.List.DropRight

/-!
# Syslog messages

A message is a header and the text of a log line, written into a buffer of any size. The fields of the header are cut and cleaned in buffers of their own, the text in the output itself; every read and write is checked against its buffer.
-/

namespace EspNut

open Lib Buffer Rounding Text

inductive SyslogProtocol where
  | rfc3164 | rfc5424
  deriving DecidableEq

/-- What the format reads of a `struct tm`; the year counts from 1900. -/
structure Tm where
  year : Int32
  mon : Int32
  mday : Int32
  hour : Int32
  min : Int32
  sec : Int32

structure SyslogTime where
  localTime : Tm
  utc : Tm
  ms : Nat

namespace SyslogFormat

/-- The loop of `copyToken`. -/
def copyKept (keep : Char → Bool) (max : Nat) : List Char → List Char → Nat → Option (List Char × Nat)
  | [], out, n => some (out, n)
  | c :: rest, out, n =>
      if n < max ∧ n + 1 < out.length then
        if keep c then do copyKept keep max rest (← write out n c) (n + 1) else copyKept keep max rest out n
      else some (out, n)

def copyInput (keep : Char → Bool) (max : Nat) (input : Option (List Char)) (out : List Char) : Option (List Char × Nat) :=
  match input with
  | some text => copyKept keep max text out 0
  | none => some (out, 0)

/-- A dash when nothing is left. -/
def dashIfNone (out : List Char) (n : Nat) : Option (List Char × Nat) :=
  if n = 0 ∧ 1 < out.length then (write out n '-').map (·, n + 1) else some (out, n)

def copyToken (out : List Char) (input : Option (List Char)) (max : Nat) (keep : Char → Bool) :
    Option (List Char × Nat) := do
  let (out, n) ← copyInput keep max input out
  let (out, n) ← dashIfNone out n
  some (← write out n '\x00', n)

def isPrintUsAscii (c : Char) : Bool := 33 ≤ c.toNat && c.toNat ≤ 126

def isTagChar (c : Char) : Bool :=
  'a' ≤ c && c ≤ 'z' || 'A' ≤ c && c ≤ 'Z' || '0' ≤ c && c ≤ '9' || c = '-' || c = '_'

def clampField (v lo hi : Int) : Int := if v < lo then lo else if hi < v then hi else v

def months : List String := ["Jan", "Feb", "Mar", "Apr", "May", "Jun", "Jul", "Aug", "Sep", "Oct", "Nov", "Dec"]

def twoDigits (v : Int32) (lo hi : Int) : List Char := padded 2 (clampField v.toInt lo hi).toNat

/-- The time of day as both formats have it. -/
def clockText (t : Tm) : List Char :=
  twoDigits t.hour 0 23 ++ [':'] ++ twoDigits t.min 0 59 ++ [':'] ++ twoDigits t.sec 0 60

def blankPadded (width n : Nat) : List Char := List.replicate (width - (Nat.toDigits 10 n).length) ' ' ++ Nat.toDigits 10 n

def utcText (time : SyslogTime) : List Char :=
  padded 4 (clampField (time.utc.year + 1900).toInt 0 9999).toNat ++ ['-']
    ++ padded 2 (clampField time.utc.mon.toInt 0 11 + 1).toNat ++ ['-'] ++ twoDigits time.utc.mday 1 31 ++ ['T']
    ++ clockText time.utc ++ ['.'] ++ padded 3 (if 999 < time.ms then 999 else time.ms) ++ ['Z']

def localText (time : SyslogTime) : Option (List Char) := do
  let month ← months[(clampField time.localTime.mon.toInt 0 11).toNat]?
  some (month.toList ++ [' '] ++ blankPadded 2 (clampField time.localTime.mday.toInt 1 31).toNat ++ [' ']
    ++ clockText time.localTime)

/-- The header printed from its fields. -/
def headerText (protocol : SyslogProtocol) (pri : Nat) (host tag : List Char) (time : Option SyslogTime) :
    Option (List Char) :=
  let pri := ['<'] ++ Nat.toDigits 10 pri ++ ['>']
  match protocol, time with
  | .rfc5424, some time => some (pri ++ ['1', ' '] ++ utcText time ++ [' '] ++ host ++ [' '] ++ tag ++ " - - - ".toList)
  | .rfc5424, none => some (pri ++ ['1', ' ', '-', ' '] ++ host ++ [' '] ++ tag ++ " - - - ".toList)
  | .rfc3164, some time => do
      let date ← localText time
      some (pri ++ date ++ [' '] ++ host ++ [' '] ++ tag ++ [':', ' '])
  | .rfc3164, none => some (pri ++ tag ++ [':', ' '])

/-- The header of a message, its fields cut and cleaned; what the buffers hold before is not read. -/
def header (protocol : SyslogProtocol) (pri : Nat) (hostname app : Option (List Char)) (time : Option SyslogTime) :
    Option (List Char) :=
  let host := List.replicate 64 '\x00'
  let tag := List.replicate 49 '\x00'
  match protocol with
  | .rfc5424 => do
      let (host, _) ← copyToken host hostname 63 isPrintUsAscii
      let (tag, _) ← copyToken tag app 48 isPrintUsAscii
      headerText .rfc5424 pri (contents host) (contents tag) time
  | .rfc3164 => do
      let (tag, _) ← copyToken tag app 32 isTagChar
      match time with
      | some time => do
          let (host, _) ← copyToken host hostname 63 isPrintUsAscii
          headerText .rfc3164 pri (contents host) (contents tag) (some time)
      | none => headerText .rfc3164 pri [] (contents tag) none

/-- Control characters become spaces. -/
def cleaned (c : Char) : Char := if c.toNat < 0x20 ∨ c.toNat = 0x7F then ' ' else c

/-- The length without the blanks at the end of the message. -/
def withoutBlanks (out : List Char) (header : Nat) : Nat → Option Nat
  | 0 => some 0
  | n + 1 =>
      if header < n + 1 then
        match out[n]? with
        | some c => if c = ' ' then withoutBlanks out header n else some (n + 1)
        | none => none
      else some (n + 1)

def copyMessage (out : List Char) (msg : Option (List Char)) (n : Nat) : Option (List Char × Nat) :=
  match msg with
  | some msg => copyUpTo (out.length - 1) (msg.map cleaned) out n
  | none => some (out, n)

/-- Without a text of the message there is no separator either. -/
def withoutSeparator (out : List Char) (header n : Nat) : Option Nat :=
  if n = header ∧ 0 < n then out[n - 1]?.map (if · = ' ' then n - 1 else n) else some n

/-- The text of the message behind the header. -/
def formatMessage (out : List Char) (msg : Option (List Char)) (header : Nat) : Option (List Char × Nat) := do
  let (out, n) ← copyMessage out msg header
  let n ← withoutBlanks out header n
  let n ← withoutSeparator out header n
  some (← write out n '\x00', n)

def formatSyslogSeverity (out : List Char) (protocol : SyslogProtocol) (facility severity : Nat)
    (hostname app msg : Option (List Char)) (time : Option SyslogTime) : Option (List Char × Nat) :=
  if out.length = 0 then some (out, 0)
  else do
    let out ← write out 0 '\x00'
    let facility := if 23 < facility then 1 else facility
    let severity := if 7 < severity then 6 else severity
    let header ← header protocol (facility * 8 + severity) hostname app time
    let out := print out header
    if out.length ≤ header.length then (write out 0 '\x00').map (·, 0) else formatMessage out msg header.length

/-! ### Fields -/

/-- What is kept of a field, a dash when nothing is. -/
def token (keep : Char → Bool) (max : Nat) (text : List Char) : List Char :=
  if (text.filter keep).take max = [] then ['-'] else (text.filter keep).take max

variable {keep : Char → Bool} {max : Nat} {out front : List Char}

theorem copyKept_eq (text : List Char) (n : Nat) (hmax : max < out.length) :
    copyKept keep max text out n = copyUpTo max (text.filter keep) out n := by
  induction text generalizing out n with
  | nil => rfl
  | cons c rest ih =>
      unfold copyKept
      by_cases hroom : n < max
      · rw [if_pos ⟨hroom, by omega⟩]
        cases hkeep : keep c with
        | false =>
            rw [if_neg Bool.false_ne_true, List.filter_cons_of_neg (by simp [hkeep])]
            exact ih n hmax
        | true =>
            have hwrite : write out n c = some (out.set n c) := if_pos (by omega)
            rw [if_pos rfl, List.filter_cons_of_pos hkeep, copyUpTo, if_pos hroom, hwrite]
            exact ih (n + 1) (by rwa [List.length_set])
      · rw [if_neg fun h => hroom h.1, copyUpTo_full (Nat.le_of_not_lt hroom)]

theorem copyInput_eq (input : Option (List Char)) (hmax : max < out.length) :
    copyInput keep max input out = copyUpTo max ((input.getD []).filter keep) out 0 := by
  cases input with
  | none => rfl
  | some text => exact copyKept_eq text 0 hmax

theorem token_no_stop (max : Nat) (hkeep : keep '\x00' = false) (text : List Char) : '\x00' ∉ token keep max text := by
  unfold token
  split
  · decide
  · intro hmem
    have hkept := (List.mem_filter.mp (List.mem_of_mem_take hmem)).2
    rw [hkeep] at hkept
    exact Bool.false_ne_true hkept

theorem copyToken_holds (input : Option (List Char)) (hmax : max < out.length) (hpos : 1 < out.length)
    (hkeep : keep '\x00' = false) :
    ∃ copied n, copyToken out input max keep = some (copied, n) ∧ Holds copied (token keep max (input.getD [])) := by
  have hnone := token_no_stop max hkeep (input.getD [])
  obtain ⟨copied, hcopy, hfront, hlength⟩ := copyUpTo_of_prefix ((input.getD []).filter keep) (List.nil_prefix (l := out)) hmax.le
  rw [List.nil_append, List.length_nil, Nat.sub_zero] at hcopy hfront
  obtain ⟨dashed, hdash, hwhole, hsize⟩ : ∃ dashed,
      dashIfNone copied ((input.getD []).filter keep |>.take max).length
        = some (dashed, (token keep max (input.getD [])).length)
      ∧ token keep max (input.getD []) <+: dashed ∧ dashed.length = out.length := by
    unfold dashIfNone token
    by_cases hempty : ((input.getD []).filter keep).take max = []
    · obtain ⟨dashed, hwrite, hwhole, hsize⟩ := write_next (List.nil_prefix (l := copied)) (by simp; omega) '-'
      rw [if_pos hempty, hempty, if_pos ⟨rfl, by omega⟩, hwrite]
      exact ⟨dashed, rfl, hwhole, hsize.trans hlength⟩
    · rw [if_neg hempty, if_neg fun h => hempty (List.length_eq_zero_iff.mp h.1)]
      exact ⟨copied, rfl, hfront, hlength⟩
  have hfits : (token keep max (input.getD [])).length < dashed.length := by
    have htake := List.length_take_le max ((input.getD []).filter keep)
    rw [hsize]
    unfold token
    split
    · exact hpos
    · omega
  obtain ⟨written, hstop, hholds, -⟩ := write_stop hwhole hfits hnone
  refine ⟨written, (token keep max (input.getD [])).length, ?_, hholds⟩
  unfold copyToken
  rw [copyInput_eq input hmax, hcopy]
  dsimp only [Option.bind_eq_bind, Option.bind_some]
  rw [hdash]
  dsimp only [Option.bind_eq_bind, Option.bind_some]
  rw [hstop]
  rfl

/-- A field of the header: not empty, and of printed characters other than the space. -/
structure IsField (text : List Char) : Prop where
  nonempty : text ≠ []
  noBlank : ' ' ∉ text
  printed : ∀ c ∈ text, isPrintUsAscii c = true

theorem isField_of_printed {text : List Char} (hne : text ≠ []) (h : ∀ c ∈ text, isPrintUsAscii c = true) : IsField text :=
  ⟨hne, fun hmem => absurd (h ' ' hmem) (by decide), h⟩

theorem isField_token (max : Nat) (text : List Char) (hkeep : ∀ c, keep c = true → isPrintUsAscii c = true) :
    IsField (token keep max text) := by
  unfold token
  split
  · exact isField_of_printed (List.cons_ne_nil _ _) (List.forall_mem_singleton.mpr rfl)
  · rename_i hsome
    exact isField_of_printed hsome fun c hc => hkeep c (List.mem_filter.mp (List.mem_of_mem_take hc)).2

theorem IsField.plain {text : List Char} (h : IsField text) : ∀ c ∈ text, isControl c = false := by
  intro c hc
  have hprinted := h.printed c hc
  unfold isPrintUsAscii at hprinted
  rw [Bool.and_eq_true, decide_eq_true_eq, decide_eq_true_eq] at hprinted
  unfold isControl
  rw [Bool.or_eq_false_iff, decide_eq_false_iff_not, decide_eq_false_iff_not]
  omega

theorem isPrintUsAscii_of_isTagChar (c : Char) (h : isTagChar c = true) : isPrintUsAscii c = true := by
  unfold isTagChar at h
  simp only [Bool.or_eq_true, Bool.and_eq_true, decide_eq_true_eq, Char.le_def, UInt32.le_iff_toNat_le] at h
  unfold isPrintUsAscii
  rw [Bool.and_eq_true, decide_eq_true_eq, decide_eq_true_eq]
  rcases h with (((⟨hlow, hhigh⟩ | ⟨hlow, hhigh⟩) | ⟨hlow, hhigh⟩) | rfl) | rfl
  · exact ⟨le_trans (by decide) hlow, le_trans hhigh (by decide)⟩
  · exact ⟨le_trans (by decide) hlow, le_trans hhigh (by decide)⟩
  · exact ⟨le_trans (by decide) hlow, le_trans hhigh (by decide)⟩
  · decide
  · decide

/-! ### The header -/

variable {protocol : SyslogProtocol} {pri : Nat} {time : Option SyslogTime}

theorem header_fields (protocol : SyslogProtocol) (pri : Nat) (hostname app : Option (List Char)) (time : Option SyslogTime) :
    ∃ host tag, IsField host ∧ IsField tag ∧ header protocol pri hostname app time = headerText protocol pri host tag time := by
  obtain ⟨host, hostLength, hhost, hholdsHost⟩ := copyToken_holds hostname
    (show 63 < (List.replicate 64 '\x00').length by simp) (by simp) (show isPrintUsAscii '\x00' = false by decide)
  have hcontentsHost := contents_of_holds hholdsHost
  have hfieldHost := isField_token 63 (hostname.getD []) fun (c : Char) (h : isPrintUsAscii c = true) => h
  cases protocol with
  | rfc5424 =>
      obtain ⟨tag, tagLength, htag, hholdsTag⟩ := copyToken_holds app
        (show 48 < (List.replicate 49 '\x00').length by simp) (by simp) (show isPrintUsAscii '\x00' = false by decide)
      refine ⟨_, token isPrintUsAscii 48 (app.getD []), hfieldHost, isField_token 48 (app.getD []) fun _ h => h, ?_⟩
      unfold header
      dsimp only
      rw [hhost]
      dsimp only [Option.bind_eq_bind, Option.bind_some]
      rw [htag]
      dsimp only [Option.bind_eq_bind, Option.bind_some]
      rw [hcontentsHost, contents_of_holds hholdsTag]
  | rfc3164 =>
      obtain ⟨tag, tagLength, htag, hholdsTag⟩ := copyToken_holds app
        (show 32 < (List.replicate 49 '\x00').length by simp) (by simp) (show isTagChar '\x00' = false by decide)
      refine ⟨_, token isTagChar 32 (app.getD []), hfieldHost, isField_token 32 (app.getD []) isPrintUsAscii_of_isTagChar, ?_⟩
      unfold header
      dsimp only
      rw [htag]
      dsimp only [Option.bind_eq_bind, Option.bind_some]
      rw [contents_of_holds hholdsTag]
      cases time with
      | none => rfl
      | some time =>
          dsimp only
          rw [hhost]
          dsimp only [Option.bind_eq_bind, Option.bind_some]
          rw [hcontentsHost]

/-! #### What the printed fields are made of -/

theorem plain_toDigits (n : Nat) : ∀ c ∈ Nat.toDigits 10 n, isControl c = false := fun _ hc => isControl_of_mem_toDigits hc

theorem plain_padded (width n : Nat) : ∀ c ∈ padded width n, isControl c = false := fun _ hc => isControl_of_mem_padded hc

theorem plain_clockText (t : Tm) : ∀ c ∈ clockText t, isControl c = false := by
  unfold clockText twoDigits
  simp only [List.forall_mem_append, List.forall_mem_singleton]
  exact ⟨⟨⟨⟨plain_padded _ _, rfl⟩, plain_padded _ _⟩, rfl⟩, plain_padded _ _⟩

theorem plain_blankPadded (width n : Nat) : ∀ c ∈ blankPadded width n, isControl c = false := by
  unfold blankPadded
  rw [List.forall_mem_append]
  refine ⟨fun c hc => ?_, plain_toDigits n⟩
  rw [List.eq_of_mem_replicate hc]
  rfl

theorem months_plain : ∀ month ∈ months, Plain month := by decide

theorem month_of_clamp (v : Int) : ∃ month, months[(clampField v 0 11).toNat]? = some month ∧ Plain month := by
  have hbound : (clampField v 0 11).toNat < months.length := by
    show _ < 12
    unfold clampField
    split
    · decide
    split
    · decide
    · omega
  exact ⟨_, List.getElem?_eq_getElem hbound, months_plain _ (List.getElem_mem hbound)⟩

theorem plain_utcText (time : SyslogTime) : ∀ c ∈ utcText time, isControl c = false := by
  unfold utcText twoDigits
  simp only [List.forall_mem_append, List.forall_mem_singleton]
  exact ⟨⟨⟨⟨⟨⟨⟨⟨⟨plain_padded _ _, rfl⟩, plain_padded _ _⟩, rfl⟩, plain_padded _ _⟩, rfl⟩, plain_clockText _⟩, rfl⟩,
    plain_padded _ _⟩, rfl⟩

theorem localText_eq_some (time : SyslogTime) : ∃ date, localText time = some date ∧ ∀ c ∈ date, isControl c = false := by
  obtain ⟨month, hmonth, hplain⟩ := month_of_clamp time.localTime.mon.toInt
  unfold localText
  rw [hmonth]
  refine ⟨_, rfl, ?_⟩
  simp only [List.forall_mem_append, List.forall_mem_singleton]
  exact ⟨⟨⟨⟨hplain, rfl⟩, plain_blankPadded _ _⟩, rfl⟩, plain_clockText _⟩

/-- A header can always be printed; it is plain, and a space ends it. -/
theorem headerText_eq_some (protocol : SyslogProtocol) (pri : Nat) (time : Option SyslogTime) {host tag : List Char}
    (hhost : IsField host) (htag : IsField tag) :
    ∃ header, headerText protocol pri host tag time = some header ∧ (∀ c ∈ header, isControl c = false)
      ∧ header.getLast? = some ' ' := by
  have hpri : ∀ c ∈ ['<'] ++ Nat.toDigits 10 pri ++ ['>'], isControl c = false := by
    simp only [List.forall_mem_append, List.forall_mem_singleton]
    exact ⟨⟨rfl, plain_toDigits pri⟩, rfl⟩
  have hhostPlain := hhost.plain
  have htagPlain := htag.plain
  unfold headerText
  dsimp only
  generalize ['<'] ++ Nat.toDigits 10 pri ++ ['>'] = pri at hpri ⊢
  split
  · rename_i time
    refine ⟨_, rfl, ?_, List.getLast?_append_of_ne_nil _ (by decide)⟩
    have hstamp := plain_utcText time
    generalize utcText time = stamp at hstamp ⊢
    simp only [List.forall_mem_append, List.forall_mem_singleton]
    exact ⟨⟨⟨⟨⟨⟨⟨hpri, by simp [isControl]⟩, hstamp⟩, rfl⟩, hhostPlain⟩, rfl⟩, htagPlain⟩, by simp [isControl]⟩
  · refine ⟨_, rfl, ?_, List.getLast?_append_of_ne_nil _ (by decide)⟩
    simp only [List.forall_mem_append, List.forall_mem_singleton]
    exact ⟨⟨⟨⟨⟨hpri, by simp [isControl]⟩, hhostPlain⟩, rfl⟩, htagPlain⟩, by simp [isControl]⟩
  · rename_i time
    obtain ⟨date, hdate, hplain⟩ := localText_eq_some time
    rw [hdate]
    refine ⟨_, rfl, ?_, List.getLast?_append_of_ne_nil _ (by decide)⟩
    simp only [List.forall_mem_append, List.forall_mem_singleton]
    exact ⟨⟨⟨⟨⟨⟨hpri, hplain⟩, rfl⟩, hhostPlain⟩, rfl⟩, htagPlain⟩, by simp [isControl]⟩
  · refine ⟨_, rfl, ?_, List.getLast?_append_of_ne_nil _ (by decide)⟩
    simp only [List.forall_mem_append]
    exact ⟨⟨hpri, htagPlain⟩, by simp [isControl]⟩

/-! ### The text of the message -/

/-- As much as there is room for, control characters as spaces, without the spaces at the end. -/
def messagePart (room : Nat) (msg : Option (List Char)) : List Char :=
  (((msg.getD []).map cleaned).take room).rdropWhile (· = ' ')

/-- The header and the text, or the header alone without its last space. -/
def fullText (header part : List Char) : List Char := if part = [] then header.dropLast else header ++ part

theorem cleaned_plain (c : Char) : isControl (cleaned c) = false := by
  unfold cleaned
  split
  · decide
  · rename_i hplain
    unfold isControl
    rw [← Bool.decide_or]
    exact decide_eq_false hplain

theorem plain_messagePart (room : Nat) (msg : Option (List Char)) : ∀ c ∈ messagePart room msg, isControl c = false := by
  intro c hc
  obtain ⟨original, -, rfl⟩ := List.mem_map.mp (List.mem_of_mem_take ((List.rdropWhile_prefix _ _).subset hc))
  exact cleaned_plain original

theorem no_stop_of_plain {text : List Char} (h : ∀ c ∈ text, isControl c = false) : '\x00' ∉ text :=
  fun hmem => absurd (h '\x00' hmem) (by decide)

variable {head body : List Char}

theorem copyMessage_eq (out : List Char) (msg : Option (List Char)) (n : Nat) :
    copyMessage out msg n = copyUpTo (out.length - 1) ((msg.getD []).map cleaned) out n := by
  cases msg <;> rfl

theorem withoutBlanks_header (out : List Char) (header : Nat) : withoutBlanks out header header = some header := by
  cases header with
  | zero => rfl
  | succ n => rw [withoutBlanks, if_neg (Nat.lt_irrefl _)]

theorem withoutBlanks_eq (h : head ++ body <+: out) :
    withoutBlanks out head.length (head ++ body).length = some (head ++ body.rdropWhile (· = ' ')).length := by
  induction body using List.reverseRecOn with
  | nil =>
      rw [List.rdropWhile_nil, List.append_nil]
      exact withoutBlanks_header out head.length
  | append_singleton body c ih =>
      rw [← List.append_assoc] at h ⊢
      have hshort : head ++ body <+: out := (List.prefix_append _ [c]).trans h
      have hread : out[(head ++ body).length]? = some c := by
        obtain ⟨rest, rfl⟩ := h
        rw [List.append_assoc, List.getElem?_append_right le_rfl, Nat.sub_self]
        rfl
      have hbehind : head.length < (head ++ body).length + 1 := by
        rw [List.length_append]
        omega
      rw [List.length_append, List.length_singleton, withoutBlanks, if_pos hbehind, hread, List.rdropWhile_concat]
      dsimp only
      by_cases hblank : c = ' '
      · rw [if_pos hblank, if_pos (decide_eq_true hblank)]
        exact ih hshort
      · rw [if_neg hblank, if_neg (by simpa using hblank), ← List.append_assoc]
        simp only [List.length_append, List.length_singleton]

/-- The text that is left stays in front. -/
theorem fullText_prefix {part : List Char} (h : head ++ part <+: out) : fullText head part <+: out := by
  unfold fullText
  split
  · exact (List.dropLast_prefix head).trans ((List.prefix_append head part).trans h)
  · exact h

theorem withoutSeparator_eq {part : List Char} (h : head ++ part <+: out) (hlast : head.getLast? = some ' ') :
    withoutSeparator out head.length (head ++ part).length = some (fullText head part).length := by
  have hne : head ≠ [] := by
    rintro rfl
    cases hlast
  have hpos := List.length_pos_iff.mpr hne
  unfold withoutSeparator fullText
  by_cases hempty : part = []
  · subst hempty
    obtain ⟨rest, rfl⟩ := h
    rw [List.append_nil] at *
    have hread : (head ++ rest)[head.length - 1]? = some ' ' := by
      rw [List.getElem?_append_left (by omega), ← List.getLast?_eq_getElem?]
      exact hlast
    rw [if_pos ⟨rfl, hpos⟩, hread, if_pos rfl, List.length_dropLast]
    rfl
  · rw [if_neg hempty, if_neg]
    rintro ⟨hlength, -⟩
    rw [List.length_append] at hlength
    exact hempty (List.length_eq_zero_iff.mp (by omega))

theorem plain_fullText (hplain : ∀ c ∈ head, isControl c = false) (msg : Option (List Char)) (room : Nat) :
    ∀ c ∈ fullText head (messagePart room msg), isControl c = false := by
  intro c hc
  unfold fullText at hc
  split at hc
  · exact hplain c (List.mem_of_mem_dropLast hc)
  · exact (List.mem_append.mp hc).elim (hplain c) (plain_messagePart room msg c)

/-- The text behind a header that fits. -/
theorem formatMessage_holds (msg : Option (List Char)) (h : head <+: out) (hfits : head.length < out.length)
    (hlast : head.getLast? = some ' ') (hplain : ∀ c ∈ head, isControl c = false) :
    ∃ written, formatMessage out msg head.length
        = some (written, (fullText head (messagePart (out.length - 1 - head.length) msg)).length)
      ∧ Holds written (fullText head (messagePart (out.length - 1 - head.length) msg)) ∧ written.length = out.length := by
  obtain ⟨copied, hcopy, hfront, hlength⟩ := copyUpTo_of_prefix ((msg.getD []).map cleaned) h (Nat.sub_le out.length 1)
  rw [← copyMessage_eq] at hcopy
  -- the blanks at the end and the separator stay in the buffer, behind the text
  have hblanks := withoutBlanks_eq hfront
  have hpart : head ++ messagePart (out.length - 1 - head.length) msg <+: copied :=
    ((List.prefix_append_right_inj head).mpr (List.rdropWhile_prefix _ _)).trans hfront
  have hseparator := withoutSeparator_eq hpart hlast
  have htext := fullText_prefix hpart
  have hshort : (fullText head (messagePart (out.length - 1 - head.length) msg)).length < copied.length := by
    have hroom := List.length_take_le (out.length - 1 - head.length) ((msg.getD []).map cleaned)
    have hless := ((List.rdropWhile_prefix (· = ' ') (((msg.getD []).map cleaned).take (out.length - 1 - head.length)))).length_le
    rw [hlength]
    unfold fullText messagePart
    split
    · rw [List.length_dropLast]
      omega
    · rw [List.length_append]
      omega
  obtain ⟨written, hwrite, hholds, hsame⟩ := write_stop htext hshort (no_stop_of_plain (plain_fullText hplain msg _))
  refine ⟨written, ?_, hholds, hsame.trans hlength⟩
  unfold formatMessage
  rw [hcopy]
  dsimp only [Option.bind_eq_bind, Option.bind_some]
  rw [hblanks]
  dsimp only [Option.bind_eq_bind, Option.bind_some]
  unfold messagePart at hseparator hwrite
  rw [hseparator]
  dsimp only [Option.bind_eq_bind, Option.bind_some]
  rw [hwrite]
  rfl

/-! ### The message -/

/-- A message of any fields, in a buffer of any size: its priority and its fields are well formed, and it is the header with as much of the text as fits. -/
theorem formatSyslogSeverity_holds (out : List Char) (protocol : SyslogProtocol) (facility severity : Nat)
    (hostname app msg : Option (List Char)) (time : Option SyslogTime) :
    ∃ written text header pri host tag,
      formatSyslogSeverity out protocol facility severity hostname app msg time = some (written, text.length)
        ∧ written.length = out.length ∧ (0 < out.length → Holds written text) ∧ (∀ c ∈ text, isControl c = false)
        ∧ pri ≤ 191 ∧ IsField host ∧ IsField tag ∧ headerText protocol pri host tag time = some header
        ∧ text = if out.length ≤ header.length then []
          else fullText header (messagePart (out.length - 1 - header.length) msg) := by
  have hpri : (if 23 < facility then 1 else facility) * 8 + (if 7 < severity then 6 else severity) ≤ 191 := by
    split <;> split <;> omega
  unfold formatSyslogSeverity
  dsimp only
  generalize (if 23 < facility then 1 else facility) * 8 + (if 7 < severity then 6 else severity) = pri at hpri ⊢
  obtain ⟨host, tag, hhost, htag, hfields⟩ := header_fields protocol pri hostname app time
  obtain ⟨header, hheader, hplain, hlast⟩ := headerText_eq_some protocol pri time hhost htag
  rw [hfields, hheader]
  by_cases hempty : out.length = 0
  · rw [if_pos hempty]
    exact ⟨out, [], header, pri, host, tag, rfl, rfl, fun h => absurd hempty (by omega), by simp, hpri, hhost, htag, hheader,
      (if_pos (by omega)).symm⟩
  · rw [if_neg hempty]
    obtain ⟨started, hstart, -, hstarted⟩ := write_next (List.nil_prefix (l := out)) (Nat.pos_of_ne_zero hempty) '\x00'
    rw [List.length_nil] at hstart
    rw [hstart]
    dsimp only [Option.bind_eq_bind, Option.bind_some]
    have hprinted := length_print started header
    rw [hprinted, hstarted]
    by_cases hfits : out.length ≤ header.length
    · -- the header is cut, and taken back
      obtain ⟨written, hwrite, hholds, hsame⟩ := write_stop (List.nil_prefix (l := print started header))
        (by rw [hprinted, hstarted]; exact Nat.pos_of_ne_zero hempty) List.not_mem_nil
      rw [if_pos hfits]
      rw [List.length_nil] at hwrite
      rw [hwrite]
      exact ⟨written, [], header, pri, host, tag, rfl, by omega, fun _ => hholds, by simp, hpri, hhost, htag, hheader,
        (if_pos hfits).symm⟩
    · have hroom : header.length < started.length := by omega
      have hholds := print_holds hroom (no_stop_of_plain hplain)
      obtain ⟨written, hformat, htext, hsame⟩ := formatMessage_holds msg ((List.prefix_append header _).trans hholds.1)
        (by omega) hlast hplain
      rw [hprinted, hstarted] at hformat htext
      rw [if_neg hfits, hformat]
      exact ⟨written, _, header, pri, host, tag, rfl, by omega, fun _ => htext, plain_fullText hplain msg _, hpri, hhost, htag,
        hheader, (if_neg hfits).symm⟩

end SyslogFormat

end EspNut
