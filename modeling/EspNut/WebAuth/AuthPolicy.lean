import EspNut.Lib.Pieces

/-!
# The cookie of a request

The header has the cookies of a browser one after the other, with semicolons in between. The value of a name is that of the first cookie with exactly this name, without the spaces around it.
-/

namespace EspNut.AuthPolicy

open Lib

/-! ### The reader -/

/-- The value of the cookie between two places, when its name is the one looked for. -/
def matchCookie (header name : List Char) (pos stop : Nat) : Option (List Char) :=
  let start := moveForward (· = ' ') header stop pos
  let eq := moveForward (· ≠ '=') header stop start
  if eq < stop then
    let keyEnd := moveBackward (· = ' ') header start eq
    if keyEnd - start = name.length ∧ (header.drop start).take name.length = name then
      let valueStart := moveForward (· = ' ') header stop (eq + 1)
      let valueEnd := moveBackward (· = ' ') header valueStart stop
      some (header.extract valueStart valueEnd)
    else none
  else none

def extractCookieFrom (header name : List Char) (pos : Nat) : List Char :=
  if pos < header.length then
    let stop := moveForward (· ≠ ';') header header.length pos
    match matchCookie header name pos stop with
    | some value => value
    | none => extractCookieFrom header name (stop + 1)
  else []
termination_by header.length - pos
decreasing_by
  have hstop := le_moveForward (· ≠ ';') (Nat.le_of_lt ‹pos < header.length›) le_rfl
  omega

def extractCookie (header : String) (name : Option String) : String :=
  match name with
  | none => ""
  | some name => String.ofList (extractCookieFrom header.toList name.toList 0)

/-! ### The reference -/

/-- A text without the spaces in front and at the end. -/
def trimSpaces (text : List Char) : List Char := (text.dropWhile (· = ' ')).rdropWhile (· = ' ')

/-- The name and the value of a segment: what is before its first equals sign and what is behind it. -/
def cookie (segment : List Char) : Option (List Char × List Char) :=
  match segment.dropWhile (· ≠ '=') with
  | [] => none
  | _ :: value => some (trimSpaces (segment.takeWhile (· ≠ '=')), trimSpaces value)

/-- The cookies of the segments between the semicolons. -/
def cookies (header : List Char) : List (List Char × List Char) := (header.splitOn ';').filterMap cookie

variable {header name : List Char} {pos stop : Nat}

theorem takeWhile_dropWhile_spaces (text : List Char) :
    (text.dropWhile (· = ' ')).takeWhile (· ≠ '=') = (text.takeWhile (· ≠ '=')).dropWhile (· = ' ') := by
  induction text with
  | nil => rfl
  | cons c rest ih =>
      by_cases hspace : c = ' '
      · subst hspace
        simpa using ih
      · by_cases hequals : c = '='
        · simp [hequals]
        · simp [hspace, hequals]

theorem dropWhile_dropWhile_spaces (text : List Char) :
    (text.dropWhile (· = ' ')).dropWhile (· ≠ '=') = text.dropWhile (· ≠ '=') := by
  induction text with
  | nil => rfl
  | cons c rest ih =>
      by_cases hspace : c = ' '
      · subst hspace
        simpa using ih
      · simp [hspace]

/-- The comparison of lengths and of the first characters is that of the piece with the name. -/
theorem piece_eq_iff {start keyEnd : Nat} (hend : keyEnd ≤ header.length) :
    (keyEnd - start = name.length ∧ (header.drop start).take name.length = name) ↔ header.extract start keyEnd = name := by
  constructor
  · rintro ⟨hlength, hname⟩
    rw [← hlength] at hname
    exact hname
  · intro hname
    have hlength : keyEnd - start = name.length := by
      rw [← hname, length_extract hend]
    refine ⟨hlength, ?_⟩
    rw [← hlength]
    exact hname

/-- The value that is read is that of the cookie in the segment, when this has the name. -/
theorem matchCookie_eq (hpos : pos ≤ stop) (hstop : stop ≤ header.length) :
    matchCookie header name pos stop
      = (cookie (header.extract pos stop)).bind fun c => if c.1 = name then some c.2 else none := by
  have hstart := extract_moveForward (· = ' ') hpos hstop
  have hstartLe : moveForward (· = ' ') header stop pos ≤ stop := moveForward_le _ hpos hstop
  rw [matchCookie]
  generalize moveForward (· = ' ') header stop pos = start at hstart hstartLe ⊢
  have hequals := extract_moveForward (· ≠ '=') hstartLe hstop
  have hequalsLe : moveForward (· ≠ '=') header stop start ≤ stop := moveForward_le _ hstartLe hstop
  have hequalsGe : start ≤ moveForward (· ≠ '=') header stop start := le_moveForward _ hstartLe hstop
  generalize moveForward (· ≠ '=') header stop start = equals at hequals hequalsLe hequalsGe ⊢
  rw [hstart.2, takeWhile_dropWhile_spaces, dropWhile_dropWhile_spaces] at hequals
  dsimp only
  by_cases hfound : equals < stop
  · have hkey := extract_moveBackward (· = ' ') hequalsGe (hequalsLe.trans hstop)
    rw [hequals.1] at hkey
    rw [extract_eq_cons hfound hstop] at hequals
    have hvalue := (extract_moveForward (· = ' ') (show equals + 1 ≤ stop by omega) hstop).2
    have hvalueEnd := extract_moveBackward (· = ' ')
      (moveForward_le (· = ' ') (show equals + 1 ≤ stop by omega) hstop) hstop
    rw [hvalue] at hvalueEnd
    have hcookie : cookie (header.extract pos stop)
        = some (trimSpaces ((header.extract pos stop).takeWhile (· ≠ '=')), trimSpaces (header.extract (equals + 1) stop)) := by
      rw [cookie, ← hequals.2]
    have hkeyEnd := (moveBackward_le (· = ' ') header start equals).trans (hequalsLe.trans hstop)
    simp only [if_pos hfound, piece_eq_iff hkeyEnd, hkey, hvalueEnd, hcookie, Option.bind_some]
    rfl
  · obtain rfl : equals = stop := by omega
    rw [extract_self] at hequals
    rw [if_neg hfound, cookie, ← hequals.2]
    rfl

theorem filterMap_cookie_cons (segment : List Char) (segments : List (List Char)) :
    (segment :: segments).filterMap cookie = (cookie segment).toList ++ segments.filterMap cookie := by
  rw [List.filterMap_cons]
  cases cookie segment <;> rfl

theorem cookies_drop (hstop : stop = moveForward (· ≠ ';') header header.length pos) (hpos : pos ≤ header.length) :
    cookies (header.drop pos) = (cookie (header.extract pos stop)).toList ++ cookies (header.drop (stop + 1)) := by
  have hwhole : ∀ place, header.extract place header.length = header.drop place := by
    intro place
    rw [List.extract, List.take_of_length_le (by rw [List.length_drop])]
  have hle : stop ≤ header.length := hstop ▸ moveForward_le _ hpos le_rfl
  obtain ⟨hfront, hrest⟩ := extract_moveForward (· ≠ ';') hpos le_rfl
  rw [← hstop, hwhole pos] at hfront hrest
  rw [hfront, cookies, cookies]
  rcases Nat.lt_or_eq_of_le hle with hbefore | hend
  · rw [extract_eq_cons hbefore le_rfl, hwhole] at hrest
    rw [splitOn_of_stop hrest.symm, filterMap_cookie_cons]
  · rw [hend, extract_self] at hrest
    have hall : (header.drop pos).takeWhile (· ≠ ';') = header.drop pos :=
      List.takeWhile_eq_self_iff.mpr (List.dropWhile_eq_nil_iff.mp hrest.symm)
    have hbehind : header.drop (stop + 1) = [] := List.drop_of_length_le (by omega)
    rw [splitOn_of_none hrest.symm, hall, hbehind, filterMap_cookie_cons]
    rfl

/-- The loop reads the first cookie with the name. -/
theorem extractCookieFrom_eq (header name : List Char) (pos : Nat) :
    extractCookieFrom header name pos = ((cookies (header.drop pos)).lookup name).getD [] := by
  fun_induction extractCookieFrom header name pos with
  | case1 pos hbefore stop value hmatch =>
      rw [matchCookie_eq (le_moveForward _ hbefore.le le_rfl) (moveForward_le _ hbefore.le le_rfl)] at hmatch
      obtain ⟨⟨key, found⟩, hcookie, hname⟩ := Option.bind_eq_some_iff.mp hmatch
      rw [cookies_drop rfl hbefore.le, hcookie]
      dsimp only at hname
      split at hname
      · rename_i hkey
        rw [Option.toList_some, List.singleton_append, hkey, List.lookup_cons_self, Option.getD_some, Option.some.inj hname]
      · cases hname
  | case2 pos hbefore stop hnone ih =>
      rw [matchCookie_eq (le_moveForward _ hbefore.le le_rfl) (moveForward_le _ hbefore.le le_rfl)] at hnone
      rw [ih, cookies_drop rfl hbefore.le]
      cases hcookie : cookie (header.extract pos stop) with
      | none => rfl
      | some found =>
          rw [hcookie, Option.bind_some] at hnone
          split at hnone
          · cases hnone
          · rename_i hkey
            have hother : (name == found.1) = false := by
              rw [beq_eq_false_iff_ne]
              exact Ne.symm hkey
            rw [Option.toList_some, List.singleton_append, List.lookup_cons, hother]
  | case3 pos hend =>
      rw [List.drop_of_length_le (by omega)]
      rfl

/-- The value of the first cookie with exactly the name, and no value when there is none. -/
theorem extractCookie_eq (header name : String) :
    extractCookie header (some name) = String.ofList (((cookies header.toList).lookup name.toList).getD [])
      ∧ ((∀ c ∈ cookies header.toList, c.1 ≠ name.toList) → extractCookie header (some name) = "") := by
  have hvalue : extractCookie header (some name) = String.ofList (((cookies header.toList).lookup name.toList).getD []) := by
    rw [extractCookie, extractCookieFrom_eq, List.drop_zero]
  refine ⟨hvalue, fun hother => ?_⟩
  have hnone : (cookies header.toList).lookup name.toList = none := by
    apply List.lookup_eq_none_iff.mpr
    intro c hc
    simpa using Ne.symm (hother c hc)
  rw [hvalue, hnone]
  rfl

/-- A name that is a part of other names is not found. -/
theorem extractCookie_eq_part : extractCookie "xsid=1; sidx=2" (some "sid") = "" :=
  (extractCookie_eq "xsid=1; sidx=2" "sid").2 (by decide +kernel)

end EspNut.AuthPolicy
