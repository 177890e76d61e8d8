import EspNut.Lib.Loop
import EspNut.Lib.Pieces
import EspNut.Table.Rows

/-!
# The path of a row

A path names the collections down to a usage, and the index of a collection stands in brackets behind its name. A usage matches when its path has the same names, and its collections the same indices.
-/

namespace EspNut.NutTable

open Lib

/-! ### The reference -/

/-- A name of a path, with the index behind it. -/
structure Named where
  name : List Char
  index : Option Nat
  deriving DecidableEq

/-- The number in the brackets of `[N]`. -/
def bracketed : List Char → Option Nat
  | '[' :: inside =>
      let digits := inside.takeWhile Char.isDigit
      if digits ≠ [] ∧ inside.dropWhile Char.isDigit = [']'] then some (Nat.ofDigitChars 10 digits 0) else none
  | _ => none

/-- The names of a path, each with the index behind it. None for a bracket behind a name that is no `[N]`; what stands behind an index is a name again. -/
def namedSegments : List (List Char) → Option (List Named)
  | [] => some []
  | [name] => some [⟨name, none⟩]
  | name :: token :: rest =>
      if token.head? = some '[' then do
        let n ← bracketed token
        let more ← namedSegments rest
        return ⟨name, some n⟩ :: more
      else do
        let more ← namedSegments (token :: rest)
        return ⟨name, none⟩ :: more

/-- The index of a collection, kept plus one; 0 stands for no index. -/
def collectionIndex : Nat → Option Nat
  | 0 => none
  | n + 1 => some n

/-- The names are the segments of the usage ignoring case, each collection has the index behind its name, and no index is behind the last name. -/
structure SamePath (path : List Named) (segments : List (List Char)) (indices : List Nat) : Prop where
  names : path.map (fun a => a.name.map Char.toLower) = segments.map (List.map Char.toLower)
  collections : ∀ d a, d + 1 < path.length → path[d]? = some a → a.index = collectionIndex (indices.getD d 0)
  last : ∀ a, path.getLast? = some a → a.index = none

/-- A bracket behind a dot that is closed holds the digits of a number up to 126. -/
def isDecimalIndex : List Char → Bool
  | '.' :: '[' :: inside =>
      let digits := inside.takeWhile (· ≠ ']')
      !inside.contains ']' || (digits ≠ [] && digits.all Char.isDigit && Nat.ofDigitChars 10 digits 0 ≤ 126)
  | _ => true

/-- The indices in brackets are decimal numbers up to 126. -/
def DecimalIndices (text : List Char) : Prop := text.tails.all isDecimalIndex = true

instance (text : List Char) : Decidable (DecimalIndices text) := inferInstanceAs (Decidable (_ = true))

theorem DecimalIndices.of_suffix {text rest : List Char} (h : DecimalIndices text) (hrest : rest <:+ text) :
    isDecimalIndex rest = true :=
  List.all_eq_true.mp h rest ((List.mem_tails rest text).mpr hrest)

theorem DecimalIndices.suffix {text rest : List Char} (h : DecimalIndices text) (hrest : rest <:+ text) : DecimalIndices rest := by
  apply List.all_eq_true.mpr
  intro more hmore
  exact h.of_suffix (((List.mem_tails more rest).mp hmore).trans hrest)

theorem collectionIndex_inj {a b : Nat} (h : collectionIndex a = collectionIndex b) : a = b := by
  cases a <;> cases b <;> simp_all [collectionIndex]

/-! ### One segment of the reference -/

section Reference

variable {a : Named} {path : List Named} {segment : List Char} {segments : List (List Char)} {indices : List Nat}

theorem SamePath.length_eq (h : SamePath path segments indices) : path.length = segments.length := by
  simpa using congrArg List.length h.names

theorem samePath_singleton : SamePath [a] [segment] indices ↔
    Text.sameIgnoringCase a.name segment = true ∧ a.index = none := by
  rw [Text.sameIgnoringCase_iff]
  constructor
  · intro h
    exact ⟨by simpa using h.names, h.last a rfl⟩
  · rintro ⟨hname, hindex⟩
    refine ⟨by simpa using hname, ?_, ?_⟩
    · intro d b hd
      simp at hd
    · rintro b hb
      obtain rfl : a = b := by simpa using hb
      exact hindex

theorem samePath_cons (hpath : path ≠ []) : SamePath (a :: path) (segment :: segments) indices ↔
    Text.sameIgnoringCase a.name segment = true ∧ a.index = collectionIndex (indices.headD 0)
      ∧ SamePath path segments indices.tail := by
  have hget : ∀ d, indices.getD (d + 1) 0 = indices.tail.getD d 0 := by
    intro d
    cases indices <;> simp
  have hlast : (a :: path).getLast? = path.getLast? := by
    rw [List.getLast?_cons]
    cases path with
    | nil => exact absurd rfl hpath
    | cons b rest => rw [List.getLast?_cons]; rfl
  have hlength := List.length_pos_iff.mpr hpath
  rw [Text.sameIgnoringCase_iff]
  constructor
  · intro h
    obtain ⟨hname, hnames⟩ := List.cons.inj h.names
    refine ⟨hname, ?_, hnames, ?_, ?_⟩
    · have hfirst := h.collections 0 a (by simpa using hlength) rfl
      cases indices <;> simpa using hfirst
    · intro d b hd hb
      rw [← hget]
      exact h.collections (d + 1) b (by simpa using hd) hb
    · intro b hb
      exact h.last b (hlast.trans hb)
  · rintro ⟨hname, hindex, h⟩
    refine ⟨by rw [List.map_cons, List.map_cons, hname, h.names], ?_, ?_⟩
    · intro d b hd hb
      cases d with
      | zero =>
          obtain rfl : a = b := by simpa using hb
          cases indices <;> simpa using hindex
      | succ d =>
          rw [hget]
          exact h.collections d b (by simpa using hd) hb
    · intro b hb
      exact h.last b (hlast.symm.trans hb)

theorem namedSegments_ne_nil {named : List Named} (h : namedSegments segments = some named) (hsegments : segments ≠ []) :
    named ≠ [] := by
  rintro rfl
  unfold namedSegments at h
  split at h
  · exact hsegments rfl
  · simp at h
  · split at h <;> simp [Option.bind_eq_some_iff] at h

end Reference

/-! ### The token behind a name -/

section Token

variable {name restP : List Char}

theorem digits_before_bracket {digits : List Char} (hdigits : ∀ c ∈ digits, c.isDigit = true) (after : List Char) :
    (digits ++ ']' :: after).takeWhile Char.isDigit = digits
      ∧ (digits ++ ']' :: after).dropWhile Char.isDigit = ']' :: after := by
  rw [List.takeWhile_append_of_pos hdigits, List.dropWhile_append_of_pos hdigits]
  exact ⟨by rw [List.takeWhile_cons_of_neg (by decide), List.append_nil], List.dropWhile_cons_of_neg (by decide)⟩

/-- Digits in front of a bracket are read as their number. -/
theorem atol_digits {digits after : List Char} (hne : digits ≠ []) (hdigits : ∀ c ∈ digits, c.isDigit = true)
    (hbound : Nat.ofDigitChars 10 digits 0 ≤ 126) :
    Decimal.atol (digits ++ ']' :: after) = (Nat.ofDigitChars 10 digits 0 : Nat) := by
  obtain ⟨c, rest, rfl⟩ := List.exists_cons_of_ne_nil hne
  have hc := hdigits c List.mem_cons_self
  have hbody : ((c :: rest) ++ ']' :: after).dropWhile Decimal.isSpace = (c :: rest) ++ ']' :: after := by
    rw [List.cons_append, List.dropWhile_cons_of_neg (by simp [Decimal.isSpace_of_isDigit hc])]
  have hscan : (Decimal.scanInt ((c :: rest) ++ ']' :: after)).1 = Decimal.value (c :: rest) := by
    unfold Decimal.scanInt
    simp only [hbody]
    split
    · rename_i heq
      rw [(List.cons.inj heq).1] at hc
      exact absurd hc (by decide)
    · rename_i heq
      rw [(List.cons.inj heq).1] at hc
      exact absurd hc (by decide)
    · rw [(digits_before_bracket hdigits after).1, if_neg hne, if_neg]
      rintro hminus
      rw [Option.some.inj hminus] at hc
      exact absurd hc (by decide)
  unfold Decimal.atol
  rw [hscan]
  apply Decimal.saturate_eq_of_mem
  · unfold Decimal.value
    omega
  · unfold Decimal.value
    omega

/-- What is read in brackets: digits of a number up to 126, up to the bracket that closes. -/
theorem inside_brackets {inside : List Char} (h : isDecimalIndex ('.' :: '[' :: inside) = true) (hclose : ']' ∈ inside) :
    ∃ digits after, inside = digits ++ ']' :: after ∧ inside.dropWhile (· ≠ ']') = ']' :: after ∧ digits ≠ []
      ∧ (∀ c ∈ digits, c.isDigit = true) ∧ Nat.ofDigitChars 10 digits 0 ≤ 126 := by
  rw [isDecimalIndex, List.contains_iff_mem.mpr hclose] at h
  simp only [Bool.not_true, Bool.false_or, Bool.and_eq_true, decide_eq_true_eq] at h
  obtain ⟨⟨hne, hdigits⟩, hbound⟩ := h
  have hdrop : inside.dropWhile (· ≠ ']') ≠ [] := by
    intro hnil
    simpa using List.dropWhile_eq_nil_iff.mp hnil ']' hclose
  obtain ⟨x, after, hafter⟩ := List.exists_cons_of_ne_nil hdrop
  refine ⟨inside.takeWhile (· ≠ ']'), after, eq_append_of_dropWhile hafter, ?_, hne, List.all_eq_true.mp hdigits, hbound⟩
  rw [hafter, stop_of_dropWhile hafter]

/-- The piece up to the next dot, behind digits and a bracket. -/
theorem bracketed_token {digits after : List Char} (hne : digits ≠ []) (hdigits : ∀ c ∈ digits, c.isDigit = true) :
    bracketed ('[' :: (digits ++ ']' :: after)) = if after = [] then some (Nat.ofDigitChars 10 digits 0) else none := by
  obtain ⟨htake, hdrop⟩ := digits_before_bracket hdigits after
  rw [bracketed, htake, hdrop]
  by_cases hafter : after = []
  · rw [if_pos hafter, if_pos ⟨hne, by rw [hafter]⟩]
  · rw [if_neg hafter, if_neg]
    rintro ⟨-, heq⟩
    exact hafter (List.cons.inj heq).2

theorem mem_of_bracketed {inside : List Char} {n : Nat} (h : bracketed ('[' :: inside) = some n) : ']' ∈ inside := by
  rw [bracketed] at h
  split at h
  · rename_i hspec
    exact (List.dropWhile_suffix _).subset (hspec.2 ▸ List.mem_singleton_self ']')
  · cases h

theorem namedSegments_plain (h : restP.head? ≠ some '[') :
    namedSegments (name :: restP.splitOn '.') = (namedSegments (restP.splitOn '.')).map (⟨name, none⟩ :: ·) := by
  obtain ⟨more, hmore⟩ := splitOn_eq_cons '.' restP
  have hhead : (restP.takeWhile (· ≠ '.')).head? ≠ some '[' := by
    cases restP with
    | nil => simp
    | cons c rest =>
        by_cases hdot : c = '.'
        · simp [hdot]
        · simpa [hdot] using h
  rw [hmore, namedSegments, if_neg hhead]
  cases namedSegments (restP.takeWhile (· ≠ '.') :: more) <;> rfl

/-- The first piece is a bracket, digits, a bracket and what is left to the next dot. -/
theorem takeWhile_token {digits after : List Char} (hdigits : ∀ c ∈ digits, c.isDigit = true) :
    ('[' :: (digits ++ ']' :: after)).takeWhile (· ≠ '.') = '[' :: (digits ++ ']' :: after.takeWhile (· ≠ '.')) := by
  have hpass : ∀ c ∈ digits, decide (c ≠ '.') = true := by
    intro c hc
    apply decide_eq_true
    rintro rfl
    exact absurd (hdigits _ hc) (by decide)
  rw [List.takeWhile_cons_of_pos (by decide), List.takeWhile_append_of_pos hpass, List.takeWhile_cons_of_pos (by decide)]

theorem dropWhile_token {digits after : List Char} (hdigits : ∀ c ∈ digits, c.isDigit = true) :
    ('[' :: (digits ++ ']' :: after)).dropWhile (· ≠ '.') = after.dropWhile (· ≠ '.') := by
  have hsplit := List.takeWhile_append_dropWhile (p := fun c => decide (c ≠ '.')) (l := '[' :: (digits ++ ']' :: after))
  rw [takeWhile_token hdigits, List.cons_append, List.append_assoc, List.cons_append] at hsplit
  have hafter := List.takeWhile_append_dropWhile (p := fun c => decide (c ≠ '.')) (l := after)
  have hsame : after.takeWhile (· ≠ '.') ++ ('[' :: (digits ++ ']' :: after)).dropWhile (· ≠ '.')
      = after.takeWhile (· ≠ '.') ++ after.dropWhile (· ≠ '.') := by
    rw [hafter]
    exact (List.cons.inj (List.append_cancel_left (List.cons.inj hsplit).2)).2
  exact List.append_cancel_left hsame

theorem indexToken_plain (h : restP.head? ≠ some '[') : indexToken (some restP) = some (0, some restP) := by
  unfold indexToken
  split
  · rename_i heq
    rw [Option.some.inj heq] at h
    exact absurd rfl h
  · rfl

theorem indexToken_suffix {want : Nat} {next : Option (List Char)} (hindex : indexToken (some restP) = some (want, next)) :
    ∃ more, next = some more ∧ more <:+ restP := by
  unfold indexToken at hindex
  split at hindex
  · rename_i inside heq
    obtain rfl := Option.some.inj heq
    split at hindex
    · rename_i more hdrop
      have hmore : ']' :: '.' :: more <:+ inside := hdrop ▸ List.dropWhile_suffix _
      have hinside : inside <:+ '[' :: inside := List.suffix_cons '[' inside
      refine ⟨more, (Prod.mk.inj (Option.some.inj hindex)).2.symm, List.IsSuffix.trans ?_ (hmore.trans hinside)⟩
      exact ⟨[']', '.'], rfl⟩
    · cases hindex
  · exact ⟨restP, (Prod.mk.inj (Option.some.inj hindex)).2.symm, List.suffix_rfl⟩

/-- A name with nothing, or with `[N].`, behind it. -/
theorem namedSegments_of_indexToken {want : Nat} {more : List Char} (h : isDecimalIndex ('.' :: restP) = true)
    (hindex : indexToken (some restP) = some (want, some more)) :
    namedSegments (name :: restP.splitOn '.') = (namedSegments (more.splitOn '.')).map (⟨name, collectionIndex want⟩ :: ·) := by
  by_cases hbracket : restP.head? = some '['
  · obtain ⟨inside, rfl⟩ := List.head?_eq_some_iff.mp hbracket
    rw [indexToken] at hindex
    split at hindex
    · rename_i behind hdrop
      obtain ⟨rfl, hbehind⟩ := Prod.mk.inj (Option.some.inj hindex)
      obtain rfl := Option.some.inj hbehind
      have hclose : ']' ∈ inside := (List.dropWhile_suffix _).subset (hdrop ▸ List.mem_cons_self)
      obtain ⟨digits, after, rfl, hdrop', hne, hdigits, hbound⟩ := inside_brackets h hclose
      obtain rfl : after = '.' :: behind := (List.cons.inj (hdrop'.symm.trans hdrop)).2
      have hwant : ((Decimal.atol (digits ++ ']' :: '.' :: behind) + 1) % 256).toNat = Nat.ofDigitChars 10 digits 0 + 1 := by
        rw [atol_digits hne hdigits hbound]
        omega
      have hstop : ('[' :: (digits ++ ']' :: '.' :: behind)).dropWhile (· ≠ '.') = '.' :: behind := by
        rw [dropWhile_token hdigits]
        simp
      have htoken : ('[' :: (digits ++ ']' :: '.' :: behind)).takeWhile (· ≠ '.') = '[' :: (digits ++ ']' :: []) := by
        rw [takeWhile_token hdigits]
        simp
      rw [splitOn_of_stop hstop, htoken, namedSegments, if_pos List.head?_cons, bracketed_token hne hdigits, if_pos rfl, hwant]
      cases namedSegments (behind.splitOn '.') <;> rfl
    · cases hindex
  · rw [indexToken_plain hbracket] at hindex
    obtain ⟨rfl, hmore⟩ := Prod.mk.inj (Option.some.inj hindex)
    obtain rfl := Option.some.inj hmore
    exact namedSegments_plain hbracket

/-- A name with something else in brackets behind it is none, or the last one. -/
theorem namedSegments_of_malformed {named : List Named} (h : isDecimalIndex ('.' :: restP) = true)
    (hindex : indexToken (some restP) = none) (hnamed : namedSegments (name :: restP.splitOn '.') = some named) :
    ∃ n, named = [⟨name, some n⟩] := by
  by_cases hbracket : restP.head? = some '['
  · obtain ⟨inside, rfl⟩ := List.head?_eq_some_iff.mp hbracket
    obtain ⟨pieces, hpieces⟩ := splitOn_eq_cons '.' ('[' :: inside)
    have htoken : ('[' :: inside).takeWhile (· ≠ '.') = '[' :: inside.takeWhile (· ≠ '.') := by
      rw [List.takeWhile_cons_of_pos (by decide)]
    rw [hpieces, namedSegments, htoken, if_pos List.head?_cons] at hnamed
    obtain ⟨n, hn, hnamed⟩ := Option.bind_eq_some_iff.mp hnamed
    obtain ⟨more, hmore, hnamed⟩ := Option.bind_eq_some_iff.mp hnamed
    obtain rfl := Option.some.inj hnamed
    have hclose : ']' ∈ inside := (List.takeWhile_prefix _).subset (mem_of_bracketed hn)
    obtain ⟨digits, after, rfl, hdrop, hne, hdigits, hbound⟩ := inside_brackets h hclose
    rw [← htoken, takeWhile_token hdigits, bracketed_token hne hdigits] at hn
    -- behind the bracket the path ends, since it does not go on with a dot
    have hend : after = [] := by
      cases after with
      | nil => rfl
      | cons d more =>
          by_cases hdot : d = '.'
          · rw [indexToken, hdrop, hdot] at hindex
            cases hindex
          · simp [hdot] at hn
    have hnone : ('[' :: (digits ++ ']' :: after)).dropWhile (· ≠ '.') = [] := by
      rw [dropWhile_token hdigits, hend, List.dropWhile_nil]
    rw [splitOn_of_none hnone] at hpieces
    rw [← (List.cons.inj hpieces).2, namedSegments] at hmore
    exact ⟨n, by rw [← Option.some.inj hmore]⟩
  · rw [indexToken_plain hbracket] at hindex
    cases hindex

end Token

/-! ### Rounds of the loop -/

section Rounds

variable {fuel : Nat} {p q : List Char} {indices : List Nat}

theorem splitDot_cases (text : List Char) :
    (splitDot text = (text, none) ∧ text.splitOn '.' = [text])
      ∨ ∃ segment rest, splitDot text = (segment, some rest) ∧ text = segment ++ '.' :: rest
          ∧ text.splitOn '.' = segment :: rest.splitOn '.' := by
  unfold splitDot
  cases h : text.dropWhile (· ≠ '.') with
  | nil => exact Or.inl ⟨rfl, splitOn_of_none h⟩
  | cons c rest => exact Or.inr ⟨text.takeWhile (· ≠ '.'), rest, rfl, eq_append_of_dropWhile h, splitOn_of_stop h⟩

/-- A round leaves what is behind the first segments, when these agree. -/
theorem matchSegment_cases {p' q' : List Char} {rest : List Nat} (h : matchSegment (p, q, indices) = .inl (p', q', rest)) :
    ∃ segment restP want, splitDot p = (segment, some restP) ∧ indexToken (some restP) = some (want, some p') := by
  rw [matchSegment] at h
  rcases hp : splitDot p with ⟨segment, restP⟩
  rcases hq : splitDot q with ⟨usageSegment, restQ⟩
  rw [hp, hq] at h
  dsimp only at h
  split at h
  · cases h
  · split at h
    · cases h
    · rename_i want next hindex
      cases next with
      | none => cases restQ <;> cases h
      | some behind =>
          cases restQ with
          | none => cases h
          | some behindQ =>
              dsimp only at h
              split at h
              · obtain ⟨rfl, -⟩ := Prod.mk.inj (Sum.inl.inj h)
                cases restP with
                | none => cases hindex
                | some restP => exact ⟨segment, restP, want, rfl, hindex⟩
              · cases h

theorem matchSegment_shorter {p' q' : List Char} {rest : List Nat} (h : matchSegment (p, q, indices) = .inl (p', q', rest)) :
    p'.length < p.length := by
  obtain ⟨segment, restP, want, hp, hindex⟩ := matchSegment_cases h
  obtain ⟨more, hmore, hsuffix⟩ := indexToken_suffix hindex
  obtain rfl := Option.some.inj hmore
  have hlength := hsuffix.length_le
  rcases splitDot_cases p with ⟨hlast, -⟩ | ⟨segment', restP', hsplit, hwhole, -⟩
  · rw [hlast] at hp
    cases hp
  · rw [hsplit] at hp
    obtain ⟨-, hrest⟩ := Prod.mk.inj hp
    rw [Option.some.inj hrest] at hwhole
    rw [hwhole, List.length_append, List.length_cons]
    omega

/-- The loop is left, with the answer for as much fuel as the path is long. -/
theorem returns_pathMatchesFrom (hfuel : p.length < fuel) :
    Returns matchSegment (p, q, indices) (pathMatchesFrom fuel p q indices) := by
  induction fuel generalizing p q indices with
  | zero => exact absurd hfuel (Nat.not_lt_zero _)
  | succ fuel ih =>
      rw [pathMatchesFrom]
      cases hround : matchSegment (p, q, indices) with
      | inl left =>
          obtain ⟨p', q', rest⟩ := left
          have hshorter := matchSegment_shorter hround
          exact .again hround (ih (by omega))
      | inr answer => exact .done hround

theorem pathMatchesFrom_last (hp : splitDot p = (p, none)) (hpieces : p.splitOn '.' = [p]) :
    pathMatchesFrom (fuel + 1) p q indices = true
      ↔ ∃ named, namedSegments (p.splitOn '.') = some named ∧ SamePath named (q.splitOn '.') indices := by
  have hnamed : namedSegments (p.splitOn '.') = some [⟨p, none⟩] := by
    rw [hpieces]
    rfl
  rw [pathMatchesFrom, matchSegment, hp, hnamed]
  rcases splitDot_cases q with ⟨hq, hsegments⟩ | ⟨segment, restQ, hq, -, hsegments⟩
  · rw [hq, hsegments]
    simp only [Option.some.injEq, exists_eq_left', samePath_singleton, and_true, indexToken]
    cases Text.sameIgnoringCase p q <;> simp
  · rw [hq, hsegments]
    have hlong : ¬ SamePath [⟨p, none⟩] (segment :: restQ.splitOn '.') indices := by
      intro h
      have hlength := h.length_eq
      have hpos := List.length_pos_iff.mpr (List.splitOn_ne_nil '.' restQ)
      rw [List.length_singleton, List.length_cons] at hlength
      omega
    simp only [Option.some.injEq, exists_eq_left', indexToken, hlong, iff_false]
    cases Text.sameIgnoringCase p segment <;> simp

/-- A name with more behind it matches when the first segment does and the rest matches the rest. -/
theorem pathMatchesFrom_next {name restP more : List Char} {want : Nat} (hp : splitDot p = (name, some restP))
    (htoken : indexToken (some restP) = some (want, some more)) :
    pathMatchesFrom (fuel + 1) p q indices = true
      ↔ ∃ segment restQ, splitDot q = (segment, some restQ) ∧ Text.sameIgnoringCase name segment = true
        ∧ indices.headD 0 = want ∧ pathMatchesFrom fuel more restQ indices.tail = true := by
  rw [pathMatchesFrom, matchSegment, hp]
  obtain ⟨segment, restQ⟩ := splitDot q
  simp only [htoken]
  cases hname : Text.sameIgnoringCase name segment with
  | false =>
      simp only [if_true, Bool.false_eq_true, false_iff]
      rintro ⟨other, behind, hq, hsame, -⟩
      rw [(Prod.mk.inj hq).1, hsame] at hname
      cases hname
  | true =>
      cases restQ with
      | none => simp
      | some restQ =>
          by_cases hwant : indices.headD 0 = want
          · simp only [Bool.true_eq_false, if_false, if_pos hwant]
            constructor
            · intro h
              exact ⟨segment, restQ, rfl, hname, hwant, h⟩
            · rintro ⟨other, behind, hq, -, -, h⟩
              rw [Option.some.inj (Prod.mk.inj hq).2]
              exact h
          · simp only [Bool.true_eq_false, if_false, if_neg hwant, Bool.false_eq_true, false_iff]
            rintro ⟨-, -, -, -, hsame, -⟩
            exact hwant hsame

theorem samePath_next {name more : List Char} {want : Nat} {named : List Named}
    (hnamed : namedSegments (more.splitOn '.') = some named) :
    SamePath (⟨name, collectionIndex want⟩ :: named) (q.splitOn '.') indices
      ↔ ∃ segment restQ, splitDot q = (segment, some restQ) ∧ Text.sameIgnoringCase name segment = true
        ∧ indices.headD 0 = want ∧ SamePath named (restQ.splitOn '.') indices.tail := by
  have hne := namedSegments_ne_nil hnamed (List.splitOn_ne_nil '.' more)
  rcases splitDot_cases q with ⟨hq, hsegments⟩ | ⟨segment, restQ, hq, -, hsegments⟩
  · constructor
    · intro h
      have hlength := h.length_eq
      have hpos := List.length_pos_iff.mpr hne
      rw [hsegments, List.length_singleton, List.length_cons] at hlength
      omega
    · rintro ⟨segment, restQ, hq', -⟩
      rw [hq] at hq'
      cases hq'
  · rw [hsegments, samePath_cons hne]
    constructor
    · rintro ⟨hname, hindex, h⟩
      exact ⟨segment, restQ, hq, hname, (collectionIndex_inj hindex).symm, h⟩
    · rintro ⟨other, behind, hq', hname, rfl, h⟩
      rw [hq] at hq'
      obtain ⟨rfl, hbehind⟩ := Prod.mk.inj hq'
      obtain rfl := Option.some.inj hbehind
      exact ⟨hname, rfl, h⟩

/-- The answer is that of the reference. -/
theorem pathMatchesFrom_iff (hfuel : p.length < fuel) (hindices : DecimalIndices p) :
    pathMatchesFrom fuel p q indices = true
      ↔ ∃ named, namedSegments (p.splitOn '.') = some named ∧ SamePath named (q.splitOn '.') indices := by
  induction fuel generalizing p q indices with
  | zero => exact absurd hfuel (Nat.not_lt_zero _)
  | succ fuel ih =>
      rcases splitDot_cases p with ⟨hp, hpieces⟩ | ⟨name, restP, hp, hwhole, hpieces⟩
      · exact pathMatchesFrom_last hp hpieces
      · have hdot : '.' :: restP <:+ p := hwhole ▸ List.suffix_append name ('.' :: restP)
        have hindex := hindices.of_suffix hdot
        rw [hpieces]
        cases htoken : indexToken (some restP) with
        | none =>
            rw [pathMatchesFrom, matchSegment, hp]
            simp only [htoken, ite_self]
            constructor
            · intro h
              cases h
            · rintro ⟨named, hnamed, h⟩
              obtain ⟨n, rfl⟩ := namedSegments_of_malformed hindex htoken hnamed
              cases h.last ⟨name, some n⟩ rfl
        | some token =>
            obtain ⟨want, next⟩ := token
            obtain ⟨more, rfl, hsuffix⟩ := indexToken_suffix htoken
            have hmore : DecimalIndices more := hindices.suffix (hsuffix.trans ((List.suffix_cons '.' restP).trans hdot))
            have hshorter : more.length < fuel := by
              have hlength := hsuffix.length_le
              rw [hwhole, List.length_append, List.length_cons] at hfuel
              omega
            rw [pathMatchesFrom_next hp htoken, namedSegments_of_indexToken hindex htoken]
            simp only [Option.map_eq_some_iff, exists_exists_and_eq_and]
            constructor
            · rintro ⟨segment, restQ, hq, hname, hwant, h⟩
              obtain ⟨named, hnamed, hsame⟩ := (ih hshorter hmore).mp h
              exact ⟨named, hnamed, (samePath_next hnamed).mpr ⟨segment, restQ, hq, hname, hwant, hsame⟩⟩
            · rintro ⟨named, hnamed, h⟩
              obtain ⟨segment, restQ, hq, hname, hwant, hsame⟩ := (samePath_next hnamed).mp h
              exact ⟨segment, restQ, hq, hname, hwant, (ih hshorter hmore).mpr ⟨named, hnamed, hsame⟩⟩

end Rounds

/-- The path of a row matches a usage exactly when it has the same names and the same indices. -/
theorem pathMatches_iff (u : HIDUsageDef) (path : String) (hindices : DecimalIndices path.toList) :
    Returns matchSegment (path.toList, u.path.toList, u.collIndex) (pathMatches u path)
      ∧ (pathMatches u path = true
        ↔ ∃ named, namedSegments (path.toList.splitOn '.') = some named
            ∧ SamePath named (u.path.toList.splitOn '.') u.collIndex) :=
  ⟨returns_pathMatchesFrom (Nat.lt_succ_self _), pathMatchesFrom_iff (Nat.lt_succ_self _) hindices⟩

/-- A usage below the fourth flow. -/
def flowLoad : HIDUsageDef :=
  { usage := 0x00840045, reportId := 1, reportType := 3, bitOffset := 0, bitSize := 8, found := true, logicalMin := 0,
    logicalMax := 100, exponent := 0, unit := 0, path := "UPS.Flow.ConfigPercentLoad", collIndex := [0, 5, 0, 0, 0, 0, 0, 0] }

theorem pathMatches_iff_flow :
    pathMatches flowLoad "UPS.Flow.[4].ConfigPercentLoad" = true
      ∧ ∃ named, namedSegments ("UPS.Flow.[4].ConfigPercentLoad".toList.splitOn '.') = some named
          ∧ SamePath named (flowLoad.path.toList.splitOn '.') flowLoad.collIndex := by
  have hmatches : pathMatches flowLoad "UPS.Flow.[4].ConfigPercentLoad" = true := by decide +kernel
  exact ⟨hmatches, (pathMatches_iff flowLoad "UPS.Flow.[4].ConfigPercentLoad" (by decide +kernel)).2.mp hmatches⟩

end EspNut.NutTable
