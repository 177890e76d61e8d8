import EspNut.Hid.Parser
import EspNut.Lib.Loop

/-!
# The loops of the descriptor parser

`parseReportDescriptor` one round at a time: the loop over the items, and inside it those over the data bytes of an item, the fields of a report and the usages of a range. The 16-bit and 32-bit counters wrap round.
-/

namespace EspNut.HIDParser

open Lib StateTransition

/-- Where the parser is: before an item, among its data bytes, or in one of the two loops that an item starts. -/
inductive Place
  | head
  | data (item : Item) (j : Nat)
  | fields (tag c : Nat)
  | range (usageMax u : Nat)

/-- The bytes from the index on, and what the parser knows. -/
structure Scan where
  rest : List Byte
  place : Place
  state : ParseState

/-- A whole item: it starts a loop, or changes the state at once. -/
def takeItem (s : ParseState) (item : Item) : Place × ParseState :=
  if item.isField then (.fields item.tag 0, s)
  else if item.type = 2 ∧ (item.tag = 1 ∨ item.tag = 2) then
    match rangeEnds s item with
    | (some usageMin, some usageMax) =>
        if isExpanded usageMin usageMax then
          (.range usageMax usageMin, { s with usageMin := some usageMin, usageMax := some usageMax })
        else (.head, { s with usageMin := none, usageMax := none })
    | (usageMin, usageMax) => (.head, { s with usageMin, usageMax })
  else
    (.head,
      match item.type with
      | 0 => mainItem s item
      | 1 => globalItem s item
      | 2 => if item.tag = 0 then { s with localUsages := s.localUsages ++ [fullUsage s item] } else s
      | _ => s)

/-- One round of the loop that the parser is in; none at the end of the descriptor. -/
def scanStep (scan : Scan) : Option Scan :=
  let s := scan.state
  match scan.place with
  | .head =>
      match scan.rest with
      | [] => none
      | head :: rest =>
          if head = 0xFE then
            match rest with
            | [] => none
            | dataSize :: _ => some { scan with rest := rest.drop (2 + dataSize.toNat) }
          else
            let size := if head.toNat % 4 = 3 then 4 else head.toNat % 4
            some { scan with
              rest
              place := .data { tag := head.toNat / 16, type := head.toNat / 4 % 4, size, data := 0 } 0 }
  | .data item j =>
      match scan.rest with
      | byte :: rest =>
          if j < item.size then
            some { scan with rest, place := .data { item with data := item.data ||| byte.toNat <<< (8 * j) } (j + 1) }
          else some { scan with place := (takeItem s item).1, state := (takeItem s item).2 }
      | [] => some { scan with place := (takeItem s item).1, state := (takeItem s item).2 }
  | .fields tag c =>
      if c < s.global.reportCount then
        some { scan with place := .fields tag ((c + 1) % 65536), state := { s with parser := addField s tag c s.parser } }
      else some { scan with place := .head, state := { s with localUsages := [], usageMin := none, usageMax := none } }
  | .range usageMax u =>
      if u ≤ usageMax then
        some { scan with
          place := .range usageMax ((u + 1) % 2 ^ 32)
          state := { s with localUsages := s.localUsages ++ [u] } }
      else some { scan with place := .head, state := { s with usageMin := none, usageMax := none } }

def Scan.start (desc : List Byte) : Scan := ⟨desc, .head, ParseState.initial⟩

variable {s s' : ParseState} {item : Item} {rest : List Byte}

/-! ### The bytes of an item -/

theorem scanStep_data (item : Item) {j : Nat} (hj : j < item.size) (hrest : j < rest.length) (s : ParseState) :
    scanStep ⟨rest.drop j, .data { item with data := littleEndian (rest.take j) } j, s⟩
      = some ⟨rest.drop (j + 1), .data { item with data := littleEndian (rest.take (j + 1)) } (j + 1), s⟩ := by
  have hbyte : littleEndian (rest.take (j + 1)) = littleEndian (rest.take j) ||| rest[j].toNat <<< (8 * j) := by
    rw [List.take_add_one, List.getElem?_eq_getElem hrest, Option.toList_some, littleEndian_snoc, List.length_take,
      Nat.min_eq_left (Nat.le_of_lt hrest)]
  rw [List.drop_eq_getElem_cons hrest, hbyte]
  exact if_pos hj

theorem scanStep_item (item : Item) {j : Nat} (hend : rest = [] ∨ item.size ≤ j) (s : ParseState) :
    scanStep ⟨rest, .data item j, s⟩ = some ⟨rest, (takeItem s item).1, (takeItem s item).2⟩ := by
  cases rest with
  | nil => rfl
  | cons byte rest =>
      rcases hend with hnil | hsize
      · cases hnil
      · exact if_neg (Nat.not_lt.mpr hsize)

/-- The item is taken once its data bytes are read, as many as there are. -/
theorem reaches_item (item : Item) (hdata : item.data = 0) (rest : List Byte) (s : ParseState) :
    Reaches scanStep ⟨rest, .data item 0, s⟩
      ⟨rest.drop item.size, (takeItem s { item with data := littleEndian (rest.take item.size) }).1,
        (takeItem s { item with data := littleEndian (rest.take item.size) }).2⟩ := by
  let round (k : Nat) : Scan := ⟨rest.drop k, .data { item with data := littleEndian (rest.take k) } k, s⟩
  have hstart : round 0 = ⟨rest, .data item 0, s⟩ := by
    show (⟨rest, .data { item with data := 0 } 0, s⟩ : Scan) = _
    rw [← hdata]
  have hbytes : Reaches scanStep (round 0) (round (min item.size rest.length)) :=
    reaches_counted fun k hk => scanStep_data item (by omega) (by omega) s
  rw [hstart] at hbytes
  have hdrop : rest.drop (min item.size rest.length) = rest.drop item.size := by
    rcases Nat.le_total item.size rest.length with hle | hle
    · rw [Nat.min_eq_left hle]
    · rw [Nat.min_eq_right hle, List.drop_length, List.drop_eq_nil_of_le hle]
  have htake : rest.take (min item.size rest.length) = rest.take item.size := by
    rw [← List.take_take, List.take_length]
  refine hbytes.tail ?_
  show scanStep ⟨rest.drop (min item.size rest.length), .data { item with data := littleEndian (rest.take (min item.size rest.length)) }
    (min item.size rest.length), s⟩ = _
  rw [hdrop, htake]
  refine scanStep_item _ ?_ s
  rcases Nat.le_total item.size rest.length with hle | hle
  · exact Or.inr (Nat.le_min.mpr ⟨Nat.le_refl _, hle⟩)
  · exact Or.inl (List.drop_eq_nil_of_le hle)

/-! ### The fields of a report -/

theorem addFields_succ (s : ParseState) (tag count c : Nat) (parser : HIDParser) :
    addFields s tag (count + 1) c parser = addField s tag (c + count) (addFields s tag count c parser) := by
  induction count generalizing c parser with
  | zero => rfl
  | succ count ih =>
      have hfirst : addFields s tag (count + 1) c parser
          = addFields s tag count (c + 1) (addField s tag c parser) := rfl
      have hplace : c + (count + 1) = c + 1 + count := by omega
      rw [hfirst, hplace, ← ih]
      rfl

/-- The loop over the fields adds them all; its 16-bit counter does not wrap before the count. -/
theorem reaches_fields (rest : List Byte) (tag : Nat) (hcount : s.global.reportCount < 65536) :
    Reaches scanStep ⟨rest, .fields tag 0, s⟩
      ⟨rest, .head, { s with
        parser := addFields s tag s.global.reportCount 0 s.parser, localUsages := [], usageMin := none, usageMax := none }⟩ := by
  let round (k : Nat) : Scan := ⟨rest, .fields tag k, { s with parser := addFields s tag k 0 s.parser }⟩
  have hfields : Reaches scanStep (round 0) (round s.global.reportCount) := by
    refine reaches_counted fun k hk => ?_
    have hround : scanStep (round k) = some ⟨rest, .fields tag ((k + 1) % 65536),
        { s with parser := addField s tag k (addFields s tag k 0 s.parser) }⟩ := if_pos hk
    have hwrap : (k + 1) % 65536 = k + 1 := Nat.mod_eq_of_lt (by omega)
    have hfield := addFields_succ s tag k 0 s.parser
    rw [Nat.zero_add] at hfield
    rw [hround, hwrap, ← hfield]
  exact hfields.tail (if_neg (Nat.lt_irrefl _))

/-! ### The usages of a range -/

theorem usageRange_eq {usageMax : Nat} (hmax : usageMax < 2 ^ 32 - 1) {fuel u : Nat} (hu : u ≤ usageMax + 1)
    (hfuel : usageMax + 1 - u < fuel) : usageRange usageMax fuel u = some (List.range' u (usageMax + 1 - u)) := by
  induction fuel generalizing u with
  | zero => omega
  | succ fuel ih =>
      unfold usageRange
      by_cases hle : u ≤ usageMax
      · have hcount : usageMax + 1 - u = usageMax + 1 - (u + 1) + 1 := by omega
        rw [if_pos hle, Nat.mod_eq_of_lt (by omega), ih (by omega) (by omega), hcount, List.range'_succ]
        rfl
      · have hcount : usageMax + 1 - u = 0 := by omega
        rw [if_neg hle, hcount]
        rfl

/-- With the largest 32-bit usage as its end the counter wraps round below it, again and again. -/
theorem usageRange_endless {usageMax : Nat} (hmax : 2 ^ 32 - 1 ≤ usageMax) {u : Nat} (hu : u ≤ usageMax) (fuel : Nat) :
    usageRange usageMax fuel u = none := by
  induction fuel generalizing u with
  | zero => rfl
  | succ fuel ih =>
      unfold usageRange
      rw [if_pos hu, ih (by omega)]
      rfl

theorem reaches_range (rest : List Byte) (s : ParseState) {usageMin usageMax : Nat} (hle : usageMin ≤ usageMax)
    (hmax : usageMax < 2 ^ 32 - 1) :
    Reaches scanStep ⟨rest, .range usageMax usageMin, s⟩
      ⟨rest, .head, { s with
        localUsages := s.localUsages ++ List.range' usageMin (usageMax + 1 - usageMin), usageMin := none, usageMax := none }⟩ := by
  let round (k : Nat) : Scan :=
    ⟨rest, .range usageMax (usageMin + k), { s with localUsages := s.localUsages ++ List.range' usageMin k }⟩
  have hstart : round 0 = ⟨rest, .range usageMax usageMin, s⟩ := by
    show (⟨rest, _, { s with localUsages := s.localUsages ++ [] }⟩ : Scan) = _
    rw [List.append_nil, Nat.add_zero]
  have husages : Reaches scanStep (round 0) (round (usageMax + 1 - usageMin)) := by
    refine reaches_counted fun k hk => ?_
    have hround : scanStep (round k) = some ⟨rest, .range usageMax ((usageMin + k + 1) % 2 ^ 32),
        { s with localUsages := s.localUsages ++ List.range' usageMin k ++ [usageMin + k] }⟩ := if_pos (by omega)
    have hwrap : (usageMin + k + 1) % 2 ^ 32 = usageMin + (k + 1) := Nat.mod_eq_of_lt (by omega)
    rw [hround, hwrap, List.append_assoc]
    show _ = some (Scan.mk rest _ { s with localUsages := s.localUsages ++ List.range' usageMin (k + 1) })
    rw [List.range'_concat, Nat.one_mul]
  rw [hstart] at husages
  exact husages.tail (if_neg (by omega))

theorem eval_range_endless (rest : List Byte) (s : ParseState) {usageMax u : Nat} (hmax : 2 ^ 32 - 1 ≤ usageMax)
    (hu : u ≤ usageMax) : eval scanStep ⟨rest, .range usageMax u, s⟩ = Part.none := by
  refine eval_endless (P := fun scan => ∃ s u, scan = ⟨rest, .range usageMax u, s⟩ ∧ u ≤ usageMax) ⟨s, u, rfl, hu⟩ ?_
  rintro scan ⟨s, u, rfl, hu⟩
  exact ⟨_, if_pos hu, _, _, rfl, by omega⟩

/-! ### One item -/

/-- The item completes a range that is expanded and ends with the largest 32-bit usage. -/
def Endless (s : ParseState) (item : Item) : Prop :=
  item.type = 2 ∧ (item.tag = 1 ∨ item.tag = 2) ∧ ∃ usageMin usageMax, rangeEnds s item = (some usageMin, some usageMax)
    ∧ isExpanded usageMin usageMax = true ∧ 2 ^ 32 - 1 ≤ usageMax

theorem isExpanded_iff {usageMin usageMax : Nat} : isExpanded usageMin usageMax = true
    ↔ usageMin / 65536 = usageMax / 65536 ∧ usageMin ≤ usageMax ∧ usageMax - usageMin < maxUsageRange := by
  unfold isExpanded
  simp only [Bool.and_eq_true, decide_eq_true_eq, and_assoc]

theorem localItem_pair (htag : item.tag = 1 ∨ item.tag = 2) {usageMin usageMax : Nat}
    (hends : rangeEnds s item = (some usageMin, some usageMax)) :
    localItem s item = (expandRange usageMin usageMax).map fun range =>
      { s with localUsages := s.localUsages ++ range, usageMin := none, usageMax := none } := by
  unfold localItem
  rw [if_neg (by omega), if_pos htag, hends]

theorem localItem_single (htag : item.tag = 1 ∨ item.tag = 2) {usageMin usageMax : Option Nat}
    (hends : rangeEnds s item = (usageMin, usageMax)) (hopen : usageMin = none ∨ usageMax = none) :
    localItem s item = some { s with usageMin, usageMax } := by
  unfold localItem
  rw [if_neg (by omega), if_pos htag, hends]
  rcases hopen with rfl | rfl
  · rfl
  · cases usageMin <;> rfl

theorem localItem_plain (htag : ¬ (item.tag = 1 ∨ item.tag = 2)) :
    localItem s item
      = some (if item.tag = 0 then { s with localUsages := s.localUsages ++ [fullUsage s item] } else s) := by
  unfold localItem
  rw [if_neg htag]
  split <;> rfl

/-- An item is taken in finitely many rounds to the state that follows it, or never. -/
theorem eval_takeItem (item : Item) (rest : List Byte) (hcount : s.global.reportCount < 65536) :
    (∃ s', parseItem s item = some s'
        ∧ Reaches scanStep ⟨rest, (takeItem s item).1, (takeItem s item).2⟩ ⟨rest, .head, s'⟩)
      ∨ parseItem s item = none ∧ Endless s item
        ∧ eval scanStep ⟨rest, (takeItem s item).1, (takeItem s item).2⟩ = Part.none := by
  unfold takeItem
  by_cases hfield : item.isField = true
  · obtain ⟨htype, htag⟩ := isField_iff.mp hfield
    refine Or.inl ⟨mainItem s item, by simp only [parseItem, htype], ?_⟩
    rw [if_pos hfield]
    unfold mainItem
    rw [if_pos htag]
    exact reaches_fields rest item.tag hcount
  · rw [if_neg hfield]
    by_cases hrange : item.type = 2 ∧ (item.tag = 1 ∨ item.tag = 2)
    · obtain ⟨htype, htag⟩ := hrange
      have hlocal : parseItem s item = localItem s item := by simp only [parseItem, htype]
      rw [if_pos ⟨htype, htag⟩, hlocal]
      rcases hends : rangeEnds s item with ⟨_ | usageMin, _ | usageMax⟩
      · exact Or.inl ⟨_, localItem_single htag hends (Or.inl rfl), Relation.ReflTransGen.refl⟩
      · exact Or.inl ⟨_, localItem_single htag hends (Or.inl rfl), Relation.ReflTransGen.refl⟩
      · exact Or.inl ⟨_, localItem_single htag hends (Or.inr rfl), Relation.ReflTransGen.refl⟩
      · rw [localItem_pair htag hends]
        unfold expandRange
        by_cases hexpanded : isExpanded usageMin usageMax = true
        · obtain ⟨-, hle, hshort⟩ := isExpanded_iff.mp hexpanded
          rw [if_pos hexpanded]
          dsimp only
          rw [if_pos hexpanded]
          by_cases hmax : usageMax < 2 ^ 32 - 1
          · rw [usageRange_eq hmax (by omega) (by omega)]
            exact Or.inl ⟨_, rfl, reaches_range rest _ hle hmax⟩
          · have hmax : 2 ^ 32 - 1 ≤ usageMax := Nat.not_lt.mp hmax
            rw [usageRange_endless hmax hle]
            exact Or.inr ⟨rfl, ⟨htype, htag, usageMin, usageMax, hends, hexpanded, hmax⟩,
              eval_range_endless rest _ hmax hle⟩
        · rw [if_neg hexpanded]
          dsimp only
          rw [if_neg hexpanded]
          refine Or.inl ⟨_, rfl, ?_⟩
          dsimp only
          rw [List.append_nil]
          exact Relation.ReflTransGen.refl
    · rw [if_neg hrange]
      refine Or.inl ⟨_, ?_, Relation.ReflTransGen.refl⟩
      rcases htype : item.type with _ | _ | _ | n
      · simp only [parseItem, htype]
      · simp only [parseItem, htype]
      · simp only [parseItem, htype]
        exact localItem_plain fun htag => hrange ⟨htype, htag⟩
      · simp only [parseItem, htype]

theorem parseItem_endless (h : Endless s item) : parseItem s item = none := by
  obtain ⟨htype, htag, usageMin, usageMax, hends, hexpanded, hmax⟩ := h
  obtain ⟨-, hle, -⟩ := isExpanded_iff.mp hexpanded
  have hlocal : parseItem s item = localItem s item := by simp only [parseItem, htype]
  rw [hlocal, localItem_pair htag hends]
  unfold expandRange
  rw [if_pos hexpanded, usageRange_endless hmax hle]
  rfl

/-! ### The whole descriptor -/

/-- Report Count is a 16-bit number, in the global state and in those saved. -/
def Counts (s : ParseState) : Prop := s.global.reportCount < 65536 ∧ ∀ g ∈ s.globalStack, g.reportCount < 65536

theorem counts_globalItem (h : Counts s) (item : Item) : Counts (globalItem s item) := by
  unfold globalItem
  split
  case h_8 => exact ⟨Nat.mod_lt _ (by decide), h.2⟩
  case h_9 => exact ⟨h.1, List.forall_mem_cons.mpr h⟩
  case h_10 =>
    split
    · exact h
    · rename_i top rest hstack
      rw [Counts, hstack, List.forall_mem_cons] at h
      exact h.2
  all_goals exact h

theorem counts_parseItem (h : Counts s) (hitem : parseItem s item = some s') : Counts s' := by
  unfold parseItem at hitem
  split at hitem
  · obtain rfl := Option.some.inj hitem
    obtain ⟨hglobal, hstack⟩ := mainItem_globals s item
    rw [Counts, hglobal, hstack]
    exact h
  · obtain rfl := Option.some.inj hitem
    exact counts_globalItem h item
  · obtain ⟨localUsages, usageMin, usageMax, rfl⟩ := localItem_changes hitem
    exact h
  · obtain rfl := Option.some.inj hitem
    exact h

/-- Round by round the parser comes to the fold over the items, or runs for ever where that has no result. -/
theorem eval_items (fuel : Nat) (rest : List Byte) (hfuel : rest.length ≤ fuel) (h : Counts s) :
    (eval scanStep ⟨rest, .head, s⟩).map (fun scan => scan.state.parser)
      = Part.ofOption (((items fuel rest).foldlM parseItem s).map ParseState.parser) := by
  induction fuel generalizing rest s with
  | zero =>
      obtain rfl := List.length_eq_zero_iff.mp (Nat.le_zero.mp hfuel)
      rw [eval_of_stop rfl]
      rfl
  | succ fuel ih =>
      unfold items
      cases rest with
      | nil =>
          rw [eval_of_stop rfl]
          rfl
      | cons head rest =>
          dsimp only
          by_cases hlong : head = 0xFE
          · rw [if_pos hlong]
            cases rest with
            | nil =>
                have hstop : scanStep ⟨[head], .head, s⟩ = none := if_pos hlong
                rw [eval_of_stop hstop]
                rfl
            | cons dataSize rest =>
                have hskip : scanStep ⟨head :: dataSize :: rest, .head, s⟩
                    = some ⟨(dataSize :: rest).drop (2 + dataSize.toNat), .head, s⟩ := if_pos hlong
                rw [eval_of_step hskip]
                refine ih _ ?_ h
                simp only [List.length_cons] at hfuel
                simp only [List.length_drop, List.length_cons]
                omega
          · have hbegin : scanStep ⟨head :: rest, .head, s⟩
                = some ⟨rest, .data ⟨head.toNat / 16, head.toNat / 4 % 4,
                    if head.toNat % 4 = 3 then 4 else head.toNat % 4, 0⟩ 0, s⟩ := if_neg hlong
            rw [if_neg hlong, eval_of_step hbegin]
            generalize (if head.toNat % 4 = 3 then 4 else head.toNat % 4) = size
            rw [reaches_eval (reaches_item _ rfl rest s), List.foldlM_cons]
            dsimp only
            generalize Item.mk (head.toNat / 16) (head.toNat / 4 % 4) size (littleEndian (rest.take size)) = item
            have hlength : (rest.drop size).length ≤ fuel := by
              simp only [List.length_cons] at hfuel
              rw [List.length_drop]
              omega
            rcases eval_takeItem item (rest.drop size) h.1 with ⟨s', hitem, hreaches⟩ | ⟨hitem, -, hendless⟩
            · rw [reaches_eval hreaches, hitem]
              exact ih _ hlength (counts_parseItem h hitem)
            · rw [hendless, hitem, Part.map_none]
              rfl

/-- The loops compute the parse, and run for ever where it has no result. -/
theorem eval_scan (desc : List Byte) :
    (eval scanStep (Scan.start desc)).map (fun scan => scan.state.parser) = Part.ofOption (parseReportDescriptor desc) :=
  eval_items desc.length desc (Nat.le_refl _) ⟨by decide, fun _ hmem => absurd hmem List.not_mem_nil⟩

theorem dom_scan_iff (desc : List Byte) : (eval scanStep (Scan.start desc)).Dom ↔ parseReportDescriptor desc ≠ none := by
  have hdom := congrArg Part.Dom (eval_scan desc)
  rw [Part.map_Dom, eq_iff_iff, Part.ofOption_dom, Option.isSome_iff_ne_none] at hdom
  exact hdom

/-- No item completes a range that ends with the largest 32-bit usage. -/
def RangesEnd (desc : List Byte) : Prop :=
  ∀ before item after s, items desc.length desc = before ++ item :: after →
    before.foldlM parseItem ParseState.initial = some s → ¬ Endless s item

/-- The parser ends exactly on the descriptors without an endless usage range. -/
theorem parser_ends_iff (desc : List Byte) : (eval scanStep (Scan.start desc)).Dom ↔ RangesEnd desc := by
  have hcounts : Counts ParseState.initial := ⟨by decide, fun _ hmem => absurd hmem List.not_mem_nil⟩
  have hitem : ∀ (before : List Item) s item, before.foldlM parseItem ParseState.initial = some s →
      (parseItem s item = none ↔ Endless s item) := by
    intro before s item hbefore
    have hs : Counts s := walk_invariant hcounts (fun _ _ _ _ h hitem => counts_parseItem h hitem) hbefore
    refine ⟨fun hnone => ?_, parseItem_endless⟩
    rcases eval_takeItem item [] hs.1 with ⟨s', hs', -⟩ | ⟨-, hendless, -⟩
    · rw [hnone] at hs'
      cases hs'
    · exact hendless
  rw [dom_scan_iff]
  unfold parseReportDescriptor RangesEnd
  rw [Ne, Option.map_eq_none_iff, foldlM_eq_none_iff]
  constructor
  · intro hends before item after s hsplit hbefore hendless
    exact hends ⟨before, item, after, s, hsplit, hbefore, (hitem before s item hbefore).mpr hendless⟩
  · rintro hranges ⟨before, item, after, s, hsplit, hbefore, hnone⟩
    exact hranges before item after s hsplit hbefore ((hitem before s item hbefore).mp hnone)

/-- Usage Page 0xFFFF, Usage Minimum 0xFF00 and Usage Maximum 0xFFFF: the parser never ends. -/
theorem endless_range :
    ¬ (eval scanStep (Scan.start [0x06, 0xFF, 0xFF, 0x1A, 0x00, 0xFF, 0x2A, 0xFF, 0xFF])).Dom := by
  rw [dom_scan_iff]
  exact fun h => h (by decide +kernel)

end EspNut.HIDParser
