import EspNut.Hid.Extract
import EspNut.Hid.Parser
import EspNut.Lib.Nesting
import EspNut.Lib.Packing

/-!
# The layout of the reports

Each Input, Output or Feature item puts its fields behind the bits that the earlier items of its report took. The parser keeps one 16-bit offset for each report; while no report reaches 2^16 bits, its fields are the pieces of a row that never overlap.
-/

namespace EspNut.HIDParser

open Lib

/-- The bits that the items declare for a report: size times count of each, in the global state it meets. -/
def bitTotal (kind id : Nat) : ParseState → List Item → Nat
  | _, [] => 0
  | s, item :: rest =>
      (if item.isField && reportKind item.tag = kind && s.global.reportId = id then
        s.global.reportSize * s.global.reportCount else 0)
      + (parseItem s item).elim 0 fun s' => bitTotal kind id s' rest

/-! ### Fields as pieces -/

def recordedField (s : ParseState) (tag c bitOffset : Nat) : Option HIDUsageDef :=
  let (usage, repeated) := fieldUsage s.localUsages c
  if usage ≠ 0 ∧ repeated = false then some (fieldDef s tag usage bitOffset) else none

/-- The field with number `c` of a main item, with the report it belongs to. -/
def fieldPiece (s : ParseState) (tag c : Nat) : Piece (Nat × Nat) (Nat → Option HIDUsageDef) :=
  { key := (reportKind tag, s.global.reportId), width := s.global.reportSize, content := recordedField s tag c }

def itemPieces (s : ParseState) (item : Item) : List (Piece (Nat × Nat) (Nat → Option HIDUsageDef)) :=
  if item.isField then (List.range s.global.reportCount).map (fieldPiece s item.tag) else []

def pieces : ParseState → List Item → List (Piece (Nat × Nat) (Nat → Option HIDUsageDef))
  | _, [] => []
  | s, item :: rest => itemPieces s item ++ (parseItem s item).elim [] fun s' => pieces s' rest

/-- The fields that placed pieces record, at 16-bit offsets. -/
def recorded (placed : List (Piece (Nat × Nat) (Nat → Option HIDUsageDef) × Nat)) : List HIDUsageDef :=
  placed.filterMap fun a => a.1.content (a.2 % 65536)

/-- The lengths of the reports are the totals of the pieces so far. -/
def Counted (parser : HIDParser) (earlier : List (Piece (Nat × Nat) (Nat → Option HIDUsageDef))) : Prop :=
  ∀ tag id, ((lengths parser tag).find id).getD 0 = total (reportKind tag, id) earlier % 65536

variable {parser : HIDParser} {earlier : List (Piece (Nat × Nat) (Nat → Option HIDUsageDef))} {s s' : ParseState}
  {its : List Item} {item : Item}

theorem lengths_setLengths (parser : HIDParser) (tag tag' : Nat) (value : Store Nat Nat) :
    lengths (setLengths parser tag value) tag'
      = if reportKind tag' = reportKind tag then value else lengths parser tag' := by
  unfold lengths setLengths reportKind
  by_cases h8 : tag = 8 <;> by_cases h9 : tag = 9 <;> by_cases h8' : tag' = 8 <;> by_cases h9' : tag' = 9 <;>
    simp_all

/-- A field moves the offset of its own report by its size. -/
theorem Counted.move (h : Counted parser earlier) (s : ParseState) (tag c : Nat) (usages : List HIDUsageDef) :
    Counted (setLengths { parser with usages } tag ((lengths parser tag).set s.global.reportId
      ((((lengths parser tag).find s.global.reportId).getD 0 + s.global.reportSize) % 65536)))
      (earlier ++ [fieldPiece s tag c]) := by
  intro tag' id
  rw [lengths_setLengths, total_append, total_singleton]
  show _ = (_ + if (reportKind tag, s.global.reportId) = (reportKind tag', id) then s.global.reportSize else 0) % 65536
  by_cases hkind : reportKind tag' = reportKind tag
  · rw [if_pos hkind, Store.find_set]
    by_cases hid : id = s.global.reportId
    · rw [if_pos hid, if_pos (by rw [hkind, hid]), Option.getD_some, h tag s.global.reportId, hkind, hid]
      omega
    · have hother : ¬ (reportKind tag, s.global.reportId) = (reportKind tag', id) :=
        fun heq => hid (congrArg Prod.snd heq).symm
      have hsame : total (reportKind tag, id) earlier = total (reportKind tag', id) earlier := by rw [hkind]
      rw [if_neg hid, if_neg hother, h tag id, hsame, Nat.add_zero]
  · have hother : ¬ (reportKind tag, s.global.reportId) = (reportKind tag', id) :=
      fun heq => hkind (congrArg Prod.fst heq).symm
    rw [if_neg hkind, if_neg hother, Nat.add_zero]
    exact h tag' id

theorem recorded_append (first second : List (Piece (Nat × Nat) (Nat → Option HIDUsageDef) × Nat)) :
    recorded (first ++ second) = recorded first ++ recorded second := List.filterMap_append

theorem recorded_cons (earlier rest : List (Piece (Nat × Nat) (Nat → Option HIDUsageDef)))
    (p : Piece (Nat × Nat) (Nat → Option HIDUsageDef)) :
    recorded (placedAfter earlier (p :: rest))
      = (p.content (total p.key earlier % 65536)).toList ++ recorded (placedAfter (earlier ++ [p]) rest) := by
  show List.filterMap _ ((p, total p.key earlier) :: _) = _
  cases hcontent : p.content (total p.key earlier % 65536) with
  | none => exact List.filterMap_cons_none hcontent
  | some u => exact List.filterMap_cons_some hcontent

theorem addFields_placed (s : ParseState) (tag count c : Nat) (h : Counted parser earlier) :
    (addFields s tag count c parser).usages
        = parser.usages ++ recorded (placedAfter earlier ((List.range' c count).map (fieldPiece s tag)))
      ∧ Counted (addFields s tag count c parser) (earlier ++ (List.range' c count).map (fieldPiece s tag)) := by
  induction count generalizing c parser earlier with
  | zero =>
      refine ⟨(List.append_nil _).symm, ?_⟩
      rw [List.range'_zero, List.map_nil, List.append_nil]
      exact h
  | succ count ih =>
      obtain ⟨husages, hcounted⟩ := ih (c + 1) (h.move s tag c
        (if (fieldUsage s.localUsages c).1 ≠ 0 ∧ (fieldUsage s.localUsages c).2 = false then
          parser.usages ++ [fieldDef s tag (fieldUsage s.localUsages c).1
            (((lengths parser tag).find s.global.reportId).getD 0)]
        else parser.usages))
      rw [List.range'_succ, List.map_cons, List.append_cons]
      refine ⟨husages.trans ?_, hcounted⟩
      rw [usages_setLengths, h tag s.global.reportId]
      rw [recorded_cons]
      by_cases hrecord : (fieldUsage s.localUsages c).1 ≠ 0 ∧ (fieldUsage s.localUsages c).2 = false
      · have hcontent : (fieldPiece s tag c).content (total (fieldPiece s tag c).key earlier % 65536)
            = some (fieldDef s tag (fieldUsage s.localUsages c).1
              (total (reportKind tag, s.global.reportId) earlier % 65536)) := if_pos hrecord
        rw [if_pos hrecord, hcontent]
        exact List.append_assoc _ _ _
      · have hcontent : (fieldPiece s tag c).content (total (fieldPiece s tag c).key earlier % 65536) = none :=
          if_neg hrecord
        rw [if_neg hrecord, hcontent]
        rfl

/-- Only Input, Output and Feature items add fields. -/
theorem parser_parseItem (hitem : parseItem s item = some s') :
    s'.parser = if item.isField then addFields s item.tag s.global.reportCount 0 s.parser else s.parser := by
  unfold parseItem at hitem
  split at hitem
  · rename_i htype
    obtain rfl := Option.some.inj hitem
    unfold mainItem
    by_cases hfield : item.tag = 8 ∨ item.tag = 9 ∨ item.tag = 11
    · rw [if_pos hfield, if_pos (isField_iff.mpr ⟨htype, hfield⟩)]
    · rw [if_neg hfield, if_neg fun h => hfield (isField_iff.mp h).2]
      split
      · rfl
      · split <;> rfl
  · rename_i htype
    obtain rfl := Option.some.inj hitem
    rw [if_neg (by simp [isField_iff, htype]), parser_globalItem]
  · rename_i htype
    obtain ⟨localUsages, usageMin, usageMax, rfl⟩ := localItem_changes hitem
    rw [if_neg (by simp [isField_iff, htype])]
  · rename_i hmain _ _
    obtain rfl := Option.some.inj hitem
    rw [if_neg fun h => hmain (isField_iff.mp h).1]

theorem parseItem_placed (h : Counted s.parser earlier) (hitem : parseItem s item = some s') :
    s'.parser.usages = s.parser.usages ++ recorded (placedAfter earlier (itemPieces s item))
      ∧ Counted s'.parser (earlier ++ itemPieces s item) := by
  rw [parser_parseItem hitem]
  unfold itemPieces
  split
  · rw [List.range_eq_range']
    exact addFields_placed s item.tag s.global.reportCount 0 h
  · rw [List.append_nil]
    exact ⟨(List.append_nil _).symm, h⟩

theorem items_placed (h : Counted s.parser earlier) (hwalk : its.foldlM parseItem s = some s') :
    s'.parser.usages = s.parser.usages ++ recorded (placedAfter earlier (pieces s its))
      ∧ Counted s'.parser (earlier ++ pieces s its) := by
  induction its generalizing s earlier with
  | nil =>
      obtain rfl : s = s' := Option.some.inj hwalk
      unfold pieces
      rw [List.append_nil]
      exact ⟨(List.append_nil _).symm, h⟩
  | cons item rest ih =>
      obtain ⟨next, hitem, hrest⟩ := foldlM_cons_some hwalk
      obtain ⟨husages, hcounted⟩ := parseItem_placed h hitem
      obtain ⟨husages', hcounted'⟩ := ih hcounted hrest
      unfold pieces
      rw [hitem, Option.elim_some, placedAfter_append, recorded_append, ← List.append_assoc, ← husages,
        ← List.append_assoc]
      exact ⟨husages', hcounted'⟩

/-! ### Bits of a report -/

theorem total_itemPieces (kind id : Nat) (s : ParseState) (item : Item) :
    total (kind, id) (itemPieces s item)
      = if item.isField && reportKind item.tag = kind && s.global.reportId = id then
          s.global.reportSize * s.global.reportCount else 0 := by
  unfold itemPieces
  by_cases hfield : item.isField = true
  · rw [if_pos hfield]
    by_cases hkey : (reportKind item.tag, s.global.reportId) = (kind, id)
    · obtain ⟨rfl, rfl⟩ := Prod.mk.inj hkey
      rw [if_pos (by simp [hfield])]
      exact (placedAfter_uniform (fieldPiece s item.tag) (fun _ => rfl) (fun _ => rfl) [] _).1
    · have hother : ¬ (item.isField && reportKind item.tag = kind && s.global.reportId = id) = true := by
        simpa [hfield] using hkey
      rw [if_neg hother]
      exact total_uniform (fieldPiece s item.tag) (fun _ => rfl) hkey _
  · rw [if_neg hfield, if_neg (by simp [hfield])]
    rfl

theorem total_pieces (kind id : Nat) (s : ParseState) (its : List Item) :
    total (kind, id) (pieces s its) = bitTotal kind id s its := by
  induction its generalizing s with
  | nil => rfl
  | cons item rest ih =>
      unfold pieces bitTotal
      rw [total_append, total_itemPieces]
      cases parseItem s item with
      | none => rfl
      | some s' =>
          rw [Option.elim_some, Option.elim_some, ih]

/-- A placed piece is a field of one item, behind the earlier items of its report. -/
theorem placed_item {a : Piece (Nat × Nat) (Nat → Option HIDUsageDef) × Nat} (ha : a ∈ placedAfter earlier (pieces s its)) :
    ∃ before main after s₁ c, its = before ++ main :: after ∧ before.foldlM parseItem s = some s₁ ∧ main.isField = true
      ∧ c < s₁.global.reportCount ∧ a.1 = fieldPiece s₁ main.tag c
      ∧ a.2 = total a.1.key earlier + bitTotal (reportKind main.tag) s₁.global.reportId s before
          + c * s₁.global.reportSize := by
  induction its generalizing s earlier with
  | nil => exact absurd ha List.not_mem_nil
  | cons item rest ih =>
      unfold pieces at ha
      rw [placedAfter_append] at ha
      rcases List.mem_append.mp ha with hown | hrest
      · unfold itemPieces at hown
        split at hown
        · rename_i hfield
          rw [(placedAfter_uniform (fieldPiece s item.tag) (fun _ => rfl) (fun _ => rfl) earlier _).2] at hown
          obtain ⟨c, hc, rfl⟩ := List.mem_map.mp hown
          exact ⟨[], item, rest, s, c, rfl, rfl, hfield, List.mem_range.mp hc, rfl, rfl⟩
        · exact absurd hown List.not_mem_nil
      · cases hitem : parseItem s item with
        | none =>
            rw [hitem] at hrest
            exact absurd hrest List.not_mem_nil
        | some next =>
            rw [hitem] at hrest
            obtain ⟨before, main, after, s₁, c, rfl, hwalk, hfield, hc, hpiece, hstart⟩ := ih hrest
            refine ⟨item :: before, main, after, s₁, c, rfl, ?_, hfield, hc, hpiece, ?_⟩
            · rw [List.foldlM_cons, hitem]
              exact hwalk
            · have hkey : a.1.key = (reportKind main.tag, s₁.global.reportId) := congrArg Piece.key hpiece
              rw [hstart, total_append, hkey, total_itemPieces]
              show _ = _ + (_ + (parseItem s item).elim 0 fun s' => bitTotal _ _ s' before) + _
              rw [hitem, Option.elim_some]
              omega

/-! ### Push and Pop -/

/-- Push saves the global state and Pop restores it. -/
def Item.saving (item : Item) : Saving :=
  if item.type = 1 ∧ item.tag = 10 then .save
  else if item.type = 1 ∧ item.tag = 11 then .restore
  else .other

theorem saving_eq_save : item.saving = .save ↔ item.type = 1 ∧ item.tag = 10 := by
  unfold Item.saving
  split
  · rename_i hpush
    exact iff_of_true rfl hpush
  · rename_i hpush
    split <;> exact iff_of_false (fun h => by cases h) hpush

theorem saving_eq_restore : item.saving = .restore ↔ item.type = 1 ∧ item.tag = 11 := by
  unfold Item.saving
  split
  · rename_i hpush
    refine iff_of_false (fun h => by cases h) ?_
    rintro ⟨-, htag⟩
    exact absurd (hpush.2.symm.trans htag) (by decide)
  · split
    · rename_i hpop
      exact iff_of_true rfl hpop
    · rename_i hpop
      exact iff_of_false (fun h => by cases h) hpop

theorem parseItem_global (htype : item.type = 1) : parseItem s item = some (globalItem s item) := by
  unfold parseItem
  simp only [htype]

theorem globalItem_push (htag : item.tag = 10) :
    globalItem s item = { s with globalStack := s.global :: s.globalStack } := by
  unfold globalItem
  simp only [htag]

theorem globalItem_pop (htag : item.tag = 11) {top : GlobalState} {rest : List GlobalState}
    (hstack : s.globalStack = top :: rest) : globalItem s item = { s with global := top, globalStack := rest } := by
  unfold globalItem
  simp only [htag, hstack]

theorem globalItem_pop_empty (htag : item.tag = 11) (hstack : s.globalStack = []) : globalItem s item = s := by
  unfold globalItem
  simp only [htag, hstack]

theorem globalStack_globalItem (hpush : item.tag ≠ 10) (hpop : item.tag ≠ 11) :
    (globalItem s item).globalStack = s.globalStack := by
  unfold globalItem
  split
  case h_9 htag => exact absurd htag hpush
  case h_10 htag => exact absurd htag hpop
  all_goals rfl

theorem saves_parseItem : Saves Item.saving ParseState.global ParseState.globalStack parseItem where
  save := by
    intro s s' item hkind hitem
    obtain ⟨htype, htag⟩ := saving_eq_save.mp hkind
    rw [parseItem_global htype] at hitem
    obtain rfl := Option.some.inj hitem
    rw [globalItem_push htag]
  restore := by
    intro s s' item top rest hkind hstack hitem
    obtain ⟨htype, htag⟩ := saving_eq_restore.mp hkind
    rw [parseItem_global htype] at hitem
    obtain rfl := Option.some.inj hitem
    rw [globalItem_pop htag hstack]
    exact ⟨rfl, rfl⟩
  empty := by
    intro s s' item hkind hstack hitem
    obtain ⟨htype, htag⟩ := saving_eq_restore.mp hkind
    rw [parseItem_global htype] at hitem
    obtain rfl := Option.some.inj hitem
    exact globalItem_pop_empty htag hstack
  other := by
    intro s s' item hkind hitem
    unfold parseItem at hitem
    split at hitem
    · obtain rfl := Option.some.inj hitem
      exact (mainItem_globals s item).2
    · rename_i htype
      obtain rfl := Option.some.inj hitem
      exact globalStack_globalItem (fun htag => by simp [Item.saving, htype, htag] at hkind)
        (fun htag => by simp [Item.saving, htype, htag] at hkind)
    · obtain ⟨localUsages, usageMin, usageMax, rfl⟩ := localItem_changes hitem
      rfl
    · obtain rfl := Option.some.inj hitem
      rfl

/-! ### The layout of a descriptor -/

/-- What a parsed descriptor makes of its reports. -/
structure LaidOut (desc : List Byte) (parser : HIDParser) : Prop where
  apart : parser.usages.Pairwise fun u v =>
    u.reportType = v.reportType → u.reportId = v.reportId → u.bitOffset + u.bitSize ≤ v.bitOffset
  within : ∀ u ∈ parser.usages, fieldStart u + u.bitSize ≤ 8 * parser.getExpectedLength u.reportId u.reportType
  behind : ∀ u ∈ parser.usages, ∃ before main after s c, items desc.length desc = before ++ main :: after
    ∧ before.foldlM parseItem ParseState.initial = some s ∧ main.isField = true ∧ c < s.global.reportCount
    ∧ u = fieldDef s main.tag (fieldUsage s.localUsages c).1
        (bitTotal (reportKind main.tag) s.global.reportId ParseState.initial before + c * s.global.reportSize)
  pops : ∀ before pop after s s', items desc.length desc = before ++ pop :: after →
    before.foldlM parseItem ParseState.initial = some s → pop.saving = .restore → parseItem s pop = some s' →
      (∀ outer saved, Opened Item.saving before outer → outer.foldlM parseItem ParseState.initial = some saved →
          s'.global = saved.global ∧ s'.globalStack = saved.globalStack)
        ∧ ((∀ outer, ¬ Opened Item.saving before outer) → s' = s)

theorem counted_initial : Counted ParseState.initial.parser [] := by
  intro tag id
  show ((lengths ⟨[], Store.empty, Store.empty, Store.empty⟩ tag).find id).getD 0 = 0
  unfold lengths
  split
  · rfl
  · split <;> rfl

theorem le_getExpectedLength (parser : HIDParser) (tag id : Nat) :
    ((lengths parser tag).find id).getD 0 + (if id ≠ 0 then 8 else 0) ≤ 8 * parser.getExpectedLength id (reportKind tag) := by
  have hbits : parser.getExpectedLength id (reportKind tag)
      = if ((lengths parser tag).find id).getD 0 = 0 then 64
        else (((lengths parser tag).find id).getD 0 + 7) / 8 + if id ≠ 0 then 1 else 0 := by
    unfold getExpectedLength lengths reportKind
    by_cases h8 : tag = 8
    · simp [h8]
    · by_cases h9 : tag = 9 <;> simp [h8, h9]
  rw [hbits]
  split <;> split <;> omega

/-- While the reports stay below 2^16 bits, a recorded field lies where its piece is placed. -/
theorem recorded_piece (hfit : ∀ kind id, bitTotal kind id s its < 2 ^ 16 - 8)
    {a : Piece (Nat × Nat) (Nat → Option HIDUsageDef) × Nat} (ha : a ∈ placedAfter [] (pieces s its)) {u : HIDUsageDef}
    (hu : a.1.content (a.2 % 65536) = some u) :
    ∃ before main after s₁ c, its = before ++ main :: after ∧ before.foldlM parseItem s = some s₁ ∧ main.isField = true
      ∧ c < s₁.global.reportCount ∧ a.1 = fieldPiece s₁ main.tag c
      ∧ a.2 = bitTotal (reportKind main.tag) s₁.global.reportId s before + c * s₁.global.reportSize
      ∧ u = fieldDef s₁ main.tag (fieldUsage s₁.localUsages c).1 a.2 := by
  obtain ⟨before, main, after, s₁, c, hsplit, hwalk, hfield, hc, hpiece, hstart⟩ := placed_item ha
  refine ⟨before, main, after, s₁, c, hsplit, hwalk, hfield, hc, hpiece, ?_, ?_⟩
  · rw [hstart, total_nil, Nat.zero_add]
  · have hend := (placed_within ha).2
    rw [List.nil_append, ← Prod.mk.eta (p := a.1.key), total_pieces] at hend
    have hbound := hfit a.1.key.1 a.1.key.2
    rw [Nat.mod_eq_of_lt (by omega), hpiece] at hu
    have hrecorded : recordedField s₁ main.tag c a.2 = some u := hu
    unfold recordedField at hrecorded
    generalize fieldUsage s₁.localUsages c = field at hrecorded ⊢
    obtain ⟨-, hdef⟩ := Option.ite_none_right_eq_some.mp hrecorded
    exact (Option.some.inj hdef).symm

/-- Fields of one report do not overlap and lie inside it, each behind the items before it, and a Pop restores what its Push saved. -/
theorem fields_laid_out {desc : List Byte} {parser : HIDParser} (hparse : parseReportDescriptor desc = some parser)
    (htotal : ∀ kind id, bitTotal kind id ParseState.initial (items desc.length desc) < 2 ^ 16 - 8) : LaidOut desc parser := by
  obtain ⟨final, hwalk, rfl⟩ := Option.map_eq_some_iff.mp hparse
  obtain ⟨husages, hcounted⟩ := items_placed counted_initial hwalk
  generalize hits : items desc.length desc = its at *
  rw [List.nil_append] at hcounted
  have husages : final.parser.usages = recorded (placedAfter [] (pieces ParseState.initial its)) := husages
  have hfields : ∀ u ∈ final.parser.usages, ∃ a ∈ placedAfter [] (pieces ParseState.initial its),
      a.1.content (a.2 % 65536) = some u := by
    rw [husages]
    exact fun u hu => List.mem_filterMap.mp hu
  constructor
  · rw [husages]
    unfold recorded
    rw [List.pairwise_filterMap]
    refine (placed_apart [] (pieces ParseState.initial its)).imp_of_mem ?_
    intro a b ha hb hapart u hu v hv htype hid
    obtain ⟨_, _, _, _, _, -, -, -, -, hpiece, -, rfl⟩ := recorded_piece htotal ha hu
    obtain ⟨_, _, _, _, _, -, -, -, -, hpiece', -, rfl⟩ := recorded_piece htotal hb hv
    rw [hpiece, hpiece'] at hapart
    exact hapart (Prod.ext htype hid)
  · intro u hu
    obtain ⟨a, ha, hu⟩ := hfields u hu
    obtain ⟨_, main, _, s₁, c, -, -, -, -, hpiece, -, rfl⟩ := recorded_piece htotal ha hu
    have hend := (placed_within ha).2
    rw [hpiece, List.nil_append] at hend
    have hend : a.2 + s₁.global.reportSize ≤ total (reportKind main.tag, s₁.global.reportId)
      (pieces ParseState.initial its) := hend
    have hlength := le_getExpectedLength final.parser main.tag s₁.global.reportId
    rw [hcounted main.tag s₁.global.reportId, total_pieces,
      Nat.mod_eq_of_lt (Nat.lt_of_lt_of_le (htotal _ _) (by decide))] at hlength
    rw [total_pieces] at hend
    show a.2 + (if s₁.global.reportId ≠ 0 then 8 else 0) + s₁.global.reportSize
      ≤ 8 * final.parser.getExpectedLength s₁.global.reportId (reportKind main.tag)
    omega
  · intro u hu
    obtain ⟨a, ha, hu⟩ := hfields u hu
    obtain ⟨before, main, after, s₁, c, hsplit, hbefore, hfield, hc, -, hstart, hdef⟩ := recorded_piece htotal ha hu
    exact ⟨before, main, after, s₁, c, hits ▸ hsplit, hbefore, hfield, hc, hstart ▸ hdef⟩
  · intro before pop after s s' _ hbefore hpop hitem
    refine ⟨fun outer saved hopened houter => restored saves_parseItem hopened houter hbefore hpop hitem, ?_⟩
    intro hnone
    rcases empty_or_opened saves_parseItem rfl hbefore with hempty | ⟨outer, hopened⟩
    · exact saves_parseItem.empty hpop hempty hitem
    · exact absurd hopened (hnone outer)

/-- A padding of four bits between a Push and a Pop, and then two fields of eight. -/
def paddedDescriptor : List Byte :=
  [0x05, 0x84, 0x09, 0x04, 0xA1, 0x01, 0x85, 0x01, 0x75, 0x08, 0x95, 0x02, 0xA4, 0x75, 0x04, 0x95, 0x01, 0x81, 0x03, 0xB4,
    0x09, 0x31, 0x09, 0x30, 0x81, 0x02, 0xC0]

theorem fields_laid_out_padded :
    ∃ parser, parseReportDescriptor paddedDescriptor = some parser ∧ LaidOut paddedDescriptor parser
      ∧ parser.usages.map (fun u => (u.bitOffset, u.bitSize)) = [(4, 8), (12, 8)] := by
  obtain ⟨parser, hparse⟩ : ∃ parser, parseReportDescriptor paddedDescriptor = some parser :=
    Option.isSome_iff_exists.mp (by decide +kernel)
  have hbits : ((pieces ParseState.initial (items paddedDescriptor.length paddedDescriptor)).map Piece.width).sum
      < 2 ^ 16 - 8 := by
    decide +kernel
  have hfields : (parseReportDescriptor paddedDescriptor).map (fun p => p.usages.map fun u => (u.bitOffset, u.bitSize))
      = some [(4, 8), (12, 8)] := by
    decide +kernel
  rw [hparse] at hfields
  refine ⟨parser, hparse, fields_laid_out hparse ?_, Option.some.inj hfields⟩
  intro kind id
  rw [← total_pieces]
  exact Nat.lt_of_le_of_lt (total_le _ _) hbits

end EspNut.HIDParser
