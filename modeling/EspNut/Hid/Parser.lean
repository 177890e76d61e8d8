import EspNut.Hid.Usages
import EspNut.Lib.Bits
import EspNut.Lib.Run
import EspNut.Lib.Store

/-!
# The report descriptor

`HIDParser::parseReportDescriptor` reads the descriptor as a list of items and folds them over the global, local and collection state. The only loop whose end depends on the data is the expansion of a usage range: with the greatest 32-bit usage as its maximum the counter wraps round and the loop never ends, so the parse has no result there.
-/

namespace EspNut

open Lib

structure HIDParser where
  usages : List HIDUsageDef
  inputLengths : Store Nat Nat
  outputLengths : Store Nat Nat
  featureLengths : Store Nat Nat

namespace HIDParser

/-! ### Items -/

structure Item where
  tag : Nat
  type : Nat
  size : Nat
  data : Nat

/-- The items of a descriptor. A long item is skipped whole, and one cut short ends the descriptor; each item takes at least one byte, so the length of the descriptor is enough fuel. -/
def items : Nat → List Byte → List Item
  | 0, _ => []
  | _ + 1, [] => []
  | fuel + 1, head :: rest =>
      if head = 0xFE then
        match rest with
        | [] => []
        | dataSize :: _ => items fuel (rest.drop (2 + dataSize.toNat))
      else
        let size := if head.toNat % 4 = 3 then 4 else head.toNat % 4
        { tag := head.toNat / 16, type := head.toNat / 4 % 4, size, data := littleEndian (rest.take size) } ::
          items fuel (rest.drop size)

/-- The data as the signed number of the size it was sent in. -/
def Item.signed (item : Item) : Int :=
  if item.size = 1 then (BitVec.ofNat 8 item.data).toInt
  else if item.size = 2 then (BitVec.ofNat 16 item.data).toInt
  else (BitVec.ofNat 32 item.data).toInt

/-! ### State -/

structure GlobalState where
  usagePage : Nat
  reportId : Nat
  reportSize : Nat
  reportCount : Nat
  exponent : Int
  unit : Nat
  logicalMin : Int
  logicalMax : Int

structure ParseState where
  parser : HIDParser
  global : GlobalState
  globalStack : List GlobalState
  localUsages : List Nat
  collectionNames : List String
  collectionIndices : List Nat
  usageMin : Option Nat
  usageMax : Option Nat

def GlobalState.initial : GlobalState :=
  { usagePage := 0, reportId := 0, reportSize := 0, reportCount := 0, exponent := 0, unit := 0,
    logicalMin := 0, logicalMax := 0 }

def ParseState.initial : ParseState :=
  { parser := ⟨[], Store.empty, Store.empty, Store.empty⟩, global := GlobalState.initial,
    globalStack := [], localUsages := [], collectionNames := [], collectionIndices := [],
    usageMin := none, usageMax := none }

/-- The bits of each report of a main item's type. -/
def lengths (parser : HIDParser) (tag : Nat) : Store Nat Nat :=
  if tag = 8 then parser.inputLengths else if tag = 9 then parser.outputLengths else parser.featureLengths

def setLengths (parser : HIDParser) (tag : Nat) (value : Store Nat Nat) : HIDParser :=
  if tag = 8 then { parser with inputLengths := value }
  else if tag = 9 then { parser with outputLengths := value }
  else { parser with featureLengths := value }

/-! ### Main items -/

/-- The usage of the field with number `c`: past the list it repeats the last one. -/
def fieldUsage (localUsages : List Nat) (c : Nat) : Nat × Bool :=
  match localUsages[c]? with
  | some usage => (usage, false)
  | none =>
    match localUsages.getLast? with
    | some usage => (usage, decide (0 < c))
    | none => (0, false)

/-- INPUT, OUTPUT or FEATURE. -/
def reportKind (tag : Nat) : Nat := if tag = 8 then 1 else if tag = 9 then 2 else 3

def fieldDef (s : ParseState) (tag usage bitOffset : Nat) : HIDUsageDef :=
  { usage
    reportId := s.global.reportId
    reportType := reportKind tag
    bitOffset
    bitSize := s.global.reportSize
    found := true
    logicalMin := s.global.logicalMin
    logicalMax := s.global.logicalMax
    exponent := s.global.exponent
    unit := s.global.unit
    path := appendPathSegment (s.collectionNames.foldl appendPathSegment "") (getNutUsageName usage)
    collIndex := collIndexOf s.collectionIndices }

/-- One field of an Input, Output or Feature item; offsets are 16-bit. -/
def addField (s : ParseState) (tag c : Nat) (parser : HIDParser) : HIDParser :=
  let offset := ((lengths parser tag).find s.global.reportId).getD 0
  let (usage, repeated) := fieldUsage s.localUsages c
  let usages :=
    if usage ≠ 0 ∧ repeated = false then parser.usages ++ [fieldDef s tag usage offset]
    else parser.usages
  setLengths { parser with usages } tag
    ((lengths parser tag).set s.global.reportId ((offset + s.global.reportSize) % 65536))

/-- The fields from number `c` on. -/
def addFields (s : ParseState) (tag : Nat) : Nat → Nat → HIDParser → HIDParser
  | 0, _, parser => parser
  | count + 1, c, parser => addFields s tag count (c + 1) (addField s tag c parser)

/-- Input, Output and Feature items. -/
def Item.isField (item : Item) : Bool := item.type = 0 && (item.tag = 8 || item.tag = 9 || item.tag = 11)

def mainItem (s : ParseState) (item : Item) : ParseState :=
  if item.tag = 8 ∨ item.tag = 9 ∨ item.tag = 11 then
    { s with
      parser := addFields s item.tag s.global.reportCount 0 s.parser
      localUsages := [], usageMin := none, usageMax := none }
  else if item.tag = 10 then
    { s with
      collectionNames := s.collectionNames ++ [getNutUsageName (s.localUsages.getLast?.getD 0)]
      -- vendor-defined collection types, 0x80 and above, carry an index
      collectionIndices := s.collectionIndices ++ [if 0x80 ≤ item.data then item.data % 128 + 1 else 0]
      localUsages := [], usageMin := none, usageMax := none }
  else if item.tag = 12 then
    { s with
      collectionNames := s.collectionNames.dropLast
      collectionIndices := s.collectionIndices.dropLast }
  else s

/-! ### Global items -/

def globalItem (s : ParseState) (item : Item) : ParseState :=
  let g := s.global
  match item.tag with
  | 0 => { s with global := { g with usagePage := item.data } }
  | 1 => { s with global := { g with logicalMin := item.signed } }
  | 2 => { s with global := { g with
      -- an unsigned maximum, 0xFF in one byte for 255
      logicalMax :=
        if item.signed < g.logicalMin then (BitVec.ofNat 32 item.data).toInt else item.signed } }
  | 5 => { s with global := { g with
      exponent := if 7 < item.data % 16 then (item.data % 16 : Int) - 16 else item.data % 16 } }
  | 6 => { s with global := { g with unit := item.data } }
  | 7 => { s with global := { g with reportSize := item.data % 65536 } }
  | 8 => { s with global := { g with reportId := item.data % 256 } }
  | 9 => { s with global := { g with reportCount := item.data % 65536 } }
  | 10 => { s with globalStack := g :: s.globalStack }
  | 11 =>
      match s.globalStack with
      | [] => s
      | top :: rest => { s with global := top, globalStack := rest }
  | _ => s

/-! ### Local items -/

/-- The usages of `for (u = usage_min; u <= usage_max; u++)` on a 32-bit counter. -/
def usageRange (usageMax : Nat) : Nat → Nat → Option (List Nat)
  | 0, _ => none
  | fuel + 1, u =>
      if u ≤ usageMax then (usageRange usageMax fuel ((u + 1) % 2 ^ 32)).map (u :: ·) else some []

def maxUsageRange : Nat := 256

/-- A range that is expanded: on one page and of at most 256 usages. -/
def isExpanded (usageMin usageMax : Nat) : Bool :=
  usageMin / 65536 = usageMax / 65536 && usageMin ≤ usageMax && usageMax - usageMin < maxUsageRange

/-- The loop over the range ends within one more step or never. -/
def expandRange (usageMin usageMax : Nat) : Option (List Nat) :=
  if isExpanded usageMin usageMax then usageRange usageMax (maxUsageRange + 1) usageMin else some []

def fullUsage (s : ParseState) (item : Item) : Nat :=
  if item.size ≤ 2 then (s.global.usagePage * 65536) % 2 ^ 32 ||| item.data else item.data

/-- The ends of the usage range, as far as a Usage Minimum or Maximum item makes them known. -/
def rangeEnds (s : ParseState) (item : Item) : Option Nat × Option Nat :=
  (if item.tag = 1 then some (fullUsage s item) else s.usageMin,
    if item.tag = 2 then some (fullUsage s item) else s.usageMax)

def localItem (s : ParseState) (item : Item) : Option ParseState :=
  if item.tag = 0 then some { s with localUsages := s.localUsages ++ [fullUsage s item] }
  else if item.tag = 1 ∨ item.tag = 2 then
    match rangeEnds s item with
    | (some usageMin, some usageMax) =>
        (expandRange usageMin usageMax).map fun range =>
          { s with localUsages := s.localUsages ++ range, usageMin := none, usageMax := none }
    | (usageMin, usageMax) => some { s with usageMin, usageMax }
  else some s

def parseItem (s : ParseState) (item : Item) : Option ParseState :=
  match item.type with
  | 0 => some (mainItem s item)
  | 1 => some (globalItem s item)
  | 2 => localItem s item
  | _ => some s

/-- The parsed descriptor; none when a usage range never ends. -/
def parseReportDescriptor (desc : List Byte) : Option HIDParser :=
  ((items desc.length desc).foldlM parseItem ParseState.initial).map ParseState.parser

theorem isField_iff {item : Item} : item.isField = true ↔ item.type = 0 ∧ (item.tag = 8 ∨ item.tag = 9 ∨ item.tag = 11) := by
  unfold Item.isField
  simp only [Bool.and_eq_true, Bool.or_eq_true, decide_eq_true_eq, or_assoc]

/-! ### The parsed fields -/

@[simp] theorem usages_setLengths (parser : HIDParser) (tag : Nat) (value : Store Nat Nat) :
    (setLengths parser tag value).usages = parser.usages := by
  unfold setLengths
  split
  · rfl
  · split <;> rfl

theorem mem_usages_addFields {s : ParseState} {tag count c : Nat} {parser : HIDParser} {u : HIDUsageDef}
    (hu : u ∈ (addFields s tag count c parser).usages) :
    u ∈ parser.usages ∨ ∃ usage bitOffset, u = fieldDef s tag usage bitOffset := by
  induction count generalizing c parser with
  | zero => exact Or.inl hu
  | succ count ih =>
      unfold addFields addField at hu
      generalize fieldUsage s.localUsages c = field at hu
      rcases ih hu with hbefore | hfield
      · rw [usages_setLengths] at hbefore
        dsimp only at hbefore
        split at hbefore
        · rcases List.mem_append.mp hbefore with hold | hnew
          · exact Or.inl hold
          · exact Or.inr ⟨_, _, List.mem_singleton.mp hnew⟩
        · exact Or.inl hbefore
      · exact Or.inr hfield

/-- Every field was recorded by a main item. -/
def Defined (usages : List HIDUsageDef) : Prop := ∀ u ∈ usages, ∃ s tag usage bitOffset, u = fieldDef s tag usage bitOffset

theorem defined_mainItem {s : ParseState} (h : Defined s.parser.usages) (item : Item) :
    Defined (mainItem s item).parser.usages := by
  unfold mainItem
  split
  · intro u hu
    rcases mem_usages_addFields hu with hold | ⟨usage, bitOffset, hnew⟩
    · exact h u hold
    · exact ⟨s, item.tag, usage, bitOffset, hnew⟩
  · split
    · exact h
    · split <;> exact h

theorem parser_globalItem (s : ParseState) (item : Item) : (globalItem s item).parser = s.parser := by
  unfold globalItem
  split
  case h_10 => split <;> rfl
  all_goals rfl

theorem mainItem_globals (s : ParseState) (item : Item) :
    (mainItem s item).global = s.global ∧ (mainItem s item).globalStack = s.globalStack := by
  unfold mainItem
  split
  · exact ⟨rfl, rfl⟩
  · split
    · exact ⟨rfl, rfl⟩
    · split <;> exact ⟨rfl, rfl⟩

/-- A local item changes nothing but the local usages and the ends of a usage range. -/
theorem localItem_changes {s s' : ParseState} {item : Item} (h : localItem s item = some s') :
    ∃ localUsages usageMin usageMax, s' = { s with localUsages, usageMin, usageMax } := by
  unfold localItem at h
  split at h
  · exact ⟨_, _, _, (Option.some.inj h).symm⟩
  · split at h
    · split at h
      · obtain ⟨range, -, hs'⟩ := Option.map_eq_some_iff.mp h
        exact ⟨_, _, _, hs'.symm⟩
      · exact ⟨_, _, _, (Option.some.inj h).symm⟩
    · exact ⟨_, _, _, (Option.some.inj h).symm⟩

theorem defined_parseItem {s s' : ParseState} {item : Item} (h : Defined s.parser.usages)
    (hitem : parseItem s item = some s') : Defined s'.parser.usages := by
  unfold parseItem at hitem
  split at hitem
  · obtain rfl := Option.some.inj hitem
    exact defined_mainItem h item
  · obtain rfl := Option.some.inj hitem
    rw [parser_globalItem]
    exact h
  · obtain ⟨localUsages, usageMin, usageMax, rfl⟩ := localItem_changes hitem
    exact h
  · obtain rfl := Option.some.inj hitem
    exact h

theorem defined_of_parsed {desc : List Byte} {parser : HIDParser} (h : parseReportDescriptor desc = some parser) :
    Defined parser.usages := by
  obtain ⟨final, hwalk, rfl⟩ := Option.map_eq_some_iff.mp h
  refine walk_invariant (P := fun s => Defined s.parser.usages) ?_ ?_ hwalk
  · exact fun u hu => absurd hu List.not_mem_nil
  · exact fun item _ s s' hs hitem => defined_parseItem hs hitem

/-- INPUT, OUTPUT or FEATURE. -/
def Typed (usages : List HIDUsageDef) : Prop :=
  ∀ u ∈ usages, u.reportType = 1 ∨ u.reportType = 2 ∨ u.reportType = 3

/-- Every field of a descriptor belongs to an INPUT, an OUTPUT or a FEATURE report. -/
theorem typed_of_parsed {desc : List Byte} {parser : HIDParser} (h : parseReportDescriptor desc = some parser) :
    Typed parser.usages := by
  intro u hu
  obtain ⟨s, tag, usage, bitOffset, rfl⟩ := defined_of_parsed h u hu
  show reportKind tag = 1 ∨ reportKind tag = 2 ∨ reportKind tag = 3
  unfold reportKind
  split
  · exact Or.inl rfl
  · split
    · exact Or.inr (Or.inl rfl)
    · exact Or.inr (Or.inr rfl)

theorem found_of_parsed {desc : List Byte} {parser : HIDParser} (h : parseReportDescriptor desc = some parser)
    {u : HIDUsageDef} (hu : u ∈ parser.usages) : u.found = true := by
  obtain ⟨s, tag, usage, bitOffset, rfl⟩ := defined_of_parsed h u hu
  rfl

structure ByteIds (s : ParseState) : Prop where
  usages : ∀ u ∈ s.parser.usages, u.reportId < 256
  global : s.global.reportId < 256
  stack : ∀ g ∈ s.globalStack, g.reportId < 256

theorem byteIds_mainItem {s : ParseState} (h : ByteIds s) (item : Item) : ByteIds (mainItem s item) := by
  obtain ⟨hglobal, hstack⟩ := mainItem_globals s item
  refine ⟨?_, by rw [hglobal]; exact h.global, by rw [hstack]; exact h.stack⟩
  unfold mainItem
  split
  · intro u hu
    rcases mem_usages_addFields hu with hold | ⟨usage, bitOffset, rfl⟩
    · exact h.usages u hold
    · exact h.global
  · split
    · exact h.usages
    · split <;> exact h.usages

theorem byteIds_globalItem {s : ParseState} (h : ByteIds s) (item : Item) : ByteIds (globalItem s item) := by
  have hids : (globalItem s item).global.reportId < 256 ∧ ∀ g ∈ (globalItem s item).globalStack, g.reportId < 256 := by
    unfold globalItem
    split
    case h_7 => exact ⟨Nat.mod_lt _ (by decide), h.stack⟩
    case h_9 =>
      refine ⟨h.global, fun g hg => ?_⟩
      rcases List.mem_cons.mp hg with rfl | hold
      · exact h.global
      · exact h.stack g hold
    case h_10 =>
      split
      · exact ⟨h.global, h.stack⟩
      · rename_i top rest hstack
        have hsaved := h.stack
        rw [hstack] at hsaved
        exact ⟨hsaved top List.mem_cons_self, fun g hg => hsaved g (List.mem_cons_of_mem top hg)⟩
    all_goals exact ⟨h.global, h.stack⟩
  refine ⟨?_, hids.1, hids.2⟩
  rw [parser_globalItem]
  exact h.usages

theorem byteIds_parseItem {s s' : ParseState} {item : Item} (h : ByteIds s) (hitem : parseItem s item = some s') :
    ByteIds s' := by
  unfold parseItem at hitem
  split at hitem
  · obtain rfl := Option.some.inj hitem
    exact byteIds_mainItem h item
  · obtain rfl := Option.some.inj hitem
    exact byteIds_globalItem h item
  · obtain ⟨localUsages, usageMin, usageMax, rfl⟩ := localItem_changes hitem
    exact ⟨h.usages, h.global, h.stack⟩
  · obtain rfl := Option.some.inj hitem
    exact h

theorem reportId_lt_of_parsed {desc : List Byte} {parser : HIDParser} (h : parseReportDescriptor desc = some parser)
    {u : HIDUsageDef} (hu : u ∈ parser.usages) : u.reportId < 256 := by
  obtain ⟨final, hwalk, rfl⟩ := Option.map_eq_some_iff.mp h
  have hinitial : ByteIds ParseState.initial :=
    ⟨fun _ hu => absurd hu List.not_mem_nil, by decide, fun _ hg => absurd hg List.not_mem_nil⟩
  exact (walk_invariant hinitial (fun _ _ _ _ hs hitem => byteIds_parseItem hs hitem) hwalk).usages u hu

/-! ### Queries -/

/-- Bytes of a report with its id, 64 when the descriptor does not declare it. -/
def getExpectedLength (parser : HIDParser) (reportId reportType : Nat) : Nat :=
  let bits :=
    if reportType = 1 then (parser.inputLengths.find reportId).getD 0
    else if reportType = 2 then (parser.outputLengths.find reportId).getD 0
    else if reportType = 3 then (parser.featureLengths.find reportId).getD 0
    else 0
  if bits = 0 then 64
  else (bits + 7) / 8 + if reportId ≠ 0 then 1 else 0

def getInputLength (parser : HIDParser) (reportId : Nat) : Nat :=
  match parser.inputLengths.find reportId with
  | none => 0
  | some 0 => 0
  | some bits => (bits + 7) / 8 + if reportId ≠ 0 then 1 else 0

def usesReportIds (parser : HIDParser) : Bool :=
  [parser.inputLengths, parser.outputLengths, parser.featureLengths].any fun m =>
    m.keys.any fun id => id ≠ 0

end HIDParser

end EspNut
