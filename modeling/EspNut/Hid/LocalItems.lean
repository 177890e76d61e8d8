import EspNut.Hid.Scan

/-!
# Local items and Main items

A usage and the ends of a usage range belong to the next Main item only. The parser forgets them at an Input, Output, Feature or Collection item and keeps them at the others, an End Collection above all. `Locals` holds what is declared with the numbers of the items that declare it, so that a declaration is told from a later one of the same usage.
-/

namespace EspNut.HIDParser

open Lib

/-! ### Declarations -/

inductive RangeEnd where
  | least | greatest
  deriving DecidableEq

/-- What an item declares: a usage, an end of a usage range, or nothing. -/
inductive Declaration where
  | usage (usage : Nat)
  | bound (side : RangeEnd) (usage : Nat)
  | nothing

/-- An end of a range that waits for the other one, and the number of its item. -/
structure Half where
  side : RangeEnd
  usage : Nat
  item : Nat

/-- The usages with the numbers of their items, in order, and the end of a range that waits. -/
structure Locals where
  usages : List (Nat × List Nat)
  half : Option Half

def Locals.empty : Locals := ⟨[], none⟩

/-- The range between an end that waits and the other one. -/
def rangeOf (side : RangeEnd) (waiting usage : Nat) : Option (List Nat) :=
  match side with
  | .least => expandRange waiting usage
  | .greatest => expandRange usage waiting

/-- The local items after the item with number `n`; none when its range never ends. -/
def Locals.declare (n : Nat) (l : Locals) : Declaration → Option Locals
  | .usage usage => some { l with usages := l.usages ++ [(usage, [n])] }
  | .bound side usage =>
      match l.half with
      | none => some { l with half := some ⟨side, usage, n⟩ }
      | some half =>
          if half.side = side then some { l with half := some ⟨side, usage, n⟩ }
          else (rangeOf half.side half.usage usage).map fun range =>
            { usages := l.usages ++ range.map fun u => (u, [half.item, n]), half := none }
  | .nothing => some l

/-- The declarations of the items from number `n` on. -/
def Locals.declareAll : Nat → Locals → List Declaration → Option Locals
  | _, l, [] => some l
  | n, l, d :: ds => (l.declare n d).bind fun l => declareAll (n + 1) l ds

/-- A waiting end has no effect on what follows: ends of the two kinds come in turn, no two of them make a range, until one comes in the place of another of its kind. -/
def Cancels : RangeEnd → Nat → List Declaration → Prop
  | _, _, [] => False
  | side, usage, .bound side' usage' :: ds =>
      side = side' ∨ rangeOf side usage usage' = some [] ∧ Cancels side' usage' ds
  | side, usage, _ :: ds => Cancels side usage ds

variable {n : Nat} {l l' : Locals} {ds : List Declaration}

/-- A new usage only names the item that declares it and one that waits. -/
theorem declare_appends {d : Declaration} (h : l.declare n d = some l') :
    ∃ added, l'.usages = l.usages ++ added ∧ ∀ p, n ≠ p → (∀ half ∈ l.half, half.item ≠ p) →
      (∀ e ∈ added, p ∉ e.2) ∧ ∀ half ∈ l'.half, half.item ≠ p := by
  cases d with
  | usage usage =>
      obtain rfl := Option.some.inj h
      refine ⟨[(usage, [n])], rfl, fun p hn hhalf => ⟨?_, hhalf⟩⟩
      intro e he
      obtain rfl := List.mem_singleton.mp he
      simpa using Ne.symm hn
  | bound side usage =>
      have hown : ∀ p, n ≠ p → ∀ half ∈ some (Half.mk side usage n), half.item ≠ p := by
        intro p hn half hmem
        obtain rfl := Option.some.inj hmem
        exact hn
      unfold Locals.declare at h
      dsimp only at h
      split at h
      · obtain rfl := Option.some.inj h
        exact ⟨[], (List.append_nil _).symm, fun p hn _ => ⟨by simp, hown p hn⟩⟩
      · rename_i half hwaits
        split at h
        · obtain rfl := Option.some.inj h
          exact ⟨[], (List.append_nil _).symm, fun p hn _ => ⟨by simp, hown p hn⟩⟩
        · obtain ⟨range, -, rfl⟩ := Option.map_eq_some_iff.mp h
          refine ⟨_, rfl, fun p hn hhalf => ⟨?_, by simp⟩⟩
          intro e he
          obtain ⟨u, -, rfl⟩ := List.mem_map.mp he
          have hitem := hhalf half hwaits
          simp only [List.mem_cons, List.not_mem_nil, or_false, not_or]
          exact ⟨Ne.symm hitem, Ne.symm hn⟩
  | nothing =>
      obtain rfl := Option.some.inj h
      exact ⟨[], (List.append_nil _).symm, fun p _ hhalf => ⟨by simp, hhalf⟩⟩

/-- What later items declare does not name an item that is over. -/
theorem declareAll_appends (h : Locals.declareAll n l ds = some l') :
    ∃ added, l'.usages = l.usages ++ added ∧ ∀ p < n, (∀ half ∈ l.half, half.item ≠ p) → ∀ e ∈ added, p ∉ e.2 := by
  induction ds generalizing n l with
  | nil =>
      obtain rfl := Option.some.inj h
      exact ⟨[], (List.append_nil _).symm, by simp⟩
  | cons d ds ih =>
      obtain ⟨next, hnext, hrest⟩ := Option.bind_eq_some_iff.mp h
      obtain ⟨added, hadded, hfree⟩ := declare_appends hnext
      obtain ⟨more, hmore, hfree'⟩ := ih hrest
      refine ⟨added ++ more, ?_, ?_⟩
      · rw [hmore, hadded, List.append_assoc]
      · intro p hp hhalf e he
        obtain ⟨hnew, hhalf'⟩ := hfree p (Nat.ne_of_gt hp) hhalf
        rcases List.mem_append.mp he with hfirst | hlater
        · exact hnew e hfirst
        · exact hfree' p (Nat.lt_succ_of_lt hp) hhalf' e hlater

/-- A waiting end that cancels leaves what is declared without it. -/
theorem declareAll_of_cancels {half : Half} (usages : List (Nat × List Nat)) (h : Cancels half.side half.usage ds) :
    Locals.declareAll n ⟨usages, some half⟩ ds = Locals.declareAll n ⟨usages, none⟩ ds := by
  induction ds generalizing n usages half with
  | nil => exact h.elim
  | cons d ds ih =>
      cases d with
      | usage usage => exact ih (usages ++ [(usage, [n])]) h
      | nothing => exact ih usages h
      | bound side usage =>
          by_cases hside : half.side = side
          · simp only [Locals.declareAll, Locals.declare, hside, if_true]
          · obtain ⟨hrange, hlater⟩ := h.resolve_left hside
            -- the one uses up the end, and in the other the new end waits
            have hswap : Locals.declareAll (n + 1) ⟨usages, some ⟨side, usage, n⟩⟩ ds
                = Locals.declareAll (n + 1) ⟨usages, none⟩ ds := ih usages hlater
            simp only [Locals.declareAll, Locals.declare, hside, if_false, hrange, Option.map_some, List.map_nil,
              List.append_nil, Option.bind_some]
            exact hswap.symm

theorem cancels_of_declareAll {half : Half} {usages : List (Nat × List Nat)} (hitem : half.item < n)
    (h : Locals.declareAll n ⟨usages, some half⟩ ds = some l') (h' : Locals.declareAll n ⟨usages, none⟩ ds = some l') :
    Cancels half.side half.usage ds := by
  induction ds generalizing n usages half with
  | nil =>
      obtain rfl := Option.some.inj h
      cases Option.some.inj h'
  | cons d ds ih =>
      cases d with
      | usage usage => exact ih (Nat.lt_succ_of_lt hitem) h h'
      | nothing => exact ih (Nat.lt_succ_of_lt hitem) h h'
      | bound side usage =>
          by_cases hside : half.side = side
          · exact Or.inl hside
          refine Or.inr ?_
          obtain ⟨next, hnext, hrest⟩ := Option.bind_eq_some_iff.mp h
          unfold Locals.declare at hnext
          dsimp only at hnext
          rw [if_neg hside] at hnext
          obtain ⟨range, hrange, rfl⟩ := Option.map_eq_some_iff.mp hnext
          replace h' : Locals.declareAll (n + 1) ⟨usages, some ⟨side, usage, n⟩⟩ ds = some l' := h'
          cases range with
          | nil =>
              rw [List.map_nil, List.append_nil] at hrest
              exact ⟨hrange, ih (Nat.lt_succ_self n) h' hrest⟩
          | cons u range =>
              -- a usage of that range names the end that waited, and without it nothing does
              have hover : half.item < n + 1 := Nat.lt_succ_of_lt hitem
              obtain ⟨more, hmore, -⟩ := declareAll_appends hrest
              obtain ⟨added, hadded, hfree⟩ := declareAll_appends h'
              have hother : ∀ other ∈ some (Half.mk side usage n), other.item ≠ half.item := by
                intro other hmem
                obtain rfl := Option.some.inj hmem
                exact Nat.ne_of_gt hitem
              rw [hadded, List.append_assoc] at hmore
              have hsame : added = ((u :: range).map fun u => (u, [half.item, n])) ++ more := List.append_cancel_left hmore
              exact absurd List.mem_cons_self (hfree half.item hover hother (u, [half.item, n]) (by simp [hsame]))

/-- Every declaration comes from an item before the one with number `n`. -/
structure Locals.Before (n : Nat) (l : Locals) : Prop where
  usages : ∀ e ∈ l.usages, ∃ p ∈ e.2, p < n
  half : ∀ half ∈ l.half, half.item < n

theorem before_empty (n : Nat) : Locals.empty.Before n := ⟨fun _ he => absurd he List.not_mem_nil, fun _ h => by cases h⟩

theorem Locals.Before.mono {m : Nat} (h : l.Before n) (hle : n ≤ m) : l.Before m := by
  refine ⟨fun e he => ?_, fun half hhalf => lt_of_lt_of_le (h.half half hhalf) hle⟩
  obtain ⟨p, hp, hlt⟩ := h.usages e he
  exact ⟨p, hp, lt_of_lt_of_le hlt hle⟩

theorem Locals.Before.declare {d : Declaration} (h : l.Before n) (hdeclare : l.declare n d = some l') : l'.Before (n + 1) := by
  have hkept := h.mono (Nat.le_succ n)
  cases d with
  | usage usage =>
      obtain rfl := Option.some.inj hdeclare
      refine ⟨fun e he => ?_, hkept.half⟩
      rcases List.mem_append.mp he with hold | hnew
      · exact hkept.usages e hold
      · obtain rfl := List.mem_singleton.mp hnew
        exact ⟨n, List.mem_singleton_self n, Nat.lt_succ_self n⟩
  | bound side usage =>
      have hown : ∀ half ∈ some (Half.mk side usage n), half.item < n + 1 := by
        intro half hhalf
        obtain rfl := Option.some.inj hhalf
        exact Nat.lt_succ_self n
      unfold Locals.declare at hdeclare
      dsimp only at hdeclare
      split at hdeclare
      · obtain rfl := Option.some.inj hdeclare
        exact ⟨hkept.usages, hown⟩
      · split at hdeclare
        · obtain rfl := Option.some.inj hdeclare
          exact ⟨hkept.usages, hown⟩
        · obtain ⟨range, -, rfl⟩ := Option.map_eq_some_iff.mp hdeclare
          refine ⟨fun e he => ?_, fun _ hhalf => by cases hhalf⟩
          rcases List.mem_append.mp he with hold | hnew
          · exact hkept.usages e hold
          · obtain ⟨u, -, rfl⟩ := List.mem_map.mp hnew
            exact ⟨n, by simp, Nat.lt_succ_self n⟩
  | nothing =>
      obtain rfl := Option.some.inj hdeclare
      exact hkept

/-- What waits makes no difference exactly when it is no usage, and no end that is used. -/
theorem declareAll_empty_iff (hbefore : l.Before n) (h : Locals.declareAll n l ds = some l') :
    Locals.declareAll n Locals.empty ds = some l' ↔ l.usages = [] ∧ ∀ half ∈ l.half, Cancels half.side half.usage ds := by
  obtain ⟨usages, half⟩ := l
  constructor
  · intro hempty
    have husages : usages = [] := by
      rw [List.eq_nil_iff_forall_not_mem]
      intro e he
      -- the usage names an item that is over, which the later items never do
      obtain ⟨p, hp, hover⟩ := hbefore.usages e he
      obtain ⟨added, hadded, hfree⟩ := declareAll_appends hempty
      obtain ⟨more, hmore, -⟩ := declareAll_appends h
      have hmem : e ∈ added := by
        have hlist : added = usages ++ more := hadded.symm.trans hmore
        rw [hlist]
        exact List.mem_append_left more he
      exact hfree p hover (fun _ hhalf => by cases hhalf) e hmem hp
    subst husages
    refine ⟨rfl, fun waiting hwaiting => ?_⟩
    obtain rfl : half = some waiting := hwaiting
    exact cancels_of_declareAll (hbefore.half waiting rfl) h hempty
  · rintro ⟨husages, hcancels⟩
    obtain rfl : usages = [] := husages
    cases half with
    | none => exact h
    | some waiting => exact (declareAll_of_cancels [] (hcancels waiting rfl)).symm.trans h

/-! ### The parser and what it declares -/

def declaration (s : ParseState) (item : Item) : Declaration :=
  if item.type ≠ 2 then .nothing
  else if item.tag = 0 then .usage (fullUsage s item)
  else if item.tag = 1 then .bound .least (fullUsage s item)
  else if item.tag = 2 then .bound .greatest (fullUsage s item)
  else .nothing

/-- What items between two Main items declare, each with the page in force there. -/
def declarations : ParseState → List Item → List Declaration
  | _, [] => []
  | s, item :: rest => declaration s item :: declarations (if item.type = 1 then globalItem s item else s) rest

/-- The end of a range that waits on a side. -/
def Locals.bound (l : Locals) (side : RangeEnd) : Option Nat := (l.half.filter fun half => half.side = side).map Half.usage

/-- The local items of the parser, with the items that declared them. -/
structure Mirrors (s : ParseState) (l : Locals) : Prop where
  usages : s.localUsages = l.usages.map Prod.fst
  usageMin : s.usageMin = l.bound .least
  usageMax : s.usageMax = l.bound .greatest

variable {s s' : ParseState} {item : Item}

theorem Mirrors.of_same (h : Mirrors s l) (husages : s'.localUsages = s.localUsages) (hmin : s'.usageMin = s.usageMin)
    (hmax : s'.usageMax = s.usageMax) : Mirrors s' l :=
  ⟨husages.trans h.usages, hmin.trans h.usageMin, hmax.trans h.usageMax⟩

/-- What a local item does to the parser and to its declarations. -/
structure Declares (s : ParseState) (l : Locals) (n : Nat) (item : Item) : Prop where
  none_iff : localItem s item = none ↔ l.declare n (declaration s item) = none
  mirrors : ∀ s' l', localItem s item = some s' → l.declare n (declaration s item) = some l' → Mirrors s' l'

theorem Declares.of_some {n : Nat} (hs : localItem s item = some s') (hl : l.declare n (declaration s item) = some l')
    (h : Mirrors s' l') : Declares s l n item := by
  refine ⟨by rw [hs, hl]; simp, fun s'' l'' hs'' hl'' => ?_⟩
  obtain rfl := Option.some.inj (hs.symm.trans hs'')
  obtain rfl := Option.some.inj (hl.symm.trans hl'')
  exact h

/-- An end of a range takes the place of a waiting one of its kind, and makes a range with one of the other. -/
theorem Declares.of_bound {n usage : Nat} {side : RangeEnd} (hdeclares : declaration s item = .bound side usage)
    (h : Mirrors s l)
    (hsingle : (∀ half ∈ l.half, half.side = side) →
      ∃ s', localItem s item = some s' ∧ Mirrors s' { l with half := some ⟨side, usage, n⟩ })
    (hpair : ∀ half ∈ l.half, half.side ≠ side → localItem s item = (rangeOf half.side half.usage usage).map fun range =>
      { s with localUsages := s.localUsages ++ range, usageMin := none, usageMax := none }) :
    Declares s l n item := by
  cases hhalf : l.half with
  | none =>
      obtain ⟨s', hs', hmirrors⟩ := hsingle (by simp [hhalf])
      apply Declares.of_some hs' ?_ hmirrors
      rw [hdeclares, Locals.declare, hhalf]
  | some half =>
      by_cases hside : half.side = side
      · obtain ⟨s', hs', hmirrors⟩ := hsingle (by simp [hhalf, hside])
        apply Declares.of_some hs' ?_ hmirrors
        rw [hdeclares, Locals.declare, hhalf]
        exact if_pos hside
      · have hs := hpair half hhalf hside
        have hl : l.declare n (declaration s item) = (rangeOf half.side half.usage usage).map fun range =>
            { usages := l.usages ++ range.map fun u => (u, [half.item, n]), half := none } := by
          rw [hdeclares, Locals.declare, hhalf]
          exact if_neg hside
        refine ⟨by rw [hs, hl]; simp, fun s' l' hs' hl' => ?_⟩
        rw [hs] at hs'
        rw [hl] at hl'
        obtain ⟨range, hrange, rfl⟩ := Option.map_eq_some_iff.mp hs'
        obtain ⟨range', hrange', rfl⟩ := Option.map_eq_some_iff.mp hl'
        obtain rfl := Option.some.inj (hrange.symm.trans hrange')
        refine ⟨?_, rfl, rfl⟩
        show s.localUsages ++ range = (l.usages ++ range.map fun u => (u, [half.item, n])).map Prod.fst
        rw [List.map_append, List.map_map, h.usages]
        exact congrArg _ (List.map_id range).symm

theorem bound_of_side {side side' : RangeEnd} (hside : side ≠ side') (h : ∀ half ∈ l.half, half.side = side) :
    l.bound side' = none := by
  unfold Locals.bound
  cases hhalf : l.half with
  | none => rfl
  | some half =>
      have hown := h half hhalf
      simp [hown, hside]

theorem declares_localItem (h : Mirrors s l) (n : Nat) (htype : item.type = 2) : Declares s l n item := by
  by_cases hmin : item.tag = 1
  · have hends : rangeEnds s item = (some (fullUsage s item), s.usageMax) := by
      unfold rangeEnds
      simp [hmin]
    have hdeclares : declaration s item = .bound .least (fullUsage s item) := by simp [declaration, htype, hmin]
    apply Declares.of_bound hdeclares h
    · intro hside
      have hmax : s.usageMax = none := h.usageMax.trans (bound_of_side (by decide) hside)
      exact ⟨_, localItem_single (Or.inl hmin) hends (Or.inr hmax), ⟨h.usages, rfl, hmax⟩⟩
    · rintro ⟨side, usage, first⟩ hhalf hside
      obtain rfl : side = .greatest := by
        cases side
        · exact absurd rfl hside
        · rfl
      have hmax : s.usageMax = some usage := by rw [h.usageMax, Locals.bound, hhalf]; rfl
      exact localItem_pair (Or.inl hmin) (hends.trans (by rw [hmax]))
  by_cases hmax : item.tag = 2
  · have hends : rangeEnds s item = (s.usageMin, some (fullUsage s item)) := by
      unfold rangeEnds
      simp [hmax]
    have hdeclares : declaration s item = .bound .greatest (fullUsage s item) := by simp [declaration, htype, hmax]
    apply Declares.of_bound hdeclares h
    · intro hside
      have hmin : s.usageMin = none := h.usageMin.trans (bound_of_side (by decide) hside)
      exact ⟨_, localItem_single (Or.inr hmax) hends (Or.inl hmin), ⟨h.usages, hmin, rfl⟩⟩
    · rintro ⟨side, usage, first⟩ hhalf hside
      obtain rfl : side = .least := by
        cases side
        · rfl
        · exact absurd rfl hside
      have hmin : s.usageMin = some usage := by rw [h.usageMin, Locals.bound, hhalf]; rfl
      exact localItem_pair (Or.inr hmax) (hends.trans (by rw [hmin]))
  have hplain : localItem s item = _ := localItem_plain (not_or.mpr ⟨hmin, hmax⟩)
  by_cases htag : item.tag = 0
  · rw [if_pos htag] at hplain
    apply Declares.of_some hplain
    · have hdeclares : declaration s item = .usage (fullUsage s item) := by simp [declaration, htype, htag]
      rw [hdeclares]
      rfl
    · refine ⟨?_, h.usageMin, h.usageMax⟩
      simp [h.usages]
  · rw [if_neg htag] at hplain
    apply Declares.of_some hplain ?_ h
    simp [declaration, htype, htag, hmin, hmax, Locals.declare]

/-! ### Runs -/

def Item.isMain (item : Item) : Bool := item.type = 0

/-- Input, Output, Feature, Collection and End Collection; the parser passes over the other Main items. -/
def Item.isProcessed (item : Item) : Bool := item.isMain && (item.tag = 8 || item.tag = 9 || item.tag = 10 || item.tag = 11 || item.tag = 12)

/-- The Main items at which the parser forgets the local items. -/
def Item.clears (item : Item) : Bool := item.isMain && (item.tag = 8 || item.tag = 9 || item.tag = 10 || item.tag = 11)

/-- The parser with the local items it keeps, and with those declared since the last Main item, as long as their ranges end. -/
structure Trace where
  count : Nat
  state : ParseState
  inForce : Locals
  declared : Option Locals

def Trace.start : Trace := ⟨0, ParseState.initial, Locals.empty, some Locals.empty⟩

def traceItem (t : Trace) (item : Item) : Option Trace :=
  if item.isMain then
    (parseItem t.state item).map fun state =>
      { count := t.count + 1
        state
        inForce := if item.clears then Locals.empty else t.inForce
        declared := some Locals.empty }
  else
    (parseItem t.state item).bind fun state =>
      (t.inForce.declare t.count (declaration t.state item)).map fun inForce =>
        { count := t.count + 1
          state
          inForce
          declared := t.declared.bind fun l => l.declare t.count (declaration t.state item) }

/-- What holds of a trace all along. -/
structure Trace.Sound (t : Trace) : Prop where
  mirrors : Mirrors t.state t.inForce
  before : t.inForce.Before t.count

theorem sound_start : Trace.start.Sound := ⟨⟨rfl, rfl, rfl⟩, before_empty 0⟩

theorem parseItem_main (hmain : item.isMain = true) : parseItem s item = some (mainItem s item) := by
  have htype : item.type = 0 := of_decide_eq_true hmain
  simp only [parseItem, htype]

theorem mirrors_mainItem (h : Mirrors s l) (hmain : item.isMain = true) :
    Mirrors (mainItem s item) (if item.clears then Locals.empty else l) := by
  have hclears : item.clears = true ↔ item.tag = 8 ∨ item.tag = 9 ∨ item.tag = 10 ∨ item.tag = 11 := by
    unfold Item.clears
    simp only [hmain, Bool.true_and, Bool.or_eq_true, decide_eq_true_eq, or_assoc]
  unfold mainItem
  by_cases hfield : item.tag = 8 ∨ item.tag = 9 ∨ item.tag = 11
  · rw [if_pos hfield, if_pos (hclears.mpr (by omega))]
    exact ⟨rfl, rfl, rfl⟩
  rw [if_neg hfield]
  by_cases hcollection : item.tag = 10
  · rw [if_pos hcollection, if_pos (hclears.mpr (by omega))]
    exact ⟨rfl, rfl, rfl⟩
  rw [if_neg hcollection, if_neg (hclears.not.mpr (by omega))]
  split
  · exact h.of_same rfl rfl rfl
  · exact h

theorem locals_globalItem (s : ParseState) (item : Item) :
    (globalItem s item).localUsages = s.localUsages ∧ (globalItem s item).usageMin = s.usageMin
      ∧ (globalItem s item).usageMax = s.usageMax := by
  unfold globalItem
  split
  case h_10 => split <;> exact ⟨rfl, rfl, rfl⟩
  all_goals exact ⟨rfl, rfl, rfl⟩

/-- Any other item declares what it changes of the local items. -/
theorem parseItem_declares (h : Mirrors s l) (n : Nat) (hmain : item.isMain = false) :
    (parseItem s item = none ↔ l.declare n (declaration s item) = none)
      ∧ ∀ s' l', parseItem s item = some s' → l.declare n (declaration s item) = some l' → Mirrors s' l' := by
  have htype : item.type ≠ 0 := of_decide_eq_false hmain
  by_cases hlocal : item.type = 2
  · have hparse : parseItem s item = localItem s item := by simp only [parseItem, hlocal]
    have hdeclares := declares_localItem h n hlocal
    rw [hparse]
    exact ⟨hdeclares.none_iff, hdeclares.mirrors⟩
  · have hnothing : l.declare n (declaration s item) = some l := by
      have hdeclaration : declaration s item = .nothing := by simp [declaration, hlocal]
      rw [hdeclaration]
      rfl
    have hparse : ∃ s', parseItem s item = some s' ∧ Mirrors s' l := by
      unfold parseItem
      split
      · contradiction
      · obtain ⟨husages, hmin, hmax⟩ := locals_globalItem s item
        exact ⟨_, rfl, h.of_same husages hmin hmax⟩
      · contradiction
      · exact ⟨s, rfl, h⟩
    obtain ⟨s', hs', hmirrors⟩ := hparse
    rw [hs', hnothing]
    refine ⟨by simp, fun s'' l'' hs'' hl'' => ?_⟩
    obtain rfl := Option.some.inj hs''
    obtain rfl := Option.some.inj hl''
    exact hmirrors

theorem traceItem_spec {t : Trace} (h : t.Sound) (item : Item) :
    (traceItem t item).map Trace.state = parseItem t.state item ∧ ∀ t', traceItem t item = some t' → t'.Sound := by
  unfold traceItem
  cases hmain : item.isMain with
  | true =>
      rw [if_pos rfl, parseItem_main hmain]
      refine ⟨rfl, fun t' ht' => ?_⟩
      obtain rfl := Option.some.inj ht'
      refine ⟨mirrors_mainItem h.mirrors hmain, ?_⟩
      show (if item.clears then Locals.empty else t.inForce).Before (t.count + 1)
      split
      · exact before_empty _
      · exact h.before.mono (Nat.le_succ t.count)
  | false =>
      rw [if_neg Bool.false_ne_true]
      obtain ⟨hnone, hmirrors⟩ := parseItem_declares h.mirrors t.count hmain
      cases hparse : parseItem t.state item with
      | none => exact ⟨rfl, fun t' ht' => by cases ht'⟩
      | some state =>
          cases hdeclare : t.inForce.declare t.count (declaration t.state item) with
          | none =>
              rw [hnone.mpr hdeclare] at hparse
              cases hparse
          | some inForce =>
              refine ⟨rfl, fun t' ht' => ?_⟩
              obtain rfl := Option.some.inj ht'
              exact ⟨hmirrors state inForce hparse hdeclare, h.before.declare hdeclare⟩

theorem trace_spec {t : Trace} (h : t.Sound) (its : List Item) :
    (its.foldlM traceItem t).map Trace.state = its.foldlM parseItem t.state ∧ ∀ t', its.foldlM traceItem t = some t' → t'.Sound := by
  induction its generalizing t with
  | nil =>
      refine ⟨rfl, fun t' ht' => ?_⟩
      obtain rfl := Option.some.inj ht'
      exact h
  | cons item rest ih =>
      obtain ⟨hstate, hsound⟩ := traceItem_spec h item
      rw [List.foldlM_cons, List.foldlM_cons, ← hstate]
      cases hstep : traceItem t item with
      | none => exact ⟨rfl, fun t' ht' => by cases ht'⟩
      | some t' => exact ih (hsound t' hstep)

/-! ### Between two Main items -/

/-- The global items in force and those that are pushed. -/
def ParseState.page (s : ParseState) : GlobalState × List GlobalState := (s.global, s.globalStack)

theorem page_globalItem (h : s'.page = s.page) (item : Item) : (globalItem s' item).page = (globalItem s item).page := by
  obtain ⟨hglobal, hstack⟩ := Prod.mk.inj h
  unfold globalItem ParseState.page
  rw [hglobal, hstack]
  split
  case h_10 => split <;> simp [hglobal, hstack]
  all_goals simp [hglobal, hstack]

theorem declaration_of_page (h : s'.page = s.page) (item : Item) : declaration s' item = declaration s item := by
  have hglobal : s'.global = s.global := congrArg Prod.fst h
  unfold declaration fullUsage
  rw [hglobal]

theorem declarations_of_page (h : s'.page = s.page) (its : List Item) : declarations s' its = declarations s its := by
  induction its generalizing s s' with
  | nil => rfl
  | cons item rest ih =>
      have hnext : (if item.type = 1 then globalItem s' item else s').page
          = (if item.type = 1 then globalItem s item else s).page := by
        split
        · exact page_globalItem h item
        · exact h
      unfold declarations
      rw [declaration_of_page h item, ih hnext]

theorem page_parseItem (hmain : item.isMain = false) (h : parseItem s item = some s') :
    s'.page = (if item.type = 1 then globalItem s item else s).page := by
  have htype : item.type ≠ 0 := of_decide_eq_false hmain
  unfold parseItem at h
  split at h
  · contradiction
  · obtain rfl := Option.some.inj h
    simp [*]
  · obtain ⟨localUsages, usageMin, usageMax, rfl⟩ := localItem_changes h
    simp [*, ParseState.page]
  · rename_i hother _
    obtain rfl := Option.some.inj h
    rw [if_neg hother]

/-- Between two Main items the declarations are added to what is in force, and to what is declared since the first. -/
theorem trace_between {t t' : Trace} {between : List Item} (hbetween : ∀ item ∈ between, item.isMain = false)
    (h : between.foldlM traceItem t = some t') :
    Locals.declareAll t.count t.inForce (declarations t.state between) = some t'.inForce
      ∧ t'.declared = t.declared.bind fun l => Locals.declareAll t.count l (declarations t.state between) := by
  induction between generalizing t with
  | nil =>
      obtain rfl := Option.some.inj h
      exact ⟨rfl, (Option.bind_fun_some _).symm⟩
  | cons item rest ih =>
      obtain ⟨next, hnext, hrest⟩ := foldlM_cons_some h
      obtain ⟨hinForce, hdeclared⟩ := ih (fun i hi => hbetween i (List.mem_cons_of_mem item hi)) hrest
      have hmain := hbetween item List.mem_cons_self
      unfold traceItem at hnext
      rw [if_neg (by rw [hmain]; exact Bool.false_ne_true)] at hnext
      obtain ⟨state, hparse, hdeclare⟩ := Option.bind_eq_some_iff.mp hnext
      obtain ⟨inForce, hforce, rfl⟩ := Option.map_eq_some_iff.mp hdeclare
      dsimp only at hinForce hdeclared
      rw [declarations_of_page (page_parseItem hmain hparse)] at hinForce hdeclared
      refine ⟨?_, ?_⟩
      · show ((t.inForce.declare t.count (declaration t.state item)).bind fun l => _) = _
        rw [hforce]
        exact hinForce
      · rw [hdeclared, Option.bind_assoc]
        rfl

/-! ### Main items -/

/-- At each Main item the local items in force are those declared since the Main item before it, and no others. -/
def NoLeak (desc : List Byte) : Prop :=
  ∀ before item after, items desc.length desc = before ++ item :: after → item.isProcessed = true →
    ∀ t, before.foldlM traceItem Trace.start = some t → t.declared = some t.inForce

/-- Where a Main item that forgets nothing is followed by another one, no usage waits, and no end of a range that is used. -/
def NothingWaits (desc : List Byte) : Prop :=
  ∀ before main between next after, items desc.length desc = before ++ main :: (between ++ next :: after) →
    main.isMain = true → main.clears = false → (∀ item ∈ between, item.isMain = false) → next.isProcessed = true →
    ∀ s, before.foldlM parseItem ParseState.initial = some s → ((main :: between).foldlM parseItem s).isSome = true →
      s.localUsages = [] ∧ (∀ usage ∈ s.usageMin, Cancels .least usage (declarations s between))
        ∧ ∀ usage ∈ s.usageMax, Cancels .greatest usage (declarations s between)

theorem exists_last {α : Type} (p : α → Bool) (as : List α) :
    (∀ a ∈ as, p a = false) ∨ ∃ before last after, as = before ++ last :: after ∧ p last = true ∧ ∀ a ∈ after, p a = false := by
  induction as with
  | nil => exact Or.inl (by simp)
  | cons a rest ih =>
      rcases ih with hnone | ⟨before, last, after, rfl, hlast, hafter⟩
      · cases ha : p a with
        | true => exact Or.inr ⟨[], a, rest, rfl, ha, hnone⟩
        | false =>
            refine Or.inl fun b hb => ?_
            rcases List.mem_cons.mp hb with rfl | hmem
            · exact ha
            · exact hnone b hmem
      · exact Or.inr ⟨a :: before, last, after, rfl, hlast, hafter⟩

/-- The local items that wait, as the parser has them. -/
theorem mirrors_waits_iff (h : Mirrors s l) (ds : List Declaration) :
    (s.localUsages = [] ∧ (∀ usage ∈ s.usageMin, Cancels .least usage ds) ∧ ∀ usage ∈ s.usageMax, Cancels .greatest usage ds)
      ↔ l.usages = [] ∧ ∀ half ∈ l.half, Cancels half.side half.usage ds := by
  rw [h.usages, h.usageMin, h.usageMax, List.map_eq_nil_iff]
  refine and_congr_right fun _ => ?_
  unfold Locals.bound
  cases hhalf : l.half with
  | none => simp
  | some half =>
      obtain ⟨side, usage, n⟩ := half
      cases side <;> simp

/-- From one Main item to the next, what is in force is what is declared, exactly when the first forgets or nothing waits there. -/
theorem declared_iff {t t' : Trace} {main : Item} {between : List Item} (h : t.Sound) (hmain : main.isMain = true)
    (hbetween : ∀ item ∈ between, item.isMain = false) (hrun : (main :: between).foldlM traceItem t = some t') :
    t'.declared = some t'.inForce ↔ main.clears = true ∨
      (t.state.localUsages = [] ∧ (∀ usage ∈ t.state.usageMin, Cancels .least usage (declarations t.state between))
        ∧ ∀ usage ∈ t.state.usageMax, Cancels .greatest usage (declarations t.state between)) := by
  obtain ⟨next, hnext, hrest⟩ := foldlM_cons_some hrun
  unfold traceItem at hnext
  rw [if_pos hmain, parseItem_main hmain] at hnext
  obtain rfl := Option.some.inj hnext
  obtain ⟨hinForce, hdeclared⟩ := trace_between hbetween hrest
  have hpage : (mainItem t.state main).page = t.state.page := by
    obtain ⟨hglobal, hstack⟩ := mainItem_globals t.state main
    exact Prod.ext hglobal hstack
  dsimp only at hinForce hdeclared
  rw [declarations_of_page hpage] at hinForce hdeclared
  rw [hdeclared, Option.bind_some, mirrors_waits_iff h.mirrors]
  cases hclears : main.clears with
  | true =>
      rw [if_pos hclears] at hinForce
      simp [hinForce]
  | false =>
      rw [if_neg (by rw [hclears]; exact Bool.false_ne_true)] at hinForce
      rw [declareAll_empty_iff (h.before.mono (Nat.le_succ t.count)) hinForce]
      simp

/-- No local item leaks past a Main item exactly when none waits at an End Collection item, or at one the parser passes over. -/
theorem noLeak_iff (desc : List Byte) : NoLeak desc ↔ NothingWaits desc := by
  constructor
  · intro hleak before main between next after hitems hmain hclears hbetween hnext s hs hreached
    obtain ⟨hstate, hsound⟩ := trace_spec sound_start before
    obtain ⟨t, ht, rfl⟩ : ∃ t, before.foldlM traceItem Trace.start = some t ∧ t.state = s :=
      Option.map_eq_some_iff.mp (hstate.trans hs)
    obtain ⟨hstate', -⟩ := trace_spec (hsound t ht) (main :: between)
    obtain ⟨t', ht'⟩ : ∃ t', (main :: between).foldlM traceItem t = some t' := by
      rw [← Option.isSome_iff_exists, ← Option.isSome_map, hstate']
      exact hreached
    have hrun : (before ++ main :: between).foldlM traceItem Trace.start = some t' := by
      rw [List.foldlM_append, ht]
      exact ht'
    have hdeclared := hleak (before ++ main :: between) next after (by rw [hitems]; simp) hnext t' hrun
    exact ((declared_iff (hsound t ht) hmain hbetween ht').mp hdeclared).resolve_left (by rw [hclears]; exact Bool.false_ne_true)
  · intro hwaits front next after hitems hnext t' hrun
    rcases exists_last Item.isMain front with hnone | ⟨before, main, between, rfl, hmain, hbetween⟩
    · -- no Main item so far: both are what is declared since the start
      obtain ⟨hinForce, hdeclared⟩ := trace_between hnone hrun
      rw [hdeclared]
      exact hinForce
    · obtain ⟨t, ht, ht'⟩ := foldlM_append_some hrun
      obtain ⟨hstate, hsound⟩ := trace_spec sound_start before
      rw [declared_iff (hsound t ht) hmain hbetween ht']
      cases hclears : main.clears with
      | true => exact Or.inl rfl
      | false =>
          obtain ⟨hstate', -⟩ := trace_spec (hsound t ht) (main :: between)
          rw [ht] at hstate
          have hreached : ((main :: between).foldlM parseItem t.state).isSome = true := by
            rw [← hstate', ht']
            rfl
          exact Or.inr (hwaits before main between next after (by rw [hitems]; simp) hmain hclears hbetween hnext t.state
            hstate.symm hreached)

/-- The usage behind the End Collection item was declared before it. -/
def leakyDescriptor : List Byte :=
  [0x05, 0x84, 0x09, 0x04, 0xA1, 0x01, 0x09, 0x24, 0xA1, 0x00, 0x85, 0x01, 0x75, 0x08, 0x95, 0x01, 0x09, 0x30, 0xC0,
    0x81, 0x02, 0xC0]


/-- The Input item takes a voltage that no item declared since the End Collection item. -/
theorem usage_leaks :
    ¬ NoLeak leakyDescriptor
      ∧ (parseReportDescriptor leakyDescriptor).map (fun parser => parser.usages.map HIDUsageDef.usage) = some [0x00840030] := by
  refine ⟨fun hleak => ?_, by decide +kernel⟩
  have hdeclared := hleak ((items leakyDescriptor.length leakyDescriptor).take 10) ⟨8, 0, 1, 2⟩ [⟨12, 0, 0, 0⟩] rfl rfl _ rfl
  have hcount := congrArg (Option.map fun l : Locals => l.usages.length) hdeclared
  exact absurd hcount (by decide +kernel)

end EspNut.HIDParser
