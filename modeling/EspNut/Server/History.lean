import EspNut.Lib.Run
import EspNut.Lib.Window
import EspNut.Server.Overrides
import EspNut.Server.Tracking
import Mathlib.Data.List.Find
import Mathlib.Data.List.Nodup

/-!
# The tracking table as a bounded history

The table is meant to answer as a list of the last sixteen outcomes that are not older than an hour. It does, as long as a full table never meets two entries of its oldest millisecond in the wrong order: among entries of one age it replaces the one in the last slot.
-/

namespace EspNut.NutTracking

open Lib

/-- An outcome as it was added, at a real time. -/
structure Outcome where
  id : String
  status : SetStatus
  time : Nat
  deriving DecidableEq

/-- Real time as `millis` shows it. -/
def millis (time : Nat) : UInt32 := UInt32.ofNat time

def maxAge : Nat := 3600000

def Outcome.entry (outcome : Outcome) : Entry := ⟨outcome.id, outcome.status, millis outcome.time, true⟩

/-- The last outcomes that are not too old, the latest first. -/
def recent (history : List Outcome) (now : Nat) : List Outcome :=
  (history.take capacity).filter fun outcome => now ≤ outcome.time + maxAge

/-- The answer of the history. -/
def expected (history : List Outcome) (id : String) (now : Nat) : String :=
  match (recent history now).find? fun outcome => NutTable.equalsIgnoreCase outcome.id id with
  | none => "ERR UNKNOWN"
  | some outcome => statusText outcome.status

inductive Request where
  | add (id : String) (status : SetStatus)
  | get (id : String)
  | cleanup
  deriving DecidableEq

structure Event where
  request : Request
  time : Nat
  deriving DecidableEq

/-- The table beside the history of what was added, with each answer beside the one of the history. -/
structure Observed where
  entries : List Entry
  history : List Outcome
  now : Nat
  cleaned : Nat
  answered : List (String × String)

def Observed.initial (start : Nat) : Observed := ⟨clear, [], start, start, []⟩

def observe (o : Observed) (event : Event) : Observed :=
  match event.request with
  | .add id status =>
      { o with
        entries := add o.entries id status (millis event.time)
        history := ⟨id, status, event.time⟩ :: o.history
        now := event.time }
  | .get id =>
      { o with
        answered := o.answered ++ [(get o.entries id (millis event.time), expected o.history id event.time)]
        now := event.time }
  | .cleanup =>
      { o with
        entries := cleanup o.entries (millis event.time)
        now := event.time
        cleaned := event.time }

/-- Time does not run backwards, the server loop comes round before an age can wrap, and ids are new and fit. -/
def Lawful (o : Observed) (event : Event) : Prop :=
  o.now ≤ event.time ∧ event.time < o.cleaned + (2 ^ 32 - maxAge)
    ∧ ∀ id status, event.request = .add id status →
      id.length ≤ 36 ∧ ∀ outcome ∈ o.history, NutTable.equalsIgnoreCase outcome.id id = false

instance (o : Observed) (event : Event) : Decidable (Lawful o event) :=
  match h : event.request with
  | .add id status =>
      decidable_of_iff (o.now ≤ event.time ∧ event.time < o.cleaned + (2 ^ 32 - maxAge)
        ∧ (id.length ≤ 36 ∧ ∀ outcome ∈ o.history, NutTable.equalsIgnoreCase outcome.id id = false))
        (by simp [Lawful, h])
  | .get id =>
      decidable_of_iff (o.now ≤ event.time ∧ event.time < o.cleaned + (2 ^ 32 - maxAge)) (by simp [Lawful, h])
  | .cleanup =>
      decidable_of_iff (o.now ≤ event.time ∧ event.time < o.cleaned + (2 ^ 32 - maxAge)) (by simp [Lawful, h])

def Full (entries : List Entry) : Prop := ∀ e ∈ entries, e.used = true

instance (entries : List Entry) : Decidable (Full entries) := inferInstanceAs (Decidable (∀ e ∈ entries, e.used = true))

/-- No entry of the same millisecond stands in a later slot. -/
def LastOfItsMillisecond (entries : List Entry) (first : Entry) : Prop :=
  ∀ i j : Fin entries.length, entries[i] = first → entries[j].createdMs = first.createdMs → j ≤ i

instance (entries : List Entry) (first : Entry) : Decidable (LastOfItsMillisecond entries first) :=
  inferInstanceAs (Decidable (∀ i j : Fin entries.length,
    entries[i] = first → entries[j].createdMs = first.createdMs → j ≤ i))

/-- An addition to a full table finds the entry added first as the last of its millisecond. -/
def Untied (o : Observed) (event : Event) : Prop :=
  (∃ id status, event.request = .add id status) → Full o.entries →
    ∀ first, o.history[capacity - 1]? = some first → LastOfItsMillisecond o.entries first.entry

instance (o : Observed) (event : Event) : Decidable (Untied o event) :=
  match h : event.request with
  | .add id status =>
      match hfirst : o.history[capacity - 1]? with
      | none => isTrue (by simp [Untied, hfirst])
      | some first =>
          decidable_of_iff (Full o.entries → LastOfItsMillisecond o.entries first.entry)
            (by simp [Untied, h, hfirst])
  | .get id => isTrue (by simp [Untied, h])
  | .cleanup => isTrue (by simp [Untied, h])

theorem length_newId (rnd : List UInt32) : (newId rnd).length = 36 := by
  have hgroup : ∀ (byte : Nat → Nat) (n : Nat),
      ((List.range n).flatMap fun k => hexByte (byte k)).length = 2 * n := by
    intro byte n
    rw [List.length_flatMap]
    show ((List.range n).map fun _ => 2).sum = 2 * n
    simp [Nat.mul_comm]
  unfold newId
  dsimp only
  rw [← String.length_toList, String.toList_ofList]
  simp only [List.length_append, List.length_cons, hgroup]

/-! ### Ages -/

/-- The age of a time not yet wrapped is what the clock shows. -/
theorem age_millis {time now : Nat} (hpast : time ≤ now) (hclose : now < time + 2 ^ 32) :
    (millis now - millis time).toNat = now - time := by
  unfold millis
  rw [UInt32.toNat_sub, UInt32.toNat_ofNat', UInt32.toNat_ofNat']
  omega

theorem expired_iff {time now : Nat} (hpast : time ≤ now) (hclose : now < time + 2 ^ 32) :
    maxAgeMs < millis now - millis time ↔ time + maxAge < now := by
  rw [UInt32.lt_iff_toNat_lt, age_millis hpast hclose]
  show 3600000 < now - time ↔ time + maxAge < now
  unfold maxAge
  omega

/-- The best of the first `n` slots: no age exceeds it, and no later slot has reached it. -/
def Best (entries : List Entry) (now : UInt32) (n : Nat) (best : UInt32 × Nat) : Prop :=
  (∀ j e, j < n → entries[j]? = some e → now - e.createdMs ≤ best.1 ∧ (best.2 < j → now - e.createdMs < best.1))
    ∧ (n = 0 → best.1 = 0) ∧ (0 < n → ∃ e, entries[best.2]? = some e ∧ now - e.createdMs = best.1)

theorem best_oldest (entries : List Entry) (now : UInt32) {n : Nat} (hn : n ≤ entries.length) :
    Best entries now n ((List.range n).foldl (fun best i =>
      match entries[i]? with
      | none => best
      | some e => if best.1 ≤ now - e.createdMs then (now - e.createdMs, i) else best) ((0 : UInt32), 0)) := by
  induction n with
  | zero => exact ⟨fun j e hj => absurd hj (Nat.not_lt_zero j), fun _ => rfl, fun h => absurd h (Nat.lt_irrefl 0)⟩
  | succ n ih =>
      have hbefore := ih (by omega)
      rw [List.range_succ, List.foldl_append, List.foldl_cons, List.foldl_nil]
      generalize (List.range n).foldl _ _ = best at hbefore ⊢
      obtain ⟨hall, hzero, hreached⟩ := hbefore
      obtain ⟨e, he⟩ : ∃ e, entries[n]? = some e := ⟨entries[n], List.getElem?_eq_getElem (by omega)⟩
      rw [he]
      dsimp only
      split
      · rename_i hle
        refine ⟨?_, fun h => absurd h (Nat.succ_ne_zero n), fun _ => ⟨e, he, rfl⟩⟩
        intro j e' hj he'
        rcases Nat.lt_succ_iff_lt_or_eq.mp hj with hlt | rfl
        · refine ⟨UInt32.le_trans (hall j e' hlt he').1 hle, fun h => absurd h ?_⟩
          show ¬ n < j
          omega
        · obtain rfl : e = e' := Option.some.inj (he.symm.trans he')
          exact ⟨UInt32.le_refl _, fun h => absurd h (Nat.lt_irrefl _)⟩
      · rename_i hgt
        have hgt : now - e.createdMs < best.1 := UInt32.not_le.mp hgt
        have hpos : 0 < n := by
          apply Nat.pos_of_ne_zero
          intro hn
          rw [hzero hn] at hgt
          exact absurd hgt (UInt32.not_lt.mpr (UInt32.zero_le))
        refine ⟨?_, fun h => absurd h (Nat.succ_ne_zero n), fun _ => hreached hpos⟩
        intro j e' hj he'
        rcases Nat.lt_succ_iff_lt_or_eq.mp hj with hlt | rfl
        · exact hall j e' hlt he'
        · obtain rfl : e = e' := Option.some.inj (he.symm.trans he')
          exact ⟨UInt32.le_of_lt hgt, fun _ => hgt⟩

/-- The oldest entry has the greatest age, and every later slot a smaller one. -/
theorem oldest_spec {entries : List Entry} (hpos : 0 < entries.length) (now : UInt32) :
    ∃ e, entries[oldest entries now]? = some e ∧ ∀ j e', entries[j]? = some e' →
      now - e'.createdMs ≤ now - e.createdMs
        ∧ (oldest entries now < j → now - e'.createdMs < now - e.createdMs) := by
  obtain ⟨hall, -, hreached⟩ := best_oldest entries now (Nat.le_refl entries.length)
  obtain ⟨e, he, hage⟩ := hreached hpos
  refine ⟨e, he, ?_⟩
  intro j e' he'
  obtain ⟨hj, -⟩ := List.getElem?_eq_some_iff.mp he'
  rw [hage]
  exact hall j e' hj he'

/-! ### The invariant -/

/-- The used entries are the recent outcomes of the last cleanup, and every answer was the one of the history. -/
structure Refines (o : Observed) : Prop where
  slots : o.entries.length = capacity
  live : (o.entries.filter fun e => e.used).Perm ((recent o.history o.cleaned).map Outcome.entry)
  past : ∀ outcome ∈ o.history, outcome.time ≤ o.now
  sorted : o.history.Pairwise fun later earlier => earlier.time ≤ later.time
  distinct : (o.history.map fun outcome => Text.lower outcome.id).Nodup
  cleaned : o.cleaned ≤ o.now
  answered : ∀ reply ∈ o.answered, reply.1 = reply.2

theorem refines_initial (start : Nat) : Refines (Observed.initial start) where
  slots := rfl
  live := by
    have hfree : clear.filter (fun e => e.used) = [] := by decide
    show (clear.filter fun e => e.used).Perm _
    rw [hfree]
    exact List.Perm.nil
  past := fun _ h => absurd h List.not_mem_nil
  sorted := List.Pairwise.nil
  distinct := List.nodup_nil
  cleaned := Nat.le_refl start
  answered := fun _ h => absurd h List.not_mem_nil

variable {o : Observed} {time : Nat}

theorem mem_recent {history : List Outcome} {outcome : Outcome} {now : Nat} (h : outcome ∈ recent history now) :
    outcome ∈ history ∧ now ≤ outcome.time + maxAge := by
  obtain ⟨hmem, hfresh⟩ := List.mem_filter.mp h
  exact ⟨List.mem_of_mem_take hmem, of_decide_eq_true hfresh⟩

theorem recent_of_le {before now : Nat} (h : before ≤ now) (history : List Outcome) :
    recent history now = (recent history before).filter fun outcome => now ≤ outcome.time + maxAge := by
  unfold recent
  rw [List.filter_filter]
  apply List.filter_congr
  intro outcome _
  rw [Bool.eq_iff_iff]
  simp only [Bool.and_eq_true, decide_eq_true_eq]
  omega

/-- The clock tells whether a recent outcome has expired. -/
theorem Refines.expired_iff (h : Refines o) (hnow : o.now ≤ time)
    (hclose : time < o.cleaned + (2 ^ 32 - maxAge)) {outcome : Outcome}
    (hrecent : outcome ∈ recent o.history o.cleaned) :
    maxAgeMs < millis time - outcome.entry.createdMs ↔ outcome.time + maxAge < time := by
  obtain ⟨hmem, hfresh⟩ := mem_recent hrecent
  have hpast := h.past outcome hmem
  apply NutTracking.expired_iff (by omega)
  unfold maxAge at *
  omega

theorem Refines.unique (h : Refines o) {id : String} {a b : Outcome} (ha : a ∈ o.history) (hb : b ∈ o.history)
    (hida : NutTable.equalsIgnoreCase a.id id = true) (hidb : NutTable.equalsIgnoreCase b.id id = true) : a = b := by
  apply List.inj_on_of_nodup_map h.distinct ha hb
  rw [NutTable.equalsIgnoreCase_iff] at hida hidb
  rw [hida, hidb]

theorem Refines.get (h : Refines o) (hnow : o.now ≤ time) (hclose : time < o.cleaned + (2 ^ 32 - maxAge))
    (id : String) : NutTracking.get o.entries id (millis time) = expected o.history id time := by
  unfold NutTracking.get expected
  rw [recent_of_le (Nat.le_trans h.cleaned hnow)]
  by_cases hknown : ∃ a ∈ recent o.history o.cleaned, NutTable.equalsIgnoreCase a.id id = true
  · obtain ⟨a, ha, hid⟩ := hknown
    have hentry : ∀ e ∈ o.entries, e.used = true → ∃ b ∈ recent o.history o.cleaned, b.entry = e := by
      intro e he hused
      exact List.mem_map.mp (h.live.mem_iff.mp (List.mem_filter.mpr ⟨he, hused⟩))
    have ha_entry : a.entry ∈ o.entries :=
      (List.mem_filter.mp (h.live.mem_iff.mpr (List.mem_map_of_mem ha))).1
    have hfind : o.entries.find? (fun e => e.used && NutTable.equalsIgnoreCase e.id id) = some a.entry := by
      apply Window.find?_of_unique ha_entry
      · show (true && NutTable.equalsIgnoreCase a.id id) = true
        rw [hid]
        rfl
      · intro e he hfits
        obtain ⟨hused, hide⟩ := Bool.and_eq_true_iff.mp hfits
        obtain ⟨b, hb, rfl⟩ := hentry e he hused
        rw [h.unique (mem_recent hb).1 (mem_recent ha).1 hide hid]
    rw [hfind]
    dsimp only
    have hexpired := h.expired_iff hnow hclose ha
    by_cases hold : a.time + maxAge < time
    · rw [if_pos (hexpired.mpr hold), List.find?_eq_none.mpr]
      intro b hb hidb
      obtain ⟨hb, hfresh⟩ := List.mem_filter.mp hb
      obtain rfl := h.unique (mem_recent hb).1 (mem_recent ha).1 hidb hid
      exact absurd (of_decide_eq_true hfresh) (by omega)
    · have hmem : a ∈ (recent o.history o.cleaned).filter fun outcome => time ≤ outcome.time + maxAge :=
        List.mem_filter.mpr ⟨ha, decide_eq_true (by omega)⟩
      rw [if_neg (fun hlt => hold (hexpired.mp hlt)), Window.find?_of_unique hmem hid]
      · rfl
      · intro b hb hidb
        exact h.unique (mem_recent (List.mem_filter.mp hb).1).1 (mem_recent ha).1 hidb hid
  · have hnone : o.entries.find? (fun e => e.used && NutTable.equalsIgnoreCase e.id id) = none := by
      apply List.find?_eq_none.mpr
      intro e he hfits
      obtain ⟨hused, hide⟩ := Bool.and_eq_true_iff.mp hfits
      obtain ⟨b, hb, rfl⟩ := List.mem_map.mp (h.live.mem_iff.mp (List.mem_filter.mpr ⟨he, hused⟩))
      exact hknown ⟨b, hb, hide⟩
    rw [hnone, List.find?_eq_none.mpr]
    intro b hb hidb
    exact hknown ⟨b, (List.mem_filter.mp hb).1, hidb⟩

/-! ### What each request does -/

theorem filter_cleanup (entries : List Entry) (now : UInt32) :
    (cleanup entries now).filter (fun e => e.used)
      = (entries.filter fun e => e.used).filter fun e => ¬ maxAgeMs < now - e.createdMs := by
  unfold cleanup
  induction entries with
  | nil => rfl
  | cons e rest ih =>
      rw [List.map_cons]
      by_cases hused : e.used = true
      · by_cases hold : maxAgeMs < now - e.createdMs
        · rw [if_pos (by simp [hused, hold]), List.filter_cons_of_neg (by simp), List.filter_cons_of_pos hused,
            List.filter_cons_of_neg (by simp [hold]), ih]
        · rw [if_neg (by simp [hold]), List.filter_cons_of_pos hused, List.filter_cons_of_pos hused,
            List.filter_cons_of_pos (by simp [hold]), ih]
      · rw [if_neg (by simp [hused]), List.filter_cons_of_neg hused, List.filter_cons_of_neg hused, ih]

theorem Refines.cleanup (h : Refines o) (hnow : o.now ≤ time) (hclose : time < o.cleaned + (2 ^ 32 - maxAge)) :
    ((NutTracking.cleanup o.entries (millis time)).filter fun e => e.used).Perm
      ((recent o.history time).map Outcome.entry) := by
  rw [filter_cleanup, recent_of_le (Nat.le_trans h.cleaned hnow)]
  apply (h.live.filter _).trans
  rw [List.filter_map]
  apply List.Perm.of_eq
  apply congrArg (List.map Outcome.entry)
  apply List.filter_congr
  intro outcome hmem
  have hexpired := h.expired_iff hnow hclose hmem
  show decide (¬ maxAgeMs < millis time - outcome.entry.createdMs) = decide (time ≤ outcome.time + maxAge)
  rw [decide_eq_decide, hexpired]
  omega

theorem recent_cons {history : List Outcome} {outcome : Outcome} {now : Nat} (hnow : now ≤ outcome.time) :
    recent (outcome :: history) now
      = outcome :: (history.take (capacity - 1)).filter fun earlier => now ≤ earlier.time + maxAge := by
  have halive : decide (now ≤ outcome.time + maxAge) = true := decide_eq_true (by omega)
  show (outcome :: history.take (capacity - 1)).filter (fun earlier => decide (now ≤ earlier.time + maxAge)) = _
  rw [List.filter_cons, if_pos halive]

theorem Refines.alive_sorted (h : Refines o) : o.history.Pairwise fun later earlier =>
    decide (o.cleaned ≤ earlier.time + maxAge) = true → decide (o.cleaned ≤ later.time + maxAge) = true := by
  apply h.sorted.imp
  intro later earlier hle halive
  apply decide_eq_true
  have := of_decide_eq_true halive
  omega

/-- A free entry takes the outcome beside the recent ones. -/
theorem Refines.add_free (h : Refines o) {outcome : Outcome} (hnow : o.cleaned ≤ outcome.time) {i : Nat} {e : Entry}
    (hi : o.entries[i]? = some e) (hfree : e.used = false) :
    ((o.entries.set i outcome.entry).filter fun e => e.used).Perm
      ((recent (outcome :: o.history) o.cleaned).map Outcome.entry) := by
  have hroom : (recent o.history o.cleaned).length ≤ capacity - 1 := by
    have hlen := h.live.length_eq
    rw [List.length_map] at hlen
    have hlt : (o.entries.filter fun e => e.used).length < o.entries.length := by
      rw [List.length_filter_lt_length_iff_exists]
      exact ⟨e, List.mem_of_getElem? hi, by simp [hfree]⟩
    rw [h.slots] at hlt
    omega
  have hsame : recent o.history o.cleaned
      = (o.history.take (capacity - 1)).filter fun earlier => o.cleaned ≤ earlier.time + maxAge :=
    Window.filter_take_of_room h.alive_sorted hroom
  apply (Window.filter_set_free hi hfree rfl).trans
  rw [recent_cons hnow, List.map_cons, ← hsame]
  exact h.live.cons outcome.entry

/-- The recent outcomes fill a full table, and the one added first is the oldest. -/
theorem Refines.full (h : Refines o) (hfull : Full o.entries) :
    o.entries.Perm ((o.history.take capacity).map Outcome.entry)
      ∧ ∃ first, o.history[capacity - 1]? = some first
        ∧ o.history.take capacity = o.history.take (capacity - 1) ++ [first]
        ∧ ∀ outcome ∈ o.history.take capacity, first.time ≤ outcome.time
          ∧ o.cleaned ≤ outcome.time + maxAge := by
  have hlive := h.live
  rw [List.filter_eq_self.mpr hfull] at hlive
  have hlen := hlive.length_eq
  rw [List.length_map, h.slots] at hlen
  obtain ⟨hall, hcount⟩ := Window.filter_take_of_full hlen.symm
  have halive := List.filter_eq_self.mp hall
  unfold recent at hlive
  rw [hall] at hlive
  refine ⟨hlive, ?_⟩
  have hlong : capacity - 1 < o.history.length := by
    rw [List.length_take] at hcount
    unfold capacity at *
    omega
  have hget : o.history[capacity - 1]? = some o.history[capacity - 1] := List.getElem?_eq_getElem hlong
  refine ⟨o.history[capacity - 1], hget, ?_, ?_⟩
  · have hsplit := List.take_add_one (l := o.history) (i := capacity - 1)
    rw [hget] at hsplit
    exact hsplit
  · intro outcome hmem
    refine ⟨?_, of_decide_eq_true (halive outcome hmem)⟩
    obtain ⟨j, hj, rfl⟩ := List.mem_take_iff_getElem.mp hmem
    rcases Nat.lt_or_ge j (capacity - 1) with hlt | hge
    · exact List.pairwise_iff_getElem.mp h.sorted j (capacity - 1) (by omega) hlong hlt
    · obtain rfl : j = capacity - 1 := by
        unfold capacity at *
        omega
      exact Nat.le_refl _

/-- The oldest entry of a full table is the one added first, when it is the last of its millisecond. -/
theorem Refines.oldest_first (h : Refines o) (hnow : o.now ≤ time)
    (hclose : time < o.cleaned + (2 ^ 32 - maxAge)) (hfull : Full o.entries) {first : Outcome}
    (hfirst : o.history[capacity - 1]? = some first) (hlast : LastOfItsMillisecond o.entries first.entry) :
    o.entries[oldest o.entries (millis time)]? = some first.entry := by
  obtain ⟨hperm, first', hfirst', hsplit, holdest⟩ := h.full hfull
  obtain rfl : first = first' := Option.some.inj (hfirst.symm.trans hfirst')
  have hage : ∀ outcome ∈ o.history.take capacity,
      (millis time - outcome.entry.createdMs).toNat = time - outcome.time := by
    intro outcome hmem
    have hpast := h.past outcome (List.mem_of_mem_take hmem)
    have halive := (holdest outcome hmem).2
    apply age_millis (by omega)
    unfold maxAge at *
    omega
  have hmem_first : first ∈ o.history.take capacity := by
    rw [hsplit]
    exact List.mem_append_right _ (List.mem_singleton_self first)
  obtain ⟨i, hi, hget⟩ := List.getElem_of_mem (hperm.mem_iff.mpr (List.mem_map_of_mem (f := Outcome.entry) hmem_first))
  have hpos : 0 < o.entries.length := by
    rw [h.slots]
    decide
  obtain ⟨e, he, hmax⟩ := oldest_spec hpos (millis time)
  obtain ⟨holdestLt, hgetOldest⟩ := List.getElem?_eq_some_iff.mp he
  obtain ⟨outcome, hmem, hentry⟩ := List.mem_map.mp (hperm.mem_iff.mp (List.mem_of_getElem? he))
  have hfirstAge := hage first hmem_first
  have houtcomeAge := hage outcome hmem
  rw [hentry] at houtcomeAge
  have hle := (holdest outcome hmem).1
  obtain ⟨hbound, hlater⟩ := hmax i first.entry (by rw [← hget]; exact List.getElem?_eq_getElem hi)
  have hpast := h.past outcome (List.mem_of_mem_take hmem)
  have hsameAge : outcome.time = first.time := by
    rw [UInt32.le_iff_toNat_le] at hbound
    omega
  have hsame : e.createdMs = first.entry.createdMs := by
    rw [← hentry]
    show millis outcome.time = millis first.time
    rw [hsameAge]
  have hslot := hlast ⟨i, hi⟩ ⟨oldest o.entries (millis time), holdestLt⟩ hget (by rw [← hsame]; exact congrArg _ hgetOldest)
  have hslot : oldest o.entries (millis time) ≤ i := hslot
  rcases Nat.lt_or_ge (oldest o.entries (millis time)) i with hlt | hge
  · have hyounger := hlater hlt
    rw [hsame] at hyounger
    exact absurd hyounger (UInt32.lt_irrefl _)
  · obtain rfl : oldest o.entries (millis time) = i := Nat.le_antisymm hslot hge
    rw [← hget]
    exact List.getElem?_eq_getElem hi

theorem Refines.add_full (h : Refines o) {outcome : Outcome} (hnow : o.now ≤ outcome.time)
    (hclose : outcome.time < o.cleaned + (2 ^ 32 - maxAge)) (hfull : Full o.entries)
    (huntied : ∀ first, o.history[capacity - 1]? = some first → LastOfItsMillisecond o.entries first.entry) :
    (o.entries.set (oldest o.entries (millis outcome.time)) outcome.entry).Perm
      ((recent (outcome :: o.history) o.cleaned).map Outcome.entry) := by
  obtain ⟨hperm, first, hfirst, hsplit, halive⟩ := h.full hfull
  have hoccupied := h.oldest_first hnow hclose hfull hfirst (huntied first hfirst)
  rw [hsplit, List.map_append] at hperm
  apply (Window.set_leaving hperm hoccupied).trans
  rw [recent_cons (Nat.le_trans h.cleaned hnow), List.map_cons, List.filter_eq_self.mpr]
  intro earlier hmem
  have hin : earlier ∈ o.history.take capacity := by
    rw [hsplit]
    exact List.mem_append_left _ hmem
  exact decide_eq_true (halive earlier hin).2

theorem full_set {entries : List Entry} (hfull : Full entries) (i : Nat) (outcome : Outcome) :
    Full (entries.set i outcome.entry) := by
  intro e he
  rcases List.mem_or_eq_of_mem_set he with hmem | rfl
  · exact hfull e hmem
  · rfl

theorem Refines.add (h : Refines o) (outcome : Outcome) (hnow : o.now ≤ outcome.time)
    (hclose : outcome.time < o.cleaned + (2 ^ 32 - maxAge)) (hid : outcome.id.length ≤ 36)
    (huntied : Full o.entries →
      ∀ first, o.history[capacity - 1]? = some first → LastOfItsMillisecond o.entries first.entry) :
    ((NutTracking.add o.entries outcome.id outcome.status (millis outcome.time)).filter fun e => e.used).Perm
      ((recent (outcome :: o.history) o.cleaned).map Outcome.entry) := by
  have hcut : (⟨String.ofList (outcome.id.toList.take 36), outcome.status, millis outcome.time, true⟩ : Entry)
      = outcome.entry := by
    rw [List.take_of_length_le (by rw [String.length_toList]; exact hid), String.ofList_toList]
    rfl
  unfold NutTracking.add
  dsimp only
  rw [hcut]
  cases hslot : o.entries.findIdx? fun e => !e.used with
  | some i =>
      obtain ⟨hi, hfree, -⟩ := List.findIdx?_eq_some_iff_getElem.mp hslot
      exact h.add_free (Nat.le_trans h.cleaned hnow) (List.getElem?_eq_getElem hi) (by simpa using hfree)
  | none =>
      have hfull : Full o.entries := by
        intro e he
        simpa using List.findIdx?_eq_none_iff.mp hslot e he
      rw [Option.getD_none, List.filter_eq_self.mpr (full_set hfull _ outcome)]
      exact h.add_full hnow hclose hfull (huntied hfull)

/-- A lawful request that meets no tie keeps the table in step with the history. -/
theorem refines_observe {event : Event} (hlawful : Lawful o event) (huntied : Untied o event) (h : Refines o) :
    Refines (observe o event) := by
  obtain ⟨request, time⟩ := event
  obtain ⟨hnow, hclose, hnew⟩ := hlawful
  cases request with
  | add id status =>
      obtain ⟨hid, hfresh⟩ := hnew id status rfl
      exact {
        slots := by
          show (NutTracking.add o.entries id status (millis time)).length = capacity
          unfold NutTracking.add
          dsimp only
          rw [List.length_set]
          exact h.slots
        live := h.add ⟨id, status, time⟩ hnow hclose hid (huntied ⟨id, status, rfl⟩)
        past := by
          intro outcome hmem
          rcases List.mem_cons.mp hmem with rfl | hearlier
          · exact Nat.le_refl time
          · exact Nat.le_trans (h.past outcome hearlier) hnow
        sorted := List.Pairwise.cons (fun earlier hmem => Nat.le_trans (h.past earlier hmem) hnow) h.sorted
        distinct := by
          apply List.nodup_cons.mpr ⟨?_, h.distinct⟩
          intro hmem
          obtain ⟨outcome, hin, hsame⟩ := List.mem_map.mp hmem
          have hdiffer := hfresh outcome hin
          rw [← Bool.not_eq_true, NutTable.equalsIgnoreCase_iff] at hdiffer
          exact hdiffer hsame
        cleaned := Nat.le_trans h.cleaned hnow
        answered := h.answered }
  | get id =>
      exact {
        slots := h.slots
        live := h.live
        past := fun outcome hmem => Nat.le_trans (h.past outcome hmem) hnow
        sorted := h.sorted
        distinct := h.distinct
        cleaned := Nat.le_trans h.cleaned hnow
        answered := by
          intro reply hmem
          rcases List.mem_append.mp hmem with hearlier | hlast
          · exact h.answered reply hearlier
          · rw [List.mem_singleton.mp hlast]
            exact h.get hnow hclose id }
  | cleanup =>
      exact {
        slots := by
          show (NutTracking.cleanup o.entries (millis time)).length = capacity
          unfold NutTracking.cleanup
          rw [List.length_map]
          exact h.slots
        live := h.cleanup hnow hclose
        past := fun outcome hmem => Nat.le_trans (h.past outcome hmem) hnow
        sorted := h.sorted
        distinct := h.distinct
        cleaned := Nat.le_refl time
        answered := h.answered }

/-! ### Whole runs -/

/-- A run from the start of the bridge. -/
def observed (start : Nat) (events : List Event) : Observed := run observe (Observed.initial start) events

/-- Without ties, every answer is the one of the history, and a full table holds the last sixteen outcomes. -/
theorem tracking_refines_history (start : Nat) (events : List Event)
    (h : Along (fun o event => Lawful o event ∧ Untied o event) observe (Observed.initial start) events) :
    (∀ reply ∈ (observed start events).answered, reply.1 = reply.2)
      ∧ (Full (observed start events).entries → (observed start events).entries.Perm
        (((observed start events).history.take capacity).map Outcome.entry)) := by
  have hrefines : Refines (observed start events) := by
    apply run_along (refines_initial start) ?_ events h
    intro o event hevent hbefore
    exact refines_observe hevent.1 hevent.2 hbefore
  exact ⟨hrefines.answered, fun hfull => (hrefines.full hfull).1⟩

/-- Seventeen outcomes, the first some seconds before the clock wraps. -/
def seventeen (start gap : Nat) : List Event :=
  (List.range 17).map fun k => ⟨.add (String.singleton (Char.ofNat (97 + k))) .ok, start + gap * k⟩

def wrapping : List Event :=
  seventeen 4294960000 1000 ++ [⟨.get "A", 4294976001⟩, ⟨.get "B", 4294976002⟩, ⟨.cleanup, 4298570000⟩,
    ⟨.get "Q", 4298570001⟩]

theorem tracking_refines_history_wrapping :
    (∀ reply ∈ (observed 4294960000 wrapping).answered, reply.1 = reply.2)
      ∧ (Full (observed 4294960000 wrapping).entries → (observed 4294960000 wrapping).entries.Perm
        (((observed 4294960000 wrapping).history.take capacity).map Outcome.entry)) :=
  tracking_refines_history 4294960000 wrapping (by decide +kernel)

/-- Seventeen outcomes of one millisecond, then a query for the sixteenth. -/
def crowded : List Event := seventeen 5000 0 ++ [⟨.get "p", 5001⟩]

/-- Among entries of one millisecond the table replaces the newest. -/
theorem same_millisecond_loses_newest :
    Along Lawful observe (Observed.initial 0) crowded
      ∧ (observed 0 crowded).answered = [("ERR UNKNOWN", "SUCCESS")] := by
  decide +kernel

end EspNut.NutTracking
