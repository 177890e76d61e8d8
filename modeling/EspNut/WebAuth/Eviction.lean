import EspNut.Lib.Run
import EspNut.WebAuth.SessionTable
import Mathlib.Data.Fintype.Fin

/-!
# Which session gives way

The sequence number of a persistent session tells its age. Loading keeps the order of the stored numbers; each new session takes the next one. A full table replaces the session with the least number, which is the oldest as long as the numbers have not run out.
-/

namespace EspNut.SessionTable

open Lib

variable {sha256 : String → Digest}

/-! ### Renumbering -/

section Renumber

variable {count : Nat} {slots : Fin kMaxPersistentSessions → PersistentSlot}

/-- The slots that hold a loaded session. -/
def isLoaded (count : Nat) (i : Fin kMaxPersistentSessions) : Bool := decide (i.val < count)

/-- The age of a loaded session, by its stored number and its place. -/
def ageRank (count : Nat) (slots : Fin kMaxPersistentSessions → PersistentSlot) (i : Fin kMaxPersistentSessions) : Nat :=
  Slots.rank (isLoaded count) (fun i => (slots i).seq.toNat) i

theorem card_isLoaded (h : count ≤ kMaxPersistentSessions) :
    (Finset.univ.filter fun i => isLoaded count i = true).card = count := by
  simp only [isLoaded, decide_eq_true_eq]
  rw [Fin.card_filter_val_lt]
  omega

/-- After `n` rounds the `n` oldest sessions have their new numbers. -/
structure Renumbered (count : Nat) (slots : Fin kMaxPersistentSessions → PersistentSlot) (n : Nat)
    (state : (Fin kMaxPersistentSessions → Bool) × (Fin kMaxPersistentSessions → PersistentSlot)) : Prop where
  card : (Finset.univ.filter fun i => state.1 i = true).card = n
  loaded : ∀ i, state.1 i = true → isLoaded count i = true
  closed : ∀ i j, state.1 i = true → isLoaded count j = true →
    Slots.Before (fun i => (slots i).seq.toNat) j i → state.1 j = true
  slot : ∀ i, state.2 i
    = if state.1 i = true then { slots i with seq := UInt32.ofNat (ageRank count slots i + 1) } else slots i

theorem renumbered_start : Renumbered count slots 0 (fun _ => false, slots) where
  card := by simp
  loaded := fun i h => absurd h Bool.false_ne_true
  closed := fun i j h => absurd h Bool.false_ne_true
  slot := fun i => (if_neg Bool.false_ne_true).symm

theorem renumberRound_renumbered {n : Nat}
    {state : (Fin kMaxPersistentSessions → Bool) × (Fin kMaxPersistentSessions → PersistentSlot)}
    (hcount : count ≤ kMaxPersistentSessions) (hn : n < count) (h : Renumbered count slots n state) :
    Renumbered count slots (n + 1) (renumberRound count state (n + 1)) := by
  cases hpick : Slots.least (fun i => decide (i.val < count) && !state.1 i) (fun i => (state.2 i).seq.toNat) with
  | none =>
      -- every loaded session would be done, so the rounds would be over
      exfalso
      have hall : ∀ i, isLoaded count i = true → state.1 i = true := by
        intro i hi
        have hnone := Slots.least_eq_none_iff.mp hpick i
        unfold isLoaded at hi
        simpa [hi] using hnone
      have hle := Finset.card_le_card (s := Finset.univ.filter fun i => isLoaded count i = true)
        (t := Finset.univ.filter fun i => state.1 i = true) (by
          intro i hi
          simp only [Finset.mem_filter, Finset.mem_univ, true_and] at hi ⊢
          exact hall i hi)
      rw [card_isLoaded hcount, h.card] at hle
      omega
  | some pick =>
      have hmember := Slots.member_of_least hpick
      simp only [Bool.and_eq_true, Bool.not_eq_true', decide_eq_true_eq] at hmember
      obtain ⟨hloaded, hundone⟩ := hmember
      have hpickSlot : state.2 pick = slots pick := by rw [h.slot pick, hundone, if_neg Bool.false_ne_true]
      have hbefore : ∀ j, isLoaded count j = true → Slots.Before (fun i => (slots i).seq.toNat) j pick →
          state.1 j = true := by
        intro j hj hjpick
        by_contra hnot
        rw [Bool.not_eq_true] at hnot
        have hjSlot : state.2 j = slots j := by rw [h.slot j, hnot, if_neg Bool.false_ne_true]
        apply Slots.not_before_least (j := j) hpick
        · unfold isLoaded at hj
          simp [hnot, decide_eq_true_eq.mp hj]
        · unfold Slots.Before at hjpick ⊢
          dsimp only at hjpick ⊢
          rw [hjSlot, hpickSlot]
          exact hjpick
      have hearlier : Slots.earlier (isLoaded count) (fun i => (slots i).seq.toNat) pick
          = Finset.univ.filter fun i => state.1 i = true := by
        ext j
        rw [Slots.mem_earlier, Finset.mem_filter, and_iff_right (Finset.mem_univ j)]
        refine ⟨fun hj => hbefore j hj.1 hj.2, fun hj => ⟨h.loaded j hj, ?_⟩⟩
        have hne : j ≠ pick := by
          rintro rfl
          rw [hundone] at hj
          exact Bool.false_ne_true hj
        refine (Slots.before_total hne).resolve_right fun hafter => ?_
        have hdone := h.closed j pick hj (decide_eq_true hloaded) hafter
        rw [hundone] at hdone
        exact Bool.false_ne_true hdone
      have hrank : ageRank count slots pick = n := by
        unfold ageRank Slots.rank
        rw [hearlier, h.card]
      have hround : renumberRound count state (n + 1)
          = (Function.update state.1 pick true,
            Function.update state.2 pick { state.2 pick with seq := UInt32.ofNat (n + 1) }) := by
        unfold renumberRound
        rw [hpick]
      rw [hround]
      refine ⟨?_, ?_, ?_, ?_⟩
      · have hinsert : (Finset.univ.filter fun i => Function.update state.1 pick true i = true)
            = insert pick (Finset.univ.filter fun i => state.1 i = true) := by
          ext j
          simp only [Finset.mem_filter, Finset.mem_univ, true_and, Finset.mem_insert]
          by_cases hj : j = pick
          · simp [hj]
          · simp [hj]
        show (Finset.univ.filter fun i => Function.update state.1 pick true i = true).card = n + 1
        rw [hinsert, Finset.card_insert_of_notMem (by simp [hundone]), h.card]
      · intro i hi
        by_cases hj : i = pick
        · subst hj
          exact decide_eq_true hloaded
        · dsimp only at hi
          rw [Function.update_of_ne hj] at hi
          exact h.loaded i hi
      · intro i j hi hj hji
        dsimp only at hi ⊢
        by_cases hjpick : j = pick
        · rw [hjpick, Function.update_self]
        · rw [Function.update_of_ne hjpick]
          by_cases hipick : i = pick
          · subst hipick
            exact hbefore j hj hji
          · rw [Function.update_of_ne hipick] at hi
            exact h.closed i j hi hj hji
      · intro i
        dsimp only
        by_cases hi : i = pick
        · subst hi
          simp only [Function.update_self, if_true, hpickSlot, hrank]
        · simp only [Function.update_of_ne hi]
          exact h.slot i

theorem renumbered_rounds (hcount : count ≤ kMaxPersistentSessions) {n : Nat} (hn : n ≤ count) :
    Renumbered count slots n ((List.range' 1 n).foldl (renumberRound count) (fun _ => false, slots)) := by
  induction n with
  | zero => exact renumbered_start
  | succ n ih =>
      rw [List.range'_1_concat, List.foldl_append, List.foldl_cons, List.foldl_nil, Nat.add_comm 1 n]
      exact renumberRound_renumbered hcount (by omega) (ih (by omega))

/-- Every loaded session gets the number of its rank, from 1 on. -/
theorem renumber_eq (hcount : count ≤ kMaxPersistentSessions) {i : Fin kMaxPersistentSessions}
    (hi : isLoaded count i = true) :
    renumber count slots i = { slots i with seq := UInt32.ofNat (ageRank count slots i + 1) } := by
  have h : Renumbered count slots count _ := renumbered_rounds hcount le_rfl
  have hdone : ((List.range' 1 count).foldl (renumberRound count) (fun _ => false, slots)).1 i = true := by
    have hsame : (Finset.univ.filter fun i =>
          ((List.range' 1 count).foldl (renumberRound count) (fun _ => false, slots)).1 i = true)
        = Finset.univ.filter fun i => isLoaded count i = true := by
      apply Finset.eq_of_subset_of_card_le
      · intro j hj
        simp only [Finset.mem_filter, Finset.mem_univ, true_and] at hj ⊢
        exact h.loaded j hj
      · rw [h.card, card_isLoaded hcount]
    have hmem : i ∈ Finset.univ.filter fun i => isLoaded count i = true := by simpa using hi
    rw [← hsame] at hmem
    simpa using hmem
  unfold renumber
  rw [h.slot i, if_pos hdone]

end Renumber

theorem used_renumber {count : Nat} (hcount : count ≤ kMaxPersistentSessions)
    (slots : Fin kMaxPersistentSessions → PersistentSlot) (i : Fin kMaxPersistentSessions) :
    (renumber count slots i).used = (slots i).used := by
  have h : Renumbered count slots count _ := renumbered_rounds hcount le_rfl
  unfold renumber
  rw [h.slot i]
  split
  · rfl
  · rfl

/-! ### What is loaded -/

section Loaded

variable {loaded : List PersistentSession}

theorem used_loadedSlots (loaded : List PersistentSession) (i : Fin kMaxPersistentSessions) :
    (loadedSlots loaded i).used = isLoaded loaded.length i := by
  unfold loadedSlots isLoaded
  by_cases hi : i.val < loaded.length
  · rw [List.getElem?_eq_getElem hi, decide_eq_true hi]
  · rw [List.getElem?_eq_none (by omega), decide_eq_false hi]
    rfl

theorem seq_le_maxSeq {session : PersistentSession} (h : session ∈ loaded) : session.seq ≤ maxSeq loaded := by
  have hall : ∀ (l : List PersistentSession) (max : UInt32),
      max ≤ l.foldl (fun max session => if max < session.seq then session.seq else max) max
        ∧ ∀ session ∈ l, session.seq ≤ l.foldl (fun max session => if max < session.seq then session.seq else max) max := by
    intro l
    induction l with
    | nil => exact fun max => ⟨UInt32.le_rfl, by simp⟩
    | cons first rest ih =>
        intro max
        obtain ⟨hmax, hrest⟩ := ih (if max < first.seq then first.seq else max)
        have hboth : max ≤ (if max < first.seq then first.seq else max)
            ∧ first.seq ≤ (if max < first.seq then first.seq else max) := by
          split
          · rename_i hlt
            exact ⟨UInt32.le_of_lt hlt, UInt32.le_rfl⟩
          · rename_i hge
            exact ⟨UInt32.le_rfl, UInt32.not_lt.mp hge⟩
        refine ⟨UInt32.le_trans hboth.1 hmax, ?_⟩
        intro session hmem
        rcases List.mem_cons.mp hmem with rfl | hmem
        · exact UInt32.le_trans hboth.2 hmax
        · exact hrest session hmem
  exact (hall loaded 0).2 session h

theorem eq_of_seq_eq (h : hasDuplicate loaded = false) {i j : Nat} (hi : i < loaded.length) (hj : j < loaded.length)
    (hseq : loaded[i].seq = loaded[j].seq) : i = j := by
  have hnone : ∀ a b, a < b → b < loaded.length →
      (loaded.map PersistentSession.seq)[a]? ≠ (loaded.map PersistentSession.seq)[b]? := by
    intro a b hab hb heq
    apply Bool.eq_false_iff.mp h
    unfold hasDuplicate
    rw [List.any_eq_true]
    refine ⟨b, List.mem_range.mpr hb, ?_⟩
    rw [List.any_eq_true]
    exact ⟨a, List.mem_range.mpr hab, decide_eq_true heq⟩
  have hsame : (loaded.map PersistentSession.seq)[i]? = (loaded.map PersistentSession.seq)[j]? := by
    rw [List.getElem?_map, List.getElem?_map, List.getElem?_eq_getElem hi, List.getElem?_eq_getElem hj]
    exact congrArg some hseq
  rcases lt_trichotomy i j with hlt | heq | hgt
  · exact absurd hsame (hnone i j hlt hj)
  · exact heq
  · exact absurd hsame.symm (hnone j i hgt hi)

theorem loadedSlots_of_loaded {i : Fin kMaxPersistentSessions} (hi : i.val < loaded.length) :
    loadedSlots loaded i = ⟨loaded[i.val].hash, loaded[i.val].seq, true⟩ := by
  unfold loadedSlots
  rw [List.getElem?_eq_getElem hi]

end Loaded

/-! ### The order of the sessions -/

theorem toNat_next {seq : UInt32} (h : seq ≠ 0xFFFFFFFF) : (seq + 1).toNat = seq.toNat + 1 := by
  have hne : seq.toNat ≠ 4294967295 := fun heq => h (UInt32.toNat_inj.mp heq)
  have hlt := seq.toNat_lt
  rw [UInt32.toNat_add, UInt32.toNat_one]
  omega

/-- The sequence numbers in use are distinct and below the next one. -/
structure Orderly (table : SessionTable) : Prop where
  distinct : ∀ i j, (table.persistent i).used = true → (table.persistent j).used = true →
    (table.persistent i).seq = (table.persistent j).seq → i = j
  below : ∀ i, (table.persistent i).used = true → (table.persistent i).seq < table.nextSeq

/-- The sessions with the order in which the persistent ones were made, counted without bound. -/
structure Chronicle where
  sessions : Sessions
  birth : Fin kMaxPersistentSessions → Nat
  births : Nat

/-- The stored sessions are as old as their numbers tell, and their places among equal ones. -/
def chronicleStart (loaded : Option (List PersistentSession)) (saved : Bool) (s : Sessions) : Chronicle :=
  let taken := (loaded.getD []).take kMaxPersistentSessions
  { sessions := begin loaded saved s, birth := ageRank taken.length (loadedSlots taken), births := taken.length }

def chronicleStep (sha256 : String → Digest) (c : Chronicle) (event : SessionEvent) : Chronicle :=
  match createdIn sha256 c.sessions event with
  | none => { c with sessions := step sha256 c.sessions event }
  | some i =>
      { sessions := step sha256 c.sessions event, birth := Function.update c.birth i c.births, births := c.births + 1 }

/-- The sequence numbers tell the order in which the sessions were made. -/
structure Aged (c : Chronicle) : Prop extends Orderly c.sessions.table where
  older : ∀ i j, (c.sessions.table.persistent i).used = true → (c.sessions.table.persistent j).used = true →
    c.birth i < c.birth j → (c.sessions.table.persistent i).seq < (c.sessions.table.persistent j).seq
  born : ∀ i, (c.sessions.table.persistent i).used = true → c.birth i < c.births

theorem ageRank_lt {loaded : List PersistentSession} (hlength : loaded.length ≤ kMaxPersistentSessions)
    {i : Fin kMaxPersistentSessions} (hi : isLoaded loaded.length i = true) :
    ageRank loaded.length (loadedSlots loaded) i < loaded.length :=
  (Slots.rank_lt_card hi).trans_eq (card_isLoaded hlength)

/-- A new number for each rank orders the sessions by age. -/
theorem aged_of_renumbered {loaded : List PersistentSession} (hlength : loaded.length ≤ kMaxPersistentSessions)
    {c : Chronicle} (hslots : c.sessions.table.persistent = renumber loaded.length (loadedSlots loaded))
    (hseq : c.sessions.table.nextSeq = UInt32.ofNat loaded.length + 1)
    (hbirth : c.birth = ageRank loaded.length (loadedSlots loaded)) (hbirths : c.births = loaded.length) : Aged c := by
  have hslot : ∀ i, (c.sessions.table.persistent i).used = true → isLoaded loaded.length i = true
      ∧ (c.sessions.table.persistent i).seq.toNat = ageRank loaded.length (loadedSlots loaded) i + 1 := by
    intro i hused
    rw [hslots, used_renumber hlength, used_loadedSlots] at hused
    refine ⟨hused, ?_⟩
    have hrank := ageRank_lt hlength hused
    have hfew : loaded.length ≤ 8 := hlength
    rw [hslots, renumber_eq hlength hused, UInt32.toNat_ofNat', Nat.mod_eq_of_lt (by omega)]
  have hnext : c.sessions.table.nextSeq.toNat = loaded.length + 1 := by
    have hfew : loaded.length ≤ 8 := hlength
    rw [hseq, UInt32.toNat_add, UInt32.toNat_ofNat', UInt32.toNat_one]
    omega
  refine ⟨⟨?_, ?_⟩, ?_, ?_⟩
  · intro i j hi hj heq
    obtain ⟨hloadedi, hi⟩ := hslot i hi
    obtain ⟨hloadedj, hj⟩ := hslot j hj
    have hranks : ageRank loaded.length (loadedSlots loaded) i = ageRank loaded.length (loadedSlots loaded) j := by
      rw [heq] at hi
      omega
    by_contra hne
    have hbefore : Slots.Before (fun i => (loadedSlots loaded i).seq.toNat) i j ∨ Slots.Before _ j i :=
      Slots.before_total hne
    rcases hbefore with hbefore | hbefore
    · exact absurd hranks (Slots.rank_lt_rank hloadedi hbefore).ne
    · exact absurd hranks (Slots.rank_lt_rank hloadedj hbefore).ne'
  · intro i hi
    obtain ⟨hloaded, hi⟩ := hslot i hi
    have hrank := ageRank_lt hlength hloaded
    rw [UInt32.lt_iff_toNat_lt, hi, hnext]
    omega
  · intro i j hi hj hlt
    rw [hbirth] at hlt
    rw [UInt32.lt_iff_toNat_lt, (hslot i hi).2, (hslot j hj).2]
    omega
  · intro i hi
    rw [hbirth, hbirths]
    exact ageRank_lt hlength (hslot i hi).1

/-- Distinct stored numbers that leave room for the next one are kept. -/
theorem aged_of_kept_numbers {loaded : List PersistentSession} (hlength : loaded.length ≤ kMaxPersistentSessions)
    (hmax : maxSeq loaded ≠ 0xFFFFFFFF) (hduplicate : hasDuplicate loaded = false) {c : Chronicle}
    (hslots : c.sessions.table.persistent = loadedSlots loaded) (hseq : c.sessions.table.nextSeq = maxSeq loaded + 1)
    (hbirth : c.birth = ageRank loaded.length (loadedSlots loaded)) (hbirths : c.births = loaded.length) : Aged c := by
  have hloaded : ∀ i, (c.sessions.table.persistent i).used = true → isLoaded loaded.length i = true := by
    intro i hused
    rwa [hslots, used_loadedSlots] at hused
  have hdistinct : ∀ i j, isLoaded loaded.length i = true → isLoaded loaded.length j = true →
      (loadedSlots loaded i).seq = (loadedSlots loaded j).seq → i = j := by
    intro i j hi hj heq
    rw [loadedSlots_of_loaded (of_decide_eq_true hi), loadedSlots_of_loaded (of_decide_eq_true hj)] at heq
    exact Fin.ext (eq_of_seq_eq hduplicate (of_decide_eq_true hi) (of_decide_eq_true hj) heq)
  refine ⟨⟨?_, ?_⟩, ?_, ?_⟩
  · intro i j hi hj heq
    rw [hslots] at heq
    exact hdistinct i j (hloaded i hi) (hloaded j hj) heq
  · intro i hi
    have hlt := of_decide_eq_true (hloaded i hi)
    have hle := seq_le_maxSeq (List.getElem_mem hlt)
    rw [hslots, loadedSlots_of_loaded hlt, hseq]
    rw [UInt32.lt_iff_toNat_lt, toNat_next hmax]
    exact Nat.lt_succ_of_le hle
  · intro i j hi hj hlt
    rw [hbirth] at hlt
    have hbefore := (Slots.rank_lt_rank_iff (hloaded i hi) (hloaded j hj)).mp hlt
    rw [hslots]
    rcases hbefore with hless | ⟨heq, hindex⟩
    · exact UInt32.lt_iff_toNat_lt.mpr hless
    · have hsame := hdistinct i j (hloaded i hi) (hloaded j hj) (UInt32.toNat_inj.mp heq)
      exact absurd hindex (hsame ▸ lt_irrefl i)
  · intro i hi
    rw [hbirth, hbirths]
    exact ageRank_lt hlength (hloaded i hi)

theorem chronicleStart_aged (loaded : Option (List PersistentSession)) (saved : Bool) (s : Sessions) :
    Aged (chronicleStart loaded saved s) := by
  have hlength : ((loaded.getD []).take kMaxPersistentSessions).length ≤ kMaxPersistentSessions := List.length_take_le _ _
  by_cases hagain : maxSeq ((loaded.getD []).take kMaxPersistentSessions) = 0xFFFFFFFF
      ∨ hasDuplicate ((loaded.getD []).take kMaxPersistentSessions) = true
  · have hbegin : (begin loaded saved s).table.persistent
          = renumber ((loaded.getD []).take kMaxPersistentSessions).length
            (loadedSlots ((loaded.getD []).take kMaxPersistentSessions))
        ∧ (begin loaded saved s).table.nextSeq
          = UInt32.ofNat ((loaded.getD []).take kMaxPersistentSessions).length + 1 := by
      unfold begin
      dsimp only
      rw [if_pos hagain]
      cases saved with
      | false => exact ⟨rfl, rfl⟩
      | true => exact ⟨rfl, rfl⟩
    exact aged_of_renumbered hlength hbegin.1 hbegin.2 rfl rfl
  · have hbegin : (begin loaded saved s).table.persistent = loadedSlots ((loaded.getD []).take kMaxPersistentSessions)
        ∧ (begin loaded saved s).table.nextSeq = maxSeq ((loaded.getD []).take kMaxPersistentSessions) + 1 := by
      unfold begin
      dsimp only
      rw [if_neg hagain]
      exact ⟨rfl, rfl⟩
    rw [not_or, Bool.not_eq_true] at hagain
    exact aged_of_kept_numbers hlength hagain.1 hagain.2 hbegin.1 hbegin.2 rfl rfl

/-! ### Runs -/

theorem Aged.of_kept {c c' : Chronicle} (h : Aged c)
    (hslots : ∀ i, (c'.sessions.table.persistent i).used = true →
      c'.sessions.table.persistent i = c.sessions.table.persistent i)
    (hseq : c'.sessions.table.nextSeq = c.sessions.table.nextSeq) (hbirth : c'.birth = c.birth)
    (hbirths : c'.births = c.births) : Aged c' := by
  have hused : ∀ i, (c'.sessions.table.persistent i).used = true → (c.sessions.table.persistent i).used = true :=
    fun i hi => hslots i hi ▸ hi
  refine ⟨⟨?_, ?_⟩, ?_, ?_⟩
  · intro i j hi hj heq
    rw [hslots i hi, hslots j hj] at heq
    exact h.distinct i j (hused i hi) (hused j hj) heq
  · intro i hi
    rw [hslots i hi, hseq]
    exact h.below i (hused i hi)
  · intro i j hi hj hlt
    rw [hbirth] at hlt
    rw [hslots i hi, hslots j hj]
    exact h.older i j (hused i hi) (hused j hj) hlt
  · intro i hi
    rw [hbirth, hbirths]
    exact h.born i (hused i hi)

/-- A new session is the youngest and has the largest number, when there is one left. -/
theorem Aged.of_new {c c' : Chronicle} (h : Aged c) {target : Fin kMaxPersistentSessions} (hash : Digest)
    (hmax : c.sessions.table.nextSeq ≠ 0xFFFFFFFF)
    (htarget : c'.sessions.table.persistent target = ⟨hash, c.sessions.table.nextSeq, true⟩)
    (hslots : ∀ i ≠ target, (c'.sessions.table.persistent i).used = true →
      c'.sessions.table.persistent i = c.sessions.table.persistent i)
    (hseq : c'.sessions.table.nextSeq = c.sessions.table.nextSeq + 1)
    (hbirth : c'.birth = Function.update c.birth target c.births) (hbirths : c'.births = c.births + 1) : Aged c' := by
  have hnext : c'.sessions.table.nextSeq.toNat = c.sessions.table.nextSeq.toNat + 1 := by
    rw [hseq]
    exact toNat_next hmax
  have hused : ∀ i ≠ target, (c'.sessions.table.persistent i).used = true →
      (c.sessions.table.persistent i).used = true := fun i hne hi => hslots i hne hi ▸ hi
  have hbelow : ∀ i ≠ target, (c'.sessions.table.persistent i).used = true →
      (c'.sessions.table.persistent i).seq < c.sessions.table.nextSeq := by
    intro i hne hi
    rw [hslots i hne hi]
    exact h.below i (hused i hne hi)
  refine ⟨⟨?_, ?_⟩, ?_, ?_⟩
  · intro i j hi hj heq
    by_cases hit : i = target
    · by_cases hjt : j = target
      · rw [hit, hjt]
      · have hlt := hbelow j hjt hj
        rw [← heq, hit, htarget] at hlt
        exact absurd hlt (UInt32.lt_irrefl _)
    · by_cases hjt : j = target
      · have hlt := hbelow i hit hi
        rw [heq, hjt, htarget] at hlt
        exact absurd hlt (UInt32.lt_irrefl _)
      · rw [hslots i hit hi, hslots j hjt hj] at heq
        exact h.distinct i j (hused i hit hi) (hused j hjt hj) heq
  · intro i hi
    rw [UInt32.lt_iff_toNat_lt, hnext]
    by_cases hit : i = target
    · rw [hit, htarget]
      exact Nat.lt_succ_self _
    · have hlt := UInt32.lt_iff_toNat_lt.mp (hbelow i hit hi)
      omega
  · intro i j hi hj hlt
    rw [hbirth] at hlt
    by_cases hit : i = target
    · rw [hit, Function.update_self] at hlt
      by_cases hjt : j = target
      · rw [hjt, Function.update_self] at hlt
        exact absurd hlt (lt_irrefl _)
      · rw [Function.update_of_ne hjt] at hlt
        exact absurd (h.born j (hused j hjt hj)) (by omega)
    · by_cases hjt : j = target
      · rw [hjt, htarget]
        exact hbelow i hit hi
      · rw [Function.update_of_ne hit, Function.update_of_ne hjt] at hlt
        rw [hslots i hit hi, hslots j hjt hj]
        exact h.older i j (hused i hit hi) (hused j hjt hj) hlt
  · intro i hi
    rw [hbirth, hbirths]
    by_cases hit : i = target
    · rw [hit, Function.update_self]
      exact Nat.lt_succ_self _
    · rw [Function.update_of_ne hit]
      exact Nat.lt_succ_of_lt (h.born i (hused i hit hi))

/-- A call that makes a persistent session finds a number left for it. -/
def NumberLeft (sha256 : String → Digest) (c : Chronicle) (event : SessionEvent) : Prop :=
  (createdIn sha256 c.sessions event).isSome = true → c.sessions.table.nextSeq ≠ 0xFFFFFFFF

theorem chronicleStep_of_none {c : Chronicle} {event : SessionEvent} (h : createdIn sha256 c.sessions event = none) :
    chronicleStep sha256 c event = { c with sessions := step sha256 c.sessions event } := by
  unfold chronicleStep
  rw [h]

theorem chronicleStep_of_some {c : Chronicle} {event : SessionEvent} {i : Fin kMaxPersistentSessions}
    (h : createdIn sha256 c.sessions event = some i) :
    chronicleStep sha256 c event
      = { sessions := step sha256 c.sessions event, birth := Function.update c.birth i c.births, births := c.births + 1 } := by
  unfold chronicleStep
  rw [h]

theorem sessions_chronicleStep (c : Chronicle) (event : SessionEvent) :
    (chronicleStep sha256 c event).sessions = step sha256 c.sessions event := by
  unfold chronicleStep
  split
  · rfl
  · rfl

theorem chronicleStep_aged {c : Chronicle} {event : SessionEvent} (h : Aged c) (hnumber : NumberLeft sha256 c event) :
    Aged (chronicleStep sha256 c event) := by
  cases step_persistence sha256 c.sessions event with
  | same hcreated hslots hseq hstored =>
      rw [chronicleStep_of_none hcreated]
      exact h.of_kept (fun i _ => congrFun hslots i) hseq rfl rfl
  | added token htoken hcreated hslots hseq hstored =>
      rw [chronicleStep_of_some hcreated]
      refine h.of_new (sha256 token) (hnumber (by rw [hcreated]; rfl)) ?_ ?_ hseq rfl rfl
      · exact (congrFun hslots _).trans (Function.update_self _ _ _)
      · intro i hne _
        exact (congrFun hslots i).trans (Function.update_of_ne hne _ _)
  | removed k hcreated hslots hseq hstored =>
      rw [chronicleStep_of_none hcreated]
      refine h.of_kept ?_ hseq rfl rfl
      intro i hi
      dsimp only at hi ⊢
      by_cases hik : i = k
      · rw [hslots, hik, Function.update_self] at hi
        exact absurd hi Bool.false_ne_true
      · rw [hslots, Function.update_of_ne hik]
  | emptied hcreated hslots hseq hstored =>
      rw [chronicleStep_of_none hcreated]
      refine h.of_kept ?_ hseq rfl rfl
      intro i hi
      dsimp only at hi
      rw [hslots] at hi
      exact absurd hi Bool.false_ne_true
  | only token htoken hcreated hslots hseq hstored =>
      rw [chronicleStep_of_some hcreated]
      refine h.of_new (sha256 token) (hnumber (by rw [hcreated]; rfl)) ?_ ?_ hseq rfl rfl
      · exact (congrFun hslots _).trans (Function.update_self _ _ _)
      · intro i hne hi
        dsimp only at hi
        rw [hslots, Function.update_of_ne hne] at hi
        exact absurd hi Bool.false_ne_true

/-- Without a number left the next one is zero, below the one just given out. -/
theorem not_orderly_of_wrap {c : Chronicle} {event : SessionEvent} (h : ¬ NumberLeft sha256 c event) :
    ¬ Orderly (chronicleStep sha256 c event).sessions.table := by
  unfold NumberLeft at h
  rw [sessions_chronicleStep]
  obtain ⟨hcreated, hwrap⟩ : (createdIn sha256 c.sessions event).isSome = true
      ∧ c.sessions.table.nextSeq = 0xFFFFFFFF := by
    constructor
    · by_contra hnone
      exact h fun hsome => absurd hsome hnone
    · by_contra hne
      exact h fun _ => hne
  intro horderly
  have hnew : ∀ target token, (step sha256 c.sessions event).table.persistent target
      = ⟨sha256 token, c.sessions.table.nextSeq, true⟩ →
      (step sha256 c.sessions event).table.nextSeq = c.sessions.table.nextSeq + 1 → False := by
    intro target token htarget hseq
    have hlt := horderly.below target (by rw [htarget])
    rw [htarget, hseq, hwrap] at hlt
    dsimp only at hlt
    exact absurd hlt (by decide)
  cases step_persistence sha256 c.sessions event with
  | same hnone _ _ _ => simp [hnone] at hcreated
  | added token _ _ hslots hseq _ =>
      exact hnew _ token ((congrFun hslots _).trans (Function.update_self _ _ _)) hseq
  | removed k hnone _ _ _ => simp [hnone] at hcreated
  | emptied hnone _ _ _ => simp [hnone] at hcreated
  | only token _ _ hslots hseq _ =>
      exact hnew _ token ((congrFun hslots _).trans (Function.update_self _ _ _)) hseq

/-- A new persistent session in a full table takes the place of the oldest one. -/
def EvictsOldest (c : Chronicle) : SessionEvent → Prop
  | .create _ true _ _ => (∀ i, (c.sessions.table.persistent i).used = true) →
      ∀ i, c.birth c.sessions.table.pickPersistentSlot ≤ c.birth i
  | _ => True

theorem least_of_full {table : SessionTable} (hfull : ∀ i, (table.persistent i).used = true)
    (i : Fin kMaxPersistentSessions) :
    (table.persistent table.pickPersistentSlot).seq ≤ (table.persistent i).seq := by
  have hfree : Slots.first (fun i => !(table.persistent i).used) = none := by
    rw [Slots.first_eq_none_iff]
    intro j
    rw [hfull j]
    rfl
  unfold pickPersistentSlot
  rw [hfree]
  dsimp only
  cases hleast : Slots.least (fun _ => true) fun i => (table.persistent i).seq.toNat with
  | none => exact absurd (Slots.least_eq_none_iff.mp hleast 0) (by simp)
  | some j => exact Slots.least_le hleast rfl

theorem Aged.evictsOldest {c : Chronicle} (h : Aged c) (event : SessionEvent) : EvictsOldest c event := by
  unfold EvictsOldest
  split
  · intro hfull i
    by_contra hlt
    have hseq := h.older i _ (hfull i) (hfull _) (not_le.mp hlt)
    have hle := least_of_full hfull i
    rw [UInt32.le_iff_toNat_le] at hle
    rw [UInt32.lt_iff_toNat_lt] at hseq
    omega
  · trivial

/-- The table is in order after a load, and stays so with the oldest session giving way exactly as long as the numbers last. -/
theorem eviction_in_order_iff (loaded : Option (List PersistentSession)) (saved : Bool) (s : Sessions)
    (events : List SessionEvent) :
    (Orderly (begin loaded saved s).table
        ∧ Along (fun c event => EvictsOldest c event ∧ Orderly (chronicleStep sha256 c event).sessions.table)
          (chronicleStep sha256) (chronicleStart loaded saved s) events)
      ↔ Along (NumberLeft sha256) (chronicleStep sha256) (chronicleStart loaded saved s) events := by
  have hstart := chronicleStart_aged loaded saved s
  constructor
  · rintro ⟨-, hevents⟩
    refine along_imp (fun _ => True) trivial ?_ events hevents
    intro c event _ hevent
    refine ⟨?_, trivial⟩
    by_contra hnone
    exact not_orderly_of_wrap hnone hevent.2
  · intro hevents
    refine ⟨hstart.toOrderly, along_imp Aged hstart ?_ events hevents⟩
    intro c event haged hevent
    have hafter := chronicleStep_aged haged hevent
    exact ⟨⟨haged.evictsOldest event, hafter.toOrderly⟩, hafter⟩

/-- One stored session with the last number but one. -/
def lastNumbers : Option (List PersistentSession) := some [⟨textDigest (hexToken (rawToken 1)), 0xFFFFFFFE⟩]

/-- The number after the last one is zero: the session made last is then the first to give way. -/
theorem eviction_out_of_order :
    ¬ (Orderly (begin lastNumbers true { table := initial, stored := [] }).table
      ∧ Along (fun c event => EvictsOldest c event ∧ Orderly (chronicleStep textDigest c event).sessions.table)
        (chronicleStep textDigest) (chronicleStart lastNumbers true { table := initial, stored := [] })
        [.create 0 true (rawToken 2) true]) := by
  rintro ⟨-, ⟨-, horderly⟩, -⟩
  exact absurd (horderly.below 1 (by decide +kernel)) (by decide +kernel)

end EspNut.SessionTable
