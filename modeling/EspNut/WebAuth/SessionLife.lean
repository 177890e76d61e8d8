import EspNut.WebAuth.OpenSessions
import EspNut.WebAuth.Expiry

/-!
# A session that is used

A volatile session stays alive as long as it is used at least every half hour, a persistent one for good. Neither is touched by the calls of others, unless they close all sessions or a new session takes its slot.
-/

namespace EspNut

open Lib

namespace SessionTable

/-- The new session takes another slot than one of the digest. -/
def Spares (table : SessionTable) (persistent : Bool) (now : UInt32) (hash : Digest) : Prop :=
  if persistent = true then holdsPersistent table hash table.pickPersistentSlot = false
  else holdsVolatile table hash (table.pickSlot now) = false

instance (table : SessionTable) (persistent : Bool) (now : UInt32) (hash : Digest) : Decidable (Spares table persistent now hash) :=
  inferInstanceAs (Decidable (if persistent = true then _ else _))

/-- The only volatile session of a digest, used last between two times. -/
structure UsedLast (table : SessionTable) (hash : Digest) (usedAt now : Nat) (i : Fin kMaxSessions) : Prop where
  holds : holdsVolatile table hash i = true
  seen : ∃ time, usedAt ≤ time ∧ time ≤ now ∧ (table.slots i).lastSeenMs = Clock.millis time
  only : ∀ j, holdsVolatile table hash j = true → j = i

/-- A session that is alive: a remembered one is persistent, another one was used not long ago. -/
structure Lives (remember : Bool) (table : SessionTable) (hash : Digest) (usedAt now : Nat) : Prop where
  alive : (∃ i, holdsPersistent table hash i = true) ∨ ∃ i, UsedLast table hash usedAt now i
  remembered : remember = true → ∃ i, holdsPersistent table hash i = true

variable {sha256 : String → Digest} {table : SessionTable} {token : String} {hash : Digest} {usedAt now time : Nat}
  {remember : Bool} {i : Fin kMaxSessions}

theorem UsedLast.mono (h : UsedLast table hash usedAt now i) (hpast : now ≤ time) : UsedLast table hash usedAt time i := by
  obtain ⟨seen, hafter, hbefore, hseen⟩ := h.seen
  exact ⟨h.holds, ⟨seen, hafter, hbefore.trans hpast, hseen⟩, h.only⟩

theorem Lives.mono (h : Lives remember table hash usedAt now) (hpast : now ≤ time) : Lives remember table hash usedAt time :=
  ⟨h.alive.imp_right fun ⟨i, hlast⟩ => ⟨i, hlast.mono hpast⟩, h.remembered⟩

theorem UsedLast.update (h : UsedLast table hash usedAt now i) {k : Fin kMaxSessions} (hne : k ≠ i) (slot : Slot)
    (hother : slot.used = true → slot.hash ≠ hash) :
    UsedLast { table with slots := Function.update table.slots k slot } hash usedAt now i := by
  have hkept : Function.update table.slots k slot i = table.slots i := Function.update_of_ne hne.symm ..
  refine ⟨?_, ?_, fun j hj => ?_⟩
  · have hholds := holdsVolatile_iff.mp h.holds
    exact holdsVolatile_iff.mpr (by dsimp only; rw [hkept]; exact hholds)
  · dsimp only
    rw [hkept]
    exact h.seen
  · have hj := holdsVolatile_iff.mp hj
    dsimp only at hj
    by_cases heq : j = k
    · subst heq
      rw [Function.update_self] at hj
      exact absurd hj.2 (hother hj.1)
    · rw [Function.update_of_ne heq] at hj
      exact h.only j (holdsVolatile_iff.mpr hj)

theorem UsedLast.again (h : UsedLast table hash usedAt now i) (time : Nat) :
    UsedLast { table with slots := Function.update table.slots i { table.slots i with lastSeenMs := Clock.millis time } }
      hash time time i := by
  have hslot : Function.update table.slots i { table.slots i with lastSeenMs := Clock.millis time } i
      = { table.slots i with lastSeenMs := Clock.millis time } := Function.update_self ..
  refine ⟨?_, ⟨time, le_rfl, le_rfl, ?_⟩, fun j hj => ?_⟩
  · have hholds := holdsVolatile_iff.mp h.holds
    exact holdsVolatile_iff.mpr (by dsimp only; rw [hslot]; exact hholds)
  · dsimp only
    rw [hslot]
  · by_contra hne
    have hj := holdsVolatile_iff.mp hj
    dsimp only at hj
    rw [Function.update_of_ne hne] at hj
    exact hne (h.only j (holdsVolatile_iff.mpr hj))

theorem UsedLast.fresh (h : UsedLast table hash usedAt now i) (hpast : now ≤ time) (hbusy : time < usedAt + 1800000) :
    ¬ isExpired (table.slots i) (Clock.millis time) = true := by
  obtain ⟨seen, hafter, hbefore, hseen⟩ := h.seen
  unfold isExpired
  rw [hseen, decide_eq_true_iff]
  intro hidle
  have hpassed := Clock.passed_of_le (hbefore.trans hpast) hidle
  have hspan : kIdleTimeoutMs.toNat = 1800000 := by decide
  omega

/-- A volatile slot that is found and not idle is the one used last, if it has its digest. -/
theorem UsedLast.validate (h : UsedLast table hash usedAt now i) (hpast : now ≤ time) (hbusy : time < usedAt + 1800000)
    (token : String) : UsedLast (validate sha256 token (Clock.millis time) table).2 hash usedAt time i := by
  unfold SessionTable.validate
  split
  · exact h.mono hpast
  · exact h.mono hpast
  · rename_i k hfound
    by_cases heq : k = i
    · subst heq
      rw [if_neg (h.fresh hpast hbusy)]
      have hagain := h.again time
      obtain ⟨seen, hafter, hbefore, -⟩ := h.seen
      refine ⟨hagain.holds, ?_, hagain.only⟩
      obtain ⟨again, htime, hsame, hseen⟩ := hagain.seen
      exact ⟨again, (hafter.trans (hbefore.trans hpast)).trans htime, hsame, hseen⟩
    · have hother : (table.slots k).used = true → (table.slots k).hash ≠ hash := fun hused hhash =>
        heq (h.only k (holdsVolatile_iff.mpr ⟨hused, hhash⟩))
      split
      · exact (h.update heq Slot.zero fun hused => absurd hused Bool.false_ne_true).mono hpast
      · exact (h.update heq { table.slots k with lastSeenMs := Clock.millis time } hother).mono hpast

variable (sha256) in
theorem Lives.validate (h : Lives remember table hash usedAt now) (hpast : now ≤ time)
    (hbusy : remember = true ∨ time < usedAt + 1800000) (token : String) :
    Lives remember (validate sha256 token (Clock.millis time) table).2 hash usedAt time := by
  have hpersistent : (∃ i, holdsPersistent table hash i = true) →
      ∃ i, holdsPersistent (SessionTable.validate sha256 token (Clock.millis time) table).2 hash i = true := by
    rintro ⟨i, hi⟩
    refine ⟨i, ?_⟩
    rw [holdsPersistent_iff, (validate_persistence sha256 token (Clock.millis time) table).1]
    exact holdsPersistent_iff.mp hi
  refine ⟨?_, fun hremember => hpersistent (h.remembered hremember)⟩
  rcases hbusy with hremember | hbusy
  · exact Or.inl (hpersistent (h.remembered hremember))
  · exact h.alive.imp hpersistent fun ⟨i, hlast⟩ => ⟨i, hlast.validate hpast hbusy token⟩

/-- The check of its own token succeeds, and uses the session. -/
theorem Lives.used (h : Lives remember table (sha256 token) usedAt now) (hlength : token.toList.length = kTokenLength)
    (hpast : now ≤ time) (hbusy : remember = true ∨ time < usedAt + 1800000) :
    (SessionTable.validate sha256 token (Clock.millis time) table).1 = true
      ∧ Lives remember (SessionTable.validate sha256 token (Clock.millis time) table).2 (sha256 token) time time := by
  have hafter := h.validate sha256 hpast hbusy token
  by_cases hpersistent : ∃ i, holdsPersistent table (sha256 token) i = true
  · obtain ⟨i, hi⟩ := (exists_findSlot_persistent_iff hlength).mpr hpersistent
    refine ⟨?_, Or.inl ?_, hafter.remembered⟩
    · unfold SessionTable.validate
      rw [hi]
    · unfold SessionTable.validate
      rw [hi]
      exact hpersistent
  · obtain ⟨i, hlast⟩ := h.alive.resolve_left hpersistent
    have hbusy := hbusy.resolve_left fun hremember => hpersistent (h.remembered hremember)
    have hfound : findSlot sha256 table token = some (.volatile i) := by
      obtain ⟨index, hindex⟩ := exists_findSlot_of_volatile hlength hlast.holds
      cases index with
      | persistent j => exact absurd ⟨j, findSlot_persistent hindex⟩ hpersistent
      | volatile j => rw [hindex, hlast.only j (findSlot_volatile hindex).1]
    have hagain := hlast.again time
    refine ⟨?_, Or.inr ⟨i, ?_⟩, hafter.remembered⟩
    · unfold SessionTable.validate
      rw [hfound]
      dsimp only
      rw [if_neg (hlast.fresh hpast hbusy)]
    · unfold SessionTable.validate
      rw [hfound]
      dsimp only
      rw [if_neg (hlast.fresh hpast hbusy)]
      exact hagain

theorem Lives.create (h : Lives remember table hash usedAt now) (persistent : Bool) (raw : Fin kTokenBytes → Byte)
    (saved : Bool) {s : Sessions} (htable : s.table = table) {clock : UInt32} (hother : sha256 (hexToken raw) ≠ hash)
    (hspared : Spares table persistent clock hash) :
    Lives remember (create sha256 clock persistent raw saved s).2.table hash usedAt now := by
  subst htable
  unfold SessionTable.create
  cases persistent with
  | false =>
      have hspared : holdsVolatile s.table hash (s.table.pickSlot clock) = false := hspared
      refine ⟨h.alive.imp_right fun ⟨i, hlast⟩ => ⟨i, hlast.update ?_ _ fun _ => hother⟩, h.remembered⟩
      rintro rfl
      exact nomatch hspared.symm.trans hlast.holds
  | true =>
      have hspared : holdsPersistent s.table hash s.table.pickPersistentSlot = false := hspared
      have hpersistent : (∃ i, holdsPersistent s.table hash i = true) →
          ∃ i, holdsPersistent (s.table.addPersistent (sha256 (hexToken raw))) hash i = true := by
        rintro ⟨i, hi⟩
        refine ⟨i, ?_⟩
        have hne : i ≠ s.table.pickPersistentSlot := by
          rintro rfl
          exact nomatch hspared.symm.trans hi
        have hkept : (s.table.addPersistent (sha256 (hexToken raw))).persistent i = s.table.persistent i :=
          Function.update_of_ne hne ..
        rw [holdsPersistent_iff, hkept]
        exact holdsPersistent_iff.mp hi
      dsimp only
      rw [if_pos rfl, savePersistent_table]
      exact ⟨h.alive.imp hpersistent fun ⟨i, hlast⟩ => ⟨i, hlast.holds, hlast.seen, hlast.only⟩,
        fun hremember => hpersistent (h.remembered hremember)⟩

theorem Lives.remove {s : Sessions} (h : Lives remember s.table hash usedAt now) (hother : sha256 token ≠ hash) (saved : Bool) :
    Lives remember (remove sha256 token saved s).2.table hash usedAt now := by
  unfold SessionTable.remove
  split
  · exact h
  · rename_i k hfound
    have hhash := (holdsPersistent_iff.mp (findSlot_persistent hfound)).2
    have hpersistent : (∃ i, holdsPersistent s.table hash i = true) →
        ∃ i, holdsPersistent { s.table with persistent := Function.update s.table.persistent k PersistentSlot.zero } hash i = true := by
      rintro ⟨i, hi⟩
      refine ⟨i, ?_⟩
      have hne : i ≠ k := by
        rintro rfl
        exact hother (hhash.symm.trans (holdsPersistent_iff.mp hi).2)
      rw [holdsPersistent_iff]
      dsimp only
      rw [Function.update_of_ne hne]
      exact holdsPersistent_iff.mp hi
    dsimp only
    rw [savePersistent_table]
    exact ⟨h.alive.imp hpersistent fun ⟨i, hlast⟩ => ⟨i, hlast.holds, hlast.seen, hlast.only⟩,
      fun hremember => hpersistent (h.remembered hremember)⟩
  · rename_i k hfound
    have hhash := (holdsVolatile_iff.mp (findSlot_volatile hfound).1).2
    refine ⟨h.alive.imp_right fun ⟨i, hlast⟩ => ⟨i, hlast.update ?_ Slot.zero fun hused => absurd hused Bool.false_ne_true⟩, h.remembered⟩
    rintro rfl
    exact hother (hhash.symm.trans (holdsVolatile_iff.mp hlast.holds).2)

theorem clear_of_fails {saved : Bool} {s : Sessions} (h : (clear saved s).1 = false) : (clear saved s).2 = s := by
  cases saved with
  | false => rfl
  | true => exact nomatch h

theorem rotateExclusive_of_fails {clock : UInt32} {raw : Fin kTokenBytes → Byte} {saved : Bool} {s : Sessions}
    (h : (rotateExclusive sha256 token clock raw saved s).1.ok = false) : (rotateExclusive sha256 token clock raw saved s).2 = s := by
  cases hfound : findSlot sha256 s.table token with
  | none =>
      rw [rotateExclusive_of_none hfound] at h ⊢
      exact clear_of_fails h
  | some index =>
      by_cases hsaved : rotationSaved index.isPersistent saved s.table = false
      · rw [rotateExclusive_of_not_saved hfound hsaved]
      · rw [rotateExclusive_of_saved hfound hsaved] at h
        exact nomatch h

variable (sha256) in
theorem lives_created (time : Nat) (remember : Bool) (raw : Fin kTokenBytes → Byte) (saved : Bool) (s : Sessions)
    (hfresh : ¬ Held s.table (sha256 (hexToken raw))) :
    Lives remember (create sha256 (Clock.millis time) remember raw saved s).2.table (sha256 (hexToken raw)) time time := by
  unfold SessionTable.create
  cases remember with
  | true =>
      have hslot : (s.table.addPersistent (sha256 (hexToken raw))).persistent s.table.pickPersistentSlot
          = ⟨sha256 (hexToken raw), s.table.nextSeq, true⟩ := Function.update_self ..
      have hheld : ∃ i, holdsPersistent (s.table.addPersistent (sha256 (hexToken raw))) (sha256 (hexToken raw)) i = true := by
        refine ⟨s.table.pickPersistentSlot, holdsPersistent_iff.mpr ?_⟩
        rw [hslot]
        exact ⟨rfl, rfl⟩
      dsimp only
      rw [if_pos rfl, savePersistent_table]
      exact ⟨Or.inl hheld, fun _ => hheld⟩
  | false =>
      have hslot : (s.table.addVolatile (sha256 (hexToken raw)) (Clock.millis time)).slots (s.table.pickSlot (Clock.millis time))
          = ⟨sha256 (hexToken raw), Clock.millis time, true⟩ := Function.update_self ..
      refine ⟨Or.inr ⟨s.table.pickSlot (Clock.millis time), ?_, ⟨time, le_rfl, le_rfl, congrArg Slot.lastSeenMs hslot⟩, fun j hj => ?_⟩,
        nofun⟩
      · rw [holdsVolatile_iff]
        exact hslot ▸ ⟨rfl, rfl⟩
      · by_contra hne
        have hkept : (s.table.addVolatile (sha256 (hexToken raw)) (Clock.millis time)).slots j = s.table.slots j :=
          Function.update_of_ne hne ..
        have hj := holdsVolatile_iff.mp hj
        dsimp only at hj
        rw [if_neg Bool.false_ne_true] at hj
        rw [hkept] at hj
        exact hfresh (Or.inl ⟨j, holdsVolatile_iff.mpr hj⟩)

end SessionTable

namespace AuthService

/-- A call does not close the session of a digest, and a session it gives out has another digest and takes another slot. -/
structure Undisturbed (sha256 : String → Digest) (hash : Digest) (before : AuthService) (event : AuthEvent)
    (outcome : AuthOutcome) : Prop where
  kept : remaining sha256 event outcome [hash] = [hash]
  spared : ∀ token persistent, cookie outcome = .session token persistent →
    sha256 token ≠ hash ∧ SessionTable.Spares before.sessions.table persistent (Clock.millis event.time) hash

variable {deserialize : List String → String → Option JsonBody} {sha256 : String → Digest} {before : AuthService}
  {event : AuthEvent} {hash : Digest} {usedAt now : Nat} {remember : Bool}

theorem lives_handle (hstation : Station event) (h : SessionTable.Lives remember before.sessions.table hash usedAt now)
    (hpast : now ≤ event.time) (hbusy : remember = true ∨ event.time < usedAt + 1800000)
    (hundisturbed : Undisturbed sha256 hash before event (handle deserialize sha256 before event)) :
    SessionTable.Lives remember (handle deserialize sha256 before event).service.sessions.table hash usedAt event.time := by
  have hlater := h.mono hpast
  have hkept := hundisturbed.kept
  rcases tableCalls deserialize sha256 before hstation with ⟨token, hcall, hsessions, -⟩ | ⟨hcall, hcalls⟩
  · unfold remaining at hkept
    rw [hcall] at hkept
    dsimp only at hkept
    rw [hsessions]
    show SessionTable.Lives remember (SessionTable.remove sha256 token event.platform.sessionsSaved before.sessions).2.table hash
      usedAt event.time
    by_cases hlength : token.toList.length = SessionTable.kTokenLength
    · refine hlater.remove (fun hsame => ?_) _
      rw [if_pos hlength, hsame, List.erase_cons_head] at hkept
      exact nomatch hkept
    · rw [SessionTable.remove_of_length hlength]
      exact hlater
  · rw [remaining_eq hcall] at hkept
    have hopen : closesAll event (handle deserialize sha256 before event) = false := by
      refine eq_false_of_ne_true fun hcloses => ?_
      rw [if_pos hcloses] at hkept
      exact nomatch hkept
    generalize handle deserialize sha256 before event = outcome at hcalls hopen hundisturbed ⊢
    cases hcalls with
    | none hsessions hissued hcloses =>
        rw [hsessions]
        exact hlater
    | checked token hsessions hissued hcloses =>
        rw [hsessions]
        exact h.validate sha256 hpast hbusy token
    | created persistent hsessions hcookie hcloses =>
        obtain ⟨hother, hspared⟩ := hundisturbed.spared _ _ hcookie
        rw [hsessions]
        exact hlater.create persistent _ _ rfl hother hspared
    | reset hsessions hcookie hcloses =>
        obtain ⟨hother, hspared⟩ := hundisturbed.spared _ _ hcookie
        rw [hsessions, SessionTable.clear_of_fails (hcloses.symm.trans hopen)]
        exact hlater.create false _ _ rfl hother hspared
    | changed token rotated hrotated hsessions hissued hcloses =>
        have hfails := hcloses.symm.trans hopen
        subst hrotated
        rw [hsessions, SessionTable.rotateExclusive_of_fails hfails]
        exact h.validate sha256 hpast hbusy token
    | cleared hsessions hissued hcloses =>
        rw [hsessions, SessionTable.clear_of_fails (hcloses.symm.trans hopen)]
        exact hlater

end AuthService

end EspNut
