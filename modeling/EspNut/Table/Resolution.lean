import EspNut.Table.Bind
import EspNut.Lib.Run

/-!
# Which row publishes a name

`resolve` gives each row of a name the role its result and the results before it have in the election of `Lib.Election`, provided the first bound row of the name is one that publishes it. Every step of a run keeps this, so the active row is the first that converted, whatever the order of the reports.
-/

namespace EspNut.NutTable

open Lib Rounding

/-! ### The roles as an election -/

/-- What the roles depend on: the row and its first result. -/
abbrev Vote : Type := HidInfo × First

def votes (binds : List Bound) : List Vote := binds.map fun b => (b.info, b.first)

def publishes (info : HidInfo) (name : String) : Bool :=
  isPublishedRow info && decide (info.infoType = name)

/-- The results of the rows before an index that publish the name. -/
def earlier (vs : List Vote) (k : Nat) (name : String) : List First :=
  ((vs.take k).filter fun vote => publishes vote.1 name).map Prod.snd

/-- The row at an index publishes the name and no row of the name, of any kind, precedes it. -/
def heads (vs : List Vote) (i : Nat) (name : String) : Bool :=
  (vs[i]?.any fun vote => publishes vote.1 name)
    && !(vs.take i).any fun vote => vote.1.infoType = name

/-- The first row of the name, of any kind, publishes it. -/
def leads (infos : List HidInfo) (name : String) : Bool :=
  (infos.find? fun info => info.infoType = name).any isPublishedRow

def Bound.elected (b : Bound) (vs : List Vote) (k : Nat) : Bound :=
  { b with role := Election.roleOf (earlier vs k b.info.infoType) b.first }

theorem not_isPublishedRow {info : HidInfo} :
    (isInternalRow info || isCommandRow info) = true ↔ isPublishedRow info = false := by
  unfold isPublishedRow
  cases isInternalRow info <;> cases isCommandRow info <;> simp

theorem earlier_cons_succ (vote : Vote) (vs : List Vote) (k : Nat) (name : String) :
    earlier (vote :: vs) (k + 1) name
      = (if publishes vote.1 name then [vote.2] else []) ++ earlier vs k name := by
  unfold earlier
  rw [List.take_succ_cons, List.filter_cons]
  split <;> simp

/-- The flags of the inner loop after the results before. -/
def Blocked (before : List First) : Bool := before.find? (· ≠ .fail) = some .unread

def Decided (before : List First) : Bool := before.find? (· ≠ .fail) = some .ok

theorem find_lead_snoc (before : List First) (own : First) :
    (before ++ [own]).find? (· ≠ .fail)
      = (before.find? (· ≠ .fail)).or (if own = .fail then none else some own) := by
  rw [List.find?_append]
  cases own <;> simp

theorem lead_ne_fail {before : List First} {lead : First}
    (h : before.find? (· ≠ .fail) = some lead) : lead ≠ .fail := by
  simpa using List.find?_some h

/-- One round of the inner loop: a row of the group is elected and its result counts for the next ones. -/
theorem resolveGroup_cons (name : String) (before : List First) (b : Bound) (rest : List Bound) :
    resolveGroup name (Blocked before) (Decided before) (b :: rest)
      = (if publishes b.info name then { b with role := Election.roleOf before b.first } else b)
        :: resolveGroup name (Blocked (before ++ if publishes b.info name then [b.first] else []))
            (Decided (before ++ if publishes b.info name then [b.first] else [])) rest := by
  by_cases hpublished : isPublishedRow b.info = true
  · have hkind : (isInternalRow b.info || isCommandRow b.info) = false := by
      rw [← Bool.not_eq_true, not_isPublishedRow]
      simp [hpublished]
    by_cases hname : b.info.infoType = name
    · have hpub : publishes b.info name = true := by simp [publishes, hpublished, hname]
      rw [resolveGroup, if_neg (by simp [hkind]), if_neg (by simp [hname]), if_pos hpub, if_pos hpub]
      unfold Blocked Decided
      simp only [find_lead_snoc]
      unfold Election.roleOf
      cases hlead : before.find? (· ≠ .fail) with
      | none => cases hfirst : b.first <;> simp
      | some lead =>
          have hne := lead_ne_fail hlead
          cases lead with
          | unread => cases hfirst : b.first <;> simp
          | ok => cases hfirst : b.first <;> simp
          | fail => exact absurd rfl hne
    · have hpub : publishes b.info name = false := by simp [publishes, hname]
      rw [resolveGroup, if_neg (by simp [hkind]), if_pos hname]
      simp [hpub]
  · have hpub : publishes b.info name = false := by simp [publishes, hpublished]
    rw [resolveGroup, if_pos (not_isPublishedRow.mpr (by simpa using hpublished))]
    simp [hpub]

/-- The inner loop gives every row of the group its role in the election. -/
theorem getElem?_resolveGroup (name : String) (binds : List Bound) (before : List First) (k : Nat) :
    (resolveGroup name (Blocked before) (Decided before) binds)[k]?
      = binds[k]?.map fun b =>
          if publishes b.info name then
            { b with role := Election.roleOf (before ++ earlier (votes binds) k name) b.first }
          else b := by
  induction binds generalizing before k with
  | nil => simp [resolveGroup]
  | cons b rest ih =>
      rw [resolveGroup_cons]
      cases k with
      | zero => simp [earlier]
      | succ k =>
          rw [List.getElem?_cons_succ, ih, List.getElem?_cons_succ]
          simp only [votes, List.map_cons, earlier_cons_succ, List.append_assoc]

/-- Rows before the first one of the name count for nothing. -/
theorem earlier_drop {vs : List Vote} {i : Nat} {name : String}
    (h : (vs.take i).any (fun vote => vote.1.infoType = name) = false) (k : Nat) :
    earlier (vs.drop i) k name = earlier vs (i + k) name := by
  unfold earlier
  rw [List.take_add, List.filter_append]
  have hnone : (vs.take i).filter (fun vote => publishes vote.1 name) = [] := by
    apply List.filter_eq_nil_iff.mpr
    intro vote hvote
    have := List.any_eq_false.mp h vote hvote
    simp only [decide_eq_true_eq] at this
    simp [publishes, this]
  rw [hnone, List.nil_append]

theorem heads_of_getElem? {binds : List Bound} {i : Nat} {h : Bound} (hi : binds[i]? = some h)
    (name : String) :
    heads (votes binds) i name
      = (publishes h.info name && !(binds.take i).any fun e => e.info.infoType = name) := by
  unfold heads votes
  rw [← List.map_take, List.any_map]
  simp [hi]
  rfl

/-- One round of the outer loop. -/
theorem getElem?_resolveAt (binds : List Bound) (i k : Nat) :
    (resolveAt binds i)[k]?
      = binds[k]?.map fun b =>
          if isPublishedRow b.info && heads (votes binds) i b.info.infoType then
            b.elected (votes binds) k
          else b := by
  have hkeep : (∀ name, heads (votes binds) i name = false) →
      binds[k]? = binds[k]?.map fun b =>
        if isPublishedRow b.info && heads (votes binds) i b.info.infoType then
          b.elected (votes binds) k
        else b := by
    intro hnone
    simp [hnone]
  unfold resolveAt
  cases hi : binds[i]? with
  | none =>
      apply hkeep
      intro name
      simp [heads, votes, hi]
  | some h =>
      have hheads := heads_of_getElem? hi
      dsimp only
      by_cases hkind : isPublishedRow h.info = true
      · rw [if_neg (by rw [not_isPublishedRow]; simp [hkind])]
        by_cases hany : ((binds.take i).any fun e => e.info.infoType = h.info.infoType) = true
        · rw [if_pos hany]
          apply hkeep
          intro name
          rw [hheads]
          by_cases hname : h.info.infoType = name
          · subst hname
            rw [hany]
            simp
          · simp [publishes, hname]
        · rw [if_neg hany]
          have hfirst : (binds.take i).any (fun e => e.info.infoType = h.info.infoType) = false := by
            simpa using hany
          have hlead : ∀ name, heads (votes binds) i name = decide (h.info.infoType = name) := by
            intro name
            rw [hheads]
            by_cases hname : h.info.infoType = name
            · subst hname
              rw [hfirst]
              simp [publishes, hkind]
            · simp [publishes, hname]
          have hilen : i < binds.length := by
            have := List.getElem?_eq_some_iff.mp hi
            exact this.1
          simp only [hlead]
          by_cases hk : k < i
          · rw [List.getElem?_append_left (by simp; omega), List.getElem?_take_of_lt hk]
            cases hb : binds[k]? with
            | none => rfl
            | some b =>
                have hmem : b ∈ binds.take i := by
                  apply List.mem_of_getElem? (i := k)
                  rw [List.getElem?_take_of_lt hk, hb]
                have hne : ¬h.info.infoType = b.info.infoType := by
                  have := List.any_eq_false.mp hfirst b hmem
                  simp only [decide_eq_true_eq] at this
                  exact fun heq => this heq.symm
                simp [hne]
          · obtain ⟨m, rfl⟩ := Nat.exists_eq_add_of_le (Nat.le_of_not_lt hk)
            have hvotes : (votes binds).drop i = votes (binds.drop i) := List.map_drop.symm
            have hvfirst : ((votes binds).take i).any (fun vote => vote.1.infoType = h.info.infoType)
                = false := by
              unfold votes
              rw [← List.map_take, List.any_map]
              exact hfirst
            rw [List.getElem?_append_right (by simp), List.length_take, Nat.min_eq_left hilen.le,
              Nat.add_sub_cancel_left]
            have hgroup := getElem?_resolveGroup h.info.infoType (binds.drop i) [] m
            rw [List.nil_append] at hgroup
            rw [show resolveGroup h.info.infoType false false (binds.drop i)
              = resolveGroup h.info.infoType (Blocked []) (Decided []) (binds.drop i) from rfl, hgroup,
              List.getElem?_drop, ← hvotes, earlier_drop hvfirst]
            cases hb : binds[i + m]? with
            | none => rfl
            | some b =>
                by_cases hname : h.info.infoType = b.info.infoType
                · simp [publishes, hname, Bound.elected]
                · simp [publishes, hname, Ne.symm hname]
      · rw [if_pos (not_isPublishedRow.mpr (by simpa using hkind))]
        apply hkeep
        intro name
        rw [hheads]
        simp [publishes, hkind]

@[simp] theorem votes_resolveAt (binds : List Bound) (i : Nat) :
    votes (resolveAt binds i) = votes binds := by
  apply List.ext_getElem?
  intro k
  unfold votes
  rw [List.getElem?_map, List.getElem?_map, getElem?_resolveAt]
  cases binds[k]? with
  | none => rfl
  | some b =>
      simp only [Option.map_some]
      split <;> rfl

theorem getElem?_foldl_resolveAt (is : List Nat) (binds : List Bound) (k : Nat) :
    (is.foldl resolveAt binds)[k]?
      = binds[k]?.map fun b =>
          if isPublishedRow b.info && is.any fun i => heads (votes binds) i b.info.infoType then
            b.elected (votes binds) k
          else b := by
  induction is generalizing binds with
  | nil => simp
  | cons i is ih =>
      rw [List.foldl_cons, ih, votes_resolveAt, getElem?_resolveAt]
      cases binds[k]? with
      | none => rfl
      | some b =>
          simp only [Option.map_some, List.any_cons]
          by_cases hpub : isPublishedRow b.info = true
          · by_cases hi : heads (votes binds) i b.info.infoType = true
            · simp [hpub, hi, Bound.elected]
            · simp [hpub, hi]
          · simp [hpub]

/-- Some row heads the name exactly when its first row publishes it. -/
theorem any_heads (vs : List Vote) (name : String) :
    ((List.range vs.length).any fun i => heads vs i name) = leads (vs.map Prod.fst) name := by
  rw [Bool.eq_iff_iff, List.any_eq_true]
  unfold leads
  rw [Option.any_eq_true]
  constructor
  · intro ⟨i, _, hheads⟩
    unfold heads at hheads
    rw [Bool.and_eq_true, Option.any_eq_true] at hheads
    obtain ⟨⟨vote, hvote, hpub⟩, hnone⟩ := hheads
    unfold publishes at hpub
    rw [Bool.and_eq_true, decide_eq_true_eq] at hpub
    refine ⟨vote.1, ?_, hpub.1⟩
    rw [List.find?_eq_some_iff_getElem]
    obtain ⟨hi, hget⟩ := List.getElem?_eq_some_iff.mp hvote
    refine ⟨by simp [hpub.2], i, by simpa using hi, by simp [hget], ?_⟩
    intro j hj
    have hmem : vs[j] ∈ vs.take i := List.mem_take_iff_getElem.mpr ⟨j, by omega, rfl⟩
    simp only [Bool.not_eq_true', List.any_eq_false] at hnone
    have := hnone _ hmem
    simpa using this
  · intro ⟨info, hfind, hpub⟩
    rw [List.find?_eq_some_iff_getElem] at hfind
    obtain ⟨hname, i, hi, hget, hbefore⟩ := hfind
    rw [List.length_map] at hi
    refine ⟨i, List.mem_range.mpr hi, ?_⟩
    unfold heads
    rw [Bool.and_eq_true, Option.any_eq_true]
    constructor
    · refine ⟨vs[i], List.getElem?_eq_getElem hi, ?_⟩
      rw [List.getElem_map] at hget
      rw [hget]
      simpa [publishes, hpub] using hname
    · simp only [Bool.not_eq_true', List.any_eq_false]
      intro vote hvote
      obtain ⟨j, hj, rfl⟩ := List.mem_take_iff_getElem.mp hvote
      have := hbefore j (by omega)
      simpa using this

def infos (binds : List Bound) : List HidInfo := binds.map Bound.info

theorem infos_eq_votes (binds : List Bound) : (votes binds).map Prod.fst = infos binds := by
  simp [votes, infos]

@[simp] theorem length_votes (binds : List Bound) : (votes binds).length = binds.length := by simp [votes]

/-- What `resolve` does: the rows of a led name take their roles, the others keep theirs. -/
theorem getElem?_resolve (binds : List Bound) (k : Nat) :
    (resolve binds)[k]?
      = binds[k]?.map fun b =>
          if isPublishedRow b.info && leads (infos binds) b.info.infoType then b.elected (votes binds) k
          else b := by
  unfold resolve
  rw [getElem?_foldl_resolveAt, ← length_votes]
  simp only [any_heads, infos_eq_votes]

@[simp] theorem votes_resolve (binds : List Bound) : votes (resolve binds) = votes binds := by
  unfold resolve
  generalize List.range binds.length = is
  induction is generalizing binds with
  | nil => rfl
  | cons i is ih => rw [List.foldl_cons, ih, votes_resolveAt]

@[simp] theorem infos_resolve (binds : List Bound) : infos (resolve binds) = infos binds := by
  rw [← infos_eq_votes, votes_resolve, infos_eq_votes]

/-! ### Resolved rows -/

/-- Every row that publishes has the role of the election, or none yet when its name has no leader. -/
def Resolved (binds : List Bound) : Prop :=
  ∀ (k : Nat) (b : Bound), binds[k]? = some b → isPublishedRow b.info = true →
    b.role = if leads (infos binds) b.info.infoType = true then
      Election.roleOf (earlier (votes binds) k b.info.infoType) b.first else .pending

/-- The rows without a leader have no role. -/
def Waiting (binds : List Bound) : Prop :=
  ∀ (k : Nat) (b : Bound), binds[k]? = some b → isPublishedRow b.info = true →
    leads (infos binds) b.info.infoType = false → b.role = .pending

theorem Resolved.waiting {binds : List Bound} (h : Resolved binds) : Waiting binds := by
  intro k b hb hpub hlead
  rw [h k b hb hpub, hlead]
  simp

theorem Waiting.resolved_resolve {binds : List Bound} (h : Waiting binds) : Resolved (resolve binds) := by
  intro k b hb hpub
  rw [getElem?_resolve] at hb
  obtain ⟨b₀, hb₀, rfl⟩ := Option.map_eq_some_iff.mp hb
  rw [infos_resolve, votes_resolve]
  by_cases hlead : leads (infos binds) b₀.info.infoType = true
  · by_cases hpub₀ : isPublishedRow b₀.info = true
    · simp [hpub₀, hlead, Bound.elected]
    · rw [if_neg (by simp [hpub₀])] at hpub
      exact absurd hpub hpub₀
  · rw [if_neg (by simp [hlead])] at hpub ⊢
    rw [if_neg hlead]
    exact h k b₀ hb₀ hpub (by simpa using hlead)

theorem Resolved.congr {binds binds' : List Bound} (h : Resolved binds)
    (hvotes : votes binds' = votes binds) (hroles : binds'.map Bound.role = binds.map Bound.role) :
    Resolved binds' := by
  have hinfos : infos binds' = infos binds := by rw [← infos_eq_votes, hvotes, infos_eq_votes]
  intro k b' hb' hpub
  have hvote : (votes binds)[k]? = some (b'.info, b'.first) := by
    rw [← hvotes]
    simp [votes, hb']
  have hrole : (binds.map Bound.role)[k]? = some b'.role := by
    rw [← hroles]
    simp [hb']
  obtain ⟨b, hb, hpair⟩ : ∃ b, binds[k]? = some b ∧ (b.info, b.first) = (b'.info, b'.first) := by
    simpa [votes] using hvote
  have hbrole : b.role = b'.role := by simpa [hb] using hrole
  obtain ⟨hinfo, hfirst⟩ := Prod.mk.inj hpair
  have := h k b hb (by rw [hinfo]; exact hpub)
  rw [hinfo, hfirst, hbrole] at this
  rw [this, hinfos, hvotes]

/-! ### Steps -/

/-- The same rows, with results that only became known. -/
def Advance (binds binds' : List Bound) : Prop :=
  List.Forall₂ (fun v w : Vote => v.1 = w.1 ∧ Election.Progress v.2 w.2) (votes binds) (votes binds')

theorem Advance.refl (binds : List Bound) : Advance binds binds := by
  unfold Advance
  apply List.forall₂_same.mpr
  intro v _
  exact ⟨rfl, Election.Progress.rfl⟩

theorem Advance.of_votes {binds binds' : List Bound} (h : votes binds' = votes binds) :
    Advance binds binds' := by
  unfold Advance
  rw [h]
  exact Advance.refl binds

theorem Advance.trans {binds binds' binds'' : List Bound} (h : Advance binds binds')
    (h' : Advance binds' binds'') : Advance binds binds'' := by
  obtain ⟨hlen, hget⟩ := List.forall₂_iff_get.mp h
  obtain ⟨hlen', hget'⟩ := List.forall₂_iff_get.mp h'
  refine List.forall₂_iff_get.mpr ⟨hlen.trans hlen', ?_⟩
  intro k hk hk''
  have hk' : k < (votes binds').length := hlen ▸ hk
  obtain ⟨hinfo, hprogress⟩ := hget k hk hk'
  obtain ⟨hinfo', hprogress'⟩ := hget' k hk' hk''
  exact ⟨hinfo.trans hinfo', hprogress.trans hprogress'⟩

theorem Advance.infos_eq {binds binds' : List Bound} (h : Advance binds binds') :
    infos binds' = infos binds := by
  rw [← infos_eq_votes, ← infos_eq_votes]
  unfold Advance at h
  generalize votes binds = vs at h
  generalize votes binds' = ws at h
  induction h with
  | nil => rfl
  | cons hab _ ih => rw [List.map_cons, List.map_cons, ih, hab.1]

theorem forall₂_earlier {vs ws : List Vote}
    (h : List.Forall₂ (fun v w : Vote => v.1 = w.1 ∧ Election.Progress v.2 w.2) vs ws)
    (k : Nat) (name : String) : List.Forall₂ Election.Progress (earlier vs k name) (earlier ws k name) := by
  induction h generalizing k with
  | nil => simp [earlier]
  | @cons v w vs ws hab _ ih =>
      cases k with
      | zero => simp [earlier]
      | succ k =>
          rw [earlier_cons_succ, earlier_cons_succ, ← hab.1]
          by_cases hpub : publishes v.1 name = true
          · rw [if_pos hpub, if_pos hpub]
            exact List.Forall₂.cons hab.2 (ih k)
          · rw [if_neg hpub, if_neg hpub]
            exact ih k

theorem Advance.getElem? {binds binds' : List Bound} (h : Advance binds binds') {k : Nat} {b b' : Bound}
    (hb : binds[k]? = some b) (hb' : binds'[k]? = some b') :
    b.info = b'.info ∧ Election.Progress b.first b'.first := by
  obtain ⟨hk, hget⟩ := List.getElem?_eq_some_iff.mp hb
  obtain ⟨hk', hget'⟩ := List.getElem?_eq_some_iff.mp hb'
  have := List.Forall₂.get h (i := k) (by simpa using hk) (by simpa using hk')
  simpa [votes, hget, hget'] using this

theorem role_stable {binds binds' : List Bound} (hres : Resolved binds) (hres' : Resolved binds')
    (hadv : Advance binds binds') {k : Nat} {b b' : Bound} (hb : binds[k]? = some b)
    (hb' : binds'[k]? = some b') (hpub : isPublishedRow b.info = true) (hrole : b.role ≠ .pending) :
    b'.role = b.role := by
  obtain ⟨hinfo, hprogress⟩ := hadv.getElem? hb hb'
  have hown := hres k b hb hpub
  have hown' := hres' k b' hb' (by rw [← hinfo]; exact hpub)
  have hearlier := forall₂_earlier hadv k b.info.infoType
  rw [hadv.infos_eq, ← hinfo] at hown'
  by_cases hlead : leads (infos binds) b.info.infoType = true
  · rw [if_pos hlead] at hown hown'
    cases hcase : b.role with
    | pending => exact absurd hcase hrole
    | active =>
        rw [hown']
        exact Election.active_stable hearlier hprogress (hown.symm.trans hcase)
    | dead =>
        rw [hown']
        exact Election.dead_stable hearlier hprogress (hown.symm.trans hcase)
  · rw [if_neg hlead] at hown
    exact absurd hown hrole

theorem votes_set (binds : List Bound) (i : Nat) (b : Bound) :
    votes (binds.set i b) = (votes binds).set i (b.info, b.first) := by
  simp [votes, List.map_set]

theorem votes_set_same {binds : List Bound} {i : Nat} {b b' : Bound} (hb : binds[i]? = some b)
    (hinfo : b'.info = b.info) (hfirst : b'.first = b.first) : votes (binds.set i b') = votes binds := by
  obtain ⟨hi, hget⟩ := List.getElem?_eq_some_iff.mp hb
  have hiv : i < (votes binds).length := by simpa using hi
  have hvote : (votes binds)[i] = (b'.info, b'.first) := by
    simp [votes, hget, hinfo, hfirst]
  rw [votes_set, ← hvote, List.set_getElem_self]

theorem Advance.set {binds : List Bound} {i : Nat} {b b' : Bound} (hb : binds[i]? = some b)
    (hinfo : b'.info = b.info) (hprogress : Election.Progress b.first b'.first) :
    Advance binds (binds.set i b') := by
  unfold Advance
  rw [votes_set]
  apply List.forall₂_iff_get.mpr
  refine ⟨by simp, ?_⟩
  intro k hk hk'
  simp only [List.get_eq_getElem, List.getElem_set]
  split
  · rename_i hik
    subst hik
    have hget : (votes binds)[i] = (b.info, b.first) := by
      obtain ⟨_, hget⟩ := List.getElem?_eq_some_iff.mp hb
      simp [votes, hget]
    rw [hget]
    exact ⟨hinfo.symm, hprogress⟩
  · exact ⟨rfl, Election.Progress.rfl⟩

/-- A row replaced by one of the same role, before the roles are computed again. -/
theorem Resolved.resolve_set {binds : List Bound} (h : Resolved binds) {i : Nat} {b b' : Bound}
    (hb : binds[i]? = some b) (hinfo : b'.info = b.info) (hrole : b'.role = b.role)
    (hprogress : Election.Progress b.first b'.first) :
    Resolved (resolve (binds.set i b')) ∧ Advance binds (resolve (binds.set i b')) := by
  have hadv := Advance.set hb hinfo hprogress
  have hinfos := hadv.infos_eq
  constructor
  · apply Waiting.resolved_resolve
    intro k c hc hpub hlead
    rw [hinfos] at hlead
    rw [List.getElem?_set] at hc
    by_cases hik : i = k
    · subst hik
      rw [if_pos rfl] at hc
      split at hc
      · have hcb : b' = c := by simpa using hc
        subst hcb
        rw [hrole]
        rw [hinfo] at hpub hlead
        exact h.waiting i b hb hpub hlead
      · exact absurd hc (by simp)
    · rw [if_neg hik] at hc
      exact h.waiting k c hc hpub hlead
  · unfold Advance
    rw [votes_resolve]
    exact hadv

theorem Resolved.set {binds : List Bound} (h : Resolved binds) {i : Nat} {b b' : Bound}
    (hb : binds[i]? = some b) (hinfo : b'.info = b.info) (hrole : b'.role = b.role)
    (hfirst : b'.first = b.first) : Resolved (binds.set i b') ∧ Advance binds (binds.set i b') := by
  obtain ⟨hi, hget⟩ := List.getElem?_eq_some_iff.mp hb
  have hvotes := votes_set_same hb hinfo hfirst
  have hroles : (binds.set i b').map Bound.role = binds.map Bound.role := by
    have hir : i < (binds.map Bound.role).length := by simpa using hi
    have hown : (binds.map Bound.role)[i] = b'.role := by simp [hget, hrole]
    rw [List.map_set, ← hown, List.set_getElem_self]
  exact ⟨h.congr hvotes hroles, Advance.of_votes hvotes⟩

/-! ### The operations -/

@[simp] theorem noteIndex_info (b : Bound) (v : ℚ) : (b.noteIndex v).info = b.info := by
  unfold Bound.noteIndex
  split <;> rfl

@[simp] theorem noteIndex_role (b : Bound) (v : ℚ) : (b.noteIndex v).role = b.role := by
  unfold Bound.noteIndex
  split <;> rfl

@[simp] theorem noteIndex_first (b : Bound) (v : ℚ) : (b.noteIndex v).first = b.first := by
  unfold Bound.noteIndex
  split <;> rfl

@[simp] theorem noteIndex_cleared (b : Bound) (v : ℚ) : (b.noteIndex v).cleared = b.cleared := by
  unfold Bound.noteIndex
  split <;> rfl

@[simp] theorem noteIndex_has (b : Bound) (v : ℚ) : (b.noteIndex v).has = b.has := by
  unfold Bound.noteIndex
  split <;> rfl

@[simp] theorem absorb_info (b : Bound) (d : Decoded) : (b.absorb d).info = b.info := by cases d <;> rfl

@[simp] theorem absorb_role (b : Bound) (d : Decoded) : (b.absorb d).role = b.role := by cases d <;> rfl

/-- The result of a row after one of its conversions. -/
theorem absorb_first (b : Bound) (d : Decoded) :
    (b.absorb d).first = match d with
      | .ok _ => if b.first = .unread then .ok else b.first
      | .fail => if b.first = .unread then .fail else b.first
      | _ => b.first := by
  cases d <;> rfl

theorem absorb_progress (b : Bound) (d : Decoded) : Election.Progress b.first (b.absorb d).first := by
  rw [absorb_first]
  by_cases h : b.first = .unread
  · exact Or.inl h
  · cases d <;> simp [h, Election.Progress.rfl]

theorem resolved_onValue {binds : List Bound} (h : Resolved binds) (i : Nat) (v : ℚ) (ctx : Context)
    (data : Option UPSData) :
    Resolved (onValue binds i v ctx data).1 ∧ Advance binds (onValue binds i v ctx data).1 := by
  cases hb : binds[i]? with
  | none =>
      have hsame : (onValue binds i v ctx data).1 = binds := by simp [onValue, hb]
      rw [hsame]
      exact ⟨h, Advance.refl binds⟩
  | some b =>
      by_cases hconv : b.converts = true
      · rw [onValue_of_converts hb hconv]
        -- a waiting row keeps its result, any other conversion computes the roles again
        have hprogress := absorb_progress (b.noteIndex v) (convert b.info v ctx data).1
        rw [noteIndex_first] at hprogress
        cases hresult : (convert b.info v ctx data).1 with
        | ok text =>
            rw [hresult] at hprogress
            exact h.resolve_set hb (by simp) (by simp) hprogress
        | fail =>
            rw [hresult] at hprogress
            exact h.resolve_set hb (by simp) (by simp) hprogress
        | defer => exact h.set hb (by simp) (by simp) (by simp [absorb_first])
        | clear => exact h.set hb (by simp) (by simp) (by simp [absorb_first])
      · rcases onValue_of_not_converts hb (by simpa using hconv) v ctx data with hsame | ⟨-, hset⟩
        · rw [hsame]
          exact ⟨h, Advance.refl binds⟩
        · rw [hset]
          exact h.set hb rfl rfl rfl

theorem take_progress (b : Bound) (text : String) : Election.Progress b.first (b.take text).first :=
  absorb_progress b (.ok text)

theorem resolved_onString {binds : List Bound} (h : Resolved binds) (i : Nat) (text : String) :
    Resolved (onString binds i text) ∧ Advance binds (onString binds i text) := by
  unfold onString
  cases hb : binds[i]? with
  | none => exact ⟨h, Advance.refl binds⟩
  | some b =>
      dsimp only
      split
      · exact ⟨h, Advance.refl binds⟩
      · exact h.resolve_set hb rfl rfl (take_progress b text)

@[simp] theorem finishRow_info (b : Bound) : (finishRow b).info = b.info := by
  unfold finishRow
  split
  · rfl
  · split <;> rfl

@[simp] theorem finishRow_role (b : Bound) : (finishRow b).role = b.role := by
  unfold finishRow
  split
  · rfl
  · split <;> rfl

@[simp] theorem finishRow_deferred (b : Bound) : (finishRow b).deferred = b.deferred := by
  unfold finishRow
  split
  · rfl
  · split <;> rfl

theorem finishRow_progress (b : Bound) : Election.Progress b.first (finishRow b).first := by
  unfold finishRow
  split
  · exact Election.Progress.rfl
  · split
    · rename_i hunread
      rw [Bool.and_eq_true, decide_eq_true_eq] at hunread
      exact Or.inl hunread.1
    · exact Election.Progress.rfl

theorem advance_finish (binds : List Bound) : Advance binds (binds.map finishRow) := by
  unfold Advance votes
  rw [List.map_map, List.forall₂_map_left_iff, List.forall₂_map_right_iff]
  apply List.forall₂_same.mpr
  intro b _
  exact ⟨by simp, finishRow_progress b⟩

theorem resolved_finishInit {binds : List Bound} (h : Resolved binds) :
    Resolved (finishInit binds) ∧ Advance binds (finishInit binds) := by
  have hadv := advance_finish binds
  unfold finishInit
  dsimp only
  split
  · constructor
    · apply Waiting.resolved_resolve
      intro k b hb hpub hlead
      rw [hadv.infos_eq] at hlead
      rw [List.getElem?_map] at hb
      obtain ⟨b₀, hb₀, rfl⟩ := Option.map_eq_some_iff.mp hb
      rw [finishRow_info] at hpub hlead
      rw [finishRow_role]
      exact h.waiting k b₀ hb₀ hpub hlead
    · unfold Advance
      rw [votes_resolve]
      exact hadv
  · rename_i hnone
    have hsame : binds.map finishRow = binds := by
      conv_rhs => rw [← List.map_id binds]
      apply List.map_congr_left
      intro b hb
      have hrow := List.any_eq_false.mp (Bool.eq_false_iff.mpr hnone) b hb
      unfold finishRow
      unfold isPublishedRow at hrow
      split
      · rfl
      · split
        · simp_all
        · rfl
    rw [hsame]
    exact ⟨h, Advance.refl binds⟩

/-- The row as binding leaves it. -/
def Fresh (b : Bound) : Prop := ∃ usages, bindRow usages b.info = some b

theorem bindRow_info {usages : List HIDUsageDef} {row : HidInfo} {b : Bound}
    (h : bindRow usages row = some b) : b.info = row := by
  unfold bindRow at h
  split at h
  · exact absurd h (by simp)
  · exact (Option.some.inj h) ▸ rfl

theorem fresh_bindRows {table : List HidInfo} {usages : List HIDUsageDef} {skip : List String} {b : Bound}
    (h : b ∈ bindRows table usages skip) : Fresh b := by
  unfold bindRows at h
  obtain ⟨row, _, hrow⟩ := List.mem_filterMap.mp h
  exact ⟨usages, by rw [bindRow_info hrow, hrow]⟩

theorem mem_infos_bindRows {table : List HidInfo} {usages : List HIDUsageDef} {skip : List String}
    {info : HidInfo} (h : info ∈ infos (bindRows table usages skip)) : info ∈ table := by
  obtain ⟨b, hb, rfl⟩ := List.mem_map.mp h
  obtain ⟨row, hrow, hbind⟩ := List.mem_filterMap.mp hb
  rw [bindRow_info hbind]
  exact (List.mem_filter.mp hrow).1

/-- A fresh row is unread, or ok when the firmware keeps its value, and has no role before `resolve`. -/
theorem Fresh.spec {b : Bound} (h : Fresh b) :
    b.first = (if hasFlag b.info.hidflags huFlagAbsent then .ok else .unread)
      ∧ b.has = hasFlag b.info.hidflags huFlagAbsent
      ∧ b.role = (if isInternalRow b.info then .active else .pending)
      ∧ b.deferred = false ∧ b.cleared = false ∧ b.seen = false := by
  obtain ⟨usages, hbind⟩ := h
  unfold bindRow at hbind
  split at hbind
  · exact absurd hbind (by simp)
  · have hb := Option.some.inj hbind
    rw [← hb]
    exact ⟨rfl, rfl, rfl, rfl, rfl, rfl⟩

theorem waiting_of_fresh {binds : List Bound} (h : ∀ b ∈ binds, Fresh b) : Waiting binds := by
  intro k b hb hpub _
  obtain ⟨-, -, hrole, -⟩ := (h b (List.mem_of_getElem? hb)).spec
  have hinternal : isInternalRow b.info = false := by
    unfold isPublishedRow at hpub
    rw [Bool.and_eq_true] at hpub
    simpa using hpub.1
  rw [hrole, hinternal]
  rfl

theorem resolved_bind (table : List HidInfo) (usages : List HIDUsageDef) : Resolved (bind table usages) :=
  (waiting_of_fresh fun _ hb => fresh_bindRows hb).resolved_resolve

/-! ### Rows after an operation -/

theorem getElem?_of_resolve {binds : List Bound} {k : Nat} {b' : Bound}
    (h : (resolve binds)[k]? = some b') : ∃ b, binds[k]? = some b ∧ b' = { b with role := b'.role } := by
  rw [getElem?_resolve] at h
  obtain ⟨b, hb, rfl⟩ := Option.map_eq_some_iff.mp h
  refine ⟨b, hb, ?_⟩
  split <;> rfl

theorem getElem?_of_settle {binds : List Bound} {d : Decoded} {k : Nat} {b' : Bound}
    (h : (settle binds d)[k]? = some b') : ∃ b, binds[k]? = some b ∧ b' = { b with role := b'.role } := by
  cases d with
  | ok text => exact getElem?_of_resolve h
  | fail => exact getElem?_of_resolve h
  | defer => exact ⟨b', h, rfl⟩
  | clear => exact ⟨b', h, rfl⟩

/-- A row after a value: its own update when it is the row of the value, and a role. -/
theorem onValue_row {binds : List Bound} {i k : Nat} {v : ℚ} {ctx : Context} {data : Option UPSData}
    {b' : Bound} (hb' : (onValue binds i v ctx data).1[k]? = some b') :
    ∃ b c, binds[k]? = some b ∧ b' = { c with role := b'.role } ∧
      ((k ≠ i ∧ c = b)
        ∨ (k = i ∧ b.converts = true ∧ c = (b.noteIndex v).absorb (convert b.info v ctx data).1)
        ∨ (k = i ∧ b.converts = false
          ∧ (c = b ∨ isInternalRow b.info = true ∧ c = { b with last := v, seen := true }))) := by
  by_cases hki : k = i
  · subst hki
    cases hb : binds[k]? with
    | none =>
        have hsame : (onValue binds k v ctx data).1 = binds := by simp [onValue, hb]
        rw [hsame, hb] at hb'
        exact absurd hb' (by simp)
    | some b =>
        obtain ⟨hk, -⟩ := List.getElem?_eq_some_iff.mp hb
        by_cases hconv : b.converts = true
        · rw [onValue_of_converts hb hconv] at hb'
          obtain ⟨c, hc, hrole⟩ := getElem?_of_settle hb'
          rw [List.getElem?_set_self hk] at hc
          exact ⟨b, c, rfl, hrole, Or.inr (Or.inl ⟨rfl, hconv, (Option.some.inj hc).symm⟩)⟩
        · have hconv' : b.converts = false := by simpa using hconv
          rcases onValue_of_not_converts hb hconv' v ctx data with hsame | ⟨hinternal, hset⟩
          · rw [hsame, hb] at hb'
            obtain rfl := Option.some.inj hb'
            exact ⟨b, b, rfl, rfl, Or.inr (Or.inr ⟨rfl, hconv', Or.inl rfl⟩)⟩
          · rw [hset, List.getElem?_set_self hk] at hb'
            obtain rfl := Option.some.inj hb'
            exact ⟨b, _, rfl, rfl, Or.inr (Or.inr ⟨rfl, hconv', Or.inr ⟨hinternal, rfl⟩⟩)⟩
  · have hother : ∃ b, binds[k]? = some b ∧ b' = { b with role := b'.role } := by
      cases hb : binds[i]? with
      | none =>
          have hsame : (onValue binds i v ctx data).1 = binds := by simp [onValue, hb]
          rw [hsame] at hb'
          exact ⟨b', hb', rfl⟩
      | some b =>
          by_cases hconv : b.converts = true
          · rw [onValue_of_converts hb hconv] at hb'
            obtain ⟨c, hc, hrole⟩ := getElem?_of_settle hb'
            rw [List.getElem?_set_ne (Ne.symm hki)] at hc
            exact ⟨c, hc, hrole⟩
          · rcases onValue_of_not_converts hb (by simpa using hconv) v ctx data with hsame | ⟨-, hset⟩
            · rw [hsame] at hb'
              exact ⟨b', hb', rfl⟩
            · rw [hset, List.getElem?_set_ne (Ne.symm hki)] at hb'
              exact ⟨b', hb', rfl⟩
    obtain ⟨b, hb, hrole⟩ := hother
    exact ⟨b, b, hb, hrole, Or.inl ⟨hki, rfl⟩⟩

/-! ### The active row of a name -/

theorem mem_earlier_iff {binds : List Bound} {i : Nat} {name : String} {f : First} :
    f ∈ earlier (votes binds) i name
      ↔ ∃ j b, j < i ∧ binds[j]? = some b ∧ publishes b.info name = true ∧ b.first = f := by
  unfold earlier votes
  rw [← List.map_take]
  simp only [List.mem_map, List.mem_filter, Prod.exists, exists_eq_right]
  constructor
  · rintro ⟨info, ⟨b, hb, hpair⟩, hpub⟩
    obtain ⟨hinfo, hfirst⟩ := Prod.mk.inj hpair
    obtain ⟨j, hj⟩ := List.getElem?_of_mem hb
    rw [List.getElem?_take] at hj
    split at hj
    · rename_i hji
      exact ⟨j, b, hji, hj, by rw [hinfo]; exact hpub, hfirst⟩
    · exact absurd hj (by simp)
  · rintro ⟨j, b, hji, hj, hpub, hfirst⟩
    refine ⟨b.info, ⟨b, ?_, by rw [hfirst]⟩, hpub⟩
    apply List.mem_of_getElem? (i := j)
    rw [List.getElem?_take_of_lt hji, hj]

theorem publishes_iff {info : HidInfo} {name : String} :
    publishes info name = true ↔ isPublishedRow info = true ∧ info.infoType = name := by
  simp [publishes]

/-- The active row of a led name, by the results. -/
theorem active_iff {binds : List Bound} (h : Resolved binds) {name : String}
    (hlead : leads (infos binds) name = true) {i : Nat} {a : Bound} (ha : binds[i]? = some a)
    (hpub : publishes a.info name = true) :
    a.role = .active ↔ a.first = .ok ∧ ∀ (j : Nat) (b : Bound), j < i → binds[j]? = some b →
      publishes b.info name = true → b.first = .fail := by
  obtain ⟨hpublished, rfl⟩ := publishes_iff.mp hpub
  rw [h i a ha hpublished, if_pos hlead, Election.roleOf_eq_active_iff]
  apply and_congr_right
  intro _
  constructor
  · intro hall j b hji hj hpub'
    exact hall b.first (mem_earlier_iff.mpr ⟨j, b, hji, hj, hpub', rfl⟩)
  · intro hall f hf
    obtain ⟨j, b, hji, hj, hpub', rfl⟩ := mem_earlier_iff.mp hf
    exact hall j b hji hj hpub'

theorem eq_of_active {binds : List Bound} (h : Resolved binds) {i j : Nat} {a b : Bound}
    (ha : binds[i]? = some a) (hb : binds[j]? = some b) (hpa : isPublishedRow a.info = true)
    (hpb : isPublishedRow b.info = true) (hname : a.info.infoType = b.info.infoType)
    (hactive : a.role = .active) (hactive' : b.role = .active) : i = j := by
  have hlead : leads (infos binds) a.info.infoType = true := by
    by_contra hnot
    have := h i a ha hpa
    rw [if_neg hnot, hactive] at this
    exact absurd this (by decide)
  have hpuba : publishes a.info a.info.infoType = true := publishes_iff.mpr ⟨hpa, rfl⟩
  have hpubb : publishes b.info a.info.infoType = true := publishes_iff.mpr ⟨hpb, hname.symm⟩
  obtain ⟨hoka, hbeforea⟩ := (active_iff h hlead ha hpuba).mp hactive
  obtain ⟨hokb, hbeforeb⟩ := (active_iff h hlead hb hpubb).mp hactive'
  by_contra hij
  rcases Nat.lt_or_gt_of_ne hij with hlt | hlt
  · have := hbeforeb i a hlt ha hpuba
    rw [hoka] at this
    exact absurd this (by decide)
  · have := hbeforea j b hlt hb hpubb
    rw [hokb] at this
    exact absurd this (by decide)

theorem dead_of_fail {binds : List Bound} (hres : Resolved binds) {k : Nat} {b : Bound}
    (hb : binds[k]? = some b) (hpub : isPublishedRow b.info = true)
    (hlead : leads (infos binds) b.info.infoType = true) (hfail : b.first = .fail) : b.role = .dead := by
  have hrole := hres k b hb hpub
  rw [if_pos hlead] at hrole
  rw [hrole, Election.roleOf_eq_dead_iff]
  exact Or.inl hfail

@[simp] theorem finishRow_has (b : Bound) : (finishRow b).has = b.has := by
  unfold finishRow
  split
  · rfl
  · split <;> rfl

@[simp] theorem finishRow_cleared (b : Bound) : (finishRow b).cleared = b.cleared := by
  unfold finishRow
  split
  · rfl
  · split <;> rfl

/-- The end of the first poll changes results and roles only. -/
theorem finishInit_row {binds : List Bound} {k : Nat} {b' : Bound}
    (hb' : (finishInit binds)[k]? = some b') :
    ∃ b, binds[k]? = some b ∧ b' = { finishRow b with role := b'.role } := by
  have hmap : ∀ c, (binds.map finishRow)[k]? = some c → ∃ b, binds[k]? = some b ∧ finishRow b = c := by
    intro c hc
    rw [List.getElem?_map] at hc
    exact Option.map_eq_some_iff.mp hc
  unfold finishInit at hb'
  dsimp only at hb'
  split at hb'
  · obtain ⟨c, hc, hrole⟩ := getElem?_of_resolve hb'
    obtain ⟨b, hb, rfl⟩ := hmap c hc
    exact ⟨b, hb, hrole⟩
  · obtain ⟨b, hb, rfl⟩ := hmap b' hb'
    exact ⟨b, hb, rfl⟩

theorem onString_cleared {binds : List Bound} {i k : Nat} {text : String} {b' : Bound}
    (hb' : (onString binds i text)[k]? = some b') :
    ∃ b, binds[k]? = some b ∧ b'.cleared = b.cleared := by
  unfold onString at hb'
  split at hb'
  · exact ⟨b', hb', rfl⟩
  rename_i b hb
  split at hb'
  · exact ⟨b', hb', rfl⟩
  obtain ⟨c, hc, hrole⟩ := getElem?_of_resolve hb'
  rw [hrole]
  by_cases hki : k = i
  · subst hki
    obtain ⟨hk, -⟩ := List.getElem?_eq_some_iff.mp hb
    rw [List.getElem?_set_self hk] at hc
    rw [← Option.some.inj hc]
    exact ⟨b, hb, rfl⟩
  · rw [List.getElem?_set_ne (Ne.symm hki)] at hc
    exact ⟨c, hc, rfl⟩

theorem Advance.length_eq {binds binds' : List Bound} (h : Advance binds binds') :
    binds'.length = binds.length := by
  simpa [infos] using congrArg List.length h.infos_eq

/-- A row that becomes active without a result of its own owes it to a failure before it. -/
theorem active_before {binds binds' : List Bound} (hres : Resolved binds) (hres' : Resolved binds')
    (hadv : Advance binds binds') {k : Nat} {b b' : Bound} (hb : binds[k]? = some b)
    (hb' : binds'[k]? = some b') (hpub : isPublishedRow b.info = true) (hown : b'.first = b.first)
    (hfail : ∀ (j : Nat) (c c' : Bound), binds[j]? = some c → binds'[j]? = some c' →
      leads (infos binds) c.info.infoType = true → isPublishedRow c.info = true →
      c'.first = .fail → c.first = .fail)
    (hactive : b'.role = .active) : b.role = .active := by
  obtain ⟨hinfo, -⟩ := hadv.getElem? hb hb'
  have hlead : leads (infos binds) b.info.infoType = true := by
    by_contra hnot
    have hrole := hres' k b' hb' (by rw [← hinfo]; exact hpub)
    rw [hadv.infos_eq, ← hinfo, if_neg hnot, hactive] at hrole
    exact absurd hrole (by decide)
  have hpub' : publishes b.info b.info.infoType = true := publishes_iff.mpr ⟨hpub, rfl⟩
  rw [active_iff hres hlead hb hpub']
  rw [active_iff hres' (by rw [hadv.infos_eq]; exact hlead) hb' (by rw [← hinfo]; exact hpub')] at hactive
  obtain ⟨hok, hbefore⟩ := hactive
  refine ⟨by rw [← hown, hok], ?_⟩
  intro j c hjk hc hpubc
  obtain ⟨hj, -⟩ := List.getElem?_eq_some_iff.mp hc
  have hj' : j < binds'.length := by
    rw [hadv.length_eq]
    exact hj
  have hc' : binds'[j]? = some binds'[j] := List.getElem?_eq_getElem hj'
  obtain ⟨hinfoc, -⟩ := hadv.getElem? hc hc'
  obtain ⟨hpublished, hname⟩ := publishes_iff.mp hpubc
  exact hfail j c _ hc hc' (by rw [hname]; exact hlead) hpublished
    (hbefore j _ hjk hc' (by rw [← hinfoc]; exact hpubc))

end EspNut.NutTable
