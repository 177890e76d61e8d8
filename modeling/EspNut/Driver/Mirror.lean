import EspNut.Driver.Publication

/-!
# The data mirrors the active rows

Each row is published right after its value and again at the end of a report, when its role may have changed. `Keeps` is what one publication does for all rows: it settles its own and disturbs no other, since a name has at most one active row. After a report every active row with a value is therefore found in the data.
-/

namespace EspNut.GenericDriver

open Lib Rounding NutTable

/-- A name only its rows write. -/
def OwnName (name : String) : Prop :=
  name ≠ "ups.alarm" ∧ name ≠ "input.transfer.reason" ∧ name ≠ "ups.realpower"
    ∧ Text.startsWith name "ups.status." = false

def PublishesOwnNames (sub : Subdriver) : Prop :=
  ∀ info ∈ sub.tables, isPublishedRow info = true → OwnName info.infoType

variable {sub : Subdriver}

instance (name : String) : Decidable (OwnName name) := inferInstanceAs (Decidable (_ ∧ _))

instance (sub : Subdriver) : Decidable (PublishesOwnNames sub) :=
  inferInstanceAs (Decidable (∀ info ∈ _, _))

/-- The row's value, while it is active, is the one in the data. -/
def Synced (k : Nat) (s : State) : Prop :=
  ∀ b, s.rows[k]? = some b → isPublishedRow b.info = true → b.role = .active → b.has = true →
    s.data.find b.info.infoType = some b.value

/-- The name is not in the data, unless an active row of the name holds a value. -/
def Vacant (name : String) (s : State) : Prop :=
  s.data.find name = none
    ∨ ∃ (k : Nat) (b : Bound), s.rows[k]? = some b ∧ publishes b.info name = true
      ∧ b.role = .active ∧ b.has = true

/-- Between two publications: the roles are settled, no removal waits, and the rows are drawn from the tables. -/
structure Sound (sub : Subdriver) (s : State) : Prop where
  resolved : Resolved s.rows
  calm : ∀ b ∈ s.rows, b.cleared = false
  drawn : ∀ info ∈ infos s.rows, info ∈ sub.tables

/-- What a step of the publication keeps. -/
structure Keeps (sub : Subdriver) (s s' : State) : Prop where
  sound : Sound sub s'
  rows : infos s'.rows = infos s.rows
  clears : s'.clears = s.clears
  synced : ∀ k, Synced k s → Synced k s'
  vacant : ∀ name, OwnName name → Vacant name s → Vacant name s'

theorem Keeps.refl {s : State} (h : Sound sub s) : Keeps sub s s :=
  ⟨h, rfl, rfl, fun _ hk => hk, fun _ _ hv => hv⟩

theorem Keeps.trans {s s' s'' : State} (h : Keeps sub s s') (h' : Keeps sub s' s'') : Keeps sub s s'' where
  sound := h'.sound
  rows := h'.rows.trans h.rows
  clears := h'.clears.trans h.clears
  synced := fun k hk => h'.synced k (h.synced k hk)
  vacant := fun name hname hv => h'.vacant name hname (h.vacant name hname hv)

theorem Sound.ownName (hnames : PublishesOwnNames sub) {s : State} (h : Sound sub s) {k : Nat} {b : Bound} (hb : s.rows[k]? = some b)
    (hpub : isPublishedRow b.info = true) : OwnName b.info.infoType :=
  hnames b.info (h.drawn b.info (List.mem_map.mpr ⟨b, List.mem_of_getElem? hb, rfl⟩)) hpub

theorem Keeps.of_data (hnames : PublishesOwnNames sub) {s : State} {data : UPSData} (h : Sound sub s)
    (hfind : ∀ name, OwnName name → data.find name = s.data.find name) :
    Keeps sub s { s with data } where
  sound := ⟨h.resolved, h.calm, h.drawn⟩
  rows := rfl
  clears := rfl
  synced := by
    intro k hk b hb hpub hrole hhas
    change data.find _ = _
    rw [hfind _ (h.ownName hnames hb hpub)]
    exact hk b hb hpub hrole hhas
  vacant := by
    intro name hname hv
    rcases hv with hnone | hrow
    · exact Or.inl ((hfind name hname).trans hnone)
    · exact Or.inr hrow

theorem Keeps.of_set (hnames : PublishesOwnNames sub) {s : State} (data : UPSData) (h : Sound sub s) {i : Nat} {b : Bound}
    (hb : s.rows[i]? = some b) (hpub : isPublishedRow b.info = true) (hrole : b.role = .active)
    (hhas : b.has = true)
    (hfind : ∀ name, OwnName name →
      data.find name = if name = b.info.infoType then some b.value else s.data.find name) :
    Keeps sub s { s with data } ∧ Synced i { s with data } := by
  have hown : Synced i { s with data } := by
    intro c hc hpubc _ _
    obtain rfl : b = c := Option.some.inj (hb.symm.trans hc)
    change data.find _ = _
    rw [hfind _ (h.ownName hnames hb hpub), if_pos rfl]
  refine ⟨⟨⟨h.resolved, h.calm, h.drawn⟩, rfl, rfl, ?_, ?_⟩, hown⟩
  · intro k hk c hc hpubc hrolec hhasc
    by_cases hname : c.info.infoType = b.info.infoType
    · -- two active rows of one name are the same row
      obtain rfl : k = i := eq_of_active h.resolved hc hb hpubc hpub hname hrolec hrole
      exact hown c hc hpubc hrolec hhasc
    · change data.find _ = _
      rw [hfind _ (h.ownName hnames hc hpubc), if_neg hname]
      exact hk c hc hpubc hrolec hhasc
  · intro name hname hv
    rcases hv with hnone | hrow
    · by_cases hsame : name = b.info.infoType
      · exact Or.inr ⟨i, b, hb, publishes_iff.mpr ⟨hpub, hsame.symm⟩, hrole, hhas⟩
      · exact Or.inl ((hfind name hname).trans ((if_neg hsame).trans hnone))
    · exact Or.inr hrow

/-- An active row with a value keeps both through a value of another row. -/
theorem vacant_of_rows {s s' : State} {name : String} (hres : Resolved s.rows) (hres' : Resolved s'.rows)
    (hadv : Advance s.rows s'.rows) (hdata : s.data.find name = none → s'.data.find name = none)
    (hhas : ∀ (k : Nat) (b b' : Bound), s.rows[k]? = some b → s'.rows[k]? = some b' →
      publishes b.info name = true → b.has = true → b'.has = true)
    (h : Vacant name s) : Vacant name s' := by
  rcases h with hnone | ⟨k, b, hb, hpub, hactive, hvalue⟩
  · exact Or.inl (hdata hnone)
  · obtain ⟨hk, -⟩ := List.getElem?_eq_some_iff.mp hb
    have hk' : k < s'.rows.length := by
      rw [hadv.length_eq]
      exact hk
    have hb' : s'.rows[k]? = some s'.rows[k] := List.getElem?_eq_getElem hk'
    obtain ⟨hinfo, -⟩ := hadv.getElem? hb hb'
    refine Or.inr ⟨k, s'.rows[k], hb', by rw [← hinfo]; exact hpub, ?_, hhas k b _ hb hb' hpub hvalue⟩
    rw [role_stable hres hres' hadv hb hb' (publishes_iff.mp hpub).1 (by rw [hactive]; decide), hactive]

/-! ### The estimated power -/

/-- The rows after the estimate was computed again for one of them. -/
structure Recomputed (binds binds' : List Bound) (j : Nat) : Prop where
  resolved : Resolved binds'
  advance : Advance binds binds'
  row : ∀ (k : Nat) (b' : Bound), binds'[k]? = some b' → ∃ b, binds[k]? = some b
    ∧ b'.info = b.info ∧ b'.cleared = b.cleared ∧ (b.has = true → b'.has = true)
    ∧ (k ≠ j → b'.has = b.has ∧ b'.value = b.value ∧ b'.first = b.first)
    ∧ (b.first ≠ .fail → b'.first ≠ .fail)

theorem recomputed_onValue {binds : List Bound} (h : Resolved binds) {j : Nat} {c : Bound}
    (hc : binds[j]? = some c) (hrecomputes : recomputes c = true) (ctx : Context)
    (data : Option UPSData) : Recomputed binds (onValue binds j 0 ctx data).1 j := by
  obtain ⟨hresolved, hadvance⟩ := resolved_onValue h j 0 ctx data
  refine ⟨hresolved, hadvance, ?_⟩
  intro k b' hb'
  obtain ⟨b, own, hb, hrole, hcase⟩ := onValue_row hb'
  refine ⟨b, hb, ?_⟩
  have hown : own.info = b.info ∧ own.cleared = b.cleared ∧ (b.has = true → own.has = true)
      ∧ (k ≠ j → own.has = b.has ∧ own.value = b.value ∧ own.first = b.first)
      ∧ (b.first ≠ .fail → own.first ≠ .fail) := by
    rcases hcase with ⟨-, rfl⟩ | ⟨rfl, -, rfl⟩ | ⟨-, -, rfl | ⟨-, rfl⟩⟩
    · exact ⟨rfl, rfl, id, fun _ => ⟨rfl, rfl, rfl⟩, id⟩
    · obtain rfl : c = b := Option.some.inj (hc.symm.trans hb)
      have hconv : c.info.conv = .eatonComputeRealpower := by
        simp only [recomputes, Bool.and_eq_true, decide_eq_true_eq] at hrecomputes
        exact hrecomputes.1
      have hconvert : convert c.info 0 ctx data = decode c.info 0 ctx data := by
        simp [convert, hconv]
      -- the estimate waits or succeeds
      rcases decode_eatonComputeRealpower hconv 0 ctx data with hdefer | ⟨text, hok⟩
      · rw [hconvert, hdefer]
        refine ⟨by simp, by simp [Bound.absorb], fun hhas => by simpa [Bound.absorb] using hhas,
          fun hk => absurd rfl hk, fun hfirst => by simpa [Bound.absorb] using hfirst⟩
      · rw [hconvert, hok]
        refine ⟨by simp, by simp [Bound.absorb, Bound.take], fun _ => rfl, fun hk => absurd rfl hk, ?_⟩
        intro hfirst
        simp only [Bound.absorb, Bound.take, noteIndex_first]
        split
        · decide
        · exact hfirst
    · exact ⟨rfl, rfl, id, fun _ => ⟨rfl, rfl, rfl⟩, id⟩
    · exact ⟨rfl, rfl, id, fun _ => ⟨rfl, rfl, rfl⟩, id⟩
  rw [hrole]
  exact hown

theorem Recomputed.keeps {s : State} {rows : List Bound} (ctx : Context) {j : Nat} (h : Sound sub s)
    (hrow : ∃ c, s.rows[j]? = some c ∧ recomputes c = true) (hrec : Recomputed s.rows rows j) :
    Sound sub { s with rows, ctx } ∧ infos rows = infos s.rows
      ∧ (∀ k, k ≠ j → Synced k s → Synced k { s with rows, ctx })
      ∧ ∀ name, Vacant name s → Vacant name { s with rows, ctx } := by
  have hinfos := hrec.advance.infos_eq
  refine ⟨⟨hrec.resolved, ?_, ?_⟩, hinfos, ?_, ?_⟩
  · intro b' hb'
    obtain ⟨k, hk⟩ := List.getElem?_of_mem hb'
    obtain ⟨b, hb, -, hcleared, -⟩ := hrec.row k b' hk
    rw [hcleared]
    exact h.calm b (List.mem_of_getElem? hb)
  · intro info hinfo
    rw [hinfos] at hinfo
    exact h.drawn info hinfo
  · intro k hkj hk b' hb' hpub hactive hhas
    obtain ⟨b, hb, hinfo, -, -, hother, -⟩ := hrec.row k b' hb'
    obtain ⟨hhas', hvalue, hfirst⟩ := hother hkj
    have hbefore : b.role = .active := by
      apply active_before h.resolved hrec.resolved hrec.advance hb hb' (by rw [← hinfo]; exact hpub)
        hfirst ?_ hactive
      intro i c c' hc hc' hlead hpubc hfail
      obtain ⟨c₀, hc₀, -, -, -, hsame, hkept⟩ := hrec.row i c' hc'
      obtain rfl : c = c₀ := Option.some.inj (hc.symm.trans hc₀)
      by_cases hij : i = j
      · subst hij
        obtain ⟨c₁, hc₁, hrecomputes⟩ := hrow
        obtain rfl : c = c₁ := Option.some.inj (hc.symm.trans hc₁)
        by_contra hne
        exact hkept hne hfail
      · rw [← (hsame hij).2.2, hfail]
    rw [hinfo, hvalue]
    exact hk b hb (by rw [← hinfo]; exact hpub) hbefore (by rw [← hhas']; exact hhas)
  · intro name hv
    refine vacant_of_rows h.resolved hrec.resolved hrec.advance (fun hnone => hnone) ?_ hv
    intro k b b' hb hb' _ hhas
    obtain ⟨b₀, hb₀, -, -, hkept, -⟩ := hrec.row k b' hb'
    obtain rfl : b = b₀ := Option.some.inj (hb.symm.trans hb₀)
    exact hkept hhas

/-! ### One publication -/

/-- The estimate computed again for one row and published. -/
theorem keeps_recompute {s s' : State} {rows : List Bound} {ctx : Context} {j : Nat} (h : Sound sub s)
    (hrow : ∃ c, s.rows[j]? = some c ∧ recomputes c = true) (hrec : Recomputed s.rows rows j)
    (hpublish : Keeps sub { s with rows, ctx } s' ∧ Synced j s') : Keeps sub s s' := by
  obtain ⟨-, hinfos, hsynced, hvacant⟩ := hrec.keeps ctx h hrow
  obtain ⟨hkeeps, hown⟩ := hpublish
  refine ⟨hkeeps.sound, hkeeps.rows.trans hinfos, hkeeps.clears, ?_, ?_⟩
  · intro k hk
    by_cases hkj : k = j
    · rw [hkj]
      exact hown
    · exact hkeeps.synced k (hsynced k hkj hk)
  · intro name hname hv
    exact hkeeps.vacant name hname (hvacant name hv)

theorem publishRow_keeps (hnames : PublishesOwnNames sub) {depth : Nat} {s s' : State} {i : Nat} (h : Sound sub s)
    (hpublish : publishRow depth s i = some s') : Keeps sub s s' ∧ Synced i s' := by
  induction depth generalizing s s' i with
  | zero => cases hpublish
  | succ depth ih =>
      cases publication_of_publishRow hpublish with
      | silent hsilent =>
          refine ⟨Keeps.refl h, ?_⟩
          intro b hb hpub
          exact (hsilent b hb hpub).2
      | removed hb _ hcleared =>
          rw [h.calm _ (List.mem_of_getElem? hb)] at hcleared
          cases hcleared
      | @written b _ hb hpub _ hactive hhas hafter =>
          -- the value is new: it is written first
          have hset := Keeps.of_set hnames (s.data.set b.info.infoType b.value) h hb hpub hactive hhas
            (fun name _ => UPSData.find_set s.data b.info.infoType b.value name)
          cases hafter with
          | nothing => exact hset
          | estimated =>
              apply Keeps.of_set hnames _ h hb hpub hactive hhas
              intro name hname
              rw [UPSData.find_updateRealPower _ hname.2.2.1]
              exact UPSData.find_set s.data b.info.infoType b.value name
          | recomputed hwalk =>
              have hkeeps : Keeps sub { s with data := s.data.set b.info.infoType b.value } s' := by
                refine walk_invariant (P := Keeps sub { s with data := s.data.set b.info.infoType b.value })
                  (Keeps.refl hset.1.sound) ?_ hwalk
                intro j _ t t' ht hstep
                unfold recomputeRow at hstep
                split at hstep
                · obtain rfl := Option.some.inj hstep
                  exact ht
                · rename_i hrecomputes
                  rw [Bool.not_eq_false, Option.any_eq_true] at hrecomputes
                  obtain ⟨c, hc, hrec⟩ := hrecomputes
                  have honValue := recomputed_onValue ht.sound.resolved hc hrec t.ctx (some t.data)
                  have hsound := (honValue.keeps (onValue t.rows j 0 t.ctx (some t.data)).2
                    ht.sound ⟨c, hc, hrec⟩).1
                  exact ht.trans (keeps_recompute ht.sound ⟨c, hc, hrec⟩ honValue (ih hsound hstep))
              exact ⟨hset.1.trans hkeeps, hkeeps.synced i hset.2⟩

/-! ### The rows of a report -/

/-- The names that lost their value in this report are still vacant. -/
def Cleared (s : State) : Prop := ∀ name ∈ s.clears, OwnName name ∧ Vacant name s

theorem Keeps.cleared {s s' : State} (h : Keeps sub s s') (hcleared : Cleared s) : Cleared s' := by
  intro name hname
  rw [h.clears] at hname
  obtain ⟨hown, hvacant⟩ := hcleared name hname
  exact ⟨hown, h.vacant name hown hvacant⟩

/-- A value changes the removal and the value of its own row only, and takes a value away with a removal only. -/
theorem row_of_onValue {binds : List Bound} {i k : Nat} {v : ℚ} {ctx : Context} {data : Option UPSData}
    {b' : Bound} (hb' : (onValue binds i v ctx data).1[k]? = some b') :
    ∃ b, binds[k]? = some b ∧ b'.info = b.info ∧ (k ≠ i → b'.cleared = b.cleared ∧ b'.has = b.has)
      ∧ (b'.cleared = false → b.has = true → b'.has = true)
      ∧ (b'.cleared = true → b.cleared = true ∨ isPublishedRow b.info = true) := by
  obtain ⟨b, own, hb, hrole, hcase⟩ := onValue_row hb'
  refine ⟨b, hb, ?_⟩
  have hown : own.info = b.info ∧ (k ≠ i → own.cleared = b.cleared ∧ own.has = b.has)
      ∧ (own.cleared = false → b.has = true → own.has = true)
      ∧ (own.cleared = true → b.cleared = true ∨ isPublishedRow b.info = true) := by
    rcases hcase with ⟨-, rfl⟩ | ⟨hki, hconv, rfl⟩ | ⟨-, -, rfl | ⟨-, rfl⟩⟩
    · exact ⟨rfl, fun _ => ⟨rfl, rfl⟩, fun _ => id, Or.inl⟩
    · refine ⟨by simp, fun hne => absurd hki hne, ?_, fun _ => Or.inr ?_⟩
      rotate_left
      · simp only [Bound.converts, Bool.and_eq_true] at hconv
        exact hconv.1.2
      intro hcleared hhas
      cases hresult : (convert b.info v ctx data).1 with
      | ok text => simp [Bound.absorb, Bound.take]
      | fail => simpa [Bound.absorb, Bound.refuse] using hhas
      | defer => simpa [Bound.absorb] using hhas
      | clear =>
          rw [hresult] at hcleared
          exact absurd hcleared (by simp [Bound.absorb])
    · exact ⟨rfl, fun _ => ⟨rfl, rfl⟩, fun _ => id, Or.inl⟩
    · exact ⟨rfl, fun _ => ⟨rfl, rfl⟩, fun _ => id, Or.inl⟩
  rw [hrole]
  exact hown

/-- A row that asks for its removal is taken out of the data at once. -/
theorem publishRow_removes {depth : Nat} {s s' : State} {i : Nat} {b : Bound} (hb : s.rows[i]? = some b)
    (hpub : isPublishedRow b.info = true) (hcleared : b.cleared = true)
    (hpublish : publishRow depth s i = some s') :
    s' = { s with
      rows := s.rows.set i { b with cleared := false }
      data := s.data.put b.info.infoType none } := by
  cases depth with
  | zero => cases hpublish
  | succ depth =>
      cases publication_of_publishRow hpublish with
      | silent hsilent =>
          rw [(hsilent b hb hpub).1] at hcleared
          cases hcleared
      | removed hc =>
          obtain rfl := Option.some.inj (hb.symm.trans hc)
          rfl
      | written hc _ hcalm =>
          obtain rfl := Option.some.inj (hb.symm.trans hc)
          rw [hcalm] at hcleared
          cases hcleared

theorem readRow_sound (hnames : PublishesOwnNames sub) {t : Transport} {depth reportId reportType i : Nat} {bytes : List Byte}
    {s s' : State} (h : Sound sub s) (hcleared : Cleared s)
    (hread : readRow t depth reportId reportType bytes s i = some s') :
    Sound sub s' ∧ Cleared s' ∧ infos s'.rows = infos s.rows := by
  unfold readRow at hread
  split at hread
  · obtain rfl := Option.some.inj hread
    exact ⟨h, hcleared, rfl⟩
  rename_i b hb
  split at hread
  · obtain rfl := Option.some.inj hread
    exact ⟨h, hcleared, rfl⟩
  split at hread
  · obtain rfl := Option.some.inj hread
    exact ⟨h, hcleared, rfl⟩
  rename_i u _
  obtain ⟨hresolved, hadvance⟩ :=
    resolved_onValue h.resolved i (HIDParser.extractUsage u bytes) s.ctx (some s.data)
  have hrow := fun (k : Nat) (b' : Bound)
    (h : (onValue s.rows i (HIDParser.extractUsage u bytes) s.ctx (some s.data)).1[k]? = some b') => row_of_onValue h
  generalize onValue s.rows i (HIDParser.extractUsage u bytes) s.ctx (some s.data) = after at *
  obtain ⟨rows, ctx⟩ := after
  dsimp only at hread hresolved hadvance hrow
  have hinfos := hadvance.infos_eq
  have hdrawn : ∀ info ∈ infos rows, info ∈ sub.tables := by
    rw [hinfos]
    exact h.drawn
  by_cases hgave : rows[i]?.any Bound.cleared = true
  · -- the row asked for its removal: the name leaves the data
    rw [if_pos hgave] at hread
    rw [Option.any_eq_true] at hgave
    obtain ⟨b', hb', hb'cleared⟩ := hgave
    obtain ⟨b₀, hb₀, hinfo, -, -, hpub⟩ := hrow i b' hb'
    obtain rfl : b = b₀ := Option.some.inj (hb.symm.trans hb₀)
    have hpublished : isPublishedRow b'.info = true := by
      rw [hinfo]
      apply (hpub hb'cleared).resolve_left
      rw [h.calm b (List.mem_of_getElem? hb)]
      decide
    obtain rfl := publishRow_removes (by exact hb') hpublished hb'cleared hread
    have hset : Resolved (rows.set i { b' with cleared := false }) ∧ Advance rows (rows.set i { b' with cleared := false }) :=
      hresolved.set hb' rfl rfl rfl
    have hadv : Advance s.rows (rows.set i { b' with cleared := false }) :=
      hadvance.trans hset.2
    have hfind : ∀ name, (s.data.put b'.info.infoType none).find name
        = if name = b'.info.infoType then none else s.data.find name :=
      UPSData.find_put s.data b'.info.infoType none
    refine ⟨⟨hset.1, ?_, ?_⟩, ?_, hadv.infos_eq⟩
    · intro c hc
      obtain ⟨k, hk⟩ := List.getElem?_of_mem hc
      by_cases hki : k = i
      · subst hki
        obtain ⟨hlt, -⟩ := List.getElem?_eq_some_iff.mp hb'
        rw [List.getElem?_set_self hlt] at hk
        rw [← Option.some.inj hk]
      · rw [List.getElem?_set_ne (Ne.symm hki)] at hk
        obtain ⟨c₀, hc₀, -, hother, -⟩ := hrow k c hk
        rw [(hother hki).1]
        exact h.calm c₀ (List.mem_of_getElem? hc₀)
    · rw [hadv.infos_eq]
      exact h.drawn
    · intro name hname
      by_cases hsame : name = b'.info.infoType
      · refine ⟨?_, Or.inl ((hfind name).trans (if_pos hsame))⟩
        rw [hsame]
        exact hnames b'.info (hdrawn b'.info (List.mem_map.mpr ⟨b', List.mem_of_getElem? hb', rfl⟩))
          hpublished
      · have hbefore : name ∈ s.clears := by
          rcases List.mem_append.mp hname with hold | hnew
          · exact hold
          · rw [List.mem_singleton, ← hinfo] at hnew
            exact absurd hnew hsame
        obtain ⟨hown, hvacant⟩ := hcleared name hbefore
        refine ⟨hown, vacant_of_rows h.resolved hset.1 hadv ?_ ?_ hvacant⟩
        · intro hnone
          exact (hfind name).trans ((if_neg hsame).trans hnone)
        · intro k c c' hc hc' hpubc hhas
          have hki : k ≠ i := by
            rintro rfl
            obtain rfl : b = c := Option.some.inj (hb.symm.trans hc)
            rw [hinfo] at hsame
            exact hsame (publishes_iff.mp hpubc).2.symm
          change (rows.set i { b' with cleared := false })[k]? = some c' at hc'
          rw [List.getElem?_set_ne (Ne.symm hki)] at hc'
          obtain ⟨c₀, hc₀, -, hother, -⟩ := hrow k c' hc'
          obtain rfl : c = c₀ := Option.some.inj (hc.symm.trans hc₀)
          rw [(hother hki).2]
          exact hhas
  · rw [if_neg hgave] at hread
    have hcalm : ∀ c ∈ rows, c.cleared = false := by
      intro c hc
      obtain ⟨k, hk⟩ := List.getElem?_of_mem hc
      by_cases hki : k = i
      · subst hki
        rw [hk] at hgave
        simpa using hgave
      · obtain ⟨c₀, hc₀, -, hother, -⟩ := hrow k c hk
        rw [(hother hki).1]
        exact h.calm c₀ (List.mem_of_getElem? hc₀)
    have hsound : Sound sub { s with rows, ctx } := ⟨hresolved, hcalm, hdrawn⟩
    obtain ⟨hkeeps, -⟩ := publishRow_keeps hnames hsound hread
    refine ⟨hkeeps.sound, hkeeps.cleared ?_, hkeeps.rows.trans hinfos⟩
    intro name hname
    obtain ⟨hown, hvacant⟩ := hcleared name hname
    refine ⟨hown, vacant_of_rows h.resolved hresolved hadvance (fun hnone => hnone) ?_ hvacant⟩
    intro k c c' hc hc' _ hhas
    obtain ⟨c₀, hc₀, -, -, hkept, -⟩ := hrow k c' hc'
    obtain rfl : c = c₀ := Option.some.inj (hc.symm.trans hc₀)
    exact hkept (hcalm c' (List.mem_of_getElem? hc')) hhas

/-! ### The end of a report -/

theorem endInit_sound {s : State} (h : Sound sub s) (hcleared : Cleared s) :
    Sound sub (endInit s) ∧ Cleared (endInit s) ∧ infos (endInit s).rows = infos s.rows := by
  unfold endInit
  split
  · obtain ⟨hresolved, hadvance⟩ := resolved_finishInit h.resolved
    refine ⟨⟨hresolved, ?_, ?_⟩, ?_, hadvance.infos_eq⟩
    · intro b' hb'
      obtain ⟨k, hk⟩ := List.getElem?_of_mem hb'
      obtain ⟨b, hb, hrow⟩ := finishInit_row hk
      rw [hrow]
      exact (finishRow_cleared b).trans (h.calm b (List.mem_of_getElem? hb))
    · change ∀ info ∈ infos (finishInit s.rows), _
      rw [hadvance.infos_eq]
      exact h.drawn
    · intro name hname
      obtain ⟨hown, hvacant⟩ := hcleared name hname
      refine ⟨hown, vacant_of_rows h.resolved hresolved hadvance (fun hnone => hnone) ?_ hvacant⟩
      intro k b b' hb hb' _ hhas
      obtain ⟨b₀, hb₀, hrow⟩ := finishInit_row hb'
      obtain rfl : b = b₀ := Option.some.inj (hb.symm.trans hb₀)
      rw [hrow]
      exact (finishRow_has b).trans hhas
  · exact ⟨h, hcleared, rfl⟩

theorem keeps_statusKeys (hnames : PublishesOwnNames sub) {s : State} (h : Sound sub s) (status : StatusBits) :
    Keeps sub s { s with data := (statusKeys status).foldl (fun d key => d.put key.1 key.2) s.data } := by
  apply Keeps.of_data hnames h
  intro name hown
  apply UPSData.find_foldl_put
  rintro key hkey rfl
  have := startsWith_of_mem_statusKeys hkey
  rw [hown.2.2.2] at this
  exact absurd this (by decide)

theorem keeps_publishAlarms (hnames : PublishesOwnNames sub) {s : State} (h : Sound sub s) : Keeps sub s (publishAlarms s) :=
  Keeps.of_data hnames h fun _ hown => UPSData.find_applyAlarmVariables s.data _ hown.1 hown.2.1

theorem length_of_infos {binds binds' : List Bound} (h : infos binds = infos binds') :
    binds.length = binds'.length := by
  simpa [infos] using congrArg List.length h

/-- A publication of all rows leaves every active value in the data. -/
theorem publishNutRows_keeps (hnames : PublishesOwnNames sub) {depth : Nat} {s s' : State} (h : Sound sub s)
    (hpublish : publishNutRows sub depth s = some s') : Keeps sub s s' ∧ ∀ k, Synced k s' := by
  unfold publishNutRows at hpublish
  obtain ⟨t, hwalk, hkeys⟩ := Option.bind_eq_some_iff.mp hpublish
  obtain rfl := Option.some.inj hkeys
  have hsettled := walk_settles (P := Keeps sub s) (Q := Synced) (Keeps.refl h) (by
    intro i _ a a' ha hstep
    obtain ⟨hkeeps, hsynced⟩ := publishRow_keeps hnames ha.sound hstep
    exact ⟨ha.trans hkeeps, hsynced, hkeeps.synced⟩) hwalk
  obtain ⟨hkeeps, hall, -⟩ := hsettled
  have hstatus := keeps_statusKeys hnames hkeeps.sound (sub.filterStatus t.ctx.status)
  refine ⟨hkeeps.trans hstatus, ?_⟩
  intro k
  apply hstatus.synced
  by_cases hk : k < s.rows.length
  · exact hall k (List.mem_range.mpr hk)
  · intro b hb
    obtain ⟨hk', -⟩ := List.getElem?_eq_some_iff.mp hb
    rw [length_of_infos hkeeps.rows] at hk'
    exact absurd hk' hk

theorem fresh_boundRows {t : Transport} {b : Bound} (h : b ∈ boundRows sub t) :
    Fresh b := by
  rcases List.mem_append.mp h with hown | htail
  · exact fresh_bindRows hown
  · exact fresh_bindRows htail

theorem Sound.map {s : State} {f : Bound → Bound} (h : Sound sub s) (hinfo : ∀ b, (f b).info = b.info)
    (hfirst : ∀ b, (f b).first = b.first) (hrole : ∀ b, (f b).role = b.role)
    (hcleared : ∀ b, (f b).cleared = b.cleared) : Sound sub { s with rows := s.rows.map f } := by
  have hvotes : votes (s.rows.map f) = votes s.rows := by
    unfold votes
    rw [List.map_map]
    apply List.map_congr_left
    intro b _
    simp [hinfo, hfirst]
  have hroles : (s.rows.map f).map Bound.role = s.rows.map Bound.role := by
    rw [List.map_map]
    apply List.map_congr_left
    intro b _
    exact hrole b
  refine ⟨h.resolved.congr hvotes hroles, ?_, ?_⟩
  · intro b' hb'
    obtain ⟨b, hb, rfl⟩ := List.mem_map.mp hb'
    rw [hcleared]
    exact h.calm b hb
  · change ∀ info ∈ infos (s.rows.map f), _
    rw [← infos_eq_votes, hvotes, infos_eq_votes]
    exact h.drawn

theorem applyAbsentOverride_sound {s : State} (h : Sound sub s) (override : String × String) :
    Sound sub { s with rows := applyAbsentOverride s.rows override } := by
  apply h.map
  all_goals
    intro b
    split <;> rfl

theorem bindNutTable_sound (t : Transport) {s : State}
    (h : Sound sub s) : Sound sub (bindNutTable sub t s) := by
  unfold bindNutTable
  split
  · exact h
  · have hresolved : Resolved (resolve (boundRows sub t)) :=
      (waiting_of_fresh fun _ hb => fresh_boundRows hb).resolved_resolve
    have hstart : Sound sub { s with rows := resolve (boundRows sub t) } := by
      refine ⟨hresolved, ?_, ?_⟩
      · intro b' hb'
        obtain ⟨k, hk⟩ := List.getElem?_of_mem hb'
        obtain ⟨b, hb, hrow⟩ := getElem?_of_resolve hk
        rw [hrow]
        obtain ⟨-, -, -, -, hcleared, -⟩ := (fresh_boundRows (List.mem_of_getElem? hb)).spec
        exact hcleared
      · intro info hinfo
        rw [infos_resolve] at hinfo
        unfold boundRows infos at hinfo
        rw [List.map_append] at hinfo
        rcases List.mem_append.mp hinfo with hown | htail
        · exact List.mem_append_left _ (mem_infos_bindRows hown)
        · exact List.mem_append_right _ (mem_infos_bindRows htail)
    have hoverrides : ∀ (overrides : List (String × String)) (rows : List Bound), Sound sub { s with rows } →
        Sound sub { s with rows := overrides.foldl applyAbsentOverride rows } := by
      intro overrides
      induction overrides with
      | nil => exact fun _ hrows => hrows
      | cons override rest ih => exact fun rows hrows => ih _ (applyAbsentOverride_sound hrows override)
    obtain ⟨hres, hcalm, hown⟩ := hoverrides s.absentOverrides _ hstart
    exact ⟨hres, hcalm, hown⟩

/-! ### Runs -/

/-- After a report: the active values are in the data under unique keys, and the removed names are vacant. -/
structure Mirrors (s : State) : Prop where
  synced : ∀ (k : Nat) (b : Bound), s.rows[k]? = some b → isPublishedRow b.info = true →
    b.role = .active → b.has = true → s.data.find b.info.infoType = some b.value
  unique : s.data.params.keys.Nodup
  cleared : ∀ name ∈ s.clears, s.data.find name = none
    ∨ ∃ (k : Nat) (b : Bound), s.rows[k]? = some b ∧ publishes b.info name = true
      ∧ b.role = .active ∧ b.has = true

theorem Mirrors.of_synced {s : State} (hsynced : ∀ k, Synced k s) (hcleared : Cleared s) : Mirrors s where
  synced := fun k b hb => hsynced k b hb
  unique := s.data.params.nodup
  cleared := fun name hname => (hcleared name hname).2

theorem readRows_sound (hnames : PublishesOwnNames sub) {t : Transport} {depth reportId reportType : Nat} {bytes : List Byte} {s s' : State}
    (h : Sound sub s) (hcleared : Cleared s)
    (hread : readRows t depth reportId reportType bytes s = some s') : Sound sub s' ∧ Cleared s' := by
  refine readRows_invariant (P := fun s => Sound sub s ∧ Cleared s) ?_ ⟨h, hcleared⟩ hread
  intro i a a' ha hstep
  obtain ⟨hsound, hcleared', -⟩ := readRow_sound hnames ha.1 ha.2 hstep
  exact ⟨hsound, hcleared'⟩

theorem sound_begin (t : Transport) {s : State} (h : Sound sub s) :
    Sound sub (bindNutTable sub t { s with clears := [] }) ∧ Cleared (bindNutTable sub t { s with clears := [] }) := by
  have hclears : (bindNutTable sub t { s with clears := [] }).clears = [] := by
    unfold bindNutTable
    split <;> rfl
  refine ⟨bindNutTable_sound t ⟨h.resolved, h.calm, h.drawn⟩, ?_⟩
  intro name hname
  rw [hclears] at hname
  exact absurd hname (by simp)

theorem postDecode_mirrors (hnames : PublishesOwnNames sub) {t : Transport}
    {depth reportId reportType : Nat} {bytes : List Byte} {s s' : State} (h : Sound sub s)
    (hreport : postDecode sub t depth reportId reportType bytes s = some s') : Sound sub s' ∧ Mirrors s' := by
  unfold postDecode at hreport
  obtain ⟨hbound, hcleared⟩ := sound_begin t h
  generalize bindNutTable sub t { s with clears := [] } = bound at *
  dsimp only at hreport
  split at hreport
  · rename_i hempty
    obtain rfl := Option.some.inj hreport
    have hkeeps := keeps_publishAlarms hnames hbound
    refine ⟨hkeeps.sound, Mirrors.of_synced ?_ (hkeeps.cleared hcleared)⟩
    intro k
    apply hkeeps.synced
    intro b hb
    rw [hempty] at hb
    exact absurd hb (by simp)
  · obtain ⟨read, hread, hreport⟩ := Option.bind_eq_some_iff.mp hreport
    obtain ⟨published, hpublish, hlast⟩ := Option.bind_eq_some_iff.mp hreport
    obtain rfl := Option.some.inj hlast
    obtain ⟨hsound, hcleared'⟩ := readRows_sound hnames hbound hcleared hread
    obtain ⟨hinit, hclearedInit, -⟩ := endInit_sound hsound hcleared'
    have hwalk : Sound sub (walkStatus (endInit read)) := ⟨hinit.resolved, hinit.calm, hinit.drawn⟩
    obtain ⟨hkeeps, hsynced⟩ := publishNutRows_keeps hnames hwalk hpublish
    have halarms := keeps_publishAlarms hnames hkeeps.sound
    refine ⟨halarms.sound, Mirrors.of_synced (fun k => halarms.synced k (hsynced k)) ?_⟩
    exact halarms.cleared (hkeeps.cleared hclearedInit)

theorem takeStringAt_sound {s : State} {rows : List Bound} (h : Sound sub { s with rows }) (index : Nat)
    (text : String) (i : Nat) : Sound sub { s with rows := takeStringAt index text rows i } := by
  unfold takeStringAt
  split
  · obtain ⟨hresolved, hadvance⟩ :=
      resolved_onString h.resolved i (String.ofList (text.toList.take 19))
    refine ⟨hresolved, ?_, ?_⟩
    · intro b' hb'
      obtain ⟨k, hk⟩ := List.getElem?_of_mem hb'
      obtain ⟨b, hb, hcleared⟩ := onString_cleared hk
      rw [hcleared]
      exact h.calm b (List.mem_of_getElem? hb)
    · change ∀ info ∈ infos (onString rows i _), _
      rw [hadvance.infos_eq]
      exact h.drawn
  · exact h

theorem takeString_sound {s : State} (h : Sound sub s) (index : Nat) (text : String) :
    Sound sub { s with rows := takeString index text s.rows } := by
  unfold takeString
  generalize List.range s.rows.length = is
  have hall : ∀ rows : List Bound, Sound sub { s with rows } →
      Sound sub { s with rows := is.foldl (takeStringAt index text) rows } := by
    induction is with
    | nil => exact fun _ hrows => hrows
    | cons i is ih => exact fun rows hrows => ih _ (takeStringAt_sound hrows index text i)
  exact hall s.rows h

theorem finish_sound {s : State} (h : Sound sub s) : Sound sub { s with rows := finishInit s.rows } := by
  obtain ⟨hresolved, hadvance⟩ := resolved_finishInit h.resolved
  refine ⟨hresolved, ?_, ?_⟩
  · intro b' hb'
    obtain ⟨k, hk⟩ := List.getElem?_of_mem hb'
    obtain ⟨b, hb, hrow⟩ := finishInit_row hk
    rw [hrow]
    exact (finishRow_cleared b).trans (h.calm b (List.mem_of_getElem? hb))
  · change ∀ info ∈ infos (finishInit s.rows), _
    rw [hadvance.infos_eq]
    exact h.drawn

theorem step_sound (hnames : PublishesOwnNames sub) {depth : Nat} {event : Event}
    {s s' : State} (h : Sound sub s) (hstep : step sub depth s event = some s') : Sound sub s' := by
  cases event with
  | report t reportId reportType bytes => exact (postDecode_mirrors hnames h hstep).1
  | string t index text =>
      simp only [step, parseStringDescriptor] at hstep
      split at hstep
      · have hrows := takeString_sound h index text
        have hdata : ∀ data, Sound sub { s with data, rows := takeString index text s.rows } :=
          fun data => ⟨hrows.resolved, hrows.calm, hrows.drawn⟩
        exact (publishNutRows_keeps hnames (hdata _) hstep).1.sound
      · obtain rfl := Option.some.inj hstep
        exact ⟨h.resolved, h.calm, h.drawn⟩
  | hostWrite key value =>
      obtain rfl := Option.some.inj hstep
      exact ⟨h.resolved, h.calm, h.drawn⟩
  | hostRemove key =>
      obtain rfl := Option.some.inj hstep
      exact ⟨h.resolved, h.calm, h.drawn⟩
  | noteHostValue name value =>
      obtain rfl := Option.some.inj hstep
      apply h.map
      all_goals
        intro b
        split
        · rfl
        · split <;> rfl
  | setDriverSideValue name value =>
      obtain rfl := Option.some.inj hstep
      obtain ⟨hres, hcalm, hown⟩ := applyAbsentOverride_sound h (name, value)
      exact ⟨hres, hcalm, hown⟩
  | resetDriverSideValue name =>
      obtain rfl := Option.some.inj hstep
      have hmap : Sound sub { s with rows := (resetDriverSideValue name s).2.rows } := by
        apply h.map
        all_goals
          intro b
          split <;> rfl
      exact ⟨hmap.resolved, hmap.calm, hmap.drawn⟩
  | completeInitialPoll =>
      obtain rfl := Option.some.inj hstep
      unfold completeInitialPoll
      dsimp only
      split
      · obtain ⟨hres, hcalm, hown⟩ := finish_sound h
        exact ⟨hres, hcalm, hown⟩
      · exact ⟨h.resolved, h.calm, h.drawn⟩
  | firstFullDone =>
      obtain rfl := Option.some.inj hstep
      exact ⟨h.resolved, h.calm, h.drawn⟩
  | inputs ctx =>
      obtain rfl := Option.some.inj hstep
      exact ⟨h.resolved, h.calm, h.drawn⟩

theorem sound_initial (data : UPSData) : Sound sub (State.initial data) where
  resolved := by
    intro k b hb
    exact absurd hb (by simp [State.initial])
  calm := by simp [State.initial]
  drawn := by simp [State.initial, infos]

theorem sound_run (hnames : PublishesOwnNames sub) {depth : Nat} {data : UPSData} {history : List Event}
    {s : State} (hrun : history.foldlM (step sub depth) (State.initial data) = some s) : Sound sub s :=
  walk_invariant (sound_initial data) (fun _ _ _ _ ha hstep => step_sound hnames ha hstep) hrun

/-- After every report of every run the data mirrors the active rows. -/
theorem store_mirrors_active_rows (hnames : PublishesOwnNames sub) (depth : Nat)
    (data : UPSData) (history : List Event) {s s' : State}
    (hrun : history.foldlM (step sub depth) (State.initial data) = some s) (t : Transport)
    (reportId reportType : Nat) (bytes : List Byte)
    (hreport : postDecode sub t depth reportId reportType bytes s = some s') : Mirrors s' :=
  (postDecode_mirrors hnames (sound_run hnames hrun) hreport).2

/-! ### Publications return -/

/-- No row that computes the real power publishes the load it is computed from. -/
def LoadIsMeasured (rows : List HidInfo) : Prop :=
  ∀ info ∈ rows, info.conv = .eatonComputeRealpower → info.infoType ≠ "ups.load"

/-- A row other than the load never publishes another one. -/
theorem publishRow_leaf {depth : Nat} {s : State} {i : Nat}
    (h : ∀ b, s.rows[i]? = some b → b.info.infoType ≠ "ups.load") :
    ∃ s', publishRow (depth + 1) s i = some s' := by
  unfold publishRow
  cases hb : s.rows[i]? with
  | none => exact ⟨_, rfl⟩
  | some b =>
      have hname := h b hb
      dsimp only
      repeat' split
      all_goals exact ⟨_, rfl⟩

theorem publishRow_returns (hnames : PublishesOwnNames sub) {depth : Nat} {s : State} {i : Nat}
    (h : Sound sub s ∨ ∃ b, s.rows[i]? = some b ∧ b.cleared = true)
    (hload : LoadIsMeasured sub.tables) : ∃ s', publishRow (depth + 2) s i = some s' := by
  unfold publishRow
  cases hb : s.rows[i]? with
  | none => exact ⟨_, rfl⟩
  | some b =>
      dsimp only
      split
      · exact ⟨_, rfl⟩
      rename_i hkind
      split
      · exact ⟨_, rfl⟩
      rename_i hcleared
      split
      · exact ⟨_, rfl⟩
      rename_i hready
      split
      · exact ⟨_, rfl⟩
      split
      · split <;> exact ⟨_, rfl⟩
      split
      · exact ⟨_, rfl⟩
      have hsound : Sound sub s := by
        apply h.resolve_right
        rintro ⟨c, hc, hccleared⟩
        obtain rfl : b = c := Option.some.inj (hb.symm.trans hc)
        exact hcleared hccleared
      have hpub : isPublishedRow b.info = true := by
        rw [← Bool.not_eq_false]
        exact fun hnot => hkind (not_isPublishedRow.mpr hnot)
      simp only [not_or, Decidable.not_not, Bool.not_eq_false] at hready
      have hset := Keeps.of_set hnames (s.data.set b.info.infoType b.value) hsound hb hpub hready.1
        hready.2 (fun name _ => UPSData.find_set s.data b.info.infoType b.value name)
      have hwalk : ∃ final, (List.range s.rows.length).foldlM
          (fun s j =>
            if (s.rows[j]?.any recomputes) = false then some s
            else
              publishRow (depth + 1) { s with
                rows := (onValue s.rows j 0 s.ctx (some s.data)).1
                ctx := (onValue s.rows j 0 s.ctx (some s.data)).2 } j)
          { s with data := s.data.set b.info.infoType b.value } = some final
            ∧ Keeps sub { s with data := s.data.set b.info.infoType b.value } final := by
        refine walk_returns _ (Keeps.refl hset.1.sound) ?_
        intro j _ t ht
        split
        · exact ⟨t, rfl, ht⟩
        · rename_i hrecomputes
          rw [Bool.not_eq_false, Option.any_eq_true] at hrecomputes
          obtain ⟨c, hc, hrec⟩ := hrecomputes
          have honValue := recomputed_onValue ht.sound.resolved hc hrec t.ctx (some t.data)
          have hafter := honValue.keeps (onValue t.rows j 0 t.ctx (some t.data)).2 ht.sound ⟨c, hc, hrec⟩
          -- the estimate itself is no load, so its publication goes no deeper
          have hleaf : ∃ t', publishRow (depth + 1) { t with
              rows := (onValue t.rows j 0 t.ctx (some t.data)).1
              ctx := (onValue t.rows j 0 t.ctx (some t.data)).2 } j = some t' := by
            apply publishRow_leaf
            intro b' hb'
            obtain ⟨b₀, hb₀, hinfo, -⟩ := honValue.row j b' hb'
            obtain rfl : c = b₀ := Option.some.inj (hc.symm.trans hb₀)
            rw [hinfo]
            have hmem : c.info ∈ infos t.rows := List.mem_map.mpr ⟨c, List.mem_of_getElem? hc, rfl⟩
            simp only [recomputes, Bool.and_eq_true, decide_eq_true_eq] at hrec
            exact hload c.info (ht.sound.drawn c.info hmem) hrec.1
          obtain ⟨t', ht'⟩ := hleaf
          refine ⟨t', ht', ht.trans ?_⟩
          exact keeps_recompute ht.sound ⟨c, hc, hrec⟩ honValue (publishRow_keeps hnames hafter.1 ht')
      obtain ⟨final, hfinal, -⟩ := hwalk
      exact ⟨final, hfinal⟩

theorem readRow_returns (hnames : PublishesOwnNames sub) (hload : LoadIsMeasured sub.tables)
    {t : Transport} {depth reportId reportType : Nat} {bytes : List Byte} {s : State} (h : Sound sub s)
    (i : Nat) : ∃ s', readRow t (depth + 2) reportId reportType bytes s i = some s' := by
  unfold readRow
  split
  · exact ⟨_, rfl⟩
  split
  · exact ⟨_, rfl⟩
  split
  · exact ⟨_, rfl⟩
  rename_i u _
  obtain ⟨hresolved, hadvance⟩ :=
    resolved_onValue h.resolved i (HIDParser.extractUsage u bytes) s.ctx (some s.data)
  have hrow := fun (k : Nat) (b' : Bound)
    (h : (onValue s.rows i (HIDParser.extractUsage u bytes) s.ctx (some s.data)).1[k]? = some b') => row_of_onValue h
  generalize onValue s.rows i (HIDParser.extractUsage u bytes) s.ctx (some s.data) = after at *
  obtain ⟨rows, ctx⟩ := after
  dsimp only at hresolved hadvance hrow ⊢
  have hdrawn : ∀ info ∈ infos rows, info ∈ sub.tables := by
    rw [hadvance.infos_eq]
    exact h.drawn
  refine publishRow_returns hnames ?_ hload
  by_cases hgave : rows[i]?.any Bound.cleared = true
  · rw [Option.any_eq_true] at hgave
    exact Or.inr hgave
  · refine Or.inl ⟨hresolved, ?_, hdrawn⟩
    intro c hc
    obtain ⟨k, hk⟩ := List.getElem?_of_mem hc
    by_cases hki : k = i
    · subst hki
      rw [hk] at hgave
      simpa using hgave
    · obtain ⟨c₀, hc₀, -, hother, -⟩ := hrow k c hk
      rw [(hother hki).1]
      exact h.calm c₀ (List.mem_of_getElem? hc₀)

/-- Two levels of the stack are enough for every report of such tables. -/
theorem postDecode_returns (hnames : PublishesOwnNames sub) (hload : LoadIsMeasured sub.tables)
    (t : Transport) (depth reportId reportType : Nat) (bytes : List Byte) {s : State} (h : Sound sub s) :
    ∃ s', postDecode sub t (depth + 2) reportId reportType bytes s = some s' := by
  unfold postDecode
  obtain ⟨hbound, hcleared⟩ := sound_begin t h
  generalize bindNutTable sub t { s with clears := [] } = bound at *
  dsimp only
  split
  · exact ⟨_, rfl⟩
  obtain ⟨read, hread, hsound, hcleared'⟩ : ∃ read,
      readRows t (depth + 2) reportId reportType bytes bound = some read ∧ Sound sub read ∧ Cleared read := by
    unfold readRows
    split
    · exact ⟨bound, rfl, hbound, hcleared⟩
    · refine walk_returns (fun s => Sound sub s ∧ Cleared s) ⟨hbound, hcleared⟩ ?_
      intro i _ a ha
      have hread : ∃ a', readRow t (depth + 2) reportId reportType bytes a i = some a' :=
        readRow_returns hnames hload ha.1 i
      obtain ⟨a', ha'⟩ := hread
      obtain ⟨hsound, hcleared', -⟩ := readRow_sound hnames ha.1 ha.2 ha'
      exact ⟨a', ha', hsound, hcleared'⟩
  obtain ⟨hinit, -, -⟩ := endInit_sound hsound hcleared'
  have hwalk : Sound sub (walkStatus (endInit read)) := ⟨hinit.resolved, hinit.calm, hinit.drawn⟩
  obtain ⟨published, hpublished, -⟩ : ∃ published,
      (List.range (walkStatus (endInit read)).rows.length).foldlM (publishRow (depth + 2))
        (walkStatus (endInit read)) = some published ∧ Sound sub published := by
    apply walk_returns _ hwalk
    intro i _ a ha
    have hrow : ∃ a', publishRow (depth + 2) a i = some a' := publishRow_returns hnames (Or.inl ha) hload
    obtain ⟨a', ha'⟩ := hrow
    exact ⟨a', ha', (publishRow_keeps hnames ha ha').1.sound⟩
  simp only [hread, publishNutRows, hpublished, Option.bind_eq_bind, Option.bind_some]
  exact ⟨_, rfl⟩

/-- Every report of every run is decoded to its end. -/
theorem report_returns (hnames : PublishesOwnNames sub) (hload : LoadIsMeasured sub.tables) {depth : Nat}
    {data : UPSData} {history : List Event} {s : State}
    (hrun : history.foldlM (step sub (depth + 2)) (State.initial data) = some s) (t : Transport)
    (reportId reportType : Nat) (bytes : List Byte) :
    ∃ s', postDecode sub t (depth + 2) reportId reportType bytes s = some s' :=
  postDecode_returns hnames hload t depth reportId reportType bytes (sound_run hnames hrun)

/-! ### A device with one row -/

def loadDriver : Subdriver :=
  { hid2nut :=
      [ { infoType := "ups.load", infoFlags := 0, infoLen := 0,
          hidpath := some "UPS.PowerSummary.PercentLoad", dfl := some "%.0f", hidflags := 0,
          conv := .number, lkp := [] } ]
    genericHid2Nut := none
    supersededGenericPaths := []
    filterStatus := id
    acceptPollReport := fun _ _ => true }

def loadDevice : Transport :=
  { usages :=
      [ { usage := 0x00840035, reportId := 1, reportType := 3, bitOffset := 0, bitSize := 8,
          found := true, logicalMin := 0, logicalMax := 255, exponent := 0, unit := 0,
          path := "UPS.PowerSummary.PercentLoad", collIndex := [0, 0, 0, 0, 0, 0, 0, 0] } ]
    noInterruptPipe := false
    iManufacturer := 1
    iProduct := 2
    iSerialNumber := 3 }

/-- The load is read, overwritten by the host and read again. -/
def loadHistory : List Event := [.report loadDevice 1 3 [1, 30], .firstFullDone, .hostWrite "ups.load" "7"]

theorem store_mirrors_load :
    ∃ s s', loadHistory.foldlM (step loadDriver 2) (State.initial UPSData.empty) = some s
      ∧ postDecode loadDriver loadDevice 2 1 3 [1, 31] s = some s'
      ∧ s'.data.find "ups.load" = some "31" ∧ Mirrors s' := by
  have hread : ((loadHistory.foldlM (step loadDriver 2) (State.initial UPSData.empty)).bind
      (postDecode loadDriver loadDevice 2 1 3 [1, 31])).map (·.data.find "ups.load")
        = some (some "31") := by decide +kernel
  obtain ⟨s', hs', hfind⟩ := Option.map_eq_some_iff.mp hread
  obtain ⟨s, hrun, hreport⟩ := Option.bind_eq_some_iff.mp hs'
  exact ⟨s, s', hrun, hreport, hfind,
    store_mirrors_active_rows (by decide +kernel) 2 UPSData.empty loadHistory hrun loadDevice 1 3 [1, 31] hreport⟩

end EspNut.GenericDriver
