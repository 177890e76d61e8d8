import EspNut.Driver.Mirror
import EspNut.Driver.Rows
import EspNut.Table.WritableRows

/-!
# SET VAR on a row of the device

The driver plans what a SET VAR writes: the number of the text, into a FEATURE field of the row that owns the name. The report that is read back then gives the row its text. An active row is left exactly as it is while the other rows of the report take theirs, so what it takes in its own turn is what is published.
-/

namespace EspNut.GenericDriver

open Lib NutTable HIDParser

/-! ### The plan -/

variable {usages : List HIDUsageDef} {data : UPSData} {name value : String} {s s' : State}

/-- What a planned write stands for. -/
structure Planned (usages : List HIDUsageDef) (data : UPSData) (value : String) (s : State) (b : Bound) (u : HIDUsageDef)
    (raw : Int) : Prop where
  writable : hasFlag b.info.infoFlags stFlagRW = true
  field : featureField usages b = some u
  number : ∃ x, encode b.info value s.ctx data = some x ∧ toLogical u x = some raw

/-- For a row that the firmware does not keep, either a write is planned or the call fails. -/
theorem planSet_cases (usages : List HIDUsageDef) (data : UPSData) (value : String) {b : Bound}
    (howner : ownerRow s.rows name = some b) (hkept : hasFlag b.info.hidflags huFlagAbsent = false) :
    (∃ status, status ≠ .ok ∧ planSet usages data name value s = .error status)
      ∨ ∃ u raw, planSet usages data name value s = .ok (.hid b.info.infoType u raw value)
        ∧ Planned usages data value s b u raw := by
  unfold planSet
  split
  · exact Or.inl ⟨_, by decide, rfl⟩
  rw [howner]
  dsimp only
  split
  · exact Or.inl ⟨_, by decide, rfl⟩
  rename_i hwritable
  rw [if_neg (by simp [hkept])]
  cases hencode : encode b.info value s.ctx data with
  | none => exact Or.inl ⟨_, by decide, rfl⟩
  | some x =>
      cases hfield : featureField usages b with
      | none => exact Or.inl ⟨_, by decide, rfl⟩
      | some u =>
          cases hraw : toLogical u x with
          | none => exact Or.inl ⟨.conversionFailed, by decide, by simp [hraw]⟩
          | some raw =>
              refine Or.inr ⟨u, raw, by simp [hraw], Bool.not_eq_false _ ▸ hwritable, hfield, x, hencode, hraw⟩

/-- The report of the planned field is read into the row by the same field. -/
theorem pickUsage_of_featureField {t : Transport} {b : Bound} {u : HIDUsageDef} (h : featureField t.usages b = some u) :
    pickUsage t u.reportId 3 b = some u := by
  unfold featureField at h
  unfold pickUsage
  obtain ⟨hu, before, after, hsplit, hbefore⟩ := List.find?_eq_some_iff_append.mp h
  refine List.find?_eq_some_iff_append.mpr ⟨?_, before, after, hsplit, ?_⟩
  · simpa using hu
  · intro v hv
    have hother := hbefore v hv
    simp only [Bool.not_eq_true', decide_eq_false_iff_not, not_and] at hother ⊢
    exact fun _ => hother

theorem mem_of_featureField {b : Bound} {u : HIDUsageDef} (h : featureField usages b = some u) :
    u ∈ usages ∧ u.reportType = 3 := by
  unfold featureField at h
  refine ⟨?_, by simpa using List.find?_some h⟩
  have hmem := List.mem_of_find?_eq_some h
  unfold Bound.usages at hmem
  rcases List.mem_append.mp hmem with hown | htwin
  · exact List.mem_of_getElem? (Option.mem_toList.mp hown)
  · obtain ⟨twin, -, htwin⟩ := Option.bind_eq_some_iff.mp (Option.mem_toList.mp htwin)
    exact List.mem_of_getElem? htwin

/-! ### A row through the turns of the others -/

/-- An active row that publishes its own values. -/
structure Settled (b : Bound) : Prop where
  published : isPublishedRow b.info = true
  active : b.role = .active
  calm : b.cleared = false
  measured : recomputes b = false

/-- The row at an index is exactly this one. -/
structure HasRow (i : Nat) (b : Bound) (s : State) : Prop where
  resolved : Resolved s.rows
  row : s.rows[i]? = some b

variable {b : Bound} {i : Nat}

/-- A row whose change is settled with the others keeps its role. -/
theorem hasRow_of_evolves {rows rows' : List Bound} (hsettled : Settled b) (hres : Resolved rows) (hb : rows[i]? = some b)
    (hevolves : Evolves rows rows') : ∃ b', rows'[i]? = some b' ∧ b'.role = .active := by
  obtain ⟨hres', hadv⟩ := hevolves.roles hres
  obtain ⟨hi, -⟩ := List.getElem?_eq_some_iff.mp hb
  have hi' : i < rows'.length := by
    rw [hadv.length_eq]
    exact hi
  have hb' : rows'[i]? = some rows'[i] := List.getElem?_eq_getElem hi'
  refine ⟨rows'[i], hb', ?_⟩
  rw [role_stable hres hres' hadv hb hb' hsettled.published (by rw [hsettled.active]; decide), hsettled.active]

theorem row_of_role {b b' : Bound} (h : b' = { b with role := b'.role }) (hrole : b'.role = b.role) : b' = b := by
  rw [h, hrole]

theorem HasRow.onValue (h : HasRow i b s) (hsettled : Settled b) {j : Nat} (hj : j ≠ i) (v : ℚ) (clears : List String) :
    HasRow i b { s with
      rows := (onValue s.rows j v s.ctx (some s.data)).1
      ctx := (onValue s.rows j v s.ctx (some s.data)).2
      clears } := by
  have hevolves := evolves_onValue s.rows j v s.ctx (some s.data)
  obtain ⟨b', hb', hactive⟩ := hasRow_of_evolves hsettled h.resolved h.row hevolves
  obtain ⟨c, own, hc, hrow, hcase⟩ := onValue_row hb'
  obtain rfl : b = c := Option.some.inj (h.row.symm.trans hc)
  have hown : own = b := by
    rcases hcase with ⟨-, hsame⟩ | ⟨hsame, -⟩ | ⟨hsame, -⟩
    · exact hsame
    · exact absurd hsame.symm hj
    · exact absurd hsame.symm hj
  rw [hown] at hrow
  refine ⟨(hevolves.roles h.resolved).1, ?_⟩
  show (NutTable.onValue s.rows j v s.ctx (some s.data)).1[i]? = some b
  rw [hb', row_of_role hrow (hactive.trans hsettled.active.symm)]

theorem HasRow.publishRow {depth j : Nat} (h : HasRow i b s) (hsettled : Settled b)
    (hpublish : publishRow depth s j = some s') : HasRow i b s' := by
  refine publishRow_invariant ?_ ?_ ?_ ?_ h hpublish
  · intro t k c hc _ ht
    have hset : Resolved (t.rows.set k { c with cleared := false })
        ∧ Advance t.rows (t.rows.set k { c with cleared := false }) := ht.resolved.set hc rfl rfl rfl
    refine ⟨hset.1, ?_⟩
    show (t.rows.set k { c with cleared := false })[i]? = some b
    by_cases hki : k = i
    · subst hki
      obtain rfl : b = c := Option.some.inj (ht.row.symm.trans hc)
      obtain ⟨hk, -⟩ := List.getElem?_eq_some_iff.mp hc
      rw [List.getElem?_set_self hk, ← hsettled.calm]
    · rw [List.getElem?_set_ne hki]
      exact ht.row
  · exact fun t k c _ _ ht => ⟨ht.resolved, ht.row⟩
  · exact fun t ht => ⟨ht.resolved, ht.row⟩
  · intro t k c hc hrec ht
    have hki : k ≠ i := by
      rintro rfl
      obtain rfl : b = c := Option.some.inj (ht.row.symm.trans hc)
      rw [hsettled.measured] at hrec
      cases hrec
    exact ht.onValue hsettled hki 0 t.clears

theorem HasRow.readRow {t : Transport} {depth reportId reportType j : Nat} {bytes : List Byte} (h : HasRow i b s)
    (hsettled : Settled b) (hj : j ≠ i) (hread : readRow t depth reportId reportType bytes s j = some s') : HasRow i b s' := by
  rcases readRow_cases hread with rfl | ⟨v, clears, hpublish⟩
  · exact h
  · exact (h.onValue hsettled hj v clears).publishRow hsettled hpublish

theorem HasRow.endInit (h : HasRow i b s) (hsettled : Settled b) (hread : b.first ≠ .unread) : HasRow i b (endInit s) := by
  unfold GenericDriver.endInit
  split
  · have hevolves := evolves_finishInit s.rows
    obtain ⟨b', hb', hactive⟩ := hasRow_of_evolves hsettled h.resolved h.row hevolves
    obtain ⟨c, hc, hrow⟩ := finishInit_row hb'
    obtain rfl : b = c := Option.some.inj (h.row.symm.trans hc)
    have hfinished : finishRow b = b := by
      unfold finishRow
      simp [hread]
    rw [hfinished] at hrow
    refine ⟨(hevolves.roles h.resolved).1, ?_⟩
    show (finishInit s.rows)[i]? = some b
    rw [hb', row_of_role hrow (hactive.trans hsettled.active.symm)]
  · exact h

theorem HasRow.publishNutRows {sub : Subdriver} {depth : Nat} (h : HasRow i b s) (hsettled : Settled b)
    (hpublish : publishNutRows sub depth s = some s') : HasRow i b s' := by
  unfold GenericDriver.publishNutRows at hpublish
  obtain ⟨walked, hwalk, hlast⟩ := Option.bind_eq_some_iff.mp hpublish
  obtain rfl := Option.some.inj hlast
  have hwalked : HasRow i b walked := walk_invariant h (fun _ _ _ _ ht hstep => ht.publishRow hsettled hstep) hwalk
  exact ⟨hwalked.resolved, hwalked.row⟩

/-! ### The report of the row -/

/-- The row has taken a text. -/
structure Took (text : String) (b b' : Bound) : Prop extends Settled b' where
  info : b'.info = b.info
  has : b'.has = true
  value : b'.value = text
  first : b'.first ≠ .unread

section Report

variable {sub : Subdriver} {t : Transport} {depth reportId reportType : Nat} {bytes : List Byte} {text : String} {v : ℚ}
  (hsettled : Settled b) (hkept : hasFlag b.info.hidflags huFlagAbsent = false)
  (hgiven : givenValue t reportId reportType bytes b = some v)
  (hconvert : ∀ ctx data, convert b.info v ctx data = (.ok text, ctx))
include hsettled hkept hgiven hconvert

/-- In its own turn the row takes the text. -/
theorem HasRow.readOwn (h : HasRow i b s) (hread : GenericDriver.readRow t depth reportId reportType bytes s i = some s') :
    ∃ b', Took text b b' ∧ HasRow i b' s' := by
  obtain ⟨clears, hturn⟩ := readRow_of_given depth h.row hgiven
  rw [hturn] at hread
  have hevolves := evolves_onValue s.rows i v s.ctx (some s.data)
  obtain ⟨b', hb', hactive⟩ := hasRow_of_evolves hsettled h.resolved h.row hevolves
  obtain ⟨c, own, hc, hrow, hcase⟩ := onValue_row hb'
  obtain rfl : b = c := Option.some.inj (h.row.symm.trans hc)
  have hconverts : b.converts = true := by
    unfold Bound.converts
    simp [hkept, hsettled.published, hsettled.active]
  have hown : own = (b.noteIndex v).take text := by
    rcases hcase with ⟨hother, -⟩ | ⟨-, -, hsame⟩ | ⟨-, hnot, -⟩
    · exact absurd rfl hother
    · rw [hsame, hconvert]
      rfl
    · rw [hconverts] at hnot
      cases hnot
  have htook : Took text b b' := by
    have hinfo : b'.info = b.info := by
      rw [hrow, hown]
      exact noteIndex_info b v
    refine ⟨⟨?_, hactive, ?_, ?_⟩, hinfo, ?_, ?_, ?_⟩
    · rw [hinfo]
      exact hsettled.published
    · rw [hrow, hown, ← hsettled.calm]
      unfold Bound.take Bound.noteIndex
      dsimp only
      split <;> rfl
    · have hmeasured := hsettled.measured
      unfold recomputes at hmeasured ⊢
      rw [hinfo, hactive, ← hsettled.active]
      exact hmeasured
    · rw [hrow, hown]
      rfl
    · rw [hrow, hown]
      rfl
    · rw [hrow, hown]
      unfold Bound.take
      dsimp only
      split
      · decide
      · assumption
  have hafter : HasRow i b' { s with
      rows := (NutTable.onValue s.rows i v s.ctx (some s.data)).1
      ctx := (NutTable.onValue s.rows i v s.ctx (some s.data)).2
      clears } := ⟨(hevolves.roles h.resolved).1, hb'⟩
  exact ⟨b', htook, hafter.publishRow htook.toSettled hread⟩

theorem HasRow.readRows (h : HasRow i b s) (hbytes : bytes ≠ [])
    (hread : readRows t depth reportId reportType bytes s = some s') : ∃ b', Took text b b' ∧ HasRow i b' s' := by
  obtain ⟨hi, -⟩ := List.getElem?_eq_some_iff.mp h.row
  have hrange : List.range s.rows.length
      = List.range i ++ i :: (List.range (s.rows.length - i - 1)).map (i + 1 + ·) := by
    have hsum : s.rows.length = i + 1 + (s.rows.length - i - 1) := by omega
    conv_lhs => rw [hsum, List.range_add, List.range_succ]
    rw [List.append_assoc]
    rfl
  unfold GenericDriver.readRows at hread
  rw [if_neg hbytes, hrange, List.foldlM_append] at hread
  obtain ⟨before, hbefore, hrest⟩ := Option.bind_eq_some_iff.mp hread
  obtain ⟨own, hown, hlater⟩ := Option.bind_eq_some_iff.mp hrest
  have hreached : HasRow i b before := by
    refine walk_invariant h (fun j hj _ _ ht hstep => ht.readRow hsettled ?_ hstep) hbefore
    exact (List.mem_range.mp hj).ne
  obtain ⟨b', htook, htaken⟩ := hreached.readOwn hsettled hkept hgiven hconvert hown
  refine ⟨b', htook, walk_invariant htaken (fun j hj _ _ ht hstep => ht.readRow htook.toSettled ?_ hstep) hlater⟩
  obtain ⟨k, -, rfl⟩ := List.mem_map.mp hj
  omega

theorem HasRow.postDecode (h : HasRow i b s) (hbound : BoundTo t s) (hbytes : bytes ≠ [])
    (hreport : postDecode sub t depth reportId reportType bytes s = some s') : ∃ b', Took text b b' ∧ HasRow i b' s' := by
  have hcleared : HasRow i b { s with clears := [] } := ⟨h.resolved, h.row⟩
  have hstill : BoundTo t { s with clears := [] } := hbound
  unfold GenericDriver.postDecode at hreport
  rw [bindNutTable_of_boundTo hstill] at hreport
  dsimp only at hreport
  split at hreport
  · rename_i hempty
    have hrow := h.row
    rw [hempty] at hrow
    cases hrow
  obtain ⟨read, hread, hrest⟩ := Option.bind_eq_some_iff.mp hreport
  obtain ⟨published, hpublish, hlast⟩ := Option.bind_eq_some_iff.mp hrest
  obtain rfl := Option.some.inj hlast
  obtain ⟨b', htook, htaken⟩ := hcleared.readRows hsettled hkept hgiven hconvert hbytes hread
  have hended := htaken.endInit htook.toSettled htook.first
  have hwalked : HasRow i b' (walkStatus (GenericDriver.endInit read)) := ⟨hended.resolved, hended.row⟩
  have hall := hwalked.publishNutRows htook.toSettled hpublish
  exact ⟨b', htook, hall.resolved, hall.row⟩

theorem HasRow.publishes (h : HasRow i b s) (hnames : PublishesOwnNames sub) (hsound : Sound sub s) (hbound : BoundTo t s)
    (hbytes : bytes ≠ []) (hreport : GenericDriver.postDecode sub t depth reportId reportType bytes s = some s') :
    s'.data.find b.info.infoType = some text := by
  obtain ⟨b', htook, hrow⟩ := h.postDecode hsettled hkept hgiven hconvert hbound hbytes hreport
  have hmirrors := (postDecode_mirrors hnames hsound hreport).2
  have hfind := hmirrors.synced i b' hrow.row htook.published htook.active htook.has
  rwa [htook.info, htook.value] at hfind

end Report

end EspNut.GenericDriver
