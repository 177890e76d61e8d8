import EspNut.Driver.Publication
import EspNut.Table.Places

/-!
# The rows of a driver

What the steps of a driver leave of its rows. Between two bindings the rows keep their places, whatever is read, published or set, and a row that lost its name never gets it back.
-/

namespace EspNut.GenericDriver

open Lib NutTable

variable {sub : Subdriver}

/-! ### The places after binding -/

theorem standings_applyAbsentOverride (rows : List Bound) (override : String × String) :
    standings (applyAbsentOverride rows override) = standings rows := by
  apply standings_map
  intro b
  split <;> rfl

theorem places_applyAbsentOverride (rows : List Bound) (override : String × String) :
    places (applyAbsentOverride rows override) = places rows :=
  places_of_standings (standings_applyAbsentOverride rows override)

theorem places_overrides (overrides : List (String × String)) (rows : List Bound) :
    places (overrides.foldl applyAbsentOverride rows) = places rows := by
  induction overrides generalizing rows with
  | nil => rfl
  | cons override rest ih => rw [List.foldl_cons, ih, places_applyAbsentOverride]

/-- Rows bound anew are in the places their tables and the usages give them. -/
theorem places_bindNutTable {t : Transport} {s : State} (h : s.nutBound = false) :
    places (bindNutTable sub t s).rows = places (boundRows sub t) := by
  unfold bindNutTable
  rw [if_neg (by simp [h])]
  show places (s.absentOverrides.foldl applyAbsentOverride (resolve (boundRows sub t))) = _
  rw [places_overrides, places_resolve]

theorem places_takeString (index : Nat) (text : String) (rows : List Bound) :
    places (takeString index text rows) = places rows := by
  unfold takeString
  generalize List.range rows.length = is
  induction is generalizing rows with
  | nil => rfl
  | cons i is ih =>
      rw [List.foldl_cons, ih]
      unfold takeStringAt
      split
      · exact places_onString rows i _
      · rfl

theorem usages_of_place {b b' : Bound} (h : b'.place = b.place) (usages : List HIDUsageDef) :
    Bound.usages b' usages = Bound.usages b usages := by
  unfold Bound.place at h
  simp only [Prod.mk.injEq] at h
  unfold Bound.usages
  rw [h.2.1, h.2.2]

/-! ### Rows between two bindings -/

/-- The rows stay in their places, and their roles only become settled. -/
structure Evolves (rows rows' : List Bound) : Prop where
  standings : standings rows' = standings rows
  roles : Resolved rows → Resolved rows' ∧ Advance rows rows'

theorem Evolves.refl (rows : List Bound) : Evolves rows rows := ⟨rfl, fun h => ⟨h, Advance.refl rows⟩⟩

theorem Evolves.trans {rows rows' rows'' : List Bound} (h : Evolves rows rows') (h' : Evolves rows' rows'') :
    Evolves rows rows'' := by
  refine ⟨h'.standings.trans h.standings, fun hres => ?_⟩
  obtain ⟨hres', hadv⟩ := h.roles hres
  obtain ⟨hres'', hadv'⟩ := h'.roles hres'
  exact ⟨hres'', hadv.trans hadv'⟩

theorem Evolves.places {rows rows' : List Bound} (h : Evolves rows rows') : places rows' = places rows :=
  places_of_standings h.standings

theorem Evolves.of_map {rows : List Bound} {f : Bound → Bound} (hplace : ∀ b, (f b).place = b.place)
    (hfirst : ∀ b, (f b).first = b.first) (hrole : ∀ b, (f b).role = b.role) : Evolves rows (rows.map f) := by
  refine ⟨standings_map fun b => standing_of_same (hplace b) (hrole b), fun hres => ?_⟩
  have hvotes : votes (rows.map f) = votes rows := by
    unfold votes
    rw [List.map_map]
    apply List.map_congr_left
    intro b _
    have hinfo : (f b).info = b.info := congrArg Prod.fst (hplace b)
    show ((f b).info, (f b).first) = (b.info, b.first)
    rw [hinfo, hfirst b]
  have hroles : (rows.map f).map Bound.role = rows.map Bound.role := by
    rw [List.map_map]
    apply List.map_congr_left
    intro b _
    exact hrole b
  exact ⟨hres.congr hvotes hroles, Advance.of_votes hvotes⟩

theorem Evolves.of_set {rows : List Bound} {i : Nat} {b b' : Bound} (hb : rows[i]? = some b) (hplace : b'.place = b.place)
    (hfirst : b'.first = b.first) (hrole : b'.role = b.role) : Evolves rows (rows.set i b') :=
  ⟨standings_set hb (standing_of_same hplace hrole), fun hres => hres.set hb (congrArg Prod.fst hplace) hrole hfirst⟩

theorem evolves_onValue (rows : List Bound) (i : Nat) (v : ℚ) (ctx : Context) (data : Option UPSData) :
    Evolves rows (onValue rows i v ctx data).1 :=
  ⟨standings_onValue rows i v ctx data, fun hres => resolved_onValue hres i v ctx data⟩

theorem evolves_onString (rows : List Bound) (i : Nat) (text : String) : Evolves rows (onString rows i text) :=
  ⟨standings_onString rows i text, fun hres => resolved_onString hres i text⟩

theorem evolves_finishInit (rows : List Bound) : Evolves rows (finishInit rows) :=
  ⟨standings_finishInit rows, fun hres => resolved_finishInit hres⟩

theorem evolves_applyAbsentOverride (rows : List Bound) (override : String × String) :
    Evolves rows (applyAbsentOverride rows override) := by
  apply Evolves.of_map
  · intro b
    split <;> rfl
  · intro b
    split <;> rfl
  · intro b
    split <;> rfl

theorem evolves_takeString (index : Nat) (text : String) (rows : List Bound) :
    Evolves rows (takeString index text rows) := by
  unfold takeString
  generalize List.range rows.length = is
  induction is generalizing rows with
  | nil => exact Evolves.refl rows
  | cons i is ih =>
      rw [List.foldl_cons]
      refine Evolves.trans ?_ (ih _)
      unfold takeStringAt
      split
      · exact evolves_onString rows i _
      · exact Evolves.refl rows

/-! ### Steps -/

/-- A step that binds nothing anew. -/
structure Onward (s s' : State) : Prop where
  rows : Evolves s.rows s'.rows
  nutBound : s'.nutBound = s.nutBound
  nutUsageCount : s'.nutUsageCount = s.nutUsageCount

theorem Onward.refl (s : State) : Onward s s := ⟨Evolves.refl _, rfl, rfl⟩

theorem Onward.trans {s s' s'' : State} (h : Onward s s') (h' : Onward s' s'') : Onward s s'' :=
  ⟨h.rows.trans h'.rows, h'.nutBound.trans h.nutBound, h'.nutUsageCount.trans h.nutUsageCount⟩

theorem Onward.walk {ε : Type} {step? : State → ε → Option State} {events : List ε} {s s' : State}
    (hstep : ∀ event t t', step? t event = some t' → Onward t t') (h : events.foldlM step? s = some s') : Onward s s' :=
  walk_invariant (P := fun t => Onward s t) (Onward.refl s) (fun event _ t t' ht hnext => ht.trans (hstep event t t' hnext)) h

/-- One publication, however deep it goes. -/
theorem onward_publishRow {depth i : Nat} {s s' : State} (h : publishRow depth s i = some s') : Onward s s' := by
  refine publishRow_invariant ?_ ?_ ?_ ?_ (Onward.refl s) h
  · exact fun t k b hb _ ht => ht.trans ⟨Evolves.of_set hb rfl rfl rfl, rfl, rfl⟩
  · exact fun t k b _ _ ht => ht.trans ⟨Evolves.refl _, rfl, rfl⟩
  · exact fun t ht => ht.trans ⟨Evolves.refl _, rfl, rfl⟩
  · exact fun t j _ _ _ ht => ht.trans ⟨evolves_onValue t.rows j 0 t.ctx (some t.data), rfl, rfl⟩

/-- The value a report has for a row: its field of the report, unless it is a command row. -/
def givenValue (t : Transport) (reportId reportType : Nat) (bytes : List Byte) (b : Bound) : Option ℚ :=
  if isCommandRow b.info then none
  else (pickUsage t reportId reportType b).map fun u => (HIDParser.extractUsage u bytes : ℚ)

theorem givenValue_of_place {t : Transport} {reportId reportType : Nat} {bytes : List Byte} {b b' : Bound}
    (h : b'.place = b.place) : givenValue t reportId reportType bytes b' = givenValue t reportId reportType bytes b := by
  have hinfo : b'.info = b.info := congrArg Prod.fst h
  unfold givenValue pickUsage
  rw [hinfo, usages_of_place h]

/-- A row that is given a value converts it and is published. -/
theorem readRow_of_given {t : Transport} (depth : Nat) {reportId reportType i : Nat} {bytes : List Byte} {s : State} {b : Bound}
    {v : ℚ} (hb : s.rows[i]? = some b) (hgiven : givenValue t reportId reportType bytes b = some v) :
    ∃ clears, readRow t depth reportId reportType bytes s i
      = publishRow depth { s with
          rows := (onValue s.rows i v s.ctx (some s.data)).1
          ctx := (onValue s.rows i v s.ctx (some s.data)).2
          clears } i := by
  unfold givenValue at hgiven
  unfold readRow
  rw [hb]
  dsimp only
  split at hgiven
  · exact absurd hgiven (by simp)
  · rename_i hcommand
    obtain ⟨u, hu, rfl⟩ := Option.map_eq_some_iff.mp hgiven
    rw [if_neg hcommand, hu]
    exact ⟨_, rfl⟩

theorem onward_readRow {t : Transport} {depth reportId reportType : Nat} {bytes : List Byte} (i : Nat) (s s' : State)
    (h : readRow t depth reportId reportType bytes s i = some s') : Onward s s' := by
  rcases readRow_cases h with rfl | ⟨v, clears, hpublish⟩
  · exact Onward.refl s'
  · have hvalue : Onward s { s with
        rows := (onValue s.rows i v s.ctx (some s.data)).1
        ctx := (onValue s.rows i v s.ctx (some s.data)).2
        clears } := ⟨evolves_onValue s.rows i v s.ctx (some s.data), rfl, rfl⟩
    exact hvalue.trans (onward_publishRow hpublish)

theorem onward_readRows {t : Transport} {depth reportId reportType : Nat} {bytes : List Byte} {s s' : State}
    (h : readRows t depth reportId reportType bytes s = some s') : Onward s s' :=
  readRows_invariant (fun k a a' ha hstep => ha.trans (onward_readRow k a a' hstep)) (Onward.refl s) h

theorem onward_endInit (s : State) : Onward s (endInit s) := by
  unfold endInit
  split
  · exact ⟨evolves_finishInit s.rows, rfl, rfl⟩
  · exact Onward.refl s

theorem onward_publishNutRows {depth : Nat} {s s' : State} (h : publishNutRows sub depth s = some s') : Onward s s' := by
  unfold publishNutRows at h
  obtain ⟨walked, hwalk, hlast⟩ := Option.bind_eq_some_iff.mp h
  obtain rfl := Option.some.inj hlast
  have hwalked : Onward s walked := Onward.walk (fun _ _ _ hstep => onward_publishRow hstep) hwalk
  exact ⟨hwalked.rows, hwalked.nutBound, hwalked.nutUsageCount⟩

/-- Each row has its turn in the walk of a report. -/
theorem readRows_turn {t : Transport} {depth reportId reportType k : Nat} {bytes : List Byte} {s s' : State}
    (hbytes : bytes ≠ []) (hk : k < s.rows.length) (h : readRows t depth reportId reportType bytes s = some s') :
    ∃ turn, (List.range k).foldlM (readRow t depth reportId reportType bytes) s = some turn ∧ Onward s turn
      ∧ Onward turn s' := by
  unfold readRows at h
  rw [if_neg hbytes] at h
  have hrange : List.range s.rows.length = List.range k ++ (List.range (s.rows.length - k)).map (k + ·) := by
    rw [← List.range_add]
    congr 1
    omega
  rw [hrange, List.foldlM_append] at h
  obtain ⟨turn, hturn, hlater⟩ := Option.bind_eq_some_iff.mp h
  exact ⟨turn, hturn, Onward.walk onward_readRow hturn, Onward.walk onward_readRow hlater⟩

/-! ### Bound rows -/

/-- The rows are bound to the usages of the device. -/
def BoundTo (t : Transport) (s : State) : Prop := s.nutBound = true ∧ s.nutUsageCount = t.usages.length

theorem bindNutTable_of_boundTo {t : Transport} {s : State} (h : BoundTo t s) : bindNutTable sub t s = s := by
  unfold bindNutTable
  exact if_pos h

theorem boundTo_bindNutTable (sub : Subdriver) (t : Transport) (s : State) : BoundTo t (bindNutTable sub t s) := by
  unfold bindNutTable
  split
  · rename_i hbound
    exact hbound
  · exact ⟨rfl, rfl⟩

/-- A report reads every row in turn, and then the row roles, the status and the data follow. -/
theorem postDecode_cases {t : Transport} {depth reportId reportType : Nat} {bytes : List Byte} {s s' : State}
    (hbound : BoundTo t s) (h : postDecode sub t depth reportId reportType bytes s = some s') :
    ∃ read, readRows t depth reportId reportType bytes { s with clears := [] } = some read ∧ Onward s read
      ∧ Onward read s' := by
  have hcleared : BoundTo t { s with clears := [] } := hbound
  unfold postDecode at h
  rw [bindNutTable_of_boundTo hcleared] at h
  dsimp only at h
  split at h
  · rename_i hempty
    obtain rfl := Option.some.inj h
    refine ⟨{ s with clears := [] }, ?_, ⟨Evolves.refl _, rfl, rfl⟩, ⟨Evolves.refl _, rfl, rfl⟩⟩
    unfold readRows
    rw [hempty]
    split <;> rfl
  · obtain ⟨read, hread, hrest⟩ := Option.bind_eq_some_iff.mp h
    obtain ⟨published, hpublish, hlast⟩ := Option.bind_eq_some_iff.mp hrest
    obtain rfl := Option.some.inj hlast
    have hreads := onward_readRows hread
    have hends := onward_endInit read
    have hpublished := onward_publishNutRows hpublish
    refine ⟨read, hread, ⟨hreads.rows, hreads.nutBound, hreads.nutUsageCount⟩, ?_⟩
    have hwalked : Onward read (walkStatus (endInit read)) := ⟨hends.rows, hends.nutBound, hends.nutUsageCount⟩
    have hall := hwalked.trans hpublished
    exact ⟨hall.rows, hall.nutBound, hall.nutUsageCount⟩

theorem onward_postDecode {t : Transport} {depth reportId reportType : Nat} {bytes : List Byte} {s s' : State}
    (hbound : BoundTo t s) (h : postDecode sub t depth reportId reportType bytes s = some s') : Onward s s' := by
  obtain ⟨read, -, hfirst, hrest⟩ := postDecode_cases hbound h
  exact hfirst.trans hrest

/-- An event that is no report binds nothing. -/
theorem onward_step {depth : Nat} {s s' : State} {event : Event}
    (hevent : ∀ t reportId reportType bytes, event ≠ .report t reportId reportType bytes)
    (h : step sub depth s event = some s') : Onward s s' := by
  cases event with
  | report t reportId reportType bytes => exact absurd rfl (hevent t reportId reportType bytes)
  | string t index text =>
      replace h : parseStringDescriptor sub t depth index text s = some s' := h
      unfold parseStringDescriptor at h
      dsimp only at h
      split at h
      · have hpublished := onward_publishNutRows h
        exact ⟨(evolves_takeString index text s.rows).trans hpublished.rows, hpublished.nutBound,
          hpublished.nutUsageCount⟩
      · obtain rfl := Option.some.inj h
        exact ⟨Evolves.refl _, rfl, rfl⟩
  | hostWrite key value =>
      obtain rfl := Option.some.inj h
      exact ⟨Evolves.refl _, rfl, rfl⟩
  | hostRemove key =>
      obtain rfl := Option.some.inj h
      exact ⟨Evolves.refl _, rfl, rfl⟩
  | noteHostValue name value =>
      obtain rfl := Option.some.inj h
      refine ⟨Evolves.of_map ?_ ?_ ?_, rfl, rfl⟩
      all_goals
        intro b
        split
        · rfl
        · split <;> rfl
  | setDriverSideValue name value =>
      obtain rfl := Option.some.inj h
      exact ⟨evolves_applyAbsentOverride s.rows (name, value), rfl, rfl⟩
  | resetDriverSideValue name =>
      obtain rfl := Option.some.inj h
      refine ⟨Evolves.of_map ?_ ?_ ?_, rfl, rfl⟩
      all_goals
        intro b
        split <;> rfl
  | completeInitialPoll =>
      obtain rfl := Option.some.inj h
      unfold completeInitialPoll
      dsimp only
      split
      · exact ⟨evolves_finishInit s.rows, rfl, rfl⟩
      · exact ⟨Evolves.refl _, rfl, rfl⟩
  | firstFullDone =>
      obtain rfl := Option.some.inj h
      exact ⟨Evolves.refl _, rfl, rfl⟩
  | inputs ctx =>
      obtain rfl := Option.some.inj h
      exact ⟨Evolves.refl _, rfl, rfl⟩

theorem resolved_boundRows (sub : Subdriver) (t : Transport) : Resolved (resolve (boundRows sub t)) := by
  apply (waiting_of_fresh ?_).resolved_resolve
  intro b hb
  unfold boundRows at hb
  rcases List.mem_append.mp hb with hown | hgeneric
  · exact fresh_bindRows hown
  · exact fresh_bindRows hgeneric

theorem evolves_overrides (overrides : List (String × String)) (rows : List Bound) :
    Evolves rows (overrides.foldl applyAbsentOverride rows) := by
  induction overrides generalizing rows with
  | nil => exact Evolves.refl rows
  | cons override rest ih =>
      rw [List.foldl_cons]
      exact (evolves_applyAbsentOverride rows override).trans (ih _)

theorem resolved_bindNutTable {t : Transport} {s : State} (h : Resolved s.rows) :
    Resolved (bindNutTable sub t s).rows := by
  unfold bindNutTable
  split
  · exact h
  · exact ((evolves_overrides s.absentOverrides _).roles (resolved_boundRows sub t)).1

end EspNut.GenericDriver
