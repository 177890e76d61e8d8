import EspNut.Table.Resolution

/-!
# Rows stay where they were bound

A row is bound to its usage and its twin once. Values, strings and roles come and go; no operation on the rows moves one of them, adds one or drops one from the list, and the rows that publish nothing keep their role too.
-/

namespace EspNut.NutTable

open Lib Rounding

/-- What binding fixes of a row: the row of the table, its usage and its twin. -/
def Bound.place (b : Bound) : HidInfo × Nat × Option Nat := (b.info, b.idx, b.twinIdx)

def places (binds : List Bound) : List (HidInfo × Nat × Option Nat) := binds.map Bound.place

theorem infos_eq_places (binds : List Bound) : infos binds = (places binds).map Prod.fst := by
  unfold infos places
  rw [List.map_map]
  rfl

theorem infos_of_places {binds binds' : List Bound} (h : places binds' = places binds) : infos binds' = infos binds := by
  rw [infos_eq_places, infos_eq_places, h]

theorem length_of_places {binds binds' : List Bound} (h : places binds' = places binds) :
    binds'.length = binds.length := by
  simpa [places] using congrArg List.length h

theorem place_of_places {binds binds' : List Bound} (h : places binds' = places binds) {k : Nat} {b b' : Bound}
    (hb : binds[k]? = some b) (hb' : binds'[k]? = some b') : b'.place = b.place := by
  have hk := congrArg (fun l => l[k]?) h
  simpa [places, hb, hb'] using hk

/-- The place of a row, with its role when no election gives it one. -/
def Bound.standing (b : Bound) : (HidInfo × Nat × Option Nat) × Option Role :=
  (b.place, if isPublishedRow b.info then none else some b.role)

def standings (binds : List Bound) : List ((HidInfo × Nat × Option Nat) × Option Role) := binds.map Bound.standing

theorem places_of_standings {binds binds' : List Bound} (h : standings binds' = standings binds) :
    places binds' = places binds := by
  have hplaces : ∀ binds : List Bound, places binds = (standings binds).map Prod.fst := by
    intro binds
    unfold places standings
    rw [List.map_map]
    rfl
  rw [hplaces, hplaces, h]

theorem standing_of_standings {binds binds' : List Bound} (h : standings binds' = standings binds) {k : Nat}
    {b b' : Bound} (hb : binds[k]? = some b) (hb' : binds'[k]? = some b') : b'.standing = b.standing := by
  have hk := congrArg (fun l => l[k]?) h
  simpa [standings, hb, hb'] using hk

theorem standing_of_same {b b' : Bound} (hplace : b'.place = b.place) (hrole : b'.role = b.role) :
    b'.standing = b.standing := by
  have hinfo : b'.info = b.info := congrArg Prod.fst hplace
  unfold Bound.standing
  rw [hplace, hinfo, hrole]

@[simp] theorem place_absorb (b : Bound) (d : Decoded) : (b.absorb d).place = b.place := by cases d <;> rfl

@[simp] theorem place_noteIndex (b : Bound) (v : ℚ) : (b.noteIndex v).place = b.place := by
  unfold Bound.noteIndex
  split <;> rfl

@[simp] theorem place_finishRow (b : Bound) : (finishRow b).place = b.place := by
  unfold finishRow
  split
  · rfl
  · split <;> rfl

theorem standings_set {binds : List Bound} {i : Nat} {b b' : Bound} (hb : binds[i]? = some b)
    (hstanding : b'.standing = b.standing) : standings (binds.set i b') = standings binds := by
  obtain ⟨hi, hget⟩ := List.getElem?_eq_some_iff.mp hb
  have hi' : i < (binds.map Bound.standing).length := by simpa using hi
  have hsame : (binds.map Bound.standing)[i] = b'.standing := by simp [hget, hstanding]
  unfold standings
  rw [List.map_set, ← hsame, List.set_getElem_self]

theorem standings_map {binds : List Bound} {f : Bound → Bound} (hstanding : ∀ b, (f b).standing = b.standing) :
    standings (binds.map f) = standings binds := by
  unfold standings
  rw [List.map_map]
  apply List.map_congr_left
  intro b _
  exact hstanding b

/-- The roles change among the published rows only. -/
theorem standings_resolve (binds : List Bound) : standings (resolve binds) = standings binds := by
  apply List.ext_getElem?
  intro k
  unfold standings
  rw [List.getElem?_map, List.getElem?_map, getElem?_resolve, Option.map_map]
  apply Option.map_congr
  intro b _
  show (ite _ _ _ : Bound).standing = b.standing
  split
  · rename_i helected
    rw [Bool.and_eq_true] at helected
    have hinfo : (b.elected (votes binds) k).info = b.info := rfl
    have hplace : (b.elected (votes binds) k).place = b.place := rfl
    unfold Bound.standing
    rw [hplace, hinfo, if_pos helected.1, if_pos helected.1]
  · rfl

theorem standings_settle (binds : List Bound) (d : Decoded) : standings (settle binds d) = standings binds := by
  cases d with
  | ok text => exact standings_resolve binds
  | fail => exact standings_resolve binds
  | defer => rfl
  | clear => rfl

theorem standings_onValue (binds : List Bound) (i : Nat) (v : ℚ) (ctx : Context) (data : Option UPSData) :
    standings (onValue binds i v ctx data).1 = standings binds := by
  cases hb : binds[i]? with
  | none =>
      unfold onValue
      rw [hb]
  | some b =>
      cases hconverts : b.converts with
      | true =>
          rw [onValue_of_converts hb hconverts, standings_settle]
          exact standings_set hb (standing_of_same (by simp) (by simp))
      | false =>
          rcases onValue_of_not_converts hb hconverts v ctx data with hsame | ⟨-, hwalk⟩
          · rw [hsame]
          · rw [hwalk]
            exact standings_set hb rfl

theorem standings_onString (binds : List Bound) (i : Nat) (text : String) :
    standings (onString binds i text) = standings binds := by
  unfold onString
  split
  · rfl
  · rename_i b hb
    split
    · rfl
    · rw [standings_resolve]
      exact standings_set hb rfl

theorem standings_finishInit (binds : List Bound) : standings (finishInit binds) = standings binds := by
  have hrows : standings (binds.map finishRow) = standings binds :=
    standings_map fun b => standing_of_same (place_finishRow b) (finishRow_role b)
  unfold finishInit
  dsimp only
  split
  · rw [standings_resolve, hrows]
  · exact hrows

@[simp] theorem places_resolve (binds : List Bound) : places (resolve binds) = places binds :=
  places_of_standings (standings_resolve binds)

theorem places_onValue (binds : List Bound) (i : Nat) (v : ℚ) (ctx : Context) (data : Option UPSData) :
    places (onValue binds i v ctx data).1 = places binds := places_of_standings (standings_onValue binds i v ctx data)

theorem places_onString (binds : List Bound) (i : Nat) (text : String) :
    places (onString binds i text) = places binds := places_of_standings (standings_onString binds i text)

theorem places_finishInit (binds : List Bound) : places (finishInit binds) = places binds :=
  places_of_standings (standings_finishInit binds)

end EspNut.NutTable
