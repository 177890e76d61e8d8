import Mathlib.Data.List.Forall2

/-!
# The first candidate that does not fail

Candidates stand in a fixed order and each is unread, ok or failed once its first result is known. The first one that did not fail wins as soon as it is ok; until then it holds the later ones up. Results only become known, so winners and losers are final.
-/

namespace EspNut.Lib

inductive First where
  | unread | ok | fail
  deriving DecidableEq

inductive Role where
  | pending | active | dead
  deriving DecidableEq

namespace Election

/-- The role of a candidate from the results before it and its own. -/
def roleOf (earlier : List First) (own : First) : Role :=
  match earlier.find? (· ≠ .fail), own with
  | some .ok, _ => .dead
  | _, .fail => .dead
  | some _, _ => .pending
  | none, .unread => .pending
  | none, .ok => .active

/-- The winner is ok and everyone before it failed. -/
theorem roleOf_eq_active_iff {earlier : List First} {own : First} :
    roleOf earlier own = .active ↔ own = .ok ∧ ∀ f ∈ earlier, f = .fail := by
  unfold roleOf
  cases hlead : earlier.find? (· ≠ .fail) with
  | none =>
      have hall : ∀ f ∈ earlier, f = .fail := by
        intro f hf
        simpa using List.find?_eq_none.mp hlead f hf
      cases own with
      | unread => simp
      | ok => simpa using hall
      | fail => simp
  | some lead =>
      have hne : lead ≠ .fail := by simpa using List.find?_some hlead
      have hmem : lead ∈ earlier := List.mem_of_find?_eq_some hlead
      constructor
      · intro h
        cases lead <;> cases own <;> simp_all
      · rintro ⟨-, hall⟩
        exact absurd (hall lead hmem) hne

/-- A loser failed, or comes after the winner. -/
theorem roleOf_eq_dead_iff {earlier : List First} {own : First} :
    roleOf earlier own = .dead ↔ own = .fail ∨ earlier.find? (· ≠ .fail) = some .ok := by
  unfold roleOf
  cases earlier.find? (· ≠ .fail) with
  | none => cases own <;> simp
  | some lead => cases lead <;> cases own <;> simp

/-- A result only becomes known. -/
def Progress (before after : First) : Prop := before = .unread ∨ before = after

theorem Progress.rfl {f : First} : Progress f f := Or.inr (Eq.refl f)

theorem Progress.trans {f g h : First} (hfg : Progress f g) (hgh : Progress g h) : Progress f h := by
  rcases hfg with hunread | hsame
  · exact Or.inl hunread
  · rw [hsame]
    exact hgh

theorem Progress.of_fail {f : First} (h : Progress .fail f) : f = .fail := by
  rcases h with h | h
  · exact absurd h (by decide)
  · exact h.symm

theorem Progress.of_ok {f : First} (h : Progress .ok f) : f = .ok := by
  rcases h with h | h
  · exact absurd h (by decide)
  · exact h.symm

theorem active_stable {earlier earlier' : List First} {own own' : First}
    (hearlier : List.Forall₂ Progress earlier earlier') (hown : Progress own own')
    (h : roleOf earlier own = .active) : roleOf earlier' own' = .active := by
  rw [roleOf_eq_active_iff] at *
  obtain ⟨rfl, hall⟩ := h
  refine ⟨hown.of_ok, ?_⟩
  induction hearlier with
  | nil => simp
  | @cons a b l l' hab _ ih =>
      intro f hf
      rcases List.mem_cons.mp hf with rfl | hrest
      · have ha : a = .fail := hall a (by simp)
        subst ha
        exact hab.of_fail
      · exact ih (fun g hg => hall g (by simp [hg])) f hrest

theorem find_ok_stable {earlier earlier' : List First} (hearlier : List.Forall₂ Progress earlier earlier')
    (h : earlier.find? (· ≠ .fail) = some .ok) : earlier'.find? (· ≠ .fail) = some .ok := by
  induction hearlier with
  | nil => exact h
  | @cons a b l l' hab _ ih =>
      cases a with
      | unread => simp at h
      | ok =>
          have hb : b = .ok := hab.of_ok
          subst hb
          simp
      | fail =>
          have hb : b = .fail := hab.of_fail
          subst hb
          simpa using ih (by simpa using h)

theorem dead_stable {earlier earlier' : List First} {own own' : First}
    (hearlier : List.Forall₂ Progress earlier earlier') (hown : Progress own own')
    (h : roleOf earlier own = .dead) : roleOf earlier' own' = .dead := by
  rw [roleOf_eq_dead_iff] at *
  rcases h with rfl | h
  · exact Or.inl hown.of_fail
  · exact Or.inr (find_ok_stable hearlier h)

end Election

end EspNut.Lib
