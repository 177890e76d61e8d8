import EspNut.Driver.Generic
import EspNut.Lib.Run
import EspNut.Table.Resolution

/-!
# One publication

Every outcome of the publication of a row is a case of `Publication`, so no proof looks at the function again. What each of its changes keeps, holds after it however deep it goes, and after a report when the new values keep it too.
-/

namespace EspNut.GenericDriver

open Lib NutTable

variable {depth i : Nat} {s s' : State}

/-- What follows a written value: nothing, the estimate, or the rows that compute the power again. -/
inductive AfterWrite (depth : Nat) (b : Bound) (s : State) : State → Prop
  | nothing : AfterWrite depth b s s
  | estimated (hinput : b.info.infoType ∈ realpowerInputs) : AfterWrite depth b s { s with data := s.data.updateRealPower }
  | recomputed {s' : State} (hwalk : (List.range s.rows.length).foldlM (recomputeRow (publishRow depth)) s = some s') :
      AfterWrite depth b s s'

inductive Publication (depth : Nat) (s : State) (i : Nat) : State → Prop
  /-- A row that is missing, that never publishes, or whose value is not there or published already. -/
  | silent (hsilent : ∀ b, s.rows[i]? = some b → isPublishedRow b.info = true →
      b.cleared = false ∧ (b.role = .active → b.has = true → s.data.find b.info.infoType = some b.value)) :
      Publication depth s i s
  /-- The row asked for the removal of its name. -/
  | removed {b : Bound} (hb : s.rows[i]? = some b) (hpub : isPublishedRow b.info = true) (hcleared : b.cleared = true) :
      Publication depth s i { s with
        rows := s.rows.set i { b with cleared := false }
        data := s.data.put b.info.infoType none }
  /-- A new value is written first. -/
  | written {b : Bound} {s' : State} (hb : s.rows[i]? = some b) (hpub : isPublishedRow b.info = true)
      (hcleared : b.cleared = false) (hactive : b.role = .active) (hhas : b.has = true)
      (hafter : AfterWrite depth b { s with data := s.data.set b.info.infoType b.value } s') : Publication depth s i s'

theorem publication_of_publishRow (h : publishRow (depth + 1) s i = some s') : Publication depth s i s' := by
  unfold publishRow at h
  cases hb : s.rows[i]? with
  | none =>
      rw [hb] at h
      obtain rfl := Option.some.inj h
      apply Publication.silent
      intro b hb'
      rw [hb] at hb'
      cases hb'
  | some b =>
      rw [hb] at h
      dsimp only at h
      have hrest : s = s' → (isPublishedRow b.info = true →
          b.cleared = false ∧ (b.role = .active → b.has = true → s.data.find b.info.infoType = some b.value)) →
          Publication depth s i s' := by
        rintro rfl hown
        apply Publication.silent
        intro c hc
        obtain rfl := Option.some.inj (hb.symm.trans hc)
        exact hown
      split at h
      · rename_i hkind
        apply hrest (Option.some.inj h)
        intro hpub
        rw [not_isPublishedRow.mp hkind] at hpub
        cases hpub
      rename_i hkind
      have hpub : isPublishedRow b.info = true := by
        rw [← Bool.not_eq_false]
        exact fun hnot => hkind (not_isPublishedRow.mpr hnot)
      split at h
      · rename_i hcleared
        obtain rfl := Option.some.inj h
        exact Publication.removed hb hpub hcleared
      rename_i hcalm
      have hcleared : b.cleared = false := Bool.not_eq_true _ ▸ hcalm
      split at h
      · rename_i hmissing
        apply hrest (Option.some.inj h)
        refine fun _ => ⟨hcleared, ?_⟩
        intro hactive hhas
        rcases hmissing with hrole | hnone
        · exact absurd hactive hrole
        · rw [hhas] at hnone
          cases hnone
      rename_i hready
      obtain ⟨hrole, hvalue⟩ := not_or.mp hready
      split at h
      · rename_i hequal
        apply hrest (Option.some.inj h)
        exact fun _ => ⟨hcleared, fun _ _ => of_decide_eq_true hequal⟩
      apply Publication.written hb hpub hcleared (not_not.mp hrole) (Bool.not_eq_false _ ▸ hvalue)
      split at h
      · split at h
        · rename_i hinput
          obtain rfl := Option.some.inj h
          exact AfterWrite.estimated hinput
        · obtain rfl := Option.some.inj h
          exact AfterWrite.nothing
      split at h
      · obtain rfl := Option.some.inj h
        exact AfterWrite.nothing
      · exact AfterWrite.recomputed h

/-- What each change of a publication keeps holds after it. -/
theorem publishRow_invariant {P : State → Prop}
    (hremoved : ∀ (t : State) (k : Nat) (b : Bound), t.rows[k]? = some b → isPublishedRow b.info = true → P t →
      P { t with rows := t.rows.set k { b with cleared := false }, data := t.data.put b.info.infoType none })
    (hwritten : ∀ (t : State) (k : Nat) (b : Bound), t.rows[k]? = some b → isPublishedRow b.info = true → P t →
      P { t with data := t.data.set b.info.infoType b.value })
    (hestimated : ∀ t : State, P t → P { t with data := t.data.updateRealPower })
    (hvalue : ∀ (t : State) (j : Nat) (b : Bound), t.rows[j]? = some b → recomputes b = true → P t → P { t with
      rows := (onValue t.rows j 0 t.ctx (some t.data)).1
      ctx := (onValue t.rows j 0 t.ctx (some t.data)).2 })
    (h : P s) (hpublish : publishRow depth s i = some s') : P s' := by
  induction depth generalizing s s' i with
  | zero => cases hpublish
  | succ depth ih =>
      cases publication_of_publishRow hpublish with
      | silent => exact h
      | removed hb hpub => exact hremoved s i _ hb hpub h
      | written hb hpub _ _ _ hafter =>
          have hset := hwritten s i _ hb hpub h
          cases hafter with
          | nothing => exact hset
          | estimated => exact hestimated _ hset
          | recomputed hwalk =>
              refine walk_invariant hset ?_ hwalk
              intro j _ t t' ht hstep
              unfold recomputeRow at hstep
              split at hstep
              · obtain rfl := Option.some.inj hstep
                exact ht
              · rename_i hrecomputes
                rw [Bool.not_eq_false, Option.any_eq_true] at hrecomputes
                obtain ⟨b, hb, hrec⟩ := hrecomputes
                exact ih (hvalue t j b hb hrec ht) hstep

/-! ### Rows of a report -/

variable {t : Transport} {reportId reportType : Nat} {bytes : List Byte}

theorem readRow_cases (h : readRow t depth reportId reportType bytes s i = some s') :
    s' = s ∨ ∃ v clears, publishRow depth { s with
      rows := (onValue s.rows i v s.ctx (some s.data)).1
      ctx := (onValue s.rows i v s.ctx (some s.data)).2
      clears } i = some s' := by
  unfold readRow at h
  split at h
  · exact Or.inl (Option.some.inj h).symm
  split at h
  · exact Or.inl (Option.some.inj h).symm
  split at h
  · exact Or.inl (Option.some.inj h).symm
  · exact Or.inr ⟨_, _, h⟩

theorem readRows_invariant {P : State → Prop}
    (hstep : ∀ (k : Nat) (a a' : State), P a → readRow t depth reportId reportType bytes a k = some a' → P a')
    (h : P s) (hread : readRows t depth reportId reportType bytes s = some s') : P s' := by
  unfold readRows at hread
  split at hread
  · obtain rfl := Option.some.inj hread
    exact h
  · exact walk_invariant h (fun k _ => hstep k) hread

end EspNut.GenericDriver
