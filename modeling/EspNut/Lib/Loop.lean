import Mathlib.Computability.StateTransition

/-!
# Loops of a machine

A machine takes one step after another until it has none to take. A loop that counts to its end is passed in finitely many steps; one that keeps an invariant with a next step is never left. A loop with a result goes round until a round returns it.
-/

namespace EspNut.Lib

open StateTransition

variable {σ : Type} {step? : σ → Option σ}

theorem eval_of_stop {s : σ} (h : step? s = none) : eval step? s = Part.some s := by
  apply Part.eq_some_iff.mpr
  exact mem_eval.mpr ⟨Relation.ReflTransGen.refl, h⟩

theorem eval_of_step {s s' : σ} (h : step? s = some s') : eval step? s = eval step? s' :=
  reaches_eval (Relation.ReflTransGen.single h)

/-- The rounds of a loop, counted. -/
theorem reaches_counted {round : Nat → σ} {n : Nat} (h : ∀ k < n, step? (round k) = some (round (k + 1))) :
    Reaches step? (round 0) (round n) := by
  induction n with
  | zero => exact Relation.ReflTransGen.refl
  | succ n ih =>
      have hbefore := ih fun k hk => h k (Nat.lt_succ_of_lt hk)
      exact hbefore.tail (h n (Nat.lt_succ_self n))

/-- Where an invariant always leaves a next step, the machine never stops. -/
theorem eval_endless {P : σ → Prop} {s : σ} (hs : P s) (hstep : ∀ s, P s → ∃ s', step? s = some s' ∧ P s') :
    eval step? s = Part.none := by
  apply Part.eq_none_iff.mpr
  intro final hfinal
  obtain ⟨hreaches, hstop⟩ := mem_eval.mp hfinal
  have hkept : P final := by
    clear hfinal hstop
    induction hreaches with
    | refl => exact hs
    | tail _ hnext ih =>
        obtain ⟨s', hs', hP⟩ := hstep _ ih
        rwa [Option.mem_unique hnext hs']
  obtain ⟨s', hs', -⟩ := hstep final hkept
  rw [hstop] at hs'
  cases hs'

/-- After finitely many rounds the loop is left with the result. -/
inductive Returns {ρ : Type} (round : σ → σ ⊕ ρ) : σ → ρ → Prop
  | done {s : σ} {r : ρ} (hround : round s = .inr r) : Returns round s r
  | again {s s' : σ} {r : ρ} (hround : round s = .inl s') (hrest : Returns round s' r) : Returns round s r

end EspNut.Lib
