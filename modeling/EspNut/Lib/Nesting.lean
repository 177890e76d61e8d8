import EspNut.Lib.Run

/-!
# Saved values

A machine that saves a value on a stack and later takes the last one back. What is saved and taken back in between leaves the stack alone, so a value comes back as it was when it was saved.
-/

namespace EspNut.Lib

/-- What an event does to the stack. -/
inductive Saving where
  | save | restore | other

variable {σ ε γ : Type}

/-- The events treat the stack as their kinds say; with nothing saved a restore does nothing. -/
structure Saves (kind : ε → Saving) (value : σ → γ) (stack : σ → List γ) (step? : σ → ε → Option σ) : Prop where
  save : ∀ {s s' e}, kind e = .save → step? s e = some s' → stack s' = value s :: stack s
  restore : ∀ {s s' e top rest}, kind e = .restore → stack s = top :: rest → step? s e = some s' →
    value s' = top ∧ stack s' = rest
  empty : ∀ {s s' e}, kind e = .restore → stack s = [] → step? s e = some s' → s' = s
  other : ∀ {s s' e}, kind e = .other → step? s e = some s' → stack s' = stack s

inductive Nested (kind : ε → Saving) : List ε → Prop
  | nil : Nested kind []
  | other {e : ε} {rest : List ε} : kind e = .other → Nested kind rest → Nested kind (e :: rest)
  | pair {e e' : ε} {inner rest : List ε} : kind e = .save → Nested kind inner → kind e' = .restore →
      Nested kind rest → Nested kind (e :: (inner ++ e' :: rest))

/-- The save made after `outer` is the last one that is still open. -/
def Opened (kind : ε → Saving) (before outer : List ε) : Prop :=
  ∃ e inner, before = outer ++ e :: inner ∧ kind e = .save ∧ Nested kind inner

variable {kind : ε → Saving} {value : σ → γ} {stack : σ → List γ} {step? : σ → ε → Option σ}

theorem Nested.append {first second : List ε} (hfirst : Nested kind first) (hsecond : Nested kind second) :
    Nested kind (first ++ second) := by
  induction hfirst with
  | nil => exact hsecond
  | other he _ ih => exact Nested.other he ih
  | pair he hinner he' _ _ ih =>
      rw [List.cons_append, List.append_assoc, List.cons_append]
      exact Nested.pair he hinner he' ih

theorem stack_nested (hsaves : Saves kind value stack step?) {events : List ε} (hnested : Nested kind events) {s s' : σ}
    (h : events.foldlM step? s = some s') : stack s' = stack s := by
  induction hnested generalizing s s' with
  | nil =>
      obtain rfl : s = s' := Option.some.inj h
      rfl
  | other he _ ih =>
      obtain ⟨next, hnext, hrest⟩ := foldlM_cons_some h
      rw [ih hrest, hsaves.other he hnext]
  | pair he _ he' _ ihinner ihrest =>
      obtain ⟨opened, hopened, hinside⟩ := foldlM_cons_some h
      obtain ⟨inside, hinner, hafter⟩ := foldlM_append_some hinside
      obtain ⟨closed, hclosed, hrest⟩ := foldlM_cons_some hafter
      have hinside : stack inside = value s :: stack s := (ihinner hinner).trans (hsaves.save he hopened)
      rw [ihrest hrest, (hsaves.restore he' hinside hclosed).2]

theorem stack_opened (hsaves : Saves kind value stack step?) {before outer : List ε} (hopened : Opened kind before outer)
    {start s s' : σ} (houter : outer.foldlM step? start = some s) (hbefore : before.foldlM step? start = some s') :
    stack s' = value s :: stack s := by
  obtain ⟨e, inner, rfl, he, hinner⟩ := hopened
  obtain ⟨s₁, houter', hafter⟩ := foldlM_append_some hbefore
  obtain rfl : s = s₁ := Option.some.inj (houter.symm.trans houter')
  obtain ⟨saved, hsaved, hinside⟩ := foldlM_cons_some hafter
  rw [stack_nested hsaves hinner hinside, hsaves.save he hsaved]

/-- A restore brings back the value that its save found, and the stack of then. -/
theorem restored (hsaves : Saves kind value stack step?) {before outer : List ε} (hopened : Opened kind before outer)
    {start s s' s'' : σ} (houter : outer.foldlM step? start = some s) (hbefore : before.foldlM step? start = some s') {e : ε}
    (he : kind e = .restore) (hstep : step? s' e = some s'') : value s'' = value s ∧ stack s'' = stack s :=
  hsaves.restore he (stack_opened hsaves hopened houter hbefore) hstep

theorem Opened.snoc_other {before outer : List ε} {e : ε} (h : Opened kind before outer) (he : kind e = .other) :
    Opened kind (before ++ [e]) outer := by
  obtain ⟨saved, inner, rfl, hsaved, hinner⟩ := h
  exact ⟨saved, inner ++ [e], by simp, hsaved, hinner.append (Nested.other he Nested.nil)⟩

/-- A restore closes the inner of two open saves. -/
theorem Opened.snoc_restore {before outer further : List ε} {e : ε} (h : Opened kind before outer)
    (hfurther : Opened kind outer further) (he : kind e = .restore) : Opened kind (before ++ [e]) further := by
  obtain ⟨saved, inner, rfl, hsaved, hinner⟩ := h
  obtain ⟨saved', inner', rfl, hsaved', hinner'⟩ := hfurther
  refine ⟨saved', inner' ++ saved :: (inner ++ [e]), by simp, hsaved', ?_⟩
  exact hinner'.append (Nested.pair hsaved hinner he Nested.nil)

theorem empty_or_opened (hsaves : Saves kind value stack step?) {start : σ} (hstart : stack start = []) :
    ∀ {before : List ε} {s : σ}, before.foldlM step? start = some s → stack s = [] ∨ ∃ outer, Opened kind before outer := by
  intro before
  -- a restore falls back to the events before its save, so the induction is on all shorter walks
  induction hn : before.length using Nat.strongRecOn generalizing before with
  | ind n ih =>
      intro s h
      rcases List.eq_nil_or_concat before with rfl | ⟨init, e, rfl⟩
      · obtain rfl : start = s := Option.some.inj h
        exact Or.inl hstart
      · rw [List.concat_eq_append] at h ⊢
        have hlength : init.length + 1 = n := by
          rw [← hn]
          simp
        obtain ⟨s₁, hinit, hlast⟩ := foldlM_append_some h
        obtain ⟨s₂, hstep, hdone⟩ := foldlM_cons_some hlast
        obtain rfl : s₂ = s := Option.some.inj hdone
        have hbefore := ih init.length (by omega) rfl hinit
        cases he : kind e with
        | save => exact Or.inr ⟨init, e, [], rfl, he, Nested.nil⟩
        | other =>
            rw [hsaves.other he hstep]
            exact hbefore.imp_right fun ⟨outer, houter⟩ => ⟨outer, houter.snoc_other he⟩
        | restore =>
            rcases hbefore with hempty | ⟨outer, hopened⟩
            · rw [hsaves.empty he hempty hstep]
              exact Or.inl hempty
            · obtain ⟨saved, inner, hsplit, -, -⟩ := id hopened
              obtain ⟨so, houter, -⟩ := foldlM_append_some (hsplit ▸ hinit)
              have hshorter : outer.length < n := by
                rw [← hlength, hsplit, List.length_append, List.length_cons]
                omega
              rw [(restored hsaves hopened houter hinit he hstep).2]
              exact (ih outer.length hshorter rfl houter).imp_right
                fun ⟨further, hfurther⟩ => ⟨further, hopened.snoc_restore hfurther he⟩

end EspNut.Lib
