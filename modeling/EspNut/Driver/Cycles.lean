import EspNut.Driver.Poll
import EspNut.Lib.Run

/-!
# Poll cycles

What a call of `loop` does before its request is one of two things: it goes on with the running cycle, at most with more strings at its end, or it starts a new one when the queue is worked off.
-/

namespace EspNut.GenericDriver

open Lib NutTable

variable {sub : Subdriver} {hooks : Hooks} {host : Host} {p : Poll}

/-! ### What the parts of a call leave alone -/

/-- The running cycle goes on, at most with strings at its end. -/
structure GoesOn (p p' : Poll) : Prop where
  queue : ∃ strings, p'.queue = p.queue ++ strings
  queuePos : p'.queuePos = p.queuePos
  stepNow : p'.stepNow = p.stepNow
  cycleFull : p'.cycleFull = p.cycleFull
  dataChanged : p'.dataChanged = p.dataChanged
  lastQuick : p'.lastQuick = p.lastQuick
  lastFull : p'.lastFull = p.lastFull
  lastStep : p'.lastStep = p.lastStep

theorem GoesOn.refl (p : Poll) : GoesOn p p :=
  ⟨⟨[], (List.append_nil _).symm⟩, rfl, rfl, rfl, rfl, rfl, rfl, rfl⟩

theorem GoesOn.trans {p p' p'' : Poll} (h : GoesOn p p') (h' : GoesOn p' p'') : GoesOn p p'' where
  queue := by
    obtain ⟨strings, hqueue⟩ := h.queue
    obtain ⟨strings', hqueue'⟩ := h'.queue
    exact ⟨strings ++ strings', by rw [hqueue', hqueue, List.append_assoc]⟩
  queuePos := h'.queuePos.trans h.queuePos
  stepNow := h'.stepNow.trans h.stepNow
  cycleFull := h'.cycleFull.trans h.cycleFull
  dataChanged := h'.dataChanged.trans h.dataChanged
  lastQuick := h'.lastQuick.trans h.lastQuick
  lastFull := h'.lastFull.trans h.lastFull
  lastStep := h'.lastStep.trans h.lastStep

theorem GoesOn.of_eq {p p' : Poll} (hqueue : p'.queue = p.queue) (hpos : p'.queuePos = p.queuePos)
    (hnow : p'.stepNow = p.stepNow) (hfull : p'.cycleFull = p.cycleFull) (hchanged : p'.dataChanged = p.dataChanged)
    (hlastQuick : p'.lastQuick = p.lastQuick) (hlastFull : p'.lastFull = p.lastFull)
    (hlastStep : p'.lastStep = p.lastStep) : GoesOn p p' :=
  ⟨⟨[], by rw [hqueue, List.append_nil]⟩, hpos, hnow, hfull, hchanged, hlastQuick, hlastFull, hlastStep⟩

theorem goesOn_appendString (p : Poll) (index : Nat) : GoesOn p (appendString p index) := by
  unfold appendString
  split
  · exact GoesOn.refl p
  · exact ⟨⟨_, rfl⟩, rfl, rfl, rfl, rfl, rfl, rfl, rfl⟩

theorem goesOn_foldl_appendString (strings : List Nat) (p : Poll) : GoesOn p (strings.foldl appendString p) := by
  induction strings generalizing p with
  | nil => exact GoesOn.refl p
  | cons index rest ih =>
      rw [List.foldl_cons]
      exact (goesOn_appendString p index).trans (ih _)

theorem goesOn_appendNewStrings (hooks : Hooks) (host : Host) (p : Poll) : GoesOn p (appendNewStrings hooks host p) :=
  goesOn_foldl_appendString _ p

theorem goesOn_bindRowsOnce (sub : Subdriver) (t : Transport) (p : Poll) : GoesOn p (bindRowsOnce sub t p) := by
  unfold bindRowsOnce
  split
  · exact GoesOn.refl p
  · exact GoesOn.of_eq rfl rfl rfl rfl rfl rfl rfl rfl

theorem goesOn_buildOnce (sub : Subdriver) (hooks : Hooks) (host : Host) (p : Poll) :
    GoesOn p (buildOnce sub hooks host p) := by
  unfold buildOnce
  split
  · exact GoesOn.refl p
  · have hbuilt : GoesOn (bindRowsOnce sub host.toTransport p)
        { withLists sub hooks host (bindRowsOnce sub host.toTransport p) with
          inputTwin := findInputTwins host.usages
          staticReport := findStaticReports hooks host.usages
          listsBuilt := true } := GoesOn.of_eq rfl rfl rfl rfl rfl rfl rfl rfl
    exact (goesOn_bindRowsOnce sub host.toTransport p).trans hbuilt

theorem goesOn_recheckStrings (hooks : Hooks) (host : Host) (p : Poll) : GoesOn p (recheckStrings hooks host p) := by
  unfold recheckStrings
  split
  · have hrechecked : GoesOn p { p with stringsRechecked := true } := GoesOn.of_eq rfl rfl rfl rfl rfl rfl rfl rfl
    exact hrechecked.trans (goesOn_appendNewStrings hooks host _)
  · exact GoesOn.refl p

theorem goesOn_finishCycle (sub : Subdriver) (hooks : Hooks) (host : Host) (p : Poll) :
    GoesOn p (finishCycle sub hooks host p) := by
  have hended : GoesOn p (if p.exhausted && p.cycleFull && p.stringsRechecked then
      { p with engine := { p.engine with firstFullDone := true } } else p) := by
    split
    · exact GoesOn.of_eq rfl rfl rfl rfl rfl rfl rfl rfl
    · exact GoesOn.refl p
  have hpruned : ∀ p : Poll, GoesOn p (if p.listsBuilt && p.engine.nutBound && p.engine.nutInitDone && !p.listsPruned then
      pruneFullPoll sub hooks host p else p) := by
    intro p
    split
    · exact GoesOn.of_eq rfl rfl rfl rfl rfl rfl rfl rfl
    · exact GoesOn.refl p
  have hclassified : ∀ p : Poll, GoesOn p (if p.engine.firstFullDone && p.engine.nutBound && p.engine.nutInitDone
      && !p.semiClassified then classifySemiStatic host p else p) := by
    intro p
    split
    · exact GoesOn.of_eq rfl rfl rfl rfl rfl rfl rfl rfl
    · exact GoesOn.refl p
  exact hended.trans ((hpruned _).trans (hclassified _))

theorem goesOn_prepare (sub : Subdriver) (hooks : Hooks) (host : Host) (p : Poll) :
    GoesOn p (prepare sub hooks host p) := by
  have hrefreshed : GoesOn p (refreshData sub hooks host p) := GoesOn.of_eq rfl rfl rfl rfl rfl rfl rfl rfl
  exact hrefreshed.trans ((goesOn_buildOnce sub hooks host _).trans
    ((goesOn_recheckStrings hooks host _).trans (goesOn_finishCycle sub hooks host _)))

/-- A report leaves the running cycle alone, whatever it makes of the rows. -/
theorem goesOn_report (sub : Subdriver) (host : Host) (reportId reportType : Nat) (bytes : List Byte) (engine : State)
    (p : Poll) : GoesOn p { decodeReport sub host reportId reportType bytes p with engine } := by
  have hdecoded : GoesOn p (decodeReport sub host reportId reportType bytes p) := by
    unfold decodeReport
    split
    · exact GoesOn.refl p
    · have hnoted : ∀ (decodedReport : List (Nat × Nat)) (activeBeeper : String),
          GoesOn p { p with decodedReport, activeBeeper } :=
        fun _ _ => GoesOn.of_eq rfl rfl rfl rfl rfl rfl rfl rfl
      exact (hnoted _ _).trans (goesOn_bindRowsOnce sub host.toTransport _)
  exact hdecoded.trans (GoesOn.of_eq rfl rfl rfl rfl rfl rfl rfl rfl)

theorem goesOn_invalidateReport (reportType reportId : Nat) (p : Poll) :
    GoesOn p (invalidateReport reportType reportId p) := by
  unfold invalidateReport
  split
  · exact GoesOn.of_eq rfl rfl rfl rfl rfl rfl rfl rfl
  · exact GoesOn.refl p

/-! ### The start of a cycle -/

/-- A new cycle has a queue of its own, from its head on, and its first request may go out right away. -/
structure Starts (full : Bool) (p p' : Poll) : Prop where
  queuePos : p'.queuePos = 0
  stepNow : p'.stepNow = true
  cycleFull : p'.cycleFull = full
  dataChanged : p'.dataChanged = if full then false else p.dataChanged
  lastStep : p'.lastStep = p.lastStep

theorem goesOn_classifySemiStatic (host : Host) (p : Poll) : GoesOn p (classifySemiStatic host p) :=
  GoesOn.of_eq rfl rfl rfl rfl rfl rfl rfl rfl

theorem takeChange_cases (host : Host) (p : Poll) :
    GoesOn { p with cycleRereads := p.dataChanged, dataChanged := false } (takeChange host p)
      ∧ (takeChange host p).cycleRereads = p.dataChanged := by
  unfold takeChange
  dsimp only
  split
  · exact ⟨goesOn_classifySemiStatic host _, rfl⟩
  · exact ⟨GoesOn.refl _, rfl⟩

theorem starts_startCycle (hooks : Hooks) (host : Host) (full : Bool) (now : UInt32) (p : Poll) :
    Starts full p (startCycle hooks host full now p) := by
  unfold startCycle
  dsimp only
  cases full with
  | false => exact ⟨rfl, rfl, rfl, rfl, rfl⟩
  | true =>
      have hstrings := goesOn_appendNewStrings hooks host (clearCycle true p)
      have htaken := (takeChange_cases host (appendNewStrings hooks host (clearCycle true p))).1
      exact ⟨htaken.queuePos.trans hstrings.queuePos, rfl, htaken.cycleFull.trans hstrings.cycleFull,
        htaken.dataChanged, htaken.lastStep.trans hstrings.lastStep⟩

@[simp] theorem dataChanged_noteRace (raced : Bool) (p : Poll) :
    (noteRace raced p).dataChanged = (p.dataChanged || raced) := rfl

theorem GoesOn.noteRace {p p' : Poll} (h : GoesOn p p') (raced : Bool) :
    GoesOn (noteRace raced p) (GenericDriver.noteRace raced p') where
  queue := h.queue
  queuePos := h.queuePos
  stepNow := h.stepNow
  cycleFull := h.cycleFull
  dataChanged := by rw [dataChanged_noteRace, dataChanged_noteRace, h.dataChanged]
  lastQuick := h.lastQuick
  lastFull := h.lastFull
  lastStep := h.lastStep

/-- A call goes on with the cycle or starts the one that is due. -/
theorem beginCycle_cases (sub : Subdriver) (hooks : Hooks) (host : Host) (now : UInt32) (raced : Bool) (p : Poll) :
    (dueCycle hooks now (prepare sub hooks host p) = none ∧ (beginCycle sub hooks host now raced p).2 = none
      ∧ GoesOn (noteRace raced p) (beginCycle sub hooks host now raced p).1)
    ∨ ∃ full, dueCycle hooks now (prepare sub hooks host p) = some full
      ∧ beginCycle sub hooks host now raced p
        = (startCycle hooks host full now (noteRace raced (prepare sub hooks host p)), some full) := by
  have hprepare := goesOn_prepare sub hooks host p
  unfold beginCycle
  dsimp only
  cases hdue : dueCycle hooks now (prepare sub hooks host p) with
  | none => exact Or.inl ⟨rfl, rfl, hprepare.noteRace raced⟩
  | some full => exact Or.inr ⟨full, rfl, rfl⟩

/-! ### The request of a call -/

/-- A call waits, passes over the rest of the queue, or requests the first item it does not pass over. -/
theorem issue_cases (hooks : Hooks) (host : Host) (now : UInt32) (p : Poll) :
    (mayStep hooks host now p = false ∧ issue hooks host now p = (p, none))
    ∨ (mayStep hooks host now p = true ∧ p.queue[p.queuePos + (skipped hooks host p).length]? = none
      ∧ issue hooks host now p = ({ p with queuePos := p.queuePos + (skipped hooks host p).length }, none))
    ∨ (mayStep hooks host now p = true ∧ ∃ item, p.queue[p.queuePos + (skipped hooks host p).length]? = some item
      ∧ issue hooks host now p
        = ({ p with
              queuePos := p.queuePos + (skipped hooks host p).length + 1
              lastStep := now
              stepNow := false }, some item)) := by
  unfold issue
  cases hmay : mayStep hooks host now p with
  | false => exact Or.inl ⟨rfl, if_pos rfl⟩
  | true =>
      rw [if_neg (by simp)]
      dsimp only
      cases hitem : p.queue[p.queuePos + (skipped hooks host p).length]? with
      | none => exact Or.inr (Or.inl ⟨rfl, rfl, rfl⟩)
      | some item => exact Or.inr (Or.inr ⟨rfl, item, rfl, rfl⟩)

theorem pollStep_loop (sub : Subdriver) (hooks : Hooks) (host : Host) (now : Nat) (raced : Bool) (p : Poll) :
    (pollStep sub p (.loop hooks host now raced)).1
      = (issue hooks host (millis now) (beginCycle sub hooks host (millis now) raced p).1).1 := by
  unfold pollStep loop
  dsimp only

end EspNut.GenericDriver
