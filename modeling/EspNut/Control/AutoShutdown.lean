import EspNut.Lib.Run
import EspNut.Lib.Text
import EspNut.Ups.Commands

/-!
# The automatic shutdown

With the option on the board sends shutdown.default once when the status holds OB and LB, and not again until the status was back to OL. The words of the status are found by a scan, one word a round.
-/

namespace EspNut

open Lib

structure AutoShutdown where
  enabled : Bool
  armed : Bool
  deriving DecidableEq

namespace AutoShutdown

def initial : AutoShutdown := ⟨false, true⟩

def setEnabled (enabled : Bool) (shutdown : AutoShutdown) : AutoShutdown := { shutdown with enabled }

/-- The command did not reach the UPS: the event is not used up. -/
def restoreArm (shutdown : AutoShutdown) : AutoShutdown := { shutdown with armed := true }

/-- Rounds of the scan, each over the blanks and one word. -/
def scanWords (token : List Char) : Nat → List Char → Bool
  | 0, _ => false
  | rounds + 1, text =>
      if text = [] then false
      else
        let start := text.dropWhile (· = ' ')
        if start.takeWhile (· ≠ ' ') = token then true
        else scanWords token rounds (start.dropWhile (· ≠ ' '))

/-- The status holds the token as a whole word. -/
def hasToken (status : Option String) (token : String) : Bool :=
  match status with
  | none => false
  | some text => if token = "" then false else scanWords token.toList text.toList.length text.toList

def onBatteryLow (status : Option String) : Bool := hasToken status "OB" && hasToken status "LB"

def offersShutdownDefault (commands : List UPSCommandInfo) : Bool := commands.any fun c => c.name = "shutdown.default"

/-- Whether shutdown.default must be sent now. -/
def update (connected stale : Bool) (status : Option String) (commandAvailable : Bool) (shutdown : AutoShutdown) :
    Bool × AutoShutdown :=
  if connected = false ∨ stale = true then (false, shutdown)
  else if hasToken status "OL" then (false, { shutdown with armed := true })
  else if onBatteryLow status && shutdown.armed && shutdown.enabled && commandAvailable then
    (true, { shutdown with armed := false })
  else (false, shutdown)

/-- What a check reads of the UPS, and how the command goes if it is sent. -/
structure Observation where
  connected : Bool
  stale : Bool
  status : String
  commands : List UPSCommandInfo
  result : CommandResult
  deriving DecidableEq

/-- The result of the command, none when it is not sent. -/
def checkAutoShutdown (o : Observation) (shutdown : AutoShutdown) : Option CommandResult × AutoShutdown :=
  let available := onBatteryLow (some o.status) && offersShutdownDefault o.commands
  let updated := update o.connected o.stale (some o.status) available shutdown
  if updated.1 = false then (none, updated.2)
  else if o.result = .notConnected then (some o.result, updated.2.restoreArm)
  else (some o.result, updated.2)

/-! ### Words of the status -/

theorem scanWords_eq {token : List Char} (htoken : token ≠ []) (rounds : Nat) (text : List Char)
    (hrounds : text.length ≤ rounds) : scanWords token rounds text = decide (token ∈ Text.wordsFrom [] text) := by
  induction rounds generalizing text with
  | zero =>
      rw [List.length_eq_zero_iff.mp (Nat.le_zero.mp hrounds)]
      rfl
  | succ rounds ih =>
      unfold scanWords
      rw [Text.wordsFrom_round text]
      by_cases hempty : text = []
      · subst hempty
        rfl
      rw [if_neg hempty]
      dsimp only
      by_cases hblank : text.dropWhile (· = ' ') = []
      · rw [hblank, if_pos rfl, List.takeWhile_nil, if_neg htoken.symm, List.dropWhile_nil, ih [] (Nat.zero_le _)]
        rfl
      · rw [if_neg hblank]
        have hless := Text.length_after_word hblank
        have hshort : ((text.dropWhile (· = ' ')).dropWhile (· ≠ ' ')).length ≤ rounds := by omega
        rw [ih _ hshort]
        by_cases hfirst : (text.dropWhile (· = ' ')).takeWhile (· ≠ ' ') = token
        · rw [if_pos hfirst, hfirst]
          simp
        · rw [if_neg hfirst, decide_eq_decide, List.mem_cons]
          exact ⟨Or.inr, fun h => h.resolve_left fun heq => hfirst heq.symm⟩

/-- A token is found exactly when it is one of the words. -/
theorem hasToken_iff {token : String} (htoken : token ≠ "") (status : String) :
    hasToken (some status) token = true ↔ token ∈ Text.words status := by
  have hchars : token.toList ≠ [] := fun h => htoken (String.toList_eq_nil_iff.mp h)
  unfold hasToken Text.words
  dsimp only
  rw [if_neg htoken, scanWords_eq hchars _ _ le_rfl, decide_eq_true_iff, List.mem_map]
  constructor
  · intro hmem
    exact ⟨token.toList, hmem, String.ofList_toList⟩
  · rintro ⟨word, hmem, rfl⟩
    rwa [String.toList_ofList]

theorem onBatteryLow_iff (status : String) :
    onBatteryLow (some status) = true ↔ "OB" ∈ Text.words status ∧ "LB" ∈ Text.words status := by
  unfold onBatteryLow
  rw [Bool.and_eq_true, hasToken_iff (by decide), hasToken_iff (by decide)]

/-! ### What a check does -/

/-- A connected UPS with fresh data is back on line. -/
def OnLine (o : Observation) : Prop := o.connected = true ∧ o.stale = false ∧ "OL" ∈ Text.words o.status

/-- All that the command is sent for. -/
structure Due (o : Observation) (shutdown : AutoShutdown) : Prop where
  enabled : shutdown.enabled = true
  connected : o.connected = true
  fresh : o.stale = false
  onBattery : "OB" ∈ Text.words o.status
  lowBattery : "LB" ∈ Text.words o.status
  notOnLine : "OL" ∉ Text.words o.status
  offered : offersShutdownDefault o.commands = true

variable {o : Observation} {shutdown : AutoShutdown}

/-- A check finds the UPS on line and arms, sends the command that is due while armed, or changes nothing. -/
theorem checkAutoShutdown_cases (o : Observation) (shutdown : AutoShutdown) :
    (OnLine o ∧ checkAutoShutdown o shutdown = (none, { shutdown with armed := true }))
      ∨ (Due o shutdown ∧ shutdown.armed = true
        ∧ checkAutoShutdown o shutdown = (some o.result, { shutdown with armed := decide (o.result = .notConnected) }))
      ∨ (¬ OnLine o ∧ ¬ (Due o shutdown ∧ shutdown.armed = true) ∧ checkAutoShutdown o shutdown = (none, shutdown)) := by
  unfold checkAutoShutdown update OnLine
  dsimp only
  by_cases hgone : o.connected = false ∨ o.stale = true
  · rw [if_pos hgone]
    have hnever : ¬ (o.connected = true ∧ o.stale = false) := by
      rintro ⟨hconnected, hfresh⟩
      rcases hgone with h | h
      · exact Bool.false_ne_true (h.symm.trans hconnected)
      · exact Bool.false_ne_true (hfresh.symm.trans h)
    exact Or.inr (Or.inr ⟨fun h => hnever ⟨h.1, h.2.1⟩, fun h => hnever ⟨h.1.connected, h.1.fresh⟩, rfl⟩)
  rw [if_neg hgone]
  have hconnected : o.connected = true := by simpa using fun h => hgone (Or.inl h)
  have hfresh : o.stale = false := by simpa using fun h => hgone (Or.inr h)
  by_cases honline : hasToken (some o.status) "OL" = true
  · rw [if_pos honline]
    exact Or.inl ⟨⟨hconnected, hfresh, (hasToken_iff (by decide) _).mp honline⟩, rfl⟩
  rw [if_neg honline]
  have hnotOnLine : "OL" ∉ Text.words o.status := fun h => honline ((hasToken_iff (by decide) _).mpr h)
  by_cases hsend : (onBatteryLow (some o.status) && shutdown.armed && shutdown.enabled
      && (onBatteryLow (some o.status) && offersShutdownDefault o.commands)) = true
  · rw [if_pos hsend]
    simp only [Bool.and_eq_true] at hsend
    obtain ⟨⟨⟨hlow, harmed⟩, henabled⟩, -, hoffered⟩ := hsend
    obtain ⟨hbattery, hlowBattery⟩ := (onBatteryLow_iff o.status).mp hlow
    refine Or.inr (Or.inl ⟨⟨henabled, hconnected, hfresh, hbattery, hlowBattery, hnotOnLine, hoffered⟩, harmed, ?_⟩)
    dsimp only
    rw [if_neg (by decide)]
    by_cases hresult : o.result = .notConnected
    · rw [if_pos hresult, restoreArm, decide_eq_true hresult]
    · rw [if_neg hresult, decide_eq_false hresult]
  · rw [if_neg hsend]
    refine Or.inr (Or.inr ⟨fun h => hnotOnLine h.2.2, ?_, rfl⟩)
    rintro ⟨hdue, harmed⟩
    have hlow := (onBatteryLow_iff o.status).mpr ⟨hdue.onBattery, hdue.lowBattery⟩
    exact hsend (by simp [hlow, harmed, hdue.enabled, hdue.offered])

/-! ### Runs -/

inductive Event where
  | setEnabled (enabled : Bool)
  | check (o : Observation)

/-- The result of the command an event sends, none when it sends none. -/
def sent (shutdown : AutoShutdown) : Event → Option CommandResult
  | .setEnabled _ => none
  | .check o => (checkAutoShutdown o shutdown).1

def step (shutdown : AutoShutdown) : Event → AutoShutdown
  | .setEnabled enabled => shutdown.setEnabled enabled
  | .check o => (checkAutoShutdown o shutdown).2

/-- The commands of a run that got to the device. -/
def delivered : AutoShutdown → List Event → List CommandResult
  | _, [] => []
  | shutdown, event :: rest =>
      ((sent shutdown event).filter (· ≠ .notConnected)).toList ++ delivered (step shutdown event) rest

/-- The event observes a connected UPS with fresh data on line. -/
def Event.SeesOnLine : Event → Prop
  | .setEnabled _ => False
  | .check o => OnLine o

/-- While nothing arms it again at most one command is delivered, and none when it is not armed. -/
theorem length_delivered_le (shutdown : AutoShutdown) (events : List Event) (h : ∀ event ∈ events, ¬ event.SeesOnLine) :
    (delivered shutdown events).length ≤ if shutdown.armed then 1 else 0 := by
  induction events generalizing shutdown with
  | nil => exact Nat.zero_le _
  | cons event rest ih =>
      have hrest := ih (step shutdown event) fun e he => h e (List.mem_cons_of_mem event he)
      unfold delivered
      rw [List.length_append]
      cases event with
      | setEnabled enabled =>
          show 0 + _ ≤ _
          rw [Nat.zero_add]
          exact hrest
      | check o =>
          have hsent : sent shutdown (.check o) = (checkAutoShutdown o shutdown).1 := rfl
          have hstep : step shutdown (.check o) = (checkAutoShutdown o shutdown).2 := rfl
          rcases checkAutoShutdown_cases o shutdown with ⟨honline, -⟩ | ⟨-, harmed, hcheck⟩ | ⟨-, -, hcheck⟩
          · exact absurd honline (h _ List.mem_cons_self)
          · rw [hcheck] at hsent hstep
            rw [hstep] at hrest ⊢
            rw [hsent, harmed, if_pos rfl]
            by_cases hresult : o.result = .notConnected
            · simpa [hresult, Option.filter] using hrest
            · simpa [hresult, Option.filter] using hrest
          · rw [hcheck] at hsent hstep
            rw [hstep] at hrest ⊢
            rw [hsent]
            simpa using hrest

def SendsDue (shutdown : AutoShutdown) (event : Event) : Prop :=
  ∀ result, sent shutdown event = some result → ∃ o, event = .check o ∧ Due o shutdown

theorem sendsDue (shutdown : AutoShutdown) (event : Event) : SendsDue shutdown event := by
  intro result hsent
  cases event with
  | setEnabled enabled => cases hsent
  | check o =>
      refine ⟨o, rfl, ?_⟩
      change (checkAutoShutdown o shutdown).1 = some result at hsent
      rcases checkAutoShutdown_cases o shutdown with ⟨-, hcheck⟩ | ⟨hdue, -, -⟩ | ⟨-, -, hcheck⟩
      · rw [hcheck] at hsent
        cases hsent
      · exact hdue
      · rw [hcheck] at hsent
        cases hsent

/-- Between two times on line at most one command is delivered, and every command that is sent is due. -/
theorem at_most_one_each_outage (start : AutoShutdown) (events : List Event) :
    (∀ before outage after, events = before ++ outage ++ after → (∀ event ∈ outage, ¬ event.SeesOnLine) →
      (delivered (run step start before) outage).length ≤ 1)
      ∧ Along SendsDue step start events := by
  constructor
  · intro before outage after _ houtage
    refine (length_delivered_le _ outage houtage).trans ?_
    split
    · exact le_rfl
    · exact Nat.zero_le 1
  · induction events generalizing start with
    | nil => exact trivial
    | cons event rest ih => exact ⟨sendsDue start event, ih (step start event)⟩

end AutoShutdown

end EspNut
