import EspNut.Control.Interrupted
import EspNut.Control.Supported

/-!
# A shutdown that does not reach the device

The outage is armed again only for the result NOT_CONNECTED, and shutdown.default has this result only when the connection is already known to be lost at its own first look. A loss that is noticed later is one of the commands not being there, or of all attempts failing, and uses the outage up though nothing was sent.
-/

namespace EspNut.Interrupted

open Lib NutTable HidControl

variable {σ : Type} {port : RequestPort σ}

/-! ### Looks at the connection -/

/-- Nothing but the drop changed the host: until it is noticed the connection is as it was. -/
structure Looking (d : Drop port) (s : σ) (m : Moment σ) : Prop where
  before : m.accesses ≤ d.noticedAt → port.isConnected m.state = port.isConnected s
  after : d.noticedAt < m.accesses → port.isConnected m.state = false

variable {d : Drop port} {s : σ} {m : Moment σ}

theorem Looking.touch (h : Looking d s m) : Looking d s (touch port (some d) m) := by
  have hunplug : ∀ s, port.isConnected (if m.accesses = d.goneAt then d.unplug s else s) = port.isConnected s := by
    intro s
    split
    · exact d.unnoticed s
    · rfl
  constructor
  · intro hbefore
    have hearlier : m.accesses < d.noticedAt := hbefore
    show port.isConnected (if m.accesses = d.noticedAt then d.forget _ else _) = _
    rw [if_neg hearlier.ne, hunplug]
    exact h.before hearlier.le
  · intro hafter
    have hlater : d.noticedAt ≤ m.accesses := Nat.lt_succ_iff.mp hafter
    show port.isConnected (if m.accesses = d.noticedAt then d.forget _ else _) = false
    by_cases hnow : m.accesses = d.noticedAt
    · rw [if_pos hnow]
      exact d.noticed _
    · rw [if_neg hnow, hunplug]
      exact h.after (lt_of_le_of_ne hlater (Ne.symm hnow))

theorem supportedCommands_cases (h : Looking d s m) :
    Looking d s (supportedCommands port (some d) m).2
      ∧ (supportedCommands port (some d) m).2.accesses ≤ m.accesses + 2
      ∧ ((supportedCommands port (some d) m).1 ≠ [] → (supportedCommands port (some d) m).2.accesses = m.accesses + 2) := by
  unfold supportedCommands
  dsimp only
  split
  · exact ⟨h.touch, Nat.le_succ _, fun hne => absurd rfl hne⟩
  · split
    · exact ⟨h.touch, Nat.le_succ _, fun hne => absurd rfl hne⟩
    · exact ⟨h.touch.touch, le_rfl, fun _ => rfl⟩

/-- The check looks at most six times, and exactly six times when it sees commands; the connection it sees is the one after five. -/
theorem observe_cases (h : Looking d s m) (hstart : m.accesses = 0) :
    Looking d s (observe port (some d) m).2 ∧ (observe port (some d) m).2.accesses ≤ 6
      ∧ ((observe port (some d) m).1.2.2.2 ≠ [] → (observe port (some d) m).2.accesses = 6)
      ∧ ((observe port (some d) m).1.2.2.2 ≠ [] → (observe port (some d) m).1.1 = true → port.isConnected s = true) := by
  unfold observe
  dsimp only
  split
  · obtain ⟨hlooking, hmost, hexact⟩ := supportedCommands_cases h.touch.touch
    have hsecond : (touch port (some d) (touch port (some d) m)).accesses = 2 := by
      show m.accesses + 1 + 1 = 2
      omega
    rw [hsecond] at hmost hexact
    refine ⟨hlooking.touch.touch, ?_, ?_, ?_⟩
    · show (supportedCommands port (some d) _).2.accesses + 1 + 1 ≤ 6
      omega
    · intro hcommands
      show (supportedCommands port (some d) _).2.accesses + 1 + 1 = 6
      rw [hexact hcommands]
    · intro hcommands hconnected
      by_contra hgone
      by_cases hnoticed : d.noticedAt < (touch port (some d)
          (supportedCommands port (some d) (touch port (some d) (touch port (some d) m))).2).accesses
      · rw [hlooking.touch.after hnoticed] at hconnected
        exact Bool.false_ne_true hconnected
      · rw [hlooking.touch.before (not_lt.mp hnoticed)] at hconnected
        exact hgone hconnected
  · refine ⟨h.touch.touch.touch, ?_, fun hne => absurd rfl hne, fun hne => absurd rfl hne⟩
    show m.accesses + 1 + 1 + 1 ≤ 6
    omega

/-! ### The result of the command -/

theorem tryShutdowns_result (drop : Option (Drop port)) (offered : List UPSCommandInfo) (subs : List String) (m : Moment σ) :
    (tryShutdowns port drop offered subs m).1 ≠ .notConnected := by
  induction subs generalizing m with
  | nil => exact nofun
  | cons sub rest ih =>
      unfold tryShutdowns
      split
      · split
        · exact nofun
        · exact ih _
      · exact ih m

/-- shutdown.default is not connected exactly when its own look finds no connection. -/
theorem executeDefault_notConnected_iff (drop : Option (Drop port)) (m : Moment σ) :
    (executeDefault port drop m).1 = .notConnected
      ↔ port.isConnected (touch port drop (touch port drop m)).state = false := by
  unfold executeDefault begin
  dsimp only
  split
  · rename_i hbegin
    split at hbegin
    · rename_i hconnected
      cases hbegin
      exact iff_of_true rfl hconnected
    · rename_i hconnected
      refine iff_of_false ?_ hconnected
      split at hbegin
      · cases hbegin
        exact nofun
      · split at hbegin
        · cases hbegin
          exact nofun
        · cases hbegin
  · rename_i hbegin
    split at hbegin
    · cases hbegin
    · rename_i hconnected
      exact iff_of_false (tryShutdowns_result drop _ _ _) hconnected

/-! ### Runs -/

/-- A change of the option, or a check on a host in some state whose connection may drop. -/
inductive LinkEvent (port : RequestPort σ) where
  | setEnabled (enabled : Bool)
  | check (s : σ) (drop : Option (Drop port))

/-- The check that begins with the host in this state. -/
def checked (drop : Option (Drop port)) (s : σ) (shutdown : AutoShutdown) : Option CommandResult × AutoShutdown × Moment σ :=
  checkAutoShutdown port drop shutdown ⟨s, 0, 0⟩

def step (shutdown : AutoShutdown) : LinkEvent port → AutoShutdown
  | .setEnabled enabled => shutdown.setEnabled enabled
  | .check s drop => (checked drop s shutdown).2.1

/-- The connection is lost during the check, and no report was sent before. -/
def Unreached (shutdown : AutoShutdown) : LinkEvent port → Prop
  | .setEnabled _ => False
  | .check s drop =>
      gone port drop (checked drop s shutdown).2.2 = true ∧ (checked drop s shutdown).2.2.sent = 0

/-- The next command that is due is sent. -/
def Retries (shutdown : AutoShutdown) : Prop :=
  ∀ o, AutoShutdown.Due o shutdown → (AutoShutdown.checkAutoShutdown o shutdown).1 = some o.result

/-- A shutdown that did not reach the device leaves the outage armed. -/
def StaysArmed (shutdown : AutoShutdown) (event : LinkEvent port) : Prop :=
  shutdown.armed = true → Unreached shutdown event → (step shutdown event).armed = true ∧ Retries (step shutdown event)

/-- The accesses of a check up to the first look of shutdown.default at the connection. -/
def firstLook : Nat := 8

/-- If the command is due, the host has noticed the loss when the command first looks at the connection. -/
def NoticedInTime (shutdown : AutoShutdown) (event : LinkEvent port) : Prop :=
  match event with
  | .setEnabled _ => True
  | .check s drop =>
      shutdown.armed = true → Unreached shutdown event →
        AutoShutdown.Due (observation port drop ⟨s, 0, 0⟩) shutdown → ∃ d, drop = some d ∧ d.noticedAt < firstLook

theorem retries_of_armed {shutdown : AutoShutdown} (h : shutdown.armed = true) : Retries shutdown := by
  intro o hdue
  rcases AutoShutdown.checkAutoShutdown_cases o shutdown with ⟨honline, -⟩ | ⟨-, -, hcheck⟩ | ⟨-, hnot, -⟩
  · exact absurd honline.2.2 hdue.notOnLine
  · rw [hcheck]
  · exact absurd ⟨hdue, h⟩ hnot

theorem looking_start (d : Drop port) (s : σ) : Looking d s ⟨s, 0, 0⟩ :=
  ⟨fun _ => rfl, fun h => absurd h (Nat.not_lt_zero _)⟩

/-- The command is tried exactly when it is due and the outage is armed. -/
theorem tried_iff {drop : Option (Drop port)} {shutdown : AutoShutdown} :
    (checked drop s shutdown).1 ≠ none
      ↔ AutoShutdown.Due (observation port drop ⟨s, 0, 0⟩) shutdown ∧ shutdown.armed = true := by
  unfold checked
  rw [checkAutoShutdown_eq]
  rcases AutoShutdown.checkAutoShutdown_cases (observation port drop ⟨s, 0, 0⟩) shutdown with
    ⟨honline, hcheck⟩ | ⟨hdue, harmed, hcheck⟩ | ⟨-, hnot, hcheck⟩
  · rw [hcheck]
    exact iff_of_false (fun h => h rfl) fun h => h.1.notOnLine honline.2.2
  · rw [hcheck]
    exact iff_of_true nofun ⟨hdue, harmed⟩
  · rw [hcheck]
    exact iff_of_false (fun h => h rfl) hnot

/-- After a check that sends the command the outage is armed exactly when the loss was noticed in time. -/
theorem armed_checked_iff {shutdown : AutoShutdown} (htried : (checked (some d) s shutdown).1 ≠ none) :
    (checked (some d) s shutdown).2.1.armed = true ↔ d.noticedAt < firstLook := by
  unfold checked at htried ⊢
  rw [checkAutoShutdown_eq] at htried ⊢
  dsimp only at htried ⊢
  rcases AutoShutdown.checkAutoShutdown_cases (observation port (some d) ⟨s, 0, 0⟩) shutdown with
    ⟨-, hcheck⟩ | ⟨hdue, -, hcheck⟩ | ⟨-, -, hcheck⟩
  · rw [hcheck] at htried
    exact absurd rfl htried
  · rw [hcheck]
    have hcommands : (observe port (some d) ⟨s, 0, 0⟩).1.2.2.2 ≠ [] := by
      intro hnone
      have hoffered := hdue.offered
      change AutoShutdown.offersShutdownDefault (observe port (some d) ⟨s, 0, 0⟩).1.2.2.2 = true at hoffered
      rw [hnone] at hoffered
      exact Bool.false_ne_true hoffered
    obtain ⟨hlooking, -, hsix, hthere⟩ := observe_cases (looking_start d s) rfl
    have hlook := hlooking.touch.touch
    have height : (touch port (some d) (touch port (some d) (observe port (some d) ⟨s, 0, 0⟩).2)).accesses = firstLook := by
      show (observe port (some d) ⟨s, 0, 0⟩).2.accesses + 1 + 1 = 8
      rw [hsix hcommands]
    have hconnected : port.isConnected s = true := hthere hcommands hdue.connected
    show decide ((executeDefault port (some d) (observe port (some d) ⟨s, 0, 0⟩).2).1 = .notConnected) = true ↔ _
    rw [decide_eq_true_iff, executeDefault_notConnected_iff]
    constructor
    · intro hlost
      by_contra hlate
      rw [hlook.before (by omega), hconnected] at hlost
      exact Bool.false_ne_true hlost.symm
    · intro hintime
      exact hlook.after (by omega)
  · rw [hcheck] at htried
    exact absurd rfl htried

theorem armed_of_not_tried {drop : Option (Drop port)} {shutdown : AutoShutdown} (harmed : shutdown.armed = true)
    (hnot : (checked drop s shutdown).1 = none) : (checked drop s shutdown).2.1.armed = true := by
  unfold checked at hnot ⊢
  rw [checkAutoShutdown_eq] at hnot ⊢
  dsimp only at hnot ⊢
  rcases AutoShutdown.checkAutoShutdown_cases (observation port drop ⟨s, 0, 0⟩) shutdown with
    ⟨-, hcheck⟩ | ⟨-, -, hcheck⟩ | ⟨-, -, hcheck⟩
  · rw [hcheck]
  · rw [hcheck] at hnot
    cases hnot
  · rw [hcheck]
    exact harmed

theorem staysArmed_iff (shutdown : AutoShutdown) (event : LinkEvent port) :
    StaysArmed shutdown event ↔ NoticedInTime shutdown event := by
  cases event with
  | setEnabled enabled => exact iff_of_true (fun _ h => h.elim) trivial
  | check s drop =>
      constructor
      · intro hstays harmed hunreached hdue
        have hafter := (hstays harmed hunreached).1
        have htried : (checked drop s shutdown).1 ≠ none := tried_iff.mpr ⟨hdue, harmed⟩
        cases drop with
        | none => exact absurd hunreached.1 Bool.false_ne_true
        | some d => exact ⟨d, rfl, (armed_checked_iff htried).mp hafter⟩
      · intro hintime harmed hunreached
        have hafter : (step shutdown (.check s drop)).armed = true := by
          by_cases htried : (checked drop s shutdown).1 = none
          · exact armed_of_not_tried harmed htried
          · obtain ⟨d, rfl, hnoticed⟩ := hintime harmed hunreached (tried_iff.mp htried).1
            exact (armed_checked_iff htried).mpr hnoticed
        exact ⟨hafter, retries_of_armed hafter⟩

/-- In a run every shutdown that does not reach the device leaves its outage armed exactly when each loss is noticed in time. -/
theorem outage_stays_armed_iff (port : RequestPort σ) (start : AutoShutdown) (events : List (LinkEvent port)) :
    Along StaysArmed step start events ↔ Along NoticedInTime step start events := by
  have hsame : @StaysArmed σ port = NoticedInTime := by
    funext shutdown event
    exact propext (staysArmed_iff shutdown event)
  rw [hsame]

/-! A device with one timer, on a host whose state is whether it is connected. -/

def timerPort : RequestPort Bool where
  isConnected := id
  hasHidPort _ := true
  upsData s := if s then timerData else UPSData.empty
  supportsBeeperToggle _ := false
  beeperFieldRead _ := false
  shutdownCommandsSupported _ := true
  beeperMuteSupported _ := true
  commandTable s := if s then timerTable else []
  getUsages s := if s then [timerField] else []
  setBeeperField _ _ s := (s, s)
  writeUsage _ _ s := (s, s)
  planSet _ _ _ := .error .unknown
  saveDriverSideValue _ s := (.ok, s)
  writePlannedValue _ s := (.ok, s)
  executeCommand _ s := (.ok, s)
  noteDefaultShutdown _ s := s
  statusString s := if s then "OB DISCHRG LB" else "UNKNOWN"
  isDataStale s := !s
  readReport _ s := (if s then some [0x01, 0x00, 0x00] else none, s)
  sendReport _ _ _ s := (s, s)
  readBack _ s := s

/-- The device is gone right after the first look of shutdown.default at the connection. -/
def dropAfterLook : Drop timerPort where
  goneAt := 8
  noticedAt := 8
  unplug s := s
  forget _ := false
  order := le_rfl
  unnoticed _ := rfl
  noticed _ := rfl

/-- Nothing was sent, and the outage is used up. -/
theorem lost_after_look_uses_up :
    ¬ Along StaysArmed step ⟨true, true⟩ [LinkEvent.check true (some dropAfterLook)] := by
  rintro ⟨hstays, -⟩
  have hunreached : Unreached ⟨true, true⟩ (LinkEvent.check true (some dropAfterLook)) := by
    constructor
    · decide +kernel
    · decide +kernel
  exact absurd (hstays rfl hunreached).1 (by decide +kernel)

end EspNut.Interrupted
