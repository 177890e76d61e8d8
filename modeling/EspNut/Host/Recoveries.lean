import EspNut.Host.Service

/-!
# The interface is recovered a limited number of times

Failed INPUT transfers, missing INPUT reports and unanswered requests each have a ladder of recoveries of the interface, with a restart at its end. Without a sign of life the three together stop the interface seven times at most, and once the restart is requested it is left alone until an interface is bound.
-/

namespace EspNut.HostService

open Lib

/-! ### Signs of life -/

/-- The claim binds the interface: its descriptor was read, and is that of a UPS. -/
def Binds (s : HostService) (a : ClaimAnswers) (h : DeviceHandle) : Prop :=
  s.isReachable (some h) = true ∧ a.descriptor.any isUps = true

def BindsInterface (s : HostService) : Step → Prop
  | .processEvent a =>
      match s.eventQueue with
      | .connected h :: _ => s.Binds a.claim h
      | _ => False
  | .retryClaim a =>
      match s.descRetryHandle with
      | some h => s.Binds a h
      | none => False
  | _ => False

/-- The step binds an interface, takes an INPUT report of the one that is bound, or is given an answer of the device. -/
def SignOfLife (s : HostService) (step : Step) : Prop :=
  s.BindsInterface step ∨
    match step with
    | .processEvent a =>
        match s.eventQueue with
        | .inputReport h _ :: _ => s.hidDevHandle = some h ∧ s.driver ≠ none ∧ s.quirks &&& quirkNoInterruptPipe = 0
        | .transferError _ :: _ => USBHostUPS.backoffAfter a.recover.cleared = false
        | _ => False
    | .poll a => USBHostUPS.backoffAfter a.recover.cleared = false ∨ ∃ r ∈ a.requests, USBHostUPS.backoffAfter r.error = false
    | .command requests => ∃ r ∈ requests, USBHostUPS.backoffAfter r.error = false
    | _ => False

/-! ### Steps that leave the ladders -/

/-- How often the HID driver was called for a function. -/
def callCount (f : HidFunction) (s : HostService) : Nat := s.calls.countP fun call => call.function == f

/-- The functions that stop, clear and start an interface. -/
def Handles (f : HidFunction) : Prop := f = .stop ∨ f = .start ∨ f = .clearEpInHalt

/-- A step that keeps a request for a restart, and leaves the interface alone. -/
structure Held (s s' : HostService) : Prop where
  requested : s.restartRequested = true → s'.restartRequested = true ∧ s'.restartReason = s.restartReason
  calls : ∀ f, Handles f → callCount f s' = callCount f s

/-- A step that leaves the ladders as they are, apart from an answer to a request. -/
structure Steady (s s' : HostService) : Prop extends Held s s' where
  link : s'.link.cfg = s.link.cfg
  input : s'.inWd.cfg = s.inWd.cfg ∧ s'.inWd.recoveries = s.inWd.recoveries
  transfers : s'.inRecoveries = s.inRecoveries
  ready : s'.isReadyToPoll = s.isReadyToPoll
  pending : s'.inRestartPending = s.inRestartPending
  attempts : s'.inStartAttempts = s.inStartAttempts

/-- A step that leaves the ladders as they are. -/
structure Still (s s' : HostService) : Prop extends Steady s s' where
  recoveries : s'.link.recoveries = s.link.recoveries

variable {s s' s'' : HostService} {h : DeviceHandle}

theorem Held.refl (s : HostService) : Held s s := ⟨fun hrequested => ⟨hrequested, rfl⟩, fun _ _ => rfl⟩

theorem Held.trans (first : Held s s') (second : Held s' s'') : Held s s'' where
  requested hrequested :=
    have hfirst := first.requested hrequested
    have hsecond := second.requested hfirst.1
    ⟨hsecond.1, hsecond.2.trans hfirst.2⟩
  calls f hf := (second.calls f hf).trans (first.calls f hf)

theorem Steady.trans (first : Steady s s') (second : Steady s' s'') : Steady s s'' where
  toHeld := first.toHeld.trans second.toHeld
  link := second.link.trans first.link
  input := ⟨second.input.1.trans first.input.1, second.input.2.trans first.input.2⟩
  transfers := second.transfers.trans first.transfers
  ready := second.ready.trans first.ready
  pending := second.pending.trans first.pending
  attempts := second.attempts.trans first.attempts

theorem Still.refl (s : HostService) : Still s s := ⟨⟨Held.refl s, rfl, ⟨rfl, rfl⟩, rfl, rfl, rfl, rfl⟩, rfl⟩

theorem Still.trans (first : Still s s') (second : Still s' s'') : Still s s'' :=
  ⟨first.toSteady.trans second.toSteady, second.recoveries.trans first.recoveries⟩

theorem still_of_same (hcalls : s'.calls = s.calls) (hrequested : s'.restartRequested = s.restartRequested)
    (hreason : s'.restartReason = s.restartReason) (hlink : s'.link = s.link) (hinput : s'.inWd = s.inWd)
    (htransfers : s'.inRecoveries = s.inRecoveries) (hready : s'.isReadyToPoll = s.isReadyToPoll)
    (hpending : s'.inRestartPending = s.inRestartPending) (hattempts : s'.inStartAttempts = s.inStartAttempts) : Still s s' where
  requested h := ⟨hrequested.trans h, hreason⟩
  calls _ _ := by
    unfold callCount
    rw [hcalls]
  link := congrArg LinkMonitor.cfg hlink
  input := ⟨congrArg InputWatchdog.cfg hinput, congrArg InputWatchdog.recoveries hinput⟩
  transfers := htransfers
  ready := hready
  pending := hpending
  attempts := hattempts
  recoveries := congrArg LinkMonitor.recoveries hlink

theorem callCount_call (f function : HidFunction) (handle : Option DeviceHandle) :
    callCount f (s.call function handle) = callCount f s + if function = f then 1 else 0 := by
  unfold callCount call
  rw [List.countP_append, List.countP_singleton]
  simp only [beq_iff_eq]

theorem not_handles {function : HidFunction} (h : function ≠ .stop ∧ function ≠ .start ∧ function ≠ .clearEpInHalt) :
    ¬ Handles function := by
  rintro (rfl | rfl | rfl)
  · exact h.1 rfl
  · exact h.2.1 rfl
  · exact h.2.2 rfl

theorem still_call (function : HidFunction) (hother : ¬ Handles function) (handle : Option DeviceHandle) :
    Still s (s.call function handle) := by
  refine ⟨⟨⟨fun hrequested => ⟨hrequested, rfl⟩, fun f hf => ?_⟩, rfl, ⟨rfl, rfl⟩, rfl, rfl, rfl, rfl⟩, rfl⟩
  rw [callCount_call, if_neg fun heq : function = f => hother (heq ▸ hf), Nat.add_zero]

theorem still_requestRestart (why : String) : Still s (s.requestRestart why) := by
  unfold requestRestart
  split
  · exact Still.refl s
  · rename_i hnot
    exact ⟨⟨⟨fun hrequested => absurd hrequested hnot, fun _ _ => rfl⟩, rfl, ⟨rfl, rfl⟩, rfl, rfl, rfl, rfl⟩, rfl⟩

/-! ### Requests -/

theorem steady_noteControlResult (error : Option TransferError) (now : UInt32) : Steady s (s.noteControlResult error now) := by
  refine ⟨⟨fun hrequested => ⟨hrequested, rfl⟩, fun _ _ => rfl⟩, ?_, ⟨rfl, rfl⟩, rfl, rfl, rfl, rfl⟩
  unfold noteControlResult
  dsimp only
  split
  · rfl
  · rfl

theorem still_noteControlResult {error : Option TransferError} (hfailed : USBHostUPS.backoffAfter error = true) (now : UInt32) :
    Still s (s.noteControlResult error now) := by
  refine ⟨steady_noteControlResult error now, ?_⟩
  unfold noteControlResult
  rw [hfailed, if_pos rfl]
  rfl

/-- An interface that cannot be reached fails the request too. -/
theorem backoffAfter_unreachable {error : Option TransferError} (hfailed : USBHostUPS.backoffAfter error = true) (reachable : Bool) :
    USBHostUPS.backoffAfter (if reachable = true then error else some .failed) = true := by
  split
  · exact hfailed
  · rfl

theorem steady_request (r : ControlRequest) : Steady s (s.request r) := by
  unfold request
  split
  · exact (Still.refl s).toSteady
  · split
    · exact (Still.refl s).toSteady
    · have hcontrol : Steady s (s.control .control r.error r.now) :=
        (still_call _ (not_handles (by decide)) s.hidDevHandle).toSteady.trans (steady_noteControlResult _ _)
      dsimp only
      split
      · refine hcontrol.trans (Still.toSteady ?_)
        exact still_of_same rfl rfl rfl rfl rfl rfl rfl rfl rfl
      · exact hcontrol

theorem still_request {r : ControlRequest} (hfailed : USBHostUPS.backoffAfter r.error = true) : Still s (s.request r) := by
  refine ⟨steady_request r, ?_⟩
  unfold request
  split
  · rfl
  · split
    · rfl
    · have hcontrol : (s.control .control r.error r.now).link.recoveries = s.link.recoveries :=
        (still_noteControlResult (backoffAfter_unreachable hfailed _) r.now).recoveries
      dsimp only
      split
      · exact hcontrol
      · exact hcontrol

theorem steady_requests (requests : List ControlRequest) : Steady s (requests.foldl request s) := by
  induction requests generalizing s with
  | nil => exact (Still.refl s).toSteady
  | cons r rest ih => exact (steady_request r).trans ih

theorem still_requests {requests : List ControlRequest} (hfailed : ∀ r ∈ requests, USBHostUPS.backoffAfter r.error = true) :
    Still s (requests.foldl request s) := by
  induction requests generalizing s with
  | nil => exact Still.refl s
  | cons r rest ih =>
      have hrest := ih (s := s.request r) fun other hother => hfailed other (List.mem_cons_of_mem r hother)
      exact (still_request (hfailed r List.mem_cons_self)).trans hrest

/-! ### Interfaces and events -/

theorem still_postEvent (event : HidEvent) (reservedSlot : Bool) : Still s (s.postEvent event reservedSlot) := by
  unfold postEvent
  split
  · exact still_of_same rfl rfl rfl rfl rfl rfl rfl rfl rfl
  · split
    · exact still_of_same rfl rfl rfl rfl rfl rfl rfl rfl rfl
    · exact still_of_same rfl rfl rfl rfl rfl rfl rfl rfl rfl

theorem still_setIface (state : Option IfaceState) : Still s (s.setIface h state) :=
  still_of_same rfl rfl rfl rfl rfl rfl rfl rfl rfl

theorem still_awaitDeletion (self : Option DeviceHandle) (parent : Bool) : Still s (s.awaitDeletion self parent h) := by
  unfold awaitDeletion
  dsimp only
  split
  · exact still_setIface _
  · exact (still_setIface _).trans (still_postEvent _ true)

theorem still_hidHostDeviceClose (answer : CloseAnswer) (self : Option DeviceHandle) (h : DeviceHandle) :
    Still s (s.hidHostDeviceClose answer self h) := by
  unfold hidHostDeviceClose
  split
  · exact Still.refl s
  · split
    · exact Still.refl s
    · split
      · exact still_setIface _
      · exact still_awaitDeletion self true
  · split
    · exact Still.refl s
    · exact still_awaitDeletion self true
  · exact still_setIface _
  · exact still_setIface _

theorem still_closeInterface (first second : CloseAnswer) (h : DeviceHandle) : Still s (s.closeInterface first second h) :=
  (still_hidHostDeviceClose first (some h) h).trans (still_hidHostDeviceClose second none h)

theorem still_attach (h : DeviceHandle) (opens : Bool) : Still s (s.attach h opens) := by
  unfold attach
  split
  · exact (still_setIface _).trans (still_postEvent _ true)
  · exact (still_setIface _).trans (still_postEvent _ true)

theorem still_detach (h : DeviceHandle) : Still s (s.detach h) := by
  unfold detach
  split
  · exact Still.refl s
  · exact Still.refl s
  · exact still_awaitDeletion none false
  · exact still_awaitDeletion none false
  · exact still_setIface none
  · exact still_setIface none

theorem still_deferClaim (h : DeviceHandle) (now : UInt32) : Still s (s.deferClaim h now).1 := by
  unfold deferClaim
  split
  · exact Still.refl s
  · split
    · exact still_of_same rfl rfl rfl rfl rfl rfl rfl rfl rfl
    · exact still_of_same rfl rfl rfl rfl rfl rfl rfl rfl rfl

theorem still_clearDeferredClaim (h : DeviceHandle) : Still s (s.clearDeferredClaim h) := by
  unfold clearDeferredClaim
  split
  · exact still_of_same rfl rfl rfl rfl rfl rfl rfl rfl rfl
  · exact Still.refl s

/-- A claim that does not bind the interface keeps it for later or closes it. -/
theorem still_claimInterface {a : ClaimAnswers} (hbinds : ¬ s.Binds a h) : Still s (s.claimInterface a h) := by
  have hcalled : Still s (s.call .getReportDescriptor (some h)) := still_call _ (not_handles (by decide)) _
  unfold claimInterface
  dsimp only
  split
  · have hdeferred := hcalled.trans (still_deferClaim h a.now)
    split
    · rename_i heq
      rw [heq] at hdeferred
      exact hdeferred
    · rename_i heq
      rw [heq] at hdeferred
      have hasked := hdeferred.trans (still_call .ctrlStuck (not_handles (by decide)) (some h))
      have hclosed := hasked.trans (still_closeInterface a.firstClose a.secondClose h)
      split
      · exact hclosed.trans (still_requestRestart _)
      · exact hclosed
  · rename_i parser hread
    have hother : isUps parser = false := by
      split at hread
      · rename_i hreachable
        refine Bool.eq_false_iff.mpr fun hups => hbinds ⟨hreachable, ?_⟩
        rw [hread]
        exact hups
      · exact nomatch hread
    rw [if_pos hother]
    exact (hcalled.trans (still_clearDeferredClaim h)).trans (still_closeInterface a.firstClose a.secondClose h)

theorem held_handleDisconnected (answer : CloseAnswer) (h : DeviceHandle) : Held s (s.handleDisconnected answer h) := by
  have hclosed : Held s ((s.hidHostDeviceClose answer none h).clearDeferredClaim h) :=
    ((still_hidHostDeviceClose answer none h).trans (still_clearDeferredClaim h)).toHeld
  unfold handleDisconnected
  dsimp only
  split
  · exact hclosed
  · exact hclosed.trans ⟨fun hrequested => ⟨hrequested, rfl⟩, fun _ _ => rfl⟩

theorem still_serviceEnumWatchdog (devices : Bool) (now : UInt32) : Still s (s.serviceEnumWatchdog devices now) := by
  unfold serviceEnumWatchdog
  split
  · exact Still.refl s
  · split
    · refine Still.trans ?_ (still_requestRestart _)
      exact still_of_same rfl rfl rfl rfl rfl rfl rfl rfl rfl
    · exact still_of_same rfl rfl rfl rfl rfl rfl rfl rfl rfl

/-! ### A restart that is requested -/

theorem held_handleTransferError (a : RecoverAnswers) (now : UInt32) (h : DeviceHandle) (hrequested : s.restartRequested = true) :
    Held s (s.handleTransferError a now h) := by
  unfold handleTransferError
  split
  · exact Held.refl s
  · split
    · rename_i hours
      exact absurd (hrequested.symm.trans hours.2.2.2) (by decide)
    · exact Held.refl s

theorem held_processEvent {a : EventAnswers} (hrequested : s.restartRequested = true)
    (hbinds : ¬ s.BindsInterface (.processEvent a)) : Held s (s.processEvent a) := by
  unfold processEvent
  split
  · exact Held.refl s
  · rename_i event rest hqueue
    have htaken (seen : Bool) : Still s { s with eventQueue := rest, enumSeen := seen } :=
      still_of_same rfl rfl rfl rfl rfl rfl rfl rfl rfl
    unfold BindsInterface at hbinds
    rw [hqueue] at hbinds
    dsimp only
    split
    · exact ((htaken true).trans (still_claimInterface hbinds)).toHeld
    · exact (htaken true).toHeld
    · refine (htaken s.enumSeen).toHeld.trans ?_
      unfold processInputReport
      split
      · exact Held.refl _
      · split
        · exact Held.refl _
        · exact ⟨fun hrequested => ⟨hrequested, rfl⟩, fun _ _ => rfl⟩
    · exact (htaken s.enumSeen).toHeld.trans (held_handleDisconnected _ _)
    · refine (htaken s.enumSeen).toHeld.trans ?_
      exact held_handleTransferError a.recover a.now _ hrequested

theorem still_retryClaim {a : ClaimAnswers} (hbinds : ¬ s.BindsInterface (.retryClaim a)) : Still s (s.retryClaim a) := by
  unfold BindsInterface at hbinds
  unfold retryClaim
  split
  · exact Still.refl s
  · split
    · rename_i hdeferred
      simp only [hdeferred] at hbinds
      exact still_claimInterface hbinds
    · exact still_call _ (not_handles (by decide)) none

/-- Until an interface is bound the poll leaves the one it had alone. -/
theorem held_step (step : Step) (hrequested : s.restartRequested = true) (hbinds : ¬ s.BindsInterface step) :
    Held s (s.step step) := by
  cases step with
  | attach h opens => exact (still_attach h opens).toHeld
  | detach h => exact (still_detach h).toHeld
  | input h ts => exact (still_postEvent _ false).toHeld
  | transferError h => exact (still_postEvent _ true).toHeld
  | processEvent a => exact held_processEvent hrequested hbinds
  | retryClaim a => exact (still_retryClaim hbinds).toHeld
  | enumWatchdog devices now => exact (still_serviceEnumWatchdog devices now).toHeld
  | poll a =>
      have hidle : s.poll a = s := if_pos hrequested
      show Held s (s.poll a)
      rw [hidle]
      exact Held.refl s
  | command requests => exact (steady_requests requests).toHeld

/-- A restart that was requested stays so, for its first reason, and the interface is left alone, as long as no interface is bound. -/
theorem held_run (s : HostService) (steps : List Step) (hrequested : s.restartRequested = true)
    (hbinds : Along (fun s step => ¬ s.BindsInterface step) HostService.step s steps) :
    (run HostService.step s steps).restartRequested = true ∧ (run HostService.step s steps).restartReason = s.restartReason
      ∧ ∀ f, Handles f → callCount f (run HostService.step s steps) = callCount f s := by
  have hheld : Held s (run HostService.step s steps) := by
    refine run_along (P := Held s) (Held.refl s) ?_ steps hbinds
    intro state step hstep hbefore
    exact hbefore.trans (held_step step (hbefore.requested hrequested).1 hstep)
  exact ⟨(hheld.requested hrequested).1, (hheld.requested hrequested).2, hheld.calls⟩

/-- The interface is bound, and its INPUT transfer fails once more than it is recovered. -/
def keepsFailing : List Step :=
  let parser : HIDParser := ⟨[⟨0x00840004, 1, 0, 0, 8, true, 0, 100, 0, 0, "", []⟩], Store.empty, Store.empty, Store.empty⟩
  let claim : ClaimAnswers := ⟨10, some parser, false, some ⟨0x051D, 2, "", ""⟩, ⟨true, true⟩, ⟨true, true⟩, true⟩
  let fails (now : UInt32) : List Step := [.transferError 1, .processEvent ⟨claim, ⟨true, some .failed, now⟩, now⟩]
  let restarts (now : UInt32) : List Step := [.poll ⟨now, true, false, ⟨true, none, now⟩, false, [], true, true⟩]
  [.attach 1 true, .processEvent ⟨claim, ⟨true, none, 0⟩, 10⟩] ++ fails 100 ++ restarts 200 ++ fails 300 ++ restarts 400
    ++ fails 500 ++ restarts 600 ++ fails 700

/-- After the request for a restart: a poll, another failure, and a device whose descriptor cannot be read. -/
def afterRequest : List Step :=
  let claim : ClaimAnswers := ⟨900, none, false, none, ⟨true, true⟩, ⟨true, true⟩, true⟩
  [.poll ⟨800, true, false, ⟨true, none, 800⟩, false, [], true, true⟩, .transferError 1,
   .processEvent ⟨claim, ⟨true, some .failed, 850⟩, 850⟩, .attach 2 true, .processEvent ⟨claim, ⟨true, none, 900⟩, 900⟩]

theorem not_binds_unread {s : HostService} {a : EventAnswers} (hunread : a.claim.descriptor = none) :
    ¬ s.BindsInterface (.processEvent a) := by
  simp only [BindsInterface]
  split
  · rintro ⟨-, hread⟩
    rw [hunread] at hread
    exact nomatch hread
  · exact id

theorem held_run_keepsFailing :
    let s := run HostService.step (initial (Vector.replicate 8 0) (Vector.replicate 12 0) 0 0) keepsFailing
    (run HostService.step s afterRequest).restartRequested = true
      ∧ (run HostService.step s afterRequest).restartReason = s.restartReason
      ∧ ∀ f, Handles f → callCount f (run HostService.step s afterRequest) = callCount f s := by
  intro s
  exact held_run s afterRequest (by decide) ⟨id, id, not_binds_unread rfl, id, not_binds_unread rfl, trivial⟩

/-- The interface stays bound, and the reason is the one of the transfers. -/
example :
    let s := run HostService.step (initial (Vector.replicate 8 0) (Vector.replicate 12 0) 0 0) keepsFailing
    s.hidDevHandle = some 1 ∧ s.restartReason = "INPUT transfer keeps failing" ∧ callCount .stop s = 3 := by
  decide

/-! ### The ladders -/

/-- What holds of the ladders in every run. -/
structure Tame (s : HostService) : Prop where
  link : s.link.cfg = LinkMonitor.defaultConfig
  input : s.inWd.cfg = InputWatchdog.defaultConfig
  transfers : s.inRecoveries ≤ maxInRecoveries ∨ s.restartRequested = true
  attempts : s.inRestartPending = true → s.inStartAttempts < maxInStartAttempts

/-- How many recoveries the three ladders still allow. -/
def recoveriesLeft (s : HostService) : Nat :=
  if s.isReadyToPoll = true then
    2 - s.link.recoveries.toNat + (2 - s.inWd.recoveries.toNat) + (3 - s.inRecoveries.toNat)
  else 0

/-- How often the start of the interface is still tried. -/
def startsLeft (s : HostService) : Nat := if s.inRestartPending = true then 40 - s.inStartAttempts.toNat else 0

/-- The recoveries are paid from what is left of them, and each pays for forty starts. -/
structure Bounded (s s' : HostService) : Prop where
  stops : callCount .stop s' + s'.recoveriesLeft ≤ callCount .stop s + s.recoveriesLeft
  starts : callCount .start s' + s'.startsLeft + 40 * callCount .stop s
    ≤ callCount .start s + s.startsLeft + 40 * callCount .stop s'

/-- A step that stays on the ladders, and climbs them while the device is silent. -/
structure Climbs (silent : Prop) (s s' : HostService) : Prop where
  tame : Tame s'
  bounded : silent → Bounded s s'

variable {silent : Prop}

theorem toNat_count {n : UInt8} (hn : n.toNat < 255) : (n + 1).toNat = n.toNat + 1 := by
  rw [UInt8.toNat_add]
  exact Nat.mod_eq_of_lt (show n.toNat + 1 < 2 ^ 8 by omega)

theorem Bounded.trans (first : Bounded s s') (second : Bounded s' s'') : Bounded s s'' := by
  have hstops := first.stops
  have hstops' := second.stops
  have hstarts := first.starts
  have hstarts' := second.starts
  exact ⟨by omega, by omega⟩

theorem Tame.steady (hs : Tame s) (hsteady : Steady s s') : Tame s' where
  link := hsteady.link.trans hs.link
  input := hsteady.input.1.trans hs.input
  transfers := by
    rw [hsteady.transfers]
    exact hs.transfers.imp_right fun hrequested => (hsteady.requested hrequested).1
  attempts := by
    rw [hsteady.pending, hsteady.attempts]
    exact hs.attempts

theorem recoveriesLeft_congr (hready : s'.isReadyToPoll = s.isReadyToPoll) (hlink : s'.link.recoveries = s.link.recoveries)
    (hinput : s'.inWd.recoveries = s.inWd.recoveries) (htransfers : s'.inRecoveries = s.inRecoveries) :
    s'.recoveriesLeft = s.recoveriesLeft := by
  unfold recoveriesLeft
  rw [hready, hlink, hinput, htransfers]

theorem Still.bounded (hstill : Still s s') : Bounded s s' := by
  have hstops := hstill.calls .stop (Or.inl rfl)
  have hstarts := hstill.calls .start (Or.inr (Or.inl rfl))
  have hleft := recoveriesLeft_congr hstill.ready hstill.recoveries hstill.input.2 hstill.transfers
  have hstartsLeft : s'.startsLeft = s.startsLeft := by
    unfold startsLeft
    rw [hstill.pending, hstill.attempts]
  exact ⟨by omega, by omega⟩

theorem Still.climbs (hs : Tame s) (hstill : Still s s') : Climbs silent s s' :=
  ⟨hs.steady hstill.toSteady, fun _ => hstill.bounded⟩

theorem Climbs.trans (first : Climbs silent s s') (second : Climbs silent s' s'') : Climbs silent s s'' :=
  ⟨second.tame, fun hsilent => (first.bounded hsilent).trans (second.bounded hsilent)⟩

theorem hidHostDeviceStop_eq (halts : Bool) (handle : Option DeviceHandle) :
    ∃ ifaces, s.hidHostDeviceStop halts handle = { s.call .stop handle with ifaces } := by
  unfold hidHostDeviceStop
  dsimp only
  split
  · split
    · exact ⟨_, rfl⟩
    · exact ⟨_, rfl⟩
  · exact ⟨_, rfl⟩

theorem hidHostDeviceStart_eq (submits : Bool) (handle : Option DeviceHandle) :
    ∃ ifaces, (s.hidHostDeviceStart submits handle).2 = { s.call .start handle with ifaces } := by
  unfold hidHostDeviceStart
  dsimp only
  split
  · split
    · exact ⟨_, rfl⟩
    · exact ⟨_, rfl⟩
  · exact ⟨_, rfl⟩

/-- What a recovery leaves: the interface was stopped once, and waits for its start. -/
theorem recoverInterface_eq (clearInHalt : Bool) (a : RecoverAnswers) (now : UInt32) :
    ∃ ifaces calls link, s.recoverInterface clearInHalt a now =
        { s with ifaces, calls, link, inRestartPending := true, inStartAttempts := 0, inRestartAt := now + 50 }
      ∧ link.cfg = s.link.cfg
      ∧ (USBHostUPS.backoffAfter a.cleared = true → link.recoveries = s.link.recoveries)
      ∧ (calls.countP fun call => call.function == .stop) = callCount .stop s + 1
      ∧ (calls.countP fun call => call.function == .start) = callCount .start s := by
  obtain ⟨ifaces, hstop⟩ := hidHostDeviceStop_eq (s := s) a.halts s.hidDevHandle
  have hstopped (f : HidFunction) : callCount f { s.call .stop s.hidDevHandle with ifaces } =
      callCount f s + if .stop = f then 1 else 0 := callCount_call f .stop s.hidDevHandle
  unfold recoverInterface
  dsimp only
  rw [hstop]
  cases clearInHalt with
  | false => exact ⟨ifaces, _, s.link, rfl, rfl, fun _ => rfl, hstopped .stop, hstopped .start⟩
  | true =>
      have hnoted := steady_noteControlResult (s := s)
      refine ⟨ifaces, _, _, rfl, ?_, ?_, ?_, ?_⟩
      · exact (steady_noteControlResult _ a.clearedAt).link
      · intro hfailed
        exact (still_noteControlResult (backoffAfter_unreachable hfailed _) a.clearedAt).recoveries
      · exact (callCount_call .stop .clearEpInHalt _).trans (hstopped .stop)
      · exact (callCount_call .start .clearEpInHalt _).trans (hstopped .start)

theorem climbs_recoverInterface (clearInHalt : Bool) (a : RecoverAnswers) (now : UInt32) (hs' : Tame s')
    (hstops : callCount .stop s' = callCount .stop s) (hstarts : callCount .start s' = callCount .start s)
    (hfailed : silent → USBHostUPS.backoffAfter a.cleared = true)
    (hpaid : s'.recoveriesLeft + 1 ≤ s.recoveriesLeft) : Climbs silent s (s'.recoverInterface clearInHalt a now) := by
  obtain ⟨ifaces, calls, link, heq, hcfg, hlink, hstop, hstart⟩ := recoverInterface_eq (s := s') clearInHalt a now
  rw [heq]
  refine ⟨⟨hcfg.trans hs'.link, hs'.input, hs'.transfers, fun _ => show (0 : UInt8) < maxInStartAttempts by decide⟩,
    fun hsilent => ?_⟩
  generalize hrecovered : HostService.mk .. = recovered
  have hstop' : callCount .stop recovered = callCount .stop s' + 1 := hrecovered ▸ hstop
  have hstart' : callCount .start recovered = callCount .start s' := hrecovered ▸ hstart
  have hstartsLeft : recovered.startsLeft = 40 := hrecovered ▸ rfl
  have hleft : recovered.recoveriesLeft = s'.recoveriesLeft := by
    rw [← hrecovered]
    exact recoveriesLeft_congr rfl (hlink (hfailed hsilent)) rfl rfl
  exact ⟨by omega, by omega⟩

theorem climbs_retryInterfaceStart (submits : Bool) (now : UInt32) (hs : Tame s) (hpending : s.inRestartPending = true) :
    Climbs silent s (s.retryInterfaceStart submits now) := by
  obtain ⟨ifaces, hstart⟩ := hidHostDeviceStart_eq (s := s) submits s.hidDevHandle
  have hcalled (f : HidFunction) : callCount f { s.call .start s.hidDevHandle with ifaces } =
      callCount f s + if .start = f then 1 else 0 := callCount_call f .start s.hidDevHandle
  have hstops := hcalled .stop
  have hstarts := hcalled .start
  have hattempts : s.inStartAttempts.toNat < 40 := UInt8.lt_iff_toNat_lt.mp (hs.attempts hpending)
  have hleft : s.startsLeft = 40 - s.inStartAttempts.toNat := if_pos hpending
  have hstopped (s' : HostService) (hcalls : s'.calls = (s.call .start s.hidDevHandle).calls) (hleft' : s'.startsLeft + 1 ≤ s.startsLeft)
      (hrecoveries : s'.recoveriesLeft = s.recoveriesLeft) : Bounded s s' := by
    have hstops' : callCount .stop s' = callCount .stop s := (congrArg (List.countP _) hcalls).trans hstops
    have hstarts' : callCount .start s' = callCount .start s + 1 := (congrArg (List.countP _) hcalls).trans hstarts
    exact ⟨by omega, by omega⟩
  unfold retryInterfaceStart
  split
  · exact (Still.refl s).climbs hs
  · dsimp only
    rw [hstart]
    have hdone (attempts : UInt8) : Climbs silent s
        { s.call .start s.hidDevHandle with ifaces, inStartAttempts := attempts, inRestartPending := false } := by
      refine ⟨⟨hs.link, hs.input, hs.transfers, nofun⟩, fun _ => hstopped _ rfl ?_ rfl⟩
      show 0 + 1 ≤ s.startsLeft
      omega
    split
    · exact hdone s.inStartAttempts
    · split
      · have hlast := hdone (s.inStartAttempts + 1)
        exact hlast.trans ((still_requestRestart _).climbs hlast.tame)
      · rename_i hmore
        have hmore : s.inStartAttempts + 1 < maxInStartAttempts := UInt8.not_le.mp hmore
        refine ⟨⟨hs.link, hs.input, hs.transfers, fun _ => hmore⟩, fun _ => hstopped _ rfl ?_ rfl⟩
        have hnext : (s.inStartAttempts + 1).toNat = s.inStartAttempts.toNat + 1 := toNat_count (by omega)
        show (if s.inRestartPending = true then 40 - (s.inStartAttempts + 1).toNat else 0) + 1 ≤ s.startsLeft
        rw [if_pos hpending]
        omega

/-- Once the interface is not polled no recovery is left. -/
theorem climbs_unpolled (hs : Tame s) (hheld : Held s s') (hcfg : s'.link.cfg = s.link.cfg ∧ s'.inWd.cfg = s.inWd.cfg)
    (htransfers : s'.inRecoveries = s.inRecoveries) (hready : s'.isReadyToPoll = false)
    (hpending : s'.inRestartPending = true → s.inRestartPending = true) (hattempts : s'.inStartAttempts = s.inStartAttempts) :
    Climbs silent s s' := by
  refine ⟨⟨hcfg.1.trans hs.link, hcfg.2.trans hs.input, ?_, ?_⟩, fun _ => ?_⟩
  · rw [htransfers]
    exact hs.transfers.imp_right fun hrequested => (hheld.requested hrequested).1
  · rw [hattempts]
    exact fun h => hs.attempts (hpending h)
  · have hstops := hheld.calls .stop (Or.inl rfl)
    have hstarts := hheld.calls .start (Or.inr (Or.inl rfl))
    have hleft : s'.recoveriesLeft = 0 := if_neg (by rw [hready]; exact nofun)
    have hstartsLeft : s'.startsLeft ≤ s.startsLeft := by
      unfold startsLeft
      rw [hattempts]
      split
      · rename_i h
        rw [if_pos (hpending h)]
      · exact Nat.zero_le _
    exact ⟨by omega, by omega⟩

theorem climbs_recoverStuckTransfer (now : UInt32) (hs : Tame s) : Climbs silent s (s.recoverStuckTransfer now) := by
  unfold recoverStuckTransfer
  split
  · rename_i policy _
    have hnoted : Still s { s with portCycles := policy } := still_of_same rfl rfl rfl rfl rfl rfl rfl rfl rfl
    exact (hnoted.trans (still_requestRestart _)).climbs hs
  · exact climbs_unpolled hs ⟨fun h => ⟨h, rfl⟩, fun _ _ => rfl⟩ ⟨rfl, rfl⟩ rfl rfl id rfl

theorem still_servicePortCycleWait (now : UInt32) : Still s (s.servicePortCycleWait now).1 := by
  unfold servicePortCycleWait
  split
  · exact Still.refl s
  · split
    · exact still_of_same rfl rfl rfl rfl rfl rfl rfl rfl rfl
    · split
      · refine Still.trans ?_ (still_requestRestart _)
        exact still_of_same rfl rfl rfl rfl rfl rfl rfl rfl rfl
      · exact still_of_same rfl rfl rfl rfl rfl rfl rfl rfl rfl

theorem still_noteFirstData (a : PollAnswers) : Still s (s.noteFirstData a) := by
  unfold noteFirstData
  split
  · exact still_of_same rfl rfl rfl rfl rfl rfl rfl rfl rfl
  · exact Still.refl s

/-- The device gives no answer in the iteration. -/
def NoAnswer (a : PollAnswers) : Prop :=
  USBHostUPS.backoffAfter a.recover.cleared = true ∧ ∀ r ∈ a.requests, USBHostUPS.backoffAfter r.error = true

theorem climbs_watchInput (a : PollAnswers) (hs : Tame s) (hready : s.isReadyToPoll = true) :
    Climbs (NoAnswer a) s (s.watchInput a) := by
  have hsame (inWd : InputWatchdog) (hcfg : inWd.cfg = s.inWd.cfg) (hrecoveries : inWd.recoveries = s.inWd.recoveries) :
      Still s { s with inWd } :=
    ⟨⟨⟨fun h => ⟨h, rfl⟩, fun _ _ => rfl⟩, rfl, ⟨hcfg, hrecoveries⟩, rfl, rfl, rfl, rfl⟩, rfl⟩
  have hnotice (m : InputWatchdog) : (m.takeSilenceNotice a.now).1.cfg = m.cfg ∧ (m.takeSilenceNotice a.now).1.recoveries = m.recoveries := by
    unfold InputWatchdog.takeSilenceNotice
    split
    · exact ⟨rfl, rfl⟩
    · exact ⟨rfl, rfl⟩
  have hpolled := hnotice (s.inWd.setValuesPolled a.inputValuesPolled)
  unfold watchInput
  rcases InputWatchdog.tick_cases a.now (s.inWd.setValuesPolled a.inputValuesPolled) with hnone | ⟨-, -, hacts⟩
  · rw [hnone]
    have hnoted := hsame _ hpolled.1 hpolled.2
    have hasked := hnoted.toSteady.trans (steady_requests a.requests)
    exact ⟨(hs.steady hasked).steady (still_noteFirstData a).toSteady,
      fun hsilent => ((hnoted.trans (still_requests hsilent.2)).trans (still_noteFirstData a)).bounded⟩
  · rcases hacts with ⟨hrestart, -⟩ | ⟨hrecover, hfew⟩
    · rw [hrestart]
      have hacted := hsame (InputWatchdog.acted a.now (s.inWd.setValuesPolled a.inputValuesPolled)) rfl rfl
      exact (hacted.trans (still_requestRestart _)).climbs hs
    · rw [hrecover]
      refine climbs_recoverInterface true a.recover a.now ⟨hs.link, hs.input, hs.transfers, hs.attempts⟩ rfl rfl And.left ?_
      have hmax : s.inWd.recoveries.toNat < 2 := by
        have hlt := UInt8.lt_iff_toNat_lt.mp hfew
        rw [show (s.inWd.setValuesPolled a.inputValuesPolled).cfg = _ from hs.input] at hlt
        exact hlt
      have hnext : (s.inWd.recoveries + 1).toNat = s.inWd.recoveries.toNat + 1 := toNat_count (by omega)
      unfold recoveriesLeft
      rw [if_pos hready, if_pos hready]
      show 2 - s.link.recoveries.toNat + (2 - (s.inWd.recoveries + 1).toNat) + (3 - s.inRecoveries.toNat) + 1 ≤ _
      omega

theorem climbs_watchLink (a : PollAnswers) (hs : Tame s) (hready : s.isReadyToPoll = true) :
    Climbs (NoAnswer a) s (s.watchLink a) := by
  have hlook : Still s (s.lookAtPipe a.ctrlStuck).2 := by
    unfold lookAtPipe
    split
    · exact still_call _ (not_handles (by decide)) s.hidDevHandle
    · exact Still.refl s
  unfold watchLink
  dsimp only
  generalize (s.lookAtPipe a.ctrlStuck).1 = stuck
  generalize (s.lookAtPipe a.ctrlStuck).2 = looked at hlook ⊢
  have htame := hs.steady hlook.toSteady
  have hready : looked.isReadyToPoll = true := hlook.ready.trans hready
  have hfirst : Climbs (NoAnswer a) s looked := hlook.climbs hs
  refine hfirst.trans ?_
  rcases LinkMonitor.tick_cases a.now stuck looked.link with hnone | ⟨hrestart, -⟩ | ⟨hrecover, -, -, hfew⟩
  · rw [hnone]
    exact climbs_watchInput a htame hready
  · rw [hrestart]
    dsimp only
    split
    · exact climbs_recoverStuckTransfer a.now htame
    · exact (still_requestRestart _).climbs htame
  · rw [hrecover]
    refine climbs_recoverInterface false a.recover a.now ⟨htame.link, htame.input, htame.transfers, htame.attempts⟩ rfl rfl And.left ?_
    have hmax : looked.link.recoveries.toNat < 2 := by
      have hlt := UInt8.lt_iff_toNat_lt.mp hfew
      rw [htame.link] at hlt
      exact hlt
    have hnext : (looked.link.recoveries + 1).toNat = looked.link.recoveries.toNat + 1 := toNat_count (by omega)
    unfold recoveriesLeft
    rw [if_pos hready, if_pos hready]
    show 2 - (looked.link.recoveries + 1).toNat + (2 - looked.inWd.recoveries.toNat) + (3 - looked.inRecoveries.toNat) + 1 ≤ _
    omega

theorem climbs_poll (a : PollAnswers) (hs : Tame s) : Climbs (NoAnswer a) s (s.poll a) := by
  have hwait := still_servicePortCycleWait (s := s) a.now
  unfold poll
  split
  · exact (Still.refl s).climbs hs
  · split
    · rename_i hpending
      exact climbs_retryInterfaceStart a.submits a.now hs hpending
    · split
      · rename_i heq
        rw [heq] at hwait
        exact hwait.climbs hs
      · rename_i heq
        rw [heq] at hwait
        split
        · exact hwait.climbs hs
        · rename_i hmay
          have hready := (not_or.mp hmay).1
          exact (hwait.climbs hs).trans (climbs_watchLink a (hs.steady hwait.toSteady) (by simpa using hready))

theorem climbs_handleTransferError (a : RecoverAnswers) (now : UInt32) (h : DeviceHandle) (hs : Tame s) :
    Climbs (USBHostUPS.backoffAfter a.cleared = true) s (s.handleTransferError a now h) := by
  unfold handleTransferError
  split
  · exact (Still.refl s).climbs hs
  · split
    · rename_i hours
      have hfew : s.inRecoveries.toNat ≤ 3 := by
        refine UInt8.le_iff_toNat_le.mp (hs.transfers.resolve_right fun hrequested => ?_)
        exact absurd (hrequested.symm.trans hours.2.2.2) (by decide)
      have hnext : (s.inRecoveries + 1).toNat = s.inRecoveries.toNat + 1 := toNat_count (by omega)
      have hready : s.isReadyToPoll = true := hours.2.1
      split
      · have hcounted : Climbs (USBHostUPS.backoffAfter a.cleared = true) s
            { s with inRecoveries := s.inRecoveries + 1, restartReason := "INPUT transfer keeps failing", restartRequested := true } := by
          refine ⟨⟨hs.link, hs.input, Or.inr rfl, hs.attempts⟩, fun _ => ⟨?_, Nat.le_refl _⟩⟩
          refine Nat.add_le_add_left ?_ _
          unfold recoveriesLeft
          rw [if_pos hready, if_pos hready]
          show 2 - s.link.recoveries.toNat + (2 - s.inWd.recoveries.toNat) + (3 - (s.inRecoveries + 1).toNat) ≤ _
          omega
        unfold requestRestart
        rw [if_neg (Bool.not_eq_true _ ▸ hours.2.2.2)]
        exact hcounted
      · rename_i hleft
        have hmore : s.inRecoveries.toNat + 1 ≤ 3 := by
          have hle := UInt8.le_iff_toNat_le.mp (UInt8.not_lt.mp hleft)
          rw [hnext] at hle
          exact hle
        refine climbs_recoverInterface true a now ⟨hs.link, hs.input, Or.inl (UInt8.not_lt.mp hleft), hs.attempts⟩ rfl rfl id ?_
        unfold recoveriesLeft
        rw [if_pos hready, if_pos hready]
        show 2 - s.link.recoveries.toNat + (2 - s.inWd.recoveries.toNat) + (3 - (s.inRecoveries + 1).toNat) + 1 ≤ _
        omega
    · exact (Still.refl s).climbs hs

theorem tame_bindInterface (a : ClaimAnswers) (hs : Tame s) (h : DeviceHandle) : Tame (s.bindInterface a h) := by
  have hstarted (s : HostService) (hs : Tame s) : Tame (s.startBound a.submits a.now h) := by
    obtain ⟨ifaces, hstart⟩ := hidHostDeviceStart_eq (s := s) a.submits (some h)
    unfold startBound
    split
    · rename_i heq
      rw [heq] at hstart
      subst hstart
      exact ⟨hs.link, hs.input, hs.transfers, hs.attempts⟩
    · rename_i heq
      rw [heq] at hstart
      subst hstart
      exact ⟨hs.link, hs.input, hs.transfers, fun _ => show (0 : UInt8) < maxInStartAttempts by decide⟩
  unfold bindInterface
  dsimp only
  refine hstarted _ ⟨?_, ?_, Or.inl (show (0 : UInt8) ≤ maxInRecoveries by decide), nofun⟩
  · unfold takeIds
    split
    · exact hs.link
    · exact hs.link
  · unfold takeIds
    split
    · exact hs.input
    · exact hs.input

theorem climbs_claimInterface (a : ClaimAnswers) (h : DeviceHandle) (hs : Tame s) :
    Climbs (¬ s.Binds a h) s (s.claimInterface a h) := by
  refine ⟨?_, fun hbinds => (still_claimInterface hbinds).bounded⟩
  by_cases hbinds : s.Binds a h
  · obtain ⟨hreachable, hups⟩ := hbinds
    cases hread : a.descriptor with
    | none =>
        rw [hread] at hups
        exact nomatch hups
    | some parser =>
        rw [hread] at hups
        have hups : ¬ isUps parser = false := Bool.not_eq_false _ ▸ hups
        have hcalled : Still s (s.call .getReportDescriptor (some h)) := still_call _ (not_handles (by decide)) _
        have htaken := hcalled.trans (still_clearDeferredClaim h)
        unfold claimInterface
        dsimp only
        rw [if_pos hreachable, hread]
        dsimp only
        rw [if_neg hups]
        split
        · split
          · exact tame_bindInterface a (hs.steady (htaken.trans (still_closeInterface _ _ _)).toSteady) h
          · exact tame_bindInterface a (hs.steady htaken.toSteady) h
        · exact tame_bindInterface a (hs.steady htaken.toSteady) h
  · exact hs.steady (still_claimInterface hbinds).toSteady

theorem climbs_handleDisconnected (answer : CloseAnswer) (h : DeviceHandle) (hs : Tame s) :
    Climbs silent s (s.handleDisconnected answer h) := by
  have hclosed : Still s ((s.hidHostDeviceClose answer none h).clearDeferredClaim h) :=
    (still_hidHostDeviceClose answer none h).trans (still_clearDeferredClaim h)
  unfold handleDisconnected
  dsimp only
  split
  · exact hclosed.climbs hs
  · exact (hclosed.climbs hs).trans (climbs_unpolled (hs.steady hclosed.toSteady) ⟨fun h => ⟨h, rfl⟩, fun _ _ => rfl⟩
      ⟨rfl, rfl⟩ rfl rfl nofun rfl)

theorem Climbs.mono {silent' : Prop} (himp : silent' → silent) (hclimbs : Climbs silent s s') : Climbs silent' s s' :=
  ⟨hclimbs.tame, fun hsilent => hclimbs.bounded (himp hsilent)⟩

theorem climbs_processInputReport (h : DeviceHandle) (ts : UInt32) (hs : Tame s) :
    Climbs (¬ (s.hidDevHandle = some h ∧ s.driver ≠ none ∧ s.quirks &&& quirkNoInterruptPipe = 0)) s (s.processInputReport h ts) := by
  unfold processInputReport
  split
  · exact (Still.refl s).climbs hs
  · rename_i hours
    split
    · exact (Still.refl s).climbs hs
    · rename_i hpipe
      have hours := not_or.mp hours
      have htaken : s.hidDevHandle = some h ∧ s.driver ≠ none ∧ s.quirks &&& quirkNoInterruptPipe = 0 :=
        ⟨not_not.mp hours.1, hours.2, not_not.mp hpipe⟩
      refine ⟨⟨hs.link, ?_, Or.inl (show (0 : UInt8) ≤ maxInRecoveries by decide), hs.attempts⟩, fun hsilent => absurd htaken hsilent⟩
      show (s.inWd.onInput ts).cfg = _
      rw [← hs.input]
      unfold InputWatchdog.onInput
      dsimp only
      split
      · rfl
      · rfl

theorem climbs_processEvent (a : EventAnswers) (hs : Tame s) :
    Climbs (¬ s.SignOfLife (.processEvent a)) s (s.processEvent a) := by
  unfold processEvent
  split
  · exact (Still.refl s).climbs hs
  · rename_i event rest hqueue
    have htaken (seen : Bool) : Still s { s with eventQueue := rest, enumSeen := seen } :=
      still_of_same rfl rfl rfl rfl rfl rfl rfl rfl rfl
    have htame (seen : Bool) := hs.steady (htaken seen).toSteady
    unfold SignOfLife BindsInterface
    simp only [hqueue]
    cases event with
    | connected h =>
        refine ((htaken true).climbs hs).trans ((climbs_claimInterface a.claim h (htame true)).mono fun hsilent hbinds => ?_)
        exact hsilent (Or.inl hbinds)
    | openFailed h => exact (htaken true).climbs hs
    | inputReport h ts =>
        refine ((htaken s.enumSeen).climbs hs).trans ((climbs_processInputReport h ts (htame s.enumSeen)).mono fun hsilent hours => ?_)
        exact hsilent (Or.inr hours)
    | disconnected h => exact ((htaken s.enumSeen).climbs hs).trans (climbs_handleDisconnected _ _ (htame s.enumSeen))
    | transferError h =>
        have hfailed := climbs_handleTransferError a.recover a.now h (htame s.enumSeen)
        refine ((htaken s.enumSeen).climbs hs).trans (hfailed.mono fun hsilent => ?_)
        exact eq_true_of_ne_false fun hanswered => hsilent (Or.inr hanswered)

theorem climbs_retryClaim (a : ClaimAnswers) (hs : Tame s) : Climbs (¬ s.SignOfLife (.retryClaim a)) s (s.retryClaim a) := by
  unfold retryClaim
  split
  · exact (Still.refl s).climbs hs
  · split
    · rename_i h hdeferred
      refine (climbs_claimInterface a h hs).mono fun hsilent hbinds => hsilent (Or.inl ?_)
      unfold BindsInterface
      simp only [hdeferred]
      exact hbinds
    · exact (still_call .getReportDescriptor (not_handles (by decide)) none).climbs hs

theorem climbs_step (step : Step) (hs : Tame s) : Climbs (¬ s.SignOfLife step) s (s.step step) := by
  cases step with
  | attach h opens => exact (still_attach h opens).climbs hs
  | detach h => exact (still_detach h).climbs hs
  | input h ts => exact (still_postEvent _ false).climbs hs
  | transferError h => exact (still_postEvent _ true).climbs hs
  | processEvent a => exact climbs_processEvent a hs
  | retryClaim a => exact climbs_retryClaim a hs
  | enumWatchdog devices now => exact (still_serviceEnumWatchdog devices now).climbs hs
  | poll a =>
      refine (climbs_poll a hs).mono fun hsilent => ?_
      have hsilent := not_or.mp (not_or.mp hsilent).2
      refine ⟨eq_true_of_ne_false hsilent.1, fun r hr => ?_⟩
      exact eq_true_of_ne_false fun hanswered => hsilent.2 ⟨r, hr, hanswered⟩
  | command requests =>
      refine ⟨hs.steady (steady_requests requests), fun hsilent => (still_requests fun r hr => ?_).bounded⟩
      exact eq_true_of_ne_false fun hanswered => hsilent (Or.inr ⟨r, hr, hanswered⟩)

/-! ### Runs -/

variable (memory : Vector UInt32 8) (stamps : Vector UInt32 12) (automaticRestarts : Nat) (now : UInt32)

theorem tame_run (steps : List Step) : Tame (run HostService.step (initial memory stamps automaticRestarts now) steps) := by
  refine run_invariant (P := Tame) ⟨rfl, rfl, Or.inl ?_, fun h => nomatch (show false = true from h)⟩ ?_ steps
    fun _ _ => trivial
  · show (0 : UInt8) ≤ maxInRecoveries
    decide
  · exact fun state step _ hs => (climbs_step step hs).tame

/-- Whatever came before, a device that gives no sign of life has its interface stopped seven times at most, and started 320 times at most. -/
theorem recoveries_bounded (before after : List Step)
    (hsilent : Along (fun s step => ¬ s.SignOfLife step) HostService.step
      (run HostService.step (initial memory stamps automaticRestarts now) before) after) :
    let s := run HostService.step (initial memory stamps automaticRestarts now) before
    callCount .stop (run HostService.step s after) ≤ callCount .stop s + 7
      ∧ callCount .start (run HostService.step s after) ≤ callCount .start s + 320 := by
  intro s
  have hclimbs : Tame (run HostService.step s after) ∧ Bounded s (run HostService.step s after) := by
    refine run_along (P := fun s' => Tame s' ∧ Bounded s s') ⟨tame_run .., ⟨Nat.le_refl _, Nat.le_refl _⟩⟩ ?_ after hsilent
    intro state step hstep hbefore
    have hnext := climbs_step step hbefore.1
    exact ⟨hnext.tame, hbefore.2.trans (hnext.bounded hstep)⟩
  have hleft : s.recoveriesLeft ≤ 7 := by
    unfold recoveriesLeft
    split
    · omega
    · exact Nat.zero_le 7
  have hstartsLeft : s.startsLeft ≤ 40 := by
    unfold startsLeft
    split
    · omega
    · exact Nat.zero_le 40
  have hstops := hclimbs.2.stops
  have hstarts := hclimbs.2.starts
  exact ⟨by omega, by omega⟩

/-- An interface that is bound, and an INPUT transfer that fails. -/
theorem recoveries_bounded_transferError :
    let parser : HIDParser := ⟨[⟨0x00840004, 1, 0, 0, 8, true, 0, 100, 0, 0, "", []⟩], Store.empty, Store.empty, Store.empty⟩
    let claim : ClaimAnswers := ⟨10, some parser, false, some ⟨0x051D, 2, "", ""⟩, ⟨true, true⟩, ⟨true, true⟩, true⟩
    let before : List Step := [.attach 1 true, .processEvent ⟨claim, ⟨true, none, 0⟩, 10⟩]
    let after : List Step := [.transferError 1, .processEvent ⟨claim, ⟨true, some .failed, 200⟩, 200⟩]
    let s := run HostService.step (initial (Vector.replicate 8 0) (Vector.replicate 12 0) 0 0) before
    callCount .stop (run HostService.step s after) ≤ callCount .stop s + 7
      ∧ callCount .start (run HostService.step s after) ≤ callCount .start s + 320 := by
  intro parser claim before after
  refine recoveries_bounded (Vector.replicate 8 0) (Vector.replicate 12 0) 0 0 before after ⟨?_, ?_, trivial⟩
  · rintro (h | h)
    · exact h
    · exact h
  · rintro (h | h)
    · exact h
    · have hanswered : USBHostUPS.backoffAfter (some .failed) = false := h
      exact absurd hanswered (by decide)

end EspNut.HostService
