import EspNut.Host.Service
import EspNut.Lib.Run

/-!
# No interface is lost

An interface that was opened is bound, or waits for its descriptor, or has an event in the queue, until it is closed for good. The HID driver is never called with the handle of an interface that is gone.
-/

namespace EspNut.HostService

open Lib

def isOpen : Option IfaceState → Bool
  | some .ready | some .active => true
  | _ => false

/-- The device of the interface is gone, and its owner has not closed it. -/
def isWaiting : Option IfaceState → Bool
  | some (.waitUserDeletion false) => true
  | _ => false

/-- The events that tell of the interface itself have slots of their own. -/
def isReserved : HidEvent → Bool
  | .inputReport _ _ => false
  | _ => true

/-- What follows an event for an interface: it is connected once, before it is gone. -/
def Follows (earlier later : HidEvent) : Prop :=
  ∀ h, later = .connected h → earlier ≠ .connected h ∧ earlier ≠ .disconnected h

/-- Every interface has its owner: the host, as bound, deferred or in hand, or an event of the queue. -/
structure Sound (hand : Option DeviceHandle) (s : HostService) : Prop where
  opened : ∀ h, isOpen (s.ifaces h) = true →
    s.hidDevHandle = some h ∨ s.descRetryHandle = some h ∨ hand = some h ∨ .connected h ∈ s.eventQueue
  waiting : ∀ h, isWaiting (s.ifaces h) = true → .disconnected h ∈ s.eventQueue
  gone : ∀ h, .disconnected h ∈ s.eventQueue → isOpen (s.ifaces h) = false
  owned : ∀ h, s.hidDevHandle = some h ∨ s.descRetryHandle = some h ∨ hand = some h ∨ .connected h ∈ s.eventQueue →
    isOpen (s.ifaces h) = true ∨ isWaiting (s.ifaces h) = true
  bound : ∀ h, s.hidDevHandle = some h → s.descRetryHandle ≠ some h ∧ hand ≠ some h ∧ .connected h ∉ s.eventQueue
  deferred : ∀ h, s.descRetryHandle = some h → hand ≠ some h ∧ .connected h ∉ s.eventQueue
  inHand : ∀ h, hand = some h → .connected h ∉ s.eventQueue
  ordered : s.eventQueue.Pairwise Follows
  room : s.eventQueue.length ≤ 46 + s.eventQueue.countP isReserved
  retry : s.descRetry.pending = true → s.descRetryHandle ≠ none
  ready : s.isReadyToPoll = true → s.hidDevHandle ≠ none
  restarting : s.inRestartPending = true → s.hidDevHandle ≠ none
  calls : ∀ call ∈ s.calls, call.listed = true

/-- A step that leaves every interface with its owner. -/
structure Quiet (s s' : HostService) : Prop where
  opened : ∀ h, isOpen (s'.ifaces h) = isOpen (s.ifaces h)
  waiting : ∀ h, isWaiting (s'.ifaces h) = isWaiting (s.ifaces h)
  queue : s'.eventQueue = s.eventQueue
  bound : s'.hidDevHandle = s.hidDevHandle
  deferred : s'.descRetryHandle = s.descRetryHandle
  retry : s'.descRetry = s.descRetry
  ready : s'.isReadyToPoll = true → s.isReadyToPoll = true ∨ s.hidDevHandle ≠ none
  restarting : s'.inRestartPending = true → s.inRestartPending = true ∨ s.hidDevHandle ≠ none
  calls : ∀ call ∈ s'.calls, call ∈ s.calls ∨ call.listed = true

variable {s s' s'' : HostService} {hand : Option DeviceHandle} {h : DeviceHandle}

theorem Quiet.refl (s : HostService) : Quiet s s :=
  ⟨fun _ => rfl, fun _ => rfl, rfl, rfl, rfl, rfl, Or.inl, Or.inl, fun _ => Or.inl⟩

theorem Quiet.trans (first : Quiet s s') (second : Quiet s' s'') : Quiet s s'' where
  opened h := (second.opened h).trans (first.opened h)
  waiting h := (second.waiting h).trans (first.waiting h)
  queue := second.queue.trans first.queue
  bound := second.bound.trans first.bound
  deferred := second.deferred.trans first.deferred
  retry := second.retry.trans first.retry
  ready hready := (second.ready hready).elim first.ready fun hbound => Or.inr (first.bound ▸ hbound)
  restarting hpending := (second.restarting hpending).elim first.restarting fun hbound => Or.inr (first.bound ▸ hbound)
  calls call hcall := (second.calls call hcall).elim (first.calls call) Or.inr

theorem Quiet.sound (hquiet : Quiet s s') (h : Sound hand s) : Sound hand s' where
  opened i hi := by
    rw [hquiet.bound, hquiet.deferred, hquiet.queue]
    exact h.opened i ((hquiet.opened i).symm.trans hi)
  waiting i hi := hquiet.queue ▸ h.waiting i ((hquiet.waiting i).symm.trans hi)
  gone i hi := (hquiet.opened i).trans (h.gone i (hquiet.queue ▸ hi))
  owned i hi := by
    rw [hquiet.bound, hquiet.deferred, hquiet.queue] at hi
    rw [hquiet.opened, hquiet.waiting]
    exact h.owned i hi
  bound i hi := by
    rw [hquiet.deferred, hquiet.queue]
    exact h.bound i (hquiet.bound ▸ hi)
  deferred i hi := hquiet.queue ▸ h.deferred i (hquiet.deferred ▸ hi)
  inHand i hi := hquiet.queue ▸ h.inHand i hi
  ordered := hquiet.queue ▸ h.ordered
  room := hquiet.queue ▸ h.room
  retry hpending := by
    rw [hquiet.deferred]
    exact h.retry (hquiet.retry ▸ hpending)
  ready hready := by
    rw [hquiet.bound]
    exact (hquiet.ready hready).elim h.ready id
  restarting hpending := by
    rw [hquiet.bound]
    exact (hquiet.restarting hpending).elim h.restarting id
  calls call hcall := (hquiet.calls call hcall).elim (h.calls call) id

theorem Sound.listed (hs : Sound hand s) (hbound : s.hidDevHandle ≠ none) : s.isListed s.hidDevHandle = true := by
  obtain ⟨h, hh⟩ := Option.ne_none_iff_exists'.mp hbound
  have howned := hs.owned h (Or.inl hh)
  unfold isListed
  rw [hh, Option.bind_some]
  cases hstate : s.ifaces h with
  | none =>
      rw [hstate] at howned
      exact absurd howned (by decide)
  | some state => rfl

/-! ### The steps of the poll -/

theorem quiet_call (function : HidFunction) {handle : Option DeviceHandle} (hlisted : s.isListed handle = true) :
    Quiet s (s.call function handle) where
  opened _ := rfl
  waiting _ := rfl
  queue := rfl
  bound := rfl
  deferred := rfl
  retry := rfl
  ready := Or.inl
  restarting := Or.inl
  calls call hcall := by
    rcases List.mem_append.mp hcall with hold | hnew
    · exact Or.inl hold
    · exact Or.inr (List.mem_singleton.mp hnew ▸ hlisted)

theorem quiet_setIface {state : IfaceState} (hopen : isOpen (some state) = isOpen (s.ifaces h))
    (hwaiting : isWaiting (some state) = isWaiting (s.ifaces h)) : Quiet s (s.setIface h (some state)) where
  opened i := by
    show isOpen (Function.update s.ifaces h (some state) i) = _
    rw [Function.update_apply]
    split
    · rename_i hi
      rw [hopen, hi]
    · rfl
  waiting i := by
    show isWaiting (Function.update s.ifaces h (some state) i) = _
    rw [Function.update_apply]
    split
    · rename_i hi
      rw [hwaiting, hi]
    · rfl
  queue := rfl
  bound := rfl
  deferred := rfl
  retry := rfl
  ready := Or.inl
  restarting := Or.inl
  calls _ := Or.inl

theorem quiet_hidHostDeviceStart (submits : Bool) (hlisted : s.isListed (some h) = true) :
    Quiet s (s.hidHostDeviceStart submits (some h)).2 := by
  have hcall := quiet_call .start hlisted
  unfold hidHostDeviceStart
  dsimp only
  split
  · rename_i hready
    have hstate : s.ifaces h = some .ready := hready.1
    exact hcall.trans (quiet_setIface (by rw [show (s.call .start (some h)).ifaces h = _ from hstate]; rfl)
      (by rw [show (s.call .start (some h)).ifaces h = _ from hstate]; rfl))
  · exact hcall

theorem quiet_hidHostDeviceStop (halts : Bool) (hlisted : s.isListed s.hidDevHandle = true) :
    Quiet s (s.hidHostDeviceStop halts s.hidDevHandle) := by
  have hcall := quiet_call .stop hlisted
  unfold hidHostDeviceStop
  dsimp only
  split
  · split
    · rename_i handle _ hactive
      have hstate : s.ifaces handle = some .active := hactive.1
      exact hcall.trans (quiet_setIface
        (by rw [show (s.call .stop s.hidDevHandle).ifaces handle = _ from hstate]; rfl)
        (by rw [show (s.call .stop s.hidDevHandle).ifaces handle = _ from hstate]; rfl))
    · exact hcall
  · exact hcall

theorem quiet_of_same (hifaces : s'.ifaces = s.ifaces) (hqueue : s'.eventQueue = s.eventQueue)
    (hbound : s'.hidDevHandle = s.hidDevHandle) (hdeferred : s'.descRetryHandle = s.descRetryHandle)
    (hretry : s'.descRetry = s.descRetry)
    (hready : s'.isReadyToPoll = true → s.isReadyToPoll = true ∨ s.hidDevHandle ≠ none)
    (hrestarting : s'.inRestartPending = true → s.inRestartPending = true ∨ s.hidDevHandle ≠ none)
    (hcalls : s'.calls = s.calls) : Quiet s s' where
  opened h := by rw [hifaces]
  waiting h := by rw [hifaces]
  queue := hqueue
  bound := hbound
  deferred := hdeferred
  retry := hretry
  ready := hready
  restarting := hrestarting
  calls call hcall := Or.inl (hcalls ▸ hcall)

theorem quiet_requestRestart (why : String) : Quiet s (s.requestRestart why) := by
  unfold requestRestart
  split
  · exact Quiet.refl s
  · exact quiet_of_same rfl rfl rfl rfl rfl Or.inl Or.inl rfl

theorem quiet_control (function : HidFunction) (error : Option TransferError) (now : UInt32)
    (hlisted : s.isListed s.hidDevHandle = true) : Quiet s (s.control function error now) :=
  (quiet_call function hlisted).trans (quiet_of_same rfl rfl rfl rfl rfl Or.inl Or.inl rfl)

theorem quiet_request (r : ControlRequest) (hs : Sound hand s) : Quiet s (s.request r) := by
  unfold request
  split
  · exact Quiet.refl s
  · rename_i hmay
    split
    · exact Quiet.refl s
    · have hcontrol := quiet_control .control r.error r.now (hs.listed (not_or.mp hmay).2)
      dsimp only
      split
      · exact hcontrol.trans (quiet_of_same rfl rfl rfl rfl rfl Or.inl Or.inl rfl)
      · exact hcontrol

theorem quiet_requests (requests : List ControlRequest) (hs : Sound hand s) : Quiet s (requests.foldl request s) := by
  induction requests generalizing s with
  | nil => exact Quiet.refl s
  | cons r rest ih =>
      have hfirst := quiet_request r hs
      exact hfirst.trans (ih (hfirst.sound hs))

theorem quiet_recoverInterface (clearInHalt : Bool) (a : RecoverAnswers) (now : UInt32) (hs : Sound hand s)
    (hbound : s.hidDevHandle ≠ none) : Quiet s (s.recoverInterface clearInHalt a now) := by
  have hstop := quiet_hidHostDeviceStop a.halts (hs.listed hbound)
  have hstopped : (s.hidHostDeviceStop a.halts s.hidDevHandle).hidDevHandle ≠ none := by
    rw [hstop.bound]
    exact hbound
  have hlisted := (hstop.sound hs).listed hstopped
  have hcleared : Quiet s (if clearInHalt = true then
      (s.hidHostDeviceStop a.halts s.hidDevHandle).control .clearEpInHalt a.cleared a.clearedAt
      else s.hidHostDeviceStop a.halts s.hidDevHandle) := by
    split
    · exact hstop.trans (quiet_control .clearEpInHalt a.cleared a.clearedAt hlisted)
    · exact hstop
  unfold recoverInterface
  refine hcleared.trans (quiet_of_same rfl rfl rfl rfl rfl Or.inl (fun _ => Or.inr ?_) rfl)
  rw [hcleared.bound]
  exact hbound

theorem quiet_retryInterfaceStart (submits : Bool) (now : UInt32) (hs : Sound hand s) (hpending : s.inRestartPending = true) :
    Quiet s (s.retryInterfaceStart submits now) := by
  have hbound := hs.restarting hpending
  obtain ⟨h, hh⟩ := Option.ne_none_iff_exists'.mp hbound
  have hstart : Quiet s (s.hidHostDeviceStart submits s.hidDevHandle).2 := by
    have hlisted := hs.listed hbound
    rw [hh] at hlisted ⊢
    exact quiet_hidHostDeviceStart submits hlisted
  unfold retryInterfaceStart
  split
  · exact Quiet.refl s
  · dsimp only
    split
    · exact hstart.trans (quiet_of_same rfl rfl rfl rfl rfl Or.inl nofun rfl)
    · split
      · refine hstart.trans (Quiet.trans ?_ (quiet_requestRestart _))
        exact quiet_of_same rfl rfl rfl rfl rfl Or.inl nofun rfl
      · exact hstart.trans (quiet_of_same rfl rfl rfl rfl rfl Or.inl Or.inl rfl)

theorem quiet_recoverStuckTransfer (now : UInt32) : Quiet s (s.recoverStuckTransfer now) := by
  unfold recoverStuckTransfer
  split
  · refine Quiet.trans ?_ (quiet_requestRestart _)
    exact quiet_of_same rfl rfl rfl rfl rfl Or.inl Or.inl rfl
  · exact quiet_of_same rfl rfl rfl rfl rfl nofun Or.inl rfl

theorem quiet_servicePortCycleWait (now : UInt32) : Quiet s (s.servicePortCycleWait now).1 := by
  unfold servicePortCycleWait
  split
  · exact Quiet.refl s
  · split
    · exact quiet_of_same rfl rfl rfl rfl rfl Or.inl Or.inl rfl
    · split
      · refine Quiet.trans ?_ (quiet_requestRestart _)
        exact quiet_of_same rfl rfl rfl rfl rfl Or.inl Or.inl rfl
      · exact quiet_of_same rfl rfl rfl rfl rfl Or.inl Or.inl rfl

theorem quiet_serviceEnumWatchdog (devices : Bool) (now : UInt32) : Quiet s (s.serviceEnumWatchdog devices now) := by
  unfold serviceEnumWatchdog
  split
  · exact Quiet.refl s
  · split
    · refine Quiet.trans ?_ (quiet_requestRestart _)
      exact quiet_of_same rfl rfl rfl rfl rfl Or.inl Or.inl rfl
    · exact quiet_of_same rfl rfl rfl rfl rfl Or.inl Or.inl rfl

theorem quiet_noteFirstData (a : PollAnswers) : Quiet s (s.noteFirstData a) := by
  unfold noteFirstData
  split
  · exact quiet_of_same rfl rfl rfl rfl rfl Or.inl Or.inl rfl
  · exact Quiet.refl s

theorem quiet_watchInput (a : PollAnswers) (hs : Sound hand s) (hbound : s.hidDevHandle ≠ none) :
    Quiet s (s.watchInput a) := by
  have hwatched (inWd : InputWatchdog) : Quiet s { s with inWd } := quiet_of_same rfl rfl rfl rfl rfl Or.inl Or.inl rfl
  unfold watchInput
  split
  · exact (hwatched _).trans (quiet_recoverInterface true a.recover a.now ((hwatched _).sound hs) hbound)
  · exact (hwatched _).trans (quiet_requestRestart _)
  · exact (hwatched _).trans ((quiet_requests a.requests ((hwatched _).sound hs)).trans (quiet_noteFirstData a))

theorem quiet_watchLink (a : PollAnswers) (hs : Sound hand s) (hbound : s.hidDevHandle ≠ none) :
    Quiet s (s.watchLink a) := by
  have hlook : Quiet s (s.lookAtPipe a.ctrlStuck).2 := by
    unfold lookAtPipe
    split
    · exact quiet_call .ctrlStuck (hs.listed hbound)
    · exact Quiet.refl s
  have hlooked (link : LinkMonitor) : Quiet s { (s.lookAtPipe a.ctrlStuck).2 with link } :=
    hlook.trans (quiet_of_same rfl rfl rfl rfl rfl Or.inl Or.inl rfl)
  have hstill (link : LinkMonitor) : { (s.lookAtPipe a.ctrlStuck).2 with link }.hidDevHandle ≠ none :=
    (hlooked link).bound ▸ hbound
  unfold watchLink
  dsimp only
  split
  · exact (hlooked _).trans (quiet_recoverInterface false a.recover a.now ((hlooked _).sound hs) (hstill _))
  · split
    · exact (hlooked _).trans (quiet_recoverStuckTransfer a.now)
    · exact (hlooked _).trans (quiet_requestRestart _)
  · exact (hlooked _).trans (quiet_watchInput a ((hlooked _).sound hs) (hstill _))

theorem quiet_poll (a : PollAnswers) (hs : Sound hand s) : Quiet s (s.poll a) := by
  have hwait := quiet_servicePortCycleWait (s := s) a.now
  unfold poll
  split
  · exact Quiet.refl s
  · split
    · rename_i hpending
      exact quiet_retryInterfaceStart a.submits a.now hs hpending
    · split
      · rename_i heq
        rw [heq] at hwait
        exact hwait
      · rename_i after heq
        rw [heq] at hwait
        split
        · exact hwait
        · rename_i hmay
          have hsound := hwait.sound hs
          exact hwait.trans (quiet_watchLink a hsound (hsound.ready (by simpa using (not_or.mp hmay).1)))

theorem quiet_processInputReport (ts : UInt32) : Quiet s (s.processInputReport h ts) := by
  unfold processInputReport
  split
  · exact Quiet.refl s
  · split
    · exact Quiet.refl s
    · exact quiet_of_same rfl rfl rfl rfl rfl Or.inl Or.inl rfl

theorem quiet_handleTransferError (a : RecoverAnswers) (now : UInt32) (hs : Sound hand s) :
    Quiet s (s.handleTransferError a now h) := by
  have hcounted : Quiet s { s with inRecoveries := s.inRecoveries + 1 } :=
    quiet_of_same rfl rfl rfl rfl rfl Or.inl Or.inl rfl
  unfold handleTransferError
  split
  · exact Quiet.refl s
  · split
    · rename_i hours
      split
      · exact hcounted.trans (quiet_requestRestart _)
      · refine hcounted.trans (quiet_recoverInterface true a now (hcounted.sound hs) ?_)
        show s.hidDevHandle ≠ none
        rw [hours.1]
        exact Option.some_ne_none h
    · exact Quiet.refl s

/-! ### An interface changes hands -/

def CloseAnswer.LetsGo (answer : CloseAnswer) : Prop := answer.disables = true ∧ answer.releases = true

instance (answer : CloseAnswer) : Decidable answer.LetsGo := inferInstanceAs (Decidable (_ ∧ _))

theorem setIface_setIface (first second : Option IfaceState) :
    (s.setIface h first).setIface h second = s.setIface h second := by
  unfold setIface
  rw [Function.update_idem]

theorem setIface_apply (state : Option IfaceState) (i : DeviceHandle) :
    (s.setIface h state).ifaces i = if i = h then state else s.ifaces i := Function.update_apply ..

theorem setIface_none (hnone : s.ifaces h = none) : s.setIface h none = s := by
  unfold setIface
  rw [← hnone, Function.update_eq_self]

/-- A second close, or one of an interface that is gone, leaves it unlisted. -/
theorem hidHostDeviceClose_of_not_open (answer : CloseAnswer) (self : Option DeviceHandle)
    (hclosed : isOpen (s.ifaces h) = false) : s.hidHostDeviceClose answer self h = s.setIface h none := by
  unfold hidHostDeviceClose
  split
  · rename_i hnone
    exact (setIface_none hnone).symm
  · rename_i hactive
    rw [hactive] at hclosed
    exact nomatch hclosed
  · rename_i hready
    rw [hready] at hclosed
    exact nomatch hclosed
  · rfl
  · rfl

/-- The host closes an interface twice, and nobody is told. -/
theorem closeInterface_eq {first second : CloseAnswer} (hfirst : first.LetsGo) :
    s.closeInterface first second h = s.setIface h none := by
  have hsecond {state : Option IfaceState} (hstate : isOpen state = false) :
      (s.setIface h state).hidHostDeviceClose second none h = s.setIface h none := by
    rw [hidHostDeviceClose_of_not_open, setIface_setIface]
    rw [setIface_apply, if_pos rfl]
    exact hstate
  have hawait (parent : Bool) :
      (s.awaitDeletion (some h) parent h).hidHostDeviceClose second none h = s.setIface h none := by
    unfold awaitDeletion
    rw [if_pos rfl]
    exact hsecond rfl
  unfold closeInterface
  cases hopen : isOpen (s.ifaces h) with
  | false =>
      rw [hidHostDeviceClose_of_not_open first (some h) hopen]
      exact hsecond rfl
  | true =>
      have hclosed : s.hidHostDeviceClose first (some h) h = s.awaitDeletion (some h) true h := by
        unfold hidHostDeviceClose
        cases hstate : s.ifaces h with
        | none =>
            rw [hstate] at hopen
            exact nomatch hopen
        | some state =>
            cases state with
            | active =>
                dsimp only
                rw [if_neg (by rw [hfirst.1]; exact nofun), if_neg (by rw [hfirst.2]; exact nofun)]
            | ready =>
                dsimp only
                rw [if_neg (by rw [hfirst.2]; exact nofun)]
            | idle | waitUserDeletion parent =>
                rw [hstate] at hopen
                exact nomatch hopen
      rw [hclosed]
      exact hawait true

theorem sound_closeInterface {first : CloseAnswer} (hfirst : first.LetsGo) (second : CloseAnswer) (hs : Sound (some h) s) :
    Sound none (s.closeInterface first second h) := by
  have hother {i : DeviceHandle} (hi : (some h : Option DeviceHandle) ≠ some i) : (s.setIface h none).ifaces i = s.ifaces i := by
    rw [setIface_apply, if_neg fun heq : i = h => hi (congrArg some heq.symm)]
  rw [closeInterface_eq hfirst]
  refine ⟨?_, ?_, ?_, ?_, ?_, ?_, nofun, hs.ordered, hs.room, hs.retry, hs.ready, hs.restarting, hs.calls⟩
  · intro i hi
    rw [setIface_apply] at hi
    split at hi
    · exact nomatch hi
    · rename_i hne
      rcases hs.opened i hi with hbound | hdeferred | hhand | hqueue
      · exact Or.inl hbound
      · exact Or.inr (Or.inl hdeferred)
      · exact absurd (Option.some.inj hhand).symm hne
      · exact Or.inr (Or.inr (Or.inr hqueue))
  · intro i hi
    rw [setIface_apply] at hi
    split at hi
    · exact nomatch hi
    · exact hs.waiting i hi
  · intro i hi
    rw [setIface_apply]
    split
    · rfl
    · exact hs.gone i hi
  · intro i hi
    rcases hi with hbound | hdeferred | hhand | hqueue
    · rw [hother (hs.bound i hbound).2.1]
      exact hs.owned i (Or.inl hbound)
    · rw [hother (hs.deferred i hdeferred).1]
      exact hs.owned i (Or.inr (Or.inl hdeferred))
    · exact nomatch hhand
    · rw [hother fun hhand => hs.inHand i hhand hqueue]
      exact hs.owned i (Or.inr (Or.inr (Or.inr hqueue)))
  · exact fun i hi => ⟨(hs.bound i hi).1, nofun, (hs.bound i hi).2.2⟩
  · exact fun i hi => ⟨nofun, (hs.deferred i hi).2⟩

/-- The claim of an interface starts with it in hand, or with it deferred. -/
def InHand (h : DeviceHandle) (s : HostService) : Prop := Sound (some h) s ∨ Sound none s ∧ s.descRetryHandle = some h

theorem InHand.quiet (hin : InHand h s) (hquiet : Quiet s s') : InHand h s' := by
  rcases hin with hs | ⟨hs, hdeferred⟩
  · exact Or.inl (hquiet.sound hs)
  · exact Or.inr ⟨hquiet.sound hs, hquiet.deferred.trans hdeferred⟩

theorem InHand.listed (hin : InHand h s) : s.isListed (some h) = true := by
  have howned : isOpen (s.ifaces h) = true ∨ isWaiting (s.ifaces h) = true := by
    rcases hin with hs | ⟨hs, hdeferred⟩
    · exact hs.owned h (Or.inr (Or.inr (Or.inl rfl)))
    · exact hs.owned h (Or.inr (Or.inl hdeferred))
  unfold isListed
  rw [Option.bind_some]
  cases hstate : s.ifaces h with
  | none =>
      rw [hstate] at howned
      exact absurd howned (by decide)
  | some state => rfl

/-- An interface that was deferred is taken in hand. -/
theorem sound_undeferred (hs : Sound none s) (hdeferred : s.descRetryHandle = some h) (d : DescriptorRetry)
    (hd : d.pending = false) : Sound (some h) { s with descRetryHandle := none, descRetry := d } where
  opened i hi := by
    rcases hs.opened i hi with hbound | hi | hhand | hqueue
    · exact Or.inl hbound
    · exact Or.inr (Or.inr (Or.inl (hdeferred.symm.trans hi)))
    · exact nomatch hhand
    · exact Or.inr (Or.inr (Or.inr hqueue))
  waiting := hs.waiting
  gone := hs.gone
  owned i hi := by
    rcases hi with hbound | hnone | hhand | hqueue
    · exact hs.owned i (Or.inl hbound)
    · exact nomatch hnone
    · exact hs.owned i (Or.inr (Or.inl (hdeferred.trans hhand)))
    · exact hs.owned i (Or.inr (Or.inr (Or.inr hqueue)))
  bound i hi := ⟨nofun, fun hhand => (hs.bound i hi).1 (hdeferred.trans hhand), (hs.bound i hi).2.2⟩
  deferred := nofun
  inHand i hi := (hs.deferred i (hdeferred.trans hi)).2
  ordered := hs.ordered
  room := hs.room
  retry hpending := absurd (hpending.symm.trans hd) nofun
  ready := hs.ready
  restarting := hs.restarting
  calls := hs.calls

theorem sound_clearDeferredClaim (hin : InHand h s) : Sound (some h) (s.clearDeferredClaim h) := by
  unfold clearDeferredClaim
  split
  · rename_i hdeferred
    rcases hin with hs | ⟨hs, -⟩
    · exact absurd rfl (hs.deferred h hdeferred).1
    · exact sound_undeferred hs hdeferred .cleared rfl
  · rename_i hother
    rcases hin with hs | ⟨-, hdeferred⟩
    · exact hs
    · exact absurd hdeferred hother

theorem sound_deferred (hs : Sound (some h) s) (hnone : s.descRetryHandle = none) (d : DescriptorRetry) :
    Sound none { s with descRetryHandle := some h, descRetry := d } where
  opened i hi := by
    rcases hs.opened i hi with hbound | hdeferred | hhand | hqueue
    · exact Or.inl hbound
    · exact nomatch hnone.symm.trans hdeferred
    · exact Or.inr (Or.inl hhand)
    · exact Or.inr (Or.inr (Or.inr hqueue))
  waiting := hs.waiting
  gone := hs.gone
  owned i hi := by
    rcases hi with hbound | hdeferred | hhand | hqueue
    · exact hs.owned i (Or.inl hbound)
    · exact hs.owned i (Or.inr (Or.inr (Or.inl hdeferred)))
    · exact nomatch hhand
    · exact hs.owned i (Or.inr (Or.inr (Or.inr hqueue)))
  bound i hi := ⟨(hs.bound i hi).2.1, nofun, (hs.bound i hi).2.2⟩
  deferred i hi := ⟨nofun, hs.inHand i hi⟩
  inHand := nofun
  ordered := hs.ordered
  room := hs.room
  retry _ := Option.some_ne_none h
  ready := hs.ready
  restarting := hs.restarting
  calls := hs.calls

/-- A claim that fails keeps the interface for later, or in hand. -/
theorem sound_deferClaim (now : UInt32) (hin : InHand h s) :
    if (s.deferClaim h now).2 = true then Sound none (s.deferClaim h now).1 else Sound (some h) (s.deferClaim h now).1 := by
  unfold deferClaim
  split
  · rename_i hother
    rcases hin with hs | ⟨-, hdeferred⟩
    · exact hs
    · rw [hdeferred, Option.any_some, bne_self_eq_false] at hother
      exact nomatch hother
  · rename_i hsame
    have hpending := DescriptorRetry.pending_onFailure now s.descRetry
    have hcases : s.descRetryHandle = none ∨ s.descRetryHandle = some h := by
      cases hretry : s.descRetryHandle with
      | none => exact Or.inl rfl
      | some other =>
          rw [hretry, Option.any_some, bne_iff_ne, ne_eq, not_not] at hsame
          exact Or.inr (hsame ▸ rfl)
    split
    · rename_i d heq
      show Sound none { s with descRetryHandle := some h, descRetry := d }
      rcases hin with hs | ⟨hs, hdeferred⟩
      · refine sound_deferred hs (hcases.resolve_right fun hdeferred => ?_) d
        exact (hs.deferred h hdeferred).1 rfl
      · exact sound_deferred (sound_undeferred hs hdeferred .cleared rfl) rfl d
    · rename_i d heq
      rw [heq] at hpending
      show Sound (some h) { s with descRetryHandle := none, descRetry := d }
      rcases hin with hs | ⟨hs, hdeferred⟩
      · have hnone := hcases.resolve_right fun hdeferred => (hs.deferred h hdeferred).1 rfl
        refine ⟨?_, hs.waiting, hs.gone, ?_, ?_, nofun, hs.inHand, hs.ordered, hs.room, ?_, hs.ready, hs.restarting, hs.calls⟩
        · exact fun i hi => hnone ▸ hs.opened i hi
        · exact fun i hi => hs.owned i (hnone ▸ hi)
        · exact fun i hi => ⟨nofun, (hs.bound i hi).2⟩
        · exact fun hd => absurd (hpending.symm.trans hd) nofun
      · exact sound_undeferred hs hdeferred d hpending

/-- The interface in hand is bound; the one that was bound is in hand. -/
theorem sound_bound (hs : Sound (some h) s) : Sound s.hidDevHandle { s with hidDevHandle := some h } where
  opened i hi := by
    rcases hs.opened i hi with hbound | hdeferred | hhand | hqueue
    · exact Or.inr (Or.inr (Or.inl hbound))
    · exact Or.inr (Or.inl hdeferred)
    · exact Or.inl hhand
    · exact Or.inr (Or.inr (Or.inr hqueue))
  waiting := hs.waiting
  gone := hs.gone
  owned i hi := by
    rcases hi with hhand | hdeferred | hbound | hqueue
    · exact hs.owned i (Or.inr (Or.inr (Or.inl hhand)))
    · exact hs.owned i (Or.inr (Or.inl hdeferred))
    · exact hs.owned i (Or.inl hbound)
    · exact hs.owned i (Or.inr (Or.inr (Or.inr hqueue)))
  bound i hi := ⟨fun hdeferred => (hs.deferred i hdeferred).1 hi, fun hbound => (hs.bound i hbound).2.1 hi, hs.inHand i hi⟩
  deferred i hi := ⟨fun hbound => (hs.bound i hbound).1 hi, (hs.deferred i hi).2⟩
  inHand i hi := (hs.bound i hi).2.2
  ordered := hs.ordered
  room := hs.room
  retry := hs.retry
  ready _ := Option.some_ne_none h
  restarting _ := Option.some_ne_none h
  calls := hs.calls

theorem quiet_takeIds (ids : Option DeviceIds) : Quiet s (s.takeIds ids) := by
  unfold takeIds
  split
  · exact quiet_of_same rfl rfl rfl rfl rfl Or.inl Or.inl rfl
  · exact Quiet.refl s

theorem quiet_startOver (now : UInt32) : Quiet s (s.startOver now) := by
  unfold startOver
  exact quiet_of_same rfl rfl rfl rfl rfl Or.inl nofun rfl

theorem quiet_startBound (submits : Bool) (now : UInt32) (hs : Sound hand s) (hbound : s.hidDevHandle = some h) :
    Quiet s (s.startBound submits now h) := by
  have hsome : s.hidDevHandle ≠ none := hbound ▸ Option.some_ne_none h
  have hstart := quiet_hidHostDeviceStart submits (hbound ▸ hs.listed hsome)
  have hstill : (s.hidHostDeviceStart submits (some h)).2.hidDevHandle ≠ none := by
    rw [hstart.bound]
    exact hsome
  unfold startBound
  split
  · rename_i heq
    rw [heq] at hstart hstill
    exact hstart.trans (quiet_of_same rfl rfl rfl rfl rfl (fun _ => Or.inr hstill) Or.inl rfl)
  · rename_i heq
    rw [heq] at hstart hstill
    exact hstart.trans (quiet_of_same rfl rfl rfl rfl rfl (fun _ => Or.inr hstill) (fun _ => Or.inr hstill) rfl)

theorem quiet_bindInterface (a : ClaimAnswers) (hs : Sound none { s with hidDevHandle := some h }) :
    Quiet { s with hidDevHandle := some h } (s.bindInterface a h) := by
  unfold bindInterface
  dsimp only
  generalize hnow : { s with hidDevHandle := some h } = bound at hs ⊢
  have hbound : bound.hidDevHandle = some h := hnow ▸ rfl
  have hfresh := (quiet_takeIds (s := bound) (if bound.isReachable (some h) = true then a.ids else none)).trans
    (quiet_startOver a.now)
  exact hfresh.trans (quiet_startBound a.submits a.now (hfresh.sound hs) (hfresh.bound.trans hbound))

/-- A claim finds an owner for the interface, or closes it. -/
theorem sound_claimInterface (a : ClaimAnswers) (hgo : a.firstClose.LetsGo) (hin : InHand h s) :
    Sound none (s.claimInterface a h) := by
  have hcalled := hin.quiet (quiet_call .getReportDescriptor hin.listed)
  unfold claimInterface
  dsimp only
  split
  · have hdeferred := sound_deferClaim a.now hcalled
    split
    · rename_i heq
      rw [heq] at hdeferred
      exact hdeferred
    · rename_i dropped heq
      rw [heq] at hdeferred
      have hin' : InHand h dropped := Or.inl hdeferred
      have hasked := (quiet_call .ctrlStuck hin'.listed).sound hdeferred
      have hclosed := sound_closeInterface hgo a.secondClose hasked
      split
      · exact (quiet_requestRestart _).sound hclosed
      · exact hclosed
  · have htaken := sound_clearDeferredClaim hcalled
    split
    · exact sound_closeInterface hgo a.secondClose htaken
    · have hbound := sound_bound htaken
      split
      · rename_i old hold
        have hne : old ≠ h := fun heq => (htaken.bound old hold).2.1 (heq ▸ rfl)
        rw [if_pos hne]
        rw [hold] at hbound
        have hclosed := sound_closeInterface hgo a.secondClose hbound
        rw [closeInterface_eq hgo] at hclosed ⊢
        exact (quiet_bindInterface a hclosed).sound hclosed
      · rename_i hnone
        rw [hnone] at hbound
        exact (quiet_bindInterface a hbound).sound hbound

/-! ### Events come and go -/

def reservedWaiting (s : HostService) : Nat := s.eventQueue.countP isReserved

/-- With at most one other waiting, an event of a reserved slot finds room. -/
theorem length_lt_of_reserved (hs : Sound hand s) (hroom : reservedWaiting s < 2) : s.eventQueue.length < eventQueueLen := by
  have hle := hs.room
  unfold reservedWaiting at hroom
  unfold eventQueueLen
  omega

theorem postEvent_reserved (hlength : s.eventQueue.length < eventQueueLen) (event : HidEvent) :
    s.postEvent event true = { s with eventQueue := s.eventQueue ++ [event] } := by
  unfold postEvent
  rw [if_neg fun hdropped => nomatch hdropped.1]
  exact if_pos hlength

theorem sound_append (hs : Sound hand s) {event : HidEvent} (hother : ∀ h, event ≠ .connected h ∧ event ≠ .disconnected h)
    (hroom : s.eventQueue.length < 46 ∨ isReserved event = true) :
    Sound hand { s with eventQueue := s.eventQueue ++ [event] } := by
  have hconnected (i : DeviceHandle) : HidEvent.connected i ∈ s.eventQueue ++ [event] ↔ .connected i ∈ s.eventQueue := by
    rw [List.mem_append, List.mem_singleton]
    exact or_iff_left fun heq => (hother i).1 heq.symm
  have hdisconnected (i : DeviceHandle) : HidEvent.disconnected i ∈ s.eventQueue ++ [event] ↔ .disconnected i ∈ s.eventQueue := by
    rw [List.mem_append, List.mem_singleton]
    exact or_iff_left fun heq => (hother i).2 heq.symm
  refine ⟨?_, ?_, ?_, ?_, ?_, ?_, ?_, ?_, ?_, hs.retry, hs.ready, hs.restarting, hs.calls⟩
  · exact fun i hi => (hs.opened i hi).imp_right (Or.imp_right (Or.imp_right (hconnected i).mpr))
  · exact fun i hi => (hdisconnected i).mpr (hs.waiting i hi)
  · exact fun i hi => hs.gone i ((hdisconnected i).mp hi)
  · exact fun i hi => hs.owned i (hi.imp_right (Or.imp_right (Or.imp_right (hconnected i).mp)))
  · exact fun i hi => ⟨(hs.bound i hi).1, (hs.bound i hi).2.1, fun hin => (hs.bound i hi).2.2 ((hconnected i).mp hin)⟩
  · exact fun i hi => ⟨(hs.deferred i hi).1, fun hin => (hs.deferred i hi).2 ((hconnected i).mp hin)⟩
  · exact fun i hi hin => hs.inHand i hi ((hconnected i).mp hin)
  · refine List.pairwise_append.mpr ⟨hs.ordered, List.pairwise_singleton _ _, ?_⟩
    intro earlier _ later hlater i hi
    exact absurd ((List.mem_singleton.mp hlater).symm.trans hi) (hother i).1
  · have hle := hs.room
    show (s.eventQueue ++ [event]).length ≤ 46 + (s.eventQueue ++ [event]).countP isReserved
    rw [List.length_append, List.countP_append, List.length_singleton, List.countP_singleton]
    rcases hroom with hshort | hreserved
    · omega
    · rw [hreserved, if_pos rfl]
      omega

theorem sound_postEvent (hs : Sound hand s) (event : HidEvent) (hother : ∀ h, event ≠ .connected h ∧ event ≠ .disconnected h) :
    Sound hand (s.postEvent event (isReserved event)) := by
  have hdropped : Quiet s { s with droppedEvents := s.droppedEvents + 1 } :=
    quiet_of_same rfl rfl rfl rfl rfl Or.inl Or.inl rfl
  unfold postEvent
  split
  · exact hdropped.sound hs
  · rename_i hfree
    split
    · refine sound_append hs hother ?_
      cases hreserved : isReserved event with
      | true => exact Or.inr rfl
      | false =>
          have hmore : ¬ eventQueueLen - s.eventQueue.length ≤ eventQueueReserved := fun hle => hfree ⟨hreserved, hle⟩
          unfold eventQueueLen eventQueueReserved at hmore
          exact Or.inl (by omega)
    · exact hdropped.sound hs

/-- The handle of a new interface is of none that is listed, or whose end is still to be told. -/
def IsFresh (h : DeviceHandle) (s : HostService) : Prop := s.ifaces h = none ∧ .disconnected h ∉ s.eventQueue

instance (h : DeviceHandle) (s : HostService) : Decidable (IsFresh h s) := inferInstanceAs (Decidable (_ ∧ _))

theorem sound_attach (hs : Sound none s) (hfresh : IsFresh h s) (hroom : reservedWaiting s < 2) (opens : Bool) :
    Sound none (s.attach h opens) := by
  have hgone (i : DeviceHandle) (hi : s.hidDevHandle = some i ∨ s.descRetryHandle = some i ∨ (none : Option DeviceHandle) = some i
      ∨ .connected i ∈ s.eventQueue) : i ≠ h := by
    rintro rfl
    have howned := hs.owned i hi
    rw [hfresh.1] at howned
    exact absurd howned (by decide)
  have hlisted (state : IfaceState) {i : DeviceHandle} (hi : i ≠ h) : (s.setIface h (some state)).ifaces i = s.ifaces i := by
    rw [setIface_apply, if_neg hi]
  unfold attach
  cases opens with
  | false =>
      have hidle : Sound none (s.setIface h (some .idle)) := by
        refine (quiet_setIface ?_ ?_).sound hs
        · rw [hfresh.1]
          rfl
        · rw [hfresh.1]
          rfl
      exact sound_postEvent hidle (.openFailed h) fun _ => ⟨nofun, nofun⟩
  | true =>
      have hnotin (i : DeviceHandle) (hi : i ≠ h) : HidEvent.connected i ∉ [HidEvent.connected h] := by
        rw [List.mem_singleton, HidEvent.connected.injEq]
        exact hi
      have hshort := length_lt_of_reserved hs hroom
      have hlength : (s.setIface h (some .ready)).eventQueue.length < eventQueueLen := hshort
      rw [if_pos rfl, postEvent_reserved hlength]
      refine ⟨?_, ?_, ?_, ?_, ?_, ?_, nofun, ?_, ?_, hs.retry, hs.ready, hs.restarting, hs.calls⟩
      · intro i hi
        by_cases hih : i = h
        · exact Or.inr (Or.inr (Or.inr (List.mem_append_right _ (hih ▸ List.mem_singleton_self _))))
        · exact (hs.opened i (hlisted _ hih ▸ hi)).imp_right
            (Or.imp_right (Or.imp_right (List.mem_append_left _)))
      · intro i hi
        by_cases hih : i = h
        · rw [hih, setIface_apply, if_pos rfl] at hi
          exact nomatch hi
        · exact List.mem_append_left _ (hs.waiting i (hlisted _ hih ▸ hi))
      · intro i hi
        rcases List.mem_append.mp hi with hold | hnew
        · have hih : i ≠ h := fun heq => hfresh.2 (heq ▸ hold)
          exact (congrArg isOpen (hlisted _ hih)).trans (hs.gone i hold)
        · exact nomatch List.mem_singleton.mp hnew
      · intro i hi
        by_cases hih : i = h
        · left
          show isOpen ((s.setIface h (some .ready)).ifaces i) = true
          rw [setIface_apply, if_pos hih]
          rfl
        · have howned := hs.owned i (hi.imp_right (Or.imp_right (Or.imp_right fun hin =>
            (List.mem_append.mp hin).resolve_right (hnotin i hih))))
          rw [← hlisted .ready hih] at howned
          exact howned
      · intro i hi
        exact ⟨(hs.bound i hi).1, nofun, fun hin =>
          (List.mem_append.mp hin).elim (hs.bound i hi).2.2 (hnotin i (hgone i (Or.inl hi)))⟩
      · intro i hi
        exact ⟨nofun, fun hin =>
          (List.mem_append.mp hin).elim (hs.deferred i hi).2 (hnotin i (hgone i (Or.inr (Or.inl hi))))⟩
      · refine List.pairwise_append.mpr ⟨hs.ordered, List.pairwise_singleton _ _, ?_⟩
        intro earlier hearlier later hlater i hi
        obtain rfl : i = h := HidEvent.connected.inj (hi.symm.trans (List.mem_singleton.mp hlater))
        refine ⟨?_, fun heq => hfresh.2 (heq ▸ hearlier)⟩
        exact fun heq => hgone i (Or.inr (Or.inr (Or.inr (heq ▸ hearlier)))) rfl
      · have hle := hs.room
        show (s.eventQueue ++ [HidEvent.connected h]).length ≤ 46 + (s.eventQueue ++ [HidEvent.connected h]).countP isReserved
        rw [List.length_append, List.countP_append]
        show s.eventQueue.length + 1 ≤ 46 + (s.eventQueue.countP isReserved + 1)
        omega

/-- An interface that was open is closed, and its owner is told. -/
theorem sound_told (hs : Sound none s) :
    Sound none { s.setIface h (some (.waitUserDeletion false)) with eventQueue := s.eventQueue ++ [.disconnected h] } := by
  have hother {i : DeviceHandle} (hi : i ≠ h) : (s.setIface h (some (.waitUserDeletion false))).ifaces i = s.ifaces i := by
    rw [setIface_apply, if_neg hi]
  have hself {i : DeviceHandle} (hi : i = h) :
      (s.setIface h (some (.waitUserDeletion false))).ifaces i = some (.waitUserDeletion false) := by
    rw [setIface_apply, if_pos hi]
  have hconnected (i : DeviceHandle) :
      HidEvent.connected i ∈ s.eventQueue ++ [HidEvent.disconnected h] ↔ HidEvent.connected i ∈ s.eventQueue := by
    rw [List.mem_append, List.mem_singleton]
    exact or_iff_left nofun
  refine ⟨?_, ?_, ?_, ?_, ?_, ?_, nofun, ?_, ?_, hs.retry, hs.ready, hs.restarting, hs.calls⟩
  · intro i hi
    by_cases hih : i = h
    · exact absurd ((congrArg isOpen (hself hih)).symm.trans hi) nofun
    · exact (hs.opened i (hother hih ▸ hi)).imp_right (Or.imp_right (Or.imp_right (hconnected i).mpr))
  · intro i hi
    by_cases hih : i = h
    · exact List.mem_append_right _ (hih ▸ List.mem_singleton_self _)
    · exact List.mem_append_left _ (hs.waiting i (hother hih ▸ hi))
  · intro i hi
    by_cases hih : i = h
    · exact congrArg isOpen (hself hih)
    · refine (congrArg isOpen (hother hih)).trans (hs.gone i ((List.mem_append.mp hi).resolve_right fun hin => ?_))
      exact hih (HidEvent.disconnected.inj (List.mem_singleton.mp hin))
  · intro i hi
    by_cases hih : i = h
    · exact Or.inr (congrArg isWaiting (hself hih))
    · have howned := hs.owned i (hi.imp_right (Or.imp_right (Or.imp_right (hconnected i).mp)))
      rw [← hother hih] at howned
      exact howned
  · exact fun i hi => ⟨(hs.bound i hi).1, nofun, fun hin => (hs.bound i hi).2.2 ((hconnected i).mp hin)⟩
  · exact fun i hi => ⟨nofun, fun hin => (hs.deferred i hi).2 ((hconnected i).mp hin)⟩
  · refine List.pairwise_append.mpr ⟨hs.ordered, List.pairwise_singleton _ _, ?_⟩
    intro earlier _ later hlater i hi
    exact nomatch hi.symm.trans (List.mem_singleton.mp hlater)
  · have hle := hs.room
    show (s.eventQueue ++ [HidEvent.disconnected h]).length ≤ 46 + (s.eventQueue ++ [HidEvent.disconnected h]).countP isReserved
    rw [List.length_append, List.countP_append]
    show s.eventQueue.length + 1 ≤ 46 + (s.eventQueue.countP isReserved + 1)
    omega

/-- An interface that is not open is dropped from the list; whoever owns it is not left with it. -/
theorem sound_unlisted (hs : Sound none s) (hclosed : isOpen (s.ifaces h) = false)
    (hunowned : s.hidDevHandle ≠ some h ∧ s.descRetryHandle ≠ some h ∧ .connected h ∉ s.eventQueue) :
    Sound none (s.setIface h none) where
  opened i hi := by
    rw [setIface_apply] at hi
    split at hi
    · exact nomatch hi
    · exact hs.opened i hi
  waiting i hi := by
    rw [setIface_apply] at hi
    split at hi
    · exact nomatch hi
    · exact hs.waiting i hi
  gone i hi := by
    rw [setIface_apply]
    split
    · rfl
    · exact hs.gone i hi
  owned i hi := by
    have hih : i ≠ h := by
      rintro rfl
      rcases hi with hbound | hdeferred | hhand | hqueue
      · exact hunowned.1 hbound
      · exact hunowned.2.1 hdeferred
      · exact nomatch hhand
      · exact hunowned.2.2 hqueue
    rw [setIface_apply, if_neg hih]
    exact hs.owned i hi
  bound := hs.bound
  deferred := hs.deferred
  inHand := hs.inHand
  ordered := hs.ordered
  room := hs.room
  retry := hs.retry
  ready := hs.ready
  restarting := hs.restarting
  calls := hs.calls

theorem sound_detach (hs : Sound none s) (hroom : reservedWaiting s < 2) (h : DeviceHandle) : Sound none (s.detach h) := by
  have htold : Sound none (s.awaitDeletion none false h) := by
    have hshort := length_lt_of_reserved hs hroom
    have hlength : (s.setIface h (some (.waitUserDeletion false))).eventQueue.length < eventQueueLen := hshort
    unfold awaitDeletion
    rw [if_neg nofun, postEvent_reserved hlength]
    exact sound_told hs
  have hunlisted (hopen : isOpen (s.ifaces h) = false) (hwaiting : isWaiting (s.ifaces h) = false) :
      Sound none (s.setIface h none) := by
    have hunowned := not_or.mpr ⟨ne_true_of_eq_false hopen, ne_true_of_eq_false hwaiting⟩
    refine sound_unlisted hs hopen ⟨?_, ?_, ?_⟩
    · exact fun hi => hunowned (hs.owned h (Or.inl hi))
    · exact fun hi => hunowned (hs.owned h (Or.inr (Or.inl hi)))
    · exact fun hi => hunowned (hs.owned h (Or.inr (Or.inr (Or.inr hi))))
  unfold detach
  split
  · exact hs
  · exact hs
  · exact htold
  · exact htold
  · rename_i hidle
    exact hunlisted (by rw [hidle]; rfl) (by rw [hidle]; rfl)
  · rename_i hwaiting
    exact hunlisted (by rw [hwaiting]; rfl) (by rw [hwaiting]; rfl)

theorem sound_dequeue {event : HidEvent} {rest : List HidEvent} (hs : Sound none s) (hqueue : s.eventQueue = event :: rest)
    (hhand : ∀ i, hand = some i ↔ event = .connected i) (hdone : ∀ i, event = .disconnected i → isWaiting (s.ifaces i) = false) :
    Sound hand { s with eventQueue := rest } := by
  have htail {other : HidEvent} (hin : other ∈ rest) : other ∈ s.eventQueue := hqueue ▸ List.mem_cons_of_mem event hin
  have hordered := List.pairwise_cons.mp (hqueue ▸ hs.ordered)
  have hconnected (i : DeviceHandle) : HidEvent.connected i ∈ s.eventQueue ↔ hand = some i ∨ HidEvent.connected i ∈ rest := by
    rw [hqueue, List.mem_cons, hhand]
    exact or_congr_left eq_comm
  have htaken (i : DeviceHandle) (hi : hand = some i) : HidEvent.connected i ∉ rest :=
    fun hin => (hordered.1 _ hin i rfl).1 ((hhand i).mp hi)
  refine ⟨?_, ?_, ?_, ?_, ?_, ?_, htaken, hordered.2, ?_, hs.retry, hs.ready, hs.restarting, hs.calls⟩
  · intro i hi
    rcases hs.opened i hi with hbound | hdeferred | hnone | hin
    · exact Or.inl hbound
    · exact Or.inr (Or.inl hdeferred)
    · exact nomatch hnone
    · exact Or.inr (Or.inr ((hconnected i).mp hin))
  · intro i hi
    have hin := hs.waiting i hi
    rw [hqueue] at hin
    rcases List.mem_cons.mp hin with heq | hrest
    · exact nomatch (hdone i heq.symm).symm.trans hi
    · exact hrest
  · exact fun i hi => hs.gone i (htail hi)
  · intro i hi
    rcases hi with hbound | hdeferred | hin
    · exact hs.owned i (Or.inl hbound)
    · exact hs.owned i (Or.inr (Or.inl hdeferred))
    · exact hs.owned i (Or.inr (Or.inr (Or.inr ((hconnected i).mpr hin))))
  · exact fun i hi => ⟨(hs.bound i hi).1, fun hin => (hs.bound i hi).2.2 ((hconnected i).mpr (Or.inl hin)),
      fun hin => (hs.bound i hi).2.2 (htail hin)⟩
  · exact fun i hi => ⟨fun hin => (hs.deferred i hi).2 ((hconnected i).mpr (Or.inl hin)),
      fun hin => (hs.deferred i hi).2 (htail hin)⟩
  · have hle := hs.room
    rw [hqueue, List.length_cons, List.countP_cons] at hle
    show rest.length ≤ 46 + rest.countP isReserved
    split at hle
    · omega
    · omega

/-- The interface is unlisted, and the host forgets it. -/
structure Released (h : DeviceHandle) (s s' : HostService) : Prop where
  ifaces : s'.ifaces = Function.update s.ifaces h none
  queue : s'.eventQueue = s.eventQueue
  bound : s'.hidDevHandle = if s.hidDevHandle = some h then none else s.hidDevHandle
  deferred : s'.descRetryHandle = if s.descRetryHandle = some h then none else s.descRetryHandle
  retry : s'.descRetry.pending = true → s.descRetry.pending = true ∧ s.descRetryHandle ≠ some h
  ready : s'.isReadyToPoll = true → s.isReadyToPoll = true ∧ s.hidDevHandle ≠ some h
  restarting : s'.inRestartPending = true → s.inRestartPending = true ∧ s.hidDevHandle ≠ some h
  calls : s'.calls = s.calls

theorem released_handleDisconnected (answer : CloseAnswer) (hclosed : isOpen (s.ifaces h) = false)
    (hboth : s.hidDevHandle = some h → s.descRetryHandle ≠ some h) : Released h s (s.handleDisconnected answer h) := by
  unfold handleDisconnected
  rw [hidHostDeviceClose_of_not_open answer none hclosed]
  by_cases hdeferred : s.descRetryHandle = some h
  · have hunbound : s.hidDevHandle ≠ some h := fun hbound => hboth hbound hdeferred
    have hcleared : (s.setIface h none).clearDeferredClaim h =
        { s.setIface h none with descRetryHandle := none, descRetry := .cleared } := if_pos hdeferred
    rw [hcleared]
    refine (if_pos hunbound : ite _ _ _ = _) ▸ ?_
    exact ⟨rfl, rfl, (if_neg hunbound).symm, (if_pos hdeferred).symm, nofun, fun hi => ⟨hi, hunbound⟩, fun hi => ⟨hi, hunbound⟩, rfl⟩
  · have hkept : (s.setIface h none).clearDeferredClaim h = s.setIface h none := if_neg hdeferred
    rw [hkept]
    by_cases hbound : s.hidDevHandle = some h
    · refine (if_neg (not_not.mpr hbound) : ite _ _ _ = _) ▸ ?_
      exact ⟨rfl, rfl, (if_pos hbound).symm, (if_neg hdeferred).symm, fun hi => ⟨hi, hdeferred⟩, nofun, nofun, rfl⟩
    · refine (if_pos hbound : ite _ _ _ = _) ▸ ?_
      exact ⟨rfl, rfl, (if_neg hbound).symm, (if_neg hdeferred).symm, fun hi => ⟨hi, hdeferred⟩, fun hi => ⟨hi, hbound⟩,
        fun hi => ⟨hi, hbound⟩, rfl⟩

theorem sound_released {rest : List HidEvent} (hs : Sound none s) (hqueue : s.eventQueue = .disconnected h :: rest)
    (hreleased : Released h { s with eventQueue := rest } s') : Sound none s' := by
  have hrest : s'.eventQueue = rest := hreleased.queue
  have htail {event : HidEvent} (hin : event ∈ rest) : event ∈ s.eventQueue := hqueue ▸ List.mem_cons_of_mem _ hin
  have hordered := List.pairwise_cons.mp (hqueue ▸ hs.ordered)
  have hconnected (i : DeviceHandle) : HidEvent.connected i ∈ s.eventQueue ↔ HidEvent.connected i ∈ rest := by
    rw [hqueue, List.mem_cons]
    exact or_iff_right nofun
  have hbound {i : DeviceHandle} : s'.hidDevHandle = some i ↔ i ≠ h ∧ s.hidDevHandle = some i := by
    rw [hreleased.bound]
    split
    · rename_i hh
      rw [show s.hidDevHandle = some h from hh, Option.some.injEq]
      exact iff_of_false nofun fun hi => hi.1 hi.2.symm
    · rename_i hne
      exact (and_iff_right_of_imp fun hi (heq : i = h) => hne (heq ▸ hi)).symm
  have hdeferred {i : DeviceHandle} : s'.descRetryHandle = some i ↔ i ≠ h ∧ s.descRetryHandle = some i := by
    rw [hreleased.deferred]
    split
    · rename_i hh
      rw [show s.descRetryHandle = some h from hh, Option.some.injEq]
      exact iff_of_false nofun fun hi => hi.1 hi.2.symm
    · rename_i hne
      exact (and_iff_right_of_imp fun hi (heq : i = h) => hne (heq ▸ hi)).symm
  have hifaces {i : DeviceHandle} : s'.ifaces i = if i = h then none else s.ifaces i := by
    rw [hreleased.ifaces]
    exact Function.update_apply ..
  have hstill {handle handle' : Option DeviceHandle} (heq : handle' = if handle = some h then none else handle)
      (hsome : handle ≠ none) (hne : handle ≠ some h) : handle' ≠ none := by
    rw [heq, if_neg hne]
    exact hsome
  constructor
  case opened =>
    intro i hi
    rw [hifaces] at hi
    split at hi
    · exact nomatch hi
    · rename_i hne
      rw [hbound, hdeferred, hrest, ← hconnected]
      exact (hs.opened i hi).imp (And.intro hne) (Or.imp_left (And.intro hne))
  case waiting =>
    intro i hi
    rw [hifaces] at hi
    split at hi
    · exact nomatch hi
    · rename_i hne
      have hin := hs.waiting i hi
      rw [hqueue] at hin
      rw [hrest]
      exact (List.mem_cons.mp hin).resolve_left fun heq => hne (HidEvent.disconnected.inj heq)
  case gone =>
    intro i hi
    rw [hifaces]
    split
    · rfl
    · exact hs.gone i (htail (hrest ▸ hi))
  case owned =>
    intro i hi
    rw [hbound, hdeferred, hrest] at hi
    have hne : i ≠ h := by
      rcases hi with hi | hi | hi | hi
      · exact hi.1
      · exact hi.1
      · exact nomatch hi
      · exact fun heq => (hordered.1 _ hi i rfl).2 (heq ▸ rfl)
    rw [← hconnected] at hi
    rw [hifaces, if_neg hne]
    exact hs.owned i (hi.imp And.right (Or.imp_left And.right))
  case bound =>
    intro i hi
    have hold := hs.bound i (hbound.mp hi).2
    rw [ne_eq, hdeferred, hrest, ← hconnected]
    exact ⟨fun hi => hold.1 hi.2, nofun, hold.2.2⟩
  case deferred =>
    intro i hi
    have hold := hs.deferred i (hdeferred.mp hi).2
    rw [hrest, ← hconnected]
    exact ⟨nofun, hold.2⟩
  case inHand => exact nofun
  case ordered => exact hrest ▸ hordered.2
  case room =>
    have hle := hs.room
    rw [hqueue, List.length_cons, List.countP_cons_of_pos rfl] at hle
    rw [hrest]
    omega
  case retry => exact fun hi => hstill hreleased.deferred (hs.retry (hreleased.retry hi).1) (hreleased.retry hi).2
  case ready => exact fun hi => hstill hreleased.bound (hs.ready (hreleased.ready hi).1) (hreleased.ready hi).2
  case restarting =>
    exact fun hi => hstill hreleased.bound (hs.restarting (hreleased.restarting hi).1) (hreleased.restarting hi).2
  case calls => exact hreleased.calls ▸ hs.calls

theorem sound_processEvent (a : EventAnswers) (hs : Sound none s) (hgo : a.claim.firstClose.LetsGo) :
    Sound none (s.processEvent a) := by
  have hseen (s : HostService) : Quiet s { s with enumSeen := true } :=
    quiet_of_same rfl rfl rfl rfl rfl Or.inl Or.inl rfl
  unfold processEvent
  split
  · exact hs
  · rename_i event rest hqueue
    have htaken (hother : ∀ i, event ≠ .connected i ∧ event ≠ .disconnected i) : Sound none { s with eventQueue := rest } :=
      sound_dequeue hs hqueue (fun i => ⟨nofun, fun heq => absurd heq (hother i).1⟩) fun i heq => absurd heq (hother i).2
    dsimp only
    split
    · rename_i h
      have hhand : Sound (some h) { s with eventQueue := rest } := by
        refine sound_dequeue hs hqueue (fun i => ?_) nofun
        rw [Option.some.injEq, HidEvent.connected.injEq]
      exact sound_claimInterface a.claim hgo (Or.inl ((hseen _).sound hhand))
    · exact (hseen _).sound (htaken fun i => ⟨nofun, nofun⟩)
    · exact (quiet_processInputReport _).sound (htaken fun i => ⟨nofun, nofun⟩)
    · rename_i h
      have hclosed : isOpen (s.ifaces h) = false := hs.gone h (hqueue ▸ List.mem_cons_self)
      refine sound_released hs hqueue (released_handleDisconnected a.claim.firstClose hclosed ?_)
      exact fun hbound => (hs.bound h hbound).1
    · have hsound := htaken fun i => ⟨nofun, nofun⟩
      exact (quiet_handleTransferError a.recover a.now hsound).sound hsound

theorem sound_retryClaim (a : ClaimAnswers) (hs : Sound none s) (hgo : a.firstClose.LetsGo) :
    Sound none (s.retryClaim a) := by
  unfold retryClaim
  split
  · exact hs
  · rename_i hdue
    split
    · rename_i h hdeferred
      exact sound_claimInterface a hgo (Or.inr ⟨hs, hdeferred⟩)
    · rename_i hnone
      refine absurd hnone (hs.retry ?_)
      rw [Bool.not_eq_false] at hdue
      exact (Bool.and_eq_true_iff.mp hdue).1

/-! ### Runs -/

/-- What is asked of the stack: a new handle is fresh, the events in the reserved slots are taken in time, and an interface that is closed is let go. -/
def Allowed (s : HostService) : Step → Prop
  | .attach h _ => IsFresh h s ∧ reservedWaiting s < 2
  | .detach _ => reservedWaiting s < 2
  | .processEvent a => a.claim.firstClose.LetsGo
  | .retryClaim a => a.firstClose.LetsGo
  | _ => True

instance (s : HostService) : (step : Step) → Decidable (Allowed s step)
  | .attach _ _ => inferInstanceAs (Decidable (_ ∧ _))
  | .detach _ => inferInstanceAs (Decidable (_ < _))
  | .processEvent a => inferInstanceAs (Decidable a.claim.firstClose.LetsGo)
  | .retryClaim a => inferInstanceAs (Decidable a.firstClose.LetsGo)
  | .input _ _ | .transferError _ | .enumWatchdog _ _ | .poll _ | .command _ => inferInstanceAs (Decidable True)

theorem sound_step (s : HostService) (step : Step) (hallowed : Allowed s step) (hs : Sound none s) : Sound none (s.step step) := by
  cases step with
  | attach h opens => exact sound_attach hs hallowed.1 hallowed.2 opens
  | detach h => exact sound_detach hs hallowed h
  | input h ts => exact sound_postEvent hs (.inputReport h ts) fun _ => ⟨nofun, nofun⟩
  | transferError h => exact sound_postEvent hs (.transferError h) fun _ => ⟨nofun, nofun⟩
  | processEvent a => exact sound_processEvent a hs hallowed
  | retryClaim a => exact sound_retryClaim a hs hallowed
  | enumWatchdog devices now => exact (quiet_serviceEnumWatchdog devices now).sound hs
  | poll a => exact (quiet_poll a hs).sound hs
  | command requests => exact (quiet_requests requests hs).sound hs

theorem sound_initial (memory : Vector UInt32 8) (stamps : Vector UInt32 12) (automaticRestarts : Nat) (now : UInt32) :
    Sound none (initial memory stamps automaticRestarts now) where
  opened := nofun
  waiting := nofun
  gone := nofun
  owned h hi := by
    rcases hi with hi | hi | hi | hi
    · exact nomatch hi
    · exact nomatch hi
    · exact nomatch hi
    · exact nomatch hi
  bound := nofun
  deferred := nofun
  inHand := nofun
  ordered := List.Pairwise.nil
  room := Nat.zero_le _
  retry := nofun
  ready := nofun
  restarting := nofun
  calls := nofun

/-- Each interface has one owner, and only listed ones are called. -/
structure Accounted (s : HostService) : Prop where
  opened : ∀ h, isOpen (s.ifaces h) = true →
    s.hidDevHandle = some h ∨ s.descRetryHandle = some h ∨ .connected h ∈ s.eventQueue
  waiting : ∀ h, isWaiting (s.ifaces h) = true → .disconnected h ∈ s.eventQueue
  owned : ∀ h, s.hidDevHandle = some h ∨ s.descRetryHandle = some h ∨ .connected h ∈ s.eventQueue →
    isOpen (s.ifaces h) = true ∨ isWaiting (s.ifaces h) = true
  single : ∀ h, s.hidDevHandle = some h → s.descRetryHandle ≠ some h ∧ .connected h ∉ s.eventQueue
  calls : ∀ call ∈ s.calls, call.listed = true

theorem Sound.accounted (hs : Sound none s) : Accounted s where
  opened h hi := (hs.opened h hi).imp_right (Or.imp_right fun hin => hin.resolve_left nofun)
  waiting := hs.waiting
  owned h hi := hs.owned h (hi.imp_right (Or.imp_right Or.inr))
  single h hi := ⟨(hs.bound h hi).1, (hs.bound h hi).2.2⟩
  calls := hs.calls

/-- No interface is lost in a run, and none is called that is gone. -/
theorem accounted_run (memory : Vector UInt32 8) (stamps : Vector UInt32 12) (automaticRestarts : Nat) (now : UInt32)
    (steps : List Step) (hallowed : Along Allowed HostService.step (initial memory stamps automaticRestarts now) steps) :
    Accounted (run HostService.step (initial memory stamps automaticRestarts now) steps) :=
  (run_along (sound_initial memory stamps automaticRestarts now) sound_step steps hallowed).accounted

/-- A device whose descriptor cannot be read at first: it is deferred, bound, and gone. -/
def deferredThenGone : List Step :=
  let parser : HIDParser := ⟨[⟨0x00840004, 1, 0, 0, 8, true, 0, 100, 0, 0, "", []⟩], Store.empty, Store.empty, Store.empty⟩
  let claim (descriptor : Option HIDParser) (now : UInt32) : ClaimAnswers :=
    ⟨now, descriptor, false, some ⟨0x051D, 2, "", ""⟩, ⟨true, true⟩, ⟨true, true⟩, true⟩
  let recover : RecoverAnswers := ⟨true, none, 0⟩
  [.attach 1 true, .processEvent ⟨claim none 10, recover, 10⟩, .retryClaim (claim (some parser) 3000), .input 1 3100,
   .processEvent ⟨claim none 3100, recover, 3100⟩, .detach 1, .processEvent ⟨claim none 3200, recover, 3200⟩]

theorem accounted_deferredThenGone :
    Accounted (run HostService.step (initial (Vector.replicate 8 0) (Vector.replicate 12 0) 0 0) deferredThenGone) :=
  accounted_run (Vector.replicate 8 0) (Vector.replicate 12 0) 0 0 deferredThenGone (by decide)

end EspNut.HostService
