import EspNut.Boot.Startup
import EspNut.Lib.Run
import EspNut.Web.Recovery

/-!
# The double reset

Over any number of boots the flag tells exactly whether a boot follows one that was cut short in its first three seconds and did not itself follow such a one. Credentials in use are replaced without the password only after such a double reset, or from the access point of a board without a configuration.
-/

namespace EspNut

open Lib

namespace Firmware

variable (deserialize : List String → String → Option JsonBody) (sha256 : String → Digest)

/-- A reset, whatever it is due to and whenever it comes, or a pass of the main loop. -/
inductive BoardEvent where
  | reset (a : BootAnswers)
  | pass (p : Pass)

/-- A request that changes credentials that are in use, and does not have the password. -/
def Replaces (s : WebConfigServer) (r : WebRequest) : Prop :=
  (s.handleRequest deserialize sha256 r).server.auth.credentials ≠ s.auth.credentials
    ∧ s.auth.credentials.configured = true ∧ ¬ s.Password deserialize sha256 r

/-- The board as it is seen from outside: what its boot found, whether it followed one that was cut short, whether it is itself cut short so far, when it began and when it looked at the clock last, and whether credentials were replaced. -/
structure Watch where
  board : Firmware
  configOk : Bool
  forced : Bool
  brief : Bool
  flagAt : Nat
  startedAt : Nat
  last : Nat
  replaced : Prop

def watchStep (w : Watch) : BoardEvent → Watch
  | .reset a =>
      { board := setup a w.board, configOk := a.configOk, forced := w.brief && !w.forced, brief := true
        flagAt := a.flagAt, startedAt := a.startedAt, last := a.startedAt, replaced := False }
  | .pass p =>
      { w with
        board := (loop deserialize sha256 p w.board).1
        brief := w.brief && decide (p.now ≤ w.flagAt + 3000)
        last := p.web.updatedAt
        replaced := w.replaced ∨ ∃ r ∈ p.web.request, Replaces deserialize sha256 w.board.server r }

/-- The flash takes the flag, the clock goes on, by no more than twelve days from one look at it to the next, and uploads come in parts. -/
def Timely (w : Watch) : BoardEvent → Prop
  | .reset a => a.flagSaved = true ∧ a.flagAt ≤ a.startedAt ∧ a.startedAt ≤ a.flagAt + 2 ^ 30
  | .pass p =>
      p.flagSaved = true ∧ w.last ≤ p.now ∧ p.now ≤ p.web.updatedAt ∧ p.web.updatedAt ≤ w.last + 2 ^ 30
        ∧ ∀ r ∈ p.web.request, p.now ≤ r.handledAt ∧ r.handledAt ≤ p.web.updatedAt ∧ WebConfigServer.InParts false r.uploads

/-- A board that was last started without a double reset, long ago. -/
def settled (caps : BoardCaps) (auth : AuthService) : Watch where
  board :=
    { caps, manualAp := false, clearApFlagPending := false, bootTimeMs := 0, plan := planNetwork caps true false
      apTimeout := ApIdleTimeout.disabled, stations := 0, lastStationCheck := 0
      server := ⟨false, auth, RecoveryWindow.closed, false, false, []⟩ }
  configOk := true
  forced := false
  brief := false
  flagAt := 0
  startedAt := 0
  last := 0
  replaced := False

variable {deserialize sha256} {w : Watch}

/-! ### The flag -/

/-- The flag in the flash is set as long as a reset would be a double one, and so is the wish to take it back. -/
structure Flagged (w : Watch) : Prop where
  flag : w.board.manualAp = (w.brief && !w.forced)
  pending : w.board.clearApFlagPending = (w.brief && !w.forced)
  past : w.flagAt ≤ w.last
  shown : w.board.clearApFlagPending = true → w.board.bootTimeMs = Clock.millis w.flagAt ∧ w.last ≤ w.flagAt + 3000 + 2 ^ 30

@[simp] theorem manualAp_loop (p : Pass) (b : Firmware) : (loop deserialize sha256 p b).1.manualAp = (clearFlag p b).manualAp := by
  simp only [loop, watchStations, countStations]
  split_ifs <;> rfl

@[simp] theorem clearApFlagPending_loop (p : Pass) (b : Firmware) :
    (loop deserialize sha256 p b).1.clearApFlagPending = (clearFlag p b).clearApFlagPending := by
  simp only [loop, watchStations, countStations]
  split_ifs <;> rfl

@[simp] theorem bootTimeMs_loop (p : Pass) (b : Firmware) : (loop deserialize sha256 p b).1.bootTimeMs = b.bootTimeMs := by
  simp only [loop, watchStations, countStations, clearFlag]
  split_ifs <;> rfl

theorem flagged_reset (a : BootAnswers) (htimely : Timely w (.reset a)) (h : Flagged w) :
    Flagged (watchStep deserialize sha256 w (.reset a)) := by
  obtain ⟨hsaved, hpast, hsoon⟩ := htimely
  have hflag : (!w.board.manualAp) = (true && !(w.brief && !w.forced)) := by rw [h.flag, Bool.true_and]
  refine ⟨?_, hflag, hpast, fun hpending => ⟨?_, ?_⟩⟩
  · simpa only [watchStep, setup, hsaved, if_true] using hflag
  · have hunset : w.board.manualAp = false := by simpa [watchStep, setup] using hpending
    simp [watchStep, setup, hunset]
  · simp only [watchStep]
    omega

/-- The clock shows that three seconds have passed when they have, as long as the flag waits. -/
theorem flagged_pass (p : Pass) (htimely : Timely w (.pass p)) (h : Flagged w) :
    Flagged (watchStep deserialize sha256 w (.pass p)) := by
  obtain ⟨hsaved, hlast, hnow, hsoon, -⟩ := htimely
  have hpast := h.past
  cases hpending : w.board.clearApFlagPending with
  | false =>
      have hkept : clearFlag p w.board = w.board := by simp [clearFlag, hpending]
      have hnone : (w.brief && !w.forced) = false := h.pending.symm.trans hpending
      have hstill : ((w.brief && decide (p.now ≤ w.flagAt + 3000)) && !w.forced) = false := by
        rw [Bool.and_right_comm, hnone, Bool.false_and]
      refine ⟨?_, ?_, ?_, fun hwaits => ?_⟩
      · simpa [watchStep, hkept, hstill] using h.flag.trans hnone
      · simpa [watchStep, hkept, hstill] using hpending
      · simp only [watchStep]
        omega
      · simp [watchStep, hkept, hpending] at hwaits
  | true =>
      obtain ⟨hshown, hbefore⟩ := h.shown hpending
      have hbrief : (w.brief && !w.forced) = true := h.pending.symm.trans hpending
      rw [Bool.and_eq_true] at hbrief
      have hpassed : 3000 < Clock.millis p.now - w.board.bootTimeMs ↔ w.flagAt + 3000 < p.now := by
        have hsub : (Clock.millis p.now - Clock.millis w.flagAt).toNat = p.now - w.flagAt :=
          Clock.toNat_sub_of_turn (by omega) (by omega)
        rw [hshown, UInt32.lt_iff_toNat_lt, hsub]
        show 3000 < p.now - w.flagAt ↔ _
        omega
      by_cases hlong : w.flagAt + 3000 < p.now
      · have hcleared : clearFlag p w.board = { w.board with manualAp := false, clearApFlagPending := false } := by
          simp [clearFlag, hpending, hpassed, hlong, hsaved]
        refine ⟨?_, ?_, ?_, fun hwaits => ?_⟩
        · simp [watchStep, hcleared, hlong]
        · simp [watchStep, hcleared, hlong]
        · simp only [watchStep]
          omega
        · simp [watchStep, hcleared] at hwaits
      · have hkept : clearFlag p w.board = w.board := by simp [clearFlag, hpassed, hlong]
        refine ⟨?_, ?_, ?_, fun _ => ⟨?_, ?_⟩⟩
        · simpa [watchStep, hkept, hbrief.1, hbrief.2, Nat.not_lt.mp hlong] using h.flag
        · simpa [watchStep, hkept, hbrief.1, hbrief.2, Nat.not_lt.mp hlong] using hpending
        · simp only [watchStep]
          omega
        · simpa [watchStep] using hshown
        · simp only [watchStep]
          omega

theorem flagged_step (w : Watch) (e : BoardEvent) (htimely : Timely w e) (h : Flagged w) : Flagged (watchStep deserialize sha256 w e) := by
  cases e with
  | reset a => exact flagged_reset a htimely h
  | pass p => exact flagged_pass p htimely h

/-! ### What the boot decides -/

/-- What a boot plans is what it found, and the double reset. -/
structure Planned (w : Watch) : Prop where
  plan : w.board.plan = planNetwork w.board.caps w.configOk w.forced
  apMode : w.board.server.isApMode = decide (w.board.plan.link = .wifiAccessPoint)
  recovery : w.board.server.recovery.opened = true → w.board.plan.recoveryWindow = true
    ∧ w.board.server.recovery.openedAt = Clock.millis w.startedAt ∧ w.last < w.startedAt + 600000 ∧ ¬ w.replaced
  past : w.startedAt ≤ w.last

theorem accessPoint_iff {caps : BoardCaps} {configOk forced : Bool} :
    (planNetwork caps configOk forced).link = .wifiAccessPoint ↔ caps.hasWifi = true ∧ (configOk = false ∨ forced = true) := by
  simp only [planNetwork]
  split_ifs with hwifi hopen hethernet <;> simp_all

theorem recoveryWindow_iff {caps : BoardCaps} {configOk forced : Bool} :
    (planNetwork caps configOk forced).recoveryWindow = true ↔ caps.hasWifi = false ∧ forced = true := by
  simp only [planNetwork]
  split_ifs with hwifi hopen <;> simp_all

@[simp] theorem plan_loop (p : Pass) (b : Firmware) : (loop deserialize sha256 p b).1.plan = b.plan := by
  simp only [loop, watchStations, countStations, clearFlag]
  split_ifs <;> rfl

@[simp] theorem caps_loop (p : Pass) (b : Firmware) : (loop deserialize sha256 p b).1.caps = b.caps := by
  simp only [loop, watchStations, countStations, clearFlag]
  split_ifs <;> rfl

@[simp] theorem server_loop (p : Pass) (b : Firmware) :
    (loop deserialize sha256 p b).1.server = b.server.loop deserialize sha256 p.web := by
  simp only [loop, watchStations, countStations, clearFlag]
  split_ifs <;> rfl

theorem planned_reset (a : BootAnswers) (hflagged : Flagged w) : Planned (watchStep deserialize sha256 w (.reset a)) := by
  have hplan : (setup a w.board).plan = planNetwork w.board.caps a.configOk (w.brief && !w.forced) := by
    simp only [setup]
    rw [hflagged.flag]
  refine ⟨hplan, rfl, fun hopened => ?_, le_rfl⟩
  have hwindow : (setup a w.board).plan.recoveryWindow = true := by
    by_contra hnone
    simp [watchStep, setup] at hopened hnone
    rw [hnone] at hopened
    exact Bool.false_ne_true hopened
  have hopen : (setup a w.board).server.recovery = RecoveryWindow.openAt (Clock.millis a.startedAt) := if_pos hwindow
  refine ⟨hwindow, ?_, ?_, not_false⟩
  · simp only [watchStep, hopen, RecoveryWindow.openAt]
  · simp only [watchStep]
    omega

/-- A window that is still open after a look at the clock was open before, is not used, and not yet over. -/
theorem opened_of_update {recovery : RecoveryWindow} {now : UInt32} (h : (recovery.update now).opened = true) :
    recovery.opened = true ∧ (recovery.update now).openedAt = recovery.openedAt
      ∧ now - recovery.openedAt < RecoveryWindow.defaultDurationMs := by
  revert h
  simp only [RecoveryWindow.update]
  split_ifs with hover
  · simp
  · exact fun h => ⟨h, rfl, UInt32.not_le.mp fun hlate => hover ⟨h, hlate⟩⟩

variable (deserialize) (sha256) in
/-- The web server's part of a pass, as seen from the recovery window of the station. -/
theorem loop_recovery (s : WebConfigServer) (i : WebConfigServer.Iteration) (hstation : s.isApMode = false)
    (hparts : ∀ r ∈ i.request, WebConfigServer.InParts false r.uploads) :
    (s.loop deserialize sha256 i).isApMode = false
      ∧ ((s.loop deserialize sha256 i).recovery.opened = true →
        s.recovery.opened = true ∧ (s.loop deserialize sha256 i).recovery.openedAt = s.recovery.openedAt
          ∧ Clock.millis i.updatedAt - s.recovery.openedAt < RecoveryWindow.defaultDurationMs
          ∧ ∀ r ∈ i.request, ¬ Replaces deserialize sha256 s r) := by
  cases hrequest : i.request with
  | none =>
      simp only [WebConfigServer.loop, hrequest, Option.elim_none]
      refine ⟨hstation, fun hopened => ?_⟩
      obtain ⟨hbefore, hkept, htime⟩ := opened_of_update hopened
      exact ⟨hbefore, hkept, htime, nofun⟩
  | some r =>
      have hserved : WebConfigServer.Served deserialize sha256 s r _ := WebConfigServer.served hstation (hparts r hrequest)
      have hrecovered : WebConfigServer.Recovered s r (s.handleRequest deserialize sha256 r) := WebConfigServer.recovered hstation
      simp only [WebConfigServer.loop, hrequest, Option.elim_some]
      refine ⟨hserved.apMode, fun hopened => ?_⟩
      obtain ⟨hbefore, hkept, htime⟩ := opened_of_update hopened
      have hsame : (s.handleRequest deserialize sha256 r).server.recovery = s.recovery := by
        rcases hrecovered.kept with hsame | hused
        · exact hsame
        · rw [hused] at hbefore
          exact absurd hbefore Bool.false_ne_true
      rw [hsame] at hbefore hkept htime
      refine ⟨hbefore, hsame ▸ hkept, htime, ?_⟩
      rintro other hother ⟨hchanged, hconfigured, hpassword⟩
      obtain rfl := Option.some.inj hother
      have hopen := ((hserved.reason (Or.inr hchanged)).resolve_left hpassword).resolve_left (by simp [hconfigured])
      have hused := hrecovered.used hchanged hopen
      rw [hsame] at hused
      rw [hused] at hbefore
      exact absurd hbefore Bool.false_ne_true

variable (deserialize) (sha256) in
/-- The access point never has a recovery window. -/
theorem apMode_loop (s : WebConfigServer) (i : WebConfigServer.Iteration) (hap : s.isApMode = true)
    (hclosed : s.recovery.opened = false) :
    (s.loop deserialize sha256 i).isApMode = true ∧ (s.loop deserialize sha256 i).recovery.opened = false := by
  have hupdate {recovery : RecoveryWindow} (h : recovery.opened = false) (now : UInt32) : (recovery.update now).opened = false := by
    simp [RecoveryWindow.update, h]
  cases hrequest : i.request with
  | none =>
      simp only [WebConfigServer.loop, hrequest, Option.elim_none]
      exact ⟨hap, hupdate hclosed _⟩
  | some r =>
      obtain ⟨hkept, hrecovery⟩ := WebConfigServer.handleRequest_keeps deserialize sha256 r s
      simp only [WebConfigServer.loop, hrequest, Option.elim_some]
      refine ⟨hkept.trans hap, hupdate ?_ _⟩
      rcases hrecovery with hsame | hused
      · rw [hsame, hclosed]
      · rw [hused]
        rfl

theorem planned_pass (p : Pass) (htimely : Timely w (.pass p)) (h : Planned w) :
    Planned (watchStep deserialize sha256 w (.pass p)) := by
  obtain ⟨-, hlast, hnow, hsoon, hrequest⟩ := htimely
  have hpast := h.past
  have hlater : w.startedAt ≤ p.web.updatedAt := by omega
  cases hap : w.board.server.isApMode with
  | true =>
      have hlink : w.board.plan.link = .wifiAccessPoint := of_decide_eq_true (h.apMode.symm.trans hap)
      have hclosed : w.board.server.recovery.opened = false := by
        by_contra hopened
        have hwindow := (h.recovery (eq_true_of_ne_false hopened)).1
        rw [h.plan, accessPoint_iff] at hlink
        rw [h.plan, recoveryWindow_iff, hlink.1] at hwindow
        exact absurd hwindow.1.symm Bool.false_ne_true
      obtain ⟨hap', hclosed'⟩ := apMode_loop deserialize sha256 w.board.server p.web hap hclosed
      refine ⟨?_, ?_, fun hopened => ?_, hlater⟩
      · simpa [watchStep] using h.plan
      · simp [watchStep, hap', hlink]
      · simp [watchStep, hclosed'] at hopened
  | false =>
      obtain ⟨hstation, hwindow⟩ := loop_recovery deserialize sha256 w.board.server p.web hap fun r hr => (hrequest r hr).2.2
      refine ⟨?_, ?_, fun hopened => ?_, hlater⟩
      · simpa [watchStep] using h.plan
      · simpa [watchStep, hstation, hap] using h.apMode
      · obtain ⟨hbefore, hkept, htime, hnone⟩ := hwindow (by simpa [watchStep] using hopened)
        obtain ⟨hplan, hopenedAt, hbusy, hunused⟩ := h.recovery hbefore
        rw [hopenedAt] at hkept htime
        have hturn : (Clock.millis p.web.updatedAt - Clock.millis w.startedAt).toNat = p.web.updatedAt - w.startedAt :=
          Clock.toNat_sub_of_turn hlater (by omega)
        have hspan : p.web.updatedAt - w.startedAt < 600000 := by
          rw [← hturn]
          exact UInt32.lt_iff_toNat_lt.mp htime
        refine ⟨?_, ?_, ?_, ?_⟩
        · simpa [watchStep] using hplan
        · simpa [watchStep] using hkept
        · simp only [watchStep]
          omega
        · rintro (hused | ⟨r, hr, hreplaces⟩)
          · exact hunused hused
          · exact hnone r hr hreplaces

theorem planned_step (w : Watch) (e : BoardEvent) (htimely : Timely w e) (hflagged : Flagged w) (h : Planned w) :
    Planned (watchStep deserialize sha256 w e) := by
  cases e with
  | reset a => exact planned_reset a hflagged
  | pass p => exact planned_pass p htimely h

/-! ### Runs -/

variable (deserialize sha256) in
/-- A boot starts as planned for a double reset exactly when the boot before was cut short and was not itself started by one. -/
def Starts (w : Watch) : BoardEvent → Prop
  | .reset a => (watchStep deserialize sha256 w (.reset a)).board.plan = planNetwork w.board.caps a.configOk (w.brief && !w.forced)
  | .pass p => (watchStep deserialize sha256 w (.pass p)).board.plan = w.board.plan

variable (deserialize sha256) in
/-- Why credentials in use are replaced without the password: from the access point, which a board with Wi-Fi starts without a configuration or after a double reset; or after a double reset of a board without Wi-Fi, within ten minutes, and only once. -/
def Explained (w : Watch) : BoardEvent → Prop
  | .reset _ => True
  | .pass p => ∀ r ∈ p.web.request, Replaces deserialize sha256 w.board.server r →
      w.board.caps.hasWifi = true ∧ (w.configOk = false ∨ w.forced = true)
        ∨ w.board.caps.hasWifi = false ∧ w.forced = true ∧ r.handledAt < w.startedAt + 600000 ∧ ¬ w.replaced

theorem explained_pass (p : Pass) (htimely : Timely w (.pass p)) (h : Planned w) : Explained deserialize sha256 w (.pass p) := by
  rintro r hr ⟨hchanged, hconfigured, hpassword⟩
  obtain ⟨-, hlast, hnow, hsoon, hrequest⟩ := htimely
  obtain ⟨hhandled, hupdated, hparts⟩ := hrequest r hr
  have hpast := h.past
  cases hap : w.board.server.isApMode with
  | true =>
      have hlink : w.board.plan.link = .wifiAccessPoint := of_decide_eq_true (h.apMode.symm.trans hap)
      rw [h.plan, accessPoint_iff] at hlink
      exact Or.inl hlink
  | false =>
      have hserved : WebConfigServer.Served deserialize sha256 w.board.server r _ := WebConfigServer.served hap hparts
      have hopen := ((hserved.reason (Or.inr hchanged)).resolve_left hpassword).resolve_left (by simp [hconfigured])
      simp only [RecoveryWindow.isOpen, Bool.and_eq_true, decide_eq_true_eq] at hopen
      obtain ⟨hplan, hopenedAt, hbusy, hunused⟩ := h.recovery hopen.1
      rw [h.plan, recoveryWindow_iff] at hplan
      rw [hopenedAt] at hopen
      have hturn : (Clock.millis r.handledAt - Clock.millis w.startedAt).toNat = r.handledAt - w.startedAt :=
        Clock.toNat_sub_of_turn (by omega) (by omega)
      have hspan : r.handledAt - w.startedAt < 600000 := by
        rw [← hturn]
        exact UInt32.lt_iff_toNat_lt.mp hopen.2
      exact Or.inr ⟨hplan.1, hplan.2, by omega, hunused⟩

theorem settled_flagged (caps : BoardCaps) (auth : AuthService) : Flagged (settled caps auth) :=
  ⟨rfl, rfl, le_rfl, nofun⟩

theorem settled_planned (caps : BoardCaps) (auth : AuthService) : Planned (settled caps auth) := by
  refine ⟨rfl, ?_, nofun, le_rfl⟩
  have hlink : (planNetwork caps true false).link ≠ .wifiAccessPoint := by simp [accessPoint_iff]
  simp [settled, hlink]

/-- Along every run of boots and passes the double reset is told from all other resets, and only it, or a missing configuration, lets anyone replace credentials without the password. -/
theorem doubleReset_run (deserialize : List String → String → Option JsonBody) (sha256 : String → Digest) (caps : BoardCaps)
    (auth : AuthService) (events : List BoardEvent)
    (htimely : Along Timely (watchStep deserialize sha256) (settled caps auth) events) :
    Along (fun w e => Starts deserialize sha256 w e ∧ Explained deserialize sha256 w e) (watchStep deserialize sha256)
      (settled caps auth) events := by
  refine along_imp (fun w => Flagged w ∧ Planned w) ⟨settled_flagged caps auth, settled_planned caps auth⟩ ?_ events htimely
  rintro w e ⟨hflagged, hplanned⟩ htimely
  refine ⟨⟨?_, ?_⟩, flagged_step w e htimely hflagged, planned_step w e htimely hflagged hplanned⟩
  · cases e with
    | reset a => exact (planned_reset a hflagged).plan
    | pass p => exact plan_loop p w.board
  · cases e with
    | reset a => exact trivial
    | pass p => exact explained_pass p htimely hplanned

/-- The boots of a board that has its credentials. -/
def configuredBoot : BootAnswers := ⟨true, true, 1200, some AuthService.adminRecord, none, true, 3000⟩

/-- New credentials for the board, without the current password. -/
def forgottenPassword : WebRequest :=
  ⟨90000, 90000, .post, "/api/auth/credentials", "application/json", "", AuthService.loginBody, [], false, AuthService.givingToken 1⟩

/-- A boot that is cut short, one that is not, and new credentials a minute and a half later. -/
def doubleReset : List BoardEvent :=
  [.reset configuredBoot, .reset configuredBoot, .pass ⟨4500, true, ⟨none, 4501⟩, 0⟩, .pass ⟨90000, true, ⟨some forgottenPassword, 90001⟩, 0⟩]

theorem doubleReset_run_forgottenPassword :
    Along (fun w e => Starts AuthService.requestJson SessionTable.textDigest w e
        ∧ Explained AuthService.requestJson SessionTable.textDigest w e)
      (watchStep AuthService.requestJson SessionTable.textDigest) (settled ⟨false, true⟩ AuthService.configuredService) doubleReset := by
  refine doubleReset_run AuthService.requestJson SessionTable.textDigest ⟨false, true⟩ AuthService.configuredService doubleReset ?_
  refine ⟨⟨rfl, by decide, by decide⟩, ⟨rfl, by decide, by decide⟩, ⟨rfl, ?_, by decide, ?_, nofun⟩, ⟨rfl, ?_, by decide, ?_, ?_⟩, trivial⟩
  · show 3000 ≤ 4500
    decide
  · show 4501 ≤ 3000 + 2 ^ 30
    decide
  · show 4501 ≤ 90000
    decide
  · show 90001 ≤ 4501 + 2 ^ 30
    decide
  · rintro r hr
    obtain rfl := Option.some.inj hr
    exact ⟨by decide, by decide, trivial⟩

end Firmware

end EspNut
