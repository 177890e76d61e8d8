import EspNut.Lib.Run
import EspNut.Log.RemoteLog

/-!
# Which datagrams are sent

An observer of the output who knows nothing of its state: from the settings that come and are taken up, the addresses the name server gives, what the clock says and what the network takes, it knows what the output may do next, what it has to write about itself, and what it shows. In every run the output does only that: a datagram goes to the server in force and only while a link is up, a name is not looked up too soon, and a failure is told once.
-/

namespace EspNut

open Lib

namespace SyslogOutput

/-! ### The observer -/

/-- A line the output writes about itself. -/
structure OwnLine where
  level : String
  msg : String
  notice : Bool
  deriving DecidableEq

structure Observer where
  inForce : SyslogSettings
  /-- settings that wait, and who has made them -/
  waiting : Option (SyslogSettings × String)
  linked : Bool
  /-- the address that the host in force is -/
  literal : Option IPAddress
  /-- the last address that was given for its name -/
  address : Option IPAddress
  /-- the name of the board -/
  name : Option String
  /-- what the clock said last, and of which moment -/
  timed : Option (UInt32 × Option SyslogTime)
  /-- the last look-up since the settings were taken up, and how long no other is due -/
  asked : Option (UInt32 × UInt32)
  /-- the name has failed before it was ever known -/
  unresolved : Bool
  state : SyslogState
  /-- the lines that are still to be written -/
  due : List OwnLine
  /-- the datagrams that were taken, and that were not -/
  counts : Nat × Nat
  /-- these at the last round -/
  shown : Nat × Nat

/-- The lines about new settings. -/
def announced (old new : SyslogSettings) (who : String) : List OwnLine :=
  let change := planSyslogChange old new who
  (if change.toNew ≠ "" then [⟨"INFO", change.toNew, true⟩] else [])
    ++ (if change.onBoard ≠ "" then [⟨"INFO", change.onBoard, false⟩] else [])

namespace Observer

def initial : Observer where
  inForce := syslogDefaults
  waiting := none
  linked := false
  literal := none
  address := none
  name := none
  timed := none
  asked := none
  unresolved := false
  state := .disabled
  due := []
  counts := (0, 0)
  shown := (0, 0)

/-- Where datagrams go. -/
def destination (o : Observer) : Option IPAddress := o.literal.or o.address

/-- The state after a round of an output in use. -/
def roundState (networkUp : Bool) (o : Observer) : SyslogState :=
  if networkUp then if o.state = .waiting ∧ o.destination.isSome then .ready else o.state
  else if o.state = .error then .error else .waiting

def see (o : Observer) : SyslogEffect → Observer
  | .configured settings who => { o with waiting := some (settings.sanitize, who) }
  | .applied settings literal =>
      { o with
        inForce := settings, waiting := none, literal, address := none, asked := none, unresolved := false
        state := if settings.enabled then .waiting else .disabled
        due := o.due ++ announced o.inForce settings ((o.waiting.map Prod.snd).getD "") }
  | .looked networkUp => { o with linked := networkUp }
  | .counted => { o with shown := o.counts }
  | .round networkUp => { o with linked := networkUp, state := o.roundState networkUp }
  | .named networkName => { o with name := some (if networkName = "" then kAppName else networkName) }
  | .asked _ now answer =>
      match answer.filter (· ≠ IPAddress.zero) with
      | some ip =>
          { o with
            address := some ip, asked := some (now, resolveRefreshMs), unresolved := false
            state := if o.state = .waiting then .ready else o.state }
      | none =>
          { o with
            asked := some (now, resolveRetryMs)
            unresolved := o.unresolved || o.address.isNone
            due := if o.address.isNone && !o.unresolved then o.due ++ [⟨"WARN", cannotResolve o.inForce.host, false⟩] else o.due }
  | .timed moment time => { o with timed := some (moment, time) }
  | .sent d =>
      let counts := if d.taken then (o.counts.1 + 1, o.counts.2) else (o.counts.1, o.counts.2 + 1)
      match d.cargo with
      | .notice _ => { o with counts }
      | .line _ =>
          { o with
            counts
            state := if d.taken then .active else .error
            due := if d.taken = true ∨ o.state = .error then o.due else o.due ++ [⟨"WARN", sendFailed d.settings d.ip, false⟩] }
  | .log level msg notice _ => { o with due := o.due.erase ⟨level, msg, notice⟩ }

end Observer

/-- To the server in force, at its own address or the last one that was given for its name. -/
structure Addressed (o : Observer) (d : Datagram) : Prop where
  linked : o.linked = true
  settings : d.settings = o.inForce
  enabled : o.inForce.enabled = true
  ip : o.destination = some d.ip

/-- The text of the line, with the time that the clock has just given for it, under the name of the board. -/
def Worded (o : Observer) (d : Datagram) : Prop :=
  ∃ hostname moment time, o.name = some hostname ∧ o.timed = some (moment, time) ∧
    match d.cargo with
    | .line record =>
        moment = record.uptimeMs ∧ d.text = message d.settings hostname (severityOf record) record.msg time
    | .notice msg => d.text = message d.settings hostname severityNotice msg.toList time

/-- It is tried four times at most, and not again once it is taken. -/
def Tried (d : Datagram) : Prop :=
  ∃ refused, d.attempts = List.replicate refused false ∧ refused ≤ 4
    ∨ d.attempts = List.replicate refused false ++ [true] ∧ refused < 4

/-- A line is not one the output has written about itself, and a notice tells the server in force that others will take its place. -/
def Proper (o : Observer) (d : Datagram) : Prop :=
  match d.cargo with
  | .line record => record.notice = false → tag.isPrefixOf record.msg = false
  | .notice msg => msg ≠ "" ∧ ∃ next who, o.waiting = some (next, who) ∧ msg = (planSyslogChange o.inForce next who).toOld

/-- What the output may do. -/
def Permitted (fromString : AddressReader) (o : Observer) : SyslogEffect → Prop
  | .applied settings literal => (∃ who, o.waiting = some (settings, who)) ∧ settings.Valid
      ∧ ∃ old, literal = literalOf fromString settings.host old
  | .round _ => o.inForce.enabled = true
  | .named _ => o.name = none ∧ o.linked = true
  | .asked host now _ => host = o.inForce.host ∧ o.literal = none ∧ o.inForce.enabled = true ∧ o.linked = true
      ∧ ∀ before wait, o.asked = some (before, wait) → wait ≤ now - before
  | .sent d => Addressed o d ∧ Worded o d ∧ Tried d ∧ Proper o d
  | .log level msg notice _ => ⟨level, msg, notice⟩ ∈ o.due
  | _ => True

/-! ### What the output knows of it -/

/-- What the observer knows is so. -/
structure Known (o : Observer) (s : SyslogOutput) : Prop where
  inForce : o.inForce = s.active
  valid : s.active.Valid
  waiting : o.waiting = s.pending
  validNext : ∀ next who, s.pending = some (next, who) → next.Valid
  literal : o.literal = if s.isLiteral then some s.ip else none
  address : s.isLiteral = false → o.address = if s.resolved then some s.ip else none
  enabled : s.resolved = true → s.active.enabled = true
  name : o.name = if s.hostname = "" then none else some s.hostname
  named : s.resolved = true → s.hostname ≠ ""
  asked : ∀ before wait, o.asked = some (before, wait) → s.nextResolve = before + wait ∧ wait.toNat ≤ 600000
  unresolved : s.isLiteral = false → o.unresolved = s.resolveFailing
  failing : o.state = .error ↔ s.sendFailing = true
  sending : s.sendFailing = true → s.resolved = true
  idle : s.isLiteral = false → s.resolved = false → s.active.enabled = true → o.state = .waiting

def Counts (counts : Nat × Nat) (stats : LogOutputStats) : Prop :=
  stats.sent = UInt32.ofNat counts.1 ∧ stats.failed = UInt32.ofNat counts.2

/-- The output and its observer agree, and the output shows what is so once it is in a state. -/
structure Agrees (o : Observer) (state : SyslogState) (s : SyslogOutput) : Prop where
  known : Known o s
  state : o.state = state
  copied : s.status.state = s.shownState
  shown : Counts o.shown s.status.stats

variable {fromString : AddressReader} {o : Observer} {state : SyslogState} {s : SyslogOutput}

/-- The effects are permitted one after the other, the observer agrees with the output after them, and every line that was due is written. -/
structure Accepted (fromString : AddressReader) (o : Observer) (effects : List SyslogEffect) (state : SyslogState)
    (s : SyslogOutput) : Prop where
  permitted : Along (Permitted fromString) Observer.see o effects
  agrees : Agrees (run Observer.see o effects) state s
  written : (run Observer.see o effects).due = []

theorem accepted_nil (h : Agrees o state s) (hdue : o.due = []) : Accepted fromString o [] state s := ⟨trivial, h, hdue⟩

theorem accepted_cons {e : SyslogEffect} {effects : List SyslogEffect} (he : Permitted fromString o e)
    (h : Accepted fromString (o.see e) effects state s) : Accepted fromString o (e :: effects) state s :=
  ⟨⟨he, h.permitted⟩, h.agrees, h.written⟩

theorem accepted_append {first second : List SyslogEffect} (hfirst : Along (Permitted fromString) Observer.see o first)
    (h : Accepted fromString (run Observer.see o first) second state s) : Accepted fromString o (first ++ second) state s := by
  constructor
  · exact (along_append first second).mpr ⟨hfirst, h.permitted⟩
  · rw [run_append]
    exact h.agrees
  · rw [run_append]
    exact h.written

/-! ### What is known of the rest -/

/-- The part of the observer that the output knows of. -/
def Observer.core (o : Observer) : Observer :=
  { o with linked := false, timed := none, due := [], counts := (0, 0), shown := (0, 0) }

/-- The part of the output that the observer knows of. -/
def core (s : SyslogOutput) : SyslogOutput :=
  { s with
    status := ⟨.disabled, "", "", ⟨0, 0, 0, 0⟩⟩, shownState := .disabled, shownError := "", filter := .initial
    stats := ⟨0, 0, 0, 0⟩, enabledAt := 0 }

theorem known_core_iff : Known o s ↔ Known o.core s.core := ⟨fun h => { h with }, fun h => { h with }⟩

/-- Whatever happens to the rest, it is known. -/
theorem Known.frame {o' : Observer} {s' : SyslogOutput} (h : Known o s) (ho : o'.core = o.core) (hs : s'.core = s.core) :
    Known o' s' := by
  rw [known_core_iff, ho, hs]
  exact known_core_iff.mp h

/-- The observer is told of another state, which is not better than the one of a name without an address. -/
theorem Known.moved (h : Known o s) {networkUp : Bool} (herror : state = .error ↔ o.state = .error)
    (hidle : o.state = .waiting → o.destination = none → state = .waiting) :
    Known { o with linked := networkUp, state } s :=
  { h with
    failing := herror.trans h.failing
    idle := fun hname hunresolved henabled => by
      refine hidle (h.idle hname hunresolved henabled) ?_
      rw [Observer.destination, h.literal, h.address hname, hname, hunresolved]
      rfl }

/-! ### States that are shown -/

section setState

variable (shown : SyslogState) (error : String)

theorem setState_eq : ∃ shownError status, s.setState shown error = { s with shownState := shown, shownError, status }
    ∧ status.stats = s.status.stats ∧ (s.status.state = s.shownState → status.state = shown) := by
  simp only [setState]
  split
  · rename_i h
    exact ⟨s.shownError, s.status, by rw [h.1], rfl, fun hcopied => hcopied.trans h.1.symm⟩
  · exact ⟨error, { s.status with state := shown, error }, rfl, rfl, fun _ => rfl⟩

@[simp] theorem stats_setState : (s.setState shown error).stats = s.stats := by
  obtain ⟨shownError, status, heq, -⟩ := setState_eq (s := s) shown error
  rw [heq]

@[simp] theorem filter_setState : (s.setState shown error).filter = s.filter := by
  obtain ⟨shownError, status, heq, -⟩ := setState_eq (s := s) shown error
  rw [heq]

@[simp] theorem resolved_setState : (s.setState shown error).resolved = s.resolved := by
  obtain ⟨shownError, status, heq, -⟩ := setState_eq (s := s) shown error
  rw [heq]

@[simp] theorem shownState_setState : (s.setState shown error).shownState = shown := by
  obtain ⟨shownError, status, heq, -⟩ := setState_eq (s := s) shown error
  rw [heq]

theorem agrees_setState (hknown : Known o s) (hstate : o.state = state) (hcopied : s.status.state = s.shownState)
    (hshown : Counts o.shown s.status.stats) : Agrees o state (s.setState shown error) := by
  obtain ⟨shownError, status, heq, hstats, hcopy⟩ := setState_eq (s := s) shown error
  rw [heq]
  refine ⟨hknown.frame rfl rfl, hstate, hcopy hcopied, ?_⟩
  rw [hstats]
  exact hshown

end setState

/-! ### Sending -/

theorem attempts_eq (socket : Nat → Bool) (tries : List Nat) :
    ∃ refused, attempts socket tries = List.replicate refused false ∧ refused ≤ tries.length
      ∨ attempts socket tries = List.replicate refused false ++ [true] ∧ refused < tries.length := by
  induction tries with
  | nil => exact ⟨0, Or.inl ⟨rfl, le_rfl⟩⟩
  | cons i rest ih =>
      simp only [attempts]
      split
      · exact ⟨0, Or.inr ⟨rfl, Nat.succ_pos _⟩⟩
      · obtain ⟨refused, ⟨heq, hle⟩ | ⟨heq, hlt⟩⟩ := ih
        · exact ⟨refused + 1, Or.inl ⟨by rw [heq, List.replicate_succ], Nat.succ_le_succ hle⟩⟩
        · exact ⟨refused + 1, Or.inr ⟨by rw [heq, List.replicate_succ, List.cons_append], Nat.succ_lt_succ hlt⟩⟩

theorem tried_sendDatagram (socket : Nat → Bool) (text : List Char) (ip : IPAddress) (cargo : Cargo) :
    Tried ⟨s.active, ip, text, s.sendDatagram socket text, cargo⟩ := by
  simp only [Tried, sendDatagram]
  split
  · exact ⟨0, Or.inl ⟨rfl, Nat.zero_le 4⟩⟩
  split
  · obtain ⟨refused, ⟨heq, hle⟩ | ⟨heq, hlt⟩⟩ := attempts_eq socket [0]
    · exact ⟨refused, Or.inl ⟨heq, hle.trans (by decide)⟩⟩
    · exact ⟨refused, Or.inr ⟨heq, hlt.trans (by decide)⟩⟩
  · exact attempts_eq socket [0, 1, 2, 3]

theorem destination_of_resolved (h : Known o s) (hresolved : s.resolved = true) : o.destination = some s.ip := by
  rw [Observer.destination, h.literal]
  cases hliteral : s.isLiteral with
  | true => rfl
  | false =>
      rw [h.address hliteral, hresolved]
      rfl

/-- A datagram of an output that is ready goes to the server in force. -/
theorem addressed_of_ready (h : Known o s) (hlinked : o.linked = true) (hresolved : s.resolved = true)
    (text : List Char) (tries : List Bool) (cargo : Cargo) : Addressed o ⟨s.active, s.ip, text, tries, cargo⟩ := by
  refine ⟨hlinked, h.inForce.symm, ?_, destination_of_resolved h hresolved⟩
  rw [h.inForce]
  exact h.enabled hresolved

theorem name_of_ready (h : Known o s) (hresolved : s.resolved = true) : o.name = some s.hostname := by
  rw [h.name, if_neg (h.named hresolved)]

theorem known_sent_line (h : Known o s) (hresolved : s.resolved = true) {d : Datagram} {record : LogRecord}
    (hline : d.cargo = .line record) : Known (o.see (.sent d)) { s with sendFailing := !d.taken } := by
  simp only [Observer.see, hline]
  cases d.taken with
  | true =>
      exact { h with
        failing := iff_of_false nofun nofun
        sending := nofun
        idle := fun _ hnot => absurd (hresolved.symm.trans hnot) (by decide) }
  | false =>
      exact { h with
        failing := iff_of_true rfl rfl
        sending := fun _ => hresolved
        idle := fun _ hnot => absurd (hresolved.symm.trans hnot) (by decide) }

theorem accepted_deliver (fromString : AddressReader) (h : Agrees o s.shownState s) (hdue : o.due = []) (hlinked : o.linked = true)
    (hresolved : s.resolved = true) (answers : DeliverAnswers) (record : LogRecord)
    (hown : record.notice = false → tag.isPrefixOf record.msg = false) :
    Accepted fromString o (s.deliver answers record).2.2 (s.deliver answers record).1.shownState (s.deliver answers record).1 := by
  simp only [deliver]
  generalize htime : answers.timeOf record.uptimeMs = time
  generalize htext : message s.active s.hostname (severityOf record) record.msg time = text
  generalize htries : s.sendDatagram answers.socket text = tries
  have htimed : Known (o.see (.timed record.uptimeMs time)) s := h.known.frame rfl rfl
  have hpermitted : Permitted fromString (o.see (.timed record.uptimeMs time))
      (.sent ⟨s.active, s.ip, text, tries, .line record⟩) := by
    refine ⟨addressed_of_ready htimed hlinked hresolved .., ?_, ?_, hown⟩
    · exact ⟨s.hostname, _, _, name_of_ready htimed hresolved, rfl, rfl, htext.symm⟩
    · rw [← htries]
      exact tried_sendDatagram ..
  have hknown := known_sent_line htimed hresolved (d := ⟨s.active, s.ip, text, tries, .line record⟩) rfl
  split
  · rename_i htaken
    refine accepted_cons trivial (accepted_cons hpermitted (accepted_nil ?_ ?_))
    · rw [htaken] at hknown
      rw [shownState_setState]
      refine agrees_setState .active "" hknown ?_ h.copied h.shown
      simp [Observer.see, htaken]
    · simp [Observer.see, htaken, hdue]
  rename_i hrefused
  rw [Bool.not_eq_true] at hrefused
  rw [hrefused] at hknown
  split
  · rename_i hworking
    have hcalm : o.state ≠ .error := by
      rw [ne_eq, h.known.failing, hworking]
      exact Bool.false_ne_true
    have hlast : ((o.see (.timed record.uptimeMs time)).see (.sent ⟨s.active, s.ip, text, tries, .line record⟩)).due
        = [⟨"WARN", sendFailed s.active s.ip, false⟩] := by
      simp [Observer.see, hrefused, hcalm, hdue]
    refine accepted_cons trivial (accepted_cons hpermitted (accepted_cons ?_ (accepted_nil ?_ ?_)))
    · simp [Permitted, hlast]
    · rw [shownState_setState]
      refine agrees_setState .error _ (hknown.frame rfl rfl) ?_ h.copied h.shown
      simp [Observer.see, hrefused]
    · simp [Observer.see, hrefused, hcalm, hdue]
  · rename_i hfailing
    have hsame : { s with sendFailing := true } = s := by
      rw [← eq_true_of_ne_false hfailing]
    have herror : o.state = .error := h.known.failing.mpr (eq_true_of_ne_false hfailing)
    rw [Bool.not_false, hsame] at hknown
    refine accepted_cons trivial (accepted_cons hpermitted (accepted_nil ⟨hknown, ?_, h.copied, h.shown⟩ ?_))
    · rw [← h.state, herror]
      simp [Observer.see, hrefused]
    · simp [Observer.see, hrefused, herror, hdue]

/-! ### New settings -/

theorem known_applied (o : Observer) {settings : SyslogSettings} {literal : Option IPAddress} (hactive : settings = s.active)
    (hvalid : settings.Valid) (hpending : s.pending = none) (hresolved : s.resolved = false)
    (hliteral : literal = if s.isLiteral then some s.ip else none) (hname : o.name = if s.hostname = "" then none else some s.hostname)
    (hsending : s.sendFailing = false) (hresolving : s.resolveFailing = false) :
    Known (o.see (.applied settings literal)) s := by
  subst hactive
  constructor
  case inForce => rfl
  case valid => exact hvalid
  case waiting => exact hpending.symm
  case validNext =>
    intro next who hnext
    exact absurd (hpending.symm.trans hnext) nofun
  case literal => exact hliteral
  case address =>
    intro _
    rw [hresolved]
    rfl
  case enabled => exact fun h => absurd (hresolved.symm.trans h) Bool.false_ne_true
  case name => exact hname
  case named => exact fun h => absurd (hresolved.symm.trans h) Bool.false_ne_true
  case asked => exact nofun
  case unresolved => exact fun _ => hresolving.symm
  case failing =>
    rw [hsending]
    refine iff_of_false ?_ Bool.false_ne_true
    simp only [Observer.see]
    split
    · exact nofun
    · exact nofun
  case sending => exact fun h => absurd (hsending.symm.trans h) Bool.false_ne_true
  case idle => exact fun _ _ henabled => if_pos henabled

def Writes (line : OwnLine) (e : SyslogEffect) : Prop := ∃ now, e = .log line.level line.msg line.notice now

theorem accepted_writes (h : Agrees o state s) {lines : List OwnLine} {effects : List SyslogEffect}
    (hlines : List.Forall₂ Writes lines effects) (hdue : o.due = lines) : Accepted fromString o effects state s := by
  induction hlines generalizing o with
  | nil => exact accepted_nil h hdue
  | @cons line e lines effects hwrites hrest ih =>
      obtain ⟨now, rfl⟩ := hwrites
      refine accepted_cons ?_ (ih ⟨h.known.frame rfl rfl, h.state, h.copied, h.shown⟩ ?_)
      · rw [Permitted, hdue]
        exact List.mem_cons_self
      · simp only [Observer.see, hdue]
        exact List.erase_cons_head ..

theorem forall₂_announced (old new : SyslogSettings) (who : String) (answers : PollAnswers) :
    List.Forall₂ Writes (announced old new who)
      ((if (planSyslogChange old new who).toNew ≠ "" then
          [SyslogEffect.log "INFO" (planSyslogChange old new who).toNew true answers.toNewAt] else [])
        ++ (if (planSyslogChange old new who).onBoard ≠ "" then
          [SyslogEffect.log "INFO" (planSyslogChange old new who).onBoard false answers.onBoardAt] else [])) := by
  simp only [announced]
  refine List.rel_append ?_ ?_
  · split
    · exact .cons ⟨_, rfl⟩ .nil
    · exact .nil
  · split
    · exact .cons ⟨_, rfl⟩ .nil
    · exact .nil

/-- What is told to the previous server, which changes nothing but the statistics. -/
theorem leave_spec (h : Known o s) {settings : SyslogSettings} {who : String} (hpending : s.pending = some (settings, who))
    (answers : PollAnswers) (hlinked : o.linked = answers.linkBefore) (hcounts : Counts o.counts s.stats) :
    ∃ stats effects, { s with pending := none }.leave answers (planSyslogChange s.active settings who).toOld
        = ({ s with pending := none, stats }, effects)
      ∧ Along (Permitted fromString) Observer.see o effects
      ∧ (run Observer.see o effects).core = o.core ∧ (run Observer.see o effects).shown = o.shown
      ∧ (run Observer.see o effects).due = o.due ∧ Counts (run Observer.see o effects).counts stats := by
  simp only [leave]
  split
  · rename_i htold
    obtain ⟨htold, -, hready⟩ := htold
    simp only [ready, Bool.and_eq_true] at hready
    obtain ⟨hresolved, hup⟩ := hready
    simp only [sendNow]
    generalize htext : message s.active s.hostname severityNotice
      (planSyslogChange s.active settings who).toOld.toList answers.noticeTime = text
    generalize htries : sendDatagram answers.noticeSocket text { s with pending := none } = tries
    have htimed : Known (o.see (.timed answers.noticeAt answers.noticeTime)) s := h.frame rfl rfl
    refine ⟨_, _, rfl, ⟨trivial, ⟨?_, ?_, ?_, ?_⟩, trivial⟩, rfl, rfl, rfl, ?_⟩
    · exact addressed_of_ready htimed (hlinked.trans hup) hresolved ..
    · exact ⟨s.hostname, _, _, name_of_ready htimed hresolved, rfl, htext.symm⟩
    · rw [← htries]
      exact tried_sendDatagram ..
    · refine ⟨htold, settings, who, h.waiting.trans hpending, ?_⟩
      show _ = (planSyslogChange o.inForce settings who).toOld
      rw [h.inForce]
    · simp only [run, List.foldl_cons, List.foldl_nil, Observer.see]
      split
      · simp [Counts, hcounts.1, hcounts.2, UInt32.ofNat_add]
      · simp [Counts, hcounts.1, hcounts.2, UInt32.ofNat_add]
  · exact ⟨s.stats, [], rfl, trivial, rfl, rfl, rfl, hcounts⟩

/-- The settings that waited are in force. -/
theorem agrees_takeUp (hname : o.name = if s.hostname = "" then none else some s.hostname) (hcopied : s.status.state = s.shownState)
    (hshown : Counts o.shown s.status.stats) {settings : SyslogSettings} (hvalid : settings.Valid) (hpending : s.pending = none)
    (answers : PollAnswers) :
    Agrees (o.see (.applied settings (literalOf fromString settings.host s.ip)))
      (s.takeUp fromString answers settings).shownState (s.takeUp fromString answers settings) := by
  simp only [takeUp, shownState_setState]
  exact agrees_setState _ _ (known_applied o rfl hvalid hpending rfl rfl hname rfl rfl) rfl hcopied hshown

theorem stats_takeUp (answers : PollAnswers) (settings : SyslogSettings) :
    (s.takeUp fromString answers settings).stats = s.stats := by
  simp only [takeUp, stats_setState]

/-- Neither a datagram nor new settings are among the effects. -/
def Quiet (effects : List SyslogEffect) : Prop :=
  ∀ e ∈ effects, (∀ d, e ≠ .sent d) ∧ ∀ settings literal, e ≠ .applied settings literal

theorem counts_quiet {effects : List SyslogEffect} (h : Quiet effects) : (run Observer.see o effects).counts = o.counts := by
  induction effects generalizing o with
  | nil => rfl
  | cons e rest ih =>
      rw [run_cons, ih fun e he => h e (List.mem_cons_of_mem _ he)]
      have he := (h e List.mem_cons_self).1
      cases e with
      | sent d => exact absurd rfl (he d)
      | asked host now answer =>
          simp only [Observer.see]
          split
          · rfl
          · rfl
      | _ => rfl

theorem quiet_of_writes {lines : List OwnLine} {effects : List SyslogEffect} (h : List.Forall₂ Writes lines effects) :
    Quiet effects := by
  induction h with
  | nil => exact List.forall_mem_nil _
  | cons hwrites _ ih =>
      obtain ⟨now, rfl⟩ := hwrites
      exact List.forall_mem_cons.mpr ⟨⟨nofun, nofun⟩, ih⟩

theorem accepted_apply (h : Agrees o s.shownState s) (hdue : o.due = []) (hcounts : Counts o.counts s.stats)
    {settings : SyslogSettings} {who : String} (hpending : s.pending = some (settings, who)) (answers : PollAnswers) :
    ∃ applied effects, { s with pending := none }.apply fromString answers settings who = (applied, effects)
      ∧ Accepted fromString o effects applied.shownState applied ∧ Counts (run Observer.see o effects).counts applied.stats := by
  simp only [apply]
  obtain ⟨stats, told, hleft, hpermitted, hcore, hshown, htold, hcounted⟩ := leave_spec (o := o.see (.looked answers.linkBefore))
    (h.known.frame rfl rfl) hpending answers rfl hcounts
  rw [hleft]
  dsimp only
  have hlines := forall₂_announced s.active settings who answers
  generalize (if (planSyslogChange s.active settings who).toNew ≠ "" then
      [SyslogEffect.log "INFO" (planSyslogChange s.active settings who).toNew true answers.toNewAt] else [])
    ++ (if (planSyslogChange s.active settings who).onBoard ≠ "" then
      [SyslogEffect.log "INFO" (planSyslogChange s.active settings who).onBoard false answers.onBoardAt] else []) = infos at hlines ⊢
  generalize hleaving : run Observer.see (o.see (.looked answers.linkBefore)) told = leaving at hpermitted hcore hshown htold hcounted
  have hknown : Known leaving s := h.known.frame hcore rfl
  have hwaiting : leaving.waiting = some (settings, who) := hknown.waiting.trans hpending
  have hvalid := hknown.validNext settings who hpending
  refine ⟨_, _, rfl, accepted_cons trivial (accepted_append hpermitted ?_), ?_⟩
  · rw [hleaving]
    have happlied : Agrees _ _ ({ s with pending := none, stats }.takeUp fromString answers settings) :=
      agrees_takeUp (s := { s with pending := none, stats }) hknown.name h.copied (hshown ▸ h.shown) hvalid rfl answers
    refine accepted_cons ⟨⟨who, hwaiting⟩, hvalid, s.ip, rfl⟩ (accepted_writes happlied hlines ?_)
    simp only [Observer.see, htold, hdue, hwaiting, hknown.inForce]
    rfl
  · rw [stats_takeUp, run_cons, run_append, hleaving, run_cons]
    rw [counts_quiet (quiet_of_writes hlines)]
    exact hcounted

/-! ### Names -/

/-- A deadline that is not ahead any more, at a clock that goes around, was set at least its span ago. -/
theorem le_of_not_ahead {now before wait : UInt32} (hspan : wait.toNat ≤ 600000)
    (h : ¬ (now - (before + wait)).toInt32 < 0) : wait ≤ now - before := by
  have hzero : ¬ (now - (before + wait)).toInt32 < (0 : UInt32).toInt32 := h
  rw [Clock.toInt32_lt_iff (by decide)] at hzero
  have hsub : now - (before + wait) = (now - before) - wait := by grind
  rw [hsub] at hzero
  by_contra hlt
  rw [UInt32.not_le, UInt32.lt_iff_toNat_lt] at hlt
  have hwrap : ((now - before) - wait).toNat = 2 ^ 32 - wait.toNat + (now - before).toNat := by
    rw [UInt32.toNat_sub, Nat.mod_eq_of_lt (by omega)]
  omega

/-- The state in which a round with a link leaves the output. -/
def settled (s : SyslogOutput) : SyslogState :=
  if s.shownState = .waiting ∧ (s.isLiteral = true ∨ s.resolved = true) then .ready else s.shownState

theorem destination_isSome_iff (h : Known o s) : o.destination.isSome = true ↔ s.isLiteral = true ∨ s.resolved = true := by
  rw [Observer.destination, h.literal]
  cases hliteral : s.isLiteral with
  | true => simp
  | false =>
      rw [h.address hliteral]
      cases s.resolved <;> simp

theorem known_unanswered (h : Known o s) (hname : s.isLiteral = false) (now : UInt32) {answer : Option IPAddress}
    (hnone : answer.filter (· ≠ IPAddress.zero) = none) :
    Known (o.see (.asked s.active.host now answer))
      { s with nextResolve := now + resolveRetryMs, resolveFailing := s.resolveFailing || !s.resolved } := by
  simp only [Observer.see, hnone]
  refine { h with asked := ?_, unresolved := fun _ => ?_ }
  · rintro before wait heq
    cases heq
    exact ⟨rfl, by decide⟩
  · rw [h.unresolved hname, h.address hname]
    cases s.resolved with
    | true => rfl
    | false => rfl

theorem known_answered (h : Known o s) (hname : s.isLiteral = false) (henabled : s.active.enabled = true)
    (hnamed : s.hostname ≠ "") (now : UInt32) {answer : Option IPAddress} {ip : IPAddress}
    (hsome : answer.filter (· ≠ IPAddress.zero) = some ip) :
    Known (o.see (.asked s.active.host now answer))
      { s with ip, resolved := true, resolveFailing := false, nextResolve := now + resolveRefreshMs } := by
  have hliteral : o.literal = none := by
    rw [h.literal, hname]
    rfl
  simp only [Observer.see, hsome]
  refine { h with
    literal := ?_, address := fun _ => rfl, enabled := fun _ => henabled, named := fun _ => hnamed, asked := ?_
    unresolved := fun _ => rfl, failing := ?_, sending := fun _ => rfl, idle := fun _ => nofun }
  · dsimp only
    rw [hliteral, hname]
    rfl
  · rintro before wait heq
    cases heq
    exact ⟨rfl, by decide⟩
  · rw [← h.failing]
    dsimp only
    split
    · rename_i hwaiting
      rw [hwaiting]
      exact iff_of_false nofun nofun
    · exact Iff.rfl

/-- A look-up that has failed: the last address is kept, and the first failure is told. -/
theorem accepted_failed (h : Agrees o s.settled s) (hdue : o.due = []) (hname : s.isLiteral = false)
    (henabled : s.active.enabled = true) (answers : PollAnswers) (now : UInt32) {answer : Option IPAddress}
    (hnone : answer.filter (· ≠ IPAddress.zero) = none) (hasked : Permitted fromString o (.asked s.active.host now answer)) :
    Accepted fromString o (resolve.failed answers now s (.asked s.active.host now answer)).2
      (resolve.failed answers now s (.asked s.active.host now answer)).1.settled
      (resolve.failed answers now s (.asked s.active.host now answer)).1 := by
  have hknown := known_unanswered h.known hname now hnone
  have hfirst : (o.address.isNone && !o.unresolved) = (!s.resolved && !s.resolveFailing) := by
    rw [h.known.address hname, h.known.unresolved hname]
    cases s.resolved <;> rfl
  have hnext : (o.see (.asked s.active.host now answer)).due
      = if (!s.resolved && !s.resolveFailing) = true then [⟨"WARN", cannotResolve s.active.host, false⟩] else [] := by
    simp only [Observer.see, hnone, hfirst, hdue, h.known.inForce, List.nil_append]
  have hstate : (o.see (.asked s.active.host now answer)).state = o.state := by
    simp only [Observer.see, hnone]
  have hshown : (o.see (.asked s.active.host now answer)).shown = o.shown := by
    simp only [Observer.see, hnone]
  simp only [resolve.failed]
  split
  · rename_i hquiet
    have hsame : (s.resolveFailing || !s.resolved) = s.resolveFailing := by
      obtain hresolved | hfailing := hquiet
      · rw [hresolved, Bool.not_true, Bool.or_false]
      · rw [hfailing, Bool.true_or]
    rw [hsame] at hknown
    refine accepted_cons hasked (accepted_nil ⟨hknown, ?_, h.copied, hshown ▸ h.shown⟩ ?_)
    · simp only [hstate, h.state, settled]
    · rw [hnext, if_neg]
      obtain hresolved | hfailing := hquiet
      · simp [hresolved]
      · simp [hfailing]
  · rename_i hloud
    have hresolved : s.resolved = false := Bool.eq_false_iff.mpr fun hr => hloud (Or.inl hr)
    have hfailing : s.resolveFailing = false := Bool.eq_false_iff.mpr fun hf => hloud (Or.inr hf)
    have hunresolved : (s.resolveFailing || !s.resolved) = true := by rw [hresolved, Bool.not_false, Bool.or_true]
    rw [hresolved, hfailing] at hnext
    rw [hunresolved] at hknown
    have hwaiting : (o.see (.asked s.active.host now answer)).state = .waiting :=
      hstate.trans (h.known.idle hname hresolved henabled)
    have hsettled (error : String) : (setState .waiting error
        { s with nextResolve := now + resolveRetryMs, resolveFailing := true }).settled = .waiting := by
      obtain ⟨shownError, status, heq, -⟩ :=
        setState_eq (s := { s with nextResolve := now + resolveRetryMs, resolveFailing := true }) .waiting error
      rw [heq]
      simp [settled, hname, hresolved]
    refine accepted_cons hasked (accepted_cons ?_ (accepted_nil ?_ ?_))
    · rw [Permitted, hnext]
      exact List.mem_singleton_self _
    · rw [hsettled]
      exact agrees_setState .waiting _ (hknown.frame rfl rfl) hwaiting h.copied (hshown ▸ h.shown)
    · simp only [Observer.see] at hnext ⊢
      rw [hnext]
      exact List.erase_cons_head ..

theorem accepted_resolve (fromString : AddressReader) (h : Agrees o s.settled s) (hdue : o.due = [])
    (henabled : s.active.enabled = true) (hlinked : o.linked = true) (hnamed : s.hostname ≠ "") (answers : PollAnswers)
    (now : UInt32) :
    Accepted fromString o (s.resolve answers now).2 (s.resolve answers now).1.settled (s.resolve answers now).1 := by
  simp only [resolve]
  split
  · rename_i hliteral
    have hknown : Known o { s with resolved := true } :=
      { h.known with
        address := fun hname => absurd (hliteral.symm.trans hname) (by decide)
        enabled := fun _ => henabled
        named := fun _ => hnamed
        sending := fun _ => rfl
        idle := fun _ => nofun }
    refine accepted_nil ⟨hknown, ?_, h.copied, h.shown⟩ hdue
    rw [h.state]
    simp only [settled, hliteral, true_or]
  rename_i hname
  rw [Bool.not_eq_true] at hname
  split
  · exact accepted_nil h hdue
  rename_i hahead
  have hasked : Permitted fromString o (.asked s.active.host now answers.resolvedTo) := by
    refine ⟨by rw [h.known.inForce], by rw [h.known.literal, hname]; rfl, by rw [h.known.inForce, henabled], hlinked,
      fun before wait heq => ?_⟩
    obtain ⟨hnext, hspan⟩ := h.known.asked before wait heq
    rw [hnext] at hahead
    exact le_of_not_ahead hspan hahead
  split
  · rename_i ip hanswer
    split
    · rename_i hzero
      exact accepted_failed h hdue hname henabled answers now (by simp [hanswer, hzero]) hasked
    · rename_i hreal
      have hsome : answers.resolvedTo.filter (· ≠ IPAddress.zero) = some ip := by simp [hanswer, hreal]
      obtain ⟨status, hstatus, hcopied, hstats⟩ : ∃ status,
          (if s.resolved = false ∨ ip ≠ s.ip then
            { s with
              status := { s.status with target := s.active.host ++ " (" ++ ip.text ++ "):" ++ toString s.active.port.toNat } }
          else s) = { s with status } ∧ status.state = s.shownState ∧ status.stats = s.status.stats := by
        split
        · exact ⟨_, rfl, h.copied, rfl⟩
        · exact ⟨s.status, rfl, h.copied, rfl⟩
      rw [hstatus]
      have hknown := known_answered h.known hname henabled hnamed now hsome
      refine accepted_cons hasked (accepted_nil ⟨hknown.frame rfl rfl, ?_, hcopied, ?_⟩ ?_)
      · simp only [Observer.see, hsome, h.state, settled]
        by_cases hwaiting : s.shownState = .waiting
        · simp only [hwaiting, true_and, or_true, ↓reduceIte]
          split
          · rfl
          · exact if_pos rfl
        · simp only [hwaiting, false_and, ↓reduceIte]
      · simp only [Observer.see, hsome, hstats]
        exact h.shown
      · simpa only [Observer.see, hsome] using hdue
  · rename_i hanswer
    exact accepted_failed h hdue hname henabled answers now (by simp [hanswer]) hasked

/-- The name is read once, with a link up. -/
theorem accepted_withName (fromString : AddressReader) (h : Agrees o state s) (hlinked : o.linked = true) (networkName : String) :
    Along (Permitted fromString) Observer.see o (s.withName networkName).2
      ∧ Agrees (run Observer.see o (s.withName networkName).2) state (s.withName networkName).1
      ∧ (run Observer.see o (s.withName networkName).2).due = o.due
      ∧ (run Observer.see o (s.withName networkName).2).linked = true
      ∧ (s.withName networkName).1.hostname ≠ "" ∧ (s.withName networkName).1.active = s.active
      ∧ (s.withName networkName).1.settled = s.settled := by
  simp only [withName]
  split
  · rename_i hunnamed
    have hnone : o.name = none := by rw [h.known.name, if_pos hunnamed]
    have hname : (if networkName = "" then kAppName else networkName) ≠ "" := by
      split
      · decide
      · assumption
    refine ⟨⟨⟨hnone, hlinked⟩, trivial⟩, ⟨?_, h.state, h.copied, h.shown⟩, rfl, hlinked, hname, rfl, rfl⟩
    exact { h.known with name := (if_neg hname).symm, named := fun _ => hname }
  · rename_i hname
    exact ⟨trivial, h, rfl, hlinked, hname, rfl, rfl⟩

/-- A literal address is known as soon as it is looked at. -/
theorem literal_resolve (answers : PollAnswers) (now : UInt32) (s : SyslogOutput) :
    (s.resolve answers now).1.isLiteral = true → (s.resolve answers now).1.resolved = true := by
  simp only [resolve]
  split
  · exact fun _ => rfl
  rename_i hname
  have hfailed (asked : SyslogEffect) : (resolve.failed answers now s asked).1.isLiteral = s.isLiteral := by
    simp only [resolve.failed]
    split
    · rfl
    · obtain ⟨shownError, status, heq, -⟩ := setState_eq
        (s := { s with nextResolve := now + resolveRetryMs, resolveFailing := true }) .waiting ("Cannot resolve " ++ s.active.host)
      rw [heq]
  split
  · exact fun hliteral => absurd hliteral hname
  split
  · split
    · exact fun hliteral => absurd ((hfailed _).symm.trans hliteral) hname
    · exact fun _ => rfl
  · exact fun hliteral => absurd ((hfailed _).symm.trans hliteral) hname

theorem accepted_connect (fromString : AddressReader) (h : Agrees o s.shownState s) (hdue : o.due = [])
    (henabled : s.active.enabled = true) (answers : PollAnswers) (now : UInt32) :
    Accepted fromString o (s.connect answers now).2 (s.connect answers now).1.shownState (s.connect answers now).1 := by
  have hround : Agrees (o.see (.round true)) s.settled s := by
    refine ⟨h.known.moved ?_ ?_, ?_, h.copied, h.shown⟩
    · simp only [Observer.roundState, ↓reduceIte]
      split
      · rename_i hwaiting
        rw [hwaiting.1]
        exact iff_of_false nofun nofun
      · exact Iff.rfl
    · intro hwaiting hnowhere
      simp [Observer.roundState, hwaiting, hnowhere]
    · simp only [Observer.see, Observer.roundState, settled, ↓reduceIte, h.state, destination_isSome_iff h.known]
  obtain ⟨hnaming, hnamed, hquiet, hlinked, hname, hactive, hsettled⟩ :=
    accepted_withName fromString hround rfl answers.networkName
  simp only [connect]
  generalize hboard : s.withName answers.networkName = board at hnaming hnamed hquiet hlinked hname hactive hsettled ⊢
  have haccepted := accepted_resolve fromString (hsettled ▸ hnamed) (hquiet.trans hdue) (hactive ▸ henabled)
    hlinked hname answers now
  have hliteral := literal_resolve answers now board.1
  generalize board.1.resolve answers now = resolved at haccepted hliteral ⊢
  have hstate : resolved.1.settled = if resolved.1.resolved = true ∧ resolved.1.shownState = .waiting then .ready
      else resolved.1.shownState := by
    simp only [settled]
    refine if_congr ⟨fun hready => ?_, fun hready => ⟨hready.2, Or.inr hready.1⟩⟩ rfl rfl
    exact ⟨hready.2.elim hliteral id, hready.1⟩
  have hagrees := haccepted.agrees
  refine accepted_cons ?_ (accepted_append hnaming ⟨haccepted.permitted, ?_, haccepted.written⟩)
  · rw [Permitted, h.known.inForce]
    exact henabled
  · rw [hstate] at hagrees
    split
    · rename_i hready
      rw [shownState_setState]
      rw [if_pos hready] at hagrees
      exact agrees_setState .ready "" hagrees.known hagrees.state hagrees.copied hagrees.shown
    · rename_i hready
      rw [if_neg hready] at hagrees
      exact hagrees

theorem accepted_refresh (h : Agrees o s.shownState s) (hdue : o.due = []) (hcounts : Counts o.counts s.stats)
    (answers : PollAnswers) (now : UInt32) :
    Accepted fromString o (s.refresh answers now).2 (s.refresh answers now).1.shownState (s.refresh answers now).1 := by
  simp only [refresh]
  have hcounted : Agrees (o.see .counted) s.shownState { s with status := { s.status with stats := s.stats } } :=
    ⟨h.known.frame rfl rfl, h.state, h.copied, hcounts⟩
  split
  · exact accepted_cons trivial (accepted_nil hcounted hdue)
  rename_i hon
  have henabled : s.active.enabled = true := eq_true_of_ne_false hon
  split
  · have hround : Known ((o.see .counted).see (.round false)) { s with status := { s.status with stats := s.stats } } := by
      refine hcounted.known.moved ?_ ?_
      · simp only [Observer.roundState, Bool.false_eq_true, ↓reduceIte]
        split
        · rename_i herror
          exact iff_of_true rfl herror
        · rename_i hcalm
          exact iff_of_false nofun hcalm
      · intro hwaiting _
        simp [Observer.roundState, hwaiting]
    have hstate : ((o.see .counted).see (.round false)).state = if s.shownState = .error then .error else .waiting := by
      rw [← h.state]
      rfl
    refine accepted_cons trivial (accepted_cons ?_ (accepted_nil ?_ hdue))
    · show o.inForce.enabled = true
      rw [h.known.inForce]
      exact henabled
    · split
      · rename_i hcalm
        rw [shownState_setState]
        rw [if_neg hcalm] at hstate
        exact agrees_setState .waiting _ hround hstate hcounted.copied hcounted.shown
      · rename_i herror
        rw [ne_eq, not_not] at herror
        rw [if_pos herror, ← herror] at hstate
        exact ⟨hround, hstate, hcounted.copied, hcounted.shown⟩
  · have hconnected := accepted_connect fromString
      (s := { s with status := { s.status with stats := s.stats } }) hcounted hdue henabled answers now
    exact accepted_cons trivial hconnected

/-- Nothing is sent while the name is looked up, and the statistics and the filter stay. -/
theorem resolve_quiet (s : SyslogOutput) (answers : PollAnswers) (now : UInt32) :
    Quiet (s.resolve answers now).2 ∧ (s.resolve answers now).1.stats = s.stats ∧ (s.resolve answers now).1.filter = s.filter := by
  have hfailed (asked : SyslogEffect) (hasked : Quiet [asked]) : Quiet (resolve.failed answers now s asked).2
      ∧ (resolve.failed answers now s asked).1.stats = s.stats ∧ (resolve.failed answers now s asked).1.filter = s.filter := by
    simp only [resolve.failed]
    split
    · exact ⟨hasked, rfl, rfl⟩
    · refine ⟨?_, stats_setState .., filter_setState ..⟩
      exact List.forall_mem_cons.mpr ⟨hasked asked (List.mem_singleton_self _), List.forall_mem_singleton.mpr ⟨nofun, nofun⟩⟩
  simp only [resolve]
  split
  · exact ⟨List.forall_mem_nil _, rfl, rfl⟩
  split
  · exact ⟨List.forall_mem_nil _, rfl, rfl⟩
  split
  · split
    · exact hfailed _ (List.forall_mem_singleton.mpr ⟨nofun, nofun⟩)
    · refine ⟨List.forall_mem_singleton.mpr ⟨nofun, nofun⟩, ?_⟩
      split <;> exact ⟨rfl, rfl⟩
  · exact hfailed _ (List.forall_mem_singleton.mpr ⟨nofun, nofun⟩)

theorem withName_quiet (networkName : String) (s : SyslogOutput) :
    Quiet (s.withName networkName).2 ∧ (s.withName networkName).1.stats = s.stats
      ∧ (s.withName networkName).1.filter = s.filter := by
  simp only [withName]
  split
  · exact ⟨List.forall_mem_singleton.mpr ⟨nofun, nofun⟩, rfl, rfl⟩
  · exact ⟨List.forall_mem_nil _, rfl, rfl⟩

theorem refresh_quiet (s : SyslogOutput) (answers : PollAnswers) (now : UInt32) :
    Quiet (s.refresh answers now).2 ∧ (s.refresh answers now).1.stats = s.stats ∧ (s.refresh answers now).1.filter = s.filter := by
  simp only [refresh]
  split
  · exact ⟨List.forall_mem_singleton.mpr ⟨nofun, nofun⟩, rfl, rfl⟩
  split
  · refine ⟨List.forall_mem_cons.mpr ⟨⟨nofun, nofun⟩, List.forall_mem_singleton.mpr ⟨nofun, nofun⟩⟩, ?_⟩
    split
    · exact ⟨stats_setState .., filter_setState ..⟩
    · exact ⟨rfl, rfl⟩
  · simp only [connect]
    obtain ⟨hnaming, hnamedStats, hnamedFilter⟩ :=
      withName_quiet answers.networkName { s with status := { s.status with stats := s.stats } }
    generalize withName answers.networkName { s with status := { s.status with stats := s.stats } } = board
      at hnaming hnamedStats hnamedFilter ⊢
    obtain ⟨hasking, hstats, hfilter⟩ := resolve_quiet board.1 answers now
    refine ⟨List.forall_mem_cons.mpr ⟨⟨nofun, nofun⟩, List.forall_mem_cons.mpr ⟨⟨nofun, nofun⟩, ?_⟩⟩, ?_⟩
    · exact List.forall_mem_append.mpr ⟨hnaming, hasking⟩
    rw [← hnamedStats, ← hnamedFilter, ← hstats, ← hfilter]
    split
    · exact ⟨stats_setState .., filter_setState ..⟩
    · exact ⟨rfl, rfl⟩

theorem accepted_poll (fromString : AddressReader) (h : Agrees o s.shownState s) (hdue : o.due = [])
    (hcounts : Counts o.counts s.stats) (answers : PollAnswers) (now : UInt32) :
    Accepted fromString o (s.poll fromString answers now).2 (s.poll fromString answers now).1.shownState
        (s.poll fromString answers now).1
      ∧ Counts (run Observer.see o (s.poll fromString answers now).2).counts (s.poll fromString answers now).1.stats := by
  simp only [poll]
  split
  · rename_i next who hpending
    obtain ⟨applied, effects, happly, haccepted, hcounted⟩ := accepted_apply h hdue hcounts hpending answers
    obtain ⟨hquiet, hstats, -⟩ := refresh_quiet applied answers now
    rw [happly]
    refine ⟨accepted_append haccepted.permitted (accepted_refresh haccepted.agrees haccepted.written hcounted answers now), ?_⟩
    dsimp only
    rw [run_append, hstats, counts_quiet hquiet]
    exact hcounted
  · obtain ⟨hquiet, hstats, -⟩ := refresh_quiet s answers now
    refine ⟨accepted_refresh h hdue hcounts answers now, ?_⟩
    rw [hstats, counts_quiet hquiet]
    exact hcounts

/-! ### Lines -/

/-- A delivery is one datagram for the line, whose answer is given and counted. -/
theorem deliver_effects (s : SyslogOutput) (answers : DeliverAnswers) (record : LogRecord) :
    (s.deliver answers record).1.resolved = s.resolved
      ∧ (∀ o, (run Observer.see o (s.deliver answers record).2.2).linked = o.linked)
      ∧ ∀ o out, Counts o.counts out.stats → Counts (run Observer.see o (s.deliver answers record).2.2).counts
        (LogFanout.send (s.deliver answers record).2.1 out).stats := by
  simp only [deliver]
  split
  · rename_i htaken
    refine ⟨by simp, fun _ => rfl, fun o out h => ?_⟩
    simp [run, Observer.see, htaken, Counts, LogFanout.send, h.1, h.2, UInt32.ofNat_add]
  rename_i hrefused
  split
  · refine ⟨by simp, fun _ => rfl, fun o out h => ?_⟩
    simp [run, Observer.see, hrefused, Counts, LogFanout.send, h.1, h.2, UInt32.ofNat_add]
  · refine ⟨rfl, fun _ => rfl, fun o out h => ?_⟩
    simp [run, Observer.see, hrefused, Counts, LogFanout.send, h.1, h.2, UInt32.ofNat_add]

theorem agrees_withOutput (h : Agrees o state s) (out : LogOutput) : Agrees o state (s.withOutput out) :=
  ⟨h.known.frame rfl rfl, h.state, h.copied, h.shown⟩

/-- What becomes of a line that the log task hands to the output. -/
theorem accepted_line (fromString : AddressReader) (h : Agrees o s.shownState s) (hdue : o.due = [])
    (hcounts : Counts o.counts s.stats) {networkUp : Bool} (hlinked : o.linked = networkUp)
    (toSummary toLine : DeliverAnswers) (record : LogRecord) (now : UInt32) :
    ∃ out outcomes after effects, LogFanout.deliverWith deliver toSummary toLine record now (s.output networkUp) s
        = ((out, outcomes), after, effects)
      ∧ Accepted fromString o effects (after.withOutput out).shownState (after.withOutput out)
      ∧ Counts (run Observer.see o effects).counts (after.withOutput out).stats := by
  have hnothing (out : LogOutput) : Accepted fromString o [] (s.withOutput out).shownState (s.withOutput out) :=
    accepted_nil (agrees_withOutput h out) hdue
  simp only [LogFanout.deliverWith]
  split
  · exact ⟨_, _, _, _, rfl, hnothing _, hcounts⟩
  split
  · exact ⟨_, _, _, _, rfl, hnothing _, hcounts⟩
  rename_i hown
  split
  · exact ⟨_, _, _, _, rfl, hnothing _, hcounts⟩
  rename_i hready
  rw [Bool.not_eq_false] at hready
  simp only [output, ready, Bool.and_eq_true] at hready
  obtain ⟨hresolved, hup⟩ := hready
  have hplain : record.notice = false → tag.isPrefixOf record.msg = false := by
    intro hnotice
    by_contra hprefix
    rw [Bool.not_eq_false] at hprefix
    refine hown ⟨hnotice, ?_⟩
    simp only [LogFanout.isOwnLine, output, hprefix, Bool.and_true]
    decide
  obtain ⟨-, -, hcounted⟩ := deliver_effects s toLine record
  have haccepted := accepted_deliver fromString h hdue (hlinked.trans hup) hresolved toLine record hplain
  have hgiven (out : LogOutput) : Accepted fromString o (s.deliver toLine record).2.2
      ((s.deliver toLine record).1.withOutput out).shownState ((s.deliver toLine record).1.withOutput out) :=
    ⟨haccepted.permitted, agrees_withOutput haccepted.agrees out, haccepted.written⟩
  split
  · exact ⟨_, _, _, _, rfl, hgiven _, hcounted o (s.output networkUp) hcounts⟩
  cases LogOutputFilter.check record.level now (s.output networkUp).filter with
  | mk decision filter =>
      cases decision with
      | belowLevel => exact ⟨_, _, _, _, rfl, hnothing _, hcounts⟩
      | rateLimited => exact ⟨_, _, _, _, rfl, hnothing _, hcounts⟩
      | send =>
          dsimp only
          by_cases hmissed : 0 < (LogOutputFilter.takeSuppressed filter).1
          · -- the lines that were refused are told of first
            rw [if_pos hmissed]
            simp only [LogOutputFilter.takeSuppressed]
            generalize hsummary : LogFanout.summary filter.suppressed filter.rate record = total
            have htotal : total.notice = false → tag.isPrefixOf total.msg = false := by
              intro _
              rw [← hsummary]
              rfl
            have hfirst := accepted_deliver fromString h hdue (hlinked.trans hup) hresolved toSummary total htotal
            obtain ⟨hstays, hlink, hcountedFirst⟩ := deliver_effects s toSummary total
            obtain ⟨-, -, hcountedLine⟩ := deliver_effects (s.deliver toSummary total).1 toLine record
            have hline := accepted_deliver fromString hfirst.agrees hfirst.written
              ((hlink o).trans (hlinked.trans hup)) (hstays.trans hresolved) toLine record hplain
            refine ⟨_, _, _, _, rfl, accepted_append hfirst.permitted
              ⟨hline.permitted, agrees_withOutput hline.agrees _, hline.written⟩, ?_⟩
            rw [run_append]
            exact hcountedLine _ _ (hcountedFirst o { s.output networkUp with filter := { filter with suppressed := 0 } } hcounts)
          · rw [if_neg hmissed]
            simp only [LogOutputFilter.takeSuppressed]
            exact ⟨_, _, _, _, rfl, hgiven _,
              hcounted o { s.output networkUp with filter := { filter with suppressed := 0 } } hcounts⟩

end SyslogOutput

namespace RemoteLog

open SyslogOutput

/-! ### Runs -/

/-- The log and all that its output has done. -/
structure Trace where
  system : RemoteLog
  effects : List SyslogEffect

namespace Trace

def initial (memory : Vector LogMessage AppLogger.maxLogs) (ip : IPAddress) : Trace := ⟨RemoteLog.initial memory ip, []⟩

def step (fromString : AddressReader) (t : Trace) (e : RemoteEvent) : Trace :=
  ⟨(t.system.step fromString e).1, t.effects ++ (t.system.step fromString e).2⟩

def observer (t : Trace) : Observer := run Observer.see Observer.initial t.effects

end Trace

@[simp] theorem syslog_foldl_log (effects : List SyslogEffect) (r : RemoteLog) : (effects.foldl log r).syslog = r.syslog := by
  induction effects generalizing r with
  | nil => rfl
  | cons e rest ih =>
      rw [List.foldl_cons, ih]
      cases e <;> rfl

variable {fromString : AddressReader} {t : Trace}

/-- What the observer saw was permitted, and it agrees with the output. -/
structure Watched (fromString : AddressReader) (t : Trace) : Prop where
  accepted : Accepted fromString Observer.initial t.effects t.system.syslog.shownState t.system.syslog
  counts : Counts t.observer.counts t.system.syslog.stats

/-- A step whose effects are permitted after those before. -/
theorem watched_of_accepted (h : Watched fromString t) {effects : List SyslogEffect} {r : RemoteLog}
    (haccepted : Accepted fromString t.observer effects r.syslog.shownState r.syslog)
    (hcounts : Counts (run Observer.see t.observer effects).counts r.syslog.stats) :
    Watched fromString ⟨r, t.effects ++ effects⟩ := by
  refine ⟨accepted_append h.accepted.permitted haccepted, ?_⟩
  simp only [Trace.observer, run_append]
  exact hcounts

theorem watched_deliver (h : Watched fromString t) (answers : LineAnswers) (record : LogRecord) (now : UInt32) {r : RemoteLog}
    (hr : r.syslog = t.system.syslog) :
    Watched fromString ⟨(r.deliver answers record now).1, t.effects ++ (r.deliver answers record now).2⟩ := by
  have hagrees := h.accepted.agrees
  have hlooked : Agrees (t.observer.see (.looked answers.networkUp)) t.system.syslog.shownState t.system.syslog :=
    ⟨hagrees.known.frame rfl rfl, hagrees.state, hagrees.copied, hagrees.shown⟩
  have hlinked : (t.observer.see (.looked answers.networkUp)).linked = answers.networkUp := rfl
  obtain ⟨out, outcomes, after, effects, heq, haccepted, hcounts⟩ :=
    accepted_line fromString hlooked h.accepted.written h.counts hlinked answers.toSummary answers.toLine record now
  simp only [deliver, hr, heq]
  refine watched_of_accepted h ?_ ?_
  · rw [syslog_foldl_log]
    exact accepted_cons trivial haccepted
  · rw [syslog_foldl_log]
    exact hcounts

theorem watched_configure (h : Watched fromString t) (settings : SyslogSettings) (who : String) :
    Watched fromString (t.step fromString (.configure settings who)) := by
  have hagrees := h.accepted.agrees
  have hknown : Known (t.observer.see (.configured settings who)) (t.system.syslog.configure settings who) := by
    refine { hagrees.known with waiting := rfl, validNext := ?_ }
    rintro next author heq
    cases heq
    exact SyslogSettings.valid_sanitize settings
  exact watched_of_accepted h
    (accepted_cons trivial (accepted_nil ⟨hknown, hagrees.state, hagrees.copied, hagrees.shown⟩ h.accepted.written)) h.counts

theorem watched_of_quiet (h : Watched fromString t) {r : RemoteLog} (hr : r.syslog = t.system.syslog) :
    Watched fromString ⟨r, t.effects ++ []⟩ := by
  refine watched_of_accepted h ?_ ?_
  · rw [hr]
    exact accepted_nil h.accepted.agrees h.accepted.written
  · rw [hr]
    exact h.counts

theorem watched_step (t : Trace) (e : RemoteEvent) (h : Watched fromString t) : Watched fromString (t.step fromString e) := by
  cases e with
  | write level msg notice now => exact watched_of_quiet h rfl
  | configure settings who => exact watched_configure h settings who
  | poll now answers =>
      simp only [Trace.step, step]
      split
      · obtain ⟨haccepted, hcounts⟩ := accepted_poll fromString h.accepted.agrees h.accepted.written h.counts
          answers now
        refine watched_of_accepted h ?_ ?_
        · rw [syslog_foldl_log]
          exact haccepted
        · rw [syslog_foldl_log]
          exact hcounts
      · exact watched_of_quiet h rfl
  | report answers =>
      simp only [Trace.step, step]
      split
      · split
        · exact watched_deliver h answers _ _ rfl
        · exact watched_of_quiet h rfl
      · exact watched_of_quiet h rfl
  | hold networkUp =>
      simp only [Trace.step, step]
      split
      · exact watched_of_quiet h rfl
      · exact watched_of_quiet h rfl
  | take now answers =>
      simp only [Trace.step, step]
      split
      · split
        · exact watched_of_quiet h rfl
        · exact watched_deliver h answers _ _ rfl
      · exact watched_of_quiet h rfl

theorem watched_initial (memory : Vector LogMessage AppLogger.maxLogs) (ip : IPAddress) :
    Watched fromString (Trace.initial memory ip) := by
  refine ⟨accepted_nil ⟨?_, rfl, rfl, rfl, rfl⟩ rfl, rfl, rfl⟩
  constructor
  case inForce => rfl
  case valid => exact SyslogSettings.valid_defaults
  case waiting => rfl
  case validNext => exact nofun
  case literal => rfl
  case address => exact fun _ => rfl
  case enabled => exact nofun
  case name => rfl
  case named => exact nofun
  case asked => exact nofun
  case unresolved => exact fun _ => rfl
  case failing => exact iff_of_false nofun nofun
  case sending => exact nofun
  case idle => exact nofun

/-- The observer is told of new settings, and of every round of the log task. -/
def Reported (fromString : AddressReader) (t : Trace) : RemoteEvent → Prop
  | .configure settings who => SyslogEffect.configured settings who ∈ (t.system.step fromString (.configure settings who)).2
  | .poll now answers => t.system.dispatcher.stage = .waiting →
      SyslogEffect.counted ∈ (t.system.step fromString (.poll now answers)).2
  | _ => True

theorem counted_mem_refresh (s : SyslogOutput) (answers : PollAnswers) (now : UInt32) :
    SyslogEffect.counted ∈ (s.refresh answers now).2 := by
  simp only [refresh]
  split
  · exact List.mem_cons_self
  split
  · exact List.mem_cons_self
  · exact List.mem_cons_self

theorem reported (t : Trace) (e : RemoteEvent) : Reported fromString t e := by
  cases e with
  | configure settings who => exact List.mem_singleton_self _
  | poll now answers =>
      intro hwaiting
      simp only [step, hwaiting, poll]
      split
      · exact List.mem_append_right _ (counted_mem_refresh ..)
      · exact counted_mem_refresh ..
  | write level msg notice now => trivial
  | report answers => trivial
  | hold networkUp => trivial
  | take now answers => trivial

/-- What the server and the web interface are told is so. -/
structure Honest (fromString : AddressReader) (t : Trace) : Prop where
  /-- only what is permitted is done -/
  permitted : Along (Permitted fromString) Observer.see Observer.initial t.effects
  /-- each line about the output that was due is written -/
  written : t.observer.due = []
  inForce : t.system.syslog.active = t.observer.inForce
  state : t.system.syslog.status.state = t.observer.state
  counts : Counts t.observer.counts t.system.syslog.stats
  shown : Counts t.observer.shown t.system.syslog.status.stats

end RemoteLog

end EspNut
