import EspNut.Log.Datagrams
import EspNut.Log.Delivery

/-!
# The lines that the datagrams carry

The log with its syslog output does what the log does with any output: each of its steps is matched by steps of that system, in which the output is enabled and ready whenever this one is, and the transport answers as the datagrams were taken. What holds there of every line, from the task that wrote it to the output, therefore holds of the datagrams.
-/

namespace EspNut

open Lib

namespace LogFanout

/-- What a transport was handed, with its answers. -/
def handed (outcomes : List Outcome) : List (LogRecord × Bool) :=
  outcomes.filterMap fun
    | .handed _ record accepted => some (record, accepted)
    | .refused => none

@[simp] theorem handed_append (first second : List Outcome) : handed (first ++ second) = handed first ++ handed second :=
  List.filterMap_append ..

/-- Two outputs that only differ in their statistics. -/
def Alike (out other : LogOutput) : Prop := { out with stats := other.stats } = other

/-- The statistics decide nothing. -/
theorem deliverTo_alike {out other : LogOutput} (h : Alike out other) (record : LogRecord) (now : UInt32) (transport : Transport) :
    (deliverTo record now transport out).2 = (deliverTo record now transport other).2
      ∧ Alike (deliverTo record now transport out).1 (deliverTo record now transport other).1 := by
  obtain ⟨tag, enabled, ready, enabledAt, filter, stats⟩ := other
  cases h
  have hown : isOwnLine { out with stats } record = isOwnLine out record := rfl
  have hsend (accepted : Bool) (first second : LogOutput) (hsame : Alike first second) :
      Alike (send accepted first) (send accepted second) := by
    cases accepted with
    | true => exact congrArg (fun other => { other with stats := (send true second).stats }) hsame
    | false => exact congrArg (fun other => { other with stats := (send false second).stats }) hsame
  simp only [deliverTo, deliverWith, hown]
  split
  · exact ⟨rfl, rfl⟩
  split
  · exact ⟨rfl, rfl⟩
  split
  · exact ⟨rfl, rfl⟩
  split
  · exact ⟨rfl, hsend _ _ _ rfl⟩
  cases LogOutputFilter.check record.level now out.filter with
  | mk decision filter =>
      cases decision with
      | belowLevel => exact ⟨rfl, rfl⟩
      | rateLimited => exact ⟨rfl, rfl⟩
      | send =>
          by_cases hmissed : 0 < filter.suppressed
          · simp only [LogOutputFilter.takeSuppressed, hmissed, ↓reduceIte]
            exact ⟨trivial, hsend _ _ _ (hsend _ _ _ rfl)⟩
          · simp only [LogOutputFilter.takeSuppressed, hmissed, ↓reduceIte]
            exact ⟨trivial, hsend _ _ _ rfl⟩

end LogFanout

namespace RemoteLog

open SyslogOutput LogFanout Logging

/-! ### What was sent -/

/-- The lines for which datagrams were sent, and whether these were taken. -/
def deliveries (effects : List SyslogEffect) : List (LogRecord × Bool) :=
  effects.filterMap fun
    | .sent datagram =>
        match datagram.cargo with
        | .line record => some (record, datagram.taken)
        | .notice _ => none
    | _ => none

@[simp] theorem deliveries_append (first second : List SyslogEffect) :
    deliveries (first ++ second) = deliveries first ++ deliveries second := List.filterMap_append ..

theorem deliveries_of_quiet {effects : List SyslogEffect} (h : Quiet effects) : deliveries effects = [] := by
  refine List.filterMap_eq_nil_iff.mpr fun e he => ?_
  cases e with
  | sent d => exact absurd rfl ((h _ he).1 d)
  | _ => rfl

/-- A line that is handed to the output is one datagram, with the output's answer. -/
theorem deliveries_deliver (answers : DeliverAnswers) (record : LogRecord) (s : SyslogOutput) :
    deliveries (s.deliver answers record).2.2 = [(record, (s.deliver answers record).2.1)] := by
  simp only [SyslogOutput.deliver]
  split
  · rename_i htaken
    simp [deliveries, htaken]
  rename_i hrefused
  split
  · simp [deliveries, hrefused]
  · simp [deliveries, hrefused]

/-- The answers to the lines that were sent: to a summary and to the line itself, or to the line alone. -/
def answered (effects : List SyslogEffect) : Transport :=
  match deliveries effects with
  | [(_, acceptsSummary), (_, acceptsLine)] => ⟨acceptsSummary, acceptsLine⟩
  | [(_, acceptsLine)] => ⟨false, acceptsLine⟩
  | _ => ⟨false, false⟩

/-- The log task's output is that of a transport which answers as the datagrams are taken. -/
theorem deliverWith_matched (toSummary toLine : DeliverAnswers) (record : LogRecord) (now : UInt32) (out : LogOutput)
    (s : SyslogOutput) :
    (deliverWith SyslogOutput.deliver toSummary toLine record now out s).1
        = deliverTo record now (answered (deliverWith SyslogOutput.deliver toSummary toLine record now out s).2.2) out
      ∧ deliveries (deliverWith SyslogOutput.deliver toSummary toLine record now out s).2.2
        = handed (deliverWith SyslogOutput.deliver toSummary toLine record now out s).1.2 := by
  generalize hwith : deliverWith SyslogOutput.deliver toSummary toLine record now out s = delivered
  generalize hto : deliverTo record now (answered delivered.2.2) out = expected
  rw [deliverWith] at hwith
  rw [deliverTo, deliverWith] at hto
  by_cases hoff : out.enabled = false
  · rw [if_pos hoff] at hwith hto
    subst hwith hto
    exact ⟨rfl, rfl⟩
  rw [if_neg hoff] at hwith hto
  by_cases hown : record.notice = false ∧ isOwnLine out record = true
  · rw [if_pos hown] at hwith hto
    subst hwith hto
    exact ⟨rfl, rfl⟩
  rw [if_neg hown] at hwith hto
  by_cases hdown : out.ready = false
  · rw [if_pos hdown] at hwith hto
    subst hwith hto
    exact ⟨rfl, rfl⟩
  rw [if_neg hdown] at hwith hto
  by_cases hnotice : record.notice = true
  · rw [if_pos hnotice] at hwith hto
    subst hwith hto
    simp only [answered, deliveries_deliver]
    exact ⟨rfl, rfl⟩
  rw [if_neg hnotice] at hwith hto
  cases hcheck : LogOutputFilter.check record.level now out.filter with
  | mk decision filter =>
      rw [hcheck] at hwith hto
      cases decision with
      | belowLevel =>
          subst hwith hto
          exact ⟨rfl, rfl⟩
      | rateLimited =>
          subst hwith hto
          exact ⟨rfl, rfl⟩
      | send =>
          by_cases hmissed : 0 < filter.suppressed
          · simp only [LogOutputFilter.takeSuppressed, hmissed, ↓reduceIte] at hwith hto
            subst hwith hto
            simp only [answered, deliveries_append, deliveries_deliver]
            exact ⟨rfl, rfl⟩
          · simp only [LogOutputFilter.takeSuppressed, hmissed, ↓reduceIte] at hwith hto
            subst hwith hto
            simp only [answered, deliveries_deliver]
            exact ⟨rfl, rfl⟩

/-! ### The steps that match -/

/-- The output as the log task finds it. -/
def seen (networkUp : Bool) (s : SyslogOutput) : LogEvent :=
  .changed 0 (.polled s.active.enabled (s.ready networkUp) s.enabledAt)

/-- A step of the log's tasks beside the other log: whenever the output is asked for, the other one is as this one is, and it answers as the datagrams are taken. -/
def taskMoves (r : RemoteLog) (effects : List SyslogEffect) : RemoteEvent → List LogEvent
  | .write level msg notice now => [.write level msg notice now]
  | .configure _ _ => []
  | .poll now _ => [.poll now]
  | .report answers => [seen answers.networkUp r.syslog, .report fun _ => answered effects]
  | .hold networkUp => [seen networkUp r.syslog, .hold]
  | .take now answers => [seen answers.networkUp r.syslog, .take now fun _ => answered effects]

/-- Settings that are taken up change the filter of the output, and what the output writes about itself is written. -/
def ownMoves (effects : List SyslogEffect) : List LogEvent :=
  effects.filterMap fun
    | .applied settings _ => some (.changed 0 (.configured settings.minLevel settings.rate.toNat))
    | .log level msg notice now => some (.write level (AppLogger.printed msg) notice now)
    | _ => none

/-- The steps of the log with any output that match a step of the log with its syslog output. -/
def moves (r : RemoteLog) (effects : List SyslogEffect) (e : RemoteEvent) : List LogEvent :=
  taskMoves r effects e ++ ownMoves effects

/-- The log with its output, and the lines for which datagrams were sent, beside the log with any output. -/
structure Follows (r : RemoteLog) (sent : List (LogRecord × Bool)) (a : Account) : Prop where
  logger : a.system.logger = r.logger
  dispatcher : a.system.dispatcher = r.dispatcher
  output : ∃ served : Served, a.system.outputs = [served] ∧ served.out.tag = tag ∧ served.out.filter = r.syslog.filter
    ∧ handed served.outcomes = sent

variable {r : RemoteLog} {sent : List (LogRecord × Bool)} {a : Account}

theorem follows_write (h : Follows r sent a) (level msg : String) (notice : Bool) (now : UInt32) :
    Follows (r.write level msg notice now) sent (accountStep a (.write level msg notice now)) := by
  have hsystem := system_accountStep a (.write level msg notice now)
  refine ⟨?_, ?_, ?_⟩
  · rw [hsystem]
    exact congrArg (fun logger => logger.write level msg now) h.logger
  · rw [hsystem]
    exact congrArg (fun dispatcher => dispatcher.submit (LogDispatcher.recordOf level msg notice now)) h.dispatcher
  · rw [hsystem]
    exact h.output

/-- The filter an output has after settings that were taken up among the effects. -/
def filterAfter (effects : List SyslogEffect) (filter : LogOutputFilter) : LogOutputFilter :=
  effects.foldl (fun filter e =>
    match e with
    | .applied settings _ => filter.configure settings.minLevel settings.rate.toNat
    | _ => filter) filter

theorem follows_own (h : Follows r sent a) (effects : List SyslogEffect) {syslog : SyslogOutput}
    (hfilter : syslog.filter = filterAfter effects r.syslog.filter) :
    Follows (effects.foldl log { r with syslog }) sent (run accountStep a (ownMoves effects)) := by
  induction effects generalizing r a with
  | nil =>
      obtain ⟨served, houtputs, htag, hsame, hsent⟩ := h.output
      exact ⟨h.logger, h.dispatcher, served, houtputs, htag, hsame.trans hfilter.symm, hsent⟩
  | cons e rest ih =>
      cases e with
      | log level msg notice now => exact ih (follows_write h level (AppLogger.printed msg) notice now) hfilter
      | applied settings literal =>
          obtain ⟨served, houtputs, htag, hsame, hsent⟩ := h.output
          refine ih (r := { r with syslog := { r.syslog with
            filter := r.syslog.filter.configure settings.minLevel settings.rate.toNat } }) ?_ hfilter
          refine ⟨h.logger, h.dispatcher, ⟨LogOutput.change served.out (.configured settings.minLevel settings.rate.toNat),
            served.outcomes⟩, ?_, htag, ?_, hsent⟩
          · simp [accountStep, Logging.step, Logging.give, Given.event, LogFanout.step, houtputs, serve]
          · exact congrArg (fun filter => filter.configure settings.minLevel settings.rate.toNat) hsame
      | _ => exact ih h hfilter

theorem follows_task (h : Follows r sent a) {e : LogEvent} {dispatcher : LogDispatcher}
    (hsystem : (a.system.step e).1 = { a.system with dispatcher }) : Follows { r with dispatcher } sent (accountStep a e) := by
  rw [← system_accountStep] at hsystem
  refine ⟨?_, ?_, ?_⟩
  · rw [hsystem]
    exact h.logger
  · rw [hsystem]
  · rw [hsystem]
    exact h.output

theorem follows_seen (h : Follows r sent a) (networkUp : Bool) :
    Follows r sent (accountStep a (seen networkUp r.syslog))
      ∧ ∃ served, (accountStep a (seen networkUp r.syslog)).system.outputs = [served]
        ∧ Alike (r.syslog.output networkUp) served.out := by
  obtain ⟨served, houtputs, htag, hfilter, hsent⟩ := h.output
  have hnext : (accountStep a (seen networkUp r.syslog)).system.outputs = [⟨LogOutput.change served.out
      (.polled r.syslog.active.enabled (r.syslog.ready networkUp) r.syslog.enabledAt), served.outcomes⟩] := by
    simp [accountStep, seen, Logging.step, Logging.give, Given.event, LogFanout.step, houtputs, serve]
  refine ⟨⟨h.logger, h.dispatcher, _, hnext, htag, hfilter, hsent⟩, _, hnext, ?_⟩
  simp only [Alike, SyslogOutput.output, LogOutput.change, htag, hfilter]

theorem tag_send (accepted : Bool) (out : LogOutput) : (send accepted out).tag = out.tag := by
  simp only [send]
  split <;> rfl

theorem tag_deliverTo (record : LogRecord) (now : UInt32) (transport : Transport) (out : LogOutput) :
    (deliverTo record now transport out).1.tag = out.tag := by
  simp only [deliverTo, deliverWith]
  split
  · rfl
  split
  · rfl
  split
  · rfl
  split
  · exact tag_send ..
  cases LogOutputFilter.check record.level now out.filter with
  | mk decision filter =>
      cases decision with
      | belowLevel => rfl
      | rateLimited => rfl
      | send =>
          by_cases hmissed : 0 < filter.suppressed
          · simp only [LogOutputFilter.takeSuppressed, hmissed, ↓reduceIte, tag_send]
          · simp only [LogOutputFilter.takeSuppressed, hmissed, ↓reduceIte, tag_send]

/-- Without new settings among them, the filter stays. -/
def Unapplied (effects : List SyslogEffect) : Prop := ∀ e ∈ effects, ∀ settings literal, e ≠ .applied settings literal

theorem filterAfter_of_unapplied {effects : List SyslogEffect} (h : Unapplied effects) (filter : LogOutputFilter) :
    filterAfter effects filter = filter := by
  induction effects with
  | nil => rfl
  | cons e rest ih =>
      have hrest := ih fun e he => h e (List.mem_cons_of_mem _ he)
      have he := h e List.mem_cons_self
      cases e with
      | applied settings literal => exact absurd rfl (he settings literal)
      | _ => exact hrest

theorem unapplied_deliver (answers : DeliverAnswers) (record : LogRecord) (s : SyslogOutput) :
    Unapplied (s.deliver answers record).2.2 := by
  simp only [SyslogOutput.deliver]
  split
  · simp [Unapplied]
  split
  · simp [Unapplied]
  · simp [Unapplied]

theorem unapplied_deliverWith (toSummary toLine : DeliverAnswers) (record : LogRecord) (now : UInt32) (out : LogOutput)
    (s : SyslogOutput) : Unapplied (deliverWith SyslogOutput.deliver toSummary toLine record now out s).2.2 := by
  simp only [deliverWith]
  split
  · exact List.forall_mem_nil _
  split
  · exact List.forall_mem_nil _
  split
  · exact List.forall_mem_nil _
  split
  · exact unapplied_deliver _ _ _
  cases LogOutputFilter.check record.level now out.filter with
  | mk decision filter =>
      cases decision with
      | belowLevel => exact List.forall_mem_nil _
      | rateLimited => exact List.forall_mem_nil _
      | send =>
          by_cases hmissed : 0 < filter.suppressed
          · simp only [LogOutputFilter.takeSuppressed, hmissed, ↓reduceIte]
            exact List.forall_mem_append.mpr ⟨unapplied_deliver _ _ _, unapplied_deliver _ _ _⟩
          · simp only [LogOutputFilter.takeSuppressed, hmissed, ↓reduceIte]
            exact unapplied_deliver _ _ _

/-- A line that comes to the output, as the log task finds it, comes to that of the other log. -/
theorem follows_deliver (h : Follows r sent a) {answers : LineAnswers} {served : Served} (houtputs : a.system.outputs = [served])
    (halike : Alike (r.syslog.output answers.networkUp) served.out) {dispatcher : LogDispatcher} (record : LogRecord) (now : UInt32)
    {after : RemoteLog × List SyslogEffect} (hafter : { r with dispatcher }.deliver answers record now = after) {b : Account}
    (hb : b.system = { a.system with
      dispatcher, outputs := LogFanout.step a.system.outputs (.line record now fun _ => answered after.2) }) :
    Follows after.1 (sent ++ deliveries after.2) (run accountStep b (ownMoves after.2)) := by
  obtain ⟨before, hbefore, -, -, hsent⟩ := h.output
  obtain rfl : served = before := List.singleton_inj.mp (houtputs.symm.trans hbefore)
  obtain ⟨hsame, hdeliveries⟩ := deliverWith_matched answers.toSummary answers.toLine record now
    (r.syslog.output answers.networkUp) r.syslog
  have hunapplied := unapplied_deliverWith answers.toSummary answers.toLine record now (r.syslog.output answers.networkUp) r.syslog
  simp only [deliver] at hafter
  generalize deliverWith SyslogOutput.deliver answers.toSummary answers.toLine record now (r.syslog.output answers.networkUp)
    r.syslog = delivered at hsame hdeliveries hunapplied hafter
  obtain ⟨⟨out, outcomes⟩, syslog, effects⟩ := delivered
  dsimp only at hsame hdeliveries hunapplied hafter
  subst hafter
  have hanswered : answered (.looked answers.networkUp :: effects) = answered effects := rfl
  obtain ⟨houtcomes, hstays⟩ := deliverTo_alike halike record now (answered effects)
  rw [hanswered] at hb
  have hbase : Follows { r with dispatcher, syslog := syslog.withOutput out } (sent ++ deliveries effects) b := by
    refine ⟨?_, ?_, ?_⟩
    · rw [hb]
      exact h.logger
    · rw [hb]
    · refine ⟨⟨(deliverTo record now (answered effects) served.out).1,
        served.outcomes ++ (deliverTo record now (answered effects) served.out).2⟩, ?_, ?_, ?_, ?_⟩
      · rw [hb, houtputs]
        rfl
      · rw [tag_deliverTo, ← halike]
        rfl
      · rw [← hstays, ← hsame]
        rfl
      · rw [handed_append, hsent, ← houtcomes, ← hsame, hdeliveries]
  exact follows_own hbase (.looked answers.networkUp :: effects) (filterAfter_of_unapplied hunapplied out.filter).symm

/-! ### Polling -/

theorem filterAfter_append (first second : List SyslogEffect) (filter : LogOutputFilter) :
    filterAfter (first ++ second) filter = filterAfter second (filterAfter first filter) := List.foldl_append

theorem unapplied_of_quiet {effects : List SyslogEffect} (h : Quiet effects) : Unapplied effects := fun e he => (h e he).2

theorem leave_effects (answers : PollAnswers) (toOld : String) (s : SyslogOutput) :
    deliveries (s.leave answers toOld).2 = [] ∧ Unapplied (s.leave answers toOld).2
      ∧ (s.leave answers toOld).1.filter = s.filter := by
  simp only [leave]
  split
  · exact ⟨rfl, by simp [Unapplied, sendNow], rfl⟩
  · exact ⟨rfl, List.forall_mem_nil _, rfl⟩

/-- Settings that are taken up change the filter, and send no line. -/
theorem apply_effects (fromString : AddressReader) (answers : PollAnswers) (settings : SyslogSettings) (who : String)
    (s : SyslogOutput) :
    deliveries (s.apply fromString answers settings who).2 = []
      ∧ (s.apply fromString answers settings who).1.filter = filterAfter (s.apply fromString answers settings who).2 s.filter := by
  obtain ⟨htold, hunapplied, hfilter⟩ := leave_effects answers (planSyslogChange s.active settings who).toOld s
  have hinfos := quiet_of_writes (forall₂_announced s.active settings who answers)
  simp only [apply]
  generalize s.leave answers (planSyslogChange s.active settings who).toOld = left at htold hunapplied hfilter ⊢
  constructor
  · show deliveries (left.2 ++ _) = []
    rw [deliveries_append, htold]
    show deliveries (_ ++ _) = []
    exact deliveries_of_quiet hinfos
  · simp only [takeUp, filter_setState]
    show _ = filterAfter (left.2 ++ _) s.filter
    rw [filterAfter_append, filterAfter_of_unapplied hunapplied, hfilter]
    exact (filterAfter_of_unapplied (unapplied_of_quiet hinfos) _).symm

theorem poll_effects (fromString : AddressReader) (answers : PollAnswers) (now : UInt32) (s : SyslogOutput) :
    deliveries (s.poll fromString answers now).2 = []
      ∧ (s.poll fromString answers now).1.filter = filterAfter (s.poll fromString answers now).2 s.filter := by
  simp only [poll]
  split
  · rename_i next who hpending
    obtain ⟨hsilent, hfilter⟩ := apply_effects fromString answers next who { s with pending := none }
    obtain ⟨hquiet, -, hsame⟩ := refresh_quiet ({ s with pending := none }.apply fromString answers next who).1 answers now
    dsimp only
    rw [deliveries_append, hsilent, deliveries_of_quiet hquiet, hsame, hfilter, filterAfter_append,
      filterAfter_of_unapplied (unapplied_of_quiet hquiet)]
    exact ⟨rfl, rfl⟩
  · obtain ⟨hquiet, -, hsame⟩ := refresh_quiet s answers now
    exact ⟨deliveries_of_quiet hquiet, hsame.trans (filterAfter_of_unapplied (unapplied_of_quiet hquiet) _).symm⟩

/-! ### Runs -/

variable {fromString : AddressReader}

def Matched (fromString : AddressReader) (r : RemoteLog) (sent : List (LogRecord × Bool)) (a : Account) (e : RemoteEvent) : Prop :=
  Follows (r.step fromString e).1 (sent ++ deliveries (r.step fromString e).2)
    (run accountStep a (moves r (r.step fromString e).2 e))

theorem follows_quiet (h : Follows r sent a) : Follows r (sent ++ deliveries []) (run accountStep a (ownMoves [])) := by
  rw [deliveries_of_quiet (List.forall_mem_nil _), List.append_nil]
  exact h

theorem matched_poll (h : Follows r sent a) (now : UInt32) (answers : PollAnswers) :
    Matched fromString r sent a (.poll now answers) := by
  simp only [Matched, moves, taskMoves, step]
  obtain ⟨logger, dispatcher, syslog⟩ := r
  obtain rfl : a.system.dispatcher = dispatcher := h.dispatcher
  split
  · rename_i hstage
    have hpolled : (a.system.step (.poll now)).1
        = { a.system with dispatcher := { a.system.dispatcher with stage := .polled now } } := by
      simp only [Logging.step, if_pos hstage]
    obtain ⟨hsilent, hfilter⟩ := poll_effects fromString answers now syslog
    dsimp only
    rw [hsilent, List.append_nil]
    exact follows_own (follows_task h hpolled) _ hfilter
  · rename_i hstage
    have hsame : (a.system.step (.poll now)).1 = { a.system with dispatcher := a.system.dispatcher } := by
      simp only [Logging.step, if_neg hstage]
    exact follows_quiet (follows_task h hsame)

theorem step_report {s : Logging} {now : UInt32} (hstage : s.dispatcher.stage = .polled now)
    (hdrops : s.dispatcher.queueDrops ≠ s.dispatcher.reportedDrops) (transports : Nat → Transport) :
    (s.step (.report transports)).1 = { s with
      dispatcher := { s.dispatcher with stage := .reported now, reportedDrops := s.dispatcher.queueDrops }
      outputs := LogFanout.step s.outputs
        (.line (LogDispatcher.lost (s.dispatcher.queueDrops - s.dispatcher.reportedDrops) now) now transports) } := by
  simp only [Logging.step, hstage, if_pos hdrops]
  rfl

theorem step_report_none {s : Logging} {now : UInt32} (hstage : s.dispatcher.stage = .polled now)
    (hdrops : ¬ s.dispatcher.queueDrops ≠ s.dispatcher.reportedDrops) (transports : Nat → Transport) :
    (s.step (.report transports)).1 = { s with dispatcher := { s.dispatcher with stage := .reported now } } := by
  simp only [Logging.step, hstage, if_neg hdrops]

theorem step_report_else {s : Logging} (hstage : ∀ now, s.dispatcher.stage = .polled now → False)
    (transports : Nat → Transport) : (s.step (.report transports)).1 = s := by
  simp only [Logging.step]

theorem step_hold {s : Logging} {now : UInt32} (hstage : s.dispatcher.stage = .reported now) :
    (s.step .hold).1 = { s with dispatcher := { s.dispatcher with
      stage := if shouldHold (s.outputs.map Served.out) now then .waiting else .released } } := by
  simp only [Logging.step, hstage]

theorem step_hold_else {s : Logging} (hstage : ∀ now, s.dispatcher.stage = .reported now → False) : (s.step .hold).1 = s := by
  simp only [Logging.step]

theorem step_take_none {s : Logging} (hstage : s.dispatcher.stage = .released) (hqueue : s.dispatcher.queue = []) (now : UInt32)
    (transports : Nat → Transport) :
    (s.step (.take now transports)).1 = { s with dispatcher := { s.dispatcher with stage := .waiting } } := by
  simp only [Logging.step, hstage, hqueue]

theorem step_take {s : Logging} (hstage : s.dispatcher.stage = .released) {record : LogRecord} {queue : List LogRecord}
    (hqueue : s.dispatcher.queue = record :: queue) (now : UInt32) (transports : Nat → Transport) :
    (s.step (.take now transports)).1 = { s with
      dispatcher := { s.dispatcher with stage := .waiting, queue }
      outputs := LogFanout.step s.outputs (.line record now transports) } := by
  simp only [Logging.step, hstage, hqueue]
  rfl

theorem step_take_else {s : Logging} (hstage : s.dispatcher.stage = .released → False) (now : UInt32)
    (transports : Nat → Transport) : (s.step (.take now transports)).1 = s := by
  simp only [Logging.step]

theorem matched_report (h : Follows r sent a) (answers : LineAnswers) : Matched fromString r sent a (.report answers) := by
  obtain ⟨hseen, served, houtputs, halike⟩ := follows_seen h answers.networkUp
  simp only [Matched, moves, taskMoves, List.cons_append, List.nil_append, run_cons]
  generalize accountStep a (seen answers.networkUp r.syslog) = b at hseen houtputs ⊢
  obtain ⟨logger, dispatcher, syslog⟩ := r
  obtain rfl : b.system.dispatcher = dispatcher := hseen.dispatcher
  simp only [step]
  split
  · rename_i now hstage
    split
    · rename_i hdrops
      refine follows_deliver hseen houtputs halike
        (LogDispatcher.lost (b.system.dispatcher.queueDrops - b.system.dispatcher.reportedDrops) now) now rfl ?_
      rw [system_accountStep]
      exact step_report hstage hdrops _
    · rename_i hnone
      exact follows_quiet (follows_task hseen (step_report_none hstage hnone _))
  · rename_i hstage
    exact follows_quiet (follows_task hseen (step_report_else hstage _))

theorem matched_hold (h : Follows r sent a) (networkUp : Bool) : Matched fromString r sent a (.hold networkUp) := by
  obtain ⟨hseen, served, houtputs, halike⟩ := follows_seen h networkUp
  simp only [Matched, moves, taskMoves, List.cons_append, List.nil_append, run_cons]
  generalize accountStep a (seen networkUp r.syslog) = b at hseen houtputs ⊢
  obtain ⟨logger, dispatcher, syslog⟩ := r
  obtain rfl : b.system.dispatcher = dispatcher := hseen.dispatcher
  have hsame (now : UInt32) : shouldHold [syslog.output networkUp] now = shouldHold (b.system.outputs.map Served.out) now := by
    rw [houtputs, List.map_singleton, ← halike]
    rfl
  simp only [step]
  split
  · rename_i now hstage
    rw [hsame]
    exact follows_quiet (follows_task hseen (step_hold hstage))
  · rename_i hstage
    exact follows_quiet (follows_task hseen (step_hold_else hstage))

theorem matched_take (h : Follows r sent a) (now : UInt32) (answers : LineAnswers) :
    Matched fromString r sent a (.take now answers) := by
  obtain ⟨hseen, served, houtputs, halike⟩ := follows_seen h answers.networkUp
  simp only [Matched, moves, taskMoves, List.cons_append, List.nil_append, run_cons]
  generalize accountStep a (seen answers.networkUp r.syslog) = b at hseen houtputs ⊢
  obtain ⟨logger, dispatcher, syslog⟩ := r
  obtain rfl : b.system.dispatcher = dispatcher := hseen.dispatcher
  simp only [step]
  split
  · rename_i hstage
    split
    · rename_i hqueue
      exact follows_quiet (follows_task hseen (step_take_none hstage hqueue now _))
    · rename_i record queue hqueue
      refine follows_deliver hseen houtputs halike record now rfl ?_
      rw [system_accountStep]
      exact step_take hstage hqueue now _
  · rename_i hstage
    exact follows_quiet (follows_task hseen (step_take_else hstage now _))

theorem matched_step (h : Follows r sent a) (e : RemoteEvent) : Matched fromString r sent a e := by
  cases e with
  | write level msg notice now => exact follows_quiet (follows_write h level msg notice now)
  | configure settings who =>
      have hpending : Follows { r with syslog := r.syslog.configure settings who } sent a := ⟨h.logger, h.dispatcher, h.output⟩
      exact follows_quiet hpending
  | poll now answers => exact matched_poll h now answers
  | report answers => exact matched_report h answers
  | hold networkUp => exact matched_hold h networkUp
  | take now answers => exact matched_take h now answers

/-- The log with all that its output has done, and the steps of the other log so far. -/
structure Journal where
  trace : Trace
  moves : List LogEvent

namespace Journal

def initial (memory : Vector LogMessage AppLogger.maxLogs) (ip : IPAddress) : Journal := ⟨Trace.initial memory ip, []⟩

def step (fromString : AddressReader) (j : Journal) (e : RemoteEvent) : Journal :=
  ⟨j.trace.step fromString e, j.moves ++ RemoteLog.moves j.trace.system (j.trace.system.step fromString e).2 e⟩

end Journal

theorem trace_run (j : Journal) (events : List RemoteEvent) :
    (run (Journal.step fromString) j events).trace = run (Trace.step fromString) j.trace events := by
  induction events generalizing j with
  | nil => rfl
  | cons e rest ih => rw [run_cons, run_cons, ih, Journal.step]

/-- The log with any output, after the steps of the journal. -/
def Journal.other (memory : Vector LogMessage AppLogger.maxLogs) (j : Journal) : Account :=
  run accountStep (Account.initial memory [tag]) j.moves

/-- The two logs are as far. -/
def Beside (memory : Vector LogMessage AppLogger.maxLogs) (j : Journal) : Prop :=
  Follows j.trace.system (deliveries j.trace.effects) (j.other memory)

theorem beside_step (memory : Vector LogMessage AppLogger.maxLogs) (j : Journal) (e : RemoteEvent) (h : Beside memory j) :
    Beside memory (j.step fromString e) := by
  have hmatched : Matched fromString j.trace.system (deliveries j.trace.effects) (j.other memory) e := matched_step h e
  simp only [Beside, Journal.other, Journal.step, Trace.step, deliveries_append, run_append]
  exact hmatched

/-- Each run of the log with its syslog output is matched by one of the log with an output that is enabled and ready when this one is, and whose transport answers as the datagrams are taken, so that no line is lost, doubled or overtaken between the task that wrote it and its datagram. -/
theorem carried_run (fromString : AddressReader) (memory : Vector LogMessage AppLogger.maxLogs) (ip : IPAddress)
    (events : List RemoteEvent) :
    let j := run (Journal.step fromString) (Journal.initial memory ip) events
    j.trace = run (Trace.step fromString) (Trace.initial memory ip) events ∧ Beside memory j ∧ Kept [tag] (j.other memory) := by
  have hinitial : Beside memory (Journal.initial memory ip) := ⟨rfl, rfl, newOutput tag, rfl, rfl, rfl, rfl⟩
  refine ⟨trace_run _ events, ?_, kept_run memory [tag] _⟩
  exact run_invariant hinitial (fun j e _ hj => beside_step memory j e hj) events fun _ _ => trivial

end RemoteLog

end EspNut
