import EspNut.Server.Authentication
import EspNut.Server.Connections

/-!
# What each client gets

In every run of the loop, whatever arrives and whoever comes and goes, a slot holds one client and a client is in one slot at most. The lines executed for a client are those of the bytes it sent, in order, and a call of the UPS is made for a client only when that client itself sent the credentials before.
-/

namespace EspNut.NUTServer

open Lib

/-! ### The session of a slot -/

/-- The part of a session that a line leaves alone. -/
def Session.Framed (before after : Session) : Prop :=
  after.active = before.active ∧ after.buffer = before.buffer ∧ after.peer = before.peer

theorem Session.Framed.refl (session : Session) : session.Framed session := ⟨rfl, rfl, rfl⟩

section Frame

variable {config : NUTServerConfig} {env : Env} {slot : Slot} {s : Server}

theorem framed_setSession {session : Session} (h : (s.sessions slot).Framed session) :
    (s.sessions slot).Framed ((s.setSession slot session).sessions slot) := by
  rwa [sessions_setSession, if_pos rfl]

theorem framed_username (tokens : List String) : (s.sessions slot).Framed ((username slot tokens s).1.sessions slot) := by
  simp only [username]
  split_ifs
  · exact Session.Framed.refl _
  · exact framed_setSession ⟨rfl, rfl, rfl⟩

theorem framed_password (tokens : List String) : (s.sessions slot).Framed ((password config slot tokens s).1.sessions slot) := by
  simp only [password]
  split_ifs
  · exact Session.Framed.refl _
  · exact framed_setSession ⟨rfl, rfl, rfl⟩
  · exact framed_setSession ⟨rfl, rfl, rfl⟩

theorem sessions_instCmd (tokens : List String) : (instCmd config env slot tokens s).1.sessions = s.sessions := by
  simp only [instCmd]
  split
  · rfl
  split
  · rfl
  split
  · rfl
  split
  · rfl
  · split <;> rfl

theorem sessions_answerSet {ups : UpsSource} (varName value : String) :
    (answerSet env ups slot varName value s).1.sessions = s.sessions := by
  simp only [answerSet]
  split
  · rfl
  split
  · rfl
  split
  · rfl
  · rfl
  · rfl
  · rfl
  · split
    · rfl
    · split <;> rfl

theorem sessions_setVar (upsName varName value : String) :
    (setVar config env slot upsName varName value s).1.sessions = s.sessions := by
  simp only [setVar]
  split
  · rfl
  split
  · rfl
  split
  · rfl
  split
  · rfl
  split
  · rfl
  · exact sessions_answerSet varName value

theorem framed_setCommand (tokens : List String) : (s.sessions slot).Framed ((setCommand config env slot tokens s).1.sessions slot) := by
  simp only [setCommand, setTracking]
  split_ifs
  · exact Session.Framed.refl _
  · exact Session.Framed.refl _
  · rw [sessions_setVar]
    exact Session.Framed.refl _
  · exact framed_setSession ⟨rfl, rfl, rfl⟩
  · exact framed_setSession ⟨rfl, rfl, rfl⟩
  · exact Session.Framed.refl _
  · exact Session.Framed.refl _

/-- A line closes its session, or leaves the buffer and the client of it alone. -/
theorem framed_processCommand (config : NUTServerConfig) (env : Env) (slot : Slot) (line : String) (s : Server) :
    (processCommand config env slot line s).1.sessions slot = Session.closed
      ∨ (s.sessions slot).Framed ((processCommand config env slot line s).1.sessions slot) := by
  simp only [processCommand]
  split
  · exact Or.inr (Session.Framed.refl _)
  · split
    · exact Or.inr (Session.Framed.refl _)
    · split_ifs
      · exact Or.inr (Session.Framed.refl _)
      · exact Or.inr (Session.Framed.refl _)
      · exact Or.inr (framed_username _)
      · exact Or.inr (framed_password _)
      · exact Or.inr (Session.Framed.refl _)
      · exact Or.inl (by simp [logout, closeSession])
      · exact Or.inr (Session.Framed.refl _)
      · rw [sessions_instCmd]
        exact Or.inr (Session.Framed.refl _)
      · exact Or.inr (framed_setCommand _)
      · exact Or.inr (Session.Framed.refl _)
      · exact Or.inr (Session.Framed.refl _)

end Frame

theorem username_ne_empty {config : NUTServerConfig} (hrequired : authRequired config = true) : config.username ≠ "" := by
  rintro hempty
  simp [authRequired, hempty] at hrequired

/-! ### Slots and clients -/

/-- The lines executed and a buffer say what was read, whatever the stream goes on with. -/
def Conn.Reads (conn : Conn) (buffer : String) : Prop :=
  ∀ future, readLines "" (conn.taken ++ future) = conn.executed ++ readLines buffer future

/-- What is known of a client by itself. -/
structure Conn.Served (conn : Conn) : Prop where
  executed : conn.executed = readLines "" conn.taken
  sent : conn.taken <+: conn.arrived
  all : conn.connected = true ∨ conn.waiting ≠ [] → conn.taken ++ conn.waiting = conn.arrived

namespace Net

/-- The lines executed for the client of a slot. -/
def sent (n : Net) (slot : Slot) : List String := (n.clients slot).elim [] fun c => (n.conns c).executed

/-- What is known of all clients. -/
structure Kept (config : NUTServerConfig) (n : Net) : Prop where
  fresh : ∀ slot c, n.clients slot = some c → c < n.next
  once : ∀ slot other c, n.clients slot = some c → n.clients other = some c → slot = other
  inSlot : ∀ c, (n.conns c).connected = true → ∃ slot, n.clients slot = some c ∧ (n.server.sessions slot).active = true
  idle : ∀ slot c, n.clients slot = some c → (n.server.sessions slot).active = false → (n.conns c).waiting = []
  active : ∀ slot, (n.server.sessions slot).active = true → ∃ c, n.clients slot = some c
    ∧ (n.conns c).Reads (n.server.sessions slot).buffer ∧ (n.server.sessions slot).peer = (n.conns c).peer
  served : ∀ c, (n.conns c).Served
  unknown : ∀ c, n.next ≤ c → (n.conns c).executed = []
  justified : authRequired config = true → Justified config ⟨n.server, n.sent⟩
  calls : authRequired config = true → ∀ call ∈ n.calls, Granted config call.2.1 ∧ call.2.1 <+: (n.conns call.1).executed

variable {config : NUTServerConfig} {n n' : Net} {p : Pass} {slot : Slot} {c : Nat}

@[simp] theorem conns_setConn (c other : Nat) (conn : Conn) (n : Net) :
    (n.setConn c conn).conns other = if other = c then conn else n.conns other := by
  simp [setConn, Function.update_apply]

theorem justified_of_sessions {server server' : Server} {lines : Slot → List String} (hsame : server'.sessions = server.sessions)
    (h : Justified config ⟨server, lines⟩) : Justified config ⟨server', lines⟩ := by
  refine ⟨fun slot => ?_, fun slot hauth => ?_⟩
  · simpa only [hsame] using h.username slot
  · exact h.authenticated slot (by simpa only [hsame] using hauth)

theorem sent_eq (h : n.clients slot = some c) : n.sent slot = (n.conns c).executed := by
  simp only [sent, h, Option.elim_some]

theorem kept_initial (config : NUTServerConfig) : Kept config initial := by
  refine ⟨nofun, nofun, nofun, nofun, nofun, fun c => ⟨rfl, List.prefix_rfl, ?_⟩, fun _ _ => rfl, fun _ => ?_, nofun⟩
  · rintro (hfalse | hfalse)
    · exact absurd hfalse Bool.false_ne_true
    · exact absurd rfl hfalse
  · exact justified_initial config

/-! ### Steps of a pass -/

theorem kept_of_conns (h : Kept config n) (hsessions : n'.server.sessions = n.server.sessions) (hclients : n'.clients = n.clients)
    (hnext : n'.next = n.next) (hcalls : n'.calls = n.calls)
    (hsame : ∀ c, (n'.conns c).executed = (n.conns c).executed ∧ (n'.conns c).taken = (n.conns c).taken
      ∧ (n'.conns c).peer = (n.conns c).peer)
    (hconnected : ∀ c, (n'.conns c).connected = true → (n.conns c).connected = true)
    (hidle : ∀ c, (n.conns c).connected = false → (n.conns c).waiting = [] → (n'.conns c).waiting = [])
    (hserved : ∀ c, (n'.conns c).Served) : Kept config n' := by
  have hsent : n'.sent = n.sent := by
    funext slot
    simp only [sent, hclients]
    cases n.clients slot with
    | none => rfl
    | some c => exact (hsame c).1
  refine ⟨?_, ?_, fun c hc => ?_, fun slot c hclient hactive => ?_, fun slot hactive => ?_, hserved, fun c hc => ?_, ?_, ?_⟩
  · rw [hclients, hnext]
    exact h.fresh
  · rw [hclients]
    exact h.once
  · rw [hclients, hsessions]
    exact h.inSlot c (hconnected c hc)
  · rw [hclients] at hclient
    rw [hsessions] at hactive
    refine hidle c ?_ (h.idle slot c hclient hactive)
    by_contra hstands
    obtain ⟨other, hother, hopen⟩ := h.inSlot c (eq_true_of_ne_false hstands)
    rw [h.once other slot c hother hclient, hactive] at hopen
    exact absurd hopen Bool.false_ne_true
  · rw [hsessions] at hactive ⊢
    obtain ⟨c, hclient, hreads, hpeer⟩ := h.active slot hactive
    refine ⟨c, hclients ▸ hclient, fun future => ?_, hpeer.trans (hsame c).2.2.symm⟩
    rw [(hsame c).1, (hsame c).2.1]
    exact hreads future
  · rw [(hsame c).1]
    exact h.unknown c (hnext ▸ hc)
  · intro hrequired
    rw [hsent]
    exact justified_of_sessions hsessions (h.justified hrequired)
  · intro hrequired call hcall
    rw [(hsame call.1).1]
    exact h.calls hrequired call (hcalls ▸ hcall)

theorem kept_arrive (p : Pass) (h : Kept config n) : Kept config (n.arrive p) := by
  refine kept_of_conns h rfl rfl rfl rfl (fun c => ?_) (fun c hc => ?_) (fun c hclosed hnone => ?_) fun c => ?_
  · simp only [arrive]
    split <;> exact ⟨rfl, rfl, rfl⟩
  · simp only [arrive] at hc
    split at hc
    · rename_i hstands
      exact hstands.1
    · exact hc
  · simp only [arrive, hclosed, Bool.false_eq_true, false_and, if_false]
    exact hnone
  · obtain ⟨hexecuted, hprefix, hall⟩ := h.served c
    simp only [arrive]
    split
    · rename_i hstands
      have hwhole := hall (Or.inl hstands.1)
      refine ⟨hexecuted, hprefix.trans (List.prefix_append _ _), fun _ => ?_⟩
      simp only [← hwhole, List.append_assoc]
    · exact ⟨hexecuted, hprefix, hall⟩

theorem kept_cleanup (p : Pass) (h : Kept config n) : Kept config (n.cleanup p) :=
  kept_of_conns h rfl rfl rfl rfl (fun _ => ⟨rfl, rfl, rfl⟩) (fun _ hc => hc) (fun _ _ hnone => hnone) h.served

theorem served_stop {conn : Conn} (h : conn.Served) : conn.stop.Served := by
  refine ⟨h.executed, h.sent, ?_⟩
  rintro (hfalse | hfalse)
  · exact absurd hfalse Bool.false_ne_true
  · exact absurd rfl hfalse

theorem kept_stopClient (slot : Slot) (h : Kept config n) : Kept config (n.stopClient slot) := by
  simp only [stopClient]
  cases hclient : n.clients slot with
  | none => exact h
  | some c =>
      simp only [Option.elim_some]
      refine kept_of_conns h rfl rfl rfl rfl (fun other => ?_) (fun other hother => ?_) (fun other hclosed hnone => ?_) fun other => ?_
      · rw [conns_setConn]
        split_ifs with heq
        · rw [heq]
          exact ⟨rfl, rfl, rfl⟩
        · exact ⟨rfl, rfl, rfl⟩
      · rw [conns_setConn] at hother
        split_ifs at hother with heq
        · exact absurd hother Bool.false_ne_true
        · exact hother
      · rw [conns_setConn]
        split_ifs with heq
        · rfl
        · exact hnone
      · rw [conns_setConn]
        split_ifs with heq
        · exact served_stop (h.served c)
        · exact h.served other

/-- What a step does with one slot, and with the client in it. -/
structure Turn (config : NUTServerConfig) (n : Net) (slot : Slot) (c : Nat) (server : Server) (conn : Conn)
    (calls : List (Nat × List String × Call)) : Prop where
  others : ∀ other, other ≠ slot → server.sessions other = n.server.sessions other
  connected : conn.connected = true → (server.sessions slot).active = true
  idle : (server.sessions slot).active = false → conn.waiting = []
  reads : (server.sessions slot).active = true → conn.Reads (server.sessions slot).buffer
    ∧ (server.sessions slot).peer = conn.peer
  served : conn.Served
  longer : (n.conns c).executed <+: conn.executed
  justified : authRequired config = true → Justified config ⟨server, Function.update n.sent slot conn.executed⟩
  calls : authRequired config = true → ∀ call ∈ calls, call.1 = c ∧ Granted config call.2.1 ∧ call.2.1 <+: conn.executed

def afterTurn (n : Net) (c : Nat) (server : Server) (conn : Conn) (calls : List (Nat × List String × Call)) : Net :=
  ⟨server, n.clients, (n.setConn c conn).conns, n.next, n.calls ++ calls⟩

theorem kept_turn (h : Kept config n) (hclient : n.clients slot = some c) {server : Server} {conn : Conn}
    {calls : List (Nat × List String × Call)} (hturn : Turn config n slot c server conn calls) :
    Kept config (n.afterTurn c server conn calls) := by
  have hother {other : Slot} {d : Nat} (hd : n.clients other = some d) (hne : other ≠ slot) : d ≠ c :=
    fun heq => hne (h.once other slot c (heq ▸ hd) hclient)
  have hslot {other : Slot} (hc : n.clients other = some c) : other = slot := h.once other slot c hc hclient
  have hconns (d : Nat) : (n.afterTurn c server conn calls).conns d = if d = c then conn else n.conns d := conns_setConn c d conn n
  have hsent : (n.afterTurn c server conn calls).sent = Function.update n.sent slot conn.executed := by
    funext other
    by_cases heq : other = slot
    · subst heq
      have hclient' : (n.afterTurn c server conn calls).clients other = some c := hclient
      rw [Function.update_self, sent_eq hclient', hconns, if_pos rfl]
    · rw [Function.update_of_ne heq]
      cases hd : n.clients other with
      | none => simp [sent, afterTurn, hd]
      | some d =>
          have hd' : (n.afterTurn c server conn calls).clients other = some d := hd
          rw [sent_eq hd', sent_eq hd, hconns, if_neg (hother hd heq)]
  refine ⟨h.fresh, h.once, fun d hd => ?_, fun other d hd hactive => ?_, fun other hactive => ?_, fun d => ?_, fun d hd => ?_, ?_, ?_⟩
  · rw [hconns] at hd
    split_ifs at hd with heq
    · exact ⟨slot, heq ▸ hclient, hturn.connected hd⟩
    · obtain ⟨other, hd', hactive⟩ := h.inSlot d hd
      have hne : other ≠ slot := fun hsame => heq (Option.some.inj (hd'.symm.trans (hsame ▸ hclient)))
      have hsession : (n.afterTurn c server conn calls).server.sessions other = n.server.sessions other := hturn.others other hne
      refine ⟨other, hd', ?_⟩
      rw [hsession]
      exact hactive
  · rw [hconns]
    split_ifs with heq
    · obtain rfl := hslot (heq ▸ hd)
      exact hturn.idle hactive
    · have hne : other ≠ slot := fun hsame => heq (Option.some.inj (hd.symm.trans (hsame ▸ hclient)))
      exact h.idle other d hd (hturn.others other hne ▸ hactive)
  · by_cases heq : other = slot
    · subst heq
      refine ⟨c, hclient, ?_⟩
      rw [hconns, if_pos rfl]
      exact hturn.reads hactive
    · have hsession : (n.afterTurn c server conn calls).server.sessions other = n.server.sessions other := hturn.others other heq
      rw [hsession] at hactive ⊢
      obtain ⟨d, hd, hreads⟩ := h.active other hactive
      refine ⟨d, hd, ?_⟩
      rw [hconns, if_neg (hother hd heq)]
      exact hreads
  · rw [hconns]
    split_ifs
    · exact hturn.served
    · exact h.served d
  · rw [hconns, if_neg]
    · exact h.unknown d hd
    · rintro rfl
      exact absurd (h.fresh slot d hclient) (Nat.not_lt.mpr hd)
  · intro hrequired
    rw [hsent]
    exact hturn.justified hrequired
  · intro hrequired call hcall
    rw [hconns]
    rcases List.mem_append.mp hcall with hold | hnew
    · obtain ⟨hgranted, hprefix⟩ := h.calls hrequired call hold
      refine ⟨hgranted, ?_⟩
      split_ifs with heq
      · rw [heq] at hprefix
        exact hprefix.trans hturn.longer
      · exact hprefix
    · obtain ⟨hcaller, hgranted, hprefix⟩ := hturn.calls hrequired call hnew
      rw [if_pos hcaller]
      exact ⟨hgranted, hprefix⟩

theorem kept_close (h : Kept config n) (slot : Slot) (reason : CloseReason) (hactive : (n.server.sessions slot).active = true) :
    Kept config (n.close slot reason) := by
  obtain ⟨c, hclient, -⟩ := h.active slot hactive
  have hclosed : ((closeSession slot reason n.server).1.sessions slot) = Session.closed := by simp [closeSession]
  have hturn : Turn config n slot c (closeSession slot reason n.server).1 (n.conns c).stop [] := by
    refine ⟨fun other hne => by simp [closeSession, hne], fun hup => absurd hup Bool.false_ne_true, fun _ => rfl,
      fun hopen => ?_, served_stop (h.served c), List.prefix_rfl, fun hrequired => ?_,
      fun _ call hcall => absurd hcall List.not_mem_nil⟩
    · rw [hclosed] at hopen
      exact absurd hopen Bool.false_ne_true
    · have hjustified := justified_closeSession (h.justified hrequired) slot reason
      have hsent : Function.update n.sent slot (n.conns c).stop.executed = n.sent := by
        rw [Function.update_eq_self_iff, sent_eq hclient]
        rfl
      rw [hsent]
      exact hjustified
  have hkept := kept_turn h hclient hturn
  have hafter : n.close slot reason = n.afterTurn c (closeSession slot reason n.server).1 (n.conns c).stop [] := by
    simp [close, stopClient, hclient, afterTurn, setConn]
  rw [hafter]
  exact hkept

theorem kept_readOne (h : Kept config n) (p : Pass) (slot : Slot) (b : Nat) : Kept config (n.readOne config p slot b) := by
  simp only [readOne]
  cases hclient : n.clients slot with
  | none => exact h
  | some c =>
      dsimp only
      cases hwaiting : (n.conns c).waiting with
      | nil => exact h
      | cons ch rest =>
          have hactive : (n.server.sessions slot).active = true := by
            by_contra hidle
            rw [h.idle slot c hclient (eq_false_of_ne_true hidle)] at hwaiting
            exact nomatch hwaiting
          obtain ⟨d, hd, hreads, hpeer⟩ := h.active slot hactive
          obtain rfl := Option.some.inj (hd.symm.trans hclient)
          have hserved := h.served d
          have hwhole : (n.conns d).taken ++ [ch] ++ rest = (n.conns d).arrived := by
            rw [List.append_assoc, List.singleton_append, ← hwaiting]
            exact hserved.all (Or.inr (by rw [hwaiting]; exact List.cons_ne_nil ch rest))
          -- the byte and what follows are read as one stream
          have hstream (future : List Char) : readLines "" ((n.conns d).taken ++ [ch] ++ future)
              = (n.conns d).executed ++ ((readByte (n.server.sessions slot).buffer ch).2.toList
                ++ readLines (readByte (n.server.sessions slot).buffer ch).1 future) := by
            rw [List.append_assoc, hreads]
            rfl
          have htake : ((n.conns d).reader (n.server.sessions slot).buffer).take ch rest
              = (⟨rest, (n.conns d).taken ++ [ch], (readByte (n.server.sessions slot).buffer ch).1, (n.conns d).connected,
                  (n.conns d).executed ++ (readByte (n.server.sessions slot).buffer ch).2.toList⟩,
                (readByte (n.server.sessions slot).buffer ch).2) := rfl
          dsimp only
          rw [htake]
          generalize readByte (n.server.sessions slot).buffer ch = read at hstream
          obtain ⟨buffer, line⟩ := read
          dsimp only [Conn.readTo]
          generalize hsession : ({ n.server.sessions slot with lastActivity := p.readAt slot b, buffer } : Session) = session
          have hself : (n.server.setSession slot session).sessions slot = session := by rw [sessions_setSession, if_pos rfl]
          have hothers (other : Slot) (hne : other ≠ slot) :
              (n.server.setSession slot session).sessions other = n.server.sessions other := by
            rw [sessions_setSession, if_neg hne]
          have hjustified (hrequired : authRequired config = true) : Justified config ⟨n.server.setSession slot session, n.sent⟩ := by
            have hbefore := h.justified hrequired
            refine ⟨fun other => ?_, fun other hauth => ?_⟩
            · by_cases hother : other = slot
              · subst hother
                have hname := hbefore.username other
                dsimp only at hname ⊢
                rw [hself, ← hsession]
                exact hname
              · have hname := hbefore.username other
                dsimp only at hname ⊢
                rwa [hothers other hother]
            · apply hbefore.authenticated other
              dsimp only at hauth ⊢
              by_cases hother : other = slot
              · subst hother
                rwa [hself, ← hsession] at hauth
              · rwa [hothers other hother] at hauth
          cases line with
          | none =>
              rw [Option.toList_none, List.append_nil]
              have hturn : Turn config n slot d (n.server.setSession slot session)
                  { n.conns d with taken := (n.conns d).taken ++ [ch], waiting := rest } [] := by
                refine ⟨hothers, fun _ => ?_, fun hidle => ?_, fun _ => ⟨fun future => ?_, ?_⟩, ⟨?_, ⟨rest, hwhole⟩, fun _ => hwhole⟩,
                  List.prefix_rfl, fun hrequired => ?_, nofun⟩
                · rw [hself, ← hsession]
                  exact hactive
                · rw [hself, ← hsession] at hidle
                  exact absurd (hactive.symm.trans hidle) (by decide)
                · rw [hself, ← hsession]
                  exact hstream future
                · rw [hself, ← hsession]
                  exact hpeer
                · have hnow := hstream []
                  rw [List.append_nil] at hnow
                  exact (hnow.trans (List.append_nil _)).symm
                · have hsame : Function.update n.sent slot (n.conns d).executed = n.sent := by
                    rw [Function.update_eq_self_iff, sent_eq hclient]
                  dsimp only
                  rw [hsame]
                  exact hjustified hrequired
              have hafter := kept_turn h hclient hturn
              simpa [afterTurn, setConn] using hafter
          | some text =>
              have hhandled := handled_processCommand config (p.envs slot b) slot text (n.server.setSession slot session)
              have hframed := framed_processCommand config (p.envs slot b) slot text (n.server.setSession slot session)
              have hnext (hrequired : authRequired config = true) :=
                justified_processCommand (username_ne_empty hrequired) (hjustified hrequired) (p.envs slot b) slot text
              simp only [step] at hnext
              dsimp only
              generalize processCommand config (p.envs slot b) slot text (n.server.setSession slot session) = result
                at hhandled hframed hnext
              obtain ⟨server, output⟩ := result
              rw [hself] at hframed
              have hdone : (Conn.print output.replies { n.conns d with
                  waiting := rest, taken := (n.conns d).taken ++ [ch], executed := (n.conns d).executed ++ [text] }).Served := by
                refine ⟨?_, ⟨rest, hwhole⟩, fun _ => hwhole⟩
                have hnow := hstream []
                rw [List.append_nil] at hnow
                exact (hnow.trans (congrArg ((n.conns d).executed ++ ·) (List.append_nil [text]))).symm
              generalize hconn : (Conn.print output.replies { n.conns d with
                  waiting := rest, taken := (n.conns d).taken ++ [ch], executed := (n.conns d).executed ++ [text] }) = done at hdone
              have hexecuted : done.executed = (n.conns d).executed ++ [text] := by
                rw [← hconn]
                rfl
              have hturn : Turn config n slot d server (if (server.sessions slot).active = true then done else done.stop)
                  (output.calls.map fun call => (d, (n.conns d).executed, call)) := by
                have hlines : (if (server.sessions slot).active = true then done else done.stop).executed
                    = (n.conns d).executed ++ [text] := by
                  split_ifs
                  · exact hexecuted
                  · exact hexecuted
                refine ⟨fun other hne => (hhandled.others other hne).trans (hothers other hne), fun hstands => ?_, fun hclosed => ?_,
                  fun hopen => ?_, ?_, ?_, fun hrequired => ?_, fun hrequired call hcall => ?_⟩
                · split_ifs at hstands with hopen
                  · exact hopen
                  · exact absurd hstands Bool.false_ne_true
                · rw [if_neg (by simp [hclosed])]
                  rfl
                · rw [if_pos hopen]
                  rcases hframed with hclosed | ⟨-, hbuffer, hkept⟩
                  · rw [hclosed] at hopen
                    exact absurd hopen Bool.false_ne_true
                  · dsimp only at hbuffer hkept
                    rw [hbuffer, hkept, ← hsession, ← hconn]
                    refine ⟨fun future => ?_, hpeer⟩
                    have hfuture := hstream future
                    rw [← List.append_assoc] at hfuture
                    exact hfuture
                · split_ifs
                  · exact hdone
                  · exact served_stop hdone
                · rw [hlines]
                  exact List.prefix_append _ _
                · rw [hlines, ← sent_eq hclient]
                  exact hnext hrequired
                · obtain ⟨called, hcalled, rfl⟩ := List.mem_map.mp hcall
                  have hauth := hhandled.permitted (List.ne_nil_of_mem hcalled) hrequired
                  have hgranted := (hjustified hrequired).authenticated slot hauth
                  dsimp only at hgranted
                  rw [sent_eq hclient] at hgranted
                  rw [hlines]
                  exact ⟨rfl, hgranted, List.prefix_append _ _⟩
              have hafter := kept_turn h hclient hturn
              simpa [afterTurn, setConn, hsession, hconn] using hafter

theorem kept_foldl {α : Type} {f : Net → α → Net} (hstep : ∀ n a, Kept config n → Kept config (f n a)) (steps : List α)
    (h : Kept config n) : Kept config (steps.foldl f n) :=
  run_invariant h (fun n a _ => hstep n a) steps fun _ _ => trivial

theorem kept_print (h : Kept config n) (replies : List String) (c : Nat) : Kept config (n.setConn c ((n.conns c).print replies)) := by
  have hprinted (other : Nat) : (n.setConn c ((n.conns c).print replies)).conns other
      = if other = c then (n.conns c).print replies else n.conns other := conns_setConn c other _ n
  refine kept_of_conns h rfl rfl rfl rfl (fun other => ?_) (fun other hother => ?_) (fun other hclosed hnone => ?_) fun other => ?_
  · rw [hprinted]
    split_ifs with heq
    · rw [heq]
      exact ⟨rfl, rfl, rfl⟩
    · exact ⟨rfl, rfl, rfl⟩
  · rw [hprinted] at hother
    split_ifs at hother with heq
    · exact heq ▸ hother
    · exact hother
  · rw [hprinted]
    split_ifs with heq
    · exact heq ▸ hnone
    · exact hnone
  · rw [hprinted]
    split_ifs
    · exact ⟨(h.served c).executed, (h.served c).sent, (h.served c).all⟩
    · exact h.served other

theorem kept_serveSlot (p : Pass) (h : Kept config n) (slot : Slot) : Kept config (n.serveSlot config p slot) := by
  simp only [serveSlot]
  split
  · exact h
  · rename_i hactive
    have hactive : (n.server.sessions slot).active = true := eq_true_of_ne_false hactive
    split
    · exact kept_close h slot .peerClosed hactive
    · split
      · obtain ⟨c, hclient, -⟩ := h.active slot hactive
        rw [hclient]
        exact kept_close (kept_print h _ c) slot .inactivity hactive
      · exact kept_foldl (fun n b hn => kept_readOne hn p slot b) _ h

theorem served_accepted (peer : String) : (Conn.accepted peer).Served := ⟨rfl, List.prefix_rfl, fun _ => rfl⟩

/-- The session of a client that was just accepted. -/
def freshSession (peer : String) (now : UInt32) : Session := ⟨true, false, now, "", "", false, false, false, peer⟩

def afterTaking (n : Net) (slot : Slot) (peer : String) (now : UInt32) : Net :=
  ⟨n.server.setSession slot (freshSession peer now), Function.update n.clients slot (some n.next),
    (n.setConn n.next (Conn.accepted peer)).conns, n.next + 1, n.calls⟩

theorem kept_taking (h : Kept config n) (slot : Slot) (peer : String) (now : UInt32)
    (hgone : ∀ c, n.clients slot = some c → (n.conns c).connected = false) : Kept config (n.afterTaking slot peer now) := by
  have hconns (c : Nat) : (n.afterTaking slot peer now).conns c = if c = n.next then Conn.accepted peer else n.conns c :=
    conns_setConn n.next c _ n
  have hclients (other : Slot) : (n.afterTaking slot peer now).clients other
      = if other = slot then some n.next else n.clients other := Function.update_apply ..
  have hsession (other : Slot) : (n.afterTaking slot peer now).server.sessions other
      = if other = slot then freshSession peer now else n.server.sessions other := sessions_setSession ..
  have hold {other : Slot} {c : Nat} (hc : n.clients other = some c) : c ≠ n.next := Nat.ne_of_lt (h.fresh other c hc)
  have hsent : (n.afterTaking slot peer now).sent = Function.update n.sent slot [] := by
    funext other
    by_cases heq : other = slot
    · subst heq
      have hclient : (n.afterTaking other peer now).clients other = some n.next := by rw [hclients, if_pos rfl]
      rw [Function.update_self, sent_eq hclient, hconns, if_pos rfl]
      rfl
    · rw [Function.update_of_ne heq]
      cases hc : n.clients other with
      | none => simp [sent, hclients, heq, hc]
      | some c =>
          have hclient : (n.afterTaking slot peer now).clients other = some c := by rw [hclients, if_neg heq, hc]
          rw [sent_eq hclient, sent_eq hc, hconns, if_neg (hold hc)]
  refine ⟨fun other c hc => ?_, fun other another c hc hc' => ?_, fun c hc => ?_, fun other c hc hidle => ?_, fun other hactive => ?_,
    fun c => ?_, fun c hc => ?_, fun hrequired => ?_, fun hrequired call hcall => ?_⟩
  · show c < n.next + 1
    rw [hclients] at hc
    split_ifs at hc
    · obtain rfl := Option.some.inj hc
      omega
    · exact Nat.lt_succ_of_lt (h.fresh other c hc)
  · rw [hclients] at hc hc'
    split_ifs at hc hc' with hfirst hsecond hsecond
    · exact hfirst.trans hsecond.symm
    · exact absurd (Option.some.inj hc).symm (hold hc')
    · exact absurd (Option.some.inj hc').symm (hold hc)
    · exact h.once other another c hc hc'
  · rw [hconns] at hc
    split_ifs at hc with heq
    · refine ⟨slot, ?_, ?_⟩
      · rw [hclients, if_pos rfl, heq]
      · rw [hsession, if_pos rfl]
        rfl
    · obtain ⟨other, hother, hactive⟩ := h.inSlot c hc
      have hne : other ≠ slot := by
        rintro rfl
        rw [hgone c hother] at hc
        exact absurd hc Bool.false_ne_true
      exact ⟨other, by rw [hclients, if_neg hne, hother], by rw [hsession, if_neg hne, hactive]⟩
  · rw [hclients] at hc
    rw [hsession] at hidle
    split_ifs at hc hidle with heq
    · exact absurd hidle (by decide : ¬ true = false)
    · rw [hconns, if_neg (hold hc)]
      exact h.idle other c hc hidle
  · by_cases heq : other = slot
    · subst heq
      refine ⟨n.next, by rw [hclients, if_pos rfl], ?_⟩
      rw [hconns, if_pos rfl, hsession, if_pos rfl]
      exact ⟨fun future => rfl, rfl⟩
    · rw [hsession, if_neg heq] at hactive ⊢
      obtain ⟨c, hc, hreads⟩ := h.active other hactive
      refine ⟨c, by rw [hclients, if_neg heq, hc], ?_⟩
      rw [hconns, if_neg (hold hc)]
      exact hreads
  · rw [hconns]
    split_ifs
    · exact served_accepted peer
    · exact h.served c
  · have hc : n.next + 1 ≤ c := hc
    rw [hconns, if_neg (by omega)]
    exact h.unknown c (by omega)
  · have hbefore := h.justified hrequired
    rw [hsent]
    refine ⟨fun other => ?_, fun other hauth => ?_⟩
    · dsimp only
      rw [hsession]
      split_ifs with heq
      · exact Or.inl rfl
      · rw [Function.update_of_ne heq]
        exact hbefore.username other
    · dsimp only at hauth ⊢
      rw [hsession] at hauth
      split_ifs at hauth with heq
      · exact absurd hauth (by decide : ¬ false = true)
      · rw [Function.update_of_ne heq]
        exact hbefore.authenticated other hauth
  · obtain ⟨hgranted, hprefix⟩ := h.calls hrequired call hcall
    refine ⟨hgranted, ?_⟩
    rw [hconns]
    split_ifs with heq
    · rwa [h.unknown call.1 (Nat.le_of_eq heq.symm)] at hprefix
    · exact hprefix

def afterRefusing (n : Net) (conn : Conn) (server : Server) : Net :=
  ⟨server, n.clients, (n.setConn n.next conn).conns, n.next + 1, n.calls⟩

theorem kept_refusing (h : Kept config n) {conn : Conn} (hserved : conn.Served) (hclosed : conn.connected = false)
    (hnone : conn.executed = []) {server : Server} (hsessions : server.sessions = n.server.sessions) :
    Kept config (n.afterRefusing conn server) := by
  have hconns (c : Nat) : (n.afterRefusing conn server).conns c = if c = n.next then conn else n.conns c := conns_setConn n.next c _ n
  have hold {other : Slot} {c : Nat} (hc : n.clients other = some c) : c ≠ n.next := Nat.ne_of_lt (h.fresh other c hc)
  have hsession : (n.afterRefusing conn server).server.sessions = n.server.sessions := hsessions
  have hsent : (n.afterRefusing conn server).sent = n.sent := by
    funext other
    cases hc : n.clients other with
    | none => simp [sent, afterRefusing, hc]
    | some c =>
        have hclient : (n.afterRefusing conn server).clients other = some c := hc
        rw [sent_eq hclient, sent_eq hc, hconns, if_neg (hold hc)]
  refine ⟨fun other c hc => Nat.lt_succ_of_lt (h.fresh other c hc), h.once, fun c hc => ?_, fun other c hc hidle => ?_,
    fun other hactive => ?_, fun c => ?_, fun c hc => ?_, fun hrequired => ?_, fun hrequired call hcall => ?_⟩
  · rw [hconns] at hc
    rw [hsession]
    split_ifs at hc
    · exact absurd (hclosed.symm.trans hc) Bool.false_ne_true
    · exact h.inSlot c hc
  · rw [hsession] at hidle
    rw [hconns, if_neg (hold hc)]
    exact h.idle other c hc hidle
  · rw [hsession] at hactive ⊢
    obtain ⟨c, hc, hreads⟩ := h.active other hactive
    refine ⟨c, hc, ?_⟩
    rw [hconns, if_neg (hold hc)]
    exact hreads
  · rw [hconns]
    split_ifs
    · exact hserved
    · exact h.served c
  · have hc : n.next + 1 ≤ c := hc
    rw [hconns, if_neg (by omega)]
    exact h.unknown c (by omega)
  · rw [hsent]
    exact justified_of_sessions hsession (h.justified hrequired)
  · obtain ⟨hgranted, hprefix⟩ := h.calls hrequired call hcall
    refine ⟨hgranted, ?_⟩
    rw [hconns]
    split_ifs with heq
    · rw [h.unknown call.1 (Nat.le_of_eq heq.symm)] at hprefix
      rwa [hnone]
    · exact hprefix

/-- A new client takes a free slot, whose client before is stopped, or is sent away. -/
theorem kept_accept (p : Pass) (h : Kept config n) : Kept config (n.accept p) := by
  simp only [accept]
  split
  · exact h
  · rename_i peer _
    rcases openSession_cases n.isConnected peer p.acceptedAt n.server with ⟨slot, output, hcase⟩ | ⟨server, output, hcase, hsessions, -⟩
    · rw [hcase]
      have hgone (c : Nat) (hc : (n.stopClient slot).clients slot = some c) : ((n.stopClient slot).conns c).connected = false := by
        revert hc
        simp only [stopClient]
        cases hclient : n.clients slot with
        | none =>
            intro hc
            exact nomatch hclient.symm.trans hc
        | some d =>
            intro hc
            obtain rfl := Option.some.inj (hclient.symm.trans hc)
            simp [Conn.stop]
      have hserver : (n.stopClient slot).server = n.server := by
        simp only [stopClient]
        cases n.clients slot <;> rfl
      have hkept := kept_taking (kept_stopClient slot h) slot peer p.acceptedAt hgone
      simp only [afterTaking, hserver] at hkept
      exact hkept
    · rw [hcase]
      exact kept_refusing h (served_stop ⟨rfl, List.prefix_rfl, fun _ => rfl⟩) rfl rfl hsessions

theorem kept_loop (p : Pass) (h : Kept config n) : Kept config (n.loop config p) :=
  kept_foldl (fun _ slot hn => kept_serveSlot p hn slot) _ (kept_accept p (kept_cleanup p (kept_arrive p h)))

/-! ### Runs -/

/-- What each client gets of the server, and the server of each client. -/
structure Conversing (config : NUTServerConfig) (n : Net) : Prop where
  /-- the lines executed for a client are those of the bytes read from it, which are the first that arrived -/
  executed : ∀ c, (n.conns c).executed = readLines "" (n.conns c).taken ∧ (n.conns c).taken <+: (n.conns c).arrived
  /-- as long as it stands, nothing of a connection is lost -/
  whole : ∀ c, (n.conns c).connected = true → (n.conns c).taken ++ (n.conns c).waiting = (n.conns c).arrived
  /-- a connection that stands has a slot, with a session of its own -/
  slot : ∀ c, (n.conns c).connected = true → ∃ slot, n.clients slot = some c ∧ (n.server.sessions slot).active = true
    ∧ (n.server.sessions slot).peer = (n.conns c).peer
    ∧ (authRequired config = true → (n.server.sessions slot).authenticated = true → Granted config (n.conns c).executed)
  /-- and no other client has it -/
  once : ∀ slot other c, n.clients slot = some c → n.clients other = some c → slot = other
  /-- the UPS is called for a client that sent the credentials itself, before -/
  calls : authRequired config = true → ∀ call ∈ n.calls, Granted config call.2.1 ∧ call.2.1 <+: (n.conns call.1).executed

theorem Kept.conversing (h : Kept config n) : Conversing config n := by
  refine ⟨fun c => ⟨(h.served c).executed, (h.served c).sent⟩, fun c hc => (h.served c).all (Or.inl hc), fun c hc => ?_, h.once, h.calls⟩
  obtain ⟨slot, hslot, hactive⟩ := h.inSlot c hc
  obtain ⟨d, hd, -, hpeer⟩ := h.active slot hactive
  obtain rfl := Option.some.inj (hd.symm.trans hslot)
  refine ⟨slot, hslot, hactive, hpeer, fun hrequired hauth => ?_⟩
  have hgranted := (h.justified hrequired).authenticated slot hauth
  rwa [← sent_eq hslot]

/-- However the clients come and go and their bytes arrive, each has a conversation of its own. -/
theorem conversations_run (config : NUTServerConfig) (passes : List Pass) : Conversing config (run (loop config) initial passes) :=
  (run_invariant (kept_initial config) (fun _ p _ h => kept_loop p h) passes fun _ _ => trivial).conversing

end Net

end EspNut.NUTServer
