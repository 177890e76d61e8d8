import EspNut.Server.LineReader
import EspNut.Server.Protocol

/-!
# The loop of the server

Each pass takes at most one new client into a slot, then serves the slots in order: one whose client is gone is closed, one that was silent for too long is told so and closed, and of the others up to 128 bytes are read and their lines answered. What arrives, who hangs up and what the clock shows is given; a client keeps its own record of what it sent and was told.
-/

namespace EspNut.NUTServer

open Lib

def timeoutMs : UInt32 := 300000

/-- A client: what arrived from it, as far as it was read or still waits, whether its connection stands, the lines that were executed for it and what was printed to it. -/
structure Conn where
  peer : String
  arrived : List Char
  taken : List Char
  waiting : List Char
  connected : Bool
  executed : List String
  printed : List String

def Conn.accepted (peer : String) : Conn := ⟨peer, [], [], [], true, [], []⟩

/-- The connection is stopped: what was not read is lost. -/
def Conn.stop (c : Conn) : Conn := { c with waiting := [], connected := false }

/-- The client as the reader of its slot finds it. -/
def Conn.reader (buffer : String) (c : Conn) : Reader := ⟨c.waiting, c.taken, buffer, c.connected, c.executed⟩

/-- The client as the reader leaves it. -/
def Conn.readTo (r : Reader) (c : Conn) : Conn := { c with waiting := r.waiting, taken := r.taken, executed := r.executed }

def Conn.print (replies : List String) (c : Conn) : Conn := { c with printed := c.printed ++ replies }

/-- The server with the clients in its slots, all clients so far, and the calls of the UPS with the client each was made for and the lines executed for it before. -/
structure Net where
  server : Server
  clients : Slot → Option Nat
  conns : Nat → Conn
  next : Nat
  calls : List (Nat × List String × Call)

/-- What one pass of the loop meets. -/
structure Pass where
  arrivals : Nat → List Char
  hangsUp : Nat → Bool
  newClient : Option String
  cleanedAt : UInt32
  acceptedAt : UInt32
  checkedAt : Slot → UInt32
  readAt : Slot → Nat → UInt32
  envs : Slot → Nat → Env

namespace Net

def initial : Net := ⟨Server.initial, fun _ => none, fun _ => (Conn.accepted "").stop, 0, []⟩

def setConn (c : Nat) (conn : Conn) (n : Net) : Net := { n with conns := Function.update n.conns c conn }

/-- What came in since the last pass, as long as a connection stands. -/
def arrive (p : Pass) (n : Net) : Net :=
  { n with
    conns := fun c =>
      let conn := n.conns c
      if conn.connected = true ∧ c < n.next then
        { conn with arrived := conn.arrived ++ p.arrivals c, waiting := conn.waiting ++ p.arrivals c, connected := !p.hangsUp c }
      else conn }

def isConnected (n : Net) (slot : Slot) : Bool := (n.clients slot).any fun c => (n.conns c).connected

/-- Whoever held the slot is stopped. -/
def stopClient (slot : Slot) (n : Net) : Net := (n.clients slot).elim n fun c => n.setConn c (n.conns c).stop

def accept (p : Pass) (n : Net) : Net :=
  match p.newClient with
  | none => n
  | some peer =>
      match openSession n.isConnected peer p.acceptedAt n.server with
      | (some slot, server, _) =>
          let n := n.stopClient slot
          { n.setConn n.next (Conn.accepted peer) with
            server, clients := Function.update n.clients slot (some n.next), next := n.next + 1 }
      | (none, server, _) =>
          { n.setConn n.next ((Conn.accepted peer).print ["ERR FAILED - Max clients reached\n"]).stop with
            server, next := n.next + 1 }

def close (slot : Slot) (reason : CloseReason) (n : Net) : Net :=
  { n.stopClient slot with server := (closeSession slot reason n.server).1 }

variable (config : NUTServerConfig) (p : Pass) (slot : Slot)

/-- One byte; a line end hands the line over, and one that ends the session stops the connection. -/
def readOne (n : Net) (b : Nat) : Net :=
  match n.clients slot with
  | none => n
  | some c =>
      let conn := n.conns c
      match conn.waiting with
      | [] => n
      | ch :: rest =>
          let session := n.server.sessions slot
          let (reader, line) := (conn.reader session.buffer).take ch rest
          let server := n.server.setSession slot { session with lastActivity := p.readAt slot b, buffer := reader.buffer }
          let read := conn.readTo reader
          match line with
          | none => { n.setConn c read with server }
          | some line =>
              let (server, output) := processCommand config (p.envs slot b) slot line server
              let done := read.print output.replies
              { n.setConn c (if (server.sessions slot).active = true then done else done.stop) with
                server
                calls := n.calls ++ output.calls.map fun call => (c, conn.executed, call) }

def readBytes (n : Net) : Net := (List.range 128).foldl (readOne config p slot) n

def serveSlot (n : Net) : Net :=
  let session := n.server.sessions slot
  let waiting := (n.clients slot).elim [] fun c => (n.conns c).waiting
  if session.active = false then n
  else if n.isConnected slot = false ∧ waiting = [] then n.close slot .peerClosed
  else if timeoutMs < p.checkedAt slot - session.lastActivity then
    let told := (n.clients slot).elim n fun c => n.setConn c ((n.conns c).print ["ERR ACCESS-DENIED\n"])
    told.close slot .inactivity
  else n.readBytes config p slot

def serveSlots (n : Net) : Net := (List.finRange maxClients).foldl (fun n slot => n.serveSlot config p slot) n

def cleanup (n : Net) : Net := { n with server := { n.server with tracking := NutTracking.cleanup n.server.tracking p.cleanedAt } }

def loop (n : Net) (p : Pass) : Net := (((n.arrive p).cleanup p).accept p).serveSlots config p

end Net

end EspNut.NUTServer
