import Ngtcp2Rs.Server.Handlers
import Ngtcp2Rs.Lib.Run
import Mathlib.Logic.Relation

/-!
# The server and its accepted connections

`Server::accept` and the handles it returned read one socket and share one routing table. A `World`
is all of them together, and a `Label` is what happens next: a step of `accept`, or a step of an
operation on one handle. An operation of a handle is cut where it waits, so that the others can move
in between; dropping its future there is a label of its own.
-/

namespace Ngtcp2Rs

open Lib

/-! ## Handles -/

/-- `MAX_QUEUED_DATAGRAMS`. -/
def maxQueuedDatagrams : ℕ := 512

/-- A datagram as it was received. -/
structure InboundDatagram where
  data : Bytes
  src : SocketAddr
  localAddr : SocketAddr
  ecn : UInt8
  deriving DecidableEq

/-- Where the operation on a handle waits; `queueOpen` says that `recv_event` still selects on the
queue. -/
inductive Pc where
  /-- no operation -/
  | idle
  /-- `flush`, at the socket -/
  | flushing
  /-- `recv_event`, at the socket -/
  | sending (queueOpen : Bool)
  /-- `recv_event`, in its select -/
  | selecting (queueOpen : Bool)
  deriving DecidableEq, Repr

/-- A handle. -/
structure AcceptedConnection where
  connectionId : ConnectionId
  inner : ServerConnection
  inbound : List InboundDatagram := []
  pc : Pc := .idle

namespace AcceptedConnection

/-- The connection was closed, or is closing or draining. -/
def isClosed (a : AcceptedConnection) : Bool := a.inner.closed || a.inner.isEnding

/-- After a call into ngtcp2 whose events were taken over. -/
def called (a : AcceptedConnection) (ans : Answer) : AcceptedConnection :=
  { a with inner := a.inner.callAndDrain ans.effect }

/-- After its CIDs were polled. -/
def polled (a : AcceptedConnection) : AcceptedConnection := { a with inner := a.inner.pollCids }

end AcceptedConnection

/-- The server, the shared table and the live handles. -/
structure World where
  server : Server
  routes : SharedRoutes := {}
  accepted : Map ℕ AcceptedConnection := ∅
  nextHandle : ℕ := 0

/-- What can be done with a handle, or what its operation waited for. -/
inductive Op where
  | flush (ans : Answer)
  | recvEvent (flush : Answer)
  /-- the packets of the flush were sent -/
  | sent
  /-- the queue has something -/
  | inbound (read flush : Answer)
  /-- the socket has something -/
  | socket (d : InboundDatagram) (read flush : Answer)
  | socketError
  | timer (expiry flush : Answer)
  /-- `control` are the control packets, when the datagram was accepted without a packet -/
  | sendDatagram (datagram : Answer) (control : Option Answer)
  | close (ans : Answer) (cancelled : Bool)
  | pollEvent
  /-- the future of the operation is dropped -/
  | cancel

/-- What happens next. `accept` removes closed connections, returns a completed one, and otherwise
handles a datagram or the timers. -/
inductive Label where
  | removeClosed
  | accept (key : ConnectionId)
  | datagram (d : InboundDatagram) (ts : ℕ) (ans : Answers)
  | timers (keys : List ConnectionId) (timers : ConnectionId → Option Answer)
  | op (h : ℕ) (op : Op)
  | drop (h : ℕ)

namespace World

/-- A server that was just bound, and no handles. -/
def init (cfg : ServerConfig) : World := { server := .bind cfg }

/-- What was done so far, newest first. -/
abbrev trace (w : World) : List Action := w.server.trace

/-- Add to the trace. -/
def record (w : World) (a : Action) : World := { w with server := w.server.record a }

/-- Replace a handle. -/
def set (w : World) (h : ℕ) (a : AcceptedConnection) : World :=
  { w with accepted := w.accepted.insert h a }

/-! ### Datagrams for accepted connections -/

/-- The handle that receives from the queue of `key`. -/
def receiver (w : World) (key : ConnectionId) : Option ℕ :=
  (w.routes.senders.lookup key).filter fun h => (w.accepted.lookup h).isSome

/-- Hand a datagram to its accepted connection; a full queue drops it. The routes of a connection
whose receiver is gone are removed. -/
def deliver (w : World) (key : ConnectionId) (d : InboundDatagram) : World :=
  match w.receiver key with
  | none => { w with routes := w.routes.remove key }
  | some h =>
    match w.accepted.lookup h with
    | none => w
    | some a =>
      if a.inbound.length < maxQueuedDatagrams then w.set h { a with inbound := a.inbound ++ [d] }
      else w

end World

/-- The connection of the server that a datagram belongs to. Only a datagram that carries no DCID is
looked up by its address. -/
def Server.existingKey (s : Server) (data : Bytes) (src : SocketAddr) : Option ConnectionId :=
  (resolveDcid s.cidMap s.shortCidLengths data).orElse fun _ =>
    if isLongHeader data = false ∨ data[5]? = some 0 then s.addrMap.lookup src else none

namespace World

/-- The datagrams that `accept` reads. -/
def handleDatagram (ext : External) (cfg : ServerConfig) (w : World) (d : InboundDatagram) (ts : ℕ)
    (ans : Answers) : World :=
  match w.server.existingKey d.data d.src with
  | some key => { w with server := w.server.handleExistingConnection key ans }
  | none =>
    match w.routes.resolve d.data d.src with
    | some key => w.deliver key d
    | none =>
      if isLongHeader d.data then
        { w with server := w.server.handleNewConnection ext cfg d.data d.src ts ans }
      else { w with server := w.server.sendStatelessReset ext w.routes d.data d.src ts ans }

/-- `accept` returns the connection `key`, whose handshake is complete. -/
def accept (w : World) (key : ConnectionId) : World :=
  match w.server.connections.lookup key with
  | none => w
  | some c =>
    if c.isHandshakeCompleted then
      match w.server.takeConnection w.routes key w.nextHandle with
      | none => w.record .panicked
      | some (server, routes, inner) =>
        { server, routes
          accepted := w.accepted.insert w.nextHandle { connectionId := key, inner }
          nextHandle := w.nextHandle + 1 }
    else w

/-! ### Operations of a handle -/

/-- Apply the issued and retired CIDs to the shared table. -/
def syncRoutes (w : World) (h : ℕ) (a : AcceptedConnection) : World :=
  { w.set h a.polled with
    routes := (w.routes.registerIssuedCids a.connectionId a.inner.issuedCids).retireCids
      a.connectionId a.inner.retiredCids }

/-- A call into ngtcp2, and its events. -/
def call (w : World) (h : ℕ) (a : AcceptedConnection) (c : NgCall) (ans : Answer) : World :=
  (w.set h (a.called ans)).record (.called a.connectionId c ans)

/-- `recv_event` returns an error. -/
def returnError (w : World) (h : ℕ) (a : AcceptedConnection) (err : Error) : World :=
  (w.set h { a with pc := .idle }).record (.returned a.connectionId (.error err))

/-- `recv_event` returns the first event, or `err` if there is none. -/
def returnEvent (w : World) (h : ℕ) (a : AcceptedConnection) (err : Error) : World :=
  match a.inner.events with
  | event :: events =>
    (w.set h { a with inner := { a.inner with events }, pc := .idle }).record
      (.returned a.connectionId (.ok event))
  | [] => w.returnError h a err

/-- The connection has ended: `recv_event` reports it. -/
def returnClosed (w : World) (h : ℕ) (a : AcceptedConnection) (err : Error) : World :=
  w.returnEvent h { a with inner := a.inner.pushConnectionClosed } err

/-- The loop of `recv_event`, up to the socket. -/
def recvLoop (w : World) (h : ℕ) (a : AcceptedConnection) (queueOpen : Bool) (flush : Answer) :
    World :=
  if a.inner.events ≠ [] then w.returnEvent h a .connectionClosed
  else if a.inner.isEnding then w.returnClosed h a .connectionClosed
  else
    match flush.error with
    | some e => (w.call h a .writePackets flush).returnError h (a.called flush) e
    | none =>
      (w.call h a .writePackets flush).set h { a.called flush with pc := .sending queueOpen }

/-- `recv_event` was called. -/
def recvEvent (w : World) (h : ℕ) (a : AcceptedConnection) (flush : Answer) : World :=
  if a.inner.events ≠ [] then w.returnEvent h a .connectionClosed
  else if a.isClosed then w.returnClosed h a .connectionClosed
  else w.recvLoop h a true flush

/-- The packets of a flush were sent. `recv_event` then takes the events and applies the CIDs once
more, but nothing was called in between. -/
def sent (w : World) (h : ℕ) (a : AcceptedConnection) : World :=
  match a.pc with
  | .flushing => (w.syncRoutes h a).set h { a.polled with pc := .idle }
  | .sending queueOpen =>
    if a.inner.events ≠ [] then (w.syncRoutes h a).returnEvent h a.polled .connectionClosed
    else (w.syncRoutes h a).set h { a.polled with pc := .selecting queueOpen }
  | _ => w

/-- A datagram of the connection itself: read it, and go on with the loop. -/
def readDatagram (w : World) (h : ℕ) (a : AcceptedConnection) (queueOpen : Bool)
    (read flush : Answer) : World :=
  match read.error.filter fun e => e.classifyConnectionError = .internal with
  | some e => (w.call h a .read read).returnError h (a.called read) e
  | none =>
    ((w.call h a .read read).syncRoutes h (a.called read)).recvLoop h (a.called read).polled
      queueOpen flush

/-- `recv_event` got something from the queue; a queue without a sender is closed. -/
def recvInbound (w : World) (h : ℕ) (a : AcceptedConnection) (read flush : Answer) : World :=
  match a.inbound with
  | _ :: inbound => (w.set h { a with inbound }).readDatagram h { a with inbound } true read flush
  | [] => if w.receiver a.connectionId = some h then w else w.recvLoop h a false flush

/-- `recv_event` got something from the socket, for itself or for another accepted connection. -/
def handleReceivedDatagram (w : World) (h : ℕ) (a : AcceptedConnection) (queueOpen : Bool)
    (d : InboundDatagram) (read flush : Answer) : World :=
  match (w.routes.resolve d.data d.src).filter fun key => key ≠ a.connectionId with
  | some key =>
    match (w.deliver key d).accepted.lookup h with
    | some a => (w.deliver key d).recvLoop h a queueOpen flush
    | none => w.deliver key d
  | none => w.readDatagram h a queueOpen read flush

/-- The timer of `recv_event` expired. -/
def recvTimer (w : World) (h : ℕ) (a : AcceptedConnection) (queueOpen : Bool)
    (expiry flush : Answer) : World :=
  match expiry.error.filter fun e =>
      e.classifyConnectionError ≠ .ignore ∧ e.classifyConnectionError ≠ .terminal with
  | some e => (w.call h a .expiry expiry).returnClosed h (a.called expiry) e
  | none => (w.call h a .expiry expiry).recvLoop h (a.called expiry) queueOpen flush

/-- `flush` was called. -/
def flush (w : World) (h : ℕ) (a : AcceptedConnection) (ans : Answer) : World :=
  match ans.error with
  | some _ => w.call h a .writePackets ans
  | none => (w.call h a .writePackets ans).set h { a.called ans with pc := .flushing }

/-- `send_datagram` was called. It takes neither the events nor the CIDs. -/
def sendDatagram (w : World) (h : ℕ) (a : AcceptedConnection) (datagram : Answer)
    (control : Option Answer) : World :=
  let a₁ := { a with inner := a.inner.call datagram.effect }
  let w := (w.set h a₁).record (.called a.connectionId .writeDatagram datagram)
  match control with
  | none => w
  | some control =>
    (w.set h { a₁ with inner := a₁.inner.call control.effect }).record
      (.called a.connectionId .writePackets control)

/-- `close` was called. -/
def close (w : World) (h : ℕ) (a : AcceptedConnection) (ans : Answer) (cancelled : Bool) : World :=
  if a.isClosed then w
  else
    let a₁ := { a with inner := a.inner.call ans.effect }
    let w := (w.set h a₁).record (.called a.connectionId .close ans)
    if ans.error.isSome || cancelled then w
    else w.set h { a₁ with inner := { a₁.inner with closed := true } }

/-- An operation on a handle, or the end of its waiting. While an operation waits, the handle is
borrowed. -/
def stepOp (w : World) (h : ℕ) (a : AcceptedConnection) (op : Op) : World :=
  match a.pc, op with
  | .idle, .flush ans => w.flush h a ans
  | .idle, .recvEvent flush => w.recvEvent h a flush
  | .idle, .sendDatagram datagram control => w.sendDatagram h a datagram control
  | .idle, .close ans cancelled => w.close h a ans cancelled
  | .idle, .pollEvent =>
    w.set h { a with inner := { a.inner with events := a.inner.events.tail } }
  | .flushing, .sent | .sending _, .sent => w.sent h a
  | .selecting true, .inbound read flush => w.recvInbound h a read flush
  | .selecting queueOpen, .socket d read flush =>
    w.handleReceivedDatagram h a queueOpen d read flush
  | .selecting _, .socketError => w.returnError h a (.internal "recv error")
  | .selecting queueOpen, .timer expiry flush => w.recvTimer h a queueOpen expiry flush
  | _, .cancel => w.set h { a with pc := .idle }
  | _, _ => w

/-- A handle is dropped. -/
def drop (w : World) (h : ℕ) (a : AcceptedConnection) : World :=
  { w with routes := w.routes.remove a.connectionId, accepted := w.accepted.erase h }

/-- What happens under a label. -/
def step (ext : External) (cfg : ServerConfig) (w : World) : Label → World
  | .removeClosed => { w with server := w.server.removeClosedConnections }
  | .accept key => w.accept key
  | .datagram d ts ans => w.handleDatagram ext cfg d ts ans
  | .timers keys timers => { w with server := w.server.handleTimers timers keys }
  | .op h op =>
    match w.accepted.lookup h with
    | some a => w.stepOp h a op
    | none => w
  | .drop h =>
    match w.accepted.lookup h with
    | some a => w.drop h a
    | none => w

end World

end Ngtcp2Rs
