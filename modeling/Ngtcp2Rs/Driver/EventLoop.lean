import Ngtcp2Rs.Server.Handlers
import Ngtcp2Rs.Lib.Run

/-!
# The loop around one connection

`AcceptedConnection` of `tokio-ngtcp2/src/server.rs` and `ClientConnection` of
`tokio-ngtcp2/src/client.rs` drive a connection with nearly the same code: `recv_event` returns
events, writes what is to be sent, and waits for the socket or the timer. An `EventLoop` is either
of them; `Driver` says which, where they differ. A loop is cut where it waits, and keeps a log of
what it did.
-/

namespace Ngtcp2Rs

open Lib

/-- The two structs that drive a connection for the application. -/
inductive Driver where
  | accepted
  | client
  deriving DecidableEq, Repr

/-- Where the operation on a connection waits. -/
inductive LoopPc where
  /-- no operation -/
  | idle
  /-- `flush`, at the socket -/
  | flushing
  /-- `recv_event`, at the socket -/
  | sending
  /-- `recv_event`, in its select -/
  | selecting
  deriving DecidableEq, Repr

/-- What a loop did. -/
inductive LoopAction where
  /-- a call into ngtcp2; `events` are those that were not delivered yet after it -/
  | called (call : NgCall) (answer : Answer) (events : List ConnectionEvent)
  /-- the packets of the last write were sent -/
  | sent
  /-- `recv_event` waits for the socket and the timer -/
  | waiting
  /-- `recv_event` returned -/
  | returned (result : Except Error ConnectionEvent)
  /-- `poll_event` gave an event -/
  | polled (event : ConnectionEvent)
  deriving DecidableEq

/-- What can be done with a connection, or what its operation waited for. -/
inductive LoopOp where
  | flush (ans : Answer)
  | recvEvent (flush : Answer)
  /-- the packets of the flush were sent -/
  | sent
  /-- a datagram to read -/
  | datagram (read flush : Answer)
  /-- the select ended with nothing to do here -/
  | wake (flush : Answer)
  | socketError
  | timer (expiry flush : Answer)
  /-- `control` are the control packets, when the datagram was accepted without a packet -/
  | sendDatagram (datagram : Answer) (control : Option Answer)
  | close (ans : Answer) (cancelled : Bool)
  | pollEvent
  /-- the future of the operation is dropped -/
  | cancel
  deriving DecidableEq

/-- A connection and the loop around it. `log` is not in the program; it is newest first. -/
structure EventLoop where
  queued : List ConnectionEvent := []
  events : List ConnectionEvent := []
  isInClosingPeriod : Bool := false
  isInDrainingPeriod : Bool := false
  closed : Bool := false
  pc : LoopPc := .idle
  log : List LoopAction := []
  deriving DecidableEq

namespace EventLoop

/-- The connection is in its closing or draining period. -/
def isEnding (l : EventLoop) : Bool := l.isInClosingPeriod || l.isInDrainingPeriod

/-- The connection was closed, or is closing or draining. -/
def isClosed (l : EventLoop) : Bool := l.closed || l.isEnding

/-- Add to the log. -/
def record (l : EventLoop) (a : LoopAction) : EventLoop := { l with log := a :: l.log }

/-- What a call into ngtcp2 does. -/
def apply (l : EventLoop) (e : Effect) : EventLoop :=
  { l with
    queued := l.queued ++ e.events
    isInClosingPeriod := l.isInClosingPeriod || e.closing
    isInDrainingPeriod := l.isInDrainingPeriod || e.draining }

/-- Take the events over. -/
def drainEvents (l : EventLoop) : EventLoop :=
  { l with events := l.events ++ l.queued, queued := [] }

/-- A call into ngtcp2. -/
def call (l : EventLoop) (c : NgCall) (ans : Answer) : EventLoop :=
  (l.apply ans.effect).record (.called c ans l.events)

/-- A call into ngtcp2, and its events. -/
def callAndDrain (l : EventLoop) (c : NgCall) (ans : Answer) : EventLoop :=
  (l.apply ans.effect).drainEvents.record (.called c ans (l.apply ans.effect).drainEvents.events)

/-- Queue the event that ends a connection, once. -/
def pushConnectionClosed (l : EventLoop) : EventLoop :=
  if l.closed then l else { l with closed := true, events := l.events ++ [.connectionClosed] }

/-- `recv_event` returns an error. -/
def returnError (l : EventLoop) (err : Error) : EventLoop :=
  { l with pc := .idle }.record (.returned (.error err))

/-- `recv_event` returns the first event, or `err` if there is none. -/
def returnEvent (l : EventLoop) (err : Error) : EventLoop :=
  match l.events with
  | event :: events => { l with events, pc := .idle }.record (.returned (.ok event))
  | [] => l.returnError err

/-- The connection has ended: `recv_event` reports it. -/
def returnClosed (l : EventLoop) (err : Error) : EventLoop := l.pushConnectionClosed.returnEvent err

/-- `flush` up to the socket. The client takes the events over later, if at all. -/
def write (d : Driver) (l : EventLoop) (ans : Answer) : EventLoop :=
  match d with
  | .accepted => l.callAndDrain .writePackets ans
  | .client => l.call .writePackets ans

/-- The loop of `recv_event`, up to the socket. -/
def recvLoop (d : Driver) (l : EventLoop) (flush : Answer) : EventLoop :=
  if l.events ≠ [] then l.returnEvent .connectionClosed
  else if l.isEnding then l.returnClosed .connectionClosed
  else
    match flush.error with
    | some e => (l.write d flush).returnError e
    | none => { l.write d flush with pc := .sending }

/-- `recv_event` was called. -/
def recvEvent (d : Driver) (l : EventLoop) (flush : Answer) : EventLoop :=
  if l.events ≠ [] then l.returnEvent .connectionClosed
  else if l.isClosed then l.returnClosed .connectionClosed
  else l.recvLoop d flush

/-- The events of a flush, which only the client has not taken over yet. -/
def drainSent (d : Driver) (l : EventLoop) : EventLoop :=
  match d with
  | .accepted => l
  | .client => l.drainEvents

/-- `recv_event` goes on after the packets were sent. -/
def afterSending (d : Driver) (l : EventLoop) : EventLoop :=
  if (l.drainSent d).events ≠ [] then (l.drainSent d).returnEvent .connectionClosed
  else { l.drainSent d with pc := .selecting }.record .waiting

/-- The packets of a flush were sent. -/
def sent (d : Driver) (l : EventLoop) : EventLoop :=
  match l.pc with
  | .flushing => { l with pc := .idle }.record .sent
  | .sending => (l.record .sent).afterSending d
  | _ => l

/-- A datagram: read it, and go on with the loop. An internal error is returned by an accepted
connection; the client takes the connection for closed. -/
def readDatagram (d : Driver) (l : EventLoop) (read flush : Answer) : EventLoop :=
  match read.error.filter fun e => e.classifyConnectionError = .internal with
  | some e =>
    match d with
    | .accepted => (l.callAndDrain .read read).returnError e
    | .client => (l.callAndDrain .read read).pushConnectionClosed.recvLoop d flush
  | none => (l.callAndDrain .read read).recvLoop d flush

/-- The timer of `recv_event` expired. The client leaves the error to the next round of the loop. -/
def recvTimer (d : Driver) (l : EventLoop) (expiry flush : Answer) : EventLoop :=
  match d with
  | .accepted =>
    match expiry.error.filter fun e =>
        e.classifyConnectionError ≠ .ignore ∧ e.classifyConnectionError ≠ .terminal with
    | some e => (l.callAndDrain .expiry expiry).returnClosed e
    | none => (l.callAndDrain .expiry expiry).recvLoop d flush
  | .client => (l.callAndDrain .expiry expiry).recvLoop d flush

/-- `flush` was called. -/
def flush (d : Driver) (l : EventLoop) (ans : Answer) : EventLoop :=
  match ans.error with
  | some _ => l.write d ans
  | none => { l.write d ans with pc := .flushing }

/-- `send_datagram` was called. It does not take the events. -/
def sendDatagram (l : EventLoop) (datagram : Answer) (control : Option Answer) : EventLoop :=
  match control with
  | none => l.call .writeDatagram datagram
  | some control => (l.call .writeDatagram datagram).call .writePackets control

/-- `close` was called. -/
def close (l : EventLoop) (ans : Answer) (cancelled : Bool) : EventLoop :=
  if l.isClosed then l
  else if ans.error.isSome || cancelled then l.call .close ans
  else { l.call .close ans with closed := true }

/-- `poll_event` was called. -/
def pollEvent (l : EventLoop) : EventLoop :=
  match l.events with
  | event :: events => { l with events }.record (.polled event)
  | [] => l

/-- An operation on a connection, or the end of its waiting. While an operation waits, the connection
is borrowed. -/
def step (d : Driver) (l : EventLoop) (op : LoopOp) : EventLoop :=
  match l.pc, op with
  | .idle, .flush ans => l.flush d ans
  | .idle, .recvEvent flush => l.recvEvent d flush
  | .idle, .sendDatagram datagram control => l.sendDatagram datagram control
  | .idle, .close ans cancelled => l.close ans cancelled
  | .idle, .pollEvent => l.pollEvent
  | .flushing, .sent | .sending, .sent => l.sent d
  | .selecting, .datagram read flush => l.readDatagram d read flush
  | .selecting, .wake flush => l.recvLoop d flush
  | .selecting, .socketError => l.returnError (.internal "recv error")
  | .selecting, .timer expiry flush => l.recvTimer d expiry flush
  | _, .cancel => { l with pc := .idle }
  | _, _ => l

/-! ## Closed connections -/

@[simp] theorem record_log (l : EventLoop) (a : LoopAction) : (l.record a).log = a :: l.log := rfl

@[simp] theorem pc_returnEvent (l : EventLoop) (err : Error) : (l.returnEvent err).pc = .idle := by
  unfold returnEvent
  split <;> rfl

@[simp] theorem isClosed_returnEvent (l : EventLoop) (err : Error) :
    (l.returnEvent err).isClosed = l.isClosed := by
  unfold returnEvent
  split <;> rfl

@[simp] theorem log_pushConnectionClosed (l : EventLoop) : l.pushConnectionClosed.log = l.log := by
  unfold pushConnectionClosed
  split <;> rfl

@[simp] theorem closed_pushConnectionClosed (l : EventLoop) : l.pushConnectionClosed.closed = true := by
  unfold pushConnectionClosed
  split
  · assumption
  · rfl

@[simp] theorem isClosed_returnClosed (l : EventLoop) (err : Error) :
    (l.returnClosed err).isClosed = true := by
  rw [returnClosed, isClosed_returnEvent]
  simp [isClosed]

@[simp] theorem pc_returnClosed (l : EventLoop) (err : Error) : (l.returnClosed err).pc = .idle :=
  pc_returnEvent _ err

theorem isClosed_apply {l : EventLoop} (h : l.isClosed = true) (e : Effect) :
    (l.apply e).isClosed = true := by
  unfold isClosed isEnding at h ⊢
  simp only [apply, Bool.or_eq_true] at h ⊢
  tauto

/-- The loop of a connection that has ended returns an event, or reports the end. -/
theorem recvLoop_ended {d : Driver} {l : EventLoop} {flush : Answer}
    (h : l.isEnding = true ∨ l.closed = true ∧ l.events ≠ []) :
    l.isClosed = true ∧
      (l.events ≠ [] ∧ l.recvLoop d flush = l.returnEvent .connectionClosed ∨
        l.recvLoop d flush = l.returnClosed .connectionClosed) := by
  refine ⟨?_, ?_⟩
  · unfold isClosed
    rcases h with h | ⟨h, -⟩ <;> simp [h]
  · unfold recvLoop
    by_cases hev : l.events ≠ []
    · exact .inl ⟨hev, if_pos hev⟩
    · rcases h with h | ⟨-, hne⟩
      · rw [if_neg hev, if_pos h]
        exact .inr rfl
      · exact absurd hne hev

/-- `recv_event` does not run on a connection that was closed. -/
def ClosedIdle (l : EventLoop) : Prop := l.closed = true → l.pc = .idle ∨ l.pc = .flushing

section ClosedIdle

variable {d : Driver} {l : EventLoop}

theorem closedIdle_of_idle (h : l.pc = .idle) : l.ClosedIdle := fun _ => .inl h

theorem closedIdle_of_open (h : l.closed = false) : l.ClosedIdle := fun hc => by
  rw [h] at hc
  cases hc

theorem closed_write (l : EventLoop) (ans : Answer) : (l.write d ans).closed = l.closed := by
  cases d <;> rfl

@[simp] theorem pc_write (l : EventLoop) (ans : Answer) : (l.write d ans).pc = l.pc := by
  cases d <;> rfl

theorem closed_drainSent (l : EventLoop) : (l.drainSent d).closed = l.closed := by
  cases d <;> rfl

theorem log_drainSent (l : EventLoop) : (l.drainSent d).log = l.log := by
  cases d <;> rfl

theorem events_pushConnectionClosed_ne (h : l.closed = false) :
    l.pushConnectionClosed.events ≠ [] := by
  simp [pushConnectionClosed, h]

theorem closedIdle_recvLoop (flush : Answer) (h : l.closed = false) :
    (l.recvLoop d flush).ClosedIdle := by
  unfold recvLoop
  split
  · exact closedIdle_of_idle (pc_returnEvent _ _)
  split
  · exact closedIdle_of_idle (pc_returnClosed _ _)
  split
  · exact closedIdle_of_idle rfl
  · exact closedIdle_of_open ((closed_write l flush).trans h)

/-- A connection whose `recv_event` runs is not closed. -/
theorem ClosedIdle.running (h : l.ClosedIdle) (hpc : l.pc = .sending ∨ l.pc = .selecting) :
    l.closed = false := by
  by_contra hc
  rcases h (by simpa using hc) with h | h <;> simp [h] at hpc

theorem closedIdle_readDatagram (read flush : Answer) (h : l.closed = false) :
    (l.readDatagram d read flush).ClosedIdle := by
  have hcall : (l.callAndDrain .read read).closed = false := h
  unfold readDatagram
  split
  · split
    · exact closedIdle_of_idle rfl
    · obtain ⟨-, ⟨-, heq⟩ | heq⟩ := @recvLoop_ended .client
          (l.callAndDrain .read read).pushConnectionClosed flush
          (.inr ⟨closed_pushConnectionClosed _, events_pushConnectionClosed_ne hcall⟩)
      · rw [heq]
        exact closedIdle_of_idle (pc_returnEvent _ _)
      · rw [heq]
        exact closedIdle_of_idle (pc_returnClosed _ _)
  · exact closedIdle_recvLoop flush hcall

theorem closedIdle_recvTimer (expiry flush : Answer) (h : l.closed = false) :
    (l.recvTimer d expiry flush).ClosedIdle := by
  unfold recvTimer
  split
  · split
    · exact closedIdle_of_idle (pc_returnClosed _ _)
    · exact closedIdle_recvLoop flush h
  · exact closedIdle_recvLoop flush h

theorem ClosedIdle.step (h : l.ClosedIdle) (op : LoopOp) : (l.step d op).ClosedIdle := by
  unfold EventLoop.step
  split
  · rename_i ans hpc
    unfold EventLoop.flush
    split
    · exact closedIdle_of_idle ((pc_write l ans).trans hpc)
    · exact fun _ => .inr rfl
  · unfold EventLoop.recvEvent
    split
    · exact closedIdle_of_idle (pc_returnEvent _ _)
    split
    · exact closedIdle_of_idle (pc_returnClosed _ _)
    · rename_i hclosed
      refine closedIdle_recvLoop _ ?_
      by_contra hc
      exact hclosed (by simp [isClosed, hc])
  · rename_i hpc
    unfold EventLoop.sendDatagram
    split <;> exact closedIdle_of_idle hpc
  · rename_i hpc
    unfold EventLoop.close
    split
    · exact h
    · split <;> exact closedIdle_of_idle hpc
  · rename_i hpc
    unfold EventLoop.pollEvent
    split <;> exact closedIdle_of_idle hpc
  · rename_i hpc
    simp only [EventLoop.sent, hpc]
    exact closedIdle_of_idle rfl
  · rename_i hpc
    have hdrain : ((l.record .sent).drainSent d).closed = false :=
      (closed_drainSent _).trans (h.running (.inl hpc))
    simp only [EventLoop.sent, hpc, afterSending]
    split
    · exact closedIdle_of_idle (pc_returnEvent _ _)
    · exact closedIdle_of_open hdrain
  · rename_i hpc
    exact closedIdle_readDatagram _ _ (h.running (.inr hpc))
  · rename_i hpc
    exact closedIdle_recvLoop _ (h.running (.inr hpc))
  · exact closedIdle_of_idle rfl
  · rename_i hpc
    exact closedIdle_recvTimer _ _ (h.running (.inr hpc))
  · exact closedIdle_of_idle rfl
  · exact h

end ClosedIdle

end EventLoop

end Ngtcp2Rs
