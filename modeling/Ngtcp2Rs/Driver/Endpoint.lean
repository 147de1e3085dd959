import Ngtcp2Rs.Driver.Driven
import Mathlib.Logic.Relation

/-!
# The two drivers

`recv_event`, `flush`, `close`, `send_datagram` and `migrate` of `AcceptedConnection` and
`ClientConnection`, with the data that `Driver.EventLoop` leaves out. `Driver` says which of the two,
where they differ; a loop is cut where it waits. Whatever an endpoint does comes down to operations
on the connection that it drives (`step_cases`), so that what these keep holds in every run:

* `events_delivered`: events are delivered in order, each once, and `recv_event` does not wait while
  there is one;
* `qlog_complete`: the qlog file is complete up to where it failed, and `recv_event` does not wait
  before it is written.
-/

namespace Ngtcp2Rs

open Lib

/-- What can be done with a connection, or what its operation waited for. -/
inductive EndpointOp where
  | flush (o : Outcome) (qlogFails : Option ℕ)
  | recvEvent (flush : Outcome) (qlogFails : Option ℕ)
  /-- the packets of the flush were sent -/
  | sent (qlogFails : Option ℕ)
  /-- a datagram to read, from `src`; an accepted connection received it at `dst` -/
  | datagram (src dst : SocketAddr) (read flush : Outcome) (qlogFails : Option ℕ)
  /-- the select ended with nothing to do here -/
  | wake (flush : Outcome) (qlogFails : Option ℕ)
  | socketError
  | timer (expiry flush : Outcome) (qlogFails : Option ℕ)
  /-- `control` are the control packets, when the datagram was accepted without a packet -/
  | sendDatagram (datagram : Outcome) (control : Option Outcome)
  /-- `written`: the packet has a length -/
  | close (o : Outcome) (written cancelled : Bool)
  | pollEvent
  /-- `bound` is the address of the new socket, if there is one -/
  | migrate (bound : Option SocketAddr) (o flush : Outcome)
  /-- the future of the operation is dropped -/
  | cancel
  deriving DecidableEq

/-- A connection, its driver and its socket. -/
structure Endpoint extends Driven where
  socket : SocketAddr
  localAddr : SocketAddr
  pc : LoopPc := .idle

namespace Endpoint

/-- Something is done with the connection. -/
def on (e : Endpoint) (op : DrivenOp) : Endpoint := { e with toDriven := e.toDriven.step op }

/-- `recv_event` returns an error. -/
def returnError (e : Endpoint) (err : Error) : Endpoint := { e.on (.returnError err) with pc := .idle }

/-- `recv_event` returns the first event, or `err` if there is none. -/
def returnEvent (e : Endpoint) (err : Error) : Endpoint :=
  if e.events = [] then e.returnError err else { e.on .returnEvent with pc := .idle }

/-- The connection has ended: `recv_event` reports it. -/
def returnClosed (e : Endpoint) (err : Error) : Endpoint := (e.on .pushConnectionClosed).returnEvent err

/-- `flush`, up to the socket. An accepted connection takes the events over and writes the qlog at
once, the client does so after the packets were sent. -/
def write (d : Driver) (e : Endpoint) (o : Outcome) (qlogFails : Option ℕ) : Endpoint :=
  match d with
  | .accepted => (e.on (.callAndDrain .writePackets o)).on (.writeQlog qlogFails)
  | .client =>
    match o.error with
    | some _ => e.on (.call .writePackets o)
    | none => (e.on (.call .writePackets o)).on .takePath

/-- The loop of `recv_event`, up to the socket. -/
def recvLoop (d : Driver) (e : Endpoint) (flush : Outcome) (qlogFails : Option ℕ) : Endpoint :=
  if e.events ≠ [] then e.returnEvent .connectionClosed
  else if e.isEnding then e.returnClosed .connectionClosed
  else
    match flush.error with
    | some err => (e.write d flush qlogFails).returnError err
    | none => { e.write d flush qlogFails with pc := .sending }

/-- `recv_event` was called. -/
def recvEvent (d : Driver) (e : Endpoint) (flush : Outcome) (qlogFails : Option ℕ) : Endpoint :=
  if e.events ≠ [] then e.returnEvent .connectionClosed
  else if e.isClosed then e.returnClosed .connectionClosed
  else e.recvLoop d flush qlogFails

/-- The end of `flush`, after the socket. -/
def flushed (d : Driver) (e : Endpoint) (qlogFails : Option ℕ) : Endpoint :=
  match d with
  | .accepted => e.on .sent
  | .client => (e.on .sent).on (.writeQlog qlogFails)

/-- `recv_event` goes on after the packets were sent. -/
def afterSending (e : Endpoint) : Endpoint :=
  if (e.on .drainEvents).events ≠ [] then (e.on .drainEvents).returnEvent .connectionClosed
  else { (e.on .drainEvents).on .waiting with pc := .selecting }

/-- The packets of a flush were sent. -/
def sent (d : Driver) (e : Endpoint) (qlogFails : Option ℕ) : Endpoint :=
  match e.pc with
  | .flushing => { e.flushed d qlogFails with pc := .idle }
  | .sending => (e.flushed d qlogFails).afterSending
  | _ => e

/-- The path of a datagram that was received. -/
def readPath (d : Driver) (e : Endpoint) (src dst : SocketAddr) : PathInfo :=
  match d with
  | .accepted => ⟨dst, src⟩
  | .client => ⟨e.localAddr, src⟩

/-- A datagram: `handle_datagram` of the server, `handle_packet` of the client, and on with the
loop. -/
def readDatagram (d : Driver) (e : Endpoint) (src dst : SocketAddr) (read flush : Outcome)
    (qlogFails : Option ℕ) : Endpoint :=
  let e := e.on (.callAndDrain (.read (e.readPath d src dst)) read)
  match read.error.filter fun err => err.classifyConnectionError = .internal with
  | some err =>
    match d with
    | .accepted => e.returnError err
    | .client => (e.on .pushConnectionClosed).recvLoop d flush qlogFails
  | none => e.recvLoop d flush qlogFails

/-- The timer of `recv_event` expired. The client leaves the error to the next round of the loop. -/
def recvTimer (d : Driver) (e : Endpoint) (expiry flush : Outcome) (qlogFails : Option ℕ) : Endpoint :=
  let e := e.on (.callAndDrain .expiry expiry)
  match d with
  | .accepted =>
    match expiry.error.filter fun err =>
        err.classifyConnectionError ≠ .ignore ∧ err.classifyConnectionError ≠ .terminal with
    | some err => e.returnClosed err
    | none => e.recvLoop d flush qlogFails
  | .client => e.recvLoop d flush qlogFails

/-- `flush` was called. -/
def flush (d : Driver) (e : Endpoint) (o : Outcome) (qlogFails : Option ℕ) : Endpoint :=
  match o.error with
  | some _ => e.write d o qlogFails
  | none => { e.write d o qlogFails with pc := .flushing }

/-- `send_datagram` was called. It does not take the events. -/
def sendDatagram (e : Endpoint) (datagram : Outcome) (control : Option Outcome) : Endpoint :=
  match control with
  | none => e.on (.call .writeDatagram datagram)
  | some control => (e.on (.call .writeDatagram datagram)).on (.call .writePackets control)

/-- `close` was called. -/
def close (e : Endpoint) (o : Outcome) (written cancelled : Bool) : Endpoint :=
  if e.isClosed then e
  else
    let e := e.on (.call .close o)
    if o.error.isSome then e
    else
      let e := if written then e.on (.sendClose e.localAddr) else e
      if cancelled then e else e.on .setClosed

/-- `migrate` was called: everything stays as it is unless there is a socket and ngtcp2 agrees. -/
def migrate (e : Endpoint) (bound : Option SocketAddr) (o flush : Outcome) : Endpoint :=
  match bound with
  | none => e
  | some bound =>
    let e := e.on (.migrate bound o)
    match o.error with
    | some _ => e
    | none => { e with socket := bound, localAddr := bound }.flush .client flush none

/-- An operation on a connection, or the end of its waiting. While an operation waits, the connection
is borrowed. Only the client migrates. -/
def step (d : Driver) (e : Endpoint) (op : EndpointOp) : Endpoint :=
  match e.pc, op with
  | .idle, .flush o qlogFails => e.flush d o qlogFails
  | .idle, .recvEvent flush qlogFails => e.recvEvent d flush qlogFails
  | .idle, .sendDatagram datagram control => e.sendDatagram datagram control
  | .idle, .close o written cancelled => e.close o written cancelled
  | .idle, .pollEvent => e.on .pollEvent
  | .idle, .migrate bound o flush =>
    match d with
    | .accepted => e
    | .client => e.migrate bound o flush
  | .flushing, .sent qlogFails | .sending, .sent qlogFails => e.sent d qlogFails
  | .selecting, .datagram src dst read flush qlogFails =>
    e.readDatagram d src dst read flush qlogFails
  | .selecting, .wake flush qlogFails => e.recvLoop d flush qlogFails
  | .selecting, .socketError => e.returnError (.internal "recv error")
  | .selecting, .timer expiry flush qlogFails => e.recvTimer d expiry flush qlogFails
  | _, .cancel => { e with pc := .idle }
  | _, _ => e

/-! ## Operations on the connection -/

/-- The driver `d` gets from `c` to `c'` by its operations on the connection. -/
def Does (d : Driver) : Driven → Driven → Prop :=
  Relation.ReflTransGen fun c c' => ∃ op : DrivenOp, op.Of d ∧ c' = c.step op

variable {d : Driver} {e e' : Endpoint}

theorem Does.keeps {I : Driven → Prop} (hI : ∀ c op, DrivenOp.Of d op → I c → I (c.step op))
    {c c' : Driven} (h : Does d c c') (hc : I c) : I c' := by
  induction h with
  | refl => exact hc
  | tail _ hstep ih =>
    obtain ⟨op, hop, rfl⟩ := hstep
    exact hI _ op hop ih

/-- The driver gets from `e` to `e'` by operations on the connection, on the same socket. -/
structure Drives (d : Driver) (e e' : Endpoint) : Prop where
  does : Does d e.toDriven e'.toDriven
  socket : e'.socket = e.socket
  localAddr : e'.localAddr = e.localAddr

theorem Drives.refl (e : Endpoint) : Drives d e e := ⟨Relation.ReflTransGen.refl, rfl, rfl⟩

theorem Drives.trans {e₁ e₂ e₃ : Endpoint} (h : Drives d e₁ e₂) (h' : Drives d e₂ e₃) :
    Drives d e₁ e₃ :=
  ⟨h.does.trans h'.does, h'.socket.trans h.socket, h'.localAddr.trans h.localAddr⟩

theorem drives_on (e : Endpoint) (op : DrivenOp) (hop : op.Of d) : Drives d e (e.on op) :=
  ⟨Relation.ReflTransGen.single ⟨op, hop, rfl⟩, rfl, rfl⟩

/-- One more operation. -/
theorem Drives.on (h : Drives d e e') (op : DrivenOp) (hop : op.Of d) : Drives d e (e'.on op) :=
  h.trans (drives_on e' op hop)

/-- The place where an endpoint waits is not the connection's. -/
theorem Drives.waitAt (h : Drives d e e') (pc : LoopPc) : Drives d e { e' with pc } :=
  ⟨h.does, h.socket, h.localAddr⟩

theorem drives_returnError (e : Endpoint) (err : Error) : Drives d e (e.returnError err) :=
  (drives_on e (.returnError err) trivial).waitAt .idle

theorem drives_returnEvent (e : Endpoint) (err : Error) : Drives d e (e.returnEvent err) := by
  unfold returnEvent
  split
  · exact drives_returnError e err
  · exact (drives_on e .returnEvent trivial).waitAt .idle

theorem drives_returnClosed (e : Endpoint) (err : Error) : Drives d e (e.returnClosed err) :=
  (drives_on e .pushConnectionClosed trivial).trans (drives_returnEvent _ err)

theorem drives_write (e : Endpoint) (o : Outcome) (qlogFails : Option ℕ) :
    Drives d e (e.write d o qlogFails) := by
  cases d with
  | accepted =>
    exact (drives_on e (.callAndDrain .writePackets o) trivial).on (.writeQlog qlogFails) trivial
  | client =>
    have hcall : Drives .client e (e.on (.call .writePackets o)) := drives_on e _ trivial
    simp only [write]
    split
    · exact hcall
    · exact hcall.on .takePath rfl

theorem drives_recvLoop (e : Endpoint) (flush : Outcome) (qlogFails : Option ℕ) :
    Drives d e (e.recvLoop d flush qlogFails) := by
  unfold recvLoop
  split
  · exact drives_returnEvent e _
  split
  · exact drives_returnClosed e _
  split
  · exact (drives_write e flush qlogFails).trans (drives_returnError _ _)
  · exact (drives_write e flush qlogFails).waitAt .sending

theorem drives_flush (e : Endpoint) (o : Outcome) (qlogFails : Option ℕ) :
    Drives d e (e.flush d o qlogFails) := by
  unfold flush
  split
  · exact drives_write e o qlogFails
  · exact (drives_write e o qlogFails).waitAt .flushing

theorem drives_flushed (e : Endpoint) (qlogFails : Option ℕ) :
    Drives d e (e.flushed d qlogFails) := by
  cases d with
  | accepted => exact drives_on e .sent trivial
  | client => exact (drives_on e .sent trivial).on (.writeQlog qlogFails) trivial

theorem drives_afterSending (e : Endpoint) : Drives d e e.afterSending := by
  have hdrain : Drives d e (e.on .drainEvents) := drives_on e _ trivial
  unfold afterSending
  split
  · exact hdrain.trans (drives_returnEvent _ _)
  · exact (hdrain.on .waiting trivial).waitAt .selecting

theorem drives_readDatagram (e : Endpoint) (src dst : SocketAddr) (read flush : Outcome)
    (qlogFails : Option ℕ) : Drives d e (e.readDatagram d src dst read flush qlogFails) := by
  have hread : Drives d e (e.on (.callAndDrain (.read (e.readPath d src dst)) read)) :=
    drives_on e _ trivial
  unfold readDatagram
  split
  · cases d with
    | accepted => exact hread.trans (drives_returnError _ _)
    | client =>
      exact (hread.on .pushConnectionClosed trivial).trans (drives_recvLoop _ flush qlogFails)
  · exact hread.trans (drives_recvLoop _ flush qlogFails)

theorem drives_recvTimer (e : Endpoint) (expiry flush : Outcome) (qlogFails : Option ℕ) :
    Drives d e (e.recvTimer d expiry flush qlogFails) := by
  have hexpiry : Drives d e (e.on (.callAndDrain .expiry expiry)) := drives_on e _ trivial
  cases d with
  | accepted =>
    simp only [recvTimer]
    split
    · exact hexpiry.trans (drives_returnClosed _ _)
    · exact hexpiry.trans (drives_recvLoop _ flush qlogFails)
  | client => exact hexpiry.trans (drives_recvLoop _ flush qlogFails)

theorem drives_close (e : Endpoint) (o : Outcome) (written cancelled : Bool) :
    Drives d e (e.close o written cancelled) := by
  unfold close
  split
  · exact .refl e
  have hcall : Drives d e (e.on (.call .close o)) := drives_on e _ trivial
  dsimp only
  split
  · exact hcall
  have hsent : Drives d e
      (if written then (e.on (.call .close o)).on (.sendClose (e.on (.call .close o)).localAddr)
        else e.on (.call .close o)) := by
    split
    · exact hcall.on (.sendClose _) trivial
    · exact hcall
  split
  · exact hsent
  · exact hsent.on .setClosed trivial

/-- The socket of a migration takes the place of the old one. -/
def moved (e : Endpoint) (bound : SocketAddr) (o : Outcome) : Endpoint :=
  { e.on (.migrate bound o) with socket := bound, localAddr := bound }

/-- **What a step does**: operations on the connection and, on a client, a migration before them that
ngtcp2 agreed to; or a migration that it refused. -/
theorem step_cases (d : Driver) (e : Endpoint) (op : EndpointOp) :
    Drives d e (e.step d op) ∨ d = .client ∧ ∃ bound o,
      (o.error.isSome ∧ e.step d op = e.on (.migrate bound o)) ∨
      (o.error = none ∧ Drives d (e.moved bound o) (e.step d op)) := by
  unfold step
  split
  · exact .inl (drives_flush e _ _)
  · unfold recvEvent
    split
    · exact .inl (drives_returnEvent e _)
    split
    · exact .inl (drives_returnClosed e _)
    · exact .inl (drives_recvLoop e _ _)
  · unfold sendDatagram
    split
    · exact .inl (drives_on e (.call .writeDatagram _) trivial)
    · exact .inl ((drives_on e (.call .writeDatagram _) trivial).on (.call .writePackets _) trivial)
  · exact .inl (drives_close e _ _ _)
  · exact .inl (drives_on e .pollEvent trivial)
  · rename_i bound o flush _
    cases d with
    | accepted => exact .inl (.refl e)
    | client =>
      cases bound with
      | none => exact .inl (.refl e)
      | some bound =>
        refine .inr ⟨rfl, bound, o, ?_⟩
        cases herror : o.error with
        | some err => exact .inl ⟨rfl, by simp [migrate, herror]⟩
        | none =>
          refine .inr ⟨rfl, ?_⟩
          simp only [migrate, herror]
          exact drives_flush (e.moved bound o) flush none
  · rename_i hpc
    simp only [sent, hpc]
    exact .inl ((drives_flushed e _).waitAt .idle)
  · rename_i hpc
    simp only [sent, hpc]
    exact .inl ((drives_flushed e _).trans (drives_afterSending _))
  · exact .inl (drives_readDatagram e _ _ _ _ _)
  · exact .inl (drives_recvLoop e _ _)
  · exact .inl (drives_returnError e _)
  · exact .inl (drives_recvTimer e _ _ _)
  · exact .inl ((Drives.refl e).waitAt .idle)
  · exact .inl (.refl e)

/-- What the operations of a driver keep, its runs keep. -/
theorem run_keeps {I : Driven → Prop}
    (hI : ∀ c op, DrivenOp.Of d op ∨ d = .client ∧ (∃ bound o, op = .migrate bound o) → I c →
      I (c.step op))
    (ops : List EndpointOp) (e : Endpoint) (he : I e.toDriven) : I (run (step d) e ops).toDriven := by
  have hdoes {c c' : Driven} (h : Does d c c') (hc : I c) : I c' :=
    h.keeps (fun c op hop => hI c op (.inl hop)) hc
  refine run_preserves (I := fun e => I e.toDriven) (fun s op hs => ?_) ops e he
  rcases step_cases d s op with h | ⟨rfl, bound, o, h⟩
  · exact hdoes h.does hs
  · have hmigrate := hI s.toDriven (.migrate bound o) (.inr ⟨rfl, bound, o, rfl⟩) hs
    rcases h with ⟨-, heq⟩ | ⟨-, h⟩
    · rw [heq]
      exact hmigrate
    · exact hdoes h.does hmigrate

/-! ## Waiting -/

/-- `recv_event` waits with nothing left to deliver or to write to the qlog. -/
structure Waits (d : Driver) (e : Endpoint) : Prop where
  events : e.pc = .selecting → e.events = [] ∧ e.conn.queued = []
  qlog : e.pc = .selecting ∨ d = .accepted ∧ e.pc = .sending → e.qlog.isOpen = true →
    e.conn.qlogData = []

theorem waits_of_pc (h : e.pc = .idle ∨ e.pc = .flushing) : e.Waits d := by
  constructor <;> rcases h with h | h <;> simp [h]

@[simp] theorem pc_on (e : Endpoint) (op : DrivenOp) : (e.on op).pc = e.pc := rfl

@[simp] theorem pc_returnEvent (e : Endpoint) (err : Error) : (e.returnEvent err).pc = .idle := by
  unfold returnEvent
  split <;> rfl

theorem pc_write (e : Endpoint) (o : Outcome) (qlogFails : Option ℕ) :
    (e.write d o qlogFails).pc = e.pc := by
  cases d with
  | accepted => rfl
  | client =>
    simp only [write]
    split <;> rfl

theorem waits_recvLoop (e : Endpoint) (flush : Outcome) (qlogFails : Option ℕ) :
    (e.recvLoop d flush qlogFails).Waits d := by
  unfold recvLoop
  split
  · exact waits_of_pc (.inl (pc_returnEvent _ _))
  split
  · exact waits_of_pc (.inl (pc_returnEvent _ _))
  split
  · exact waits_of_pc (.inl rfl)
  · refine ⟨fun h => (by cases h), fun h => ?_⟩
    rcases h with h | ⟨rfl, -⟩
    · cases h
    · exact Driven.qlogData_writeQlog _ qlogFails

theorem waits_afterSending (h : e.qlog.isOpen = true → e.conn.qlogData = []) :
    e.afterSending.Waits d := by
  unfold afterSending
  split
  · exact waits_of_pc (.inl (pc_returnEvent _ _))
  · rename_i hevents
    refine ⟨fun _ => ⟨not_not.mp hevents, ?_⟩, fun _ hopen => ?_⟩
    · simp only [on, Driven.step, Driven.drainEvents_eq]
      rfl
    · simp only [on, Driven.step, Driven.drainEvents_eq] at hopen ⊢
      exact h hopen

theorem waits_flush (e : Endpoint) (o : Outcome) (qlogFails : Option ℕ) (h : e.pc = .idle) :
    (e.flush d o qlogFails).Waits d := by
  unfold flush
  split
  · exact waits_of_pc (.inl ((pc_write e o qlogFails).trans h))
  · exact waits_of_pc (.inr rfl)

theorem pc_close (e : Endpoint) (o : Outcome) (written cancelled : Bool) :
    (e.close o written cancelled).pc = e.pc := by
  unfold close
  dsimp only
  split_ifs <;> rfl

/-- One step. -/
theorem Waits.step (h : e.Waits d) (op : EndpointOp) : (e.step d op).Waits d := by
  unfold Endpoint.step
  split
  · rename_i hpc
    exact waits_flush e _ _ hpc
  · unfold recvEvent
    split
    · exact waits_of_pc (.inl (pc_returnEvent _ _))
    split
    · exact waits_of_pc (.inl (pc_returnEvent _ _))
    · exact waits_recvLoop e _ _
  · rename_i hpc
    unfold sendDatagram
    split <;> exact waits_of_pc (.inl hpc)
  · rename_i hpc
    exact waits_of_pc (.inl ((pc_close e _ _ _).trans hpc))
  · rename_i hpc
    exact waits_of_pc (.inl hpc)
  · rename_i hpc
    cases d with
    | accepted => exact h
    | client =>
      dsimp only [migrate]
      split
      · exact h
      · split
        · exact waits_of_pc (.inl hpc)
        · exact waits_flush _ _ none hpc
  · rename_i hpc
    simp only [sent, hpc]
    exact waits_of_pc (.inl rfl)
  · rename_i hpc
    simp only [sent, hpc]
    refine waits_afterSending ?_
    cases d with
    | accepted => exact h.qlog (.inr ⟨rfl, hpc⟩)
    | client => exact Driven.qlogData_writeQlog _ _
  · unfold readDatagram
    dsimp only
    split
    · cases d with
      | accepted => exact waits_of_pc (.inl rfl)
      | client => exact waits_recvLoop _ _ _
    · exact waits_recvLoop _ _ _
  · exact waits_recvLoop e _ _
  · exact waits_of_pc (.inl rfl)
  · unfold recvTimer
    cases d with
    | accepted =>
      dsimp only
      split
      · exact waits_of_pc (.inl (pc_returnEvent _ _))
      · exact waits_recvLoop _ _ _
    | client => exact waits_recvLoop _ _ _
  · exact waits_of_pc (.inl rfl)
  · exact h

/-! ## Runs -/

/-- An endpoint as the application gets it: `Server` or `Client::connect` has done with the connection
whatever the handshake took. -/
structure Starts (d : Driver) (path : PathInfo) (e : Endpoint) : Prop where
  handshake : ∃ qlogOpen, Does d (.new path qlogOpen) e.toDriven
  pc : e.pc = .idle

/-- What the operations of a driver keep from the start, an endpoint keeps. -/
theorem Starts.keeps {path : PathInfo} (h : e.Starts d path) {I : Driven → Prop}
    (hnew : ∀ qlogOpen, I (.new path qlogOpen))
    (hI : ∀ c op, DrivenOp.Of d op ∨ d = .client ∧ (∃ bound o, op = .migrate bound o) → I c →
      I (c.step op)) (ops : List EndpointOp) : I (run (step d) e ops).toDriven := by
  obtain ⟨qlogOpen, hdoes⟩ := h.handshake
  exact run_keeps hI ops e (hdoes.keeps (fun c op hop => hI c op (.inl hop)) (hnew qlogOpen))

theorem Starts.waits {path : PathInfo} (h : e.Starts d path) (ops : List EndpointOp) :
    (run (step d) e ops).Waits d :=
  run_preserves (fun _ op hs => hs.step op) ops e (waits_of_pc (.inl h.pc))

/-- The events of an endpoint are delivered as they should be. -/
structure Delivered (e : Endpoint) : Prop where
  /-- each event that was reported was delivered once or waits for it, in order -/
  inOrder : e.delivered.filterMap (·.core?) ++ e.events.filterMap (·.core?) ++ e.conn.queued =
    e.reported
  /-- the end of the connection is reported once -/
  endsOnce : (e.delivered ++ e.events).countP (·.core?.isNone) ≤ 1
  /-- `recv_event` does not wait while there is an event -/
  waits : e.pc = .selecting → e.events = [] ∧ e.conn.queued = []

theorem Starts.delivered {path : PathInfo} (h : e.Starts d path) (ops : List EndpointOp) :
    (run (step d) e ops).Delivered := by
  have horder : (run (step d) e ops).InOrder := h.keeps (fun _ => rfl) (fun _ op _ hc => hc.step op) ops
  have honce : (run (step d) e ops).EndsOnce :=
    h.keeps (fun _ => Nat.le_refl 0) (fun _ op _ hc => hc.step op) ops
  refine ⟨horder, honce.trans ?_, (h.waits ops).events⟩
  split <;> simp

/-- **No event is lost, repeated or held back.** Whatever is called on a connection and wherever a
future is dropped, the application gets the events of ngtcp2 in their order, each once. -/
theorem events_delivered {path : PathInfo} (h : e.Starts d path) (ops : List EndpointOp) :
    (run (step d) e ops).Delivered := h.delivered ops

/-- A client, from 127.0.0.1:1 to 127.0.0.1:2. -/
def sampleClient : Endpoint where
  toDriven := .new ⟨.v4 0x7f000001 1, .v4 0x7f000001 2⟩ true
  socket := .v4 0x7f000001 1
  localAddr := .v4 0x7f000001 1

theorem sampleClient_starts :
    sampleClient.Starts .client ⟨.v4 0x7f000001 1, .v4 0x7f000001 2⟩ :=
  ⟨⟨true, Relation.ReflTransGen.refl⟩, rfl⟩

/-- It receives two events in one datagram and ends; the file of its qlog fails in between. -/
def sampleOps : List EndpointOp :=
  [.recvEvent { qlog := [1, 2] } none, .sent none,
    .datagram (.v4 0x7f000001 2) (.v4 0x7f000001 1)
      { events := [.streamOpened 0, .streamData 0 [7] true], qlog := [3, 4] } {} none,
    .pollEvent, .recvEvent {} none, .sent (some 1), .timer { draining := true, qlog := [5] } {} none]

theorem events_delivered_ended :
    (run (step .client) sampleClient sampleOps).delivered =
        [.core (.streamOpened 0), .core (.streamData 0 [7] true), .connectionClosed 0 [] .terminal] ∧
      (run (step .client) sampleClient sampleOps).Delivered :=
  ⟨by decide, events_delivered sampleClient_starts sampleOps⟩

/-- The qlog of an endpoint is written as it should be. -/
structure QlogWritten (e : Endpoint) : Prop where
  /-- the file holds the beginning of what ngtcp2 wrote -/
  prefixed : e.qlog.written <+: e.emitted
  /-- nothing is missing in an open file but what ngtcp2 still holds -/
  kept : e.qlog.isOpen = true → e.qlog.written ++ e.conn.qlogData = e.emitted
  /-- and `recv_event` does not wait before that is written -/
  waits : e.pc = .selecting → e.qlog.isOpen = true → e.qlog.written = e.emitted

/-- **The qlog file is complete** up to where it failed. From there on it is not touched, and what
ngtcp2 writes stays in memory as long as the connection lives. -/
theorem qlog_complete {path : PathInfo} (h : e.Starts d path) (ops later : List EndpointOp) :
    (run (step d) e ops).QlogWritten ∧
      ((run (step d) e ops).qlog.isOpen = false →
        (run (step d) e ops).Piled (run (step d) e (ops ++ later)).toDriven) := by
  have hkept : (run (step d) e ops).QlogKept :=
    h.keeps (fun _ => ⟨[], rfl, fun _ => rfl⟩) (fun _ op _ hc => hc.step op) ops
  refine ⟨?_, fun hclosed => ?_⟩
  · obtain ⟨lost, heq, hlost⟩ := hkept
    have hopen (ho : (run (step d) e ops).qlog.isOpen = true) :
        (run (step d) e ops).qlog.written ++ (run (step d) e ops).conn.qlogData =
          (run (step d) e ops).emitted := by
      rw [← heq, hlost ho, List.append_nil]
    refine ⟨⟨_, (List.append_assoc _ _ _).symm.trans heq⟩, hopen, fun hpc ho => ?_⟩
    rw [← hopen ho, (h.waits ops).qlog (.inl hpc) ho, List.append_nil]
  · rw [run_append]
    exact run_keeps (fun _ op _ hc => hc.step hclosed op) later _ (.of_eq rfl rfl rfl)

theorem qlog_complete_failed :
    (run (step .client) sampleClient (sampleOps.take 6)).qlog.isOpen = false ∧
      (run (step .client) sampleClient sampleOps).qlog.written = [1, 2, 3] ∧
      (run (step .client) sampleClient sampleOps).conn.qlogData = [5] ∧
      (run (step .client) sampleClient (sampleOps.take 6)).Piled
        (run (step .client) sampleClient sampleOps).toDriven :=
  ⟨by decide, by decide, by decide,
    (qlog_complete sampleClient_starts (sampleOps.take 6) (sampleOps.drop 6)).2 (by decide)⟩

end Endpoint

end Ngtcp2Rs
