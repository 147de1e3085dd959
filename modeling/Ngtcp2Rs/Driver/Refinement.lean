import Ngtcp2Rs.Driver.Endpoint

/-!
# Endpoints refine loops

`Driver.EventLoop` keeps of an endpoint what decides how a connection ends; the data of the events,
the addresses and the qlog are left out. `loop` forgets them, and every step of an endpoint that does
not migrate is the step of its loop (`step_refines`), so that what holds in every run of a loop holds
in every run of either driver.

* `endpoint_refines`: runs of an endpoint are runs of its loop.
-/

namespace Ngtcp2Rs

open Lib

/-! ## What a loop keeps -/

/-- What a loop keeps of an event. -/
def Tokio.ConnectionEvent.loop : Tokio.ConnectionEvent → Ngtcp2Rs.ConnectionEvent
  | core _ => .other
  | connectionClosed .. => .connectionClosed

/-- What a loop keeps of the outcome of a call. -/
def Outcome.answer (o : Outcome) : Answer where
  effect :=
    { events := o.events.map fun _ => .other
      closing := o.closing
      draining := o.draining }
  error := o.error

/-- What a loop keeps of a call. It does not migrate. -/
def PathCall.loop : PathCall → Option NgCall
  | read _ => some .read
  | writePackets => some .writePackets
  | writeDatagram => some .writeDatagram
  | expiry => some .expiry
  | close => some .close
  | migrate _ => none

/-- What a loop keeps of an action. -/
def DrivenAction.loop : DrivenAction → Option LoopAction
  | called call o events => call.loop.map fun c => .called c o.answer (events.map (·.loop))
  | sent => some .sent
  | closeSent _ => none
  | waiting => some .waiting
  | returned result => some (.returned (result.map (·.loop)))
  | polled event => some (.polled event.loop)

/-- The operation of a loop, unless it is a migration. -/
def EndpointOp.loop : EndpointOp → Option LoopOp
  | flush o _ => some (.flush o.answer)
  | recvEvent o _ => some (.recvEvent o.answer)
  | sent _ => some .sent
  | datagram _ _ read o _ => some (.datagram read.answer o.answer)
  | wake o _ => some (.wake o.answer)
  | socketError => some .socketError
  | timer expiry o _ => some (.timer expiry.answer o.answer)
  | sendDatagram o control => some (.sendDatagram o.answer (control.map (·.answer)))
  | close o _ cancelled => some (.close o.answer cancelled)
  | pollEvent => some .pollEvent
  | migrate .. => none
  | cancel => some .cancel

namespace Endpoint

/-- The loop of an endpoint. -/
def loop (e : Endpoint) : EventLoop where
  queued := e.conn.queued.map fun _ => .other
  events := e.events.map (·.loop)
  isInClosingPeriod := e.conn.isInClosingPeriod
  isInDrainingPeriod := e.conn.isInDrainingPeriod
  closed := e.closed
  pc := e.pc
  log := e.log.filterMap (·.loop)

variable {d : Driver} {e : Endpoint}

/-! ## Operations on the connection -/

@[simp] theorem isEnding_loop (e : Endpoint) : e.loop.isEnding = e.isEnding := rfl

@[simp] theorem isClosed_loop (e : Endpoint) : e.loop.isClosed = e.isClosed := rfl

theorem events_loop_eq_nil : e.loop.events = [] ↔ e.events = [] := List.map_eq_nil_iff

theorem loop_drainEvents (e : Endpoint) : (e.on .drainEvents).loop = e.loop.drainEvents := by
  simp only [on, Driven.step, Driven.drainEvents_eq, loop, EventLoop.drainEvents, List.map_append,
    List.map_map, List.map_nil]
  rfl

theorem loop_call (e : Endpoint) {call : PathCall} {c : NgCall} (hc : call.loop = some c)
    (o : Outcome) : (e.on (.call call o)).loop = e.loop.call c o.answer := by
  simp only [on, Driven.step, Driven.call, Driven.callWith, Driven.record, NgConn.apply, loop,
    EventLoop.call, EventLoop.apply, EventLoop.record, List.map_append, List.filterMap_cons,
    DrivenAction.loop, hc, Option.map_some]
  rfl

theorem loop_callAndDrain (e : Endpoint) {call : PathCall} {c : NgCall} (hc : call.loop = some c)
    (o : Outcome) : (e.on (.callAndDrain call o)).loop = e.loop.callAndDrain c o.answer := by
  simp only [on, Driven.step, Driven.callAndDrain, Driven.callWith, Driven.record, NgConn.apply,
    Driven.drainEvents_eq, loop, EventLoop.callAndDrain, EventLoop.apply, EventLoop.drainEvents,
    EventLoop.record, List.map_append, List.map_map, List.map_nil, List.filterMap_cons,
    DrivenAction.loop, hc, Option.map_some]
  rfl

theorem loop_event (err : ConnectionError) : err.event.loop = .connectionClosed := rfl

theorem loop_pushConnectionClosed (e : Endpoint) :
    (e.on .pushConnectionClosed).loop = e.loop.pushConnectionClosed := by
  unfold EventLoop.pushConnectionClosed
  simp only [on, Driven.step, Driven.pushConnectionClosed]
  split
  · rename_i hclosed
    rw [if_pos (show e.loop.closed = true from hclosed)]
  · rename_i hclosed
    rw [if_neg (show ¬ e.loop.closed = true from hclosed)]
    simp [loop, loop_event]

theorem loop_takePath (e : Endpoint) : (e.on .takePath).loop = e.loop := by
  simp only [on, Driven.step, Driven.takePath]
  split <;> rfl

theorem loop_writeQlog (e : Endpoint) (fails : Option ℕ) : (e.on (.writeQlog fails)).loop = e.loop := by
  simp only [on, Driven.step, Driven.writeQlog]
  split
  · rfl
  · cases fails <;> rfl

theorem loop_returnError (e : Endpoint) (err : Error) :
    (e.returnError err).loop = e.loop.returnError err := rfl

theorem loop_returnEvent (e : Endpoint) (err : Error) :
    (e.returnEvent err).loop = e.loop.returnEvent err := by
  unfold returnEvent EventLoop.returnEvent
  cases hevents : e.events with
  | nil =>
    have hloop : e.loop.events = [] := events_loop_eq_nil.mpr hevents
    simp only [if_true, hloop]
    rfl
  | cons event events =>
    have hloop : e.loop.events = event.loop :: events.map (·.loop) := by simp [loop, hevents]
    simp only [reduceCtorEq, if_false, hloop]
    simp [on, Driven.step, Driven.popEvent, hevents, loop, Driven.record, EventLoop.record,
      DrivenAction.loop, Except.map]

theorem loop_returnClosed (e : Endpoint) (err : Error) :
    (e.returnClosed err).loop = e.loop.returnClosed err := by
  rw [returnClosed, loop_returnEvent, loop_pushConnectionClosed, EventLoop.returnClosed]

theorem loop_pollEvent (e : Endpoint) : (e.on .pollEvent).loop = e.loop.pollEvent := by
  unfold EventLoop.pollEvent
  cases hevents : e.events with
  | nil =>
    have hloop : e.loop.events = [] := events_loop_eq_nil.mpr hevents
    simp only [on, Driven.step, Driven.popEvent, hevents, hloop]
  | cons event events =>
    have hloop : e.loop.events = event.loop :: events.map (·.loop) := by simp [loop, hevents]
    simp only [on, Driven.step, Driven.popEvent, hevents, hloop]
    simp [loop, Driven.record, EventLoop.record, DrivenAction.loop]

/-! ## Steps -/

theorem loop_write (e : Endpoint) (o : Outcome) (qlogFails : Option ℕ) :
    (e.write d o qlogFails).loop = e.loop.write d o.answer := by
  cases d with
  | accepted => exact (loop_writeQlog _ qlogFails).trans (loop_callAndDrain e rfl o)
  | client =>
    have hcall : (e.on (.call .writePackets o)).loop = e.loop.call .writePackets o.answer :=
      loop_call e rfl o
    simp only [write]
    split
    · exact hcall
    · exact (loop_takePath _).trans hcall

theorem loop_flush (e : Endpoint) (o : Outcome) (qlogFails : Option ℕ) :
    (e.flush d o qlogFails).loop = e.loop.flush d o.answer := by
  have hwrite : (e.write d o qlogFails).loop = e.loop.write d o.answer := loop_write e o qlogFails
  cases herror : o.error with
  | some err =>
    have hans : o.answer.error = some err := herror
    simp only [flush, EventLoop.flush, herror, hans]
    exact hwrite
  | none =>
    have hans : o.answer.error = none := herror
    simp only [flush, EventLoop.flush, herror, hans]
    exact congrArg (fun l : EventLoop => { l with pc := .flushing }) hwrite

theorem loop_recvLoop (e : Endpoint) (o : Outcome) (qlogFails : Option ℕ) :
    (e.recvLoop d o qlogFails).loop = e.loop.recvLoop d o.answer := by
  have hwrite : (e.write d o qlogFails).loop = e.loop.write d o.answer := loop_write e o qlogFails
  by_cases hevents : e.events = []
  · have hloop : e.loop.events = [] := events_loop_eq_nil.mpr hevents
    by_cases hending : e.isEnding = true
    · simp only [recvLoop, EventLoop.recvLoop, hevents, hloop, isEnding_loop, hending, ne_eq,
        not_true_eq_false, if_false, if_true, loop_returnClosed]
    · cases herror : o.error with
      | some err =>
        have hans : o.answer.error = some err := herror
        simp only [recvLoop, EventLoop.recvLoop, hevents, hloop, isEnding_loop, hending, ne_eq,
          not_true_eq_false, if_false, herror, hans, loop_returnError, hwrite, Bool.false_eq_true]
      | none =>
        have hans : o.answer.error = none := herror
        simp only [recvLoop, EventLoop.recvLoop, hevents, hloop, isEnding_loop, hending, ne_eq,
          not_true_eq_false, if_false, herror, hans, Bool.false_eq_true]
        exact congrArg (fun l : EventLoop => { l with pc := .sending }) hwrite
  · have hloop : e.loop.events ≠ [] := fun h => hevents (events_loop_eq_nil.mp h)
    rw [recvLoop, EventLoop.recvLoop, if_pos hevents, if_pos hloop, loop_returnEvent]

theorem loop_recvEvent (e : Endpoint) (o : Outcome) (qlogFails : Option ℕ) :
    (e.recvEvent d o qlogFails).loop = e.loop.recvEvent d o.answer := by
  by_cases hevents : e.events = []
  · have hloop : e.loop.events = [] := events_loop_eq_nil.mpr hevents
    by_cases hclosed : e.isClosed = true
    · simp only [recvEvent, EventLoop.recvEvent, hevents, hloop, isClosed_loop, hclosed, ne_eq,
        not_true_eq_false, if_false, if_true, loop_returnClosed]
    · simp only [recvEvent, EventLoop.recvEvent, hevents, hloop, isClosed_loop, hclosed, ne_eq,
        not_true_eq_false, if_false, Bool.false_eq_true, loop_recvLoop]
  · have hloop : e.loop.events ≠ [] := fun h => hevents (events_loop_eq_nil.mp h)
    rw [recvEvent, EventLoop.recvEvent, if_pos hevents, if_pos hloop, loop_returnEvent]

theorem loop_readDatagram (e : Endpoint) (src dst : SocketAddr) (read o : Outcome)
    (qlogFails : Option ℕ) :
    (e.readDatagram d src dst read o qlogFails).loop =
      e.loop.readDatagram d read.answer o.answer := by
  have hread : (e.on (.callAndDrain (.read (e.readPath d src dst)) read)).loop =
      e.loop.callAndDrain .read read.answer := loop_callAndDrain e rfl read
  have hans : read.answer.error = read.error := rfl
  unfold readDatagram EventLoop.readDatagram
  rw [hans]
  cases read.error.filter fun err => err.classifyConnectionError = .internal with
  | some err =>
    cases d with
    | accepted => simp only [loop_returnError, hread]
    | client => simp only [loop_recvLoop, loop_pushConnectionClosed, hread]
  | none => simp only [loop_recvLoop, hread]

theorem loop_recvTimer (e : Endpoint) (expiry o : Outcome) (qlogFails : Option ℕ) :
    (e.recvTimer d expiry o qlogFails).loop = e.loop.recvTimer d expiry.answer o.answer := by
  have hexpiry : (e.on (.callAndDrain .expiry expiry)).loop =
      e.loop.callAndDrain .expiry expiry.answer := loop_callAndDrain e rfl expiry
  have hans : expiry.answer.error = expiry.error := rfl
  unfold recvTimer EventLoop.recvTimer
  rw [hans]
  cases d with
  | accepted =>
    cases expiry.error.filter fun err => decide
        (err.classifyConnectionError ≠ .ignore ∧ err.classifyConnectionError ≠ .terminal) with
    | some err => simp only [loop_returnClosed, hexpiry]
    | none => simp only [loop_recvLoop, hexpiry]
  | client => simp only [loop_recvLoop, hexpiry]

theorem loop_sendDatagram (e : Endpoint) (o : Outcome) (control : Option Outcome) :
    (e.sendDatagram o control).loop =
      e.loop.sendDatagram o.answer (control.map (·.answer)) := by
  have hcall : (e.on (.call .writeDatagram o)).loop = e.loop.call .writeDatagram o.answer :=
    loop_call e rfl o
  cases control with
  | none => exact hcall
  | some control =>
    exact (loop_call _ rfl control).trans
      (congrArg (fun l : EventLoop => l.call .writePackets control.answer) hcall)

theorem loop_close (e : Endpoint) (o : Outcome) (written cancelled : Bool) :
    (e.close o written cancelled).loop = e.loop.close o.answer cancelled := by
  have hcall : (e.on (.call .close o)).loop = e.loop.call .close o.answer := loop_call e rfl o
  have hans : o.answer.error = o.error := rfl
  have hsent : (if written then (e.on (.call .close o)).on (.sendClose e.localAddr)
      else e.on (.call .close o)).loop = e.loop.call .close o.answer := by
    cases written <;> exact hcall
  unfold close EventLoop.close
  simp only [isClosed_loop, hans]
  split
  · rfl
  cases herror : o.error.isSome with
  | true => exact hcall
  | false =>
    cases cancelled with
    | true => exact hsent
    | false => exact congrArg (fun l : EventLoop => { l with closed := true }) hsent

theorem loop_flushed (e : Endpoint) (qlogFails : Option ℕ) :
    (e.flushed d qlogFails).loop = e.loop.record .sent := by
  cases d with
  | accepted => rfl
  | client => exact loop_writeQlog _ qlogFails

/-- While an accepted connection sends, it has taken the events over. -/
def Drained (d : Driver) (e : Endpoint) : Prop :=
  d = .accepted → e.pc = .sending → e.conn.queued = []

/-- The accepted connection drains twice, which is the same as once. -/
theorem loop_drainSent (h : d = .accepted → e.conn.queued = []) :
    (e.on .drainEvents).loop = e.loop.drainSent d := by
  rw [loop_drainEvents]
  cases d with
  | accepted => simp [EventLoop.drainSent, EventLoop.drainEvents, loop, h rfl]
  | client => rfl

theorem loop_afterSending (h : d = .accepted → e.conn.queued = []) :
    e.afterSending.loop = e.loop.afterSending d := by
  unfold afterSending EventLoop.afterSending
  rw [← loop_drainSent h]
  simp only [ne_eq, events_loop_eq_nil]
  split
  · exact loop_returnEvent _ _
  · rfl

theorem loop_sent (h : e.Drained d) (qlogFails : Option ℕ) :
    (e.sent d qlogFails).loop = e.loop.sent d := by
  have hloop : e.loop.pc = e.pc := rfl
  cases hpc : e.pc with
  | flushing =>
    simp only [sent, EventLoop.sent, hloop, hpc]
    exact congrArg (fun l : EventLoop => { l with pc := .idle }) (loop_flushed e qlogFails)
  | sending =>
    have hqueued : d = .accepted → (e.flushed d qlogFails).conn.queued = [] := by
      rintro rfl
      exact h rfl hpc
    simp only [sent, EventLoop.sent, hloop, hpc, loop_afterSending hqueued, loop_flushed]
  | idle | selecting => simp only [sent, EventLoop.sent, hloop, hpc]

/-- **One step of an endpoint is one step of its loop.** -/
theorem step_refines (h : e.Drained d) {op : EndpointOp} {lop : LoopOp} (hop : op.loop = some lop) :
    (e.step d op).loop = e.loop.step d lop := by
  have hpc : e.loop.pc = e.pc := rfl
  unfold step EventLoop.step
  rw [hpc]
  cases op with
  | migrate => cases hop
  | _ =>
    cases hop
    cases hcase : e.pc <;> first
      | rfl
      | exact loop_flush e _ _
      | exact loop_recvEvent e _ _
      | exact loop_sendDatagram e _ _
      | exact loop_close e _ _ _
      | exact loop_pollEvent e
      | exact loop_sent h _
      | exact loop_readDatagram e _ _ _ _ _
      | exact loop_recvLoop e _ _
      | exact loop_recvTimer e _ _ _

/-! ## Runs -/

theorem drained_of_pc (h : e.pc ≠ .sending) : e.Drained d := fun _ hpc => absurd hpc h

theorem drained_recvLoop (e : Endpoint) (o : Outcome) (qlogFails : Option ℕ) :
    (e.recvLoop d o qlogFails).Drained d := by
  unfold recvLoop
  split
  · exact drained_of_pc (by simp)
  split
  · exact drained_of_pc (by simp [returnClosed])
  split
  · exact drained_of_pc (by simp [returnError])
  · rintro rfl -
    have hwrite : ∀ c : Driven, (c.writeQlog qlogFails).conn.queued = c.conn.queued := by
      intro c
      unfold Driven.writeQlog
      split
      · rfl
      · cases qlogFails <;> rfl
    refine (hwrite _).trans ?_
    simp only [on, Driven.step, Driven.callAndDrain, Driven.drainEvents_eq]

/-- One step. -/
theorem Drained.step (h : e.Drained d) (op : EndpointOp) : (e.step d op).Drained d := by
  unfold Endpoint.step
  split
  · rename_i hpc
    unfold flush
    split
    · exact drained_of_pc (by rw [pc_write, hpc]; decide)
    · exact drained_of_pc (by simp)
  · unfold recvEvent
    split
    · exact drained_of_pc (by simp)
    split
    · exact drained_of_pc (by simp [returnClosed])
    · exact drained_recvLoop e _ _
  · rename_i hpc
    unfold sendDatagram
    split <;> exact drained_of_pc (by simp [hpc])
  · rename_i hpc
    exact drained_of_pc (by rw [pc_close, hpc]; decide)
  · rename_i hpc
    exact drained_of_pc (by simp [hpc])
  · cases d with
    | accepted => exact h
    | client => exact fun hd => by cases hd
  · rename_i hpc
    simp only [sent, hpc]
    exact drained_of_pc (by simp)
  · rename_i hpc
    simp only [sent, hpc, afterSending]
    split
    · exact drained_of_pc (by simp)
    · exact drained_of_pc (by simp)
  · unfold readDatagram
    dsimp only
    split
    · cases d with
      | accepted => exact drained_of_pc (by simp [returnError])
      | client => exact drained_recvLoop _ _ _
    · exact drained_recvLoop _ _ _
  · exact drained_recvLoop e _ _
  · exact drained_of_pc (by simp [returnError])
  · unfold recvTimer
    cases d with
    | accepted =>
      dsimp only
      split
      · exact drained_of_pc (by simp [returnClosed])
      · exact drained_recvLoop _ _ _
    | client => exact drained_recvLoop _ _ _
  · exact drained_of_pc (by simp)
  · exact h

/-- **An endpoint runs as its loop.** The data that `EventLoop` leaves out never changes what an
endpoint does: a run of either driver without migrations, seen through `loop`, is the run of the loop
on what it keeps of the operations. -/
theorem endpoint_refines (h : e.pc = .idle) (ops : List EndpointOp) (lops : List LoopOp)
    (hops : ops.mapM EndpointOp.loop = some lops) :
    (run (step d) e ops).loop = run (EventLoop.step d) e.loop lops := by
  have hrun : ∀ (ops : List EndpointOp) (lops : List LoopOp) (e : Endpoint), e.Drained d →
      ops.mapM EndpointOp.loop = some lops →
      (run (step d) e ops).loop = run (EventLoop.step d) e.loop lops := by
    intro ops
    induction ops with
    | nil =>
      intro lops e _ hops
      cases hops
      rfl
    | cons op ops ih =>
      intro lops e he hops
      simp only [List.mapM_cons, Option.pure_def, Option.bind_eq_bind, Option.bind_eq_some_iff] at hops
      obtain ⟨lop, hop, rest, hrest, hlops⟩ := hops
      cases hlops
      show (run (step d) (e.step d op) ops).loop = run (EventLoop.step d) (e.loop.step d lop) rest
      rw [ih rest _ (he.step op) hrest, step_refines he hop]
  exact hrun ops lops e (drained_of_pc (by simp [h])) hops

theorem endpoint_refines_ended :
    (run (step .client) sampleClient sampleOps).loop.events = [] ∧
      (run (step .client) sampleClient sampleOps).loop =
        run (EventLoop.step .client) sampleClient.loop (sampleOps.filterMap EndpointOp.loop) :=
  ⟨by decide, endpoint_refines rfl sampleOps _ rfl⟩

end Endpoint

end Ngtcp2Rs
