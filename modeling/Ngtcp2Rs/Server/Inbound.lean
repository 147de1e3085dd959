import Ngtcp2Rs.Lib.Mailbox
import Ngtcp2Rs.Server.Ownership

/-!
# The queues of accepted connections

`accept` and every `recv_event` read one socket, and put what belongs to another accepted connection
into its queue. Over all interleavings of these tasks, the queues are bounded mailboxes
(`Lib.Mailbox`): what a step does to them is `World.mailOps`, and nothing else touches them.

* `tracks_step`: one step does to the queues what its operations say.
* `inbound_fifo`: a connection takes the datagrams out of its queue in the order in which they were
  put in, each once, and misses those only that came while 512 others waited.
-/

namespace Ngtcp2Rs

open Lib

namespace World

/-! ## What a step does to the queues -/

/-- The queue of a handle. -/
def inbound (w : World) (h : ℕ) : Option (List InboundDatagram) :=
  (w.accepted.lookup h).map (·.inbound)

/-- A datagram for the accepted connection `key`. -/
def offerTo (w : World) (key : ConnectionId) (d : InboundDatagram) :
    List (MailOp ℕ InboundDatagram) :=
  ((w.receiver key).map fun h => .offer h d).toList

/-- What an operation on a handle does to the queues. -/
def opMail (w : World) (h : ℕ) (a : AcceptedConnection) : Op → List (MailOp ℕ InboundDatagram)
  | .inbound .. => if a.pc = .selecting true then [.take h] else []
  | .socket d .. =>
    match a.pc, (w.routes.resolve d.data d.src).filter fun key => key ≠ a.connectionId with
    | .selecting _, some key => w.offerTo key d
    | _, _ => []
  | _ => []

/-- What a step does to the queues. -/
def mailOps (w : World) : Label → List (MailOp ℕ InboundDatagram)
  | .accept key =>
    match w.server.connections.lookup key with
    | some c => if c.isHandshakeCompleted then [.opened w.nextHandle] else []
    | none => []
  | .datagram d _ _ =>
    match w.server.existingKey d.data d.src, w.routes.resolve d.data d.src with
    | none, some key => w.offerTo key d
    | _, _ => []
  | .op h op =>
    match w.accepted.lookup h with
    | some a => w.opMail h a op
    | none => []
  | .drop h => if (w.accepted.lookup h).isSome then [.close h] else []
  | .removeClosed | .timers .. => []

/-! ## What leaves the queues alone -/

section Frame

variable {w : World} {h : ℕ} {a : AcceptedConnection}

theorem inbound_set (w : World) (h : ℕ) (a : AcceptedConnection) :
    (w.set h a).inbound = Function.update w.inbound h (some a.inbound) := by
  funext h'
  unfold inbound set
  rw [Map.lookup_insert_if, Function.update_apply]
  split <;> rfl

/-- A handle is replaced by one with the same queue. -/
theorem inbound_set_eq (hw : w.inbound h = some a.inbound) : (w.set h a).inbound = w.inbound := by
  rw [inbound_set, ← hw, Function.update_eq_self]

theorem inbound_call (hw : w.inbound h = some a.inbound) (c : NgCall) (ans : Answer) :
    (w.call h a c ans).inbound = w.inbound := inbound_set_eq hw

theorem inbound_syncRoutes (hw : w.inbound h = some a.inbound) :
    (w.syncRoutes h a).inbound = w.inbound := inbound_set_eq (a := a.polled) hw

theorem inbound_returnError (hw : w.inbound h = some a.inbound) (err : Error) :
    (w.returnError h a err).inbound = w.inbound := inbound_set_eq (a := { a with pc := .idle }) hw

theorem inbound_returnEvent (hw : w.inbound h = some a.inbound) (err : Error) :
    (w.returnEvent h a err).inbound = w.inbound := by
  unfold returnEvent
  split
  · exact inbound_set_eq hw
  · exact inbound_returnError hw err

theorem inbound_returnClosed (hw : w.inbound h = some a.inbound) (err : Error) :
    (w.returnClosed h a err).inbound = w.inbound :=
  inbound_returnEvent (a := { a with inner := a.inner.pushConnectionClosed }) hw err

theorem inbound_recvLoop (hw : w.inbound h = some a.inbound) (queueOpen : Bool) (flush : Answer) :
    (w.recvLoop h a queueOpen flush).inbound = w.inbound := by
  have hcall := inbound_call hw .writePackets flush
  unfold recvLoop
  split
  · exact inbound_returnEvent hw _
  split
  · exact inbound_returnClosed hw _
  split
  · exact (inbound_returnError (a := a.called flush) (hcall ▸ hw) _).trans hcall
  · exact (inbound_set_eq (hcall ▸ hw)).trans hcall

theorem inbound_readDatagram (hw : w.inbound h = some a.inbound) (queueOpen : Bool)
    (read flush : Answer) : (w.readDatagram h a queueOpen read flush).inbound = w.inbound := by
  have hcall := inbound_call hw .read read
  unfold readDatagram
  split
  · exact (inbound_returnError (a := a.called read) (hcall ▸ hw) _).trans hcall
  · have hsync := inbound_syncRoutes (a := a.called read) (hcall ▸ hw)
    rw [inbound_recvLoop (a := (a.called read).polled) ((hsync.trans hcall) ▸ hw), hsync, hcall]

theorem inbound_recvTimer (hw : w.inbound h = some a.inbound) (queueOpen : Bool)
    (expiry flush : Answer) : (w.recvTimer h a queueOpen expiry flush).inbound = w.inbound := by
  have hcall := inbound_call hw .expiry expiry
  unfold recvTimer
  split
  · exact (inbound_returnClosed (a := a.called expiry) (hcall ▸ hw) _).trans hcall
  · exact (inbound_recvLoop (a := a.called expiry) (hcall ▸ hw) _ _).trans hcall

theorem inbound_sent (hw : w.inbound h = some a.inbound) : (w.sent h a).inbound = w.inbound := by
  have hsync := inbound_syncRoutes hw
  unfold sent
  split
  · exact (inbound_set_eq (hsync ▸ hw)).trans hsync
  · split
    · exact (inbound_returnEvent (a := a.polled) (hsync ▸ hw) _).trans hsync
    · exact (inbound_set_eq (hsync ▸ hw)).trans hsync
  · rfl

theorem inbound_flush (hw : w.inbound h = some a.inbound) (ans : Answer) :
    (w.flush h a ans).inbound = w.inbound := by
  have hcall := inbound_call hw .writePackets ans
  unfold flush
  split
  · exact hcall
  · exact (inbound_set_eq (hcall ▸ hw)).trans hcall

theorem inbound_recvEvent (hw : w.inbound h = some a.inbound) (flush : Answer) :
    (w.recvEvent h a flush).inbound = w.inbound := by
  unfold recvEvent
  split
  · exact inbound_returnEvent hw _
  split
  · exact inbound_returnClosed hw _
  · exact inbound_recvLoop hw _ _

theorem inbound_sendDatagram (hw : w.inbound h = some a.inbound) (datagram : Answer)
    (control : Option Answer) : (w.sendDatagram h a datagram control).inbound = w.inbound := by
  let a₁ := { a with inner := a.inner.call datagram.effect }
  have hset : (w.set h a₁).inbound = w.inbound := inbound_set_eq hw
  unfold sendDatagram
  cases control with
  | none => exact hset
  | some control => exact (inbound_set_eq (w := w.set h a₁) (hset ▸ hw)).trans hset

theorem inbound_close (hw : w.inbound h = some a.inbound) (ans : Answer) (cancelled : Bool) :
    (w.close h a ans cancelled).inbound = w.inbound := by
  let a₁ := { a with inner := a.inner.call ans.effect }
  have hset : (w.set h a₁).inbound = w.inbound := inbound_set_eq hw
  unfold close
  split
  · rfl
  dsimp only
  split
  · exact hset
  · exact (inbound_set_eq (w := w.set h a₁) (hset ▸ hw)).trans hset

/-- What neither takes from the queue nor reads the socket. -/
theorem inbound_stepOp (hw : w.inbound h = some a.inbound) {op : Op}
    (hinbound : ∀ read flush, op ≠ .inbound read flush)
    (hsocket : ∀ d read flush, op ≠ .socket d read flush) :
    (w.stepOp h a op).inbound = w.inbound := by
  unfold stepOp
  split
  · exact inbound_flush hw _
  · exact inbound_recvEvent hw _
  · exact inbound_sendDatagram hw _ _
  · exact inbound_close hw _ _
  · exact inbound_set_eq hw
  · exact inbound_sent hw
  · exact inbound_sent hw
  · exact absurd rfl (hinbound _ _)
  · exact absurd rfl (hsocket _ _ _)
  · exact inbound_returnError hw _
  · exact inbound_recvTimer hw _ _ _
  · exact inbound_set_eq hw
  · rfl

end Frame

/-! ## The queues are mailboxes -/

/-- The mailboxes hold what the queues hold. -/
def Tracks (w : World) (m : Mailboxes ℕ InboundDatagram) : Prop :=
  ∀ h, w.inbound h = (m h).map (·.waiting)

variable {w : World} {m : Mailboxes ℕ InboundDatagram}

theorem Tracks.of_eq {w' : World} (hm : Tracks w m) (heq : w'.inbound = w.inbound) : Tracks w' m :=
  fun h => by rw [heq, hm h]

theorem Tracks.update {w' : World} (hm : Tracks w m) {h : ℕ} {v : Option (Mailbox InboundDatagram)}
    (heq : w'.inbound = Function.update w.inbound h (v.map (·.waiting))) :
    Tracks w' (Function.update m h v) := by
  intro h'
  rw [heq, Function.update_apply, Function.update_apply]
  split
  · rfl
  · exact hm h'

/-- A delivery offers the datagram. -/
theorem Tracks.deliver (hm : Tracks w m) (key : ConnectionId) (d : InboundDatagram) :
    Tracks (w.deliver key d) (run (Mailboxes.step maxQueuedDatagrams) m (w.offerTo key d)) := by
  unfold World.deliver offerTo
  cases hr : w.receiver key with
  | none => exact hm
  | some h =>
    obtain ⟨-, hsome⟩ := Option.filter_eq_some_iff.mp hr
    obtain ⟨a, ha⟩ := Option.isSome_iff_exists.mp hsome
    have hinbound : w.inbound h = some a.inbound := by
      unfold inbound
      rw [ha]
      rfl
    obtain ⟨b, hb, hwaiting⟩ := Option.map_eq_some_iff.mp ((hm h).symm.trans hinbound)
    simp only [ha]
    refine hm.update ?_
    rw [hb, Option.map_some, Option.map_some, Mailbox.waiting_offer, hwaiting]
    split
    · exact inbound_set w h _
    · rw [← hinbound, Function.update_eq_self]

/-- `recv_event` takes the first datagram, or finds the queue empty. -/
theorem Tracks.recvInbound (hm : Tracks w m) {h : ℕ} {a : AcceptedConnection}
    (hw : w.inbound h = some a.inbound) (read flush : Answer) :
    Tracks (w.recvInbound h a read flush) (m.step maxQueuedDatagrams (.take h)) := by
  obtain ⟨b, hb, hwaiting⟩ := Option.map_eq_some_iff.mp ((hm h).symm.trans hw)
  refine hm.update ?_
  rw [hb, Option.map_some, Option.map_some, Mailbox.waiting_take, hwaiting]
  unfold World.recvInbound
  split
  · next d inbound hinbound =>
    let a₁ := { a with inbound }
    have hset : (w.set h a₁).inbound = Function.update w.inbound h (some inbound) := inbound_set w h a₁
    have hset_self : (w.set h a₁).inbound h = some a₁.inbound := by rw [hset, Function.update_self]
    rw [inbound_readDatagram hset_self, hset, hinbound, List.tail_cons]
  · next hinbound =>
    have hsame : Function.update w.inbound h (some a.inbound.tail) = w.inbound := by
      rw [hinbound, List.tail_nil, ← hinbound, ← hw, Function.update_eq_self]
    rw [hsame]
    split
    · rfl
    · exact inbound_recvLoop hw _ _

/-- `recv_event` reads a datagram for itself, or offers it to its owner. -/
theorem Tracks.handleReceivedDatagram (hm : Tracks w m) {h : ℕ} {a : AcceptedConnection}
    (hw : w.inbound h = some a.inbound) {queueOpen : Bool} (hpc : a.pc = .selecting queueOpen)
    (d : InboundDatagram) (read flush : Answer) :
    Tracks (w.handleReceivedDatagram h a queueOpen d read flush)
      (run (Mailboxes.step maxQueuedDatagrams) m (w.opMail h a (.socket d read flush))) := by
  unfold World.handleReceivedDatagram opMail
  rw [hpc]
  split
  · next key hkey =>
    simp only [hkey]
    have hdeliver := hm.deliver key d
    split
    · next a' ha' => exact hdeliver.of_eq (inbound_recvLoop (by rw [inbound, ha']; rfl) _ _)
    · exact hdeliver
  · next hkey =>
    simp only [hkey]
    exact hm.of_eq (inbound_readDatagram hw _ _ _)

/-- One step of a handle. -/
theorem Tracks.stepOp (hm : Tracks w m) {h : ℕ} {a : AcceptedConnection}
    (ha : w.accepted.lookup h = some a) (op : Op) :
    Tracks (w.stepOp h a op) (run (Mailboxes.step maxQueuedDatagrams) m (w.opMail h a op)) := by
  have hw : w.inbound h = some a.inbound := by
    unfold inbound
    rw [ha]
    rfl
  cases op with
  | inbound read flush =>
    by_cases hpc : a.pc = .selecting true
    · have hstep : w.stepOp h a (.inbound read flush) = w.recvInbound h a read flush := by
        simp only [World.stepOp, hpc]
      rw [hstep, opMail, if_pos hpc]
      exact hm.recvInbound hw read flush
    · have hstep : w.stepOp h a (.inbound read flush) = w := by
        unfold World.stepOp
        split <;> simp_all
      rw [hstep, opMail, if_neg hpc]
      exact hm
  | socket d read flush =>
    cases hpc : a.pc with
    | selecting queueOpen =>
      have hstep : w.stepOp h a (.socket d read flush) =
          w.handleReceivedDatagram h a queueOpen d read flush := by
        simp only [World.stepOp, hpc]
      rw [hstep]
      exact hm.handleReceivedDatagram hw hpc d read flush
    | idle | flushing | sending =>
      simp only [World.stepOp, opMail, hpc]
      exact hm
  | _ => exact hm.of_eq (inbound_stepOp hw (by simp) (by simp))

/-- **One step** does to the queues what its operations say. -/
theorem tracks_step (ext : External) (cfg : ServerConfig) (w : World)
    (m : Mailboxes ℕ InboundDatagram) (l : Label) (hm : Tracks w m) :
    Tracks (w.step ext cfg l) (run (Mailboxes.step maxQueuedDatagrams) m (w.mailOps l)) := by
  cases l with
  | removeClosed | timers => exact hm
  | accept key =>
    simp only [World.step, World.accept, mailOps]
    cases hc : w.server.connections.lookup key with
    | none => exact hm
    | some c =>
      cases hdone : c.isHandshakeCompleted with
      | false =>
        simp only [hdone, Bool.false_eq_true, if_false]
        exact hm
      | true =>
        simp only [hdone, if_true, Server.takeConnection, hc]
        refine hm.update (v := some {}) ?_
        funext h
        unfold inbound
        rw [Map.lookup_insert_if, Function.update_apply]
        split <;> rfl
  | datagram d ts ans =>
    simp only [World.step, World.handleDatagram, mailOps]
    cases w.server.existingKey d.data d.src with
    | some key => exact hm
    | none =>
      cases w.routes.resolve d.data d.src with
      | some key => exact hm.deliver key d
      | none =>
        dsimp only
        split <;> exact hm
  | op h op =>
    simp only [World.step, mailOps]
    cases ha : w.accepted.lookup h with
    | none => exact hm
    | some a => exact hm.stepOp ha op
  | drop h =>
    simp only [World.step, mailOps]
    cases ha : w.accepted.lookup h with
    | none => exact hm
    | some a =>
      refine hm.update (v := none) ?_
      funext h'
      unfold inbound World.drop
      rw [Map.lookup_erase_if, Function.update_apply]
      split <;> rfl

/-! ## Runs -/

/-- The queues of a run, as mailboxes with their history. -/
def mailboxes (ext : External) (cfg : ServerConfig) (ls : List Label) : Mailboxes ℕ InboundDatagram :=
  run (Mailboxes.step maxQueuedDatagrams) (fun _ => none)
    (relabel (World.step ext cfg) mailOps (.init cfg) ls)

/-- **The queues are first in, first out.** Under every interleaving of `accept` with the operations
on its handles, the datagrams that a handle took out of its queue, and those in it, are the ones that
the others put in while fewer than 512 waited, in that order. -/
theorem inbound_fifo (ext : External) (cfg : ServerConfig) (ls : List Label) (h : ℕ)
    (a : AcceptedConnection)
    (ha : (run (World.step ext cfg) (.init cfg) ls).accepted.lookup h = some a) :
    ∃ b, mailboxes ext cfg ls h = some b ∧ b.waiting = a.inbound ∧ b.Fifo maxQueuedDatagrams := by
  have hm : Tracks (run (World.step ext cfg) (.init cfg) ls) (mailboxes ext cfg ls) :=
    run_simulates (tracks_step ext cfg) ls (.init cfg) _ fun _ => rfl
  have hinbound := hm h
  rw [inbound, ha] at hinbound
  obtain ⟨b, hb, hwaiting⟩ := Option.map_eq_some_iff.mp hinbound.symm
  exact ⟨b, hb, hwaiting, Mailboxes.fifo_run _ _ h b hb⟩

/-- A short header for the CID `4`. -/
def sampleShort (payload : UInt8) : InboundDatagram :=
  sampleDatagram (0x40 :: ((sampleCid 4).data ++ [payload])) 1

/-- `accept` reads two datagrams for the handle `0`, which takes the first one. -/
def sampleQueued : List Label :=
  sampleAccepted ++ [.datagram (sampleShort 1) 0 {}, .datagram (sampleShort 2) 0 {},
    .op 0 (.inbound {} {})]

theorem inbound_fifo_sample :
    ∃ b, mailboxes sampleExternal sampleConfig sampleQueued 0 = some b ∧
      b.received = [sampleShort 1] ∧ b.waiting = [sampleShort 2] ∧ b.Fifo maxQueuedDatagrams := by
  have hbox : (mailboxes sampleExternal sampleConfig sampleQueued 0).map (·.received) =
      some [sampleShort 1] := by decide +kernel
  have hqueue : (sampleRun sampleConfig sampleQueued).inbound 0 = some [sampleShort 2] := by
    decide +kernel
  obtain ⟨a, ha, hinbound⟩ := Option.map_eq_some_iff.mp hqueue
  rw [sampleRun_eq] at ha
  obtain ⟨b, hb, hwaiting, hfifo⟩ := inbound_fifo sampleExternal sampleConfig sampleQueued 0 a ha
  rw [hb] at hbox
  exact ⟨b, hb, Option.some.inj hbox, hwaiting.trans hinbound, hfifo⟩

end World

end Ngtcp2Rs
