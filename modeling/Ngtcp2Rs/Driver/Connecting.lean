import Ngtcp2Rs.Driver.Endpoint
import Ngtcp2Rs.Streams.WritePackets

/-!
# The client's handshake

The loop of `connect_inner` in `tokio-ngtcp2/src/client.rs`: flush, return if early data can be sent or
the handshake is complete, and otherwise wait for a datagram, the timer or the deadline. Unlike
`recv_event`, it flushes before it looks whether the connection has ended.

* `connect_delivers`: no event is lost between the first packet and the application, on both sides of
  the return of `connect`, and the qlog is written when it returns.
* `connect_closed`: a peer that closes the connection makes `connect` fail with the error of ngtcp2;
  `ConnectionClosed` is left for an internal error of `read_pkt`.
-/

namespace Ngtcp2Rs

open Lib

/-- How the select of `connect_inner` ends. -/
inductive ConnectWait where
  | datagram (src : SocketAddr) (read : Outcome)
  | socketError
  | timer (expiry : Outcome)
  | deadline
  deriving DecidableEq

/-- One round of `connect_inner`: the flush, what TLS says after it, and the select. -/
structure ConnectRound where
  flush : Outcome := {}
  qlogFails : Option ℕ := none
  isInEarlyData : Bool := false
  isHandshakeCompleted : Bool := false
  wait : ConnectWait
  deriving DecidableEq

/-- The round ends with a packet on which `read_pkt` fails with an internal error. -/
def ConnectRound.InternalRead (r : ConnectRound) : Prop :=
  ∃ src read err, r.wait = .datagram src read ∧ read.error = some err ∧
    err.classifyConnectionError = .internal

/-- What becomes of `connect_inner`. -/
inductive Connecting where
  | waiting (e : Endpoint)
  | failed (err : Error)
  | connected (e : Endpoint)

namespace Endpoint

/-- `ClientConnection::new`. -/
def newClient (path : PathInfo) (qlogOpen : Bool) : Endpoint where
  toDriven := .new path qlogOpen
  socket := path.localAddr
  localAddr := path.localAddr

/-- `flush` of the client, to its end. -/
def flushToEnd (e : Endpoint) (o : Outcome) (qlogFails : Option ℕ) : Endpoint :=
  (e.write .client o none).flushed .client qlogFails

/-- `handle_packet`. An internal error ends the connection, the others are left to ngtcp2. -/
def handlePacket (e : Endpoint) (src : SocketAddr) (read : Outcome) : Endpoint :=
  let e := e.on (.callAndDrain (.read ⟨e.localAddr, src⟩) read)
  match read.error.filter fun err => err.classifyConnectionError = .internal with
  | some _ => e.on .pushConnectionClosed
  | none => e

/-- The select of `connect_inner`. The error of the timer is dropped. -/
def connectWait (e : Endpoint) : ConnectWait → Connecting
  | .datagram src read => .waiting (e.handlePacket src read)
  | .socketError => .failed (.internal "recv error")
  | .timer expiry => .waiting (e.on (.callAndDrain .expiry expiry))
  | .deadline => .failed (.internal "handshake timeout")

/-- One round of `connect_inner`. -/
def connectRound (e : Endpoint) (r : ConnectRound) : Connecting :=
  match r.flush.error with
  | some err => .failed err
  | none =>
    let e := e.flushToEnd r.flush r.qlogFails
    if r.isInEarlyData || r.isHandshakeCompleted then .connected e
    else if e.isClosed then .failed .connectionClosed
    else e.connectWait r.wait

/-- The loop of `connect_inner`. -/
def connectLoop (e : Endpoint) : List ConnectRound → Connecting
  | [] => .waiting e
  | r :: rounds =>
    match e.connectRound r with
    | .waiting e => e.connectLoop rounds
    | stop => stop

/-! ## What a round does -/

section Rounds

variable {e e' : Endpoint} {r : ConnectRound}

theorem drives_flushToEnd (e : Endpoint) (o : Outcome) (qlogFails : Option ℕ) :
    Drives .client e (e.flushToEnd o qlogFails) :=
  (drives_write e o none).trans (drives_flushed _ qlogFails)

theorem pc_flushToEnd (e : Endpoint) (o : Outcome) (qlogFails : Option ℕ) :
    (e.flushToEnd o qlogFails).pc = e.pc := pc_write e o none

theorem drives_handlePacket (e : Endpoint) (src : SocketAddr) (read : Outcome) :
    Drives .client e (e.handlePacket src read) := by
  have hread : Drives .client e (e.on (.callAndDrain (.read ⟨e.localAddr, src⟩) read)) :=
    drives_on e _ trivial
  unfold handlePacket
  split
  · exact hread.on .pushConnectionClosed trivial
  · exact hread

theorem pc_handlePacket (e : Endpoint) (src : SocketAddr) (read : Outcome) :
    (e.handlePacket src read).pc = e.pc := by
  unfold handlePacket
  split <;> rfl

/-- A round that goes on, or that returns the connection, had a flush without an error. -/
theorem connectRound_flushed (h : ∀ err, e.connectRound r ≠ .failed err) :
    r.flush.error = none := by
  unfold connectRound at h
  split at h
  · exact absurd rfl (h _)
  · assumption

theorem connectRound_connected (h : e.connectRound r = .connected e') :
    e' = e.flushToEnd r.flush r.qlogFails ∧
      (r.isInEarlyData = true ∨ r.isHandshakeCompleted = true) := by
  unfold connectRound at h
  split at h
  · cases h
  dsimp only at h
  split_ifs at h with hready
  · cases h
    exact ⟨rfl, by simpa using hready⟩
  · cases hwait : r.wait <;> simp [hwait, connectWait] at h

theorem connectRound_waiting (h : e.connectRound r = .waiting e') :
    (e.flushToEnd r.flush r.qlogFails).isClosed = false ∧
      (e.flushToEnd r.flush r.qlogFails).connectWait r.wait = .waiting e' := by
  unfold connectRound at h
  split at h
  · cases h
  dsimp only at h
  split_ifs at h with hready hclosed
  exact ⟨by simpa using hclosed, h⟩

/-- A round is made of operations on the connection. -/
theorem drives_connectRound (h : e.connectRound r = .waiting e' ∨ e.connectRound r = .connected e') :
    Drives .client e e' ∧ e'.pc = e.pc := by
  have hflush := drives_flushToEnd e r.flush r.qlogFails
  have hpc := pc_flushToEnd e r.flush r.qlogFails
  rcases h with h | h
  · obtain ⟨-, hwait⟩ := connectRound_waiting h
    cases hr : r.wait with
    | datagram src read =>
      rw [hr] at hwait
      cases hwait
      exact ⟨hflush.trans (drives_handlePacket _ src read), (pc_handlePacket _ src read).trans hpc⟩
    | timer expiry =>
      rw [hr] at hwait
      cases hwait
      exact ⟨hflush.on (.callAndDrain .expiry expiry) trivial, hpc⟩
    | socketError | deadline =>
      rw [hr] at hwait
      cases hwait
  · obtain ⟨rfl, -⟩ := connectRound_connected h
    exact ⟨hflush, hpc⟩

theorem drives_connectLoop : ∀ {rounds : List ConnectRound} {e e' : Endpoint},
    e.connectLoop rounds = .connected e' → Drives .client e e' ∧ e'.pc = e.pc
  | [], _, _, h => by cases h
  | r :: rounds, e, e', h => by
    unfold connectLoop at h
    split at h
    · next e₁ hround =>
      obtain ⟨hdrives, hpc⟩ := drives_connectRound (.inl hround)
      obtain ⟨hdrives', hpc'⟩ := drives_connectLoop h
      exact ⟨hdrives.trans hdrives', hpc'.trans hpc⟩
    · exact drives_connectRound (.inr h)

end Rounds

/-! ## What `connect` returns -/

section Connect

variable {path : PathInfo} {qlogOpen : Bool} {rounds : List ConnectRound} {e : Endpoint}

/-- The connection that `connect` returns is one to start with. -/
theorem starts_connectLoop (h : (newClient path qlogOpen).connectLoop rounds = .connected e) :
    e.Starts .client path := by
  obtain ⟨hdrives, hpc⟩ := drives_connectLoop h
  exact ⟨⟨qlogOpen, hdrives.does⟩, hpc⟩

/-- The last thing that `connect` does is a flush without an error. -/
theorem flushed_connectLoop : ∀ {rounds : List ConnectRound} {e e' : Endpoint},
    e.connectLoop rounds = .connected e' →
      ∃ (e₁ : Endpoint) (r : ConnectRound), r ∈ rounds ∧ r.flush.error = none ∧
        e' = e₁.flushToEnd r.flush r.qlogFails ∧
        (r.isInEarlyData = true ∨ r.isHandshakeCompleted = true)
  | [], _, _, h => by cases h
  | r :: rounds, e, e', h => by
    unfold connectLoop at h
    split at h
    · obtain ⟨e₁, r', hr', hrest⟩ := flushed_connectLoop h
      exact ⟨e₁, r', List.mem_cons_of_mem _ hr', hrest⟩
    · obtain ⟨heq, hready⟩ := connectRound_connected h
      have hflush := connectRound_flushed (e := e) (r := r) (by rw [h]; simp)
      exact ⟨e, r, List.mem_cons_self, hflush, heq, hready⟩

/-- **No event is lost by the handshake.** Whatever happens before and after `connect` returns a
connection, the application gets the events of ngtcp2 in their order, each once, those of the
handshake included. When `connect` returns, the packets of a flush without an error were sent, and
the qlog is written. -/
theorem connect_delivers (h : (newClient path qlogOpen).connectLoop rounds = .connected e)
    (ops : List EndpointOp) :
    (run (step .client) e ops).Delivered ∧
      (∃ log, e.log = .sent :: log) ∧ (e.qlog.isOpen = true → e.conn.qlogData = []) := by
  have hstarts := starts_connectLoop h
  obtain ⟨e₁, r, -, hflush, rfl, -⟩ := flushed_connectLoop h
  refine ⟨hstarts.delivered ops, ?_, Driven.qlogData_writeQlog _ r.qlogFails⟩
  have hlog : (e₁.flushToEnd r.flush r.qlogFails).log = .sent :: (e₁.write .client r.flush none).log :=
    Driven.log_writeQlog _ r.qlogFails
  exact ⟨_, hlog⟩

/-- The address of the peer of the samples. -/
def samplePeer : SocketAddr := .v4 0x7f000001 2

/-- The handshake is complete after one datagram; what the last flush reports waits in ngtcp2. -/
def sampleRounds : List ConnectRound :=
  [{ flush := { qlog := [1] }, wait := .datagram samplePeer { events := [.handshakeCompleted] } },
    { flush := { events := [.handshakeConfirmed] }, isHandshakeCompleted := true, wait := .deadline }]

theorem connect_delivers_completed :
    ∃ e, (newClient ⟨.v4 0x7f000001 1, samplePeer⟩ true).connectLoop sampleRounds = .connected e ∧
      e.qlog.written = [1] ∧
      (run (step .client) e [.recvEvent {} none, .recvEvent {} none, .sent none]).delivered =
        [.core .handshakeCompleted, .core .handshakeConfirmed] ∧
      (run (step .client) e [.recvEvent {} none, .recvEvent {} none, .sent none]).Delivered := by
  obtain ⟨e, he⟩ : ∃ e, (newClient ⟨.v4 0x7f000001 1, samplePeer⟩ true).connectLoop sampleRounds =
      .connected e := ⟨_, rfl⟩
  refine ⟨e, he, ?_, ?_, (connect_delivers he _).1⟩ <;> cases he <;> decide

end Connect

/-! ## A peer that closes -/

section Closing

variable {e : Endpoint}

/-- A flush closes a connection only if ngtcp2 does. -/
theorem isClosed_flushToEnd (e : Endpoint) {o : Outcome} (ho : o.error = none)
    (qlogFails : Option ℕ) : (e.flushToEnd o qlogFails).closed = e.closed ∧
      (e.flushToEnd o qlogFails).isEnding = (e.isEnding || o.closing || o.draining) := by
  have hpath (c : Driven) : c.takePath.closed = c.closed ∧ c.takePath.isEnding = c.isEnding := by
    unfold Driven.takePath
    split <;> exact ⟨rfl, rfl⟩
  have hwrite : (e.write .client o none).toDriven =
      (e.toDriven.call .writePackets o).takePath := by
    simp only [write, ho]
    rfl
  obtain ⟨qlogData, qlog, heq⟩ :=
    Driven.writeQlog_eq ((e.toDriven.call .writePackets o).takePath.record .sent) qlogFails
  have hflush : (e.flushToEnd o qlogFails).toDriven =
      ((e.toDriven.call .writePackets o).takePath.record .sent).writeQlog qlogFails := by
    rw [← hwrite]
    rfl
  rw [hflush, heq]
  refine ⟨(hpath _).1, (hpath _).2.trans ?_⟩
  simp only [Driven.isEnding, Driven.call, Driven.callWith, Driven.record, NgConn.apply]
  cases e.conn.isInClosingPeriod <;> cases e.conn.isInDrainingPeriod <;> cases o.closing <;>
    cases o.draining <;> rfl

/-- A flush fails with what `write_packets` returns, on some ngtcp2 and some queue. -/
def FailsInWriting (o : Outcome) : Prop :=
  ∀ err, o.error = some err → ∃ (σ : Type) (ng : Ngtcp2 σ) (fuel : ℕ) (conn : σ)
    (pending : PendingStreams), (writePackets ng fuel conn pending).result = some (.error err)

/-- Once a connection is closing or draining, ngtcp2 refuses to write to it, and writing does not make
it so. -/
structure Refuses (e : Endpoint) (r : ConnectRound) : Prop where
  ending : e.isEnding = true → r.flush.error.isSome
  calm : r.flush.closing = false ∧ r.flush.draining = false
  flush : FailsInWriting r.flush

/-- Such a round does not end with `ConnectionClosed`, unless the connection was closed before. -/
theorem Refuses.not_closed {r : ConnectRound} (hr : e.Refuses r) (he : e.closed = false) :
    e.connectRound r ≠ .failed .connectionClosed := by
  intro h
  unfold connectRound at h
  split at h
  · next err herr =>
    cases h
    obtain ⟨σ, ng, fuel, conn, pending, hwrite⟩ := hr.flush _ herr
    exact (writePackets_error hwrite).ne_connectionClosed rfl
  · next hnone =>
    obtain ⟨hclosed, hending⟩ := isClosed_flushToEnd e hnone r.qlogFails
    have hcalm : e.isEnding = false := by
      rw [Bool.eq_false_iff]
      intro hc
      simpa [hnone] using hr.ending hc
    have hopen : (e.flushToEnd r.flush r.qlogFails).isClosed = false := by
      rw [Driven.isClosed, hclosed, hending, he, hcalm, hr.calm.1, hr.calm.2]
      rfl
    simp only [hopen, Bool.false_eq_true, if_false] at h
    split_ifs at h
    cases hwait : r.wait <;> simp [hwait, connectWait] at h

/-- ngtcp2 does so in every round. -/
def RefusesEach (e : Endpoint) : List ConnectRound → Prop
  | [] => True
  | r :: rounds => e.Refuses r ∧ ∀ e', e.connectRound r = .waiting e' → e'.RefusesEach rounds

theorem closed_handlePacket {src : SocketAddr} {read : Outcome} (he : e.closed = false)
    (h : (e.handlePacket src read).closed = true) :
    ∃ err, read.error = some err ∧ err.classifyConnectionError = .internal := by
  unfold handlePacket at h
  split at h
  · next err herr =>
    obtain ⟨hsome, hinternal⟩ := Option.filter_eq_some_iff.mp herr
    exact ⟨err, hsome, by simpa using hinternal⟩
  · simp only [on, Driven.step, Driven.callAndDrain, Driven.drainEvents_eq] at h
    exact absurd h (by simp [Driven.callWith, Driven.record, he])

/-- **A closed connection.** If ngtcp2 refuses to write to a connection that is closing or draining,
and writing does not end one, then `connect` says `ConnectionClosed` only if `read_pkt` failed with
an internal error: a peer that closes the connection during the handshake shows up as the error of
the next flush. -/
theorem connect_closed : ∀ {rounds : List ConnectRound} {e : Endpoint}, e.closed = false →
    e.RefusesEach rounds → e.connectLoop rounds = .failed .connectionClosed →
      ∃ r ∈ rounds, r.InternalRead
  | [], _, _, _, h => by cases h
  | r :: rounds, e, he, ⟨hr, hrest⟩, h => by
    unfold connectLoop at h
    split at h
    · next e' hround =>
      obtain ⟨hopen, hwait⟩ := connectRound_waiting hround
      have hclosed : (e.flushToEnd r.flush r.qlogFails).closed = false := by
        simp only [Driven.isClosed, Bool.or_eq_false_iff] at hopen
        exact hopen.1
      cases he' : e'.closed with
      | false =>
        obtain ⟨r', hr', hread⟩ := connect_closed he' (hrest e' hround) h
        exact ⟨r', List.mem_cons_of_mem _ hr', hread⟩
      | true =>
        -- the connection was closed in this round, which only `handle_packet` does
        refine ⟨r, List.mem_cons_self, ?_⟩
        cases hr' : r.wait with
        | datagram src read =>
          rw [hr'] at hwait
          cases hwait
          obtain ⟨err, herr, hinternal⟩ := closed_handlePacket hclosed he'
          exact ⟨src, read, err, hr', herr, hinternal⟩
        | timer expiry =>
          rw [hr'] at hwait
          cases hwait
          simp only [on, Driven.step, Driven.callAndDrain, Driven.drainEvents_eq] at he'
          simp [Driven.callWith, Driven.record, hclosed] at he'
        | socketError | deadline =>
          rw [hr'] at hwait
          cases hwait
    · exact absurd h (hr.not_closed he)

/-- The first datagram is too much for `read_pkt`. -/
def sampleInternal : List ConnectRound :=
  [{ wait := .datagram samplePeer { error := some (.internal "read_pkt") } }, { wait := .deadline }]

theorem connect_closed_internal : ∃ r ∈ sampleInternal, r.InternalRead := by
  have hstart : (newClient ⟨.v4 0x7f000001 1, samplePeer⟩ false).connectLoop sampleInternal =
      .failed .connectionClosed := rfl
  have hrefuses : (newClient ⟨.v4 0x7f000001 1, samplePeer⟩ false).RefusesEach sampleInternal := by
    refine ⟨⟨by decide, ⟨rfl, rfl⟩, fun _ h => by cases h⟩,
      fun e' he' => ⟨⟨?_, ⟨rfl, rfl⟩, fun _ h => by cases h⟩, ?_⟩⟩
    · cases he'
      decide
    · exact fun _ _ => trivial
  exact connect_closed rfl hrefuses hstart

end Closing

end Endpoint

end Ngtcp2Rs
