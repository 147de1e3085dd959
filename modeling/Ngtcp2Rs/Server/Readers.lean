import Ngtcp2Rs.Server.Ownership

/-!
# Who reads a datagram

`Server::accept` and every handle in `recv_event` read one socket, and each decides by itself what
becomes of a datagram. `accept` asks its own table, then the shared one; a handle asks only the
shared one, and takes what it does not find there for its own.

* `World.destination`: where a datagram goes, by its reader.
* `World.Brings`: it does go there (`handleDatagram_eq`, `handleReceivedDatagram_eq`).
* `independent_iff`: when the reader does not matter.
* `handshake_misread`: a handle reads the datagrams of connections that are not accepted yet.
-/

namespace Ngtcp2Rs

open Lib

/-- Who takes a datagram off the socket. -/
inductive Reader where
  | accept
  | handle (h : ℕ)
  deriving DecidableEq

/-- Where a datagram is processed. -/
inductive Destination where
  /-- a connection of the server -/
  | handshaking (key : ConnectionId)
  /-- an accepted connection: it reads the datagram, now or from its queue -/
  | accepted (h : ℕ)
  /-- the accepted connection is gone, and its routes are removed -/
  | gone (key : ConnectionId)
  | newConnection
  | statelessReset
  deriving DecidableEq

namespace World

/-- Where a datagram for the accepted connection `key` goes. -/
def handedOver (w : World) (key : ConnectionId) : Destination :=
  match w.receiver key with
  | some h => .accepted h
  | none => .gone key

/-- Where a datagram goes that `accept` read. -/
def acceptDestination (w : World) (d : InboundDatagram) : Destination :=
  match w.server.existingKey d.data d.src with
  | some key => .handshaking key
  | none =>
    match w.routes.resolve d.data d.src with
    | some key => w.handedOver key
    | none => if isLongHeader d.data then .newConnection else .statelessReset

/-- Where a datagram goes that the handle `h` read. -/
def handleDestination (w : World) (h : ℕ) (a : AcceptedConnection) (d : InboundDatagram) :
    Destination :=
  match (w.routes.resolve d.data d.src).filter fun key => key ≠ a.connectionId with
  | some key => w.handedOver key
  | none => .accepted h

/-- Where a datagram goes, by its reader; `none` if that one does not read. -/
def destination (w : World) (d : InboundDatagram) : Reader → Option Destination
  | .accept => some (w.acceptDestination d)
  | .handle h =>
    match w.accepted.lookup h with
    | none => none
    | some a =>
      match a.pc with
      | .selecting _ => some (w.handleDestination h a d)
      | _ => none

/-- Put a datagram into the queue of a handle, if there is room. -/
def enqueue (w : World) (h : ℕ) (d : InboundDatagram) : World :=
  match w.accepted.lookup h with
  | none => w
  | some a =>
    if a.inbound.length < maxQueuedDatagrams then w.set h { a with inbound := a.inbound ++ [d] }
    else w

/-- Bring a datagram to its destination. -/
def process (ext : External) (cfg : ServerConfig) (w : World) (d : InboundDatagram) (ts : ℕ)
    (ans : Answers) : Destination → World
  | .handshaking key => { w with server := w.server.handleExistingConnection key ans }
  | .accepted h => w.enqueue h d
  | .gone key => { w with routes := w.routes.remove key }
  | .newConnection =>
    { w with server := w.server.handleNewConnection ext cfg d.data d.src ts ans }
  | .statelessReset =>
    { w with server := w.server.sendStatelessReset ext w.routes d.data d.src ts ans }

/-- The destinations are true: each reader brings a datagram there. What a handle takes for its own,
it reads at once; what it hands over, it does before it goes on with its loop. -/
structure Brings (ext : External) (cfg : ServerConfig) (w : World) (d : InboundDatagram) : Prop where
  accept : ∀ ts ans, w.step ext cfg (.datagram d ts ans) =
    w.process ext cfg d ts ans (w.acceptDestination d)
  handle : ∀ h a queueOpen read flush ts ans, w.accepted.lookup h = some a →
    a.pc = .selecting queueOpen →
    (w.handleDestination h a d = .accepted h ∧
      w.step ext cfg (.op h (.socket d read flush)) = w.readDatagram h a queueOpen read flush) ∨
    ∃ key ≠ a.connectionId, w.routes.resolve d.data d.src = some key ∧
      w.handleDestination h a d = w.handedOver key ∧
      w.step ext cfg (.op h (.socket d read flush)) =
        match (w.process ext cfg d ts ans (w.handedOver key)).accepted.lookup h with
        | some a' => (w.process ext cfg d ts ans (w.handedOver key)).recvLoop h a' queueOpen flush
        | none => w.process ext cfg d ts ans (w.handedOver key)

/-- The reader of a datagram does not matter. -/
def Independent (w : World) (d : InboundDatagram) : Prop :=
  ∀ reader dest, w.destination d reader = some dest → dest = w.acceptDestination d

end World

section Readers

variable {ext : External} {cfg : ServerConfig} {w : World} {d : InboundDatagram}

theorem deliver_eq (w : World) (key : ConnectionId) (d : InboundDatagram) (ts : ℕ) (ans : Answers) :
    w.deliver key d = w.process ext cfg d ts ans (w.handedOver key) := by
  unfold World.deliver World.handedOver
  cases w.receiver key <;> rfl

/-- **`accept` brings a datagram to its destination.** -/
theorem handleDatagram_eq (w : World) (d : InboundDatagram) (ts : ℕ) (ans : Answers) :
    w.handleDatagram ext cfg d ts ans = w.process ext cfg d ts ans (w.acceptDestination d) := by
  unfold World.handleDatagram World.acceptDestination
  cases w.server.existingKey d.data d.src with
  | some key => rfl
  | none =>
    simp only
    cases w.routes.resolve d.data d.src with
    | some key => exact deliver_eq w key d ts ans
    | none =>
      simp only
      split <;> rfl

/-- **So does a handle.** What it takes for its own, it reads at once. -/
theorem handleReceivedDatagram_eq (w : World) (h : ℕ) (a : AcceptedConnection) (queueOpen : Bool)
    (d : InboundDatagram) (read flush : Answer) (ts : ℕ) (ans : Answers) :
    (w.handleDestination h a d = .accepted h ∧
      w.handleReceivedDatagram h a queueOpen d read flush = w.readDatagram h a queueOpen read flush) ∨
    ∃ key ≠ a.connectionId, w.routes.resolve d.data d.src = some key ∧
      w.handleDestination h a d = w.handedOver key ∧
      w.handleReceivedDatagram h a queueOpen d read flush =
        match (w.process ext cfg d ts ans (w.handedOver key)).accepted.lookup h with
        | some a' => (w.process ext cfg d ts ans (w.handedOver key)).recvLoop h a' queueOpen flush
        | none => w.process ext cfg d ts ans (w.handedOver key) := by
  unfold World.handleDestination World.handleReceivedDatagram
  cases hr : (w.routes.resolve d.data d.src).filter fun key => key ≠ a.connectionId with
  | none => exact .inl ⟨rfl, rfl⟩
  | some key =>
    obtain ⟨hkey, hne⟩ := Option.filter_eq_some_iff.mp hr
    refine .inr ⟨key, by simpa using hne, hkey, rfl, ?_⟩
    simp only
    exact @deliver_eq ext cfg w key d ts ans ▸ rfl

/-- Each reader brings a datagram to its destination. -/
theorem brings (ext : External) (cfg : ServerConfig) (w : World) (d : InboundDatagram) :
    w.Brings ext cfg d where
  accept := handleDatagram_eq w d
  handle h a queueOpen read flush ts ans ha hpc := by
    have hstep : w.step ext cfg (.op h (.socket d read flush)) =
        w.handleReceivedDatagram h a queueOpen d read flush := by
      simp only [World.step, ha, World.stepOp, hpc]
    rw [hstep]
    exact handleReceivedDatagram_eq w h a queueOpen d read flush ts ans

/-- The handle waits at the socket. -/
theorem destination_handle {h : ℕ} {dest : Destination} :
    w.destination d (.handle h) = some dest ↔
      ∃ a queueOpen, w.accepted.lookup h = some a ∧ a.pc = .selecting queueOpen ∧
        w.handleDestination h a d = dest := by
  unfold World.destination
  simp only
  constructor
  · intro hd
    split at hd
    · cases hd
    · rename_i a ha
      split at hd
      · rename_i queueOpen hpc
        exact ⟨a, queueOpen, ha, hpc, Option.some.inj hd⟩
      · cases hd
  · rintro ⟨a, queueOpen, ha, hpc, rfl⟩
    simp only [ha, hpc]

/-- A handle and `accept` agree only on datagrams of accepted connections. -/
theorem handleDestination_eq_iff {h : ℕ} {a : AcceptedConnection} :
    w.handleDestination h a d = w.acceptDestination d ↔
      w.server.existingKey d.data d.src = none ∧
      ∃ key, w.routes.resolve d.data d.src = some key ∧
        (key = a.connectionId → w.receiver key = some h) := by
  unfold World.handleDestination World.acceptDestination
  have hgone (key : ConnectionId) : w.handedOver key = .accepted h ↔ w.receiver key = some h := by
    unfold World.handedOver
    cases w.receiver key <;> simp
  have hserver (key key' : ConnectionId) : w.handedOver key' ≠ .handshaking key := by
    unfold World.handedOver
    cases w.receiver key' <;> simp
  cases w.server.existingKey d.data d.src with
  | some key =>
    simp only [reduceCtorEq, false_and, iff_false]
    split
    · exact hserver key _
    · simp
  | none =>
    simp only [true_and]
    cases w.routes.resolve d.data d.src with
    | none =>
      simp only [Option.filter_none, reduceCtorEq, false_and, exists_false, iff_false]
      split <;> simp
    | some key =>
      by_cases hkey : key = a.connectionId
      · simp only [Option.filter_some, hkey, ne_eq, not_true_eq_false, decide_false,
          Bool.false_eq_true, if_false, Option.some.injEq, exists_eq_left', forall_const]
        rw [eq_comm]
        exact hgone _
      · simp [Option.filter_some, hkey]

/-- **When the reader does not matter**, where a datagram goes being what the readers do with it: no
handle waits at the socket, or the datagram is one of an accepted connection, and a handle with the
key of that connection is the one that receives from its queue. -/
theorem independent_iff (ext : External) (cfg : ServerConfig) (w : World) (d : InboundDatagram) :
    w.Brings ext cfg d ∧
    (w.Independent d ↔
      ∀ h a queueOpen, w.accepted.lookup h = some a → a.pc = .selecting queueOpen →
        w.server.existingKey d.data d.src = none ∧
        ∃ key, w.routes.resolve d.data d.src = some key ∧
          (key = a.connectionId → w.receiver key = some h)) := by
  refine ⟨brings ext cfg w d, fun hw h a queueOpen ha hpc => ?_, fun hw reader dest hd => ?_⟩
  · exact handleDestination_eq_iff.mp
      (hw (.handle h) _ (destination_handle.mpr ⟨a, queueOpen, ha, hpc, rfl⟩))
  · cases reader with
    | accept => exact (Option.some.inj hd).symm
    | handle h =>
      obtain ⟨a, queueOpen, ha, hpc, rfl⟩ := destination_handle.mp hd
      exact handleDestination_eq_iff.mpr (hw h a queueOpen ha hpc)

end Readers

/-- A client whose connection is not accepted yet. -/
def sampleShakingHands : List Label :=
  sampleAccepted ++
    [.datagram (sampleDatagram (sampleInitial (sampleCid 9) []) 2) 0 { scid := sampleFill 8 }]

/-- **A handle misreads.** A connection was accepted and waits in `recv_event`; another one is
shaking hands. The second Initial of the latter reaches it if `accept` reads it, and the accepted
connection if that one does; so does the Initial of a third client. -/
theorem handshake_misread :
    (sampleRun sampleConfig sampleShakingHands).destination
      (sampleDatagram (sampleInitial (sampleCid 9) []) 2) .accept =
        some (.handshaking (sampleCid 8)) ∧
    (sampleRun sampleConfig sampleShakingHands).destination
      (sampleDatagram (sampleInitial (sampleCid 9) []) 2) (.handle 0) = some (.accepted 0) ∧
    (sampleRun sampleConfig sampleShakingHands).destination
      (sampleDatagram (sampleInitial (sampleCid 7) []) 3) .accept = some .newConnection ∧
    (sampleRun sampleConfig sampleShakingHands).destination
      (sampleDatagram (sampleInitial (sampleCid 7) []) 3) (.handle 0) = some (.accepted 0) ∧
    ¬ (sampleRun sampleConfig sampleShakingHands).Independent
      (sampleDatagram (sampleInitial (sampleCid 9) []) 2) := by
  have haccept : (sampleRun sampleConfig sampleShakingHands).destination
      (sampleDatagram (sampleInitial (sampleCid 9) []) 2) .accept =
        some (.handshaking (sampleCid 8)) := by decide +kernel
  have hhandle : (sampleRun sampleConfig sampleShakingHands).destination
      (sampleDatagram (sampleInitial (sampleCid 9) []) 2) (.handle 0) = some (.accepted 0) := by
    decide +kernel
  refine ⟨haccept, hhandle, by decide +kernel, by decide +kernel, fun h => ?_⟩
  have heq := h (.handle 0) _ hhandle
  cases haccept.symm.trans (congrArg some heq.symm)

end Ngtcp2Rs
