import Ngtcp2Rs.Server.Initials

/-!
# Answers and hand-overs

What holds of the server and its handles in every run, whatever ngtcp2 and the clients do.

* **`replies_solicited`**: who gets an answer outside a connection - a Retry, a Version Negotiation, an
  INVALID_TOKEN close, a Stateless Reset, or a connection of its own - is the sender of a datagram that
  belonged to no connection, and each such datagram is answered at most once.
* **`accepted_once`**: `accept` returns a connection at most once for every time it was created, and a
  handle always has a completed handshake.
-/

namespace Ngtcp2Rs

open Lib Relation

/-! ## Steps that answer nobody -/

/-- The address of a peer that was answered outside a connection, or got one. -/
def Action.reply : Action → Option SocketAddr
  | .created _ _ src => some src
  | .retry _ _ _ dst _ _ => some dst
  | .statelessReset _ dst => some dst
  | .versionNegotiation dst => some dst
  | .invalidTokenClose dst => some dst
  | .called .. | .returned .. | .missingKey _ | .panicked => none

/-- The addresses that were answered, in their order. -/
def replies (trace : List Action) : List SocketAddr := trace.reverse.filterMap Action.reply

/-- The trace grew, without an answer. -/
def Unanswered (trace trace' : List Action) : Prop :=
  ∃ acts, trace' = acts ++ trace ∧ ∀ a ∈ acts, a.reply = none

namespace Unanswered

variable {trace trace' trace'' : List Action}

theorem refl (trace : List Action) : Unanswered trace trace := ⟨[], rfl, by simp⟩

theorem cons {a : Action} (ha : a.reply = none) (h : Unanswered trace trace') :
    Unanswered trace (a :: trace') := by
  obtain ⟨acts, rfl, hacts⟩ := h
  refine ⟨a :: acts, rfl, fun b hb => ?_⟩
  rcases List.mem_cons.mp hb with rfl | hb
  · exact ha
  · exact hacts b hb

theorem trans (h : Unanswered trace trace') (h' : Unanswered trace' trace'') :
    Unanswered trace trace'' := by
  obtain ⟨acts, rfl, hacts⟩ := h
  obtain ⟨acts', rfl, hacts'⟩ := h'
  refine ⟨acts' ++ acts, by simp, fun a ha => ?_⟩
  rcases List.mem_append.mp ha with ha | ha
  · exact hacts' a ha
  · exact hacts a ha

theorem replies_eq (h : Unanswered trace trace') : replies trace' = replies trace := by
  obtain ⟨acts, rfl, hacts⟩ := h
  have hnil : (acts.reverse).filterMap Action.reply = [] := by
    rw [List.filterMap_eq_nil_iff]
    exact fun a ha => hacts a (List.mem_reverse.mp ha)
  simp [replies, hnil]

end Unanswered

/-- What can become of a handle. -/
structure AcceptedConnection.Becomes (a a' : AcceptedConnection) : Prop where
  connectionId : a'.connectionId = a.connectionId
  completed : a.inner.isHandshakeCompleted = true → a'.inner.isHandshakeCompleted = true

namespace AcceptedConnection

variable {a a' a'' : AcceptedConnection}

theorem Becomes.refl (a : AcceptedConnection) : a.Becomes a := ⟨rfl, id⟩

theorem Becomes.trans (h : a.Becomes a') (h' : a'.Becomes a'') : a.Becomes a'' where
  connectionId := h'.connectionId.trans h.connectionId
  completed hc := h'.completed (h.completed hc)

theorem becomes_called (a : AcceptedConnection) (ans : Answer) : a.Becomes (a.called ans) where
  connectionId := rfl
  completed h := by
    show (a.inner.isHandshakeCompleted || ans.effect.handshakeCompleted) = true
    rw [h, Bool.true_or]

theorem becomes_call (a : AcceptedConnection) (ans : Answer) :
    a.Becomes { a with inner := a.inner.call ans.effect } where
  connectionId := rfl
  completed h := by
    show (a.inner.isHandshakeCompleted || ans.effect.handshakeCompleted) = true
    rw [h, Bool.true_or]

theorem becomes_polled (a : AcceptedConnection) : a.Becomes a.polled := ⟨rfl, id⟩

end AcceptedConnection

/-- A step that makes no handle. -/
structure KeepsHandles (w w' : World) : Prop where
  nextHandle : w'.nextHandle = w.nextHandle
  accepted : ∀ h a', w'.accepted.lookup h = some a' →
    ∃ a, w.accepted.lookup h = some a ∧ a.Becomes a'

theorem KeepsHandles.server (w : World) (s : Server) : KeepsHandles w { w with server := s } :=
  ⟨rfl, fun _ a ha => ⟨a, ha, .refl a⟩⟩

/-- A step that answers nobody and makes no handle. -/
structure Inward (w w' : World) : Prop extends KeepsHandles w w' where
  trace : Unanswered w.trace w'.trace

namespace Inward

variable {w w' w'' : World}

theorem refl (w : World) : Inward w w := ⟨.server w w.server, .refl _⟩

theorem trans (h : Inward w w') (h' : Inward w' w'') : Inward w w'' where
  trace := h.trace.trans h'.trace
  nextHandle := h'.nextHandle.trans h.nextHandle
  accepted i a'' ha'' := by
    obtain ⟨a', ha', hb'⟩ := h'.accepted i a'' ha''
    obtain ⟨a, ha, hb⟩ := h.accepted i a' ha'
    exact ⟨a, ha, hb.trans hb'⟩

theorem server {s : Server} (h : Unanswered w.trace s.trace) : Inward w { w with server := s } :=
  ⟨.server w s, h⟩

theorem record (w : World) (act : Action) (ha : act.reply = none) : Inward w (w.record act) :=
  .server (.cons ha (.refl _))

theorem routes (r : SharedRoutes) : Inward w { w with routes := r } where
  trace := .refl _
  nextHandle := rfl
  accepted _ a ha := ⟨a, ha, .refl a⟩

theorem set {h : ℕ} {a a' : AcceptedConnection} (ha : w.accepted.lookup h = some a)
    (hb : a.Becomes a') : Inward w (w.set h a') where
  trace := .refl _
  nextHandle := rfl
  accepted i b hb' := by
    rcases Map.of_lookup_insert hb' with ⟨rfl, rfl⟩ | ⟨-, hb'⟩
    · exact ⟨a, ha, hb⟩
    · exact ⟨b, hb', .refl b⟩

end Inward

/-! ### Operations of a handle -/

section Handles

variable {w : World} {h : ℕ} {a : AcceptedConnection}

theorem call_inward (ha : w.accepted.lookup h = some a) (c : NgCall) (ans : Answer) :
    Inward w (w.call h a c ans) :=
  (Inward.set ha (a.becomes_called ans)).trans (.record _ _ rfl)

theorem syncRoutes_inward (ha : w.accepted.lookup h = some a) : Inward w (w.syncRoutes h a) :=
  (Inward.set ha a.becomes_polled).trans (.routes _)

theorem returned_inward (a' : AcceptedConnection) (ha : w.accepted.lookup h = some a)
    (hb : a.Becomes a') (key : ConnectionId) (result : Except Error ConnectionEvent) :
    Inward w ((w.set h a').record (.returned key result)) :=
  (Inward.set ha hb).trans (.record _ _ rfl)

theorem returnError_inward (ha : w.accepted.lookup h = some a) (err : Error) :
    Inward w (w.returnError h a err) :=
  returned_inward { a with pc := .idle } ha ⟨rfl, id⟩ _ _

theorem returnEvent_inward (a' : AcceptedConnection) (ha : w.accepted.lookup h = some a)
    (hb : a.Becomes a') (err : Error) : Inward w (w.returnEvent h a' err) := by
  unfold World.returnEvent
  split
  · rename_i event events _
    exact returned_inward { a' with inner := { a'.inner with events }, pc := .idle } ha
      ⟨hb.connectionId, hb.completed⟩ _ _
  · exact returned_inward { a' with pc := .idle } ha ⟨hb.connectionId, hb.completed⟩ _ _

theorem returnClosed_inward (ha : w.accepted.lookup h = some a) (err : Error) :
    Inward w (w.returnClosed h a err) := by
  refine returnEvent_inward { a with inner := a.inner.pushConnectionClosed } ha
    ⟨rfl, fun hc => ?_⟩ err
  show a.inner.pushConnectionClosed.isHandshakeCompleted = true
  unfold ServerConnection.pushConnectionClosed
  split <;> exact hc

theorem recvLoop_inward (ha : w.accepted.lookup h = some a) (queueOpen : Bool) (flush : Answer) :
    Inward w (w.recvLoop h a queueOpen flush) := by
  unfold World.recvLoop
  split
  · exact returnEvent_inward a ha (.refl a) _
  split
  · exact returnClosed_inward ha _
  split
  · exact (call_inward ha _ _).trans (returnError_inward (lookup_call ..) _)
  · exact (call_inward ha _ _).trans (.set (lookup_call ..) ⟨rfl, id⟩)

theorem readDatagram_inward (ha : w.accepted.lookup h = some a) (queueOpen : Bool)
    (read flush : Answer) : Inward w (w.readDatagram h a queueOpen read flush) := by
  unfold World.readDatagram
  split
  · exact (call_inward ha _ _).trans (returnError_inward (lookup_call ..) _)
  · exact ((call_inward ha _ _).trans (syncRoutes_inward (lookup_call ..))).trans
      (recvLoop_inward (lookup_syncRoutes ..) _ _)

theorem sent_inward (ha : w.accepted.lookup h = some a) : Inward w (w.sent h a) := by
  unfold World.sent
  split
  · exact (syncRoutes_inward ha).trans (.set (lookup_syncRoutes ..) ⟨rfl, id⟩)
  · split
    · exact (syncRoutes_inward ha).trans (returnEvent_inward a.polled (lookup_syncRoutes ..) (.refl _) _)
    · exact (syncRoutes_inward ha).trans (.set (lookup_syncRoutes ..) ⟨rfl, id⟩)
  · exact .refl w

theorem deliver_inward (w : World) (key : ConnectionId) (d : InboundDatagram) :
    Inward w (w.deliver key d) := by
  unfold World.deliver
  split
  · exact .routes _
  · split
    · exact .refl w
    · rename_i a ha
      split
      · exact .set ha ⟨rfl, id⟩
      · exact .refl w

theorem handleReceivedDatagram_inward (ha : w.accepted.lookup h = some a) (queueOpen : Bool)
    (d : InboundDatagram) (read flush : Answer) :
    Inward w (w.handleReceivedDatagram h a queueOpen d read flush) := by
  unfold World.handleReceivedDatagram
  split
  · split
    · rename_i a' ha'
      exact (deliver_inward w _ d).trans (recvLoop_inward ha' _ _)
    · exact deliver_inward w _ d
  · exact readDatagram_inward ha _ _ _

theorem flush_inward (ha : w.accepted.lookup h = some a) (ans : Answer) :
    Inward w (w.flush h a ans) := by
  unfold World.flush
  split
  · exact call_inward ha _ _
  · exact (call_inward ha _ _).trans (.set (lookup_call ..) ⟨rfl, id⟩)

theorem recvEvent_inward (ha : w.accepted.lookup h = some a) (flush : Answer) :
    Inward w (w.recvEvent h a flush) := by
  unfold World.recvEvent
  split
  · exact returnEvent_inward a ha (.refl a) _
  split
  · exact returnClosed_inward ha _
  · exact recvLoop_inward ha _ _

theorem sendDatagram_inward (ha : w.accepted.lookup h = some a) (datagram : Answer)
    (control : Option Answer) : Inward w (w.sendDatagram h a datagram control) := by
  unfold World.sendDatagram
  have hcall : Inward w _ :=
    (Inward.set ha (a.becomes_call datagram)).trans
      (.record _ (.called a.connectionId .writeDatagram datagram) rfl)
  split
  · exact hcall
  · exact (hcall.trans (.set (lookup_set ..) (AcceptedConnection.becomes_call _ _))).trans
      (.record _ _ rfl)

theorem close_inward (ha : w.accepted.lookup h = some a) (ans : Answer) (cancelled : Bool) :
    Inward w (w.close h a ans cancelled) := by
  unfold World.close
  have hcall : Inward w _ :=
    (Inward.set ha (a.becomes_call ans)).trans
      (.record _ (.called a.connectionId .close ans) rfl)
  split
  · exact .refl w
  split
  · exact hcall
  · exact hcall.trans (.set (lookup_set ..) ⟨rfl, id⟩)

theorem recvInbound_inward (ha : w.accepted.lookup h = some a) (read flush : Answer) :
    Inward w (w.recvInbound h a read flush) := by
  unfold World.recvInbound
  split
  · rename_i inbound _
    have hpop : a.Becomes { a with inbound } := ⟨rfl, id⟩
    exact (Inward.set ha hpop).trans (readDatagram_inward (lookup_set ..) _ _ _)
  · split
    · exact .refl w
    · exact recvLoop_inward ha _ _

theorem recvTimer_inward (ha : w.accepted.lookup h = some a) (queueOpen : Bool)
    (expiry flush : Answer) : Inward w (w.recvTimer h a queueOpen expiry flush) := by
  unfold World.recvTimer
  split
  · exact (call_inward ha _ _).trans (returnClosed_inward (lookup_call ..) _)
  · exact (call_inward ha _ _).trans (recvLoop_inward (lookup_call ..) _ _)

/-- **The operations of a handle** answer nobody. -/
theorem stepOp_inward (ha : w.accepted.lookup h = some a) (op : Op) : Inward w (w.stepOp h a op) := by
  unfold World.stepOp
  split
  · exact flush_inward ha _
  · exact recvEvent_inward ha _
  · exact sendDatagram_inward ha _ _
  · exact close_inward ha _ _
  · exact .set ha ⟨rfl, id⟩
  · exact sent_inward ha
  · exact sent_inward ha
  · exact recvInbound_inward ha _ _
  · exact handleReceivedDatagram_inward ha _ _ _ _
  · exact returnError_inward ha _
  · exact recvTimer_inward ha _ _ _
  · exact .set ha ⟨rfl, id⟩
  · exact .refl w

end Handles

/-! ### Handlers of the server -/

section Handlers

variable {ext : External} {cfg : ServerConfig}

theorem unanswered_foldl {α : Type} {f : Server → α → Server}
    (hf : ∀ s a, Unanswered s.trace (f s a).trace) : ∀ (l : List α) (s : Server),
      Unanswered s.trace (l.foldl f s).trace
  | [], _ => .refl _
  | a :: l, s => (hf s a).trans (unanswered_foldl hf l (f s a))

theorem unanswered_handleConnError (s : Server) (key : ConnectionId) (err : Error) (close : Answer)
    (closeWritten : Bool) :
    Unanswered s.trace (s.handleConnError key err close closeWritten).trace := by
  unfold Server.handleConnError
  split
  · exact .refl _
  · exact .refl _
  · exact .refl _
  · exact .refl _
  all_goals
    split
    · exact .refl _
    · split
      · exact .cons rfl (.refl _)
      · exact .cons rfl (.refl _)

theorem unanswered_handleExistingConnection (s : Server) (key : ConnectionId) (ans : Answers) :
    Unanswered s.trace (s.handleExistingConnection key ans).trace := by
  unfold Server.handleExistingConnection
  split
  · exact .cons rfl (.refl _)
  · rename_i c _
    have hserve : Unanswered s.trace _ :=
      .cons (a := .called key .writePackets ans.flush) rfl
        (.cons (a := .called key .read ans.read) rfl (.refl _))
    split
    · exact hserve
    · split
      · exact hserve
      · exact hserve.trans (unanswered_handleConnError _ _ _ _ _)

theorem unanswered_handleTimer (timers : ConnectionId → Option Answer) (s : Server)
    (key : ConnectionId) : Unanswered s.trace (s.handleTimer timers key).trace := by
  unfold Server.handleTimer
  split
  · rename_i c ans _ _
    have hserve : Unanswered s.trace _ :=
      .cons (a := .called key .expiry ans) rfl (.refl _)
    split
    · exact hserve
    · split_ifs
      · exact hserve
      · exact hserve
  · exact .refl _

/-- The datagram belongs to no connection, of the server or accepted. -/
def Stranger (w : World) (d : InboundDatagram) : Prop :=
  w.server.existingKey d.data d.src = none ∧ w.routes.resolve d.data d.src = none

instance (w : World) (d : InboundDatagram) : Decidable (Stranger w d) :=
  inferInstanceAs (Decidable (_ ∧ _))

/-- The trace grew by at most one answer, to `dst`. -/
def AnsweredOnce (dst : SocketAddr) (trace trace' : List Action) : Prop :=
  Unanswered trace trace' ∨
    ∃ act : Action, act.reply = some dst ∧ Unanswered (act :: trace) trace'

theorem AnsweredOnce.record {dst : SocketAddr} {act : Action} (ha : act.reply = some dst)
    (trace : List Action) : AnsweredOnce dst trace (act :: trace) :=
  .inr ⟨act, ha, .refl _⟩

theorem answeredOnce_sendRetry (s : Server) (accepted : AcceptedInitial) (version : QuicVersion)
    (dst : SocketAddr) (ts : ℕ) (ans : Answers) :
    AnsweredOnce dst s.trace (s.sendRetry ext cfg accepted version dst ts ans).trace := by
  unfold Server.sendRetry
  split
  · exact .inl (.refl _)
  · split
    · exact .inl (.refl _)
    · split
      · exact .record rfl _
      · exact .inl (.refl _)

theorem answeredOnce_handleNewConnection (s : Server) (data : Bytes) (src : SocketAddr) (ts : ℕ)
    (ans : Answers) :
    AnsweredOnce src s.trace (s.handleNewConnection ext cfg data src ts ans).trace := by
  rw [handleNewConnection_eq]
  cases s.initialOutcome ext cfg data src ts ans with
  | dropped => exact .inl (.refl _)
  | versionNegotiation => exact .record rfl _
  | invalidToken => exact .record rfl _
  | retry accepted version => exact answeredOnce_sendRetry s accepted version src ts ans
  | created accepted version o validated retried =>
    refine .inr ⟨.created o retried src, rfl, ?_⟩
    simp only [Server.carryOut]
    rw [trace_createConnection]
    exact .cons rfl (.cons rfl (.refl _))

theorem answeredOnce_sendStatelessReset (s : Server) (routes : SharedRoutes) (data : Bytes)
    (dst : SocketAddr) (ts : ℕ) (ans : Answers) :
    AnsweredOnce dst s.trace (s.sendStatelessReset ext routes data dst ts ans).trace := by
  unfold Server.sendStatelessReset
  simp only
  split
  · exact .inl (.refl _)
  · split
    · exact .inl (.refl _)
    · split
      · exact .record rfl _
      · exact .inl (.refl _)

theorem answeredOnce_handleDatagram (w : World) (d : InboundDatagram) (ts : ℕ) (ans : Answers)
    (hd : Stranger w d) :
    AnsweredOnce d.src w.trace (w.handleDatagram ext cfg d ts ans).trace := by
  unfold World.handleDatagram
  rw [hd.1, hd.2]
  simp only
  split
  · exact answeredOnce_handleNewConnection _ _ _ _ _
  · exact answeredOnce_sendStatelessReset _ _ _ _ _ _

theorem handleDatagram_inward (w : World) (d : InboundDatagram) (ts : ℕ) (ans : Answers)
    (hd : ¬ Stranger w d) : Inward w (w.handleDatagram ext cfg d ts ans) := by
  unfold World.handleDatagram
  split
  · exact .server (unanswered_handleExistingConnection _ _ _)
  · rename_i hserver
    split
    · exact deliver_inward w _ d
    · rename_i hshared
      exact absurd ⟨hserver, hshared⟩ hd

end Handlers

/-! ## Steps -/

/-- The senders that may be answered under a label. -/
def strangerAt (w : World) : Label → List SocketAddr
  | .datagram d _ _ => if Stranger w d then [d.src] else []
  | _ => []

/-- The connection that `accept` returns under a label. -/
def returnedAt (w : World) : Label → List ConnectionId
  | .accept key =>
    if (w.server.connections.lookup key).any (·.isHandshakeCompleted) then [key] else []
  | _ => []

section Steps

variable {ext : External} {cfg : ServerConfig}

/-- `accept` returns the connection, or does nothing. -/
theorem accept_cases (w : World) (key : ConnectionId) :
    (returnedAt w (.accept key) = [] ∧ w.accept key = w) ∨
    ∃ c s r, c.isHandshakeCompleted = true ∧ returnedAt w (.accept key) = [key] ∧
      Taken w.server w.routes key w.nextHandle s r c ∧
      w.accept key =
        { server := s, routes := r
          accepted := w.accepted.insert w.nextHandle { connectionId := key, inner := c }
          nextHandle := w.nextHandle + 1 } := by
  unfold World.accept returnedAt
  cases hc : w.server.connections.lookup key with
  | none => exact .inl ⟨by simp [hc], rfl⟩
  | some c =>
    cases hdone : c.isHandshakeCompleted with
    | false => exact .inl ⟨by simp [hc, hdone], by simp [hdone]⟩
    | true =>
      obtain ⟨s, r, ht⟩ := exists_takeConnection hc w.routes w.nextHandle
      refine .inr ⟨c, s, r, hdone, by simp [hc, hdone], takeConnection_taken ht, ?_⟩
      simp [ht, hdone]

/-- What a step does to the trace and to the handles. -/
theorem step_outward (w : World) (l : Label) :
    Inward w (w.step ext cfg l) ∨
    (∃ d ts ans, l = .datagram d ts ans ∧ Stranger w d ∧
      AnsweredOnce d.src w.trace (w.step ext cfg l).trace ∧ KeepsHandles w (w.step ext cfg l)) ∨
    ∃ key c s r, l = .accept key ∧ c.isHandshakeCompleted = true ∧ returnedAt w l = [key] ∧
      Taken w.server w.routes key w.nextHandle s r c ∧
      w.step ext cfg l =
        { server := s, routes := r
          accepted := w.accepted.insert w.nextHandle { connectionId := key, inner := c }
          nextHandle := w.nextHandle + 1 } := by
  cases l with
  | removeClosed =>
    exact .inl (.server (unanswered_foldl (f := Server.removeConnection) (fun _ _ => .refl _) _ _))
  | accept key =>
    rcases accept_cases w key with ⟨-, heq⟩ | ⟨c, s, r, hc, hr, ht, heq⟩
    · refine .inl ?_
      show Inward w (w.accept key)
      rw [heq]
      exact .refl w
    · exact .inr (.inr ⟨key, c, s, r, rfl, hc, hr, ht, heq⟩)
  | datagram d ts ans =>
    by_cases hd : Stranger w d
    · refine .inr (.inl ⟨d, ts, ans, rfl, hd, answeredOnce_handleDatagram w d ts ans hd, ?_⟩)
      show KeepsHandles w (w.handleDatagram ext cfg d ts ans)
      unfold World.handleDatagram
      rw [hd.1, hd.2]
      simp only
      split
      · exact .server w _
      · exact .server w _
    · exact .inl (handleDatagram_inward w d ts ans hd)
  | timers keys timers => exact .inl (.server (unanswered_foldl (unanswered_handleTimer timers) _ _))
  | op h op =>
    refine .inl ?_
    simp only [World.step]
    split
    · rename_i a ha
      exact stepOp_inward ha op
    · exact .refl w
  | drop h =>
    refine .inl ?_
    simp only [World.step]
    split
    · refine ⟨⟨rfl, fun i a ha => ⟨a, (Map.of_lookup_erase ha).2, .refl a⟩⟩, .refl _⟩
    · exact .refl w

end Steps

/-! ## Answers -/

section Answers

variable {ext : External} {cfg : ServerConfig}

theorem AnsweredOnce.replies_eq {dst : SocketAddr} {trace trace' : List Action}
    (h : AnsweredOnce dst trace trace') :
    replies trace' = replies trace ∨ replies trace' = replies trace ++ [dst] := by
  rcases h with h | ⟨act, hact, h⟩
  · exact .inl h.replies_eq
  · refine .inr (h.replies_eq.trans ?_)
    simp [replies, hact]

theorem replies_step (w : World) (l : Label) :
    (replies (w.step ext cfg l).trace).Sublist (replies w.trace ++ strangerAt w l) := by
  rcases step_outward w l with hin | ⟨d, ts, ans, rfl, hd, hans, -⟩ |
      ⟨key, c, s, r, rfl, -, -, ht, heq⟩
  · rw [hin.trace.replies_eq]
    exact List.sublist_append_left _ _
  · have hat : strangerAt w (.datagram d ts ans) = [d.src] := if_pos hd
    rw [hat]
    rcases hans.replies_eq with heq | heq
    · rw [heq]
      exact List.sublist_append_left _ _
    · rw [heq]
  · have htrace : (w.step ext cfg (.accept key)).trace = w.trace := by
      rw [heq]
      exact ht.trace_eq
    rw [htrace]
    exact List.sublist_append_left _ _

/-- **Answers are solicited.** In every run the addresses that were answered outside a connection, or
got one, are in their order those of senders of datagrams that belonged to no connection: one answer
for a datagram at most, and never to another address. -/
theorem replies_solicited (ext : External) (cfg : ServerConfig) (ls : List Label) :
    (replies (run (World.step ext cfg) (.init cfg) ls).trace).Sublist
      (relabel (World.step ext cfg) strangerAt (.init cfg) ls) := by
  have hstep (w : World) (past : List SocketAddr) (l : Label)
      (h : (replies w.trace).Sublist past) :
      (replies (w.step ext cfg l).trace).Sublist (past ++ strangerAt w l) :=
    (replies_step w l).trans (h.append_right _)
  exact run_history hstep ls (.init cfg) [] (List.Sublist.refl [])

end Answers

/-! ## Hand-overs -/

/-- Whether a connection is with the server, as a number. -/
def present (s : Server) (key : ConnectionId) : ℕ := if key ∈ s.connections then 1 else 0

/-- The connections with the server, and those created before, balance. -/
def KeyBalance (s s' : Server) : Prop :=
  ∀ key, (createdKeys s.trace).count key + present s' key ≤
    (createdKeys s'.trace).count key + present s key

theorem present_le {s s' : Server} {key : ConnectionId}
    (h : key ∈ s'.connections → key ∈ s.connections) : present s' key ≤ present s key := by
  unfold present
  by_cases hk : key ∈ s'.connections
  · rw [if_pos hk, if_pos (h hk)]
  · rw [if_neg hk]
    exact Nat.zero_le _

theorem KeyBalance.of_subset {s s' : Server} (htrace : createdKeys s'.trace = createdKeys s.trace)
    (h : ∀ key ∈ s'.connections, key ∈ s.connections) : KeyBalance s s' := by
  intro key
  rw [htrace]
  exact Nat.add_le_add_left (present_le (h key)) _

theorem KeyBalance.trans {s s' s'' : Server} (h : KeyBalance s s') (h' : KeyBalance s' s'') :
    KeyBalance s s'' := by
  intro key
  have := h key
  have := h' key
  omega

section HandOvers

variable {ext : External} {cfg : ServerConfig}

theorem serverEdit_balanced {s s' : Server} (he : ServerEdit cfg s s') : KeyBalance s s' := by
  rcases he.keys with ⟨htrace, hkeys⟩ | ⟨o, htrace, hkeys⟩
  · exact .of_subset htrace hkeys
  · intro key
    rw [htrace, List.count_cons]
    by_cases hkey : key = o.key
    · have hone : present s' key ≤ 1 := by
        unfold present
        split_ifs <;> omega
      rw [hkey] at hone ⊢
      simp only [beq_self_eq_true, if_true]
      omega
    · have hold : present s' key ≤ present s key :=
        present_le fun hk => (hkeys key hk).resolve_left hkey
      omega

theorem edit_balanced {w w' : World} (he : Edit cfg w w') : KeyBalance w.server w'.server := by
  cases he with
  | server s hs => exact serverEdit_balanced hs
  | note a ha => exact .of_subset (createdKeys_note ha _) fun _ hk => hk
  | take key s r c ht =>
    have ht' := takeConnection_taken ht
    refine .of_subset (congrArg createdKeys ht'.trace_eq) fun k hk => ?_
    have hk : k ∈ AList.erase key w.server.connections := ht'.connections_eq ▸ hk
    exact (AList.mem_erase.mp hk).2
  | unroute key hr => exact .of_subset rfl fun _ hk => hk
  | update h a a' ha hid hc => exact .of_subset rfl fun _ hk => hk
  | call h a a' c ans ha hid hc => exact .of_subset rfl fun _ hk => hk
  | sync h a ha => exact .of_subset rfl fun _ hk => hk
  | drop h a ha => exact .of_subset rfl fun _ hk => hk

theorem step_balanced (w : World) (l : Label) : KeyBalance w.server (w.step ext cfg l).server := by
  have hchain {w' : World} (he : Edits cfg w w') : KeyBalance w.server w'.server := by
    induction he with
    | refl => exact fun key => Nat.le_refl _
    | tail _ hlast ih => exact ih.trans (edit_balanced hlast)
  exact hchain (step_edits ext cfg w l)

/-- What `past`, the connections returned so far, say about the handles and the server. -/
structure Returned (w : World) (past : List ConnectionId) : Prop where
  once : ∀ key, past.count key + present w.server key ≤ (createdKeys w.trace).count key
  length : past.length = w.nextHandle
  live : ∀ h a, w.accepted.lookup h = some a →
    past[h]? = some a.connectionId ∧ a.inner.isHandshakeCompleted = true

namespace Returned

variable {w : World} {past : List ConnectionId}

theorem init (cfg : ServerConfig) : Returned (.init cfg) [] where
  once key := by
    have hnone : present (World.init cfg).server key = 0 := if_neg (AList.notMem_empty key)
    rw [hnone]
    exact Nat.zero_le _
  length := rfl
  live h a ha := by cases ha

theorem keep (hw : Returned w past) {l : Label} (hk : KeepsHandles w (w.step ext cfg l)) :
    Returned (w.step ext cfg l) past where
  once key := by
    have hpast := hw.once key
    have hbalance : _ + _ ≤ _ + _ := @step_balanced ext cfg w l key
    show past.count key + present (w.step ext cfg l).server key ≤
      (createdKeys (w.step ext cfg l).server.trace).count key
    change _ ≤ (createdKeys w.server.trace).count key at hpast
    omega
  length := hw.length.trans hk.nextHandle.symm
  live h a ha := by
    obtain ⟨a₀, ha₀, hb⟩ := hk.accepted h a ha
    obtain ⟨hid, hdone⟩ := hw.live h a₀ ha₀
    exact ⟨hb.connectionId ▸ hid, hb.completed hdone⟩

theorem accept (hw : Returned w past) {key : ConnectionId} {s : Server} {r : SharedRoutes}
    {c : ServerConnection} (ht : Taken w.server w.routes key w.nextHandle s r c)
    (hc : c.isHandshakeCompleted = true) :
    Returned
      { server := s, routes := r
        accepted := w.accepted.insert w.nextHandle { connectionId := key, inner := c }
        nextHandle := w.nextHandle + 1 } (past ++ [key]) where
  once k := by
    have hpast := hw.once k
    have htrace : (createdKeys s.trace).count k = (createdKeys w.trace).count k := by
      rw [ht.trace_eq]
    show (past ++ [key]).count k + present s k ≤ (createdKeys s.trace).count k
    rw [htrace, List.count_append]
    by_cases hk : k = key
    · subst hk
      have hgone : present s k = 0 := by
        refine if_neg ?_
        rw [ht.connections_eq, AList.mem_erase]
        exact fun h => h.1 rfl
      have hthere : present w.server k = 1 :=
        if_pos (Map.mem_iff_lookup.mpr ⟨c, ht.found⟩)
      rw [List.count_singleton_self]
      omega
    · have hle : present s k ≤ present w.server k := by
        refine present_le fun h => ?_
        rw [ht.connections_eq, AList.mem_erase] at h
        exact h.2
      rw [List.count_singleton]
      have hne : (key == k) = false := by simpa using fun h : key = k => hk h.symm
      rw [hne]
      simp only [Bool.false_eq_true, if_false]
      omega
  length := by simp [hw.length]
  live h a ha := by
    rcases Map.of_lookup_insert ha with ⟨rfl, rfl⟩ | ⟨-, ha⟩
    · rw [← hw.length]
      exact ⟨by simp, hc⟩
    · obtain ⟨hid, hdone⟩ := hw.live h a ha
      exact ⟨List.getElem?_append_left (List.getElem?_eq_some_iff.mp hid).1 ▸ hid, hdone⟩

end Returned

/-- The connections that `accept` returned in a run, in their order. -/
def acceptedKeys (ext : External) (cfg : ServerConfig) (ls : List Label) : List ConnectionId :=
  relabel (World.step ext cfg) returnedAt (.init cfg) ls

theorem returnedAt_of_keeps {w : World} {l : Label} (h : (w.step ext cfg l).nextHandle = w.nextHandle) :
    returnedAt w l = [] := by
  cases l with
  | accept key =>
    rcases accept_cases w key with ⟨hr, -⟩ | ⟨c, s, r, -, -, -, heq⟩
    · exact hr
    · have hnext : (w.accept key).nextHandle = w.nextHandle := h
      rw [heq] at hnext
      exact absurd hnext (Nat.succ_ne_self _)
  | _ => rfl

theorem returned_step (w : World) (past : List ConnectionId) (l : Label) (hw : Returned w past) :
    Returned (w.step ext cfg l) (past ++ returnedAt w l) := by
  have hkeep (hk : KeepsHandles w (w.step ext cfg l)) :
      Returned (w.step ext cfg l) (past ++ returnedAt w l) := by
    rw [returnedAt_of_keeps hk.nextHandle, List.append_nil]
    exact hw.keep hk
  rcases step_outward w l with hin | ⟨d, ts, ans, -, -, -, hk⟩ | ⟨key, c, s, r, -, hc, hr, ht, heq⟩
  · exact hkeep hin.toKeepsHandles
  · exact hkeep hk
  · rw [hr, heq]
    exact hw.accept ht hc

/-- **Accepted once.** In every run `accept` returns a connection at most as often as it was created,
and one time less while the server has it. Handle `h` is the `h`-th connection returned, and its
handshake is complete. -/
theorem accepted_once (ext : External) (cfg : ServerConfig) (ls : List Label) :
    Returned (run (World.step ext cfg) (.init cfg) ls) (acceptedKeys ext cfg ls) :=
  run_history returned_step ls (.init cfg) [] (.init cfg)

end HandOvers

end Ngtcp2Rs
