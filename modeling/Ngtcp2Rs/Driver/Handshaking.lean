import Ngtcp2Rs.Driver.Contract
import Ngtcp2Rs.Server.Initials

/-!
# The server as a driver

`Server` drives the connections that are still shaking hands, many at a time. A `ServerLoop` is the
server in its `World` with a log of what `accept` did by itself; what the handles did is not in it.
`Move` says what a handler does at once, in terms of the log and the connections, and `moves_step`
that a step of `accept` is a chain of moves.
-/

namespace Ngtcp2Rs

open Lib

/-- The server with its handles; `log` is what `accept` did, newest first. `refused` are the first
reads of connections that were dropped with them, and are in no log. -/
structure ServerLoop where
  world : World
  log : List Action := []
  refused : List Answer := []

/-- The first read for an Initial, when its error makes the server drop the new connection. -/
def World.refusedRead (ext : External) (cfg : ServerConfig) (w : World) : Label → Option Answer
  | .datagram d ts ans =>
    match w.initialOutcome ext cfg d ts { ans with read := {} }, ans.read.error with
    | some (.created ..), some e =>
      if e.classifyConnectionError = .ignore then none else some ans.read
    | _, _ => none
  | _ => none

/-- The label is a step of `accept`, not of a handle. -/
def Label.IsAccept : Label → Prop
  | .op .. | .drop .. => False
  | _ => True

/-- What was added to the trace. -/
def addedActions (before after : List Action) : List Action :=
  after.take (after.length - before.length)

theorem addedActions_append (acts trace : List Action) : addedActions trace (acts ++ trace) = acts := by
  unfold addedActions
  rw [List.length_append, Nat.add_sub_cancel, List.take_left]

/-- A step of the server, or of a handle. -/
def ServerLoop.step (ext : External) (cfg : ServerConfig) (s : ServerLoop) (l : Label) : ServerLoop where
  world := s.world.step ext cfg l
  log :=
    match l with
    | .op .. | .drop .. => s.log
    | _ => addedActions s.world.trace (s.world.step ext cfg l).trace ++ s.log
  refused := (s.world.refusedRead ext cfg l).toList ++ s.refused

/-- A server that was just bound. -/
def ServerLoop.init (cfg : ServerConfig) : ServerLoop := { world := .init cfg }

/-! ## Moves -/

/-- Actions that are neither a call nor a new connection. -/
def Action.IsQuiet : Action → Prop
  | .called .. | .created .. => False
  | _ => True

/-- The connections of `s'`, but for `key`, are connections of `s`. -/
def OthersKept (key : ConnectionId) (s s' : Server) : Prop :=
  ∀ k c, k ≠ key → s'.connections.lookup k = some c → s.connections.lookup k = some c

/-- The handlers do nothing with a connection, but for removing some. -/
structure Idles (s s' : Server) (acts : List Action) : Prop where
  trace : s'.trace = acts ++ s.trace
  quiet : ∀ a ∈ acts, a.IsQuiet
  kept : ∀ k c, s'.connections.lookup k = some c → s.connections.lookup k = some c

/-- A connection reads and writes; it may be closed after that. -/
structure Serves (s s' : Server) (key : ConnectionId) (read flush : Answer) (closes : List Answer) :
    Prop where
  trace : s'.trace = closes.map (.called key .close) ++
    [.called key .writePackets flush, .called key .read read] ++ s.trace
  others : OthersKept key s s'

/-- A connection is created. -/
structure Opens (s s' : Server) (o : Origin) (retried : Bool) (src : SocketAddr) (read flush : Answer) :
    Prop where
  trace : s'.trace =
    [.called o.key .writePackets flush, .called o.key .read read, .created o retried src] ++ s.trace
  read : ¬ ReadFails (.read, read)
  others : OthersKept o.key s s'

/-- The timer of a connection expired. -/
structure Expires (s s' : Server) (key : ConnectionId) (c : ServerConnection) (ans : Answer) :
    Prop where
  trace : s'.trace = [.called key .expiry ans] ++ s.trace
  self : ∀ c', s'.connections.lookup key = some c' → c' = (c.callAndDrain ans.effect).pollCids
  others : OthersKept key s s'

section Moves

variable {ext : External} {cfg : ServerConfig} {s s' : Server} {key : ConnectionId}

theorem idles_of_eq (htrace : s'.trace = s.trace) (hconn : s'.connections = s.connections) :
    Idles s s' [] :=
  ⟨htrace, by simp, fun _ _ h => hconn ▸ h⟩

theorem idles_record (s : Server) {a : Action} (ha : a.IsQuiet) : Idles s (s.record a) [a] :=
  ⟨rfl, by simpa using ha, fun _ _ h => h⟩

theorem lookup_removeClosed {s : Server} {k : ConnectionId} {c : ServerConnection}
    (h : s.removeClosedConnections.connections.lookup k = some c) :
    s.connections.lookup k = some c := by
  have hfold : ∀ (keys : List ConnectionId) (s : Server),
      (keys.foldl Server.removeConnection s).connections.lookup k = some c →
      s.connections.lookup k = some c := by
    intro keys
    induction keys with
    | nil => exact fun _ h => h
    | cons key keys ih => exact fun s h => (Map.of_lookup_erase (ih _ h)).2
  exact hfold _ s h

theorem trace_removeClosed (s : Server) : s.removeClosedConnections.trace = s.trace := by
  have hfold : ∀ (keys : List ConnectionId) (s : Server),
      (keys.foldl Server.removeConnection s).trace = s.trace := by
    intro keys
    induction keys with
    | nil => exact fun _ => rfl
    | cons key keys ih => exact fun s => ih _
  exact hfold _ s

theorem idles_removeClosed (s : Server) : Idles s s.removeClosedConnections [] :=
  ⟨trace_removeClosed s, by simp, fun _ _ => lookup_removeClosed⟩

/-- The close after an error adds to the log, and may remove the connection. -/
theorem handleConnError_added (s : Server) (key : ConnectionId) (err : Error) (close : Answer)
    (closeWritten : Bool) : ∃ closes : List Answer,
    (s.handleConnError key err close closeWritten).trace =
      closes.map (.called key .close) ++ s.trace ∧
    OthersKept key s (s.handleConnError key err close closeWritten) := by
  have herase (s : Server) : OthersKept key s (s.removeConnection key) :=
    fun k c _ h => (Map.of_lookup_erase h).2
  unfold Server.handleConnError
  split
  · exact ⟨[], rfl, fun _ _ _ h => h⟩
  · exact ⟨[], rfl, fun _ _ _ h => h⟩
  · exact ⟨[], rfl, herase s⟩
  · exact ⟨[], rfl, herase s⟩
  all_goals
    split
    · exact ⟨[], rfl, fun _ _ _ h => h⟩
    · rename_i c _
      have hset : OthersKept key s (s.setConnection key (c.call close.effect)) :=
        fun k c' hne h => (AList.lookup_insert_ne hne).symm.trans h
      split
      · exact ⟨[close], rfl, hset⟩
      · refine ⟨[close], rfl, fun k c' hne h => hset k c' hne ?_⟩
        exact (Map.of_lookup_erase h).2

theorem handleExistingConnection_cases (s : Server) (key : ConnectionId) (ans : Answers) :
    (s.connections.lookup key = none ∧
      Idles s (s.handleExistingConnection key ans) [.missingKey key]) ∨
    ∃ c closes, s.connections.lookup key = some c ∧
      Serves s (s.handleExistingConnection key ans) key ans.read ans.flush closes := by
  unfold Server.handleExistingConnection
  cases hc : s.connections.lookup key with
  | none => exact .inl ⟨rfl, idles_record s trivial⟩
  | some c =>
    refine .inr ⟨c, ?_⟩
    simp only
    have hothers {s' : Server} {c : ServerConnection}
        (h : s'.connections = s.connections.insert key c) : OthersKept key s s' := by
      intro k c' hne hk
      rw [h, AList.lookup_insert_ne hne] at hk
      exact hk
    split
    · exact ⟨[], trivial, rfl, hothers rfl⟩
    split
    · exact ⟨[], trivial, rfl, hothers rfl⟩
    · rename_i e _ _
      obtain ⟨closes, htrace, hkept⟩ := handleConnError_added _ key e ans.close ans.closeWritten
      refine ⟨closes, trivial, ?_, fun k c' hne h => hothers rfl k c' hne (hkept k c' hne h)⟩
      rw [htrace, List.append_assoc]
      rfl

theorem idles_sendStatelessReset (s : Server) (routes : SharedRoutes) (data : Bytes)
    (dst : SocketAddr) (ts : ℕ) (ans : Answers) :
    ∃ acts, Idles s (s.sendStatelessReset ext routes data dst ts ans) acts := by
  unfold Server.sendStatelessReset
  simp only
  split
  · exact ⟨[], idles_of_eq rfl rfl⟩
  split
  · exact ⟨[], idles_of_eq rfl rfl⟩
  · rename_i cid _
    split
    · exact ⟨[.statelessReset cid dst], rfl, by simp [Action.IsQuiet], fun _ _ h => h⟩
    · exact ⟨[], idles_of_eq rfl rfl⟩

theorem Action.IsNote.isQuiet {a : Action} (ha : a.IsNote cfg) : a.IsQuiet := by
  cases a <;> trivial

/-- An Initial creates a connection only if it could be read. -/
theorem read_of_created {data : Bytes} {src : SocketAddr} {ts : ℕ} {ans : Answers}
    {accepted : AcceptedInitial} {version : QuicVersion} {o : Origin} {validated retried : Bool}
    (h : s.initialOutcome ext cfg data src ts ans = .created accepted version o validated retried) :
    ¬ ReadFails (.read, ans.read) := by
  rintro ⟨-, e, he, hne⟩
  have h := initialOutcome_eq_go h (by simp)
  unfold Server.initialOutcome.go at h
  split at h
  · cases h
  split at h
  · cases h
  split at h
  · cases h
  split at h
  · cases h
  · cases h
  split at h
  · cases h
  split at h
  · cases h
  split at h
  · cases h
  split at h
  · cases h
  simp only [show ans.read.error = some e from he, if_neg hne] at h
  split at h <;> cases h

theorem handleNewConnection_moves (s : Server) (data : Bytes) (src : SocketAddr) (ts : ℕ)
    (ans : Answers) :
    (∃ acts, Idles s (s.handleNewConnection ext cfg data src ts ans) acts) ∨
    ∃ o retried, Opens s (s.handleNewConnection ext cfg data src ts ans) o retried src ans.read
      ans.flush := by
  have hnoted {s' : Server} (h : Noted cfg s s') : ∃ acts, Idles s s' acts := by
    rcases h with rfl | ⟨a, rfl, ha⟩
    · exact ⟨[], idles_of_eq rfl rfl⟩
    · exact ⟨[a], idles_record s ha.isQuiet⟩
  rw [handleNewConnection_eq]
  cases hout : s.initialOutcome ext cfg data src ts ans with
  | dropped => exact .inl (hnoted (.inl rfl))
  | versionNegotiation => exact .inl (hnoted (.inr ⟨_, rfl, trivial⟩))
  | invalidToken => exact .inl (hnoted (.inr ⟨_, rfl, trivial⟩))
  | retry accepted version => exact .inl (hnoted (sendRetry_noted s accepted version src ts ans))
  | created accepted version o validated retried =>
    refine .inr ⟨o, retried, trace_createConnection s o retried src ans, read_of_created hout, ?_⟩
    intro k c hne h
    rw [Server.carryOut, connections_createConnection, AList.lookup_insert_ne hne] at h
    exact h

/-- **One timer.** Nothing happens, or it expired. -/
theorem handleTimer_moves (timers : ConnectionId → Option Answer) (s : Server) (key : ConnectionId) :
    s.handleTimer timers key = s ∨
    ∃ c ans, s.connections.lookup key = some c ∧ timers key = some ans ∧
      Expires s (s.handleTimer timers key) key c ans := by
  unfold Server.handleTimer
  split
  · rename_i c ans hc hans
    refine .inr ⟨c, ans, hc, hans, ?_⟩
    have hkept : Expires s
        ((s.record (.called key .expiry ans)).pollCids key (c.callAndDrain ans.effect)) key c ans := by
      refine ⟨rfl, fun c' h => ?_, fun k c' hne h => ?_⟩
      · exact Option.some.inj (h.symm.trans (AList.lookup_insert _))
      · exact (AList.lookup_insert_ne hne).symm.trans h
    split
    · exact hkept
    split
    · exact hkept
    · refine ⟨rfl, fun c' h => ?_, fun k c' hne h => ?_⟩
      · exact absurd rfl (Map.of_lookup_erase h).1
      · exact hkept.others k c' hne (Map.of_lookup_erase h).2
  · exact .inl rfl

end Moves

/-! ## Steps of the system -/

section Connections

variable {w : World} {h : ℕ} {a : AcceptedConnection}

theorem connections_deliver (w : World) (key : ConnectionId) (d : InboundDatagram) :
    (w.deliver key d).server = w.server := by
  unfold World.deliver
  split
  · rfl
  split
  · rfl
  split <;> rfl

theorem connections_returnEvent (w : World) (h : ℕ) (a : AcceptedConnection) (err : Error) :
    (w.returnEvent h a err).server.connections = w.server.connections := by
  unfold World.returnEvent
  split <;> rfl

theorem connections_recvLoop (w : World) (h : ℕ) (a : AcceptedConnection) (queueOpen : Bool)
    (flush : Answer) : (w.recvLoop h a queueOpen flush).server.connections = w.server.connections := by
  unfold World.recvLoop
  split
  · exact connections_returnEvent w h a _
  split
  · exact connections_returnEvent w h _ _
  split <;> rfl

theorem connections_readDatagram (w : World) (h : ℕ) (a : AcceptedConnection) (queueOpen : Bool)
    (read flush : Answer) :
    (w.readDatagram h a queueOpen read flush).server.connections = w.server.connections := by
  unfold World.readDatagram
  split
  · rfl
  · exact connections_recvLoop _ h _ queueOpen flush

/-- A handle does not touch the connections of the server. -/
theorem connections_stepOp (w : World) (h : ℕ) (a : AcceptedConnection) (op : Op) :
    (w.stepOp h a op).server.connections = w.server.connections := by
  have hsent : (w.sent h a).server.connections = w.server.connections := by
    unfold World.sent
    split
    · rfl
    · split
      · exact connections_returnEvent _ h _ _
      · rfl
    · rfl
  unfold World.stepOp
  split
  · unfold World.flush
    split <;> rfl
  · unfold World.recvEvent
    split
    · exact connections_returnEvent w h a _
    split
    · exact connections_returnEvent w h _ _
    · exact connections_recvLoop w h a true _
  · unfold World.sendDatagram
    split <;> rfl
  · unfold World.close
    split
    · rfl
    · simp only
      split <;> rfl
  · rfl
  · exact hsent
  · exact hsent
  · unfold World.recvInbound
    split
    · exact connections_readDatagram _ h _ true _ _
    · split
      · rfl
      · exact connections_recvLoop w h a false _
  · unfold World.handleReceivedDatagram
    split
    · split
      · rw [connections_recvLoop, connections_deliver]
      · rw [connections_deliver]
    · exact connections_readDatagram w h a _ _ _
  · rfl
  · unfold World.recvTimer
    split
    · exact connections_returnEvent _ h _ _
    · exact connections_recvLoop _ h _ _ _
  · rfl
  · rfl

end Connections

/-- What a step does with the connections of the server. -/
inductive ServerMove (w : World) (l : Label) (w' : World) : Prop
  /-- a step of a handle -/
  | handle (hl : ¬ l.IsAccept) (hconn : w'.server.connections = w.server.connections)
  | idle (acts : List Action) (hl : l.IsAccept) (hmove : Idles w.server w'.server acts)
  | serve (d : InboundDatagram) (ts : ℕ) (ans : Answers) (key : ConnectionId)
      (c : ServerConnection) (closes : List Answer) (hl : l = .datagram d ts ans)
      (hkey : w.server.existingKey d.data d.src = some key)
      (hc : w.server.connections.lookup key = some c)
      (hmove : Serves w.server w'.server key ans.read ans.flush closes)
  | opened (d : InboundDatagram) (ts : ℕ) (ans : Answers) (o : Origin) (retried : Bool)
      (hl : l = .datagram d ts ans)
      (hmove : Opens w.server w'.server o retried d.src ans.read ans.flush)
  | timers (keys : List ConnectionId) (timers : ConnectionId → Option Answer)
      (hl : l = .timers keys timers) (hmove : w'.server = w.server.handleTimers timers keys)

/-- **What a step does with the connections of the server.** -/
theorem serverMove_step (ext : External) (cfg : ServerConfig) (w : World) (l : Label) :
    ServerMove w l (w.step ext cfg l) := by
  cases l with
  | removeClosed => exact .idle [] trivial (idles_removeClosed w.server)
  | accept key =>
    simp only [World.step, World.accept]
    split
    · exact .idle [] trivial (idles_of_eq rfl rfl)
    · rename_i c hc
      split
      · split
        · exact .idle [.panicked] trivial (idles_record w.server trivial)
        · rename_i s r inner ht
          have htaken := takeConnection_taken ht
          exact .idle [] trivial ⟨htaken.trace_eq, by simp, fun k c' h => (htaken.of_lookup h).2⟩
      · exact .idle [] trivial (idles_of_eq rfl rfl)
  | datagram d ts ans =>
    simp only [World.step, World.handleDatagram]
    split
    · rename_i key hkey
      rcases handleExistingConnection_cases w.server key ans with ⟨-, hmove⟩ | ⟨c, closes, hc, hmove⟩
      · exact .idle _ trivial hmove
      · exact .serve d ts ans key c closes rfl hkey hc hmove
    split
    · exact .idle [] trivial (idles_of_eq (congrArg Server.trace (connections_deliver w _ d))
        (congrArg Server.connections (connections_deliver w _ d)))
    split
    · rcases @handleNewConnection_moves ext cfg w.server d.data d.src ts ans with
        ⟨acts, hmove⟩ | ⟨o, retried, hmove⟩
      · exact .idle acts trivial hmove
      · exact .opened d ts ans o retried rfl hmove
    · obtain ⟨acts, hmove⟩ := @idles_sendStatelessReset ext w.server w.routes d.data d.src ts ans
      exact .idle acts trivial hmove
  | timers keys timers => exact .timers keys timers rfl rfl
  | op h op =>
    simp only [World.step]
    split
    · exact .handle not_false (connections_stepOp w h _ op)
    · exact .handle not_false rfl
  | drop h =>
    simp only [World.step]
    split <;> exact .handle not_false rfl

section Log

variable {ext : External} {cfg : ServerConfig} {s : ServerLoop} {l : Label}

theorem log_step_handle (hl : ¬ l.IsAccept) : (s.step ext cfg l).log = s.log := by
  cases l with
  | op h op => rfl
  | drop h => rfl
  | _ => exact absurd trivial hl

theorem log_step (hl : l.IsAccept) {acts : List Action}
    (htrace : (s.world.step ext cfg l).trace = acts ++ s.world.trace) :
    (s.step ext cfg l).log = acts ++ s.log := by
  have hadded : addedActions s.world.trace (s.world.step ext cfg l).trace = acts := by
    rw [htrace, addedActions_append]
  cases l with
  | op h op => exact hl.elim
  | drop h => exact hl.elim
  | _ => exact congrArg (· ++ s.log) hadded

end Log

/-- The calls on the connection that `key` stands for now, newest first. -/
def callsOn (key : ConnectionId) : List Action → List (NgCall × Answer)
  | [] => []
  | .called k call ans :: log => if k = key then (call, ans) :: callsOn key log else callsOn key log
  | .created o _ _ :: log => if o.key = key then [] else callsOn key log
  | _ :: log => callsOn key log

theorem mem_callsOn {key : ConnectionId} {call : NgCall × Answer} : ∀ {log : List Action},
    call ∈ callsOn key log → .called key call.1 call.2 ∈ log
  | .called k c ans :: log, h => by
    unfold callsOn at h
    split at h
    · rename_i hk
      rcases List.mem_cons.mp h with rfl | h
      · exact hk ▸ List.mem_cons_self
      · exact List.mem_cons_of_mem _ (mem_callsOn h)
    · exact List.mem_cons_of_mem _ (mem_callsOn h)
  | .created o _ _ :: log, h => by
    unfold callsOn at h
    split at h
    · cases h
    · exact List.mem_cons_of_mem _ (mem_callsOn h)
  | .retry .. :: log, h | .statelessReset .. :: log, h | .versionNegotiation _ :: log, h
  | .invalidTokenClose _ :: log, h | .returned .. :: log, h | .missingKey _ :: log, h
  | .panicked :: log, h => List.mem_cons_of_mem _ (@mem_callsOn key call log h)

/-- The timers add nothing but expiries. -/
theorem handleTimers_trace (timers : ConnectionId → Option Answer) : ∀ (keys : List ConnectionId)
    (s : Server), ∃ acts, (s.handleTimers timers keys).trace = acts ++ s.trace ∧
      ∀ a ∈ acts, ∃ key ans, a = .called key .expiry ans
  | [], s => ⟨[], rfl, by simp⟩
  | key :: keys, s => by
    obtain ⟨acts, hacts, hall⟩ := handleTimers_trace timers keys (s.handleTimer timers key)
    rcases handleTimer_moves timers s key with heq | ⟨c, ans, -, -, hexp⟩
    · refine ⟨acts, ?_, hall⟩
      rw [heq] at hacts
      exact (congrArg (fun s => (Server.handleTimers timers keys s).trace) heq).trans hacts
    · refine ⟨acts ++ [.called key .expiry ans], ?_, fun a ha => ?_⟩
      · rw [List.append_assoc, ← hexp.trace]
        exact hacts
      · rcases List.mem_append.mp ha with ha | ha
        · exact hall a ha
        · exact ⟨key, ans, List.mem_singleton.mp ha⟩

end Ngtcp2Rs
