import Ngtcp2Rs.Driver.Accepted
import Ngtcp2Rs.Driver.Closing
import Ngtcp2Rs.Driver.Obligations

/-!
# What the handles keep

What `Contract.lean` and `Closing.lean` show of the loop of an accepted connection holds of every
handle of the server, whatever the server and the other handles do in between.

* `unreported_run`: the server reports no end, so `accept` returns connections that are open.
* `handle_kept`: from `accept` on, the handle writes before it waits, keeps the contract of `read_pkt`
  and reports its end once.
-/

namespace Ngtcp2Rs

open Lib

/-! ## Connections of the server -/

/-- The end of the connection was not reported. -/
structure ServerConnection.Unreported (c : ServerConnection) : Prop where
  closed : c.closed = false
  queued : .connectionClosed ∉ c.queued
  events : .connectionClosed ∉ c.events

namespace ServerConnection.Unreported

variable {c : ServerConnection}

theorem call (h : c.Unreported) {e : Effect} (he : .connectionClosed ∉ e.events) :
    (c.call e).Unreported :=
  ⟨h.closed, fun hmem => (List.mem_append.mp hmem).elim h.queued he, h.events⟩

theorem callAndDrain (h : c.Unreported) {e : Effect} (he : .connectionClosed ∉ e.events) :
    (c.callAndDrain e).Unreported :=
  ⟨h.closed, List.not_mem_nil,
    fun hmem => (List.mem_append.mp hmem).elim (h.call he).events (h.call he).queued⟩

theorem pollCids (h : c.Unreported) : c.pollCids.Unreported := ⟨h.closed, h.queued, h.events⟩

/-- The loop of its handle is fresh. -/
theorem fresh (h : c.Unreported) (key : ConnectionId) :
    (({ connectionId := key, inner := c } : AcceptedConnection).loop []).Fresh :=
  ⟨h.closed, rfl, rfl, h.queued, h.events⟩

end ServerConnection.Unreported

/-- So for all connections of the server. -/
def Server.Unreported (s : Server) : Prop :=
  ∀ key c, s.connections.lookup key = some c → c.Unreported

/-- The callbacks of ngtcp2 queue no `ConnectionClosed` (see `LoopOp.Core`). -/
def Label.Core : Label → Prop
  | .datagram _ _ ans => ∀ a ∈ [ans.read, ans.flush, ans.close], .connectionClosed ∉ a.effect.events
  | .timers _ answers => ∀ key, ∀ a ∈ answers key, .connectionClosed ∉ a.effect.events
  | _ => True

namespace Server.Unreported

variable {ext : External} {cfg : ServerConfig} {s : Server}

theorem insert (h : s.Unreported) {s' : Server} {key : ConnectionId} {c : ServerConnection}
    (heq : s'.connections = s.connections.insert key c) (hc : c.Unreported) : s'.Unreported := by
  intro k c' hk
  rw [heq] at hk
  rcases Map.of_lookup_insert hk with ⟨-, rfl⟩ | ⟨-, hk⟩
  · exact hc
  · exact h k c' hk

theorem idle (h : s.Unreported) {s' : Server} {acts : List Action} (hmove : Idles s s' acts) :
    s'.Unreported :=
  fun k c hk => h k c (hmove.kept k c hk)

theorem removeConnection (h : s.Unreported) (key : ConnectionId) :
    (s.removeConnection key).Unreported :=
  fun k c hk => h k c (Map.of_lookup_erase hk).2

theorem handleConnError (h : s.Unreported) (key : ConnectionId) (err : Error) {close : Answer}
    (hclose : .connectionClosed ∉ close.effect.events) (closeWritten : Bool) :
    (s.handleConnError key err close closeWritten).Unreported := by
  unfold Server.handleConnError
  split
  · exact h
  · exact h
  · exact h.removeConnection key
  · exact h.removeConnection key
  all_goals
    split
    · exact h
    · rename_i c hc
      have hset : ((s.setConnection key (c.call close.effect)).record
          (.called key .close close)).Unreported :=
        h.insert rfl ((h key c hc).call hclose)
      split
      · exact hset
      · exact hset.removeConnection key

theorem handleExistingConnection (h : s.Unreported) (key : ConnectionId) {ans : Answers}
    (hans : ∀ a ∈ [ans.read, ans.flush, ans.close], .connectionClosed ∉ a.effect.events) :
    (s.handleExistingConnection key ans).Unreported := by
  unfold Server.handleExistingConnection
  split
  · exact h
  · rename_i c hc
    have hserved := ((h key c hc).callAndDrain (hans ans.read (by simp))).callAndDrain
      (hans ans.flush (by simp))
    simp only
    split
    · exact h.insert rfl hserved.pollCids
    split
    · exact h.insert rfl hserved.pollCids
    · refine Unreported.handleConnError ?_ key _ (hans ans.close (by simp)) _
      exact h.insert rfl hserved.pollCids

theorem handleNewConnection (h : s.Unreported) (data : Bytes) (src : SocketAddr) (ts : ℕ)
    {ans : Answers}
    (hans : ∀ a ∈ [ans.read, ans.flush, ans.close], .connectionClosed ∉ a.effect.events) :
    (s.handleNewConnection ext cfg data src ts ans).Unreported := by
  rw [handleNewConnection_eq]
  cases s.initialOutcome ext cfg data src ts ans with
  | dropped | versionNegotiation | invalidToken => exact h
  | retry accepted version =>
    have hnoted : Noted cfg s (s.carryOut ext cfg src ts ans (.retry accepted version)) :=
      sendRetry_noted s accepted version src ts ans
    rcases hnoted with heq | ⟨a, heq, -⟩
    · rwa [heq]
    · rw [heq]
      exact h
  | created accepted version o validated retried =>
    have hnew : ({ origin := o } : ServerConnection).Unreported :=
      ⟨rfl, List.not_mem_nil, List.not_mem_nil⟩
    have hserved := (hnew.callAndDrain (hans ans.read (by simp))).callAndDrain
      (hans ans.flush (by simp))
    exact h.insert (connections_createConnection s o retried src ans)
      ⟨hserved.closed, hserved.queued, hserved.events⟩

theorem handleTimers {timers : ConnectionId → Option Answer}
    (htimers : ∀ key, ∀ a ∈ timers key, .connectionClosed ∉ a.effect.events) :
    ∀ (keys : List ConnectionId) {s : Server}, s.Unreported → (s.handleTimers timers keys).Unreported
  | [], _, h => h
  | key :: keys, s, h => by
    refine @handleTimers timers htimers keys (s.handleTimer timers key) ?_
    rcases handleTimer_moves timers s key with heq | ⟨c, ans, hc, hans, hmove⟩
    · rwa [heq]
    · intro k c' hk
      by_cases hkk : k = key
      · subst hkk
        rw [hmove.self c' hk]
        exact ((h k c hc).callAndDrain (htimers k ans hans)).pollCids
      · exact h k c' (hmove.others k c' hkk hk)

end Server.Unreported

section Run

variable {ext : External} {cfg : ServerConfig}

/-- **One step** reports no end of a connection of the server. -/
theorem unreported_step {w : World} (hw : w.server.Unreported) {l : Label} (hl : l.Core) :
    (w.step ext cfg l).server.Unreported := by
  cases l with
  | removeClosed => exact hw.idle (idles_removeClosed w.server)
  | accept key =>
    simp only [World.step, World.accept]
    split
    · exact hw
    split
    · split
      · exact hw
      · rename_i ht
        exact fun k c hk => hw k c ((takeConnection_taken ht).of_lookup hk).2
    · exact hw
  | datagram d ts ans =>
    simp only [World.step, World.handleDatagram]
    split
    · exact hw.handleExistingConnection _ hl
    split
    · rw [connections_deliver]
      exact hw
    split
    · exact hw.handleNewConnection d.data d.src ts hl
    · obtain ⟨acts, hmove⟩ := @idles_sendStatelessReset ext w.server w.routes d.data d.src ts ans
      exact hw.idle hmove
  | timers keys timers => exact Server.Unreported.handleTimers hl keys hw
  | op h op =>
    simp only [World.step]
    split
    · exact fun k c hk => hw k c (connections_stepOp w h _ op ▸ hk)
    · exact hw
  | drop h =>
    simp only [World.step]
    split <;> exact hw

/-- The connections of the server are open for their applications. -/
theorem unreported_run {ls : List Label}
    (hls : LegalRun (World.step ext cfg) (fun _ l => l.Core) (.init cfg) ls) :
    (run (World.step ext cfg) (.init cfg) ls).server.Unreported := by
  have hinit : (World.init cfg).server.Unreported := by
    intro key c hc
    cases hc
  have hstep (w : World) (l : Label) (hw : w.server.Unreported) (hl : l.Core) :
      (w.step ext cfg l).server.Unreported := unreported_step hw hl
  exact run_invariant hstep ls _ hinit hls

end Run

/-! ## Handles -/

/-- The calls of a loop, as the trace of the server has them. -/
theorem callsOn_actions (key : ConnectionId) : ∀ log : List LoopAction,
    callsOn key (log.filterMap (LoopAction.action key)) =
      log.filterMap fun
        | .called call ans _ => some (call, ans)
        | _ => none
  | [] => rfl
  | .called call ans events :: log => by
    simp only [List.filterMap_cons, LoopAction.action, callsOn, if_true, callsOn_actions key log]
  | .returned result :: log => callsOn_actions key log
  | .sent :: log | .waiting :: log | .polled _ :: log => callsOn_actions key log

/-- **What a handle keeps**, from the `accept` that returned it up to its drop, in every run of the
server: it is a loop of an accepted connection, whose operations are `ops` and whose log has what the
handle did. So it writes before it waits; and under the conditions of the loop it keeps the contract
of `read_pkt` and reports its end once. -/
theorem handle_kept (ext : External) (cfg : ServerConfig) (before after : List Label)
    (hcore : LegalRun (World.step ext cfg) (fun _ l => l.Core) (.init cfg) before)
    (key : ConnectionId) (c : ServerConnection) :
    let w := run (World.step ext cfg) (.init cfg) before
    let h := w.nextHandle
    let start := ({ connectionId := key, inner := c } : AcceptedConnection).loop []
    let ops := loopOps ext cfg h (w.step ext cfg (.accept key)) after
    let done := handleLog ext cfg h (w.step ext cfg (.accept key)) after
    let l := run (EventLoop.step .accepted) start ops
    w.server.connections.lookup key = some c → c.isHandshakeCompleted = true → .drop h ∉ after →
    Tracks key h (run (World.step ext cfg) (.init cfg) (before ++ .accept key :: after)) l ∧
    done = l.log.filterMap (LoopAction.action key) ∧
    WritesBeforeWaiting l.log ∧
    (LegalRun (EventLoop.step .accepted) (fun l op => op.Contracted .accepted l) start ops →
      ContractKept (callsOn key done)) ∧
    (LegalRun (EventLoop.step .accepted) (fun l op => op.Reportable .accepted l) start ops →
      EndReported l) := by
  intro w h start ops done l hc hdone hdrop
  obtain ⟨hstart, hnext⟩ := @tracks_accept ext cfg w key c hc hdone
  have hlt : h < (w.step ext cfg (.accept key)).nextHandle := by
    rw [hnext]
    exact Nat.lt_succ_self h
  obtain ⟨htrack, acts, hlog, hacts⟩ := follows_run after _ start hdrop hlt hstart
  have hdid : done = l.log.filterMap (LoopAction.action key) := by
    rw [show l.log = acts from hlog.trans (List.append_nil acts)]
    exact hacts
  have hfresh : start.Fresh := (unreported_run hcore key c hc).fresh key
  refine ⟨?_, hdid, ?_, fun hops => ?_, fun hops => ?_⟩
  · rw [run_append]
    exact htrack
  · exact loop_writes_before_waiting .accepted start rfl rfl ops
  · rw [hdid, callsOn_actions]
    exact loop_contract .accepted start rfl (fun _ => .inl rfl) ops hops
  · exact (hfresh.sound_run hops).endReported

/-- A client opens its connection, and its handshake completes. -/
def sampleHandshake : List Label :=
  [sampleOpening,
   .datagram (sampleDatagram (sampleInitial (sampleCid 1) []) 1) 0
    { read := { effect := { handshakeCompleted := true } } }]

/-- The timer of the handle expires, and its peer closes the connection; a stranger comes between. -/
def sampleHandled : List Label :=
  [.op 0 (.recvEvent {}), .op 0 .sent, .op 0 (.timer {} {}),
   .datagram (sampleDatagram (sampleInitial (sampleCid 3) []) 2) 6 { scid := sampleFill 5 },
   .op 0 .sent, .op 0 (.socket (sampleDatagram [] 1) sampleDrainingRead {}), .op 0 (.recvEvent {})]

/-- What that is for the loop of the handle. -/
def sampleLoopOps : List LoopOp :=
  [.recvEvent {}, .sent, .timer {} {}, .sent, .datagram sampleDrainingRead {}, .recvEvent {}]

/-- The handle writes after its timer and not after the read that failed, and reports the end. -/
theorem handle_kept_sample :
    let w := sampleRun sampleConfig sampleHandshake
    let done := handleLog sampleExternal sampleConfig w.nextHandle
      (w.step sampleExternal sampleConfig (.accept (sampleCid 2))) sampleHandled
    let l := run (EventLoop.step .accepted) {} sampleLoopOps
    Tracks (sampleCid 2) w.nextHandle
      (sampleRun sampleConfig (sampleHandshake ++ .accept (sampleCid 2) :: sampleHandled)) l ∧
    callsOn (sampleCid 2) done =
      [(.read, sampleDrainingRead), (.writePackets, {}), (.expiry, {}), (.writePackets, {})] ∧
    ContractKept (callsOn (sampleCid 2) done) ∧
    deliveries l.log = [.ok .connectionClosed, .error .connectionClosed] ∧ EndReported l := by
  have hnext : (sampleRun sampleConfig sampleHandshake).nextHandle = 0 := by decide +kernel
  have hlookup : ((sampleRun sampleConfig sampleHandshake).server.connections.lookup
      (sampleCid 2)).map (fun c => (c.isHandshakeCompleted,
        ({ connectionId := sampleCid 2, inner := c } : AcceptedConnection).loop [])) =
        some (true, {}) := by decide +kernel
  have hloop : loopOps sampleExternal sampleConfig (sampleRun sampleConfig sampleHandshake).nextHandle
      ((sampleRun sampleConfig sampleHandshake).step sampleExternal sampleConfig
        (.accept (sampleCid 2))) sampleHandled = sampleLoopOps := by decide +kernel
  obtain ⟨c, hc, heq⟩ := Option.map_eq_some_iff.mp hlookup
  obtain ⟨hdone, hstart⟩ := Prod.mk.inj heq
  have hcore : LegalRun (World.step sampleExternal sampleConfig) (fun _ l => l.Core)
      (.init sampleConfig) sampleHandshake := by
    refine ⟨?_, ?_, trivial⟩ <;> simp [Label.Core, sampleOpening]
  have h := handle_kept sampleExternal sampleConfig sampleHandshake sampleHandled hcore
    (sampleCid 2) c
  simp only [← sampleRun_eq, hstart, hloop] at h
  obtain ⟨htracks, -, -, hcontract, hend⟩ := h hc hdone (by simp [sampleHandled])
  have hcalls : callsOn (sampleCid 2) (handleLog sampleExternal sampleConfig
      (sampleRun sampleConfig sampleHandshake).nextHandle
      ((sampleRun sampleConfig sampleHandshake).step sampleExternal sampleConfig
        (.accept (sampleCid 2))) sampleHandled) =
      [(.read, sampleDrainingRead), (.writePackets, {}), (.expiry, {}), (.writePackets, {})] := by
    decide +kernel
  have hread (l : EventLoop) : (l.apply sampleDrainingRead.effect).isEnding = true := by
    simp [sampleDrainingRead, EventLoop.apply, EventLoop.isEnding]
  refine ⟨htracks, hcalls, hcontract ?_, by decide, hend ?_⟩
  · refine ⟨trivial, trivial, trivial, trivial, fun _ e he _ => ?_, trivial, trivial⟩
    cases he
    exact ⟨by decide, by decide, .inl (hread _)⟩
  · have hops : ∀ op ∈ sampleLoopOps, op.Core := by
      simp [sampleLoopOps, LoopOp.Core, LoopOp.answers, sampleDrainingRead]
    refine ⟨⟨hops _ (by simp [sampleLoopOps]), trivial⟩, ⟨hops _ (by simp [sampleLoopOps]), trivial⟩,
      ⟨hops _ (by simp [sampleLoopOps]), fun _ e he => ?_⟩,
      ⟨hops _ (by simp [sampleLoopOps]), trivial⟩,
      ⟨hops _ (by simp [sampleLoopOps]), fun _ e he _ => ?_⟩,
      ⟨hops _ (by simp [sampleLoopOps]), trivial⟩, trivial⟩
    · cases he
    · cases he
      exact ⟨by decide, hread _⟩

end Ngtcp2Rs
