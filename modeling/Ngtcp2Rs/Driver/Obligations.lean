import Ngtcp2Rs.Driver.Handshaking

/-!
# What the drivers owe ngtcp2

The two rules of `Contract.lean` for all three drivers: the server with its connections that are
shaking hands, accepted connections, and the client.

* `read_contract`: nothing is written after an error of `read_pkt` that is not to be ignored, as
  long as such an error stops the driver.
* `written_after_failure`: the server writes before it looks at the error; the other two write when
  the error leaves the loop running.
* `expiry_written`: a write follows every expiry, unless a timer of a handshake expires.
* `expiry_unwritten`: the server waits after it without a write.
-/

namespace Ngtcp2Rs

open Lib

/-! ## Nothing is written after a failure -/

/-- The step keeps the contract: a connection of the server reads without an error that is not to be
ignored, and a connection that is dropped at its first read owed no CONNECTION_CLOSE. -/
def Label.Contracted (ext : External) (cfg : ServerConfig) (w : World) (l : Label) : Prop :=
  (∀ ans e, w.refusedRead ext cfg l = some ans → ans.error = some e →
    e.classifyConnectionError ≠ .transportClose ∧ e.classifyConnectionError ≠ .applicationClose) ∧
  match l with
  | .datagram d _ ans => ∀ key c, w.server.existingKey d.data d.src = some key →
      w.server.connections.lookup key = some c → ¬ ReadFails (.read, ans.read)
  | _ => True

/-- The contract of `read_pkt`, for every connection of the server. -/
structure ServerContract (s : ServerLoop) : Prop where
  calls : ∀ key, ContractKept (callsOn key s.log)
  refused : ∀ ans ∈ s.refused, ContractKept [(.read, ans)]

/-- No read failed. -/
def ReadsFine (log : List Action) : Prop :=
  ∀ key ans, .called key .read ans ∈ log → ¬ ReadFails (.read, ans)

section ReadsFine

variable {ext : External} {cfg : ServerConfig} {s : ServerLoop} {l : Label}

theorem ReadsFine.append {acts log : List Action} (h : ReadsFine log)
    (hacts : ∀ key ans, .called key .read ans ∈ acts → ¬ ReadFails (.read, ans)) :
    ReadsFine (acts ++ log) := by
  intro key ans hmem
  rcases List.mem_append.mp hmem with hmem | hmem
  · exact hacts key ans hmem
  · exact h key ans hmem

theorem ReadsFine.step (h : ReadsFine s.log) (hl : l.Contracted ext cfg s.world) :
    ReadsFine (s.step ext cfg l).log := by
  cases serverMove_step ext cfg s.world l with
  | handle hn _ => rw [log_step_handle hn]; exact h
  | idle acts ha hmove =>
    rw [log_step ha hmove.trace]
    refine h.append fun key ans hmem => ?_
    exact (hmove.quiet _ hmem).elim
  | serve d ts ans key c closes hd hkey hc hmove =>
    subst hd
    have ha : (Label.datagram d ts ans).IsAccept := trivial
    rw [log_step ha hmove.trace]
    refine h.append fun key' ans' hmem => ?_
    obtain ⟨-, hread⟩ : key' = key ∧ ans' = ans.read := by simpa using hmem
    rw [hread]
    exact hl.2 key c hkey hc
  | opened d ts ans o retried hd hmove =>
    subst hd
    have ha : (Label.datagram d ts ans).IsAccept := trivial
    rw [log_step ha hmove.trace]
    refine h.append fun key' ans' hmem => ?_
    obtain ⟨-, hread⟩ : key' = o.key ∧ ans' = ans.read := by simpa using hmem
    rw [hread]
    exact hmove.read
  | timers keys timers hd hmove =>
    subst hd
    obtain ⟨acts, hacts, hall⟩ := handleTimers_trace timers keys s.world.server
    have ha : (Label.timers keys timers).IsAccept := trivial
    rw [log_step ha hacts]
    refine h.append fun key ans hmem => ?_
    obtain ⟨key', ans', heq⟩ := hall _ hmem
    cases heq

end ReadsFine

/-- **The contract of `read_pkt`** is kept by the server in every run that keeps to it. -/
theorem server_contract {ext : External} {cfg : ServerConfig} {ls : List Label}
    (hls : LegalRun (ServerLoop.step ext cfg) (fun s l => l.Contracted ext cfg s.world) (.init cfg)
      ls) : ServerContract (run (ServerLoop.step ext cfg) (.init cfg) ls) := by
  have hinv : ReadsFine (run (ServerLoop.step ext cfg) (.init cfg) ls).log ∧
      ∀ ans ∈ (run (ServerLoop.step ext cfg) (.init cfg) ls).refused,
        ContractKept [(.read, ans)] := by
    refine run_invariant (I := fun s => ReadsFine s.log ∧ ∀ ans ∈ s.refused,
      ContractKept [(.read, ans)]) (fun s l hs hl => ⟨hs.1.step hl, fun ans hmem => ?_⟩) ls _ ?_ hls
    · rcases List.mem_append.mp hmem with hmem | hmem
      · exact .cons (by simp) fun e he => hl.1 ans e (Option.mem_toList.mp hmem) he
      · exact hs.2 ans hmem
    · exact ⟨fun _ _ h => absurd h List.not_mem_nil, fun _ h => absurd h List.not_mem_nil⟩
  refine ⟨fun key => .of_forall fun call hmem hf => ?_, hinv.2⟩
  obtain ⟨call, ans⟩ := call
  obtain ⟨rfl, hfail⟩ : call = .read ∧ _ := hf
  exact hinv.1 key ans (mem_callsOn hmem) ⟨rfl, hfail⟩

/-! ## A write follows an expiry -/

/-- A timer of the connection expired without an error, and nothing was written since. -/
def owesWrite : List (NgCall × Answer) → Bool
  | [] => false
  | (.writePackets, _) :: _ => false
  | (.expiry, ans) :: calls => ans.error.isNone || owesWrite calls
  | _ :: calls => owesWrite calls

/-- `accept` waits for the socket and the timers: it has removed the connections that are closing or
draining, and returned those whose handshake is complete. -/
def Server.Waits (s : Server) : Prop :=
  ∀ key c, s.connections.lookup key = some c → c.isEnding = false ∧ c.isHandshakeCompleted = false

/-- Where `accept` waits, no connection owes a write. -/
def ServerWritten (s : ServerLoop) : Prop :=
  s.world.server.Waits → ∀ key c, s.world.server.connections.lookup key = some c →
    owesWrite (callsOn key s.log) = false

/-- A timer that expires without an error ends the connection, or completes its handshake. -/
def Label.TimersEnd (w : World) : Label → Prop
  | .timers keys answers => ∀ key ∈ keys, ∀ c ans, w.server.connections.lookup key = some c →
      answers key = some ans → ans.error = none →
      (c.call ans.effect).isEnding = true ∨ (c.call ans.effect).isHandshakeCompleted = true
  | _ => True

/-- The connection is about to be removed, or to be handed over. -/
def ServerConnection.Leaves (c : ServerConnection) : Prop :=
  c.isEnding = true ∨ c.isHandshakeCompleted = true

/-- A connection that owes a write is about to leave the server. -/
def OwedLeave (s : Server) (log : List Action) : Prop :=
  ∀ key c, s.connections.lookup key = some c → owesWrite (callsOn key log) = true → c.Leaves

section Owed

variable {ext : External} {cfg : ServerConfig} {key : ConnectionId} {log : List Action}

theorem ServerConnection.Leaves.call {c : ServerConnection} (h : c.Leaves) (e : Effect) :
    (c.callAndDrain e).pollCids.Leaves := by
  unfold Leaves isEnding at h ⊢
  simp only [callAndDrain, drainEvents, pollCids, ServerConnection.call, Bool.or_eq_true] at h ⊢
  tauto

theorem callsOn_quiet {acts : List Action} (h : ∀ a ∈ acts, a.IsQuiet) :
    callsOn key (acts ++ log) = callsOn key log := by
  induction acts with
  | nil => rfl
  | cons a acts ih =>
    have hrest := ih fun a' ha' => h a' (List.mem_cons_of_mem _ ha')
    have ha := h a List.mem_cons_self
    rw [List.cons_append, ← hrest]
    cases a <;> first | rfl | exact ha.elim

theorem callsOn_called_ne {k : ConnectionId} (hne : k ≠ key) (c : NgCall) (ans : Answer) :
    callsOn key (.called k c ans :: log) = callsOn key log := by
  rw [callsOn, if_neg hne]

theorem callsOn_closes_ne {k : ConnectionId} (hne : k ≠ key) (closes : List Answer) :
    callsOn key (closes.map (.called k .close) ++ log) = callsOn key log := by
  induction closes with
  | nil => rfl
  | cons ans closes ih =>
    rw [List.map_cons, List.cons_append, callsOn_called_ne hne, ih]

theorem owesWrite_closes (closes : List Answer) :
    owesWrite (callsOn key (closes.map (.called key .close) ++ log)) = owesWrite (callsOn key log) := by
  induction closes with
  | nil => rfl
  | cons ans closes ih =>
    rw [List.map_cons, List.cons_append, callsOn, if_pos rfl]
    exact ih

theorem owesWrite_written (ans : Answer) :
    owesWrite (callsOn key (.called key .writePackets ans :: log)) = false := by
  rw [callsOn, if_pos rfl]
  rfl

theorem OwedLeave.idle {s s' : Server} {acts : List Action} (h : OwedLeave s log)
    (hmove : Idles s s' acts) : OwedLeave s' (acts ++ log) := by
  intro key c hc howes
  rw [callsOn_quiet hmove.quiet] at howes
  exact h key c (hmove.kept key c hc) howes

theorem OwedLeave.serve {s s' : Server} {read flush : Answer} {closes : List Answer}
    (h : OwedLeave s log) (hmove : Serves s s' key read flush closes) :
    OwedLeave s' (closes.map (.called key .close) ++
      [.called key .writePackets flush, .called key .read read] ++ log) := by
  intro k c hc howes
  rw [List.append_assoc] at howes
  by_cases hk : k = key
  · subst hk
    rw [owesWrite_closes, List.cons_append, owesWrite_written] at howes
    cases howes
  · have hne : key ≠ k := Ne.symm hk
    rw [callsOn_closes_ne hne, List.cons_append, callsOn_called_ne hne, List.cons_append,
      callsOn_called_ne hne] at howes
    exact h k c (hmove.others k c hk hc) howes

theorem OwedLeave.opened {s s' : Server} {o : Origin} {retried : Bool} {src : SocketAddr}
    {read flush : Answer} (h : OwedLeave s log) (hmove : Opens s s' o retried src read flush) :
    OwedLeave s' ([.called o.key .writePackets flush, .called o.key .read read,
      .created o retried src] ++ log) := by
  intro k c hc howes
  by_cases hk : k = o.key
  · subst hk
    rw [List.cons_append, owesWrite_written] at howes
    cases howes
  · have hne : o.key ≠ k := Ne.symm hk
    rw [List.cons_append, callsOn_called_ne hne, List.cons_append, callsOn_called_ne hne,
      List.cons_append, callsOn, if_neg hne] at howes
    exact h k c (hmove.others k c hk hc) howes

/-- **One timer** makes a connection owe a write only if that is about to leave. -/
theorem OwedLeave.expire {s s' : Server} {c : ServerConnection} {ans : Answer}
    (h : OwedLeave s log) (hc : s.connections.lookup key = some c)
    (hend : ans.error = none → (c.callAndDrain ans.effect).pollCids.Leaves)
    (hmove : Expires s s' key c ans) : OwedLeave s' ([.called key .expiry ans] ++ log) := by
  intro k c' hc' howes
  rw [List.cons_append, List.nil_append] at howes
  by_cases hk : k = key
  · subst hk
    rw [hmove.self c' hc']
    rw [callsOn, if_pos rfl, owesWrite, Bool.or_eq_true] at howes
    rcases howes with hok | howes
    · exact hend (Option.isNone_iff_eq_none.mp hok)
    · exact (h k c hc howes).call ans.effect
  · rw [callsOn_called_ne (Ne.symm hk)] at howes
    exact h k c' (hmove.others k c' hk hc') howes

/-- **All timers**, by induction over the connections. -/
theorem OwedLeave.expireAll (timers : ConnectionId → Option Answer) :
    ∀ (keys : List ConnectionId) (s : Server) (log : List Action),
    (∀ key ∈ keys, ∀ c ans, s.connections.lookup key = some c → timers key = some ans →
      ans.error = none → (c.callAndDrain ans.effect).pollCids.Leaves) → OwedLeave s log →
    ∃ acts, (s.handleTimers timers keys).trace = acts ++ s.trace ∧
      OwedLeave (s.handleTimers timers keys) (acts ++ log)
  | [], s, log, _, h => ⟨[], rfl, h⟩
  | key :: keys, s, log, hends, h => by
    rcases handleTimer_moves timers s key with heq | ⟨c, ans, hc, hans, hmove⟩
    · have hfold : s.handleTimers timers (key :: keys) = s.handleTimers timers keys :=
        congrArg (Server.handleTimers timers keys) heq
      rw [hfold]
      exact expireAll timers keys s log
        (fun k hk => hends k (List.mem_cons_of_mem _ hk)) h
    · have hfirst := h.expire hc (hends key List.mem_cons_self c ans hc hans) hmove
      have hends' : ∀ k ∈ keys, ∀ c' ans', (s.handleTimer timers key).connections.lookup k = some c' →
          timers k = some ans' → ans'.error = none →
          (c'.callAndDrain ans'.effect).pollCids.Leaves := by
        intro k hk c' ans' hc' hans' hok
        -- a connection that comes twice has only gone further
        by_cases hkk : k = key
        · subst hkk
          cases hans.symm.trans hans'
          rw [hmove.self c' hc']
          exact (hends k List.mem_cons_self c ans hc hans hok).call ans.effect
        · exact hends k (List.mem_cons_of_mem _ hk) c' ans' (hmove.others k c' hkk hc') hans' hok
      obtain ⟨acts, hacts, hrest⟩ := expireAll timers keys (s.handleTimer timers key) _ hends' hfirst
      refine ⟨acts ++ [.called key .expiry ans], ?_, ?_⟩
      · rw [List.append_assoc, ← hmove.trace]
        exact hacts
      · rw [List.append_assoc]
        exact hrest

theorem OwedLeave.step {s : ServerLoop} {l : Label} (h : OwedLeave s.world.server s.log)
    (hl : l.TimersEnd s.world) :
    OwedLeave (s.step ext cfg l).world.server (s.step ext cfg l).log := by
  cases serverMove_step ext cfg s.world l with
  | handle hn hconn =>
    rw [log_step_handle hn]
    intro key c hc
    exact h key c (hconn ▸ hc)
  | idle acts ha hmove =>
    rw [log_step ha hmove.trace]
    exact h.idle hmove
  | serve d ts ans key c closes hd hkey hc hmove =>
    subst hd
    have ha : (Label.datagram d ts ans).IsAccept := trivial
    rw [log_step ha hmove.trace]
    exact h.serve hmove
  | opened d ts ans o retried hd hmove =>
    subst hd
    have ha : (Label.datagram d ts ans).IsAccept := trivial
    rw [log_step ha hmove.trace]
    exact h.opened hmove
  | timers keys timers hd hmove =>
    subst hd
    obtain ⟨acts, hacts, hrest⟩ := OwedLeave.expireAll timers keys s.world.server s.log hl h
    have ha : (Label.timers keys timers).IsAccept := trivial
    rw [log_step ha hacts]
    exact hrest

end Owed

/-- **The server owes no write where it waits**, if no timer of a connection that stays expires. -/
theorem server_written {ext : External} {cfg : ServerConfig} {ls : List Label}
    (hls : LegalRun (ServerLoop.step ext cfg) (fun s l => l.TimersEnd s.world) (.init cfg) ls) :
    ServerWritten (run (ServerLoop.step ext cfg) (.init cfg) ls) := by
  have hinv : OwedLeave (run (ServerLoop.step ext cfg) (.init cfg) ls).world.server
      (run (ServerLoop.step ext cfg) (.init cfg) ls).log := by
    refine run_invariant (I := fun s => OwedLeave s.world.server s.log)
      (fun s l hs hl => hs.step hl) ls _ ?_ hls
    intro key c hc
    cases hc
  intro hwaits key c hc
  by_contra howes
  obtain ⟨hend, hdone⟩ := hwaits key c hc
  rcases hinv key c hc (by simpa using howes) with h | h
  · exact absurd h (by simp [hend])
  · exact absurd h (by simp [hdone])

/-! ## The three drivers -/

/-- **The contract of `read_pkt`**, for the server and for either loop. -/
theorem read_contract (ext : External) (cfg : ServerConfig) (ls : List Label)
    (hls : LegalRun (ServerLoop.step ext cfg) (fun s l => l.Contracted ext cfg s.world) (.init cfg)
      ls)
    (d : Driver) (l : EventLoop) (hlog : l.log = []) (hpc : l.pc = .idle) (ops : List LoopOp)
    (hops : LegalRun (EventLoop.step d) (fun l op => op.Contracted d l) l ops) :
    ServerContract (run (ServerLoop.step ext cfg) (.init cfg) ls) ∧
      ContractKept (run (EventLoop.step d) l ops).calls :=
  ⟨server_contract hls, loop_contract d l hlog (fun _ => .inl hpc) ops hops⟩

/-- The first Initial of a client. -/
def sampleOpening : Label :=
  .datagram (sampleDatagram (sampleInitial (sampleCid 1) []) 1) 0 { scid := sampleFill 2 }

/-- A read of a connection that is draining. -/
def sampleDrainingRead : Answer :=
  { effect := { draining := true }, error := some (.ngtcp2 errDraining) }

theorem refusedRead_of_ok {ext : External} {cfg : ServerConfig} {w : World} {d : InboundDatagram}
    {ts : ℕ} {ans : Answers} (h : ans.read.error = none) :
    w.refusedRead ext cfg (.datagram d ts ans) = none := by
  simp only [World.refusedRead, h]
  split
  · rename_i hsome
    cases hsome
  · rfl

theorem read_contract_sample :
    (run (EventLoop.step .client) {}
      [.recvEvent {}, .sent, .datagram sampleDrainingRead {}, .recvEvent {}]).calls =
        [(.read, sampleDrainingRead), (.writePackets, {})] ∧
    ServerContract (run (ServerLoop.step sampleExternal sampleConfig) (.init sampleConfig)
      [sampleOpening, .removeClosed, sampleOpening]) ∧
    ContractKept (run (EventLoop.step .client) {}
      [.recvEvent {}, .sent, .datagram sampleDrainingRead {}, .recvEvent {}]).calls := by
  have hopening (w : World) : sampleOpening.Contracted sampleExternal sampleConfig w := by
    refine ⟨fun ans e hr => ?_, fun key c _ _ => ?_⟩
    · cases (refusedRead_of_ok rfl).symm.trans hr
    · rintro ⟨-, e, he, -⟩
      cases he
  have hserver : LegalRun (ServerLoop.step sampleExternal sampleConfig)
      (fun s l => l.Contracted sampleExternal sampleConfig s.world) (.init sampleConfig)
      [sampleOpening, .removeClosed, sampleOpening] := by
    refine ⟨hopening _, ⟨fun ans e hr => ?_, trivial⟩, hopening _, trivial⟩
    cases hr
  have hread (l : EventLoop) : (LoopOp.datagram sampleDrainingRead {}).Contracted .client l := by
    intro _ e he _
    cases he
    exact ⟨by decide, by decide, .inl (by simp [sampleDrainingRead, EventLoop.apply, EventLoop.isEnding])⟩
  exact ⟨by decide, read_contract sampleExternal sampleConfig _ hserver .client {} rfl rfl _
    ⟨trivial, trivial, hread _, trivial, trivial⟩⟩

/-- A read that finds a violation of the protocol (`NGTCP2_ERR_PROTO`). -/
def sampleViolation : Answer := { error := some (.ngtcp2 (-203)) }

/-- A client opens a connection and breaks the protocol with its next Initial. -/
def sampleViolated : List Label :=
  [sampleOpening, .removeClosed,
   .datagram (sampleDatagram (sampleInitial (sampleCid 1) []) 1) 0
    { read := sampleViolation, closeWritten := true }]

/-- What the server did after some labels. -/
@[irreducible] def sampleServerLoop (ls : List Label) : ServerLoop :=
  run (ServerLoop.step sampleExternal sampleConfig) (.init sampleConfig) ls

theorem sampleServerLoop_eq (ls : List Label) : sampleServerLoop ls =
    run (ServerLoop.step sampleExternal sampleConfig) (.init sampleConfig) ls := by
  unfold sampleServerLoop
  rfl

theorem readFails_violation : ReadFails (.read, sampleViolation) := ⟨rfl, _, rfl, by decide⟩

/-- **Packets are written after a failure.** The peer violates the protocol: the server flushes
before it closes the connection, and neither loop closes it; both flush as if nothing was wrong. -/
theorem written_after_failure :
    (callsOn (sampleCid 2) (sampleServerLoop sampleViolated).log =
      [(.close, {}), (.writePackets, {}), (.read, sampleViolation), (.writePackets, {}), (.read, {})] ∧
      ¬ ServerContract (run (ServerLoop.step sampleExternal sampleConfig) (.init sampleConfig)
        sampleViolated)) ∧
    ∀ d, (run (EventLoop.step d) {} [.recvEvent {}, .sent, .datagram sampleViolation {}]).calls =
        [(.writePackets, {}), (.read, sampleViolation), (.writePackets, {})] ∧
      ¬ ContractKept
        (run (EventLoop.step d) {} [.recvEvent {}, .sent, .datagram sampleViolation {}]).calls := by
  have hcalls : callsOn (sampleCid 2) (sampleServerLoop sampleViolated).log =
      [(.close, {}), (.writePackets, {}), (.read, sampleViolation), (.writePackets, {}),
        (.read, {})] := by decide +kernel
  refine ⟨⟨hcalls, fun h => ?_⟩, fun d => ?_⟩
  · rw [← sampleServerLoop_eq] at h
    have hkept := h.calls (sampleCid 2)
    rw [hcalls] at hkept
    have hquiet := hkept.quiet [(.close, {}), (.writePackets, {})] _ _ rfl readFails_violation
    exact (hquiet (.writePackets, {}) (by simp)).1 rfl
  · have hcalls : (run (EventLoop.step d) {}
        [.recvEvent {}, .sent, .datagram sampleViolation {}]).calls =
        [(.writePackets, {}), (.read, sampleViolation), (.writePackets, {})] := by
      cases d <;> decide
    refine ⟨hcalls, fun h => ?_⟩
    rw [hcalls] at h
    have hquiet := h.quiet [(.writePackets, {})] _ _ rfl readFails_violation
    exact (hquiet (.writePackets, {}) (by simp)).1 rfl

/-- **A write follows every expiry**, for the server and for either loop. -/
theorem expiry_written (ext : External) (cfg : ServerConfig) (ls : List Label)
    (hls : LegalRun (ServerLoop.step ext cfg) (fun s l => l.TimersEnd s.world) (.init cfg) ls)
    (d : Driver) (l : EventLoop) (hlog : l.log = []) (hpc : l.pc = .idle) (ops : List LoopOp) :
    ServerWritten (run (ServerLoop.step ext cfg) (.init cfg) ls) ∧
      WritesBeforeWaiting (run (EventLoop.step d) l ops).log :=
  ⟨server_written hls, loop_writes_before_waiting d l hlog hpc ops⟩

/-- The timer of every connection expires. -/
def sampleTimers (ans : Answer) : Label := .timers [sampleCid 2] fun _ => some ans

theorem expiry_written_sample :
    callsOn (sampleCid 2) (sampleServerLoop
      [sampleOpening, .removeClosed, sampleTimers { effect := { closing := true } }]).log =
        [(.expiry, { effect := { closing := true } }), (.writePackets, {}), (.read, {})] ∧
    ServerWritten (run (ServerLoop.step sampleExternal sampleConfig) (.init sampleConfig)
      [sampleOpening, .removeClosed, sampleTimers { effect := { closing := true } }]) ∧
    WritesBeforeWaiting (run (EventLoop.step .client) {}
      [.recvEvent {}, .sent, .timer {} {}, .sent]).log := by
  have htimers (w : World) : (sampleTimers { effect := { closing := true } }).TimersEnd w := by
    intro key _ c ans _ hans _
    cases hans
    simp [ServerConnection.isEnding, ServerConnection.call]
  have hls : LegalRun (ServerLoop.step sampleExternal sampleConfig) (fun s l => l.TimersEnd s.world)
      (.init sampleConfig)
      [sampleOpening, .removeClosed, sampleTimers { effect := { closing := true } }] :=
    ⟨trivial, trivial, htimers _, trivial⟩
  exact ⟨by decide +kernel,
    expiry_written sampleExternal sampleConfig _ hls .client {} rfl rfl _⟩

/-- What holds of all entries holds of all lookups. -/
theorem forall_lookup_of_entries {s : Server} {P : ServerConnection → Prop}
    (h : ∀ entry ∈ s.connections.entries, P entry.2) (key : ConnectionId) (c : ServerConnection)
    (hc : s.connections.lookup key = some c) : P c :=
  h ⟨key, c⟩ (AList.mem_lookup_iff.mp hc)

/-- **No write follows.** The timer of a handshake expires without an error; the server goes back to
its wait and has written nothing. -/
theorem expiry_unwritten :
    callsOn (sampleCid 2) (sampleServerLoop [sampleOpening, .removeClosed, sampleTimers {}]).log =
      [(.expiry, {}), (.writePackets, {}), (.read, {})] ∧
    ¬ ServerWritten (run (ServerLoop.step sampleExternal sampleConfig) (.init sampleConfig)
      [sampleOpening, .removeClosed, sampleTimers {}]) := by
  have hcalls : callsOn (sampleCid 2)
      (sampleServerLoop [sampleOpening, .removeClosed, sampleTimers {}]).log =
        [(.expiry, {}), (.writePackets, {}), (.read, {})] := by decide +kernel
  refine ⟨hcalls, fun h => ?_⟩
  rw [← sampleServerLoop_eq] at h
  have hwaits : (sampleServerLoop
      [sampleOpening, .removeClosed, sampleTimers {}]).world.server.Waits :=
    forall_lookup_of_entries (by decide +kernel)
  have hmem : ((sampleServerLoop [sampleOpening, .removeClosed,
      sampleTimers {}]).world.server.connections.lookup (sampleCid 2)).isSome = true := by
    decide +kernel
  obtain ⟨c, hc⟩ := Option.isSome_iff_exists.mp hmem
  have howes := h hwaits (sampleCid 2) c hc
  rw [hcalls] at howes
  cases howes

end Ngtcp2Rs
