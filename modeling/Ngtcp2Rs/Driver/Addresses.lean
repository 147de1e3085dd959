import Ngtcp2Rs.Driver.Endpoint

/-!
# Whom a connection talks to

An endpoint keeps the address of its peer beside the path that ngtcp2 uses: `close` sends to it, and
the client starts a migration from it. It changes where a path was validated (`drain_events`) and, on
a client, where ngtcp2 has moved (`flush`). Datagrams come from anywhere.

* `peer_known`: the address is always one that the peer has answered from;
* `local_agrees`: the client's socket, its `local_addr` and the path of ngtcp2 agree, also when a
  migration fails or is dropped.
-/

namespace Ngtcp2Rs

open Lib

namespace Driven

variable {c : Driven}

/-! ### Addresses -/

/-- The addresses that a peer at `origin` has shown to be its own. -/
def known (origin : SocketAddr) (log : List DrivenAction) : List SocketAddr :=
  origin :: (history DrivenAction.reported log).filterMap (·.validated?)

/-- ngtcp2 moves to a path only if the peer answers on it, or if it is told to. -/
def MovesKnown (origin : SocketAddr) : List DrivenAction → Prop
  | [] => True
  | .called call o events :: log =>
    (∀ path ∈ o.path,
      path.remote ∈ known origin (.called call o events :: log) ∨ call = .migrate path) ∧
    MovesKnown origin log
  | _ :: log => MovesKnown origin log

instance MovesKnown.decidable (origin : SocketAddr) : ∀ log, Decidable (MovesKnown origin log)
  | [] => isTrue trivial
  | .called call o events :: log =>
    have : Decidable (MovesKnown origin log) := MovesKnown.decidable origin log
    inferInstanceAs (Decidable ((∀ path ∈ o.path,
      path.remote ∈ known origin (.called call o events :: log) ∨ call = .migrate path) ∧
      MovesKnown origin log))
  | .sent :: log | .closeSent _ :: log | .waiting :: log | .returned _ :: log | .polled _ :: log =>
    MovesKnown.decidable origin log

/-- Packets for the peer go to an address that is its own. -/
structure Addressed (origin : SocketAddr) (c : Driven) : Prop where
  remoteAddr : c.remoteAddr ∈ known origin c.log
  closeSent : ∀ path, .closeSent path ∈ c.log → path.remote ∈ known origin c.log
  queued : ∀ event ∈ c.conn.queued, ∀ addr, event.validated? = some addr → addr ∈ known origin c.log

/-- The path of ngtcp2 leads to an address that is the peer's own. -/
def PathKnown (origin : SocketAddr) (c : Driven) : Prop :=
  ∀ path, c.conn.path = some path → path.remote ∈ known origin c.log

variable {origin : SocketAddr}

theorem known_cons (a : DrivenAction) (log : List DrivenAction) :
    known origin (a :: log) = known origin log ++ a.reported.filterMap (·.validated?) := by
  simp [known]

theorem mem_known_cons {addr : SocketAddr} {log : List DrivenAction} (a : DrivenAction)
    (h : addr ∈ known origin log) : addr ∈ known origin (a :: log) := by
  rw [known_cons]
  exact List.mem_append_left _ h

theorem MovesKnown.tail {a : DrivenAction} {log : List DrivenAction}
    (h : MovesKnown origin (a :: log)) : MovesKnown origin log := by
  cases a with
  | called => exact h.2
  | _ => exact h

/-- An action that is neither a call nor a close. -/
theorem Addressed.note {c' : Driven} (h : c.Addressed origin) (a : DrivenAction)
    (ha : ∀ path, a ≠ .closeSent path) (hlog : c'.log = a :: c.log)
    (hremote : c'.remoteAddr = c.remoteAddr) (hqueued : c'.conn.queued = c.conn.queued) :
    c'.Addressed origin := by
  refine ⟨?_, fun path hmem => ?_, fun event hmem addr haddr => ?_⟩ <;> rw [hlog]
  · rw [hremote]
    exact mem_known_cons a h.remoteAddr
  · rw [hlog, List.mem_cons] at hmem
    rcases hmem with rfl | hmem
    · exact absurd rfl (ha path)
    · exact mem_known_cons a (h.closeSent path hmem)
  · exact mem_known_cons a (h.queued event (hqueued ▸ hmem) addr haddr)

/-- What leaves the addresses alone. -/
theorem Addressed.of_eq {c' : Driven} (h : c.Addressed origin) (hlog : c'.log = c.log)
    (hremote : c'.remoteAddr = c.remoteAddr) (hqueued : c'.conn.queued = c.conn.queued) :
    c'.Addressed origin :=
  ⟨by rw [hlog, hremote]; exact h.remoteAddr, fun path hmem => by
    rw [hlog] at hmem ⊢
    exact h.closeSent path hmem, fun event hmem addr haddr => by
    rw [hlog]
    exact h.queued event (hqueued ▸ hmem) addr haddr⟩

theorem Addressed.callWith (h : c.Addressed origin) (call : PathCall) (o : Outcome)
    (events : List Tokio.ConnectionEvent) : (c.callWith call o events).Addressed origin := by
  refine ⟨mem_known_cons _ h.remoteAddr, fun path hmem => ?_, fun event hmem addr haddr => ?_⟩
  · simp only [Driven.callWith, record, List.mem_cons, reduceCtorEq, false_or] at hmem
    exact mem_known_cons _ (h.closeSent path hmem)
  · simp only [Driven.callWith, record, NgConn.apply, List.mem_append] at hmem ⊢
    rcases hmem with hmem | hmem
    · exact mem_known_cons _ (h.queued event hmem addr haddr)
    · rw [known_cons]
      exact List.mem_append_right _ (List.mem_filterMap.mpr ⟨event, hmem, haddr⟩)

theorem Addressed.drainEvents (h : c.Addressed origin) : c.drainEvents.Addressed origin := by
  rw [drainEvents_eq]
  refine ⟨?_, h.closeSent, fun event hmem => by cases hmem⟩
  have hlast : (c.conn.queued.filterMap (·.validated?)).getLastD c.remoteAddr ∈
      c.remoteAddr :: c.conn.queued.filterMap (·.validated?) := List.getLastD_mem_cons
  rcases List.mem_cons.mp hlast with heq | hmem
  · simpa only [heq] using h.remoteAddr
  · obtain ⟨event, hevent, haddr⟩ := List.mem_filterMap.mp hmem
    exact h.queued event hevent _ haddr

/-- Every operation of a driver keeps the addresses; the client's path has to be known. -/
theorem Addressed.step (h : c.Addressed origin) {op : DrivenOp}
    (hpath : op = .takePath → c.PathKnown origin) : (c.step op).Addressed origin := by
  cases op with
  | call | migrate => exact h.callWith _ _ _
  | callAndDrain => exact (h.callWith _ _ _).drainEvents
  | drainEvents => exact h.drainEvents
  | pushConnectionClosed =>
    refine h.of_eq ?_ ?_ ?_ <;> simp only [Driven.step, Driven.pushConnectionClosed] <;> split <;> rfl
  | returnEvent | pollEvent =>
    simp only [Driven.step, popEvent]
    split
    · exact h
    · exact h.note _ (by simp) rfl rfl rfl
  | takePath =>
    simp only [Driven.step, Driven.takePath]
    split
    · exact h
    · rename_i path hpc
      exact ⟨hpath rfl path hpc, h.closeSent, h.queued⟩
  | writeQlog fails =>
    refine h.of_eq ?_ ?_ ?_ <;> simp only [Driven.step, Driven.writeQlog] <;> split <;>
      first | rfl | (cases fails <;> rfl)
  | returnError | sent | waiting => exact h.note _ (by simp) rfl rfl rfl
  | sendClose localAddr =>
    refine ⟨mem_known_cons _ h.remoteAddr, fun path hmem => ?_, fun event hmem addr haddr =>
      mem_known_cons _ (h.queued event hmem addr haddr)⟩
    rcases List.mem_cons.mp hmem with heq | hmem
    · cases heq
      exact mem_known_cons _ h.remoteAddr
    · exact mem_known_cons _ (h.closeSent path hmem)
  | setClosed => exact h.of_eq rfl rfl rfl

theorem PathKnown.callWith (h : c.PathKnown origin) {call : PathCall} {o : Outcome}
    {events : List Tokio.ConnectionEvent} (hmoves : MovesKnown origin (c.callWith call o events).log)
    (hcall : ∀ path, call = .migrate path → path.remote ∈ known origin c.log) :
    (c.callWith call o events).PathKnown origin := by
  intro path hpath
  rcases Option.or_eq_some_iff.mp hpath with hpath | ⟨-, hpath⟩
  · rcases hmoves.1 path hpath with hknown | hmigrate
    · exact hknown
    · exact mem_known_cons _ (hcall path hmigrate)
  · exact mem_known_cons _ (h path hpath)

/-! ### The log and the path -/

/-- An operation adds to the log at most one action, and a call only if it is one. -/
theorem log_step (c : Driven) (op : DrivenOp) :
    (c.step op).log = c.log ∨ ∃ a, (c.step op).log = a :: c.log ∧
      ∀ call o events, a = .called call o events →
        op = .call call o ∨ op = .callAndDrain call o ∨
          ∃ bound, op = .migrate bound o ∧ call = .migrate ⟨bound, c.remoteAddr⟩ := by
  cases op with
  | call call o =>
    refine .inr ⟨_, rfl, fun _ _ _ h => ?_⟩
    cases h
    exact .inl rfl
  | callAndDrain call o =>
    refine .inr ⟨_, log_drainEvents _, fun _ _ _ h => ?_⟩
    cases h
    exact .inr (.inl rfl)
  | migrate bound o =>
    refine .inr ⟨_, rfl, fun _ _ _ h => ?_⟩
    cases h
    exact .inr (.inr ⟨bound, rfl, rfl⟩)
  | drainEvents => exact .inl (log_drainEvents c)
  | pushConnectionClosed =>
    simp only [step, pushConnectionClosed]
    split <;> exact .inl rfl
  | returnEvent | pollEvent =>
    simp only [step, popEvent]
    split
    · exact .inl rfl
    · exact .inr ⟨_, rfl, fun _ _ _ h => by cases h⟩
  | takePath =>
    simp only [step, takePath]
    split <;> exact .inl rfl
  | writeQlog fails =>
    simp only [step, writeQlog]
    split
    · exact .inl rfl
    · cases fails <;> exact .inl rfl
  | returnError | sent | sendClose | waiting => exact .inr ⟨_, rfl, fun _ _ _ h => by cases h⟩
  | setClosed => exact .inl rfl

theorem log_suffix (c : Driven) (op : DrivenOp) : c.log <:+ (c.step op).log := by
  rcases log_step c op with heq | ⟨a, heq, -⟩
  · exact heq ▸ List.suffix_rfl
  · exact heq ▸ List.suffix_cons a c.log

/-- The path of ngtcp2 changes in a call. -/
theorem path_step (c : Driven) {op : DrivenOp}
    (hop : ∀ call o bound, op ≠ .call call o ∧ op ≠ .callAndDrain call o ∧ op ≠ .migrate bound o) :
    (c.step op).conn.path = c.conn.path := by
  cases op with
  | call call o => exact absurd rfl (hop call o c.remoteAddr).1
  | callAndDrain call o => exact absurd rfl (hop call o c.remoteAddr).2.1
  | migrate bound o => exact absurd rfl (hop .close o bound).2.2
  | drainEvents => simp only [step, drainEvents_eq]
  | pushConnectionClosed =>
    simp only [step, pushConnectionClosed]
    split <;> rfl
  | returnEvent | pollEvent =>
    simp only [step, popEvent]
    split <;> rfl
  | takePath =>
    simp only [step, takePath]
    split <;> rfl
  | writeQlog fails =>
    simp only [step, writeQlog]
    split
    · rfl
    · cases fails <;> rfl
  | returnError | sent | sendClose | waiting | setClosed => rfl

theorem MovesKnown.suffix {log log' : List DrivenAction} (h : MovesKnown origin log')
    (hsuffix : log <:+ log') : MovesKnown origin log := by
  obtain ⟨before, rfl⟩ := hsuffix
  induction before with
  | nil => exact h
  | cons a before ih => exact ih h.tail

theorem known_suffix {log log' : List DrivenAction} (h : log <:+ log') {addr : SocketAddr}
    (haddr : addr ∈ known origin log) : addr ∈ known origin log' := by
  obtain ⟨before, rfl⟩ := h
  induction before with
  | nil => exact haddr
  | cons a before ih => exact mem_known_cons a ih

/-- Every operation of a driver keeps the path, as long as ngtcp2 moves as it should. -/
theorem PathKnown.step {d : Driver} (h : c.PathKnown origin) (ha : c.Addressed origin) {op : DrivenOp}
    (hop : op.Of d ∨ d = .client ∧ ∃ bound o, op = .migrate bound o)
    (hmoves : MovesKnown origin (c.step op).log) : (c.step op).PathKnown origin := by
  by_cases hcall : ∀ call o bound, op ≠ .call call o ∧ op ≠ .callAndDrain call o ∧ op ≠ .migrate bound o
  · intro path hpath
    rw [path_step c hcall] at hpath
    exact known_suffix (log_suffix c op) (h path hpath)
  · cases op with
    | call call o =>
      refine h.callWith hmoves fun path hpath => ?_
      subst hpath
      simp [DrivenOp.Of] at hop
    | callAndDrain call o =>
      have hwith : (c.callWith call o (c.events ++ (c.conn.apply o).queued.map .core)).PathKnown
          origin := by
        refine h.callWith (hmoves.suffix (log_suffix _ .drainEvents)) fun path hpath => ?_
        subst hpath
        simp [DrivenOp.Of] at hop
      intro path hpath
      simp only [Driven.step, callAndDrain, drainEvents_eq] at hpath ⊢
      exact hwith path hpath
    | migrate bound o =>
      refine h.callWith hmoves fun path hpath => ?_
      cases hpath
      exact ha.remoteAddr
    | _ => exact absurd (by simp) hcall

/-! ### The local address -/

/-- The address of the last socket that ngtcp2 migrated to, or `init`. -/
def localAfter (init : SocketAddr) : List DrivenAction → SocketAddr
  | [] => init
  | .called (.migrate path) o _ :: log =>
    if o.error = none then path.localAddr else localAfter init log
  | _ :: log => localAfter init log

/-- ngtcp2 migrates where it says so, and keeps its local address otherwise. -/
def PathsAsTold (init : SocketAddr) : List DrivenAction → Prop
  | [] => True
  | .called (.migrate path) o _ :: log =>
    (o.path = if o.error = none then some path else none) ∧ PathsAsTold init log
  | .called _ o _ :: log =>
    (∀ path ∈ o.path, path.localAddr = localAfter init log) ∧ PathsAsTold init log
  | _ :: log => PathsAsTold init log

instance PathsAsTold.decidable (init : SocketAddr) : ∀ log, Decidable (PathsAsTold init log)
  | [] => isTrue trivial
  | .called (.migrate path) o _ :: log =>
    have : Decidable (PathsAsTold init log) := PathsAsTold.decidable init log
    inferInstanceAs (Decidable ((o.path = if o.error = none then some path else none) ∧
      PathsAsTold init log))
  | .called (.read _) o _ :: log | .called .writePackets o _ :: log
  | .called .writeDatagram o _ :: log | .called .expiry o _ :: log | .called .close o _ :: log =>
    have : Decidable (PathsAsTold init log) := PathsAsTold.decidable init log
    inferInstanceAs (Decidable ((∀ path ∈ o.path, path.localAddr = localAfter init log) ∧
      PathsAsTold init log))
  | .sent :: log | .closeSent _ :: log | .waiting :: log | .returned _ :: log | .polled _ :: log =>
    PathsAsTold.decidable init log

/-- The path of ngtcp2 starts at the socket. -/
def PathLocal (init : SocketAddr) (c : Driven) : Prop :=
  ∀ path, c.conn.path = some path → path.localAddr = localAfter init c.log

variable {init : SocketAddr}

theorem PathsAsTold.tail {a : DrivenAction} {log : List DrivenAction}
    (h : PathsAsTold init (a :: log)) : PathsAsTold init log := by
  cases a with
  | called call => cases call <;> exact h.2
  | _ => exact h

theorem PathsAsTold.suffix {log log' : List DrivenAction} (h : PathsAsTold init log')
    (hsuffix : log <:+ log') : PathsAsTold init log := by
  obtain ⟨before, rfl⟩ := hsuffix
  induction before with
  | nil => exact h
  | cons a before ih => exact ih h.tail

theorem localAfter_called {call : PathCall} {o : Outcome} {events : List Tokio.ConnectionEvent}
    {log : List DrivenAction} (h : ∀ path, call ≠ .migrate path) :
    localAfter init (.called call o events :: log) = localAfter init log := by
  cases call with
  | migrate path => exact absurd rfl (h path)
  | _ => rfl

/-- Only a migration changes the local address. -/
theorem localAfter_step {d : Driver} {op : DrivenOp} (hop : op.Of d) :
    localAfter init (c.step op).log = localAfter init c.log := by
  rcases log_step c op with heq | ⟨a, heq, ha⟩
  · rw [heq]
  · rw [heq]
    cases a with
    | called call o events =>
      refine localAfter_called fun path hpath => ?_
      subst hpath
      rcases ha _ o events rfl with rfl | rfl | ⟨bound, rfl, -⟩ <;> exact hop
    | _ => rfl

theorem PathLocal.callWith (h : c.PathLocal init) {call : PathCall} {o : Outcome}
    {events : List Tokio.ConnectionEvent} (htold : PathsAsTold init (c.callWith call o events).log) :
    (c.callWith call o events).PathLocal init := by
  intro path hpath
  replace hpath : o.path.or c.conn.path = some path := hpath
  show path.localAddr = localAfter init (.called call o events :: c.log)
  cases call with
  | migrate target =>
    replace htold : o.path = if o.error = none then some target else none := htold.1
    rw [htold] at hpath
    unfold localAfter
    split
    · rename_i herror
      rw [if_pos herror] at hpath
      cases hpath
      rfl
    · rename_i herror
      rw [if_neg herror] at hpath
      exact h path hpath
  | _ =>
    rcases Option.or_eq_some_iff.mp hpath with hpath | ⟨-, hpath⟩
    · exact htold.1 path hpath
    · exact h path hpath

/-- Every operation of a driver keeps the path at the socket. -/
theorem PathLocal.step {d : Driver} (h : c.PathLocal init) {op : DrivenOp}
    (hop : op.Of d ∨ d = .client ∧ ∃ bound o, op = .migrate bound o)
    (htold : PathsAsTold init (c.step op).log) : (c.step op).PathLocal init := by
  by_cases hcall : ∀ call o bound, op ≠ .call call o ∧ op ≠ .callAndDrain call o ∧ op ≠ .migrate bound o
  · intro path hpath
    rw [path_step c hcall] at hpath
    rw [h path hpath, localAfter_step (d := d)]
    rcases hop with hop | ⟨-, bound, o, rfl⟩
    · exact hop
    · exact absurd rfl (hcall .close o bound).2.2
  · cases op with
    | call | migrate => exact h.callWith htold
    | callAndDrain call o =>
      intro path hpath
      simp only [Driven.step, callAndDrain, drainEvents_eq] at hpath ⊢
      exact h.callWith (htold.suffix (log_suffix _ .drainEvents)) path hpath
    | _ => exact absurd (by simp) hcall

end Driven

namespace Endpoint

variable {d : Driver} {e : Endpoint}

/-- **The peer's address** is the one that the connection began with, or one on which a path was
validated, and so is that of every CONNECTION_CLOSE, wherever datagrams come from. An accepted
connection does not rely on ngtcp2 for that; a client does, as it follows its path. -/
theorem peer_known {path : PathInfo} (h : e.Starts d path) (ops : List EndpointOp)
    (hmoves : d = .client → Driven.MovesKnown path.remote (run (step d) e ops).log) :
    (run (step d) e ops).remoteAddr ∈ Driven.known path.remote (run (step d) e ops).log ∧
      ∀ sent, .closeSent sent ∈ (run (step d) e ops).log →
        sent.remote ∈ Driven.known path.remote (run (step d) e ops).log := by
  have hI : (d = .client → Driven.MovesKnown path.remote (run (step d) e ops).log) →
      (run (step d) e ops).Addressed path.remote ∧
        (d = .client → (run (step d) e ops).PathKnown path.remote) := by
    refine h.keeps (I := fun c => (d = .client → Driven.MovesKnown path.remote c.log) →
      c.Addressed path.remote ∧ (d = .client → c.PathKnown path.remote)) (fun _ _ => ?_)
      (fun c op hop hc hm => ?_) ops
    · refine ⟨⟨List.mem_cons_self, fun _ hmem => (by cases hmem), fun _ hmem => (by cases hmem)⟩,
        fun _ p hp => ?_⟩
      cases hp
      exact List.mem_cons_self
    · have hsuffix (hd : d = .client) := (hm hd).suffix (Driven.log_suffix c op)
      obtain ⟨ha, hp⟩ := hc hsuffix
      refine ⟨ha.step fun htake => ?_, fun hd => (hp hd).step ha hop (hm hd)⟩
      subst htake
      refine hp ?_
      simpa [DrivenOp.Of] using hop
  exact ⟨(hI hmoves).1.remoteAddr, (hI hmoves).1.closeSent⟩

/-- A datagram from 127.0.0.9:9 makes the client move to the peer's 127.0.0.1:3. A migration to its
own port 4 is refused, the next one succeeds and is dropped at the socket. -/
def movingOps : List EndpointOp :=
  [.recvEvent {} none, .sent none,
    .datagram (.v4 0x7f000009 9) (.v4 0x7f000001 1)
      { events := [.pathValidated ⟨.v4 0x7f000001 1, .v4 0x7f000001 3⟩ true]
        path := some ⟨.v4 0x7f000001 1, .v4 0x7f000001 3⟩ } {} none,
    .migrate (some (.v4 0x7f000001 4)) { error := some (.ngtcp2 (-213)) } {},
    .migrate (some (.v4 0x7f000001 4)) { path := some ⟨.v4 0x7f000001 4, .v4 0x7f000001 3⟩ } {},
    .cancel, .close {} true false]

theorem peer_known_moved :
    (run (step .client) sampleClient movingOps).remoteAddr = .v4 0x7f000001 3 ∧
      (run (step .client) sampleClient movingOps).remoteAddr ∈
        Driven.known (.v4 0x7f000001 2) (run (step .client) sampleClient movingOps).log :=
  ⟨by decide, (peer_known sampleClient_starts movingOps fun _ => by decide).1⟩

/-- The socket and `local_addr` are those of the last migration that succeeded. -/
structure Bound (init : SocketAddr) (e : Endpoint) : Prop where
  socket : e.socket = e.localAddr
  localAddr : e.localAddr = Driven.localAfter init e.log

theorem Bound.drives {init : SocketAddr} {e' : Endpoint} (h : e.Bound init) (hd : Drives d e e') :
    e'.Bound init := by
  have hlog : Driven.localAfter init e'.log = Driven.localAfter init e.log :=
    hd.does.keeps (I := fun c => Driven.localAfter init c.log = Driven.localAfter init e.log)
      (fun _ _ hop hc => (Driven.localAfter_step hop).trans hc) rfl
  refine ⟨?_, ?_⟩
  · rw [hd.socket, hd.localAddr, h.socket]
  · rw [hd.localAddr, hlog, h.localAddr]

theorem Bound.step {init : SocketAddr} (h : e.Bound init) (op : EndpointOp) :
    (e.step d op).Bound init := by
  rcases step_cases d e op with hd | ⟨rfl, bound, o, ⟨herror, heq⟩ | ⟨herror, hd⟩⟩
  · exact h.drives hd
  · -- ngtcp2 refused: the socket that was bound is dropped
    have hne : o.error ≠ none := fun hnone => by simp [hnone] at herror
    rw [heq]
    exact ⟨h.socket, h.localAddr.trans (if_neg hne).symm⟩
  · refine Bound.drives ⟨rfl, ?_⟩ hd
    exact (if_pos herror).symm

/-- **One local address.** In every run of a client, `local_addr` is the address of its socket and the
one that the path of ngtcp2 starts from, also where a migration fails at the socket or in ngtcp2, or
is dropped while it flushes. -/
theorem local_agrees {path : PathInfo} (h : e.Starts .client path) (hsocket : e.socket = path.localAddr)
    (hlocal : e.localAddr = path.localAddr)
    (ops : List EndpointOp)
    (htold : Driven.PathsAsTold path.localAddr (run (step .client) e ops).log) :
    (run (step .client) e ops).socket = (run (step .client) e ops).localAddr ∧
      ∀ p, (run (step .client) e ops).conn.path = some p →
        p.localAddr = (run (step .client) e ops).localAddr := by
  have hbound : (run (step .client) e ops).Bound path.localAddr := by
    refine run_preserves (fun _ op hs => hs.step op) ops e ⟨hsocket.trans hlocal.symm, ?_⟩
    rw [hlocal]
    obtain ⟨qlogOpen, hdoes⟩ := h.handshake
    exact (hdoes.keeps (I := fun c => Driven.localAfter path.localAddr c.log = path.localAddr)
      (fun _ _ hop hc => (Driven.localAfter_step hop).trans hc) rfl).symm
  have hpath : Driven.PathsAsTold path.localAddr (run (step .client) e ops).log →
      (run (step .client) e ops).PathLocal path.localAddr := by
    refine h.keeps (I := fun c => Driven.PathsAsTold path.localAddr c.log →
      c.PathLocal path.localAddr) (fun _ _ p hp => ?_)
      (fun c op hop hc ht => (hc (ht.suffix (Driven.log_suffix c op))).step hop ht) ops
    cases hp
    rfl
  exact ⟨hbound.socket, fun p hp => (hpath htold p hp).trans hbound.localAddr.symm⟩

theorem local_agrees_moved :
    (run (step .client) sampleClient movingOps).localAddr = .v4 0x7f000001 4 ∧
      (run (step .client) sampleClient movingOps).socket =
        (run (step .client) sampleClient movingOps).localAddr :=
  ⟨by decide, (local_agrees sampleClient_starts rfl rfl movingOps (by decide)).1⟩

end Endpoint

end Ngtcp2Rs
