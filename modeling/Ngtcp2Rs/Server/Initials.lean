import Ngtcp2Rs.Server.Ownership

/-!
# What becomes of Initials

`handle_new_connection` of `tokio-ngtcp2/src/server.rs` decides about an Initial and then carries the
decision out. `InitialOutcome` is the decision (`handleNewConnection_eq`), and `received` lists the
decisions of a run in their order. The connections that a run creates are those that it lists
(`creations_run`).
-/

namespace Ngtcp2Rs

open Lib

/-- What is decided about an Initial of no known connection. -/
inductive InitialOutcome where
  | dropped
  | versionNegotiation
  | invalidToken
  | retry (accepted : AcceptedInitial) (version : QuicVersion)
  | created (accepted : AcceptedInitial) (version : QuicVersion) (o : Origin)
      (validated retried : Bool)
  deriving DecidableEq

namespace Server

/-- The decision of `handleNewConnection`. -/
def initialOutcome (ext : External) (cfg : ServerConfig) (s : Server) (data : Bytes)
    (src : SocketAddr) (ts : ℕ) (ans : Answers) : InitialOutcome :=
  match ext.decodePacketVersion data with
  | some version =>
    if (QuicVersion.fromU32 version).any fun v => cfg.quicVersions.contains v then go
    else .versionNegotiation
  | none => go
where
  /-- The rest, for a packet that needs no version negotiation. -/
  go : InitialOutcome :=
    match ext.acceptInitial data with
    | none => .dropped
    | some accepted =>
      match QuicVersion.fromU32 accepted.version with
      | none => .dropped
      | some version =>
        if !cfg.quicVersions.contains version then .dropped
        else
          match validate ext cfg accepted version src ts with
          | .retry => .retry accepted version
          | .invalid => .invalidToken
          | .proceed originalDcid validated retried =>
            if maxConnections ≤ s.connections.size then .dropped
            else if !validated && s.cidMap.keys.contains originalDcid then .dropped
            else
              match chooseIds ext cfg accepted originalDcid retried ans with
              | none => .dropped
              | some o =>
                if !ans.tlsSession || !ans.serverNew then .dropped
                else
                  match ans.read.error with
                  | none => .created accepted version o validated retried
                  | some e =>
                    if e.isRetryRequired then .retry accepted version
                    else if e.classifyConnectionError = .ignore then
                      .created accepted version o validated retried
                    else .dropped

/-- Carry a decision out. -/
def carryOut (ext : External) (cfg : ServerConfig) (s : Server) (src : SocketAddr) (ts : ℕ)
    (ans : Answers) : InitialOutcome → Server
  | .dropped => s
  | .versionNegotiation => s.record (.versionNegotiation src)
  | .invalidToken => s.record (.invalidTokenClose src)
  | .retry accepted version => sendRetry ext cfg s accepted version src ts ans
  | .created _ _ o _ retried => s.createConnection o retried src ans

end Server

section Outcome

variable {ext : External} {cfg : ServerConfig} {s : Server} {data : Bytes} {src : SocketAddr}
  {ts : ℕ} {ans : Answers}

/-- **Decide, then act.** -/
theorem handleNewConnection_eq : s.handleNewConnection ext cfg data src ts ans =
    s.carryOut ext cfg src ts ans (s.initialOutcome ext cfg data src ts ans) := by
  have hgo : Server.handleNewConnection.go ext cfg s data src ts ans =
      s.carryOut ext cfg src ts ans (Server.initialOutcome.go ext cfg s data src ts ans) := by
    unfold Server.handleNewConnection.go Server.initialOutcome.go
    cases ext.acceptInitial data with
    | none => rfl
    | some accepted =>
      simp only
      cases QuicVersion.fromU32 accepted.version with
      | none => rfl
      | some version =>
        simp only
        cases cfg.quicVersions.contains version with
        | false => rfl
        | true =>
          simp only [Bool.not_true, Bool.false_eq_true, if_false]
          cases Server.validate ext cfg accepted version src ts with
          | retry => rfl
          | invalid => rfl
          | proceed originalDcid validated retried =>
            simp only
            cases Server.chooseIds ext cfg accepted originalDcid retried ans with
            | none => simp only; split_ifs <;> rfl
            | some o =>
              cases ans.read.error with
              | none => simp only; split_ifs <;> rfl
              | some e => simp only; split_ifs <;> rfl
  unfold Server.handleNewConnection Server.initialOutcome
  cases ext.decodePacketVersion data with
  | none => exact hgo
  | some version =>
    simp only
    split_ifs
    · exact hgo
    · rfl

/-- A decision other than version negotiation is one of the rest. -/
theorem initialOutcome_eq_go {outcome : InitialOutcome}
    (h : s.initialOutcome ext cfg data src ts ans = outcome)
    (hne : outcome ≠ .versionNegotiation) :
    Server.initialOutcome.go ext cfg s data src ts ans = outcome := by
  unfold Server.initialOutcome at h
  split at h
  · split at h
    · exact h
    · exact absurd h.symm hne
  · exact h

/-- An Initial that creates a connection. -/
theorem created_initialOutcome {accepted : AcceptedInitial} {version : QuicVersion} {o : Origin}
    {validated retried : Bool}
    (h : s.initialOutcome ext cfg data src ts ans = .created accepted version o validated retried) :
    ext.acceptInitial data = some accepted ∧ QuicVersion.fromU32 accepted.version = some version ∧
      Server.validate ext cfg accepted version src ts =
        .proceed o.originalDcid validated retried ∧
      s.connections.size < maxConnections ∧
      Server.chooseIds ext cfg accepted o.originalDcid retried ans = some o := by
  have h := initialOutcome_eq_go h (by simp)
  unfold Server.initialOutcome.go at h
  split at h
  · cases h
  rename_i accepted hacc
  split at h
  · cases h
  rename_i version hversion
  split at h
  · cases h
  split at h
  · cases h
  · cases h
  rename_i originalDcid validated retried hvalid
  split at h
  · cases h
  rename_i hsize
  split at h
  · cases h
  split at h
  · cases h
  rename_i o ho
  have hod := originalDcid_chooseIds ho
  subst hod
  split at h
  · cases h
  split at h
  · cases h
    exact ⟨hacc, hversion, hvalid, Nat.lt_of_not_le hsize, ho⟩
  split at h
  · cases h
  split at h
  · cases h
    exact ⟨hacc, hversion, hvalid, Nat.lt_of_not_le hsize, ho⟩
  · cases h

/-- An Initial that is answered with a Retry. -/
theorem retry_initialOutcome {accepted : AcceptedInitial} {version : QuicVersion}
    (h : s.initialOutcome ext cfg data src ts ans = .retry accepted version) :
    ext.acceptInitial data = some accepted ∧ QuicVersion.fromU32 accepted.version = some version := by
  have h := initialOutcome_eq_go h (by simp)
  unfold Server.initialOutcome.go at h
  split at h
  · cases h
  rename_i accepted hacc
  split at h
  · cases h
  rename_i version hversion
  have hdone {a : AcceptedInitial} {v : QuicVersion}
      (h : InitialOutcome.retry accepted version = .retry a v) :
      ext.acceptInitial data = some a ∧ QuicVersion.fromU32 a.version = some v := by
    cases h
    exact ⟨hacc, hversion⟩
  split at h
  · cases h
  split at h
  · exact hdone h
  · cases h
  split at h
  · cases h
  split at h
  · cases h
  split at h
  · cases h
  split at h
  · cases h
  split at h
  · cases h
  split at h
  · exact hdone h
  split at h <;> cases h

end Outcome

/-! ## Tokens -/

/-- The token of an Initial was verified for the address it came from. -/
def AcceptedInitial.Verified (ext : External) (accepted : AcceptedInitial) (version : QuicVersion)
    (src : SocketAddr) (ts : ℕ) : Prop :=
  match Server.tokenKind accepted.token with
  | none => False
  | some .retry => (ext.verifyRetryToken accepted.token version src accepted.dcid ts).isSome = true
  | some .newToken => ext.verifyNewToken accepted.token src ts = true

/-- **The Initials that go on** carry no token of a known kind and need none, or carry one that was
verified. -/
theorem validate_proceed {ext : External} {cfg : ServerConfig} {accepted : AcceptedInitial}
    {version : QuicVersion} {src : SocketAddr} {ts : ℕ} {originalDcid : ConnectionId}
    {validated retried : Bool}
    (h : Server.validate ext cfg accepted version src ts =
      .proceed originalDcid validated retried) :
    (Server.tokenKind accepted.token = none ∧ cfg.retry = false ∧ originalDcid = accepted.dcid ∧
      validated = false ∧ retried = false) ∨
    (Server.tokenKind accepted.token = some .retry ∧
      ext.verifyRetryToken accepted.token version src accepted.dcid ts = some originalDcid ∧
      validated = true ∧ retried = true) ∨
    (Server.tokenKind accepted.token = some .newToken ∧
      ext.verifyNewToken accepted.token src ts = true ∧ originalDcid = accepted.dcid ∧
      validated = true ∧ retried = false) := by
  unfold Server.validate at h
  split at h
  · rename_i hkind
    split at h
    · cases h
    · rename_i hretry
      cases h
      exact .inl ⟨hkind, Bool.eq_false_iff.mpr hretry, rfl, rfl, rfl⟩
  · rename_i hkind
    split at h
    · rename_i od hod
      cases h
      exact .inr (.inl ⟨hkind, hod, rfl, rfl⟩)
    · cases h
  · rename_i hkind
    split at h
    · rename_i hnew
      cases h
      exact .inr (.inr ⟨hkind, hnew, rfl, rfl, rfl⟩)
    · cases h

/-! ## The Initials of a run -/

/-- The decision about a datagram, if it is an Initial of no known connection. -/
def World.initialOutcome (ext : External) (cfg : ServerConfig) (w : World) (d : InboundDatagram)
    (ts : ℕ) (ans : Answers) : Option InitialOutcome :=
  if isLongHeader d.data = true ∧ w.server.existingKey d.data d.src = none ∧
      w.routes.resolve d.data d.src = none then
    some (w.server.initialOutcome ext cfg d.data d.src ts ans)
  else none

/-- An Initial of no known connection, and what was decided about it. -/
structure Received where
  datagram : InboundDatagram
  ts : ℕ
  ans : Answers
  outcome : InitialOutcome

/-- The Initials of no known connection that a step receives. -/
def receivedAt (ext : External) (cfg : ServerConfig) (w : World) : Label → List Received
  | .datagram d ts ans => ((w.initialOutcome ext cfg d ts ans).map (⟨d, ts, ans, ·⟩)).toList
  | _ => []

/-- The Initials of no known connection that a run receives, in their order. -/
def received (ext : External) (cfg : ServerConfig) : World → List Label → List Received
  | _, [] => []
  | w, l :: ls => receivedAt ext cfg w l ++ received ext cfg (w.step ext cfg l) ls

/-- What a decision adds to the creations. -/
def Received.creation (r : Received) : Option Action :=
  match r.outcome with
  | .created _ _ o _ retried => some (.created o retried r.datagram.src)
  | _ => none

section Received

variable {ext : External} {cfg : ServerConfig}

theorem World.initialOutcome_eq_some {w : World} {d : InboundDatagram} {ts : ℕ} {ans : Answers}
    {outcome : InitialOutcome} (h : w.initialOutcome ext cfg d ts ans = some outcome) :
    Unknown w d ∧ w.server.initialOutcome ext cfg d.data d.src ts ans = outcome := by
  unfold World.initialOutcome at h
  split_ifs at h with hu
  exact ⟨⟨hu.1, hu.2.1, hu.2.2⟩, Option.some.inj h⟩

theorem of_mem_receivedAt {w : World} {l : Label} {r : Received} (h : r ∈ receivedAt ext cfg w l) :
    l = .datagram r.datagram r.ts r.ans ∧
      w.initialOutcome ext cfg r.datagram r.ts r.ans = some r.outcome := by
  cases l with
  | datagram d ts ans =>
    obtain ⟨outcome, hout, rfl⟩ := Option.map_eq_some_iff.mp (Option.mem_toList.mp h)
    exact ⟨rfl, hout⟩
  | _ => cases h

/-- Every Initial is one of the datagrams, and was decided about in some state of the server. -/
theorem of_mem_received {r : Received} : ∀ {ls : List Label} {w : World},
    r ∈ received ext cfg w ls → .datagram r.datagram r.ts r.ans ∈ ls ∧ ∃ s : Server,
      s.initialOutcome ext cfg r.datagram.data r.datagram.src r.ts r.ans = r.outcome
  | l :: ls, w, h => by
    rcases List.mem_append.mp h with h | h
    · obtain ⟨rfl, hout⟩ := of_mem_receivedAt h
      exact ⟨List.mem_cons_self, w.server, (World.initialOutcome_eq_some hout).2⟩
    · obtain ⟨hmem, hs⟩ := of_mem_received h
      exact ⟨List.mem_cons_of_mem l hmem, hs⟩

theorem creations_carryOut (s : Server) (r : Received) :
    creations (s.carryOut ext cfg r.datagram.src r.ts r.ans r.outcome).trace =
      r.creation.toList ++ creations s.trace := by
  obtain ⟨d, ts, ans, outcome⟩ := r
  cases outcome with
  | dropped => rfl
  | versionNegotiation => rfl
  | invalidToken => rfl
  | retry accepted version =>
    have hnoted : Noted cfg s (s.sendRetry ext cfg accepted version d.src ts ans) :=
      sendRetry_noted s accepted version d.src ts ans
    simp only [Server.carryOut]
    rcases hnoted with heq | ⟨a, heq, ha⟩
    · rw [heq]
      rfl
    · rw [heq]
      exact creations_note ha s.trace
  | created accepted version o validated retried =>
    simp only [Server.carryOut]
    rw [trace_createConnection]
    rfl

theorem creations_step (w : World) (l : Label) : creations (w.step ext cfg l).trace =
    ((receivedAt ext cfg w l).filterMap Received.creation).reverse ++ creations w.trace := by
  by_cases hnew : ∃ d ts ans, l = .datagram d ts ans ∧ Unknown w d
  · obtain ⟨d, ts, ans, rfl, hu⟩ := hnew
    have hstep : w.step ext cfg (.datagram d ts ans) = _ := hu.handleDatagram_eq
    have hout : w.initialOutcome ext cfg d ts ans = _ := if_pos ⟨hu.long, hu.server, hu.shared⟩
    have hcarry := @creations_carryOut ext cfg w.server
      ⟨d, ts, ans, w.server.initialOutcome ext cfg d.data d.src ts ans⟩
    rw [hstep, handleNewConnection_eq]
    refine hcarry.trans ?_
    simp only [receivedAt, hout, Option.map_some, Option.toList_some, List.filterMap_cons,
      List.filterMap_nil]
    cases Received.creation _ <;> rfl
  · have hnone : receivedAt ext cfg w l = [] := by
      cases l with
      | datagram d ts ans =>
        have hout : w.initialOutcome ext cfg d ts ans = none := by
          refine if_neg fun h => hnew ⟨d, ts, ans, rfl, h.1, h.2.1, h.2.2⟩
        simp only [receivedAt, hout]
        rfl
      | _ => rfl
    rw [hnone]
    obtain hplain | ⟨d, ts, ans, -, -, -, hl, hu, -⟩ := step_cases ext cfg w l
    · exact hplain.creations_eq
    · exact absurd ⟨d, ts, ans, hl, hu⟩ hnew

/-- **The connections of a run** are those that its Initials created. -/
theorem creations_run : ∀ (ls : List Label) (w : World),
    creations (run (World.step ext cfg) w ls).trace =
      ((received ext cfg w ls).filterMap Received.creation).reverse ++ creations w.trace
  | [], w => rfl
  | l :: ls, w => by
    have ih := creations_run ls (w.step ext cfg l)
    rw [creations_step] at ih
    simp only [received, List.filterMap_append, List.reverse_append, List.append_assoc]
    exact ih

/-- A connection was created by one of the Initials. -/
theorem exists_received_of_created {ls : List Label} {o : Origin} {retried : Bool}
    {src : SocketAddr}
    (h : .created o retried src ∈ (run (World.step ext cfg) (.init cfg) ls).trace) :
    ∃ r ∈ received ext cfg (.init cfg) ls, ∃ accepted version validated,
      r.outcome = .created accepted version o validated retried ∧ r.datagram.src = src := by
  have hcreated : .created o retried src ∈
      creations (run (World.step ext cfg) (.init cfg) ls).trace := List.mem_filter.mpr ⟨h, rfl⟩
  rw [creations_run, List.mem_append, List.mem_reverse] at hcreated
  rcases hcreated with hcreated | hcreated
  · obtain ⟨r, hr, hcreation⟩ := List.mem_filterMap.mp hcreated
    unfold Received.creation at hcreation
    split at hcreation
    · rename_i accepted version o validated retried houtcome
      cases hcreation
      exact ⟨r, hr, accepted, version, validated, houtcome, rfl⟩
    · cases hcreation
  · cases hcreated

end Received

end Ngtcp2Rs
