import Ngtcp2Rs.Server.System

/-!
# What a step can do

`Edit` lists every way in which a step can change the tables, the connections, the handles and the
trace. `step_cases` says that a step is a chain of edits that create no connection, or an Initial
that creates one; an invariant of the edits is one of every run (`run_edits`, `edits_invariant`).
-/

namespace Ngtcp2Rs

open Lib Relation

/-! ## Edits of the server -/

/-- Actions that are only recorded. -/
def Action.IsNote (cfg : ServerConfig) : Action → Prop
  | retry scid _ _ _ _ _ => scid.len = max cfg.scidLen 8
  | created .. | called .. | missingKey _ | panicked => False
  | _ => True

/-- A series of calls on one connection. -/
def ConnCids.callAll (c : ConnCids) (calls : List (NgCall × Answer)) : ConnCids :=
  calls.foldl (fun c call => c.call call.2.effect) c

/-- Record a series of calls. -/
def Server.recordCalls (s : Server) (key : ConnectionId) (calls : List (NgCall × Answer)) : Server :=
  calls.foldl (fun s call => s.record (.called key call.1 call.2)) s

/-- What a new connection is named: by its SCID, or by an internal key if that is empty. The SCID
has the configured length unless it was the one of a Retry. -/
structure Origin.Chosen (cfg : ServerConfig) (o : Origin) (retried : Bool) : Prop where
  key_eq : o.scid.isEmpty = false → o.key = o.scid
  key_len : o.scid.isEmpty = true → o.key.len = internalKeyLen
  scid_len : retried = false → o.scid.len = cfg.scidLen

/-- What the handlers can do to a server. -/
inductive ServerEdit (cfg : ServerConfig) : Server → Server → Prop
  | note (s : Server) (a : Action) (ha : a.IsNote cfg) : ServerEdit cfg s (s.record a)
  | limiter (s : Server) (l : StatelessResetLimiter) : ServerEdit cfg s { s with limiter := l }
  | missing (s : Server) (key : ConnectionId) (hkey : s.connections.lookup key = none)
      (hroute : (∃ x, s.cidMap.lookup x = some key) ∨ ∃ a, s.addrMap.lookup a = some key) :
      ServerEdit cfg s (s.record (.missingKey key))
  | remove (s : Server) (key : ConnectionId) : ServerEdit cfg s (s.removeConnection key)
  | serve (s : Server) (key : ConnectionId) (c c₁ : ServerConnection)
      (calls : List (NgCall × Answer)) (hkey : s.connections.lookup key = some c)
      (hcids : c₁.toConnCids = c.toConnCids.callAll calls) :
      ServerEdit cfg s ((s.recordCalls key calls).pollCids key c₁)
  | close (s : Server) (key : ConnectionId) (c : ServerConnection) (ans : Answer)
      (hkey : s.connections.lookup key = some c) :
      ServerEdit cfg s ((s.setConnection key (c.call ans.effect)).record (.called key .close ans))
  | create (s : Server) (o : Origin) (retried : Bool) (src : SocketAddr) (ans : Answers)
      (hsize : s.connections.size < maxConnections) (ho : o.Chosen cfg retried) :
      ServerEdit cfg s (s.createConnection o retried src ans)

/-! ### Calls and a poll -/

theorem callAll_cons (c : ConnCids) (call : NgCall × Answer) (calls : List (NgCall × Answer)) :
    c.callAll (call :: calls) = (c.call call.2.effect).callAll calls := rfl

@[simp] theorem callAll_origin (c : ConnCids) (calls : List (NgCall × Answer)) :
    (c.callAll calls).origin = c.origin := by
  induction calls generalizing c with
  | nil => rfl
  | cons call calls ih => exact ih _

@[simp] theorem callAll_issuedPolled (c : ConnCids) (calls : List (NgCall × Answer)) :
    (c.callAll calls).issuedPolled = c.issuedPolled := by
  induction calls generalizing c with
  | nil => rfl
  | cons call calls ih => exact ih _

@[simp] theorem callAll_retiredPolled (c : ConnCids) (calls : List (NgCall × Answer)) :
    (c.callAll calls).retiredPolled = c.retiredPolled := by
  induction calls generalizing c with
  | nil => rfl
  | cons call calls ih => exact ih _

theorem mem_issued_callAll {calls : List (NgCall × Answer)} : ∀ {c : ConnCids} {x : ConnectionId},
    x ∈ (c.callAll calls).issuedCids → x ∈ c.issuedCids ∨ ∃ call ∈ calls, x ∈ call.2.effect.issued := by
  induction calls with
  | nil => exact fun hx => .inl hx
  | cons call calls ih =>
    intro c x hx
    rw [callAll_cons] at hx
    rcases ih hx with hx | ⟨call', hmem, hx⟩
    · rcases List.mem_append.mp hx with hx | hx
      · exact .inl hx
      · exact .inr ⟨call, List.mem_cons_self, hx⟩
    · exact .inr ⟨call', List.mem_cons_of_mem _ hmem, hx⟩

theorem trace_recordCalls (s : Server) (key : ConnectionId) (calls : List (NgCall × Answer)) :
    (s.recordCalls key calls).trace =
      (calls.map fun call => Action.called key call.1 call.2).reverse ++ s.trace := by
  induction calls generalizing s with
  | nil => rfl
  | cons call calls ih =>
    have hcons : s.recordCalls key (call :: calls) =
        (s.record (.called key call.1 call.2)).recordCalls key calls := rfl
    rw [hcons, ih]
    simp [Server.record]

@[simp] theorem toRouteTable_recordCalls (s : Server) (key : ConnectionId)
    (calls : List (NgCall × Answer)) : (s.recordCalls key calls).toRouteTable = s.toRouteTable := by
  induction calls generalizing s with
  | nil => rfl
  | cons call calls ih => exact ih _

@[simp] theorem connections_recordCalls (s : Server) (key : ConnectionId)
    (calls : List (NgCall × Answer)) : (s.recordCalls key calls).connections = s.connections := by
  induction calls generalizing s with
  | nil => rfl
  | cons call calls ih => exact ih _

section Served

variable (s : Server) (key : ConnectionId) (calls : List (NgCall × Answer)) (c : ServerConnection)

theorem toRouteTable_served : ((s.recordCalls key calls).pollCids key c).toRouteTable =
    (s.registerCids key c.issuedCids).retireCids key c.retiredCids := by
  simp [Server.pollCids]

theorem connections_served : ((s.recordCalls key calls).pollCids key c).connections =
    s.connections.insert key c.pollCids := by
  simp [Server.pollCids]

theorem trace_served : ((s.recordCalls key calls).pollCids key c).trace =
    (calls.map fun call => Action.called key call.1 call.2).reverse ++ s.trace :=
  trace_recordCalls s key calls

theorem mem_called {key : ConnectionId} {calls : List (NgCall × Answer)} {a : Action}
    (h : a ∈ (calls.map fun call => Action.called key call.1 call.2).reverse) :
    ∃ call ans, a = .called key call ans := by
  obtain ⟨call, -, rfl⟩ := List.mem_map.mp (List.mem_reverse.mp h)
  exact ⟨call.1, call.2, rfl⟩

/-- What was recorded is a call, or it was there. -/
theorem mem_trace_served {s : Server} {key : ConnectionId} {calls : List (NgCall × Answer)}
    {c : ServerConnection} {a : Action}
    (h : a ∈ ((s.recordCalls key calls).pollCids key c).trace) :
    (∃ call ans, a = .called key call ans) ∨ a ∈ s.trace := by
  rw [trace_served, List.mem_append] at h
  exact h.imp_left mem_called

end Served

/-! ### Edits without a new connection -/

/-- The connections created so far. -/
def creations (trace : List Action) : List Action :=
  trace.filter fun
    | .created .. => true
    | _ => false

/-- An edit of the server that creates no connection. -/
def PlainServerEdit (cfg : ServerConfig) (s s' : Server) : Prop :=
  ServerEdit cfg s s' ∧ creations s'.trace = creations s.trace

/-- A chain of them. -/
abbrev PlainServerEdits (cfg : ServerConfig) : Server → Server → Prop :=
  ReflTransGen (PlainServerEdit cfg)

theorem creations_note {cfg : ServerConfig} {a : Action} (ha : a.IsNote cfg)
    (trace : List Action) : creations (a :: trace) = creations trace := by
  cases a <;> first | rfl | cases ha

namespace PlainServerEdit

variable {cfg : ServerConfig} (s : Server) (key : ConnectionId)

theorem note (a : Action) (ha : a.IsNote cfg) : PlainServerEdit cfg s (s.record a) :=
  ⟨.note s a ha, creations_note ha _⟩

theorem limiter (l : StatelessResetLimiter) : PlainServerEdit cfg s { s with limiter := l } :=
  ⟨.limiter s l, rfl⟩

theorem missing (hkey : s.connections.lookup key = none)
    (hroute : (∃ x, s.cidMap.lookup x = some key) ∨ ∃ a, s.addrMap.lookup a = some key) :
    PlainServerEdit cfg s (s.record (.missingKey key)) :=
  ⟨.missing s key hkey hroute, rfl⟩

theorem remove : PlainServerEdit cfg s (s.removeConnection key) := ⟨.remove s key, rfl⟩

theorem serve (c c₁ : ServerConnection) (calls : List (NgCall × Answer))
    (hkey : s.connections.lookup key = some c)
    (hcids : c₁.toConnCids = c.toConnCids.callAll calls) :
    PlainServerEdit cfg s ((s.recordCalls key calls).pollCids key c₁) := by
  refine ⟨.serve s key c c₁ calls hkey hcids, ?_⟩
  have hnil : creations (calls.map fun call => Action.called key call.1 call.2).reverse = [] := by
    rw [creations, List.filter_eq_nil_iff]
    intro a ha
    obtain ⟨call, ans, rfl⟩ := mem_called ha
    simp
  rw [trace_served, creations, List.filter_append]
  exact congrArg (· ++ creations s.trace) hnil

theorem close (c : ServerConnection) (ans : Answer) (hkey : s.connections.lookup key = some c) :
    PlainServerEdit cfg s
      ((s.setConnection key (c.call ans.effect)).record (.called key .close ans)) :=
  ⟨.close s key c ans hkey, rfl⟩

end PlainServerEdit

section Handlers

variable {ext : External} {cfg : ServerConfig}

theorem foldl_edits {α : Type} {f : Server → α → Server}
    (hf : ∀ s a, PlainServerEdits cfg s (f s a)) : ∀ (l : List α) (s : Server),
      PlainServerEdits cfg s (l.foldl f s)
  | [], _ => .refl
  | a :: l, s => (hf s a).trans (foldl_edits hf l (f s a))

theorem removeClosedConnections_edits (s : Server) : PlainServerEdits cfg s s.removeClosedConnections :=
  foldl_edits (fun s key => .single (.remove s key)) _ s

theorem handleConnError_edits (s : Server) (key : ConnectionId) (err : Error) (close : Answer)
    (closeWritten : Bool) : PlainServerEdits cfg s (s.handleConnError key err close closeWritten) := by
  unfold Server.handleConnError
  split
  · exact .refl
  · exact .refl
  · exact .single (.remove s key)
  · exact .single (.remove s key)
  all_goals
    split
    · exact .refl
    · rename_i c hc
      split
      · exact .single (.close s key c close hc)
      · exact .tail (.single (.close s key c close hc)) (.remove _ key)

theorem handleExistingConnection_edits {s : Server} {key : ConnectionId} (ans : Answers)
    (hroute : (∃ x, s.cidMap.lookup x = some key) ∨ ∃ a, s.addrMap.lookup a = some key) :
    PlainServerEdits cfg s (s.handleExistingConnection key ans) := by
  unfold Server.handleExistingConnection
  split
  · rename_i hc
    exact .single (.missing s key hc hroute)
  · rename_i c hc
    have hserve : PlainServerEdit cfg s _ := .serve s key c
      ((c.callAndDrain ans.read.effect).callAndDrain ans.flush.effect)
      [(.read, ans.read), (.writePackets, ans.flush)] hc rfl
    split
    · exact .single hserve
    · split
      · exact .single hserve
      · exact (ReflTransGen.single hserve).trans (handleConnError_edits _ _ _ _ _)

theorem len_generateScid {n : ℕ} {fill : Fill} {scid : ConnectionId}
    (h : Server.generateScid n fill = some scid) : scid.len = n := by
  unfold Server.generateScid at h
  split_ifs at h with hn
  · cases h; rw [hn]; rfl
  · exact ConnectionId.len_random h

theorem chosen_chooseIds {accepted : AcceptedInitial} {originalDcid : ConnectionId} {retried : Bool}
    {ans : Answers} {o : Origin}
    (h : Server.chooseIds ext cfg accepted originalDcid retried ans = some o) :
    o.Chosen cfg retried := by
  unfold Server.chooseIds at h
  split at h
  · cases h
  · rename_i scid hscid
    split at h
    · cases h
    · rename_i key hkey
      cases h
      refine ⟨fun hne => ?_, fun he => ?_, fun hr => ?_⟩
      · simpa [show scid.isEmpty = false from hne, eq_comm] using hkey
      · rw [if_pos (show scid.isEmpty = true from he)] at hkey
        exact ConnectionId.len_random hkey
      · subst hr
        exact len_generateScid (by simpa using hscid)

/-- The SCID of a new connection is that of the Retry, or has the configured length. -/
theorem scid_chooseIds {accepted : AcceptedInitial} {originalDcid : ConnectionId} {retried : Bool}
    {ans : Answers} {o : Origin}
    (h : Server.chooseIds ext cfg accepted originalDcid retried ans = some o) :
    if retried then o.scid = accepted.dcid else o.scid.len = cfg.scidLen := by
  cases retried with
  | false => exact (chosen_chooseIds h).scid_len rfl
  | true =>
    unfold Server.chooseIds at h
    rw [if_pos rfl] at h
    simp only at h
    split at h
    · cases h
    · cases h
      rfl

/-- An Initial that makes the server create a connection. -/
structure Creates (ext : External) (cfg : ServerConfig) (s : Server) (data : Bytes)
    (src : SocketAddr) (ts : ℕ) (ans : Answers) (accepted : AcceptedInitial) (o : Origin)
    (retried : Bool) : Prop where
  accept : ext.acceptInitial data = some accepted
  valid : ∃ version validated,
    Server.validate ext cfg accepted version src ts = .proceed o.originalDcid validated retried ∧
      (validated = false → o.originalDcid ∉ s.cidMap)
  size : s.connections.size < maxConnections
  ids : Server.chooseIds ext cfg accepted o.originalDcid retried ans = some o
  result : s.handleNewConnection ext cfg data src ts ans = s.createConnection o retried src ans

theorem originalDcid_chooseIds {accepted : AcceptedInitial} {originalDcid : ConnectionId}
    {retried : Bool} {ans : Answers} {o : Origin}
    (h : Server.chooseIds ext cfg accepted originalDcid retried ans = some o) :
    o.originalDcid = originalDcid := by
  unfold Server.chooseIds at h
  split at h
  · cases h
  · split at h
    · cases h
    · cases h; rfl

/-- A handler recorded at most one note. -/
def Noted (cfg : ServerConfig) (s s' : Server) : Prop :=
  s' = s ∨ ∃ a : Action, s' = s.record a ∧ a.IsNote cfg

theorem sendRetry_noted (s : Server) (accepted : AcceptedInitial) (version : QuicVersion)
    (dst : SocketAddr) (ts : ℕ) (ans : Answers) :
    Noted cfg s (s.sendRetry ext cfg accepted version dst ts ans) := by
  unfold Server.sendRetry
  split
  · exact .inl rfl
  · rename_i scid hscid
    split
    · exact .inl rfl
    · split
      · exact .inr ⟨_, rfl, len_generateScid hscid⟩
      · exact .inl rfl

/-- **The outcomes of an unknown Initial.** It creates a connection, or leaves the server alone but
for a packet sent back. -/
theorem handleNewConnection_cases (s : Server) (data : Bytes) (src : SocketAddr) (ts : ℕ)
    (ans : Answers) :
    (∃ accepted o retried, Creates ext cfg s data src ts ans accepted o retried) ∨
    Noted cfg s (s.handleNewConnection ext cfg data src ts ans) := by
  have hgo {s' : Server} (hresult : s.handleNewConnection ext cfg data src ts ans = s')
      (h : s' = Server.handleNewConnection.go ext cfg s data src ts ans) :
      (∃ accepted o retried, Creates ext cfg s data src ts ans accepted o retried) ∨
      Noted cfg s s' := by
    unfold Server.handleNewConnection.go at h
    split at h
    · exact .inr (.inl h)
    rename_i accepted hacc
    split at h
    · exact .inr (.inl h)
    rename_i version hversion
    split at h
    · exact .inr (.inl h)
    split at h
    · exact .inr (h ▸ sendRetry_noted s _ _ _ _ _)
    · exact .inr (.inr ⟨_, h, trivial⟩)
    rename_i originalDcid validated retried hvalid
    split at h
    · exact .inr (.inl h)
    rename_i hsize
    split at h
    · exact .inr (.inl h)
    rename_i hdup
    split at h
    · exact .inr (.inl h)
    rename_i o ho
    have hcreates (hs' : s' = s.createConnection o retried src ans) :
        Creates ext cfg s data src ts ans accepted o retried := by
      have hod := originalDcid_chooseIds ho
      refine ⟨hacc, ⟨version, validated, by rw [hod]; exact hvalid, fun hv hmem => hdup ?_⟩,
        Nat.lt_of_not_le hsize, by rw [hod]; exact ho, hresult.trans hs'⟩
      rw [hv, ← hod]
      simpa [AList.mem_keys] using hmem
    split at h
    · exact .inr (.inl h)
    split at h
    · exact .inl ⟨accepted, o, retried, hcreates h⟩
    split at h
    · exact .inr (h ▸ sendRetry_noted s _ _ _ _ _)
    split at h
    · exact .inl ⟨accepted, o, retried, hcreates h⟩
    · exact .inr (.inl h)
  rcases h : ext.decodePacketVersion data with _ | version
  · exact hgo rfl (by simp only [Server.handleNewConnection, h])
  · by_cases hv : (QuicVersion.fromU32 version).any fun v => cfg.quicVersions.contains v
    · exact hgo rfl (by simp only [Server.handleNewConnection, h, hv, if_true])
    · refine .inr (.inr ⟨.versionNegotiation src, ?_, trivial⟩)
      simp only [Server.handleNewConnection, h, hv]
      rfl

theorem sendStatelessReset_edits (s : Server) (routes : SharedRoutes) (data : Bytes)
    (dst : SocketAddr) (ts : ℕ) (ans : Answers) :
    PlainServerEdits cfg s (s.sendStatelessReset ext routes data dst ts ans) := by
  have hlim : PlainServerEdits cfg s { s with limiter := (s.limiter.tryAcquire ts).2 } :=
    .single (.limiter s _)
  unfold Server.sendStatelessReset
  simp only
  split
  · exact hlim
  · split
    · exact hlim
    · split
      · exact hlim.tail (.note _ _ trivial)
      · exact hlim

theorem handleTimer_edits (timers : ConnectionId → Option Answer) (s : Server) (key : ConnectionId) :
    PlainServerEdits cfg s (s.handleTimer timers key) := by
  unfold Server.handleTimer
  split
  · rename_i c ans hc hans
    have hserve : PlainServerEdit cfg s _ :=
      .serve s key c (c.callAndDrain ans.effect) [(.expiry, ans)] hc rfl
    split
    · exact .single hserve
    · split_ifs
      · exact .single hserve
      · exact .tail (.single hserve) (.remove _ key)
  · exact .refl

theorem handleTimers_edits (timers : ConnectionId → Option Answer) (keys : List ConnectionId)
    (s : Server) : PlainServerEdits cfg s (s.handleTimers timers keys) :=
  foldl_edits (handleTimer_edits timers) keys s

end Handlers

/-! ### Lookups after an edit -/

section Lookup

variable {cfg : ServerConfig} {o : Origin} {retried : Bool}

theorem Origin.Chosen.scid_ne_key (ho : o.Chosen cfg retried) :
    o.scid ≠ o.key ↔ o.scid.isEmpty = true := by
  constructor
  · intro hne
    by_contra he
    exact hne (ho.key_eq (by simpa using he)).symm
  · intro he heq
    have hlen := ho.key_len he
    rw [← heq, ConnectionId.isEmpty_iff.mp he] at hlen
    cases hlen

theorem lookup_registerNew (ho : o.Chosen cfg retried) (s : Server) (src : SocketAddr)
    (x : ConnectionId) :
    (s.registerNew o retried src).cidMap.lookup x =
      if x ∈ o.cids then some o.key else s.cidMap.lookup x := by
  have hne := ho.scid_ne_key
  unfold Server.registerNew Origin.cids
  by_cases he : o.scid.isEmpty = true
  · have hk : o.scid ≠ o.key := hne.mpr he
    cases hp : o.preferredAddrCid <;> by_cases hr : retried = true <;>
      by_cases h₁ : x = o.originalDcid <;> simp [he, hk, hr, h₁, Map.lookup_insert_if]
  · have hk : o.scid = o.key := by
      by_contra hk
      exact he (hne.mp hk)
    have he' : o.key.isEmpty = false := by simpa [hk] using he
    cases hp : o.preferredAddrCid <;> by_cases hr : retried = true <;>
      by_cases h₁ : x = o.originalDcid <;> by_cases h₂ : x = o.key <;>
      simp [he', hk, hr, h₁, h₂, Map.lookup_insert_if, Map.lookup_erase_if]

theorem addrMap_registerNew (ho : o.Chosen cfg retried) (s : Server) (src a : SocketAddr) :
    (s.registerNew o retried src).addrMap.lookup a =
      if a = src ∧ o.scid.isEmpty = true then some o.key else s.addrMap.lookup a := by
  have hne := ho.scid_ne_key
  unfold Server.registerNew
  by_cases he : o.scid.isEmpty = true
  · have hk : o.scid ≠ o.key := hne.mpr he
    cases o.preferredAddrCid <;> simp [he, hk, Map.lookup_insert_if]
  · have hk : o.scid = o.key := by
      by_contra hk
      exact he (hne.mp hk)
    have he' : o.key.isEmpty = false := by simpa [hk] using he
    cases o.preferredAddrCid <;> simp [he', hk]

theorem lens_registerNew (s : Server) (o : Origin) (retried : Bool) (src : SocketAddr) {n : ℕ}
    (h : n ∈ s.shortCidLengths ∨ (o.scid ≠ .empty ∧ n = o.scid.len) ∨
      ∃ x, o.preferredAddrCid = some x ∧ n = x.len) :
    n ∈ (s.registerNew o retried src).shortCidLengths := by
  have hscid : n ∈ s.shortCidLengths ∨ (o.scid ≠ .empty ∧ n = o.scid.len) →
      n ∈ if o.scid.isEmpty then s.shortCidLengths else s.shortCidLengths.insert o.scid.len := by
    rintro (h | ⟨hne, hn⟩)
    · split_ifs
      · exact h
      · exact OrdSet.mem_insert.mpr (.inr h)
    · rw [if_neg (fun he => hne (ConnectionId.isEmpty_iff.mp he))]
      exact OrdSet.mem_insert.mpr (.inl hn)
  unfold Server.registerNew
  cases hp : o.preferredAddrCid with
  | none => exact hscid (by simpa [hp] using h)
  | some y =>
    refine OrdSet.mem_insert.mpr ?_
    rcases h with h | h | ⟨x, hx, hn⟩
    · exact .inr (hscid (.inl h))
    · exact .inr (hscid (.inr h))
    · rw [hp] at hx
      cases hx
      exact .inl hn

/-- The CIDs issued while a connection was created. -/
def Answers.issued (ans : Answers) : List ConnectionId :=
  ans.read.effect.issued ++ ans.flush.effect.issued

theorem lookup_createConnection (ho : o.Chosen cfg retried) (s : Server) (src : SocketAddr)
    (ans : Answers) (x : ConnectionId) :
    (s.createConnection o retried src ans).cidMap.lookup x =
      if x ∈ ans.issued ∨ x ∈ o.cids then some o.key else s.cidMap.lookup x := by
  have hreg : (s.createConnection o retried src ans).cidMap =
      ((s.registerNew o retried src).registerCids o.key ans.issued).cidMap := rfl
  rw [hreg, RouteTable.lookup_registerCids, lookup_registerNew ho]
  by_cases h₁ : x ∈ ans.issued <;> simp [h₁]

theorem addrMap_createConnection (ho : o.Chosen cfg retried) (s : Server) (src : SocketAddr)
    (ans : Answers) (a : SocketAddr) :
    (s.createConnection o retried src ans).addrMap.lookup a =
      if a = src ∧ o.scid.isEmpty = true then some o.key else s.addrMap.lookup a := by
  have hreg : (s.createConnection o retried src ans).addrMap =
      ((s.registerNew o retried src).registerCids o.key ans.issued).addrMap := rfl
  rw [hreg, RouteTable.addrMap_registerCids, addrMap_registerNew ho]

theorem mem_lens_createConnection (s : Server) (o : Origin) (retried : Bool) (src : SocketAddr)
    (ans : Answers) (n : ℕ) :
    n ∈ (s.createConnection o retried src ans).shortCidLengths ↔
      n ∈ (s.registerNew o retried src).shortCidLengths ∨ ∃ x ∈ ans.issued, x.len = n :=
  RouteTable.mem_shortCidLengths_registerCids _ _ _ _

/-- The connection that `createConnection` leaves. -/
def newConnection (o : Origin) (ans : Answers) : ServerConnection :=
  (({ origin := o } : ServerConnection).callAndDrain ans.read.effect
    |>.callAndDrain ans.flush.effect).pollIssued

theorem connections_createConnection (s : Server) (o : Origin) (retried : Bool) (src : SocketAddr)
    (ans : Answers) : (s.createConnection o retried src ans).connections =
      s.connections.insert o.key (newConnection o ans) := by
  have hreg : (s.registerNew o retried src).connections = s.connections := by
    unfold Server.registerNew
    cases o.preferredAddrCid <;> rfl
  change (s.registerNew o retried src).connections.insert o.key (newConnection o ans) = _
  rw [hreg]

theorem trace_createConnection (s : Server) (o : Origin) (retried : Bool) (src : SocketAddr)
    (ans : Answers) : (s.createConnection o retried src ans).trace =
      .called o.key .writePackets ans.flush :: .called o.key .read ans.read ::
        .created o retried src :: s.trace := by
  have hreg : (s.registerNew o retried src).trace = s.trace := by
    unfold Server.registerNew
    cases o.preferredAddrCid <;> rfl
  change _ :: _ :: _ :: (s.registerNew o retried src).trace = _
  rw [hreg]

/-- What the hand-over of `key` does to the tables. -/
structure Taken (s : Server) (r : SharedRoutes) (key : ConnectionId) (sender : ℕ) (s' : Server)
    (r' : SharedRoutes) (c : ServerConnection) : Prop where
  found : s.connections.lookup key = some c
  connections_eq : s'.connections = s.connections.erase key
  trace_eq : s'.trace = s.trace
  lens_eq : s'.shortCidLengths = s.shortCidLengths
  cid_iff : ∀ x k, s'.cidMap.lookup x = some k ↔ s.cidMap.lookup x = some k ∧ k ≠ key
  addr_iff : ∀ a k, s'.addrMap.lookup a = some k ↔ s.addrMap.lookup a = some k ∧ k ≠ key
  shared_cid : ∀ x, r'.cidMap.lookup x =
    if s.cidMap.lookup x = some key then some key else r.cidMap.lookup x
  shared_addr : ∀ a, r'.addrMap.lookup a =
    if s.addrMap.lookup a = some key then some key else r.addrMap.lookup a
  shared_lens : ∀ n, n ∈ r'.shortCidLengths ↔
    n ∈ r.shortCidLengths ∨ ∃ x, s.cidMap.lookup x = some key ∧ x.len = n
  senders_eq : r'.senders = r.senders.insert key sender

theorem takeConnection_taken {s s' : Server} {r r' : SharedRoutes} {key : ConnectionId} {n : ℕ}
    {c : ServerConnection} (h : s.takeConnection r key n = some (s', r', c)) :
    Taken s r key n s' r' c := by
  have hcids (x : ConnectionId) : x ∈ s.takenCids key ↔ s.cidMap.lookup x = some key := by
    simp [Server.takenCids, Map.mem_keysWhere]
  have haddrs (a : SocketAddr) : a ∈ s.takenAddrs key ↔ s.addrMap.lookup a = some key := by
    simp [Server.takenAddrs, Map.mem_keysWhere]
  unfold Server.takeConnection at h
  split at h
  · cases h
  · rename_i c' hc
    simp only [Option.some.injEq, Prod.mk.injEq] at h
    obtain ⟨rfl, rfl, rfl⟩ := h
    refine ⟨hc, rfl, rfl, rfl, fun x k => ?_, fun a k => ?_, fun x => ?_, fun a => ?_, fun n => ?_,
      rfl⟩
    · exact RouteTable.lookup_removeRoutes (s.rememberCids (s.takenCids key)) key
    · exact RouteTable.addrMap_removeRoutes (s.rememberCids (s.takenCids key)) key
    · refine (RouteTable.lookup_registerCids r.toRouteTable key (s.takenCids key) x).trans ?_
      simp only [hcids]
    · refine (SharedRoutes.lookup_foldl_insert (s.takenAddrs key) r.addrMap key a).trans ?_
      simp only [haddrs]
    · refine (RouteTable.mem_shortCidLengths_registerCids r.toRouteTable key (s.takenCids key) n).trans ?_
      simp only [hcids]

/-- The connections that stay. -/
theorem Taken.of_lookup {s s' : Server} {r r' : SharedRoutes} {key k : ConnectionId} {n : ℕ}
    {c c' : ServerConnection} (ht : Taken s r key n s' r' c)
    (h : s'.connections.lookup k = some c') : k ≠ key ∧ s.connections.lookup k = some c' := by
  rw [ht.connections_eq] at h
  exact Map.of_lookup_erase h

theorem exists_takeConnection {s : Server} {key : ConnectionId} {c : ServerConnection}
    (h : s.connections.lookup key = some c) (r : SharedRoutes) (n : ℕ) :
    ∃ s' r', s.takeConnection r key n = some (s', r', c) := by
  unfold Server.takeConnection
  rw [h]
  exact ⟨_, _, rfl⟩

end Lookup

/-! ## Edits of the system -/

/-- What a step can do. -/
inductive Edit (cfg : ServerConfig) : World → World → Prop
  | server (w : World) (s : Server) (hs : ServerEdit cfg w.server s) :
      Edit cfg w { w with server := s }
  | note (w : World) (a : Action) (ha : a.IsNote cfg) : Edit cfg w (w.record a)
  | take (w : World) (key : ConnectionId) (s : Server) (r : SharedRoutes) (c : ServerConnection)
      (ht : w.server.takeConnection w.routes key w.nextHandle = some (s, r, c)) :
      Edit cfg w
        { server := s, routes := r
          accepted := w.accepted.insert w.nextHandle { connectionId := key, inner := c }
          nextHandle := w.nextHandle + 1 }
  | unroute (w : World) (key : ConnectionId) (hr : w.receiver key = none) :
      Edit cfg w { w with routes := w.routes.remove key }
  | update (w : World) (h : ℕ) (a a' : AcceptedConnection) (ha : w.accepted.lookup h = some a)
      (hid : a'.connectionId = a.connectionId) (hc : a'.inner.toConnCids = a.inner.toConnCids) :
      Edit cfg w (w.set h a')
  | call (w : World) (h : ℕ) (a a' : AcceptedConnection) (c : NgCall) (ans : Answer)
      (ha : w.accepted.lookup h = some a) (hid : a'.connectionId = a.connectionId)
      (hc : a'.inner.toConnCids = a.inner.toConnCids.call ans.effect) :
      Edit cfg w ((w.set h a').record (.called a.connectionId c ans))
  | sync (w : World) (h : ℕ) (a : AcceptedConnection) (ha : w.accepted.lookup h = some a) :
      Edit cfg w (w.syncRoutes h a)
  | drop (w : World) (h : ℕ) (a : AcceptedConnection) (ha : w.accepted.lookup h = some a) :
      Edit cfg w (w.drop h a)

/-- A chain of edits. -/
abbrev Edits (cfg : ServerConfig) : World → World → Prop := ReflTransGen (Edit cfg)

/-- An edit that creates no connection. -/
def PlainEdit (cfg : ServerConfig) (w w' : World) : Prop :=
  Edit cfg w w' ∧ creations w'.trace = creations w.trace

/-- A chain of them. -/
abbrev PlainEdits (cfg : ServerConfig) : World → World → Prop := ReflTransGen (PlainEdit cfg)

namespace PlainEdit

variable {cfg : ServerConfig} (w : World) (h : ℕ) (a : AcceptedConnection)

theorem server (s : Server) (hs : PlainServerEdit cfg w.server s) :
    PlainEdit cfg w { w with server := s } :=
  ⟨.server w s hs.1, hs.2⟩

theorem note (a : Action) (ha : a.IsNote cfg) : PlainEdit cfg w (w.record a) :=
  ⟨.note w a ha, creations_note ha _⟩

theorem take (key : ConnectionId) (s : Server) (r : SharedRoutes) (c : ServerConnection)
    (ht : w.server.takeConnection w.routes key w.nextHandle = some (s, r, c)) :
    PlainEdit cfg w
      { server := s, routes := r
        accepted := w.accepted.insert w.nextHandle { connectionId := key, inner := c }
        nextHandle := w.nextHandle + 1 } :=
  ⟨.take w key s r c ht, congrArg creations (takeConnection_taken ht).trace_eq⟩

theorem unroute (key : ConnectionId) (hr : w.receiver key = none) :
    PlainEdit cfg w { w with routes := w.routes.remove key } :=
  ⟨.unroute w key hr, rfl⟩

theorem update (a' : AcceptedConnection) (ha : w.accepted.lookup h = some a)
    (hid : a'.connectionId = a.connectionId) (hc : a'.inner.toConnCids = a.inner.toConnCids) :
    PlainEdit cfg w (w.set h a') :=
  ⟨.update w h a a' ha hid hc, rfl⟩

theorem call (a' : AcceptedConnection) (c : NgCall) (ans : Answer)
    (ha : w.accepted.lookup h = some a) (hid : a'.connectionId = a.connectionId)
    (hc : a'.inner.toConnCids = a.inner.toConnCids.call ans.effect) :
    PlainEdit cfg w ((w.set h a').record (.called a.connectionId c ans)) :=
  ⟨.call w h a a' c ans ha hid hc, rfl⟩

theorem sync (ha : w.accepted.lookup h = some a) : PlainEdit cfg w (w.syncRoutes h a) :=
  ⟨.sync w h a ha, rfl⟩

theorem drop (ha : w.accepted.lookup h = some a) : PlainEdit cfg w (w.drop h a) :=
  ⟨.drop w h a ha, rfl⟩

end PlainEdit

theorem PlainEdits.edits {cfg : ServerConfig} {w w' : World} (h : PlainEdits cfg w w') :
    Edits cfg w w' := by
  induction h with
  | refl => exact .refl
  | tail _ hlast ih => exact .tail ih hlast.1

theorem PlainEdits.creations_eq {cfg : ServerConfig} {w w' : World} (h : PlainEdits cfg w w') :
    creations w'.trace = creations w.trace := by
  induction h with
  | refl => rfl
  | tail _ hlast ih => exact hlast.2.trans ih

section Steps

variable {ext : External} {cfg : ServerConfig}

theorem edits_server {w : World} {s : Server} (hs : PlainServerEdits cfg w.server s) :
    PlainEdits cfg w { w with server := s } := by
  induction hs with
  | refl => exact .refl
  | tail _ hlast ih => exact .tail ih (.server _ _ hlast)

@[simp] theorem lookup_set (w : World) (h : ℕ) (a : AcceptedConnection) :
    (w.set h a).accepted.lookup h = some a := AList.lookup_insert _

@[simp] theorem lookup_call (w : World) (h : ℕ) (a : AcceptedConnection) (c : NgCall)
    (ans : Answer) : (w.call h a c ans).accepted.lookup h = some (a.called ans) :=
  AList.lookup_insert _

@[simp] theorem lookup_syncRoutes (w : World) (h : ℕ) (a : AcceptedConnection) :
    (w.syncRoutes h a).accepted.lookup h = some a.polled := AList.lookup_insert _

theorem deliver_edits (w : World) (key : ConnectionId) (d : InboundDatagram) :
    PlainEdits cfg w (w.deliver key d) := by
  unfold World.deliver
  split
  · rename_i hr
    exact .single (.unroute w key hr)
  · split
    · exact .refl
    · rename_i a ha
      split
      · exact .single (.update w _ a _ ha rfl rfl)
      · exact .refl

theorem exists_of_existingKey {s : Server} {data : Bytes} {src : SocketAddr} {key : ConnectionId}
    (h : s.existingKey data src = some key) :
    (∃ x, s.cidMap.lookup x = some key) ∨ ∃ a, s.addrMap.lookup a = some key := by
  unfold Server.existingKey at h
  cases hr : resolveDcid s.cidMap s.shortCidLengths data with
  | some k =>
    rw [hr] at h
    cases h
    exact .inl (exists_of_resolveDcid hr)
  | none =>
    rw [hr, Option.orElse_none] at h
    split_ifs at h
    exact .inr ⟨src, h⟩

/-- The datagram reached `handle_new_connection`: neither its DCID nor, for the shared table, its
address is known. -/
structure Unknown (w : World) (d : InboundDatagram) : Prop where
  long : isLongHeader d.data = true
  server : w.server.existingKey d.data d.src = none
  shared : w.routes.resolve d.data d.src = none

theorem handleDatagram_known {w : World} {d : InboundDatagram} (hno : ¬ Unknown w d) (ts : ℕ)
    (ans : Answers) : PlainEdits cfg w (w.handleDatagram ext cfg d ts ans) := by
  unfold World.handleDatagram
  split
  · rename_i key hkey
    exact edits_server (handleExistingConnection_edits ans (exists_of_existingKey hkey))
  · rename_i hserver
    split
    · exact deliver_edits w _ d
    · rename_i hshared
      split
      · rename_i hlong
        exact absurd ⟨hlong, hserver, hshared⟩ hno
      · exact edits_server (sendStatelessReset_edits _ _ _ _ _ _)

section Unknown

variable {w : World} {d : InboundDatagram} {ts : ℕ} {ans : Answers} {accepted : AcceptedInitial}
  {o : Origin} {retried : Bool}

theorem Unknown.handleDatagram_eq (hu : Unknown w d) : w.handleDatagram ext cfg d ts ans =
    { w with server := w.server.handleNewConnection ext cfg d.data d.src ts ans } := by
  unfold World.handleDatagram
  rw [hu.server, hu.shared]
  simp only
  rw [if_pos hu.long]

theorem Unknown.handleDatagram_creates (hu : Unknown w d)
    (hc : Creates ext cfg w.server d.data d.src ts ans accepted o retried) :
    w.handleDatagram ext cfg d ts ans =
      { w with server := w.server.createConnection o retried d.src ans } := by
  rw [hu.handleDatagram_eq, hc.result]

end Unknown

theorem accept_edits (w : World) (key : ConnectionId) : PlainEdits cfg w (w.accept key) := by
  unfold World.accept
  split
  · exact .refl
  · rename_i c hc
    split
    · split
      · rename_i ht
        obtain ⟨s, r, h⟩ := exists_takeConnection hc w.routes w.nextHandle
        cases ht.symm.trans h
      · rename_i s r inner ht
        exact .single (.take w key s r inner ht)
    · exact .refl

/-! ### Operations of a handle -/

variable {w : World} {h : ℕ} {a : AcceptedConnection}

theorem returned_edits (a' : AcceptedConnection) (ha : w.accepted.lookup h = some a)
    (hid : a'.connectionId = a.connectionId) (hc : a'.inner.toConnCids = a.inner.toConnCids)
    (key : ConnectionId) (result : Except Error ConnectionEvent) :
    PlainEdits cfg w ((w.set h a').record (.returned key result)) :=
  .tail (.single (.update w h a a' ha hid hc)) (.note _ (.returned key result) trivial)

theorem returnError_edits (ha : w.accepted.lookup h = some a) (err : Error) :
    PlainEdits cfg w (w.returnError h a err) :=
  returned_edits { a with pc := .idle } ha rfl rfl _ _

theorem returnEvent_edits (a' : AcceptedConnection) (ha : w.accepted.lookup h = some a)
    (hid : a'.connectionId = a.connectionId) (hc : a'.inner.toConnCids = a.inner.toConnCids)
    (err : Error) : PlainEdits cfg w (w.returnEvent h a' err) := by
  unfold World.returnEvent
  split
  · rename_i event events _
    exact returned_edits { a' with inner := { a'.inner with events }, pc := .idle } ha hid hc _ _
  · exact returned_edits { a' with pc := .idle } ha hid hc _ _

theorem toConnCids_pushConnectionClosed (c : ServerConnection) :
    c.pushConnectionClosed.toConnCids = c.toConnCids := by
  unfold ServerConnection.pushConnectionClosed
  split <;> rfl

theorem returnClosed_edits (ha : w.accepted.lookup h = some a) (err : Error) :
    PlainEdits cfg w (w.returnClosed h a err) := by
  have hc := toConnCids_pushConnectionClosed a.inner
  exact returnEvent_edits { a with inner := a.inner.pushConnectionClosed } ha rfl hc err

theorem call_edits (ha : w.accepted.lookup h = some a) (c : NgCall) (ans : Answer) :
    PlainEdits cfg w (w.call h a c ans) :=
  .single (.call w h a _ c ans ha rfl rfl)

theorem recvLoop_edits (ha : w.accepted.lookup h = some a) (queueOpen : Bool) (flush : Answer) :
    PlainEdits cfg w (w.recvLoop h a queueOpen flush) := by
  unfold World.recvLoop
  split
  · exact returnEvent_edits a ha rfl rfl _
  split
  · exact returnClosed_edits ha _
  split
  · exact (call_edits ha _ _).trans (returnError_edits (lookup_call ..) _)
  · exact (call_edits ha _ _).tail (.update _ h _ _ (lookup_call ..) rfl rfl)

theorem readDatagram_edits (ha : w.accepted.lookup h = some a) (queueOpen : Bool)
    (read flush : Answer) : PlainEdits cfg w (w.readDatagram h a queueOpen read flush) := by
  unfold World.readDatagram
  split
  · exact (call_edits ha _ _).trans (returnError_edits (lookup_call ..) _)
  · exact ((call_edits ha _ _).tail (.sync _ h _ (lookup_call ..))).trans
      (recvLoop_edits (lookup_syncRoutes ..) _ _)

theorem sent_edits (ha : w.accepted.lookup h = some a) : PlainEdits cfg w (w.sent h a) := by
  have hsync : PlainEdits cfg w (w.syncRoutes h a) := .single (.sync w h a ha)
  unfold World.sent
  split
  · exact hsync.tail (.update _ h _ _ (lookup_syncRoutes ..) rfl rfl)
  · split
    · exact hsync.trans (returnEvent_edits a.polled (lookup_syncRoutes ..) rfl rfl _)
    · exact hsync.tail (.update _ h _ _ (lookup_syncRoutes ..) rfl rfl)
  · exact .refl

theorem handleReceivedDatagram_edits (ha : w.accepted.lookup h = some a) (queueOpen : Bool)
    (d : InboundDatagram) (read flush : Answer) :
    PlainEdits cfg w (w.handleReceivedDatagram h a queueOpen d read flush) := by
  unfold World.handleReceivedDatagram
  split
  · split
    · rename_i a' ha'
      exact (deliver_edits w _ d).trans (recvLoop_edits ha' _ _)
    · exact deliver_edits w _ d
  · exact readDatagram_edits ha _ _ _

theorem flush_edits (ha : w.accepted.lookup h = some a) (ans : Answer) :
    PlainEdits cfg w (w.flush h a ans) := by
  unfold World.flush
  split
  · exact call_edits ha _ _
  · exact (call_edits ha _ _).tail (.update _ h _ _ (lookup_call ..) rfl rfl)

theorem recvEvent_edits (ha : w.accepted.lookup h = some a) (flush : Answer) :
    PlainEdits cfg w (w.recvEvent h a flush) := by
  unfold World.recvEvent
  split
  · exact returnEvent_edits a ha rfl rfl _
  split
  · exact returnClosed_edits ha _
  · exact recvLoop_edits ha _ _

theorem sendDatagram_edits (ha : w.accepted.lookup h = some a) (datagram : Answer)
    (control : Option Answer) : PlainEdits cfg w (w.sendDatagram h a datagram control) := by
  unfold World.sendDatagram
  have hcall : PlainEdits cfg w _ := .single
    (.call w h a { a with inner := a.inner.call datagram.effect } .writeDatagram datagram ha rfl rfl)
  split
  · exact hcall
  · exact hcall.tail (.call _ h { a with inner := a.inner.call datagram.effect } _ .writePackets _
      (lookup_set ..) rfl rfl)

theorem close_edits (ha : w.accepted.lookup h = some a) (ans : Answer) (cancelled : Bool) :
    PlainEdits cfg w (w.close h a ans cancelled) := by
  unfold World.close
  have hcall : PlainEdits cfg w _ := .single
    (.call w h a { a with inner := a.inner.call ans.effect } .close ans ha rfl rfl)
  split
  · exact .refl
  split
  · exact hcall
  · exact hcall.tail (.update _ h _ _ (lookup_set ..) rfl rfl)

theorem recvInbound_edits (ha : w.accepted.lookup h = some a) (read flush : Answer) :
    PlainEdits cfg w (w.recvInbound h a read flush) := by
  unfold World.recvInbound
  split
  · rename_i inbound hin
    have hpop : PlainEdits cfg w _ := .single (.update w h a { a with inbound } ha rfl rfl)
    exact hpop.trans (readDatagram_edits (lookup_set ..) _ _ _)
  · split
    · exact .refl
    · exact recvLoop_edits ha _ _

theorem recvTimer_edits (ha : w.accepted.lookup h = some a) (queueOpen : Bool)
    (expiry flush : Answer) : PlainEdits cfg w (w.recvTimer h a queueOpen expiry flush) := by
  unfold World.recvTimer
  split
  · exact (call_edits ha _ _).trans (returnClosed_edits (lookup_call ..) _)
  · exact (call_edits ha _ _).trans (recvLoop_edits (lookup_call ..) _ _)

theorem stepOp_edits (ha : w.accepted.lookup h = some a) (op : Op) :
    PlainEdits cfg w (w.stepOp h a op) := by
  unfold World.stepOp
  split
  · exact flush_edits ha _
  · exact recvEvent_edits ha _
  · exact sendDatagram_edits ha _ _
  · exact close_edits ha _ _
  · exact .single (.update w h a _ ha rfl rfl)
  · exact sent_edits ha
  · exact sent_edits ha
  · exact recvInbound_edits ha _ _
  · exact handleReceivedDatagram_edits ha _ _ _ _
  · exact returnError_edits ha _
  · exact recvTimer_edits ha _ _ _
  · exact .single (.update w h a _ ha rfl rfl)
  · exact .refl

end Steps

/-- **What a step can do.** It is a chain of edits that create no connection, or it is an Initial
that creates one. -/
theorem step_cases (ext : External) (cfg : ServerConfig) (w : World) (l : Label) :
    PlainEdits cfg w (w.step ext cfg l) ∨
    ∃ d ts ans accepted o retried, l = .datagram d ts ans ∧ Unknown w d ∧
      Creates ext cfg w.server d.data d.src ts ans accepted o retried ∧
      w.step ext cfg l = { w with server := w.server.createConnection o retried d.src ans } := by
  cases l with
  | removeClosed => exact .inl (edits_server (removeClosedConnections_edits _))
  | accept key => exact .inl (accept_edits w key)
  | datagram d ts ans =>
    by_cases hu : Unknown w d
    · have hstep : w.step ext cfg (.datagram d ts ans) = _ := hu.handleDatagram_eq
      obtain ⟨accepted, o, retried, hc⟩ | heq | ⟨a, heq, ha⟩ :=
        @handleNewConnection_cases ext cfg w.server d.data d.src ts ans
      · exact .inr ⟨d, ts, ans, accepted, o, retried, rfl, hu, hc, hu.handleDatagram_creates hc⟩
      · rw [hstep, heq]
        exact .inl .refl
      · rw [hstep, heq]
        exact .inl (edits_server (.single (.note w.server a ha)))
    · exact .inl (handleDatagram_known hu ts ans)
  | timers keys timers => exact .inl (edits_server (handleTimers_edits _ _ _))
  | op h op =>
    simp only [World.step]
    split
    · rename_i a ha
      exact .inl (stepOp_edits ha op)
    · exact .inl .refl
  | drop h =>
    simp only [World.step]
    split
    · rename_i a ha
      exact .inl (.single (.drop w h a ha))
    · exact .inl .refl

/-- **A step is a chain of edits.** -/
theorem step_edits (ext : External) (cfg : ServerConfig) (w : World) (l : Label) :
    Edits cfg w (w.step ext cfg l) := by
  obtain hplain | ⟨d, ts, ans, accepted, o, retried, -, -, hc, heq⟩ := step_cases ext cfg w l
  · exact hplain.edits
  · rw [heq]
    exact .single (.server w _ (.create _ o retried d.src ans hc.size (chosen_chooseIds hc.ids)))

/-- A run is a chain of edits. -/
theorem run_edits (ext : External) (cfg : ServerConfig) : ∀ (ls : List Label) (w : World),
    Edits cfg w (run (World.step ext cfg) w ls)
  | [], _ => .refl
  | l :: ls, w => (step_edits ext cfg w l).trans (run_edits ext cfg ls _)

/-- **Invariant rule for edits.** What holds at the start and is kept by every edit holds after every
run. -/
theorem edits_invariant {ext : External} {cfg : ServerConfig} {I : World → Prop}
    (hinit : I (.init cfg)) (hedit : ∀ w w', Edit cfg w w' → I w → I w') (ls : List Label) :
    I (run (World.step ext cfg) (.init cfg) ls) := by
  have hchain {w : World} (he : Edits cfg (.init cfg) w) : I w := by
    induction he with
    | refl => exact hinit
    | tail _ hlast ih => exact hedit _ _ hlast ih
  exact hchain (run_edits ext cfg ls (.init cfg))

end Ngtcp2Rs
