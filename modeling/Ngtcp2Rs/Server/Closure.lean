import Ngtcp2Rs.Server.Edits

/-!
# Closure of the routing tables

No route leads to a connection that is not there.

* `Server.Closed`: the server's routes lead to its connections, there are at most `maxConnections`
  of them, and the lengths of the CIDs the server chose are tried for short headers.
* `Named`: as long as no key was given twice, a live handle is alone with its key and its queue is
  registered.
* `tables_closed`: both, after every run.
-/

namespace Ngtcp2Rs

open Lib

/-! ## The server's tables -/

/-- The original DCIDs of the connections that were created. -/
def originalDcids (trace : List Action) : List ConnectionId :=
  trace.filterMap fun
    | .created o _ _ => some o.originalDcid
    | _ => none

/-- The CIDs that the server chose for a connection and has taken note of. -/
def ConnCids.chosen (c : ConnCids) : List ConnectionId :=
  c.origin.scid :: c.origin.preferredAddrCid.toList ++ c.issuedPolled

/-- The server's routes lead to its connections. -/
structure Server.Closed (s : Server) : Prop where
  cid_mem : ∀ x k, s.cidMap.lookup x = some k → k ∈ s.connections
  addr_mem : ∀ a k, s.addrMap.lookup a = some k → k ∈ s.connections
  size_le : s.connections.size ≤ maxConnections
  len_mem : ∀ x k, s.cidMap.lookup x = some k →
    x.len ∈ s.shortCidLengths ∨ x ∈ originalDcids s.trace
  chosen_mem : ∀ k c, s.connections.lookup k = some c →
    ∀ x ∈ c.chosen, x ≠ .empty → x.len ∈ s.shortCidLengths
  created_mem : ∀ o retried src, .created o retried src ∈ s.trace →
    ∀ x ∈ o.scid :: o.preferredAddrCid.toList, x ≠ .empty → x.len ∈ s.shortCidLengths
  not_missing : ∀ k, .missingKey k ∉ s.trace
  not_panicked : .panicked ∉ s.trace

namespace Server.Closed

variable {cfg : ServerConfig} {s : Server}

theorem bind (cfg : ServerConfig) : (Server.bind cfg).Closed where
  cid_mem x k h := by cases h
  addr_mem a k h := by cases h
  size_le := Nat.zero_le _
  len_mem x k h := by cases h
  chosen_mem k c h := by cases h
  created_mem o retried src h := by cases h
  not_missing k h := by cases h
  not_panicked h := by cases h

theorem record (hs : s.Closed) {a : Action} (hc : ∀ o retried src, a ≠ .created o retried src)
    (hm : ∀ k, a ≠ .missingKey k) (hp : a ≠ .panicked) : (s.record a).Closed where
  cid_mem := hs.cid_mem
  addr_mem := hs.addr_mem
  size_le := hs.size_le
  len_mem x k h := (hs.len_mem x k h).imp_right fun hx =>
    (List.sublist_cons_self a s.trace).filterMap _ |>.subset hx
  chosen_mem := hs.chosen_mem
  created_mem o retried src h := by
    rcases List.mem_cons.mp h with h | h
    · exact absurd h.symm (hc o retried src)
    · exact hs.created_mem o retried src h
  not_missing k h := by
    rcases List.mem_cons.mp h with h | h
    · exact hm k h.symm
    · exact hs.not_missing k h
  not_panicked h := by
    rcases List.mem_cons.mp h with h | h
    · exact hp h.symm
    · exact hs.not_panicked h

theorem note (hs : s.Closed) {a : Action} (ha : a.IsNote cfg) : (s.record a).Closed :=
  hs.record (by rintro o retried src rfl; exact ha) (by rintro k rfl; exact ha)
    (by rintro rfl; exact ha)

theorem called (hs : s.Closed) (key : ConnectionId) (call : NgCall) (ans : Answer) :
    (s.record (.called key call ans)).Closed :=
  hs.record (fun _ _ _ h => by cases h) (fun _ h => by cases h) (fun h => by cases h)

theorem remove (hs : s.Closed) (key : ConnectionId) : (s.removeConnection key).Closed where
  cid_mem x k h := by
    obtain ⟨h, hne⟩ := RouteTable.lookup_removeRoutes _ _ |>.mp h
    exact AList.mem_erase.mpr ⟨hne, hs.cid_mem x k h⟩
  addr_mem a k h := by
    obtain ⟨h, hne⟩ := RouteTable.addrMap_removeRoutes _ _ |>.mp h
    exact AList.mem_erase.mpr ⟨hne, hs.addr_mem a k h⟩
  size_le := le_trans (Map.size_erase_le _ _) hs.size_le
  len_mem x k h := hs.len_mem x k (RouteTable.lookup_removeRoutes _ _ |>.mp h).1
  chosen_mem k c h := hs.chosen_mem k c (Map.of_lookup_erase h).2
  created_mem := hs.created_mem
  not_missing := hs.not_missing
  not_panicked := hs.not_panicked

theorem originalDcids_called (key : ConnectionId) (calls : List (NgCall × Answer))
    (trace : List Action) :
    originalDcids ((calls.map fun call => Action.called key call.1 call.2).reverse ++ trace) =
      originalDcids trace := by
  unfold originalDcids
  rw [List.filterMap_append, List.filterMap_eq_nil_iff.mpr, List.nil_append]
  intro a ha
  obtain ⟨call, ans, rfl⟩ := mem_called ha
  rfl

theorem serve (hs : s.Closed) {key : ConnectionId} {c c₁ : ServerConnection}
    {calls : List (NgCall × Answer)} (hkey : s.connections.lookup key = some c)
    (hcids : c₁.toConnCids = c.toConnCids.callAll calls) :
    ((s.recordCalls key calls).pollCids key c₁).Closed := by
  have hmem : key ∈ s.connections := Map.mem_iff_lookup.mpr ⟨c, hkey⟩
  have htable := toRouteTable_served s key calls c₁
  have hconn := connections_served s key calls c₁
  have hlens : ((s.recordCalls key calls).pollCids key c₁).shortCidLengths =
      (s.registerCids key c₁.issuedCids).shortCidLengths := by
    rw [htable, RouteTable.shortCidLengths_retireCids]
  -- a route is one of a CID that was just issued, or it was there
  have hroute (x k : ConnectionId)
      (h : ((s.recordCalls key calls).pollCids key c₁).cidMap.lookup x = some k) :
      (k = key ∧ x ∈ c₁.issuedCids) ∨ s.cidMap.lookup x = some k := by
    rw [htable] at h
    by_cases hk : k = key
    · subst hk
      exact ((RouteTable.lookup_polled_self _ _ _ _ _).mp h).1.imp_left fun hx => ⟨rfl, hx⟩
    · exact .inr ((RouteTable.lookup_polled_ne _ _ hk _ _ _).mp h).2
  refine ⟨fun x k h => ?_, fun a k h => ?_, ?_, fun x k h => ?_, fun k c' h x hx hne => ?_,
    fun o retried src h x hx hne => ?_, fun k h => ?_, fun h => ?_⟩
  · rw [hconn, AList.mem_insert]
    exact (hroute x k h).imp And.left (hs.cid_mem x k)
  · rw [htable, RouteTable.addrMap_retireCids, RouteTable.addrMap_registerCids] at h
    rw [hconn, AList.mem_insert]
    exact .inr (hs.addr_mem a k h)
  · rw [hconn, Map.size_insert_of_mem hmem]
    exact hs.size_le
  · rw [hlens, trace_served, originalDcids_called, RouteTable.mem_shortCidLengths_registerCids]
    rcases hroute x k h with ⟨-, hx⟩ | h
    · exact .inl (.inr ⟨x, hx, rfl⟩)
    · exact (hs.len_mem x k h).imp_left .inl
  · rw [hlens, RouteTable.mem_shortCidLengths_registerCids]
    rw [hconn] at h
    rcases Map.of_lookup_insert h with ⟨-, rfl⟩ | ⟨-, h⟩
    · have hpoll : c₁.pollCids.chosen =
          c.origin.scid :: c.origin.preferredAddrCid.toList ++ (c.issuedPolled ++ c₁.issuedCids) := by
        simp [ConnCids.chosen, ServerConnection.pollCids, ConnCids.pollIssued, ConnCids.pollRetired,
          hcids]
      rw [hpoll, ← List.append_assoc, List.mem_append] at hx
      rcases hx with hx | hx
      · exact .inl (hs.chosen_mem key c hkey x hx hne)
      · exact .inr ⟨x, hx, rfl⟩
    · exact .inl (hs.chosen_mem k c' h x hx hne)
  · rw [hlens, RouteTable.mem_shortCidLengths_registerCids]
    rcases mem_trace_served h with ⟨_, _, h⟩ | h
    · cases h
    · exact .inl (hs.created_mem o retried src h x hx hne)
  · rcases mem_trace_served h with ⟨_, _, h⟩ | h
    · cases h
    · exact hs.not_missing k h
  · rcases mem_trace_served h with ⟨_, _, h⟩ | h
    · cases h
    · exact hs.not_panicked h

theorem setCall (hs : s.Closed) {key : ConnectionId} {c : ServerConnection} (e : Effect)
    (hkey : s.connections.lookup key = some c) : (s.setConnection key (c.call e)).Closed where
  cid_mem x k h := (AList.mem_insert _).mpr (.inr (hs.cid_mem x k h))
  addr_mem a k h := (AList.mem_insert _).mpr (.inr (hs.addr_mem a k h))
  size_le := by
    have hmem : key ∈ s.connections := Map.mem_iff_lookup.mpr ⟨c, hkey⟩
    exact (Map.size_insert_of_mem hmem _).trans_le hs.size_le
  len_mem := hs.len_mem
  chosen_mem k c' h x hx hne := by
    rcases Map.of_lookup_insert h with ⟨-, rfl⟩ | ⟨-, h⟩
    · exact hs.chosen_mem key c hkey x hx hne
    · exact hs.chosen_mem k c' h x hx hne
  created_mem := hs.created_mem
  not_missing := hs.not_missing
  not_panicked := hs.not_panicked

/-- A CID of a new connection is one the server chose, or the original DCID. -/
theorem cids_len {o : Origin} {x : ConnectionId} (hx : x ∈ o.cids) :
    ((o.scid ≠ .empty ∧ x.len = o.scid.len) ∨ ∃ y, o.preferredAddrCid = some y ∧ x.len = y.len) ∨
      x = o.originalDcid := by
  unfold Origin.cids at hx
  rcases List.mem_append.mp hx with hx | hx
  · split_ifs at hx with he
    · cases hx
    · cases List.mem_singleton.mp hx
      exact .inl (.inl ⟨fun h => he (ConnectionId.isEmpty_iff.mpr h), rfl⟩)
  · rcases List.mem_cons.mp hx with hx | hx
    · exact .inr hx
    · exact .inl (.inr ⟨x, by simpa using hx, rfl⟩)

theorem create (hs : s.Closed) {o : Origin} {retried : Bool} (src : SocketAddr) (ans : Answers)
    (hsize : s.connections.size < maxConnections) (ho : o.Chosen cfg retried) :
    (s.createConnection o retried src ans).Closed := by
  have hconn := connections_createConnection s o retried src ans
  have htrace := trace_createConnection s o retried src ans
  -- the lengths of what the server chose itself are entered
  have hchosen {x : ConnectionId} (hx : x ∈ o.scid :: o.preferredAddrCid.toList) (hne : x ≠ .empty) :
      x.len ∈ (s.registerNew o retried src).shortCidLengths := by
    refine lens_registerNew s o retried src (.inr ?_)
    rcases List.mem_cons.mp hx with rfl | hx
    · exact .inl ⟨hne, rfl⟩
    · exact .inr ⟨x, by simpa using hx, rfl⟩
  refine ⟨fun x k h => ?_, fun a k h => ?_, ?_, fun x k h => ?_, fun k c h x hx hne => ?_,
    fun o' retried' src' h x hx hne => ?_, fun k h => ?_, fun h => ?_⟩
  · rw [lookup_createConnection ho] at h
    rw [hconn, AList.mem_insert]
    split_ifs at h
    · cases h
      exact .inl rfl
    · exact .inr (hs.cid_mem x k h)
  · rw [addrMap_createConnection ho] at h
    rw [hconn, AList.mem_insert]
    split_ifs at h
    · cases h
      exact .inl rfl
    · exact .inr (hs.addr_mem a k h)
  · rw [hconn]
    exact le_trans (Map.size_insert_le _ _ _) hsize
  · rw [lookup_createConnection ho] at h
    rw [mem_lens_createConnection, htrace]
    have hod : originalDcids (Action.called o.key .writePackets ans.flush ::
        .called o.key .read ans.read :: .created o retried src :: s.trace) =
          o.originalDcid :: originalDcids s.trace := rfl
    rw [hod]
    split_ifs at h with hx
    · rcases hx with hx | hx
      · exact .inl (.inr ⟨x, hx, rfl⟩)
      · rcases cids_len hx with hx | rfl
        · exact .inl (.inl (lens_registerNew s o retried src (.inr hx)))
        · exact .inr List.mem_cons_self
    · exact (hs.len_mem x k h).imp (fun h => .inl (lens_registerNew s o retried src (.inl h)))
        (List.mem_cons_of_mem _)
  · rw [hconn] at h
    rw [mem_lens_createConnection]
    rcases Map.of_lookup_insert h with ⟨-, rfl⟩ | ⟨-, h⟩
    · rcases List.mem_append.mp (show x ∈ (o.scid :: o.preferredAddrCid.toList) ++ ans.issued from hx)
        with hx | hx
      · exact .inl (hchosen hx hne)
      · exact .inr ⟨x, hx, rfl⟩
    · exact .inl (lens_registerNew s o retried src (.inl (hs.chosen_mem k c h x hx hne)))
  · rw [htrace] at h
    simp only [List.mem_cons, reduceCtorEq, false_or, Action.created.injEq] at h
    rw [mem_lens_createConnection]
    rcases h with ⟨rfl, rfl, rfl⟩ | h
    · exact .inl (hchosen hx hne)
    · exact .inl (lens_registerNew s o retried src (.inl (hs.created_mem _ _ _ h x hx hne)))
  · rw [htrace] at h
    simp only [List.mem_cons, reduceCtorEq, false_or] at h
    exact hs.not_missing k h
  · rw [htrace] at h
    simp only [List.mem_cons, reduceCtorEq, false_or] at h
    exact hs.not_panicked h

theorem take (hs : s.Closed) {s' : Server} {r r' : SharedRoutes} {key : ConnectionId} {n : ℕ}
    {c : ServerConnection} (ht : Taken s r key n s' r' c) : s'.Closed := by
  refine ⟨fun x k h => ?_, fun a k h => ?_, ?_, fun x k h => ?_, fun k c' h => ?_,
    fun o retried src h => ?_, fun k h => ?_, fun h => ?_⟩
  · obtain ⟨h, hne⟩ := (ht.cid_iff x k).mp h
    rw [ht.connections_eq]
    exact AList.mem_erase.mpr ⟨hne, hs.cid_mem x k h⟩
  · obtain ⟨h, hne⟩ := (ht.addr_iff a k).mp h
    rw [ht.connections_eq]
    exact AList.mem_erase.mpr ⟨hne, hs.addr_mem a k h⟩
  · rw [ht.connections_eq]
    exact le_trans (Map.size_erase_le _ _) hs.size_le
  · rw [ht.lens_eq, ht.trace_eq]
    exact hs.len_mem x k ((ht.cid_iff x k).mp h).1
  · rw [ht.lens_eq]
    exact hs.chosen_mem k c' (ht.of_lookup h).2
  · rw [ht.lens_eq]
    exact hs.created_mem o retried src (ht.trace_eq ▸ h)
  · exact hs.not_missing k (ht.trace_eq ▸ h)
  · exact hs.not_panicked (ht.trace_eq ▸ h)

/-- **The server's tables stay closed.** -/
theorem edit (hs : s.Closed) {s' : Server} (he : ServerEdit cfg s s') : s'.Closed := by
  cases he with
  | note a ha => exact hs.note ha
  | limiter l => exact ⟨hs.1, hs.2, hs.3, hs.4, hs.5, hs.6, hs.7, hs.8⟩
  | missing key hkey hroute =>
    have hmem : key ∈ s.connections := by
      rcases hroute with ⟨x, hx⟩ | ⟨a, ha⟩
      · exact hs.cid_mem x key hx
      · exact hs.addr_mem a key ha
    exact absurd hmem (AList.lookup_eq_none.mp hkey)
  | remove key => exact hs.remove key
  | serve key c c₁ calls hkey hcids => exact hs.serve hkey hcids
  | close key c ans hkey =>
    exact (hs.setCall ans.effect hkey).called key .close ans
  | create o retried src ans hsize ho => exact hs.create src ans hsize ho

end Server.Closed

/-- A length that was entered stays. -/
theorem ServerEdit.lens_mono {cfg : ServerConfig} {s s' : Server} (he : ServerEdit cfg s s') {n : ℕ}
    (hn : n ∈ s.shortCidLengths) : n ∈ s'.shortCidLengths := by
  cases he with
  | serve key c c₁ calls hkey hcids =>
    have hlens : ((s.recordCalls key calls).pollCids key c₁).shortCidLengths =
        (s.registerCids key c₁.issuedCids).shortCidLengths := by
      rw [toRouteTable_served, RouteTable.shortCidLengths_retireCids]
    rw [hlens, RouteTable.mem_shortCidLengths_registerCids]
    exact .inl hn
  | create o retried src ans hsize ho =>
    rw [mem_lens_createConnection]
    exact .inl (lens_registerNew s o retried src (.inl hn))
  | _ => exact hn

/-! ## Keys -/

/-- The keys of the connections that were created. -/
def createdKeys (trace : List Action) : List ConnectionId :=
  trace.filterMap fun
    | .created o _ _ => some o.key
    | _ => none

theorem createdKeys_append_called (key : ConnectionId) (calls : List (NgCall × Answer))
    (trace : List Action) :
    createdKeys ((calls.map fun call => Action.called key call.1 call.2).reverse ++ trace) =
      createdKeys trace := by
  unfold createdKeys
  rw [List.filterMap_append, List.filterMap_eq_nil_iff.mpr, List.nil_append]
  intro a ha
  obtain ⟨call, ans, rfl⟩ := mem_called ha
  rfl

theorem createdKeys_note {cfg : ServerConfig} {a : Action} (ha : a.IsNote cfg)
    (trace : List Action) : createdKeys (a :: trace) = createdKeys trace := by
  cases a <;> first | rfl | exact ha.elim

/-- What an edit of the server does to the keys. -/
theorem ServerEdit.keys {cfg : ServerConfig} {s s' : Server} (he : ServerEdit cfg s s') :
    (createdKeys s'.trace = createdKeys s.trace ∧ ∀ k ∈ s'.connections, k ∈ s.connections) ∨
    ∃ o : Origin, createdKeys s'.trace = o.key :: createdKeys s.trace ∧
      ∀ k ∈ s'.connections, k = o.key ∨ k ∈ s.connections := by
  cases he with
  | note a ha => exact .inl ⟨createdKeys_note ha _, fun k hk => hk⟩
  | limiter l => exact .inl ⟨rfl, fun k hk => hk⟩
  | missing key hkey hroute => exact .inl ⟨rfl, fun k hk => hk⟩
  | remove key => exact .inl ⟨rfl, fun k hk => (AList.mem_erase.mp hk).2⟩
  | serve key c c₁ calls hkey hcids =>
    refine .inl ⟨?_, fun k hk => ?_⟩
    · rw [trace_served, createdKeys_append_called]
    · rw [connections_served, AList.mem_insert] at hk
      rcases hk with rfl | hk
      · exact Map.mem_iff_lookup.mpr ⟨c, hkey⟩
      · exact hk
  | close key c ans hkey =>
    refine .inl ⟨rfl, fun k hk => ?_⟩
    rcases (AList.mem_insert _).mp hk with rfl | hk
    · exact Map.mem_iff_lookup.mpr ⟨c, hkey⟩
    · exact hk
  | create o retried src ans hsize ho =>
    refine .inr ⟨o, ?_, fun k hk => ?_⟩
    · rw [trace_createConnection]
      rfl
    · rw [connections_createConnection, AList.mem_insert] at hk
      exact hk

/-- A live handle is alone with its key, and its queue is registered. -/
structure Named (w : World) : Prop where
  server_created : ∀ k ∈ w.server.connections, k ∈ createdKeys w.trace
  accepted_created : ∀ h a, w.accepted.lookup h = some a → a.connectionId ∈ createdKeys w.trace
  accepted_not_server : ∀ h a, w.accepted.lookup h = some a → a.connectionId ∉ w.server.connections
  accepted_inj : ∀ h h' a a', w.accepted.lookup h = some a → w.accepted.lookup h' = some a' →
    a.connectionId = a'.connectionId → h = h'
  sender : ∀ h a, w.accepted.lookup h = some a → w.routes.senders.lookup a.connectionId = some h
  handle_lt : ∀ h a, w.accepted.lookup h = some a → h < w.nextHandle
  sender_created : ∀ k ∈ w.routes.senders, k ∈ createdKeys w.trace
  sender_not_server : ∀ k ∈ w.routes.senders, k ∉ w.server.connections

namespace Named

variable {cfg : ServerConfig} {w : World}

theorem init (cfg : ServerConfig) : Named (.init cfg) where
  server_created k h := by cases h
  accepted_created h a ha := by cases ha
  accepted_not_server h a ha := by cases ha
  accepted_inj h h' a a' ha := by cases ha
  sender h a ha := by cases ha
  handle_lt h a ha := by cases ha
  sender_created k hk := by cases hk
  sender_not_server k hk := by cases hk

theorem server (hw : Named w) {s : Server} (he : ServerEdit cfg w.server s)
    (hnd : (createdKeys s.trace).Nodup) : Named { w with server := s } := by
  obtain ⟨htrace, hsub⟩ | ⟨o, htrace, hsub⟩ := he.keys
  · refine ⟨fun k hk => ?_, fun h a ha => ?_, fun h a ha hk => ?_, hw.accepted_inj, hw.sender,
      hw.handle_lt, fun k hk => ?_, fun k hk hk' => ?_⟩
    · exact htrace ▸ hw.server_created k (hsub k hk)
    · exact htrace ▸ hw.accepted_created h a ha
    · exact hw.accepted_not_server h a ha (hsub _ hk)
    · exact htrace ▸ hw.sender_created k hk
    · exact hw.sender_not_server k hk (hsub k hk')
  · rw [htrace, List.nodup_cons] at hnd
    refine ⟨fun k hk => ?_, fun h a ha => ?_, fun h a ha hk => ?_, hw.accepted_inj, hw.sender,
      hw.handle_lt, fun k hk => ?_, fun k hk hk' => ?_⟩
    · change k ∈ createdKeys s.trace
      rw [htrace, List.mem_cons]
      exact (hsub k hk).imp_right (hw.server_created k)
    · change a.connectionId ∈ createdKeys s.trace
      rw [htrace]
      exact List.mem_cons_of_mem _ (hw.accepted_created h a ha)
    · rcases hsub _ hk with hk | hk
      · exact hnd.1 (hk ▸ hw.accepted_created h a ha)
      · exact hw.accepted_not_server h a ha hk
    · change k ∈ createdKeys s.trace
      rw [htrace]
      exact List.mem_cons_of_mem _ (hw.sender_created k hk)
    · rcases hsub _ hk' with hk' | hk'
      · exact hnd.1 (hk' ▸ hw.sender_created k hk)
      · exact hw.sender_not_server k hk hk'

theorem set (hw : Named w) {h : ℕ} {a a' : AcceptedConnection} (ha : w.accepted.lookup h = some a)
    (hid : a'.connectionId = a.connectionId) : Named (w.set h a') := by
  have hold (h₁ : ℕ) (a₁ : AcceptedConnection) (h₂ : (w.set h a').accepted.lookup h₁ = some a₁) :
      ∃ a₂, w.accepted.lookup h₁ = some a₂ ∧ a₁.connectionId = a₂.connectionId := by
    rcases Map.of_lookup_insert h₂ with ⟨rfl, rfl⟩ | ⟨-, h₂⟩
    · exact ⟨a, ha, hid⟩
    · exact ⟨a₁, h₂, rfl⟩
  refine ⟨hw.server_created, fun h₁ a₁ h₂ => ?_, fun h₁ a₁ h₂ => ?_, fun h₁ h₁' a₁ a₁' h₂ h₂' heq => ?_,
    fun h₁ a₁ h₂ => ?_, fun h₁ a₁ h₂ => ?_, hw.sender_created, hw.sender_not_server⟩
  · obtain ⟨a₂, h₃, hc⟩ := hold h₁ a₁ h₂
    exact hc ▸ hw.accepted_created h₁ a₂ h₃
  · obtain ⟨a₂, h₃, hc⟩ := hold h₁ a₁ h₂
    exact hc ▸ hw.accepted_not_server h₁ a₂ h₃
  · obtain ⟨a₂, h₃, hc⟩ := hold h₁ a₁ h₂
    obtain ⟨a₂', h₃', hc'⟩ := hold h₁' a₁' h₂'
    exact hw.accepted_inj h₁ h₁' a₂ a₂' h₃ h₃' (by rw [← hc, ← hc', heq])
  · obtain ⟨a₂, h₃, hc⟩ := hold h₁ a₁ h₂
    exact hc ▸ hw.sender h₁ a₂ h₃
  · obtain ⟨a₂, h₃, hc⟩ := hold h₁ a₁ h₂
    exact hw.handle_lt h₁ a₂ h₃

theorem record (hw : Named w) {a : Action}
    (ha : createdKeys (a :: w.trace) = createdKeys w.trace) : Named (w.record a) where
  server_created k hk := ha.symm ▸ hw.server_created k hk
  accepted_created h b hb := ha.symm ▸ hw.accepted_created h b hb
  accepted_not_server := hw.accepted_not_server
  accepted_inj := hw.accepted_inj
  sender := hw.sender
  handle_lt := hw.handle_lt
  sender_created k hk := ha.symm ▸ hw.sender_created k hk
  sender_not_server := hw.sender_not_server

/-- The handle that `accept` returned, or one from before. -/
theorem lookup_take (hw : Named w) {key : ConnectionId} (hkey : key ∈ w.server.connections)
    {c : ServerConnection} {h : ℕ} {a : AcceptedConnection}
    (ha : (w.accepted.insert w.nextHandle { connectionId := key, inner := c }).lookup h = some a) :
    (h = w.nextHandle ∧ a.connectionId = key ∧ a.inner = c) ∨
      (w.accepted.lookup h = some a ∧ a.connectionId ≠ key) := by
  rcases Map.of_lookup_insert ha with ⟨heq, rfl⟩ | ⟨-, ha⟩
  · exact .inl ⟨heq, rfl, rfl⟩
  · exact .inr ⟨ha, fun hk => hw.accepted_not_server h a ha (hk ▸ hkey)⟩

theorem take (hw : Named w) {key : ConnectionId} {s : Server} {r : SharedRoutes}
    {c : ServerConnection} (ht : Taken w.server w.routes key w.nextHandle s r c) :
    Named { server := s, routes := r
            accepted := w.accepted.insert w.nextHandle { connectionId := key, inner := c }
            nextHandle := w.nextHandle + 1 } := by
  have hkey : key ∈ w.server.connections := Map.mem_iff_lookup.mpr ⟨c, ht.found⟩
  have hmem (k : ConnectionId) (hk : k ∈ s.connections) : k ≠ key ∧ k ∈ w.server.connections :=
    AList.mem_erase.mp (ht.connections_eq ▸ hk)
  refine ⟨fun k hk => ?_, fun h a ha => ?_, fun h a ha hk => ?_, fun h h' a a' ha ha' heq => ?_,
    fun h a ha => ?_, fun h a ha => ?_, fun k hk => ?_, fun k hk hk' => ?_⟩
  · change k ∈ createdKeys s.trace
    rw [ht.trace_eq]
    exact hw.server_created k (hmem k hk).2
  · change a.connectionId ∈ createdKeys s.trace
    rw [ht.trace_eq]
    rcases hw.lookup_take hkey ha with ⟨-, hid, -⟩ | ⟨ha, -⟩
    · exact hid ▸ hw.server_created key hkey
    · exact hw.accepted_created h a ha
  · rcases hw.lookup_take hkey ha with ⟨-, hid, -⟩ | ⟨ha, -⟩
    · exact (hmem _ hk).1 hid
    · exact hw.accepted_not_server h a ha (hmem _ hk).2
  · rcases hw.lookup_take hkey ha with ⟨hh, hid, -⟩ | ⟨ha, hid⟩ <;>
      rcases hw.lookup_take hkey ha' with ⟨hh', hid', -⟩ | ⟨ha', hid'⟩
    · exact hh.trans hh'.symm
    · exact absurd (heq.symm.trans hid) hid'
    · exact absurd (heq.trans hid') hid
    · exact hw.accepted_inj h h' a a' ha ha' heq
  · change r.senders.lookup a.connectionId = some h
    rw [ht.senders_eq, Map.lookup_insert_if]
    rcases hw.lookup_take hkey ha with ⟨hh, hid, -⟩ | ⟨ha, hid⟩
    · rw [if_pos hid, hh]
    · rw [if_neg hid]
      exact hw.sender h a ha
  · rcases hw.lookup_take hkey ha with ⟨hh, -, -⟩ | ⟨ha, -⟩
    · exact hh ▸ Nat.lt_succ_self _
    · exact Nat.lt_succ_of_lt (hw.handle_lt h a ha)
  · change k ∈ createdKeys s.trace
    rw [ht.trace_eq]
    rcases (AList.mem_insert _).mp (ht.senders_eq ▸ hk) with rfl | hk
    · exact hw.server_created k hkey
    · exact hw.sender_created k hk
  · rcases (AList.mem_insert _).mp (ht.senders_eq ▸ hk) with rfl | hk
    · exact (hmem _ hk').1 rfl
    · exact hw.sender_not_server k hk (hmem _ hk').2

theorem receiver (hw : Named w) {h : ℕ} {a : AcceptedConnection}
    (ha : w.accepted.lookup h = some a) : w.receiver a.connectionId = some h := by
  simp [World.receiver, hw.sender h a ha, ha]

theorem unroute (hw : Named w) {key : ConnectionId} (hr : w.receiver key = none) :
    Named { w with routes := w.routes.remove key } where
  server_created := hw.server_created
  accepted_created := hw.accepted_created
  accepted_not_server := hw.accepted_not_server
  accepted_inj := hw.accepted_inj
  handle_lt := hw.handle_lt
  sender_created k hk := hw.sender_created k (AList.mem_erase.mp hk).2
  sender_not_server k hk := hw.sender_not_server k (AList.mem_erase.mp hk).2
  sender h a ha := by
    have hne : a.connectionId ≠ key := by
      rintro rfl
      rw [hw.receiver ha] at hr
      cases hr
    change (w.routes.senders.erase key).lookup a.connectionId = some h
    rw [Map.lookup_erase_if, if_neg hne]
    exact hw.sender h a ha

theorem drop (hw : Named w) {h : ℕ} {a : AcceptedConnection} (ha : w.accepted.lookup h = some a) :
    Named (w.drop h a) := by
  have hlive (h' : ℕ) (a' : AcceptedConnection) (ha' : (w.drop h a).accepted.lookup h' = some a') :
      w.accepted.lookup h' = some a' ∧ a'.connectionId ≠ a.connectionId := by
    obtain ⟨hne, ha'⟩ := Map.of_lookup_erase ha'
    exact ⟨ha', fun heq => hne (hw.accepted_inj h' h a' a ha' ha heq)⟩
  refine ⟨hw.server_created, fun h' a' ha' => ?_, fun h' a' ha' => ?_,
    fun h₁ h₂ a₁ a₂ ha₁ ha₂ => ?_, fun h' a' ha' => ?_, fun h' a' ha' => ?_, fun k hk => ?_,
    fun k hk => ?_⟩
  · exact hw.accepted_created h' a' (hlive h' a' ha').1
  · exact hw.accepted_not_server h' a' (hlive h' a' ha').1
  · exact hw.accepted_inj h₁ h₂ a₁ a₂ (hlive h₁ a₁ ha₁).1 (hlive h₂ a₂ ha₂).1
  · change (w.routes.senders.erase a.connectionId).lookup a'.connectionId = some h'
    rw [Map.lookup_erase_if, if_neg (hlive h' a' ha').2]
    exact hw.sender h' a' (hlive h' a' ha').1
  · exact hw.handle_lt h' a' (hlive h' a' ha').1
  · exact hw.sender_created k (AList.mem_erase.mp hk).2
  · exact hw.sender_not_server k (AList.mem_erase.mp hk).2

theorem sync (hw : Named w) {h : ℕ} {a : AcceptedConnection} (ha : w.accepted.lookup h = some a) :
    Named (w.syncRoutes h a) := by
  have hset : Named (w.set h a.polled) := hw.set ha rfl
  exact ⟨hset.1, hset.2, hset.3, hset.4, hset.5, hset.6, hset.7, hset.8⟩

/-- **Handles stay named**, as long as no key is given twice. -/
theorem edit (hw : Named w) {w' : World} (he : Edit cfg w w')
    (hnd : (createdKeys w'.trace).Nodup) : Named w' := by
  cases he with
  | server s hs => exact hw.server hs hnd
  | note a ha => exact hw.record (createdKeys_note ha _)
  | take key s r c ht => exact hw.take (takeConnection_taken ht)
  | unroute key hr => exact hw.unroute hr
  | update h a a' ha hid hc => exact hw.set ha hid
  | call h a a' c ans ha hid hc => exact (hw.set ha hid).record rfl
  | sync h a ha => exact hw.sync ha
  | drop h a ha => exact hw.drop ha

end Named

theorem Edit.nodup_keys {cfg : ServerConfig} {w w' : World} (he : Edit cfg w w')
    (hnd : (createdKeys w'.trace).Nodup) : (createdKeys w.trace).Nodup := by
  cases he with
  | server s hs =>
    obtain ⟨htrace, -⟩ | ⟨o, htrace, -⟩ := hs.keys
    · exact htrace ▸ hnd
    · exact (List.nodup_cons.mp (htrace ▸ hnd)).2
  | note a ha => exact createdKeys_note ha w.trace ▸ hnd
  | take key s r c ht =>
    have htrace : s.trace = w.trace := (takeConnection_taken ht).trace_eq
    exact htrace ▸ hnd
  | unroute key hr => exact hnd
  | update h a a' ha hid hc => exact hnd
  | call h a a' c ans ha hid hc => exact hnd
  | sync h a ha => exact hnd
  | drop h a ha => exact hnd

/-! ## The shared table -/

/-- The lengths of the shared CIDs are tried for short headers. -/
def SharedRoutes.LensCover (r : SharedRoutes) : Prop :=
  ∀ x k, r.cidMap.lookup x = some k → x.len ∈ r.shortCidLengths

/-- The shared routes lead to registered queues. -/
structure SharedRoutes.Closed (r : SharedRoutes) : Prop where
  cid_mem : ∀ x k, r.cidMap.lookup x = some k → k ∈ r.senders
  addr_mem : ∀ a k, r.addrMap.lookup a = some k → k ∈ r.senders

namespace SharedRoutes

variable {r : SharedRoutes}

theorem LensCover.remove (hr : r.LensCover) (key : ConnectionId) : (r.remove key).LensCover :=
  fun x k h => hr x k (RouteTable.lookup_removeRoutes _ _ |>.mp h).1

theorem LensCover.take (hr : r.LensCover) {s s' : Server} {r' : SharedRoutes} {key : ConnectionId}
    {n : ℕ} {c : ServerConnection} (ht : Taken s r key n s' r' c) : r'.LensCover := by
  intro x k h
  rw [ht.shared_cid] at h
  rw [ht.shared_lens]
  split_ifs at h with hx
  · exact .inr ⟨x, hx, rfl⟩
  · exact .inl (hr x k h)

theorem LensCover.sync (hr : r.LensCover) (key : ConnectionId) (issued retired : List ConnectionId) :
    ((r.registerIssuedCids key issued).retireCids key retired).LensCover := by
  intro x k h
  have hlens : ((r.registerIssuedCids key issued).retireCids key retired).shortCidLengths =
      (r.registerCids key issued).shortCidLengths :=
    RouteTable.shortCidLengths_retireCids _ key retired
  rw [hlens, RouteTable.mem_shortCidLengths_registerCids]
  by_cases hk : k = key
  · subst hk
    rcases ((RouteTable.lookup_polled_self _ _ _ _ _).mp h).1 with hx | hx
    · exact .inr ⟨x, hx, rfl⟩
    · exact .inl (hr x k hx)
  · exact .inl (hr x k ((RouteTable.lookup_polled_ne _ _ hk _ _ _).mp h).2)

/-- **The lengths of the shared CIDs stay covered.** -/
theorem LensCover.edit {cfg : ServerConfig} {w w' : World} (hw : w.routes.LensCover)
    (he : Edit cfg w w') : w'.routes.LensCover := by
  cases he with
  | server s hs => exact hw
  | note a ha => exact hw
  | take key s r c ht => exact hw.take (takeConnection_taken ht)
  | unroute key hr => exact hw.remove key
  | update h a a' ha hid hc => exact hw
  | call h a a' c ans ha hid hc => exact hw
  | sync h a ha => exact hw.sync _ _ _
  | drop h a ha => exact hw.remove _

theorem Closed.remove (hr : r.Closed) (key : ConnectionId) : (r.remove key).Closed where
  cid_mem x k h := by
    obtain ⟨h, hne⟩ := RouteTable.lookup_removeRoutes _ _ |>.mp h
    exact AList.mem_erase.mpr ⟨hne, hr.cid_mem x k h⟩
  addr_mem a k h := by
    obtain ⟨h, hne⟩ := RouteTable.addrMap_removeRoutes _ _ |>.mp h
    exact AList.mem_erase.mpr ⟨hne, hr.addr_mem a k h⟩

theorem Closed.take (hr : r.Closed) {s s' : Server} {r' : SharedRoutes} {key : ConnectionId}
    {n : ℕ} {c : ServerConnection} (ht : Taken s r key n s' r' c) : r'.Closed := by
  refine ⟨fun x k h => ?_, fun a k h => ?_⟩
  · rw [ht.shared_cid] at h
    rw [ht.senders_eq, AList.mem_insert]
    split_ifs at h
    · cases h
      exact .inl rfl
    · exact .inr (hr.cid_mem x k h)
  · rw [ht.shared_addr] at h
    rw [ht.senders_eq, AList.mem_insert]
    split_ifs at h
    · cases h
      exact .inl rfl
    · exact .inr (hr.addr_mem a k h)

theorem Closed.sync (hr : r.Closed) {key : ConnectionId} (hkey : key ∈ r.senders)
    (issued retired : List ConnectionId) :
    ((r.registerIssuedCids key issued).retireCids key retired).Closed := by
  refine ⟨fun x k h => ?_, fun a k h => ?_⟩
  · by_cases hk : k = key
    · exact hk ▸ hkey
    · exact hr.cid_mem x k ((RouteTable.lookup_polled_ne _ _ hk _ _ _).mp h).2
  · refine hr.addr_mem a k (Eq.trans (congrArg (AList.lookup a) ?_) h)
    exact ((RouteTable.addrMap_retireCids _ key retired).trans
      (RouteTable.addrMap_registerCids r.toRouteTable key issued)).symm

/-- **The shared routes stay closed**, as long as the live handles are named. -/
theorem Closed.edit {cfg : ServerConfig} {w w' : World} (hw : w.routes.Closed) (hn : Named w)
    (he : Edit cfg w w') : w'.routes.Closed := by
  cases he with
  | server s hs => exact hw
  | note a ha => exact hw
  | take key s r c ht => exact hw.take (takeConnection_taken ht)
  | unroute key hr => exact hw.remove key
  | update h a a' ha hid hc => exact hw
  | call h a a' c ans ha hid hc => exact hw
  | sync h a ha => exact hw.sync (Map.mem_iff_lookup.mpr ⟨h, hn.sender h a ha⟩) _ _
  | drop h a ha => exact hw.remove _

end SharedRoutes

theorem Edit.lens_mono {cfg : ServerConfig} {w w' : World} (he : Edit cfg w w') {n : ℕ}
    (hn : n ∈ w.server.shortCidLengths) : n ∈ w'.server.shortCidLengths := by
  cases he with
  | server s hs => exact hs.lens_mono hn
  | take key s r c ht =>
    have hlens : s.shortCidLengths = w.server.shortCidLengths := (takeConnection_taken ht).lens_eq
    exact hlens ▸ hn
  | _ => exact hn

/-! ## Runs -/

section Runs

variable (ext : External) (cfg : ServerConfig) (ls : List Label)

theorem run_serverClosed : (run (World.step ext cfg) (.init cfg) ls).server.Closed := by
  refine edits_invariant (I := fun w => w.server.Closed) (Server.Closed.bind cfg) ?_ ls
  intro w w' he hw
  cases he with
  | server s hs => exact hw.edit hs
  | note a ha => exact hw.note ha
  | take key s r c ht => exact hw.take (takeConnection_taken ht)
  | unroute key hr => exact hw
  | update h a a' ha hid hc => exact hw
  | call h a a' c ans ha hid hc =>
    exact hw.called a.connectionId c ans
  | sync h a ha => exact hw
  | drop h a ha => exact hw

theorem run_lensCover : (run (World.step ext cfg) (.init cfg) ls).routes.LensCover := by
  refine edits_invariant (I := fun w => w.routes.LensCover) ?_ (fun w w' he hw => hw.edit he) ls
  intro x k h
  cases h

theorem run_sharedClosed
    (hnd : (createdKeys (run (World.step ext cfg) (.init cfg) ls).trace).Nodup) :
    (run (World.step ext cfg) (.init cfg) ls).routes.Closed := by
  refine (edits_invariant
    (I := fun w => (createdKeys w.trace).Nodup → Named w ∧ w.routes.Closed)
    (fun _ => ⟨Named.init cfg, ?_⟩) (fun w w' he hw hnd => ?_) ls hnd).2
  · exact ⟨fun x k h => (by cases h), fun a k h => (by cases h)⟩
  · obtain ⟨hn, hc⟩ := hw (he.nodup_keys hnd)
    exact ⟨hn.edit he hnd, hc.edit hn he⟩

theorem run_lens_mono {w : World} {n : ℕ} (hn : n ∈ w.server.shortCidLengths) :
    n ∈ (run (World.step ext cfg) w ls).server.shortCidLengths := by
  have hchain {w' : World} (he : Edits cfg w w') : n ∈ w'.server.shortCidLengths := by
    induction he with
    | refl => exact hn
    | tail _ hlast ih => exact hlast.lens_mono ih
  exact hchain (run_edits ext cfg ls w)

/-- The lengths of the CIDs that the server chose for a connection are tried from then on, also when
the connection is gone. -/
theorem run_chosen_mem (before after : List Label) {k : ConnectionId} {c : ServerConnection}
    (hc : (run (World.step ext cfg) (.init cfg) before).server.connections.lookup k = some c)
    {x : ConnectionId} (hx : x ∈ c.chosen) (hne : x ≠ .empty) :
    x.len ∈ (run (World.step ext cfg) (.init cfg) (before ++ after)).server.shortCidLengths := by
  rw [run_append]
  exact run_lens_mono ext cfg after ((run_serverClosed ext cfg before).chosen_mem k c hc x hx hne)

/-- **Closure of the routing tables.** After every run, whatever ngtcp2 answers: the server's routes
lead to its connections, of which there are at most `maxConnections`; the lengths of the CIDs in the
tables are tried for short headers, but for original DCIDs in the server's; those of the CIDs that the
server chose for a connection are tried for ever; a handler never misses its connection; and if no key
was given twice, the shared routes lead to registered queues. -/
theorem tables_closed :
    (run (World.step ext cfg) (.init cfg) ls).server.Closed ∧
    (∀ before after, ls = before ++ after → ∀ k c,
      (run (World.step ext cfg) (.init cfg) before).server.connections.lookup k = some c →
      ∀ x ∈ c.chosen, x ≠ .empty →
        x.len ∈ (run (World.step ext cfg) (.init cfg) ls).server.shortCidLengths) ∧
    (run (World.step ext cfg) (.init cfg) ls).routes.LensCover ∧
    ((createdKeys (run (World.step ext cfg) (.init cfg) ls).trace).Nodup →
      (run (World.step ext cfg) (.init cfg) ls).routes.Closed) := by
  refine ⟨run_serverClosed ext cfg ls, ?_, run_lensCover ext cfg ls, run_sharedClosed ext cfg ls⟩
  rintro before after rfl k c hc x hx hne
  exact run_chosen_mem ext cfg before after hc hx hne

end Runs

end Ngtcp2Rs
