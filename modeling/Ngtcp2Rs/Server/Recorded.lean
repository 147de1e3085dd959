import Ngtcp2Rs.Server.Ownership

/-!
# What the trace says about the tables

Whatever ngtcp2 and the clients do, the trace tells where the routes and the connections come from:
every CID in a table or in a queue is one that a connection got, when it was created or later, and
every connection, of the server or of a handle, was created (`recorded_run`).
-/

namespace Ngtcp2Rs

open Lib

/-- A connection got the CID, when it was created or later. -/
def Got (trace : List Action) (x : ConnectionId) : Prop :=
  (∃ o retried src, .created o retried src ∈ trace ∧ x ∈ o.cids) ∨
    ∃ key call ans, .called key call ans ∈ trace ∧ x ∈ ans.effect.issued

theorem Got.mono {past trace : List Action} {x : ConnectionId} (h : Got past x)
    (hs : past ⊆ trace) : Got trace x := by
  rcases h with ⟨o, retried, src, h, hx⟩ | ⟨key, call, ans, h, hx⟩
  · exact .inl ⟨o, retried, src, hs h, hx⟩
  · exact .inr ⟨key, call, ans, hs h, hx⟩

/-- Every CID in the server's table or in a queue of issued CIDs is one that a connection got, and
every connection was created. -/
structure Server.Recorded (s : Server) : Prop where
  created : ∀ k c, s.connections.lookup k = some c →
    ∃ retried src, .created c.origin retried src ∈ s.trace
  routed : ∀ x k, s.cidMap.lookup x = some k → Got s.trace x
  queued : ∀ k c, s.connections.lookup k = some c → ∀ x ∈ c.issuedCids, Got s.trace x

namespace Server.Recorded

variable {cfg : ServerConfig} {s : Server}

/-- A connection that was there keeps its creation. -/
theorem created_mono (hs : s.Recorded) {trace : List Action} (hsub : s.trace ⊆ trace)
    {k : ConnectionId} {c : ServerConnection} (hc : s.connections.lookup k = some c) :
    ∃ retried src, .created c.origin retried src ∈ trace := by
  obtain ⟨retried, src, h⟩ := hs.created k c hc
  exact ⟨retried, src, hsub h⟩

theorem record (hs : s.Recorded) (a : Action) : (s.record a).Recorded where
  created _ _ hc := hs.created_mono (List.subset_cons_self a s.trace) hc
  routed x k h := (hs.routed x k h).mono (List.subset_cons_self a s.trace)
  queued k c h x hx := (hs.queued k c h x hx).mono (List.subset_cons_self a s.trace)

theorem serve (hs : s.Recorded) {key : ConnectionId} {c c₁ : ServerConnection}
    {calls : List (NgCall × Answer)} (hc : s.connections.lookup key = some c)
    (hcids : c₁.toConnCids = c.toConnCids.callAll calls) :
    ((s.recordCalls key calls).pollCids key c₁).Recorded := by
  have htrace := trace_served s key calls c₁
  have hsub : s.trace ⊆ ((s.recordCalls key calls).pollCids key c₁).trace := by
    rw [htrace]
    exact List.subset_append_right _ _
  have hissued {x : ConnectionId} (hx : x ∈ c₁.issuedCids) :
      Got ((s.recordCalls key calls).pollCids key c₁).trace x := by
    rw [hcids] at hx
    rcases mem_issued_callAll hx with hx | ⟨call, hmem, hx⟩
    · exact (hs.queued key c hc x hx).mono hsub
    · refine .inr ⟨key, call.1, call.2, ?_, hx⟩
      rw [htrace]
      exact List.mem_append_left _ (List.mem_reverse.mpr (List.mem_map.mpr ⟨call, hmem, rfl⟩))
  refine ⟨fun k c' hc' => ?_, fun x k hx => ?_, fun k c' hc' x hx => ?_⟩
  · rw [connections_served] at hc'
    rcases Map.of_lookup_insert hc' with ⟨-, rfl⟩ | ⟨-, hc'⟩
    · have horigin : c₁.pollCids.origin = c.origin := by
        rw [← callAll_origin c.toConnCids calls, ← hcids]
        rfl
      rw [horigin]
      exact hs.created_mono hsub hc
    · exact hs.created_mono hsub hc'
  · rw [toRouteTable_served] at hx
    by_cases hk : k = key
    · subst hk
      rcases ((RouteTable.lookup_polled_self _ _ _ _ _).mp hx).1 with hx | hx
      · exact hissued hx
      · exact (hs.routed x k hx).mono hsub
    · exact (hs.routed x k ((RouteTable.lookup_polled_ne _ _ hk _ _ _).mp hx).2).mono hsub
  · rw [connections_served] at hc'
    rcases Map.of_lookup_insert hc' with ⟨-, rfl⟩ | ⟨-, hc'⟩
    · cases hx
    · exact (hs.queued k c' hc' x hx).mono hsub

theorem create (hs : s.Recorded) {o : Origin} {retried : Bool} (src : SocketAddr) (ans : Answers)
    (ho : o.Chosen cfg retried) : (s.createConnection o retried src ans).Recorded := by
  have htrace := trace_createConnection s o retried src ans
  have hsub : s.trace ⊆ (s.createConnection o retried src ans).trace := by
    rw [htrace]
    exact fun a ha => List.mem_cons_of_mem _ (List.mem_cons_of_mem _ (List.mem_cons_of_mem _ ha))
  refine ⟨fun k c hc => ?_, fun x k hx => ?_, fun k c hc x hx => ?_⟩
  · rw [connections_createConnection] at hc
    rcases Map.of_lookup_insert hc with ⟨-, rfl⟩ | ⟨-, hc⟩
    · rw [htrace]
      exact ⟨retried, src, List.mem_cons_of_mem _ (List.mem_cons_of_mem _ List.mem_cons_self)⟩
    · exact hs.created_mono hsub hc
  · rw [lookup_createConnection ho] at hx
    split_ifs at hx with hnew
    · rw [htrace]
      rcases hnew with hnew | hnew
      · rcases List.mem_append.mp hnew with hnew | hnew
        · exact .inr ⟨o.key, .read, ans.read, by simp, hnew⟩
        · exact .inr ⟨o.key, .writePackets, ans.flush, by simp, hnew⟩
      · exact .inl ⟨o, retried, src, by simp, hnew⟩
    · exact (hs.routed x k hx).mono hsub
  · rw [connections_createConnection] at hc
    rcases Map.of_lookup_insert hc with ⟨-, rfl⟩ | ⟨-, hc⟩
    · cases hx
    · exact (hs.queued k c hc x hx).mono hsub

theorem edit (hs : s.Recorded) {s' : Server} (he : ServerEdit cfg s s') : s'.Recorded := by
  cases he with
  | note a ha => exact hs.record a
  | limiter l => exact ⟨hs.created, hs.routed, hs.queued⟩
  | missing key hkey hroute => exact hs.record _
  | remove key =>
    exact ⟨fun k c hc => hs.created k c (Map.of_lookup_erase hc).2,
      fun x k h => hs.routed x k ((RouteTable.lookup_removeRoutes _ _).mp h).1,
      fun k c hc => hs.queued k c (Map.of_lookup_erase hc).2⟩
  | serve key c c₁ calls hc hcids => exact hs.serve hc hcids
  | close key c ans hc =>
    have hsub : s.trace ⊆ Action.called key .close ans :: s.trace := List.subset_cons_self _ _
    refine ⟨fun k c' hc' => ?_, fun x k h => (hs.routed x k h).mono hsub, fun k c' hc' x hx => ?_⟩
    · rcases Map.of_lookup_insert hc' with ⟨-, rfl⟩ | ⟨-, hc'⟩
      · exact @created_mono s hs _ hsub key c hc
      · exact hs.created_mono hsub hc'
    rcases Map.of_lookup_insert hc' with ⟨-, rfl⟩ | ⟨-, hc'⟩
    · rcases List.mem_append.mp hx with hx | hx
      · exact (hs.queued key c hc x hx).mono hsub
      · exact .inr ⟨key, .close, ans, List.mem_cons_self, hx⟩
    · exact (hs.queued k c' hc' x hx).mono hsub
  | create o retried src ans hsize ho => exact hs.create src ans ho

end Server.Recorded

/-- The same, with the shared table and the handles. -/
structure Recorded (w : World) : Prop where
  server : w.server.Recorded
  shared : ∀ x k, w.routes.cidMap.lookup x = some k → Got w.trace x
  accepted : ∀ h a, w.accepted.lookup h = some a → ∀ x ∈ a.inner.issuedCids, Got w.trace x
  handed : ∀ h a, w.accepted.lookup h = some a →
    ∃ retried src, .created a.inner.origin retried src ∈ w.trace

namespace Recorded

variable {cfg : ServerConfig} {w : World}

theorem init (cfg : ServerConfig) : Recorded (.init cfg) where
  server := ⟨fun k c h => (by cases h), fun x k h => (by cases h), fun k c h => (by cases h)⟩
  shared x k h := by cases h
  accepted h a ha := by cases ha
  handed h a ha := by cases ha

/-- The server changed, and the trace may have grown. -/
theorem withServer (hw : Recorded w) {s : Server} (hs : s.Recorded) (hsub : w.trace ⊆ s.trace) :
    Recorded { w with server := s } where
  server := hs
  shared x k h := (hw.shared x k h).mono hsub
  accepted h a ha x hx := (hw.accepted h a ha x hx).mono hsub
  handed h a ha := by
    obtain ⟨retried, src, hmem⟩ := hw.handed h a ha
    exact ⟨retried, src, hsub hmem⟩

/-- Replace a handle by one of the same connection. -/
theorem set (hw : Recorded w) {h : ℕ} {a a' : AcceptedConnection} (ha : w.accepted.lookup h = some a)
    (ho : a'.inner.origin = a.inner.origin) (ha' : ∀ x ∈ a'.inner.issuedCids, Got w.trace x) :
    Recorded (w.set h a') where
  server := hw.server
  shared := hw.shared
  accepted h₁ a₁ h₁a₁ := by
    rcases Map.of_lookup_insert h₁a₁ with ⟨-, rfl⟩ | ⟨-, h₁a₁⟩
    · exact ha'
    · exact hw.accepted h₁ a₁ h₁a₁
  handed h₁ a₁ h₁a₁ := by
    rcases Map.of_lookup_insert h₁a₁ with ⟨-, rfl⟩ | ⟨-, h₁a₁⟩
    · rw [ho]
      exact hw.handed h a ha
    · exact hw.handed h₁ a₁ h₁a₁

theorem take (hw : Recorded w) {key : ConnectionId} {s : Server} {r : SharedRoutes}
    {c : ServerConnection} (ht : Taken w.server w.routes key w.nextHandle s r c) :
    Recorded
      { server := s, routes := r
        accepted := w.accepted.insert w.nextHandle { connectionId := key, inner := c }
        nextHandle := w.nextHandle + 1 } := by
  have htrace : s.trace = w.trace := ht.trace_eq
  refine ⟨⟨fun k c' hc' => ?_, fun x k h => ?_, fun k c' hc' => ?_⟩, fun x k h => ?_,
    fun h a ha => ?_, fun h a ha => ?_⟩
  · rw [htrace]
    exact hw.server.created k c' (ht.of_lookup hc').2
  · rw [htrace]
    exact hw.server.routed x k ((ht.cid_iff x k).mp h).1
  · rw [htrace]
    exact hw.server.queued k c' (ht.of_lookup hc').2
  · change Got s.trace x
    rw [htrace]
    rw [ht.shared_cid] at h
    split_ifs at h with hin
    · exact hw.server.routed x key hin
    · exact hw.shared x k h
  · change ∀ x ∈ a.inner.issuedCids, Got s.trace x
    rw [htrace]
    rcases Map.of_lookup_insert ha with ⟨-, rfl⟩ | ⟨-, ha⟩
    · exact hw.server.queued key c ht.found
    · exact hw.accepted h a ha
  · change ∃ retried src, .created a.inner.origin retried src ∈ s.trace
    rw [htrace]
    rcases Map.of_lookup_insert ha with ⟨-, rfl⟩ | ⟨-, ha⟩
    · exact hw.server.created key c ht.found
    · exact hw.handed h a ha

theorem sync (hw : Recorded w) {h : ℕ} {a : AcceptedConnection}
    (ha : w.accepted.lookup h = some a) : Recorded (w.syncRoutes h a) := by
  have hset : Recorded (w.set h a.polled) := hw.set ha rfl fun x hx => by cases hx
  refine ⟨hset.server, fun x k hx => ?_, hset.accepted, hset.handed⟩
  by_cases hk : k = a.connectionId
  · subst hk
    rcases ((RouteTable.lookup_polled_self _ _ _ _ _).mp hx).1 with hx | hx
    · exact hw.accepted h a ha x hx
    · exact hw.shared x _ hx
  · exact hw.shared x k ((RouteTable.lookup_polled_ne _ _ hk _ _ _).mp hx).2

theorem remove (hw : Recorded w) (key : ConnectionId) :
    Recorded { w with routes := w.routes.remove key } where
  server := hw.server
  shared x k h := hw.shared x k ((RouteTable.lookup_removeRoutes _ _).mp h).1
  accepted := hw.accepted
  handed := hw.handed

theorem edit (hw : Recorded w) {w' : World} (he : Edit cfg w w') : Recorded w' := by
  cases he with
  | server s hs => exact hw.withServer (hw.server.edit hs) hs.suffix.subset
  | note a ha => exact hw.withServer (hw.server.record a) (List.subset_cons_self _ _)
  | take key s r c ht => exact hw.take (takeConnection_taken ht)
  | unroute key hr => exact hw.remove key
  | update h a a' ha hid hc => exact hw.set ha (by rw [hc]) (hc ▸ hw.accepted h a ha)
  | call h a a' c ans ha hid hc =>
    have hsub : w.trace ⊆ Action.called a.connectionId c ans :: w.trace := List.subset_cons_self _ _
    refine (hw.withServer (hw.server.record _) hsub).set ha (by rw [hc]; rfl) fun x hx => ?_
    rw [hc] at hx
    rcases List.mem_append.mp hx with hx | hx
    · exact (hw.accepted h a ha x hx).mono hsub
    · exact .inr ⟨a.connectionId, c, ans, List.mem_cons_self, hx⟩
  | sync h a ha => exact hw.sync ha
  | drop h a ha =>
    exact ⟨hw.server, (hw.remove a.connectionId).shared,
      fun h' a' ha' => hw.accepted h' a' (Map.of_lookup_erase ha').2,
      fun h' a' ha' => hw.handed h' a' (Map.of_lookup_erase ha').2⟩

end Recorded

theorem recorded_run (ext : External) (cfg : ServerConfig) (ls : List Label) :
    Recorded (run (World.step ext cfg) (.init cfg) ls) :=
  edits_invariant (Recorded.init cfg) (fun _ _ he hw => hw.edit he) ls

end Ngtcp2Rs
