import Ngtcp2Rs.Server.Closure

/-!
# Who owns a connection ID

The CIDs routed to a live connection are exactly its own: those it was created with and those that
were polled as issued, without those that were polled as retired. They are all in the server's table
before the connection is handed over, and all in the shared table afterwards.

* `Lawful`: what is assumed of a trace. Keys are new, a CID belongs to one connection and is issued
  once, and only a connection's own CIDs are retired.
* `ConnOk`: what that means for one connection; `polled_self` is the effect of a poll on a table.
* `Routing`: the invariant, kept by every edit (`Routing.edit`), and so by every run with a lawful
  trace (`run_routing`).
-/

namespace Ngtcp2Rs

open Lib

/-! ## Lawful traces -/

/-- The CIDs that ever belonged to a connection, each with the key of the connection. -/
def owned : List Action → List (ConnectionId × ConnectionId)
  | [] => []
  | .created o _ _ :: past => o.cids.map (·, o.key) ++ owned past
  | .called key _ ans :: past => ans.effect.issued.map (·, key) ++ owned past
  | _ :: past => owned past

/-- No CID of `xs` belonged to a connection. -/
def Unowned (past : List Action) (xs : List ConnectionId) : Prop :=
  ∀ x ∈ xs, x ∉ (owned past).map Prod.fst

instance (past : List Action) (xs : List ConnectionId) : Decidable (Unowned past xs) :=
  inferInstanceAs (Decidable (∀ x ∈ xs, _))

theorem Unowned.not_owned {past : List Action} {xs : List ConnectionId} (h : Unowned past xs)
    {x : ConnectionId} (hx : x ∈ xs) (k : ConnectionId) : (x, k) ∉ owned past :=
  fun hk => h x hx (List.mem_map.mpr ⟨(x, k), hk, rfl⟩)

/-- Every connection got a new key and CIDs of its own, no CID was issued twice, only own CIDs were
retired, and `write_connection_close` did neither. -/
def Lawful : List Action → Prop
  | [] => True
  | .created o _ _ :: past => Lawful past ∧ o.key ∉ createdKeys past ∧ Unowned past o.cids
  | .called key call ans :: past =>
    Lawful past ∧ Unowned past ans.effect.issued ∧
      (∀ x ∈ ans.effect.retired, (x, key) ∈ owned (.called key call ans :: past)) ∧
      (call = .close → ans.effect.issued = [] ∧ ans.effect.retired = [])
  | _ :: past => Lawful past

instance decidableLawful : ∀ trace : List Action, Decidable (Lawful trace)
  | [] => isTrue trivial
  | .created o _ _ :: past =>
    have := decidableLawful past
    inferInstanceAs (Decidable (Lawful past ∧ o.key ∉ createdKeys past ∧ Unowned past o.cids))
  | .called key call ans :: past =>
    have := decidableLawful past
    inferInstanceAs (Decidable (Lawful past ∧ Unowned past ans.effect.issued ∧
      (∀ x ∈ ans.effect.retired, (x, key) ∈ owned (.called key call ans :: past)) ∧
      (call = .close → ans.effect.issued = [] ∧ ans.effect.retired = [])))
  | .retry .. :: past | .statelessReset .. :: past | .versionNegotiation _ :: past
  | .invalidTokenClose _ :: past | .returned .. :: past | .missingKey _ :: past
  | .panicked :: past => decidableLawful past

theorem owned_cons {a : Action} {past : List Action} {p : ConnectionId × ConnectionId}
    (h : p ∈ owned past) : p ∈ owned (a :: past) := by
  cases a <;> first | exact h | exact List.mem_append_right _ h

theorem owned_of_suffix {past trace : List Action} (hs : past <:+ trace)
    {p : ConnectionId × ConnectionId} (h : p ∈ owned past) : p ∈ owned trace := by
  obtain ⟨new, rfl⟩ := hs
  induction new with
  | nil => exact h
  | cons a new ih => exact owned_cons ih

namespace Lawful

theorem of_cons {a : Action} {past : List Action} (h : Lawful (a :: past)) : Lawful past := by
  cases a <;> first | exact h | exact h.1

theorem of_suffix {past trace : List Action} (hs : past <:+ trace) (h : Lawful trace) :
    Lawful past := by
  obtain ⟨new, rfl⟩ := hs
  induction new with
  | nil => exact h
  | cons a new ih => exact ih h.of_cons

theorem nodup_keys : ∀ {trace : List Action}, Lawful trace → (createdKeys trace).Nodup
  | [], _ => List.nodup_nil
  | a :: past, h => by
    have ih := nodup_keys h.of_cons
    cases a <;> first | exact ih | exact List.nodup_cons.mpr ⟨h.2.1, ih⟩

/-- A CID belongs to one connection. -/
theorem owner_unique : ∀ {trace : List Action}, Lawful trace → ∀ {x k k' : ConnectionId},
    (x, k) ∈ owned trace → (x, k') ∈ owned trace → k = k'
  | [], _, _, _, _, h, _ => by cases h
  | a :: past, hl, x, k, k', h, h' => by
    have ih : (x, k) ∈ owned past → (x, k') ∈ owned past → k = k' := owner_unique hl.of_cons
    -- what a step adds is owned by one key and by nobody before
    have hnew {key : ConnectionId} {xs : List ConnectionId} (hun : Unowned past xs)
        (h : (x, k) ∈ xs.map (·, key) ++ owned past)
        (h' : (x, k') ∈ xs.map (·, key) ++ owned past) : k = k' := by
      simp only [List.mem_append, List.mem_map, Prod.mk.injEq] at h h'
      rcases h with ⟨_, hx, rfl, rfl⟩ | h <;> rcases h' with ⟨_, hx', rfl, rfl⟩ | h'
      · rfl
      · exact absurd h' (hun.not_owned hx k')
      · exact absurd h (hun.not_owned hx' k)
      · exact ih h h'
    cases a with
    | created o retried src => exact hnew hl.2.2 h h'
    | called key call ans => exact hnew hl.2.1 h h'
    | _ => exact ih h h'

end Lawful

/-! ## One connection -/

/-- The CIDs of a connection are its own, and none that is still to be polled as issued was polled
as retired. -/
structure ConnOk (trace : List Action) (key : ConnectionId) (c : ConnCids) : Prop where
  created : ∃ retried src, .created c.origin retried src ∈ trace
  own : ∀ x, x ∈ c.origin.cids ∨ x ∈ c.issuedPolled ∨ x ∈ c.issuedCids → (x, key) ∈ owned trace
  retired_own : ∀ x, x ∈ c.retiredPolled ∨ x ∈ c.retiredCids → (x, key) ∈ owned trace
  not_retired : ∀ x ∈ c.issuedCids, x ∉ c.retiredPolled

namespace ConnOk

variable {trace : List Action} {key : ConnectionId} {c : ConnCids}

theorem mono (h : ConnOk trace key c) {trace' : List Action} (hs : trace <:+ trace') :
    ConnOk trace' key c where
  created := by
    obtain ⟨retried, src, h⟩ := h.created
    exact ⟨retried, src, hs.subset h⟩
  own x hx := owned_of_suffix hs (h.own x hx)
  retired_own x hx := owned_of_suffix hs (h.retired_own x hx)
  not_retired := h.not_retired

theorem call (h : ConnOk trace key c) {call : NgCall} {ans : Answer}
    (hl : Lawful (.called key call ans :: trace)) :
    ConnOk (.called key call ans :: trace) key (c.call ans.effect) where
  created := (h.mono (List.suffix_cons _ _)).created
  own x hx := by
    have hx' : (x ∈ c.origin.cids ∨ x ∈ c.issuedPolled ∨ x ∈ c.issuedCids) ∨
        x ∈ ans.effect.issued := by
      simpa [ConnCids.call, or_assoc] using hx
    rcases hx' with hx' | hx'
    · exact owned_cons (h.own x hx')
    · exact List.mem_append_left _ (List.mem_map.mpr ⟨x, hx', rfl⟩)
  retired_own x hx := by
    have hx' : (x ∈ c.retiredPolled ∨ x ∈ c.retiredCids) ∨ x ∈ ans.effect.retired := by
      simpa [ConnCids.call, or_assoc] using hx
    rcases hx' with hx' | hx'
    · exact owned_cons (h.retired_own x hx')
    · exact hl.2.2.1 x hx'
  not_retired x hx hret := by
    rcases List.mem_append.mp hx with hx | hx
    · exact h.not_retired x hx hret
    · exact hl.2.1.not_owned hx key (h.retired_own x (.inl hret))

theorem callAll (calls : List (NgCall × Answer)) (h : ConnOk trace key c)
    (hl : Lawful ((calls.map fun call => Action.called key call.1 call.2).reverse ++ trace)) :
    ConnOk ((calls.map fun call => Action.called key call.1 call.2).reverse ++ trace) key
      (c.callAll calls) := by
  induction calls generalizing trace c with
  | nil => exact h
  | cons call calls ih =>
    simp only [List.map_cons, List.reverse_cons, List.append_assoc, List.singleton_append] at hl ⊢
    rw [callAll_cons]
    exact ih (h.call (hl.of_suffix (List.suffix_append _ _))) hl

theorem new (o : Origin) (retried : Bool) (src : SocketAddr) (past : List Action) :
    ConnOk (.created o retried src :: past) o.key { origin := o } where
  created := ⟨retried, src, List.mem_cons_self⟩
  own x hx := by
    rcases hx with hx | hx | hx
    · exact List.mem_append_left _ (List.mem_map.mpr ⟨x, hx, rfl⟩)
    · cases hx
    · cases hx
  retired_own x hx := by
    rcases hx with hx | hx <;> cases hx
  not_retired x hx := by cases hx

theorem pollIssued (h : ConnOk trace key c) : ConnOk trace key c.pollIssued where
  created := h.created
  own x hx := h.own x (by simpa [ConnCids.pollIssued] using hx)
  retired_own := h.retired_own
  not_retired x hx := by cases hx

theorem poll (h : ConnOk trace key c) : ConnOk trace key c.pollIssued.pollRetired where
  created := h.created
  own x hx := h.own x (by simpa [ConnCids.pollIssued, ConnCids.pollRetired] using hx)
  retired_own x hx := h.retired_own x (by simpa [ConnCids.pollIssued, ConnCids.pollRetired] using hx)
  not_retired x hx := by cases hx

end ConnOk

/-- The CIDs that should be routed to a connection. -/
def ConnCids.Routable (c : ConnCids) (x : ConnectionId) : Prop :=
  (x ∈ c.origin.cids ∨ x ∈ c.issuedPolled) ∧ x ∉ c.retiredPolled

theorem routable_newConnection {o : Origin} {ans : Answers} {x : ConnectionId} :
    (newConnection o ans).Routable x ↔ x ∈ ans.issued ∨ x ∈ o.cids := by
  change (x ∈ o.cids ∨ x ∈ [] ++ ans.issued) ∧ x ∉ [] ↔ _
  simp [or_comm]

/-- The routes of a table lead to the owners of the CIDs. -/
def RouteTable.Owned (t : RouteTable) (trace : List Action) : Prop :=
  ∀ x k, t.cidMap.lookup x = some k → (x, k) ∈ owned trace

theorem RouteTable.Owned.mono {t : RouteTable} {trace trace' : List Action} (h : t.Owned trace)
    (hs : trace <:+ trace') : t.Owned trace' :=
  fun x k hx => owned_of_suffix hs (h x k hx)

section Poll

variable {t : RouteTable} {trace : List Action} {key : ConnectionId} {c : ConnCids}

/-- A poll completes the routes of a connection. -/
theorem polled_self (hc : ConnOk trace key c)
    (hr : ∀ x, t.cidMap.lookup x = some key ↔ c.Routable x) (x : ConnectionId) :
    ((t.registerCids key c.issuedCids).retireCids key c.retiredCids).cidMap.lookup x = some key ↔
      c.pollIssued.pollRetired.Routable x := by
  have hpend := hc.not_retired x
  rw [RouteTable.lookup_polled_self, hr]
  simp only [ConnCids.Routable, ConnCids.pollIssued, ConnCids.pollRetired, List.mem_append, not_or]
  tauto

/-- A poll leaves the routes of others alone. -/
theorem polled_ne (hl : Lawful trace) (hc : ConnOk trace key c) (ht : t.Owned trace)
    {k : ConnectionId} (hk : k ≠ key) (x : ConnectionId) :
    ((t.registerCids key c.issuedCids).retireCids key c.retiredCids).cidMap.lookup x = some k ↔
      t.cidMap.lookup x = some k := by
  rw [RouteTable.lookup_polled_ne _ _ hk]
  refine ⟨And.right, fun hx => ⟨fun hiss => hk ?_, hx⟩⟩
  exact hl.owner_unique (ht x k hx) (hc.own x (.inr (.inr hiss)))

theorem polled_owned (hl : Lawful trace) (hc : ConnOk trace key c) (ht : t.Owned trace) :
    ((t.registerCids key c.issuedCids).retireCids key c.retiredCids).Owned trace := by
  intro x k h
  by_cases hk : k = key
  · subst hk
    rcases ((RouteTable.lookup_polled_self _ _ _ _ _).mp h).1 with hx | hx
    · exact hc.own x (.inr (.inr hx))
    · exact ht x k hx
  · exact ht x k ((polled_ne hl hc ht hk x).mp h)

end Poll

/-! ## The invariant -/

/-- The part of the invariant that is about the server alone. -/
structure Server.Routing (s : Server) : Prop where
  closed : s.Closed
  created : ∀ k ∈ s.connections, k ∈ createdKeys s.trace
  owned : s.Owned s.trace
  ok : ∀ k c, s.connections.lookup k = some c → ConnOk s.trace k c.toConnCids
  polled : ∀ k c, s.connections.lookup k = some c → c.issuedCids = []
  routes : ∀ k c, s.connections.lookup k = some c →
    ∀ x, s.cidMap.lookup x = some k ↔ c.Routable x

theorem ServerEdit.suffix {cfg : ServerConfig} {s s' : Server} (he : ServerEdit cfg s s') :
    s.trace <:+ s'.trace := by
  cases he with
  | note a ha => exact List.suffix_cons _ _
  | limiter l => exact List.suffix_rfl
  | missing key hkey hroute => exact List.suffix_cons _ _
  | remove key => exact List.suffix_rfl
  | serve key c c₁ calls hkey hcids =>
    rw [trace_served]
    exact List.suffix_append _ _
  | close key c ans hkey => exact List.suffix_cons _ _
  | create o retried src ans hsize ho =>
    rw [trace_createConnection]
    exact ((List.suffix_cons _ _).trans (List.suffix_cons _ _)).trans (List.suffix_cons _ _)

namespace Server.Routing

variable {cfg : ServerConfig} {s : Server}

theorem record (hs : s.Routing) {a : Action} (hc : (s.record a).Closed)
    (hk : createdKeys (a :: s.trace) = createdKeys s.trace) : (s.record a).Routing where
  closed := hc
  created k hk' := hk.symm ▸ hs.created k hk'
  owned := hs.owned.mono (List.suffix_cons a s.trace)
  ok k c hc := (hs.ok k c hc).mono (List.suffix_cons a s.trace)
  polled := hs.polled
  routes := hs.routes

theorem note (hs : s.Routing) {a : Action} (ha : a.IsNote cfg) : (s.record a).Routing :=
  hs.record (hs.closed.note ha) (createdKeys_note ha s.trace)

theorem remove (hs : s.Routing) (key : ConnectionId) : (s.removeConnection key).Routing := by
  have hconn (k : ConnectionId) (c : ServerConnection)
      (hc : (s.removeConnection key).connections.lookup k = some c) :
      k ≠ key ∧ s.connections.lookup k = some c := Map.of_lookup_erase hc
  refine ⟨hs.closed.remove key, fun k hk => hs.created k (AList.mem_erase.mp hk).2,
    fun x k h => ?_, fun k c hc => ?_, fun k c hc => ?_, fun k c hc x => ?_⟩
  · exact hs.owned x k (RouteTable.lookup_removeRoutes _ _ |>.mp h).1
  · exact hs.ok k c (hconn k c hc).2
  · exact hs.polled k c (hconn k c hc).2
  · rw [← hs.routes k c (hconn k c hc).2 x]
    refine (RouteTable.lookup_removeRoutes _ _).trans ?_
    exact and_iff_left (hconn k c hc).1

theorem serve (hs : s.Routing) {key : ConnectionId} {c c₁ : ServerConnection}
    {calls : List (NgCall × Answer)} (hkey : s.connections.lookup key = some c)
    (hcids : c₁.toConnCids = c.toConnCids.callAll calls)
    (hl : Lawful (s.recordCalls key calls).trace) :
    ((s.recordCalls key calls).pollCids key c₁).Routing := by
  have hsuf : s.trace <:+ (s.recordCalls key calls).trace := by
    rw [trace_recordCalls]
    exact List.suffix_append _ _
  have hown := hs.owned.mono hsuf
  -- the connection after its calls, and before the poll
  have hc₁ : ConnOk (s.recordCalls key calls).trace key c₁.toConnCids := by
    rw [hcids]
    rw [trace_recordCalls] at hl ⊢
    exact (hs.ok key c hkey).callAll calls hl
  have hr₁ (x : ConnectionId) : s.cidMap.lookup x = some key ↔ c₁.Routable x := by
    rw [hs.routes key c hkey]
    simp [ConnCids.Routable, hcids]
  have htable := toRouteTable_served s key calls c₁
  have hconn (k : ConnectionId) (c' : ServerConnection)
      (hc : ((s.recordCalls key calls).pollCids key c₁).connections.lookup k = some c') :
      (k = key ∧ c' = c₁.pollCids) ∨ (k ≠ key ∧ s.connections.lookup k = some c') := by
    rw [connections_served] at hc
    exact Map.of_lookup_insert hc
  refine ⟨hs.closed.serve hkey hcids, fun k hk => ?_, ?_, fun k c' hc => ?_, fun k c' hc => ?_,
    fun k c' hc x => ?_⟩
  · rw [trace_served, createdKeys_append_called]
    rw [connections_served, AList.mem_insert] at hk
    rcases hk with rfl | hk
    · exact hs.created k (Map.mem_iff_lookup.mpr ⟨c, hkey⟩)
    · exact hs.created k hk
  · rw [htable]
    exact polled_owned hl hc₁ hown
  · rcases hconn k c' hc with ⟨rfl, rfl⟩ | ⟨-, hc⟩
    · exact hc₁.poll
    · exact (hs.ok k c' hc).mono hsuf
  · rcases hconn k c' hc with ⟨rfl, rfl⟩ | ⟨-, hc⟩
    · rfl
    · exact hs.polled k c' hc
  · rw [htable]
    rcases hconn k c' hc with ⟨rfl, rfl⟩ | ⟨hk, hc⟩
    · exact polled_self hc₁ hr₁ x
    · rw [polled_ne hl hc₁ hown hk]
      exact hs.routes k c' hc x

theorem close (hs : s.Routing) {key : ConnectionId} {c : ServerConnection} {ans : Answer}
    (hkey : s.connections.lookup key = some c) (hl : Lawful (.called key .close ans :: s.trace)) :
    ((s.setConnection key (c.call ans.effect)).record (.called key .close ans)).Routing := by
  have hsuf := List.suffix_cons (Action.called key .close ans) s.trace
  have hiss : ans.effect.issued = [] := (hl.2.2.2 rfl).1
  have hconn (k : ConnectionId) (c' : ServerConnection)
      (hc : (s.connections.insert key (c.call ans.effect)).lookup k = some c') :
      (k = key ∧ c' = c.call ans.effect) ∨ s.connections.lookup k = some c' :=
    (Map.of_lookup_insert hc).imp_right And.right
  refine ⟨(hs.closed.setCall ans.effect hkey).called key .close ans, fun k hk => ?_,
    hs.owned.mono hsuf, fun k c' hc => ?_, fun k c' hc => ?_, fun k c' hc x => ?_⟩
  · rcases (AList.mem_insert _).mp hk with rfl | hk
    · exact hs.created k (Map.mem_iff_lookup.mpr ⟨c, hkey⟩)
    · exact hs.created k hk
  · rcases hconn k c' hc with ⟨rfl, rfl⟩ | hc
    · exact (hs.ok k c hkey).call hl
    · exact (hs.ok k c' hc).mono hsuf
  · rcases hconn k c' hc with ⟨rfl, rfl⟩ | hc
    · change c.issuedCids ++ ans.effect.issued = []
      rw [hs.polled k c hkey, hiss]
      rfl
    · exact hs.polled k c' hc
  · rcases hconn k c' hc with ⟨rfl, rfl⟩ | hc
    · exact hs.routes k c hkey x
    · exact hs.routes k c' hc x

theorem create (hs : s.Routing) {o : Origin} {retried : Bool} {src : SocketAddr} {ans : Answers}
    (hsize : s.connections.size < maxConnections) (ho : o.Chosen cfg retried)
    (hl : Lawful (s.createConnection o retried src ans).trace) :
    (s.createConnection o retried src ans).Routing := by
  have htrace := trace_createConnection s o retried src ans
  have hsuf : s.trace <:+ (s.createConnection o retried src ans).trace :=
    (ServerEdit.create s o retried src ans hsize ho).suffix
  have hown := hs.owned.mono hsuf
  -- the laws say that the key is new and that nobody owned the CIDs
  rw [htrace] at hl
  obtain ⟨hkey, hcids⟩ := hl.of_cons.of_cons.2
  have hread {x : ConnectionId} (hx : x ∈ ans.read.effect.issued) (k : ConnectionId) :
      (x, k) ∉ Ngtcp2Rs.owned s.trace := fun hk =>
    hl.of_cons.2.1.not_owned hx k (owned_cons hk)
  have hflush {x : ConnectionId} (hx : x ∈ ans.flush.effect.issued) (k : ConnectionId) :
      (x, k) ∉ Ngtcp2Rs.owned s.trace := fun hk =>
    hl.2.1.not_owned hx k (owned_cons (owned_cons hk))
  have hnew {x k : ConnectionId} (hx : s.cidMap.lookup x = some k) :
      ¬(x ∈ ans.issued ∨ x ∈ o.cids) := by
    rintro (hx' | hx')
    · rcases List.mem_append.mp hx' with hx' | hx'
      · exact hread hx' k (hs.owned x k hx)
      · exact hflush hx' k (hs.owned x k hx)
    · exact hcids.not_owned hx' k (hs.owned x k hx)
  have hc : ConnOk (s.createConnection o retried src ans).trace o.key
      (newConnection o ans).toConnCids := by
    rw [htrace]
    exact (((ConnOk.new o retried src s.trace).call hl.of_cons).call hl).pollIssued
  have hconn (k : ConnectionId) (c : ServerConnection)
      (h : (s.createConnection o retried src ans).connections.lookup k = some c) :
      (k = o.key ∧ c = newConnection o ans) ∨ (k ≠ o.key ∧ s.connections.lookup k = some c) := by
    rw [connections_createConnection] at h
    exact Map.of_lookup_insert h
  refine ⟨hs.closed.create src ans hsize ho, fun k hk => ?_, fun x k h => ?_, fun k c h => ?_,
    fun k c h => ?_, fun k c h x => ?_⟩
  · rw [htrace]
    change k ∈ o.key :: createdKeys s.trace
    rw [connections_createConnection, AList.mem_insert] at hk
    exact List.mem_cons.mpr (hk.imp_right (hs.created k))
  · rw [lookup_createConnection ho] at h
    split_ifs at h with hx
    · cases h
      refine hc.own x ?_
      rcases hx with hx | hx
      · exact .inr (.inl hx)
      · exact .inl hx
    · exact hown x k h
  · rcases hconn k c h with ⟨rfl, rfl⟩ | ⟨-, h⟩
    · exact hc
    · exact (hs.ok k c h).mono hsuf
  · rcases hconn k c h with ⟨rfl, rfl⟩ | ⟨-, h⟩
    · rfl
    · exact hs.polled k c h
  · rw [lookup_createConnection ho]
    rcases hconn k c h with ⟨rfl, rfl⟩ | ⟨hk, h⟩
    · rw [routable_newConnection]
      split_ifs with hx
      · exact iff_of_true rfl hx
      · refine iff_of_false (fun hx' => hkey ?_) hx
        exact hs.created _ (hs.closed.cid_mem x _ hx')
    · rw [← hs.routes k c h x]
      split_ifs with hx
      · exact iff_of_false (fun hk' => hk (by cases hk'; rfl)) (fun hx' => hnew hx' hx)
      · exact Iff.rfl

theorem edit (hs : s.Routing) {s' : Server} (he : ServerEdit cfg s s') (hl : Lawful s'.trace) :
    s'.Routing := by
  have hclosed := hs.closed.edit he
  cases he with
  | note a ha => exact hs.note ha
  | limiter l => exact ⟨hclosed, hs.2, hs.3, hs.4, hs.5, hs.6⟩
  | missing key hkey hroute => exact absurd List.mem_cons_self (hclosed.not_missing key)
  | remove key => exact hs.remove key
  | serve key c c₁ calls hkey hcids => exact hs.serve hkey hcids hl
  | close key c ans hkey => exact hs.close hkey hl
  | create o retried src ans hsize ho => exact hs.create hsize ho hl

end Server.Routing

/-- The routes to the live connections are complete, in the server's table up to the hand-over and
in the shared one from then on. -/
structure Routing (w : World) : Prop where
  named : Named w
  server : w.server.Routing
  shared_closed : w.routes.Closed
  owned : w.routes.Owned w.trace
  ok : ∀ h a, w.accepted.lookup h = some a → ConnOk w.trace a.connectionId a.inner.toConnCids
  routes : ∀ h a, w.accepted.lookup h = some a →
    ∀ x, w.routes.cidMap.lookup x = some a.connectionId ↔ a.inner.Routable x

namespace Routing

variable {cfg : ServerConfig} {w : World}

theorem init (cfg : ServerConfig) : Routing (.init cfg) where
  named := .init cfg
  server := ⟨.bind cfg, fun k hk => (by cases hk), fun x k h => (by cases h),
    fun k c h => (by cases h), fun k c h => (by cases h), fun k c h => (by cases h)⟩
  shared_closed := ⟨fun x k h => (by cases h), fun a k h => (by cases h)⟩
  owned x k h := by cases h
  ok h a ha := by cases ha
  routes h a ha := by cases ha

/-- The key of a live handle is not in the server's table. -/
theorem not_server (hw : Routing w) {h : ℕ} {a : AcceptedConnection}
    (ha : w.accepted.lookup h = some a) (x : ConnectionId) :
    w.server.cidMap.lookup x ≠ some a.connectionId :=
  fun hx => hw.named.accepted_not_server h a ha (hw.server.closed.cid_mem x _ hx)

/-- The key of a connection of the server is not in the shared table. -/
theorem not_shared (hw : Routing w) {k : ConnectionId} (hk : k ∈ w.server.connections)
    (x : ConnectionId) : w.routes.cidMap.lookup x ≠ some k :=
  fun hx => hw.named.sender_not_server k (hw.shared_closed.cid_mem x k hx) hk

/-- The trace grows. -/
theorem withServer (hw : Routing w) {s : Server} (hn : Named { w with server := s })
    (hs : s.Routing) (hsuf : w.trace <:+ s.trace) : Routing { w with server := s } where
  named := hn
  server := hs
  shared_closed := hw.shared_closed
  owned := hw.owned.mono hsuf
  ok h a ha := (hw.ok h a ha).mono hsuf
  routes := hw.routes

theorem take (hw : Routing w) {key : ConnectionId} {s : Server} {r : SharedRoutes}
    {c : ServerConnection} (ht : Taken w.server w.routes key w.nextHandle s r c)
    (hl : Lawful w.trace) :
    Routing { server := s, routes := r
              accepted := w.accepted.insert w.nextHandle { connectionId := key, inner := c }
              nextHandle := w.nextHandle + 1 } := by
  have hkey : key ∈ w.server.connections := Map.mem_iff_lookup.mpr ⟨c, ht.found⟩
  refine ⟨hw.named.take ht, ⟨hw.server.closed.take ht, fun k hk => ?_, fun x k h => ?_,
    fun k c' h => ?_, fun k c' h => ?_, fun k c' h x => ?_⟩, hw.shared_closed.take ht,
    fun x k h => ?_, fun h a ha => ?_, fun h a ha x => ?_⟩
  · rw [ht.trace_eq]
    exact hw.server.created k (AList.mem_erase.mp (ht.connections_eq ▸ hk)).2
  · rw [ht.trace_eq]
    exact hw.server.owned x k ((ht.cid_iff x k).mp h).1
  · rw [ht.trace_eq]
    exact hw.server.ok k c' (ht.of_lookup h).2
  · exact hw.server.polled k c' (ht.of_lookup h).2
  · rw [ht.cid_iff, ← hw.server.routes k c' (ht.of_lookup h).2 x]
    exact and_iff_left (ht.of_lookup h).1
  · change (x, k) ∈ Ngtcp2Rs.owned s.trace
    rw [ht.trace_eq]
    have h' : r.cidMap.lookup x = some k := h
    rw [ht.shared_cid] at h'
    split_ifs at h' with hx
    · cases h'
      exact hw.server.owned x key hx
    · exact hw.owned x k h'
  · change ConnOk s.trace _ _
    rw [ht.trace_eq]
    rcases hw.named.lookup_take hkey ha with ⟨-, hid, hin⟩ | ⟨ha, -⟩
    · rw [hid, hin]
      exact hw.server.ok key c ht.found
    · exact hw.ok h a ha
  · change r.cidMap.lookup x = _ ↔ _
    rw [ht.shared_cid]
    rcases hw.named.lookup_take hkey ha with ⟨-, hid, hin⟩ | ⟨ha, hid⟩
    · rw [hid, hin, ← hw.server.routes key c ht.found x]
      split_ifs with hx
      · exact iff_of_true rfl hx
      · exact iff_of_false (hw.not_shared hkey x) hx
    · rw [← hw.routes h a ha x]
      split_ifs with hx
      · -- a CID of the connection that is handed over belongs to nobody else
        refine iff_of_false (fun hk => hid (by cases hk; rfl)) (fun hx' => hid ?_)
        exact hl.owner_unique (hw.owned x _ hx') (hw.server.owned x key hx)
      · exact Iff.rfl

theorem lookup_remove {r : SharedRoutes} {key k : ConnectionId} (hk : k ≠ key) (x : ConnectionId) :
    (r.remove key).cidMap.lookup x = some k ↔ r.cidMap.lookup x = some k :=
  (RouteTable.lookup_removeRoutes _ _).trans (and_iff_left hk)

theorem unroute (hw : Routing w) {key : ConnectionId} (hr : w.receiver key = none) :
    Routing { w with routes := w.routes.remove key } where
  named := hw.named.unroute hr
  server := hw.server
  shared_closed := hw.shared_closed.remove key
  owned x k h := hw.owned x k (RouteTable.lookup_removeRoutes _ _ |>.mp h).1
  ok := hw.ok
  routes h a ha x := by
    have hne : a.connectionId ≠ key := by
      rintro rfl
      rw [hw.named.receiver ha] at hr
      cases hr
    rw [← hw.routes h a ha x]
    exact lookup_remove hne x

theorem drop (hw : Routing w) {h : ℕ} {a : AcceptedConnection}
    (ha : w.accepted.lookup h = some a) : Routing (w.drop h a) := by
  have hlive (h' : ℕ) (a' : AcceptedConnection) (ha' : (w.accepted.erase h).lookup h' = some a') :
      a'.connectionId ≠ a.connectionId ∧ w.accepted.lookup h' = some a' := by
    obtain ⟨hne, ha'⟩ := Map.of_lookup_erase ha'
    exact ⟨fun heq => hne (hw.named.accepted_inj h' h a' a ha' ha heq), ha'⟩
  refine ⟨hw.named.drop ha, hw.server, hw.shared_closed.remove _, fun x k h => ?_,
    fun h' a' ha' => ?_, fun h' a' ha' x => ?_⟩
  · exact hw.owned x k (RouteTable.lookup_removeRoutes _ _ |>.mp h).1
  · exact hw.ok h' a' (hlive h' a' ha').2
  · rw [← hw.routes h' a' (hlive h' a' ha').2 x]
    exact lookup_remove (hlive h' a' ha').1 x

/-- Replace a handle by one whose CIDs are routed the same. -/
theorem set (hw : Routing w) {h : ℕ} {a a' : AcceptedConnection}
    (ha : w.accepted.lookup h = some a) (hid : a'.connectionId = a.connectionId)
    (hok : ConnOk w.trace a.connectionId a'.inner.toConnCids)
    (hrout : ∀ x, a'.inner.Routable x ↔ a.inner.Routable x) : Routing (w.set h a') := by
  have hlive (h₁ : ℕ) (a₁ : AcceptedConnection) (ha₁ : (w.accepted.insert h a').lookup h₁ = some a₁) :
      a₁ = a' ∨ w.accepted.lookup h₁ = some a₁ :=
    (Map.of_lookup_insert ha₁).imp And.right And.right
  refine ⟨hw.named.set ha hid, hw.server, hw.shared_closed, hw.owned, fun h₁ a₁ ha₁ => ?_,
    fun h₁ a₁ ha₁ x => ?_⟩
  · rcases hlive h₁ a₁ ha₁ with rfl | ha₁
    · rw [hid]
      exact hok
    · exact hw.ok h₁ a₁ ha₁
  · rcases hlive h₁ a₁ ha₁ with rfl | ha₁
    · rw [hid, hrout]
      exact hw.routes h a ha x
    · exact hw.routes h₁ a₁ ha₁ x

theorem call (hw : Routing w) {h : ℕ} {a a' : AcceptedConnection} {c : NgCall} {ans : Answer}
    (ha : w.accepted.lookup h = some a) (hid : a'.connectionId = a.connectionId)
    (hc : a'.inner.toConnCids = a.inner.toConnCids.call ans.effect)
    (hl : Lawful (.called a.connectionId c ans :: w.trace)) :
    Routing ((w.set h a').record (.called a.connectionId c ans)) := by
  have hrec : Routing (w.record (.called a.connectionId c ans)) := by
    refine hw.withServer (hw.named.record rfl) (hw.server.record ?_ rfl) (List.suffix_cons _ _)
    exact hw.server.closed.called a.connectionId c ans
  have hok := (hw.ok h a ha).call hl
  refine hrec.set ha hid (hc ▸ hok) fun x => ?_
  simp [ConnCids.Routable, hc, ConnCids.call]

theorem sync (hw : Routing w) {h : ℕ} {a : AcceptedConnection}
    (ha : w.accepted.lookup h = some a) (hl : Lawful w.trace) : Routing (w.syncRoutes h a) := by
  have hok := hw.ok h a ha
  have hlive (h₁ : ℕ) (a₁ : AcceptedConnection)
      (ha₁ : (w.accepted.insert h a.polled).lookup h₁ = some a₁) :
      a₁ = a.polled ∨ (a₁.connectionId ≠ a.connectionId ∧ w.accepted.lookup h₁ = some a₁) := by
    rcases Map.of_lookup_insert ha₁ with ⟨-, rfl⟩ | ⟨hne, ha₁⟩
    · exact .inl rfl
    · exact .inr ⟨fun heq => hne (hw.named.accepted_inj h₁ h a₁ a ha₁ ha heq), ha₁⟩
  refine ⟨hw.named.sync ha, hw.server, hw.shared_closed.sync ?_ _ _, polled_owned hl hok hw.owned,
    fun h₁ a₁ ha₁ => ?_, fun h₁ a₁ ha₁ x => ?_⟩
  · exact Map.mem_iff_lookup.mpr ⟨h, hw.named.sender h a ha⟩
  · rcases hlive h₁ a₁ ha₁ with rfl | ⟨-, ha₁⟩
    · exact hok.poll
    · exact hw.ok h₁ a₁ ha₁
  · rcases hlive h₁ a₁ ha₁ with rfl | ⟨hne, ha₁⟩
    · exact polled_self hok (hw.routes h a ha) x
    · rw [← hw.routes h₁ a₁ ha₁ x]
      exact polled_ne hl hok hw.owned hne x

/-- **Routing stays complete.** -/
theorem edit (hw : Routing w) {w' : World} (he : Edit cfg w w') (hl : Lawful w'.trace) :
    Routing w' := by
  have hn := hw.named.edit he hl.nodup_keys
  cases he with
  | server s hs => exact hw.withServer hn (hw.server.edit hs hl) hs.suffix
  | note a ha => exact hw.withServer hn (hw.server.note ha) (List.suffix_cons _ _)
  | take key s r c ht =>
    have ht := takeConnection_taken ht
    have htrace : s.trace = w.trace := ht.trace_eq
    exact hw.take ht (htrace ▸ hl)
  | unroute key hr => exact hw.unroute hr
  | update h a a' ha hid hc =>
    exact hw.set ha hid (hc ▸ hw.ok h a ha) fun x => by rw [hc]
  | call h a a' c ans ha hid hc => exact hw.call ha hid hc hl
  | sync h a ha => exact hw.sync ha hl
  | drop h a ha => exact hw.drop ha

end Routing

theorem Edit.suffix {cfg : ServerConfig} {w w' : World} (he : Edit cfg w w') :
    w.trace <:+ w'.trace := by
  cases he with
  | server s hs => exact hs.suffix
  | note a ha => exact List.suffix_cons _ _
  | take key s r c ht =>
    have htrace : s.trace = w.trace := (takeConnection_taken ht).trace_eq
    exact htrace ▸ List.suffix_rfl
  | call h a a' c ans ha hid hc => exact List.suffix_cons _ _
  | _ => exact List.suffix_rfl

/-- A step with a lawful trace keeps the invariant. -/
theorem step_routing {ext : External} {cfg : ServerConfig} {w : World} {l : Label}
    (hw : Routing w) (hl : Lawful (w.step ext cfg l).trace) : Routing (w.step ext cfg l) := by
  have hchain {w' : World} (hsteps : Edits cfg w w') : Lawful w'.trace → Routing w' := by
    induction hsteps with
    | refl => exact fun _ => hw
    | tail _ hlast ih => exact fun hl => (ih (hl.of_suffix hlast.suffix)).edit hlast hl
  exact hchain (step_edits ext cfg w l) hl

theorem edits_suffix {cfg : ServerConfig} {w w' : World} (h : Edits cfg w w') :
    w.trace <:+ w'.trace := by
  induction h with
  | refl => exact List.suffix_rfl
  | tail _ hlast ih => exact ih.trans hlast.suffix

theorem step_suffix (ext : External) (cfg : ServerConfig) (w : World) (l : Label) :
    w.trace <:+ (w.step ext cfg l).trace := edits_suffix (step_edits ext cfg w l)

/-- The invariant holds after every run with a lawful trace. -/
theorem run_routing (ext : External) (cfg : ServerConfig) (ls : List Label)
    (hl : Lawful (run (World.step ext cfg) (.init cfg) ls).trace) :
    Routing (run (World.step ext cfg) (.init cfg) ls) := by
  refine edits_invariant (I := fun w => Lawful w.trace → Routing w) (fun _ => .init cfg)
    (fun w w' he hw hl => ?_) ls hl
  exact (hw (hl.of_suffix he.suffix)).edit he hl

/-! ## A server to try things on -/

/-- A CID of eight equal bytes. -/
def sampleCid (b : UInt8) : ConnectionId := ⟨List.replicate 8 b, by simp [maxCidLen]⟩

/-- A random generator that repeats one byte. -/
def sampleFill (b : UInt8) : Fill := fun len => some ⟨List.replicate len b, List.length_replicate⟩

/-- An address, by its port. -/
def sampleAddr (port : BitVec 16) : SocketAddr := .v4 0x7f000001 port

/-- A byte for an address. -/
def sampleAddrByte : SocketAddr → UInt8
  | .v4 _ port | .v6 _ port _ _ => .ofNat port.toNat

/-- ngtcp2 on the packets of the samples: eight-byte CIDs, tokens bound to the address and to the
SCID of the Retry. -/
def sampleExternal : External where
  decodePacketVersion _ := some 1
  acceptInitial data :=
    if data.length < 1200 then none
    else
      (longDcid data).map fun dcid =>
        ⟨1, dcid, .empty, (data.drop 16).take (data[15]?.map UInt8.toNat |>.getD 0)⟩
  generateRetryToken _ dst scid originalDcid _ :=
    some (0xb7 :: sampleAddrByte dst :: originalDcid.data ++ scid.data)
  verifyRetryToken token _ src dcid _ :=
    match token with
    | 0xb7 :: b :: rest =>
      if b = sampleAddrByte src ∧ rest.drop 8 = dcid.data then ConnectionId.new (rest.take 8)
      else none
    | _ => none
  verifyNewToken _ _ _ := false
  resetToken cid := some (cid.data ++ cid.data)

/-- A server without Retry, with SCIDs of eight bytes. -/
def sampleConfig : ServerConfig where
  scidLen := 8
  quicVersions := [.v1]
  retry := false
  preferredAddr := none

/-- An Initial. -/
def sampleInitial (dcid : ConnectionId) (token : Bytes) : Bytes :=
  [0xc3, 0, 0, 0, 1, 8] ++ dcid.data ++ [0, .ofNat token.length] ++ token ++ List.replicate 1200 0

/-- A datagram from a port. -/
def sampleDatagram (data : Bytes) (port : BitVec 16) : InboundDatagram :=
  ⟨data, sampleAddr port, sampleAddr 443, 0⟩

/-- The state of the server after some labels. -/
@[irreducible] def sampleRun (cfg : ServerConfig) (ls : List Label) : World :=
  run (World.step sampleExternal cfg) (.init cfg) ls

theorem sampleRun_eq (cfg : ServerConfig) (ls : List Label) :
    sampleRun cfg ls = run (World.step sampleExternal cfg) (.init cfg) ls := by
  unfold sampleRun
  rfl

/-- A connection is created and accepted; it issues CIDs before and after, and retires one. -/
def sampleAccepted : List Label :=
  [.datagram (sampleDatagram (sampleInitial (sampleCid 1) []) 1) 0
    { read := { effect := { issued := [sampleCid 3], handshakeCompleted := true } }
      scid := sampleFill 2 },
   .removeClosed, .accept (sampleCid 2),
   .op 0 (.recvEvent { effect := { issued := [sampleCid 4], retired := [sampleCid 3] } }),
   .op 0 .sent]

end Ngtcp2Rs
