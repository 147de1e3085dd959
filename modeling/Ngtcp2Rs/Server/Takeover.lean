import Ngtcp2Rs.Server.Ownership

/-!
# New connections and live ones

When does a new connection take over routes of a live one? With fresh random draws, there are three
ways: the SCID of an old Retry is still the key of a connection, the original DCID in a Retry token
is routed to another connection, and two clients without CIDs share an address.

* `TakesOnly`: the key is new, and the routes to live connections are the same after the call and
  after the hand-over of the new connection, but for some exceptions.
* `takesNothing_iff`: exactly when there are none.
* `routes_kept`: at worst, the exceptions are the original DCID in a Retry token and the address of
  a client whose connection has no CID.
* `live_routes_taken`: two clients with one original DCID, and a replayed token.
-/

namespace Ngtcp2Rs

open Lib

/-- `ngtcp2_accept` reads the DCID of the long header. -/
def External.ReadsDcid (ext : External) : Prop :=
  ∀ data accepted, ext.acceptInitial data = some accepted → longDcid data = some accepted.dcid

/-- A live connection, of the server or of a handle. -/
def World.Live (w : World) (k : ConnectionId) : Prop :=
  k ∈ w.server.connections ∨ ∃ h a, w.accepted.lookup h = some a ∧ a.connectionId = k

/-- Of the routes to `k` in `w`, those in `w'` are also in `w''`, but for the routes of `cids` and
`addrs`. -/
structure Keeps (cids : ConnectionId → Prop) (addrs : SocketAddr → Prop) (w w' w'' : World)
    (k : ConnectionId) : Prop where
  cid : ∀ x, ¬ cids x → w.server.cidMap.lookup x = some k → w'.server.cidMap.lookup x = some k →
    w''.server.cidMap.lookup x = some k
  addr : ∀ a, ¬ addrs a → w.server.addrMap.lookup a = some k →
    w'.server.addrMap.lookup a = some k → w''.server.addrMap.lookup a = some k
  shared_cid : ∀ x, ¬ cids x → w.routes.cidMap.lookup x = some k →
    w'.routes.cidMap.lookup x = some k → w''.routes.cidMap.lookup x = some k
  shared_addr : ∀ a, ¬ addrs a → w.routes.addrMap.lookup a = some k →
    w'.routes.addrMap.lookup a = some k → w''.routes.addrMap.lookup a = some k

theorem Keeps.of_eq {cids : ConnectionId → Prop} {addrs : SocketAddr → Prop} {w w' w'' : World}
    {k : ConnectionId} (hs : w''.server.toRouteTable = w'.server.toRouteTable)
    (hr : w''.routes = w'.routes) : Keeps cids addrs w w' w'' k := by
  refine ⟨fun x _ _ h => ?_, fun a _ _ h => ?_, fun x _ _ h => ?_, fun a _ _ h => ?_⟩
  · rw [hs]
    exact h
  · rw [hs]
    exact h
  · rw [hr]
    exact h
  · rw [hr]
    exact h

/-- An action after which the connection `key` still has no routes of others: nobody else gets its
key, and the CIDs that it issues are free. -/
def Action.Clear (free : ConnectionId → Prop) (key : ConnectionId) : Action → Prop
  | created o _ _ => o.key ≠ key
  | called k _ ans => k = key → ∀ x ∈ ans.effect.issued, free x
  | _ => True

/-- A datagram takes only the routes of `cids` and `addrs` over: the key of a connection that it
creates is new, and the other routes to live connections are kept, also when the new connection is
handed over later on. -/
structure TakesOnly (cids : Origin → Bool → ConnectionId → Prop) (addrs : Origin → SocketAddr → Prop)
    (ext : External) (cfg : ServerConfig) (w : World) (d : InboundDatagram) (ts : ℕ)
    (ans : Answers) : Prop where
  key : ∀ accepted o retried,
    Creates ext cfg w.server d.data d.src ts ans accepted o retried →
      o.key ∉ w.server.connections ∧ o.key ∉ w.routes.senders
  unchanged : (∀ accepted o retried,
      ¬ Creates ext cfg w.server d.data d.src ts ans accepted o retried) →
    ∀ k, Keeps (fun _ => False) (fun _ => False) w w (w.handleDatagram ext cfg d ts ans) k
  created : ∀ accepted o retried,
    Creates ext cfg w.server d.data d.src ts ans accepted o retried →
      ∀ k, w.Live k →
        Keeps (cids o retried) (addrs o) w w (w.handleDatagram ext cfg d ts ans) k
  taken : ∀ accepted o retried,
    Creates ext cfg w.server d.data d.src ts ans accepted o retried → ∀ ls acts w₂,
      w₂ = run (World.step ext cfg) (w.handleDatagram ext cfg d ts ans) ls →
      w₂.trace = acts ++ (w.handleDatagram ext cfg d ts ans).trace →
      (∀ a ∈ acts, a.Clear (fun x => w.routes.cidMap.lookup x = none) o.key) →
      ∀ n s r c, w₂.server.takeConnection w₂.routes o.key n = some (s, r, c) →
        ∀ k, w.Live k →
          Keeps (cids o retried) (addrs o) w w₂ { w₂ with server := s, routes := r } k

/-- A datagram takes nothing over. -/
abbrev TakesNothing : External → ServerConfig → World → InboundDatagram → ℕ → Answers → Prop :=
  TakesOnly (fun _ _ _ => False) (fun _ _ => False)

/-- The route that a connection with a Retry token replaces: its client does not use the original
DCID any more. -/
def Replaced (o : Origin) (retried : Bool) (x : ConnectionId) : Prop :=
  retried = true ∧ x = o.originalDcid

/-- The route that a connection without CIDs replaces: one connection for each address. -/
def ReplacedAddr (src : SocketAddr) (o : Origin) (a : SocketAddr) : Prop :=
  o.scid.isEmpty = true ∧ a = src

/-- What was drawn at random is new: the SCID unless it came in a Retry, the internal key of an
empty SCID, the preferred address CID and the issued CIDs. -/
structure FreshDraws (w : World) (o : Origin) (retried : Bool) (ans : Answers) : Prop where
  key : retried = false ∨ o.scid.isEmpty = true →
    o.key ∉ w.server.connections ∧ o.key ∉ w.routes.senders
  cids : ∀ x ∈ (if retried || o.scid.isEmpty then [] else [o.scid]) ++
      o.preferredAddrCid.toList ++ ans.issued,
    w.server.cidMap.lookup x = none ∧ w.routes.cidMap.lookup x = none

/-- The key of the new connection and the routes it needs are free: the DCID of a packet with a
Retry token is no key, the original DCID in the token is not routed to another live connection, and
neither is the address of a client whose connection gets no CID. -/
structure Vacant (cfg : ServerConfig) (w : World) (accepted : AcceptedInitial) (o : Origin)
    (retried : Bool) (src : SocketAddr) : Prop where
  dcid : retried = true → accepted.dcid.isEmpty = false →
    accepted.dcid ∉ w.server.connections ∧ accepted.dcid ∉ w.routes.senders
  original : retried = true → ∀ k, w.Live k → k ≠ o.key →
    w.server.cidMap.lookup o.originalDcid ≠ some k ∧ w.routes.cidMap.lookup o.originalDcid ≠ some k
  addr : (if retried then accepted.dcid.isEmpty = true else cfg.scidLen = 0) → ∀ k, w.Live k →
    k ≠ o.key → w.server.addrMap.lookup src ≠ some k

section

variable {ext : External} {cfg : ServerConfig} {w : World} {d : InboundDatagram} {ts : ℕ}
  {ans : Answers} {accepted : AcceptedInitial} {o : Origin} {retried : Bool}

theorem scid_isEmpty_iff
    (hc : Creates ext cfg w.server d.data d.src ts ans accepted o retried) :
    o.scid.isEmpty = true ↔ if retried then accepted.dcid.isEmpty = true else cfg.scidLen = 0 := by
  have hscid := scid_chooseIds hc.ids
  cases retried with
  | false =>
    have hlen : o.scid.len = cfg.scidLen := hscid
    simp only [Bool.false_eq_true, if_false]
    rw [← hlen]
    simp [ConnectionId.isEmpty, ConnectionId.len]
  | true =>
    have heq : o.scid = accepted.dcid := hscid
    simp [heq]

/-- Without a Retry token, the original DCID is the one of the packet. -/
theorem originalDcid_eq (hc : Creates ext cfg w.server d.data d.src ts ans accepted o retried)
    (hr : retried = false) : o.originalDcid = accepted.dcid := by
  obtain ⟨version, validated, hv, -⟩ := hc.valid
  unfold Server.validate at hv
  split at hv
  · split at hv
    · cases hv
    · injection hv with hdcid
      exact hdcid.symm
  · split at hv
    · injection hv with _ _ hret
      rw [hr] at hret
      cases hret
    · cases hv
  · split at hv
    · injection hv with hdcid
      exact hdcid.symm
    · cases hv

theorem Unknown.dcid (hu : Unknown w d) {dcid : ConnectionId} (hd : longDcid d.data = some dcid) :
    w.server.cidMap.lookup dcid = none ∧ w.routes.cidMap.lookup dcid = none := by
  have h₁ := hu.server
  have h₂ := hu.shared
  unfold Server.existingKey at h₁
  unfold SharedRoutes.resolve at h₂
  rw [resolveDcid_long hu.long, hd, Option.orElse_eq_or, Option.or_eq_none_iff] at h₁ h₂
  exact ⟨h₁.1, h₂.1⟩

theorem Unknown.addr (hu : Unknown w d) : w.routes.addrMap.lookup d.src = none := by
  have h := hu.shared
  unfold SharedRoutes.resolve at h
  rw [Option.orElse_eq_or, Option.or_eq_none_iff] at h
  exact h.2

/-- The routes that a new connection enters are free, but for its original DCID. -/
theorem entered_free (hext : ext.ReadsDcid) (hu : Unknown w d)
    (hc : Creates ext cfg w.server d.data d.src ts ans accepted o retried)
    (hf : FreshDraws w o retried ans) {x : ConnectionId} (hx : x ∈ ans.issued ∨ x ∈ o.cids) :
    (w.server.cidMap.lookup x = none ∧ w.routes.cidMap.lookup x = none) ∨
      (retried = true ∧ x = o.originalDcid) := by
  have hdcid := hu.dcid (hext d.data accepted hc.accept)
  have hdrawn := hf.cids x
  rcases hx with hx | hx
  · exact .inl (hdrawn (List.mem_append_right _ hx))
  unfold Origin.cids at hx
  rcases List.mem_append.mp hx with hx | hx
  · split_ifs at hx with he
    · cases hx
    · cases List.mem_singleton.mp hx
      cases hret : retried with
      | false => exact .inl (hdrawn (by simp [hret, he]))
      | true =>
        have hscid := scid_chooseIds hc.ids
        rw [if_pos hret] at hscid
        exact .inl (hscid.symm ▸ hdcid)
  · rcases List.mem_cons.mp hx with rfl | hx
    · cases hret : retried with
      | false => exact .inl (originalDcid_eq hc hret ▸ hdcid)
      | true => exact .inr ⟨rfl, rfl⟩
    · exact .inl (hdrawn (List.mem_append_left _ (List.mem_append_right _ hx)))

/-- The key of a new connection is the SCID of the Retry, or was drawn. -/
theorem key_cases (hc : Creates ext cfg w.server d.data d.src ts ans accepted o retried) :
    (retried = false ∨ o.scid.isEmpty = true) ∨
      (retried = true ∧ accepted.dcid.isEmpty = false ∧ o.key = accepted.dcid) := by
  have hscid := scid_chooseIds hc.ids
  cases hret : retried with
  | false => exact .inl (.inl rfl)
  | true =>
    rw [if_pos hret] at hscid
    cases he : o.scid.isEmpty with
    | true => exact .inl (.inr rfl)
    | false =>
      have hkey := (chosen_chooseIds hc.ids).key_eq he
      exact .inr ⟨rfl, hscid ▸ he, hkey.trans hscid⟩

end

/-! ## Until the hand-over -/

/-- The connection `key` has the routes that it had in `s₁`, and free CIDs. -/
structure Server.Gains (free : ConnectionId → Prop) (key : ConnectionId) (s₁ s : Server) : Prop where
  cid : ∀ x, s.cidMap.lookup x = some key → s₁.cidMap.lookup x = some key ∨ free x
  addr : ∀ a, s.addrMap.lookup a = some key → s₁.addrMap.lookup a = some key
  issued : ∀ c, s.connections.lookup key = some c → ∀ x ∈ c.issuedCids, free x

namespace Server.Gains

variable {free : ConnectionId → Prop} {key : ConnectionId} {s₁ s s' : Server} {cfg : ServerConfig}

theorem serve (hs : Gains free key s₁ s) {k : ConnectionId} {c c₁ : ServerConnection}
    {calls : List (NgCall × Answer)} (hc : s.connections.lookup k = some c)
    (hcids : c₁.toConnCids = c.toConnCids.callAll calls)
    (hnew : ∀ call ∈ calls, k = key → ∀ x ∈ call.2.effect.issued, free x) :
    Gains free key s₁ ((s.recordCalls k calls).pollCids k c₁) := by
  have htable := toRouteTable_served s k calls c₁
  refine ⟨fun x hx => ?_, fun a ha => hs.addr a ?_, fun c' hc' x hx => ?_⟩
  · rw [htable] at hx
    by_cases hk : k = key
    · subst hk
      rw [RouteTable.lookup_polled_self] at hx
      rcases hx.1 with hx | hx
      · rw [hcids] at hx
        rcases mem_issued_callAll hx with hx | ⟨call, hmem, hx⟩
        · exact .inr (hs.issued c hc x hx)
        · exact .inr (hnew call hmem rfl x hx)
      · exact hs.cid x hx
    · rw [RouteTable.lookup_polled_ne _ _ (Ne.symm hk)] at hx
      exact hs.cid x hx.2
  · rw [htable] at ha
    simpa using ha
  · rw [connections_served] at hc'
    rcases Map.of_lookup_insert hc' with ⟨-, rfl⟩ | ⟨-, hc'⟩
    · cases hx
    · exact hs.issued c' hc' x hx

theorem create (hs : Gains free key s₁ s) {o : Origin} {retried : Bool} (src : SocketAddr)
    (ans : Answers) (ho : o.Chosen cfg retried) (hne : o.key ≠ key) :
    Gains free key s₁ (s.createConnection o retried src ans) := by
  refine ⟨fun x hx => hs.cid x ?_, fun a ha => hs.addr a ?_, fun c hc => hs.issued c ?_⟩
  · rw [lookup_createConnection ho] at hx
    split_ifs at hx
    · exact absurd (Option.some.inj hx) hne
    · exact hx
  · rw [addrMap_createConnection ho] at ha
    split_ifs at ha
    · exact absurd (Option.some.inj ha) hne
    · exact ha
  · rw [connections_createConnection, Map.lookup_insert_if, if_neg (Ne.symm hne)] at hc
    exact hc

theorem edit (hs : Gains free key s₁ s) (he : ServerEdit cfg s s') {acts : List Action}
    (htrace : s'.trace = acts ++ s.trace) (hacts : ∀ a ∈ acts, a.Clear free key) :
    Gains free key s₁ s' := by
  have hnew {l : List Action} (h : s'.trace = l ++ s.trace) : ∀ a ∈ l, a.Clear free key := by
    rw [List.append_cancel_right (h.symm.trans htrace)]
    exact hacts
  cases he with
  | note a ha => exact ⟨hs.cid, hs.addr, hs.issued⟩
  | limiter l => exact ⟨hs.cid, hs.addr, hs.issued⟩
  | missing k hk hroute => exact ⟨hs.cid, hs.addr, hs.issued⟩
  | remove k =>
    refine ⟨fun x hx => ?_, fun a ha => ?_, fun c hc => ?_⟩
    · exact hs.cid x ((RouteTable.lookup_removeRoutes s.toRouteTable k).mp hx).1
    · exact hs.addr a ((RouteTable.addrMap_removeRoutes s.toRouteTable k).mp ha).1
    · exact hs.issued c (Map.of_lookup_erase hc).2
  | serve k c c₁ calls hc hcids =>
    refine hs.serve hc hcids fun call hmem => ?_
    exact hnew (trace_served s k calls c₁) (.called k call.1 call.2) (by simpa using hmem)
  | close k c ans hc =>
    refine ⟨hs.cid, hs.addr, fun c' hc' x hx => ?_⟩
    rcases Map.of_lookup_insert hc' with ⟨rfl, rfl⟩ | ⟨-, hc'⟩
    · rcases List.mem_append.mp hx with hx | hx
      · exact hs.issued c hc x hx
      · exact hnew (l := [_]) rfl _ List.mem_cons_self rfl x hx
    · exact hs.issued c' hc' x hx
  | create o retried src ans hsize ho =>
    have hclear := hnew (l := [_, _, _]) (trace_createConnection s o retried src ans)
    exact hs.create src ans ho (hclear (.created o retried src) (by simp))

theorem take (hs : Gains free key s₁ s) {r r' : SharedRoutes} {k : ConnectionId} {n : ℕ}
    {c : ServerConnection} (ht : Taken s r k n s' r' c) : Gains free key s₁ s' := by
  refine ⟨fun x hx => hs.cid x ((ht.cid_iff x key).mp hx).1,
    fun a ha => hs.addr a ((ht.addr_iff a key).mp ha).1, fun c hc => hs.issued c ?_⟩
  exact (ht.of_lookup hc).2

theorem world_edit {w w' : World} (hs : Gains free key s₁ w.server) (he : Edit cfg w w')
    {acts : List Action} (htrace : w'.trace = acts ++ w.trace)
    (hacts : ∀ a ∈ acts, a.Clear free key) : Gains free key s₁ w'.server := by
  cases he with
  | server s he => exact hs.edit he htrace hacts
  | note a ha => exact hs.edit (.note w.server a ha) htrace hacts
  | take k s r c ht => exact hs.take (takeConnection_taken ht)
  | call h a a' c ans ha hid hc => exact ⟨hs.cid, hs.addr, hs.issued⟩
  | _ => exact hs

/-- The run lemma, for a chain of edits whose actions are clear. -/
theorem edits {w w' : World} (hs : Gains free key s₁ w.server) (he : Edits cfg w w') :
    ∀ {acts : List Action}, w'.trace = acts ++ w.trace → (∀ a ∈ acts, a.Clear free key) →
      Gains free key s₁ w'.server := by
  induction he with
  | refl => exact fun _ _ => hs
  | tail hchain hlast ih =>
    intro acts htrace hacts
    obtain ⟨old, hold⟩ := edits_suffix hchain
    obtain ⟨new, hnew⟩ := hlast.suffix
    have hsplit : acts = new ++ old := by
      rw [← hnew, ← hold, ← List.append_assoc] at htrace
      exact (List.append_cancel_right htrace).symm
    rw [hsplit] at hacts
    exact (ih hold.symm fun a ha => hacts a (List.mem_append_right _ ha)).world_edit hlast
      hnew.symm fun a ha => hacts a (List.mem_append_left _ ha)

end Server.Gains

/-! ## What is kept -/

section

variable {ext : External} {cfg : ServerConfig} {w : World} {d : InboundDatagram} {ts : ℕ}
  {ans : Answers} {accepted : AcceptedInitial} {o : Origin} {retried : Bool}
  {cids : Origin → Bool → ConnectionId → Prop} {addrs : Origin → SocketAddr → Prop}

/-- The key is new if it was drawn or is no key yet. -/
theorem key_new (hc : Creates ext cfg w.server d.data d.src ts ans accepted o retried)
    (hf : FreshDraws w o retried ans)
    (hdcid : retried = true → accepted.dcid.isEmpty = false →
      accepted.dcid ∉ w.server.connections ∧ accepted.dcid ∉ w.routes.senders) :
    o.key ∉ w.server.connections ∧ o.key ∉ w.routes.senders := by
  rcases key_cases hc with h | ⟨hret, hne, heq⟩
  · exact hf.key h
  · exact heq.symm ▸ hdcid hret hne

/-- What a new connection may replace: the routes of live connections to the original DCID in its
token and to its address are its own, or among the exceptions. -/
structure Excepted (cids : Origin → Bool → ConnectionId → Prop) (addrs : Origin → SocketAddr → Prop)
    (w : World) (o : Origin) (retried : Bool) (src : SocketAddr) : Prop where
  cid : retried = true → ∀ k, w.Live k → w.server.cidMap.lookup o.originalDcid = some k ∨
    w.routes.cidMap.lookup o.originalDcid = some k → k = o.key ∨ cids o retried o.originalDcid
  addr : o.scid.isEmpty = true → ∀ k, w.Live k → w.server.addrMap.lookup src = some k →
    k = o.key ∨ addrs o src

theorem Excepted.created (he : Excepted cids addrs w o retried d.src) (hext : ext.ReadsDcid)
    (hu : Unknown w d) (hc : Creates ext cfg w.server d.data d.src ts ans accepted o retried)
    (hf : FreshDraws w o retried ans) {k : ConnectionId} (hk : w.Live k) :
    Keeps (cids o retried) (addrs o) w w (w.handleDatagram ext cfg d ts ans) k := by
  have ho := chosen_chooseIds hc.ids
  rw [hu.handleDatagram_creates hc]
  refine ⟨fun x hno hx _ => ?_, fun a hno ha _ => ?_, fun _ _ h _ => h, fun _ _ h _ => h⟩
  · refine (lookup_createConnection ho w.server d.src ans x).trans ?_
    split_ifs with hin
    · rcases entered_free hext hu hc hf hin with ⟨hnone, -⟩ | ⟨hret, rfl⟩
      · cases hx.symm.trans hnone
      · rcases he.cid hret k hk (.inl hx) with rfl | hyes
        · rfl
        · exact absurd hyes hno
    · exact hx
  · refine (addrMap_createConnection ho w.server d.src ans a).trans ?_
    split_ifs with hin
    · obtain ⟨rfl, hempty⟩ := hin
      rcases he.addr hempty k hk ha with rfl | hyes
      · rfl
      · exact absurd hyes hno
    · exact ha

/-- What the new connection has when it is handed over. -/
theorem gains_of_creates (hu : Unknown w d)
    (hc : Creates ext cfg w.server d.data d.src ts ans accepted o retried) {w₂ : World}
    {acts : List Action} (he : Edits cfg (w.handleDatagram ext cfg d ts ans) w₂)
    (htrace : w₂.trace = acts ++ (w.handleDatagram ext cfg d ts ans).trace)
    (hacts : ∀ a ∈ acts, a.Clear (fun x => w.routes.cidMap.lookup x = none) o.key) :
    Server.Gains (fun x => w.routes.cidMap.lookup x = none) o.key
      (w.server.createConnection o retried d.src ans) w₂.server := by
  refine Server.Gains.edits ?_ he htrace hacts
  rw [hu.handleDatagram_creates hc]
  refine ⟨fun _ h => .inl h, fun _ h => h, fun c hc x hx => ?_⟩
  rw [connections_createConnection, AList.lookup_insert] at hc
  cases hc
  cases hx

theorem Excepted.taken (he : Excepted cids addrs w o retried d.src) (hcl : w.server.Closed)
    (hext : ext.ReadsDcid) (hu : Unknown w d)
    (hc : Creates ext cfg w.server d.data d.src ts ans accepted o retried)
    (hf : FreshDraws w o retried ans) (hkey : o.key ∉ w.server.connections) {w₂ w₃ : World}
    (hgains : Server.Gains (fun x => w.routes.cidMap.lookup x = none) o.key
      (w.server.createConnection o retried d.src ans) w₂.server) {n : ℕ} {c : ServerConnection}
    (ht : Taken w₂.server w₂.routes o.key n w₃.server w₃.routes c) {k : ConnectionId}
    (hk : w.Live k) : Keeps (cids o retried) (addrs o) w w₂ w₃ k := by
  have ho := chosen_chooseIds hc.ids
  refine ⟨fun x _ hx hx₂ => ?_, fun a _ ha ha₂ => ?_, fun x hno hx hx₂ => ?_,
    fun a hno ha ha₂ => ?_⟩
  · refine (ht.cid_iff x k).mpr ⟨hx₂, ?_⟩
    rintro rfl
    exact hkey (hcl.cid_mem x _ hx)
  · refine (ht.addr_iff a k).mpr ⟨ha₂, ?_⟩
    rintro rfl
    exact hkey (hcl.addr_mem a _ ha)
  · rw [ht.shared_cid]
    split_ifs with hin
    · rcases hgains.cid x hin with hin | hfree
      · rw [lookup_createConnection ho] at hin
        split_ifs at hin with hent
        · rcases entered_free hext hu hc hf hent with ⟨-, hnone⟩ | ⟨hret, rfl⟩
          · cases hx.symm.trans hnone
          · rcases he.cid hret k hk (.inr hx) with rfl | hyes
            · rfl
            · exact absurd hyes hno
        · exact absurd (hcl.cid_mem x _ hin) hkey
      · cases hx.symm.trans hfree
    · exact hx₂
  · rw [ht.shared_addr, if_neg]
    · exact ha₂
    · intro hin
      have hnew := hgains.addr a hin
      rw [addrMap_createConnection ho] at hnew
      split_ifs at hnew with hent
      · rw [hent.1, hu.addr] at ha
        cases ha
      · exact hkey (hcl.addr_mem a _ hnew)

theorem takesOnly (hcl : w.server.Closed) (hext : ext.ReadsDcid) (hu : Unknown w d)
    (hf : ∀ accepted o retried, Creates ext cfg w.server d.data d.src ts ans accepted o retried →
      FreshDraws w o retried ans)
    (hkey : ∀ accepted o retried, Creates ext cfg w.server d.data d.src ts ans accepted o retried →
      o.key ∉ w.server.connections ∧ o.key ∉ w.routes.senders)
    (he : ∀ accepted o retried, Creates ext cfg w.server d.data d.src ts ans accepted o retried →
      Excepted cids addrs w o retried d.src) : TakesOnly cids addrs ext cfg w d ts ans where
  key := hkey
  unchanged hno k := by
    rw [hu.handleDatagram_eq]
    obtain ⟨accepted, o, retried, hc⟩ | heq | ⟨a, heq, -⟩ :=
      @handleNewConnection_cases ext cfg w.server d.data d.src ts ans
    · exact absurd hc (hno accepted o retried)
    all_goals
      rw [heq]
      exact .of_eq rfl rfl
  created accepted o retried hc k hk :=
    (he accepted o retried hc).created hext hu hc (hf accepted o retried hc) hk
  taken accepted o retried hc ls acts w₂ hw₂ htrace hacts n s r c ht k hk := by
    have hgains := gains_of_creates hu hc (hw₂ ▸ run_edits ext cfg ls _) htrace hacts
    have ht' : Taken w₂.server w₂.routes o.key n { w₂ with server := s, routes := r }.server
        { w₂ with server := s, routes := r }.routes c := takeConnection_taken ht
    exact (he accepted o retried hc).taken hcl hext hu hc (hf accepted o retried hc)
      (hkey accepted o retried hc).1 hgains ht' hk

/-! ## Nothing at all -/

theorem Vacant.excepted (hc : Creates ext cfg w.server d.data d.src ts ans accepted o retried)
    (hv : Vacant cfg w accepted o retried d.src) :
    Excepted (fun _ _ _ => False) (fun _ _ => False) w o retried d.src where
  cid hret k hk hx := by
    by_contra hne
    obtain ⟨h₁, h₂⟩ := hv.original hret k hk fun heq => hne (.inl heq)
    exact hx.elim h₁ h₂
  addr hempty k hk ha := by
    by_contra hne
    exact hv.addr ((scid_isEmpty_iff hc).mp hempty) k hk (fun heq => hne (.inl heq)) ha

theorem TakesOnly.vacant (hu : Unknown w d)
    (hc : Creates ext cfg w.server d.data d.src ts ans accepted o retried)
    (h : TakesNothing ext cfg w d ts ans) : Vacant cfg w accepted o retried d.src := by
  have ho := chosen_chooseIds hc.ids
  have hod : (w.server.createConnection o retried d.src ans).cidMap.lookup o.originalDcid =
      some o.key := by
    rw [lookup_createConnection ho, if_pos]
    exact .inr (List.mem_append_right _ List.mem_cons_self)
  have hcreated := h.created accepted o retried hc
  have htaken := h.taken accepted o retried hc [] [] _ rfl rfl (by simp)
  rw [run_nil] at htaken
  rw [hu.handleDatagram_creates hc] at hcreated htaken
  refine ⟨fun hret hne => ?_, fun hret k hk hne => ⟨fun hx => hne ?_, fun hx => hne ?_⟩,
    fun he k hk hne ha => hne ?_⟩
  · rcases key_cases hc with (hret' | he) | ⟨-, -, heq⟩
    · cases hret.symm.trans hret'
    · have := (scid_isEmpty_iff hc).mp he
      rw [if_pos hret, hne] at this
      cases this
    · exact heq ▸ h.key accepted o retried hc
  · have := (hcreated k hk).cid _ not_false hx hx
    exact Option.some.inj (this.symm.trans hod)
  · -- the shared route goes when the new connection is handed over
    have hconn : (w.server.createConnection o retried d.src ans).connections.lookup o.key =
        some (newConnection o ans) := by
      rw [connections_createConnection, AList.lookup_insert]
    obtain ⟨s, r, ht⟩ := exists_takeConnection hconn w.routes 0
    have hkept := (htaken 0 s r _ ht k hk).shared_cid _ not_false hx hx
    have hlost := (takeConnection_taken ht).shared_cid o.originalDcid
    rw [if_pos hod] at hlost
    exact Option.some.inj (hkept.symm.trans hlost)
  · have := (hcreated k hk).addr _ not_false ha ha
    have hnew := addrMap_createConnection ho w.server d.src ans d.src
    rw [if_pos ⟨rfl, (scid_isEmpty_iff hc).mpr he⟩] at hnew
    exact Option.some.inj (this.symm.trans hnew)

end

/-- **When a datagram takes nothing over.** In every state that is reached, for every datagram of an
unknown connection, with fresh draws: exactly when the key and the routes of the connection that it
creates, if any, are free. -/
theorem takesNothing_iff (ext : External) (cfg : ServerConfig) (ls : List Label)
    (hext : ext.ReadsDcid) (d : InboundDatagram) (ts : ℕ) (ans : Answers)
    (hu : Unknown (run (World.step ext cfg) (.init cfg) ls) d)
    (hf : ∀ accepted o retried,
      Creates ext cfg (run (World.step ext cfg) (.init cfg) ls).server d.data d.src ts ans accepted o
        retried → FreshDraws (run (World.step ext cfg) (.init cfg) ls) o retried ans) :
    TakesNothing ext cfg (run (World.step ext cfg) (.init cfg) ls) d ts ans ↔
      ∀ accepted o retried,
        Creates ext cfg (run (World.step ext cfg) (.init cfg) ls).server d.data d.src ts ans accepted
          o retried → Vacant cfg (run (World.step ext cfg) (.init cfg) ls) accepted o retried d.src :=
  ⟨fun h _ _ _ hc => h.vacant hu hc, fun hv =>
    takesOnly (run_serverClosed ext cfg ls) hext hu hf
      (fun _ _ _ hc => key_new hc (hf _ _ _ hc) (hv _ _ _ hc).dcid)
      (fun _ _ _ hc => (hv _ _ _ hc).excepted hc)⟩

/-- **What a new connection takes over.** In every state that is reached, for every datagram of an
unknown connection, with fresh draws, and if the DCID of a packet with a Retry token is no key of a
live connection: the key of the connection that is created is new, and the routes to live
connections stay, also across its hand-over, but for two that it replaces: that of the original DCID
in its Retry token, and that of its address if it has no CID. -/
theorem routes_kept (ext : External) (cfg : ServerConfig) (ls : List Label)
    (hext : ext.ReadsDcid) (d : InboundDatagram) (ts : ℕ) (ans : Answers)
    (hu : Unknown (run (World.step ext cfg) (.init cfg) ls) d)
    (hf : ∀ accepted o retried,
      Creates ext cfg (run (World.step ext cfg) (.init cfg) ls).server d.data d.src ts ans accepted o
        retried → FreshDraws (run (World.step ext cfg) (.init cfg) ls) o retried ans)
    (hdcid : ∀ accepted o,
      Creates ext cfg (run (World.step ext cfg) (.init cfg) ls).server d.data d.src ts ans accepted o
        true → accepted.dcid.isEmpty = false →
      accepted.dcid ∉ (run (World.step ext cfg) (.init cfg) ls).server.connections ∧
      accepted.dcid ∉ (run (World.step ext cfg) (.init cfg) ls).routes.senders) :
    TakesOnly Replaced (ReplacedAddr d.src) ext cfg (run (World.step ext cfg) (.init cfg) ls) d ts
      ans := by
  refine takesOnly (run_serverClosed ext cfg ls) hext hu hf (fun accepted o retried hc => ?_)
    fun accepted o retried hc => ⟨fun hret k _ _ => .inr ⟨hret, rfl⟩, fun he k _ _ => .inr ⟨he, rfl⟩⟩
  refine key_new hc (hf accepted o retried hc) fun hret => ?_
  subst hret
  exact hdcid accepted o hc

theorem sampleExternal_readsDcid : sampleExternal.ReadsDcid := by
  intro data accepted h
  simp only [sampleExternal] at h
  split_ifs at h
  obtain ⟨dcid, hd, rfl⟩ := Option.map_eq_some_iff.mp h
  exact hd

/-- Another client opens a connection. -/
def sampleStranger : InboundDatagram := sampleDatagram (sampleInitial (sampleCid 9) []) 2

/-- What the server draws for it. -/
def sampleDraws : Answers := { scid := sampleFill 8 }

theorem routes_kept_sample :
    Unknown (sampleRun sampleConfig sampleAccepted) sampleStranger ∧
    TakesOnly Replaced (ReplacedAddr sampleStranger.src) sampleExternal sampleConfig
      (sampleRun sampleConfig sampleAccepted) sampleStranger 0 sampleDraws := by
  have hu : Unknown (sampleRun sampleConfig sampleAccepted) sampleStranger :=
    ⟨by decide +kernel, by decide +kernel, by decide +kernel⟩
  have hids {accepted : AcceptedInitial} {o : Origin} {retried : Bool}
      (hc : Creates sampleExternal sampleConfig (sampleRun sampleConfig sampleAccepted).server
        sampleStranger.data sampleStranger.src 0 sampleDraws accepted o retried) :
      o = ⟨sampleCid 8, sampleCid 8, sampleCid 9, none⟩ ∧ retried = false := by
    have hacc : sampleExternal.acceptInitial sampleStranger.data =
        some ⟨1, sampleCid 9, .empty, []⟩ := by decide +kernel
    cases hacc.symm.trans hc.accept
    obtain ⟨version, validated, hv, -⟩ := hc.valid
    have hv' : Server.Validation.proceed (sampleCid 9) false false =
      .proceed o.originalDcid validated retried := hv
    injection hv' with hod _ hret
    have hids := hc.ids
    rw [← hod, ← hret] at hids
    have ho : some o = some ⟨sampleCid 8, sampleCid 8, sampleCid 9, none⟩ :=
      hids.symm.trans (by decide +kernel)
    exact ⟨Option.some.inj ho, hret.symm⟩
  have hw := routes_kept sampleExternal sampleConfig sampleAccepted sampleExternal_readsDcid
    sampleStranger 0 sampleDraws
  rw [← sampleRun_eq] at hw
  refine ⟨hu, hw hu (fun accepted o retried hc => ?_) fun accepted o hc => ?_⟩
  · obtain ⟨rfl, rfl⟩ := hids hc
    exact ⟨fun _ => by decide +kernel, by decide +kernel⟩
  · obtain ⟨-, hret⟩ := hids hc
    cases hret

/-! ## Retries -/

/-- The server sent a Retry to `src` for this connection. -/
def minted (past : List Action) (o : Origin) (src : SocketAddr) : Bool :=
  past.any fun
    | .retry scid originalDcid _ dst _ _ =>
      scid == o.scid && originalDcid == o.originalDcid && dst == src
    | _ => false

/-- A Retry token was accepted only if this server had minted it, for the same address, and with the
DCID of the packet as the SCID of the Retry. -/
def TokensMinted : List Action → Prop
  | [] => True
  | .created o retried src :: past => TokensMinted past ∧ (retried = true → minted past o src = true)
  | _ :: past => TokensMinted past

instance decidableTokensMinted : ∀ trace : List Action, Decidable (TokensMinted trace)
  | [] => isTrue trivial
  | .created o retried src :: past =>
    have := decidableTokensMinted past
    inferInstanceAs (Decidable (TokensMinted past ∧ (retried = true → minted past o src = true)))
  | .called .. :: past | .retry .. :: past | .statelessReset .. :: past
  | .versionNegotiation _ :: past | .invalidTokenClose _ :: past | .returned .. :: past
  | .missingKey _ :: past | .panicked :: past => decidableTokensMinted past

/-- A server with Retry. -/
def sampleRetryConfig : ServerConfig := { sampleConfig with retry := true }

/-- The Initial from a port after a Retry with the given SCID, for the original DCID 1. -/
def sampleRetryInitial (port : UInt8) (scid : ConnectionId) : InboundDatagram :=
  sampleDatagram (sampleInitial scid (0xb7 :: port :: (sampleCid 1).data ++ scid.data))
    (.ofNat 16 port.toNat)

/-- Two clients choose the same original DCID and get a Retry each; the first one connects. -/
def sampleTwoClients : List Label :=
  [.datagram (sampleDatagram (sampleInitial (sampleCid 1) []) 1) 0 { retryScid := sampleFill 2 },
   .datagram (sampleDatagram (sampleInitial (sampleCid 1) []) 2) 0 { retryScid := sampleFill 3 },
   .datagram (sampleRetryInitial 1 (sampleCid 2)) 0 {}]

/-- A connection is created after a Retry, and accepted. It issues a CID, and its peer retires the
SCID of the Retry. -/
def sampleRetried : List Label :=
  [.datagram (sampleDatagram (sampleInitial (sampleCid 1) []) 1) 0 { retryScid := sampleFill 2 },
   .datagram (sampleRetryInitial 1 (sampleCid 2)) 0
    { read := { effect := { handshakeCompleted := true } } },
   .removeClosed, .accept (sampleCid 2),
   .op 0 (.recvEvent { effect := { issued := [sampleCid 4], retired := [sampleCid 2] } }),
   .op 0 .sent]

/-- A third client comes back from a Retry, with an original DCID of its own. -/
def sampleThird : InboundDatagram :=
  sampleDatagram (sampleInitial (sampleCid 6) (0xb7 :: 3 :: (sampleCid 5).data ++ (sampleCid 6).data)) 3

theorem takesNothing_iff_sample :
    Unknown (sampleRun sampleRetryConfig sampleTwoClients) sampleThird ∧
    sampleCid 6 ∈ ((sampleRun sampleRetryConfig sampleTwoClients).handleDatagram sampleExternal
      sampleRetryConfig sampleThird 0 {}).server.connections ∧
    TakesNothing sampleExternal sampleRetryConfig (sampleRun sampleRetryConfig sampleTwoClients)
      sampleThird 0 {} := by
  have hu : Unknown (sampleRun sampleRetryConfig sampleTwoClients) sampleThird :=
    ⟨by decide +kernel, by decide +kernel, by decide +kernel⟩
  have hids {accepted : AcceptedInitial} {o : Origin} {retried : Bool}
      (hc : Creates sampleExternal sampleRetryConfig
        (sampleRun sampleRetryConfig sampleTwoClients).server sampleThird.data sampleThird.src 0 {}
        accepted o retried) :
      accepted.dcid = sampleCid 6 ∧ o = ⟨sampleCid 6, sampleCid 6, sampleCid 5, none⟩ ∧
        retried = true := by
    have hacc : sampleExternal.acceptInitial sampleThird.data = some ⟨1, sampleCid 6, .empty,
        0xb7 :: 3 :: (sampleCid 5).data ++ (sampleCid 6).data⟩ := by decide +kernel
    cases hacc.symm.trans hc.accept
    obtain ⟨version, validated, hv, -⟩ := hc.valid
    have hvalid : Server.validate sampleExternal sampleRetryConfig ⟨1, sampleCid 6, .empty,
        0xb7 :: 3 :: (sampleCid 5).data ++ (sampleCid 6).data⟩ version sampleThird.src 0 =
          .proceed (sampleCid 5) true true := by
      cases version <;> decide +kernel
    injection hvalid.symm.trans hv with hod _ hret
    have hids := hc.ids
    rw [← hod, ← hret] at hids
    have ho : some o = some ⟨sampleCid 6, sampleCid 6, sampleCid 5, none⟩ :=
      hids.symm.trans (by decide +kernel)
    exact ⟨rfl, Option.some.inj ho, hret.symm⟩
  have hw := takesNothing_iff sampleExternal sampleRetryConfig sampleTwoClients
    sampleExternal_readsDcid sampleThird 0 {}
  rw [← sampleRun_eq] at hw
  refine ⟨hu, by decide +kernel, (hw hu fun accepted o retried hc => ?_).mpr
    fun accepted o retried hc => ?_⟩
  · obtain ⟨-, rfl, rfl⟩ := hids hc
    exact ⟨fun h => absurd h (by decide), by decide⟩
  · obtain ⟨hdcid, rfl, rfl⟩ := hids hc
    have hfree : (sampleRun sampleRetryConfig sampleTwoClients).server.cidMap.lookup (sampleCid 5) =
        none ∧ (sampleRun sampleRetryConfig sampleTwoClients).routes.cidMap.lookup (sampleCid 5) =
        none := by decide +kernel
    refine ⟨fun _ _ => ?_, fun _ k _ _ => ?_, fun hempty => ?_⟩
    · rw [hdcid]
      decide +kernel
    · constructor
      · intro hk
        cases hfree.1.symm.trans hk
      · intro hk
        cases hfree.2.symm.trans hk
    · rw [if_pos rfl, hdcid] at hempty
      exact absurd hempty (by decide)

/-- A route that changes is taken over. -/
theorem TakesOnly.lookup_eq {ext : External} {cfg : ServerConfig} {w : World} {d : InboundDatagram}
    {ts : ℕ} {ans : Answers} (h : TakesNothing ext cfg w d ts ans) {x k : ConnectionId}
    (hk : k ∈ w.server.connections) (hx : w.server.cidMap.lookup x = some k) :
    (w.handleDatagram ext cfg d ts ans).server.cidMap.lookup x = some k := by
  by_cases hno : ∀ accepted o retried,
      ¬ Creates ext cfg w.server d.data d.src ts ans accepted o retried
  · exact (h.unchanged hno k).cid x not_false hx hx
  · simp only [not_forall, not_not] at hno
    obtain ⟨accepted, o, retried, hc⟩ := hno
    exact (h.created accepted o retried hc k (.inl hk)).cid x not_false hx hx

/-- **Routes of live connections are taken over.** Two clients chose the same original DCID: its
route goes from the connection of the first to that of the second. And when the SCID of a Retry was
retired, an Initial that repeats the token makes a connection with the key of the live one. -/
theorem live_routes_taken :
    (Lawful (sampleRun sampleRetryConfig sampleTwoClients).trace ∧
      TokensMinted ((sampleRun sampleRetryConfig sampleTwoClients).handleDatagram sampleExternal
        sampleRetryConfig (sampleRetryInitial 2 (sampleCid 3)) 0 {}).trace ∧
      Unknown (sampleRun sampleRetryConfig sampleTwoClients) (sampleRetryInitial 2 (sampleCid 3)) ∧
      ¬ TakesNothing sampleExternal sampleRetryConfig (sampleRun sampleRetryConfig sampleTwoClients)
        (sampleRetryInitial 2 (sampleCid 3)) 0 {}) ∧
    Lawful (sampleRun sampleRetryConfig sampleRetried).trace ∧
    Unknown (sampleRun sampleRetryConfig sampleRetried) (sampleRetryInitial 1 (sampleCid 2)) ∧
    sampleCid 2 ∈ (sampleRun sampleRetryConfig sampleRetried).routes.senders ∧
    sampleCid 2 ∈ ((sampleRun sampleRetryConfig sampleRetried).handleDatagram sampleExternal
      sampleRetryConfig (sampleRetryInitial 1 (sampleCid 2)) 0 {}).server.connections := by
  refine ⟨⟨by decide +kernel, by decide +kernel,
    ⟨by decide +kernel, by decide +kernel, by decide +kernel⟩, fun h => ?_⟩, by decide +kernel,
    ⟨by decide +kernel, by decide +kernel, by decide +kernel⟩, by decide +kernel, by decide +kernel⟩
  have hlost : ((sampleRun sampleRetryConfig sampleTwoClients).handleDatagram sampleExternal
      sampleRetryConfig (sampleRetryInitial 2 (sampleCid 3)) 0 {}).server.cidMap.lookup (sampleCid 1) =
      some (sampleCid 3) := by decide +kernel
  have hkept := h.lookup_eq (x := sampleCid 1) (k := sampleCid 2) (by decide +kernel)
    (by decide +kernel)
  exact absurd (hkept.symm.trans hlost) (by decide)

end Ngtcp2Rs
