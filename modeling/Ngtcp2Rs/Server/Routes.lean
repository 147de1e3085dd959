import Ngtcp2Rs.Lib.Map
import Ngtcp2Rs.Types
import Mathlib.Data.Finset.Basic

/-!
# Routing tables

`resolve_dcid`, the tables that `Server` and `SharedRoutes` of `tokio-ngtcp2/src/server.rs` both
keep, and `SharedRoutes` itself. The two structs edit their copies of the tables with the same
code, so the tables and the edits are a `RouteTable` here; each struct extends it.

The lemmas give every edit as a function of the lookups before it.
-/

namespace Ngtcp2Rs

open Lib

/-! ## Datagrams -/

/-- The first byte says long header. -/
def isLongHeader (data : Bytes) : Bool := data.head?.any fun first => first &&& 0x80 != 0

/-- The DCID of a long header: its length is the sixth byte. -/
def longDcid (data : Bytes) : Option ConnectionId :=
  match data[5]? with
  | none => none
  | some len =>
    if data.length < 6 + len.toNat then none else ConnectionId.new ((data.drop 6).take len.toNat)

/-- The DCID of a short header, if it has length `len`. -/
def shortDcid (data : Bytes) (len : ℕ) : Option ConnectionId :=
  if data.length < 1 + len then none else ConnectionId.new ((data.drop 1).take len)

/-- The connection key of a datagram. A short header does not carry the length of its DCID: the
lengths in use are tried, longest first. -/
def resolveDcid (cidMap : Map ConnectionId ConnectionId) (shortCidLengths : OrdSet ℕ)
    (data : Bytes) : Option ConnectionId :=
  if data.isEmpty then none
  else if isLongHeader data then (longDcid data).bind fun dcid => cidMap.lookup dcid
  else
    shortCidLengths.toList.reverse.findSome? fun len =>
      (shortDcid data len).bind fun dcid => cidMap.lookup dcid

theorem exists_of_resolveDcid {cidMap : Map ConnectionId ConnectionId} {lens : OrdSet ℕ}
    {data : Bytes} {key : ConnectionId} (h : resolveDcid cidMap lens data = some key) :
    ∃ x, cidMap.lookup x = some key := by
  unfold resolveDcid at h
  split_ifs at h
  · obtain ⟨x, -, hx⟩ := Option.bind_eq_some_iff.mp h
    exact ⟨x, hx⟩
  · obtain ⟨len, -, hlen⟩ := List.exists_of_findSome?_eq_some h
    obtain ⟨x, -, hx⟩ := Option.bind_eq_some_iff.mp hlen
    exact ⟨x, hx⟩

theorem resolveDcid_long {cidMap : Map ConnectionId ConnectionId} {lens : OrdSet ℕ} {data : Bytes}
    (hlong : isLongHeader data = true) :
    resolveDcid cidMap lens data = (longDcid data).bind fun dcid => cidMap.lookup dcid := by
  have hne : data.isEmpty = false := by
    cases data with
    | nil => cases hlong
    | cons => rfl
  unfold resolveDcid
  rw [if_neg (by simp [hne]), if_pos hlong]

/-! ### Short headers -/

section ShortHeader

variable {cidMap : Map ConnectionId ConnectionId} {lens : OrdSet ℕ} {first : UInt8} {p : Bytes}

theorem shortDcid_eq_some {len : ℕ} {x : ConnectionId} :
    shortDcid (first :: p) len = some x ↔ x.len = len ∧ x.data <+: p := by
  unfold shortDcid ConnectionId.len
  have hdrop : (first :: p).drop 1 = p := rfl
  rw [hdrop, List.length_cons]
  constructor
  · intro h
    split_ifs at h with hlen
    have hx := ConnectionId.new_eq_some.mp h
    rw [hx, List.length_take]
    exact ⟨by omega, List.take_prefix _ _⟩
  · rintro ⟨rfl, hpre⟩
    have hle := hpre.length_le
    rw [if_neg (by omega), ← List.prefix_iff_eq_take.mp hpre, ConnectionId.new_data]

theorem resolveDcid_short (hs : isLongHeader (first :: p) = false) :
    resolveDcid cidMap lens (first :: p) = lens.toList.reverse.findSome? fun len =>
      (shortDcid (first :: p) len).bind fun dcid => cidMap.lookup dcid := by
  unfold resolveDcid
  rw [if_neg (by simp), if_neg (by simp [hs])]

theorem lookup_shortDcid_eq_none {len : ℕ} :
    ((shortDcid (first :: p) len).bind fun dcid => cidMap.lookup dcid) = none ↔
      ∀ x : ConnectionId, x.len = len → x.data <+: p → cidMap.lookup x = none := by
  rw [Option.bind_eq_none_iff]
  constructor
  · exact fun h x hlen hpre => h x (shortDcid_eq_some.mpr ⟨hlen, hpre⟩)
  · intro h x hx
    obtain ⟨hlen, hpre⟩ := shortDcid_eq_some.mp hx
    exact h x hlen hpre

/-- A short header is resolved by the longest CID that it starts with. -/
theorem resolveDcid_short_eq_some (hs : isLongHeader (first :: p) = false) {k : ConnectionId} :
    resolveDcid cidMap lens (first :: p) = some k ↔
      ∃ x : ConnectionId, x.data <+: p ∧ x.len ∈ lens ∧ cidMap.lookup x = some k ∧
        ∀ y : ConnectionId, y.data <+: p → y.len ∈ lens → x.len < y.len →
          cidMap.lookup y = none := by
  rw [resolveDcid_short hs, OrdSet.findSome?_reverse_eq_some]
  constructor
  · rintro ⟨len, hlen, hk, hmax⟩
    obtain ⟨x, hx, hxk⟩ := Option.bind_eq_some_iff.mp hk
    obtain ⟨rfl, hpre⟩ := shortDcid_eq_some.mp hx
    exact ⟨x, hpre, hlen, hxk, fun y hy hmem hlt =>
      lookup_shortDcid_eq_none.mp (hmax y.len hmem hlt) y rfl hy⟩
  · rintro ⟨x, hpre, hlen, hk, hmax⟩
    refine ⟨x.len, hlen, Option.bind_eq_some_iff.mpr ⟨x, shortDcid_eq_some.mpr ⟨rfl, hpre⟩, hk⟩,
      fun len hmem hlt => lookup_shortDcid_eq_none.mpr fun y hy hp => ?_⟩
    exact hmax y hp (hy ▸ hmem) (hy ▸ hlt)

theorem resolveDcid_short_eq_none (hs : isLongHeader (first :: p) = false) :
    resolveDcid cidMap lens (first :: p) = none ↔
      ∀ x : ConnectionId, x.data <+: p → x.len ∈ lens → cidMap.lookup x = none := by
  rw [resolveDcid_short hs, OrdSet.findSome?_reverse_eq_none]
  constructor
  · exact fun h x hpre hlen => lookup_shortDcid_eq_none.mp (h x.len hlen) x rfl hpre
  · exact fun h len hlen => lookup_shortDcid_eq_none.mpr fun x hx hpre => h x hpre (hx ▸ hlen)

end ShortHeader

/-! ## CIDs that were handed over -/

/-- `MAX_TAKEN_CIDS`. -/
def maxTakenCids : ℕ := 8192

/-- The CIDs that get no Stateless Reset, oldest first. -/
structure TakenCids where
  cids : Finset ConnectionId := ∅
  order : List ConnectionId := []

/-- Forget the oldest CIDs beyond the limit. -/
def TakenCids.evict (cids : Finset ConnectionId) : List ConnectionId → TakenCids
  | [] => ⟨cids, []⟩
  | oldest :: order =>
    if maxTakenCids < (oldest :: order).length then evict (cids.erase oldest) order
    else ⟨cids, oldest :: order⟩

/-- `remember_taken_cid`. -/
def TakenCids.remember (t : TakenCids) (cid : ConnectionId) : TakenCids :=
  if cid ∈ t.cids then evict t.cids t.order else evict (insert cid t.cids) (t.order ++ [cid])

/-! ## The tables -/

/-- Routes to connections, which are named by their keys. -/
structure RouteTable where
  cidMap : Map ConnectionId ConnectionId := ∅
  addrMap : Map SocketAddr ConnectionId := ∅
  shortCidLengths : OrdSet ℕ := .empty
  taken : TakenCids := {}

namespace RouteTable

/-- Route a CID the server chose to the connection `key`. -/
def registerCid (key : ConnectionId) (t : RouteTable) (cid : ConnectionId) : RouteTable :=
  { t with shortCidLengths := t.shortCidLengths.insert cid.len, cidMap := t.cidMap.insert cid key }

/-- Route CIDs to the connection `key` (`register_issued_cids`). -/
def registerCids (t : RouteTable) (key : ConnectionId) (cids : List ConnectionId) : RouteTable :=
  cids.foldl (registerCid key) t

/-- Stop routing a CID to `key`, and remember it. -/
def retireCid (key : ConnectionId) (t : RouteTable) (cid : ConnectionId) : RouteTable :=
  { t with
    cidMap := if t.cidMap.lookup cid = some key then t.cidMap.erase cid else t.cidMap
    taken := t.taken.remember cid }

/-- Stop routing CIDs that the peer retired (`retire_cids`, `remove_retired_cids`). -/
def retireCids (t : RouteTable) (key : ConnectionId) (cids : List ConnectionId) : RouteTable :=
  cids.foldl (retireCid key) t

/-- Remove every route to `key`. -/
def removeRoutes (t : RouteTable) (key : ConnectionId) : RouteTable :=
  { t with
    cidMap := t.cidMap.retain fun _ k => k != key
    addrMap := t.addrMap.retain fun _ k => k != key }

/-- Remember CIDs. -/
def rememberCids (t : RouteTable) (cids : List ConnectionId) : RouteTable :=
  { t with taken := cids.foldl TakenCids.remember t.taken }

/-! ### Lookups after an edit -/

section Lookup

variable (t : RouteTable) (key : ConnectionId)

theorem lookup_registerCids (cids : List ConnectionId) (c : ConnectionId) :
    (t.registerCids key cids).cidMap.lookup c =
      if c ∈ cids then some key else t.cidMap.lookup c := by
  induction cids generalizing t with
  | nil => simp [registerCids]
  | cons cid cids ih =>
    have hcons : t.registerCids key (cid :: cids) = (registerCid key t cid).registerCids key cids :=
      rfl
    rw [hcons, ih, registerCid, Map.lookup_insert_if]
    by_cases h₁ : c ∈ cids
    · simp [h₁]
    · by_cases h₂ : c = cid <;> simp [h₁, h₂]

@[simp] theorem addrMap_registerCids (cids : List ConnectionId) :
    (t.registerCids key cids).addrMap = t.addrMap := by
  induction cids generalizing t with
  | nil => rfl
  | cons cid cids ih => exact ih _

theorem mem_shortCidLengths_registerCids (cids : List ConnectionId) (n : ℕ) :
    n ∈ (t.registerCids key cids).shortCidLengths ↔
      n ∈ t.shortCidLengths ∨ ∃ c ∈ cids, c.len = n := by
  induction cids generalizing t with
  | nil => simp [registerCids]
  | cons cid cids ih =>
    have hcons : t.registerCids key (cid :: cids) = (registerCid key t cid).registerCids key cids :=
      rfl
    rw [hcons, ih, registerCid, OrdSet.mem_insert]
    simp only [List.mem_cons, exists_eq_or_imp]
    rw [or_comm (a := n = cid.len), or_assoc, eq_comm (a := n)]

theorem lookup_retireCids (cids : List ConnectionId) (c : ConnectionId) :
    (t.retireCids key cids).cidMap.lookup c =
      if c ∈ cids ∧ t.cidMap.lookup c = some key then none else t.cidMap.lookup c := by
  induction cids generalizing t with
  | nil => simp [retireCids]
  | cons cid cids ih =>
    have hcons : t.retireCids key (cid :: cids) = (retireCid key t cid).retireCids key cids := rfl
    have hstep : (retireCid key t cid).cidMap.lookup c =
        if c = cid ∧ t.cidMap.lookup c = some key then none else t.cidMap.lookup c := by
      unfold retireCid
      by_cases hc : c = cid
      · subst hc
        by_cases hk : t.cidMap.lookup c = some key <;> simp [hk]
      · by_cases hk : t.cidMap.lookup cid = some key <;> simp [hk, hc]
    rw [hcons, ih, hstep]
    by_cases h₁ : c = cid <;> by_cases h₂ : t.cidMap.lookup c = some key <;> simp [h₁, h₂]

@[simp] theorem addrMap_retireCids (cids : List ConnectionId) :
    (t.retireCids key cids).addrMap = t.addrMap := by
  induction cids generalizing t with
  | nil => rfl
  | cons cid cids ih => exact ih _

@[simp] theorem shortCidLengths_retireCids (cids : List ConnectionId) :
    (t.retireCids key cids).shortCidLengths = t.shortCidLengths := by
  induction cids generalizing t with
  | nil => rfl
  | cons cid cids ih => exact ih _

/-- The routes to `key` after its CIDs were polled. -/
theorem lookup_polled_self (issued retired : List ConnectionId) (c : ConnectionId) :
    ((t.registerCids key issued).retireCids key retired).cidMap.lookup c = some key ↔
      (c ∈ issued ∨ t.cidMap.lookup c = some key) ∧ c ∉ retired := by
  rw [lookup_retireCids, lookup_registerCids]
  by_cases h₁ : c ∈ issued <;> by_cases h₂ : c ∈ retired <;> simp [h₁, h₂]

/-- The routes to others after the CIDs of `key` were polled. -/
theorem lookup_polled_ne {k : ConnectionId} (hk : k ≠ key) (issued retired : List ConnectionId)
    (c : ConnectionId) :
    ((t.registerCids key issued).retireCids key retired).cidMap.lookup c = some k ↔
      c ∉ issued ∧ t.cidMap.lookup c = some k := by
  rw [lookup_retireCids, lookup_registerCids]
  by_cases h₁ : c ∈ issued
  · simp [h₁, hk.symm]
  · simp only [h₁, if_false, not_false_eq_true, true_and]
    split
    · rename_i h
      rw [h.2]
      simp [hk.symm]
    · rfl

theorem lookup_removeRoutes {c k : ConnectionId} :
    (t.removeRoutes key).cidMap.lookup c = some k ↔ t.cidMap.lookup c = some k ∧ k ≠ key := by
  simp [removeRoutes, Map.lookup_retain, Option.filter_eq_some_iff]

theorem addrMap_removeRoutes {a : SocketAddr} {k : ConnectionId} :
    (t.removeRoutes key).addrMap.lookup a = some k ↔ t.addrMap.lookup a = some k ∧ k ≠ key := by
  simp [removeRoutes, Map.lookup_retain, Option.filter_eq_some_iff]

end Lookup

end RouteTable

/-! ## Accepted connections -/

/-- The routes and the receive queues of the accepted connections. A queue is named by the handle
that receives from it. -/
structure SharedRoutes extends RouteTable where
  senders : Map ConnectionId ℕ := ∅

namespace SharedRoutes

/-- The owner of a datagram. -/
def resolve (r : SharedRoutes) (data : Bytes) (src : SocketAddr) : Option ConnectionId :=
  (resolveDcid r.cidMap r.shortCidLengths data).orElse fun _ => r.addrMap.lookup src

/-- Register an accepted connection. -/
def register (r : SharedRoutes) (key : ConnectionId) (sender : ℕ) (cids : List ConnectionId)
    (addrs : List SocketAddr) : SharedRoutes :=
  { r.registerCids key cids with
    addrMap := addrs.foldl (fun m a => m.insert a key) r.addrMap
    senders := r.senders.insert key sender }

/-- Register CIDs that the connection `key` issued. -/
def registerIssuedCids (r : SharedRoutes) (key : ConnectionId) (cids : List ConnectionId) :
    SharedRoutes :=
  { r with toRouteTable := r.registerCids key cids }

/-- Remove CIDs that the peer of `key` retired. -/
def retireCids (r : SharedRoutes) (key : ConnectionId) (cids : List ConnectionId) : SharedRoutes :=
  { r with toRouteTable := r.toRouteTable.retireCids key cids }

/-- Remove the routes and the queue of a connection. -/
def remove (r : SharedRoutes) (key : ConnectionId) : SharedRoutes :=
  { r.removeRoutes key with senders := r.senders.erase key }

theorem lookup_foldl_insert (addrs : List SocketAddr) (m : Map SocketAddr ConnectionId)
    (key : ConnectionId) (a : SocketAddr) :
    (addrs.foldl (fun m a => m.insert a key) m).lookup a =
      if a ∈ addrs then some key else m.lookup a := by
  induction addrs generalizing m with
  | nil => simp
  | cons b addrs ih =>
    rw [List.foldl_cons, ih, Map.lookup_insert_if]
    by_cases h₁ : a ∈ addrs
    · simp [h₁]
    · by_cases h₂ : a = b <;> simp [h₁, h₂]

end SharedRoutes

end Ngtcp2Rs
