import Ngtcp2Rs.Server.Ownership

/-!
# Lookup across the hand-over

`handle_datagram` looks a datagram up in the server's table and then in the shared one. The
hand-over of a connection moves its routes from the one to the other. When does every datagram keep
its owner?

* `World.owner`: the connection that a datagram is given to.
* `Transparent`: the hand-over is not seen by any datagram.
* `Seamless`: the condition on the two tables; `transparent_iff` says that it is exact.
* `handed_over_by_address`: after the hand-over of a connection without CIDs, an Initial of another
  connection is given to it by address.
-/

namespace Ngtcp2Rs

open Lib

/-- The connection that `handle_datagram` gives a datagram to; `none` is a new connection or a
Stateless Reset. -/
def World.owner (w : World) (data : Bytes) (src : SocketAddr) : Option ConnectionId :=
  (w.server.existingKey data src).orElse fun _ => w.routes.resolve data src

/-- The datagram has a long header with a DCID that is not empty. -/
def CarriesDcid (data : Bytes) : Prop :=
  isLongHeader data = true ∧ ∃ len, data[5]? = some len ∧ len ≠ 0

/-- No datagram that carries an unknown DCID is given to a connection. -/
def World.NoneByAddress (w : World) : Prop :=
  ∀ data src, CarriesDcid data →
    resolveDcid w.server.cidMap w.server.shortCidLengths data = none →
    resolveDcid w.routes.cidMap w.routes.shortCidLengths data = none → w.owner data src = none

/-- Datagrams do not see the difference between `w` and `w'`. -/
structure Transparent (w w' : World) : Prop where
  owner_eq : ∀ data src, w'.owner data src = w.owner data src
  before : w.NoneByAddress
  after : w'.NoneByAddress
  lens : ∀ n, n ∈ w'.server.shortCidLengths ∨ n ∈ w'.routes.shortCidLengths ↔
    n ∈ w.server.shortCidLengths ∨ n ∈ w.routes.shortCidLengths

/-- A short header with a CID and nothing else. -/
def shortHeader (c : ConnectionId) : Bytes := 0x40 :: c.data

/-- The tables allow `k` to be handed over unseen. -/
structure Seamless (w : World) (k : ConnectionId) : Prop where
  /-- no accepted connection is routed by its address -/
  shared_addr : ∀ a, w.routes.addrMap.lookup a = none
  /-- and `k` is not -/
  addr : ∀ a, w.server.addrMap.lookup a ≠ some k
  /-- the lengths of its CIDs are tried already -/
  tried : ∀ c, w.server.cidMap.lookup c = some k →
    c.len ∈ w.server.shortCidLengths ∨ c.len ∈ w.routes.shortCidLengths
  /-- if it has a CID that the server tries before the address, nobody is routed by address -/
  no_addr : ∀ c, w.server.cidMap.lookup c = some k →
    c.len ∈ w.server.shortCidLengths ∨ c = .empty → ∀ a, w.server.addrMap.lookup a = none
  /-- none of these CIDs starts with one of another connection of the server -/
  no_prefix : ∀ c e j, w.server.cidMap.lookup c = some k → c.len ∈ w.server.shortCidLengths →
    w.server.cidMap.lookup e = some j → e.len ∈ w.server.shortCidLengths → e.data <+: c.data → j = k
  /-- no CID of an accepted connection is hidden by one of them -/
  not_hidden : ∀ e j, w.routes.cidMap.lookup e = some j → w.server.cidMap.lookup e ≠ some k →
    resolveDcid w.server.cidMap w.server.shortCidLengths (shortHeader e) = some k → j = k
  /-- a CID that the server does not try, where some address is not routed, is in effect shared -/
  untried : ∀ c, w.server.cidMap.lookup c = some k →
    resolveDcid w.server.cidMap w.server.shortCidLengths (shortHeader c) = none →
    ∀ a, w.server.addrMap.lookup a = none →
    resolveDcid w.routes.cidMap w.routes.shortCidLengths (shortHeader c) = some k

/-! ## Resolving -/

theorem owner_eq_or (w : World) (data : Bytes) (src : SocketAddr) : w.owner data src =
    ((resolveDcid w.server.cidMap w.server.shortCidLengths data).or
      (if isLongHeader data = false ∨ data[5]? = some 0 then w.server.addrMap.lookup src else none)).or
      ((resolveDcid w.routes.cidMap w.routes.shortCidLengths data).or
        (w.routes.addrMap.lookup src)) := by
  unfold World.owner Server.existingKey SharedRoutes.resolve
  simp only [Option.orElse_eq_or]

section Resolve

variable {cidMap : Map ConnectionId ConnectionId} {lens : OrdSet ℕ} {c k : ConnectionId}

theorem isLongHeader_short (p : Bytes) : isLongHeader (0x40 :: p) = false := rfl

/-- The first byte of a short header does not matter. -/
theorem resolveDcid_first {first : UInt8} {p : Bytes} (hs : isLongHeader (first :: p) = false) :
    resolveDcid cidMap lens (first :: p) = resolveDcid cidMap lens (0x40 :: p) := by
  rw [resolveDcid_short hs, resolveDcid_short (isLongHeader_short p)]
  rfl

theorem longDcid_zero {data : Bytes} (h : data[5]? = some 0) (hc : longDcid data = some c) :
    c = .empty := by
  unfold longDcid at hc
  rw [h] at hc
  simp only at hc
  split_ifs at hc
  have hdata := ConnectionId.new_eq_some.mp hc
  rw [show (0 : UInt8).toNat = 0 from rfl, List.take_zero] at hdata
  exact ConnectionId.ext' hdata

/-- A short header with a CID whose length is tried is resolved by that CID. -/
theorem resolveDcid_shortHeader (hc : cidMap.lookup c = some k) (hlen : c.len ∈ lens) :
    resolveDcid cidMap lens (shortHeader c) = some k := by
  refine (resolveDcid_short_eq_some (isLongHeader_short _)).mpr
    ⟨c, List.prefix_rfl, hlen, hc, fun y hy _ hlt => ?_⟩
  have hle : y.len ≤ c.len := hy.length_le
  omega

end Resolve

/-- A long header with a DCID of the given length, cut off after it. -/
def longHeader (len : UInt8) : Bytes := [0x80, 0, 0, 0, 0, len]

/-- A DCID longer than any CID is unknown. -/
theorem owner_longHeader (w : World) (src : SocketAddr) :
    w.owner (longHeader 21) src = w.routes.addrMap.lookup src := by
  rw [owner_eq_or, resolveDcid_long rfl, resolveDcid_long rfl]
  rfl

theorem noneByAddress_iff {w : World} :
    w.NoneByAddress ↔ ∀ a, w.routes.addrMap.lookup a = none := by
  constructor
  · intro h a
    rw [← owner_longHeader]
    exact h (longHeader 21) a ⟨rfl, 21, rfl, by decide⟩ (resolveDcid_long rfl) (resolveDcid_long rfl)
  · rintro h data src ⟨hlong, len, hlen, hne⟩ h₁ h₂
    rw [owner_eq_or, h₁, h₂, h src, if_neg]
    · rfl
    · rintro (hshort | hzero)
      · cases hlong.symm.trans hshort
      · exact hne (Option.some.inj (hlen.symm.trans hzero))

/-! ## The two lookups after the hand-over -/

section Moved

variable {w w' : World} {k : ConnectionId} {n : ℕ} {conn : ServerConnection}

theorem Taken.server_cid_none (ht : Taken w.server w.routes k n w'.server w'.routes conn)
    {x : ConnectionId} (hx : w.server.cidMap.lookup x = none) :
    w'.server.cidMap.lookup x = none := by
  cases h : w'.server.cidMap.lookup x with
  | none => rfl
  | some j => cases hx.symm.trans ((ht.cid_iff x j).mp h).1

/-- Only the routes to `k` leave the server's table. -/
theorem Taken.server_cid_eq (ht : Taken w.server w.routes k n w'.server w'.routes conn)
    {x : ConnectionId} (hx : w.server.cidMap.lookup x ≠ some k) :
    w'.server.cidMap.lookup x = w.server.cidMap.lookup x := by
  cases h : w.server.cidMap.lookup x with
  | none => exact ht.server_cid_none h
  | some j => exact (ht.cid_iff x j).mpr ⟨h, fun heq => hx (heq ▸ h)⟩

theorem Taken.server_cid_self (ht : Taken w.server w.routes k n w'.server w'.routes conn)
    {x : ConnectionId} (hx : w.server.cidMap.lookup x = some k) :
    w'.server.cidMap.lookup x = none := by
  cases h : w'.server.cidMap.lookup x with
  | none => rfl
  | some j =>
    obtain ⟨hj, hne⟩ := (ht.cid_iff x j).mp h
    exact absurd (Option.some.inj (hj.symm.trans hx)) hne

theorem Taken.server_addr_eq (ht : Taken w.server w.routes k n w'.server w'.routes conn)
    {a : SocketAddr} (ha : w.server.addrMap.lookup a ≠ some k) :
    w'.server.addrMap.lookup a = w.server.addrMap.lookup a := by
  cases h : w.server.addrMap.lookup a with
  | none =>
    cases h' : w'.server.addrMap.lookup a with
    | none => rfl
    | some j => cases h.symm.trans ((ht.addr_iff a j).mp h').1
  | some j => exact (ht.addr_iff a j).mpr ⟨h, fun heq => ha (heq ▸ h)⟩

theorem Taken.shared_cid_none (ht : Taken w.server w.routes k n w'.server w'.routes conn)
    {x : ConnectionId} (hx : w'.routes.cidMap.lookup x = none) :
    w.routes.cidMap.lookup x = none := by
  rw [ht.shared_cid] at hx
  split_ifs at hx
  exact hx

/-- The server does not resolve anything to `k` any more. -/
theorem Taken.resolve_ne (ht : Taken w.server w.routes k n w'.server w'.routes conn) (data : Bytes) :
    resolveDcid w'.server.cidMap w'.server.shortCidLengths data ≠ some k := by
  intro h
  obtain ⟨x, hx⟩ := exists_of_resolveDcid h
  exact ((ht.cid_iff x k).mp hx).2 rfl

theorem Taken.addr_ne (ht : Taken w.server w.routes k n w'.server w'.routes conn) (a : SocketAddr) :
    w'.server.addrMap.lookup a ≠ some k :=
  fun h => ((ht.addr_iff a k).mp h).2 rfl

/-! ### Short headers -/

variable {p : Bytes}

theorem Taken.short_none (ht : Taken w.server w.routes k n w'.server w'.routes conn)
    (h : resolveDcid w.server.cidMap w.server.shortCidLengths (0x40 :: p) = none) :
    resolveDcid w'.server.cidMap w'.server.shortCidLengths (0x40 :: p) = none := by
  rw [resolveDcid_short_eq_none (isLongHeader_short p)] at h ⊢
  rw [ht.lens_eq]
  exact fun x hpre hlen => ht.server_cid_none (h x hpre hlen)

theorem Taken.short_other (ht : Taken w.server w.routes k n w'.server w'.routes conn)
    {j : ConnectionId} (hj : j ≠ k)
    (h : resolveDcid w.server.cidMap w.server.shortCidLengths (0x40 :: p) = some j) :
    resolveDcid w'.server.cidMap w'.server.shortCidLengths (0x40 :: p) = some j := by
  rw [resolveDcid_short_eq_some (isLongHeader_short p)] at h ⊢
  rw [ht.lens_eq]
  obtain ⟨x, hpre, hlen, hx, hmax⟩ := h
  exact ⟨x, hpre, hlen, (ht.cid_iff x j).mpr ⟨hx, hj⟩,
    fun y hy hmem hlt => ht.server_cid_none (hmax y hy hmem hlt)⟩

theorem Taken.short_self (ht : Taken w.server w.routes k n w'.server w'.routes conn)
    (hs : Seamless w k)
    (h : resolveDcid w.server.cidMap w.server.shortCidLengths (0x40 :: p) = some k) :
    resolveDcid w'.server.cidMap w'.server.shortCidLengths (0x40 :: p) = none := by
  obtain ⟨x, hpre, hlen, hx, hmax⟩ := (resolveDcid_short_eq_some (isLongHeader_short p)).mp h
  rw [resolveDcid_short_eq_none (isLongHeader_short p), ht.lens_eq]
  intro y hy hmem
  cases h' : w'.server.cidMap.lookup y with
  | none => rfl
  | some j =>
    obtain ⟨hj, hne⟩ := (ht.cid_iff y j).mp h'
    have hle : y.len ≤ x.len := by
      by_contra hlt
      cases hj.symm.trans (hmax y hy hmem (by omega))
    exact absurd (hs.no_prefix x y j hx hlen hj hmem (List.prefix_of_prefix_length_le hy hpre hle)) hne

/-- What the server resolved to `k`, the shared table resolves to `k` now. -/
theorem Taken.short_shared (ht : Taken w.server w.routes k n w'.server w'.routes conn)
    (hs : Seamless w k)
    (h : resolveDcid w.server.cidMap w.server.shortCidLengths (0x40 :: p) = some k) :
    resolveDcid w'.routes.cidMap w'.routes.shortCidLengths (0x40 :: p) = some k := by
  obtain ⟨x, hpre, hlen, hx, hmax⟩ := (resolveDcid_short_eq_some (isLongHeader_short p)).mp h
  have hx' : w'.routes.cidMap.lookup x = some k := by rw [ht.shared_cid, if_pos hx]
  have hlen' : x.len ∈ w'.routes.shortCidLengths := (ht.shared_lens _).mpr (.inr ⟨x, hx, rfl⟩)
  cases h' : resolveDcid w'.routes.cidMap w'.routes.shortCidLengths (0x40 :: p) with
  | none =>
    have := (resolveDcid_short_eq_none (isLongHeader_short p)).mp h' x hpre hlen'
    cases hx'.symm.trans this
  | some j =>
    obtain ⟨z, hzpre, -, hz, hzmax⟩ := (resolveDcid_short_eq_some (isLongHeader_short p)).mp h'
    have hle : x.len ≤ z.len := by
      by_contra hlt
      cases hx'.symm.trans (hzmax x hpre hlen' (by omega))
    rw [ht.shared_cid] at hz
    split_ifs at hz with hzk
    · exact hz.symm
    · -- `z` is a longer CID of an accepted connection, which `x` used to hide
      refine congrArg some (hs.not_hidden z j hz hzk ?_)
      refine (resolveDcid_short_eq_some (isLongHeader_short _)).mpr
        ⟨x, List.prefix_of_prefix_length_le hpre hzpre hle, hlen, hx, fun y hy hmem hlt => ?_⟩
      exact hmax y (hy.trans hzpre) hmem hlt

/-- What the server did not resolve, the shared table resolves as before. -/
theorem Taken.short_untried (ht : Taken w.server w.routes k n w'.server w'.routes conn)
    (hr : w.routes.LensCover) (hs : Seamless w k)
    (h : resolveDcid w.server.cidMap w.server.shortCidLengths (0x40 :: p) = none)
    {a : SocketAddr} (ha : w.server.addrMap.lookup a = none) :
    resolveDcid w'.routes.cidMap w'.routes.shortCidLengths (0x40 :: p) =
      resolveDcid w.routes.cidMap w.routes.shortCidLengths (0x40 :: p) := by
  have hlens {m : ℕ} (hm : m ∈ w.routes.shortCidLengths) : m ∈ w'.routes.shortCidLengths :=
    (ht.shared_lens m).mpr (.inl hm)
  cases h' : resolveDcid w'.routes.cidMap w'.routes.shortCidLengths (0x40 :: p) with
  | none =>
    symm
    rw [resolveDcid_short_eq_none (isLongHeader_short p)] at h' ⊢
    exact fun x hpre hlen => ht.shared_cid_none (h' x hpre (hlens hlen))
  | some j =>
    obtain ⟨z, hzpre, -, hz, hzmax⟩ := (resolveDcid_short_eq_some (isLongHeader_short p)).mp h'
    have hlonger (y : ConnectionId) (hy : y.data <+: p) (hmem : y.len ∈ w.routes.shortCidLengths)
        (hlt : z.len < y.len) : w.routes.cidMap.lookup y = none :=
      ht.shared_cid_none (hzmax y hy (hlens hmem) hlt)
    symm
    rw [ht.shared_cid] at hz
    split_ifs at hz with hzk
    · -- the longest match is a CID of `k`: it is in effect shared already
      cases hz
      have hnone : resolveDcid w.server.cidMap w.server.shortCidLengths (shortHeader z) = none :=
        (resolveDcid_short_eq_none (isLongHeader_short _)).mpr fun x hpre hlen =>
          (resolveDcid_short_eq_none (isLongHeader_short p)).mp h x (hpre.trans hzpre) hlen
      obtain ⟨e, hepre, helen, he, hemax⟩ := (resolveDcid_short_eq_some (isLongHeader_short _)).mp
        (hs.untried z hzk hnone a ha)
      refine (resolveDcid_short_eq_some (isLongHeader_short p)).mpr
        ⟨e, hepre.trans hzpre, helen, he, fun y hy hmem hlt => ?_⟩
      by_cases hle : y.len ≤ z.len
      · exact hemax y (List.prefix_of_prefix_length_le hy hzpre hle) hmem hlt
      · exact hlonger y hy hmem (by omega)
    · exact (resolveDcid_short_eq_some (isLongHeader_short p)).mpr
        ⟨z, hzpre, hr z j hz, hz, hlonger⟩

/-! ## The condition is enough -/

theorem Seamless.owner_short (hs : Seamless w k)
    (ht : Taken w.server w.routes k n w'.server w'.routes conn) (hr : w.routes.LensCover)
    (p : Bytes) (src : SocketAddr) : w'.owner (0x40 :: p) src = w.owner (0x40 :: p) src := by
  have haddr := ht.server_addr_eq (hs.addr src)
  have hshared : w'.routes.addrMap.lookup src = w.routes.addrMap.lookup src := by
    rw [ht.shared_addr, if_neg (hs.addr src)]
  rw [owner_eq_or, owner_eq_or, haddr, hshared]
  simp only [isLongHeader_short, true_or, if_true]
  cases hres : resolveDcid w.server.cidMap w.server.shortCidLengths (0x40 :: p) with
  | none =>
    rw [ht.short_none hres]
    cases ha : w.server.addrMap.lookup src with
    | none => rw [ht.short_untried hr hs hres ha]
    | some j => simp
  | some j =>
    by_cases hj : j = k
    · subst hj
      obtain ⟨x, -, hlen, hx, -⟩ := (resolveDcid_short_eq_some (isLongHeader_short p)).mp hres
      rw [ht.short_self hs hres, ht.short_shared hs hres, hs.no_addr x hx (.inl hlen) src]
      rfl
    · rw [ht.short_other hj hres]
      rfl

theorem Seamless.owner_long (hs : Seamless w k)
    (ht : Taken w.server w.routes k n w'.server w'.routes conn) {data : Bytes}
    (hlong : isLongHeader data = true) (src : SocketAddr) :
    w'.owner data src = w.owner data src := by
  have haddr := ht.server_addr_eq (hs.addr src)
  have hshared : w'.routes.addrMap.lookup src = w.routes.addrMap.lookup src := by
    rw [ht.shared_addr, if_neg (hs.addr src)]
  rw [owner_eq_or, owner_eq_or, haddr, hshared]
  simp only [resolveDcid_long hlong]
  cases hd : longDcid data with
  | none => rfl
  | some c =>
    simp only [Option.bind_some]
    by_cases hc : w.server.cidMap.lookup c = some k
    · -- by address only when the DCID is empty
      have hnone : (if isLongHeader data = false ∨ data[5]? = some 0 then
          w.server.addrMap.lookup src else none) = none := by
        split_ifs with h
        · rcases h with h | h
          · cases hlong.symm.trans h
          · exact hs.no_addr c hc (.inr (longDcid_zero h hd)) src
        · rfl
      rw [ht.server_cid_self hc, ht.shared_cid, if_pos hc, hc, hnone]
      rfl
    · rw [ht.server_cid_eq hc, ht.shared_cid, if_neg hc]

theorem Seamless.owner_eq (hs : Seamless w k)
    (ht : Taken w.server w.routes k n w'.server w'.routes conn) (hr : w.routes.LensCover)
    (data : Bytes) (src : SocketAddr) : w'.owner data src = w.owner data src := by
  cases hlong : isLongHeader data with
  | true => exact hs.owner_long ht hlong src
  | false =>
    cases data with
    | nil =>
      have haddr := ht.server_addr_eq (hs.addr src)
      have hshared : w'.routes.addrMap.lookup src = w.routes.addrMap.lookup src := by
        rw [ht.shared_addr, if_neg (hs.addr src)]
      rw [owner_eq_or, owner_eq_or, haddr, hshared]
      rfl
    | cons first p =>
      have hfirst (w : World) : w.owner (first :: p) src = w.owner (0x40 :: p) src := by
        simp only [owner_eq_or, resolveDcid_first hlong, hlong, isLongHeader_short, true_or, if_true]
      rw [hfirst, hfirst]
      exact hs.owner_short ht hr p src

theorem Seamless.transparent (hs : Seamless w k)
    (ht : Taken w.server w.routes k n w'.server w'.routes conn) (hr : w.routes.LensCover) :
    Transparent w w' := by
  refine ⟨hs.owner_eq ht hr, noneByAddress_iff.mpr hs.shared_addr,
    noneByAddress_iff.mpr fun a => ?_, fun m => ?_⟩
  · rw [ht.shared_addr, if_neg (hs.addr a), hs.shared_addr a]
  · rw [ht.lens_eq, ht.shared_lens]
    constructor
    · rintro (hm | hm | ⟨x, hx, rfl⟩)
      · exact .inl hm
      · exact .inr hm
      · exact hs.tried x hx
    · rintro (hm | hm)
      · exact .inl hm
      · exact .inr (.inl hm)

/-! ## and necessary -/

/-- Where the server gave a datagram to `k`, it gives it to nobody now. -/
theorem Transparent.server_none (h : Transparent w w')
    (ht : Taken w.server w.routes k n w'.server w'.routes conn) {data : Bytes}
    (hk : resolveDcid w.server.cidMap w.server.shortCidLengths data = some k) (src : SocketAddr) :
    resolveDcid w'.server.cidMap w'.server.shortCidLengths data = none ∧
    (isLongHeader data = false ∨ data[5]? = some 0 → w'.server.addrMap.lookup src = none) ∧
    w'.routes.resolve data src = some k := by
  have howner : w'.owner data src = some k := by
    rw [h.owner_eq, owner_eq_or, hk]
    rfl
  unfold World.owner Server.existingKey at howner
  cases hs : resolveDcid w'.server.cidMap w'.server.shortCidLengths data with
  | some j =>
    rw [hs] at howner
    exact absurd (hs.trans howner) (ht.resolve_ne data)
  | none =>
    rw [hs] at howner
    split_ifs at howner with hno
    · cases ha : w'.server.addrMap.lookup src with
      | some j =>
        rw [ha] at howner
        exact absurd (ha.trans howner) (ht.addr_ne src)
      | none =>
        rw [ha] at howner
        exact ⟨rfl, fun _ => rfl, howner⟩
    · exact ⟨rfl, fun hyes => absurd hyes hno, howner⟩

theorem Transparent.seamless (h : Transparent w w')
    (ht : Taken w.server w.routes k n w'.server w'.routes conn) (hr : w.routes.LensCover) :
    Seamless w k := by
  have hshared := noneByAddress_iff.mp h.before
  have haddr (a : SocketAddr) : w.server.addrMap.lookup a ≠ some k := by
    intro ha
    have := noneByAddress_iff.mp h.after a
    rw [ht.shared_addr, if_pos ha] at this
    cases this
  refine ⟨hshared, haddr, fun c hc => ?_, fun c hc hlen a => ?_, fun c e j hc hlen he helen hpre => ?_,
    fun e j he hne hk => ?_, fun c hc hnone a ha => ?_⟩
  · exact (h.lens c.len).mp (.inr ((ht.shared_lens _).mpr (.inr ⟨c, hc, rfl⟩)))
  · rw [← ht.server_addr_eq (haddr a)]
    rcases hlen with hlen | rfl
    · exact (h.server_none ht (resolveDcid_shortHeader hc hlen) a).2.1 (.inl rfl)
    · have hk : resolveDcid w.server.cidMap w.server.shortCidLengths (longHeader 0) = some k := by
        rw [resolveDcid_long rfl]
        exact hc
      exact (h.server_none ht hk a).2.1 (.inr rfl)
  · by_contra hne
    have hnone := (h.server_none ht (resolveDcid_shortHeader hc hlen) (.v4 0 0)).1
    have he' := (resolveDcid_short_eq_none (isLongHeader_short _)).mp hnone e hpre
      (ht.lens_eq.symm ▸ helen)
    cases he'.symm.trans ((ht.cid_iff e j).mpr ⟨he, hne⟩)
  · have hres := (h.server_none ht hk (.v4 0 0)).2.2
    have he' : w'.routes.cidMap.lookup e = some j := by rw [ht.shared_cid, if_neg hne, he]
    have hlen' : e.len ∈ w'.routes.shortCidLengths := (ht.shared_lens _).mpr (.inl (hr e j he))
    unfold SharedRoutes.resolve at hres
    rw [resolveDcid_shortHeader he' hlen'] at hres
    exact Option.some.inj hres
  · have hc' : w'.routes.cidMap.lookup c = some k := by rw [ht.shared_cid, if_pos hc]
    have hlen' : c.len ∈ w'.routes.shortCidLengths := (ht.shared_lens _).mpr (.inr ⟨c, hc, rfl⟩)
    have hnone' : resolveDcid w'.server.cidMap w'.server.shortCidLengths (shortHeader c) = none :=
      ht.short_none hnone
    have howner := h.owner_eq (shortHeader c) a
    rw [owner_eq_or, owner_eq_or, hnone, hnone', ht.server_addr_eq (haddr a), ha, hshared a,
      resolveDcid_shortHeader hc' hlen'] at howner
    simpa using howner.symm

end Moved

/-- **When the hand-over is transparent.** In every state that is reached, for every connection whose
handshake is complete: exactly when the tables are seamless for it. -/
theorem transparent_iff (ext : External) (cfg : ServerConfig) (ls : List Label) (k : ConnectionId)
    (c : ServerConnection)
    (hc : (run (World.step ext cfg) (.init cfg) ls).server.connections.lookup k = some c)
    (hdone : c.isHandshakeCompleted = true) :
    Transparent (run (World.step ext cfg) (.init cfg) ls)
      ((run (World.step ext cfg) (.init cfg) ls).accept k) ↔
      Seamless (run (World.step ext cfg) (.init cfg) ls) k := by
  have hr := run_lensCover ext cfg ls
  revert hc hr
  generalize run (World.step ext cfg) (.init cfg) ls = w
  intro hc hr
  obtain ⟨s, r, ht⟩ := exists_takeConnection hc w.routes w.nextHandle
  have haccept : w.accept k =
      { server := s, routes := r
        accepted := w.accepted.insert w.nextHandle { connectionId := k, inner := c }
        nextHandle := w.nextHandle + 1 } := by
    unfold World.accept
    rw [hc]
    simp only [hdone, if_true, ht]
  rw [haccept]
  have ht := takeConnection_taken ht
  exact ⟨fun h => h.seamless ht hr, fun h => h.transparent ht hr⟩

/-- A connection completes its handshake. -/
def sampleCompleted : List Label :=
  [.datagram (sampleDatagram (sampleInitial (sampleCid 1) []) 1) 0
    { read := { effect := { handshakeCompleted := true } }
      scid := sampleFill 2, key := sampleFill 5 }]

theorem transparent_iff_sample :
    Transparent (sampleRun sampleConfig sampleCompleted)
      ((sampleRun sampleConfig sampleCompleted).accept (sampleCid 2)) := by
  obtain ⟨c, hc, hdone⟩ :
      ∃ c ∈ (sampleRun sampleConfig sampleCompleted).server.connections.lookup (sampleCid 2),
        c.isHandshakeCompleted = true := by decide +kernel
  have hw := transparent_iff sampleExternal sampleConfig sampleCompleted (sampleCid 2) c
  rw [← sampleRun_eq] at hw
  refine (hw hc hdone).mpr ?_
  have hcids : ∀ x ∈ (sampleRun sampleConfig sampleCompleted).server.cidMap.keys,
      x.len ∈ (sampleRun sampleConfig sampleCompleted).server.shortCidLengths.toList ∧
      (sampleRun sampleConfig sampleCompleted).server.cidMap.lookup x = some (sampleCid 2) := by
    decide +kernel
  have haddrs : (sampleRun sampleConfig sampleCompleted).server.addrMap.keys = [] ∧
      (sampleRun sampleConfig sampleCompleted).routes.addrMap.keys = [] ∧
      (sampleRun sampleConfig sampleCompleted).routes.cidMap.keys = [] := by
    decide +kernel
  revert hcids haddrs
  generalize sampleRun sampleConfig sampleCompleted = w
  rintro hcids ⟨hserver, hshared, hroutes⟩
  have hempty {K V : Type} [DecidableEq K] {m : Map K V} (h : m.keys = []) (x : K) :
      m.lookup x = none := by
    rw [AList.lookup_eq_none, AList.mem_keys, h]
    exact List.not_mem_nil
  have hmem {x j : ConnectionId} (h : w.server.cidMap.lookup x = some j) :
      x.len ∈ w.server.shortCidLengths ∧ w.server.cidMap.lookup x = some (sampleCid 2) :=
    hcids x (Map.mem_iff_lookup.mpr ⟨j, h⟩)
  refine ⟨hempty hshared, fun a h => ?_, fun x hx => .inl (hmem hx).1, fun _ _ _ => hempty hserver,
    fun x e j _ _ he _ _ => ?_, fun e j he => ?_, fun x hx hnone => ?_⟩
  · cases (hempty hserver a).symm.trans h
  · exact Option.some.inj (he.symm.trans (hmem he).2)
  · cases (hempty hroutes e).symm.trans he
  · cases (resolveDcid_shortHeader hx (hmem hx).1).symm.trans hnone

/-- A server whose connections have no CIDs. -/
def sampleNoCids : ServerConfig := { sampleConfig with scidLen := 0 }

/-- The internal key of the connection. -/
def sampleKey : ConnectionId := ⟨List.replicate 16 5, by simp [maxCidLen]⟩

/-- **A connection without CIDs swallows Initials.** Before it is handed over, an Initial with an
unknown DCID that comes from its address opens a connection; afterwards it is given to it. -/
theorem handed_over_by_address :
    (∃ c ∈ (sampleRun sampleNoCids sampleCompleted).server.connections.lookup sampleKey,
      c.isHandshakeCompleted = true) ∧
    Lawful (sampleRun sampleNoCids sampleCompleted).trace ∧
    (sampleRun sampleNoCids sampleCompleted).owner (sampleInitial (sampleCid 9) []) (sampleAddr 1) =
      none ∧
    ((sampleRun sampleNoCids sampleCompleted).accept sampleKey).owner (sampleInitial (sampleCid 9) [])
      (sampleAddr 1) = some sampleKey ∧
    ¬ Transparent (sampleRun sampleNoCids sampleCompleted)
      ((sampleRun sampleNoCids sampleCompleted).accept sampleKey) := by
  have hbefore : (sampleRun sampleNoCids sampleCompleted).owner (sampleInitial (sampleCid 9) [])
      (sampleAddr 1) = none := by decide +kernel
  have hafter : ((sampleRun sampleNoCids sampleCompleted).accept sampleKey).owner
      (sampleInitial (sampleCid 9) []) (sampleAddr 1) = some sampleKey := by decide +kernel
  refine ⟨by decide +kernel, by decide +kernel, hbefore, hafter, fun h => ?_⟩
  cases hafter.symm.trans ((h.owner_eq _ _).trans hbefore)

end Ngtcp2Rs
