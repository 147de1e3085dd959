import Ngtcp2Rs.Lib.Bytes
import Ngtcp2Rs.Types

/-!
# Socket addresses of the system

The conversions between `SocketAddr` and the `sockaddr` of the system, which `ngtcp2/src/conn.rs` and
`tokio-ngtcp2/src/socket.rs` have a copy of each, and the way of a reply from `recv_from_sync` to
`send_to_sync`. Both `sockaddr_to_raw` write the flow information and the scope of an IPv6 address;
both `sockaddr_from_raw` leave them out.

* `fromRaw_toRaw`: what a round trip makes of an address.
* `sockaddr_survives_iff`: which addresses survive, and which peers are answered where they are.
-/

namespace Ngtcp2Rs

open Lib

/-! ## The program -/

/-- `sockaddr_storage`, by its family. Ports and the IPv4 address are words in network byte order. -/
inductive Sockaddr where
  | inet (port : BitVec 16) (addr : BitVec 32)
  | inet6 (port : BitVec 16) (flowinfo : BitVec 32) (addr : List.Vector UInt8 16)
      (scopeId : BitVec 32)
  | other (family : ℕ)
  deriving DecidableEq

/-- The size of `sockaddr_in`. -/
def sockaddrInLen : ℕ := 16
/-- The size of `sockaddr_in6`. -/
def sockaddrIn6Len : ℕ := 28

/-- `to_be` or `from_be` of a word of `len` bytes. -/
def beWord (e : Endian) (len : ℕ) {n : ℕ} (x : BitVec n) : BitVec n :=
  BitVec.ofNat n (e.swapBe len x.toNat)

/-- The octets of an IPv4 address. -/
def ipv4Octets (ip : BitVec 32) : Bytes := toBe 4 ip.toNat

/-- The octets of an IPv6 address. -/
def ipv6Octets (ip : BitVec 128) : List.Vector UInt8 16 := ⟨toBe 16 ip.toNat, length_toBe 16 _⟩

/-- `Ipv6Addr::from`. -/
def ipv6From (octets : List.Vector UInt8 16) : BitVec 128 := BitVec.ofNat 128 (fromBe octets.toList)

namespace Conn

/-- `sockaddr_to_raw` of `conn.rs`. -/
def sockaddrToRaw (e : Endian) : SocketAddr → Sockaddr × ℕ
  | .v4 ip port =>
    (.inet (beWord e 2 port) (BitVec.ofNat 32 (e.fromNe (ipv4Octets ip))), sockaddrInLen)
  | .v6 ip port flowinfo scopeId =>
    (.inet6 (beWord e 2 port) flowinfo (ipv6Octets ip) scopeId, sockaddrIn6Len)

/-- `sockaddr_from_raw` of `conn.rs`; `none` is the null pointer. -/
def sockaddrFromRaw (e : Endian) (addr : Option Sockaddr) (len : ℕ) : Option SocketAddr :=
  match addr with
  | none => none
  | some (.inet port addr) =>
    if len < sockaddrInLen then none else some (.v4 (beWord e 4 addr) (beWord e 2 port))
  | some (.inet6 port _ addr _) =>
    -- `SocketAddr::new` has no flow information and no scope
    if len < sockaddrIn6Len then none else some (.v6 (ipv6From addr) (beWord e 2 port) 0 0)
  | some (.other _) => none

/-- `ngtcp2_path`. -/
structure RawPath where
  localAddr : Sockaddr × ℕ
  remote : Sockaddr × ℕ

/-- The path of `read_pkt`. -/
def rawPath (e : Endian) (info : PathInfo) : RawPath :=
  ⟨sockaddrToRaw e info.localAddr, sockaddrToRaw e info.remote⟩

/-- `path_info_from_raw`; `none` is the null pointer. -/
def pathInfoFromRaw (e : Endian) (path : Option RawPath) : Option PathInfo :=
  match path with
  | none => none
  | some path => do
    let localAddr ← sockaddrFromRaw e (some path.localAddr.1) path.localAddr.2
    let remote ← sockaddrFromRaw e (some path.remote.1) path.remote.2
    return ⟨localAddr, remote⟩

end Conn

namespace Socket

/-- `sockaddr_to_raw` of `socket.rs`. -/
def sockaddrToRaw (e : Endian) : SocketAddr → Sockaddr × ℕ
  | .v4 ip port =>
    (.inet (beWord e 2 port) (BitVec.ofNat 32 (e.fromNe (ipv4Octets ip))), sockaddrInLen)
  | .v6 ip port flowinfo scopeId =>
    (.inet6 (beWord e 2 port) flowinfo (ipv6Octets ip) scopeId, sockaddrIn6Len)

/-- `sockaddr_from_raw` of `socket.rs`. -/
def sockaddrFromRaw (e : Endian) (addr : Sockaddr) (len : ℕ) : Option SocketAddr :=
  match addr with
  | .inet port addr =>
    if len < sockaddrInLen then none else some (.v4 (beWord e 4 addr) (beWord e 2 port))
  | .inet6 port _ addr _ =>
    if len < sockaddrIn6Len then none else some (.v6 (ipv6From addr) (beWord e 2 port) 0 0)
  | .other _ => none

/-- The source address that `recv_from_sync` returns, from what `recvmsg` reports. -/
def recvFromSync (e : Endian) (reported : Sockaddr × ℕ) : Option SocketAddr :=
  sockaddrFromRaw e reported.1 reported.2

/-- The address that `send_to_sync` passes to `sendmsg`. -/
def sendToSync (e : Endian) (target : SocketAddr) : Sockaddr × ℕ := sockaddrToRaw e target

end Socket

/-- The address that a reply goes to: the source is the remote address of the path that is read, and
ngtcp2 reports that path, unchanged, with the packet it writes. -/
def replyAddr (e : Endian) (localAddr : SocketAddr) (reported : Sockaddr × ℕ) :
    Option (Sockaddr × ℕ) := do
  let src ← Socket.recvFromSync e reported
  let path ← Conn.pathInfoFromRaw e (some (Conn.rawPath e ⟨localAddr, src⟩))
  return Socket.sendToSync e path.remote

/-! ## Round trips -/

/-- The address has no flow information and no scope: it is IPv4, or both are zero. -/
def SocketAddr.Plain : SocketAddr → Prop
  | v4 _ _ => True
  | v6 _ _ flowinfo scopeId => flowinfo = 0 ∧ scopeId = 0

/-- Likewise for an address of the system. -/
def Sockaddr.Plain : Sockaddr → Prop
  | inet _ _ => True
  | inet6 _ flowinfo _ scopeId => flowinfo = 0 ∧ scopeId = 0
  | other _ => False

/-- What the system reports as the source of a datagram on an IPv4 or IPv6 socket. -/
def Sockaddr.Reported : Sockaddr → ℕ → Prop
  | inet _ _, len => len = sockaddrInLen
  | inet6 _ _ _ _, len => len = sockaddrIn6Len
  | other _, _ => False

/-- The address without flow information and scope. -/
def SocketAddr.plain : SocketAddr → SocketAddr
  | v4 ip port => v4 ip port
  | v6 ip port _ _ => v6 ip port 0 0

theorem SocketAddr.plain_eq_iff {a : SocketAddr} : a.plain = a ↔ a.Plain := by
  cases a with
  | v4 ip port => exact ⟨fun _ => trivial, fun _ => rfl⟩
  | v6 ip port flowinfo scopeId =>
    constructor
    · intro h
      cases h
      exact ⟨rfl, rfl⟩
    · rintro ⟨rfl, rfl⟩
      rfl

section RoundTrip

variable {e : Endian}

theorem toNat_beWord {len n : ℕ} (hn : 2 ^ n = 256 ^ len) (x : BitVec n) :
    (beWord e len x).toNat = e.swapBe len x.toNat := by
  have hlt : e.swapBe len x.toNat < 2 ^ n := by
    rw [hn]
    exact Endian.swapBe_lt (hn ▸ x.isLt)
  exact Nat.mod_eq_of_lt hlt

theorem beWord_beWord {len n : ℕ} (hn : 2 ^ n = 256 ^ len) (x : BitVec n) :
    beWord e len (beWord e len x) = x := by
  apply BitVec.eq_of_toNat_eq
  rw [toNat_beWord hn, toNat_beWord hn, Endian.swapBe_swapBe (hn ▸ x.isLt)]

/-- The octets of an IPv4 address in memory are its word in network byte order. -/
theorem fromNe_ipv4Octets (ip : BitVec 32) :
    BitVec.ofNat 32 (e.fromNe (ipv4Octets ip)) = beWord e 4 ip := by
  have hlt : ip.toNat < 256 ^ 4 := ip.isLt
  unfold ipv4Octets beWord
  rw [Endian.fromNe_toBe hlt]

theorem two_pow_128 : 2 ^ 128 = 256 ^ 16 := by simp

theorem ipv6From_ipv6Octets (ip : BitVec 128) : ipv6From (ipv6Octets ip) = ip := by
  have hlt := ip.isLt
  apply BitVec.eq_of_toNat_eq
  unfold ipv6From ipv6Octets
  rw [BitVec.toNat_ofNat, List.Vector.toList_mk, fromBe_toBe, ← two_pow_128, Nat.mod_mod,
    Nat.mod_eq_of_lt hlt]

theorem ipv6Octets_ipv6From (octets : List.Vector UInt8 16) :
    ipv6Octets (ipv6From octets) = octets := by
  have hlen := octets.toList_length
  have hlt := fromBe_lt octets.toList
  rw [hlen, ← two_pow_128] at hlt
  have hdigits := toBe_fromBe octets.toList
  rw [hlen] at hdigits
  apply List.Vector.toList_injective
  unfold ipv6Octets ipv6From
  rw [List.Vector.toList_mk, BitVec.toNat_ofNat, Nat.mod_eq_of_lt hlt, hdigits]

theorem toRaw_agree (a : SocketAddr) : Conn.sockaddrToRaw e a = Socket.sockaddrToRaw e a := by
  cases a <;> rfl

theorem fromRaw_agree (addr : Sockaddr) (len : ℕ) :
    Conn.sockaddrFromRaw e (some addr) len = Socket.sockaddrFromRaw e addr len := by
  cases addr <;> rfl

/-- **A round trip drops flow information and scope.** -/
theorem fromRaw_toRaw (a : SocketAddr) :
    Socket.sockaddrFromRaw e (Socket.sockaddrToRaw e a).1 (Socket.sockaddrToRaw e a).2 =
      some a.plain := by
  cases a with
  | v4 ip port =>
    change some (SocketAddr.v4 (beWord e 4 (BitVec.ofNat 32 (e.fromNe (ipv4Octets ip))))
      (beWord e 2 (beWord e 2 port))) = _
    rw [fromNe_ipv4Octets, beWord_beWord (by rfl), beWord_beWord (by rfl)]
    rfl
  | v6 ip port flowinfo scopeId =>
    change some (SocketAddr.v6 (ipv6From (ipv6Octets ip)) (beWord e 2 (beWord e 2 port)) 0 0) = _
    rw [ipv6From_ipv6Octets, beWord_beWord (by rfl)]
    rfl

theorem connFromRaw_toRaw (a : SocketAddr) :
    Conn.sockaddrFromRaw e (some (Conn.sockaddrToRaw e a).1) (Conn.sockaddrToRaw e a).2 =
      some a.plain := by
  rw [fromRaw_agree, toRaw_agree, fromRaw_toRaw]

/-- What ngtcp2 reports of a path that was given to it. -/
theorem pathInfoFromRaw_rawPath (info : PathInfo) :
    Conn.pathInfoFromRaw e (some (Conn.rawPath e info)) =
      some ⟨info.localAddr.plain, info.remote.plain⟩ := by
  simp only [Conn.pathInfoFromRaw, Conn.rawPath, connFromRaw_toRaw]
  rfl

/-- The reply goes to the source without its flow information and scope. -/
theorem replyAddr_eq {localAddr : SocketAddr} {reported : Sockaddr × ℕ} {src : SocketAddr}
    (h : Socket.recvFromSync e reported = some src) :
    replyAddr e localAddr reported = some (Socket.sockaddrToRaw e src.plain) := by
  unfold replyAddr
  rw [h]
  change (Conn.pathInfoFromRaw e (some (Conn.rawPath e ⟨localAddr, src⟩))).bind _ = _
  rw [pathInfoFromRaw_rawPath]
  rfl

theorem replyAddr_inet (localAddr : SocketAddr) (port : BitVec 16) (addr : BitVec 32) :
    replyAddr e localAddr (.inet port addr, sockaddrInLen) =
      some (.inet port addr, sockaddrInLen) := by
  have hrecv : Socket.recvFromSync e (.inet port addr, sockaddrInLen) =
      some (.v4 (beWord e 4 addr) (beWord e 2 port)) := rfl
  rw [replyAddr_eq hrecv]
  simp only [SocketAddr.plain, Socket.sockaddrToRaw]
  rw [fromNe_ipv4Octets, beWord_beWord (by rfl), beWord_beWord (by rfl)]

theorem replyAddr_inet6 (localAddr : SocketAddr) (port : BitVec 16) (flowinfo : BitVec 32)
    (addr : List.Vector UInt8 16) (scopeId : BitVec 32) :
    replyAddr e localAddr (.inet6 port flowinfo addr scopeId, sockaddrIn6Len) =
      some (.inet6 port 0 addr 0, sockaddrIn6Len) := by
  have hrecv : Socket.recvFromSync e (.inet6 port flowinfo addr scopeId, sockaddrIn6Len) =
      some (.v6 (ipv6From addr) (beWord e 2 port) 0 0) := rfl
  rw [replyAddr_eq hrecv]
  simp only [SocketAddr.plain, Socket.sockaddrToRaw]
  rw [ipv6Octets_ipv6From, beWord_beWord (by rfl)]

end RoundTrip

/-- **Which addresses survive.** The two copies agree. A round trip gives an address back, and a reply
goes to the source that the system reported, exactly when the address is IPv4 or has neither flow
information nor a scope. -/
theorem sockaddr_survives_iff (e : Endian) :
    (∀ a, Conn.sockaddrToRaw e a = Socket.sockaddrToRaw e a) ∧
    (∀ addr len, Conn.sockaddrFromRaw e (some addr) len = Socket.sockaddrFromRaw e addr len) ∧
    (∀ a, (Socket.sockaddrFromRaw e (Socket.sockaddrToRaw e a).1 (Socket.sockaddrToRaw e a).2 =
        some a ∧
      Conn.sockaddrFromRaw e (some (Conn.sockaddrToRaw e a).1) (Conn.sockaddrToRaw e a).2 =
        some a) ↔ a.Plain) ∧
    ∀ (localAddr : SocketAddr) (addr : Sockaddr) (len : ℕ), addr.Reported len →
      (replyAddr e localAddr (addr, len) = some (addr, len) ↔ addr.Plain) := by
  refine ⟨toRaw_agree, fromRaw_agree, fun a => ?_, fun localAddr addr len hlen => ?_⟩
  · rw [fromRaw_toRaw, connFromRaw_toRaw, and_self, Option.some.injEq, SocketAddr.plain_eq_iff]
  · cases addr with
    | inet port addr =>
      obtain rfl : len = sockaddrInLen := hlen
      exact ⟨fun _ => trivial, fun _ => replyAddr_inet localAddr port addr⟩
    | inet6 port flowinfo addr scopeId =>
      obtain rfl : len = sockaddrIn6Len := hlen
      rw [replyAddr_inet6]
      constructor
      · intro h
        cases h
        exact ⟨rfl, rfl⟩
      · rintro ⟨rfl, rfl⟩
        rfl
    | other family => exact hlen.elim

/-- `fe80::1`. -/
def sampleOctets : List.Vector UInt8 16 :=
  ⟨[0xfe, 0x80, 0, 0, 0, 0, 0, 0, 0, 0, 0, 0, 0, 0, 0, 1], rfl⟩

/-- The address `fe80::1` with port 4433 and scope 2, as the system reports it. -/
def sampleLinkLocal : Sockaddr := .inet6 0x5111 0 sampleOctets 2

/-- **A link-local peer is answered without its scope**, and its address does not survive a round
trip. -/
theorem replyAddr_linkLocal :
    sampleLinkLocal.Reported sockaddrIn6Len ∧
    replyAddr .little (.v6 0 4433 0 0) (sampleLinkLocal, sockaddrIn6Len) ≠
      some (sampleLinkLocal, sockaddrIn6Len) ∧
    Socket.sockaddrFromRaw .little (Socket.sockaddrToRaw .little (.v6 1 4433 0 2)).1
      (Socket.sockaddrToRaw .little (.v6 1 4433 0 2)).2 = some (.v6 1 4433 0 0) := by
  refine ⟨rfl, fun h => ?_, fromRaw_toRaw _⟩
  have hreply := replyAddr_inet6 (e := .little) (.v6 0 4433 0 0) 0x5111 0 sampleOctets 2
  cases hreply.symm.trans h

end Ngtcp2Rs
