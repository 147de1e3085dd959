import Ngtcp2Rs.Types
import Ngtcp2Rs.Lib.Run

/-!
# Server names

`TlsSession::set_server_name` and `configure_peer_ip_verification` of `ngtcp2/src/crypto.rs`, and how
`Connection::client_new` uses them. A name is an IP address if the standard library parses it as one;
what it says is then checked against the certificate and not sent as SNI. Every call into aws-lc can
fail, and a call that fails leaves its own setting as it was or cleared.

* `name_verified`: a client connection is verified for the name it was created with, whatever was set
  before, and for nothing else;
* `sni_valid`: in every state the SNI is a name that `set_server_name` accepts, and no IP address.
-/

namespace Ngtcp2Rs

namespace ServerName

open Lib

/-! ## IP addresses -/

/-- An IP address. -/
inductive IpAddr where
  | v4 (ip : BitVec 32)
  | v6 (ip : BitVec 128)
  deriving DecidableEq, Repr

/-- A number in base `radix` from its digits. -/
def ofDigits (radix : ℕ) (digits : List ℕ) : ℕ := digits.foldl (fun n d => radix * n + d) 0

/-- The value of a digit. -/
def toDigit (radix : ℕ) (b : UInt8) : Option ℕ :=
  let value :=
    if 48 ≤ b ∧ b ≤ 57 then some (b.toNat - 48)
    else if 97 ≤ b ∧ b ≤ 102 then some (b.toNat - 87)
    else if 65 ≤ b ∧ b ≤ 70 then some (b.toNat - 55)
    else none
  value.filter fun d => d < radix

/-- The digits in front, and the rest. -/
def readDigits (radix : ℕ) : Bytes → List ℕ × Bytes
  | [] => ([], [])
  | b :: s =>
    match toDigit radix b with
    | none => ([], b :: s)
    | some d =>
      let (ds, s) := readDigits radix s
      (d :: ds, s)

/-- `read_number`, for a type of numbers below `bound`. -/
def readNumber (radix maxDigits : ℕ) (allowZeroPrefix : Bool) (bound : ℕ) (s : Bytes) :
    Option (ℕ × Bytes) :=
  let (digits, s) := readDigits radix s
  if digits = [] ∨ maxDigits < digits.length then none
  else if !allowZeroPrefix ∧ digits.head? = some 0 ∧ 1 < digits.length then none
  else if ofDigits radix digits < bound then some (ofDigits radix digits, s)
  else none

/-- `read_separator`: every part but the first one follows a separator. -/
def readSeparator {α : Type} (sep : UInt8) (index : ℕ) (inner : Bytes → Option (α × Bytes))
    (s : Bytes) : Option (α × Bytes) :=
  if index = 0 then inner s
  else
    match s with
    | [] => none
    | b :: s => if b = sep then inner s else none

/-- `read_ipv4_addr`. -/
def readIpv4Addr (s : Bytes) : Option ((ℕ × ℕ × ℕ × ℕ) × Bytes) := do
  let (a, s) ← readSeparator 46 0 (readNumber 10 3 false 256) s
  let (b, s) ← readSeparator 46 1 (readNumber 10 3 false 256) s
  let (c, s) ← readSeparator 46 2 (readNumber 10 3 false 256) s
  let (d, s) ← readSeparator 46 3 (readNumber 10 3 false 256) s
  some ((a, b, c, d), s)

/-- `read_groups`, with `left` of `limit` groups to read: the groups, whether the last two were an
IPv4 address, and the rest. -/
def readGroups (limit : ℕ) : (left : ℕ) → Bytes → List ℕ × Bool × Bytes
  | 0, s => ([], false, s)
  | left + 1, s =>
    let index := limit - (left + 1)
    let ipv4 := if 0 < left then readSeparator 58 index readIpv4Addr s else none
    match ipv4 with
    | some ((a, b, c, d), s) => ([256 * a + b, 256 * c + d], true, s)
    | none =>
      match readSeparator 58 index (readNumber 16 4 true 65536) s with
      | none => ([], false, s)
      | some (group, s) =>
        let (groups, ipv4, s) := readGroups limit left s
        (group :: groups, ipv4, s)

/-- `read_ipv6_addr`. -/
def readIpv6Addr (s : Bytes) : Option (List ℕ × Bytes) :=
  let (head, headIpv4, s) := readGroups 8 8 s
  if head.length = 8 then some (head, s)
  else if headIpv4 then none
  else
    match s with
    | 58 :: 58 :: s =>
      let limit := 8 - (head.length + 1)
      let (tail, _, s) := readGroups limit limit s
      some (head ++ List.replicate (8 - head.length - tail.length) 0 ++ tail, s)
    | _ => none

/-- `str::parse::<IpAddr>`. -/
def parseIpAddr (name : Bytes) : Option IpAddr :=
  let v4 := (readIpv4Addr name).map fun ((a, b, c, d), s) =>
    (IpAddr.v4 (BitVec.ofNat 32 (ofDigits 256 [a, b, c, d])), s)
  let v6 := (readIpv6Addr name).map fun (groups, s) =>
    (IpAddr.v6 (BitVec.ofNat 128 (ofDigits 65536 groups)), s)
  match v4.or v6 with
  | some (ip, []) => some ip
  | _ => none

/-! ## Sessions -/

/-- How a call into aws-lc that replaces a setting ends. -/
inductive SslCall where
  | ok
  | failed (cleared : Bool)
  deriving DecidableEq, Repr

/-- The setting after the call. -/
def SslCall.set {α : Type} (call : SslCall) (old new : Option α) : Option α :=
  match call with
  | .ok => new
  | .failed cleared => if cleared then none else old

/-- What an `SSL` sends and checks: the SNI, the DNS name and the IP address of the certificate. -/
@[ext] structure Ssl where
  sni : Option Bytes := none
  host : Option Bytes := none
  ip : Option IpAddr := none
  deriving DecidableEq, Repr

/-- A `TlsSession`, as far as names go. -/
structure TlsSession where
  isServer : Bool := false
  ssl : Ssl := {}
  peerIp : Option IpAddr := none
  deriving DecidableEq, Repr

/-- What aws-lc answers during `set_server_name`. -/
structure NameCalls where
  /-- `SSL_get0_param` is not null -/
  param : Bool := true
  /-- `SSL_set_tlsext_host_name` -/
  sni : SslCall := .ok
  /-- `X509_VERIFY_PARAM_set1_host` or `SSL_set1_host` -/
  host : SslCall := .ok
  deriving DecidableEq, Repr

/-- Why a name is refused before anything is set. -/
def refuse (name : Bytes) : Option Error :=
  if name = [] then some (.invalidArgument "server_name must not be empty")
  else if 42 ∈ name then some (.invalidArgument "server_name must be a DNS name, not a wildcard")
  else if 255 < name.length then some (.invalidArgument "server_name exceeds 255 bytes")
  else if 0 ∈ name then some (.invalidArgument "invalid server name")
  else none

namespace TlsSession

/-- `set_server_name`: the session, and the error if there was one. -/
def setServerName (s : TlsSession) (name : Bytes) (calls : NameCalls) : TlsSession × Option Error :=
  if s.isServer then (s, some (.invalidArgument "cannot set server name on server session"))
  else
    match refuse name with
    | some e => (s, some e)
    | none =>
      let peerIp := parseIpAddr name
      let wanted := if peerIp.isSome then none else some name
      if !calls.param then (s, some (.internal "SSL_get0_param failed"))
      else
        let s := { s with ssl := { s.ssl with sni := calls.sni.set s.ssl.sni wanted } }
        if calls.sni ≠ .ok then (s, some (.internal "SSL_set_tlsext_host_name failed"))
        else
          let s := { s with ssl := { s.ssl with host := calls.host.set s.ssl.host wanted } }
          if calls.host ≠ .ok then
            (s, some (.internal
              (if peerIp.isSome then "failed to clear DNS identity" else "SSL_set1_host failed")))
          else ({ s with peerIp }, none)

/-- `configure_peer_ip_verification`; `param` and `set` say whether aws-lc's calls succeed. -/
def configurePeerIpVerification (s : TlsSession) (param set : Bool) : Except Error TlsSession :=
  match s.peerIp with
  | none => .ok s
  | some ip =>
    if !param then .error (.internal "SSL_get0_param failed")
    else if !set then .error (.internal "X509_VERIFY_PARAM_set1_ip failed")
    else .ok { s with ssl := { s.ssl with ip := some ip } }

/-- What `client_new` does with its session, which no one else has any more. -/
def connect (s : TlsSession) (name : Bytes) (calls : NameCalls) (param set : Bool) :
    Except Error TlsSession :=
  match s.setServerName name calls with
  | (_, some e) => .error e
  | (s, none) => s.configurePeerIpVerification param set

/-- A call of `set_server_name` by the application. -/
def step (s : TlsSession) (call : Bytes × NameCalls) : TlsSession := (s.setServerName call.1 call.2).1

end TlsSession

/-! ## What is verified -/

/-- The peer that a name stands for. -/
inductive Peer where
  | dns (name : Bytes)
  | ip (addr : IpAddr)
  deriving DecidableEq, Repr

/-- The peer of a name. -/
def Peer.of (name : Bytes) : Peer :=
  match parseIpAddr name with
  | some addr => .ip addr
  | none => .dns name

/-- What is sent and checked for a peer. -/
def Peer.ssl : Peer → Ssl
  | .dns name => { sni := some name, host := some name }
  | .ip addr => { ip := some addr }

/-- The names that `set_server_name` accepts. -/
structure ValidName (name : Bytes) : Prop where
  ne_nil : name ≠ []
  wildcard : 42 ∉ name
  length_le : name.length ≤ 255
  nul : 0 ∉ name

theorem refuse_eq_none {name : Bytes} : refuse name = none ↔ ValidName name := by
  unfold refuse
  split_ifs with hnil hstar hlen hnul
  · exact iff_of_false (by simp) fun h => h.ne_nil hnil
  · exact iff_of_false (by simp) fun h => h.wildcard hstar
  · exact iff_of_false (by simp) fun h => absurd h.length_le (by omega)
  · exact iff_of_false (by simp) fun h => h.nul hnul
  · exact iff_of_true rfl ⟨hnil, hstar, by omega, hnul⟩

variable {s s' : TlsSession} {name : Bytes} {calls : NameCalls}

/-- `set_server_name` leaves the IP check alone. -/
theorem setServerName_ip (s : TlsSession) (name : Bytes) (calls : NameCalls) :
    (s.setServerName name calls).1.ssl.ip = s.ssl.ip := by
  unfold TlsSession.setServerName
  split
  · rfl
  split
  · rfl
  dsimp only
  split
  · rfl
  split
  · rfl
  split <;> rfl

/-- A name that was taken is the one that is sent, checked and remembered. -/
theorem setServerName_ok (h : s.setServerName name calls = (s', none)) :
    ValidName name ∧ s'.ssl.sni = (Peer.of name).ssl.sni ∧ s'.ssl.host = (Peer.of name).ssl.host ∧
      s'.peerIp = parseIpAddr name := by
  unfold TlsSession.setServerName at h
  split at h
  · cases h
  split at h
  · cases h
  next hvalid =>
  dsimp only at h
  split at h
  · cases h
  split at h
  · cases h
  next hsni =>
  split at h
  · cases h
  next hhost =>
  cases h
  rw [not_not] at hsni hhost
  refine ⟨refuse_eq_none.mp hvalid, ?_, ?_, rfl⟩ <;>
    cases hip : parseIpAddr name <;> simp [SslCall.set, hsni, hhost, Peer.of, Peer.ssl, hip]

theorem SslCall.set_cases {α : Type} (call : SslCall) (old new : Option α) :
    call.set old new = none ∨ call.set old new = old ∨ call.set old new = new := by
  cases call with
  | ok => exact .inr (.inr rfl)
  | failed cleared => cases cleared <;> simp [SslCall.set]

/-- The SNI is a name, and no IP address. -/
def SniValid (s : TlsSession) : Prop :=
  ∀ name, s.ssl.sni = some name → ValidName name ∧ parseIpAddr name = none

/-- `set_server_name` sets the SNI to a name, or clears it, or leaves it. -/
theorem setServerName_sni (s : TlsSession) (name : Bytes) (calls : NameCalls) :
    (s.setServerName name calls).1.ssl.sni = s.ssl.sni ∨
      (s.setServerName name calls).1.ssl.sni = none ∨
        ValidName name ∧ parseIpAddr name = none ∧
          (s.setServerName name calls).1.ssl.sni = some name := by
  unfold TlsSession.setServerName
  split
  · exact .inl rfl
  split
  · exact .inl rfl
  next hvalid =>
  dsimp only
  split
  · exact .inl rfl
  set wanted := if (parseIpAddr name).isSome then none else some name with hwanted
  -- the calls that follow leave the SNI alone
  have hset : calls.sni.set s.ssl.sni wanted = s.ssl.sni ∨ calls.sni.set s.ssl.sni wanted = none ∨
      ValidName name ∧ parseIpAddr name = none ∧
        calls.sni.set s.ssl.sni wanted = some name := by
    obtain h | h | h := calls.sni.set_cases s.ssl.sni wanted
    · exact .inr (.inl h)
    · exact .inl h
    · rw [h, hwanted]
      cases hip : parseIpAddr name with
      | some addr => exact .inr (.inl rfl)
      | none => exact .inr (.inr ⟨refuse_eq_none.mp hvalid, rfl, rfl⟩)
  split
  · exact hset
  split <;> exact hset

/-- **SNI.** Whatever names the application tries, and whichever calls fail, the SNI that a client
would send is a name that `set_server_name` accepts, and no IP address. -/
theorem sni_valid (calls : List (Bytes × NameCalls)) : SniValid (run TlsSession.step {} calls) := by
  refine run_preserves (I := SniValid) (fun s call hs name hname => ?_) calls {} ?_
  · obtain h | h | ⟨hvalid, hip, h⟩ := setServerName_sni s call.1 call.2
    · exact hs name (h.symm.trans hname)
    · cases h.symm.trans hname
    · cases h.symm.trans hname
      exact ⟨hvalid, hip⟩
  · intro name hname
    cases hname

/-- **The verified name.** A client connection that is created sends and checks what its own name
stands for, whatever was set before on its session, and whichever calls failed then. -/
theorem name_verified (calls : List (Bytes × NameCalls)) {name : Bytes} {last : NameCalls}
    {param set : Bool}
    (hnew : (run TlsSession.step {} calls).connect name last param set = .ok s) :
    ValidName name ∧ s.ssl = (Peer.of name).ssl := by
  have hip : (run TlsSession.step {} calls).ssl.ip = none :=
    run_preserves (I := fun s => s.ssl.ip = none)
      (fun s call hs => (setServerName_ip s call.1 call.2).trans hs) calls {} rfl
  unfold TlsSession.connect at hnew
  split at hnew
  · cases hnew
  next s₁ hset =>
    obtain ⟨hvalid, hsni, hhost, hpeer⟩ := setServerName_ok hset
    have hip₁ : s₁.ssl.ip = none := by
      have := setServerName_ip (run TlsSession.step {} calls) name last
      rw [hset] at this
      exact this.trans hip
    refine ⟨hvalid, ?_⟩
    unfold TlsSession.configurePeerIpVerification at hnew
    cases haddr : parseIpAddr name with
    | none =>
      rw [hpeer, haddr] at hnew
      cases hnew
      simp_all [Peer.of, Peer.ssl, Ssl.ext_iff]
    | some addr =>
      rw [hpeer, haddr] at hnew
      dsimp only at hnew
      split_ifs at hnew
      cases hnew
      simp_all [Peer.of, Peer.ssl]

/-- `example.com` was set, `192.0.2.1` only in part, and the connection is to `::1`. -/
def sampleCalls : List (Bytes × NameCalls) :=
  [([101, 120, 97, 109, 112, 108, 101, 46, 99, 111, 109], {}),
    ([49, 57, 50, 46, 48, 46, 50, 46, 49], { host := .failed false })]

theorem name_verified_sample : ValidName [58, 58, 49] ∧
    ({ ip := some (.v6 1) } : Ssl) = (Peer.of [58, 58, 49]).ssl := by
  have hnew : (run TlsSession.step {} sampleCalls).connect [58, 58, 49] {} true true =
      .ok { ssl := { ip := some (.v6 1) }, peerIp := some (.v6 1) } := rfl
  exact name_verified sampleCalls hnew

end ServerName

end Ngtcp2Rs
