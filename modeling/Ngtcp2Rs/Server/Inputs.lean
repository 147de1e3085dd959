import Ngtcp2Rs.Conn.Params
import Ngtcp2Rs.Server.Restart
import Ngtcp2Rs.Server.Tokens

/-!
# What ngtcp2 is given for a connection

`Settings` of `ngtcp2/src/settings.rs`, and the parameters and settings that `handle_new_connection` of
`tokio-ngtcp2/src/server.rs` makes of the configuration, of the identifiers it chose and of the token it
verified.

* **`settings_survive_iff`**: the settings that reach ngtcp2 as they were meant.
* **`advertised_sound_iff`**: the configurations with which a connection advertises what the server
  stands for, and nothing else.
* **`token_verified`**: ngtcp2 takes the address of a client as validated if and only if the token of its
  Initial was verified, whatever token is configured.
-/

namespace Ngtcp2Rs

open Lib

/-! ## Settings -/

/-- The congestion control algorithms. -/
inductive CongestionAlgorithm where
  | reno
  | cubic
  | bbr2
  deriving DecidableEq, Repr

namespace CongestionAlgorithm

/-- `from_raw`. -/
def fromRaw (value : UInt32) : CongestionAlgorithm :=
  if value = 0 then .reno else if value = 2 then .bbr2 else .cubic

/-- `as_raw`. -/
def asRaw : CongestionAlgorithm → UInt32
  | reno => 0
  | cubic => 1
  | bbr2 => 2

theorem fromRaw_asRaw (algorithm : CongestionAlgorithm) : fromRaw algorithm.asRaw = algorithm := by
  cases algorithm <;> rfl

end CongestionAlgorithm

/-- `as_u32`. -/
def QuicVersion.asU32 : QuicVersion → UInt32
  | v1 => 0x00000001
  | v2 => 0x6b3343cf

/-- `as_raw`. -/
def Server.TokenKind.asRaw : Server.TokenKind → UInt32
  | retry => 1
  | newToken => 2

/-- An address validation token: `from_packet` is the only way to one. -/
structure AddressValidationToken where
  bytes : Bytes
  kind : Server.TokenKind
  kind_eq : Server.tokenKind bytes = some kind

namespace AddressValidationToken

/-- `from_packet`. -/
def fromPacket (bytes : Bytes) : Option AddressValidationToken :=
  match h : Server.tokenKind bytes with
  | some kind => some ⟨bytes, kind, h⟩
  | none => none

/-- `as_raw_kind`. -/
def asRawKind (token : AddressValidationToken) : UInt32 := token.kind.asRaw

theorem fromPacket_eq_none {bytes : Bytes} : fromPacket bytes = none ↔ Server.tokenKind bytes = none := by
  unfold fromPacket
  split
  · rename_i kind h
    simp [h]
  · rename_i h
    simp [h]

@[simp] theorem fromPacket_bytes (token : AddressValidationToken) :
    fromPacket token.bytes = some token := by
  obtain ⟨bytes, kind, hkind⟩ := token
  unfold fromPacket
  split
  · rename_i kind' h
    obtain rfl : kind' = kind := Option.some.inj (h.symm.trans hkind)
    rfl
  · rename_i h
    cases h.symm.trans hkind

theorem bytes_of_fromPacket {bytes : Bytes} {token : AddressValidationToken}
    (h : fromPacket bytes = some token) : token.bytes = bytes := by
  unfold fromPacket at h
  split at h
  · cases h
    rfl
  · cases h

end AddressValidationToken

/-- `finite_duration`. -/
def finiteDuration (nanos : UInt64) : Option Duration :=
  if nanos ≠ uint64Max then some nanos.toNat else none

/-- `nanos_or_max`. -/
def nanosOrMax (duration : Option Duration) : UInt64 :=
  match duration with
  | none => uint64Max
  | some d => UInt64.ofNat d

/-- `Settings`. -/
structure Settings where
  initialTs : UInt64
  congestionAlgorithm : CongestionAlgorithm
  initialRtt : Duration
  handshakeTimeout : Option Duration
  maxTxUdpPayloadSize : ℕ
  maxWindow : UInt64
  maxStreamWindow : UInt64
  ackThreshold : ℕ
  noTxUdpPayloadSizeShaping : Bool
  noPmtud : Bool
  keepAliveTimeout : Option Duration
  addressValidationToken : Option AddressValidationToken
  statelessResetSecret : Option StatelessResetSecret
  preferredVersions : List QuicVersion
  availableVersions : List QuicVersion
  qlog : Bool

/-- `ngtcp2_settings`, as far as it is written. A null pointer is `none`, or an empty list. -/
structure RawSettings where
  initialTs : UInt64
  ccAlgo : UInt32
  initialRtt : UInt64
  handshakeTimeout : UInt64
  maxTxUdpPayloadSize : ℕ
  maxWindow : UInt64
  maxStreamWindow : UInt64
  ackThresh : ℕ
  noTxUdpPayloadSizeShaping : UInt8
  noPmtud : UInt8
  preferredVersions : List UInt32
  availableVersions : List UInt32
  qlogWrite : Bool
  token : Option Bytes
  tokenType : UInt32

/-- `DEFAULT_MAX_TX_UDP_PAYLOAD_SIZE`. -/
def defaultMaxTxUdpPayloadSize : ℕ := 1350

/-- `default_raw`, on top of the defaults of ngtcp2. -/
def defaultRaw (default : RawSettings) (initialTs : UInt64) : RawSettings :=
  { default with initialTs, maxTxUdpPayloadSize := defaultMaxTxUdpPayloadSize }

namespace Settings

/-- `new`. -/
def new (default : RawSettings) (initialTs : UInt64) : Settings :=
  let raw := defaultRaw default initialTs
  { initialTs
    congestionAlgorithm := .fromRaw raw.ccAlgo
    initialRtt := raw.initialRtt.toNat
    handshakeTimeout := finiteDuration raw.handshakeTimeout
    maxTxUdpPayloadSize := raw.maxTxUdpPayloadSize
    maxWindow := raw.maxWindow
    maxStreamWindow := raw.maxStreamWindow
    ackThreshold := raw.ackThresh
    noTxUdpPayloadSizeShaping := raw.noTxUdpPayloadSizeShaping != 0
    noPmtud := raw.noPmtud != 0
    keepAliveTimeout := none
    addressValidationToken := none
    statelessResetSecret := none
    preferredVersions := []
    availableVersions := []
    qlog := false }

/-- `to_raw`. What is empty or not set leaves the default. -/
def toRaw (default : RawSettings) (s : Settings) : RawSettings :=
  let raw := defaultRaw default s.initialTs
  { raw with
    ccAlgo := s.congestionAlgorithm.asRaw
    initialRtt := UInt64.ofNat s.initialRtt
    handshakeTimeout := nanosOrMax s.handshakeTimeout
    maxTxUdpPayloadSize := s.maxTxUdpPayloadSize
    maxWindow := s.maxWindow
    maxStreamWindow := s.maxStreamWindow
    ackThresh := s.ackThreshold
    noTxUdpPayloadSizeShaping := flagByte s.noTxUdpPayloadSizeShaping
    noPmtud := flagByte s.noPmtud
    preferredVersions :=
      if s.preferredVersions.isEmpty then raw.preferredVersions
      else s.preferredVersions.map QuicVersion.asU32
    availableVersions :=
      if s.availableVersions.isEmpty then raw.availableVersions
      else s.availableVersions.map QuicVersion.asU32
    qlogWrite := if s.qlog then true else raw.qlogWrite
    token :=
      match s.addressValidationToken with
      | some token => some token.bytes
      | none => raw.token
    tokenType :=
      match s.addressValidationToken with
      | some token => token.asRawKind
      | none => raw.tokenType }

/-- The keep-alive timeout that `finish_new` sets. -/
def keepAlive (s : Settings) : Option UInt64 := s.keepAliveTimeout.map UInt64.ofNat

end Settings

/-- The pointers in the defaults are null, which `ngtcp2_settings_default` promises. -/
structure RawSettings.NullPointers (default : RawSettings) : Prop where
  preferredVersions : default.preferredVersions = []
  availableVersions : default.availableVersions = []
  qlogWrite : default.qlogWrite = false
  token : default.token = none

/-- What ngtcp2 makes of a keep-alive timeout: neither 0 nor `UINT64_MAX` is one. -/
def keepAliveMeaning (nanos : Option UInt64) : Option Duration :=
  nanos.bind fun n => if n = 0 then none else finiteDuration n

/-- ngtcp2 works with the settings as they are. -/
structure Settings.Reaches (s : Settings) (raw : RawSettings) (keepAlive : Option UInt64) : Prop where
  initialTs : raw.initialTs = s.initialTs
  congestionAlgorithm : CongestionAlgorithm.fromRaw raw.ccAlgo = s.congestionAlgorithm
  initialRtt : raw.initialRtt.toNat = s.initialRtt
  handshakeTimeout : finiteDuration raw.handshakeTimeout = s.handshakeTimeout
  maxTxUdpPayloadSize : raw.maxTxUdpPayloadSize = s.maxTxUdpPayloadSize
  windows : raw.maxWindow = s.maxWindow ∧ raw.maxStreamWindow = s.maxStreamWindow
  ackThreshold : raw.ackThresh = s.ackThreshold
  flags : (raw.noTxUdpPayloadSizeShaping != 0) = s.noTxUdpPayloadSizeShaping ∧
    (raw.noPmtud != 0) = s.noPmtud
  versions : raw.preferredVersions.filterMap QuicVersion.fromU32 = s.preferredVersions ∧
    raw.availableVersions.filterMap QuicVersion.fromU32 = s.availableVersions
  qlog : raw.qlogWrite = s.qlog
  token : raw.token.bind AddressValidationToken.fromPacket = s.addressValidationToken
  tokenType : ∀ token, s.addressValidationToken = some token → raw.tokenType = token.asRawKind
  keepAlive : keepAliveMeaning keepAlive = s.keepAliveTimeout

/-- The durations that pass `as u64` and are none of the values with a meaning of their own. -/
structure Settings.DurationsFit (s : Settings) : Prop where
  initialRtt : s.initialRtt < 2 ^ 64
  handshakeTimeout : ∀ d, s.handshakeTimeout = some d → d < 2 ^ 64 - 1
  keepAlive : ∀ d, s.keepAliveTimeout = some d → 0 < d ∧ d < 2 ^ 64 - 1

section Survive

theorem toNat_ofNat_eq {n : ℕ} : (UInt64.ofNat n).toNat = n ↔ n < 2 ^ 64 := by
  constructor
  · intro h
    rw [← h]
    exact (UInt64.ofNat n).toNat_lt
  · exact fun h => UInt64.toNat_ofNat_of_lt' h

/-- A duration comes back from `nanos_or_max` if it is neither too long nor taken for none. -/
theorem finiteDuration_ofNat {d : ℕ} :
    finiteDuration (UInt64.ofNat d) = some d ↔ d < 2 ^ 64 - 1 := by
  unfold finiteDuration
  have hmax : UInt64.ofNat d = uint64Max ↔ (UInt64.ofNat d).toNat = 2 ^ 64 - 1 := by
    rw [← UInt64.toNat_inj]
    rfl
  split_ifs with h
  · rw [Option.some.injEq, toNat_ofNat_eq]
    rw [ne_eq, hmax] at h
    refine ⟨fun hlt => ?_, fun hlt => by omega⟩
    rw [toNat_ofNat_eq.mpr hlt] at h
    omega
  · rw [ne_eq, not_not, hmax] at h
    refine iff_of_false (by simp) fun hlt => ?_
    rw [toNat_ofNat_eq.mpr (by omega)] at h
    omega

theorem finiteDuration_nanosOrMax {duration : Option ℕ} :
    finiteDuration (nanosOrMax duration) = duration ↔ ∀ d, duration = some d → d < 2 ^ 64 - 1 := by
  cases duration with
  | none => exact iff_of_true rfl (by simp)
  | some d =>
    show finiteDuration (UInt64.ofNat d) = some d ↔ _
    simp [finiteDuration_ofNat]

theorem keepAliveMeaning_map {duration : Option ℕ} :
    keepAliveMeaning (duration.map UInt64.ofNat) = duration ↔
      ∀ d, duration = some d → 0 < d ∧ d < 2 ^ 64 - 1 := by
  cases duration with
  | none => exact iff_of_true rfl (by simp)
  | some d =>
    show (if UInt64.ofNat d = 0 then none else finiteDuration (UInt64.ofNat d)) = some d ↔ _
    split_ifs with hzero
    · refine iff_of_false (by simp) fun h => ?_
      have hd := h d rfl
      have hnat : (UInt64.ofNat d).toNat = d := toNat_ofNat_eq.mpr (by omega)
      rw [hzero] at hnat
      exact absurd hnat.symm (by simpa using hd.1.ne')
    · rw [finiteDuration_ofNat]
      have hpos : 0 < d := by
        by_contra h
        obtain rfl : d = 0 := by omega
        exact hzero rfl
      simp [hpos]

theorem filterMap_versions (versions : List QuicVersion) :
    (versions.map QuicVersion.asU32).filterMap QuicVersion.fromU32 = versions := by
  induction versions with
  | nil => rfl
  | cons version versions ih =>
    have hversion : QuicVersion.fromU32 version.asU32 = some version := by
      cases version <;> rfl
    rw [List.map_cons, List.filterMap_cons_some hversion, ih]

theorem flagByte_ne_zero (b : Bool) : (flagByte b != 0) = b := by cases b <;> rfl

variable {default : RawSettings} (s : Settings)

/-- The token is that of the settings. -/
theorem token_toRaw (hnull : default.NullPointers) :
    (s.toRaw default).token = s.addressValidationToken.map (·.bytes) := by
  show (match s.addressValidationToken with
    | some token => some token.bytes
    | none => default.token) = _
  cases s.addressValidationToken with
  | none => exact hnull.token
  | some token => rfl

theorem tokenType_toRaw {token : AddressValidationToken} (h : s.addressValidationToken = some token) :
    (s.toRaw default).tokenType = token.asRawKind := by
  simp only [Settings.toRaw, h]

/-- An empty list of versions leaves a null pointer. -/
theorem versions_eq {versions : List QuicVersion} {raw : List UInt32} (hnull : raw = []) :
    (if versions.isEmpty then raw else versions.map QuicVersion.asU32).filterMap QuicVersion.fromU32 =
      versions := by
  cases versions with
  | nil =>
    rw [hnull]
    rfl
  | cons version versions => exact filterMap_versions (version :: versions)

/-- **The settings that survive.** What ngtcp2 works with is what the settings say if and only if
their durations fit: `as u64` cuts off the others without an error, and 0 or `UINT64_MAX` stand for
none. -/
theorem settings_survive_iff (hnull : default.NullPointers) :
    s.Reaches (s.toRaw default) s.keepAlive ↔ s.DurationsFit := by
  constructor
  · intro h
    exact ⟨toNat_ofNat_eq.mp h.initialRtt, finiteDuration_nanosOrMax.mp h.handshakeTimeout,
      keepAliveMeaning_map.mp h.keepAlive⟩
  · intro h
    have hqlog : (if s.qlog then true else default.qlogWrite) = s.qlog := by
      rw [hnull.qlogWrite]
      cases s.qlog <;> rfl
    have htoken : (s.toRaw default).token.bind AddressValidationToken.fromPacket =
        s.addressValidationToken := by
      rw [token_toRaw s hnull]
      cases s.addressValidationToken with
      | none => rfl
      | some token => exact token.fromPacket_bytes
    exact
      { initialTs := rfl
        congestionAlgorithm := CongestionAlgorithm.fromRaw_asRaw s.congestionAlgorithm
        initialRtt := toNat_ofNat_eq.mpr h.initialRtt
        handshakeTimeout := finiteDuration_nanosOrMax.mpr h.handshakeTimeout
        maxTxUdpPayloadSize := rfl
        windows := ⟨rfl, rfl⟩
        ackThreshold := rfl
        flags := ⟨flagByte_ne_zero _, flagByte_ne_zero _⟩
        versions := ⟨versions_eq hnull.preferredVersions, versions_eq hnull.availableVersions⟩
        qlog := hqlog
        token := htoken
        tokenType := fun token ht => tokenType_toRaw s ht
        keepAlive := keepAliveMeaning_map.mpr h.keepAlive }

/-- `ngtcp2_settings_default`, by its documentation. -/
def sampleDefault : RawSettings where
  initialTs := 0
  ccAlgo := 1
  initialRtt := 333000000
  handshakeTimeout := uint64Max
  maxTxUdpPayloadSize := 1452
  maxWindow := 0
  maxStreamWindow := 0
  ackThresh := 2
  noTxUdpPayloadSizeShaping := 0
  noPmtud := 0
  preferredVersions := []
  availableVersions := []
  qlogWrite := false
  token := none
  tokenType := 0

theorem sampleDefault_nullPointers : sampleDefault.NullPointers := ⟨rfl, rfl, rfl, rfl⟩

/-- Settings with a handshake timeout of ten seconds, a keep-alive timeout, a version and qlog. -/
def sampleSettings : Settings :=
  { Settings.new sampleDefault 5 with
    handshakeTimeout := some 10000000000
    keepAliveTimeout := some 15000000000
    availableVersions := [.v1]
    qlog := true }

/-- These survive. With a handshake timeout one nanosecond too long, ngtcp2 gets a timeout of zero. -/
theorem settings_survive_sample :
    sampleSettings.Reaches (sampleSettings.toRaw sampleDefault) sampleSettings.keepAlive ∧
    ¬ Settings.Reaches { sampleSettings with handshakeTimeout := some (2 ^ 64) }
      (Settings.toRaw sampleDefault { sampleSettings with handshakeTimeout := some (2 ^ 64) })
      sampleSettings.keepAlive := by
  refine ⟨(settings_survive_iff _ sampleDefault_nullPointers).mpr ⟨by decide, ?_, ?_⟩, fun h => ?_⟩
  · rintro d ⟨⟩
    decide
  · rintro d ⟨⟩
    decide
  · have hfit := (settings_survive_iff _ sampleDefault_nullPointers).mp h
    exact absurd (hfit.handshakeTimeout (2 ^ 64) rfl) (by decide)

end Survive

/-! ## A new connection of the server -/

/-- `DatagramConfig`. -/
structure DatagramConfig where
  maxDatagramFrameSize : UInt64
  maxTxDatagramSize : ℕ

/-- `is_enabled`. -/
def DatagramConfig.isEnabled (d : DatagramConfig) : Bool :=
  0 < d.maxDatagramFrameSize && 0 < d.maxTxDatagramSize

/-- `ServerConfig`, as far as the parameters, settings and tokens of a connection come from it. -/
structure ConnectionConfig where
  transportParams : TransportParams
  datagram : DatagramConfig
  settings : Settings
  /-- `qlog_dir` was given -/
  qlogDir : Bool
  newToken : Bool

/-- `effective_transport_params`. -/
def ConnectionConfig.effectiveTransportParams (c : ConnectionConfig) : TransportParams :=
  if c.datagram.isEnabled then c.transportParams.withDatagram c.datagram.maxDatagramFrameSize
  else c.transportParams.withDatagram 0

/-- The reset tokens of a secret, if there is one. -/
def resetTokenOf (secret : Option StatelessResetSecret) (cid : ConnectionId) :
    Option StatelessResetToken :=
  secret.bind fun s => s cid

/-- ngtcp2 with the secret of the server. -/
def External.withSecret (ext : External) (secret : Option StatelessResetSecret) : External :=
  { ext with resetToken := fun cid => (resetTokenOf secret cid).map List.Vector.toList }

/-- The parameters of a new connection, in `handle_new_connection`. -/
def serverParams (e : Endian) (secret : Option StatelessResetSecret) (preferredAddr : Option SocketAddr)
    (c : ConnectionConfig) (o : Origin) (retried : Bool) : TransportParams :=
  let params := c.effectiveTransportParams.withOriginalDcid o.originalDcid
  let params := if retried then params.withRetryScid o.scid else params
  let params :=
    match if o.scid.isEmpty then none else resetTokenOf secret o.scid with
    | some token => params.withStatelessResetToken token
    | none => params
  match o.preferredAddrCid, preferredAddr with
  | some cid, some addr =>
    match resetTokenOf secret cid with
    | some token => params.withPreferredAddress e cid addr token
    | none => params
  | _, _ => params

/-- The settings of a new connection, in `handle_new_connection`. -/
def serverSettings (secret : Option StatelessResetSecret) (c : ConnectionConfig)
    (accepted : AcceptedInitial) (validated : Bool) (ts : UInt64) : Settings :=
  { c.settings with
    initialTs := ts
    qlog := c.qlogDir
    addressValidationToken :=
      if validated then AddressValidationToken.fromPacket accepted.token else none
    statelessResetSecret := secret }

/-- The calls that `handle_new_connection` makes on the configured parameters. -/
def serverCalls (secret : Option StatelessResetSecret) (preferredAddr : Option SocketAddr)
    (datagram : DatagramConfig) (o : Origin) (retried : Bool) : List ParamCall :=
  let token := if o.scid.isEmpty then none else resetTokenOf secret o.scid
  let preferred :=
    match o.preferredAddrCid, preferredAddr with
    | some cid, some addr => (resetTokenOf secret cid).map (ParamCall.preferredAddress cid addr)
    | _, _ => none
  [.datagram (if datagram.isEnabled then datagram.maxDatagramFrameSize else 0),
    .originalDcid o.originalDcid] ++
    (if retried then [.retryScid o.scid] else []) ++
    (token.map ParamCall.statelessResetToken).toList ++ preferred.toList

/-- Nothing is configured in a field of one connection that the connection itself leaves alone. -/
structure ParamFields.LeavesOut (p : ParamFields Id) (s : ParamFields Option) : Prop where
  retryScid : s.retryScid = none → p.retryScid = none
  statelessResetToken : s.statelessResetToken = none → p.statelessResetToken = none
  preferredCid : s.preferredCid = none → p.preferredCid = none
  preferredToken : s.preferredToken = none → p.preferredToken = none
  preferredIpv4 : s.preferredIpv4 = none → p.preferredIpv4 = none
  preferredIpv6 : s.preferredIpv6 = none → p.preferredIpv6 = none

/-- The address of a `SocketAddr`, if it is of IPv4. -/
def SocketAddr.ipv4 : SocketAddr → Option (BitVec 32 × BitVec 16)
  | .v4 ip port => some (ip, port)
  | .v6 .. => none

/-- The address of a `SocketAddr`, if it is of IPv6. -/
def SocketAddr.ipv6 : SocketAddr → Option (BitVec 128 × BitVec 16)
  | .v4 .. => none
  | .v6 ip port _ _ => some (ip, port)

/-- The parameters tell the peer what the server stands for in this connection, and nothing else. -/
structure Advertises (secret : Option StatelessResetSecret) (preferredAddr : Option SocketAddr)
    (o : Origin) (retried : Bool) (p : ParamFields Id) : Prop where
  originalDcid : p.originalDcid = some o.originalDcid
  retryScid : p.retryScid = if retried then some o.scid else none
  statelessResetToken :
    p.statelessResetToken = if o.scid.isEmpty then none else resetTokenOf secret o.scid
  preferredCid : p.preferredCid = o.preferredAddrCid
  preferredToken : p.preferredToken = o.preferredAddrCid.bind (resetTokenOf secret)
  preferredIpv4 : p.preferredIpv4 = o.preferredAddrCid.bind fun _ => preferredAddr.bind SocketAddr.ipv4
  preferredIpv6 : p.preferredIpv6 = o.preferredAddrCid.bind fun _ => preferredAddr.bind SocketAddr.ipv6

/-- The Stateless Reset tokens that the parameters hand out, with their connection IDs. -/
def ParamFields.tokens (p : ParamFields Id) (scid : ConnectionId) : List (ConnectionId × Bytes) :=
  (Option.map (fun token : StatelessResetToken => (scid, token.toList)) p.statelessResetToken).toList ++
    (Option.map₂ (fun (cid : ConnectionId) (token : StatelessResetToken) => (cid, token.toList))
      p.preferredCid p.preferredToken).toList

section Advertised

variable {e : Endian} {secret : Option StatelessResetSecret} {preferredAddr : Option SocketAddr}
  {c : ConnectionConfig} {o : Origin} {retried : Bool}

/-- The parameters are made by these calls. -/
theorem serverParams_eq : serverParams e secret preferredAddr c o retried =
    c.transportParams.build e (serverCalls secret preferredAddr c.datagram o retried) := by
  have hdatagram : c.effectiveTransportParams = c.transportParams.withDatagram
      (if c.datagram.isEnabled then c.datagram.maxDatagramFrameSize else 0) := by
    unfold ConnectionConfig.effectiveTransportParams
    split_ifs <;> rfl
  unfold serverParams serverCalls
  rw [hdatagram]
  cases (if o.scid.isEmpty then none else resetTokenOf secret o.scid) <;>
    cases retried <;> cases o.preferredAddrCid with
    | none => rfl
    | some cid =>
      cases preferredAddr with
      | none => rfl
      | some addr =>
        dsimp only
        cases resetTokenOf secret cid <;> rfl

/-- The original DCID and the Retry SCID of a connection: a Retry SCID in the configured parameters
stays if the connection sets none. -/
theorem cids_serverParams : let p := (serverParams e secret preferredAddr c o retried).fields e
    p.originalDcid = some o.originalDcid ∧
      p.retryScid = if retried then some o.scid else (c.transportParams.fields e).retryScid := by
  rw [serverParams_eq, fields_build]
  unfold serverCalls
  cases (if o.scid.isEmpty then none else resetTokenOf secret o.scid) <;> cases retried <;>
    cases o.preferredAddrCid with
    | none => exact ⟨rfl, rfl⟩
    | some cid =>
      cases preferredAddr with
      | none => exact ⟨rfl, rfl⟩
      | some addr =>
        dsimp only
        cases resetTokenOf secret cid with
        | none => exact ⟨rfl, rfl⟩
        | some token => cases addr <;> exact ⟨rfl, rfl⟩

/-- What the server sets for a connection is what it stands for. -/
theorem lastSet_serverCalls (retried : Bool) (datagram : DatagramConfig)
    (hpreferred : ∀ cid, o.preferredAddrCid = some cid →
      preferredAddr.isSome = true ∧ (resetTokenOf secret cid).isSome = true) :
    let s := lastSet (serverCalls secret preferredAddr datagram o retried)
    s.originalDcid = some (some o.originalDcid) ∧
      s.retryScid = (if retried then some o.scid else none).map some ∧
      s.statelessResetToken =
        (if o.scid.isEmpty then none else resetTokenOf secret o.scid).map some ∧
      s.preferredCid = o.preferredAddrCid.map some ∧
      s.preferredToken = (o.preferredAddrCid.bind (resetTokenOf secret)).map some ∧
      s.preferredIpv4 =
        (o.preferredAddrCid.bind fun _ => preferredAddr.bind SocketAddr.ipv4).map some ∧
      s.preferredIpv6 =
        (o.preferredAddrCid.bind fun _ => preferredAddr.bind SocketAddr.ipv6).map some := by
  unfold serverCalls
  cases (if o.scid.isEmpty then none else resetTokenOf secret o.scid) <;> cases retried <;>
    cases hcid : o.preferredAddrCid with
    | none => exact ⟨rfl, rfl, rfl, rfl, rfl, rfl, rfl⟩
    | some cid =>
      obtain ⟨haddr, htoken⟩ := hpreferred cid hcid
      obtain ⟨addr, rfl⟩ := Option.isSome_iff_exists.mp haddr
      obtain ⟨token, htoken⟩ := Option.isSome_iff_exists.mp htoken
      simp only [Option.bind_some, htoken]
      cases addr <;> exact ⟨rfl, rfl, rfl, rfl, rfl, rfl, rfl⟩

/-- A field is what was set if and only if nothing is configured where nothing was set. -/
theorem getD_eq_set {α : Type} {set : Option (Option α)} {value configured : Option α}
    (h : set = value.map some) : set.getD configured = value ↔ (set = none → configured = none) := by
  rw [h]
  cases value <;> simp

/-- What a connection advertises, by what was set. -/
theorem advertises_override {p : ParamFields Id} (datagram : DatagramConfig)
    (hpreferred : ∀ cid, o.preferredAddrCid = some cid →
      preferredAddr.isSome = true ∧ (resetTokenOf secret cid).isSome = true) :
    let s := lastSet (serverCalls secret preferredAddr datagram o retried)
    Advertises secret preferredAddr o retried (p.override s) ↔ p.LeavesOut s := by
  obtain ⟨hdcid, hretry, htoken, hcid, hcidToken, hipv4, hipv6⟩ :=
    lastSet_serverCalls retried datagram hpreferred
  constructor
  · intro h
    exact ⟨(getD_eq_set hretry).mp h.retryScid, (getD_eq_set htoken).mp h.statelessResetToken,
      (getD_eq_set hcid).mp h.preferredCid, (getD_eq_set hcidToken).mp h.preferredToken,
      (getD_eq_set hipv4).mp h.preferredIpv4, (getD_eq_set hipv6).mp h.preferredIpv6⟩
  · intro h
    have horiginal : (p.override (lastSet (serverCalls secret preferredAddr datagram o retried))
        ).originalDcid = some o.originalDcid := by
      show (Option.getD _ _ : Option ConnectionId) = _
      rw [hdcid]
      rfl
    exact ⟨horiginal, (getD_eq_set hretry).mpr h.retryScid,
      (getD_eq_set htoken).mpr h.statelessResetToken, (getD_eq_set hcid).mpr h.preferredCid,
      (getD_eq_set hcidToken).mpr h.preferredToken, (getD_eq_set hipv4).mpr h.preferredIpv4,
      (getD_eq_set hipv6).mpr h.preferredIpv6⟩

/-- The tokens that are advertised are those that a reset of the connection ends in. -/
theorem tokens_advertises {ext : External} {p : ParamFields Id}
    (h : Advertises secret preferredAddr o retried p) :
    p.tokens o.scid = resetTokens (ext.withSecret secret) o.advertisedWithToken := by
  unfold ParamFields.tokens resetTokens Origin.advertisedWithToken
  rw [h.statelessResetToken, h.preferredCid, h.preferredToken, List.filterMap_append]
  congr 1
  · cases o.scid.isEmpty with
    | true => rfl
    | false =>
      show _ = [o.scid].filterMap fun cid => ((resetTokenOf secret cid).map List.Vector.toList).map _
      cases htoken : resetTokenOf secret o.scid <;> simp [htoken]
  · cases o.preferredAddrCid with
    | none => rfl
    | some cid =>
      show _ = [cid].filterMap fun cid => ((resetTokenOf secret cid).map List.Vector.toList).map _
      cases htoken : resetTokenOf secret cid <;> simp [htoken]

end Advertised

/-! ## Every connection of a run -/

section Runs

variable {ext : External} {cfg : ServerConfig} {secret : Option StatelessResetSecret}

/-- A connection has a preferred address only if there is one, with a token. -/
theorem preferredAddr_chooseIds {accepted : AcceptedInitial} {originalDcid : ConnectionId} {retried : Bool}
    {ans : Answers} {o : Origin}
    (h : Server.chooseIds ext cfg accepted originalDcid retried ans = some o) {cid : ConnectionId}
    (hcid : o.preferredAddrCid = some cid) :
    cfg.preferredAddr.isSome = true ∧ (ext.resetToken cid).isSome = true := by
  unfold Server.chooseIds at h
  split at h
  · cases h
  · split at h
    · cases h
    · cases h
      simp only at hcid
      split_ifs at hcid with hnone
      simp only [Bool.or_eq_true, not_or, Bool.not_eq_true, Option.isNone_eq_false_iff] at hnone
      exact ⟨hnone.2, (Option.filter_eq_some_iff.mp hcid).2⟩

/-- **What connections advertise.** A connection advertises its own identifiers, tokens and preferred
address, and nothing else in their place, if and only if nothing is configured in the fields that it
does not set; and its tokens are then those that the server puts into a Stateless Reset. -/
theorem advertised_sound_iff (e : Endian) (c : ConnectionConfig) (ls : List Label) (r : Received)
    (hr : r ∈ received (ext.withSecret secret) cfg (.init cfg) ls) {accepted : AcceptedInitial}
    {version : QuicVersion} {o : Origin} {validated retried : Bool}
    (houtcome : r.outcome = .created accepted version o validated retried) :
    let p := (serverParams e secret cfg.preferredAddr c o retried).fields e
    (Advertises secret cfg.preferredAddr o retried p ↔
      (c.transportParams.fields e).LeavesOut
        (lastSet (serverCalls secret cfg.preferredAddr c.datagram o retried))) ∧
    (Advertises secret cfg.preferredAddr o retried p →
      p.tokens o.scid = resetTokens (ext.withSecret secret) o.advertisedWithToken) := by
  obtain ⟨-, s, hs⟩ := of_mem_received hr
  obtain ⟨-, -, -, -, hids⟩ := created_initialOutcome (hs.trans houtcome)
  have hpreferred : ∀ cid, o.preferredAddrCid = some cid →
      cfg.preferredAddr.isSome = true ∧ (resetTokenOf secret cid).isSome = true := by
    intro cid hcid
    obtain ⟨haddr, htoken⟩ := preferredAddr_chooseIds hids hcid
    exact ⟨haddr, (Option.isSome_map (x := resetTokenOf secret cid)).symm.trans htoken⟩
  refine ⟨?_, tokens_advertises⟩
  rw [serverParams_eq, fields_build]
  exact advertises_override c.datagram hpreferred

/-- **Only verified tokens.** ngtcp2 gets a token for a new connection if and only if the server
verified the one in the Initial, and then that one, with its kind, whatever token is configured. -/
theorem token_verified {default : RawSettings} (hnull : default.NullPointers)
    (secret : Option StatelessResetSecret) (c : ConnectionConfig) (ls : List Label) (r : Received)
    (hr : r ∈ received ext cfg (.init cfg) ls)
    {accepted : AcceptedInitial} {version : QuicVersion} {o : Origin} {validated retried : Bool}
    (houtcome : r.outcome = .created accepted version o validated retried) (ts : UInt64) :
    let raw := (serverSettings secret c accepted validated ts).toRaw default
    (raw.token.isSome = true ↔ accepted.Verified ext version r.datagram.src r.ts) ∧
    ∀ token, raw.token = some token → token = accepted.token ∧
      ∃ kind, Server.tokenKind token = some kind ∧ raw.tokenType = kind.asRaw := by
  obtain ⟨-, s, hs⟩ := of_mem_received hr
  obtain ⟨-, -, hvalid, -, -⟩ := created_initialOutcome (hs.trans houtcome)
  have hverified := verified_iff_validated hvalid
  have htoken := token_toRaw (serverSettings secret c accepted validated ts) hnull
  cases validated with
  | false =>
    have hnone : ((serverSettings secret c accepted false ts).toRaw default).token = none := htoken
    refine ⟨?_, fun token ht => ?_⟩
    · rw [hnone, ← hverified]
      simp
    · rw [hnone] at ht
      cases ht
  | true =>
    have hset : (serverSettings secret c accepted true ts).addressValidationToken =
        AddressValidationToken.fromPacket accepted.token := rfl
    have hkind : Server.tokenKind accepted.token ≠ none := by
      intro hnone
      have hfalse : accepted.Verified ext version r.datagram.src r.ts := hverified.mp rfl
      unfold AcceptedInitial.Verified at hfalse
      rw [hnone] at hfalse
      exact hfalse
    obtain ⟨t, ht⟩ := Option.ne_none_iff_exists'.mp
      (mt AddressValidationToken.fromPacket_eq_none.mp hkind)
    have hbytes := AddressValidationToken.bytes_of_fromPacket ht
    rw [hset, ht] at htoken
    refine ⟨?_, fun token htok => ?_⟩
    · rw [htoken, ← hverified]
      simp
    · obtain rfl : t.bytes = token := Option.some.inj (htoken.symm.trans htok)
      exact ⟨hbytes, t.kind, t.kind_eq, tokenType_toRaw _ (hset.trans ht)⟩

/-- A secret that repeats the first byte of a connection ID. -/
def sampleSecret : StatelessResetSecret := fun cid => some (List.Vector.replicate 16 (cid.data.headD 0))

/-- A server with a preferred address. -/
def samplePreferred : ServerConfig := { sampleConfig with preferredAddr := some (sampleAddr 444) }

/-- Parameters as a zeroed buffer has them. -/
def sampleParams : TransportParams :=
  let cid : RawCid := ⟨0, List.Vector.replicate 20 0⟩
  { preferredAddr := ⟨cid, (0, 0), (0, List.Vector.replicate 16 0), 0, 0, List.Vector.replicate 16 0⟩
    originalDcid := cid
    retryScid := cid
    preferredAddrPresent := 0
    originalDcidPresent := 0
    retryScidPresent := 0
    initialMaxStreamDataBidiLocal := 0
    initialMaxStreamDataBidiRemote := 0
    initialMaxStreamDataUni := 0
    initialMaxData := 0
    initialMaxStreamsBidi := 0
    initialMaxStreamsUni := 0
    maxIdleTimeout := 0
    maxUdpPayloadSize := 0
    activeConnectionIdLimit := 0
    ackDelayExponent := 0
    maxAckDelay := 0
    maxDatagramFrameSize := 0
    statelessResetTokenPresent := 0
    disableActiveMigration := 0
    statelessResetToken := List.Vector.replicate 16 0
    greaseQuicBit := 0
    resetStreamAt := 0 }

/-- A configuration in which a Retry SCID was set by mistake. -/
def sampleMistake : ConnectionConfig where
  transportParams := (TransportParams.new sampleParams).withRetryScid (sampleCid 9)
  datagram := ⟨0, 0⟩
  settings := Settings.new sampleDefault 0
  qlogDir := false
  newToken := true

/-- A configuration without mistakes. -/
def sampleConnection : ConnectionConfig :=
  { sampleMistake with transportParams := TransportParams.new sampleParams }

/-- A client comes without a token. -/
def sampleArrival : List Label :=
  [.datagram (sampleDatagram (sampleInitial (sampleCid 1) []) 1) 0
    { scid := sampleFill 2, preferred := sampleFill 6 }]

/-- The connection that it gets. -/
def sampleOrigin : Origin := ⟨sampleCid 2, sampleCid 2, sampleCid 1, some (sampleCid 6)⟩

theorem exists_sampleArrival : ∃ r ∈ received (sampleExternal.withSecret (some sampleSecret))
    samplePreferred (.init samplePreferred) sampleArrival,
    r.outcome = .created ⟨1, sampleCid 1, .empty, []⟩ .v1 sampleOrigin false false := by
  have houtcomes : (received (sampleExternal.withSecret (some sampleSecret)) samplePreferred
      (.init samplePreferred) sampleArrival).map Received.outcome =
      [.created ⟨1, sampleCid 1, .empty, []⟩ .v1 sampleOrigin false false] := by decide +kernel
  exact List.mem_map.mp (houtcomes ▸ List.mem_singleton_self _)

/-- A connection advertises what is its own, or the mistake. -/
theorem advertised_sound_sample :
    Advertises (some sampleSecret) (some (sampleAddr 444)) sampleOrigin false
      ((serverParams .little (some sampleSecret) (some (sampleAddr 444)) sampleConnection sampleOrigin
        false).fields .little) ∧
    ¬ Advertises (some sampleSecret) (some (sampleAddr 444)) sampleOrigin false
      ((serverParams .little (some sampleSecret) (some (sampleAddr 444)) sampleMistake sampleOrigin
        false).fields .little) := by
  obtain ⟨r, hr, houtcome⟩ := exists_sampleArrival
  have hsound := advertised_sound_iff .little sampleConnection sampleArrival r hr houtcome
  have hmistake := advertised_sound_iff .little sampleMistake sampleArrival r hr houtcome
  refine ⟨hsound.1.mpr ⟨fun _ => rfl, fun _ => rfl, fun _ => rfl, fun _ => rfl, fun _ => rfl,
    fun _ => rfl⟩, fun hadv => ?_⟩
  have hnone := (hmistake.1.mp hadv).retryScid rfl
  exact absurd (show some (sampleCid 9) = none from hnone) (by simp)

/-- A client comes back with the token of a Retry. -/
def sampleReturn : AcceptedInitial :=
  ⟨1, sampleCid 2, .empty, [0xb7, 1] ++ (sampleCid 1).data ++ (sampleCid 2).data⟩

theorem token_verified_sample :
    let raw := (serverSettings none sampleMistake sampleReturn true 0).toRaw sampleDefault
    raw.token = some sampleReturn.token ∧ raw.tokenType = 1 ∧
      sampleReturn.Verified sampleExternal .v1 (sampleAddr 1) 0 := by
  have houtcomes : (received sampleExternal sampleConfig (.init sampleConfig)
      [.datagram (sampleDatagram (sampleInitial sampleReturn.dcid sampleReturn.token) 1) 0 {}]).map
        (fun r => (r.outcome, r.datagram.src, r.ts)) =
      [(.created sampleReturn .v1 ⟨sampleCid 2, sampleCid 2, sampleCid 1, none⟩ true true,
        sampleAddr 1, 0)] := by decide +kernel
  obtain ⟨r, hr, heq⟩ := List.mem_map.mp (houtcomes ▸ List.mem_singleton_self _)
  obtain ⟨houtcome, hsrc, hts⟩ : r.outcome = _ ∧ r.datagram.src = _ ∧ r.ts = _ := by
    simpa only [Prod.mk.injEq] using heq
  have h := token_verified sampleDefault_nullPointers none sampleMistake _ r hr houtcome 0
  rw [hsrc, hts] at h
  refine ⟨by decide, ?_, h.1.mp (by decide)⟩
  obtain ⟨-, kind, hkind, htype⟩ := h.2 sampleReturn.token (by decide)
  obtain rfl : kind = .retry := Option.some.inj (hkind.symm.trans rfl)
  exact htype

end Runs

end Ngtcp2Rs
