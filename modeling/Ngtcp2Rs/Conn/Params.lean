import Ngtcp2Rs.Conn.Callbacks
import Ngtcp2Rs.Conn.Sockaddr
import Mathlib.Data.List.Induction

/-!
# Transport parameters

`TransportParams` of `ngtcp2/src/config.rs`: a C structure that a chain of `with_*` calls fills. A
connection ID is copied over the front of a fixed buffer, flags are bytes, and a preferred address of
either family joins the other.

* `ParamFields`: what the structure stands for (`TransportParams.fields`), field by field; over `Option`
  it is what one call sets.
* **`params_last_set`**: whatever the chain of calls, every field stands for what was set last, or for
  the default.
* **`idle_timeout_invalid_iff`**: the one duration for which ngtcp2 gets an idle timeout it forbids.
-/

namespace Ngtcp2Rs

open Lib

/-! ## The program -/

/-- A `Duration`, in nanoseconds. -/
abbrev Duration : Type := ℕ

/-- `duration_nanos`. -/
def durationNanos (duration : Duration) : UInt64 :=
  if duration < 2 ^ 64 then UInt64.ofNat duration else UInt64.ofNat (2 ^ 64 - 2)

/-- `u8::from` of a flag. -/
def flagByte (b : Bool) : UInt8 := if b then 1 else 0

/-- `ngtcp2_cid`: a buffer, the first `datalen` bytes of which count. -/
structure RawCid where
  datalen : ℕ
  data : List.Vector UInt8 maxCidLen

namespace RawCid

/-- Copy a connection ID into the buffer. -/
def write (c : RawCid) (cid : ConnectionId) : RawCid where
  datalen := cid.len
  data := ⟨cid.data ++ c.data.toList.drop cid.len, by
    have hle := cid.length_le
    rw [List.length_append, List.length_drop, c.data.toList_length]
    show cid.data.length + (maxCidLen - cid.data.length) = maxCidLen
    omega⟩

/-- `ConnectionId::new` of `data[..datalen]`. -/
def read (c : RawCid) : Option ConnectionId := ConnectionId.new (c.data.toList.take c.datalen)

/-- Whatever was in the buffer. -/
@[simp] theorem read_write (c : RawCid) (cid : ConnectionId) : (c.write cid).read = some cid := by
  show ConnectionId.new ((cid.data ++ c.data.toList.drop cid.len).take cid.data.length) = some cid
  rw [List.take_left]
  exact ConnectionId.new_data cid

end RawCid

/-- `ngtcp2_preferred_addr`. The addresses are in network byte order. -/
structure RawPreferredAddr where
  cid : RawCid
  ipv4 : BitVec 16 × BitVec 32
  ipv6 : BitVec 16 × List.Vector UInt8 16
  ipv4Present : UInt8
  ipv6Present : UInt8
  statelessResetToken : StatelessResetToken

/-- `TransportParams`, which wraps an `ngtcp2_transport_params`. -/
structure TransportParams where
  preferredAddr : RawPreferredAddr
  originalDcid : RawCid
  retryScid : RawCid
  preferredAddrPresent : UInt8
  originalDcidPresent : UInt8
  retryScidPresent : UInt8
  initialMaxStreamDataBidiLocal : UInt64
  initialMaxStreamDataBidiRemote : UInt64
  initialMaxStreamDataUni : UInt64
  initialMaxData : UInt64
  initialMaxStreamsBidi : UInt64
  initialMaxStreamsUni : UInt64
  maxIdleTimeout : UInt64
  maxUdpPayloadSize : UInt64
  activeConnectionIdLimit : UInt64
  ackDelayExponent : UInt64
  maxAckDelay : UInt64
  maxDatagramFrameSize : UInt64
  statelessResetTokenPresent : UInt8
  disableActiveMigration : UInt8
  statelessResetToken : StatelessResetToken
  greaseQuicBit : UInt8
  resetStreamAt : UInt8

namespace TransportParams

/-- `new`, on top of the defaults of ngtcp2. -/
def new (default : TransportParams) : TransportParams :=
  { default with
    initialMaxStreamDataBidiLocal := 1024 * 1024
    initialMaxStreamDataBidiRemote := 1024 * 1024
    initialMaxStreamDataUni := 1024 * 1024
    initialMaxData := 10 * 1024 * 1024
    initialMaxStreamsBidi := 100
    initialMaxStreamsUni := 100
    maxIdleTimeout := durationNanos 30000000000
    activeConnectionIdLimit := 8 }

variable (p : TransportParams)

/-- `with_max_idle_timeout`. -/
def withMaxIdleTimeout (timeout : Duration) : TransportParams :=
  { p with maxIdleTimeout := durationNanos timeout }

/-- `with_initial_max_data`. -/
def withInitialMaxData (maxData : UInt64) : TransportParams := { p with initialMaxData := maxData }

/-- `with_initial_max_stream_data_bidi_local`. -/
def withInitialMaxStreamDataBidiLocal (maxData : UInt64) : TransportParams :=
  { p with initialMaxStreamDataBidiLocal := maxData }

/-- `with_initial_max_stream_data_bidi_remote`. -/
def withInitialMaxStreamDataBidiRemote (maxData : UInt64) : TransportParams :=
  { p with initialMaxStreamDataBidiRemote := maxData }

/-- `with_initial_max_stream_data_uni`. -/
def withInitialMaxStreamDataUni (maxData : UInt64) : TransportParams :=
  { p with initialMaxStreamDataUni := maxData }

/-- `with_max_streams_bidi`. -/
def withMaxStreamsBidi (maxStreams : UInt64) : TransportParams :=
  { p with initialMaxStreamsBidi := maxStreams }

/-- `with_max_streams_uni`. -/
def withMaxStreamsUni (maxStreams : UInt64) : TransportParams :=
  { p with initialMaxStreamsUni := maxStreams }

/-- `with_active_connection_id_limit`. -/
def withActiveConnectionIdLimit (limit : UInt64) : TransportParams :=
  { p with activeConnectionIdLimit := limit }

/-- `with_max_ack_delay`. -/
def withMaxAckDelay (delay : Duration) : TransportParams :=
  { p with maxAckDelay := durationNanos delay }

/-- `with_ack_delay_exponent`. -/
def withAckDelayExponent (exponent : UInt64) : TransportParams :=
  { p with ackDelayExponent := exponent }

/-- `with_max_udp_payload_size`. -/
def withMaxUdpPayloadSize (size : UInt64) : TransportParams := { p with maxUdpPayloadSize := size }

/-- `with_disable_active_migration`. -/
def withDisableActiveMigration (disable : Bool) : TransportParams :=
  { p with disableActiveMigration := flagByte disable }

/-- `with_grease_quic_bit`. -/
def withGreaseQuicBit (grease : Bool) : TransportParams := { p with greaseQuicBit := flagByte grease }

/-- `with_datagram`. -/
def withDatagram (maxSize : UInt64) : TransportParams := { p with maxDatagramFrameSize := maxSize }

/-- `with_stateless_reset_token`. -/
def withStatelessResetToken (token : StatelessResetToken) : TransportParams :=
  { p with statelessResetToken := token, statelessResetTokenPresent := 1 }

/-- `with_original_dcid`. -/
def withOriginalDcid (dcid : ConnectionId) : TransportParams :=
  { p with originalDcid := p.originalDcid.write dcid, originalDcidPresent := 1 }

/-- `with_reset_stream_at`. -/
def withResetStreamAt (accept : Bool) : TransportParams := { p with resetStreamAt := flagByte accept }

/-- `with_retry_scid`. -/
def withRetryScid (scid : ConnectionId) : TransportParams :=
  { p with retryScid := p.retryScid.write scid, retryScidPresent := 1 }

/-- `with_preferred_address`, which keeps an address of the other family. -/
def withPreferredAddress (e : Endian) (cid : ConnectionId) (addr : SocketAddr)
    (resetToken : StatelessResetToken) : TransportParams :=
  let a := { p.preferredAddr with
    cid := p.preferredAddr.cid.write cid, statelessResetToken := resetToken }
  let a := match addr with
    | .v4 ip port => { a with ipv4 := (beWord e 2 port, beWord e 4 ip), ipv4Present := 1 }
    | .v6 ip port _ _ => { a with ipv6 := (beWord e 2 port, ipv6Octets ip), ipv6Present := 1 }
  { p with preferredAddr := a, preferredAddrPresent := 1 }

end TransportParams

/-- The `with_*` calls. -/
inductive ParamCall where
  | maxIdleTimeout (timeout : Duration)
  | initialMaxData (maxData : UInt64)
  | initialMaxStreamDataBidiLocal (maxData : UInt64)
  | initialMaxStreamDataBidiRemote (maxData : UInt64)
  | initialMaxStreamDataUni (maxData : UInt64)
  | maxStreamsBidi (maxStreams : UInt64)
  | maxStreamsUni (maxStreams : UInt64)
  | activeConnectionIdLimit (limit : UInt64)
  | maxAckDelay (delay : Duration)
  | ackDelayExponent (exponent : UInt64)
  | maxUdpPayloadSize (size : UInt64)
  | disableActiveMigration (disable : Bool)
  | greaseQuicBit (grease : Bool)
  | datagram (maxSize : UInt64)
  | statelessResetToken (token : StatelessResetToken)
  | originalDcid (dcid : ConnectionId)
  | resetStreamAt (accept : Bool)
  | retryScid (scid : ConnectionId)
  | preferredAddress (cid : ConnectionId) (addr : SocketAddr) (resetToken : StatelessResetToken)

/-- Make a call. -/
def TransportParams.call (e : Endian) (p : TransportParams) : ParamCall → TransportParams
  | .maxIdleTimeout timeout => p.withMaxIdleTimeout timeout
  | .initialMaxData maxData => p.withInitialMaxData maxData
  | .initialMaxStreamDataBidiLocal maxData => p.withInitialMaxStreamDataBidiLocal maxData
  | .initialMaxStreamDataBidiRemote maxData => p.withInitialMaxStreamDataBidiRemote maxData
  | .initialMaxStreamDataUni maxData => p.withInitialMaxStreamDataUni maxData
  | .maxStreamsBidi maxStreams => p.withMaxStreamsBidi maxStreams
  | .maxStreamsUni maxStreams => p.withMaxStreamsUni maxStreams
  | .activeConnectionIdLimit limit => p.withActiveConnectionIdLimit limit
  | .maxAckDelay delay => p.withMaxAckDelay delay
  | .ackDelayExponent exponent => p.withAckDelayExponent exponent
  | .maxUdpPayloadSize size => p.withMaxUdpPayloadSize size
  | .disableActiveMigration disable => p.withDisableActiveMigration disable
  | .greaseQuicBit grease => p.withGreaseQuicBit grease
  | .datagram maxSize => p.withDatagram maxSize
  | .statelessResetToken token => p.withStatelessResetToken token
  | .originalDcid dcid => p.withOriginalDcid dcid
  | .resetStreamAt accept => p.withResetStreamAt accept
  | .retryScid scid => p.withRetryScid scid
  | .preferredAddress cid addr resetToken => p.withPreferredAddress e cid addr resetToken

/-- A chain of calls. -/
def TransportParams.build (e : Endian) (p : TransportParams) (calls : List ParamCall) :
    TransportParams :=
  calls.foldl (call e) p

/-! ## What the structure stands for -/

/-- The fields. `F` is `Id` for what a structure stands for, and `Option` for what a call sets. -/
structure ParamFields (F : Type → Type) where
  initialMaxData : F UInt64
  initialMaxStreamDataBidiLocal : F UInt64
  initialMaxStreamDataBidiRemote : F UInt64
  initialMaxStreamDataUni : F UInt64
  initialMaxStreamsBidi : F UInt64
  initialMaxStreamsUni : F UInt64
  maxIdleTimeout : F UInt64
  maxUdpPayloadSize : F UInt64
  activeConnectionIdLimit : F UInt64
  ackDelayExponent : F UInt64
  maxAckDelay : F UInt64
  maxDatagramFrameSize : F UInt64
  disableActiveMigration : F Bool
  greaseQuicBit : F Bool
  resetStreamAt : F Bool
  statelessResetToken : F (Option StatelessResetToken)
  originalDcid : F (Option ConnectionId)
  retryScid : F (Option ConnectionId)
  preferredCid : F (Option ConnectionId)
  preferredIpv4 : F (Option (BitVec 32 × BitVec 16))
  preferredIpv6 : F (Option (BitVec 128 × BitVec 16))
  preferredToken : F (Option StatelessResetToken)

namespace ParamFields

/-- Combine field by field. -/
def zip {F G H : Type → Type} (f : {α : Type} → F α → G α → H α) (p : ParamFields F)
    (q : ParamFields G) : ParamFields H where
  initialMaxData := f p.initialMaxData q.initialMaxData
  initialMaxStreamDataBidiLocal := f p.initialMaxStreamDataBidiLocal q.initialMaxStreamDataBidiLocal
  initialMaxStreamDataBidiRemote :=
    f p.initialMaxStreamDataBidiRemote q.initialMaxStreamDataBidiRemote
  initialMaxStreamDataUni := f p.initialMaxStreamDataUni q.initialMaxStreamDataUni
  initialMaxStreamsBidi := f p.initialMaxStreamsBidi q.initialMaxStreamsBidi
  initialMaxStreamsUni := f p.initialMaxStreamsUni q.initialMaxStreamsUni
  maxIdleTimeout := f p.maxIdleTimeout q.maxIdleTimeout
  maxUdpPayloadSize := f p.maxUdpPayloadSize q.maxUdpPayloadSize
  activeConnectionIdLimit := f p.activeConnectionIdLimit q.activeConnectionIdLimit
  ackDelayExponent := f p.ackDelayExponent q.ackDelayExponent
  maxAckDelay := f p.maxAckDelay q.maxAckDelay
  maxDatagramFrameSize := f p.maxDatagramFrameSize q.maxDatagramFrameSize
  disableActiveMigration := f p.disableActiveMigration q.disableActiveMigration
  greaseQuicBit := f p.greaseQuicBit q.greaseQuicBit
  resetStreamAt := f p.resetStreamAt q.resetStreamAt
  statelessResetToken := f p.statelessResetToken q.statelessResetToken
  originalDcid := f p.originalDcid q.originalDcid
  retryScid := f p.retryScid q.retryScid
  preferredCid := f p.preferredCid q.preferredCid
  preferredIpv4 := f p.preferredIpv4 q.preferredIpv4
  preferredIpv6 := f p.preferredIpv6 q.preferredIpv6
  preferredToken := f p.preferredToken q.preferredToken

/-- Nothing is set. -/
def unset : ParamFields Option :=
  ⟨none, none, none, none, none, none, none, none, none, none, none, none, none, none, none, none,
    none, none, none, none, none, none⟩

/-- The fields of `p`, but for those that are set in `s`. -/
def override (p : ParamFields Id) (s : ParamFields Option) : ParamFields Id :=
  zip (fun {α} (x : α) (o : Option α) => o.getD x) p s

/-- What is set in `s'`, or else in `s`. -/
def andThen (s s' : ParamFields Option) : ParamFields Option := zip (fun o o' => o'.or o) s s'

theorem override_andThen (p : ParamFields Id) (s s' : ParamFields Option) :
    p.override (s.andThen s') = (p.override s).override s' := by
  simp only [override, andThen, zip, Option.getD_or]

end ParamFields

/-- What a structure stands for. -/
def TransportParams.fields (e : Endian) (p : TransportParams) : ParamFields Id where
  initialMaxData := p.initialMaxData
  initialMaxStreamDataBidiLocal := p.initialMaxStreamDataBidiLocal
  initialMaxStreamDataBidiRemote := p.initialMaxStreamDataBidiRemote
  initialMaxStreamDataUni := p.initialMaxStreamDataUni
  initialMaxStreamsBidi := p.initialMaxStreamsBidi
  initialMaxStreamsUni := p.initialMaxStreamsUni
  maxIdleTimeout := p.maxIdleTimeout
  maxUdpPayloadSize := p.maxUdpPayloadSize
  activeConnectionIdLimit := p.activeConnectionIdLimit
  ackDelayExponent := p.ackDelayExponent
  maxAckDelay := p.maxAckDelay
  maxDatagramFrameSize := p.maxDatagramFrameSize
  disableActiveMigration := p.disableActiveMigration != 0
  greaseQuicBit := p.greaseQuicBit != 0
  resetStreamAt := p.resetStreamAt != 0
  statelessResetToken :=
    if p.statelessResetTokenPresent != 0 then some p.statelessResetToken else none
  originalDcid := if p.originalDcidPresent != 0 then p.originalDcid.read else none
  retryScid := if p.retryScidPresent != 0 then p.retryScid.read else none
  preferredCid := if p.preferredAddrPresent != 0 then p.preferredAddr.cid.read else none
  preferredIpv4 :=
    if p.preferredAddr.ipv4Present != 0 then
      some (beWord e 4 p.preferredAddr.ipv4.2, beWord e 2 p.preferredAddr.ipv4.1)
    else none
  preferredIpv6 :=
    if p.preferredAddr.ipv6Present != 0 then
      some (ipv6From p.preferredAddr.ipv6.2, beWord e 2 p.preferredAddr.ipv6.1)
    else none
  preferredToken :=
    if p.preferredAddrPresent != 0 then some p.preferredAddr.statelessResetToken else none

/-- What a call sets. -/
def ParamCall.sets : ParamCall → ParamFields Option
  | maxIdleTimeout timeout => { ParamFields.unset with maxIdleTimeout := some (durationNanos timeout) }
  | initialMaxData maxData => { ParamFields.unset with initialMaxData := some maxData }
  | initialMaxStreamDataBidiLocal maxData =>
    { ParamFields.unset with initialMaxStreamDataBidiLocal := some maxData }
  | initialMaxStreamDataBidiRemote maxData =>
    { ParamFields.unset with initialMaxStreamDataBidiRemote := some maxData }
  | initialMaxStreamDataUni maxData =>
    { ParamFields.unset with initialMaxStreamDataUni := some maxData }
  | maxStreamsBidi maxStreams => { ParamFields.unset with initialMaxStreamsBidi := some maxStreams }
  | maxStreamsUni maxStreams => { ParamFields.unset with initialMaxStreamsUni := some maxStreams }
  | activeConnectionIdLimit limit =>
    { ParamFields.unset with activeConnectionIdLimit := some limit }
  | maxAckDelay delay => { ParamFields.unset with maxAckDelay := some (durationNanos delay) }
  | ackDelayExponent exponent => { ParamFields.unset with ackDelayExponent := some exponent }
  | maxUdpPayloadSize size => { ParamFields.unset with maxUdpPayloadSize := some size }
  | disableActiveMigration disable =>
    { ParamFields.unset with disableActiveMigration := some disable }
  | greaseQuicBit grease => { ParamFields.unset with greaseQuicBit := some grease }
  | datagram maxSize => { ParamFields.unset with maxDatagramFrameSize := some maxSize }
  | statelessResetToken token => { ParamFields.unset with statelessResetToken := some (some token) }
  | originalDcid dcid => { ParamFields.unset with originalDcid := some (some dcid) }
  | resetStreamAt accept => { ParamFields.unset with resetStreamAt := some accept }
  | retryScid scid => { ParamFields.unset with retryScid := some (some scid) }
  | preferredAddress cid addr resetToken =>
    let s := { ParamFields.unset with
      preferredCid := some (some cid), preferredToken := some (some resetToken) }
    match addr with
    | .v4 ip port => { s with preferredIpv4 := some (some (ip, port)) }
    | .v6 ip port _ _ => { s with preferredIpv6 := some (some (ip, port)) }

/-- What a chain of calls sets: for each field, what was set last. -/
def lastSet (calls : List ParamCall) : ParamFields Option :=
  calls.foldl (fun s c => s.andThen c.sets) .unset

/-! ## The chain of calls -/

section Chain

variable {e : Endian}

theorem swap_port (port : BitVec 16) : beWord e 2 (beWord e 2 port) = port := beWord_beWord rfl port

theorem swap_ip (ip : BitVec 32) : beWord e 4 (beWord e 4 ip) = ip := beWord_beWord rfl ip

/-- **A call sets its own fields**, and no others. -/
theorem fields_call (p : TransportParams) (c : ParamCall) :
    (p.call e c).fields e = (p.fields e).override c.sets := by
  cases c with
  | disableActiveMigration disable => cases disable <;> rfl
  | greaseQuicBit grease => cases grease <;> rfl
  | resetStreamAt accept => cases accept <;> rfl
  | originalDcid dcid =>
    have hread := p.originalDcid.read_write dcid
    show (p.withOriginalDcid dcid).fields e = _
    simp only [TransportParams.fields, TransportParams.withOriginalDcid, hread]
    rfl
  | retryScid scid =>
    have hread := p.retryScid.read_write scid
    show (p.withRetryScid scid).fields e = _
    simp only [TransportParams.fields, TransportParams.withRetryScid, hread]
    rfl
  | preferredAddress cid addr resetToken =>
    have hread := p.preferredAddr.cid.read_write cid
    show (p.withPreferredAddress e cid addr resetToken).fields e = _
    cases addr with
    | v4 ip port =>
      simp only [TransportParams.fields, TransportParams.withPreferredAddress, hread, swap_ip, swap_port]
      rfl
    | v6 ip port flowinfo scopeId =>
      simp only [TransportParams.fields, TransportParams.withPreferredAddress, hread,
        ipv6From_ipv6Octets, swap_port]
      rfl
  | _ => rfl

theorem fields_build (p : TransportParams) (calls : List ParamCall) :
    (p.build e calls).fields e = (p.fields e).override (lastSet calls) := by
  induction calls using List.reverseRecOn with
  | nil => rfl
  | append_singleton calls c ih =>
    have hbuild : p.build e (calls ++ [c]) = (p.build e calls).call e c := by
      simp [TransportParams.build]
    have hlast : lastSet (calls ++ [c]) = (lastSet calls).andThen c.sets := by
      simp [lastSet]
    rw [hbuild, hlast, fields_call, ih, ParamFields.override_andThen]

/-- What was set last, for any field. -/
theorem lastSet_field {α : Type} (field : ParamFields Option → Option α)
    (hunset : field .unset = none)
    (hthen : ∀ s s', field (s.andThen s') = (field s').or (field s)) (calls : List ParamCall) :
    field (lastSet calls) = (calls.filterMap fun c => field c.sets).getLast? := by
  induction calls using List.reverseRecOn with
  | nil => exact hunset
  | append_singleton calls c ih =>
    have hlast : lastSet (calls ++ [c]) = (lastSet calls).andThen c.sets := by
      simp [lastSet]
    rw [hlast, hthen, ih, List.filterMap_append, List.getLast?_append]
    cases hc : field c.sets with
    | none => simp [hc]
    | some x => simp [hc]

end Chain

/-- The idle timeouts of a chain of calls. -/
def idleTimeouts (calls : List ParamCall) : List Duration :=
  calls.filterMap fun
    | .maxIdleTimeout timeout => some timeout
    | _ => none

/-- `UINT64_MAX`. -/
def uint64Max : UInt64 := UInt64.ofNat (2 ^ 64 - 1)

theorem durationNanos_eq_max {duration : Duration} :
    durationNanos duration = uint64Max ↔ duration = 2 ^ 64 - 1 := by
  unfold durationNanos uint64Max
  rw [← UInt64.toNat_inj]
  split_ifs with h
  · rw [UInt64.toNat_ofNat_of_lt' h, UInt64.toNat_ofNat_of_lt' (by decide)]
  · refine iff_of_false (by decide) fun hd => h ?_
    rw [hd]
    decide

theorem maxIdleTimeout_build (e : Endian) (p : TransportParams) (calls : List ParamCall) :
    (p.build e calls).maxIdleTimeout =
      ((idleTimeouts calls).getLast?.map durationNanos).getD p.maxIdleTimeout := by
  have hfields : ((p.build e calls).fields e).maxIdleTimeout =
      ((lastSet calls).maxIdleTimeout).getD p.maxIdleTimeout := by
    rw [fields_build]
    rfl
  have hsets : (fun c : ParamCall => c.sets.maxIdleTimeout) = fun c =>
      (match c with
        | .maxIdleTimeout timeout => some timeout
        | _ => none : Option Duration).map durationNanos := by
    funext c
    cases c with
    | preferredAddress cid addr resetToken => cases addr <;> rfl
    | _ => rfl
  refine hfields.trans ?_
  rw [lastSet_field (fun s => s.maxIdleTimeout) rfl (fun _ _ => rfl) calls, hsets,
    ← List.map_filterMap, List.getLast?_map]
  rfl

/-- **The forbidden idle timeout.** ngtcp2 must not get `UINT64_MAX` as the idle timeout.
`duration_nanos` rounds what does not fit below it, but passes on a duration of just that many
nanoseconds: the parameters are invalid for it, and for nothing else. -/
theorem idle_timeout_invalid_iff (e : Endian) (default : TransportParams) (calls : List ParamCall) :
    ((TransportParams.new default).build e calls).maxIdleTimeout = uint64Max ↔
      (idleTimeouts calls).getLast? = some (2 ^ 64 - 1) := by
  rw [maxIdleTimeout_build]
  cases h : (idleTimeouts calls).getLast? with
  | none =>
    refine iff_of_false (fun hmax => ?_) (by simp)
    have hdefault : durationNanos 30000000000 = uint64Max := hmax
    exact absurd (durationNanos_eq_max.mp hdefault) (by decide)
  | some timeout =>
    show durationNanos timeout = uint64Max ↔ _
    rw [durationNanos_eq_max, Option.some.injEq]

end Ngtcp2Rs
