import Ngtcp2Rs.Packet.Split
import Ngtcp2Rs.Streams.WritePackets

/-!
# Coalesced packets of version 2

`packet_len` reads the type bits as version 1 has them, whatever the version of the packet. Version
2 numbers the types differently, as `long_header_type` says: an Initial is then taken for 0-RTT,
and a Handshake packet for a Retry.

* `packetLen_v2`: the length that `packet_len` answers for a version 2 packet.
* `SplitAsV1`: the datagrams on which this is no harm.
* `splitPackets_v2_iff`: these are the only ones that are split into their packets.
-/

namespace Ngtcp2Rs

open Lib

/-- One datagram for each packet of a CONNECTION_CLOSE that was written to `data`. -/
def closePackets (w : PointerWidth) (fuel : ℕ) (data : Slice w) (localAddr remote : SocketAddr)
    (ecn : UInt8) : Except Exit (List OutgoingPacket) := do
  let packets ← splitPackets w fuel data
  return packets.map fun packet => ⟨packet, localAddr, remote, ecn⟩

/-- Every packet is 0-RTT, except that a Handshake packet can stand at the end of the datagram. -/
def SplitAsV1 : List (LongPacket protoVerV2) → Option ShortPacket → Prop
  | [], _ => True
  | p :: longs, short =>
    (p.kind.type = .zeroRtt ∨ p.kind.type = .handshake ∧ longs = [] ∧ short = none) ∧
      SplitAsV1 longs short

instance : ∀ longs short, Decidable (SplitAsV1 longs short)
  | [], _ => isTrue trivial
  | _ :: longs, short =>
    have := instDecidableSplitAsV1 longs short
    inferInstanceAs (Decidable (_ ∧ _))

section VersionTwo

variable {w : PointerWidth}

/-- The type bits of version 2, as `packet_len` looks at them. -/
theorem packetType_of_v2 {first : UInt8} {type : LongHeaderType}
    (h : longHeaderType protoVerV2 first = some type) :
    (packetType first = 3 ↔ type = .handshake) ∧ (packetType first = 0 → type = .retry) := by
  have hv : ¬ protoVerV2 = protoVerV1 := by decide
  rw [packetType_eq]
  simp only [longHeaderType, if_neg hv, if_true, Option.some.injEq] at h
  subst h
  constructor
  · split_ifs <;> simp_all
  · intro h0
    simp [h0]

/-- Where `packet_len` ends a version 2 packet: an Initial ends after its token, and a Handshake
packet takes all that follows. -/
def lenAsV1 (p : LongPacket protoVerV2) (rest : Bytes) : ℕ :=
  match p.kind with
  | .initial token => p.headerLen + token.bytes.length
  | .zeroRtt => p.bytes.length
  | .handshake => (p.bytes ++ rest).length

theorem packetLen_v2 (p : LongPacket protoVerV2) (rest : Bytes)
    (hbuf : (p.bytes ++ rest).length ≤ w.isizeMax) :
    packetLen w (p.bytes ++ rest) = .ok (lenAsV1 p rest) := by
  obtain ⟨hhandshake, hretry⟩ := packetType_of_v2 p.typed
  have hno : ¬ packetType p.first = 0 := by
    intro h0
    have htype := hretry h0
    cases hkind : p.kind <;> rw [hkind] at htype <;> cases htype
  have htoken : tokenEnd w p.first (p.bytes ++ rest) p.headerLen = .ok p.headerLen := if_neg hno
  have hdrop := p.drop_headerLen rest
  have hlen := p.length_bytes
  have hall : (p.bytes ++ rest).length = p.bytes.length + rest.length := List.length_append
  rw [packetLen_header (by decide) p rest hbuf, htoken, ok_bind]
  unfold lenAsV1
  cases hkind : p.kind with
  | initial token =>
    rw [hkind] at hhandshake hdrop hlen
    have hle : p.headerLen + token.bytes.length ≤ (p.bytes ++ rest).length := by
      have hbytes : (LongKind.initial token).bytes = token.bytes := rfl
      rw [hbytes] at hlen
      omega
    rw [if_neg (fun h => by cases hhandshake.mp h), fieldEnd_of_drop hbuf hdrop, ok_bind,
      if_pos hle]
  | zeroRtt =>
    rw [hkind] at hhandshake hdrop hlen
    have hend : p.headerLen + p.payload.bytes.length = p.bytes.length := by
      have hbytes : LongKind.zeroRtt.bytes.length = 0 := rfl
      omega
    rw [if_neg (fun h => by cases hhandshake.mp h), fieldEnd_of_drop hbuf hdrop, ok_bind, hend,
      if_pos (by omega)]
  | handshake =>
    rw [hkind] at hhandshake
    rw [if_pos (hhandshake.mpr rfl)]

/-- The end is the right one for a 0-RTT packet, and for a Handshake packet that nothing follows. -/
theorem lenAsV1_eq_iff (p : LongPacket protoVerV2) (rest : Bytes) :
    lenAsV1 p rest = p.bytes.length ↔
      p.kind.type = .zeroRtt ∨ p.kind.type = .handshake ∧ rest = [] := by
  have hlen := p.length_bytes
  have hpos := List.length_pos_iff.mpr p.payload.bytes_ne_nil
  unfold lenAsV1
  cases hkind : p.kind with
  | initial token =>
    rw [hkind] at hlen
    have hbytes : (LongKind.initial token).bytes = token.bytes := rfl
    rw [hbytes] at hlen
    simp only [LongKind.type, reduceCtorEq, false_and, or_self, iff_false]
    omega
  | zeroRtt => simp [LongKind.type]
  | handshake => simp [LongKind.type]

/-- The first packet that the loop adds has the length that `packet_len` answers. -/
theorem length_of_splitLoop {fuel n : ℕ} {rest packet : Bytes} {packets more : List Bytes}
    (hfuel : rest.length ≤ fuel + 1) (hlen : packetLen w rest = .ok n)
    (h : splitLoop w (fuel + 1) rest packets = .ok (packets ++ packet :: more)) :
    packet.length = n := by
  obtain ⟨hpos, hle⟩ := packetLen_range hlen
  obtain ⟨added, hloop, -, -⟩ := splitLoop_flatten (w := w) fuel (rest.drop n)
    (packets ++ [rest.take n]) (by rw [List.length_drop]; omega)
  have hlength : (rest.take n).length = n := by
    rw [List.length_take]
    omega
  have hne : rest.take n ≠ [] := by
    rw [← List.length_pos_iff, hlength]
    exact hpos
  have hstep : splitLoop w (fuel + 1) (rest.take n ++ rest.drop n) packets =
      splitLoop w fuel (rest.drop n) (packets ++ [rest.take n]) := by
    refine splitLoop_step hne ?_
    rw [List.take_append_drop, hlength, hlen]
  rw [List.take_append_drop, h, hloop, List.append_assoc, Except.ok.injEq] at hstep
  obtain ⟨hpacket, -⟩ := List.cons.inj (List.append_cancel_left hstep)
  rw [hpacket, hlength]

theorem packetBytes_flatten_eq_nil {version : UInt32} {longs : List (LongPacket version)}
    {short : Option ShortPacket} :
    (packetBytes longs short).flatten = [] ↔ longs = [] ∧ short = none := by
  cases longs with
  | nil => cases short <;> simp [packetBytes, ShortPacket.bytes]
  | cons p longs => simp [packetBytes, p.bytes_ne_nil]

/-- The loop takes the packets of a version 2 datagram off one after another exactly when no packet
but the last of the datagram needs the type bits of version 2. -/
theorem splitLoop_v2_iff {longs : List (LongPacket protoVerV2)} {short : Option ShortPacket} :
    ∀ {fuel : ℕ} (packets : List Bytes), (packetBytes longs short).flatten.length ≤ w.isizeMax →
      (packetBytes longs short).flatten.length ≤ fuel →
      (splitLoop w fuel (packetBytes longs short).flatten packets =
        .ok (packets ++ packetBytes longs short) ↔ SplitAsV1 longs short) := by
  induction longs with
  | nil =>
    intro fuel packets hmax hfuel
    exact ⟨fun _ => trivial, fun _ => splitLoop_noLongs hfuel⟩
  | cons p longs ih =>
    intro fuel packets hmax hfuel
    have hflat : (packetBytes (p :: longs) short).flatten =
        p.bytes ++ (packetBytes longs short).flatten := rfl
    have hcons : packets ++ packetBytes (p :: longs) short =
        packets ++ [p.bytes] ++ packetBytes longs short :=
      List.append_cons packets p.bytes (packetBytes longs short)
    have hpos := List.length_pos_iff.mpr p.bytes_ne_nil
    rw [hflat] at hmax hfuel ⊢
    have hlen := packetLen_v2 p _ hmax
    have hiff := lenAsV1_eq_iff p (packetBytes longs short).flatten
    rw [packetBytes_flatten_eq_nil] at hiff
    have hfuel' := hfuel
    rw [List.length_append] at hmax hfuel
    obtain ⟨n, rfl⟩ : ∃ n, fuel = n + 1 := Nat.exists_eq_succ_of_ne_zero (by omega)
    by_cases hend : lenAsV1 p (packetBytes longs short).flatten = p.bytes.length
    · rw [splitLoop_step p.bytes_ne_nil (hlen.trans (congrArg Except.ok hend)), hcons,
        ih _ (by omega) (by omega)]
      exact (and_iff_right (hiff.mp hend)).symm
    · constructor
      · intro h
        exact absurd (length_of_splitLoop hfuel' hlen h).symm hend
      · rintro ⟨hp, -⟩
        exact absurd (hiff.mpr hp) hend

/-- **When version 2 packets are split.** The concatenation of well-formed version 2 packets, with
possibly a short header at the end, is split into these packets, and a CONNECTION_CLOSE into one
datagram for each, exactly when all packets are 0-RTT but possibly a Handshake packet at the end of
the datagram. -/
theorem splitPackets_v2_iff (fuel : ℕ) (buf : Slice w) (longs : List (LongPacket protoVerV2))
    (short : Option ShortPacket) (hbytes : buf.bytes = (packetBytes longs short).flatten)
    (hfuel : buf.bytes.length ≤ fuel) :
    (splitPackets w fuel buf = .ok (packetBytes longs short) ∧
      ∀ localAddr remote ecn, closePackets w fuel buf localAddr remote ecn =
        .ok ((packetBytes longs short).map fun packet => ⟨packet, localAddr, remote, ecn⟩)) ↔
    SplitAsV1 longs short := by
  have hmax := buf.length_le
  rw [hbytes] at hfuel hmax
  have hiff := splitLoop_v2_iff [] hmax hfuel
  rw [← hbytes] at hiff
  rw [← hiff]
  constructor
  · rintro ⟨h, -⟩
    exact h
  · intro h
    refine ⟨h, fun localAddr remote ecn => ?_⟩
    have hsplit : splitPackets w fuel buf = .ok (packetBytes longs short) := h
    unfold closePackets
    rw [hsplit]
    rfl

end VersionTwo

/-- A version 2 Handshake packet. -/
def sampleHandshakeV2 : LongPacket protoVerV2 where
  first := 0xf3
  dcid := ⟨[1, 2], by decide⟩
  scid := ⟨[8], by decide⟩
  kind := .handshake
  payload := ⟨.one, [0x1c, 0x00], by decide⟩
  long := by decide
  typed := by decide

/-- A Handshake and a 1-RTT packet of version 2 in one buffer. -/
def sampleCloseV2 : Slice .w64 :=
  ⟨(packetBytes [sampleHandshakeV2] (some sampleShortPacket)).flatten, by decide⟩

/-- The Handshake packet alone is split off, as the condition says. -/
theorem splitPackets_v2_handshake :
    splitPackets .w64 13 ⟨(packetBytes [sampleHandshakeV2] none).flatten, by decide⟩ =
      .ok [sampleHandshakeV2.bytes] :=
  ((splitPackets_v2_iff 13 ⟨_, by decide⟩ [sampleHandshakeV2] none rfl (by decide)).mpr
    (by decide)).1

/-- **A CONNECTION_CLOSE on version 2 goes out in one datagram.** The Handshake packet is taken for
a Retry, which extends to the end of the buffer. -/
theorem closePackets_v2_coalesced :
    splitPackets .w64 sampleCloseV2.bytes.length sampleCloseV2 = .ok [sampleCloseV2.bytes] ∧
    closePackets .w64 sampleCloseV2.bytes.length sampleCloseV2 (.v4 0 4433) (.v4 1 5000) 0 =
      .ok [⟨sampleCloseV2.bytes, .v4 0 4433, .v4 1 5000, 0⟩] ∧
    ¬ ∀ (longs : List (LongPacket protoVerV2)) (short : Option ShortPacket) (buf : Slice .w64),
      buf.bytes = (packetBytes longs short).flatten →
        splitPackets .w64 buf.bytes.length buf = .ok (packetBytes longs short) := by
  have hsplit : splitPackets .w64 sampleCloseV2.bytes.length sampleCloseV2 =
      .ok [sampleCloseV2.bytes] := by decide
  refine ⟨hsplit, by decide, fun h => ?_⟩
  have hbad := h [sampleHandshakeV2] (some sampleShortPacket) sampleCloseV2 rfl
  rw [hsplit] at hbad
  exact absurd hbad (by decide)

end Ngtcp2Rs
