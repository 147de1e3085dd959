import Ngtcp2Rs.Packet.Varint

/-!
# Splitting coalesced packets

`split_packets` and `packet_len` of `ngtcp2/src/packet.rs`, and `long_header_type` of
`ngtcp2/src/version.rs`.

* `packetLen_range`: a length that `packet_len` answers is positive and within the buffer.
* `LongPacket`, `ShortPacket`: the well-formed packets of a version.
* `splitPackets_exact`: splitting loses nothing on any bytes, and undoes the concatenation of
  well-formed version 1 packets.
-/

namespace Ngtcp2Rs

open Lib

/-! ## The program -/

/-- The position after the connection ID at `pos`, which its length in one byte precedes. -/
def cidEnd (w : PointerWidth) (buf : Bytes) (pos : ℕ) : Except Exit ℕ := do
  let cidLen := (← getAt buf pos).toNat
  checkedAdd w (← checkedAdd w pos 1) cidLen

/-- The position after the field at `pos`, which its length as a variable-length integer precedes. -/
def fieldEnd (w : PointerWidth) (buf : Bytes) (pos : ℕ) : Except Exit ℕ := do
  let (length, len) ← Varint.decode w (← getFrom buf pos)
  let length ← tryFrom w length
  checkedAdd w (← checkedAdd w pos len) length

/-- The type bits of a long header. -/
def packetType (first : UInt8) : UInt8 := (first &&& 0x30) >>> 4

/-- The position after the token at `pos`, which only an Initial has. -/
def tokenEnd (w : PointerWidth) (first : UInt8) (buf : Bytes) (pos : ℕ) : Except Exit ℕ :=
  if packetType first = 0 then fieldEnd w buf pos else .ok pos

/-- The length of the packet at the start of `buf`. -/
def packetLen (w : PointerWidth) (buf : Bytes) : Except Exit ℕ := do
  let first ← getAt buf 0
  if first &&& 0x80 = 0 then return buf.length
  else do
    let version ← getRange buf 1 5
    -- Version Negotiation has no Length field
    if fromBe version = 0 then return buf.length
    else do
      let pos ← cidEnd w buf 5
      let pos ← cidEnd w buf pos
      -- neither has Retry
      if packetType first = 3 then return buf.length
      else do
        let pos ← tokenEnd w first buf pos
        let endPos ← fieldEnd w buf pos
        if endPos ≤ buf.length then return endPos else .error .none

/-- The loop of `splitPackets`, at most `fuel` times round. -/
def splitLoop (w : PointerWidth) : ℕ → Bytes → List Bytes → Except Exit (List Bytes)
  | 0, rest, packets => if rest.isEmpty then .ok packets else .error .outOfFuel
  | fuel + 1, rest, packets =>
    if rest.isEmpty then .ok packets
    else
      match packetLen w rest with
      | .ok len => do
        let (packet, tail) ← splitAt rest len
        splitLoop w fuel tail (packets ++ [packet])
      | .error .none => .ok (packets ++ [rest])
      | .error e => .error e

/-- The packets coalesced in `buf`. -/
def splitPackets (w : PointerWidth) (fuel : ℕ) (buf : Slice w) : Except Exit (List Bytes) :=
  splitLoop w fuel buf.bytes []

/-- The types of long-header packets. -/
inductive LongHeaderType where
  | initial
  | zeroRtt
  | handshake
  | retry
  deriving DecidableEq, Repr

/-- `NGTCP2_PROTO_VER_V1`. -/
def protoVerV1 : UInt32 := 0x00000001
/-- `NGTCP2_PROTO_VER_V2`. -/
def protoVerV2 : UInt32 := 0x6b3343cf

/-- The type of a long-header packet, `none` for an unknown version. -/
def longHeaderType (version : UInt32) (firstByte : UInt8) : Option LongHeaderType :=
  let bits := (firstByte >>> 4) &&& 0x3
  if version = protoVerV1 then
    some (if bits = 0x0 then .initial else if bits = 0x1 then .zeroRtt
      else if bits = 0x2 then .handshake else .retry)
  else if version = protoVerV2 then
    some (if bits = 0x1 then .initial else if bits = 0x2 then .zeroRtt
      else if bits = 0x3 then .handshake else .retry)
  else none

/-! ## Arbitrary bytes -/

section Range

variable {w : PointerWidth} {buf : Bytes}

theorem safe_cidEnd (pos : ℕ) : Safe (cidEnd w buf pos) :=
  (safe_getAt pos).bind fun _ _ => (safe_checkedAdd pos 1).bind fun _ _ => safe_checkedAdd _ _

theorem safe_fieldEnd (pos : ℕ) : Safe (fieldEnd w buf pos) :=
  (safe_getFrom pos).bind fun _ _ => (Varint.safe_decode w _).bind fun _ _ =>
    (safe_tryFrom _).bind fun _ _ => (safe_checkedAdd _ _).bind fun _ _ => safe_checkedAdd _ _

theorem lt_of_cidEnd {pos n : ℕ} (h : cidEnd w buf pos = .ok n) : pos < n := by
  obtain ⟨_, -, h⟩ := bind_eq_ok.mp h
  obtain ⟨_, h₁, h⟩ := bind_eq_ok.mp h
  have h₁ := of_checkedAdd h₁
  have h₂ := of_checkedAdd h
  omega

theorem le_of_fieldEnd {pos n : ℕ} (h : fieldEnd w buf pos = .ok n) : pos ≤ n := by
  obtain ⟨_, -, h⟩ := bind_eq_ok.mp h
  obtain ⟨_, -, h⟩ := bind_eq_ok.mp h
  obtain ⟨_, -, h⟩ := bind_eq_ok.mp h
  obtain ⟨_, h₁, h⟩ := bind_eq_ok.mp h
  have h₁ := of_checkedAdd h₁
  have h₂ := of_checkedAdd h
  omega

theorem le_of_tokenEnd {first : UInt8} {pos n : ℕ} (h : tokenEnd w first buf pos = .ok n) :
    pos ≤ n := by
  unfold tokenEnd at h
  split_ifs at h
  · exact le_of_fieldEnd h
  · cases h
    exact le_refl _

theorem safe_tokenEnd (first : UInt8) (pos : ℕ) : Safe (tokenEnd w first buf pos) := by
  unfold tokenEnd
  split_ifs
  · exact safe_fieldEnd pos
  · exact safe_ok _

/-- No byte string makes `packet_len` read out of range or overflow. -/
theorem safe_packetLen (buf : Bytes) : Safe (packetLen w buf) := by
  refine (safe_getAt 0).bind fun first _ => ?_
  split
  · exact safe_ok _
  refine (safe_getRange 1 5).bind fun version _ => ?_
  split
  · exact safe_ok _
  refine (safe_cidEnd 5).bind fun pos₁ _ => (safe_cidEnd pos₁).bind fun pos₂ _ => ?_
  split
  · exact safe_ok _
  refine (safe_tokenEnd first pos₂).bind fun pos₃ _ => (safe_fieldEnd pos₃).bind fun endPos _ => ?_
  split
  · exact safe_ok _
  · exact safe_none

/-- A length that `packet_len` answers is positive and within the buffer. -/
theorem packetLen_range {n : ℕ} (h : packetLen w buf = .ok n) : 0 < n ∧ n ≤ buf.length := by
  obtain ⟨first, hfirst, h⟩ := bind_eq_ok.mp h
  have hpos : 0 < buf.length := by
    cases buf with
    | nil => cases hfirst
    | cons => exact Nat.succ_pos _
  have hall : ∀ {m}, (pure buf.length : Except Exit ℕ) = .ok m → 0 < m ∧ m ≤ buf.length := by
    rintro m ⟨⟩
    exact ⟨hpos, le_refl _⟩
  split at h
  · exact hall h
  obtain ⟨version, -, h⟩ := bind_eq_ok.mp h
  split at h
  · exact hall h
  obtain ⟨pos₁, h₁, h⟩ := bind_eq_ok.mp h
  obtain ⟨pos₂, h₂, h⟩ := bind_eq_ok.mp h
  split at h
  · exact hall h
  obtain ⟨pos₃, h₃, h⟩ := bind_eq_ok.mp h
  obtain ⟨endPos, h₄, h⟩ := bind_eq_ok.mp h
  have h₁ := lt_of_cidEnd h₁
  have h₂ := lt_of_cidEnd h₂
  have h₃ := le_of_tokenEnd h₃
  have h₄ := le_of_fieldEnd h₄
  split at h
  · next hle =>
    cases h
    exact ⟨by omega, hle⟩
  · cases h

/-- **Nothing is lost.** With as much fuel as there are bytes, the loop ends and adds non-empty
packets that concatenate to what was left. -/
theorem splitLoop_flatten : ∀ (fuel : ℕ) (rest : Bytes) (packets : List Bytes),
    rest.length ≤ fuel → ∃ added, splitLoop w fuel rest packets = .ok (packets ++ added) ∧
      (∀ p ∈ added, p ≠ []) ∧ added.flatten = rest
  | 0, rest, packets, hfuel => by
    have hnil : rest = [] := List.length_eq_zero_iff.mp (Nat.le_zero.mp hfuel)
    subst hnil
    exact ⟨[], by simp [splitLoop], by simp, rfl⟩
  | fuel + 1, rest, packets, hfuel => by
    unfold splitLoop
    split_ifs with hnil
    · rw [List.isEmpty_iff] at hnil
      exact ⟨[], by simp, by simp, hnil.symm⟩
    rw [List.isEmpty_iff] at hnil
    cases hlen : packetLen w rest with
    | error e =>
      cases safe_packetLen rest e hlen
      exact ⟨[rest], rfl, by simpa using hnil, by simp⟩
    | ok len =>
      obtain ⟨hpos, hle⟩ := packetLen_range hlen
      have hsplit : splitAt rest len = .ok (rest.take len, rest.drop len) := if_pos hle
      obtain ⟨added, hloop, hne, hflat⟩ := splitLoop_flatten fuel (rest.drop len)
        (packets ++ [rest.take len]) (by rw [List.length_drop]; omega)
      refine ⟨rest.take len :: added, ?_, ?_, ?_⟩
      · simp only [hsplit, ok_bind, hloop]
        simp
      · rintro p (_ | ⟨_, hp⟩)
        · intro htake
          have hzero := (List.take_eq_nil_iff.mp htake).resolve_right hnil
          omega
        · exact hne p hp
      · rw [List.flatten_cons, hflat, List.take_append_drop]

end Range

/-! ## Well-formed packets -/

/-- A field that its length precedes, as a variable-length integer of any size that holds it. -/
structure Field where
  size : Varint.Size
  data : Bytes
  fits : data.length < size.bound

/-- The field on the wire. -/
def Field.bytes (f : Field) : Bytes := f.size.encode f.data.length ++ f.data

/-- A connection ID in a long header, where its length is one byte. -/
structure HeaderCid where
  data : Bytes
  length_le : data.length ≤ 255

/-- The connection ID on the wire. -/
def HeaderCid.bytes (c : HeaderCid) : Bytes := UInt8.ofNat c.data.length :: c.data

/-- The long-header packets that have a Length field; an Initial has a token before it. -/
inductive LongKind where
  | initial (token : Field)
  | zeroRtt
  | handshake

namespace LongKind

/-- The type of the packet. -/
def type : LongKind → LongHeaderType
  | initial _ => .initial
  | zeroRtt => .zeroRtt
  | handshake => .handshake

/-- What the packet has before its Length field. -/
def bytes : LongKind → Bytes
  | initial token => token.bytes
  | zeroRtt | handshake => []

end LongKind

/-- A well-formed long-header packet of a version. The payload starts with the packet number; its
length is the Length field. -/
structure LongPacket (version : UInt32) where
  first : UInt8
  dcid : HeaderCid
  scid : HeaderCid
  kind : LongKind
  payload : Field
  long : first &&& 0x80 ≠ 0
  typed : longHeaderType version first = some kind.type

/-- The packet on the wire. -/
def LongPacket.bytes {version : UInt32} (p : LongPacket version) : Bytes :=
  [p.first] ++ (toBe 4 version.toNat ++ (p.dcid.bytes ++ (p.scid.bytes ++
    (p.kind.bytes ++ p.payload.bytes))))

/-- The length of the header up to the connection IDs. -/
def LongPacket.headerLen {version : UInt32} (p : LongPacket version) : ℕ :=
  5 + p.dcid.bytes.length + p.scid.bytes.length

/-- A short-header packet. -/
structure ShortPacket where
  first : UInt8
  rest : Bytes
  short : first &&& 0x80 = 0

/-- The packet on the wire. -/
def ShortPacket.bytes (p : ShortPacket) : Bytes := p.first :: p.rest

/-- The packets of a datagram: long headers, then possibly a short one. -/
def packetBytes {version : UInt32} (longs : List (LongPacket version))
    (short : Option ShortPacket) : List Bytes :=
  longs.map LongPacket.bytes ++ short.toList.map ShortPacket.bytes

/-! ## Coalesced packets -/

section Coalesced

variable {w : PointerWidth} {buf rest : Bytes} {pos : ℕ}

/-- A position within the buffer fits in `usize`. -/
theorem le_usizeMax_of_drop {mid : Bytes} (hbuf : buf.length ≤ w.isizeMax)
    (h : buf.drop pos = mid ++ rest) (hne : mid ≠ []) : pos + mid.length ≤ w.usizeMax := by
  have hlen := congrArg List.length h
  rw [List.length_drop, List.length_append] at hlen
  have hpos := List.length_pos_iff.mpr hne
  have hmax := w.isizeMax_lt_usizeMax
  omega

theorem cidEnd_of_drop {c : HeaderCid} (hbuf : buf.length ≤ w.isizeMax)
    (h : buf.drop pos = c.bytes ++ rest) : cidEnd w buf pos = .ok (pos + c.bytes.length) := by
  have hmax := le_usizeMax_of_drop hbuf h (List.cons_ne_nil _ _)
  have hlen : c.bytes.length = c.data.length + 1 := rfl
  have hbyte : (UInt8.ofNat c.data.length).toNat = c.data.length :=
    Nat.mod_eq_of_lt (Nat.lt_succ_of_le c.length_le)
  unfold cidEnd
  rw [getAt_of_drop h, ok_bind, checkedAdd_ok (by omega), ok_bind, hbyte,
    checkedAdd_ok (by omega), hlen]
  congr 1
  omega

theorem Field.bytes_ne_nil (f : Field) : f.bytes ≠ [] := by
  intro h
  have hlen := congrArg List.length h
  rw [Field.bytes, List.length_append, Varint.Size.length_encode, List.length_nil] at hlen
  have hpos := f.size.len_pos
  omega

theorem fieldEnd_of_drop {f : Field} (hbuf : buf.length ≤ w.isizeMax)
    (h : buf.drop pos = f.bytes ++ rest) : fieldEnd w buf pos = .ok (pos + f.bytes.length) := by
  have hmax := le_usizeMax_of_drop hbuf h f.bytes_ne_nil
  have hlen : f.bytes.length = f.size.len + f.data.length := by
    rw [Field.bytes, List.length_append, Varint.Size.length_encode]
  have hfrom : getFrom buf pos = .ok (f.size.encode f.data.length ++ (f.data ++ rest)) := by
    rw [← List.append_assoc]
    refine getFrom_of_drop h fun hnil => f.bytes_ne_nil ?_
    exact (List.append_eq_nil_iff.mp hnil).1
  unfold fieldEnd
  rw [hfrom, ok_bind, Varint.decode_encode w f.size f.fits, ok_bind]
  simp only []
  rw [tryFrom_ok (by omega), ok_bind, checkedAdd_ok (by omega), ok_bind, checkedAdd_ok (by omega),
    hlen, Nat.add_assoc]

theorem packetType_eq (first : UInt8) : packetType first = (first >>> 4) &&& 0x3 := by
  apply UInt8.toNat_inj.mp
  simp [packetType, Nat.shiftRight_and_distrib]

/-- In version 1, the type bits are those that `packet_len` looks at. -/
theorem packetType_of_v1 {first : UInt8} {type : LongHeaderType}
    (h : longHeaderType protoVerV1 first = some type) :
    (packetType first = 0 ↔ type = .initial) ∧ (packetType first = 3 → type = .retry) := by
  rw [packetType_eq]
  simp only [longHeaderType, if_true, Option.some.injEq] at h
  subst h
  constructor
  · split_ifs <;> simp_all
  · intro h3
    simp [h3]

theorem tokenEnd_of_drop {first : UInt8} {kind : LongKind} (hbuf : buf.length ≤ w.isizeMax)
    (htype : longHeaderType protoVerV1 first = some kind.type)
    (h : buf.drop pos = kind.bytes ++ rest) :
    tokenEnd w first buf pos = .ok (pos + kind.bytes.length) := by
  obtain ⟨hinitial, -⟩ := packetType_of_v1 htype
  unfold tokenEnd
  cases kind with
  | initial token =>
    rw [if_pos (hinitial.mpr rfl)]
    exact fieldEnd_of_drop hbuf h
  | zeroRtt => exact if_neg fun h0 => by cases hinitial.mp h0
  | handshake => exact if_neg fun h0 => by cases hinitial.mp h0

theorem LongPacket.drop_headerLen {version : UInt32} (p : LongPacket version) (rest : Bytes) :
    (p.bytes ++ rest).drop p.headerLen = p.kind.bytes ++ (p.payload.bytes ++ rest) := by
  have h₀ : (p.bytes ++ rest).drop 0 = ([p.first] ++ (toBe 4 version.toNat ++
      (p.dcid.bytes ++ p.scid.bytes))) ++ (p.kind.bytes ++ (p.payload.bytes ++ rest)) := by
    simp only [LongPacket.bytes, List.drop_zero, List.append_assoc]
  refine drop_add_of_drop h₀ ?_
  simp only [LongPacket.headerLen, List.length_append, length_toBe, List.length_singleton]
  omega

theorem LongPacket.length_bytes {version : UInt32} (p : LongPacket version) :
    p.bytes.length = p.headerLen + p.kind.bytes.length + p.payload.bytes.length := by
  simp only [LongPacket.bytes, LongPacket.headerLen, List.length_append, length_toBe,
    List.length_singleton]
  omega

/-- Up to the connection IDs, a long header is read in the same way in every version. -/
theorem packetLen_header {version : UInt32} (hversion : version ≠ 0) (p : LongPacket version)
    (rest : Bytes) (hbuf : (p.bytes ++ rest).length ≤ w.isizeMax) :
    packetLen w (p.bytes ++ rest) =
      if packetType p.first = 3 then .ok (p.bytes ++ rest).length
      else
        tokenEnd w p.first (p.bytes ++ rest) p.headerLen >>= fun pos =>
          fieldEnd w (p.bytes ++ rest) pos >>= fun endPos =>
            if endPos ≤ (p.bytes ++ rest).length then .ok endPos else .error .none := by
  obtain ⟨buf, hbytes⟩ : ∃ buf, buf = p.bytes ++ rest := ⟨_, rfl⟩
  rw [← hbytes] at hbuf ⊢
  -- what is left of the buffer after each field
  have h₀ : buf.drop 0 = [p.first] ++ (toBe 4 version.toNat ++ (p.dcid.bytes ++
      (p.scid.bytes ++ (p.kind.bytes ++ (p.payload.bytes ++ rest))))) := by
    rw [hbytes, LongPacket.bytes]
    simp only [List.drop_zero, List.append_assoc]
  have h₁ := drop_add_of_drop (b := 1) h₀ rfl
  have h₂ := drop_add_of_drop (b := 5) h₁ rfl
  have h₃ := drop_add_of_drop h₂ rfl
  have hrange : getRange buf 1 5 = .ok (toBe 4 version.toNat) :=
    getRange_of_drop h₁ rfl (by simp [toBe])
  have hversion : fromBe (toBe 4 version.toNat) ≠ 0 := by
    have hlt : version.toNat < 256 ^ 4 := version.toNat_lt
    rw [fromBe_toBe, Nat.mod_eq_of_lt hlt]
    exact fun h => hversion (UInt32.toNat_inj.mp h)
  unfold packetLen
  rw [getAt_of_drop h₀, ok_bind, if_neg p.long, hrange, ok_bind, if_neg hversion,
    cidEnd_of_drop hbuf h₂, ok_bind, cidEnd_of_drop hbuf h₃, ok_bind]
  rfl

/-- **The length of a version 1 packet** is found, whatever follows the packet. -/
theorem packetLen_append (p : LongPacket protoVerV1) (rest : Bytes)
    (hbuf : (p.bytes ++ rest).length ≤ w.isizeMax) :
    packetLen w (p.bytes ++ rest) = .ok p.bytes.length := by
  have hretry : packetType p.first ≠ 3 := by
    intro h3
    have htype := (packetType_of_v1 p.typed).2 h3
    cases hkind : p.kind <;> rw [hkind] at htype <;> cases htype
  have hle : p.bytes.length ≤ (p.bytes ++ rest).length := by
    rw [List.length_append]
    exact Nat.le_add_right _ _
  have htoken := p.drop_headerLen rest
  have hpayload := drop_add_of_drop htoken rfl
  rw [packetLen_header (by decide) p rest hbuf, if_neg hretry,
    tokenEnd_of_drop hbuf p.typed htoken, ok_bind, fieldEnd_of_drop hbuf hpayload, ok_bind,
    ← p.length_bytes, if_pos hle]

theorem packetLen_short (p : ShortPacket) : packetLen w p.bytes = .ok p.bytes.length := by
  have hfirst : getAt p.bytes 0 = .ok p.first := rfl
  unfold packetLen
  rw [hfirst, ok_bind, if_pos p.short]
  rfl

/-- The loop takes one packet off when its length is found. -/
theorem splitLoop_step {fuel : ℕ} {packet tail : Bytes} {packets : List Bytes} (hne : packet ≠ [])
    (hlen : packetLen w (packet ++ tail) = .ok packet.length) :
    splitLoop w (fuel + 1) (packet ++ tail) packets =
      splitLoop w fuel tail (packets ++ [packet]) := by
  have hnil : ¬ (packet ++ tail).isEmpty = true := by simp [hne]
  have hsplit : splitAt (packet ++ tail) packet.length = .ok (packet, tail) := by
    unfold splitAt
    rw [if_pos (by simp), List.take_left, List.drop_left]
  conv_lhs => unfold splitLoop
  rw [if_neg hnil, hlen]
  simp only [hsplit, ok_bind]

theorem LongPacket.bytes_ne_nil {version : UInt32} (p : LongPacket version) : p.bytes ≠ [] :=
  List.cons_ne_nil _ _

theorem ShortPacket.bytes_ne_nil (p : ShortPacket) : p.bytes ≠ [] := List.cons_ne_nil _ _

/-- The loop takes off what there is when no long header is left. -/
theorem splitLoop_noLongs {version : UInt32} {short : Option ShortPacket} {fuel : ℕ}
    {packets : List Bytes}
    (hfuel : (packetBytes ([] : List (LongPacket version)) short).flatten.length ≤ fuel) :
    splitLoop w fuel (packetBytes ([] : List (LongPacket version)) short).flatten packets =
      .ok (packets ++ packetBytes ([] : List (LongPacket version)) short) := by
  cases short with
  | none => cases fuel <;> simp [packetBytes, splitLoop]
  | some p =>
    have hflat : (packetBytes ([] : List (LongPacket version)) (some p)).flatten =
        p.bytes ++ [] := by simp [packetBytes]
    have hlen : packetLen w (p.bytes ++ []) = .ok p.bytes.length := by
      rw [List.append_nil]
      exact packetLen_short p
    have hpos := List.length_pos_iff.mpr p.bytes_ne_nil
    rw [hflat] at hfuel ⊢
    rw [List.append_nil] at hfuel
    obtain ⟨n, rfl⟩ : ∃ n, fuel = n + 1 := Nat.exists_eq_succ_of_ne_zero (by omega)
    rw [splitLoop_step p.bytes_ne_nil hlen]
    cases n <;> simp [packetBytes, splitLoop]

/-- The loop takes the packets of a datagram off one after another. -/
theorem splitLoop_packetBytes {longs : List (LongPacket protoVerV1)} {short : Option ShortPacket} :
    ∀ {fuel : ℕ} {packets : List Bytes}, (packetBytes longs short).flatten.length ≤ w.isizeMax →
      (packetBytes longs short).flatten.length ≤ fuel →
      splitLoop w fuel (packetBytes longs short).flatten packets =
        .ok (packets ++ packetBytes longs short) := by
  induction longs with
  | nil =>
    intro fuel packets _ hfuel
    exact splitLoop_noLongs hfuel
  | cons p longs ih =>
    intro fuel packets hmax hfuel
    have hflat : (packetBytes (p :: longs) short).flatten =
        p.bytes ++ (packetBytes longs short).flatten := rfl
    have hpos := List.length_pos_iff.mpr p.bytes_ne_nil
    rw [hflat] at hmax hfuel ⊢
    have hlen := packetLen_append p _ hmax
    rw [List.length_append] at hmax hfuel
    obtain ⟨n, rfl⟩ : ∃ n, fuel = n + 1 := Nat.exists_eq_succ_of_ne_zero (by omega)
    rw [splitLoop_step p.bytes_ne_nil hlen, ih (by omega) (by omega), List.append_assoc]
    rfl

end Coalesced

/-- **Splitting is exact.** With as many rounds as there are bytes, splitting ends on any slice
without a read out of range or an overflow, and its non-empty pieces concatenate to the slice. On
well-formed version 1 packets, possibly with a short header at the end, the pieces are the
packets. -/
theorem splitPackets_exact (w : PointerWidth) (fuel : ℕ) (buf : Slice w)
    (hfuel : buf.bytes.length ≤ fuel) :
    (∃ packets, splitPackets w fuel buf = .ok packets ∧ (∀ p ∈ packets, p ≠ []) ∧
      packets.flatten = buf.bytes) ∧
    ∀ (longs : List (LongPacket protoVerV1)) (short : Option ShortPacket),
      buf.bytes = (packetBytes longs short).flatten →
        splitPackets w fuel buf = .ok (packetBytes longs short) := by
  constructor
  · obtain ⟨added, hloop, hne, hflat⟩ := splitLoop_flatten fuel buf.bytes [] hfuel
    exact ⟨added, hloop, hne, hflat⟩
  · intro longs short hbytes
    have hmax := buf.length_le
    unfold splitPackets
    rw [hbytes] at hfuel hmax ⊢
    exact splitLoop_packetBytes hmax hfuel

/-- An Initial whose token and payload lengths are not written in their smallest sizes. -/
def sampleInitialPacket : LongPacket protoVerV1 where
  first := 0xc3
  dcid := ⟨[1, 2, 3, 4, 5, 6, 7, 8], by decide⟩
  scid := ⟨[], by decide⟩
  kind := .initial ⟨.four, [0x44, 0x44], by decide⟩
  payload := ⟨.eight, [0x33], by decide⟩
  long := by decide
  typed := by decide

/-- A Handshake packet with an empty payload. -/
def sampleHandshakePacket : LongPacket protoVerV1 where
  first := 0xe3
  dcid := ⟨[], by decide⟩
  scid := ⟨[9], by decide⟩
  kind := .handshake
  payload := ⟨.two, [], by decide⟩
  long := by decide
  typed := by decide

/-- A short-header packet. -/
def sampleShortPacket : ShortPacket := ⟨0x40, [1, 2], by decide⟩

/-- The three packets in one datagram. -/
def sampleCoalesced : Slice .w64 :=
  ⟨(packetBytes [sampleInitialPacket, sampleHandshakePacket] (some sampleShortPacket)).flatten, by decide⟩

theorem splitPackets_exact_coalesced :
    splitPackets .w64 sampleCoalesced.bytes.length sampleCoalesced =
      .ok [sampleInitialPacket.bytes, sampleHandshakePacket.bytes, sampleShortPacket.bytes] :=
  (splitPackets_exact .w64 _ sampleCoalesced (le_refl _)).2
    [sampleInitialPacket, sampleHandshakePacket] (some sampleShortPacket) rfl

end Ngtcp2Rs
