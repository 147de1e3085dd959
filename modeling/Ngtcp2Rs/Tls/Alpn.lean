import Ngtcp2Rs.Lib.Bytes
import Ngtcp2Rs.Types

/-!
# ALPN

`alpn_select_callback` and `TlsContext::encode_alpn` of `ngtcp2/src/crypto.rs`. A list of protocols
is on the wire as entries of one length byte and the name.

* `parseAlpn`: the protocols of a wire, up to its end or to an entry that overruns it.
* `nextProto_spec`: a cursor at an entry reads the next protocol of the wire.
* `alpnSelectCallback_spec`: on any two wires the callback selects the first protocol of the server
  that the client has.
* `encodeAlpn_sound_iff`: the encoder narrows the length to one byte, which is right exactly for
  names below 256 bytes.
-/

namespace Ngtcp2Rs

open Lib

/-! ## The callback -/

/-- Read the entry at `pos` and move behind it: the length, the name and the new position. `none` is
the `break` on an entry that overruns the wire. -/
def nextProto (w : PointerWidth) (wire : Bytes) (pos : ℕ) :
    Except Exit (Option (ℕ × Bytes × ℕ)) := do
  let protoLen := (← index wire pos).toNat
  let pos ← add w pos 1
  if wire.length < (← add w pos protoLen) then return none
  else do
    let proto ← slice wire pos (← add w pos protoLen)
    let pos ← add w pos protoLen
    return some (protoLen, proto, pos)

/-- `SSL_TLSEXT_ERR_OK`. -/
def sslTlsextErrOk : ℤ := 0
/-- `SSL_TLSEXT_ERR_NOACK`. -/
def sslTlsextErrNoack : ℤ := 3

/-- What the callback answers: its return value, and what it wrote to `out`, as an offset into the
wire of the client, and to `outlen`. -/
structure AlpnAnswer where
  code : ℤ
  out : Option (ℕ × UInt8)
  deriving DecidableEq, Repr

/-- The inner loop: look for `serverProto` from `clientPos` on. -/
def clientLoop (w : PointerWidth) (client serverProto : Bytes) :
    ℕ → ℕ → Except Exit (Option (ℕ × UInt8))
  | 0, _ => .error .outOfFuel
  | fuel + 1, clientPos =>
    if clientPos < client.length then do
      match ← nextProto w client clientPos with
      | none => return none
      | some (clientProtoLen, clientProto, clientPos) =>
        if serverProto = clientProto then
          return some (← sub clientPos clientProtoLen, UInt8.ofNat clientProtoLen)
        else clientLoop w client serverProto fuel clientPos
    else return none

/-- The outer loop: look for each protocol of the server from `serverPos` on. -/
def serverLoop (w : PointerWidth) (client : Bytes) (clientFuel : ℕ) (server : Bytes) :
    ℕ → ℕ → Except Exit AlpnAnswer
  | 0, _ => .error .outOfFuel
  | fuel + 1, serverPos =>
    if serverPos < server.length then do
      match ← nextProto w server serverPos with
      | none => return ⟨sslTlsextErrNoack, none⟩
      | some (_, serverProto, serverPos) =>
        match ← clientLoop w client serverProto clientFuel 0 with
        | some out => return ⟨sslTlsextErrOk, some out⟩
        | none => serverLoop w client clientFuel server fuel serverPos
    else return ⟨sslTlsextErrNoack, none⟩

/-- Select a protocol; `arg` is the wire of the server, unless it is null. Each loop goes round at
most `fuel` times. -/
def alpnSelectCallback (w : PointerWidth) (fuel : ℕ) (client : Slice w) (arg : Option (Slice w)) :
    Except Exit AlpnAnswer :=
  match arg with
  | none => .ok ⟨sslTlsextErrNoack, none⟩
  | some server => serverLoop w client.bytes fuel server.bytes fuel 0

/-! ## What a wire says -/

/-- The protocols of a wire, up to its end or to an entry that overruns it. -/
def parseAlpn : Bytes → List Bytes
  | [] => []
  | len :: rest =>
    if rest.length < len.toNat then []
    else rest.take len.toNat :: parseAlpn (rest.drop len.toNat)
termination_by wire => wire.length
decreasing_by
  rw [List.length_drop, List.length_cons]
  omega

@[simp] theorem parseAlpn_nil : parseAlpn [] = [] := by rw [parseAlpn]

theorem parseAlpn_cons (len : UInt8) (rest : Bytes) :
    parseAlpn (len :: rest) =
      if rest.length < len.toNat then []
      else rest.take len.toNat :: parseAlpn (rest.drop len.toNat) := by rw [parseAlpn]

/-- The protocol `proto` is in `wire` at `offset`. -/
def OccursAt (proto wire : Bytes) (offset : ℕ) : Prop :=
  offset + proto.length ≤ wire.length ∧ (wire.drop offset).take proto.length = proto

section Cursor

variable {w : PointerWidth} {wire : Bytes} {pos : ℕ}

/-- **One entry.** A cursor within a wire stops where the protocols of the rest end, or reads the
first of them. -/
theorem nextProto_spec (hwire : wire.length ≤ w.isizeMax) (hpos : pos < wire.length) :
    (nextProto w wire pos = .ok none ∧ parseAlpn (wire.drop pos) = []) ∨
    ∃ proto pos', nextProto w wire pos = .ok (some (proto.length, proto, pos')) ∧
      parseAlpn (wire.drop pos) = proto :: parseAlpn (wire.drop pos') ∧
      pos < pos' ∧ pos' ≤ wire.length ∧ proto.length < 256 ∧
      proto.length ≤ pos' ∧ OccursAt proto wire (pos' - proto.length) := by
  have hmax : w.isizeMax + 255 ≤ w.usizeMax := by cases w <;> decide
  obtain ⟨len, rest, hdrop⟩ : ∃ len rest, wire.drop pos = len :: rest :=
    List.exists_cons_of_ne_nil (by rw [Ne, List.drop_eq_nil_iff]; omega)
  have hrest : rest.length + 1 = wire.length - pos := by
    rw [← List.length_cons (a := len), ← hdrop, List.length_drop]
  have hindex : index wire pos = .ok len := by
    have hget : wire[pos]? = some len := by
      rw [← List.head?_drop, hdrop]
      rfl
    unfold index
    rw [hget]
  have hlen := len.toNat_lt
  have hdrop' : wire.drop (pos + 1) = rest :=
    drop_add_of_drop (show wire.drop pos = [len] ++ rest from hdrop) rfl
  have hadd₁ : add w pos 1 = .ok (pos + 1) := add_ok (by omega)
  have hadd₂ : add w (pos + 1) len.toNat = .ok (pos + 1 + len.toNat) := add_ok (by omega)
  unfold nextProto
  rw [hindex, ok_bind, hadd₁, ok_bind, hadd₂, ok_bind, hdrop, parseAlpn_cons]
  rcases Nat.lt_or_ge rest.length len.toNat with hover | hfit
  · left
    rw [if_pos hover, if_pos (by omega)]
    exact ⟨rfl, rfl⟩
  · right
    have hproto : (rest.take len.toNat).length = len.toNat := by
      rw [List.length_take]
      omega
    have hslice : slice wire (pos + 1) (pos + 1 + len.toNat) = .ok (rest.take len.toNat) := by
      unfold slice
      rw [if_pos ⟨by omega, by omega⟩, hdrop', Nat.add_sub_cancel_left]
    have hnext : wire.drop (pos + 1 + len.toNat) = rest.drop len.toNat := by
      rw [← List.drop_drop, hdrop']
    refine ⟨rest.take len.toNat, pos + 1 + len.toNat, ?_, ?_, by omega, by omega, by omega,
      by omega, ?_, ?_⟩
    · rw [if_neg (by omega), ok_bind, hslice, ok_bind, ok_bind, hproto]
      rfl
    · rw [if_neg (by omega), hnext]
    · omega
    · rw [hproto, Nat.add_sub_cancel, hdrop']

variable {client server : Bytes}

/-- The inner loop finds a protocol exactly when the client has it, and where it is. -/
theorem clientLoop_spec (proto : Bytes) (hclient : client.length ≤ w.isizeMax) : ∀ (fuel pos : ℕ),
    pos ≤ client.length → client.length < fuel + pos →
    (proto ∉ parseAlpn (client.drop pos) ∧ clientLoop w client proto fuel pos = .ok none) ∨
    proto ∈ parseAlpn (client.drop pos) ∧ ∃ offset,
      clientLoop w client proto fuel pos = .ok (some (offset, UInt8.ofNat proto.length)) ∧
      proto.length < 256 ∧ OccursAt proto client offset
  | 0, pos, hpos, hfuel => by omega
  | fuel + 1, pos, hpos, hfuel => by
    unfold clientLoop
    split_ifs with hlt
    · obtain ⟨hnext, hparse⟩ | ⟨p, pos', hnext, hparse, hlt', hle', hshort, hsub, hoccurs⟩ :=
        nextProto_spec hclient hlt
      · left
        rw [hparse, hnext]
        exact ⟨List.not_mem_nil, rfl⟩
      · rw [hparse, hnext, ok_bind]
        simp only
        split_ifs with heq
        · right
          subst heq
          have hoffset : sub pos' proto.length = .ok (pos' - proto.length) := if_pos hsub
          rw [hoffset]
          exact ⟨List.mem_cons_self, _, rfl, hshort, hoccurs⟩
        · rw [List.mem_cons, or_iff_right heq]
          exact clientLoop_spec proto hclient fuel pos' hle' (by omega)
    · left
      have hnil : client.drop pos = [] := List.drop_eq_nil_iff.mpr (Nat.le_of_not_lt hlt)
      rw [hnil, parseAlpn_nil]
      exact ⟨List.not_mem_nil, rfl⟩

/-- The outer loop finds the first protocol of the server that the client has. -/
theorem serverLoop_spec (hclient : client.length ≤ w.isizeMax) {clientFuel : ℕ}
    (hfuel' : client.length < clientFuel) (hserver : server.length ≤ w.isizeMax) :
    ∀ (fuel pos : ℕ), pos ≤ server.length → server.length < fuel + pos →
    ((parseAlpn (server.drop pos)).find? (· ∈ parseAlpn client) = none ∧
      serverLoop w client clientFuel server fuel pos = .ok ⟨sslTlsextErrNoack, none⟩) ∨
    ∃ proto offset, (parseAlpn (server.drop pos)).find? (· ∈ parseAlpn client) = some proto ∧
      serverLoop w client clientFuel server fuel pos =
        .ok ⟨sslTlsextErrOk, some (offset, UInt8.ofNat proto.length)⟩ ∧
      proto.length < 256 ∧ OccursAt proto client offset
  | 0, pos, hpos, hfuel => by omega
  | fuel + 1, pos, hpos, hfuel => by
    unfold serverLoop
    split_ifs with hlt
    · obtain ⟨hnext, hparse⟩ | ⟨p, pos', hnext, hparse, hlt', hle', -, -, -⟩ :=
        nextProto_spec hserver hlt
      · left
        rw [hparse, hnext]
        exact ⟨rfl, rfl⟩
      · rw [hparse, hnext, ok_bind]
        simp only
        obtain ⟨hno, hloop⟩ | ⟨hmem, offset, hloop, hshort, hoccurs⟩ :=
          clientLoop_spec p hclient clientFuel 0 (Nat.zero_le _) hfuel'
        · rw [List.drop_zero] at hno
          rw [hloop, ok_bind, List.find?_cons_of_neg (by simpa using hno)]
          exact serverLoop_spec hclient hfuel' hserver fuel pos' hle' (by omega)
        · rw [List.drop_zero] at hmem
          rw [hloop, ok_bind, List.find?_cons_of_pos (by simpa using hmem)]
          exact .inr ⟨p, offset, rfl, rfl, hshort, hoccurs⟩
    · left
      have hnil : server.drop pos = [] := List.drop_eq_nil_iff.mpr (Nat.le_of_not_lt hlt)
      rw [hnil, parseAlpn_nil]
      exact ⟨rfl, rfl⟩

end Cursor

/-- The two ways the callback ends. -/
theorem alpnSelectCallback_cases {w : PointerWidth} {fuel : ℕ} {server client : Slice w}
    (hserver : server.bytes.length < fuel) (hclient : client.bytes.length < fuel) :
    ((parseAlpn server.bytes).find? (· ∈ parseAlpn client.bytes) = none ∧
      alpnSelectCallback w fuel client (some server) = .ok ⟨sslTlsextErrNoack, none⟩) ∨
    ∃ proto offset, (parseAlpn server.bytes).find? (· ∈ parseAlpn client.bytes) = some proto ∧
      alpnSelectCallback w fuel client (some server) =
        .ok ⟨sslTlsextErrOk, some (offset, UInt8.ofNat proto.length)⟩ ∧
      (UInt8.ofNat proto.length).toNat = proto.length ∧ OccursAt proto client.bytes offset := by
  obtain ⟨hnone, hloop⟩ | ⟨proto, offset, hsome, hloop, hshort, hoccurs⟩ :=
    serverLoop_spec client.length_le hclient server.length_le fuel 0 (Nat.zero_le _) hserver
  · exact .inl ⟨hnone, hloop⟩
  · exact .inr ⟨proto, offset, hsome, hloop, Nat.mod_eq_of_lt hshort, hoccurs⟩

/-- No protocol of the server is found when the lists are disjoint. -/
theorem find?_mem_eq_none_iff {server client : List Bytes} :
    server.find? (· ∈ client) = none ↔ server.Disjoint client := by
  simp [List.find?_eq_none, List.Disjoint]

theorem mem_of_find?_mem {server client : List Bytes} {proto : Bytes}
    (h : server.find? (· ∈ client) = some proto) : proto ∈ server ∧ proto ∈ client :=
  ⟨List.mem_of_find?_eq_some h, by simpa using List.find?_some h⟩

/-- **Selection on any wires.** With as many rounds as the longer wire has bytes, the callback ends
without a read out of range or an overflow. It selects a protocol exactly when the server and the
client have one in common: the first one of the server that the client has, where it is in the wire
of the client. Otherwise it writes nothing. -/
theorem alpnSelectCallback_spec {w : PointerWidth} (fuel : ℕ) (server client : Slice w)
    (hserver : server.bytes.length < fuel) (hclient : client.bytes.length < fuel) :
    ∃ answer, alpnSelectCallback w fuel client (some server) = .ok answer ∧
      (answer.code = sslTlsextErrOk ↔
        ∃ proto, proto ∈ parseAlpn server.bytes ∧ proto ∈ parseAlpn client.bytes) ∧
      (answer.code = sslTlsextErrOk → ∃ proto offset outlen,
        (parseAlpn server.bytes).find? (· ∈ parseAlpn client.bytes) = some proto ∧
        answer.out = some (offset, outlen) ∧ outlen.toNat = proto.length ∧
        OccursAt proto client.bytes offset) ∧
      (answer.code ≠ sslTlsextErrOk → answer = ⟨sslTlsextErrNoack, none⟩) := by
  obtain ⟨hnone, hend⟩ | ⟨proto, offset, hsome, hend, houtlen, hoccurs⟩ :=
    alpnSelectCallback_cases hserver hclient
  · have hcode : ¬ sslTlsextErrNoack = sslTlsextErrOk := by decide
    refine ⟨_, hend, ⟨fun h => absurd h hcode, ?_⟩, fun h => absurd h hcode, fun _ => rfl⟩
    rintro ⟨proto, hs, hc⟩
    exact absurd hc (find?_mem_eq_none_iff.mp hnone hs)
  · refine ⟨_, hend, ⟨fun _ => ⟨proto, mem_of_find?_mem hsome⟩, fun _ => rfl⟩, fun _ => ?_,
      fun h => absurd rfl h⟩
    exact ⟨proto, offset, _, hsome, rfl, houtlen, hoccurs⟩

/-- The wire of a server with `h3` and a cut entry. -/
def sampleServerWire : Slice .w64 := ⟨[2, 0x68, 0x33, 9, 0x68], by decide⟩

/-- The wire of a client with an empty name, then `h3`. -/
def sampleClientWire : Slice .w64 := ⟨[0, 2, 0x68, 0x33], by decide⟩

theorem alpnSelectCallback_h3 :
    ∃ answer, alpnSelectCallback .w64 6 sampleClientWire (some sampleServerWire) = .ok answer ∧
      (answer.code ≠ sslTlsextErrOk → answer = ⟨sslTlsextErrNoack, none⟩) ∧
      answer = ⟨0, some (2, 2)⟩ := by
  obtain ⟨answer, hok, -, -, hno⟩ :=
    alpnSelectCallback_spec 6 sampleServerWire sampleClientWire (by decide) (by decide)
  refine ⟨answer, hok, hno, ?_⟩
  have hrun : alpnSelectCallback .w64 6 sampleClientWire (some sampleServerWire) =
      .ok ⟨0, some (2, 2)⟩ := by decide
  exact Except.ok.inj (hok.symm.trans hrun)

/-! ## The encoder -/

/-- `Vec::push` or `Vec::extend_from_slice`, which panic when the capacity overflows. -/
def extendVec (w : PointerWidth) (vec added : Bytes) : Except Exit Bytes :=
  if vec.length + added.length ≤ w.isizeMax then .ok (vec ++ added) else .error .overflow

/-- The wire of a list of protocols. The length of a name is narrowed to one byte. -/
def encodeAlpn (w : PointerWidth) (alpn : List Bytes) : Except Exit Bytes :=
  alpn.foldlM (fun wire proto => do
    let wire ← extendVec w wire [UInt8.ofNat proto.length]
    extendVec w wire proto) []

/-- The entry of a protocol. -/
def alpnEntry (proto : Bytes) : Bytes := UInt8.ofNat proto.length :: proto

/-- A wire as RFC 7301 Section 3.1 has it: entries of names of 1 to 255 bytes, up to its end. -/
def WellFormedAlpn (wire : Bytes) : Prop :=
  ∃ names : List Bytes, wire = (names.map alpnEntry).flatten ∧
    ∀ name ∈ names, 0 < name.length ∧ name.length < 256

section Encoder

variable {w : PointerWidth}

theorem of_extendVec {vec added out : Bytes} (h : extendVec w vec added = .ok out) :
    out = vec ++ added := by
  unfold extendVec at h
  split_ifs at h
  cases h
  rfl

theorem encodeAlpn_foldlM : ∀ {alpn : List Bytes} {wire out : Bytes},
    alpn.foldlM (fun wire proto => do
      let wire ← extendVec w wire [UInt8.ofNat proto.length]
      extendVec w wire proto) wire = .ok out →
    out = wire ++ (alpn.map alpnEntry).flatten
  | [], wire, out, h => by
    cases h
    simp
  | proto :: alpn, wire, out, h => by
    rw [List.foldlM_cons] at h
    obtain ⟨wire₂, h₂, h⟩ := bind_eq_ok.mp h
    obtain ⟨wire₁, h₁, h₂⟩ := bind_eq_ok.mp h₂
    rw [encodeAlpn_foldlM h, of_extendVec h₂, of_extendVec h₁]
    simp [alpnEntry]

/-- The encoder writes the entries one after another. -/
theorem encodeAlpn_eq {alpn : List Bytes} {wire : Bytes} (h : encodeAlpn w alpn = .ok wire) :
    wire = (alpn.map alpnEntry).flatten := by
  have hwire := encodeAlpn_foldlM h
  rwa [List.nil_append] at hwire

/-- Every protocol that is read has a length in one byte. -/
theorem length_lt_of_mem_parseAlpn {proto : Bytes} :
    ∀ (wire : Bytes), proto ∈ parseAlpn wire → proto.length < 256
  | [], h => by
    rw [parseAlpn_nil] at h
    cases h
  | len :: rest, h => by
    have hlen := len.toNat_lt
    rw [parseAlpn_cons] at h
    split_ifs at h
    · cases h
    · obtain rfl | h := List.mem_cons.mp h
      · rw [List.length_take]
        omega
      · exact length_lt_of_mem_parseAlpn _ h
termination_by wire => wire.length
decreasing_by
  rw [List.length_drop, List.length_cons]
  omega

/-- Entries of short names are read back. -/
theorem parseAlpn_entries : ∀ {alpn : List Bytes}, (∀ name ∈ alpn, name.length < 256) →
    parseAlpn (alpn.map alpnEntry).flatten = alpn
  | [], _ => parseAlpn_nil
  | name :: alpn, h => by
    have hshort := h name List.mem_cons_self
    have hbyte : (UInt8.ofNat name.length).toNat = name.length := Nat.mod_eq_of_lt hshort
    have hrec := parseAlpn_entries fun n hn => h n (List.mem_cons_of_mem _ hn)
    have hcons : ((name :: alpn).map alpnEntry).flatten =
        UInt8.ofNat name.length :: (name ++ (alpn.map alpnEntry).flatten) := rfl
    have hfit : ¬ (name ++ (alpn.map alpnEntry).flatten).length < name.length := by
      rw [List.length_append]
      omega
    rw [hcons, parseAlpn_cons, hbyte, if_neg hfit, List.take_left, List.drop_left, hrec]

/-- **When the encoding is decodable.** The protocols of the encoded wire are the configured ones,
and against every well-formed client selection answers with a configured protocol, and with none
exactly when the lists are disjoint, if and only if every name is below 256 bytes. -/
theorem encodeAlpn_sound_iff (alpn : List Bytes) (server : Slice w)
    (hencode : encodeAlpn w alpn = .ok server.bytes) :
    (parseAlpn server.bytes = alpn ∧
      ∀ (client : Slice w) (fuel : ℕ), WellFormedAlpn client.bytes →
        server.bytes.length < fuel → client.bytes.length < fuel →
        ∃ answer, alpnSelectCallback w fuel client (some server) = .ok answer ∧
          (∀ offset outlen, answer.out = some (offset, outlen) →
            (client.bytes.drop offset).take outlen.toNat ∈ alpn) ∧
          (answer.code = sslTlsextErrNoack ↔ alpn.Disjoint (parseAlpn client.bytes))) ↔
    ∀ name ∈ alpn, name.length < 256 := by
  constructor
  · rintro ⟨hparse, -⟩ name hname
    rw [← hparse] at hname
    exact length_lt_of_mem_parseAlpn _ hname
  · intro hshort
    have hparse : parseAlpn server.bytes = alpn := by
      rw [encodeAlpn_eq hencode]
      exact parseAlpn_entries hshort
    refine ⟨hparse, fun client fuel _ hserver hclient => ?_⟩
    obtain ⟨hnone, hend⟩ | ⟨proto, offset, hsome, hend, houtlen, -, hoccurs⟩ :=
      alpnSelectCallback_cases hserver hclient
    · rw [hparse, find?_mem_eq_none_iff] at hnone
      exact ⟨_, hend, fun _ _ hout => (by cases hout), fun _ => hnone, fun _ => rfl⟩
    · rw [hparse] at hsome
      obtain ⟨hs, hc⟩ := mem_of_find?_mem hsome
      have hcode : ¬ sslTlsextErrOk = sslTlsextErrNoack := by decide
      refine ⟨_, hend, ?_, fun h => absurd h hcode, fun hdisjoint => ?_⟩
      · rintro _ _ ⟨⟩
        rw [houtlen, hoccurs]
        exact hs
      · exact absurd hc (hdisjoint hs)

end Encoder

/-- The server with `h3` alone. -/
theorem encodeAlpn_h3 :
    encodeAlpn .w64 [[0x68, 0x33]] = .ok [2, 0x68, 0x33] ∧
    parseAlpn [2, 0x68, 0x33] = [[0x68, 0x33]] :=
  ⟨by decide, ((encodeAlpn_sound_iff [[0x68, 0x33]] (⟨[2, 0x68, 0x33], by decide⟩ : Slice .w64)
    (by decide)).mpr (by decide)).1⟩

/-- A name of 256 bytes. -/
def longName : Bytes := List.replicate 256 0x61

/-- **A name of 256 bytes** is encoded with the length 0, so that the wire says the empty name and
then names that were not configured; a client that has one of these is answered with it. -/
theorem encodeAlpn_long :
    encodeAlpn .w64 [longName] = .ok (0 :: longName) ∧ parseAlpn (0 :: longName) ≠ [longName] ∧
    alpnSelectCallback .w64 300 ⟨alpnEntry (longName.take 97), by decide⟩
      (some ⟨0 :: longName, by decide +kernel⟩) = .ok ⟨sslTlsextErrOk, some (1, 97)⟩ ∧
    WellFormedAlpn (alpnEntry (longName.take 97)) ∧ longName.take 97 ∉ [longName] := by
  refine ⟨by decide +kernel, fun h => ?_, by decide +kernel, ?_, by decide⟩
  · have hlen : longName.length < 256 :=
      length_lt_of_mem_parseAlpn (0 :: longName) (by rw [h]; simp)
    exact absurd hlen (by decide +kernel)
  · exact ⟨[longName.take 97], by simp, by decide⟩

end Ngtcp2Rs
