import Ngtcp2Rs.Lib.Bytes
import Ngtcp2Rs.Types

/-!
# Variable-length integers

`ngtcp2/src/varint.rs`. The two high bits of the first byte give the size; `encode` writes a value in
the smallest size that holds it, and `decode` reads any size.

* `decode_eq`: what `decode` answers on any buffer.
* `decode_encode`: it reads back a value written in any size.
* `encodeToVec_eq`: `encode_to_vec` appends the value in its smallest size.
* `varint_codec`: the two are inverse, up to values that are not written in their smallest size.
-/

namespace Ngtcp2Rs

open Lib

namespace Varint

/-- The value in the first `len` bytes of `buf`, without the two bits that give the size. -/
def value (len : ℕ) (first : UInt8) (buf : Bytes) : Except Exit ℕ :=
  match len with
  | 1 => pure first.toNat
  | 2 => do
    let v := fromBe [← index buf 0, ← index buf 1]
    return v &&& 0x3fff
  | 4 => do
    let v := fromBe [← index buf 0, ← index buf 1, ← index buf 2, ← index buf 3]
    return v &&& 0x3fffffff
  | _ => do
    let v := fromBe [← index buf 0, ← index buf 1, ← index buf 2, ← index buf 3,
      ← index buf 4, ← index buf 5, ← index buf 6, ← index buf 7]
    return v &&& 0x3fffffffffffffff

/-- The value at the start of `buf` and its length in bytes. -/
def decode (w : PointerWidth) (buf : Bytes) : Except Exit (ℕ × ℕ) := do
  let first ← getAt buf 0
  let len ← shl w (first >>> 6).toNat
  if buf.length < len then .error .none
  else do
    let value ← value len first buf
    return (value, len)

/-- `MAX`: the values have 62 bits. -/
def maxValue : ℕ := 2 ^ 62 - 1

/-- The number of bytes of the smallest size that holds `n`. -/
def encodedLen (n : UInt64) : ℕ :=
  if n < 64 then 1 else if n < 16384 then 2 else if n < 1073741824 then 4 else 8

/-- `buf[..v.len()].copy_from_slice(v)`. -/
def copyTo (buf v : Bytes) : Except Exit Bytes :=
  if v.length ≤ buf.length then .ok (v ++ buf.drop v.length) else .error .outOfRange

/-- The bytes of `n` in `len` bytes, with the two bits that give the size. -/
def taggedBytes (len : ℕ) (n : UInt64) : Bytes :=
  match len with
  | 1 => [n.toUInt8]
  | 2 => toBe 2 (n.toUInt16 ||| 0x4000).toNat
  | 4 => toBe 4 (n.toUInt32 ||| 0x80000000).toNat
  | _ => toBe 8 (n ||| 0xc000000000000000).toNat

/-- Write `n` at the start of `buf`. The two assertions are on the value and on the buffer. -/
def encode (buf : Bytes) (n : UInt64) : Except Exit (Bytes × ℕ) := do
  let len := encodedLen n
  if maxValue < n.toNat then .error .outOfRange
  else if buf.length < len then .error .outOfRange
  else return (← copyTo buf (taggedBytes len n), len)

/-- Append `n` to `buf`. -/
def encodeToVec (n : UInt64) (buf : Bytes) : Except Exit Bytes := do
  let start := buf.length
  let buf := buf ++ List.replicate (encodedLen n) 0
  let (tail, _) ← encode (buf.drop start) n
  return buf.take start ++ tail

/-! ## The sizes -/

/-- The sizes of a variable-length integer. -/
inductive Size where
  | one
  | two
  | four
  | eight
  deriving DecidableEq, Repr

namespace Size

/-- The two high bits of the first byte. -/
def tag : Size → ℕ
  | one => 0
  | two => 1
  | four => 2
  | eight => 3

/-- The length in bytes. -/
def len (k : Size) : ℕ := 2 ^ k.tag

/-- The values of this size are those below. -/
def bound (k : Size) : ℕ := 2 ^ (8 * k.len - 2)

/-- The size the first byte announces. -/
def ofFirst (first : UInt8) : Size :=
  match (first >>> 6).toNat with
  | 0 => one
  | 1 => two
  | 2 => four
  | _ => eight

/-- The value `n`, written in size `k`. -/
def encode (k : Size) (n : ℕ) : Bytes := toBe k.len (k.tag * k.bound + n)

theorem tag_injective : Function.Injective tag := by
  intro a b h
  cases a <;> cases b <;> first | rfl | cases h

theorem len_pos (k : Size) : 0 < k.len := Nat.two_pow_pos _

@[simp] theorem length_encode (k : Size) (n : ℕ) : (k.encode n).length = k.len := length_toBe _ _

end Size

theorem toNat_shiftRight_six (first : UInt8) : (first >>> 6).toNat = first.toNat / 64 := by
  rw [UInt8.toNat_shiftRight, Nat.shiftRight_eq_div_pow]
  rfl

theorem tag_ofFirst (first : UInt8) : (Size.ofFirst first).tag = (first >>> 6).toNat := by
  have hlt : (first >>> 6).toNat < 4 := by
    have h := first.toNat_lt
    rw [toNat_shiftRight_six]
    exact Nat.div_lt_of_lt_mul h
  unfold Size.ofFirst
  split
  · next h => rw [h]; rfl
  · next h => rw [h]; rfl
  · next h => rw [h]; rfl
  · next h0 h1 h2 =>
    have h3 : (first >>> 6).toNat = 3 := by
      have : (first >>> 6).toNat ≠ 0 := h0
      have : (first >>> 6).toNat ≠ 1 := h1
      have : (first >>> 6).toNat ≠ 2 := h2
      omega
    rw [h3]
    rfl

/-- The bytes that the size announces are there, and reading them does not panic. -/
theorem value_eq {k : Size} {first : UInt8} {rest : Bytes} (htag : first.toNat / 64 = k.tag)
    (hlen : k.len ≤ (first :: rest).length) :
    value k.len first (first :: rest) =
      .ok (fromBe ((first :: rest).take k.len) % k.bound) := by
  cases k with
  | one =>
    have hvalue : fromBe [first] = first.toNat := by simp [fromBe]
    change Except.ok first.toNat = Except.ok (fromBe [first] % 64)
    rw [hvalue, Nat.mod_eq_of_lt]
    have h0 : first.toNat / 64 = 0 := htag
    omega
  | two =>
    rcases rest with _ | ⟨b, _⟩
    · simp [Size.len, Size.tag] at hlen
    · exact congrArg Except.ok (Nat.and_two_pow_sub_one_eq_mod (fromBe [first, b]) 14)
  | four =>
    rcases rest with _ | ⟨b, _ | ⟨c, _ | ⟨d, _⟩⟩⟩
    iterate 3 simp [Size.len, Size.tag] at hlen
    exact congrArg Except.ok (Nat.and_two_pow_sub_one_eq_mod (fromBe [first, b, c, d]) 30)
  | eight =>
    rcases rest with _ | ⟨b, _ | ⟨c, _ | ⟨d, _ | ⟨e, _ | ⟨f, _ | ⟨g, _ | ⟨h, _⟩⟩⟩⟩⟩⟩⟩
    iterate 7 simp [Size.len, Size.tag] at hlen
    exact congrArg Except.ok
      (Nat.and_two_pow_sub_one_eq_mod (fromBe [first, b, c, d, e, f, g, h]) 62)

/-- `decode` takes the size from the first byte and the value from the other bits. -/
theorem decode_eq (w : PointerWidth) (first : UInt8) (rest : Bytes) :
    decode w (first :: rest) =
      if (first :: rest).length < (Size.ofFirst first).len then .error .none
      else .ok (fromBe ((first :: rest).take (Size.ofFirst first).len) %
        (Size.ofFirst first).bound, (Size.ofFirst first).len) := by
  have htag := tag_ofFirst first
  have hshl : shl w (first >>> 6).toNat = .ok (Size.ofFirst first).len := by
    rw [← htag, shl_ok]
    · rfl
    · cases Size.ofFirst first <;> decide
  have hget : getAt (first :: rest) 0 = .ok first := rfl
  have hfirst : first.toNat / 64 = (Size.ofFirst first).tag := by
    rw [htag, toNat_shiftRight_six]
  unfold decode
  rw [hget, ok_bind, hshl, ok_bind]
  split_ifs with hlen
  · rfl
  · rw [value_eq hfirst (Nat.le_of_not_lt hlen)]
    rfl

theorem safe_decode (w : PointerWidth) (buf : Bytes) : Safe (decode w buf) := by
  cases buf with
  | nil => exact safe_none
  | cons first rest =>
    rw [decode_eq]
    split_ifs
    · exact safe_none
    · exact safe_ok _

/-- The first byte announces the size the value was written in. -/
theorem encode_eq_cons (k : Size) {n : ℕ} (hn : n < k.bound) :
    ∃ first tail, k.encode n = first :: tail ∧ Size.ofFirst first = k := by
  obtain ⟨m, hm⟩ : ∃ m, k.len = m + 1 := Nat.exists_eq_succ_of_ne_zero k.len_pos.ne'
  have hbound : k.bound = 256 ^ m * 64 := by
    cases k <;> cases hm <;> rfl
  have hhigh : (k.tag * k.bound + n) / 256 ^ m = k.tag * 64 + n / 256 ^ m := by
    rw [hbound, mul_comm (256 ^ m), ← mul_assoc, mul_comm _ (256 ^ m)]
    exact Nat.mul_add_div (Nat.pow_pos (by decide)) _ _
  have hlow : n / 256 ^ m < 64 := Nat.div_lt_of_lt_mul (hbound ▸ hn)
  have htag : k.tag < 4 := by cases k <;> decide
  refine ⟨UInt8.ofNat (k.tag * 64 + n / 256 ^ m), toBe m (k.tag * k.bound + n), ?_, ?_⟩
  · rw [Size.encode, hm, toBe, hhigh]
  · apply Size.tag_injective
    rw [tag_ofFirst, toNat_shiftRight_six]
    change (k.tag * 64 + n / 256 ^ m) % 256 / 64 = k.tag
    generalize n / 256 ^ m = q at hlow
    omega

/-- **Any size is read back.** A value written in any size that holds it is decoded to itself,
whatever follows it. -/
theorem decode_encode (w : PointerWidth) (k : Size) {n : ℕ} (hn : n < k.bound) (rest : Bytes) :
    decode w (k.encode n ++ rest) = .ok (n, k.len) := by
  obtain ⟨first, tail, hcons, hk⟩ := encode_eq_cons k hn
  have hlen : k.len = (k.encode n).length := (k.length_encode n).symm
  have hbound : k.tag * k.bound + n < 256 ^ k.len := by
    cases k <;> simp [Size.tag, Size.bound, Size.len] at hn ⊢ <;> omega
  have hvalue : fromBe (k.encode n) % k.bound = n := by
    rw [Size.encode, fromBe_toBe, Nat.mod_eq_of_lt hbound, Nat.mul_add_mod_self_right,
      Nat.mod_eq_of_lt hn]
  have htake : (k.encode n ++ rest).take k.len = k.encode n := by
    rw [hlen, List.take_left]
  have hnot : ¬ (k.encode n ++ rest).length < k.len := by
    rw [List.length_append, ← hlen]
    omega
  rw [hcons, List.cons_append] at htake hnot ⊢
  rw [decode_eq, hk, if_neg hnot, htake, ← hcons, hvalue]

/-! ## The encoder -/

/-- The smallest size that holds `n`. -/
def Size.smallest (n : ℕ) : Size :=
  if n < 64 then .one else if n < 16384 then .two else if n < 1073741824 then .four else .eight

theorem encodedLen_eq (n : UInt64) : encodedLen n = (Size.smallest n.toNat).len := by
  unfold encodedLen Size.smallest
  simp only [UInt64.lt_iff_toNat_lt, UInt64.reduceToNat]
  split_ifs <;> rfl

theorem lt_bound_smallest {n : ℕ} (h : n ≤ maxValue) : n < (Size.smallest n).bound := by
  unfold maxValue at h
  unfold Size.smallest
  split_ifs <;> simp [Size.bound, Size.len, Size.tag] <;> omega

theorem len_smallest_le {k : Size} {n : ℕ} (h : n < k.bound) : (Size.smallest n).len ≤ k.len := by
  unfold Size.smallest
  cases k <;> simp [Size.bound, Size.len, Size.tag] at h <;> split_ifs <;>
    simp [Size.len, Size.tag]

theorem len_injective : Function.Injective Size.len := by
  intro a b h
  exact Size.tag_injective (Nat.pow_right_injective le_rfl h)

/-- The tag is put over the value, which leaves its two high bits free. -/
theorem or_tag {n i : ℕ} (h : n < 2 ^ i) (t : ℕ) : n ||| 2 ^ i * t = t * 2 ^ i + n := by
  rw [Nat.or_comm, ← Nat.two_pow_add_eq_or_of_lt h, Nat.mul_comm]

theorem taggedBytes_eq {n : UInt64} (hn : n.toNat ≤ maxValue) :
    taggedBytes (encodedLen n) n = (Size.smallest n.toNat).encode n.toNat := by
  have hbound := lt_bound_smallest hn
  rw [encodedLen_eq]
  cases hk : Size.smallest n.toNat with
  | one => simp [taggedBytes, Size.encode, toBe, Size.len, Size.tag]
  | two =>
    rw [hk] at hbound
    have hor : (n.toUInt16 ||| 0x4000).toNat = Size.two.tag * Size.two.bound + n.toNat := by
      rw [UInt16.toNat_or, UInt64.toNat_toUInt16, Nat.mod_eq_of_lt (lt_trans hbound (by decide))]
      exact or_tag hbound 1
    exact congrArg (toBe 2) hor
  | four =>
    rw [hk] at hbound
    have hor : (n.toUInt32 ||| 0x80000000).toNat = Size.four.tag * Size.four.bound + n.toNat := by
      rw [UInt32.toNat_or, UInt64.toNat_toUInt32, Nat.mod_eq_of_lt (lt_trans hbound (by decide))]
      exact or_tag hbound 2
    exact congrArg (toBe 4) hor
  | eight =>
    rw [hk] at hbound
    have hor : (n ||| 0xc000000000000000).toNat =
        Size.eight.tag * Size.eight.bound + n.toNat := by
      rw [UInt64.toNat_or]
      exact or_tag hbound 3
    exact congrArg (toBe 8) hor

theorem encode_eq {buf : Bytes} {n : UInt64} (hn : n.toNat ≤ maxValue)
    (hbuf : encodedLen n ≤ buf.length) :
    encode buf n = .ok ((Size.smallest n.toNat).encode n.toNat ++ buf.drop (encodedLen n),
      encodedLen n) := by
  have hlen : (taggedBytes (encodedLen n) n).length = encodedLen n := by
    rw [taggedBytes_eq hn, Size.length_encode, encodedLen_eq]
  unfold encode copyTo
  simp only
  rw [if_neg (Nat.not_lt.mpr hn), if_neg (Nat.not_lt.mpr hbuf), hlen, if_pos hbuf,
    taggedBytes_eq hn]
  rfl

/-- **`encode_to_vec` appends a value in its smallest size.** -/
theorem encodeToVec_eq {n : UInt64} (hn : n.toNat ≤ maxValue) (buf : Bytes) :
    encodeToVec n buf = .ok (buf ++ (Size.smallest n.toNat).encode n.toNat) := by
  have hbuf : encodedLen n ≤ (List.replicate (encodedLen n) (0 : UInt8)).length := by simp
  unfold encodeToVec
  simp only [List.drop_left, List.take_left]
  rw [encode_eq hn hbuf, ok_bind]
  simp
  rfl

/-- The size is what is left of the number over the value. -/
theorem fromBe_div_bound {first : UInt8} {tail : Bytes}
    (hlen : (first :: tail).length = (Size.ofFirst first).len) :
    fromBe (first :: tail) / (Size.ofFirst first).bound = (Size.ofFirst first).tag := by
  have htag := (tag_ofFirst first).trans (toNat_shiftRight_six first)
  have hbound : (Size.ofFirst first).bound = 256 ^ tail.length * 64 := by
    have hm : tail.length = (Size.ofFirst first).len - 1 := by
      rw [← hlen]
      rfl
    rw [hm]
    cases Size.ofFirst first <;> rfl
  have hpos : 0 < 256 ^ tail.length := Nat.pow_pos (by decide)
  rw [hbound, fromBe, ← Nat.div_div_eq_div_mul, Nat.mul_comm, Nat.mul_add_div hpos,
    Nat.div_eq_of_lt (fromBe_lt tail), Nat.add_zero, htag]

/-- Bytes that `decode` reads are a value in the size that they announce. -/
theorem take_of_decode {w : PointerWidth} {b : Bytes} {v k : ℕ} (h : decode w b = .ok (v, k)) :
    ∃ size : Size, k = size.len ∧ k ≤ b.length ∧ v < size.bound ∧ b.take k = size.encode v := by
  cases b with
  | nil => cases h
  | cons first rest =>
    rw [decode_eq] at h
    split_ifs at h with hlen
    obtain ⟨rfl, rfl⟩ := Prod.mk.inj (Except.ok.inj h)
    have hbound : 0 < (Size.ofFirst first).bound := Nat.two_pow_pos _
    refine ⟨Size.ofFirst first, rfl, Nat.le_of_not_lt hlen, Nat.mod_lt _ hbound, ?_⟩
    obtain ⟨m, hm⟩ := Nat.exists_eq_succ_of_ne_zero (Size.ofFirst first).len_pos.ne'
    have htake : (first :: rest).take (Size.ofFirst first).len = first :: rest.take m := by
      rw [hm, List.take_succ_cons]
    have hlength : (first :: rest.take m).length = (Size.ofFirst first).len := by
      rw [← htake, List.length_take]
      omega
    rw [htake, Size.encode, ← fromBe_div_bound hlength, Nat.div_add_mod', ← hlength,
      toBe_fromBe]

theorem decode_eq_none_iff {w : PointerWidth} {b : Bytes} :
    decode w b = .error .none ↔ ∀ first ∈ b.head?, b.length < 2 ^ (first >>> 6).toNat := by
  cases b with
  | nil => exact ⟨fun _ _ h => (by cases h), fun _ => rfl⟩
  | cons first rest =>
    rw [decode_eq]
    simp only [List.head?_cons, Option.mem_some_iff, forall_eq', ← tag_ofFirst]
    change _ ↔ _ < (Size.ofFirst first).len
    split_ifs with h
    · exact ⟨fun _ => h, fun _ => rfl⟩
    · exact ⟨fun h' => (by cases h'), fun h' => absurd h' h⟩

theorem le_maxValue {k : Size} {v : ℕ} (h : v < k.bound) : v ≤ maxValue := by
  have hle : k.bound ≤ maxValue + 1 := by cases k <;> decide
  omega

/-- A value that was read is written back as it was if and only if it was in its smallest size. -/
theorem encodeToVec_eq_iff {k : Size} {v : ℕ} (h : v < k.bound) :
    encodeToVec (UInt64.ofNat v) [] = .ok (k.encode v) ↔
      encodedLen (UInt64.ofNat v) = k.len := by
  have hmax := le_maxValue h
  have hv : (UInt64.ofNat v).toNat = v :=
    UInt64.toNat_ofNat_of_lt' (lt_of_le_of_lt hmax (by decide))
  rw [encodeToVec_eq (hv.symm ▸ hmax), encodedLen_eq, hv, List.nil_append, Except.ok.injEq]
  constructor
  · intro heq
    have hlen := congrArg List.length heq
    rwa [Size.length_encode, Size.length_encode] at hlen
  · intro hlen
    rw [len_injective hlen]

/-- **The codec.** A value is appended in its smallest size and read back, whatever follows it.
Reading fails exactly on a buffer that is shorter than its first byte announces; what it reads is in
range, depends only on the bytes read, and is written back as it was exactly when it was in its
smallest size. -/
theorem varint_codec (w : PointerWidth) :
    (∀ (n : UInt64) (before after : Bytes), n.toNat ≤ maxValue →
      ∃ bytes, encodeToVec n before = .ok (before ++ bytes) ∧ bytes.length = encodedLen n ∧
        decode w (bytes ++ after) = .ok (n.toNat, encodedLen n)) ∧
    ∀ b : Bytes, Safe (decode w b) ∧
      (decode w b = .error .none ↔
        ∀ first ∈ b.head?, b.length < 2 ^ (first >>> 6).toNat) ∧
      ∀ v k, decode w b = .ok (v, k) →
        v ≤ maxValue ∧ k ≤ b.length ∧
        (∀ b' : Bytes, b'.take k = b.take k → decode w b' = .ok (v, k)) ∧
        encodedLen (UInt64.ofNat v) ≤ k ∧
        (encodeToVec (UInt64.ofNat v) [] = .ok (b.take k) ↔ encodedLen (UInt64.ofNat v) = k) := by
  refine ⟨fun n before after hn => ?_, fun b => ⟨safe_decode w b, decode_eq_none_iff, ?_⟩⟩
  · refine ⟨_, encodeToVec_eq hn before, ?_, ?_⟩
    · rw [Size.length_encode, encodedLen_eq]
    · rw [decode_encode w _ (lt_bound_smallest hn), encodedLen_eq]
  · intro v k h
    obtain ⟨size, rfl, hlen, hv, htake⟩ := take_of_decode h
    have hmax := le_maxValue hv
    have hto : (UInt64.ofNat v).toNat = v :=
      UInt64.toNat_ofNat_of_lt' (lt_of_le_of_lt hmax (by decide))
    refine ⟨hmax, hlen, fun b' hb' => ?_, ?_, ?_⟩
    · rw [← List.take_append_drop size.len b', hb', htake]
      exact decode_encode w size hv _
    · rw [encodedLen_eq, hto]
      exact len_smallest_le hv
    · rw [htake]
      exact encodeToVec_eq_iff hv

end Varint

end Ngtcp2Rs
