import Mathlib.Data.Int.Order.Basic
import Mathlib.Data.Vector.Basic

/-!
# Basic types

The types of `ngtcp2/src/types.rs`, the errors of `ngtcp2/src/error.rs` and their classification.
A connection ID carries its length bound, so that one longer than 20 bytes cannot be built.
-/

namespace Ngtcp2Rs

/-- Stream IDs (`i64`). -/
abbrev StreamId : Type := ℤ

/-- Byte strings. -/
abbrev Bytes : Type := List UInt8

/-! ## Addresses and paths -/

/-- A socket address. -/
inductive SocketAddr where
  | v4 (ip : BitVec 32) (port : BitVec 16)
  | v6 (ip : BitVec 128) (port : BitVec 16) (flowinfo scopeId : BitVec 32)
  deriving DecidableEq, Repr

/-- A network path. -/
structure PathInfo where
  localAddr : SocketAddr
  remote : SocketAddr
  deriving DecidableEq, Repr

/-! ## Versions -/

/-- The supported versions. -/
inductive QuicVersion where
  | v1
  | v2
  deriving DecidableEq, Repr

/-- The version field of a packet. -/
def QuicVersion.fromU32 (version : UInt32) : Option QuicVersion :=
  if version = 0x00000001 then some .v1 else if version = 0x6b3343cf then some .v2 else none

/-! ## Connection IDs -/

/-- `NGTCP2_MAX_CIDLEN`. -/
def maxCidLen : ℕ := 20

/-- `NGTCP2_MIN_CIDLEN`. -/
def minCidLen : ℕ := 1

/-- A connection ID: at most `maxCidLen` bytes. -/
structure ConnectionId where
  data : Bytes
  length_le : data.length ≤ maxCidLen
  deriving DecidableEq

namespace ConnectionId

/-- A connection ID from bytes, `none` when there are too many. -/
def new (data : Bytes) : Option ConnectionId :=
  if h : data.length ≤ maxCidLen then some ⟨data, h⟩ else none

/-- The zero-length connection ID. -/
def empty : ConnectionId := ⟨[], Nat.zero_le _⟩

instance : Inhabited ConnectionId := ⟨empty⟩

/-- The length in bytes. -/
def len (c : ConnectionId) : ℕ := c.data.length

/-- The connection ID is zero-length. -/
def isEmpty (c : ConnectionId) : Bool := c.data.isEmpty

/-- A random connection ID of length `len`; `fill` is what the random generator answers. -/
def random (len : ℕ) (fill : Option (List.Vector UInt8 len)) : Option ConnectionId :=
  if len < minCidLen ∨ maxCidLen < len then none else fill.bind fun v => new v.toList

@[ext] theorem ext' {a b : ConnectionId} (h : a.data = b.data) : a = b := by
  cases a; cases b; simpa using h

theorem new_eq_some {data : Bytes} {c : ConnectionId} : new data = some c ↔ c.data = data := by
  unfold new
  split_ifs with h
  · constructor
    · rintro ⟨⟩; rfl
    · intro hc; rw [Option.some.injEq]; exact ext' hc.symm
  · constructor
    · intro hc; cases hc
    · intro hc; exact absurd (hc ▸ c.length_le) h

@[simp] theorem new_data (c : ConnectionId) : new c.data = some c := new_eq_some.mpr rfl

theorem isEmpty_iff {c : ConnectionId} : c.isEmpty = true ↔ c = empty := by
  constructor
  · intro h; exact ext' (List.isEmpty_iff.mp h)
  · rintro rfl; rfl

theorem len_random {len : ℕ} {fill : Option (List.Vector UInt8 len)} {c : ConnectionId}
    (h : random len fill = some c) : c.len = len := by
  unfold random at h
  split_ifs at h
  obtain ⟨v, -, hv⟩ := Option.bind_eq_some_iff.mp h
  rw [ConnectionId.len, new_eq_some.mp hv, v.toList_length]

end ConnectionId

/-! ## Errors -/

/-- `NGTCP2_ERR_STREAM_DATA_BLOCKED`. -/
def errStreamDataBlocked : ℤ := -208
/-- `NGTCP2_ERR_STREAM_SHUT_WR`. -/
def errStreamShutWr : ℤ := -219
/-- `NGTCP2_ERR_STREAM_NOT_FOUND`. -/
def errStreamNotFound : ℤ := -220
/-- `NGTCP2_ERR_CLOSING`. -/
def errClosing : ℤ := -223
/-- `NGTCP2_ERR_DRAINING`. -/
def errDraining : ℤ := -224
/-- `NGTCP2_ERR_DISCARD_PKT`. -/
def errDiscardPkt : ℤ := -226
/-- `NGTCP2_ERR_WRITE_MORE`. -/
def errWriteMore : ℤ := -230
/-- `NGTCP2_ERR_RETRY`. -/
def errRetry : ℤ := -231
/-- `NGTCP2_ERR_DROP_CONN`. -/
def errDropConn : ℤ := -232
/-- `NGTCP2_ERR_IDLE_CLOSE`. -/
def errIdleClose : ℤ := -238

/-- The errors of the crate. The text `ngtcp2_strerror` gives with a code is left out. -/
inductive Error where
  | ngtcp2 (code : ℤ)
  | invalidArgument (msg : String)
  | connectionClosed
  | streamDataBlocked (id : StreamId)
  | streamShutWr (id : StreamId)
  | internal (msg : String)
  deriving DecidableEq, Repr

/-- What an error means for the connection. -/
inductive ConnectionErrorKind where
  | ignore
  | silentDrop
  | terminal
  | transportClose
  | applicationClose
  | internal
  deriving DecidableEq, Repr

namespace Error

/-- ngtcp2 asks for a Retry packet. -/
def isRetryRequired : Error → Bool
  | ngtcp2 code => code = errRetry
  | _ => false

/-- The class of an error. -/
def classifyConnectionError : Error → ConnectionErrorKind
  | ngtcp2 code =>
    if code = errDiscardPkt then .ignore
    else if code = errDropConn ∨ code = errIdleClose ∨ code = errRetry then .silentDrop
    else if code = errDraining ∨ code = errClosing then .terminal
    else .transportClose
  | streamDataBlocked _ | streamShutWr _ => .ignore
  | connectionClosed => .terminal
  | invalidArgument _ | internal _ => .internal

end Error

end Ngtcp2Rs
