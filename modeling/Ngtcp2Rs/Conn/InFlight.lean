import Ngtcp2Rs.Lib.Map
import Ngtcp2Rs.Types

/-!
# In-flight stream data

`InFlightStreamData` of `ngtcp2/src/conn.rs`: ngtcp2 keeps pointers into the buffers it was handed
until their bytes are acknowledged, so the bytes must stay where they are. A `Vec<u8>` is a
`Buffer` with the identity of its allocation; `Buffer.extend` gives it a new one when its capacity
does not suffice, as `Vec::extend_from_slice` does. Subtractions that would underflow, and slices
that would start past their end, are `none`.

Lengths are unbounded here: an allocation that cannot be made ends the process.
-/

namespace Ngtcp2Rs

open Lib

/-- A `Vec<u8>`: its allocation, its capacity and its content. -/
structure Buffer where
  id : ℕ
  capacity : ℕ
  bytes : Bytes
  deriving DecidableEq, Repr

/-- The allocator: the capacity it gives to the allocation `id` of which `n` bytes are asked. -/
structure Allocator where
  capacity : ℕ → ℕ → ℕ
  le_capacity : ∀ id n, n ≤ capacity id n

/-- `Vec::with_capacity`, with `next` as the new identity. -/
def Buffer.withCapacity (al : Allocator) (next n : ℕ) : Buffer := ⟨next, al.capacity next n, []⟩

/-- `Vec::extend_from_slice`: in place while the capacity suffices. -/
def Buffer.extend (al : Allocator) (next : ℕ) (b : Buffer) (data : Bytes) : Buffer × ℕ :=
  let n := b.bytes.length + data.length
  if n ≤ b.capacity then ({ b with bytes := b.bytes ++ data }, next)
  else (⟨next, al.capacity next (max n (2 * b.capacity)), b.bytes ++ data⟩, next + 1)

/-- A subtraction of unsigned integers. -/
def checkedSub (a b : ℕ) : Option ℕ := if b ≤ a then some (a - b) else none

/-- A buffer that was replaced, kept until the stream is acknowledged up to `stop`. -/
structure RetiredBuffer where
  data : Buffer
  stop : ℕ
  deriving DecidableEq, Repr

/-- Stream data that was sent and is not acknowledged. `data[start..]` begins at stream offset
`offset`. -/
structure InFlightStreamData where
  offset : ℕ
  data : Buffer
  start : ℕ
  retired : List RetiredBuffer
  deriving DecidableEq, Repr

/-- The result of appending. -/
structure Appended where
  entry : InFlightStreamData
  start : ℕ
  stop : ℕ
  capacity : ℕ
  next : ℕ

namespace InFlightStreamData

/-- No data yet; `Vec::new()` has no capacity. -/
def new (next : ℕ) : InFlightStreamData := ⟨0, ⟨next, 0, []⟩, 0, []⟩

/-- Acknowledge the stream up to `offset`. -/
def ackUntil (e : InFlightStreamData) (offset : ℕ) : Option InFlightStreamData :=
  if offset ≤ e.offset then some e
  else do
    let unacked ← checkedSub e.data.bytes.length e.start
    let acked := min (offset - e.offset) unacked
    let e := { e with offset := e.offset + acked, start := e.start + acked }
    let e :=
      if e.start = e.data.bytes.length then { e with data := { e.data with bytes := [] }, start := 0 }
      else e
    some { e with retired := e.retired.filter fun r => e.offset < r.stop }

/-- Make room for `n` more bytes: a buffer that is too small is retired, not reallocated. -/
def reserve (al : Allocator) (next : ℕ) (e : InFlightStreamData) (n : ℕ) :
    Option (InFlightStreamData × ℕ) :=
  if e.data.capacity < e.data.bytes.length + n then
    let needed := e.data.bytes.length + n
    let newData := Buffer.withCapacity al next (max needed (2 * e.data.capacity))
    if e.data.bytes.isEmpty then some ({ e with data := newData }, next + 1)
    else do
      let unacked ← checkedSub e.data.bytes.length e.start
      let (newData, next) := newData.extend al (next + 1) (e.data.bytes.drop e.start)
      some ({ e with
        data := newData
        start := 0
        retired := e.retired ++ [⟨e.data, e.offset + unacked⟩] }, next)
  else some (e, next)

/-- Append data; the range of the new bytes is returned. `capacity` records how much the buffer could
hold when the bytes were put into it. -/
def append (al : Allocator) (next : ℕ) (e : InFlightStreamData) (data : Bytes) :
    Option Appended := do
  let (e, next) ← e.reserve al next data.length
  let start := e.data.bytes.length
  let (buf, next) := e.data.extend al next data
  some ⟨{ e with data := buf }, start, buf.bytes.length, e.data.capacity, next⟩

/-- Drop what was not written from the end. -/
def truncateUnwritten (e : InFlightStreamData) (len : ℕ) : InFlightStreamData :=
  { e with data := { e.data with bytes := e.data.bytes.take (e.start + len) } }

end InFlightStreamData

/-- What one call handed to ngtcp2: the bytes, where they are, and what the call computed with. -/
structure Handed where
  id : StreamId
  /-- the data of the caller -/
  data : Bytes
  /-- the bytes of the range -/
  offered : Bytes
  buf : ℕ
  start : ℕ
  /-- the capacity of the buffer before the data was appended -/
  capacity : ℕ
  /-- the start of the unacknowledged data when the unwritten rest was dropped -/
  entryStart : ℕ
  deriving DecidableEq, Repr

/-- The stream data a connection holds for ngtcp2, and the next buffer identity. -/
structure ConnectionUserData where
  inFlightStreamData : Map StreamId InFlightStreamData
  next : ℕ

namespace ConnectionUserData

/-- Nothing sent. -/
def new : ConnectionUserData := ⟨∅, 0⟩

/-- The entry of a stream, created on the first write. -/
def entry (u : ConnectionUserData) (id : StreamId) : InFlightStreamData × ℕ :=
  match u.inFlightStreamData.lookup id with
  | some e => (e, u.next)
  | none => (.new u.next, u.next + 1)

/-- The buffer side of `write_stream_with_flags`: the data is appended, the new range is handed to
ngtcp2, and what ngtcp2 did not take (`written`) is dropped again. -/
def writeStream (al : Allocator) (u : ConnectionUserData) (id : StreamId) (data : Bytes)
    (written : Option ℕ) : Option (ConnectionUserData × Handed) := do
  let (e, next) := u.entry id
  let r ← e.append al next data
  let offered := (r.entry.data.bytes.drop r.start).take (r.stop - r.start)
  let e := r.entry.truncateUnwritten (r.start - r.entry.start + written.getD 0)
  some (⟨u.inFlightStreamData.insert id e, r.next⟩,
    ⟨id, data, offered, r.entry.data.id, r.start, r.capacity, r.entry.start⟩)

/-- `u64::saturating_add`. -/
def saturatingAdd (a b : ℕ) : ℕ := min (a + b) (2 ^ 64 - 1)

/-- Release acknowledged data. -/
def ackedStreamData (u : ConnectionUserData) (id : StreamId) (offset datalen : ℕ) :
    Option ConnectionUserData :=
  match u.inFlightStreamData.lookup id with
  | none => some u
  | some e => do
    let e ← e.ackUntil (saturatingAdd offset datalen)
    some { u with inFlightStreamData := u.inFlightStreamData.insert id e }

/-- Release the data of a closed stream. -/
def closedStream (u : ConnectionUserData) (id : StreamId) : ConnectionUserData :=
  { u with inFlightStreamData := u.inFlightStreamData.erase id }

end ConnectionUserData

end Ngtcp2Rs
