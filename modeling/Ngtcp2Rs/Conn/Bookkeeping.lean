import Ngtcp2Rs.Conn.InFlight
import Ngtcp2Rs.Lib.Run

/-!
# The memory ngtcp2 references

A run of writes, acknowledgements, stream closes and early-data rejections, with what ngtcp2
remembers of it (`Sent`): for every byte it accepted, the buffer and the index it was handed it at.
`Tracked` is the invariant that links the stream offsets of ngtcp2 to the positions in the buffers.
After an early-data rejection ngtcp2 counts a reopened stream from zero while the entry goes on;
the bytes of the entry's past are `old`.

* `references_stay_valid`: the bytes ngtcp2 may still read are where they were handed over.
* `bookkeeping_exact`: without a rejection, the entry is exactly what is accepted and not
  acknowledged.
-/

namespace Ngtcp2Rs

open Lib

/-! ## What ngtcp2 remembers -/

/-- An accepted byte and where it was handed over. -/
structure Ref where
  byte : UInt8
  buf : ℕ
  index : ℕ
  deriving DecidableEq, Repr

/-- A stream as ngtcp2 counts it: the bytes it accepted, and how many of them are acknowledged. -/
structure Sent where
  accepted : List Ref := []
  acked : ℕ := 0
  deriving DecidableEq, Repr

/-- The accepted bytes. -/
def Sent.bytes (t : Sent) : Bytes := t.accepted.map (·.byte)

/-- The references ngtcp2 still holds. -/
def Sent.live (t : Sent) : List Ref := t.accepted.drop t.acked

/-- ngtcp2 accepts more bytes. -/
def Sent.accept (t : Sent) (refs : List Ref) : Sent := { t with accepted := t.accepted ++ refs }

/-- The references to the first `n` bytes of `data`, handed over in buffer `buf` at `start`. -/
def refsOf (data : Bytes) (buf start n : ℕ) : List Ref :=
  (data.take n).mapIdx fun i b => ⟨b, buf, start + i⟩

theorem map_byte_refsOf (data : Bytes) (buf start n : ℕ) :
    (refsOf data buf start n).map (·.byte) = data.take n := by
  refine List.ext_getElem? fun i => ?_
  simp [refsOf, Function.comp_def]

/-- A connection's buffers, ngtcp2's side, and what was handed over so far. -/
structure InFlight where
  user : ConnectionUserData := .new
  sent : StreamId → Sent := fun _ => {}
  handed : List Handed := []

/-- An event of a connection. -/
inductive FlightEvent where
  | write (id : StreamId) (data : Bytes) (written : Option ℕ)
  | acked (id : StreamId) (offset datalen : ℕ)
  | closed (id : StreamId)
  | earlyDataRejected
  deriving DecidableEq, Repr

/-- One event. A rejection touches no buffer. -/
def InFlight.step (al : Allocator) (s : InFlight) : FlightEvent → Option InFlight
  | .write id data written => do
    let (user, h) ← s.user.writeStream al id data written
    let refs := refsOf data h.buf h.start (written.getD 0)
    some
      { user
        sent := Function.update s.sent id ((s.sent id).accept refs)
        handed := s.handed ++ [h] }
  | .acked id offset datalen => do
    let user ← s.user.ackedStreamData id offset datalen
    some { s with
      user
      sent := Function.update s.sent id { s.sent id with acked := offset + datalen } }
  | .closed id =>
    some { s with user := s.user.closedStream id, sent := Function.update s.sent id {} }
  | .earlyDataRejected => some { s with sent := fun _ => {} }

/-- What ngtcp2 does: it takes at most what it is handed, and reports acknowledgements in
contiguous ranges of what it took, at offsets that fit a `u64`. -/
def InFlight.Legal (s : InFlight) : FlightEvent → Prop
  | .write _ data written => written.getD 0 ≤ data.length
  | .acked id offset datalen =>
    offset = (s.sent id).acked ∧ offset + datalen ≤ (s.sent id).accepted.length ∧
      offset + datalen < 2 ^ 64
  | .closed _ | .earlyDataRejected => True

instance (s : InFlight) (ev : FlightEvent) : Decidable (s.Legal ev) := by
  cases ev <;> unfold InFlight.Legal <;> infer_instance

/-! ## The invariant of an entry -/

/-- The entry `e` holds the stream `t`, which ngtcp2 began to count behind the bytes `old`. -/
structure Tracked (old : Bytes) (t : Sent) (e : InFlightStreamData) : Prop where
  start_le : e.start ≤ e.data.bytes.length
  /-- a buffer without unacknowledged bytes is empty -/
  cleared : e.start = e.data.bytes.length → e.data.bytes = []
  content : e.data.bytes.drop e.start = (old ++ t.bytes).drop e.offset
  acked_le : t.acked ≤ t.accepted.length
  offset_le : e.offset ≤ old.length + t.acked
  exact : old = [] → e.offset = t.acked
  retired : ∀ r ∈ e.retired, e.offset < r.stop ∧ r.stop ≤ old.length + t.accepted.length
  refs : ∀ x r, t.acked ≤ x → t.accepted[x]? = some r →
    (r.buf = e.data.id ∧ r.index + e.offset = e.start + old.length + x) ∨
      ∃ b ∈ e.retired, b.data.id = r.buf ∧ b.data.bytes[r.index]? = some r.byte ∧
        old.length + x < b.stop

namespace Tracked

variable {old : Bytes} {t : Sent} {e : InFlightStreamData}

theorem length_bytes (t : Sent) : t.bytes.length = t.accepted.length := by simp [Sent.bytes]

/-- The bytes of the entry end where the stream ends. -/
theorem length_eq (h : Tracked old t e) :
    e.offset + e.data.bytes.length = old.length + t.accepted.length + e.start := by
  have h₁ := congrArg List.length h.content
  simp only [List.length_drop, List.length_append, length_bytes] at h₁
  have h₂ := h.start_le
  have h₃ := h.offset_le
  have h₄ := h.acked_le
  omega

theorem new (next : ℕ) : Tracked [] {} (.new next) := by
  refine ⟨le_rfl, fun _ => rfl, rfl, le_rfl, le_rfl, fun _ => rfl, ?_, ?_⟩
  · intro r hr; cases hr
  · intro x r _ hx; cases hx

/-- A reference into the current buffer finds its byte. -/
theorem getElem_of_ref (h : Tracked old t e) {x : ℕ} {r : Ref} (hx : t.acked ≤ x)
    (hr : t.accepted[x]? = some r) (hi : r.index + e.offset = e.start + old.length + x) :
    e.data.bytes[r.index]? = some r.byte := by
  have hoff := h.offset_le
  obtain ⟨k, hk⟩ : ∃ k, r.index = e.start + k ∧ e.offset + k = old.length + x :=
    ⟨r.index - e.start, by omega, by omega⟩
  rw [hk.1, ← List.getElem?_drop, h.content, List.getElem?_drop, hk.2,
    List.getElem?_append_right (Nat.le_add_right _ _), Nat.add_sub_cancel_left, Sent.bytes,
    List.getElem?_map, hr]
  rfl

theorem ackUntil (h : Tracked old t e) {a : ℕ} (ha : t.acked ≤ a) (hle : a ≤ t.accepted.length) :
    ∃ e', e.ackUntil a = some e' ∧ Tracked old { t with acked := a } e' := by
  have hoff := h.offset_le
  have hlen := h.length_eq
  have hstart := h.start_le
  unfold InFlightStreamData.ackUntil
  by_cases hao : a ≤ e.offset
  · rw [if_pos hao]
    refine ⟨e, rfl, h.start_le, h.cleared, h.content, hle, by simp only; omega, fun ho => ?_, h.retired,
      fun x r hx hr => h.refs x r (le_trans ha hx) hr⟩
    have := h.exact ho
    simp only; omega
  rw [if_neg hao, checkedSub, if_pos hstart]
  obtain ⟨n, hn⟩ : ∃ n, min (a - e.offset) (e.data.bytes.length - e.start) = n := ⟨_, rfl⟩
  simp only [Option.bind_eq_bind, Option.bind_some, hn]
  have hcontent : e.data.bytes.drop (e.start + n) = (old ++ t.bytes).drop (e.offset + n) := by
    rw [← List.drop_drop, h.content, List.drop_drop]
  have hexact : old = [] → e.offset + n = a := by
    intro ho
    rw [ho, List.length_nil] at hlen
    omega
  have hretired : ∀ r ∈ e.retired.filter (fun r => e.offset + n < r.stop),
      e.offset + n < r.stop ∧ r.stop ≤ old.length + t.accepted.length := by
    intro r hr
    obtain ⟨hr, hlt⟩ := List.mem_filter.mp hr
    exact ⟨by simpa using hlt, (h.retired r hr).2⟩
  -- a retired buffer that is still referenced ends behind `a`, so it is kept
  have hkeep : ∀ (x : ℕ) (r : Ref) (b : RetiredBuffer), a ≤ x → b ∈ e.retired → b.data.id = r.buf →
      b.data.bytes[r.index]? = some r.byte → old.length + x < b.stop →
      ∃ b ∈ e.retired.filter (fun r => e.offset + n < r.stop), b.data.id = r.buf ∧
        b.data.bytes[r.index]? = some r.byte ∧ old.length + x < b.stop := by
    intro x r b hx hb h₁ h₂ h₃
    exact ⟨b, List.mem_filter.mpr ⟨hb, by simp only [decide_eq_true_eq]; omega⟩, h₁, h₂, h₃⟩
  by_cases hall : e.start + n = e.data.bytes.length
  · -- everything is acknowledged: the buffer is cleared in place
    simp only [if_pos hall]
    refine ⟨_, rfl, le_rfl, fun _ => rfl, ?_, hle, by simp only; omega, hexact, hretired,
      fun x r hx hr => ?_⟩
    · rw [hall, List.drop_length] at hcontent
      exact hcontent
    · rcases h.refs x r (le_trans ha hx) hr with ⟨-, hi⟩ | ⟨b, hb, h₁, h₂, h₃⟩
      · have hxlt : x < t.accepted.length := (List.getElem?_eq_some_iff.mp hr).1
        simp only at hx
        omega
      · exact Or.inr (hkeep x r b hx hb h₁ h₂ h₃)
  · simp only [if_neg hall]
    refine ⟨_, rfl, by simp only; omega, fun hc => absurd hc hall, hcontent, hle, by simp only; omega,
      hexact, hretired, fun x r hx hr => ?_⟩
    rcases h.refs x r (le_trans ha hx) hr with ⟨hb, hi⟩ | ⟨b, hb, h₁, h₂, h₃⟩
    · exact Or.inl ⟨hb, by simp only; omega⟩
    · exact Or.inr (hkeep x r b hx hb h₁ h₂ h₃)

theorem reserve (h : Tracked old t e) (al : Allocator) (next n : ℕ) :
    ∃ e' next', e.reserve al next n = some (e', next') ∧ Tracked old t e' ∧
      e'.data.bytes.length + n ≤ e'.data.capacity := by
  have hlen := h.length_eq
  have hstart := h.start_le
  unfold InFlightStreamData.reserve
  by_cases hcap : e.data.capacity < e.data.bytes.length + n
  · have hroom := al.le_capacity next (max (e.data.bytes.length + n) (2 * e.data.capacity))
    rw [if_pos hcap]
    by_cases hempty : e.data.bytes = []
    · -- nothing in the buffer is referenced
      simp only [hempty, List.isEmpty_nil, if_true]
      have hz : e.start = 0 := by
        rw [hempty] at hstart
        simpa using hstart
      refine ⟨_, _, rfl, ⟨?_, fun _ => rfl, ?_, h.acked_le, h.offset_le, h.exact, h.retired, ?_⟩, ?_⟩
      · simp only [hz]; exact Nat.zero_le _
      · rw [← h.content, hempty]; rfl
      · intro x r hx hr
        rcases h.refs x r hx hr with ⟨-, hi⟩ | hb
        · have hxlt := (List.getElem?_eq_some_iff.mp hr).1
          rw [hempty, List.length_nil] at hlen
          omega
        · exact Or.inr hb
      · simp only [Buffer.withCapacity, List.length_nil]
        rw [hempty, List.length_nil] at hroom
        omega
    · have hne : e.data.bytes.isEmpty = false := by simpa using hempty
      have hlt : e.start < e.data.bytes.length := lt_of_le_of_ne hstart fun hc => hempty (h.cleared hc)
      have hext : (Buffer.withCapacity al next
          (max (e.data.bytes.length + n) (2 * e.data.capacity))).extend al (next + 1)
          (e.data.bytes.drop e.start) =
          (⟨next, al.capacity next (max (e.data.bytes.length + n) (2 * e.data.capacity)),
            e.data.bytes.drop e.start⟩, next + 1) := by
        have hle : (e.data.bytes.drop e.start).length ≤
            al.capacity next (max (e.data.bytes.length + n) (2 * e.data.capacity)) := by
          rw [List.length_drop]; omega
        simp only [Buffer.extend, Buffer.withCapacity, List.length_nil, Nat.zero_add, if_pos hle,
          List.nil_append]
      simp only [hne, Bool.false_eq_true, if_false, checkedSub, if_pos hstart,
        Option.bind_eq_bind, Option.bind_some, hext]
      refine ⟨_, _, rfl, ⟨Nat.zero_le _, ?_, h.content, h.acked_le, h.offset_le, h.exact, ?_, ?_⟩, ?_⟩
      · intro hc
        simp only [List.length_drop] at hc
        omega
      · intro r hr
        rcases List.mem_append.mp hr with hr | hr
        · exact h.retired r hr
        · rw [List.mem_singleton.mp hr]
          simp only
          omega
      · -- the references into the old buffer move with it
        intro x r hx hr
        right
        rcases h.refs x r hx hr with ⟨hb, hi⟩ | ⟨b, hb, h₁⟩
        · refine ⟨⟨e.data, _⟩, List.mem_append_right _ (List.mem_singleton_self _), hb.symm,
            h.getElem_of_ref hx hr hi, ?_⟩
          have hxlt := (List.getElem?_eq_some_iff.mp hr).1
          simp only
          omega
        · exact ⟨b, List.mem_append_left _ hb, h₁⟩
      · simp only [List.length_drop]
        omega
  · rw [if_neg hcap]
    exact ⟨e, next, rfl, h, by omega⟩

/-- The entry after `n` bytes of `data` were appended and taken by ngtcp2. -/
theorem write (h : Tracked old t e) (data : Bytes) {n : ℕ} (hn : n ≤ data.length) :
    Tracked old (t.accept (refsOf data e.data.id e.data.bytes.length n))
      { e with data := { e.data with bytes := e.data.bytes ++ data.take n } } := by
  have hlen := h.length_eq
  have hstart := h.start_le
  have hrefs : (refsOf data e.data.id e.data.bytes.length n).length = n := by
    simp [refsOf, hn]
  constructor
  · simp only [List.length_append]; omega
  · intro hc
    simp only [List.length_append, List.length_take] at hc ⊢
    have hz : n = 0 := by omega
    subst hz
    simpa using h.cleared (by simpa using hc)
  · have hoff : e.offset ≤ (old ++ t.bytes).length := by
      rw [List.length_append, length_bytes]
      omega
    have hbytes : (t.accept (refsOf data e.data.id e.data.bytes.length n)).bytes =
        t.bytes ++ data.take n := by
      rw [Sent.bytes, Sent.accept, List.map_append, map_byte_refsOf, Sent.bytes]
    rw [hbytes, List.drop_append_of_le_length hstart, h.content, ← List.append_assoc,
      List.drop_append_of_le_length hoff]
  · have := h.acked_le
    simp only [Sent.accept, List.length_append]; omega
  · exact h.offset_le
  · exact h.exact
  · intro r hr
    have := h.retired r hr
    simp only [Sent.accept, List.length_append]
    exact ⟨this.1, by omega⟩
  · intro x r hx hr
    rw [Sent.accept] at hr
    by_cases hxt : x < t.accepted.length
    · rw [List.getElem?_append_left hxt] at hr
      exact h.refs x r hx hr
    · rw [List.getElem?_append_right (by omega)] at hr
      obtain ⟨i, hi⟩ : ∃ i, x = t.accepted.length + i := ⟨x - t.accepted.length, by omega⟩
      rw [hi, Nat.add_sub_cancel_left, refsOf, List.getElem?_mapIdx] at hr
      obtain ⟨b, -, rfl⟩ := Option.map_eq_some_iff.mp hr
      exact Or.inl ⟨rfl, by simp only; omega⟩

end Tracked

/-! ## One event -/

/-- The range handed over is the data of the caller, it fit into the buffer, and it lies behind the
start of the unacknowledged data. -/
structure Handed.Exact (h : Handed) : Prop where
  offered : h.offered = h.data
  entryStart_le : h.entryStart ≤ h.start
  room : h.start + h.data.length ≤ h.capacity

/-- The entry of a stream, if there is one, tracks it; under `clean` the two count alike. -/
def Holds (clean : Prop) (t : Sent) : Option InFlightStreamData → Prop
  | none => t = {}
  | some e => ∃ old, (clean → old = []) ∧ Tracked old t e

theorem writeStream_spec (al : Allocator) (u : ConnectionUserData) (id : StreamId) (data : Bytes)
    {written : Option ℕ} (hn : written.getD 0 ≤ data.length) {old : Bytes} {t : Sent}
    (h : Tracked old t (u.entry id).1) :
    ∃ e next hd, u.writeStream al id data written =
        some (⟨u.inFlightStreamData.insert id e, next⟩, hd) ∧ hd.Exact ∧
      Tracked old (t.accept (refsOf data hd.buf hd.start (written.getD 0))) e := by
  obtain ⟨e, next, hres, htr, hroom⟩ := h.reserve al (u.entry id).2 data.length
  have hstart := htr.start_le
  have hext : e.data.extend al next data = ({ e.data with bytes := e.data.bytes ++ data }, next) := by
    rw [Buffer.extend, if_pos hroom]
  refine ⟨_, _, _, by
    simp only [ConnectionUserData.writeStream, InFlightStreamData.append, hres, hext,
      Option.bind_eq_bind, Option.bind_some]
    rfl, ⟨?_, hstart, hroom⟩, ?_⟩
  · simp
  · have htake : (e.data.bytes ++ data).take
        (e.start + (e.data.bytes.length - e.start + written.getD 0)) =
        e.data.bytes ++ data.take (written.getD 0) := by
      rw [show e.start + (e.data.bytes.length - e.start + written.getD 0) =
        e.data.bytes.length + written.getD 0 by omega, List.take_length_add_append]
    simp only [InFlightStreamData.truncateUnwritten, htake]
    exact htr.write data hn

/-- The invariant of a run. -/
structure InFlight.Inv (clean : Prop) (s : InFlight) : Prop where
  holds : ∀ id, Holds clean (s.sent id) (s.user.inFlightStreamData.lookup id)
  handed : ∀ h ∈ s.handed, h.Exact

namespace InFlight

variable {al : Allocator} {clean : Prop} {s : InFlight}

theorem Inv.write (h : s.Inv clean) (id : StreamId) (data : Bytes) (written : Option ℕ)
    (hn : written.getD 0 ≤ data.length) :
    ∃ s', s.step al (.write id data written) = some s' ∧ s'.Inv clean := by
  have hent : ∃ old, (clean → old = []) ∧ Tracked old (s.sent id) (s.user.entry id).1 := by
    have hid := h.holds id
    unfold ConnectionUserData.entry
    cases hl : s.user.inFlightStreamData.lookup id with
    | none =>
      rw [hl] at hid
      exact ⟨[], fun _ => rfl, by rw [hid]; exact .new _⟩
    | some e => rwa [hl] at hid
  obtain ⟨old, hold, htr⟩ := hent
  obtain ⟨e, next, hd, hw, hex, htr'⟩ := writeStream_spec al s.user id data hn htr
  refine ⟨_, by simp only [step, hw, Option.bind_eq_bind, Option.bind_some]; rfl,
    fun i => ?_, fun hd' hmem => ?_⟩
  · simp only [Map.lookup_insert_if]
    by_cases hi : i = id
    · subst hi
      rw [Function.update_self, if_pos rfl]
      exact ⟨old, hold, htr'⟩
    · rw [Function.update_of_ne hi, if_neg hi]
      exact h.holds i
  · rcases List.mem_append.mp hmem with hmem | hmem
    · exact h.handed hd' hmem
    · rw [List.mem_singleton.mp hmem]
      exact hex

theorem Inv.acked (h : s.Inv clean) (id : StreamId) (offset datalen : ℕ)
    (hl : s.Legal (.acked id offset datalen)) :
    ∃ s', s.step al (.acked id offset datalen) = some s' ∧ s'.Inv clean := by
  obtain ⟨hoff, hle, hlt⟩ := hl
  have hsat : ConnectionUserData.saturatingAdd offset datalen = offset + datalen :=
    Nat.min_eq_left (by omega)
  have hid := h.holds id
  simp only [step, ConnectionUserData.ackedStreamData, hsat]
  cases he : s.user.inFlightStreamData.lookup id with
  | none =>
    rw [he] at hid
    have hz : s.sent id = {} := hid
    rw [hz] at hoff hle
    refine ⟨_, rfl, fun i => ?_, h.handed⟩
    by_cases hi : i = id
    · subst hi
      simp only [Function.update_self, he, Holds, hz, Sent.mk.injEq, true_and]
      exact Nat.le_zero.mp hle
    · simp only [Function.update_of_ne hi]
      exact h.holds i
  | some e =>
    rw [he] at hid
    obtain ⟨old, hold, htr⟩ := hid
    obtain ⟨e', hack, htr'⟩ := htr.ackUntil (a := offset + datalen) (by omega) hle
    simp only [hack, Option.bind_eq_bind, Option.bind_some]
    refine ⟨_, rfl, fun i => ?_, h.handed⟩
    simp only [Map.lookup_insert_if]
    by_cases hi : i = id
    · subst hi
      rw [Function.update_self, if_pos rfl]
      exact ⟨old, hold, htr'⟩
    · rw [Function.update_of_ne hi, if_neg hi]
      exact h.holds i

theorem Inv.closed (h : s.Inv clean) (id : StreamId) :
    ∃ s', s.step al (.closed id) = some s' ∧ s'.Inv clean := by
  refine ⟨_, rfl, fun i => ?_, h.handed⟩
  simp only [ConnectionUserData.closedStream, Map.lookup_erase_if]
  by_cases hi : i = id
  · subst hi
    rw [Function.update_self, if_pos rfl]
    rfl
  · rw [Function.update_of_ne hi, if_neg hi]
    exact h.holds i

/-- ngtcp2 starts to count at zero behind everything the entry has seen. -/
theorem Inv.rejected (h : s.Inv clean) (hc : ¬ clean) :
    ∃ s', s.step al .earlyDataRejected = some s' ∧ s'.Inv clean := by
  refine ⟨_, rfl, fun id => ?_, h.handed⟩
  have hid := h.holds id
  simp only
  cases he : s.user.inFlightStreamData.lookup id with
  | none => rfl
  | some e =>
    rw [he] at hid
    obtain ⟨old, -, htr⟩ := hid
    have hlen := htr.length_eq
    have hstart := htr.start_le
    refine ⟨old ++ (s.sent id).bytes, fun hcl => absurd hcl hc, hstart, htr.cleared, ?_, le_rfl, ?_,
      fun ho => ?_, fun r hr => ?_, ?_⟩
    · rw [htr.content]
      simp [Sent.bytes]
    · simp only [List.length_append, Tracked.length_bytes]
      omega
    · have hz := congrArg List.length ho
      simp only [List.length_append, Tracked.length_bytes, List.length_nil] at hz
      simp only
      omega
    · simp only [List.length_append, Tracked.length_bytes, List.length_nil]
      exact htr.retired r hr
    · intro x r _ hx
      cases hx

theorem Inv.step (h : s.Inv clean) {ev : FlightEvent} (hl : s.Legal ev)
    (hc : clean → ev ≠ .earlyDataRejected) : ∃ s', s.step al ev = some s' ∧ s'.Inv clean := by
  cases ev with
  | write id data written => exact h.write id data written hl
  | acked id offset datalen => exact h.acked id offset datalen hl
  | closed id => exact h.closed id
  | earlyDataRejected => exact h.rejected fun hcl => hc hcl rfl

theorem inv_init (clean : Prop) : Inv clean {} := by
  refine ⟨fun id => ?_, fun h hh => by cases hh⟩
  simp only [ConnectionUserData.new, AList.lookup_empty]
  rfl

end InFlight

/-! ## Whole runs -/

/-- The byte is where it was handed over, in a buffer the connection still has. -/
def Held (u : ConnectionUserData) (id : StreamId) (r : Ref) : Prop :=
  ∃ e, u.inFlightStreamData.lookup id = some e ∧
    ∃ b, (b = e.data ∨ ∃ ret ∈ e.retired, b = ret.data) ∧ b.id = r.buf ∧
      b.bytes[r.index]? = some r.byte

theorem Holds.held {clean : Prop} {u : ConnectionUserData} {id : StreamId} {t : Sent}
    (h : Holds clean t (u.inFlightStreamData.lookup id)) {r : Ref} (hr : r ∈ t.live) :
    Held u id r := by
  obtain ⟨i, hi⟩ := List.mem_iff_getElem?.mp hr
  rw [Sent.live, List.getElem?_drop] at hi
  cases he : u.inFlightStreamData.lookup id with
  | none =>
    rw [he] at h
    rw [show t = {} from h] at hi
    cases hi
  | some e =>
    rw [he] at h
    obtain ⟨old, -, htr⟩ := h
    refine ⟨e, he, ?_⟩
    rcases htr.refs _ r (Nat.le_add_right _ _) hi with ⟨hb, hx⟩ | ⟨b, hb, h₁, h₂, -⟩
    · exact ⟨e.data, Or.inl rfl, hb.symm, htr.getElem_of_ref (Nat.le_add_right _ _) hi hx⟩
    · exact ⟨b.data, Or.inr ⟨b, hb, rfl⟩, h₁, h₂⟩

/-- **The memory ngtcp2 references stays as it was.** In every run of writes, acknowledgements,
closes and early-data rejections no operation fails, every byte that ngtcp2 still references is in
a buffer that is still held, at its index and with its content, and no append exceeded the capacity
of the buffer it went into. -/
theorem references_stay_valid (al : Allocator) (evs : List FlightEvent)
    (hl : LegalExec (InFlight.step al) InFlight.Legal {} evs) :
    ∃ s, exec (InFlight.step al) {} evs = some s ∧
      (∀ id, ∀ r ∈ (s.sent id).live, Held s.user id r) ∧
      ∀ h ∈ s.handed, h.offered = h.data ∧ h.start + h.data.length ≤ h.capacity := by
  obtain ⟨s, hs, hi⟩ := exec_invariant (I := InFlight.Inv False)
    (fun s ev hi hl => hi.step hl fun hc => hc.elim) evs {} (InFlight.inv_init _) hl
  exact ⟨s, hs, fun id r hr => (hi.holds id).held hr,
    fun h hh => ⟨(hi.handed h hh).1, (hi.handed h hh).3⟩⟩

/-- **The bookkeeping is exact.** In every run without an early-data rejection no subtraction
underflows, and in each entry `offset` is the number of acknowledged bytes, `data[start..]` is what
was accepted and not acknowledged, and every retired buffer reaches beyond `offset`; the range of
each call was the data of its caller. -/
theorem bookkeeping_exact (al : Allocator) (evs : List FlightEvent)
    (hl : LegalExec (InFlight.step al) InFlight.Legal {} evs)
    (hev : FlightEvent.earlyDataRejected ∉ evs) :
    ∃ s, exec (InFlight.step al) {} evs = some s ∧
      (∀ id e, s.user.inFlightStreamData.lookup id = some e →
        e.offset = (s.sent id).acked ∧ e.start ≤ e.data.bytes.length ∧
        e.data.bytes.drop e.start = (s.sent id).bytes.drop (s.sent id).acked ∧
        (∀ r ∈ e.retired, e.offset < r.stop) ∧
        ((s.sent id).acked = (s.sent id).accepted.length → e.retired = [])) ∧
      ∀ h ∈ s.handed, h.offered = h.data ∧ h.entryStart ≤ h.start := by
  obtain ⟨s, hs, hi⟩ := exec_invariant (I := InFlight.Inv True)
    (fun s ev hi hl => hi.step hl.1 fun _ => hl.2) evs {} (InFlight.inv_init _)
    (hl.and (Q := fun ev => ev ≠ .earlyDataRejected) fun ev hmem hc => hev (hc ▸ hmem))
  refine ⟨s, hs, fun id e he => ?_, fun h hh => ⟨(hi.handed h hh).1, (hi.handed h hh).2⟩⟩
  have hid := hi.holds id
  rw [he] at hid
  obtain ⟨old, hold, htr⟩ := hid
  obtain rfl := hold trivial
  have hoff := htr.exact rfl
  refine ⟨hoff, htr.start_le, ?_, fun r hr => (htr.retired r hr).1, fun hall => ?_⟩
  · rw [htr.content, hoff, List.nil_append]
  · rw [List.eq_nil_iff_forall_not_mem]
    intro r hr
    have := htr.retired r hr
    rw [List.length_nil] at this
    omega

/-- The allocator that gives what it is asked for. -/
def exactAllocator : Allocator := ⟨fun _ n => n, fun _ _ => le_rfl⟩

/-- A write that outgrows its buffer, an acknowledgement, a rejection, and the stream opened again. -/
theorem references_stay_valid_reopened :
    let evs := [.write 0 [1, 2, 3] (some 2), .write 0 [3, 4, 5] (some 3), .acked 0 0 1,
      .earlyDataRejected, .write 0 [6] (some 1), .write 0 [7] none, .acked 0 0 1]
    LegalExec (InFlight.step exactAllocator) InFlight.Legal {} evs ∧
      ∃ s, exec (InFlight.step exactAllocator) {} evs = some s ∧
        (∀ id, ∀ r ∈ (s.sent id).live, Held s.user id r) ∧
        ∀ h ∈ s.handed, h.offered = h.data ∧ h.start + h.data.length ≤ h.capacity :=
  ⟨by decide, references_stay_valid exactAllocator _ (by decide)⟩

/-- The same without the rejection. -/
theorem bookkeeping_exact_outgrown :
    let evs := [.write 0 [1, 2, 3] (some 2), .write 0 [3, 4, 5] (some 3), .acked 0 0 3,
      .write 4 [9] none, .closed 4]
    LegalExec (InFlight.step exactAllocator) InFlight.Legal {} evs ∧
      ∃ s, exec (InFlight.step exactAllocator) {} evs = some s ∧
        (∀ id e, s.user.inFlightStreamData.lookup id = some e →
          e.offset = (s.sent id).acked ∧ e.start ≤ e.data.bytes.length ∧
          e.data.bytes.drop e.start = (s.sent id).bytes.drop (s.sent id).acked ∧
          (∀ r ∈ e.retired, e.offset < r.stop) ∧
          ((s.sent id).acked = (s.sent id).accepted.length → e.retired = [])) ∧
        ∀ h ∈ s.handed, h.offered = h.data ∧ h.entryStart ≤ h.start :=
  ⟨by decide, bookkeeping_exact exactAllocator _ (by decide) (by decide)⟩

end Ngtcp2Rs
