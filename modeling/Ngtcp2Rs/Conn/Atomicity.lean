import Ngtcp2Rs.Conn.Bookkeeping
import Mathlib.Data.Finset.Basic

/-!
# Writes on which ngtcp2 accepts nothing

`write_stream_with_flags` puts the data into the entry of the stream before it knows what ngtcp2
takes, and takes the rest out again. An entry that it had to create for that stays, also for a
stream that ngtcp2 does not have.

* `StreamFlight`: the in-flight data together with the streams that ngtcp2 has open.
* `StreamFlight.view_refused`: what a refused write leaves behind.
* `refused_atomic_iff`: the runs in which refused writes change nothing, and the entries are those of
  open streams.
-/

namespace Ngtcp2Rs

open Lib

/-! ## Streams that ngtcp2 has open -/

/-- A connection's buffers and the streams that ngtcp2 has open. -/
structure StreamFlight where
  flight : InFlight := {}
  streams : Finset StreamId := ∅

/-- An event, or a stream that ngtcp2 opens. -/
inductive StreamEvent where
  | opened (id : StreamId)
  | flight (ev : FlightEvent)
  deriving DecidableEq, Repr

/-- The open streams after an event. A rejection discards all of them. -/
def FlightEvent.streamsAfter (streams : Finset StreamId) : FlightEvent → Finset StreamId
  | write .. | acked .. => streams
  | closed id => streams.erase id
  | earlyDataRejected => ∅

namespace StreamFlight

/-- One event. -/
def step (al : Allocator) (s : StreamFlight) : StreamEvent → Option StreamFlight
  | .opened id => some { s with streams := insert id s.streams }
  | .flight ev => do
    let flight ← s.flight.step al ev
    some ⟨flight, ev.streamsAfter s.streams⟩

/-- What ngtcp2 does: it accepts data only on streams that it has open. -/
def Legal (s : StreamFlight) : StreamEvent → Prop
  | .opened _ => True
  | .flight (.write id data (some n)) => s.flight.Legal (.write id data (some n)) ∧ id ∈ s.streams
  | .flight ev => s.flight.Legal ev

/-- The offset and the unacknowledged bytes of a stream; `none` is a stream without an entry. -/
def view (s : StreamFlight) (id : StreamId) : Option (ℕ × Bytes) :=
  (s.flight.user.inFlightStreamData.lookup id).map fun e => (e.offset, e.data.bytes.drop e.start)

/-- The entries are those of open streams. -/
def KeysOpen (s : StreamFlight) : Prop := ∀ id, (s.view id).isSome → id ∈ s.streams

/-- The step keeps to the contract: a write on which ngtcp2 accepts nothing leaves the keys, and the
offset and the unacknowledged bytes of each, as they were; and the entries are those of open
streams. -/
def Atomic (al : Allocator) (s : StreamFlight) (ev : StreamEvent) : Prop :=
  ∀ s', s.step al ev = some s' →
    (∀ id data, ev = .flight (.write id data none) → s'.view = s.view) ∧ s'.KeysOpen

/-- A write that ngtcp2 refuses is on a stream with an entry, and early data is rejected while there
are no entries. -/
def Tidy (s : StreamFlight) : StreamEvent → Prop
  | .flight (.write id _ none) => (s.view id).isSome
  | .flight .earlyDataRejected => ∀ id, s.view id = none
  | _ => True

end StreamFlight

/-! ## The offset of an entry -/

theorem offset_reserve {al : Allocator} {e e' : InFlightStreamData} {next next' n : ℕ}
    (h : e.reserve al next n = some (e', next')) : e'.offset = e.offset := by
  unfold InFlightStreamData.reserve at h
  split_ifs at h
  · cases h
    rfl
  · obtain ⟨unacked, -, h⟩ := Option.bind_eq_some_iff.mp h
    cases h
    rfl
  · cases h
    rfl

/-- A write replaces the entry, and does not move the start of its unacknowledged data in the
stream. -/
theorem writeStream_insert {al : Allocator} {u u' : ConnectionUserData} {id : StreamId}
    {data : Bytes} {written : Option ℕ} {hd : Handed}
    (h : u.writeStream al id data written = some (u', hd)) :
    ∃ e, u'.inFlightStreamData = u.inFlightStreamData.insert id e ∧
      e.offset = (u.entry id).1.offset := by
  unfold ConnectionUserData.writeStream InFlightStreamData.append at h
  obtain ⟨r, hr, h⟩ := Option.bind_eq_some_iff.mp h
  obtain ⟨⟨e₁, next₁⟩, hreserve, hr⟩ := Option.bind_eq_some_iff.mp hr
  have hoffset := offset_reserve hreserve
  cases hr
  cases h
  exact ⟨_, rfl, hoffset⟩

theorem step_write {al : Allocator} {s s' : InFlight} {id : StreamId} {data : Bytes}
    {written : Option ℕ} (h : s.step al (.write id data written) = some s') :
    ∃ hd, s.user.writeStream al id data written = some (s'.user, hd) := by
  obtain ⟨⟨user, hd⟩, hw, h⟩ := Option.bind_eq_some_iff.mp h
  cases h
  exact ⟨hd, hw⟩

namespace StreamFlight

variable {al : Allocator} {s s' : StreamFlight} {id : StreamId} {data : Bytes}

/-! ## One event -/

theorem step_flight {ev : FlightEvent} (h : s.step al (.flight ev) = some s') :
    s.flight.step al ev = some s'.flight ∧ s'.streams = ev.streamsAfter s.streams := by
  obtain ⟨flight, hflight, h⟩ := Option.bind_eq_some_iff.mp h
  cases h
  exact ⟨hflight, rfl⟩

/-- The entry of a stream, which a write creates, tracks what ngtcp2 accepted. -/
theorem tracked_entry (h : s.flight.Inv False) (id : StreamId) :
    ∃ old, Tracked old (s.flight.sent id) (s.flight.user.entry id).1 := by
  have hid := h.holds id
  unfold ConnectionUserData.entry
  cases he : s.flight.user.inFlightStreamData.lookup id with
  | none =>
    rw [he] at hid
    have hz : s.flight.sent id = {} := hid
    rw [hz]
    exact ⟨[], .new _⟩
  | some e =>
    rw [he] at hid
    obtain ⟨old, -, htr⟩ := hid
    exact ⟨old, htr⟩

theorem getD_view (s : StreamFlight) (id : StreamId) :
    (s.view id).getD (0, []) = ((s.flight.user.entry id).1.offset,
      (s.flight.user.entry id).1.data.bytes.drop (s.flight.user.entry id).1.start) := by
  unfold view ConnectionUserData.entry
  cases s.flight.user.inFlightStreamData.lookup id <;> rfl

/-- **What a refused write leaves behind**: the entry as it was, or an empty one. -/
theorem view_refused (h : s.flight.Inv False)
    (hstep : s.step al (.flight (.write id data none)) = some s') (i : StreamId) :
    s'.view i = if i = id then some ((s.view id).getD (0, [])) else s.view i := by
  obtain ⟨hflight, -⟩ := step_flight hstep
  obtain ⟨hd, hw⟩ := step_write hflight
  obtain ⟨e, hmap, hoffset⟩ := writeStream_insert hw
  -- both entries hold what ngtcp2 accepted, from the same offset on
  obtain ⟨old, htr⟩ := tracked_entry h id
  have hnone : (none : Option ℕ).getD 0 ≤ data.length := Nat.zero_le _
  obtain ⟨e', next, hd', hw', -, htr'⟩ := writeStream_spec al s.flight.user id data hnone htr
  obtain rfl : e = e' := by
    rw [hw] at hw'
    have huser : s'.flight.user = _ := (Prod.mk.inj (Option.some.inj hw')).1
    rw [huser] at hmap
    have hlookup := congrArg (AList.lookup id) hmap
    rw [Map.lookup_insert_if, Map.lookup_insert_if, if_pos rfl, if_pos rfl] at hlookup
    exact (Option.some.inj hlookup).symm
  have hbytes : ((s.flight.sent id).accept (refsOf data hd'.buf hd'.start 0)).bytes =
      (s.flight.sent id).bytes := by
    simp [Sent.accept, Sent.bytes, refsOf]
  have hcontent := htr'.content
  rw [Option.getD_none, hbytes, hoffset, ← htr.content] at hcontent
  have hview : s'.view i =
      if i = id then some (e.offset, e.data.bytes.drop e.start) else s.view i := by
    unfold view
    rw [hmap, Map.lookup_insert_if]
    split_ifs <;> rfl
  rw [hview, getD_view, hoffset, hcontent]

theorem view_refused_eq_iff (h : s.flight.Inv False)
    (hstep : s.step al (.flight (.write id data none)) = some s') :
    s'.view = s.view ↔ (s.view id).isSome := by
  have hview := view_refused h hstep
  constructor
  · intro heq
    rw [← heq, hview, if_pos rfl]
    rfl
  · intro hsome
    obtain ⟨v, hv⟩ := Option.isSome_iff_exists.mp hsome
    funext i
    rw [hview]
    split_ifs with hi
    · rw [hi, hv, Option.getD_some]
    · rfl

/-- An acknowledgement makes no entry. -/
theorem isSome_lookup_of_acked {u u' : ConnectionUserData} {id i : StreamId} {offset datalen : ℕ}
    (h : u.ackedStreamData id offset datalen = some u')
    (hi : (u'.inFlightStreamData.lookup i).isSome) : (u.inFlightStreamData.lookup i).isSome := by
  unfold ConnectionUserData.ackedStreamData at h
  cases he : u.inFlightStreamData.lookup id with
  | none =>
    rw [he] at h
    cases h
    exact hi
  | some e =>
    rw [he] at h
    obtain ⟨e', -, h⟩ := Option.bind_eq_some_iff.mp h
    cases h
    rw [Map.lookup_insert_if] at hi
    split_ifs at hi with hid
    · rw [hid, he]
      rfl
    · exact hi

/-- A new entry is that of a write. -/
theorem isSome_view_of_step {ev : FlightEvent} (hstep : s.step al (.flight ev) = some s')
    {i : StreamId} (hi : (s'.view i).isSome) :
    (s.view i).isSome ∧ ev ≠ .closed i ∨ ∃ data written, ev = .write i data written := by
  obtain ⟨hflight, -⟩ := step_flight hstep
  unfold view at hi ⊢
  rw [Option.isSome_map] at hi ⊢
  cases ev with
  | write id data written =>
    obtain ⟨hd, hw⟩ := step_write hflight
    obtain ⟨e, hmap, -⟩ := writeStream_insert hw
    rw [hmap, Map.lookup_insert_if] at hi
    split_ifs at hi with hid
    · subst hid
      exact .inr ⟨data, written, rfl⟩
    · exact .inl ⟨hi, nofun⟩
  | acked id offset datalen =>
    obtain ⟨user, huser, h⟩ := Option.bind_eq_some_iff.mp hflight
    have hs' : s'.flight.user = user := by
      cases s'
      cases h
      rfl
    rw [hs'] at hi
    exact .inl ⟨isSome_lookup_of_acked huser hi, nofun⟩
  | closed id =>
    left
    have hs' : s'.flight.user.inFlightStreamData = s.flight.user.inFlightStreamData.erase id := by
      cases s'
      cases hflight
      rfl
    rw [hs', Map.lookup_erase_if] at hi
    split_ifs at hi with hid
    · cases hi
    · exact ⟨hi, fun hev => hid (FlightEvent.closed.inj hev).symm⟩
  | earlyDataRejected =>
    have hs' : s'.flight.user = s.flight.user := by
      cases s'
      cases hflight
      rfl
    rw [hs'] at hi
    exact .inl ⟨hi, nofun⟩

/-- The invariant of the runs that keep to the contract. -/
structure Sound (s : StreamFlight) : Prop where
  inv : s.flight.Inv False
  keysOpen : s.KeysOpen

theorem sound_init : Sound {} := ⟨InFlight.inv_init _, fun _ h => by cases h⟩

theorem Legal.flight {ev : FlightEvent} (h : s.Legal (.flight ev)) : s.flight.Legal ev := by
  cases ev with
  | write id data written =>
    cases written with
    | none => exact h
    | some n => exact h.1
  | acked id offset datalen => exact h
  | closed id => exact h
  | earlyDataRejected => exact h

variable (al) in
/-- A legal event does not fail. -/
theorem exists_step (h : s.flight.Inv False) {ev : StreamEvent} (hl : s.Legal ev) :
    ∃ s', s.step al ev = some s' ∧ s'.flight.Inv False := by
  cases ev with
  | opened id => exact ⟨_, rfl, h⟩
  | flight ev =>
    obtain ⟨f, hf, hinv⟩ : ∃ f, s.flight.step al ev = some f ∧ f.Inv False :=
      h.step hl.flight fun hc => hc.elim
    refine ⟨⟨f, ev.streamsAfter s.streams⟩, ?_, hinv⟩
    simp only [step, hf, Option.bind_eq_bind, Option.bind_some]

/-- A tidy event leaves entries of open streams only. -/
theorem keysOpen_step (h : s.Sound) {ev : StreamEvent} (hl : s.Legal ev) (ht : s.Tidy ev)
    (hstep : s.step al ev = some s') : s'.KeysOpen := by
  intro i hi
  cases ev with
  | opened id =>
    cases hstep
    exact Finset.mem_insert_of_mem (h.keysOpen i hi)
  | flight ev =>
    obtain ⟨-, hstreams⟩ := step_flight hstep
    rw [hstreams]
    obtain ⟨hold, hne⟩ | ⟨data, written, rfl⟩ := isSome_view_of_step hstep hi
    · have hopen := h.keysOpen i hold
      cases ev with
      | write id data written => exact hopen
      | acked id offset datalen => exact hopen
      | closed id =>
        refine Finset.mem_erase.mpr ⟨fun hid => hne ?_, hopen⟩
        rw [hid]
      | earlyDataRejected =>
        rw [ht i] at hold
        cases hold
    · cases written with
      | none => exact h.keysOpen i ht
      | some n => exact hl.2

theorem atomic_iff_tidy (h : s.Sound) {ev : StreamEvent} (hl : s.Legal ev) :
    s.Atomic al ev ↔ s.Tidy ev := by
  obtain ⟨s', hstep, -⟩ := exists_step al h.inv hl
  constructor
  · intro hatomic
    obtain ⟨hrefused, hkeys⟩ := hatomic s' hstep
    cases ev with
    | opened id => trivial
    | flight ev =>
      cases ev with
      | write id data written =>
        cases written with
        | none => exact (view_refused_eq_iff h.inv hstep).mp (hrefused id data rfl)
        | some n => trivial
      | acked id offset datalen => trivial
      | closed id => trivial
      | earlyDataRejected =>
        intro i
        obtain ⟨hflight, hstreams⟩ := step_flight hstep
        have hview : s'.view = s.view := by
          cases s'
          cases hflight
          rfl
        have hno : s'.streams = ∅ := hstreams
        by_contra hne
        have hmem := hkeys i (by rw [hview]; exact Option.isSome_iff_ne_none.mpr hne)
        rw [hno] at hmem
        cases hmem
  · intro htidy s'' hs''
    refine ⟨?_, keysOpen_step h hl htidy hs''⟩
    rintro id data rfl
    exact (view_refused_eq_iff h.inv hs'').mpr htidy

end StreamFlight

/-- **When refused writes are atomic.** No event of a run fails. In every run, each refused write
leaves the keys, offsets and unacknowledged bytes as they were and the entries are always those of
open streams, exactly if each refused write is on a stream with an entry and early data is rejected
only while there are no entries. -/
theorem refused_atomic_iff (al : Allocator) (evs : List StreamEvent)
    (hl : LegalExec (StreamFlight.step al) StreamFlight.Legal {} evs) :
    (∃ s, exec (StreamFlight.step al) {} evs = some s) ∧
    (LegalExec (StreamFlight.step al) (StreamFlight.Atomic al) {} evs ↔
      LegalExec (StreamFlight.step al) StreamFlight.Tidy {} evs) := by
  constructor
  · obtain ⟨s, hs, -⟩ := exec_invariant (I := fun s : StreamFlight => s.flight.Inv False)
      (fun s ev hi hl => StreamFlight.exists_step al hi hl) evs {} (InFlight.inv_init _) hl
    exact ⟨s, hs⟩
  · refine legalExec_iff (I := StreamFlight.Sound) (fun s ev hs hl => ?_) (fun s ev s' hs hl ht hstep => ?_)
      evs {} StreamFlight.sound_init hl
    · exact StreamFlight.atomic_iff_tidy hs hl
    · obtain ⟨s'', hs'', hinv⟩ := StreamFlight.exists_step al hs.inv hl
      obtain rfl : s' = s'' := Option.some.inj (hstep.symm.trans hs'')
      exact ⟨hinv, StreamFlight.keysOpen_step hs hl ht hstep⟩

instance (s : StreamFlight) (ev : StreamEvent) : Decidable (s.Legal ev) := by
  unfold StreamFlight.Legal
  split <;> infer_instance

/-- A stream is written to, refused once, acknowledged and closed. -/
theorem refused_atomic_iff_blocked :
    let evs := [.opened 0, .flight (.write 0 [1, 2] (some 2)), .flight (.write 0 [3] none),
      .flight (.acked 0 0 2), .flight (.closed 0)]
    LegalExec (StreamFlight.step exactAllocator) StreamFlight.Legal {} evs ∧
      (∃ s, exec (StreamFlight.step exactAllocator) {} evs = some s) ∧
      (LegalExec (StreamFlight.step exactAllocator) (StreamFlight.Atomic exactAllocator) {} evs ↔
        LegalExec (StreamFlight.step exactAllocator) StreamFlight.Tidy {} evs) :=
  ⟨by decide, refused_atomic_iff exactAllocator _ (by decide)⟩

/-- **A late write leaves an entry behind.** Stream 0 was closed when it is written to again: ngtcp2
does not find it, and an empty entry stays that no stream is open for. -/
theorem refused_leaves_entry :
    ∃ s s', exec (StreamFlight.step exactAllocator) {}
        [.opened 0, .flight (.write 0 [1] (some 1)), .flight (.acked 0 0 1), .flight (.closed 0)] =
          some s ∧
      LegalExec (StreamFlight.step exactAllocator) StreamFlight.Legal {}
        [.opened 0, .flight (.write 0 [1] (some 1)), .flight (.acked 0 0 1), .flight (.closed 0),
          .flight (.write 0 [2] none)] ∧
      s.step exactAllocator (.flight (.write 0 [2] none)) = some s' ∧
      s.view 0 = none ∧ s'.view 0 = some (0, []) ∧ ¬ s'.KeysOpen := by
  refine ⟨_, _, rfl, by decide, rfl, by decide, by decide, fun hopen => ?_⟩
  exact absurd (hopen 0 (by decide)) (by decide)

end Ngtcp2Rs
