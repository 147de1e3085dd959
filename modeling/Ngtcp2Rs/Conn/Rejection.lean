import Ngtcp2Rs.Conn.Bookkeeping

/-!
# In-flight data across an early-data rejection

When early data is rejected, ngtcp2 forgets its streams and counts reopened ones from zero, without
closing them. The callback of `ngtcp2/src/conn.rs` only queues an event, so the entries stay.

* `released_iff`: the entries of reopened streams count as ngtcp2 does exactly if no byte had been
  accepted on a stream that was open at the rejection.
* `rejected_bytes_kept`: a byte from before the rejection that is never released.
-/

namespace Ngtcp2Rs

open Lib

namespace InFlight

/-- The entries hold no bytes. -/
def Empty (s : InFlight) : Prop :=
  ∀ id e, s.user.inFlightStreamData.lookup id = some e → e.data.bytes = [] ∧ e.retired = []

/-- The entries count the streams as ngtcp2 does: `offset` is what is acknowledged, `data[start..]`
what is accepted and not acknowledged, and nothing is held of a stream that is acknowledged. -/
def Exact (s : InFlight) : Prop :=
  ∀ id e, s.user.inFlightStreamData.lookup id = some e →
    e.offset = (s.sent id).acked ∧
    e.data.bytes.drop e.start = (s.sent id).bytes.drop (s.sent id).acked ∧
    ((s.sent id).acked = (s.sent id).accepted.length → e.data.bytes = [] ∧ e.retired = [])

/-- The rejection releases what was in flight: the entries hold no bytes after it, and those of
reopened streams are exact from then on. -/
def ReleasesOnRejection (al : Allocator) (s : InFlight) : Prop :=
  ∃ s₁, s.step al .earlyDataRejected = some s₁ ∧ s₁.Empty ∧
    ∀ evs, LegalExec (InFlight.step al) InFlight.Legal s₁ evs →
      FlightEvent.earlyDataRejected ∉ evs →
        ∃ s₂, exec (InFlight.step al) s₁ evs = some s₂ ∧ s₂.Exact

/-- No byte was accepted on a stream that is open. -/
def Untouched (s : InFlight) : Prop :=
  ∀ id e, s.user.inFlightStreamData.lookup id = some e → e.offset = 0 ∧ e.data.bytes = []

variable {al : Allocator} {s : InFlight}

theorem Inv.exact (h : s.Inv True) : s.Exact := by
  intro id e he
  have hid := h.holds id
  rw [he] at hid
  obtain ⟨old, hold, htr⟩ := hid
  obtain rfl := hold trivial
  have hoff := htr.exact rfl
  have hlen := htr.length_eq
  rw [List.length_nil] at hlen
  refine ⟨hoff, ?_, fun hall => ⟨htr.cleared (by omega), ?_⟩⟩
  · rw [htr.content, hoff, List.nil_append]
  · rw [List.eq_nil_iff_forall_not_mem]
    intro r hr
    have hr := htr.retired r hr
    rw [List.length_nil] at hr
    omega

/-- An entry without bytes at offset zero has no past. -/
theorem untouched_fresh {old : Bytes} {t : Sent} {e : InFlightStreamData} (h : Tracked old t e)
    (hoff : e.offset = 0) (hbytes : e.data.bytes = []) : e.retired = [] ∧ Tracked [] {} e := by
  have hlen := h.length_eq
  have hstart := h.start_le
  rw [hoff, hbytes, List.length_nil] at hlen
  have hretired : e.retired = [] := by
    rw [List.eq_nil_iff_forall_not_mem]
    intro r hr
    have hr := h.retired r hr
    omega
  refine ⟨hretired, hstart, fun _ => hbytes, ?_, le_rfl, ?_, fun _ => hoff, ?_, ?_⟩
  · rw [hbytes, hoff, List.drop_nil]
    rfl
  · rw [hoff]
    exact Nat.zero_le _
  · intro r hr
    rw [hretired] at hr
    cases hr
  · intro x r _ hx
    cases hx

/-- Untouched entries count from zero, like ngtcp2 after the rejection. -/
theorem Inv.untouched (h : s.Inv False) (hu : s.Untouched) :
    ({ s with sent := fun _ => {} } : InFlight).Inv True := by
  refine ⟨fun id => ?_, h.handed⟩
  have hid := h.holds id
  simp only
  cases he : s.user.inFlightStreamData.lookup id with
  | none => rfl
  | some e =>
    rw [he] at hid
    obtain ⟨old, -, htr⟩ := hid
    obtain ⟨hoff, hbytes⟩ := hu id e he
    exact ⟨[], fun _ => rfl, (untouched_fresh htr hoff hbytes).2⟩

theorem Inv.empty (h : s.Inv False) (hu : s.Untouched) : s.Empty := by
  intro id e he
  have hid := h.holds id
  rw [he] at hid
  obtain ⟨old, -, htr⟩ := hid
  obtain ⟨hoff, hbytes⟩ := hu id e he
  exact ⟨hbytes, (untouched_fresh htr hoff hbytes).1⟩

end InFlight

/-- **When a rejection releases what was in flight.** In every run, the entries hold no bytes after a
rejection and are exact for the streams opened again, exactly if no byte had been accepted on a
stream that was open. -/
theorem released_iff (al : Allocator) (evs : List FlightEvent)
    (hl : LegalExec (InFlight.step al) InFlight.Legal {} evs) :
    ∃ s, exec (InFlight.step al) {} evs = some s ∧ (s.ReleasesOnRejection al ↔ s.Untouched) := by
  obtain ⟨s, hs, hi⟩ := exec_invariant (I := InFlight.Inv False)
    (fun s ev hi hl => hi.step hl fun hc => hc.elim) evs {} (InFlight.inv_init _) hl
  refine ⟨s, hs, ?_, fun hu => ?_⟩
  · rintro ⟨s₁, hstep, hempty, hexact⟩ id e he
    cases hstep
    -- the state right after the rejection already tells
    obtain ⟨s₂, hexec, hexact⟩ := hexact [] trivial (by simp)
    cases hexec
    exact ⟨(hexact id e he).1, (hempty id e he).1⟩
  · refine ⟨_, rfl, hi.empty hu, fun evs' hl' hev => ?_⟩
    obtain ⟨s₂, hs₂, hi₂⟩ := exec_invariant (I := InFlight.Inv True)
      (fun s ev hi hl => hi.step hl.1 fun _ => hl.2) evs' _ (hi.untouched hu)
      (hl'.and (Q := fun ev => ev ≠ .earlyDataRejected) fun ev hmem hc => hev (hc ▸ hmem))
    exact ⟨s₂, hs₂, hi₂.exact⟩

/-- A stream on which ngtcp2 accepted nothing before the rejection. -/
theorem released_iff_refused :
    let evs := [.write 0 [1, 2] none, .write 4 [3] (some 1), .closed 4]
    LegalExec (InFlight.step exactAllocator) InFlight.Legal {} evs ∧
      ∃ s, exec (InFlight.step exactAllocator) {} evs = some s ∧
        (s.ReleasesOnRejection exactAllocator ↔ s.Untouched) :=
  ⟨by decide, released_iff exactAllocator _ (by decide)⟩

/-- Two bytes are in flight when early data is rejected. The stream is opened again, and its one byte
is acknowledged: the old bytes are still there, and so is the new one. -/
theorem rejected_bytes_kept :
    ∃ s, exec (InFlight.step exactAllocator) {} [.write 0 [1, 2] (some 2)] = some s ∧
      LegalExec (InFlight.step exactAllocator) InFlight.Legal {}
        [.write 0 [1, 2] (some 2), .earlyDataRejected, .write 0 [3] (some 1), .acked 0 0 1] ∧
      (∃ s₂, exec (InFlight.step exactAllocator) s
          [.earlyDataRejected, .write 0 [3] (some 1), .acked 0 0 1] = some s₂ ∧
        (s₂.user.inFlightStreamData.lookup 0).map (fun e => e.data.bytes.drop e.start) =
          some [2, 3]) ∧
      ¬ s.ReleasesOnRejection exactAllocator := by
  refine ⟨_, rfl, by decide, ⟨_, rfl, by decide⟩, ?_⟩
  rintro ⟨s₁, hstep, hempty, -⟩
  cases hstep
  exact absurd (hempty 0 _ rfl).1 (by decide)

end Ngtcp2Rs
