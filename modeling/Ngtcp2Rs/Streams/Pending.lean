import Ngtcp2Rs.Lib.Map
import Ngtcp2Rs.Types

/-!
# Pending stream data

`PendingStreams` of `tokio-ngtcp2/src/streams.rs`: for each stream the bytes that ngtcp2 has not
accepted yet and whether a FIN is reserved behind them, with the stream IDs in sending order. The
two tables always have the same streams; the structure carries that as a field.

`view` forgets which streams have an entry: an absent stream has no bytes and no FIN. The queue
operations are described through it, and `prune` does not change it.
-/

namespace Ngtcp2Rs

open Lib

/-- The stream data waiting to be written. -/
structure PendingStreams where
  entries : Map StreamId (Bytes × Bool)
  order : OrdSet StreamId
  mem_order : ∀ id, id ∈ order ↔ id ∈ entries

namespace PendingStreams

/-- The empty queue. -/
def new : PendingStreams := ⟨∅, OrdSet.empty, fun id => by simp⟩

/-- The bytes and the FIN reservation of a stream. -/
def view (p : PendingStreams) (id : StreamId) : Bytes × Bool := (p.entries.lookup id).getD ([], false)

/-- The stream has bytes or a FIN to send. -/
def Waiting (p : PendingStreams) (id : StreamId) : Prop := p.view id ≠ ([], false)

instance (p : PendingStreams) (id : StreamId) : Decidable (p.Waiting id) :=
  inferInstanceAs (Decidable (p.view id ≠ ([], false)))

/-- Queue `data`, and a FIN behind it if `fin`. -/
def push (p : PendingStreams) (id : StreamId) (data : Bytes) (fin : Bool) : PendingStreams :=
  let entry := (p.entries.lookup id).getD ([], false)
  { entries := p.entries.insert id (entry.1 ++ data, entry.2 || fin)
    order := p.order.insert id
    mem_order := fun i => by simp [AList.mem_insert, p.mem_order] }

/-- Drop what a stream has pending. -/
def remove (p : PendingStreams) (id : StreamId) : PendingStreams where
  entries := p.entries.erase id
  order := p.order.remove id
  mem_order i := by simp [AList.mem_erase, p.mem_order]

/-- Nothing is pending. -/
def isEmpty (p : PendingStreams) : Bool := p.order.toList.isEmpty

/-- The streams in sending order. -/
def orderedIds (p : PendingStreams) : List StreamId := p.order.toList

/-- The streams that have something to send, in sending order. -/
def waitingIds (p : PendingStreams) : List StreamId := p.orderedIds.filter fun id => p.Waiting id

/-- Remove a stream that has neither bytes nor a FIN left. -/
def prune (p : PendingStreams) (id : StreamId) : PendingStreams :=
  match p.entries.lookup id with
  | some (data, fin) => if data.isEmpty && !fin then p.remove id else p
  | none => p

/-- Take the first `consumed` bytes off a stream's entry, and its FIN if `finSent`. -/
def consume (p : PendingStreams) (id : StreamId) (consumed : ℕ) (finSent : Bool) : PendingStreams :=
  match h : p.entries.lookup id with
  | some (data, fin) =>
    { entries := p.entries.insert id (data.drop (min consumed data.length), fin && !finSent)
      order := p.order
      mem_order := fun i => by
        rw [AList.mem_insert, p.mem_order]
        have : id ∈ p.entries := Map.mem_iff_lookup.mpr ⟨_, h⟩
        constructor
        · exact Or.inr
        · rintro (rfl | hi)
          · exact this
          · exact hi }
  | none => p

/-! ## Views -/

section View

variable (p : PendingStreams) (id i : StreamId)

theorem view_push (data : Bytes) (fin : Bool) :
    (p.push id data fin).view i =
      if i = id then ((p.view id).1 ++ data, (p.view id).2 || fin) else p.view i := by
  unfold view push
  rw [Map.lookup_insert_if]
  split_ifs <;> rfl

theorem view_remove : (p.remove id).view i = if i = id then ([], false) else p.view i := by
  unfold view remove
  rw [Map.lookup_erase_if]
  split_ifs <;> rfl

/-- **Pruning is invisible**: the removed entry had nothing to send. -/
@[simp] theorem view_prune : (p.prune id).view i = p.view i := by
  unfold prune
  split
  · rename_i data fin hl
    split_ifs with h
    · rw [view_remove]
      split_ifs with hi
      · subst hi
        simp only [Bool.and_eq_true, List.isEmpty_iff, Bool.not_eq_true'] at h
        simp [view, hl, h.1, h.2]
      · rfl
    · rfl
  · rfl

theorem view_consume (consumed : ℕ) (finSent : Bool) :
    (p.consume id consumed finSent).view i =
      if i = id then ((p.view id).1.drop consumed, (p.view id).2 && !finSent) else p.view i := by
  unfold consume
  split
  · rename_i data fin hl
    simp only [view, Map.lookup_insert_if, hl, Option.getD_some]
    split_ifs
    · rw [Option.getD_some, Prod.mk.injEq]
      refine ⟨?_, rfl⟩
      rcases Nat.le_total consumed data.length with h | h
      · rw [Nat.min_eq_left h]
      · rw [Nat.min_eq_right h, List.drop_length, List.drop_of_length_le h]
    · rfl
  · rename_i hl
    split_ifs with hi
    · subst hi; simp [view, hl]
    · rfl

theorem view_of_lookup {entry : Bytes × Bool} (h : p.entries.lookup id = some entry) :
    p.view id = entry := by
  simp [view, h]

theorem Waiting.mem {p : PendingStreams} {id : StreamId} (h : p.Waiting id) :
    id ∈ p.orderedIds := by
  by_contra hc
  have : id ∉ p.entries := fun hm => hc ((p.mem_order id).mpr hm)
  exact h (by rw [view, AList.lookup_eq_none.mpr this]; rfl)

theorem mem_waitingIds : id ∈ p.waitingIds ↔ p.Waiting id := by
  rw [waitingIds, List.mem_filter, decide_eq_true_iff]
  exact ⟨And.right, fun h => ⟨h.mem, h⟩⟩

end View

end PendingStreams

end Ngtcp2Rs
