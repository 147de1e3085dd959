import Mathlib.Data.List.Basic
import Mathlib.Logic.Function.Basic
import Ngtcp2Rs.Lib.Run

/-!
# Bounded mailboxes

Many tasks put messages into a mailbox and one takes them out; a message that finds `cap` others
waiting is dropped. A mailbox keeps its history: what was offered, with the number of messages that
waited then, and what was received.

* `fifo_run`: in every run, what was received and what waits are the messages that found room, in
  their order.
-/

namespace Lib

variable {ι α : Type}

/-- What happens to a mailbox. -/
inductive MailOp (ι α : Type) where
  | opened (i : ι)
  | offer (i : ι) (msg : α)
  | take (i : ι)
  | close (i : ι)
  deriving DecidableEq

/-- A mailbox and its history. -/
@[ext] structure Mailbox (α : Type) where
  waiting : List α := []
  received : List α := []
  /-- the messages, each with how many waited when it came -/
  offered : List (α × ℕ) := []
  deriving DecidableEq

namespace Mailbox

/-- Put a message in, if there is room. -/
def offer (cap : ℕ) (msg : α) (b : Mailbox α) : Mailbox α :=
  { b with
    waiting := if b.waiting.length < cap then b.waiting ++ [msg] else b.waiting
    offered := b.offered ++ [(msg, b.waiting.length)] }

/-- Take the first message out, if there is one. -/
def take (b : Mailbox α) : Mailbox α :=
  match b.waiting with
  | [] => b
  | msg :: waiting => { b with waiting, received := b.received ++ [msg] }

/-- The messages that found room. -/
def accepted (cap : ℕ) (b : Mailbox α) : List α :=
  (b.offered.filter fun o => o.2 < cap).map Prod.fst

/-- First in, first out. -/
structure Fifo (cap : ℕ) (b : Mailbox α) : Prop where
  inOrder : b.received ++ b.waiting = b.accepted cap
  bounded : b.waiting.length ≤ cap

variable {cap : ℕ} {b : Mailbox α}

theorem fifo_empty (cap : ℕ) : Fifo cap ({} : Mailbox α) := ⟨rfl, Nat.zero_le cap⟩

theorem Fifo.offer (h : b.Fifo cap) (msg : α) : (b.offer cap msg).Fifo cap := by
  by_cases hroom : b.waiting.length < cap
  · refine ⟨?_, ?_⟩
    · simp only [Mailbox.offer, accepted, if_pos hroom, List.filter_append, List.map_append]
      rw [← List.append_assoc, h.inOrder]
      simp [accepted, hroom]
    · simp only [Mailbox.offer, if_pos hroom, List.length_append, List.length_singleton]
      omega
  · refine ⟨?_, ?_⟩
    · simp only [Mailbox.offer, accepted, if_neg hroom, List.filter_append, List.map_append]
      rw [h.inOrder]
      simp [accepted, hroom]
    · simp only [Mailbox.offer, if_neg hroom]
      exact h.bounded

theorem Fifo.take (h : b.Fifo cap) : b.take.Fifo cap := by
  unfold Mailbox.take
  split
  · exact h
  · next msg waiting hwaiting =>
    have hlen := h.bounded
    rw [hwaiting, List.length_cons] at hlen
    refine ⟨?_, by dsimp only; omega⟩
    have horder := h.inOrder
    rw [hwaiting] at horder
    simpa [accepted] using horder

theorem waiting_offer (cap : ℕ) (msg : α) (b : Mailbox α) :
    (b.offer cap msg).waiting =
      if b.waiting.length < cap then b.waiting ++ [msg] else b.waiting := rfl

theorem waiting_take (b : Mailbox α) : b.take.waiting = b.waiting.tail := by
  unfold take
  split
  · next h => rw [h, List.tail_nil]
  · next h => rw [h, List.tail_cons]

end Mailbox

/-- Mailboxes by their names. -/
abbrev Mailboxes (ι α : Type) : Type := ι → Option (Mailbox α)

namespace Mailboxes

variable [DecidableEq ι]

/-- One operation. A message for a mailbox that is not open goes nowhere. -/
def step (cap : ℕ) (m : Mailboxes ι α) : MailOp ι α → Mailboxes ι α
  | .opened i => Function.update m i (some {})
  | .offer i msg => Function.update m i ((m i).map (·.offer cap msg))
  | .take i => Function.update m i ((m i).map (·.take))
  | .close i => Function.update m i none

/-- Every open mailbox is first in, first out. -/
def Fifo (cap : ℕ) (m : Mailboxes ι α) : Prop := ∀ i b, m i = some b → b.Fifo cap

variable {cap : ℕ} {m : Mailboxes ι α}

theorem Fifo.update (h : m.Fifo cap) (i : ι) {v : Option (Mailbox α)}
    (hv : ∀ b, v = some b → b.Fifo cap) : Mailboxes.Fifo cap (Function.update m i v) := by
  intro j b hb
  by_cases hj : j = i
  · subst hj
    rw [Function.update_self] at hb
    exact hv b hb
  · rw [Function.update_of_ne hj] at hb
    exact h j b hb

theorem Fifo.step (h : m.Fifo cap) (op : MailOp ι α) : (m.step cap op).Fifo cap := by
  cases op with
  | opened i =>
    refine h.update i fun b hb => ?_
    cases hb
    exact Mailbox.fifo_empty cap
  | offer i msg =>
    refine h.update i fun b hb => ?_
    obtain ⟨b, hi, rfl⟩ := Option.map_eq_some_iff.mp hb
    exact (h i b hi).offer msg
  | take i =>
    refine h.update i fun b hb => ?_
    obtain ⟨b, hi, rfl⟩ := Option.map_eq_some_iff.mp hb
    exact (h i b hi).take
  | close i =>
    refine h.update i fun b hb => ?_
    cases hb

/-- **First in, first out.** Whatever was done with mailboxes that were not open at first, each open
one received the messages that found room in it, in their order, but for those that still wait. -/
theorem fifo_run (cap : ℕ) (ops : List (MailOp ι α)) :
    Fifo cap (run (step cap) (fun _ => none) ops) :=
  run_preserves (I := Fifo cap) (fun _ op h => Fifo.step h op) ops _ fun _ _ h => by cases h

end Mailboxes

end Lib
