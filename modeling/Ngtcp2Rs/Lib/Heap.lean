import Ngtcp2Rs.Lib.Run
import Mathlib.Logic.Function.Basic

/-!
# Resources

What a program does with the resources that it takes and gives back by hand. A `Heap` says which ones
are allocated; allocating one again, and using or freeing one that is not there, is a fault. Blocks of
operations are run with `exec`, which stops at a fault.

* `Heap.exec_uses`, `Heap.exec_frees`: blocks that only use, or only free;
* `Heap.put`: some resources set, the others left.
-/

namespace Lib

/-- What is done with a resource. -/
inductive HeapOp (R : Type) where
  | alloc (r : R)
  | use (r : R)
  | free (r : R)
  deriving DecidableEq

/-- The resources that are allocated. -/
abbrev Heap (R : Type) : Type := R → Bool

namespace Heap

variable {R : Type} [DecidableEq R]

/-- One operation; `none` is a fault. -/
def step (h : Heap R) : HeapOp R → Option (Heap R)
  | .alloc r => if h r then none else some (Function.update h r true)
  | .use r => if h r then some h else none
  | .free r => if h r then some (Function.update h r false) else none

/-- The resources of `rs` set to `b`. -/
def put (h : Heap R) (rs : List R) (b : Bool) : Heap R := fun r => if r ∈ rs then b else h r

theorem put_of_mem {h : Heap R} {rs : List R} {b : Bool} {r : R} (hr : r ∈ rs) : h.put rs b r = b :=
  if_pos hr

theorem put_of_notMem {h : Heap R} {rs : List R} {b : Bool} {r : R} (hr : r ∉ rs) :
    h.put rs b r = h r := if_neg hr

@[simp] theorem put_nil (h : Heap R) (b : Bool) : h.put [] b = h := by
  funext r
  simp [put]

theorem update_of_eq {h : Heap R} {r : R} {b : Bool} (hr : h r = b) : Function.update h r b = h := by
  rw [← hr, Function.update_eq_self]

theorem put_cons (h : Heap R) (r : R) (rs : List R) (b : Bool) :
    h.put (r :: rs) b = put (Function.update h r b) rs b := by
  funext r'
  by_cases hrs : r' ∈ rs
  · rw [put_of_mem hrs, put_of_mem (List.mem_cons_of_mem r hrs)]
  · rw [put_of_notMem hrs]
    by_cases hr : r' = r
    · rw [hr, put_of_mem List.mem_cons_self, Function.update_self]
    · rw [Function.update_of_ne hr, put_of_notMem (by simp [hr, hrs])]

theorem put_append (h : Heap R) (rs rs' : List R) (b : Bool) :
    h.put (rs ++ rs') b = (h.put rs b).put rs' b := by
  funext r
  by_cases hr : r ∈ rs <;> simp [put, hr]

theorem exec_append (h : Heap R) (ops ops' : List (HeapOp R)) :
    exec step h (ops ++ ops') = (exec step h ops).bind fun h' => exec step h' ops' := by
  simp [exec, List.foldlM_append]

theorem exec_append_of_eq {h h' : Heap R} {ops : List (HeapOp R)} (hops : exec step h ops = some h')
    (ops' : List (HeapOp R)) : exec step h (ops ++ ops') = exec step h' ops' := by
  rw [exec_append, hops, Option.bind_some]

theorem exec_append_use {h h' : Heap R} {ops : List (HeapOp R)} {r : R}
    (hops : exec step h ops = some h') (hr : h' r = true) :
    exec step h (ops ++ [.use r]) = some h' := by
  rw [exec_append_of_eq hops, exec_cons, step, if_pos hr]
  rfl

/-- Resources that are there can be used. -/
theorem exec_uses (h : Heap R) : ∀ (rs : List R), (∀ r ∈ rs, h r = true) →
    exec step h (rs.map .use) = some h
  | [], _ => rfl
  | r :: rs, hrs => by
    rw [List.map_cons, exec_cons, step, if_pos (hrs r List.mem_cons_self)]
    exact exec_uses h rs fun r' hr' => hrs r' (List.mem_cons_of_mem r hr')

/-- Resources that are there can be freed, each once. -/
theorem exec_frees : ∀ (rs : List R) (h : Heap R), rs.Nodup → (∀ r ∈ rs, h r = true) →
    exec step h (rs.map .free) = some (h.put rs false)
  | [], h, _, _ => by
    rw [put_nil]
    rfl
  | r :: rs, h, hnodup, hrs => by
    obtain ⟨hr, hnodup⟩ := List.nodup_cons.mp hnodup
    rw [List.map_cons, exec_cons, step, if_pos (hrs r List.mem_cons_self), Option.bind_some,
      put_cons]
    refine exec_frees rs _ hnodup fun r' hr' => ?_
    have hne : r' ≠ r := fun heq => hr (heq ▸ hr')
    rw [Function.update_of_ne hne]
    exact hrs r' (List.mem_cons_of_mem r hr')

end Heap

end Lib
