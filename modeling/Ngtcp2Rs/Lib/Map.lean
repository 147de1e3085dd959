import Mathlib.Data.List.AList
import Mathlib.Data.List.Sort

/-!
# Finite maps and ordered sets

* `Map K V`: a finite map with an enumeration of its keys; Mathlib's association lists at a
  constant family. Added here: the lookup lemmas in `if` form, `retain` (keep the entries that
  pass a test), `keysWhere` (the keys of those entries) and the size bounds.
* `OrdSet α`: a finite set kept as a strictly increasing list, so that iteration is in order.
-/

namespace Lib

/-- A finite map from `K` to `V`. -/
abbrev Map (K V : Type) : Type := AList fun _ : K => V

namespace Map

variable {K V : Type} [DecidableEq K]

theorem lookup_insert_if (m : Map K V) (k k' : K) (v : V) :
    (AList.insert k v m).lookup k' = if k' = k then some v else m.lookup k' := by
  split_ifs with h
  · subst h; exact AList.lookup_insert m
  · exact AList.lookup_insert_ne h

theorem lookup_erase_if (m : Map K V) (k k' : K) :
    (AList.erase k m).lookup k' = if k' = k then none else m.lookup k' := by
  split_ifs with h
  · subst h; exact AList.lookup_erase k' m
  · exact AList.lookup_erase_ne h

/-- What is found after an insertion was inserted, or it was there. -/
theorem of_lookup_insert {m : Map K V} {k k' : K} {v v' : V}
    (h : (AList.insert k v m).lookup k' = some v') :
    (k' = k ∧ v' = v) ∨ (k' ≠ k ∧ m.lookup k' = some v') := by
  rw [lookup_insert_if] at h
  split_ifs at h with hk
  · exact .inl ⟨hk, (Option.some.inj h).symm⟩
  · exact .inr ⟨hk, h⟩

theorem of_lookup_erase {m : Map K V} {k k' : K} {v : V}
    (h : (AList.erase k m).lookup k' = some v) : k' ≠ k ∧ m.lookup k' = some v := by
  rw [lookup_erase_if] at h
  split_ifs at h with hk
  exact ⟨hk, h⟩

theorem mem_iff_lookup {m : Map K V} {k : K} : k ∈ m ↔ ∃ v, m.lookup k = some v := by
  rw [← AList.lookup_isSome, Option.isSome_iff_exists]

/-- Keep the entries that pass `p`. -/
def retain (p : K → V → Bool) (m : Map K V) : Map K V :=
  ⟨m.entries.filter fun e => p e.1 e.2, m.nodupKeys.sublist List.filter_sublist⟩

theorem lookup_retain (p : K → V → Bool) (m : Map K V) (k : K) :
    (m.retain p).lookup k = (m.lookup k).filter (p k) := by
  ext v
  have h : v ∈ (m.retain p).lookup k ↔ v ∈ m.lookup k ∧ p k v = true := by
    rw [AList.mem_lookup_iff, AList.mem_lookup_iff]
    simp [retain]
  simpa [Option.mem_def, Option.filter_eq_some_iff] using h

/-- The keys of the entries that pass `p`. -/
def keysWhere (p : K → V → Bool) (m : Map K V) : List K :=
  (m.entries.filter fun e => p e.1 e.2).map (·.1)

theorem mem_keysWhere {p : K → V → Bool} {m : Map K V} {k : K} :
    k ∈ m.keysWhere p ↔ ∃ v, m.lookup k = some v ∧ p k v = true := by
  constructor
  · intro h
    obtain ⟨⟨k', v⟩, he, rfl⟩ := List.mem_map.mp h
    obtain ⟨he, hp⟩ := List.mem_filter.mp he
    exact ⟨v, AList.mem_lookup_iff.mpr he, hp⟩
  · rintro ⟨v, hv, hp⟩
    exact List.mem_map.mpr ⟨⟨k, v⟩, List.mem_filter.mpr ⟨AList.mem_lookup_iff.mp hv, hp⟩, rfl⟩

/-- The number of entries. -/
def size (m : Map K V) : ℕ := m.entries.length

omit [DecidableEq K] in
theorem size_eq_keys (m : Map K V) : m.size = m.keys.length := by
  simp [size, AList.keys, List.keys]

theorem size_erase_le (m : Map K V) (k : K) : size (AList.erase k m) ≤ m.size := by
  rw [size_eq_keys, size_eq_keys, AList.keys_erase]
  exact List.length_erase_le

theorem size_insert_le (m : Map K V) (k : K) (v : V) :
    size (AList.insert k v m) ≤ m.size + 1 := by
  rw [size_eq_keys, size_eq_keys, AList.keys_insert, List.length_cons]
  exact Nat.succ_le_succ List.length_erase_le

theorem size_insert_of_mem {m : Map K V} {k : K} (hk : k ∈ m) (v : V) :
    size (AList.insert k v m) = m.size := by
  rw [size_eq_keys, size_eq_keys, AList.keys_insert, List.length_cons,
    List.length_erase_of_mem (AList.mem_keys.mp hk)]
  have hpos : 0 < m.keys.length := List.length_pos_of_mem (AList.mem_keys.mp hk)
  omega

end Map

/-- A finite set iterated in increasing order. -/
structure OrdSet (α : Type) [LinearOrder α] where
  toList : List α
  sorted : toList.Pairwise (· < ·)

namespace OrdSet

variable {α : Type} [LinearOrder α]

instance : Membership α (OrdSet α) := ⟨fun s a => a ∈ s.toList⟩

instance (a : α) (s : OrdSet α) : Decidable (a ∈ s) := inferInstanceAs (Decidable (a ∈ s.toList))

@[simp] theorem mem_toList {s : OrdSet α} {a : α} : a ∈ s.toList ↔ a ∈ s := Iff.rfl

/-- The empty set. -/
def empty : OrdSet α := ⟨[], List.Pairwise.nil⟩

@[simp] theorem not_mem_empty (a : α) : a ∉ (empty : OrdSet α) := List.not_mem_nil

theorem sorted_orderedInsert {l : List α} (h : l.Pairwise (· < ·)) {a : α} (ha : a ∉ l) :
    (l.orderedInsert (· ≤ ·) a).Pairwise (· < ·) := by
  have hle : (l.orderedInsert (· ≤ ·) a).Pairwise (· ≤ ·) :=
    (h.imp fun hlt => le_of_lt hlt).orderedInsert a l
  have hnd : (l.orderedInsert (· ≤ ·) a).Nodup := by
    rw [(List.perm_orderedInsert (· ≤ ·) a l).nodup_iff, List.nodup_cons]
    exact ⟨ha, h.imp fun hlt => ne_of_lt hlt⟩
  exact (hle.and hnd).imp fun ⟨h₁, h₂⟩ => lt_of_le_of_ne h₁ h₂

/-- Add an element. -/
def insert (a : α) (s : OrdSet α) : OrdSet α :=
  if h : a ∈ s.toList then s else ⟨s.toList.orderedInsert (· ≤ ·) a, sorted_orderedInsert s.sorted h⟩

@[simp] theorem mem_insert {a b : α} {s : OrdSet α} : b ∈ s.insert a ↔ b = a ∨ b ∈ s := by
  unfold insert
  split_ifs with h
  · constructor
    · exact Or.inr
    · rintro (rfl | hb)
      · exact h
      · exact hb
  · exact List.mem_orderedInsert (· ≤ ·)

/-- Remove an element. -/
def remove (a : α) (s : OrdSet α) : OrdSet α :=
  ⟨s.toList.erase a, s.sorted.sublist List.erase_sublist⟩

theorem nodup (s : OrdSet α) : s.toList.Nodup := s.sorted.imp fun h => ne_of_lt h

@[simp] theorem mem_remove {a b : α} {s : OrdSet α} : b ∈ s.remove a ↔ b ≠ a ∧ b ∈ s :=
  s.nodup.mem_erase_iff

/-! ### The last element that a function accepts -/

section FindLast

variable {β : Type} (s : OrdSet α) (f : α → Option β)

theorem findSome?_reverse_eq_none :
    s.toList.reverse.findSome? f = none ↔ ∀ a ∈ s, f a = none := by
  rw [List.findSome?_eq_none_iff]
  simp

/-- Searched from its end, an ordered set gives the largest element with an answer. -/
theorem findSome?_reverse_eq_some {b : β} :
    s.toList.reverse.findSome? f = some b ↔
      ∃ a ∈ s, f a = some b ∧ ∀ a' ∈ s, a < a' → f a' = none := by
  rw [List.findSome?_eq_some_iff]
  constructor
  · rintro ⟨l₁, a, l₂, hl, hb, hnone⟩
    have hlist : s.toList = l₂.reverse ++ a :: l₁.reverse := by
      rw [← List.reverse_reverse s.toList, hl]
      simp
    have hsorted := s.sorted
    rw [hlist, List.pairwise_append] at hsorted
    refine ⟨a, ?_, hb, fun a' ha' hlt => ?_⟩
    · rw [← mem_toList, hlist]
      simp
    · rw [← mem_toList, hlist] at ha'
      rcases List.mem_append.mp ha' with ha' | ha'
      · exact absurd hlt (lt_asymm (hsorted.2.2 a' ha' a List.mem_cons_self))
      · rcases List.mem_cons.mp ha' with rfl | ha'
        · exact absurd hlt (lt_irrefl _)
        · exact hnone a' (List.mem_reverse.mp ha')
  · rintro ⟨a, ha, hb, hnone⟩
    obtain ⟨l₁, l₂, hl⟩ := List.append_of_mem ha
    refine ⟨l₂.reverse, a, l₁.reverse, by rw [hl]; simp, hb, fun a' ha' => ?_⟩
    have hsorted := s.sorted
    rw [hl, List.pairwise_append] at hsorted
    have ha'' : a' ∈ l₂ := List.mem_reverse.mp ha'
    refine hnone a' ?_ ((List.pairwise_cons.mp hsorted.2.1).1 a' ha'')
    rw [← mem_toList, hl]
    simp [ha'']

end FindLast

end OrdSet

end Lib
