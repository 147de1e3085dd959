import Mathlib.Data.Nat.Bitwise
import Mathlib.Tactic.Ring

/-!
# Byte strings and machine words

Computations on byte strings that can end early: with `None`, through the `?` operator, or with a
panic. `Safe` says that a computation does not panic; it composes along `bind`.

* `getAt`, `getRange`, `getFrom`: reads that answer `None` out of range; `index`, `slice`,
  `splitAt`: reads that panic there.
* `checkedAdd`, `tryFrom`, `add`, `sub`, `shl`: arithmetic on `usize`, whose width is a parameter.
* `fromBe`, `toBe`: big-endian numbers; `Endian`: the byte order of a machine.
-/

namespace Lib

/-! ## Early exits -/

/-- How a computation ends early: `none` is the `None` of the `?` operator. -/
inductive Exit where
  | none
  | outOfRange
  | overflow
  | outOfFuel
  deriving DecidableEq, Repr

/-- The computation does not panic. -/
def Safe {α : Type} (x : Except Exit α) : Prop := ∀ e, x = .error e → e = .none

section Safe

variable {α β : Type}

theorem safe_ok (a : α) : Safe (.ok a : Except Exit α) := by
  intro e h
  cases h

theorem safe_none : Safe (.error .none : Except Exit α) := by
  intro e h
  cases h
  rfl

@[simp] theorem ok_bind (a : α) (f : α → Except Exit β) : (Except.ok a >>= f) = f a := rfl

theorem Safe.bind {x : Except Exit α} {f : α → Except Exit β} (hx : Safe x)
    (hf : ∀ a, x = .ok a → Safe (f a)) : Safe (x >>= f) := by
  cases x with
  | error e =>
    intro e' h
    cases h
    exact hx e rfl
  | ok a => exact hf a rfl

theorem bind_eq_ok {x : Except Exit α} {f : α → Except Exit β} {b : β} :
    x >>= f = .ok b ↔ ∃ a, x = .ok a ∧ f a = .ok b := by
  cases x with
  | error e =>
    constructor
    · intro h; cases h
    · rintro ⟨_, h, -⟩; cases h
  | ok a =>
    constructor
    · exact fun h => ⟨a, rfl, h⟩
    · rintro ⟨_, ⟨⟩, h⟩; exact h

end Safe

/-! ## Words -/

/-- The pointer widths of Rust targets. -/
inductive PointerWidth where
  | w16
  | w32
  | w64
  deriving DecidableEq, Repr

namespace PointerWidth

/-- The width in bits. -/
def bits : PointerWidth → ℕ
  | w16 => 16
  | w32 => 32
  | w64 => 64

/-- `usize::MAX`. -/
def usizeMax (w : PointerWidth) : ℕ := 2 ^ w.bits - 1

/-- `isize::MAX`, the bound on the length of a slice. -/
def isizeMax (w : PointerWidth) : ℕ := 2 ^ (w.bits - 1) - 1

theorem isizeMax_lt_usizeMax (w : PointerWidth) : w.isizeMax < w.usizeMax := by
  cases w <;> decide

end PointerWidth

section Words

variable (w : PointerWidth)

/-- `checked_add`, then `?`. -/
def checkedAdd (a b : ℕ) : Except Exit ℕ :=
  if a + b ≤ w.usizeMax then .ok (a + b) else .error .none

/-- `usize::try_from`, then `?`. -/
def tryFrom (n : ℕ) : Except Exit ℕ := if n ≤ w.usizeMax then .ok n else .error .none

/-- `a + b`. -/
def add (a b : ℕ) : Except Exit ℕ := if a + b ≤ w.usizeMax then .ok (a + b) else .error .overflow

/-- `a - b`. -/
def sub (a b : ℕ) : Except Exit ℕ := if b ≤ a then .ok (a - b) else .error .overflow

/-- `1usize << n`. -/
def shl (n : ℕ) : Except Exit ℕ := if n < w.bits then .ok (2 ^ n) else .error .overflow

variable {w}

theorem checkedAdd_ok {a b : ℕ} (h : a + b ≤ w.usizeMax) : checkedAdd w a b = .ok (a + b) :=
  if_pos h

theorem of_checkedAdd {a b n : ℕ} (h : checkedAdd w a b = .ok n) : n = a + b := by
  unfold checkedAdd at h
  split_ifs at h
  cases h
  rfl

theorem add_ok {a b : ℕ} (h : a + b ≤ w.usizeMax) : add w a b = .ok (a + b) := if_pos h

theorem tryFrom_ok {n : ℕ} (h : n ≤ w.usizeMax) : tryFrom w n = .ok n := if_pos h

theorem shl_ok {n : ℕ} (h : n < 16) : shl w n = .ok (2 ^ n) := by
  refine if_pos (lt_of_lt_of_le h ?_)
  cases w <;> decide

theorem safe_checkedAdd (a b : ℕ) : Safe (checkedAdd w a b) := by
  unfold checkedAdd
  split_ifs
  · exact safe_ok _
  · exact safe_none

theorem safe_tryFrom (n : ℕ) : Safe (tryFrom w n) := by
  unfold tryFrom
  split_ifs
  · exact safe_ok _
  · exact safe_none

end Words

/-! ## Reads -/

/-- A slice: no longer than `isize::MAX` bytes. -/
structure Slice (w : PointerWidth) where
  bytes : List UInt8
  length_le : bytes.length ≤ w.isizeMax

/-- `buf.get(i)?`. -/
def getAt {α : Type} (buf : List α) (i : ℕ) : Except Exit α :=
  match buf[i]? with
  | some b => .ok b
  | none => .error .none

/-- `buf.get(a..b)?`. -/
def getRange {α : Type} (buf : List α) (a b : ℕ) : Except Exit (List α) :=
  if a ≤ b ∧ b ≤ buf.length then .ok ((buf.drop a).take (b - a)) else .error .none

/-- `buf.get(a..)?`. -/
def getFrom {α : Type} (buf : List α) (a : ℕ) : Except Exit (List α) :=
  if a ≤ buf.length then .ok (buf.drop a) else .error .none

/-- `buf[i]`. -/
def index {α : Type} (buf : List α) (i : ℕ) : Except Exit α :=
  match buf[i]? with
  | some b => .ok b
  | none => .error .outOfRange

/-- `&buf[a..b]`. -/
def slice {α : Type} (buf : List α) (a b : ℕ) : Except Exit (List α) :=
  if a ≤ b ∧ b ≤ buf.length then .ok ((buf.drop a).take (b - a)) else .error .outOfRange

/-- `buf.split_at(n)`. -/
def splitAt {α : Type} (buf : List α) (n : ℕ) : Except Exit (List α × List α) :=
  if n ≤ buf.length then .ok (buf.take n, buf.drop n) else .error .outOfRange

section Reads

variable {α : Type} {buf rest : List α} {a b : ℕ} {x : α}

/-- A read at a position is known from what is left of the buffer there. -/
theorem getAt_of_drop (h : buf.drop a = x :: rest) : getAt buf a = .ok x := by
  have hx : buf[a]? = some x := by
    rw [← List.head?_drop, h]
    rfl
  unfold getAt
  rw [hx]

theorem getFrom_of_drop (h : buf.drop a = rest) (hne : rest ≠ []) : getFrom buf a = .ok rest := by
  have hlt : a < buf.length := by
    rw [← h, Ne, List.drop_eq_nil_iff] at hne
    omega
  unfold getFrom
  rw [if_pos hlt.le, h]

theorem getRange_of_drop {mid : List α} (h : buf.drop a = mid ++ rest)
    (hb : b = a + mid.length) (hne : mid ≠ []) : getRange buf a b = .ok mid := by
  have hlen := congrArg List.length h
  rw [List.length_drop, List.length_append] at hlen
  have hpos := List.length_pos_iff.mpr hne
  unfold getRange
  rw [if_pos ⟨by omega, by omega⟩, h, hb, Nat.add_sub_cancel_left, List.take_left]

theorem drop_add_of_drop {mid : List α} (h : buf.drop a = mid ++ rest)
    (hb : b = a + mid.length) : buf.drop b = rest := by
  rw [hb, ← List.drop_drop, h, List.drop_left]

theorem safe_getAt (a : ℕ) : Safe (getAt buf a) := by
  unfold getAt
  split
  · exact safe_ok _
  · exact safe_none

theorem safe_getRange (a b : ℕ) : Safe (getRange buf a b) := by
  unfold getRange
  split_ifs
  · exact safe_ok _
  · exact safe_none

theorem safe_getFrom (a : ℕ) : Safe (getFrom buf a) := by
  unfold getFrom
  split_ifs
  · exact safe_ok _
  · exact safe_none

end Reads

/-! ## Big-endian numbers -/

/-- `from_be_bytes`. -/
def fromBe : List UInt8 → ℕ
  | [] => 0
  | b :: bs => b.toNat * 256 ^ bs.length + fromBe bs

/-- The `len` low bytes of `n`, the highest first. -/
def toBe : ℕ → ℕ → List UInt8
  | 0, _ => []
  | len + 1, n => UInt8.ofNat (n / 256 ^ len) :: toBe len n

@[simp] theorem length_toBe (len n : ℕ) : (toBe len n).length = len := by
  induction len with
  | zero => rfl
  | succ len ih => simp [toBe, ih]

theorem fromBe_toBe (len n : ℕ) : fromBe (toBe len n) = n % 256 ^ len := by
  induction len with
  | zero => simp [toBe, fromBe, Nat.mod_one]
  | succ len ih =>
    have hbyte : (UInt8.ofNat (n / 256 ^ len)).toNat = n / 256 ^ len % 256 := rfl
    rw [toBe, fromBe, ih, length_toBe, hbyte, Nat.mod_pow_succ]
    ring

theorem fromBe_lt (bs : List UInt8) : fromBe bs < 256 ^ bs.length := by
  induction bs with
  | nil => simp [fromBe]
  | cons b bs ih =>
    have hb : b.toNat + 1 ≤ 256 := b.toNat_lt
    have hmul := Nat.mul_le_mul_right (256 ^ bs.length) hb
    rw [fromBe, List.length_cons, pow_succ']
    rw [Nat.add_mul, Nat.one_mul] at hmul
    omega

/-- Higher digits do not show. -/
theorem toBe_mul_add (len a n : ℕ) : toBe len (a * 256 ^ len + n) = toBe len n := by
  induction len generalizing a with
  | zero => rfl
  | succ len ih =>
    have hpos : 0 < 256 ^ len := Nat.pow_pos (by decide)
    have hpow : a * 256 ^ (len + 1) + n = (a * 256) * 256 ^ len + n := by ring
    have hdiv : (a * 256 * 256 ^ len + n) / 256 ^ len = a * 256 + n / 256 ^ len := by
      rw [Nat.mul_comm _ (256 ^ len)]
      exact Nat.mul_add_div hpos _ _
    have hbyte : UInt8.ofNat (a * 256 + n / 256 ^ len) = UInt8.ofNat (n / 256 ^ len) := by
      apply UInt8.toNat_inj.mp
      change (a * 256 + n / 256 ^ len) % 256 = n / 256 ^ len % 256
      omega
    rw [hpow, toBe, toBe, hdiv, hbyte, ih]

theorem toBe_fromBe (bs : List UInt8) : toBe bs.length (fromBe bs) = bs := by
  induction bs with
  | nil => rfl
  | cons b bs ih =>
    have hpos : 0 < 256 ^ bs.length := Nat.pow_pos (by decide)
    have hdiv : (b.toNat * 256 ^ bs.length + fromBe bs) / 256 ^ bs.length = b.toNat := by
      rw [Nat.mul_comm, Nat.mul_add_div hpos, Nat.div_eq_of_lt (fromBe_lt bs), Nat.add_zero]
    rw [fromBe, List.length_cons, toBe, hdiv, toBe_mul_add, ih, UInt8.ofNat_toNat]

/-! ## Byte order -/

/-- The byte order of a machine. -/
inductive Endian where
  | little
  | big
  deriving DecidableEq, Repr

namespace Endian

/-- `from_ne_bytes`: the number that has the bytes `bs` in memory. -/
def fromNe (e : Endian) (bs : List UInt8) : ℕ :=
  match e with
  | little => fromBe bs.reverse
  | big => fromBe bs

/-- `to_be` and `from_be` on `len` bytes, which swap them on a little-endian machine. -/
def swapBe (e : Endian) (len n : ℕ) : ℕ :=
  match e with
  | little => fromBe (toBe len n).reverse
  | big => n

variable {e : Endian} {len n : ℕ}

theorem swapBe_lt (h : n < 256 ^ len) : e.swapBe len n < 256 ^ len := by
  cases e with
  | little =>
    have hlt := fromBe_lt (toBe len n).reverse
    rwa [List.length_reverse, length_toBe] at hlt
  | big => exact h

theorem swapBe_swapBe (h : n < 256 ^ len) : e.swapBe len (e.swapBe len n) = n := by
  cases e with
  | little =>
    have hlen : (toBe len n).reverse.length = len := by rw [List.length_reverse, length_toBe]
    have hdigits := toBe_fromBe (toBe len n).reverse
    rw [hlen] at hdigits
    unfold swapBe
    simp only
    rw [hdigits, List.reverse_reverse, fromBe_toBe, Nat.mod_eq_of_lt h]
  | big => rfl

/-- The bytes of a big-endian number are the number that `to_be` gives. -/
theorem fromNe_toBe (h : n < 256 ^ len) : e.fromNe (toBe len n) = e.swapBe len n := by
  cases e with
  | little => rfl
  | big => exact (fromBe_toBe len n).trans (Nat.mod_eq_of_lt h)

end Endian

end Lib
