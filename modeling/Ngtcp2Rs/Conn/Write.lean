import Ngtcp2Rs.Types

/-!
# Writing packets through ngtcp2

`ngtcp2_conn_writev_stream` and `ngtcp2_conn_write_pkt` are not part of this repository: a
connection is an environment `Ngtcp2 σ` that answers the two calls from a state `σ` of its own, in
any way. What `Connection::write_stream_with_flags` and `Connection::write_pkt` make of an answer
is `writeStreamResult` and `writePktResult`.

* `Ngtcp2.logged`: the same environment, keeping the list of the calls it was given.
* `Ngtcp2.Lawful`: no more is accepted than was offered, and nothing together with an error.
-/

namespace Ngtcp2Rs

/-- One call of `ngtcp2_conn_writev_stream`: the stream data it offers and its flags. -/
structure StreamOffer where
  streamId : StreamId
  data : Bytes
  /-- `NGTCP2_WRITE_STREAM_FLAG_FIN` -/
  fin : Bool
  /-- `NGTCP2_WRITE_STREAM_FLAG_MORE` -/
  more : Bool
  deriving DecidableEq, Repr

/-- What a write call leaves behind: the returned value, `*pdatalen`, the send buffer, the path
and the ECN mark. `ngtcp2_conn_write_pkt` has no `*pdatalen`; its answers keep it at `-1`. -/
structure WriteAnswer where
  rv : ℤ
  datalen : ℤ := -1
  buf : Bytes := []
  path : Option PathInfo := none
  ecn : UInt8 := 0
  deriving DecidableEq, Repr

/-- `None` when no STREAM frame was written, `Some(0)` for a zero-length one. -/
def WriteAnswer.dataWritten (a : WriteAnswer) : Option ℕ :=
  if 0 ≤ a.datalen then some a.datalen.toNat else none

/-- The tuple a successful write returns. -/
structure Written where
  written : ℕ
  dataWritten : Option ℕ
  path : Option PathInfo
  ecn : UInt8
  deriving DecidableEq, Repr

/-- How `write_stream_with_flags` reads an answer. -/
def writeStreamResult (id : StreamId) (a : WriteAnswer) : Except Error Written :=
  if a.rv = errWriteMore then .ok ⟨0, a.dataWritten, none, a.ecn⟩
  else if a.rv = errStreamDataBlocked then .error (.streamDataBlocked id)
  else if a.rv = errStreamShutWr then .error (.streamShutWr id)
  else if a.rv < 0 then .error (.ngtcp2 a.rv)
  else .ok ⟨a.rv.toNat, a.dataWritten, if 0 < a.rv then a.path else none, a.ecn⟩

/-- How `write_pkt` reads an answer. -/
def writePktResult (a : WriteAnswer) : Except Error Written :=
  if a.rv < 0 then .error (.ngtcp2 a.rv)
  else .ok ⟨a.rv.toNat, none, if 0 < a.rv then a.path else none, a.ecn⟩

/-- ngtcp2 behind the two write calls. -/
structure Ngtcp2 (σ : Type) where
  writevStream : σ → StreamOffer → WriteAnswer × σ
  writePkt : σ → WriteAnswer × σ

/-- A write call with its answer. -/
inductive Call where
  | stream (offer : StreamOffer) (answer : WriteAnswer)
  | pkt (answer : WriteAnswer)
  deriving DecidableEq, Repr

variable {σ : Type}

/-- The environment with the list of its calls, oldest first. -/
def Ngtcp2.logged (ng : Ngtcp2 σ) : Ngtcp2 (σ × List Call) where
  writevStream s o :=
    let r := ng.writevStream s.1 o
    (r.1, r.2, s.2 ++ [.stream o r.1])
  writePkt s :=
    let r := ng.writePkt s.1
    (r.1, r.2, s.2 ++ [.pkt r.1])

/-- The answers `ngtcp2_conn_writev_stream` may give to an offer: at most the offered data is
accepted, and with an error nothing is. -/
def WriteAnswer.Fits (a : WriteAnswer) (o : StreamOffer) : Prop :=
  a.datalen ≤ o.data.length ∧ (a.rv < 0 → a.rv ≠ errWriteMore → a.datalen < 0)

/-- Every answer fits its offer. -/
def Ngtcp2.Lawful (ng : Ngtcp2 σ) : Prop := ∀ s o, (ng.writevStream s o).1.Fits o

/-! ## The results in cases -/

/-- A write that is no error: `WRITE_MORE`, or a packet length. -/
theorem writeStreamResult_ok {id : StreamId} {a : WriteAnswer} {w : Written}
    (h : writeStreamResult id a = .ok w) :
    w.dataWritten = a.dataWritten ∧ w.ecn = a.ecn ∧
      ((a.rv = errWriteMore ∧ w.written = 0) ∨
        (0 ≤ a.rv ∧ w.written = a.rv.toNat ∧ (0 < w.written → w.path = a.path))) := by
  unfold writeStreamResult at h
  split_ifs at h with h₁ h₂ h₃ h₄ h₅ <;> cases h
  · exact ⟨rfl, rfl, Or.inl ⟨h₁, rfl⟩⟩
  · exact ⟨rfl, rfl, Or.inr ⟨by omega, rfl, fun _ => rfl⟩⟩
  · exact ⟨rfl, rfl, Or.inr ⟨by omega, rfl, fun hw => absurd hw (by simp only; omega)⟩⟩

/-- A write that fails: blocked, shut, or with any other negative code. -/
theorem writeStreamResult_error {id : StreamId} {a : WriteAnswer} {e : Error}
    (h : writeStreamResult id a = .error e) :
    (e = .streamDataBlocked id ∧ a.rv = errStreamDataBlocked) ∨
      (e = .streamShutWr id ∧ a.rv = errStreamShutWr) ∨
      (e = .ngtcp2 a.rv ∧ a.rv < 0 ∧ a.rv ≠ errWriteMore ∧ a.rv ≠ errStreamDataBlocked ∧
        a.rv ≠ errStreamShutWr) := by
  unfold writeStreamResult at h
  split_ifs at h with h₁ h₂ h₃ h₄ <;> cases h
  · exact Or.inl ⟨rfl, h₂⟩
  · exact Or.inr (Or.inl ⟨rfl, h₃⟩)
  · exact Or.inr (Or.inr ⟨rfl, h₄, h₁, h₂, h₃⟩)

theorem writeStreamResult_neg {id : StreamId} {a : WriteAnswer} {e : Error}
    (h : writeStreamResult id a = .error e) : a.rv < 0 ∧ a.rv ≠ errWriteMore := by
  rcases writeStreamResult_error h with ⟨-, h⟩ | ⟨-, h⟩ | ⟨-, h, h', -⟩
  · rw [h]; decide
  · rw [h]; decide
  · exact ⟨h, h'⟩

theorem writeStreamResult_blocked {id : StreamId} {a : WriteAnswer}
    (h : a.rv = errStreamDataBlocked) :
    writeStreamResult id a = .error (.streamDataBlocked id) := by
  rw [writeStreamResult, if_neg (by rw [h]; decide), if_pos h]

theorem writePktResult_ok {a : WriteAnswer} {w : Written} (h : writePktResult a = .ok w) :
    0 ≤ a.rv ∧ w.written = a.rv.toNat ∧ w.ecn = a.ecn ∧ (0 < w.written → w.path = a.path) := by
  unfold writePktResult at h
  split_ifs at h with h₁ h₂ <;> cases h
  · exact ⟨by omega, rfl, rfl, fun _ => rfl⟩
  · exact ⟨by omega, rfl, rfl, fun hw => absurd hw (by simp only; omega)⟩

theorem writePktResult_error {a : WriteAnswer} {e : Error} (h : writePktResult a = .error e) :
    a.rv < 0 ∧ e = .ngtcp2 a.rv := by
  unfold writePktResult at h
  split_ifs at h with h₁
  cases h
  exact ⟨h₁, rfl⟩

/-- Nothing is accepted by a write that fails. -/
theorem dataWritten_of_error {id : StreamId} {o : StreamOffer} {a : WriteAnswer} {e : Error}
    (ha : a.Fits o) (h : writeStreamResult id a = .error e) : a.dataWritten = none := by
  have hrv := writeStreamResult_neg h
  unfold WriteAnswer.dataWritten
  rw [if_neg]
  have := ha.2 hrv.1 hrv.2
  omega

end Ngtcp2Rs
