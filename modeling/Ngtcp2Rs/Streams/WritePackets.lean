import Ngtcp2Rs.Conn.Write
import Ngtcp2Rs.Streams.Pending

/-!
# `write_packets`

`write_packets` of `tokio-ngtcp2/src/streams.rs` over an arbitrary ngtcp2 environment. One pass of
its outer loop offers every pending stream once (`visit`, `pass`), then `writeControlPackets`
completes the packet under construction; passes repeat while something is written. Neither loop
has a bound of its own, so both carry fuel: `none` is a call that is still running.

* `Visit`, `Control`, `Round`: everything that visiting one stream, one call of the control loop
  and one round of the outer loop can do, in cases.
* `writePacketsFrom_invariant`: what every visit and every `write_pkt` call keeps, `write_packets`
  keeps.
* `writePackets_error`: the errors that `write_packets` returns.
-/

namespace Ngtcp2Rs

open Lib

/-- A packet to send. -/
structure OutgoingPacket where
  data : Bytes
  localAddr : SocketAddr
  remote : SocketAddr
  ecn : UInt8
  deriving DecidableEq, Repr

/-- The error for a packet that was written without a path. -/
def noPathError : Error := .internal "ngtcp2 did not report the path of the written packet"

/-- The packet of a write, on the path ngtcp2 reported. -/
def OutgoingPacket.fromWritten (data : Bytes) (path : Option PathInfo) (ecn : UInt8) :
    Except Error OutgoingPacket :=
  match path with
  | none => .error noPathError
  | some path => .ok ⟨data, path.localAddr, path.remote, ecn⟩

variable {σ : Type}

/-- The state of one pass: the connection, the queue, the packets so far and the two flags. -/
structure Pass (σ : Type) where
  conn : σ
  pending : PendingStreams
  packets : List OutgoingPacket
  wroteAny : Bool
  wrotePacket : Bool

/-- Take what a write of `data` accepted off the queue. The FIN is on the wire only when all of the
offered data went into a STREAM frame. -/
def Pass.accept (st : Pass σ) (id : StreamId) (data : Bytes) (fin : Bool) (w : Written) : Pass σ :=
  let consumed := w.dataWritten.getD 0
  let finAccepted := w.dataWritten == some data.length
  { st with
    pending := (st.pending.consume id consumed (fin && finAccepted)).prune id
    wroteAny := st.wroteAny || (decide (0 < consumed) || (fin && finAccepted)) }

/-- How a visit leaves the `for` loop: on to the next stream, by `break`, or by `return Err`. -/
inductive PassEnd where
  | done
  | blocked
  | failed (e : Error)
  deriving DecidableEq, Repr

/-- The loop body for one stream. -/
def visit (ng : Ngtcp2 σ) (isLast : Bool) (id : StreamId) (st : Pass σ) : Pass σ × PassEnd :=
  match st.pending.entries.lookup id with
  | none => (st, .done)
  | some (data, fin) =>
    if data.isEmpty && !fin then ({ st with pending := st.pending.remove id }, .done)
    else
      let r := ng.writevStream st.conn ⟨id, data, fin, !isLast⟩
      let st := { st with conn := r.2 }
      match writeStreamResult id r.1 with
      | .ok w =>
        let st := st.accept id data fin w
        if 0 < w.written then
          match OutgoingPacket.fromWritten (r.1.buf.take w.written) w.path w.ecn with
          | .ok packet => ({ st with packets := st.packets ++ [packet], wrotePacket := true }, .done)
          | .error e => (st, .failed e)
        else (st, .done)
      | .error (.streamDataBlocked _) => (st, .blocked)
      | .error (.streamShutWr _) => ({ st with pending := st.pending.remove id }, .done)
      | .error e => (st, .failed e)

/-- One pass over the streams `ids`; every stream but the last is written with `MORE`. -/
def pass (ng : Ngtcp2 σ) : List StreamId → Pass σ → Pass σ × PassEnd
  | [], st => (st, .done)
  | id :: ids, st =>
    match visit ng ids.isEmpty id st with
    | (st, .done) => pass ng ids st
    | (st, .blocked) => (st, .blocked)
    | (st, .failed e) => (st, .failed e)

/-- Write packets without stream data until there is none left. -/
def writeControlPackets (ng : Ngtcp2 σ) : ℕ → σ → Option (Except Error (List OutgoingPacket)) × σ
  | 0, s => (none, s)
  | fuel + 1, s =>
    let r := ng.writePkt s
    match writePktResult r.1 with
    | .error e => (some (.error e), r.2)
    | .ok w =>
      if w.written = 0 then (some (.ok []), r.2)
      else
        match OutgoingPacket.fromWritten (r.1.buf.take w.written) w.path w.ecn with
        | .error e => (some (.error e), r.2)
        | .ok packet =>
          match writeControlPackets ng fuel r.2 with
          | (some (.ok packets), s) => (some (.ok (packet :: packets)), s)
          | (some (.error e), s) => (some (.error e), s)
          | (none, s) => (none, s)

/-- The result of `write_packets`: what it returns, the connection and the queue it leaves. -/
structure Flushed (σ : Type) where
  result : Option (Except Error (List OutgoingPacket))
  conn : σ
  pending : PendingStreams

/-- The outer loop, with the packets written so far. -/
def writePacketsFrom (ng : Ngtcp2 σ) :
    ℕ → σ → PendingStreams → List OutgoingPacket → Flushed σ
  | 0, conn, pending, _ => ⟨none, conn, pending⟩
  | fuel + 1, conn, pending, packets =>
    let r := pass ng pending.orderedIds ⟨conn, pending, packets, false, false⟩
    match r.2 with
    | .failed e => ⟨some (.error e), r.1.conn, r.1.pending⟩
    | stop =>
      match writeControlPackets ng fuel r.1.conn with
      | (none, conn) => ⟨none, conn, r.1.pending⟩
      | (some (.error e), conn) => ⟨some (.error e), conn, r.1.pending⟩
      | (some (.ok control), conn) =>
        if (!r.1.wroteAny && !r.1.wrotePacket) || stop == .blocked || r.1.pending.isEmpty then
          ⟨some (.ok (r.1.packets ++ control)), conn, r.1.pending⟩
        else writePacketsFrom ng fuel conn r.1.pending (r.1.packets ++ control)

/-- Write the pending data and the control frames into packets. -/
def writePackets (ng : Ngtcp2 σ) (fuel : ℕ) (conn : σ) (pending : PendingStreams) : Flushed σ :=
  writePacketsFrom ng fuel conn pending []

/-! ## A visit in cases -/

/-- What visiting stream `id` can do to the pass `st`. -/
inductive Visit (ng : Ngtcp2 σ) (isLast : Bool) (id : StreamId) (st : Pass σ) :
    Pass σ → PassEnd → Prop where
  | absent (h : st.pending.entries.lookup id = none) : Visit ng isLast id st st .done
  | nothing (h : st.pending.entries.lookup id = some ([], false)) :
      Visit ng isLast id st { st with pending := st.pending.remove id } .done
  | wrote {data : Bytes} {fin : Bool} {a : WriteAnswer} {conn : σ} {w : Written}
      (h : st.pending.entries.lookup id = some (data, fin)) (hp : (data, fin) ≠ ([], false))
      (ha : ng.writevStream st.conn ⟨id, data, fin, !isLast⟩ = (a, conn))
      (hw : writeStreamResult id a = .ok w) (hz : w.written = 0) :
      Visit ng isLast id st ({ st with conn := conn }.accept id data fin w) .done
  | completed {data : Bytes} {fin : Bool} {a : WriteAnswer} {conn : σ} {w : Written}
      {path : PathInfo}
      (h : st.pending.entries.lookup id = some (data, fin)) (hp : (data, fin) ≠ ([], false))
      (ha : ng.writevStream st.conn ⟨id, data, fin, !isLast⟩ = (a, conn))
      (hw : writeStreamResult id a = .ok w) (hz : 0 < w.written) (hpath : w.path = some path) :
      Visit ng isLast id st
        { { st with conn := conn }.accept id data fin w with
          packets := st.packets ++ [⟨a.buf.take w.written, path.localAddr, path.remote, w.ecn⟩]
          wrotePacket := true } .done
  | pathless {data : Bytes} {fin : Bool} {a : WriteAnswer} {conn : σ} {w : Written}
      (h : st.pending.entries.lookup id = some (data, fin)) (hp : (data, fin) ≠ ([], false))
      (ha : ng.writevStream st.conn ⟨id, data, fin, !isLast⟩ = (a, conn))
      (hw : writeStreamResult id a = .ok w) (hz : 0 < w.written) (hpath : w.path = none) :
      Visit ng isLast id st ({ st with conn := conn }.accept id data fin w) (.failed noPathError)
  | blocked {data : Bytes} {fin : Bool} {a : WriteAnswer} {conn : σ} {s : StreamId}
      (h : st.pending.entries.lookup id = some (data, fin)) (hp : (data, fin) ≠ ([], false))
      (ha : ng.writevStream st.conn ⟨id, data, fin, !isLast⟩ = (a, conn))
      (hw : writeStreamResult id a = .error (.streamDataBlocked s)) :
      Visit ng isLast id st { st with conn := conn } .blocked
  | shut {data : Bytes} {fin : Bool} {a : WriteAnswer} {conn : σ} {s : StreamId}
      (h : st.pending.entries.lookup id = some (data, fin)) (hp : (data, fin) ≠ ([], false))
      (ha : ng.writevStream st.conn ⟨id, data, fin, !isLast⟩ = (a, conn))
      (hw : writeStreamResult id a = .error (.streamShutWr s)) :
      Visit ng isLast id st { st with conn := conn, pending := st.pending.remove id } .done
  | failed {data : Bytes} {fin : Bool} {a : WriteAnswer} {conn : σ} {e : Error}
      (h : st.pending.entries.lookup id = some (data, fin)) (hp : (data, fin) ≠ ([], false))
      (ha : ng.writevStream st.conn ⟨id, data, fin, !isLast⟩ = (a, conn))
      (hw : writeStreamResult id a = .error e) (hb : ∀ s, e ≠ .streamDataBlocked s)
      (hs : ∀ s, e ≠ .streamShutWr s) :
      Visit ng isLast id st { st with conn := conn } (.failed e)

theorem visit_spec (ng : Ngtcp2 σ) (isLast : Bool) (id : StreamId) (st : Pass σ) :
    Visit ng isLast id st (visit ng isLast id st).1 (visit ng isLast id st).2 := by
  unfold visit
  cases h : st.pending.entries.lookup id with
  | none => exact .absent h
  | some entry =>
    obtain ⟨data, fin⟩ := entry
    by_cases hp : (data, fin) = ([], false)
    · cases hp; exact .nothing h
    have hp' : (data.isEmpty && !fin) = false := by
      cases data <;> cases fin <;> simp_all
    simp only [hp', Bool.false_eq_true, if_false]
    cases hw : writeStreamResult id (ng.writevStream st.conn ⟨id, data, fin, !isLast⟩).1 with
    | ok w =>
      simp only
      by_cases hz : 0 < w.written
      · simp only [if_pos hz]
        cases hpath : w.path with
        | none => exact .pathless h hp rfl hw hz hpath
        | some path => exact .completed h hp rfl hw hz hpath
      · simp only [if_neg hz]
        exact .wrote h hp rfl hw (Nat.eq_zero_of_not_pos hz)
    | error e =>
      cases e with
      | streamDataBlocked s => exact .blocked h hp rfl hw
      | streamShutWr s => exact .shut h hp rfl hw
      | ngtcp2 code => exact .failed h hp rfl hw (by simp) (by simp)
      | invalidArgument m => exact .failed h hp rfl hw (by simp) (by simp)
      | connectionClosed => exact .failed h hp rfl hw (by simp) (by simp)
      | internal m => exact .failed h hp rfl hw (by simp) (by simp)

/-- Visiting a stream leaves the others alone. -/
theorem Visit.view_ne {ng : Ngtcp2 σ} {isLast : Bool} {id : StreamId} {st st' : Pass σ}
    {stop : PassEnd} (hv : Visit ng isLast id st st' stop) {i : StreamId} (hi : i ≠ id) :
    st'.pending.view i = st.pending.view i := by
  cases hv with
  | absent | blocked | failed => rfl
  | nothing | shut => simp [PendingStreams.view_remove, hi]
  | wrote | completed | pathless => simp [Pass.accept, PendingStreams.view_consume, hi]

theorem Visit.of_eq {ng : Ngtcp2 σ} {isLast : Bool} {id : StreamId} {st st' : Pass σ}
    {stop : PassEnd} (h : visit ng isLast id st = (st', stop)) : Visit ng isLast id st st' stop := by
  have hv := visit_spec ng isLast id st
  rwa [h] at hv

/-- A pass visits its first stream and goes on, or ends there. -/
theorem pass_cons (ng : Ngtcp2 σ) (id : StreamId) (ids : List StreamId) (st : Pass σ) :
    (∃ st', visit ng ids.isEmpty id st = (st', .done) ∧
      pass ng (id :: ids) st = pass ng ids st') ∨
      ∃ st' stop, stop ≠ .done ∧ visit ng ids.isEmpty id st = (st', stop) ∧
        pass ng (id :: ids) st = (st', stop) := by
  rw [pass]
  generalize visit ng ids.isEmpty id st = r
  obtain ⟨st', stop⟩ := r
  cases stop with
  | done => exact Or.inl ⟨st', rfl, rfl⟩
  | blocked => exact Or.inr ⟨st', .blocked, by simp, rfl, rfl⟩
  | failed e => exact Or.inr ⟨st', .failed e, by simp, rfl, rfl⟩

theorem pass_view_ne (ng : Ngtcp2 σ) : ∀ (ids : List StreamId) (st : Pass σ) {i : StreamId},
    i ∉ ids → (pass ng ids st).1.pending.view i = st.pending.view i
  | [], _, _, _ => rfl
  | id :: ids, st, i, hi => by
    rw [List.mem_cons, not_or] at hi
    rcases pass_cons ng id ids st with ⟨st', hv, heq⟩ | ⟨st', stop, -, hv, heq⟩
    · rw [heq, pass_view_ne ng ids st' hi.2, (Visit.of_eq hv).view_ne hi.1]
    · rw [heq, (Visit.of_eq hv).view_ne hi.1]

/-! ## The loops in cases -/

/-- What the control loop can do with its next `write_pkt` call. -/
inductive Control (ng : Ngtcp2 σ) (fuel : ℕ) (s : σ) :
    Option (Except Error (List OutgoingPacket)) → σ → Prop where
  | failed {a : WriteAnswer} {s' : σ} {e : Error} (ha : ng.writePkt s = (a, s'))
      (hw : writePktResult a = .error e) : Control ng fuel s (some (.error e)) s'
  | done {a : WriteAnswer} {s' : σ} {w : Written} (ha : ng.writePkt s = (a, s'))
      (hw : writePktResult a = .ok w) (hz : w.written = 0) : Control ng fuel s (some (.ok [])) s'
  | pathless {a : WriteAnswer} {s' : σ} {w : Written} (ha : ng.writePkt s = (a, s'))
      (hw : writePktResult a = .ok w) (hz : 0 < w.written) (hpath : w.path = none) :
      Control ng fuel s (some (.error noPathError)) s'
  | more {a : WriteAnswer} {s' : σ} {w : Written} {path : PathInfo} (ha : ng.writePkt s = (a, s'))
      (hw : writePktResult a = .ok w) (hz : 0 < w.written) (hpath : w.path = some path) :
      Control ng fuel s
        ((writeControlPackets ng fuel s').1.map fun result => result.map
          (⟨a.buf.take w.written, path.localAddr, path.remote, w.ecn⟩ :: ·))
        (writeControlPackets ng fuel s').2

theorem Control.of_eq {ng : Ngtcp2 σ} {fuel : ℕ} {s s' : σ}
    {result : Option (Except Error (List OutgoingPacket))}
    (h : writeControlPackets ng (fuel + 1) s = (result, s')) : Control ng fuel s result s' := by
  suffices hc : Control ng fuel s (writeControlPackets ng (fuel + 1) s).1
      (writeControlPackets ng (fuel + 1) s).2 by rwa [h] at hc
  rw [writeControlPackets]
  cases hw : writePktResult (ng.writePkt s).1 with
  | error e => exact .failed rfl hw
  | ok w =>
    simp only
    by_cases hz : w.written = 0
    · rw [if_pos hz]
      exact .done rfl hw hz
    · rw [if_neg hz]
      have hpos : 0 < w.written := Nat.pos_of_ne_zero hz
      cases hpath : w.path with
      | none => exact .pathless rfl hw hpos hpath
      | some path =>
        have hmore : Control ng fuel s _ _ := .more rfl hw hpos hpath
        simp only [OutgoingPacket.fromWritten]
        generalize writeControlPackets ng fuel (ng.writePkt s).2 = r at *
        obtain ⟨- | e | packets, s''⟩ := r
        · exact hmore
        · exact hmore
        · exact hmore

/-- One round of the outer loop: its result if it is the last, or what the next one starts with. -/
def iteration (ng : Ngtcp2 σ) (fuel : ℕ) (conn : σ) (pending : PendingStreams)
    (packets : List OutgoingPacket) : Flushed σ ⊕ σ × PendingStreams × List OutgoingPacket :=
  let r := pass ng pending.orderedIds ⟨conn, pending, packets, false, false⟩
  match r.2 with
  | .failed e => .inl ⟨some (.error e), r.1.conn, r.1.pending⟩
  | stop =>
    match writeControlPackets ng fuel r.1.conn with
    | (none, conn) => .inl ⟨none, conn, r.1.pending⟩
    | (some (.error e), conn) => .inl ⟨some (.error e), conn, r.1.pending⟩
    | (some (.ok control), conn) =>
      if (!r.1.wroteAny && !r.1.wrotePacket) || stop == .blocked || r.1.pending.isEmpty then
        .inl ⟨some (.ok (r.1.packets ++ control)), conn, r.1.pending⟩
      else .inr (conn, r.1.pending, r.1.packets ++ control)

/-- What one round of the outer loop can do. -/
inductive Round (ng : Ngtcp2 σ) (fuel : ℕ) (conn : σ) (pending : PendingStreams)
    (packets : List OutgoingPacket) :
    Flushed σ ⊕ σ × PendingStreams × List OutgoingPacket → Prop where
  | failed {st : Pass σ} {e : Error}
      (hp : pass ng pending.orderedIds ⟨conn, pending, packets, false, false⟩ = (st, .failed e)) :
      Round ng fuel conn pending packets (.inl ⟨some (.error e), st.conn, st.pending⟩)
  | running {st : Pass σ} {stop : PassEnd} {conn' : σ}
      (hp : pass ng pending.orderedIds ⟨conn, pending, packets, false, false⟩ = (st, stop))
      (hs : ∀ e, stop ≠ .failed e) (hc : writeControlPackets ng fuel st.conn = (none, conn')) :
      Round ng fuel conn pending packets (.inl ⟨none, conn', st.pending⟩)
  | controlFailed {st : Pass σ} {stop : PassEnd} {conn' : σ} {e : Error}
      (hp : pass ng pending.orderedIds ⟨conn, pending, packets, false, false⟩ = (st, stop))
      (hs : ∀ e, stop ≠ .failed e)
      (hc : writeControlPackets ng fuel st.conn = (some (.error e), conn')) :
      Round ng fuel conn pending packets (.inl ⟨some (.error e), conn', st.pending⟩)
  | last {st : Pass σ} {stop : PassEnd} {conn' : σ} {control : List OutgoingPacket}
      (hp : pass ng pending.orderedIds ⟨conn, pending, packets, false, false⟩ = (st, stop))
      (hs : ∀ e, stop ≠ .failed e)
      (hc : writeControlPackets ng fuel st.conn = (some (.ok control), conn'))
      (hret : (st.wroteAny = false ∧ st.wrotePacket = false) ∨ stop = .blocked ∨
        st.pending.isEmpty = true) :
      Round ng fuel conn pending packets
        (.inl ⟨some (.ok (st.packets ++ control)), conn', st.pending⟩)
  | again {st : Pass σ} {conn' : σ} {control : List OutgoingPacket}
      (hp : pass ng pending.orderedIds ⟨conn, pending, packets, false, false⟩ = (st, .done))
      (hc : writeControlPackets ng fuel st.conn = (some (.ok control), conn'))
      (hprog : st.wroteAny = true ∨ st.wrotePacket = true) :
      Round ng fuel conn pending packets (.inr (conn', st.pending, st.packets ++ control))

theorem iteration_spec (ng : Ngtcp2 σ) (fuel : ℕ) (conn : σ) (pending : PendingStreams)
    (packets : List OutgoingPacket) :
    Round ng fuel conn pending packets (iteration ng fuel conn pending packets) := by
  unfold iteration
  rcases hp : pass ng pending.orderedIds ⟨conn, pending, packets, false, false⟩ with ⟨st, stop⟩
  cases stop with
  | failed e => exact .failed hp
  | done =>
    simp only
    rcases hc : writeControlPackets ng fuel st.conn with ⟨- | e | control, conn'⟩
    · exact .running hp (by simp) hc
    · exact .controlFailed hp (by simp) hc
    · simp only
      split_ifs with hret
      · refine .last hp (by simp) hc ?_
        simpa [or_assoc] using hret
      · refine .again hp hc ?_
        by_contra hprog
        rw [not_or, Bool.not_eq_true, Bool.not_eq_true] at hprog
        simp [hprog] at hret
  | blocked =>
    simp only
    rcases hc : writeControlPackets ng fuel st.conn with ⟨- | e | control, conn'⟩
    · exact .running hp (by simp) hc
    · exact .controlFailed hp (by simp) hc
    · simp only
      rw [if_pos (by simp)]
      exact .last hp (by simp) hc (Or.inr (Or.inl rfl))

/-- The outer loop is the iteration of its rounds. -/
theorem writePacketsFrom_succ (ng : Ngtcp2 σ) (fuel : ℕ) (conn : σ) (pending : PendingStreams)
    (packets : List OutgoingPacket) :
    writePacketsFrom ng (fuel + 1) conn pending packets =
      match iteration ng fuel conn pending packets with
      | .inl r => r
      | .inr next => writePacketsFrom ng fuel next.1 next.2.1 next.2.2 := by
  rw [writePacketsFrom, iteration]
  generalize pass ng pending.orderedIds ⟨conn, pending, packets, false, false⟩ = r
  obtain ⟨st, stop⟩ := r
  cases stop with
  | failed e => rfl
  | done | blocked =>
    simp only
    generalize writeControlPackets ng fuel st.conn = rc
    obtain ⟨result, conn'⟩ := rc
    rcases result with - | e | control
    · rfl
    · rfl
    · simp only
      split_ifs <;> rfl

/-! ## Invariants -/

section Invariant

variable (ng : Ngtcp2 σ) {P : σ → PendingStreams → Prop}
  (hvisit : ∀ {isLast id st st' stop}, Visit ng isLast id st st' stop → P st.conn st.pending →
    P st'.conn st'.pending)
  (hpkt : ∀ s p, P s p → P (ng.writePkt s).2 p)

include hvisit in
theorem pass_invariant : ∀ (ids : List StreamId) (st : Pass σ), P st.conn st.pending →
    P (pass ng ids st).1.conn (pass ng ids st).1.pending
  | [], _, h => h
  | id :: ids, st, h => by
    rcases pass_cons ng id ids st with ⟨st', hv, heq⟩ | ⟨st', stop, -, hv, heq⟩
    · rw [heq]
      exact pass_invariant ids st' (hvisit (Visit.of_eq hv) h)
    · rw [heq]
      exact hvisit (Visit.of_eq hv) h

include hpkt in
theorem writeControlPackets_invariant (p : PendingStreams) : ∀ (fuel : ℕ) (s : σ), P s p →
    P (writeControlPackets ng fuel s).2 p
  | 0, _, h => h
  | fuel + 1, s, h => by
    have hs : ∀ {a : WriteAnswer} {s' : σ}, ng.writePkt s = (a, s') → P s' p := by
      intro a s' ha
      have hs := hpkt s p h
      rwa [ha] at hs
    rcases hr : writeControlPackets ng (fuel + 1) s with ⟨result, s''⟩
    cases Control.of_eq hr with
    | failed ha | done ha | pathless ha => exact hs ha
    | more ha => exact writeControlPackets_invariant p fuel _ (hs ha)

include hvisit hpkt in
/-- **Invariant rule for `write_packets`.** -/
theorem writePacketsFrom_invariant : ∀ (fuel : ℕ) (conn : σ) (pending : PendingStreams)
    (packets : List OutgoingPacket), P conn pending →
    P (writePacketsFrom ng fuel conn pending packets).conn
      (writePacketsFrom ng fuel conn pending packets).pending
  | 0, _, _, _, h => h
  | fuel + 1, conn, pending, packets, h => by
    have hpass : ∀ {st : Pass σ} {stop : PassEnd},
        pass ng pending.orderedIds ⟨conn, pending, packets, false, false⟩ = (st, stop) →
        P st.conn st.pending := by
      intro st stop hp
      have hinv := pass_invariant ng hvisit pending.orderedIds
        ⟨conn, pending, packets, false, false⟩ h
      rwa [hp] at hinv
    have hcontrol : ∀ {st : Pass σ} {result : Option (Except Error (List OutgoingPacket))}
        {conn' : σ}, P st.conn st.pending →
        writeControlPackets ng fuel st.conn = (result, conn') → P conn' st.pending := by
      intro st result conn' hinv hc
      have hinv := writeControlPackets_invariant ng hpkt _ fuel _ hinv
      rwa [hc] at hinv
    rw [writePacketsFrom_succ]
    have hround := iteration_spec ng fuel conn pending packets
    generalize iteration ng fuel conn pending packets = r at *
    cases hround with
    | failed hp => exact hpass hp
    | running hp _ hc | controlFailed hp _ hc | last hp _ hc => exact hcontrol (hpass hp) hc
    | again hp hc => exact writePacketsFrom_invariant fuel _ _ _ (hcontrol (hpass hp) hc)

end Invariant

/-! ## Errors -/

/-- A code of ngtcp2, or a packet without a path. -/
def Error.OfWriting (e : Error) : Prop := (∃ code, e = .ngtcp2 code) ∨ e = noPathError

theorem Error.OfWriting.ne_connectionClosed {e : Error} (h : e.OfWriting) : e ≠ .connectionClosed := by
  rcases h with ⟨code, rfl⟩ | rfl
  · simp
  · simp [noPathError]

section Errors

variable {ng : Ngtcp2 σ} {e : Error}

/-- The errors of a stream have an answer in the loop, the others go out. -/
theorem Visit.error {isLast : Bool} {id : StreamId} {st st' : Pass σ}
    (h : Visit ng isLast id st st' (.failed e)) : e.OfWriting := by
  cases h with
  | pathless => exact .inr rfl
  | failed _ _ _ hw hb hs =>
    rcases writeStreamResult_error hw with ⟨rfl, -⟩ | ⟨rfl, -⟩ | ⟨rfl, -⟩
    · exact absurd rfl (hb id)
    · exact absurd rfl (hs id)
    · exact .inl ⟨_, rfl⟩

theorem pass_error : ∀ {ids : List StreamId} {st st' : Pass σ},
    pass ng ids st = (st', .failed e) → e.OfWriting
  | [], _, _, h => by cases h
  | id :: ids, st, st', h => by
    rcases pass_cons ng id ids st with ⟨st₁, -, heq⟩ | ⟨st₁, stop, -, hv, heq⟩
    · exact pass_error (heq.symm.trans h)
    · cases heq.symm.trans h
      exact (Visit.of_eq hv).error

theorem writeControlPackets_error : ∀ {fuel : ℕ} {s s' : σ},
    writeControlPackets ng fuel s = (some (.error e), s') → e.OfWriting
  | 0, _, _, h => by cases h
  | fuel + 1, s, s', h => by
    generalize hr : (some (.error e) : Option (Except Error (List OutgoingPacket))) = result at h
    cases Control.of_eq h with
    | failed _ hw =>
      cases hr
      exact .inl ⟨_, (writePktResult_error hw).2⟩
    | done => cases hr
    | pathless =>
      cases hr
      exact .inr rfl
    | @more a s₁ w path =>
      rcases hc : writeControlPackets ng fuel s₁ with ⟨- | e' | packets, s₂⟩
      · rw [hc] at hr
        cases hr
      · rw [hc] at hr
        cases hr
        exact writeControlPackets_error hc
      · rw [hc] at hr
        cases hr

theorem writePacketsFrom_error : ∀ {fuel : ℕ} {conn : σ} {pending : PendingStreams}
    {packets : List OutgoingPacket},
    (writePacketsFrom ng fuel conn pending packets).result = some (.error e) → e.OfWriting
  | 0, _, _, _, h => by cases h
  | fuel + 1, conn, pending, packets, h => by
    rw [writePacketsFrom_succ] at h
    have hround := iteration_spec ng fuel conn pending packets
    generalize iteration ng fuel conn pending packets = r at *
    cases hround with
    | failed hp =>
      cases h
      exact pass_error hp
    | running | last => cases h
    | controlFailed _ _ hc =>
      cases h
      exact writeControlPackets_error hc
    | again => exact writePacketsFrom_error h

/-- **The errors of `write_packets`** are ngtcp2's, or the one for a packet without a path. -/
theorem writePackets_error {fuel : ℕ} {conn : σ} {pending : PendingStreams}
    (h : (writePackets ng fuel conn pending).result = some (.error e)) : e.OfWriting :=
  writePacketsFrom_error h

end Errors

end Ngtcp2Rs
