import Ngtcp2Rs.Lib.Run
import Ngtcp2Rs.Streams.WritePackets

/-!
# The exchange with ngtcp2

The calls one `write_packets` makes, read off the log of `Ngtcp2.logged`. A call is `Fatal` when
its answer makes `write_packets` return `Err`; `completedPackets` are the packets ngtcp2 finished.

* `pass_log`: the calls of one pass, in stream order, up to the answer that stops it.
* `writeControlPackets_log`, `writePacketsFrom_log`: a call that returns `Ok` had no fatal answer
  and returns what was completed; one that returns `Err` stops at its only fatal answer.
* `FirstPass`: the offers of the first pass go to the waiting streams in their order.
-/

namespace Ngtcp2Rs

open Lib

/-! ## Answers -/

namespace Call

/-- The answer. -/
def answer : Call → WriteAnswer
  | stream _ a => a
  | pkt a => a

/-- `NGTCP2_ERR_WRITE_MORE`: the packet waits for more stream data. -/
def IsMore : Call → Prop
  | stream _ a => a.rv = errWriteMore
  | pkt _ => False

/-- `NGTCP2_ERR_STREAM_DATA_BLOCKED`. -/
def Blocked : Call → Prop
  | stream _ a => a.rv = errStreamDataBlocked
  | pkt _ => False

/-- `NGTCP2_ERR_STREAM_NOT_FOUND`. -/
def NotFound : Call → Prop
  | stream _ a => a.rv = errStreamNotFound
  | pkt _ => False

/-- `NGTCP2_ERR_STREAM_SHUT_WR`. -/
def ShutWr : Call → Prop
  | stream _ a => a.rv = errStreamShutWr
  | pkt _ => False

instance (c : Call) : Decidable c.IsMore := by unfold IsMore; split <;> infer_instance
instance (c : Call) : Decidable c.Blocked := by unfold Blocked; split <;> infer_instance
instance (c : Call) : Decidable c.NotFound := by unfold NotFound; split <;> infer_instance
instance (c : Call) : Decidable c.ShutWr := by unfold ShutWr; split <;> infer_instance

/-- An error that concerns the offered stream only: ngtcp2 goes on with the other streams. -/
def StreamError (c : Call) : Prop := c.Blocked ∨ c.NotFound ∨ c.ShutWr

/-- An error of the connection. -/
def ConnError (c : Call) : Prop := c.answer.rv < 0 ∧ ¬ c.IsMore ∧ ¬ c.StreamError

/-- A packet was completed, and its path is missing. -/
def Pathless (c : Call) : Prop := 0 < c.answer.rv ∧ c.answer.path = none

/-- The answer makes `write_packets` return `Err`. -/
def Fatal (c : Call) : Prop := c.ConnError ∨ c.NotFound ∨ c.Pathless

instance (c : Call) : Decidable c.StreamError := by unfold StreamError; infer_instance
instance (c : Call) : Decidable c.ConnError := by unfold ConnError; infer_instance
instance (c : Call) : Decidable c.Pathless := by unfold Pathless; infer_instance
instance (c : Call) : Decidable c.Fatal := by unfold Fatal; infer_instance

end Call

/-- The bytes, the path and the ECN mark of a packet, as ngtcp2 reports them. -/
abbrev WirePacket : Type := Bytes × Option PathInfo × UInt8

/-- The report a packet was made from. -/
def OutgoingPacket.wire (p : OutgoingPacket) : WirePacket := (p.data, some ⟨p.localAddr, p.remote⟩, p.ecn)

/-- The packet an answer completed. -/
def WriteAnswer.packet (a : WriteAnswer) : Option WirePacket :=
  if 0 < a.rv then some (a.buf.take a.rv.toNat, a.path, a.ecn) else none

/-- The packets ngtcp2 completed. -/
def completedPackets (log : List Call) : List WirePacket := log.filterMap fun c => c.answer.packet

@[simp] theorem completedPackets_nil : completedPackets [] = [] := rfl

@[simp] theorem completedPackets_append (l l' : List Call) :
    completedPackets (l ++ l') = completedPackets l ++ completedPackets l' := List.filterMap_append

/-! ## One stream -/

section Stream

variable {o : StreamOffer} {a : WriteAnswer} {w : Written}

theorem not_stop_of_ok (h : writeStreamResult o.streamId a = .ok w) :
    ¬ (Call.stream o a).ConnError ∧ ¬ (Call.stream o a).NotFound ∧ ¬ (Call.stream o a).Blocked := by
  obtain ⟨-, -, hrv⟩ := writeStreamResult_ok h
  simp only [Call.ConnError, Call.IsMore, Call.NotFound, Call.Blocked, Call.answer]
  rcases hrv with ⟨hrv, -⟩ | ⟨hrv, -⟩
  · rw [hrv]
    exact ⟨fun hc => hc.2.1 rfl, by decide, by decide⟩
  · refine ⟨fun hc => absurd hc.1 (by omega), fun hc => ?_, fun hc => ?_⟩ <;>
      (rw [hc] at hrv; exact absurd hrv (by decide))

theorem packet_of_ok {id : StreamId} (h : writeStreamResult id a = .ok w) :
    a.packet =
      if 0 < w.written then some (a.buf.take w.written, w.path, w.ecn) else none := by
  obtain ⟨-, hecn, hrv⟩ := writeStreamResult_ok h
  unfold WriteAnswer.packet
  rcases hrv with ⟨hrv, hz⟩ | ⟨hrv, hz, hpath⟩
  · rw [hrv, hz]
    rfl
  · by_cases hp : 0 < a.rv
    · have hw : 0 < w.written := by omega
      rw [if_pos hp, if_pos hw, hpath hw, hecn, hz]
    · rw [if_neg hp, if_neg (by omega)]

theorem pathless_of_ok (h : writeStreamResult o.streamId a = .ok w) :
    (Call.stream o a).Pathless ↔ 0 < w.written ∧ w.path = none := by
  obtain ⟨-, -, hrv⟩ := writeStreamResult_ok h
  simp only [Call.Pathless, Call.answer]
  rcases hrv with ⟨hrv, hz⟩ | ⟨hrv, hz, hpath⟩
  · rw [hrv, hz]; simp [errWriteMore]
  · constructor
    · intro ⟨h₁, h₂⟩
      have hw : 0 < w.written := by omega
      exact ⟨hw, (hpath hw).trans h₂⟩
    · intro ⟨h₁, h₂⟩
      exact ⟨by omega, (hpath h₁).symm.trans h₂⟩

theorem packet_of_neg (h : a.rv < 0) : a.packet = none := by
  rw [WriteAnswer.packet, if_neg (by omega)]

end Stream

variable {σ : Type} {ng : Ngtcp2 σ}

/-- What a visit adds to the log. -/
inductive VisitLog (id : StreamId) (st st' : Pass (σ × List Call)) (stop : PassEnd) : Prop where
  | skip (hw : ¬ st.pending.Waiting id) (hlog : st'.conn.2 = st.conn.2)
      (hp : st'.packets = st.packets) (hs : stop = .done)
  | offer (o : StreamOffer) (a : WriteAnswer) (hid : o.streamId = id) (hw : st.pending.Waiting id)
      (hlog : st'.conn.2 = st.conn.2 ++ [.stream o a])
      (hf : (Call.stream o a).Fatal ↔ ∃ e, stop = .failed e)
      (hb : (Call.stream o a).Blocked ↔ stop = .blocked)
      (hp : ¬ (Call.stream o a).Fatal →
        st'.packets.map OutgoingPacket.wire =
          st.packets.map OutgoingPacket.wire ++ completedPackets [.stream o a])

theorem Visit.log {isLast : Bool} {id : StreamId} {st st' : Pass (σ × List Call)} {stop : PassEnd}
    (hv : Visit ng.logged isLast id st st' stop) : VisitLog id st st' stop := by
  have hlog : ∀ {o : StreamOffer} {a : WriteAnswer} {conn : σ × List Call},
      ng.logged.writevStream st.conn o = (a, conn) → conn.2 = st.conn.2 ++ [.stream o a] := by
    intro o a conn ha
    cases ha; rfl
  have hwait : ∀ {data : Bytes} {fin : Bool}, st.pending.entries.lookup id = some (data, fin) →
      (data, fin) ≠ ([], false) → st.pending.Waiting id := by
    intro data fin h hp
    rw [PendingStreams.Waiting, st.pending.view_of_lookup id h]
    exact hp
  cases hv with
  | absent h =>
    exact .skip (by simp [PendingStreams.Waiting, PendingStreams.view, h]) rfl rfl rfl
  | nothing h =>
    exact .skip (by simp [PendingStreams.Waiting, st.pending.view_of_lookup id h]) rfl rfl rfl
  | @wrote data fin a conn w h hp ha hw hz =>
    obtain ⟨h₁, h₂, h₃⟩ := not_stop_of_ok (o := ⟨id, data, fin, !isLast⟩) hw
    have hpl := (pathless_of_ok (o := ⟨id, data, fin, !isLast⟩) hw).not.mpr (by omega)
    refine .offer _ a rfl (hwait h hp) (hlog ha) ?_ ?_ fun _ => ?_
    · simp [Call.Fatal, h₁, h₂, hpl]
    · simp [h₃]
    · simp [Pass.accept, completedPackets, Call.answer, packet_of_ok hw, hz]
  | @completed data fin a conn w path h hp ha hw hz hpath =>
    obtain ⟨h₁, h₂, h₃⟩ := not_stop_of_ok (o := ⟨id, data, fin, !isLast⟩) hw
    have hpl := (pathless_of_ok (o := ⟨id, data, fin, !isLast⟩) hw).not.mpr (by simp [hpath])
    refine .offer _ a rfl (hwait h hp) (hlog ha) ?_ ?_ fun _ => ?_
    · simp [Call.Fatal, h₁, h₂, hpl]
    · simp [h₃]
    · simp [completedPackets, Call.answer, packet_of_ok hw, hz, hpath, OutgoingPacket.wire]
  | @pathless data fin a conn w h hp ha hw hz hpath =>
    obtain ⟨-, -, h₃⟩ := not_stop_of_ok (o := ⟨id, data, fin, !isLast⟩) hw
    have hpl := (pathless_of_ok (o := ⟨id, data, fin, !isLast⟩) hw).mpr ⟨hz, hpath⟩
    refine .offer _ a rfl (hwait h hp) (hlog ha) ?_ ?_ fun hc => absurd (Or.inr (Or.inr hpl)) hc
    · simp [Call.Fatal, hpl]
    · simp [h₃]
  | @blocked data fin a conn s h hp ha hw =>
    rcases writeStreamResult_error hw with ⟨-, hrv⟩ | ⟨he, -⟩ | ⟨he, -⟩
    · refine .offer _ a rfl (hwait h hp) (hlog ha) ?_ ?_ fun _ => ?_
      · simp [Call.Fatal, Call.ConnError, Call.StreamError, Call.Blocked, Call.NotFound,
          Call.Pathless, Call.answer, hrv, errStreamDataBlocked, errStreamNotFound]
      · simp [Call.Blocked, hrv]
      · have hneg : a.rv < 0 := by rw [hrv]; decide
        simp [completedPackets, Call.answer, packet_of_neg hneg]
    · cases he
    · cases he
  | @shut data fin a conn s h hp ha hw =>
    rcases writeStreamResult_error hw with ⟨he, -⟩ | ⟨-, hrv⟩ | ⟨he, -⟩
    · cases he
    · refine .offer _ a rfl (hwait h hp) (hlog ha) ?_ ?_ fun _ => ?_
      · simp [Call.Fatal, Call.ConnError, Call.StreamError, Call.ShutWr, Call.NotFound,
          Call.Pathless, Call.answer, hrv, errStreamShutWr, errStreamNotFound]
      · simp [Call.Blocked, hrv, errStreamShutWr, errStreamDataBlocked]
      · have hneg : a.rv < 0 := by rw [hrv]; decide
        simp [completedPackets, Call.answer, packet_of_neg hneg]
    · cases he
  | @failed data fin a conn e h hp ha hw hb hs =>
    rcases writeStreamResult_error hw with ⟨he, -⟩ | ⟨he, -⟩ | ⟨-, h₁, h₂, h₃, h₄⟩
    · exact absurd he (hb id)
    · exact absurd he (hs id)
    · have hfat : (Call.stream ⟨id, data, fin, !isLast⟩ a).Fatal := by
        by_cases hnf : a.rv = errStreamNotFound
        · exact Or.inr (Or.inl hnf)
        · exact Or.inl ⟨h₁, h₂, by simp [Call.StreamError, Call.Blocked, Call.NotFound,
            Call.ShutWr, h₃, h₄, hnf]⟩
      refine .offer _ a rfl (hwait h hp) (hlog ha) ?_ ?_ fun hc => absurd hfat hc
      · simp [hfat]
      · simp [Call.Blocked, h₃]

/-! ## One pass -/

/-- The streams the calls name. -/
def offeredIds (log : List Call) : List StreamId :=
  log.filterMap fun
    | .stream o _ => some o.streamId
    | .pkt _ => none

@[simp] theorem offeredIds_append (l l' : List Call) :
    offeredIds (l ++ l') = offeredIds l ++ offeredIds l' := List.filterMap_append

@[simp] theorem offeredIds_stream (o : StreamOffer) (a : WriteAnswer) (l : List Call) :
    offeredIds (.stream o a :: l) = o.streamId :: offeredIds l := rfl

/-- The answer ends the pass. -/
def Call.Stops (c : Call) : Prop := c.Fatal ∨ c.Blocked

/-- The calls of one pass over the streams `ids`: offers to the waiting ones in their order, to all
of them or up to the one whose answer ended the pass. -/
structure PassLog (ids : List StreamId) (p : PendingStreams) (calls : List Call)
    (stop : PassEnd) : Prop where
  stream : ∀ c ∈ calls, ∃ o a, c = .stream o a
  order : offeredIds calls <+: ids.filter fun id => p.Waiting id
  covers : (stop = .done ∧ (∀ c ∈ calls, ¬ c.Stops) ∧
      offeredIds calls = ids.filter fun id => p.Waiting id) ∨
    ∃ init o a, calls = init ++ [.stream o a] ∧ (∀ c ∈ init, ¬ c.Stops) ∧ stop ≠ .done ∧
      ((Call.stream o a).Fatal ↔ ∃ e, stop = .failed e) ∧
      ((Call.stream o a).Blocked ↔ stop = .blocked)

section PassLog

variable {id : StreamId} {ids : List StreamId} {p p' : PendingStreams} {calls : List Call}
  {stop : PassEnd}

theorem filter_waiting_congr (hp : ∀ i ∈ ids, p'.view i = p.view i) :
    (ids.filter fun i => p'.Waiting i) = ids.filter fun i => p.Waiting i := by
  refine List.filter_congr fun i hi => ?_
  rw [decide_eq_decide, PendingStreams.Waiting, PendingStreams.Waiting, hp i hi]

theorem PassLog.skip (h : PassLog ids p' calls stop) (hw : ¬ p.Waiting id)
    (hp : ∀ i ∈ ids, p'.view i = p.view i) : PassLog (id :: ids) p calls stop := by
  have hids : ((id :: ids).filter fun i => p.Waiting i) = ids.filter fun i => p'.Waiting i := by
    rw [List.filter_cons_of_neg (by simpa using hw), filter_waiting_congr hp]
  refine ⟨h.stream, hids ▸ h.order, ?_⟩
  rw [hids]
  exact h.covers

theorem PassLog.offer {o : StreamOffer} {a : WriteAnswer} (h : PassLog ids p' calls stop)
    (hw : p.Waiting o.streamId) (hc : ¬ (Call.stream o a).Stops)
    (hp : ∀ i ∈ ids, p'.view i = p.view i) :
    PassLog (o.streamId :: ids) p (.stream o a :: calls) stop := by
  have hids : ((o.streamId :: ids).filter fun i => p.Waiting i) =
      o.streamId :: ids.filter fun i => p'.Waiting i := by
    rw [List.filter_cons_of_pos (by simpa using hw), filter_waiting_congr hp]
  refine ⟨?_, ?_, ?_⟩
  · intro c hmem
    rcases List.mem_cons.mp hmem with rfl | hmem
    · exact ⟨o, a, rfl⟩
    · exact h.stream c hmem
  · rw [hids, offeredIds_stream, List.prefix_cons_inj]
    exact h.order
  · rcases h.covers with ⟨h₁, h₂, h₃⟩ | ⟨init, o', a', h₁, h₂, hrest⟩
    · exact Or.inl ⟨h₁, by simpa using ⟨hc, h₂⟩, by rw [hids, offeredIds_stream, h₃]⟩
    · exact Or.inr ⟨.stream o a :: init, o', a', by rw [h₁]; rfl, by simpa using ⟨hc, h₂⟩, hrest⟩

theorem PassLog.ended {o : StreamOffer} {a : WriteAnswer} (hw : p.Waiting o.streamId)
    (hs : stop ≠ .done) (hf : (Call.stream o a).Fatal ↔ ∃ e, stop = .failed e)
    (hb : (Call.stream o a).Blocked ↔ stop = .blocked) :
    PassLog (o.streamId :: ids) p [.stream o a] stop := by
  refine ⟨by simp, ?_, Or.inr ⟨[], o, a, rfl, by simp, hs, hf, hb⟩⟩
  rw [List.filter_cons_of_pos (by simpa using hw)]
  exact ⟨ids.filter fun i => p.Waiting i, rfl⟩

end PassLog

theorem pass_log : ∀ (ids : List StreamId) (st : Pass (σ × List Call)), ids.Pairwise (· < ·) →
    ∃ calls, (pass ng.logged ids st).1.conn.2 = st.conn.2 ++ calls ∧
      PassLog ids st.pending calls (pass ng.logged ids st).2 ∧
      ((∀ e, (pass ng.logged ids st).2 ≠ .failed e) →
        (pass ng.logged ids st).1.packets.map OutgoingPacket.wire =
          st.packets.map OutgoingPacket.wire ++ completedPackets calls)
  | [], st, _ => by
    refine ⟨[], by simp [pass], ⟨by simp, List.nil_prefix, Or.inl ⟨rfl, by simp, rfl⟩⟩, ?_⟩
    simp [pass]
  | id :: ids, st, hs => by
    obtain ⟨hlt, hs⟩ := List.pairwise_cons.mp hs
    rcases pass_cons ng.logged id ids st with ⟨st', hv, heq⟩ | ⟨st', stop, hstop, hv, heq⟩
    · have hv := Visit.of_eq hv
      obtain ⟨calls, h₁, h₂, h₃⟩ := pass_log ids st' hs
      have hview : ∀ i ∈ ids, st'.pending.view i = st.pending.view i :=
        fun i hi => hv.view_ne (ne_of_gt (hlt i hi))
      rw [heq]
      rcases hv.log with ⟨hw, hl, hp, -⟩ | ⟨o, a, rfl, hw, hl, hf, hb, hp⟩
      · exact ⟨calls, by rw [h₁, hl], h₂.skip hw hview, fun he => by rw [h₃ he, hp]⟩
      · have hfat : ¬ (Call.stream o a).Fatal := by simp [hf]
        have hbl : ¬ (Call.stream o a).Blocked := by simp [hb]
        refine ⟨.stream o a :: calls, by rw [h₁, hl]; simp,
          h₂.offer hw (by simp [Call.Stops, hfat, hbl]) hview, fun he => ?_⟩
        rw [h₃ he, hp hfat, List.append_assoc, ← completedPackets_append]
        rfl
    · rw [heq]
      rcases (Visit.of_eq hv).log with ⟨-, -, -, hs⟩ | ⟨o, a, rfl, hw, hl, hf, hb, hp⟩
      · exact absurd hs hstop
      · refine ⟨[.stream o a], hl, .ended hw hstop hf hb, fun he => hp ?_⟩
        rw [hf]
        rintro ⟨e, hc⟩
        exact he e hc

/-! ## A whole call -/

/-- What the calls say about the result of a function that had `packets` before them. -/
def Answered (calls : List Call) (packets : List WirePacket) :
    Option (Except Error (List OutgoingPacket)) → Prop
  | none => True
  | some (.ok ps) =>
    ps.map OutgoingPacket.wire = packets ++ completedPackets calls ∧ (∀ c ∈ calls, ¬ c.Fatal) ∧
      ∃ init a, calls = init ++ [.pkt a] ∧ a.rv = 0
  | some (.error _) => ∃ init c, calls = init ++ [c] ∧ c.Fatal ∧ ∀ c' ∈ init, ¬ c'.Fatal

theorem Answered.prepend {calls calls' : List Call} {packets : List WirePacket}
    {result : Option (Except Error (List OutgoingPacket))} (hc : ∀ c ∈ calls, ¬ c.Fatal)
    (h : Answered calls' (packets ++ completedPackets calls) result) :
    Answered (calls ++ calls') packets result := by
  rcases result with - | e | ps
  · trivial
  · obtain ⟨init, c, h₁, h₂, h₃⟩ := h
    refine ⟨calls ++ init, c, by rw [h₁, List.append_assoc], h₂, fun c' hc' => ?_⟩
    rcases List.mem_append.mp hc' with hc' | hc'
    · exact hc c' hc'
    · exact h₃ c' hc'
  · obtain ⟨h₁, h₂, init, a, h₃, hrv⟩ := h
    refine ⟨by rw [h₁, completedPackets_append, List.append_assoc], fun c' hc' => ?_,
      calls ++ init, a, by rw [h₃, List.append_assoc], hrv⟩
    rcases List.mem_append.mp hc' with hc' | hc'
    · exact hc c' hc'
    · exact h₂ c' hc'

theorem not_fatal_pkt {a : WriteAnswer} {w : Written} (h : writePktResult a = .ok w)
    (hp : 0 < w.written → w.path ≠ none) : ¬ (Call.pkt a).Fatal := by
  obtain ⟨h₁, h₂, -, h₃⟩ := writePktResult_ok h
  rintro (⟨hc, -⟩ | hc | ⟨hc, hc'⟩)
  · simp only [Call.answer] at hc; omega
  · exact hc
  · simp only [Call.answer] at hc hc'
    have hw : 0 < w.written := by omega
    exact hp hw ((h₃ hw).trans hc')

theorem fatal_pkt_of_error {a : WriteAnswer} {e : Error} (h : writePktResult a = .error e) :
    (Call.pkt a).Fatal := by
  refine Or.inl ⟨(writePktResult_error h).1, ?_, ?_⟩
  · exact fun hc => hc
  · rintro (hc | hc | hc) <;> exact hc

/-- A packet in front of the packets that the calls completed. -/
theorem Answered.cons {calls : List Call} {result : Option (Except Error (List OutgoingPacket))}
    (h : Answered calls [] result) (packet : OutgoingPacket) :
    Answered calls [packet.wire] (result.map fun r => r.map (packet :: ·)) := by
  rcases result with - | e | ps
  · trivial
  · exact h
  · obtain ⟨hps, hrest⟩ := h
    refine ⟨?_, hrest⟩
    rw [List.map_cons, hps]
    rfl

theorem logged_writePkt {s s' : σ × List Call} {a : WriteAnswer}
    (h : ng.logged.writePkt s = (a, s')) : s'.2 = s.2 ++ [.pkt a] := by
  cases h; rfl

theorem writeControlPackets_log : ∀ (fuel : ℕ) (s : σ × List Call),
    ∃ calls, (writeControlPackets ng.logged fuel s).2.2 = s.2 ++ calls ∧
      (∀ c ∈ calls, ∃ a, c = .pkt a) ∧
      Answered calls [] (writeControlPackets ng.logged fuel s).1
  | 0, s => ⟨[], by simp [writeControlPackets], by simp, trivial⟩
  | fuel + 1, s => by
    rcases hr : writeControlPackets ng.logged (fuel + 1) s with ⟨result, s''⟩
    cases Control.of_eq hr with
    | @failed a s' e ha hw =>
      exact ⟨[.pkt a], logged_writePkt ha, by simp, [], .pkt a, rfl, fatal_pkt_of_error hw, by simp⟩
    | @done a s' w ha hw hz =>
      obtain ⟨hrv, hwr, -⟩ := writePktResult_ok hw
      refine ⟨[.pkt a], logged_writePkt ha, by simp, ?_, ?_, [], a, rfl, by omega⟩
      · simp [completedPackets, Call.answer, WriteAnswer.packet, show ¬ 0 < a.rv by omega]
      · simpa using not_fatal_pkt hw (by omega)
    | @pathless a s' w ha hw hz hpath =>
      obtain ⟨hrv, hwr, -, hpath'⟩ := writePktResult_ok hw
      have hpl : (Call.pkt a).Pathless :=
        ⟨show 0 < a.rv by omega, (hpath' hz).symm.trans hpath⟩
      exact ⟨[.pkt a], logged_writePkt ha, by simp, [], .pkt a, rfl, Or.inr (Or.inr hpl), by simp⟩
    | @more a s' w path ha hw hz hpath =>
      obtain ⟨hrv, hwr, hecn, hpath'⟩ := writePktResult_ok hw
      obtain ⟨calls, h₁, h₂, h₃⟩ := writeControlPackets_log fuel s'
      have hnf : ∀ c ∈ [Call.pkt a], ¬ c.Fatal := by simpa using not_fatal_pkt hw (by simp [hpath])
      have hcp : completedPackets [.pkt a] =
          [OutgoingPacket.wire ⟨a.buf.take w.written, path.localAddr, path.remote, w.ecn⟩] := by
        simp [completedPackets, Call.answer, WriteAnswer.packet, show 0 < a.rv by omega, hwr, hecn,
          ← hpath' hz, hpath, OutgoingPacket.wire]
      refine ⟨.pkt a :: calls, ?_, by simpa using h₂, Answered.prepend hnf ?_⟩
      · rw [h₁, logged_writePkt ha, List.append_assoc]
        rfl
      · rw [hcp]
        exact h₃.cons _

/-- The calls begin with those of a pass over the streams of `p`; a pass that was stopped is the
only one. -/
def FirstPass (p : PendingStreams) (calls : List Call) : Prop :=
  ∃ first rest stop, calls = first ++ rest ∧ PassLog p.orderedIds p first stop ∧
    (stop ≠ .done → ∀ c ∈ rest, ∃ a, c = .pkt a)

theorem PassLog.not_fatal {ids : List StreamId} {p : PendingStreams} {calls : List Call}
    {stop : PassEnd} (h : PassLog ids p calls stop) (hs : ∀ e, stop ≠ .failed e) :
    ∀ c ∈ calls, ¬ c.Fatal := by
  intro c hc hf
  rcases h.covers with ⟨-, h₂, -⟩ | ⟨init, o, a, rfl, h₂, -, h₄, -⟩
  · exact h₂ c hc (Or.inl hf)
  · rcases List.mem_append.mp hc with hc | hc
    · exact h₂ c hc (Or.inl hf)
    · rw [List.mem_singleton.mp hc, h₄] at hf
      exact hf.elim hs

theorem PassLog.answered {ids : List StreamId} {p : PendingStreams} {calls : List Call}
    {e e' : Error} (h : PassLog ids p calls (.failed e)) (packets : List WirePacket) :
    Answered calls packets (some (.error e')) := by
  rcases h.covers with ⟨h₁, -⟩ | ⟨init, o, a, h₁, h₂, -, h₄, -⟩
  · cases h₁
  · exact ⟨init, _, h₁, h₄.mpr ⟨e, rfl⟩, fun c hc hf => h₂ c hc (Or.inl hf)⟩

/-- The calls of a pass, of the control packets behind it, and those that follow. -/
theorem PassLog.firstPass {p : PendingStreams} {first control : List Call} {stop : PassEnd}
    (h : PassLog p.orderedIds p first stop) (hc : ∀ c ∈ control, ∃ a, c = .pkt a)
    (more : List Call) (hm : stop ≠ .done → more = []) :
    FirstPass p (first ++ (control ++ more)) := by
  refine ⟨first, control ++ more, stop, rfl, h, fun hs c hmem => ?_⟩
  rw [hm hs, List.append_nil] at hmem
  exact hc c hmem

/-- The calls of one round that did not fail in its pass. -/
theorem round_log {fuel : ℕ} {conn conn' : σ × List Call} {p : PendingStreams}
    {packets : List OutgoingPacket} {st : Pass (σ × List Call)} {stop : PassEnd}
    {result : Option (Except Error (List OutgoingPacket))}
    (hp : pass ng.logged p.orderedIds ⟨conn, p, packets, false, false⟩ = (st, stop))
    (hs : ∀ e, stop ≠ .failed e)
    (hc : writeControlPackets ng.logged fuel st.conn = (result, conn')) :
    ∃ first control, conn'.2 = conn.2 ++ (first ++ control) ∧ PassLog p.orderedIds p first stop ∧
      (∀ c ∈ first, ¬ c.Fatal) ∧ (∀ c ∈ control, ∃ a, c = .pkt a) ∧ Answered control [] result ∧
      st.packets.map OutgoingPacket.wire =
        packets.map OutgoingPacket.wire ++ completedPackets first := by
  obtain ⟨first, h₁, h₂, h₃⟩ :=
    @pass_log σ ng p.orderedIds ⟨conn, p, packets, false, false⟩ p.order.sorted
  obtain ⟨control, h₄, h₅, h₆⟩ := @writeControlPackets_log σ ng fuel st.conn
  rw [hp] at h₁ h₂ h₃
  rw [hc, h₁, List.append_assoc] at h₄
  rw [hc] at h₆
  exact ⟨first, control, h₄, h₂, h₂.not_fatal hs, h₅, h₆, h₃ hs⟩

theorem writePacketsFrom_log : ∀ (fuel : ℕ) (conn : σ × List Call) (p : PendingStreams)
    (packets : List OutgoingPacket),
    ∃ calls, (writePacketsFrom ng.logged fuel conn p packets).conn.2 = conn.2 ++ calls ∧
      Answered calls (packets.map OutgoingPacket.wire)
        (writePacketsFrom ng.logged fuel conn p packets).result ∧
      ((writePacketsFrom ng.logged fuel conn p packets).result ≠ none → FirstPass p calls)
  | 0, conn, p, packets => ⟨[], by simp [writePacketsFrom], trivial, fun h => absurd rfl h⟩
  | fuel + 1, conn, p, packets => by
    rw [writePacketsFrom_succ]
    have hround := iteration_spec ng.logged fuel conn p packets
    generalize iteration ng.logged fuel conn p packets = r at *
    cases hround with
    | failed hp =>
      -- the log ends with the answer to the visit that failed
      obtain ⟨first, h₁, h₂, -⟩ :=
        @pass_log σ ng p.orderedIds ⟨conn, p, packets, false, false⟩ p.order.sorted
      rw [hp] at h₁ h₂
      exact ⟨first, h₁, h₂.answered _, fun _ => ⟨first, [], _, by simp, h₂, by simp⟩⟩
    | running hp hs hc =>
      obtain ⟨first, control, hlog, -⟩ := round_log hp hs hc
      exact ⟨first ++ control, hlog, trivial, fun h => absurd rfl h⟩
    | controlFailed hp hs hc =>
      obtain ⟨first, control, hlog, hpass, hnf, hpkt, hans, -⟩ := round_log hp hs hc
      obtain ⟨init, c, rfl, hlast⟩ := hans
      refine ⟨_, hlog, Answered.prepend hnf ⟨init, c, rfl, hlast⟩, fun _ => ?_⟩
      simpa using hpass.firstPass hpkt [] fun _ => rfl
    | last hp hs hc hret =>
      obtain ⟨first, control, hlog, hpass, hnf, hpkt, hans, hwire⟩ := round_log hp hs hc
      obtain ⟨hps, hnf', hlast⟩ := hans
      refine ⟨_, hlog, Answered.prepend hnf ⟨?_, hnf', hlast⟩, fun _ => ?_⟩
      · rw [List.map_append, hwire, hps, List.nil_append]
      · simpa using hpass.firstPass hpkt [] fun _ => rfl
    | @again st conn' ps hp hc hprog =>
      obtain ⟨first, control, hlog, hpass, hnf, hpkt, hans, hwire⟩ := round_log hp (by simp) hc
      obtain ⟨hps, hnf', -⟩ := hans
      obtain ⟨more, hlog', hans', -⟩ := writePacketsFrom_log fuel conn' st.pending (st.packets ++ ps)
      refine ⟨first ++ (control ++ more), ?_, ?_, fun _ => ?_⟩
      · simp only
        rw [hlog', hlog]
        simp
      · refine Answered.prepend hnf (Answered.prepend hnf' ?_)
        rwa [List.map_append, hwire, hps, List.nil_append] at hans'
      · exact hpass.firstPass hpkt more fun hne => absurd rfl hne

end Ngtcp2Rs
