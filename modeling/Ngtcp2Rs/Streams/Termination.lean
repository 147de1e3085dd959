import Ngtcp2Rs.Streams.Conservation
import Ngtcp2Rs.Streams.Exchange
import Mathlib.Algebra.BigOperators.Group.Finset.Basic
import Mathlib.Algebra.GroupWithZero.Nat

/-!
# Termination of `write_packets`

The outer loop of `write_packets` goes on after a pass that took data or a FIN off the queue, and
after one that only completed a packet. Its measure joins the two: what is left on the queue
(`PendingStreams.load`) and the packets without new stream data that ngtcp2 may still emit
(`Tally.dataless`).

* `Progress`, `pass_progress`: a pass that ends lowers the load, or emits a data-less packet, or
  leaves both flags down.
* `passCount`: the number of rounds of the outer loop.
* `writeControlPackets_tally`: a control loop that is still running has emitted data-less packets
  only, up to the first.
* **`writePackets_terminates`**: both loops end, and the outer one within its number of passes.
-/

namespace Ngtcp2Rs

open Lib

/-! ## The load of the queue -/

namespace PendingStreams

/-- The bytes waiting. -/
def numBytes (p : PendingStreams) : ℕ := (p.orderedIds.map fun id => (p.view id).1.length).sum

/-- The FINs waiting. -/
def numFins (p : PendingStreams) : ℕ := (p.orderedIds.map fun id => (p.view id).2.toNat).sum

/-- The bytes and the FINs waiting. -/
def load (p : PendingStreams) : ℕ := p.numBytes + p.numFins

/-- What one stream adds to the load. -/
def weight (v : Bytes × Bool) : ℕ := v.1.length + v.2.toNat

/-- A stream without an entry has no weight, so that the load is a sum over any larger set. -/
theorem load_eq_sum (p : PendingStreams) {S : Finset StreamId} (hS : p.orderedIds.toFinset ⊆ S) :
    p.load = ∑ id ∈ S, weight (p.view id) := by
  have hnil : ∀ id ∈ S, id ∉ p.orderedIds.toFinset → weight (p.view id) = 0 := by
    intro id _ hid
    by_cases hw : p.Waiting id
    · exact absurd (List.mem_toFinset.mpr hw.mem) hid
    · rw [Waiting, not_not] at hw
      rw [hw]
      rfl
  have hnodup : p.orderedIds.Nodup := p.order.nodup
  rw [← Finset.sum_subset hS hnil, List.sum_toFinset _ hnodup]
  exact List.sum_map_add.symm

/-- **The load after a change to one stream.** -/
theorem load_update (p p' : PendingStreams) (id : StreamId)
    (h : ∀ i, i ≠ id → p'.view i = p.view i) :
    p'.load + weight (p.view id) = p.load + weight (p'.view id) := by
  have hid : id ∈ insert id (p.orderedIds.toFinset ∪ p'.orderedIds.toFinset) :=
    Finset.mem_insert_self _ _
  have hrest : ∑ i ∈ (insert id (p.orderedIds.toFinset ∪ p'.orderedIds.toFinset)).erase id,
      weight (p'.view i) =
      ∑ i ∈ (insert id (p.orderedIds.toFinset ∪ p'.orderedIds.toFinset)).erase id,
        weight (p.view i) :=
    Finset.sum_congr rfl fun i hi => by rw [h i (Finset.ne_of_mem_erase hi)]
  rw [p.load_eq_sum (Finset.subset_union_left.trans (Finset.subset_insert _ _)),
    p'.load_eq_sum (Finset.subset_union_right.trans (Finset.subset_insert _ _)),
    ← Finset.add_sum_erase _ _ hid, ← Finset.add_sum_erase _ _ hid, hrest]
  omega

theorem load_remove_le (p : PendingStreams) (id : StreamId) : (p.remove id).load ≤ p.load := by
  have hload := load_update p (p.remove id) id fun i hi => by rw [view_remove, if_neg hi]
  have hw : weight ((p.remove id).view id) = 0 := by rw [view_remove, if_pos rfl]; rfl
  omega

end PendingStreams

/-! ## Data-less packets -/

/-- ngtcp2 took bytes of the offer, or its FIN. -/
def Call.accepts : Call → Bool
  | .stream o a =>
    (decide (a.rv = errWriteMore) || decide (0 ≤ a.rv)) &&
      (decide (0 < a.dataWritten.getD 0) || finAccepted o a)
  | .pkt _ => false

/-- The packets of a log: how many were completed with nothing newly accepted in them, and whether
something was accepted that no packet carries yet. -/
structure Tally where
  dataless : ℕ := 0
  fresh : Bool := false

/-- One more call. A `write_pkt` that returns 0 has no packet under construction. -/
def Tally.step (t : Tally) (c : Call) : Tally :=
  let fresh := t.fresh || c.accepts
  if 0 < c.answer.rv then ⟨if fresh then t.dataless else t.dataless + 1, false⟩
  else
    match c with
    | .stream _ _ => ⟨t.dataless, fresh⟩
    | .pkt _ => ⟨t.dataless, false⟩

/-- The tally of a log. -/
def tally (log : List Call) : Tally := run Tally.step {} log

/-- The packets that carry no newly accepted stream data or FIN. -/
def datalessPackets (log : List Call) : ℕ := (tally log).dataless

theorem tally_concat (log : List Call) (c : Call) : tally (log ++ [c]) = (tally log).step c :=
  run_append _ _ log [c]

theorem Tally.dataless_le_step (t : Tally) (c : Call) : t.dataless ≤ (t.step c).dataless := by
  unfold Tally.step
  simp only
  split_ifs
  · exact le_rfl
  · exact Nat.le_succ _
  · cases c <;> exact le_rfl

theorem datalessPackets_append_le (log log' : List Call) :
    datalessPackets log ≤ datalessPackets (log ++ log') := by
  unfold datalessPackets tally
  rw [run_append]
  exact run_invariant (I := fun t : Tally => (run Tally.step {} log).dataless ≤ t.dataless)
    (fun t c ht _ => ht.trans (t.dataless_le_step c)) log' _ le_rfl (legalRun_true log' _)

/-! ## One pass -/

variable {σ : Type} {ng : Ngtcp2 σ}

/-- What a pass has done since its start, when `load` was waiting and `dataless` packets were
emitted: a pass that accepted nothing has no fresh data in the packet under construction, so that
the packets it completed are data-less. -/
structure Progress (load dataless : ℕ) (st : Pass (σ × List Call)) : Prop where
  load_le : st.pending.load ≤ load
  dataless_le : dataless ≤ datalessPackets st.conn.2
  wrote : st.wroteAny = true → st.pending.load < load
  idle : st.wroteAny = false → (tally st.conn.2).fresh = false ∧
    (st.wrotePacket = true → dataless < datalessPackets st.conn.2)

/-- A visit that makes no call keeps the progress if the load does not grow. -/
theorem Progress.skip {load dataless : ℕ} {st st' : Pass (σ × List Call)}
    (h : Progress load dataless st) (hconn : st'.conn = st.conn)
    (hany : st'.wroteAny = st.wroteAny) (hpkt : st'.wrotePacket = st.wrotePacket)
    (hload : st'.pending.load ≤ st.pending.load) : Progress load dataless st' := by
  refine ⟨hload.trans h.load_le, ?_, fun hw => ?_, fun hw => ?_⟩
  · rw [hconn]
    exact h.dataless_le
  · exact lt_of_le_of_lt hload (h.wrote (hany ▸ hw))
  · rw [hconn, hpkt]
    exact h.idle (hany ▸ hw)

/-- A visit that offers the stream keeps the progress if what was accepted lowers the load. -/
theorem Progress.call {load dataless : ℕ} {st st' : Pass (σ × List Call)}
    (h : Progress load dataless st) {o : StreamOffer} {a : WriteAnswer}
    (hlog : st'.conn.2 = st.conn.2 ++ [.stream o a])
    (hany : st'.wroteAny = (st.wroteAny || (Call.stream o a).accepts))
    (hpkt : st'.wrotePacket = true → st.wrotePacket = true ∨ 0 < a.rv)
    (hload : st'.pending.load ≤ st.pending.load)
    (hacc : (Call.stream o a).accepts = true → st'.pending.load < st.pending.load) :
    Progress load dataless st' := by
  refine ⟨hload.trans h.load_le, ?_, fun hw => ?_, fun hw => ?_⟩
  · rw [hlog]
    exact h.dataless_le.trans (datalessPackets_append_le _ _)
  · rw [hany, Bool.or_eq_true] at hw
    rcases hw with hw | hw
    · exact lt_of_le_of_lt hload (h.wrote hw)
    · exact lt_of_lt_of_le (hacc hw) h.load_le
  · rw [hany, Bool.or_eq_false_iff] at hw
    obtain ⟨hfresh, hold⟩ := h.idle hw.1
    have hle : dataless ≤ (tally st.conn.2).dataless := h.dataless_le
    rw [datalessPackets, hlog, tally_concat, Tally.step]
    simp only [hfresh, hw.2, Call.answer, Bool.or_self, Bool.false_eq_true, if_false]
    by_cases hrv : 0 < a.rv
    · rw [if_pos hrv]
      exact ⟨rfl, fun _ => Nat.lt_succ_of_le hle⟩
    · rw [if_neg hrv]
      refine ⟨rfl, fun hp => ?_⟩
      rcases hpkt hp with hp | hp
      · exact hold hp
      · exact absurd hp hrv

/-- The flag `write_packets` raises for an accepted write. -/
theorem accepts_of_ok {o : StreamOffer} {a : WriteAnswer} {w : Written}
    (h : writeStreamResult o.streamId a = .ok w) :
    (Call.stream o a).accepts = (decide (0 < w.dataWritten.getD 0) ||
      (o.fin && w.dataWritten == some o.data.length)) := by
  obtain ⟨hdw, -, hrv⟩ := writeStreamResult_ok h
  have hok : (decide (a.rv = errWriteMore) || decide (0 ≤ a.rv)) = true := by
    rcases hrv with ⟨hrv, -⟩ | ⟨hrv, -⟩
    · simp [hrv]
    · simp [hrv]
  simp only [Call.accepts, hok, Bool.true_and, finAccepted, hdw]

theorem accepts_of_error {id : StreamId} {a : WriteAnswer} {e : Error} (o : StreamOffer)
    (h : writeStreamResult id a = .error e) : (Call.stream o a).accepts = false := by
  obtain ⟨h₁, h₂⟩ := writeStreamResult_neg h
  simp [Call.accepts, h₁, h₂]

/-- **What is accepted leaves the queue**, as long as no more is accepted than was offered: a
FIN-only offer of which ngtcp2 took a byte would leave its FIN. -/
theorem load_accept (st : Pass σ) {o : StreamOffer} {a : WriteAnswer} {w : Written}
    (hl : st.pending.entries.lookup o.streamId = some (o.data, o.fin))
    (hw : writeStreamResult o.streamId a = .ok w) (hfit : a.datalen ≤ o.data.length) :
    (st.accept o.streamId o.data o.fin w).pending.load ≤ st.pending.load ∧
      ((Call.stream o a).accepts = true →
        (st.accept o.streamId o.data o.fin w).pending.load < st.pending.load) := by
  have hload := PendingStreams.load_update st.pending
    (st.accept o.streamId o.data o.fin w).pending o.streamId fun i hi => by
      simp [Pass.accept, PendingStreams.view_consume, hi]
  have hconsumed : w.dataWritten.getD 0 ≤ o.data.length := by
    rw [(writeStreamResult_ok hw).1, WriteAnswer.dataWritten]
    split_ifs
    · rw [Option.getD_some]
      omega
    · exact Nat.zero_le _
  have hview : PendingStreams.weight ((st.accept o.streamId o.data o.fin w).pending.view o.streamId) =
      o.data.length - w.dataWritten.getD 0 +
        (o.fin && !(o.fin && w.dataWritten == some o.data.length)).toNat := by
    simp [Pass.accept, PendingStreams.view_consume, PendingStreams.weight,
      st.pending.view_of_lookup _ hl]
  rw [st.pending.view_of_lookup _ hl, hview, PendingStreams.weight] at hload
  rw [accepts_of_ok hw]
  generalize (w.dataWritten == some o.data.length) = sent at *
  generalize w.dataWritten.getD 0 = consumed at *
  cases hfin : o.fin <;> cases sent <;> simp [hfin] at hload ⊢ <;> omega

theorem Visit.progress (hfit : ∀ s o, (ng.writevStream s o).1.datalen ≤ o.data.length)
    {isLast : Bool} {id : StreamId} {st st' : Pass (σ × List Call)} {stop : PassEnd}
    (hv : Visit ng.logged isLast id st st' stop) {load dataless : ℕ}
    (h : Progress load dataless st) : Progress load dataless st' := by
  have hcall : ∀ {o : StreamOffer} {a : WriteAnswer} {conn : σ × List Call},
      ng.logged.writevStream st.conn o = (a, conn) →
      a.datalen ≤ o.data.length ∧ conn.2 = st.conn.2 ++ [.stream o a] := by
    intro o a conn ha
    obtain ⟨h₁, h₂⟩ := logged_writevStream ha
    exact ⟨h₁ ▸ hfit st.conn.1 o, h₂⟩
  cases hv with
  | absent hl => exact h
  | nothing hl => exact h.skip rfl rfl rfl (st.pending.load_remove_le id)
  | @wrote data fin a conn w hl hp ha hw hz =>
    obtain ⟨hle, hlog⟩ := hcall ha
    obtain ⟨h₁, h₂⟩ := load_accept { st with conn := conn } hl hw hle
    exact h.call hlog (by rw [accepts_of_ok hw]; rfl) Or.inl h₁ h₂
  | @completed data fin a conn w path hl hp ha hw hz hpath =>
    obtain ⟨hle, hlog⟩ := hcall ha
    obtain ⟨h₁, h₂⟩ := load_accept { st with conn := conn } hl hw hle
    have hrv : 0 < a.rv := by
      rcases (writeStreamResult_ok hw).2.2 with ⟨-, hz'⟩ | ⟨hrv, hz', -⟩ <;> omega
    exact h.call hlog (by rw [accepts_of_ok hw]; rfl) (fun _ => Or.inr hrv) h₁ h₂
  | @pathless data fin a conn w hl hp ha hw hz hpath =>
    obtain ⟨hle, hlog⟩ := hcall ha
    obtain ⟨h₁, h₂⟩ := load_accept { st with conn := conn } hl hw hle
    exact h.call hlog (by rw [accepts_of_ok hw]; rfl) Or.inl h₁ h₂
  | blocked hl hp ha hw =>
    have hacc (o : StreamOffer) := accepts_of_error o hw
    exact h.call (hcall ha).2 (by simp [hacc]) Or.inl le_rfl (by simp [hacc])
  | shut hl hp ha hw =>
    have hacc (o : StreamOffer) := accepts_of_error o hw
    exact h.call (hcall ha).2 (by simp [hacc]) Or.inl (st.pending.load_remove_le id)
      (by simp [hacc])
  | failed hl hp ha hw hb hs =>
    have hacc (o : StreamOffer) := accepts_of_error o hw
    exact h.call (hcall ha).2 (by simp [hacc]) Or.inl le_rfl (by simp [hacc])

theorem pass_progress (hfit : ∀ s o, (ng.writevStream s o).1.datalen ≤ o.data.length)
    {load dataless : ℕ} : ∀ (ids : List StreamId) (st : Pass (σ × List Call)),
    Progress load dataless st → Progress load dataless (pass ng.logged ids st).1
  | [], _, h => h
  | id :: ids, st, h => by
    rcases pass_cons ng.logged id ids st with ⟨st', hv, heq⟩ | ⟨st', stop, -, hv, heq⟩
    · rw [heq]
      exact pass_progress hfit ids st' ((Visit.of_eq hv).progress hfit h)
    · rw [heq]
      exact (Visit.of_eq hv).progress hfit h

/-! ## The control loop -/

theorem tally_pkt (log : List Call) (a : WriteAnswer) :
    (tally (log ++ [.pkt a])).fresh = false ∧
      (0 < a.rv → datalessPackets log + 1 ≤
        datalessPackets (log ++ [.pkt a]) + (tally log).fresh.toNat) := by
  rw [datalessPackets, datalessPackets, tally_concat, Tally.step]
  simp only [Call.answer, Call.accepts, Bool.or_false]
  by_cases hrv : 0 < a.rv
  · rw [if_pos hrv]
    refine ⟨rfl, fun _ => ?_⟩
    cases (tally log).fresh <;> simp
  · rw [if_neg hrv]
    exact ⟨rfl, fun hc => absurd hc hrv⟩

/-- **The control loop.** A loop that is still running has completed a packet with each unit of its
fuel, of which only the first can carry fresh data; one that ended well left none. -/
theorem writeControlPackets_tally : ∀ (fuel : ℕ) (s : σ × List Call),
    ((writeControlPackets ng.logged fuel s).1 = none →
      datalessPackets s.2 + fuel ≤
        datalessPackets (writeControlPackets ng.logged fuel s).2.2 + (tally s.2).fresh.toNat) ∧
    (∀ packets, (writeControlPackets ng.logged fuel s).1 = some (.ok packets) →
      (tally (writeControlPackets ng.logged fuel s).2.2).fresh = false)
  | 0, s => by
    refine ⟨fun _ => ?_, fun packets h => ?_⟩
    · exact Nat.le_add_right _ _
    · cases h
  | fuel + 1, s => by
    rcases hr : writeControlPackets ng.logged (fuel + 1) s with ⟨result, s''⟩
    cases Control.of_eq hr with
    | failed | pathless => exact ⟨by simp, by simp⟩
    | @done a s' w ha hw hz =>
      refine ⟨by simp, fun _ _ => ?_⟩
      simp only
      rw [logged_writePkt ha]
      exact (tally_pkt s.2 a).1
    | @more a s' w path ha hw hz hpath =>
      obtain ⟨ih₁, ih₂⟩ := writeControlPackets_tally fuel s'
      obtain ⟨hfresh, hcount⟩ := tally_pkt s.2 a
      rw [← logged_writePkt ha] at hfresh hcount
      have hrv : 0 < a.rv := by
        have := (writePktResult_ok hw).2.1
        omega
      refine ⟨fun hnone => ?_, fun packets hok => ?_⟩
      · have hstep := hcount hrv
        have hrest := ih₁ (Option.map_eq_none_iff.mp hnone)
        rw [hfresh, Bool.toNat_false] at hrest
        simp only
        omega
      · obtain ⟨result, hps, hcons⟩ := Option.map_eq_some_iff.mp hok
        cases result with
        | error e => cases hcons
        | ok ps => exact ih₂ ps hps

theorem dataless_control_le {fuel : ℕ} {s s' : σ × List Call}
    {result : Option (Except Error (List OutgoingPacket))}
    (h : writeControlPackets ng.logged fuel s = (result, s')) :
    datalessPackets s.2 ≤ datalessPackets s'.2 := by
  obtain ⟨calls, hlog, -⟩ := @writeControlPackets_log σ ng fuel s
  rw [h] at hlog
  rw [hlog]
  exact datalessPackets_append_le _ _

/-! ## The outer loop -/

/-- The rounds the outer loop makes with the packets written so far. -/
def passCountFrom (ng : Ngtcp2 σ) : ℕ → σ → PendingStreams → List OutgoingPacket → ℕ
  | 0, _, _, _ => 0
  | fuel + 1, conn, pending, packets =>
    match iteration ng fuel conn pending packets with
    | .inl _ => 1
    | .inr next => passCountFrom ng fuel next.1 next.2.1 next.2.2 + 1

/-- The passes of one `write_packets`. -/
def passCount (ng : Ngtcp2 σ) (fuel : ℕ) (conn : σ) (pending : PendingStreams) : ℕ :=
  passCountFrom ng fuel conn pending []

/-- **One round.** It ends the call, or it ran its control loop to the end and made progress: the
load fell, or a data-less packet was emitted. -/
theorem iteration_cases (hfit : ∀ s o, (ng.writevStream s o).1.datalen ≤ o.data.length) (fuel : ℕ)
    (conn : σ × List Call) (p : PendingStreams) (packets : List OutgoingPacket)
    (hfresh : (tally conn.2).fresh = false) :
    (∃ r, iteration ng.logged fuel conn p packets = .inl r ∧
      datalessPackets conn.2 ≤ datalessPackets r.conn.2 ∧
      (r.result = none → datalessPackets conn.2 + fuel ≤ datalessPackets r.conn.2 + 1)) ∨
    ∃ next, iteration ng.logged fuel conn p packets = .inr next ∧
      (tally next.1.2).fresh = false ∧
      next.2.1.load + datalessPackets conn.2 < p.load + datalessPackets next.1.2 := by
  have hpass : ∀ {st : Pass (σ × List Call)} {stop : PassEnd},
      pass ng.logged p.orderedIds ⟨conn, p, packets, false, false⟩ = (st, stop) →
      Progress p.load (datalessPackets conn.2) st := by
    intro st stop hp
    have hprog := pass_progress hfit p.orderedIds ⟨conn, p, packets, false, false⟩
      ⟨le_rfl, le_rfl, by simp, fun _ => ⟨hfresh, by simp⟩⟩
    rwa [hp] at hprog
  have hround := iteration_spec ng.logged fuel conn p packets
  generalize iteration ng.logged fuel conn p packets = r at *
  cases hround with
  | failed hp => exact Or.inl ⟨_, rfl, (hpass hp).dataless_le, by simp⟩
  | @running st stop conn' hp hs hc =>
    have hle := (hpass hp).dataless_le
    refine Or.inl ⟨_, rfl, hle.trans (dataless_control_le hc), fun _ => ?_⟩
    have hrun := (@writeControlPackets_tally σ ng fuel st.conn).1 (by rw [hc])
    have hone := Bool.toNat_le (tally st.conn.2).fresh
    rw [hc] at hrun
    simp only at hrun ⊢
    omega
  | controlFailed hp hs hc | last hp hs hc hret =>
    exact Or.inl ⟨_, rfl, (hpass hp).dataless_le.trans (dataless_control_le hc), by simp⟩
  | @again st conn' control hp hc hflag =>
    have hprog := hpass hp
    have hmono := dataless_control_le hc
    have hclean := (@writeControlPackets_tally σ ng fuel st.conn).2 control (by rw [hc])
    rw [hc] at hclean
    refine Or.inr ⟨_, rfl, hclean, ?_⟩
    simp only
    -- something was accepted, or a packet went out without
    cases hany : st.wroteAny with
    | true =>
      have h₁ := hprog.wrote hany
      have h₂ := hprog.dataless_le
      omega
    | false =>
      have hp : st.wrotePacket = true := by simpa [hany] using hflag
      have h₁ := (hprog.idle hany).2 hp
      have h₂ := hprog.load_le
      omega

/-- **The outer loop**, from any state between two rounds. -/
theorem writePacketsFrom_tally (hfit : ∀ s o, (ng.writevStream s o).1.datalen ≤ o.data.length) :
    ∀ (fuel : ℕ) (conn : σ × List Call) (p : PendingStreams) (packets : List OutgoingPacket),
    (tally conn.2).fresh = false →
    datalessPackets conn.2 + passCountFrom ng.logged fuel conn p packets ≤
      p.load + datalessPackets (writePacketsFrom ng.logged fuel conn p packets).conn.2 + 1 ∧
    ((writePacketsFrom ng.logged fuel conn p packets).result = none →
      datalessPackets conn.2 + fuel ≤
        p.load + 2 * datalessPackets (writePacketsFrom ng.logged fuel conn p packets).conn.2 + 2)
  | 0, conn, p, packets, _ => by
    simp only [passCountFrom, writePacketsFrom]
    omega
  | fuel + 1, conn, p, packets, hfresh => by
    rw [writePacketsFrom_succ, passCountFrom]
    rcases iteration_cases hfit fuel conn p packets hfresh with
      ⟨r, heq, hle, hnone⟩ | ⟨next, heq, hfresh', hlt⟩
    · simp only [heq]
      refine ⟨by omega, fun h => ?_⟩
      have := hnone h
      omega
    · simp only [heq]
      obtain ⟨ih₁, ih₂⟩ := writePacketsFrom_tally hfit fuel next.1 next.2.1 next.2.2 hfresh'
      refine ⟨by omega, fun h => ?_⟩
      have := ih₂ h
      omega

/-- **Termination of `write_packets`.** If ngtcp2 accepts at most what it is offered and emits at
most `D` data-less packets during the call, then the call returns, after at most one pass for every
pending byte, pending FIN and data-less packet and one more. The control loop by itself ends under
the same assumption. -/
theorem writePackets_terminates (ng : Ngtcp2 σ)
    (hfit : ∀ s o, (ng.writevStream s o).1.datalen ≤ o.data.length) (D : ℕ) :
    (∀ (conn : σ) (p : PendingStreams),
      (∀ fuel, datalessPackets (writePackets ng.logged fuel (conn, []) p).conn.2 ≤ D) →
      (∀ fuel, p.numBytes + p.numFins + 2 * D + 3 ≤ fuel →
        (writePackets ng.logged fuel (conn, []) p).result ≠ none) ∧
      ∀ fuel, passCount ng.logged fuel (conn, []) p ≤ p.numBytes + p.numFins +
        datalessPackets (writePackets ng.logged fuel (conn, []) p).conn.2 + 1) ∧
    ∀ (conn : σ) (log : List Call),
      (∀ fuel, datalessPackets (writeControlPackets ng.logged fuel (conn, log)).2.2 ≤ D) →
      ∀ fuel, D + 2 ≤ fuel → (writeControlPackets ng.logged fuel (conn, log)).1 ≠ none := by
  refine ⟨fun conn p hD => ?_, fun conn log hD fuel hfuel hnone => ?_⟩
  · have hstart : datalessPackets [] = 0 := rfl
    have hrun (fuel : ℕ) := writePacketsFrom_tally hfit fuel (conn, []) p [] rfl
    simp only [hstart, PendingStreams.load] at hrun
    refine ⟨fun fuel hfuel hnone => ?_, fun fuel => ?_⟩
    · have h₁ := (hrun fuel).2 hnone
      have h₂ := hD fuel
      rw [writePackets] at h₂
      omega
    · have h₁ := (hrun fuel).1
      rw [passCount, writePackets]
      omega
  · have h₁ := (@writeControlPackets_tally σ ng fuel (conn, log)).1 hnone
    have h₂ := hD fuel
    have h₃ := Bool.toNat_le (tally log).fresh
    simp only at h₁
    omega

/-- An ngtcp2 that sends a path MTU probe before any stream data. -/
def probing : Ngtcp2 Bool where
  writevStream due o :=
    ({ rv := 2, datalen := if due then -1 else o.data.length, buf := [64, 1]
       path := some ⟨.v4 1 443, .v4 2 5000⟩ }, false)
  writePkt due := ({ rv := 0 }, due)

theorem probing_dataless (fuel : ℕ) :
    datalessPackets (writePackets probing.logged fuel (true, [])
      (PendingStreams.new.push 0 [1, 2] true)).conn.2 ≤ 1 := by
  match fuel with
  | 0 | 1 | 2 => decide
  | n + 3 => exact Nat.le_of_ble_eq_true rfl

theorem writePackets_terminates_probing :
    let p := PendingStreams.new.push 0 [1, 2] true
    p.numBytes + p.numFins = 3 ∧
      (writePackets probing.logged 8 (true, []) p).result ≠ none ∧
      passCount probing.logged 8 (true, []) p = 2 ∧ passCount probing.logged 8 (true, []) p ≤ 5 := by
  intro p
  have hfit : ∀ s o, (probing.writevStream s o).1.datalen ≤ o.data.length := by
    intro due o
    cases due
    · exact le_rfl
    · exact (show (-1 : ℤ) ≤ o.data.length by omega)
  obtain ⟨h₁, h₂⟩ := (writePackets_terminates probing hfit 1).1 true p probing_dataless
  exact ⟨by decide, h₁ 8 (by decide), by decide, h₂ 8⟩

end Ngtcp2Rs
