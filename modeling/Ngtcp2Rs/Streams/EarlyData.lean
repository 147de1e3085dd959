import Ngtcp2Rs.Streams.Exchange
import Ngtcp2Rs.Streams.Timing

/-!
# Queued data across an early-data rejection

When the server rejects early data, ngtcp2 forgets its streams and their data and counts stream IDs
from the start again. `drain_events` of `tokio-ngtcp2/src/client.rs` passes the event on and leaves
the queue as it is, so what was queued before is offered on the streams that are opened after.

* `FreshOffers`: what is offered since the rejection was pushed since then.
* `rejection_discards_iff`: that is so exactly if nothing was waiting in the queue.
* `stale_data_offered`: a byte from before the rejection on a reopened stream, and a flush that
  fails for a stream that is gone.
-/

namespace Ngtcp2Rs

open Lib

/-- What a client does: it works on its queue, or reads a packet, after which the connection is
`next`. -/
inductive ClientOp (σ : Type) where
  | send (op : SendOp)
  | read (next : σ)

variable {σ : Type}

/-- One operation of a client. -/
def Sender.clientStep (ng : Ngtcp2 σ) (s : Sender σ) : ClientOp σ → Sender σ
  | .send op => s.step ng op
  | .read next => { s with conn := next }

/-- A packet was read that rejects the early data, and its event was taken over. The trace starts
anew. -/
def Sender.rejected (s : Sender σ) (next : σ) : Sender σ := { s with conn := next, trace := [] }

/-- Since the rejection, every offer is what was pushed and not accepted since then, and no stream is
offered that was not written to. -/
structure FreshOffers (tr : List Event) : Prop where
  exact : OffersExact tr
  pushed : ∀ tr₀ o a, tr₀ ++ [.call (.stream o a)] <+: tr → ∃ data fin, .push o.streamId data fin ∈ tr₀

/-! ## Offers of something -/

/-- Every offer has bytes or a FIN. -/
def OffersSomething (tr : List Event) : Prop :=
  ∀ o a, .call (.stream o a) ∈ tr → (o.data, o.fin) ≠ ([], false)

theorem OffersSomething.concat {tr : List Event} (h : OffersSomething tr) {e : Event}
    (he : ∀ o a, e = .call (.stream o a) → (o.data, o.fin) ≠ ([], false)) :
    OffersSomething (tr ++ [e]) := by
  intro o a hmem
  rcases List.mem_append.mp hmem with hmem | hmem
  · exact h o a hmem
  · exact he o a (List.mem_singleton.mp hmem).symm

theorem OffersSomething.visit {ng : Ngtcp2 σ} {tr : List Event} {isLast : Bool} {id : StreamId}
    {st st' : Pass (σ × List Call)} {stop : PassEnd} (hv : Visit ng.logged isLast id st st' stop)
    (h : OffersSomething (tr ++ st.conn.2.map .call)) :
    OffersSomething (tr ++ st'.conn.2.map .call) := by
  have hcall {data : Bytes} {fin : Bool} {a : WriteAnswer} {conn : σ × List Call}
      (hp : (data, fin) ≠ ([], false))
      (ha : ng.logged.writevStream st.conn ⟨id, data, fin, !isLast⟩ = (a, conn)) :
      OffersSomething (tr ++ conn.2.map .call) := by
    rw [(logged_writevStream ha).2, List.map_append, ← List.append_assoc]
    refine h.concat fun o a' heq => ?_
    cases heq
    exact hp
  cases hv with
  | absent _ => exact h
  | nothing _ => exact h
  | wrote _ hp ha _ _ => exact hcall hp ha
  | completed _ hp ha _ _ _ => exact hcall hp ha
  | pathless _ hp ha _ _ _ => exact hcall hp ha
  | blocked _ hp ha _ => exact hcall hp ha
  | shut _ hp ha _ => exact hcall hp ha
  | failed _ hp ha _ _ _ => exact hcall hp ha

theorem OffersSomething.step {ng : Ngtcp2 σ} {s : Sender σ} (h : OffersSomething s.trace)
    (op : SendOp) : OffersSomething (s.step ng op).trace := by
  cases op with
  | push id data fin => exact h.concat (by simp)
  | remove id => exact h.concat (by simp)
  | write fuel =>
    refine writePacketsFrom_invariant ng.logged
      (P := fun c _ => OffersSomething (s.trace ++ c.2.map .call)) (fun hv hc => hc.visit hv)
      (fun c _ hc => ?_) fuel (s.conn, []) s.pending [] (by simpa using h)
    have hlog : s.trace ++ (ng.logged.writePkt c).2.2.map Event.call =
        s.trace ++ c.2.map .call ++ [.call (.pkt (ng.writePkt c.1).1)] := by
      simp [Ngtcp2.logged]
    rw [hlog]
    exact hc.concat (by simp)

/-! ## After the rejection -/

/-- The books of a stream that nothing was pushed to. -/
theorem ledger_of_not_pushed {id : StreamId} : ∀ (tr : List Event),
    (∀ data fin, .push id data fin ∉ tr) → (ledger id tr).pushed = [] ∧ (ledger id tr).fin = false := by
  intro tr
  induction tr using List.reverseRecOn with
  | nil => exact fun _ => ⟨rfl, rfl⟩
  | append_singleton tr e ih =>
    intro hno
    obtain ⟨hpushed, hfin⟩ := ih fun data fin hmem => hno data fin (List.mem_append_left _ hmem)
    rw [ledger_concat]
    cases e with
    | push i data fin =>
      have hne : i ≠ id := by
        rintro rfl
        exact hno data fin (by simp)
      simp only [Ledger.step, if_neg hne]
      exact ⟨hpushed, hfin⟩
    | remove i =>
      simp only [Ledger.step]
      split
      · exact ⟨rfl, rfl⟩
      · exact ⟨hpushed, hfin⟩
    | call c =>
      cases c with
      | pkt a => exact ⟨hpushed, hfin⟩
      | stream o a =>
        simp only [Ledger.step]
        split
        · split
          · exact ⟨rfl, rfl⟩
          · exact ⟨hpushed, by simp [hfin]⟩
        · exact ⟨hpushed, hfin⟩

/-- An exact offer of something is an offer of what was pushed. -/
theorem freshOffers {tr : List Event} (hexact : OffersExact tr) (hsome : OffersSomething tr) :
    FreshOffers tr := by
  refine ⟨hexact, fun tr₀ o a hpre => ?_⟩
  by_contra hno
  push Not at hno
  obtain ⟨hpushed, hfin⟩ := ledger_of_not_pushed tr₀ hno
  obtain ⟨hdata, hofin⟩ := hexact tr₀ o a hpre
  rw [hpushed, List.append_eq_nil_iff] at hdata
  rw [hfin] at hofin
  refine hsome o a (hpre.subset (by simp)) ?_
  rw [hdata.2, hofin]

/-- What holds since the rejection. -/
structure SinceRejection (s : Sender σ) : Prop where
  conserved : Conserved s.trace s.pending
  something : OffersSomething s.trace

theorem SinceRejection.clientStep {ng : Ngtcp2 σ} (hng : ng.Lawful) {s : Sender σ}
    (h : SinceRejection s) (op : ClientOp σ) : SinceRejection (s.clientStep ng op) := by
  cases op with
  | send op => exact ⟨h.conserved.step hng s op, h.something.step op⟩
  | read next => exact ⟨h.conserved, h.something⟩

/-- With nothing waiting, the books start empty. -/
theorem sinceRejection_rejected {s : Sender σ} (h : ∀ id, ¬ s.pending.Waiting id) (next : σ) :
    SinceRejection (s.rejected next) := by
  refine ⟨⟨fun id => ?_, fun tr₀ o a hpre => ?_⟩, fun o a hmem => absurd hmem List.not_mem_nil⟩
  · have hview : s.pending.view id = ([], false) := not_not.mp (h id)
    have hview' : (s.rejected next).pending.view id = ([], false) := hview
    rw [hview']
    exact ⟨rfl, rfl⟩
  · exact absurd (List.prefix_nil.mp hpre) (by simp)

/-- A flush with something waiting makes an offer, before anything is pushed. -/
theorem write_offers {ng : Ngtcp2 σ} {s : Sender σ} {id : StreamId} (h : s.pending.Waiting id)
    (hs : s.trace = []) : ∃ o a rest, (s.step ng (.write 1)).trace = .call (.stream o a) :: rest := by
  obtain ⟨calls, hlog, hpass, -⟩ := @pass_log σ ng s.pending.orderedIds
    ⟨(s.conn, []), s.pending, [], false, false⟩ s.pending.order.sorted
  have htrace : (s.step ng (.write 1)).trace = calls.map .call := by
    have hconn : (writePackets ng.logged 1 (s.conn, []) s.pending).conn.2 = calls := by
      rw [List.nil_append] at hlog
      rw [← hlog]
      unfold writePackets writePacketsFrom
      simp only
      split <;> rfl
    change s.trace ++ _ = _
    rw [hs, List.nil_append, hconn]
  have hne : calls ≠ [] := by
    rintro rfl
    rcases hpass.covers with ⟨-, -, hall⟩ | ⟨init, o, a, hcalls, -⟩
    · have hmem := (s.pending.mem_waitingIds id).mpr h
      rw [PendingStreams.waitingIds, ← hall] at hmem
      exact absurd hmem List.not_mem_nil
    · simp at hcalls
  obtain ⟨c, rest, rfl⟩ := List.exists_cons_of_ne_nil hne
  obtain ⟨o, a, rfl⟩ := hpass.stream c List.mem_cons_self
  exact ⟨o, a, rest.map .call, htrace⟩

/-- **A rejection discards queued data if and only if there is none.** For every run of a client up
to a rejection: whatever comes after, only what was pushed since is offered, exactly if nothing was
waiting in the queue. -/
theorem rejection_discards_iff (ng : Ngtcp2 σ) (hng : ng.Lawful) (conn next : σ)
    (before : List (ClientOp σ)) :
    (∀ after, FreshOffers (run (Sender.clientStep ng)
      ((run (Sender.clientStep ng) { conn } before).rejected next) after).trace) ↔
    ∀ id, ¬ (run (Sender.clientStep ng) { conn } before).pending.Waiting id := by
  constructor
  · intro h id hw
    have hfresh := h [.send (.write 1)]
    obtain ⟨o, a, rest, htrace⟩ := @write_offers σ ng
      ((run (Sender.clientStep ng) { conn } before).rejected next) id hw rfl
    obtain ⟨data, fin, hmem⟩ := hfresh.pushed [] o a ⟨rest, htrace.symm⟩
    exact absurd hmem List.not_mem_nil
  · intro h after
    have hsince := run_invariant (I := SinceRejection)
      (fun s op hs (_ : True) => hs.clientStep hng op) after _ (sinceRejection_rejected h next)
      (legalRun_true after _)
    exact freshOffers hsince.conserved.2 hsince.something

/-- Two bytes and a FIN, flushed before the rejection. -/
def sampleFlushed : List (ClientOp (List StreamId)) :=
  [.send (.push 0 [1, 2] true), .send (.write 2)]

theorem rejection_discards_sample :
    (∀ id, ¬ (run (Sender.clientStep roomy) { conn := [] } sampleFlushed).pending.Waiting id) ∧
    ∀ after, FreshOffers (run (Sender.clientStep roomy)
      ((run (Sender.clientStep roomy) { conn := [] } sampleFlushed).rejected []) after).trace := by
  have hdrained : ∀ id,
      ¬ (run (Sender.clientStep roomy) { conn := [] } sampleFlushed).pending.Waiting id :=
    fun id h => h (roomy_drains 1 [] _ id)
  exact ⟨hdrained, (rejection_discards_iff roomy roomy_lawful [] [] sampleFlushed).mpr hdrained⟩

/-- An ngtcp2 that knows the streams of its state only. -/
def knowing : Ngtcp2 (List StreamId) where
  writevStream ids o :=
    if o.streamId ∈ ids then
      ({ rv := if o.more then errWriteMore else 1, datalen := o.data.length, buf := [0]
         path := some ⟨.v4 1 443, .v4 2 5000⟩ }, ids)
    else ({ rv := errStreamNotFound }, ids)
  writePkt ids := ({ rv := 0 }, ids)

/-- Data that is still queued when the rejection comes. -/
def sampleQueued : List (ClientOp (List StreamId)) := [.send (.push 0 [1, 2] true)]

/-- The stream is opened again, with one byte. -/
def sampleReopened : List (ClientOp (List StreamId)) :=
  [.send (.push 0 [9] true), .send (.write 2)]

/-- **Stale data is offered.** What was queued before the rejection goes in front of the data of the
reopened stream; and if it is not opened again, the next flush fails. -/
theorem stale_data_offered :
    (run (Sender.clientStep roomy)
      ((run (Sender.clientStep roomy) { conn := [] } sampleQueued).rejected []) sampleReopened).trace.take 2 =
        [.push 0 [9] true, .call (.stream ⟨0, [1, 2, 9], true, false⟩
          { rv := 1, datalen := 3, buf := [0], path := some ⟨.v4 1 443, .v4 2 5000⟩ })] ∧
    ¬ FreshOffers (run (Sender.clientStep roomy)
      ((run (Sender.clientStep roomy) { conn := [] } sampleQueued).rejected []) sampleReopened).trace ∧
    (writePackets knowing 2 []
      ((run (Sender.clientStep knowing) { conn := [0] } sampleQueued).rejected []).pending).result =
        some (.error (.ngtcp2 errStreamNotFound)) := by
  have htrace : (run (Sender.clientStep roomy)
      ((run (Sender.clientStep roomy) { conn := [] } sampleQueued).rejected [])
      sampleReopened).trace.take 2 =
        [.push 0 [9] true, .call (.stream ⟨0, [1, 2, 9], true, false⟩
          { rv := 1, datalen := 3, buf := [0], path := some ⟨.v4 1 443, .v4 2 5000⟩ })] := by
    decide +kernel
  refine ⟨htrace, fun h => ?_, by rfl⟩
  have hpre := List.take_prefix 2 (run (Sender.clientStep roomy)
    ((run (Sender.clientStep roomy) { conn := [] } sampleQueued).rejected []) sampleReopened).trace
  rw [htrace] at hpre
  have hexact := h.exact [.push 0 [9] true] _ _ hpre
  exact absurd hexact.1 (by decide)

end Ngtcp2Rs
