import Ngtcp2Rs.Driver.Endpoint
import Ngtcp2Rs.Streams.Conservation

/-!
# A stream, from one application to the other

One side queues the data of its streams and hands it to ngtcp2 (`Sender`), the other side gets it as
events (`Endpoint`). A `Channel` is both, each doing what it does at its own time. QUIC itself is
outside: `Transported` is what it promises for one stream, that the bytes which come out are those
that ngtcp2 took, in order, and that nothing comes after a FIN.

* `stream_intact`: then the application gets the bytes that were written, in order and without a gap,
  and with the FIN all that was written before ngtcp2 took the FIN.
-/

namespace Ngtcp2Rs

open Lib

/-! ## One stream -/

/-- The bytes of stream `id` in a list of events. -/
def receivedOn (id : StreamId) (events : List Core.ConnectionEvent) : Bytes :=
  events.flatMap fun
    | .streamData i data _ => if i = id then data else []
    | _ => []

/-- The bytes that were pushed to stream `id`. -/
def pushedOn (id : StreamId) (tr : List Event) : Bytes :=
  tr.flatMap fun
    | .push i data _ => if i = id then data else []
    | _ => []

/-- The bytes that ngtcp2 took for stream `id`. -/
def acceptedOn (id : StreamId) (tr : List Event) : Bytes :=
  tr.flatMap fun
    | .call (.stream o a) => if o.streamId = id then o.data.take (a.dataWritten.getD 0) else []
    | _ => []

/-- The sender gives stream `id` up: it is reset, or ngtcp2 says that it was shut. -/
def Event.Drops (id : StreamId) : Event → Prop
  | .remove i => i = id
  | .call (.stream o a) => o.streamId = id ∧ a.rv = errStreamShutWr
  | _ => False

instance (id : StreamId) : DecidablePred (Event.Drops id)
  | .push .. | .call (.pkt _) => isFalse fun h => h
  | .remove i => inferInstanceAs (Decidable (i = id))
  | .call (.stream o a) => inferInstanceAs (Decidable (o.streamId = id ∧ a.rv = errStreamShutWr))

/-- ngtcp2 took the FIN of stream `id`. -/
def Event.TakesFin (id : StreamId) : Event → Prop
  | .call (.stream o a) => o.streamId = id ∧ finAccepted o a = true
  | _ => False

instance (id : StreamId) : DecidablePred (Event.TakesFin id)
  | .push .. | .remove _ | .call (.pkt _) => isFalse fun h => h
  | .call (.stream o a) => inferInstanceAs (Decidable (o.streamId = id ∧ finAccepted o a = true))

/-- What QUIC promises for stream `id`. -/
structure Transported (id : StreamId) (tr : List Event) (reported : List Core.ConnectionEvent) :
    Prop where
  /-- what comes out was put in, in the same order -/
  bytes : receivedOn id reported <+: acceptedOn id tr
  /-- a FIN comes out after everything, if one was put in -/
  fin : ∀ before data after, reported = before ++ .streamData id data true :: after →
    receivedOn id before ++ data = acceptedOn id tr ∧ ∃ ev ∈ tr, ev.TakesFin id

/-! ## Both sides -/

/-- Two parties. -/
structure Channel (σ : Type) where
  sender : Sender σ
  receiver : Endpoint

/-- Something happens on one side. -/
inductive ChannelOp where
  | send (op : SendOp)
  | receive (op : EndpointOp)

variable {σ : Type}

/-- One step of one side. -/
def Channel.step (ng : Ngtcp2 σ) (d : Driver) (c : Channel σ) : ChannelOp → Channel σ
  | .send op => { c with sender := c.sender.step ng op }
  | .receive op => { c with receiver := c.receiver.step d op }

/-- The events of ngtcp2 that the application got. -/
def Endpoint.got (e : Endpoint) : List Core.ConnectionEvent := e.delivered.filterMap (·.core?)

/-- Stream `id` arrives as it was written. -/
structure StreamIntact (id : StreamId) (c : Channel σ) : Prop where
  /-- what was written is with the application, waits for it, is on its way, or is still queued -/
  bytes : ∃ network, receivedOn id c.receiver.got ++ receivedOn id c.receiver.undelivered ++ network ++
    (c.sender.pending.view id).1 = pushedOn id c.sender.trace
  /-- with the FIN, the application has everything but what is queued, and that was written after
  ngtcp2 took the FIN -/
  fin : ∀ before data after, c.receiver.got = before ++ .streamData id data true :: after →
    receivedOn id before ++ data ++ (c.sender.pending.view id).1 = pushedOn id c.sender.trace ∧
      ∃ sent ev rest, c.sender.trace = sent ++ ev :: rest ∧ ev.TakesFin id ∧
        (∃ written, .push id written true ∈ sent) ∧
        (c.sender.pending.view id).1 <:+ pushedOn id rest

/-! ## The sender -/

/-- The books of a stream that was never given up. -/
theorem ledger_eq {id : StreamId} (tr : List Event) (h : ∀ e ∈ tr, ¬ e.Drops id) :
    (ledger id tr).accepted = acceptedOn id tr ∧ (ledger id tr).pushed = pushedOn id tr := by
  induction tr using List.reverseRecOn with
  | nil => exact ⟨rfl, rfl⟩
  | append_singleton tr e ih =>
    obtain ⟨haccepted, hpushed⟩ := ih fun e' he' => h e' (List.mem_append_left _ he')
    have he : ¬ e.Drops id := h e (by simp)
    rw [ledger_concat]
    simp only [acceptedOn, pushedOn, List.flatMap_append, List.flatMap_singleton] at haccepted hpushed ⊢
    cases e with
    | push i data fin =>
      simp only [Ledger.step]
      split_ifs with hi
      · simp [haccepted, hpushed]
      · simp [haccepted, hpushed]
    | remove i =>
      have hi : i ≠ id := he
      simp [Ledger.step, hi, haccepted, hpushed]
    | call c =>
      cases c with
      | stream o a =>
        simp only [Ledger.step]
        split_ifs with hi hrv
        · exact absurd ⟨hi, hrv⟩ he
        · simp [haccepted, hpushed]
        · simp [haccepted, hpushed]
      | pkt a => simp [Ledger.step, haccepted, hpushed]

/-- A FIN that ngtcp2 took was asked for, and with it ngtcp2 had taken all that was written. -/
theorem pushed_of_takesFin {id : StreamId} {sent rest : List Event} {ev : Event}
    (h : OffersExact (sent ++ ev :: rest)) (hkept : ∀ e ∈ sent, ¬ e.Drops id) (hfin : ev.TakesFin id) :
    (∃ data, .push id data true ∈ sent) ∧
      pushedOn id sent <+: acceptedOn id (sent ++ ev :: rest) ∧ pushedOn id [ev] = [] := by
  match ev, hfin with
  | .call (.stream o a), ⟨hid, hfin⟩ =>
    simp only [finAccepted, Bool.and_eq_true, beq_iff_eq] at hfin
    obtain ⟨hdata, hdue⟩ := h sent o a ⟨rest, by simp⟩
    obtain ⟨haccepted, hpushed⟩ := ledger_eq sent hkept
    rw [hid, haccepted, hpushed] at hdata
    refine ⟨run_fin sent {} rfl (hid ▸ hdue.symm.trans hfin.1), ⟨acceptedOn id rest, ?_⟩, rfl⟩
    have hoffer : acceptedOn id (sent ++ .call (.stream o a) :: rest) =
        acceptedOn id sent ++ o.data.take (a.dataWritten.getD 0) ++ acceptedOn id rest := by
      simp only [acceptedOn, List.flatMap_append, List.flatMap_cons, hid, if_true, List.append_assoc]
    rw [hoffer, hfin.2, Option.getD_some, List.take_length, hdata]

/-! ## Whole runs -/

theorem receivedOn_append (id : StreamId) (events events' : List Core.ConnectionEvent) :
    receivedOn id (events ++ events') = receivedOn id events ++ receivedOn id events' :=
  List.flatMap_append

/-- What both sides keep. -/
structure Channel.Sound (c : Channel σ) : Prop where
  sender : Conserved c.sender.trace c.sender.pending
  receiver : c.receiver.InOrder

theorem Channel.Sound.step {ng : Ngtcp2 σ} (hng : ng.Lawful) {d : Driver} {c : Channel σ}
    (h : c.Sound) (op : ChannelOp) : (c.step ng d op).Sound := by
  cases op with
  | send op => exact ⟨h.sender.step hng c.sender op, h.receiver⟩
  | receive op =>
    exact ⟨h.sender, Endpoint.run_keeps (fun _ op _ hc => hc.step op) [op] c.receiver h.receiver⟩

/-- **A stream arrives as it was written.** Whatever the two sides do and in whatever order, a stream
that the sender does not give up is delivered in order and without a gap, and completely once its FIN
is delivered. -/
theorem stream_intact (ng : Ngtcp2 σ) (hng : ng.Lawful) (conn : σ) {d : Driver} {path : PathInfo}
    {e : Endpoint} (he : e.Starts d path) (ops : List ChannelOp) (id : StreamId)
    (hkept : ∀ ev ∈ (run (Channel.step ng d) ⟨{ conn }, e⟩ ops).sender.trace, ¬ ev.Drops id)
    (htransport : Transported id (run (Channel.step ng d) ⟨{ conn }, e⟩ ops).sender.trace
      (run (Channel.step ng d) ⟨{ conn }, e⟩ ops).receiver.reported) :
    StreamIntact id (run (Channel.step ng d) ⟨{ conn }, e⟩ ops) := by
  have hinit : Channel.Sound ⟨({ conn } : Sender σ), e⟩ := by
    refine ⟨⟨fun id => ⟨rfl, rfl⟩, fun tr₀ o a hpre => ?_⟩,
      he.keeps (fun _ => rfl) (fun _ op _ hc => hc.step op) []⟩
    exact absurd (List.prefix_nil.mp hpre) (by simp)
  have hsound : (run (Channel.step ng d) ⟨{ conn }, e⟩ ops).Sound :=
    run_preserves (fun c op hc => hc.step hng op) ops _ hinit
  generalize run (Channel.step ng d) ⟨{ conn }, e⟩ ops = c at hkept htransport hsound ⊢
  obtain ⟨haccepted, hpushed⟩ := ledger_eq c.sender.trace hkept
  have hbooks : acceptedOn id c.sender.trace ++ (c.sender.pending.view id).1 =
      pushedOn id c.sender.trace := by
    rw [← haccepted, ← hpushed]
    exact (hsound.sender.1 id).1
  have horder : c.receiver.got ++ c.receiver.undelivered = c.receiver.reported :=
    Driven.inOrder_iff.mp hsound.receiver
  refine ⟨?_, fun before data after hgot => ?_⟩
  · obtain ⟨network, hnetwork⟩ := htransport.bytes
    refine ⟨network, ?_⟩
    rw [← hbooks, ← hnetwork, ← horder, receivedOn_append]
  · -- what was reported begins with what was delivered, up to the FIN
    have hreported : c.receiver.reported =
        before ++ .streamData id data true :: (after ++ c.receiver.undelivered) := by
      rw [← horder, hgot, List.append_assoc, List.cons_append]
    obtain ⟨hall, ev, hmem, hfin⟩ := htransport.fin _ _ _ hreported
    obtain ⟨sent, rest, htrace⟩ := List.append_of_mem hmem
    obtain ⟨hwritten, ⟨late, hlate⟩, hcall⟩ := pushed_of_takesFin (htrace ▸ hsound.sender.2)
      (fun e' he' => hkept e' (htrace ▸ List.mem_append_left _ he')) hfin
    refine ⟨by rw [hall, hbooks], sent, ev, rest, htrace, hfin, hwritten, late, ?_⟩
    -- what ngtcp2 took begins with what was written up to the FIN
    have hsplit : pushedOn id c.sender.trace = pushedOn id sent ++ pushedOn id rest := by
      rw [htrace, ← List.singleton_append]
      simp only [pushedOn, List.flatMap_append] at hcall ⊢
      rw [hcall, List.nil_append]
    rw [← htrace] at hlate
    rw [hsplit, ← hlate, List.append_assoc] at hbooks
    exact List.append_cancel_left hbooks

/-- Three bytes and a FIN, which arrive in two events. -/
def threeBytes : List ChannelOp :=
  [.send (.push 0 [1, 2, 3] true), .send (.write 9), .receive (.recvEvent {} none),
    .receive (.sent none),
    .receive (.datagram (.v4 0x7f000001 2) (.v4 0x7f000001 1)
      { events := [.streamOpened 0, .streamData 0 [1, 2] false] } {} none),
    .receive .pollEvent, .receive (.recvEvent {} none), .receive (.sent none),
    .receive (.datagram (.v4 0x7f000001 2) (.v4 0x7f000001 1)
      { events := [.streamData 0 [3] true] } {} none)]

/-- The two sides after that. -/
def threeBytesSent : Channel Unit :=
  run (Channel.step twoBytes .client) ⟨{ conn := () }, Endpoint.sampleClient⟩ threeBytes

theorem threeBytes_transported :
    Transported 0 threeBytesSent.sender.trace threeBytesSent.receiver.reported := by
  have hreported : threeBytesSent.receiver.reported =
      [.streamOpened 0, .streamData 0 [1, 2] false, .streamData 0 [3] true] := by decide
  refine ⟨by decide, fun before data after h => ?_⟩
  rw [hreported] at h
  rcases before with _ | ⟨first, _ | ⟨second, _ | ⟨third, rest⟩⟩⟩
  · simp at h
  · simp at h
  · simp only [List.cons_append, List.nil_append, List.cons.injEq, Core.ConnectionEvent.streamData.injEq]
      at h
    obtain ⟨rfl, rfl, ⟨-, rfl, -⟩, -⟩ := h
    exact ⟨by decide, by decide⟩
  · simp at h

theorem stream_intact_threeBytes :
    receivedOn 0 threeBytesSent.receiver.got = [1, 2, 3] ∧ StreamIntact 0 threeBytesSent :=
  ⟨by decide, stream_intact twoBytes twoBytes_lawful () Endpoint.sampleClient_starts threeBytes 0
    (by decide) threeBytes_transported⟩

end Ngtcp2Rs
