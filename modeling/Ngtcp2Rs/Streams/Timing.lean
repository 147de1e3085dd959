import Ngtcp2Rs.Streams.Conservation
import Mathlib.Data.List.Induction

/-!
# When the queue is flushed

The application writes to its streams and flushes now and then. `Way` is one way to do so: the same
writes, with flushes in between, up to a state where nothing is pending. ngtcp2 accepts what it is
offered, sooner or later, and once it has the FIN of a stream it answers `STREAM_SHUT_WR`.

* `contentOf`: the bytes and the FIN that ngtcp2 got for a stream.
* `content_complete`: all that was written, if nothing was written behind a FIN.
* `flush_independent_iff`: that is exactly when the flushes do not matter.
* `late_write_lost`: a write behind a FIN is sent, or lost, depending on a flush.
-/

namespace Ngtcp2Rs

open Lib

/-- A call of `write_stream`. -/
structure StreamWrite where
  streamId : StreamId
  data : Bytes
  fin : Bool
  deriving DecidableEq, Repr

/-- What was written to a stream. -/
def writtenTo (id : StreamId) (ws : List StreamWrite) : Bytes :=
  ws.flatMap fun w => if w.streamId = id then w.data else []

/-- A FIN was requested on a stream. -/
def finOn (id : StreamId) (ws : List StreamWrite) : Bool :=
  ws.any fun w => decide (w.streamId = id) && w.fin

/-- Nothing is written to a stream behind its FIN. -/
def NothingBehindFin (ws : List StreamWrite) : Prop :=
  ws.Pairwise fun w w' => w.streamId = w'.streamId → w.fin = true → w'.data = []

instance (ws : List StreamWrite) : Decidable (NothingBehindFin ws) :=
  inferInstanceAs (Decidable (ws.Pairwise _))

/-- The writes among the operations. -/
def writesOf (ops : List SendOp) : List StreamWrite :=
  ops.filterMap fun
    | .push id data fin => some ⟨id, data, fin⟩
    | _ => none

/-- The writes of a trace. -/
def pushesOf (tr : List Event) : List StreamWrite :=
  tr.filterMap fun
    | .push id data fin => some ⟨id, data, fin⟩
    | _ => none

/-! ## What ngtcp2 receives -/

/-- The bytes of a stream, and where its FIN is. -/
structure StreamContent where
  data : Bytes := []
  finAt : Option ℕ := none
  deriving DecidableEq, Repr

/-- One event, as ngtcp2 sees it. -/
def StreamContent.step (id : StreamId) (r : StreamContent) : Event → StreamContent
  | .call (.stream o a) =>
    if o.streamId = id then
      let data := r.data ++ o.data.take (a.dataWritten.getD 0)
      { data, finAt := if finAccepted o a then some data.length else r.finAt }
    else r
  | _ => r

/-- What ngtcp2 received for a stream. -/
def contentOf (id : StreamId) (tr : List Event) : StreamContent := run (StreamContent.step id) {} tr

/-- ngtcp2 answers `STREAM_SHUT_WR` after the FIN of a stream, and not before. -/
def ShutsAfterFin (tr : List Event) : Prop :=
  ∀ tr₀ o a, tr₀ ++ [.call (.stream o a)] <+: tr →
    (a.rv = errStreamShutWr ↔ (contentOf o.streamId tr₀).finAt.isSome = true)

/-- ngtcp2 accepts nothing together with an error, in a trace. -/
def AnswersFit (tr : List Event) : Prop := ∀ o a, .call (.stream o a) ∈ tr → a.Fits o

/-- A way to write `ws`: flushes in between, until nothing is pending. -/
structure Way (ws : List StreamWrite) where
  σ : Type
  ng : Ngtcp2 σ
  conn : σ
  ops : List SendOp
  writes : writesOf ops = ws
  removes : ∀ id, .remove id ∉ ops
  lawful : ng.Lawful
  shuts : ShutsAfterFin (run (Sender.step ng) { conn } ops).trace
  drained : ∀ id, ¬ (run (Sender.step ng) { conn } ops).pending.Waiting id

/-- What ngtcp2 received in the end. -/
def Way.content {ws : List StreamWrite} (w : Way ws) (id : StreamId) : StreamContent :=
  contentOf id (run (Sender.step w.ng) { conn := w.conn } w.ops).trace

/-- It does not matter when the queue is flushed, and nothing that was written is lost. -/
structure FlushIndependent (ws : List StreamWrite) : Prop where
  same : ∀ (w₁ w₂ : Way ws) id, w₁.content id = w₂.content id
  kept : ∀ (w : Way ws) id, (w.content id).data = writtenTo id ws

theorem contentOf_concat (id : StreamId) (tr : List Event) (e : Event) :
    contentOf id (tr ++ [e]) = (contentOf id tr).step id e := run_append _ _ tr [e]

theorem pushesOf_append (tr tr' : List Event) : pushesOf (tr ++ tr') = pushesOf tr ++ pushesOf tr' :=
  List.filterMap_append

theorem writtenTo_append (id : StreamId) (ws ws' : List StreamWrite) :
    writtenTo id (ws ++ ws') = writtenTo id ws ++ writtenTo id ws' := List.flatMap_append

theorem finOn_append (id : StreamId) (ws ws' : List StreamWrite) :
    finOn id (ws ++ ws') = (finOn id ws || finOn id ws') := List.any_append

/-! ## Traces of a sender -/

section Sender

variable {σ : Type} {ng : Ngtcp2 σ}

/-- **Invariant rule for traces.** What every operation of the application and every call keeps
holds after every run. -/
theorem trace_invariant {Q : σ → List Event → Prop}
    (hpush : ∀ s tr id data fin, Q s tr → Q s (tr ++ [.push id data fin]))
    (hremove : ∀ s tr id, Q s tr → Q s (tr ++ [.remove id]))
    (hstream : ∀ s tr o, Q s tr →
      Q (ng.writevStream s o).2 (tr ++ [.call (.stream o (ng.writevStream s o).1)]))
    (hpkt : ∀ s tr, Q s tr → Q (ng.writePkt s).2 (tr ++ [.call (.pkt (ng.writePkt s).1)]))
    (ops : List SendOp) (s : Sender σ) (hs : Q s.conn s.trace) :
    Q (run (Sender.step ng) s ops).conn (run (Sender.step ng) s ops).trace := by
  refine run_invariant (I := fun s => Q s.conn s.trace) (fun s op hs _ => ?_) ops s hs
    (legalRun_true ops s)
  cases op with
  | push id data fin => exact hpush _ _ id data fin hs
  | remove id => exact hremove _ _ id hs
  | write fuel =>
    refine writePacketsFrom_invariant ng.logged
      (P := fun c _ => Q c.1 (s.trace ++ c.2.map .call)) (fun {isLast id st st' stop} hv hq => ?_)
      (fun c p hq => ?_) fuel (s.conn, []) s.pending [] (by simpa using hs)
    · have hcall {o : StreamOffer} {a : WriteAnswer} {conn : σ × List Call}
          (ha : ng.logged.writevStream st.conn o = (a, conn)) :
          Q conn.1 (s.trace ++ conn.2.map .call) := by
        cases ha
        simpa [Ngtcp2.logged] using hstream _ _ o hq
      cases hv with
      | absent _ => exact hq
      | nothing _ => exact hq
      | wrote _ _ ha _ _ => exact hcall ha
      | completed _ _ ha _ _ _ => exact hcall ha
      | pathless _ _ ha _ _ _ => exact hcall ha
      | blocked _ _ ha _ => exact hcall ha
      | shut _ _ ha _ => exact hcall ha
      | failed _ _ ha _ _ _ => exact hcall ha
    · simpa [Ngtcp2.logged] using hpkt _ _ hq

theorem answersFit_run (hng : ng.Lawful) (conn : σ) (ops : List SendOp) :
    AnswersFit (run (Sender.step ng) { conn } ops).trace := by
  have hold {tr : List Event} {e : Event} (h : AnswersFit tr)
      (he : ∀ o a, e = .call (.stream o a) → a.Fits o) : AnswersFit (tr ++ [e]) := by
    intro o a hmem
    rcases List.mem_append.mp hmem with hmem | hmem
    · exact h o a hmem
    · exact he o a (List.mem_singleton.mp hmem).symm
  refine trace_invariant (Q := fun _ tr => AnswersFit tr) (fun _ _ _ _ _ h => hold h (by simp))
    (fun _ _ _ h => hold h (by simp)) (fun s tr o h => hold h fun o' a heq => ?_)
    (fun _ _ h => hold h (by simp)) ops { conn } fun _ _ h => absurd h List.not_mem_nil
  cases heq
  exact hng s o

/-- The writes in the trace are those of the operations. -/
theorem pushesOf_run (ng : Ngtcp2 σ) : ∀ (ops : List SendOp) (s : Sender σ),
    pushesOf (run (Sender.step ng) s ops).trace = pushesOf s.trace ++ writesOf ops
  | [], s => (List.append_nil _).symm
  | op :: ops, s => by
    have hop : pushesOf (s.step ng op).trace = pushesOf s.trace ++ writesOf [op] := by
      cases op with
      | push id data fin => exact pushesOf_append _ _
      | remove id => exact pushesOf_append _ _
      | write fuel =>
        refine (pushesOf_append _ _).trans (congrArg (pushesOf s.trace ++ ·) ?_)
        refine List.filterMap_eq_nil_iff.mpr fun e he => ?_
        obtain ⟨c, -, rfl⟩ := List.mem_map.mp he
        rfl
    have hcons : writesOf (op :: ops) = writesOf [op] ++ writesOf ops :=
      List.filterMap_append (l := [op])
    rw [hcons, ← List.append_assoc, ← hop]
    exact pushesOf_run ng ops (s.step ng op)

/-- The removals in the trace are those of the operations. -/
theorem remove_notMem_run (ng : Ngtcp2 σ) : ∀ (ops : List SendOp) (s : Sender σ) {id : StreamId},
    .remove id ∉ s.trace → .remove id ∉ ops → .remove id ∉ (run (Sender.step ng) s ops).trace
  | [], _, _, hs, _ => hs
  | op :: ops, s, id, hs, hops => by
    refine remove_notMem_run ng ops (s.step ng op) ?_ fun h => hops (List.mem_cons_of_mem _ h)
    cases op with
    | push i data fin => simpa [Sender.step] using hs
    | remove i =>
      have hne : id ≠ i := fun heq => hops (heq ▸ List.mem_cons_self)
      simpa [Sender.step] using ⟨hs, hne⟩
    | write fuel => simpa [Sender.step] using hs

end Sender

/-! ## Before and after the FIN -/

/-- A stream before its FIN: ngtcp2 has what the books say. -/
structure Unfinished (id : StreamId) (tr : List Event) : Prop where
  finAt : (contentOf id tr).finAt = none
  pushed : (ledger id tr).pushed = writtenTo id (pushesOf tr)
  accepted : (ledger id tr).accepted = (contentOf id tr).data
  fin : (ledger id tr).fin = finOn id (pushesOf tr)

/-- A stream after its FIN: ngtcp2 has all that was written. -/
structure Finished (id : StreamId) (tr : List Event) : Prop where
  content : contentOf id tr =
    ⟨writtenTo id (pushesOf tr), some (writtenTo id (pushesOf tr)).length⟩
  fin : finOn id (pushesOf tr) = true
  books : (ledger id tr).accepted = (ledger id tr).pushed

section Stages

variable {id : StreamId} {tr : List Event}

theorem dataWritten_of_shut {o : StreamOffer} {a : WriteAnswer} (ha : a.Fits o)
    (hrv : a.rv = errStreamShutWr) : a.dataWritten = none := by
  have hlt := ha.2 (by rw [hrv]; decide) (by rw [hrv]; decide)
  unfold WriteAnswer.dataWritten
  rw [if_neg (by omega)]

theorem pushesOf_call (tr : List Event) (c : Call) : pushesOf (tr ++ [.call c]) = pushesOf tr :=
  (pushesOf_append _ _).trans (List.append_nil _)

/-- Once the FIN is there, nothing more is accepted. -/
theorem content_shut {o : StreamOffer} {a : WriteAnswer} (ha : a.Fits o)
    (hrv : a.rv = errStreamShutWr) (r : StreamContent) : r.step id (.call (.stream o a)) = r := by
  have hnone := dataWritten_of_shut ha hrv
  simp only [StreamContent.step, finAccepted, hnone, Option.getD_none, List.take_zero, List.append_nil]
  split <;> simp

/-- An event that does not concern the stream. -/
theorem Unfinished.frame (h : Unfinished id tr) {c : Call}
    (hl : (ledger id tr).step id (.call c) = ledger id tr)
    (hr : (contentOf id tr).step id (.call c) = contentOf id tr) :
    Unfinished id (tr ++ [.call c]) := by
  refine ⟨?_, ?_, ?_, ?_⟩
  · rw [contentOf_concat, hr]
    exact h.finAt
  · rw [ledger_concat, hl, pushesOf_call]
    exact h.pushed
  · rw [ledger_concat, hl, contentOf_concat, hr]
    exact h.accepted
  · rw [ledger_concat, hl, pushesOf_call]
    exact h.fin

theorem Finished.frame (h : Finished id tr) {c : Call}
    (hl : (ledger id tr).step id (.call c) = ledger id tr)
    (hr : (contentOf id tr).step id (.call c) = contentOf id tr) :
    Finished id (tr ++ [.call c]) := by
  refine ⟨?_, ?_, ?_⟩
  · rw [contentOf_concat, hr, pushesOf_call]
    exact h.content
  · rw [pushesOf_call]
    exact h.fin
  · rw [ledger_concat, hl]
    exact h.books

theorem Unfinished.push (h : Unfinished id tr) (i : StreamId) (data : Bytes) (fin : Bool) :
    Unfinished id (tr ++ [.push i data fin]) := by
  have hpushes : pushesOf (tr ++ [.push i data fin]) = pushesOf tr ++ [⟨i, data, fin⟩] :=
    pushesOf_append _ _
  refine ⟨?_, ?_, ?_, ?_⟩
  · rw [contentOf_concat]
    exact h.finAt
  · rw [ledger_concat, hpushes, writtenTo_append, ← h.pushed]
    simp only [Ledger.step, writtenTo]
    split <;> simp [*]
  · rw [ledger_concat, contentOf_concat]
    simp only [Ledger.step]
    split <;> exact h.accepted
  · rw [ledger_concat, hpushes, finOn_append, ← h.fin]
    simp only [Ledger.step, finOn]
    split <;> simp [*]

/-- An offer before the FIN: some of it is accepted, or all of it with the FIN. -/
theorem Unfinished.stream (h : Unfinished id tr) {o : StreamOffer} {a : WriteAnswer}
    (hid : o.streamId = id) (hshut : a.rv ≠ errStreamShutWr)
    (hexact : (ledger id tr).accepted ++ o.data = (ledger id tr).pushed ∧
      o.fin = (ledger id tr).fin) :
    Unfinished id (tr ++ [.call (.stream o a)]) ∨ Finished id (tr ++ [.call (.stream o a)]) := by
  have hpushes := pushesOf_call tr (.stream o a)
  have hledger : ledger id (tr ++ [.call (.stream o a)]) =
      { ledger id tr with
        accepted := (ledger id tr).accepted ++ o.data.take (a.dataWritten.getD 0)
        fin := (ledger id tr).fin && !finAccepted o a } := by
    rw [ledger_concat]
    simp only [Ledger.step, if_pos hid, if_neg hshut]
  have hcontent : contentOf id (tr ++ [.call (.stream o a)]) =
      { data := (contentOf id tr).data ++ o.data.take (a.dataWritten.getD 0)
        finAt := if finAccepted o a then
          some ((contentOf id tr).data ++ o.data.take (a.dataWritten.getD 0)).length
          else (contentOf id tr).finAt } := by
    rw [contentOf_concat]
    simp only [StreamContent.step, if_pos hid]
  by_cases hfin : finAccepted o a = true
  · -- all of the offer was accepted, and the offer was all that was pending
    obtain ⟨hofin, hall⟩ : o.fin = true ∧ a.dataWritten = some o.data.length := by
      simpa [finAccepted] using hfin
    have hdata : (contentOf id tr).data ++ o.data.take (a.dataWritten.getD 0) =
        writtenTo id (pushesOf tr) := by
      rw [hall, Option.getD_some, List.take_length, ← h.accepted, hexact.1, h.pushed]
    refine .inr ⟨?_, ?_, ?_⟩
    · rw [hcontent, if_pos hfin, hdata, hpushes]
    · rw [hpushes, ← h.fin, ← hexact.2, hofin]
    · rw [hledger]
      simp only
      rw [h.accepted, hdata, h.pushed]
  · refine .inl ⟨?_, ?_, ?_, ?_⟩
    · rw [hcontent, if_neg hfin]
      exact h.finAt
    · rw [hledger, hpushes]
      exact h.pushed
    · rw [hledger, hcontent, h.accepted]
    · rw [hledger, hpushes, ← h.fin]
      simp [hfin]

theorem Finished.push (h : Finished id tr) {i : StreamId} {data : Bytes} {fin : Bool}
    (hdata : i = id → data = []) : Finished id (tr ++ [.push i data fin]) := by
  have hpushes : pushesOf (tr ++ [.push i data fin]) = pushesOf tr ++ [⟨i, data, fin⟩] :=
    pushesOf_append _ _
  have hwritten : writtenTo id (pushesOf (tr ++ [.push i data fin])) = writtenTo id (pushesOf tr) := by
    rw [hpushes, writtenTo_append]
    simp only [writtenTo, List.flatMap_cons, List.flatMap_nil, List.append_nil]
    split
    · rename_i hi
      simp [hdata hi]
    · simp
  refine ⟨?_, ?_, ?_⟩
  · rw [contentOf_concat, hwritten]
    exact h.content
  · rw [hpushes, finOn_append, h.fin, Bool.true_or]
  · rw [ledger_concat]
    simp only [Ledger.step]
    split
    · rename_i hi
      simp only [hdata hi, List.append_nil]
      exact h.books
    · exact h.books

theorem Finished.stream (h : Finished id tr) {o : StreamOffer} {a : WriteAnswer} (ha : a.Fits o)
    (hshut : o.streamId = id → a.rv = errStreamShutWr) :
    Finished id (tr ++ [.call (.stream o a)]) := by
  by_cases hid : o.streamId = id
  · refine ⟨?_, ?_, ?_⟩
    · rw [contentOf_concat, content_shut ha (hshut hid), pushesOf_call]
      exact h.content
    · rw [pushesOf_call]
      exact h.fin
    · rw [ledger_concat]
      simp only [Ledger.step, if_pos hid, if_pos (hshut hid)]
  · exact h.frame (by simp only [Ledger.step, if_neg hid]) (by simp only [StreamContent.step, if_neg hid])

/-- What the trace of a sender has: exact offers, fitting answers, no removals, and no answer but
`STREAM_SHUT_WR` after a FIN. -/
structure FairTrace (tr : List Event) : Prop where
  exact : OffersExact tr
  fits : AnswersFit tr
  removes : ∀ id, .remove id ∉ tr
  shuts : ShutsAfterFin tr

theorem FairTrace.init {e : Event} (h : FairTrace (tr ++ [e])) : FairTrace tr :=
  ⟨fun tr₀ o a hpre => h.exact tr₀ o a (hpre.trans (List.prefix_append _ _)),
    fun o a hmem => h.fits o a (List.mem_append_left _ hmem),
    fun id hmem => h.removes id (List.mem_append_left _ hmem),
    fun tr₀ o a hpre => h.shuts tr₀ o a (hpre.trans (List.prefix_append _ _))⟩

/-- Behind a FIN there are only empty writes. -/
theorem NothingBehindFin.last {ws : List StreamWrite} {w : StreamWrite}
    (h : NothingBehindFin (ws ++ [w])) (hfin : finOn w.streamId ws = true) : w.data = [] := by
  obtain ⟨w', hmem, hw'⟩ := List.any_eq_true.mp hfin
  obtain ⟨hid, hfin'⟩ : w'.streamId = w.streamId ∧ w'.fin = true := by simpa using hw'
  exact (List.pairwise_append.mp h).2.2 w' hmem w List.mem_cons_self hid hfin'

/-- **Every stream is before its FIN, or complete**, by induction over the trace. -/
theorem unfinished_or_finished (id : StreamId) : ∀ (tr : List Event), FairTrace tr →
    NothingBehindFin (pushesOf tr) → Unfinished id tr ∨ Finished id tr := by
  intro tr
  induction tr using List.reverseRecOn with
  | nil => exact fun _ _ => .inl ⟨rfl, rfl, rfl, rfl⟩
  | append_singleton tr e ih =>
    intro hfair hbehind
    have hbehind' : NothingBehindFin (pushesOf tr ++ pushesOf [e]) := by
      rw [← pushesOf_append]
      exact hbehind
    have htr := ih hfair.init (List.pairwise_append.mp hbehind').1
    cases e with
    | push i data fin =>
      rcases htr with h | h
      · exact .inl (h.push i data fin)
      · refine .inr (h.push fun hi => ?_)
        exact NothingBehindFin.last (w := ⟨i, data, fin⟩) hbehind' (by rw [hi]; exact h.fin)
    | remove i => exact absurd (by simp) (hfair.removes i)
    | call c =>
      cases c with
      | pkt a => exact htr.imp (fun h => h.frame rfl rfl) fun h => h.frame rfl rfl
      | stream o a =>
        have hshut := hfair.shuts tr o a List.prefix_rfl
        rcases htr with h | h
        · by_cases hid : o.streamId = id
          · refine h.stream hid (fun hrv => ?_) ?_
            · have hsome := hshut.mp hrv
              rw [hid, h.finAt] at hsome
              cases hsome
            · have hexact := hfair.exact tr o a List.prefix_rfl
              rwa [hid] at hexact
          · exact .inl (h.frame (by simp only [Ledger.step, if_neg hid])
              (by simp only [StreamContent.step, if_neg hid]))
        · refine .inr (h.stream (hfair.fits o a (by simp)) fun hid => hshut.mpr ?_)
          rw [hid, h.content]
          rfl

end Stages

/-! ## Complete streams -/

/-- What ngtcp2 is to receive for a stream. -/
def completeContent (id : StreamId) (ws : List StreamWrite) : StreamContent :=
  ⟨writtenTo id ws, if finOn id ws then some (writtenTo id ws).length else none⟩

namespace Way

variable {ws : List StreamWrite} (w : Way ws)

/-- The trace of a way. -/
def trace : List Event := (run (Sender.step w.ng) { conn := w.conn } w.ops).trace

theorem pushesOf_trace : pushesOf w.trace = ws :=
  (pushesOf_run w.ng w.ops { conn := w.conn }).trans w.writes

theorem fairTrace : FairTrace w.trace where
  exact := (sender_conserves w.ng w.lawful w.conn w.ops).2.1
  fits := answersFit_run w.lawful w.conn w.ops
  removes id := remove_notMem_run w.ng w.ops _ List.not_mem_nil (w.removes id)
  shuts := w.shuts

/-- **All that was written is received**, if nothing was written behind a FIN. -/
theorem content_complete (hws : NothingBehindFin ws) (id : StreamId) :
    w.content id = completeContent id ws := by
  have hdrained : (run (Sender.step w.ng) { conn := w.conn } w.ops).pending.view id = ([], false) :=
    not_not.mp (w.drained id)
  obtain ⟨hbalance, hfin⟩ := (sender_conserves w.ng w.lawful w.conn w.ops).1 id
  rw [hdrained] at hbalance hfin
  have hpushes := w.pushesOf_trace
  rcases unfinished_or_finished id w.trace w.fairTrace (hpushes.symm ▸ hws) with h | h
  · have hdata : (contentOf id w.trace).data = writtenTo id ws := by
      have hpushed := h.pushed
      rw [hpushes] at hpushed
      rw [← h.accepted, ← hpushed]
      exact (List.append_nil _).symm.trans hbalance
    have hno : finOn id ws = false := by
      have hbooks := h.fin
      rw [hpushes] at hbooks
      exact hbooks.symm.trans hfin.symm
    have heq : contentOf id w.trace = ⟨writtenTo id ws, none⟩ := by
      rw [← hdata, ← h.finAt]
    rw [completeContent, hno]
    exact heq
  · have heq := h.content
    have hfin := h.fin
    rw [hpushes] at heq hfin
    rw [completeContent, hfin]
    exact heq

end Way

/-! ## A flush after every write -/

/-- An ngtcp2 with enough room: it accepts every offer at once. Its state are the streams with a
FIN. -/
def roomy : Ngtcp2 (List StreamId) where
  writevStream fins o :=
    if o.streamId ∈ fins then ({ rv := errStreamShutWr }, fins)
    else
      ({ rv := if o.more then errWriteMore else 1, datalen := o.data.length, buf := [0]
         path := some ⟨.v4 1 443, .v4 2 5000⟩ },
        if o.fin then o.streamId :: fins else fins)
  writePkt fins := ({ rv := 0 }, fins)

section Roomy

/-- The two answers: `STREAM_SHUT_WR` after the FIN, and otherwise all of it. -/
theorem roomy_answer (fins : List StreamId) (o : StreamOffer) :
    (o.streamId ∈ fins ∧ roomy.writevStream fins o = ({ rv := errStreamShutWr }, fins)) ∨
    (o.streamId ∉ fins ∧
      ((roomy.writevStream fins o).1.rv = errWriteMore ∨ (roomy.writevStream fins o).1.rv = 1) ∧
      (roomy.writevStream fins o).1.dataWritten = some o.data.length ∧
      (roomy.writevStream fins o).1.path ≠ none ∧
      (roomy.writevStream fins o).2 = if o.fin then o.streamId :: fins else fins) := by
  by_cases hmem : o.streamId ∈ fins
  · exact .inl ⟨hmem, if_pos hmem⟩
  · refine .inr ⟨hmem, ?_⟩
    simp only [roomy, if_neg hmem, WriteAnswer.dataWritten]
    refine ⟨?_, by simp, by simp, trivial⟩
    split <;> simp

theorem roomy_lawful : roomy.Lawful := by
  intro fins o
  unfold roomy
  simp only
  split
  · exact ⟨by simp, fun _ _ => by simp⟩
  · refine ⟨le_rfl, fun hneg hmore => ?_⟩
    simp only at hneg hmore
    split at hneg
    · rename_i hm
      exact absurd (if_pos hm) hmore
    · exact absurd hneg (by decide)

theorem ShutsAfterFin.concat {tr : List Event} (h : ShutsAfterFin tr) {e : Event}
    (he : ∀ o a, e = .call (.stream o a) →
      (a.rv = errStreamShutWr ↔ (contentOf o.streamId tr).finAt.isSome = true)) :
    ShutsAfterFin (tr ++ [e]) := by
  intro tr₀ o a hpre
  rcases List.prefix_concat_iff.mp hpre with heq | hpre
  · obtain ⟨rfl, hlast⟩ := List.append_inj' heq rfl
    exact he o a (List.singleton_inj.mp hlast).symm
  · exact h tr₀ o a hpre

/-- The state of `roomy` are the streams whose FIN it received. -/
structure RoomyTrace (fins : List StreamId) (tr : List Event) : Prop where
  fins : ∀ id, id ∈ fins ↔ (contentOf id tr).finAt.isSome = true
  shuts : ShutsAfterFin tr

theorem RoomyTrace.stream {fins : List StreamId} {tr : List Event} (h : RoomyTrace fins tr)
    (o : StreamOffer) : RoomyTrace (roomy.writevStream fins o).2
      (tr ++ [.call (.stream o (roomy.writevStream fins o).1)]) := by
  rcases roomy_answer fins o with ⟨hmem, heq⟩ | ⟨hmem, hrv, hall, -, hfins⟩
  · rw [heq]
    refine ⟨fun id => ?_, h.shuts.concat fun o' a ha => ?_⟩
    · rw [contentOf_concat, content_shut ⟨by simp, fun _ _ => by simp⟩ rfl]
      exact h.fins id
    · cases ha
      exact iff_of_true rfl ((h.fins o.streamId).mp hmem)
  · have hne : (roomy.writevStream fins o).1.rv ≠ errStreamShutWr := by
      rcases hrv with hrv | hrv <;> rw [hrv] <;> decide
    have hnone : (contentOf o.streamId tr).finAt = none := by
      rw [← Option.not_isSome_iff_eq_none, ← h.fins]
      exact hmem
    have hfin : finAccepted o (roomy.writevStream fins o).1 = o.fin := by
      simp [finAccepted, hall]
    refine ⟨fun id => ?_, h.shuts.concat fun o' a ha => ?_⟩
    · rw [contentOf_concat, hfins]
      simp only [StreamContent.step, hfin]
      by_cases hid : o.streamId = id
      · subst hid
        rw [if_pos rfl, hnone]
        cases o.fin <;> simp [hmem]
      · rw [if_neg hid, ← h.fins]
        cases o.fin <;> simp [Ne.symm hid]
    · cases ha
      exact iff_of_false hne (by simp [hnone])

theorem roomyTrace_run (ops : List SendOp) :
    RoomyTrace (run (Sender.step roomy) { conn := [] } ops).conn
      (run (Sender.step roomy) { conn := [] } ops).trace := by
  have hold {fins : List StreamId} {tr : List Event} (h : RoomyTrace fins tr) {e : Event}
      (hr : ∀ id, (contentOf id tr).step id e = contentOf id tr) (he : ∀ o a, e ≠ .call (.stream o a)) :
      RoomyTrace fins (tr ++ [e]) := by
    refine ⟨fun id => ?_, h.shuts.concat fun o a heq => absurd heq (he o a)⟩
    rw [contentOf_concat, hr]
    exact h.fins id
  refine trace_invariant (Q := RoomyTrace) (fun _ _ _ _ _ h => hold h (fun _ => rfl) (by simp))
    (fun _ _ _ h => hold h (fun _ => rfl) (by simp)) (fun _ _ o h => h.stream o)
    (fun _ _ h => hold h (fun _ => rfl) (by simp)) ops _ ⟨fun id => ?_, fun tr₀ o a hpre => ?_⟩
  · simp [contentOf]
  · exact absurd (List.prefix_nil.mp hpre) (by simp)

/-- A visit leaves nothing of the stream. -/
theorem roomy_visit {isLast : Bool} {id : StreamId} {st st' : Pass (List StreamId × List Call)}
    {stop : PassEnd} (hv : Visit roomy.logged isLast id st st' stop) :
    stop = .done ∧ st'.pending.view id = ([], false) := by
  have hanswer {o : StreamOffer} {a : WriteAnswer} {conn : List StreamId × List Call}
      (ha : roomy.logged.writevStream st.conn o = (a, conn)) : a.rv = errStreamShutWr ∨
      (a.rv = errWriteMore ∨ a.rv = 1) ∧ a.dataWritten = some o.data.length ∧ a.path ≠ none := by
    obtain ⟨rfl, -⟩ := logged_writevStream ha
    rcases roomy_answer st.conn.1 o with ⟨-, heq⟩ | ⟨-, hrv, hall, hpath, -⟩
    · exact .inl (by rw [heq])
    · exact .inr ⟨hrv, hall, hpath⟩
  have haccept {data : Bytes} {fin : Bool} {a : WriteAnswer} {conn : List StreamId × List Call}
      {w : Written} (hl : st.pending.entries.lookup id = some (data, fin))
      (ha : roomy.logged.writevStream st.conn ⟨id, data, fin, !isLast⟩ = (a, conn))
      (hw : writeStreamResult id a = .ok w) :
      (({ st with conn := conn } : Pass _).accept id data fin w).pending.view id = ([], false) := by
    obtain ⟨hdw, -, hok⟩ := writeStreamResult_ok hw
    have hall : w.dataWritten = some data.length := by
      rcases hanswer ha with hrv | ⟨-, hall, -⟩
      · rw [hrv] at hok
        rcases hok with ⟨hc, -⟩ | ⟨hc, -⟩ <;> exact absurd hc (by decide)
      · exact hdw.trans hall
    simp [Pass.accept, PendingStreams.view_consume, st.pending.view_of_lookup id hl, hall]
  cases hv with
  | absent h => exact ⟨rfl, by simp [PendingStreams.view, h]⟩
  | nothing h => exact ⟨rfl, by simp [PendingStreams.view_remove]⟩
  | wrote h _ ha hw _ => exact ⟨rfl, haccept h ha hw⟩
  | completed h _ ha hw _ _ => exact ⟨rfl, haccept h ha hw⟩
  | pathless h _ ha hw hz hpath =>
    obtain ⟨-, -, hok⟩ := writeStreamResult_ok hw
    rcases hok with ⟨-, hc⟩ | ⟨hrv, hc, hpath'⟩
    · omega
    · rcases hanswer ha with hshut | ⟨-, -, hne⟩
      · rw [hshut] at hrv
        exact absurd hrv (by decide)
      · exact absurd ((hpath' hz).symm.trans hpath) hne
  | blocked _ _ ha hw =>
    rcases writeStreamResult_error hw with ⟨-, hrv⟩ | ⟨he, -⟩ | ⟨he, -⟩
    · rcases hanswer ha with hc | ⟨hc | hc, -⟩ <;> rw [hrv] at hc <;> exact absurd hc (by decide)
    · cases he
    · cases he
  | shut _ _ _ _ => exact ⟨rfl, by simp [PendingStreams.view_remove]⟩
  | failed _ _ ha hw _ hs =>
    rcases writeStreamResult_error hw with ⟨-, hrv⟩ | ⟨he, -⟩ | ⟨-, hneg, hmore, -, hshut⟩
    · rcases hanswer ha with hc | ⟨hc | hc, -⟩ <;> rw [hrv] at hc <;> exact absurd hc (by decide)
    · exact absurd he (hs _)
    · rcases hanswer ha with hc | ⟨hc | hc, -⟩
      · exact absurd hc hshut
      · exact absurd hc hmore
      · omega

theorem roomy_pass : ∀ (ids : List StreamId) (st : Pass (List StreamId × List Call)),
    ∀ i ∈ ids, (pass roomy.logged ids st).1.pending.view i = ([], false)
  | [], _ => by simp
  | id :: ids, st => by
    rcases pass_cons roomy.logged id ids st with ⟨st', hv, heq⟩ | ⟨st', stop, hstop, hv, -⟩
    · intro i hi
      rw [heq]
      by_cases hmem : i ∈ ids
      · exact roomy_pass ids st' i hmem
      · obtain rfl : i = id := (List.mem_cons.mp hi).resolve_right hmem
        rw [pass_view_ne roomy.logged ids st' hmem]
        exact (roomy_visit (Visit.of_eq hv)).2
    · exact absurd (roomy_visit (Visit.of_eq hv)).1 hstop

/-- Nothing is pending. -/
def PendingStreams.Drained (p : PendingStreams) : Prop := ∀ id, p.view id = ([], false)

theorem drained_writePacketsFrom (fuel : ℕ) (conn : List StreamId × List Call) {p : PendingStreams}
    (packets : List OutgoingPacket) (hp : p.Drained) :
    (writePacketsFrom roomy.logged fuel conn p packets).pending.Drained := by
  refine writePacketsFrom_invariant roomy.logged (P := fun _ p => p.Drained)
    (fun {isLast id st st' stop} hv h i => ?_) (fun _ _ h => h) fuel conn p packets hp
  by_cases hi : i = id
  · rw [hi]
    exact (roomy_visit hv).2
  · rw [hv.view_ne hi]
    exact h i

/-- **One call of `write_packets` drains the queue.** -/
theorem roomy_drains (fuel : ℕ) (conn : List StreamId) (p : PendingStreams) :
    (writePackets roomy.logged (fuel + 1) (conn, []) p).pending.Drained := by
  have hview := roomy_pass p.orderedIds ⟨(conn, []), p, [], false, false⟩
  have hdrained : (pass roomy.logged p.orderedIds
      ⟨(conn, []), p, [], false, false⟩).1.pending.Drained := by
    intro i
    by_cases hi : i ∈ p.orderedIds
    · exact hview i hi
    · rw [pass_view_ne roomy.logged _ _ hi]
      by_contra hw
      exact hi (PendingStreams.Waiting.mem hw)
  rw [writePackets, writePacketsFrom_succ]
  have hround := iteration_spec roomy.logged fuel (conn, []) p []
  generalize iteration roomy.logged fuel (conn, []) p [] = r at *
  cases hround with
  | failed hp | running hp _ _ | controlFailed hp _ _ | last hp _ _ _ =>
    rw [hp] at hdrained
    exact hdrained
  | again hp hc hprog =>
    rw [hp] at hdrained
    exact drained_writePacketsFrom _ _ _ hdrained

/-- Write and flush, one after the other. -/
def eagerOps (ws : List StreamWrite) : List SendOp :=
  ws.flatMap fun w => [.push w.streamId w.data w.fin, .write 2]

theorem writesOf_eagerOps (ws : List StreamWrite) : writesOf (eagerOps ws) = ws := by
  induction ws with
  | nil => rfl
  | cons w ws ih => exact congrArg (w :: ·) ih

theorem eagerOps_append (ws ws' : List StreamWrite) :
    eagerOps (ws ++ ws') = eagerOps ws ++ eagerOps ws' := List.flatMap_append

theorem drained_eager : ∀ (ws : List StreamWrite) (s : Sender (List StreamId)), s.pending.Drained →
    (run (Sender.step roomy) s (eagerOps ws)).pending.Drained
  | [], _, h => h
  | w :: ws, s, _ => drained_eager ws _ (roomy_drains 1 s.conn (s.pending.push w.streamId w.data w.fin))

/-- A flush after every write is a way to write `ws`. -/
def eagerWay (ws : List StreamWrite) : Way ws where
  σ := List StreamId
  ng := roomy
  conn := []
  ops := eagerOps ws
  writes := writesOf_eagerOps ws
  removes id := by simp [eagerOps]
  lawful := roomy_lawful
  shuts := (roomyTrace_run (eagerOps ws)).shuts
  drained id h := h (drained_eager ws _ (fun _ => rfl) id)

end Roomy

/-! ## Independence -/

/-- Once the FIN is there, what was received stays as it is. -/
theorem contentOf_frozen {id : StreamId} {tr : List Event}
    (hfin : (contentOf id tr).finAt.isSome = true) : ∀ (tr' : List Event), FairTrace (tr ++ tr') →
    contentOf id (tr ++ tr') = contentOf id tr := by
  intro tr'
  induction tr' using List.reverseRecOn with
  | nil => exact fun _ => congrArg (contentOf id) (List.append_nil tr)
  | append_singleton tr' e ih =>
    intro hfair
    rw [← List.append_assoc] at hfair ⊢
    have hrest := ih hfair.init
    rw [contentOf_concat, hrest]
    cases e with
    | push | remove => rfl
    | call c =>
      cases c with
      | pkt a => rfl
      | stream o a =>
        by_cases hid : o.streamId = id
        · refine content_shut (hfair.fits o a (by simp)) ?_ _
          refine (hfair.shuts (tr ++ tr') o a List.prefix_rfl).mpr ?_
          rw [hid, hrest]
          exact hfin
        · exact if_neg hid

theorem trace_le_run {σ : Type} (ng : Ngtcp2 σ) : ∀ (ops : List SendOp) (s : Sender σ),
    s.trace <+: (run (Sender.step ng) s ops).trace
  | [], s => List.prefix_rfl
  | op :: ops, s => by
    have hstep : s.trace <+: (s.step ng op).trace := by
      cases op <;> exact List.prefix_append _ _
    exact hstep.trans (trace_le_run ng ops _)

/-- The first write behind a FIN. -/
theorem exists_behind_fin : ∀ (ws : List StreamWrite), ¬ NothingBehindFin ws →
    ∃ before w after, ws = before ++ w :: after ∧ NothingBehindFin before ∧
      finOn w.streamId before = true ∧ w.data ≠ [] := by
  intro ws
  induction ws using List.reverseRecOn with
  | nil => exact fun h => absurd List.Pairwise.nil h
  | append_singleton ws w ih =>
    intro h
    by_cases hws : NothingBehindFin ws
    · have hlast : ¬ ∀ w' ∈ ws, w'.streamId = w.streamId → w'.fin = true → w.data = [] := by
        intro hall
        refine h (List.pairwise_append.mpr ⟨hws, by simp, fun w' hw' w'' hw'' => ?_⟩)
        rw [List.mem_singleton.mp hw'']
        exact hall w' hw'
      push Not at hlast
      obtain ⟨w', hmem, hid, hfin, hdata⟩ := hlast
      exact ⟨ws, w, [], rfl, hws, List.any_eq_true.mpr ⟨w', hmem, by simp [hid, hfin]⟩, hdata⟩
    · obtain ⟨before, w', after, rfl, hrest⟩ := ih hws
      exact ⟨before, w', after ++ [w], by simp, hrest⟩

/-- With a flush after every write, what is written behind a FIN is lost. -/
theorem eagerWay_content {before after : List StreamWrite} {w : StreamWrite}
    (hbefore : NothingBehindFin before) (hfin : finOn w.streamId before = true) :
    ((eagerWay (before ++ w :: after)).content w.streamId).data = writtenTo w.streamId before := by
  have hcomplete := (eagerWay before).content_complete hbefore w.streamId
  rw [completeContent, hfin] at hcomplete
  have hpre : (eagerWay before).trace <+: (eagerWay (before ++ w :: after)).trace := by
    have hrun : (eagerWay (before ++ w :: after)).trace = (run (Sender.step roomy)
        (run (Sender.step roomy) { conn := [] } (eagerOps before)) (eagerOps (w :: after))).trace := by
      rw [← run_append, ← eagerOps_append]
      rfl
    rw [hrun]
    exact trace_le_run roomy _ _
  obtain ⟨tr', htr'⟩ := hpre
  have hfair := (eagerWay (before ++ w :: after)).fairTrace
  rw [← htr'] at hfair
  have hsome : (contentOf w.streamId (eagerWay before).trace).finAt.isSome = true := by
    rw [show contentOf w.streamId (eagerWay before).trace = _ from hcomplete]
    rfl
  have hfrozen := contentOf_frozen hsome tr' hfair
  rw [htr'] at hfrozen
  rw [show (eagerWay (before ++ w :: after)).content w.streamId = _ from hfrozen.trans hcomplete]

/-- **When flushes do not matter.** For every list of writes: every way to write them gives ngtcp2
the same streams, with nothing lost, if and only if nothing is written behind a FIN. -/
theorem flush_independent_iff (ws : List StreamWrite) :
    FlushIndependent ws ↔ NothingBehindFin ws := by
  constructor
  · intro h
    by_contra hws
    obtain ⟨before, w, after, rfl, hbefore, hfin, hdata⟩ := exists_behind_fin ws hws
    have hkept := h.kept (eagerWay (before ++ w :: after)) w.streamId
    rw [eagerWay_content hbefore hfin, writtenTo_append] at hkept
    have hnil : writtenTo w.streamId (w :: after) = [] := List.self_eq_append_right.mp hkept
    simp only [writtenTo, List.flatMap_cons, List.append_eq_nil_iff, if_pos] at hnil
    exact hdata hnil.1
  · intro hws
    refine ⟨fun w₁ w₂ id => ?_, fun w id => ?_⟩
    · rw [w₁.content_complete hws, w₂.content_complete hws]
    · rw [w.content_complete hws]
      rfl

/-- One flush behind all writes. -/
def lazyOps (ws : List StreamWrite) : List SendOp :=
  (ws.map fun w => .push w.streamId w.data w.fin) ++ [.write 2]

/-- One flush behind all writes is a way to write `ws`. -/
def lazyWay (ws : List StreamWrite) : Way ws where
  σ := List StreamId
  ng := roomy
  conn := []
  ops := lazyOps ws
  writes := by
    have hpushes : writesOf (ws.map fun w => .push w.streamId w.data w.fin) = ws := by
      induction ws with
      | nil => rfl
      | cons w ws ih => exact congrArg (w :: ·) ih
    have happend : writesOf (lazyOps ws) = writesOf (ws.map _) ++ writesOf [.write 2] :=
      List.filterMap_append
    rw [happend, hpushes]
    exact List.append_nil ws
  removes id := by simp [lazyOps]
  lawful := roomy_lawful
  shuts := (roomyTrace_run (lazyOps ws)).shuts
  drained id h := by
    refine h ?_
    rw [lazyOps, run_append]
    exact roomy_drains 1 _ _ id

/-- A write behind a FIN. -/
def sampleLateWrite : List StreamWrite := [⟨0, [1], true⟩, ⟨0, [2], false⟩]

/-- **A write behind a FIN is lost or not.** Both writes return `Ok`. With one flush at the end
ngtcp2 gets both bytes and then the FIN; with a flush in between the second byte is dropped. -/
theorem late_write_lost :
    (lazyWay sampleLateWrite).content 0 = ⟨[1, 2], some 2⟩ ∧
    (eagerWay sampleLateWrite).content 0 = ⟨[1], some 1⟩ ∧
    (∀ id, ¬ (run (Sender.step roomy) { conn := [] } (eagerOps sampleLateWrite)).pending.Waiting id) ∧
    ¬ FlushIndependent sampleLateWrite := by
  have hlazy : (lazyWay sampleLateWrite).content 0 = ⟨[1, 2], some 2⟩ := by decide +kernel
  have heager : (eagerWay sampleLateWrite).content 0 = ⟨[1], some 1⟩ := by decide +kernel
  refine ⟨hlazy, heager, (eagerWay sampleLateWrite).drained, fun h => ?_⟩
  have hsame := h.same (lazyWay sampleLateWrite) (eagerWay sampleLateWrite) 0
  rw [hlazy, heager] at hsame
  cases hsame

end Ngtcp2Rs
