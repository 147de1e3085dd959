import Ngtcp2Rs.Lib.Run
import Ngtcp2Rs.Streams.WritePackets

/-!
# Conservation of stream data

A sender pushes data to streams, drops streams and calls `write_packets`, in any order. Its trace
records these operations together with every call ngtcp2 was given. A `Ledger` replays the trace
for one stream, from its last removal on: what was pushed, what ngtcp2 accepted, and whether a FIN
was reserved that ngtcp2 has not accepted.

* `Balanced`: the queue holds what was pushed and not accepted, and the FIN that is still due.
* `OffersExact`: every offer to ngtcp2 was exactly what the queue held at that moment.
* `sender_conserves`: both hold after every sequence of operations and answers.
-/

namespace Ngtcp2Rs

open Lib

/-- An event on the queue. -/
inductive Event where
  | push (id : StreamId) (data : Bytes) (fin : Bool)
  | remove (id : StreamId)
  | call (c : Call)
  deriving DecidableEq, Repr

/-! ## Ledgers -/

/-- One stream since its last removal. -/
structure Ledger where
  pushed : Bytes := []
  accepted : Bytes := []
  fin : Bool := false
  deriving DecidableEq, Repr

/-- ngtcp2 put the FIN of the offer on the wire. -/
def finAccepted (o : StreamOffer) (a : WriteAnswer) : Bool :=
  o.fin && a.dataWritten == some o.data.length

/-- One event in the books of stream `id`. `STREAM_SHUT_WR` drops the stream. -/
def Ledger.step (id : StreamId) (l : Ledger) : Event → Ledger
  | .push i data fin =>
    if i = id then { l with pushed := l.pushed ++ data, fin := l.fin || fin } else l
  | .remove i => if i = id then {} else l
  | .call (.stream o a) =>
    if o.streamId = id then
      if a.rv = errStreamShutWr then {}
      else
        { l with
          accepted := l.accepted ++ o.data.take (a.dataWritten.getD 0)
          fin := l.fin && !finAccepted o a }
    else l
  | .call (.pkt _) => l

/-- The books of stream `id` after the trace `tr`. -/
def ledger (id : StreamId) (tr : List Event) : Ledger := run (Ledger.step id) {} tr

theorem ledger_concat (id : StreamId) (tr : List Event) (e : Event) :
    ledger id (tr ++ [e]) = (ledger id tr).step id e := run_append _ _ tr [e]

/-- The queue holds what was pushed and not accepted, and the FIN still due. -/
def Balanced (tr : List Event) (p : PendingStreams) : Prop :=
  ∀ id, (ledger id tr).accepted ++ (p.view id).1 = (ledger id tr).pushed ∧
    (p.view id).2 = (ledger id tr).fin

/-- Each offer of the trace is all the data still pending, with the FIN exactly when it is due. -/
def OffersExact (tr : List Event) : Prop :=
  ∀ tr₀ o a, tr₀ ++ [.call (.stream o a)] <+: tr →
    (ledger o.streamId tr₀).accepted ++ o.data = (ledger o.streamId tr₀).pushed ∧
      o.fin = (ledger o.streamId tr₀).fin

/-- Once a FIN was accepted, the stream is offered with a FIN only if one is pushed again. -/
def FinOnce (tr : List Event) : Prop :=
  ∀ tr₀ o a tr₁ o' a', tr₀ ++ [.call (.stream o a)] ++ tr₁ ++ [.call (.stream o' a')] <+: tr →
    o.streamId = o'.streamId → finAccepted o a = true → o'.fin = true →
    ∃ data, Event.push o'.streamId data true ∈ tr₁

/-! ## The sender -/

/-- An operation of the sender. -/
inductive SendOp where
  | push (id : StreamId) (data : Bytes) (fin : Bool)
  | remove (id : StreamId)
  | write (fuel : ℕ)
  deriving DecidableEq, Repr

/-- A connection with its queue and the trace so far. -/
structure Sender (σ : Type) where
  conn : σ
  pending : PendingStreams := .new
  trace : List Event := []

variable {σ : Type}

/-- One operation. -/
def Sender.step (ng : Ngtcp2 σ) (s : Sender σ) : SendOp → Sender σ
  | .push id data fin =>
    { s with pending := s.pending.push id data fin, trace := s.trace ++ [.push id data fin] }
  | .remove id => { s with pending := s.pending.remove id, trace := s.trace ++ [.remove id] }
  | .write fuel =>
    let r := writePackets ng.logged fuel (s.conn, []) s.pending
    ⟨r.conn.1, r.pending, s.trace ++ r.conn.2.map .call⟩

/-! ## One event -/

theorem Balanced.push {tr : List Event} {p : PendingStreams} (h : Balanced tr p) (id : StreamId)
    (data : Bytes) (fin : Bool) : Balanced (tr ++ [.push id data fin]) (p.push id data fin) := by
  intro i
  rw [ledger_concat, PendingStreams.view_push]
  simp only [Ledger.step]
  by_cases hi : id = i
  · subst hi
    rw [if_pos rfl, if_pos rfl]
    refine ⟨?_, ?_⟩
    · rw [← List.append_assoc, (h id).1]
    · rw [(h id).2]
  · rw [if_neg hi, if_neg (Ne.symm hi)]
    exact h i

theorem Balanced.remove {tr : List Event} {p : PendingStreams} (h : Balanced tr p) (id : StreamId)
    {e : Event} (he : ∀ i l, Ledger.step i l e = if id = i then {} else l) :
    Balanced (tr ++ [e]) (p.remove id) := by
  intro i
  rw [ledger_concat, he, PendingStreams.view_remove]
  by_cases hi : id = i
  · subst hi
    rw [if_pos rfl, if_pos rfl]
    exact ⟨rfl, rfl⟩
  · rw [if_neg hi, if_neg (Ne.symm hi)]
    exact h i

/-- A call that changes neither the books nor the view. -/
theorem Balanced.frame {tr : List Event} {p p' : PendingStreams} (h : Balanced tr p) {e : Event}
    (he : ∀ id, (ledger id tr).step id e = ledger id tr) (hp : ∀ id, p'.view id = p.view id) :
    Balanced (tr ++ [e]) p' := by
  intro id
  rw [ledger_concat, he, hp]
  exact h id

theorem OffersExact.concat {tr : List Event} (h : OffersExact tr) {e : Event}
    (he : ∀ o a, e = .call (.stream o a) →
      (ledger o.streamId tr).accepted ++ o.data = (ledger o.streamId tr).pushed ∧
        o.fin = (ledger o.streamId tr).fin) :
    OffersExact (tr ++ [e]) := by
  intro tr₀ o a hpre
  rcases List.prefix_concat_iff.mp hpre with heq | hpre
  · obtain ⟨rfl, hlast⟩ := List.append_inj' heq rfl
    exact he o a (List.singleton_inj.mp hlast).symm
  · exact h tr₀ o a hpre

/-- Only a push with FIN makes a FIN due. -/
theorem Ledger.step_fin {id : StreamId} {l : Ledger} {e : Event} (hl : l.fin = false)
    (h : (l.step id e).fin = true) : ∃ data, e = .push id data true := by
  cases e with
  | push i data fin =>
    simp only [Ledger.step] at h
    split_ifs at h with hi
    · subst hi
      have hfin : fin = true := by simpa [hl] using h
      exact ⟨data, by rw [hfin]⟩
    · rw [hl] at h; cases h
  | remove i =>
    simp only [Ledger.step] at h
    split_ifs at h
    rw [hl] at h; cases h
  | call c =>
    cases c with
    | stream o a =>
      simp only [Ledger.step] at h
      split_ifs at h
      · simp [hl] at h
      · rw [hl] at h; cases h
    | pkt a => rw [Ledger.step, hl] at h; cases h

theorem run_fin {id : StreamId} : ∀ (tr : List Event) (l : Ledger), l.fin = false →
    (run (Ledger.step id) l tr).fin = true → ∃ data, Event.push id data true ∈ tr
  | [], l, hl, h => by rw [run_nil, hl] at h; cases h
  | e :: tr, l, hl, h => by
    by_cases hs : (l.step id e).fin = true
    · obtain ⟨data, rfl⟩ := Ledger.step_fin hl hs
      exact ⟨data, List.mem_cons_self⟩
    · obtain ⟨data, hd⟩ := run_fin tr _ (Bool.eq_false_iff.mpr hs) h
      exact ⟨data, List.mem_cons_of_mem _ hd⟩

theorem OffersExact.finOnce {tr : List Event} (h : OffersExact tr) : FinOnce tr := by
  intro tr₀ o a tr₁ o' a' hpre hid hacc hfin
  rw [(h _ _ _ hpre).2] at hfin
  refine run_fin tr₁ (ledger o'.streamId (tr₀ ++ [.call (.stream o a)])) ?_ ?_
  · rw [ledger_concat, Ledger.step, if_pos hid]
    split_ifs <;> simp [hacc]
  · rwa [ledger, run_append] at hfin

/-! ## One call of `write_packets` -/

section Write

variable {ng : Ngtcp2 σ}

/-- The two properties of a trace and the queue it leads to. -/
def Conserved (tr : List Event) (p : PendingStreams) : Prop := Balanced tr p ∧ OffersExact tr

/-- The log of `ng.logged` grew by the call just made. -/
theorem logged_writevStream {s s' : σ × List Call} {o : StreamOffer} {a : WriteAnswer}
    (h : ng.logged.writevStream s o = (a, s')) :
    (ng.writevStream s.1 o).1 = a ∧ s'.2 = s.2 ++ [.stream o a] := by
  cases h; exact ⟨rfl, rfl⟩

/-- The entry offered is what the queue holds, so the offer is exact. -/
theorem Conserved.offer {tr : List Event} {p : PendingStreams} (h : Conserved tr p)
    {id : StreamId} {data : Bytes} {fin : Bool} (hl : p.entries.lookup id = some (data, fin))
    (more : Bool) (a : WriteAnswer) : OffersExact (tr ++ [.call (.stream ⟨id, data, fin, more⟩ a)]) := by
  refine h.2.concat ?_
  rintro o a' ⟨⟩
  have hb := h.1 id
  rw [p.view_of_lookup id hl] at hb
  exact hb

/-- An offer of which `dataWritten` was accepted, and the queue after `accept`. -/
theorem Conserved.accept {tr : List Event} {st : Pass (σ × List Call)}
    (h : Conserved tr st.pending) {id : StreamId} {data : Bytes} {fin : Bool}
    (hl : st.pending.entries.lookup id = some (data, fin)) (more : Bool) {a : WriteAnswer}
    {w : Written} (hw : writeStreamResult id a = .ok w) :
    Conserved (tr ++ [.call (.stream ⟨id, data, fin, more⟩ a)])
      (st.accept id data fin w).pending := by
  refine ⟨?_, h.offer hl more a⟩
  obtain ⟨hdw, -, hrv⟩ := writeStreamResult_ok hw
  have hne : a.rv ≠ errStreamShutWr := by
    rcases hrv with ⟨hrv, -⟩ | ⟨hrv, -⟩
    · rw [hrv]; decide
    · intro hc; rw [hc] at hrv; exact absurd hrv (by decide)
  have hv := st.pending.view_of_lookup id hl
  intro i
  rw [ledger_concat]
  simp only [Pass.accept, PendingStreams.view_prune, PendingStreams.view_consume, Ledger.step]
  by_cases hi : id = i
  · subst hi
    obtain ⟨hb, hf⟩ := h.1 id
    rw [hv] at hb hf ⊢
    rw [if_pos rfl, if_pos rfl, if_neg hne, hdw]
    refine ⟨?_, ?_⟩
    · rw [List.append_assoc, List.take_append_drop]
      exact hb
    · simp only [finAccepted]
      rw [← hf]
  · rw [if_neg hi, if_neg (Ne.symm hi)]
    exact h.1 i

/-- An offer of which nothing was accepted. -/
theorem Conserved.refused {tr : List Event} {p : PendingStreams} (h : Conserved tr p)
    {id : StreamId} {data : Bytes} {fin : Bool} (hl : p.entries.lookup id = some (data, fin))
    (more : Bool) {a : WriteAnswer} (ha : a.dataWritten = none) (hrv : a.rv ≠ errStreamShutWr) :
    Conserved (tr ++ [.call (.stream ⟨id, data, fin, more⟩ a)]) p := by
  refine ⟨h.1.frame (fun i => ?_) fun _ => rfl, h.offer hl more a⟩
  simp [Ledger.step, finAccepted, ha, hrv]

theorem Conserved.visit (hng : ng.Lawful) (tr : List Event) {isLast : Bool} {id : StreamId}
    {st st' : Pass (σ × List Call)} {stop : PassEnd} (hv : Visit ng.logged isLast id st st' stop)
    (h : Conserved (tr ++ st.conn.2.map .call) st.pending) :
    Conserved (tr ++ st'.conn.2.map .call) st'.pending := by
  have hfit : ∀ {o : StreamOffer} {a : WriteAnswer} {conn : σ × List Call},
      ng.logged.writevStream st.conn o = (a, conn) →
      a.Fits o ∧ tr ++ conn.2.map .call = tr ++ st.conn.2.map .call ++ [.call (.stream o a)] := by
    intro o a conn ha
    obtain ⟨h₁, h₂⟩ := logged_writevStream ha
    exact ⟨h₁ ▸ hng st.conn.1 o, by rw [h₂]; simp⟩
  cases hv with
  | absent hl => exact h
  | nothing hl =>
    refine ⟨fun i => ?_, h.2⟩
    have hview : (st.pending.remove id).view i = st.pending.view i := by
      rw [PendingStreams.view_remove]
      split_ifs with hi
      · rw [hi, st.pending.view_of_lookup id hl]
      · rfl
    rw [hview]
    exact h.1 i
  | wrote hl hp ha hw hz =>
    simp only [Pass.accept, (hfit ha).2]
    exact h.accept hl _ hw
  | completed hl hp ha hw hz hpath =>
    simp only [Pass.accept, (hfit ha).2]
    exact h.accept hl _ hw
  | pathless hl hp ha hw hz hpath =>
    simp only [Pass.accept, (hfit ha).2]
    exact h.accept hl _ hw
  | blocked hl hp ha hw =>
    obtain ⟨hf, htr⟩ := hfit ha
    simp only [htr]
    refine h.refused hl _ (dataWritten_of_error hf hw) ?_
    rcases writeStreamResult_error hw with ⟨-, hrv⟩ | ⟨he, -⟩ | ⟨-, -, -, -, hrv⟩
    · rw [hrv]; decide
    · cases he
    · exact hrv
  | shut hl hp ha hw =>
    obtain ⟨hf, htr⟩ := hfit ha
    simp only [htr]
    refine ⟨h.1.remove id fun i l => ?_, h.offer hl _ _⟩
    rcases writeStreamResult_error hw with ⟨he, -⟩ | ⟨-, hrv⟩ | ⟨he, -⟩
    · cases he
    · simp only [Ledger.step, if_pos hrv]
    · cases he
  | failed hl hp ha hw hb hs =>
    obtain ⟨hf, htr⟩ := hfit ha
    simp only [htr]
    refine h.refused hl _ (dataWritten_of_error hf hw) ?_
    rcases writeStreamResult_error hw with ⟨he, -⟩ | ⟨he, -⟩ | ⟨-, -, -, -, hrv⟩
    · exact absurd he (hb id)
    · exact absurd he (hs id)
    · exact hrv

theorem Conserved.writePackets (hng : ng.Lawful) {tr : List Event} {p : PendingStreams}
    (h : Conserved tr p) (fuel : ℕ) (conn : σ) :
    Conserved (tr ++ (writePackets ng.logged fuel (conn, []) p).conn.2.map .call)
      (writePackets ng.logged fuel (conn, []) p).pending := by
  refine writePacketsFrom_invariant ng.logged
    (P := fun s p => Conserved (tr ++ s.2.map .call) p) ?_ ?_ fuel (conn, []) p [] ?_
  · exact fun hv hs => Conserved.visit hng tr hv hs
  · intro s p hs
    have htr : tr ++ (ng.logged.writePkt s).2.2.map Event.call =
        tr ++ s.2.map .call ++ [.call (.pkt (ng.writePkt s.1).1)] := by
      simp [Ngtcp2.logged]
    rw [htr]
    exact ⟨hs.1.frame (fun _ => rfl) fun _ => rfl, hs.2.concat (by simp)⟩
  · simpa using h

theorem Conserved.step (hng : ng.Lawful) (s : Sender σ) (op : SendOp)
    (h : Conserved s.trace s.pending) :
    Conserved (s.step ng op).trace (s.step ng op).pending := by
  cases op with
  | push id data fin => exact ⟨h.1.push id data fin, h.2.concat (by simp)⟩
  | remove id => exact ⟨h.1.remove id fun _ _ => rfl, h.2.concat (by simp)⟩
  | write fuel => exact h.writePackets hng fuel s.conn

end Write

/-! ## Whole runs -/

/-- **Nothing is lost, duplicated or reordered.** After every sequence of pushes, removals and
`write_packets` calls, under any answers of ngtcp2, each stream's accepted bytes followed by its
queued bytes are the bytes pushed since its last removal, its FIN is reserved exactly while
ngtcp2 has not accepted it, every offer was all the pending data with the FIN exactly when it was
due, and an accepted FIN is not offered again. -/
theorem sender_conserves (ng : Ngtcp2 σ) (hng : ng.Lawful) (conn : σ) (ops : List SendOp) :
    Balanced (run (Sender.step ng) { conn } ops).trace (run (Sender.step ng) { conn } ops).pending ∧
      OffersExact (run (Sender.step ng) { conn } ops).trace ∧
      FinOnce (run (Sender.step ng) { conn } ops).trace := by
  have h₀ : Conserved ({ conn } : Sender σ).trace ({ conn } : Sender σ).pending := by
    refine ⟨fun id => ⟨rfl, rfl⟩, fun tr₀ o a hpre => ?_⟩
    exact absurd (List.prefix_nil.mp hpre) (by simp)
  have h : Conserved (run (Sender.step ng) { conn } ops).trace
      (run (Sender.step ng) { conn } ops).pending :=
    run_invariant (I := fun s => Conserved s.trace s.pending)
      (fun s op hs _ => hs.step hng s op) ops { conn } h₀ (legalRun_true ops _)
  exact ⟨h.1, h.2, h.2.finOnce⟩

/-- An ngtcp2 that takes two bytes at a time and has no control frames of its own. -/
def twoBytes : Ngtcp2 Unit where
  writevStream _ o :=
    ({ rv := if o.more then errWriteMore else 2, datalen := (min 2 o.data.length : ℕ)
       buf := o.data.take 2, path := some ⟨.v4 1 443, .v4 2 5000⟩ }, ())
  writePkt _ := ({ rv := 0 }, ())

theorem twoBytes_lawful : twoBytes.Lawful := by
  intro s o
  refine ⟨?_, ?_⟩
  · simp only [twoBytes]
    omega
  · simp only [twoBytes]
    split_ifs
    · exact fun _ h => absurd rfl h
    · exact fun h => absurd h (by decide)

/-- Two streams: the first is sent with its FIN, the second waits for the next call. -/
theorem sender_conserves_twoBytes :
    let ops := [.push 0 [1, 2, 3] true, .push 4 [7] false, .write 9, .push 4 [8] true]
    let s := run (Sender.step twoBytes) { conn := () } ops
    ledger 0 s.trace = ⟨[1, 2, 3], [1, 2, 3], false⟩ ∧ ledger 4 s.trace = ⟨[7, 8], [7], true⟩ ∧
      Balanced s.trace s.pending ∧ OffersExact s.trace ∧ FinOnce s.trace :=
  ⟨by decide, by decide, sender_conserves twoBytes twoBytes_lawful () _⟩

end Ngtcp2Rs
