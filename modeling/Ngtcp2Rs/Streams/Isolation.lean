import Mathlib.Data.List.DropRight
import Ngtcp2Rs.Streams.Conservation
import Ngtcp2Rs.Streams.Exchange

/-!
# Error isolation of `write_packets`

A call of `write_packets` is `Isolated` when it hands over every packet ngtcp2 completed, leaves
no packet under construction, and lets no error of a single stream keep the other waiting streams
from being offered. The `return Err` inside its loop breaks all three, and since the offending entry
stays in the queue it breaks the third in the next calls too (`not_isolated_of_notFound`).

* `Harmless`: the sequences of answers that a call survives, given how many streams wait.
* `isolated_iff`: a run of pushes, removals and calls is isolated in all its calls exactly when the
  answers to each of them are harmless.
-/

namespace Ngtcp2Rs

open Lib

/-! ## What a call owes -/

/-- The packets handed to the caller are those ngtcp2 completed. -/
def HandedOver (log : List Call) : Except Error (List OutgoingPacket) → Prop
  | .ok packets => packets.map OutgoingPacket.wire = completedPackets log
  | .error _ => completedPackets log = []

/-- The call ends the packet under construction: it completes it, or there is none. An error does
neither. -/
def Call.Completes (c : Call) : Prop := 0 ≤ c.answer.rv

instance (c : Call) : Decidable c.Completes := by unfold Call.Completes; infer_instance

/-- Every `WRITE_MORE` is followed by a call that completes the packet. -/
def PacketsFinished (log : List Call) : Prop :=
  ∀ pre c post, log = pre ++ c :: post → c.IsMore → ∃ d ∈ post, d.Completes

/-- Unless the connection failed under an offer, every waiting stream was offered. -/
def AllOffered (p : PendingStreams) (log : List Call) : Prop :=
  (∀ o a, Call.stream o a ∈ log → ¬ (Call.stream o a).ConnError) →
    ∀ id, p.Waiting id → id ∈ offeredIds log

/-- The three parts of error isolation, for a call on the queue `p` with the exchange `log`. -/
structure Isolated (p : PendingStreams) (log : List Call)
    (result : Except Error (List OutgoingPacket)) : Prop where
  handedOver : HandedOver log result
  finished : PacketsFinished log
  allOffered : AllOffered p log

/-! ## What a call survives -/

/-- A call that ends behind these answers loses nothing: they completed no packet, and they leave
none under construction. -/
def Settled (as : List WriteAnswer) : Prop :=
  (∀ b ∈ as, b.rv ≤ 0) ∧ ∀ b ∈ as.rtakeWhile (·.rv < 0), b.rv ≠ errWriteMore

/-- The pass goes on to the next stream. -/
def WriteAnswer.GoesOn (a : WriteAnswer) : Prop :=
  a.rv = errWriteMore ∨ a.rv = errStreamShutWr ∨ a.rv = 0 ∨ (0 < a.rv ∧ a.path ≠ none)

instance (a : WriteAnswer) : Decidable a.GoesOn := by unfold WriteAnswer.GoesOn; infer_instance

/-- Of the answers to `n` waiting streams, `STREAM_NOT_FOUND` and `STREAM_DATA_BLOCKED` can only be
the last. -/
def StopsAtLast : ℕ → List WriteAnswer → Prop
  | n + 1, a :: as =>
    if a.GoesOn then StopsAtLast n as
    else a.rv = errStreamNotFound ∨ a.rv = errStreamDataBlocked → n = 0
  | _, _ => True

instance StopsAtLast.decidable : ∀ n as, Decidable (StopsAtLast n as)
  | 0, _ => isTrue (by unfold StopsAtLast; trivial)
  | _ + 1, [] => isTrue trivial
  | n + 1, a :: as =>
    have : Decidable (StopsAtLast n as) := StopsAtLast.decidable n as
    inferInstanceAs (Decidable (if a.GoesOn then StopsAtLast n as
      else a.rv = errStreamNotFound ∨ a.rv = errStreamDataBlocked → n = 0))

/-- The answers that do no harm to a call on the queue `p`. If the last one is not the `0` of a
`write_pkt` call that found nothing more to write, it is an error and the answers before it are
settled; and in the first pass only the highest waiting stream is missing or blocked. -/
structure Harmless (p : PendingStreams) (as : List WriteAnswer) : Prop where
  last : ∀ a ∈ as.getLast?, a.rv ≠ 0 → a.rv < 0 ∧ Settled as.dropLast
  firstPass : StopsAtLast p.waitingIds.length as

instance (as : List WriteAnswer) : Decidable (Settled as) := by unfold Settled; infer_instance

instance (p : PendingStreams) (as : List WriteAnswer) : Decidable (Harmless p as) :=
  decidable_of_iff ((∀ a ∈ as.getLast?, a.rv ≠ 0 → a.rv < 0 ∧ Settled as.dropLast) ∧
    StopsAtLast p.waitingIds.length as) ⟨fun h => ⟨h.1, h.2⟩, fun h => ⟨h.last, h.firstPass⟩⟩

/-! ## Lost packets -/

theorem Fatal.rv_ne_zero {c : Call} (h : c.Fatal) : c.answer.rv ≠ 0 := by
  rcases h with h | h | h
  · have := h.1
    omega
  · cases c with
    | stream o a =>
      have hrv : a.rv = errStreamNotFound := h
      rw [Call.answer, hrv]
      decide
    | pkt a => exact h.elim
  · have := h.1
    omega

/-- A fatal answer opens no packet. -/
theorem Fatal.not_more {c : Call} (h : c.Fatal) : ¬ c.IsMore := by
  intro hm
  cases c with
  | stream o a =>
    have hrv : a.rv = errWriteMore := hm
    rcases h with h | h | h
    · exact h.2.1 hm
    · rw [Call.NotFound, hrv] at h
      exact absurd h (by decide)
    · have hpos : 0 < a.rv := h.1
      rw [hrv] at hpos
      exact absurd hpos (by decide)
  | pkt a => exact hm

theorem completedPackets_eq_nil_iff {log : List Call} :
    completedPackets log = [] ↔ ∀ b ∈ log.map Call.answer, b.rv ≤ 0 := by
  rw [completedPackets, List.filterMap_eq_nil_iff, List.forall_mem_map]
  refine forall₂_congr fun c _ => ?_
  rw [WriteAnswer.packet]
  split_ifs with h
  · exact iff_of_false (by simp) (not_le.mpr h)
  · exact iff_of_true rfl (not_lt.mp h)

/-! ## The packet under construction -/

/-- No `WRITE_MORE` among the errors at the end: each has a later answer that is none. -/
theorem rtakeWhile_ne_more_iff (as : List WriteAnswer) :
    (∀ b ∈ as.rtakeWhile (·.rv < 0), b.rv ≠ errWriteMore) ↔
      ∀ pre m post, as = pre ++ m :: post → m.rv = errWriteMore → ∃ d ∈ post, 0 ≤ d.rv := by
  constructor
  · rintro h pre m post rfl hm
    by_contra hneg
    push Not at hneg
    -- the errors at the end reach back to `m`, which is an error itself
    refine h m ?_ hm
    rw [List.rtakeWhile, List.mem_reverse, List.reverse_append, List.takeWhile_append_of_pos]
    · simp
    · intro b hb
      rcases List.mem_cons.mp (List.mem_reverse.mp hb) with rfl | hb
      · rw [hm]; decide
      · exact decide_eq_true (hneg b hb)
  · intro h b hb hm
    obtain ⟨s, t, hst⟩ := List.append_of_mem hb
    obtain ⟨init, hinit⟩ := List.rtakeWhile_suffix (·.rv < 0) as
    obtain ⟨d, hd, hrv⟩ := h (init ++ s) b t (by rw [← hinit, hst, List.append_assoc]) hm
    have hneg := List.mem_rtakeWhile_imp (show d ∈ as.rtakeWhile (·.rv < 0) by rw [hst]; simp [hd])
    exact absurd hrv (not_le.mpr (of_decide_eq_true hneg))

theorem finished_concat_pkt {init : List Call} {a : WriteAnswer} (ha : 0 ≤ a.rv) :
    PacketsFinished (init ++ [.pkt a]) := by
  intro pre c post heq hm
  rcases split_concat heq with ⟨-, rfl, -⟩ | ⟨post', rfl, -⟩
  · exact hm.elim
  · exact ⟨.pkt a, by simp, ha⟩

/-- Behind an error nothing is completed, so what was open before it stays open. -/
theorem finished_concat_iff {init : List Call} {c : Call} (hf : c.Fatal) (hneg : c.answer.rv < 0)
    (hinit : ∀ d ∈ init, ¬ d.Fatal) :
    PacketsFinished (init ++ [c]) ↔
      ∀ b ∈ (init.map Call.answer).rtakeWhile (·.rv < 0), b.rv ≠ errWriteMore := by
  rw [rtakeWhile_ne_more_iff]
  constructor
  · intro h pre m post heq hm
    obtain ⟨pre, rest, rfl, rfl, hrest⟩ := List.map_eq_append_iff.mp heq
    obtain ⟨d, post, rfl, rfl, rfl⟩ := List.map_eq_cons_iff.mp hrest
    have hmore : d.IsMore := by
      cases d with
      | stream o a => exact hm
      | pkt a =>
        -- an error of `write_pkt` is fatal, and comes last
        refine absurd (Or.inl ⟨?_, fun h => h, ?_⟩) (hinit (.pkt a) (by simp))
        · rw [hm]; decide
        · rintro (h | h | h) <;> exact h
    obtain ⟨e, he, hc⟩ := h pre d (post ++ [c]) (by simp) hmore
    rcases List.mem_append.mp he with he | he
    · exact ⟨e.answer, List.mem_map_of_mem he, hc⟩
    · rw [List.mem_singleton.mp he] at hc
      exact absurd hc (not_le.mpr hneg)
  · intro h pre d post heq hm
    rcases split_concat heq with ⟨-, rfl, -⟩ | ⟨post, rfl, rfl⟩
    · exact absurd hm (Fatal.not_more hf)
    · have hrv : d.answer.rv = errWriteMore := by
        cases d with
        | stream o a => exact hm
        | pkt a => exact hm.elim
      obtain ⟨b, hb, hle⟩ := h (pre.map Call.answer) d.answer (post.map Call.answer) (by simp) hrv
      obtain ⟨e', he', rfl⟩ := List.mem_map.mp hb
      exact ⟨e', by simp [he'], hle⟩

/-! ## The first pass -/

theorem goesOn_iff (o : StreamOffer) (a : WriteAnswer) :
    a.GoesOn ↔ ¬ (Call.stream o a).Stops := by
  simp only [WriteAnswer.GoesOn, Call.Stops, Call.Fatal, Call.ConnError, Call.StreamError,
    Call.Blocked, Call.NotFound, Call.ShutWr, Call.IsMore, Call.Pathless, Call.answer, errWriteMore,
    errStreamShutWr, errStreamNotFound, errStreamDataBlocked]
  by_cases hp : a.path = none
  · simp only [hp, ne_eq, not_true_eq_false, and_false, or_false, and_true]
    omega
  · simp only [hp, ne_eq, not_false_eq_true, and_false, or_false, and_true]
    omega

theorem stopsAtLast_append : ∀ (init : List WriteAnswer) (n : ℕ) (as : List WriteAnswer),
    (∀ b ∈ init, b.GoesOn) → (StopsAtLast (init.length + n) (init ++ as) ↔ StopsAtLast n as)
  | [], n, as, _ => by rw [List.length_nil, Nat.zero_add, List.nil_append]
  | b :: init, n, as, h => by
    have hb : b.GoesOn := h b List.mem_cons_self
    rw [List.length_cons, Nat.add_right_comm, List.cons_append, StopsAtLast, if_pos hb]
    exact stopsAtLast_append init n as fun b' hb' => h b' (List.mem_cons_of_mem _ hb')

/-- Calls to streams only are as many as the streams they name. -/
theorem length_offeredIds : ∀ {calls : List Call}, (∀ c ∈ calls, ∃ o a, c = .stream o a) →
    (offeredIds calls).length = calls.length
  | [], _ => rfl
  | c :: calls, h => by
    obtain ⟨o, a, rfl⟩ := h c List.mem_cons_self
    rw [offeredIds_stream, List.length_cons, List.length_cons,
      length_offeredIds fun c hc => h c (List.mem_cons_of_mem _ hc)]

theorem goesOn_of_not_stops {calls : List Call} (hs : ∀ c ∈ calls, ∃ o a, c = .stream o a)
    (h : ∀ c ∈ calls, ¬ c.Stops) : ∀ b ∈ calls.map Call.answer, b.GoesOn := by
  intro b hb
  obtain ⟨c, hc, rfl⟩ := List.mem_map.mp hb
  obtain ⟨o, a, rfl⟩ := hs c hc
  exact (goesOn_iff o a).mpr (h _ hc)

/-- A pass that ended with the call `c` left out as many waiting streams as it has not counted. -/
theorem PassLog.left_out {p : PendingStreams} {init : List Call} {c : Call} {stop : PassEnd}
    (h : PassLog p.orderedIds p (init ++ [c]) stop) :
    ∃ n, p.waitingIds.length = (init.map Call.answer).length + (n + 1) ∧
      ((∀ id, p.Waiting id → id ∈ offeredIds (init ++ [c])) ↔ n = 0) := by
  obtain ⟨more, hmore⟩ := h.order
  have hwait : p.waitingIds = offeredIds (init ++ [c]) ++ more := hmore.symm
  refine ⟨more.length, ?_, ?_⟩
  · rw [hwait, List.length_append, length_offeredIds h.stream, List.length_append, List.length_map,
      List.length_singleton]
    omega
  · have hnodup : p.waitingIds.Nodup := p.order.nodup.filter _
    rw [hwait] at hnodup
    rw [List.length_eq_zero_iff]
    constructor
    · intro hall
      refine List.eq_nil_iff_forall_not_mem.mpr fun id hid => ?_
      have hw : p.Waiting id := (p.mem_waitingIds id).mp (by rw [hwait]; simp [hid])
      exact (List.nodup_append.mp hnodup).2.2 id (hall id hw) id hid rfl
    · rintro rfl id hw
      rw [List.append_nil] at hwait
      exact hwait ▸ (p.mem_waitingIds id).mpr hw

/-- **All waiting streams are offered** exactly when only the last of them is missing or blocked,
unless a packet has no path. -/
theorem FirstPass.allOffered_iff {p : PendingStreams} {log : List Call} (h : FirstPass p log)
    (hpath : ∀ c ∈ log, ¬ c.Pathless) :
    AllOffered p log ↔ StopsAtLast p.waitingIds.length (log.map Call.answer) := by
  obtain ⟨first, rest, stop, rfl, hpass, hpkt⟩ := h
  rw [List.map_append]
  rcases hpass.covers with ⟨-, hgo, hall⟩ | ⟨init, o, a, rfl, hgo, hne, hf, hb⟩
  · -- the pass went to its end: every waiting stream was offered
    have hn : p.waitingIds.length = (first.map Call.answer).length + 0 := by
      rw [List.length_map, ← length_offeredIds hpass.stream, hall]
      rfl
    refine iff_of_true (fun _ id hw => ?_) ?_
    · rw [offeredIds_append, hall, List.mem_append]
      exact Or.inl ((p.mem_waitingIds id).mpr hw)
    · rw [hn, stopsAtLast_append _ _ _ (goesOn_of_not_stops hpass.stream hgo)]
      unfold StopsAtLast
      trivial
  -- the pass was stopped: the streams behind the last offer are not offered
  obtain ⟨n, hn, hall⟩ := hpass.left_out
  have hstop : (Call.stream o a).Stops := by
    cases stop with
    | done => exact absurd rfl hne
    | blocked => exact Or.inr (hb.mpr rfl)
    | failed e => exact Or.inl (hf.mpr ⟨e, rfl⟩)
  have hsplit : (init ++ [Call.stream o a]).map Call.answer ++ rest.map Call.answer =
      init.map Call.answer ++ a :: rest.map Call.answer := by simp [Call.answer]
  rw [hsplit, hn, stopsAtLast_append _ _ _ (goesOn_of_not_stops
    (fun c hc => hpass.stream c (List.mem_append_left _ hc)) hgo), StopsAtLast,
    if_neg fun h => (goesOn_iff o a).mp h hstop]
  have hrest : offeredIds rest = [] := by
    refine List.filterMap_eq_nil_iff.mpr fun c hc => ?_
    obtain ⟨a', rfl⟩ := hpkt hne c hc
    rfl
  have hconn : (∀ o' a', Call.stream o' a' ∈ init ++ [.stream o a] ++ rest →
      ¬ (Call.stream o' a').ConnError) ↔ ¬ (Call.stream o a).ConnError := by
    refine ⟨fun h => h o a (by simp), fun h o' a' hmem => ?_⟩
    rcases List.mem_append.mp hmem with hmem | hmem
    · rcases List.mem_append.mp hmem with hmem | hmem
      · exact fun hc => hgo _ hmem (Or.inl (Or.inl hc))
      · rwa [List.mem_singleton.mp hmem]
    · obtain ⟨a'', hc⟩ := hpkt hne _ hmem
      cases hc
  rw [AllOffered, hconn, offeredIds_append, hrest, List.append_nil, hall]
  refine imp_congr_left ⟨fun h => ?_, ?_⟩
  · rcases hstop with (hf | hf | hf) | hb
    · exact absurd hf h
    · exact Or.inl hf
    · exact absurd hf (hpath _ (by simp))
    · exact Or.inr hb
  · rintro (h | h) hc
    · exact hc.2.2 (Or.inr (Or.inl h))
    · exact hc.2.2 (Or.inl h)

/-! ## When a call is isolated -/

section Isolated

variable {p : PendingStreams} {log : List Call} {result : Except Error (List OutgoingPacket)}

/-- **Nothing is lost** exactly when a last answer other than `0` is an error behind settled
answers. -/
theorem handedOver_and_finished_iff (hans : Answered log [] (some result)) :
    HandedOver log result ∧ PacketsFinished log ↔
      ∀ a ∈ (log.map Call.answer).getLast?, a.rv ≠ 0 →
        a.rv < 0 ∧ Settled (log.map Call.answer).dropLast := by
  cases result with
  | ok packets =>
    obtain ⟨hps, -, init, a, rfl, hrv⟩ := hans
    refine iff_of_true ⟨hps, finished_concat_pkt hrv.ge⟩ fun b hb hne => absurd ?_ hne
    rw [List.map_append, List.map_singleton, List.getLast?_concat, Option.mem_some_iff] at hb
    rw [← hb]
    exact hrv
  | error e =>
    obtain ⟨init, c, rfl, hf, hinit⟩ := hans
    rw [List.map_append, List.map_singleton, List.getLast?_concat, List.dropLast_concat, HandedOver,
      completedPackets_eq_nil_iff, List.map_append, List.map_singleton, List.forall_mem_append,
      List.forall_mem_singleton]
    simp only [Option.mem_some_iff, forall_eq']
    constructor
    · rintro ⟨⟨hpos, hle⟩, hfin⟩ hne
      have hneg : c.answer.rv < 0 := lt_of_le_of_ne hle hne
      exact ⟨hneg, hpos, (finished_concat_iff hf hneg hinit).mp hfin⟩
    · intro h
      obtain ⟨hneg, hpos, hopen⟩ := h (Fatal.rv_ne_zero hf)
      exact ⟨⟨hpos, hneg.le⟩, (finished_concat_iff hf hneg hinit).mpr hopen⟩

theorem not_pathless_of_handedOver (hans : Answered log [] (some result))
    (h : HandedOver log result) : ∀ c ∈ log, ¬ c.Pathless := by
  intro c hc hp
  cases result with
  | ok packets => exact hans.2.1 c hc (Or.inr (Or.inr hp))
  | error e =>
    have hle := completedPackets_eq_nil_iff.mp h c.answer (List.mem_map_of_mem hc)
    exact absurd hp.1 (not_lt.mpr hle)

/-- One call is isolated exactly when its answers are harmless. -/
theorem isolated_iff_harmless (hans : Answered log [] (some result)) (hfp : FirstPass p log) :
    Isolated p log result ↔ Harmless p (log.map Call.answer) := by
  constructor
  · rintro ⟨hhand, hfin, hall⟩
    have hpath := not_pathless_of_handedOver hans hhand
    exact ⟨(handedOver_and_finished_iff hans).mp ⟨hhand, hfin⟩, (hfp.allOffered_iff hpath).mp hall⟩
  · rintro ⟨hlast, hfirst⟩
    obtain ⟨hhand, hfin⟩ := (handedOver_and_finished_iff hans).mpr hlast
    have hpath := not_pathless_of_handedOver hans hhand
    exact ⟨hhand, hfin, (hfp.allOffered_iff hpath).mpr hfirst⟩

end Isolated

/-! ## Runs -/

section Runs

variable {σ : Type}

/-- If the operation is a call of `write_packets` that returns, the call is isolated. -/
def SendOp.Isolated (ng : Ngtcp2 σ) (s : Sender σ) : SendOp → Prop
  | .write fuel =>
    let r := writePackets ng.logged fuel (s.conn, []) s.pending
    ∀ result ∈ r.result, Ngtcp2Rs.Isolated s.pending r.conn.2 result
  | _ => True

/-- If the operation is a call of `write_packets` that returns, ngtcp2's answers to it do no harm to
the queue it finds. -/
def SendOp.Harmless (ng : Ngtcp2 σ) (s : Sender σ) : SendOp → Prop
  | .write fuel =>
    let r := writePackets ng.logged fuel (s.conn, []) s.pending
    r.result.isSome → Ngtcp2Rs.Harmless s.pending (r.conn.2.map Call.answer)
  | _ => True

instance (ng : Ngtcp2 σ) (s : Sender σ) (op : SendOp) : Decidable (op.Harmless ng s) := by
  cases op <;> unfold SendOp.Harmless <;> infer_instance

theorem SendOp.isolated_iff_harmless (ng : Ngtcp2 σ) (s : Sender σ) (op : SendOp) :
    op.Isolated ng s ↔ op.Harmless ng s := by
  cases op with
  | push | remove => exact Iff.rfl
  | write fuel =>
    obtain ⟨calls, hlog, hans, hfp⟩ := @writePacketsFrom_log σ ng fuel (s.conn, []) s.pending []
    rw [← writePackets, List.nil_append] at hlog
    rw [← writePackets] at hans hfp
    simp only [SendOp.Isolated, SendOp.Harmless, hlog]
    cases hres : (writePackets ng.logged fuel (s.conn, []) s.pending).result with
    | none => simp
    | some result =>
      rw [hres] at hans
      have hiff := Ngtcp2Rs.isolated_iff_harmless hans (hfp (by simp [hres]))
      simpa using hiff

end Runs

/-- **When errors are isolated.** A sender pushes data, removes streams and calls `write_packets`, in
any order and under any answers of ngtcp2. All its calls that return are isolated exactly when the
answers that each of them was given do no harm to the queue it found: then no error of one stream
keeps the data of another from being offered, in the call where it occurs or in a later one. -/
theorem isolated_iff {σ : Type} (ng : Ngtcp2 σ) (ops : List SendOp) (s : Sender σ) :
    LegalRun (Sender.step ng) (SendOp.Isolated ng) s ops ↔
      LegalRun (Sender.step ng) (SendOp.Harmless ng) s ops :=
  legalRun_iff (fun s op => op.isolated_iff_harmless ng s) ops s

/-- An ngtcp2 that packs all streams but the last into one packet and finds stream 12 closed; the
state says whether a packet is under construction. -/
def closedTwelve : Ngtcp2 Bool where
  writevStream isOpen o :=
    if o.streamId = 12 then ({ rv := errStreamNotFound }, isOpen)
    else if o.more then ({ rv := errWriteMore, datalen := o.data.length }, true)
    else ({ rv := 3, datalen := o.data.length, buf := [64, 1, 2]
            path := some ⟨.v4 1 443, .v4 2 5000⟩ }, false)
  writePkt isOpen :=
    if isOpen then ({ rv := 2, buf := [64, 1], path := some ⟨.v4 1 443, .v4 2 5000⟩ }, false)
    else ({ rv := 0 }, false)

/-- Streams 0, 4 and 8 go into one packet; then stream 12 alone is missing, and nothing is lost. -/
theorem isolated_iff_sample :
    let ops : List SendOp := [.push 0 [1] false, .push 4 [2] true, .push 8 [3] false, .write 3,
      .push 12 [4] false, .write 3]
    LegalRun (Sender.step closedTwelve) (SendOp.Isolated closedTwelve) { conn := false } ops :=
  (isolated_iff closedTwelve _ _).mpr (by decide)

/-- An ngtcp2 whose packets are full after stream 0, and where stream 8 is closed. -/
def closedEight : Ngtcp2 Unit where
  writevStream _ o :=
    if o.streamId = 0 then
      ({ rv := 3, datalen := o.data.length, buf := [64, 1, 2]
         path := some ⟨.v4 1 443, .v4 2 5000⟩ }, ())
    else if o.streamId = 8 then ({ rv := errStreamNotFound }, ())
    else ({ rv := errWriteMore, datalen := o.data.length }, ())
  writePkt _ := ({ rv := 0 }, ())

/-- **One closed stream stops the others.** The packet of stream 0 is lost, the one that stream 4
went into stays open, and stream 12 is never offered, in this call or in the next. -/
theorem not_isolated_of_notFound :
    let ops : List SendOp := [.push 0 [1] false, .push 4 [2] false, .push 8 [3] false,
      .push 12 [4] false]
    let p := (run (Sender.step closedEight) { conn := () } ops).pending
    let e : Except Error (List OutgoingPacket) := .error (.ngtcp2 errStreamNotFound)
    let r := writePackets closedEight.logged 2 ((), []) p
    let r' := writePackets closedEight.logged 2 ((), []) r.pending
    r.result = some e ∧ ¬ HandedOver r.conn.2 e ∧ ¬ PacketsFinished r.conn.2 ∧ ¬ AllOffered p r.conn.2 ∧
      r'.result = some e ∧ ¬ AllOffered r.pending r'.conn.2 ∧
      ¬ LegalRun (Sender.step closedEight) (SendOp.Isolated closedEight) { conn := () }
        (ops ++ [.write 2, .write 2]) := by
  intro ops p e r r'
  have hhand : ¬ HandedOver r.conn.2 e := fun h =>
    absurd (show completedPackets r.conn.2 = [] from h) (by decide)
  have hfin : ¬ PacketsFinished r.conn.2 := by
    intro h
    obtain ⟨d, hd, hc⟩ := h (r.conn.2.take 1) (r.conn.2.get ⟨1, by decide⟩) (r.conn.2.drop 2) (by decide)
      (by decide)
    exact (by decide : ∀ d ∈ r.conn.2.drop 2, ¬ d.Completes) d hd hc
  have hall : ∀ q : PendingStreams, q.Waiting 12 → ∀ log, (∀ c ∈ log, ¬ Call.ConnError c) →
      12 ∉ offeredIds log → ¬ AllOffered q log :=
    fun q hw log hc hn h => hn (h (fun o a hmem => hc _ hmem) 12 hw)
  refine ⟨by decide, hhand, hfin, hall p (by decide) _ (by decide) (by decide), by decide,
    hall r.pending (by decide) _ (by decide) (by decide), fun h => ?_⟩
  exact hhand (h.2.2.2.2.1 e (by decide)).handedOver

end Ngtcp2Rs
