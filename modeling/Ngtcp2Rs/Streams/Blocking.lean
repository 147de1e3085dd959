import Ngtcp2Rs.Streams.WritePackets

/-!
# Head-of-line blocking

An ngtcp2 with flow control: a credit for each stream, one for the connection, and a congestion
allowance (`Credit`). `Metered` says how it may answer an offer: `STREAM_DATA_BLOCKED` exactly when
the offer has data and no credit, nothing while the allowance is used up, and otherwise a STREAM
frame within the credits or a packet without stream data.

* `CreditsUsed`: when `write_packets` returns `Ok`, every stream it leaves waiting has no credit,
  or the connection has none, or the allowance is used up.
* `blocked_stream_starves`: this fails, since `write_packets` ends at the first blocked stream.
* `creditsUsed_iff`: the queues and credits for which it holds.
-/

namespace Ngtcp2Rs

open Lib

/-- The credits. -/
structure Credit where
  stream : StreamId → ℕ
  conn : ℕ
  cong : ℕ

/-- The offer has data, and flow control allows none. -/
def Credit.Blocks (f : Credit) (o : StreamOffer) : Prop :=
  o.data ≠ [] ∧ (f.stream o.streamId = 0 ∨ f.conn = 0)

/-- The stream cannot send data. -/
def Credit.Exhausted (f : Credit) (id : StreamId) : Prop :=
  f.stream id = 0 ∨ f.conn = 0 ∨ f.cong = 0

/-- The credits `f'` after `n` bytes of stream `id`; the allowance also pays for the rest of the
packet. -/
structure Credit.Spent (f : Credit) (id : StreamId) (n : ℕ) (f' : Credit) : Prop where
  stream : f'.stream id + n = f.stream id
  others : ∀ i, i ≠ id → f'.stream i = f.stream i
  conn : f'.conn + n = f.conn
  cong : f'.cong + n ≤ f.cong

/-- The answers to an offer under the credits `f`, and the credits after them. -/
inductive Metered (f : Credit) (o : StreamOffer) (a : WriteAnswer) (f' : Credit) : Prop where
  | blocked (hb : f.Blocks o) (hrv : a.rv = errStreamDataBlocked) (hs : f.Spent o.streamId 0 f')
  | limited (hb : ¬ f.Blocks o) (hc : f.cong = 0) (hrv : a.rv = 0) (hd : a.datalen = -1)
      (hs : f.Spent o.streamId 0 f')
  | frame (hb : ¬ f.Blocks o) (hc : 0 < f.cong) (n : ℕ) (hrv : a.rv = errWriteMore ∨ 0 ≤ a.rv)
      (hd : a.datalen = n) (hle : n ≤ o.data.length) (hpos : o.data ≠ [] → 0 < n)
      (hs : f.Spent o.streamId n f')
  | probe (hb : ¬ f.Blocks o) (hc : 0 < f.cong) (hrv : 0 < a.rv) (hd : a.datalen = -1)
      (hs : f.Spent o.streamId 0 f')
  | error (hb : ¬ f.Blocks o) (hrv : a.rv < 0) (hm : a.rv ≠ errWriteMore)
      (hn : a.rv ≠ errStreamDataBlocked) (hs : f.Spent o.streamId 0 f')

variable {σ : Type}

/-- The environment keeps the credits `flow`. Packets without stream data only use up the
congestion allowance. -/
structure Ngtcp2.Flows (ng : Ngtcp2 σ) (flow : σ → Credit) : Prop where
  stream : ∀ s o, Metered (flow s) o (ng.writevStream s o).1 (flow (ng.writevStream s o).2)
  pkt : ∀ s, (flow (ng.writePkt s).2).stream = (flow s).stream ∧
    (flow (ng.writePkt s).2).conn = (flow s).conn ∧ (flow (ng.writePkt s).2).cong ≤ (flow s).cong

/-- No stream that is left waiting could go on. -/
def CreditsUsed (flow : σ → Credit) (r : Flushed σ) : Prop :=
  (∃ packets, r.result = some (.ok packets)) →
    ∀ id, r.pending.Waiting id → (flow r.conn).Exhausted id

/-! ## Spending -/

theorem Credit.Spent.le_stream {f f' : Credit} {id : StreamId} {n : ℕ} (h : f.Spent id n f')
    (i : StreamId) : f'.stream i ≤ f.stream i := by
  by_cases hi : i = id
  · subst hi; have := h.stream; omega
  · exact le_of_eq (h.others i hi)

/-- What the credits `g` and the queue `q` still owe to `f` and `p` they started from. -/
structure Budget (p : PendingStreams) (f : Credit) (g : Credit) (q : PendingStreams) : Prop where
  stream : ∀ id, g.stream id ≤ f.stream id
  conn : ∀ id, g.conn + f.stream id ≤ f.conn + g.stream id
  cong : ∀ id, g.cong + f.stream id ≤ f.cong + g.stream id
  data : ∀ id, (q.view id).1.length + f.stream id ≤ (p.view id).1.length + g.stream id
  waiting : ∀ id, q.Waiting id → p.Waiting id

theorem Budget.refl (p : PendingStreams) (f : Credit) : Budget p f f p :=
  ⟨fun _ => le_rfl, fun _ => le_rfl, fun _ => le_rfl, fun _ => le_rfl, fun _ h => h⟩

/-- Control packets cost only congestion allowance. -/
theorem Budget.relax {p q : PendingStreams} {f g g' : Credit} (h : Budget p f g q)
    (h₁ : g'.stream = g.stream) (h₂ : g'.conn = g.conn) (h₃ : g'.cong ≤ g.cong) :
    Budget p f g' q := by
  refine ⟨fun id => ?_, fun id => ?_, fun id => ?_, fun id => ?_, h.waiting⟩
  · rw [h₁]
    exact h.stream id
  · rw [h₁, h₂]
    exact h.conn id
  · have := h.cong id
    rw [h₁]
    omega
  · rw [h₁]
    exact h.data id

/-- `n` bytes of stream `id` are spent, and at least as many leave the queue. -/
theorem Budget.spend {p q q' : PendingStreams} {f g g' : Credit} (h : Budget p f g q)
    {id : StreamId} {n : ℕ} (hs : g.Spent id n g')
    (hd : (q'.view id).1.length + n ≤ (q.view id).1.length) (hw : q'.Waiting id → q.Waiting id)
    (hq : ∀ i, i ≠ id → q'.view i = q.view i) : Budget p f g' q' := by
  have hconn := hs.conn
  have hcong := hs.cong
  have hstream := hs.stream
  refine ⟨fun i => (hs.le_stream i).trans (h.stream i), fun i => ?_, fun i => ?_, fun i => ?_,
    fun i hi => ?_⟩
  · have := h.conn i
    by_cases hi : i = id
    · subst hi; omega
    · rw [hs.others i hi]; omega
  · have := h.cong i
    by_cases hi : i = id
    · subst hi; omega
    · rw [hs.others i hi]; omega
  · have := h.data i
    by_cases hi : i = id
    · subst hi; omega
    · rw [hs.others i hi, hq i hi]; omega
  · refine h.waiting i ?_
    by_cases hid : i = id
    · subst hid; exact hw hi
    · rwa [PendingStreams.Waiting, ← hq i hid]

/-! ## One stream -/

section Metered

variable {f f' : Credit} {o : StreamOffer} {a : WriteAnswer}

theorem Metered.of_ok {w : Written} (h : Metered f o a f')
    (hw : writeStreamResult o.streamId a = .ok w) :
    f.Spent o.streamId (w.dataWritten.getD 0) f' ∧ w.dataWritten.getD 0 ≤ o.data.length ∧
      (w.written = 0 → f'.cong = 0 ∨ ∃ n, w.dataWritten = some n ∧ (o.data ≠ [] → 0 < n)) := by
  obtain ⟨hdw, -, hrv'⟩ := writeStreamResult_ok hw
  have hsome : ∀ n : ℕ, a.datalen = n → w.dataWritten = some n := by
    intro n hn
    rw [hdw, WriteAnswer.dataWritten, if_pos (by omega), hn, Int.toNat_natCast]
  have hnone : a.datalen = -1 → w.dataWritten = none := by
    intro hn
    rw [hdw, WriteAnswer.dataWritten, if_neg (by omega)]
  cases h with
  | blocked hb hrv hs =>
    rw [hrv] at hrv'
    exact absurd hrv' (by simp [errStreamDataBlocked, errWriteMore])
  | limited hb hc hrv hd hs =>
    have hcong := hs.cong
    rw [hnone hd]
    exact ⟨hs, Nat.zero_le _, fun _ => Or.inl (by omega)⟩
  | frame hb hc n hrv hd hle hpos hs =>
    rw [hsome n hd]
    exact ⟨hs, hle, fun _ => Or.inr ⟨n, rfl, hpos⟩⟩
  | probe hb hc hrv hd hs =>
    rw [hnone hd]
    refine ⟨hs, Nat.zero_le _, fun hz => ?_⟩
    rcases hrv' with ⟨hm, -⟩ | ⟨-, hm, -⟩
    · rw [hm] at hrv
      exact absurd hrv (by decide)
    · omega
  | error hb hrv hm hn hs =>
    rcases hrv' with ⟨hm', -⟩ | ⟨hm', -⟩
    · exact absurd hm' hm
    · omega

theorem Metered.of_error {e : Error} (h : Metered f o a f')
    (hw : writeStreamResult o.streamId a = .error e) :
    f.Spent o.streamId 0 f' ∧ (∀ s, e = .streamDataBlocked s → f.Blocks o) := by
  have hneg := writeStreamResult_neg hw
  cases h with
  | blocked hb hrv hs => exact ⟨hs, fun _ _ => hb⟩
  | limited hb hc hrv hd hs => omega
  | frame hb hc n hrv hd hle hpos hs =>
    rcases hrv with hrv | hrv
    · exact absurd hrv hneg.2
    · omega
  | probe hb hc hrv hd hs => omega
  | error hb hrv hm hn hs =>
    refine ⟨hs, fun s he => ?_⟩
    subst he
    rcases writeStreamResult_error hw with ⟨-, h⟩ | ⟨h, -⟩ | ⟨h, -⟩
    · exact absurd h hn
    · cases h
    · cases h

end Metered

/-- What a visit does to the credits, the queue and the flags. -/
structure Paid (flow : σ → Credit) (id : StreamId) (st st' : Pass σ) (stop : PassEnd) : Prop where
  budget : ∀ {p f}, Budget p f (flow st.conn) st.pending → Budget p f (flow st'.conn) st'.pending
  cong : (flow st'.conn).cong ≤ (flow st.conn).cong
  blocked : stop = .blocked → ((flow st'.conn).stream id = 0 ∨ (flow st'.conn).conn = 0) ∧
    (st'.pending.view id).1 ≠ []
  flags : st'.wroteAny = false → st'.wrotePacket = false →
    st.wroteAny = false ∧ st.wrotePacket = false ∧
      (stop = .done → st'.pending.Waiting id → (flow st'.conn).cong = 0)

section Visit

variable {ng : Ngtcp2 σ} {flow : σ → Credit}

/-- A write that was no error. -/
theorem paid_accept (hng : ng.Flows flow) {isLast : Bool} {id : StreamId} {st : Pass σ}
    {data : Bytes} {fin : Bool} {a : WriteAnswer} {conn : σ} {w : Written}
    (hl : st.pending.entries.lookup id = some (data, fin)) (hp : (data, fin) ≠ ([], false))
    (ha : ng.writevStream st.conn ⟨id, data, fin, !isLast⟩ = (a, conn))
    (hw : writeStreamResult id a = .ok w) (packets : List OutgoingPacket) {wrotePacket : Bool}
    (hwp : wrotePacket = false → st.wrotePacket = false) {stop : PassEnd}
    (hz : stop = .done → wrotePacket = false → w.written = 0) (hstop : stop ≠ .blocked) :
    Paid flow id st { { st with conn := conn }.accept id data fin w with
      packets := packets, wrotePacket := wrotePacket } stop := by
  have hm := hng.stream st.conn ⟨id, data, fin, !isLast⟩
  rw [ha] at hm
  obtain ⟨hs, hle, hprog⟩ := hm.of_ok hw
  have hview := st.pending.view_of_lookup id hl
  refine ⟨fun {p f} hb => hb.spend hs ?_ ?_ ?_, ?_, fun hc => absurd hc hstop, fun h₁ h₂ => ?_⟩
  · simp only [Pass.accept, PendingStreams.view_prune, PendingStreams.view_consume, if_pos, hview,
      List.length_drop]
    simp only at hle
    omega
  · intro _
    rwa [PendingStreams.Waiting, hview]
  · intro i hi
    simp only [Pass.accept, PendingStreams.view_prune, PendingStreams.view_consume, if_neg hi]
  · exact le_trans (Nat.le_add_right _ _) hs.cong
  · simp only [Pass.accept, Bool.or_eq_false_iff, decide_eq_false_iff_not] at h₁
    obtain ⟨h₁, hnc, hnf⟩ := h₁
    refine ⟨h₁, hwp h₂, fun hd _ => (hprog (hz hd h₂)).resolve_right ?_⟩
    rintro ⟨n, hn, hpos⟩
    rw [hn] at hnc hnf
    simp only [Option.getD_some] at hnc
    have hdata : data = [] := by
      by_contra hc
      exact hnc (hpos hc)
    have hfin : fin = true := by
      cases fin with
      | true => rfl
      | false => exact absurd (by rw [hdata]) hp
    rw [hdata, hfin] at hnf
    simp at hnf
    omega

/-- A write that failed, with nothing added to the queue. -/
theorem paid_refuse {st st' : Pass σ} {id : StreamId} {stop : PassEnd}
    (hs : (flow st.conn).Spent id 0 (flow st'.conn))
    (hview : ∀ i, st'.pending.view i = st.pending.view i ∨ i = id ∧ st'.pending.view i = ([], false))
    (hany : st'.wroteAny = st.wroteAny) (hpkt : st'.wrotePacket = st.wrotePacket)
    (hb : stop = .blocked → ((flow st'.conn).stream id = 0 ∨ (flow st'.conn).conn = 0) ∧
      (st'.pending.view id).1 ≠ [])
    (hd : stop = .done → ¬ st'.pending.Waiting id) : Paid flow id st st' stop := by
  refine ⟨fun {p f} hbud => hbud.spend hs ?_ ?_ ?_, ?_, hb, fun h₁ h₂ => ?_⟩
  · rcases hview id with h | ⟨-, h⟩ <;> simp [h]
  · intro hw
    rcases hview id with h | ⟨-, h⟩
    · rwa [PendingStreams.Waiting, ← h]
    · exact absurd h hw
  · intro i hi
    exact (hview i).resolve_right fun h => hi h.1
  · have := hs.cong
    omega
  · exact ⟨hany ▸ h₁, hpkt ▸ h₂, fun h hw => absurd hw (hd h)⟩

theorem Credit.Spent.refl (f : Credit) (id : StreamId) : f.Spent id 0 f :=
  ⟨rfl, fun _ _ => rfl, rfl, le_rfl⟩

theorem Visit.paid (hng : ng.Flows flow) {isLast : Bool} {id : StreamId} {st st' : Pass σ}
    {stop : PassEnd} (hv : Visit ng isLast id st st' stop) : Paid flow id st st' stop := by
  have herr : ∀ {data fin a conn e}, ng.writevStream st.conn ⟨id, data, fin, !isLast⟩ = (a, conn) →
      writeStreamResult id a = .error e → (flow st.conn).Spent id 0 (flow conn) ∧
        (∀ s, e = .streamDataBlocked s →
          data ≠ [] ∧ ((flow st.conn).stream id = 0 ∨ (flow st.conn).conn = 0)) := by
    intro data fin a conn e ha hw
    have hm := hng.stream st.conn ⟨id, data, fin, !isLast⟩
    rw [ha] at hm
    exact hm.of_error hw
  cases hv with
  | absent h =>
    refine paid_refuse (Credit.Spent.refl _ _) (fun i => Or.inl rfl) rfl rfl (by simp) fun _ => ?_
    simp [PendingStreams.Waiting, PendingStreams.view, h]
  | nothing h =>
    refine paid_refuse (Credit.Spent.refl _ _) (fun i => ?_) rfl rfl (by simp) fun _ => ?_
    · by_cases hi : i = id <;> simp [PendingStreams.view_remove, hi]
    · simp [PendingStreams.Waiting, PendingStreams.view_remove]
  | wrote h hp ha hw hz =>
    exact paid_accept hng h hp ha hw st.packets (fun h => h) (fun _ _ => hz) (by simp)
  | completed h hp ha hw hz hpath =>
    exact paid_accept hng h hp ha hw _ (by simp) (by simp) (by simp)
  | pathless h hp ha hw hz hpath =>
    exact paid_accept hng h hp ha hw st.packets (fun h => h) (by simp) (by simp)
  | blocked h hp ha hw =>
    obtain ⟨hs, hb⟩ := herr ha hw
    obtain ⟨hd, hb⟩ := hb _ rfl
    have h₁ := hs.stream
    have h₂ := hs.conn
    refine paid_refuse hs (fun i => Or.inl rfl) rfl rfl (fun _ => ⟨by simp only; omega, ?_⟩) (by simp)
    rwa [st.pending.view_of_lookup id h]
  | shut h hp ha hw =>
    refine paid_refuse (herr ha hw).1 (fun i => ?_) rfl rfl (by simp) fun _ => ?_
    · by_cases hi : i = id <;> simp [PendingStreams.view_remove, hi]
    · simp [PendingStreams.Waiting, PendingStreams.view_remove]
  | failed h hp ha hw hb hs =>
    exact paid_refuse (herr ha hw).1 (fun i => Or.inl rfl) rfl rfl (by simp) (by simp)

end Visit

/-! ## One pass -/

section Pass

variable {ng : Ngtcp2 σ} {flow : σ → Credit}

theorem pass_cong (hng : ng.Flows flow) (ids : List StreamId) (st : Pass σ) :
    (flow (pass ng ids st).1.conn).cong ≤ (flow st.conn).cong :=
  pass_invariant ng (P := fun s _ => (flow s).cong ≤ (flow st.conn).cong)
    (fun hv h => le_trans (hv.paid hng).cong h) ids st le_rfl

theorem pass_blocked (hng : ng.Flows flow) : ∀ (ids : List StreamId) (st : Pass σ),
    (pass ng ids st).2 = .blocked → ∃ id, (((flow (pass ng ids st).1.conn).stream id = 0 ∨
      (flow (pass ng ids st).1.conn).conn = 0) ∧ ((pass ng ids st).1.pending.view id).1 ≠ [])
  | [], _, h => by cases h
  | id :: ids, st, h => by
    rcases pass_cons ng id ids st with ⟨st', -, heq⟩ | ⟨st', stop, -, hv, heq⟩
    · rw [heq] at h ⊢
      exact pass_blocked hng ids st' h
    · rw [heq] at h ⊢
      exact ⟨id, ((Visit.of_eq hv).paid hng).blocked h⟩

/-- A pass without progress: the streams it leaves waiting met a used-up allowance. -/
theorem pass_idle (hng : ng.Flows flow) : ∀ (ids : List StreamId) (st : Pass σ), ids.Nodup →
    (pass ng ids st).2 = .done → (pass ng ids st).1.wroteAny = false →
    (pass ng ids st).1.wrotePacket = false →
    (st.wroteAny = false ∧ st.wrotePacket = false) ∧
      ∀ id ∈ ids, (pass ng ids st).1.pending.Waiting id → (flow (pass ng ids st).1.conn).cong = 0
  | [], st, _, _, h₁, h₂ => ⟨⟨h₁, h₂⟩, by simp⟩
  | id :: ids, st, hnd, hdone, h₁, h₂ => by
    obtain ⟨hid, hnd⟩ := List.nodup_cons.mp hnd
    rcases pass_cons ng id ids st with ⟨st', hv, heq⟩ | ⟨st', stop, hstop, -, heq⟩
    · rw [heq] at hdone h₁ h₂ ⊢
      obtain ⟨⟨h₃, h₄⟩, ih⟩ := pass_idle hng ids st' hnd hdone h₁ h₂
      obtain ⟨h₅, h₆, h₇⟩ := ((Visit.of_eq hv).paid hng).flags h₃ h₄
      refine ⟨⟨h₅, h₆⟩, fun i hi hw => ?_⟩
      rcases List.mem_cons.mp hi with rfl | hi
      · rw [PendingStreams.Waiting, pass_view_ne ng ids st' hid] at hw
        exact Nat.le_zero.mp ((pass_cong hng ids st').trans (le_of_eq (h₇ rfl hw)))
      · exact ih i hi hw
    · rw [heq] at hdone
      exact absurd hdone hstop

end Pass

/-! ## Sufficiency -/

/-- No waiting stream can run out of its own credit, while the connection and the allowance last,
before another one that has credit. -/
def HolFree (p : PendingStreams) (f : Credit) : Prop :=
  ∀ s t, s ≠ t → p.Waiting t → 0 < f.stream t → f.stream s < (p.view s).1.length →
    f.conn ≤ f.stream s ∨ f.cong ≤ f.stream s

section Sufficient

variable {ng : Ngtcp2 σ} {flow : σ → Credit} {p : PendingStreams} {f : Credit}

/-- Under `HolFree`, a blocked stream means that nobody can go on. -/
theorem HolFree.exhausted (h : HolFree p f) {g : Credit} {q : PendingStreams}
    (hb : Budget p f g q) {s : StreamId} (hs : g.stream s = 0 ∨ g.conn = 0)
    (hd : (q.view s).1 ≠ []) {t : StreamId} (ht : q.Waiting t) : g.Exhausted t := by
  rcases hs with hs | hs
  · by_cases hst : s = t
    · subst hst; exact Or.inl hs
    have hlen := List.length_pos_iff.mpr hd
    have h₁ := hb.data s
    have h₂ := hb.conn s
    have h₃ := hb.cong s
    by_cases hz : f.stream t = 0
    · have := hb.stream t
      exact Or.inl (by omega)
    · rcases h s t hst (hb.waiting t ht) (by omega) (by omega) with h₄ | h₄
      · exact Or.inr (Or.inl (by omega))
      · exact Or.inr (Or.inr (by omega))
  · exact Or.inr (Or.inl hs)

/-- Control packets take from the congestion window only. -/
theorem flow_control (hng : ng.Flows flow) {fuel : ℕ} {s s' : σ}
    {result : Option (Except Error (List OutgoingPacket))}
    (hc : writeControlPackets ng fuel s = (result, s')) :
    (flow s').stream = (flow s).stream ∧ (flow s').conn = (flow s).conn ∧
      (flow s').cong ≤ (flow s).cong := by
  have hinv := writeControlPackets_invariant ng
    (P := fun s' _ => (flow s').stream = (flow s).stream ∧ (flow s').conn = (flow s).conn ∧
      (flow s').cong ≤ (flow s).cong)
    (fun s' _ hs => ⟨(hng.pkt s').1.trans hs.1, (hng.pkt s').2.1.trans hs.2.1,
      (hng.pkt s').2.2.trans hs.2.2⟩) .new fuel s ⟨rfl, rfl, le_rfl⟩
  rwa [hc] at hinv

theorem writePacketsFrom_creditsUsed (hng : ng.Flows flow) (h : HolFree p f) :
    ∀ (fuel : ℕ) (conn : σ) (q : PendingStreams) (packets : List OutgoingPacket),
      Budget p f (flow conn) q → CreditsUsed flow (writePacketsFrom ng fuel conn q packets)
  | 0, conn, q, packets, _ => by rintro ⟨ps, hps⟩; cases hps
  | fuel + 1, conn, q, packets, hb => by
    have hbud := pass_invariant ng (P := fun s q => Budget p f (flow s) q)
      (fun hv hb => (hv.paid hng).budget hb) q.orderedIds ⟨conn, q, packets, false, false⟩ hb
    have hblocked := pass_blocked hng q.orderedIds ⟨conn, q, packets, false, false⟩
    have hidle := pass_idle hng q.orderedIds ⟨conn, q, packets, false, false⟩ q.order.nodup
    have hview := @pass_view_ne σ ng q.orderedIds ⟨conn, q, packets, false, false⟩
    rw [writePacketsFrom_succ]
    have hround := iteration_spec ng fuel conn q packets
    generalize iteration ng fuel conn q packets = r at *
    cases hround with
    | failed | running | controlFailed => rintro ⟨ps, hps⟩; cases hps
    | @last st stop conn' control hp hs hc hret =>
      rw [hp] at hbud hblocked hidle hview
      obtain ⟨hc₁, hc₂, hc₃⟩ := flow_control hng hc
      have hbud' : Budget p f (flow conn') st.pending := hbud.relax hc₁ hc₂ hc₃
      rintro - id hw
      rcases hret with ⟨h₁, h₂⟩ | rfl | hempty
      · cases stop with
        | done =>
          have hid : id ∈ q.orderedIds := by
            by_contra hmem
            have hq : q.Waiting id := by rw [PendingStreams.Waiting, ← hview hmem]; exact hw
            exact hmem hq.mem
          have := (hidle rfl h₁ h₂).2 id hid hw
          exact Or.inr (Or.inr (by simp only at this ⊢; omega))
        | blocked =>
          obtain ⟨s, hsw, hd⟩ := hblocked rfl
          exact h.exhausted hbud' (by rwa [hc₁, hc₂]) hd hw
        | failed e => exact absurd rfl (hs e)
      · obtain ⟨s, hsw, hd⟩ := hblocked rfl
        exact h.exhausted hbud' (by rwa [hc₁, hc₂]) hd hw
      · have hmem := hw.mem
        rw [PendingStreams.orderedIds, List.isEmpty_iff.mp hempty] at hmem
        cases hmem
    | again hp hc hprog =>
      rw [hp] at hbud
      obtain ⟨hc₁, hc₂, hc₃⟩ := flow_control hng hc
      exact writePacketsFrom_creditsUsed hng h fuel _ _ _ (hbud.relax hc₁ hc₂ hc₃)

end Sufficient

/-! ## Necessity -/

/-- A packet of one byte. -/
def smallPacket : WriteAnswer := { rv := 1, buf := [64], path := some ⟨.v4 1 443, .v4 2 5000⟩ }

instance (f : Credit) (o : StreamOffer) : Decidable (f.Blocks o) := by
  unfold Credit.Blocks; infer_instance

/-- An ngtcp2 that spends the credit of stream `s` as fast as it can and answers offers of the
other streams with packets that carry no stream data. -/
def drain (s : StreamId) : Ngtcp2 Credit where
  writevStream f o :=
    if f.Blocks o then ({ rv := errStreamDataBlocked }, f)
    else if f.cong = 0 then ({ rv := 0 }, f)
    else if o.streamId = s then
      let n := min o.data.length (min (f.stream s) (min f.conn f.cong))
      ({ smallPacket with datalen := n },
        ⟨Function.update f.stream s (f.stream s - n), f.conn - n, f.cong - n⟩)
    else (smallPacket, f)
  writePkt f := ({ rv := 0 }, f)

theorem drain_flows (s : StreamId) : (drain s).Flows fun f => f := by
  refine ⟨fun f o => ?_, fun f => ⟨rfl, rfl, le_rfl⟩⟩
  simp only [drain]
  split_ifs with hb hc hs
  · exact .blocked hb rfl (.refl f _)
  · exact .limited hb hc rfl rfl (.refl f _)
  · refine .frame hb (Nat.pos_of_ne_zero hc) _ (Or.inr (by simp [smallPacket])) rfl
      (Nat.min_le_left _ _) ?_ ?_
    · intro hd
      have hlen := List.length_pos_iff.mpr hd
      have hpos : f.stream s ≠ 0 ∧ f.conn ≠ 0 := by
        constructor
        · exact fun h => hb ⟨hd, Or.inl (hs ▸ h)⟩
        · exact fun h => hb ⟨hd, Or.inr h⟩
      omega
    · subst hs
      refine ⟨?_, fun i hi => Function.update_of_ne hi _ _, ?_, ?_⟩
      · simp only [Function.update_self]; omega
      · simp only; omega
      · simp only; omega
  · exact .probe hb (Nat.pos_of_ne_zero hc) (by simp [smallPacket]) rfl (.refl f _)

/-- Stream `t` has its data and its credit; stream `s` has less credit than data, and less than the
connection and the allowance. -/
structure Starving (p : PendingStreams) (f : Credit) (s t : StreamId) (g : Credit)
    (q : PendingStreams) : Prop where
  view : q.view t = p.view t
  credit : g.stream t = f.stream t
  data : g.stream s < (q.view s).1.length
  conn : g.stream s < g.conn
  cong : g.stream s < g.cong

section Necessary

variable {p : PendingStreams} {f : Credit} {s t : StreamId}

theorem drain_answer {g : Credit} {q : PendingStreams} (h : Starving p f s t g q) {id : StreamId}
    {data : Bytes} {fin more : Bool} (hl : q.view id = (data, fin)) {a : WriteAnswer}
    {g' : Credit} (ha : (drain s).writevStream g ⟨id, data, fin, more⟩ = (a, g')) :
    (a.rv = errStreamDataBlocked ∧ g' = g) ∨
      (a.rv = 1 ∧ a.path ≠ none ∧ (id ≠ s → a.datalen = -1 ∧ g' = g) ∧
        (id = s → g.stream s ≠ 0 ∧ a.datalen = g.stream s ∧
          g' = ⟨Function.update g.stream s 0, g.conn - g.stream s, g.cong - g.stream s⟩)) := by
  have hconn := h.conn
  have hcong := h.cong
  simp only [drain] at ha
  split_ifs at ha with hb hc hs <;> cases ha
  · exact Or.inl ⟨rfl, rfl⟩
  · omega
  · have hlen : g.stream s < data.length := by
      have hd := h.data
      rw [← hs, hl] at hd
      rwa [← hs]
    have hmin : min data.length (min (g.stream s) (min g.conn g.cong)) = g.stream s := by omega
    refine Or.inr ⟨rfl, by simp [smallPacket], fun hne => absurd hs hne, fun _ => ⟨?_, ?_, ?_⟩⟩
    · intro hz
      exact hb ⟨List.length_pos_iff.mp (by simp only; omega), Or.inl (by rw [← hz, ← hs])⟩
    · simp only [hmin]
    · rw [hmin, Nat.sub_self]
  · exact Or.inr ⟨rfl, by simp [smallPacket], fun _ => ⟨rfl, rfl⟩, fun h => absurd h hs⟩

/-- Stream `s` spends its credit. -/
theorem Starving.accept_self (hst : s ≠ t) {st : Pass Credit} {data : Bytes} {fin : Bool}
    {w : Written} (h : Starving p f s t st.conn st.pending)
    (hview : st.pending.view s = (data, fin)) (hw : w.dataWritten = some (st.conn.stream s)) :
    Starving p f s t ⟨Function.update st.conn.stream s 0, st.conn.conn - st.conn.stream s,
      st.conn.cong - st.conn.stream s⟩ (st.accept s data fin w).pending := by
  have hdata := h.data
  have hconn := h.conn
  have hcong := h.cong
  rw [hview] at hdata
  simp only at hdata
  refine ⟨?_, ?_, ?_, ?_, ?_⟩
  · simp [Pass.accept, PendingStreams.view_consume, hst.symm, h.view]
  · simp [hst.symm, h.credit]
  · simp [Pass.accept, PendingStreams.view_consume, hview, hw]
    omega
  · simp only [Function.update_self]
    omega
  · simp only [Function.update_self]
    omega

/-- A packet without data changes nothing. -/
theorem Starving.accept_none {st : Pass Credit} {id : StreamId} {data : Bytes} {fin : Bool}
    {w : Written} (h : Starving p f s t st.conn st.pending) (hw : w.dataWritten = none) :
    Starving p f s t st.conn (st.accept id data fin w).pending := by
  have hkeep (i : StreamId) : (st.accept id data fin w).pending.view i = st.pending.view i := by
    simp only [Pass.accept, PendingStreams.view_prune, PendingStreams.view_consume, hw]
    split_ifs with hi
    · subst hi
      simp
    · rfl
  exact ⟨by rw [hkeep]; exact h.view, h.credit, by rw [hkeep]; exact h.data, h.conn, h.cong⟩

theorem drain_visit (hst : s ≠ t) {isLast : Bool} {id : StreamId} {st st' : Pass Credit}
    {stop : PassEnd} (hv : Visit (drain s) isLast id st st' stop)
    (h : Starving p f s t st.conn st.pending) :
    Starving p f s t st'.conn st'.pending ∧ (∀ e, stop ≠ .failed e) ∧
      (id ≠ s → st'.conn.stream s = st.conn.stream s) ∧
      (id = s → stop = .done → st'.conn.stream s = 0 ∧ st.conn.stream s ≠ 0) := by
  have hdata := h.data
  have hconn := h.conn
  have hcong := h.cong
  cases hv with
  | absent hl =>
    refine ⟨h, by simp, fun _ => rfl, ?_⟩
    rintro rfl
    simp [PendingStreams.view, hl] at hdata
  | nothing hl =>
    have hview := st.pending.view_of_lookup id hl
    refine ⟨⟨?_, h.credit, ?_, hconn, hcong⟩, by simp, fun _ => rfl, ?_⟩
    · rw [PendingStreams.view_remove, ← h.view]
      split_ifs with ht
      · rw [ht, hview]
      · rfl
    · rw [PendingStreams.view_remove, if_neg]
      · exact hdata
      · rintro rfl
        simp [hview] at hdata
    · rintro rfl
      simp [hview] at hdata
  | wrote hl hp ha hw hz =>
    obtain ⟨-, -, hrv⟩ := writeStreamResult_ok hw
    rcases drain_answer h (st.pending.view_of_lookup id hl) ha with ⟨hb, -⟩ | ⟨hb, -⟩ <;>
      simp [hb, errStreamDataBlocked, errWriteMore] at hrv
    omega
  | @completed data fin a conn w path hl hp ha hw hz hpath =>
    obtain ⟨hdw, -, hrv⟩ := writeStreamResult_ok hw
    have hview := st.pending.view_of_lookup id hl
    rcases drain_answer h hview ha with ⟨hb, -⟩ | ⟨-, -, hother, hself⟩
    · simp [hb, errStreamDataBlocked, errWriteMore] at hrv
    · by_cases hid : id = s
      · subst hid
        obtain ⟨hne, hd, rfl⟩ := hself rfl
        have hw' : w.dataWritten = some (st.conn.stream id) := by
          rw [hdw, WriteAnswer.dataWritten, if_pos (by omega), hd, Int.toNat_natCast]
        exact ⟨h.accept_self hst hview hw', by simp, by simp,
          fun _ _ => ⟨by simp [Pass.accept], hne⟩⟩
      · obtain ⟨hd, rfl⟩ := hother hid
        have hw' : w.dataWritten = none := by
          rw [hdw, WriteAnswer.dataWritten, if_neg (by omega)]
        exact ⟨h.accept_none hw', by simp, fun _ => rfl, fun hc => absurd hc hid⟩
  | pathless hl hp ha hw hz hpath =>
    obtain ⟨-, -, hrv⟩ := writeStreamResult_ok hw
    rcases drain_answer h (st.pending.view_of_lookup id hl) ha with ⟨hb, -⟩ | ⟨hb, hp', -⟩
    · simp [hb, errStreamDataBlocked, errWriteMore] at hrv
    · rcases hrv with ⟨hrv, -⟩ | ⟨-, -, hrv⟩
      · rw [hb] at hrv; exact absurd hrv (by decide)
      · exact absurd ((hrv hz).symm.trans hpath) hp'
  | blocked hl hp ha hw =>
    rcases drain_answer h (st.pending.view_of_lookup id hl) ha with ⟨-, rfl⟩ | ⟨hb, -⟩
    · exact ⟨h, by simp, fun _ => rfl, by simp⟩
    · have := (writeStreamResult_neg hw).1
      omega
  | shut hl hp ha hw =>
    rcases drain_answer h (st.pending.view_of_lookup id hl) ha with ⟨hb, -⟩ | ⟨hb, -⟩
    · rw [writeStreamResult_blocked hb] at hw
      cases hw
    · have := (writeStreamResult_neg hw).1
      omega
  | failed hl hp ha hw hnb hs =>
    rcases drain_answer h (st.pending.view_of_lookup id hl) ha with ⟨hb, -⟩ | ⟨hb, -⟩
    · rw [writeStreamResult_blocked hb] at hw
      exact absurd (Except.error.inj hw).symm (hnb id)
    · have := (writeStreamResult_neg hw).1
      omega

/-- A pass that reaches its end spends the credit of `s`; the next one ends at `s` or before. -/
theorem drain_pass (hst : s ≠ t) : ∀ (ids : List StreamId) (st : Pass Credit),
    Starving p f s t st.conn st.pending →
    Starving p f s t (pass (drain s) ids st).1.conn (pass (drain s) ids st).1.pending ∧
      (∀ e, (pass (drain s) ids st).2 ≠ .failed e) ∧
      ((pass (drain s) ids st).2 = .done → ids.Nodup → if s ∈ ids then
        (pass (drain s) ids st).1.conn.stream s = 0 ∧ st.conn.stream s ≠ 0 else
        (pass (drain s) ids st).1.conn.stream s = st.conn.stream s)
  | [], st, h => ⟨h, by simp [pass], by simp [pass]⟩
  | id :: ids, st, h => by
    rcases pass_cons (drain s) id ids st with ⟨st', hv, heq⟩ | ⟨st', stop, hstop, hv, heq⟩
    · obtain ⟨h₁, -, h₂, h₃⟩ := drain_visit hst (Visit.of_eq hv) h
      obtain ⟨h₄, h₅, h₆⟩ := drain_pass hst ids st' h₁
      rw [heq]
      refine ⟨h₄, h₅, fun hd hnd => ?_⟩
      obtain ⟨hid, hnd⟩ := List.nodup_cons.mp hnd
      have h₆ := h₆ hd hnd
      by_cases hs : id = s
      · subst hs
        rw [if_neg hid] at h₆
        rw [if_pos List.mem_cons_self, h₆]
        exact h₃ rfl rfl
      · simp only [List.mem_cons, Ne.symm hs, false_or]
        rw [h₂ hs] at h₆
        exact h₆
    · obtain ⟨h₁, h₂, -, -⟩ := drain_visit hst (Visit.of_eq hv) h
      rw [heq]
      exact ⟨h₁, h₂, fun hd => absurd hd hstop⟩

/-- One round of the outer loop: it returns, or it has spent the credit of `s`. -/
theorem drain_round (hst : s ≠ t) (fuel : ℕ) (g : Credit) (q : PendingStreams)
    (packets : List OutgoingPacket) (h : Starving p f s t g q) :
    ((∃ ps, (writePacketsFrom (drain s) (fuel + 2) g q packets).result = some (.ok ps)) ∧
      Starving p f s t (writePacketsFrom (drain s) (fuel + 2) g q packets).conn
        (writePacketsFrom (drain s) (fuel + 2) g q packets).pending) ∨
    ∃ g' q' packets', Starving p f s t g' q' ∧ g'.stream s = 0 ∧ g.stream s ≠ 0 ∧
      writePacketsFrom (drain s) (fuel + 2) g q packets =
        writePacketsFrom (drain s) (fuel + 1) g' q' packets' := by
  obtain ⟨h₁, h₂, h₃⟩ := drain_pass hst q.orderedIds ⟨g, q, packets, false, false⟩ h
  have hs : s ∈ q.orderedIds := by
    refine PendingStreams.Waiting.mem fun hc => ?_
    have hd := h.data
    rw [hc] at hd
    exact absurd hd (Nat.not_lt_zero _)
  have hctl : ∀ c, writeControlPackets (drain s) (fuel + 1) c = (some (.ok []), c) := fun _ => rfl
  rw [writePacketsFrom_succ]
  have hround := iteration_spec (drain s) (fuel + 1) g q packets
  generalize iteration (drain s) (fuel + 1) g q packets = r at *
  cases hround with
  | failed hp => exact absurd (by rw [hp]) (h₂ _)
  | running hp hs hc | controlFailed hp hs hc => cases (hctl _).symm.trans hc
  | last hp hs hc hret =>
    cases (hctl _).symm.trans hc
    rw [hp] at h₁
    exact Or.inl ⟨⟨_, rfl⟩, h₁⟩
  | again hp hc hprog =>
    cases (hctl _).symm.trans hc
    rw [hp] at h₁ h₃
    have h₃ := h₃ rfl q.order.nodup
    rw [if_pos hs] at h₃
    exact Or.inr ⟨_, _, _, h₁, h₃.1, h₃.2, rfl⟩

theorem drain_returns (hst : s ≠ t) (h : Starving p f s t f p) :
    (∃ ps, (writePackets (drain s) 3 f p).result = some (.ok ps)) ∧
      Starving p f s t (writePackets (drain s) 3 f p).conn
        (writePackets (drain s) 3 f p).pending := by
  unfold writePackets
  rcases drain_round hst 1 f p [] h with hr | ⟨g, q, packets, hg, hz, -, heq⟩
  · exact hr
  · rw [heq]
    rcases drain_round hst 0 g q packets hg with hr | ⟨-, -, -, -, -, hne, -⟩
    · exact hr
    · exact absurd hz hne

end Necessary

/-! ## The condition -/

/-- **When no stream is starved.** For the queue `p` and the credits `f`: whatever packets an
ngtcp2 with flow control makes, a returning `write_packets` leaves only streams waiting that cannot
go on, exactly when `HolFree p f`. -/
theorem creditsUsed_iff (p : PendingStreams) (f : Credit) :
    (∀ (σ : Type) (ng : Ngtcp2 σ) (flow : σ → Credit), ng.Flows flow → ∀ fuel conn,
      flow conn = f → CreditsUsed flow (writePackets ng fuel conn p)) ↔ HolFree p f := by
  constructor
  · intro h s t hst ht hcredit hdata
    by_contra hc
    rw [not_or, not_le, not_le] at hc
    obtain ⟨hok, hr⟩ := drain_returns hst
      (⟨rfl, rfl, hdata, hc.1, hc.2⟩ : Starving p f s t f p)
    have hw : (writePackets (drain s) 3 f p).pending.Waiting t := by
      rw [PendingStreams.Waiting, hr.view]
      exact ht
    have hpos := hr.credit
    have hconn := hr.conn
    have hcong := hr.cong
    rcases h Credit (drain s) (fun f => f) (drain_flows s) 3 f rfl hok t hw with h₁ | h₁ | h₁ <;>
      simp only at h₁ <;> omega
  · rintro h σ ng flow hng fuel conn rfl
    exact writePacketsFrom_creditsUsed hng h fuel conn p [] (Budget.refl p _)

/-- **A blocked stream starves the others.** Stream 0 has no credit; the data of stream 4 stays in
the queue, though the stream, the connection and the congestion window would let it go. -/
theorem blocked_stream_starves :
    let p := (PendingStreams.new.push 0 [1] false).push 4 [2] false
    let f : Credit := ⟨fun id => if id = 0 then 0 else 10, 10, 10⟩
    let r := writePackets (drain 4) 2 f p
    (drain 4).Flows (fun f => f) ∧ r.result = some (.ok []) ∧ r.pending.view 4 = ([2], false) ∧
      ¬ r.conn.Exhausted 4 ∧ ¬ CreditsUsed (fun f => f) r := by
  intro p f r
  have hex : ¬ r.conn.Exhausted 4 := by
    unfold Credit.Exhausted
    decide
  exact ⟨drain_flows 4, by decide, by decide, hex, fun h => hex (h ⟨[], by decide⟩ 4 (by decide))⟩

end Ngtcp2Rs
