import Ngtcp2Rs.Lib.TokenBucket
import Ngtcp2Rs.Server.Handlers
import Ngtcp2Rs.Streams.WritePackets

/-!
# Stateless Resets: how many, and how long

`StatelessResetLimiter` is a token bucket as long as no product of a timestamp saturates;
`write_stateless_reset` of `ngtcp2/src/reset.rs` makes a reset shorter than its trigger.

* `tryAcquire_eq`: the limiter refines `Lib.TokenBucket`.
* `sendStatelessResetPackets_fst`: the packets of a reset, over the server that records them.
* `statelessReset_bounded`: how many resets are sent in any window, and how long they are.
-/

namespace Ngtcp2Rs

open Lib

/-! ## The packets of a reset -/

/-- `STATELESS_RESET_TOKEN_LEN`, from `NGTCP2_STATELESS_RESET_TOKENLEN`. -/
def statelessResetTokenLen : ℕ := 16
/-- `MIN_RANDOM_LEN`, from `NGTCP2_MIN_STATELESS_RESET_RANDLEN`. -/
def minRandomLen : ℕ := 5
/-- `MAX_RANDOM_LEN`. -/
def maxRandomLen : ℕ := maxCidLen + 22 - statelessResetTokenLen
/-- `MIN_STATELESS_RESET_SIZE`. -/
def minStatelessResetSize : ℕ := 1 + minRandomLen + statelessResetTokenLen
/-- `SEND_BUFFER_SIZE` of the server. -/
def serverSendBufferSize : ℕ := 65535

/-- `ngtcp2_pkt_write_stateless_reset2`: what it writes to a buffer of a length, from a token and
random bytes, or its error code. -/
abbrev PktWriteStatelessReset : Type := ℕ → Bytes → Bytes → Except ℤ Bytes

/-- Write a Stateless Reset for a packet of `receivedLen` bytes; nothing when that is too short. -/
def writeStatelessReset (pktWrite : PktWriteStatelessReset) (fill : Fill) (bufLen : ℕ)
    (token : Bytes) (receivedLen : ℕ) : Except Error Bytes :=
  let randomLen := min maxRandomLen (receivedLen - (1 + statelessResetTokenLen))
  if randomLen < minRandomLen then .ok []
  else
    match fill randomLen with
    | none => .error (.internal "failed to generate random bytes")
    | some random =>
      match pktWrite bufLen token random.toList with
      | .error code => .error (.ngtcp2 code)
      | .ok written => .ok written

/-- `Server.sendStatelessReset`, with the packets it sends. -/
def Server.sendStatelessResetPackets (ext : External) (pktWrite : PktWriteStatelessReset)
    (fill : Fill) (s : Server) (routes : SharedRoutes) (data : Bytes) (dst localAddr : SocketAddr)
    (ts : ℕ) : Server × List OutgoingPacket :=
  let (ok, limiter) := s.limiter.tryAcquire ts
  let s := { s with limiter }
  if !ok then (s, [])
  else
    let isTaken cid := decide (cid ∈ s.taken.cids) || decide (cid ∈ routes.taken.cids)
    match resetCid ext isTaken data s.shortCidLengths.toList.reverse with
    | none => (s, [])
    | some cid =>
      match ext.resetToken cid with
      | none => (s, [])
      | some token =>
        match writeStatelessReset pktWrite fill serverSendBufferSize token data.length with
        | .error _ => (s, [])
        | .ok written =>
          if 0 < written.length then
            (s.record (.statelessReset cid dst), [⟨written, localAddr, dst, 0⟩])
          else (s, [])

section Size

variable {ext : External} {pktWrite : PktWriteStatelessReset} {fill : Fill}

theorem Server.resetToken_of_resetCid {isTaken : ConnectionId → Bool} {data : Bytes} {cid : ConnectionId} :
    ∀ {lens : List ℕ}, resetCid ext isTaken data lens = some cid → (ext.resetToken cid).isSome
  | [], h => by cases h
  | len :: lens, h => by
    unfold resetCid at h
    split at h
    · exact resetToken_of_resetCid h
    · split_ifs at h with _ htoken
      · cases h
        exact htoken
      · exact resetToken_of_resetCid h

/-- Over the packets, the server does what its model without them does. -/
theorem sendStatelessResetPackets_fst (s : Server) (routes : SharedRoutes) (data : Bytes)
    (dst localAddr : SocketAddr) (ts : ℕ) (ans : Answers) :
    (s.sendStatelessResetPackets ext pktWrite fill routes data dst localAddr ts).1 =
      s.sendStatelessReset ext routes data dst ts { ans with
        resetWritten :=
          !(s.sendStatelessResetPackets ext pktWrite fill routes data dst localAddr ts).2.isEmpty } := by
  unfold Server.sendStatelessResetPackets Server.sendStatelessReset
  simp only
  cases hok : (s.limiter.tryAcquire ts).1 with
  | false => rfl
  | true =>
    simp only [Bool.not_true, Bool.false_eq_true, if_false]
    cases hcid : Server.resetCid ext
        (fun cid => decide (cid ∈ s.taken.cids) || decide (cid ∈ routes.taken.cids)) data
        s.shortCidLengths.toList.reverse with
    | none => rfl
    | some cid =>
      obtain ⟨token, htoken⟩ := Option.isSome_iff_exists.mp (Server.resetToken_of_resetCid hcid)
      simp only [htoken]
      split
      · rfl
      · split <;> rfl

/-- A reset that is written is shorter than the packet it answers. -/
theorem length_writeStatelessReset
    (hwrite : ∀ bufLen token random written, pktWrite bufLen token random = .ok written →
      written.length = random.length + statelessResetTokenLen)
    {bufLen receivedLen : ℕ} {token written : Bytes}
    (h : writeStatelessReset pktWrite fill bufLen token receivedLen = .ok written)
    (hpos : 0 < written.length) :
    minStatelessResetSize ≤ receivedLen ∧ written.length < receivedLen ∧
      minRandomLen + statelessResetTokenLen ≤ written.length := by
  unfold writeStatelessReset at h
  simp only at h
  split_ifs at h with hmin
  · cases h
    exact absurd hpos (lt_irrefl 0)
  · split at h
    · cases h
    · next random _ =>
      split at h
      · cases h
      · next hok =>
        cases h
        have hlen := hwrite _ _ _ _ hok
        rw [List.Vector.toList_length] at hlen
        unfold minStatelessResetSize
        unfold minRandomLen maxRandomLen statelessResetTokenLen at *
        omega

/-- The packets that `send_stateless_reset` sends. -/
theorem mem_sendStatelessResetPackets {s : Server} {routes : SharedRoutes} {data : Bytes}
    {dst localAddr : SocketAddr} {ts : ℕ} {packet : OutgoingPacket}
    (h : packet ∈ (s.sendStatelessResetPackets ext pktWrite fill routes data dst localAddr ts).2) :
    (s.limiter.tryAcquire ts).1 = true ∧ 0 < packet.data.length ∧ ∃ token,
      writeStatelessReset pktWrite fill serverSendBufferSize token data.length =
        .ok packet.data := by
  unfold Server.sendStatelessResetPackets at h
  simp only at h
  split at h
  · cases h
  · next hok =>
    split at h
    · cases h
    · split at h
      · cases h
      · next token _ =>
        split at h
        · cases h
        · next written hwritten =>
          split_ifs at h with hpos
          · rw [List.mem_singleton] at h
            subst h
            simp only [Bool.not_eq_true, Bool.not_eq_false'] at hok
            exact ⟨hok, hpos, token, hwritten⟩
          · cases h

end Size

/-! ## The limiter -/

namespace StatelessResetLimiter

/-- `I`: the time one permission takes, rounded down. -/
def interval : ℕ := nanosPerSec / statelessResetRate

/-- The times of `ts` at which `try_acquire` returns true. -/
def granted : StatelessResetLimiter → List ℕ → List ℕ
  | _, [] => []
  | l, t :: ts =>
    if (l.tryAcquire t).1 then t :: granted (l.tryAcquire t).2 ts
    else granted (l.tryAcquire t).2 ts

/-- A new limiter after calls at the times `ts`. -/
def afterCalls (ts : List ℕ) : StatelessResetLimiter :=
  ts.foldl (fun l t => (l.tryAcquire t).2) {}

/-- The limiter as a token bucket. -/
def params : TokenBucket where
  burst := statelessResetBurst
  rate := statelessResetRate
  unit := nanosPerSec
  burst_pos := by decide
  rate_pos := by decide
  rate_le := by decide

/-- The limiter as the state of a token bucket. -/
def state (l : StatelessResetLimiter) : TokenBucket.State := ⟨l.bucket, l.lastRefillTs⟩

variable {l : StatelessResetLimiter} {t : ℕ}

theorem satU64_eq {n : ℕ} (h : n < 2 ^ 64) : satU64 n = n := by
  unfold satU64
  omega

/-- No operation of `refill` saturates. -/
theorem refill_eq (h : params.Valid l.state t) (ht : t * statelessResetRate < 2 ^ 64) :
    (l.refill t).state = params.refill l.state t := by
  obtain ⟨r, hr⟩ : ∃ r, r = (t - l.lastRefillTs) * statelessResetRate / nanosPerSec := ⟨_, rfl⟩
  have hbucket : l.bucket ≤ statelessResetBurst := h.bucket_le
  have hlast : l.lastRefillTs ≤ t := h.last_le
  have hconsumed : r * nanosPerSec / statelessResetRate ≤ t - l.lastRefillTs := by
    rw [hr]
    exact TokenBucket.consumed_le (p := params) (t - l.lastRefillTs)
  unfold statelessResetRate nanosPerSec statelessResetBurst at *
  have hsat₁ : satU64 ((t - l.lastRefillTs) * 33) = (t - l.lastRefillTs) * 33 :=
    satU64_eq (by omega)
  have hsat₂ : satU64 (l.bucket + r) = l.bucket + r := satU64_eq (by omega)
  have hsat₃ : satU64 (r * 1000000000) = r * 1000000000 := satU64_eq (by omega)
  have hsat₄ : satU64 (l.lastRefillTs + r * 1000000000 / 33) =
      l.lastRefillTs + r * 1000000000 / 33 := satU64_eq (by omega)
  have hstate : (t - l.state.last) * params.rate / params.unit = r := hr.symm
  unfold refill TokenBucket.refill
  unfold statelessResetRate nanosPerSec statelessResetBurst
  simp only [hsat₁, ← hr, hstate, hsat₂, hsat₃, hsat₄]
  split_ifs <;> rfl

/-- **The limiter is a token bucket.** -/
theorem tryAcquire_eq (h : params.Valid l.state t) (ht : t * statelessResetRate < 2 ^ 64) :
    (l.tryAcquire t).1 = (params.acquire l.state t).1 ∧
      (l.tryAcquire t).2.state = (params.acquire l.state t).2 := by
  have hrefill := refill_eq h ht
  have hbucket : (l.refill t).state.bucket = (l.refill t).bucket := rfl
  unfold tryAcquire TokenBucket.acquire
  simp only [← hrefill, hbucket]
  split_ifs <;> exact ⟨rfl, rfl⟩

theorem granted_eq : ∀ {ts : List ℕ} {l : StatelessResetLimiter} {t : ℕ},
    params.Valid l.state t → (t :: ts).Pairwise (· ≤ ·) →
    (∀ u ∈ ts, u * statelessResetRate < 2 ^ 64) → l.granted ts = params.granted l.state ts
  | [], _, _, _, _, _ => rfl
  | t' :: ts, l, t, h, hsorted, hsmall => by
    obtain ⟨hle, htail⟩ := List.pairwise_cons.mp hsorted
    have hvalid := h.mono (hle t' List.mem_cons_self)
    obtain ⟨hok, hstate⟩ := tryAcquire_eq hvalid (hsmall t' List.mem_cons_self)
    have hnext : params.Valid (l.tryAcquire t').2.state t' := hstate ▸ hvalid.acquire
    have hrec := granted_eq hnext htail fun u hu => hsmall u (List.mem_cons_of_mem _ hu)
    unfold granted TokenBucket.granted
    rw [hok, hrec, hstate]

theorem state_foldl : ∀ {ts : List ℕ} {l : StatelessResetLimiter} {t : ℕ},
    params.Valid l.state t → (t :: ts).Pairwise (· ≤ ·) →
    (∀ u ∈ ts, u * statelessResetRate < 2 ^ 64) →
    (ts.foldl (fun l t => (l.tryAcquire t).2) l).state = params.after l.state ts
  | [], _, _, _, _, _ => rfl
  | t' :: ts, l, t, h, hsorted, hsmall => by
    obtain ⟨hle, htail⟩ := List.pairwise_cons.mp hsorted
    have hvalid := h.mono (hle t' List.mem_cons_self)
    obtain ⟨-, hstate⟩ := tryAcquire_eq hvalid (hsmall t' List.mem_cons_self)
    have hnext : params.Valid (l.tryAcquire t').2.state t' := hstate ▸ hvalid.acquire
    have hrec := state_foldl hnext htail fun u hu => hsmall u (List.mem_cons_of_mem _ hu)
    rw [List.foldl_cons, hrec, hstate]
    rfl

theorem valid_new : params.Valid (state {}) 0 := ⟨le_refl _, le_refl _⟩

theorem sorted_from_zero {ts : List ℕ} (h : ts.Pairwise (· ≤ ·)) : (0 :: ts).Pairwise (· ≤ ·) :=
  List.pairwise_cons.mpr ⟨fun _ _ => Nat.zero_le _, h⟩

/-- The limiter is valid after any calls. -/
theorem valid_afterCalls {before : List ℕ} (hsorted : (before ++ [t]).Pairwise (· ≤ ·))
    (hsmall : ∀ u ∈ before ++ [t], u * statelessResetRate < 2 ^ 64) :
    params.Valid (afterCalls (before ++ [t])).state t := by
  have hzero := sorted_from_zero hsorted
  have hvalid := valid_new.after hzero
  rw [← state_foldl valid_new hzero hsmall] at hvalid
  rw [List.getLast_cons (by simp), List.getLast_append_singleton] at hvalid
  exact hvalid

end StatelessResetLimiter

/-- **Stateless Resets are few and short.** Over any calls at times that do not go back, the window
from `a` to `b` grants the burst, one permission for each interval, and two for the rounding; the
bucket does not overflow, and a call more than an interval after the last one is granted. A reset is
shorter than the datagram that it answers, and a datagram below the minimum gets none. -/
theorem statelessReset_bounded (ts : List ℕ) (hsorted : ts.Pairwise (· ≤ ·))
    (hsmall : ∀ t ∈ ts, t * statelessResetRate < 2 ^ 64) (pktWrite : PktWriteStatelessReset)
    (hwrite : ∀ bufLen token random written, pktWrite bufLen token random = .ok written →
      written.length = random.length + statelessResetTokenLen) :
    (∀ a b, ((StatelessResetLimiter.granted {} ts).filter fun t => a ≤ t ∧ t ≤ b).length ≤
      statelessResetBurst + (b - a) / StatelessResetLimiter.interval + 2) ∧
    (∀ before t later, ts = before ++ t :: later →
      (StatelessResetLimiter.afterCalls (before ++ [t])).bucket ≤ statelessResetBurst ∧
      (StatelessResetLimiter.afterCalls (before ++ [t])).lastRefillTs ≤ t) ∧
    (∀ before t t' later, ts = before ++ t :: t' :: later →
      t + (StatelessResetLimiter.interval + 1) ≤ t' →
      ((StatelessResetLimiter.afterCalls (before ++ [t])).tryAcquire t').1 = true) ∧
    ∀ (ext : External) (fill : Fill) (s : Server) (routes : SharedRoutes) (data : Bytes)
      (dst localAddr : SocketAddr) (now : ℕ),
      (∀ packet ∈ (s.sendStatelessResetPackets ext pktWrite fill routes data dst localAddr now).2,
        packet.data.length < data.length ∧
        minRandomLen + statelessResetTokenLen ≤ packet.data.length) ∧
      (data.length < minStatelessResetSize →
        (s.sendStatelessResetPackets ext pktWrite fill routes data dst localAddr now).2 = []) := by
  refine ⟨fun a b => ?_, fun before t later hts => ?_, fun before t t' later hts hlate => ?_, ?_⟩
  · have hzero := StatelessResetLimiter.sorted_from_zero hsorted
    rw [StatelessResetLimiter.granted_eq StatelessResetLimiter.valid_new hzero hsmall]
    exact TokenBucket.length_granted_window StatelessResetLimiter.valid_new hzero
  · rw [hts, List.append_cons] at hsorted hsmall
    have hvalid := StatelessResetLimiter.valid_afterCalls (List.pairwise_append.mp hsorted).1
      fun u hu => hsmall u (List.mem_append_left _ hu)
    exact ⟨hvalid.bucket_le, hvalid.last_le⟩
  · rw [hts, List.append_cons] at hsorted hsmall
    have hvalid := StatelessResetLimiter.valid_afterCalls (List.pairwise_append.mp hsorted).1
      fun u hu => hsmall u (List.mem_append_left _ hu)
    have hlast := hvalid.last_le
    have hsmall' := hsmall t' (List.mem_append_right _ List.mem_cons_self)
    rw [(StatelessResetLimiter.tryAcquire_eq (hvalid.mono (by omega)) hsmall').1]
    refine TokenBucket.acquired_of_le ?_
    exact le_trans (Nat.add_le_add_right hlast _) hlate
  · intro ext fill s routes data dst localAddr now
    refine ⟨fun packet hpacket => ?_, fun hshort => ?_⟩
    · obtain ⟨-, hpos, token, hok⟩ := mem_sendStatelessResetPackets hpacket
      exact (length_writeStatelessReset hwrite hok hpos).2
    · refine List.eq_nil_iff_forall_not_mem.mpr fun packet hpacket => ?_
      obtain ⟨-, hpos, token, hok⟩ := mem_sendStatelessResetPackets hpacket
      exact absurd (length_writeStatelessReset hwrite hok hpos).1 (Nat.not_le.mpr hshort)

/-- What `ngtcp2_pkt_write_stateless_reset2` writes: the random bytes with the bits of a short header,
then the token. -/
def samplePktWrite : PktWriteStatelessReset := fun bufLen token random =>
  if bufLen < random.length + statelessResetTokenLen then .error (-202)
  else .ok ((random.mapIdx fun i b => if i = 0 then (b &&& 0x7f) ||| 0x40 else b) ++
    (token ++ List.replicate statelessResetTokenLen 0).take statelessResetTokenLen)

theorem length_samplePktWrite (bufLen : ℕ) (token random written : Bytes)
    (h : samplePktWrite bufLen token random = .ok written) :
    written.length = random.length + statelessResetTokenLen := by
  unfold samplePktWrite at h
  split_ifs at h
  cases h
  simp

/-- Three calls, the last one after an interval. -/
theorem statelessReset_bounded_three :
    ((StatelessResetLimiter.granted {} [0, 7, 40000000]).filter fun t => 0 ≤ t ∧ t ≤ 7).length ≤
      102 ∧
    ((StatelessResetLimiter.afterCalls [0, 7]).tryAcquire 40000000).1 = true := by
  obtain ⟨hwindow, -, hlate, -⟩ := statelessReset_bounded [0, 7, 40000000] (by decide) (by decide)
    samplePktWrite length_samplePktWrite
  exact ⟨hwindow 0 7, hlate [0] 7 40000000 [] rfl (by decide)⟩

end Ngtcp2Rs
