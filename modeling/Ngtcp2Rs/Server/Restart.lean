import Ngtcp2Rs.Server.Limiter
import Ngtcp2Rs.Server.Takeover

/-!
# Stateless Resets after a restart

The server hands out a token with every CID that it chooses, and derives it from the CID and a secret.
A server that lost its connections, but not the secret, answers their packets with resets: it reads a
CID off the short header, of the longest length in use, and derives the token again.

* `Uniform`: all lengths in use are the configured one, if a Retry takes no longer SCID.
* `reset_recognised`: then the reset that answers a packet ends in the token that was handed out for
  its CID, in every state of the restarted server that does not know the CID.
-/

namespace Ngtcp2Rs

open Lib

/-! ## Tokens -/

/-- The tokens for some CIDs. A CID without a derived token gets none here: the transport parameters
leave it out, and `get_new_connection_id` makes up random bytes. -/
def resetTokens (ext : External) (cids : List ConnectionId) : List (ConnectionId × Bytes) :=
  cids.filterMap fun cid => (ext.resetToken cid).map fun token => (cid, token)

/-- The CIDs that a connection gives its peer in the transport parameters, with a token. -/
def Origin.advertisedWithToken (o : Origin) : List ConnectionId :=
  (if o.scid.isEmpty then [] else [o.scid]) ++ o.preferredAddrCid.toList

/-- The CIDs that ngtcp2 issues in a call (`get_new_connection_id`). -/
def Action.issued : Action → List ConnectionId
  | .called _ _ ans => ans.effect.issued
  | _ => []

/-- The tokens that an action hands out: in the transport parameters, or with the issued CIDs. -/
def Action.tokens (ext : External) : Action → List (ConnectionId × Bytes)
  | .created o _ _ => resetTokens ext o.advertisedWithToken
  | a => resetTokens ext a.issued

theorem mem_resetTokens {ext : External} {cids : List ConnectionId} {cid : ConnectionId}
    {token : Bytes} :
    (cid, token) ∈ resetTokens ext cids ↔ cid ∈ cids ∧ ext.resetToken cid = some token := by
  unfold resetTokens
  rw [List.mem_filterMap]
  constructor
  · rintro ⟨x, hx, h⟩
    obtain ⟨t, ht, heq⟩ := Option.map_eq_some_iff.mp h
    cases heq
    exact ⟨hx, ht⟩
  · rintro ⟨hcid, htoken⟩
    exact ⟨cid, hcid, by rw [htoken]; rfl⟩

/-! ## Lengths -/

/-- ngtcp2 issues CIDs of the configured length, which is that of the first SCID. -/
def IssuesLen (n : ℕ) (trace : List Action) : Prop :=
  ∀ a ∈ trace, ∀ x ∈ a.issued, x.len = n

instance (n : ℕ) (trace : List Action) : Decidable (IssuesLen n trace) :=
  inferInstanceAs (Decidable (∀ a ∈ trace, ∀ x ∈ a.issued, x.len = n))

/-- A Retry token verifies only with the SCID that it was minted for. -/
def RetryLen (ext : External) (cfg : ServerConfig) : Prop :=
  ∀ token version src dcid ts originalDcid,
    ext.verifyRetryToken token version src dcid ts = some originalDcid →
      dcid.len = max cfg.scidLen 8

/-- The first CIDs of every connection have the length `n`. -/
def ChoosesLen (n : ℕ) (trace : List Action) : Prop :=
  ∀ o retried src, .created o retried src ∈ trace →
    ∀ x ∈ o.scid :: o.preferredAddrCid.toList, x.len = n

section Lengths

variable {ext : External} {cfg : ServerConfig}

theorem mem_creations {trace : List Action} {o : Origin} {retried : Bool} {src : SocketAddr} :
    .created o retried src ∈ creations trace ↔ .created o retried src ∈ trace := by
  simp [creations]

theorem preferred_chooseIds {accepted : AcceptedInitial} {originalDcid : ConnectionId}
    {retried : Bool} {ans : Answers} {o : Origin}
    (h : Server.chooseIds ext cfg accepted originalDcid retried ans = some o) {x : ConnectionId}
    (hx : o.preferredAddrCid = some x) : x.len = cfg.scidLen := by
  unfold Server.chooseIds at h
  split at h
  · cases h
  split at h
  · cases h
  cases h
  dsimp only at hx
  split_ifs at hx
  exact ConnectionId.len_random (Option.filter_eq_some_iff.mp hx).1

/-- A connection is created as retried only with a token that verifies. -/
theorem verified_of_validate {accepted : AcceptedInitial} {version : QuicVersion} {src : SocketAddr}
    {ts : ℕ} {originalDcid : ConnectionId} {validated : Bool}
    (h : Server.validate ext cfg accepted version src ts = .proceed originalDcid validated true) :
    ext.verifyRetryToken accepted.token version src accepted.dcid ts = some originalDcid := by
  unfold Server.validate at h
  split at h
  · split at h <;> cases h
  · split at h
    next hverify =>
      cases h
      exact hverify
    · cases h
  · split at h <;> cases h

/-- The server chooses CIDs of the configured length, also where they come in a Retry. -/
theorem chooses_len (hlen : 8 ≤ cfg.scidLen) (hretry : RetryLen ext cfg) (ls : List Label) :
    ChoosesLen cfg.scidLen (run (World.step ext cfg) (.init cfg) ls).trace := by
  refine run_preserves (I := fun w : World => ChoosesLen cfg.scidLen w.trace) (fun w l hw => ?_) ls
    (.init cfg) (fun o retried src h => by cases h)
  intro o retried src h
  obtain hplain | ⟨d, ts, ans, accepted, o', retried', -, -, hc, heq⟩ := step_cases ext cfg w l
  · rw [← mem_creations, hplain.creations_eq, mem_creations] at h
    exact hw o retried src h
  · rw [heq] at h
    change _ ∈ (w.server.createConnection o' retried' d.src ans).trace at h
    rw [trace_createConnection] at h
    simp only [List.mem_cons, reduceCtorEq, false_or, Action.created.injEq] at h
    obtain ⟨rfl, rfl, -⟩ | h := h
    · intro x hx
      obtain rfl | hx := List.mem_cons.mp hx
      · cases retried with
        | false => exact (chosen_chooseIds hc.ids).scid_len rfl
        | true =>
          obtain ⟨version, validated, hvalid, -⟩ := hc.valid
          have hscid : o.scid = accepted.dcid := scid_chooseIds hc.ids
          rw [hscid, hretry _ _ _ _ _ _ (verified_of_validate hvalid), Nat.max_eq_left hlen]
      · exact preferred_chooseIds hc.ids (Option.mem_toList.mp hx)
    · exact hw o retried src h

/-- **One length.** The lengths in use are the configured one, and so are those of the CIDs that wait
to be entered. -/
structure Uniform (cfg : ServerConfig) (s : Server) : Prop where
  lens : ∀ n ∈ s.shortCidLengths, n = cfg.scidLen
  mem : cfg.scidLen ∈ s.shortCidLengths
  queued : ∀ k c, s.connections.lookup k = some c → ∀ x ∈ c.issuedCids, x.len = cfg.scidLen

namespace Uniform

variable {s s' : Server}

theorem bind (hpos : 0 < cfg.scidLen) : Uniform cfg (Server.bind cfg) := by
  have hlens : (Server.bind cfg).shortCidLengths = OrdSet.empty.insert cfg.scidLen := if_pos hpos
  refine ⟨fun n hn => ?_, ?_, fun k c h => by cases h⟩
  · rw [hlens, OrdSet.mem_insert] at hn
    exact hn.resolve_right (OrdSet.not_mem_empty n)
  · rw [hlens, OrdSet.mem_insert]
    exact .inl rfl

theorem serve (hs : Uniform cfg s) {key : ConnectionId} {c c₁ : ServerConnection}
    {calls : List (NgCall × Answer)} (hkey : s.connections.lookup key = some c)
    (hcids : c₁.toConnCids = c.toConnCids.callAll calls)
    (hcalls : ∀ call ∈ calls, ∀ x ∈ call.2.effect.issued, x.len = cfg.scidLen) :
    Uniform cfg ((s.recordCalls key calls).pollCids key c₁) := by
  have hlens (n : ℕ) : n ∈ ((s.recordCalls key calls).pollCids key c₁).shortCidLengths ↔
      n ∈ s.shortCidLengths ∨ ∃ x ∈ c₁.issuedCids, x.len = n := by
    rw [toRouteTable_served, RouteTable.shortCidLengths_retireCids,
      RouteTable.mem_shortCidLengths_registerCids]
  have hissued : ∀ x ∈ c₁.issuedCids, x.len = cfg.scidLen := by
    intro x hx
    rw [hcids] at hx
    obtain hx | ⟨call, hmem, hx⟩ := mem_issued_callAll hx
    · exact hs.queued key c hkey x hx
    · exact hcalls call hmem x hx
  refine ⟨fun n hn => ?_, (hlens _).mpr (.inl hs.mem), fun k c' h x hx => ?_⟩
  · obtain hn | ⟨x, hx, rfl⟩ := (hlens n).mp hn
    · exact hs.lens n hn
    · exact hissued x hx
  · rw [connections_served] at h
    obtain ⟨-, rfl⟩ | ⟨-, h⟩ := Map.of_lookup_insert h
    · cases hx
    · exact hs.queued k c' h x hx

/-- The lengths of a new connection are those of the CIDs that were chosen for it. -/
theorem mem_lens_registerNew {o : Origin} {retried : Bool} {src : SocketAddr} {n : ℕ}
    (h : n ∈ (s.registerNew o retried src).shortCidLengths) :
    n ∈ s.shortCidLengths ∨ (o.scid ≠ .empty ∧ n = o.scid.len) ∨
      ∃ x, o.preferredAddrCid = some x ∧ n = x.len := by
  have hscid : n ∈ (if o.scid.isEmpty then s.shortCidLengths
      else s.shortCidLengths.insert o.scid.len) →
      n ∈ s.shortCidLengths ∨ (o.scid ≠ .empty ∧ n = o.scid.len) := by
    intro h
    split_ifs at h with hempty
    · exact .inl h
    · obtain rfl | h := OrdSet.mem_insert.mp h
      · exact .inr ⟨fun he => hempty (ConnectionId.isEmpty_iff.mpr he), rfl⟩
      · exact .inl h
  unfold Server.registerNew at h
  cases hp : o.preferredAddrCid with
  | none =>
    rw [hp] at h
    exact (hscid h).imp_right .inl
  | some x =>
    rw [hp] at h
    obtain rfl | h := OrdSet.mem_insert.mp h
    · exact .inr (.inr ⟨x, rfl, rfl⟩)
    · exact (hscid h).imp_right .inl

theorem create (hs : Uniform cfg s) {o : Origin} {retried : Bool} (src : SocketAddr) (ans : Answers)
    (ho : ∀ x ∈ o.scid :: o.preferredAddrCid.toList, x.len = cfg.scidLen)
    (hissued : ∀ x ∈ ans.issued, x.len = cfg.scidLen) :
    Uniform cfg (s.createConnection o retried src ans) := by
  have hlens := mem_lens_createConnection s o retried src ans
  refine ⟨fun n hn => ?_, (hlens _).mpr (.inl (lens_registerNew s o retried src (.inl hs.mem))),
    fun k c h x hx => ?_⟩
  · obtain hn | ⟨x, hx, rfl⟩ := (hlens n).mp hn
    · obtain hn | ⟨-, rfl⟩ | ⟨x, hx, rfl⟩ := mem_lens_registerNew hn
      · exact hs.lens n hn
      · exact ho _ List.mem_cons_self
      · exact ho x (List.mem_cons_of_mem _ (Option.mem_toList.mpr hx))
    · exact hissued x hx
  · rw [connections_createConnection] at h
    obtain ⟨-, rfl⟩ | ⟨-, h⟩ := Map.of_lookup_insert h
    · cases hx
    · exact hs.queued k c h x hx

theorem edit (hs : Uniform cfg s) (he : ServerEdit cfg s s')
    (hchooses : ChoosesLen cfg.scidLen s'.trace) (hissues : IssuesLen cfg.scidLen s'.trace) :
    Uniform cfg s' := by
  cases he with
  | note a ha => exact ⟨hs.lens, hs.mem, hs.queued⟩
  | limiter l => exact ⟨hs.lens, hs.mem, hs.queued⟩
  | missing key hkey hroute => exact ⟨hs.lens, hs.mem, hs.queued⟩
  | remove key =>
    exact ⟨hs.lens, hs.mem, fun k c h => hs.queued k c (Map.of_lookup_erase h).2⟩
  | serve key c c₁ calls hkey hcids =>
    refine hs.serve hkey hcids fun call hcall => hissues (.called key call.1 call.2) ?_
    rw [trace_served]
    exact List.mem_append_left _ (List.mem_reverse.mpr (List.mem_map.mpr ⟨call, hcall, rfl⟩))
  | close key c ans hkey =>
    refine ⟨hs.lens, hs.mem, fun k c' h x hx => ?_⟩
    obtain ⟨-, rfl⟩ | ⟨-, h⟩ := Map.of_lookup_insert h
    · obtain hx | hx := List.mem_append.mp hx
      · exact hs.queued key c hkey x hx
      · exact hissues (.called key .close ans) List.mem_cons_self x hx
    · exact hs.queued k c' h x hx
  | create o retried src ans hsize ho =>
    rw [trace_createConnection] at hchooses hissues
    refine hs.create src ans (hchooses o retried src (by simp)) fun x hx => ?_
    obtain hx | hx := List.mem_append.mp hx
    · exact hissues (.called o.key .read ans.read) (by simp) x hx
    · exact hissues (.called o.key .writePackets ans.flush) (by simp) x hx

end Uniform

/-- **The lengths in use.** After every run whose CIDs have the configured length, so have all the
lengths that are tried for short headers. -/
theorem uniform_run (hpos : 0 < cfg.scidLen) (ls : List Label)
    (hchooses : ChoosesLen cfg.scidLen (run (World.step ext cfg) (.init cfg) ls).trace)
    (hissues : IssuesLen cfg.scidLen (run (World.step ext cfg) (.init cfg) ls).trace) :
    Uniform cfg (run (World.step ext cfg) (.init cfg) ls).server := by
  refine edits_invariant (I := fun w => ChoosesLen cfg.scidLen w.trace →
    IssuesLen cfg.scidLen w.trace → Uniform cfg w.server) (fun _ _ => .bind hpos)
    (fun w w' he hw hchooses hissues => ?_) ls hchooses hissues
  have hs : Uniform cfg w.server :=
    hw (fun o retried src h => hchooses o retried src (he.suffix.subset h))
      (fun a ha => hissues a (he.suffix.subset ha))
  cases he with
  | server s hs' => exact hs.edit hs' hchooses hissues
  | note a ha => exact ⟨hs.lens, hs.mem, hs.queued⟩
  | take key s r c ht =>
    have ht := takeConnection_taken ht
    exact ⟨ht.lens_eq ▸ hs.lens, ht.lens_eq ▸ hs.mem, fun k c' h => hs.queued k c' (ht.of_lookup h).2⟩
  | unroute key hr => exact hs
  | update h a a' ha hid hc => exact hs
  | call h a a' c ans ha hid hc => exact ⟨hs.lens, hs.mem, hs.queued⟩
  | sync h a ha => exact hs
  | drop h a ha => exact hs

/-- A CID that was handed out with a token has the configured length, and the token is derived. -/
theorem handedOut_len {trace : List Action} (hchooses : ChoosesLen cfg.scidLen trace)
    (hissues : IssuesLen cfg.scidLen trace) {a : Action} (ha : a ∈ trace) {cid : ConnectionId}
    {token : Bytes} (htoken : (cid, token) ∈ a.tokens ext) :
    cid.len = cfg.scidLen ∧ ext.resetToken cid = some token := by
  cases a with
  | created o retried src =>
    obtain ⟨hcid, htoken⟩ := mem_resetTokens.mp htoken
    refine ⟨hchooses o retried src ha cid ?_, htoken⟩
    obtain hcid | hcid := List.mem_append.mp hcid
    · split_ifs at hcid
      · cases hcid
      · exact List.mem_singleton.mp hcid ▸ List.mem_cons_self
    · exact List.mem_cons_of_mem _ hcid
  | called key call ans =>
    obtain ⟨hcid, htoken⟩ := mem_resetTokens.mp htoken
    exact ⟨hissues (.called key call ans) ha cid hcid, htoken⟩
  | _ => cases htoken

end Lengths

/-! ## Resets -/

section Resets

variable {ext : External} {cfg : ServerConfig}

/-- The CID that a reset is sent for, if there is one length only. -/
theorem resetCid_uniform {s : Server} (hs : Uniform cfg s) {isTaken : ConnectionId → Bool}
    {first : UInt8} {cid : ConnectionId} {payload token : Bytes} (hlen : cid.len = cfg.scidLen)
    (htaken : isTaken cid = false) (htoken : ext.resetToken cid = some token) :
    Server.resetCid ext isTaken (first :: (cid.data ++ payload)) s.shortCidLengths.toList.reverse =
      some cid := by
  have hdcid : shortDcid (first :: (cid.data ++ payload)) cfg.scidLen = some cid :=
    shortDcid_eq_some.mpr ⟨hlen, List.prefix_append _ _⟩
  cases hlens : s.shortCidLengths.toList.reverse with
  | nil =>
    have hmem : cfg.scidLen ∈ s.shortCidLengths.toList := hs.mem
    rw [List.reverse_eq_nil_iff.mp hlens] at hmem
    cases hmem
  | cons n lens =>
    have hn : n ∈ s.shortCidLengths := by
      have : n ∈ s.shortCidLengths.toList.reverse := hlens ▸ List.mem_cons_self
      exact List.mem_reverse.mp this
    rw [Server.resetCid, hs.lens n hn, hdcid]
    simp [htaken, htoken]

/-- The random generator and `ngtcp2_pkt_write_stateless_reset2` work: the packet is written to a
buffer that is long enough, and ends in the token. -/
structure WritesResets (pktWrite : PktWriteStatelessReset) (fill : Fill) : Prop where
  fill : ∀ len, (fill len).isSome
  write : ∀ bufLen token random, token.length = statelessResetTokenLen →
    random.length + statelessResetTokenLen ≤ bufLen →
    ∃ written, pktWrite bufLen token random = .ok written ∧
      written.length = random.length + statelessResetTokenLen ∧ token <:+ written

theorem writeStatelessReset_ok {pktWrite : PktWriteStatelessReset} {fill : Fill}
    (hworks : WritesResets pktWrite fill) {receivedLen : ℕ}
    (hmin : minStatelessResetSize ≤ receivedLen) {token : Bytes}
    (htoken : token.length = statelessResetTokenLen) :
    ∃ written, writeStatelessReset pktWrite fill serverSendBufferSize token receivedLen = .ok written ∧
      0 < written.length ∧ written.length < receivedLen ∧ token <:+ written := by
  unfold minStatelessResetSize minRandomLen statelessResetTokenLen at hmin
  obtain ⟨n, hn⟩ : ∃ n, n = min maxRandomLen (receivedLen - (1 + statelessResetTokenLen)) := ⟨_, rfl⟩
  obtain ⟨random, hrandom⟩ := Option.isSome_iff_exists.mp (hworks.fill n)
  have hbound : minRandomLen ≤ n ∧ n + statelessResetTokenLen < receivedLen ∧
      n + statelessResetTokenLen ≤ serverSendBufferSize := by
    unfold maxRandomLen maxCidLen statelessResetTokenLen at hn
    unfold minRandomLen statelessResetTokenLen serverSendBufferSize
    omega
  obtain ⟨written, hwrite, hlen, hsuffix⟩ := hworks.write serverSendBufferSize token random.toList
    htoken (by rw [List.Vector.toList_length]; exact hbound.2.2)
  rw [List.Vector.toList_length] at hlen
  refine ⟨written, ?_, ?_, by omega, hsuffix⟩
  · subst hn
    unfold writeStatelessReset
    simp only
    rw [if_neg (by omega), hrandom]
    simp only [hwrite]
  · rw [hlen]
    unfold statelessResetTokenLen
    omega

/-- **A reset is recognised.** A server that was restarted with its secret gets a packet for a CID
that it handed out before, and does not know the CID now: the reset that it sends back ends in the
token that it handed out. -/
theorem reset_recognised {pktWrite : PktWriteStatelessReset} {fill : Fill}
    (hworks : WritesResets pktWrite fill) (hlen : 8 ≤ cfg.scidLen) (hretry : RetryLen ext cfg)
    (htokens : ∀ cid token, ext.resetToken cid = some token → token.length = statelessResetTokenLen)
    (before after : List Label)
    (hbefore : IssuesLen cfg.scidLen (run (World.step ext cfg) (.init cfg) before).trace)
    (hafter : IssuesLen cfg.scidLen (run (World.step ext cfg) (.init cfg) after).trace)
    {a : Action} (ha : a ∈ (run (World.step ext cfg) (.init cfg) before).trace)
    {cid : ConnectionId} {token : Bytes} (htoken : (cid, token) ∈ a.tokens ext)
    {w : World} (hw : w = run (World.step ext cfg) (.init cfg) after)
    {d : InboundDatagram} {first : UInt8} {payload : Bytes}
    (hdata : d.data = first :: (cid.data ++ payload)) (hshort : isLongHeader d.data = false)
    (hmin : minStatelessResetSize ≤ d.data.length)
    (hserver : w.server.existingKey d.data d.src = none)
    (hshared : w.routes.resolve d.data d.src = none)
    (htaken : cid ∉ w.server.taken.cids ∧ cid ∉ w.routes.taken.cids)
    {ts : ℕ} (hgranted : (w.server.limiter.tryAcquire ts).1 = true) (ans : Answers) :
    ∃ packet, token <:+ packet.data ∧ packet.data.length < d.data.length ∧
      packet.localAddr = d.localAddr ∧ packet.remote = d.src ∧
      (w.server.sendStatelessResetPackets ext pktWrite fill w.routes d.data d.src d.localAddr ts).2 =
        [packet] ∧
      w.handleDatagram ext cfg d ts { ans with resetWritten := true } =
        { w with server := (w.server.sendStatelessResetPackets ext pktWrite fill w.routes d.data d.src
            d.localAddr ts).1 } := by
  obtain ⟨hcid, htoken⟩ := handedOut_len (chooses_len hlen hretry before) hbefore ha htoken
  have huniform : Uniform cfg w.server := by
    rw [hw]
    exact uniform_run (by omega) after (chooses_len hlen hretry after) hafter
  obtain ⟨written, hwrite, hpos, hlt, hsuffix⟩ :=
    writeStatelessReset_ok hworks hmin (htokens cid token htoken)
  have hresetCid : Server.resetCid ext
      (fun x => decide (x ∈ w.server.taken.cids) || decide (x ∈ w.routes.taken.cids))
      (first :: (cid.data ++ payload)) w.server.shortCidLengths.toList.reverse = some cid :=
    resetCid_uniform huniform hcid (by simp [htaken.1, htaken.2]) htoken
  have hpackets : (w.server.sendStatelessResetPackets ext pktWrite fill w.routes d.data d.src
      d.localAddr ts).2 = [⟨written, d.localAddr, d.src, 0⟩] := by
    unfold Server.sendStatelessResetPackets
    simp only [hgranted, Bool.not_true, Bool.false_eq_true, if_false]
    rw [hdata, hresetCid]
    simp only [htoken]
    rw [← hdata, hwrite]
    simp only [hpos, if_true]
  refine ⟨⟨written, d.localAddr, d.src, 0⟩, hsuffix, hlt, rfl, rfl, hpackets, ?_⟩
  rw [sendStatelessResetPackets_fst _ _ _ _ _ _ ans, hpackets]
  unfold World.handleDatagram
  rw [hserver, hshared]
  simp only [hshort, Bool.false_eq_true, if_false, List.isEmpty_cons, Bool.not_false]

end Resets

/-- The samples with the checks of real tokens: a Retry token verifies with an SCID of eight bytes
only, and reset tokens have a length. -/
def restartExternal : External :=
  { sampleExternal with
    verifyRetryToken := fun token version src dcid ts =>
      if dcid.len = 8 then sampleExternal.verifyRetryToken token version src dcid ts else none
    resetToken := fun cid =>
      some ((cid.data ++ cid.data ++ List.replicate 16 0).take statelessResetTokenLen) }

theorem restartExternal_retryLen : RetryLen restartExternal sampleConfig := by
  intro token version src dcid ts originalDcid h
  change (if dcid.len = 8 then _ else none) = _ at h
  split_ifs at h with hlen
  exact hlen

theorem restartExternal_tokens (cid : ConnectionId) (token : Bytes)
    (h : restartExternal.resetToken cid = some token) : token.length = statelessResetTokenLen := by
  cases h
  rw [List.length_take, List.length_append, List.length_replicate]
  exact Nat.min_eq_left (Nat.le_add_left _ _)

theorem samplePktWrite_works (b : UInt8) : WritesResets samplePktWrite (sampleFill b) := by
  refine ⟨fun _ => rfl, fun bufLen token random htoken hlen => ?_⟩
  unfold samplePktWrite
  rw [if_neg (by omega), List.take_append_of_le_length htoken.ge, List.take_of_length_le htoken.le]
  exact ⟨_, rfl, by simp [htoken], List.suffix_append _ _⟩

/-- A packet for the CID `4`, with no more than the header and forty bytes. -/
def samplePacket : InboundDatagram :=
  sampleDatagram (0x40 :: ((sampleCid 4).data ++ List.replicate 40 0)) 1

/-- The CID `4` was issued before the restart; a packet for it reaches the new server. -/
theorem reset_recognised_sample :
    ∃ packet : OutgoingPacket,
      (sampleCid 4).data ++ (sampleCid 4).data <:+ packet.data ∧ packet.data.length < 49 := by
  let answer : Answer := { effect := { issued := [sampleCid 4], retired := [sampleCid 3] } }
  have hcalled : .called (sampleCid 2) .writePackets answer ∈
      (run (World.step restartExternal sampleConfig) (.init sampleConfig) sampleAccepted).trace := by
    decide +kernel
  have hgranted : ((World.init sampleConfig).server.limiter.tryAcquire 0).1 = true := by
    decide +kernel
  obtain ⟨packet, hsuffix, hlt, -⟩ := reset_recognised (samplePktWrite_works 5)
    (le_refl 8 : 8 ≤ sampleConfig.scidLen) restartExternal_retryLen restartExternal_tokens
    sampleAccepted [] (by decide +kernel) (by decide +kernel) hcalled
    (mem_resetTokens.mpr ⟨List.mem_cons_self, rfl⟩) rfl
    (rfl : samplePacket.data = 0x40 :: ((sampleCid 4).data ++ List.replicate 40 0)) (by decide)
    (by decide) (by decide +kernel) (by decide +kernel) (by decide) hgranted {}
  exact ⟨packet, hsuffix, hlt⟩

end Ngtcp2Rs
