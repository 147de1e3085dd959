import Ngtcp2Rs.Server.Initials

/-!
# Completeness of routing

With SCIDs of a positive length, a connection is routed by its SCID, its original DCID, its preferred
address CID and the CIDs it issued, without those it retired, and by nothing else. All of these are in
the server's table before the hand-over and in the shared one afterwards (`routing_complete`).
-/

namespace Ngtcp2Rs

open Lib

/-- A Retry token verifies only for a packet that carries the SCID of the Retry, which is not empty:
`send_retry` draws at least eight bytes, whoever sent it. -/
def External.RetryNeedsDcid (ext : External) : Prop :=
  ∀ token version src dcid ts,
    (ext.verifyRetryToken token version src dcid ts).isSome = true → dcid.isEmpty = false

/-- The CIDs of a connection as far as they were polled: server SCID, original DCID, preferred
address CID and issued CIDs, without the retired ones. -/
def ConnCids.Current (c : ConnCids) (x : ConnectionId) : Prop :=
  (x = c.origin.scid ∨ x = c.origin.originalDcid ∨ c.origin.preferredAddrCid = some x ∨
    x ∈ c.issuedPolled) ∧ x ∉ c.retiredPolled

theorem routable_iff {c : ConnCids} (h : c.origin.scid.isEmpty = false) (x : ConnectionId) :
    c.Routable x ↔ c.Current x := by
  simp [ConnCids.Routable, ConnCids.Current, Origin.cids, h, or_assoc]

section Runs

variable (ext : External) (cfg : ServerConfig) (ls : List Label)

/-- With a positive SCID length, no connection has an empty SCID. -/
theorem scid_ne_empty (hcfg : 1 ≤ cfg.scidLen) (hext : ext.RetryNeedsDcid) {o : Origin}
    {retried : Bool} {src : SocketAddr}
    (h : .created o retried src ∈ (run (World.step ext cfg) (.init cfg) ls).trace) :
    o.scid.isEmpty = false := by
  obtain ⟨r, hr, accepted, version, validated, houtcome, -⟩ := exists_received_of_created h
  obtain ⟨-, s, hs⟩ := of_mem_received hr
  obtain ⟨-, -, hvalid, -, hids⟩ := created_initialOutcome (hs.trans houtcome)
  have hscid := scid_chooseIds hids
  rcases validate_proceed hvalid with ⟨-, -, -, -, rfl⟩ | ⟨-, hverify, -, rfl⟩ | ⟨-, -, -, -, rfl⟩
  case inr.inl =>
    have heq : o.scid = accepted.dcid := hscid
    rw [heq]
    exact hext _ _ _ _ _ (Option.isSome_of_eq_some hverify)
  all_goals
    have hlen : o.scid.len = cfg.scidLen := hscid
    refine Bool.eq_false_iff.mpr fun he => ?_
    rw [ConnectionId.isEmpty_iff.mp he] at hlen
    have hzero : ConnectionId.empty.len = 0 := rfl
    omega

/-- **Completeness of routing.** After every run with a lawful trace, the CIDs routed to a connection
of the server are exactly its current ones, in the server's table and not in the shared one, and no
issued CID waits to be polled; the CIDs routed to an accepted connection are exactly its current
ones, in the shared table and not in the server's. -/
theorem routing_complete (hcfg : 1 ≤ cfg.scidLen) (hext : ext.RetryNeedsDcid)
    (hl : Lawful (run (World.step ext cfg) (.init cfg) ls).trace) :
    let w := run (World.step ext cfg) (.init cfg) ls
    (∀ k c, w.server.connections.lookup k = some c →
      (∀ x, w.server.cidMap.lookup x = some k ↔ c.Current x) ∧
      (∀ x, w.routes.cidMap.lookup x ≠ some k) ∧ c.issuedCids = []) ∧
    (∀ h a, w.accepted.lookup h = some a →
      (∀ x, w.routes.cidMap.lookup x = some a.connectionId ↔ a.inner.Current x) ∧
      ∀ x, w.server.cidMap.lookup x ≠ some a.connectionId) := by
  intro w
  have hw : Routing w := run_routing ext cfg ls hl
  have hne {c : ConnCids} {key : ConnectionId} (hc : ConnOk w.trace key c) :
      c.origin.scid.isEmpty = false := by
    obtain ⟨retried, src, h⟩ := hc.created
    exact scid_ne_empty ext cfg ls hcfg hext h
  refine ⟨fun k c hc => ⟨fun x => ?_, fun x => ?_, hw.server.polled k c hc⟩,
    fun h a ha => ⟨fun x => ?_, hw.not_server ha⟩⟩
  · rw [hw.server.routes k c hc x]
    exact routable_iff (hne (hw.server.ok k c hc)) x
  · exact hw.not_shared (Map.mem_iff_lookup.mpr ⟨c, hc⟩) x
  · rw [hw.routes h a ha x]
    exact routable_iff (hne (hw.ok h a ha)) x

end Runs

/-- The ngtcp2 of the samples, which refuses a Retry token without a DCID. -/
def boundExternal : External :=
  { sampleExternal with
    verifyRetryToken := fun token version src dcid ts =>
      if dcid.isEmpty then none else sampleExternal.verifyRetryToken token version src dcid ts }

theorem boundExternal_retryNeedsDcid : boundExternal.RetryNeedsDcid := by
  intro token version src dcid ts h
  by_contra hne
  have hempty : dcid.isEmpty = true := by simpa using hne
  simp [boundExternal, hempty] at h

/-- A client comes back from a Retry with the SCID 7, for its original DCID 5; its connection is
accepted, issues a CID and retires one that it had issued before. Another client comes without a
token, and its connection stays with the server. -/
def sampleBoth : List Label :=
  [.datagram (sampleDatagram
      (sampleInitial (sampleCid 7) (0xb7 :: 3 :: (sampleCid 5).data ++ (sampleCid 7).data)) 3) 0
    { read := { effect := { issued := [sampleCid 8], handshakeCompleted := true } } },
   .removeClosed, .accept (sampleCid 7),
   .op 0 (.recvEvent { effect := { issued := [sampleCid 4], retired := [sampleCid 8] } }),
   .op 0 .sent,
   .datagram (sampleDatagram (sampleInitial (sampleCid 1) []) 1) 0
    { read := { effect := { issued := [sampleCid 3] } }, scid := sampleFill 2 }]

/-- The state behind them. -/
@[irreducible] def sampleBothRun : World :=
  run (World.step boundExternal sampleConfig) (.init sampleConfig) sampleBoth

theorem routing_complete_sample :
    Lawful sampleBothRun.trace ∧
    .created ⟨sampleCid 7, sampleCid 7, sampleCid 5, none⟩ true (sampleAddr 3) ∈ sampleBothRun.trace ∧
    (∃ a ∈ sampleBothRun.accepted.lookup 0, a.connectionId = sampleCid 7 ∧
      ∀ x, sampleBothRun.routes.cidMap.lookup x = some (sampleCid 7) ↔ a.inner.Current x) ∧
    ∃ c ∈ sampleBothRun.server.connections.lookup (sampleCid 2),
      ∀ x, sampleBothRun.server.cidMap.lookup x = some (sampleCid 2) ↔ c.Current x := by
  have hl : Lawful sampleBothRun.trace := by decide +kernel
  have heq : sampleBothRun = run (World.step boundExternal sampleConfig) (.init sampleConfig)
      sampleBoth := by
    unfold sampleBothRun
    rfl
  have hw := routing_complete boundExternal sampleConfig sampleBoth (by decide)
    boundExternal_retryNeedsDcid (by rw [← heq]; exact hl)
  rw [← heq] at hw
  obtain ⟨a, ha, hid⟩ : ∃ a ∈ sampleBothRun.accepted.lookup 0, a.connectionId = sampleCid 7 := by
    decide +kernel
  obtain ⟨c, hc⟩ : ∃ c, sampleBothRun.server.connections.lookup (sampleCid 2) = some c :=
    Option.isSome_iff_exists.mp (by decide +kernel)
  exact ⟨hl, by decide +kernel, ⟨a, ha, hid, hid ▸ (hw.2 0 a ha).1⟩, c, hc, (hw.1 _ c hc).1⟩

end Ngtcp2Rs
