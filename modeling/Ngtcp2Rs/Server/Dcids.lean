import Ngtcp2Rs.Server.Initials
import Ngtcp2Rs.Server.Recorded

/-!
# DCIDs that clients chose

`ngtcp2_accept` asks for a DCID of eight bytes only if the token field is empty, while
`AddressValidationToken::from_packet` takes a token with an unknown first byte for none. An Initial
with such a token gets past both.

* `client_dcids_sound`: no route of the empty CID, and long DCIDs for connections without a verified
  token, as long as no Initial slips through.
* `empty_dcid_routed`: one that does.
-/

namespace Ngtcp2Rs

open Lib

/-! ## Soundness -/

/-- `ngtcp2_accept` asks for a DCID of eight bytes if there is no token. -/
def External.MinDcid (ext : External) : Prop :=
  ∀ data accepted, ext.acceptInitial data = some accepted → accepted.token = [] →
    8 ≤ accepted.dcid.len

/-- ngtcp2 issues no empty CID. -/
def NonemptyIssued (trace : List Action) : Prop :=
  ∀ key call ans, .called key call ans ∈ trace → .empty ∉ ans.effect.issued

/-- The Initial does not slip through. A token of an unknown kind does not come with a short DCID,
unless it is answered with a Retry; a valid one does not come with the empty DCID, or hold it. -/
def Received.Checked (ext : External) (cfg : ServerConfig) (r : Received) : Prop :=
  ∀ accepted version, ext.acceptInitial r.datagram.data = some accepted →
    QuicVersion.fromU32 accepted.version = some version → accepted.token ≠ [] →
    match Server.tokenKind accepted.token with
    | none => cfg.retry = false → 8 ≤ accepted.dcid.len
    | some .retry => ext.verifyRetryToken accepted.token version r.datagram.src accepted.dcid r.ts ≠
        some .empty
    | some .newToken => ext.verifyNewToken accepted.token r.datagram.src r.ts = true →
        accepted.dcid ≠ .empty

/-- What the DCIDs of clients must not do to the routes. -/
structure DcidsSound (ext : External) (cfg : ServerConfig) (ls : List Label) (w : World) : Prop where
  /-- no route of the empty CID -/
  server : w.server.cidMap.lookup .empty = none
  shared : w.routes.cidMap.lookup .empty = none
  /-- a connection without a verified token has a long original DCID -/
  long : ∀ r ∈ received ext cfg (.init cfg) ls, ∀ accepted version o validated retried,
    r.outcome = .created accepted version o validated retried →
    ¬ accepted.Verified ext version r.datagram.src r.ts → 8 ≤ o.originalDcid.len
  /-- a long header without a DCID is not routed by it -/
  unrouted : ∀ data : Bytes, isLongHeader data = true → data[5]? = some 0 →
    resolveDcid w.server.cidMap w.server.shortCidLengths data = none ∧
      resolveDcid w.routes.cidMap w.routes.shortCidLengths data = none

section Sound

variable {ext : External} {cfg : ServerConfig}

theorem ConnectionId.ne_empty_of_len {c : ConnectionId} (h : 0 < c.len) : c ≠ .empty := by
  rintro rfl
  exact absurd h (by decide)

theorem preferredAddrCid_ne_empty {accepted : AcceptedInitial} {originalDcid : ConnectionId}
    {retried : Bool} {ans : Answers} {o : Origin}
    (h : Server.chooseIds ext cfg accepted originalDcid retried ans = some o) :
    o.preferredAddrCid ≠ some .empty := by
  unfold Server.chooseIds at h
  split at h
  · cases h
  · split at h
    · cases h
    · cases h
      simp only
      split
      · simp
      · intro hp
        have hrandom := (Option.filter_eq_some_iff.mp hp).1
        have hlen : ConnectionId.empty.len = _ := ConnectionId.len_random hrandom
        unfold ConnectionId.random at hrandom
        split_ifs at hrandom with hbound
        exact hbound (.inl (by rw [← hlen]; decide))

/-- A connection that an Initial creates, if it does not slip through. -/
theorem Received.Checked.created {r : Received} (hr : r.Checked ext cfg) (hmin : ext.MinDcid)
    {s : Server}
    (hs : s.initialOutcome ext cfg r.datagram.data r.datagram.src r.ts r.ans = r.outcome)
    {accepted : AcceptedInitial} {version : QuicVersion} {o : Origin} {validated retried : Bool}
    (h : r.outcome = .created accepted version o validated retried) :
    .empty ∉ o.cids ∧
      (¬ accepted.Verified ext version r.datagram.src r.ts → 8 ≤ o.originalDcid.len) := by
  obtain ⟨hacc, hversion, hvalid, -, hids⟩ := created_initialOutcome (hs.trans h)
  have hchecked := hr accepted version hacc hversion
  have hod : o.originalDcid ≠ .empty ∧
      (¬ accepted.Verified ext version r.datagram.src r.ts → 8 ≤ o.originalDcid.len) := by
    unfold AcceptedInitial.Verified
    rcases validate_proceed hvalid with ⟨hkind, hretry, hdcid, -, -⟩ | ⟨hkind, hverify, -, -⟩ |
      ⟨hkind, hverify, hdcid, -, -⟩
    · have hlen : 8 ≤ o.originalDcid.len := by
        rw [hdcid]
        by_cases htoken : accepted.token = []
        · exact hmin _ accepted hacc htoken
        · have hchecked := hchecked htoken
          rw [hkind] at hchecked
          exact hchecked hretry
      exact ⟨ConnectionId.ne_empty_of_len (by omega), fun _ => hlen⟩
    all_goals
      have htoken : accepted.token ≠ [] := by
        intro htoken
        rw [htoken] at hkind
        cases hkind
      have hchecked := hchecked htoken
      rw [hkind] at hchecked
      rw [hkind]
    · refine ⟨fun he => hchecked (hverify.trans (congrArg some he)), fun hno => absurd ?_ hno⟩
      simp only [hverify, Option.isSome_some]
    · exact ⟨hdcid ▸ hchecked hverify, fun hno => absurd hverify hno⟩
  refine ⟨fun hmem => ?_, hod.2⟩
  rcases List.mem_append.mp hmem with hmem | hmem
  · split at hmem
    · cases hmem
    · rename_i hscid
      exact hscid (ConnectionId.isEmpty_iff.mpr (List.mem_singleton.mp hmem).symm)
  rcases List.mem_cons.mp hmem with hmem | hmem
  · exact hod.1 hmem.symm
  · exact preferredAddrCid_ne_empty hids (Option.mem_toList.mp hmem)

/-- **DCIDs that clients chose.** As long as no Initial slips through, no table routes the empty CID,
and a connection without a verified token has an original DCID of eight bytes at least. -/
theorem client_dcids_sound (hmin : ext.MinDcid) (ls : List Label)
    (hissued : NonemptyIssued (run (World.step ext cfg) (.init cfg) ls).trace)
    (hchecked : ∀ r ∈ received ext cfg (.init cfg) ls, r.Checked ext cfg) :
    DcidsSound ext cfg ls (run (World.step ext cfg) (.init cfg) ls) := by
  have hrec := recorded_run ext cfg ls
  have hgot : ¬ Got (run (World.step ext cfg) (.init cfg) ls).trace .empty := by
    rintro (⟨o, retried, src, hmem, hx⟩ | ⟨key, call, ans, hmem, hx⟩)
    · obtain ⟨r, hr, accepted, version, validated, houtcome, -⟩ := exists_received_of_created hmem
      obtain ⟨-, s, hs⟩ := of_mem_received hr
      exact ((hchecked r hr).created hmin hs houtcome).1 hx
    · exact hissued key call ans hmem hx
  have hserver : (run (World.step ext cfg) (.init cfg) ls).server.cidMap.lookup .empty = none :=
    Option.eq_none_iff_forall_ne_some.mpr fun k hk => hgot (hrec.server.routed _ k hk)
  have hshared : (run (World.step ext cfg) (.init cfg) ls).routes.cidMap.lookup .empty = none :=
    Option.eq_none_iff_forall_ne_some.mpr fun k hk => hgot (hrec.shared _ k hk)
  refine ⟨hserver, hshared, fun r hr accepted version o validated retried houtcome => ?_,
    fun data hlong hlen => ?_⟩
  · obtain ⟨-, s, hs⟩ := of_mem_received hr
    exact ((hchecked r hr).created hmin hs houtcome).2
  · have hdcid : longDcid data = some .empty := by
      have hlt : 5 < data.length := (List.getElem?_eq_some_iff.mp hlen).1
      unfold longDcid
      rw [hlen]
      simp only
      have hzero : (0 : UInt8).toNat = 0 := rfl
      rw [hzero, if_neg (by omega)]
      rfl
    rw [resolveDcid_long hlong, resolveDcid_long hlong, hdcid]
    exact ⟨hserver, hshared⟩

end Sound

/-! ## An Initial that slips through -/

/-- ngtcp2 on packets with DCIDs of any length and empty SCIDs. -/
def anyDcidExternal : External :=
  { sampleExternal with
    acceptInitial := fun data =>
      (longDcid data).bind fun dcid =>
        let token := (data.drop (8 + dcid.len)).take (data[7 + dcid.len]?.map UInt8.toNat |>.getD 0)
        if data.length < 1200 ∨ token = [] ∧ dcid.len < 8 then none
        else some ⟨1, dcid, .empty, token⟩ }

theorem anyDcidExternal_minDcid : anyDcidExternal.MinDcid := by
  intro data accepted h htoken
  obtain ⟨dcid, -, h⟩ := Option.bind_eq_some_iff.mp h
  simp only at h
  split_ifs at h with hdrop
  cases h
  by_contra hshort
  exact hdrop (.inr ⟨htoken, Nat.lt_of_not_le hshort⟩)

/-- An Initial with an empty DCID and the given token. -/
def emptyDcidInitial (token : Bytes) : Bytes :=
  [0xc3, 0, 0, 0, 1, 0, 0, .ofNat token.length] ++ token ++ List.replicate 1200 0

/-- The state of the server after some labels. -/
@[irreducible] def anyDcidRun (ls : List Label) : World :=
  run (World.step anyDcidExternal sampleConfig) (.init sampleConfig) ls

theorem anyDcidRun_eq (ls : List Label) : anyDcidRun ls =
    run (World.step anyDcidExternal sampleConfig) (.init sampleConfig) ls := by
  unfold anyDcidRun
  rfl

theorem nonemptyIssued_of_all {trace : List Action}
    (h : trace.all fun
      | .called _ _ ans => !ans.effect.issued.contains .empty
      | _ => true) : NonemptyIssued trace := by
  intro key call ans hmem hempty
  have hcall := List.all_eq_true.mp h _ hmem
  simp only [List.contains_iff_mem.mpr hempty] at hcall
  cases hcall

/-- The Initials of three clients: without a token, with one of an unknown kind, and with that of a
Retry. -/
def sampleInitials : List Label :=
  [.datagram (sampleDatagram (sampleInitial (sampleCid 1) []) 1) 0 { scid := sampleFill 2 },
   .datagram (sampleDatagram (sampleInitial (sampleCid 3) [1]) 2) 0 { scid := sampleFill 4 },
   .datagram (sampleDatagram
    (sampleInitial (sampleCid 6) (0xb7 :: 3 :: (sampleCid 5).data ++ (sampleCid 6).data)) 3) 0 {}]

/-- All three get a connection, the last one under the SCID of its Retry. -/
theorem client_dcids_sound_sample : anyDcidExternal.MinDcid ∧
    (anyDcidRun sampleInitials).server.cidMap.lookup (sampleCid 1) = some (sampleCid 2) ∧
    (anyDcidRun sampleInitials).server.cidMap.lookup (sampleCid 3) = some (sampleCid 4) ∧
    (anyDcidRun sampleInitials).server.cidMap.lookup (sampleCid 5) = some (sampleCid 6) ∧
    DcidsSound anyDcidExternal sampleConfig sampleInitials (anyDcidRun sampleInitials) := by
  have hplain : anyDcidExternal.acceptInitial (sampleInitial (sampleCid 1) []) =
      some ⟨1, sampleCid 1, .empty, []⟩ := by decide +kernel
  have hunknown : anyDcidExternal.acceptInitial (sampleInitial (sampleCid 3) [1]) =
      some ⟨1, sampleCid 3, .empty, [1]⟩ := by decide +kernel
  have hretry : anyDcidExternal.acceptInitial
      (sampleInitial (sampleCid 6) (0xb7 :: 3 :: (sampleCid 5).data ++ (sampleCid 6).data)) =
      some ⟨1, sampleCid 6, .empty, 0xb7 :: 3 :: (sampleCid 5).data ++ (sampleCid 6).data⟩ := by
    decide +kernel
  refine ⟨anyDcidExternal_minDcid, by decide +kernel, by decide +kernel, by decide +kernel, ?_⟩
  have hissued : NonemptyIssued (anyDcidRun sampleInitials).trace :=
    nonemptyIssued_of_all (by decide +kernel)
  rw [anyDcidRun_eq] at hissued ⊢
  refine client_dcids_sound anyDcidExternal_minDcid _ hissued
    fun r hr accepted version hacc hversion htoken => ?_
  obtain ⟨d, ts, ans, outcome⟩ := r
  have hlabel := (of_mem_received hr).1
  simp only [sampleInitials, List.mem_cons, List.not_mem_nil, or_false, Label.datagram.injEq] at hlabel
  rcases hlabel with ⟨rfl, -, -⟩ | ⟨rfl, -, -⟩ | ⟨rfl, rfl, -⟩
  · cases hplain.symm.trans hacc
    exact absurd rfl htoken
  · cases hunknown.symm.trans hacc
    exact fun _ => by decide
  · cases hretry.symm.trans hacc
    have hv1 : QuicVersion.fromU32 1 = some .v1 := by decide
    cases hv1.symm.trans hversion
    have hverify : anyDcidExternal.verifyRetryToken
        (0xb7 :: 3 :: (sampleCid 5).data ++ (sampleCid 6).data) .v1 (sampleAddr 3) (sampleCid 6) 0 ≠
        some .empty := by decide +kernel
    exact hverify

/-- An Initial with an empty DCID and a token of an unknown kind. -/
def sampleSlip : List Label :=
  [.datagram (sampleDatagram (emptyDcidInitial [1]) 1) 0 { scid := sampleFill 2 }]

/-- **An empty DCID is routed.** The token starts with a byte of no known kind: `ngtcp2_accept` sees
a token and lets the empty DCID pass, and the server sees none. A datagram from elsewhere, with an
empty DCID too, goes to the connection. -/
theorem empty_dcid_routed : anyDcidExternal.MinDcid ∧
    NonemptyIssued (anyDcidRun sampleSlip).trace ∧
    (anyDcidRun sampleSlip).server.cidMap.lookup .empty = some (sampleCid 2) ∧
    (anyDcidRun sampleSlip).server.existingKey (emptyDcidInitial []) (sampleAddr 9) =
      some (sampleCid 2) ∧
    ¬ DcidsSound anyDcidExternal sampleConfig sampleSlip (anyDcidRun sampleSlip) := by
  have hrouted : (anyDcidRun sampleSlip).server.cidMap.lookup .empty = some (sampleCid 2) := by
    decide +kernel
  refine ⟨anyDcidExternal_minDcid, nonemptyIssued_of_all (by decide +kernel), hrouted,
    by decide +kernel, fun h => ?_⟩
  cases hrouted.symm.trans h.server

end Ngtcp2Rs
