import Ngtcp2Rs.Server.Inputs

/-!
# The Retry exchange

A connection is made from an Initial, and what it advertises from the configuration. Whether it goes
on from a Retry is in the token of its Initial.

* `fromInitial_iff`: one connection, and the Initial whose Retry it goes on from.
* **`retry_exchange_iff`**: the clients and the server agree on every Retry, in any run, if and only
  if no Retry SCID is configured or no connection is made without a Retry.
-/

namespace Ngtcp2Rs

open Lib

/-- A connection of the server, or of a handle. -/
def World.Holds (w : World) (conn : ServerConnection) : Prop :=
  (∃ k, w.server.connections.lookup k = some conn) ∨
    ∃ h a, w.accepted.lookup h = some a ∧ a.inner = conn

/-- What an Initial that creates the connection `o` has to do with those before it, and what the
connection advertises of it. -/
structure FromInitial (ext : External) (cfg : ServerConfig) (earlier : List Received) (r : Received)
    (accepted : AcceptedInitial) (version : QuicVersion) (o : Origin) (p : ParamFields Id) :
    Prop where
  /-- with a Retry token, the connection goes on from the Retry -/
  retry : Server.tokenKind accepted.token = some .retry →
    (∃ r' ∈ earlier,
      r'.Retried ext cfg version r.datagram.src o.scid o.originalDcid accepted.token) ∧
    p.originalDcid = some o.originalDcid ∧ p.retryScid = some o.scid
  /-- without, there was none -/
  plain : Server.tokenKind accepted.token ≠ some .retry →
    o.originalDcid = accepted.dcid ∧ p.originalDcid = some accepted.dcid ∧ p.retryScid = none

/-- What a run makes of the tokens in its Initials. `c` is the configuration of its connections. -/
structure RetryExchange (ext : External) (cfg : ServerConfig) (e : Endian)
    (secret : Option StatelessResetSecret) (c : ConnectionConfig) (ls : List Label) (w : World) :
    Prop where
  /-- with `with_retry`, every connection came with a token that was verified for its address -/
  verified : cfg.retry = true → ∀ o retried src, .created o retried src ∈ w.trace →
    ∃ r ∈ received ext cfg (.init cfg) ls, ∃ accepted version validated,
      ext.acceptInitial r.datagram.data = some accepted ∧
      r.outcome = .created accepted version o validated retried ∧ r.datagram.src = src ∧
      accepted.Verified ext version src r.ts
  /-- a connection goes on from its Retry, if there was one, and tells so -/
  agree : ∀ earlier r later, received ext cfg (.init cfg) ls = earlier ++ r :: later →
    ∀ accepted version o validated retried,
      r.outcome = .created accepted version o validated retried →
      ext.acceptInitial r.datagram.data = some accepted ∧
      FromInitial ext cfg earlier r accepted version o
        ((serverParams e secret cfg.preferredAddr c o retried).fields e)
  /-- a connection has submitted one NEW_TOKEN at most, at the first event that allows it, and only if
  its own token was verified -/
  newToken : ∀ conn, w.Holds conn → ∃ r ∈ received ext cfg (.init cfg) ls,
    ∃ accepted version validated retried,
      r.outcome = .created accepted version conn.origin validated retried ∧
      (validated = true ↔ accepted.Verified ext version r.datagram.src r.ts) ∧
      TokenOnce r.datagram.src validated c.newToken conn.drained
        (conn.tokens r.datagram.src validated c.newToken).submitted

section Exchange

variable {ext : External} {cfg : ServerConfig} {secret : Option StatelessResetSecret} {ls : List Label}

/-- Every connection was made from an Initial. -/
theorem exists_received_of_holds {conn : ServerConnection}
    (h : (run (World.step ext cfg) (.init cfg) ls).Holds conn) :
    ∃ r ∈ received ext cfg (.init cfg) ls, ∃ accepted version validated retried,
      r.outcome = .created accepted version conn.origin validated retried := by
  have hrec := recorded_run ext cfg ls
  obtain ⟨retried, src, hcreated⟩ : ∃ retried src, .created conn.origin retried src ∈
      (run (World.step ext cfg) (.init cfg) ls).trace := by
    rcases h with ⟨k, hc⟩ | ⟨h, a, ha, rfl⟩
    · exact hrec.server.created k conn hc
    · exact hrec.handed h a ha
  obtain ⟨r, hr, accepted, version, validated, houtcome, -⟩ := exists_received_of_created hcreated
  exact ⟨r, hr, accepted, version, validated, retried, houtcome⟩

/-- **One connection and its Retry.** A configured Retry SCID is what goes wrong without a Retry. -/
theorem fromInitial_iff (hminted : RetryTokensMinted ext cfg (received ext cfg (.init cfg) ls))
    (e : Endian) (c : ConnectionConfig) {earlier later : List Received} {r : Received}
    (heq : received ext cfg (.init cfg) ls = earlier ++ r :: later) {accepted : AcceptedInitial}
    {version : QuicVersion} {o : Origin} {validated retried : Bool}
    (houtcome : r.outcome = .created accepted version o validated retried) :
    FromInitial ext cfg earlier r accepted version o
        ((serverParams e secret cfg.preferredAddr c o retried).fields e) ↔
      ((c.transportParams.fields e).retryScid = none ∨
        Server.tokenKind accepted.token = some .retry) := by
  have hmem : r ∈ received ext cfg (.init cfg) ls := by
    rw [heq]
    exact List.mem_append_right _ List.mem_cons_self
  obtain ⟨-, s, hs⟩ := of_mem_received hmem
  obtain ⟨hacc, hversion, hvalid, -, hids⟩ := created_initialOutcome (hs.trans houtcome)
  obtain ⟨hdcid, hretryScid⟩ :=
    @cids_serverParams e secret cfg.preferredAddr c o retried
  have hplain (hkind : Server.tokenKind accepted.token ≠ some .retry)
      (hod : o.originalDcid = accepted.dcid) (hno : retried = false) :
      FromInitial ext cfg earlier r accepted version o
          ((serverParams e secret cfg.preferredAddr c o retried).fields e) ↔
        ((c.transportParams.fields e).retryScid = none ∨
          Server.tokenKind accepted.token = some .retry) := by
    rw [hno, if_neg Bool.false_ne_true] at hretryScid
    constructor
    · intro h
      left
      rw [← hretryScid, ← hno]
      exact (h.plain hkind).2.2
    · rintro (hnone | hk)
      · refine ⟨fun hk => absurd hk hkind, fun _ => ⟨hod, hod ▸ hdcid, ?_⟩⟩
        rw [hno]
        exact hretryScid.trans hnone
      · exact absurd hk hkind
  rcases validate_proceed hvalid with ⟨hkind, -, hod, -, hno⟩ | ⟨hkind, hverify, -, hyes⟩ |
    ⟨hkind, -, hod, -, hno⟩
  · exact hplain (by simp [hkind]) hod hno
  · refine iff_of_true ⟨fun _ => ⟨?_, hdcid, ?_⟩, fun hk => absurd hkind hk⟩ (.inr hkind)
    · obtain ⟨r', hr', ts, hmint⟩ := hminted earlier r later heq _ _ _ hacc hversion hverify
      have hearlier : r' ∈ received ext cfg (.init cfg) ls := by
        rw [heq]
        exact List.mem_append_left _ hr'
      obtain ⟨-, s', hs'⟩ := of_mem_received hearlier
      have hretried := Received.retried_of_mint hs' hmint
      have hscid := scid_chooseIds hids
      rw [hyes, if_pos rfl] at hscid
      rw [← hscid] at hretried
      exact ⟨r', hr', hretried⟩
    · rw [hyes, if_pos rfl] at hretryScid
      rw [hyes]
      exact hretryScid
  · exact hplain (by simp [hkind]) hod hno

/-- With `with_retry`, no connection is made without a token. -/
theorem verified_of_created (hretry : cfg.retry = true) {o : Origin} {retried : Bool} {src : SocketAddr}
    (h : .created o retried src ∈ (run (World.step ext cfg) (.init cfg) ls).trace) :
    ∃ r ∈ received ext cfg (.init cfg) ls, ∃ accepted version validated,
      ext.acceptInitial r.datagram.data = some accepted ∧
      r.outcome = .created accepted version o validated retried ∧ r.datagram.src = src ∧
      accepted.Verified ext version src r.ts := by
  obtain ⟨r, hr, accepted, version, validated, houtcome, rfl⟩ := exists_received_of_created h
  obtain ⟨-, s, hs⟩ := of_mem_received hr
  obtain ⟨hacc, -, hvalid, -, -⟩ := created_initialOutcome (hs.trans houtcome)
  exact ⟨r, hr, accepted, version, validated, hacc, houtcome, rfl,
    (verified_iff_validated hvalid).mp (verified_of_retry hretry hvalid)⟩

/-- The tokens that a connection submitted are in order. -/
theorem tokenOnce_of_holds (newToken : Bool) {conn : ServerConnection}
    (h : (run (World.step ext cfg) (.init cfg) ls).Holds conn) :
    ∃ r ∈ received ext cfg (.init cfg) ls, ∃ accepted version validated retried,
      r.outcome = .created accepted version conn.origin validated retried ∧
      (validated = true ↔ accepted.Verified ext version r.datagram.src r.ts) ∧
      TokenOnce r.datagram.src validated newToken conn.drained
        (conn.tokens r.datagram.src validated newToken).submitted := by
  obtain ⟨r, hr, accepted, version, validated, retried, houtcome⟩ := exists_received_of_holds h
  obtain ⟨-, s, hs⟩ := of_mem_received hr
  obtain ⟨-, -, hvalid, -, -⟩ := created_initialOutcome (hs.trans houtcome)
  exact ⟨r, hr, accepted, version, validated, retried, houtcome, verified_iff_validated hvalid,
    newToken_once r.datagram.src validated newToken conn.drained⟩

/-- **The Retry exchange agrees**, for any clients, replays and tokens, if and only if there is no
Retry SCID in the configuration or every connection goes on from a Retry. -/
theorem retry_exchange_iff (e : Endian) (secret : Option StatelessResetSecret) (c : ConnectionConfig)
    (hminted : RetryTokensMinted ext cfg (received ext cfg (.init cfg) ls)) :
    RetryExchange ext cfg e secret c ls (run (World.step ext cfg) (.init cfg) ls) ↔
      ((c.transportParams.fields e).retryScid = none ∨
        ∀ r ∈ received ext cfg (.init cfg) ls, ∀ accepted version o validated retried,
          r.outcome = .created accepted version o validated retried →
          Server.tokenKind accepted.token = some .retry) := by
  constructor
  · intro h
    rw [Classical.or_iff_not_imp_left]
    intro hset r hr accepted version o validated retried houtcome
    obtain ⟨earlier, later, heq⟩ := List.append_of_mem hr
    have hfrom := (h.agree earlier r later heq _ _ _ _ _ houtcome).2
    exact ((fromInitial_iff hminted e c heq houtcome).mp hfrom).resolve_left hset
  · intro h
    refine ⟨fun hretry o retried src hc => verified_of_created hretry hc,
      fun earlier r later heq accepted version o validated retried houtcome => ?_,
      fun conn hconn => tokenOnce_of_holds c.newToken hconn⟩
    have hr : r ∈ received ext cfg (.init cfg) ls := by
      rw [heq]
      exact List.mem_append_right _ List.mem_cons_self
    obtain ⟨-, s, hs⟩ := of_mem_received hr
    refine ⟨(created_initialOutcome (hs.trans houtcome)).1,
      (fromInitial_iff hminted e c heq houtcome).mpr ?_⟩
    exact h.imp id fun h => h r hr _ _ _ _ _ houtcome

/-- One more Initial, whose Retry token was minted if it verifies. -/
theorem RetryTokensMinted.concat {rs : List Received}
    (h : RetryTokensMinted ext cfg rs) {r : Received} (accepted : AcceptedInitial)
    (hacc : ext.acceptInitial r.datagram.data = some accepted)
    (hlast : ∀ version ∈ QuicVersion.fromU32 accepted.version, ∀ originalDcid ∈
      ext.verifyRetryToken accepted.token version r.datagram.src accepted.dcid r.ts,
      ∃ r' ∈ rs, ∃ ts, r'.mint ext cfg =
        some ⟨version, r.datagram.src, accepted.dcid, originalDcid, ts, accepted.token⟩) :
    RetryTokensMinted ext cfg (rs ++ [r]) := by
  intro earlier r' later heq accepted' version originalDcid hacc' hversion hverify
  rcases split_concat heq with ⟨rfl, rfl, -⟩ | ⟨later, -, rfl⟩
  · cases hacc.symm.trans hacc'
    exact hlast version hversion originalDcid hverify
  · exact h earlier r' later rfl accepted' version originalDcid hacc' hversion hverify

end Exchange

/-- The answers with which ngtcp2 asks for a Retry. -/
def sampleRetryAsked : Answers :=
  { read := { error := some (.ngtcp2 errRetry) }, scid := sampleFill 4, retryScid := sampleFill 2 }

/-- The answers with which a handshake completes. -/
def sampleSubmits : Answers :=
  { read := { effect := { events := [.handshakeCompleted ⟨true, true⟩], handshakeCompleted := true } } }

/-- ngtcp2 asks for a Retry, the client comes back with its token, and its handshake completes.
Another client comes without a token. -/
def sampleExchange : List Label :=
  [.datagram (sampleDatagram (sampleInitial (sampleCid 1) []) 1) 0 sampleRetryAsked,
   .datagram (sampleRetryInitial 1 (sampleCid 2)) 5 sampleSubmits,
   .datagram (sampleDatagram (sampleInitial (sampleCid 3) []) 2) 6 { scid := sampleFill 5 }]

/-- The token of the client. -/
def sampleToken : Bytes := 0xb7 :: 1 :: (sampleCid 1).data ++ (sampleCid 2).data

/-- The connection of the client with the token. -/
def sampleReturned : Origin := ⟨sampleCid 2, sampleCid 2, sampleCid 1, none⟩

/-- The decisions about the three Initials. -/
def sampleDecisions : List Received :=
  [⟨sampleDatagram (sampleInitial (sampleCid 1) []) 1, 0, sampleRetryAsked,
      .retry ⟨1, sampleCid 1, .empty, []⟩ .v1⟩,
   ⟨sampleRetryInitial 1 (sampleCid 2), 5, sampleSubmits,
      .created ⟨1, sampleCid 2, .empty, sampleToken⟩ .v1 sampleReturned true true⟩,
   ⟨sampleDatagram (sampleInitial (sampleCid 3) []) 2, 6, { scid := sampleFill 5 },
      .created ⟨1, sampleCid 3, .empty, []⟩ .v1 ⟨sampleCid 5, sampleCid 5, sampleCid 3, none⟩
        false false⟩]

theorem received_sampleExchange :
    received sampleExternal sampleConfig (.init sampleConfig) sampleExchange = sampleDecisions := by
  have hfirst : (World.init sampleConfig).initialOutcome sampleExternal sampleConfig
      (sampleDatagram (sampleInitial (sampleCid 1) []) 1) 0 sampleRetryAsked =
      some (.retry ⟨1, sampleCid 1, .empty, []⟩ .v1) := by decide +kernel
  have hsecond : ((World.init sampleConfig).step sampleExternal sampleConfig
      (.datagram (sampleDatagram (sampleInitial (sampleCid 1) []) 1) 0 sampleRetryAsked)
      ).initialOutcome sampleExternal sampleConfig (sampleRetryInitial 1 (sampleCid 2)) 5
        sampleSubmits =
      some (.created ⟨1, sampleCid 2, .empty, sampleToken⟩ .v1 sampleReturned true true) := by
    decide +kernel
  have hthird : (((World.init sampleConfig).step sampleExternal sampleConfig
      (.datagram (sampleDatagram (sampleInitial (sampleCid 1) []) 1) 0 sampleRetryAsked)).step
        sampleExternal sampleConfig (.datagram (sampleRetryInitial 1 (sampleCid 2)) 5 sampleSubmits)
      ).initialOutcome sampleExternal sampleConfig
        (sampleDatagram (sampleInitial (sampleCid 3) []) 2) 6 { scid := sampleFill 5 } =
      some (.created ⟨1, sampleCid 3, .empty, []⟩ .v1 ⟨sampleCid 5, sampleCid 5, sampleCid 3, none⟩
        false false) := by decide +kernel
  simp only [sampleExchange, sampleDecisions, received, receivedAt, hfirst, hsecond, hthird,
    Option.map_some, Option.toList_some, List.append_nil, List.singleton_append]

theorem minted_sampleDecisions :
    RetryTokensMinted sampleExternal sampleConfig sampleDecisions := by
  have hnil : RetryTokensMinted sampleExternal sampleConfig [] := by
    intro earlier r later heq
    simp at heq
  refine ((hnil.concat ⟨1, sampleCid 1, .empty, []⟩ (by decide +kernel) ?_).concat
    ⟨1, sampleCid 2, .empty, sampleToken⟩ (by decide +kernel) ?_).concat
    ⟨1, sampleCid 3, .empty, []⟩ (by decide +kernel) ?_
  · intro version _ originalDcid hverify
    cases hverify
  · intro version hversion originalDcid hverify
    have hv1 : QuicVersion.fromU32 1 = some .v1 := by decide
    cases hv1.symm.trans hversion
    have hod : sampleExternal.verifyRetryToken sampleToken .v1 (sampleAddr 1) (sampleCid 2) 5 =
        some (sampleCid 1) := by decide +kernel
    cases hod.symm.trans hverify
    exact ⟨_, List.mem_singleton_self _, 0, rfl⟩
  · intro version _ originalDcid hverify
    cases hverify

/-- The first client agrees with its Retry and gets one token for its next connection; the other one
was not asked for a token and gets none. -/
theorem retry_exchange_iff_sample :
    let w := sampleRun sampleConfig sampleExchange
    RetryExchange sampleExternal sampleConfig .little (some sampleSecret) sampleConnection sampleExchange
      w ∧
    (∃ conn ∈ w.server.connections.lookup (sampleCid 2), conn.origin = sampleReturned ∧
      (conn.tokens (sampleAddr 1) true sampleConnection.newToken).submitted = [sampleAddr 1]) ∧
    sampleCid 5 ∈ w.server.connections := by
  have hminted : RetryTokensMinted sampleExternal sampleConfig
      (received sampleExternal sampleConfig (.init sampleConfig) sampleExchange) :=
    received_sampleExchange ▸ minted_sampleDecisions
  have h := retry_exchange_iff .little (some sampleSecret) sampleConnection hminted
  rw [← sampleRun_eq] at h
  refine ⟨h.mpr (.inl rfl), ?_, ?_⟩
  · decide +kernel
  · decide +kernel

/-- A client that was not asked for a Retry is told of one. -/
theorem retry_told_without_retry :
    RetryTokensMinted (sampleExternal.withSecret (some sampleSecret)) samplePreferred
      (received (sampleExternal.withSecret (some sampleSecret)) samplePreferred
        (.init samplePreferred) sampleArrival) ∧
    ¬ RetryExchange (sampleExternal.withSecret (some sampleSecret)) samplePreferred .little
      (some sampleSecret) sampleMistake sampleArrival
      (run (World.step (sampleExternal.withSecret (some sampleSecret)) samplePreferred)
        (.init samplePreferred) sampleArrival) := by
  have hdatagram {r : Received} (hr : r ∈ received (sampleExternal.withSecret (some sampleSecret))
      samplePreferred (.init samplePreferred) sampleArrival) :
      r.datagram = sampleDatagram (sampleInitial (sampleCid 1) []) 1 := by
    have hlabel := List.mem_singleton.mp (of_mem_received hr).1
    injection hlabel
  have haccepted : (sampleExternal.withSecret (some sampleSecret)).acceptInitial
      (sampleDatagram (sampleInitial (sampleCid 1) []) 1).data =
      some ⟨1, sampleCid 1, .empty, []⟩ := by decide +kernel
  refine ⟨fun earlier r later heq accepted version originalDcid hacc _ hverify => ?_, fun h => ?_⟩
  · have hr := hdatagram (heq ▸ List.mem_append_right earlier List.mem_cons_self)
    rw [hr, haccepted] at hacc
    cases hacc
    cases hverify
  · obtain ⟨r, hr, houtcome⟩ := exists_sampleArrival
    obtain ⟨earlier, later, heq⟩ := List.append_of_mem hr
    have hfrom := (h.agree earlier r later heq _ _ _ _ _ houtcome).2
    have hnone : some (sampleCid 9) = none := (hfrom.plain (by decide)).2.2
    cases hnone

end Ngtcp2Rs
