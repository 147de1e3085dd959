import Ngtcp2Rs.Server.Initials
import Ngtcp2Rs.Server.Recorded
import Ngtcp2Rs.Server.Takeover

/-!
# Retry and NEW_TOKEN

The server keeps nothing between the Initial that gets a Retry and the one that comes back with its
token; what the second one makes of the first is in the token.

* `RetryTokensMinted`: a Retry token that verifies was minted in the same run.
* `Received.retried_of_mint`: the Initial it was minted for, and the packet it went out in.
* `newToken_once`: a connection submits one NEW_TOKEN at most, when its handshake completes, and
  exactly if its address was validated and tokens are enabled.
-/

namespace Ngtcp2Rs

open Lib

/-! ## Retry tokens -/

/-- A call of `generate_retry_token`, and the token it gave. -/
structure MintedToken where
  version : QuicVersion
  dst : SocketAddr
  scid : ConnectionId
  originalDcid : ConnectionId
  ts : ℕ
  token : Bytes

/-- The token of a Retry. -/
def Server.mintRetry (ext : External) (cfg : ServerConfig) (accepted : AcceptedInitial)
    (version : QuicVersion) (dst : SocketAddr) (ts : ℕ) (ans : Answers) : Option MintedToken :=
  (Server.generateScid (max cfg.scidLen 8) ans.retryScid).bind fun scid =>
    (ext.generateRetryToken version dst scid accepted.dcid ts).map fun token =>
      ⟨version, dst, scid, accepted.dcid, ts, token⟩

/-- The token that was minted for an Initial, if it was answered with a Retry. -/
def Received.mint (ext : External) (cfg : ServerConfig) (r : Received) : Option MintedToken :=
  match r.outcome with
  | .retry accepted version =>
    Server.mintRetry ext cfg accepted version r.datagram.src r.ts r.ans
  | _ => none

/-- A Retry token in an Initial verifies only if it was minted before, for its version, address and
DCID; the DCID that comes out is the one that was put in. -/
def RetryTokensMinted (ext : External) (cfg : ServerConfig) (rs : List Received) : Prop :=
  ∀ earlier r later, rs = earlier ++ r :: later → ∀ accepted version originalDcid,
    ext.acceptInitial r.datagram.data = some accepted →
    QuicVersion.fromU32 accepted.version = some version →
    ext.verifyRetryToken accepted.token version r.datagram.src accepted.dcid r.ts =
      some originalDcid →
    ∃ r' ∈ earlier, ∃ ts, r'.mint ext cfg =
      some ⟨version, r.datagram.src, accepted.dcid, originalDcid, ts, accepted.token⟩

/-- The Initial came from `src` with the DCID `dcid`, and was answered with a Retry with the given
SCID and token. -/
structure Received.Retried (ext : External) (cfg : ServerConfig) (r : Received)
    (version : QuicVersion) (src : SocketAddr) (scid dcid : ConnectionId) (token : Bytes) :
    Prop where
  src_eq : r.datagram.src = src
  initial : ∃ accepted, ext.acceptInitial r.datagram.data = some accepted ∧
    accepted.dcid = dcid ∧ r.outcome = .retry accepted version
  packet : ∀ s : Server, s.carryOut ext cfg r.datagram.src r.ts r.ans r.outcome =
    if r.ans.retryWritten then s.record (.retry scid dcid version src r.ts token) else s

/-! ## NEW_TOKEN -/

/-- The fields of a connection that NEW_TOKEN depends on. `submitted` is not in the program: the
addresses of the tokens that ngtcp2 took. -/
structure NewTokenState where
  remoteAddr : SocketAddr
  addressValidated : Bool
  /-- there is a secret for tokens -/
  newTokenSecret : Bool
  newTokenSubmitted : Bool := false
  submitted : List SocketAddr := []

namespace NewTokenState

/-- Submit a token, unless that was done. -/
def submitNewToken (c : NewTokenState) (ans : SubmitAnswer) : NewTokenState :=
  if c.newTokenSubmitted || !c.addressValidated then c
  else if !c.newTokenSecret then c
  else if !ans.generated then c
  else if ans.taken then
    { c with newTokenSubmitted := true, submitted := c.submitted ++ [c.remoteAddr] }
  else c

/-- One event of `drain_events`. -/
def drainEvent (c : NewTokenState) : ConnectionEvent → NewTokenState
  | .handshakeCompleted submit => c.submitNewToken submit
  | .pathValidated remote true => { c with remoteAddr := remote }
  | _ => c

/-- `drain_events`, as often as it was called. -/
def drainEvents (c : NewTokenState) (events : List ConnectionEvent) : NewTokenState :=
  events.foldl drainEvent c

/-- A new connection. -/
def new (src : SocketAddr) (validated newToken : Bool) : NewTokenState where
  remoteAddr := src
  addressValidated := validated
  newTokenSecret := newToken

end NewTokenState

/-- The event at which a token can be submitted, and nothing outside fails. -/
def ConnectionEvent.submits : ConnectionEvent → Bool
  | handshakeCompleted submit => submit.generated && submit.taken
  | _ => false

/-- The address that a connection from `src` sends to after some events. -/
def remoteAfter (src : SocketAddr) (events : List ConnectionEvent) : SocketAddr :=
  events.foldl (fun addr event =>
    match event with
    | .pathValidated remote true => remote
    | _ => addr) src

/-- The tokens that a connection from `src` submits over some events: none, unless its address was
validated and tokens are enabled; then one at the first event that allows it, for the address of that
moment. -/
structure TokenOnce (src : SocketAddr) (validated newToken : Bool) (events : List ConnectionEvent)
    (submitted : List SocketAddr) : Prop where
  once : submitted.length ≤ 1
  permitted : submitted ≠ [] ↔
    validated = true ∧ newToken = true ∧ ∃ event ∈ events, event.submits = true
  addr : ∀ a ∈ submitted, ∃ before event after, events = before ++ event :: after ∧
    (∀ e ∈ before, e.submits = false) ∧ event.submits = true ∧ a = remoteAfter src before

/-- What one event keeps, for `newToken_once`. -/
structure NewTokenState.Inv (src : SocketAddr) (validated newToken : Bool)
    (events : List ConnectionEvent) (c : NewTokenState) : Prop where
  validated_eq : c.addressValidated = validated
  secret_eq : c.newTokenSecret = newToken
  done_iff : c.newTokenSubmitted = true ↔ c.submitted ≠ []
  remote : c.remoteAddr = remoteAfter src events
  tokens : TokenOnce src validated newToken events c.submitted

section NewToken

variable {src : SocketAddr} {validated newToken : Bool} {events : List ConnectionEvent}
  {submitted : List SocketAddr} {c : NewTokenState}

theorem remoteAfter_validated (src remote : SocketAddr) (events : List ConnectionEvent) :
    remoteAfter src (events ++ [.pathValidated remote true]) = remote := by
  rw [remoteAfter, List.foldl_append]
  rfl

theorem remoteAfter_concat (src : SocketAddr) (events : List ConnectionEvent) {event : ConnectionEvent}
    (h : ∀ remote, event ≠ .pathValidated remote true) :
    remoteAfter src (events ++ [event]) = remoteAfter src events := by
  rw [remoteAfter, List.foldl_append]
  cases event with
  | pathValidated remote success =>
    cases success with
    | true => exact absurd rfl (h remote)
    | false => rfl
  | _ => rfl

/-- An event that submits nothing. -/
theorem TokenOnce.keep (h : TokenOnce src validated newToken events submitted)
    {event : ConnectionEvent}
    (hidle : submitted = [] → validated = true → newToken = true → event.submits = false) :
    TokenOnce src validated newToken (events ++ [event]) submitted where
  once := h.once
  permitted := by
    constructor
    · intro hne
      obtain ⟨hv, hn, e, he, hs⟩ := h.permitted.mp hne
      exact ⟨hv, hn, e, List.mem_append_left _ he, hs⟩
    · rintro ⟨hv, hn, e, he, hs⟩ hnil
      rcases List.mem_append.mp he with he | he
      · exact h.permitted.mpr ⟨hv, hn, e, he, hs⟩ hnil
      · rw [List.mem_singleton.mp he, hidle hnil hv hn] at hs
        cases hs
  addr a ha := by
    obtain ⟨before, e, after, rfl, hrest⟩ := h.addr a ha
    exact ⟨before, e, after ++ [event], by simp, hrest⟩

/-- An event that submits the token. -/
theorem TokenOnce.submit (h : TokenOnce src true true events []) {event : ConnectionEvent}
    (hs : event.submits = true) :
    TokenOnce src true true (events ++ [event]) [remoteAfter src events] where
  once := le_refl 1
  permitted := iff_of_true (List.cons_ne_nil _ _) ⟨rfl, rfl, event, by simp, hs⟩
  addr a ha := by
    refine ⟨events, event, [], rfl, fun e he => Bool.eq_false_iff.mpr fun hs' => ?_, hs,
      List.mem_singleton.mp ha⟩
    exact h.permitted.mpr ⟨rfl, rfl, e, he, hs'⟩ rfl

theorem NewTokenState.Inv.drainEvent (h : c.Inv src validated newToken events)
    (event : ConnectionEvent) :
    (c.drainEvent event).Inv src validated newToken (events ++ [event]) := by
  have hkeep (hremote : ∀ remote, event ≠ .pathValidated remote true)
      (hidle : c.submitted = [] → validated = true → newToken = true → event.submits = false) :
      c.Inv src validated newToken (events ++ [event]) :=
    ⟨h.validated_eq, h.secret_eq, h.done_iff,
      h.remote.trans (remoteAfter_concat src events hremote).symm, h.tokens.keep hidle⟩
  cases event with
  | connectionClosed | other => exact hkeep (by simp) fun _ _ _ => rfl
  | pathValidated remote success =>
    cases success with
    | false => exact hkeep (by simp) fun _ _ _ => rfl
    | true =>
      exact ⟨h.validated_eq, h.secret_eq, h.done_iff, (remoteAfter_validated src remote events).symm,
        h.tokens.keep fun _ _ _ => rfl⟩
  | handshakeCompleted submit =>
    have hkeep := hkeep (by simp)
    change (c.submitNewToken submit).Inv _ _ _ _
    unfold NewTokenState.submitNewToken
    split_ifs with hdone hsecret hgen htaken
    · refine hkeep fun hnil hv _ => ?_
      rw [h.validated_eq, hv, Bool.not_true, Bool.or_false] at hdone
      exact absurd hnil (h.done_iff.mp hdone)
    · refine hkeep fun _ _ hn => ?_
      rw [h.secret_eq, hn] at hsecret
      cases hsecret
    · have hno : submit.generated = false := by simpa using hgen
      exact hkeep fun _ _ _ => by rw [ConnectionEvent.submits, hno, Bool.false_and]
    · -- the token is submitted: it is the first one
      have hnil : c.submitted = [] := by
        by_contra hne
        exact hdone (by rw [h.done_iff.mpr hne, Bool.true_or])
      have hv : validated = true := by
        rw [← h.validated_eq]
        simp only [Bool.or_eq_true, Bool.not_eq_true', not_or, Bool.not_eq_false] at hdone
        exact hdone.2
      have hn : newToken = true := by
        rw [← h.secret_eq]
        simpa using hsecret
      have htokens := h.tokens
      rw [hnil, hv, hn] at htokens
      refine ⟨h.validated_eq, h.secret_eq, iff_of_true rfl (by simp),
        h.remote.trans (remoteAfter_concat src events (by simp)).symm, ?_⟩
      change TokenOnce src validated newToken _ (c.submitted ++ [c.remoteAddr])
      rw [hnil, List.nil_append, h.remote, hv, hn]
      have hyes : submit.generated = true := by simpa using hgen
      exact htokens.submit (by rw [ConnectionEvent.submits, hyes, htaken]; rfl)
    · exact hkeep fun _ _ _ => by
        rw [ConnectionEvent.submits, Bool.eq_false_iff.mpr htaken, Bool.and_false]

theorem NewTokenState.Inv.drainEvents (more : List ConnectionEvent) :
    ∀ {events : List ConnectionEvent} {c : NewTokenState}, c.Inv src validated newToken events →
      (c.drainEvents more).Inv src validated newToken (events ++ more) := by
  induction more with
  | nil =>
    intro events c h
    rw [List.append_nil]
    exact h
  | cons event more ih =>
    intro events c h
    have hrest := ih (h.drainEvent event)
    rw [List.append_assoc] at hrest
    exact hrest

/-- **One NEW_TOKEN for each connection**, when the handshake completes, if its address was validated
and tokens are enabled. -/
theorem newToken_once (src : SocketAddr) (validated newToken : Bool)
    (events : List ConnectionEvent) :
    TokenOnce src validated newToken events
      ((NewTokenState.new src validated newToken).drainEvents events).submitted := by
  have hnew : (NewTokenState.new src validated newToken).Inv src validated newToken [] :=
    ⟨rfl, rfl, by simp [NewTokenState.new], rfl, by simp [NewTokenState.new], by
      simp [NewTokenState.new], fun a ha => by cases ha⟩
  exact (hnew.drainEvents events).tokens

end NewToken

/-- The fields of a connection that NEW_TOKEN depends on: they are set when it is created, and only
`drain_events` touches them afterwards. -/
def ServerConnection.tokens (c : ServerConnection) (src : SocketAddr) (validated newToken : Bool) :
    NewTokenState :=
  (NewTokenState.new src validated newToken).drainEvents c.drained

/-! ## What the tokens say -/

section Exchange

variable {ext : External} {cfg : ServerConfig} {accepted : AcceptedInitial} {version : QuicVersion}
  {src : SocketAddr} {ts : ℕ} {originalDcid : ConnectionId} {validated retried : Bool}

/-- The flag `validated` says that the token was verified. -/
theorem verified_iff_validated
    (h : Server.validate ext cfg accepted version src ts =
      .proceed originalDcid validated retried) :
    validated = true ↔ accepted.Verified ext version src ts := by
  unfold AcceptedInitial.Verified
  rcases validate_proceed h with ⟨hkind, -, -, rfl, -⟩ | ⟨hkind, hverify, rfl, -⟩ |
    ⟨hkind, hverify, -, rfl, -⟩
  · simp [hkind]
  · simp [hkind, hverify]
  · simp [hkind, hverify]

theorem verified_of_retry (hretry : cfg.retry = true)
    (h : Server.validate ext cfg accepted version src ts =
      .proceed originalDcid validated retried) : validated = true := by
  rcases validate_proceed h with ⟨-, hno, -⟩ | ⟨-, -, rfl, -⟩ | ⟨-, -, -, rfl, -⟩
  · cases hretry.symm.trans hno
  · rfl
  · rfl

theorem mintRetry_eq_some {dst : SocketAddr} {ans : Answers} {m : MintedToken}
    (h : Server.mintRetry ext cfg accepted version dst ts ans = some m) :
    m.version = version ∧ m.dst = dst ∧ m.originalDcid = accepted.dcid ∧ m.ts = ts ∧
      Server.generateScid (max cfg.scidLen 8) ans.retryScid = some m.scid ∧
      ext.generateRetryToken version dst m.scid accepted.dcid ts = some m.token := by
  obtain ⟨scid, hscid, h⟩ := Option.bind_eq_some_iff.mp h
  obtain ⟨token, htoken, rfl⟩ := Option.map_eq_some_iff.mp h
  exact ⟨rfl, rfl, rfl, rfl, hscid, htoken⟩

/-- The Retry packet has the SCID and the token that were minted for it. -/
theorem sendRetry_eq {dst : SocketAddr} {ans : Answers} {m : MintedToken} (s : Server)
    (h : Server.mintRetry ext cfg accepted version dst ts ans = some m) :
    s.sendRetry ext cfg accepted version dst ts ans =
      if ans.retryWritten then
        s.record (.retry m.scid accepted.dcid version dst ts m.token)
      else s := by
  obtain ⟨-, -, -, -, hscid, htoken⟩ := mintRetry_eq_some h
  unfold Server.sendRetry
  simp only [hscid, htoken]

/-- A token was minted for an Initial that was answered with a Retry. -/
theorem Received.retried_of_mint {r : Received} {s : Server} {m : MintedToken}
    (hs : s.initialOutcome ext cfg r.datagram.data r.datagram.src r.ts r.ans = r.outcome)
    (h : r.mint ext cfg = some m) :
    r.Retried ext cfg m.version m.dst m.scid m.originalDcid m.token := by
  unfold Received.mint at h
  split at h
  · rename_i accepted version houtcome
    obtain ⟨hversion, hdst, hdcid, -, -, -⟩ := mintRetry_eq_some h
    have hacc := (retry_initialOutcome (hs.trans houtcome)).1
    refine ⟨hdst.symm, ⟨accepted, hacc, hdcid.symm, by rw [hversion, houtcome]⟩, fun s => ?_⟩
    rw [houtcome, hversion, hdst, hdcid]
    exact sendRetry_eq s h
  · cases h

end Exchange

end Ngtcp2Rs
