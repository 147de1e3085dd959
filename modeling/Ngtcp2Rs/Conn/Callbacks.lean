import Ngtcp2Rs.Conn.InFlight
import Ngtcp2Rs.Lib.Run

/-!
# Callbacks and their queues

ngtcp2 calls back into `ngtcp2/src/conn.rs` while a packet is read or written. The callbacks cannot
reach the application, so they leave what happened in the queues of `ConnectionUserData`, and the
`poll_*` methods take it out. `Connection` is a connection seen from its callbacks; it also keeps,
not in the program, the callbacks that returned and what was polled.

* `queues_fifo`: nothing that a callback left is lost, repeated or reordered.
* `rejection_reported`: a rejection of early data is reported once, before the end of the handshake.
-/

namespace Ngtcp2Rs

open Lib

/-! ## Events and callbacks -/

/-- The events of `ngtcp2/src/event.rs`. -/
inductive Core.ConnectionEvent where
  | handshakeCompleted
  | handshakeConfirmed
  | earlyDataRejected
  | streamOpened (id : StreamId)
  | streamData (id : StreamId) (data : Bytes) (fin : Bool)
  | streamClosed (id : StreamId) (rxAppErrorCode txAppErrorCode : Option ℕ)
  | streamReset (id : StreamId) (finalSize appErrorCode : ℕ)
  | streamStopSending (id : StreamId) (appErrorCode : ℕ)
  | streamMaxData (id : StreamId) (maxData : ℕ)
  | maxStreamsBidi (maxStreams : ℕ)
  | maxStreamsUni (maxStreams : ℕ)
  | datagram (data : Bytes)
  | statelessResetReceived
  | pathValidated (path : PathInfo) (success : Bool)
  deriving DecidableEq, Repr

/-- A pointer and a length, as C passes them. -/
inductive CBuffer where
  | null (len : ℕ)
  | valid (bytes : Bytes)
  deriving DecidableEq, Repr

/-- Copy a buffer; a null pointer has a copy only if its length is zero. -/
def CBuffer.copy : CBuffer → Option Bytes
  | null len => if 0 < len then none else some []
  | valid bytes => some bytes

/-- `NGTCP2_STREAM_DATA_FLAG_FIN`. -/
def streamDataFlagFin : UInt32 := 1
/-- `NGTCP2_STREAM_CLOSE2_FLAG_RX_APP_ERROR_CODE_SET`. -/
def streamClose2FlagRx : UInt32 := 1
/-- `NGTCP2_STREAM_CLOSE2_FLAG_TX_APP_ERROR_CODE_SET`. -/
def streamClose2FlagTx : UInt32 := 2

/-- A Stateless Reset token, of `STATELESS_RESET_TOKEN_LEN` bytes. -/
abbrev StatelessResetToken : Type := List.Vector UInt8 16

/-- The secret of the Stateless Reset tokens, as the derivation that it keys. -/
abbrev StatelessResetSecret : Type := ConnectionId → Option StatelessResetToken

/-- A callback with its arguments. The pointer to the user data is never null. -/
inductive Callback where
  /-- `ssl` is null, or says whether the early data was accepted -/
  | handshakeCompleted (ssl : Option Bool)
  | tlsEarlyDataRejected
  | handshakeConfirmed
  | streamOpen (id : StreamId)
  | streamClose (flags : UInt32) (id : StreamId) (rxAppErrorCode txAppErrorCode : ℕ)
  | streamReset (id : StreamId) (finalSize appErrorCode : ℕ)
  | recvStopSending (id : StreamId) (appErrorCode : ℕ)
  | extendMaxStreamData (id : StreamId) (maxData : ℕ)
  | extendMaxLocalStreamsBidi (maxStreams : ℕ)
  | extendMaxLocalStreamsUni (maxStreams : ℕ)
  | recvStreamData (flags : UInt32) (id : StreamId) (data : CBuffer)
  | recvNewToken (token : CBuffer)
  | ackedStreamDataOffset (id : StreamId) (offset datalen : ℕ)
  | recvDatagram (data : CBuffer)
  | recvStatelessReset
  /-- `cid` is null, or the bytes of a connection ID -/
  | removeConnectionId (cid : Option Bytes)
  /-- `path` is `none` when its addresses cannot be read -/
  | pathValidation (path : Option PathInfo) (success : Bool)
  /-- the random generator answers for the CID and for the token -/
  | getNewConnectionId (cidlen : ℕ) (cid : Option (List.Vector UInt8 cidlen))
      (token : Option StatelessResetToken)
  | qlogWrite (data : CBuffer)
  deriving DecidableEq

/-- What was left in the queues of a connection. -/
@[ext] structure Left where
  events : List Core.ConnectionEvent := []
  issuedCids : List ConnectionId := []
  retiredCids : List ConnectionId := []
  newTokens : List Bytes := []
  qlogData : Bytes := []
  deriving DecidableEq

namespace Left

instance : Append Left where
  append a b :=
    ⟨a.events ++ b.events, a.issuedCids ++ b.issuedCids, a.retiredCids ++ b.retiredCids,
      a.newTokens ++ b.newTokens, a.qlogData ++ b.qlogData⟩

variable (a b c : Left)

@[simp] theorem append_events : (a ++ b).events = a.events ++ b.events := rfl
@[simp] theorem append_issuedCids : (a ++ b).issuedCids = a.issuedCids ++ b.issuedCids := rfl
@[simp] theorem append_retiredCids : (a ++ b).retiredCids = a.retiredCids ++ b.retiredCids := rfl
@[simp] theorem append_newTokens : (a ++ b).newTokens = a.newTokens ++ b.newTokens := rfl
@[simp] theorem append_qlogData : (a ++ b).qlogData = a.qlogData ++ b.qlogData := rfl

@[simp] theorem append_empty : a ++ ({} : Left) = a := by
  apply Left.ext <;> simp

theorem append_assoc : a ++ b ++ c = a ++ (b ++ c) := by
  apply Left.ext <;> simp

end Left

/-! ## The user data -/

/-- What `get_new_connection_id` answers, `none` for `NGTCP2_ERR_CALLBACK_FAILURE`. The token is
derived from the CID if there is a secret, and random otherwise. -/
def newConnectionId (secret : Option StatelessResetSecret) {cidlen : ℕ}
    (cid : Option (List.Vector UInt8 cidlen)) (token : Option StatelessResetToken) :
    Option (Bytes × StatelessResetToken) :=
  match cid with
  | none => none
  | some bytes =>
    match ConnectionId.new bytes.toList with
    | none => token.map fun t => (bytes.toList, t)
    | some issued =>
      match secret.bind fun derive => derive issued with
      | some derived => some (bytes.toList, derived)
      | none => token.map fun t => (bytes.toList, t)

/-- The state behind the callbacks. -/
structure UserData extends ConnectionUserData, Left where
  statelessResetSecret : Option StatelessResetSecret := none
  earlyDataAttempted : Bool := false

namespace UserData

/-- No callback yet. -/
def new : UserData := { ConnectionUserData.new with }

/-- Queue an event. -/
def pushEvent (u : UserData) (e : Core.ConnectionEvent) : UserData := { u with events := u.events ++ [e] }

/-- A stream is closed: its data in flight is released. -/
def streamClose (u : UserData) (flags : UInt32) (id : StreamId)
    (rxAppErrorCode txAppErrorCode : ℕ) : UserData :=
  let u := { u with toConnectionUserData := u.toConnectionUserData.closedStream id }
  let rx := if flags &&& streamClose2FlagRx ≠ 0 then some rxAppErrorCode else none
  let tx := if flags &&& streamClose2FlagTx ≠ 0 then some txAppErrorCode else none
  u.pushEvent (.streamClosed id rx tx)

/-- `get_new_connection_id`: the CID is recorded unless the callback fails. -/
def getNewConnectionId (u : UserData) (cidlen : ℕ) (cid : Option (List.Vector UInt8 cidlen))
    (token : Option StatelessResetToken) : UserData :=
  match newConnectionId u.statelessResetSecret cid token with
  | none => u
  | some (bytes, _) =>
    match ConnectionId.new bytes with
    | none => u
    | some issued => { u with issuedCids := u.issuedCids ++ [issued] }

/-- The callbacks. `none` is a panic in the bookkeeping of acknowledged data. -/
def callback (u : UserData) : Callback → Option UserData
  | .handshakeCompleted _ => some (u.pushEvent .handshakeCompleted)
  | .tlsEarlyDataRejected => some (u.pushEvent .earlyDataRejected)
  | .handshakeConfirmed => some (u.pushEvent .handshakeConfirmed)
  | .streamOpen id => some (u.pushEvent (.streamOpened id))
  | .streamClose flags id rx tx => some (u.streamClose flags id rx tx)
  | .streamReset id finalSize code => some (u.pushEvent (.streamReset id finalSize code))
  | .recvStopSending id code => some (u.pushEvent (.streamStopSending id code))
  | .extendMaxStreamData id maxData => some (u.pushEvent (.streamMaxData id maxData))
  | .extendMaxLocalStreamsBidi n => some (u.pushEvent (.maxStreamsBidi n))
  | .extendMaxLocalStreamsUni n => some (u.pushEvent (.maxStreamsUni n))
  | .recvStreamData flags id data =>
    match data.copy with
    | none => some u
    | some copied => some (u.pushEvent (.streamData id copied (flags &&& streamDataFlagFin ≠ 0)))
  | .recvNewToken token =>
    match token.copy with
    | none => some u
    | some copied => some { u with newTokens := u.newTokens ++ [copied] }
  | .ackedStreamDataOffset id offset datalen => do
    let acked ← u.toConnectionUserData.ackedStreamData id offset datalen
    some { u with toConnectionUserData := acked }
  | .recvDatagram data =>
    match data.copy with
    | none => some u
    | some copied => some (u.pushEvent (.datagram copied))
  | .recvStatelessReset => some (u.pushEvent .statelessResetReceived)
  | .removeConnectionId cid =>
    match cid.bind ConnectionId.new with
    | none => some u
    | some cid => some { u with retiredCids := u.retiredCids ++ [cid] }
  | .pathValidation path success =>
    match path with
    | none => some u
    | some path => some (u.pushEvent (.pathValidated path success))
  | .getNewConnectionId cidlen cid token => some (u.getNewConnectionId cidlen cid token)
  | .qlogWrite data =>
    match data with
    | .null _ => some u
    | .valid bytes => some { u with qlogData := u.qlogData ++ bytes }

end UserData

/-! ## Connections -/

/-- A connection, as its callbacks see it. `earlyDataRejected` is ngtcp2's flag. Not in the program:
`returned` are the callbacks that returned, `polled` is what was taken out of the queues. -/
structure Connection where
  userData : UserData := .new
  earlyDataRejected : Bool := false
  returned : List Callback := []
  polled : Left := {}

/-- What happens on a connection: a callback, or a poll. -/
inductive ConnOp where
  | callback (c : Callback)
  | pollEvent
  | pollIssuedCids
  | pollRetiredCids
  | takeNewToken
  | pollQlogData
  deriving DecidableEq

namespace Connection

/-- ngtcp2 calls back. -/
def callback (c : Connection) (cb : Callback) : Option Connection := do
  let u ← c.userData.callback cb
  some { c with userData := u, returned := c.returned ++ [cb] }

/-- `ngtcp2_conn_tls_early_data_rejected`: ngtcp2 discards its early data, and calls back if
`callsBack` says so. -/
def tlsEarlyDataRejected (callsBack : Connection → Bool) (c : Connection) : Option Connection :=
  let discarded := { c with earlyDataRejected := true }
  if callsBack c then discarded.callback .tlsEarlyDataRejected else some discarded

/-- `handshake_completed`: a rejection that TLS has not reported yet is reported first. -/
def handshakeCompleted (callsBack : Connection → Bool) (c : Connection) (ssl : Option Bool) :
    Option Connection :=
  if c.userData.earlyDataAttempted ∧ ssl ≠ some true then do
    let c ← c.tlsEarlyDataRejected callsBack
    c.callback (.handshakeCompleted ssl)
  else c.callback (.handshakeCompleted ssl)

/-- `poll_event`. -/
def pollEvent (c : Connection) : Option Core.ConnectionEvent × Connection :=
  match c.userData.events with
  | [] => (none, c)
  | e :: events =>
    (some e, { c with
      userData := { c.userData with events }
      polled := { c.polled with events := c.polled.events ++ [e] } })

/-- `take_new_token`. -/
def takeNewToken (c : Connection) : Option Bytes × Connection :=
  match c.userData.newTokens with
  | [] => (none, c)
  | token :: newTokens =>
    (some token, { c with
      userData := { c.userData with newTokens }
      polled := { c.polled with newTokens := c.polled.newTokens ++ [token] } })

/-- `poll_issued_cids`. -/
def pollIssuedCids (c : Connection) : List ConnectionId × Connection :=
  (c.userData.issuedCids, { c with
    userData := { c.userData with issuedCids := [] }
    polled := { c.polled with issuedCids := c.polled.issuedCids ++ c.userData.issuedCids } })

/-- `poll_retired_cids`. -/
def pollRetiredCids (c : Connection) : List ConnectionId × Connection :=
  (c.userData.retiredCids, { c with
    userData := { c.userData with retiredCids := [] }
    polled := { c.polled with retiredCids := c.polled.retiredCids ++ c.userData.retiredCids } })

/-- `poll_qlog_data`. -/
def pollQlogData (c : Connection) : Option Bytes × Connection :=
  if c.userData.qlogData.isEmpty then (none, c)
  else
    (some c.userData.qlogData, { c with
      userData := { c.userData with qlogData := [] }
      polled := { c.polled with qlogData := c.polled.qlogData ++ c.userData.qlogData } })

/-- One callback or one poll. TLS reports a rejection through ngtcp2. -/
def step (callsBack : Connection → Bool) (c : Connection) : ConnOp → Option Connection
  | .callback .tlsEarlyDataRejected => c.tlsEarlyDataRejected callsBack
  | .callback (.handshakeCompleted ssl) => c.handshakeCompleted callsBack ssl
  | .callback cb => c.callback cb
  | .pollEvent => some c.pollEvent.2
  | .pollIssuedCids => some c.pollIssuedCids.2
  | .pollRetiredCids => some c.pollRetiredCids.2
  | .takeNewToken => some c.takeNewToken.2
  | .pollQlogData => some c.pollQlogData.2

end Connection

/-! ## What a callback says -/

/-- What a callback stands for, in the queue that it belongs to. -/
def Callback.left (secret : Option StatelessResetSecret) : Callback → Left
  | handshakeCompleted _ => { events := [.handshakeCompleted] }
  | tlsEarlyDataRejected => { events := [.earlyDataRejected] }
  | handshakeConfirmed => { events := [.handshakeConfirmed] }
  | streamOpen id => { events := [.streamOpened id] }
  | streamClose flags id rx tx =>
    { events := [.streamClosed id (if flags &&& streamClose2FlagRx ≠ 0 then some rx else none)
        (if flags &&& streamClose2FlagTx ≠ 0 then some tx else none)] }
  | streamReset id finalSize code => { events := [.streamReset id finalSize code] }
  | recvStopSending id code => { events := [.streamStopSending id code] }
  | extendMaxStreamData id maxData => { events := [.streamMaxData id maxData] }
  | extendMaxLocalStreamsBidi n => { events := [.maxStreamsBidi n] }
  | extendMaxLocalStreamsUni n => { events := [.maxStreamsUni n] }
  | recvStreamData flags id data =>
    { events := (data.copy.map fun bytes =>
        .streamData id bytes (flags &&& streamDataFlagFin ≠ 0)).toList }
  | recvNewToken token => { newTokens := token.copy.toList }
  | ackedStreamDataOffset .. => {}
  | recvDatagram data => { events := (data.copy.map .datagram).toList }
  | recvStatelessReset => { events := [.statelessResetReceived] }
  | removeConnectionId cid => { retiredCids := (cid.bind ConnectionId.new).toList }
  | pathValidation path success =>
    { events := (path.map fun path => .pathValidated path success).toList }
  | getNewConnectionId _ cid token =>
    { issuedCids :=
        ((newConnectionId secret cid token).bind fun r => ConnectionId.new r.1).toList }
  | qlogWrite (.null _) => {}
  | qlogWrite (.valid bytes) => { qlogData := bytes }

/-- What a list of callbacks stands for. -/
def leftBy (secret : Option StatelessResetSecret) (cbs : List Callback) : Left :=
  (cbs.map (Callback.left secret)).foldl (· ++ ·) {}

theorem leftBy_concat (secret : Option StatelessResetSecret) (cbs : List Callback) (cb : Callback) :
    leftBy secret (cbs ++ [cb]) = leftBy secret cbs ++ cb.left secret := by
  simp [leftBy]

theorem UserData.toLeft_pushEvent (u : UserData) (e : Core.ConnectionEvent) :
    (u.pushEvent e).toLeft = u.toLeft ++ { events := [e] } := by
  apply Left.ext <;> simp [pushEvent]

/-- **What a callback does to the queues**, and what it leaves alone. -/
theorem UserData.callback_left {u u' : UserData} {cb : Callback} (h : u.callback cb = some u') :
    u'.toLeft = u.toLeft ++ cb.left u.statelessResetSecret ∧
      u'.statelessResetSecret = u.statelessResetSecret ∧
      u'.earlyDataAttempted = u.earlyDataAttempted := by
  cases cb with
  | handshakeCompleted | tlsEarlyDataRejected | handshakeConfirmed | streamOpen | streamReset
  | recvStopSending | extendMaxStreamData | extendMaxLocalStreamsBidi | extendMaxLocalStreamsUni
  | recvStatelessReset =>
    cases h
    exact ⟨u.toLeft_pushEvent _, rfl, rfl⟩
  | streamClose flags id rx tx =>
    cases h
    exact ⟨toLeft_pushEvent { u with toConnectionUserData := u.closedStream id } _, rfl, rfl⟩
  | recvStreamData flags id data =>
    simp only [callback] at h
    cases hd : data.copy with
    | none =>
      rw [hd] at h
      cases h
      exact ⟨by simp [Callback.left, hd], rfl, rfl⟩
    | some bytes =>
      rw [hd] at h
      cases h
      exact ⟨by simpa [Callback.left, hd] using u.toLeft_pushEvent _, rfl, rfl⟩
  | recvDatagram data =>
    simp only [callback] at h
    cases hd : data.copy with
    | none =>
      rw [hd] at h
      cases h
      exact ⟨by simp [Callback.left, hd], rfl, rfl⟩
    | some bytes =>
      rw [hd] at h
      cases h
      exact ⟨by simpa [Callback.left, hd] using u.toLeft_pushEvent _, rfl, rfl⟩
  | pathValidation path success =>
    cases path with
    | none =>
      cases h
      exact ⟨by simp [Callback.left], rfl, rfl⟩
    | some path =>
      cases h
      exact ⟨u.toLeft_pushEvent _, rfl, rfl⟩
  | recvNewToken token =>
    simp only [callback] at h
    cases hd : token.copy with
    | none =>
      rw [hd] at h
      cases h
      exact ⟨by simp [Callback.left, hd], rfl, rfl⟩
    | some bytes =>
      rw [hd] at h
      cases h
      refine ⟨?_, rfl, rfl⟩
      apply Left.ext <;> simp [Callback.left, hd]
  | ackedStreamDataOffset id offset datalen =>
    obtain ⟨acked, -, hu⟩ := Option.bind_eq_some_iff.mp h
    cases hu
    exact ⟨by simp [Callback.left], rfl, rfl⟩
  | removeConnectionId cid =>
    simp only [callback] at h
    cases hc : cid.bind ConnectionId.new with
    | none =>
      rw [hc] at h
      cases h
      exact ⟨by simp [Callback.left, hc], rfl, rfl⟩
    | some cid =>
      rw [hc] at h
      cases h
      refine ⟨?_, rfl, rfl⟩
      apply Left.ext <;> simp [Callback.left, hc]
  | getNewConnectionId cidlen cid token =>
    cases h
    rw [getNewConnectionId]
    cases hn : newConnectionId u.statelessResetSecret cid token with
    | none => exact ⟨by simp [Callback.left, hn], rfl, rfl⟩
    | some r =>
      cases hi : ConnectionId.new r.1 with
      | none => exact ⟨by simp [Callback.left, hn, hi], by simp [hi], by simp [hi]⟩
      | some issued =>
        refine ⟨?_, by simp [hi], by simp [hi]⟩
        apply Left.ext <;> simp [Callback.left, hn, hi]
  | qlogWrite data =>
    cases data with
    | null len =>
      cases h
      exact ⟨by simp [Callback.left], rfl, rfl⟩
    | valid bytes =>
      cases h
      refine ⟨?_, rfl, rfl⟩
      apply Left.ext <;> simp [Callback.left]

/-! ## Queues over whole runs -/

namespace Connection

/-- What was polled, and then what is still queued, is what the callbacks said, in order. -/
def Fifo (c : Connection) : Prop :=
  c.polled ++ c.userData.toLeft = leftBy c.userData.statelessResetSecret c.returned

variable {c c' : Connection} {callsBack : Connection → Bool}

theorem Fifo.callback {cb : Callback} (h : c.Fifo) (hc : c.callback cb = some c') : c'.Fifo := by
  obtain ⟨u, hu, hc⟩ := Option.bind_eq_some_iff.mp hc
  cases hc
  obtain ⟨hleft, hsecret, -⟩ := UserData.callback_left hu
  simp only [Fifo]
  rw [hsecret, leftBy_concat, ← h, hleft, Left.append_assoc]

/-- A poll moves the front of a queue. -/
theorem Fifo.poll {u : UserData} {polled : Left} (h : c.Fifo)
    (hsecret : u.statelessResetSecret = c.userData.statelessResetSecret)
    (hmoved : polled ++ u.toLeft = c.polled ++ c.userData.toLeft) :
    ({ c with userData := u, polled } : Connection).Fifo := by
  simp only [Fifo]
  rw [hsecret, hmoved]
  exact h

theorem Fifo.tlsEarlyDataRejected (h : c.Fifo) (hc : c.tlsEarlyDataRejected callsBack = some c') :
    c'.Fifo := by
  simp only [Connection.tlsEarlyDataRejected] at hc
  split at hc
  · exact Fifo.callback (c := { c with earlyDataRejected := true }) h hc
  · cases hc
    exact h

theorem Fifo.step (h : c.Fifo) {op : ConnOp} (hc : c.step callsBack op = some c') : c'.Fifo := by
  cases op with
  | callback cb =>
    cases cb with
    | tlsEarlyDataRejected => exact h.tlsEarlyDataRejected hc
    | handshakeCompleted ssl =>
      simp only [Connection.step, handshakeCompleted] at hc
      split at hc
      · obtain ⟨c₁, h₁, hc⟩ := Option.bind_eq_some_iff.mp hc
        exact (h.tlsEarlyDataRejected h₁).callback hc
      · exact h.callback hc
    | _ => exact h.callback hc
  | pollEvent =>
    cases hc
    unfold pollEvent
    split
    · exact h
    · rename_i e events he
      refine h.poll rfl ?_
      apply Left.ext <;> simp [he]
  | takeNewToken =>
    cases hc
    unfold takeNewToken
    split
    · exact h
    · rename_i token newTokens ht
      refine h.poll rfl ?_
      apply Left.ext <;> simp [ht]
  | pollIssuedCids =>
    cases hc
    refine h.poll rfl ?_
    apply Left.ext <;> simp
  | pollRetiredCids =>
    cases hc
    refine h.poll rfl ?_
    apply Left.ext <;> simp
  | pollQlogData =>
    cases hc
    unfold pollQlogData
    split
    · exact h
    · refine h.poll rfl ?_
      apply Left.ext <;> simp

/-- A connection that was just made. -/
def init (secret : Option StatelessResetSecret) (attempted : Bool) : Connection :=
  { userData := { UserData.new with
      statelessResetSecret := secret, earlyDataAttempted := attempted } }

end Connection

/-- **The queues are first in, first out.** In every run of callbacks and polls, in any order, what
was polled from each queue followed by what is still in it is what the callbacks that returned stand
for: no event, CID, token or byte of the log is lost, repeated or reordered. -/
theorem queues_fifo (callsBack : Connection → Bool) (secret : Option StatelessResetSecret)
    (attempted : Bool) (ops : List ConnOp) (c : Connection)
    (h : exec (Connection.step callsBack) (.init secret attempted) ops = some c) :
    c.polled ++ c.userData.toLeft = leftBy c.userData.statelessResetSecret c.returned := by
  have h₀ : (Connection.init secret attempted).Fifo := rfl
  exact exec_keeps (I := Connection.Fifo) (fun _ _ _ hs _ hstep => hs.step hstep) ops _ c h₀
    (legalExec_true ops _) h

/-- Data that ends a stream, and a CID that is retired; one event is polled in between. -/
def mixedOps : List ConnOp :=
  [.callback (.streamOpen 0), .callback (.recvStreamData 1 0 (.valid [7, 8])), .pollEvent,
    .callback (.removeConnectionId (some [1, 2]))]

/-- ngtcp2 calls back when it is told of a rejection for the first time. -/
def sampleCallsBack (c : Connection) : Bool := !c.earlyDataRejected

theorem queues_fifo_mixed :
    ∃ c, exec (Connection.step sampleCallsBack) (.init none false) mixedOps = some c ∧
      c.polled.events = [.streamOpened 0] ∧ c.userData.events = [.streamData 0 [7, 8] true] ∧
      c.polled ++ c.userData.toLeft = leftBy c.userData.statelessResetSecret c.returned :=
  ⟨_, rfl, rfl, rfl, queues_fifo sampleCallsBack none false mixedOps _ rfl⟩

/-! ## Rejected early data -/

/-- The callbacks that neither complete the handshake nor reject early data. -/
def Callback.Quiet : Callback → Prop
  | handshakeCompleted _ | tlsEarlyDataRejected => False
  | _ => True

theorem Callback.Quiet.events {cb : Callback} (h : cb.Quiet) (secret : Option StatelessResetSecret) :
    .handshakeCompleted ∉ (cb.left secret).events ∧ .earlyDataRejected ∉ (cb.left secret).events := by
  cases cb with
  | handshakeCompleted | tlsEarlyDataRejected => exact h.elim
  | qlogWrite data => cases data <;> simp [left]
  | _ => simp [left]

/-- A pair in order is in the first part, or its second element is in the second. -/
theorem pair_sublist_append {α : Type} {a b : α} {l l' : List α}
    (h : List.Sublist [a, b] (l ++ l')) : List.Sublist [a, b] l ∨ b ∈ l' := by
  obtain ⟨l₁, l₂, heq, h₁, h₂⟩ := List.sublist_append_iff.mp h
  obtain _ | ⟨x, _ | ⟨y, t⟩⟩ := l₁
  · exact .inr (h₂.subset (by rw [← List.nil_append l₂, ← heq]; simp))
  · obtain ⟨-, rfl⟩ := List.cons_eq_cons.mp heq
    exact .inr (h₂.subset (by simp))
  · obtain ⟨rfl, rfl, ht⟩ : a = x ∧ b = y ∧ t ++ l₂ = [] := by simpa using heq
    rw [(List.append_eq_nil_iff.mp ht).1] at h₁
    exact .inl h₁

theorem mem_of_pair_sublist_concat {α : Type} {a b : α} {l : List α}
    (h : List.Sublist [a, b] (l ++ [b])) : a ∈ l := by
  obtain ⟨l₁, l₂, heq, h₁, h₂⟩ := List.sublist_append_iff.mp h
  obtain _ | ⟨x, t⟩ := l₁
  · rw [List.nil_append] at heq
    rw [← heq] at h₂
    exact absurd h₂.length_le (by simp)
  · obtain ⟨rfl, -⟩ := List.cons_eq_cons.mp heq
    exact h₁.subset List.mem_cons_self

namespace Connection

/-- The events so far, polled or not. -/
def happened (c : Connection) : List Core.ConnectionEvent := c.polled.events ++ c.userData.events

/-- The handshake was reported as completed. -/
def completed (c : Connection) : Prop := .handshakeCompleted ∈ c.happened

/-- What ngtcp2 keeps to: the handshake completes once, and TLS reports a rejection before that. -/
def Legal (c : Connection) : ConnOp → Prop
  | .callback (.handshakeCompleted _) | .callback .tlsEarlyDataRejected => ¬ c.completed
  | _ => True

/-- `ngtcp2_conn_tls_early_data_rejected` calls back the first time, and not after that. -/
structure CallsBackOnce (callsBack : Connection → Bool) : Prop where
  first : ∀ c : Connection, c.earlyDataRejected = false → callsBack c = true
  again : ∀ c : Connection, c.earlyDataRejected = true → callsBack c = false

/-- The early data was rejected by one of the operations: TLS said so, or the handshake completed
and TLS had not accepted what was attempted. -/
def RejectedBy (attempted : Bool) (ops : List ConnOp) : Prop :=
  .callback .tlsEarlyDataRejected ∈ ops ∨
    attempted = true ∧ ∃ ssl, .callback (.handshakeCompleted ssl) ∈ ops ∧ ssl ≠ some true

/-- The order of the two events about early data. -/
structure Ordered (c : Connection) : Prop where
  count : c.happened.count .earlyDataRejected = if c.earlyDataRejected then 1 else 0
  once : c.happened.count .handshakeCompleted ≤ 1
  order : ¬ List.Sublist [.handshakeCompleted, .earlyDataRejected] c.happened

/-- What the operations so far say about the two events. -/
structure Reported (attempted : Bool) (c : Connection) (ops : List ConnOp) : Prop extends Ordered c where
  rejected : c.earlyDataRejected = true ↔ RejectedBy attempted ops
  completed : c.completed ↔ ∃ ssl, .callback (.handshakeCompleted ssl) ∈ ops
  attempted_eq : c.userData.earlyDataAttempted = attempted

variable {c c' : Connection} {cb : Callback} {callsBack : Connection → Bool} {attempted : Bool}
  {ops : List ConnOp}

/-- What a callback adds to the history. -/
theorem callback_adds (h : c.callback cb = some c') :
    c'.happened = c.happened ++ (cb.left c.userData.statelessResetSecret).events ∧
      c'.earlyDataRejected = c.earlyDataRejected ∧
      c'.userData.earlyDataAttempted = c.userData.earlyDataAttempted := by
  obtain ⟨u, hu, hc⟩ := Option.bind_eq_some_iff.mp h
  cases hc
  obtain ⟨hleft, -, hattempted⟩ := UserData.callback_left hu
  have hevents := congrArg Left.events hleft
  refine ⟨?_, rfl, hattempted⟩
  simp only [happened, List.append_assoc]
  rw [hevents]
  rfl

/-- What a rejection adds to the history: the event, unless it is there. -/
theorem rejection_adds (honce : CallsBackOnce callsBack)
    (h : c.tlsEarlyDataRejected callsBack = some c') :
    c'.happened = c.happened ++ (if c.earlyDataRejected then [] else [.earlyDataRejected]) ∧
      c'.earlyDataRejected = true ∧
      c'.userData.earlyDataAttempted = c.userData.earlyDataAttempted := by
  simp only [Connection.tlsEarlyDataRejected] at h
  cases hflag : c.earlyDataRejected with
  | true =>
    rw [honce.again c hflag, if_neg Bool.false_ne_true] at h
    cases h
    exact ⟨(List.append_nil _).symm, rfl, rfl⟩
  | false =>
    rw [honce.first c hflag, if_pos rfl] at h
    exact callback_adds h

/-- Before the handshake completes, a rejection is in order. -/
theorem Ordered.reject (h : c.Ordered) (hn : ¬ c.completed) (honce : CallsBackOnce callsBack)
    (hc : c.tlsEarlyDataRejected callsBack = some c') : c'.Ordered ∧ ¬ c'.completed := by
  obtain ⟨hhappened, hflag', -⟩ := rejection_adds honce hc
  have hhc : .handshakeCompleted ∉ c.happened := hn
  cases hflag : c.earlyDataRejected with
  | true =>
    rw [hflag, if_pos rfl, List.append_nil] at hhappened
    refine ⟨⟨?_, hhappened ▸ h.once, hhappened ▸ h.order⟩, by rwa [completed, hhappened]⟩
    rw [hhappened, hflag', h.count, hflag]
  | false =>
    rw [hflag, if_neg Bool.false_ne_true] at hhappened
    refine ⟨⟨?_, ?_, ?_⟩, ?_⟩
    · rw [hhappened, List.count_append, h.count, hflag, hflag']
      rfl
    · rw [hhappened, List.count_append]
      exact h.once
    · intro hsub
      rw [hhappened] at hsub
      exact hhc (mem_of_pair_sublist_concat hsub)
    · rw [completed, hhappened]
      simpa using hhc

/-- The end of the handshake is in order if it is the first. -/
theorem Ordered.complete {ssl : Option Bool} (h : c.Ordered) (hn : ¬ c.completed)
    (hc : c.callback (.handshakeCompleted ssl) = some c') : c'.Ordered ∧ c'.completed := by
  obtain ⟨hhappened, hflag, -⟩ := callback_adds hc
  have hhc : .handshakeCompleted ∉ c.happened := hn
  replace hhappened : c'.happened = c.happened ++ [.handshakeCompleted] := hhappened
  refine ⟨⟨?_, ?_, ?_⟩, ?_⟩
  · rw [hhappened, hflag, List.count_append, h.count]
    rfl
  · rw [hhappened, List.count_append, List.count_eq_zero.mpr hhc]
    exact le_rfl
  · intro hsub
    rw [hhappened] at hsub
    rcases pair_sublist_append hsub with hsub | hmem
    · exact h.order hsub
    · simp at hmem
  · rw [completed, hhappened]
    simp

/-- An operation that neither completes the handshake nor rejects early data. -/
theorem Reported.quiet (h : c.Reported attempted ops) {op : ConnOp}
    (hop : ∀ cb, op = .callback cb → cb.Quiet) {more : List Core.ConnectionEvent}
    (hhappened : c'.happened = c.happened ++ more)
    (hmore : .handshakeCompleted ∉ more ∧ .earlyDataRejected ∉ more)
    (hflag : c'.earlyDataRejected = c.earlyDataRejected)
    (hattempted : c'.userData.earlyDataAttempted = c.userData.earlyDataAttempted) :
    c'.Reported attempted (ops ++ [op]) := by
  have hops (cb : Callback) (hcb : ¬ cb.Quiet) :
      .callback cb ∈ ops ++ [op] ↔ .callback cb ∈ ops := by
    rw [List.mem_append, List.mem_singleton, or_iff_left]
    exact fun heq => hcb (hop cb heq.symm)
  have hends (ssl : Option Bool) : .callback (.handshakeCompleted ssl) ∈ ops ++ [op] ↔
      .callback (.handshakeCompleted ssl) ∈ ops := hops _ fun hq => hq
  refine ⟨⟨?_, ?_, ?_⟩, ?_, ?_, hattempted.trans h.attempted_eq⟩
  · rw [hhappened, hflag, List.count_append, List.count_eq_zero.mpr hmore.2]
    exact h.count
  · rw [hhappened, List.count_append, List.count_eq_zero.mpr hmore.1]
    exact h.once
  · intro hsub
    rw [hhappened] at hsub
    rcases pair_sublist_append hsub with hsub | hmem
    · exact h.order hsub
    · exact hmore.2 hmem
  · rw [hflag, h.rejected, RejectedBy, RejectedBy, hops .tlsEarlyDataRejected fun hq => hq]
    simp only [hends]
  · rw [Connection.completed, hhappened, List.mem_append, or_iff_left hmore.1]
    simp only [hends]
    exact h.completed

/-- TLS reports a rejection. -/
theorem Reported.reject (h : c.Reported attempted ops) (hn : ¬ c.completed)
    (honce : CallsBackOnce callsBack) (hc : c.tlsEarlyDataRejected callsBack = some c') :
    c'.Reported attempted (ops ++ [.callback .tlsEarlyDataRejected]) := by
  obtain ⟨-, hflag, hattempted⟩ := rejection_adds honce hc
  obtain ⟨hordered, hn'⟩ := h.toOrdered.reject hn honce hc
  refine ⟨hordered, iff_of_true hflag (.inl (by simp)), iff_of_false hn' ?_,
    hattempted.trans h.attempted_eq⟩
  rintro ⟨ssl, hmem⟩
  exact hn (h.completed.mpr ⟨ssl, by simpa using hmem⟩)

/-- The handshake completes, and what was attempted is rejected unless TLS accepted it. -/
theorem Reported.complete (h : c.Reported attempted ops) (hn : ¬ c.completed) {ssl : Option Bool}
    (honce : CallsBackOnce callsBack) (hc : c.handshakeCompleted callsBack ssl = some c') :
    c'.Reported attempted (ops ++ [.callback (.handshakeCompleted ssl)]) := by
  unfold Connection.handshakeCompleted at hc
  rw [h.attempted_eq] at hc
  split at hc
  · rename_i hlate
    obtain ⟨c₁, h₁, hc⟩ := Option.bind_eq_some_iff.mp hc
    obtain ⟨-, hflag₁, hattempted₁⟩ := rejection_adds honce h₁
    obtain ⟨hordered₁, hn₁⟩ := h.toOrdered.reject hn honce h₁
    obtain ⟨-, hflag, hattempted⟩ := callback_adds hc
    obtain ⟨hordered, hdone⟩ := hordered₁.complete hn₁ hc
    exact ⟨hordered,
      iff_of_true (hflag.trans hflag₁) (.inr ⟨hlate.1, ssl, by simp, hlate.2⟩),
      iff_of_true hdone ⟨ssl, by simp⟩, (hattempted.trans hattempted₁).trans h.attempted_eq⟩
  · rename_i hearly
    obtain ⟨-, hflag, hattempted⟩ := callback_adds hc
    obtain ⟨hordered, hdone⟩ := h.toOrdered.complete hn hc
    refine ⟨hordered, ?_, iff_of_true hdone ⟨ssl, by simp⟩, hattempted.trans h.attempted_eq⟩
    rw [hflag, h.rejected, RejectedBy, RejectedBy]
    constructor
    · exact Or.imp (List.mem_append_left _) fun ⟨ha, s, hs, hne⟩ => ⟨ha, s, List.mem_append_left _ hs, hne⟩
    · rintro (hmem | ⟨ha, s, hmem, hne⟩)
      · exact .inl (by simpa using hmem)
      · rcases List.mem_append.mp hmem with hmem | hmem
        · exact .inr ⟨ha, s, hmem, hne⟩
        · obtain rfl : s = ssl := by simpa using hmem
          exact absurd ⟨ha, hne⟩ hearly

/-- A poll does not change what happened. -/
theorem Reported.poll {op : ConnOp} {u : UserData} {polled : Left} (h : c.Reported attempted ops)
    (hop : ∀ cb, op ≠ .callback cb)
    (hattempted : u.earlyDataAttempted = c.userData.earlyDataAttempted)
    (hmoved : polled.events ++ u.events = c.happened) :
    ({ c with userData := u, polled } : Connection).Reported attempted (ops ++ [op]) :=
  h.quiet (fun cb hcb => absurd hcb (hop cb)) (hmoved.trans (List.append_nil _).symm) (by simp) rfl
    hattempted

theorem Reported.step (honce : CallsBackOnce callsBack) {op : ConnOp} (h : c.Reported attempted ops)
    (hl : c.Legal op) (hc : c.step callsBack op = some c') : c'.Reported attempted (ops ++ [op]) := by
  cases op with
  | callback cb =>
    cases cb with
    | tlsEarlyDataRejected => exact h.reject hl honce hc
    | handshakeCompleted ssl => exact h.complete hl honce hc
    | _ =>
      obtain ⟨hhappened, hflag, hattempted⟩ := callback_adds hc
      refine h.quiet ?_ hhappened (Callback.Quiet.events ?_ _) hflag hattempted
      · rintro _ ⟨⟩
        trivial
      · trivial
  | pollEvent =>
    cases hc
    unfold pollEvent
    split
    · exact h.poll (by simp) rfl rfl
    · rename_i e events he
      exact h.poll (by simp) rfl (by simp [happened, he])
  | takeNewToken =>
    cases hc
    unfold takeNewToken
    split <;> exact h.poll (by simp) rfl rfl
  | pollIssuedCids =>
    cases hc
    exact h.poll (by simp) rfl rfl
  | pollRetiredCids =>
    cases hc
    exact h.poll (by simp) rfl rfl
  | pollQlogData =>
    cases hc
    unfold pollQlogData
    split <;> exact h.poll (by simp) rfl rfl

end Connection

/-- **A rejection of early data is reported once, and before the end of the handshake.** In every
run in which ngtcp2 completes the handshake at most once and TLS reports a rejection before that:
the event is there, once, exactly if TLS reported a rejection or the handshake completed and TLS had
not accepted the early data that was attempted; and the handshake is not reported twice, nor a
rejection behind it. -/
theorem rejection_reported {callsBack : Connection → Bool} (honce : Connection.CallsBackOnce callsBack)
    (secret : Option StatelessResetSecret) (attempted : Bool) (ops : List ConnOp) (c : Connection)
    (hl : LegalExec (Connection.step callsBack) Connection.Legal (.init secret attempted) ops)
    (h : exec (Connection.step callsBack) (.init secret attempted) ops = some c) :
    c.Reported attempted ops := by
  have h₀ : (Connection.init secret attempted).Reported attempted [] := by
    refine ⟨⟨rfl, Nat.zero_le 1, fun hsub => ?_⟩, iff_of_false Bool.false_ne_true ?_,
      iff_of_false (by simp [Connection.completed, Connection.happened, Connection.init,
        UserData.new]) (by simp), rfl⟩
    · exact absurd (List.eq_nil_of_sublist_nil hsub) (by simp)
    · simp [Connection.RejectedBy]
  exact exec_history (R := Connection.Reported attempted)
    (fun _ _ _ _ hs hlegal hstep => hs.step honce hlegal hstep) ops h₀ hl h

theorem sampleCallsBack_once : Connection.CallsBackOnce sampleCallsBack :=
  ⟨fun c h => by simp [sampleCallsBack, h], fun c h => by simp [sampleCallsBack, h]⟩

/-- Early data was attempted, TLS says nothing, and the handshake ends without it. -/
theorem rejection_reported_late :
    ∃ c, exec (Connection.step sampleCallsBack) (.init none true)
        [.callback (.handshakeCompleted (some false)), .pollEvent] = some c ∧
      c.polled.events = [.earlyDataRejected] ∧ c.userData.events = [.handshakeCompleted] ∧
      c.Reported true [.callback (.handshakeCompleted (some false)), .pollEvent] := by
  refine ⟨_, rfl, rfl, rfl, ?_⟩
  refine rejection_reported sampleCallsBack_once none true
    [.callback (.handshakeCompleted (some false)), .pollEvent] _ ?_ rfl
  refine ⟨?_, fun _ _ => ⟨trivial, fun _ _ => trivial⟩⟩
  intro hmem
  cases hmem

end Ngtcp2Rs
