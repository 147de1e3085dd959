import Ngtcp2Rs.Server.Routes

/-!
# The server's handlers

`Server` of `tokio-ngtcp2/src/server.rs`: the connections that are still shaking hands, their
routes, and what the handlers do with a datagram, a timer or a completed handshake. ngtcp2 answers
every call with an `Answer`: an `Effect` (CIDs it issued and retired, events, state changes) and an
error or none. The answers come from outside, and so do random bytes. Parsing an Initial and
checking a token are ngtcp2's (`External`).

What follows an `await` works on the server's own tables only, which no other task can touch
meanwhile, so it is part of the same step; `Answers.cancelled` is a call dropped at its `await`.
-/

namespace Ngtcp2Rs

open Lib

/-! ## Calls into ngtcp2 -/

/-- What happens outside when a NEW_TOKEN is to be submitted. -/
structure SubmitAnswer where
  /-- `generate_new_token` gave a token -/
  generated : Bool
  /-- ngtcp2 took it -/
  taken : Bool
  deriving DecidableEq, Repr

/-- The events of a connection, as far as they are told apart here. `submit` is not in the program:
it is what happens outside when `drain_events` acts on the event. -/
inductive ConnectionEvent where
  | connectionClosed
  | handshakeCompleted (submit : SubmitAnswer)
  | pathValidated (remote : SocketAddr) (success : Bool)
  | other
  deriving DecidableEq, Repr

/-- What a call into ngtcp2 does to a connection, besides its result. -/
structure Effect where
  issued : List ConnectionId := []
  retired : List ConnectionId := []
  events : List ConnectionEvent := []
  handshakeCompleted : Bool := false
  closing : Bool := false
  draining : Bool := false
  deriving DecidableEq

/-- The outcome of a call into ngtcp2. -/
structure Answer where
  effect : Effect := {}
  error : Option Error := none
  deriving DecidableEq

/-- The calls into ngtcp2 on a connection. -/
inductive NgCall where
  | read
  | writePackets
  | writeDatagram
  | expiry
  | close
  deriving DecidableEq, Repr

/-- How a connection was created: its key and its first CIDs. -/
structure Origin where
  key : ConnectionId
  scid : ConnectionId
  originalDcid : ConnectionId
  preferredAddrCid : Option ConnectionId
  deriving DecidableEq

/-- The CIDs a connection has from the start. A zero-length SCID identifies nothing. -/
def Origin.cids (o : Origin) : List ConnectionId :=
  (if o.scid.isEmpty then [] else [o.scid]) ++ o.originalDcid :: o.preferredAddrCid.toList

/-! ## Connections -/

/-- The CIDs of a connection: the queues that ngtcp2's callbacks fill and, not in the program, how
the connection was created and which CIDs were taken out of the queues. -/
structure ConnCids where
  issuedCids : List ConnectionId := []
  retiredCids : List ConnectionId := []
  origin : Origin
  issuedPolled : List ConnectionId := []
  retiredPolled : List ConnectionId := []

namespace ConnCids

/-- A call into ngtcp2. -/
def call (c : ConnCids) (e : Effect) : ConnCids :=
  { c with issuedCids := c.issuedCids ++ e.issued, retiredCids := c.retiredCids ++ e.retired }

/-- `poll_issued_cids`; the CIDs are `c.issuedCids`. -/
def pollIssued (c : ConnCids) : ConnCids :=
  { c with issuedCids := [], issuedPolled := c.issuedPolled ++ c.issuedCids }

/-- `poll_retired_cids`; the CIDs are `c.retiredCids`. -/
def pollRetired (c : ConnCids) : ConnCids :=
  { c with retiredCids := [], retiredPolled := c.retiredPolled ++ c.retiredCids }

end ConnCids

/-- A connection. `queued` are the events that ngtcp2's callbacks left; `drained` is not in the
program: those that `drain_events` took out of that queue. -/
structure ServerConnection extends ConnCids where
  queued : List ConnectionEvent := []
  drained : List ConnectionEvent := []
  events : List ConnectionEvent := []
  isHandshakeCompleted : Bool := false
  isInClosingPeriod : Bool := false
  isInDrainingPeriod : Bool := false
  closed : Bool := false

namespace ServerConnection

/-- A call into ngtcp2. -/
def call (c : ServerConnection) (e : Effect) : ServerConnection :=
  { c with
    toConnCids := c.toConnCids.call e
    queued := c.queued ++ e.events
    isHandshakeCompleted := c.isHandshakeCompleted || e.handshakeCompleted
    isInClosingPeriod := c.isInClosingPeriod || e.closing
    isInDrainingPeriod := c.isInDrainingPeriod || e.draining }

/-- Take the events over. -/
def drainEvents (c : ServerConnection) : ServerConnection :=
  { c with events := c.events ++ c.queued, drained := c.drained ++ c.queued, queued := [] }

/-- `read_packet`, `flush_to_packets` and `handle_expiry`: a call, and its events. -/
def callAndDrain (c : ServerConnection) (e : Effect) : ServerConnection := (c.call e).drainEvents

/-- Take the issued CIDs. -/
def pollIssued (c : ServerConnection) : ServerConnection :=
  { c with toConnCids := c.toConnCids.pollIssued }

/-- Take the issued and the retired CIDs. -/
def pollCids (c : ServerConnection) : ServerConnection :=
  { c with toConnCids := c.toConnCids.pollIssued.pollRetired }

/-- The connection is in its closing or draining period. -/
def isEnding (c : ServerConnection) : Bool := c.isInClosingPeriod || c.isInDrainingPeriod

/-- Queue the event that ends a connection, once (`push_connection_closed`). -/
def pushConnectionClosed (c : ServerConnection) : ServerConnection :=
  if c.closed then c
  else { c with closed := true, events := c.events ++ [.connectionClosed] }

end ServerConnection

/-! ## ngtcp2 and randomness -/

/-- An Initial that may open a connection. -/
structure AcceptedInitial where
  version : UInt32
  dcid : ConnectionId
  scid : ConnectionId
  token : Bytes
  deriving DecidableEq

/-- What ngtcp2 computes from its arguments alone, under the server's secrets. -/
structure External where
  /-- the version field, by `decode_packet_version` -/
  decodePacketVersion : Bytes → Option UInt32
  acceptInitial : Bytes → Option AcceptedInitial
  generateRetryToken : QuicVersion → SocketAddr → ConnectionId → ConnectionId → ℕ → Option Bytes
  /-- the original DCID in a valid token -/
  verifyRetryToken : Bytes → QuicVersion → SocketAddr → ConnectionId → ℕ → Option ConnectionId
  verifyNewToken : Bytes → SocketAddr → ℕ → Bool
  /-- the Stateless Reset token of a CID -/
  resetToken : ConnectionId → Option Bytes

/-- The settings that routing depends on. -/
structure ServerConfig where
  scidLen : ℕ
  quicVersions : List QuicVersion
  /-- `with_retry` was given -/
  retry : Bool
  preferredAddr : Option SocketAddr

/-- The bytes a random generator gives. -/
abbrev Fill : Type := (len : ℕ) → Option (List.Vector UInt8 len)

/-- What happens outside while one datagram is handled. -/
structure Answers where
  read : Answer := {}
  flush : Answer := {}
  /-- `write_connection_close` -/
  close : Answer := {}
  /-- the close packet has a length -/
  closeWritten : Bool := false
  cancelled : Bool := false
  scid : Fill := fun _ => none
  key : Fill := fun _ => none
  preferred : Fill := fun _ => none
  retryScid : Fill := fun _ => none
  tlsSession : Bool := true
  serverNew : Bool := true
  retryWritten : Bool := true
  resetWritten : Bool := true

/-- What the server and its connections did. -/
inductive Action where
  | created (origin : Origin) (retried : Bool) (src : SocketAddr)
  | called (key : ConnectionId) (call : NgCall) (answer : Answer)
  | retry (scid originalDcid : ConnectionId) (version : QuicVersion) (dst : SocketAddr) (ts : ℕ)
      (token : Bytes)
  | statelessReset (cid : ConnectionId) (dst : SocketAddr)
  | versionNegotiation (dst : SocketAddr)
  | invalidTokenClose (dst : SocketAddr)
  | returned (key : ConnectionId) (result : Except Error ConnectionEvent)
  | missingKey (key : ConnectionId)
  | panicked
  deriving DecidableEq

/-! ## The server -/

/-- `STATELESS_RESET_BURST`. -/
def statelessResetBurst : ℕ := 100
/-- `STATELESS_RESET_RATE`. -/
def statelessResetRate : ℕ := 33
/-- `NANOS_PER_SEC`. -/
def nanosPerSec : ℕ := 1000000000

/-- The token bucket for Stateless Resets. -/
structure StatelessResetLimiter where
  bucket : ℕ := statelessResetBurst
  lastRefillTs : ℕ := 0

/-- `u64` saturation. -/
def satU64 (n : ℕ) : ℕ := min n (2 ^ 64 - 1)

namespace StatelessResetLimiter

/-- Refill for the time that has passed. -/
def refill (l : StatelessResetLimiter) (ts : ℕ) : StatelessResetLimiter :=
  let refill := satU64 ((ts - l.lastRefillTs) * statelessResetRate) / nanosPerSec
  if refill = 0 then l
  else
    { bucket := min (satU64 (l.bucket + refill)) statelessResetBurst
      lastRefillTs :=
        satU64 (l.lastRefillTs + satU64 (refill * nanosPerSec) / statelessResetRate) }

/-- Take one permission. -/
def tryAcquire (l : StatelessResetLimiter) (ts : ℕ) : Bool × StatelessResetLimiter :=
  let l := l.refill ts
  if l.bucket = 0 then (false, l) else (true, { l with bucket := l.bucket - 1 })

end StatelessResetLimiter

/-- `MAX_CONNECTIONS`. -/
def maxConnections : ℕ := 1024

/-- `INTERNAL_KEY_LEN`. -/
def internalKeyLen : ℕ := 16

/-- The server. `trace` is not in the program: it is what the server and its connections did so
far, newest first. -/
structure Server extends RouteTable where
  connections : Map ConnectionId ServerConnection := ∅
  limiter : StatelessResetLimiter := {}
  trace : List Action := []

namespace Server

/-- A server that was just bound. -/
def bind (cfg : ServerConfig) : Server :=
  { shortCidLengths := if 0 < cfg.scidLen then OrdSet.empty.insert cfg.scidLen else .empty }

/-- Add to the trace. -/
def record (s : Server) (a : Action) : Server := { s with trace := a :: s.trace }

/-- Replace the connection behind a key. -/
def setConnection (s : Server) (key : ConnectionId) (c : ServerConnection) : Server :=
  { s with connections := s.connections.insert key c }

/-- Remove a connection and its routes. -/
def removeConnection (s : Server) (key : ConnectionId) : Server :=
  { s with toRouteTable := s.removeRoutes key, connections := s.connections.erase key }

/-- Remove the connections that are closing or draining. -/
def removeClosedConnections (s : Server) : Server :=
  (s.connections.keysWhere fun _ c => c.isEnding).foldl removeConnection s

/-- The CIDs routed to a key. -/
def takenCids (s : Server) (key : ConnectionId) : List ConnectionId :=
  s.cidMap.keysWhere fun _ k => k == key

/-- The addresses routed to a key. -/
def takenAddrs (s : Server) (key : ConnectionId) : List SocketAddr :=
  s.addrMap.keysWhere fun _ k => k == key

/-- Hand a connection over: its routes move to the shared table, where `sender` is its queue.
`none` is the panic of a missing connection. -/
def takeConnection (s : Server) (routes : SharedRoutes) (key : ConnectionId) (sender : ℕ) :
    Option (Server × SharedRoutes × ServerConnection) :=
  match s.connections.lookup key with
  | none => none
  | some c =>
    let taken := s.takenCids key
    let addrs := s.takenAddrs key
    some
      ({ s with
          toRouteTable := (s.rememberCids taken).removeRoutes key
          connections := s.connections.erase key },
        routes.register key sender taken addrs, c)

/-! ### Existing connections -/

/-- Treat an error of one connection. -/
def handleConnError (s : Server) (key : ConnectionId) (err : Error) (close : Answer)
    (closeWritten : Bool) : Server :=
  match err.classifyConnectionError with
  | .ignore | .terminal => s
  | .silentDrop | .internal => s.removeConnection key
  | .transportClose | .applicationClose =>
    match s.connections.lookup key with
    | none => s
    | some c =>
      let s := (s.setConnection key (c.call close.effect)).record (.called key .close close)
      if close.error.isNone && closeWritten then s else s.removeConnection key

/-- Apply the CIDs that a connection issued and retired. -/
def pollCids (s : Server) (key : ConnectionId) (c : ServerConnection) : Server :=
  { s with
    toRouteTable := (s.registerCids key c.issuedCids).retireCids key c.retiredCids
    connections := s.connections.insert key c.pollCids }

/-- A datagram for the connection `key`. -/
def handleExistingConnection (s : Server) (key : ConnectionId) (ans : Answers) : Server :=
  match s.connections.lookup key with
  | none => s.record (.missingKey key)
  | some c =>
    let c := (c.callAndDrain ans.read.effect).callAndDrain ans.flush.effect
    let s := (s.record (.called key .read ans.read)).record (.called key .writePackets ans.flush)
    let s := s.pollCids key c
    match ans.read.error with
    | none => s
    | some e => if ans.cancelled then s else s.handleConnError key e ans.close ans.closeWritten

/-! ### New connections -/

/-- The kinds of address validation tokens. -/
inductive TokenKind where
  | retry
  | newToken
  deriving DecidableEq, Repr

/-- The kind of a token, by its first byte. -/
def tokenKind (token : Bytes) : Option TokenKind :=
  match token with
  | [] => none
  | magic :: _ => if magic = 0xb7 then some .retry else if magic = 0x36 then some .newToken else none

/-- What the token of an Initial says: answer with a Retry, refuse, or go on with an original DCID,
`validated` by a token that came in a Retry packet or not. -/
inductive Validation where
  | retry
  | invalid
  | proceed (originalDcid : ConnectionId) (validated retried : Bool)
  deriving DecidableEq

/-- Check the token of an Initial. -/
def validate (ext : External) (cfg : ServerConfig) (accepted : AcceptedInitial)
    (version : QuicVersion) (src : SocketAddr) (ts : ℕ) : Validation :=
  match tokenKind accepted.token with
  | none => if cfg.retry then .retry else .proceed accepted.dcid false false
  | some .retry =>
    match ext.verifyRetryToken accepted.token version src accepted.dcid ts with
    | some originalDcid => .proceed originalDcid true true
    | none => .invalid
  | some .newToken =>
    if ext.verifyNewToken accepted.token src ts then .proceed accepted.dcid true false else .invalid

/-- An SCID for packets; length 0 gives the empty one. -/
def generateScid (scidLen : ℕ) (fill : Fill) : Option ConnectionId :=
  if scidLen = 0 then some .empty else ConnectionId.random scidLen (fill scidLen)

/-- Send a Retry packet. -/
def sendRetry (ext : External) (cfg : ServerConfig) (s : Server) (accepted : AcceptedInitial)
    (version : QuicVersion) (dst : SocketAddr) (ts : ℕ) (ans : Answers) : Server :=
  match generateScid (max cfg.scidLen 8) ans.retryScid with
  | none => s
  | some scid =>
    match ext.generateRetryToken version dst scid accepted.dcid ts with
    | none => s
    | some token =>
      if ans.retryWritten then s.record (.retry scid accepted.dcid version dst ts token) else s

/-- Choose the identifiers. The SCID of a Retry is used again; an empty SCID gets an internal key. -/
def chooseIds (ext : External) (cfg : ServerConfig) (accepted : AcceptedInitial)
    (originalDcid : ConnectionId) (retried : Bool) (ans : Answers) : Option Origin :=
  match (if retried then some accepted.dcid else generateScid cfg.scidLen ans.scid) with
  | none => none
  | some scid =>
    match (if scid.isEmpty then ConnectionId.random internalKeyLen (ans.key internalKeyLen)
      else some scid) with
    | none => none
    | some key =>
      let preferredAddrCid :=
        if scid.isEmpty || cfg.preferredAddr.isNone then none
        else
          (ConnectionId.random cfg.scidLen (ans.preferred cfg.scidLen)).filter fun cid =>
            (ext.resetToken cid).isSome
      some { key, scid, originalDcid, preferredAddrCid }

/-- Enter the routes of a new connection. -/
def registerNew (s : Server) (o : Origin) (retried : Bool) (src : SocketAddr) : Server :=
  let lens := if o.scid.isEmpty then s.shortCidLengths else s.shortCidLengths.insert o.scid.len
  let addrMap := if o.scid ≠ o.key then s.addrMap.insert src o.key else s.addrMap
  let cidMap := if o.scid ≠ o.key then s.cidMap else s.cidMap.insert o.scid o.key
  let cidMap := if retried then cidMap.erase o.originalDcid else cidMap
  let cidMap := cidMap.insert o.originalDcid o.key
  match o.preferredAddrCid with
  | none => { s with shortCidLengths := lens, addrMap, cidMap }
  | some cid =>
    { s with shortCidLengths := lens.insert cid.len, addrMap, cidMap := cidMap.insert cid o.key }

/-- Create the connection, after its Initial was read: routes, first flush, issued CIDs. -/
def createConnection (s : Server) (o : Origin) (retried : Bool) (src : SocketAddr) (ans : Answers) :
    Server :=
  let c : ServerConnection := { origin := o }
  let c := (c.callAndDrain ans.read.effect).callAndDrain ans.flush.effect
  let s := s.registerNew o retried src
  let s := ((s.record (.created o retried src)).record (.called o.key .read ans.read)).record
    (.called o.key .writePackets ans.flush)
  { s with
    toRouteTable := s.registerCids o.key c.issuedCids
    connections := s.connections.insert o.key c.pollIssued }

/-- An Initial of an unknown connection. An error of `read` that does not end the connection is of
the class `Ignore`, for which there is nothing left to do. -/
def handleNewConnection (ext : External) (cfg : ServerConfig) (s : Server) (data : Bytes)
    (src : SocketAddr) (ts : ℕ) (ans : Answers) : Server :=
  match ext.decodePacketVersion data with
  | some version =>
    if (QuicVersion.fromU32 version).any fun v => cfg.quicVersions.contains v then go
    else s.record (.versionNegotiation src)
  | none => go
where
  /-- The rest, for a packet that needs no version negotiation. -/
  go : Server :=
    match ext.acceptInitial data with
    | none => s
    | some accepted =>
      match QuicVersion.fromU32 accepted.version with
      | none => s
      | some version =>
        if !cfg.quicVersions.contains version then s
        else
          match validate ext cfg accepted version src ts with
          | .retry => sendRetry ext cfg s accepted version src ts ans
          | .invalid => s.record (.invalidTokenClose src)
          | .proceed originalDcid validated retried =>
            if maxConnections ≤ s.connections.size then s
            else if !validated && s.cidMap.keys.contains originalDcid then s
            else
              match chooseIds ext cfg accepted originalDcid retried ans with
              | none => s
              | some o =>
                if !ans.tlsSession || !ans.serverNew then s
                else
                  match ans.read.error with
                  | none => s.createConnection o retried src ans
                  | some e =>
                    if e.isRetryRequired then sendRetry ext cfg s accepted version src ts ans
                    else if e.classifyConnectionError = .ignore then
                      s.createConnection o retried src ans
                    else s

/-! ### Unknown short headers and timers -/

/-- Find the CID of a short header that a Stateless Reset would be sent for: the longest one that is
long enough and has a token. A CID that was handed over gets none. -/
def resetCid (ext : External) (isTaken : ConnectionId → Bool) (data : Bytes) :
    List ℕ → Option ConnectionId
  | [] => none
  | len :: lens =>
    match shortDcid data len with
    | none => resetCid ext isTaken data lens
    | some dcid =>
      if isTaken dcid then none
      else if (ext.resetToken dcid).isSome then some dcid
      else resetCid ext isTaken data lens

/-- Answer an unknown short header with a Stateless Reset. -/
def sendStatelessReset (ext : External) (s : Server) (routes : SharedRoutes) (data : Bytes)
    (dst : SocketAddr) (ts : ℕ) (ans : Answers) : Server :=
  let (ok, limiter) := s.limiter.tryAcquire ts
  let s := { s with limiter }
  if !ok then s
  else
    let isTaken cid := decide (cid ∈ s.taken.cids) || decide (cid ∈ routes.taken.cids)
    match resetCid ext isTaken data s.shortCidLengths.toList.reverse with
    | none => s
    | some cid => if ans.resetWritten then s.record (.statelessReset cid dst) else s

/-- The timer of one connection; `none` is a timer that has not expired. -/
def handleTimer (timers : ConnectionId → Option Answer) (s : Server) (key : ConnectionId) : Server :=
  match s.connections.lookup key, timers key with
  | some c, some ans =>
    let s := s.record (.called key .expiry ans)
    let s := s.pollCids key (c.callAndDrain ans.effect)
    match ans.error with
    | none => s
    | some e =>
      if e.classifyConnectionError = .ignore ∨ e.classifyConnectionError = .terminal then s
      else s.removeConnection key
  | _, _ => s

/-- The timers of the connections; `keys` are their keys, in the order of the map. -/
def handleTimers (timers : ConnectionId → Option Answer) (keys : List ConnectionId) (s : Server) :
    Server :=
  keys.foldl (handleTimer timers) s

end Server

end Ngtcp2Rs
