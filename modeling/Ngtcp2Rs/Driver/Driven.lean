import Ngtcp2Rs.Conn.Callbacks
import Ngtcp2Rs.Driver.EventLoop

/-!
# A connection in the hands of its driver

`ServerConnection` and `ClientConnection` of `tokio-ngtcp2` hold a connection of ngtcp2 together with
the events that the application has not taken yet, the address of the peer and the qlog file.
`Driven` is that, with all the data of the events; what the functions of `server.rs` and `client.rs`
do to it is here, and the loops around it are in `Driver.Endpoint`. NEW_TOKEN has its own model. The
log is not in the program; it is newest first.

What is true of a connection, whoever drives it, is kept by every `DrivenOp`:

* `InOrder`: the events are delivered in the order in which they were reported, each once;
* `QlogKept`: the qlog file holds what ngtcp2 wrote, up to where it failed.
-/

namespace Ngtcp2Rs

open Lib

/-! ## Events and errors -/

/-- The events of `tokio-ngtcp2/src/lib.rs`. `core` is the conversion from the events below. -/
inductive Tokio.ConnectionEvent where
  | core (event : Core.ConnectionEvent)
  | connectionClosed (errorCode : ℕ) (reason : List Char) (kind : ConnectionErrorKind)
  deriving DecidableEq

/-- The event of the layer below, if it is one. -/
def Tokio.ConnectionEvent.core? : Tokio.ConnectionEvent → Option Core.ConnectionEvent
  | core event => some event
  | connectionClosed .. => none

/-- The address that a successful path validation gives. -/
def Core.ConnectionEvent.validated? : Core.ConnectionEvent → Option SocketAddr
  | pathValidated path true => some path.remote
  | _ => none

/-- `ngtcp2_ccerr_type`. -/
inductive CcErrType where
  | transport
  | application
  | versionNegotiation
  | idleClose
  | dropConn
  | retry
  deriving DecidableEq, Repr

/-- `ngtcp2_ccerr`. -/
structure CcErr where
  type : CcErrType
  errorCode : ℕ
  reason : Bytes
  deriving DecidableEq

/-- A character in UTF-8 that has begun: the bounds of its next byte, how many come after that, and
its bits so far. -/
structure Utf8Partial where
  low : ℕ
  high : ℕ
  more : ℕ
  bits : ℕ

/-- The first byte of a character that has several. The bounds of the second one leave out overlong
forms, surrogates and what is above U+10FFFF. -/
def utf8Lead (b : ℕ) : Option Utf8Partial :=
  if b < 0xc2 then none
  else if b < 0xe0 then some ⟨0x80, 0xbf, 0, b - 0xc0⟩
  else if b < 0xf0 then
    some ⟨if b = 0xe0 then 0xa0 else 0x80, if b = 0xed then 0x9f else 0xbf, 1, b - 0xe0⟩
  else if b < 0xf5 then
    some ⟨if b = 0xf0 then 0x90 else 0x80, if b = 0xf4 then 0x8f else 0xbf, 2, b - 0xf0⟩
  else none

/-- `char::REPLACEMENT_CHARACTER`. -/
def replacementCharacter : Char := Char.ofNat 0xfffd

/-- A byte that belongs to no character that has begun. -/
def utf8Start (b : ℕ) : List Char × Option Utf8Partial :=
  if b < 0x80 then ([Char.ofNat b], none)
  else
    match utf8Lead b with
    | some p => ([], some p)
    | none => ([replacementCharacter], none)

/-- The next byte. A character that breaks off becomes one replacement character. -/
def utf8Step : Option Utf8Partial → ℕ → List Char × Option Utf8Partial
  | none, b => utf8Start b
  | some p, b =>
    if p.low ≤ b ∧ b ≤ p.high then
      match p.more with
      | 0 => ([Char.ofNat (p.bits * 64 + (b - 0x80))], none)
      | more + 1 => ([], some ⟨0x80, 0xbf, more, p.bits * 64 + (b - 0x80)⟩)
    else (replacementCharacter :: (utf8Start b).1, (utf8Start b).2)

/-- The characters of the bytes that are left. -/
def utf8Lossy : Option Utf8Partial → Bytes → List Char
  | none, [] => []
  | some _, [] => [replacementCharacter]
  | p, b :: bytes => (utf8Step p b.toNat).1 ++ utf8Lossy (utf8Step p b.toNat).2 bytes

/-- `String::from_utf8_lossy`, as the characters of the string. -/
def fromUtf8Lossy (bytes : Bytes) : List Char := utf8Lossy none bytes

example : fromUtf8Lossy [0x61, 0xe3, 0x81, 0x82, 0xff, 0xe3, 0x81, 0x62, 0xed, 0xa0] =
    ['a', Char.ofNat 0x3042, replacementCharacter, replacementCharacter, 'b', replacementCharacter,
      replacementCharacter] := by decide

/-- Why a connection ended. -/
structure ConnectionError where
  errorCode : ℕ
  reason : List Char
  isApplication : Bool
  hasError : Bool

/-- `get_connection_error`; ngtcp2 may have none. -/
def getConnectionError : Option CcErr → ConnectionError
  | none => ⟨0, [], false, false⟩
  | some err =>
    ⟨err.errorCode, fromUtf8Lossy err.reason, err.type = .application, err.type ≠ .idleClose⟩

/-- The event that ends a connection. -/
def ConnectionError.event (err : ConnectionError) : Tokio.ConnectionEvent :=
  .connectionClosed err.errorCode err.reason <|
    if err.hasError then
      if err.isApplication then .applicationClose else .transportClose
    else .terminal

/-! ## Calls into ngtcp2 -/

/-- What a call into ngtcp2 does to a connection, and its result. -/
structure Outcome where
  events : List Core.ConnectionEvent := []
  qlog : Bytes := []
  closing : Bool := false
  draining : Bool := false
  /-- the current path, if it changed -/
  path : Option PathInfo := none
  ccerr : Option CcErr := none
  error : Option Error := none
  deriving DecidableEq

/-- A connection of ngtcp2, as its driver sees it. -/
structure NgConn where
  queued : List Core.ConnectionEvent := []
  qlogData : Bytes := []
  path : Option PathInfo := none
  ccerr : Option CcErr := none
  isInClosingPeriod : Bool := false
  isInDrainingPeriod : Bool := false

/-- A call into ngtcp2. -/
def NgConn.apply (c : NgConn) (o : Outcome) : NgConn where
  queued := c.queued ++ o.events
  qlogData := c.qlogData ++ o.qlog
  path := o.path.or c.path
  ccerr := o.ccerr.or c.ccerr
  isInClosingPeriod := c.isInClosingPeriod || o.closing
  isInDrainingPeriod := c.isInDrainingPeriod || o.draining

/-- The calls into ngtcp2, with the paths that they are given. -/
inductive PathCall where
  | read (path : PathInfo)
  | writePackets
  | writeDatagram
  | expiry
  | close
  | migrate (path : PathInfo)
  deriving DecidableEq

/-! ## The connection and its driver -/

/-- What was done with a connection. -/
inductive DrivenAction where
  /-- a call into ngtcp2; `events` are those that were not delivered yet after it -/
  | called (call : PathCall) (outcome : Outcome) (events : List Tokio.ConnectionEvent)
  | sent
  /-- a CONNECTION_CLOSE was sent -/
  | closeSent (path : PathInfo)
  | waiting
  | returned (result : Except Error Tokio.ConnectionEvent)
  | polled (event : Tokio.ConnectionEvent)
  deriving DecidableEq

/-- `QlogWriter`; `written` is what the file holds, also after it was given up. -/
structure QlogWriter where
  isOpen : Bool := false
  written : Bytes := []

/-- A connection and what its driver keeps of it. -/
structure Driven where
  conn : NgConn := {}
  events : List Tokio.ConnectionEvent := []
  closed : Bool := false
  remoteAddr : SocketAddr
  qlog : QlogWriter := {}
  log : List DrivenAction := []

namespace Driven

/-- A connection before its handshake. -/
def new (path : PathInfo) (qlogOpen : Bool) : Driven where
  conn := { path := some path }
  remoteAddr := path.remote
  qlog := { isOpen := qlogOpen }

/-- Add to the log. -/
def record (c : Driven) (a : DrivenAction) : Driven := { c with log := a :: c.log }

/-- The connection is in its closing or draining period. -/
def isEnding (c : Driven) : Bool := c.conn.isInClosingPeriod || c.conn.isInDrainingPeriod

/-- `is_closed`. -/
def isClosed (c : Driven) : Bool := c.closed || c.isEnding

/-- One round of `drain_events`: a path that was validated is used from then on. -/
def drainEvent (c : Driven) (event : Core.ConnectionEvent) : Driven :=
  { c with
    remoteAddr := event.validated?.getD c.remoteAddr
    events := c.events ++ [.core event] }

/-- `drain_events`. -/
def drainEvents (c : Driven) : Driven :=
  c.conn.queued.foldl drainEvent { c with conn := { c.conn with queued := [] } }

/-- A call into ngtcp2, after which `events` are not delivered. -/
def callWith (c : Driven) (call : PathCall) (o : Outcome) (events : List Tokio.ConnectionEvent) :
    Driven :=
  { c with conn := c.conn.apply o }.record (.called call o events)

/-- A call into ngtcp2 that leaves the events where they are. -/
def call (c : Driven) (call : PathCall) (o : Outcome) : Driven := c.callWith call o c.events

/-- A call into ngtcp2, and its events. -/
def callAndDrain (c : Driven) (call : PathCall) (o : Outcome) : Driven :=
  (c.callWith call o (c.events ++ (c.conn.apply o).queued.map .core)).drainEvents

/-- `push_connection_closed`. -/
def pushConnectionClosed (c : Driven) : Driven :=
  if c.closed then c
  else { c with closed := true, events := c.events ++ [(getConnectionError c.conn.ccerr).event] }

/-- `poll_event` and `pop_event`, with what becomes of the event. -/
def popEvent (c : Driven) (action : Tokio.ConnectionEvent → DrivenAction) : Driven :=
  match c.events with
  | [] => c
  | event :: events => { c with events }.record (action event)

/-- `flush` of the client takes the current path over. -/
def takePath (c : Driven) : Driven :=
  match c.conn.path with
  | none => c
  | some path => { c with remoteAddr := path.remote }

/-- `QlogWriter::write`: the file takes all of it, or fails after `n` bytes and is given up. -/
def writeQlog (c : Driven) (fails : Option ℕ) : Driven :=
  if ¬ c.qlog.isOpen ∨ c.conn.qlogData = [] then c
  else
    let conn := { c.conn with qlogData := [] }
    match fails with
    | none =>
      { c with conn, qlog := { c.qlog with written := c.qlog.written ++ c.conn.qlogData } }
    | some n => { c with conn, qlog := ⟨false, c.qlog.written ++ c.conn.qlogData.take n⟩ }

end Driven

/-- What a driver does with a connection. -/
inductive DrivenOp where
  | call (call : PathCall) (o : Outcome)
  | callAndDrain (call : PathCall) (o : Outcome)
  /-- `initiate_immediate_migration`, to the same peer -/
  | migrate (bound : SocketAddr) (o : Outcome)
  | drainEvents
  | pushConnectionClosed
  | returnEvent
  | returnError (err : Error)
  | pollEvent
  | takePath
  | writeQlog (fails : Option ℕ)
  | sent
  /-- the packets of `close`, from the address of the driver -/
  | sendClose (localAddr : SocketAddr)
  | waiting
  /-- `close` is done -/
  | setClosed
  deriving DecidableEq

/-- One operation of a driver. -/
def Driven.step (c : Driven) : DrivenOp → Driven
  | .call call o => c.call call o
  | .callAndDrain call o => c.callAndDrain call o
  | .migrate bound o => c.call (.migrate ⟨bound, c.remoteAddr⟩) o
  | .drainEvents => c.drainEvents
  | .pushConnectionClosed => c.pushConnectionClosed
  | .returnEvent => c.popEvent (.returned ∘ .ok)
  | .returnError err => c.record (.returned (.error err))
  | .pollEvent => c.popEvent .polled
  | .takePath => c.takePath
  | .writeQlog fails => c.writeQlog fails
  | .sent => c.record .sent
  | .sendClose localAddr => c.record (.closeSent ⟨localAddr, c.remoteAddr⟩)
  | .waiting => c.record .waiting
  | .setClosed => { c with closed := true }

/-- The operations of a driver that stay on its socket. Only the client follows the path of
ngtcp2. -/
def DrivenOp.Of (d : Driver) : DrivenOp → Prop
  | .takePath => d = .client
  | .migrate .. | .call (.migrate _) _ | .callAndDrain (.migrate _) _ => False
  | _ => True

/-! ## What happened -/

namespace DrivenAction

/-- The events that ngtcp2 reported. -/
def reported : DrivenAction → List Core.ConnectionEvent
  | called _ o _ => o.events
  | _ => []

/-- What ngtcp2 wrote for the qlog. -/
def qlog : DrivenAction → Bytes
  | called _ o _ => o.qlog
  | _ => []

/-- The events that the application got. -/
def delivered : DrivenAction → List Tokio.ConnectionEvent
  | returned (.ok event) | polled event => [event]
  | _ => []

end DrivenAction

namespace Driven

/-- What the actions of a log come to, oldest first. -/
def history {α : Type} (f : DrivenAction → List α) (log : List DrivenAction) : List α :=
  log.reverse.flatMap f

@[simp] theorem history_cons {α : Type} (f : DrivenAction → List α) (a : DrivenAction)
    (log : List DrivenAction) : history f (a :: log) = history f log ++ f a := by
  simp [history]

/-- The events that ngtcp2 reported so far. -/
def reported (c : Driven) : List Core.ConnectionEvent := history DrivenAction.reported c.log

/-- The events that the application got so far. -/
def delivered (c : Driven) : List Tokio.ConnectionEvent := history DrivenAction.delivered c.log

/-- What ngtcp2 wrote for the qlog so far. -/
def emitted (c : Driven) : Bytes := history DrivenAction.qlog c.log

/-- What was reported was delivered, or waits for it, in the order of the reports. -/
def InOrder (c : Driven) : Prop :=
  c.delivered.filterMap (·.core?) ++ c.events.filterMap (·.core?) ++ c.conn.queued = c.reported

/-- The qlog file holds what ngtcp2 wrote and what it still holds follows, but for what a failed
write lost. -/
def QlogKept (c : Driven) : Prop :=
  ∃ lost, c.qlog.written ++ lost ++ c.conn.qlogData = c.emitted ∧ (c.qlog.isOpen = true → lost = [])

/-! ### Draining -/

theorem drainEvents_eq (c : Driven) :
    c.drainEvents = { c with
      conn := { c.conn with queued := [] }
      remoteAddr := (c.conn.queued.filterMap (·.validated?)).getLastD c.remoteAddr
      events := c.events ++ c.conn.queued.map .core } := by
  have hfold : ∀ (queued : List Core.ConnectionEvent) (c : Driven),
      queued.foldl drainEvent c = { c with
        remoteAddr := (queued.filterMap (·.validated?)).getLastD c.remoteAddr
        events := c.events ++ queued.map .core } := by
    intro queued
    induction queued with
    | nil => simp
    | cons event queued ih =>
      intro c
      rw [List.foldl_cons, ih]
      cases hv : event.validated? with
      | none => simp [drainEvent, hv]
      | some remote => simp only [drainEvent, hv, List.filterMap_cons, List.getLastD_cons,
          Option.getD_some, List.append_assoc, List.singleton_append, List.map_cons]
  exact hfold _ _

/-- The events that are not delivered yet. -/
def undelivered (c : Driven) : List Core.ConnectionEvent :=
  c.events.filterMap (·.core?) ++ c.conn.queued

theorem filterMap_core (events : List Core.ConnectionEvent) :
    (events.map Tokio.ConnectionEvent.core).filterMap (·.core?) = events := by
  simp [List.filterMap_map, Tokio.ConnectionEvent.core?]

@[simp] theorem undelivered_drainEvents (c : Driven) : c.drainEvents.undelivered = c.undelivered := by
  rw [drainEvents_eq, undelivered, undelivered, List.filterMap_append, filterMap_core]
  simp

@[simp] theorem log_drainEvents (c : Driven) : c.drainEvents.log = c.log := by
  rw [drainEvents_eq]

@[simp] theorem qlog_drainEvents (c : Driven) : c.drainEvents.qlog = c.qlog := by
  rw [drainEvents_eq]

@[simp] theorem qlogData_drainEvents (c : Driven) :
    c.drainEvents.conn.qlogData = c.conn.qlogData := by
  rw [drainEvents_eq]

@[simp] theorem core?_event (err : ConnectionError) : err.event.core? = none := rfl

@[simp] theorem undelivered_pushConnectionClosed (c : Driven) :
    c.pushConnectionClosed.undelivered = c.undelivered := by
  unfold pushConnectionClosed undelivered
  split <;> simp

/-! ### Invariants -/

variable {c : Driven}

theorem inOrder_iff : c.InOrder ↔
    c.delivered.filterMap (·.core?) ++ c.undelivered = c.reported := by
  rw [InOrder, undelivered, List.append_assoc]

/-- What neither reports nor delivers. -/
theorem InOrder.of_eq {c' : Driven} (h : c.InOrder) (hun : c'.undelivered = c.undelivered)
    (hlog : c'.reported = c.reported ∧ c'.delivered = c.delivered) : c'.InOrder := by
  rw [inOrder_iff] at h ⊢
  rw [hun, hlog.1, hlog.2, h]

/-- A call: its events are reported, and wait. -/
theorem InOrder.callWith (h : c.InOrder) (call : PathCall) (o : Outcome)
    (events : List Tokio.ConnectionEvent) : (c.callWith call o events).InOrder := by
  rw [inOrder_iff] at h ⊢
  have hun : (c.callWith call o events).undelivered = c.undelivered ++ o.events := by
    simp [undelivered, Driven.callWith, record, NgConn.apply]
  rw [hun]
  simp only [delivered, reported, Driven.callWith, record, history_cons] at h ⊢
  rw [← h]
  simp [DrivenAction.delivered, DrivenAction.reported]

theorem InOrder.drainEvents (h : c.InOrder) : c.drainEvents.InOrder :=
  h.of_eq (undelivered_drainEvents c) ⟨by simp [reported], by simp [delivered]⟩

theorem InOrder.popEvent (h : c.InOrder) {action : Tokio.ConnectionEvent → DrivenAction}
    (haction : ∀ event, (action event).delivered = [event] ∧ (action event).reported = []) :
    (c.popEvent action).InOrder := by
  unfold Driven.popEvent
  split
  · exact h
  · rename_i event events hevents
    rw [inOrder_iff] at h ⊢
    simp only [delivered, reported, undelivered, record, history_cons, (haction event).1,
      (haction event).2, hevents] at h ⊢
    rw [List.append_nil, ← h, List.filterMap_append]
    cases hc : event.core? <;> simp [hc]

/-- The end of the connection is reported once at most. -/
def EndsOnce (c : Driven) : Prop :=
  (c.delivered ++ c.events).countP (·.core?.isNone) ≤ if c.closed then 1 else 0

/-- Every operation of a driver keeps the events in order. -/
theorem InOrder.step (h : c.InOrder) (op : DrivenOp) : (c.step op).InOrder := by
  cases op with
  | call | migrate => exact h.callWith _ _ _
  | callAndDrain => exact (h.callWith _ _ _).drainEvents
  | drainEvents => exact h.drainEvents
  | pushConnectionClosed =>
    refine h.of_eq (undelivered_pushConnectionClosed c) ?_
    simp only [reported, delivered, Driven.step, Driven.pushConnectionClosed]
    split <;> exact ⟨rfl, rfl⟩
  | returnEvent => exact h.popEvent fun _ => ⟨rfl, rfl⟩
  | pollEvent => exact h.popEvent fun _ => ⟨rfl, rfl⟩
  | takePath =>
    refine h.of_eq ?_ ?_ <;> simp only [Driven.step, Driven.takePath]
    · split <;> rfl
    · split <;> exact ⟨rfl, rfl⟩
  | writeQlog fails =>
    refine h.of_eq ?_ ?_ <;> simp only [Driven.step, Driven.writeQlog]
    · split
      · rfl
      · cases fails <;> rfl
    · split
      · exact ⟨rfl, rfl⟩
      · cases fails <;> exact ⟨rfl, rfl⟩
  | returnError | sent | sendClose | waiting =>
    refine h.of_eq rfl ⟨?_, ?_⟩ <;>
      simp [reported, delivered, Driven.step, record, DrivenAction.reported, DrivenAction.delivered]
  | setClosed => exact h.of_eq rfl ⟨rfl, rfl⟩

theorem EndsOnce.of_eq {c' : Driven} (h : c.EndsOnce)
    (hevents : c'.delivered ++ c'.events = c.delivered ++ c.events ∨
      ∃ queued : List Core.ConnectionEvent,
        c'.delivered ++ c'.events = c.delivered ++ c.events ++ queued.map .core)
    (hclosed : c.closed = true → c'.closed = true) : c'.EndsOnce := by
  have hcount : (c'.delivered ++ c'.events).countP (·.core?.isNone) =
      (c.delivered ++ c.events).countP (·.core?.isNone) := by
    rcases hevents with heq | ⟨queued, heq⟩
    · rw [heq]
    · rw [heq, List.countP_append, Nat.add_eq_left, List.countP_eq_zero]
      simp [Tokio.ConnectionEvent.core?]
  unfold EndsOnce at h ⊢
  rw [hcount]
  refine h.trans ?_
  split_ifs <;> simp_all

theorem EndsOnce.drainEvents (h : c.EndsOnce) : c.drainEvents.EndsOnce := by
  rw [drainEvents_eq]
  exact h.of_eq (.inr ⟨c.conn.queued, (List.append_assoc _ _ _).symm⟩) id

theorem EndsOnce.callWith (h : c.EndsOnce) (call : PathCall) (o : Outcome)
    (events : List Tokio.ConnectionEvent) : (c.callWith call o events).EndsOnce :=
  h.of_eq (.inl (by simp [delivered, Driven.callWith, record, DrivenAction.delivered])) id

theorem EndsOnce.popEvent (h : c.EndsOnce) {action : Tokio.ConnectionEvent → DrivenAction}
    (haction : ∀ event, (action event).delivered = [event]) : (c.popEvent action).EndsOnce := by
  unfold Driven.popEvent
  split
  · exact h
  · rename_i event events hevents
    refine h.of_eq (.inl ?_) id
    simp [delivered, record, haction, hevents]

theorem EndsOnce.step (h : c.EndsOnce) (op : DrivenOp) : (c.step op).EndsOnce := by
  cases op with
  | call | migrate => exact h.callWith _ _ _
  | callAndDrain => exact (h.callWith _ _ _).drainEvents
  | drainEvents => exact h.drainEvents
  | pushConnectionClosed =>
    simp only [Driven.step, Driven.pushConnectionClosed]
    split
    · exact h
    · rename_i hclosed
      -- the connection was not closed, so that this is the first one
      simp only [EndsOnce, hclosed, delivered, Bool.false_eq_true, if_false, Nat.le_zero] at h ⊢
      rw [← List.append_assoc, List.countP_append, h]
      simp
  | returnEvent => exact h.popEvent fun _ => rfl
  | pollEvent => exact h.popEvent fun _ => rfl
  | takePath =>
    simp only [Driven.step, Driven.takePath]
    split
    · exact h
    · exact h.of_eq (.inl rfl) id
  | writeQlog fails =>
    simp only [Driven.step, Driven.writeQlog]
    split
    · exact h
    · cases fails <;> exact h.of_eq (.inl rfl) id
  | returnError | sent | sendClose | waiting =>
    refine h.of_eq (.inl ?_) id
    simp [delivered, Driven.step, record, DrivenAction.delivered]
  | setClosed => exact h.of_eq (.inl rfl) fun _ => rfl

/-- An open file has taken everything. -/
theorem qlogData_writeQlog (c : Driven) (fails : Option ℕ) :
    (c.writeQlog fails).qlog.isOpen = true → (c.writeQlog fails).conn.qlogData = [] := by
  unfold writeQlog
  split
  · rename_i h
    intro hopen
    simpa [hopen] using h
  · cases fails with
    | none => exact fun _ => rfl
    | some n => exact fun h => by cases h

/-- Only the qlog changes. -/
theorem writeQlog_eq (c : Driven) (fails : Option ℕ) : ∃ (qlogData : Bytes) (qlog : QlogWriter),
    c.writeQlog fails = { c with conn := { c.conn with qlogData }, qlog } := by
  unfold writeQlog
  split
  · exact ⟨c.conn.qlogData, c.qlog, rfl⟩
  · cases fails with
    | none => exact ⟨_, _, rfl⟩
    | some n => exact ⟨_, _, rfl⟩

theorem log_writeQlog (c : Driven) (fails : Option ℕ) : (c.writeQlog fails).log = c.log := by
  obtain ⟨_, _, heq⟩ := writeQlog_eq c fails
  rw [heq]

/-- The qlog file takes what ngtcp2 holds, or a part of it. -/
theorem QlogKept.writeQlog (h : c.QlogKept) (fails : Option ℕ) : (c.writeQlog fails).QlogKept := by
  unfold Driven.writeQlog
  split
  · exact h
  · rename_i hopen
    obtain ⟨lost, heq, hlost⟩ := h
    obtain rfl := hlost (by simpa using fun h => hopen (.inl h))
    cases fails with
    | none => exact ⟨[], by simpa [emitted] using heq, fun _ => rfl⟩
    | some n =>
      refine ⟨c.conn.qlogData.drop n, ?_, fun h => by cases h⟩
      simpa [emitted] using heq

/-- Since `b`, what ngtcp2 wrote was not taken out. -/
def Piled (b c : Driven) : Prop :=
  c.qlog = b.qlog ∧ ∃ since, c.emitted = b.emitted ++ since ∧
    c.conn.qlogData = b.conn.qlogData ++ since

theorem Piled.of_eq {b c : Driven} (hq : c.qlog = b.qlog) (hdata : c.conn.qlogData = b.conn.qlogData)
    (hlog : c.emitted = b.emitted) : b.Piled c :=
  ⟨hq, [], by rw [hlog, List.append_nil], by rw [hdata, List.append_nil]⟩

theorem Piled.trans {a b c : Driven} (hab : a.Piled b) (hbc : b.Piled c) : a.Piled c := by
  obtain ⟨hq, since, hemitted, hdata⟩ := hab
  obtain ⟨hq', since', hemitted', hdata'⟩ := hbc
  refine ⟨hq'.trans hq, since ++ since', ?_, ?_⟩
  · rw [hemitted', hemitted, List.append_assoc]
  · rw [hdata', hdata, List.append_assoc]

theorem piled_callWith (c : Driven) (call : PathCall) (o : Outcome)
    (events : List Tokio.ConnectionEvent) : c.Piled (c.callWith call o events) :=
  ⟨rfl, o.qlog, by simp [emitted, callWith, record, DrivenAction.qlog], rfl⟩

theorem piled_drainEvents (c : Driven) : c.Piled c.drainEvents :=
  .of_eq (qlog_drainEvents c) (qlogData_drainEvents c) (by simp [emitted])

/-- What ngtcp2 wrote is taken out by `QlogWriter::write` only. -/
theorem piled_step (c : Driven) {op : DrivenOp} (hop : ∀ fails, op ≠ .writeQlog fails) :
    c.Piled (c.step op) := by
  cases op with
  | call | migrate => exact piled_callWith c _ _ _
  | callAndDrain => exact (piled_callWith c _ _ _).trans (piled_drainEvents _)
  | drainEvents => exact piled_drainEvents c
  | pushConnectionClosed =>
    refine .of_eq ?_ ?_ ?_ <;> simp only [step, pushConnectionClosed] <;> split <;> rfl
  | returnEvent | pollEvent =>
    refine .of_eq ?_ ?_ ?_ <;> simp only [step, popEvent] <;> split <;>
      simp [emitted, record, DrivenAction.qlog]
  | takePath => refine .of_eq ?_ ?_ ?_ <;> simp only [step, takePath] <;> split <;> rfl
  | writeQlog fails => exact absurd rfl (hop fails)
  | returnError | sent | sendClose | waiting =>
    refine .of_eq rfl rfl ?_
    simp [emitted, step, record, DrivenAction.qlog]
  | setClosed => exact .of_eq rfl rfl rfl

theorem QlogKept.piled {c' : Driven} (h : c.QlogKept) (hp : c.Piled c') : c'.QlogKept := by
  obtain ⟨lost, heq, hlost⟩ := h
  obtain ⟨hq, since, hemitted, hdata⟩ := hp
  refine ⟨lost, ?_, hq ▸ hlost⟩
  rw [hq, hdata, hemitted, ← heq, List.append_assoc _ c.conn.qlogData]

/-- Every operation of a driver keeps the qlog. -/
theorem QlogKept.step (h : c.QlogKept) (op : DrivenOp) : (c.step op).QlogKept := by
  by_cases hop : ∃ fails, op = .writeQlog fails
  · obtain ⟨fails, rfl⟩ := hop
    exact h.writeQlog fails
  · exact h.piled (piled_step c fun fails heq => hop ⟨fails, heq⟩)

/-- A file that was given up stays so, and nothing is taken out any more. -/
theorem Piled.step {b : Driven} (h : b.Piled c) (hb : b.qlog.isOpen = false) (op : DrivenOp) :
    b.Piled (c.step op) := by
  by_cases hop : ∃ fails, op = .writeQlog fails
  · obtain ⟨fails, rfl⟩ := hop
    have hclosed : c.qlog.isOpen = false := by rw [h.1, hb]
    have heq : c.step (.writeQlog fails) = c := by simp [Driven.step, Driven.writeQlog, hclosed]
    rw [heq]
    exact h
  · exact h.trans (piled_step c fun fails heq => hop ⟨fails, heq⟩)

end Driven

end Ngtcp2Rs
