import Ngtcp2Rs.Driver.Handshaking

/-!
# Handles of the server are loops

In a `World`, many handles share a socket and a table. For one handle, the rest of the world only
decides what its operation waited for (`World.loopOp`): a datagram of its own, one of another
connection, or a closed queue. `follows_run` says that every run of the server, as one handle sees
it, is a run of the loop of an accepted connection, with the same calls and results.
-/

namespace Ngtcp2Rs

open Lib

/-- The position of a handle, without the queue. -/
def Pc.toLoop : Pc → LoopPc
  | .idle => .idle
  | .flushing => .flushing
  | .sending _ => .sending
  | .selecting _ => .selecting

/-- The loop of a handle, with a log. -/
def AcceptedConnection.loop (a : AcceptedConnection) (log : List LoopAction) : EventLoop where
  queued := a.inner.queued
  events := a.inner.events
  isInClosingPeriod := a.inner.isInClosingPeriod
  isInDrainingPeriod := a.inner.isInDrainingPeriod
  closed := a.inner.closed
  pc := a.pc.toLoop
  log := log

/-- What an operation on the handle `h` is for its loop; `none` is nothing. -/
def World.loopOp (w : World) (h : ℕ) (a : AcceptedConnection) : Op → Option LoopOp
  | .flush ans => some (.flush ans)
  | .recvEvent flush => some (.recvEvent flush)
  | .sent => some .sent
  | .inbound read flush =>
    match a.pc, a.inbound with
    | .selecting true, _ :: _ => some (.datagram read flush)
    | .selecting true, [] => if w.receiver a.connectionId = some h then none else some (.wake flush)
    | _, _ => none
  | .socket d read flush =>
    match (w.routes.resolve d.data d.src).filter fun key => key ≠ a.connectionId with
    | some _ => some (.wake flush)
    | none => some (.datagram read flush)
  | .socketError => some .socketError
  | .timer expiry flush => some (.timer expiry flush)
  | .sendDatagram datagram control => some (.sendDatagram datagram control)
  | .close ans cancelled => some (.close ans cancelled)
  | .pollEvent => some .pollEvent
  | .cancel => some .cancel

/-- What an action of a loop is in the trace of the server. -/
def LoopAction.action (key : ConnectionId) : LoopAction → Option Action
  | .called call ans _ => some (.called key call ans)
  | .returned result => some (.returned key result)
  | .sent | .waiting | .polled _ => none

/-- The handle `h`, of the connection `key`, is where the loop `l` is. -/
def Tracks (key : ConnectionId) (h : ℕ) (w : World) (l : EventLoop) : Prop :=
  ∃ a, w.accepted.lookup h = some a ∧ a.connectionId = key ∧ a.loop l.log = l

/-- The trace grew by what the loop did. -/
def Traced (key : ConnectionId) (w w' : World) (l l' : EventLoop) : Prop :=
  ∃ acts, l'.log = acts ++ l.log ∧ w'.trace = acts.filterMap (LoopAction.action key) ++ w.trace

/-- The handle `h` did what its loop does, and the trace has it. -/
def Follows (key : ConnectionId) (h : ℕ) (w w' : World) (l l' : EventLoop) : Prop :=
  Tracks key h w' l' ∧ Traced key w w' l l'

theorem Traced.trans {key : ConnectionId} {w₁ w₂ w₃ : World} {l₁ l₂ l₃ : EventLoop}
    (h₁₂ : Traced key w₁ w₂ l₁ l₂) (h₂₃ : Traced key w₂ w₃ l₂ l₃) : Traced key w₁ w₃ l₁ l₃ := by
  obtain ⟨acts, hlog, htrace⟩ := h₁₂
  obtain ⟨acts', hlog', htrace'⟩ := h₂₃
  refine ⟨acts' ++ acts, ?_, ?_⟩
  · rw [hlog', hlog, List.append_assoc]
  · rw [htrace', htrace, List.filterMap_append, List.append_assoc]

theorem Traced.follows {key : ConnectionId} {h : ℕ} {w₁ w₂ w₃ : World} {l₁ l₂ l₃ : EventLoop}
    (h₁₂ : Traced key w₁ w₂ l₁ l₂) (h₂₃ : Follows key h w₂ w₃ l₂ l₃) : Follows key h w₁ w₃ l₁ l₃ :=
  ⟨h₂₃.1, h₁₂.trans h₂₃.2⟩

section Follows

variable (w : World) (h : ℕ) (a : AcceptedConnection) (log : List LoopAction)

/-- The handle is replaced by one that is where the loop is. -/
theorem tracks_set (a' : AcceptedConnection) (hid : a'.connectionId = a.connectionId) :
    Tracks a.connectionId h (w.set h a') (a'.loop log) :=
  ⟨a', lookup_set w h a', hid, rfl⟩

/-- A call is in the trace. -/
theorem traced_call (c : NgCall) (ans : Answer) :
    Traced a.connectionId w (w.call h a c ans) (a.loop log) ((a.loop log).callAndDrain c ans) :=
  ⟨[.called c ans _], rfl, rfl⟩

theorem follows_returnError (err : Error) :
    Follows a.connectionId h w (w.returnError h a err) (a.loop log) ((a.loop log).returnError err) :=
  ⟨tracks_set w h a _ { a with pc := .idle } rfl, [.returned (.error err)], rfl, rfl⟩

theorem follows_returnEvent (err : Error) :
    Follows a.connectionId h w (w.returnEvent h a err) (a.loop log)
      ((a.loop log).returnEvent err) := by
  unfold World.returnEvent EventLoop.returnEvent
  cases hev : a.inner.events with
  | nil =>
    rw [show (a.loop log).events = [] from hev]
    exact follows_returnError w h a log err
  | cons event events =>
    rw [show (a.loop log).events = event :: events from hev]
    exact ⟨tracks_set w h a _ { a with inner := { a.inner with events }, pc := .idle } rfl,
      [.returned (.ok event)], rfl, rfl⟩

theorem loop_pushConnectionClosed :
    (a.loop log).pushConnectionClosed =
      { a with inner := a.inner.pushConnectionClosed }.loop log := by
  unfold EventLoop.pushConnectionClosed ServerConnection.pushConnectionClosed
  cases hc : a.inner.closed <;> simp [AcceptedConnection.loop, hc]

theorem follows_returnClosed (err : Error) :
    Follows a.connectionId h w (w.returnClosed h a err) (a.loop log)
      ((a.loop log).returnClosed err) := by
  unfold World.returnClosed EventLoop.returnClosed
  rw [loop_pushConnectionClosed]
  exact follows_returnEvent w h { a with inner := a.inner.pushConnectionClosed } log err

theorem follows_recvLoop (queueOpen : Bool) (flush : Answer) :
    Follows a.connectionId h w (w.recvLoop h a queueOpen flush) (a.loop log)
      ((a.loop log).recvLoop .accepted flush) := by
  unfold World.recvLoop EventLoop.recvLoop
  by_cases hev : a.inner.events ≠ []
  · rw [if_pos hev, if_pos (show (a.loop log).events ≠ [] from hev)]
    exact follows_returnEvent w h a log _
  rw [if_neg hev, if_neg (show ¬ (a.loop log).events ≠ [] from hev)]
  by_cases hend : a.inner.isEnding = true
  · rw [if_pos hend, if_pos (show (a.loop log).isEnding = true from hend)]
    exact follows_returnClosed w h a log _
  rw [if_neg hend, if_neg (show ¬ (a.loop log).isEnding = true from hend)]
  have hcall := traced_call w h a log .writePackets flush
  cases flush.error with
  | some e => exact hcall.follows (follows_returnError _ h (a.called flush) _ e)
  | none =>
    exact hcall.follows ⟨tracks_set _ h a _ { a.called flush with pc := .sending queueOpen } rfl,
      [], rfl, rfl⟩

theorem follows_readDatagram (queueOpen : Bool) (read flush : Answer) :
    Follows a.connectionId h w (w.readDatagram h a queueOpen read flush) (a.loop log)
      ((a.loop log).readDatagram .accepted read flush) := by
  have hcall := traced_call w h a log .read read
  unfold World.readDatagram EventLoop.readDatagram
  cases read.error.filter fun e => e.classifyConnectionError = .internal with
  | some e => exact hcall.follows (follows_returnError _ h (a.called read) _ e)
  | none =>
    have hsync : Traced a.connectionId w ((w.call h a .read read).syncRoutes h (a.called read))
        (a.loop log) ((a.loop log).callAndDrain .read read) := hcall
    exact hsync.follows (follows_recvLoop _ h (a.called read).polled _ queueOpen flush)

theorem follows_recvTimer (queueOpen : Bool) (expiry flush : Answer) :
    Follows a.connectionId h w (w.recvTimer h a queueOpen expiry flush) (a.loop log)
      ((a.loop log).recvTimer .accepted expiry flush) := by
  have hcall := traced_call w h a log .expiry expiry
  unfold World.recvTimer EventLoop.recvTimer
  simp only
  cases expiry.error.filter fun e =>
      e.classifyConnectionError ≠ .ignore ∧ e.classifyConnectionError ≠ .terminal with
  | some e => exact hcall.follows (follows_returnClosed _ h (a.called expiry) _ e)
  | none => exact hcall.follows (follows_recvLoop _ h (a.called expiry) _ queueOpen flush)

theorem follows_sent (queueOpen : Bool) (hpc : a.pc = .sending queueOpen) :
    Follows a.connectionId h w (w.sent h a) (a.loop log)
      (((a.loop log).record .sent).afterSending .accepted) := by
  have hsync : Traced a.connectionId w (w.syncRoutes h a) (a.loop log) (a.polled.loop (.sent :: log)) :=
    ⟨[.sent], rfl, rfl⟩
  unfold World.sent EventLoop.afterSending
  rw [hpc]
  simp only
  by_cases hev : a.inner.events ≠ []
  · rw [if_pos hev, if_pos (show (((a.loop log).record .sent).drainSent .accepted).events ≠ [] from hev)]
    exact hsync.follows (follows_returnEvent (w.syncRoutes h a) h a.polled (.sent :: log) _)
  · rw [if_neg hev,
      if_neg (show ¬ (((a.loop log).record .sent).drainSent .accepted).events ≠ [] from hev)]
    exact ⟨tracks_set _ h a _ { a.polled with pc := .selecting queueOpen } rfl,
      [.waiting, .sent], rfl, rfl⟩

theorem follows_flush (ans : Answer) :
    Follows a.connectionId h w (w.flush h a ans) (a.loop log) ((a.loop log).flush .accepted ans) := by
  have hcall := traced_call w h a log .writePackets ans
  unfold World.flush EventLoop.flush
  cases ans.error with
  | some e => exact ⟨tracks_set _ h a _ (a.called ans) rfl, hcall⟩
  | none => exact ⟨tracks_set _ h a _ { a.called ans with pc := .flushing } rfl, hcall⟩

theorem follows_recvEvent (flush : Answer) :
    Follows a.connectionId h w (w.recvEvent h a flush) (a.loop log)
      ((a.loop log).recvEvent .accepted flush) := by
  unfold World.recvEvent EventLoop.recvEvent
  by_cases hev : a.inner.events ≠ []
  · rw [if_pos hev, if_pos (show (a.loop log).events ≠ [] from hev)]
    exact follows_returnEvent w h a log _
  rw [if_neg hev, if_neg (show ¬ (a.loop log).events ≠ [] from hev)]
  by_cases hclosed : a.isClosed = true
  · rw [if_pos hclosed, if_pos (show (a.loop log).isClosed = true from hclosed)]
    exact follows_returnClosed w h a log _
  rw [if_neg hclosed, if_neg (show ¬ (a.loop log).isClosed = true from hclosed)]
  exact follows_recvLoop w h a log true flush

theorem follows_sendDatagram (datagram : Answer) (control : Option Answer) :
    Follows a.connectionId h w (w.sendDatagram h a datagram control) (a.loop log)
      ((a.loop log).sendDatagram datagram control) := by
  cases control with
  | none => exact ⟨⟨_, lookup_set _ h _, rfl, rfl⟩, [.called .writeDatagram datagram _], rfl, rfl⟩
  | some control =>
    exact ⟨⟨_, lookup_set _ h _, rfl, rfl⟩,
      [.called .writePackets control _, .called .writeDatagram datagram _], rfl, rfl⟩

/-- Nothing happens. -/
theorem follows_refl (ha : w.accepted.lookup h = some a) :
    Follows a.connectionId h w w (a.loop log) (a.loop log) :=
  ⟨⟨a, ha, rfl, rfl⟩, [], rfl, rfl⟩

theorem follows_close (ans : Answer) (cancelled : Bool) (ha : w.accepted.lookup h = some a) :
    Follows a.connectionId h w (w.close h a ans cancelled) (a.loop log)
      ((a.loop log).close ans cancelled) := by
  unfold World.close EventLoop.close
  by_cases hclosed : a.isClosed = true
  · rw [if_pos hclosed, if_pos (show (a.loop log).isClosed = true from hclosed)]
    exact follows_refl w h a log ha
  rw [if_neg hclosed, if_neg (show ¬ (a.loop log).isClosed = true from hclosed)]
  simp only
  split
  · exact ⟨⟨_, lookup_set _ h _, rfl, rfl⟩, [.called .close ans _], rfl, rfl⟩
  · exact ⟨⟨_, lookup_set _ h _, rfl, rfl⟩, [.called .close ans _], rfl, rfl⟩

theorem follows_pollEvent :
    Follows a.connectionId h w
      (w.set h { a with inner := { a.inner with events := a.inner.events.tail } }) (a.loop log)
      (a.loop log).pollEvent := by
  unfold EventLoop.pollEvent
  cases hev : a.inner.events with
  | nil =>
    rw [show (a.loop log).events = [] from hev]
    refine ⟨⟨_, lookup_set w h _, rfl, ?_⟩, [], rfl, rfl⟩
    simp [AcceptedConnection.loop, hev]
  | cons event events =>
    rw [show (a.loop log).events = event :: events from hev]
    exact ⟨⟨_, lookup_set w h _, rfl, rfl⟩, [.polled event], rfl, rfl⟩

/-- A datagram that is handed over adds to a queue, or removes routes. -/
theorem lookup_deliver (key : ConnectionId) (d : InboundDatagram)
    (ha : w.accepted.lookup h = some a) :
    ∃ inbound, (w.deliver key d).accepted.lookup h = some { a with inbound } := by
  unfold World.deliver
  split
  · exact ⟨a.inbound, ha⟩
  · rename_i h' _
    split
    · exact ⟨a.inbound, ha⟩
    · rename_i a' ha'
      split
      · by_cases hh : h = h'
        · subst hh
          cases ha.symm.trans ha'
          exact ⟨_, lookup_set w h _⟩
        · exact ⟨a.inbound, (AList.lookup_insert_ne hh).trans ha⟩
      · exact ⟨a.inbound, ha⟩

/-- The queue of a handle is not part of its loop. -/
theorem follows_handleReceivedDatagram (queueOpen : Bool) (d : InboundDatagram)
    (read flush : Answer) (ha : w.accepted.lookup h = some a) :
    Follows a.connectionId h w (w.handleReceivedDatagram h a queueOpen d read flush) (a.loop log)
      (match (w.routes.resolve d.data d.src).filter fun key => key ≠ a.connectionId with
        | some _ => (a.loop log).recvLoop .accepted flush
        | none => (a.loop log).readDatagram .accepted read flush) := by
  unfold World.handleReceivedDatagram
  cases (w.routes.resolve d.data d.src).filter fun key => key ≠ a.connectionId with
  | none => exact follows_readDatagram w h a log queueOpen read flush
  | some key =>
    obtain ⟨inbound, hd⟩ := lookup_deliver w h a key d ha
    have hdeliver : Traced a.connectionId w (w.deliver key d) (a.loop log) (a.loop log) :=
      ⟨[], rfl, congrArg Server.trace (connections_deliver w key d)⟩
    simp only [hd]
    exact hdeliver.follows (follows_recvLoop _ h { a with inbound } log queueOpen flush)

/-- The loop that an operation on the handle leads to. -/
def World.loopStep (w : World) (h : ℕ) (a : AcceptedConnection) (op : Op) (l : EventLoop) :
    EventLoop :=
  match w.loopOp h a op with
  | some op => l.step .accepted op
  | none => l

theorem follows_recvInbound (read flush : Answer) (hpc : a.pc = .selecting true)
    (ha : w.accepted.lookup h = some a) :
    Follows a.connectionId h w (w.recvInbound h a read flush) (a.loop log)
      (w.loopStep h a (.inbound read flush) (a.loop log)) := by
  have hl : (a.loop log).pc = .selecting := congrArg Pc.toLoop hpc
  unfold World.recvInbound World.loopStep
  cases hin : a.inbound with
  | nil =>
    simp only [World.loopOp, hpc, hin]
    split
    · exact follows_refl w h a log ha
    · simp only [EventLoop.step, hl]
      exact follows_recvLoop w h a log false flush
  | cons first inbound =>
    have hop : w.loopOp h a (.inbound read flush) = some (.datagram read flush) := by
      simp only [World.loopOp, hpc, hin]
    simp only [hop, EventLoop.step, hl]
    exact follows_readDatagram (w.set h { a with inbound }) h { a with inbound } log true read flush

theorem follows_socket (d : InboundDatagram) (read flush : Answer) (queueOpen : Bool)
    (hpc : a.pc = .selecting queueOpen) (ha : w.accepted.lookup h = some a) :
    Follows a.connectionId h w (w.handleReceivedDatagram h a queueOpen d read flush) (a.loop log)
      (w.loopStep h a (.socket d read flush) (a.loop log)) := by
  have hl : (a.loop log).pc = .selecting := congrArg Pc.toLoop hpc
  have hfollow := follows_handleReceivedDatagram w h a log queueOpen d read flush ha
  cases hr : (w.routes.resolve d.data d.src).filter fun key => key ≠ a.connectionId with
  | none =>
    simp only [hr] at hfollow
    simp only [World.loopStep, World.loopOp, hr, EventLoop.step, hl]
    exact hfollow
  | some key =>
    simp only [hr] at hfollow
    simp only [World.loopStep, World.loopOp, hr, EventLoop.step, hl]
    exact hfollow

/-- Operations that end the select. -/
def Op.EndsSelect : Op → Prop
  | .inbound .. | .socket .. | .socketError | .timer .. => True
  | _ => False

/-- Outside its select, the loop ignores them. -/
theorem loopStep_ignored {op : Op} (hpc : ∀ queueOpen, a.pc ≠ .selecting queueOpen)
    (hop : op.EndsSelect) : w.loopStep h a op (a.loop log) = a.loop log := by
  have hl : (a.loop log).pc ≠ .selecting := by
    change a.pc.toLoop ≠ .selecting
    cases hpc' : a.pc with
    | selecting queueOpen => exact absurd hpc' (hpc queueOpen)
    | _ => simp [Pc.toLoop]
  have hstep (op : LoopOp) (hop : (∃ read flush, op = .datagram read flush) ∨
      (∃ flush, op = .wake flush) ∨ op = .socketError ∨ ∃ expiry flush, op = .timer expiry flush) :
      (a.loop log).step .accepted op = a.loop log := by
    unfold EventLoop.step
    rcases hop with ⟨_, _, rfl⟩ | ⟨_, rfl⟩ | rfl | ⟨_, _, rfl⟩ <;>
      cases hp : (a.loop log).pc <;> first | rfl | exact absurd hp hl
  unfold World.loopStep
  cases op with
  | socket d read flush =>
    unfold World.loopOp
    cases hr : (w.routes.resolve d.data d.src).filter fun key => key ≠ a.connectionId with
    | none => simp only [hr]; exact hstep _ (.inl ⟨read, flush, rfl⟩)
    | some key => simp only [hr]; exact hstep _ (.inr (.inl ⟨flush, rfl⟩))
  | socketError => exact hstep _ (.inr (.inr (.inl rfl)))
  | timer expiry flush => exact hstep _ (.inr (.inr (.inr ⟨expiry, flush, rfl⟩)))
  | inbound read flush =>
    have hnone : w.loopOp h a (.inbound read flush) = none := by
      unfold World.loopOp
      cases hpc' : a.pc with
      | selecting queueOpen => exact absurd hpc' (hpc queueOpen)
      | _ => rfl
    rw [hnone]
  | _ => exact hop.elim

/-- **One step of a handle** is one of its loop, or nothing. -/
theorem follows_stepOp (op : Op) (ha : w.accepted.lookup h = some a) :
    Follows a.connectionId h w (w.stepOp h a op) (a.loop log)
      (w.loopStep h a op (a.loop log)) := by
  have hstay := follows_refl w h a log ha
  have hcancel : Follows a.connectionId h w (w.set h { a with pc := .idle }) (a.loop log)
      { a.loop log with pc := .idle } :=
    ⟨tracks_set w h a log { a with pc := .idle } rfl, [], rfl, rfl⟩
  have hignored (hpc : ∀ queueOpen, a.pc ≠ .selecting queueOpen) (hop : op.EndsSelect) :
      Follows a.connectionId h w w (a.loop log) (w.loopStep h a op (a.loop log)) := by
    rw [loopStep_ignored w h a log hpc hop]
    exact hstay
  obtain ⟨key, inner, inbound, pc⟩ := a
  cases pc with
  | idle =>
    cases op with
    | flush ans => exact follows_flush w h _ log ans
    | recvEvent flush => exact follows_recvEvent w h _ log flush
    | sendDatagram datagram control => exact follows_sendDatagram w h _ log datagram control
    | close ans cancelled => exact follows_close w h _ log ans cancelled ha
    | pollEvent => exact follows_pollEvent w h _ log
    | cancel => exact hcancel
    | sent => exact hstay
    | _ => exact hignored (by simp) trivial
  | flushing =>
    cases op with
    | sent => exact ⟨⟨_, lookup_set _ h _, rfl, rfl⟩, [.sent], rfl, rfl⟩
    | cancel => exact hcancel
    | flush | recvEvent | sendDatagram | close | pollEvent => exact hstay
    | _ => exact hignored (by simp) trivial
  | sending queueOpen =>
    cases op with
    | sent => exact follows_sent w h _ log queueOpen rfl
    | cancel => exact hcancel
    | flush | recvEvent | sendDatagram | close | pollEvent => exact hstay
    | _ => exact hignored (by simp) trivial
  | selecting queueOpen =>
    cases op with
    | inbound read flush =>
      cases queueOpen with
      | true => exact follows_recvInbound w h _ log read flush rfl ha
      | false => exact hstay
    | socket d read flush =>
      cases queueOpen <;> exact follows_socket w h _ log d read flush _ rfl ha
    | socketError => cases queueOpen <;> exact follows_returnError w h _ log _
    | timer expiry flush => cases queueOpen <;> exact follows_recvTimer w h _ log _ expiry flush
    | cancel => cases queueOpen <;> exact hcancel
    | flush | recvEvent | sendDatagram | close | pollEvent | sent =>
      cases queueOpen <;> exact hstay

end Follows

/-! ## Other steps -/

/-- The handle `h` is as it was, but for its queue. -/
def Kept (h : ℕ) (w w' : World) : Prop :=
  ∀ a, w.accepted.lookup h = some a → ∃ inbound, w'.accepted.lookup h = some { a with inbound }

section Kept

variable {h h' : ℕ} {w : World} (hne : h ≠ h') (a : AcceptedConnection)

theorem Kept.of_eq {w' : World} (heq : w'.accepted.lookup h = w.accepted.lookup h) : Kept h w w' :=
  fun a ha => ⟨a.inbound, heq.trans ha⟩

theorem Kept.trans {w₁ w₂ w₃ : World} (h₁₂ : Kept h w₁ w₂) (h₂₃ : Kept h w₂ w₃) : Kept h w₁ w₃ := by
  intro a ha
  obtain ⟨inbound, ha₂⟩ := h₁₂ a ha
  obtain ⟨inbound', ha₃⟩ := h₂₃ _ ha₂
  exact ⟨inbound', ha₃⟩

theorem Kept.tracks {w' : World} {key : ConnectionId} {l : EventLoop} (hk : Kept h w w')
    (hl : Tracks key h w l) : Tracks key h w' l := by
  obtain ⟨a, ha, hid, heq⟩ := hl
  obtain ⟨inbound, ha'⟩ := hk a ha
  exact ⟨_, ha', hid, heq⟩

theorem kept_deliver (w : World) (key : ConnectionId) (d : InboundDatagram) :
    Kept h w (w.deliver key d) := fun a ha => lookup_deliver w h a key d ha

include hne

theorem kept_set (w : World) : Kept h w (w.set h' a) := .of_eq (AList.lookup_insert_ne hne)

theorem kept_returnEvent (w : World) (err : Error) : Kept h w (w.returnEvent h' a err) := by
  unfold World.returnEvent
  split <;> exact .of_eq (AList.lookup_insert_ne hne)

theorem kept_recvLoop (w : World) (queueOpen : Bool) (flush : Answer) :
    Kept h w (w.recvLoop h' a queueOpen flush) := by
  have hcall : Kept h w (w.call h' a .writePackets flush) := .of_eq (AList.lookup_insert_ne hne)
  unfold World.recvLoop
  split
  · exact kept_returnEvent hne a w _
  split
  · exact kept_returnEvent hne _ w _
  split
  · exact hcall.trans (.of_eq (AList.lookup_insert_ne hne))
  · exact hcall.trans (kept_set hne _ _)

theorem kept_readDatagram (w : World) (queueOpen : Bool) (read flush : Answer) :
    Kept h w (w.readDatagram h' a queueOpen read flush) := by
  have hcall : Kept h w (w.call h' a .read read) := .of_eq (AList.lookup_insert_ne hne)
  unfold World.readDatagram
  split
  · exact hcall.trans (.of_eq (AList.lookup_insert_ne hne))
  · have hsync : Kept h (w.call h' a .read read)
        ((w.call h' a .read read).syncRoutes h' (a.called read)) :=
      .of_eq (AList.lookup_insert_ne hne)
    exact (hcall.trans hsync).trans (kept_recvLoop hne _ _ queueOpen flush)

theorem kept_sent (w : World) : Kept h w (w.sent h' a) := by
  have hsync : Kept h w (w.syncRoutes h' a) := .of_eq (AList.lookup_insert_ne hne)
  unfold World.sent
  split
  · exact hsync.trans (kept_set hne _ _)
  · split
    · exact hsync.trans (kept_returnEvent hne _ _ _)
    · exact hsync.trans (kept_set hne _ _)
  · exact .of_eq rfl

theorem kept_handleReceivedDatagram (w : World) (queueOpen : Bool) (d : InboundDatagram)
    (read flush : Answer) : Kept h w (w.handleReceivedDatagram h' a queueOpen d read flush) := by
  unfold World.handleReceivedDatagram
  split
  · split
    · exact (kept_deliver w _ d).trans (kept_recvLoop hne _ _ queueOpen flush)
    · exact kept_deliver w _ d
  · exact kept_readDatagram hne a w queueOpen read flush

theorem kept_recvInbound (w : World) (read flush : Answer) :
    Kept h w (w.recvInbound h' a read flush) := by
  unfold World.recvInbound
  split
  · exact (kept_set hne _ w).trans (kept_readDatagram hne _ _ true read flush)
  · split
    · exact .of_eq rfl
    · exact kept_recvLoop hne a w false flush

theorem kept_recvTimer (w : World) (queueOpen : Bool) (expiry flush : Answer) :
    Kept h w (w.recvTimer h' a queueOpen expiry flush) := by
  have hcall : Kept h w (w.call h' a .expiry expiry) := .of_eq (AList.lookup_insert_ne hne)
  unfold World.recvTimer
  split
  · exact hcall.trans (kept_returnEvent hne _ _ _)
  · exact hcall.trans (kept_recvLoop hne _ _ queueOpen flush)

theorem kept_sendDatagram (w : World) (datagram : Answer) (control : Option Answer) :
    Kept h w (w.sendDatagram h' a datagram control) := by
  have hcall (c : NgCall) (w : World) (a : AcceptedConnection) (ans : Answer) :
      Kept h w ((w.set h' a).record (.called a.connectionId c ans)) :=
    .of_eq (AList.lookup_insert_ne hne)
  unfold World.sendDatagram
  split
  · exact hcall .writeDatagram w _ datagram
  · exact (hcall .writeDatagram w { a with inner := a.inner.call datagram.effect } datagram).trans
      (hcall .writePackets _ _ _)

theorem kept_close (w : World) (ans : Answer) (cancelled : Bool) :
    Kept h w (w.close h' a ans cancelled) := by
  have hcall : Kept h w ((w.set h' { a with inner := a.inner.call ans.effect }).record
      (.called a.connectionId .close ans)) := .of_eq (AList.lookup_insert_ne hne)
  unfold World.close
  split
  · exact .of_eq rfl
  simp only
  split
  · exact hcall
  · exact hcall.trans (kept_set hne _ _)

theorem kept_flush (w : World) (ans : Answer) : Kept h w (w.flush h' a ans) := by
  have hcall : Kept h w (w.call h' a .writePackets ans) := .of_eq (AList.lookup_insert_ne hne)
  unfold World.flush
  split
  · exact hcall
  · exact hcall.trans (kept_set hne _ _)

theorem kept_stepOp (w : World) (op : Op) : Kept h w (w.stepOp h' a op) := by
  unfold World.stepOp
  split
  · exact kept_flush hne a w _
  · unfold World.recvEvent
    split
    · exact kept_returnEvent hne a w _
    split
    · exact kept_returnEvent hne _ w _
    · exact kept_recvLoop hne a w true _
  · exact kept_sendDatagram hne a w _ _
  · exact kept_close hne a w _ _
  · exact kept_set hne _ w
  · exact kept_sent hne a w
  · exact kept_sent hne a w
  · exact kept_recvInbound hne a w _ _
  · exact kept_handleReceivedDatagram hne a w _ _ _ _
  · exact .of_eq (AList.lookup_insert_ne hne)
  · exact kept_recvTimer hne a w _ _ _
  · exact kept_set hne _ w
  · exact .of_eq rfl

end Kept

/-- The labels of a handle. -/
def Label.Of (h : ℕ) : Label → Prop
  | .op h' _ | .drop h' => h' = h
  | _ => False

section Run

variable {ext : External} {cfg : ServerConfig} {h : ℕ} {w : World}

/-- The other steps leave a handle alone. -/
theorem kept_step {l : Label} (hl : ¬ l.Of h) (hlt : h < w.nextHandle) :
    Kept h w (w.step ext cfg l) := by
  cases l with
  | removeClosed => exact .of_eq rfl
  | timers keys timers => exact .of_eq rfl
  | accept key =>
    simp only [World.step, World.accept]
    split
    · exact .of_eq rfl
    split
    · split
      · exact .of_eq rfl
      · exact .of_eq (AList.lookup_insert_ne (Nat.ne_of_lt hlt))
    · exact .of_eq rfl
  | datagram d ts ans =>
    simp only [World.step, World.handleDatagram]
    split
    · exact .of_eq rfl
    · split
      · exact kept_deliver w _ d
      · split <;> exact .of_eq rfl
  | op h' op =>
    simp only [World.step]
    split
    · rename_i a _
      exact kept_stepOp (Ne.symm hl) a w op
    · exact .of_eq rfl
  | drop h' =>
    simp only [World.step]
    split
    · exact .of_eq (AList.lookup_erase_ne (Ne.symm hl))
    · exact .of_eq rfl

theorem nextHandle_step (w : World) (l : Label) : w.nextHandle ≤ (w.step ext cfg l).nextHandle := by
  have hedit {w w' : World} (he : Edit cfg w w') : w.nextHandle ≤ w'.nextHandle := by
    cases he <;> first | exact Nat.le_succ _ | exact le_rfl
  have hchain {w' : World} (he : Edits cfg w w') : w.nextHandle ≤ w'.nextHandle := by
    induction he with
    | refl => exact le_rfl
    | tail _ hlast ih => exact ih.trans (hedit hlast)
  exact hchain (step_edits ext cfg w l)

/-- What a label is for the loop of the handle `h`. -/
def World.loopOpOf (w : World) (h : ℕ) : Label → Option LoopOp
  | .op h' op => if h' = h then (w.accepted.lookup h).bind fun a => w.loopOp h a op else none
  | _ => none

/-- What a run is for the loop of the handle `h`. -/
def loopOps (ext : External) (cfg : ServerConfig) (h : ℕ) : World → List Label → List LoopOp
  | _, [] => []
  | w, l :: ls => (w.loopOpOf h l).toList ++ loopOps ext cfg h (w.step ext cfg l) ls

/-- What a step of the handle `h` added to the trace, newest first. -/
def World.handleActions (ext : External) (cfg : ServerConfig) (h : ℕ) (w : World) :
    Label → List Action
  | .op h' op => if h' = h then addedActions w.trace (w.step ext cfg (.op h' op)).trace else []
  | _ => []

/-- What the handle `h` did in a run, newest first. -/
def handleLog (ext : External) (cfg : ServerConfig) (h : ℕ) : World → List Label → List Action
  | _, [] => []
  | w, l :: ls => handleLog ext cfg h (w.step ext cfg l) ls ++ w.handleActions ext cfg h l

variable {key : ConnectionId}

theorem follows_step {l : Label} {loop : EventLoop} (hl : l ≠ .drop h) (hlt : h < w.nextHandle)
    (ht : Tracks key h w loop) :
    let loop' := run (EventLoop.step .accepted) loop (w.loopOpOf h l).toList
    Tracks key h (w.step ext cfg l) loop' ∧ ∃ acts, loop'.log = acts ++ loop.log ∧
      w.handleActions ext cfg h l = acts.filterMap (LoopAction.action key) := by
  by_cases hof : l.Of h
  · cases l with
    | op h' op =>
      obtain rfl : h' = h := hof
      obtain ⟨a, ha, rfl, heq⟩ := ht
      have hstep : w.step ext cfg (.op h' op) = w.stepOp h' a op := by
        simp only [World.step, ha]
      have hrun : run (EventLoop.step .accepted) loop (w.loopOpOf h' (.op h' op)).toList =
          w.loopStep h' a op loop := by
        simp only [World.loopOpOf, if_pos, ha, Option.bind_some, World.loopStep]
        cases w.loopOp h' a op <;> rfl
      obtain ⟨htrack, acts, hlog, htrace⟩ := follows_stepOp w h' a loop.log op ha
      rw [heq] at htrack hlog
      simp only [hrun, World.handleActions, if_true, hstep]
      exact ⟨htrack, acts, hlog, by rw [htrace, addedActions_append]⟩
    | drop h' => exact absurd (congrArg Label.drop hof) hl
    | _ => exact hof.elim
  · have hnone : w.loopOpOf h l = none := by
      cases l with
      | op h' op => exact if_neg hof
      | _ => rfl
    have hacts : w.handleActions ext cfg h l = [] := by
      cases l with
      | op h' op => exact if_neg hof
      | _ => rfl
    rw [hnone, hacts]
    exact ⟨(kept_step hof hlt).tracks ht, [], rfl, rfl⟩

/-- **A handle is a loop.** Every run of the server, up to the drop of the handle, is a run of the
loop of an accepted connection, and what the handle did is in the log of the loop. -/
theorem follows_run : ∀ (ls : List Label) (w : World) (loop : EventLoop), .drop h ∉ ls →
    h < w.nextHandle → Tracks key h w loop →
    let loop' := run (EventLoop.step .accepted) loop (loopOps ext cfg h w ls)
    Tracks key h (run (World.step ext cfg) w ls) loop' ∧ ∃ acts, loop'.log = acts ++ loop.log ∧
      handleLog ext cfg h w ls = acts.filterMap (LoopAction.action key)
  | [], _, _, _, _, ht => ⟨ht, [], rfl, rfl⟩
  | l :: ls, w, loop, hdrop, hlt, ht => by
    have hl : l ≠ .drop h := fun heq => hdrop (heq ▸ List.mem_cons_self)
    obtain ⟨hnext, acts, hlog, hacts⟩ := @follows_step ext cfg h w key l loop hl hlt ht
    obtain ⟨hrest, acts', hlog', hacts'⟩ := follows_run ls _ _
      (fun hmem => hdrop (List.mem_cons_of_mem l hmem)) (hlt.trans_le (nextHandle_step w l)) hnext
    simp only [loopOps, handleLog, run_append]
    refine ⟨hrest, acts' ++ acts, ?_, ?_⟩
    · rw [hlog', hlog, List.append_assoc]
    · rw [hacts', hacts, List.filterMap_append]

/-- `accept` returns a handle at the start of its loop. -/
theorem tracks_accept {c : ServerConnection} (hc : w.server.connections.lookup key = some c)
    (hdone : c.isHandshakeCompleted = true) :
    Tracks key w.nextHandle (w.step ext cfg (.accept key))
        (({ connectionId := key, inner := c } : AcceptedConnection).loop []) ∧
      (w.step ext cfg (.accept key)).nextHandle = w.nextHandle + 1 := by
  obtain ⟨s, r, ht⟩ := exists_takeConnection hc w.routes w.nextHandle
  simp only [World.step, World.accept, hc, hdone, if_true, ht]
  exact ⟨⟨_, AList.lookup_insert _, rfl, rfl⟩, trivial⟩

end Run

end Ngtcp2Rs
