import Ngtcp2Rs.Driver.EventLoop

/-!
# The end of a connection

When `read_pkt` or `handle_expiry` fails, the application is to get the events that are queued, one
`ConnectionClosed`, and from then on an error. What still comes is `remaining`; as soon as the
connection has ended, a step delivers from it or adds an error (`Ended.step`).

* `EndReported`: the end of the connection is reported once, and nothing comes after it.
* `end_reported`: that is so unless the error leaves the loop running.
* `idle_timeout_unreported`: the client goes on after an idle timeout.
-/

namespace Ngtcp2Rs

open Lib

/-! ## Deliveries -/

/-- What the application got, in its order. -/
def deliveries (log : List LoopAction) : List (Except Error ConnectionEvent) :=
  (log.filterMap fun
    | .returned result => some result
    | .polled event => some (.ok event)
    | _ => none).reverse

@[simp] theorem deliveries_nil : deliveries [] = [] := rfl

theorem deliveries_append (later earlier : List LoopAction) :
    deliveries (later ++ earlier) = deliveries earlier ++ deliveries later := by
  unfold deliveries
  rw [List.filterMap_append, List.reverse_append]

@[simp] theorem deliveries_called (c : NgCall) (ans : Answer) (events : List ConnectionEvent)
    (log : List LoopAction) : deliveries (.called c ans events :: log) = deliveries log := rfl

@[simp] theorem deliveries_sent (log : List LoopAction) :
    deliveries (.sent :: log) = deliveries log := rfl

@[simp] theorem deliveries_waiting (log : List LoopAction) :
    deliveries (.waiting :: log) = deliveries log := rfl

@[simp] theorem deliveries_returned (result : Except Error ConnectionEvent) (log : List LoopAction) :
    deliveries (.returned result :: log) = deliveries log ++ [result] := by
  simp [deliveries]

@[simp] theorem deliveries_polled (event : ConnectionEvent) (log : List LoopAction) :
    deliveries (.polled event :: log) = deliveries log ++ [.ok event] := by
  simp [deliveries]

/-- A call that ends the connection. -/
def LoopAction.Fails : LoopAction → Prop
  | .called call ans _ =>
    (call = .read ∨ call = .expiry) ∧ ∃ e, ans.error = some e ∧ e.classifyConnectionError ≠ .ignore
  | _ => False

namespace EventLoop

/-- The events that are to be delivered: those that are queued, and `ConnectionClosed`. -/
def remaining (l : EventLoop) : List ConnectionEvent :=
  l.events ++ if l.closed then [] else [.connectionClosed]

/-- The connection has ended, and `recv_event` does not run. -/
structure Ended (l : EventLoop) : Prop where
  closed : l.isClosed = true
  pc : l.pc = .idle ∨ l.pc = .flushing

end EventLoop

/-- `ConnectionClosed`, and then errors. -/
def closing (n : ℕ) : List (Except Error ConnectionEvent) :=
  .ok .connectionClosed :: List.replicate n (.error .connectionClosed)

theorem closing_append (n m : ℕ) :
    closing n ++ List.replicate m (.error .connectionClosed) = closing (n + m) := by
  simp [closing, List.replicate_append_replicate]

/-- What was delivered since the connection failed, and what remains: the events that were queued
then, the end of the connection, and errors. -/
structure ReportedSince (l : EventLoop) (later : List LoopAction) (events : List ConnectionEvent) :
    Prop where
  waitless : .waiting ∉ later
  delivered : ∃ n, deliveries later ++ l.remaining.map .ok = events.map .ok ++ closing n

/-- The end of the connection is reported once, in its turn. -/
structure EndReported (l : EventLoop) : Prop where
  /-- after a failure: the queued events, the end of the connection, and errors -/
  reported : ∀ later earlier call ans events, l.log = later ++ .called call ans events :: earlier →
    (LoopAction.called call ans events).Fails →
    .waiting ∉ later ∧ ∃ n, deliveries later <+: events.map .ok ++ closing n
  /-- and every call of `recv_event` returns -/
  returns : (∃ a ∈ l.log, a.Fails) → l.pc ≠ .sending ∧ l.pc ≠ .selecting
  /-- nothing comes after the end -/
  once : ∀ before after, deliveries l.log = before ++ .ok .connectionClosed :: after →
    ∀ result ∈ after, result = .error .connectionClosed

namespace EventLoop

/-- Nothing has failed or was reported yet. -/
structure Open (l : EventLoop) : Prop where
  closed : l.closed = false
  queued : .connectionClosed ∉ l.queued
  events : .connectionClosed ∉ l.events
  delivered : .ok .connectionClosed ∉ deliveries l.log
  log : ∀ a ∈ l.log, ¬ a.Fails

/-- What was delivered and what remains is in order. -/
structure Tidy (l : EventLoop) : Prop where
  once : ∃ before n, deliveries l.log ++ l.remaining.map .ok = before ++ closing n ∧
    .ok .connectionClosed ∉ before
  since : ∀ later earlier call ans events, l.log = later ++ .called call ans events :: earlier →
    (LoopAction.called call ans events).Fails → ReportedSince l later events

variable {d : Driver} {l l' : EventLoop}

/-! ### Steps of a connection that ended -/

/-- A step that delivers what remains, and then errors. -/
theorem Tidy.extend (h : l.Tidy) (acts : List LoopAction) (m : ℕ) (hlog : l'.log = acts ++ l.log)
    (hacts : ∀ a ∈ acts, ¬ a.Fails ∧ a ≠ .waiting)
    (hrem : deliveries acts ++ l'.remaining.map .ok =
      l.remaining.map .ok ++ List.replicate m (.error .connectionClosed)) : l'.Tidy := by
  refine ⟨?_, fun later earlier call ans events hsplit hfails => ?_⟩
  · obtain ⟨before, n, heq, hno⟩ := h.once
    refine ⟨before, n + m, ?_, hno⟩
    rw [hlog, deliveries_append, List.append_assoc, hrem, ← List.append_assoc, heq,
      List.append_assoc, closing_append]
  · -- the failing call is none of the new actions
    rw [hlog] at hsplit
    rcases List.append_eq_append_iff.mp hsplit with ⟨rest, rfl, hrest⟩ | ⟨rest, hacts', hrest⟩
    · obtain ⟨hwait, n, heq⟩ := h.since rest earlier call ans events hrest hfails
      refine ⟨fun hmem => ?_, n + m, ?_⟩
      · rcases List.mem_append.mp hmem with hmem | hmem
        · exact (hacts _ hmem).2 rfl
        · exact hwait hmem
      · rw [deliveries_append, List.append_assoc, hrem, ← List.append_assoc, heq,
          List.append_assoc, closing_append]
    · cases rest with
      | nil =>
        obtain ⟨hwait, n, heq⟩ := h.since [] earlier call ans events hrest.symm hfails
        rw [List.append_nil] at hacts'
        subst hacts'
        refine ⟨fun hmem => (hacts _ hmem).2 rfl, n + m, ?_⟩
        rw [hrem, ← closing_append, ← List.append_assoc, ← heq]
        rfl
      | cons a rest =>
        obtain ⟨rfl, -⟩ := List.cons.inj hrest
        exact absurd hfails (hacts _ (by rw [hacts']; simp)).1

/-- An event is taken out of the queue. -/
theorem remaining_cons {event : ConnectionEvent} {events : List ConnectionEvent}
    (hev : l.events = event :: events) : l.remaining = event :: { l with events }.remaining := by
  simp only [remaining, hev, List.cons_append]

/-- `recv_event` delivers an event. -/
theorem Tidy.returnEvent (h : l.Tidy) {err : Error} (he : l.events ≠ [] ∨ err = .connectionClosed ∧
    l.closed = true) : (l.returnEvent err).Tidy := by
  unfold EventLoop.returnEvent
  cases hev : l.events with
  | cons event events =>
    refine h.extend [.returned (.ok event)] 0 rfl (by simp [LoopAction.Fails]) ?_
    rw [remaining_cons hev, List.map_cons, List.replicate_zero, List.append_nil]
    rfl
  | nil =>
    rcases he with he | ⟨rfl, hclosed⟩
    · exact absurd hev he
    · refine h.extend [.returned (.error .connectionClosed)] 1 rfl (by simp [LoopAction.Fails]) ?_
      simp [remaining, hev, hclosed, returnError, record]

theorem remaining_pushConnectionClosed (l : EventLoop) :
    l.pushConnectionClosed.remaining = l.remaining := by
  unfold pushConnectionClosed
  split
  · rfl
  · rename_i hc
    simp [remaining, hc]

theorem Tidy.pushConnectionClosed (h : l.Tidy) : l.pushConnectionClosed.Tidy :=
  h.extend [] 0 (log_pushConnectionClosed l) (by simp) (by simp [remaining_pushConnectionClosed])

/-- `recv_event` reports the end, or has reported it. -/
theorem Tidy.returnClosed (h : l.Tidy) {err : Error}
    (he : l.closed = false ∨ err = .connectionClosed) : (l.returnClosed err).Tidy := by
  refine h.pushConnectionClosed.returnEvent ?_
  rcases he with he | rfl
  · exact .inl (events_pushConnectionClosed_ne he)
  · exact .inr ⟨rfl, closed_pushConnectionClosed l⟩

/-- A call that leaves the events alone. -/
theorem Tidy.quiet (h : l.Tidy) {a : LoopAction} (hlog : l'.log = a :: l.log) (ha : ¬ a.Fails)
    (hwait : a ≠ .waiting) (hdel : deliveries [a] = []) (hev : l'.events = l.events)
    (hc : l'.closed = l.closed) : l'.Tidy := by
  refine h.extend [a] 0 hlog ?_ ?_
  · intro b hb
    rw [List.mem_singleton.mp hb]
    exact ⟨ha, hwait⟩
  · simp [hdel, remaining, hev, hc]

/-- The operation moves the loop only. -/
theorem Tidy.of_eq (h : l.Tidy) (hlog : l'.log = l.log) (hev : l'.events = l.events)
    (hc : l'.closed = l.closed) : l'.Tidy :=
  h.extend [] 0 hlog (by simp) (by simp [remaining, hev, hc])

/-- What `ended` and `apply` keep, for the operations made of them. -/
theorem Ended.call (he : l.Ended) (c : NgCall) (ans : Answer) : (l.call c ans).Ended :=
  ⟨isClosed_apply he.closed ans.effect, he.pc⟩

theorem Tidy.call (h : l.Tidy) {c : NgCall} (hread : c ≠ .read) (hexpiry : c ≠ .expiry)
    (ans : Answer) : (l.call c ans).Tidy := by
  refine h.quiet rfl ?_ (by simp) rfl rfl rfl
  rintro ⟨hc | hc, -⟩
  · exact hread hc
  · exact hexpiry hc

theorem Tidy.write (h : l.Tidy) {ans : Answer}
    (hnone : d = .accepted → l.queued = [] ∧ ans.effect.events = []) : (l.write d ans).Tidy := by
  cases d with
  | client => exact h.call (by simp) (by simp) ans
  | accepted =>
    obtain ⟨hqueued, hevents⟩ := hnone rfl
    refine h.quiet rfl (by simp [LoopAction.Fails]) (by simp) rfl ?_ rfl
    change l.events ++ (l.queued ++ ans.effect.events) = l.events
    rw [hqueued, hevents]
    exact List.append_nil _

theorem Ended.write (he : l.Ended) (ans : Answer) : (l.write d ans).Ended := by
  cases d with
  | client => exact he.call _ ans
  | accepted => exact ⟨isClosed_apply he.closed ans.effect, he.pc⟩

theorem ended_returnEvent (h : l.isClosed = true) (err : Error) : (l.returnEvent err).Ended :=
  ⟨(isClosed_returnEvent l err).trans h, .inl (pc_returnEvent l err)⟩

theorem ended_returnClosed (l : EventLoop) (err : Error) : (l.returnClosed err).Ended :=
  ⟨isClosed_returnClosed l err, .inl (pc_returnClosed l err)⟩

theorem Ended.recvEvent (he : l.Ended) (ht : l.Tidy) (flush : Answer) :
    (l.recvEvent d flush).Ended ∧ (l.recvEvent d flush).Tidy := by
  unfold EventLoop.recvEvent
  split
  · rename_i hev
    exact ⟨ended_returnEvent he.closed _, ht.returnEvent (.inl hev)⟩
  · rw [if_pos he.closed]
    exact ⟨ended_returnClosed l _, ht.returnClosed (.inr rfl)⟩

theorem Ended.pollEvent (he : l.Ended) (ht : l.Tidy) :
    l.pollEvent.Ended ∧ l.pollEvent.Tidy := by
  unfold EventLoop.pollEvent
  cases hev : l.events with
  | nil => exact ⟨he, ht⟩
  | cons event events =>
    refine ⟨⟨he.closed, he.pc⟩, ht.extend [.polled event] 0 rfl (by simp [LoopAction.Fails]) ?_⟩
    rw [remaining_cons hev, List.map_cons, List.replicate_zero, List.append_nil]
    rfl

end EventLoop

/-! ## Errors that stop the loop -/

/-- The answers that an operation gets. -/
def LoopOp.answers : LoopOp → List Answer
  | .flush ans | .recvEvent ans | .wake ans | .close ans _ => [ans]
  | .datagram read next => [read, next]
  | .timer expiry next => [expiry, next]
  | .sendDatagram ans control => ans :: control.toList
  | .sent | .socketError | .pollEvent | .cancel => []

/-- The callbacks of ngtcp2 queue no `ConnectionClosed`: the sans-IO layer has no such event. -/
def LoopOp.Core (op : LoopOp) : Prop := ∀ ans ∈ op.answers, .connectionClosed ∉ ans.effect.events

/-- The loop stops after an error of the call. An accepted connection must not return the error
instead, and the connection is closing or draining unless the loop ends it by itself. -/
def Driver.Stops (d : Driver) (l : EventLoop) (call : NgCall) (ans : Answer) : Prop :=
  ∀ e, ans.error = some e → e.classifyConnectionError ≠ .ignore →
    match d, call with
    | .accepted, .read =>
      e.classifyConnectionError ≠ .internal ∧ (l.apply ans.effect).isEnding = true
    | .accepted, _ => e.classifyConnectionError = .terminal → (l.apply ans.effect).isEnding = true
    | .client, .read =>
      e.classifyConnectionError = .internal ∨ (l.apply ans.effect).isEnding = true
    | .client, _ => (l.apply ans.effect).isEnding = true

/-- The operation lets the loop report the end. The application does not close the connection, and
does not flush an accepted one that has ended while events are queued. -/
def LoopOp.Reportable (d : Driver) (l : EventLoop) (op : LoopOp) : Prop :=
  op.Core ∧
    match op with
    | .datagram read _ => l.pc = .selecting → d.Stops l .read read
    | .timer expiry _ => l.pc = .selecting → d.Stops l .expiry expiry
    | .flush ans => d = .accepted → l.isClosed = true → l.queued = [] ∧ ans.effect.events = []
    | .close .. => False
    | _ => True

namespace EventLoop

variable {d : Driver} {l l' : EventLoop}

/-- **A connection that has ended** delivers what remains, and stays so. -/
theorem Ended.step (he : l.Ended) (ht : l.Tidy) {op : LoopOp} (hop : op.Reportable d l) :
    (l.step d op).Ended ∧ (l.step d op).Tidy := by
  unfold EventLoop.step
  split
  · rename_i ans hpc
    have hw : (l.write d ans).Tidy := ht.write fun hd => hop.2 hd he.closed
    unfold EventLoop.flush
    split
    · exact ⟨he.write ans, hw⟩
    · exact ⟨⟨(he.write ans).closed, .inr rfl⟩, hw.of_eq rfl rfl rfl⟩
  · exact he.recvEvent ht _
  · rename_i datagram control hpc
    have hcall : (l.call .writeDatagram datagram).Tidy := ht.call (by simp) (by simp) datagram
    unfold EventLoop.sendDatagram
    split
    · exact ⟨he.call _ _, hcall⟩
    · exact ⟨(he.call _ _).call _ _, hcall.call (by simp) (by simp) _⟩
  · exact hop.2.elim
  · exact he.pollEvent ht
  · rename_i hpc
    simp only [EventLoop.sent, hpc]
    exact ⟨⟨he.closed, .inl rfl⟩, ht.quiet rfl (by simp [LoopAction.Fails]) (by simp) rfl rfl rfl⟩
  all_goals first
    | (rename_i hpc; rcases he.pc with h | h <;> cases hpc.symm.trans h)
    | exact ⟨⟨he.closed, .inl rfl⟩, ht.of_eq rfl rfl rfl⟩
    | exact ⟨he, ht⟩

/-! ### Steps of an open connection -/

theorem Open.tidy (h : l.Open) : l.Tidy := by
  refine ⟨⟨deliveries l.log ++ l.events.map .ok, 0, ?_, ?_⟩, fun later earlier call ans events hlog hf => ?_⟩
  · simp [remaining, h.closed, closing]
  · simp only [List.mem_append, List.mem_map, not_or, not_exists, not_and]
    refine ⟨h.delivered, fun event hev heq => ?_⟩
    cases heq
    exact h.events hev
  · exact absurd hf (h.log _ (by rw [hlog]; simp))

/-- The loop moves, or an action is recorded that neither fails nor delivers. -/
theorem Open.of_eq (h : l.Open) (hlog : l'.log = l.log) (hq : l'.queued = l.queued)
    (hev : l'.events = l.events) (hc : l'.closed = l.closed) : l'.Open :=
  ⟨hc ▸ h.closed, hq ▸ h.queued, hev ▸ h.events, hlog ▸ h.delivered, hlog ▸ h.log⟩

theorem Open.record (h : l.Open) {a : LoopAction} (ha : ¬ a.Fails)
    (hdel : .ok .connectionClosed ∉ deliveries [a]) : (l.record a).Open := by
  refine ⟨h.closed, h.queued, h.events, ?_, fun b hb => ?_⟩
  · have hsplit : deliveries (a :: l.log) = deliveries l.log ++ deliveries [a] :=
      deliveries_append [a] l.log
    rw [record_log, hsplit, List.mem_append, not_or]
    exact ⟨h.delivered, hdel⟩
  · rcases List.mem_cons.mp hb with rfl | hb
    · exact ha
    · exact h.log b hb

theorem Open.apply (h : l.Open) {e : Effect} (he : .connectionClosed ∉ e.events) :
    (l.apply e).Open :=
  ⟨h.closed, fun hmem => (List.mem_append.mp hmem).elim h.queued he, h.events, h.delivered, h.log⟩

theorem Open.drainEvents (h : l.Open) : l.drainEvents.Open :=
  ⟨h.closed, by simp [EventLoop.drainEvents],
    fun hmem => (List.mem_append.mp hmem).elim h.events h.queued, h.delivered, h.log⟩

section Call

variable {c : NgCall} {ans : Answer}

theorem not_fails
    (hok : (c = .read ∨ c = .expiry) → ∀ e, ans.error = some e → e.classifyConnectionError = .ignore)
    (events : List ConnectionEvent) : ¬ (LoopAction.called c ans events).Fails := by
  rintro ⟨hc, e, he, hne⟩
  exact hne (hok hc e he)

theorem Open.call (h : l.Open) (hans : .connectionClosed ∉ ans.effect.events)
    (hok : (c = .read ∨ c = .expiry) →
      ∀ e, ans.error = some e → e.classifyConnectionError = .ignore) : (l.call c ans).Open :=
  (h.apply hans).record (not_fails hok _) (by simp)

theorem Open.callAndDrain (h : l.Open) (hans : .connectionClosed ∉ ans.effect.events)
    (hok : (c = .read ∨ c = .expiry) →
      ∀ e, ans.error = some e → e.classifyConnectionError = .ignore) :
    (l.callAndDrain c ans).Open :=
  (h.apply hans).drainEvents.record (not_fails hok _) (by simp)

end Call

theorem Open.write (h : l.Open) {ans : Answer} (hans : .connectionClosed ∉ ans.effect.events) :
    (l.write d ans).Open := by
  cases d with
  | accepted => exact h.callAndDrain hans (by simp)
  | client => exact h.call hans (by simp)

theorem Open.returnError (h : l.Open) (err : Error) : (l.returnError err).Open := by
  have hidle : { l with pc := .idle }.Open := h.of_eq rfl rfl rfl rfl
  exact hidle.record (by simp [LoopAction.Fails]) (by simp)

/-- An event is taken out of the queue. -/
theorem Open.pop (h : l.Open) {event : ConnectionEvent} {events : List ConnectionEvent}
    (hev : l.events = event :: events) :
    event ≠ .connectionClosed ∧ { l with events, pc := .idle }.Open := by
  have hmem := h.events
  rw [hev, List.mem_cons, not_or] at hmem
  exact ⟨fun he => hmem.1 he.symm, h.closed, h.queued, hmem.2, h.delivered, h.log⟩

theorem Open.returnEvent (h : l.Open) (hev : l.events ≠ []) (err : Error) :
    (l.returnEvent err).Open := by
  unfold EventLoop.returnEvent
  cases hcons : l.events with
  | nil => exact absurd hcons hev
  | cons event events =>
    obtain ⟨hne, hpop⟩ := h.pop hcons
    refine hpop.record (by simp [LoopAction.Fails]) ?_
    simpa using fun heq => hne heq.symm

/-- The connection is open, or it has ended and is in order. -/
def Sound (l : EventLoop) : Prop := l.Open ∨ l.Ended ∧ l.Tidy

theorem Open.recvLoop (h : l.Open) {flush : Answer}
    (hflush : .connectionClosed ∉ flush.effect.events) : (l.recvLoop d flush).Sound := by
  unfold EventLoop.recvLoop
  split
  · rename_i hev
    exact .inl (h.returnEvent hev _)
  split
  · exact .inr ⟨ended_returnClosed l _, h.tidy.returnClosed (.inr rfl)⟩
  split
  · exact .inl ((h.write hflush).returnError _)
  · exact .inl ((h.write hflush).of_eq rfl rfl rfl rfl)

theorem Open.afterSending (h : l.Open) : (l.afterSending d).Open := by
  have hdrained : (l.drainSent d).Open := by
    cases d
    · exact h
    · exact h.drainEvents
  unfold EventLoop.afterSending
  split
  · rename_i hev
    exact hdrained.returnEvent hev _
  · have hsel : { l.drainSent d with pc := .selecting }.Open := hdrained.of_eq rfl rfl rfl rfl
    exact hsel.record (by simp [LoopAction.Fails]) (by simp)

/-! ### Failures -/

/-- The call failed. What is queued now is what is to be delivered before the end. -/
theorem Open.fail (h : l.Open) {c : NgCall} {ans : Answer}
    (hans : .connectionClosed ∉ ans.effect.events) : (l.callAndDrain c ans).Tidy := by
  have hdrain : (l.apply ans.effect).drainEvents.Open := (h.apply hans).drainEvents
  refine ⟨hdrain.tidy.once, fun later earlier call ans' events hsplit hf => ?_⟩
  cases later with
  | nil =>
    obtain ⟨hcall, -⟩ := List.cons.inj hsplit
    cases hcall
    refine ⟨by simp, 0, ?_⟩
    have hc : (l.callAndDrain c ans).closed = false := h.closed
    simp only [remaining, hc, deliveries_nil, List.nil_append, List.map_append, closing]
    rfl
  | cons a later =>
    obtain ⟨-, hlog⟩ := List.cons.inj hsplit
    have hmem : LoopAction.called call ans' events ∈ l.log := by
      have hl : l.log = _ := hlog
      rw [hl]
      simp
    exact absurd hf (h.log _ hmem)

/-- The loop ends a connection that is closing or draining, or has a last event. -/
theorem Tidy.recvLoop (h : l.Tidy) {flush : Answer}
    (hend : l.isEnding = true ∨ l.closed = true ∧ l.events ≠ []) :
    (l.recvLoop d flush).Ended ∧ (l.recvLoop d flush).Tidy := by
  obtain ⟨hclosed, ⟨hev, heq⟩ | heq⟩ := @recvLoop_ended d l flush hend
  · rw [heq]
    exact ⟨ended_returnEvent hclosed _, h.returnEvent (.inl hev)⟩
  · rw [heq]
    exact ⟨ended_returnClosed l _, h.returnClosed (.inr rfl)⟩

/-- An error that is to be ignored is no internal one. -/
theorem filter_internal_eq_none {err : Option Error}
    (h : ∀ e, err = some e → e.classifyConnectionError ≠ .internal) :
    (err.filter fun e => e.classifyConnectionError = .internal) = none := by
  cases err with
  | none => rfl
  | some e => simp [h e rfl]

theorem Open.readDatagram (h : l.Open) {read flush : Answer}
    (hread : .connectionClosed ∉ read.effect.events)
    (hflush : .connectionClosed ∉ flush.effect.events) (hstops : d.Stops l .read read) :
    (l.readDatagram d read flush).Sound := by
  by_cases hok : ∀ e, read.error = some e → e.classifyConnectionError = .ignore
  · unfold EventLoop.readDatagram
    rw [filter_internal_eq_none fun e he => by rw [hok e he]; simp]
    exact (h.callAndDrain hread fun _ => hok).recvLoop hflush
  · simp only [not_forall] at hok
    obtain ⟨e, he, hne⟩ := hok
    have hfail : (l.callAndDrain .read read).Tidy := h.fail hread
    have hstop := hstops e he hne
    by_cases hint : e.classifyConnectionError = .internal
    · cases d with
      | accepted => exact absurd hint hstop.1
      | client =>
        unfold EventLoop.readDatagram
        rw [he, Option.filter_some_pos (by simpa using hint)]
        refine .inr (hfail.pushConnectionClosed.recvLoop (.inr ⟨by simp, ?_⟩))
        exact events_pushConnectionClosed_ne h.closed
    · have hend : (l.callAndDrain .read read).isEnding = true := by
        cases d with
        | accepted => exact hstop.2
        | client => exact hstop.resolve_left hint
      unfold EventLoop.readDatagram
      rw [filter_internal_eq_none fun e' he' => by cases he.symm.trans he'; exact hint]
      exact .inr (hfail.recvLoop (.inl hend))

theorem Open.recvTimer (h : l.Open) {expiry flush : Answer}
    (hexpiry : .connectionClosed ∉ expiry.effect.events)
    (hflush : .connectionClosed ∉ flush.effect.events) (hstops : d.Stops l .expiry expiry) :
    (l.recvTimer d expiry flush).Sound := by
  have hfail : (l.callAndDrain .expiry expiry).Tidy := h.fail hexpiry
  have hloop (hok : ∀ e, expiry.error = some e → e.classifyConnectionError ≠ .ignore →
      (l.apply expiry.effect).isEnding = true) :
      ((l.callAndDrain .expiry expiry).recvLoop d flush).Sound := by
    by_cases hign : ∀ e, expiry.error = some e → e.classifyConnectionError = .ignore
    · exact (h.callAndDrain hexpiry fun _ => hign).recvLoop hflush
    · simp only [not_forall] at hign
      obtain ⟨e, he, hne⟩ := hign
      exact .inr (hfail.recvLoop (.inl (hok e he hne)))
  unfold EventLoop.recvTimer
  cases d with
  | client => exact hloop hstops
  | accepted =>
    simp only
    split
    · exact .inr ⟨ended_returnClosed _ _, hfail.returnClosed (.inl h.closed)⟩
    · rename_i hnone
      refine hloop fun e he hne => hstops e he hne ?_
      by_contra hterm
      rw [he, Option.filter_some_pos (by simp [hne, hterm])] at hnone
      cases hnone

/-- **An open connection** stays open, or ends in order. -/
theorem Open.step (h : l.Open) {op : LoopOp} (hop : op.Reportable d l) : (l.step d op).Sound := by
  obtain ⟨hcore, hop⟩ := hop
  unfold EventLoop.step
  split
  · rename_i ans _
    have hw : (l.write d ans).Open := h.write (hcore ans (by simp [LoopOp.answers]))
    unfold EventLoop.flush
    split
    · exact .inl hw
    · exact .inl (hw.of_eq rfl rfl rfl rfl)
  · rename_i flush _
    have hflush := hcore flush (by simp [LoopOp.answers])
    unfold EventLoop.recvEvent
    split
    · rename_i hev
      exact .inl (h.returnEvent hev _)
    split
    · exact .inr ⟨ended_returnClosed l _, h.tidy.returnClosed (.inr rfl)⟩
    · exact h.recvLoop hflush
  · rename_i datagram control _
    have hcall : (l.call .writeDatagram datagram).Open :=
      h.call (hcore datagram (by simp [LoopOp.answers])) (by simp)
    unfold EventLoop.sendDatagram
    split
    · exact .inl hcall
    · exact .inl (hcall.call (hcore _ (by simp [LoopOp.answers])) (by simp))
  · exact hop.elim
  · unfold EventLoop.pollEvent
    split
    · rename_i event events hev
      obtain ⟨hne, hpop⟩ := h.pop hev
      have hpolled : { l with events }.Open := hpop.of_eq rfl rfl rfl rfl
      refine .inl (hpolled.record (by simp [LoopAction.Fails]) ?_)
      simpa using fun heq => hne heq.symm
    · exact .inl h
  · rename_i hpc
    simp only [EventLoop.sent, hpc]
    have hidle : { l with pc := .idle }.Open := h.of_eq rfl rfl rfl rfl
    exact .inl (hidle.record (by simp [LoopAction.Fails]) (by simp))
  · rename_i hpc
    simp only [EventLoop.sent, hpc]
    exact .inl (h.record (by simp [LoopAction.Fails]) (by simp)).afterSending
  · rename_i read flush hpc
    exact h.readDatagram (hcore read (by simp [LoopOp.answers]))
      (hcore flush (by simp [LoopOp.answers])) (hop hpc)
  · exact h.recvLoop (hcore _ (by simp [LoopOp.answers]))
  · exact .inl (h.returnError _)
  · rename_i expiry flush hpc
    exact h.recvTimer (hcore expiry (by simp [LoopOp.answers]))
      (hcore flush (by simp [LoopOp.answers])) (hop hpc)
  · exact .inl (h.of_eq rfl rfl rfl rfl)
  · exact .inl h

theorem Sound.endReported (h : l.Sound) : EndReported l := by
  rcases h with h | ⟨he, ht⟩
  · refine ⟨fun later earlier call ans events hlog hf => ?_, ?_, fun before after heq => ?_⟩
    · exact absurd hf (h.log _ (by rw [hlog]; simp))
    · rintro ⟨a, ha, hf⟩
      exact absurd hf (h.log a ha)
    · exact absurd (by rw [heq]; simp) h.delivered
  · refine ⟨fun later earlier call ans events hlog hf => ?_, fun _ => ?_, fun before after heq => ?_⟩
    · obtain ⟨hwait, n, hdel⟩ := ht.since later earlier call ans events hlog hf
      exact ⟨hwait, n, hdel ▸ List.prefix_append _ _⟩
    · rcases he.pc with hpc | hpc <;> simp [hpc]
    · obtain ⟨first, n, hall, hno⟩ := ht.once
      rw [heq, closing, List.append_assoc, List.cons_append, eq_comm,
        List.append_cons_inj_of_notMem hno (by simp [List.mem_replicate])] at hall
      intro result hmem
      refine List.eq_of_mem_replicate (n := n) ?_
      rw [hall.2.2]
      exact List.mem_append_left _ hmem

end EventLoop

/-- A connection before its first operation. It may have events, and may be closing or draining. -/
structure EventLoop.Fresh (l : EventLoop) : Prop where
  closed : l.closed = false
  pc : l.pc = .idle
  log : l.log = []
  queued : .connectionClosed ∉ l.queued
  events : .connectionClosed ∉ l.events

theorem EventLoop.Fresh.isOpen {l : EventLoop} (h : l.Fresh) : l.Open :=
  ⟨h.closed, h.queued, h.events, by simp [h.log], by simp [h.log]⟩

/-- **A run** that every error stops leaves the loop open, or ended in order. -/
theorem EventLoop.Fresh.sound_run {d : Driver} {l : EventLoop} (hl : l.Fresh) {ops : List LoopOp}
    (hops : LegalRun (EventLoop.step d) (fun l op => op.Reportable d l) l ops) :
    (run (EventLoop.step d) l ops).Sound := by
  refine run_invariant (fun l op hl hop => ?_) ops l (.inl hl.isOpen) hops
  rcases hl with hl | ⟨he, ht⟩
  · exact hl.step hop
  · exact .inr (he.step ht hop)

/-- **The end of a connection is reported once**, as long as every error stops the loop. -/
theorem end_reported (d : Driver) (l : EventLoop) (hl : l.Fresh) (ops : List LoopOp)
    (hops : LegalRun (EventLoop.step d) (fun l op => op.Reportable d l) l ops) :
    EndReported (run (EventLoop.step d) l ops) :=
  (hl.sound_run hops).endReported

/-- The peer closes the connection, with an event before. -/
def sampleDraining : List LoopOp :=
  [.recvEvent {}, .sent,
   .datagram { effect := { events := [.other], draining := true }, error := some (.ngtcp2 errDraining) } {},
   .recvEvent {}, .recvEvent {}, .recvEvent {}]

theorem end_reported_sample :
    deliveries (run (EventLoop.step .accepted) {} sampleDraining).log =
      [.ok .other, .ok .connectionClosed, .error .connectionClosed, .error .connectionClosed] ∧
    EndReported (run (EventLoop.step .accepted) {} sampleDraining) := by
  refine ⟨rfl, end_reported .accepted {} ⟨rfl, rfl, rfl, by simp, by simp⟩ sampleDraining ?_⟩
  have hstops (l : EventLoop) : Driver.accepted.Stops l .read
      { effect := { events := [.other], draining := true }, error := some (.ngtcp2 errDraining) } := by
    intro e he _
    cases he
    exact ⟨by decide, by simp [EventLoop.apply, EventLoop.isEnding]⟩
  have hcore : ∀ op ∈ sampleDraining, op.Core := by
    simp [sampleDraining, LoopOp.Core, LoopOp.answers]
  refine ⟨⟨hcore _ (by simp [sampleDraining]), trivial⟩, ⟨hcore _ (by simp [sampleDraining]), trivial⟩,
    ⟨hcore _ (by simp [sampleDraining]), fun _ => hstops _⟩,
    ⟨hcore _ (by simp [sampleDraining]), trivial⟩, ⟨hcore _ (by simp [sampleDraining]), trivial⟩,
    ⟨hcore _ (by simp [sampleDraining]), trivial⟩, trivial⟩

/-- The loop waits, and its timer or a datagram brings an error; it writes and waits again. -/
def sampleIdleTimeout : List LoopOp :=
  [.recvEvent {}, .sent, .timer { error := some (.ngtcp2 errIdleClose) } {}, .sent]

def sampleDropped : List LoopOp :=
  [.recvEvent {}, .sent, .datagram { error := some (.ngtcp2 errDropConn) } {}, .sent]

/-- **The end is not reported.** The client ignores the idle timeout of its timer, and an accepted
connection the error that tells it to drop the connection: both wait again. -/
theorem idle_timeout_unreported :
    (run (EventLoop.step .client) {} sampleIdleTimeout).pc = .selecting ∧
    deliveries (run (EventLoop.step .client) {} sampleIdleTimeout).log = [] ∧
    ¬ EndReported (run (EventLoop.step .client) {} sampleIdleTimeout) ∧
    ¬ EndReported (run (EventLoop.step .accepted) {} sampleDropped) := by
  refine ⟨rfl, rfl, fun h => ?_, fun h => ?_⟩
  · refine absurd rfl (h.returns ⟨.called .expiry { error := some (.ngtcp2 errIdleClose) } [], ?_, ?_⟩).2
    · decide
    · exact ⟨.inr rfl, _, rfl, by decide⟩
  · refine absurd rfl (h.returns ⟨.called .read { error := some (.ngtcp2 errDropConn) } [], ?_, ?_⟩).2
    · decide
    · exact ⟨.inl rfl, _, rfl, by decide⟩

end Ngtcp2Rs
