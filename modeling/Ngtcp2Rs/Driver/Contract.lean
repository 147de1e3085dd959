import Ngtcp2Rs.Driver.EventLoop

/-!
# What follows a call

Two rules for who drives a connection. The doc of `Connection::read_pkt` says that nothing is
written after an error that is not to be ignored, but for a CONNECTION_CLOSE. And ngtcp2 makes the
packets that a timer calls for only at the next write, so a write has to follow an expiry before the
loop waits again.

* `ContractKept`, `loop_contract`: the first rule holds as long as the connection is closing or
  draining after the error, and the application does not write by itself.
* `WritesBeforeWaiting`, `loop_writes_before_waiting`: the second one always holds.
-/

namespace Ngtcp2Rs

open Lib

/-- An error of `read_pkt` that is not to be ignored. -/
def ReadFails (call : NgCall × Answer) : Prop :=
  call.1 = .read ∧ ∃ e, call.2.error = some e ∧ e.classifyConnectionError ≠ .ignore

/-- Once `read_pkt` failed, nothing is written but a CONNECTION_CLOSE, and that is written if the
class of the error asks for it. The calls on the connection are newest first. -/
structure ContractKept (calls : List (NgCall × Answer)) : Prop where
  quiet : ∀ later earlier call, calls = later ++ call :: earlier → ReadFails call →
    ∀ c ∈ later, c.1 ≠ .writePackets ∧ c.1 ≠ .writeDatagram
  close : ∀ later earlier ans e, calls = later ++ (.read, ans) :: earlier → ans.error = some e →
    e.classifyConnectionError = .transportClose ∨ e.classifyConnectionError = .applicationClose →
    ∃ ans', (.close, ans') ∈ later

/-- Nothing failed. -/
theorem ContractKept.of_forall {calls : List (NgCall × Answer)}
    (h : ∀ call ∈ calls, ¬ ReadFails call) : ContractKept calls := by
  refine ⟨fun later earlier call heq hf => ?_, fun later earlier ans e heq he hclass => ?_⟩
  · exact absurd hf (h call (by rw [heq]; simp))
  · refine absurd ⟨rfl, e, he, ?_⟩ (h (.read, ans) (by rw [heq]; simp))
    rcases hclass with hclass | hclass <;> simp [hclass]

/-- The last call failed, with an error that asks for nothing. -/
theorem ContractKept.cons {calls : List (NgCall × Answer)} (h : ∀ call ∈ calls, ¬ ReadFails call)
    {ans : Answer}
    (hclass : ∀ e, ans.error = some e → e.classifyConnectionError ≠ .transportClose ∧
      e.classifyConnectionError ≠ .applicationClose) : ContractKept ((.read, ans) :: calls) := by
  refine ⟨fun later earlier call heq hf => ?_, fun later earlier ans' e heq he hc => ?_⟩
  · cases later with
    | nil => simp
    | cons first later =>
      obtain ⟨-, rfl⟩ := List.cons.inj heq
      exact absurd hf (h call (by simp))
  · cases later with
    | nil =>
      cases heq
      exact absurd hc (not_or.mpr (hclass e he))
    | cons first later =>
      obtain ⟨-, rfl⟩ := List.cons.inj heq
      refine absurd ⟨rfl, e, he, ?_⟩ (h (.read, ans') (by simp))
      rcases hc with hc | hc <;> simp [hc]

namespace EventLoop

/-- The calls of a loop, newest first. -/
def calls (l : EventLoop) : List (NgCall × Answer) :=
  l.log.filterMap fun
    | .called call ans _ => some (call, ans)
    | _ => none

/-! ## What a step calls -/

variable {d : Driver} {l : EventLoop}

theorem calls_returnError (l : EventLoop) (err : Error) : (l.returnError err).calls = l.calls := rfl

theorem calls_returnEvent (l : EventLoop) (err : Error) : (l.returnEvent err).calls = l.calls := by
  unfold returnEvent
  split <;> rfl

theorem calls_pushConnectionClosed (l : EventLoop) : l.pushConnectionClosed.calls = l.calls := by
  rw [calls, log_pushConnectionClosed]
  rfl

theorem calls_returnClosed (l : EventLoop) (err : Error) : (l.returnClosed err).calls = l.calls :=
  (calls_returnEvent _ err).trans (calls_pushConnectionClosed l)

theorem calls_write (l : EventLoop) (ans : Answer) :
    (l.write d ans).calls = (.writePackets, ans) :: l.calls := by
  cases d <;> rfl

theorem calls_recvLoop (l : EventLoop) (flush : Answer) :
    (l.recvLoop d flush).calls = l.calls ∨
      (l.recvLoop d flush).calls = (.writePackets, flush) :: l.calls := by
  unfold recvLoop
  split
  · exact .inl (calls_returnEvent l _)
  split
  · exact .inl (calls_returnClosed l _)
  split
  · exact .inr ((calls_returnError _ _).trans (calls_write l flush))
  · exact .inr (calls_write l flush)

theorem calls_afterSending (l : EventLoop) : (l.afterSending d).calls = l.calls := by
  have hdrain : (l.drainSent d).calls = l.calls := by
    rw [calls, log_drainSent]
    rfl
  unfold afterSending
  split
  · rw [calls_returnEvent, hdrain]
  · exact hdrain

/-- A call that an operation makes by itself, with the packets to write or to close. -/
def Writes (call : NgCall) : Prop := call ≠ .read ∧ call ≠ .expiry

/-- The calls of `l'` are those of `l`, and writes. -/
def OnlyWrites (l l' : EventLoop) : Prop := ∀ call ∈ l'.calls, call ∈ l.calls ∨ Writes call.1

theorem OnlyWrites.of_eq {l l' : EventLoop} (h : l'.calls = l.calls) : OnlyWrites l l' :=
  fun _ hmem => .inl (h ▸ hmem)

theorem OnlyWrites.of_cons {l l' : EventLoop} {c : NgCall} {ans : Answer} (hc : Writes c)
    (h : l'.calls = (c, ans) :: l.calls) : OnlyWrites l l' := by
  intro call hmem
  rw [h] at hmem
  rcases List.mem_cons.mp hmem with rfl | hmem
  · exact .inr hc
  · exact .inl hmem

theorem OnlyWrites.trans {l₁ l₂ l₃ : EventLoop} (h₁₂ : OnlyWrites l₁ l₂) (h₂₃ : OnlyWrites l₂ l₃) :
    OnlyWrites l₁ l₃ := by
  intro call hmem
  rcases h₂₃ call hmem with hmem | hw
  · exact h₁₂ call hmem
  · exact .inr hw

theorem writes_writePackets : Writes .writePackets := ⟨by simp, by simp⟩

theorem onlyWrites_recvLoop (l : EventLoop) (flush : Answer) : OnlyWrites l (l.recvLoop d flush) := by
  rcases calls_recvLoop l flush with heq | heq
  · exact .of_eq heq
  · exact .of_cons writes_writePackets heq

theorem onlyWrites_flush (l : EventLoop) (ans : Answer) : OnlyWrites l (l.flush d ans) := by
  unfold flush
  split <;> exact .of_cons writes_writePackets (calls_write l ans)

theorem onlyWrites_recvEvent (l : EventLoop) (flush : Answer) :
    OnlyWrites l (l.recvEvent d flush) := by
  unfold recvEvent
  split
  · exact .of_eq (calls_returnEvent l _)
  split
  · exact .of_eq (calls_returnClosed l _)
  · exact onlyWrites_recvLoop l flush

theorem onlyWrites_sendDatagram (l : EventLoop) (datagram : Answer) (control : Option Answer) :
    OnlyWrites l (l.sendDatagram datagram control) := by
  have hcall : OnlyWrites l (l.call .writeDatagram datagram) := .of_cons ⟨by simp, by simp⟩ rfl
  unfold sendDatagram
  split
  · exact hcall
  · exact hcall.trans (.of_cons writes_writePackets rfl)

theorem onlyWrites_close (l : EventLoop) (ans : Answer) (cancelled : Bool) :
    OnlyWrites l (l.close ans cancelled) := by
  unfold close
  split
  · exact .of_eq rfl
  split <;> exact .of_cons ⟨by simp, by simp⟩ rfl

theorem onlyWrites_pollEvent (l : EventLoop) : OnlyWrites l l.pollEvent := by
  unfold pollEvent
  split <;> exact .of_eq rfl

theorem onlyWrites_sent (l : EventLoop) : OnlyWrites l (l.sent d) := by
  unfold sent
  split
  · exact .of_eq rfl
  · exact .of_eq (calls_afterSending (l.record .sent))
  · exact .of_eq rfl

theorem onlyWrites_readDatagram (l : EventLoop) (read flush : Answer) :
    OnlyWrites (l.callAndDrain .read read) (l.readDatagram d read flush) := by
  unfold readDatagram
  split
  · split
    · exact .of_eq rfl
    · exact (OnlyWrites.of_eq (calls_pushConnectionClosed _)).trans (onlyWrites_recvLoop _ flush)
  · exact onlyWrites_recvLoop _ flush

theorem onlyWrites_recvTimer (l : EventLoop) (expiry flush : Answer) :
    OnlyWrites (l.callAndDrain .expiry expiry) (l.recvTimer d expiry flush) := by
  unfold recvTimer
  split
  · split
    · exact .of_eq (calls_returnClosed _ _)
    · exact onlyWrites_recvLoop _ flush
  · exact onlyWrites_recvLoop _ flush

/-- **What a step calls.** A datagram is read, a timer expires; the rest are writes. -/
theorem calls_step (l : EventLoop) (op : LoopOp) :
    OnlyWrites l (l.step d op) ∨
    (∃ read next, op = .datagram read next ∧ l.pc = .selecting ∧
      l.step d op = l.readDatagram d read next) ∨
    ∃ expiry next, op = .timer expiry next ∧ l.pc = .selecting ∧
      l.step d op = l.recvTimer d expiry next := by
  unfold step
  split
  · exact .inl (onlyWrites_flush l _)
  · exact .inl (onlyWrites_recvEvent l _)
  · exact .inl (onlyWrites_sendDatagram l _ _)
  · exact .inl (onlyWrites_close l _ _)
  · exact .inl (onlyWrites_pollEvent l)
  · exact .inl (onlyWrites_sent l)
  · exact .inl (onlyWrites_sent l)
  · rename_i read next hpc
    exact .inr (.inl ⟨read, next, rfl, hpc, rfl⟩)
  · exact .inl (onlyWrites_recvLoop l _)
  · exact .inl (.of_eq (calls_returnError l _))
  · rename_i expiry next hpc
    exact .inr (.inr ⟨expiry, next, rfl, hpc, rfl⟩)
  · exact .inl (.of_eq rfl)
  · exact .inl (.of_eq rfl)

end EventLoop

/-! ## Nothing is written after a failure -/

/-- The operation keeps the contract. A read that fails finds the connection closing or draining, or
is an internal error of the client, and asks for no CONNECTION_CLOSE; the application does not write
once a read failed. -/
def LoopOp.Contracted (d : Driver) (l : EventLoop) (op : LoopOp) : Prop :=
  match op with
  | .datagram read _ => l.pc = .selecting → ∀ e, read.error = some e →
      e.classifyConnectionError ≠ .ignore →
      e.classifyConnectionError ≠ .transportClose ∧ e.classifyConnectionError ≠ .applicationClose ∧
      ((l.apply read.effect).isEnding = true ∨ d = .client ∧ e.classifyConnectionError = .internal)
  | .flush _ | .sendDatagram .. => ∀ call ∈ l.calls, ¬ ReadFails call
  | _ => True

namespace EventLoop

/-- No read failed, or the connection has ended and the contract was kept. -/
def Contracted (l : EventLoop) : Prop :=
  (∀ call ∈ l.calls, ¬ ReadFails call) ∨
    l.isClosed = true ∧ l.pc = .idle ∧ (∃ call ∈ l.calls, ReadFails call) ∧ ContractKept l.calls

variable {d : Driver} {l l' : EventLoop}

theorem OnlyWrites.unfailed (h : OnlyWrites l l') (hl : ∀ call ∈ l.calls, ¬ ReadFails call) :
    ∀ call ∈ l'.calls, ¬ ReadFails call := by
  intro call hmem hf
  rcases h call hmem with hmem | hw
  · exact hl call hmem hf
  · exact hw.1 hf.1

/-- A call that is no failing read. -/
theorem unfailed_callAndDrain (hl : ∀ call ∈ l.calls, ¬ ReadFails call) {c : NgCall} {ans : Answer}
    (hc : ¬ ReadFails (c, ans)) : ∀ call ∈ (l.callAndDrain c ans).calls, ¬ ReadFails call := by
  intro call hmem
  rcases List.mem_cons.mp hmem with rfl | hmem
  · exact hc
  · exact hl call hmem

/-- A read that fails ends the connection, and nothing is written any more. -/
theorem readDatagram_failed (hl : ∀ call ∈ l.calls, ¬ ReadFails call) (hopen : l.closed = false)
    {read flush : Answer} {e : Error} (he : read.error = some e)
    (hne : e.classifyConnectionError ≠ .ignore)
    (hop : e.classifyConnectionError ≠ .transportClose ∧
      e.classifyConnectionError ≠ .applicationClose ∧
      ((l.apply read.effect).isEnding = true ∨ d = .client ∧ e.classifyConnectionError = .internal)) :
    (l.readDatagram d read flush).Contracted := by
  obtain ⟨hnt, hna, hend⟩ := hop
  have hkept : ContractKept ((.read, read) :: l.calls) := by
    refine .cons hl fun e' he' => ?_
    cases he.symm.trans he'
    exact ⟨hnt, hna⟩
  have hfailed : ∃ call ∈ (.read, read) :: l.calls, ReadFails call :=
    ⟨(.read, read), List.mem_cons_self, rfl, e, he, hne⟩
  have hloop {l' : EventLoop} (hcalls : l'.calls = (.read, read) :: l.calls)
      (hend : l'.isEnding = true ∨ l'.closed = true ∧ l'.events ≠ []) :
      (l'.recvLoop d flush).Contracted := by
    rw [← hcalls] at hkept hfailed
    obtain ⟨hclosed, ⟨-, heq⟩ | heq⟩ := @recvLoop_ended d l' flush hend
    · refine .inr ?_
      rw [heq, isClosed_returnEvent, calls_returnEvent]
      exact ⟨hclosed, pc_returnEvent _ _, hfailed, hkept⟩
    · refine .inr ?_
      rw [heq, calls_returnClosed]
      exact ⟨isClosed_returnClosed _ _, pc_returnClosed _ _, hfailed, hkept⟩
  unfold readDatagram
  split
  · rename_i e' he'
    cases d with
    | accepted =>
      have hending : (l.callAndDrain .read read).isEnding = true :=
        hend.resolve_right fun h => by cases h.1
      exact .inr ⟨by simpa [isClosed] using .inr hending, rfl, hfailed, hkept⟩
    | client =>
      refine hloop ?_ (.inr ⟨closed_pushConnectionClosed _, events_pushConnectionClosed_ne ?_⟩)
      · exact calls_pushConnectionClosed _
      · exact hopen
  · rename_i hnone
    refine hloop rfl (.inl (hend.resolve_right fun h => ?_))
    rw [he, Option.filter_some_pos (by simpa using h.2)] at hnone
    cases hnone

/-- **One step keeps the contract.** -/
theorem Contracted.step (h : l.Contracted) (hidle : l.ClosedIdle) {op : LoopOp}
    (hop : op.Contracted d l) : (l.step d op).Contracted := by
  rcases h with hl | ⟨hclosed, hpc, hfailed, hkept⟩
  · rcases @calls_step d l op with hw | ⟨read, next, rfl, hpc, heq⟩ | ⟨expiry, next, rfl, hpc, heq⟩
    · exact .inl (hw.unfailed hl)
    · rw [heq]
      by_cases hread : ReadFails (.read, read)
      · obtain ⟨-, e, he, hne⟩ := hread
        exact readDatagram_failed hl (hidle.running (.inr hpc)) he hne (hop hpc e he hne)
      · exact .inl ((onlyWrites_readDatagram l read next).unfailed (unfailed_callAndDrain hl hread))
    · rw [heq]
      refine .inl ((onlyWrites_recvTimer l expiry next).unfailed (unfailed_callAndDrain hl ?_))
      rintro ⟨hc, -⟩
      cases hc
  · -- the connection has ended: the operations that could write are not called any more
    have hsame {l' : EventLoop} (hcalls : l'.calls = l.calls) (hclosed : l'.isClosed = true)
        (hpc : l'.pc = .idle) : l'.Contracted := by
      rw [← hcalls] at hfailed hkept
      exact .inr ⟨hclosed, hpc, hfailed, hkept⟩
    obtain ⟨call, hmem, hf⟩ := hfailed
    unfold EventLoop.step
    split
    · exact absurd hf (hop call hmem)
    · unfold EventLoop.recvEvent
      split
      · exact hsame (calls_returnEvent l _) ((isClosed_returnEvent l _).trans hclosed)
          (pc_returnEvent l _)
      · exact hsame (calls_returnClosed l _) (isClosed_returnClosed l _) (pc_returnClosed l _)
    · exact absurd hf (hop call hmem)
    · unfold EventLoop.close
      rw [if_pos hclosed]
      exact hsame rfl hclosed hpc
    · unfold EventLoop.pollEvent
      split <;> exact hsame rfl hclosed hpc
    all_goals first
      | (rename_i hpc'; cases hpc.symm.trans hpc')
      | exact hsame rfl hclosed rfl
      | exact hsame rfl hclosed hpc

end EventLoop

/-- **The contract of `read_pkt`** is kept by every run whose operations keep to it. -/
theorem loop_contract (d : Driver) (l : EventLoop) (hlog : l.log = []) (hidle : l.ClosedIdle)
    (ops : List LoopOp)
    (hops : LegalRun (EventLoop.step d) (fun l op => op.Contracted d l) l ops) :
    ContractKept (run (EventLoop.step d) l ops).calls := by
  have hinit : l.Contracted ∧ l.ClosedIdle := ⟨.inl (by simp [EventLoop.calls, hlog]), hidle⟩
  have hstep (l : EventLoop) (op : LoopOp) (hl : l.Contracted ∧ l.ClosedIdle)
      (hop : op.Contracted d l) : (l.step d op).Contracted ∧ (l.step d op).ClosedIdle :=
    ⟨hl.1.step hl.2 hop, hl.2.step op⟩
  have hrun := run_invariant hstep ops l hinit hops
  rcases hrun.1 with h | ⟨-, -, -, h⟩
  · exact .of_forall h
  · exact h

/-! ## A write follows an expiry -/

/-- After every expiry without an error, and before `recv_event` waits again, packets are written and
sent. -/
def WritesBeforeWaiting (log : List LoopAction) : Prop :=
  ∀ later between earlier ans events,
    log = later ++ .waiting :: (between ++ .called .expiry ans events :: earlier) →
    ans.error = none → .waiting ∉ between →
    ∃ after before written next ans', between =
      after ++ .sent :: (before ++ .called .writePackets ans' next :: written)

/-- Whenever `recv_event` waits, it has just sent what it wrote. -/
def WaitsWritten (log : List LoopAction) : Prop :=
  ∀ later earlier, log = later ++ .waiting :: earlier →
    ∃ ans events rest, earlier = .sent :: .called .writePackets ans events :: rest

theorem WaitsWritten.cons {log : List LoopAction} (h : WaitsWritten log) {a : LoopAction}
    (ha : a ≠ .waiting) : WaitsWritten (a :: log) := by
  intro later earlier heq
  cases later with
  | nil => exact absurd (List.cons.inj heq).1 ha
  | cons b later => exact h later earlier (List.cons.inj heq).2

theorem WaitsWritten.wait {rest : List LoopAction} {ans : Answer} {events : List ConnectionEvent}
    (h : WaitsWritten (.sent :: .called .writePackets ans events :: rest)) :
    WaitsWritten (.waiting :: .sent :: .called .writePackets ans events :: rest) := by
  intro later earlier heq
  cases later with
  | nil =>
    obtain ⟨-, rfl⟩ := List.cons.inj heq
    exact ⟨ans, events, rest, rfl⟩
  | cons b later => exact h later earlier (List.cons.inj heq).2

theorem WaitsWritten.writesBeforeWaiting {log : List LoopAction} (h : WaitsWritten log) :
    WritesBeforeWaiting log := by
  intro later between earlier ans events heq _ _
  obtain ⟨ans', next, rest, hrest⟩ := h later _ heq
  rcases between with - | ⟨a, - | ⟨b, between⟩⟩
  · cases hrest
  · simp at hrest
  · obtain ⟨rfl, htail⟩ := List.cons.inj hrest
    obtain ⟨rfl, -⟩ := List.cons.inj htail
    exact ⟨[], [], between, next, ans', rfl⟩

namespace EventLoop

/-- What every step keeps: `recv_event` sends what it wrote last, and waits only then. -/
structure Written (l : EventLoop) : Prop where
  waits : WaitsWritten l.log
  sending : l.pc = .sending → ∃ ans events rest, l.log = .called .writePackets ans events :: rest

variable {d : Driver} {l : EventLoop}

theorem written_of_idle (h : WaitsWritten l.log) (hpc : l.pc ≠ .sending) : l.Written :=
  ⟨h, fun hs => absurd hs hpc⟩

theorem written_returnError (h : WaitsWritten l.log) (err : Error) : (l.returnError err).Written :=
  written_of_idle (h.cons (by simp)) (by simp [returnError, record])

theorem written_returnEvent (h : WaitsWritten l.log) (err : Error) : (l.returnEvent err).Written := by
  unfold returnEvent
  split
  · exact written_of_idle (h.cons (by simp)) (by simp [record])
  · exact written_returnError h err

theorem written_returnClosed (h : WaitsWritten l.log) (err : Error) :
    (l.returnClosed err).Written :=
  written_returnEvent (by rw [log_pushConnectionClosed]; exact h) err

theorem log_write (l : EventLoop) (ans : Answer) :
    ∃ events, (l.write d ans).log = .called .writePackets ans events :: l.log := by
  cases d
  · exact ⟨_, rfl⟩
  · exact ⟨_, rfl⟩

theorem waitsWritten_write (h : WaitsWritten l.log) (ans : Answer) :
    WaitsWritten (l.write d ans).log := by
  obtain ⟨events, hlog⟩ := @log_write d l ans
  rw [hlog]
  exact h.cons (by simp)

theorem written_recvLoop (h : WaitsWritten l.log) (flush : Answer) :
    (l.recvLoop d flush).Written := by
  unfold recvLoop
  split
  · exact written_returnEvent h _
  split
  · exact written_returnClosed h _
  split
  · exact written_returnError (waitsWritten_write h flush) _
  · obtain ⟨events, hlog⟩ := @log_write d l flush
    exact ⟨waitsWritten_write h flush, fun _ => ⟨flush, events, l.log, hlog⟩⟩

theorem written_readDatagram (h : WaitsWritten l.log) (read flush : Answer) :
    (l.readDatagram d read flush).Written := by
  have hcall : WaitsWritten (l.callAndDrain .read read).log := h.cons (by simp)
  unfold readDatagram
  split
  · split
    · exact written_returnError hcall _
    · exact written_recvLoop (by rw [log_pushConnectionClosed]; exact hcall) flush
  · exact written_recvLoop hcall flush

theorem written_recvTimer (h : WaitsWritten l.log) (expiry flush : Answer) :
    (l.recvTimer d expiry flush).Written := by
  have hcall : WaitsWritten (l.callAndDrain .expiry expiry).log := h.cons (by simp)
  unfold recvTimer
  split
  · split
    · exact written_returnClosed hcall _
    · exact written_recvLoop hcall flush
  · exact written_recvLoop hcall flush

theorem written_afterSending {ans : Answer} {events : List ConnectionEvent}
    {rest : List LoopAction} (h : WaitsWritten l.log)
    (hlog : l.log = .sent :: .called .writePackets ans events :: rest) :
    (l.afterSending d).Written := by
  have hdrain : (l.drainSent d).log = l.log := log_drainSent l
  unfold afterSending
  split
  · exact written_returnEvent (hdrain ▸ h) _
  · refine written_of_idle ?_ (by simp [record])
    rw [record_log]
    simp only [hdrain]
    rw [hlog] at h ⊢
    exact h.wait

/-- **One step** sends what it wrote before it waits. -/
theorem Written.step (h : l.Written) (op : LoopOp) : (l.step d op).Written := by
  have hw := h.waits
  unfold EventLoop.step
  split
  · rename_i ans hpc
    unfold EventLoop.flush
    split
    · refine written_of_idle (waitsWritten_write hw ans) ?_
      simp [hpc]
    · exact written_of_idle (waitsWritten_write hw ans) (by simp)
  · unfold EventLoop.recvEvent
    split
    · exact written_returnEvent hw _
    split
    · exact written_returnClosed hw _
    · exact written_recvLoop hw _
  · rename_i hpc
    unfold EventLoop.sendDatagram
    split
    · exact written_of_idle (hw.cons (by simp)) (by simp [call, record, apply, hpc])
    · exact written_of_idle ((hw.cons (by simp)).cons (by simp)) (by simp [call, record, apply, hpc])
  · rename_i hpc
    unfold EventLoop.close
    split
    · exact h
    · split <;>
        exact written_of_idle (hw.cons (by simp)) (by simp [call, record, apply, hpc])
  · rename_i hpc
    unfold EventLoop.pollEvent
    split
    · exact written_of_idle (hw.cons (by simp)) (by simp [record, hpc])
    · exact h
  · rename_i hpc
    simp only [EventLoop.sent, hpc]
    exact written_of_idle (hw.cons (by simp)) (by simp [record])
  · rename_i hpc
    obtain ⟨ans, events, rest, hlog⟩ := h.sending hpc
    have hsent : (l.record .sent).log = .sent :: .called .writePackets ans events :: rest := by
      rw [record_log, hlog]
    simp only [EventLoop.sent, hpc]
    exact written_afterSending (hw.cons (by simp)) hsent
  · exact written_readDatagram hw _ _
  · exact written_recvLoop hw _
  · exact written_returnError hw _
  · exact written_recvTimer hw _ _
  · exact written_of_idle hw (by simp)
  · exact h

end EventLoop

/-- **A write follows every expiry**, in every run of either loop. -/
theorem loop_writes_before_waiting (d : Driver) (l : EventLoop) (hlog : l.log = [])
    (hpc : l.pc = .idle) (ops : List LoopOp) :
    WritesBeforeWaiting (run (EventLoop.step d) l ops).log := by
  have hinit : l.Written := by
    refine EventLoop.written_of_idle ?_ (by simp [hpc])
    intro later earlier heq
    simp [hlog] at heq
  have hrun := run_invariant (fun l op (h : l.Written) (_ : True) => h.step (d := d) op) ops l hinit
    (legalRun_true ops l)
  exact hrun.waits.writesBeforeWaiting

end Ngtcp2Rs
