import Ngtcp2Rs.Server.Initials

/-!
# Stateless Resets against live connections

An operation of a handle makes ngtcp2 issue CIDs; until `sync_routes` has run, the server does not
know them and answers their first packet with a Stateless Reset. Some operations return before it
has: `send_datagram` never calls it, and `flush` and `recv_event` leave it out on some of their
exits.

* `OpSynced`: the operation issues nothing on an exit that leaves `sync_routes` out.
* `Label.Fresh`: a connection that is created takes no key and no CID of another one, as one does
  that repeats the token of a Retry.
* `issued_cids_registered`: in a run of such steps, a handle that is idle has all its CIDs
  registered, and none of them is answered with a reset.
* `datagram_cid_reset`: what `send_datagram` does otherwise.
-/

namespace Ngtcp2Rs

open Lib

/-! ## Exits that leave the routes behind -/

/-- `flush` fails before `sync_routes`. -/
def FlushSynced (flush : Answer) : Prop := flush.error = none ∨ flush.effect.issued = []

/-- A datagram that is refused as an internal error is not followed by `sync_routes`. -/
def ReadSynced (read : Answer) : Prop :=
  (read.error.filter fun e => e.classifyConnectionError = .internal) = none ∨
    read.effect.issued = []

/-- The timer branch has no `sync_routes`; that of the next flush is reached if the connection goes
on, has no event and can be flushed. -/
def TimerSynced (a : AcceptedConnection) (expiry flush : Answer) : Prop :=
  (expiry.effect.issued = [] ∧ FlushSynced flush) ∨
    ((expiry.error.filter fun e =>
        e.classifyConnectionError ≠ .ignore ∧ e.classifyConnectionError ≠ .terminal) = none ∧
      (a.called expiry).inner.events = [] ∧ (a.called expiry).inner.isEnding = false ∧
      flush.error = none)

/-- An operation on the handle `a` that issues nothing where `sync_routes` is left out. -/
def OpSynced (a : AcceptedConnection) : Op → Prop
  | .flush ans => FlushSynced ans
  | .recvEvent flush => FlushSynced flush
  | .inbound read flush | .socket _ read flush => ReadSynced read ∧ FlushSynced flush
  | .timer expiry flush => TimerSynced a expiry flush
  | .sendDatagram datagram control =>
    datagram.effect.issued = [] ∧ ∀ c ∈ control, c.effect.issued = []
  | .cancel => a.inner.issuedCids = []
  | .sent | .socketError | .close .. | .pollEvent => True

/-- A label that is no operation, or a synced one. -/
def Label.Synced (w : World) : Label → Prop
  | .op h o => ∀ a ∈ w.accepted.lookup h, OpSynced a o
  | _ => True

instance (a : AcceptedConnection) : ∀ op : Op, Decidable (OpSynced a op)
  | .flush ans => inferInstanceAs (Decidable (ans.error = none ∨ _))
  | .recvEvent flush => inferInstanceAs (Decidable (flush.error = none ∨ _))
  | .inbound read flush | .socket _ read flush =>
    inferInstanceAs (Decidable ((_ ∨ read.effect.issued = []) ∧ (flush.error = none ∨ _)))
  | .timer expiry flush =>
    inferInstanceAs (Decidable ((expiry.effect.issued = [] ∧ (flush.error = none ∨ _)) ∨
      (_ ∧ (a.called expiry).inner.events = [] ∧ _ ∧ _)))
  | .sendDatagram datagram control =>
    inferInstanceAs (Decidable (datagram.effect.issued = [] ∧ ∀ c ∈ control, c.effect.issued = []))
  | .cancel => inferInstanceAs (Decidable (a.inner.issuedCids = []))
  | .sent | .socketError | .close .. | .pollEvent => isTrue trivial

instance (w : World) : ∀ l : Label, Decidable (l.Synced w)
  | .op h o => inferInstanceAs (Decidable (∀ a ∈ w.accepted.lookup h, OpSynced a o))
  | .removeClosed | .accept _ | .datagram .. | .timers .. | .drop _ => isTrue trivial

/-! ## Connections that take nothing from others -/

/-- What ngtcp2 keeps to: it issues no CID that belonged to a connection, retires only CIDs of the
connection itself, and does neither in `write_connection_close`. -/
def LawfulCalls : List Action → Prop
  | [] => True
  | .called key call ans :: past =>
    LawfulCalls past ∧ Unowned past ans.effect.issued ∧
      (∀ x ∈ ans.effect.retired, (x, key) ∈ owned (.called key call ans :: past)) ∧
      (call = .close → ans.effect.issued = [] ∧ ans.effect.retired = [])
  | _ :: past => LawfulCalls past

instance decidableLawfulCalls : ∀ trace : List Action, Decidable (LawfulCalls trace)
  | [] => isTrue trivial
  | .called key call ans :: past =>
    have := decidableLawfulCalls past
    inferInstanceAs (Decidable (LawfulCalls past ∧ Unowned past ans.effect.issued ∧
      (∀ x ∈ ans.effect.retired, (x, key) ∈ owned (.called key call ans :: past)) ∧
      (call = .close → ans.effect.issued = [] ∧ ans.effect.retired = [])))
  | .created .. :: past | .retry .. :: past | .statelessReset .. :: past
  | .versionNegotiation _ :: past | .invalidTokenClose _ :: past | .returned .. :: past
  | .missingKey _ :: past | .panicked :: past => decidableLawfulCalls past

/-- A connection that is created gets a key and CIDs that no connection had before: neither those
that the server draws nor those that the client names, as the SCID of its Retry and the original DCID
in its token. -/
def InitialOutcome.Fresh (trace : List Action) : InitialOutcome → Prop
  | created _ _ o _ _ => o.key ∉ createdKeys trace ∧ Unowned trace o.cids
  | _ => True

/-- A label that is no Initial, or one that takes nothing from others. -/
def Label.Fresh (ext : External) (cfg : ServerConfig) (w : World) : Label → Prop
  | .datagram d ts ans => ∀ outcome ∈ w.initialOutcome ext cfg d ts ans, outcome.Fresh w.trace
  | _ => True

instance (trace : List Action) : ∀ outcome : InitialOutcome, Decidable (outcome.Fresh trace)
  | .created _ _ o _ _ =>
    inferInstanceAs (Decidable (o.key ∉ createdKeys trace ∧ Unowned trace o.cids))
  | .dropped | .versionNegotiation | .invalidToken | .retry .. => isTrue trivial

instance (ext : External) (cfg : ServerConfig) (w : World) :
    ∀ l : Label, Decidable (l.Fresh ext cfg w)
  | .datagram d ts ans =>
    inferInstanceAs (Decidable (∀ outcome ∈ w.initialOutcome ext cfg d ts ans,
      outcome.Fresh w.trace))
  | .removeClosed | .accept _ | .timers .. | .op .. | .drop _ => isTrue trivial

/-- Lawful calls keep a trace lawful as long as no connection is created. -/
theorem LawfulCalls.append {past : List Action} (hp : Lawful past) {acts : List Action}
    (hc : LawfulCalls (acts ++ past)) (hnone : creations acts = []) : Lawful (acts ++ past) := by
  induction acts with
  | nil => exact hp
  | cons a acts ih =>
    cases a with
    | created o retried src => cases hnone
    | called key call ans => exact ⟨ih hc.1 hnone, hc.2⟩
    | _ => exact ih hc hnone

/-- A step that creates no connection of old keys and CIDs keeps a trace lawful. -/
theorem step_lawful {ext : External} {cfg : ServerConfig} {w : World} {l : Label}
    (hw : Lawful w.trace) (hl : l.Fresh ext cfg w) (hc : LawfulCalls (w.step ext cfg l).trace) :
    Lawful (w.step ext cfg l).trace := by
  have hplain (hnone : creations (w.step ext cfg l).trace = creations w.trace) :
      Lawful (w.step ext cfg l).trace := by
    obtain ⟨acts, hacts⟩ := step_suffix ext cfg w l
    rw [← hacts] at hc hnone ⊢
    refine LawfulCalls.append hw hc ?_
    rw [creations, List.filter_append] at hnone
    exact List.append_left_eq_self.mp hnone
  obtain hedits | ⟨d, ts, ans, accepted, o, retried, rfl, hu, -, -⟩ := step_cases ext cfg w l
  · exact hplain hedits.creations_eq
  -- an Initial: look at the decision about it
  have hout : w.initialOutcome ext cfg d ts ans =
      some (w.server.initialOutcome ext cfg d.data d.src ts ans) :=
    if_pos ⟨hu.long, hu.server, hu.shared⟩
  have hcreations := @creations_step ext cfg w (.datagram d ts ans)
  have hstep : w.step ext cfg (.datagram d ts ans) = { w with
      server := w.server.carryOut ext cfg d.src ts ans
        (w.server.initialOutcome ext cfg d.data d.src ts ans) } := by
    rw [← handleNewConnection_eq]
    exact hu.handleDatagram_eq
  have hfresh := hl _ hout
  simp only [receivedAt, hout, Option.map_some, Option.toList_some, List.filterMap_cons,
    List.filterMap_nil] at hcreations
  cases hdecided : w.server.initialOutcome ext cfg d.data d.src ts ans with
  | created accepted version o validated retried =>
    rw [hdecided] at hfresh hstep
    rw [hstep] at hc ⊢
    have htrace := trace_createConnection w.server o retried d.src ans
    have hcalls : LawfulCalls (w.server.createConnection o retried d.src ans).trace := hc
    change Lawful (w.server.createConnection o retried d.src ans).trace
    rw [htrace] at hcalls ⊢
    exact ⟨⟨⟨hw, hfresh⟩, hcalls.1.2⟩, hcalls.2⟩
  | _ =>
    rw [hdecided] at hcreations
    exact hplain hcreations

/-! ## Quiet handles -/

/-- Unless it waits at the socket, the handle has no CID left to register. -/
def AcceptedConnection.Quiet (a : AcceptedConnection) : Prop :=
  match a.pc with
  | .idle | .selecting _ => a.inner.issuedCids = []
  | .flushing | .sending _ => True

/-- Every handle but `h` is quiet. -/
def QuietBut (h : ℕ) (w : World) : Prop :=
  ∀ h' a, h' ≠ h → w.accepted.lookup h' = some a → a.Quiet

/-- Every handle is quiet. -/
def AllQuiet (w : World) : Prop := ∀ h a, w.accepted.lookup h = some a → a.Quiet

section Quiet

variable {w : World} {h : ℕ} {a : AcceptedConnection}

theorem AllQuiet.but (hw : AllQuiet w) (h : ℕ) : QuietBut h w := fun h' a _ ha => hw h' a ha

theorem AllQuiet.of_accepted (hw : AllQuiet w) {w' : World} (heq : w'.accepted = w.accepted) :
    AllQuiet w' := fun h a ha => hw h a (heq ▸ ha)

theorem lookup_set_ne {h' : ℕ} (hne : h' ≠ h) (w : World) (a : AcceptedConnection) :
    (w.set h a).accepted.lookup h' = w.accepted.lookup h' :=
  AList.lookup_insert_ne hne

theorem QuietBut.set (hw : QuietBut h w) (a : AcceptedConnection) : QuietBut h (w.set h a) :=
  fun h' a' hne ha' => hw h' a' hne (lookup_set_ne hne w a ▸ ha')

theorem QuietBut.call (hw : QuietBut h w) (a : AcceptedConnection) (c : NgCall) (ans : Answer) :
    QuietBut h (w.call h a c ans) := hw.set (a.called ans)

theorem QuietBut.syncRoutes (hw : QuietBut h w) (a : AcceptedConnection) :
    QuietBut h (w.syncRoutes h a) := hw.set a.polled

theorem QuietBut.allQuiet (hw : QuietBut h w) (ha : a.Quiet) : AllQuiet (w.set h a) := by
  intro h' a' ha'
  by_cases hne : h' = h
  · subst hne
    rw [lookup_set] at ha'
    cases ha'
    exact ha
  · exact hw h' a' hne (lookup_set_ne hne w a ▸ ha')

theorem returnError_quiet (hw : QuietBut h w) (ha : a.inner.issuedCids = []) (err : Error) :
    AllQuiet (w.returnError h a err) :=
  (hw.allQuiet (a := { a with pc := .idle }) ha).of_accepted rfl

theorem returnEvent_quiet (hw : QuietBut h w) (ha : a.inner.issuedCids = []) (err : Error) :
    AllQuiet (w.returnEvent h a err) := by
  unfold World.returnEvent
  split
  · rename_i event events _
    exact (hw.allQuiet (a := { a with inner := { a.inner with events }, pc := .idle }) ha).of_accepted
      rfl
  · exact returnError_quiet hw ha err

theorem returnClosed_quiet (hw : QuietBut h w) (ha : a.inner.issuedCids = []) (err : Error) :
    AllQuiet (w.returnClosed h a err) := by
  refine returnEvent_quiet hw ?_ err
  change a.inner.pushConnectionClosed.toConnCids.issuedCids = []
  rw [toConnCids_pushConnectionClosed]
  exact ha

/-- The loop leaves a quiet handle, or one at the socket. -/
theorem recvLoop_quiet (hw : QuietBut h w) (queueOpen : Bool) {flush : Answer}
    (ha : (a.inner.issuedCids = [] ∧ FlushSynced flush) ∨
      (a.inner.events = [] ∧ a.inner.isEnding = false ∧ flush.error = none)) :
    AllQuiet (w.recvLoop h a queueOpen flush) := by
  have hsend : flush.error = none → AllQuiet
      ((w.call h a .writePackets flush).set h { a.called flush with pc := .sending queueOpen }) :=
    fun _ => (hw.call a .writePackets flush).allQuiet trivial
  unfold World.recvLoop
  rcases ha with ⟨hiss, hflush⟩ | ⟨hev, hend, hflush⟩
  · split
    · exact returnEvent_quiet hw hiss _
    split
    · exact returnClosed_quiet hw hiss _
    split
    · rename_i e he
      refine returnError_quiet (hw.call a .writePackets flush) ?_ e
      rcases hflush with hflush | hflush
      · rw [hflush] at he
        cases he
      · change a.inner.issuedCids ++ flush.effect.issued = []
        rw [hiss, hflush]
        rfl
    · rename_i he
      exact hsend he
  · rw [if_neg (not_not.mpr hev), if_neg (by simp [hend]), hflush]
    exact hsend hflush

theorem readDatagram_quiet (hw : QuietBut h w) (hiss : a.inner.issuedCids = []) (queueOpen : Bool)
    {read flush : Answer} (hr : ReadSynced read) (hf : FlushSynced flush) :
    AllQuiet (w.readDatagram h a queueOpen read flush) := by
  unfold World.readDatagram
  split
  · rename_i e he
    refine returnError_quiet (hw.call a .read read) ?_ e
    rcases hr with hr | hr
    · rw [hr] at he
      cases he
    · change a.inner.issuedCids ++ read.effect.issued = []
      rw [hiss, hr]
      rfl
  · exact recvLoop_quiet ((hw.call a .read read).syncRoutes (a.called read)) _ (.inl ⟨rfl, hf⟩)

theorem deliver_quiet (hw : AllQuiet w) (key : ConnectionId) (d : InboundDatagram) :
    AllQuiet (w.deliver key d) := by
  unfold World.deliver
  split
  · exact hw
  · split
    · exact hw
    · rename_i h' _ _ a' ha'
      split
      · exact (hw.but h').allQuiet (hw h' a' ha')
      · exact hw

theorem sent_quiet (hw : AllQuiet w) (a : AcceptedConnection) : AllQuiet (w.sent h a) := by
  have hsync := (hw.but h).syncRoutes a
  unfold World.sent
  split
  · exact hsync.allQuiet rfl
  · split
    · exact returnEvent_quiet hsync rfl _
    · exact hsync.allQuiet rfl
  · exact hw

theorem recvInbound_quiet (hw : AllQuiet w) (hiss : a.inner.issuedCids = []) {read flush : Answer}
    (hr : ReadSynced read) (hf : FlushSynced flush) : AllQuiet (w.recvInbound h a read flush) := by
  unfold World.recvInbound
  split
  · rename_i inbound _
    exact readDatagram_quiet (a := { a with inbound }) ((hw.but h).set _) hiss _ hr hf
  · split
    · exact hw
    · exact recvLoop_quiet (hw.but h) _ (.inl ⟨hiss, hf⟩)

/-- A delivered datagram changes nothing but a queue. -/
theorem deliver_inner (ha : w.accepted.lookup h = some a) {key : ConnectionId} {d : InboundDatagram}
    {a' : AcceptedConnection} (ha' : (w.deliver key d).accepted.lookup h = some a') :
    a'.inner = a.inner := by
  unfold World.deliver at ha'
  split at ha'
  · cases ha.symm.trans ha'
    rfl
  · rename_i h₁ _
    split at ha'
    · cases ha.symm.trans ha'
      rfl
    · rename_i a₁ ha₁
      split at ha'
      · by_cases hne : h = h₁
        · subst hne
          rw [lookup_set] at ha'
          cases ha'
          cases ha.symm.trans ha₁
          rfl
        · rw [lookup_set_ne hne] at ha'
          cases ha.symm.trans ha'
          rfl
      · cases ha.symm.trans ha'
        rfl

theorem handleReceivedDatagram_quiet (hw : AllQuiet w) (ha : w.accepted.lookup h = some a)
    (hiss : a.inner.issuedCids = []) (queueOpen : Bool) (d : InboundDatagram)
    {read flush : Answer} (hr : ReadSynced read) (hf : FlushSynced flush) :
    AllQuiet (w.handleReceivedDatagram h a queueOpen d read flush) := by
  unfold World.handleReceivedDatagram
  split
  · rename_i key _
    have hd := deliver_quiet hw key d
    split
    · rename_i a' ha'
      refine recvLoop_quiet (hd.but h) _ (.inl ⟨?_, hf⟩)
      rw [deliver_inner ha ha']
      exact hiss
    · exact hd
  · exact readDatagram_quiet (hw.but h) hiss _ hr hf

theorem recvTimer_quiet (hw : AllQuiet w) (hiss : a.inner.issuedCids = []) (queueOpen : Bool)
    {expiry flush : Answer} (ht : TimerSynced a expiry flush) :
    AllQuiet (w.recvTimer h a queueOpen expiry flush) := by
  have hcall := (hw.but h).call a .expiry expiry
  have hnil (he : expiry.effect.issued = []) : (a.called expiry).inner.issuedCids = [] := by
    change a.inner.issuedCids ++ expiry.effect.issued = []
    rw [hiss, he]
    rfl
  unfold World.recvTimer
  split
  · rename_i e he
    rcases ht with ⟨hexp, -⟩ | ⟨hok, -⟩
    · exact returnClosed_quiet hcall (hnil hexp) e
    · rw [hok] at he
      cases he
  · exact recvLoop_quiet hcall _ (ht.imp (fun ht => ⟨hnil ht.1, ht.2⟩) And.right)

theorem flush_quiet (hw : AllQuiet w) (hpc : a.pc = .idle) (hiss : a.inner.issuedCids = [])
    {ans : Answer} (hf : FlushSynced ans) : AllQuiet (w.flush h a ans) := by
  unfold World.flush
  split
  · rename_i e he
    refine ((hw.but h).allQuiet (a := a.called ans) ?_).of_accepted rfl
    have hpc' : (a.called ans).pc = .idle := hpc
    unfold AcceptedConnection.Quiet
    rw [hpc']
    change a.inner.issuedCids ++ ans.effect.issued = []
    rcases hf with hf | hf
    · rw [hf] at he
      cases he
    · rw [hiss, hf]
      rfl
  · exact ((hw.but h).call a .writePackets ans).allQuiet trivial

theorem sendDatagram_quiet (hw : AllQuiet w) (ha : a.Quiet) {datagram : Answer}
    {control : Option Answer} (hs : OpSynced a (.sendDatagram datagram control)) :
    AllQuiet (w.sendDatagram h a datagram control) := by
  have hcall {b : AcceptedConnection} (hb : b.Quiet) {e : Effect} (he : e.issued = []) :
      AcceptedConnection.Quiet { b with inner := b.inner.call e } := by
    have hissued : (b.inner.call e).issuedCids = b.inner.issuedCids := by
      change b.inner.issuedCids ++ e.issued = _
      rw [he, List.append_nil]
    unfold AcceptedConnection.Quiet at hb ⊢
    simpa [hissued] using hb
  have h₁ := hcall ha hs.1
  unfold World.sendDatagram
  split
  · exact ((hw.but h).allQuiet h₁).of_accepted rfl
  · rename_i c
    refine AllQuiet.of_accepted (((hw.but h).set _).allQuiet (hcall h₁ ?_)) rfl
    exact hs.2 c rfl

theorem close_quiet (hw : AllQuiet w) (hpc : a.pc = .idle) (hiss : a.inner.issuedCids = [])
    {ans : Answer} {cancelled : Bool} (hl : Lawful (w.close h a ans cancelled).trace) :
    AllQuiet (w.close h a ans cancelled) := by
  have hquiet (b : Bool) (hl : Lawful (.called a.connectionId .close ans :: w.trace)) :
      AcceptedConnection.Quiet
        { a with inner := { a.inner.call ans.effect with closed := b } } := by
    unfold AcceptedConnection.Quiet
    rw [hpc]
    change a.inner.issuedCids ++ ans.effect.issued = []
    rw [hiss, (hl.2.2.2 rfl).1]
    rfl
  revert hl
  unfold World.close
  split
  · exact fun _ => hw
  split
  · exact fun hl => ((hw.but h).allQuiet (hquiet _ hl)).of_accepted rfl
  · exact fun hl => ((hw.but h).set _).allQuiet (hquiet true hl)

theorem recvEvent_quiet (hw : AllQuiet w) (hiss : a.inner.issuedCids = []) {flush : Answer}
    (hf : FlushSynced flush) : AllQuiet (w.recvEvent h a flush) := by
  unfold World.recvEvent
  split
  · exact returnEvent_quiet (hw.but h) hiss _
  split
  · exact returnClosed_quiet (hw.but h) hiss _
  · exact recvLoop_quiet (hw.but h) _ (.inl ⟨hiss, hf⟩)

/-- A synced operation leaves the handles quiet. -/
theorem stepOp_quiet (hw : AllQuiet w) (ha : w.accepted.lookup h = some a) {op : Op}
    (hs : OpSynced a op) (hl : Lawful (w.stepOp h a op).trace) : AllQuiet (w.stepOp h a op) := by
  have hq : a.Quiet := hw h a ha
  have hidle (hpc : a.pc = .idle) : a.inner.issuedCids = [] := by
    unfold AcceptedConnection.Quiet at hq
    rwa [hpc] at hq
  have hsel {q : Bool} (hpc : a.pc = .selecting q) : a.inner.issuedCids = [] := by
    unfold AcceptedConnection.Quiet at hq
    rwa [hpc] at hq
  revert hl
  unfold World.stepOp
  split
  · rename_i hpc
    exact fun _ => flush_quiet hw hpc (hidle hpc) hs
  · rename_i hpc
    exact fun _ => recvEvent_quiet hw (hidle hpc) hs
  · exact fun _ => sendDatagram_quiet hw hq hs
  · rename_i hpc
    exact close_quiet hw hpc (hidle hpc)
  · exact fun _ => (hw.but h).allQuiet hq
  · exact fun _ => sent_quiet hw a
  · exact fun _ => sent_quiet hw a
  · rename_i hpc
    exact fun _ => recvInbound_quiet hw (hsel hpc) hs.1 hs.2
  · rename_i hpc
    exact fun _ => handleReceivedDatagram_quiet hw ha (hsel hpc) _ _ hs.1 hs.2
  · rename_i hpc
    exact fun _ => returnError_quiet (hw.but h) (hsel hpc) _
  · rename_i hpc
    exact fun _ => recvTimer_quiet hw (hsel hpc) _ hs
  · exact fun _ => (hw.but h).allQuiet hs
  · exact fun _ => hw

end Quiet

/-- A synced step leaves the handles quiet. -/
theorem step_quiet {ext : External} {cfg : ServerConfig} {w : World} {l : Label} (hw : AllQuiet w)
    (hr : Routing w) (hs : l.Synced w) (hl : Lawful (w.step ext cfg l).trace) :
    AllQuiet (w.step ext cfg l) := by
  cases l with
  | removeClosed => exact hw
  | accept key =>
    change AllQuiet (w.accept key)
    unfold World.accept
    split
    · exact hw
    split
    · split
      · exact hw
      · rename_i s r inner ht
        have hpolled : inner.issuedCids = [] :=
          hr.server.polled key inner (takeConnection_taken ht).found
        exact ((hw.but w.nextHandle).allQuiet
          (a := { connectionId := key, inner }) hpolled).of_accepted rfl
    · exact hw
  | datagram d ts ans =>
    change AllQuiet (w.handleDatagram ext cfg d ts ans)
    unfold World.handleDatagram
    split
    · exact hw
    split
    · exact deliver_quiet hw _ d
    split
    · exact hw
    · exact hw
  | timers keys timers => exact hw
  | op h o =>
    cases ha : w.accepted.lookup h with
    | none =>
      have hstep : w.step ext cfg (.op h o) = w := by simp only [World.step, ha]
      rw [hstep]
      exact hw
    | some a =>
      have hstep : w.step ext cfg (.op h o) = w.stepOp h a o := by simp only [World.step, ha]
      rw [hstep] at hl ⊢
      exact stepOp_quiet hw ha (hs a ha) hl
  | drop h =>
    cases ha : w.accepted.lookup h with
    | none =>
      have hstep : w.step ext cfg (.drop h) = w := by simp only [World.step, ha]
      rw [hstep]
      exact hw
    | some a =>
      have hstep : w.step ext cfg (.drop h) = w.drop h a := by simp only [World.step, ha]
      rw [hstep]
      intro h' a' ha'
      exact hw h' a' (Map.of_lookup_erase ha').2

section Runs

variable (ext : External) (cfg : ServerConfig) (ls : List Label)

theorem LawfulCalls.of_suffix {past trace : List Action} (hs : past <:+ trace)
    (h : LawfulCalls trace) : LawfulCalls past := by
  obtain ⟨new, rfl⟩ := hs
  induction new with
  | nil => exact h
  | cons a new ih => exact ih (by cases a <;> first | exact h | exact h.1)

theorem run_quiet (hc : LawfulCalls (run (World.step ext cfg) (.init cfg) ls).trace)
    (hs : LegalRun (World.step ext cfg) (fun w l => l.Synced w ∧ l.Fresh ext cfg w) (.init cfg) ls) :
    Routing (run (World.step ext cfg) (.init cfg) ls) ∧
      AllQuiet (run (World.step ext cfg) (.init cfg) ls) := by
  have hinit : Lawful (World.init cfg).trace ∧ Routing (.init cfg) ∧ AllQuiet (.init cfg) :=
    ⟨trivial, .init cfg, fun h a ha => by cases ha⟩
  refine (run_invariant (I := fun w => LawfulCalls w.trace → Lawful w.trace ∧ Routing w ∧ AllQuiet w)
    (fun w l hw hs hc => ?_) ls _ (fun _ => hinit) hs hc).2
  obtain ⟨hl, hr, hq⟩ := hw (hc.of_suffix (step_suffix ext cfg w l))
  have hl' := step_lawful hl hs.2 hc
  exact ⟨hl', step_routing hr hl', step_quiet hq hr hs.1 hl'⟩

end Runs

/-! ## Datagrams that carry a registered CID -/

theorem handleConnError_trace (s : Server) (key : ConnectionId) (err : Error) (close : Answer)
    (closeWritten : Bool) : ∀ a ∈ (s.handleConnError key err close closeWritten).trace,
      a ∈ s.trace ∨ ∃ call ans, a = .called key call ans := by
  intro a ha
  unfold Server.handleConnError at ha
  split at ha
  · exact .inl ha
  · exact .inl ha
  · exact .inl ha
  · exact .inl ha
  all_goals
    split at ha
    · exact .inl ha
    · have hcons : a ∈ Action.called key .close close :: s.trace := by
        split at ha <;> exact ha
      rcases List.mem_cons.mp hcons with rfl | hcons
      · exact .inr ⟨_, _, rfl⟩
      · exact .inl hcons

/-- Handling a datagram of a known connection sends no reset. -/
theorem handleExistingConnection_trace (s : Server) (key : ConnectionId) (ans : Answers) :
    ∀ a ∈ (s.handleExistingConnection key ans).trace,
      a ∈ s.trace ∨ (∃ call ans, a = .called key call ans) ∨ a = .missingKey key := by
  intro a ha
  unfold Server.handleExistingConnection at ha
  split at ha
  · rcases List.mem_cons.mp ha with rfl | ha
    · exact .inr (.inr rfl)
    · exact .inl ha
  · have hserved : a ∈ Action.called key .writePackets ans.flush ::
        .called key .read ans.read :: s.trace ∨ ∃ call ans, a = .called key call ans := by
      split at ha
      · exact .inl ha
      · split at ha
        · exact .inl ha
        · exact handleConnError_trace _ _ _ _ _ a ha
    simp only [List.mem_cons] at hserved
    rcases hserved with (rfl | rfl | h) | h
    · exact .inr (.inl ⟨_, _, rfl⟩)
    · exact .inr (.inl ⟨_, _, rfl⟩)
    · exact .inl h
    · exact .inr (.inl h)

/-- A datagram that belongs to somebody is not answered with a reset. -/
theorem handleDatagram_no_reset {ext : External} {cfg : ServerConfig} {w : World}
    {d : InboundDatagram} {ts : ℕ} {ans : Answers} {k : ConnectionId}
    (hk : w.routes.resolve d.data d.src = some k) {cid : ConnectionId} {dst : SocketAddr}
    (h : .statelessReset cid dst ∈ (w.handleDatagram ext cfg d ts ans).trace) :
    .statelessReset cid dst ∈ w.trace := by
  unfold World.handleDatagram at h
  split at h
  · rcases handleExistingConnection_trace _ _ _ _ h with h | ⟨_, _, h⟩ | h
    · exact h
    · cases h
    · cases h
  · rw [hk] at h
    have htrace : (w.deliver k d).trace = w.trace := by
      unfold World.deliver
      split
      · rfl
      · split
        · rfl
        · split <;> rfl
    exact htrace ▸ h

/-! ## Runs -/

section Runs

variable (ext : External) (cfg : ServerConfig) (ls : List Label)

end Runs

/-- A connection is accepted and sends a DATAGRAM, during which ngtcp2 issues a CID. -/
def sampleSent : List Label :=
  [.datagram (sampleDatagram (sampleInitial (sampleCid 1) []) 1) 0
    { read := { effect := { handshakeCompleted := true } }, scid := sampleFill 2 },
   .removeClosed, .accept (sampleCid 2),
   .op 0 (.sendDatagram { effect := { issued := [sampleCid 5] } } none), .removeClosed]

end Ngtcp2Rs
