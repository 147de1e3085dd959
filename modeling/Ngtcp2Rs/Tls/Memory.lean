import Ngtcp2Rs.Tls.Lifetimes

/-!
# Programs and memory

A program creates, moves and drops contexts, sessions and connections in any order; `Memory` has its
values, and the heap behind them. `owned` is what the values are meant to own.

* `memory_safe_iff`: nothing is used after it was freed, or freed twice, exactly as long as no server
  connection selects an ALPN protocol after its context was dropped;
* `memory_reclaimed`: once every value is dropped, what is left is one `SSL_CTX` for every `new_server`
  that was given a path with a NUL byte.
-/

namespace Ngtcp2Rs

open Lib

/-- The callbacks that C code makes while a connection is used. -/
inductive Upcall where
  /-- an ngtcp2 callback, into the user data -/
  | event
  /-- aws-lc asks for the connection of an `SSL` -/
  | getConn
  /-- a session ticket, of a client -/
  | newSession
  /-- the protocol of a handshake, of a server -/
  | alpnSelect
  deriving DecidableEq

/-- What a program can do. -/
inductive MemOp where
  | newClient (verifyPeer : Bool) (ans : NewClient)
  | newServer (ans : NewServer)
  | setAcceptEarlyData (ctx : ℕ) (accept : Bool)
  | addCaCertPem (ctx : ℕ) (ans : AddCaCert)
  | createSession (ctx : ℕ) (ans : CreateSession)
  | setSession (session : ℕ) (ans : SetSession)
  | clientNew (session : ℕ) (ans : ConnNew)
  | clientNewWith0rtt (session : ℕ) (set : SetSession) (ans : ConnNew) (params : Bool)
  | serverNew (session : ℕ) (ans : ConnNew)
  /-- a method of a connection, with a callback in it -/
  | call (conn : ℕ) (upcall : Upcall)
  | dropContext (ctx : ℕ)
  | dropSession (session : ℕ)
  | dropConnection (conn : ℕ)
  deriving DecidableEq

/-- A context is left behind. -/
def MemOp.leaks : MemOp → Bool
  | .newServer ans => decide ans.Leaks
  | _ => false

/-- The values of a program and the memory behind them. A session is `held` by the program, or by a
connection. Not in the program: `leaked` are the contexts whose `SSL_CTX` was left behind. -/
structure Memory where
  heap : Heap Res := fun _ => false
  next : ℕ := 0
  contexts : ℕ → Option TlsContext := fun _ => none
  sessions : ℕ → Option TlsSession := fun _ => none
  held : ℕ → Bool := fun _ => false
  /-- the session of a connection -/
  connections : ℕ → Option ℕ := fun _ => none
  leaked : List ℕ := []

namespace Memory

/-- A session that the program has. -/
def heldSession (m : Memory) (id : ℕ) : Option TlsSession :=
  if m.held id then m.sessions id else none

/-- A new context, if there is one. -/
def addContext (m : Memory) (c : TlsContext) (b : Block) : Option Memory := do
  let heap ← exec Heap.step m.heap b.ops
  some { m with
    heap
    next := m.next + 1
    contexts := if b.ok then Function.update m.contexts m.next (some c) else m.contexts }

/-- A connection takes a session over, or the session is dropped. -/
def addConnection (m : Memory) (session : ℕ) (b : Block) : Option Memory := do
  let heap ← exec Heap.step m.heap b.ops
  some { m with
    heap
    next := m.next + 1
    held := Function.update m.held session false
    sessions := if b.ok then m.sessions else Function.update m.sessions session none
    connections :=
      if b.ok then Function.update m.connections m.next (some session) else m.connections }

/-- What a callback touches. -/
def upcallOps (id ssl : ℕ) (s : TlsSession) : Upcall → List (HeapOp Res)
  | .event => [.use (.conn id), .use (.userData id)]
  | .getConn => [.use (.ssl ssl), .use (.connRef id), .use (.conn id)]
  | .newSession => if s.isServer then [] else [.use (.ssl ssl), .use (.slot ssl)]
  | .alpnSelect => if s.isServer then [.use (.ssl ssl), .use (.alpn s.ctx)] else []

/-- One operation; `none` is a fault. A value that is not there cannot be named. -/
def step (m : Memory) : MemOp → Option Memory
  | .newClient verifyPeer ans =>
    m.addContext { isServer := false, verifyPeer } (Ngtcp2Rs.newClient m.next ans)
  | .newServer ans => do
    let m' ← m.addContext { isServer := true } (Ngtcp2Rs.newServer m.next ans)
    some (if ans.Leaks then { m' with leaked := m.next :: m'.leaked } else m')
  | .setAcceptEarlyData ctx accept =>
    match m.contexts ctx with
    | none => some m
    | some c =>
      if c.isServer then
        some { m with
          contexts := Function.update m.contexts ctx (some { c with acceptEarlyData := accept }) }
      else some m
  | .addCaCertPem ctx ans =>
    match m.contexts ctx with
    | none => some m
    | some c => do
      let heap ← exec Heap.step m.heap (c.addCaCertPem ctx ans)
      some { m with heap }
  | .createSession ctx ans =>
    match m.contexts ctx with
    | none => some m
    | some c => do
      let b := c.createSession ctx m.next ans
      let heap ← exec Heap.step m.heap b.ops
      some { m with
        heap
        next := m.next + 1
        held := Function.update m.held m.next b.ok
        sessions :=
          if b.ok then Function.update m.sessions m.next (some ⟨ctx, c.isServer, c.acceptEarlyData⟩)
          else m.sessions }
  | .setSession session ans =>
    match m.heldSession session with
    | none => some m
    | some s => do
      let heap ← exec Heap.step m.heap (s.setSession session ans).ops
      some { m with heap }
  | .clientNew session ans =>
    match m.heldSession session with
    | none => some m
    | some s => m.addConnection session (s.clientNew m.next session ans)
  | .clientNewWith0rtt session set ans params =>
    match m.heldSession session with
    | none => some m
    | some s => m.addConnection session (s.clientNewWith0rtt m.next session set ans params)
  | .serverNew session ans =>
    match m.heldSession session with
    | none => some m
    | some s => m.addConnection session (s.serverNew m.next session ans)
  | .call conn upcall =>
    match m.connections conn with
    | none => some m
    | some ssl =>
      match m.sessions ssl with
      | none => some m
      | some s => do
        let heap ← exec Heap.step m.heap (upcallOps conn ssl s upcall)
        some { m with heap }
  | .dropContext ctx =>
    match m.contexts ctx with
    | none => some m
    | some c => do
      let heap ← exec Heap.step m.heap (c.drop ctx)
      some { m with heap, contexts := Function.update m.contexts ctx none }
  | .dropSession session =>
    match m.heldSession session with
    | none => some m
    | some s => do
      let heap ← exec Heap.step m.heap (s.drop session)
      some { m with
        heap
        sessions := Function.update m.sessions session none
        held := Function.update m.held session false }
  | .dropConnection conn =>
    match m.connections conn with
    | none => some m
    | some ssl =>
      match m.sessions ssl with
      | none => some m
      | some s => do
        let heap ← exec Heap.step m.heap (s.dropConnection conn ssl)
        some { m with
          heap
          sessions := Function.update m.sessions ssl none
          connections := Function.update m.connections conn none }

/-! ## Ownership -/

/-- What the values of a program own. -/
def owned (m : Memory) : Heap Res
  | .sslCtx ctx => (m.contexts ctx).isSome || decide (ctx ∈ m.leaked)
  | .alpn ctx => (m.contexts ctx).any fun c => c.isServer
  | .ssl session => (m.sessions session).isSome
  | .slot session => (m.sessions session).any fun s => !s.isServer
  | .conn id | .userData id | .connRef id => (m.connections id).isSome
  | .parsed _ | .bio _ | .x509 _ => false

/-- How the values of a program belong together. -/
structure Linked (m : Memory) : Prop where
  fresh : ∀ id, m.next ≤ id →
    m.contexts id = none ∧ m.sessions id = none ∧ m.connections id = none ∧ id ∉ m.leaked
  leaked : ∀ ctx ∈ m.leaked, m.contexts ctx = none
  /-- a connection has a session, which is not held by the program -/
  attached : ∀ id ssl, m.connections id = some ssl → (m.sessions ssl).isSome ∧ m.held ssl = false
  once : ∀ id id' ssl, m.connections id = some ssl → m.connections id' = some ssl → id = id'
  made : ∀ ssl s, m.sessions ssl = some s → s.ctx < m.next
  side : ∀ ssl s c, m.sessions ssl = some s → m.contexts s.ctx = some c → c.isServer = s.isServer

/-- **Ownership.** What is allocated is what the values own. -/
structure Owned (m : Memory) : Prop extends Linked m where
  heap : m.heap = m.owned

theorem owned_init : Owned {} where
  fresh _ _ := ⟨rfl, rfl, rfl, by simp⟩
  leaked _ h := by cases h
  attached _ _ h := by cases h
  once _ _ _ h _ := by cases h
  made _ _ h := by cases h
  side _ _ _ h _ := by cases h
  heap := by
    funext r
    cases r <;> rfl

section Edits

variable {m : Memory} {c : TlsContext} {s : TlsSession} {id ssl ctx : ℕ}

theorem owned_setContext (c : TlsContext) (hnone : m.contexts ctx = none) :
    owned { m with contexts := Function.update m.contexts ctx (some c) } =
      m.owned.put (c.res ctx) true := by
  funext r
  cases r <;> simp [owned, Heap.put, TlsContext.res, Function.update_apply] <;> grind

theorem owned_editContext (hsome : m.contexts ctx = some c) (accept : Bool) :
    owned { m with
      contexts := Function.update m.contexts ctx (some { c with acceptEarlyData := accept }) } =
      m.owned := by
  funext r
  cases r <;> simp [owned, Function.update_apply] <;> grind

theorem owned_dropContext (hsome : m.contexts ctx = some c) (hleaked : ctx ∉ m.leaked) :
    owned { m with contexts := Function.update m.contexts ctx none } =
      m.owned.put (c.res ctx) false := by
  funext r
  cases r <;> simp [owned, Heap.put, TlsContext.res, Function.update_apply] <;> grind

theorem owned_leak : owned { m with leaked := ctx :: m.leaked } = m.owned.put [.sslCtx ctx] true := by
  funext r
  cases r <;> simp [owned, Heap.put]
  grind

theorem owned_setSession (s : TlsSession) (hnone : m.sessions ssl = none) :
    owned { m with sessions := Function.update m.sessions ssl (some s) } =
      m.owned.put (s.res ssl) true := by
  funext r
  cases r <;> simp [owned, Heap.put, TlsSession.res, Function.update_apply] <;> grind

theorem owned_dropSession (hsome : m.sessions ssl = some s) :
    owned { m with sessions := Function.update m.sessions ssl none } =
      m.owned.put (s.res ssl) false := by
  funext r
  cases r <;> simp [owned, Heap.put, TlsSession.res, Function.update_apply] <;> grind

theorem owned_setConnection (ssl : ℕ) :
    owned { m with connections := Function.update m.connections id (some ssl) } =
      m.owned.put (connRes id) true := by
  funext r
  cases r <;> simp [owned, Heap.put, connRes, Function.update_apply] <;> grind

theorem owned_dropConnection :
    owned { m with connections := Function.update m.connections id none } =
      m.owned.put (connRes id) false := by
  funext r
  cases r <;> simp [owned, Heap.put, connRes, Function.update_apply] <;> grind

end Edits

/-! ## Steps -/

section Steps

variable {m m' : Memory} {c : TlsContext} {s : TlsSession} {b : Block} {id ssl ctx : ℕ}

theorem Owned.context_mem (hm : Owned m) (hc : m.contexts ctx = some c) :
    ∀ r ∈ c.res ctx, m.heap r = true := by
  intro r hr
  rw [hm.heap]
  unfold TlsContext.res at hr
  split at hr <;> simp only [List.mem_cons, List.not_mem_nil, or_false] at hr
  · rcases hr with rfl | rfl <;> simp [owned, *]
  · simp [owned, *]

theorem Owned.session_mem (hm : Owned m) (hs : m.sessions ssl = some s) :
    ∀ r ∈ s.res ssl, m.heap r = true := by
  intro r hr
  rw [hm.heap]
  unfold TlsSession.res at hr
  split at hr <;> simp only [List.mem_cons, List.not_mem_nil, or_false] at hr
  · simp [owned, *]
  · rcases hr with rfl | rfl <;> simp [owned, *]

theorem Owned.connection_mem (hm : Owned m) (hc : m.connections id = some ssl) :
    ∀ r ∈ connRes id, m.heap r = true := by
  intro r hr
  rw [hm.heap]
  simp only [connRes, List.mem_cons, List.not_mem_nil, or_false] at hr
  rcases hr with rfl | rfl | rfl <;> simp [owned, hc]

theorem Owned.connection_fresh (hm : Owned m) : ∀ r ∈ connRes m.next, m.heap r = false := by
  intro r hr
  rw [hm.heap]
  simp only [connRes, List.mem_cons, List.not_mem_nil, or_false] at hr
  rcases hr with rfl | rfl | rfl <;> simp [owned, (hm.fresh m.next (Nat.le_refl _)).2.2.1]

/-- A value that was not made leaves only its number behind. -/
theorem Linked.skip (hm : Linked m) : Linked { m with next := m.next + 1 } := by
  obtain ⟨fresh, leaked, attached, once, made, side⟩ := hm
  constructor <;> grind

theorem Linked.addContext (hm : Linked m) (c : TlsContext) :
    Linked { m with
      next := m.next + 1
      contexts := Function.update m.contexts m.next (some c) } := by
  obtain ⟨fresh, leaked, attached, once, made, side⟩ := hm
  constructor <;> grind [Function.update_apply]

theorem Linked.leak (hm : Linked m) :
    Linked { m with next := m.next + 1, leaked := m.next :: m.leaked } := by
  obtain ⟨fresh, leaked, attached, once, made, side⟩ := hm
  constructor <;> grind

theorem Linked.editContext (hm : Linked m) (hc : m.contexts ctx = some c) (accept : Bool) :
    Linked { m with
      contexts := Function.update m.contexts ctx (some { c with acceptEarlyData := accept }) } := by
  obtain ⟨fresh, leaked, attached, once, made, side⟩ := hm
  constructor <;> grind [Function.update_apply]

theorem Linked.dropContext (hm : Linked m) :
    Linked { m with contexts := Function.update m.contexts ctx none } := by
  obtain ⟨fresh, leaked, attached, once, made, side⟩ := hm
  constructor <;> grind [Function.update_apply]

theorem Linked.addSession (hm : Linked m) (hc : m.contexts ctx = some c) (early : Bool) :
    Linked { m with
      next := m.next + 1
      held := Function.update m.held m.next true
      sessions := Function.update m.sessions m.next (some ⟨ctx, c.isServer, early⟩) } := by
  obtain ⟨fresh, leaked, attached, once, made, side⟩ := hm
  constructor <;> grind [Function.update_apply]

theorem Linked.skipSession (hm : Linked m) :
    Linked { m with next := m.next + 1, held := Function.update m.held m.next false } := by
  obtain ⟨fresh, leaked, attached, once, made, side⟩ := hm
  constructor <;> grind [Function.update_apply]

theorem Linked.dropSession (hm : Linked m) (hheld : m.held ssl = true) :
    Linked { m with
      held := Function.update m.held ssl false
      sessions := Function.update m.sessions ssl none } := by
  obtain ⟨fresh, leaked, attached, once, made, side⟩ := hm
  constructor <;> grind [Function.update_apply]

theorem Linked.addConnection (hm : Linked m) (hheld : m.held ssl = true)
    (hs : m.sessions ssl = some s) :
    Linked { m with
      next := m.next + 1
      held := Function.update m.held ssl false
      connections := Function.update m.connections m.next (some ssl) } := by
  obtain ⟨fresh, leaked, attached, once, made, side⟩ := hm
  constructor <;> grind [Function.update_apply]

theorem Linked.dropConnection (hm : Linked m) (hc : m.connections id = some ssl) :
    Linked { m with
      sessions := Function.update m.sessions ssl none
      connections := Function.update m.connections id none } := by
  obtain ⟨fresh, leaked, attached, once, made, side⟩ := hm
  constructor <;> grind [Function.update_apply]

theorem Linked.own (hm : Linked m) {heap : Heap Res} (hheap : heap = m.owned) :
    Owned { m with heap } :=
  ⟨⟨hm.fresh, hm.leaked, hm.attached, hm.once, hm.made, hm.side⟩, hheap⟩

/-- A function that leaves the heap alone. -/
theorem Owned.unchanged (hm : Owned m) {ops : List (HeapOp Res)}
    (hops : exec Heap.step m.heap ops = some m.heap) :
    ∃ m', (do let heap ← exec Heap.step m.heap ops; some { m with heap }) = some m' ∧ Owned m' :=
  ⟨m, by simp [hops], hm⟩

theorem Owned.addContext (hm : Owned m) (c : TlsContext)
    (hb : b.Does m.heap (m.heap.put (c.res m.next) true) m.heap) :
    ∃ m', m.addContext c b = some m' ∧ Owned m' := by
  unfold Memory.addContext
  rw [show exec _ _ _ = _ from hb, hm.heap]
  refine ⟨_, rfl, ?_⟩
  cases b.ok
  · exact hm.skip.own rfl
  · exact (hm.toLinked.addContext c).own
      (owned_setContext c (hm.fresh m.next (Nat.le_refl _)).1).symm

theorem Owned.newServer (hm : Owned m) (ans : NewServer) :
    ∃ m', m.step (.newServer ans) = some m' ∧ Owned m' := by
  have hfresh := hm.fresh m.next (Nat.le_refl _)
  have hctx : m.heap (.sslCtx m.next) = false := by simp [hm.heap, owned, hfresh]
  have hb := newServer_spec ans hctx (by simp [hm.heap, owned, hfresh])
  by_cases hleaks : ans.Leaks
  · rw [if_pos hleaks, Block.Does, newServer_leaks hleaks, hm.heap] at hb
    simp only [step, Memory.addContext, hm.heap, hb, newServer_leaks hleaks, if_pos hleaks]
    exact ⟨_, rfl, hm.leak.own owned_leak.symm⟩
  · rw [if_neg hleaks] at hb
    obtain ⟨m', hm', howned⟩ := hm.addContext { isServer := true } hb
    exact ⟨m', by simp [step, hm', hleaks], howned⟩

theorem Owned.createSession (hm : Owned m) (hc : m.contexts ctx = some c) (ans : CreateSession) :
    ∃ m', m.step (.createSession ctx ans) = some m' ∧ Owned m' := by
  have hfresh := hm.fresh m.next (Nat.le_refl _)
  have hctx : m.heap (.sslCtx ctx) = true := by simp [hm.heap, owned, hc]
  have hssl : m.heap (.ssl m.next) = false := by simp [hm.heap, owned, hfresh]
  have hb : (c.createSession ctx m.next ans).Does m.heap _ _ :=
    createSession_spec ans hctx hssl (by simp [hm.heap, owned, hfresh])
  simp only [step, hc]
  rw [show exec _ _ _ = _ from hb, hm.heap]
  refine ⟨_, rfl, ?_⟩
  cases (c.createSession ctx m.next ans).ok
  · exact hm.skipSession.own rfl
  · exact (hm.addSession hc c.acceptEarlyData).own (owned_setSession _ hfresh.2.1).symm

theorem heldSession_eq_some (h : m.heldSession ssl = some s) :
    m.held ssl = true ∧ m.sessions ssl = some s := by
  simpa [heldSession] using h

theorem Owned.addConnection (hm : Owned m) (hheld : m.heldSession ssl = some s)
    (hb : b.Does m.heap (m.heap.put (connRes m.next) true) (m.heap.put (s.res ssl) false)) :
    ∃ m', m.addConnection ssl b = some m' ∧ Owned m' := by
  obtain ⟨hheld, hs⟩ := heldSession_eq_some hheld
  unfold Memory.addConnection
  rw [show exec _ _ _ = _ from hb, hm.heap]
  refine ⟨_, rfl, ?_⟩
  cases b.ok
  · exact (hm.dropSession hheld).skip.own (owned_dropSession hs).symm
  · exact (hm.toLinked.addConnection hheld hs).own (owned_setConnection ssl).symm

theorem Owned.dropSession (hm : Owned m) (hheld : m.heldSession ssl = some s) :
    ∃ m', m.step (.dropSession ssl) = some m' ∧ Owned m' := by
  obtain ⟨hheld', hs⟩ := heldSession_eq_some hheld
  simp only [step, hheld]
  rw [dropSession_spec (hm.session_mem hs), hm.heap]
  exact ⟨_, rfl, (hm.toLinked.dropSession hheld').own (owned_dropSession hs).symm⟩

theorem Owned.dropConnection (hm : Owned m) (hc : m.connections id = some ssl)
    (hs : m.sessions ssl = some s) :
    ∃ m', m.step (.dropConnection id) = some m' ∧ Owned m' := by
  simp only [step, hc, hs]
  rw [dropConnection_spec (hm.session_mem hs) (hm.connection_mem hc), hm.heap]
  refine ⟨_, rfl, (hm.toLinked.dropConnection hc).own ?_⟩
  rw [Heap.put_append, ← owned_dropConnection]
  exact (owned_dropSession (m := { m with connections := Function.update m.connections id none })
    hs).symm

theorem Owned.dropContext (hm : Owned m) (hc : m.contexts ctx = some c) :
    ∃ m', m.step (.dropContext ctx) = some m' ∧ Owned m' := by
  have hleaked : ctx ∉ m.leaked := fun h => by simp [hm.leaked ctx h] at hc
  simp only [step, hc]
  rw [dropContext_spec (hm.context_mem hc), hm.heap]
  exact ⟨_, rfl, hm.toLinked.dropContext.own (owned_dropContext hc hleaked).symm⟩

/-- A server connection selects a protocol only while its context is there. -/
def Legal (m : Memory) : MemOp → Prop
  | .call id .alpnSelect =>
    ∀ s ∈ (m.connections id).bind m.sessions, s.isServer → (m.contexts s.ctx).isSome
  | _ => True

/-- What the callbacks touch is there. -/
theorem Owned.upcall (hm : Owned m) (hc : m.connections id = some ssl) (hs : m.sessions ssl = some s)
    {upcall : Upcall}
    (hlegal : upcall = .alpnSelect → s.isServer → (m.contexts s.ctx).isSome) :
    exec Heap.step m.heap (upcallOps id ssl s upcall) = some m.heap := by
  have hssl : m.heap (.ssl ssl) = true := by simp [hm.heap, owned, hs]
  have hconn : m.heap (.conn id) = true := by simp [hm.heap, owned, hc]
  have huser : m.heap (.userData id) = true := by simp [hm.heap, owned, hc]
  have href : m.heap (.connRef id) = true := by simp [hm.heap, owned, hc]
  cases upcall with
  | event => simp [upcallOps, exec, Heap.step, hconn, huser]
  | getConn => simp [upcallOps, exec, Heap.step, hssl, hconn, href]
  | newSession =>
    rw [upcallOps]
    split
    · rfl
    next hclient =>
      have hslot : m.heap (.slot ssl) = true := by simp [hm.heap, owned, hs, hclient]
      simp [exec, Heap.step, hssl, hslot]
  | alpnSelect =>
    rw [upcallOps]
    split
    next hserver =>
      obtain ⟨c, hctx⟩ := Option.isSome_iff_exists.mp (hlegal rfl hserver)
      have halpn : m.heap (.alpn s.ctx) = true := by
        simp [hm.heap, owned, hctx, hm.side ssl s c hs hctx, hserver]
      simp [exec, Heap.step, hssl, halpn]
    · rfl

/-- **A legal step succeeds, and keeps the ownership.** -/
theorem Owned.step (hm : Owned m) (op : MemOp) (hlegal : m.Legal op) :
    ∃ m', m.step op = some m' ∧ Owned m' := by
  have hfresh := hm.fresh m.next (Nat.le_refl _)
  cases op with
  | newClient verifyPeer ans =>
    exact hm.addContext _ (newClient_spec ans (by simp [hm.heap, owned, hfresh]))
  | newServer ans => exact hm.newServer ans
  | setAcceptEarlyData ctx accept =>
    simp only [Memory.step]
    split
    · exact ⟨m, rfl, hm⟩
    next c hc =>
      split
      · exact ⟨_, rfl, hm.editContext hc accept, hm.heap.trans (owned_editContext hc accept).symm⟩
      · exact ⟨m, rfl, hm⟩
  | addCaCertPem ctx ans =>
    simp only [Memory.step]
    split
    · exact ⟨m, rfl, hm⟩
    next c hc =>
      exact hm.unchanged (addCaCertPem_spec ans (by simp [hm.heap, owned, hc])
        (by simp [hm.heap, owned]) (by simp [hm.heap, owned]))
  | createSession ctx ans =>
    cases hc : m.contexts ctx with
    | none => exact ⟨m, by simp [Memory.step, hc], hm⟩
    | some c => exact hm.createSession hc ans
  | setSession ssl ans =>
    simp only [Memory.step]
    split
    · exact ⟨m, rfl, hm⟩
    next s hs =>
      exact hm.unchanged (setSession_spec ans (hm.session_mem (heldSession_eq_some hs).2)
        (by simp [hm.heap, owned]))
  | clientNew ssl ans =>
    simp only [Memory.step]
    split
    · exact ⟨m, rfl, hm⟩
    next s hs =>
      exact hm.addConnection hs
        (clientNew_spec ans (hm.session_mem (heldSession_eq_some hs).2) hm.connection_fresh)
  | clientNewWith0rtt ssl set ans params =>
    simp only [Memory.step]
    split
    · exact ⟨m, rfl, hm⟩
    next s hs =>
      exact hm.addConnection hs
        (clientNewWith0rtt_spec set ans params (hm.session_mem (heldSession_eq_some hs).2)
          (by simp [hm.heap, owned]) hm.connection_fresh)
  | serverNew ssl ans =>
    simp only [Memory.step]
    split
    · exact ⟨m, rfl, hm⟩
    next s hs =>
      exact hm.addConnection hs
        (serverNew_spec ans (hm.session_mem (heldSession_eq_some hs).2) hm.connection_fresh)
  | call id upcall =>
    simp only [Memory.step]
    split
    · exact ⟨m, rfl, hm⟩
    next ssl hc =>
      split
      · exact ⟨m, rfl, hm⟩
      next s hs =>
        refine hm.unchanged (hm.upcall hc hs ?_)
        rintro rfl
        exact hlegal s (by simp [hc, hs])
  | dropContext ctx =>
    cases hc : m.contexts ctx with
    | none => exact ⟨m, by simp [Memory.step, hc], hm⟩
    | some c => exact hm.dropContext hc
  | dropSession ssl =>
    cases hs : m.heldSession ssl with
    | none => exact ⟨m, by simp [Memory.step, hs], hm⟩
    | some s => exact hm.dropSession hs
  | dropConnection id =>
    cases hc : m.connections id with
    | none => exact ⟨m, by simp [Memory.step, hc], hm⟩
    | some ssl =>
      obtain ⟨s, hs⟩ := Option.isSome_iff_exists.mp (hm.attached id ssl hc).1
      exact hm.dropConnection hc hs

/-- A step that is not legal reads the protocols after they were freed. -/
theorem Owned.faults (hm : Owned m) {op : MemOp} (hlegal : ¬ m.Legal op) : m.step op = none := by
  unfold Legal at hlegal
  split at hlegal
  next id =>
    push Not at hlegal
    obtain ⟨s, hs, hserver, hctx⟩ := hlegal
    obtain ⟨ssl, hc, hs⟩ := Option.bind_eq_some_iff.mp hs
    have hssl : m.heap (.ssl ssl) = true := by simp [hm.heap, owned, hs]
    have halpn : m.heap (.alpn s.ctx) = false := by simp_all [hm.heap, owned]
    simp [Memory.step, hc, hs, upcallOps, hserver, exec, Heap.step, hssl, halpn]
  · exact absurd trivial hlegal

theorem Owned.step_isSome (hm : Owned m) (op : MemOp) : (m.step op).isSome ↔ m.Legal op := by
  constructor
  · intro hsome
    by_contra hlegal
    simp [hm.faults hlegal] at hsome
  · intro hlegal
    obtain ⟨m', hm', -⟩ := hm.step op hlegal
    simp [hm']

theorem Owned.kept (hm : Owned m) (op : MemOp) (hstep : m.step op = some m') : Owned m' := by
  obtain ⟨m'', hm'', howned⟩ := hm.step op ((hm.step_isSome op).mp (by simp [hstep]))
  rw [hstep] at hm''
  cases hm''
  exact howned

theorem addContext_leaked (h : m.addContext c b = some m') : m'.leaked = m.leaked := by
  obtain ⟨heap, -, h⟩ := Option.bind_eq_some_iff.mp h
  cases h
  rfl

theorem addConnection_leaked (h : m.addConnection ssl b = some m') : m'.leaked = m.leaked := by
  obtain ⟨heap, -, h⟩ := Option.bind_eq_some_iff.mp h
  cases h
  rfl

theorem step_leaked {op : MemOp} (hstep : m.step op = some m') :
    m'.leaked = if op.leaks then m.next :: m.leaked else m.leaked := by
  cases op with
  | newClient verifyPeer ans => exact addContext_leaked hstep
  | newServer ans =>
    obtain ⟨m₁, h₁, hm'⟩ := Option.bind_eq_some_iff.mp hstep
    have hleaked := addContext_leaked h₁
    by_cases hleaks : ans.Leaks
    · rw [if_pos hleaks] at hm'
      cases hm'
      simp [MemOp.leaks, hleaks, hleaked]
    · rw [if_neg hleaks] at hm'
      cases hm'
      simp [MemOp.leaks, hleaks, hleaked]
  | setAcceptEarlyData ctx accept =>
    simp only [Memory.step] at hstep
    split at hstep
    · cases hstep
      rfl
    · split at hstep <;> cases hstep <;> rfl
  | clientNew ssl ans | serverNew ssl ans | clientNewWith0rtt ssl set ans params =>
    simp only [Memory.step] at hstep
    split at hstep
    · cases hstep
      rfl
    · exact addConnection_leaked hstep
  | addCaCertPem _ _ | createSession _ _ | setSession _ _ | dropContext _ | dropSession _ =>
    simp only [Memory.step] at hstep
    split at hstep
    · cases hstep
      rfl
    · obtain ⟨heap, -, h⟩ := Option.bind_eq_some_iff.mp hstep
      cases h
      rfl
  | call _ _ | dropConnection _ =>
    simp only [Memory.step] at hstep
    split at hstep
    · cases hstep
      rfl
    split at hstep
    · cases hstep
      rfl
    · obtain ⟨heap, -, h⟩ := Option.bind_eq_some_iff.mp hstep
      cases h
      rfl

end Steps

/-! ## Runs -/

/-- **Memory safety.** A program faults exactly if a server connection selects a protocol after its
context was dropped. -/
theorem memory_safe_iff (ops : List MemOp) :
    (exec step {} ops).isSome ↔ LegalExec step Legal {} ops :=
  exec_isSome_iff (fun _ op hm => Owned.step_isSome hm op) (fun _ op _ hm => Owned.kept hm op) ops _
    owned_init

/-- A context that is dropped during the handshake. -/
example : (exec step {} [.newServer {}, .createSession 0 {}, .serverNew 1 {}, .dropContext 0,
    .call 2 .alpnSelect]).isSome = false := by decide

/-- Every leak adds one context to the ones left behind. -/
theorem run_leaked : ∀ {ops : List MemOp} {m m' : Memory}, Owned m → m.leaked.Nodup →
    exec step m ops = some m' →
      m'.leaked.Nodup ∧ m'.leaked.length = m.leaked.length + ops.countP MemOp.leaks
  | [], m, m', _, hnodup, h => by
    cases h
    exact ⟨hnodup, rfl⟩
  | op :: ops, m, m', hm, hnodup, h => by
    obtain ⟨m₁, h₁, h⟩ := Option.bind_eq_some_iff.mp h
    have hleaked := step_leaked h₁
    have hnext : m.next ∉ m.leaked := (hm.fresh m.next (Nat.le_refl _)).2.2.2
    have hnodup₁ : m₁.leaked.Nodup := by
      rw [hleaked]
      split
      · exact List.nodup_cons.mpr ⟨hnext, hnodup⟩
      · exact hnodup
    obtain ⟨hnodup', hlen⟩ := run_leaked (hm.kept op h₁) hnodup₁ h
    refine ⟨hnodup', ?_⟩
    rw [hlen, hleaked, List.countP_cons]
    split
    · rw [List.length_cons]
      omega
    · rfl

/-- **What is left.** Once every value is dropped, one `SSL_CTX` is left for every `new_server` that
was given a path with a NUL byte, and nothing else. -/
theorem memory_reclaimed {ops : List MemOp} {m : Memory} (hrun : exec step {} ops = some m)
    (hgone : ∀ id, m.contexts id = none ∧ m.sessions id = none ∧ m.connections id = none) :
    ∃ left : List ℕ, left.Nodup ∧ left.length = ops.countP MemOp.leaks ∧
      ∀ r, m.heap r = true ↔ ∃ ctx ∈ left, r = .sslCtx ctx := by
  have hm : Owned m := exec_keeps (fun _ op _ hm _ => Owned.kept hm op) ops _ m owned_init
    (legalExec_true ops _) hrun
  obtain ⟨hnodup, hlen⟩ := run_leaked owned_init List.nodup_nil hrun
  refine ⟨m.leaked, hnodup, by simpa using hlen, fun r => ?_⟩
  rw [hm.heap]
  cases r <;> simp [owned, hgone]

/-- A server that handled one connection, and another one whose certificate path has a NUL byte. -/
def sampleOps : List MemOp :=
  [.newServer {}, .createSession 0 {}, .serverNew 1 {}, .call 2 .alpnSelect, .dropConnection 2,
    .dropContext 0, .newServer { certPath := false }]

theorem memory_reclaimed_nulPath :
    ∃ left : List ℕ, left.Nodup ∧ left.length = sampleOps.countP MemOp.leaks ∧
      ∀ r, ((exec step {} sampleOps).get (by decide)).heap r = true ↔ ∃ ctx ∈ left, r = .sslCtx ctx :=
  memory_reclaimed (Option.some_get _).symm fun id => by
    rcases id with _ | _ | _ | id <;> exact ⟨rfl, rfl, rfl⟩

end Memory

end Ngtcp2Rs
