import Ngtcp2Rs.Lib.Heap

/-!
# Memory across the C border

`TlsContext`, `TlsSession` (`ngtcp2/src/crypto.rs`) and `Connection` (`ngtcp2/src/conn.rs`) own what
aws-lc and ngtcp2 allocate, and the boxes that C code points into. Every block below lists what a
function does to the heap, drops of locals included, in the order of the source; its specification says
what it leaves if it returns a value and if it fails, with any outcome of the C calls.

* `connNew_spec`, `clientNewWith0rtt_spec`: a failed constructor gives everything back that it took,
  the session included;
* `newServer_spec`: `new_server` does not, for a path with a NUL byte.
-/

namespace Ngtcp2Rs

open Lib

/-! ## Resources -/

/-- What is allocated for a value. -/
inductive Res where
  /-- the reference of a `TlsContext` to its `SSL_CTX` -/
  | sslCtx (ctx : ℕ)
  /-- the protocols of a server, which `SSL_CTX` points to -/
  | alpn (ctx : ℕ)
  | ssl (session : ℕ)
  /-- the slot for session tickets, which `SSL` points to -/
  | slot (session : ℕ)
  | conn (id : ℕ)
  /-- `ConnectionUserData`, which `ngtcp2_conn` points to -/
  | userData (id : ℕ)
  /-- `ConnRef`, which `SSL` points to -/
  | connRef (id : ℕ)
  /-- the `SSL_SESSION` of a ticket, while it is set -/
  | parsed (session : ℕ)
  /-- the `BIO` and the `X509` of a certificate, while it is added -/
  | bio (ctx : ℕ)
  | x509 (ctx : ℕ)
  deriving DecidableEq

/-- A `TlsContext`. -/
structure TlsContext where
  isServer : Bool
  verifyPeer : Bool := false
  acceptEarlyData : Bool := false
  deriving DecidableEq

/-- A `TlsSession`, and the context that it was created from. -/
structure TlsSession where
  ctx : ℕ
  isServer : Bool
  acceptEarlyData : Bool
  deriving DecidableEq

/-- What a session owns. -/
def TlsSession.res (s : TlsSession) (id : ℕ) : List Res :=
  if s.isServer then [.ssl id] else [.ssl id, .slot id]

/-- What a connection owns, besides its session. -/
def connRes (id : ℕ) : List Res := [.conn id, .userData id, .connRef id]

/-- What a context owns. -/
def TlsContext.res (c : TlsContext) (id : ℕ) : List Res :=
  if c.isServer then [.alpn id, .sslCtx id] else [.sslCtx id]

/-! ## Functions -/

/-- What a function did with the heap, and whether it returned a value. -/
structure Block where
  ops : List (HeapOp Res)
  ok : Bool

/-- From `h`, it leaves `good` if it returns a value, and `bad` if it fails. -/
def Block.Does (b : Block) (h good bad : Heap Res) : Prop :=
  exec Heap.step h b.ops = some (if b.ok then good else bad)

/-- The C calls of `new_client_with_options`. -/
structure NewClient where
  method : Bool := true
  sslCtx : Bool := true
  configured : Bool := true
  alpn : Bool := true
  deriving DecidableEq

/-- `TlsContext::new_client_with_options`. -/
def newClient (ctx : ℕ) (ans : NewClient) : Block :=
  if ¬ ans.method ∨ ¬ ans.sslCtx then ⟨[], false⟩
  else if ¬ ans.configured ∨ ¬ ans.alpn then
    ⟨[.alloc (.sslCtx ctx), .use (.sslCtx ctx), .free (.sslCtx ctx)], false⟩
  else ⟨[.alloc (.sslCtx ctx), .use (.sslCtx ctx)], true⟩

/-- The C calls of `new_server`, and whether the paths are C strings. -/
structure NewServer where
  method : Bool := true
  sslCtx : Bool := true
  configured : Bool := true
  certPath : Bool := true
  cert : Bool := true
  keyPath : Bool := true
  key : Bool := true
  deriving DecidableEq

/-- `TlsContext::new_server`. A path with a NUL byte makes it return without `SSL_CTX_free`. -/
def newServer (ctx : ℕ) (ans : NewServer) : Block :=
  let made : List (HeapOp Res) := [.alloc (.sslCtx ctx), .use (.sslCtx ctx)]
  if ¬ ans.method ∨ ¬ ans.sslCtx then ⟨[], false⟩
  else if ¬ ans.configured then ⟨made ++ [.free (.sslCtx ctx)], false⟩
  else if ¬ ans.certPath then ⟨made, false⟩
  else if ¬ ans.cert then ⟨made ++ [.free (.sslCtx ctx)], false⟩
  else if ¬ ans.keyPath then ⟨made, false⟩
  else if ¬ ans.key then ⟨made ++ [.free (.sslCtx ctx)], false⟩
  else ⟨made ++ [.alloc (.alpn ctx), .use (.sslCtx ctx)], true⟩

/-- The `SSL_CTX` of a failed `new_server` is not freed. -/
def NewServer.Leaks (ans : NewServer) : Prop :=
  ans.method ∧ ans.sslCtx ∧ ans.configured ∧ (¬ ans.certPath ∨ ans.cert ∧ ¬ ans.keyPath)

instance (ans : NewServer) : Decidable ans.Leaks := inferInstanceAs (Decidable (_ ∧ _))

/-- `Drop` for `TlsContext`. -/
def TlsContext.drop (c : TlsContext) (id : ℕ) : List (HeapOp Res) := (c.res id).map .free

/-- The C calls of `add_ca_cert_pem`. -/
structure AddCaCert where
  bio : Bool := true
  x509 : Bool := true
  store : Bool := true
  deriving DecidableEq

/-- `TlsContext::add_ca_cert_pem`. Whether the store takes the certificate does not matter here. -/
def TlsContext.addCaCertPem (c : TlsContext) (ctx : ℕ) (ans : AddCaCert) : List (HeapOp Res) :=
  if c.isServer ∨ ¬ c.verifyPeer ∨ ¬ ans.bio then []
  else if ¬ ans.x509 then [.alloc (.bio ctx), .use (.bio ctx), .free (.bio ctx)]
  else
    [.alloc (.bio ctx), .use (.bio ctx), .alloc (.x509 ctx), .free (.bio ctx), .use (.sslCtx ctx)] ++
      (if ans.store then [.use (.x509 ctx)] else []) ++ [.free (.x509 ctx)]

/-- The C calls of `create_session`. -/
structure CreateSession where
  ssl : Bool := true
  exData : Bool := true
  deriving DecidableEq

/-- `TlsContext::create_session`. -/
def TlsContext.createSession (c : TlsContext) (ctx id : ℕ) (ans : CreateSession) : Block :=
  if ¬ ans.ssl then ⟨[.use (.sslCtx ctx)], false⟩
  else if c.isServer then ⟨[.use (.sslCtx ctx), .alloc (.ssl id)], true⟩
  else if ¬ ans.exData then
    ⟨[.use (.sslCtx ctx), .alloc (.ssl id), .alloc (.slot id), .use (.ssl id), .free (.ssl id),
      .free (.slot id)], false⟩
  else ⟨[.use (.sslCtx ctx), .alloc (.ssl id), .alloc (.slot id), .use (.ssl id)], true⟩

/-- `Drop` for `TlsSession`: `SSL_free`, and then the slot. -/
def TlsSession.drop (s : TlsSession) (id : ℕ) : List (HeapOp Res) := (s.res id).map .free

/-- `ngtcp2_conn_del`, which ends the qlog through the user data. -/
def connDel (id : ℕ) : List (HeapOp Res) := [.use (.userData id), .free (.conn id)]

/-- The C calls of `finish_new`. -/
structure FinishNew where
  /-- `keep_alive_timeout` is set -/
  keepAlive : Bool := false
  encodeParams : Bool := true
  setParams : Bool := true
  encodeContext : Bool := true
  setContext : Bool := true
  deriving DecidableEq

def FinishNew.setKeepAlive (ans : FinishNew) (id : ℕ) : List (HeapOp Res) :=
  if ans.keepAlive then [.use (.conn id)] else []

/-- `Connection::finish_new`, for the connection `id` on the session `ssl`. -/
def TlsSession.finishNew (s : TlsSession) (id ssl : ℕ) (ans : FinishNew) : Block :=
  let made : List (HeapOp Res) :=
    ans.setKeepAlive id ++
      [.alloc (.connRef id), .use (.ssl ssl), .use (.conn id), .use (.conn id)]
  let abandon := connDel id ++ [.free (.connRef id)] ++ s.drop ssl ++ [.free (.userData id)]
  if ¬ ans.encodeParams then ⟨made ++ abandon, false⟩
  else
    let made := made ++ [.use (.ssl ssl)]
    if ¬ ans.setParams then ⟨made ++ abandon, false⟩
    else if s.acceptEarlyData then
      let made := made ++ [.use (.conn id)]
      if ¬ ans.encodeContext then ⟨made ++ abandon, false⟩
      else
        let made := made ++ [.use (.ssl ssl)]
        if ¬ ans.setContext then ⟨made ++ abandon, false⟩ else ⟨made, true⟩
    else ⟨made, true⟩

/-- The C calls of `client_new` and `server_new`. -/
structure ConnNew where
  /-- the transport parameters have an `original_dcid` exactly on a server -/
  params : Bool := true
  serverName : Bool := true
  peerIp : Bool := true
  conn : Bool := true
  finish : FinishNew := {}
  deriving DecidableEq

/-- From the user data on, `client_new` and `server_new` are alike. -/
def TlsSession.connNew (s : TlsSession) (id ssl : ℕ) (ans : ConnNew) : Block :=
  if ¬ ans.conn then ⟨[.alloc (.userData id), .free (.userData id)] ++ s.drop ssl, false⟩
  else
    let rest := s.finishNew id ssl ans.finish
    ⟨[.alloc (.userData id), .alloc (.conn id)] ++ rest.ops, rest.ok⟩

/-- `Connection::client_new`, which owns the session. A server session takes no server name. -/
def TlsSession.clientNew (s : TlsSession) (id ssl : ℕ) (ans : ConnNew) : Block :=
  if ¬ ans.params ∨ s.isServer then ⟨s.drop ssl, false⟩
  else if ¬ ans.serverName then ⟨[.use (.ssl ssl)] ++ s.drop ssl, false⟩
  else if ¬ ans.peerIp then ⟨[.use (.ssl ssl), .use (.ssl ssl)] ++ s.drop ssl, false⟩
  else
    let rest := s.connNew id ssl ans
    ⟨[.use (.ssl ssl), .use (.ssl ssl)] ++ rest.ops, rest.ok⟩

/-- `Connection::server_new`, which owns the session. -/
def TlsSession.serverNew (s : TlsSession) (id ssl : ℕ) (ans : ConnNew) : Block :=
  if ¬ ans.params then ⟨s.drop ssl, false⟩ else s.connNew id ssl ans

/-- `Drop` for `Connection`: `ngtcp2_conn_del`, and then the fields in their order. -/
def TlsSession.dropConnection (s : TlsSession) (id ssl : ℕ) : List (HeapOp Res) :=
  connDel id ++ [.free (.userData id)] ++ s.drop ssl ++ [.free (.connRef id)]

/-- The C calls of `set_session`. -/
structure SetSession where
  notEmpty : Bool := true
  parsed : Bool := true
  set : Bool := true
  deriving DecidableEq

/-- `TlsSession::set_session`. -/
def TlsSession.setSession (s : TlsSession) (ssl : ℕ) (ans : SetSession) : Block :=
  if s.isServer ∨ ¬ ans.notEmpty then ⟨[], false⟩
  else if ¬ ans.parsed then ⟨[.use (.ssl ssl)], false⟩
  else
    ⟨[.use (.ssl ssl), .alloc (.parsed ssl), .use (.parsed ssl), .use (.ssl ssl),
      .free (.parsed ssl)] ++ (if ans.set then [.use (.ssl ssl)] else []), ans.set⟩

/-- `Connection::client_new_with_0rtt`: the session is set first, and the parameters of the ticket are
decoded into the connection. -/
def TlsSession.clientNewWith0rtt (s : TlsSession) (id ssl : ℕ) (set : SetSession) (ans : ConnNew)
    (params : Bool) : Block :=
  let set := s.setSession ssl set
  if ¬ set.ok then ⟨set.ops ++ s.drop ssl, false⟩
  else
    let rest := s.clientNew id ssl ans
    if ¬ rest.ok then ⟨set.ops ++ rest.ops, false⟩
    else if ¬ params then ⟨set.ops ++ rest.ops ++ [.use (.conn id)] ++ s.dropConnection id ssl, false⟩
    else ⟨set.ops ++ rest.ops ++ [.use (.conn id), .use (.userData id)], true⟩

section Blocks

variable {h : Heap Res}

theorem newClient_spec {ctx : ℕ} (ans : NewClient) (hctx : h (.sslCtx ctx) = false) :
    (newClient ctx ans).Does h (h.put [.sslCtx ctx] true) h := by
  unfold newClient Block.Does
  split_ifs <;> simp_all [exec, Heap.step, Heap.put_cons]

theorem newServer_spec {ctx : ℕ} (ans : NewServer) (hctx : h (.sslCtx ctx) = false)
    (halpn : h (.alpn ctx) = false) :
    (newServer ctx ans).Does h (h.put [.alpn ctx, .sslCtx ctx] true)
      (if ans.Leaks then h.put [.sslCtx ctx] true else h) := by
  unfold newServer NewServer.Leaks Block.Does
  dsimp only
  split_ifs <;> simp_all [exec, Heap.step, Heap.put_cons, Function.update_comm]

theorem newServer_leaks {ctx : ℕ} {ans : NewServer} (hleaks : ans.Leaks) :
    (newServer ctx ans).ok = false := by
  obtain ⟨hmethod, hctx, hconf, hpath | ⟨hcert, hpath⟩⟩ := hleaks
  · simp [newServer, hmethod, hctx, hconf, hpath]
  · by_cases hcertPath : ans.certPath <;> simp [newServer, *]

theorem addCaCertPem_spec {c : TlsContext} {ctx : ℕ} (ans : AddCaCert)
    (hctx : h (.sslCtx ctx) = true) (hbio : h (.bio ctx) = false) (hx509 : h (.x509 ctx) = false) :
    exec Heap.step h (c.addCaCertPem ctx ans) = some h := by
  unfold TlsContext.addCaCertPem
  split_ifs <;> simp_all [exec, Heap.step, Function.update_comm, Heap.update_of_eq]

theorem createSession_spec {c : TlsContext} {ctx id : ℕ} (ans : CreateSession)
    (hctx : h (.sslCtx ctx) = true) (hssl : h (.ssl id) = false) (hslot : h (.slot id) = false) :
    (c.createSession ctx id ans).Does h
      (h.put (TlsSession.res ⟨ctx, c.isServer, c.acceptEarlyData⟩ id) true) h := by
  unfold TlsContext.createSession TlsSession.res Block.Does
  split_ifs <;> simp_all [exec, Heap.step, Heap.put_cons, Function.update_comm, Heap.update_of_eq]

theorem TlsContext.res_nodup (c : TlsContext) (ctx : ℕ) : (c.res ctx).Nodup := by
  unfold TlsContext.res
  split_ifs <;> simp

theorem dropContext_spec {c : TlsContext} {ctx : ℕ} (hc : ∀ r ∈ c.res ctx, h r = true) :
    exec Heap.step h (c.drop ctx) = some (h.put (c.res ctx) false) :=
  Heap.exec_frees (c.res ctx) h (c.res_nodup ctx) hc

variable {s : TlsSession} {id ssl : ℕ}

theorem TlsSession.ssl_mem (s : TlsSession) (ssl : ℕ) : .ssl ssl ∈ s.res ssl := by
  unfold TlsSession.res
  split_ifs <;> simp

theorem TlsSession.res_nodup (s : TlsSession) (ssl : ℕ) : (s.res ssl).Nodup := by
  unfold TlsSession.res
  split_ifs <;> simp

/-- A session has nothing of a connection. -/
theorem TlsSession.notMem_res (s : TlsSession) (ssl : ℕ) {r : Res} (hr : r ∈ connRes id) :
    r ∉ s.res ssl := by
  unfold TlsSession.res
  unfold connRes at hr
  split_ifs <;> aesop

theorem setSession_spec (ans : SetSession) (hs : ∀ r ∈ s.res ssl, h r = true)
    (hparsed : h (.parsed ssl) = false) :
    exec Heap.step h (s.setSession ssl ans).ops = some h := by
  have hssl : h (.ssl ssl) = true := hs _ (s.ssl_mem ssl)
  unfold TlsSession.setSession
  split_ifs <;> simp_all [exec, Heap.step]

theorem dropSession_spec (hs : ∀ r ∈ s.res ssl, h r = true) :
    exec Heap.step h (s.drop ssl) = some (h.put (s.res ssl) false) :=
  Heap.exec_frees (s.res ssl) h (s.res_nodup ssl) hs

theorem dropConnection_spec (hs : ∀ r ∈ s.res ssl, h r = true) (hc : ∀ r ∈ connRes id, h r = true) :
    exec Heap.step h (s.dropConnection id ssl) = some (h.put (connRes id ++ s.res ssl) false) := by
  unfold TlsSession.dropConnection TlsSession.drop TlsSession.res connDel connRes
  unfold TlsSession.res at hs
  unfold connRes at hc
  split_ifs <;> simp_all [exec, Heap.step, Heap.put_cons, Function.update_comm]

/-- What a failed `finish_new` gives back. -/
theorem abandon_spec (hs : ∀ r ∈ s.res ssl, h r = true) (hc : ∀ r ∈ connRes id, h r = true) :
    exec Heap.step h (connDel id ++ [.free (.connRef id)] ++ s.drop ssl ++ [.free (.userData id)]) =
      some (h.put (connRes id ++ s.res ssl) false) := by
  unfold TlsSession.drop TlsSession.res connDel connRes
  unfold TlsSession.res at hs
  unfold connRes at hc
  split_ifs <;> simp_all [exec, Heap.step, Heap.put_cons, Function.update_comm]

/-- What `finish_new` does before it can fail. -/
theorem made_spec (ans : FinishNew) (hssl : h (.ssl ssl) = true) (hconn : h (.conn id) = true)
    (href : h (.connRef id) = false) :
    exec Heap.step h (ans.setKeepAlive id ++
      [.alloc (.connRef id), .use (.ssl ssl), .use (.conn id), .use (.conn id)]) =
      some (h.put [.connRef id] true) := by
  unfold FinishNew.setKeepAlive
  split_ifs <;> simp [exec, Heap.step, Heap.put_cons, hssl, hconn, href]

theorem finishNew_spec (ans : FinishNew) (hs : ∀ r ∈ s.res ssl, h r = true)
    (hconn : h (.conn id) = true) (huser : h (.userData id) = true)
    (href : h (.connRef id) = false) :
    (s.finishNew id ssl ans).Does h (h.put [.connRef id] true)
      (h.put (connRes id ++ s.res ssl) false) := by
  let h' := h.put [.connRef id] true
  have hput (r : Res) (hr : h r = true) : h' r = true := by simp [h', Heap.put, hr]
  have hc' : ∀ r ∈ connRes id, h' r = true := by simp [connRes, h', Heap.put, hconn, huser]
  have habandon : exec Heap.step h' (connDel id ++ [.free (.connRef id)] ++ s.drop ssl ++
      [.free (.userData id)]) = some (h.put (connRes id ++ s.res ssl) false) := by
    rw [abandon_spec (fun r hr => hput r (hs r hr)) hc']
    refine congrArg some (funext fun r => ?_)
    by_cases heq : r = .connRef id <;> simp [h', Heap.put, connRes, heq]
  have hmade := made_spec ans (hs _ (s.ssl_mem ssl)) hconn href
  have hparams := Heap.exec_append_use hmade (hput _ (hs _ (s.ssl_mem ssl)))
  have hencode := Heap.exec_append_use hparams (hput _ hconn)
  have hcontext := Heap.exec_append_use hencode (hput _ (hs _ (s.ssl_mem ssl)))
  unfold TlsSession.finishNew
  dsimp only
  -- from the last way out to the first
  split_ifs
  · exact hcontext
  · exact (Heap.exec_append_of_eq hcontext _).trans habandon
  · exact (Heap.exec_append_of_eq hencode _).trans habandon
  · exact hparams
  · exact (Heap.exec_append_of_eq hparams _).trans habandon
  · exact (Heap.exec_append_of_eq hmade _).trans habandon

/-- A connection is made with its session, or the session is dropped. -/
theorem connNew_spec (ans : ConnNew) (hs : ∀ r ∈ s.res ssl, h r = true)
    (hc : ∀ r ∈ connRes id, h r = false) :
    (s.connNew id ssl ans).Does h (h.put (connRes id) true) (h.put (s.res ssl) false) := by
  have hconn : h (.conn id) = false := hc _ (by simp [connRes])
  have huser : h (.userData id) = false := hc _ (by simp [connRes])
  have href : h (.connRef id) = false := hc _ (by simp [connRes])
  unfold TlsSession.connNew
  dsimp only
  split
  · have hmade : exec Heap.step h [.alloc (.userData id), .free (.userData id)] = some h := by
      simp [exec, Heap.step, huser, Heap.update_of_eq]
    exact (Heap.exec_append_of_eq hmade _).trans (dropSession_spec hs)
  · let h' := h.put [.userData id, .conn id] true
    have hmade : exec Heap.step h [.alloc (.userData id), .alloc (.conn id)] = some h' := by
      simp [h', exec, Heap.step, Heap.put_cons, hconn, huser]
    have hs' : ∀ r ∈ s.res ssl, h' r = true := fun r hr => by simp [h', Heap.put, hs r hr]
    have hconn' : h' (.conn id) = true := by simp [h', Heap.put]
    have hfinish := finishNew_spec ans.finish hs' hconn' (by simp [h', Heap.put])
      (by simp [h', Heap.put, href])
    refine ((Heap.exec_append_of_eq hmade _).trans hfinish).trans (congrArg some ?_)
    dsimp only
    split
    · simp [h', connRes, Heap.put_cons, Function.update_comm]
    · funext r
      by_cases hr : r ∈ connRes id
      · rw [Heap.put_of_mem (List.mem_append_left _ hr), Heap.put_of_notMem (s.notMem_res ssl hr),
          hc r hr]
      · have hraw : r ∉ [Res.userData id, .conn id] := fun hmem => hr (by
          obtain rfl | rfl := List.mem_pair.mp hmem <;> simp [connRes])
        simp [h', Heap.put, hr, hraw]

theorem clientNew_spec (ans : ConnNew) (hs : ∀ r ∈ s.res ssl, h r = true)
    (hc : ∀ r ∈ connRes id, h r = false) :
    (s.clientNew id ssl ans).Does h (h.put (connRes id) true) (h.put (s.res ssl) false) := by
  have hname : exec Heap.step h [.use (.ssl ssl)] = some h :=
    Heap.exec_uses h [.ssl ssl] (by simpa using hs _ (s.ssl_mem ssl))
  have hpeer : exec Heap.step h [.use (.ssl ssl), .use (.ssl ssl)] = some h :=
    Heap.exec_uses h [.ssl ssl, .ssl ssl] (by simpa using hs _ (s.ssl_mem ssl))
  unfold TlsSession.clientNew
  split
  · exact dropSession_spec hs
  split
  · exact (Heap.exec_append_of_eq hname _).trans (dropSession_spec hs)
  split
  · exact (Heap.exec_append_of_eq hpeer _).trans (dropSession_spec hs)
  · exact (Heap.exec_append_of_eq hpeer _).trans (connNew_spec ans hs hc)

theorem serverNew_spec (ans : ConnNew) (hs : ∀ r ∈ s.res ssl, h r = true)
    (hc : ∀ r ∈ connRes id, h r = false) :
    (s.serverNew id ssl ans).Does h (h.put (connRes id) true) (h.put (s.res ssl) false) := by
  unfold TlsSession.serverNew
  split
  · exact dropSession_spec hs
  · exact connNew_spec ans hs hc

theorem clientNewWith0rtt_spec (set : SetSession) (ans : ConnNew) (params : Bool)
    (hs : ∀ r ∈ s.res ssl, h r = true) (hparsed : h (.parsed ssl) = false)
    (hc : ∀ r ∈ connRes id, h r = false) :
    (s.clientNewWith0rtt id ssl set ans params).Does h (h.put (connRes id) true)
      (h.put (s.res ssl) false) := by
  have hset := setSession_spec set hs hparsed
  have hnew := (Heap.exec_append_of_eq hset _).trans (clientNew_spec ans hs hc)
  unfold TlsSession.clientNewWith0rtt
  dsimp only
  split
  · exact (Heap.exec_append_of_eq hset _).trans (dropSession_spec hs)
  split
  next hok =>
    rw [if_neg hok] at hnew
    exact hnew
  next hok =>
  rw [if_pos (not_not.mp hok)] at hnew
  have hs' : ∀ r ∈ s.res ssl, h.put (connRes id) true r = true := fun r hr => by
    simp [Heap.put, hs r hr]
  have hc' : ∀ r ∈ connRes id, h.put (connRes id) true r = true := fun r hr => Heap.put_of_mem hr
  have hdecode := Heap.exec_append_use hnew (hc' (.conn id) (by simp [connRes]))
  split
  · refine ((Heap.exec_append_of_eq hdecode _).trans (dropConnection_spec hs' hc')).trans
      (congrArg some (funext fun r => ?_))
    by_cases hr : r ∈ connRes id
    · rw [Heap.put_of_mem (List.mem_append_left _ hr)]
      exact (Heap.put_of_notMem (s.notMem_res ssl hr)).trans (hc r hr) |>.symm
    · simp [Heap.put, hr]
  · have huser := Heap.exec_append_use hdecode (hc' (.userData id) (by simp [connRes]))
    rw [List.append_assoc] at huser
    exact huser

end Blocks

end Ngtcp2Rs
