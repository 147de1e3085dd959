import Ngtcp2Rs.Lib.Bytes
import Ngtcp2Rs.Server.Edits
import Mathlib.Data.Finset.Card

/-!
# The memory of CIDs that were handed over

`remember_taken_cid` of `Server` and of `SharedRoutes` keeps a set and a queue of at most
`maxTakenCids` CIDs. A CID that is there is not queued again, so that the queue is the end of the
list of the actual insertions.

* `rememberTakenCid_eq`: the eviction loop, with the `expect` in it, ends after at most one round.
* `Remembered`: what holds after any calls; `remembered` proves it.
* `edit_taken`, `run_taken`: the tables of the system change only by such calls.
* `takenCids_bounded`: a CID is recognised until `maxTakenCids` others were inserted after it.
-/

namespace Ngtcp2Rs

open Lib Relation

namespace TakenCids

/-! ## The loop -/

/-- The eviction loop, at most `fuel` times round; the `expect` of an empty queue is the panic. -/
def evictLoop : ℕ → TakenCids → Except Exit TakenCids
  | 0, t => if maxTakenCids < t.order.length then .error .outOfFuel else .ok t
  | fuel + 1, t =>
    if maxTakenCids < t.order.length then
      match t.order with
      | [] => .error .outOfRange
      | oldest :: order => evictLoop fuel ⟨t.cids.erase oldest, order⟩
    else .ok t

/-- `remember_taken_cid`, with its loop. -/
def rememberTakenCid (fuel : ℕ) (t : TakenCids) (cid : ConnectionId) : Except Exit TakenCids :=
  evictLoop fuel
    (if cid ∈ t.cids then t else { cids := insert cid t.cids, order := t.order ++ [cid] })

/-- The table after calls for the CIDs `cs`. -/
def rememberAll (cs : List ConnectionId) : TakenCids := cs.foldl remember {}

/-- The actual insertions of calls for the CIDs `cs`: a CID that is there is not inserted. -/
def insertions : TakenCids → List ConnectionId → List ConnectionId
  | _, [] => []
  | t, c :: cs =>
    if c ∈ t.cids then insertions (t.remember c) cs else c :: insertions (t.remember c) cs

theorem evict_of_le {cids : Finset ConnectionId} {order : List ConnectionId}
    (h : order.length ≤ maxTakenCids) : evict cids order = ⟨cids, order⟩ := by
  cases order with
  | nil => rfl
  | cons oldest order => exact if_neg (Nat.not_lt.mpr h)

/-- With one CID too many, the oldest one goes. -/
theorem evict_of_eq {cids : Finset ConnectionId} {oldest : ConnectionId}
    {order : List ConnectionId} (h : order.length = maxTakenCids) :
    evict cids (oldest :: order) = ⟨cids.erase oldest, order⟩ := by
  have hlt : maxTakenCids < (oldest :: order).length := by
    rw [List.length_cons]
    omega
  rw [evict, if_pos hlt, evict_of_le h.le]

theorem evictLoop_of_le {fuel : ℕ} {t : TakenCids} (h : t.order.length ≤ maxTakenCids) :
    evictLoop fuel t = .ok t := by
  cases fuel <;> exact if_neg (Nat.not_lt.mpr h)

/-- **The loop ends after at most one round, and its `expect` never fires.** -/
theorem evictLoop_eq {fuel : ℕ} (hfuel : 0 < fuel) {t : TakenCids}
    (h : t.order.length ≤ maxTakenCids + 1) : evictLoop fuel t = .ok (evict t.cids t.order) := by
  obtain ⟨n, rfl⟩ : ∃ n, fuel = n + 1 := Nat.exists_eq_succ_of_ne_zero hfuel.ne'
  rcases Nat.lt_or_ge maxTakenCids t.order.length with hlt | hle
  · obtain ⟨cids, order⟩ := t
    cases order with
    | nil => cases hlt
    | cons oldest order =>
      have hlen : order.length = maxTakenCids := by
        simp only [List.length_cons] at h hlt
        omega
      rw [evictLoop, if_pos hlt, evict_of_eq hlen]
      exact evictLoop_of_le hlen.le
  · rw [evictLoop_of_le hle, evict_of_le hle]

theorem rememberTakenCid_eq {fuel : ℕ} (hfuel : 0 < fuel) {t : TakenCids}
    (h : t.order.length ≤ maxTakenCids) (cid : ConnectionId) :
    rememberTakenCid fuel t cid = .ok (t.remember cid) := by
  unfold rememberTakenCid remember
  split_ifs
  · exact evictLoop_eq hfuel (by omega)
  · refine evictLoop_eq hfuel ?_
    simp only [List.length_append, List.length_singleton]
    omega

/-! ## The queue is the end of the insertions -/

/-- The queue holds the last of the insertions `h`, and the set its elements. -/
structure Queue (t : TakenCids) (h : List ConnectionId) : Prop where
  set_eq : t.cids = t.order.toFinset
  nodup : t.order.Nodup
  fifo : t.order = h.drop (h.length - maxTakenCids)

variable {t : TakenCids} {h : List ConnectionId} {c : ConnectionId}

theorem Queue.length_le (hq : t.Queue h) : t.order.length ≤ maxTakenCids := by
  rw [hq.fifo, List.length_drop]
  omega

theorem Queue.new : Queue {} [] := ⟨rfl, List.nodup_nil, rfl⟩

theorem Queue.mem_iff (hq : t.Queue h) : c ∈ t.cids ↔ c ∈ t.order := by
  rw [hq.set_eq, List.mem_toFinset]

/-- A CID that is there is not queued again. -/
theorem Queue.remember_mem (hq : t.Queue h) (hc : c ∈ t.cids) : t.remember c = t := by
  unfold remember
  rw [if_pos hc, evict_of_le hq.length_le]

/-- A new CID is queued, and pushes the oldest one out of a full queue. -/
theorem Queue.remember_new (hq : t.Queue h) (hc : c ∉ t.cids) : (t.remember c).Queue (h ++ [c]) := by
  have hnot : c ∉ t.order := fun hmem => hc (hq.mem_iff.mpr hmem)
  have hnodup : (t.order ++ [c]).Nodup := by
    rw [← List.concat_eq_append, List.nodup_concat]
    exact ⟨hnot, hq.nodup⟩
  have hset : insert c t.cids = (t.order ++ [c]).toFinset := by
    rw [hq.set_eq]
    ext x
    simp
  have hlen := congrArg List.length hq.fifo
  rw [List.length_drop] at hlen
  unfold remember
  rw [if_neg hc]
  rcases Nat.lt_or_ge t.order.length maxTakenCids with hlt | hge
  · have hdrop : h.length - maxTakenCids = 0 := by omega
    have hdrop' : (h ++ [c]).length - maxTakenCids = 0 := by
      rw [List.length_append, List.length_singleton]
      omega
    rw [evict_of_le (by rw [List.length_append, List.length_singleton]; omega)]
    refine ⟨hset, hnodup, ?_⟩
    rw [hdrop', hq.fifo, hdrop, List.drop_zero, List.drop_zero]
  · obtain ⟨oldest, order, horder⟩ : ∃ oldest order, t.order = oldest :: order := by
      refine List.exists_cons_of_ne_nil fun hnil => ?_
      rw [hnil] at hge
      cases hge
    have hfull : (order ++ [c]).length = maxTakenCids := by
      have hle := hq.length_le
      rw [horder, List.length_cons] at hge hle
      rw [List.length_append, List.length_singleton]
      omega
    have hsucc : (h ++ [c]).length - maxTakenCids = h.length - maxTakenCids + 1 := by
      rw [List.length_append, List.length_singleton]
      omega
    rw [horder, List.cons_append] at hset hnodup ⊢
    rw [evict_of_eq hfull, hset]
    obtain ⟨hold, hnodup⟩ := List.nodup_cons.mp hnodup
    refine ⟨?_, hnodup, ?_⟩
    · rw [List.toFinset_cons, Finset.erase_insert (by rwa [List.mem_toFinset])]
    · have hfifo := hq.fifo
      rw [horder] at hfifo
      rw [hsucc, ← List.drop_drop, List.drop_append_of_le_length (by omega), ← hfifo]
      rfl

/-! ## Any calls -/

theorem insertions_append_singleton (cs : List ConnectionId) (c : ConnectionId) (t : TakenCids) :
    insertions t (cs ++ [c]) =
      insertions t cs ++ if c ∈ (cs.foldl remember t).cids then [] else [c] := by
  induction cs generalizing t with
  | nil => rfl
  | cons d cs ih =>
    rw [List.cons_append, insertions, insertions, List.foldl_cons, ih]
    split_ifs <;> rfl

theorem rememberAll_append_singleton (cs : List ConnectionId) (c : ConnectionId) :
    rememberAll (cs ++ [c]) = (rememberAll cs).remember c := List.foldl_concat _ _ _ _

theorem queue_rememberAll (cs : List ConnectionId) :
    (rememberAll cs).Queue (insertions {} cs) := by
  induction cs using List.reverseRecOn with
  | nil => exact .new
  | append_singleton cs c ih =>
    rw [rememberAll_append_singleton, insertions_append_singleton]
    change ((rememberAll cs).remember c).Queue
      (insertions {} cs ++ if c ∈ (rememberAll cs).cids then [] else [c])
    split_ifs with hc
    · rw [ih.remember_mem hc, List.append_nil]
      exact ih
    · exact ih.remember_new hc

/-- A CID that was remembered was inserted, in this call or before it. -/
theorem mem_insertions {cs : List ConnectionId} : ∀ {c : ConnectionId}, c ∈ cs →
    c ∈ insertions {} cs := by
  induction cs using List.reverseRecOn with
  | nil => exact fun h => h
  | append_singleton cs d ih =>
    intro c hc
    have hq := queue_rememberAll cs
    rw [insertions_append_singleton, List.mem_append]
    change c ∈ insertions {} cs ∨ c ∈ if d ∈ (rememberAll cs).cids then [] else [d]
    rcases List.mem_append.mp hc with hc | hc
    · exact .inl (ih hc)
    · obtain rfl := List.mem_singleton.mp hc
      split_ifs with hmem
      · left
        rw [hq.mem_iff, hq.fifo] at hmem
        exact List.mem_of_mem_drop hmem
      · exact .inr List.mem_cons_self

/-- A CID that the queue lost was followed by as many others as the queue holds. -/
theorem Queue.mem_or_pushed_out (hq : t.Queue h) (hc : c ∈ h) :
    c ∈ t.cids ∨ ∃ earlier later, h = earlier ++ c :: later ∧ c ∉ later ∧
      maxTakenCids ≤ later.toFinset.card := by
  by_cases hmem : c ∈ t.cids
  · exact .inl hmem
  right
  rw [hq.mem_iff, hq.fifo] at hmem
  -- the last insertion of `c`
  obtain ⟨later, earlier, hrev, hlater⟩ := List.eq_append_cons_of_mem (List.mem_reverse.mpr hc)
  have hsplit : h = earlier.reverse ++ c :: later.reverse := by
    rw [← List.reverse_reverse h, hrev]
    simp
  refine ⟨earlier.reverse, later.reverse, hsplit, by simpa using hlater, ?_⟩
  have hout : earlier.reverse.length < h.length - maxTakenCids := by
    by_contra hle
    refine hmem ?_
    rw [hsplit, List.drop_append_of_le_length (by rw [← hsplit]; omega)]
    exact List.mem_append_right _ List.mem_cons_self
  have hsub : t.order.toFinset ⊆ later.reverse.toFinset := by
    intro x hx
    obtain ⟨k, hk⟩ := Nat.exists_eq_add_of_lt hout
    have hsplit' : h.drop 0 = (earlier.reverse ++ [c]) ++ later.reverse := by
      rw [List.drop_zero, List.append_assoc]
      exact hsplit
    have hdrop : h.drop (earlier.reverse.length + 1) = later.reverse :=
      drop_add_of_drop hsplit' (by simp)
    rw [List.mem_toFinset, hq.fifo, hk, Nat.add_right_comm, ← List.drop_drop, hdrop] at hx
    exact List.mem_toFinset.mpr (List.mem_of_mem_drop hx)
  have hcard : t.order.toFinset.card = maxTakenCids := by
    rw [List.toFinset_card_of_nodup hq.nodup, hq.fifo, List.length_drop]
    omega
  exact hcard ▸ Finset.card_le_card hsub

/-- After calls for the CIDs `cs`, others were inserted after the last insertion of `c`, as many as
the queue holds. -/
def PushedOut (cs : List ConnectionId) (c : ConnectionId) : Prop :=
  ∃ earlier later, insertions {} cs = earlier ++ c :: later ∧ c ∉ later ∧
    maxTakenCids ≤ later.toFinset.card

/-- What holds after calls for the CIDs `cs`. -/
structure Remembered (cs : List ConnectionId) : Prop where
  set_eq : (rememberAll cs).cids = (rememberAll cs).order.toFinset
  nodup : (rememberAll cs).order.Nodup
  length_le : (rememberAll cs).order.length ≤ maxTakenCids
  /-- the last insertions are there, in their order -/
  fifo : (rememberAll cs).order =
    (insertions {} cs).drop ((insertions {} cs).length - maxTakenCids)
  kept : ∀ c ∈ cs, c ∈ (rememberAll cs).cids ∨ PushedOut cs c

theorem remembered (cs : List ConnectionId) : Remembered cs := by
  have hq := queue_rememberAll cs
  exact ⟨hq.set_eq, hq.nodup, hq.length_le, hq.fifo,
    fun _ hc => hq.mem_or_pushed_out (mem_insertions hc)⟩

theorem foldlM_rememberTakenCid {fuel : ℕ} (hfuel : 0 < fuel) (cs : List ConnectionId) :
    cs.foldlM (rememberTakenCid fuel) {} = .ok (rememberAll cs) := by
  induction cs using List.reverseRecOn with
  | nil => rfl
  | append_singleton cs c ih =>
    rw [List.foldlM_append, ih, rememberAll_append_singleton]
    change (rememberTakenCid fuel (rememberAll cs) c >>= fun t => pure t) = _
    rw [rememberTakenCid_eq hfuel (queue_rememberAll cs).length_le]
    rfl

/-- `t'` is `t` after some calls. -/
def Grown (t t' : TakenCids) : Prop := ∃ cs : List ConnectionId, t' = cs.foldl remember t

theorem Grown.refl (t : TakenCids) : t.Grown t := ⟨[], rfl⟩

theorem Grown.trans {t t' t'' : TakenCids} (h : t.Grown t') (h' : t'.Grown t'') : t.Grown t'' := by
  obtain ⟨cs, rfl⟩ := h
  obtain ⟨cs', rfl⟩ := h'
  exact ⟨cs ++ cs', List.foldl_append.symm⟩

/-- The calls so far, and those of the growth. -/
theorem Grown.rememberAll {t : TakenCids} {cs cids : List ConnectionId}
    (h : (cids.foldl remember (rememberAll cs)).Grown t) :
    ∃ later, t = TakenCids.rememberAll (cs ++ cids ++ later) := by
  obtain ⟨later, rfl⟩ := h
  refine ⟨later, ?_⟩
  unfold TakenCids.rememberAll
  rw [List.foldl_append, List.foldl_append]

end TakenCids

/-! ## The tables of the system -/

open TakenCids

/-- `is_taken_cid` of the server, which asks the shared table too. -/
def World.isTakenCid (w : World) (cid : ConnectionId) : Bool :=
  decide (cid ∈ w.server.taken.cids) || decide (cid ∈ w.routes.taken.cids)

theorem taken_registerCids (t : RouteTable) (key : ConnectionId) (cids : List ConnectionId) :
    (t.registerCids key cids).taken = t.taken := by
  induction cids generalizing t with
  | nil => rfl
  | cons cid cids ih => exact ih _

theorem taken_retireCids (t : RouteTable) (key : ConnectionId) (cids : List ConnectionId) :
    (t.retireCids key cids).taken = cids.foldl remember t.taken := by
  induction cids generalizing t with
  | nil => rfl
  | cons cid cids ih => exact ih _

theorem taken_pollCids (s : Server) (key : ConnectionId) (c : ServerConnection) :
    (s.pollCids key c).taken = c.retiredCids.foldl remember s.taken := by
  have htable : (s.pollCids key c).toRouteTable =
      (s.registerCids key c.issuedCids).retireCids key c.retiredCids := rfl
  rw [htable, taken_retireCids, taken_registerCids]

theorem taken_syncRoutes (w : World) (h : ℕ) (a : AcceptedConnection) :
    (w.syncRoutes h a).routes.taken = a.inner.retiredCids.foldl remember w.routes.taken := by
  have htable : (w.syncRoutes h a).routes.toRouteTable =
      (w.routes.toRouteTable.registerCids a.connectionId a.inner.issuedCids).retireCids
        a.connectionId a.inner.retiredCids := rfl
  rw [htable, taken_retireCids, taken_registerCids]

theorem taken_takeConnection {s s' : Server} {r r' : SharedRoutes} {key : ConnectionId} {n : ℕ}
    {c : ServerConnection} (h : s.takeConnection r key n = some (s', r', c)) :
    s'.taken = (s.takenCids key).foldl remember s.taken ∧ r'.taken = r.taken := by
  unfold Server.takeConnection at h
  split at h
  · cases h
  · simp only [Option.some.injEq, Prod.mk.injEq] at h
    obtain ⟨rfl, rfl, -⟩ := h
    exact ⟨rfl, taken_registerCids r.toRouteTable key (s.takenCids key)⟩

theorem taken_createConnection (s : Server) (o : Origin) (retried : Bool) (src : SocketAddr)
    (ans : Answers) : (s.createConnection o retried src ans).taken = s.taken := by
  have hreg : (s.registerNew o retried src).taken = s.taken := by
    unfold Server.registerNew
    cases o.preferredAddrCid <;> rfl
  exact (taken_registerCids _ _ _).trans hreg

/-- What an edit of the server does to its table. -/
theorem serverEdit_taken {cfg : ServerConfig} {s s' : Server} (h : ServerEdit cfg s s') :
    s.taken.Grown s'.taken := by
  cases h with
  | note a ha => exact .refl _
  | limiter l => exact .refl _
  | missing key hkey hroute => exact .refl _
  | remove key => exact .refl _
  | serve key c c₁ calls hkey hcids =>
    refine ⟨c₁.retiredCids, ?_⟩
    rw [taken_pollCids, toRouteTable_recordCalls]
  | close key c ans hkey => exact .refl _
  | create o retried src ans hsize ho => exact ⟨[], taken_createConnection s o retried src ans⟩

/-- **Every edit only remembers CIDs.** -/
theorem edit_taken {cfg : ServerConfig} {w w' : World} (h : Edit cfg w w') :
    w.server.taken.Grown w'.server.taken ∧ w.routes.taken.Grown w'.routes.taken := by
  cases h with
  | server s hs => exact ⟨serverEdit_taken hs, .refl _⟩
  | note a ha => exact ⟨.refl _, .refl _⟩
  | take key s r c ht =>
    obtain ⟨hserver, hroutes⟩ := taken_takeConnection ht
    exact ⟨⟨_, hserver⟩, ⟨[], hroutes⟩⟩
  | unroute key hr => exact ⟨.refl _, .refl _⟩
  | update h a a' ha hid hc => exact ⟨.refl _, .refl _⟩
  | call h a a' c ans ha hid hc => exact ⟨.refl _, .refl _⟩
  | sync h a ha => exact ⟨.refl _, _, taken_syncRoutes w h a⟩
  | drop h a ha => exact ⟨.refl _, .refl _⟩

/-- So does every run. -/
theorem run_taken (ext : External) (cfg : ServerConfig) (w : World) (ls : List Label) :
    w.server.taken.Grown (run (World.step ext cfg) w ls).server.taken ∧
      w.routes.taken.Grown (run (World.step ext cfg) w ls).routes.taken := by
  have hchain {w' : World} (he : Edits cfg w w') :
      w.server.taken.Grown w'.server.taken ∧ w.routes.taken.Grown w'.routes.taken := by
    induction he with
    | refl => exact ⟨.refl _, .refl _⟩
    | tail _ hlast ih =>
      obtain ⟨hserver, hroutes⟩ := edit_taken hlast
      exact ⟨ih.1.trans hserver, ih.2.trans hroutes⟩
  exact hchain (run_edits ext cfg ls w)

/-- From `w` on, `table` has remembered `before`, then `cids`, then what came later, and each of the
`cids` is recognised until it was pushed out. -/
def RecognisedFrom (ext : External) (cfg : ServerConfig) (w : World) (table : World → TakenCids)
    (before cids : List ConnectionId) : Prop :=
  ∀ ls, ∃ later,
    table (run (World.step ext cfg) w ls) = rememberAll (before ++ cids ++ later) ∧
    ∀ c ∈ cids, (run (World.step ext cfg) w ls).isTakenCid c = true ∨
      PushedOut (before ++ cids ++ later) c

section Recognised

variable {ext : External} {cfg : ServerConfig} {w : World} {before cids : List ConnectionId}

theorem recognisedFrom {table : World → TakenCids}
    (hgrown : ∀ ls, (cids.foldl remember (rememberAll before)).Grown
      (table (run (World.step ext cfg) w ls)))
    (hask : ∀ w' c, c ∈ (table w').cids → w'.isTakenCid c = true) :
    RecognisedFrom ext cfg w table before cids := by
  intro ls
  obtain ⟨later, hlater⟩ := (hgrown ls).rememberAll
  refine ⟨later, hlater, fun c hc => ?_⟩
  have hmem : c ∈ before ++ cids ++ later :=
    List.mem_append_left _ (List.mem_append_right _ hc)
  refine ((remembered _).kept c hmem).imp_left fun hkept => hask _ c ?_
  rw [hlater]
  exact hkept

theorem recognisedFrom_server
    (h : w.server.taken = cids.foldl remember (rememberAll before)) :
    RecognisedFrom ext cfg w (·.server.taken) before cids := by
  refine recognisedFrom (fun ls => ?_) fun w' c hc => ?_
  · rw [← h]
    exact (run_taken ext cfg w ls).1
  · simp [World.isTakenCid, hc]

theorem recognisedFrom_routes
    (h : w.routes.taken = cids.foldl remember (rememberAll before)) :
    RecognisedFrom ext cfg w (·.routes.taken) before cids := by
  refine recognisedFrom (fun ls => ?_) fun w' c hc => ?_
  · rw [← h]
    exact (run_taken ext cfg w ls).2
  · simp [World.isTakenCid, hc]

end Recognised

/-- **The memory of taken CIDs is bounded and first-in first-out.** After any calls of
`remember_taken_cid`, none of which panics, the set is that of the queue, and the queue the last
`maxTakenCids` insertions. In every run both tables come from such calls, and a CID that is handed
over or retired is recognised from then on, until `maxTakenCids` others were inserted after it. -/
theorem takenCids_bounded :
    (∀ (cs : List ConnectionId) (fuel : ℕ), 0 < fuel →
      cs.foldlM (rememberTakenCid fuel) {} = .ok (rememberAll cs) ∧ Remembered cs) ∧
    ∀ (ext : External) (cfg : ServerConfig) (ls : List Label) (w : World),
      w = run (World.step ext cfg) (.init cfg) ls →
      ∃ before before',
        w.server.taken = rememberAll before ∧ w.routes.taken = rememberAll before' ∧
        (∀ key s r c, w.server.takeConnection w.routes key w.nextHandle = some (s, r, c) →
          RecognisedFrom ext cfg
            { server := s, routes := r
              accepted := w.accepted.insert w.nextHandle { connectionId := key, inner := c }
              nextHandle := w.nextHandle + 1 }
            (·.server.taken) before (w.server.takenCids key)) ∧
        (∀ key c, RecognisedFrom ext cfg { w with server := w.server.pollCids key c }
          (·.server.taken) before c.retiredCids) ∧
        ∀ h a, RecognisedFrom ext cfg (w.syncRoutes h a) (·.routes.taken) before'
          a.inner.retiredCids := by
  refine ⟨fun cs fuel hfuel => ⟨foldlM_rememberTakenCid hfuel cs, remembered cs⟩, ?_⟩
  rintro ext cfg ls w rfl
  obtain ⟨⟨before, hserver⟩, ⟨before', hroutes⟩⟩ := run_taken ext cfg (.init cfg) ls
  refine ⟨before, before', hserver, hroutes, fun key s r c ht => ?_, fun key c => ?_,
    fun h a => ?_⟩
  · refine recognisedFrom_server ?_
    rw [(taken_takeConnection ht).1, hserver]
    rfl
  · refine recognisedFrom_server ?_
    rw [taken_pollCids, hserver]
    rfl
  · refine recognisedFrom_routes ?_
    rw [taken_syncRoutes, hroutes]
    rfl

end Ngtcp2Rs
