import Gorouter.Registry.Registry

/-!
# Registry — Register under its locks

`register` (registry.go 116-140) is the one registry method that is not one
critical section. It looks the route key up under the read lock; when there
is no pool it drops the read lock, lets `insertRouteKey` insert one under the
write lock, takes the read lock again and `Put`s the endpoint into the pool
it was handed. Between the insert and the put a writer can take the lock.

The model is a state machine over the registry and the `register` calls in
flight, each at one of its lock steps (`RegisterPc`). An event is one step of
one call, or an `Unregister` or a prune tick as one critical section. A step
that needs the write lock waits, leaving the state as it is, while some call
holds the read lock. `Lookup` only reads, so it is left out. A pool is a
pointer: a call keeps its pool's `id`, and its put writes through that
pointer, so a put into a pool the trie no longer holds reaches no route.

Run back to back, a call's steps are the sequential `Register`
(`run_register_steps`). The pool a call holds stays at its key under every
event but a writer on that key (`poolIdAt_step`), so with no such writer
the registration lands (`register_lands_without_writer`). An `Unregister`
on the new key or a prune tick in the window detaches the new, still empty
pool, and the registration is lost (`register_lost_to_writer`).
-/

namespace Gorouter.Registry

open Gorouter.Route Gorouter.Container Gorouter.Container.Trie

/-! ## Calls in flight -/

/-- Where a `register` call is: before its read lock; holding it after a
`Find` that missed; after its `RUnlock`, before `insertRouteKey`; handed
pool `poolId` by `insertRouteKey`; holding the read lock with pool `poolId`;
after its final `RUnlock`. -/
inductive RegisterPc where
  | start
  | missed
  | released
  | inserted (poolId : Nat)
  | holding (poolId : Nat)
  | done
  deriving DecidableEq, Repr

/-- Whether a call at this point holds the read lock. -/
def RegisterPc.holdsRead : RegisterPc → Bool
  | .missed => true
  | .holding _ => true
  | _ => false

/-- Whether a call at this point holds a pool it has not put into yet. -/
def RegisterPc.holdsPool (poolId : Nat) : RegisterPc → Prop
  | .inserted n => n = poolId
  | .holding n => n = poolId
  | _ => False

/-- One `Register(uri, endpoint)` call; its clock reads `now` throughout. -/
structure RegisterCall where
  uri : Uri
  endpoint : Endpoint
  now : Int
  pc : RegisterPc

/-- The registry and the `register` calls in flight. -/
structure RegistrySys where
  reg : RouteRegistry
  calls : List RegisterCall

/-- Whether some call holds the read lock, so that a writer waits. -/
def RegistrySys.readLocked (s : RegistrySys) : Bool := s.calls.any (·.pc.holdsRead)

/-- One event of a schedule: the next lock step of call `i`, or a writer's
whole critical section. -/
inductive Event where
  | register (i : Nat)
  | Unregister (uri : Uri) (endpoint : Endpoint) (now : Int)
  | prune (suspendPruning : Bool) (now : Int)

namespace RouteRegistry

/-- The put of `register` (lines 131-138) through the pointer to pool
`poolId`: into the pool at the route key while it is that pool; otherwise
into a pool no route reaches, which leaves only `SetTimeOfLastUpdate`. -/
def putThrough (r : RouteRegistry) (routekey : Uri) (poolId : Nat) (endpoint : Endpoint)
    (now : Int) : RouteRegistry :=
  match h : r.byURI.Find routekey with
  | some pool =>
    if pool.id = poolId then (r.putAt routekey pool (r.byURI_ids _ _ h) endpoint now).1
    else { r with timeOfLastUpdate := now }
  | none => { r with timeOfLastUpdate := now }

end RouteRegistry

/-- Call `c`'s next lock step: the registry after it and the call's next
point, or `none` while it waits for the write lock or after it returned. -/
def RegisterCall.next (c : RegisterCall) (r : RouteRegistry) (readLocked : Bool) :
    Option (RouteRegistry × RegisterPc) :=
  let routekey := c.uri.RouteKey
  match c.pc with
  | .start =>
    if r.endpointInRouterShard c.endpoint then
      some (r, match r.byURI.Find routekey with
        | some pool => .holding pool.id
        | none => .missed)
    else some (r, .done)
  | .missed => some (r, .released)
  | .released =>
    if readLocked then none
    else
      let inserted := r.insertRouteKey routekey c.uri c.now
      some (inserted.1, .inserted inserted.2.id)
  | .inserted poolId => some (r, .holding poolId)
  | .holding poolId => some (r.putThrough routekey poolId c.endpoint c.now, .done)
  | .done => none

/-- One event. -/
def RegistrySys.step (s : RegistrySys) : Event → RegistrySys
  | .register i =>
    match s.calls[i]? with
    | some c =>
      match c.next s.reg s.readLocked with
      | some (r, pc) => { reg := r, calls := s.calls.set i { c with pc := pc } }
      | none => s
    | none => s
  | .Unregister uri e now =>
    if s.readLocked then s else { s with reg := s.reg.Unregister uri e now }
  | .prune suspendPruning now =>
    if s.readLocked then s else { s with reg := s.reg.pruneStaleDroplets suspendPruning now }

/-- A schedule, one event at a time. -/
def RegistrySys.run (s : RegistrySys) (events : List Event) : RegistrySys :=
  events.foldl RegistrySys.step s

@[simp] theorem RegistrySys.run_nil (s : RegistrySys) : s.run [] = s := rfl

@[simp] theorem RegistrySys.run_cons (s : RegistrySys) (ev : Event) (events : List Event) :
    s.run (ev :: events) = (s.step ev).run events := rfl

/-- One call registering an endpoint at `a.com`, on an empty registry. -/
def oneRegistration : RegistrySys :=
  { reg := NewRouteRegistry (sampleConfig false 0)
    calls := [⟨"a.com".toList, sampleEndpoint "10.0.0.1:8080" 10, 0, .start⟩] }

theorem RegistrySys.step_register_of_next {s : RegistrySys} {i : Nat} {c : RegisterCall}
    (hc : s.calls[i]? = some c) (r : RouteRegistry) (pc : RegisterPc)
    (hn : c.next s.reg s.readLocked = some (r, pc)) :
    s.step (.register i) = { reg := r, calls := s.calls.set i { c with pc := pc } } := by
  simp only [RegistrySys.step, hc, hn]

theorem RegistrySys.step_register_of_done {s : RegistrySys} {i : Nat} {c : RegisterCall}
    (hc : s.calls[i]? = some c) (hdone : c.pc = .done) : s.step (.register i) = s := by
  simp only [RegistrySys.step, hc, RegisterCall.next, hdone]

/-- An event of call `j` changes nothing, or it is the call's next step. -/
theorem RegistrySys.step_register_cases (s : RegistrySys) (j : Nat) :
    s.step (.register j) = s ∨ ∃ c r pc, s.calls[j]? = some c ∧ c.next s.reg s.readLocked = some (r, pc) ∧
      s.step (.register j) = { reg := r, calls := s.calls.set j { c with pc := pc } } := by
  rcases hc : s.calls[j]? with _ | c
  · exact .inl (by simp only [RegistrySys.step, hc])
  · rcases hn : c.next s.reg s.readLocked with _ | ⟨r, pc⟩
    · exact .inl (by simp only [RegistrySys.step, hc, hn])
    · exact .inr ⟨c, r, pc, rfl, hn, RegistrySys.step_register_of_next hc r pc hn⟩

/-! ## Back to back: the sequential `Register` -/

theorem RouteRegistry.putThrough_of_Find {r : RouteRegistry} {routekey : Uri} {pool : EndpointPool}
    (h : r.byURI.Find routekey = some pool) (endpoint : Endpoint) (now : Int) :
    r.putThrough routekey pool.id endpoint now =
      (r.putAt routekey pool (r.byURI_ids _ _ h) endpoint now).1 := by
  unfold RouteRegistry.putThrough
  split
  · rename_i pool' h'
    obtain rfl : pool' = pool := Option.some.inj (h'.symm.trans h)
    simp
  · rename_i h'
    simp [h'] at h

theorem readLocked_set {s : RegistrySys} (h : s.readLocked = false) (i : Nat) (c : RegisterCall)
    (hc : c.pc.holdsRead = false) : RegistrySys.readLocked { s with calls := s.calls.set i c } = false := by
  simp only [RegistrySys.readLocked, List.any_eq_false] at h ⊢
  intro x hx
  rcases List.mem_or_eq_of_mem_set hx with hx | rfl
  · exact h x hx
  · simp [hc]

theorem RouteRegistry.insertRouteKey_of_Find {r : RouteRegistry} {routekey : Uri} {pool : EndpointPool}
    (h : r.byURI.Find routekey = some pool) (uri : Uri) (now : Int) :
    r.insertRouteKey routekey uri now = (r, pool) := by
  simp [RouteRegistry.insertRouteKey, h]

/-- The sequential `register` is its put through the pointer `insertRouteKey`
returns. -/
theorem RouteRegistry.register_eq_putThrough (r : RouteRegistry) (uri : Uri) (e : Endpoint) (now : Int) :
    (r.register uri e now).1 = (r.insertRouteKey uri.RouteKey uri now).1.putThrough uri.RouteKey
      (r.insertRouteKey uri.RouteKey uri now).2.id e now := by
  have hfind : (r.insertRouteKey uri.RouteKey uri now).1.byURI.Find uri.RouteKey =
      some (r.insertRouteKey uri.RouteKey uri now).2 := by
    rw [Find, (RouteRegistry.insertRouteKey_eq r uri.RouteKey uri now).2, if_pos rfl]
  rw [RouteRegistry.putThrough_of_Find hfind]
  simp only [RouteRegistry.register, RouteRegistry.registerPool_eq]

/-- With no read lock held elsewhere, five steps of a call take it from its
start to its return, and they do what the sequential `Register` does. -/
theorem run_register_steps (s : RegistrySys) (i : Nat) (c : RegisterCall)
    (hc : s.calls[i]? = some c) (hstart : c.pc = .start) (hfree : s.readLocked = false) :
    (s.run (List.replicate 5 (.register i))).reg = s.reg.Register c.uri c.endpoint c.now ∧
    (s.run (List.replicate 5 (.register i))).calls = s.calls.set i { c with pc := .done } := by
  have hlen : i < s.calls.length := (List.getElem?_eq_some_iff.mp hc).1
  -- the steps after the first, from the state the first leaves
  have hnext : ∀ (r r' : RouteRegistry) (pc pc' : RegisterPc),
      ({ c with pc := pc } : RegisterCall).next r
          (RegistrySys.readLocked { reg := r, calls := s.calls.set i { c with pc := pc } }) = some (r', pc') →
      ({ reg := r, calls := s.calls.set i { c with pc := pc } } : RegistrySys).step (.register i) =
        { reg := r', calls := s.calls.set i { c with pc := pc' } } := fun r r' pc pc' hn => by
    rw [RegistrySys.step_register_of_next (List.getElem?_set_self hlen) r' pc' hn, List.set_set]
  have hdone : ∀ r : RouteRegistry,
      ({ reg := r, calls := s.calls.set i { c with pc := .done } } : RegistrySys).step (.register i) =
        { reg := r, calls := s.calls.set i { c with pc := .done } } := fun _ =>
    RegistrySys.step_register_of_done (List.getElem?_set_self hlen) rfl
  simp only [List.replicate, RegistrySys.run_cons, RegistrySys.run_nil]
  by_cases hs : s.reg.endpointInRouterShard c.endpoint
  · cases hf : s.reg.byURI.Find c.uri.RouteKey with
    | some pool =>
      rw [RegistrySys.step_register_of_next hc s.reg (.holding pool.id)
          (by simp [RegisterCall.next, hstart, hs, hf]),
        hnext s.reg (s.reg.putThrough c.uri.RouteKey pool.id c.endpoint c.now) (.holding pool.id) .done rfl,
        hdone, hdone, hdone]
      exact ⟨by simp only [RouteRegistry.Register, hs, if_true, RouteRegistry.register_eq_putThrough,
        RouteRegistry.insertRouteKey_of_Find hf], rfl⟩
    | none =>
      generalize hins : s.reg.insertRouteKey c.uri.RouteKey c.uri c.now = ins
      rw [RegistrySys.step_register_of_next hc s.reg .missed (by simp [RegisterCall.next, hstart, hs, hf]),
        hnext s.reg s.reg .missed .released rfl,
        hnext s.reg ins.1 .released (.inserted ins.2.id)
          (by simp [RegisterCall.next, readLocked_set hfree i { c with pc := .released } rfl, hins]),
        hnext ins.1 ins.1 (.inserted ins.2.id) (.holding ins.2.id) rfl,
        hnext ins.1 (ins.1.putThrough c.uri.RouteKey ins.2.id c.endpoint c.now) (.holding ins.2.id) .done rfl]
      exact ⟨by simp only [RouteRegistry.Register, hs, if_true, RouteRegistry.register_eq_putThrough, hins],
        rfl⟩
  · rw [RegistrySys.step_register_of_next hc s.reg .done (by simp [RegisterCall.next, hstart, hs]),
      hdone, hdone, hdone, hdone]
    exact ⟨by simp [RouteRegistry.Register, hs], rfl⟩

theorem run_register_steps_sample :
    oneRegistration.readLocked = false ∧
    (oneRegistration.run (List.replicate 5 (.register 0))).reg =
      oneRegistration.reg.Register "a.com".toList (sampleEndpoint "10.0.0.1:8080" 10) 0 ∧
    (oneRegistration.run (List.replicate 5 (.register 0))).calls =
      [⟨"a.com".toList, sampleEndpoint "10.0.0.1:8080" 10, 0, .done⟩] :=
  ⟨rfl, run_register_steps oneRegistration 0 _ rfl rfl rfl⟩

/-! ## The pool a call holds -/

/-- The pointer identity of the pool at a route key. -/
def poolIdAt (r : RouteRegistry) (k : Uri) : Option Nat := (r.byURI.Find k).map (·.id)

/-- Whether an event can write the pool at `k`: an `Unregister` on the same
trie node, or a prune tick. -/
def Event.writes (k : Uri) : Event → Bool
  | .register _ => false
  | .Unregister uri _ _ => decide (segments uri.RouteKey = segments k)
  | .prune _ _ => true

theorem poolIdAt_insertRouteKey {r : RouteRegistry} {k : Uri} {n : Nat} (h : poolIdAt r k = some n)
    (routekey uri : Uri) (now : Int) : poolIdAt (r.insertRouteKey routekey uri now).1 k = some n := by
  obtain ⟨hpool, hfind⟩ := RouteRegistry.insertRouteKey_eq r routekey uri now
  unfold poolIdAt Find at h ⊢
  rw [hfind]
  split_ifs with hk
  · rw [hpool, Find, ← hk]
    obtain ⟨q, hq, rfl⟩ := Option.map_eq_some'.mp h
    simp [hq]
  · exact h

theorem poolIdAt_putThrough {r : RouteRegistry} {k : Uri} {n : Nat} (h : poolIdAt r k = some n)
    (routekey : Uri) (poolId : Nat) (endpoint : Endpoint) (now : Int) :
    poolIdAt (r.putThrough routekey poolId endpoint now) k = some n := by
  unfold RouteRegistry.putThrough
  split
  · rename_i pool hpool
    split_ifs
    · unfold poolIdAt Find at h ⊢
      simp only [RouteRegistry.putAt, Trie.Insert, findPool_insertPath]
      split_ifs with hk
      · rw [Find, ← hk] at hpool
        simpa [hpool] using h
      · exact h
    · exact h
  · exact h

theorem poolIdAt_Unregister {r : RouteRegistry} {k : Uri} (uri : Uri) (e : Endpoint) (now : Int)
    (hk : segments uri.RouteKey ≠ segments k) : poolIdAt (r.Unregister uri e now) k = poolIdAt r k := by
  unfold RouteRegistry.Unregister
  split_ifs
  · simp only [poolIdAt, Find, RouteRegistry.findPool_unregister, if_neg (Ne.symm hk)]
  · rfl

/-- What one step of a call can do: leave the registry as it is, moving to a
point that holds the pool it held or the one at its route key; insert its
pool; or put through its pointer and return. -/
theorem RegisterCall.next_cases {c : RegisterCall} {r₀ r : RouteRegistry} {rl : Bool} {pc : RegisterPc}
    (hn : c.next r₀ rl = some (r, pc)) :
    (r = r₀ ∧ ∀ poolId, pc.holdsPool poolId →
        c.pc.holdsPool poolId ∨ poolIdAt r₀ c.uri.RouteKey = some poolId) ∨
    (r = (r₀.insertRouteKey c.uri.RouteKey c.uri c.now).1 ∧
        pc = .inserted (r₀.insertRouteKey c.uri.RouteKey c.uri c.now).2.id) ∨
    (∃ poolId, r = r₀.putThrough c.uri.RouteKey poolId c.endpoint c.now ∧ pc = .done) := by
  unfold RegisterCall.next at hn
  split at hn
  · split_ifs at hn <;> obtain ⟨rfl, rfl⟩ := Prod.mk.inj (Option.some.inj hn)
    · refine .inl ⟨rfl, fun poolId hp => .inr ?_⟩
      split at hp
      · rename_i pool hf
        simp only [RegisterPc.holdsPool] at hp
        simp [poolIdAt, hf, hp]
      · exact hp.elim
    · exact .inl ⟨rfl, fun _ hp => hp.elim⟩
  · obtain ⟨rfl, rfl⟩ := Prod.mk.inj (Option.some.inj hn)
    exact .inl ⟨rfl, fun _ hp => hp.elim⟩
  · split_ifs at hn
    obtain ⟨rfl, rfl⟩ := Prod.mk.inj (Option.some.inj hn)
    exact .inr (.inl ⟨rfl, rfl⟩)
  · rename_i n hpc
    obtain ⟨rfl, rfl⟩ := Prod.mk.inj (Option.some.inj hn)
    exact .inl ⟨rfl, fun _ hp => .inl (by rw [hpc]; exact hp)⟩
  · rename_i n _
    obtain ⟨rfl, rfl⟩ := Prod.mk.inj (Option.some.inj hn)
    exact .inr (.inr ⟨n, rfl, rfl⟩)
  · cases hn

/-- Every step of a call keeps the pools at the route keys where they are. -/
theorem poolIdAt_next {c : RegisterCall} {r₀ r : RouteRegistry} {rl : Bool} {pc : RegisterPc}
    (hn : c.next r₀ rl = some (r, pc)) {k : Uri} {n : Nat} (h : poolIdAt r₀ k = some n) :
    poolIdAt r k = some n := by
  rcases RegisterCall.next_cases hn with ⟨rfl, -⟩ | ⟨rfl, -⟩ | ⟨_, rfl, -⟩
  · exact h
  · exact poolIdAt_insertRouteKey h _ _ _
  · exact poolIdAt_putThrough h _ _ _ _

/-- The step lemma: no event but a writer on `k` moves the pool at `k`. -/
theorem poolIdAt_step (s : RegistrySys) (ev : Event) {k : Uri} (hw : ev.writes k = false) {n : Nat}
    (h : poolIdAt s.reg k = some n) : poolIdAt (s.step ev).reg k = some n := by
  cases ev with
  | register i =>
    rcases s.step_register_cases i with hs | ⟨c, r, pc, -, hn, hs⟩ <;> rw [hs]
    exacts [h, poolIdAt_next hn h]
  | Unregister uri e now =>
    simp only [RegistrySys.step]
    split_ifs
    · exact h
    · rw [poolIdAt_Unregister uri e now (by simpa [Event.writes] using hw)]
      exact h
  | prune => cases hw

/-- Call `i` registers `endpoint` at `uri`, and the pool it holds, if any,
is the one at the route key. -/
def RegistrySys.Attached (s : RegistrySys) (i : Nat) (uri : Uri) (endpoint : Endpoint) : Prop :=
  ∃ c ∈ s.calls[i]?, c.uri = uri ∧ c.endpoint = endpoint ∧
    ∀ poolId, c.pc.holdsPool poolId → poolIdAt s.reg uri.RouteKey = some poolId

/-- A call's own step hands it the pool at its route key. -/
theorem holdsPool_next {c : RegisterCall} {r₀ r : RouteRegistry} {rl : Bool} {pc : RegisterPc}
    (hn : c.next r₀ rl = some (r, pc))
    (h : ∀ poolId, c.pc.holdsPool poolId → poolIdAt r₀ c.uri.RouteKey = some poolId) :
    ∀ poolId, pc.holdsPool poolId → poolIdAt r c.uri.RouteKey = some poolId := by
  intro poolId hp
  rcases RegisterCall.next_cases hn with ⟨rfl, hpc⟩ | ⟨rfl, rfl⟩ | ⟨_, -, rfl⟩
  · exact (hpc poolId hp).elim (h poolId) id
  · obtain ⟨-, hfind⟩ := RouteRegistry.insertRouteKey_eq r₀ c.uri.RouteKey c.uri c.now
    simp only [RegisterPc.holdsPool] at hp
    simp [poolIdAt, Find, hfind, hp]
  · exact hp.elim

theorem RegistrySys.Attached.step {s : RegistrySys} {i : Nat} {uri : Uri} {endpoint : Endpoint}
    (h : s.Attached i uri endpoint) (ev : Event) (hw : ev.writes uri.RouteKey = false) :
    (s.step ev).Attached i uri endpoint := by
  obtain ⟨c, hc, rfl, rfl, hpool⟩ := h
  have hframe := fun poolId hp => poolIdAt_step s ev hw (hpool poolId hp)
  cases ev with
  | register j =>
    rcases s.step_register_cases j with hs | ⟨cj, r, pc, hcj, hn, hs⟩ <;> rw [hs]
    · exact ⟨c, hc, rfl, rfl, hpool⟩
    by_cases hij : j = i
    · subst hij
      obtain rfl : cj = c := Option.some.inj (hcj.symm.trans hc)
      exact ⟨_, List.getElem?_set_self (List.getElem?_eq_some_iff.mp hc).1, rfl, rfl,
        holdsPool_next hn hpool⟩
    · exact ⟨c, by rw [List.getElem?_set_ne hij]; exact hc, rfl, rfl,
        fun poolId hp => poolIdAt_next hn (hpool poolId hp)⟩
  | Unregister =>
    exact ⟨c, by simp only [RegistrySys.step]; split_ifs <;> exact hc, rfl, rfl, hframe⟩
  | prune => cases hw

/-- The run lemma: with no writer on the key, a call keeps the pool it holds. -/
theorem RegistrySys.Attached.run {s : RegistrySys} {i : Nat} {uri : Uri} {endpoint : Endpoint}
    (h : s.Attached i uri endpoint) (events : List Event)
    (hw : ∀ ev ∈ events, ev.writes uri.RouteKey = false) : (s.run events).Attached i uri endpoint := by
  induction events generalizing s with
  | nil => exact h
  | cons ev events ih =>
    exact ih (h.step ev (hw ev (List.mem_cons_self _ _))) fun ev' hev' =>
      hw ev' (List.mem_cons_of_mem _ hev')

/-- A put through the pointer to the pool at the route key lands there. -/
theorem putThrough_lands {r : RouteRegistry} {k : Uri} {n : Nat} (h : poolIdAt r k = some n)
    (endpoint : Endpoint) (now : Int) :
    ∃ pool, (r.putThrough k n endpoint now).byURI.Find k = some pool ∧
      endpoint.identity ∈ pool.endpointList.map Endpoint.identity := by
  obtain ⟨pool, hf, rfl⟩ := Option.map_eq_some'.mp h
  rw [RouteRegistry.putThrough_of_Find hf]
  refine ⟨(pool.Put (r.clampStaleThreshold endpoint) now).1,
    by simp [RouteRegistry.putAt, Find, Trie.Insert, findPool_insertPath], ?_⟩
  rw [← r.identity_clampStaleThreshold endpoint, EndpointPool.endpointList, List.map_map]
  exact List.mem_map_of_mem _ (mem_putElems _ now _)

theorem register_lands_without_writer (s : RegistrySys) (i : Nat) (c : RegisterCall)
    (hc : s.calls[i]? = some c) (hstart : c.pc = .start) (pre : List Event)
    (hpre : ∀ ev ∈ pre, ev.writes c.uri.RouteKey = false) (poolId : Nat)
    (hhold : ((s.run pre).calls[i]?).map (·.pc) = some (.holding poolId)) :
    ∃ pool, ((s.run pre).step (.register i)).reg.byURI.Find c.uri.RouteKey = some pool ∧
      c.endpoint.identity ∈ pool.endpointList.map Endpoint.identity := by
  have hatt : s.Attached i c.uri c.endpoint :=
    ⟨c, hc, rfl, rfl, fun _ hp => by rw [hstart] at hp; exact hp.elim⟩
  obtain ⟨c', hc', hu, he, hpool⟩ := hatt.run pre hpre
  obtain ⟨c'', hc'', hpc⟩ := Option.map_eq_some'.mp hhold
  obtain rfl : c'' = c' := Option.some.inj (hc''.symm.trans hc')
  rw [RegistrySys.step_register_of_next hc'' ((s.run pre).reg.putThrough c''.uri.RouteKey poolId
    c''.endpoint c''.now) (.done) (by simp [RegisterCall.next, hpc]), hu, he]
  exact putThrough_lands (hpool poolId (by rw [hpc]; rfl)) _ _

theorem register_lands_without_writer_sample :
    (∀ ev ∈ List.replicate 4 (Event.register 0), ev.writes (Uri.RouteKey "a.com".toList) = false) ∧
    ((oneRegistration.run (List.replicate 4 (.register 0))).calls[0]?).map (·.pc) = some (.holding 0) ∧
    ∃ pool, ((oneRegistration.run (List.replicate 4 (.register 0))).step (.register 0)).reg.byURI.Find
        (Uri.RouteKey "a.com".toList) = some pool ∧
      (sampleEndpoint "10.0.0.1:8080" 10).identity ∈ pool.endpointList.map Endpoint.identity :=
  ⟨by decide, by decide,
    register_lands_without_writer oneRegistration 0 _ rfl rfl _ (by decide) 0 (by decide)⟩

/-! ## A writer in the window -/

/-- The call misses, inserts its pool and drops the write lock; `writer`
runs; the call takes the read lock again and puts. -/
def lostSchedule (writer : Event) : List Event :=
  [.register 0, .register 0, .register 0, writer, .register 0, .register 0]

/-- An `Unregister` on `a.com` of an endpoint that is not registered. -/
def unregisterOther : Event := .Unregister "a.com".toList (sampleEndpoint "10.0.0.2:8080" 10) 0

/-- An `Unregister` of another endpoint on `a.com`, or a prune tick, between
the insert and the put: the call reaches its final `RUnlock` having put into
the new pool, and `a.com` has no pool. -/
theorem register_lost_to_writer :
    ((oneRegistration.run ((lostSchedule unregisterOther).take 5)).calls.map (·.pc) = [.holding 0] ∧
      (oneRegistration.run (lostSchedule unregisterOther)).calls.map (·.pc) = [.done] ∧
      (oneRegistration.run (lostSchedule unregisterOther)).reg.byURI.Find
        (Uri.RouteKey "a.com".toList) = none) ∧
    ((oneRegistration.run ((lostSchedule (.prune false 0)).take 5)).calls.map (·.pc) = [.holding 0] ∧
      (oneRegistration.run (lostSchedule (.prune false 0))).calls.map (·.pc) = [.done] ∧
      (oneRegistration.run (lostSchedule (.prune false 0))).reg.byURI.Find
        (Uri.RouteKey "a.com".toList) = none) := by
  decide

end Gorouter.Registry
