import Gorouter.Registry.Interleavings

/-!
# Registry — Register calls alone are serializable

`register_lost_to_writer` shows an interleaving that no sequential order of
the calls explains, and it needs a writer in the window. With `register`
steps alone the interleaving is a sequential run in disguise. Its
linearization points are the puts: `RegistrySys.puts` collects, as the
schedule runs, the `Register` each put completes. At every trie path the
interleaved registry holds the slots that running those `Register`s one
after another gives, and the same time of last update
(`register_only_serializable`).

Only the slots are compared, not the pools around them. A key's pool is the
one its first insert creates, which may come from another call than the
first put, so its options, pointer and update time can differ. A call that
has inserted but not yet put leaves an empty pool the sequential registry
does not have; `endpointsAt` reads both as no slots.

The simulation relation `Serial` pairs an interleaved state with a
sequential registry. They have the same configuration, slots and time of last
update. Each call past its shard check registers an endpoint of the shard,
and each call holding a pool holds the one at its key, since no writer runs.

`Lookup_sees_empty_pool_after_insert` shows a lookup that finds the empty
pool of a registration between its insert and its put. With `register` steps
alone that window is the only source of empty pools. Every empty pool is one
that a call in flight at its key has inserted or found and not yet put into
(`EmptyOwned`), so once every call has returned no pool is empty
(`register_only_empty_pools_in_flight`).
-/

namespace Gorouter.Registry

open Gorouter.Route Gorouter.Container Gorouter.Container.Trie

/-! ## Slots at a path -/

/-- The slots at path `P`; a path without a pool has none. -/
def endpointsAt (r : RouteRegistry) (P : List Seg) : List EndpointElem :=
  ((r.byURI.findPool P).map (·.endpoints)).getD []

theorem endpoints_getD_NewPool (o : Option EndpointPool) (n : Nat) (opts : PoolOpts) (now : Int) :
    (o.getD (NewPool n opts now)).endpoints = (o.map (·.endpoints)).getD [] := by
  cases o <;> rfl

/-- An insert adds an empty pool or none: no slot changes. -/
theorem endpointsAt_insertRouteKey (r : RouteRegistry) (routekey uri : Uri) (now : Int) (P : List Seg) :
    endpointsAt (r.insertRouteKey routekey uri now).1 P = endpointsAt r P := by
  obtain ⟨hpool, hfind⟩ := RouteRegistry.insertRouteKey_eq r routekey uri now
  unfold endpointsAt
  rw [hfind]
  split_ifs with hP
  · subst hP
    rw [hpool, Option.map_some', Option.getD_some, endpoints_getD_NewPool]
    rfl
  · rfl

/-- A put through the pointer to the pool at the key puts the clamped endpoint
into the slots there. -/
theorem endpointsAt_putThrough {r : RouteRegistry} {routekey : Uri} {n : Nat}
    (h : poolIdAt r routekey = some n) (e : Endpoint) (now : Int) (P : List Seg) :
    endpointsAt (r.putThrough routekey n e now) P =
      if P = segments routekey then putElems (r.clampStaleThreshold e) now (endpointsAt r P)
      else endpointsAt r P := by
  obtain ⟨pool, hf, rfl⟩ := Option.map_eq_some'.mp h
  unfold endpointsAt
  rw [RouteRegistry.putThrough_of_Find hf, RouteRegistry.findPool_putAt]
  split_ifs with hP
  · subst hP
    rw [← Find, hf]
    rfl
  · rfl

/-- The sequential `Register` of an endpoint of the shard does the same. -/
theorem endpointsAt_Register {r : RouteRegistry} {e : Endpoint} (hs : r.endpointInRouterShard e = true)
    (uri : Uri) (now : Int) (P : List Seg) :
    endpointsAt (r.Register uri e now) P =
      if P = segments uri.RouteKey then putElems (r.clampStaleThreshold e) now (endpointsAt r P)
      else endpointsAt r P := by
  unfold endpointsAt
  rw [RouteRegistry.Register, if_pos hs, RouteRegistry.findPool_register]
  split_ifs with hP
  · subst hP
    rw [Option.map_some', Option.getD_some, EndpointPool.Put_endpoints, endpoints_getD_NewPool]
    rfl
  · rfl

/-! ## The linearization of a schedule -/

/-- The `Register` a step completes: a call's put, as the sequential call it
stands for. -/
def RegistrySys.putOf (s : RegistrySys) : Event → List Call
  | .register i =>
    match s.calls[i]? with
    | some c =>
      match c.pc with
      | .holding _ => [.Register c.uri c.endpoint c.now]
      | _ => []
    | none => []
  | _ => []

/-- The puts of a schedule, in order. -/
def RegistrySys.puts (s : RegistrySys) : List Event → List Call
  | [] => []
  | ev :: evs => s.putOf ev ++ (s.step ev).puts evs

/-! ## The simulation -/

/-- An interleaved state and a sequential registry that agree on what a lookup
reads. -/
structure Serial (s : RegistrySys) (r : RouteRegistry) : Prop where
  config : s.reg.config = r.config
  slots : ∀ P, endpointsAt s.reg P = endpointsAt r P
  time : s.reg.timeOfLastUpdate = r.timeOfLastUpdate
  checked : ∀ c ∈ s.calls, c.pc.checked = true → s.reg.endpointInRouterShard c.endpoint = true
  attached : ∀ c ∈ s.calls, ∀ n, c.pc.holdsPool n → poolIdAt s.reg c.uri.RouteKey = some n

theorem Serial.init (r : RouteRegistry) (calls : List RegisterCall) (hstart : ∀ c ∈ calls, c.pc = .start) :
    Serial { reg := r, calls := calls } r :=
  ⟨rfl, fun _ => rfl, rfl, fun c hc hck => (by rw [hstart c hc] at hck; cases hck),
    fun c hc n hp => (by rw [hstart c hc] at hp; exact hp.elim)⟩

section Step

variable {s : RegistrySys} {r : RouteRegistry} {i : Nat} {c : RegisterCall}

/-- A put: the interleaved put through the call's pointer and the sequential
`Register` change the slots at the key alike. -/
theorem Serial.put (h : Serial s r) (hc : s.calls[i]? = some c) {n : Nat} (hpc : c.pc = .holding n) :
    Serial (s.step (.register i)) (r.run (s.putOf (.register i))) := by
  have hmem := List.getElem?_mem hc
  have hshard := h.checked c hmem (by rw [hpc]; rfl)
  have hpool := h.attached c hmem n (by rw [hpc]; rfl)
  have hs₀ : r.endpointInRouterShard c.endpoint = true := by
    rwa [← RouteRegistry.endpointInRouterShard_congr h.config]
  have hput : s.putOf (.register i) = [.Register c.uri c.endpoint c.now] := by
    simp [RegistrySys.putOf, hc, hpc]
  have hck := RegistrySys.checked_step h.checked (.register i)
  rw [RegistrySys.step_register_of_next hc (s.reg.putThrough c.uri.RouteKey n c.endpoint c.now) .done
    (by simp [RegisterCall.next, hpc])] at hck ⊢
  rw [hput]
  simp only [RouteRegistry.run_cons, RouteRegistry.run_nil, RouteRegistry.step]
  refine ⟨by simp [h.config], fun P => ?_, ?_, hck, fun c' hc' n' hp => ?_⟩
  · rw [endpointsAt_putThrough hpool, endpointsAt_Register hs₀, h.slots P,
      RouteRegistry.clampStaleThreshold_congr h.config]
  · unfold RouteRegistry.putThrough RouteRegistry.Register
    simp only [hs₀, if_true, RouteRegistry.register, RouteRegistry.putAt]
    split <;> (try split_ifs) <;> rfl
  · rcases List.mem_or_eq_of_mem_set hc' with hc' | rfl
    · exact poolIdAt_putThrough (h.attached c' hc' n' hp) _ _ _ _
    · exact hp.elim

/-- Any other step of a call changes no slot and puts nothing. -/
theorem Serial.no_put (h : Serial s r) (hc : s.calls[i]? = some c) (hpc : ∀ n, c.pc ≠ .holding n) :
    Serial (s.step (.register i)) (r.run (s.putOf (.register i))) := by
  have hmem := List.getElem?_mem hc
  have hput : s.putOf (.register i) = [] := by simp only [RegistrySys.putOf, hc]
  have hck := RegistrySys.checked_step h.checked (.register i)
  have hcfg := (s.config_step (.register i)).trans h.config
  rw [hput, RouteRegistry.run_nil]
  rcases s.step_register_cases i with hs | ⟨c', r', pc, hc', hn, hs⟩ <;> rw [hs] at hck hcfg ⊢
  · exact h
  obtain rfl : c = c' := Option.some.inj (hc.symm.trans hc')
  obtain ⟨hslots, htime⟩ : (∀ P, endpointsAt r' P = endpointsAt s.reg P) ∧
      r'.timeOfLastUpdate = s.reg.timeOfLastUpdate := by
    rcases (RegisterCall.next_cases_checked hn).2 with rfl | rfl | ⟨n, hn', -⟩
    · exact ⟨fun _ => rfl, rfl⟩
    · refine ⟨endpointsAt_insertRouteKey _ _ _ _, ?_⟩
      unfold RouteRegistry.insertRouteKey
      split <;> rfl
    · exact absurd hn' (hpc n)
  refine ⟨hcfg, fun P => (hslots P).trans (h.slots P), htime.trans h.time, hck, fun c' hc' n' hp => ?_⟩
  rcases List.mem_or_eq_of_mem_set hc' with hc' | rfl
  · exact poolIdAt_next hn (h.attached c' hc' n' hp)
  · exact holdsPool_next hn (h.attached c hmem) n' hp

/-- The step lemma. -/
theorem Serial.step (h : Serial s r) (i : Nat) :
    Serial (s.step (.register i)) (r.run (s.putOf (.register i))) := by
  cases hc : s.calls[i]? with
  | none =>
    have hs : s.step (.register i) = s := by simp only [RegistrySys.step, hc]
    have hput : s.putOf (.register i) = [] := by simp [RegistrySys.putOf, hc]
    rw [hs, hput]
    exact h
  | some c =>
    by_cases hh : ∃ n, c.pc = .holding n
    · obtain ⟨n, hpc⟩ := hh
      exact h.put hc hpc
    · exact h.no_put hc fun n hn => hh ⟨n, hn⟩

end Step

/-- The run lemma. -/
theorem Serial.run {s : RegistrySys} {r : RouteRegistry} (h : Serial s r) (is : List Nat) :
    Serial (s.run (is.map .register)) (r.run (s.puts (is.map .register))) := by
  induction is generalizing s r with
  | nil => exact h
  | cons i is ih =>
    simp only [List.map_cons, RegistrySys.run_cons, RegistrySys.puts, RouteRegistry.run_append]
    exact ih (h.step i)

theorem register_only_serializable (r : RouteRegistry) (calls : List RegisterCall)
    (hstart : ∀ c ∈ calls, c.pc = .start) (is : List Nat) :
    (∀ P, endpointsAt (({ reg := r, calls := calls } : RegistrySys).run (is.map .register)).reg P =
      endpointsAt (r.run (({ reg := r, calls := calls } : RegistrySys).puts (is.map .register))) P) ∧
    (({ reg := r, calls := calls } : RegistrySys).run (is.map .register)).reg.timeOfLastUpdate =
      (r.run (({ reg := r, calls := calls } : RegistrySys).puts (is.map .register))).timeOfLastUpdate :=
  let h := (Serial.init r calls hstart).run is
  ⟨h.slots, h.time⟩

/-- The two calls of `twoRegistrations` in lock step. -/
def raceSteps : List Nat := [0, 1, 0, 1, 0, 1, 0, 1, 0, 1]

theorem register_only_serializable_sample :
    (∀ c ∈ twoRegistrations.calls, c.pc = .start) ∧
    (∀ P, endpointsAt (({ reg := twoRegistrations.reg, calls := twoRegistrations.calls } : RegistrySys).run
        (raceSteps.map .register)).reg P =
      endpointsAt (twoRegistrations.reg.run (({ reg := twoRegistrations.reg, calls := twoRegistrations.calls } :
        RegistrySys).puts (raceSteps.map .register))) P) ∧
    (({ reg := twoRegistrations.reg, calls := twoRegistrations.calls } : RegistrySys).run
        (raceSteps.map .register)).reg.timeOfLastUpdate =
      (twoRegistrations.reg.run (({ reg := twoRegistrations.reg, calls := twoRegistrations.calls } :
        RegistrySys).puts (raceSteps.map .register))).timeOfLastUpdate :=
  ⟨by decide, register_only_serializable _ _ (by decide) raceSteps⟩

/-- Both calls of the race put, once each. -/
example : (twoRegistrations.puts (raceSteps.map .register)).length = 2 := by decide

/-! ## Empty pools belong to calls in flight -/

theorem RegisterPc.holdsPool_unique {pc : RegisterPc} {m m' : Nat} (h : pc.holdsPool m)
    (h' : pc.holdsPool m') : m = m' := by
  cases pc <;> simp only [RegisterPc.holdsPool] at h h' <;> omega

/-- A call holding a pool moves on to `holding` it, or puts through it and
returns. -/
theorem RegisterCall.next_of_holdsPool {c : RegisterCall} {r₀ r : RouteRegistry} {rl : Bool}
    {pc : RegisterPc} (hn : c.next r₀ rl = some (r, pc)) {m : Nat} (hp : c.pc.holdsPool m) :
    (r = r₀ ∧ pc = .holding m) ∨ (r = r₀.putThrough c.uri.RouteKey m c.endpoint c.now ∧ pc = .done) := by
  cases hpc : c.pc <;> rw [hpc] at hp <;> simp only [RegisterPc.holdsPool] at hp
  · subst hp
    simp only [RegisterCall.next, hpc, Option.some.injEq, Prod.mk.injEq] at hn
    exact .inl ⟨hn.1.symm, hn.2.symm⟩
  · subst hp
    simp only [RegisterCall.next, hpc, Option.some.injEq, Prod.mk.injEq] at hn
    exact .inr ⟨hn.1.symm, hn.2.symm⟩

/-- A call holding no pool leaves the registry, or inserts the pool it then
holds. -/
theorem RegisterCall.next_of_not_holdsPool {c : RegisterCall} {r₀ r : RouteRegistry} {rl : Bool}
    {pc : RegisterPc} (hn : c.next r₀ rl = some (r, pc)) (hp : ∀ m, ¬c.pc.holdsPool m) :
    r = r₀ ∨ (r = (r₀.insertRouteKey c.uri.RouteKey c.uri c.now).1 ∧
      pc = .inserted (r₀.insertRouteKey c.uri.RouteKey c.uri c.now).2.id) := by
  cases hpc : c.pc with
  | start =>
    simp only [RegisterCall.next, hpc] at hn
    split_ifs at hn <;> exact .inl (Prod.mk.inj (Option.some.inj hn)).1.symm
  | missed =>
    simp only [RegisterCall.next, hpc] at hn
    exact .inl (Prod.mk.inj (Option.some.inj hn)).1.symm
  | released =>
    simp only [RegisterCall.next, hpc] at hn
    split_ifs at hn
    obtain ⟨rfl, rfl⟩ := Prod.mk.inj (Option.some.inj hn)
    exact .inr ⟨rfl, rfl⟩
  | inserted n => exact absurd (by rw [hpc]; rfl) (hp n)
  | holding n => exact absurd (by rw [hpc]; rfl) (hp n)
  | done => simp [RegisterCall.next, hpc] at hn

/-- Replacing the element at `i` keeps every other element. -/
theorem mem_set_of_ne {α : Type} {l : List α} {i : Nat} {c c₀ : α} (hc : l[i]? = some c)
    (h : c₀ ∈ l) (hne : c₀ ≠ c) (c' : α) : c₀ ∈ l.set i c' := by
  obtain ⟨j, hj⟩ := List.mem_iff_getElem?.mp h
  have hij : i ≠ j := by rintro rfl; exact hne (Option.some.inj (hj.symm.trans hc))
  exact List.mem_iff_getElem?.mpr ⟨j, by rw [List.getElem?_set_ne hij]; exact hj⟩

/-- Every empty pool of the trie is the pool a call in flight at its key has
inserted or found, and not yet put into. -/
def EmptyOwned (s : RegistrySys) : Prop :=
  ∀ P q, s.reg.byURI.findPool P = some q → q.endpoints = [] →
    ∃ c ∈ s.calls, c.pc.holdsPool q.id ∧ P = segments c.uri.RouteKey

theorem EmptyOwned.step {s : RegistrySys} (h : EmptyOwned s) (i : Nat) : EmptyOwned (s.step (.register i)) := by
  rcases s.step_register_cases i with hs | ⟨c, r, pc, hc, hn, hs⟩ <;> rw [hs]
  · exact h
  have hself : { c with pc := pc } ∈ s.calls.set i { c with pc := pc } :=
    List.getElem?_mem (List.getElem?_set_self (List.getElem?_eq_some_iff.mp hc).1)
  -- an empty pool the stepping call does not own keeps its owner
  have hkeep : ∀ P q, s.reg.byURI.findPool P = some q → q.endpoints = [] →
      (∀ m, c.pc.holdsPool m → ¬(m = q.id ∧ P = segments c.uri.RouteKey)) →
      ∃ c' ∈ s.calls.set i { c with pc := pc }, c'.pc.holdsPool q.id ∧ P = segments c'.uri.RouteKey := by
    intro P q hq he hnot
    obtain ⟨c₀, h₀, hown, hP⟩ := h P q hq he
    refine ⟨c₀, mem_set_of_ne hc h₀ (fun h0 => ?_) _, hown, hP⟩
    subst h0
    exact hnot q.id hown ⟨rfl, hP⟩
  intro P q hq he
  by_cases hp : ∃ m, c.pc.holdsPool m
  · obtain ⟨m, hm⟩ := hp
    rcases RegisterCall.next_of_holdsPool hn hm with ⟨rfl, rfl⟩ | ⟨rfl, rfl⟩
    · -- from `inserted m` to `holding m`
      by_cases hown : m = q.id ∧ P = segments c.uri.RouteKey
      · exact ⟨_, hself, hown.1, hown.2⟩
      · exact hkeep P q hq he fun m' hm' => RegisterPc.holdsPool_unique hm hm' ▸ hown
    · -- the put: the pool it goes through is no longer empty
      rcases s.reg.findPool_putThrough c.uri.RouteKey m c.endpoint c.now P with h' | ⟨pool, -, rfl, h'⟩
      · rw [h'] at hq
        refine hkeep P q hq he fun m' hm' ⟨hid, hP⟩ => ?_
        subst hP
        obtain rfl : m = q.id := (RegisterPc.holdsPool_unique hm hm').trans hid
        have hland := RouteRegistry.findPool_putAt s.reg c.uri.RouteKey q (s.reg.byURI_ids _ _ hq) c.endpoint
          c.now (segments c.uri.RouteKey)
        rw [if_pos rfl, ← RouteRegistry.putThrough_of_Find hq, h', hq] at hland
        have := congrArg EndpointPool.endpoints (Option.some.inj hland)
        exact putElems_ne_nil _ _ _ (by rw [← EndpointPool.Put_endpoints, ← this, he])
      · rw [h'] at hq
        obtain rfl := Option.some.inj hq
        exact absurd he (putElems_ne_nil _ _ _)
  · have hp' : ∀ m, ¬c.pc.holdsPool m := fun m hm => hp ⟨m, hm⟩
    rcases RegisterCall.next_of_not_holdsPool hn hp' with rfl | ⟨rfl, rfl⟩
    · exact hkeep P q hq he fun m hm => absurd hm (hp' m)
    · obtain ⟨-, hfind⟩ := RouteRegistry.insertRouteKey_eq s.reg c.uri.RouteKey c.uri c.now
      rw [hfind] at hq
      split_ifs at hq with hP
      · obtain rfl := Option.some.inj hq
        exact ⟨_, hself, rfl, hP⟩
      · exact hkeep P q hq he fun m hm => absurd hm (hp' m)

/-- The run lemma. -/
theorem EmptyOwned.run {s : RegistrySys} (h : EmptyOwned s) (is : List Nat) :
    EmptyOwned (s.run (is.map .register)) := by
  induction is generalizing s with
  | nil => exact h
  | cons i is ih => exact ih (h.step i)

theorem register_only_empty_pools_in_flight (r : RouteRegistry)
    (hne : ∀ P q, r.byURI.findPool P = some q → q.endpoints ≠ []) (calls : List RegisterCall) (is : List Nat) :
    (∀ P q, (({ reg := r, calls := calls } : RegistrySys).run (is.map .register)).reg.byURI.findPool P = some q →
      q.endpoints = [] → ∃ c ∈ (({ reg := r, calls := calls } : RegistrySys).run (is.map .register)).calls,
        c.pc.holdsPool q.id ∧ P = segments c.uri.RouteKey) ∧
    ((∀ c ∈ (({ reg := r, calls := calls } : RegistrySys).run (is.map .register)).calls, c.pc = .done) →
      ∀ P q, (({ reg := r, calls := calls } : RegistrySys).run (is.map .register)).reg.byURI.findPool P = some q →
        q.endpoints ≠ []) := by
  have h : EmptyOwned (({ reg := r, calls := calls } : RegistrySys).run (is.map .register)) :=
    EmptyOwned.run (fun P q hq he => absurd he (hne P q hq)) is
  refine ⟨h, fun hdone P q hq he => ?_⟩
  obtain ⟨c, hc, hown, -⟩ := h P q hq he
  rw [hdone c hc] at hown
  exact hown

theorem register_only_empty_pools_in_flight_sample :
    (∀ P q, twoRegistrations.reg.byURI.findPool P = some q → q.endpoints ≠ []) ∧
    (∀ P q, (({ reg := twoRegistrations.reg, calls := twoRegistrations.calls } : RegistrySys).run
        (raceSteps.map .register)).reg.byURI.findPool P = some q →
      q.endpoints = [] → ∃ c ∈ (({ reg := twoRegistrations.reg, calls := twoRegistrations.calls } : RegistrySys).run
        (raceSteps.map .register)).calls, c.pc.holdsPool q.id ∧ P = segments c.uri.RouteKey) ∧
    ((∀ c ∈ (({ reg := twoRegistrations.reg, calls := twoRegistrations.calls } : RegistrySys).run
        (raceSteps.map .register)).calls, c.pc = .done) →
      ∀ P q, (({ reg := twoRegistrations.reg, calls := twoRegistrations.calls } : RegistrySys).run
        (raceSteps.map .register)).reg.byURI.findPool P = some q → q.endpoints ≠ []) :=
  let hne : ∀ P q, twoRegistrations.reg.byURI.findPool P = some q → q.endpoints ≠ [] :=
    fun P q hq => by simp [twoRegistrations, NewRouteRegistry] at hq
  ⟨hne, register_only_empty_pools_in_flight _ hne _ raceSteps⟩

/-- The race ends with both calls returned. -/
example : ((twoRegistrations.run (raceSteps.map .register)).calls.map (·.pc)) = [.done, .done] := by decide

end Gorouter.Registry
