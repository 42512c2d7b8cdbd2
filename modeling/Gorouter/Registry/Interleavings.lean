import Gorouter.Registry.Concurrent
import Gorouter.Registry.Calls
import Gorouter.Registry.Lookup

/-!
# Registry — What every interleaving keeps

`Registry.Concurrent` shows that a writer between `insertRouteKey` and the
put can lose a registration. This module proves what no schedule of
`register` lock steps, `Unregister`s and prune ticks breaks.

`SysInv` is an invariant of the state machine `RegistrySys`:
- the configuration is the one the registry was made with;
- every stored slot satisfies a property that every slot an accepted
  registration stores has;
- no pool is held at two paths;
- every call past its shard check registers an endpoint of the shard.

Each writer keeps the trie's part of it: a call's insert, a call's put
through its pointer (`findPool_putThrough` says once what a put can do), an
`Unregister`, a prune tick. `SysInv.step` assembles them, and `SysInv.run`
carries the invariant over every schedule. So, whatever the interleaving, the
trie holds only endpoints of the router's shard with a clamped threshold
(`interleaved_stored_endpoints_clamped`), and a pool's pointer reaches one
route only (`interleaved_pool_ids_distinct`), as in the sequential runs of
`Registry.Calls`.

An endpoint in the pool at a path also stays there under every event but an
`Unregister` of its identity on that node or a prune tick. Concurrent
registrations on the same key never take it away, whether their put goes
through a live pointer or a stale one (`registered_endpoint_persists`).
-/

namespace Gorouter.Registry

open Gorouter.Route Gorouter.Container Gorouter.Container.Trie

/-! ## Past the shard check -/

/-- Whether a call at this point has passed `Register`'s shard check and not
returned. -/
def RegisterPc.checked : RegisterPc → Bool
  | .start => false
  | .done => false
  | _ => true

/-- `next_cases` with the guards the invariants need: a step to a point past
the shard check comes from one or passes the check, and a put comes from
`holding`. -/
theorem RegisterCall.next_cases_checked {c : RegisterCall} {r₀ r : RouteRegistry} {rl : Bool}
    {pc : RegisterPc} (hn : c.next r₀ rl = some (r, pc)) :
    (pc.checked = true → c.pc.checked = true ∨ r₀.endpointInRouterShard c.endpoint = true) ∧
    (r = r₀ ∨ r = (r₀.insertRouteKey c.uri.RouteKey c.uri c.now).1 ∨
      ∃ poolId, c.pc = .holding poolId ∧ r = r₀.putThrough c.uri.RouteKey poolId c.endpoint c.now) := by
  cases hpc : c.pc with
  | start =>
    simp only [RegisterCall.next, hpc] at hn
    split_ifs at hn with hs <;> obtain ⟨rfl, rfl⟩ := Prod.mk.inj (Option.some.inj hn)
    · exact ⟨fun _ => .inr hs, .inl rfl⟩
    · exact ⟨by simp [RegisterPc.checked], .inl rfl⟩
  | released =>
    simp only [RegisterCall.next, hpc] at hn
    split_ifs at hn
    obtain ⟨rfl, rfl⟩ := Prod.mk.inj (Option.some.inj hn)
    exact ⟨fun _ => .inl rfl, .inr (.inl rfl)⟩
  | holding n =>
    simp only [RegisterCall.next, hpc] at hn
    obtain ⟨rfl, rfl⟩ := Prod.mk.inj (Option.some.inj hn)
    exact ⟨by simp [RegisterPc.checked], .inr (.inr ⟨n, rfl, rfl⟩)⟩
  | done => simp [RegisterCall.next, hpc] at hn
  | _ =>
    simp only [RegisterCall.next, hpc] at hn
    obtain ⟨rfl, rfl⟩ := Prod.mk.inj (Option.some.inj hn)
    exact ⟨fun _ => .inl rfl, .inl rfl⟩

/-! ## What a put through a pointer does -/

@[simp] theorem RouteRegistry.config_putThrough (r : RouteRegistry) (routekey : Uri) (poolId : Nat)
    (e : Endpoint) (now : Int) : (r.putThrough routekey poolId e now).config = r.config := by
  unfold RouteRegistry.putThrough
  split
  · split_ifs <;> rfl
  · rfl

@[simp] theorem RouteRegistry.pruningStatus_putThrough (r : RouteRegistry) (routekey : Uri) (poolId : Nat)
    (e : Endpoint) (now : Int) : (r.putThrough routekey poolId e now).pruningStatus = r.pruningStatus := by
  unfold RouteRegistry.putThrough
  split
  · split_ifs <;> rfl
  · rfl

/-- A put through a pointer leaves every path as it was, or writes the pool at
the key with the clamped endpoint put in. -/
theorem RouteRegistry.findPool_putThrough (r : RouteRegistry) (routekey : Uri) (poolId : Nat)
    (e : Endpoint) (now : Int) (P : List Seg) :
    (r.putThrough routekey poolId e now).byURI.findPool P = r.byURI.findPool P ∨
      ∃ pool, r.byURI.Find routekey = some pool ∧ P = segments routekey ∧
        (r.putThrough routekey poolId e now).byURI.findPool P =
          some (pool.Put (r.clampStaleThreshold e) now).1 := by
  unfold RouteRegistry.putThrough
  split
  · rename_i pool hf
    split_ifs
    · rw [RouteRegistry.findPool_putAt]
      split_ifs with hP
      · exact .inr ⟨pool, hf, hP, rfl⟩
      · exact .inl rfl
    · exact .inl rfl
  · exact .inl rfl

/-! ## Each writer keeps the trie invariants -/

section Writers

variable {Q : EndpointElem → Prop} {r : RouteRegistry}

/-- `insertRouteKey` files the pool already at the key, or a new, empty one. -/
theorem AllStored.insertRouteKey (h : AllStored Q r.byURI) (routekey uri : Uri) (now : Int) :
    AllStored Q (r.insertRouteKey routekey uri now).1.byURI := by
  intro P q hq x hx
  obtain ⟨hpool, hfind⟩ := RouteRegistry.insertRouteKey_eq r routekey uri now
  rw [hfind] at hq
  split_ifs at hq
  · obtain rfl := Option.some.inj hq
    rw [hpool] at hx
    cases hf : r.byURI.Find routekey with
    | none => simp [hf] at hx
    | some p => exact h _ p hf x (by simpa [hf] using hx)
  · exact h P q hq x hx

theorem AllStored.putThrough (h : AllStored Q r.byURI) (routekey : Uri) (poolId : Nat) {e : Endpoint}
    {now : Int} (he : Q ⟨r.clampStaleThreshold e, now⟩) :
    AllStored Q (r.putThrough routekey poolId e now).byURI := by
  intro P q hq x hx
  rcases r.findPool_putThrough routekey poolId e now P with h' | ⟨pool, hf, rfl, h'⟩ <;> rw [h'] at hq
  · exact h P q hq x hx
  · obtain rfl := Option.some.inj hq
    rcases mem_of_mem_putElems (by simpa using hx) with rfl | hx
    · exact he
    · exact h _ pool hf x hx

/-- `insertRouteKey` files the pool already at the key, or a new one whose
identity no pool of the trie has. -/
theorem DistinctIds.insertRouteKey (h : DistinctIds r.byURI) (routekey uri : Uri) (now : Int) :
    DistinctIds (r.insertRouteKey routekey uri now).1.byURI := by
  obtain ⟨hpool, hfind⟩ := RouteRegistry.insertRouteKey_eq r routekey uri now
  have hfresh : ∀ P q, P ≠ segments routekey → r.byURI.findPool P = some q →
      (r.insertRouteKey routekey uri now).2.id ≠ q.id := by
    intro P q hP hq hid
    rw [hpool] at hid
    cases hf : r.byURI.Find routekey with
    | none =>
      have hlt := r.byURI_ids P q hq
      simp [hf, NewPool] at hid
      omega
    | some p₀ =>
      rw [hf] at hid
      exact hP (h P (segments routekey) q p₀ hq hf hid.symm)
  intro P P' q q' hq hq' hid
  rw [hfind] at hq hq'
  split_ifs at hq hq' with hP hP'
  · exact hP.trans hP'.symm
  · obtain rfl := Option.some.inj hq; exact absurd hid (hfresh P' q' hP' hq')
  · obtain rfl := Option.some.inj hq'; exact absurd hid.symm (hfresh P q hP hq)
  · exact h P P' q q' hq hq' hid

/-- A put keeps the identity of the pool it writes. -/
theorem KeepsIds.putThrough (r : RouteRegistry) (routekey : Uri) (poolId : Nat) (e : Endpoint)
    (now : Int) : KeepsIds r.byURI (r.putThrough routekey poolId e now).byURI := by
  intro P q hq
  rcases r.findPool_putThrough routekey poolId e now P with h' | ⟨pool, hf, rfl, h'⟩ <;> rw [h'] at hq
  · exact ⟨q, hq, rfl⟩
  · obtain rfl := Option.some.inj hq
    exact ⟨pool, hf, rfl⟩

end Writers

/-! ## What every event keeps -/

/-- No event changes the configuration. -/
@[simp] theorem RegistrySys.config_step (s : RegistrySys) (ev : Event) :
    (s.step ev).reg.config = s.reg.config := by
  cases ev with
  | register i =>
    rcases s.step_register_cases i with hs | ⟨c, r, pc, -, hn, hs⟩ <;> rw [hs]
    rcases (RegisterCall.next_cases_checked hn).2 with rfl | rfl | ⟨n, -, rfl⟩ <;> simp
  | _ => simp only [RegistrySys.step]; split_ifs <;> simp

/-- Every event keeps each call past its shard check registering an endpoint
of the shard. -/
theorem RegistrySys.checked_step {s : RegistrySys}
    (h : ∀ c ∈ s.calls, c.pc.checked = true → s.reg.endpointInRouterShard c.endpoint = true)
    (ev : Event) :
    ∀ c ∈ (s.step ev).calls, c.pc.checked = true → (s.step ev).reg.endpointInRouterShard c.endpoint = true := by
  rw [RouteRegistry.endpointInRouterShard_congr (s.config_step ev)]
  cases ev with
  | register j =>
    rcases s.step_register_cases j with hs | ⟨c, r, pc, hcj, hn, hs⟩ <;> rw [hs]
    · exact h
    intro c' hc' hck
    rcases List.mem_or_eq_of_mem_set hc' with hc' | rfl
    · exact h c' hc' hck
    · exact ((RegisterCall.next_cases_checked hn).1 hck).elim (h c (List.getElem?_mem hcj)) id
  | _ => simp only [RegistrySys.step]; split_ifs <;> exact h

/-! ## The invariant of every interleaving -/

section Invariant

variable {cfg : Config} {Q : EndpointElem → Prop}

/-- What holds in every state of an interleaving from a registry with
configuration `cfg`. -/
structure SysInv (cfg : Config) (Q : EndpointElem → Prop) (s : RegistrySys) : Prop where
  config : s.reg.config = cfg
  stored : AllStored Q s.reg.byURI
  distinct : DistinctIds s.reg.byURI
  checked : ∀ c ∈ s.calls, c.pc.checked = true → s.reg.endpointInRouterShard c.endpoint = true

/-- From an empty registry whose calls have not started. -/
theorem SysInv.init (calls : List RegisterCall) (hstart : ∀ c ∈ calls, c.pc = .start) :
    SysInv cfg Q { reg := NewRouteRegistry cfg, calls := calls } :=
  ⟨rfl, fun P q hq => by simp [NewRouteRegistry] at hq, fun P _ q _ hq => by simp [NewRouteRegistry] at hq,
    fun c hc hck => by rw [hstart c hc] at hck; cases hck⟩

/-- A writer that keeps the configuration, `Q` and the identity of every pool
at its path keeps the invariant, whatever the calls in flight. -/
theorem SysInv.write {s : RegistrySys} (h : SysInv cfg Q s) {r : RouteRegistry}
    (hc : r.config = s.reg.config) (hs : AllStored Q r.byURI) (hk : KeepsIds s.reg.byURI r.byURI) :
    SysInv cfg Q { s with reg := r } :=
  ⟨hc.trans h.config, hs, h.distinct.of_keepsIds hk, fun c hc' hck => by
    rw [RouteRegistry.endpointInRouterShard_congr hc]; exact h.checked c hc' hck⟩

/-- The step lemma. `Q` must survive a tick's re-stamping and hold of every
slot an accepted registration stores. -/
theorem SysInv.step (hQ : ∀ x t, Q x → Q { x with updatedAt := t })
    (hreg : ∀ r : RouteRegistry, r.config = cfg → ∀ e now, r.endpointInRouterShard e = true →
      Q ⟨r.clampStaleThreshold e, now⟩)
    {s : RegistrySys} (h : SysInv cfg Q s) (ev : Event) : SysInv cfg Q (s.step ev) := by
  have hcfg := (s.config_step ev).trans h.config
  have hck := RegistrySys.checked_step h.checked ev
  cases ev with
  | register j =>
    rcases s.step_register_cases j with hs | ⟨c, r, pc, hcj, hn, hs⟩ <;> rw [hs] at hcfg hck ⊢
    · exact h
    have hshard := h.checked c (List.getElem?_mem hcj)
    -- the trie part, for each of the three things a step can do
    obtain ⟨hstored, hdistinct⟩ : AllStored Q r.byURI ∧ DistinctIds r.byURI := by
      rcases (RegisterCall.next_cases_checked hn).2 with rfl | rfl | ⟨n, hn', rfl⟩
      · exact ⟨h.stored, h.distinct⟩
      · exact ⟨h.stored.insertRouteKey _ _ _, h.distinct.insertRouteKey _ _ _⟩
      · exact ⟨h.stored.putThrough _ _ (hreg s.reg h.config _ _ (hshard (by rw [hn']; rfl))),
          h.distinct.of_keepsIds (KeepsIds.putThrough _ _ _ _ _)⟩
    exact ⟨hcfg, hstored, hdistinct, hck⟩
  | Unregister uri e now =>
    simp only [RegistrySys.step]
    split_ifs
    · exact h
    · unfold RouteRegistry.Unregister
      split_ifs
      · exact h.write (by simp) (h.stored.unregister uri e now) (KeepsIds.unregister _ uri e now)
      · exact h
  | prune sp now =>
    simp only [RegistrySys.step]
    split_ifs
    · exact h
    · exact h.write (by simp) (h.stored.pruneStaleDroplets hQ sp now) (KeepsIds.pruneStaleDroplets _ sp now)

/-- The run lemma. -/
theorem SysInv.run (hQ : ∀ x t, Q x → Q { x with updatedAt := t })
    (hreg : ∀ r : RouteRegistry, r.config = cfg → ∀ e now, r.endpointInRouterShard e = true →
      Q ⟨r.clampStaleThreshold e, now⟩)
    {s : RegistrySys} (h : SysInv cfg Q s) (events : List Event) : SysInv cfg Q (s.run events) := by
  induction events generalizing s with
  | nil => exact h
  | cons ev events ih => exact ih (h.step hQ hreg ev)

end Invariant

/-! ## Stored endpoints and pools, under every schedule -/

/-- The slot an accepted registration of a registry with configuration `cfg`
stores holds an endpoint of the shard with a threshold the clamp let through. -/
theorem RouteRegistry.clampStaleThreshold_admitted {cfg : Config} (hd : 0 < cfg.DropletStaleThreshold)
    {r : RouteRegistry} (hc : r.config = cfg) {e : Endpoint} (hs : r.endpointInRouterShard e = true) :
    (NewRouteRegistry cfg).endpointInRouterShard (r.clampStaleThreshold e) = true ∧
      (r.clampStaleThreshold e).staleThreshold ≠ 0 ∧
      (r.clampStaleThreshold e).staleThreshold ≤ cfg.DropletStaleThreshold := by
  have hdr : r.dropletStaleThreshold = cfg.DropletStaleThreshold := congrArg Config.DropletStaleThreshold hc
  have hb := r.clampStaleThreshold_bounds e (by rw [hdr]; exact hd)
  refine ⟨?_, hb.1, hdr ▸ hb.2⟩
  rw [← RouteRegistry.endpointInRouterShard_congr (hc.trans (RouteRegistry.config_NewRouteRegistry cfg).symm),
    RouteRegistry.endpointInRouterShard_clampStaleThreshold, hs]

theorem interleaved_stored_endpoints_clamped (cfg : Config) (hd : 0 < cfg.DropletStaleThreshold)
    (calls : List RegisterCall) (hstart : ∀ c ∈ calls, c.pc = .start) (events : List Event) :
    ∀ P q, (({ reg := NewRouteRegistry cfg, calls := calls } : RegistrySys).run events).reg.byURI.findPool P =
        some q →
      ∀ x ∈ q.endpoints, (NewRouteRegistry cfg).endpointInRouterShard x.endpoint = true ∧
        x.endpoint.staleThreshold ≠ 0 ∧ x.endpoint.staleThreshold ≤ cfg.DropletStaleThreshold :=
  (SysInv.run (fun _ _ h => h) (fun _ hc _ _ hs => RouteRegistry.clampStaleThreshold_admitted hd hc hs)
    (SysInv.init calls hstart) events).stored

/-- Two calls registering two endpoints at `a.com`, on an empty registry. -/
def twoRegistrations : RegistrySys :=
  { reg := NewRouteRegistry (sampleConfig false 0)
    calls := [⟨"a.com".toList, sampleEndpoint "10.0.0.1:8080" 10, 0, .start⟩,
      ⟨"a.com".toList, sampleEndpoint "10.0.0.2:8080" 300, 0, .start⟩] }

/-- Both calls miss and insert, the second call's pool replacing nothing. -/
def raceSchedule : List Event :=
  [.register 0, .register 1, .register 0, .register 1, .register 0, .register 1,
   .register 0, .register 1, .register 0, .register 1]

theorem interleaved_stored_endpoints_clamped_sample :
    0 < (sampleConfig false 0).DropletStaleThreshold ∧ (∀ c ∈ twoRegistrations.calls, c.pc = .start) ∧
    ∀ P q, (({ reg := NewRouteRegistry (sampleConfig false 0), calls := twoRegistrations.calls } :
        RegistrySys).run raceSchedule).reg.byURI.findPool P = some q →
      ∀ x ∈ q.endpoints, (NewRouteRegistry (sampleConfig false 0)).endpointInRouterShard x.endpoint = true ∧
        x.endpoint.staleThreshold ≠ 0 ∧ x.endpoint.staleThreshold ≤ (sampleConfig false 0).DropletStaleThreshold :=
  ⟨by decide, by decide,
    interleaved_stored_endpoints_clamped (sampleConfig false 0) (by decide) _ (by decide) raceSchedule⟩

theorem interleaved_pool_ids_distinct (cfg : Config) (calls : List RegisterCall)
    (hstart : ∀ c ∈ calls, c.pc = .start) (events : List Event) :
    DistinctIds (({ reg := NewRouteRegistry cfg, calls := calls } : RegistrySys).run events).reg.byURI :=
  (SysInv.run (Q := fun _ => True) (fun _ _ h => h) (fun _ _ _ _ _ => trivial)
    (SysInv.init calls hstart) events).distinct

theorem interleaved_pool_ids_distinct_sample :
    (∀ c ∈ twoRegistrations.calls, c.pc = .start) ∧
    DistinctIds (({ reg := NewRouteRegistry (sampleConfig false 0), calls := twoRegistrations.calls } :
      RegistrySys).run raceSchedule).reg.byURI :=
  ⟨by decide, interleaved_pool_ids_distinct (sampleConfig false 0) _ (by decide) raceSchedule⟩

/-! ## An endpoint stays until its own Unregister or a tick -/

/-- The pool at path `P` holds an endpoint of identity `i`. -/
def HoldsIdentity (t : Trie) (P : List Seg) (i : String × String) : Prop :=
  ∃ q, t.findPool P = some q ∧ i ∈ identities q.endpoints

instance (t : Trie) (P : List Seg) (i : String × String) : Decidable (HoldsIdentity t P i) :=
  decidable_of_iff ((t.findPool P).any fun q => decide (i ∈ identities q.endpoints)) (by
    unfold HoldsIdentity; cases t.findPool P <;> simp)

/-- Whether an event can take identity `i` from the pool at path `P`: an
`Unregister` of `i` on that node, or a prune tick that is not suspended. -/
def Event.removes (P : List Seg) (i : String × String) : Event → Bool
  | .register _ => false
  | .Unregister uri e _ => decide (segments uri.RouteKey = P ∧ e.identity = i)
  | .prune suspendPruning _ => !suspendPruning

section Holds

variable {r : RouteRegistry} {P : List Seg} {i : String × String}

theorem HoldsIdentity.insertRouteKey (h : HoldsIdentity r.byURI P i) (routekey uri : Uri) (now : Int) :
    HoldsIdentity (r.insertRouteKey routekey uri now).1.byURI P i := by
  obtain ⟨q, hq, hi⟩ := h
  obtain ⟨hpool, hfind⟩ := RouteRegistry.insertRouteKey_eq r routekey uri now
  unfold HoldsIdentity
  rw [hfind]
  split_ifs with hP
  · subst hP
    exact ⟨_, rfl, by rw [hpool, Find, hq]; exact hi⟩
  · exact ⟨q, hq, hi⟩

theorem HoldsIdentity.putThrough (h : HoldsIdentity r.byURI P i) (routekey : Uri) (poolId : Nat)
    (e : Endpoint) (now : Int) : HoldsIdentity (r.putThrough routekey poolId e now).byURI P i := by
  obtain ⟨q, hq, hi⟩ := h
  rcases r.findPool_putThrough routekey poolId e now P with h' | ⟨pool, hf, rfl, h'⟩
  · exact ⟨q, h'.trans hq, hi⟩
  · obtain rfl : pool = q := Option.some.inj (hf.symm.trans hq)
    exact ⟨_, h', mem_identities_putElems hi _ now⟩

/-- An `Unregister` of another identity, or on another node, leaves `i`
where it is; the pool keeps `i`, so it is not empty and stays. -/
theorem HoldsIdentity.unregister (h : HoldsIdentity r.byURI P i) (uri : Uri) (e : Endpoint) (now : Int)
    (hne : segments uri.RouteKey = P → e.identity ≠ i) :
    HoldsIdentity (r.unregister uri e now).byURI P i := by
  obtain ⟨q, hq, hi⟩ := h
  unfold HoldsIdentity
  rw [RouteRegistry.findPool_unregister]
  split_ifs with hP
  · subst hP
    have hi' : i ∈ identities (q.Remove e).1.endpoints :=
      EndpointPool.mem_identities_Remove.mpr ⟨hi, (hne rfl).symm⟩
    have hkeep : ¬(q.Remove e).1.IsEmpty = true := fun h0 => by
      rw [EndpointPool.IsEmpty_iff] at h0
      rw [h0] at hi'
      exact List.not_mem_nil _ hi'
    exact ⟨_, by rw [Find, hq, Option.some_bind, if_neg fun h => hkeep h.1], hi'⟩
  · exact ⟨q, hq, hi⟩

/-- The step lemma: no event but an `Unregister` of `i` on the node at `P`,
or a tick, takes `i` from there. -/
theorem HoldsIdentity.step {s : RegistrySys} (h : HoldsIdentity s.reg.byURI P i) (ev : Event)
    (hev : ev.removes P i = false) : HoldsIdentity (s.step ev).reg.byURI P i := by
  cases ev with
  | register j =>
    rcases s.step_register_cases j with hs | ⟨c, r, pc, -, hn, hs⟩ <;> rw [hs]
    · exact h
    rcases (RegisterCall.next_cases_checked hn).2 with rfl | rfl | ⟨_, -, rfl⟩
    · exact h
    · exact h.insertRouteKey _ _ _
    · exact h.putThrough _ _ _ _
  | Unregister uri e now =>
    simp only [RegistrySys.step]
    split_ifs
    · exact h
    · unfold RouteRegistry.Unregister
      split_ifs
      · exact h.unregister uri e now (by simpa [Event.removes] using hev)
      · exact h
  | prune sp now =>
    obtain rfl : sp = true := by simpa [Event.removes] using hev
    simp only [RegistrySys.step]
    split_ifs <;> exact h

end Holds

theorem registered_endpoint_persists (s : RegistrySys) (P : List Seg) (i : String × String)
    (events : List Event) (hev : ∀ ev ∈ events, ev.removes P i = false)
    (h : HoldsIdentity s.reg.byURI P i) : HoldsIdentity (s.run events).reg.byURI P i := by
  induction events generalizing s with
  | nil => exact h
  | cons ev events ih =>
    exact ih _ (fun ev' h' => hev ev' (List.mem_cons_of_mem _ h'))
      (h.step ev (hev ev (List.mem_cons_self _ _)))

/-- The first call registers `10.0.0.1` at `a.com`; then the second call
registers `10.0.0.2` there and an `Unregister` takes `10.0.0.2` away again. -/
def persistSchedule : List Event :=
  List.replicate 5 (.register 1) ++ [.Unregister "a.com".toList (sampleEndpoint "10.0.0.2:8080" 300) 0]

theorem registered_endpoint_persists_sample :
    (∀ ev ∈ persistSchedule, ev.removes (segments (Uri.RouteKey "a.com".toList))
      (sampleEndpoint "10.0.0.1:8080" 10).identity = false) ∧
    HoldsIdentity (twoRegistrations.run (List.replicate 5 (.register 0))).reg.byURI
      (segments (Uri.RouteKey "a.com".toList)) (sampleEndpoint "10.0.0.1:8080" 10).identity ∧
    HoldsIdentity ((twoRegistrations.run (List.replicate 5 (.register 0))).run persistSchedule).reg.byURI
      (segments (Uri.RouteKey "a.com".toList)) (sampleEndpoint "10.0.0.1:8080" 10).identity :=
  ⟨by decide, by decide, registered_endpoint_persists _ _ _ _ (by decide) (by decide)⟩

/-! ## Every call returns -/

theorem Lookup_sees_empty_pool_after_insert (s : RegistrySys) (i : Nat) (c : RegisterCall)
    (hc : s.calls[i]? = some c) (hpc : c.pc = .released) (hfree : s.readLocked = false)
    (hnone : s.reg.byURI.Find c.uri.RouteKey = none) :
    (s.step (.register i)).reg.Lookup c.uri = some (NewPool s.reg.nextPoolId (s.reg.newPoolOpts c.uri) c.now) := by
  have hn : c.next s.reg s.readLocked = some ((s.reg.insertRouteKey c.uri.RouteKey c.uri c.now).1,
      .inserted (s.reg.insertRouteKey c.uri.RouteKey c.uri c.now).2.id) := by
    simp [RegisterCall.next, hpc, hfree]
  rw [RegistrySys.step_register_of_next hc _ _ hn]
  obtain ⟨hpool, hfind⟩ := RouteRegistry.insertRouteKey_eq s.reg c.uri.RouteKey c.uri c.now
  apply Lookup_of_Find
  rw [Find, hfind, if_pos rfl, hpool, hnone]
  rfl

/-- The call of `oneRegistration` after its miss and its `RUnlock`. -/
theorem Lookup_sees_empty_pool_after_insert_sample :
    ((oneRegistration.run [.register 0, .register 0]).calls[0]?).map (·.pc) = some .released ∧
    (oneRegistration.run [.register 0, .register 0]).readLocked = false ∧
    (oneRegistration.run [.register 0, .register 0]).reg.byURI.Find (Uri.RouteKey "a.com".toList) = none ∧
    ((oneRegistration.run [.register 0, .register 0]).step (.register 0)).reg.Lookup "a.com".toList =
      some (NewPool (oneRegistration.run [.register 0, .register 0]).reg.nextPoolId
        ((oneRegistration.run [.register 0, .register 0]).reg.newPoolOpts "a.com".toList) 0) :=
  ⟨by decide, by decide, by decide,
    Lookup_sees_empty_pool_after_insert (oneRegistration.run [.register 0, .register 0]) 0 _ rfl rfl
      (by decide) (by decide)⟩

end Gorouter.Registry
