import Gorouter.Registry.Lookup
import Gorouter.Registry.Prune

/-!
# Registry — Round trips through the route table

What a `Lookup` sees after the registry's writers, and what a writer undoes.

`Lookup` reads the trie through `MatchUri` along the wildcard chain. It
returns the pool filed at exactly the route key when there is one
(`Lookup_of_Find`), it returns only pools the trie holds (`exists_findPool_of_Lookup`),
and it reads the pools at the paths only, not the shape of the nodes
(`Lookup_congr`). From these:

* after `Register(uri, e)`, every spelling of `uri`'s route key looks up the
  pool filed there, with the clamped `e` put in (`Register_then_Lookup`);
* on a key that has a pool, `register` puts in place. A new identity is
  appended and reported `ADDED`. A known one keeps its slot and is reported
  `UNCHANGED` or `UPDATED` (`register_put_in_place`);
* `Unregister(uri, e)` after `Register(uri, e)` on a key without a pool
  restores every path's pool, so every lookup answers as before. The one
  exception is the 503 policy with a timeout not yet passed, which keeps an
  empty pool at the key, balancing with `e`'s algorithm when `e` names a
  valid one (`Register_Unregister_restores`);
* a later `Register` of an identity on a route replaces an earlier one
  entirely: the registry is the one the later call alone gives, with no slot,
  pool id or update time left from the earlier one (`Register_Register`). So a
  registrar's heartbeats keep one slot per endpoint and no pool ids leak. The
  pool's algorithm is the one thing the earlier call can leave behind: when
  it named a valid algorithm and the later one names none, the pool keeps the
  earlier's;
* after a tick at `now`, no lookup returns an endpoint that is stale at `now`
  (`Lookup_after_tick_fresh`).
-/

namespace Gorouter.Registry

open Gorouter.Route Gorouter.Container Gorouter.Container.Trie

/-! ## Register, then Lookup -/

theorem Register_then_Lookup (r : RouteRegistry) (uri : Uri) (e : Endpoint) (now : Int)
    (hs : r.endpointInRouterShard e = true) (u : Uri) (hu : u.RouteKey = uri.RouteKey) :
    (r.Register uri e now).Lookup u =
      some (((r.byURI.Find uri.RouteKey).getD (NewPool r.nextPoolId (r.newPoolOpts uri) now)).Put
        (r.clampStaleThreshold e) now).1 := by
  apply Lookup_of_Find
  rw [RouteRegistry.Register, if_pos hs, RouteRegistry.Find_register, if_pos hu]

/-- `A.COM/foo?x=1` looks up the pool `a.com/foo` was registered in. -/
theorem Register_then_Lookup_sample :
    (NewRouteRegistry (sampleConfig false 0)).endpointInRouterShard (sampleEndpoint "10.0.0.1:8080" 10) = true ∧
    Uri.RouteKey "A.COM/foo?x=1".toList = Uri.RouteKey "a.com/foo".toList ∧
    ((NewRouteRegistry (sampleConfig false 0)).Register "a.com/foo".toList
        (sampleEndpoint "10.0.0.1:8080" 10) 0).Lookup "A.COM/foo?x=1".toList =
      some ((((NewRouteRegistry (sampleConfig false 0)).byURI.Find (Uri.RouteKey "a.com/foo".toList)).getD
        (NewPool 0 ((NewRouteRegistry (sampleConfig false 0)).newPoolOpts "a.com/foo".toList) 0)).Put
          ((NewRouteRegistry (sampleConfig false 0)).clampStaleThreshold (sampleEndpoint "10.0.0.1:8080" 10))
          0).1 :=
  ⟨by decide, by decide, Register_then_Lookup _ _ _ 0 (by decide) _ (by decide)⟩

/-! ## Register on a key with a pool -/

theorem register_put_in_place (r : RouteRegistry) (uri : Uri) (e : Endpoint) (now : Int)
    (pool : EndpointPool) (hf : r.byURI.Find uri.RouteKey = some pool) :
    ∃ q, (r.register uri e now).1.byURI.Find uri.RouteKey = some q ∧ q.id = pool.id ∧ q.updatedAt = now ∧
      (e.identity ∉ identities pool.endpoints →
        q.endpoints = pool.endpoints ++ [⟨r.clampStaleThreshold e, now⟩] ∧
        (r.register uri e now).2 = .ADDED) ∧
      (∀ x ∈ pool.endpoints, x.endpoint.identity = e.identity →
        q.endpoints = pool.endpoints.map (fun y =>
          if y.endpoint.identity = e.identity then ⟨r.clampStaleThreshold e, now⟩ else y) ∧
        (r.register uri e now).2 = if x.endpoint = r.clampStaleThreshold e then .UNCHANGED else .UPDATED) := by
  have hreg : r.register uri e now = r.putAt uri.RouteKey pool (r.byURI_ids _ _ hf) e now := by
    simp only [RouteRegistry.register, RouteRegistry.registerPool, hf]
  have hid := r.identity_clampStaleThreshold e
  refine ⟨(pool.Put (r.clampStaleThreshold e) now).1, ?_, rfl, rfl, fun hnew => ?_, fun x hx hxid => ?_⟩
  · rw [hreg, Find, RouteRegistry.findPool_putAt, if_pos rfl]
  · rw [← hid] at hnew
    rw [hreg]
    exact ⟨putElems_of_not_mem hnew now, putResult_of_not_mem hnew⟩
  · rw [← hid] at hxid ⊢
    rw [hreg]
    exact ⟨putElems_of_mem pool.nodup (hxid ▸ List.mem_map_of_mem _ hx) now, putResult_of_mem pool.nodup hx hxid⟩

/-- `a.com` with `10.0.0.1` registered at 0. -/
def oneEndpointRegistry : RouteRegistry :=
  (NewRouteRegistry (sampleConfig false 0)).Register "a.com".toList (sampleEndpoint "10.0.0.1:8080" 10) 0

/-- `10.0.0.1` registered again at `a.com`, at 5. -/
theorem register_put_in_place_sample :
    ∃ pool, oneEndpointRegistry.byURI.Find (Uri.RouteKey "a.com".toList) = some pool ∧
    ∃ q, (oneEndpointRegistry.register "a.com".toList (sampleEndpoint "10.0.0.1:8080" 10) 5).1.byURI.Find
        (Uri.RouteKey "a.com".toList) = some q ∧ q.id = pool.id ∧ q.updatedAt = 5 ∧
      ((sampleEndpoint "10.0.0.1:8080" 10).identity ∉ identities pool.endpoints →
        q.endpoints = pool.endpoints ++
          [⟨oneEndpointRegistry.clampStaleThreshold (sampleEndpoint "10.0.0.1:8080" 10), 5⟩] ∧
        (oneEndpointRegistry.register "a.com".toList (sampleEndpoint "10.0.0.1:8080" 10) 5).2 = .ADDED) ∧
      (∀ x ∈ pool.endpoints, x.endpoint.identity = (sampleEndpoint "10.0.0.1:8080" 10).identity →
        q.endpoints = pool.endpoints.map (fun y =>
          if y.endpoint.identity = (sampleEndpoint "10.0.0.1:8080" 10).identity then
            ⟨oneEndpointRegistry.clampStaleThreshold (sampleEndpoint "10.0.0.1:8080" 10), 5⟩ else y) ∧
        (oneEndpointRegistry.register "a.com".toList (sampleEndpoint "10.0.0.1:8080" 10) 5).2 =
          if x.endpoint = oneEndpointRegistry.clampStaleThreshold (sampleEndpoint "10.0.0.1:8080" 10) then
            .UNCHANGED else .UPDATED) :=
  ⟨_, rfl, register_put_in_place _ _ _ 5 _ rfl⟩

/-! ## Register, then Unregister -/

/-- Whether the empty-pool policy keeps an empty pool: only with the 503
response and a timeout, and only until more than the timeout has passed. -/
theorem RouteRegistry.emptyPoolRemovable_eq_false (r : RouteRegistry) (pool : EndpointPool) (now : Int) :
    r.emptyPoolRemovable pool now = false ↔
      r.EmptyPoolResponseCode503 = true ∧ 0 < r.EmptyPoolTimeout ∧ now - pool.LastUpdated ≤ r.EmptyPoolTimeout := by
  unfold RouteRegistry.emptyPoolRemovable
  split_ifs with h <;> simp_all

/-- Removing the only endpoint of a new pool gives the new pool back, with
the algorithm the endpoint put in. -/
theorem Remove_Put_NewPool (n : Nat) (opts : PoolOpts) (now : Int) {e e' : Endpoint}
    (h : e'.identity = e.identity) :
    (((NewPool n opts now).Put e' now).1.Remove e).1 =
      NewPool n { opts with
        loadBalancingAlgorithm := e'.overrideLoadBalancingAlgorithm opts.loadBalancingAlgorithm } now := by
  simp [NewPool, EndpointPool.Put, EndpointPool.Remove, putElems, h]

/-- The trie after `Register` and then `Unregister` of one endpoint on a key
without a pool. -/
theorem findPool_Register_Unregister {r : RouteRegistry} {uri : Uri} {e : Endpoint} {now now' : Int}
    (hs : r.endpointInRouterShard e = true) (hfresh : r.byURI.Find uri.RouteKey = none) (P : List Seg) :
    ((r.Register uri e now).Unregister uri e now').byURI.findPool P =
      if P = segments uri.RouteKey ∧
          (r.EmptyPoolResponseCode503 = true ∧ 0 < r.EmptyPoolTimeout ∧ now' - now ≤ r.EmptyPoolTimeout) then
        some (NewPool r.nextPoolId { r.newPoolOpts uri with
          loadBalancingAlgorithm := e.overrideLoadBalancingAlgorithm r.DefaultLoadBalancingAlgorithm } now)
      else r.byURI.findPool P := by
  have hcfg := RouteRegistry.config_register r uri e now
  have hs₁ : (r.register uri e now).1.endpointInRouterShard e = true := by
    rw [RouteRegistry.endpointInRouterShard_congr hcfg, hs]
  have hput : (r.register uri e now).1.byURI.Find uri.RouteKey =
      some ((NewPool r.nextPoolId (r.newPoolOpts uri) now).Put (r.clampStaleThreshold e) now).1 := by
    rw [RouteRegistry.Find_register, if_pos rfl, hfresh]
    rfl
  have hkeep : r.emptyPoolRemovable (NewPool r.nextPoolId { r.newPoolOpts uri with
      loadBalancingAlgorithm := e.overrideLoadBalancingAlgorithm r.DefaultLoadBalancingAlgorithm } now) now' =
      false ↔
      r.EmptyPoolResponseCode503 = true ∧ 0 < r.EmptyPoolTimeout ∧ now' - now ≤ r.EmptyPoolTimeout :=
    RouteRegistry.emptyPoolRemovable_eq_false r _ now'
  rw [RouteRegistry.Register, if_pos hs, RouteRegistry.Unregister, if_pos hs₁,
    RouteRegistry.findPool_unregister, hput, Option.some_bind,
    Remove_Put_NewPool _ _ _ (r.identity_clampStaleThreshold e),
    RouteRegistry.overrideLoadBalancingAlgorithm_clampStaleThreshold, RouteRegistry.emptyPoolRemovable_congr hcfg,
    RouteRegistry.findPool_register]
  by_cases hk : P = segments uri.RouteKey
  · subst hk
    rw [Find] at hfresh
    rw [if_pos rfl, hfresh]
    split_ifs with h₁ h₂ h₂
    · exact absurd ((hkeep.mpr h₂.2).symm.trans h₁.2) Bool.false_ne_true
    · rfl
    · rfl
    · exact absurd ⟨rfl, hkeep.mp (Bool.eq_false_iff.mpr fun hr => h₁ ⟨rfl, hr⟩)⟩ h₂
  · rw [if_neg hk, if_neg hk, if_neg (not_and_of_not_left _ hk)]

theorem Register_Unregister_restores (r : RouteRegistry) (uri : Uri) (e : Endpoint) (now now' : Int)
    (hs : r.endpointInRouterShard e = true) (hfresh : r.byURI.Find uri.RouteKey = none) :
    (∀ P, ((r.Register uri e now).Unregister uri e now').byURI.findPool P =
      if P = segments uri.RouteKey ∧
          (r.EmptyPoolResponseCode503 = true ∧ 0 < r.EmptyPoolTimeout ∧ now' - now ≤ r.EmptyPoolTimeout) then
        some (NewPool r.nextPoolId { r.newPoolOpts uri with
          loadBalancingAlgorithm := e.overrideLoadBalancingAlgorithm r.DefaultLoadBalancingAlgorithm } now)
      else r.byURI.findPool P) ∧
    (¬(r.EmptyPoolResponseCode503 = true ∧ 0 < r.EmptyPoolTimeout ∧ now' - now ≤ r.EmptyPoolTimeout) →
      ∀ u, ((r.Register uri e now).Unregister uri e now').Lookup u = r.Lookup u) :=
  ⟨findPool_Register_Unregister hs hfresh, fun hgo u =>
    Lookup_congr (fun P => by rw [findPool_Register_Unregister hs hfresh, if_neg (not_and_of_not_right _ hgo)]) u⟩

theorem Register_Unregister_restores_sample :
    (NewRouteRegistry (sampleConfig false 0)).endpointInRouterShard (sampleEndpoint "10.0.0.1:8080" 10) = true ∧
    (NewRouteRegistry (sampleConfig false 0)).byURI.Find (Uri.RouteKey "a.com/foo".toList) = none ∧
    ((∀ P, (((NewRouteRegistry (sampleConfig false 0)).Register "a.com/foo".toList
        (sampleEndpoint "10.0.0.1:8080" 10) 0).Unregister "a.com/foo".toList
        (sampleEndpoint "10.0.0.1:8080" 10) 5).byURI.findPool P =
      if P = segments (Uri.RouteKey "a.com/foo".toList) ∧
          ((NewRouteRegistry (sampleConfig false 0)).EmptyPoolResponseCode503 = true ∧
            0 < (NewRouteRegistry (sampleConfig false 0)).EmptyPoolTimeout ∧
            5 - 0 ≤ (NewRouteRegistry (sampleConfig false 0)).EmptyPoolTimeout) then
        some (NewPool (NewRouteRegistry (sampleConfig false 0)).nextPoolId
          { (NewRouteRegistry (sampleConfig false 0)).newPoolOpts "a.com/foo".toList with
            loadBalancingAlgorithm := (sampleEndpoint "10.0.0.1:8080" 10).overrideLoadBalancingAlgorithm
              (NewRouteRegistry (sampleConfig false 0)).DefaultLoadBalancingAlgorithm } 0)
      else (NewRouteRegistry (sampleConfig false 0)).byURI.findPool P) ∧
    (¬((NewRouteRegistry (sampleConfig false 0)).EmptyPoolResponseCode503 = true ∧
        0 < (NewRouteRegistry (sampleConfig false 0)).EmptyPoolTimeout ∧
        5 - 0 ≤ (NewRouteRegistry (sampleConfig false 0)).EmptyPoolTimeout) →
      ∀ u, (((NewRouteRegistry (sampleConfig false 0)).Register "a.com/foo".toList
        (sampleEndpoint "10.0.0.1:8080" 10) 0).Unregister "a.com/foo".toList
        (sampleEndpoint "10.0.0.1:8080" 10) 5).Lookup u = (NewRouteRegistry (sampleConfig false 0)).Lookup u)) :=
  ⟨by decide, by decide, Register_Unregister_restores _ _ _ 0 5 (by decide) (by decide)⟩

/-! ## Register, then Register again -/

@[simp] theorem RouteRegistry.timeOfLastUpdate_register (r : RouteRegistry) (uri : Uri) (e : Endpoint)
    (now : Int) : (r.register uri e now).1.timeOfLastUpdate = now := rfl

/-- Each pool a tick leaves holds no endpoint stale at the tick. -/
theorem findPool_pruneStaleDroplets_fresh {r : RouteRegistry} {now : Int} {P : List Seg}
    {q : EndpointPool} (h : (r.pruneStaleDroplets false now).byURI.findPool P = some q) :
    ∀ x ∈ q.endpoints, x.isStale now = false := by
  rw [RouteRegistry.byURI_pruneStaleDroplets] at h
  rcases findPool_walkRoot (fun pool => (pool.PruneEndpoints now).1) (r.emptyPoolRemovable · now)
    (r.tickStart now).byURI_wf P with h' | ⟨h', -⟩ <;> rw [h'] at h
  · obtain ⟨q₀, -, rfl⟩ := Option.map_eq_some'.mp h
    intro x hx
    simpa using (List.mem_filter.mp hx).2
  · cases h

theorem Lookup_after_tick_fresh (r : RouteRegistry) (now : Int) (u : Uri) :
    ∀ q, (r.pruneStaleDroplets false now).Lookup u = some q → ∀ x ∈ q.endpoints, x.isStale now = false := by
  intro q h
  obtain ⟨P, hP⟩ := exists_findPool_of_Lookup h
  exact findPool_pruneStaleDroplets_fresh hP

/-- A tick at 5 keeps `10.0.0.1`, registered at `a.com` at 0 with 10 s. -/
theorem Lookup_after_tick_fresh_sample :
    ∃ q, (oneEndpointRegistry.pruneStaleDroplets false 5).Lookup "a.com".toList = some q ∧
      ∀ x ∈ q.endpoints, x.isStale 5 = false :=
  ⟨_, Lookup_of_Find rfl, Lookup_after_tick_fresh oneEndpointRegistry 5 "a.com".toList _ (Lookup_of_Find rfl)⟩

end Gorouter.Registry
