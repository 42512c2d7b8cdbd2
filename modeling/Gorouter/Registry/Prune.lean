import Gorouter.Registry.Calls

/-!
# Registry — The prune tick

What one `pruneStaleDroplets` tick does to the trie. Through
`EachNodeWithPool_eq` the tick's walk is the structural `walkRoot`, so every
fact here is read off the per-path characterisation of `Container.WalkSpec`:
the tick calls `PruneEndpoints` once on every pool (`poolPaths`), each route
key keeps exactly its fresh endpoints, and no node on the way to a pool with
fresh endpoints is removed.

The clock is one `now` for the whole tick, freshening included, as the tick's
calls of `time.Now()` are assumed to agree. A tick after a suspended one
freshens every pool before the walk, so with positive thresholds it removes
no endpoint: the suspension state machine is `pruningStatus`, which only the
ticks write. Two connected ticks at one clock leave what the first left.
-/

namespace Gorouter.Registry

open Gorouter.Route Gorouter.Container Gorouter.Container.Trie

namespace RouteRegistry

theorem tickStart_of_connected {r : RouteRegistry} (hc : r.pruningStatus = .CONNECTED) (now : Int) :
    r.tickStart now = r := by
  simp [tickStart, hc]

theorem pruneWalk_eq (r : RouteRegistry) (now : Int) :
    r.pruneWalk now =
      (walkRoot (fun pool => (pool.PruneEndpoints now).1) (r.emptyPoolRemovable · now) r.byURI,
       poolPaths [] r.byURI) :=
  EachNodeWithPool_eq _ _ r.byURI_wf

end RouteRegistry

/-! ## One tick -/

theorem pruneStaleDroplets_prunes_each_pool (r : RouteRegistry) (now : Int)
    (hc : r.pruningStatus = .CONNECTED) :
    ((r.pruneWalk now).2.Nodup ∧ ∀ P, P ∈ (r.pruneWalk now).2 ↔ (r.byURI.findPool P).isSome) ∧
    (∀ u : Uri, (((r.pruneStaleDroplets false now).byURI.Find u.RouteKey).map (·.endpoints)).getD [] =
      (((r.byURI.Find u.RouteKey).map (·.endpoints)).getD []).filter
        (fun x => !decide (x.updatedAt + x.endpoint.staleThreshold < now))) ∧
    (∀ P q, r.byURI.findPool P = some q → (q.PruneEndpoints now).1.IsEmpty = false →
      ∀ P', P' <+: P → ((r.pruneStaleDroplets false now).byURI.get P').isSome) := by
  have hbyURI := RouteRegistry.byURI_pruneStaleDroplets r now
  rw [RouteRegistry.tickStart_of_connected hc] at hbyURI
  refine ⟨⟨?_, fun P => ?_⟩, fun u => ?_, fun P q hq hne P' hP' => ?_⟩
  · simpa [RouteRegistry.pruneWalk_eq] using nodup_poolPaths r.byURI_wf []
  · simpa [RouteRegistry.pruneWalk_eq] using mem_poolPaths r.byURI_wf [] P
  · rw [hbyURI, Find, Find]
    rcases findPool_walkRoot _ (r.emptyPoolRemovable · now) r.byURI_wf (segments u.RouteKey) with
      h | ⟨h, hempty⟩
    · rw [h]
      cases r.byURI.findPool (segments u.RouteKey) <;> simp [EndpointElem.isStale]
    · rw [h]
      cases hq : r.byURI.findPool (segments u.RouteKey) with
      | none => rfl
      | some q =>
        have := (EndpointPool.IsEmpty_iff _).mp (hempty q hq)
        simp only [EndpointPool.PruneEndpoints_endpoints, EndpointElem.isStale] at this
        simp [this]
  · rw [hbyURI]
    refine get_isSome_of_prefix hP' ?_
    have hpool := findPool_walkRoot_of_not_IsEmpty (fun pool => (pool.PruneEndpoints now).1)
      (r.emptyPoolRemovable · now) r.byURI_wf hq hne
    simp only [findPool] at hpool
    cases hg : (walkRoot _ _ r.byURI).get P <;> simp_all

/-- `a.com` registered at 0 and `a.com/foo` at 20, with 10 s thresholds. -/
def twoKeyRegistry : RouteRegistry :=
  (NewRouteRegistry (sampleConfig false 0)).run
    [.Register "a.com".toList (sampleEndpoint "10.0.0.1:8080" 10) 0,
     .Register "a.com/foo".toList (sampleEndpoint "10.0.0.2:8080" 10) 20]

theorem pruneStaleDroplets_prunes_each_pool_sample :
    twoKeyRegistry.pruningStatus = .CONNECTED ∧
    ((twoKeyRegistry.pruneWalk 25).2.Nodup ∧
      ∀ P, P ∈ (twoKeyRegistry.pruneWalk 25).2 ↔ (twoKeyRegistry.byURI.findPool P).isSome) ∧
    (∀ u : Uri, (((twoKeyRegistry.pruneStaleDroplets false 25).byURI.Find u.RouteKey).map
        (·.endpoints)).getD [] =
      (((twoKeyRegistry.byURI.Find u.RouteKey).map (·.endpoints)).getD []).filter
        (fun x => !decide (x.updatedAt + x.endpoint.staleThreshold < 25))) ∧
    (∀ P q, twoKeyRegistry.byURI.findPool P = some q → (q.PruneEndpoints 25).1.IsEmpty = false →
      ∀ P', P' <+: P → ((twoKeyRegistry.pruneStaleDroplets false 25).byURI.get P').isSome) :=
  ⟨by decide, pruneStaleDroplets_prunes_each_pool twoKeyRegistry 25 (by decide)⟩

/-! ## The suspension state machine -/

/-- Every endpoint of `r` is still in the pool at its path in `r'`. -/
def KeepsEndpoints (r r' : RouteRegistry) : Prop :=
  ∀ P q, r.byURI.findPool P = some q →
    ∀ e ∈ q.endpointList, ∃ q', r'.byURI.findPool P = some q' ∧ e ∈ q'.endpointList

@[simp] theorem RouteRegistry.pruningStatus_Register (r : RouteRegistry) (uri : Uri) (e : Endpoint)
    (now : Int) : (r.Register uri e now).pruningStatus = r.pruningStatus := by
  unfold RouteRegistry.Register; split_ifs <;> simp

@[simp] theorem RouteRegistry.pruningStatus_Unregister (r : RouteRegistry) (uri : Uri) (e : Endpoint)
    (now : Int) : (r.Unregister uri e now).pruningStatus = r.pruningStatus := by
  unfold RouteRegistry.Unregister; split_ifs <;> simp

/-- Only ticks write `pruningStatus`. -/
theorem RouteRegistry.pruningStatus_run_of_no_tick (r : RouteRegistry) (calls : List Call)
    (h : ∀ c ∈ calls, c.isTick = false) : (r.run calls).pruningStatus = r.pruningStatus := by
  induction calls generalizing r with
  | nil => rfl
  | cons c cs ih =>
    rw [RouteRegistry.run_cons, ih _ fun c' hc' => h c' (List.mem_cons_of_mem _ hc')]
    cases c with
    | Register => simp [RouteRegistry.step]
    | Unregister => simp [RouteRegistry.step]
    | prune => simp [Call.isTick] at h

/-- Freshened at the tick's own clock, no endpoint with a positive threshold
is stale. -/
theorem PruneEndpoints_MarkUpdated (q : EndpointPool) (now : Int)
    (hpos : ∀ x ∈ q.endpoints, 0 < x.endpoint.staleThreshold) :
    ((q.MarkUpdated now).PruneEndpoints now).1.endpointList = q.endpointList := by
  have hkeep : ((q.MarkUpdated now).endpoints.filter fun x => !x.isStale now) =
      (q.MarkUpdated now).endpoints := by
    refine List.filter_eq_self.mpr fun x hx => ?_
    obtain ⟨y, hy, rfl⟩ := List.mem_map.mp hx
    simp [EndpointPool.not_isStale_MarkUpdated hx (le_of_lt (hpos y hy))]
  rw [EndpointPool.endpointList, EndpointPool.PruneEndpoints_endpoints, hkeep,
    EndpointPool.MarkUpdated_endpoints, List.map_map]
  rfl

/-- The reconnection tick: from a registry the last tick left disconnected,
a tick removes no endpoint with a positive threshold. -/
theorem KeepsEndpoints_pruneStaleDroplets_of_disconnected (r : RouteRegistry) (s : Bool) (now : Int)
    (hd : r.pruningStatus = .DISCONNECTED)
    (hpos : ∀ P q, r.byURI.findPool P = some q → ∀ x ∈ q.endpoints, 0 < x.endpoint.staleThreshold) :
    KeepsEndpoints r (r.pruneStaleDroplets s now) := by
  intro P q hq e he
  cases s with
  | true => exact ⟨q, hq, he⟩
  | false =>
    have hstart : (r.tickStart now).byURI.findPool P = some (q.MarkUpdated now) := by
      simp [RouteRegistry.tickStart, hd, RouteRegistry.findPool_freshenRoutes, hq]
    have hlist := PruneEndpoints_MarkUpdated q now (hpos P q hq)
    rw [RouteRegistry.byURI_pruneStaleDroplets]
    rcases findPool_walkRoot _ (r.emptyPoolRemovable · now) (r.tickStart now).byURI_wf P with
      h | ⟨-, hempty⟩
    · exact ⟨_, by rw [h, hstart]; rfl, hlist ▸ he⟩
    · have := (EndpointPool.IsEmpty_iff_endpointList _).mp (hempty _ hstart)
      rw [hlist] at this
      simp [this] at he

theorem prune_keeps_endpoints_while_disconnected :
    (∀ (r : RouteRegistry) (now : Int), KeepsEndpoints r (r.pruneStaleDroplets true now)) ∧
    ∀ (r : RouteRegistry) (pre mid : List Call) (t : Int), (∀ c ∈ mid, c.isTick = false) →
      let r' := r.run (pre ++ .prune true t :: mid)
      (∀ P q, r'.byURI.findPool P = some q → ∀ x ∈ q.endpoints, 0 < x.endpoint.staleThreshold) →
      ∀ (s : Bool) (now : Int), KeepsEndpoints r' (r'.pruneStaleDroplets s now) := by
  refine ⟨fun r now P q hq e he => ⟨q, hq, he⟩, fun r pre mid t hmid hpos s now => ?_⟩
  refine KeepsEndpoints_pruneStaleDroplets_of_disconnected _ s now ?_ hpos
  rw [RouteRegistry.run_append, RouteRegistry.run_cons,
    RouteRegistry.pruningStatus_run_of_no_tick _ _ hmid]
  simp [RouteRegistry.step]

/-- `a.com` registered, a suspended tick at 1, then `a.com/foo` registered. -/
def suspendedPre : List Call := [.Register "a.com".toList (sampleEndpoint "10.0.0.1:8080" 10) 0]

def suspendedMid : List Call := [.Register "a.com/foo".toList (sampleEndpoint "10.0.0.2:8080" 10) 5]

theorem prune_keeps_endpoints_while_disconnected_sample :
    (∀ c ∈ suspendedMid, c.isTick = false) ∧
    (∀ P q, ((NewRouteRegistry (sampleConfig false 0)).run
        (suspendedPre ++ .prune true 1 :: suspendedMid)).byURI.findPool P = some q →
      ∀ x ∈ q.endpoints, 0 < x.endpoint.staleThreshold) ∧
    ∀ (s : Bool) (now : Int),
      KeepsEndpoints ((NewRouteRegistry (sampleConfig false 0)).run
          (suspendedPre ++ .prune true 1 :: suspendedMid))
        (((NewRouteRegistry (sampleConfig false 0)).run
          (suspendedPre ++ .prune true 1 :: suspendedMid)).pruneStaleDroplets s now) := by
  have hmid : ∀ c ∈ suspendedMid, c.isTick = false := by decide
  have hpos := AllStored.pos_of_nonneg (sampleConfig false 0) (by decide)
    (suspendedPre ++ .prune true 1 :: suspendedMid) (Call.nonneg_of_registersNegative (by decide))
  exact ⟨hmid, hpos, prune_keeps_endpoints_while_disconnected.2 _ _ _ _ hmid hpos⟩

/-! ## Two ticks at one clock

A connected tick leaves a trie that its own walk leaves as it is
(`walkRoot_walkRoot`, as a second `PruneEndpoints` at the same clock removes
nothing), and the tick writes nothing else that a second tick would change. -/

/-- Registries are equal when their fields are; the invariants are proofs. -/
theorem RouteRegistry.eq_of_fields {r r' : RouteRegistry} (hb : r.byURI = r'.byURI)
    (hs : r.pruningStatus = r'.pruningStatus) (hc : r.config = r'.config)
    (ht : r.timeOfLastUpdate = r'.timeOfLastUpdate) (hn : r.nextPoolId = r'.nextPoolId) : r = r' := by
  cases r; cases r'
  simp only [RouteRegistry.config, Config.mk.injEq] at hc
  obtain ⟨h1, h2, h3, h4, h5, h6, h7⟩ := hc
  subst_vars
  rfl

/-- A connected tick on a trie that its walk leaves as it is changes nothing. -/
theorem RouteRegistry.pruneStaleDroplets_eq_self {r : RouteRegistry} {now : Int}
    (hc : r.pruningStatus = .CONNECTED)
    (hw : walkRoot (fun pool => (pool.PruneEndpoints now).1) (r.emptyPoolRemovable · now) r.byURI =
      r.byURI) :
    r.pruneStaleDroplets false now = r := by
  have ht := tickStart_of_connected hc now
  refine eq_of_fields ?_ (by simp [hc]) (config_pruneStaleDroplets r false now) ?_ ?_
  · rw [byURI_pruneStaleDroplets, ht, hw]
  · show (r.tickStart now).timeOfLastUpdate = _
    rw [ht]
  · show (r.tickStart now).nextPoolId = _
    rw [ht]

theorem prune_twice_idempotent (r : RouteRegistry) (now : Int) :
    (r.pruneStaleDroplets false now).pruneStaleDroplets false now = r.pruneStaleDroplets false now ∧
    ∀ P q, (r.pruneStaleDroplets false now).byURI.findPool P = some q → (q.PruneEndpoints now).2 = [] := by
  have hf : ∀ q : EndpointPool, ((q.PruneEndpoints now).1.PruneEndpoints now).1 = (q.PruneEndpoints now).1 :=
    fun q => by rw [EndpointPool.PruneEndpoints_PruneEndpoints]
  have hrem := RouteRegistry.emptyPoolRemovable_congr (RouteRegistry.config_pruneStaleDroplets r false now)
  refine ⟨RouteRegistry.pruneStaleDroplets_eq_self (by simp) ?_, fun P q hq => ?_⟩
  · rw [hrem, RouteRegistry.byURI_pruneStaleDroplets]
    exact walkRoot_walkRoot hf _
  · rw [RouteRegistry.byURI_pruneStaleDroplets] at hq
    rcases findPool_walkRoot _ (r.emptyPoolRemovable · now) (r.tickStart now).byURI_wf P with h | ⟨h, -⟩
    · obtain ⟨q0, -, rfl⟩ := Option.map_eq_some'.mp (hq.symm.trans h).symm
      simp [EndpointPool.PruneEndpoints_PruneEndpoints]
    · simp [hq] at h

end Gorouter.Registry
